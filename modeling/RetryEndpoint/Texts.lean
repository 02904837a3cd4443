import RetryEndpoint.BigEndian
import Mathlib.Data.FinEnum
import Mathlib.Data.Nat.Digits.Defs

/-! Byte strings as text: the white space at their ends, and numbers written in
digits. A number is read from the left into a machine word and given up as soon as
it leaves its width, before the rest of the string is looked at. -/
namespace RetryEndpoint.Texts
open BigEndian

def utf8 (s : String) : Bytes := s.toList.flatMap String.utf8EncodeChar

/- The characters of so many bytes. A byte that begins none is read as U+FFFD. -/
def runes : Nat → Bytes → List Char
  | 0, _ => []
  | n + 1, s =>
    if s = [] then []
    else match s.toByteArray.utf8DecodeChar? 0 with
      | some c => c :: runes n (s.drop c.utf8Size)
      | none => Char.ofNat 0xFFFD :: runes n (s.drop 1)

def text (s : Bytes) : String := String.ofList (runes s.length s)

theorem runesEncoded (cs : List Char) (n : Nat) (enough : (cs.flatMap String.utf8EncodeChar).length ≤ n) :
    runes n (cs.flatMap String.utf8EncodeChar) = cs := by
  induction cs generalizing n with
  | nil => cases n <;> rfl
  | cons c rest ih =>
    have size : (String.utf8EncodeChar c).length = c.utf8Size := String.length_utf8EncodeChar c
    have positive := c.utf8Size_pos
    rw [List.flatMap_cons, List.length_append] at enough
    cases n with
    | zero => omega
    | succ n =>
      have solid : String.utf8EncodeChar c ++ rest.flatMap String.utf8EncodeChar ≠ [] := by
        rw [← List.length_pos_iff, List.length_append]
        omega
      have first : (String.utf8EncodeChar c ++ rest.flatMap String.utf8EncodeChar).toByteArray.utf8DecodeChar? 0 =
          some c := by
        rw [List.toByteArray_append]
        exact ByteArray.utf8DecodeChar?_utf8EncodeChar_append
      rw [List.flatMap_cons, runes, if_neg solid, first]
      dsimp only
      rw [← size, List.drop_left, ih n (by omega)]

theorem textUtf8 (s : String) : text (utf8 s) = s := by
  rw [text, utf8, runesEncoded _ _ (Nat.le_refl _), String.ofList_toList]

def spaceRunes : List Nat :=
  [0x09, 0x0A, 0x0B, 0x0C, 0x0D, 0x20, 0x85, 0xA0, 0x1680] ++ List.range' 0x2000 11 ++
    [0x2028, 0x2029, 0x202F, 0x205F, 0x3000]

def whiteSpace : List Bytes := spaceRunes.map fun r => String.utf8EncodeChar (Char.ofNat r)

def stripOne (words : List Bytes) (s : Bytes) : Bytes :=
  match words.find? (·.isPrefixOf s) with
  | none => s
  | some w => s.drop w.length

def strip (words : List Bytes) (s : Bytes) : Bytes := (stripOne words)^[s.length] s

def trimLeft (s : Bytes) : Bytes := strip whiteSpace s
def trimRight (s : Bytes) : Bytes := (strip (whiteSpace.map List.reverse) s.reverse).reverse

/- strings.TrimSpace. A string that is not UTF-8 is trimmed alike: no other byte is
part of a white-space character, read from either end. -/
def trimSpace (s : Bytes) : Bytes := trimRight (trimLeft s)

section Strip
variable {words : List Bytes} {s : Bytes}

theorem stripOneSplit (words : List Bytes) (s : Bytes) :
    (∀ w ∈ words, ¬ w <+: s) ∧ stripOne words s = s ∨ ∃ w ∈ words, s = w ++ stripOne words s := by
  unfold stripOne
  split
  · rename_i none
    refine .inl ⟨?_, rfl⟩
    intro w mem starts
    have := List.find?_eq_none.mp none w mem
    exact this (List.isPrefixOf_iff_prefix.mpr starts)
  · rename_i w found
    have starts : w.isPrefixOf s = true := by simpa using List.find?_some found
    refine .inr ⟨w, List.mem_of_find?_eq_some found, ?_⟩
    exact (List.prefix_iff_eq_append.mp (List.isPrefixOf_iff_prefix.mp starts)).symm

theorem stripSplit (solid : ∀ w ∈ words, w ≠ []) (s : Bytes) :
    (∃ taken : List Bytes, (∀ w ∈ taken, w ∈ words) ∧ s = taken.flatten ++ strip words s) ∧
      ∀ w ∈ words, ¬ w <+: strip words s := by
  suffices all : ∀ n (s : Bytes), s.length ≤ n →
      (∃ taken : List Bytes, (∀ w ∈ taken, w ∈ words) ∧ s = taken.flatten ++ (stripOne words)^[n] s) ∧
        ∀ w ∈ words, ¬ w <+: (stripOne words)^[n] s from all s.length s (Nat.le_refl _)
  intro n
  induction n with
  | zero =>
    intro s short
    cases List.length_eq_zero_iff.mp (Nat.le_zero.mp short)
    exact ⟨⟨[], by simp, rfl⟩, fun w mem starts => solid w mem (List.prefix_nil.mp starts)⟩
  | succ n ih =>
    intro s short
    rw [Function.iterate_succ_apply]
    rcases stripOneSplit words s with ⟨clean, same⟩ | ⟨w, mem, split⟩
    · have still : (stripOne words)^[n] s = s := Function.iterate_fixed same n
      rw [same, still]
      exact ⟨⟨[], by simp, rfl⟩, clean⟩
    · have long : s.length = w.length + (stripOne words s).length := by
        conv_lhs => rw [split, List.length_append]
      have some : 0 < w.length := List.length_pos_iff.mpr (solid w mem)
      obtain ⟨⟨taken, from', rest⟩, clean⟩ := ih (stripOne words s) (by omega)
      refine ⟨⟨w :: taken, ?_, ?_⟩, clean⟩
      · intro v inside
        rcases List.mem_cons.mp inside with rfl | later
        · exact mem
        · exact from' v later
      · rw [List.flatten_cons, List.append_assoc, ← rest, ← split]

end Strip

structure Trimmed (s t : Bytes) : Prop where
  around : ∃ left right : List Bytes, (∀ w ∈ left, w ∈ whiteSpace) ∧ (∀ w ∈ right, w ∈ whiteSpace) ∧
    s = left.flatten ++ t ++ right.flatten
  front : ∀ w ∈ whiteSpace, ¬ w <+: t
  back : ∀ w ∈ whiteSpace, ¬ w <:+ t

theorem whiteSpaceSolid : ∀ w ∈ whiteSpace, w ≠ [] := by decide

theorem trimRightSplit (s : Bytes) :
    (∃ right : List Bytes, (∀ w ∈ right, w ∈ whiteSpace) ∧ s = trimRight s ++ right.flatten) ∧
      ∀ w ∈ whiteSpace, ¬ w <:+ trimRight s := by
  have solid : ∀ w ∈ whiteSpace.map List.reverse, w ≠ [] := by
    intro w mem
    obtain ⟨v, inside, rfl⟩ := List.mem_map.mp mem
    exact fun e => whiteSpaceSolid v inside (List.reverse_eq_nil_iff.mp e)
  obtain ⟨⟨taken, from', split⟩, clean⟩ := stripSplit solid s.reverse
  refine ⟨⟨(taken.map List.reverse).reverse, ?_, ?_⟩, ?_⟩
  · intro w mem
    obtain ⟨v, inside, rfl⟩ := List.mem_map.mp (List.mem_reverse.mp mem)
    obtain ⟨u, white, rfl⟩ := List.mem_map.mp (from' v inside)
    rwa [List.reverse_reverse]
  · rw [← List.reverse_flatten, trimRight, ← List.reverse_append, ← split, List.reverse_reverse]
  · intro w mem ends
    apply clean w.reverse (List.mem_map_of_mem mem)
    rw [← List.reverse_suffix, List.reverse_reverse]
    exact ends

theorem trimmed (s : Bytes) : Trimmed s (trimSpace s) := by
  obtain ⟨⟨left, whiteLeft, splitLeft⟩, front⟩ := stripSplit whiteSpaceSolid s
  obtain ⟨⟨right, whiteRight, splitRight⟩, back⟩ := trimRightSplit (trimLeft s)
  refine ⟨⟨left, right, whiteLeft, whiteRight, ?_⟩, ?_, back⟩
  · rw [List.append_assoc, trimSpace, ← splitRight]
    exact splitLeft
  · intro w mem starts
    apply front w mem
    have inside : trimSpace s <+: trimLeft s := ⟨right.flatten, splitRight.symm⟩
    exact starts.trans inside

def lower (c : UInt8) : UInt8 := c ||| 0x20

def digit (c : UInt8) : Option Nat :=
  if 0x30 ≤ c ∧ c ≤ 0x39 then some (c - 0x30).toNat
  else if 0x61 ≤ lower c ∧ lower c ≤ 0x7A then some ((lower c - 0x61).toNat + 10)
  else none

inductive NumErr where | badSyntax | outOfRange deriving DecidableEq, Repr

def word : Nat := 2 ^ 64

def readDigits (base maxVal : Nat) : Bytes → Nat → Except NumErr Nat
  | [], n => .ok n
  | c :: rest, n =>
    match digit c with
    | none => .error .badSyntax
    | some d =>
      if d ≥ base then .error .badSyntax
      else if n ≥ (word - 1) / base + 1 then .error .outOfRange
      else
        let n := n * base % word
        let n1 := (n + d) % word
        if n1 < n ∨ n1 > maxVal then .error .outOfRange else readDigits base maxVal rest n1

/- strconv.ParseUint for a base from 2 to 36 and a size from 1 to 64. -/
def parseUint (s : Bytes) (base bitSize : Nat) : Except NumErr Nat :=
  if s = [] then .error .badSyntax else readDigits base (2 ^ bitSize - 1) s 0

def numeral (c : UInt8) : Nat := (digit c).getD 0
def value (base : Nat) (s : Bytes) : Nat := Nat.ofDigits base (s.map numeral).reverse

def isDigit (base : Nat) (c : UInt8) : Bool := (digit c).any (· < base)

theorem valueSnoc (base : Nat) (s : Bytes) (c : UInt8) :
    value base (s ++ [c]) = value base s * base + numeral c := by
  simp only [value, List.map_append, List.map_singleton, List.reverse_append, List.reverse_singleton,
    List.singleton_append, Nat.ofDigits_cons]
  rw [Nat.mul_comm, Nat.add_comm]

theorem valueGrows {base : Nat} (positive : 0 < base) (s more : Bytes) :
    value base s ≤ value base (s ++ more) := by
  simp only [value, List.map_append, List.reverse_append, Nat.ofDigits_append]
  have scale := Nat.le_mul_of_pos_left (Nat.ofDigits base (s.map numeral).reverse)
    (Nat.pow_pos positive : 0 < base ^ (more.map numeral).reverse.length)
  omega

theorem valueMono {base larger : Nat} (order : base ≤ larger) (s : Bytes) : value base s ≤ value larger s :=
  Nat.ofDigits_monotone _ order

section Reading
variable {base maxVal n d : Nat} {c : UInt8}

/- One digit more: the tests for overflow of the word catch nothing that is not
past the width already, and everything that is. -/
theorem readDigit (two : 2 ≤ base) (most : base ≤ 36) (width : maxVal < word) (found : digit c = some d)
    (inBase : d < base) (rest : Bytes) :
    readDigits base maxVal (c :: rest) n =
      if n * base + d ≤ maxVal then readDigits base maxVal rest (n * base + d) else .error .outOfRange := by
  have wide : 36 < word := by decide
  simp only [readDigits, found, if_neg (Nat.not_le.mpr inBase)]
  by_cases large : n ≥ (word - 1) / base + 1
  · have past : word - 1 < n * base := (Nat.div_lt_iff_lt_mul (by omega)).mp large
    rw [if_pos large, if_neg (by omega)]
  · have fits : n * base ≤ word - 1 := (Nat.le_div_iff_mul_le (by omega)).mp (by omega)
    rw [if_neg large, Nat.mod_eq_of_lt (by omega : n * base < word)]
    by_cases wraps : n * base + d < word
    · rw [Nat.mod_eq_of_lt wraps]
      by_cases fine : n * base + d ≤ maxVal
      · rw [if_pos fine, if_neg (by omega)]
      · rw [if_neg fine, if_pos (by omega)]
    · -- the sum comes round to less than it started from
      have round : (n * base + d) % word = n * base + d - word := by
        rw [Nat.mod_eq_sub_mod (by omega), Nat.mod_eq_of_lt (by omega)]
      rw [round, if_pos (by omega), if_neg (by omega)]

theorem numeralOf (found : digit c = some d) : numeral c = d := by rw [numeral, found, Option.getD_some]

theorem readDigitsIff (two : 2 ≤ base) (most : base ≤ 36) (width : maxVal < word) (rest done : Bytes)
    (small : value base done ≤ maxVal) (v : Nat) :
    readDigits base maxVal rest (value base done) = .ok v ↔
      (∀ c ∈ rest, isDigit base c = true) ∧ value base (done ++ rest) ≤ maxVal ∧
        value base (done ++ rest) = v := by
  induction rest generalizing done with
  | nil => simp [readDigits, small]
  | cons c rest ih =>
    cases found : digit c with
    | none => simp [readDigits, found, isDigit]
    | some d =>
      by_cases inBase : d < base
      · have next : value base done * base + d = value base (done ++ [c]) := by
          rw [valueSnoc, numeralOf found]
        have whole : done ++ c :: rest = (done ++ [c]) ++ rest := by simp
        have here : isDigit base c = true := by simp [isDigit, found, inBase]
        rw [readDigit two most width found inBase, next, whole]
        by_cases fits : value base (done ++ [c]) ≤ maxVal
        · rw [if_pos fits, ih (done ++ [c]) fits, List.forall_mem_cons]
          simp only [here, true_and]
        · have grows := valueGrows (by omega : 0 < base) (done ++ [c]) rest
          rw [if_neg fits]
          refine ⟨nofun, ?_⟩
          rintro ⟨-, fine, -⟩
          omega
      · have not : isDigit base c = false := by simp [isDigit, found, inBase]
        simp only [readDigits, found, if_pos (Nat.not_lt.mp inBase), List.forall_mem_cons, not]
        refine ⟨nofun, ?_⟩
        rintro ⟨⟨wrong, -⟩, -⟩
        cases wrong

end Reading

theorem parseUintIff {base bitSize : Nat} (two : 2 ≤ base) (most : base ≤ 36) (size : bitSize ≤ 64)
    (s : Bytes) (v : Nat) :
    parseUint s base bitSize = .ok v ↔
      s ≠ [] ∧ (∀ c ∈ s, isDigit base c = true) ∧ value base s < 2 ^ bitSize ∧ value base s = v := by
  have bound : 2 ^ bitSize ≤ word := Nat.pow_le_pow_right (by decide) size
  have positive : 0 < 2 ^ bitSize := Nat.pow_pos (by decide)
  unfold parseUint
  by_cases empty : s = []
  · rw [if_pos empty]
    exact ⟨nofun, fun h => absurd empty h.1⟩
  · have start := readDigitsIff two most (by omega : 2 ^ bitSize - 1 < word) s [] (Nat.zero_le _) v
    rw [if_neg empty, show (0 : Nat) = value base [] from rfl, start, List.nil_append]
    refine ⟨fun h => ⟨empty, h.1, by omega, h.2.2⟩, fun h => ⟨h.2.1, by omega, h.2.2.2⟩⟩

end RetryEndpoint.Texts
