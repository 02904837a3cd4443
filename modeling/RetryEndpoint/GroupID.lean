import RetryEndpoint.Settings

/-! Which texts are a multicast group id. The base is settled by whether the text is
a decimal number below 65536, so a larger one is tried in base 16 too; read there its
digits mean no less, and it is refused again. -/
namespace RetryEndpoint.GroupID
open BigEndian Texts Settings

def decimalDigit (c : UInt8) : Bool := 0x30 ≤ c && c ≤ 0x39
def hexLetter (c : UInt8) : Bool := 0x61 ≤ c && c ≤ 0x66 || 0x41 ≤ c && c ≤ 0x46
def hexDigit (c : UInt8) : Bool := decimalDigit c || hexLetter c

inductive Numeral : Bytes → Nat → Prop where
  | marked {x : UInt8} {digits : Bytes} (mark : x = 0x78 ∨ x = 0x58) (nonempty : digits ≠ [])
      (hex : ∀ c ∈ digits, hexDigit c = true) (bound : value 16 digits ≤ 0xFFFF) :
      Numeral (0x30 :: x :: digits) (value 16 digits)
  | decimal {digits : Bytes} (nonempty : digits ≠ []) (all : ∀ c ∈ digits, decimalDigit c = true)
      (bound : value 10 digits ≤ 65535) : Numeral digits (value 10 digits)
  | hex {digits : Bytes} (nonempty : digits ≠ []) (all : ∀ c ∈ digits, hexDigit c = true)
      (letter : ∃ c ∈ digits, hexLetter c = true) (bound : value 16 digits ≤ 0xFFFF) :
      Numeral digits (value 16 digits)

theorem isDigitTen : ∀ c, isDigit 10 c = decimalDigit c := by decide +kernel
theorem isDigitSixteen : ∀ c, isDigit 16 c = hexDigit c := by decide +kernel
theorem letterNotDecimal : ∀ c, hexLetter c = true → decimalDigit c = false := by decide +kernel
theorem lowerX : ∀ c, toLower c = 0x78 ↔ c = 0x78 ∨ c = 0x58 := by decide +kernel
theorem lowerZero : ∀ c, toLower c = 0x30 ↔ c = 0x30 := by decide +kernel
theorem markNotHex : ∀ c, c = 0x78 ∨ c = 0x58 → hexDigit c = false := by decide +kernel

theorem hexPrefixIff (s : Bytes) :
    hasHexPrefix s = true ↔ ∃ x digits, (x = 0x78 ∨ x = 0x58) ∧ s = 0x30 :: x :: digits := by
  have mark : utf8 "0x" = [0x30, 0x78] := by decide
  rw [hasHexPrefix, mark]
  match s with
  | [] => simp
  | [a] => simp
  | a :: x :: digits =>
    simp only [List.map_cons, List.isPrefixOf_cons_cons, List.isPrefixOf_nil_left, Bool.and_eq_true, beq_iff_eq,
      Bool.and_true]
    constructor
    · rintro ⟨zero, ex⟩
      exact ⟨x, digits, (lowerX x).mp ex.symm, by rw [(lowerZero a).mp zero.symm]⟩
    · rintro ⟨y, rest, mark, same⟩
      cases same
      exact ⟨((lowerZero _).mpr rfl).symm, ((lowerX _).mpr mark).symm⟩

section Reading
variable {s digits : Bytes} {v : Nat}

theorem readsTen : parseUint s 10 16 = .ok v ↔
    s ≠ [] ∧ (∀ c ∈ s, decimalDigit c = true) ∧ value 10 s < 65536 ∧ value 10 s = v := by
  rw [parseUintIff (by decide) (by decide) (by decide)]
  simp only [isDigitTen, Nat.reducePow]

theorem readsSixteen : parseUint s 16 16 = .ok v ↔
    s ≠ [] ∧ (∀ c ∈ s, hexDigit c = true) ∧ value 16 s < 65536 ∧ value 16 s = v := by
  rw [parseUintIff (by decide) (by decide) (by decide)]
  simp only [isDigitSixteen, Nat.reducePow]

theorem narrowed {base : Nat} (read : parseUint s base 16 = .ok v) (two : 2 ≤ base) (most : base ≤ 36) :
    (UInt16.ofNat v).toNat = v := by
  obtain ⟨-, -, bound, rfl⟩ := (parseUintIff two most (by decide) s v).mp read
  exact UInt16.toNat_ofNat_of_lt' bound

theorem chosenBase (s : Bytes) : 2 ≤ (chooseBase s).2 ∧ (chooseBase s).2 ≤ 36 := by
  unfold chooseBase
  split
  · exact ⟨by simp, by simp⟩
  · split <;> exact ⟨by simp, by simp⟩

theorem parsedIff (nonempty : trimSpace s ≠ []) : (parseGroupID s).map UInt16.toNat = .ok v ↔
    parseUint (chooseBase (trimSpace s)).1 (chooseBase (trimSpace s)).2 16 = .ok v := by
  obtain ⟨two, most⟩ := chosenBase (trimSpace s)
  simp only [parseGroupID, if_neg nonempty]
  cases read : parseUint (chooseBase (trimSpace s)).1 (chooseBase (trimSpace s)).2 16 with
  | error err => exact ⟨nofun, nofun⟩
  | ok n =>
    simp only [Except.map, narrowed read two most, Except.ok.injEq]

theorem numeralNonempty (h : Numeral s v) : s ≠ [] := by
  cases h with
  | marked => exact List.cons_ne_nil _ _
  | decimal nonempty | hex nonempty => exact nonempty

theorem decimalNumeral (all : ∀ c ∈ s, decimalDigit c = true) (h : Numeral s v) :
    v = value 10 s ∧ v ≤ 65535 := by
  cases h with
  | marked mark =>
    have here := all _ (List.mem_cons_of_mem _ List.mem_cons_self)
    have notHex := markNotHex _ mark
    rw [hexDigit, here] at notHex
    cases notHex
  | decimal nonempty all bound => exact ⟨rfl, bound⟩
  | hex nonempty _ letter bound =>
    obtain ⟨c, mem, isLetter⟩ := letter
    have here := all c mem
    rw [letterNotDecimal c isLetter] at here
    cases here

theorem markedNumeral {x : UInt8} (mark : x = 0x78 ∨ x = 0x58) : Numeral (0x30 :: x :: digits) v ↔
    digits ≠ [] ∧ (∀ c ∈ digits, hexDigit c = true) ∧ value 16 digits < 65536 ∧ value 16 digits = v := by
  have notHex := markNotHex x mark
  constructor
  · intro h
    cases h with
    | marked _ nonempty hex bound => exact ⟨nonempty, hex, by omega, rfl⟩
    | decimal _ all bound =>
      rw [hexDigit, all x (by simp)] at notHex
      cases notHex
    | hex _ all letter bound =>
      rw [all x (by simp)] at notHex
      cases notHex
  · rintro ⟨nonempty, hex, bound, rfl⟩
    exact .marked mark nonempty hex (by omega)

theorem hexNumeral (unmarked : hasHexPrefix s ≠ true) (notTen : ∀ n, parseUint s 10 16 ≠ .ok n) :
    Numeral s v ↔
      s ≠ [] ∧ (∀ c ∈ s, hexDigit c = true) ∧ value 16 s < 65536 ∧ value 16 s = v := by
  constructor
  · intro h
    cases h with
    | marked mark => exact absurd ((hexPrefixIff _).mpr ⟨_, _, mark, rfl⟩) unmarked
    | decimal nonempty all bound =>
      exact absurd (readsTen.mpr ⟨nonempty, all, by omega, rfl⟩) (notTen _)
    | hex nonempty all letter bound => exact ⟨nonempty, all, by omega, rfl⟩
  · rintro ⟨nonempty, all, bound, rfl⟩
    refine .hex nonempty all ?_ (by omega)
    by_contra noLetter
    have decimal : ∀ c ∈ s, decimalDigit c = true := by
      intro c mem
      rcases Bool.or_eq_true_iff.mp (all c mem) with digit | letter
      · exact digit
      · exact absurd ⟨c, mem, letter⟩ noLetter
    have more : value 10 s ≤ value 16 s := valueMono (by decide) s
    exact notTen _ (readsTen.mpr ⟨nonempty, decimal, by omega, rfl⟩)

theorem numeralIff (nonempty : s ≠ []) :
    parseUint (chooseBase s).1 (chooseBase s).2 16 = .ok v ↔ Numeral s v := by
  by_cases marked : hasHexPrefix s = true
  · obtain ⟨x, digits, mark, rfl⟩ := (hexPrefixIff s).mp marked
    rw [chooseBase, if_pos marked, markedNumeral mark]
    exact readsSixteen
  · simp only [chooseBase, if_neg marked]
    cases tenth : parseUint s 10 16 with
    | ok n =>
      obtain ⟨-, all, bound, rfl⟩ := readsTen.mp tenth
      dsimp only
      rw [tenth]
      constructor
      · rintro ⟨⟩
        exact .decimal nonempty all (by omega)
      · intro h
        rw [(decimalNumeral all h).1]
    | error err =>
      have notTen : ∀ n, parseUint s 10 16 ≠ .ok n := by
        intro n ok
        rw [tenth] at ok
        cases ok
      rw [hexNumeral marked notTen]
      exact readsSixteen

end Reading

/-- A text is accepted, with an id, exactly when what trimming leaves of it is that
id in the grammar: marked hexadecimal, decimal, or hexadecimal with a letter. A
decimal number that is too large is refused. -/
theorem groupIDGrammar (s : Bytes) :
    Trimmed s (trimSpace s) ∧
    (∀ v, (parseGroupID s).map UInt16.toNat = .ok v ↔ Numeral (trimSpace s) v) ∧
    ((∀ c ∈ trimSpace s, decimalDigit c = true) →
      (∀ v, parseGroupID s = .ok v → v.toNat = value 10 (trimSpace s)) ∧
      (65535 < value 10 (trimSpace s) → ∃ err, parseGroupID s = .error err)) := by
  have grammar : ∀ v, (parseGroupID s).map UInt16.toNat = .ok v ↔ Numeral (trimSpace s) v := by
    intro v
    by_cases empty : trimSpace s = []
    · rw [parseGroupID, if_pos empty]
      exact ⟨nofun, fun h => absurd empty (numeralNonempty h)⟩
    · rw [parsedIff empty, numeralIff empty]
  have inDecimal : (∀ c ∈ trimSpace s, decimalDigit c = true) → ∀ v, parseGroupID s = .ok v →
      v.toNat = value 10 (trimSpace s) ∧ v.toNat ≤ 65535 := by
    intro all v ok
    have read := (grammar v.toNat).mp (by rw [ok]; rfl)
    exact decimalNumeral all read
  refine ⟨trimmed s, grammar, fun all => ⟨fun v ok => (inDecimal all v ok).1, ?_⟩⟩
  intro large
  cases parsed : parseGroupID s with
  | error err => exact ⟨err, rfl⟩
  | ok v =>
    obtain ⟨same, small⟩ := inDecimal all v parsed
    omega

example : parseGroupID (utf8 " 00bE\n") = .ok 0xBE ∧
    parseGroupID (utf8 "065536") = .error (.parse (utf8 "065536") .outOfRange) := by decide

end RetryEndpoint.GroupID
