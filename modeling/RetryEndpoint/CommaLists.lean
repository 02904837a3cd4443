import RetryEndpoint.Texts
import Mathlib.Data.List.Basic

/-! Lists written with commas: the pieces between the commas without the white space
around them, and the empty ones left out. Reading is stable: what it gives, written
with commas again, is read as the same list. -/
namespace RetryEndpoint.CommaLists
open BigEndian Texts

def comma : UInt8 := 0x2C

def tokens (s : Bytes) : List Bytes := ((s.splitOn comma).map trimSpace).filter (· ≠ [])

def joined (ts : List Bytes) : Bytes := [comma].intercalate ts

structure Token (t : Bytes) : Prop where
  nonempty : t ≠ []
  whole : comma ∉ t
  trimmed : trimSpace t = t

section Trimming
variable {words : List Bytes} {s t : Bytes}

theorem stripClean (clean : ∀ w ∈ words, ¬ w <+: s) : strip words s = s := by
  have once : stripOne words s = s := by
    rcases stripOneSplit words s with ⟨-, same⟩ | ⟨w, mem, split⟩
    · exact same
    · exact absurd ⟨_, split.symm⟩ (clean w mem)
  exact Function.iterate_fixed once _

theorem trimClean (front : ∀ w ∈ whiteSpace, ¬ w <+: s) (back : ∀ w ∈ whiteSpace, ¬ w <:+ s) :
    trimSpace s = s := by
  have turned : ∀ w ∈ whiteSpace.map List.reverse, ¬ w <+: s.reverse := by
    intro w mem starts
    obtain ⟨v, white, rfl⟩ := List.mem_map.mp mem
    exact back v white (List.reverse_prefix.mp starts)
  rw [trimSpace, trimLeft, stripClean front, trimRight, stripClean turned, List.reverse_reverse]

theorem trimTwice (s : Bytes) : trimSpace (trimSpace s) = trimSpace s :=
  trimClean (trimmed s).front (trimmed s).back

theorem trimInside {c : UInt8} (mem : c ∈ trimSpace s) : c ∈ s := by
  obtain ⟨left, right, -, -, split⟩ := (trimmed s).around
  rw [split]
  exact List.mem_append_left _ (List.mem_append_right _ mem)

end Trimming

section Reading
variable {s p : Bytes} {ts : List Bytes}

theorem pieceWhole (mem : p ∈ s.splitOn comma) : comma ∉ p := by
  induction s generalizing p with
  | nil =>
    rw [List.splitOn_nil, List.mem_singleton] at mem
    rw [mem]
    exact List.not_mem_nil
  | cons c rest ih =>
    rw [List.splitOn_cons_eq_if_modifyHead] at mem
    split at mem
    · rcases List.mem_cons.mp mem with rfl | later
      · exact List.not_mem_nil
      · exact ih later
    · rename_i other
      -- c goes to the front of the first piece of the rest
      cases pieces : rest.splitOn comma with
      | nil => exact absurd pieces (List.splitOn_ne_nil _ _)
      | cons first more =>
        rw [pieces, List.modifyHead_cons] at mem
        rcases List.mem_cons.mp mem with rfl | later
        · have whole := ih (pieces ▸ List.mem_cons_self : first ∈ rest.splitOn comma)
          intro inside
          rcases List.mem_cons.mp inside with rfl | inside
          · simp at other
          · exact whole inside
        · exact ih (pieces ▸ List.mem_cons_of_mem _ later)

theorem tokensAre {t : Bytes} (mem : t ∈ tokens s) : Token t := by
  obtain ⟨mapped, some⟩ := List.mem_filter.mp mem
  obtain ⟨piece, between, rfl⟩ := List.mem_map.mp mapped
  exact ⟨by simpa using some, fun inside => pieceWhole between (trimInside inside), trimTwice piece⟩

theorem tokensJoined (all : ∀ t ∈ ts, Token t) : tokens (joined ts) = ts := by
  by_cases empty : ts = []
  · subst empty
    decide
  · have pieces : (joined ts).splitOn comma = ts :=
      List.splitOn_intercalate comma (fun t mem => (all t mem).whole) empty
    have trims : ts.map trimSpace = ts := by
      rw [List.map_congr_left fun t mem => (all t mem).trimmed, List.map_id']
    rw [tokens, pieces, trims]
    exact List.filter_eq_self.mpr fun t mem => by simpa using (all t mem).nonempty

theorem tokensStable (s : Bytes) : tokens (joined (tokens s)) = tokens s :=
  tokensJoined fun _ => tokensAre

end Reading

end RetryEndpoint.CommaLists
