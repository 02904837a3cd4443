import Mathlib.Data.List.Induction
import Mathlib.Data.List.Perm.Basic
import Mathlib.Tactic.SplitIfs

/-! Dealing a list out in turn: element i goes to hand i mod n. The hands together
are a rearrangement of the list, each keeps its order, and their sizes differ by at
most one. Everything goes by what the last element adds. -/
namespace RetryEndpoint.RoundRobin

variable {α : Type}

def dealOne (n : Nat) (hands : List (List α)) (card : α × Nat) : List (List α) :=
  hands.modify (card.2 % n) (· ++ [card.1])

def deal (n : Nat) (xs : List α) : List (List α) :=
  xs.zipIdx.foldl (dealOne n) (List.replicate n [])

@[simp] theorem dealNil (n : Nat) : deal n ([] : List α) = List.replicate n [] := rfl

theorem dealSnoc (n : Nat) (xs : List α) (x : α) :
    deal n (xs ++ [x]) = (deal n xs).modify (xs.length % n) (· ++ [x]) := by
  simp [deal, dealOne, List.zipIdx_append]

@[simp] theorem dealLength (n : Nat) (xs : List α) : (deal n xs).length = n := by
  induction xs using List.reverseRecOn with
  | nil => simp
  | append_singleton xs x ih => rw [dealSnoc, List.length_modify, ih]

theorem modifyFlatten {hands : List (List α)} {k : Nat} (there : k < hands.length) (x : α) :
    (hands.modify k (· ++ [x])).flatten.Perm (hands.flatten ++ [x]) := by
  induction hands generalizing k with
  | nil => cases there
  | cons hand rest ih =>
    cases k with
    | zero =>
      simp only [List.modify_zero_cons, List.flatten_cons, List.append_assoc]
      exact List.Perm.append_left hand List.perm_append_comm
    | succ k =>
      simp only [List.modify_succ_cons, List.flatten_cons, List.append_assoc]
      exact List.Perm.append_left hand (ih (Nat.lt_of_succ_lt_succ there))

theorem dealPerm {n : Nat} (positive : 0 < n) (xs : List α) : (deal n xs).flatten.Perm xs := by
  induction xs using List.reverseRecOn with
  | nil => simp
  | append_singleton xs x ih =>
    have there : xs.length % n < (deal n xs).length := by
      rw [dealLength]
      exact Nat.mod_lt _ positive
    rw [dealSnoc]
    exact (modifyFlatten there x).trans (ih.append_right [x])

theorem dealSublist {n : Nat} {xs : List α} {k : Nat} {hand : List α}
    (found : (deal n xs)[k]? = some hand) : hand.Sublist xs := by
  induction xs using List.reverseRecOn generalizing hand with
  | nil =>
    have empty := List.eq_of_mem_replicate (List.mem_of_getElem? found)
    rw [empty]
  | append_singleton xs x ih =>
    rw [dealSnoc, List.getElem?_modify] at found
    obtain ⟨before, here, same⟩ := Option.map_eq_some_iff.mp found
    have kept := ih here
    split at same
    · rw [← same]
      exact kept.append_right [x]
    · rw [← same]
      exact kept.trans (List.sublist_append_left xs [x])

def handSize (n m k : Nat) : Nat := m / n + if k < m % n then 1 else 0

theorem handSizeStep {n k : Nat} (inside : k < n) (m : Nat) :
    handSize n (m + 1) k = handSize n m k + if m % n = k then 1 else 0 := by
  have small : m % n < n := Nat.mod_lt m (by omega)
  have parts : m % n + n * (m / n) = m := Nat.mod_add_div m n
  unfold handSize
  by_cases full : m % n + 1 = n
  · -- The round is complete: every hand has the same number again.
    have next : (m + 1) / n = m / n + 1 ∧ (m + 1) % n = 0 := by
      refine (Nat.div_mod_unique (by omega)).mpr ⟨?_, by omega⟩
      rw [Nat.mul_succ]
      omega
    rw [next.1, next.2]
    split_ifs <;> omega
  · have next : (m + 1) / n = m / n ∧ (m + 1) % n = m % n + 1 :=
      (Nat.div_mod_unique (by omega)).mpr ⟨by omega, by omega⟩
    rw [next.1, next.2]
    split_ifs <;> omega

theorem dealSize {n : Nat} {xs : List α} {k : Nat} {hand : List α}
    (found : (deal n xs)[k]? = some hand) : hand.length = handSize n xs.length k := by
  have inside : k < n := by
    have there := (List.getElem?_eq_some_iff.mp found).1
    rwa [dealLength] at there
  induction xs using List.reverseRecOn generalizing hand with
  | nil =>
    have empty := List.eq_of_mem_replicate (List.mem_of_getElem? found)
    simp [empty, handSize]
  | append_singleton xs x ih =>
    rw [dealSnoc, List.getElem?_modify] at found
    obtain ⟨before, here, same⟩ := Option.map_eq_some_iff.mp found
    rw [List.length_append, List.length_singleton, handSizeStep inside, ← ih here, ← same]
    split
    · exact List.length_append
    · rfl

theorem handSizeBetween (n m k : Nat) : m / n ≤ handSize n m k ∧ handSize n m k ≤ m / n + 1 := by
  unfold handSize
  split <;> omega

theorem dealBalanced {n : Nat} {xs : List α} {hand hand' : List α} (mem : hand ∈ deal n xs)
    (mem' : hand' ∈ deal n xs) : hand.length ≤ hand'.length + 1 := by
  obtain ⟨k, found⟩ := List.mem_iff_getElem?.mp mem
  obtain ⟨k', found'⟩ := List.mem_iff_getElem?.mp mem'
  have most := (handSizeBetween n xs.length k).2
  have least := (handSizeBetween n xs.length k').1
  rw [← dealSize found] at most
  rw [← dealSize found'] at least
  omega

theorem dealNonempty {n : Nat} {xs : List α} {hand : List α} (positive : 0 < n)
    (enough : n ≤ xs.length) (mem : hand ∈ deal n xs) : hand ≠ [] := by
  obtain ⟨k, found⟩ := List.mem_iff_getElem?.mp mem
  have least := (handSizeBetween n xs.length k).1
  have round : 1 ≤ xs.length / n := (Nat.one_le_div_iff positive).mpr enough
  rw [← dealSize found] at least
  intro empty
  rw [empty, List.length_nil] at least
  omega

end RetryEndpoint.RoundRobin
