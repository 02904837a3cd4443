import Mathlib.Algebra.BigOperators.Group.Finset.Piecewise
import Mathlib.Algebra.Ring.Nat

/-! Amounts entered under keys. What was entered is summed over the keys that are asked
for, one of them or many; how whoever receives the entries keeps them is left open. -/
namespace RetryEndpoint.Ledger

variable {κ : Type}

def entered (p : κ → Bool) (entries : List (κ × Nat)) : Nat :=
  (entries.map fun e => if p e.1 then e.2 else 0).sum

@[simp] theorem enteredCons (p : κ → Bool) (k : κ) (n : Nat) (rest : List (κ × Nat)) :
    entered p ((k, n) :: rest) = (if p k then n else 0) + entered p rest := by
  simp only [entered, List.map_cons, List.sum_cons]

theorem enteredCongr {p q : κ → Bool} {entries : List (κ × Nat)} (same : ∀ e ∈ entries, p e.1 = q e.1) :
    entered p entries = entered q entries := by
  have each : ∀ e ∈ entries, (if p e.1 then e.2 else 0) = if q e.1 then e.2 else 0 := by
    intro e mem
    rw [same e mem]
  rw [entered, List.map_congr_left each, entered]

theorem enteredOnes (p : κ → Bool) (keys : List κ) (entries : List (κ × Nat)) :
    entered p ((keys.map fun k => (k, 1)).reverse ++ entries) = keys.countP p + entered p entries := by
  induction keys generalizing entries with
  | nil => simp
  | cons k rest ih =>
    rw [List.map_cons, List.reverse_cons, List.append_assoc, List.singleton_append, ih, enteredCons,
      List.countP_cons]
    omega

variable [DecidableEq κ]

def balance (entries : List (κ × Nat)) (k : κ) : Nat := entered (fun key => decide (key = k)) entries

theorem balanceSum {ι : Type} [DecidableEq ι] {name : ι → κ} (apart : name.Injective) (names : Finset ι)
    (entries : List (κ × Nat)) :
    ∑ i ∈ names, balance entries (name i) = entered (fun key => decide (∃ i ∈ names, name i = key)) entries := by
  induction entries with
  | nil => simp [balance, entered]
  | cons e rest ih =>
    obtain ⟨k, n⟩ := e
    unfold balance at ih ⊢
    simp only [enteredCons, Finset.sum_add_distrib, ih, decide_eq_true_eq, Nat.add_right_cancel_iff]
    by_cases named : ∃ i ∈ names, name i = k
    · obtain ⟨i, mem, rfl⟩ := named
      have one : ∀ j, (if name i = name j then n else 0) = if i = j then n else 0 := fun j => by
        simp only [apart.eq_iff]
      simp only [one, Finset.sum_ite_eq, mem, if_true]
      rw [if_pos ⟨i, mem, rfl⟩]
    · rw [if_neg named]
      refine Finset.sum_eq_zero fun i mem => if_neg ?_
      rintro rfl
      exact named ⟨i, mem, rfl⟩

end RetryEndpoint.Ledger
