import Mathlib.Algebra.BigOperators.Group.Finset.Piecewise
import Mathlib.Algebra.Order.Group.Multiset

/-! Totals over a family of places when one place changes. With numbers they are
balances; with multisets they say what lies where, and one such equation says of
every thing that it lies in exactly one place. -/
namespace RetryEndpoint.Places

variable {ι τ : Type} [DecidableEq ι]

theorem sumUpdate {M : Type} [AddCommMonoid M] {places : Finset ι} {i : ι} (here : i ∈ places)
    (g : ι → τ) (x : τ) (f : τ → M) :
    ∑ k ∈ places, f (Function.update g i x k) + f (g i) = ∑ k ∈ places, f (g k) + f x := by
  have moved : ∀ k, f (Function.update g i x k) = Function.update (fun k => f (g k)) i (f x) k := by
    intro k
    by_cases same : k = i
    · subst k
      simp
    · simp [same]
  have before := Finset.sum_eq_add_sum_sdiff_singleton_of_mem here (fun k => f (g k))
  have after := Finset.sum_update_of_mem here (fun k => f (g k)) (f x)
  simp only [moved, after, before]
  ac_rfl

def gathered (places : Finset ι) (g : ι → List τ) : Multiset τ := ∑ k ∈ places, (g k : Multiset τ)

theorem gatheredPush {places : Finset ι} {i : ι} (here : i ∈ places) (g : ι → List τ) (x : τ) :
    gathered places (Function.update g i (g i ++ [x])) = gathered places g + {x} := by
  have total := sumUpdate here g (g i ++ [x]) (fun xs => (xs : Multiset τ))
  rw [← Multiset.coe_add, Multiset.coe_singleton, ← add_assoc, add_right_comm] at total
  exact add_right_cancel total

theorem gatheredPop {places : Finset ι} {i : ι} (here : i ∈ places) {g : ι → List τ} {x : τ}
    {rest : List τ} (next : g i = x :: rest) :
    gathered places (Function.update g i rest) + {x} = gathered places g := by
  have total := sumUpdate here g rest (fun xs => (xs : Multiset τ))
  rw [next, ← Multiset.cons_coe, ← Multiset.singleton_add, ← add_assoc] at total
  exact add_right_cancel total

theorem gatheredSet {places : Finset ι} {i : ι} (here : i ∈ places) {g : ι → List τ}
    (xs : List τ) (empty : g i = []) :
    gathered places (Function.update g i xs) = gathered places g + (xs : Multiset τ) := by
  have total := sumUpdate here g xs (fun xs => (xs : Multiset τ))
  rw [empty, Multiset.coe_nil, add_zero] at total
  exact total

omit [DecidableEq ι] in
theorem memGathered {places : Finset ι} {i : ι} (here : i ∈ places) {g : ι → List τ} {x : τ}
    (mem : x ∈ g i) : x ∈ gathered places g := by
  rw [gathered, Multiset.mem_sum]
  exact ⟨i, here, by simpa using mem⟩

omit [DecidableEq ι] in
theorem cardGathered (places : Finset ι) (g : ι → List τ) :
    (gathered places g).card = ∑ k ∈ places, (g k).length := by
  simp only [gathered, Multiset.card_sum, Multiset.coe_card]

omit [DecidableEq ι] in
theorem countGathered [DecidableEq τ] (places : Finset ι) (g : ι → List τ) (x : τ) :
    (gathered places g).count x = ∑ k ∈ places, (g k).count x := by
  simp only [gathered, Multiset.count_sum', Multiset.coe_count]

end RetryEndpoint.Places
