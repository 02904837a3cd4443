import Mathlib.Data.Rat.Floor
import Mathlib.Order.Monotone.Basic
import Mathlib.Tactic.Linarith
import Mathlib.Tactic.NormNum
import Mathlib.Tactic.Positivity

/-! Double-precision numbers as rationals with a rounding. Of the rounding only two
facts are used: it keeps the order, and it keeps every number with a significand of
at most fifty-three bits. A whole number and a fraction that stays clear of the next
whole number are then added without disturbing the whole part. -/
namespace RetryEndpoint.Doubles

structure Rounding where
  fl : ℚ → ℚ
  mono : Monotone fl
  exact : ∀ m k : ℕ, m ≤ 2 ^ 53 → k ≤ 1074 → fl (m / 2 ^ k) = m / 2 ^ k

def Rounding.none : Rounding := ⟨id, monotone_id, fun _ _ _ _ => rfl⟩

variable (r : Rounding)

theorem whole {n : ℕ} (small : n ≤ 2 ^ 53) : r.fl n = n := by
  have h := r.exact n 0 small (by decide)
  simpa using h

theorem fractionBelow {x : ℚ} (least : 0 ≤ x) (most : x ≤ 1 - 1 / 2 ^ 30) :
    0 ≤ r.fl x ∧ r.fl x ≤ 1 - 1 / 2 ^ 30 := by
  have zero : r.fl 0 = 0 := by simpa using whole r (n := 0) (by decide)
  have top : r.fl (1 - 1 / 2 ^ 30) = 1 - 1 / 2 ^ 30 := by
    have h := r.exact (2 ^ 30 - 1) 30 (by decide) (by decide)
    norm_num at h ⊢
    exact h
  exact ⟨zero ▸ r.mono least, top ▸ r.mono most⟩

theorem sumBetween {n : ℕ} (small : n < 2 ^ 16) {x : ℚ} (least : 0 ≤ x) (most : x ≤ 1 - 1 / 2 ^ 30) :
    (n : ℚ) ≤ r.fl (n + x) ∧ r.fl (n + x) < n + 1 := by
  have below : r.fl n = n := whole r (by omega)
  have grid : ((n * 2 ^ 30 + (2 ^ 30 - 1) : ℕ) : ℚ) / 2 ^ 30 = n + (1 - 1 / 2 ^ 30) := by
    push_cast
    ring
  have above : r.fl (n + (1 - 1 / 2 ^ 30)) = n + (1 - 1 / 2 ^ 30) := by
    have h := r.exact (n * 2 ^ 30 + (2 ^ 30 - 1)) 30 (by omega) (by decide)
    rwa [grid] at h
  have lower : r.fl n ≤ r.fl (n + x) := r.mono (by linarith)
  have upper : r.fl (n + x) ≤ r.fl (n + (1 - 1 / 2 ^ 30)) := r.mono (by linarith)
  rw [below] at lower
  rw [above] at upper
  refine ⟨lower, lt_of_le_of_lt upper ?_⟩
  norm_num

theorem wholeKept {n : ℕ} (small : n < 2 ^ 16) {x : ℚ} (least : 0 ≤ x) (most : x ≤ 1 - 1 / 2 ^ 30) :
    (r.fl (n + x)).floor = n := by
  obtain ⟨lower, upper⟩ := sumBetween r small least most
  have floor : ⌊r.fl (n + x)⌋ = (n : ℤ) := Int.floor_eq_iff.mpr (by simpa using ⟨lower, upper⟩)
  exact floor

end RetryEndpoint.Doubles
