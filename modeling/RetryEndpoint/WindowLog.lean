import RetryEndpoint.Runs
import Mathlib.Order.Lattice
import Mathlib.Data.List.Basic

/-! Logs of timestamps and a moving cutoff. An entry is alive while it is later
than the cutoff; the cutoff only moves forward, so what one rescan drops no
later rescan would keep. Nothing here knows who keeps the log or why. -/
namespace RetryEndpoint.WindowLog
open Runs

variable {α : Type*} [LinearOrder α]

def alive (cutoff : α) (xs : List α) : List α := xs.filter (fun x => decide (cutoff < x))

@[simp] theorem aliveNil (cutoff : α) : alive cutoff [] = [] := rfl

theorem aliveAppend (cutoff : α) (xs ys : List α) :
    alive cutoff (xs ++ ys) = alive cutoff xs ++ alive cutoff ys := List.filter_append ..

theorem aliveSelf {cutoff : α} {xs : List α} (later : ∀ x ∈ xs, cutoff < x) :
    alive cutoff xs = xs := by
  apply List.filter_eq_self.mpr
  intro x mem
  simpa using later x mem

theorem aliveEmpty {cutoff : α} {xs : List α} (aged : ∀ x ∈ xs, x ≤ cutoff) :
    alive cutoff xs = [] := by
  apply List.filter_eq_nil_iff.mpr
  intro x mem
  simpa using aged x mem

theorem aliveAlive {early late : α} (order : early ≤ late) (xs : List α) :
    alive late (alive early xs) = alive late xs := by
  unfold alive
  rw [List.filter_filter]
  apply List.filter_congr
  intro x _
  by_cases h : late < x
  · simp [h, lt_of_le_of_lt order h]
  · simp [h]

theorem aliveDrop {cutoff : α} {xs : List α} {n : Nat}
    (aged : ∀ x ∈ xs.take n, x ≤ cutoff) : alive cutoff (xs.drop n) = alive cutoff xs := by
  have split := aliveAppend cutoff (xs.take n) (xs.drop n)
  rw [List.take_append_drop, aliveEmpty aged, List.nil_append] at split
  exact split.symm

theorem agedOfLast {cutoff last : α} {xs : List α} (sorted : xs.Pairwise (· ≤ ·))
    (found : xs.getLast? = some last) (old : last ≤ cutoff) : ∀ x ∈ xs, x ≤ cutoff := by
  obtain ⟨front, rfl⟩ := List.getLast?_eq_some_iff.mp found
  intro x mem
  rcases List.mem_append.mp mem with inFront | isLast
  · exact le_trans ((List.pairwise_append.mp sorted).2.2 x inFront last (by simp)) old
  · rw [List.mem_singleton.mp isLast]
    exact old

theorem laterOfHead {cutoff head : α} {xs : List α} (sorted : (head :: xs).Pairwise (· ≤ ·))
    (fresh : cutoff < head) : ∀ x ∈ head :: xs, cutoff < x := by
  intro x mem
  rcases List.mem_cons.mp mem with rfl | inTail
  · exact fresh
  · exact lt_of_lt_of_le fresh ((List.pairwise_cons.mp sorted).1 x inTail)

theorem aliveReverse (cutoff : α) (xs : List α) : alive cutoff xs.reverse = (alive cutoff xs).reverse :=
  List.filter_reverse ..

/- A log, newest first, in which every entry found fewer than max alive at its own
cutoff has no more than max between any point and that point's cutoff. -/
theorem spreadBound {max : Int} {cut : α → α} (forward : Monotone cut) {xs : List α}
    (spread : Each (fun x older => ((alive (cut x) older).length : Int) < max) xs) (t : α) :
    (xs.countP (fun x => decide (cut t < x ∧ x ≤ t)) : Int) ≤ Max.max 0 max := by
  induction xs with
  | nil => simp
  | cons x older ih =>
    by_cases inside : cut t < x ∧ x ≤ t
    · -- What else lies in the interval was alive when x came.
      have fewer : older.countP (fun y => decide (cut t < y ∧ y ≤ t)) ≤ (alive (cut x) older).length := by
        rw [alive, ← List.countP_eq_length_filter]
        apply List.countP_mono_left
        intro y _ between
        simp only [decide_eq_true_eq] at between ⊢
        exact lt_of_le_of_lt (forward inside.2) between.1
      have room := spread.1
      rw [List.countP_cons_of_pos (by simpa using inside)]
      omega
    · rw [List.countP_cons_of_neg (by simpa using inside)]
      exact ih spread.2

theorem countEither {τ : Type*} {p q r : τ → Bool} (cover : ∀ x, p x = true → q x = true ∨ r x = true)
    (xs : List τ) : xs.countP p ≤ xs.countP q + xs.countP r := by
  induction xs with
  | nil => simp
  | cons x xs ih =>
    have here : (if p x = true then 1 else 0) ≤ (if q x = true then 1 else 0) + (if r x = true then 1 else 0) := by
      split
      · rename_i counted
        rcases cover x counted with left | right
        · simp [left]
        · simp [right]
      · exact Nat.zero_le _
    simp only [List.countP_cons]
    omega

def spans (wide window : Int) : Int := (wide + window - 1) / window

theorem spansCover {window : Int} (positive : 0 < window) (wide : Int) :
    wide ≤ spans wide window * window ∧ (spans wide window - 1) * window < wide := by
  have low := Int.ediv_mul_le (wide + window - 1) (Int.ne_of_gt positive)
  have high := Int.lt_ediv_add_one_mul_self (wide + window - 1) positive
  rw [Int.add_mul, Int.one_mul] at high
  rw [Int.sub_mul, Int.one_mul, spans]
  omega

theorem wideBound {window max : Int} {xs : List Int}
    (bound : ∀ t, (xs.countP (fun x => decide (t - window < x ∧ x ≤ t)) : Int) ≤ max) (k : Nat) (wide t : Int)
    (covered : wide ≤ k * window) :
    (xs.countP (fun x => decide (t - wide < x ∧ x ≤ t)) : Int) ≤ k * max := by
  induction k generalizing wide t with
  | zero =>
    have none : xs.countP (fun x => decide (t - wide < x ∧ x ≤ t)) = 0 := by
      apply List.countP_eq_zero.mpr
      intro x _
      simp only [decide_eq_true_eq]
      omega
    rw [none]
    simp
  | succ k ih =>
    -- the last window of the interval, and what lies before it
    have sum : ∀ n : Int, ((k + 1 : Nat) : Int) * n = k * n + n := by
      intro n
      rw [Int.natCast_succ, Int.add_mul, Int.one_mul]
    rw [sum] at covered ⊢
    have before := ih (wide - window) (t - window) (by omega)
    have last := bound t
    have split := countEither (p := fun x => decide (t - wide < x ∧ x ≤ t))
      (q := fun x => decide (t - window < x ∧ x ≤ t))
      (r := fun x => decide (t - window - (wide - window) < x ∧ x ≤ t - window)) (by
        intro x
        simp only [decide_eq_true_eq]
        omega) xs
    omega

end RetryEndpoint.WindowLog
