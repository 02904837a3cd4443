import Mathlib.Algebra.Order.Field.Rat
import Mathlib.Data.Rat.Cast.Order
import Mathlib.Tactic.Linarith
import RetryEndpoint.Runs

/-! Meters asked for leave at a time, and a system that keeps one for each key. What a
meter lets through in an interval is bounded by its burst and what flows in meanwhile; a
step that asks one key's meter leaves the others alone, so each key is answered along any
run as by a meter of its own. The exact bucket is the arithmetic a meter stands for. -/
namespace RetryEndpoint.TokenBuckets
open Runs

section Meters
variable {β : Type*}

def decisions (allow : β → Int → Bool × β) : β → List Int → List (Int × Bool)
  | _, [] => []
  | b, t :: rest => (t, (allow b t).1) :: decisions allow (allow b t).2 rest

def passedIn (first last : Int) (d : Int × Bool) : Bool := d.2 && decide (first ≤ d.1 ∧ d.1 ≤ last)

def Meters (allow : β → Int → Bool × β) (b : β) (rate : Rat) (burst : Int) : Prop :=
  ∀ times : List Int, times.Pairwise (· ≤ ·) → ∀ first last, first ≤ last →
    ((decisions allow b times).countP (passedIn first last) : Rat) ≤ burst + rate * (last - first : Int)

theorem decidedAsked {allow : β → Int → Bool × β} {b : β} {times : List Int} {d : Int × Bool}
    (mem : d ∈ decisions allow b times) : d.1 ∈ times := by
  induction times generalizing b with
  | nil => cases mem
  | cons t rest ih =>
    rcases List.mem_cons.mp mem with rfl | later
    · exact List.mem_cons_self
    · exact List.mem_cons_of_mem _ (ih later)

end Meters

structure Bucket where
  rate : Rat
  burst : Int
  tokens : Rat
  last : Int
  deriving DecidableEq

def full (rate : Rat) (burst : Int) : Bucket := ⟨rate, burst, burst, 0⟩

def Bucket.level (b : Bucket) (t : Int) : Rat := min b.burst (b.tokens + b.rate * (max 0 (t - b.last) : Int))

def Bucket.allow (b : Bucket) (t : Int) : Bool × Bucket :=
  if 1 ≤ b.level t then (true, { b with tokens := b.level t - 1, last := t }) else (false, b)

structure Bucket.Valid (b : Bucket) : Prop where
  rate : 0 ≤ b.rate
  burst : 0 ≤ b.burst
  tokens : 0 ≤ b.tokens

section Exact
variable {b : Bucket} {times : List Int} {first last : Int}

theorem allowKeeps (t : Int) : (b.allow t).2.rate = b.rate ∧ (b.allow t).2.burst = b.burst := by
  unfold Bucket.allow
  split <;> exact ⟨rfl, rfl⟩

theorem Bucket.Valid.allow (h : b.Valid) (t : Int) : (b.allow t).2.Valid := by
  unfold Bucket.allow
  split
  · rename_i passes
    exact ⟨h.rate, h.burst, sub_nonneg.mpr passes⟩
  · exact h

theorem levelBurst (t : Int) : b.level t ≤ b.burst := min_le_left ..

theorem Bucket.Valid.level (h : b.Valid) (t : Int) : 0 ≤ b.level t := by
  have inflow := mul_nonneg h.rate (Int.cast_nonneg (le_max_left 0 (t - b.last)))
  exact le_min (Int.cast_nonneg h.burst) (add_nonneg h.tokens inflow)

theorem Bucket.Valid.inflow (h : b.Valid) (short : first ≤ last) : 0 ≤ b.rate * (last - first : Int) :=
  mul_nonneg h.rate (Int.cast_nonneg (Int.sub_nonneg.mpr short))

theorem Bucket.Valid.rises (h : b.Valid) {t t' : Int} (later : t ≤ t') :
    b.level t' ≤ b.level t + b.rate * (t' - t : Int) := by
  have elapsed : ((max 0 (t' - b.last) : Int) : Rat) ≤ (max 0 (t - b.last) : Int) + (t' - t : Int) := by
    exact_mod_cast (by omega : max 0 (t' - b.last) ≤ max 0 (t - b.last) + (t' - t))
  have inflow := mul_le_mul_of_nonneg_left elapsed h.rate
  have more := h.inflow later
  rw [mul_add] at inflow
  unfold Bucket.level
  rw [← min_add_add_right]
  exact min_le_min (by linarith) (by linarith)

theorem levelTaken {t : Int} (passes : 1 ≤ b.level t) : (b.allow t).2.level t = b.level t - 1 := by
  have few : b.level t - 1 ≤ b.burst := by linarith [levelBurst (b := b) t]
  rw [Bucket.allow, if_pos passes]
  change min (b.burst : Rat) (b.level t - 1 + b.rate * (max 0 (t - t) : Int)) = b.level t - 1
  rw [sub_self, max_self, Int.cast_zero, mul_zero, add_zero, min_eq_right few]

theorem Bucket.Valid.passedFew (h : b.Valid) (order : times.Pairwise (· ≤ ·)) (after : ∀ t ∈ times, first ≤ t)
    (short : first ≤ last) :
    ((decisions Bucket.allow b times).countP (fun d => d.2 && decide (d.1 ≤ last)) : Rat) ≤
      b.level first + b.rate * (last - first : Int) := by
  induction times generalizing b first with
  | nil =>
    simp only [decisions, List.countP_nil, Nat.cast_zero]
    linarith [h.level first, h.inflow short]
  | cons t rest ih =>
    obtain ⟨head, tail⟩ := List.pairwise_cons.mp order
    have early := after t List.mem_cons_self
    by_cases late : t ≤ last
    · have rising := h.rises early
      have split : b.rate * (last - first : Int) = b.rate * (t - first : Int) + b.rate * (last - t : Int) := by
        rw [← mul_add, ← Int.cast_add]
        congr 2
        omega
      have later := ih (h.allow t) tail head late
      rw [(allowKeeps t).1] at later
      simp only [decisions, List.countP_cons]
      by_cases passes : 1 ≤ b.level t
      · rw [levelTaken passes] at later
        have one : (b.allow t).1 = true := by rw [Bucket.allow, if_pos passes]
        simp only [one, late, decide_true, Bool.and_self, if_true]
        rw [Nat.cast_add, Nat.cast_one]
        linarith
      · have stays : b.allow t = (false, b) := if_neg passes
        rw [stays] at later ⊢
        simp only [Bool.false_and, Bool.false_eq_true, if_false, Nat.add_zero]
        linarith
    · -- nothing that comes after the end is counted
      have none : (decisions Bucket.allow b (t :: rest)).countP (fun d => d.2 && decide (d.1 ≤ last)) = 0 := by
        refine List.countP_eq_zero.mpr fun d mem => ?_
        have beyond : t ≤ d.1 := by
          rcases List.mem_cons.mp (decidedAsked mem) with same | later
          · rw [same]
          · exact head d.1 later
        simp [show ¬ d.1 ≤ last by omega]
      rw [none, Nat.cast_zero]
      linarith [h.level first, h.inflow short]

theorem Bucket.Valid.meters (h : b.Valid) : Meters Bucket.allow b b.rate b.burst := by
  intro times order first last short
  induction times generalizing b with
  | nil =>
    have burst : (0 : Rat) ≤ b.burst := Int.cast_nonneg h.burst
    simp only [decisions, List.countP_nil, Nat.cast_zero]
    linarith [h.inflow short]
  | cons t rest ih =>
    obtain ⟨head, tail⟩ := List.pairwise_cons.mp order
    by_cases early : t < first
    · have later := ih (h.allow t) tail
      rw [(allowKeeps t).1, (allowKeeps t).2] at later
      have skipped : passedIn first last (t, (b.allow t).1) = false := by
        simp [passedIn, show ¬ first ≤ t by omega]
      rw [decisions, List.countP_cons, skipped]
      exact later
    · have after : ∀ t' ∈ t :: rest, first ≤ t' := by
        intro t' mem
        rcases List.mem_cons.mp mem with rfl | later
        · omega
        · have := head t' later
          omega
      have few := h.passedFew order after short
      have fewer : (decisions Bucket.allow b (t :: rest)).countP (passedIn first last) ≤
          (decisions Bucket.allow b (t :: rest)).countP (fun d => d.2 && decide (d.1 ≤ last)) := by
        refine List.countP_mono_left fun d _ passed => ?_
        simp only [passedIn, Bool.and_eq_true, decide_eq_true_eq] at passed ⊢
        exact ⟨passed.1, passed.2.2⟩
      have counted : ((decisions Bucket.allow b (t :: rest)).countP (passedIn first last) : Rat) ≤ _ :=
        Nat.cast_le.mpr fewer
      linarith [levelBurst (b := b) first]

end Exact

/- The meters of a system, one for each key: which one a step asks and when, and what it
was told, read off the states before and after. -/
structure Tap (σ α κ β : Type*) where
  meter : σ → κ → β
  clock : σ → Int
  asks : σ → α → Option κ
  told : σ → α → σ → Bool

section Taps
variable {σ α κ β : Type*} [DecidableEq κ]

def Tap.trace (tap : Tap σ α κ β) (step : σ → α → Option σ) : σ → List α → List (κ × Int × Bool)
  | _, [] => []
  | s, a :: rest =>
    match step s a with
    | none => []
    | some s' =>
      match tap.asks s a with
      | none => tap.trace step s' rest
      | some k => (k, tap.clock s, tap.told s a s') :: tap.trace step s' rest

def answersTo (k : κ) (asked : List (κ × Int × Bool)) : List (Int × Bool) :=
  asked.filterMap fun ask => if ask.1 = k then some ask.2 else none

structure Tap.Sound (tap : Tap σ α κ β) (step : σ → α → Option σ) (allow : β → Int → Bool × β) : Prop where
  forward : ∀ s a s', step s a = some s' → tap.clock s ≤ tap.clock s'
  quiet : ∀ s a s', step s a = some s' → tap.asks s a = none → tap.meter s' = tap.meter s
  asked : ∀ s a s' k, step s a = some s' → tap.asks s a = some k →
    tap.told s a s' = (allow (tap.meter s k) (tap.clock s)).1 ∧
    tap.meter s' = Function.update (tap.meter s) k (allow (tap.meter s k) (tap.clock s)).2

variable {tap : Tap σ α κ β} {step : σ → α → Option σ} {allow : β → Int → Bool × β}

theorem Tap.Sound.alone (h : tap.Sound step allow) (k : κ) (s : σ) (acts : List α) :
    answersTo k (tap.trace step s acts) =
      decisions allow (tap.meter s k) ((answersTo k (tap.trace step s acts)).map Prod.fst) := by
  induction acts generalizing s with
  | nil => rfl
  | cons a rest ih =>
    cases stepped : step s a with
    | none => simp [Tap.trace, stepped, answersTo, decisions]
    | some s' =>
      cases asking : tap.asks s a with
      | none =>
        have tail := ih s'
        rw [h.quiet s a s' stepped asking] at tail
        simpa only [Tap.trace, stepped, asking] using tail
      | some k' =>
        obtain ⟨told, meters⟩ := h.asked s a s' k' stepped asking
        have tail := ih s'
        rw [meters] at tail
        by_cases mine : k' = k
        · subst k'
          rw [Function.update_self] at tail
          simp only [Tap.trace, stepped, asking, answersTo, List.filterMap_cons, if_true, List.map_cons,
            decisions, told, List.cons.injEq, true_and]
          exact tail
        · rw [Function.update_of_ne (Ne.symm mine)] at tail
          simpa only [Tap.trace, stepped, asking, answersTo, List.filterMap_cons, if_neg mine] using tail

theorem Tap.Sound.later (h : tap.Sound step allow) (s : σ) (acts : List α) :
    ∀ ask ∈ tap.trace step s acts, tap.clock s ≤ ask.2.1 := by
  induction acts generalizing s with
  | nil => nofun
  | cons a rest ih =>
    intro ask mem
    cases stepped : step s a with
    | none =>
      rw [Tap.trace, stepped] at mem
      cases mem
    | some s' =>
      have on := h.forward s a s' stepped
      cases asking : tap.asks s a with
      | none =>
        simp only [Tap.trace, stepped, asking] at mem
        exact on.trans (ih s' ask mem)
      | some k =>
        simp only [Tap.trace, stepped, asking] at mem
        rcases List.mem_cons.mp mem with rfl | tail
        · exact le_refl _
        · exact on.trans (ih s' ask tail)

theorem Tap.Sound.inOrder (h : tap.Sound step allow) (s : σ) (acts : List α) :
    (tap.trace step s acts).Pairwise fun x y => x.2.1 ≤ y.2.1 := by
  induction acts generalizing s with
  | nil => exact .nil
  | cons a rest ih =>
    cases stepped : step s a with
    | none =>
      rw [Tap.trace, stepped]
      exact .nil
    | some s' =>
      cases asking : tap.asks s a with
      | none => simpa only [Tap.trace, stepped, asking] using ih s'
      | some k =>
        simp only [Tap.trace, stepped, asking]
        refine List.pairwise_cons.mpr ⟨fun ask mem => ?_, ih s'⟩
        exact (h.forward s a s' stepped).trans (h.later s' rest ask mem)

end Taps

end RetryEndpoint.TokenBuckets
