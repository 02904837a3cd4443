import RetryEndpoint.SlidingWindow

/-! What the keyed limiter admits in any interval of one window, wherever it lies.
The limiter forgets; beside it stands, for each key, every time it ever admitted,
newest first. Each of them found room in the window behind it, and that is enough
for every other window too. -/
namespace RetryEndpoint.Admissions
open WindowLog EventLog SlidingWindow Runs

variable {κ : Type} [DecidableEq κ]

structure Admits (now : Int) (r : Limiter κ) (admitted : κ → List Int) : Prop where
  agrees : Agrees now r (fun k => (admitted k).reverse)
  room : ∀ k, Each (fun t older => ((alive (t - r.window) older).length : Int) < r.max) (admitted k)
  past : ∀ k, ∀ t ∈ admitted k, t ≤ now

def noted (admitted : κ → List Int) (key : κ) (now : Int) (b : Bool) : κ → List Int :=
  if b then Function.update admitted key (now :: admitted key) else admitted

theorem newAdmits (now max window maxKeys : Int) :
    Admits now (newSlidingWindowLimiter (κ := κ) max window maxKeys) (fun _ => []) :=
  ⟨newAgrees now max window maxKeys, fun _ => trivial, by simp⟩

theorem Admits.later {now next : Int} {r : Limiter κ} {admitted : κ → List Int}
    (h : Admits now r admitted) (order : now ≤ next) : Admits next r admitted :=
  ⟨h.agrees.later order, h.room, fun k t mem => Int.le_trans (h.past k t mem) order⟩

theorem rescanFull {max window now : Int} {key : κ} {r : Limiter κ} {admitted : κ → List Int} {b : Bool}
    {log : List Int} (decided : rescan max (now - window) now (admitted key).reverse = (b, log))
    (wide : r.window = window)
    (agrees : Agrees now r (Function.update (fun k => (admitted k).reverse) key log)) :
    Agrees now r (fun k => (noted admitted key now b k).reverse) := by
  refine ⟨agrees.ordered, ?_⟩
  intro k cutoff late
  rw [← agrees.same k cutoff late]
  rw [wide] at late
  by_cases isKey : k = key
  · subst k
    rw [Function.update_self]
    unfold rescan at decided
    dsimp only at decided
    split at decided
    · cases decided
      simp only [noted, if_true, Function.update_self, List.reverse_cons, aliveAppend, aliveAlive late]
    · cases decided
      simp only [noted, Bool.false_eq_true, if_false, aliveAlive late]
  · rw [Function.update_of_ne isKey]
    cases b with
    | true => simp only [noted, if_true, Function.update_of_ne isKey]
    | false => rfl

theorem Admits.allow {past now : Int} {r : Limiter κ} {admitted : κ → List Int}
    (h : Admits past r admitted) (order : past ≤ now) (grow : Nat → Nat) (key : κ) :
    ∃ b r', r.allowLocked grow key now = some (b, r') ∧ r'.window = r.window ∧ r'.max = r.max ∧
      Admits now r' (noted admitted key now b) ∧
      (b = false → r.max ≤ ((alive (now - r.window) (admitted key)).length : Int)) := by
  obtain ⟨b, log, r', decided, allowed, window, max, agrees⟩ := allowLockedSpec h.agrees order grow key
  have counted : ((alive (now - r.window) (admitted key).reverse).length : Int) =
      ((alive (now - r.window) (admitted key)).length : Int) := by
    rw [aliveReverse, List.length_reverse]
  have full := rescanFull decided window agrees
  unfold rescan at decided
  dsimp only at decided
  rw [counted] at decided
  refine ⟨b, r', allowed, window, max, ⟨full, ?_, ?_⟩, ?_⟩
  · intro k
    rw [window, max]
    cases b with
    | false => exact h.room k
    | true =>
      by_cases isKey : k = key
      · subst k
        simp only [noted, if_true, Function.update_self]
        refine ⟨?_, h.room key⟩
        split at decided
        · assumption
        · cases decided
      · simp only [noted, if_true, Function.update_of_ne isKey]
        exact h.room k
  · intro k t mem
    cases b with
    | false => exact Int.le_trans (h.past k t mem) order
    | true =>
      by_cases isKey : k = key
      · subst k
        simp only [noted, if_true, Function.update_self] at mem
        rcases List.mem_cons.mp mem with rfl | old
        · exact Int.le_refl _
        · exact Int.le_trans (h.past key t old) order
      · simp only [noted, if_true, Function.update_of_ne isKey] at mem
        exact Int.le_trans (h.past k t mem) order
  · rintro rfl
    split at decided
    · cases decided
    · omega

theorem Admits.bound {now : Int} {r : Limiter κ} {admitted : κ → List Int} (h : Admits now r admitted)
    (key : κ) (t : Int) :
    ((admitted key).countP (fun x => decide (t - r.window < x ∧ x ≤ t)) : Int) ≤ Max.max 0 r.max := by
  have forward : Monotone (fun x : Int => x - r.window) := by
    intro a b order
    dsimp only
    omega
  exact spreadBound forward (h.room key) t

end RetryEndpoint.Admissions
