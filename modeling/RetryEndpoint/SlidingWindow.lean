import RetryEndpoint.EventLog
import RetryEndpoint.KeyedMap
import Mathlib.Logic.Function.Basic

/-! The keyed sliding-window limiter of ratelimit.go against the rescan it
stands for. Sweeping, rebuilding the map and all traffic on other keys are part
of every call here; the reference keeps one list for each key and does none of
it. Callers hold the mutex, so a run is the sequence of locked calls. -/
namespace RetryEndpoint.SlidingWindow
open WindowLog EventLog KeyedMap

variable {κ : Type} [DecidableEq κ]

def maxWindowKeys : Int := 100000

structure Limiter (κ : Type) where
  keys : Map κ Log
  max : Int
  window : Int
  maxKeys : Int
  sweepAt : Int
  lastSweep : Int
  peak : Int

def newSlidingWindowLimiter (max window maxKeys : Int) : Limiter κ :=
  ⟨∅, max, window, maxKeys, maxKeys, 0, 0⟩

def Limiter.evictExpiredLocked (r : Limiter κ) (now : Int) : Limiter κ :=
  let cutoff := now - r.window
  let live := keep (fun l => !l.idle cutoff) r.keys
  let n : Int := size live
  let r := if 4 * n < r.peak then { r with keys := rebuild live, peak := n }
    else { r with keys := live }
  { r with sweepAt := Max.max r.maxKeys (2 * (size r.keys : Int)), lastSweep := now }

/- The part of allowLocked before the log decides: the key's log, and for a key
not in the map the sweep that may come before it is inserted. -/
def Limiter.entry (r : Limiter κ) (key : κ) (now : Int) : Limiter κ × Log :=
  match r.keys.lookup key with
  | some l => (r, l)
  | none =>
    let r := if (size r.keys : Int) ≥ r.sweepAt ∨ now - r.lastSweep ≥ r.window then
      r.evictExpiredLocked now else r
    let keys := r.keys.insert key Log.empty
    ({ r with keys := keys, peak := Max.max r.peak (size keys : Int) }, Log.empty)

def Limiter.allowLocked (grow : Nat → Nat) (r : Limiter κ) (key : κ) (now : Int) :
    Option (Bool × Limiter κ) := do
  let (r, l) := r.entry key now
  let (b, l) ← l.allow grow now r.window r.max
  -- The map holds a pointer: the log is changed in place.
  some (b, { r with keys := r.keys.insert key l })

def Limiter.run (grow : Nat → Nat) : Limiter κ → List (κ × Int) → Option (List Bool × Limiter κ)
  | r, [] => some ([], r)
  | r, (key, now) :: rest => do
      let (b, r) ← r.allowLocked grow key now
      let (bs, r) ← r.run grow rest
      some (b :: bs, r)

def rescanKey (max window : Int) : List Int → List Int → List Bool
  | _, [] => []
  | log, now :: rest =>
      let (b, log) := rescan max (now - window) now log
      b :: rescanKey max window log rest

def rescanRun (max window : Int) : (κ → List Int) → List (κ × Int) → List Bool
  | _, [] => []
  | logs, (key, now) :: rest =>
      let (b, log) := rescan max (now - window) now (logs key)
      b :: rescanRun max window (Function.update logs key log) rest

def timesOf (key : κ) (calls : List (κ × Int)) : List Int :=
  (calls.filter (fun c => c.1 = key)).map Prod.snd

def decisionsOf (key : κ) (calls : List (κ × Int)) (bs : List Bool) : List Bool :=
  ((calls.zip bs).filter (fun c => c.1.1 = key)).map Prod.snd

theorem rescanRunLength (max window : Int) (logs : κ → List Int) (calls : List (κ × Int)) :
    (rescanRun max window logs calls).length = calls.length := by
  induction calls generalizing logs with
  | nil => rfl
  | cons call rest ih => simp [rescanRun, ih]

theorem rescanRunOf (max window : Int) (logs : κ → List Int) (calls : List (κ × Int)) (key : κ) :
    decisionsOf key calls (rescanRun max window logs calls) =
      rescanKey max window (logs key) (timesOf key calls) := by
  induction calls generalizing logs with
  | nil => rfl
  | cons call rest ih =>
    obtain ⟨k, now⟩ := call
    have tail := ih (Function.update logs k (rescan max (now - window) now (logs k)).2)
    by_cases isKey : k = key
    · subst k
      rw [Function.update_self] at tail
      simp only [decisionsOf, timesOf] at tail ⊢
      simp [rescanRun, rescanKey, tail]
    · rw [Function.update_of_ne (Ne.symm isKey)] at tail
      simp only [decisionsOf, timesOf] at tail ⊢
      simp [rescanRun, isKey, tail]

def Limiter.logOf (r : Limiter κ) (key : κ) : List Int := match r.keys.lookup key with
  | none => []
  | some l => l.live

structure Agrees (now : Int) (r : Limiter κ) (logs : κ → List Int) : Prop where
  ordered : ∀ k l, r.keys.lookup k = some l → Ordered now l
  same : ∀ k cutoff, now - r.window ≤ cutoff → alive cutoff (logs k) = alive cutoff (r.logOf k)

theorem newAgrees (now max window maxKeys : Int) :
    Agrees now (newSlidingWindowLimiter (κ := κ) max window maxKeys) (fun _ => []) := by
  refine ⟨?_, ?_⟩
  · intro k l found
    simp [newSlidingWindowLimiter] at found
  · intro k cutoff _
    simp [Limiter.logOf, newSlidingWindowLimiter]

theorem Agrees.later {now next : Int} {r : Limiter κ} {logs : κ → List Int}
    (h : Agrees now r logs) (order : now ≤ next) : Agrees next r logs :=
  ⟨fun k l found => (h.ordered k l found).later order,
    fun k cutoff late => h.same k cutoff (by omega)⟩

theorem evictKeys (r : Limiter κ) (now : Int) (k : κ) :
    (r.evictExpiredLocked now).keys.lookup k =
      (r.keys.lookup k).filter (fun l => !l.idle (now - r.window)) := by
  unfold Limiter.evictExpiredLocked
  dsimp only
  split
  · rw [lookupRebuild, lookupKeep]
  · rw [lookupKeep]

theorem evictWindow (r : Limiter κ) (now : Int) :
    (r.evictExpiredLocked now).window = r.window ∧ (r.evictExpiredLocked now).max = r.max := by
  unfold Limiter.evictExpiredLocked
  dsimp only
  split <;> exact ⟨rfl, rfl⟩

theorem evictAgrees {now : Int} {r : Limiter κ} {logs : κ → List Int} (h : Agrees now r logs) :
    Agrees now (r.evictExpiredLocked now) logs := by
  refine ⟨?_, ?_⟩
  · intro k l found
    rw [evictKeys, Option.filter_eq_some_iff] at found
    exact h.ordered k l found.1
  · intro k cutoff late
    rw [(evictWindow r now).1] at late
    rw [h.same k cutoff late]
    simp only [Limiter.logOf, evictKeys]
    cases found : r.keys.lookup k with
    | none => rfl
    | some l =>
      cases idle : l.idle (now - r.window) with
      | false => simp [Option.filter, idle]
      | true =>
        have gone := idleAged (h.ordered k l found).sorted idle
        rw [← aliveAlive late, gone]
        simp [Option.filter, idle]

theorem freshAgrees {now : Int} {r : Limiter κ} {logs : κ → List Int} {key : κ} {peak : Int}
    (h : Agrees now r logs) (absent : r.keys.lookup key = none) :
    Agrees now { r with keys := r.keys.insert key Log.empty, peak := peak } logs := by
  refine ⟨?_, ?_⟩
  · intro k l found
    rcases lookupInserted found with ⟨-, rfl⟩ | ⟨-, held⟩
    · exact emptyOrdered now
    · exact h.ordered k l held
  · intro k cutoff late
    rw [h.same k cutoff late]
    by_cases same : k = key
    · subst k
      simp [Limiter.logOf, absent, Log.live, Log.items, Log.empty]
    · simp [Limiter.logOf, AList.lookup_insert_ne same]

theorem entrySpec {now : Int} {r : Limiter κ} {logs : κ → List Int} (h : Agrees now r logs)
    (key : κ) :
    Agrees now (r.entry key now).1 logs ∧
      (r.entry key now).1.keys.lookup key = some (r.entry key now).2 ∧
      (r.entry key now).1.window = r.window ∧ (r.entry key now).1.max = r.max := by
  unfold Limiter.entry
  split
  · rename_i l found
    exact ⟨h, found, rfl, rfl⟩
  · rename_i absent
    dsimp only
    split
    · have swept := evictAgrees h
      have still : (r.evictExpiredLocked now).keys.lookup key = none := by
        rw [evictKeys, absent]
        rfl
      exact ⟨freshAgrees swept still, AList.lookup_insert _, evictWindow r now⟩
    · exact ⟨freshAgrees h absent, AList.lookup_insert _, rfl, rfl⟩

theorem Agrees.decided {now : Int} {r : Limiter κ} {logs : κ → List Int} {key : κ} {l : Log}
    (h : Agrees now r logs) (ordered : Ordered now l) :
    Agrees now { r with keys := r.keys.insert key l } (Function.update logs key l.live) := by
  refine ⟨?_, ?_⟩
  · intro k l' found
    rcases lookupInserted found with ⟨-, rfl⟩ | ⟨-, held⟩
    · exact ordered
    · exact h.ordered k l' held
  · intro k cutoff late
    by_cases isKey : k = key
    · subst k
      simp [Limiter.logOf]
    · rw [Function.update_of_ne isKey, h.same k cutoff late]
      simp [Limiter.logOf, AList.lookup_insert_ne isKey]

theorem allowLockedSpec {past now : Int} {r : Limiter κ} {logs : κ → List Int}
    (h : Agrees past r logs) (order : past ≤ now) (grow : Nat → Nat) (key : κ) :
    ∃ b log r', rescan r.max (now - r.window) now (logs key) = (b, log) ∧
      r.allowLocked grow key now = some (b, r') ∧ r'.window = r.window ∧ r'.max = r.max ∧
      Agrees now r' (Function.update logs key log) := by
  obtain ⟨agrees, found, window, max⟩ := entrySpec (h.later order) key
  obtain ⟨b, l, allowed, ordered, decided⟩ :=
    allowSpec (agrees.ordered key _ found) (Int.le_refl now) grow (r.entry key now).1.window
      (r.entry key now).1.max
  -- The reference and the log keep the same events past this call's cutoff.
  have same : alive (now - r.window) (logs key) =
      alive (now - r.window) (r.entry key now).2.live := by
    have := agrees.same key (now - r.window) (by rw [window])
    simpa only [Limiter.logOf, found] using this
  have reference : rescan r.max (now - r.window) now (logs key) = (b, l.live) := by
    rw [window, max] at decided
    rw [← decided]
    simp only [rescan, same]
  refine ⟨b, l.live, { (r.entry key now).1 with keys := (r.entry key now).1.keys.insert key l },
    reference, ?_, window, max, agrees.decided ordered⟩
  simp only [Limiter.allowLocked, allowed, bind, Option.bind]

theorem runAgrees {past : Int} {r : Limiter κ} {logs : κ → List Int} (h : Agrees past r logs)
    (grow : Nat → Nat) {calls : List (κ × Int)} (later : ∀ c ∈ calls, past ≤ c.2)
    (monotone : calls.Pairwise (fun a b => a.2 ≤ b.2)) :
    ∃ r', r.run grow calls = some (rescanRun r.max r.window logs calls, r') := by
  induction calls generalizing past r logs with
  | nil => exact ⟨r, rfl⟩
  | cons call rest ih =>
    obtain ⟨key, now⟩ := call
    obtain ⟨first, ordered⟩ := List.pairwise_cons.mp monotone
    obtain ⟨b, log, r₁, reference, allowed, window, max, agrees⟩ :=
      allowLockedSpec h (later (key, now) (by simp)) grow key
    obtain ⟨r', tail⟩ := ih agrees first ordered
    refine ⟨r', ?_⟩
    simp only [Limiter.run, allowed, bind, Option.bind, tail, rescanRun, reference, window, max]

/-- Every decision of the limiter is the one of the rescan of that key alone,
whatever is swept, rebuilt, compacted or asked for other keys in between. -/
theorem decisionsAreRescans (grow : Nat → Nat) (max window maxKeys : Int) (calls : List (κ × Int))
    (monotone : calls.Pairwise (fun a b => a.2 ≤ b.2)) :
    ∃ bs r, (newSlidingWindowLimiter max window maxKeys).run grow calls = some (bs, r) ∧
      bs.length = calls.length ∧
      ∀ key, decisionsOf key calls bs = rescanKey max window [] (timesOf key calls) := by
  have started : ∃ past : Int, ∀ c ∈ calls, past ≤ c.2 := by
    cases calls with
    | nil => exact ⟨0, by simp⟩
    | cons call rest =>
      refine ⟨call.2, ?_⟩
      intro c mem
      rcases List.mem_cons.mp mem with rfl | inRest
      · exact Int.le_refl _
      · exact (List.pairwise_cons.mp monotone).1 c inRest
  obtain ⟨past, later⟩ := started
  obtain ⟨r, ran⟩ := runAgrees (newAgrees past max window maxKeys) grow later monotone
  exact ⟨_, r, ran, rescanRunLength _ _ _ calls, rescanRunOf max window (fun _ => []) calls⟩

theorem decisionsAreRescansSwept :
    let calls : List (Nat × Int) := [(0, 0), (0, 9), (1, 10), (0, 10), (0, 19), (0, 20)]
    calls.Pairwise (fun a b => a.2 ≤ b.2) ∧
    ∃ bs r, (newSlidingWindowLimiter 1 10 1).run (fun n => 2 * n) calls = some (bs, r) ∧
      bs.length = calls.length ∧
      ∀ key, decisionsOf key calls bs = rescanKey 1 10 [] (timesOf key calls) :=
  ⟨by decide, decisionsAreRescans _ 1 10 1 _ (by decide)⟩

example : rescanKey 1 10 [] [0, 9, 10, 19, 20] = [true, false, true, false, true] := by decide

end RetryEndpoint.SlidingWindow
