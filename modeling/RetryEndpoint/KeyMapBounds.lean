import RetryEndpoint.SlidingWindow
import RetryEndpoint.Runs

/-! The size of the limiter's key map over whole runs. Keys come from anybody's
packets, so the bound is one on every sequence of calls: what a sweep leaves and
what has been inserted since are all the map holds, and no key outlives its last
admitted event by more than two windows once another key is inserted. -/
namespace RetryEndpoint.KeyMapBounds
open WindowLog EventLog KeyedMap SlidingWindow Runs

variable {κ : Type} [DecidableEq κ]

def isNew (r : Limiter κ) (key : κ) : Bool := (r.keys.lookup key).isNone

def fullMap (r : Limiter κ) (key : κ) : Bool := isNew r key && decide (r.sweepAt ≤ (size r.keys : Int))

def sweeps (r : Limiter κ) (key : κ) (now : Int) : Bool :=
  isNew r key && decide ((size r.keys : Int) ≥ r.sweepAt ∨ now - r.lastSweep ≥ r.window)

/- The limiter with what the run did beside it: every admitted time of every key,
how many keys the last sweep left, how many were inserted since. -/
structure Track (κ : Type) where
  limiter : Limiter κ
  admitted : κ → List Int
  live : Nat
  inserted : Nat

def start (max window maxKeys : Int) : Track κ :=
  ⟨newSlidingWindowLimiter max window maxKeys, fun _ => [], 0, 0⟩

def Track.step (grow : Nat → Nat) (s : Track κ) (call : κ × Int) : Option (Track κ) := do
  let (b, r) ← s.limiter.allowLocked grow call.1 call.2
  some {
    limiter := r
    admitted := if b then Function.update s.admitted call.1 (call.2 :: s.admitted call.1) else s.admitted
    live := if sweeps s.limiter call.1 call.2 then size (s.limiter.evictExpiredLocked call.2).keys
      else s.live
    inserted := (if sweeps s.limiter call.1 call.2 then 0 else s.inserted) +
      if isNew s.limiter call.1 then 1 else 0 }

def readied (r : Limiter κ) (key : κ) (now : Int) : Limiter κ :=
  if sweeps r key now then r.evictExpiredLocked now else r

def seated (r : Limiter κ) (key : κ) (now : Int) (l : Log) : Limiter κ :=
  let s := readied r key now
  let keys := s.keys.insert key l
  { s with keys := keys, peak := if isNew r key then Max.max s.peak (size keys : Int) else s.peak }

theorem readiedOld {r : Limiter κ} {key : κ} {now : Int} (old : isNew r key = false) :
    readied r key now = r := by
  simp [readied, sweeps, old]

theorem readiedNew {r : Limiter κ} {key : κ} {now : Int} (new : isNew r key = true) :
    (readied r key now).keys.lookup key = none := by
  have absent : r.keys.lookup key = none := by simpa [isNew] using new
  unfold readied
  split
  · rw [evictKeys, absent]
    rfl
  · exact absent

theorem allowLockedSeats {past now : Int} {r : Limiter κ}
    (ordered : ∀ k l, r.keys.lookup k = some l → Ordered past l) (order : past ≤ now)
    (grow : Nat → Nat) (key : κ) :
    ∃ b l, r.allowLocked grow key now = some (b, seated r key now l) ∧ Ordered now l ∧
      rescan r.max (now - r.window) now (r.logOf key) = (b, l.live) := by
  cases found : r.keys.lookup key with
  | some old =>
    obtain ⟨b, l, allowed, ordered', decided⟩ :=
      allowSpec (ordered key old found) order grow r.window r.max
    have isOld : isNew r key = false := by simp [isNew, found]
    refine ⟨b, l, ?_, ordered', by simpa only [Limiter.logOf, found] using decided⟩
    simp only [Limiter.allowLocked, Limiter.entry, found, allowed, bind, Option.bind, seated,
      readiedOld isOld, isOld, Bool.false_eq_true, if_false]
  | none =>
    have new : isNew r key = true := by simp [isNew, found]
    have same : (readied r key now).window = r.window ∧ (readied r key now).max = r.max := by
      unfold readied
      split
      · exact evictWindow r now
      · exact ⟨rfl, rfl⟩
    have entered : r.entry key now = (seated r key now Log.empty, Log.empty) := by
      simp only [Limiter.entry, found, seated, readied, sweeps, new, Bool.true_and, if_true,
        decide_eq_true_eq]
    obtain ⟨b, l, allowed, ordered', decided⟩ :=
      allowSpec (emptyOrdered past) order grow r.window r.max
    refine ⟨b, l, ?_, ordered', by simp only [Limiter.logOf, found]; exact decided⟩
    have sizes : size ((readied r key now).keys.insert key Log.empty) =
        size ((readied r key now).keys.insert key l) := by
      rw [sizeInsertNew (readiedNew new), sizeInsertNew (readiedNew new)]
    have window : (seated r key now Log.empty).window = r.window := same.1
    have max : (seated r key now Log.empty).max = r.max := same.2
    simp only [Limiter.allowLocked, entered, window, max, allowed, bind, Option.bind]
    simp only [seated, AList.insert_insert, new, if_true, sizes, same.1, same.2]

theorem evictCounts (r : Limiter κ) (now : Int) :
    let s := r.evictExpiredLocked now
    s.sweepAt = Max.max r.maxKeys (2 * (size s.keys : Int)) ∧ s.lastSweep = now ∧
      s.maxKeys = r.maxKeys ∧ size s.keys ≤ size r.keys ∧ s.peak ≤ 4 * (size s.keys : Int) ∧
      ((size r.keys : Int) ≤ r.peak → (size s.keys : Int) ≤ s.peak) := by
  have fewer := sizeKeep (fun l => !Log.idle l (now - r.window)) r.keys
  unfold Limiter.evictExpiredLocked
  dsimp only
  split
  · rename_i shrunk
    dsimp only
    rw [sizeRebuild]
    refine ⟨rfl, rfl, rfl, fewer, by omega, by omega⟩
  · rename_i kept
    refine ⟨rfl, rfl, rfl, fewer, by dsimp only; omega, ?_⟩
    intro peak
    dsimp only
    omega

theorem evictLive {now past : Int} {r : Limiter κ} {k : κ} {l : Log}
    (ordered : ∀ k l, r.keys.lookup k = some l → Ordered past l)
    (found : (r.evictExpiredLocked now).keys.lookup k = some l) :
    r.keys.lookup k = some l ∧ ∃ t ∈ l.live, now - r.window < t := by
  rw [evictKeys, Option.filter_eq_some_iff] at found
  obtain ⟨held, busy⟩ := found
  refine ⟨held, ?_⟩
  have inside := (ordered k l held).inside
  simp only [Log.idle] at busy
  split at busy
  · simp at busy
  · rename_i last isLast
    have nonempty : l.items ≠ [] := by
      intro e
      simp [e] at isLast
    have liveLast : l.live.getLast? = some last := by
      rw [Log.live, List.getLast?_drop, if_neg (by have := inside nonempty; omega), isLast]
    exact ⟨last, List.mem_of_getLast? liveLast, by simpa using busy⟩

theorem rescanLive {max window now : Int} {log live : List Int} {b : Bool} (some' : 1 ≤ max)
    (wide : 0 < window) (decided : rescan max (now - window) now log = (b, live)) :
    ∃ t ∈ live, now - window < t := by
  unfold rescan at decided
  dsimp only at decided
  split at decided
  · cases decided
    exact ⟨now, by simp, by omega⟩
  · rename_i full
    cases decided
    obtain ⟨t, mem⟩ := List.exists_mem_of_length_pos
      (by omega : 0 < (alive (now - window) log).length)
    exact ⟨t, mem, by simpa using (List.mem_filter.mp mem).2⟩

theorem rescanAdmits {max cutoff now : Int} {log live : List Int} {b : Bool}
    (decided : rescan max cutoff now log = (b, live)) :
    ∀ t ∈ live, t ∈ log ∨ b = true ∧ t = now := by
  intro t mem
  unfold rescan at decided
  dsimp only at decided
  split at decided
  · cases decided
    rcases List.mem_append.mp mem with old | isNow
    · exact .inl (List.mem_filter.mp old).1
    · exact .inr ⟨rfl, List.mem_singleton.mp isNow⟩
  · cases decided
    exact .inl (List.mem_filter.mp mem).1

structure Bounded (max window maxKeys now : Int) (s : Track κ) : Prop where
  settings : s.limiter.max = max ∧ s.limiter.window = window ∧ s.limiter.maxKeys = maxKeys
  ordered : ∀ k l, s.limiter.keys.lookup k = some l → Ordered now l
  recorded : ∀ k l, s.limiter.keys.lookup k = some l → ∀ t ∈ l.live, t ∈ s.admitted k
  fresh : ∀ k l, s.limiter.keys.lookup k = some l → ∃ t ∈ l.live, s.limiter.lastSweep - window < t
  sweptBefore : s.limiter.lastSweep ≤ now
  sweepAt : s.limiter.sweepAt = Max.max maxKeys (2 * (s.live : Int))
  held : size s.limiter.keys = s.live + s.inserted
  below : (size s.limiter.keys : Int) ≤ s.limiter.sweepAt
  peak : (size s.limiter.keys : Int) ≤ s.limiter.peak

theorem startBounded (max window maxKeys : Int) (some' : 1 ≤ maxKeys) :
    Bounded max window maxKeys 0 (start max window maxKeys : Track κ) := by
  refine ⟨⟨rfl, rfl, rfl⟩, ?_, ?_, ?_, Int.le_refl _, ?_, rfl, ?_, Int.le_refl _⟩
  · intro k l found; simp [start, newSlidingWindowLimiter] at found
  · intro k l found; simp [start, newSlidingWindowLimiter] at found
  · intro k l found; simp [start, newSlidingWindowLimiter] at found
  · simp only [start, newSlidingWindowLimiter]; omega
  · simp only [start, newSlidingWindowLimiter, size, AList.empty_entries, List.length_nil]; omega

section Keep
variable {max window maxKeys now : Int} {s : Track κ}

theorem Bounded.later {next : Int} (h : Bounded max window maxKeys now s) (order : now ≤ next) :
    Bounded max window maxKeys next s :=
  ⟨h.settings, fun k l found => (h.ordered k l found).later order, h.recorded, h.fresh,
    Int.le_trans h.sweptBefore order, h.sweepAt, h.held, h.below, h.peak⟩

theorem Bounded.sweep (h : Bounded max window maxKeys now s) :
    Bounded max window maxKeys now { s with
      limiter := s.limiter.evictExpiredLocked now
      live := size (s.limiter.evictExpiredLocked now).keys
      inserted := 0 } := by
  obtain ⟨sweepAt, lastSweep, keys, -, -, peak⟩ := evictCounts s.limiter now
  obtain ⟨sameMax, sameWindow, sameKeys⟩ := h.settings
  obtain ⟨width, most⟩ := evictWindow s.limiter now
  refine ⟨⟨most.trans sameMax, width.trans sameWindow, keys.trans sameKeys⟩, ?_, ?_, ?_,
    Int.le_of_eq lastSweep, by rw [sweepAt, sameKeys], by simp, ?_, peak h.peak⟩
  · intro k l found
    exact h.ordered k l (evictLive h.ordered found).1
  · intro k l found
    exact h.recorded k l (evictLive h.ordered found).1
  · intro k l found
    obtain ⟨t, mem, late⟩ := (evictLive h.ordered found).2
    exact ⟨t, mem, by rw [lastSweep, ← sameWindow]; exact late⟩
  · dsimp only
    omega

theorem Bounded.seat (h : Bounded max window maxKeys now s) {key : κ} {l : Log}
    {admitted : κ → List Int} (more : ∀ k t, t ∈ s.admitted k → t ∈ admitted k)
    (ordered : Ordered now l) (recorded : ∀ t ∈ l.live, t ∈ admitted key)
    (fresh : ∃ t ∈ l.live, now - window < t)
    (room : isNew s.limiter key = true → (size s.limiter.keys : Int) < s.limiter.sweepAt) :
    let keys := s.limiter.keys.insert key l
    Bounded max window maxKeys now {
      limiter := { s.limiter with
        keys := keys
        peak := if isNew s.limiter key then Max.max s.limiter.peak (size keys : Int)
          else s.limiter.peak }
      admitted := admitted
      live := s.live
      inserted := s.inserted + if isNew s.limiter key then 1 else 0 } := by
  intro keys
  have sizes : size keys = size s.limiter.keys + if isNew s.limiter key then 1 else 0 := sizeInsert l
  refine ⟨h.settings, ?_, ?_, ?_, h.sweptBefore, h.sweepAt, ?_, ?_, ?_⟩
  · intro k l' found
    rcases lookupInserted found with ⟨-, rfl⟩ | ⟨-, held⟩
    · exact ordered
    · exact h.ordered k l' held
  · intro k l' found t mem
    rcases lookupInserted found with ⟨rfl, rfl⟩ | ⟨-, held⟩
    · exact recorded t mem
    · exact more k t (h.recorded k l' held t mem)
  · intro k l' found
    rcases lookupInserted found with ⟨-, rfl⟩ | ⟨-, held⟩
    · obtain ⟨t, mem, late⟩ := fresh
      exact ⟨t, mem, by have := h.sweptBefore; dsimp only; omega⟩
    · exact h.fresh k l' held
  · dsimp only
    rw [sizes, h.held]
    omega
  · have below := h.below
    dsimp only
    rw [sizes]
    cases new : isNew s.limiter key with
    | false => simpa using below
    | true =>
      have := room new
      simp only [if_true]
      omega
  · have peak := h.peak
    dsimp only
    cases new : isNew s.limiter key with
    | false =>
      rw [sizes, new]
      simpa using peak
    | true =>
      simp only [if_true]
      omega

theorem Bounded.ready (h : Bounded max window maxKeys now s) (some' : 1 ≤ maxKeys) (wide : 0 < window)
    (key : κ) :
    Bounded max window maxKeys now { s with
      limiter := readied s.limiter key now
      live := if sweeps s.limiter key now then size (s.limiter.evictExpiredLocked now).keys else s.live
      inserted := if sweeps s.limiter key now then 0 else s.inserted } ∧
    (isNew s.limiter key = true →
      (size (readied s.limiter key now).keys : Int) < (readied s.limiter key now).sweepAt ∧
      now - window < (readied s.limiter key now).lastSweep) := by
  unfold readied
  cases swept : sweeps s.limiter key now with
  | true =>
    obtain ⟨sweepAt, lastSweep, -⟩ := evictCounts s.limiter now
    have keys := h.settings.2.2
    refine ⟨h.sweep, ?_⟩
    intro _
    simp only [if_true]
    omega
  | false =>
    refine ⟨h, ?_⟩
    intro new
    have width := h.settings.2.1
    simp only [sweeps, new, Bool.true_and, decide_eq_false_iff_not, not_or] at swept
    simp only [Bool.false_eq_true, if_false]
    omega

theorem stepBounded {past : Int} (h : Bounded max window maxKeys past s) (order : past ≤ now)
    (some' : 1 ≤ max) (keys' : 1 ≤ maxKeys) (wide : 0 < window) (grow : Nat → Nat) (key : κ) :
    ∃ s', s.step grow (key, now) = some s' ∧ Bounded max window maxKeys now s' ∧
      (isNew s.limiter key = true → now - window < s'.limiter.lastSweep) := by
  obtain ⟨b, l, allowed, ordered, decided⟩ := allowLockedSeats h.ordered order grow key
  obtain ⟨ready, room⟩ := (h.later order).ready keys' wide key
  obtain ⟨most, width, -⟩ := h.settings
  rw [most, width] at decided
  let admitted := if b then Function.update s.admitted key (now :: s.admitted key) else s.admitted
  have more : ∀ k t, t ∈ s.admitted k → t ∈ admitted k := by
    intro k t mem
    simp only [admitted]
    split
    · by_cases same : k = key
      · subst k
        rw [Function.update_self]
        exact List.mem_cons_of_mem _ mem
      · rwa [Function.update_of_ne same]
    · exact mem
  have recorded : ∀ t ∈ l.live, t ∈ admitted key := by
    intro t mem
    rcases rescanAdmits decided t mem with old | ⟨rfl, rfl⟩
    · apply more
      simp only [Limiter.logOf] at old
      split at old
      · cases old
      · rename_i held found
        exact h.recorded key held found t old
    · simp [admitted]
  have sameNew : isNew (readied s.limiter key now) key = isNew s.limiter key := by
    cases new : isNew s.limiter key with
    | true => simp [isNew, readiedNew new]
    | false => rw [readiedOld new, new]
  have seat := ready.seat more ordered recorded (rescanLive some' wide decided)
    (fun new => (room (sameNew ▸ new)).1)
  refine ⟨_, ?_, seat, fun new => (room new).2⟩
  simp only [Track.step, allowed, bind, Option.bind, seated, sameNew, admitted]

theorem runBounded {past : Int} (h : Bounded max window maxKeys past s) (some' : 1 ≤ max)
    (keys' : 1 ≤ maxKeys) (wide : 0 < window) (grow : Nat → Nat) {calls : List (κ × Int)}
    (later : ∀ c ∈ calls, past ≤ c.2) (monotone : calls.Pairwise (fun a b => a.2 ≤ b.2)) :
    ∃ s' last, run (Track.step grow) s calls = some s' ∧ Bounded max window maxKeys last s' ∧
      (last = past ∨ ∃ c ∈ calls, c.2 = last) := by
  induction calls generalizing past s with
  | nil => exact ⟨s, past, rfl, h, .inl rfl⟩
  | cons call rest ih =>
    obtain ⟨key, now⟩ := call
    obtain ⟨first, ordered⟩ := List.pairwise_cons.mp monotone
    obtain ⟨s₁, stepped, bounded, -⟩ :=
      stepBounded h (later (key, now) List.mem_cons_self) some' keys' wide grow key
    obtain ⟨s', last, ran, tail, reached⟩ := ih bounded first ordered
    refine ⟨s', last, ?_, tail, .inr ?_⟩
    · simp only [run, stepped, bind, Option.bind, ran]
    · rcases reached with rfl | ⟨c, mem, same⟩
      · exact ⟨(key, last), List.mem_cons_self, rfl⟩
      · exact ⟨c, List.mem_cons_of_mem _ mem, same⟩

end Keep

/-- After any calls the map holds no more keys than sweepAt and peak say; and in the
next call, a new key leaves no key behind without an event of the last two windows, a
sweep leaves the peak within four times the keys, and one forced by the size scans at
most two keys for each one inserted since the last. -/
theorem keyMapBounded (grow : Nat → Nat) (max window maxKeys : Int) (some' : 1 ≤ max)
    (keys' : 1 ≤ maxKeys) (wide : 0 < window) (calls : List (κ × Int))
    (clock : ∀ c ∈ calls, 0 ≤ c.2) (monotone : calls.Pairwise (fun a b => a.2 ≤ b.2)) :
    ∃ s, run (Track.step grow) (start max window maxKeys) calls = some s ∧
      ((size s.limiter.keys : Int) ≤ s.limiter.sweepAt ∧
        s.limiter.sweepAt = Max.max maxKeys (2 * (s.live : Int))) ∧
      (size s.limiter.keys : Int) ≤ s.limiter.peak ∧
      ∀ key now, 0 ≤ now → (∀ c ∈ calls, c.2 ≤ now) → ∃ s', s.step grow (key, now) = some s' ∧
        (isNew s.limiter key = true → ∀ k l, s'.limiter.keys.lookup k = some l →
          ∃ t ∈ s'.admitted k, now - 2 * window < t) ∧
        (sweeps s.limiter key now = true →
          let swept := s.limiter.evictExpiredLocked now
          (size swept.keys : Int) ≤ swept.peak ∧ swept.peak ≤ 4 * (size swept.keys : Int)) ∧
        (fullMap s.limiter key = true → size s.limiter.keys ≤ 2 * s.inserted) := by
  obtain ⟨s, last, ran, h, reached⟩ := runBounded (startBounded max window maxKeys keys') some' keys'
    wide grow clock monotone
  refine ⟨s, ran, ⟨h.below, h.sweepAt⟩, h.peak, ?_⟩
  intro key now nonneg later
  have order : last ≤ now := by
    rcases reached with rfl | ⟨c, mem, rfl⟩
    · exact nonneg
    · exact later c mem
  obtain ⟨s', stepped, next, recent⟩ := stepBounded h order some' keys' wide grow key
  refine ⟨s', stepped, ?_, ?_, ?_⟩
  · intro new k l found
    obtain ⟨t, mem, late⟩ := next.fresh k l found
    have swept := recent new
    exact ⟨t, next.recorded k l found t mem, by omega⟩
  · intro _
    obtain ⟨-, -, -, -, few, peak⟩ := evictCounts s.limiter now
    exact ⟨peak h.peak, few⟩
  · intro full
    simp only [fullMap, Bool.and_eq_true, decide_eq_true_eq] at full
    have held := h.held
    have sweepAt := h.sweepAt
    omega

theorem keyMapBoundedBurst :
    let calls : List (Nat × Int) := [(0, 0), (1, 1), (2, 2), (3, 2), (4, 13)]
    (∀ c ∈ calls, 0 ≤ c.2) ∧ calls.Pairwise (fun a b => a.2 ≤ b.2) ∧
    ∃ s s', run (Track.step (fun n => 2 * n)) (start 1 10 1) calls = some s ∧
      (size s.limiter.keys : Int) ≤ s.limiter.sweepAt ∧
      s.step (fun n => 2 * n) (5, 24) = some s' ∧
      (isNew s.limiter 5 = true → ∀ k l, s'.limiter.keys.lookup k = some l →
        ∃ t ∈ s'.admitted k, 24 - 2 * 10 < t) := by
  intro calls
  have clock : ∀ c ∈ calls, 0 ≤ c.2 := by decide
  have monotone : calls.Pairwise (fun a b => a.2 ≤ b.2) := by decide
  obtain ⟨s, ran, below, -, next⟩ := keyMapBounded (fun n => 2 * n) 1 10 1 (by decide) (by decide)
    (by decide) calls clock monotone
  obtain ⟨s', stepped, fresh, -⟩ := next 5 24 (by decide) (by decide)
  exact ⟨clock, monotone, s, s', ran, below.1, stepped, fresh⟩

end RetryEndpoint.KeyMapBounds
