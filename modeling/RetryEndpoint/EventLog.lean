import RetryEndpoint.WindowLog

/-! The per-key event log of ratelimit.go. Timestamps are the monotonic clock's
nanoseconds; for a clock that is never negative and a positive window no
difference taken here leaves the range of an int64, so they are integers.
A slice keeps its capacity, because the code chooses between truncating,
copying down and reallocating by it; how far append grows an array is the
runtime's choice and stays a parameter. An index out of range is `none`. -/
namespace RetryEndpoint.EventLog
open WindowLog

def logInitCap : Nat := 4
def logShrinkCap : Nat := 256

structure Slice where
  items : List Int
  cap : Nat
  fits : items.length ≤ cap

def Slice.make (cap : Nat) : Slice := ⟨[], cap, Nat.zero_le cap⟩

/- s[:0]: the array stays. -/
def Slice.truncate (s : Slice) : Slice := ⟨[], s.cap, Nat.zero_le s.cap⟩

/- s[:copy(s, s[head:])] moves the tail of s to the front of the same array. -/
def Slice.copyDown (s : Slice) (head : Nat) : Slice :=
  ⟨s.items.drop head, s.cap, by have := s.fits; simp only [List.length_drop]; omega⟩

/- append(make([]int64, 0, 2*len(live)), live...) -/
def Slice.move (live : List Int) : Slice := ⟨live, 2 * live.length, by omega⟩

def Slice.append (grow : Nat → Nat) (s : Slice) (x : Int) : Slice :=
  if room : s.items.length < s.cap then ⟨s.items ++ [x], s.cap, by simpa using Nat.succ_le_of_lt room⟩
  else ⟨s.items ++ [x], max (grow s.cap) (s.items.length + 1), by simp⟩

/- ts = none is the nil slice. ts[:head] have expired. -/
structure Log where
  ts : Option Slice
  head : Nat

def Log.empty : Log := ⟨none, 0⟩

def Log.items (l : Log) : List Int := match l.ts with
  | none => []
  | some s => s.items

/- for l.ts[l.head] <= cutoff { l.head++ }, read along ts[head:]. Running off
the end is the out-of-range index the loop has no test for. -/
def scan (cutoff : Int) : List Int → Nat → Option Nat
  | [], _ => none
  | t :: rest, head => if t ≤ cutoff then scan cutoff rest (head + 1) else some head

def Log.expire (l : Log) (cutoff : Int) : Option Log :=
  match l.ts with
  | none => some l
  | some s =>
    match s.items.getLast? with
    | none => some l
    | some last =>
      if last ≤ cutoff then
        -- The whole window has aged out.
        if s.cap > logShrinkCap then some ⟨none, 0⟩ else some ⟨some s.truncate, 0⟩
      else do
        let head ← scan cutoff (s.items.drop l.head) l.head
        if 2 * head < s.items.length then some { l with head := head }
        else
          let live := s.items.drop head
          if s.cap > logShrinkCap ∧ 8 * live.length < s.cap then some ⟨some (Slice.move live), 0⟩
          else some ⟨some (s.copyDown head), 0⟩

def Log.allow (grow : Nat → Nat) (l : Log) (now window max : Int) : Option (Bool × Log) := do
  let l ← l.expire (now - window)
  if (l.items.length : Int) - l.head ≥ max then some (false, l)
  else
    let s := l.ts.getD (Slice.make logInitCap)
    some (true, { l with ts := some (s.append grow now) })

def Log.idle (l : Log) (cutoff : Int) : Bool := match l.items.getLast? with
  | none => true
  | some last => decide (last ≤ cutoff)

def Log.live (l : Log) : List Int := l.items.drop l.head

/- The log as calls up to time now leave it. The head is inside the slice
unless the slice is empty, which is all that keeps the unguarded loop in range. -/
structure Ordered (now : Int) (l : Log) : Prop where
  sorted : l.items.Pairwise (· ≤ ·)
  past : ∀ t ∈ l.items, t ≤ now
  inside : l.items ≠ [] → l.head < l.items.length
  start : l.items = [] → l.head = 0

theorem emptyOrdered (now : Int) : Ordered now Log.empty :=
  ⟨List.Pairwise.nil, by simp [Log.empty, Log.items], by simp [Log.empty, Log.items], fun _ => rfl⟩

theorem Ordered.later {now next : Int} {l : Log} (h : Ordered now l) (order : now ≤ next) :
    Ordered next l :=
  ⟨h.sorted, fun t mem => Int.le_trans (h.past t mem) order, h.inside, h.start⟩

/- The scan stops at the first event after the cutoff: there is one, because
the caller has looked at the last event before starting it. -/
theorem scanStops {cutoff last : Int} {xs : List Int} (head : Nat)
    (found : xs.getLast? = some last) (fresh : cutoff < last) :
    ∃ n x rest, scan cutoff xs head = some (head + n) ∧ xs.drop n = x :: rest ∧
      cutoff < x ∧ ∀ t ∈ xs.take n, t ≤ cutoff := by
  induction xs generalizing head with
  | nil => simp at found
  | cons t rest ih =>
    by_cases aged : t ≤ cutoff
    · have tail : rest.getLast? = some last := by
        cases rest with
        | nil =>
          have same : t = last := by simpa using found
          omega
        | cons u us => simpa [List.getLast?_cons_cons] using found
      obtain ⟨n, x, more, stops, here, after, before⟩ := ih (head + 1) tail
      refine ⟨n + 1, x, more, ?_, by simpa using here, after, ?_⟩
      · simp only [scan, if_pos aged, stops]
        congr 1
        omega
      · intro u mem
        rcases List.mem_cons.mp (by simpa using mem) with rfl | inRest
        · exact aged
        · exact before u inRest
    · exact ⟨0, t, rest, by simp [scan, aged], rfl, by omega, by simp⟩

theorem lengthLive {now : Int} {l : Log} (h : Ordered now l) :
    (l.live.length : Int) = (l.items.length : Int) - l.head := by
  by_cases nothing : l.items = []
  · simp [Log.live, nothing, h.start nothing]
  · have := h.inside nothing
    simp only [Log.live, List.length_drop]
    omega

theorem liveAged {cutoff last : Int} {l : Log} (sorted : l.items.Pairwise (· ≤ ·))
    (found : l.items.getLast? = some last) (old : last ≤ cutoff) : alive cutoff l.live = [] := by
  apply aliveEmpty
  intro t mem
  exact agedOfLast sorted found old t (List.mem_of_mem_drop mem)

theorem Ordered.suffix {now : Int} {l l' : Log} {n : Nat} (h : Ordered now l)
    (same : l'.items = l.items.drop n) (inside : l'.items ≠ [] → l'.head < l'.items.length)
    (start : l'.items = [] → l'.head = 0) : Ordered now l' := by
  refine ⟨?_, ?_, inside, start⟩
  · rw [same]
    exact h.sorted.sublist (List.drop_sublist n l.items)
  · intro t mem
    rw [same] at mem
    exact h.past t (List.mem_of_mem_drop mem)

structure Scanned (cutoff : Int) (l : Log) (stop : Nat) : Prop where
  stops : scan cutoff (l.items.drop l.head) l.head = some stop
  ahead : l.head ≤ stop
  inside : stop < l.items.length
  kept : alive cutoff l.live = l.items.drop stop

theorem scanKeeps {now cutoff last : Int} {l : Log} (h : Ordered now l)
    (found : l.items.getLast? = some last) (fresh : cutoff < last) :
    ∃ stop, Scanned cutoff l stop := by
  have nonempty : l.items ≠ [] := by
    intro e
    simp [e] at found
  have inside := h.inside nonempty
  have liveLast : (l.items.drop l.head).getLast? = some last := by
    rw [List.getLast?_drop, if_neg (by omega), found]
  obtain ⟨n, x, rest, stops, here, after, before⟩ := scanStops l.head liveLast fresh
  rw [List.drop_drop] at here
  have order : (x :: rest).Pairwise (· ≤ ·) := by
    rw [← here]
    exact h.sorted.sublist (List.drop_sublist _ _)
  refine ⟨l.head + n, stops, Nat.le_add_right .., ?_, ?_⟩
  · apply Nat.lt_of_not_le
    intro past
    rw [List.drop_eq_nil_of_le past] at here
    cases here
  · have stepped := aliveDrop before
    rw [List.drop_drop, here, aliveSelf (laterOfHead order after)] at stepped
    rw [here, stepped]
    rfl

inductive Expired (cutoff : Int) (l : Log) : Log → Prop where
  | empty (nothing : l.items = []) : Expired cutoff l l
  | cleared {l'} (aged : ∀ t ∈ l.items, t ≤ cutoff) (items : l'.items = []) (head : l'.head = 0) :
      Expired cutoff l l'
  | stepped {stop} (scanned : Scanned cutoff l stop) (front : 2 * stop < l.items.length) :
      Expired cutoff l { l with head := stop }
  | moved {stop l'} (scanned : Scanned cutoff l stop) (back : l.items.length ≤ 2 * stop)
      (items : l'.items = l.items.drop stop) (head : l'.head = 0) : Expired cutoff l l'

theorem expireTook {now : Int} {l : Log} (h : Ordered now l) (cutoff : Int) :
    ∃ l', l.expire cutoff = some l' ∧ Expired cutoff l l' := by
  unfold Log.expire
  split
  · rename_i isNil
    exact ⟨l, rfl, .empty (by simp [Log.items, isNil])⟩
  · rename_i s isSome
    have items : l.items = s.items := by simp [Log.items, isSome]
    split
    · rename_i noLast
      exact ⟨l, rfl, .empty (by rw [items, List.getLast?_eq_none_iff.mp noLast])⟩
    · rename_i last found
      rw [← items] at found
      split
      · rename_i old
        have aged := agedOfLast h.sorted found old
        split
        · exact ⟨_, rfl, .cleared aged rfl rfl⟩
        · exact ⟨_, rfl, .cleared aged rfl rfl⟩
      · rename_i fresh
        obtain ⟨stop, scanned⟩ := scanKeeps h found (by omega : cutoff < last)
        have stops := scanned.stops
        rw [items] at stops
        simp only [stops, bind, Option.bind]
        split
        · rename_i front
          exact ⟨_, rfl, .stepped scanned (by rw [items]; exact front)⟩
        · rename_i back
          have back' : l.items.length ≤ 2 * stop := by
            rw [items]
            exact Nat.not_lt.mp back
          split
          · exact ⟨_, rfl, .moved scanned back' (by rw [items]; rfl) rfl⟩
          · exact ⟨_, rfl, .moved scanned back' (by rw [items]; rfl) rfl⟩

section Expired
variable {now cutoff : Int} {l l' : Log}

/- All three storage strategies of expire leave exactly what a rescan keeps. -/
theorem Expired.live (h : Expired cutoff l l') : l'.live = alive cutoff l.live := by
  cases h with
  | empty nothing => simp [Log.live, nothing]
  | cleared aged items head =>
    have gone : alive cutoff l.live = [] := aliveEmpty fun t mem => aged t (List.mem_of_mem_drop mem)
    rw [gone, Log.live, items, List.drop_nil]
  | stepped scanned front => exact scanned.kept.symm
  | moved scanned back items head => rw [scanned.kept, Log.live, items, head, List.drop_zero]

theorem Expired.ordered (h : Expired cutoff l l') (ordered : Ordered now l) : Ordered now l' := by
  cases h with
  | empty => exact ordered
  | cleared aged items head =>
    refine ordered.suffix (n := l.items.length) (by rw [items, List.drop_length]) ?_ (fun _ => head)
    exact fun ne => absurd items ne
  | stepped scanned front =>
    refine ordered.suffix (n := 0) rfl (fun _ => scanned.inside) ?_
    intro nothing
    have inside := scanned.inside
    rw [show l.items = [] from nothing] at inside
    cases inside
  | moved scanned back items head =>
    refine ordered.suffix items ?_ (fun _ => head)
    intro ne
    rw [head]
    exact List.length_pos_iff.mpr ne

end Expired

theorem expireSpec {now : Int} {l : Log} (h : Ordered now l) (cutoff : Int) :
    ∃ l', l.expire cutoff = some l' ∧ Ordered now l' ∧ l'.live = alive cutoff l.live := by
  obtain ⟨l', expired, took⟩ := expireTook h cutoff
  exact ⟨l', expired, took.ordered h, took.live⟩

def rescan (max cutoff now : Int) (log : List Int) : Bool × List Int :=
  let kept := alive cutoff log
  if (kept.length : Int) < max then (true, kept ++ [now]) else (false, kept)

theorem appendItems (grow : Nat → Nat) (s : Slice) (x : Int) :
    (s.append grow x).items = s.items ++ [x] := by
  unfold Slice.append
  split <;> rfl

theorem Ordered.record {past now : Int} {l : Log} (h : Ordered past l) (order : past ≤ now)
    (grow : Nat → Nat) :
    let l' : Log := { l with ts := some ((l.ts.getD (Slice.make logInitCap)).append grow now) }
    Ordered now l' ∧ l'.live = l.live ++ [now] := by
  intro l'
  have items : l'.items = l.items ++ [now] := by
    simp only [l', Log.items, appendItems]
    cases l.ts <;> rfl
  have headLe : l.head ≤ l.items.length := by
    by_cases nothing : l.items = []
    · simp [h.start nothing]
    · exact Nat.le_of_lt (h.inside nothing)
  refine ⟨⟨?_, ?_, ?_, ?_⟩, ?_⟩
  · rw [items, List.pairwise_append]
    refine ⟨h.sorted, by simp, ?_⟩
    intro t mem u isNow
    rw [List.mem_singleton.mp isNow]
    exact Int.le_trans (h.past t mem) order
  · intro t mem
    rw [items] at mem
    rcases List.mem_append.mp mem with old | isNow
    · exact Int.le_trans (h.past t old) order
    · exact Int.le_of_eq (List.mem_singleton.mp isNow)
  · intro _
    rw [items, List.length_append]
    exact Nat.lt_succ_of_le headLe
  · intro e
    simp [items] at e
  · simp only [Log.live, items]
    exact List.drop_append_of_le_length headLe

theorem allowSpec {past now : Int} {l : Log} (h : Ordered past l) (order : past ≤ now)
    (grow : Nat → Nat) (window max : Int) :
    ∃ b l', l.allow grow now window max = some (b, l') ∧ Ordered now l' ∧
      rescan max (now - window) now l.live = (b, l'.live) := by
  obtain ⟨l₁, expired, ordered, live⟩ := expireSpec h (now - window)
  have count := lengthLive ordered
  simp only [Log.allow, expired, bind, Option.bind]
  split
  · rename_i full
    refine ⟨false, l₁, rfl, ordered.later order, ?_⟩
    simp only [rescan, ← live]
    rw [if_neg (by omega)]
  · rename_i room
    obtain ⟨ordered', live'⟩ := ordered.record order grow
    refine ⟨true, _, rfl, ordered', ?_⟩
    simp only [rescan, ← live]
    rw [if_pos (by omega), live']

theorem idleAged {cutoff : Int} {l : Log} (sorted : l.items.Pairwise (· ≤ ·))
    (idle : l.idle cutoff = true) : alive cutoff l.live = [] := by
  unfold Log.idle at idle
  split at idle
  · rename_i noLast
    simp [Log.live, List.getLast?_eq_none_iff.mp noLast]
  · rename_i last found
    exact liveAged sorted found (by simpa using idle)

end RetryEndpoint.EventLog
