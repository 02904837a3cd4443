import RetryEndpoint.EventLog

/-! How one key's log lies in memory after any run of calls. The times of the calls
are int64 values and so is the difference allow takes of them; one below the range
wraps to a cutoff that is too late, which forgets more and breaks nothing here. -/
namespace RetryEndpoint.LogShape
open WindowLog EventLog Runs

def allowAt (grow : Nat → Nat) (l : Log) (cutoff now max : Int) : Option (Bool × Log) := do
  let l ← l.expire cutoff
  if (l.items.length : Int) - l.head ≥ max then some (false, l)
  else
    let s := l.ts.getD (Slice.make logInitCap)
    some (true, { l with ts := some (s.append grow now) })

def allow (grow : Nat → Nat) (l : Log) (now window : Int64) (max : Int) : Option (Bool × Log) :=
  allowAt grow l (now - window).toInt now.toInt max

def step (grow : Nat → Nat) (window : Int64) (max : Int) (l : Log) (now : Int64) : Option Log :=
  (allow grow l now window max).map Prod.snd

theorem cutoffLate {now window : Int64} (positive : 0 < window) :
    now.toInt - window.toInt ≤ (now - window).toInt := by
  have := Int64.lt_iff_toInt_lt.mp positive
  have low := now.minValue_le_toInt
  have high := now.toInt_lt
  have wide := window.toInt_lt
  rw [Int64.toInt_sub, Int.bmod_def]
  simp only [Int64.toInt_zero] at this
  split <;> omega

theorem allowExact (grow : Nat → Nat) (l : Log) {now window : Int64} (max : Int) (clock : 0 ≤ now)
    (positive : 0 < window) :
    allow grow l now window max = l.allow grow now.toInt window.toInt max := by
  have start := Int64.le_iff_toInt_le.mp clock
  have := Int64.lt_iff_toInt_lt.mp positive
  have high := now.toInt_lt
  have wide := window.toInt_lt
  simp only [Int64.toInt_zero] at this start
  have exactly : (now - window).toInt = now.toInt - window.toInt := by
    rw [Int64.toInt_sub, Int.bmod_def]
    split <;> omega
  rw [allow, exactly]
  rfl

structure Shape (max : Int) (l : Log) : Prop where
  sorted : l.items.Pairwise (· ≤ ·)
  half : l.head = 0 ∨ 2 * l.head < l.items.length
  live : (l.items.length : Int) - l.head ≤ max
  size : (l.items.length : Int) ≤ 2 * max - 1

theorem shapeOf {max : Int} {l : Log} (room : 1 ≤ max) (sorted : l.items.Pairwise (· ≤ ·))
    (half : l.head = 0 ∨ 2 * l.head < l.items.length) (live : (l.items.length : Int) - l.head ≤ max) :
    Shape max l := by
  refine ⟨sorted, half, live, ?_⟩
  rcases half with front | few
  · omega
  · omega

section Calls
variable {grow : Nat → Nat} {max past cutoff now : Int} {l l₁ l' : Log}

theorem expiredHalf (h : Expired cutoff l l₁) (half : l.head = 0 ∨ 2 * l.head < l.items.length) :
    l₁.head = 0 ∨ 2 * l₁.head < l₁.items.length := by
  cases h with
  | empty => exact half
  | cleared aged items head => exact .inl head
  | stepped scanned front => exact .inr front
  | moved scanned back items head => exact .inl head

theorem expiredFewer (h : Expired cutoff l l₁) (ordered : Ordered past l) :
    (l₁.items.length : Int) - l₁.head ≤ (l.items.length : Int) - l.head := by
  rw [← lengthLive ordered, ← lengthLive (h.ordered ordered), h.live]
  exact Int.ofNat_le.mpr (List.length_filter_le ..)

structure Called (max cutoff now : Int) (l l₁ l' : Log) (ok : Bool) : Prop where
  expired : l.expire cutoff = some l₁
  took : Expired cutoff l l₁
  ordered : Ordered now l'
  shape : Shape max l'
  live : l'.live = l₁.live ++ if ok then [now] else []

theorem allowCalled (room : 1 ≤ max) (ordered : Ordered past l) (order : past ≤ now) (shape : Shape max l)
    (cutoff : Int) (grow : Nat → Nat) :
    ∃ l₁ ok l', allowAt grow l cutoff now max = some (ok, l') ∧ Called max cutoff now l l₁ l' ok := by
  obtain ⟨l₁, expired, took⟩ := expireTook ordered cutoff
  have ordered₁ := took.ordered ordered
  have half := expiredHalf took shape.half
  have fewer := expiredFewer took ordered
  have before := shape.live
  refine ⟨l₁, ?_⟩
  simp only [allowAt, expired, bind, Option.bind]
  split
  · refine ⟨false, l₁, rfl, expired, took, ordered₁.later order, ?_, by simp⟩
    exact shapeOf room ordered₁.sorted half (Int.le_trans fewer before)
  · rename_i free
    obtain ⟨ordered', live⟩ := ordered₁.record order grow
    refine ⟨true, _, rfl, expired, took, ordered', ?_, live⟩
    -- One more event at the end: the head is as far from the front as it was.
    have items : ({ l₁ with ts := some ((l₁.ts.getD (Slice.make logInitCap)).append grow now) } : Log).items =
        l₁.items ++ [now] := by
      simp only [Log.items, appendItems]
      cases l₁.ts <;> rfl
    refine shapeOf room ordered'.sorted ?_ ?_
    · rw [items, List.length_append, List.length_singleton]
      dsimp only
      omega
    · rw [items, List.length_append, List.length_singleton]
      dsimp only
      omega

theorem Called.fresh {ok : Bool} (h : Called max cutoff now l l₁ l' ok) {bound : Int} (late : bound ≤ cutoff)
    (before : bound < now) {i : Nat} {t : Int} (ahead : l'.head ≤ i) (here : l'.items[i]? = some t) :
    bound < t := by
  have mem : t ∈ l'.live := by
    refine List.mem_of_getElem? (i := i - l'.head) ?_
    rw [Log.live, List.getElem?_drop, Nat.add_sub_cancel' ahead, here]
  rw [h.live, h.took.live] at mem
  rcases List.mem_append.mp mem with old | new
  · have later : cutoff < t := by simpa using (List.mem_filter.mp old).2
    exact Int.lt_of_le_of_lt late later
  · cases ok with
    | false => cases new
    | true => exact List.mem_singleton.mp new ▸ before

end Calls

section Runs
variable {window : Int64} {max : Int}

theorem emptyShape (room : 1 ≤ max) : Shape max Log.empty :=
  shapeOf room List.Pairwise.nil (.inl rfl) (by simp only [Log.empty, Log.items, List.length_nil]; omega)

theorem runShape (grow : Nat → Nat) (room : 1 ≤ max) {past now : Int} {l : Log} {calls : List Int64}
    (ordered : Ordered past l) (shape : Shape max l) (later : ∀ c ∈ calls, past ≤ c.toInt)
    (order : calls.Pairwise (· ≤ ·)) (next : past ≤ now ∧ ∀ c ∈ calls, c.toInt ≤ now) :
    ∃ l', run (step grow window max) l calls = some l' ∧ Ordered now l' ∧ Shape max l' := by
  induction calls generalizing past l with
  | nil => exact ⟨l, rfl, ordered.later next.1, shape⟩
  | cons c rest ih =>
    obtain ⟨first, order⟩ := List.pairwise_cons.mp order
    obtain ⟨l₁, ok, l₂, allowed, called⟩ :=
      allowCalled room ordered (later c List.mem_cons_self) shape (c - window).toInt grow
    have within := next.2 c List.mem_cons_self
    obtain ⟨l', ran, kept⟩ := ih called.ordered called.shape
      (fun d mem => Int64.le_iff_toInt_le.mp (first d mem)) order
      ⟨within, fun d mem => next.2 d (List.mem_cons_of_mem _ mem)⟩
    refine ⟨l', ?_, kept⟩
    simp only [run, step, allow, allowed, Option.map_some, bind, Option.bind_some]
    exact ran

/-- Every call of every run returns: its scan ends inside the slice, and expiring
keeps the events later than the cutoff, in order, in whatever array. After it the
slice is in order with its head at 0 or before the middle, what is not expired is
inside the window and at most max, and the slice holds fewer than 2 * max events. -/
theorem logInShape (grow : Nat → Nat) (positive : 0 < window) (room : 1 ≤ max) {calls : List Int64}
    (order : calls.Pairwise (· ≤ ·)) {done rest : List Int64} {now : Int64}
    (split : calls = done ++ now :: rest) :
    ∃ l l₁ ok l', run (step grow window max) Log.empty done = some l ∧
      allow grow l now window max = some (ok, l') ∧
      Called max (now - window).toInt now.toInt l l₁ l' ok ∧
      l₁.live = alive (now - window).toInt l.live ∧
      ∀ i t, l'.head ≤ i → l'.items[i]? = some t → now.toInt - window.toInt < t := by
  obtain ⟨before, -, apart⟩ := List.pairwise_append.mp (split ▸ order)
  have reached : ∃ l, run (step grow window max) Log.empty done = some l ∧ Ordered now.toInt l ∧ Shape max l :=
    runShape grow room (emptyOrdered Int64.minValue.toInt) (emptyShape room)
      (fun c _ => c.minValue_le_toInt) before ⟨now.minValue_le_toInt, fun c mem =>
        Int64.le_iff_toInt_le.mp (apart c mem now List.mem_cons_self)⟩
  obtain ⟨l, ran, ordered, shape⟩ := reached
  obtain ⟨l₁, ok, l', allowed, called⟩ :=
    allowCalled room ordered (Int.le_refl _) shape (now - window).toInt grow
  refine ⟨l, l₁, ok, l', ran, allowed, called, called.took.live, ?_⟩
  intro i t ahead here
  have wide := Int64.lt_iff_toInt_lt.mp positive
  rw [Int64.toInt_zero] at wide
  exact called.fresh (cutoffLate positive) (by omega) ahead here

theorem logInShapeMoves : ∃ l l₁ ok l',
    run (step (fun n => 2 * n) 10 3) Log.empty [0, 4, 9, 12] = some l ∧
      allow (fun n => 2 * n) l 15 10 3 = some (ok, l') ∧
      Called 3 (15 - 10 : Int64).toInt (15 : Int64).toInt l l₁ l' ok ∧
      l₁.live = alive (15 - 10 : Int64).toInt l.live ∧
      ∀ i t, l'.head ≤ i → l'.items[i]? = some t → (15 : Int64).toInt - (10 : Int64).toInt < t := by
  have order : ([0, 4, 9, 12, 15] : List Int64).Pairwise (· ≤ ·) := by decide
  exact logInShape _ (by decide) (by decide) order rfl

example : (run (step (fun n => 2 * n) 10 3) Log.empty [0, 4, 9, 12]).map (fun l => (l.items, l.head)) =
    some ([0, 4, 9, 12], 1) := by decide

end Runs
end RetryEndpoint.LogShape
