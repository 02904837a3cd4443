import RetryEndpoint.Places
import RetryEndpoint.Runs
import Mathlib.Tactic.Abel

/-! Items read in batches, stamped in the order they are read, and dispatched to
numbered lanes by a shard function. Every lane is a first-in first-out queue with
one worker. An item ends handled by a worker or dropped for a reason; until then
it is in exactly one place, and the items of one shard are handled in the order
of their stamps, whatever is dropped in between. -/
namespace RetryEndpoint.ShardedQueues
open Places Runs

variable {α ρ : Type}

structure Item (α : Type) where
  stamp : Nat
  value : α
  deriving DecidableEq, Repr

inductive End (ρ : Type) where
  | handled (lane : Nat)
  | dropped (reason : ρ)
  deriving DecidableEq, Repr

/- received and ended are records, newest first; the others run oldest first. -/
structure State (α ρ : Type) where
  clock : Nat
  received : List (Item α)
  batch : List (Item α)
  queues : Nat → List (Item α)
  hands : Nat → Option (Item α)
  ended : List (End ρ × Item α)

def init : State α ρ := ⟨0, [], [], fun _ => [], fun _ => none, []⟩

inductive Action (α ρ : Type) where
  | wait (time : Nat)
  | receive (values : List α)
  | drop (reason : ρ)
  | abandon (reason : ρ)
  | push
  | take (lane : Nat)
  | handle (lane : Nat)

def stamped : Nat → List α → List (Item α)
  | _, [] => []
  | clock, v :: rest => ⟨clock, v⟩ :: stamped (clock + 1) rest

def State.enqueue (s : State α ρ) (lane : Nat) (x : Item α) : State α ρ :=
  { s with queues := Function.update s.queues lane (s.queues lane ++ [x]) }

def step (lanes : Nat) (shard : α → Nat) (s : State α ρ) : Action α ρ → Option (State α ρ)
  | .wait time => if s.clock ≤ time then some { s with clock := time } else none
  | .receive values =>
    match s.batch with
    | [] =>
      let items := stamped s.clock values
      some { s with
        clock := s.clock + values.length
        received := items.reverse ++ s.received
        batch := items }
    | _ :: _ => none
  | .drop reason =>
    match s.batch with
    | [] => none
    | x :: rest => some { s with batch := rest, ended := (.dropped reason, x) :: s.ended }
  | .abandon reason =>
    some { s with batch := [], ended := (s.batch.map (fun x => (.dropped reason, x))).reverse ++ s.ended }
  | .push =>
    match s.batch with
    | [] => none
    | x :: rest => some ({ s with batch := rest }.enqueue (shard x.value) x)
  | .take lane =>
    if lane < lanes then
      match s.hands lane, s.queues lane with
      | none, x :: rest => some { s with
          queues := Function.update s.queues lane rest
          hands := Function.update s.hands lane (some x) }
      | _, _ => none
    else none
  | .handle lane =>
    if lane < lanes then
      match s.hands lane with
      | none => none
      | some x => some { s with
          hands := Function.update s.hands lane none
          ended := (.handled lane, x) :: s.ended }
    else none

inductive Took (lanes : Nat) (shard : α → Nat) (s : State α ρ) : Action α ρ → State α ρ → Prop where
  | wait {time} (forward : s.clock ≤ time) : Took lanes shard s (.wait time) { s with clock := time }
  | receive {values} (idle : s.batch = []) : Took lanes shard s (.receive values) { s with
      clock := s.clock + values.length
      received := (stamped s.clock values).reverse ++ s.received
      batch := stamped s.clock values }
  | drop {reason x rest} (next : s.batch = x :: rest) : Took lanes shard s (.drop reason)
      { s with batch := rest, ended := (.dropped reason, x) :: s.ended }
  | abandon {reason} : Took lanes shard s (.abandon reason) { s with
      batch := []
      ended := (s.batch.map (fun x => (.dropped reason, x))).reverse ++ s.ended }
  | push {x rest} (next : s.batch = x :: rest) : Took lanes shard s .push
      ({ s with batch := rest }.enqueue (shard x.value) x)
  | take {lane x rest} (low : lane < lanes) (idle : s.hands lane = none)
      (next : s.queues lane = x :: rest) : Took lanes shard s (.take lane) { s with
        queues := Function.update s.queues lane rest
        hands := Function.update s.hands lane (some x) }
  | handle {lane x} (low : lane < lanes) (held : s.hands lane = some x) :
      Took lanes shard s (.handle lane) { s with
        hands := Function.update s.hands lane none
        ended := (.handled lane, x) :: s.ended }

theorem stepTook {lanes : Nat} {shard : α → Nat} {s s' : State α ρ} {a : Action α ρ}
    (ok : step lanes shard s a = some s') : Took lanes shard s a s' := by
  cases a with
  | wait time =>
    simp only [step] at ok
    split at ok <;> try contradiction
    cases Option.some.inj ok
    exact .wait (by assumption)
  | receive values =>
    simp only [step] at ok
    split at ok <;> try contradiction
    cases Option.some.inj ok
    exact .receive (by assumption)
  | drop reason =>
    simp only [step] at ok
    split at ok <;> try contradiction
    cases Option.some.inj ok
    exact .drop (by assumption)
  | abandon reason =>
    cases Option.some.inj ok
    exact .abandon
  | push =>
    simp only [step] at ok
    split at ok <;> try contradiction
    cases Option.some.inj ok
    exact .push (by assumption)
  | take lane =>
    simp only [step] at ok
    split at ok <;> try contradiction
    rename_i low
    split at ok <;> try contradiction
    cases Option.some.inj ok
    exact .take low (by assumption) (by assumption)
  | handle lane =>
    simp only [step] at ok
    split at ok <;> try contradiction
    rename_i low
    split at ok <;> try contradiction
    cases Option.some.inj ok
    exact .handle low (by assumption)

theorem stampedLength (clock : Nat) (values : List α) : (stamped clock values).length = values.length := by
  induction values generalizing clock with
  | nil => rfl
  | cons v rest ih => rw [stamped, List.length_cons, ih, List.length_cons]

theorem stampedBounds (clock : Nat) (values : List α) :
    ∀ x ∈ stamped clock values, clock ≤ x.stamp ∧ x.stamp < clock + values.length := by
  induction values generalizing clock with
  | nil => simp [stamped]
  | cons v rest ih =>
    intro x mem
    rcases List.mem_cons.mp mem with rfl | inside
    · simp
    · have := ih (clock + 1) x inside
      simp only [List.length_cons]
      omega

theorem stampedValue {clock : Nat} {values : List α} {x : Item α} (mem : x ∈ stamped clock values) :
    x.value ∈ values := by
  induction values generalizing clock with
  | nil => cases mem
  | cons v rest ih =>
    rcases List.mem_cons.mp mem with rfl | inside
    · exact List.mem_cons_self
    · exact List.mem_cons_of_mem _ (ih inside)

theorem stampedOrder (clock : Nat) (values : List α) :
    (stamped clock values).Pairwise (fun x y => x.stamp < y.stamp) := by
  induction values generalizing clock with
  | nil => exact List.Pairwise.nil
  | cons v rest ih =>
    refine List.pairwise_cons.mpr ⟨?_, ih (clock + 1)⟩
    intro y mem
    have := (stampedBounds (clock + 1) rest y mem).1
    simp only
    omega

def handledOf (lane : Nat) : End ρ × Item α → Option (Item α)
  | (.handled l, x) => if l = lane then some x else none
  | (.dropped _, _) => none

def handledBy (lane : Nat) (ended : List (End ρ × Item α)) : List (Item α) :=
  ended.filterMap (handledOf lane)

/- A lane from its oldest item on: handled, in hand, queued, and all that is
still to be dispatched, to this lane or another. -/
def State.line (s : State α ρ) (lane : Nat) : List (Item α) :=
  (handledBy lane s.ended).reverse ++ (s.hands lane).toList ++ s.queues lane ++ s.batch

structure Ordered (shard : α → Nat) (s : State α ρ) : Prop where
  line : ∀ lane, (s.line lane).Pairwise (fun x y => x.stamp < y.stamp)
  past : ∀ lane, ∀ x ∈ s.line lane, x.stamp < s.clock
  home : ∀ lane x, x ∈ handledBy lane s.ended ∨ s.hands lane = some x ∨ x ∈ s.queues lane →
    shard x.value = lane
  record : s.received.Pairwise (fun x y => y.stamp < x.stamp)
  recordPast : ∀ x ∈ s.received, x.stamp < s.clock

theorem initOrdered (shard : α → Nat) : Ordered shard (init : State α ρ) := by
  refine ⟨?_, ?_, ?_, List.Pairwise.nil, ?_⟩
  · intro lane
    simp [State.line, init, handledBy]
  · intro lane x mem
    simp [State.line, init, handledBy] at mem
  · rintro lane x (mem | held | mem)
    · simp [init, handledBy] at mem
    · cases held
    · cases mem
  · intro x mem
    cases mem

theorem Ordered.shrink {shard : α → Nat} {s s' : State α ρ} (h : Ordered shard s)
    (clock : s.clock ≤ s'.clock) (received : s'.received = s.received)
    (lines : ∀ lane, (s'.line lane).Sublist (s.line lane))
    (home : ∀ lane x, x ∈ handledBy lane s'.ended ∨ s'.hands lane = some x ∨ x ∈ s'.queues lane →
      shard x.value = lane) : Ordered shard s' := by
  refine ⟨?_, ?_, home, ?_, ?_⟩
  · intro lane
    exact (h.line lane).sublist (lines lane)
  · intro lane x mem
    exact Nat.lt_of_lt_of_le (h.past lane x ((lines lane).subset mem)) clock
  · rw [received]
    exact h.record
  · intro x mem
    rw [received] at mem
    exact Nat.lt_of_lt_of_le (h.recordPast x mem) clock

theorem handledByDropped (lane : Nat) (reason : ρ) (xs : List (Item α)) (ended : List (End ρ × Item α)) :
    handledBy lane ((xs.map (fun x => (.dropped reason, x))).reverse ++ ended) = handledBy lane ended := by
  have nothing : ((xs.map (fun x => (End.dropped reason, x))).reverse).filterMap (handledOf lane) = [] := by
    apply List.filterMap_eq_nil_iff.mpr
    intro e mem
    obtain ⟨x, -, rfl⟩ := List.mem_map.mp (List.mem_reverse.mp mem)
    rfl
  rw [handledBy, List.filterMap_append, nothing, List.nil_append, handledBy]

theorem Ordered.receive {shard : α → Nat} {s : State α ρ} (h : Ordered shard s) (values : List α)
    (idle : s.batch = []) :
    Ordered shard { s with
      clock := s.clock + values.length
      received := (stamped s.clock values).reverse ++ s.received
      batch := stamped s.clock values } := by
  have bounds := stampedBounds s.clock values
  refine ⟨?_, ?_, h.home, ?_, ?_⟩
  · intro lane
    have old := h.line lane
    have past := h.past lane
    simp only [State.line, idle, List.append_nil] at old past ⊢
    refine List.pairwise_append.mpr ⟨old, stampedOrder _ _, ?_⟩
    intro x before y after
    exact Nat.lt_of_lt_of_le (past x before) (bounds y after).1
  · intro lane x mem
    have past := h.past lane
    simp only [State.line, idle, List.append_nil] at past mem ⊢
    rcases List.mem_append.mp mem with before | after
    · exact Nat.lt_of_lt_of_le (past x before) (Nat.le_add_right _ _)
    · exact (bounds x after).2
  · refine List.pairwise_append.mpr ⟨List.pairwise_reverse.mpr (stampedOrder _ _), h.record, ?_⟩
    intro x isNew y old
    exact Nat.lt_of_lt_of_le (h.recordPast y old) (bounds x (List.mem_reverse.mp isNew)).1
  · intro x mem
    rcases List.mem_append.mp mem with isNew | old
    · exact (bounds x (List.mem_reverse.mp isNew)).2
    · exact Nat.lt_of_lt_of_le (h.recordPast x old) (Nat.le_add_right _ _)

theorem Ordered.push {shard : α → Nat} {s : State α ρ} (h : Ordered shard s) {x : Item α}
    {rest : List (Item α)} (next : s.batch = x :: rest) :
    Ordered shard ({ s with batch := rest }.enqueue (shard x.value) x) := by
  refine h.shrink (Nat.le_refl _) rfl ?_ ?_
  · intro lane
    by_cases same : lane = shard x.value
    · subst lane
      simp [State.line, State.enqueue, next]
    · simp only [State.line, State.enqueue, next, Function.update_of_ne same]
      exact List.Sublist.append_left (List.sublist_cons_self x rest) _
  · intro lane y mem
    by_cases same : lane = shard x.value
    · subst lane
      rcases mem with old | held | queued
      · exact h.home _ y (.inl old)
      · exact h.home _ y (.inr (.inl held))
      · simp only [State.enqueue, Function.update_self] at queued
        rcases List.mem_append.mp queued with old | isNew
        · exact h.home _ y (.inr (.inr old))
        · rw [List.mem_singleton.mp isNew]
    · simp only [State.enqueue, Function.update_of_ne same] at mem
      exact h.home lane y mem

theorem Ordered.take {shard : α → Nat} {s : State α ρ} (h : Ordered shard s) {lane : Nat} {x : Item α}
    {rest : List (Item α)} (idle : s.hands lane = none) (next : s.queues lane = x :: rest) :
    Ordered shard { s with
      queues := Function.update s.queues lane rest
      hands := Function.update s.hands lane (some x) } := by
  refine h.shrink (Nat.le_refl _) rfl ?_ ?_
  · intro l
    by_cases same : l = lane
    · subst l
      simp [State.line, idle, next]
    · simp [State.line, Function.update_of_ne same]
  · intro l y mem
    by_cases same : l = lane
    · subst l
      simp only [Function.update_self, Option.some.injEq] at mem
      rcases mem with old | rfl | queued
      · exact h.home _ y (.inl old)
      · exact h.home _ _ (.inr (.inr (by rw [next]; exact List.mem_cons_self)))
      · exact h.home _ y (.inr (.inr (by rw [next]; exact List.mem_cons_of_mem _ queued)))
    · simp only [Function.update_of_ne same] at mem
      exact h.home l y mem

theorem Ordered.handle {shard : α → Nat} {s : State α ρ} (h : Ordered shard s) {lane : Nat} {x : Item α}
    (held : s.hands lane = some x) :
    Ordered shard { s with
      hands := Function.update s.hands lane none
      ended := (.handled lane, x) :: s.ended } := by
  refine h.shrink (Nat.le_refl _) rfl ?_ ?_
  · intro l
    by_cases same : l = lane
    · subst l
      simp [State.line, held, handledBy, handledOf]
    · simp [State.line, Function.update_of_ne same, handledBy, handledOf, Ne.symm same]
  · intro l y mem
    by_cases same : l = lane
    · subst l
      simp only [Function.update_self, handledBy, List.filterMap_cons, handledOf, if_true,
        List.mem_cons, reduceCtorEq, false_or] at mem
      rcases mem with (rfl | old) | queued
      · exact h.home _ _ (.inr (.inl held))
      · exact h.home _ y (.inl old)
      · exact h.home _ y (.inr (.inr queued))
    · simp only [Function.update_of_ne same, handledBy, List.filterMap_cons, handledOf,
        if_neg (Ne.symm same)] at mem
      exact h.home l y mem

theorem stepOrdered {lanes : Nat} {shard : α → Nat} {s s' : State α ρ} {a : Action α ρ}
    (h : Ordered shard s) (ok : step lanes shard s a = some s') : Ordered shard s' := by
  cases stepTook ok with
  | wait forward => exact h.shrink forward rfl (fun _ => List.Sublist.refl _) h.home
  | receive idle => exact h.receive _ idle
  | @drop reason x rest next =>
    refine h.shrink (Nat.le_refl _) rfl ?_ h.home
    intro lane
    simp only [State.line, next]
    exact List.Sublist.append_left (List.sublist_cons_self x rest) _
  | abandon =>
    refine h.shrink (Nat.le_refl _) rfl ?_ ?_
    · intro lane
      simp only [State.line, handledByDropped]
      exact List.Sublist.append_left (List.nil_sublist _) _
    · intro lane x mem
      rw [handledByDropped] at mem
      exact h.home lane x mem
  | push next => exact h.push next
  | take low idle next => exact h.take idle next
  | handle low held => exact h.handle held

theorem Ordered.handledInOrder {shard : α → Nat} {s : State α ρ} (h : Ordered shard s) :
    s.ended.Pairwise (fun newer older => ∀ lane lane' x y, newer = (.handled lane, x) →
      older = (.handled lane', y) → shard y.value = shard x.value → y.stamp < x.stamp) := by
  refine List.pairwise_iff_forall_sublist.mpr ?_
  rintro - - inside lane lane' x y rfl rfl same
  have handled : ∀ l z, (.handled l, z) ∈ s.ended → shard z.value = l := by
    intro l z mem
    exact h.home l z (.inl (List.mem_filterMap.mpr ⟨_, mem, by simp [handledOf]⟩))
  have laneX : shard x.value = lane := handled lane x (inside.subset (by simp))
  have laneY : shard y.value = lane' := handled lane' y (inside.subset (by simp))
  have lanes : lane' = lane := by rw [← laneX, ← laneY, same]
  subst lanes
  -- One worker handled both, so they stand in its line.
  have order : (handledBy lane' s.ended).reverse.Pairwise (fun x y => x.stamp < y.stamp) := by
    have line := h.line lane'
    rw [State.line, List.append_assoc, List.append_assoc] at line
    exact (List.pairwise_append.mp line).1
  rw [List.pairwise_reverse, handledBy, List.pairwise_filterMap] at order
  exact List.pairwise_iff_forall_sublist.mp order inside x (by simp [handledOf]) y (by simp [handledOf])

def InFlight (s : State α ρ) (x : Item α) : Prop :=
  x ∈ s.batch ∨ ∃ lane, x ∈ s.queues lane ∨ s.hands lane = some x

theorem stepInFlight {lanes : Nat} {shard : α → Nat} {s s' : State α ρ} {a : Action α ρ}
    (ok : step lanes shard s a = some s') {x : Item α} (flight : InFlight s' x) :
    InFlight s x ∨ ∃ values, a = .receive values ∧ x ∈ stamped s.clock values := by
  cases stepTook ok with
  | wait forward => exact .inl flight
  | @receive values idle =>
    rcases flight with isNew | old
    · exact .inr ⟨values, rfl, isNew⟩
    · exact .inl (.inr old)
  | @drop reason y rest next =>
    rcases flight with batch | old
    · exact .inl (.inl (by rw [next]; exact List.mem_cons_of_mem _ batch))
    · exact .inl (.inr old)
  | @abandon reason =>
    rcases flight with batch | old
    · cases batch
    · exact .inl (.inr old)
  | @push y rest next =>
    rcases flight with batch | ⟨lane, queued | held⟩
    · exact .inl (.inl (by rw [next]; exact List.mem_cons_of_mem _ batch))
    · by_cases same : lane = shard y.value
      · subst lane
        simp only [State.enqueue, Function.update_self, List.mem_append, List.mem_singleton] at queued
        rcases queued with old | rfl
        · exact .inl (.inr ⟨_, .inl old⟩)
        · exact .inl (.inl (by rw [next]; exact List.mem_cons_self))
      · simp only [State.enqueue, Function.update_of_ne same] at queued
        exact .inl (.inr ⟨lane, .inl queued⟩)
    · exact .inl (.inr ⟨lane, .inr held⟩)
  | @take l y rest low idle next =>
    rcases flight with batch | ⟨lane, queued | held⟩
    · exact .inl (.inl batch)
    · by_cases same : lane = l
      · subst lane
        simp only [Function.update_self] at queued
        exact .inl (.inr ⟨_, .inl (by rw [next]; exact List.mem_cons_of_mem _ queued)⟩)
      · simp only [Function.update_of_ne same] at queued
        exact .inl (.inr ⟨lane, .inl queued⟩)
    · by_cases same : lane = l
      · subst lane
        simp only [Function.update_self, Option.some.injEq] at held
        subst x
        exact .inl (.inr ⟨_, .inl (by rw [next]; exact List.mem_cons_self)⟩)
      · simp only [Function.update_of_ne same] at held
        exact .inl (.inr ⟨lane, .inr held⟩)
  | @handle l y low held =>
    rcases flight with batch | ⟨lane, queued | held'⟩
    · exact .inl (.inl batch)
    · exact .inl (.inr ⟨lane, .inl queued⟩)
    · by_cases same : lane = l
      · subst lane
        simp at held'
      · simp only [Function.update_of_ne same] at held'
        exact .inl (.inr ⟨lane, .inr held'⟩)

theorem Ordered.inFlightPast {shard : α → Nat} {s : State α ρ} (h : Ordered shard s) {x : Item α}
    (flight : InFlight s x) : x.stamp < s.clock := by
  rcases flight with batch | ⟨lane, queued | held⟩
  · exact h.past 0 x (by simp [State.line, batch])
  · exact h.past lane x (by simp [State.line, queued])
  · exact h.past lane x (by simp [State.line, held])

theorem Ordered.handledFirst {shard : α → Nat} {s : State α ρ} (h : Ordered shard s) {lane : Nat}
    {x y : Item α} (done : (.handled lane, x) ∈ s.ended) (flight : InFlight s y)
    (same : shard y.value = shard x.value) : x.stamp < y.stamp := by
  have mine : x ∈ handledBy lane s.ended := List.mem_filterMap.mpr ⟨_, done, by simp [handledOf]⟩
  have home := h.home lane x (.inl mine)
  have behind : y ∈ (s.hands lane).toList ++ s.queues lane ++ s.batch := by
    rcases flight with batch | ⟨l, queued | held⟩
    · exact List.mem_append_right _ batch
    · obtain rfl : l = lane := by rw [← home, ← same, h.home l y (.inr (.inr queued))]
      simp [queued]
    · obtain rfl : l = lane := by rw [← home, ← same, h.home l y (.inr (.inl held))]
      simp [held]
  have line := h.line lane
  rw [State.line, List.append_assoc, List.append_assoc, ← List.append_assoc (s.hands lane).toList] at line
  exact (List.pairwise_append.mp line).2.2 x (List.mem_reverse.mpr mine) y behind

def Conserved (lanes : Nat) (s : State α ρ) : Prop :=
  ((s.ended.map Prod.snd : List (Item α)) : Multiset (Item α)) + s.batch +
    gathered (Finset.range lanes) s.queues +
    gathered (Finset.range lanes) (Option.toList ∘ s.hands) = s.received

theorem initConserved (lanes : Nat) : Conserved lanes (init : State α ρ) := by
  simp [Conserved, init, gathered]

theorem stepConserved {lanes : Nat} {shard : α → Nat} (inRange : ∀ v, shard v < lanes)
    {s s' : State α ρ} {a : Action α ρ} (h : Conserved lanes s)
    (ok : step lanes shard s a = some s') : Conserved lanes s' := by
  unfold Conserved at h ⊢
  cases stepTook ok with
  | wait forward => exact h
  | @receive values idle =>
    have grown : (((stamped s.clock values).reverse ++ s.received : List (Item α)) : Multiset (Item α)) =
        (stamped s.clock values : Multiset (Item α)) + s.received := by
      rw [← Multiset.coe_add, Multiset.coe_reverse]
    simp only [idle, Multiset.coe_nil, add_zero] at h
    rw [grown, ← h]
    ac_rfl
  | @drop reason x rest next =>
    rw [← h, next, List.map_cons, ← Multiset.cons_coe, ← Multiset.cons_coe, Multiset.cons_add,
      Multiset.add_cons]
  | @abandon reason =>
    have ends : (((s.batch.map (fun x => (End.dropped reason, x))).reverse ++ s.ended).map Prod.snd :
        Multiset (Item α)) = s.batch + (s.ended.map Prod.snd : List (Item α)) := by
      rw [List.map_append, ← Multiset.coe_add, List.map_reverse, Multiset.coe_reverse, List.map_map]
      simp [Function.comp_def]
    rw [← h, ends, Multiset.coe_nil]
    abel
  | @push x rest next =>
    have pushed := gatheredPush (Finset.mem_range.mpr (inRange x.value)) s.queues x
    simp only [State.enqueue]
    rw [pushed, ← h, next, ← Multiset.cons_coe, ← Multiset.singleton_add]
    abel
  | @take lane x rest low idle next =>
    have popped := gatheredPop (Finset.mem_range.mpr low) next
    have held := gatheredSet (g := Option.toList ∘ s.hands) (Finset.mem_range.mpr low)
      [x] (by simp [idle])
    dsimp only
    rw [Function.comp_update, Option.toList_some, held, ← h, ← popped, Multiset.coe_singleton]
    abel
  | @handle lane x low held =>
    have popped := gatheredPop (g := Option.toList ∘ s.hands) (Finset.mem_range.mpr low)
      (show (Option.toList ∘ s.hands) lane = x :: [] by simp [held])
    dsimp only
    rw [Function.comp_update, Option.toList_none, ← h, ← popped, List.map_cons, ← Multiset.cons_coe,
      ← Multiset.singleton_add]
    abel

end RetryEndpoint.ShardedQueues
