import RetryEndpoint.DedupFleet

/-! How far apart the claims of one key are, in any run of the fleet. A slot is
written only where its last lifetime is over, so two claims stand a window apart
whatever the calls do between their claim and the egress loop. -/
namespace RetryEndpoint.DedupSpacing
open BigEndian Wire Cache ExpiringStore Retransmit Runs DedupFleet

def Apart (fleet : Fleet) (newer older : Event) : Prop :=
  ∀ id call t id' call' t', newer = .claimed id call t → older = .claimed id' call' t' →
    SameKey call call' → t' + fleet.window call' ≤ t

inductive Wrote (fleet : Fleet) (call : Call) (time : Int) : Event → Prop where
  | claim (id) : Wrote fleet call time (.claimed id call time)
  | landed (id) : Wrote fleet call time (.suppressed id call .landed time)

structure Spaced (fleet : Fleet) (s : State) : Prop where
  held : ∀ id call t, .claimed id call t ∈ s.history → 56 ≤ call.raw.length →
    t + fleet.window call ≤ s.now ∨
      ∃ e, s.store (fleet.slot call) = some e ∧ t + fleet.window call ≤ e.expires
  apart : s.history.Pairwise (Apart fleet)
  owned : ∀ k e, s.store k = some e → ∃ call t, ∃ ev ∈ s.history, Wrote fleet call t ev ∧
    56 ≤ call.raw.length ∧ fleet.slot call = k ∧ e.expires = t + fleet.window call
  routing : ∀ id call c, s.calls id = some (call, .routing c) →
    .claimed id call c ∈ s.history ∧ c ≤ s.now
  writing : ∀ id call c rest, s.calls id = some (call, .writing c rest) →
    .claimed id call c ∈ s.history ∧ c ≤ s.now
  entered : ∀ id call c t, .entered id call c t ∈ s.history →
    .claimed id call c ∈ s.history ∧ c ≤ t
  sameKey : Each (fun e older => ∀ id call t, e = .suppressed id call .none t →
    ∃ call' t', ∃ ev ∈ older, Wrote fleet call' t' ev ∧ SameKey call call' ∧
      t < t' + fleet.window call') s.history

theorem initSpaced (fleet : Fleet) : Spaced fleet init := by
  refine ⟨?_, List.Pairwise.nil, ?_, ?_, ?_, ?_, trivial⟩
  · intro id call t mem; cases mem
  · intro k e found; cases found
  · intro id call c here; cases here
  · intro id call c rest here; cases here
  · intro id call c t mem; cases mem

theorem Spaced.tick {fleet : Fleet} {s : State} (h : Spaced fleet s) {time : Int}
    (forward : s.now ≤ time) : Spaced fleet { s with now := time } := by
  refine ⟨?_, h.apart, h.owned, ?_, ?_, h.entered, h.sameKey⟩
  · intro id call t mem long
    rcases h.held id call t mem long with past | present
    · exact .inl (Int.le_trans past forward)
    · exact .inr present
  · intro id call c here
    exact ⟨(h.routing id call c here).1, Int.le_trans (h.routing id call c here).2 forward⟩
  · intro id call c rest here
    exact ⟨(h.writing id call c rest here).1, Int.le_trans (h.writing id call c rest here).2 forward⟩

theorem Spaced.lock {fleet : Fleet} {s : State} (h : Spaced fleet s) (inst : Nat) (held : Bool) :
    Spaced fleet (s.lock inst held) :=
  ⟨h.held, h.apart, h.owned, h.routing, h.writing, h.entered, h.sameKey⟩

theorem Spaced.phase {fleet : Fleet} {s : State} (h : Spaced fleet s) {id : Nat} {call : Call}
    {phase : Phase}
    (backed : ∀ c, (phase = .routing c ∨ ∃ rest, phase = .writing c rest) →
      .claimed id call c ∈ s.history ∧ c ≤ s.now) :
    Spaced fleet { s with calls := Function.update s.calls id (some (call, phase)) } := by
  refine ⟨h.held, h.apart, h.owned, ?_, ?_, h.entered, h.sameKey⟩
  · intro id' call' c here
    rcases movedCases here with ⟨rfl, moved⟩ | ⟨-, there⟩
    · cases moved
      exact backed c (.inl rfl)
    · exact h.routing id' call' c there
  · intro id' call' c rest here
    rcases movedCases here with ⟨rfl, moved⟩ | ⟨-, there⟩
    · cases moved
      exact backed c (.inr ⟨rest, rfl⟩)
    · exact h.writing id' call' c rest there

theorem Spaced.record {fleet : Fleet} {s : State} (h : Spaced fleet s) {e : Event}
    (noClaim : ∀ id call t, e = .claimed id call t → call.raw.length < 56)
    (backed : ∀ id call c t, e = .entered id call c t → .claimed id call c ∈ s.history ∧ c ≤ t)
    (owner : ∀ id call t, e = .suppressed id call .none t →
      ∃ call' t', ∃ ev ∈ s.history, Wrote fleet call' t' ev ∧ SameKey call call' ∧
        t < t' + fleet.window call') :
    Spaced fleet { s with history := e :: s.history } := by
  refine ⟨?_, ?_, ?_, ?_, ?_, ?_, owner, h.sameKey⟩
  · intro id call t mem long
    rcases List.mem_cons.mp mem with isNew | old
    · exact absurd long (Nat.not_le.mpr (noClaim id call t isNew.symm))
    · exact h.held id call t old long
  · refine List.pairwise_cons.mpr ⟨?_, h.apart⟩
    intro older _ id call t id' call' t' isClaim _ same
    exact absurd same.1 (Nat.not_le.mpr (noClaim id call t isClaim))
  · intro k entry found
    obtain ⟨call, t, ev, mem, rest⟩ := h.owned k entry found
    exact ⟨call, t, ev, List.mem_cons_of_mem _ mem, rest⟩
  · intro id call c here
    exact ⟨List.mem_cons_of_mem _ (h.routing id call c here).1, (h.routing id call c here).2⟩
  · intro id call c rest here
    exact ⟨List.mem_cons_of_mem _ (h.writing id call c rest here).1, (h.writing id call c rest here).2⟩
  · intro id call c t mem
    rcases List.mem_cons.mp mem with isNew | old
    · obtain ⟨claim, order⟩ := backed id call c t isNew.symm
      exact ⟨List.mem_cons_of_mem _ claim, order⟩
    · obtain ⟨claim, order⟩ := h.entered id call c t old
      exact ⟨List.mem_cons_of_mem _ claim, order⟩

theorem Spaced.wrote {fleet : Fleet} {s : State} (h : Spaced fleet s) {call : Call} {ev : Event}
    (long : 56 ≤ call.raw.length) (wrote : Wrote fleet call s.now ev)
    (absent : read s.store s.now (fleet.slot call) = none) :
    Spaced fleet { s with
      store := put s.store s.now (fleet.slot call) claimValue (fleet.window call)
      history := ev :: s.history } := by
  -- Every earlier claim of this slot has run out, or the slot would be held.
  have expired : ∀ id' call' t', .claimed id' call' t' ∈ s.history → 56 ≤ call'.raw.length →
      fleet.slot call' = fleet.slot call → t' + fleet.window call' ≤ s.now := by
    intro id' call' t' mem long' slot
    rcases h.held id' call' t' mem long' with past | ⟨e, found, late⟩
    · exact past
    · rw [slot] at found
      exact Int.le_trans late (readNone absent found)
  have isClaim : ∀ id' call' t', ev = .claimed id' call' t' → call' = call ∧ t' = s.now := by
    intro id' call' t' same
    cases wrote with
    | claim id => cases same; exact ⟨rfl, rfl⟩
    | landed id => cases same
  refine ⟨?_, ?_, ?_, ?_, ?_, ?_, ?_, h.sameKey⟩
  · intro id' call' t' mem long'
    by_cases slot : fleet.slot call' = fleet.slot call
    · rcases List.mem_cons.mp mem with isNew | old
      · obtain ⟨rfl, rfl⟩ := isClaim id' call' t' isNew.symm
        exact .inr ⟨_, putSame .., Int.le_refl _⟩
      · exact .inl (expired id' call' t' old long' slot)
    · rcases List.mem_cons.mp mem with isNew | old
      · obtain ⟨rfl, -⟩ := isClaim id' call' t' isNew.symm
        exact absurd rfl slot
      · rcases h.held id' call' t' old long' with past | ⟨e, found, late⟩
        · exact .inl past
        · exact .inr ⟨e, (putOther _ _ _ _ slot).trans found, late⟩
  · refine List.pairwise_cons.mpr ⟨?_, h.apart⟩
    intro older mem id' call' t' id'' call'' t'' new old same
    obtain ⟨rfl, rfl⟩ := isClaim id' call' t' new
    subst old
    exact expired id'' call'' t'' mem same.2.1 (by rw [Fleet.slot, Fleet.slot, same.2.2])
  · intro k e found
    rcases putCases found with ⟨rfl, rfl⟩ | ⟨-, held⟩
    · exact ⟨call, s.now, ev, List.mem_cons_self, wrote, long, rfl, rfl⟩
    · obtain ⟨call', t, ev', mem, rest⟩ := h.owned k e held
      exact ⟨call', t, ev', List.mem_cons_of_mem _ mem, rest⟩
  · intro id' call' c here
    exact ⟨List.mem_cons_of_mem _ (h.routing id' call' c here).1, (h.routing id' call' c here).2⟩
  · intro id' call' c rest here
    exact ⟨List.mem_cons_of_mem _ (h.writing id' call' c rest here).1,
      (h.writing id' call' c rest here).2⟩
  · intro id' call' c t mem
    rcases List.mem_cons.mp mem with isNew | old
    · cases wrote <;> cases isNew
    · exact ⟨List.mem_cons_of_mem _ (h.entered id' call' c t old).1, (h.entered id' call' c t old).2⟩
  · intro id' call' t same
    cases wrote <;> cases same

theorem Spaced.holder {fleet : Fleet} {s : State} (h : Spaced fleet s) {call : Call}
    (long : 56 ≤ call.raw.length) (present : (read s.store s.now (fleet.slot call)).isSome) :
    ∃ call' t', ∃ ev ∈ s.history, Wrote fleet call' t' ev ∧ SameKey call call' ∧
      s.now < t' + fleet.window call' := by
  obtain ⟨e, found, live⟩ := readSome present
  obtain ⟨call', t', ev, mem, wrote, long', slot, expires⟩ := h.owned _ e found
  exact ⟨call', t', ev, mem, wrote, slotInj long long' slot.symm, by omega⟩

theorem stepSpaced {lib : FrameLib} {fleet : Fleet} {s s' : State} {a : Action}
    (h : Spaced fleet s) (ok : step lib fleet s a = some s') : Spaced fleet s' := by
  cases stepTook ok with
  | tick forward => exact h.tick forward
  | @passed id call fault store fresh gate =>
    have recorded : Spaced fleet { s with store := store, history := .claimed id call s.now :: s.history } := by
      by_cases long : 56 ≤ call.raw.length
      · obtain ⟨absent, rfl⟩ := gatePassed long gate
        exact h.wrote long (.claim id) absent
      · rw [gateUnkeyed fleet (by omega)] at gate
        cases gate
        exact h.record (fun _ _ _ e => by cases e; omega) (fun _ _ _ _ e => by cases e)
          (fun _ _ _ e => by cases e)
    refine recorded.phase ?_
    rintro c (isRouting | ⟨rest, isWriting⟩)
    · cases isRouting
      exact ⟨List.mem_cons_self, Int.le_refl _⟩
    · cases isWriting
  | @stopped id call fault store fresh gate =>
    obtain ⟨long, held, same | ⟨rfl, absent, rfl⟩⟩ := gateStopped gate
    · subst store
      refine (h.record (fun _ _ _ e => by cases e) (fun _ _ _ _ e => by cases e) ?_).phase ?_
      · intro id' call' t e
        cases e
        exact h.holder long (held rfl)
      · rintro c (e | ⟨rest, e⟩) <;> cases e
    · refine (h.wrote long (.landed id) absent).phase ?_
      rintro c (e | ⟨rest, e⟩) <;> cases e
  | unroutable here group =>
    refine (h.record (fun _ _ _ e => by cases e) (fun _ _ _ _ e => by cases e)
      (fun _ _ _ e => by cases e)).phase ?_
    rintro c (e | ⟨rest, e⟩) <;> cases e
  | @enter id order call claimed dst here group visits free =>
    have claim := h.routing id call claimed here
    refine ((h.lock call.inst true).record (fun _ _ _ e => by cases e) ?_
      (fun _ _ _ e => by cases e)).phase ?_
    · intro id' call' c t e
      cases e
      exact claim
    · rintro c (e | ⟨rest, e⟩) <;> cases e
      exact ⟨List.mem_cons_of_mem _ claim.1, claim.2⟩
  | wrote here =>
    refine h.phase ?_
    rintro c (e | ⟨rest, e⟩) <;> cases e
    exact h.writing _ _ _ _ here
  | broke here =>
    refine ((h.lock _ false).record (fun _ _ _ e => by cases e) (fun _ _ _ _ e => by cases e)
      (fun _ _ _ e => by cases e)).phase ?_
    rintro c (e | ⟨rest, e⟩) <;> cases e
  | finished here =>
    refine ((h.lock _ false).record (fun _ _ _ e => by cases e) (fun _ _ _ _ e => by cases e)
      (fun _ _ _ e => by cases e)).phase ?_
    rintro c (e | ⟨rest, e⟩) <;> cases e

/-- Of two calls for one key that both reach the egress loop, the later claim
comes a whole window after the earlier one; and the gate stops a call only for
a write of the same key that has not run out. -/
theorem oneClaimAWindow (lib : FrameLib) (fleet : Fleet) (acts : List Action) (s : State)
    (ran : run (step lib fleet) init acts = some s) :
    (∀ id id' call call' c c' t t', id ≠ id' → .entered id call c t ∈ s.history →
      .entered id' call' c' t' ∈ s.history → SameKey call call' →
      (c + fleet.window call ≤ c' ∧ c' ≤ t') ∨ (c' + fleet.window call' ≤ c ∧ c ≤ t)) ∧
    (∀ newer older id call t, s.history = newer ++ .suppressed id call .none t :: older →
      ∃ call' t', ∃ ev ∈ older, Wrote fleet call' t' ev ∧ SameKey call call' ∧
        t < t' + fleet.window call') := by
  have h : Spaced fleet s := invariant (fun _ _ _ => stepSpaced) (initSpaced fleet) ran
  refine ⟨?_, ?_⟩
  · intro id id' call call' c c' t t' ne mem mem' same
    obtain ⟨claim, order⟩ := h.entered id call c t mem
    obtain ⟨claim', order'⟩ := h.entered id' call' c' t' mem'
    have distinct : Event.claimed id call c ≠ Event.claimed id' call' c' := by
      intro e
      cases e
      exact ne rfl
    rcases pairwiseEither h.apart claim claim' distinct with later | earlier
    · exact .inr ⟨later _ _ _ _ _ _ rfl rfl same, order⟩
    · exact .inl ⟨earlier _ _ _ _ _ _ rfl rfl ⟨same.2.1, same.1, same.2.2.symm⟩, order'⟩
  · intro newer older id call t split
    have each := h.sameKey
    rw [split] at each
    exact eachAt each id call t rfl

theorem lateTwin :
    (run (step FrameLib.plain (twins 10)) init
      [.start 0 repair .none, .tick 10, .start 1 twin .none, .route 0 ["eth0"], .route 1 ["eth0"]]).map
        (·.history) =
      some [.entered 1 twin 10 10, .entered 0 repair 0 10, .claimed 1 twin 10, .claimed 0 repair 0] := by
  decide

/- The instance that claims second enters the loop when the first one's claim
has run out, at the same time as the first one, which was held up. -/
theorem delayedEntriesMeet :
    ¬ ∀ (lib : FrameLib) (fleet : Fleet) (acts : List Action) (s : State),
      run (step lib fleet) init acts = some s →
      ∀ id id' call call' c c' t t', id ≠ id' → .entered id call c t ∈ s.history →
        .entered id' call' c' t' ∈ s.history → SameKey call call' →
        t + fleet.window call ≤ t' ∨ t' + fleet.window call' ≤ t := by
  intro always
  obtain ⟨s, ran, recorded⟩ := Option.map_eq_some_iff.mp lateTwin
  have near := always _ _ _ s ran 0 1 repair twin 0 10 10 10 (by decide)
    (by simp [recorded]) (by simp [recorded]) ⟨by decide, by decide, rfl⟩
  revert near
  decide

theorem oneClaimAWindowTwice :
    ∃ s, run (step FrameLib.plain (twins 10)) init
        [.start 0 repair .none, .tick 10, .start 1 twin .none, .route 0 ["eth0"], .route 1 ["eth0"]] =
          some s ∧
      .entered 0 repair 0 10 ∈ s.history ∧ .entered 1 twin 10 10 ∈ s.history ∧
      (∀ id id' call call' c c' t t', id ≠ id' → .entered id call c t ∈ s.history →
        .entered id' call' c' t' ∈ s.history → SameKey call call' →
        (c + (twins 10).window call ≤ c' ∧ c' ≤ t') ∨ (c' + (twins 10).window call' ≤ c ∧ c ≤ t)) ∧
      (∀ newer older id call t, s.history = newer ++ .suppressed id call .none t :: older →
        ∃ call' t', ∃ ev ∈ older, Wrote (twins 10) call' t' ev ∧ SameKey call call' ∧
          t < t' + (twins 10).window call') := by
  obtain ⟨s, ran, recorded⟩ := Option.map_eq_some_iff.mp lateTwin
  exact ⟨s, ran, by simp [recorded], by simp [recorded], oneClaimAWindow _ _ _ s ran⟩

end RetryEndpoint.DedupSpacing
