import RetryEndpoint.DedupFleet

/-! When suppression tells the truth. The claim is taken before the group is
derived and before anything is written, and it is not given back: a suppressed
call stands for a frame on the wire only if nothing failed after the claim it met
and nothing of that key is still under way. -/
namespace RetryEndpoint.DedupTruth
open BigEndian Wire Cache ExpiringStore Retransmit Runs DedupFleet

def Pending (s : State) (id : Nat) (call : Call) : Prop :=
  ∃ phase, s.calls id = some (call, phase) ∧ phase ≠ .done

/- What a step must meet for suppression to be truthful: the backend answers,
the frame has a group, its writes work, and no call for the same key is still
between its claim and its return when another one asks. -/
def Orderly (lib : FrameLib) (fleet : Fleet) (s : State) : Action → Prop
  | .start _ call fault => fault = .none ∧
      (∃ dst, (fleet.inst call.inst).targetGroup lib call.raw call.txID = .ok dst) ∧
      ∀ id' call', Pending s id' call' → ¬ SameKey call call'
  | .write _ fails => fails = false
  | _ => True

def Truthful (fleet : Fleet) (e : Event) (older : List Event) : Prop :=
  ∀ id call fault t, e = .suppressed id call fault t →
    ∃ id' call' t', .returned id' call' .sent t' ∈ older ∧ SameKey call call' ∧
      t' ≤ t ∧ t ≤ t' + fleet.window call'

structure Kept (lib : FrameLib) (fleet : Fleet) (s : State) : Prop where
  claims : ∀ id call t, .claimed id call t ∈ s.history → Pending s id call ∨
    ∃ t', .returned id call .sent t' ∈ s.history ∧ t ≤ t' ∧ t' ≤ s.now
  owned : ∀ k e, s.store k = some e → ∃ id call t, .claimed id call t ∈ s.history ∧
    56 ≤ call.raw.length ∧ fleet.slot call = k ∧ e.expires = t + fleet.window call
  past : ∀ id call t, .claimed id call t ∈ s.history → t ≤ s.now
  routable : ∀ id call c, s.calls id = some (call, .routing c) →
    ∃ dst, (fleet.inst call.inst).targetGroup lib call.raw call.txID = .ok dst
  truthful : Each (Truthful fleet) s.history

theorem initKept (lib : FrameLib) (fleet : Fleet) : Kept lib fleet init := by
  refine ⟨?_, ?_, ?_, ?_, trivial⟩
  · intro id call t mem; cases mem
  · intro k e found; cases found
  · intro id call t mem; cases mem
  · intro id call c here; cases here

theorem pendingOther {s : State} {id id' : Nat} {call call' : Call} {phase : Phase}
    (h : Pending s id' call') (other : id' ≠ id) :
    Pending { s with calls := Function.update s.calls id (some (call, phase)) } id' call' := by
  obtain ⟨old, here, busy⟩ := h
  exact ⟨old, by simp only [Function.update_of_ne other, here], busy⟩

theorem Kept.move {lib : FrameLib} {fleet : Fleet} {s : State} (h : Kept lib fleet s) {id : Nat}
    {call : Call} {before after : Phase} (here : s.calls id = some (call, before))
    (busy : after ≠ .done) (notBack : ∀ c, after ≠ .routing c) :
    Kept lib fleet { s with calls := Function.update s.calls id (some (call, after)) } := by
  refine ⟨?_, h.owned, h.past, ?_, h.truthful⟩
  · intro id' call' t mem
    rcases h.claims id' call' t mem with pending | sent
    · by_cases same : id' = id
      · subst id'
        obtain ⟨phase, found, -⟩ := pending
        rw [here, Option.some.injEq, Prod.mk.injEq] at found
        exact .inl ⟨after, by simp only [Function.update_self, found.1], busy⟩
      · exact .inl (pendingOther pending same)
    · exact .inr sent
  · intro id' call' c found
    rcases movedCases found with ⟨-, moved⟩ | ⟨-, there⟩
    · exact absurd (Prod.ext_iff.mp moved).2 (notBack c)
    · exact h.routable id' call' c there

theorem Kept.close {lib : FrameLib} {fleet : Fleet} {s : State} (h : Kept lib fleet s) {id : Nat}
    {call : Call} (sent : ∀ call' t, .claimed id call' t ∈ s.history → Pending s id call' →
      ∃ t', .returned id call' .sent t' ∈ s.history ∧ t ≤ t' ∧ t' ≤ s.now) :
    Kept lib fleet { s with calls := Function.update s.calls id (some (call, .done)) } := by
  refine ⟨?_, h.owned, h.past, ?_, h.truthful⟩
  · intro id' call' t mem
    rcases h.claims id' call' t mem with pending | back
    · by_cases same : id' = id
      · subst id'
        exact .inr (sent call' t mem pending)
      · exact .inl (pendingOther pending same)
    · exact .inr back
  · intro id' call' c found
    rcases movedCases found with ⟨-, moved⟩ | ⟨-, there⟩
    · cases moved
    · exact h.routable id' call' c there

theorem Kept.record {lib : FrameLib} {fleet : Fleet} {s : State} (h : Kept lib fleet s) {e : Event}
    (noClaim : ∀ id call t, e ≠ .claimed id call t) (truthful : Truthful fleet e s.history) :
    Kept lib fleet { s with history := e :: s.history } := by
  refine ⟨?_, ?_, ?_, h.routable, truthful, h.truthful⟩
  · intro id call t mem
    rcases List.mem_cons.mp mem with isNew | old
    · exact absurd isNew.symm (noClaim id call t)
    · rcases h.claims id call t old with busy | ⟨t', sent, rest⟩
      · exact .inl busy
      · exact .inr ⟨t', List.mem_cons_of_mem _ sent, rest⟩
  · intro k entry found
    obtain ⟨id, call, t, mem, rest⟩ := h.owned k entry found
    exact ⟨id, call, t, List.mem_cons_of_mem _ mem, rest⟩
  · intro id call t mem
    rcases List.mem_cons.mp mem with isNew | old
    · exact absurd isNew.symm (noClaim id call t)
    · exact h.past id call t old

theorem Kept.lock {lib : FrameLib} {fleet : Fleet} {s : State} (h : Kept lib fleet s) (inst : Nat)
    (held : Bool) : Kept lib fleet (s.lock inst held) :=
  ⟨h.claims, h.owned, h.past, h.routable, h.truthful⟩

theorem Kept.claim {lib : FrameLib} {fleet : Fleet} {s : State} (h : Kept lib fleet s) {id : Nat}
    {call : Call} {store : Backend} {dst : UDPAddr} (fresh : s.calls id = none)
    (gate : (fleet.inst call.inst).gate call.raw s.store .none s.now = (true, store))
    (group : (fleet.inst call.inst).targetGroup lib call.raw call.txID = .ok dst) :
    Kept lib fleet
      ({ s with store := store }.put id call (.routing s.now) (.claimed id call s.now)) := by
  refine ⟨?_, ?_, ?_, ?_, ?_, h.truthful⟩
  · intro id' call' t mem
    rcases List.mem_cons.mp mem with isNew | old
    · cases isNew
      exact .inl ⟨.routing s.now, Function.update_self .., by simp⟩
    · rcases h.claims id' call' t old with pending | ⟨t', sent, rest⟩
      · have other : id' ≠ id := by
          rintro rfl
          obtain ⟨phase, found, -⟩ := pending
          rw [fresh] at found
          cases found
        exact .inl (pendingOther pending other)
      · exact .inr ⟨t', List.mem_cons_of_mem _ sent, rest⟩
  · intro k e found
    change store k = some e at found
    have older : s.store k = some e → ∃ id' call' t, .claimed id' call' t ∈
        Event.claimed id call s.now :: s.history ∧ 56 ≤ call'.raw.length ∧
        fleet.slot call' = k ∧ e.expires = t + fleet.window call' := by
      intro held
      obtain ⟨id', call', t, mem, rest⟩ := h.owned k e held
      exact ⟨id', call', t, List.mem_cons_of_mem _ mem, rest⟩
    by_cases long : 56 ≤ call.raw.length
    · obtain ⟨-, rfl⟩ := gatePassed long gate
      rcases putCases found with ⟨rfl, rfl⟩ | ⟨-, held⟩
      · exact ⟨id, call, s.now, List.mem_cons_self, long, rfl, rfl⟩
      · exact older held
    · rw [gateUnkeyed fleet (by omega)] at gate
      cases gate
      exact older found
  · intro id' call' t mem
    rcases List.mem_cons.mp mem with isNew | old
    · cases isNew
      exact Int.le_refl _
    · exact h.past id' call' t old
  · intro id' call' c found
    rcases movedCases found with ⟨-, moved⟩ | ⟨-, there⟩
    · cases moved
      exact ⟨dst, group⟩
    · exact h.routable id' call' c there
  · intro id' call' fault t e
    cases e

theorem Kept.holderSent {lib : FrameLib} {fleet : Fleet} {s : State} (h : Kept lib fleet s)
    {call : Call} (long : 56 ≤ call.raw.length)
    (alone : ∀ id' call', Pending s id' call' → ¬ SameKey call call')
    (present : (read s.store s.now (fleet.slot call)).isSome) :
    ∃ id' call' t', .returned id' call' .sent t' ∈ s.history ∧ SameKey call call' ∧
      t' ≤ s.now ∧ s.now ≤ t' + fleet.window call' := by
  obtain ⟨e, found, live⟩ := readSome present
  obtain ⟨id', call', t, claim, long', slot, expires⟩ := h.owned _ e found
  have same : SameKey call call' := slotInj long long' slot.symm
  rcases h.claims id' call' t claim with pending | ⟨t', sent, after, before⟩
  · exact absurd same (alone id' call' pending)
  · exact ⟨id', call', t', sent, same, before, by omega⟩

theorem stepKept {lib : FrameLib} {fleet : Fleet} {s s' : State} {a : Action}
    (h : Kept lib fleet s) (orderly : Orderly lib fleet s a) (ok : step lib fleet s a = some s') :
    Kept lib fleet s' := by
  cases stepTook ok with
  | tick forward =>
    refine ⟨?_, h.owned, ?_, h.routable, h.truthful⟩
    · intro id call t mem
      rcases h.claims id call t mem with busy | ⟨t', sent, after, before⟩
      · exact .inl busy
      · exact .inr ⟨t', sent, after, Int.le_trans before forward⟩
    · intro id call t mem
      exact Int.le_trans (h.past id call t mem) forward
  | passed fresh gate =>
    obtain ⟨rfl, ⟨dst, group⟩, -⟩ := orderly
    exact h.claim fresh gate group
  | @stopped id call fault store fresh gate =>
    obtain ⟨rfl, -, alone⟩ := orderly
    obtain ⟨long, held, same | ⟨never, -⟩⟩ := gateStopped gate
    · subst store
      have recorded : Kept lib fleet { s with history := .suppressed id call .none s.now :: s.history } := by
        refine h.record (fun _ _ _ e => by cases e) ?_
        intro id' call' fault t e
        cases e
        exact h.holderSent long alone (held rfl)
      refine recorded.close ?_
      rintro call' t - ⟨phase, found, -⟩
      rw [fresh] at found
      cases found
    · cases never
  | @unroutable id order call claimed e here group =>
    obtain ⟨dst, routed⟩ := h.routable id call claimed here
    rw [routed] at group
    cases group
  | @enter id order call claimed dst here group visits free =>
    exact ((h.lock call.inst true).record (fun _ _ _ e => by cases e) (fun _ _ _ _ e => by cases e)).move
      here (by simp) (by simp)
  | wrote here => exact h.move here (by simp) (by simp)
  | broke here => cases orderly
  | @finished id call claimed here =>
    have recorded : Kept lib fleet
        { s.lock call.inst false with history := .returned id call .sent s.now :: s.history } :=
      (h.lock call.inst false).record (fun _ _ _ e => by cases e) (fun _ _ _ _ e => by cases e)
    refine recorded.close ?_
    rintro call' t mem ⟨phase, found, -⟩
    change s.calls id = some (call', phase) at found
    rw [here, Option.some.injEq, Prod.mk.injEq] at found
    obtain ⟨rfl, -⟩ := found
    exact ⟨s.now, List.mem_cons_self, recorded.past id call t mem, Int.le_refl _⟩

/-- In a run whose every step is orderly, a suppressed call has behind it a call
for the same key that put the frame on the wire no more than a window ago. -/
theorem suppressedAfterSend (lib : FrameLib) (fleet : Fleet) (acts : List Action) (s : State)
    (orderly : Along (step lib fleet) (Orderly lib fleet) init acts)
    (ran : run (step lib fleet) init acts = some s) (newer older : List Event) (id : Nat)
    (call : Call) (fault : Fault) (t : Int)
    (split : s.history = newer ++ .suppressed id call fault t :: older) :
    ∃ id' call' t', .returned id' call' .sent t' ∈ older ∧ SameKey call call' ∧
      t' ≤ t ∧ t ≤ t' + fleet.window call' := by
  have h : Kept lib fleet s :=
    invariantAlong (fun _ _ _ => stepKept) (initKept lib fleet) orderly ran
  have each := h.truthful
  rw [split] at each
  exact eachAt each id call fault t rfl

theorem suppressedAfterSendAgain :
    ∃ s older, run (step FrameLib.plain (twins 10)) init
        [.start 0 repair .none, .route 0 ["eth0"], .write 0 false, .finish 0, .tick 5,
          .start 1 twin .none] = some s ∧
      s.history = .suppressed 1 twin .none 5 :: older ∧
      ∃ id' call' t', .returned id' call' .sent t' ∈ older ∧ SameKey twin call' ∧
        t' ≤ 5 ∧ 5 ≤ t' + (twins 10).window call' := by
  have history : (run (step FrameLib.plain (twins 10)) init
      [.start 0 repair .none, .route 0 ["eth0"], .write 0 false, .finish 0, .tick 5,
        .start 1 twin .none]).map (·.history) =
      some [.suppressed 1 twin .none 5, .returned 0 repair .sent 0, .entered 0 repair 0 0,
        .claimed 0 repair 0] := by decide
  obtain ⟨s, ran, recorded⟩ := Option.map_eq_some_iff.mp history
  refine ⟨s, _, ran, recorded, suppressedAfterSend _ _ _ s ?_ ran [] _ 1 twin .none 5 recorded⟩
  have routable : ∀ i, ∃ dst, ((twins 10).inst i).targetGroup FrameLib.plain repair.raw repair.txID =
      .ok dst := fun _ => ⟨_, rfl⟩
  refine ⟨⟨rfl, routable 0, ?_⟩, ?_⟩
  · rintro id' call' ⟨phase, found, -⟩
    cases found
  iterate 4
    intro s e
    cases Option.some.inj e
    refine ⟨by trivial, ?_⟩
  intro s e
  cases Option.some.inj e
  refine ⟨⟨rfl, routable 1, ?_⟩, fun _ _ => trivial⟩
  rintro id' call' ⟨phase, found, busy⟩
  by_cases first : id' = 0
  · subst id'
    cases Option.some.inj found
    exact absurd rfl busy
  · simp [State.put, State.lock, init, first] at found

/- A backend that answers with an error suppresses the only call there ever was. -/
theorem suppressedByFault :
    ¬ ∀ (lib : FrameLib) (fleet : Fleet) (acts : List Action) (s : State),
      run (step lib fleet) init acts = some s →
      ∀ newer older id call fault t, s.history = newer ++ .suppressed id call fault t :: older →
        ∃ id' call' t', .returned id' call' .sent t' ∈ older ∧ SameKey call call' ∧
          t' ≤ t ∧ t ≤ t' + fleet.window call' := by
  intro always
  have history : (run (step FrameLib.plain (twins 10)) init [.start 0 repair .lost]).map (·.history) =
      some [.suppressed 0 repair .lost 0] := by decide
  obtain ⟨s, ran, recorded⟩ := Option.map_eq_some_iff.mp history
  obtain ⟨_, _, _, mem, -⟩ := always _ _ _ s ran [] [] 0 repair .lost 0 recorded
  cases mem

end RetryEndpoint.DedupTruth
