import RetryEndpoint.Accounts
import RetryEndpoint.CopyOnWrite
import RetryEndpoint.WorkPool

/-! Any number of FrameCached calls at once. A call adds to framesCached, fetches the
option of its source without a lock if it can, and adds to cacheStored under it;
each of these, and each access of sourceOption to the shared map, is a step of its
own, and so is each of the zeros PreCreateSources adds, which goes past the map. What
was added for a source is what tells a starved source from one never joined, so the
calls must add what the same calls add one after the other. -/
namespace RetryEndpoint.SourceOptions
open Wire Ingress KeyedMap Ledger Accounts Runs CopyOnWrite

inductive Phase where
  | begun
  | fetching (phase : CopyOnWrite.Phase Label SourceOption)
  | through (o : SourceOption)

structure State where
  recorder : Recorder
  holder : Option Nat
  made : List Label
  created : List Label
  begun : List Label
  calls : Nat → Option (Label × Phase)
  ended : List (Label × Nat)

def init : State := ⟨Recorder.new, none, [], [], [], fun _ => none, []⟩

inductive Action where
  | preCreate (source : Label)
  | call (source : Label)
  | move (id : Nat)

def cell (s : State) : Cell Label SourceOption := ⟨s.recorder.cachedBySource, s.holder, s.made⟩

def State.put (s : State) (id : Nat) (source : Label) (phase : Phase) : State :=
  { s with calls := Function.update s.calls id (some (source, phase)) }

def State.fetch (s : State) (c : Cell Label SourceOption) : State :=
  { s with recorder := { s.recorder with cachedBySource := c.published }, holder := c.holder, made := c.made }

def step (s : State) : Action → Option State
  | .preCreate source => some { s with
      recorder := s.recorder.add (.cacheStored ⟨source⟩) 0, created := s.created ++ [source] }
  | .call source => some { s with
      begun := s.begun ++ [source], calls := Function.update s.calls s.begun.length (some (source, .begun)) }
  | .move id => match s.calls id with
    | some (source, .begun) =>
      some { s.put id source (.fetching .load) with
        recorder := s.recorder.add .framesCached 1 }
    | some (source, .fetching (.done o)) =>
      some { s.put id source (.through o) with
        recorder := s.recorder.add (.cacheStored o) 1
        ended := s.ended ++ [(source, id)] }
    | some (source, .fetching phase) => do
      let (c, phase) ← advance SourceOption.mk (cell s) id source phase
      some ((s.fetch c).put id source (.fetching phase))
    | _ => none

inductive Took (s : State) : Action → State → Prop where
  | preCreate {source} : Took s (.preCreate source) { s with
      recorder := s.recorder.add (.cacheStored ⟨source⟩) 0, created := s.created ++ [source] }
  | call {source} : Took s (.call source) { s with
      begun := s.begun ++ [source], calls := Function.update s.calls s.begun.length (some (source, .begun)) }
  | counted {id source} (here : s.calls id = some (source, .begun)) :
      Took s (.move id) { s.put id source (.fetching .load) with
        recorder := s.recorder.add .framesCached 1 }
  | fetched {id source phase c phase'} (here : s.calls id = some (source, .fetching phase))
      (moved : advance SourceOption.mk (cell s) id source phase = some (c, phase')) :
      Took s (.move id) ((s.fetch c).put id source (.fetching phase'))
  | stored {id source o} (here : s.calls id = some (source, .fetching (.done o))) :
      Took s (.move id) { s.put id source (.through o) with
        recorder := s.recorder.add (.cacheStored o) 1
        ended := s.ended ++ [(source, id)] }

theorem stepTook {s s' : State} {a : Action} (ok : step s a = some s') : Took s a s' := by
  cases a with
  | preCreate source => cases Option.some.inj ok; exact .preCreate
  | call source => cases Option.some.inj ok; exact .call
  | move id =>
    simp only [step] at ok
    split at ok <;> try contradiction
    · rename_i source here
      cases Option.some.inj ok
      exact .counted here
    · rename_i source o here
      cases Option.some.inj ok
      exact .stored here
    · rename_i source phase _ here
      obtain ⟨⟨c, phase'⟩, moved, ok⟩ := Option.bind_eq_some_iff.mp ok
      cases Option.some.inj ok
      exact .fetched here moved

def seen : Label × Phase → Option (Label × CopyOnWrite.Phase Label SourceOption)
  | (_, .begun) => none
  | (source, .fetching phase) => some (source, phase)
  | (source, .through o) => some (source, .done o)

def shared (s : State) : CopyOnWrite.State Label SourceOption := ⟨cell s, fun id => (s.calls id).bind seen⟩

theorem sharedPut (calls : Nat → Option (Label × Phase)) (id : Nat) (entry : Label × Phase) :
    (fun k => (Function.update calls id (some entry) k).bind seen) =
      Function.update (fun k => (calls k).bind seen) id (seen entry) := by
  funext k
  by_cases same : k = id
  · subst same
    simp
  · simp [Function.update_of_ne same]

def isThrough : Phase → Bool
  | .through _ => true
  | _ => false

def between : Phase → Nat
  | .fetching _ => 1
  | _ => 0

def sourcesOf (s : State) : List Label := s.ended.map Prod.fst

structure Counts (s : State) : Prop where
  tracked : WorkPool.Tracked isThrough s.begun (s.ended.map Prod.snd) s.calls
  once : (s.ended.map Prod.snd).Nodup
  ends : ∀ source id, (source, id) ∈ s.ended ↔ ∃ o, s.calls id = some (source, .through o)
  added : ∀ q, entered q s.recorder.adds =
    (if q .framesCached then s.ended.length + WorkPool.total between s.begun.length s.calls else 0) +
      (sourcesOf s).countP fun source => q (.cacheStored ⟨source⟩)
  named : ∀ k, k ∈ s.recorder.sources ↔ k ∈ s.created ∨ k ∈ sourcesOf s

structure Sound (s : State) : Prop where
  counts : Counts s
  map : CopyOnWrite.Sound SourceOption.mk (shared s)

theorem memSources (r : Recorder) (x : Instrument) (n : Nat) (k : Label) :
    k ∈ (r.add x n).sources ↔ sourceOf x = some k ∨ k ∈ r.sources := by
  simp only [Recorder.sources, Recorder.add, List.mem_toFinset, List.filterMap_cons]
  cases named : sourceOf x with
  | none => simp
  | some source => simp [eq_comm]

section Keeps
variable {s s' : State}

theorem initSound : Sound init where
  counts := ⟨WorkPool.trackedNew, List.nodup_nil, fun _ _ => by simp [init], fun q => by simp [init, Recorder.new,
    entered, sourcesOf, WorkPool.total], fun k => by simp [init, Recorder.new, Recorder.sources, sourcesOf]⟩
  map := startSound

theorem stepShared {a : Action} (h : Counts s) (stepped : step s a = some s') :
    shared s' = shared s ∨ ∃ b, CopyOnWrite.step SourceOption.mk (shared s) b = some (shared s') := by
  cases stepTook stepped with
  | preCreate => exact .inl rfl
  | @call source =>
    have fresh := h.tracked.fresh
    refine .inl ?_
    simp only [shared, sharedPut, cell, CopyOnWrite.State.mk.injEq, true_and]
    refine Function.update_eq_self_iff.mpr ?_
    rw [fresh]
    rfl
  | @counted id source here =>
    refine .inr ⟨.call id source, ?_⟩
    have none : (shared s).calls id = none := by simp [shared, here, seen]
    simp only [CopyOnWrite.step, none]
    simp only [shared, State.put, sharedPut, cell, seen, Recorder.add]
  | @fetched id source phase c phase' here moved =>
    refine .inr ⟨.move id, ?_⟩
    have mine : (shared s).calls id = some (source, phase) := by simp [shared, here, seen]
    have moved' : advance SourceOption.mk (shared s).cell id source phase = some (c, phase') := moved
    simp only [CopyOnWrite.step, mine, moved', bind, Option.bind_some]
    simp only [shared, State.put, State.fetch, sharedPut, cell, seen]
  | @stored id source o here =>
    refine .inl ?_
    simp only [shared, State.put, sharedPut, cell, Recorder.add, CopyOnWrite.State.mk.injEq, true_and]
    refine Function.update_eq_self_iff.mpr ?_
    rw [here]
    rfl

theorem Sound.ownOption (h : Sound s) {id : Nat} {source : Label} {o : SourceOption}
    (here : s.calls id = some (source, .fetching (.done o)) ∨ s.calls id = some (source, .through o)) :
    o = ⟨source⟩ ∧ (cell s).find source = some ⟨source⟩ := by
  have mine : (shared s).calls id = some (source, .done o) := by
    rcases here with here | here <;> simp [shared, here, seen]
  exact h.map.knows id source _ mine

theorem throughApart {id k : Nat} {source source' : Label} {phase : Phase} {o : SourceOption}
    (here : s.calls id = some (source, phase)) (before : isThrough phase = false)
    (there : s.calls k = some (source', .through o)) : k ≠ id := by
  rintro rfl
  rw [here] at there
  cases Option.some.inj there
  cases before

theorem Counts.unended (h : Counts s) {id : Nat} {source : Label} {phase : Phase}
    (here : s.calls id = some (source, phase)) (before : isThrough phase = false) : id ∉ s.ended.map Prod.snd := by
  intro mem
  obtain ⟨⟨source', k⟩, listed, rfl⟩ := List.mem_map.mp mem
  obtain ⟨o, there⟩ := (h.ends source' k).mp listed
  exact throughApart here before there rfl

theorem Counts.move (h : Counts s) {id : Nat} {source : Label} {phase phase' : Phase}
    (here : s.calls id = some (source, phase)) (before : isThrough phase = false)
    (after : isThrough phase' = false) (begun : s'.begun = s.begun) (ended : s'.ended = s.ended)
    (created : s'.created = s.created) (calls : s'.calls = Function.update s.calls id (some (source, phase')))
    (sources : s'.recorder.sources = s.recorder.sources)
    (added : ∀ q, entered q s'.recorder.adds + (if q .framesCached then between phase else 0) =
      entered q s.recorder.adds + if q .framesCached then between phase' else 0) : Counts s' := by
  constructor
  · rw [begun, ended, calls]
    exact h.tracked.move here before phase'
  · rw [ended]
    exact h.once
  · intro source' k
    rw [ended, calls, h.ends]
    constructor
    · rintro ⟨o, there⟩
      exact ⟨o, (Function.update_of_ne (throughApart here before there) ..).trans there⟩
    · rintro ⟨o, there⟩
      rcases movedCases there with ⟨-, same⟩ | ⟨-, old⟩
      · cases same
        cases after
      · exact ⟨o, old⟩
  · intro q
    have moved := WorkPool.totalMove between (h.tracked.low here) here phase'
    have counted := h.added q
    have now := added q
    rw [sourcesOf, begun, ended, calls, ← sourcesOf]
    split at now <;> simp_all only [if_true, if_false, Bool.false_eq_true] <;> omega
  · intro k
    rw [sources, created, sourcesOf, ended]
    exact h.named k

theorem Counts.finish (h : Counts s) {id : Nat} {source : Label}
    (here : s.calls id = some (source, .fetching (.done ⟨source⟩))) :
    Counts { s.put id source (.through ⟨source⟩) with
      recorder := s.recorder.add (.cacheStored ⟨source⟩) 1
      ended := s.ended ++ [(source, id)] } := by
  constructor
  · have moved := h.tracked.move here rfl (.through ⟨source⟩)
    have ended := moved.finish (Function.update_self ..) rfl
    refine ⟨ended.begun, ?_⟩
    intro k mem
    rw [List.map_append, List.mem_append, or_comm, ← List.mem_append] at mem
    exact ended.ended k mem
  · rw [List.map_append]
    refine List.nodup_append.mpr ⟨h.once, List.nodup_singleton _, ?_⟩
    rintro k mem k' mem' rfl
    rw [List.map_cons, List.map_nil, List.mem_singleton] at mem'
    subst mem'
    exact h.unended here rfl mem
  · intro source' k
    rw [List.mem_append, h.ends]
    constructor
    · rintro (⟨o', there⟩ | new)
      · exact ⟨o', (Function.update_of_ne (throughApart here rfl there) ..).trans there⟩
      · cases List.mem_singleton.mp new
        exact ⟨_, Function.update_self ..⟩
    · rintro ⟨o', there⟩
      rcases movedCases there with ⟨rfl, same⟩ | ⟨-, old⟩
      · cases same
        exact .inr List.mem_cons_self
      · exact .inl ⟨o', old⟩
  · intro q
    have moved := WorkPool.totalMove between (h.tracked.low here) here (.through ⟨source⟩)
    have counted := h.added q
    simp only [between] at moved
    simp only [Recorder.add, enteredCons, State.put, sourcesOf, List.map_append, List.map_cons, List.map_nil,
      List.countP_append, List.countP_singleton, List.length_append, List.length_singleton]
    rw [counted, sourcesOf]
    split <;> split <;> omega
  · intro k
    rw [memSources, sourceOf, h.named, sourcesOf, sourcesOf, List.map_append, List.mem_append]
    simp only [List.map_cons, List.map_nil, List.mem_singleton, Option.some.injEq, State.put]
    constructor
    · rintro (rfl | created | ended)
      · exact .inr (.inr rfl)
      · exact .inl created
      · exact .inr (.inl ended)
    · rintro (created | ended | rfl)
      · exact .inr (.inl created)
      · exact .inr (.inr ended)
      · exact .inl rfl

theorem stepCounts {a : Action} (h : Sound s) (stepped : step s a = some s') : Counts s' := by
  have counts := h.counts
  cases stepTook stepped with
  | @preCreate source =>
    refine ⟨counts.tracked, counts.once, counts.ends, ?_, ?_⟩
    · intro q
      rw [Recorder.add, enteredCons, ite_self, Nat.zero_add]
      exact counts.added q
    · intro k
      rw [memSources, sourceOf, counts.named, List.mem_append, List.mem_singleton]
      simp only [Option.some.injEq, sourcesOf, eq_comm (a := source)]
      tauto
  | @call source =>
    refine ⟨counts.tracked.begin source .begun, counts.once, ?_, ?_, counts.named⟩
    · intro source' k
      rw [counts.ends]
      constructor
      · rintro ⟨o, there⟩
        exact ⟨o, (Function.update_of_ne (Nat.ne_of_lt (counts.tracked.low there)) ..).trans there⟩
      · rintro ⟨o, there⟩
        rcases movedCases there with ⟨-, same⟩ | ⟨-, old⟩
        · cases same
        · exact ⟨o, old⟩
    · intro q
      simp only [List.length_append, List.length_singleton, WorkPool.totalBegin]
      exact counts.added q
  | counted here =>
    refine counts.move here rfl rfl rfl rfl rfl rfl ?_ fun q => ?_
    · ext k
      simp [memSources, sourceOf]
    · rw [Recorder.add, enteredCons]
      simp only [between]
      split <;> omega
  | fetched here moved => exact counts.move here rfl rfl rfl rfl rfl rfl rfl fun _ => rfl
  | @stored id source o here =>
    cases (h.ownOption (.inl here)).1
    exact counts.finish here

theorem stepSound {a : Action} (h : Sound s) (stepped : step s a = some s') : Sound s' := by
  refine ⟨stepCounts h stepped, ?_⟩
  rcases stepShared h.counts stepped with same | ⟨b, moved⟩
  · exact same ▸ h.map
  · exact CopyOnWrite.stepSound h.map moved

theorem soundReached {acts : List Action} (ran : run step init acts = some s) : Sound s :=
  invariant (fun _ _ _ h stepped => stepSound h stepped) initSound ran

end Keeps

def optionOf (r : Recorder) (source : Label) : Option SourceOption := r.cachedBySource.bind (·.lookup source)

theorem Sound.optionKept {s t : State} (h : Sound s) {more : List Action} (ran : run step s more = some t)
    {source : Label} {o : SourceOption} (found : optionOf s.recorder source = some o) :
    optionOf t.recorder source = some o := by
  have keeps : ∀ s a s', (Sound s ∧ optionOf s.recorder source = some o) → step s a = some s' →
      Sound s' ∧ optionOf s'.recorder source = some o := by
    rintro s a s' ⟨h, found⟩ stepped
    refine ⟨stepSound h stepped, ?_⟩
    rcases stepShared h.counts stepped with same | ⟨b, moved⟩
    · have find : (shared s').cell.find source = some o := same ▸ found
      exact find
    · exact CopyOnWrite.stepFound h.map moved found
  exact (invariant keeps ⟨h, found⟩ ran).2

section Sequential

theorem frameCachedOption {r : Recorder} (h : Accounts.Sound r) (source k : Label) :
    optionOf (r.frameCached source) k = if k = source then some ⟨source⟩ else optionOf r k := by
  unfold Recorder.frameCached Recorder.call Recorder.sourceOption Recorder.add
  dsimp only
  split
  · rename_i o found
    obtain ⟨m, there, held⟩ := Option.bind_eq_some_iff.mp found
    have own : o = ⟨source⟩ := by
      obtain ⟨kept⟩ := o
      have same : kept = source := h m there source ⟨kept⟩ held
      rw [same]
    subst own
    split
    · rename_i same
      rw [same]
      exact found
    · rfl
  · exact findGrown ⟨r.cachedBySource, none, []⟩ source k ⟨source⟩

theorem frameCachedAdds {r : Recorder} (h : Accounts.Sound r) (source : Label) :
    Accounts.Sound (r.frameCached source) ∧
      (r.frameCached source).adds = (.cacheStored ⟨source⟩, 1) :: (.framesCached, 1) :: r.adds := by
  obtain ⟨sound, first⟩ := called h (.plain .framesCached)
  obtain ⟨sound, second⟩ := called sound (.stored source)
  refine ⟨sound, ?_⟩
  rw [Recorder.frameCached, second, first]
  rfl

theorem callsInTurn {r : Recorder} (h : Accounts.Sound r) (sources : List Label) :
    (∀ q, entered q (sources.foldl Recorder.frameCached r).adds = entered q r.adds +
      ((if q .framesCached then sources.length else 0) + sources.countP fun source => q (.cacheStored ⟨source⟩))) ∧
    (∀ k, k ∈ (sources.foldl Recorder.frameCached r).sources ↔ k ∈ r.sources ∨ k ∈ sources) ∧
    ∀ k, optionOf (sources.foldl Recorder.frameCached r) k =
      if k ∈ sources then some ⟨k⟩ else optionOf r k := by
  induction sources generalizing r with
  | nil => exact ⟨fun q => by simp, fun k => by simp, fun k => by simp⟩
  | cons source rest ih =>
    obtain ⟨sound, adds⟩ := frameCachedAdds h source
    obtain ⟨entries, named, options⟩ := ih sound
    refine ⟨fun q => ?_, fun k => ?_, fun k => ?_⟩
    · rw [List.foldl_cons, entries, adds, enteredCons, enteredCons, List.length_cons, List.countP_cons]
      split <;> split <;> omega
    · have here : k ∈ (r.frameCached source).sources ↔ source = k ∨ k ∈ r.sources := by
        simp [Recorder.sources, adds, sourceOf, eq_comm]
      rw [List.foldl_cons, named, here, List.mem_cons, eq_comm (a := source)]
      tauto
    · rw [List.foldl_cons, options, frameCachedOption h]
      by_cases same : k = source <;> by_cases later : k ∈ rest <;> simp [same, later]

theorem createdSources (r : Recorder) (sources : List Label) (k : Label) :
    k ∈ (r.preCreateSources sources).sources ↔ k ∈ sources ∨ k ∈ r.sources := by
  induction sources generalizing r with
  | nil => simp [Recorder.preCreateSources]
  | cons source rest ih =>
    rw [Recorder.preCreateSources, List.foldl_cons, ← Recorder.preCreateSources, ih, memSources, sourceOf,
      List.mem_cons, Option.some.injEq, eq_comm (a := source)]
    tauto

end Sequential

def Quiet (s : State) : Prop := ∀ id source phase, s.calls id = some (source, phase) → isThrough phase = true

section Agrees
variable {s : State}

theorem Counts.all (h : Counts s) (quiet : Quiet s) : (sourcesOf s).Perm s.begun := by
  have numbered : s.ended.Perm s.begun.zipIdx := by
    refine (List.perm_ext_iff_of_nodup (h.once.of_map _) ?_).mpr ?_
    · exact List.Nodup.of_map Prod.snd (by rw [List.zipIdx_map_snd]; exact List.nodup_range')
    · rintro ⟨source, id⟩
      rw [h.ends, List.mem_zipIdx_iff_getElem?, ← h.tracked.begun id, Option.map_eq_some_iff]
      constructor
      · rintro ⟨o, here⟩
        exact ⟨_, here, rfl⟩
      · rintro ⟨⟨source', phase⟩, here, rfl⟩
        have ended := quiet id source' phase here
        cases phase with
        | through o => exact ⟨o, here⟩
        | begun | fetching => cases ended
  have named := numbered.map Prod.fst
  rwa [List.zipIdx_map_fst] at named

theorem Counts.settled (h : Counts s) (quiet : Quiet s) : WorkPool.total between s.begun.length s.calls = 0 := by
  refine Finset.sum_eq_zero ?_
  intro id mem
  obtain ⟨source, phase, here⟩ := h.tracked.call (Finset.mem_range.mp mem)
  have ended := quiet id source phase here
  rw [here]
  cases phase with
  | through o => rfl
  | begun | fetching => cases ended

theorem Sound.options (h : Sound s) (quiet : Quiet s) (k : Label) :
    optionOf s.recorder k = if k ∈ s.begun then some ⟨k⟩ else none := by
  split
  · rename_i called
    obtain ⟨id, here⟩ := List.mem_iff_getElem?.mp called
    rw [← h.counts.tracked.begun id, Option.map_eq_some_iff] at here
    obtain ⟨⟨source, phase⟩, here, rfl⟩ := here
    have ended := quiet id source phase here
    cases phase with
    | through o => exact (h.ownOption (.inr here)).2
    | begun | fetching => cases ended
  · rename_i uncalled
    cases found : optionOf s.recorder k with
    | none => rfl
    | some o =>
      have held : ((shared s).cell.find k).isSome = true := by
        rw [show (shared s).cell.find k = some o from found]
        rfl
      obtain ⟨id, phase, asked⟩ := h.map.asked k ((h.map.keys k).mpr (.inl held))
      obtain ⟨⟨source, phase'⟩, here, seen'⟩ := Option.bind_eq_some_iff.mp asked
      have same : source = k := by
        cases phase' with
        | begun => cases seen'
        | fetching | through => exact (Prod.ext_iff.mp (Option.some.inj seen')).1
      exact absurd (List.mem_of_getElem? (same ▸ h.counts.tracked.isJob here)) uncalled

def inTurn (created sources : List Label) : Recorder :=
  sources.foldl Recorder.frameCached (Recorder.new.preCreateSources created)

structure Agrees (s : State) : Prop where
  cached : s.recorder.added .framesCached = s.ended.length + WorkPool.total between s.begun.length s.calls
  stored : ∀ k, s.recorder.added (.cacheStored ⟨k⟩) = (sourcesOf s).count k
  named : ∀ k, k ∈ s.recorder.sources ↔ k ∈ s.created ∨ k ∈ sourcesOf s
  once : s.made.Nodup
  own : ∀ id source o, s.calls id = some (source, .through o) → o = ⟨source⟩ ∧
    ∀ more t, run step s more = some t → optionOf t.recorder source = some o
  quiet : Quiet s → (sourcesOf s).Perm s.begun ∧
    (∀ x, s.recorder.added x = (inTurn s.created (sourcesOf s)).added x) ∧
    s.recorder.sources = (inTurn s.created (sourcesOf s)).sources ∧
    ∀ k, optionOf s.recorder k = optionOf (inTurn s.created (sourcesOf s)) k

/-- However calls of FrameCached and PreCreateSources fall between one another: what is added for
a source are the calls made for it that have come so far, and a source is named if it was
created or stored; framesCached is ahead by the calls that stand between the two counters; a
source's option is made at most once, and a call adds under the one its source keeps in every
later state; and when no call is under way all that was added, and the options kept, are as if
the calls had been made one after the other. -/
theorem concurrentCallsAgree {acts : List Action} (ran : run step init acts = some s) : Agrees s := by
  have h := soundReached ran
  refine ⟨?_, ?_, h.counts.named, h.map.once, ?_, ?_⟩
  · rw [Recorder.added, balance, h.counts.added]
    simp
  · intro k
    rw [Recorder.added, balance, h.counts.added, List.count]
    simp only [reduceCtorEq, decide_false, Bool.false_eq_true, if_false, Nat.zero_add]
    exact List.countP_congr fun source _ => by simp
  · intro id source o here
    obtain ⟨own, found⟩ := h.ownOption (.inr here)
    refine ⟨own, fun more t later => h.optionKept later ?_⟩
    rw [own]
    exact found
  · intro quiet
    have all := h.counts.all quiet
    obtain ⟨options, created⟩ := preCreated s.created Recorder.new
    have start : Accounts.Sound (Recorder.new.preCreateSources s.created) := by
      intro m there
      rw [options] at there
      cases there
    obtain ⟨entries, named, kept⟩ := callsInTurn start (sourcesOf s)
    refine ⟨all, fun x => ?_, ?_, fun k => ?_⟩
    · have none : entered (fun key => decide (key = x)) (Recorder.new.preCreateSources s.created).adds = 0 := created _
      have length : (sourcesOf s).length = s.ended.length := List.length_map ..
      rw [Recorder.added, balance, h.counts.added, h.counts.settled quiet, inTurn, Recorder.added, balance, entries,
        none, length, Nat.zero_add, Nat.add_zero]
    · ext k
      rw [h.counts.named, inTurn, named, createdSources]
      simp [Recorder.new, Recorder.sources]
    · have empty : optionOf (Recorder.new.preCreateSources s.created) k = none := by
        rw [optionOf, options]
        rfl
      rw [h.options quiet, inTurn, kept, empty]
      simp only [all.mem_iff]

/- Two frames of one source at once, and two sources created between: both calls miss, one makes
the option, the other finds it under the lock. -/
def atOnce : List Action :=
  [.call (some [1]), .preCreate (some [1]), .call (some [1]), .move 0, .move 1, .move 0, .move 1, .move 1, .move 1,
    .preCreate (some [2]), .move 1, .move 1, .move 0, .move 0, .move 0, .move 0, .move 1]

theorem concurrentCallsAgreeAtOnce : ∃ s,
    run step init atOnce = some s ∧ s.made = [some [1]] ∧
    s.ended = [(some [1], 0), (some [1], 1)] ∧ Agrees s := by
  have computed : (run step init atOnce).map (fun s => (s.made, s.ended)) =
      some ([some [1]], [(some [1], 0), (some [1], 1)]) := by decide +kernel
  obtain ⟨s, ran, seen⟩ := Option.map_eq_some_iff.mp computed
  obtain ⟨made, ended⟩ := Prod.ext_iff.mp seen
  exact ⟨s, ran, made, ended, concurrentCallsAgree ran⟩

end Agrees

end RetryEndpoint.SourceOptions
