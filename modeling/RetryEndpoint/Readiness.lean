import RetryEndpoint.Process

/-! What /readyz says. The recorder keeps one counter, which the ingress workers,
the tee and the NACK server all move, and compares it with the number of parts the
groups were split into. Over whole runs the counter is exact; the comparison means
what it is for on one kind of node only. -/
namespace RetryEndpoint.Readiness
open Runs Process

/- handleReadyz, with the two numbers its body reports. -/
inductive Answer where
  | draining (ready total : Int)
  | ready (ready total : Int)
  | starting (ready total : Int)
  deriving DecidableEq, Repr

def handleReadyz (cfg : Config) (s : State) : Answer :=
  let total : Int := cfg.parts.length
  if s.draining then .draining s.readyCount total
  else if s.readyCount ≥ total ∧ total > 0 then .ready s.readyCount total
  else .starting s.readyCount total

def Answer.isOK : Answer → Bool
  | .ready _ _ => true
  | _ => false

structure Truthful (cfg : Config) (s : State) : Prop where
  only : (handleReadyz cfg s).isOK = true → ∀ p ∈ s.feeds, p = .receiving
  once : (∀ p ∈ s.feeds, p = .receiving) → s.server = .ready → (handleReadyz cfg s).isOK = true

def feedCount : Phase → Nat
  | .starting => 0
  | .receiving => 1
  | .returned _ _ => 0
  | .finished _ => 0

def serverCount : ServerPhase → Nat
  | .starting => 0
  | .ready => 1
  | .returned => 0

structure Counted (cfg : Config) (s : State) : Prop where
  count : s.readyCount = (s.feeds.map feedCount).sum + serverCount s.server
  feeds : s.feeds.length = cfg.feeds

section Count
variable {cfg : Config} {s s' : State}

theorem initCounted : Counted cfg (init cfg) := by
  refine ⟨?_, List.length_replicate⟩
  simp [init, serverCount, feedCount]

theorem leaveCounted (h : Counted cfg s) {i : Nat} (here : s.feeds[i]? = some .receiving) :
    Counted cfg (s.leave i) := by
  have moved := movedSum (w := .returned none !s.cancelled) here feedCount
  have count := h.count
  refine ⟨?_, (List.length_set ..).trans h.feeds⟩
  simp only [State.leave, feedCount] at moved ⊢
  omega

theorem stepCounted {a : Action} (h : Counted cfg s) (ok : step cfg s a = some s') :
    Counted cfg s' := by
  have count := h.count
  have same : ∀ {i : Nat} {q : Phase}, (s.feeds.set i q).length = cfg.feeds :=
    (List.length_set ..).trans h.feeds
  cases stepTook ok with
  | @fail i err here kind =>
    have moved := movedSum (w := .returned (some err) !s.cancelled) here feedCount
    simp only [feedCount, Nat.add_zero] at moved
    exact ⟨by simpa only [moved] using count, same⟩
  | ready here =>
    have moved := movedSum (w := .receiving) here feedCount
    simp only [feedCount] at moved
    exact ⟨by simp only; omega, same⟩
  | readOn here stays => exact h
  | readOut here out => exact leaveCounted h here
  | stop here cancelled => exact leaveCounted h here
  | @report i err live here =>
    have moved := movedSum (w := .finished live) here feedCount
    simp only [feedCount, Nat.add_zero] at moved
    have kept : Counted cfg { s with feeds := s.feeds.set i (.finished live) } :=
      ⟨by simpa only [moved] using count, same⟩
    unfold State.report
    dsimp only
    split
    · split
      · exact kept
      · exact ⟨kept.count, kept.feeds⟩
    · exact kept
  | serverReady here =>
    rw [here, serverCount] at count
    exact ⟨by simp only [serverCount]; omega, h.feeds⟩
  | serverFail here =>
    rw [here] at count
    exact ⟨count, h.feeds⟩
  | serverDone here cancelled =>
    rw [here, serverCount] at count
    exact ⟨by simp only [serverCount]; omega, h.feeds⟩
  | beaconFails here enabled => exact ⟨count, h.feeds⟩
  | launched here => exact ⟨count, h.feeds⟩
  | signal notified => exact ⟨count, h.feeds⟩
  | takeSignal here arrived => exact ⟨count, h.feeds⟩
  | takeFatal here arrived => exact ⟨count, h.feeds⟩
  | drain here => exact ⟨count, h.feeds⟩
  | cancel here => exact ⟨count, h.feeds⟩
  | finish here done => exact ⟨count, h.feeds⟩

theorem countedReached {acts : List Action} (ran : run (step cfg) (init cfg) acts = some s) :
    Counted cfg s :=
  invariant (fun _ _ _ h ok => stepCounted h ok) initCounted ran

end Count

section Answers
variable {cfg : Config} {s : State}

theorem isOKIff (running : s.draining = false) (split : 0 < cfg.parts.length) :
    (handleReadyz cfg s).isOK = true ↔ (cfg.parts.length : Int) ≤ s.readyCount := by
  have positive : (cfg.parts.length : Int) > 0 := by omega
  unfold handleReadyz
  simp only [running, Bool.false_eq_true, if_false]
  split
  · rename_i enough
    exact ⟨fun _ => enough.1, fun _ => rfl⟩
  · rename_i few
    refine ⟨fun never => (Bool.noConfusion never), ?_⟩
    intro enough
    exact absurd ⟨enough, positive⟩ few

theorem partsPositive (cfg : Config) : 0 < cfg.parts.length := by
  have filled := Groups.buildGroupsPositive cfg.groups cfg.engine
  have count := Groups.partitionLength (n := cfg.numWorkers) filled
  unfold Config.parts
  omega

structure Climbed (cfg : Config) (k : Nat) (s : State) : Prop where
  count : s.readyCount = k + 1
  server : s.server = .ready
  running : s.draining = false
  feeds : s.feeds.length = cfg.feeds
  before : ∀ i < k, s.feeds[i]? = some .receiving
  after : ∀ i, k ≤ i → i < cfg.feeds → s.feeds[i]? = some .starting

theorem climb (cfg : Config) {k : Nat} (enough : k ≤ cfg.feeds) :
    ∃ acts s, run (step cfg) (init cfg) acts = some s ∧ Climbed cfg k s := by
  induction k with
  | zero =>
    refine ⟨[.serverReady], _, rfl, ⟨rfl, rfl, rfl, List.length_replicate, ?_, ?_⟩⟩
    · intro i never
      cases never
    · intro i _ low
      exact List.getElem?_replicate_of_lt low
  | succ k ih =>
    obtain ⟨acts, s, ran, h⟩ := ih (by omega)
    have here := h.after k (Nat.le_refl k) enough
    have next : run (step cfg) s [.ready k] =
        some { s with feeds := s.feeds.set k .receiving, readyCount := s.readyCount + 1 } := by
      simp [run, step, here]
    refine ⟨_, _, runAppend ran next, ⟨?_, h.server, h.running, ?_, ?_, ?_⟩⟩
    · simp only [h.count]
      omega
    · exact (List.length_set ..).trans h.feeds
    · intro i low
      by_cases same : k = i
      · subst same
        exact List.getElem?_set_self (by rw [h.feeds]; omega)
      · exact (List.getElem?_set_ne same).trans (h.before i (by omega))
    · intro i high low
      exact (List.getElem?_set_ne (by omega)).trans (h.after i (by omega) low)

theorem multicastUntruthful (on : cfg.mcJoinEnabled = true) :
    ∃ acts s, run (step cfg) (init cfg) acts = some s ∧ s.draining = false ∧ ¬ Truthful cfg s := by
  have positive := partsPositive cfg
  have feeds : cfg.parts.length ≤ cfg.feeds := by
    rw [Config.feeds, Config.workers, if_pos on]
    omega
  have enough : cfg.parts.length - 1 ≤ cfg.feeds := by omega
  obtain ⟨acts, s, ran, h⟩ := climb cfg enough
  refine ⟨acts, s, ran, h.running, ?_⟩
  intro truthful
  have answered := (isOKIff h.running positive).mpr (by rw [h.count]; omega)
  have last := h.after (cfg.parts.length - 1) (Nat.le_refl _) (by omega)
  cases truthful.only answered _ (List.mem_of_getElem? last)

theorem teeAlone (off : cfg.mcJoinEnabled = false) (one : cfg.parts.length = 1) :
    ∃ acts s, run (step cfg) (init cfg) acts = some s ∧ s.draining = false ∧ ¬ Truthful cfg s := by
  have feeds : cfg.feeds = 1 := by simp [Config.feeds, Config.workers, off, cfg.fed off]
  obtain ⟨acts, s, ran, h⟩ := climb cfg (Nat.zero_le _)
  refine ⟨acts, s, ran, h.running, ?_⟩
  intro truthful
  have answered := (isOKIff h.running (partsPositive cfg)).mpr (by rw [h.count, one]; omega)
  have tee := h.after 0 (Nat.le_refl _) (by omega)
  cases truthful.only answered _ (List.mem_of_getElem? tee)

theorem teeNever (off : cfg.mcJoinEnabled = false) (many : 3 ≤ cfg.parts.length) :
    ∃ acts s, run (step cfg) (init cfg) acts = some s ∧ s.draining = false ∧ ¬ Truthful cfg s := by
  have feeds : cfg.feeds = 1 := by simp [Config.feeds, Config.workers, off, cfg.fed off]
  obtain ⟨acts, s, ran, h⟩ := climb cfg (Nat.le_of_eq feeds.symm)
  refine ⟨acts, s, ran, h.running, ?_⟩
  intro truthful
  have all : ∀ p ∈ s.feeds, p = .receiving := by
    intro p mem
    obtain ⟨i, found⟩ := List.mem_iff_getElem?.mp mem
    have low := (List.getElem?_eq_some_iff.mp found).1
    rw [h.before i (by rw [h.feeds] at low; omega)] at found
    exact (Option.some.inj found).symm
  have answered := (isOKIff h.running (partsPositive cfg)).mp (truthful.once all h.server)
  rw [h.count] at answered
  omega

theorem teeTruthful (off : cfg.mcJoinEnabled = false) (two : cfg.parts.length = 2)
    (h : Counted cfg s) (running : s.draining = false) : Truthful cfg s := by
  have feeds : s.feeds.length = 1 := by
    rw [h.feeds]
    simp [Config.feeds, Config.workers, off, cfg.fed off]
  obtain ⟨tee, only⟩ := List.length_eq_one_iff.mp feeds
  have count := h.count
  rw [only, List.map_singleton, List.sum_singleton] at count
  have isOK := isOKIff running (partsPositive cfg)
  rw [two, count] at isOK
  have atMost : serverCount s.server ≤ 1 := by cases s.server <;> decide
  constructor
  · intro answered p mem
    have enough := isOK.mp answered
    rw [only] at mem
    rw [List.mem_singleton.mp mem]
    cases tee with
    | receiving => rfl
    | starting | returned | finished =>
      simp only [feedCount] at enough
      omega
  · intro all serving
    apply isOK.mpr
    rw [all tee (by rw [only]; exact List.mem_singleton_self tee), serving]
    decide

end Answers

/-- In every run /readyz means what it is for, exactly on a tee-only node whose
groups were split into two parts: there the tee and the NACK server are the two
marks it waits for. On every other node some run answers ready over a feed that
does not receive, or never answers it. -/
theorem readyIffFed (cfg : Config) :
    (∀ acts s, run (step cfg) (init cfg) acts = some s → s.draining = false → Truthful cfg s) ↔
      cfg.mcJoinEnabled = false ∧ cfg.parts.length = 2 := by
  constructor
  · intro always
    have fails : ¬ ∃ acts s, run (step cfg) (init cfg) acts = some s ∧ s.draining = false ∧
        ¬ Truthful cfg s := by
      rintro ⟨acts, s, ran, running, untruthful⟩
      exact untruthful (always acts s ran running)
    have positive := partsPositive cfg
    cases on : cfg.mcJoinEnabled with
    | true => exact absurd (multicastUntruthful on) fails
    | false =>
      refine ⟨rfl, ?_⟩
      by_contra other
      rcases Nat.lt_or_ge cfg.parts.length 3 with few | many
      · exact fails (teeAlone on (by omega))
      · exact fails (teeNever on many)
  · intro node acts s ran running
    exact teeTruthful node.1 node.2 (countedReached ran) running

/- The NACK server is up first: ready, over a worker that has not joined anything. -/
theorem readyUnfed : ∃ s, run (step oneWorker) (init oneWorker) [.serverReady] = some s ∧
    s.draining = false ∧ handleReadyz oneWorker s = .ready 1 1 ∧ ¬ Truthful oneWorker s := by
  refine ⟨{ init oneWorker with server := .ready, readyCount := 1 }, rfl, rfl, by decide, ?_⟩
  intro truthful
  have waiting : Phase.starting ∈ List.replicate oneWorker.feeds Phase.starting := by decide
  cases truthful.only (by decide) _ waiting

end RetryEndpoint.Readiness
