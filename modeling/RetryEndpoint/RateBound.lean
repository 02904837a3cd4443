import RetryEndpoint.NackWorkers
import RetryEndpoint.Admissions

/-! What the tiers bound, over every run of any number of workers: of the calls one
window of the sequence tier or of the chain tier admits, no more than the tier's
limit come to the cache, and only a call all three tiers admitted does. -/
namespace RetryEndpoint.RateBound
open BigEndian Wire Cache NackWorkers Admissions Runs
open RateLimit hiding Limiter
open NackServer hiding State

structure Tier (κ : Type) where
  level : Level
  key : Request → Option κ
  time : Int → Option Int → Option Int

def sequenceTier : Tier SeqKey := ⟨.sequence, fun req => some req.gap, fun seqAt _ => some seqAt⟩

/- An unstamped flow is not counted. -/
def chainKey (req : Request) : Option ChainKey :=
  if req.nack.hashKey = 0 then none else some ⟨ipKey (sourceIP req.src), req.nack.hashKey⟩

def chainTier : Tier ChainKey := ⟨.chain, chainKey, fun _ chainAt => chainAt⟩

section Counting
variable {κ : Type} [DecidableEq κ]

def Tier.admissions (tier : Tier κ) (k : κ) (history : List Event) : List (Nat × Int) :=
  history.filterMap (fun
    | .passed level id req time =>
      if level = tier.level ∧ tier.key req = some k then some (id, time) else none
    | _ => none)

def Tier.lookups (tier : Tier κ) (k : κ) (history : List Event) : List (Nat × Int) :=
  history.filterMap (fun
    | .looked id req seqAt chainAt _ =>
      if tier.key req = some k then (tier.time seqAt chainAt).map (fun t => (id, t)) else none
    | _ => none)

def within (t window : Int) (p : Nat × Int) : Bool := decide (t - window < p.2 ∧ p.2 ≤ t)

def lookedIds (history : List Event) : List Nat := history.filterMap (fun
  | .looked id _ _ _ _ => some id
  | _ => none)

theorem admissionMember {tier : Tier κ} {k : κ} {history : List Event} {p : Nat × Int} :
    p ∈ tier.admissions k history ↔
      ∃ req, .passed tier.level p.1 req p.2 ∈ history ∧ tier.key req = some k := by
  unfold Tier.admissions
  rw [List.mem_filterMap]
  constructor
  · rintro ⟨e, mem, out⟩
    cases e with
    | passed level id req time =>
      dsimp only at out
      split at out <;> try contradiction
      rename_i counted
      cases Option.some.inj out
      exact ⟨req, counted.1 ▸ mem, counted.2⟩
    | denied | looked | did => cases out
  · rintro ⟨req, mem, counted⟩
    exact ⟨_, mem, by simp [counted]⟩

theorem lookupMember {tier : Tier κ} {k : κ} {history : List Event} {p : Nat × Int}
    (counted : p ∈ tier.lookups k history) : ∃ req seqAt chainAt time,
      .looked p.1 req seqAt chainAt time ∈ history ∧ tier.key req = some k ∧
      tier.time seqAt chainAt = some p.2 := by
  obtain ⟨e, mem, out⟩ := List.mem_filterMap.mp counted
  cases e with
  | looked id req seqAt chainAt time =>
    dsimp only at out
    split at out <;> try contradiction
    obtain ⟨t, mine, rfl⟩ := Option.map_eq_some_iff.mp out
    exact ⟨req, seqAt, chainAt, time, mem, by assumption, mine⟩
  | passed | denied | did => cases out

theorem lookupsIds (tier : Tier κ) (k : κ) (history : List Event) :
    ((tier.lookups k history).map Prod.fst).Sublist (lookedIds history) := by
  induction history with
  | nil => exact .slnil
  | cons e older ih =>
    cases e with
    | looked id req seqAt chainAt time =>
      simp only [Tier.lookups, lookedIds, List.filterMap_cons] at ih ⊢
      split
      · exact ih.cons _
      · rename_i p out
        split at out <;> try contradiction
        obtain ⟨t, -, rfl⟩ := Option.map_eq_some_iff.mp out
        exact ih.cons_cons _
    | passed | denied | did => exact ih

theorem lookupsWithin {tier : Tier κ} {k : κ} {history : List Event} (once : (lookedIds history).Nodup)
    (admitted : ∀ p ∈ tier.lookups k history, p ∈ tier.admissions k history) (t window : Int) :
    (tier.lookups k history).countP (within t window) ≤
      (tier.admissions k history).countP (within t window) := by
  have distinct : (tier.lookups k history).Nodup :=
    ((lookupsIds tier k history).nodup once).of_map _
  exact (List.subperm_of_subset distinct admitted).countP_le _

end Counting

section Trace
variable (server : Server)

def Evidence (history : List Event) (id : Nat) (req : Request) : Phase → Prop
  | .ip | .done => True
  | .sequence => ∃ t, .passed .ip id req t ∈ history
  | .chain seqAt => (∃ t, .passed .ip id req t ∈ history) ∧ .passed .sequence id req seqAt ∈ history
  | .lookup seqAt chainAt => (∃ t, .passed .ip id req t ∈ history) ∧
      .passed .sequence id req seqAt ∈ history ∧
      ∃ t, .passed .chain id req t ∈ history ∧ chainAt = chainTime req t
  | .group _ | .send _ => ∃ seqAt chainAt t, .looked id req seqAt chainAt t ∈ history

def Backed : Event → List Event → Prop
  | .looked id req seqAt chainAt _, older => Evidence older id req (.lookup seqAt chainAt)
  | .did id req fx _, older =>
      fx = server.throttle req.src throttleBucketSequence req.nack.startSeq ∨
      fx = server.throttle req.src throttleBucketChain req.nack.startSeq ∨
      ∃ seqAt chainAt t, .looked id req seqAt chainAt t ∈ older
  | _, _ => True

def afterLookup : Phase → Bool
  | .group _ | .send _ | .done => true
  | _ => false

structure Traced (calls : Nat → Option (Request × Phase)) (history : List Event) : Prop where
  evidence : ∀ id req phase, calls id = some (req, phase) → Evidence history id req phase
  backed : Each (Backed server) history
  once : (lookedIds history).Nodup
  gone : ∀ id ∈ lookedIds history, ∃ req phase, calls id = some (req, phase) ∧ afterLookup phase = true

variable {server}
variable {calls : Nat → Option (Request × Phase)} {history events : List Event} {id : Nat} {req : Request}
  {before phase : Phase}

theorem Evidence.more (h : Evidence history id req phase) : Evidence (events ++ history) id req phase := by
  have keep : ∀ {e}, e ∈ history → e ∈ events ++ history := fun mem => List.mem_append_right _ mem
  cases phase with
  | ip | done => trivial
  | sequence => exact h.imp fun _ => keep
  | chain seqAt => exact ⟨h.1.imp fun _ => keep, keep h.2⟩
  | lookup seqAt chainAt =>
    obtain ⟨t, mem, mine⟩ := h.2.2
    exact ⟨h.1.imp fun _ => keep, keep h.2.1, t, keep mem, mine⟩
  | group raw | send raw =>
    obtain ⟨seqAt, chainAt, t, mem⟩ := h
    exact ⟨seqAt, chainAt, t, keep mem⟩

theorem initTraced : Traced server (fun _ => none) [] :=
  ⟨fun _ _ _ here => (nomatch here), trivial, List.nodup_nil, fun _ mem => (nomatch mem)⟩

theorem Traced.others (h : Traced server calls history)
    (own : Evidence (events ++ history) id req phase) {other : Nat} {req' : Request} {at' : Phase}
    (here : Function.update calls id (some (req, phase)) other = some (req', at')) :
    Evidence (events ++ history) other req' at' := by
  rcases movedCases here with ⟨rfl, moved⟩ | ⟨-, there⟩
  · cases moved
    exact own
  · exact (h.evidence _ _ _ there).more

theorem Traced.notYet (h : Traced server calls history) (here : ∀ r p, calls id = some (r, p) →
    afterLookup p = false) : id ∉ lookedIds history := by
  intro mem
  obtain ⟨req', phase', here', gone⟩ := h.gone id mem
  rw [here _ _ here'] at gone
  cases gone

theorem Traced.move (h : Traced server calls history) (quiet : lookedIds events = [])
    (own : Evidence (events ++ history) id req phase) (back : Each (Backed server) (events ++ history))
    (order : ∀ r p, calls id = some (r, p) → afterLookup p = true → afterLookup phase = true) :
    Traced server (Function.update calls id (some (req, phase))) (events ++ history) := by
  have same : lookedIds (events ++ history) = lookedIds history := by
    rw [lookedIds, List.filterMap_append, ← lookedIds, ← lookedIds, quiet, List.nil_append]
  refine ⟨fun _ _ _ here => h.others own here, back, same ▸ h.once, ?_⟩
  intro other mem
  rw [same] at mem
  obtain ⟨req', phase', here', gone⟩ := h.gone other mem
  by_cases mine : other = id
  · subst other
    exact ⟨req, phase, Function.update_self .., order _ _ here' gone⟩
  · exact ⟨req', phase', by rw [Function.update_of_ne mine, here'], gone⟩

theorem Traced.look (h : Traced server calls history) (events : List Event) {seqAt time : Int}
    {chainAt : Option Int}
    (here : calls id = some (req, .lookup seqAt chainAt)) (quiet : lookedIds events = [])
    (after : afterLookup phase = true)
    (own : Evidence (events ++ .looked id req seqAt chainAt time :: history) id req phase)
    (back : Each (Backed server) (events ++ .looked id req seqAt chainAt time :: history)) :
    Traced server (Function.update calls id (some (req, phase)))
      (events ++ .looked id req seqAt chainAt time :: history) := by
  have same : lookedIds (events ++ .looked id req seqAt chainAt time :: history) =
      id :: lookedIds history := by
    simp only [lookedIds] at quiet
    simp only [lookedIds, List.filterMap_append, List.filterMap_cons, quiet, List.nil_append]
  have fresh : id ∉ lookedIds history := by
    refine h.notYet ?_
    intro r p there
    rw [here] at there
    cases Option.some.inj there
    rfl
  refine ⟨?_, back, same ▸ List.nodup_cons.mpr ⟨fresh, h.once⟩, ?_⟩
  · intro other req' at' there
    have grown : events ++ .looked id req seqAt chainAt time :: history =
        (events ++ [.looked id req seqAt chainAt time]) ++ history := by simp
    rw [grown] at own ⊢
    exact h.others own there
  · intro other mem
    rw [same] at mem
    rcases List.mem_cons.mp mem with rfl | old
    · exact ⟨req, phase, Function.update_self .., after⟩
    · have apart : other ≠ id := by
        rintro rfl
        exact fresh old
      obtain ⟨req', phase', here', gone⟩ := h.gone other old
      exact ⟨req', phase', by rw [Function.update_of_ne apart, here'], gone⟩

variable {β : Type} {rt : Runtime β} {lib : FrameLib}

theorem stepTraced {s s' : State β} {a : Action server} (h : Traced server s.calls s.history)
    (stepped : step rt lib server s a = some s') : Traced server s'.calls s'.history := by
  have early : ∀ {id req phase}, s.calls id = some (req, phase) → afterLookup phase = false →
      ∀ next r p, s.calls id = some (r, p) → afterLookup p = true → afterLookup next = true := by
    intro id req phase here soon next r p there gone
    rw [here] at there
    cases Option.some.inj there
    rw [soon] at gone
    cases gone
  cases stepTook stepped with
  | tick | outside => exact h
  | refused fresh | arrived fresh =>
    refine h.move rfl trivial h.backed ?_
    intro r p here
    rw [fresh] at here
    cases here
  | ipPassed here tier =>
    exact h.move rfl ⟨_, List.mem_cons_self⟩ ⟨trivial, h.backed⟩ (early here rfl _)
  | ipDenied here tier => exact h.move rfl trivial ⟨trivial, h.backed⟩ (early here rfl _)
  | seqPassed here tier =>
    exact h.move rfl ⟨(h.evidence _ _ _ here).imp fun _ => List.mem_cons_of_mem _, List.mem_cons_self⟩
      ⟨trivial, h.backed⟩ (early here rfl _)
  | seqDenied here tier =>
    exact h.move rfl trivial ⟨.inl rfl, trivial, h.backed⟩ (early here rfl _)
  | chainPassed here tier =>
    have past := h.evidence _ _ _ here
    exact h.move rfl ⟨past.1.imp fun _ => List.mem_cons_of_mem _, List.mem_cons_of_mem _ past.2, _,
      List.mem_cons_self, rfl⟩ ⟨trivial, h.backed⟩ (early here rfl _)
  | chainDenied here tier =>
    exact h.move rfl trivial ⟨.inr (.inl rfl), trivial, h.backed⟩ (early here rfl _)
  | failed here answer =>
    have past := h.evidence _ _ _ here
    exact h.look [] here rfl rfl trivial ⟨past, h.backed⟩
  | @missed id req seqAt chainAt fails here answer =>
    have past := h.evidence _ _ _ here
    exact h.look [.did id req (server.missed req.nack req.src) s.now] here rfl rfl trivial
      ⟨.inr (.inr ⟨_, _, _, List.mem_cons_self⟩), past, h.backed⟩
  | hit here answer =>
    have past := h.evidence _ _ _ here
    exact h.look [] here rfl rfl ⟨_, _, _, List.mem_cons_self⟩ ⟨past, h.backed⟩
  | groupPassed here tier =>
    obtain ⟨seqAt, chainAt, t, mem⟩ := h.evidence _ _ _ here
    exact h.move rfl ⟨_, _, _, List.mem_cons_of_mem _ mem⟩ ⟨trivial, h.backed⟩ (fun _ _ _ _ => rfl)
  | groupDenied here tier =>
    obtain ⟨seqAt, chainAt, t, mem⟩ := h.evidence _ _ _ here
    exact h.move rfl trivial ⟨.inr (.inr ⟨_, _, _, List.mem_cons_of_mem _ mem⟩), trivial, h.backed⟩
      (fun _ _ _ _ => rfl)
  | sent here sends =>
    exact h.move rfl trivial ⟨.inr (.inr (h.evidence _ _ _ here)), h.backed⟩ (fun _ _ _ _ => rfl)

end Trace

def effectiveSequenceWindow (cfg : Config) : Int :=
  if cfg.sequenceWindow ≤ 0 then minute else cfg.sequenceWindow

section Limits
variable {β : Type} {rt : Runtime β} {lib : FrameLib} {server : Server} {cfg : Config}

def Tier.times {κ : Type} [DecidableEq κ] (tier : Tier κ) (history : List Event) (k : κ) : List Int :=
  (tier.admissions k history).map Prod.snd

structure Window {κ : Type} [DecidableEq κ] (tier : Tier κ) (max window now : Int) (history : List Event)
    (r : SlidingWindow.Limiter κ) : Prop where
  admits : Admits now r (tier.times history)
  max : r.max = max
  window : r.window = window

structure Limits (rt : Runtime β) (cfg : Config) (s : State β) : Prop where
  sequence : Window sequenceTier cfg.sequenceMax (effectiveSequenceWindow cfg) s.now s.history
    s.limiter.sequenceLimiter
  chain : Window chainTier (cfg.chainMax rt) cfg.effectiveChainWindow s.now s.history s.limiter.chainLimiter

section Windows
variable {κ : Type} [DecidableEq κ] {tier : Tier κ} {max window now : Int} {history events : List Event}
  {r r' : SlidingWindow.Limiter κ} {id : Nat} {req : Request} {key : κ}

theorem timesPassed (mine : tier.key req = some key) :
    tier.times (.passed tier.level id req now :: history) = noted (tier.times history) key now true := by
  funext k
  by_cases same : k = key
  · subst k
    simp [Tier.times, Tier.admissions, noted, mine]
  · have apart : tier.key req ≠ some k := by
      rw [mine]
      exact fun eq => same (Option.some.inj eq).symm
    simp [Tier.times, Tier.admissions, noted, Function.update_of_ne same, apart]

theorem timesOther (other : ∀ k, tier.admissions k events = []) :
    tier.times (events ++ history) = tier.times history := by
  funext k
  have none := other k
  simp only [Tier.times, Tier.admissions, List.filterMap_append] at none ⊢
  rw [none, List.nil_append]

theorem Window.keep (h : Window tier max window now history r) {next : Int} (forward : now ≤ next)
    (other : ∀ k, tier.admissions k events = []) :
    Window tier max window next (events ++ history) r := by
  refine ⟨?_, h.max, h.window⟩
  rw [timesOther other]
  exact h.admits.later forward

theorem Window.allow (h : Window tier max window now history r) {grow : Nat → Nat} {ok : Bool}
    (allowed : r.allowLocked grow key now = some (ok, r'))
    (recorded : tier.times (events ++ history) = noted (tier.times history) key now ok) :
    Window tier max window now (events ++ history) r' := by
  obtain ⟨b, r'', allowed', window, max, admits, -⟩ := h.admits.allow (Int.le_refl now) grow key
  rw [allowed] at allowed'
  cases Option.some.inj allowed'
  refine ⟨?_, max.trans h.max, window.trans h.window⟩
  rw [recorded]
  exact admits

end Windows

theorem initLimits (rt : Runtime β) (cfg : Config) (b : Backend) : Limits rt cfg (init (RateLimit.new rt cfg) b) :=
  ⟨⟨newAdmits .., rfl, rfl⟩, ⟨newAdmits .., rfl, rfl⟩⟩

theorem Limits.keep {s s' : State β} (h : Limits rt cfg s) (events : List Event) (forward : s.now ≤ s'.now)
    (grown : s'.history = events ++ s.history)
    (sequence : s'.limiter.sequenceLimiter = s.limiter.sequenceLimiter)
    (chain : s'.limiter.chainLimiter = s.limiter.chainLimiter)
    (noSequence : ∀ k, sequenceTier.admissions k events = [])
    (noChain : ∀ k, chainTier.admissions k events = []) : Limits rt cfg s' := by
  constructor
  · rw [grown, sequence]
    exact h.sequence.keep forward noSequence
  · rw [grown, chain]
    exact h.chain.keep forward noChain

theorem Limits.askSequence {s : State β} (h : Limits rt cfg s) {req : Request} {phase : Phase} {id : Nat}
    {ok : Bool} {limiter : RateLimit.Limiter β} {events : List Event}
    (tier : allowSequence rt s.limiter req.gap s.now = some (ok, limiter))
    (recorded : sequenceTier.times (events ++ s.history) =
      noted (sequenceTier.times s.history) req.gap s.now ok)
    (noChain : ∀ k, chainTier.admissions k events = []) :
    Limits rt cfg ({ s with limiter := limiter }.move id req phase events) := by
  obtain ⟨⟨_, seq⟩, locked, same⟩ := Option.bind_eq_some_iff.mp tier
  cases Option.some.inj same
  exact ⟨h.sequence.allow locked recorded, h.chain.keep (Int.le_refl _) noChain⟩

theorem Limits.askChain {s : State β} (h : Limits rt cfg s) {req : Request} {phase : Phase} {id : Nat}
    {ok : Bool} {limiter : RateLimit.Limiter β} {events : List Event}
    (tier : s.limiter.allowChain rt (sourceIP req.src) req.nack.hashKey s.now = some (ok, limiter))
    (recorded : ∀ key, chainKey req = some key →
      chainTier.times (events ++ s.history) = noted (chainTier.times s.history) key s.now ok)
    (unstamped : chainKey req = none → ∀ k, chainTier.admissions k events = [])
    (noSequence : ∀ k, sequenceTier.admissions k events = []) :
    Limits rt cfg ({ s with limiter := limiter }.move id req phase events) := by
  cases chainTook tier with
  | unstamped zero =>
    have none : chainKey req = none := if_pos zero
    exact h.keep events (Int.le_refl _) rfl rfl rfl noSequence (unstamped none)
  | asked stamped locked =>
    have key : chainKey req = some ⟨ipKey (sourceIP req.src), req.nack.hashKey⟩ := if_neg stamped
    exact ⟨h.sequence.keep (Int.le_refl _) noSequence, h.chain.allow locked (recorded _ key)⟩

theorem chargeGroupKeeps {env : Env server.retransmit} {src : Option UDPAddr} {raw : Bytes}
    {limiter last : RateLimit.Limiter β} {ok : Bool}
    (tier : server.chargeGroup rt lib env src raw limiter = (ok, last)) :
    last.sequenceLimiter = limiter.sequenceLimiter ∧ last.chainLimiter = limiter.chainLimiter := by
  unfold Server.chargeGroup at tier
  split at tier <;> cases tier <;> exact ⟨rfl, rfl⟩

theorem stepLimits {s s' : State β} {a : Action server} (h : Limits rt cfg s)
    (stepped : step rt lib server s a = some s') : Limits rt cfg s' := by
  have now : s.now ≤ s.now := Int.le_refl _
  cases stepTook stepped with
  | tick forward => exact h.keep [] forward rfl rfl rfl (fun _ => rfl) (fun _ => rfl)
  | outside => exact h.keep [] now rfl rfl rfl (fun _ => rfl) (fun _ => rfl)
  | refused | arrived | failed | missed | hit | sent =>
    exact h.keep _ now rfl rfl rfl (fun _ => rfl) (fun _ => rfl)
  | ipPassed here tier | ipDenied here tier =>
    obtain ⟨-, rfl⟩ := Prod.ext_iff.mp tier
    exact h.keep _ now rfl rfl rfl (fun _ => rfl) (fun _ => rfl)
  | @seqPassed id req limiter here tier =>
    have counted : sequenceTier.key req = some req.gap := rfl
    exact h.askSequence tier (timesPassed counted) (fun _ => rfl)
  | seqDenied here tier => exact h.askSequence tier (timesOther (fun _ => rfl)) (fun _ => rfl)
  | @chainPassed id req seqAt limiter here tier =>
    refine h.askChain tier (fun key mine => timesPassed mine) ?_ (fun _ => rfl)
    intro unstamped k
    simp [Tier.admissions, chainTier, unstamped]
  | chainDenied here tier =>
    exact h.askChain tier (fun _ _ => timesOther (fun _ => rfl)) (fun _ _ => rfl) (fun _ => rfl)
  | groupPassed here tier | groupDenied here tier =>
    obtain ⟨sequence, chain⟩ := chargeGroupKeeps tier
    exact h.keep _ now rfl sequence chain (fun _ => rfl) (fun _ => rfl)

theorem tiersAnswer {s : State β} {id : Nat} {req : Request} (h : Limits rt cfg s) :
    (s.calls id = some (req, .sequence) → ∃ s', step rt lib server s (.sequence id) = some s') ∧
    ∀ seqAt, s.calls id = some (req, .chain seqAt) → ∃ s', step rt lib server s (.chain id) = some s' := by
  constructor
  · intro here
    obtain ⟨ok, r, locked, -⟩ := h.sequence.admits.allow (Int.le_refl _) rt.grow req.gap
    cases ok <;> simp [step, here, NackWorkers.askSequence, allowSequence, locked]
  · intro seqAt here
    obtain ⟨ok, r, locked, -⟩ := h.chain.admits.allow (Int.le_refl _) rt.grow
      ⟨ipKey (sourceIP req.src), req.nack.hashKey⟩
    by_cases zero : req.nack.hashKey = 0
    · simp [step, here, NackWorkers.askChain, RateLimit.Limiter.allowChain, zero]
    · cases ok <;>
        simp [step, here, NackWorkers.askChain, RateLimit.Limiter.allowChain, zero, locked]

end Limits

section Bound
variable {β : Type} {rt : Runtime β} {lib : FrameLib} {server : Server} {cfg : Config} {b : Backend}
  {acts : List (Action server)} {s : State β}

theorem limitsReached (ran : run (step rt lib server) (init (RateLimit.new rt cfg) b) acts = some s) :
    Limits rt cfg s :=
  invariant (fun _ _ _ h stepped => stepLimits h stepped) (initLimits rt cfg b) ran

theorem tracedReached (ran : run (step rt lib server) (init (RateLimit.new rt cfg) b) acts = some s) :
    Traced server s.calls s.history := by
  have keeps : ∀ (s : State β) (a : Action server) (s' : State β), Traced server s.calls s.history →
      step rt lib server s a = some s' → Traced server s'.calls s'.history :=
    fun _ _ _ h stepped => stepTraced h stepped
  exact invariant keeps initTraced ran

theorem Window.lookups {κ : Type} [DecidableEq κ] {tier : Tier κ} {max window now : Int}
    {history : List Event} {r : SlidingWindow.Limiter κ} (h : Window tier max window now history r)
    (once : (lookedIds history).Nodup) {k : κ}
    (admitted : ∀ p ∈ tier.lookups k history, p ∈ tier.admissions k history) (t : Int) :
    ((tier.lookups k history).countP (within t window) : Int) ≤ Max.max 0 max := by
  have fewer := lookupsWithin once admitted t window
  have bound := h.admits.bound k t
  rw [h.max, h.window, Tier.times, List.countP_map] at bound
  exact Int.le_trans (Int.ofNat_le.mpr fewer) bound

theorem lookupsBacked (h : Traced server s.calls s.history) {id : Nat} {req : Request} {seqAt time : Int}
    {chainAt : Option Int} (mem : .looked id req seqAt chainAt time ∈ s.history) :
    Evidence s.history id req (.lookup seqAt chainAt) := by
  obtain ⟨newer, older, split⟩ := List.append_of_mem mem
  have backed := h.backed
  rw [split] at backed ⊢
  have here : Evidence older id req (.lookup seqAt chainAt) := eachAt backed
  rw [← List.singleton_append, ← List.append_assoc]
  exact here.more

theorem sequenceLookups (h : Traced server s.calls s.history) (k : SeqKey) :
    ∀ p ∈ sequenceTier.lookups k s.history, p ∈ sequenceTier.admissions k s.history := by
  intro p counted
  obtain ⟨req, seqAt, chainAt, time, mem, mine, own⟩ := lookupMember counted
  cases Option.some.inj own
  exact admissionMember.mpr ⟨req, (lookupsBacked h mem).2.1, mine⟩

theorem chainLookups (h : Traced server s.calls s.history) (k : ChainKey) :
    ∀ p ∈ chainTier.lookups k s.history, p ∈ chainTier.admissions k s.history := by
  intro p counted
  obtain ⟨req, seqAt, chainAt, time, mem, mine, own⟩ := lookupMember counted
  obtain ⟨-, -, t, passed, when⟩ := lookupsBacked h mem
  have same : chainTime req t = some p.2 := when.symm.trans own
  unfold chainTime at same
  split at same
  · cases same
  · cases Option.some.inj same
    exact admissionMember.mpr ⟨req, passed, mine⟩

/-- Over every run of any number of workers: in any interval of one sequence window
at most SequenceMax of the calls it admitted for one gap come to the cache, in any
interval of one chain window at most the chain limit of those from one source for
one flow do, and whatever comes to the cache, or does more than answer THROTTLED,
was let through by the three tiers before. -/
theorem cacheWorkBounded (ran : run (step rt lib server) (init (RateLimit.new rt cfg) b) acts = some s) :
    (∀ gap t, ((sequenceTier.lookups gap s.history).countP (within t (effectiveSequenceWindow cfg)) : Int) ≤
      max 0 cfg.sequenceMax) ∧
    (∀ ip hashKey t, hashKey ≠ 0 →
      ((chainTier.lookups ⟨ipKey ip, hashKey⟩ s.history).countP (within t cfg.effectiveChainWindow) : Int) ≤
        cfg.chainMax rt) ∧
    ∀ newer e older, s.history = newer ++ e :: older → Backed server e older := by
  have limits := limitsReached ran
  have traced := tracedReached ran
  refine ⟨?_, ?_, ?_⟩
  · intro gap t
    exact limits.sequence.lookups traced.once (sequenceLookups traced gap) t
  · intro ip hashKey t stamped
    have bound := limits.chain.lookups traced.once (chainLookups traced ⟨ipKey ip, hashKey⟩) t
    rwa [max_eq_right (Int.le_of_lt (chainMaxPositive rt cfg))] at bound
  · intro newer e older split
    exact eachAt (split ▸ traced.backed)

def strict : Config := ⟨1, 1, 0, 0, 0, 0, 1, 0, 0, 0⟩

def twoAsk : List (Action (endpoint true true)) :=
  [.arrive 0 ⟨ask 0, some listener⟩, .arrive 1 ⟨ask 0, none⟩, .tick 5, .ip 1, .ip 0, .sequence 0, .chain 0,
    .tick 6, .look 0 false, .sequence 1]

theorem cacheWorkBoundedTwoAsk : ∃ s, run (step Runtime.plenty FrameLib.plain (endpoint true true))
      (init (RateLimit.new Runtime.plenty strict) ExpiringStore.empty) twoAsk = some s ∧
    sequenceTier.lookups ⟨7, 9⟩ s.history = [(0, 5)] ∧
    ((sequenceTier.lookups ⟨7, 9⟩ s.history).countP (within 5 minute) : Int) ≤ max 0 1 := by
  have computed : (run (step Runtime.plenty FrameLib.plain (endpoint true true))
      (init (RateLimit.new Runtime.plenty strict) ExpiringStore.empty) twoAsk).map
      (fun s => sequenceTier.lookups ⟨7, 9⟩ s.history) = some [(0, 5)] := by decide
  obtain ⟨s, ran, looked⟩ := Option.map_eq_some_iff.mp computed
  exact ⟨s, ran, looked, (cacheWorkBounded ran).1 ⟨7, 9⟩ 5⟩

end Bound

end RetryEndpoint.RateBound
