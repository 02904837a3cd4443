import RetryEndpoint.Settings
import RetryEndpoint.Admissions

/-! The chain tier main builds from what config.Load made of the settings, over every
run of calls on the limiter. New takes the sender alias where the chain rate is zero
and the chain window not positive, and Load has put its defaults there by then. -/
namespace RetryEndpoint.ChainAliases
open BigEndian Texts Settings RateLimit Admissions WindowLog Runs

variable {β : Type}

inductive Action where
  | tick (next : Int)
  | allow (srcIP : Bytes) (hashKey startSeq : UInt64)
  | allowChain (srcIP : Bytes) (hashKey : UInt64)
  | allowGroup (srcIP : Bytes) (groupIdx : UInt32)
  deriving DecidableEq, Repr

structure State (β : Type) where
  limiter : Limiter β
  now : Int
  admitted : ChainKey → List Int

def init (r : Limiter β) : State β := ⟨r, 0, fun _ => []⟩

def step (rt : Runtime β) (s : State β) : Action → Option (State β)
  | .tick next => if s.now ≤ next then some { s with now := next } else none
  | .allow srcIP hashKey startSeq => do
    let (_, r) ← s.limiter.allow rt srcIP hashKey startSeq s.now s.now
    some { s with limiter := r }
  | .allowChain srcIP hashKey => do
    let (ok, r) ← s.limiter.allowChain rt srcIP hashKey s.now
    -- An unstamped flow has no key and passes uncounted.
    some { s with
      limiter := r
      admitted := if hashKey = 0 then s.admitted else noted s.admitted ⟨ipKey srcIP, hashKey⟩ s.now ok }
  | .allowGroup srcIP groupIdx =>
    some { s with limiter := (s.limiter.allowGroup rt srcIP groupIdx s.now).2 }

structure Chain (max window : Int) (s : State β) : Prop where
  admits : Admits s.now s.limiter.chainLimiter s.admitted
  max : s.limiter.chainLimiter.max = max
  window : s.limiter.chainLimiter.window = window

section Steps
variable {rt : Runtime β} {max window : Int} {s s' : State β}

theorem initChain (rt : Runtime β) (cfg : Config) :
    Chain (cfg.chainMax rt) cfg.effectiveChainWindow (init (RateLimit.new rt cfg)) :=
  ⟨newAdmits .., rfl, rfl⟩

theorem Chain.ask (h : Chain max window s) (rt : Runtime β) (srcIP : Bytes) {hashKey : UInt64}
    (stamped : hashKey ≠ 0) :
    ∃ ok s', step rt s (.allowChain srcIP hashKey) = some s' ∧ Chain max window s' ∧ s'.now = s.now ∧
      s'.admitted = noted s.admitted ⟨ipKey srcIP, hashKey⟩ s.now ok ∧
      (ok = false → max ≤ ((alive (s.now - window) (s.admitted ⟨ipKey srcIP, hashKey⟩)).length : Int)) := by
  obtain ⟨ok, r, allowed, window', max', admits, full⟩ :=
    h.admits.allow (Int.le_refl _) rt.grow ⟨ipKey srcIP, hashKey⟩
  refine ⟨ok, ⟨{ s.limiter with chainLimiter := r }, s.now, noted s.admitted ⟨ipKey srcIP, hashKey⟩ s.now ok⟩,
    ?_, ⟨admits, max'.trans h.max, window'.trans h.window⟩, rfl, rfl, ?_⟩
  · simp only [step, Limiter.allowChain, if_neg stamped, allowed, bind, Option.bind]
  · rw [h.max, h.window] at full
    exact full

theorem stepChain {a : Action} (h : Chain max window s) (stepped : step rt s a = some s') :
    Chain max window s' := by
  cases a with
  | tick next =>
    simp only [step, Option.ite_none_right_eq_some, Option.some.injEq] at stepped
    obtain ⟨forward, rfl⟩ := stepped
    exact ⟨h.admits.later forward, h.max, h.window⟩
  | allow srcIP hashKey startSeq =>
    obtain ⟨⟨_, r⟩, allowed, same⟩ := Option.bind_eq_some_iff.mp stepped
    cases Option.some.inj same
    have kept := (allowLater allowed).1
    constructor
    · dsimp only
      rw [kept]
      exact h.admits
    · exact (congrArg _ kept).trans h.max
    · exact (congrArg _ kept).trans h.window
  | allowChain srcIP hashKey =>
    by_cases unstamped : hashKey = 0
    · simp only [step, Limiter.allowChain, if_pos unstamped, bind, Option.bind, Option.some.injEq] at stepped
      subst s'
      exact h
    · obtain ⟨ok, s₁, asked, chain, -⟩ := h.ask rt srcIP unstamped
      cases Option.some.inj (asked.symm.trans stepped)
      exact chain
  | allowGroup srcIP groupIdx =>
    cases Option.some.inj stepped
    exact ⟨h.admits, h.max, h.window⟩

end Steps

def State.count (s : State β) (key : ChainKey) (wide t : Int) : Int :=
  (s.admitted key).countP (fun x => decide (t - wide < x ∧ x ≤ t))

section Bursts
variable (rt : Runtime β) {window T : Int} {m j : Nat} {s : State β} {srcIP : Bytes} {hashKey : UInt64}
  {older : List Int}

theorem burst (n : Nat) (positive : 0 < window) (stamped : hashKey ≠ 0) (h : Chain m window s) (now : s.now = T)
    (admitted : s.admitted ⟨ipKey srcIP, hashKey⟩ = List.replicate j T ++ older)
    (aged : ∀ x ∈ older, x ≤ T - window) (room : j + n ≤ m) :
    ∃ s', run (step rt) s (List.replicate n (.allowChain srcIP hashKey)) = some s' ∧ Chain m window s' ∧
      s'.now = T ∧ s'.admitted ⟨ipKey srcIP, hashKey⟩ = List.replicate (n + j) T ++ older := by
  induction n generalizing s j with
  | zero => exact ⟨s, rfl, h, now, by rw [admitted, Nat.zero_add]⟩
  | succ n ih =>
    obtain ⟨ok, s₁, asked, chain, now₁, noted₁, full⟩ := h.ask rt srcIP stamped
    have still : alive (T - window) (List.replicate j T ++ older) = List.replicate j T := by
      rw [aliveAppend, aliveEmpty aged, List.append_nil]
      apply aliveSelf
      intro x mem
      rw [List.eq_of_mem_replicate mem]
      omega
    rw [now, admitted, still, List.length_replicate] at full
    have passes : ok = true := by
      cases ok with
      | true => rfl
      | false =>
        have := full rfl
        omega
    have one : s₁.admitted ⟨ipKey srcIP, hashKey⟩ = List.replicate (j + 1) T ++ older := by
      rw [noted₁, passes, noted, if_pos rfl, Function.update_self, now, admitted, List.replicate_succ,
        List.cons_append]
    obtain ⟨s', ran, last⟩ := ih chain (now₁.trans now) one (by omega)
    refine ⟨s', ?_, ?_⟩
    · simp only [List.replicate_succ, run, asked, bind, Option.bind_some]
      exact ran
    · rw [show n + 1 + j = n + (j + 1) by omega]
      exact last

def bursts (window : Int) (m : Nat) (srcIP : Bytes) (hashKey : UInt64) : Nat → List Action
  | 0 => []
  | k + 1 => bursts window m srcIP hashKey k ++
      .tick (k * window) :: List.replicate m (.allowChain srcIP hashKey)

theorem burstsAdmitted (srcIP : Bytes) (positive : 0 < window) (stamped : hashKey ≠ 0) (h : Chain m window s)
    (now : s.now = 0) (fresh : s.admitted ⟨ipKey srcIP, hashKey⟩ = []) (k : Nat) :
    ∃ s', run (step rt) s (bursts window m srcIP hashKey k) = some s' ∧ Chain m window s' ∧
      s'.now ≤ k * window ∧ (s'.admitted ⟨ipKey srcIP, hashKey⟩).length = k * m ∧
      ∀ x ∈ s'.admitted ⟨ipKey srcIP, hashKey⟩, 0 ≤ x ∧ x ≤ (k - 1) * window := by
  induction k with
  | zero => exact ⟨s, rfl, h, by simp [now], by simp [fresh], by simp [fresh]⟩
  | succ k ih =>
    obtain ⟨s₁, ran, chain, before, many, when⟩ := ih
    have ticked : step rt s₁ (.tick (k * window)) = some { s₁ with now := k * window } := if_pos before
    have nonneg : 0 ≤ (k : Int) * window := Int.mul_nonneg (Int.natCast_nonneg k) (Int.le_of_lt positive)
    have span : ((k : Int) - 1) * window = k * window - window := by rw [Int.sub_mul, Int.one_mul]
    obtain ⟨s', more, chain', now', admitted⟩ := burst rt (j := 0) (T := k * window) m positive stamped
      (stepChain chain ticked) rfl rfl (fun x mem => span ▸ (when x mem).2) (by omega)
    have later : ((k + 1 : Nat) : Int) * window = k * window + window := by
      rw [Int.natCast_succ, Int.add_mul, Int.one_mul]
    refine ⟨s', ?_, chain', by omega, ?_, ?_⟩
    · refine runAppend ran ?_
      simp only [run, ticked, bind, Option.bind_some]
      exact more
    · rw [admitted, List.length_append, List.length_replicate, many, Nat.succ_mul]
      omega
    · intro x mem
      rw [Int.sub_mul, Int.one_mul, later]
      rw [admitted] at mem
      rcases List.mem_append.mp mem with new | old
      · rw [List.eq_of_mem_replicate new]
        omega
      · have := when x old
        omega

end Bursts

section Exact
variable (rt : Runtime β) {cfg : Config}

def Reached (cfg : Config) (s : State β) : Prop :=
  ∃ acts, run (step rt) (init (RateLimit.new rt cfg)) acts = some s

theorem countAtMost {s : State β} (reached : Reached rt cfg s) (key : ChainKey) {k : Nat} {wide : Int} (t : Int)
    (covered : wide ≤ k * cfg.effectiveChainWindow) : s.count key wide t ≤ k * cfg.chainMax rt := by
  obtain ⟨acts, ran⟩ := reached
  have chain : Chain (cfg.chainMax rt) cfg.effectiveChainWindow s :=
    invariant (fun _ _ _ h stepped => stepChain h stepped) (initChain rt cfg) ran
  have positive := chainMaxPositive rt cfg
  have bound : ∀ t, ((s.admitted key).countP
      (fun x => decide (t - cfg.effectiveChainWindow < x ∧ x ≤ t)) : Int) ≤ cfg.chainMax rt := by
    intro t
    have limit := chain.admits.bound key t
    rw [chain.max, chain.window] at limit
    omega
  exact wideBound bound k wide t covered

theorem countReached (cfg : Config) (k : Nat) {wide : Int} (short : ((k : Int) - 1) * cfg.effectiveChainWindow < wide) :
    ∃ s : State β, Reached rt cfg s ∧
      s.count ⟨ipKey [], 1⟩ wide ((k - 1) * cfg.effectiveChainWindow) = k * cfg.chainMax rt := by
  obtain ⟨m, limit⟩ := Int.eq_ofNat_of_zero_le (Int.le_of_lt (chainMaxPositive rt cfg))
  have start := initChain rt cfg
  rw [limit] at start ⊢
  have stamped : (1 : UInt64) ≠ 0 := by decide
  obtain ⟨s, ran, -, -, many, when⟩ :=
    burstsAdmitted rt [] (chainWindowPositive cfg) stamped start rfl rfl k
  refine ⟨s, ⟨_, ran⟩, ?_⟩
  have all : (s.admitted ⟨ipKey [], 1⟩).countP (fun x => decide ((k - 1) * cfg.effectiveChainWindow - wide < x ∧
      x ≤ (k - 1) * cfg.effectiveChainWindow)) = (s.admitted ⟨ipKey [], 1⟩).length := by
    apply List.countP_eq_length.mpr
    intro x mem
    have := when x mem
    simp only [decide_eq_true_eq]
    omega
  rw [State.count, all, many]
  exact Int.natCast_mul ..

theorem admitsExactly {wide : Int} (length : 0 < wide) (bound : Int) :
    (∀ s, Reached rt cfg s → ∀ ip hashKey t, hashKey ≠ 0 → s.count ⟨ipKey ip, hashKey⟩ wide t ≤ bound) ↔
      spans wide cfg.effectiveChainWindow * cfg.chainMax rt ≤ bound := by
  have positive := chainWindowPositive cfg
  obtain ⟨covered, short⟩ := spansCover positive wide
  have some : 0 ≤ spans wide cfg.effectiveChainWindow :=
    Int.ediv_nonneg (by omega) (Int.le_of_lt positive)
  obtain ⟨k, spanned⟩ := Int.eq_ofNat_of_zero_le some
  rw [spanned] at covered short ⊢
  constructor
  · intro all
    obtain ⟨s, reached, count⟩ := countReached rt cfg k short
    rw [← count]
    exact all s reached [] 1 _ (by decide)
  · intro enough s reached ip hashKey t stamped
    exact Int.le_trans (countAtMost rt reached _ t covered) enough

end Exact

theorem loadedChain {rd : Readers} {e : Surroundings} {c : Rates} (loaded : loadRates rd e = some c) :
    flagVar e rd.parseFloat "rl-chain-rate" (envFloat e rd "RL_CHAIN_RATE" 500) = some c.rlChainRate ∧
    flagVar e rd.parseDuration "rl-chain-window" (envDuration e rd "RL_CHAIN_WINDOW" minute) =
      some c.rlChainWindow := by
  simp only [loadRates, bind, Option.bind_eq_some_iff, Option.some.injEq] at loaded
  obtain ⟨_, -, _, -, _, -, _, -, _, rate, _, window, _, -, _, -, _, -, _, -, rfl⟩ := loaded
  exact ⟨rate, window⟩

theorem defaultsStand (rt : Runtime β) {rd : Readers} {e : Surroundings} {c : Rates} (loaded : loadRates rd e = some c)
    (rate : Unset e "rl-chain-rate" "RL_CHAIN_RATE") (window : Unset e "rl-chain-window" "RL_CHAIN_WINDOW") :
    (limiterConfig c).chainMax rt = 500 ∧ (limiterConfig c).effectiveChainWindow = minute := by
  obtain ⟨rate', window'⟩ := loadedChain loaded
  rw [envFloat, rate.value rd.parseFloat] at rate'
  rw [envDuration, window.value rd.parseDuration] at window'
  have rateIs : (limiterConfig c).chainRate = 500 := (Option.some.inj rate').symm
  have windowIs : (limiterConfig c).chainWindow = minute := (Option.some.inj window').symm
  have nonzero : ¬ (500 : Rat) = 0 := by decide
  have long : ¬ minute ≤ 0 := by decide
  constructor
  · have stays : (limiterConfig c).effectiveChainRate = 500 := by
      rw [Config.effectiveChainRate, rateIs]
      exact if_neg fun h => nonzero h.1
    rw [Config.chainMax, stays]
    rfl
  · have stays : ¬ (minute ≤ 0 ∧ (limiterConfig c).senderWindow > 0) := fun h => long h.1
    simp only [Config.effectiveChainWindow, windowIs, if_neg stays, if_neg long]

def Honoured (rt : Runtime β) (c : Rates) : Prop :=
  ∀ s, Reached rt (limiterConfig c) s → ∀ ip hashKey t, hashKey ≠ 0 →
    s.count ⟨ipKey ip, hashKey⟩ c.rlSenderWindow t ≤ c.rlSenderRate.floor

/-- With the chain settings left alone, the limiter keeps to the sender aliases in
every run exactly when they ask for no less than the default of 500 for every
minute, or part of one, of the sender window. -/
theorem aliasHonoured (rt : Runtime β) {rd : Readers} {e : Surroundings} {c : Rates}
    (loaded : loadRates rd e = some c) (rate : Unset e "rl-chain-rate" "RL_CHAIN_RATE")
    (window : Unset e "rl-chain-window" "RL_CHAIN_WINDOW") (positive : 0 < c.rlSenderWindow) :
    Honoured rt c ↔ spans c.rlSenderWindow minute * 500 ≤ c.rlSenderRate.floor := by
  obtain ⟨max, wide⟩ := defaultsStand rt loaded rate window
  rw [Honoured, admitsExactly rt positive, max, wide]

def numbers : Readers where
  parseFloat s := if s = utf8 "10" then some 10 else if s = utf8 "600" then some 600 else none
  parseDuration s := if s = utf8 "1s" then some 1000000000 else none
  atoi _ := none
  parseInt _ := none

def byFlag : Surroundings := ⟨fun _ => [], [("rl-sender-rate", utf8 "10"), ("rl-sender-window", utf8 "1s")]⟩

def byEnv : Surroundings :=
  ⟨fun key => if key = "RL_SENDER_RATE" then utf8 "600" else if key = "RL_SENDER_WINDOW" then utf8 "1s" else [], []⟩

def aliased (rate : Rat) : Rates := ⟨100, 10, rate, 1000000000, 500, minute, 100, minute, 200, 50⟩

/- Ten a second are asked for, and eleven in one instant are let through. -/
theorem aliasIgnored : loadRates numbers byFlag = some (aliased 10) ∧
    Unset byFlag "rl-chain-rate" "RL_CHAIN_RATE" ∧ Unset byFlag "rl-chain-window" "RL_CHAIN_WINDOW" ∧
    ¬ Honoured Runtime.plenty (aliased 10) := by
  refine ⟨by decide, ⟨by decide, rfl⟩, ⟨by decide, rfl⟩, ?_⟩
  intro honoured
  have computed : (run (step Runtime.plenty) (init (RateLimit.new Runtime.plenty (limiterConfig (aliased 10))))
      (List.replicate 11 (.allowChain [] 7))).map (fun s => s.count ⟨ipKey [], 7⟩ 1000000000 0) = some 11 := by
    decide
  obtain ⟨s, ran, count⟩ := Option.map_eq_some_iff.mp computed
  have most := honoured s ⟨_, ran⟩ [] 7 0 (by decide)
  rw [show (aliased 10).rlSenderWindow = 1000000000 from rfl, count] at most
  revert most
  decide

theorem aliasHonouredRoomy : loadRates numbers byEnv = some (aliased 600) ∧ Honoured Runtime.plenty (aliased 600) := by
  have loaded : loadRates numbers byEnv = some (aliased 600) := by decide
  exact ⟨loaded, (aliasHonoured Runtime.plenty loaded ⟨by decide, by decide⟩ ⟨by decide, by decide⟩
    (by decide)).mpr (by decide)⟩

end RetryEndpoint.ChainAliases
