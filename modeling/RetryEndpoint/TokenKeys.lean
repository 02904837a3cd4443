import RetryEndpoint.Admissions
import RetryEndpoint.RateLimit
import RetryEndpoint.Runs

/-! The keys the token-bucket tiers hold, over whole runs of Allow and AllowGroup. A
bucket is made for a key that has none and is never given up, so what a tier holds is
every key that ever asked it, however long ago. -/
namespace RetryEndpoint.TokenKeys
open BigEndian KeyedMap RateLimit Runs

section Tier
variable {κ β : Type} [DecidableEq κ]

def asked (asks : List (κ × Int)) : Finset κ := (asks.map Prod.fst).toFinset

def within (horizon now : Int) (ask : κ × Int) : Bool := decide (now - horizon ≤ ask.2 ∧ ask.2 ≤ now)

def recent (horizon now : Int) (asks : List (κ × Int)) : Finset κ := asked (asks.filter (within horizon now))

def Fresh (horizon now : Int) (asks : List (κ × Int)) : Prop :=
  ∀ ask ∈ asks, ∃ again ∈ asks, again.1 = ask.1 ∧ within horizon now again = true

instance (horizon now : Int) (asks : List (κ × Int)) : Decidable (Fresh horizon now asks) :=
  inferInstanceAs (Decidable (∀ ask ∈ asks, ∃ again ∈ asks, again.1 = ask.1 ∧ within horizon now again = true))

theorem memAsked {asks : List (κ × Int)} {k : κ} : k ∈ asked asks ↔ ∃ t, (k, t) ∈ asks := by
  simp [asked]

theorem memRecent {horizon now : Int} {asks : List (κ × Int)} {k : κ} :
    k ∈ recent horizon now asks ↔ ∃ ask ∈ asks, ask.1 = k ∧ within horizon now ask = true := by
  rw [recent, memAsked]
  constructor
  · intro ⟨t, there⟩
    obtain ⟨mem, late⟩ := List.mem_filter.mp there
    exact ⟨(k, t), mem, rfl, late⟩
  · rintro ⟨⟨k, t⟩, mem, rfl, late⟩
    exact ⟨t, List.mem_filter.mpr ⟨mem, late⟩⟩

theorem recentSubset (horizon now : Int) (asks : List (κ × Int)) : recent horizon now asks ⊆ asked asks := by
  intro k mem
  obtain ⟨⟨k, t⟩, there, rfl, -⟩ := memRecent.mp mem
  exact memAsked.mpr ⟨t, there⟩

theorem askedWithin (horizon now : Int) (asks : List (κ × Int)) :
    (asked asks).card ≤ (recent horizon now asks).card ↔ Fresh horizon now asks := by
  constructor
  · intro few ask mem
    have same := Finset.eq_of_subset_of_card_le (recentSubset horizon now asks) few
    have known : ask.1 ∈ asked asks := memAsked.mpr ⟨ask.2, mem⟩
    exact memRecent.mp (same ▸ known)
  · intro fresh
    apply Finset.card_le_card
    intro k mem
    obtain ⟨t, there⟩ := memAsked.mp mem
    exact memRecent.mpr (fresh (k, t) there)

def Holds (t : TokenBucketLimiter κ β) (asks : List (κ × Int)) : Prop := ∀ k, k ∈ t.limit ↔ k ∈ asked asks

theorem newHolds (r : Rat) (burst : Int) : Holds (newTokenBucketLimiter r burst : TokenBucketLimiter κ β) [] := by
  intro k
  simp [newTokenBucketLimiter, asked, AList.notMem_empty]

theorem Holds.allow {t : TokenBucketLimiter κ β} {asks : List (κ × Int)} (h : Holds t asks) (rt : Runtime β)
    (key : κ) (now : Int) : Holds (t.allow rt key now).2 ((key, now) :: asks) := by
  intro k
  have before := h k
  simp only [TokenBucketLimiter.allow, AList.mem_insert, asked, List.map_cons, List.toFinset_cons,
    Finset.mem_insert]
  rw [before, asked]

theorem Holds.size {t : TokenBucketLimiter κ β} {asks : List (κ × Int)} (h : Holds t asks) :
    size t.limit = (asked asks).card := sizeKeys h

end Tier

inductive Call where
  | allow (srcIP : Bytes) (hashKey startSeq : UInt64) (ipNow seqNow : Int)
  | allowGroup (srcIP : Bytes) (groupIdx : UInt32) (now : Int)
  deriving DecidableEq, Repr

variable {β : Type}

structure Track (β : Type) where
  limiter : Limiter β
  ipAsks : List (IPText × Int)
  groupAsks : List (GroupKey × Int)

def start (rt : Runtime β) (cfg : Config) : Track β := ⟨RateLimit.new rt cfg, [], []⟩

def step (rt : Runtime β) (s : Track β) : Call → Option (Track β)
  | .allow srcIP hashKey startSeq ipNow seqNow => do
    let (_, r) ← s.limiter.allow rt srcIP hashKey startSeq ipNow seqNow
    some { s with limiter := r, ipAsks := (ipString srcIP, ipNow) :: s.ipAsks }
  | .allowGroup srcIP groupIdx now =>
    some { s with
      limiter := (s.limiter.allowGroup rt srcIP groupIdx now).2
      groupAsks := (⟨ipKey srcIP, groupIdx⟩, now) :: s.groupAsks }

structure Kept (s : Track β) : Prop where
  ip : Holds s.limiter.ipLimiter s.ipAsks
  group : Holds s.limiter.groupLimiter s.groupAsks

theorem startKept (rt : Runtime β) (cfg : Config) : Kept (start rt cfg) := ⟨newHolds _ _, newHolds _ _⟩

theorem allowTiers {rt : Runtime β} {r r' : Limiter β} {srcIP : Bytes} {hashKey startSeq : UInt64}
    {ipNow seqNow : Int} {decision : Option Level}
    (answered : r.allow rt srcIP hashKey startSeq ipNow seqNow = some (decision, r')) :
    r'.ipLimiter = (r.ipLimiter.allow rt (ipString srcIP) ipNow).2 ∧ r'.groupLimiter = r.groupLimiter := by
  cases allowTook answered with
  | stopped tier | asked tier => exact ⟨by rw [tier], rfl⟩

theorem stepKept {rt : Runtime β} {s s' : Track β} {call : Call} (h : Kept s)
    (stepped : step rt s call = some s') : Kept s' := by
  cases call with
  | allow srcIP hashKey startSeq ipNow seqNow =>
    simp only [step, Option.bind_eq_bind, Option.bind_eq_some_iff, Option.some.injEq] at stepped
    obtain ⟨⟨decision, r⟩, answered, rfl⟩ := stepped
    obtain ⟨ip, group⟩ := allowTiers answered
    exact ⟨ip ▸ h.ip.allow rt _ _, group ▸ h.group⟩
  | allowGroup srcIP groupIdx now =>
    cases Option.some.inj stepped
    exact ⟨h.ip, h.group.allow rt _ _⟩

theorem runKept {rt : Runtime β} {cfg : Config} {calls : List Call} {s : Track β}
    (ran : run (step rt) (start rt cfg) calls = some s) : Kept s :=
  invariant (fun _ _ _ => stepKept) (startKept rt cfg) ran

structure Tier (β : Type) where
  kept : Track β → Nat
  recent : Int → Int → Track β → Nat
  Fresh : Int → Int → Track β → Prop
  time : Call → Option Int

def ipTier : Tier β where
  kept s := size s.limiter.ipLimiter.limit
  recent horizon now s := (TokenKeys.recent horizon now s.ipAsks).card
  Fresh horizon now s := TokenKeys.Fresh horizon now s.ipAsks
  time
    | .allow _ _ _ ipNow _ => some ipNow
    | .allowGroup .. => none

def groupTier : Tier β where
  kept s := size s.limiter.groupLimiter.limit
  recent horizon now s := (TokenKeys.recent horizon now s.groupAsks).card
  Fresh horizon now s := TokenKeys.Fresh horizon now s.groupAsks
  time
    | .allow .. => none
    | .allowGroup _ _ now => some now

/-- After any run, a tier holds no more keys than asked it within the horizon exactly
when every key that ever asked it did so within the horizon. -/
theorem keysRecent {rt : Runtime β} {cfg : Config} {calls : List Call} {s : Track β}
    (ran : run (step rt) (start rt cfg) calls = some s) (horizon now : Int) :
    (ipTier.kept s ≤ ipTier.recent horizon now s ↔ ipTier.Fresh horizon now s) ∧
    (groupTier.kept s ≤ groupTier.recent horizon now s ↔ groupTier.Fresh horizon now s) := by
  have h := runKept ran
  simp only [ipTier, groupTier, h.ip.size, h.group.size]
  exact ⟨askedWithin .., askedWithin ..⟩

def defaults : Config := ⟨100, 10, 0, 0, 500, minute, 100, minute, 200, 50⟩

def busy : List Call :=
  [.allow [10, 0, 0, 1] 7 1 0 0, .allow [10, 0, 0, 2] 7 2 1 1, .allowGroup [10, 0, 0, 1] 3 2,
    .allow [10, 0, 0, 1] 7 3 3 3]

theorem keysRecentBusy : ∃ s : Track Unit, run (step Runtime.plenty) (start Runtime.plenty defaults) busy = some s ∧
    ipTier.kept s ≤ ipTier.recent 2 3 s ∧ groupTier.kept s ≤ groupTier.recent 2 3 s := by
  have ran : (run (step Runtime.plenty) (start Runtime.plenty defaults) busy).map (fun s => (s.ipAsks, s.groupAsks)) =
      some ([(.dotted [10, 0, 0, 1], 3), (.dotted [10, 0, 0, 2], 1), (.dotted [10, 0, 0, 1], 0)],
        [(⟨ipKey [10, 0, 0, 1], 3⟩, 2)]) := by decide
  obtain ⟨s, ran, asks⟩ := Option.map_eq_some_iff.mp ran
  obtain ⟨ip, group⟩ := Prod.mk.inj asks
  obtain ⟨ipIff, groupIff⟩ := keysRecent ran 2 3
  refine ⟨s, ran, ipIff.mpr ?_, groupIff.mpr ?_⟩
  · show Fresh 2 3 s.ipAsks
    rw [ip]
    decide
  · show Fresh 2 3 s.groupAsks
    rw [group]
    decide

def spaced {κ : Type} (key : Nat → κ) (gap : Int) : Nat → List (κ × Int)
  | 0 => []
  | n + 1 => (key n, n * gap) :: spaced key gap n

section Spaced
variable {κ : Type} [DecidableEq κ] {key : Nat → κ} {gap : Int}

omit [DecidableEq κ] in
theorem memSpaced {n : Nat} {ask : κ × Int} (mem : ask ∈ spaced key gap n) :
    ∃ i < n, ask = (key i, i * gap) := by
  induction n with
  | zero => cases mem
  | succ n ih =>
    rcases List.mem_cons.mp mem with last | older
    · exact ⟨n, Nat.lt_succ_self n, last⟩
    · obtain ⟨i, below, same⟩ := ih older
      exact ⟨i, Nat.lt_succ_of_lt below, same⟩

theorem askedSpaced {n : Nat} (apart : ∀ i j, i < n → j < n → key i = key j → i = j) :
    (asked (spaced key gap n)).card = n := by
  induction n with
  | zero => rfl
  | succ n ih =>
    have new : key n ∉ asked (spaced key gap n) := by
      intro mem
      obtain ⟨t, older⟩ := memAsked.mp mem
      obtain ⟨i, below, same⟩ := memSpaced older
      have back := apart n i (Nat.lt_succ_self n) (Nat.lt_succ_of_lt below) (Prod.mk.inj same).1
      omega
    have before := ih fun i j first second => apart i j (Nat.lt_succ_of_lt first) (Nat.lt_succ_of_lt second)
    rw [spaced, asked, List.map_cons, List.toFinset_cons, ← asked, Finset.card_insert_of_notMem new, before]

theorem recentSpaced {horizon : Int} (n : Nat) (short : horizon < gap) (forward : 0 ≤ horizon) :
    (recent horizon (n * gap) (spaced key gap (n + 1))).card = 1 := by
  have only : recent horizon (n * gap) (spaced key gap (n + 1)) = {key n} := by
    ext k
    rw [memRecent, Finset.mem_singleton]
    constructor
    · rintro ⟨ask, mem, rfl, late⟩
      obtain ⟨i, below, rfl⟩ := memSpaced mem
      have reached : (n : Int) * gap - horizon ≤ i * gap := (of_decide_eq_true late).1
      have same : i = n := by
        by_contra other
        have earlier : ((i : Int) + 1) * gap ≤ n * gap :=
          Int.mul_le_mul_of_nonneg_right (by omega) (by omega)
        rw [Int.add_mul, Int.one_mul] at earlier
        omega
      rw [same]
    · rintro rfl
      refine ⟨_, List.mem_cons_self, rfl, decide_eq_true ?_⟩
      dsimp only
      omega
  rw [only, Finset.card_singleton]

end Spaced

def Bounded (rt : Runtime β) (cfg : Config) (tier : Tier β) (horizon : Int) (bound : Nat → Nat) : Prop :=
  ∀ calls s call s' now, run (step rt) (start rt cfg) calls = some s → step rt s call = some s' →
    tier.time call = some now → tier.kept s < tier.kept s' → tier.kept s' ≤ bound (tier.recent horizon now s')

def source (i : Nat) : Bytes := List.replicate 8 0xFD ++ putUint64 (UInt64.ofNat i)

def flood (ask : Nat → Call) (n : Nat) : List Call := (List.range n).map ask

def ipAsk (gap : Int) (i : Nat) : Call := .allow (source i) 0 1 (i * gap) (i * gap)

def groupAsk (gap : Int) (i : Nat) : Call := .allowGroup (source i) 0 (i * gap)

theorem sourceLength (i : Nat) : (source i).length = 16 := by simp [source]

theorem sourceApart {i j : Nat} (first : i < 2 ^ 64) (second : j < 2 ^ 64) (same : source i = source j) :
    i = j := by
  have tail := List.append_cancel_left same
  have number : UInt64.ofNat i = UInt64.ofNat j := by rw [← uint64Put (UInt64.ofNat i), tail, uint64Put]
  have value := congrArg UInt64.toNat number
  rwa [UInt64.toNat_ofNat_of_lt' first, UInt64.toNat_ofNat_of_lt' second] at value

theorem sourceText (i : Nat) : ipString (source i) = .colon (source i) := by
  have plain : (source i).take 12 ≠ v4InV6 := by
    intro same
    have head := congrArg List.head? same
    simp [source, v4InV6] at head
  simp [ipString, sourceLength, plain]

theorem sourceKey (i : Nat) : ipKey (source i) = source i := by simp [ipKey, sourceLength]

theorem floodRuns {rt : Runtime β} {cfg : Config} {ask : Nat → Call} {inv : Nat → Track β → Prop}
    (first : inv 0 (start rt cfg))
    (next : ∀ i s, inv i s → ∃ s', step rt s (ask i) = some s' ∧ inv (i + 1) s') (n : Nat) :
    ∃ s, run (step rt) (start rt cfg) (flood ask n) = some s ∧ inv n s := by
  induction n with
  | zero => exact ⟨start rt cfg, rfl, first⟩
  | succ n ih =>
    obtain ⟨s, ran, kept⟩ := ih
    obtain ⟨s', stepped, kept'⟩ := next n s kept
    have last : run (step rt) s [ask n] = some s' := by simp [run, stepped]
    refine ⟨s', ?_, kept'⟩
    rw [flood, List.range_succ, List.map_append]
    exact runAppend ran last

theorem floodLeaks {κ : Type} [DecidableEq κ] {rt : Runtime β} {cfg : Config} {tier : Tier β}
    {horizon gap : Int} {bound : Nat → Nat} (ask : Nat → Call) (asks : Track β → List (κ × Int))
    (key : Nat → κ) (inv : Nat → Track β → Prop) (timed : ∀ i : Nat, tier.time (ask i) = some (i * gap))
    (counts : ∀ s, Kept s → tier.kept s = (asked (asks s)).card)
    (recents : ∀ now s, tier.recent horizon now s = (recent horizon now (asks s)).card)
    (apart : ∀ i j, i < 2 ^ 64 → j < 2 ^ 64 → key i = key j → i = j)
    (spread : ∀ i s, inv i s → asks s = spaced key gap i) (first : inv 0 (start rt cfg))
    (next : ∀ i s, inv i s → ∃ s', step rt s (ask i) = some s' ∧ inv (i + 1) s')
    (forward : 0 ≤ horizon) (short : horizon < gap) (few : bound 1 + 1 < 2 ^ 64) :
    ¬ Bounded rt cfg tier horizon bound := by
  intro bounded
  obtain ⟨s, ran, kept⟩ := floodRuns first next (bound 1)
  obtain ⟨s', stepped, kept'⟩ := next (bound 1) s kept
  have before : tier.kept s = bound 1 := by
    rw [counts s (runKept ran), spread _ s kept]
    exact askedSpaced fun i j below above => apart i j (by omega) (by omega)
  have after : tier.kept s' = bound 1 + 1 := by
    rw [counts s' (stepKept (runKept ran) stepped), spread _ s' kept']
    exact askedSpaced fun i j below above => apart i j (by omega) (by omega)
  have alone : tier.recent horizon ((bound 1 : Nat) * gap) s' = 1 := by
    rw [recents, spread _ s' kept']
    exact recentSpaced (bound 1) short forward
  have most := bounded _ s _ s' _ ran stepped (timed (bound 1)) (by omega)
  rw [alone, after] at most
  omega

def Answers (now : Int) (r : Limiter β) : Prop := ∃ admitted, Admissions.Admits now r.sequenceLimiter admitted

theorem allowAnswers {r : Limiter β} {past seqNow : Int} (h : Answers past r) (order : past ≤ seqNow)
    (rt : Runtime β) (srcIP : Bytes) (hashKey startSeq : UInt64) (ipNow : Int) :
    ∃ decision r', r.allow rt srcIP hashKey startSeq ipNow seqNow = some (decision, r') ∧ Answers seqNow r' := by
  obtain ⟨admitted, admits⟩ := h
  obtain ⟨ok, seq, locked, -, -, admits', -⟩ := admits.allow order rt.grow ⟨hashKey, startSeq⟩
  unfold Limiter.allow
  dsimp only
  split
  · exact ⟨_, _, rfl, admitted, admits.later order⟩
  · exact ⟨_, _, by rw [locked]; rfl, _, admits'⟩

def IPFlooded (gap : Int) (i : Nat) (s : Track β) : Prop :=
  s.ipAsks = spaced (fun i => .colon (source i)) gap i ∧ Answers (i * gap) s.limiter

theorem ipFloods {rt : Runtime β} {gap : Int} (forward : 0 ≤ gap) (i : Nat) (s : Track β)
    (h : IPFlooded gap i s) : ∃ s', step rt s (ipAsk gap i) = some s' ∧ IPFlooded gap (i + 1) s' := by
  obtain ⟨asks, answers⟩ := h
  obtain ⟨decision, r, answered, admitted, admits⟩ := allowAnswers answers (Int.le_refl _) rt (source i) 0 1
    (i * gap)
  have later : (i : Int) * gap ≤ (i + 1 : Nat) * gap := Int.mul_le_mul_of_nonneg_right (by omega) forward
  have stepped : step rt s (ipAsk gap i) =
      some { s with limiter := r, ipAsks := (ipString (source i), i * gap) :: s.ipAsks } := by
    simp only [step, ipAsk, answered, Option.bind_eq_bind, Option.bind_some]
  refine ⟨_, stepped, ?_, admitted, admits.later later⟩
  rw [spaced, asks, sourceText]

def GroupFlooded (gap : Int) (i : Nat) (s : Track β) : Prop :=
  s.groupAsks = spaced (fun i => ⟨source i, 0⟩) gap i

theorem groupFloods {rt : Runtime β} {gap : Int} (i : Nat) (s : Track β) (h : GroupFlooded gap i s) :
    ∃ s', step rt s (groupAsk gap i) = some s' ∧ GroupFlooded gap (i + 1) s' := by
  refine ⟨_, rfl, ?_⟩
  rw [GroupFlooded, spaced, ← h, sourceKey]

theorem ipLeaks {rt : Runtime β} {cfg : Config} {horizon : Int} {bound : Nat → Nat} (forward : 0 ≤ horizon)
    (few : bound 1 + 1 < 2 ^ 64) : ¬ Bounded rt cfg ipTier horizon bound :=
  floodLeaks (ipAsk (horizon + 1)) Track.ipAsks (fun i => .colon (source i)) (IPFlooded (horizon + 1))
    (fun _ => rfl) (fun _ h => h.ip.size) (fun _ _ => rfl)
    (fun _ _ first second same => sourceApart first second (IPText.colon.inj same)) (fun _ _ h => h.1)
    ⟨rfl, _, Admissions.newAdmits ..⟩ (ipFloods (by omega)) forward (by omega) few

theorem groupLeaks {rt : Runtime β} {cfg : Config} {horizon : Int} {bound : Nat → Nat} (forward : 0 ≤ horizon)
    (few : bound 1 + 1 < 2 ^ 64) : ¬ Bounded rt cfg groupTier horizon bound :=
  floodLeaks (groupAsk (horizon + 1)) Track.groupAsks (fun i => ⟨source i, 0⟩) (GroupFlooded (horizon + 1))
    (fun _ => rfl) (fun _ h => h.group.size) (fun _ _ => rfl)
    (fun _ _ first second same => sourceApart first second (GroupKey.mk.inj same).1) (fun _ _ h => h) rfl
    groupFloods forward (by omega) few

/-- A bound on the keys of either tier by the recent ones would have to allow for one
recent key as many as there are addresses to forge. -/
theorem tokenKeysLeak :
    (¬ ∃ horizon bound, 0 ≤ horizon ∧ bound 1 + 1 < 2 ^ 64 ∧
      Bounded Runtime.plenty defaults ipTier horizon bound) ∧
    ¬ ∃ horizon bound, 0 ≤ horizon ∧ bound 1 + 1 < 2 ^ 64 ∧
      Bounded Runtime.plenty defaults groupTier horizon bound := by
  constructor
  · rintro ⟨horizon, bound, forward, few, bounded⟩
    exact ipLeaks forward few bounded
  · rintro ⟨horizon, bound, forward, few, bounded⟩
    exact groupLeaks forward few bounded

end RetryEndpoint.TokenKeys
