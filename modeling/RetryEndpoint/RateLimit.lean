import RetryEndpoint.SlidingWindow
import RetryEndpoint.BigEndian
import Mathlib.Algebra.Group.Int.Defs
import Mathlib.Data.Rat.Defs

/-! The four tiers of ratelimit.go. The token bucket itself is golang.org/x/time/rate, how
far append grows an array is the runtime's, and so is what int makes of a number out of its
range; all three are parameters. Rates are rationals, which is what a finite float64 is.
Every tier reads a clock of its own, so each call carries the time that tier read. -/
namespace RetryEndpoint.RateLimit
open BigEndian KeyedMap

inductive Level where | ip | chain | sequence | group deriving DecidableEq, Repr

structure Runtime (β : Type) where
  newLimiter : Rat → Int → β
  allow : β → Int → Bool × β
  grow : Nat → Nat
  outOfRange : Rat → Int

def Runtime.plenty : Runtime Unit := ⟨fun _ _ => (), fun b _ => (true, b), fun n => 2 * n, fun _ => -2 ^ 63⟩

structure SeqKey where
  hashKey : UInt64
  seqNum : UInt64
  deriving DecidableEq, Repr

structure ChainKey where
  ip : Bytes
  hashKey : UInt64
  deriving DecidableEq, Repr

structure GroupKey where
  ip : Bytes
  groupIdx : UInt32
  deriving DecidableEq, Repr

def v4InV6 : Bytes := List.replicate 10 0 ++ [0xFF, 0xFF]

/- netip.AddrFromSlice, whose failure is the zero Addr, and As16. -/
def ipKey (ip : Bytes) : Bytes :=
  if ip.length = 4 then v4InV6 ++ ip
  else if ip.length = 16 then ip
  else List.replicate 16 0

/- net.IP.To16, and netip.AddrFromSlice where the failure is looked at. -/
def to16 (ip : Bytes) : Option Bytes :=
  if ip.length = 4 then some (v4InV6 ++ ip) else if ip.length = 16 then some ip else none

theorem to16Long {ip : Bytes} (long : ip.length = 16) : to16 ip = some ip := by
  simp [to16, long]

/- net.IP.String up to spelling: the four forms it prints, each with the bytes the
text determines. -/
inductive IPText where
  | nil | dotted (v4 : Bytes) | colon (v6 : Bytes) | hex (raw : Bytes)
  deriving DecidableEq, Repr

def ipString (ip : Bytes) : IPText :=
  if ip.length = 0 then .nil
  else if ip.length = 4 then .dotted ip
  else if ip.length = 16 then
    if ip.take 12 = v4InV6 then .dotted (ip.drop 12) else .colon ip
  else .hex ip

structure TokenBucketLimiter (κ β : Type) where
  limit : Map κ β
  r : Rat
  burst : Int

def newTokenBucketLimiter {κ β : Type} (tokensPerSec : Rat) (burst : Int) :
    TokenBucketLimiter κ β := ⟨∅, tokensPerSec, burst⟩

def TokenBucketLimiter.allow {κ β : Type} [DecidableEq κ] (rt : Runtime β)
    (t : TokenBucketLimiter κ β) (key : κ) (now : Int) : Bool × TokenBucketLimiter κ β :=
  let l := (t.limit.lookup key).getD (rt.newLimiter t.r t.burst)
  let (ok, l) := rt.allow l now
  (ok, { t with limit := t.limit.insert key l })

structure Limiter (β : Type) where
  ipLimiter : TokenBucketLimiter IPText β
  chainLimiter : SlidingWindow.Limiter ChainKey
  sequenceLimiter : SlidingWindow.Limiter SeqKey
  groupLimiter : TokenBucketLimiter GroupKey β

structure Config where
  ipRate : Rat
  ipBurst : Int
  senderRate : Rat
  senderWindow : Int
  chainRate : Rat
  chainWindow : Int
  sequenceMax : Int
  sequenceWindow : Int
  groupRate : Rat
  groupBurst : Int

def minute : Int := 60 * 1000 * 1000 * 1000

def truncate {β : Type} (rt : Runtime β) (x : Rat) : Int :=
  let n := x.num.tdiv x.den
  if -2 ^ 63 ≤ n ∧ n < 2 ^ 63 then n else rt.outOfRange x

def Config.effectiveChainRate (cfg : Config) : Rat :=
  if cfg.chainRate = 0 ∧ cfg.senderRate ≠ 0 then cfg.senderRate else cfg.chainRate

def Config.effectiveChainWindow (cfg : Config) : Int :=
  let w := if cfg.chainWindow ≤ 0 ∧ cfg.senderWindow > 0 then cfg.senderWindow else cfg.chainWindow
  if w ≤ 0 then minute else w

def Config.chainMax {β : Type} (cfg : Config) (rt : Runtime β) : Int :=
  let n := truncate rt cfg.effectiveChainRate
  if n ≤ 0 then 500 else n

def new {β : Type} (rt : Runtime β) (cfg : Config) : Limiter β where
  ipLimiter := newTokenBucketLimiter cfg.ipRate cfg.ipBurst
  chainLimiter := SlidingWindow.newSlidingWindowLimiter (cfg.chainMax rt) cfg.effectiveChainWindow
    SlidingWindow.maxWindowKeys
  sequenceLimiter := SlidingWindow.newSlidingWindowLimiter cfg.sequenceMax
    (if cfg.sequenceWindow ≤ 0 then minute else cfg.sequenceWindow) SlidingWindow.maxWindowKeys
  groupLimiter := newTokenBucketLimiter (if cfg.groupRate ≤ 0 then 200 else cfg.groupRate)
    (if cfg.groupBurst ≤ 0 then 50 else cfg.groupBurst)

/- The decision is the level that rejected, if one did. The outer none is the
index out of range of a log no run of calls leaves behind. -/
def Limiter.allow {β : Type} (rt : Runtime β) (r : Limiter β) (srcIP : Bytes)
    (hashKey startSeq : UInt64) (ipNow seqNow : Int) : Option (Option Level × Limiter β) :=
  let (ok, ip) := r.ipLimiter.allow rt (ipString srcIP) ipNow
  let r := { r with ipLimiter := ip }
  if !ok then some (some .ip, r)
  else do
    let (ok, seq) ← r.sequenceLimiter.allowLocked rt.grow ⟨hashKey, startSeq⟩ seqNow
    some (if ok then none else some .sequence, { r with sequenceLimiter := seq })

def Limiter.allowChain {β : Type} (rt : Runtime β) (r : Limiter β) (srcIP : Bytes)
    (hashKey : UInt64) (now : Int) : Option (Bool × Limiter β) :=
  if hashKey = 0 then some (true, r)
  else do
    let (ok, chain) ← r.chainLimiter.allowLocked rt.grow ⟨ipKey srcIP, hashKey⟩ now
    some (ok, { r with chainLimiter := chain })

def Limiter.allowGroup {β : Type} (rt : Runtime β) (r : Limiter β) (srcIP : Bytes)
    (groupIdx : UInt32) (now : Int) : Bool × Limiter β :=
  let (ok, group) := r.groupLimiter.allow rt ⟨ipKey srcIP, groupIdx⟩ now
  (ok, { r with groupLimiter := group })

theorem chainMaxPositive {β : Type} (rt : Runtime β) (cfg : Config) : 0 < cfg.chainMax rt := by
  unfold Config.chainMax
  dsimp only
  split <;> omega

theorem chainWindowPositive (cfg : Config) : 0 < cfg.effectiveChainWindow := by
  have long : 0 < minute := by decide
  unfold Config.effectiveChainWindow
  dsimp only
  split <;> omega

section Calls
variable {β : Type} {rt : Runtime β} {r r' : Limiter β} {srcIP : Bytes} {hashKey startSeq : UInt64}

inductive Allowed (rt : Runtime β) (r : Limiter β) (srcIP : Bytes) (hashKey startSeq : UInt64)
    (ipNow seqNow : Int) : Option Level → Limiter β → Prop where
  | stopped {ip} (denies : r.ipLimiter.allow rt (ipString srcIP) ipNow = (false, ip)) :
      Allowed rt r srcIP hashKey startSeq ipNow seqNow (some .ip) { r with ipLimiter := ip }
  | asked {ip ok seq} (passes : r.ipLimiter.allow rt (ipString srcIP) ipNow = (true, ip))
      (locked : r.sequenceLimiter.allowLocked rt.grow ⟨hashKey, startSeq⟩ seqNow = some (ok, seq)) :
      Allowed rt r srcIP hashKey startSeq ipNow seqNow (if ok then none else some .sequence)
        { r with ipLimiter := ip, sequenceLimiter := seq }

theorem allowTook {ipNow seqNow : Int} {decision : Option Level}
    (answered : r.allow rt srcIP hashKey startSeq ipNow seqNow = some (decision, r')) :
    Allowed rt r srcIP hashKey startSeq ipNow seqNow decision r' := by
  cases tier : r.ipLimiter.allow rt (ipString srcIP) ipNow with
  | mk ok ip =>
    simp only [Limiter.allow, tier] at answered
    cases ok with
    | false =>
      cases Option.some.inj answered
      exact .stopped tier
    | true =>
      obtain ⟨⟨ok, seq⟩, locked, same⟩ := Option.bind_eq_some_iff.mp answered
      cases Option.some.inj same
      exact .asked tier locked

theorem allowLater {ipNow seqNow : Int} {decision : Option Level}
    (answered : r.allow rt srcIP hashKey startSeq ipNow seqNow = some (decision, r')) :
    r'.chainLimiter = r.chainLimiter ∧ r'.groupLimiter = r.groupLimiter := by
  cases allowTook answered with
  | stopped | asked => exact ⟨rfl, rfl⟩

inductive Chained (rt : Runtime β) (r : Limiter β) (srcIP : Bytes) (hashKey : UInt64) (now : Int) :
    Bool → Limiter β → Prop where
  | unstamped (zero : hashKey = 0) : Chained rt r srcIP hashKey now true r
  | asked {ok chain} (stamped : hashKey ≠ 0)
      (locked : r.chainLimiter.allowLocked rt.grow ⟨ipKey srcIP, hashKey⟩ now = some (ok, chain)) :
      Chained rt r srcIP hashKey now ok { r with chainLimiter := chain }

theorem chainTook {now : Int} {ok : Bool} (answered : r.allowChain rt srcIP hashKey now = some (ok, r')) :
    Chained rt r srcIP hashKey now ok r' := by
  unfold Limiter.allowChain at answered
  split at answered
  · rename_i zero
    cases Option.some.inj answered
    exact .unstamped zero
  · rename_i stamped
    obtain ⟨⟨ok, chain⟩, locked, same⟩ := Option.bind_eq_some_iff.mp answered
    cases Option.some.inj same
    exact .asked stamped locked

end Calls

end RetryEndpoint.RateLimit
