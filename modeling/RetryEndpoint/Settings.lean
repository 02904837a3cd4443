import RetryEndpoint.Texts
import RetryEndpoint.RateLimit

/-! What config.Load makes of the environment and the command line, for the rate
limits, and the limiter configuration main makes of it; and how it reads the multicast
group id.
A flag's default is its variable's value or, where that is empty or no number, the
default in the code: what Load hands on does not say which of the three it was. -/
namespace RetryEndpoint.Settings
open BigEndian Texts
open RateLimit (minute)

/- os.Getenv, where a variable that is not set is empty, and the flags given, in order. -/
structure Surroundings where
  getenv : String → Bytes
  args : List (String × Bytes)

/- strconv.ParseFloat of a finite number, time.ParseDuration, strconv.Atoi, and
strconv.ParseInt in any base, which is how a flag reads an int. -/
structure Readers where
  parseFloat : Bytes → Option Rat
  parseDuration : Bytes → Option Int
  atoi : Bytes → Option Int
  parseInt : Bytes → Option Int

section Values
variable {α : Type} (e : Surroundings) (rd : Readers)

def envValue (parse : Bytes → Option α) (key : String) (fallback : α) : α :=
  if e.getenv key = [] then fallback else (parse (e.getenv key)).getD fallback

def envStr : String → Bytes → Bytes := envValue e some
def envInt : String → Int → Int := envValue e rd.atoi
def envFloat : String → Rat → Rat := envValue e rd.parseFloat
def envDuration : String → Int → Int := envValue e rd.parseDuration

/- The value of a flag after flag.Parse: the last one given. A text that does not
parse ends the process. -/
def flagVar (parse : Bytes → Option α) (name : String) (start : α) : Option α :=
  (e.args.filter (·.1 = name)).foldlM (fun _ given => parse given.2) start

structure Unset (name key : String) : Prop where
  flag : ∀ given ∈ e.args, given.1 ≠ name
  env : e.getenv key = []

variable {e} {name key : String}

theorem Unset.value (h : Unset e name key) (parse : Bytes → Option α) (fallback : α) :
    flagVar e parse name (envValue e parse key fallback) = some fallback := by
  have none : e.args.filter (·.1 = name) = [] := by
    apply List.filter_eq_nil_iff.mpr
    intro given mem
    simpa using h.flag given mem
  rw [flagVar, none, envValue, if_pos h.env]
  rfl

end Values

structure Rates where
  rlIPRate : Rat
  rlIPBurst : Int
  rlSenderRate : Rat
  rlSenderWindow : Int
  rlChainRate : Rat
  rlChainWindow : Int
  rlSequenceMax : Int
  rlSequenceWindow : Int
  rlGroupRate : Rat
  rlGroupBurst : Int
  deriving DecidableEq, Repr

def loadRates (rd : Readers) (e : Surroundings) : Option Rates := do
  let ipRate ← flagVar e rd.parseFloat "rl-ip-rate" (envFloat e rd "RL_IP_RATE" 100)
  let ipBurst ← flagVar e rd.parseInt "rl-ip-burst" (envInt e rd "RL_IP_BURST" 10)
  let senderRate ← flagVar e rd.parseFloat "rl-sender-rate" (envFloat e rd "RL_SENDER_RATE" 0)
  let senderWindow ← flagVar e rd.parseDuration "rl-sender-window" (envDuration e rd "RL_SENDER_WINDOW" 0)
  let chainRate ← flagVar e rd.parseFloat "rl-chain-rate" (envFloat e rd "RL_CHAIN_RATE" 500)
  let chainWindow ← flagVar e rd.parseDuration "rl-chain-window" (envDuration e rd "RL_CHAIN_WINDOW" minute)
  let sequenceMax ← flagVar e rd.parseInt "rl-sequence-max" (envInt e rd "RL_SEQUENCE_MAX" 100)
  let sequenceWindow ←
    flagVar e rd.parseDuration "rl-sequence-window" (envDuration e rd "RL_SEQUENCE_WINDOW" minute)
  let groupRate ← flagVar e rd.parseFloat "rl-group-rate" (envFloat e rd "RL_GROUP_RATE" 200)
  let groupBurst ← flagVar e rd.parseInt "rl-group-burst" (envInt e rd "RL_GROUP_BURST" 50)
  some ⟨ipRate, ipBurst, senderRate, senderWindow, chainRate, chainWindow, sequenceMax, sequenceWindow,
    groupRate, groupBurst⟩

def limiterConfig (c : Rates) : RateLimit.Config where
  ipRate := c.rlIPRate
  ipBurst := c.rlIPBurst
  senderRate := c.rlSenderRate
  senderWindow := c.rlSenderWindow
  chainRate := c.rlChainRate
  chainWindow := c.rlChainWindow
  sequenceMax := c.rlSequenceMax
  sequenceWindow := c.rlSequenceWindow
  groupRate := c.rlGroupRate
  groupBurst := c.rlGroupBurst

inductive GroupIDError where
  | emptyValue
  | parse (num : Bytes) (err : NumErr)
  deriving DecidableEq, Repr

def GroupIDError.text (quote : Bytes → String) : GroupIDError → String
  | .emptyValue => "empty value"
  | .parse num .badSyntax => "strconv.ParseUint: parsing " ++ quote num ++ ": invalid syntax"
  | .parse num .outOfRange => "strconv.ParseUint: parsing " ++ quote num ++ ": value out of range"

/- strings.ToLower where it matters here: what is not ASCII has no lower case that is
a digit or an x. -/
def toLower (c : UInt8) : UInt8 := if 0x41 ≤ c ∧ c ≤ 0x5A then c + 0x20 else c

def hasHexPrefix (s : Bytes) : Bool := (utf8 "0x").isPrefixOf (s.map toLower)

def chooseBase (s : Bytes) : Bytes × Nat :=
  if hasHexPrefix s then (s.drop 2, 16)
  else match parseUint s 10 16 with
    | .error _ => (s, 16)
    | .ok _ => (s, 10)

def parseGroupID (s : Bytes) : Except GroupIDError UInt16 :=
  let s := trimSpace s
  if s = [] then .error .emptyValue
  else
    let (s, base) := chooseBase s
    match parseUint s base 16 with
    | .error err => .error (.parse s err)
    | .ok n => .ok (UInt16.ofNat n)

structure LoadError where
  given : Bytes
  err : GroupIDError
  deriving DecidableEq, Repr

def LoadError.text (quote : Bytes → String) (e : LoadError) : String :=
  "invalid -mc-group-id " ++ quote e.given ++ ": " ++ e.err.text quote

end RetryEndpoint.Settings
