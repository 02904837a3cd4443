import RetryEndpoint.Wire
import RetryEndpoint.RateLimit
import RetryEndpoint.Doubles

/-! The ADVERT: the beacon checks at the end of config.Load, the beacon configuration
main makes of what they accept, and the fifty-six bytes buildADVERT writes once for
every send. The port and the interval are narrowed with no check before. -/
namespace RetryEndpoint.Advert
open BigEndian Wire Doubles
open RateLimit (v4InV6 to16 to16Long)

inductive BeaconScope where | site | org | global | both | all deriving DecidableEq, Repr
inductive Compat where | asmOnly | both | derived deriving DecidableEq, Repr
inductive ScopeName where | site | org | global deriving DecidableEq, Repr

def parseBeaconScope : String → Option BeaconScope
  | "site" => some .site
  | "org" => some .org
  | "global" => some .global
  | "both" => some .both
  | "all" => some .all
  | _ => none

def parseCompat : String → Option Compat
  | "asm-only" => some .asmOnly
  | "both" => some .both
  | "derived" => some .derived
  | _ => none

/- The standard library, the host and the shard package, as far as the beacon asks
them. A conversion to uint16 of a number out of range is the platform's. -/
structure Host where
  parseIP : String → Option Bytes
  durationString : Int → String
  crc32c : Bytes → UInt32
  hostname : Option Bytes
  ifaceAddrs : Option (List Bytes)
  parseScope : ScopeName → Bool
  ssmPrefix : ScopeName → Except String UInt16
  round : Rounding
  outOfRange : ℚ → UInt16

/- controlGroupCompat is trimmed and in lower case here, and sourceMode is asm or ssm. -/
structure Config where
  nackPort : Int
  instanceID : Bytes
  proxyEnabled : Bool
  ssm : Bool
  beaconEnabled : Bool
  controlGroupCompat : String
  beaconTier : Nat
  beaconPreference : Nat
  beaconInterval : Int
  beaconScope : String
  beaconScopeByte : UInt8
  beaconFlagsUnicast : Bool
  beaconFlagsMulticast : Bool
  beaconFlagsDraining : Bool
  beaconNACKAddr : String
  deriving DecidableEq, Repr

def second : Int := 1000000000

inductive LoadError where
  | beaconScope (got : String)
  | compat (got : String)
  | noSSMGroup (scope : ScopeName)
  | ssmPrefix (err : String)
  | tier (got : Nat)
  | preference (got : Nat)
  | interval (got : Int)
  | nackAddr (got : String)
  deriving DecidableEq, Repr

def ScopeName.text : ScopeName → String
  | .site => "site"
  | .org => "org"
  | .global => "global"

def LoadError.text (h : Host) : LoadError → String
  | .beaconScope got => "beacon-scope must be one of site|org|global|both|all, got " ++ got.quote
  | .compat got => "invalid -control-group-compat " ++ got.quote ++ " (asm-only|both|derived)"
  | .noSSMGroup scope =>
    "beacon group: -control-group-compat=derived with -source-mode=ssm needs a beacon scope BRC-129 " ++
      "defines an SSM control group for (site|global), got " ++ scope.text.quote
  | .ssmPrefix err => "beacon group: " ++ err
  | .tier got => "beacon-tier must be in [0, 254] (255 is reserved for static seeds), got " ++ toString got
  | .preference got => "beacon-preference must fit in uint8, got " ++ toString got
  | .interval got =>
    "beacon-interval must be ≥ 1s (advert carries an integer seconds field), got " ++ h.durationString got
  | .nackAddr got => "nack-addr must be a valid IPv6 unicast address, got " ++ got.quote

def BeaconScope.byte : BeaconScope → UInt8
  | .site => 0x05
  | .org => 0x08
  | .global => 0x0E
  | .both => 0xFF
  | .all => 0xFF

def beaconScopeNames : BeaconScope → List ScopeName
  | .site => [.site]
  | .org => [.org]
  | .global => [.global]
  | .both => [.site, .org, .global]
  | .all => [.site, .org, .global]

def scopes : ScopeName → UInt16
  | .site => 0xFF05
  | .org => 0xFF08
  | .global => 0xFF0E

def derivedPrefix (h : Host) (compat : Compat) (ssm : Bool) (scope : ScopeName) : Except LoadError UInt16 :=
  if ssm then
    if h.parseScope scope then
      (h.ssmPrefix scope).mapError .ssmPrefix
    else if compat = .derived then .error (.noSSMGroup scope)
    else .ok (scopes scope)
  else .ok (scopes scope)

def controlGroupPrefixes (h : Host) (compat : Compat) (ssm : Bool) (scope : ScopeName) :
    Except LoadError (List UInt16) :=
  if compat = .asmOnly then .ok [scopes scope]
  else do
    let derived ← derivedPrefix h compat ssm scope
    .ok (if compat = .derived ∨ derived = scopes scope then [derived] else [scopes scope, derived])

def appendNew (out : List UInt16) (p : UInt16) : List UInt16 := if p ∈ out then out else out ++ [p]

def beaconGroupPrefixes (h : Host) (compat : Compat) (ssm : Bool) (scope : BeaconScope) :
    Except LoadError (List UInt16) :=
  (beaconScopeNames scope).foldlM
    (fun out name => (controlGroupPrefixes h compat ssm name).map (·.foldl appendNew out)) []

def to4 (ip : Bytes) : Option Bytes :=
  if ip.length = 4 then some ip
  else if ip.length = 16 ∧ ip.take 12 = v4InV6 then some (ip.drop 12) else none

structure Words where
  scope : BeaconScope
  compat : Compat
  deriving DecidableEq, Repr

def words (c : Config) : Except LoadError Words :=
  match parseBeaconScope c.beaconScope with
  | none => .error (.beaconScope c.beaconScope)
  | some scope =>
    match parseCompat c.controlGroupCompat with
    | none => .error (.compat c.controlGroupCompat)
    | some compat => .ok ⟨scope, compat⟩

def checkNACKAddr (h : Host) (addr : String) : Except LoadError Unit :=
  if addr = "" then .ok ()
  else match h.parseIP addr with
    | none => .error (.nackAddr addr)
    | some ip => if to16 ip = none ∨ to4 ip ≠ none then .error (.nackAddr addr) else .ok ()

def checkGroups (h : Host) (c : Config) (w : Words) : Except LoadError Unit :=
  if c.beaconEnabled then (beaconGroupPrefixes h w.compat c.ssm w.scope).map fun _ => () else .ok ()

def checkNumbers (c : Config) : Except LoadError Unit :=
  if 254 < c.beaconTier then .error (.tier c.beaconTier)
  else if 255 < c.beaconPreference then .error (.preference c.beaconPreference)
  else if c.beaconInterval < second then .error (.interval c.beaconInterval)
  else .ok ()

def load (h : Host) (c : Config) : Except LoadError Config := do
  let w ← words c
  checkGroups h c w
  checkNumbers c
  checkNACKAddr h c.beaconNACKAddr
  .ok { c with beaconScopeByte := w.scope.byte }

structure Beacon where
  nackAddr : Bytes
  nackPort : UInt16
  tier : UInt8
  preference : UInt8
  interval : Int
  scope : UInt8
  flags : UInt16
  instanceID : UInt32
  deriving DecidableEq, Repr

def flagHasParent : UInt16 := 0x0002
def flagDraining : UInt16 := 0x0004
def flagUnicastRetransmit : UInt16 := 0x0008
def flagMulticastRetransmit : UInt16 := 0x0010

def hashInstanceID (h : Host) (name : Bytes) : UInt32 := if h.crc32c name = 0 then 1 else h.crc32c name

def instanceName (h : Host) (c : Config) : Bytes :=
  if c.instanceID = [] then h.hostname.getD [] else c.instanceID

def globalUnicast (ip : Bytes) : Bool :=
  ip.length = 16 && to4 ip = none && ip ≠ List.replicate 16 0 && ip ≠ List.replicate 15 0 ++ [1] &&
    byteAt ip 0 ≠ 0xFF && !(byteAt ip 0 = 0xFE && byteAt ip 1 &&& 0xC0 = 0x80)

/- The empty string is the nil IP, which To16 gives for an address of no known length. -/
def pickBeaconNACKAddr (h : Host) (explicit : String) : Option Bytes :=
  if explicit = "" then do
    let addrs ← h.ifaceAddrs
    let ip ← addrs.find? globalUnicast
    some ((to16 ip).getD [])
  else do
    let ip ← h.parseIP explicit
    some ((to16 ip).getD [])

def flagIf (set : Bool) (flag : UInt16) : UInt16 := if set then flag else 0

/- none is a beacon that is off, or the error that ends run. -/
def beaconConfig (h : Host) (c : Config) : Option Beacon :=
  if c.beaconEnabled then do
    let nackIP ← pickBeaconNACKAddr h c.beaconNACKAddr
    let flags := flagIf c.beaconFlagsUnicast flagUnicastRetransmit |||
      flagIf c.beaconFlagsMulticast flagMulticastRetransmit |||
      flagIf c.beaconFlagsDraining flagDraining ||| flagIf c.proxyEnabled flagHasParent
    let w ← (words c).toOption
    let _ ← (beaconGroupPrefixes h w.compat c.ssm w.scope).toOption
    some ⟨nackIP, UInt16.ofInt c.nackPort, UInt8.ofNat c.beaconTier, UInt8.ofNat c.beaconPreference,
      c.beaconInterval, c.beaconScopeByte, flags, hashInstanceID h (instanceName h c)⟩
  else none

def new (b : Beacon) : Beacon := if b.interval = 0 then { b with interval := 60 * second } else b

/- time.Duration.Seconds: whole and fractional part are converted apart. -/
def seconds (r : Rounding) (d : Int) : ℚ :=
  r.fl (r.fl (d.tdiv second) + r.fl (r.fl (d.tmod second) / 1000000000))

def toUint16 (h : Host) (x : ℚ) : UInt16 :=
  if 0 ≤ x ∧ x < 65536 then UInt16.ofNat x.floor.toNat else h.outOfRange x

def advertSize : Nat := 56
def msgTypeADVERT : UInt8 := 0x20

def nackIP (b : Beacon) : Bytes := (to16 b.nackAddr).getD (List.replicate 16 0)

def advertFields (h : Host) (b : Beacon) : List Bytes :=
  [putUint32 magicBSV, putUint16 protoVer, [msgTypeADVERT], [b.scope],
    nackIP b, putUint16 b.nackPort, [b.tier], [b.preference],
    putUint16 (toUint16 h (seconds h.round b.interval)), putUint16 b.flags, putUint32 b.instanceID,
    List.replicate 20 0]

def buildADVERT (h : Host) (b : Beacon) : Bytes := (advertFields h b).flatten

structure Announcement where
  nackAddr : Bytes
  nackPort : UInt16
  tier : UInt8
  preference : UInt8
  intervalSec : UInt16
  flags : UInt16
  instanceID : UInt32
  reserved : Bytes
  deriving DecidableEq, Repr

def parseADVERT (buf : Bytes) : Announcement :=
  ⟨slice buf 8 24, uint16 (slice buf 24 26), byteAt buf 26, byteAt buf 27, uint16 (slice buf 28 30),
    uint16 (slice buf 30 32), uint32 (slice buf 32 36), slice buf 36 56⟩

def Announcement.has (a : Announcement) (flag : UInt16) : Bool := a.flags &&& flag ≠ 0

structure RoundTrip (h : Host) (c : Config) (buf : Bytes) : Prop where
  size : buf.length = advertSize
  nackAddr : pickBeaconNACKAddr h c.beaconNACKAddr = some (parseADVERT buf).nackAddr
  nackPort : ((parseADVERT buf).nackPort.toNat : Int) = c.nackPort
  tier : (parseADVERT buf).tier.toNat = c.beaconTier
  preference : (parseADVERT buf).preference.toNat = c.beaconPreference
  hasParent : (parseADVERT buf).has flagHasParent = c.proxyEnabled
  draining : (parseADVERT buf).has flagDraining = c.beaconFlagsDraining
  unicast : (parseADVERT buf).has flagUnicastRetransmit = c.beaconFlagsUnicast
  multicast : (parseADVERT buf).has flagMulticastRetransmit = c.beaconFlagsMulticast
  otherFlags : (parseADVERT buf).has 0xFFE1 = false
  instanceID : (parseADVERT buf).instanceID = hashInstanceID h (instanceName h c)
  interval : ((parseADVERT buf).intervalSec.toNat : Int) = c.beaconInterval / second
  announced : (parseADVERT buf).intervalSec ≠ 0
  reserved : (parseADVERT buf).reserved = List.replicate 20 0

structure Accepted (h : Host) (c : Config) : Prop where
  tier : c.beaconTier ≤ 254
  preference : c.beaconPreference ≤ 255
  interval : second ≤ c.beaconInterval
  nackAddr : c.beaconNACKAddr ≠ "" → ∃ ip, h.parseIP c.beaconNACKAddr = some ip ∧ ip.length = 16

theorem boundOk {ε α β : Type} {x : Except ε α} {f : α → Except ε β} {b : β} (ok : x >>= f = .ok b) :
    ∃ a, x = .ok a ∧ f a = .ok b := by
  cases x with
  | error e => cases ok
  | ok a => exact ⟨a, rfl, ok⟩

section Loading
variable {h : Host} {c c' : Config} {addr : String} {ip : Bytes}

theorem checkedAddr (ok : checkNACKAddr h addr = .ok ()) (given : addr ≠ "") :
    ∃ ip, h.parseIP addr = some ip ∧ ip.length = 16 := by
  cases parsed : h.parseIP addr with
  | none => simp [checkNACKAddr, given, parsed] at ok
  | some ip =>
    simp only [checkNACKAddr, if_neg given, parsed] at ok
    split at ok
    · cases ok
    · rename_i fine
      refine ⟨ip, rfl, ?_⟩
      -- four bytes are an IPv4 address, and any other length has no long form
      by_contra short
      apply fine
      by_cases four : ip.length = 4
      · exact .inr (by simp [to4, four])
      · exact .inl (by simp [to16, four, short])

theorem loadAccepted (ok : load h c = .ok c') : Accepted h c' := by
  rw [load] at ok
  obtain ⟨w, -, ok⟩ := boundOk ok
  obtain ⟨-, -, ok⟩ := boundOk ok
  obtain ⟨_, numbers, ok⟩ := boundOk ok
  obtain ⟨_, addr, ok⟩ := boundOk ok
  cases ok
  simp only [checkNumbers] at numbers
  split at numbers <;> try contradiction
  split at numbers <;> try contradiction
  split at numbers <;> try contradiction
  rename_i tier preference interval
  exact ⟨Nat.not_lt.mp tier, Nat.not_lt.mp preference, Int.not_lt.mp interval, checkedAddr addr⟩

theorem pickLong (accepted : Accepted h c) (picked : pickBeaconNACKAddr h c.beaconNACKAddr = some ip) :
    ip.length = 16 := by
  by_cases given : c.beaconNACKAddr = ""
  · simp only [pickBeaconNACKAddr, if_pos given, Option.bind_eq_bind, Option.bind_eq_some_iff,
      Option.some.injEq] at picked
    obtain ⟨addrs, -, found, first, rfl⟩ := picked
    have long : found.length = 16 := by
      have global := List.find?_some first
      simp only [globalUnicast, Bool.and_eq_true, decide_eq_true_eq] at global
      exact global.1.1.1.1.1
    simpa [to16Long long] using long
  · obtain ⟨found, parsed, long⟩ := accepted.nackAddr given
    simp only [pickBeaconNACKAddr, if_neg given, parsed, Option.bind_eq_bind, Option.bind_some,
      to16Long long, Option.getD_some, Option.some.injEq] at picked
    exact picked ▸ long

end Loading

section Reading
variable {h : Host} {b : Beacon}

@[simp] theorem nackIPLength : (nackIP b).length = 16 := by
  rw [nackIP, to16]
  split_ifs <;> simp [v4InV6, *]

theorem buildADVERTLength : (buildADVERT h b).length = advertSize := by
  simp [buildADVERT, advertFields, advertSize]

theorem parseBuilt : parseADVERT (buildADVERT h b) =
    ⟨nackIP b, b.nackPort, b.tier, b.preference,
      toUint16 h (seconds h.round b.interval), b.flags, b.instanceID, List.replicate 20 0⟩ := by
  have addr : slice (buildADVERT h b) 8 24 = nackIP b :=
    sliceField (i := 4) rfl (by simp [advertFields]) (by simp)
  have port : slice (buildADVERT h b) 24 26 = putUint16 b.nackPort :=
    sliceField (i := 5) rfl (by simp [advertFields]) (by simp)
  have tier : byteAt (buildADVERT h b) 26 = b.tier :=
    byteField (i := 6) rfl (by simp [advertFields])
  have preference : byteAt (buildADVERT h b) 27 = b.preference :=
    byteField (i := 7) rfl (by simp [advertFields])
  have interval : slice (buildADVERT h b) 28 30 = putUint16 (toUint16 h (seconds h.round b.interval)) :=
    sliceField (i := 8) rfl (by simp [advertFields]) (by simp)
  have flags : slice (buildADVERT h b) 30 32 = putUint16 b.flags :=
    sliceField (i := 9) rfl (by simp [advertFields]) (by simp)
  have instanceID : slice (buildADVERT h b) 32 36 = putUint32 b.instanceID :=
    sliceField (i := 10) rfl (by simp [advertFields]) (by simp)
  have reserved : slice (buildADVERT h b) 36 56 = List.replicate 20 0 :=
    sliceField (i := 11) rfl (by simp [advertFields]) (by simp)
  rw [parseADVERT, addr, port, tier, preference, interval, flags, instanceID, reserved, uint16Put, uint16Put,
    uint16Put, uint32Put]

end Reading

theorem portKept (port : Int) : ((UInt16.ofInt port).toNat : Int) = port ↔ 0 ≤ port ∧ port < 65536 := by
  have narrowed : ((UInt16.ofInt port).toNat : Int) = port % 65536 := by
    simp only [UInt16.ofInt, UInt16.toNat_ofNat']
    omega
  rw [narrowed]
  omega

theorem nanosBelow (r : Rounding) {m : ℕ} (below : m < 1000000000) :
    0 ≤ r.fl (r.fl m / 1000000000) ∧ r.fl (r.fl m / 1000000000) ≤ 1 - 1 / 2 ^ 30 := by
  have last : (m : ℚ) ≤ 999999999 := by exact_mod_cast Nat.le_of_lt_succ below
  rw [whole r (by omega)]
  refine fractionBelow r (by positivity) ?_
  rw [div_le_iff₀ (by norm_num)]
  refine le_trans last ?_
  norm_num

theorem secondsBetween (r : Rounding) {n m : ℕ} (fits : n < 2 ^ 16) (below : m < 1000000000) :
    (seconds r (n * second + m)).floor = n ∧ 0 ≤ seconds r (n * second + m) ∧
      seconds r (n * second + m) < 65536 := by
  have quotient : (n * second + m).tdiv second = n := by
    rw [Int.tdiv_eq_ediv_of_nonneg (by rw [second]; omega), second]
    omega
  have remainder : (n * second + m).tmod second = m := by
    rw [Int.tmod_eq_emod_of_nonneg (by rw [second]; omega), second]
    omega
  have same : seconds r (n * second + m) = r.fl (n + r.fl (r.fl m / 1000000000)) := by
    rw [seconds, quotient, remainder, Int.cast_natCast, Int.cast_natCast, whole r (by omega)]
  obtain ⟨least, most⟩ := nanosBelow r below
  obtain ⟨lower, upper⟩ := sumBetween r fits least most
  have last : (n : ℚ) + 1 ≤ 65536 := by exact_mod_cast fits
  rw [same]
  exact ⟨wholeKept r fits least most, le_trans (Nat.cast_nonneg n) lower, lt_of_lt_of_le upper last⟩

theorem intervalKept (h : Host) {d : Int} (positive : 0 ≤ d) :
    ((toUint16 h (seconds h.round d)).toNat : Int) = d / second ↔ d < 65536 * second := by
  constructor
  · intro kept
    have bound := (toUint16 h (seconds h.round d)).toNat_lt
    rw [second] at kept ⊢
    omega
  · intro short
    rw [second] at short
    have parts : d = (d / second).toNat * second + (d % second).toNat := by rw [second]; omega
    have small : (d / second).toNat < 2 ^ 16 := by rw [second]; omega
    have below : (d % second).toNat < 1000000000 := by rw [second]; omega
    obtain ⟨floor, least, most⟩ := secondsBetween h.round small below
    rw [← parts] at floor least most
    have fits : 0 ≤ d / second := by rw [second]; omega
    rw [toUint16, if_pos ⟨least, most⟩, floor, Int.toNat_natCast, UInt16.toNat_ofNat', Nat.mod_eq_of_lt small]
    exact Int.toNat_of_nonneg fits

theorem byteKept {n : Nat} (small : n ≤ 255) : (UInt8.ofNat n).toNat = n := by
  rw [UInt8.toNat_ofNat', Nat.mod_eq_of_lt (by omega)]

theorem announced {x : UInt16} {d : Int} (long : second ≤ d) (kept : (x.toNat : Int) = d / second) : x ≠ 0 := by
  rintro rfl
  rw [second] at long kept
  simp only [UInt16.toNat_zero] at kept
  omega

theorem flagsRead (u m d p : Bool) :
    let flags := flagIf u flagUnicastRetransmit ||| flagIf m flagMulticastRetransmit |||
      flagIf d flagDraining ||| flagIf p flagHasParent
    decide (flags &&& flagHasParent ≠ 0) = p ∧ decide (flags &&& flagDraining ≠ 0) = d ∧
      decide (flags &&& flagUnicastRetransmit ≠ 0) = u ∧
      decide (flags &&& flagMulticastRetransmit ≠ 0) = m ∧ decide (flags &&& 0xFFE1 ≠ 0) = false := by
  cases u <;> cases m <;> cases d <;> cases p <;> decide

structure Wired (h : Host) (c : Config) (b : Beacon) : Prop where
  nackAddr : pickBeaconNACKAddr h c.beaconNACKAddr = some b.nackAddr
  nackPort : b.nackPort = UInt16.ofInt c.nackPort
  tier : b.tier = UInt8.ofNat c.beaconTier
  preference : b.preference = UInt8.ofNat c.beaconPreference
  interval : b.interval = c.beaconInterval
  flags : b.flags = flagIf c.beaconFlagsUnicast flagUnicastRetransmit |||
    flagIf c.beaconFlagsMulticast flagMulticastRetransmit |||
    flagIf c.beaconFlagsDraining flagDraining ||| flagIf c.proxyEnabled flagHasParent
  instanceID : b.instanceID = hashInstanceID h (instanceName h c)

section Sending
variable {h : Host} {c : Config} {b : Beacon}

theorem beaconWired (started : beaconConfig h c = some b) : Wired h c b := by
  unfold beaconConfig at started
  split at started <;> try contradiction
  simp only [Option.bind_eq_bind, Option.bind_eq_some_iff, Option.some.injEq] at started
  obtain ⟨ip, picked, w, -, -, -, rfl⟩ := started
  exact ⟨picked, rfl, rfl, rfl, rfl, rfl, rfl⟩

theorem newKept (accepted : Accepted h c) (wired : Wired h c b) : new b = b := by
  have long := accepted.interval
  have nonzero : b.interval ≠ 0 := by
    rw [wired.interval]
    rw [second] at long
    omega
  rw [new, if_neg nonzero]

theorem addrKept (accepted : Accepted h c) (wired : Wired h c b) : nackIP b = b.nackAddr := by
  rw [nackIP, to16Long (pickLong accepted wired.nackAddr), Option.getD_some]

theorem roundTripIff (accepted : Accepted h c) (wired : Wired h c b) :
    RoundTrip h c (buildADVERT h (new b)) ↔
      (0 ≤ c.nackPort ∧ c.nackPort < 65536) ∧ c.beaconInterval < 65536 * second := by
  have long := accepted.interval
  have positive : 0 ≤ c.beaconInterval := by rw [second] at long; omega
  rw [newKept accepted wired, ← portKept, ← intervalKept h positive]
  constructor
  · intro read
    have port := read.nackPort
    have interval := read.interval
    rw [parseBuilt] at port interval
    exact ⟨wired.nackPort ▸ port, wired.interval ▸ interval⟩
  · intro ⟨port, interval⟩
    obtain ⟨parent, draining, unicast, multicast, others⟩ := flagsRead c.beaconFlagsUnicast
      c.beaconFlagsMulticast c.beaconFlagsDraining c.proxyEnabled
    rw [← wired.flags] at parent draining unicast multicast others
    rw [← wired.nackPort] at port
    rw [← wired.interval] at interval
    constructor
    case size => exact buildADVERTLength
    all_goals rw [parseBuilt]
    case nackAddr => rw [addrKept accepted wired]; exact wired.nackAddr
    case nackPort => exact port
    case tier => rw [wired.tier]; exact byteKept (Nat.le_succ_of_le accepted.tier)
    case preference => rw [wired.preference]; exact byteKept accepted.preference
    case hasParent => exact parent
    case draining => exact draining
    case unicast => exact unicast
    case multicast => exact multicast
    case otherFlags => exact others
    case instanceID => exact wired.instanceID
    case interval => exact wired.interval ▸ interval
    case announced => exact announced (wired.interval ▸ long) interval

end Sending

/-- The ADVERT of an accepted configuration reads back as configured exactly when the
port is one and the interval's seconds fit the field. -/
theorem advertRoundTrip {h : Host} {c c' : Config} {b : Beacon} (loaded : load h c = .ok c')
    (started : beaconConfig h c' = some b) :
    RoundTrip h c' (buildADVERT h (new b)) ↔
      (0 ≤ c'.nackPort ∧ c'.nackPort < 65536) ∧ c'.beaconInterval < 65536 * second :=
  roundTripIff (loadAccepted loaded) (beaconWired started)

def lab : Host where
  parseIP text := if text = "fd20::41" then some ([0xFD, 0x20] ++ List.replicate 13 0 ++ [0x41]) else none
  durationString _ := ""
  crc32c _ := 0xDEADBEEF
  hostname := none
  ifaceAddrs := some []
  parseScope scope := scope ≠ .org
  ssmPrefix
    | .site => .ok 0xFF35
    | .org => .error "no SSM prefix"
    | .global => .ok 0xFF3E
  round := .none
  outOfRange x := UInt16.ofNat x.floor.toNat

def every (interval : Int) : Config :=
  ⟨9300, [], false, false, true, "asm-only", 0, 128, interval, "site", 0x05, false, true, false, "fd20::41"⟩

def everyBeacon (interval : Int) : Beacon :=
  ⟨[0xFD, 0x20] ++ List.replicate 13 0 ++ [0x41], 9300, 0, 128, interval, 0x05, 0x0010, 0xDEADBEEF⟩

theorem advertRoundTripMinute : RoundTrip lab (every (60 * second))
    (buildADVERT lab (new (everyBeacon (60 * second)))) :=
  (advertRoundTrip (c := every (60 * second)) rfl rfl).mpr (by decide)

/-- A beacon once a day is accepted, and announced as one every 20864 seconds. -/
theorem advertDaily : load lab (every (86400 * second)) = .ok (every (86400 * second)) ∧
    beaconConfig lab (every (86400 * second)) = some (everyBeacon (86400 * second)) ∧
    (parseADVERT (buildADVERT lab (new (everyBeacon (86400 * second))))).intervalSec = 20864 ∧
    ¬ RoundTrip lab (every (86400 * second)) (buildADVERT lab (new (everyBeacon (86400 * second)))) := by
  have loaded : load lab (every (86400 * second)) = .ok (every (86400 * second)) := rfl
  have started : beaconConfig lab (every (86400 * second)) = some (everyBeacon (86400 * second)) := rfl
  have accepted := loadAccepted loaded
  have wired := beaconWired started
  refine ⟨loaded, started, ?_, ?_⟩
  · rw [newKept accepted wired, parseBuilt]
    have day : seconds lab.round (everyBeacon (86400 * second)).interval = 86400 := by
      simp [seconds, lab, Rounding.none, everyBeacon, second]
    have low : toUint16 lab 86400 = 20864 := by
      rw [toUint16, if_neg (by norm_num)]
      decide
    rw [day]
    exact low
  · rw [roundTripIff accepted wired]
    decide

end RetryEndpoint.Advert
