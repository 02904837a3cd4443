import RetryEndpoint.LoadedRun

/-! Load is stable: a configuration that was loaded, written out as flags, loads as
itself. What Load brings into shape (letters, lists, numbers that stand for a default,
the lifetimes) is in that shape already, and no value it puts in fails a check of its
own. -/
namespace RetryEndpoint.Load
open BigEndian Texts Settings CommaLists Cache
open Advert (boundOk parseCompat)

section Printing

def decimal (n : Nat) : Bytes :=
  if n = 0 then [0x30] else (Nat.digits 10 n).reverse.map fun d => UInt8.ofNat (d + 0x30)

theorem digitPrinted : ∀ d < 10, numeral (UInt8.ofNat (d + 0x30)) = d ∧
    GroupID.decimalDigit (UInt8.ofNat (d + 0x30)) = true := by
  decide

theorem decimalDigits (n : Nat) : ∀ c ∈ decimal n, GroupID.decimalDigit c = true := by
  intro c mem
  unfold decimal at mem
  split at mem
  · rw [List.mem_singleton.mp mem]
    decide
  · obtain ⟨d, inside, rfl⟩ := List.mem_map.mp mem
    exact (digitPrinted d (Nat.digits_lt_base (by decide) (List.mem_reverse.mp inside))).2

theorem decimalValue (n : Nat) : value 10 (decimal n) = n := by
  unfold decimal
  split
  · rename_i zero
    rw [zero]
    decide
  · have same : ((Nat.digits 10 n).reverse.map fun d => UInt8.ofNat (d + 0x30)).map numeral =
        (Nat.digits 10 n).reverse := by
      rw [List.map_map, List.map_congr_left fun d mem => ?_, List.map_id']
      exact (digitPrinted d (Nat.digits_lt_base (by decide) (List.mem_reverse.mp mem))).1
    rw [value, same, List.reverse_reverse, Nat.ofDigits_digits]

theorem decimalSome (n : Nat) : decimal n ≠ [] := by
  unfold decimal
  split
  · exact List.cons_ne_nil _ _
  · rename_i positive
    simp [Nat.digits_ne_nil_iff_ne_zero.mpr positive]

theorem whiteNoDigit : ∀ w ∈ whiteSpace, ∃ c ∈ w, GroupID.decimalDigit c = false := by decide

theorem decimalTrimmed (n : Nat) : trimSpace (decimal n) = decimal n := by
  have none : ∀ w ∈ whiteSpace, ¬ w ⊆ decimal n := by
    intro w white inside
    obtain ⟨c, mem, other⟩ := whiteNoDigit w white
    rw [decimalDigits n c (inside mem)] at other
    cases other
  exact trimClean (fun w white starts => none w white starts.subset) (fun w white ends => none w white ends.subset)

theorem groupIDPrinted (id : UInt16) : readGroupID (decimal id.toNat) = .ok id := by
  have small : id.toNat ≤ 65535 := Nat.le_of_lt_succ id.toNat_lt
  have numeral : GroupID.Numeral (decimal id.toNat) id.toNat := by
    have printed := GroupID.Numeral.decimal (decimalSome id.toNat) (decimalDigits id.toNat)
      (by rw [decimalValue]; exact small)
    rwa [decimalValue] at printed
  have read : (parseGroupID (decimal id.toNat)).map UInt16.toNat = .ok id.toNat := by
    rw [GroupID.parsedIff (by rw [decimalTrimmed]; exact decimalSome _), decimalTrimmed,
      GroupID.numeralIff (decimalSome _)]
    exact numeral
  rw [readGroupID, mappedOk]
  cases parsed : parseGroupID (decimal id.toNat) with
  | error err => rw [parsed] at read; cases read
  | ok found =>
    rw [parsed] at read
    have same : found.toNat = id.toNat := by simpa [Except.map] using read
    rw [UInt16.toNat_inj.mp same]

end Printing

section Rendering

def Mode.text : Mode → Bytes
  | .asm => utf8 "asm"
  | .ssm => utf8 "ssm"

def Backend.text : Backend → Bytes
  | .memory => utf8 "memory"
  | .redis => utf8 "redis"
  | .aerospike => utf8 "aerospike"

def render (printed : AddrPort → Bytes) (c : Config) : Flags where
  ttl := ⟨c.cacheTTL, c.ttls, true, true, true, true, true⟩
  ingress := {
    listenPort := c.listenPort
    teeListen := (c.teeListen.map printed).getD []
    mcJoinEnabled := c.mcJoinEnabled
    ingressWorkers := c.numWorkers
    ingressQueueDepth := c.queueDepth
    ingressProcs := c.ingressProcs
    subtreeDataEnabled := c.subtreeDataEnabled
    beefEnabled := c.beefEnabled
    beefShardBits := c.beefShardBits
    shardBits := c.shardBits }
  source := {
    scope := c.mcScope
    mcGroupID := decimal c.mcGroupID.toNat
    sourceMode := c.sourceMode.text
    bindSource := c.bindSource
    ssmBootstrapManifest := joined c.ssmBootstrapManifest
    ssmBootstrapBeacon := joined c.ssmBootstrapBeacon
    ssmBootstrapSubtreeAnnounce := joined c.ssmBootstrapSubtreeAnn
    ssmPublishersStatic := joined c.ssmPublishersStatic
    ssmBootstrapRefresh := c.ssmBootstrapRefresh }
  serve := {
    cacheBackend := c.cacheBackend.text
    redisAddr := c.redisAddr
    aerospikeHosts := joined c.aeroHosts
    nackWorkers := c.nackWorkers
    egressIface := joined c.egressIfaces
    proxyEnabled := c.proxyEnabled
    upstreamRetryEndpoints := joined c.upstreamRetryEndpoints
    proxyTimeout := c.proxyTimeout
    proxyMaxEndpoints := c.proxyMaxEndpoints
    proxyDedupWindow := c.proxyDedupWindow
    proxyWorkers := c.proxyWorkers
    proxyQueue := c.proxyQueue }
  beacon := {
    nackPort := c.beacon.nackPort
    instanceID := c.beacon.instanceID
    beaconEnabled := c.beacon.beaconEnabled
    beaconTier := c.beacon.beaconTier
    beaconPreference := c.beacon.beaconPreference
    beaconInterval := c.beacon.beaconInterval
    beaconScope := c.beacon.beaconScope
    controlGroupCompat := utf8 c.beacon.controlGroupCompat
    beaconFlagsUnicast := c.beacon.beaconFlagsUnicast
    beaconFlagsMulticast := c.beacon.beaconFlagsMulticast
    beaconFlagsDraining := c.beacon.beaconFlagsDraining
    nackAddr := c.beacon.beaconNACKAddr }

/- The standard library prints the tee's address as it reads it, and leaves small letters
small. -/
structure Prints (h : Host) (printed : AddrPort → Bytes) (tee : Option AddrPort) : Prop where
  some : ∀ ap, tee = .some ap → printed ap ≠ []
  back : ∀ ap, tee = .some ap → h.parseAddrPort (printed ap) = .ok ap
  small : ∀ word ∈ ["asm", "ssm", "asm-only", "both", "derived"], h.toLower (utf8 word) = utf8 word

variable {h : Host} {printed : AddrPort → Bytes} {tee : Option AddrPort} {f : Flags} {found : Findings}

theorem splitIs (s : Bytes) : splitCSV s = tokens s := by
  unfold splitCSV
  split
  · rename_i empty
    subst empty
    decide
  · rfl

theorem splitStable (s : Bytes) : splitCSV (joined (splitCSV s)) = splitCSV s := by
  rw [splitIs, splitIs, tokensStable]

theorem resolvedAgain (prints : Prints h printed tee) {f : SourceFlags} {mode : Mode} {bits : UInt16}
    (ok : resolvePrefix h f = .ok (mode, bits)) {g : SourceFlags} (scope : g.scope = f.scope)
    (word : g.sourceMode = mode.text) : resolvePrefix h g = .ok (mode, bits) := by
  have differ : utf8 "ssm" ≠ utf8 "asm" := by decide
  unfold resolvePrefix at ok ⊢
  rw [word, scope]
  split at ok
  · split at ok
    · cases ok
    · cases ok
      rw [Mode.text, prints.small "asm" (by simp), if_pos rfl]
  · split at ok
    · obtain ⟨scope, parsed, ok⟩ := boundOk ok
      obtain ⟨bits, given, ok⟩ := boundOk ok
      cases ok
      rw [Mode.text, prints.small "ssm" (by simp), if_neg differ, if_pos rfl, parsed]
      simp only [bind, Except.bind, given]
    · cases ok

theorem teeAgain (prints : Prints h printed tee) {given : Bytes}
    (ok : readTee h given = .ok tee) : readTee h ((tee.map printed).getD []) = .ok tee := by
  cases tee with
  | none => rfl
  | some ap =>
    simp only [readTee] at ok
    split at ok
    · cases ok
    · obtain ⟨read, -, ok⟩ := boundOk ok
      split at ok <;> try contradiction
      split at ok <;> try contradiction
      rename_i loops port
      cases ok
      simp only [Option.map_some, Option.getD_some, readTee, if_neg (prints.some ap rfl), prints.back ap rfl, bind, Except.bind,
        Except.mapError, if_neg loops, if_neg port]

theorem egressAgain {given : Bytes} {names : List Bytes} (ok : readEgress h given = .ok names) :
    readEgress h (joined names) = .ok names := by
  obtain ⟨rfl, some, all⟩ := egressFound ok
  have checked : checkEach (fun name => (h.interfaceByName name).mapError (LoadError.egressIface name))
      (tokens given) = .ok () := eachPassed.mpr fun name mem => mappedOk.mpr (all name mem)
  simp only [readEgress, tokensStable, checked, bind, Except.bind, if_neg some]

theorem listsAgain (f g : SourceFlags) (manifest : splitCSV g.ssmBootstrapManifest = splitCSV f.ssmBootstrapManifest)
    (beacon : splitCSV g.ssmBootstrapBeacon = splitCSV f.ssmBootstrapBeacon)
    (announce : splitCSV g.ssmBootstrapSubtreeAnnounce = splitCSV f.ssmBootstrapSubtreeAnnounce)
    (static : splitCSV g.ssmPublishersStatic = splitCSV f.ssmPublishersStatic)
    (bind : g.bindSource = f.bindSource) (mode : Mode) : checkSSM h g mode = checkSSM h f mode := by
  cases mode with
  | asm => rfl
  | ssm => simp only [checkSSM, checkLists, manifest, beacon, announce, static, bind]

theorem backendAgain {f g : ServeFlags} {backend : Backend} (ok : readBackend f = .ok backend)
    (word : g.cacheBackend = backend.text) (redis : g.redisAddr = f.redisAddr)
    (hosts : tokens g.aerospikeHosts = tokens f.aerospikeHosts) : readBackend g = .ok backend := by
  have words : utf8 "redis" ≠ utf8 "memory" ∧ utf8 "aerospike" ≠ utf8 "memory" ∧
      utf8 "aerospike" ≠ utf8 "redis" := by decide
  unfold readBackend at ok ⊢
  rw [word, redis, hosts]
  split at ok
  · cases ok
    rfl
  · split at ok
    · split at ok <;> try contradiction
      rename_i given
      cases ok
      rw [Backend.text, if_neg words.1, if_pos rfl, if_neg given]
    · split at ok <;> try contradiction
      split at ok <;> try contradiction
      rename_i given
      cases ok
      rw [Backend.text, if_neg words.2.1, if_neg words.2.2, if_pos rfl, if_neg given]

theorem proxyAgain {f g : ServeFlags} {workers : Int} (ok : readProxy h f = .ok workers)
    (enabled : g.proxyEnabled = f.proxyEnabled)
    (upstreams : splitCSV g.upstreamRetryEndpoints = splitCSV f.upstreamRetryEndpoints)
    (timeout : g.proxyTimeout = f.proxyTimeout) (most : g.proxyMaxEndpoints = f.proxyMaxEndpoints)
    (queue : g.proxyQueue = f.proxyQueue) (same : g.proxyWorkers = workers) : readProxy h g = .ok workers := by
  cases on : f.proxyEnabled with
  | false => simp only [readProxy, enabled, on, Bool.false_eq_true, if_false, same]
  | true =>
    have positive := (proxyRead ok on).2
    rw [readProxy, if_pos on] at ok
    obtain ⟨_, checked, -⟩ := boundOk ok
    have again : checkProxy h g = checkProxy h f := by
      simp only [checkProxy, upstreams, timeout, most, queue]
    rw [readProxy, if_pos (enabled.trans on), again, checked, same]
    simp only [bind, Except.bind, if_neg (Int.not_le.mpr positive)]

theorem compatWords {s : String} {compat : Advert.Compat} (parsed : parseCompat s = some compat) :
    s = "asm-only" ∨ s = "both" ∨ s = "derived" := by
  unfold parseCompat at parsed
  split at parsed
  · exact .inl rfl
  · exact .inr (.inl rfl)
  · exact .inr (.inr rfl)
  · cases parsed

theorem compatAgain (prints : Prints h printed tee) {s : String} {compat : Advert.Compat}
    (parsed : parseCompat s = some compat) : text (h.toLower (trimSpace (utf8 s))) = s := by
  have trims : ∀ word ∈ ["asm-only", "both", "derived"], trimSpace (utf8 word) = utf8 word := by decide
  have word : s ∈ ["asm-only", "both", "derived"] := by simpa using compatWords parsed
  have small : h.toLower (utf8 s) = utf8 s := prints.small s (List.mem_append_right ["asm", "ssm"] word)
  rw [trims s word, small, textUtf8]

theorem beaconLoaded {hb : Advert.Host} {c c' : Advert.Config} (ok : Advert.load hb c = .ok c') :
    ∃ w, Advert.words c = .ok w ∧ c' = { c with beaconScopeByte := w.scope.byte } := by
  rw [Advert.load] at ok
  obtain ⟨w, read, ok⟩ := boundOk ok
  obtain ⟨-, -, ok⟩ := boundOk ok
  obtain ⟨-, -, ok⟩ := boundOk ok
  obtain ⟨-, -, ok⟩ := boundOk ok
  cases ok
  exact ⟨w, read, rfl⟩

theorem beaconAgain (prints : Prints h printed tee) (passed : Passed h f found) :
    beaconPart h (render printed (assemble h f found)) found.mode = beaconPart h f found.mode := by
  obtain ⟨w, read, same⟩ := beaconLoaded passed.beacon
  have word : ∃ compat, parseCompat (beaconPart h f found.mode).controlGroupCompat = some compat := by
    simp only [Advert.words] at read
    split at read <;> try contradiction
    split at read <;> try contradiction
    rename_i compat parsed
    exact ⟨compat, parsed⟩
  obtain ⟨compat, parsed⟩ := word
  have kept := compatAgain prints parsed
  simp only [beaconPart, render, assemble, same] at kept ⊢
  rw [kept]

end Rendering

/-- A loaded configuration, written out as flags, is loaded as itself. -/
theorem loadStable {h : Host} {printed : AddrPort → Bytes} {f : Flags} {c : Config} (ok : load h f = .ok c)
    (prints : Prints h printed c.teeListen) : load h (render printed c) = .ok c := by
  obtain ⟨found, passed, rfl⟩ := loadPassed ok
  have again : Passed h (render printed (assemble h f found)) found := by
    constructor
    case shards => exact passed.shards
    case resolved => exact resolvedAgain prints passed.resolved rfl rfl
    case refresh => exact passed.refresh
    case ssm =>
      exact (listsAgain f.source (render printed (assemble h f found)).source (splitStable _) (splitStable _)
        (splitStable _) (splitStable _) rfl found.mode).trans passed.ssm
    case groupID => exact groupIDPrinted found.mcGroupID
    case tee => exact teeAgain prints passed.tee
    case fed => exact passed.fed
    case backend => exact backendAgain passed.backend rfl rfl (tokensStable _)
    case ttls => exact passed.ttls
    case pipeline => exact passed.pipeline
    case egress => exact egressAgain passed.egress
    case proxy => exact proxyAgain passed.proxy rfl (splitStable _) rfl rfl rfl rfl
    case beacon => exact (congrArg _ (beaconAgain prints passed)).trans passed.beacon
  rw [passedLoads again]
  have workers : ingressWorkers h (ingressWorkers h f.ingress.ingressWorkers) =
      ingressWorkers h f.ingress.ingressWorkers := by
    simp only [ingressWorkers]
    split <;> simp_all
  have answers : nackWorkers h (nackWorkers h f.serve.nackWorkers) = nackWorkers h f.serve.nackWorkers := by
    have cpus := h.cpus
    simp only [nackWorkers]
    split <;> simp_all
  simp only [assemble, render, splitStable, tokensStable, workers, answers]
  rfl

theorem loadStableUntidy : ∃ f c, parseFlags labReaders untidy 4 = some f ∧ load labHost f = .ok c ∧
    render (fun _ => utf8 "[::1]:9002") c ≠ f ∧ load labHost (render (fun _ => utf8 "[::1]:9002") c) = .ok c := by
  obtain ⟨f, c, parsed, ok, tee, other⟩ : ∃ f c, parseFlags labReaders untidy 4 = some f ∧ load labHost f = .ok c ∧
    c.teeListen = some ⟨loopback6, [], 9002⟩ ∧ render (fun _ => utf8 "[::1]:9002") c ≠ f :=
      ⟨_, _, rfl, rfl, rfl, by decide⟩
  have prints : Prints labHost (fun _ => utf8 "[::1]:9002") c.teeListen := by
    rw [tee]
    constructor
    case some => exact fun _ _ => by decide
    case back =>
      intro ap given
      cases given
      rfl
    case small => decide
  exact ⟨f, c, parsed, ok, other, loadStable ok prints⟩

end RetryEndpoint.Load
