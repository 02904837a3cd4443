import RetryEndpoint.Advert
import RetryEndpoint.OwnSource
import RetryEndpoint.Runs

/-! The beacon: which groups a configuration advertises into, and Sender.Run from the
dials to its return. Two configurations can be set apart in -control-group-compat and
-beacon-scope during a rollout; whether they still meet is settled here for every pair.
The write of one connection is one step, so a run can be looked at in the middle of a
round. -/
namespace RetryEndpoint.BeaconRun
open BigEndian Wire Advert Runs
open OwnSource (groupBeacon)

abbrev GroupAddr := UInt16 → UInt16 → UInt16 → Bytes

structure Sender where
  beacon : Beacon
  groupID : UInt16
  groupPrefixes : List UInt16
  deriving DecidableEq, Repr

/- main's second call of BeaconGroupPrefixes; an error of it ends run. -/
def sender (h : Host) (c : Config) (mcGroupID : UInt16) : Option Sender := do
  let b ← beaconConfig h c
  let w ← (words c).toOption
  let groupPrefixes ← (beaconGroupPrefixes h w.compat c.ssm w.scope).toOption
  some ⟨new b, mcGroupID, groupPrefixes⟩

def legacyASMPrefixes (scope : UInt8) : List UInt16 :=
  (if scope = 0x05 ∨ scope = 0xFF then [0xFF05] else []) ++
    (if scope = 0x08 ∨ scope = 0xFF then [0xFF08] else []) ++
    (if scope = 0x0E ∨ scope = 0xFF then [0xFF0E] else [])

def beaconPort : Nat := 9300

def groupAt (addr : GroupAddr) (s : Sender) (bits : UInt16) : UDPAddr :=
  ⟨addr bits s.groupID groupBeacon, beaconPort⟩

def beaconGroups (addr : GroupAddr) (s : Sender) : List UDPAddr :=
  let resolved := if s.groupPrefixes = [] then legacyASMPrefixes s.beacon.scope else s.groupPrefixes
  resolved.map (groupAt addr s)

inductive Ending where
  | disabled
  | noneDialled
  | stopped
  deriving DecidableEq, Repr

inductive Phase where
  | dialing (left : List UDPAddr)
  | sending (left : List UDPAddr)
  | waiting
  | returned (why : Ending)
  deriving DecidableEq, Repr

structure Write where
  dest : UDPAddr
  data : Bytes
  ok : Bool
  deriving DecidableEq, Repr

/- sent is in the order of the writes; adverts is the recorder's counter, rounds the
calls of send. -/
structure State where
  phase : Phase
  conns : List UDPAddr
  sent : List Write
  adverts : Nat
  rounds : Nat
  cancelled : Bool
  deriving DecidableEq, Repr

inductive Action where
  | dial (ok : Bool)
  | opened
  | write (ok : Bool)
  | tick
  | cancel
  | stop
  deriving DecidableEq, Repr

def init (addr : GroupAddr) (s : Sender) : State :=
  ⟨if beaconGroups addr s = [] then .returned .disabled else .dialing (beaconGroups addr s),
    [], [], 0, 0, false⟩

def Phase.afterWrite : List UDPAddr → Phase
  | [] => .waiting
  | left => .sending left

def State.send (st : State) : State :=
  { st with phase := .afterWrite st.conns, rounds := st.rounds + 1 }

def step (buf : Bytes) (st : State) : Action → Option State
  | .dial ok =>
    match st.phase with
    | .dialing (group :: left) =>
      some { st with phase := .dialing left, conns := if ok then st.conns ++ [group] else st.conns }
    | _ => none
  | .opened =>
    if st.phase = .dialing [] then
      some (if st.conns = [] then { st with phase := .returned .noneDialled } else st.send)
    else none
  | .write ok =>
    match st.phase with
    | .sending (conn :: left) =>
      some { st with
        phase := .afterWrite left
        sent := st.sent ++ [⟨conn, buf, ok⟩]
        adverts := if ok then st.adverts + 1 else st.adverts }
    | _ => none
  | .tick => if st.phase = .waiting then some st.send else none
  | .cancel => some { st with cancelled := true }
  | .stop =>
    if st.phase = .waiting ∧ st.cancelled = true then some { st with phase := .returned .stopped } else none

section Resolving
variable {h : Host} {compat : Compat} {ssm : Bool} {name : ScopeName} {out ps resolved : List UInt16}

def InScope (h : Host) (compat : Compat) (ssm : Bool) (name : ScopeName) (p : UInt16) : Prop :=
  ∃ ps, controlGroupPrefixes h compat ssm name = .ok ps ∧ p ∈ ps

theorem memAppendNew {p q : UInt16} : p ∈ appendNew out q ↔ p ∈ out ∨ p = q := by
  simp only [appendNew]
  split
  · rename_i old
    exact ⟨.inl, fun either => either.elim id (· ▸ old)⟩
  · simp

theorem nodupAppendNew {q : UInt16} (nodup : out.Nodup) : (appendNew out q).Nodup := by
  simp only [appendNew]
  split
  · exact nodup
  · rename_i fresh
    exact nodup.append (List.nodup_singleton q) (by simpa using fresh)

theorem memAppendAll {p : UInt16} : p ∈ ps.foldl appendNew out ↔ p ∈ out ∨ p ∈ ps := by
  induction ps generalizing out with
  | nil => simp
  | cons q rest ih => rw [List.foldl_cons, ih, memAppendNew, List.mem_cons, or_assoc]

theorem nodupAppendAll (nodup : out.Nodup) : (ps.foldl appendNew out).Nodup := by
  induction ps generalizing out with
  | nil => exact nodup
  | cons q rest ih => exact ih (nodupAppendNew nodup)

theorem resolveNames {names : List ScopeName}
    (ok : names.foldlM
      (fun out name => (controlGroupPrefixes h compat ssm name).map (·.foldl appendNew out)) out = .ok resolved) :
    (∀ p, p ∈ resolved ↔ p ∈ out ∨ ∃ name ∈ names, InScope h compat ssm name p) ∧
      (out.Nodup → resolved.Nodup) ∧
      ∀ name ∈ names, ∃ ps, controlGroupPrefixes h compat ssm name = .ok ps := by
  induction names generalizing out with
  | nil =>
    cases ok
    simp
  | cons name rest ih =>
    rw [List.foldlM_cons] at ok
    obtain ⟨next, added, ok⟩ := boundOk ok
    cases here : controlGroupPrefixes h compat ssm name with
    | error e => rw [here] at added; cases added
    | ok ps =>
      rw [here] at added
      cases added
      obtain ⟨members, distinct, resolves⟩ := ih ok
      refine ⟨fun p => ?_, fun nodup => distinct (nodupAppendAll nodup), ?_⟩
      · have first : InScope h compat ssm name p ↔ p ∈ ps := by simp [InScope, here]
        rw [members, memAppendAll, List.exists_mem_cons_iff, first, or_assoc]
      · intro other mem
        rcases List.mem_cons.mp mem with rfl | mem
        · exact ⟨ps, here⟩
        · exact resolves other mem

theorem derivedCases {d : UInt16} (ok : derivedPrefix h compat ssm name = .ok d) :
    (ssm = true ∧ h.parseScope name = true ∧ h.ssmPrefix name = .ok d) ∨
      (d = scopes name ∧ (ssm = true → h.parseScope name = false ∧ compat ≠ .derived)) := by
  simp only [derivedPrefix] at ok
  split at ok
  · rename_i specific
    split at ok
    · rename_i known
      cases given : h.ssmPrefix name with
      | error e => rw [given] at ok; cases ok
      | ok q => rw [given] at ok; cases ok; exact .inl ⟨specific, known, rfl⟩
    · rename_i unknown
      split at ok <;> try contradiction
      rename_i lenient
      cases ok
      exact .inr ⟨rfl, fun _ => ⟨by simpa using unknown, lenient⟩⟩
  · rename_i anySource
    cases ok
    exact .inr ⟨rfl, fun specific => absurd specific anySource⟩

theorem scopeCases (ok : controlGroupPrefixes h compat ssm name = .ok ps) :
    (compat = .asmOnly ∧ ps = [scopes name]) ∨
      (compat ≠ .asmOnly ∧ ∃ d, derivedPrefix h compat ssm name = .ok d ∧
        ∀ p, p ∈ ps ↔ (p = scopes name ∧ compat ≠ .derived) ∨ p = d) := by
  simp only [controlGroupPrefixes] at ok
  split at ok
  · rename_i fixed
    cases ok
    exact .inl ⟨fixed, rfl⟩
  · rename_i asked
    obtain ⟨d, derived, ok⟩ := boundOk ok
    cases ok
    refine .inr ⟨asked, d, derived, fun p => ?_⟩
    split
    · rename_i single
      rcases single with strict | same
      · simp [strict]
      · rw [same, List.mem_singleton]
        exact ⟨.inr, fun either => either.elim And.left id⟩
    · rename_i two
      rw [not_or] at two
      simp [two.1]

theorem inScopeIff {p : UInt16} (resolves : ∃ ps, controlGroupPrefixes h compat ssm name = .ok ps) :
    InScope h compat ssm name p ↔
      (p = scopes name ∧ (compat ≠ .derived ∨ ssm = false)) ∨
        (h.ssmPrefix name = .ok p ∧ h.parseScope name = true ∧ compat ≠ .asmOnly ∧ ssm = true) := by
  obtain ⟨ps, ok⟩ := resolves
  have here : InScope h compat ssm name p ↔ p ∈ ps := by simp [InScope, ok]
  rw [here]
  rcases scopeCases ok with ⟨rfl, rfl⟩ | ⟨asked, d, derived, members⟩
  · simp
  · rw [members]
    rcases derivedCases derived with ⟨specific, known, given⟩ | ⟨rfl, lenient⟩
    · simp [specific, known, given, asked, eq_comm]
    · cases ssm with
      | false =>
        simp only [or_true, and_true, Bool.false_eq_true, and_false, or_false]
        exact ⟨fun either => either.elim And.left id, .inr⟩
      | true =>
        obtain ⟨unknown, lenient⟩ := lenient rfl
        simp [unknown, lenient]

end Resolving

structure Setting where
  compat : Compat
  ssm : Bool
  scope : BeaconScope
  deriving DecidableEq, Repr

def Setting.groupPrefixes (h : Host) (a : Setting) : Except LoadError (List UInt16) :=
  beaconGroupPrefixes h a.compat a.ssm a.scope

def Setting.anySource (a : Setting) : Bool := a.compat ≠ .derived || !a.ssm

def Setting.sourceSpecific (a : Setting) : Bool := a.compat ≠ .asmOnly && a.ssm

/- The shard package's source-specific prefixes differ by scope and from the any-source ones. -/
structure PrefixesApart (h : Host) : Prop where
  scopes : ∀ name other p, h.ssmPrefix name = .ok p → p ≠ scopes other
  names : ∀ name other p, h.ssmPrefix name = .ok p → h.ssmPrefix other = .ok p → name = other

theorem scopesInj {name other : ScopeName} (same : scopes name = scopes other) : name = other := by
  cases name <;> cases other <;> first | rfl | cases same

section Meeting
variable {h : Host} {a b : Setting} {sent heard : List UInt16} {name other : ScopeName} {p : UInt16}

theorem memPrefixes (ok : a.groupPrefixes h = .ok sent) :
    p ∈ sent ↔ ∃ name ∈ beaconScopeNames a.scope,
      (p = scopes name ∧ a.anySource = true) ∨
        (h.ssmPrefix name = .ok p ∧ h.parseScope name = true ∧ a.sourceSpecific = true) := by
  obtain ⟨members, -, resolves⟩ := resolveNames ok
  rw [members]
  simp only [List.not_mem_nil, false_or]
  refine exists_congr fun name => and_congr_right fun mem => ?_
  rw [inScopeIff (resolves name mem)]
  simp [Setting.anySource, Setting.sourceSpecific]

theorem notAnySource (specific : a.anySource = false) : a.compat = .derived ∧ a.ssm = true := by
  simpa [Setting.anySource] using specific

theorem derivedKnown (ok : a.groupPrefixes h = .ok sent) (mem : name ∈ beaconScopeNames a.scope)
    (specific : a.anySource = false) : ∃ p, h.ssmPrefix name = .ok p ∧ h.parseScope name = true := by
  obtain ⟨-, -, resolves⟩ := resolveNames ok
  obtain ⟨ps, here⟩ := resolves name mem
  obtain ⟨derives, mode⟩ := notAnySource specific
  rcases scopeCases here with ⟨fixed, -⟩ | ⟨-, d, derived, -⟩
  · rw [derives] at fixed
    cases fixed
  · rcases derivedCases derived with ⟨-, known, given⟩ | ⟨-, lenient⟩
    · exact ⟨d, given, known⟩
    · exact absurd derives (lenient mode).2

end Meeting

theorem labApart : PrefixesApart lab where
  scopes name other p given := by
    cases name <;> cases given <;> cases other <;> decide
  names name other p given given' := by
    cases name <;> cases given <;> cases other <;> first | rfl | cases given'

/-- Two configurations have a beacon group in common exactly when their scopes share a
name and both use the any-source form of it or both the source-specific one. -/
theorem groupsMeetIff {h : Host} (apart : PrefixesApart h) {a b : Setting} {sent heard : List UInt16}
    (tx : a.groupPrefixes h = .ok sent) (rx : b.groupPrefixes h = .ok heard) :
    (∃ p ∈ sent, p ∈ heard) ↔
      (∃ name ∈ beaconScopeNames a.scope, name ∈ beaconScopeNames b.scope) ∧
        ((a.anySource = true ∧ b.anySource = true) ∨ (a.sourceSpecific = true ∧ b.sourceSpecific = true)) := by
  constructor
  · rintro ⟨p, inSent, inHeard⟩
    obtain ⟨name, mem, form⟩ := (memPrefixes tx).mp inSent
    obtain ⟨other, mem', form'⟩ := (memPrefixes rx).mp inHeard
    rcases form with ⟨rfl, any⟩ | ⟨given, -, specific⟩
    · rcases form' with ⟨same, any'⟩ | ⟨given', -, -⟩
      · exact ⟨⟨name, mem, scopesInj same ▸ mem'⟩, .inl ⟨any, any'⟩⟩
      · exact absurd rfl (apart.scopes other name _ given')
    · rcases form' with ⟨rfl, -⟩ | ⟨given', -, specific'⟩
      · exact absurd rfl (apart.scopes name other _ given)
      · exact ⟨⟨name, mem, apart.names name other p given given' ▸ mem'⟩, .inr ⟨specific, specific'⟩⟩
  · rintro ⟨⟨name, mem, mem'⟩, ⟨any, any'⟩ | ⟨specific, specific'⟩⟩
    · exact ⟨scopes name, (memPrefixes tx).mpr ⟨name, mem, .inl ⟨rfl, any⟩⟩,
        (memPrefixes rx).mpr ⟨name, mem', .inl ⟨rfl, any'⟩⟩⟩
    · -- a source-specific group is sure to exist only where one side insists on it
      have insisted : (a.anySource = true ∧ b.anySource = true) ∨
          ∃ p, h.ssmPrefix name = .ok p ∧ h.parseScope name = true := by
        cases any : a.anySource with
        | false => exact .inr (derivedKnown tx mem any)
        | true =>
          cases any' : b.anySource with
          | false => exact .inr (derivedKnown rx mem' any')
          | true => exact .inl ⟨rfl, rfl⟩
      rcases insisted with ⟨any, any'⟩ | ⟨p, given, known⟩
      · exact ⟨scopes name, (memPrefixes tx).mpr ⟨name, mem, .inl ⟨rfl, any⟩⟩,
          (memPrefixes rx).mpr ⟨name, mem', .inl ⟨rfl, any'⟩⟩⟩
      · exact ⟨p, (memPrefixes tx).mpr ⟨name, mem, .inr ⟨given, known, specific⟩⟩,
          (memPrefixes rx).mpr ⟨name, mem', .inr ⟨given, known, specific'⟩⟩⟩

theorem groupsMeetIffRollout :
    (¬ ∃ p ∈ [(0xFF05 : UInt16)], p ∈ [(0xFF35 : UInt16)]) ∧
      ∃ p ∈ [(0xFF05 : UInt16), 0xFF35, 0xFF08, 0xFF0E, 0xFF3E], p ∈ [(0xFF35 : UInt16)] := by
  have old : (⟨.asmOnly, true, .site⟩ : Setting).groupPrefixes lab = .ok [0xFF05] := rfl
  have between : (⟨.both, true, .all⟩ : Setting).groupPrefixes lab = .ok [0xFF05, 0xFF35, 0xFF08, 0xFF0E, 0xFF3E] :=
    rfl
  have derived : (⟨.derived, true, .site⟩ : Setting).groupPrefixes lab = .ok [0xFF35] := rfl
  exact ⟨fun meet => absurd ((groupsMeetIff labApart old derived).mp meet).2 (by decide),
    (groupsMeetIff labApart between derived).mpr ⟨⟨.site, by decide, by decide⟩, by decide⟩⟩

def Phase.undialled : Phase → List UDPAddr
  | .dialing left => left
  | _ => []

def Phase.unsent : Phase → List UDPAddr
  | .sending left => left
  | _ => []

@[simp] theorem unsentAfter (left : List UDPAddr) : (Phase.afterWrite left).unsent = left := by
  cases left <;> rfl

@[simp] theorem undialledAfter (left : List UDPAddr) : (Phase.afterWrite left).undialled = [] := by
  cases left <;> rfl

theorem afterWriteRuns {left : List UDPAddr} :
    (∀ rest, Phase.afterWrite left ≠ .dialing rest) ∧ ∀ why, Phase.afterWrite left ≠ .returned why := by
  cases left <;> exact ⟨nofun, nofun⟩

inductive Took (buf : Bytes) (st : State) : Action → State → Prop where
  | dial {group left} (ok) (phase : st.phase = .dialing (group :: left)) :
      Took buf st (.dial ok)
        { st with phase := .dialing left, conns := if ok then st.conns ++ [group] else st.conns }
  | noneDialled (phase : st.phase = .dialing []) :
      Took buf st .opened { st with phase := .returned .noneDialled }
  | opened (phase : st.phase = .dialing []) : Took buf st .opened st.send
  | write {conn left} (ok) (phase : st.phase = .sending (conn :: left)) :
      Took buf st (.write ok)
        { st with
          phase := .afterWrite left
          sent := st.sent ++ [⟨conn, buf, ok⟩]
          adverts := if ok then st.adverts + 1 else st.adverts }
  | tick (phase : st.phase = .waiting) : Took buf st .tick st.send
  | cancel : Took buf st .cancel { st with cancelled := true }
  | stop (phase : st.phase = .waiting) : Took buf st .stop { st with phase := .returned .stopped }

section Running
variable {addr : GroupAddr} {s : Sender} {groups : List UDPAddr} {buf : Bytes} {st st' : State} {a : Action}

theorem stepTook (ok : step buf st a = some st') : Took buf st a st' := by
  cases a with
  | dial ok' =>
    simp only [step] at ok
    split at ok <;> try contradiction
    rename_i phase
    cases Option.some.inj ok
    exact .dial ok' phase
  | opened =>
    simp only [step] at ok
    split at ok <;> try contradiction
    rename_i phase
    cases Option.some.inj ok
    split
    · exact .noneDialled phase
    · exact .opened phase
  | write ok' =>
    simp only [step] at ok
    split at ok <;> try contradiction
    rename_i phase
    cases Option.some.inj ok
    exact .write ok' phase
  | tick =>
    simp only [step] at ok
    split at ok <;> try contradiction
    rename_i phase
    cases Option.some.inj ok
    exact .tick phase
  | cancel =>
    cases Option.some.inj ok
    exact .cancel
  | stop =>
    simp only [step] at ok
    split at ok <;> try contradiction
    rename_i may
    cases Option.some.inj ok
    exact .stop may.1

structure Sound (groups : List UDPAddr) (buf : Bytes) (st : State) : Prop where
  dialled : (st.conns ++ st.phase.undialled).Sublist groups
  early : ∀ left, st.phase = .dialing left → st.rounds = 0
  inRounds : st.sent.map Write.dest ++ st.phase.unsent = (List.replicate st.rounds st.conns).flatten
  owed : st.phase.unsent.Sublist st.conns
  data : ∀ w ∈ st.sent, w.data = buf
  counted : st.adverts = st.sent.countP Write.ok
  enabled : st.phase ≠ .returned .disabled

theorem initSound (some : beaconGroups addr s ≠ []) : Sound (beaconGroups addr s) buf (init addr s) := by
  have phase : (init addr s).phase = .dialing (beaconGroups addr s) := if_neg some
  constructor
  case dialled =>
    rw [phase]
    exact List.Sublist.refl _
  case inRounds => rw [phase]; rfl
  case owed => rw [phase]; exact List.nil_sublist _
  case enabled => rw [phase]; nofun
  all_goals simp [init]

theorem Sound.send (h : Sound groups buf st) (dialled : st.phase.undialled = []) (idle : st.phase.unsent = []) :
    Sound groups buf st.send := by
  have rounds := h.inRounds
  have within := h.dialled
  rw [idle, List.append_nil] at rounds
  rw [dialled] at within
  constructor
  case dialled => simpa only [State.send, undialledAfter] using within
  case early => exact fun left phase => absurd phase (afterWriteRuns.1 left)
  case inRounds =>
    simp only [State.send, unsentAfter, rounds, List.replicate_succ', List.flatten_append, List.flatten_singleton]
  case owed => simp only [State.send, unsentAfter, List.Sublist.refl]
  case data => exact h.data
  case counted => exact h.counted
  case enabled => exact afterWriteRuns.2 .disabled

theorem Sound.return (h : Sound groups buf st) {why : Ending} (dialled : st.phase.undialled = [])
    (idle : st.phase.unsent = []) (ran : why ≠ .disabled) :
    Sound groups buf { st with phase := .returned why } := by
  have rounds := h.inRounds
  have within := h.dialled
  rw [idle] at rounds
  rw [dialled] at within
  exact ⟨within, nofun, rounds, List.nil_sublist _, h.data, h.counted, fun same => ran (Phase.returned.inj same)⟩

theorem stepSound (h : Sound groups buf st) (moved : step buf st a = some st') : Sound groups buf st' := by
  cases stepTook moved with
  | @dial group left ok phase =>
    have early := h.early _ phase
    have rounds := h.inRounds
    have within := h.dialled
    rw [phase, early] at rounds
    rw [phase] at within
    refine ⟨?_, fun _ _ => early, ?_, List.nil_sublist _, h.data, h.counted, nofun⟩
    · cases ok with
      | true => simpa [Phase.undialled] using within
      | false => exact (List.Sublist.append_left (List.sublist_cons_self group left) _).trans within
    · simpa [Phase.unsent, early] using rounds
  | noneDialled phase => exact h.return (by rw [phase]; rfl) (by rw [phase]; rfl) nofun
  | opened phase => exact h.send (by rw [phase]; rfl) (by rw [phase]; rfl)
  | @write conn left ok phase =>
    have rounds := h.inRounds
    have owed := h.owed
    have within := h.dialled
    rw [phase] at rounds owed within
    constructor
    case dialled => rw [undialledAfter]; exact within
    case early => exact fun rest phase => absurd phase (afterWriteRuns.1 rest)
    case inRounds =>
      rw [unsentAfter, List.map_append, List.append_assoc]
      exact rounds
    case owed =>
      rw [unsentAfter]
      exact (List.sublist_cons_self conn left).trans owed
    case data =>
      intro w mem
      rcases List.mem_append.mp mem with old | new
      · exact h.data w old
      · rw [List.mem_singleton.mp new]
    case counted =>
      simp only [h.counted, List.countP_append, List.countP_singleton]
      split <;> rfl
    case enabled => exact afterWriteRuns.2 .disabled
  | tick phase => exact h.send (by rw [phase]; rfl) (by rw [phase]; rfl)
  | cancel => exact ⟨h.dialled, h.early, h.inRounds, h.owed, h.data, h.counted, h.enabled⟩
  | stop phase => exact h.return (by rw [phase]; rfl) (by rw [phase]; rfl) nofun

theorem Sound.eachRound (h : Sound groups buf st) (nodup : groups.Nodup) {group : UDPAddr}
    (mem : group ∈ st.conns) :
    st.sent.countP (·.dest = group) + st.phase.unsent.count group = st.rounds ∧
      st.phase.unsent.count group ≤ 1 := by
  have distinct : st.conns.Nodup := nodup.sublist ((List.sublist_append_left _ _).trans h.dialled)
  have total := congrArg (List.count group) h.inRounds
  have once : st.conns.count group = 1 := List.count_eq_one_of_mem distinct mem
  have written : (st.sent.map Write.dest).count group = st.sent.countP (·.dest = group) := by
    rw [List.count, List.countP_map]
    rfl
  rw [List.count_append, written, List.count_flatten, List.map_replicate, once, List.sum_replicate_nat,
    Nat.mul_one] at total
  exact ⟨total, List.nodup_iff_count_le_one.mp (distinct.sublist h.owed) group⟩

theorem Sound.toDialled (h : Sound groups buf st) {w : Write} (mem : w ∈ st.sent) : w.dest ∈ st.conns := by
  have inside : w.dest ∈ (List.replicate st.rounds st.conns).flatten :=
    h.inRounds ▸ List.mem_append_left _ (List.mem_map_of_mem mem)
  obtain ⟨conns, same, mem⟩ := List.mem_flatten.mp inside
  exact (List.mem_replicate.mp same).2 ▸ mem

theorem soundReached {log : List Action} (some : beaconGroups addr s ≠ [])
    (ran : run (step buf) (init addr s) log = .some st) : Sound (beaconGroups addr s) buf st :=
  invariant (fun _ _ _ => stepSound) (initSound some) ran

end Running

section Starting
variable {h : Host} {c c' : Config} {w : Words} {b : Beacon} {a : Setting} {sent : List UInt16}

def settingOf (c : Config) (w : Words) : Setting := ⟨w.compat, c.ssm, w.scope⟩

theorem prefixesSome (ok : a.groupPrefixes h = .ok sent) : sent ≠ [] := by
  obtain ⟨name, mem⟩ : ∃ name, name ∈ beaconScopeNames a.scope := by
    cases a.scope <;> exact ⟨_, List.mem_cons_self⟩
  have member : ∃ p, p ∈ sent := by
    cases any : a.anySource with
    | true => exact ⟨_, (memPrefixes ok).mpr ⟨name, mem, .inl ⟨rfl, any⟩⟩⟩
    | false =>
      obtain ⟨p, given, known⟩ := derivedKnown ok mem any
      obtain ⟨derives, mode⟩ := notAnySource any
      have specific : a.sourceSpecific = true := by simp [Setting.sourceSpecific, derives, mode]
      exact ⟨p, (memPrefixes ok).mpr ⟨name, mem, .inr ⟨given, known, specific⟩⟩⟩
  obtain ⟨p, mem⟩ := member
  exact List.ne_nil_of_mem mem

theorem loadResolves (ok : load h c = .ok c') (enabled : c'.beaconEnabled = true) :
    ∃ w sent, words c' = .ok w ∧ (settingOf c' w).groupPrefixes h = .ok sent := by
  rw [load] at ok
  obtain ⟨w, read, ok⟩ := boundOk ok
  obtain ⟨_, groups, ok⟩ := boundOk ok
  obtain ⟨-, -, ok⟩ := boundOk ok
  obtain ⟨-, -, ok⟩ := boundOk ok
  cases ok
  rw [checkGroups, if_pos enabled] at groups
  cases resolved : beaconGroupPrefixes h w.compat c.ssm w.scope with
  | error e => rw [resolved] at groups; cases groups
  | ok sent => exact ⟨w, sent, read, resolved⟩

theorem senderMade {id : UInt16} {ip : Bytes} (enabled : c.beaconEnabled = true)
    (picked : pickBeaconNACKAddr h c.beaconNACKAddr = some ip) (read : words c = .ok w)
    (resolved : (settingOf c w).groupPrefixes h = .ok sent) :
    ∃ b, beaconConfig h c = some b ∧ sender h c id = some ⟨new b, id, sent⟩ := by
  have again : beaconGroupPrefixes h w.compat c.ssm w.scope = .ok sent := resolved
  have config : ∃ b, beaconConfig h c = some b := by
    simp [beaconConfig, enabled, picked, read, again, Except.toOption]
  obtain ⟨b, config⟩ := config
  exact ⟨b, config, by simp [sender, config, read, again, Except.toOption]⟩

end Starting

structure Announced (h : Host) (addr : GroupAddr) (c : Config) (s : Sender) (st : State) : Prop where
  resolved : ∃ w, words c = .ok w ∧ (settingOf c w).groupPrefixes h = .ok s.groupPrefixes
  enabled : st.phase ≠ .returned .disabled
  dialled : st.conns.Sublist (s.groupPrefixes.map (groupAt addr s))
  toDialled : ∀ w ∈ st.sent, w.dest ∈ st.conns
  eachRound : ∀ group ∈ st.conns,
    st.sent.countP (·.dest = group) + st.phase.unsent.count group = st.rounds ∧
      st.phase.unsent.count group ≤ 1
  counted : st.adverts = st.sent.countP Write.ok
  reads : ∀ w ∈ st.sent, RoundTrip h c w.data ↔
    (0 ≤ c.nackPort ∧ c.nackPort < 65536) ∧ c.beaconInterval < 65536 * second

def wide : Config :=
  ⟨9300, [], false, true, true, "both", 0, 128, 60 * second, "all", 0xFF, false, true, false, "fd20::41"⟩

def sixteen : GroupAddr := fun bits id index =>
  putUint16 bits ++ List.replicate 10 0 ++ putUint16 id ++ putUint16 index

theorem sixteenApart {id : UInt16} (p q : UInt16)
    (same : sixteen p id groupBeacon = sixteen q id groupBeacon) : p = q := by
  simp only [sixteen, List.append_assoc] at same
  have bits : putUint16 p = putUint16 q := (List.append_inj same (by simp)).1
  rw [← uint16Put p, bits, uint16Put]

def twoRounds : List Action :=
  [.dial true, .dial false, .dial true, .dial false, .dial true, .opened, .write true, .write true, .write true,
    .tick, .cancel, .write false]

/-- A configuration that loads with its beacon on, on a host with an address, starts a
sender; whatever the network does, each dialled group has one ADVERT a round. -/
theorem advertsInRounds {h : Host} {addr : GroupAddr} {c c' : Config} {id : UInt16} {ip : Bytes}
    (apart : ∀ p q, addr p id groupBeacon = addr q id groupBeacon → p = q)
    (loaded : load h c = .ok c') (enabled : c'.beaconEnabled = true)
    (picked : pickBeaconNACKAddr h c'.beaconNACKAddr = some ip) :
    ∃ s, sender h c' id = some s ∧
      ∀ log st, run (step (buildADVERT h s.beacon)) (init addr s) log = some st → Announced h addr c' s st := by
  obtain ⟨w, sent, read, resolved⟩ := loadResolves loaded enabled
  obtain ⟨b, config, made⟩ := senderMade enabled picked read resolved
  refine ⟨_, made, fun log st ran => ?_⟩
  have groups : beaconGroups addr ⟨new b, id, sent⟩ = sent.map (groupAt addr ⟨new b, id, sent⟩) := by
    rw [beaconGroups, if_neg (prefixesSome resolved)]
  have some : beaconGroups addr ⟨new b, id, sent⟩ ≠ [] := by
    rw [groups]
    exact fun none => prefixesSome resolved (List.map_eq_nil_iff.mp none)
  have nodup : (beaconGroups addr ⟨new b, id, sent⟩).Nodup := by
    rw [groups]
    refine List.Nodup.map (fun p q same => apart p q (UDPAddr.mk.inj same).1) ?_
    exact (resolveNames resolved).2.1 List.nodup_nil
  have sound := soundReached some ran
  constructor
  case resolved => exact ⟨w, read, resolved⟩
  case enabled => exact sound.enabled
  case dialled => exact groups ▸ (List.sublist_append_left _ _).trans sound.dialled
  case toDialled => exact fun w => sound.toDialled
  case eachRound => exact fun group => sound.eachRound nodup
  case counted => exact sound.counted
  case reads =>
    intro w mem
    rw [sound.data w mem]
    exact roundTripIff (loadAccepted loaded) (beaconWired config)

theorem advertsInRoundsTwo : ∃ s, sender lab wide 11 = some s ∧ ∃ st,
    run (step (buildADVERT lab s.beacon)) (init sixteen s) twoRounds = some st ∧
      Announced lab sixteen wide s st ∧ st.rounds = 2 ∧ st.adverts = 3 := by
  have loaded : load lab wide = .ok wide := rfl
  have apart : ∀ p q, sixteen p 11 groupBeacon = sixteen q 11 groupBeacon → p = q := sixteenApart
  obtain ⟨s, made, announced⟩ := advertsInRounds apart loaded rfl rfl
  cases Option.some.inj made
  exact ⟨_, rfl, _, rfl, announced twoRounds _ rfl, rfl, rfl⟩

end RetryEndpoint.BeaconRun
