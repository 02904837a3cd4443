import RetryEndpoint.OwnSource
import RetryEndpoint.Runs

/-! One multicast worker's socket: Worker.Run of ingress.go with the three goroutines
that share its descriptor, the receive loop, the closer that waits for the context, and
reassertJoins. A membership is for a group and one of its sources. The kernel may lose any
at any time and tells nobody; once the descriptor is closed its number may be any other
socket's. netjoin.Join belongs to shard-common: what a call returns, and which of the
memberships it was asked for it brings about, is an answer from outside. -/
namespace RetryEndpoint.WorkerSocket
open BigEndian Wire OwnSource Runs
open RateLimit (to16)
open TargetGroup (fourShards)

inductive Owner where | own | nobody | other deriving DecidableEq, Repr

inductive Phase where
  | joining (left : List UDPAddr)
  | failed
  | running
  deriving DecidableEq, Repr

/- reading is between the look at the context and the return of recvmmsg. -/
inductive Receiver where | top | reading | handling | returned deriving DecidableEq, Repr

inductive Rejoiner where
  | waiting
  | passing (left : List UDPAddr)
  | stopped
  deriving DecidableEq, Repr

inductive ReadOut where | datagrams | again | broken deriving DecidableEq, Repr

structure Member where
  group : Bytes
  source : Option Bytes
  deriving DecidableEq, Repr

def wanted (gs : GroupSources) (ga : Bytes) : List Member :=
  if gs ga = [] then [⟨ga, none⟩] else (gs ga).map fun src => ⟨ga, some src⟩

/- asked is what the last pass has asked for so far, latePasses the passes begun after the
close. -/
structure State where
  phase : Phase
  owner : Owner
  cancelled : Bool
  receiver : Receiver
  rejoiner : Rejoiner
  members : List Member
  asked : List Join
  strayReads : Nat
  strayJoins : Nat
  latePasses : Nat

def init (groups : List UDPAddr) : State where
  phase := .joining groups
  owner := .own
  cancelled := false
  receiver := .top
  rejoiner := .waiting
  members := []
  asked := []
  strayReads := 0
  strayJoins := 0
  latePasses := 0

inductive Action where
  | join (ok : Bool) (took : List (Option Bytes))
  | ready
  | check
  | read (out : ReadOut)
  | handled
  | abandon
  | tick
  | passed
  | stop
  | cancel
  | close
  | reuse
  | lose (m : Member)
  deriving DecidableEq, Repr

def State.joined (gs : GroupSources) (s : State) (ga : Bytes) (took : List (Option Bytes)) : State :=
  { s with
    members := ((wanted gs ga).filter fun m => m.source ∈ took) ++ s.members
    asked := s.asked ++ [⟨ga, gs ga⟩] }

/- The first pass: a bad address or an error closes the socket and ends Run. -/
def State.joinFirst (gs : GroupSources) (s : State) (grp : UDPAddr) (left : List UDPAddr) (ok : Bool)
    (took : List (Option Bytes)) : State :=
  match to16 grp.ip with
  | none => { s with phase := .failed, owner := .nobody }
  | some ga =>
    if ok then { s.joined gs ga took with phase := .joining left }
    else { s with phase := .failed, owner := .nobody }

/- A later pass goes on after an error, and is left at a bad address. -/
def State.joinAgain (gs : GroupSources) (s : State) (grp : UDPAddr) (left : List UDPAddr)
    (took : List (Option Bytes)) : State :=
  match to16 grp.ip with
  | none => { s with rejoiner := .waiting }
  | some ga =>
    if s.owner = .own then { s.joined gs ga took with rejoiner := .passing left }
    else { s with
      rejoiner := .passing left
      asked := s.asked ++ [⟨ga, gs ga⟩]
      strayJoins := s.strayJoins + 1 }

def ReadOut.next : ReadOut → Receiver
  | .datagrams => .handling
  | .again => .top
  | .broken => .returned

def State.hasRead (s : State) (out : ReadOut) : State :=
  { s with
    receiver := out.next
    strayReads := if s.owner = .own then s.strayReads else s.strayReads + 1 }

def step (gs : GroupSources) (groups : List UDPAddr) (s : State) : Action → Option State
  | .join ok took =>
    match s.phase, s.rejoiner with
    | .joining (grp :: left), _ => some (s.joinFirst gs grp left ok took)
    | .running, .passing (grp :: left) => some (s.joinAgain gs grp left took)
    | _, _ => none
  | .ready => if s.phase = .joining [] then some { s with phase := .running } else none
  | .check =>
    if s.phase = .running ∧ s.receiver = .top then
      some { s with receiver := if s.cancelled then .returned else .reading } else none
  | .read out =>
    -- a number nobody has is an error at once
    if s.receiver = .reading ∧ (s.owner = .nobody → out = .broken) then some (s.hasRead out) else none
  | .handled => if s.receiver = .handling then some { s with receiver := .top } else none
  | .abandon =>
    if s.receiver = .handling ∧ s.cancelled = true then some { s with receiver := .returned } else none
  | .tick =>
    if s.phase = .running ∧ s.rejoiner = .waiting then
      some { s with
        rejoiner := .passing groups
        asked := []
        latePasses := if s.owner = .own then s.latePasses else s.latePasses + 1 } else none
  | .passed => if s.rejoiner = .passing [] then some { s with rejoiner := .waiting } else none
  | .stop =>
    if s.phase = .running ∧ s.rejoiner = .waiting ∧ s.cancelled = true then some { s with rejoiner := .stopped }
    else none
  | .cancel => some { s with cancelled := true }
  | .close =>
    if s.phase = .running ∧ s.cancelled = true ∧ s.owner = .own then some { s with owner := .nobody } else none
  | .reuse => if s.owner = .nobody then some { s with owner := .other } else none
  | .lose m => some { s with members := s.members.filter (· ≠ m) }

inductive Took (gs : GroupSources) (groups : List UDPAddr) (s : State) : Action → State → Prop where
  | joinFirst {grp left ok took} (phase : s.phase = .joining (grp :: left)) :
      Took gs groups s (.join ok took) (s.joinFirst gs grp left ok took)
  | joinAgain {grp left ok took} (phase : s.phase = .running) (passing : s.rejoiner = .passing (grp :: left)) :
      Took gs groups s (.join ok took) (s.joinAgain gs grp left took)
  | ready (phase : s.phase = .joining []) : Took gs groups s .ready { s with phase := .running }
  | check (phase : s.phase = .running) :
      Took gs groups s .check { s with receiver := if s.cancelled then .returned else .reading }
  | read {out} (reading : s.receiver = .reading) : Took gs groups s (.read out) (s.hasRead out)
  | handled (handling : s.receiver = .handling) : Took gs groups s .handled { s with receiver := .top }
  | abandon (handling : s.receiver = .handling) : Took gs groups s .abandon { s with receiver := .returned }
  | tick (phase : s.phase = .running) (waiting : s.rejoiner = .waiting) :
      Took gs groups s .tick
        { s with
          rejoiner := .passing groups
          asked := []
          latePasses := if s.owner = .own then s.latePasses else s.latePasses + 1 }
  | passed (passing : s.rejoiner = .passing []) : Took gs groups s .passed { s with rejoiner := .waiting }
  | stop (waiting : s.rejoiner = .waiting) (phase : s.phase = .running) :
      Took gs groups s .stop { s with rejoiner := .stopped }
  | cancel : Took gs groups s .cancel { s with cancelled := true }
  | close (phase : s.phase = .running) (told : s.cancelled = true) (own : s.owner = .own) :
      Took gs groups s .close { s with owner := .nobody }
  | reuse (free : s.owner = .nobody) : Took gs groups s .reuse { s with owner := .other }
  | lose (m) : Took gs groups s (.lose m) { s with members := s.members.filter (· ≠ m) }

def leftOf : Phase → Rejoiner → List UDPAddr
  | .joining left, _ => left
  | .running, .passing left => left
  | _, _ => []

def asks (gs : GroupSources) (part : List UDPAddr) : List Join :=
  part.filterMap fun grp => (to16 grp.ip).map fun ga => ⟨ga, gs ga⟩

section Steps
variable {gs : GroupSources} {groups : List UDPAddr} {s s' : State} {a : Action}

theorem stepTook (ok : step gs groups s a = some s') : Took gs groups s a s' := by
  cases a with
  | join ok' took =>
    simp only [step] at ok
    split at ok <;> try contradiction
    · rename_i phase
      cases Option.some.inj ok
      exact .joinFirst phase
    · rename_i phase passing
      cases Option.some.inj ok
      exact .joinAgain phase passing
  | ready =>
    obtain ⟨phase, same⟩ := Option.ite_none_right_eq_some.mp ok
    cases Option.some.inj same
    exact .ready phase
  | check =>
    obtain ⟨⟨phase, -⟩, same⟩ := Option.ite_none_right_eq_some.mp ok
    cases Option.some.inj same
    exact .check phase
  | read out =>
    obtain ⟨⟨reading, -⟩, same⟩ := Option.ite_none_right_eq_some.mp ok
    cases Option.some.inj same
    exact .read reading
  | handled =>
    obtain ⟨handling, same⟩ := Option.ite_none_right_eq_some.mp ok
    cases Option.some.inj same
    exact .handled handling
  | abandon =>
    obtain ⟨⟨handling, -⟩, same⟩ := Option.ite_none_right_eq_some.mp ok
    cases Option.some.inj same
    exact .abandon handling
  | tick =>
    obtain ⟨⟨phase, waiting⟩, same⟩ := Option.ite_none_right_eq_some.mp ok
    cases Option.some.inj same
    exact .tick phase waiting
  | passed =>
    obtain ⟨passing, same⟩ := Option.ite_none_right_eq_some.mp ok
    cases Option.some.inj same
    exact .passed passing
  | stop =>
    obtain ⟨⟨phase, waiting, -⟩, same⟩ := Option.ite_none_right_eq_some.mp ok
    cases Option.some.inj same
    exact .stop waiting phase
  | cancel =>
    cases Option.some.inj ok
    exact .cancel
  | close =>
    obtain ⟨⟨phase, told, own⟩, same⟩ := Option.ite_none_right_eq_some.mp ok
    cases Option.some.inj same
    exact .close phase told own
  | reuse =>
    obtain ⟨free, same⟩ := Option.ite_none_right_eq_some.mp ok
    cases Option.some.inj same
    exact .reuse free
  | lose m =>
    cases Option.some.inj ok
    exact .lose m

theorem joinAllAsks {part : List UDPAddr} (valid : ∀ grp ∈ part, (to16 grp.ip).isSome = true)
    (refuses : Bytes → Bool) : (joinAll gs false refuses part).1 = asks gs part := by
  induction part with
  | nil => rfl
  | cons grp rest ih =>
    have tail := ih fun g mem => valid g (List.mem_cons_of_mem _ mem)
    obtain ⟨ga, good⟩ := Option.isSome_iff_exists.mp (valid grp List.mem_cons_self)
    simp [joinAll, asks, good, tail]

structure Visited (gs : GroupSources) (groups left : List UDPAddr) (asked : List Join)
    (visited : List UDPAddr) : Prop where
  split : visited ++ left = groups
  asked : asked = asks gs visited
  valid : ∀ grp ∈ visited, (to16 grp.ip).isSome = true

structure Sound (gs : GroupSources) (groups : List UDPAddr) (s : State) : Prop where
  pass : s.phase ≠ .failed →
    ∃ visited, Visited gs groups (leftOf s.phase s.rejoiner) s.asked visited
  valid : s.phase = .running → ∀ grp ∈ groups, (to16 grp.ip).isSome = true
  early : s.phase ≠ .running → s.receiver = .top ∧ s.rejoiner = .waiting
  opened : s.phase ≠ .failed → s.owner = .own ∨ (s.cancelled = true ∧ s.phase = .running)
  ownReads : s.owner = .own → s.strayReads = 0
  readOnce : s.strayReads ≤ 1
  readLast : s.strayReads = 1 → s.receiver ≠ .reading ∧ s.cancelled = true
  ownJoins : s.owner = .own → s.strayJoins = 0
  joinsFew : s.strayJoins + (leftOf s.phase s.rejoiner).length ≤ groups.length * (s.latePasses + 1)

theorem initSound (gs : GroupSources) (groups : List UDPAddr) : Sound gs groups (init groups) where
  pass _ := ⟨[], rfl, rfl, nofun⟩
  valid := nofun
  early _ := ⟨rfl, rfl⟩
  opened _ := .inl rfl
  ownReads _ := rfl
  readOnce := Nat.zero_le 1
  readLast := nofun
  ownJoins _ := rfl
  joinsFew := by simp [init, leftOf]

theorem Visited.next {visited left : List UDPAddr} {asked : List Join} {grp : UDPAddr} {ga : Bytes}
    (h : Visited gs groups (grp :: left) asked visited) (good : to16 grp.ip = some ga) :
    Visited gs groups left (asked ++ [⟨ga, gs ga⟩]) (visited ++ [grp]) := by
  constructor
  case split => rw [List.append_assoc, List.singleton_append, h.split]
  case asked => simp [h.asked, asks, good]
  case valid =>
    intro g mem
    rcases List.mem_append.mp mem with old | new
    · exact h.valid g old
    · rw [List.mem_singleton.mp new, good]
      rfl

theorem Sound.joinFirst (h : Sound gs groups s) {grp : UDPAddr} {left : List UDPAddr} (ok : Bool)
    (took : List (Option Bytes)) (phase : s.phase = .joining (grp :: left)) :
    Sound gs groups (s.joinFirst gs grp left ok took) := by
  have started : s.phase ≠ .failed := by rw [phase]; nofun
  have own : s.owner = .own := (h.opened started).resolve_right (by rw [phase]; exact nofun)
  have idle := h.early (by rw [phase]; nofun)
  have here : leftOf s.phase s.rejoiner = grp :: left := by rw [phase]; rfl
  obtain ⟨visited, pass⟩ := h.pass started
  have few := h.joinsFew
  rw [here] at pass few
  rw [List.length_cons] at few
  have fails : Sound gs groups { s with phase := .failed, owner := .nobody } := by
    refine ⟨fun other => absurd rfl other, nofun, fun _ => idle, fun other => absurd rfl other, nofun, h.readOnce,
      h.readLast, nofun, ?_⟩
    change s.strayJoins + 0 ≤ groups.length * (s.latePasses + 1)
    omega
  simp only [State.joinFirst]
  split
  · exact fails
  · rename_i ga good
    split
    · refine ⟨fun _ => ⟨_, pass.next good⟩, nofun, fun _ => idle, fun _ => .inl own,
        h.ownReads, h.readOnce, h.readLast, h.ownJoins, ?_⟩
      change s.strayJoins + left.length ≤ groups.length * (s.latePasses + 1)
      omega
    · exact fails

theorem Sound.joinAgain (h : Sound gs groups s) {grp : UDPAddr} {left : List UDPAddr} (took : List (Option Bytes))
    (phase : s.phase = .running) (passing : s.rejoiner = .passing (grp :: left)) :
    Sound gs groups (s.joinAgain gs grp left took) := by
  have here : leftOf s.phase s.rejoiner = grp :: left := by rw [phase, passing]; rfl
  have on : leftOf s.phase (.passing left) = left := by rw [phase]; rfl
  obtain ⟨visited, pass⟩ := h.pass (by rw [phase]; nofun)
  have few := h.joinsFew
  rw [here] at pass few
  rw [List.length_cons] at few
  simp only [State.joinAgain]
  split
  · -- the first pass would have ended Run
    rename_i bad
    have known : grp ∈ groups := pass.split ▸ List.mem_append_right _ List.mem_cons_self
    have good := h.valid phase grp known
    rw [bad] at good
    cases good
  · rename_i ga good
    have next := pass.next good
    rw [← on] at next
    split
    · refine ⟨fun _ => ⟨_, next⟩, h.valid, fun other => absurd phase other, h.opened, h.ownReads, h.readOnce,
        h.readLast, h.ownJoins, ?_⟩
      change s.strayJoins + (leftOf s.phase (.passing left)).length ≤ groups.length * (s.latePasses + 1)
      rw [on]
      omega
    · rename_i stray
      refine ⟨fun _ => ⟨_, next⟩, h.valid, fun other => absurd phase other, h.opened, h.ownReads, h.readOnce,
        h.readLast, fun own => absurd own stray, ?_⟩
      change s.strayJoins + 1 + (leftOf s.phase (.passing left)).length ≤ groups.length * (s.latePasses + 1)
      rw [on]
      omega

theorem Sound.receives (h : Sound gs groups s) {receiver : Receiver} (phase : s.phase = .running)
    (fresh : receiver = .reading → s.cancelled = false) : Sound gs groups { s with receiver := receiver } := by
  refine ⟨h.pass, h.valid, fun other => absurd phase other, h.opened, h.ownReads, h.readOnce, ?_, h.ownJoins,
    h.joinsFew⟩
  intro stray
  have told := (h.readLast stray).2
  refine ⟨fun reading => ?_, told⟩
  rw [fresh reading] at told
  cases told

theorem Sound.busy (h : Sound gs groups s) (busy : s.receiver ≠ .top) : s.phase = .running := by
  by_contra other
  exact busy (h.early other).1

theorem Sound.hasRead (h : Sound gs groups s) (reading : s.receiver = .reading) (out : ReadOut) :
    Sound gs groups (s.hasRead out) := by
  have running := h.busy (by rw [reading]; nofun)
  have few := h.readOnce
  have none : s.strayReads ≠ 1 := fun stray => (h.readLast stray).1 reading
  refine ⟨h.pass, h.valid, fun other => absurd running other, h.opened, ?_, ?_, ?_, h.ownJoins, h.joinsFew⟩
  · intro own
    have same : s.owner = .own := own
    simp only [State.hasRead, if_pos same]
    exact h.ownReads same
  · simp only [State.hasRead]
    split <;> omega
  · intro stray
    refine ⟨by cases out <;> nofun, ?_⟩
    simp only [State.hasRead] at stray
    split at stray
    · exact absurd stray none
    · rename_i other
      exact ((h.opened (by rw [running]; nofun)).resolve_left other).1

theorem Sound.tick (h : Sound gs groups s) (phase : s.phase = .running) (waiting : s.rejoiner = .waiting) :
    Sound gs groups
      { s with
        rejoiner := .passing groups
        asked := []
        latePasses := if s.owner = .own then s.latePasses else s.latePasses + 1 } := by
  have all : leftOf s.phase (.passing groups) = groups := by rw [phase]; rfl
  have few := h.joinsFew
  have none : (leftOf s.phase s.rejoiner).length = 0 := by rw [phase, waiting]; rfl
  refine ⟨fun _ => ⟨[], all, rfl, nofun⟩, h.valid, fun other => absurd phase other, h.opened, h.ownReads,
    h.readOnce, h.readLast, h.ownJoins, ?_⟩
  simp only [all]
  split
  · rename_i own
    rw [h.ownJoins own, Nat.zero_add]
    exact Nat.le_mul_of_pos_right _ (Nat.succ_pos _)
  · rw [none] at few
    rw [Nat.mul_succ]
    omega

theorem Sound.rests (h : Sound gs groups s) {rejoiner : Rejoiner} (phase : s.phase = .running)
    (before : leftOf s.phase s.rejoiner = []) (after : leftOf s.phase rejoiner = []) :
    Sound gs groups { s with rejoiner := rejoiner } := by
  have pass := h.pass
  have few := h.joinsFew
  rw [before, ← after] at pass few
  exact ⟨pass, h.valid, fun other => absurd phase other, h.opened, h.ownReads, h.readOnce, h.readLast, h.ownJoins, few⟩

theorem Sound.disowned (h : Sound gs groups s) {owner : Owner} (lost : owner ≠ .own)
    (told : s.phase ≠ .failed → s.cancelled = true ∧ s.phase = .running) :
    Sound gs groups { s with owner := owner } := by
  exact ⟨h.pass, h.valid, h.early, fun started => .inr (told started), fun own => absurd own lost,
    h.readOnce, h.readLast, fun own => absurd own lost, h.joinsFew⟩

theorem stepSound (h : Sound gs groups s) (moved : step gs groups s a = some s') : Sound gs groups s' := by
  cases stepTook moved with
  | joinFirst phase => exact h.joinFirst _ _ phase
  | joinAgain phase passing => exact h.joinAgain _ phase passing
  | ready phase =>
    have started : s.phase ≠ .failed := by rw [phase]; nofun
    have idle := (h.early (by rw [phase]; nofun)).2
    have own : s.owner = .own := (h.opened started).resolve_right (by rw [phase]; exact nofun)
    have none : leftOf s.phase s.rejoiner = leftOf .running s.rejoiner := by rw [phase, idle]; rfl
    have pass := h.pass started
    have few := h.joinsFew
    rw [none] at pass few
    refine ⟨fun _ => pass, fun _ => ?_, fun other => absurd rfl other, fun _ => .inl own, h.ownReads, h.readOnce,
      h.readLast, h.ownJoins, few⟩
    obtain ⟨visited, pass⟩ := pass
    intro grp mem
    rw [idle] at pass
    have all : visited = groups := by simpa [leftOf] using pass.split
    exact pass.valid grp (all ▸ mem)
  | check phase =>
    refine h.receives phase fun reading => ?_
    split at reading
    · cases reading
    · rename_i untold
      simpa using untold
  | read reading => exact h.hasRead reading _
  | handled handling => exact h.receives (h.busy (by rw [handling]; nofun)) nofun
  | abandon handling => exact h.receives (h.busy (by rw [handling]; nofun)) nofun
  | tick phase waiting => exact h.tick phase waiting
  | passed passing =>
    have phase : s.phase = .running := by
      by_contra other
      have waiting := (h.early other).2
      rw [passing] at waiting
      cases waiting
    exact h.rests phase (by rw [phase, passing]; rfl) (by rw [phase]; rfl)
  | stop waiting phase => exact h.rests phase (by rw [phase, waiting]; rfl) (by rw [phase]; rfl)
  | cancel =>
    exact ⟨h.pass, h.valid, h.early, fun started => (h.opened started).imp_right fun late => ⟨rfl, late.2⟩, h.ownReads,
      h.readOnce, fun stray => ⟨(h.readLast stray).1, rfl⟩, h.ownJoins, h.joinsFew⟩
  | close phase told own => exact h.disowned nofun fun _ => ⟨told, phase⟩
  | reuse free =>
    refine h.disowned nofun fun started => (h.opened started).resolve_left ?_
    rw [free]
    nofun
  | lose m =>
    exact ⟨h.pass, h.valid, h.early, h.opened, h.ownReads, h.readOnce, h.readLast, h.ownJoins, h.joinsFew⟩

theorem soundReached {log : List Action} (ran : run (step gs groups) (init groups) log = some s) :
    Sound gs groups s :=
  invariant (fun _ _ _ => stepSound) (initSound gs groups) ran

/- What is assumed of netjoin.Join: it tries the group's sources one by one, whatever is refused
on the way, and the kernel refuses only a membership that is there. -/
def joinsEach (gs : GroupSources) (s : State) : Action → Bool
  | .join _ took =>
    match s.rejoiner with
    | .passing (grp :: _) =>
      (to16 grp.ip).all fun ga => (wanted gs ga).all fun m => m ∈ s.members || m.source ∈ took
    | _ => true
  | _ => true

def lossOf : Action → List Member
  | .lose m => [m]
  | _ => []

def Healed (gs : GroupSources) (groups : List UDPAddr) (lost : List Member) (s : State) : Prop :=
  ∃ visited, visited ++ leftOf s.phase s.rejoiner = groups ∧ (s.owner = .own → ∀ grp ∈ visited, ∀ ga,
    to16 grp.ip = some ga → ∀ m ∈ wanted gs ga, m ∈ s.members ∨ m ∈ lost)

theorem stepRunning (running : s.phase = .running) (moved : step gs groups s a = some s') : s'.phase = .running := by
  cases stepTook moved with
  | joinFirst phase =>
    rw [running] at phase
    cases phase
  | joinAgain phase passing =>
    simp only [State.joinAgain]
    split
    · exact running
    · split <;> exact running
  | ready => rfl
  | check | read | handled | abandon | tick | passed | stop | cancel | close | reuse | lose => exact running

theorem joinedHeld {grp : UDPAddr} {left : List UDPAddr} {ga : Bytes} {ok : Bool} {took : List (Option Bytes)}
    (tries : joinsEach gs s (.join ok took) = true) (passing : s.rejoiner = .passing (grp :: left))
    (good : to16 grp.ip = some ga) {m : Member} (mine : m ∈ wanted gs ga) : m ∈ (s.joined gs ga took).members := by
  have each : ∀ m ∈ wanted gs ga, m ∈ s.members ∨ m.source ∈ took := by
    simpa [joinsEach, passing, good] using tries
  rcases each m mine with held | new
  · exact List.mem_append_right _ held
  · exact List.mem_append_left _ (List.mem_filter.mpr ⟨mine, decide_eq_true new⟩)

theorem Healed.joinAgain {lost : List Member} (h : Healed gs groups lost s) {grp : UDPAddr} {left : List UDPAddr}
    {ok : Bool} {took : List (Option Bytes)} (tries : joinsEach gs s (.join ok took) = true)
    (valid : ∀ grp ∈ groups, (to16 grp.ip).isSome = true) (phase : s.phase = .running)
    (passing : s.rejoiner = .passing (grp :: left)) : Healed gs groups lost (s.joinAgain gs grp left took) := by
  obtain ⟨visited, split, healed⟩ := h
  have here : leftOf s.phase s.rejoiner = grp :: left := by rw [phase, passing]; rfl
  have on : leftOf s.phase (.passing left) = left := by rw [phase]; rfl
  have later : (visited ++ [grp]) ++ leftOf s.phase (.passing left) = groups := by
    rw [on, ← split, here, List.append_assoc, List.singleton_append]
  rw [here] at split
  obtain ⟨ga, good⟩ := Option.isSome_iff_exists.mp
    (valid grp (split ▸ List.mem_append_right _ List.mem_cons_self))
  simp only [State.joinAgain, good]
  by_cases own : s.owner = .own
  · rw [if_pos own]
    refine ⟨visited ++ [grp], later, fun _ g mem ga' good' m mine => ?_⟩
    rcases List.mem_append.mp mem with old | new
    · exact (healed own g old ga' good' m mine).imp_left (List.mem_append_right _)
    · rw [List.mem_singleton.mp new, good] at good'
      cases good'
      exact .inl (joinedHeld tries passing good mine)
  · rw [if_neg own]
    exact ⟨visited ++ [grp], later, fun mine => absurd mine own⟩

theorem Healed.more {lost : List Member} (h : Healed gs groups lost s) (more : List Member) :
    Healed gs groups (lost ++ more) s := by
  obtain ⟨visited, split, healed⟩ := h
  exact ⟨visited, split, fun own grp mem ga good m mine =>
    (healed own grp mem ga good m mine).imp_right (List.mem_append_left _)⟩

theorem stepHealed {lost : List Member} (h : Healed gs groups lost s) (tries : joinsEach gs s a = true)
    (valid : ∀ grp ∈ groups, (to16 grp.ip).isSome = true) (running : s.phase = .running)
    (moved : step gs groups s a = some s') : Healed gs groups (lost ++ lossOf a) s' := by
  have rests : ∀ rejoiner, leftOf s.phase rejoiner = leftOf s.phase s.rejoiner →
      Healed gs groups lost { s with rejoiner := rejoiner } := by
    intro rejoiner same
    obtain ⟨visited, split, healed⟩ := h
    exact ⟨visited, by rw [same]; exact split, healed⟩
  have disowned : ∀ owner, owner ≠ .own → Healed gs groups lost { s with owner := owner } := by
    intro owner stray
    obtain ⟨visited, split, -⟩ := h
    exact ⟨visited, split, fun own => absurd own stray⟩
  cases stepTook moved with
  | joinFirst phase =>
    rw [running] at phase
    cases phase
  | joinAgain phase passing => exact (h.joinAgain tries valid phase passing).more _
  | ready phase =>
    rw [running] at phase
    cases phase
  | check | read | handled | abandon | cancel => exact h.more []
  | tick => exact ⟨[], by rw [running]; rfl, fun _ => nofun⟩
  | passed passing => exact (rests _ (by rw [running, passing]; rfl)).more []
  | stop waiting => exact (rests _ (by rw [running, waiting]; rfl)).more []
  | close => exact (disowned .nobody nofun).more []
  | reuse => exact (disowned .other nofun).more []
  | lose m' =>
    obtain ⟨visited, split, healed⟩ := h
    refine ⟨visited, split, fun own grp mem ga good m mine => ?_⟩
    by_cases same : m = m'
    · exact .inr (List.mem_append_right _ (List.mem_singleton.mpr same))
    · rcases healed own grp mem ga good m mine with held | before
      · exact .inl (List.mem_filter.mpr ⟨held, decide_eq_true same⟩)
      · exact .inr (List.mem_append_left _ before)

theorem runHealed {acts : List Action} {lost : List Member} {t : State} (h : Healed gs groups lost s)
    (tries : Along (step gs groups) (joinsEach gs · ·) s acts)
    (valid : ∀ grp ∈ groups, (to16 grp.ip).isSome = true) (running : s.phase = .running)
    (ran : run (step gs groups) s acts = some t) :
    t.phase = .running ∧ Healed gs groups (lost ++ acts.flatMap lossOf) t := by
  induction acts generalizing s lost with
  | nil =>
    cases Option.some.inj ran
    exact ⟨running, by rw [List.flatMap_nil, List.append_nil]; exact h⟩
  | cons a rest ih =>
    obtain ⟨s', stepped, tail⟩ := runCons ran
    have next := ih (stepHealed h tries.1 valid running stepped) (tries.2 s' stepped) (stepRunning running stepped) tail
    rwa [List.append_assoc, ← List.flatMap_cons] at next

theorem memLosses {acts : List Action} {m : Member} (mem : m ∈ acts.flatMap lossOf) : .lose m ∈ acts := by
  obtain ⟨a, listed, mine⟩ := List.mem_flatMap.mp mem
  cases a with
  | lose m' =>
    cases List.mem_singleton.mp mine
    exact listed
  | _ => cases mine

end Steps

def twoGroups : List UDPAddr := [⟨fourShards.groupAddr 0, 9001⟩, ⟨fourShards.groupAddr 1, 9001⟩]

/- Cancelled and closed between a look at the context and the read, in the middle of a pass,
the number taken by another socket. -/
def lateUse : List Action :=
  [.join true [none], .join true [none], .ready, .check, .tick, .cancel, .close, .reuse, .read .again,
    .join true [none]]

/-- Before the context is cancelled the descriptor is the worker's own. Afterwards the
receiver reads through its number at most once more, and the rejoiner makes no more joins
than the pass under way and those it still begins hold. -/
theorem descriptorHeld {gs : GroupSources} {groups : List UDPAddr} {log : List Action} {s : State}
    (ran : run (step gs groups) (init groups) log = some s) :
    (s.phase ≠ .failed → s.cancelled = false → s.owner = .own ∧ s.strayReads = 0 ∧ s.strayJoins = 0) ∧
      s.strayReads ≤ 1 ∧ s.strayJoins ≤ groups.length * (s.latePasses + 1) := by
  have sound := soundReached ran
  refine ⟨fun started untold => ?_, sound.readOnce, Nat.le_trans (Nat.le_add_right _ _) sound.joinsFew⟩
  have own : s.owner = .own := by
    refine (sound.opened started).resolve_right fun late => ?_
    rw [untold] at late
    cases late.1
  exact ⟨own, sound.ownReads own, sound.ownJoins own⟩

theorem descriptorHeldLate : ∃ s, run (step noSources twoGroups) (init twoGroups) lateUse = some s ∧
    s.strayReads = 1 ∧ s.strayReads ≤ 1 ∧ s.strayJoins = 1 ∧
      s.strayJoins ≤ twoGroups.length * (s.latePasses + 1) := by
  obtain ⟨s, ran, reads, joins⟩ : ∃ s, run (step noSources twoGroups) (init twoGroups) lateUse = some s ∧
    s.strayReads = 1 ∧ s.strayJoins = 1 := ⟨_, rfl, rfl, rfl⟩
  have held := descriptorHeld ran
  exact ⟨s, ran, reads, held.2.1, joins, held.2.2⟩

def twoSources : GroupSources := Function.update noSources (fourShards.groupAddr 0) [[1], [2]]
def oneLost : List Action :=
  [.join true [some [1], some [2]], .join true [none], .ready, .lose ⟨fourShards.groupAddr 0, some [2]⟩]
def joinsOnce : List Action := [.join false [some [2]], .join false [], .passed]

/-- Whatever was lost before: when a pass that began on a running worker is over, and Join went
through the sources of each group and was refused only what was there, the socket is a member
of every group for each of its sources that was not lost after the pass began; and the pass
asked for what joinAll asks for. -/
theorem passHeals {gs : GroupSources} {groups : List UDPAddr} {before during : List Action} {s begun t : State}
    (ran : run (step gs groups) (init groups) before = some s) (ticked : step gs groups s .tick = some begun)
    (tries : Along (step gs groups) (joinsEach gs · ·) begun during)
    (went : run (step gs groups) begun during = some t) (done : leftOf t.phase t.rejoiner = [])
    (own : t.owner = .own) :
    (∀ refuses, t.asked = (joinAll gs false refuses groups).1) ∧
      ∀ grp ∈ groups, ∃ ga, to16 grp.ip = some ga ∧
        ∀ m ∈ wanted gs ga, m ∈ t.members ∨ .lose m ∈ during := by
  have start := stepSound (soundReached ran) ticked
  have running : begun.phase = .running := by
    cases stepTook ticked with
    | tick phase => exact phase
  have fresh : Healed gs groups [] begun := by
    refine ⟨[], ?_, fun _ => nofun⟩
    cases stepTook ticked with
    | tick phase => rw [phase]; rfl
  have valid := start.valid running
  obtain ⟨still, visited, split, healed⟩ := runHealed fresh tries valid running went
  have sound := invariant (fun _ _ _ => stepSound) start went
  obtain ⟨visited', pass⟩ := sound.pass (by rw [still]; nofun)
  have all : visited = groups := by simpa [done] using split
  have all' : visited' = groups := by simpa [done] using pass.split
  refine ⟨fun refuses => ?_, fun grp mem => ?_⟩
  · rw [joinAllAsks valid, pass.asked, all']
  · obtain ⟨ga, good⟩ := Option.isSome_iff_exists.mp (valid grp mem)
    refine ⟨ga, good, fun m mine => ?_⟩
    exact (healed own grp (all ▸ mem) ga good m mine).imp_right fun lost => memLosses lost

theorem passHealsOne : ∃ s begun t, run (step twoSources twoGroups) (init twoGroups) oneLost = some s ∧
    ⟨fourShards.groupAddr 0, some [2]⟩ ∉ s.members ∧ step twoSources twoGroups s .tick = some begun ∧
    run (step twoSources twoGroups) begun joinsOnce = some t ∧
    (∀ refuses, t.asked = (joinAll twoSources false refuses twoGroups).1) ∧
      ∀ grp ∈ twoGroups, ∃ ga, to16 grp.ip = some ga ∧
        ∀ m ∈ wanted twoSources ga, m ∈ t.members ∨ .lose m ∈ joinsOnce := by
  obtain ⟨s, begun, t, ran, lost, ticked, tries, went, done, own⟩ : ∃ s begun t,
    run (step twoSources twoGroups) (init twoGroups) oneLost = some s ∧
    ⟨fourShards.groupAddr 0, some [2]⟩ ∉ s.members ∧ step twoSources twoGroups s .tick = some begun ∧
    check (step twoSources twoGroups) (joinsEach twoSources) begun joinsOnce = true ∧
    run (step twoSources twoGroups) begun joinsOnce = some t ∧ leftOf t.phase t.rejoiner = [] ∧ t.owner = .own :=
      ⟨_, _, _, rfl, by decide +kernel, rfl, by decide +kernel, rfl, rfl, rfl⟩
  exact ⟨s, begun, t, ran, lost, ticked, went, passHeals ran ticked (alongCheck tries) went done own⟩

end RetryEndpoint.WorkerSocket
