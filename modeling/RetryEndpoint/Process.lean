import RetryEndpoint.Groups
import RetryEndpoint.Runs

/-! The process around the workers: run of main.go, with Worker.Run, RunTee and
Server.Run as far as they start, count themselves ready and return. Each goroutine
moves on its own, so a run is any order of their steps. What the receive loop does
with a datagram is not here, only how it ends. wg.Wait also waits for the metrics
server, the cache sampler and the beacon, which return once they are cancelled. -/
namespace RetryEndpoint.Process
open Wire Runs

inductive Errno where | again | wouldBlock | intr | badf | inval | other (code : Nat)
  deriving DecidableEq, Repr

def leaves (cancelled : Bool) : Except Errno Nat → Bool
  | .ok _ => false
  | .error .again | .error .wouldBlock | .error .intr => false
  | .error .badf | .error .inval => true
  | .error (.other _) => cancelled

inductive RunError where | noInterface | openSocket | badGroup | join | teeSocket
  deriving DecidableEq, Repr

def RunError.tee : RunError → Bool
  | .teeSocket => true
  | _ => false

/- live records whether the root context was live when Run returned; the program
has no such field. -/
inductive Phase where
  | starting
  | receiving
  | returned (err : Option RunError) (live : Bool)
  | finished (live : Bool)
  deriving DecidableEq, Repr

def Phase.diedLive : Phase → Bool
  | .returned _ live | .finished live => live
  | _ => false

inductive ServerPhase where | starting | ready | returned deriving DecidableEq, Repr

inductive Failure where | feed (tee : Bool) (err : RunError) | beacon deriving DecidableEq, Repr

inductive Main where
  | launching
  | waiting
  | stopping (fatalErr : Option Failure)
  | draining (fatalErr : Option Failure)
  | joining (fatalErr : Option Failure)
  | returned (fatalErr : Option Failure)
  deriving DecidableEq, Repr

def Main.fatalErr : Main → Option Failure
  | .launching | .waiting => none
  | .stopping e | .draining e | .joining e | .returned e => e

def Main.signalled : Main → Bool
  | .launching | .waiting => false
  | .stopping e | .draining e | .joining e | .returned e => e.isNone

structure Config where
  groups : Groups.Config
  engine : Engine
  numWorkers : Int
  mcJoinEnabled : Bool
  teeListen : Bool
  beaconEnabled : Bool
  drains : Bool
  fed : mcJoinEnabled = false → teeListen = true

def Config.parts (cfg : Config) : List (List UDPAddr) :=
  Groups.partition (Groups.buildGroups cfg.groups cfg.engine) cfg.numWorkers

def Config.workers (cfg : Config) : Nat := if cfg.mcJoinEnabled then cfg.parts.length else 0

def Config.isTee (cfg : Config) (i : Nat) : Bool := cfg.teeListen && i == cfg.workers

def Config.feeds (cfg : Config) : Nat := cfg.workers + if cfg.teeListen then 1 else 0

structure State where
  feeds : List Phase
  server : ServerPhase
  readyCount : Int
  draining : Bool
  cancelled : Bool
  fatalCh : Option Failure
  sigCh : Bool
  main : Main
  deriving DecidableEq

def init (cfg : Config) : State where
  feeds := List.replicate cfg.feeds .starting
  server := .starting
  readyCount := 0
  draining := false
  cancelled := false
  fatalCh := none
  sigCh := false
  main := .launching

inductive Action where
  | fail (i : Nat) (err : RunError)
  | ready (i : Nat)
  | read (i : Nat) (result : Except Errno Nat)
  | stop (i : Nat)
  | report (i : Nat)
  | serverReady
  | serverFail
  | serverDone
  | beacon (fails : Bool)
  | signal
  | takeSignal
  | takeFatal
  | drain
  | cancel
  | finish

def State.leave (s : State) (i : Nat) : State :=
  { s with feeds := s.feeds.set i (.returned none !s.cancelled), readyCount := s.readyCount - 1 }

/- The goroutine after Run: an error that is no consequence of a cancellation goes
to the fatal channel, if there is room. -/
def State.report (cfg : Config) (s : State) (i : Nat) (err : Option RunError) (live : Bool) : State :=
  let s := { s with feeds := s.feeds.set i (.finished live) }
  match err with
  | some e => if s.cancelled then s else { s with fatalCh := s.fatalCh.or (some (.feed (cfg.isTee i) e)) }
  | none => s

def State.allDone (s : State) : Bool :=
  s.feeds.all (fun p => p == .finished true || p == .finished false) && s.server == .returned

def step (cfg : Config) (s : State) : Action → Option State
  | .fail i err =>
    if s.feeds[i]? = some .starting ∧ err.tee = cfg.isTee i then
      some { s with feeds := s.feeds.set i (.returned (some err) !s.cancelled) } else none
  | .ready i =>
    if s.feeds[i]? = some .starting then
      some { s with feeds := s.feeds.set i .receiving, readyCount := s.readyCount + 1 } else none
  | .read i result =>
    if s.feeds[i]? = some .receiving then
      some (if leaves s.cancelled result then s.leave i else s) else none
  | .stop i =>
    if s.feeds[i]? = some .receiving ∧ s.cancelled = true then some (s.leave i) else none
  | .report i =>
    match s.feeds[i]? with
    | some (.returned err live) => some (s.report cfg i err live)
    | _ => none
  | .serverReady =>
    if s.server = .starting then
      some { s with server := .ready, readyCount := s.readyCount + 1 } else none
  | .serverFail => if s.server = .starting then some { s with server := .returned } else none
  | .serverDone =>
    if s.server = .ready ∧ s.cancelled = true then
      some { s with server := .returned, readyCount := s.readyCount - 1 } else none
  | .beacon fails =>
    if s.main = .launching then
      if fails then
        if cfg.beaconEnabled then some { s with main := .returned (some .beacon), cancelled := true }
        else none
      else some { s with main := .waiting }
    else none
  | .signal => if s.main = .launching then none else some { s with sigCh := true }
  | .takeSignal =>
    if s.main = .waiting ∧ s.sigCh = true then
      some { s with main := .stopping none, sigCh := false } else none
  | .takeFatal =>
    if s.main = .waiting ∧ s.fatalCh.isSome = true then
      some { s with main := .stopping s.fatalCh, fatalCh := none } else none
  | .drain =>
    match s.main with
    | .stopping e => some { s with main := .draining e, draining := cfg.drains }
    | _ => none
  | .cancel =>
    match s.main with
    | .draining e => some { s with main := .joining e, cancelled := true }
    | _ => none
  | .finish =>
    match s.main with
    | .joining e => if s.allDone then some { s with main := .returned e } else none
    | _ => none

inductive Took (cfg : Config) (s : State) : Action → State → Prop where
  | fail {i err} (here : s.feeds[i]? = some .starting) (kind : err.tee = cfg.isTee i) :
      Took cfg s (.fail i err) { s with feeds := s.feeds.set i (.returned (some err) !s.cancelled) }
  | ready {i} (here : s.feeds[i]? = some .starting) :
      Took cfg s (.ready i)
        { s with feeds := s.feeds.set i .receiving, readyCount := s.readyCount + 1 }
  | readOn {i result} (here : s.feeds[i]? = some .receiving) (stays : leaves s.cancelled result = false) :
      Took cfg s (.read i result) s
  | readOut {i result} (here : s.feeds[i]? = some .receiving) (out : leaves s.cancelled result = true) :
      Took cfg s (.read i result) (s.leave i)
  | stop {i} (here : s.feeds[i]? = some .receiving) (cancelled : s.cancelled = true) :
      Took cfg s (.stop i) (s.leave i)
  | report {i err live} (here : s.feeds[i]? = some (.returned err live)) :
      Took cfg s (.report i) (s.report cfg i err live)
  | serverReady (here : s.server = .starting) :
      Took cfg s .serverReady { s with server := .ready, readyCount := s.readyCount + 1 }
  | serverFail (here : s.server = .starting) : Took cfg s .serverFail { s with server := .returned }
  | serverDone (here : s.server = .ready) (cancelled : s.cancelled = true) :
      Took cfg s .serverDone { s with server := .returned, readyCount := s.readyCount - 1 }
  | beaconFails (here : s.main = .launching) (enabled : cfg.beaconEnabled = true) :
      Took cfg s (.beacon true) { s with main := .returned (some .beacon), cancelled := true }
  | launched (here : s.main = .launching) : Took cfg s (.beacon false) { s with main := .waiting }
  | signal (notified : s.main ≠ .launching) : Took cfg s .signal { s with sigCh := true }
  | takeSignal (here : s.main = .waiting) (arrived : s.sigCh = true) :
      Took cfg s .takeSignal { s with main := .stopping none, sigCh := false }
  | takeFatal {e} (here : s.main = .waiting) (arrived : s.fatalCh = some e) :
      Took cfg s .takeFatal { s with main := .stopping (some e), fatalCh := none }
  | drain {e} (here : s.main = .stopping e) :
      Took cfg s .drain { s with main := .draining e, draining := cfg.drains }
  | cancel {e} (here : s.main = .draining e) :
      Took cfg s .cancel { s with main := .joining e, cancelled := true }
  | finish {e} (here : s.main = .joining e) (done : s.allDone = true) :
      Took cfg s .finish { s with main := .returned e }

theorem stepTook {cfg : Config} {s s' : State} {a : Action} (ok : step cfg s a = some s') :
    Took cfg s a s' := by
  cases a with
  | fail i err =>
    obtain ⟨may, same⟩ := Option.ite_none_right_eq_some.mp ok
    cases Option.some.inj same
    exact .fail may.1 may.2
  | ready i =>
    obtain ⟨here, same⟩ := Option.ite_none_right_eq_some.mp ok
    cases Option.some.inj same
    exact .ready here
  | read i result =>
    obtain ⟨here, same⟩ := Option.ite_none_right_eq_some.mp ok
    cases Option.some.inj same
    split
    · exact .readOut here (by assumption)
    · exact .readOn here (Bool.eq_false_iff.mpr (by assumption))
  | stop i =>
    obtain ⟨may, same⟩ := Option.ite_none_right_eq_some.mp ok
    cases Option.some.inj same
    exact .stop may.1 may.2
  | report i =>
    simp only [step] at ok
    split at ok
    · rename_i here
      cases Option.some.inj ok
      exact .report here
    · cases ok
  | serverReady =>
    obtain ⟨here, same⟩ := Option.ite_none_right_eq_some.mp ok
    cases Option.some.inj same
    exact .serverReady here
  | serverFail =>
    obtain ⟨here, same⟩ := Option.ite_none_right_eq_some.mp ok
    cases Option.some.inj same
    exact .serverFail here
  | serverDone =>
    obtain ⟨may, same⟩ := Option.ite_none_right_eq_some.mp ok
    cases Option.some.inj same
    exact .serverDone may.1 may.2
  | beacon fails =>
    obtain ⟨here, same⟩ := Option.ite_none_right_eq_some.mp ok
    cases fails with
    | true =>
      obtain ⟨enabled, same⟩ := Option.ite_none_right_eq_some.mp same
      cases Option.some.inj same
      exact .beaconFails here enabled
    | false =>
      cases Option.some.inj same
      exact .launched here
  | signal =>
    obtain ⟨notified, same⟩ := Option.ite_none_left_eq_some.mp ok
    cases Option.some.inj same
    exact .signal notified
  | takeSignal =>
    obtain ⟨may, same⟩ := Option.ite_none_right_eq_some.mp ok
    cases Option.some.inj same
    exact .takeSignal may.1 may.2
  | takeFatal =>
    obtain ⟨may, same⟩ := Option.ite_none_right_eq_some.mp ok
    obtain ⟨e, arrived⟩ := Option.isSome_iff_exists.mp may.2
    rw [arrived] at same
    cases Option.some.inj same
    exact .takeFatal may.1 arrived
  | drain =>
    simp only [step] at ok
    split at ok
    · rename_i here
      cases Option.some.inj ok
      exact .drain here
    · cases ok
  | cancel =>
    simp only [step] at ok
    split at ok
    · rename_i here
      cases Option.some.inj ok
      exact .cancel here
    · cases ok
  | finish =>
    simp only [step] at ok
    split at ok
    · rename_i here
      obtain ⟨done, same⟩ := Option.ite_none_right_eq_some.mp ok
      cases Option.some.inj same
      exact .finish here done
    · cases ok

theorem tookStep {cfg : Config} {s s' : State} {a : Action} (took : Took cfg s a s') :
    step cfg s a = some s' := by
  cases took with
  | fail here kind => simp [step, here, kind]
  | ready here => simp [step, here]
  | readOn here stays => simp [step, here, stays]
  | readOut here out => simp [step, here, out]
  | stop here cancelled => simp [step, here, cancelled]
  | report here => simp [step, here]
  | serverReady here => simp [step, here]
  | serverFail here => simp [step, here]
  | serverDone here cancelled => simp [step, here, cancelled]
  | beaconFails here enabled => simp [step, here, enabled]
  | launched here => simp [step, here]
  | signal notified => simp [step, notified]
  | takeSignal here arrived => simp [step, here, arrived]
  | takeFatal here arrived => simp [step, here, arrived]
  | drain here => simp [step, here]
  | cancel here => simp [step, here]
  | finish here done => simp [step, here, done]

section Report
variable {cfg : Config} {s : State} {i : Nat} {err : Option RunError} {live : Bool}

theorem reportFeeds : (s.report cfg i err live).feeds = s.feeds.set i (.finished live) := by
  unfold State.report
  dsimp only
  split
  · split <;> rfl
  · rfl

theorem reportRest : (s.report cfg i err live).server = s.server ∧ (s.report cfg i err live).main = s.main ∧
    (s.report cfg i err live).cancelled = s.cancelled := by
  unfold State.report
  dsimp only
  split
  · split <;> exact ⟨rfl, rfl, rfl⟩
  · exact ⟨rfl, rfl, rfl⟩

end Report

/- The steps that get a goroutine on. A read may only come round again, and a signal
comes from outside. -/
def moves : Action → Bool
  | .read _ _ | .signal => false
  | _ => true

def feedWork : Phase → Nat
  | .starting => 3
  | .receiving => 2
  | .returned _ _ => 1
  | .finished _ => 0

def serverWork : ServerPhase → Nat
  | .starting => 2
  | .ready => 1
  | .returned => 0

def oneWorker : Config where
  groups := Groups.fourShardsTwoBands
  engine := TargetGroup.fourShards
  numWorkers := 1
  mcJoinEnabled := true
  teeListen := false
  beaconEnabled := false
  drains := false
  fed := fun never => Bool.noConfusion never

end RetryEndpoint.Process
