import RetryEndpoint.Process

/-! A feed that dies takes the process with it, or should. An error of the set-up
travels from Run through the fatal channel to the result of run(); an error that
ends the receive loop is dropped on the way, because Run returns nil behind it. What
is left out of the good case is that, and a shutdown signal that wins against the
report. -/
namespace RetryEndpoint.FeedDeath
open Runs Process

/- No batch read ends the loop of a live feed, and the signal path is not taken
around a set-up that fails. -/
def sound (s : State) : Action → Bool
  | .read _ (.error .badf) | .read _ (.error .inval) => s.cancelled
  | .fail _ _ => s.cancelled || !s.main.signalled
  | .takeSignal => !s.feeds.any Phase.diedLive
  | _ => true

def pastCancel : Main → Bool
  | .joining _ | .returned _ => true
  | _ => false

def Died (s : State) : Prop := ∃ p ∈ s.feeds, p.diedLive = true

def Reported (s : State) : Prop := s.fatalCh.isSome = true ∨ s.main.fatalErr.isSome = true

def mainWork : Main → Nat
  | .launching => 5
  | .waiting => 4
  | .stopping _ => 3
  | .draining _ => 2
  | .joining _ => 1
  | .returned _ => 0

def work (s : State) : Nat := (s.feeds.map feedWork).sum + serverWork s.server + mainWork s.main

structure Fatal (cfg : Config) (s : State) : Prop where
  reported : .finished true ∈ s.feeds → Reported s
  failed : Died s → ∀ r, s.main = .returned r → r.isSome = true
  returns : Died s → ∀ acts t, Along (step cfg) (fun s a => sound s a = true) s acts →
    run (step cfg) s acts = some t → acts.countP moves ≤ work s ∧
      ((∀ a, moves a = true → sound t a = true → step cfg t a = none) →
        ∃ e, t.main = .returned (some e))

structure Held (s : State) : Prop where
  carried : ∀ err, .returned err true ∈ s.feeds → err.isSome = true
  reported : .finished true ∈ s.feeds → Reported s
  unsignalled : Died s → s.main.signalled = false
  cancelled : s.cancelled = pastCancel s.main

section Kept
variable {cfg : Config} {s s' : State}

theorem initHeld : Held (init cfg) := by
  have none : ∀ p ∈ (init cfg).feeds, p = .starting := fun p mem => List.eq_of_mem_replicate mem
  refine ⟨?_, ?_, fun _ => rfl, rfl⟩
  · intro err mem
    cases none _ mem
  · intro mem
    cases none _ mem

theorem diedSet {i : Nat} {q : Phase} {t : State} (feeds : t.feeds = s.feeds.set i q)
    (quiet : q.diedLive = false) (died : Died t) : Died s := by
  obtain ⟨p, mem, dead⟩ := died
  rw [feeds] at mem
  rcases List.mem_or_eq_of_mem_set mem with old | rfl
  · exact ⟨p, old, dead⟩
  · rw [quiet] at dead
    cases dead

theorem Held.move (h : Held s) {i : Nat} {q : Phase} (quiet : q.diedLive = false) {count : Int} :
    Held { s with feeds := s.feeds.set i q, readyCount := count } := by
  refine ⟨?_, ?_, ?_, h.cancelled⟩
  · intro err mem
    rcases List.mem_or_eq_of_mem_set mem with old | rfl
    · exact h.carried err old
    · cases quiet
  · intro mem
    rcases List.mem_or_eq_of_mem_set mem with old | rfl
    · exact h.reported old
    · cases quiet
  · intro died
    exact h.unsignalled (diedSet rfl quiet died)

theorem Held.leave (h : Held s) {i : Nat} (cancelled : s.cancelled = true) : Held (s.leave i) := by
  have quiet : (Phase.returned none !s.cancelled).diedLive = false := by simp [Phase.diedLive, cancelled]
  exact h.move quiet

theorem Held.fail (h : Held s) {i : Nat} {err : RunError}
    (may : (s.cancelled || !s.main.signalled) = true) :
    Held { s with feeds := s.feeds.set i (.returned (some err) !s.cancelled) } := by
  refine ⟨?_, ?_, ?_, h.cancelled⟩
  · intro e mem
    rcases List.mem_or_eq_of_mem_set mem with old | same
    · exact h.carried e old
    · rw [(Phase.returned.inj same).1]
      rfl
  · intro mem
    rcases List.mem_or_eq_of_mem_set mem with old | same
    · exact h.reported old
    · cases same
  · intro died
    cases cancelled : s.cancelled with
    | true =>
      have quiet : (Phase.returned (some err) !s.cancelled).diedLive = false := by
        simp [Phase.diedLive, cancelled]
      exact h.unsignalled (diedSet rfl quiet died)
    | false => simpa [cancelled] using may

theorem reportKeeps {i : Nat} {err : Option RunError} {live : Bool} (old : Reported s) :
    Reported (s.report cfg i err live) := by
  unfold State.report
  dsimp only
  split
  · split
    · exact old
    · exact .inl (by simp)
  · exact old

theorem Held.reportDeath (h : Held s) {i : Nat} {err : Option RunError}
    (here : s.feeds[i]? = some (.returned err true)) : Reported (s.report cfg i err true) := by
  have mem := List.mem_of_getElem? here
  obtain ⟨e, rfl⟩ := Option.isSome_iff_exists.mp (h.carried err mem)
  have unsignalled := h.unsignalled ⟨_, mem, rfl⟩
  unfold State.report
  dsimp only
  split
  · rename_i cancelled
    rw [h.cancelled] at cancelled
    refine .inr ?_
    show s.main.fatalErr.isSome = true
    cases main : s.main with
    | launching | waiting | stopping e | draining e =>
      rw [main] at cancelled
      cases cancelled
    | joining e | returned e =>
      rw [main, Main.signalled] at unsignalled
      rw [Main.fatalErr]
      cases e with
      | none => cases unsignalled
      | some e => rfl
  · exact .inl (by simp)

theorem Held.report (h : Held s) {i : Nat} {err : Option RunError} {live : Bool}
    (here : s.feeds[i]? = some (.returned err live)) : Held (s.report cfg i err live) := by
  refine ⟨?_, ?_, ?_, ?_⟩
  · intro e mem
    rw [reportFeeds] at mem
    rcases List.mem_or_eq_of_mem_set mem with old | same
    · exact h.carried e old
    · cases same
  · intro mem
    rw [reportFeeds] at mem
    rcases List.mem_or_eq_of_mem_set mem with old | same
    · exact reportKeeps (h.reported old)
    · cases same
      exact h.reportDeath here
  · intro died
    rw [reportRest.2.1]
    obtain ⟨p, mem, dead⟩ := died
    rw [reportFeeds] at mem
    rcases List.mem_or_eq_of_mem_set mem with old | rfl
    · exact h.unsignalled ⟨p, old, dead⟩
    · exact h.unsignalled ⟨_, List.mem_of_getElem? here, dead⟩
  · rw [reportRest.2.1, reportRest.2.2]
    exact h.cancelled

theorem Held.onward (h : Held s) {next : Main} {draining cancelled : Bool}
    (same : next.fatalErr = s.main.fatalErr) (path : next.signalled = s.main.signalled)
    (now : cancelled = pastCancel next) :
    Held { s with main := next, draining := draining, cancelled := cancelled } := by
  refine ⟨h.carried, ?_, ?_, now⟩
  · intro mem
    rcases h.reported mem with waits | taken
    · exact .inl waits
    · exact .inr (same ▸ taken)
  · intro died
    exact path ▸ h.unsignalled died

theorem stepHeld {a : Action} (h : Held s) (ok : sound s a = true) (took : step cfg s a = some s') :
    Held s' := by
  cases stepTook took with
  | fail here kind => exact h.fail ok
  | ready here => exact h.move rfl
  | readOn here stays => exact h
  | @readOut i result here out =>
    refine h.leave ?_
    cases result with
    | ok n => cases out
    | error e =>
      cases e with
      | again | wouldBlock | intr => cases out
      | badf | inval => exact ok
      | other code => exact out
  | stop here cancelled => exact h.leave cancelled
  | report here => exact h.report here
  | serverReady | serverFail | serverDone | signal => exact ⟨h.carried, h.reported, h.unsignalled, h.cancelled⟩
  | beaconFails here enabled => exact ⟨h.carried, fun _ => .inr rfl, fun _ => rfl, rfl⟩
  | launched here | drain here | finish here =>
    have now := h.cancelled
    rw [here] at now
    exact h.onward (by rw [here]; rfl) (by rw [here]; rfl) now
  | takeSignal here arrived =>
    have alive : ∀ p ∈ s.feeds, p.diedLive = false := by simpa [sound] using ok
    have now := h.cancelled
    rw [here] at now
    refine ⟨h.carried, ?_, ?_, now⟩
    · intro mem
      cases alive _ mem
    · rintro ⟨p, mem, dead⟩
      rw [alive p mem] at dead
      cases dead
  | takeFatal here arrived =>
    have now := h.cancelled
    rw [here] at now
    exact ⟨h.carried, fun _ => .inr rfl, fun _ => rfl, now⟩
  | cancel here => exact h.onward (by rw [here]; rfl) (by rw [here]; rfl) rfl

theorem heldReached {acts : List Action} (along : Along (step cfg) (fun s a => sound s a = true) (init cfg) acts)
    (ran : run (step cfg) (init cfg) acts = some s) : Held s :=
  invariantAlong (fun _ _ _ h ok took => stepHeld h ok took) initHeld along ran

theorem diedKept {i : Nat} {p q : Phase} (here : s.feeds[i]? = some p)
    (keeps : p.diedLive = true → q.diedLive = true) {t : State} (feeds : t.feeds = s.feeds.set i q)
    (died : Died s) : Died t := by
  obtain ⟨dead, mem, isDead⟩ := died
  obtain ⟨j, found⟩ := List.mem_iff_getElem?.mp mem
  by_cases same : i = j
  · subst same
    cases Option.some.inj (here.symm.trans found)
    have low := (List.getElem?_eq_some_iff.mp here).1
    refine ⟨q, ?_, keeps isDead⟩
    rw [feeds]
    exact List.mem_of_getElem? (List.getElem?_set_self low)
  · refine ⟨dead, ?_, isDead⟩
    rw [feeds]
    exact List.mem_of_getElem? ((List.getElem?_set_ne same).trans found)

theorem stepDied {a : Action} (died : Died s) (took : step cfg s a = some s') : Died s' := by
  cases stepTook took with
  | fail here | ready here | readOut here | stop here =>
    exact diedKept here (fun never => Bool.noConfusion never) rfl died
  | @report i err live here => exact diedKept (q := .finished live) here id reportFeeds died
  | readOn | serverReady | serverFail | serverDone | beaconFails | launched | signal | takeSignal
  | takeFatal | drain | cancel | finish => exact died

end Kept

section Progress
variable {cfg : Config} {s s' : State}

theorem feedWorks {i : Nat} {p q : Phase} (here : s.feeds[i]? = some p) (feeds : s'.feeds = s.feeds.set i q)
    (rest : s'.server = s.server ∧ s'.main = s.main) (less : feedWork q < feedWork p) :
    work s' + 1 ≤ work s := by
  have moved := movedSum (w := q) here feedWork
  simp only [work, feeds, rest.1, rest.2]
  omega

theorem stepWork {a : Action} (took : step cfg s a = some s') :
    work s' + (if moves a then 1 else 0) ≤ work s := by
  cases stepTook took with
  | fail here | ready here | stop here => exact feedWorks here rfl ⟨rfl, rfl⟩ (by simp [feedWork])
  | readOn | signal => exact Nat.le_refl _
  | readOut here => exact Nat.le_of_succ_le (feedWorks here rfl ⟨rfl, rfl⟩ (by simp [feedWork]))
  | report here =>
    exact feedWorks here reportFeeds ⟨reportRest.1, reportRest.2.1⟩ (by simp [feedWork])
  | serverReady here | serverFail here | serverDone here =>
    simp only [work, here, serverWork, moves, if_true]
    omega
  | beaconFails here | launched here | takeSignal here | takeFatal here | drain here | cancel here
  | finish here =>
    simp only [work, here, mainWork, moves, if_true]
    omega

def CanMove (cfg : Config) (s : State) : Prop :=
  ∃ a s', moves a = true ∧ sound s a = true ∧ step cfg s a = some s'

theorem Took.canMove {a : Action} (took : Took cfg s a s') (own : moves a = true) (ok : sound s a = true) :
    CanMove cfg s :=
  ⟨a, s', own, ok, tookStep took⟩

theorem unfinishedMoves (cancelled : s.cancelled = true) {p : Phase} (mem : p ∈ s.feeds)
    (unfinished : ∀ live, p ≠ .finished live) : CanMove cfg s := by
  obtain ⟨i, here⟩ := List.mem_iff_getElem?.mp mem
  cases p with
  | starting => exact Took.canMove (.ready here) rfl rfl
  | receiving => exact Took.canMove (.stop here cancelled) rfl rfl
  | returned err live => exact Took.canMove (.report here) rfl rfl
  | finished live => exact absurd rfl (unfinished live)

theorem joiningMoves (cancelled : s.cancelled = true) {e : Option Failure} (main : s.main = .joining e) :
    CanMove cfg s := by
  by_cases through : ∀ p ∈ s.feeds, ∃ live, p = .finished live
  · cases server : s.server with
    | starting => exact Took.canMove (.serverFail server) rfl rfl
    | ready => exact Took.canMove (.serverDone server cancelled) rfl rfl
    | returned =>
      have done : s.allDone = true := by
        simp only [State.allDone, server, beq_self_eq_true, Bool.and_true, List.all_eq_true]
        intro p mem
        obtain ⟨live, rfl⟩ := through p mem
        cases live <;> rfl
      exact Took.canMove (.finish main done) rfl rfl
  · simp only [not_forall, not_exists] at through
    obtain ⟨p, mem, unfinished⟩ := through
    exact unfinishedMoves cancelled mem unfinished

theorem waitingMoves (h : Held s) (died : Died s) (main : s.main = .waiting) : CanMove cfg s := by
  obtain ⟨p, mem, dead⟩ := died
  obtain ⟨i, here⟩ := List.mem_iff_getElem?.mp mem
  cases p with
  | starting | receiving => cases dead
  | returned err live => exact Took.canMove (.report here) rfl rfl
  | finished live =>
    cases (dead : live = true)
    have waits : s.fatalCh.isSome = true := by
      rcases h.reported mem with waits | taken
      · exact waits
      · rw [main] at taken
        cases taken
    obtain ⟨e, arrived⟩ := Option.isSome_iff_exists.mp waits
    exact Took.canMove (.takeFatal main arrived) rfl rfl

theorem Held.onItsWay (h : Held s) (died : Died s) (notYet : ∀ r, s.main ≠ .returned r) : CanMove cfg s := by
  cases main : s.main with
  | launching => exact Took.canMove (.launched main) rfl rfl
  | waiting => exact waitingMoves h died main
  | stopping e => exact Took.canMove (.drain main) rfl rfl
  | draining e => exact Took.canMove (.cancel main) rfl rfl
  | joining e => exact joiningMoves (by rw [h.cancelled, main]; rfl) main
  | returned r => exact absurd main (notYet r)

theorem Held.failed (h : Held s) (died : Died s) {r : Option Failure} (main : s.main = .returned r) :
    r.isSome = true := by
  have path := h.unsignalled died
  rw [main] at path
  cases r with
  | none => cases path
  | some e => rfl

theorem Held.stuck (h : Held s) (died : Died s)
    (stuck : ∀ a, moves a = true → sound s a = true → step cfg s a = none) :
    ∃ e, s.main = .returned (some e) := by
  by_cases back : ∃ r, s.main = .returned r
  · obtain ⟨r, main⟩ := back
    obtain ⟨e, rfl⟩ := Option.isSome_iff_exists.mp (h.failed died main)
    exact ⟨e, main⟩
  · obtain ⟨a, s', own, ok, took⟩ : CanMove cfg s := h.onItsWay died (not_exists.mp back)
    rw [stuck a own ok] at took
    cases took

theorem Held.fatal (h : Held s) : Fatal cfg s := by
  refine ⟨h.reported, fun died r main => h.failed died main, ?_⟩
  intro died acts t along ran
  have bound : acts.countP moves + work t ≤ work s :=
    used (fun _ _ _ took => stepWork took) ran
  have held : Held t := invariantAlong (fun _ _ _ h ok took => stepHeld h ok took) h along ran
  have dead : Died t := invariant (fun _ _ _ died took => stepDied died took) died ran
  exact ⟨by omega, held.stuck dead⟩

end Progress

/-- As long as no read ends the loop of a feed while the context is live, and no
signal is taken around a set-up that fails, a feed that returns under a live context
is reported, and run() returns an error, by a bounded number of steps that need no
signal. -/
theorem feedDeathFatal (cfg : Config) (acts : List Action) (s : State)
    (along : Along (step cfg) (fun s a => sound s a = true) (init cfg) acts)
    (ran : run (step cfg) (init cfg) acts = some s) : Fatal cfg s :=
  (heldReached along ran).fatal

def cannotJoin : List Action :=
  [.beacon false, .fail 0 .join, .report 0, .takeFatal, .drain, .cancel, .serverFail, .finish]

theorem feedDeathFatalJoin : ∃ s, run (step oneWorker) (init oneWorker) cannotJoin = some s ∧
    s.feeds = [.finished true] ∧ s.main = .returned (some (.feed false .join)) ∧ Fatal oneWorker s := by
  have computed : (run (step oneWorker) (init oneWorker) cannotJoin).map (fun s => (s.feeds, s.main)) =
      some ([.finished true], .returned (some (.feed false .join))) := by decide
  have passes : check (step oneWorker) sound (init oneWorker) cannotJoin = true := by decide
  obtain ⟨s, ran, ends⟩ := Option.map_eq_some_iff.mp computed
  obtain ⟨feeds, main⟩ := Prod.ext_iff.mp ends
  exact ⟨s, ran, feeds, main, feedDeathFatal _ _ s (alongCheck passes) ran⟩

def socketGone : List Action := [.beacon false, .ready 0, .read 0 (.error .badf), .report 0]

theorem feedDeathSilent : ∃ s, run (step oneWorker) (init oneWorker) socketGone = some s ∧
    s.feeds = [.finished true] ∧ s.cancelled = false ∧ s.fatalCh = none ∧ s.main = .waiting ∧
    ¬ Fatal oneWorker s := by
  have computed : (run (step oneWorker) (init oneWorker) socketGone).map
      (fun s => (s.feeds, s.cancelled, s.fatalCh, s.main)) =
      some ([.finished true], false, none, .waiting) := by decide
  obtain ⟨s, ran, ends⟩ := Option.map_eq_some_iff.mp computed
  simp only [Prod.mk.injEq] at ends
  obtain ⟨feeds, live, empty, main⟩ := ends
  refine ⟨s, ran, feeds, live, empty, main, ?_⟩
  intro fatal
  rcases fatal.reported (by rw [feeds]; exact List.mem_singleton_self _) with waits | taken
  · rw [empty] at waits
    cases waits
  · rw [main] at taken
    cases taken

end RetryEndpoint.FeedDeath
