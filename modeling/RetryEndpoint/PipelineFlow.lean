import RetryEndpoint.PipelineSlots

/-! The receive pipeline seen as datagrams in sharded queues: a slot stands for
what was read into it. Because a read touches no slot that is queued or with a
processor, every step of the pipeline is a step of those queues or none at all. -/
namespace RetryEndpoint.Pipeline
open Ingress Wire Places Runs
open ShardedQueues (Item End stamped)

def Pc.todo : Pc → List Nat
  | .dispatch _ todo _ | .refill _ todo _ => todo
  | .waiting _ slot todo _ => slot :: todo
  | .top _ | .closed _ => []

def Hand.held : Hand → Option Nat
  | .holding slot => some slot
  | .spent _ | .idle | .exited => none

def Record.item : Record → Item Datagram
  | .handled _ x _ | .dropped _ x _ => x

def Record.ending : Record → End Reason × Item Datagram
  | .handled p x _ => (.handled p, x)
  | .dropped reason x _ => (.dropped reason, x)

def flow (s : State) : ShardedQueues.State Datagram Reason where
  clock := s.clock
  received := s.received
  batch := s.pc.todo.map s.mem
  queues := List.map s.mem ∘ s.queues
  hands := (fun hand => hand.held.map s.mem) ∘ s.hands
  ended := s.history.map Record.ending

theorem fillOther {slots : List Nat} {slot : Nat} (other : slot ∉ slots)
    (mem : Nat → Item Datagram) (xs : List (Item Datagram)) : fill mem slots xs slot = mem slot := by
  induction slots generalizing mem xs with
  | nil => cases xs <;> rfl
  | cons k slots ih =>
    obtain ⟨apart, rest⟩ := List.ne_and_not_mem_of_not_mem_cons other
    cases xs with
    | nil => rfl
    | cons x xs => rw [fill, ih rest, Function.update_of_ne apart]

theorem fillMap {slots : List Nat} (once : slots.Nodup) (mem : Nat → Item Datagram)
    {xs : List (Item Datagram)} (same : slots.length = xs.length) : slots.map (fill mem slots xs) = xs := by
  induction slots generalizing mem xs with
  | nil => exact (List.eq_nil_of_length_eq_zero same.symm).symm
  | cons slot slots ih =>
    obtain ⟨new, once⟩ := List.nodup_cons.mp once
    cases xs with
    | nil => cases same
    | cons x xs =>
      have rest := ih once (Function.update mem slot x) (Nat.succ.inj same)
      rw [List.map_cons, fill, fillOther new, Function.update_self, rest]

section Step
variable {lib : FrameLib} {w : Worker} {tee : Bool}

theorem Owned.readKeeps {s : State} (h : Owned w s) {datagrams : List Datagram} {batch : List Nat}
    (top : s.pc = .top batch) {slot p : Nat} (busy : slot ∈ s.queues p ∨ slot ∈ (s.hands p).slots) :
    fill s.mem (batch.take datagrams.length) (stamped s.clock datagrams) slot = s.mem slot := by
  apply fillOther
  intro mine
  have inBatch : slot ∈ s.pc.slots := by
    rw [top]
    exact List.mem_of_mem_take mine
  obtain ⟨unqueued, unheld⟩ := h.apart inBatch p
  exact busy.elim unqueued unheld

theorem heldSlot {hand : Hand} {slot : Nat} (held : hand.held = some slot) : slot ∈ hand.slots := by
  cases hand <;> simp_all [Hand.held, Hand.slots]

theorem readFlow {s : State} (h : Owned w s) {datagrams : List Datagram} {batch : List Nat}
    (top : s.pc = .top batch) (fits : datagrams.length ≤ batch.length) :
    flow { s with
        mem := fill s.mem (batch.take datagrams.length) (stamped s.clock datagrams)
        pc := .dispatch [] (batch.take datagrams.length) (batch.drop datagrams.length)
        clock := s.clock + datagrams.length
        received := (stamped s.clock datagrams).reverse ++ s.received } =
      { flow s with
        clock := s.clock + datagrams.length
        received := (stamped s.clock datagrams).reverse ++ s.received
        batch := stamped s.clock datagrams } := by
  have filled : (batch.take datagrams.length).map
      (fill s.mem (batch.take datagrams.length) (stamped s.clock datagrams)) =
      stamped s.clock datagrams := by
    have once : batch.Nodup := by
      have all := h.batchNodup
      rw [top] at all
      exact all
    apply fillMap (once.sublist (List.take_sublist _ _))
    rw [List.length_take, ShardedQueues.stampedLength]
    omega
  simp only [flow, Pc.todo, filled, ShardedQueues.State.mk.injEq, true_and, and_true]
  constructor
  · funext q
    apply List.map_congr_left
    intro slot queued
    exact h.readKeeps top (.inl queued)
  · funext p
    apply Option.map_congr
    intro slot held
    exact h.readKeeps top (.inr (heldSlot held))

theorem pushFlow {s : State} (q slot : Nat) (before todo rest : List Nat) :
    flow { s.push q slot with pc := .refill before todo rest } =
      { flow s with batch := todo.map s.mem }.enqueue q (s.mem slot) := by
  simp only [flow, State.push, Pc.todo, ShardedQueues.State.enqueue, Function.comp_update,
    List.map_append, List.map_singleton, Function.comp_apply]

theorem setHandFlow (s : State) (p : Nat) (hand : Hand) :
    flow (s.setHand p hand) =
      { flow s with hands := Function.update (flow s).hands p (hand.held.map s.mem) } := by
  simp only [flow, State.setHand, Function.comp_update]

theorem emptyHandFlow {s : State} {p : Nat} {hand : Hand} (before : (s.hands p).held = none)
    (after : hand.held = none) : flow (s.setHand p hand) = flow s := by
  have same : (flow s).hands p = none := by simp [flow, before]
  rw [setHandFlow, after, Option.map_none, ← same, Function.update_eq_self]

inductive Shows : Action → ShardedQueues.Action Datagram Reason → Prop where
  | wait (time b) : Shows (.outside time b) (.wait time)
  | receive (datagrams) : Shows (.read datagrams) (.receive datagrams)
  | drop (reason) : Shows .next (.drop reason)
  | push : Shows .next .push
  | resume : Shows .resume .push
  | timeout : Shows .timeout (.drop .queueFull)
  | abandon : Shows .giveUp (.abandon .abandoned)
  | take (p) : Shows (.take p) (.take p)
  | handle (p fault now) : Shows (.handle p fault now) (.handle p)

theorem stepFlow {s s' : State} {a : Action} (h : Owned w s) (ok : step lib w tee s a = some s') :
    flow s' = flow s ∨ ∃ b, Shows a b ∧
      ShardedQueues.step (procs w) (target lib w tee) (flow s) b = some (flow s') := by
  cases stepTook lib w tee ok with
  | @outside time b forward => exact .inr ⟨.wait time, .wait time b, if_pos forward⟩
  | cancel => exact .inl rfl
  | @read datagrams batch top fits =>
    refine .inr ⟨.receive datagrams, .receive datagrams, ?_⟩
    have empty : (flow s).batch = [] := by simp [flow, top, Pc.todo]
    rw [readFlow h top fits, ShardedQueues.step, empty]
    rfl
  | leave top => exact .inl (by simp [flow, top, Pc.todo])
  | endBatch here => exact .inl (by simp [flow, here, Pc.todo])
  | @skip reason events before slot todo rest here why =>
    refine .inr ⟨.drop reason, .drop reason, ?_⟩
    have next : (flow s).batch = s.mem slot :: todo.map s.mem := by simp [flow, here, Pc.todo]
    rw [ShardedQueues.step, next]
    rfl
  | @push before slot todo rest here whole room =>
    refine .inr ⟨.push, .push, ?_⟩
    have next : (flow s).batch = s.mem slot :: todo.map s.mem := by simp [flow, here, Pc.todo]
    rw [ShardedQueues.step, next, pushFlow]
  | block here whole full => exact .inl (by simp [flow, here, Pc.todo])
  | @resume before slot todo rest here room =>
    refine .inr ⟨.push, .resume, ?_⟩
    have next : (flow s).batch = s.mem slot :: todo.map s.mem := by simp [flow, here, Pc.todo]
    rw [ShardedQueues.step, next, pushFlow]
  | @timeout before slot todo rest here =>
    refine .inr ⟨.drop .queueFull, .timeout, ?_⟩
    have next : (flow s).batch = s.mem slot :: todo.map s.mem := by simp [flow, here, Pc.todo]
    rw [ShardedQueues.step, next]
    rfl
  | @giveUp before slot todo rest here cancelled =>
    refine .inr ⟨.abandon .abandoned, .abandon, ?_⟩
    simp [ShardedQueues.step, flow, here, Pc.todo, Record.ending, Function.comp_def]
  | refill here next => exact .inl (by simp [flow, here, Pc.todo])
  | @take p slot rest low idle next =>
    refine .inr ⟨.take p, .take p, ?_⟩
    have free : (flow s).hands p = none := by simp [flow, idle, Hand.held]
    have queue : (flow s).queues p = s.mem slot :: rest.map s.mem := by simp [flow, next]
    simp only [ShardedQueues.step, if_pos low, free, queue]
    rw [setHandFlow]
    simp only [flow, Function.comp_update, Hand.held, Option.map_some]
  | @handle p fault now slot low held =>
    refine .inr ⟨.handle p, .handle p fault now, ?_⟩
    have busy : (flow s).hands p = some (s.mem slot) := by simp [flow, held, Hand.held]
    simp only [ShardedQueues.step, if_pos low, busy]
    simp only [flow, State.setHand, Function.comp_update, Hand.held, Option.map_none, List.map_cons,
      Record.ending]
  | @release p slot low held =>
    exact .inl (emptyHandFlow (s := s) (by rw [held]; rfl) rfl)
  | @exit p batch low closed idle none =>
    exact .inl (emptyHandFlow (by rw [idle]; rfl) rfl)

theorem runFlow {b : Cache.Backend} {acts : List Action} {s : State}
    (ran : run (step lib w tee) (init w tee b) acts = some s) :
    ∃ acts', run (ShardedQueues.step (procs w) (target lib w tee)) ShardedQueues.init acts' =
      some (flow s) := by
  have maps : ∀ s a s', Owned w s → step lib w tee s a = some s' → flow s' = flow s ∨
      ∃ a', ShardedQueues.step (procs w) (target lib w tee) (flow s) a' = some (flow s') := by
    intro s a s' owned ok
    exact (stepFlow owned ok).imp_right (fun ⟨a', _, stepped⟩ => ⟨a', stepped⟩)
  exact refines (fun _ _ _ => stepOwned) maps (initOwned w tee b) ran

theorem stepFlight {s s' : State} {a : Action} (h : Owned w s) (ok : step lib w tee s a = some s')
    {x : Item Datagram} (flight : ShardedQueues.InFlight (flow s') x) :
    ShardedQueues.InFlight (flow s) x ∨ ∃ datagrams, a = .read datagrams ∧ x ∈ stamped s.clock datagrams := by
  rcases stepFlow h ok with same | ⟨b, shows', stepped⟩
  · rw [same] at flight
    exact .inl flight
  · rcases ShardedQueues.stepInFlight stepped flight with old | ⟨values, rfl, isNew⟩
    · exact .inl old
    · cases shows'
      exact .inr ⟨values, rfl, isNew⟩

end Step

end RetryEndpoint.Pipeline
