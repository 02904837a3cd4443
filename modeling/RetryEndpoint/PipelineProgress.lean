import RetryEndpoint.PipelineFlow

/-! The receive pipeline gets rid of what it reads. Every step it takes of its
own accord uses up some of a finite amount of work, and while a datagram is still
on its way one of those steps can be taken: nothing waits for a slot, and a full
queue is waited for no longer than the timer runs. -/
namespace RetryEndpoint.Pipeline
open Ingress Wire Cache Places Runs
open ShardedQueues (Item)

/- Reads, cancellation and the outside are what the pipeline does not do itself. -/
def Action.own : Action → Bool
  | .outside .. | .cancel | .read _ => false
  | _ => true

def Pc.work : Pc → Nat
  | .top _ => 1
  | .dispatch _ todo _ => 6 * todo.length + 2
  | .waiting _ _ todo _ => 6 * todo.length + 7
  | .refill _ todo _ => 6 * todo.length + 3
  | .closed _ => 0

def Hand.work : Hand → Nat
  | .holding _ => 3
  | .spent _ => 2
  | .idle => 1
  | .exited => 0

def work (w : Worker) (s : State) : Nat :=
  s.pc.work + ∑ q ∈ Finset.range (procs w), 3 * (s.queues q).length +
    ∑ p ∈ Finset.range (procs w), (s.hands p).work

section Work
variable {lib : FrameLib} {w : Worker} {tee : Bool}

theorem queueWork (queues : Nat → List Nat) {q : Nat} (low : q < procs w) (xs : List Nat) :
    ∑ k ∈ Finset.range (procs w), 3 * (Function.update queues q xs k).length + 3 * (queues q).length =
      ∑ k ∈ Finset.range (procs w), 3 * (queues k).length + 3 * xs.length :=
  sumUpdate (Finset.mem_range.mpr low) queues xs (fun l => 3 * l.length)

theorem handWork (hands : Nat → Hand) {p : Nat} (low : p < procs w) (hand : Hand) :
    ∑ k ∈ Finset.range (procs w), (Function.update hands p hand k).work + (hands p).work =
      ∑ k ∈ Finset.range (procs w), (hands k).work + hand.work :=
  sumUpdate (Finset.mem_range.mpr low) hands hand Hand.work

theorem pushWork {s : State} {slot : Nat} {before todo rest : List Nat} {q : Nat} (low : q < procs w)
    (heavy : 6 * todo.length + 6 < s.pc.work) :
    work w { s.push q slot with pc := .refill before todo rest } < work w s := by
  have queued := queueWork s.queues low (s.queues q ++ [slot])
  have refilling : (Pc.refill before todo rest).work = 6 * todo.length + 3 := rfl
  simp only [List.length_append, List.length_singleton] at queued
  simp only [work, State.push, refilling]
  omega

theorem setHandWork {s : State} {p : Nat} {hand : Hand} (low : p < procs w)
    (lighter : hand.work < (s.hands p).work) : work w (s.setHand p hand) < work w s := by
  have moved := handWork s.hands low hand
  simp only [work, State.setHand]
  omega

theorem stepWork {s s' : State} {a : Action} (own : a.own = true)
    (ok : step lib w tee s a = some s') : work w s' < work w s := by
  cases stepTook lib w tee ok with
  | outside forward => cases own
  | cancel => cases own
  | read top fits => cases own
  | leave top => simp [work, top, Pc.work]
  | endBatch here => simp [work, here, Pc.work]
  | skip here why => simp [work, State.drop, here, Pc.work]
  | push here whole room => exact pushWork (targetLow ..) (by rw [here]; simp [Pc.work]; omega)
  | block here whole => simp [work, here, Pc.work]; omega
  | resume here room => exact pushWork (targetLow ..) (by rw [here]; simp [Pc.work])
  | timeout here => simp [work, State.drop, here, Pc.work]
  | giveUp here cancelled => simp [work, here, Pc.work]
  | refill here next => simp [work, here, Pc.work]
  | @take p slot rest low idle next =>
    have queued := queueWork s.queues low rest
    have moved := handWork s.hands low (.holding slot)
    simp only [next, List.length_cons] at queued
    simp only [idle, Hand.work] at moved
    simp only [work, State.setHand]
    simp only [Hand.work]
    omega
  | @handle p fault now slot low held =>
    have moved : work w (s.setHand p (.spent slot)) < work w s := setHandWork low (by simp [held, Hand.work])
    exact moved
  | @release p slot low held =>
    have moved : work w (s.setHand p .idle) < work w s := setHandWork low (by simp [held, Hand.work])
    exact moved
  | exit low closed idle none => exact setHandWork low (by simp [idle, Hand.work])

theorem runWork {s t : State} {acts : List Action} (own : ∀ a ∈ acts, a.own = true)
    (ran : run (step lib w tee) s acts = some t) : acts.length + work w t ≤ work w s := by
  induction acts generalizing s with
  | nil => cases Option.some.inj ran; simp
  | cons a rest ih =>
    obtain ⟨s', stepped, tail⟩ := runCons ran
    have spent := stepWork (own a List.mem_cons_self) stepped
    have later := ih (fun b mem => own b (List.mem_cons_of_mem _ mem)) tail
    simp only [List.length_cons]
    omega

def pending (w : Worker) (s : State) : Multiset (Item Datagram) :=
  ((flow s).batch : Multiset (Item Datagram)) + gathered (Finset.range (procs w)) (flow s).queues +
    gathered (Finset.range (procs w)) (Option.toList ∘ (flow s).hands)

def Stuck (lib : FrameLib) (w : Worker) (tee : Bool) (s : State) : Prop :=
  ∀ a, a.own = true → step lib w tee s a = none

theorem Stuck.dispatched {s : State} (h : Stuck lib w tee s) (owned : Owned w s) : s.pc.todo = [] := by
  cases here : s.pc with
  | top batch => rfl
  | closed batch => rfl
  | dispatch before todo rest =>
    have next := h .next rfl
    simp [step, here] at next
  | waiting before slot todo rest =>
    have timeout := h .timeout rfl
    simp [step, here] at timeout
  | refill before todo rest =>
    obtain ⟨slot, free, left⟩ := owned.refills here
    have refill := h .refill rfl
    simp [step, here, left] at refill

theorem Stuck.handled {s : State} (h : Stuck lib w tee s) (owned : Owned w s) {p : Nat}
    (low : p < procs w) : s.queues p = [] ∧ (s.hands p).held = none := by
  cases hand : s.hands p with
  | exited => exact ⟨(owned.exited p hand).2, rfl⟩
  | idle =>
    have take := h (.take p) rfl
    cases queue : s.queues p with
    | nil => exact ⟨rfl, rfl⟩
    | cons slot rest => simp [step, low, hand, queue] at take
  | holding slot =>
    have handle := h (.handle p .none 0) rfl
    simp [step, low, hand] at handle
  | spent slot =>
    have release := h (.release p) rfl
    simp [step, low, hand, owned.returns low hand] at release

def Quiet (w : Worker) (s : State) : Prop :=
  s.pc.todo = [] ∧ ∀ p < procs w, s.queues p = [] ∧ (s.hands p).held = none

instance (w : Worker) (s : State) : Decidable (Quiet w s) := by unfold Quiet; infer_instance

theorem Quiet.drained {s : State} (h : Quiet w s) : pending w s = 0 := by
  have queues : gathered (Finset.range (procs w)) (flow s).queues = 0 := by
    apply Finset.sum_eq_zero
    intro p low
    simp [flow, (h.2 p (Finset.mem_range.mp low)).1]
  have hands : gathered (Finset.range (procs w)) (Option.toList ∘ (flow s).hands) = 0 := by
    apply Finset.sum_eq_zero
    intro p low
    simp [flow, (h.2 p (Finset.mem_range.mp low)).2]
  rw [pending, queues, hands]
  simp [flow, h.1]

theorem Quiet.noneInFlight {s : State} (h : Quiet w s) (owned : Owned w s) (x : Item Datagram) :
    ¬ ShardedQueues.InFlight (flow s) x := by
  have still : ∀ p, s.queues p = [] ∧ (s.hands p).held = none := by
    intro p
    by_cases low : p < procs w
    · exact h.2 p low
    · obtain ⟨queue, hand⟩ := owned.beyond p (Nat.not_lt.mp low)
      exact ⟨queue, by rw [hand]; rfl⟩
  rintro (batch | ⟨p, queued | held⟩)
  · simp [flow, h.1] at batch
  · simp [flow, (still p).1] at queued
  · simp [flow, (still p).2] at held

theorem Stuck.quiet {s : State} (h : Stuck lib w tee s) (owned : Owned w s) : Quiet w s :=
  ⟨h.dispatched owned, fun _ low => h.handled owned low⟩

end Work

end RetryEndpoint.Pipeline
