import RetryEndpoint.Pipeline
import Mathlib.Algebra.Order.BigOperators.Group.Finset

/-! Where the slots of the receive pipeline are. Every slot is on the free list,
in the receiver's batch, in a queue or with a processor, once; the batch has its
full width but for the moment of a refill, and no queue exceeds its capacity.
The counts leave the refill a slot and every processor room to return one. -/
namespace RetryEndpoint.Pipeline
open Ingress Wire Places Runs
open ShardedQueues (Item stamped)

def Pc.slots : Pc → List Nat
  | .top batch | .closed batch => batch
  | .dispatch before todo rest | .refill before todo rest => before ++ todo ++ rest
  | .waiting before slot todo rest => before ++ (slot :: todo) ++ rest

def Pc.gap : Pc → Nat
  | .refill .. => 1
  | _ => 0

def Hand.slots : Hand → List Nat
  | .holding slot | .spent slot => [slot]
  | .idle | .exited => []

structure Owned (w : Worker) (s : State) : Prop where
  slots : (s.free : Multiset Nat) + s.pc.slots + gathered (Finset.range (procs w)) s.queues +
    gathered (Finset.range (procs w)) (Hand.slots ∘ s.hands) = Multiset.range (total w)
  width : s.pc.slots.length + s.pc.gap = recvBatchSize
  depth : ∀ q, (s.queues q).length ≤ per w
  beyond : ∀ p, procs w ≤ p → s.queues p = [] ∧ s.hands p = .idle
  exited : ∀ p, s.hands p = .exited → (∃ batch, s.pc = .closed batch) ∧ s.queues p = []

theorem initOwned (w : Worker) (tee : Bool) (b : Cache.Backend) : Owned w (init w tee b) := by
  refine ⟨?_, ?_, ?_, fun p _ => ⟨rfl, rfl⟩, ?_⟩
  · have parts := List.take_append_drop recvBatchSize (List.range (total w))
    have places := congrArg (fun l : List Nat => (l : Multiset Nat)) parts
    simp only [← Multiset.coe_add, Multiset.coe_range] at places
    simp [init, Pc.slots, Hand.slots, gathered, ← places, add_comm]
  · simp [init, Pc.slots, Pc.gap, total]
  · intro q
    simp [init]
  · intro p gone
    cases gone

section Step
variable {lib : FrameLib} {w : Worker} {tee : Bool}

theorem Owned.moved {s s' : State} (h : Owned w s) (free : s'.free = s.free)
    (queues : s'.queues = s.queues) (hands : s'.hands = s.hands)
    (slots : s'.pc.slots = s.pc.slots) (gap : s'.pc.gap = s.pc.gap)
    (running : ∀ batch, s.pc ≠ .closed batch) : Owned w s' := by
  refine ⟨?_, ?_, ?_, ?_, ?_⟩
  · rw [free, queues, hands, slots]
    exact h.slots
  · rw [slots, gap]
    exact h.width
  · rw [queues]
    exact h.depth
  · rw [queues, hands]
    exact h.beyond
  · rw [hands]
    intro p gone
    obtain ⟨⟨batch, closed⟩, -⟩ := h.exited p gone
    exact absurd closed (running batch)

theorem Owned.pushed {s : State} (h : Owned w s) {q slot : Nat} {before todo rest : List Nat}
    (slots : s.pc.slots = before ++ (slot :: todo) ++ rest) (gap : s.pc.gap = 0)
    (low : q < procs w) (room : (s.queues q).length < per w)
    (running : ∀ batch, s.pc ≠ .closed batch) :
    Owned w { s.push q slot with pc := .refill before todo rest } := by
  have total := h.slots
  have width := h.width
  rw [slots] at total width
  refine ⟨?_, ?_, ?_, ?_, ?_⟩
  · simp only [State.push, Pc.slots]
    rw [gatheredPush (Finset.mem_range.mpr low), ← total]
    simp only [← Multiset.coe_add, ← Multiset.cons_coe, ← Multiset.singleton_add]
    abel
  · rw [gap] at width
    simp only [Pc.slots, Pc.gap, List.length_append, List.length_cons] at width ⊢
    omega
  · intro k
    by_cases same : k = q
    · subst k
      simp only [State.push, Function.update_self, List.length_append, List.length_singleton]
      omega
    · simp only [State.push, Function.update_of_ne same]
      exact h.depth k
  · intro p high
    simp only [State.push, Function.update_of_ne (Nat.ne_of_gt (Nat.lt_of_lt_of_le low high))]
    exact h.beyond p high
  · intro p gone
    obtain ⟨⟨batch, closed⟩, -⟩ := h.exited p gone
    exact absurd closed (running batch)

theorem Owned.handled {s s' : State} (h : Owned w s) {p : Nat} {hand : Hand} (low : p < procs w)
    (free : s'.free = s.free) (pc : s'.pc = s.pc) (queues : s'.queues = s.queues)
    (hands : s'.hands = Function.update s.hands p hand) (same : hand.slots = (s.hands p).slots)
    (exited : hand = .exited → (∃ batch, s.pc = .closed batch) ∧ s.queues p = []) : Owned w s' := by
  refine ⟨?_, ?_, ?_, ?_, ?_⟩
  · have held : Function.update (Hand.slots ∘ s.hands) p hand.slots = Hand.slots ∘ s.hands := by
      rw [same]
      exact Function.update_eq_self p _
    rw [free, pc, queues, hands, Function.comp_update, held]
    exact h.slots
  · rw [pc]
    exact h.width
  · rw [queues]
    exact h.depth
  · rw [hands, queues]
    intro k high
    rw [Function.update_of_ne (Nat.ne_of_gt (Nat.lt_of_lt_of_le low high))]
    exact h.beyond k high
  · rw [hands, pc, queues]
    intro k gone
    by_cases here : k = p
    · subst k
      rw [Function.update_self] at gone
      exact exited gone
    · rw [Function.update_of_ne here] at gone
      exact h.exited k gone

theorem Owned.refilled {s : State} (h : Owned w s) {before todo rest free : List Nat} {slot : Nat}
    (here : s.pc = .refill before todo rest) (next : s.free = slot :: free) :
    Owned w { s with free := free, pc := .dispatch (before ++ [slot]) todo rest } := by
  have total := h.slots
  have width := h.width
  rw [here] at total width
  refine ⟨?_, ?_, h.depth, h.beyond, ?_⟩
  · rw [← total, next]
    simp only [Pc.slots, ← Multiset.coe_add, Multiset.coe_singleton]
    rw [← Multiset.cons_coe, ← Multiset.singleton_add]
    abel
  · simp only [Pc.slots, Pc.gap, List.length_append, List.length_singleton] at width ⊢
    omega
  · intro p gone
    obtain ⟨⟨batch, closed⟩, -⟩ := h.exited p gone
    rw [here] at closed
    cases closed

theorem Owned.working {s s' : State} (h : Owned w s) {p : Nat} {hand : Hand} (low : p < procs w)
    (busy : hand ≠ .exited)
    (slots : (s'.free : Multiset Nat) + s'.pc.slots + gathered (Finset.range (procs w)) s'.queues +
      gathered (Finset.range (procs w)) (Hand.slots ∘ s'.hands) = Multiset.range (total w))
    (pc : s'.pc = s.pc) (queues : ∀ q, s'.queues q = s.queues q ∨ q = p ∧ s'.queues q = (s.queues q).tail)
    (hands : s'.hands = Function.update s.hands p hand) : Owned w s' := by
  refine ⟨slots, by rw [pc]; exact h.width, ?_, ?_, ?_⟩
  · intro q
    rcases queues q with same | ⟨-, popped⟩
    · rw [same]
      exact h.depth q
    · rw [popped, List.length_tail]
      exact Nat.le_trans (Nat.sub_le _ _) (h.depth q)
  · intro k high
    have other : k ≠ p := Nat.ne_of_gt (Nat.lt_of_lt_of_le low high)
    rcases queues k with same | ⟨here, -⟩
    · rw [same, hands, Function.update_of_ne other]
      exact h.beyond k high
    · exact absurd here other
  · rw [hands, pc]
    intro k gone
    by_cases here : k = p
    · subst k
      rw [Function.update_self] at gone
      exact absurd gone busy
    · rw [Function.update_of_ne here] at gone
      obtain ⟨closed, none'⟩ := h.exited k gone
      rcases queues k with same | ⟨mine, -⟩
      · rw [same]
        exact ⟨closed, none'⟩
      · exact absurd mine here

theorem stepOwned {s s' : State} {a : Action} (h : Owned w s)
    (ok : step lib w tee s a = some s') : Owned w s' := by
  cases stepTook lib w tee ok with
  | outside forward => exact ⟨h.slots, h.width, h.depth, h.beyond, h.exited⟩
  | cancel => exact ⟨h.slots, h.width, h.depth, h.beyond, h.exited⟩
  | @read datagrams batch top fits =>
    exact h.moved rfl rfl rfl (by simp [top, Pc.slots]) (by simp [top, Pc.gap]) (by simp [top])
  | leave top => exact h.moved rfl rfl rfl (by simp [top, Pc.slots]) (by simp [top, Pc.gap]) (by simp [top])
  | endBatch here =>
    exact h.moved rfl rfl rfl (by simp [here, Pc.slots]) (by simp [here, Pc.gap]) (by simp [here])
  | skip here why =>
    exact h.moved rfl rfl rfl (by simp [here, Pc.slots]) (by simp [here, Pc.gap]) (by simp [here])
  | push here whole room =>
    exact h.pushed (by simp [here, Pc.slots]) (by simp [here, Pc.gap]) (targetLow ..) room (by simp [here])
  | block here whole =>
    exact h.moved rfl rfl rfl (by simp [here, Pc.slots]) (by simp [here, Pc.gap]) (by simp [here])
  | resume here room =>
    exact h.pushed (by simp [here, Pc.slots]) (by simp [here, Pc.gap]) (targetLow ..) room (by simp [here])
  | timeout here =>
    exact h.moved rfl rfl rfl (by simp [here, Pc.slots]) (by simp [here, Pc.gap]) (by simp [here])
  | giveUp here cancelled =>
    exact h.moved rfl rfl rfl (by simp [here, Pc.slots]) (by simp [here, Pc.gap]) (by simp [here])
  | refill here next => exact h.refilled here next
  | @take p slot rest low idle next =>
    have popped := gatheredPop (Finset.mem_range.mpr low) next
    have held := gatheredSet (g := Hand.slots ∘ s.hands) (Finset.mem_range.mpr low) [slot]
      (by simp [idle, Hand.slots])
    refine h.working low (show Hand.holding slot ≠ .exited from nofun) ?_ rfl ?_ rfl
    · simp only [State.setHand]
      rw [Function.comp_update, Hand.slots, held, ← h.slots, ← popped, Multiset.coe_singleton]
      abel
    · intro q
      by_cases same : q = p
      · subst q
        exact .inr ⟨rfl, by simp [State.setHand, next]⟩
      · exact .inl (Function.update_of_ne same ..)
  | handle low held => exact h.handled low rfl rfl rfl rfl (by simp [held, Hand.slots]) nofun
  | @release p slot low held =>
    have popped := gatheredPop (g := Hand.slots ∘ s.hands) (Finset.mem_range.mpr low)
      (show (Hand.slots ∘ s.hands) p = slot :: [] by simp [held, Hand.slots])
    refine h.working low (show Hand.idle ≠ .exited from nofun) ?_ rfl (fun _ => .inl rfl) rfl
    simp only [State.setHand]
    rw [Function.comp_update, Hand.slots, ← h.slots, ← popped, ← Multiset.coe_add,
      Multiset.coe_singleton]
    abel
  | @exit p batch low closed idle none =>
    exact h.handled low rfl rfl rfl rfl (by simp [idle, Hand.slots]) (fun _ => ⟨⟨batch, closed⟩, none⟩)

end Step

variable {w : Worker} {s : State}

theorem Owned.onePlace (h : Owned w s) {slot : Nat} (real : slot < total w) :
    s.free.count slot + s.pc.slots.count slot + ∑ q ∈ Finset.range (procs w), (s.queues q).count slot +
      ∑ p ∈ Finset.range (procs w), (s.hands p).slots.count slot = 1 := by
  have once := congrArg (Multiset.count slot) h.slots
  rw [Multiset.count_eq_one_of_mem (Multiset.nodup_range _) (Multiset.mem_range.mpr real)] at once
  simpa only [Multiset.count_add, Multiset.coe_count, countGathered, Function.comp_apply] using once

theorem Owned.counts (h : Owned w s) :
    s.free.length + s.pc.slots.length + ∑ q ∈ Finset.range (procs w), (s.queues q).length +
      ∑ p ∈ Finset.range (procs w), (s.hands p).slots.length = total w := by
  have sizes := congrArg Multiset.card h.slots
  simpa only [Multiset.card_add, Multiset.coe_card, cardGathered, Function.comp_apply,
    Multiset.card_range] using sizes

/- The queues can hold no more than their capacity and the processors one slot
each, so the slot a refill asks for is there. -/
theorem Owned.refills (h : Owned w s) {before todo rest : List Nat}
    (here : s.pc = .refill before todo rest) : ∃ slot free, s.free = slot :: free := by
  have counts := h.counts
  have width := h.width
  have queued : ∑ q ∈ Finset.range (procs w), (s.queues q).length ≤ procs w * per w := by
    simpa using Finset.sum_le_card_nsmul (Finset.range (procs w)) _ (per w) (fun q _ => h.depth q)
  have held : ∑ p ∈ Finset.range (procs w), (s.hands p).slots.length ≤ procs w := by
    have one : ∀ p ∈ Finset.range (procs w), (s.hands p).slots.length ≤ 1 := by
      intro p _
      cases s.hands p <;> simp [Hand.slots]
    simpa using Finset.sum_le_card_nsmul (Finset.range (procs w)) _ 1 one
  simp only [here, Pc.gap] at width
  simp only [here, total, Nat.mul_comm (per w)] at counts
  cases left : s.free with
  | nil =>
    rw [left, List.length_nil] at counts
    omega
  | cons slot free => exact ⟨slot, free, rfl⟩

theorem Owned.returns (h : Owned w s) {p slot : Nat} (low : p < procs w)
    (held : s.hands p = .spent slot) : s.free.length < total w := by
  have counts := h.counts
  have mine : (s.hands p).slots.length ≤ ∑ k ∈ Finset.range (procs w), (s.hands k).slots.length :=
    Finset.single_le_sum (f := fun k => (s.hands k).slots.length) (fun _ _ => Nat.zero_le _)
      (Finset.mem_range.mpr low)
  have one : (s.hands p).slots.length = 1 := by rw [held]; rfl
  omega

theorem Owned.batchNodup (h : Owned w s) : s.pc.slots.Nodup := by
  have all := Multiset.nodup_range (total w)
  rw [← h.slots] at all
  have front := (Multiset.nodup_add.mp (Multiset.nodup_add.mp all).1).1
  exact Multiset.coe_nodup.mp (Multiset.nodup_add.mp front).2.1

theorem Owned.apart (h : Owned w s) {slot : Nat} (mine : slot ∈ s.pc.slots) (p : Nat) :
    slot ∉ s.queues p ∧ slot ∉ (s.hands p).slots := by
  by_cases low : procs w ≤ p
  · obtain ⟨queue, hand⟩ := h.beyond p low
    rw [queue, hand]
    exact ⟨List.not_mem_nil, List.not_mem_nil⟩
  rw [Nat.not_le] at low
  have all := Multiset.nodup_range (total w)
  rw [← h.slots] at all
  obtain ⟨front, -, hands⟩ := Multiset.nodup_add.mp all
  obtain ⟨-, -, queues⟩ := Multiset.nodup_add.mp front
  have here : slot ∈ (s.free : Multiset Nat) + s.pc.slots :=
    Multiset.mem_add.mpr (.inr (Multiset.mem_coe.mpr mine))
  constructor
  · intro queued
    exact Multiset.disjoint_left.mp queues here (memGathered (Finset.mem_range.mpr low) queued)
  · intro held
    refine Multiset.disjoint_left.mp hands (Multiset.mem_add.mpr (.inl here)) ?_
    exact memGathered (g := Hand.slots ∘ s.hands) (Finset.mem_range.mpr low) held

end RetryEndpoint.Pipeline
