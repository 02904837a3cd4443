import Mathlib.Data.List.Perm.Basic
import RetryEndpoint.Places
import RetryEndpoint.Runs

/-! A buffered channel and the workers that take from it. A job taken goes by its
ticket, the number of jobs taken before it, so that one equation says that jobs
are taken in the order they were sent and one permutation that each job taken is
in one worker's hands or finished, once. Where each job taken stands is kept by
ticket beside the pool. -/
namespace RetryEndpoint.WorkPool
open Runs
open scoped List

inductive Hand where
  | idle
  | busy (ticket : Nat)
  | gone
  deriving DecidableEq, Repr

structure Pool (J : Type) where
  queue : List J
  hands : List Hand
  cancelled : Bool
  closed : Bool
  sent : List J
  taken : List J
  finished : List Nat

variable {J : Type}

def new (workers : Nat) : Pool J := ⟨[], List.replicate workers .idle, false, false, [], [], []⟩

namespace Pool

def cancel (p : Pool J) : Pool J := { p with cancelled := true }

def send (cap : Nat) (p : Pool J) (job : J) : Option (Pool J) :=
  if p.closed = false ∧ p.queue.length < cap then
    some { p with queue := p.queue ++ [job], sent := p.sent ++ [job] }
  else none

/- A channel is closed once: a second close has no step. -/
def close (p : Pool J) : Option (Pool J) :=
  if p.closed then none else some { p with closed := true }

/- What is left in a closed or cancelled channel can still be taken. -/
def take (p : Pool J) (i : Nat) : Option (J × Pool J) :=
  match p.hands[i]?, p.queue with
  | some .idle, job :: rest =>
    some (job, { p with
      queue := rest, hands := p.hands.set i (.busy p.taken.length), taken := p.taken ++ [job] })
  | _, _ => none

def finish (p : Pool J) (i ticket : Nat) : Option (Pool J) :=
  if p.hands[i]? = some (.busy ticket) then
    some { p with hands := p.hands.set i .idle, finished := ticket :: p.finished }
  else none

def exit (p : Pool J) (i : Nat) : Option (Pool J) :=
  if p.hands[i]? = some .idle ∧ (p.cancelled = true ∨ p.closed = true ∧ p.queue = []) then
    some { p with hands := p.hands.set i .gone }
  else none

end Pool

inductive Moved (cap : Nat) (p : Pool J) : Pool J → Prop where
  | cancel : Moved cap p p.cancel
  | send {job} (isOpen : p.closed = false) (room : p.queue.length < cap) :
      Moved cap p { p with queue := p.queue ++ [job], sent := p.sent ++ [job] }
  | close (isOpen : p.closed = false) : Moved cap p { p with closed := true }
  | take {i job rest} (idle : p.hands[i]? = some .idle) (next : p.queue = job :: rest) :
      Moved cap p { p with
        queue := rest, hands := p.hands.set i (.busy p.taken.length), taken := p.taken ++ [job] }
  | finish {i ticket} (busy : p.hands[i]? = some (.busy ticket)) :
      Moved cap p { p with hands := p.hands.set i .idle, finished := ticket :: p.finished }
  | exit {i} (idle : p.hands[i]? = some .idle)
      (told : p.cancelled = true ∨ p.closed = true ∧ p.queue = []) :
      Moved cap p { p with hands := p.hands.set i .gone }

section Inversion
variable {cap i ticket : Nat} {p p' : Pool J} {job : J}

theorem sendMoved (ok : p.send cap job = some p') :
    p.closed = false ∧ p.queue.length < cap ∧
      p' = { p with queue := p.queue ++ [job], sent := p.sent ++ [job] } := by
  unfold Pool.send at ok
  split at ok <;> try contradiction
  rename_i may
  exact ⟨may.1, may.2, (Option.some.inj ok).symm⟩

theorem closeMoved (ok : p.close = some p') : p.closed = false ∧ p' = { p with closed := true } := by
  unfold Pool.close at ok
  split at ok <;> try contradiction
  rename_i isOpen
  exact ⟨Bool.eq_false_iff.mpr isOpen, (Option.some.inj ok).symm⟩

theorem takeMoved (ok : p.take i = some (job, p')) :
    ∃ rest, p.hands[i]? = some .idle ∧ p.queue = job :: rest ∧
      p' = { p with
        queue := rest, hands := p.hands.set i (.busy p.taken.length), taken := p.taken ++ [job] } := by
  unfold Pool.take at ok
  split at ok <;> try contradiction
  rename_i job' rest idle next
  cases Option.some.inj ok
  exact ⟨rest, idle, next, rfl⟩

theorem finishMoved (ok : p.finish i ticket = some p') :
    p.hands[i]? = some (.busy ticket) ∧
      p' = { p with hands := p.hands.set i .idle, finished := ticket :: p.finished } := by
  unfold Pool.finish at ok
  split at ok <;> try contradiction
  rename_i busy
  exact ⟨busy, (Option.some.inj ok).symm⟩

theorem exitMoved (ok : p.exit i = some p') :
    p.hands[i]? = some .idle ∧ (p.cancelled = true ∨ p.closed = true ∧ p.queue = []) ∧
      p' = { p with hands := p.hands.set i .gone } := by
  unfold Pool.exit at ok
  split at ok <;> try contradiction
  rename_i may
  exact ⟨may.1, may.2, (Option.some.inj ok).symm⟩

end Inversion

def Hand.ticket : Hand → Option Nat
  | .busy ticket => some ticket
  | _ => none

def held (hands : List Hand) : List Nat := hands.filterMap Hand.ticket

theorem movedFilter {σ τ : Type*} {places : List σ} {i : Nat} {v w : σ} (here : places[i]? = some v)
    (f : σ → Option τ) :
    ((f v).toList ++ (places.set i w).filterMap f).Perm ((f w).toList ++ places.filterMap f) := by
  induction places generalizing i with
  | nil => cases here
  | cons first rest ih =>
    have consed : ∀ (x : σ) (xs : List σ), (x :: xs).filterMap f = (f x).toList ++ xs.filterMap f := by
      intro x xs
      cases h : f x <;> simp [h]
    cases i with
    | zero =>
      cases Option.some.inj here
      simp only [List.set_cons_zero, consed, ← List.append_assoc]
      exact (List.perm_append_comm).append_right _
    | succ i =>
      have tail := ih (i := i) here
      have swap : ∀ a b c : List τ, (a ++ (b ++ c)).Perm (b ++ (a ++ c)) := by
        intro a b c
        simp only [← List.append_assoc]
        exact (List.perm_append_comm).append_right _
      simp only [List.set_cons_succ, consed]
      exact (swap ..).trans ((tail.append_left _).trans (swap ..))

structure Sound (cap : Nat) (p : Pool J) : Prop where
  fifo : p.sent = p.taken ++ p.queue
  room : p.queue.length ≤ cap
  once : (p.finished ++ held p.hands).Perm (List.range p.taken.length)

theorem soundNew (cap workers : Nat) : Sound cap (new (J := J) workers) := by
  refine ⟨rfl, Nat.zero_le cap, ?_⟩
  have none : held (List.replicate workers Hand.idle) = [] := by
    simp [held, Hand.ticket]
  simp only [new, none, List.append_nil, List.length_nil, List.range_zero, List.Perm.refl]

section Keeps
variable {cap : Nat} {p p' : Pool J}

theorem Sound.moved (h : Sound cap p) (moved : Moved cap p p') : Sound cap p' := by
  cases moved with
  | cancel => exact ⟨h.fifo, h.room, h.once⟩
  | send isOpen room =>
    refine ⟨?_, ?_, h.once⟩
    · simp only [h.fifo, List.append_assoc]
    · simp only [List.length_append, List.length_singleton]
      exact room
  | close isOpen => exact ⟨h.fifo, h.room, h.once⟩
  | @take i job rest idle next =>
    have queued := h.room
    rw [next, List.length_cons] at queued
    refine ⟨?_, Nat.le_of_succ_le queued, ?_⟩
    · simp only [h.fifo, next, List.append_assoc, List.singleton_append]
    · have picked : (held (p.hands.set i (.busy p.taken.length))).Perm (p.taken.length :: held p.hands) :=
        movedFilter idle Hand.ticket
      simp only [List.length_append, List.length_singleton, List.range_succ]
      calc p.finished ++ held (p.hands.set i (.busy p.taken.length))
        _ ~ p.finished ++ (p.taken.length :: held p.hands) := picked.append_left _
        _ ~ p.taken.length :: (p.finished ++ held p.hands) := List.perm_middle
        _ ~ p.taken.length :: List.range p.taken.length := h.once.cons _
        _ ~ List.range p.taken.length ++ [p.taken.length] := (List.perm_append_singleton ..).symm
  | @finish i ticket busy =>
    refine ⟨h.fifo, h.room, ?_⟩
    have dropped : (ticket :: held (p.hands.set i .idle)).Perm (held p.hands) :=
      movedFilter busy Hand.ticket
    exact List.perm_middle.symm.trans ((dropped.append_left _).trans h.once)
  | @exit i idle told =>
    refine ⟨h.fifo, h.room, ?_⟩
    have same : (held (p.hands.set i .gone)).Perm (held p.hands) := movedFilter idle Hand.ticket
    exact (same.append_left _).trans h.once

theorem Moved.workers (moved : Moved cap p p') : p'.hands.length = p.hands.length := by
  cases moved <;> simp [Pool.cancel]

theorem Sound.nodup (h : Sound cap p) : (p.finished ++ held p.hands).Nodup :=
  h.once.nodup_iff.mpr List.nodup_range

theorem memHeld {hands : List Hand} {i ticket : Nat} (busy : hands[i]? = some (.busy ticket)) :
    ticket ∈ held hands :=
  List.mem_filterMap.mpr ⟨_, List.mem_of_getElem? busy, rfl⟩

theorem Sound.heldTaken (h : Sound cap p) {ticket : Nat} (mem : ticket ∈ held p.hands) :
    ticket < p.taken.length :=
  List.mem_range.mp (h.once.mem_iff.mp (List.mem_append_right _ mem))

theorem Sound.either (h : Sound cap p) {ticket : Nat} (low : ticket < p.taken.length) :
    ticket ∈ p.finished ∨ ticket ∈ held p.hands :=
  List.mem_append.mp (h.once.mem_iff.mpr (List.mem_range.mpr low))

theorem heldLength (hands : List Hand) : (held hands).length ≤ hands.length :=
  List.length_filterMap_le ..

theorem goneHeld {hands : List Hand} (gone : ∀ hand ∈ hands, hand = .gone) : held hands = [] := by
  refine List.filterMap_eq_nil_iff.mpr ?_
  intro hand mem
  rw [gone hand mem]
  rfl

theorem Sound.allFinished (h : Sound cap p) (gone : ∀ hand ∈ p.hands, hand = .gone) :
    p.finished.Perm (List.range p.taken.length) := by
  have once := h.once
  rwa [goneHeld gone, List.append_nil] at once

end Keeps

def Hand.work : Hand → Nat
  | .busy _ => 2
  | .idle => 1
  | .gone => 0

def Pool.work (p : Pool J) : Nat := 2 * p.queue.length + (p.hands.map Hand.work).sum

section Work
variable {p : Pool J} {i : Nat}

theorem takeWork {job : J} {rest : List J} (idle : p.hands[i]? = some .idle) (next : p.queue = job :: rest) :
    2 * rest.length + ((p.hands.set i (.busy p.taken.length)).map Hand.work).sum < p.work := by
  have moved := movedSum (w := .busy p.taken.length) idle Hand.work
  simp only [Hand.work] at moved
  simp only [Pool.work, next, List.length_cons]
  omega

theorem finishWork {ticket : Nat} (busy : p.hands[i]? = some (.busy ticket)) :
    2 * p.queue.length + ((p.hands.set i .idle).map Hand.work).sum < p.work := by
  have moved := movedSum (w := .idle) busy Hand.work
  simp only [Hand.work] at moved
  simp only [Pool.work]
  omega

theorem exitWork (idle : p.hands[i]? = some .idle) :
    2 * p.queue.length + ((p.hands.set i .gone).map Hand.work).sum < p.work := by
  have moved := movedSum (w := .gone) idle Hand.work
  simp only [Hand.work] at moved
  simp only [Pool.work]
  omega

theorem notGone (left : ¬ ∀ hand ∈ p.hands, hand = .gone) (told : p.cancelled = true) :
    (∃ i ticket : Nat, p.hands[i]? = some (.busy ticket)) ∨ ∃ i p', p.exit i = some p' := by
  simp only [not_forall] at left
  obtain ⟨hand, mem, stays⟩ := left
  obtain ⟨i, here⟩ := List.mem_iff_getElem?.mp mem
  cases hand with
  | idle => exact .inr ⟨i, _, if_pos ⟨here, .inl told⟩⟩
  | busy ticket => exact .inl ⟨i, ticket, here⟩
  | gone => exact absurd rfl stays

end Work

section Calls
variable {φ : Type}

structure Tracked (through : φ → Bool) (taken : List J) (finished : List Nat)
    (calls : Nat → Option (J × φ)) : Prop where
  begun : ∀ id, (calls id).map Prod.fst = taken[id]?
  ended : ∀ id ∈ finished, ∃ job phase, calls id = some (job, phase) ∧ through phase = true

variable {through : φ → Bool} {taken : List J} {finished : List Nat} {calls : Nat → Option (J × φ)}
  {id : Nat} {job : J} {phase : φ}

theorem trackedNew : Tracked through ([] : List J) [] (fun _ => none) :=
  ⟨fun _ => rfl, fun _ mem => by cases mem⟩

theorem Tracked.isJob (h : Tracked through taken finished calls) (here : calls id = some (job, phase)) :
    taken[id]? = some job := by
  rw [← h.begun id, here, Option.map_some]

theorem Tracked.low (h : Tracked through taken finished calls) (here : calls id = some (job, phase)) :
    id < taken.length :=
  (List.getElem?_eq_some_iff.mp (h.isJob here)).1

theorem Tracked.fresh (h : Tracked through taken finished calls) : calls taken.length = none := by
  have begun := h.begun taken.length
  rwa [List.getElem?_eq_none (Nat.le_refl _), Option.map_eq_none_iff] at begun

theorem Tracked.call (h : Tracked through taken finished calls) (low : id < taken.length) :
    ∃ job phase, calls id = some (job, phase) := by
  have begun := h.begun id
  rw [List.getElem?_eq_getElem low, Option.map_eq_some_iff] at begun
  obtain ⟨⟨job, phase⟩, here, -⟩ := begun
  exact ⟨job, phase, here⟩

theorem Tracked.begin (h : Tracked through taken finished calls) (job : J) (phase : φ) :
    Tracked through (taken ++ [job]) finished
      (Function.update calls taken.length (some (job, phase))) := by
  constructor
  · intro id
    by_cases same : id = taken.length
    · subst same
      simp
    · rw [Function.update_of_ne same, h.begun]
      rcases Nat.lt_or_gt_of_ne same with low | high
      · rw [List.getElem?_append_left low]
      · rw [List.getElem?_eq_none (Nat.le_of_lt high), List.getElem?_eq_none]
        rwa [List.length_append, List.length_singleton]
  · intro id mem
    obtain ⟨job', phase', here, ended⟩ := h.ended id mem
    exact ⟨job', phase', by rw [Function.update_of_ne (Nat.ne_of_lt (h.low here)), here], ended⟩

theorem Tracked.move (h : Tracked through taken finished calls) (here : calls id = some (job, phase))
    (still : through phase = false) (phase' : φ) :
    Tracked through taken finished (Function.update calls id (some (job, phase'))) := by
  constructor
  · intro k
    by_cases same : k = id
    · subst same
      rw [Function.update_self, ← h.begun, here]
      rfl
    · rw [Function.update_of_ne same, h.begun]
  · intro k mem
    obtain ⟨job', phase'', there, ended⟩ := h.ended k mem
    have other : k ≠ id := by
      rintro rfl
      rw [here] at there
      cases Option.some.inj there
      rw [still] at ended
      cases ended
    exact ⟨job', phase'', by rw [Function.update_of_ne other, there], ended⟩

theorem Tracked.finish (h : Tracked through taken finished calls) (here : calls id = some (job, phase))
    (ended : through phase = true) : Tracked through taken (id :: finished) calls := by
  refine ⟨h.begun, ?_⟩
  intro k mem
  rcases List.mem_cons.mp mem with rfl | before
  · exact ⟨job, phase, here, ended⟩
  · exact h.ended k before

def inCall (through : φ → Bool) (calls : Nat → Option (J × φ)) (id : Nat) : Bool :=
  match calls id with
  | some (_, phase) => !through phase
  | none => false

def running (through : φ → Bool) (p : Pool J) (calls : Nat → Option (J × φ)) : List Nat :=
  (List.range p.taken.length).filter (inCall through calls)

variable {cap : Nat} {p : Pool J}

theorem Sound.runningHeld (h : Sound cap p) (tracked : Tracked through p.taken p.finished calls)
    (mem : id ∈ running through p calls) : id ∈ held p.hands := by
  obtain ⟨low, still⟩ := List.mem_filter.mp mem
  rcases h.either (List.mem_range.mp low) with ended | mine
  · obtain ⟨job, phase, here, through'⟩ := tracked.ended id ended
    simp [inCall, here, through'] at still
  · exact mine

theorem Sound.runningFew (h : Sound cap p) (tracked : Tracked through p.taken p.finished calls) :
    (running through p calls).length ≤ p.hands.length := by
  have nodup : (running through p calls).Nodup := List.nodup_range.filter _
  have within : (running through p calls).Subperm (held p.hands) :=
    List.subperm_of_subset nodup (fun id mem => h.runningHeld tracked mem)
  exact within.length_le.trans (heldLength _)

theorem Sound.allThrough (h : Sound cap p) (tracked : Tracked through p.taken p.finished calls)
    (gone : ∀ hand ∈ p.hands, hand = .gone) (here : calls id = some (job, phase)) :
    through phase = true := by
  have mem := (h.allFinished gone).mem_iff.mpr (List.mem_range.mpr (tracked.low here))
  obtain ⟨job', phase', there, ended⟩ := tracked.ended id mem
  rw [here] at there
  cases Option.some.inj there
  exact ended

end Calls

section Totals
variable {φ : Type} {calls : Nat → Option (J × φ)} {id n : Nat} {job : J} {phase : φ}

def weigh (weight : φ → Nat) : Option (J × φ) → Nat
  | some (_, phase) => weight phase
  | none => 0

def total (weight : φ → Nat) (n : Nat) (calls : Nat → Option (J × φ)) : Nat :=
  ∑ id ∈ Finset.range n, weigh weight (calls id)

theorem totalMove (weight : φ → Nat) (low : id < n) (here : calls id = some (job, phase)) (phase' : φ) :
    total weight n (Function.update calls id (some (job, phase'))) + weight phase =
      total weight n calls + weight phase' := by
  have moved := Places.sumUpdate (Finset.mem_range.mpr low) calls (some (job, phase')) (weigh weight)
  rwa [here] at moved

theorem totalCounts {weight : φ → Nat} {count count' : Nat} {phase' : φ} (low : id < n)
    (here : calls id = some (job, phase)) (before : count = total weight n calls)
    (after : count' + weight phase = count + weight phase') :
    count' = total weight n (Function.update calls id (some (job, phase'))) := by
  have moved := totalMove weight low here phase'
  omega

theorem totalCovers {weight : φ → Nat} {count count' : Nat} {phase' : φ} (low : id < n)
    (here : calls id = some (job, phase)) (before : count ≤ total weight n calls)
    (after : count' + weight phase ≤ count + weight phase') :
    count' ≤ total weight n (Function.update calls id (some (job, phase'))) := by
  have moved := totalMove weight low here phase'
  omega

theorem totalBegin (weight : φ → Nat) (calls : Nat → Option (J × φ)) (n : Nat) (job : J) (phase : φ) :
    total weight (n + 1) (Function.update calls n (some (job, phase))) =
      total weight n calls + weight phase := by
  rw [total, Finset.sum_range_succ, Function.update_self]
  congr 1
  refine Finset.sum_congr rfl ?_
  intro k mem
  rw [Function.update_of_ne (Nat.ne_of_lt (Finset.mem_range.mp mem))]

theorem totalAdd (weight weight' : φ → Nat) (n : Nat) (calls : Nat → Option (J × φ)) :
    total (fun phase => weight phase + weight' phase) n calls = total weight n calls + total weight' n calls := by
  rw [total, total, total, ← Finset.sum_add_distrib]
  refine Finset.sum_congr rfl ?_
  intro k _
  cases calls k <;> rfl

theorem totalLe {weight weight' : φ → Nat} (less : ∀ phase, weight phase ≤ weight' phase) (n : Nat)
    (calls : Nat → Option (J × φ)) : total weight n calls ≤ total weight' n calls := by
  have split : weight' = fun phase => weight phase + (weight' phase - weight phase) := by
    funext phase
    have here := less phase
    omega
  rw [split, totalAdd]
  exact Nat.le_add_right ..

theorem totalCount (through : φ → Bool) (p : Pool J) (calls : Nat → Option (J × φ)) :
    total (fun phase => if through phase then 0 else 1) p.taken.length calls =
      (running through p calls).length := by
  rw [running, ← List.countP_eq_length_filter, total]
  induction p.taken.length with
  | zero => rfl
  | succ n ih =>
    rw [Finset.sum_range_succ, ih, List.range_succ, List.countP_append, List.countP_singleton]
    congr 1
    unfold inCall weigh
    split
    · rename_i job phase here
      by_cases ended : through phase = true <;> simp [ended]
    · rfl

theorem totalOne {through : φ → Bool} {taken : List J} {finished : List Nat}
    (h : Tracked through taken finished calls) : total (fun _ => 1) taken.length calls = taken.length := by
  have one : ∀ id ∈ Finset.range taken.length, weigh (fun _ => 1) (calls id) = 1 := by
    intro id mem
    obtain ⟨job, phase, here⟩ := h.call (Finset.mem_range.mp mem)
    rw [here]
    rfl
  rw [total, Finset.sum_congr rfl one, ← Finset.card_eq_sum_ones, Finset.card_range]

theorem totalGone {through : φ → Bool} {cap : Nat} {p : Pool J} (h : Sound cap p)
    (tracked : Tracked through p.taken p.finished calls) (gone : ∀ hand ∈ p.hands, hand = .gone) {weight : φ → Nat}
    (rest : ∀ phase, through phase = true → weight phase = 0) : total weight p.taken.length calls = 0 := by
  refine Finset.sum_eq_zero ?_
  intro id _
  cases here : calls id with
  | none => rfl
  | some call => exact rest _ (h.allThrough tracked gone here)

end Totals

end RetryEndpoint.WorkPool
