import RetryEndpoint.Ingress
import RetryEndpoint.ShardedQueues

/-! The receive pipeline of pipeline.go for one socket. The receive loop, each
processor and the outside take turns in any order. Slots are numbered; a slot's
buffer holds what the last read left in it, so it is the datagram read, cut to
the buffer. The batch array is kept as the part already gone through, the part
still to dispatch and the part the read did not fill. -/
namespace RetryEndpoint.Pipeline
open BigEndian Wire Cache Ingress Places
open ShardedQueues (Item stamped)

def slotSize : Nat := 64 * 1024
def recvBatchSize : Nat := 64
def defaultQueueDepth : Nat := 1024
def defaultProcs : Nat := 4

/- pipelineSize: values below 1 keep the defaults. -/
def depth (w : Worker) : Nat := if w.queueDepth < 1 then defaultQueueDepth else w.queueDepth.toNat
def procs (w : Worker) : Nat := if w.procs < 1 then defaultProcs else w.procs.toNat

def per (w : Worker) : Nat := (depth w + procs w - 1) / procs w
def total (w : Worker) : Nat := per w * procs w + procs w + recvBatchSize

theorem procsPos (w : Worker) : 0 < procs w := by
  unfold procs
  split
  · decide
  · omega

def slotBytes (d : Datagram) : Bytes := d.bytes.take slotSize
def slotTrunc (d : Datagram) : Bool := decide (slotSize < d.bytes.length)

theorem slotBytesAll {d : Datagram} (fits : slotTrunc d = false) : slotBytes d = d.bytes := by
  simp only [slotTrunc, decide_eq_false_iff_not] at fits
  exact List.take_of_length_le (by omega)

def shardBytes (lib : FrameLib) (tee : Bool) (pkt : Bytes) : Bytes :=
  if tee ∧ lib.isEncap pkt then pkt.drop teeHeaderSize else pkt

/- An envelope shorter than its header leaves nothing, which is too short. -/
def shardOf (lib : FrameLib) (tee : Bool) (pkt : Bytes) : UInt64 :=
  let pkt := shardBytes lib tee pkt
  if pkt.length < 56 then 0
  else
    let h := uint64 (slice pkt 40 48) ^^^ (uint64 (slice pkt 48 56) * 0x9E3779B97F4A7C15)
    h ^^^ (h >>> 32)

def target (lib : FrameLib) (w : Worker) (tee : Bool) (d : Datagram) : Nat :=
  if procs w > 1 then (shardOf lib tee (slotBytes d)).toNat % procs w else 0

theorem targetLow (lib : FrameLib) (w : Worker) (tee : Bool) (d : Datagram) :
    target lib w tee d < procs w := by
  unfold target
  split
  · exact Nat.mod_lt _ (procsPos w)
  · exact procsPos w

inductive Reason where | truncated | empty | queueFull | abandoned deriving DecidableEq, Repr

inductive Pc where
  | top (batch : List Nat)
  | dispatch (before todo rest : List Nat)
  | waiting (before : List Nat) (slot : Nat) (todo rest : List Nat)
  | refill (before todo rest : List Nat)
  | closed (batch : List Nat)
  deriving DecidableEq, Repr

inductive Hand where
  | idle | holding (slot : Nat) | spent (slot : Nat) | exited
  deriving DecidableEq, Repr

inductive Record where
  | handled (proc : Nat) (item : Item Datagram) (events : List Event)
  | dropped (reason : Reason) (item : Item Datagram) (events : List Event)
  deriving DecidableEq, Repr

structure State where
  mem : Nat → Item Datagram
  free : List Nat
  pc : Pc
  queues : Nat → List Nat
  hands : Nat → Hand
  labels : Nat → Processor
  cancelled : Bool
  backend : Backend
  clock : Nat
  received : List (Item Datagram)
  history : List Record

def init (w : Worker) (tee : Bool) (b : Backend) : State where
  mem _ := ⟨0, ⟨[], none⟩⟩
  free := (List.range (total w)).drop recvBatchSize
  pc := .top ((List.range (total w)).take recvBatchSize)
  queues _ := []
  hands _ := .idle
  labels _ := .new tee
  cancelled := false
  backend := b
  clock := 0
  received := []
  history := []

/- outside is all that goes on beside this socket: other sockets are read, which
moves the clock that stamps datagrams, and others write to the shared backend. -/
inductive Action where
  | outside (time : Nat) (b : Backend)
  | cancel
  | read (datagrams : List Datagram)
  | leave (fatal : Bool)
  | next
  | resume
  | timeout
  | giveUp
  | refill
  | take (p : Nat)
  | handle (p : Nat) (fault : Fault) (now : Int)
  | release (p : Nat)
  | exit (p : Nat)

def fill (mem : Nat → Item Datagram) : List Nat → List (Item Datagram) → Nat → Item Datagram
  | slot :: slots, x :: xs => fill (Function.update mem slot x) slots xs
  | _, _ => mem

def State.push (s : State) (q slot : Nat) : State :=
  { s with queues := Function.update s.queues q (s.queues q ++ [slot]) }

def State.drop (s : State) (reason : Reason) (slot : Nat) (events : List Event) : State :=
  { s with history := .dropped reason (s.mem slot) events :: s.history }

def State.setHand (s : State) (p : Nat) (hand : Hand) : State :=
  { s with hands := Function.update s.hands p hand }

/- What processor p makes of a slot: the bytes in the buffer, not the datagram. -/
def State.handled (s : State) (lib : FrameLib) (w : Worker) (p slot : Nat) (fault : Fault) (now : Int) :
    List Event × Backend × Processor :=
  let d := (s.mem slot).value
  (s.labels p).handle lib w ⟨slotBytes d, d.source⟩ s.backend fault now

section Step
variable (lib : FrameLib) (w : Worker) (tee : Bool)

def dispatch (s : State) (before : List Nat) : List Nat → List Nat → State
  | [], rest => { s with pc := .top (before ++ rest) }
  | slot :: todo, rest =>
    let d := (s.mem slot).value
    if slotTrunc d then
      { s.drop .truncated slot [.frameDropped .truncated] with
        pc := .dispatch (before ++ [slot]) todo rest }
    else if slotBytes d = [] then
      { s.drop .empty slot [] with pc := .dispatch (before ++ [slot]) todo rest }
    else if (s.queues (target lib w tee d)).length < per w then
      { s.push (target lib w tee d) slot with pc := .refill before todo rest }
    else { s with pc := .waiting before slot todo rest }

def step (s : State) : Action → Option State
  | .outside time b => if s.clock ≤ time then some { s with clock := time, backend := b } else none
  | .cancel => some { s with cancelled := true }
  | .read datagrams =>
    match s.pc with
    | .top batch =>
      if datagrams.length ≤ batch.length then
        let items := stamped s.clock datagrams
        let n := datagrams.length
        some { s with
          mem := fill s.mem (batch.take n) items
          pc := .dispatch [] (batch.take n) (batch.drop n)
          clock := s.clock + n
          received := items.reverse ++ s.received }
      else none
    | _ => none
  -- The context is done, or the socket is gone.
  | .leave fatal =>
    match s.pc with
    | .top batch => if s.cancelled || fatal then some { s with pc := .closed batch } else none
    | _ => none
  | .next =>
    match s.pc with
    | .dispatch before todo rest => some (dispatch lib w tee s before todo rest)
    | _ => none
  | .resume =>
    match s.pc with
    | .waiting before slot todo rest =>
      let q := target lib w tee (s.mem slot).value
      if (s.queues q).length < per w then
        some { s.push q slot with pc := .refill before todo rest }
      else none
    | _ => none
  | .timeout =>
    match s.pc with
    | .waiting before slot todo rest =>
      some { s.drop .queueFull slot [.frameDropped .queueFull] with
        pc := .dispatch (before ++ [slot]) todo rest }
    | _ => none
  | .giveUp =>
    match s.pc with
    | .waiting before slot todo rest =>
      if s.cancelled then some { s with
        pc := .closed (before ++ (slot :: todo) ++ rest)
        history := ((slot :: todo).map (fun k => .dropped .abandoned (s.mem k) [])).reverse ++ s.history }
      else none
    | _ => none
  | .refill =>
    match s.pc, s.free with
    | .refill before todo rest, slot :: free =>
      some { s with free := free, pc := .dispatch (before ++ [slot]) todo rest }
    | _, _ => none
  | .take p =>
    if p < procs w then
      match s.hands p, s.queues p with
      | .idle, slot :: rest =>
        some ({ s with queues := Function.update s.queues p rest }.setHand p (.holding slot))
      | _, _ => none
    else none
  | .handle p fault now =>
    if p < procs w then
      match s.hands p with
      | .holding slot =>
        let (events, b, label) := s.handled lib w p slot fault now
        some { s.setHand p (.spent slot) with
          backend := b
          labels := Function.update s.labels p label
          history := .handled p (s.mem slot) events :: s.history }
      | _ => none
    else none
  -- The send back to the free list blocks while the channel is full.
  | .release p =>
    if p < procs w then
      match s.hands p with
      | .spent slot =>
        if s.free.length < total w then some { s.setHand p .idle with free := s.free ++ [slot] }
        else none
      | _ => none
    else none
  | .exit p =>
    if p < procs w then
      match s.pc, s.hands p, s.queues p with
      | .closed _, .idle, [] => some (s.setHand p .exited)
      | _, _, _ => none
    else none

def Whole (d : Datagram) : Prop := slotTrunc d = false ∧ d.bytes ≠ []

inductive Skipped (d : Datagram) : Reason → List Event → Prop where
  | truncated (cut : slotTrunc d = true) : Skipped d .truncated [.frameDropped .truncated]
  | empty (none : d.bytes = []) : Skipped d .empty []

inductive Took (s : State) : Action → State → Prop where
  | outside {time b} (forward : s.clock ≤ time) :
      Took s (.outside time b) { s with clock := time, backend := b }
  | cancel : Took s .cancel { s with cancelled := true }
  | read {datagrams batch} (top : s.pc = .top batch) (fits : datagrams.length ≤ batch.length) :
      Took s (.read datagrams) { s with
        mem := fill s.mem (batch.take datagrams.length) (stamped s.clock datagrams)
        pc := .dispatch [] (batch.take datagrams.length) (batch.drop datagrams.length)
        clock := s.clock + datagrams.length
        received := (stamped s.clock datagrams).reverse ++ s.received }
  | leave {fatal batch} (top : s.pc = .top batch) : Took s (.leave fatal) { s with pc := .closed batch }
  | endBatch {before rest} (here : s.pc = .dispatch before [] rest) :
      Took s .next { s with pc := .top (before ++ rest) }
  | skip {reason events before slot todo rest} (here : s.pc = .dispatch before (slot :: todo) rest)
      (why : Skipped (s.mem slot).value reason events) :
      Took s .next { s.drop reason slot events with pc := .dispatch (before ++ [slot]) todo rest }
  | push {before slot todo rest} (here : s.pc = .dispatch before (slot :: todo) rest)
      (whole : Whole (s.mem slot).value)
      (room : (s.queues (target lib w tee (s.mem slot).value)).length < per w) :
      Took s .next
        { s.push (target lib w tee (s.mem slot).value) slot with pc := .refill before todo rest }
  | block {before slot todo rest} (here : s.pc = .dispatch before (slot :: todo) rest)
      (whole : Whole (s.mem slot).value)
      (full : per w ≤ (s.queues (target lib w tee (s.mem slot).value)).length) :
      Took s .next { s with pc := .waiting before slot todo rest }
  | resume {before slot todo rest} (here : s.pc = .waiting before slot todo rest)
      (room : (s.queues (target lib w tee (s.mem slot).value)).length < per w) :
      Took s .resume
        { s.push (target lib w tee (s.mem slot).value) slot with pc := .refill before todo rest }
  | timeout {before slot todo rest} (here : s.pc = .waiting before slot todo rest) :
      Took s .timeout { s.drop .queueFull slot [.frameDropped .queueFull] with
        pc := .dispatch (before ++ [slot]) todo rest }
  | giveUp {before slot todo rest} (here : s.pc = .waiting before slot todo rest)
      (cancelled : s.cancelled = true) :
      Took s .giveUp { s with
        pc := .closed (before ++ (slot :: todo) ++ rest)
        history := ((slot :: todo).map (fun k => .dropped .abandoned (s.mem k) [])).reverse ++ s.history }
  | refill {before todo rest slot free} (here : s.pc = .refill before todo rest)
      (next : s.free = slot :: free) :
      Took s .refill { s with free := free, pc := .dispatch (before ++ [slot]) todo rest }
  | take {p slot rest} (low : p < procs w) (idle : s.hands p = .idle)
      (next : s.queues p = slot :: rest) :
      Took s (.take p) ({ s with queues := Function.update s.queues p rest }.setHand p (.holding slot))
  | handle {p fault now slot} (low : p < procs w) (held : s.hands p = .holding slot) :
      Took s (.handle p fault now) { s.setHand p (.spent slot) with
        backend := (s.handled lib w p slot fault now).2.1
        labels := Function.update s.labels p (s.handled lib w p slot fault now).2.2
        history := .handled p (s.mem slot) (s.handled lib w p slot fault now).1 :: s.history }
  | release {p slot} (low : p < procs w) (held : s.hands p = .spent slot) :
      Took s (.release p) { s.setHand p .idle with free := s.free ++ [slot] }
  | exit {p batch} (low : p < procs w) (closed : s.pc = .closed batch) (idle : s.hands p = .idle)
      (none : s.queues p = []) : Took s (.exit p) (s.setHand p .exited)

theorem dispatchTook {s : State} {before todo rest : List Nat}
    (here : s.pc = .dispatch before todo rest) :
    Took lib w tee s .next (dispatch lib w tee s before todo rest) := by
  cases todo with
  | nil => exact .endBatch here
  | cons slot todo =>
    unfold dispatch
    dsimp only
    split
    · exact .skip here (.truncated (by assumption))
    rename_i fits
    have fits := Bool.eq_false_iff.mpr fits
    rw [slotBytesAll fits]
    split
    · exact .skip here (.empty (by assumption))
    rename_i bytes
    split
    · exact .push here ⟨fits, bytes⟩ (by assumption)
    · exact .block here ⟨fits, bytes⟩ (by omega)

theorem stepTook {s s' : State} {a : Action} (ok : step lib w tee s a = some s') :
    Took lib w tee s a s' := by
  cases a with
  | outside time b =>
    simp only [step] at ok
    split at ok <;> try contradiction
    cases Option.some.inj ok
    exact .outside (by assumption)
  | cancel => cases Option.some.inj ok; exact .cancel
  | read datagrams =>
    simp only [step] at ok
    split at ok <;> try contradiction
    split at ok <;> try contradiction
    cases Option.some.inj ok
    exact .read (by assumption) (by assumption)
  | leave fatal =>
    simp only [step] at ok
    split at ok <;> try contradiction
    split at ok <;> try contradiction
    cases Option.some.inj ok
    exact .leave (by assumption)
  | next =>
    simp only [step] at ok
    split at ok <;> try contradiction
    cases Option.some.inj ok
    exact dispatchTook lib w tee (by assumption)
  | resume =>
    simp only [step] at ok
    split at ok <;> try contradiction
    split at ok <;> try contradiction
    cases Option.some.inj ok
    exact .resume (by assumption) (by assumption)
  | timeout =>
    simp only [step] at ok
    split at ok <;> try contradiction
    cases Option.some.inj ok
    exact .timeout (by assumption)
  | giveUp =>
    simp only [step] at ok
    split at ok <;> try contradiction
    split at ok <;> try contradiction
    cases Option.some.inj ok
    exact .giveUp (by assumption) (by assumption)
  | refill =>
    simp only [step] at ok
    split at ok <;> try contradiction
    cases Option.some.inj ok
    exact .refill (by assumption) (by assumption)
  | take p =>
    simp only [step] at ok
    split at ok <;> try contradiction
    split at ok <;> try contradiction
    cases Option.some.inj ok
    exact .take (by assumption) (by assumption) (by assumption)
  | handle p fault now =>
    simp only [step] at ok
    split at ok <;> try contradiction
    split at ok <;> try contradiction
    cases Option.some.inj ok
    exact .handle (by assumption) (by assumption)
  | release p =>
    simp only [step] at ok
    split at ok <;> try contradiction
    split at ok <;> try contradiction
    split at ok <;> try contradiction
    cases Option.some.inj ok
    exact .release (by assumption) (by assumption)
  | exit p =>
    simp only [step] at ok
    split at ok <;> try contradiction
    split at ok <;> try contradiction
    cases Option.some.inj ok
    exact .exit (by assumption) (by assumption) (by assumption) (by assumption)

end Step

end RetryEndpoint.Pipeline
