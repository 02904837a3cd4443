import RetryEndpoint.AckHonesty
import RetryEndpoint.Proxy
import RetryEndpoint.Places
import RetryEndpoint.Runs
import Mathlib.Data.Finset.Lattice.Fold
import Mathlib.Data.Fintype.Basic
import Mathlib.Order.Lattice.Nat
import Mathlib.Algebra.GroupWithZero.Nat

/-! Endpoints that proxy for each other over any upstream graph. A datagram on its
way may be lost, duplicated or late, and anyone may send one. A recovery claims,
asks and hears one upstream after the other, each as a step of its own. What
bounds the traffic is that a proxied NACK makes no job: every NACK an endpoint
sends is paid for by a NACK that was not proxied, at so many upstreams a job. -/
namespace RetryEndpoint.OneHop
open BigEndian Wire Cache Retransmit RateLimit Runs

open Proxy (Job Client)

structure Recovery where
  job : Job
  next : Nat
  waiting : Bool
  deriving DecidableEq, Repr

structure Host (β : Type) where
  st : NackServer.State β
  queue : List Job
  running : List Recovery

structure Packet (ι : Type) where
  dest : ι
  datagram : Bytes
  src : Option UDPAddr
  deriving DecidableEq

inductive Event (ι : Type) where
  | processed (host : ι) (datagram : Bytes)
  | created (host : ι) (job : Job) (datagram : Bytes)
  | emitted (host : ι) (msg : Bytes)

/- The graph is where an upstream's name leads. -/
structure Net (ι : Type) where
  server : ι → NackServer.Server
  client : ι → Client
  route : String → ι

structure State (ι β : Type) where
  hosts : ι → Host β
  soup : List (Packet ι)
  history : List (Event ι)

def init {ι β : Type} (start : ι → NackServer.State β) : State ι β :=
  ⟨fun i => ⟨start i, [], []⟩, [], []⟩

inductive Action {ι : Type} (net : Net ι) where
  | send (p : Packet ι)
  | lose (p : Packet ι)
  | duplicate (p : Packet ι)
  | receive (p : Packet ι) (env : NackServer.Env (net.server p.dest).retransmit)
  | start (i : ι) (env : Proxy.Env (net.client i).cfg.retrans)
  | ask (i : ι) (r : Recovery) (env : Proxy.Env (net.client i).cfg.retrans) (src : UDPAddr)
  | hear (i : ι) (r : Recovery) (env : Proxy.Env (net.client i).cfg.retrans)
  | stop (i : ι) (r : Recovery)

def jobOf : NackServer.Effect → Option Job
  | .enqueue hashKey seq subtree requester => some ⟨hashKey, seq, subtree, requester⟩
  | _ => none

def jobsOf (fx : List NackServer.Effect) : List Job := fx.filterMap jobOf

def offer (c : Client) (queue : List Job) : List Job → List Job × List Job
  | [] => ([], queue)
  | j :: rest =>
    let (taken, queue) := c.enqueue queue j
    let (more, queue) := offer c queue rest
    (if taken then j :: more else more, queue)

variable {ι β : Type} [DecidableEq ι]

def State.move (s : State ι β) (i : ι) (h : Host β) (soup : List (Packet ι))
    (events : List (Event ι)) : State ι β :=
  ⟨Function.update s.hosts i h, soup, events ++ s.history⟩

def receive (rt : Runtime β) (lib : FrameLib) (net : Net ι) (s : State ι β) (p : Packet ι)
    (env : NackServer.Env (net.server p.dest).retransmit) : Option (State ι β) :=
  let h := s.hosts p.dest
  match NackServer.readNACK p.datagram with
  | none => some (s.move p.dest h (s.soup.erase p) [])
  | some d => do
    let (fx, st) ← (net.server p.dest).processNACK rt lib env d p.src h.st
    let (made, queue) := offer (net.client p.dest) h.queue (jobsOf fx)
    some (s.move p.dest { h with st := st, queue := queue } (s.soup.erase p)
      (made.map (fun j => .created p.dest j d) ++ [.processed p.dest d]))

def Host.setBackend (h : Host β) (b : Backend) : Host β := { h with st := { h.st with backend := b } }

def start (net : Net ι) (s : State ι β) (i : ι) (env : Proxy.Env (net.client i).cfg.retrans) :
    Option (State ι β) :=
  let h := s.hosts i
  match h.queue with
  | [] => none
  | j :: rest =>
    if (h.running.length : Int) < (net.client i).cfg.workers then
      let (go, b) := (net.client i).cfg.claim j h.st.backend env.claimFault env.claimNow
      let running := if go then ⟨j, 0, false⟩ :: h.running else h.running
      some (s.move i { h.setBackend b with queue := rest, running := running } s.soup [])
    else none

def ask (net : Net ι) (s : State ι β) (i : ι) (r : Recovery)
    (env : Proxy.Env (net.client i).cfg.retrans) (src : UDPAddr) : Option (State ι β) :=
  let h := s.hosts i
  let c := net.client i
  if r ∈ h.running ∧ r.waiting = false ∧ r.next < c.cfg.maxEndpoints.toNat then
    match c.cfg.upstreams[r.next]? with
    | none => none
    | some upstream =>
      let a := env.attempt r.next
      if a.resolves && a.listens && a.sends then
        let msg := Proxy.buildNACK r.job
        some (s.move i { h with running := { r with waiting := true } :: h.running.erase r }
          (⟨net.route upstream, msg, some src⟩ :: s.soup) [.emitted i msg])
      else some (s.move i { h with running := { r with next := r.next + 1 } :: h.running.erase r }
        s.soup [])
  else none

def hear (lib : FrameLib) (net : Net ι) (s : State ι β) (i : ι) (r : Recovery)
    (env : Proxy.Env (net.client i).cfg.retrans) : Option (State ι β) :=
  let h := s.hosts i
  if r ∈ h.running ∧ r.waiting = true then
    match Proxy.fetchLoop (env.attempt r.next).arrivals with
    | some raw =>
      let (_, b) := (net.client i).cfg.deliver lib env r.job raw h.st.backend
      some (s.move i { h.setBackend b with running := h.running.erase r } s.soup [])
    | none =>
      some (s.move i { h with running := ⟨r.job, r.next + 1, false⟩ :: h.running.erase r } s.soup [])
  else none

def step (rt : Runtime β) (lib : FrameLib) (net : Net ι) (s : State ι β) :
    Action net → Option (State ι β)
  | .send p => some { s with soup := p :: s.soup }
  | .lose p => if p ∈ s.soup then some { s with soup := s.soup.erase p } else none
  | .duplicate p => if p ∈ s.soup then some { s with soup := p :: s.soup } else none
  | .receive p env => if p ∈ s.soup then receive rt lib net s p env else none
  | .start i env => start net s i env
  | .ask i r env src => ask net s i r env src
  | .hear i r env => hear lib net s i r env
  -- The context is done, or no upstream is left: both are seen between attempts.
  | .stop i r =>
    if r ∈ (s.hosts i).running ∧ r.waiting = false then
      some (s.move i { s.hosts i with running := (s.hosts i).running.erase r } s.soup [])
    else none

def isPlain (d : Bytes) : Bool :=
  (NackServer.validateNACK d).toBool && !(NackServer.parseNACK d).proxied

def isPlainProcessed : Event ι → Bool
  | .processed _ d => isPlain d
  | _ => false

def isEmitted : Event ι → Bool
  | .emitted _ _ => true
  | _ => false

omit [DecidableEq ι] in
theorem nackJobs {rt : Runtime β} {lib : FrameLib} {s : NackServer.Server}
    {env : NackServer.Env s.retransmit} {d : Bytes} {src : Option UDPAddr}
    {st st' : NackServer.State β} {fx : List NackServer.Effect}
    (ran : s.processNACK rt lib env d src st = some (fx, st')) :
    jobsOf fx = [] ∨ isPlain d = true ∧ ∃ j, jobsOf fx = [j] := by
  have quiet : ∀ fx : List NackServer.Effect, (∀ e ∈ fx, jobOf e = none) → jobsOf fx = [] :=
    fun _ all => List.filterMap_eq_nil_iff.mpr all
  have throttled : ∀ bucket seqNum, jobsOf (s.throttle src bucket seqNum) = [] := by
    intro bucket seqNum
    apply quiet
    intro e mem
    obtain ⟨dst, -, rfl⟩ := AckHonesty.throttleMem mem
    rfl
  cases NackServer.processed ran with
  | malformed => exact .inl rfl
  | range => exact .inl rfl
  | denied =>
    split
    · exact .inl (throttled _ _)
    · exact .inl rfl
  | chainDenied => exact .inl (throttled _ _)
  | cacheError => exact .inl rfl
  | groupDenied => exact .inl (throttled _ _)
  | served admitted hit group =>
    left
    apply quiet
    intro e mem
    cases e with
    | enqueue => exact absurd mem AckHonesty.dispatchNoJob
    | respond => rfl
    | retransmit => rfl
    | unicast => rfl
  | miss admitted absent =>
    have answer : jobsOf (s.miss src) = [] := by
      unfold NackServer.Server.miss
      split
      · split <;> rfl
      · rfl
    unfold jobsOf at answer
    rw [NackServer.Server.missed, jobsOf, List.filterMap_append, answer, List.nil_append]
    split
    · rename_i enabled
      simp only [Bool.and_eq_true, Bool.not_eq_true'] at enabled
      refine .inr ⟨?_, _, rfl⟩
      simp [isPlain, admitted.valid, enabled.2, Except.toBool]
    · exact .inl rfl

omit [DecidableEq ι] in
theorem offerTakes (c : Client) (queue jobs : List Job) :
    (offer c queue jobs).2 = queue ++ (offer c queue jobs).1 ∧
      (offer c queue jobs).1.Sublist jobs := by
  induction jobs generalizing queue with
  | nil => simp [offer]
  | cons j rest ih =>
    unfold offer Proxy.Client.enqueue
    dsimp only
    split
    · obtain ⟨after, sub⟩ := ih (queue ++ [j])
      exact ⟨by simp [after], by simpa using sub.cons_cons j⟩
    · obtain ⟨after, sub⟩ := ih queue
      exact ⟨by simpa using after, by simpa using sub.cons j⟩

/- What is still owed: a queued job may ask every upstream, a running one those
it has not asked yet. -/
def remaining (most : Nat) (r : Recovery) : Nat := most - (r.next + if r.waiting then 1 else 0)

def Host.debt (most : Nat) (h : Host β) : Nat :=
  h.queue.length * most + (h.running.map (remaining most)).sum

theorem debtSwap (most : Nat) {h : Host β} {r : Recovery} (r' : Recovery) (mem : r ∈ h.running) :
    { h with running := r' :: h.running.erase r }.debt most + remaining most r =
      h.debt most + remaining most r' := by
  have total := List.sum_map_erase (remaining most) mem
  simp only [Host.debt, List.map_cons, List.sum_cons]
  omega

theorem debtDrop (most : Nat) {h : Host β} {r : Recovery} (mem : r ∈ h.running) :
    { h with running := h.running.erase r }.debt most + remaining most r = h.debt most := by
  have total := List.sum_map_erase (remaining most) mem
  simp only [Host.debt]
  omega

def Holds (h : Host β) (j : Job) : Prop := j ∈ h.queue ∨ ∃ r ∈ h.running, r.job = j

theorem holdsSwap {h : Host β} {r r' : Recovery} {j : Job} (mem : r ∈ h.running)
    (held : Holds { h with running := r' :: h.running.erase r } j) (same : r'.job = r.job) :
    Holds h j := by
  rcases held with queued | ⟨x, inside, rfl⟩
  · exact .inl queued
  · rcases List.mem_cons.mp inside with rfl | old
    · exact .inr ⟨r, mem, same.symm⟩
    · exact .inr ⟨x, List.mem_of_mem_erase old, rfl⟩

theorem holdsDrop {h : Host β} {r : Recovery} {j : Job}
    (held : Holds { h with running := h.running.erase r } j) : Holds h j := by
  rcases held with queued | ⟨x, inside, rfl⟩
  · exact .inl queued
  · exact .inr ⟨x, List.mem_of_mem_erase inside, rfl⟩

section Balance
variable [Fintype ι]

def State.debt (most : Nat) (s : State ι β) : Nat := ∑ i, (s.hosts i).debt most

theorem debtMove (most : Nat) (s : State ι β) (i : ι) (h : Host β) (soup : List (Packet ι))
    (events : List (Event ι)) :
    (s.move i h soup events).debt most + (s.hosts i).debt most = s.debt most + h.debt most :=
  Places.sumUpdate (Finset.mem_univ i) s.hosts h (Host.debt most)

def Net.most (net : Net ι) : Nat :=
  Finset.univ.sup (fun i => (net.client i).cfg.maxEndpoints.toNat)

structure Paid (net : Net ι) (s : State ι β) : Prop where
  origin : ∀ i j, Holds (s.hosts i) j → ∃ d, .created i j d ∈ s.history
  plain : ∀ i j d, .created i j d ∈ s.history → isPlain d = true ∧ .processed i d ∈ s.history
  flagged : ∀ i msg, .emitted i msg ∈ s.history → byteAt msg 7 &&& flagProxied ≠ 0
  balance : s.history.countP isEmitted + s.debt net.most ≤
    net.most * s.history.countP isPlainProcessed

omit [DecidableEq ι] in
theorem initPaid (net : Net ι) (start : ι → NackServer.State β) : Paid net (init start) := by
  refine ⟨?_, ?_, ?_, ?_⟩
  · rintro i j (queued | ⟨r, running, -⟩)
    · cases queued
    · cases running
  · intro i j d mem
    cases mem
  · intro i msg mem
    cases mem
  · simp [init, State.debt, Host.debt]

theorem Paid.move {net : Net ι} {s : State ι β} (paid : Paid net s) {i : ι} {h : Host β}
    {soup : List (Packet ι)} {events : List (Event ι)}
    (jobs : ∀ j, Holds h j → Holds (s.hosts i) j ∨ ∃ d, .created i j d ∈ events)
    (plain : ∀ k j d, .created k j d ∈ events → isPlain d = true ∧ .processed k d ∈ events)
    (flagged : ∀ k msg, .emitted k msg ∈ events → byteAt msg 7 &&& flagProxied ≠ 0)
    (covered : events.countP isEmitted + h.debt net.most ≤
      (s.hosts i).debt net.most + net.most * events.countP isPlainProcessed) :
    Paid net (s.move i h soup events) := by
  refine ⟨?_, ?_, ?_, ?_⟩
  · intro k j held
    have old : Holds (s.hosts k) j → ∃ d, .created k j d ∈ (s.move i h soup events).history := by
      intro before
      obtain ⟨d, mem⟩ := paid.origin k j before
      exact ⟨d, List.mem_append_right _ mem⟩
    by_cases same : k = i
    · subst k
      simp only [State.move, Function.update_self] at held
      rcases jobs j held with before | ⟨d, mem⟩
      · exact old before
      · exact ⟨d, List.mem_append_left _ mem⟩
    · simp only [State.move, Function.update_of_ne same] at held
      exact old held
  · intro k j d mem
    rcases List.mem_append.mp mem with isNew | before
    · exact ⟨(plain k j d isNew).1, List.mem_append_left _ (plain k j d isNew).2⟩
    · exact ⟨(paid.plain k j d before).1, List.mem_append_right _ (paid.plain k j d before).2⟩
  · intro k msg mem
    rcases List.mem_append.mp mem with isNew | before
    · exact flagged k msg isNew
    · exact paid.flagged k msg before
  · have total := debtMove net.most s i h soup events
    have balance := paid.balance
    simp only [State.move, List.countP_append, Nat.mul_add] at total ⊢
    omega

theorem Paid.silent {net : Net ι} {s : State ι β} (paid : Paid net s) {i : ι} {h : Host β}
    {soup : List (Packet ι)} (jobs : ∀ j, Holds h j → Holds (s.hosts i) j)
    (covered : h.debt net.most ≤ (s.hosts i).debt net.most) : Paid net (s.move i h soup []) := by
  refine paid.move (fun j held => .inl (jobs j held)) ?_ ?_ (by simpa using covered)
  · intro k j d mem
    cases mem
  · intro k msg mem
    cases mem

omit [DecidableEq ι] in
theorem Paid.wire {net : Net ι} {s : State ι β} (paid : Paid net s) (soup : List (Packet ι)) :
    Paid net { s with soup := soup } := ⟨paid.origin, paid.plain, paid.flagged, paid.balance⟩

theorem nackFlagged (flags : UInt8) (hashKey startSeq endSeq : UInt64) (subtree : Bytes) :
    byteAt (nack flags hashKey startSeq endSeq subtree) 7 = flags := by
  rw [nack, preambleBytes]
  rfl

omit [DecidableEq ι] in
theorem madeFew {rt : Runtime β} {lib : FrameLib} {s : NackServer.Server}
    {env : NackServer.Env s.retransmit} {d : Bytes} {src : Option UDPAddr}
    {st st' : NackServer.State β} {fx : List NackServer.Effect} {made : List Job}
    (ran : s.processNACK rt lib env d src st = some (fx, st')) (sub : made.Sublist (jobsOf fx))
    (most : Nat) :
    made.length * most ≤ most * (isPlain d).toNat ∧ (made ≠ [] → isPlain d = true) := by
  rcases nackJobs ran with none' | ⟨plain, j, one⟩
  · rw [none', List.sublist_nil] at sub
    subst sub
    simp
  · rw [one] at sub
    have len := sub.length_le
    simp only [List.length_singleton] at len
    rw [plain, Bool.toNat_true, Nat.mul_one]
    exact ⟨by simpa using Nat.mul_le_mul_right most len, fun _ => rfl⟩

omit [DecidableEq ι] [Fintype ι] in
theorem receivedCounts (i : ι) (made : List Job) (d : Bytes) :
    (made.map (fun j => Event.created i j d) ++ [Event.processed i d]).countP isEmitted = 0 ∧
      (made.map (fun j => Event.created i j d) ++ [Event.processed i d]).countP isPlainProcessed =
        (isPlain d).toNat := by
  have noneSent : (made.map (fun j => Event.created i j d)).countP isEmitted = 0 := by
    rw [List.countP_map]
    exact List.countP_eq_zero.mpr (by simp [isEmitted])
  have noneRead : (made.map (fun j => Event.created i j d)).countP isPlainProcessed = 0 := by
    rw [List.countP_map]
    exact List.countP_eq_zero.mpr (by simp [isPlainProcessed])
  rw [List.countP_append, List.countP_append, noneSent, noneRead]
  cases plain : isPlain d <;> simp [isEmitted, isPlainProcessed, plain]

theorem receivePaid {rt : Runtime β} {lib : FrameLib} {net : Net ι} {s s' : State ι β}
    {p : Packet ι} {env : NackServer.Env (net.server p.dest).retransmit} (paid : Paid net s)
    (ok : receive rt lib net s p env = some s') : Paid net s' := by
  unfold receive at ok
  dsimp only at ok
  split at ok
  · cases Option.some.inj ok
    exact paid.silent (fun _ held => held) (Nat.le_refl _)
  · rename_i d _
    simp only [bind, Option.bind_eq_some_iff] at ok
    obtain ⟨⟨fx, st⟩, ran, last⟩ := ok
    cases Option.some.inj last
    obtain ⟨queue, sub⟩ := offerTakes (net.client p.dest) (s.hosts p.dest).queue (jobsOf fx)
    generalize (offer (net.client p.dest) (s.hosts p.dest).queue (jobsOf fx)).1 = made at queue sub ⊢
    dsimp only
    rw [queue]
    have few := madeFew ran sub net.most
    obtain ⟨noneSent, plainRead⟩ := receivedCounts p.dest made d
    refine paid.move ?_ ?_ ?_ ?_
    · rintro j (queued | running)
      · rcases List.mem_append.mp queued with old | isNew
        · exact .inl (.inl old)
        · exact .inr ⟨d, List.mem_append_left _ (List.mem_map.mpr ⟨j, isNew, rfl⟩)⟩
      · exact .inl (.inr running)
    · intro k j d' mem
      rcases List.mem_append.mp mem with isNew | other
      · obtain ⟨j', inside, same⟩ := List.mem_map.mp isNew
        cases same
        exact ⟨few.2 (List.ne_nil_of_mem inside), List.mem_append_right _ List.mem_cons_self⟩
      · cases List.mem_singleton.mp other
    · intro k msg mem
      rcases List.mem_append.mp mem with isNew | other
      · obtain ⟨j', inside, same⟩ := List.mem_map.mp isNew
        cases same
      · cases List.mem_singleton.mp other
    · rw [noneSent, plainRead]
      simp only [Host.debt, List.length_append, Nat.add_mul]
      omega

theorem startPaid {net : Net ι} {s s' : State ι β} {i : ι}
    {env : Proxy.Env (net.client i).cfg.retrans} (paid : Paid net s)
    (ok : start net s i env = some s') : Paid net s' := by
  unfold start at ok
  dsimp only at ok
  split at ok <;> try contradiction
  rename_i j rest front
  split at ok <;> try contradiction
  cases Option.some.inj ok
  have first : j ∈ (s.hosts i).queue := by
    rw [front]
    exact List.mem_cons_self
  cases (net.client i).cfg.claim j (s.hosts i).st.backend env.claimFault env.claimNow with
  | mk go b =>
    apply paid.silent
    · rintro k (queued | ⟨r, mem, rfl⟩)
      · exact .inl (by rw [front]; exact List.mem_cons_of_mem _ queued)
      · cases go with
        | false => exact .inr ⟨r, mem, rfl⟩
        | true =>
          rcases List.mem_cons.mp mem with rfl | old
          · exact .inl first
          · exact .inr ⟨r, old, rfl⟩
    · cases go with
      | false =>
        simp only [Host.debt, front, List.length_cons, Nat.add_mul, if_false,
          Bool.false_eq_true]
        omega
      | true =>
        simp only [Host.debt, front, List.length_cons, Nat.add_mul, if_true,
          List.map_cons, List.sum_cons, remaining]
        omega

omit [DecidableEq ι] in
theorem mostAtLeast (net : Net ι) (i : ι) : (net.client i).cfg.maxEndpoints.toNat ≤ net.most :=
  Finset.le_sup (f := fun i => (net.client i).cfg.maxEndpoints.toNat) (Finset.mem_univ i)

theorem askPaid {net : Net ι} {s s' : State ι β} {i : ι} {r : Recovery}
    {env : Proxy.Env (net.client i).cfg.retrans} {src : UDPAddr} (paid : Paid net s)
    (ok : ask net s i r env src = some s') : Paid net s' := by
  unfold ask at ok
  dsimp only at ok
  split at ok <;> try contradiction
  rename_i enabled
  obtain ⟨mem, idle, low⟩ := enabled
  split at ok <;> try contradiction
  split at ok
  · cases Option.some.inj ok
    refine paid.move (fun j held => .inl (holdsSwap mem held rfl)) ?_ ?_ ?_
    · intro k j d never
      cases List.mem_singleton.mp never
    · intro k msg isNew
      cases List.mem_singleton.mp isNew
      rw [Proxy.buildNACK, nackFlagged]
      decide
    · -- One upstream fewer is owed for the one NACK sent.
      have swap := debtSwap net.most { r with waiting := true } mem
      have reach := Nat.lt_of_lt_of_le low (mostAtLeast net i)
      simp only [remaining, idle, if_true, if_false, Bool.false_eq_true] at swap
      have counted : [Event.emitted i (Proxy.buildNACK r.job)].countP isEmitted = 1 := rfl
      rw [counted]
      omega
  · cases Option.some.inj ok
    refine paid.silent (fun j held => holdsSwap mem held rfl) ?_
    have swap := debtSwap net.most { r with next := r.next + 1 } mem
    simp only [remaining] at swap
    omega

theorem hearPaid {lib : FrameLib} {net : Net ι} {s s' : State ι β} {i : ι} {r : Recovery}
    {env : Proxy.Env (net.client i).cfg.retrans} (paid : Paid net s)
    (ok : hear lib net s i r env = some s') : Paid net s' := by
  unfold hear at ok
  dsimp only at ok
  split at ok <;> try contradiction
  rename_i enabled
  obtain ⟨mem, waits⟩ := enabled
  split at ok
  · cases Option.some.inj ok
    refine paid.silent (fun j held => holdsDrop (h := s.hosts i) held) ?_
    have drop := debtDrop net.most mem
    simp only [Host.debt, Host.setBackend] at drop ⊢
    omega
  · cases Option.some.inj ok
    refine paid.silent (fun j held => holdsSwap mem held rfl) ?_
    have swap := debtSwap net.most ⟨r.job, r.next + 1, false⟩ mem
    simp only [remaining, waits, if_true, if_false, Bool.false_eq_true] at swap
    omega

theorem stepPaid {rt : Runtime β} {lib : FrameLib} {net : Net ι} {s s' : State ι β}
    {a : Action net} (paid : Paid net s) (ok : step rt lib net s a = some s') : Paid net s' := by
  cases a with
  | send p =>
    cases Option.some.inj ok
    exact paid.wire _
  | lose p =>
    simp only [step] at ok
    split at ok <;> try contradiction
    cases Option.some.inj ok
    exact paid.wire _
  | duplicate p =>
    simp only [step] at ok
    split at ok <;> try contradiction
    cases Option.some.inj ok
    exact paid.wire _
  | receive p env =>
    simp only [step] at ok
    split at ok <;> try contradiction
    exact receivePaid paid ok
  | start i env => exact startPaid paid ok
  | ask i r env src => exact askPaid paid ok
  | hear i r env => exact hearPaid paid ok
  | stop i r =>
    simp only [step] at ok
    split at ok <;> try contradiction
    rename_i enabled
    cases Option.some.inj ok
    refine paid.silent (fun j held => holdsDrop held) ?_
    have drop := debtDrop net.most enabled.1
    omega

/-- Whatever the graph and the schedule: a job comes from a NACK that was not
proxied, what an endpoint sends is flagged, a flagged NACK makes no job, and the
NACKs sent are at most the plain NACKs processed times the most upstreams of any
endpoint. -/
theorem oneHop (rt : Runtime β) (lib : FrameLib) (net : Net ι) (start : ι → NackServer.State β)
    (acts : List (Action net)) (s : State ι β)
    (ran : run (step rt lib net) (init start) acts = some s) :
    (∀ i j, Holds (s.hosts i) j → ∃ d, .created i j d ∈ s.history) ∧
    (∀ i j d, .created i j d ∈ s.history →
      (NackServer.parseNACK d).proxied = false ∧ .processed i d ∈ s.history) ∧
    (∀ i msg, .emitted i msg ∈ s.history → byteAt msg 7 &&& flagProxied ≠ 0) ∧
    (∀ i d src env fx st, (NackServer.parseNACK d).proxied = true →
      (net.server i).processNACK rt lib env d src (s.hosts i).st = some (fx, st) →
      ∀ hashKey seq subtree requester, .enqueue hashKey seq subtree requester ∉ fx) ∧
    s.history.countP isEmitted ≤
      s.history.countP isPlainProcessed * Finset.univ.sup (fun i => (net.client i).cfg.maxEndpoints.toNat) := by
  have paid : Paid net s := invariant (fun _ _ _ => stepPaid) (initPaid net start) ran
  refine ⟨paid.origin, ?_, paid.flagged, ?_, ?_⟩
  · intro i j d made
    obtain ⟨plain, processed⟩ := paid.plain i j d made
    simp only [isPlain, Bool.and_eq_true, Bool.not_eq_true'] at plain
    exact ⟨plain.2, processed⟩
  · intro i d src env fx st proxied processed hashKey seq subtree requester mem
    have made : ⟨hashKey, seq, subtree, requester⟩ ∈ jobsOf fx := List.mem_filterMap.mpr ⟨_, mem, rfl⟩
    rcases nackJobs processed with none' | ⟨plain, -⟩
    · rw [none'] at made
      cases made
    · simp [isPlain, proxied] at plain
  · rw [Nat.mul_comm]
    exact Nat.le_trans (Nat.le_add_right _ _) paid.balance

end Balance

def loop : Net Unit where
  server _ := NackServer.endpoint true true
  client _ := Proxy.new ⟨["self"], 0, 0, 0, 0, 0, none, ⟨[0x66]⟩,
    (NackServer.endpoint true true).retransmit, ⟨60, 60, 60, 60, 60⟩, true, true⟩
  route _ := ()

def cold : NackServer.State Unit := { NackServer.warm with backend := ExpiringStore.empty }

def missing : Job := ⟨7, 9, List.replicate 32 0, some NackServer.listener⟩

def silent : Proxy.Env (loop.client ()).cfg.retrans :=
  ⟨.none, 0, fun _ => false, fun _ => ⟨true, true, true, []⟩, .none, 0, .none, 0, ["eth0"],
    oneSocketVisits, fun _ => false, false⟩

def request : Packet Unit := ⟨(), NackServer.ask 0, some NackServer.listener⟩
def forwarded : Packet Unit := ⟨(), Proxy.buildNACK missing, some NackServer.listener⟩

def around : List (Action loop) :=
  [.send request, .receive request (NackServer.calm true true false), .start () silent,
    .ask () ⟨missing, 0, false⟩ silent NackServer.listener,
    .receive forwarded (NackServer.calm true true false)]

theorem oneHopLoop :
    ∃ s, run (step Runtime.plenty .plain loop) (init fun _ => cold) around = some s ∧
      s.history.countP isEmitted = 1 ∧
      s.history.countP isEmitted ≤ s.history.countP isPlainProcessed *
        Finset.univ.sup (fun i => (loop.client i).cfg.maxEndpoints.toNat) := by
  have computed : (run (step Runtime.plenty .plain loop) (init fun _ => cold) around).map
      (fun s => s.history.countP isEmitted) = some 1 := by decide +kernel
  obtain ⟨s, ran, sent⟩ := Option.map_eq_some_iff.mp computed
  exact ⟨s, ran, sent, (oneHop Runtime.plenty .plain loop _ around s ran).2.2.2.2⟩

end RetryEndpoint.OneHop
