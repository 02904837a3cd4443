import RetryEndpoint.Proxy
import RetryEndpoint.Ingress

/-! Which frame a recovery delivers. The read loop takes the first datagram that
looks like a frame, whoever sent it: it looks at the length, the magic and one
byte, and never at the flow key of the job. -/
namespace RetryEndpoint.FetchedFrame
open BigEndian Wire Cache Retransmit Proxy

structure Asked (lib : FrameLib) (j : Job) (raw : Bytes) : Prop where
  decodes : (Ingress.decodeClass lib raw).isSome
  key : keyBytes raw = flowKey j.hashKey j.seq

def delivers : Effect → Option Bytes
  | .nack _ _ => none
  | .store _ value _ _ => some value
  | .retransmit raw _ _ _ => some raw
  | .unicast raw _ _ => some raw

def returned (a : Attempt) : Option Bytes :=
  if a.resolves && a.listens && a.sends then fetchLoop a.arrivals else none

structure EndsLoop (arrivals : List Bytes) (raw : Bytes) : Prop where
  first : ∃ early arrival late, arrivals = early ++ arrival :: late ∧
    raw = arrival.take fetchBuffer ∧
    ∀ d ∈ early, isFrameReturn (d.take fetchBuffer) = false ∧ isMiss (d.take fetchBuffer) = false

theorem EndsLoop.skip {arrival raw : Bytes} {rest : List Bytes} (h : EndsLoop rest raw)
    (junk : isFrameReturn (arrival.take fetchBuffer) = false ∧
      isMiss (arrival.take fetchBuffer) = false) : EndsLoop (arrival :: rest) raw := by
  obtain ⟨early, d, late, rfl, cut, quiet⟩ := h.first
  refine ⟨arrival :: early, d, late, rfl, cut, ?_⟩
  intro x mem
  rcases List.mem_cons.mp mem with rfl | inside
  · exact junk
  · exact quiet x inside

theorem fetchLoopReturns {arrivals : List Bytes} {raw : Bytes} :
    fetchLoop arrivals = some raw ↔ EndsLoop arrivals raw ∧ isFrameReturn raw = true := by
  constructor
  · intro ok
    induction arrivals with
    | nil => cases ok
    | cons arrival rest ih =>
      unfold fetchLoop at ok
      dsimp only at ok
      split at ok
      · rename_i frame
        cases Option.some.inj ok
        exact ⟨⟨[], arrival, rest, rfl, rfl, by simp⟩, frame⟩
      · rename_i noFrame
        split at ok <;> try contradiction
        rename_i noMiss
        obtain ⟨ends, frame⟩ := ih ok
        exact ⟨ends.skip ⟨by simpa using noFrame, by simpa using noMiss⟩, frame⟩
  · rintro ⟨⟨early, arrival, late, rfl, rfl, quiet⟩, frame⟩
    induction early with
    | nil => simp [fetchLoop, frame]
    | cons d early ih =>
      obtain ⟨noFrame, noMiss⟩ := quiet d (by simp)
      simp only [List.cons_append, fetchLoop, noFrame, noMiss, Bool.false_eq_true, if_false]
      exact ih (fun x mem => quiet x (List.mem_cons_of_mem _ mem))

section Attempts
variable {lib : FrameLib} {cfg : Config} {env : Env cfg.retrans} {j : Job} {b : Backend}

structure FirstReturn (env : Env cfg.retrans) (i count : Nat) (raw : Bytes) : Prop where
  attempt : ∃ k < count, (∀ m ≤ k, env.cancelled (i + m) = false) ∧
    (∀ m < k, returned (env.attempt (i + m)) = none) ∧ returned (env.attempt (i + k)) = some raw

theorem firstReturnHere {i count : Nat} {raw : Bytes} (live : env.cancelled i = false)
    (got : returned (env.attempt i) = some raw) : FirstReturn env i (count + 1) raw := by
  refine ⟨0, Nat.succ_pos _, ?_, by simp, got⟩
  intro m low
  cases Nat.le_zero.mp low
  exact live

theorem firstReturnStep {i count : Nat} {raw : Bytes} (live : env.cancelled i = false)
    (none' : returned (env.attempt i) = none) :
    FirstReturn env i (count + 1) raw ↔ FirstReturn env (i + 1) count raw := by
  constructor
  · rintro ⟨k, low, running, empty, got⟩
    cases k with
    | zero => rw [Nat.add_zero, none'] at got; cases got
    | succ k =>
      refine ⟨k, by omega, ?_, ?_, by rw [← got]; congr 2; omega⟩
      · intro m le
        rw [← running (m + 1) (by omega)]
        congr 1
        omega
      · intro m lt
        rw [← empty (m + 1) (by omega)]
        congr 2
        omega
  · rintro ⟨k, low, running, empty, got⟩
    refine ⟨k + 1, by omega, ?_, ?_, by rw [← got]; congr 2; omega⟩
    · intro m le
      cases m with
      | zero => exact live
      | succ m => rw [← running m (by omega)]; congr 1; omega
    · intro m lt
      cases m with
      | zero => exact none'
      | succ m => rw [← empty m (by omega)]; congr 2; omega

theorem fetchReturned (upstream : String) (j : Job) (a : Attempt) :
    (fetch upstream j a).2 = returned a ∧ ∀ e ∈ (fetch upstream j a).1, delivers e = none := by
  unfold fetch returned
  split
  · refine ⟨rfl, ?_⟩
    intro e mem
    rw [List.mem_singleton.mp mem]
    rfl
  · exact ⟨rfl, by simp⟩

theorem deliverFrames {raw frame : Bytes} (long : headerSize ≤ raw.length) :
    (∃ e ∈ (cfg.deliver lib env j raw b).1, delivers e = some frame) ↔ frame = raw := by
  have stored : ∃ failed b', cfg.store raw b env.storeFault env.storeNow =
      ([.store (slice raw 40 48 ++ slice raw 48 56) raw (ttlFor cfg.ttls (byteAt raw 6)) failed], b') := by
    simp only [Config.store, Config.storeCall, if_neg (Nat.not_lt.mpr long)]
    exact ⟨_, _, rfl⟩
  obtain ⟨failed, b', same⟩ := stored
  constructor
  · rintro ⟨e, mem, is⟩
    simp only [Config.deliver, same] at mem
    rcases List.mem_append.mp mem with front | unicast
    · rcases List.mem_append.mp front with store | multicast
      · cases List.mem_singleton.mp store
        exact (Option.some.inj is).symm
      · rcases resendEffect lib cfg env raw b' with none | ⟨_, _, _, one⟩
        · rw [none] at multicast
          cases multicast
        · rw [one] at multicast
          cases List.mem_singleton.mp multicast
          exact (Option.some.inj is).symm
    · rcases handBackEffect cfg j raw env.unicastFails with none | ⟨_, _, one⟩
      · rw [none] at unicast
        cases unicast
      · rw [one] at unicast
        cases List.mem_singleton.mp unicast
        exact (Option.some.inj is).symm
  · rintro rfl
    refine ⟨.store (slice frame 40 48 ++ slice frame 48 56) frame (ttlFor cfg.ttls (byteAt frame 6))
      failed, ?_, rfl⟩
    simp only [Config.deliver, same]
    exact List.mem_append_left _ (List.mem_append_left _ List.mem_cons_self)

theorem returnedLong {a : Attempt} {raw : Bytes} (got : returned a = some raw) :
    headerSize ≤ raw.length := by
  unfold returned at got
  split at got <;> try contradiction
  have frame := (fetchLoopReturns.mp got).2
  simp only [isFrameReturn, Bool.and_eq_true, decide_eq_true_eq] at frame
  exact frame.1.1.1

theorem attemptsFrames {i : Nat} {upstreams : List String} {frame : Bytes} :
    (∃ e ∈ (cfg.attempts lib env j b i upstreams).1, delivers e = some frame) ↔
      FirstReturn env i upstreams.length frame := by
  induction upstreams generalizing i with
  | nil =>
    constructor
    · rintro ⟨e, mem, -⟩
      cases mem
    · rintro ⟨k, low, -⟩
      cases low
  | cons upstream rest ih =>
    obtain ⟨got, silent⟩ := fetchReturned upstream j (env.attempt i)
    unfold Config.attempts
    cases live : env.cancelled i with
    | true =>
      constructor
      · rintro ⟨e, mem, -⟩
        cases mem
      · rintro ⟨k, -, running, -⟩
        rw [← Nat.add_zero i, running 0 (Nat.zero_le k)] at live
        cases live
    | false =>
      -- The NACK itself delivers nothing, so only the rest of the list counts.
      have skip : ∀ fx, (∃ e ∈ (fetch upstream j (env.attempt i)).1 ++ fx, delivers e = some frame) ↔
          ∃ e ∈ fx, delivers e = some frame := by
        intro fx
        constructor
        · rintro ⟨e, mem, is⟩
          rcases List.mem_append.mp mem with asked | later
          · rw [silent e asked] at is
            cases is
          · exact ⟨e, later, is⟩
        · rintro ⟨e, mem, is⟩
          exact ⟨e, List.mem_append_right _ mem, is⟩
      simp only [Bool.false_eq_true, if_false, got]
      cases back : returned (env.attempt i) with
      | none =>
        dsimp only
        rw [skip, ih, List.length_cons, firstReturnStep live back]
      | some raw =>
        dsimp only
        rw [skip, deliverFrames (returnedLong back), List.length_cons]
        constructor
        · rintro rfl
          exact firstReturnHere live back
        · rintro ⟨k, -, -, empty, is⟩
          cases k with
          | zero => rw [Nat.add_zero, back] at is; exact (Option.some.inj is).symm
          | succ k => rw [← Nat.add_zero i, empty 0 (Nat.succ_pos k)] at back; cases back

end Attempts

structure Misled (lib : FrameLib) (c : Client) (j : Job) (env : Env c.cfg.retrans) (b : Backend) :
    Prop where
  claimed : (c.cfg.claim j b env.claimFault env.claimNow).1 = true
  attempt : ∃ k < c.cfg.maxEndpoints.toNat, (∀ m ≤ k, env.cancelled m = false) ∧
    (∀ m < k, returned (env.attempt m) = none) ∧
    ((env.attempt k).resolves && (env.attempt k).listens && (env.attempt k).sends) = true ∧
    ∃ raw, EndsLoop (env.attempt k).arrivals raw ∧ isFrameReturn raw = true ∧ ¬ Asked lib j raw

theorem recoverFrames {lib : FrameLib} {c : Client} {j : Job} {env : Env c.cfg.retrans}
    {b : Backend} {frame : Bytes} :
    (∃ e ∈ (c.recover lib j env b).1, delivers e = some frame) ↔
      (c.cfg.claim j b env.claimFault env.claimNow).1 = true ∧
        FirstReturn env 0 c.cfg.maxEndpoints.toNat frame := by
  have count : (c.cfg.upstreams.take c.cfg.maxEndpoints.toNat).length = c.cfg.maxEndpoints.toNat := by
    have := c.inRange
    rw [List.length_take]
    omega
  unfold Client.recover
  dsimp only
  cases claim : (c.cfg.claim j b env.claimFault env.claimNow).1 with
  | false => simp
  | true => simp only [if_true, attemptsFrames, count, true_and]

/-- A recovery delivers only the frame it was asked for exactly when nothing
misleads it. -/
theorem recoversAsked (lib : FrameLib) (c : Client) (j : Job) (env : Env c.cfg.retrans)
    (b : Backend) :
    (∀ e ∈ (c.recover lib j env b).1, ∀ raw, delivers e = some raw → Asked lib j raw) ↔
      ¬ Misled lib c j env b := by
  constructor
  · rintro right ⟨claimed, k, low, running, empty, up, raw, ends, frame, foreign⟩
    have got : returned (env.attempt k) = some raw := by
      rw [returned, if_pos up]
      exact fetchLoopReturns.mpr ⟨ends, frame⟩
    have first : FirstReturn env 0 c.cfg.maxEndpoints.toNat raw :=
      ⟨k, low, by simpa using running, by simpa using empty, by simpa using got⟩
    obtain ⟨e, mem, is⟩ := recoverFrames.mpr ⟨claimed, first⟩
    exact foreign (right e mem raw is)
  · intro fair e mem raw is
    by_contra foreign
    obtain ⟨claimed, k, low, running, empty, got⟩ := recoverFrames.mp ⟨e, mem, is⟩
    simp only [Nat.zero_add] at running empty got
    have up : ((env.attempt k).resolves && (env.attempt k).listens && (env.attempt k).sends) = true := by
      by_contra down
      rw [returned, if_neg down] at got
      cases got
    rw [returned, if_pos up] at got
    obtain ⟨ends, frame⟩ := fetchLoopReturns.mp got
    exact fair ⟨claimed, k, low, running, empty, up, raw, ends, frame, foreign⟩

def gap : Job := ⟨7, 9, List.replicate 32 0, none⟩

def domain : Client :=
  new ⟨["upstream"], 0, 0, 0, 0, 0, none, ⟨[0x66]⟩,
    oneSocket, ⟨60, 60, 60, 60, 60⟩, true, true⟩

def strayFrame : Bytes :=
  preamble ++ [0x02, 0x00] ++ List.replicate 32 0 ++ flowKey 8 9 ++ List.replicate 36 0

def stray : Env domain.cfg.retrans :=
  ⟨.none, 0, fun _ => false, fun _ => ⟨true, true, true, [strayFrame]⟩, .none, 0, .none, 0, ["eth0"],
    oneSocketVisits, fun _ => false, false⟩

/- The stray frame is cached and multicast as the recovered one. -/
theorem recoversStray :
    ¬ ∀ (lib : FrameLib) (c : Client) (j : Job) (env : Env c.cfg.retrans) (b : Backend),
      ∀ e ∈ (c.recover lib j env b).1, ∀ raw, delivers e = some raw → Asked lib j raw := by
  intro always
  have delivered : .store (flowKey 8 9) strayFrame 60 false ∈
      (domain.recover FrameLib.plain gap stray ExpiringStore.empty).1 := by decide
  have asked := always FrameLib.plain domain gap stray ExpiringStore.empty _ delivered strayFrame rfl
  exact absurd asked.key (by decide)

end RetryEndpoint.FetchedFrame
