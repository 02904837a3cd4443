import RetryEndpoint.OneHop

/-! A recovery taken in one go is a run of its steps. Where nothing comes between
them, claiming, asking and hearing leave the host as recover leaves it, and the
NACKs they put on the wire are those recover sends. -/
namespace RetryEndpoint.OneHop
open BigEndian Wire Cache Retransmit RateLimit Runs
open Proxy (Job)

variable {ι β : Type} [DecidableEq ι]

def nackOf : Proxy.Effect → Option Bytes
  | .nack _ msg => some msg
  | _ => none

def sentNacks (i : ι) (fx : List Proxy.Effect) : List (Event ι) :=
  (fx.filterMap nackOf).reverse.map (.emitted i)

theorem deliverSendsNone (lib : FrameLib) (cfg : Proxy.Config) (env : Proxy.Env cfg.retrans) (j : Job)
    (raw : Bytes) (b : Backend) : (cfg.deliver lib env j raw b).1.filterMap nackOf = [] := by
  apply List.filterMap_eq_nil_iff.mpr
  intro e mem
  cases e with
  | nack upstream msg => exact absurd mem (Proxy.deliverNoNack lib cfg env j raw b upstream msg)
  | store | retransmit | unicast => rfl

def Host.after (h : Host β) (b : Backend) (queue : List Job) (running : List Recovery) : Host β :=
  ⟨{ h.st with backend := b }, queue, running⟩

section Solo
variable {net : Net ι} {i : ι} (rt : Runtime β) (lib : FrameLib)
  (env : Proxy.Env (net.client i).cfg.retrans) (src : UDPAddr) (j : Job)

theorem moveMove (s : State ι β) (h h' : Host β) (soup soup' : List (Packet ι))
    (events events' : List (Event ι)) :
    (s.move i h soup events).move i h' soup' events' = s.move i h' soup' (events' ++ events) := by
  simp only [State.move, Function.update_idem, List.append_assoc]

theorem moveHost (s : State ι β) (h : Host β) (soup : List (Packet ι)) (events : List (Event ι)) :
    (s.move i h soup events).hosts i = h := Function.update_self ..

theorem askStep {k : Nat} {s : State ι β} {running : List Recovery} {upstream : String}
    (here : (s.hosts i).running = ⟨j, k, false⟩ :: running)
    (turn : k < (net.client i).cfg.maxEndpoints.toNat)
    (found : (net.client i).cfg.upstreams[k]? = some upstream)
    (up : ((env.attempt k).resolves && (env.attempt k).listens && (env.attempt k).sends) = true) :
    step rt lib net s (.ask i ⟨j, k, false⟩ env src) =
      some (s.move i { s.hosts i with running := ⟨j, k, true⟩ :: running }
        (⟨net.route upstream, Proxy.buildNACK j, some src⟩ :: s.soup)
        [.emitted i (Proxy.buildNACK j)]) := by
  simp only [step, ask, here, turn, found, up, List.mem_cons, true_or, and_self, if_true,
    List.erase_cons_head]

theorem failStep {k : Nat} {s : State ι β} {running : List Recovery} {upstream : String}
    (here : (s.hosts i).running = ⟨j, k, false⟩ :: running)
    (turn : k < (net.client i).cfg.maxEndpoints.toNat)
    (found : (net.client i).cfg.upstreams[k]? = some upstream)
    (down : ((env.attempt k).resolves && (env.attempt k).listens && (env.attempt k).sends) = false) :
    run (step rt lib net) s [.ask i ⟨j, k, false⟩ env src] =
      some (s.move i { s.hosts i with running := ⟨j, k + 1, false⟩ :: running } s.soup []) := by
  simp only [run, step, ask, here, turn, found, down, List.mem_cons, true_or, and_self, if_true,
    Bool.false_eq_true, if_false, List.erase_cons_head, bind, Option.bind_some]

theorem hearStep {k : Nat} {s : State ι β} {running : List Recovery}
    (here : (s.hosts i).running = ⟨j, k, true⟩ :: running) :
    step rt lib net s (.hear i ⟨j, k, true⟩ env) =
      some (match Proxy.fetchLoop (env.attempt k).arrivals with
        | some raw => s.move i ((s.hosts i).after
            ((net.client i).cfg.deliver lib env j raw (s.hosts i).st.backend).2 (s.hosts i).queue running)
            s.soup []
        | none => s.move i { s.hosts i with running := ⟨j, k + 1, false⟩ :: running } s.soup []) := by
  simp only [step, hear, here, List.mem_cons, true_or, and_self, if_true, List.erase_cons_head]
  cases Proxy.fetchLoop (env.attempt k).arrivals <;> rfl

theorem askHear {k : Nat} {s : State ι β} {running : List Recovery} {upstream : String}
    (here : (s.hosts i).running = ⟨j, k, false⟩ :: running)
    (turn : k < (net.client i).cfg.maxEndpoints.toNat)
    (found : (net.client i).cfg.upstreams[k]? = some upstream)
    (up : ((env.attempt k).resolves && (env.attempt k).listens && (env.attempt k).sends) = true) :
    run (step rt lib net) s [.ask i ⟨j, k, false⟩ env src, .hear i ⟨j, k, true⟩ env] =
      some (s.move i (match Proxy.fetchLoop (env.attempt k).arrivals with
        | some raw => (s.hosts i).after
            ((net.client i).cfg.deliver lib env j raw (s.hosts i).st.backend).2 (s.hosts i).queue running
        | none => { s.hosts i with running := ⟨j, k + 1, false⟩ :: running })
        (⟨net.route upstream, Proxy.buildNACK j, some src⟩ :: s.soup)
        [.emitted i (Proxy.buildNACK j)]) := by
  have heard : ∀ soup events, step rt lib net
      (s.move i { s.hosts i with running := ⟨j, k, true⟩ :: running } soup events)
      (.hear i ⟨j, k, true⟩ env) = _ :=
    fun soup events => hearStep rt lib env j (by rw [moveHost])
  simp only [run, askStep rt lib env src j here turn found up, heard, bind, Option.bind_some]
  cases Proxy.fetchLoop (env.attempt k).arrivals <;>
    simp only [moveMove, moveHost, List.nil_append] <;> rfl

omit [DecidableEq ι] in
theorem sentNacksAppend (fx fx' : List Proxy.Effect) :
    sentNacks i (fx ++ fx') = sentNacks i fx' ++ sentNacks i fx := by
  simp [sentNacks]

theorem attemptsRun (src : UDPAddr) (n k : Nat) (s : State ι β) (running : List Recovery)
    (here : (s.hosts i).running = ⟨j, k, false⟩ :: running)
    (left : k + n = (net.client i).cfg.maxEndpoints.toNat) :
    ∃ acts soup,
      let out := (net.client i).cfg.attempts lib env j (s.hosts i).st.backend k
        (((net.client i).cfg.upstreams.drop k).take n)
      run (step rt lib net) s acts =
        some (s.move i ((s.hosts i).after out.2 (s.hosts i).queue running) soup (sentNacks i out.1)) := by
  -- An attempt leads back to the state before the next; the first that returns a frame ends it.
  induction n generalizing k s with
  | zero =>
    refine ⟨[.stop i ⟨j, k, false⟩], s.soup, ?_⟩
    simp [run, step, here, Proxy.Config.attempts, Host.after, sentNacks]
  | succ n ih =>
    obtain ⟨-, bound⟩ := (net.client i).inRange
    have exists' : k < (net.client i).cfg.upstreams.length := by omega
    have next : ((net.client i).cfg.upstreams.drop k).take (n + 1) =
        (net.client i).cfg.upstreams[k] :: ((net.client i).cfg.upstreams.drop (k + 1)).take n := by
      rw [List.drop_eq_getElem_cons exists', List.take_succ_cons]
    have found : (net.client i).cfg.upstreams[k]? = some (net.client i).cfg.upstreams[k] :=
      List.getElem?_eq_getElem exists'
    have turn : k < (net.client i).cfg.maxEndpoints.toNat := by omega
    rw [next, Proxy.Config.attempts]
    by_cases cancelled : env.cancelled k = true
    · refine ⟨[.stop i ⟨j, k, false⟩], s.soup, ?_⟩
      simp [run, step, here, cancelled, Host.after, sentNacks]
    rw [if_neg cancelled]
    cases up : ((env.attempt k).resolves && (env.attempt k).listens && (env.attempt k).sends) with
    | false =>
      have tried := failStep rt lib env src j here turn found up
      obtain ⟨acts, soup, ran⟩ := ih (k + 1)
        (s.move i { s.hosts i with running := ⟨j, k + 1, false⟩ :: running } s.soup [])
        (by rw [moveHost]) (by omega)
      refine ⟨_, soup, (runAppend tried ran).trans ?_⟩
      simp only [moveMove, moveHost, Proxy.fetch, up, Bool.false_eq_true, if_false, List.nil_append,
        List.append_nil]
      rfl
    | true =>
      have tried := askHear rt lib env src j here turn found up
      rw [Proxy.fetch, if_pos up]
      cases arrived : Proxy.fetchLoop (env.attempt k).arrivals with
      | some raw =>
        rw [arrived] at tried
        refine ⟨_, ⟨net.route (net.client i).cfg.upstreams[k], Proxy.buildNACK j, some src⟩ :: s.soup,
          tried.trans ?_⟩
        have none' := deliverSendsNone lib (net.client i).cfg env j raw (s.hosts i).st.backend
        simp [sentNacks, none', nackOf]
      | none =>
        rw [arrived] at tried
        obtain ⟨acts, soup, ran⟩ := ih (k + 1)
          (s.move i { s.hosts i with running := ⟨j, k + 1, false⟩ :: running }
            (⟨net.route (net.client i).cfg.upstreams[k], Proxy.buildNACK j, some src⟩ :: s.soup)
            [.emitted i (Proxy.buildNACK j)])
          (by rw [moveHost]) (by omega)
        refine ⟨_, soup, (runAppend tried ran).trans ?_⟩
        simp only [moveMove, moveHost, sentNacksAppend]
        rfl

theorem recoverRun (src : UDPAddr) (s : State ι β) {rest : List Job}
    (next : (s.hosts i).queue = j :: rest)
    (free : ((s.hosts i).running.length : Int) < (net.client i).cfg.workers) :
    ∃ acts soup,
      let out := (net.client i).recover lib j env (s.hosts i).st.backend
      run (step rt lib net) s acts =
        some (s.move i ((s.hosts i).after out.2 rest (s.hosts i).running) soup (sentNacks i out.1)) := by
  cases claimed : (net.client i).cfg.claim j (s.hosts i).st.backend env.claimFault env.claimNow with
  | mk go b =>
    have started : run (step rt lib net) s [.start i env] = some (s.move i
        ((s.hosts i).after b rest
          (if go then ⟨j, 0, false⟩ :: (s.hosts i).running else (s.hosts i).running)) s.soup []) := by
      simp only [run, step, start, next, if_pos free, claimed, bind, Option.bind_some]
      rfl
    cases go with
    | false =>
      refine ⟨_, s.soup, started.trans ?_⟩
      simp [Proxy.Client.recover, claimed, sentNacks]
    | true =>
      obtain ⟨acts, soup, ran⟩ := attemptsRun rt lib env j src (net.client i).cfg.maxEndpoints.toNat 0
        (s.move i ((s.hosts i).after b rest (⟨j, 0, false⟩ :: (s.hosts i).running)) s.soup [])
        (s.hosts i).running (by rw [moveHost]; rfl) (by omega)
      refine ⟨_, soup, (runAppend started ran).trans ?_⟩
      simp only [moveMove, moveHost, Proxy.Client.recover, claimed, if_true, List.drop_zero,
        List.append_nil]
      rfl

end Solo

end RetryEndpoint.OneHop
