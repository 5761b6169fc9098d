import TlshubEbpf.Bench.EchoServer

/-! # Whole runs of the echo server

Each client gets back a prefix of what it has sent, and all of it unless a `send` fails.
Whatever happens to one client, the next one is accepted, until a signal or an error of
`accept`; by then every socket has been closed once. -/

set_option autoImplicit false

namespace TlshubEbpf.Bench

open Lib Program

def EchoTurn.data (turn : EchoTurn) : List UInt8 :=
  match turn.recv with
  | .bytes data => data
  | .interrupted => []
  | .failed => []

def Unbroken (turns : List EchoTurn) : Prop := ∀ turn ∈ turns, .brokenPipe ∉ turn.sends

instance (turns : List EchoTurn) : Decidable (Unbroken turns) :=
  inferInstanceAs (Decidable (∀ turn ∈ turns, _))

structure Echoes (turns : List EchoTurn) (served : Served) : Prop where
  received : ∃ taken rest, turns = taken ++ rest ∧
    served.received = taken.flatMap EchoTurn.data
  isPrefix : served.echoed <+: served.received
  whole : served.ended ≠ .sendFailed → served.echoed = served.received

theorem sendAll_triple (data : List UInt8) (sends : List ServerSend)
    (unbroken : .brokenPipe ∉ sends) (totalSent : ℕ) (s : EchoServer) :
    Triple (· = s) (sendAll data totalSent sends) fun sent next =>
      ∃ more, next = { s with echoed := s.echoed ++ more } ∧ more <+: data.drop totalSent ∧
        (sent = true → more = data.drop totalSent) := by
  have nothing : ∀ s : EchoServer, s = { s with echoed := s.echoed ++ [] } := by
    intro s
    rw [List.append_nil]
  induction sends generalizing totalSent s with
  | nil =>
      rintro s rfl
      unfold sendAll
      by_cases more : totalSent < data.length
      · rw [if_pos more]
        trivial
      · rw [if_neg more]
        have all : data.drop totalSent = [] := List.drop_eq_nil_of_le (Nat.not_lt.mp more)
        exact ⟨[], nothing s, List.nil_prefix, fun _ => all.symm⟩
  | cons result rest ih =>
      obtain ⟨other, later⟩ := not_or.mp (List.mem_cons.not.mp unbroken)
      rintro s rfl
      unfold sendAll
      by_cases more : totalSent < data.length
      · rw [if_pos more]
        cases result with
        | bytes bytesSent =>
            have met := ih later (totalSent + bytesSent)
              { s with echoed := s.echoed ++ (data.drop totalSent).take bytesSent } _ rfl
            refine met.imp ?_
            rintro sent next ⟨last, rfl, isPrefix, whole⟩
            have split : (data.drop totalSent).take bytesSent ++ data.drop (totalSent + bytesSent) =
                data.drop totalSent := by
              rw [← List.drop_drop]
              exact List.take_append_drop bytesSent (data.drop totalSent)
            have within := (List.prefix_append_right_inj
              ((data.drop totalSent).take bytesSent)).mpr isPrefix
            rw [split] at within
            refine ⟨(data.drop totalSent).take bytesSent ++ last, ?_, within, fun sent => ?_⟩
            · rw [← List.append_assoc]
            · rw [whole sent, split]
        | interrupted => exact ih later totalSent s s rfl
        | failed => exact ⟨[], nothing s, List.nil_prefix, fun sent => by cases sent⟩
        | brokenPipe => exact absurd rfl other
      · rw [if_neg more]
        have all : data.drop totalSent = [] := List.drop_eq_nil_of_le (Nat.not_lt.mp more)
        exact ⟨[], nothing s, List.nil_prefix, fun _ => all.symm⟩

theorem echoLoop_triple (turns : List EchoTurn) (unbroken : Unbroken turns) (s : EchoServer) :
    Triple (· = s) (echoLoop turns) fun ended next =>
      ∃ served, Echoes turns served ∧ served.ended = ended ∧
        next = { s with
          received := s.received ++ served.received
          echoed := s.echoed ++ served.echoed } := by
  have stops : ∀ (turns : List EchoTurn) (ended : EchoEnd) (s : EchoServer),
      ∃ served, Echoes turns served ∧ served.ended = ended ∧
        s = { s with
          received := s.received ++ served.received
          echoed := s.echoed ++ served.echoed } := by
    intro turns ended s
    refine ⟨⟨[], [], ended⟩, ⟨⟨[], turns, rfl, rfl⟩, List.nil_prefix, fun _ => rfl⟩, rfl, ?_⟩
    rw [List.append_nil, List.append_nil]
  induction turns generalizing s with
  | nil => exact fun _ _ => trivial
  | cons turn rest ih =>
      obtain ⟨here, later⟩ := List.forall_mem_cons.mp unbroken
      rintro s rfl
      unfold echoLoop
      cases result : turn.recv with
      | interrupted =>
          refine (ih later s s rfl).imp ?_
          rintro ended next ⟨served, echoes, isEnd, rfl⟩
          obtain ⟨taken, left, rfl, received⟩ := echoes.received
          refine ⟨served, ⟨⟨turn :: taken, left, rfl, ?_⟩, echoes.isPrefix, echoes.whole⟩, isEnd,
            rfl⟩
          rw [List.flatMap_cons, EchoTurn.data, result, List.nil_append, received]
      | failed => exact stops _ _ s
      | bytes data =>
          have turnData : turn.data = data := by rw [EchoTurn.data, result]
          dsimp only
          by_cases closed : data = []
          · rw [if_pos closed]
            exact stops _ _ s
          · rw [if_neg closed]
            have sends := sendAll_triple data turn.sends here 0
              { s with received := s.received ++ data } _ rfl
            refine Meets.bind (w := { s with received := s.received ++ data }) sends ?_
            rintro sent _ ⟨more, rfl, isPrefix, whole⟩
            rw [List.drop_zero] at isPrefix whole
            cases sent with
            | false =>
                refine ⟨⟨data, more, .sendFailed⟩, ⟨⟨[turn], rest, rfl, ?_⟩, isPrefix,
                  fun other => absurd rfl other⟩, rfl, rfl⟩
                rw [List.flatMap_singleton, turnData]
            | true =>
                refine (ih later _ _ rfl).imp ?_
                rintro ended next ⟨served, echoes, isEnd, rfl⟩
                obtain ⟨taken, left, rfl, received⟩ := echoes.received
                have all := whole rfl
                refine ⟨⟨data ++ served.received, data ++ served.echoed, ended⟩,
                  ⟨⟨turn :: taken, left, rfl, ?_⟩, ?_, fun other => ?_⟩, rfl, ?_⟩
                · rw [List.flatMap_cons, turnData, received]
                · exact (List.prefix_append_right_inj _).mpr echoes.isPrefix
                · exact congrArg (data ++ ·) (echoes.whole (isEnd ▸ other))
                · simp only [all, List.append_assoc]

theorem handleClient_triple (number : ℕ) (turns : List EchoTurn) (unbroken : Unbroken turns)
    (s : EchoServer) :
    Triple (· = s) (echoServerHandleClient number turns) fun _ next =>
      ∃ served, Echoes turns served ∧ next.served = s.served ++ [served] ∧
        next.uses = s.uses ++ [.release (.client number)] ∧
          next.keepRunning = s.keepRunning := by
  rintro s rfl
  have loop := echoLoop_triple turns unbroken { s with received := [], echoed := [] } _ rfl
  refine Meets.bind (w := { s with received := [], echoed := [] }) loop ?_
  rintro _ _ ⟨served, echoes, rfl, rfl⟩
  exact ⟨served, echoes, rfl, rfl, rfl⟩

/-- The clients are no longer accepted after this turn. -/
def Arrival.Ends (arrival : Arrival) : Prop :=
  arrival.accepted = .failed ∨ arrival.signalled = true

def Arrival.client (arrival : Arrival) : Option (List EchoTurn) :=
  match arrival.accepted with
  | .client turns => some turns
  | .interrupted => none
  | .failed => none

def AllUnbroken (arrivals : List Arrival) : Prop :=
  ∀ arrival ∈ arrivals, ∀ turns ∈ arrival.client, Unbroken turns

instance (arrivals : List Arrival) : Decidable (AllUnbroken arrivals) :=
  inferInstanceAs (Decidable (∀ arrival ∈ arrivals, ∀ turns ∈ arrival.client, Unbroken turns))

structure Serves (s next : EchoServer) (taken : List Arrival) : Prop where
  served : ∃ served, next.served = s.served ++ served ∧
    List.Forall₂ Echoes (taken.filterMap Arrival.client) served
  holding : Holding next.uses [.listener]

theorem acceptLoop_stopped (number : ℕ) (arrivals : List Arrival) (s : EchoServer)
    (stopped : s.keepRunning = false) : acceptLoop number arrivals s = (.returned (), s) := by
  have notRunning : ¬ s.keepRunning = true := by rw [stopped]; exact Bool.false_ne_true
  cases arrivals with
  | nil =>
      unfold acceptLoop
      exact if_neg notRunning
  | cons arrival rest =>
      unfold acceptLoop
      rw [Program.bind_apply, Program.get_apply]
      exact congrFun (if_neg notRunning) s

theorem acceptLoop_running (number : ℕ) (arrival : Arrival) (rest : List Arrival)
    (s : EchoServer) (running : s.keepRunning = true) :
    acceptLoop number (arrival :: rest) s =
      (match arrival.accepted with
        | .interrupted => signalArrives arrival.signalled >>= fun _ => acceptLoop number rest
        | .failed => pure ()
        | .client turns =>
            useSocket (.acquire (.client number)) >>= fun _ =>
              echoServerHandleClient number turns >>= fun _ =>
                signalArrives arrival.signalled >>= fun _ => acceptLoop (number + 1) rest) s := by
  rw [acceptLoop, Program.bind_apply, Program.get_apply]
  exact congrFun (if_pos running) s

/-- The end of a turn: either a signal has arrived, or the loop goes on with the rest. -/
theorem afterTurn_triple (arrival : Arrival) (rest : List Arrival)
    (accepts : arrival.accepted ≠ .failed) (s middle : EchoServer) (here : List Served)
    (served : middle.served = s.served ++ here)
    (echoes : List.Forall₂ Echoes ([arrival].filterMap Arrival.client) here)
    (holding : Holding middle.uses [.listener]) (running : middle.keepRunning = true) (number : ℕ)
    (later : ∀ s : EchoServer, Holding s.uses [.listener] → s.keepRunning = true →
      Triple (· = s) (acceptLoop number rest) fun _ next =>
        ∃ before last, EndsAt Arrival.Ends rest before last ∧ Serves s next (before ++ [last])) :
    Triple (· = middle) (signalArrives arrival.signalled >>= fun _ => acceptLoop number rest)
      fun _ next => ∃ before last, EndsAt Arrival.Ends (arrival :: rest) before last ∧
        Serves s next (before ++ [last]) := by
  rintro middle rfl
  unfold signalArrives
  rw [Program.bind_apply, Program.modify_apply]
  dsimp only
  cases signal : arrival.signalled with
  | true =>
      rw [acceptLoop_stopped number rest _ (Bool.and_false _)]
      exact ⟨[], arrival, EndsAt.here rest (Or.inr signal), ⟨here, served, echoes⟩, holding⟩
  | false =>
      have goesOn : ¬ arrival.Ends := by
        rintro (failed | signalled)
        · exact accepts failed
        · rw [signal] at signalled
          cases signalled
      have goes : (middle.keepRunning && !false) = true := by rw [running]; rfl
      refine (later { middle with keepRunning := middle.keepRunning && !false } holding goes _
        rfl).imp ?_
      rintro _ next ⟨before, last, ends, serves⟩
      obtain ⟨more, served', echoes'⟩ := serves.served
      refine ⟨arrival :: before, last, ends.later goesOn, ⟨here ++ more, ?_, ?_⟩, serves.holding⟩
      · rw [served', ← List.append_assoc, ← served]
      · rw [List.cons_append, ← List.singleton_append, List.filterMap_append]
        exact List.rel_append echoes echoes'

theorem acceptLoop_triple (arrivals : List Arrival) (unbroken : AllUnbroken arrivals) (number : ℕ)
    (s : EchoServer) (holding : Holding s.uses [.listener]) (running : s.keepRunning = true) :
    Triple (· = s) (acceptLoop number arrivals) fun _ next =>
      ∃ before last, EndsAt Arrival.Ends arrivals before last ∧ Serves s next (before ++ [last]) := by
  induction arrivals generalizing number s with
  | nil =>
      rintro s rfl
      unfold acceptLoop
      rw [if_pos running]
      trivial
  | cons arrival rest ih =>
      obtain ⟨here, later⟩ := List.forall_mem_cons.mp unbroken
      rintro s rfl
      rw [acceptLoop_running number arrival rest s running]
      cases accepted : arrival.accepted with
      | failed =>
          have noClient : [arrival].filterMap Arrival.client = [] := by
            simp [Arrival.client, accepted]
          refine ⟨[], arrival, EndsAt.here rest (Or.inl accepted), ⟨[], ?_, ?_⟩, holding⟩
          · exact (List.append_nil _).symm
          · rw [List.nil_append, noClient]
            exact .nil
      | interrupted =>
          have noClient : [arrival].filterMap Arrival.client = [] := by
            simp [Arrival.client, accepted]
          refine afterTurn_triple arrival rest (by rw [accepted]; exact Accepted.noConfusion) s s []
            (List.append_nil _).symm ?_ holding running number (ih later number) s rfl
          rw [noClient]
          exact .nil
      | client turns =>
          have isClient : arrival.client = some turns := by rw [Arrival.client, accepted]
          have only : [arrival].filterMap Arrival.client = [turns] := by
            rw [List.filterMap_cons_some isClient, List.filterMap_nil]
          let accepting : EchoServer := { s with uses := s.uses ++ [.acquire (.client number)] }
          refine Meets.bind (w := accepting)
            (handleClient_triple number turns (here turns isClient) accepting _ rfl) ?_
          rintro _ middle ⟨served, echoes, isServed, uses, stillRunning⟩
          refine afterTurn_triple arrival rest (by rw [accepted]; exact Accepted.noConfusion) s
            middle [served] isServed ?_ ?_ (stillRunning.trans running) (number + 1)
            (ih later (number + 1)) middle rfl
          · rw [only]
            exact .cons echoes .nil
          · rw [uses]
            exact (holding.acquire (.client number)).release

/-! ## The whole run -/

def ServerEnv.Listens (env : ServerEnv) : Prop :=
  env.socketOk = true ∧ env.reuseAddrOk = true ∧ env.reusePortOk = true ∧ env.bindOk = true ∧
    env.listenOk = true

instance (env : ServerEnv) : Decidable env.Listens := inferInstanceAs (Decidable (_ ∧ _))

theorem echoServerStart_triple (env : ServerEnv) :
    Triple (· = EchoServer.start) (echoServerStart env) fun started s =>
      (started = true ↔ env.Listens) ∧
        Holding s.uses (if started then [ServerSocket.listener] else []) ∧ s.keepRunning = true ∧
          s.served = [] := by
  rintro _ rfl
  have acquired : Holding ([] ++ [Use.acquire ServerSocket.listener]) [.listener] :=
    holding_start.acquire ServerSocket.listener
  obtain ⟨socketOk, reuseAddrOk, reusePortOk, bindOk, listenOk, signalled⟩ := env
  unfold echoServerStart ServerEnv.Listens useSocket
  cases socketOk with
  | false => exact ⟨by simp, holding_start, rfl, rfl⟩
  | true =>
      cases reuseAddrOk with
      | false => exact ⟨by simp, acquired.release, rfl, rfl⟩
      | true =>
          cases reusePortOk with
          | false => exact ⟨by simp, acquired.release, rfl, rfl⟩
          | true =>
              cases bindOk with
              | false => exact ⟨by simp, acquired.release, rfl, rfl⟩
              | true =>
                  cases listenOk with
                  | false => exact ⟨by simp, acquired.release, rfl, rfl⟩
                  | true => exact ⟨by simp, acquired, rfl, rfl⟩

def ServerEnv.Takes (env : ServerEnv) (arrivals taken : List Arrival) : Prop :=
  if env.signalled then taken = []
  else ∃ before last, EndsAt Arrival.Ends arrivals before last ∧ taken = before ++ [last]

structure ServerLeaves (env : ServerEnv) (arrivals : List Arrival) (ret : Int) (s : EchoServer) :
    Prop where
  settled : Settled s.uses
  ends : (ret = -1 ∧ ¬ env.Listens ∧ s.served = []) ∨
    (ret = 0 ∧ env.Listens ∧ ∃ taken, env.Takes arrivals taken ∧
      List.Forall₂ Echoes (taken.filterMap Arrival.client) s.served)

theorem runEchoServer_leaves (env : ServerEnv) (arrivals : List Arrival)
    (unbroken : AllUnbroken arrivals) :
    Triple (· = EchoServer.start) (runEchoServer env arrivals) fun ret s =>
      ServerLeaves env arrivals ret s := by
  unfold runEchoServer
  refine triple_bind _ _ _ _ _ (echoServerStart_triple env) ?_
  rintro started s ⟨listens, holding, running, none⟩
  cases started with
  | false =>
      refine ⟨holding.settled, Or.inl ⟨rfl, fun does => ?_, none⟩⟩
      exact absurd (listens.mpr does) Bool.false_ne_true
  | true =>
      rw [if_neg (by decide)]
      have closes : ∀ (next : EchoServer) (taken : List Arrival), env.Takes arrivals taken →
          List.Forall₂ Echoes (taken.filterMap Arrival.client) next.served →
            Holding next.uses [.listener] →
              ServerLeaves env arrivals 0
                { next with uses := next.uses ++ [.release .listener] } := by
        intro next taken takes echoes held
        exact ⟨held.release.settled, Or.inr ⟨rfl, listens.mp rfl, taken, takes, echoes⟩⟩
      unfold signalArrives
      rw [Program.bind_apply, Program.modify_apply]
      dsimp only
      cases signal : env.signalled with
      | true =>
          rw [Program.bind_apply, acceptLoop_stopped 0 arrivals _ (Bool.and_false _)]
          refine closes _ [] ?_ ?_ holding
          · unfold ServerEnv.Takes
            rw [if_pos signal]
          · rw [none]
            exact .nil
      | false =>
          have goes : (s.keepRunning && !false) = true := by rw [running]; rfl
          refine Meets.bind (acceptLoop_triple arrivals unbroken 0
            { s with keepRunning := s.keepRunning && !false } holding goes _ rfl) ?_
          rintro _ next ⟨before, last, ends, serves⟩
          obtain ⟨served, isServed, echoes⟩ := serves.served
          refine closes next (before ++ [last]) ?_ ?_ serves.holding
          · unfold ServerEnv.Takes
            rw [if_neg (by rw [signal]; exact Bool.false_ne_true)]
            exact ⟨before, last, ends, rfl⟩
          · rw [isServed, none]
            exact echoes

/-- Each socket is closed as often as it was opened and never ahead of that. -/
theorem runEchoServer_closes (env : ServerEnv) (arrivals : List Arrival)
    (unbroken : AllUnbroken arrivals) :
    Triple (· = EchoServer.start) (runEchoServer env arrivals) fun ret s =>
      (ret = 0 ↔ env.Listens) ∧
        ∀ socket, s.uses.count (.release socket) = s.uses.count (.acquire socket) ∧
          ∀ before after, s.uses = before ++ after →
            before.count (.release socket) ≤ before.count (.acquire socket) := by
  refine triple_conseq _ _ _ _ _ (runEchoServer_leaves env arrivals unbroken) (fun _ same => same) ?_
  rintro ret s ⟨settled, ends⟩
  refine ⟨?_, settled.balanced⟩
  rcases ends with ⟨rfl, refused, -⟩ | ⟨rfl, listens, -⟩
  · exact ⟨fun zero => (by cases zero), fun listens => absurd listens refused⟩
  · exact ⟨fun _ => listens, fun _ => rfl⟩

def listeningEnv : ServerEnv := ⟨true, true, true, true, true, false⟩

/-- The first client closes, and a signal interrupts `accept` after the second one, to
which a `send` has failed. -/
def twoClients : List Arrival :=
  [⟨.client [⟨.bytes [1, 2], [.bytes 1, .interrupted, .bytes 1]⟩, ⟨.bytes [], []⟩], false⟩,
    ⟨.client [⟨.interrupted, []⟩, ⟨.bytes [3, 4], [.bytes 1, .failed]⟩], false⟩,
    ⟨.interrupted, true⟩]

theorem twoClients_closed :
    (∀ socket, (runEchoServer listeningEnv twoClients EchoServer.start).2.uses.count
        (.release socket) =
      (runEchoServer listeningEnv twoClients EchoServer.start).2.uses.count (.acquire socket)) ∧
      (runEchoServer listeningEnv twoClients EchoServer.start).1 = .returned 0 := by
  have closes := (runEchoServer_closes listeningEnv twoClients (by decide)).returned
    EchoServer.start _ 0 rfl rfl
  exact ⟨fun socket => (closes.2 socket).1, rfl⟩

end TlshubEbpf.Bench
