import TunnelRelay.LongPoll.Exchange
import TunnelRelay.Proofs.Guise.Registry

/-!
Reads, writes and exchanges in another guise.

A request knows its ticket and its tunnel, and nothing else of the registry by number. So a step of
a request in another guise is its step, in that guise.
-/

namespace TunnelRelay

open Http LongPoll

variable {σ : Type} (guise : Guise)

/-- What is left of a request after a step, in another guise. -/
def Guise.dress {α : Type} (dress : α → α) (left : α × Answer × Registry σ) :
    α × Answer × Registry σ :=
  (dress left.1, left.2.1, left.2.2.under guise)

variable (registry : Registry σ)

namespace LongPoll.Read

def under (read : Read) : Read :=
  { read with ticket := guise.ticket read.ticket }

theorem lookInside_under (number : Nat) (registered : RegisteredTunnel σ) :
    lookInside (registered.under guise number) =
      Prod.map id (·.under guise number) (lookInside registered) := by
  cases empty : registered.outbox.take.1.isEmpty with
  | true =>
      simp only [lookInside, RegisteredTunnel.outbox_under, empty, if_true]
      rfl
  | false =>
      simp only [lookInside, RegisteredTunnel.outbox_under, empty,
        Bool.false_eq_true, if_false]
      rfl

variable (read : Read) (answer : Answer)

theorem finish_under :
    (read.under guise).finish answer (registry.under guise) =
      guise.dress (under guise) (read.finish answer registry) := by
  simp only [finish, under, Guise.dress, Registry.releaseReader_under]

variable [Connection σ]

theorem await_under (number : Nat) (registered : RegisteredTunnel σ) :
    await (registered.under guise number) =
      Prod.map id (·.under guise number) (await registered) := by
  unfold await
  rw [RegisteredTunnel.outbox_under, RegisteredTunnel.tunnel_under,
    Tunnel.readFrame_under]
  cases registered.outbox.awaken with
  | mk permit outbox =>
      cases permit with
      | true => rfl
      | false =>
          cases registered.tunnel.readFrame with
          | mk outcome tunnel =>
              cases outcome with
              | parked => rfl
              | ready frame => cases frame <;> rfl

theorem fail_under (uuid : Uuid) (error : RelayError) :
    (read.under guise).fail uuid error answer (registry.under guise) =
      guise.dress (under guise) (read.fail uuid error answer registry) := by
  unfold fail
  rw [Registry.close_under, Registry.close_under]
  split
  · exact finish_under guise _ read answer
  · exact finish_under guise (registry.close uuid error.status).2
      { read with
        unsent := read.unsent ++
          (Instruction.error (Answer.publicMessage error) error.status).wire }
      answer

theorem receive_under (uuid : Uuid)
    (outcome : Except RelayError (Option Message)) :
    (read.under guise).receive uuid outcome answer (registry.under guise) =
      Prod.map id (guise.dress (under guise))
        (read.receive uuid outcome answer registry) := by
  unfold receive
  have begun : (read.under guise).begun = read.begun := rfl
  rw [begun]
  split
  · cases outcome with
    | ok message => rfl
    | error error =>
        exact congrArg (Prod.mk _)
          (read.fail_under guise registry answer uuid error)
  · cases firstMessage outcome with
    | ok message => rfl
    | error error =>
        simp only [Registry.close_under]
        exact congrArg (fun after => (_, _, _, after))
          (Registry.releaseReader_under guise _ read.tunnel read.ticket)

theorem give_under (number : Nat) (registered : RegisteredTunnel σ)
    (message : Message) :
    (read.under guise).give (registered.under guise number) message answer
        (registry.under guise) =
      Prod.map id (guise.dress (under guise))
        (read.give registered message answer registry) := by
  cases available : registered.tunnel.available with
  | true =>
      cases ends : registered.tunnel.hasQueuedReaders || !registered.tunnel.isOpen with
      | true =>
          simp only [give, RegisteredTunnel.tunnel_under, Tunnel.available_under,
            Tunnel.hasQueuedReaders_under, Tunnel.isOpen_under, available, ends,
            if_true, Registry.count_under]
          exact congrArg (Prod.mk _)
            (finish_under guise _ { read with unsent := read.unsent ++ _ } answer)
      | false =>
          simp only [give, RegisteredTunnel.tunnel_under, Tunnel.available_under,
            Tunnel.hasQueuedReaders_under, Tunnel.isOpen_under, available, ends,
            if_true, Bool.false_eq_true, if_false]
          rfl
  | false =>
      simp only [give, RegisteredTunnel.tunnel_under, Tunnel.available_under,
        available, Bool.false_eq_true, if_false, Registry.count_under]
      have unsent : (read.under guise).unsent = read.unsent := rfl
      rw [unsent]
      split
      · exact congrArg (Prod.mk _)
          (finish_under guise _ { read with unsent := [] } _)
      · exact congrArg (Prod.mk _)
          (fail_under guise _ { read with unsent := [] } _ _ _)

theorem step_under :
    (read.under guise).step answer (registry.under guise) =
      Prod.map id (guise.dress (under guise)) (read.step answer registry) := by
  have tunnel : (read.under guise).tunnel = read.tunnel := rfl
  have stage : (read.under guise).stage = read.stage := rfl
  have ticket : (read.under guise).ticket = guise.ticket read.ticket := rfl
  unfold step
  rw [tunnel, stage, ticket, Registry.tunnel?_under]
  cases registry.tunnel? read.tunnel with
  | none => rfl
  | some registered =>
      have stores (next : RegisteredTunnel σ) :=
        registry.store_under guise read.tunnel next
      have found (next : RegisteredTunnel σ) outcome :=
        read.receive_under guise (registry.update read.tunnel fun _ => next)
          answer registered.tunnel.uuid outcome
      simp only [← stores] at found
      simp only [Option.map_some, RegisteredTunnel.tunnel_under,
        Tunnel.claimReader_under, lookInside_under, await_under]
      cases read.stage with
      | acquiring =>
          cases registered.tunnel.claimReader read.ticket with
          | mk claimed next =>
              cases claimed with
              | false => rfl
              | true =>
                  exact congrArg (fun after => (_, _, _, after))
                    (stores { registered with tunnel := next })
      | looking =>
          cases lookInside registered with
          | mk look next =>
              cases look with
              | found outcome => exact found next outcome
              | again | nothing =>
                  exact congrArg (fun after => (_, _, _, after)) (stores next)
      | waiting =>
          cases await registered with
          | mk look next =>
              cases look with
              | found outcome => exact found next outcome
              | again | nothing =>
                  exact congrArg (fun after => (_, _, _, after)) (stores next)
      | giving message =>
          cases message with
          | none =>
              simp only [Tunnel.uuid_under, Registry.close_under]
              exact congrArg (Prod.mk _) (read.finish_under guise _ answer)
          | some message =>
              exact read.give_under guise registry answer _ registered message
      | finished => rfl

omit [Connection σ] in
theorem start_under (ticket : Ticket) (number : Nat)
    (encoding : ContentEncoding) :
    start (guise.ticket ticket) number encoding (registry.under guise) =
      Prod.map (under guise) (·.under guise)
        (start ticket number encoding registry) :=
  congrArg (Prod.mk _) (registry.onTunnel_under number fun tunnel =>
    tunnel.requestReader_under guise ticket)

omit [Connection σ] in
theorem abandon_under :
    (read.under guise).abandon (registry.under guise) =
      (read.abandon registry).under guise := by
  apply registry.onTunnel_under
  intro tunnel
  cases stage : read.stage with
  | acquiring =>
      simp only [under, stage, Tunnel.abandonReader_under]
  | looking | waiting | giving | finished =>
      simp only [under, stage, Tunnel.releaseReader_under]

end LongPoll.Read

namespace LongPoll.Write

def under (write : Write) : Write :=
  { write with ticket := guise.ticket write.ticket }

variable (write : Write) (answer : Answer)

theorem forwarded_under (count size : Nat) :
    (write.under guise).forwarded count size answer (registry.under guise) =
      Prod.map id (guise.dress (under guise))
        (write.forwarded count size answer registry) := by
  cases owes : write.filtered.memory.isEmpty with
  | true =>
      simp only [forwarded, under, owes, if_true]
      rfl
  | false =>
      simp only [forwarded, under, owes, Bool.false_eq_true, if_false,
        Registry.count_under, Registry.onOutbox_under]
      rfl

variable [Connection σ]

theorem fail_under (uuid : Uuid) (error : RelayError) :
    (write.under guise).fail uuid error answer (registry.under guise) =
      Prod.map id (guise.dress (under guise))
        (write.fail uuid error answer registry) := by
  cases own : error.isClientError with
  | true =>
      simp only [fail, under, own, if_true, Registry.releaseWriter_under]
      rfl
  | false =>
      simp only [fail, under, own, Bool.false_eq_true, if_false,
        Registry.releaseWriter_under, Registry.close_under]
      rfl

theorem finish_under (uuid : Uuid) :
    (write.under guise).finish uuid answer (registry.under guise) =
      Prod.map id (guise.dress (under guise))
        (write.finish uuid answer registry) := by
  have filtered : (write.under guise).filtered = write.filtered := rfl
  unfold finish
  rw [filtered]
  cases write.filtered.finish with
  | error error => exact write.fail_under guise registry answer uuid error
  | ok rest =>
      simp only [under, Registry.count_under, Registry.releaseWriter_under]
      rfl

theorem accept_under (uuid : Uuid) (data : Bytes) :
    (write.under guise).accept uuid data answer (registry.under guise) =
      Prod.map id (guise.dress (under guise))
        (write.accept uuid data answer registry) := by
  have filtered : (write.under guise).filtered = write.filtered := rfl
  unfold accept
  rw [filtered]
  cases write.filtered.accept data with
  | mk outcome filtered =>
      cases outcome with
      | error error =>
          exact fail_under guise registry { write with filtered } answer uuid error
      | ok passed =>
          simp only []
          cases FilteredWriter.sending? passed with
          | none =>
              exact forwarded_under guise registry { write with filtered } answer _ _
          | some sending => rfl

theorem step_under (body : List BodyEvent) :
    (write.under guise).step body answer (registry.under guise) =
      Prod.map (Prod.map id (guise.dress (under guise))) id
        (write.step body answer registry) := by
  have tunnel : (write.under guise).tunnel = write.tunnel := rfl
  have stage : (write.under guise).stage = write.stage := rfl
  have ticket : (write.under guise).ticket = guise.ticket write.ticket := rfl
  unfold step
  rw [tunnel, stage, ticket, Registry.tunnel?_under]
  cases registry.tunnel? write.tunnel with
  | none => rfl
  | some registered =>
      have stores (next : Tunnel σ) :
          (registry.under guise).onTunnel write.tunnel
              (fun _ => next.under guise) =
            (registry.onTunnel write.tunnel fun _ => next).under guise :=
        registry.onTunnel_under write.tunnel fun _ => rfl
      simp only [Option.map_some, RegisteredTunnel.tunnel_under,
        Tunnel.claimWriter_under, Tunnel.send_under, Tunnel.uuid_under]
      cases write.stage with
      | acquiring =>
          cases registered.tunnel.claimWriter write.ticket with
          | mk claimed next =>
              cases claimed with
              | parked => rfl
              | ready outcome =>
                  cases outcome with
                  | error error =>
                      simp only [stores]
                      exact congrArg (·, body)
                        (write.fail_under guise _ answer _ error)
                  | ok _ =>
                      exact congrArg (fun after => ((_, _, _, after), body))
                        (stores next)
      | receiving =>
          cases body with
          | nil => rfl
          | cons event rest =>
              cases event with
              | failed reason =>
                  exact congrArg (·, rest)
                    (write.fail_under guise registry answer _ _)
              | finished =>
                  exact congrArg (·, rest)
                    (write.finish_under guise registry answer _)
              | chunk data =>
                  cases isOpen : registered.tunnel.isOpen with
                  | true =>
                      simp only [Tunnel.isOpen_under, isOpen, if_true]
                      exact congrArg (·, rest)
                        (write.accept_under guise registry answer _ data)
                  | false =>
                      simp only [Tunnel.isOpen_under, isOpen,
                        Bool.false_eq_true, if_false]
                      exact congrArg (·, rest)
                        (write.finish_under guise registry answer _)
      | sending sending count size =>
          dsimp only
          cases registered.tunnel.send sending with
          | mk sent next =>
              cases sent with
              | done =>
                  simp only [stores]
                  exact congrArg (·, body)
                    (write.forwarded_under guise _ answer count size)
              | failed error =>
                  simp only [stores]
                  exact congrArg (·, body)
                    (write.fail_under guise _ answer _ error)
              | parked rest =>
                  exact congrArg (fun after => ((_, _, _, after), body))
                    (stores next)
      | finished => rfl

omit [Connection σ] in
theorem start_under (ticket : Ticket) (number : Nat) :
    start (guise.ticket ticket) number (registry.under guise) =
      (start ticket number registry).map
        (Prod.map (under guise) (·.under guise)) := by
  unfold start
  rw [Registry.tunnel?_under]
  cases registry.tunnel? number with
  | none => rfl
  | some registered =>
      simp only [Option.map_some, RegisteredTunnel.tunnel_under,
        Tunnel.requestWriter_under]
      cases registered.tunnel.requestWriter ticket with
      | error error => rfl
      | ok joined =>
          exact congrArg (fun after => Except.ok (_, after))
            (registry.onTunnel_under number fun _ => rfl)

omit [Connection σ] in
theorem abandon_under :
    (write.under guise).abandon (registry.under guise) =
      (write.abandon registry).under guise :=
  registry.releaseWriter_under guise write.tunnel write.ticket

end LongPoll.Write

/-! ### Exchanges -/

namespace LongPoll

theorem lookUp_under [Connection σ] (uuid : Uuid) (token : Option String) :
    lookUp (registry.under guise) uuid token =
      Prod.map id (·.under guise) (lookUp registry uuid token) := by
  unfold lookUp
  rw [Registry.get_under]
  cases registry.get uuid with
  | mk found next =>
      refine Prod.ext ?_ rfl
      cases found with
      | none => rfl
      | some number =>
          simp only [Option.elim_some, Prod.map, id, bind, Except.bind,
            Registry.tunnel?_under]
          cases next.tunnel? number with
          | none => rfl
          | some registered => rfl

def Activity.under : Activity → Activity
  | .collecting form => .collecting form
  | .connecting parameters => .connecting parameters
  | .reading read => .reading (read.under guise)
  | .writing write => .writing (write.under guise)
  | .answered => .answered

namespace Exchange

def under (exchange : Exchange) : Exchange :=
  { exchange with activity := exchange.activity.under guise }

variable (exchange : Exchange)

theorem isAnswered_under : (exchange.under guise).isAnswered = exchange.isAnswered := by
  cases activity : exchange.activity <;>
    simp only [isAnswered, under, Activity.under, activity]

theorem startConnect_under (request : Request) :
    (exchange.under guise).startConnect request =
      (exchange.startConnect request).under guise := by
  unfold startConnect
  split
  · rfl
  · split <;> rfl

theorem collect_under (form : Bytes) :
    (exchange.under guise).collect form =
      Prod.map id (under guise) (exchange.collect form) := by
  have body : (exchange.under guise).body = exchange.body := rfl
  unfold collect
  rw [body]
  cases exchange.body with
  | nil => rfl
  | cons event rest =>
      cases event with
      | failed reason => rfl
      | finished => rfl
      | chunk data =>
          dsimp only
          split <;> rfl

variable [Connection σ]

theorem enter_under {tunnel : Tunnel σ} (unasked : tunnel.Unasked)
    (token : String) (fresh : guise.access registry.tunnels.length = 0) :
    (exchange.under guise).enter tunnel token (registry.under guise) =
      Prod.map (under guise) (·.under guise)
        (exchange.enter tunnel token registry) := by
  unfold enter
  simp only [registry.put_under guise unasked token fresh, Registry.close_under]
  split <;> rfl

theorem start_under (ticket : Ticket) (request : Request) :
    (exchange.under guise).start (guise.ticket ticket) request
        (registry.under guise) =
      Prod.map (under guise) (·.under guise)
        (exchange.start ticket request registry) := by
  unfold start
  cases Command.parse request.query with
  | error error => rfl
  | ok command =>
      cases command with
      | connect =>
          exact congrArg (·, _) (exchange.startConnect_under guise request)
      | read uuid =>
          dsimp only
          rw [lookUp_under]
          cases lookUp registry uuid
              (request.headerText? "guacamole-tunnel-token") with
          | mk looked next =>
              cases looked with
              | error error => rfl
              | ok number =>
                  simp only [Prod.map, id, Read.start_under]
                  rfl
      | write uuid =>
          dsimp only
          rw [lookUp_under]
          cases lookUp registry uuid
              (request.headerText? "guacamole-tunnel-token") with
          | mk looked next =>
              cases looked with
              | error error => rfl
              | ok number =>
                  simp only [Prod.map, id, Write.start_under]
                  cases Write.start ticket number next with
                  | ok started => rfl
                  | error error =>
                      have failed := Write.fail_under guise next
                        { ticket, tunnel := number } exchange.answer uuid error
                      exact congrArg
                        (fun left : Pace × Write × Answer × Registry σ =>
                          ((exchange.under guise).answerWith left.2.2.1,
                            left.2.2.2)) failed

theorem step_under :
    (exchange.under guise).step (registry.under guise) =
      Prod.map id (Prod.map (under guise) (·.under guise))
        (exchange.step registry) := by
  have own : (exchange.under guise).activity = exchange.activity.under guise := rfl
  have answer : (exchange.under guise).answer = exchange.answer := rfl
  have body : (exchange.under guise).body = exchange.body := rfl
  unfold step
  rw [own, answer, body]
  cases activity : exchange.activity with
  | collecting form =>
      simp only [Activity.under, collect_under]
      rfl
  | reading read =>
      simp only [Activity.under, Read.step_under]
      cases read.step exchange.answer registry with
      | mk pace left => cases pace <;> rfl
  | writing write =>
      simp only [Activity.under, Write.step_under]
      cases write.step exchange.body exchange.answer registry with
      | mk stepped rest =>
          cases stepped with
          | mk pace left => cases pace <;> rfl
  | connecting parameters | answered => rfl

omit [Connection σ] in
theorem abandon_under :
    (exchange.under guise).abandon (registry.under guise) =
      Prod.map (under guise) (·.under guise) (exchange.abandon registry) := by
  cases activity : exchange.activity with
  | collecting | connecting | answered =>
      simp only [abandon, under, activity, Activity.under]
      rfl
  | reading read =>
      have begun : (read.under guise).begun = read.begun := rfl
      simp only [abandon, under, activity, Activity.under, Read.abandon_under,
        begun]
      split <;> rfl
  | writing write =>
      simp only [abandon, under, activity, Activity.under, Write.abandon_under]
      rfl

end Exchange

end LongPoll

end TunnelRelay
