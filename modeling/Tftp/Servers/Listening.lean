import Tftp.Servers.ServerImpl
import Tftp.Protocol.Run

/-!
# The event loop of the listening server

A datagram completes the receive that is armed, and only if nothing but a `TftpException` comes
out of its handlers is the next one armed (`Tftp.Servers.Listener.receiveHandler`). The handlers
of the packets throw nothing themselves, with one exception: a request without a request handler
is rejected, and the handler that is not there is called nevertheless. So a server with a request
handler answers one datagram after the other, and a server without one until the first request
(`Tftp.Servers.Listener.answered_run_iff`).
-/

namespace Tftp.Servers

open Protocol

/-- What an action throws, if the request handler throws what it is said to. -/
def ServerAction.thrown (throws : ReceivedTftpRequest → Option HandlerException) :
    ServerAction → Option HandlerException
  | .errorOperation .. => none
  | .requestHandler request => throws request
  | .badFunctionCall => some .otherException

/-- How a receive completes. -/
inductive ReceiveResult where
  | datagram (remote : Endpoint) (rawPacket : RawData)
  /-- `operation_aborted`: the server has been stopped. -/
  | aborted
  /-- Any other error. -/
  | error

/-- The listening server in its event loop. -/
structure Listener where
  server : ServerImpl
  /-- How many receives are armed. -/
  receives : ℕ := 0
  /-- The exception that has left the event loop. -/
  escaped : Option HandlerException := none
  /-- What was done for the last datagram. -/
  actions : List ServerAction := []

/-- A datagram, and what the request handler throws when it is called for it. -/
structure Arrival where
  remote : Endpoint
  rawPacket : RawData
  throws : ReceivedTftpRequest → Option HandlerException := fun _ => none

/-- The request handler returns, or throws a `TftpException`. -/
def Arrival.Legal (a : Arrival) : Prop :=
  ∀ request, a.throws request = none ∨ a.throws request = some .tftpException

/-- What the server makes of a datagram: what does not fit into the buffer is lost. -/
def Arrival.received (a : Arrival) : Received :=
  PacketHandler.packet (a.rawPacket.take defaultMaxPacketSize.toNat)

/-- An RRQ or a WRQ. -/
def IsRequest : Received → Prop
  | .packet (.readRequest ..) | .packet (.writeRequest ..) => True
  | _ => False

instance : DecidablePred IsRequest := fun r => by
  rcases r with ⟨_ | _ | _ | _ | _ | _⟩ | _ <;> unfold IsRequest <;> infer_instance

namespace Listener

/-- `receive`: arms a receive. -/
def receive (l : Listener) : Listener := { l with receives := l.receives + 1 }

/-- `start`: waits for the first datagram. -/
def start (server : ServerImpl) : Listener := receive { server := server }

/-- `receiveHandler`: a receive completes. -/
def receiveHandler (l : Listener) (throws : ReceivedTftpRequest → Option HandlerException) :
    ReceiveResult → Listener
  | .aborted => { l with receives := l.receives - 1, actions := [] }
  | .error =>
      -- a `CommunicationException`, outside the `try` block
      { l with receives := l.receives - 1, actions := [], escaped := some .tftpException }
  | .datagram remote rawPacket =>
      let actions := l.server.receiveHandler remote rawPacket
      let l := { l with receives := l.receives - 1, actions := actions }
      match actions.findSome? (ServerAction.thrown throws) with
      | none | some .tftpException => l.receive
      | some e => { l with escaped := some e }

/-- A datagram arrives: it completes a receive, if one is armed. -/
def step (l : Listener) (a : Arrival) : Listener :=
  if l.receives = 0 then { l with actions := [] }
  else l.receiveHandler a.throws (.datagram a.remote a.rawPacket)

/-- One ERROR packet is sent to the given endpoint, and nothing else is done. -/
def OneError (remote : Endpoint) (actions : List ServerAction) : Prop :=
  ∃ errorCode errorMessage, actions = [.errorOperation remote errorCode errorMessage]

/-- **A datagram has been answered**, and the server waits for the next one. -/
structure Answered (l : Listener) (a : Arrival) (l' : Listener) : Prop where
  /-- Nothing has left the event loop. -/
  returned : l'.escaped = none
  /-- One receive was armed, and one is armed again. -/
  armed : l.receives = 1 ∧ l'.receives = 1
  /-- A request is rejected if there is nobody to handle it. -/
  rejected : IsRequest a.received → l.server.requestHandlerV = false → OneError a.remote l'.actions
  /-- Any other packet is not expected. -/
  unexpected : ∀ packet, a.received = .packet packet → ¬ IsRequest a.received →
    OneError a.remote l'.actions
  /-- What is no packet is ignored. -/
  ignored : a.received = .invalid → l'.actions = []

variable {l : Listener} {a : Arrival}

/-- What a packet that is no request is answered with. -/
theorem oneError_of_packet (server : ServerImpl) {packet : Packet}
    (hpacket : ¬ IsRequest (.packet packet)) (remote : Endpoint) :
    OneError remote (server.received remote (.packet packet)) := by
  cases packet with
  | readRequest | writeRequest => exact absurd trivial hpacket
  | data | acknowledgement | error | optionsAcknowledgement => exact ⟨_, _, rfl⟩

/-- What is no request is handled without an exception. -/
theorem findSome?_thrown_received (server : ServerImpl) {r : Received} (h : ¬ IsRequest r)
    (remote : Endpoint) (throws : ReceivedTftpRequest → Option HandlerException) :
    (server.received remote r).findSome? (ServerAction.thrown throws) = none := by
  cases r with
  | invalid => rfl
  | packet packet =>
    obtain ⟨errorCode, errorMessage, heq⟩ := oneError_of_packet server h remote
    rw [heq]
    rfl

/-- A request that there is a handler for: it is all that is called. -/
theorem received_request {server : ServerImpl} (h : server.requestHandlerV = true) {r : Received}
    (hr : IsRequest r) (remote : Endpoint) :
    ∃ request, server.received remote r = [.requestHandler request] := by
  rcases r with ⟨_ | _ | _ | _ | _ | _⟩ | _
  · exact ⟨_, if_pos h⟩
  · exact ⟨_, if_pos h⟩
  all_goals exact hr.elim

/-- **A request that there is no handler for**: it is rejected, and then something is called that
is not there. -/
theorem received_unhandled {server : ServerImpl} (h : server.requestHandlerV = false)
    {r : Received} (hr : IsRequest r) (remote : Endpoint) :
    ∃ errorMessage, server.received remote r =
      [.errorOperation remote .fileNotFound errorMessage, .badFunctionCall] := by
  rcases r with ⟨_ | _ | _ | _ | _ | _⟩ | _
  · exact ⟨_, if_neg (by simp [h])⟩
  · exact ⟨_, if_neg (by simp [h])⟩
  all_goals exact hr.elim

/-- One datagram, when a receive is armed and nothing but a `TftpException` is thrown. -/
theorem step_eq_of_caught (harmed : l.receives = 1)
    (hcaught : ∀ e, (l.server.received a.remote a.received).findSome?
      (ServerAction.thrown a.throws) = some e → e = .tftpException) :
    l.step a = { l with actions := l.server.received a.remote a.received } := by
  have heq : l.server.receiveHandler a.remote a.rawPacket =
      l.server.received a.remote a.received := rfl
  rw [step, if_neg (by omega), receiveHandler, heq]
  dsimp only
  cases hthrown : (l.server.received a.remote a.received).findSome?
      (ServerAction.thrown a.throws) with
  | none => simp [receive, harmed]
  | some e =>
    obtain rfl := hcaught e hthrown
    simp [receive, harmed]

/-- **When a datagram is answered**: unless it is a request that there is no handler for. -/
theorem answered_step_iff (harmed : l.receives = 1) (hescaped : l.escaped = none)
    (hlegal : a.Legal) :
    Answered l a (l.step a) ↔ (IsRequest a.received → l.server.requestHandlerV = true) := by
  by_cases hr : IsRequest a.received
  · cases hhandler : l.server.requestHandlerV with
    | true =>
      obtain ⟨request, hreceived⟩ := received_request hhandler hr a.remote
      refine iff_of_true ?_ fun _ => rfl
      rw [step_eq_of_caught harmed ?_]
      · refine ⟨hescaped, ⟨harmed, harmed⟩, fun _ hno => ?_, fun _ _ hno => absurd hr hno,
          fun hinvalid => ?_⟩
        · rw [hhandler] at hno
          cases hno
        · rw [hinvalid] at hr
          exact hr.elim
      · intro e he
        rw [hreceived, List.findSome?_singleton] at he
        rcases hlegal request with hthrows | hthrows
        · cases hthrows.symm.trans he
        · exact (Option.some.inj (hthrows.symm.trans he)).symm
    | false =>
      refine iff_of_false (fun h => ?_) (by simp [hr])
      obtain ⟨errorMessage, hreceived⟩ := received_unhandled hhandler hr a.remote
      have hactions : (l.step a).actions = l.server.received a.remote a.received := by
        rw [step, if_neg (by omega), receiveHandler]
        dsimp only
        split <;> rfl
      obtain ⟨errorCode, errorMessage', heq⟩ := h.rejected hr hhandler
      rw [hactions, hreceived] at heq
      cases heq
  · refine iff_of_true ?_ fun h => absurd h hr
    have hnone := findSome?_thrown_received l.server hr a.remote a.throws
    rw [step_eq_of_caught harmed fun e he => (nomatch hnone.symm.trans he)]
    refine ⟨hescaped, ⟨harmed, harmed⟩, fun h => absurd h hr, fun packet hpacket _ => ?_,
      fun hinvalid => ?_⟩
    · dsimp only
      rw [hpacket] at hr ⊢
      exact oneError_of_packet _ hr a.remote
    · dsimp only
      rw [hinvalid]
      rfl

/-- The given server waits for a datagram. -/
structure Listens (server : ServerImpl) (l : Listener) : Prop where
  same : l.server = server
  armed : l.receives = 1
  returned : l.escaped = none

theorem server_step : (l.step a).server = l.server := by
  rw [step]
  split_ifs
  · rfl
  · rw [receiveHandler]
    dsimp only
    split <;> rfl

section Runs

variable {server : ServerImpl} {history : List (Transition Listener Arrival)}

/-- As long as every datagram has been answered, the server waits for the next one. -/
theorem listens_run (hrun : Run step (start server) history l)
    (hanswered : ∀ t ∈ history, Answered t.pre t.event t.post) : Listens server l := by
  induction hrun with
  | start => exact ⟨rfl, rfl, rfl⟩
  | @next history l a hrun ih =>
    rw [List.forall_mem_append, List.forall_mem_singleton] at hanswered
    obtain ⟨hpast, hlast⟩ := hanswered
    exact ⟨server_step.trans (ih hpast).same, hlast.armed.2, hlast.returned⟩

/-- **When every datagram is answered**: if there is a request handler whenever one is asked
for. -/
theorem answered_run_iff (hrun : Run step (start server) history l)
    (hlegal : ∀ t ∈ history, t.event.Legal) :
    (∀ t ∈ history, Answered t.pre t.event t.post) ↔
      ∀ t ∈ history, IsRequest t.event.received → server.requestHandlerV = true := by
  induction hrun with
  | start => simp
  | @next history l a hrun ih =>
    rw [List.forall_mem_append, List.forall_mem_singleton] at hlegal ⊢
    rw [List.forall_mem_append, List.forall_mem_singleton, ← ih hlegal.1]
    refine and_congr_right fun hanswered => ?_
    have hlistens := listens_run hrun hanswered
    rw [answered_step_iff hlistens.armed hlistens.returned hlegal.2, hlistens.same]

end Runs

end Listener

/-- The server has answered every one of the datagrams that arrived after its start. -/
def KeepsListening (server : ServerImpl) (arrivals : List Arrival) : Prop :=
  ∀ t ∈ (replay Listener.step (Listener.start server) arrivals).1,
    Listener.Answered t.pre t.event t.post

/-- **No datagram stops the server**, if it has a request handler or is not asked for it. -/
theorem keepsListening_iff (server : ServerImpl) (arrivals : List Arrival)
    (hlegal : ∀ a ∈ arrivals, a.Legal) :
    KeepsListening server arrivals ↔
      server.requestHandlerV = true ∨ ∀ a ∈ arrivals, ¬ IsRequest a.received := by
  have hevents := Run.replay_events Listener.step (Listener.start server) arrivals
  rw [KeepsListening,
    Listener.answered_run_iff (Run.of_replay _ _ _) (Run.forall_replay hlegal)]
  constructor
  · intro h
    refine or_iff_not_imp_left.mpr fun hno a ha hr => ?_
    rw [← hevents] at ha
    obtain ⟨t, ht, rfl⟩ := List.mem_map.mp ha
    exact hno (h t ht hr)
  · rintro (hhandler | hno) t ht hr
    · exact hhandler
    · exact absurd hr (Run.forall_replay (Q := fun a => ¬ IsRequest a.received) hno t ht)

/-- An RRQ for the file `f`. -/
def smallRequest : Arrival where
  remote := ⟨.v4 0x7F000001, 50000⟩
  rawPacket := (Packet.readRequest (ascii "f") .octet SortedMap.empty).encode

/-- An ACK. -/
def smallAcknowledgement : Arrival where
  remote := ⟨.v4 0x7F000001, 50000⟩
  rawPacket := (Packet.acknowledgement 0).encode

/-- A request handler gets the RRQ, and the ACK is answered as well. -/
theorem keepsListening_two : KeepsListening ⟨true⟩ [smallRequest, smallAcknowledgement] :=
  (keepsListening_iff ⟨true⟩ [smallRequest, smallAcknowledgement] fun a ha => by
    rcases List.mem_pair.mp ha with rfl | rfl <;> exact fun _ => Or.inl rfl).mpr (Or.inl rfl)

/-- **One RRQ stops a server without a request handler**, and the ACK is not answered. -/
theorem not_keepsListening :
    ¬ KeepsListening ⟨false⟩ [smallRequest] ∧
      (replay Listener.step (Listener.start ⟨false⟩)
        [smallRequest, smallAcknowledgement]).2.actions = [] := by
  constructor
  · intro h
    exact absurd (h _ (List.mem_singleton_self _)).returned (by decide)
  · decide

end Tftp.Servers
