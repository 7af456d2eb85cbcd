import Tftp.Events

/-!
# The phases of an operation

As long as no call fails and the user does not interfere, an operation is in one of
four phases between two events (`Tftp.Phase`, `Tftp.OperationImpl.Settled`): it waits
for the answer to its request, it waits for its peer, it dallies, or it is done. In the
course of an event that reaches a handler it is connected to its peer and waits for
nothing (`Tftp.OperationImpl.Ready`), and then what the shared functions do is said by
one equation each.

`Tftp.Operation.reaction` is the inversion of `Tftp.Operation.peerStep`: what can happen
to *any* settled operation. Everything the four operations do differently is behind
its last case.
-/

namespace Tftp

/-- The phases of an operation. -/
inductive Phase where
  /-- Waits for the answer to the request, from any port of the given address. -/
  | requesting (server : Address)
  /-- Waits for the next packet of its peer. -/
  | waiting (peer : Endpoint)
  /-- Has received everything, and waits for a repetition. -/
  | dallying (peer : Endpoint)
  /-- Is over. -/
  | done
  deriving DecidableEq

/-- Whether a datagram from the given source gets to the handlers of the packets. -/
def Phase.admits : Phase → Endpoint → Prop
  | .requesting server, source => source.address = server
  | .waiting peer, source => source = peer
  | .dallying peer, source => source = peer
  | .done, _ => False

/-- What is reported when an operation is over, with or without a completion handler. -/
def Action.completion (reports : Bool) (status : TransferStatus) : List Action :=
  .finished status :: if reports then [.completionHandler status] else []

/-- The phase after a block was acknowledged. -/
def Phase.afterData (short dally : Bool) (peer : Endpoint) : Phase :=
  if short then if dally then .dallying peer else .done else .waiting peer

namespace OperationImpl

variable {δ : Type}

/-- The phase, as socket and timer show it. -/
def phase (s : OperationImpl δ) : Phase :=
  match s.socketV with
  | .closed => .done
  | .opened => .requesting s.remoteV.address
  | .connected peer =>
      match s.timerV with
      | some (.timeoutDallyHandler, _) => .dallying peer
      | _ => .waiting peer

/-- **Between two events**: nothing is pending once the socket is closed, otherwise one
handler waits for a datagram and one for the timer, those of the phase. -/
def Settled (s : OperationImpl δ) : Prop :=
  s.terminated = false ∧
    match s.socketV with
    | .closed => s.receives = [] ∧ s.timerV = none
    | .opened =>
        s.receives = [.receiveFirstHandler] ∧ ∃ d, s.timerV = some (.timeoutFirstHandler, d)
    | .connected _ =>
        s.receives = [.receiveHandler] ∧
          ∃ d, s.timerV = some (.timeoutHandler, d) ∨ s.timerV = some (.timeoutDallyHandler, d)

/-- **Before it is started**: nothing is open, nothing waits. -/
structure Idle (s : OperationImpl δ) : Prop where
  alive : s.terminated = false
  closed : s.socketV = .closed
  receives_nil : s.receives = []

/-- **In the course of an event**: connected, and nothing waits for a datagram. -/
structure Ready (s : OperationImpl δ) (peer : Endpoint) : Prop where
  alive : s.terminated = false
  connected : s.socketV = .connected peer
  receives_nil : s.receives = []

/-- What is reported when an operation is over. -/
def completion (s : OperationImpl δ) (status : TransferStatus) : List Action :=
  Action.completion s.completionHandlerV status

/-- A packet has been sent. -/
def sent (s : OperationImpl δ) (packet : Packet) (peer : Endpoint) : OperationImpl δ :=
  { s with
    transmitCounterV := 1
    transmitPacketV := packet.encode
    actions := s.actions ++ [.send packet.encode peer] }

/-- The stored packet has been sent again, and the timer runs again. -/
def resent (s : OperationImpl δ) (destination : Endpoint) : OperationImpl δ :=
  { s with
    transmitCounterV := s.transmitCounterV + 1
    timerV := s.timerV.map fun timer => (timer.1, s.receiveTimeoutV)
    actions := s.actions ++ [.resend s.transmitPacketV destination] }

/-- The operation waits for its peer. -/
def awaiting (s : OperationImpl δ) (onTimeout : TimerHandler) (timeout : ℤ) : OperationImpl δ :=
  { s with
    receives := [.receiveHandler]
    timerV := some (onTimeout, timeout) }

/-- The operation is over. -/
def completed [DataHandler δ] (s : OperationImpl δ) (status : TransferStatus)
    (errorInformation : Option (ErrorCode × RawData)) : OperationImpl δ :=
  { s with
    dataHandlerV := DataHandler.finished s.dataHandlerV
    errorInformationV := errorInformation
    timerV := none
    receives := []
    socketV := .closed
    actions := s.actions ++ s.completion status }

/-- What the user and the negotiation have set, and nothing that happens changes. -/
structure SameSettings (s s' : OperationImpl δ) : Prop where
  reports : s'.completionHandlerV = s.completionHandlerV
  buffer : s'.receivePacketV = s.receivePacketV
  remote : s'.remoteV = s.remoteV
  timeout : s'.receiveTimeoutV = s.receiveTimeoutV
  retries : s'.tftpRetriesV = s.tftpRetriesV

/-- The event is taken up: a datagram from the given source, which is the peer from
now on. -/
def takenUp (s : OperationImpl δ) (source lastEndpoint : Endpoint) : OperationImpl δ :=
  { s with
    actions := []
    receives := []
    socketV := .connected source
    receiveEndpointV := lastEndpoint }

/-- The event is taken up, without a datagram. -/
def cleared (s : OperationImpl δ) : OperationImpl δ := { s with actions := [] }

/-- A handler of the user was called: its state may have changed. -/
def called (s : OperationImpl δ) (state : δ) (calls : List Action) : OperationImpl δ :=
  { s with
    dataHandlerV := state
    actions := s.actions ++ calls }

section Equations

variable {s : OperationImpl δ} {peer : Endpoint}

theorem phase_closed (h : s.socketV = .closed) : s.phase = .done := by
  rw [phase, h]

theorem phase_opened (h : s.socketV = .opened) :
    s.phase = .requesting s.remoteV.address := by
  rw [phase, h]

theorem phase_waiting {d : ℤ}
    (h : s.socketV = .connected peer) (ht : s.timerV = some (.timeoutHandler, d)) :
    s.phase = .waiting peer := by
  simp only [phase, h, ht]

theorem phase_dallying {d : ℤ}
    (h : s.socketV = .connected peer) (ht : s.timerV = some (.timeoutDallyHandler, d)) :
    s.phase = .dallying peer := by
  simp only [phase, h, ht]

theorem Ready.open (h : s.Ready peer) : s.socketV ≠ .closed := by
  rw [h.connected]
  rintro ⟨⟩

theorem settled_resent (h : s.Settled) (destination : Endpoint) :
    (s.resent destination).Settled := by
  obtain ⟨halive, hshape⟩ := h
  refine ⟨halive, ?_⟩
  cases hsock : s.socketV with
  | closed =>
    rw [hsock] at hshape
    simp [resent, hsock, hshape]
  | opened =>
    rw [hsock] at hshape
    obtain ⟨hrec, d, htimer⟩ := hshape
    simp [resent, hsock, hrec, htimer]
  | connected peer =>
    rw [hsock] at hshape
    obtain ⟨hrec, d, htimer | htimer⟩ := hshape <;> simp [resent, hsock, hrec, htimer]

theorem phase_resent (destination : Endpoint) : (s.resent destination).phase = s.phase := by
  cases hsock : s.socketV with
  | closed | opened => simp [phase, resent, hsock]
  | connected peer =>
    cases htimer : s.timerV with
    | none => simp [phase, resent, hsock, htimer]
    | some timer =>
      obtain ⟨handler, d⟩ := timer
      cases handler <;> simp [phase, resent, hsock, htimer]

theorem Ready.settled_awaiting (h : s.Ready peer) (d : ℤ) :
    (s.awaiting .timeoutHandler d).Settled ∧
      (s.awaiting .timeoutHandler d).phase = .waiting peer := by
  simp [Settled, phase, awaiting, h.alive, h.connected]

theorem Ready.settled_dallying (h : s.Ready peer) (d : ℤ) :
    (s.awaiting .timeoutDallyHandler d).Settled ∧
      (s.awaiting .timeoutDallyHandler d).phase = .dallying peer := by
  simp [Settled, phase, awaiting, h.alive, h.connected]

theorem settled_completed [DataHandler δ] (halive : s.terminated = false) (status : TransferStatus)
    (errorInformation : Option (ErrorCode × RawData)) :
    (s.completed status errorInformation).Settled ∧
      (s.completed status errorInformation).phase = .done := by
  simp [Settled, phase, completed, halive]

theorem Ready.called (h : s.Ready peer) (state : δ) (calls : List Action) :
    (s.called state calls).Ready peer :=
  ⟨h.alive, h.connected, h.receives_nil⟩

@[simp] theorem called_actions (state : δ) (calls : List Action) :
    (s.called state calls).actions = s.actions ++ calls := rfl

theorem called_nil : s.called s.dataHandlerV [] = s := by
  simp [OperationImpl.called]

/-- The option negotiation handler is called at most once, and without one nothing is
refused. -/
theorem optionNegotiation_called (s : OperationImpl δ)
    (handler : Option (OptionNegotiationHandler δ)) (options : Options) :
    ∃ accepted remaining state calls,
      s.optionNegotiation handler options = ((accepted, remaining), s.called state calls) ∧
      (calls = [] ∧ accepted = true ∧ remaining = options ∧ state = s.dataHandlerV ∨
        (∃ g, handler = some g ∧ (accepted, remaining, state) = g s.dataHandlerV options) ∧
          calls = [.optionNegotiation options]) := by
  cases handler with
  | none =>
    refine ⟨true, options, s.dataHandlerV, [], ?_, Or.inl ⟨rfl, rfl, rfl, rfl⟩⟩
    rw [called_nil, optionNegotiation]
  | some handler =>
    exact ⟨_, _, _, [.optionNegotiation options], rfl, Or.inr ⟨⟨handler, rfl, rfl⟩, rfl⟩⟩

theorem Ready.receivedTransferSize_eq [ReceiveDataHandler δ] (h : s.Ready peer) (n : UInt64) :
    s.receivedTransferSize n =
      ((ReceiveDataHandler.receivedTransferSize s.dataHandlerV n).1,
        s.called (ReceiveDataHandler.receivedTransferSize s.dataHandlerV n).2
          [.receivedTransferSize n]) := by
  simp [receivedTransferSize, h.alive, OperationImpl.called, emit]

theorem requestedTransferSize_eq [TransmitDataHandler δ] (h : s.terminated = false) :
    s.requestedTransferSize =
      ((TransmitDataHandler.requestedTransferSize s.dataHandlerV).1,
        s.called (TransmitDataHandler.requestedTransferSize s.dataHandlerV).2
          [.requestedTransferSize]) := by
  simp [requestedTransferSize, h, OperationImpl.called, emit]

theorem Ready.nextData_eq [TransmitDataHandler δ] (h : s.Ready peer) (maxSize : ℕ) :
    s.nextData maxSize =
      ((TransmitDataHandler.sendData s.dataHandlerV maxSize).1,
        s.called (TransmitDataHandler.sendData s.dataHandlerV maxSize).2
          [.sendData maxSize (TransmitDataHandler.sendData s.dataHandlerV maxSize).1]) := by
  simp [nextData, h.alive, OperationImpl.called, emit]

/-- Telling the transfer size is at most one call. -/
theorem Ready.offerTransferSize_called [ReceiveDataHandler δ] (h : s.Ready peer)
    (transferSize : Option UInt64) :
    ∃ accepted state calls, s.offerTransferSize transferSize = (accepted, s.called state calls) ∧
      (calls = [] ∨ ∃ n, calls = [.receivedTransferSize n]) := by
  cases transferSize with
  | none => exact ⟨true, s.dataHandlerV, [], by rw [called_nil]; rfl, Or.inl rfl⟩
  | some n => exact ⟨_, _, _, h.receivedTransferSize_eq n, Or.inr ⟨n, rfl⟩⟩

/-- Only the data handler refuses a transfer size. -/
theorem Ready.offerTransferSize_accepted [ReceiveDataHandler δ] (h : s.Ready peer)
    {transferSize : Option UInt64} (haccepts : ∀ n, transferSize = some n →
      (ReceiveDataHandler.receivedTransferSize s.dataHandlerV n).1 = true) :
    (s.offerTransferSize transferSize).1 = true := by
  cases transferSize with
  | none => rfl
  | some n =>
    rw [offerTransferSize, h.receivedTransferSize_eq]
    exact haccepts n rfl

theorem receivedData_eq [ReceiveDataHandler δ] (data : RawData) :
    s.receivedData data =
      s.called (ReceiveDataHandler.receivedData s.dataHandlerV data) [.receivedData data] := rfl

theorem Ready.sent (h : s.Ready peer) (packet : Packet) (destination : Endpoint) :
    (s.sent packet destination).Ready peer :=
  ⟨h.alive, h.connected, h.receives_nil⟩

variable [DataHandler δ]

/-- What `finished` does to a socket that is open. -/
theorem finished_eq (halive : s.terminated = false) (hopen : s.socketV ≠ .closed)
    (status : TransferStatus) (errorInformation : Option (ErrorCode × RawData)) :
    s.finished status errorInformation = s.completed status errorInformation := by
  rw [finished, halive, if_neg (by decide)]
  cases hsock : s.socketV with
  | closed => exact absurd hsock hopen
  | opened | connected peer =>
    cases hc : s.completionHandlerV <;>
      simp [emit, completed, completion, Action.completion, hc, halive]

theorem Ready.finished_eq (h : s.Ready peer) (status : TransferStatus)
    (errorInformation : Option (ErrorCode × RawData)) :
    s.finished status errorInformation = s.completed status errorInformation :=
  OperationImpl.finished_eq h.alive h.open status errorInformation

theorem Ready.send_eq (h : s.Ready peer) (packet : Packet) :
    s.send {} packet = s.sent packet peer := by
  rw [send, h.alive, if_neg (by decide)]
  simp [emit, OperationImpl.sent, h.connected, h.alive]

theorem Ready.receive_eq (h : s.Ready peer) :
    s.receive {} = s.awaiting .timeoutHandler s.receiveTimeoutV := by
  simp [receive, arm, awaiting, h.alive, h.receives_nil]

theorem Ready.receiveDally_eq (h : s.Ready peer) :
    s.receiveDally {} = s.awaiting .timeoutDallyHandler (2 * s.receiveTimeoutV) := by
  simp [receiveDally, arm, awaiting, h.alive, h.receives_nil]

theorem Ready.reject_eq (h : s.Ready peer) (errorCode : ErrorCode) (errorMessage : String)
    (status : TransferStatus) :
    s.reject {} errorCode errorMessage status =
      (s.sent (.error errorCode (ascii errorMessage)) peer).completed status
        (some (errorCode, ascii errorMessage)) := by
  rw [reject, h.send_eq, (h.sent _ peer).finished_eq]

/-- What `afterData` does: it reports, or waits, and changes nothing else that matters. -/
theorem Ready.afterData (h : s.Ready peer) (short dally : Bool) :
    (s.afterData {} short dally).Settled ∧
      (s.afterData {} short dally).phase = Phase.afterData short dally peer ∧
      (s.afterData {} short dally).actions =
        s.actions ++ (if short && !dally then s.completion .successful else []) ∧
      ((s.afterData {} short dally).transmitPacketV = s.transmitPacketV ∧
        (s.afterData {} short dally).transmitCounterV = s.transmitCounterV) ∧
      s.SameSettings (s.afterData {} short dally) := by
  cases short with
  | false =>
    have hw := h.settled_awaiting s.receiveTimeoutV
    simp only [OperationImpl.afterData, h.receive_eq, Bool.false_eq_true, if_false]
    exact ⟨hw.1, hw.2, by simp [awaiting], ⟨rfl, rfl⟩, rfl, rfl, rfl, rfl, rfl⟩
  | true =>
    cases dally with
    | true =>
      have hw := h.settled_dallying (2 * s.receiveTimeoutV)
      simp only [OperationImpl.afterData, h.receiveDally_eq, if_true]
      exact ⟨hw.1, hw.2, by simp [awaiting], ⟨rfl, rfl⟩, rfl, rfl, rfl, rfl, rfl⟩
    | false =>
      have hw := settled_completed h.alive .successful none
      simp only [OperationImpl.afterData, h.finished_eq, if_true, Bool.false_eq_true, if_false]
      exact ⟨hw.1, hw.2, by simp [completed], ⟨rfl, rfl⟩, rfl, rfl, rfl, rfl, rfl⟩

/-- What acknowledging a block does. -/
theorem Ready.acknowledge (h : s.Ready peer) (blockNumber : BlockNumber) (short dally : Bool) :
    ((s.send {} (.acknowledgement blockNumber)).afterData {} short dally).Settled ∧
      ((s.send {} (.acknowledgement blockNumber)).afterData {} short dally).phase =
        Phase.afterData short dally peer ∧
      ((s.send {} (.acknowledgement blockNumber)).afterData {} short dally).actions =
        s.actions ++ .send (Packet.acknowledgement blockNumber).encode peer ::
          (if short && !dally then s.completion .successful else []) ∧
      (((s.send {} (.acknowledgement blockNumber)).afterData {} short dally).transmitPacketV =
          (Packet.acknowledgement blockNumber).encode ∧
        ((s.send {} (.acknowledgement blockNumber)).afterData {} short dally).transmitCounterV =
          1) ∧
      s.SameSettings ((s.send {} (.acknowledgement blockNumber)).afterData {} short dally) := by
  rw [h.send_eq]
  obtain ⟨hset, hphase, hact, hpacket, hsame⟩ :=
    (h.sent (.acknowledgement blockNumber) peer).afterData short dally
  refine ⟨hset, hphase, ?_, hpacket, hsame.reports, hsame.buffer, hsame.remote, hsame.timeout,
    hsame.retries⟩
  rw [hact]
  exact List.append_assoc _ _ _

/-- What sending a packet and waiting for the answer does. -/
theorem Ready.sendAndReceive (h : s.Ready peer) (packet : Packet) :
    ((s.send {} packet).receive {}).Settled ∧
      ((s.send {} packet).receive {}).phase = .waiting peer ∧
      ((s.send {} packet).receive {}).actions = s.actions ++ [.send packet.encode peer] ∧
      (((s.send {} packet).receive {}).transmitPacketV = packet.encode ∧
        ((s.send {} packet).receive {}).transmitCounterV = 1) ∧
      ((s.send {} packet).receive {}).dataHandlerV = s.dataHandlerV ∧
      s.SameSettings ((s.send {} packet).receive {}) := by
  have hr := h.sent packet peer
  have hw := hr.settled_awaiting s.receiveTimeoutV
  rw [h.send_eq, hr.receive_eq]
  exact ⟨hw.1, hw.2, rfl, ⟨rfl, rfl⟩, rfl, rfl, rfl, rfl, rfl, rfl⟩

/-- What `reject` does: one ERROR packet, and the report. -/
theorem Ready.reject (h : s.Ready peer) (errorCode : ErrorCode) (errorMessage : String)
    (status : TransferStatus) :
    (s.reject {} errorCode errorMessage status).Settled ∧
      (s.reject {} errorCode errorMessage status).phase = .done ∧
      (s.reject {} errorCode errorMessage status).actions = s.actions ++
        ([.send (Packet.error errorCode (ascii errorMessage)).encode peer] ++
          s.completion status) ∧
      ((s.reject {} errorCode errorMessage status).transmitPacketV =
          (Packet.error errorCode (ascii errorMessage)).encode ∧
        (s.reject {} errorCode errorMessage status).transmitCounterV = 1) ∧
      s.SameSettings (s.reject {} errorCode errorMessage status) := by
  have hr := (h.sent (.error errorCode (ascii errorMessage)) peer)
  have hw := settled_completed hr.alive status (some (errorCode, ascii errorMessage))
  rw [h.reject_eq]
  exact ⟨hw.1, hw.2, List.append_assoc _ _ _, ⟨rfl, rfl⟩, rfl, rfl, rfl, rfl, rfl⟩

end Equations

end OperationImpl

/-- **How a packet makes an operation fail**: an ERROR packet is not answered, anything else
is answered by one ERROR packet. Told are the packets sent, the status, and the stored packet
with the count of its transmissions. -/
inductive Failure (peer : Endpoint) (stored : RawData) (counter : UInt32) (negotiating : Prop) :
    Received → List Action → TransferStatus → RawData → UInt32 → Prop
  /-- The peer reports an error. -/
  | reported (errorCode : ErrorCode) (errorMessage : RawData) (status : TransferStatus)
      (hstatus : status ≠ .successful)
      (hstored : Packet.packetType stored = .data ∨ Packet.packetType stored = .acknowledgement →
        status = .transferError) :
      Failure peer stored counter negotiating (.packet (.error errorCode errorMessage)) [] status
        stored counter
  /-- The packet is not acceptable. -/
  | rejected (r : Received) (errorCode : ErrorCode) (errorMessage : RawData)
      (status : TransferStatus) (hpacket : ∀ code message, r ≠ .packet (.error code message))
      (hstatus : status ≠ .successful)
      (hillegal : errorCode = .illegalTftpOperation ∧ status = .transferError ∨ negotiating) :
      Failure peer stored counter negotiating r
        [.send (Packet.error errorCode errorMessage).encode peer] status
        (Packet.error errorCode errorMessage).encode 1

namespace Failure

variable {peer : Endpoint} {stored packet : RawData} {counter counter' : UInt32}
  {negotiating : Prop} {r : Received} {errors : List Action} {status : TransferStatus}

theorem errors_cases (h : Failure peer stored counter negotiating r errors status packet counter') :
    errors = [] ∨ ∃ code message, errors = [.send (Packet.error code message).encode peer] := by
  cases h with
  | reported => exact Or.inl rfl
  | rejected _ errorCode errorMessage => exact Or.inr ⟨errorCode, errorMessage, rfl⟩

theorem status_ne (h : Failure peer stored counter negotiating r errors status packet counter') :
    status ≠ .successful := by
  cases h with
  | reported _ _ _ hstatus => exact hstatus
  | rejected _ _ _ _ _ hstatus => exact hstatus

end Failure

namespace Operation

open OperationImpl

variable {σ δ : Type} [DataHandler δ] [Operation σ δ]

/-- **What can happen to a settled operation.** -/
inductive Reaction (s : σ) : PeerEvent → σ → Prop
  /-- No handler waits for the event. -/
  | idle (e : PeerEvent)
      (hidle : (base s).phase = .done ∨ ∃ peer source rawPacket,
        ((base s).phase = .waiting peer ∨ (base s).phase = .dallying peer) ∧ source ≠ peer ∧
          e = .datagram source rawPacket) :
      Reaction s e (withBase s (base s).cleared)
  /-- A datagram from another address than the expected one. -/
  | foreign (server : Address) (source : Endpoint) (rawPacket : RawData)
      (hphase : (base s).phase = .requesting server) (hsource : source.address ≠ server) :
      Reaction s (.datagram source rawPacket)
        (withBase s { (base s).cleared.emit (.sendUnknown
          (Packet.error .unknownTransferId (ascii "Packet from wrong source")).encode source) with
          receiveEndpointV := source })
  /-- The stored packet is sent again. -/
  | resend (destination : Endpoint)
      (hphase : (∃ server, (base s).phase = .requesting server) ∧ destination = (base s).remoteV ∨
        (base s).phase = .waiting destination)
      (hretries : (base s).transmitCounterV.toNat ≤ (base s).tftpRetriesV.toNat) :
      Reaction s .timeout (withBase s ((base s).cleared.resent destination))
  /-- The stored packet was sent often enough. -/
  | expire
      (hphase : (∃ server, (base s).phase = .requesting server) ∨
        ∃ peer, (base s).phase = .waiting peer)
      (hretries : (base s).tftpRetriesV.toNat < (base s).transmitCounterV.toNat) :
      Reaction s .timeout (withBase s ((base s).cleared.completed .communicationError none))
  /-- Nothing was repeated. -/
  | dallied (peer : Endpoint) (hphase : (base s).phase = .dallying peer) :
      Reaction s .timeout (withBase s ((base s).cleared.completed .successful none))
  /-- The handlers of the packets get the datagram. -/
  | received (source lastEndpoint : Endpoint) (rawPacket : RawData)
      (hphase : (base s).phase.admits source)
      (hready : ((base s).takenUp source lastEndpoint).Ready source) :
      Reaction s (.datagram source rawPacket)
        (Operation.received (withBase s ((base s).takenUp source lastEndpoint)) {}
          (PacketHandler.packet (rawPacket.take (base s).receivePacketV)))

variable {s : σ}

/-- Finishing when the timer has just expired. -/
theorem finished_cleared {b : OperationImpl δ} (halive : b.terminated = false)
    (hopen : b.socketV ≠ .closed) (status : TransferStatus) :
    OperationImpl.finished { b with actions := [], timerV := none } status none =
      b.cleared.completed status none :=
  finished_eq (s := { b with actions := [], timerV := none }) halive hopen status none

theorem peerStep_datagram (halive : (base s).terminated = false) (source : Endpoint)
    (rawPacket : RawData) :
    peerStep s (.datagram source rawPacket) =
      onDatagram (withBase s (base s).cleared) {} source rawPacket := by
  simp [peerStep, PeerEvent.toEvent, step, halive, cleared]

theorem peerStep_timeout (halive : (base s).terminated = false) :
    peerStep s .timeout = onTimeout (withBase s (base s).cleared) {} := by
  simp [peerStep, PeerEvent.toEvent, step, halive, cleared]

/-- A datagram from another address than the expected one, whether or not the answer to it can
be sent. -/
theorem step_foreign (halive : (base s).terminated = false) (hsock : (base s).socketV = .opened)
    (hrec : (base s).receives = [.receiveFirstHandler]) {source : Endpoint}
    (hsource : source.address ≠ (base s).remoteV.address) (rawPacket : RawData) (fails : Bool) :
    step s ({ sendUnknownFails := fails }, .datagram source rawPacket) =
      withBase s { base s with
        receiveEndpointV := source
        actions := if fails then [] else [.sendUnknown
          (Packet.error .unknownTransferId (ascii "Packet from wrong source")).encode source] } := by
  have hne : ¬ (base s).remoteV.address = source.address := fun h => hsource h.symm
  cases fails <;>
    simp [step, halive, onDatagram, receiveFirstHandler, hrec, hsock, Socket.accepts, hne, emit]

/-- A datagram from another address than the expected one is answered with an ERROR packet. -/
theorem peerStep_foreign (halive : (base s).terminated = false)
    (hsock : (base s).socketV = .opened) (hrec : (base s).receives = [.receiveFirstHandler])
    {source : Endpoint} (hsource : source.address ≠ (base s).remoteV.address)
    (rawPacket : RawData) :
    peerStep s (.datagram source rawPacket) =
      withBase s { base s with
        receiveEndpointV := source
        actions := [.sendUnknown
          (Packet.error .unknownTransferId (ascii "Packet from wrong source")).encode source] } :=
  step_foreign halive hsock hrec hsource rawPacket false

/-- A datagram that does not reach the socket. -/
theorem peerStep_unaccepted (halive : (base s).terminated = false) {source : Endpoint}
    (hsock : (base s).socketV.accepts source = false) (rawPacket : RawData) :
    peerStep s (.datagram source rawPacket) = withBase s (base s).cleared := by
  rw [peerStep_datagram halive]
  cases hrec : (base s).receives <;> simp [onDatagram, cleared, hrec, hsock]

/-- What was done in the last event does not matter. -/
theorem step_actions (s : σ) (acts : List Action) (e : Faults × Event) :
    step (withBase s { base s with actions := acts }) e = step s e := by
  simp only [step, base_withBase, withBase_withBase]

theorem reaction_closed (halive : (base s).terminated = false) (hsock : (base s).socketV = .closed)
    (hrec : (base s).receives = []) (htimer : (base s).timerV = none) (e : PeerEvent) :
    Reaction s e (peerStep s e) := by
  have hidle : Reaction s e (withBase s (base s).cleared) :=
    Reaction.idle e (Or.inl (phase_closed hsock))
  cases e with
  | datagram source rawPacket =>
    rw [peerStep_datagram halive]
    simpa [onDatagram, cleared, hrec] using hidle
  | timeout =>
    rw [peerStep_timeout halive]
    simpa [onTimeout, cleared, htimer] using hidle

theorem reaction_opened (halive : (base s).terminated = false) (hsock : (base s).socketV = .opened)
    (hrec : (base s).receives = [.receiveFirstHandler]) {d : ℤ}
    (htimer : (base s).timerV = some (.timeoutFirstHandler, d)) (e : PeerEvent) :
    Reaction s e (peerStep s e) := by
  have hphase := phase_opened hsock
  cases e with
  | datagram source rawPacket =>
    rw [peerStep_datagram halive]
    by_cases hsource : source.address = (base s).remoteV.address
    · have hr := Reaction.received (s := s) source source rawPacket (by rw [hphase]; exact hsource)
        ⟨halive, rfl, rfl⟩
      simpa [onDatagram, receiveFirstHandler, receiveHandler, cleared, takenUp, hrec, hsock,
        Socket.accepts, hsource] using hr
    · have hr := Reaction.foreign (s := s) _ source rawPacket hphase hsource
      have hne : ¬ (base s).remoteV.address = source.address := fun h => hsource h.symm
      simpa [onDatagram, receiveFirstHandler, cleared, hrec, hsock, Socket.accepts, hne, emit]
        using hr
  | timeout =>
    rw [peerStep_timeout halive]
    rcases Nat.lt_or_ge (base s).tftpRetriesV.toNat (base s).transmitCounterV.toNat with hlt | hge
    · have hr := Reaction.expire (s := s) (Or.inl ⟨_, hphase⟩) hlt
      have hf := finished_cleared halive (by simp [hsock]) .communicationError
      simpa [onTimeout, cleared, htimer, timeoutFirstHandler, hlt, hf] using hr
    · have hr := Reaction.resend (s := s) (base s).remoteV (Or.inl ⟨⟨_, hphase⟩, rfl⟩) hge
      simpa [onTimeout, cleared, htimer, timeoutFirstHandler, not_lt.mpr hge, hsock, resent, emit]
        using hr

theorem reaction_waiting (halive : (base s).terminated = false) {peer : Endpoint}
    (hsock : (base s).socketV = .connected peer) (hrec : (base s).receives = [.receiveHandler])
    {d : ℤ} (htimer : (base s).timerV = some (.timeoutHandler, d)) (e : PeerEvent) :
    Reaction s e (peerStep s e) := by
  have hphase := phase_waiting hsock htimer
  cases e with
  | datagram source rawPacket =>
    rw [peerStep_datagram halive]
    by_cases hsource : source = peer
    · have hr := Reaction.received (s := s) source (base s).receiveEndpointV rawPacket
        (by rw [hphase]; exact hsource) ⟨halive, rfl, rfl⟩
      simpa [onDatagram, receiveHandler, cleared, takenUp, hrec, hsock, Socket.accepts,
        hsource] using hr
    · have hr := Reaction.idle (s := s) (.datagram source rawPacket)
        (Or.inr ⟨peer, source, rawPacket, Or.inl hphase, hsource, rfl⟩)
      simpa [onDatagram, cleared, hrec, hsock, Socket.accepts, hsource] using hr
  | timeout =>
    rw [peerStep_timeout halive]
    rcases Nat.lt_or_ge (base s).tftpRetriesV.toNat (base s).transmitCounterV.toNat with hlt | hge
    · have hr := Reaction.expire (s := s) (Or.inr ⟨_, hphase⟩) hlt
      have hf := finished_cleared halive (by simp [hsock]) .communicationError
      have hb : OperationImpl.timeoutHandler { base s with actions := [], timerV := none } {} =
          (base s).cleared.completed .communicationError none := by
        rw [timeoutHandler, if_pos hlt, hf]
      simpa [onTimeout, htimer, cleared, hb] using hr
    · have hr := Reaction.resend (s := s) peer (Or.inr hphase) hge
      simpa [onTimeout, cleared, htimer, timeoutHandler, not_lt.mpr hge, hsock, resent, emit]
        using hr

theorem reaction_dallying (halive : (base s).terminated = false) {peer : Endpoint}
    (hsock : (base s).socketV = .connected peer) (hrec : (base s).receives = [.receiveHandler])
    {d : ℤ} (htimer : (base s).timerV = some (.timeoutDallyHandler, d)) (e : PeerEvent) :
    Reaction s e (peerStep s e) := by
  have hphase := phase_dallying hsock htimer
  cases e with
  | datagram source rawPacket =>
    rw [peerStep_datagram halive]
    by_cases hsource : source = peer
    · have hr := Reaction.received (s := s) source (base s).receiveEndpointV rawPacket
        (by rw [hphase]; exact hsource) ⟨halive, rfl, rfl⟩
      simpa [onDatagram, receiveHandler, cleared, takenUp, hrec, hsock, Socket.accepts,
        hsource] using hr
    · have hr := Reaction.idle (s := s) (.datagram source rawPacket)
        (Or.inr ⟨peer, source, rawPacket, Or.inr hphase, hsource, rfl⟩)
      simpa [onDatagram, cleared, hrec, hsock, Socket.accepts, hsource] using hr
  | timeout =>
    rw [peerStep_timeout halive]
    have hr := Reaction.dallied (s := s) peer hphase
    have hf := finished_cleared halive (by simp [hsock]) .successful
    simpa [onTimeout, htimer, cleared, timeoutDallyHandler, hf] using hr

/-- **Every settled operation reacts in one of these ways.** -/
theorem reaction (h : (base s).Settled) (e : PeerEvent) : Reaction s e (peerStep s e) := by
  obtain ⟨halive, hshape⟩ := h
  cases hsock : (base s).socketV with
  | closed =>
    rw [hsock] at hshape
    exact reaction_closed halive hsock hshape.1 hshape.2 e
  | opened =>
    rw [hsock] at hshape
    obtain ⟨hrec, d, htimer⟩ := hshape
    exact reaction_opened halive hsock hrec htimer e
  | connected peer =>
    rw [hsock] at hshape
    obtain ⟨hrec, d, htimer | htimer⟩ := hshape
    · exact reaction_waiting halive hsock hrec htimer e
    · exact reaction_dallying halive hsock hrec htimer e

/-- A datagram that the phase admits finds a handler. -/
theorem not_idle_of_admits {p : Phase} {source : Endpoint} {rawPacket : RawData}
    (h : p.admits source) :
    ¬ (p = .done ∨ ∃ peer source' rawPacket', (p = .waiting peer ∨ p = .dallying peer) ∧
      source' ≠ peer ∧ PeerEvent.datagram source rawPacket = .datagram source' rawPacket') := by
  rintro (rfl | ⟨peer, source', rawPacket', hphase, hsource, heq⟩)
  · exact h
  · obtain ⟨rfl, -⟩ := PeerEvent.datagram.inj heq
    rcases hphase with rfl | rfl <;> exact hsource h

/-- **A datagram that the phase admits gets to the handlers of the packets.** -/
theorem peerStep_admitted (h : (base s).Settled) {source : Endpoint}
    (hadmits : (base s).phase.admits source) (rawPacket : RawData) :
    ∃ lastEndpoint, ((base s).takenUp source lastEndpoint).Ready source ∧
      peerStep s (.datagram source rawPacket) =
        received (withBase s ((base s).takenUp source lastEndpoint)) {}
          (PacketHandler.packet (rawPacket.take (base s).receivePacketV)) := by
  have hreaction := reaction h (.datagram source rawPacket)
  generalize hs : peerStep s (.datagram source rawPacket) = s' at hreaction
  generalize he : PeerEvent.datagram source rawPacket = e at hreaction
  cases hreaction with
  | idle _ hidle =>
    subst he
    exact absurd hidle (not_idle_of_admits hadmits)
  | foreign server source' rawPacket' hphase hsource =>
    obtain ⟨rfl, -⟩ := PeerEvent.datagram.inj he
    rw [hphase] at hadmits
    exact absurd hadmits hsource
  | resend | expire | dallied => cases he
  | received source' lastEndpoint rawPacket' hphase hready =>
    obtain ⟨rfl, rfl⟩ := PeerEvent.datagram.inj he
    exact ⟨lastEndpoint, hready, rfl⟩

end Operation

theorem admits_ne_done {p : Phase} {source : Endpoint} (h : p.admits source) : p ≠ .done := by
  rintro rfl
  exact h

end Tftp
