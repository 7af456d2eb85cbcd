import Tftp.Operation

/-!
# What happens to an operation

An operation reacts to what the I/O library reports and to its user: datagrams, timer
expiries, errors of either, and aborts. `Tftp.Operation.step` runs the handler that
waits for the event, and does nothing when none does. What the operation does in the
course of one event is what it leaves in `Tftp.OperationImpl.actions`.

Most properties are about a peer that may send anything while no call fails:
`Tftp.PeerEvent`, `Tftp.Operation.peerStep`.
-/

namespace Tftp

/-- What happens to an operation. -/
inductive Event where
  /-- A datagram arrives at the port of the operation. -/
  | datagram (source : Endpoint) (rawPacket : RawData)
  /-- A receive operation completes with an error. -/
  | receiveError
  /-- The timer expires. -/
  | timeout
  /-- Waiting for the timer completes with an error. -/
  | timerError
  /-- The user aborts. -/
  | abort
  /-- The user aborts gracefully. -/
  | gracefulAbort (errorCode : ErrorCode) (errorMessage : RawData)

/-- What happens to an operation when no call fails and the user does not interfere. -/
inductive PeerEvent where
  /-- A datagram arrives at the port of the operation. -/
  | datagram (source : Endpoint) (rawPacket : RawData)
  /-- The timer expires. -/
  | timeout

/-- A peer event is an event without faults. -/
def PeerEvent.toEvent : PeerEvent → Faults × Event
  | .datagram source rawPacket => ({}, .datagram source rawPacket)
  | .timeout => ({}, .timeout)

/-- An operation: the shared state, and the functions that are virtual. -/
class Operation (σ : Type) (δ : outParam Type) [DataHandler δ] where
  /-- The shared part of the state. -/
  base : σ → OperationImpl δ
  /-- Replaces the shared part. -/
  withBase : σ → OperationImpl δ → σ
  base_withBase : ∀ s b, base (withBase s b) = b := by intros; rfl
  withBase_withBase : ∀ s b b', withBase (withBase s b) b' = withBase s b' := by intros; rfl
  withBase_base : ∀ s, withBase s (base s) = s := by intros; rfl
  /-- The handler of a packet, or of a datagram that is none. -/
  received : σ → Faults → Received → σ
  /-- `gracefulAbort`. -/
  gracefulAbort : σ → Faults → ErrorCode → RawData → σ

namespace Operation

variable {σ δ : Type} [DataHandler δ] [Operation σ δ]

attribute [simp] base_withBase withBase_withBase withBase_base

/-- `receiveHandler`: a datagram for a connected socket; what does not fit into the
buffer is lost. -/
def receiveHandler (s : σ) (f : Faults) (rawPacket : RawData) : σ :=
  received s f (PacketHandler.packet (rawPacket.take (base s).receivePacketV))

/-- `receiveFirstHandler`: a datagram from anywhere. One from the expected address
decides on the peer; one from another address is answered with an ERROR packet and
otherwise ignored. -/
def receiveFirstHandler (s : σ) (f : Faults) (source : Endpoint) (rawPacket : RawData) : σ :=
  let b := { base s with receiveEndpointV := source }
  if b.remoteV.address ≠ b.receiveEndpointV.address then
    let err := Packet.error .unknownTransferId (ascii "Packet from wrong source")
    let b := if f.sendUnknownFails then b else b.emit (.sendUnknown err.encode b.receiveEndpointV)
    if f.receiveFails then withBase s (b.finished .communicationError none)
    else withBase s { b with receives := b.receives ++ [.receiveFirstHandler] }
  else if f.connectFails then withBase s (b.finished .communicationError none)
  else
    receiveHandler (withBase s { b with socketV := .connected b.receiveEndpointV }) f rawPacket

/-- The handler that waits for a datagram gets it. -/
def onDatagram (s : σ) (f : Faults) (source : Endpoint) (rawPacket : RawData) : σ :=
  match (base s).receives with
  | [] => s
  | handler :: rest =>
      if (base s).socketV.accepts source then
        let s := withBase s { base s with receives := rest }
        match handler with
        | .receiveFirstHandler => receiveFirstHandler s f source rawPacket
        | .receiveHandler => receiveHandler s f rawPacket
      else s

/-- The handler that waits for the timer runs. -/
def onTimeout (s : σ) (f : Faults) : σ :=
  match (base s).timerV with
  | none => s
  | some (handler, _) =>
      let b := { base s with timerV := none }
      match handler with
      | .timeoutFirstHandler => withBase s (b.timeoutFirstHandler f)
      | .timeoutHandler => withBase s (b.timeoutHandler f)
      | .timeoutDallyHandler => withBase s b.timeoutDallyHandler

/-- One event; a process that was terminated does not react. -/
def step (s : σ) (e : Faults × Event) : σ :=
  let s := withBase s { base s with actions := [] }
  if (base s).terminated then s
  else
    match e with
    | (f, .datagram source rawPacket) => onDatagram s f source rawPacket
    | (_, .receiveError) =>
        match (base s).receives with
        | [] => s
        | _ :: rest =>
            withBase s ({ base s with receives := rest }.finished .communicationError none)
    | (f, .timeout) => onTimeout s f
    | (_, .timerError) =>
        match (base s).timerV with
        | none => s
        | some _ => withBase s ({ base s with timerV := none }.finished .communicationError none)
    | (_, .abort) => withBase s (base s).abort
    | (f, .gracefulAbort errorCode errorMessage) =>
        gracefulAbort s f errorCode errorMessage

/-- One event when no call fails and the user does not interfere. -/
def peerStep (s : σ) (e : PeerEvent) : σ := step s e.toEvent

/-- What an operation did in the course of the last event. -/
def actions (s : σ) : List Action := (base s).actions

end Operation

end Tftp
