import Tftp.DataHandlers

/-!
# What all operations share

`OperationImpl` of the client and of the server: the socket, the timer, the last
packet sent with its retransmission counter, and the completion report. The two
classes are the same but for the functions that carry `Clients` or `Servers` in their
name below.

What the operation system and the I/O library do is part of the state: whether the
socket is open and connected, which handlers wait for a datagram and for the timer. A
handler that is waiting no longer does not run. A socket call that the library may
let fail is told by `Tftp.Faults` whether it does; a send over a socket without a
peer and a cancel of a closed socket fail by themselves. The latter happens only
inside `finished`, which is `noexcept`, so it ends the process
(`Tftp.OperationImpl.terminated`).
-/

namespace Tftp

/-- The UDP socket of an operation. -/
inductive Socket where
  | closed
  /-- Open, receiving from anywhere. -/
  | opened
  /-- Connected: receives from its peer only. -/
  | connected (peer : Endpoint)
  deriving DecidableEq, Repr

/-- Whether a datagram from the given source reaches the socket. -/
def Socket.accepts (socket : Socket) (source : Endpoint) : Bool :=
  match socket with
  | .closed => false
  | .opened => true
  | .connected peer => source = peer

/-- The handler that waits for a datagram. -/
inductive ReceiveHandler where
  | receiveFirstHandler
  | receiveHandler
  deriving DecidableEq, Repr

/-- The handler that waits for the timer. -/
inductive TimerHandler where
  | timeoutFirstHandler
  | timeoutHandler
  | timeoutDallyHandler
  deriving DecidableEq, Repr

/-- An exception thrown by a data handler. -/
inductive HandlerException where
  /-- A `TftpException`, which is a `boost::exception`. -/
  | tftpException
  /-- Another `boost::exception`. -/
  | boostException
  /-- Anything else. -/
  | otherException
  deriving DecidableEq, Repr

/-- What goes wrong outside the library during one event. -/
structure Faults where
  /-- Opening the socket fails. -/
  openFails : Bool := false
  /-- Binding the socket fails. -/
  bindFails : Bool := false
  /-- Connecting the socket fails. -/
  connectFails : Bool := false
  /-- Sending a new packet fails. -/
  sendFails : Bool := false
  /-- Sending the stored packet again fails. -/
  resendFails : Bool := false
  /-- Sending to an unknown partner fails. -/
  sendUnknownFails : Bool := false
  /-- Starting to receive fails. -/
  receiveFails : Bool := false
  /-- The data handler throws when it is started. -/
  startThrows : Option HandlerException := none
  /-- The data handler throws when it is asked for or told the transfer size, while the
  operation is started. -/
  transferSizeThrows : Option HandlerException := none

/-- What an operation does that can be seen from outside. -/
inductive Action where
  /-- A new packet is sent. -/
  | send (rawPacket : RawData) (destination : Endpoint)
  /-- The stored packet is sent again. -/
  | resend (rawPacket : RawData) (destination : Endpoint)
  /-- An ERROR packet is sent to an unknown partner. -/
  | sendUnknown (rawPacket : RawData) (destination : Endpoint)
  /-- `start()` of the data handler. -/
  | start
  /-- `requestedTransferSize()` of the data handler. -/
  | requestedTransferSize
  /-- `receivedTransferSize()` of the data handler. -/
  | receivedTransferSize (transferSize : UInt64)
  /-- `sendData()` of the data handler: the size asked for, and the data returned. -/
  | sendData (maxSize : ℕ) (data : RawData)
  /-- `receivedData()` of the data handler. -/
  | receivedData (data : RawData)
  /-- The option negotiation handler is called. -/
  | optionNegotiation (options : Options)
  /-- `finished()` is entered, and with it `finished()` of the data handler. -/
  | finished (status : TransferStatus)
  /-- The completion handler is called. -/
  | completionHandler (status : TransferStatus)
  /-- An exception leaves the operation. -/
  | exception (thrown : HandlerException)
  deriving DecidableEq

/-- The state shared by all operations. -/
structure OperationImpl (δ : Type) where
  /-- Receive timeout in seconds. -/
  receiveTimeoutV : ℤ := 2
  tftpRetriesV : UInt16 := 1
  /-- Whether a completion handler is registered. -/
  completionHandlerV : Bool := false
  remoteV : Endpoint := {}
  localV : Endpoint := {}
  socketV : Socket := .closed
  /-- The handlers that wait for a datagram. -/
  receives : List ReceiveHandler := []
  /-- The handler that waits for the timer, and how long. -/
  timerV : Option (TimerHandler × ℤ) := none
  /-- The size of the receive buffer. -/
  receivePacketV : ℕ := defaultMaxPacketSize.toNat
  /-- Where the last datagram came from, as long as the socket is not connected. -/
  receiveEndpointV : Endpoint := {}
  /-- The last packet sent, for retransmission. -/
  transmitPacketV : RawData := []
  transmitCounterV : UInt32 := 0
  errorInformationV : Option (ErrorCode × RawData) := none
  /-- The data handler and everything else that the user's handlers share. -/
  dataHandlerV : δ
  /-- The process has been terminated. -/
  terminated : Bool := false
  /-- What the operation has done since the last event. -/
  actions : List Action := []

namespace OperationImpl

variable {δ : Type}

/-- Something that can be seen from outside. -/
def emit (s : OperationImpl δ) (action : Action) : OperationImpl δ :=
  { s with actions := s.actions ++ [action] }

section Engine

variable [DataHandler δ]

/-- `finished`: completes the data handler, closes the socket, and reports. -/
def finished (s : OperationImpl δ) (status : TransferStatus)
    (errorInformation : Option (ErrorCode × RawData)) : OperationImpl δ :=
  if s.terminated then s
  else
    let s := { s with
      dataHandlerV := DataHandler.finished s.dataHandlerV
      errorInformationV := errorInformation
      timerV := none }
    let s := s.emit (.finished status)
    match s.socketV with
    | .closed => { s with terminated := true }
    | _ =>
        let s := { s with receives := [], socketV := .closed }
        if s.completionHandlerV then s.emit (.completionHandler status) else s

/-- `sendFirst`: sends the request. -/
def sendFirst (s : OperationImpl δ) (f : Faults) (packet : Packet) : OperationImpl δ :=
  if s.terminated then s
  else
    let s := { s with transmitCounterV := 1, transmitPacketV := packet.encode }
    if s.socketV = .closed ∨ f.sendFails then s.finished .communicationError none
    else s.emit (.send s.transmitPacketV s.remoteV)

/-- `send`: sends a packet to the peer. -/
def send (s : OperationImpl δ) (f : Faults) (packet : Packet) : OperationImpl δ :=
  if s.terminated then s
  else
    let s := { s with transmitCounterV := 1, transmitPacketV := packet.encode }
    match s.socketV with
    | .connected peer =>
        if f.sendFails then s.finished .communicationError none
        else s.emit (.send s.transmitPacketV peer)
    | _ => s.finished .communicationError none

/-- Starts to receive with the given handlers. -/
def arm (s : OperationImpl δ) (f : Faults) (onReceive : ReceiveHandler)
    (onTimeout : TimerHandler) (timeout : ℤ) : OperationImpl δ :=
  if s.terminated then s
  else if f.receiveFails then s.finished .communicationError none
  else { s with
    receives := s.receives ++ [onReceive]
    timerV := some (onTimeout, timeout) }

/-- `receiveFirst`: waits for the answer to the request. -/
def receiveFirst (s : OperationImpl δ) (f : Faults) : OperationImpl δ :=
  s.arm f .receiveFirstHandler .timeoutFirstHandler s.receiveTimeoutV

/-- `receive`: waits for the next packet. -/
def receive (s : OperationImpl δ) (f : Faults) : OperationImpl δ :=
  s.arm f .receiveHandler .timeoutHandler s.receiveTimeoutV

/-- `receiveDally`: waits for a repetition of the last packet. -/
def receiveDally (s : OperationImpl δ) (f : Faults) : OperationImpl δ :=
  s.arm f .receiveHandler .timeoutDallyHandler (2 * s.receiveTimeoutV)

/-- Sends an ERROR packet and finishes with its code and text. -/
def reject (s : OperationImpl δ) (f : Faults) (errorCode : ErrorCode) (errorMessage : String)
    (status : TransferStatus) : OperationImpl δ :=
  (s.send f (.error errorCode (ascii errorMessage))).finished status
    (some (errorCode, ascii errorMessage))

/-- `invalidPacket`. -/
def invalidPacket (s : OperationImpl δ) (f : Faults) : OperationImpl δ :=
  s.reject f .illegalTftpOperation "Invalid packet isn't expected" .transferError

/-- `timeoutFirstHandler`: sends the request again. -/
def timeoutFirstHandler (s : OperationImpl δ) (f : Faults) : OperationImpl δ :=
  if s.tftpRetriesV.toNat < s.transmitCounterV.toNat then s.finished .communicationError none
  else if s.socketV = .closed ∨ f.resendFails then s.finished .communicationError none
  else
    let s := s.emit (.resend s.transmitPacketV s.remoteV)
    { s with
      transmitCounterV := s.transmitCounterV + 1
      timerV := some (.timeoutFirstHandler, s.receiveTimeoutV) }

/-- `timeoutHandler`: sends the last packet again. -/
def timeoutHandler (s : OperationImpl δ) (f : Faults) : OperationImpl δ :=
  if s.tftpRetriesV.toNat < s.transmitCounterV.toNat then s.finished .communicationError none
  else
    match s.socketV with
    | .connected peer =>
        if f.resendFails then s.finished .communicationError none
        else
          let s := s.emit (.resend s.transmitPacketV peer)
          { s with
            transmitCounterV := s.transmitCounterV + 1
            timerV := some (.timeoutHandler, s.receiveTimeoutV) }
    | _ => s.finished .communicationError none

/-- `timeoutDallyHandler`: nothing was repeated, the transfer is over. -/
def timeoutDallyHandler (s : OperationImpl δ) : OperationImpl δ :=
  s.finished .successful none

/-- `abort`. -/
def abort (s : OperationImpl δ) : OperationImpl δ := s.finished .aborted none

/-- After a block of data: the end of the file is told by a short block, and then the
operation is over, or dallies. -/
def afterData (s : OperationImpl δ) (f : Faults) (short dally : Bool) : OperationImpl δ :=
  if short then
    if dally then s.receiveDally f else s.finished .successful none
  else s.receive f

/-- `start()` of the data handler. -/
def startDataHandler (s : OperationImpl δ) : OperationImpl δ :=
  if s.terminated then s
  else { s with dataHandlerV := DataHandler.start s.dataHandlerV }.emit .start

end Engine

/-! ### Calls of the user's handlers -/

/-- The option negotiation handler decides on the options; without one they are
accepted as they are. -/
def optionNegotiation (s : OperationImpl δ) (handler : Option (OptionNegotiationHandler δ))
    (options : Options) : (Bool × Options) × OperationImpl δ :=
  match handler with
  | none => ((true, options), s)
  | some handler =>
      let (accepted, remaining, state) := handler s.dataHandlerV options
      ((accepted, remaining), { s with dataHandlerV := state }.emit (.optionNegotiation options))

/-- `receivedData()` of the data handler. -/
def receivedData [ReceiveDataHandler δ] (s : OperationImpl δ) (data : RawData) :
    OperationImpl δ :=
  { s with dataHandlerV := ReceiveDataHandler.receivedData s.dataHandlerV data }.emit
    (.receivedData data)

/-- `receivedTransferSize()` of the data handler. -/
def receivedTransferSize [ReceiveDataHandler δ] (s : OperationImpl δ) (transferSize : UInt64) :
    Bool × OperationImpl δ :=
  if s.terminated then (true, s)
  else
    let (accepted, state) := ReceiveDataHandler.receivedTransferSize s.dataHandlerV transferSize
    (accepted, { s with dataHandlerV := state }.emit (.receivedTransferSize transferSize))

/-- Tells the data handler the transfer size, if there is one. -/
def offerTransferSize [ReceiveDataHandler δ] (s : OperationImpl δ) :
    Option UInt64 → Bool × OperationImpl δ
  | some transferSize => s.receivedTransferSize transferSize
  | none => (true, s)

/-- `requestedTransferSize()` of the data handler. -/
def requestedTransferSize [TransmitDataHandler δ] (s : OperationImpl δ) :
    Option UInt64 × OperationImpl δ :=
  if s.terminated then (none, s)
  else
    let (transferSize, state) := TransmitDataHandler.requestedTransferSize s.dataHandlerV
    (transferSize, { s with dataHandlerV := state }.emit .requestedTransferSize)

/-- `sendData()` of the data handler. -/
def nextData [TransmitDataHandler δ] (s : OperationImpl δ) (maxSize : ℕ) :
    RawData × OperationImpl δ :=
  if s.terminated then ([], s)
  else
    let (data, state) := TransmitDataHandler.sendData s.dataHandlerV maxSize
    (data, { s with dataHandlerV := state }.emit (.sendData maxSize data))

end OperationImpl

end Tftp
