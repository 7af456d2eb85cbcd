import Tftp.Servers.OperationImpl

/-!
# The server side of a read

`Servers::ReadOperationImpl`: answers an RRQ with an acknowledgement of options or
with the first block, and sends the file.
-/

namespace Tftp.Servers

open Protocol

/-- The state of a read operation. -/
structure ReadOperationImpl (δ : Type) extends OperationImpl δ where
  optionsConfigurationV : TftpOptionsConfiguration := {}
  clientOptionsV : TftpOptions := {}
  additionalNegotiatedOptionsV : Options := SortedMap.empty
  /-- The size of a full block, changed by option negotiation. -/
  transmitDataSize : UInt16 := defaultDataSize
  lastDataPacketTransmitted : Bool := false
  lastTransmittedBlockNumber : BlockNumber := 0
  lastReceivedBlockNumber : BlockNumber := 0

namespace ReadOperationImpl

variable {δ : Type}

/-- Changes the shared part of the state. -/
def update (s : ReadOperationImpl δ) (g : OperationImpl δ → OperationImpl δ) :
    ReadOperationImpl δ :=
  { s with toOperationImpl := g s.toOperationImpl }

/-- A new operation with the given settings. -/
def configured (settings : Settings δ) : ReadOperationImpl δ :=
  { receiveTimeoutV := settings.tftpTimeout
    tftpRetriesV := settings.tftpRetries
    completionHandlerV := settings.completionHandler
    remoteV := settings.remote
    localV := settings.local
    dataHandlerV := settings.dataHandler
    optionsConfigurationV := settings.optionsConfiguration
    clientOptionsV := settings.clientOptions
    additionalNegotiatedOptionsV := settings.additionalNegotiatedOptions }

variable [TransmitDataHandler δ]

/-- `sendData`: takes the next block from the data handler and sends it. -/
def sendData (s : ReadOperationImpl δ) (f : Faults) : ReadOperationImpl δ :=
  let s := { s with lastTransmittedBlockNumber := s.lastTransmittedBlockNumber.next }
  let (data, b) := s.toOperationImpl.nextData s.transmitDataSize.toNat
  let s := { s with
    toOperationImpl := b
    lastDataPacketTransmitted :=
      if data.length < s.transmitDataSize.toNat then true else s.lastDataPacketTransmitted }
  s.update (·.send f (.data s.lastTransmittedBlockNumber data))

/-- The end of `start`: acknowledges the options, or sends the first block if there
is none to acknowledge, and waits for the answer. -/
def answer (s : ReadOperationImpl δ) (f : Faults) (options : Options) : ReadOperationImpl δ :=
  if !options.isEmpty then
    -- so that the acknowledgement of the options is told from a repetition
    let s := { s with lastReceivedBlockNumber := 0xFFFF }
    let s := s.update (·.send f (.optionsAcknowledgement options))
    s.update (·.receive f)
  else (s.sendData f).update (·.receive f)

/-- The part of `start` for a request with options: accepts what it can, and answers. -/
def negotiate (s : ReadOperationImpl δ) (f : Faults) : ReadOperationImpl δ :=
  let options :=
    serverOptions s.additionalNegotiatedOptionsV s.optionsConfigurationV s.clientOptionsV
  let blockSize := negotiatedBlockSize s.optionsConfigurationV s.clientOptionsV
  let timeout := negotiatedTimeout s.optionsConfigurationV s.clientOptionsV
  let s := { s with
    transmitDataSize := blockSize.getD s.transmitDataSize
    receiveTimeoutV := (timeout.map fun t : UInt8 => (t.toNat : ℤ)).getD s.receiveTimeoutV }
  match s.optionsConfigurationV.handleTransferSizeOption, s.clientOptionsV.transferSize with
  | true, some transferSize =>
      if transferSize ≠ 0 then
        s.update (·.reject f .tftpOptionRefused "transfer size must be 0" .transferError)
      else
        match f.transferSizeThrows with
        | some e => s.update (OperationImpl.catchException · e)
        | none =>
            let (newTransferSize, b) := s.toOperationImpl.requestedTransferSize
            let s := { s with toOperationImpl := b }
            match newTransferSize with
            | some size =>
                s.answer f (options.emplace (tftpOptionsName .transferSize) (stdToString size.toNat))
            | none => s.answer f options
  | _, _ => s.answer f options

/-- `start`: answers the request. -/
def start (s : ReadOperationImpl δ) (f : Faults) : ReadOperationImpl δ :=
  let s := s.update (OperationImpl.initialise · f)
  match f.startThrows with
  | some e => s.update (OperationImpl.catchException · e)
  | none =>
      let s := s.update (·.startDataHandler)
      if !s.clientOptionsV.isSet && s.additionalNegotiatedOptionsV.isEmpty then
        (s.sendData f).update (·.receive f)
      else s.negotiate f

/-- `dataPacket`. -/
def dataPacket (s : ReadOperationImpl δ) (f : Faults) : ReadOperationImpl δ :=
  s.update (·.reject f .illegalTftpOperation "DATA packet isn't expected" .transferError)

/-- `acknowledgementPacket`: a repetition is ignored, the acknowledgement of the last
block sent asks for the next one. -/
def acknowledgementPacket (s : ReadOperationImpl δ) (f : Faults) (blockNumber : BlockNumber) :
    ReadOperationImpl δ :=
  if blockNumber = s.lastReceivedBlockNumber then s.update (·.receive f)
  else if blockNumber ≠ s.lastTransmittedBlockNumber then
    s.update (·.reject f .illegalTftpOperation "Wrong block number" .transferError)
  else
    let s := { s with lastReceivedBlockNumber := blockNumber }
    if s.lastDataPacketTransmitted then s.update (·.finished .successful none)
    else (s.sendData f).update (·.receive f)

/-- The handlers of the packets. -/
def received (s : ReadOperationImpl δ) (f : Faults) : Received → ReadOperationImpl δ
  | .packet (.readRequest ..) => s.update (OperationImpl.readRequestPacket · f)
  | .packet (.writeRequest ..) => s.update (OperationImpl.writeRequestPacket · f)
  | .packet (.data ..) => s.dataPacket f
  | .packet (.acknowledgement blockNumber) => s.acknowledgementPacket f blockNumber
  | .packet (.error errorCode errorMessage) =>
      s.update (OperationImpl.errorPacket · errorCode errorMessage)
  | .packet (.optionsAcknowledgement _) =>
      s.update (OperationImpl.optionsAcknowledgementPacket · f)
  | .invalid => s.update (·.invalidPacket f)

instance : Operation (ReadOperationImpl δ) δ where
  base := toOperationImpl
  withBase s b := { s with toOperationImpl := b }
  received := received
  gracefulAbort s f errorCode errorMessage :=
    s.update (OperationImpl.gracefulAbort · f errorCode errorMessage)

end ReadOperationImpl

end Tftp.Servers
