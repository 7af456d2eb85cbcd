import Tftp.Servers.OperationImpl

/-!
# The server side of a write

`Servers::WriteOperationImpl`: answers a WRQ with an acknowledgement, of options or of
block zero, and receives the file.
-/

namespace Tftp.Servers

open Protocol

/-- The state of a write operation. -/
structure WriteOperationImpl (δ : Type) extends OperationImpl δ where
  dallyV : Bool := false
  optionsConfigurationV : TftpOptionsConfiguration := {}
  clientOptionsV : TftpOptions := {}
  additionalNegotiatedOptionsV : Options := SortedMap.empty
  /-- The size of a full block, changed by option negotiation. -/
  receiveDataSize : UInt16 := defaultDataSize
  lastReceivedBlockNumber : BlockNumber := 0

namespace WriteOperationImpl

variable {δ : Type}

/-- Changes the shared part of the state. -/
def update (s : WriteOperationImpl δ) (g : OperationImpl δ → OperationImpl δ) :
    WriteOperationImpl δ :=
  { s with toOperationImpl := g s.toOperationImpl }

/-- `optionsConfiguration`: also makes the receive buffer large enough for a full
block, in 16-bit arithmetic. -/
def optionsConfiguration (s : WriteOperationImpl δ) (configuration : TftpOptionsConfiguration) :
    WriteOperationImpl δ :=
  { s with
    optionsConfigurationV := configuration
    receivePacketV := (defaultTftpDataPacketHeaderSize.toNat +
      max defaultDataSize.toNat (configuration.blockSizeOption.getD defaultDataSize).toNat) %
        2 ^ 16 }

/-- A new operation with the given settings. -/
def configured (settings : Settings δ) : WriteOperationImpl δ :=
  WriteOperationImpl.optionsConfiguration
    { receiveTimeoutV := settings.tftpTimeout
      tftpRetriesV := settings.tftpRetries
      completionHandlerV := settings.completionHandler
      remoteV := settings.remote
      localV := settings.local
      dataHandlerV := settings.dataHandler
      dallyV := settings.dally
      clientOptionsV := settings.clientOptions
      additionalNegotiatedOptionsV := settings.additionalNegotiatedOptions }
    settings.optionsConfiguration

variable [ReceiveDataHandler δ]

/-- The end of `start`: acknowledges the options, or block zero if there is none to
acknowledge, and waits for the first block. -/
def answer (s : WriteOperationImpl δ) (f : Faults) (options : Options) : WriteOperationImpl δ :=
  let packet : Packet :=
    if !options.isEmpty then .optionsAcknowledgement options else .acknowledgement 0
  let s := s.update (·.send f packet)
  s.update (·.receive f)

/-- The part of `start` for a request with options: accepts what it can, and answers. -/
def negotiate (s : WriteOperationImpl δ) (f : Faults) : WriteOperationImpl δ :=
  let options :=
    serverOptions s.additionalNegotiatedOptionsV s.optionsConfigurationV s.clientOptionsV
  let blockSize := negotiatedBlockSize s.optionsConfigurationV s.clientOptionsV
  let timeout := negotiatedTimeout s.optionsConfigurationV s.clientOptionsV
  let s := { s with
    receiveDataSize := blockSize.getD s.receiveDataSize
    receiveTimeoutV := (timeout.map fun t : UInt8 => (t.toNat : ℤ)).getD s.receiveTimeoutV }
  match s.optionsConfigurationV.handleTransferSizeOption, s.clientOptionsV.transferSize with
  | true, some transferSize =>
      match f.transferSizeThrows with
      | some e => s.update (OperationImpl.catchException · e)
      | none =>
          let (accepted, b) := s.toOperationImpl.receivedTransferSize transferSize
          let s := { s with toOperationImpl := b }
          if !accepted then
            s.update (·.reject f .diskFullOrAllocationExceeds "File to big" .transferError)
          else
            s.answer f
              (options.emplace (tftpOptionsName .transferSize) (stdToString transferSize.toNat))
  | _, _ => s.answer f options

/-- `start`: answers the request. -/
def start (s : WriteOperationImpl δ) (f : Faults) : WriteOperationImpl δ :=
  let s := s.update (OperationImpl.initialise · f)
  match f.startThrows with
  | some e => s.update (OperationImpl.catchException · e)
  | none =>
      let s := s.update (·.startDataHandler)
      if !s.clientOptionsV.isSet && s.additionalNegotiatedOptionsV.isEmpty then
        let s := s.update (·.send f (.acknowledgement 0))
        s.update (·.receive f)
      else s.negotiate f

/-- `dataPacket`: a repetition is acknowledged again, the next block is passed on and
acknowledged. -/
def dataPacket (s : WriteOperationImpl δ) (f : Faults) (blockNumber : BlockNumber)
    (data : RawData) : WriteOperationImpl δ :=
  let short := decide (data.length < s.receiveDataSize.toNat)
  if blockNumber = s.lastReceivedBlockNumber then
    let s := s.update (·.send f (.acknowledgement s.lastReceivedBlockNumber))
    s.update (·.afterData f short s.dallyV)
  else if blockNumber ≠ s.lastReceivedBlockNumber.next then
    s.update (·.reject f .illegalTftpOperation "Block Number not expected" .transferError)
  else if s.receiveDataSize.toNat < data.length then
    s.update (·.reject f .illegalTftpOperation "Too much data" .transferError)
  else
    let s := s.update (·.receivedData data)
    let s := { s with lastReceivedBlockNumber := s.lastReceivedBlockNumber.next }
    let s := s.update (·.send f (.acknowledgement s.lastReceivedBlockNumber))
    s.update (·.afterData f short s.dallyV)

/-- `acknowledgementPacket`. -/
def acknowledgementPacket (s : WriteOperationImpl δ) (f : Faults) : WriteOperationImpl δ :=
  s.update (·.reject f .illegalTftpOperation "ACK not expected" .transferError)

/-- The handlers of the packets. -/
def received (s : WriteOperationImpl δ) (f : Faults) : Received → WriteOperationImpl δ
  | .packet (.readRequest ..) => s.update (OperationImpl.readRequestPacket · f)
  | .packet (.writeRequest ..) => s.update (OperationImpl.writeRequestPacket · f)
  | .packet (.data blockNumber data) => s.dataPacket f blockNumber data
  | .packet (.acknowledgement _) => s.acknowledgementPacket f
  | .packet (.error errorCode errorMessage) =>
      s.update (OperationImpl.errorPacket · errorCode errorMessage)
  | .packet (.optionsAcknowledgement _) =>
      s.update (OperationImpl.optionsAcknowledgementPacket · f)
  | .invalid => s.update (·.invalidPacket f)

instance : Operation (WriteOperationImpl δ) δ where
  base := toOperationImpl
  withBase s b := { s with toOperationImpl := b }
  received := received
  gracefulAbort s f errorCode errorMessage :=
    s.update (OperationImpl.gracefulAbort · f errorCode errorMessage)

end WriteOperationImpl

end Tftp.Servers
