import Tftp.Clients.ReadOperation

/-!
# The client side of a write

`Clients::WriteOperationImpl`: announces a file with a WRQ, negotiates the options if
the server acknowledges any, and sends the file.
-/

namespace Tftp.Clients

open Protocol

/-- The state of a write operation. -/
structure WriteOperationImpl (δ : Type) extends OperationImpl δ where
  optionsConfigurationV : TftpOptionsConfiguration := {}
  additionalOptionsV : Options := SortedMap.empty
  optionNegotiationHandlerV : Option (OptionNegotiationHandler δ) := none
  filenameV : RawData := []
  modeV : TransferMode := .invalid
  /-- The size of a full block, changed by option negotiation. -/
  transmitDataSize : UInt16 := defaultDataSize
  lastDataPacketTransmitted : Bool := false
  lastTransmittedBlockNumber : BlockNumber := 0
  lastReceivedBlockNumber : BlockNumber := 0
  /-- The transfer size announced in the request. -/
  transferSize : Option UInt64 := none

namespace WriteOperationImpl

variable {δ : Type}

/-- Changes the shared part of the state. -/
def update (s : WriteOperationImpl δ) (g : OperationImpl δ → OperationImpl δ) :
    WriteOperationImpl δ :=
  { s with toOperationImpl := g s.toOperationImpl }

/-- A new operation with the given settings. -/
def configured (settings : Settings δ) : WriteOperationImpl δ :=
  { receiveTimeoutV := settings.tftpTimeout
    tftpRetriesV := settings.tftpRetries
    completionHandlerV := settings.completionHandler
    remoteV := settings.remote
    localV := settings.local
    dataHandlerV := settings.dataHandler
    optionsConfigurationV := settings.optionsConfiguration
    additionalOptionsV := settings.additionalOptions
    optionNegotiationHandlerV := settings.optionNegotiationHandler
    filenameV := settings.filename
    modeV := settings.mode }

variable [TransmitDataHandler δ]

/-- Sends the WRQ with the given options and waits for the answer. -/
def sendRequest (s : WriteOperationImpl δ) (f : Faults) (options : Options) :
    WriteOperationImpl δ :=
  let s := s.update (·.sendFirst f (.writeRequest s.filenameV s.modeV options))
  s.update (·.receiveFirst f)

/-- `request`: sends the WRQ and waits for the answer. -/
def request (s : WriteOperationImpl δ) (f : Faults) : WriteOperationImpl δ :=
  let s := s.update (OperationImpl.initialise · f)
  match f.startThrows with
  | some e => s.update (OperationImpl.catchException · e)
  | none =>
      let s := s.update (·.startDataHandler)
      let s := { s with
        transmitDataSize := defaultDataSize
        lastDataPacketTransmitted := false
        lastTransmittedBlockNumber := 0
        lastReceivedBlockNumber := 0xFFFF }
      let options := requestOptions s.additionalOptionsV s.optionsConfigurationV
      if s.optionsConfigurationV.handleTransferSizeOption then
        match f.transferSizeThrows with
        | some e => s.update (OperationImpl.catchException · e)
        | none =>
            let (transferSize, b) := s.toOperationImpl.requestedTransferSize
            let s := { s with toOperationImpl := b, transferSize := transferSize }
            match transferSize with
            | some size =>
                s.sendRequest f
                  (options.emplace (tftpOptionsName .transferSize) (stdToString size.toNat))
            | none => s.sendRequest f options
      else s.sendRequest f options

/-- `sendData`: takes the next block from the data handler and sends it. -/
def sendData (s : WriteOperationImpl δ) (f : Faults) : WriteOperationImpl δ :=
  let s := { s with lastTransmittedBlockNumber := s.lastTransmittedBlockNumber.next }
  let (data, b) := s.toOperationImpl.nextData s.transmitDataSize.toNat
  let s := { s with
    toOperationImpl := b
    lastDataPacketTransmitted :=
      if data.length < s.transmitDataSize.toNat then true else s.lastDataPacketTransmitted }
  s.update (·.send f (.data s.lastTransmittedBlockNumber data))

/-- `dataPacket`. -/
def dataPacket (s : WriteOperationImpl δ) (f : Faults) : WriteOperationImpl δ :=
  s.update (·.reject f .illegalTftpOperation "DATA not expected" .transferError)

/-- The part of `acknowledgementPacket` for block zero: the server has ignored the options,
so they are negotiated to none. -/
def negotiateNone (s : WriteOperationImpl δ) (blockNumber : BlockNumber) :
    Bool × WriteOperationImpl δ :=
  if blockNumber = 0 then
    let ((accepted, _), b) :=
      s.toOperationImpl.optionNegotiation s.optionNegotiationHandlerV SortedMap.empty
    (accepted, { s with toOperationImpl := b })
  else (true, s)

/-- `acknowledgementPacket`: a repetition is ignored, the acknowledgement of the last
block sent asks for the next one. -/
def acknowledgementPacket (s : WriteOperationImpl δ) (f : Faults) (blockNumber : BlockNumber) :
    WriteOperationImpl δ :=
  if blockNumber = s.lastReceivedBlockNumber then s.update (·.receive f)
  else if blockNumber ≠ s.lastTransmittedBlockNumber then
    s.update (·.reject f .illegalTftpOperation "Wrong block number" .transferError)
  else
    let s := { s with lastReceivedBlockNumber := blockNumber }
    let (accepted, s) := s.negotiateNone blockNumber
    if !accepted then
      s.update (·.reject f .tftpOptionRefused "Option Negotiation Failed" .transferError)
    else if s.lastDataPacketTransmitted then s.update (·.finished .successful none)
    else (s.sendData f).update (·.receive f)

/-- The ERROR packet and the status of a rejected acknowledgement of options. -/
def refuse (s : WriteOperationImpl δ) (f : Faults) (rejection : Rejection) :
    WriteOperationImpl δ :=
  s.update (·.reject f rejection.errorCode rejection.errorMessage .optionNegotiationError)

/-- The end of `optionsAcknowledgementPacket`: what the option negotiation handler says,
and the first block. -/
def negotiated (s : WriteOperationImpl δ) (f : Faults) (transferSizeValue : Option UInt64)
    (remoteOptions : Options) : WriteOperationImpl δ :=
  if transferSizeValue.isSome ∧ transferSizeValue ≠ s.transferSize then
    s.refuse f ⟨.tftpOptionRefused, "transfer size invalid"⟩
  else
    let ((accepted, remoteOptions), b) :=
      s.toOperationImpl.optionNegotiation s.optionNegotiationHandlerV remoteOptions
    let s := { s with toOperationImpl := b }
    if !accepted then s.refuse f ⟨.tftpOptionRefused, "Option negotiation failed"⟩
    else if !remoteOptions.isEmpty then s.refuse f ⟨.tftpOptionRefused, "Unexpected options"⟩
    else (s.sendData f).update (·.receive f)

/-- `optionsAcknowledgementPacket`: takes over the acknowledged options, each as soon as
it has passed its checks, and sends the first block. -/
def optionsAcknowledgementPacket (s : WriteOperationImpl δ) (f : Faults)
    (remoteOptions : Options) : WriteOperationImpl δ :=
  if s.lastReceivedBlockNumber ≠ 0xFFFF then
    s.update (·.reject f .illegalTftpOperation "OACK must occur after WRQ" .transferError)
  else if remoteOptions.isEmpty then
    s.update (·.reject f .illegalTftpOperation "Empty OACK not allowed" .transferError)
  else
    match negotiateBlockSize s.optionsConfigurationV remoteOptions with
    | .error rejection => s.refuse f rejection
    | .ok (blockSizeValue, remoteOptions) =>
        let s := { s with transmitDataSize := blockSizeValue.getD s.transmitDataSize }
        match negotiateTimeout s.optionsConfigurationV remoteOptions with
        | .error rejection => s.refuse f rejection
        | .ok (timeoutValue, remoteOptions) =>
            let s := { s with receiveTimeoutV := timeoutValue.getD s.receiveTimeoutV }
            let expected :=
              s.optionsConfigurationV.handleTransferSizeOption && s.transferSize.isSome
            match negotiateTransferSize expected remoteOptions with
            | .error rejection => s.refuse f rejection
            | .ok (transferSizeValue, remoteOptions) => s.negotiated f transferSizeValue remoteOptions

/-- The handlers of the packets. -/
def received (s : WriteOperationImpl δ) (f : Faults) : Received → WriteOperationImpl δ
  | .packet (.readRequest ..) => s.update (OperationImpl.readRequestPacket · f)
  | .packet (.writeRequest ..) => s.update (OperationImpl.writeRequestPacket · f)
  | .packet (.data ..) => s.dataPacket f
  | .packet (.acknowledgement blockNumber) => s.acknowledgementPacket f blockNumber
  | .packet (.error errorCode errorMessage) =>
      s.update (OperationImpl.errorPacket · errorCode errorMessage)
  | .packet (.optionsAcknowledgement options) => s.optionsAcknowledgementPacket f options
  | .invalid => s.update (·.invalidPacket f)

instance : Operation (WriteOperationImpl δ) δ where
  base := toOperationImpl
  withBase s b := { s with toOperationImpl := b }
  received := received
  gracefulAbort s f errorCode errorMessage :=
    s.update (OperationImpl.gracefulAbort · f errorCode errorMessage)

end WriteOperationImpl

end Tftp.Clients
