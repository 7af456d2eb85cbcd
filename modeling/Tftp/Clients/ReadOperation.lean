import Tftp.Clients.OperationImpl

/-!
# The client side of a read

`Clients::ReadOperationImpl`: requests a file with an RRQ, negotiates the options if
the server acknowledges any, and receives the file.
-/

namespace Tftp.Clients

open Protocol

/-- What the setters of a client operation set; a write operation has no use for
`dally`. -/
structure Settings (δ : Type) where
  tftpTimeout : ℤ := 2
  tftpRetries : UInt16 := 1
  dally : Bool := false
  optionsConfiguration : TftpOptionsConfiguration := {}
  additionalOptions : Options := SortedMap.empty
  optionNegotiationHandler : Option (OptionNegotiationHandler δ) := none
  /-- Whether a completion handler is registered. -/
  completionHandler : Bool := true
  dataHandler : δ
  filename : RawData := []
  mode : TransferMode := .octet
  remote : Endpoint := {}
  «local» : Endpoint := {}

/-- The state of a read operation. -/
structure ReadOperationImpl (δ : Type) extends OperationImpl δ where
  optionsConfigurationV : TftpOptionsConfiguration := {}
  additionalOptionsV : Options := SortedMap.empty
  optionNegotiationHandlerV : Option (OptionNegotiationHandler δ) := none
  filenameV : RawData := []
  modeV : TransferMode := .invalid
  dallyV : Bool := false
  /-- Whether an acknowledgement of options has been accepted. -/
  oackReceived : Bool := false
  /-- The size of a full block, changed by option negotiation. -/
  receiveDataSize : UInt16 := defaultDataSize
  lastReceivedBlockNumber : BlockNumber := 0

namespace ReadOperationImpl

variable {δ : Type}

/-- Changes the shared part of the state. -/
def update (s : ReadOperationImpl δ) (g : OperationImpl δ → OperationImpl δ) :
    ReadOperationImpl δ :=
  { s with toOperationImpl := g s.toOperationImpl }

/-- `optionsConfiguration`: also makes the receive buffer large enough for a full
block, in 16-bit arithmetic. -/
def optionsConfiguration (s : ReadOperationImpl δ) (configuration : TftpOptionsConfiguration) :
    ReadOperationImpl δ :=
  { s with
    optionsConfigurationV := configuration
    receivePacketV := (defaultTftpDataPacketHeaderSize.toNat +
      max defaultDataSize.toNat (configuration.blockSizeOption.getD defaultDataSize).toNat) %
        2 ^ 16 }

/-- A new operation with the given settings. -/
def configured (settings : Settings δ) : ReadOperationImpl δ :=
  ReadOperationImpl.optionsConfiguration
    { receiveTimeoutV := settings.tftpTimeout
      tftpRetriesV := settings.tftpRetries
      completionHandlerV := settings.completionHandler
      remoteV := settings.remote
      localV := settings.local
      dataHandlerV := settings.dataHandler
      additionalOptionsV := settings.additionalOptions
      optionNegotiationHandlerV := settings.optionNegotiationHandler
      filenameV := settings.filename
      modeV := settings.mode
      dallyV := settings.dally }
    settings.optionsConfiguration

variable [ReceiveDataHandler δ]

/-- The options of the request. -/
def requestOptions (s : ReadOperationImpl δ) : Options :=
  let options := Clients.requestOptions s.additionalOptionsV s.optionsConfigurationV
  if s.optionsConfigurationV.handleTransferSizeOption then
    options.emplace (tftpOptionsName .transferSize) (ascii "0")
  else options

/-- `request`: sends the RRQ and waits for the answer. -/
def request (s : ReadOperationImpl δ) (f : Faults) : ReadOperationImpl δ :=
  let s := s.update (OperationImpl.initialise · f)
  match f.startThrows with
  | some e => s.update (OperationImpl.catchException · e)
  | none =>
      let s := s.update (·.startDataHandler)
      let s := { s with
        receiveDataSize := defaultDataSize
        lastReceivedBlockNumber := 0 }
      let s := s.update (·.sendFirst f (.readRequest s.filenameV s.modeV s.requestOptions))
      s.update (·.receiveFirst f)

/-- The part of `dataPacket` for the first block of a server that has ignored the
options: they are negotiated to none. -/
def negotiateNone (s : ReadOperationImpl δ) (blockNumber : BlockNumber) :
    Bool × ReadOperationImpl δ :=
  if blockNumber = 1 ∧ !s.oackReceived then
    let ((accepted, _), b) :=
      s.toOperationImpl.optionNegotiation s.optionNegotiationHandlerV SortedMap.empty
    (accepted, { s with toOperationImpl := b })
  else (true, s)

/-- `dataPacket`: a repetition is acknowledged again, the next block is passed on and
acknowledged. -/
def dataPacket (s : ReadOperationImpl δ) (f : Faults) (blockNumber : BlockNumber)
    (data : RawData) : ReadOperationImpl δ :=
  let short := decide (data.length < s.receiveDataSize.toNat)
  if blockNumber = s.lastReceivedBlockNumber then
    let s := s.update (·.send f (.acknowledgement s.lastReceivedBlockNumber))
    s.update (·.afterData f short s.dallyV)
  else if blockNumber ≠ s.lastReceivedBlockNumber.next then
    s.update (·.reject f .illegalTftpOperation "Block Number not expected" .transferError)
  else if s.receiveDataSize.toNat < data.length then
    s.update (·.reject f .illegalTftpOperation "Too much data" .transferError)
  else
    let (accepted, s) := s.negotiateNone blockNumber
    if !accepted then
      s.update (·.reject f .tftpOptionRefused "Option Negotiation Failed" .transferError)
    else
      let s := s.update (·.receivedData data)
      let s := { s with lastReceivedBlockNumber := s.lastReceivedBlockNumber.next }
      let s := s.update (·.send f (.acknowledgement s.lastReceivedBlockNumber))
      s.update (·.afterData f short s.dallyV)

/-- `acknowledgementPacket`. -/
def acknowledgementPacket (s : ReadOperationImpl δ) (f : Faults) : ReadOperationImpl δ :=
  s.update (·.reject f .illegalTftpOperation "ACK not expected" .transferError)

/-- The ERROR packet and the status of a rejected acknowledgement of options. -/
def refuse (s : ReadOperationImpl δ) (f : Faults) (rejection : Rejection) :
    ReadOperationImpl δ :=
  s.update (·.reject f rejection.errorCode rejection.errorMessage .optionNegotiationError)

/-- The end of `optionsAcknowledgementPacket`: what the handlers say, and the
acknowledgement. -/
def negotiated (s : ReadOperationImpl δ) (f : Faults) (transferSizeValue : Option UInt64)
    (remoteOptions : Options) : ReadOperationImpl δ :=
  let (accepted, b) := s.toOperationImpl.offerTransferSize transferSizeValue
  let s := { s with toOperationImpl := b }
  if !accepted then s.refuse f ⟨.diskFullOrAllocationExceeds, "File to big"⟩
  else
    let ((accepted, remoteOptions), b) :=
      s.toOperationImpl.optionNegotiation s.optionNegotiationHandlerV remoteOptions
    let s := { s with toOperationImpl := b }
    if !accepted then s.refuse f ⟨.tftpOptionRefused, "Option negotiation failed"⟩
    else if !remoteOptions.isEmpty then s.refuse f ⟨.tftpOptionRefused, "Unexpected options"⟩
    else
      let s := { s with oackReceived := true }
      let s := s.update (·.send f (.acknowledgement 0))
      s.update (·.receive f)

/-- `optionsAcknowledgementPacket`: takes over the acknowledged options, each as soon as
it has passed its checks. -/
def optionsAcknowledgementPacket (s : ReadOperationImpl δ) (f : Faults) (remoteOptions : Options) :
    ReadOperationImpl δ :=
  if s.lastReceivedBlockNumber ≠ 0 then
    s.update (·.reject f .illegalTftpOperation "OACK must occur after RRQ" .transferError)
  else if remoteOptions.isEmpty then
    s.update (·.reject f .illegalTftpOperation "Empty OACK not allowed" .transferError)
  else
    match negotiateBlockSize s.optionsConfigurationV remoteOptions with
    | .error rejection => s.refuse f rejection
    | .ok (blockSizeValue, remoteOptions) =>
        let s := { s with receiveDataSize := blockSizeValue.getD s.receiveDataSize }
        match negotiateTimeout s.optionsConfigurationV remoteOptions with
        | .error rejection => s.refuse f rejection
        | .ok (timeoutValue, remoteOptions) =>
            let s := { s with receiveTimeoutV := timeoutValue.getD s.receiveTimeoutV }
            match negotiateTransferSize s.optionsConfigurationV.handleTransferSizeOption
              remoteOptions with
            | .error rejection => s.refuse f rejection
            | .ok (transferSizeValue, remoteOptions) => s.negotiated f transferSizeValue remoteOptions

/-- The handlers of the packets. -/
def received (s : ReadOperationImpl δ) (f : Faults) : Received → ReadOperationImpl δ
  | .packet (.readRequest ..) => s.update (OperationImpl.readRequestPacket · f)
  | .packet (.writeRequest ..) => s.update (OperationImpl.writeRequestPacket · f)
  | .packet (.data blockNumber data) => s.dataPacket f blockNumber data
  | .packet (.acknowledgement _) => s.acknowledgementPacket f
  | .packet (.error errorCode errorMessage) =>
      s.update (OperationImpl.errorPacket · errorCode errorMessage)
  | .packet (.optionsAcknowledgement options) => s.optionsAcknowledgementPacket f options
  | .invalid => s.update (·.invalidPacket f)

instance : Operation (ReadOperationImpl δ) δ where
  base := toOperationImpl
  withBase s b := { s with toOperationImpl := b }
  received := received
  gracefulAbort s f errorCode errorMessage :=
    s.update (OperationImpl.gracefulAbort · f errorCode errorMessage)

end ReadOperationImpl

end Tftp.Clients
