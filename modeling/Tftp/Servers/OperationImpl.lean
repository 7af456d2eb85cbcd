import Tftp.Phases
import Tftp.KnownOptions

/-!
# What both server operations share

The functions of `Servers::OperationImpl` that differ from those of the client, the
rules by which the server accepts a block size and a timeout, and
`Tftp.Servers.tftpOptions`, with which the server decodes the options of a request.
-/

namespace Tftp.Servers

open Protocol

namespace OperationImpl

open Tftp.OperationImpl

variable {δ : Type} [DataHandler δ]

/-- `initialise`: opens and binds the socket, and connects it to the client. -/
def initialise (s : OperationImpl δ) (f : Faults) : OperationImpl δ :=
  if s.socketV ≠ .closed ∨ f.openFails ∨ !s.localV.address.isUnspecified ∧ f.bindFails ∨
      f.connectFails then
    -- the socket is closed before it is cancelled
    { s with socketV := .closed }.finished .communicationError none
  else { s with socketV := .connected s.remoteV }

/-- `gracefulAbort`: tells the client. -/
def gracefulAbort (s : OperationImpl δ) (f : Faults) (errorCode : ErrorCode)
    (errorMessage : RawData) : OperationImpl δ :=
  (s.send f (.error errorCode errorMessage)).finished .aborted (some (errorCode, errorMessage))

/-- `readRequestPacket`. -/
def readRequestPacket (s : OperationImpl δ) (f : Faults) : OperationImpl δ :=
  s.reject f .illegalTftpOperation "RRQ packet isn't expected" .transferError

/-- `writeRequestPacket`. -/
def writeRequestPacket (s : OperationImpl δ) (f : Faults) : OperationImpl δ :=
  s.reject f .illegalTftpOperation "WRQ packet isn't expected" .transferError

/-- `optionsAcknowledgementPacket`. -/
def optionsAcknowledgementPacket (s : OperationImpl δ) (f : Faults) : OperationImpl δ :=
  s.reject f .illegalTftpOperation "OACK packet isn't expected" .transferError

/-- `errorPacket`: what the status is depends on what the client answers to. -/
def errorPacket (s : OperationImpl δ) (errorCode : ErrorCode) (errorMessage : RawData) :
    OperationImpl δ :=
  let errorInformation := some (errorCode, errorMessage)
  match Packet.packetType s.transmitPacketV with
  | .optionsAcknowledgement =>
      if errorCode = .tftpOptionRefused then
        s.finished .optionNegotiationError errorInformation
      else s.finished .transferError errorInformation
  | _ => s.finished .transferError errorInformation

/-- The catch clauses of `start`: a `TftpException` is only logged, any other exception
finishes the operation. -/
def catchException (s : OperationImpl δ) (e : HandlerException) : OperationImpl δ :=
  match e with
  | .tftpException => s
  | .boostException | .otherException => s.finished .communicationError none

/-- The socket is connected to the client, the data handler has been started, and the
receive timeout is the given one. -/
def connected (s : OperationImpl δ) (receiveTimeout : ℤ) : OperationImpl δ :=
  { s with
    socketV := .connected s.remoteV
    dataHandlerV := DataHandler.start s.dataHandlerV
    receiveTimeoutV := receiveTimeout
    actions := s.actions ++ [.start] }

theorem initialise_eq {s : OperationImpl δ} (h : s.Idle) :
    (initialise s {}).startDataHandler = connected s s.receiveTimeoutV := by
  simp [initialise, OperationImpl.startDataHandler, connected, emit, h.closed, h.alive]

theorem ready_connected {s : OperationImpl δ} (h : s.Idle) (receiveTimeout : ℤ) :
    (connected s receiveTimeout).Ready s.remoteV :=
  ⟨h.alive, rfl, h.receives_nil⟩

/-- A received ERROR packet ends the operation, and not with success. -/
theorem errorPacket_eq (s : OperationImpl δ) (errorCode : ErrorCode) (errorMessage : RawData) :
    ∃ status, status ≠ .successful ∧
      (Packet.packetType s.transmitPacketV = .data ∨
        Packet.packetType s.transmitPacketV = .acknowledgement → status = .transferError) ∧
      errorPacket s errorCode errorMessage =
        s.finished status (some (errorCode, errorMessage)) := by
  rw [errorPacket]
  cases Packet.packetType s.transmitPacketV with
  | optionsAcknowledgement =>
    by_cases hcode : errorCode = .tftpOptionRefused
    · exact ⟨.optionNegotiationError, by decide, by simp, if_pos hcode⟩
    · exact ⟨.transferError, by decide, fun _ => rfl, if_neg hcode⟩
  | readRequest | writeRequest | data | acknowledgement | error | invalid =>
    exact ⟨.transferError, by decide, fun _ => rfl, rfl⟩

end OperationImpl

/-- What the setters of a server operation set; a read operation has no use for
`dally`. -/
structure Settings (δ : Type) where
  tftpTimeout : ℤ := 2
  tftpRetries : UInt16 := 1
  dally : Bool := false
  optionsConfiguration : TftpOptionsConfiguration := {}
  clientOptions : TftpOptions := {}
  additionalNegotiatedOptions : Options := SortedMap.empty
  /-- Whether a completion handler is registered. -/
  completionHandler : Bool := true
  dataHandler : δ
  remote : Endpoint := {}
  «local» : Endpoint := {}

/-- The block size to acknowledge, if any: the smaller of the requested one and the
configured one. -/
def negotiatedBlockSize (configuration : TftpOptionsConfiguration) (clientOptions : TftpOptions) :
    Option UInt16 :=
  match configuration.blockSizeOption, clientOptions.blockSize with
  | some configured, some requested => some (min requested configured)
  | _, _ => none

/-- The timeout to acknowledge, if any: the requested one, if it does not exceed the
configured one. -/
def negotiatedTimeout (configuration : TftpOptionsConfiguration) (clientOptions : TftpOptions) :
    Option UInt8 :=
  match configuration.timeoutOption, clientOptions.timeout with
  | some configured, some requested =>
      if (requested.toNat : ℤ) ≤ configured then some requested else none
  | _, _ => none

/-- The acknowledged block size and timeout, after the additional options. -/
def serverOptions (additionalNegotiatedOptions : Options) (configuration : TftpOptionsConfiguration)
    (clientOptions : TftpOptions) : Options :=
  let options := additionalNegotiatedOptions
  let options :=
    match negotiatedBlockSize configuration clientOptions with
    | some blockSize => options.emplace (tftpOptionsName .blockSize) (stdToString blockSize.toNat)
    | none => options
  match negotiatedTimeout configuration clientOptions with
  | some timeout => options.emplace (tftpOptionsName .timeout) (stdToString timeout.toNat)
  | none => options

/-- The known options that are acknowledged, given the transfer size. -/
def acknowledged (configuration : TftpOptionsConfiguration) (clientOptions : TftpOptions)
    (transferSize : Option UInt64) : TftpOptions where
  blockSize := negotiatedBlockSize configuration clientOptions
  timeout := negotiatedTimeout configuration clientOptions
  transferSize := transferSize

/-- `ServerImpl::tftpOptions`: decodes the known options of a request, and returns the
other ones. An option that cannot be decoded counts as absent. -/
def tftpOptions (clientOptions : Options) : TftpOptions × Options :=
  let ((_, blockSize), clientOptions) := Options.getOption 16 clientOptions
    (tftpOptionsName .blockSize) blockSizeOptionMin blockSizeOptionMax
  let clientOptions := clientOptions.erase (tftpOptionsName .blockSize)
  let ((_, timeout), clientOptions) := Options.getOption 8 clientOptions
    (tftpOptionsName .timeout) timeoutOptionMin timeoutOptionMax
  let clientOptions := clientOptions.erase (tftpOptionsName .timeout)
  let ((_, transferSize), clientOptions) := Options.getOption 64 clientOptions
    (tftpOptionsName .transferSize) 0 ullongMax
  let clientOptions := clientOptions.erase (tftpOptionsName .transferSize)
  ({ blockSize := blockSize.map UInt16.ofNat
     timeout := timeout.map UInt8.ofNat
     transferSize := transferSize.map UInt64.ofNat }, clientOptions)

/-! ### Without any option -/

section NoOptions

variable {configuration : TftpOptionsConfiguration} {clientOptions : TftpOptions}
  {additional : Options}

theorem isSet_eq_false (h : clientOptions.isSet = false) :
    clientOptions.blockSize = none ∧ clientOptions.timeout = none ∧
      clientOptions.transferSize = none := by
  simpa [TftpOptions.isSet, and_assoc] using h

theorem negotiatedBlockSize_none (h : clientOptions.blockSize = none) :
    negotiatedBlockSize configuration clientOptions = none := by
  rw [negotiatedBlockSize, h]
  cases configuration.blockSizeOption <;> rfl

theorem negotiatedTimeout_none (h : clientOptions.timeout = none) :
    negotiatedTimeout configuration clientOptions = none := by
  rw [negotiatedTimeout, h]
  cases configuration.timeoutOption <;> rfl

/-- A request without options is answered without options but the additional ones. -/
theorem serverOptions_of_isSet (h : clientOptions.isSet = false) :
    serverOptions additional configuration clientOptions = additional := by
  obtain ⟨hblock, htimeout, -⟩ := isSet_eq_false h
  simp only [serverOptions, negotiatedBlockSize_none hblock, negotiatedTimeout_none htimeout]

end NoOptions

/-! ### With the known options -/

section Known

variable {known : TftpOptions} {configuration : TftpOptionsConfiguration}
  {clientOptions : TftpOptions} {m additional : Options}

/-- **What was put into the request is decoded again.** -/
theorem tftpOptions_eq (hrange : known.InRange)
    (hfind : ∀ o, m.find? (tftpOptionsName o) = (known.number o).map stdToString) :
    (tftpOptions m).1 = known := by
  have herase : ∀ (m : Options) (o o' : KnownOptions), o ≠ o' →
      (m.erase (tftpOptionsName o)).find? (tftpOptionsName o') = m.find? (tftpOptionsName o') := by
    intro m o o' hne
    rw [SortedMap.find?_erase, if_neg (TftpOptions.tftpOptionsName_ne hne.symm)]
  obtain ⟨m₁, hblock, hm₁⟩ := TftpOptions.getOption_blockSize hrange (hfind .blockSize)
  have hfind₁ : ∀ o, o ≠ .blockSize → (m₁.erase (tftpOptionsName .blockSize)).find?
      (tftpOptionsName o) = (known.number o).map stdToString := by
    intro o ho
    rw [herase _ _ _ ho.symm, hm₁, if_neg (TftpOptions.tftpOptionsName_ne ho), hfind]
  obtain ⟨m₂, htimeout, hm₂⟩ := TftpOptions.getOption_timeout hrange (hfind₁ .timeout (by decide))
  have hfind₂ : (m₂.erase (tftpOptionsName .timeout)).find? (tftpOptionsName .transferSize) =
      (known.number .transferSize).map stdToString := by
    rw [herase _ _ _ (by decide), hm₂, if_neg (TftpOptions.tftpOptionsName_ne (by decide)),
      hfind₁ _ (by decide)]
  obtain ⟨m₃, hsize, -⟩ := TftpOptions.getOption_transferSize hfind₂
  simp only [tftpOptions, hblock, htimeout, hsize, TftpOptions.number, Option.map_map]
  obtain ⟨blockSize, timeout, transferSize⟩ := known
  simp [Function.comp_def]

/-- **An acknowledgement carries the known options**, after the additional ones. -/
theorem serverOptions_eq (additional : Options) (configuration : TftpOptionsConfiguration)
    (clientOptions : TftpOptions) (transferSize : Option UInt64) :
    (serverOptions additional configuration clientOptions).emplaceNumber
      (tftpOptionsName .transferSize) (transferSize.map UInt64.toNat) =
        (acknowledged configuration clientOptions transferSize).onto additional := by
  rw [TftpOptions.onto]
  refine congrArg (fun m : Options => m.emplaceNumber (tftpOptionsName .transferSize)
    (transferSize.map UInt64.toNat)) ?_
  cases hb : negotiatedBlockSize configuration clientOptions <;>
    cases ht : negotiatedTimeout configuration clientOptions <;>
      simp [serverOptions, TftpOptions.number, acknowledged, Options.emplaceNumber, hb, ht]

/-- The block size is the smaller one of two. -/
theorem negotiatedBlockSize_eq_some {b : UInt16}
    (h : negotiatedBlockSize configuration clientOptions = some b) :
    ∃ configured requested, configuration.blockSizeOption = some configured ∧
      clientOptions.blockSize = some requested ∧
        b.toNat = min requested.toNat configured.toNat := by
  rw [negotiatedBlockSize] at h
  split at h
  · rename_i configured requested hc hr
    obtain rfl := Option.some.inj h
    refine ⟨configured, requested, hc, hr, ?_⟩
    show (if requested ≤ configured then requested else configured).toNat = _
    rw [min_def]
    simp only [UInt16.le_iff_toNat_le]
    split_ifs <;> rfl
  · cases h

/-- The timeout is the requested one. -/
theorem negotiatedTimeout_eq_some {t : UInt8}
    (h : negotiatedTimeout configuration clientOptions = some t) :
    clientOptions.timeout = some t := by
  rw [negotiatedTimeout] at h
  split at h
  · rename_i configured requested _ hr
    split_ifs at h
    exact hr.trans h
  · cases h

theorem inRange_acknowledged (hconfiguration : configuration.BlockSizeInRange)
    (hclient : clientOptions.InRange) (transferSize : Option UInt64) :
    (acknowledged configuration clientOptions transferSize).InRange := by
  constructor
  · intro b hb
    obtain ⟨configured, requested, hc, hr, heq⟩ := negotiatedBlockSize_eq_some hb
    have hcr := hconfiguration configured hc
    have hrr := hclient.blockSize requested hr
    omega
  · intro t ht
    exact hclient.timeout t (negotiatedTimeout_eq_some ht)

end Known

end Tftp.Servers
