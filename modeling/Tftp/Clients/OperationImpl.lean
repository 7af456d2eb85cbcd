import Tftp.Phases
import Tftp.KnownOptions

/-!
# What both client operations share

The functions of `Clients::OperationImpl` that differ from those of the server, and
the parts that the two client operations have in common word for word: the options
of a request, and the checks that an acknowledgement of options has to pass.
-/

namespace Tftp.Clients

namespace OperationImpl

open Tftp.OperationImpl

variable {δ : Type} [DataHandler δ]

/-- `initialise`: opens and binds the socket. -/
def initialise (s : OperationImpl δ) (f : Faults) : OperationImpl δ :=
  let s := { s with receiveEndpointV := {} }
  if s.socketV ≠ .closed ∨ f.openFails ∨ !s.localV.address.isUnspecified ∧ f.bindFails then
    -- the socket is closed before it is cancelled
    { s with socketV := .closed }.finished .communicationError none
  else { s with socketV := .opened }

/-- `gracefulAbort`: tells the server, if there is one. -/
def gracefulAbort (s : OperationImpl δ) (f : Faults) (errorCode : ErrorCode)
    (errorMessage : RawData) : OperationImpl δ :=
  let s := if s.receiveEndpointV ≠ {} then s.send f (.error errorCode errorMessage) else s
  s.finished .aborted (some (errorCode, errorMessage))

/-- `readRequestPacket`. -/
def readRequestPacket (s : OperationImpl δ) (f : Faults) : OperationImpl δ :=
  s.reject f .illegalTftpOperation "RRQ not expected" .transferError

/-- `writeRequestPacket`. -/
def writeRequestPacket (s : OperationImpl δ) (f : Faults) : OperationImpl δ :=
  s.reject f .illegalTftpOperation "WRQ not expected" .transferError

/-- `errorPacket`: what the status is depends on what the server answers to. -/
def errorPacket (s : OperationImpl δ) (errorCode : ErrorCode) (errorMessage : RawData) :
    OperationImpl δ :=
  let errorInformation := some (errorCode, errorMessage)
  match Packet.packetType s.transmitPacketV with
  | .readRequest | .writeRequest =>
      if errorCode = .tftpOptionRefused then
        s.finished .optionNegotiationError errorInformation
      else s.finished .requestError errorInformation
  | _ => s.finished .transferError errorInformation

/-- The catch clause of `request`: a `boost::exception` finishes the operation, any
other exception leaves it. -/
def catchException (s : OperationImpl δ) (e : HandlerException) : OperationImpl δ :=
  match e with
  | .tftpException | .boostException => s.finished .communicationError none
  | .otherException => if s.terminated then s else s.emit (.exception e)

/-- The request has been sent, and the answer is awaited. -/
def requested (s : OperationImpl δ) (request : Packet) : OperationImpl δ :=
  { s with
    receiveEndpointV := {}
    socketV := .opened
    dataHandlerV := DataHandler.start s.dataHandlerV
    transmitCounterV := 1
    transmitPacketV := request.encode
    receives := [.receiveFirstHandler]
    timerV := some (.timeoutFirstHandler, s.receiveTimeoutV)
    actions := s.actions ++ [.start, .send request.encode s.remoteV] }

/-- The socket is open, and the data handler has been started. -/
def opened (s : OperationImpl δ) : OperationImpl δ :=
  { s with
    receiveEndpointV := {}
    socketV := .opened
    dataHandlerV := DataHandler.start s.dataHandlerV
    actions := s.actions ++ [.start] }

theorem initialise_eq {s : OperationImpl δ} (h : s.Idle) :
    (initialise s {}).startDataHandler = opened s := by
  simp [initialise, OperationImpl.startDataHandler, opened, emit, h.closed, h.alive]

theorem sendFirst_eq {s : OperationImpl δ} (halive : s.terminated = false)
    (hopen : s.socketV = .opened) (hreceives : s.receives = []) (request : Packet) :
    (s.sendFirst {} request).receiveFirst {} =
      { s with
        transmitCounterV := 1
        transmitPacketV := request.encode
        receives := [.receiveFirstHandler]
        timerV := some (.timeoutFirstHandler, s.receiveTimeoutV)
        actions := s.actions ++ [.send request.encode s.remoteV] } := by
  simp [OperationImpl.sendFirst, receiveFirst, arm, emit, halive, hopen, hreceives]

theorem settled_requested {s : OperationImpl δ} (halive : s.terminated = false)
    (request : Packet) :
    (requested s request).Settled ∧ (requested s request).phase = .requesting s.remoteV.address :=
  ⟨⟨halive, rfl, _, rfl⟩, rfl⟩

/-- A received ERROR packet ends the operation, and not with success. -/
theorem errorPacket_eq (s : OperationImpl δ) (errorCode : ErrorCode) (errorMessage : RawData) :
    ∃ status, status ≠ .successful ∧
      (Packet.packetType s.transmitPacketV = .data ∨
        Packet.packetType s.transmitPacketV = .acknowledgement → status = .transferError) ∧
      errorPacket s errorCode errorMessage =
        s.finished status (some (errorCode, errorMessage)) := by
  rw [errorPacket]
  cases Packet.packetType s.transmitPacketV with
  | readRequest | writeRequest =>
    by_cases hcode : errorCode = .tftpOptionRefused
    · exact ⟨.optionNegotiationError, by decide, by simp, if_pos hcode⟩
    · exact ⟨.requestError, by decide, by simp, if_neg hcode⟩
  | data | acknowledgement | error | optionsAcknowledgement | invalid =>
    exact ⟨.transferError, by decide, fun _ => rfl, rfl⟩

end OperationImpl

/-- The block size and the timeout option of a request, after the additional
options. -/
def requestOptions (additionalOptions : Options) (configuration : TftpOptionsConfiguration) :
    Options :=
  let options := additionalOptions
  let options :=
    match configuration.blockSizeOption with
    | some blockSize =>
        options.emplace (tftpOptionsName .blockSize) (stdToString blockSize.toNat)
    | none => options
  match configuration.timeoutOption with
  | some timeout =>
      -- the count of seconds is cut down to 16 bits
      options.emplace (tftpOptionsName .timeout) (stdToString (timeout % 2 ^ 16).toNat)
  | none => options

/-- The known options of a request, given the transfer size in it. -/
def requestedOptions (configuration : TftpOptionsConfiguration) (transferSize : Option UInt64) :
    TftpOptions where
  blockSize := configuration.blockSizeOption
  timeout := configuration.timeoutOption.map fun t => UInt8.ofNat t.toNat
  transferSize := transferSize

section Request

variable {configuration : TftpOptionsConfiguration} {transferSize : Option UInt64}

/-- A timeout that can be negotiated fits into a byte. -/
theorem timeout_toNat (h : configuration.TimeoutInRange) {t : ℤ}
    (ht : configuration.timeoutOption = some t) : ((UInt8.ofNat t.toNat).toNat : ℤ) = t := by
  obtain ⟨hmin, hmax⟩ := h t ht
  simp only [timeoutOptionMin, timeoutOptionMax, Nat.cast_ofNat, Nat.cast_one] at hmin hmax
  rw [UInt8.toNat_ofNat']
  omega

theorem inRange_requestedOptions (hblock : configuration.BlockSizeInRange)
    (htimeout : configuration.TimeoutInRange) :
    (requestedOptions configuration transferSize).InRange := by
  refine ⟨hblock, fun t ht => ?_⟩
  obtain ⟨t', ht', rfl⟩ := Option.map_eq_some_iff.mp ht
  have hbyte := timeout_toNat htimeout ht'
  have hmin := (htimeout t' ht').1
  omega

/-- **A request carries the known options**, after the additional ones. -/
theorem requestOptions_eq (h : configuration.TimeoutInRange) (additional : Options) :
    (requestOptions additional configuration).emplaceNumber (tftpOptionsName .transferSize)
      (transferSize.map UInt64.toNat) =
        (requestedOptions configuration transferSize).onto additional := by
  have htimeout : ∀ t, configuration.timeoutOption = some t →
      (t % 65536).toNat = t.toNat % 256 := by
    intro t ht
    have hbyte := timeout_toNat h ht
    rw [UInt8.toNat_ofNat'] at hbyte
    omega
  rw [TftpOptions.onto]
  refine congrArg (fun m : Options => m.emplaceNumber (tftpOptionsName .transferSize)
    (transferSize.map UInt64.toNat)) ?_
  cases hb : configuration.blockSizeOption <;> cases ht : configuration.timeoutOption <;>
    simp [requestOptions, TftpOptions.number, requestedOptions, Options.emplaceNumber, hb, ht,
      htimeout]

end Request

/-- Why an acknowledgement of options is rejected: code and text of the ERROR packet.
The status is always `OptionNegotiationError`. -/
structure Rejection where
  errorCode : ErrorCode
  errorMessage : String

/-- Checks the block size option; returns its value and the remaining options. -/
def negotiateBlockSize (configuration : TftpOptionsConfiguration) (remoteOptions : Options) :
    Except Rejection (Option UInt16 × Options) :=
  let ((blockSizeValid, blockSizeValue), remoteOptions) :=
    remoteOptions.getOption 16 (tftpOptionsName .blockSize) blockSizeOptionMin blockSizeOptionMax
  match configuration.blockSizeOption, blockSizeValue with
  | none, some _ => .error ⟨.tftpOptionRefused, "Block Size Option not expected"⟩
  | configured, _ =>
      if !blockSizeValid then .error ⟨.tftpOptionRefused, "Block Size Option decoding failed"⟩
      else
        match configured, blockSizeValue with
        | some configured, some value =>
            if configured.toNat < value then
              .error ⟨.tftpOptionRefused, "Block size Option negotiation failed"⟩
            else .ok (some (UInt16.ofNat value), remoteOptions)
        | _, _ => .ok (none, remoteOptions)

/-- Checks the timeout option; returns its value and the remaining options. -/
def negotiateTimeout (configuration : TftpOptionsConfiguration) (remoteOptions : Options) :
    Except Rejection (Option ℤ × Options) :=
  let ((timeoutValid, timeoutValue), remoteOptions) :=
    remoteOptions.getOption 8 (tftpOptionsName .timeout) timeoutOptionMin timeoutOptionMax
  match configuration.timeoutOption, timeoutValue with
  | none, some _ => .error ⟨.tftpOptionRefused, "Timeout Option isn't expected"⟩
  | configured, _ =>
      if !timeoutValid then .error ⟨.tftpOptionRefused, "Timeout Option decoding failed"⟩
      else
        match configured, timeoutValue with
        | some configured, some value =>
            if (value : ℤ) ≠ configured then
              .error ⟨.tftpOptionRefused, "Timeout option not equal to requested"⟩
            else .ok (some value, remoteOptions)
        | _, _ => .ok (none, remoteOptions)

/-- Checks whether the transfer size option was asked for and can be read; returns its
value and the remaining options. -/
def negotiateTransferSize (expected : Bool) (remoteOptions : Options) :
    Except Rejection (Option UInt64 × Options) :=
  let ((transferSizeValid, transferSizeValue), remoteOptions) :=
    remoteOptions.getOption 64 (tftpOptionsName .transferSize) 0 ullongMax
  if !expected && transferSizeValue.isSome then
    .error ⟨.tftpOptionRefused, "Transfer Size Option isn't expected"⟩
  else if !transferSizeValid then
    .error ⟨.tftpOptionRefused, "Transfer Size Option decoding failed"⟩
  else .ok (transferSizeValue.map UInt64.ofNat, remoteOptions)

/-! ### What passing the checks means -/

section Negotiation

variable {configuration : TftpOptionsConfiguration} {options remaining : Options}

/-- The value taken over is the one in the acknowledgement. -/
theorem negotiateBlockSize_ok {value : Option UInt16}
    (h : negotiateBlockSize configuration options = .ok (value, remaining)) :
    value = ((options.getOption 16 (tftpOptionsName .blockSize) blockSizeOptionMin
        blockSizeOptionMax).1.2).map UInt16.ofNat ∧
      remaining = (options.getOption 16 (tftpOptionsName .blockSize) blockSizeOptionMin
        blockSizeOptionMax).2 := by
  rw [negotiateBlockSize] at h
  rcases hg : options.getOption 16 (tftpOptionsName .blockSize) blockSizeOptionMin
    blockSizeOptionMax with ⟨⟨valid, found⟩, rest⟩
  simp only [hg] at h ⊢
  obtain ⟨_, blockSizeOption, _⟩ := configuration
  rcases blockSizeOption with _ | configured <;> rcases found with _ | found
  -- an option that was not asked for is rejected
  case none.some => cases h
  all_goals
    dsimp only at h
    split_ifs at h
    cases h
    exact ⟨rfl, rfl⟩

/-- **No block size is taken over that is larger than the configured one.** -/
theorem le_of_negotiateBlockSize {b : UInt16}
    (h : negotiateBlockSize configuration options = .ok (some b, remaining)) :
    ∃ configured, configuration.blockSizeOption = some configured ∧ b.toNat ≤ configured.toNat := by
  rw [negotiateBlockSize] at h
  rcases hg : options.getOption 16 (tftpOptionsName .blockSize) blockSizeOptionMin
    blockSizeOptionMax with ⟨⟨valid, found⟩, rest⟩
  simp only [hg] at h
  cases hc : configuration.blockSizeOption with
  | none =>
    rw [hc] at h
    rcases found with _ | found
    · dsimp only at h
      split_ifs at h
      cases h
    · cases h
  | some configured =>
    rw [hc] at h
    refine ⟨configured, rfl, ?_⟩
    rcases found with _ | found
    · dsimp only at h
      split_ifs at h
      cases h
    · dsimp only at h
      split_ifs at h with hvalid hle
      cases h
      rw [UInt16.toNat_ofNat']
      exact (Nat.mod_le _ _).trans (not_lt.mp hle)

/-- **What an acknowledgement has to say to be accepted**: only what was asked for, a block
size that is not greater, and the very timeout. -/
structure Acceptable (configuration : TftpOptionsConfiguration) (expected : Bool)
    (acknowledged : TftpOptions) : Prop where
  blockSize : ∀ b, acknowledged.blockSize = some b →
    ∃ b', configuration.blockSizeOption = some b' ∧ b.toNat ≤ b'.toNat
  timeout : ∀ t, acknowledged.timeout = some t → configuration.timeoutOption = some (t.toNat : ℤ)
  transferSize : acknowledged.transferSize.isSome → expected = true

section Acceptance

variable {acknowledged : TftpOptions} {expected : Bool}

theorem negotiateBlockSize_acceptable (hrange : acknowledged.InRange)
    (hacc : Acceptable configuration expected acknowledged)
    (hfind : options.find? (tftpOptionsName .blockSize) =
      (acknowledged.number .blockSize).map stdToString) :
    ∃ remaining, negotiateBlockSize configuration options =
        .ok (acknowledged.blockSize, remaining) ∧
      ∀ k, remaining.find? k =
        if k = tftpOptionsName .blockSize then none else options.find? k := by
  obtain ⟨remaining, hget, hgone⟩ := TftpOptions.getOption_blockSize hrange hfind
  refine ⟨remaining, ?_, hgone⟩
  cases hb : acknowledged.blockSize with
  | none => cases hc : configuration.blockSizeOption <;>
      simp [negotiateBlockSize, hget, TftpOptions.number, hb, hc]
  | some b =>
    obtain ⟨b', hc, hle⟩ := hacc.blockSize b hb
    simp [negotiateBlockSize, hget, TftpOptions.number, hb, hc, not_lt.mpr hle]

theorem negotiateTimeout_acceptable (hrange : acknowledged.InRange)
    (hacc : Acceptable configuration expected acknowledged)
    (hfind : options.find? (tftpOptionsName .timeout) =
      (acknowledged.number .timeout).map stdToString) :
    ∃ remaining, negotiateTimeout configuration options =
        .ok (acknowledged.timeout.map fun t : UInt8 => (t.toNat : ℤ), remaining) ∧
      ∀ k, remaining.find? k = if k = tftpOptionsName .timeout then none else options.find? k := by
  obtain ⟨remaining, hget, hgone⟩ := TftpOptions.getOption_timeout hrange hfind
  refine ⟨remaining, ?_, hgone⟩
  cases ht : acknowledged.timeout with
  | none => cases hc : configuration.timeoutOption <;>
      simp [negotiateTimeout, hget, TftpOptions.number, ht, hc]
  | some t =>
    have hc := hacc.timeout t ht
    simp [negotiateTimeout, hget, TftpOptions.number, ht, hc]

theorem negotiateTransferSize_acceptable
    (hacc : Acceptable configuration expected acknowledged)
    (hfind : options.find? (tftpOptionsName .transferSize) =
      (acknowledged.number .transferSize).map stdToString) :
    ∃ remaining, negotiateTransferSize expected options =
        .ok (acknowledged.transferSize, remaining) ∧
      ∀ k, remaining.find? k =
        if k = tftpOptionsName .transferSize then none else options.find? k := by
  obtain ⟨remaining, hget, hgone⟩ := TftpOptions.getOption_transferSize hfind
  refine ⟨remaining, ?_, hgone⟩
  cases hz : acknowledged.transferSize with
  | none => simp [negotiateTransferSize, hget, TftpOptions.number, hz]
  | some z =>
    have hexpected := hacc.transferSize (by simp [hz])
    simp [negotiateTransferSize, hget, TftpOptions.number, hz, hexpected]

/-- **An acceptable acknowledgement passes all checks**, and without other options nothing
is left of it. -/
theorem negotiate_acceptable (hrange : acknowledged.InRange)
    (hacc : Acceptable configuration expected acknowledged) :
    ∃ m₁ m₂ m₃,
      negotiateBlockSize configuration (acknowledged.onto Protocol.SortedMap.empty) =
        .ok (acknowledged.blockSize, m₁) ∧
      negotiateTimeout configuration m₁ =
        .ok (acknowledged.timeout.map fun t : UInt8 => (t.toNat : ℤ), m₂) ∧
      negotiateTransferSize expected m₂ = .ok (acknowledged.transferSize, m₃) ∧
      m₃.isEmpty = true := by
  have hfind : ∀ o, (acknowledged.onto Protocol.SortedMap.empty).find? (tftpOptionsName o) =
      (acknowledged.number o).map stdToString := TftpOptions.find?_onto TftpOptions.lacks_empty
  obtain ⟨m₁, hblock, hm₁⟩ := negotiateBlockSize_acceptable hrange hacc (hfind .blockSize)
  have hfind₁ : m₁.find? (tftpOptionsName .timeout) =
      (acknowledged.number .timeout).map stdToString := by
    rw [hm₁, if_neg (TftpOptions.tftpOptionsName_ne (by decide)), hfind]
  obtain ⟨m₂, htimeout, hm₂⟩ := negotiateTimeout_acceptable hrange hacc hfind₁
  have hfind₂ : m₂.find? (tftpOptionsName .transferSize) =
      (acknowledged.number .transferSize).map stdToString := by
    rw [hm₂, if_neg (TftpOptions.tftpOptionsName_ne (by decide)), hm₁,
      if_neg (TftpOptions.tftpOptionsName_ne (by decide)), hfind]
  obtain ⟨m₃, hsize, hm₃⟩ := negotiateTransferSize_acceptable hacc hfind₂
  refine ⟨m₁, m₂, m₃, hblock, htimeout, hsize, Protocol.SortedMap.isEmpty_iff.mpr fun k => ?_⟩
  rw [hm₃, hm₂, hm₁]
  split_ifs with h₁ h₂ h₃
  iterate 3 rfl
  refine TftpOptions.find?_onto_ne fun o => ?_
  cases o
  exacts [h₃, h₂, h₁]

end Acceptance

end Negotiation

end Tftp.Clients
