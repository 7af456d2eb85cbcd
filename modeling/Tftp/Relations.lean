import Tftp.Clients.ReadOperation
import Tftp.Clients.WriteOperation
import Tftp.Servers.ReadOperation
import Tftp.Servers.WriteOperation
import Tftp.Protocol.Run

/-!
# Relations that the packet handlers keep

The packet handlers of an operation are put together from a few functions: those that all
operations share, and the calls of the handlers of the user. So a relation between the states of
the shared part that is kept by these (`Tftp.OperationImpl.Respected`, and what a receiver or a
sender has besides) holds between the state before a packet and the state after it, whatever calls
fail.
-/

namespace Tftp

namespace OperationImpl

variable {δ : Type}

/-- **A relation that the shared functions keep**, between the state before and the state
after. -/
structure Respected [DataHandler δ] (R : OperationImpl δ → OperationImpl δ → Prop) : Prop where
  refl : ∀ b, R b b
  trans : ∀ {b b' b''}, R b b' → R b' b'' → R b b''
  finished : ∀ b status errorInformation, R b (b.finished status errorInformation)
  send : ∀ b f packet, R b (b.send f packet)
  arm : ∀ b f onReceive onTimeout timeout, R b (b.arm f onReceive onTimeout timeout)
  /-- The timeout may be negotiated. -/
  receiveTimeout : ∀ b timeout, R b { b with receiveTimeoutV := timeout }

/-- A relation that is also kept by what a receiver calls. -/
structure ReceiverRespected [ReceiveDataHandler δ] (R : OperationImpl δ → OperationImpl δ → Prop)
    (handler : Option (OptionNegotiationHandler δ)) : Prop extends Respected R where
  optionNegotiation : ∀ b options, R b (b.optionNegotiation handler options).2
  receivedTransferSize : ∀ b transferSize, R b (b.receivedTransferSize transferSize).2
  receivedData : ∀ b data, R b (b.receivedData data)

/-- A relation that is also kept by what a sender calls. -/
structure SenderRespected [TransmitDataHandler δ] (R : OperationImpl δ → OperationImpl δ → Prop)
    (handler : Option (OptionNegotiationHandler δ)) : Prop extends Respected R where
  optionNegotiation : ∀ b options, R b (b.optionNegotiation handler options).2
  nextData : ∀ b maxSize, R b (b.nextData maxSize).2

variable {R : OperationImpl δ → OperationImpl δ → Prop}

namespace Respected

variable [DataHandler δ] (hR : Respected R) (b : OperationImpl δ) (f : Faults)
include hR

theorem reject (errorCode : ErrorCode) (errorMessage : String) (status : TransferStatus) :
    R b (b.reject f errorCode errorMessage status) :=
  hR.trans (hR.send b f _) (hR.finished _ _ _)

theorem afterData (short dally : Bool) : R b (b.afterData f short dally) := by
  rw [OperationImpl.afterData]
  split_ifs
  · exact hR.arm b f _ _ _
  · exact hR.finished b _ _
  · exact hR.arm b f _ _ _

theorem send_receive (packet : Packet) : R b ((b.send f packet).receive f) :=
  hR.trans (hR.send b f packet) (hR.arm _ f _ _ _)

theorem send_afterData (packet : Packet) (short dally : Bool) :
    R b ((b.send f packet).afterData f short dally) :=
  hR.trans (hR.send b f packet) (hR.afterData _ f short dally)

end Respected

theorem ReceiverRespected.offerTransferSize [ReceiveDataHandler δ]
    {handler : Option (OptionNegotiationHandler δ)} (hR : ReceiverRespected R handler)
    (b : OperationImpl δ) (transferSize : Option UInt64) :
    R b (b.offerTransferSize transferSize).2 := by
  cases transferSize with
  | none => exact hR.refl b
  | some n => exact hR.receivedTransferSize b n

/-! ### The settings -/

/-- What the setters have set, but for the timeout, which may be negotiated. -/
def fixed (b : OperationImpl δ) : Bool × UInt16 × Endpoint × Endpoint × ℕ :=
  (b.completionHandlerV, b.tftpRetriesV, b.remoteV, b.localV, b.receivePacketV)

section Fixed

variable [DataHandler δ] {f : Faults}

theorem fixed_finished (b : OperationImpl δ) (status : TransferStatus)
    (errorInformation : Option (ErrorCode × RawData)) :
    (b.finished status errorInformation).fixed = b.fixed := by
  rw [finished]
  split_ifs
  · rfl
  · cases hsock : b.socketV with
    | closed => rfl
    | opened | connected peer =>
      dsimp only [emit]
      split_ifs <;> rfl

theorem fixed_send (b : OperationImpl δ) (packet : Packet) :
    (b.send f packet).fixed = b.fixed := by
  by_cases halive : b.terminated = true
  · rw [send, if_pos halive]
  · cases hsock : b.socketV with
    | closed | opened =>
      simp only [send, hsock, if_neg halive]
      exact fixed_finished _ _ _
    | connected peer =>
      simp only [send, hsock, if_neg halive]
      split_ifs
      · exact fixed_finished _ _ _
      · rfl

theorem fixed_sendFirst (b : OperationImpl δ) (packet : Packet) :
    (b.sendFirst f packet).fixed = b.fixed := by
  simp only [sendFirst]
  split_ifs
  · rfl
  · exact fixed_finished _ _ _
  · rfl

theorem fixed_arm (b : OperationImpl δ) (onReceive : ReceiveHandler) (onTimeout : TimerHandler)
    (timeout : ℤ) : (b.arm f onReceive onTimeout timeout).fixed = b.fixed := by
  rw [arm]
  split_ifs
  · rfl
  · exact fixed_finished _ _ _
  · rfl

theorem fixed_timeoutFirstHandler (b : OperationImpl δ) :
    (b.timeoutFirstHandler f).fixed = b.fixed := by
  simp only [timeoutFirstHandler]
  split_ifs
  · exact fixed_finished _ _ _
  · exact fixed_finished _ _ _
  · rfl

theorem fixed_timeoutHandler (b : OperationImpl δ) : (b.timeoutHandler f).fixed = b.fixed := by
  by_cases hretries : b.tftpRetriesV.toNat < b.transmitCounterV.toNat
  · rw [timeoutHandler, if_pos hretries]
    exact fixed_finished _ _ _
  · cases hsock : b.socketV with
    | closed | opened =>
      simp only [timeoutHandler, hsock, if_neg hretries]
      exact fixed_finished _ _ _
    | connected peer =>
      simp only [timeoutHandler, hsock, if_neg hretries]
      split_ifs
      · exact fixed_finished _ _ _
      · rfl

/-- **The shared functions keep the settings.** -/
theorem respected_fixed : Respected fun b b' : OperationImpl δ => b'.fixed = b.fixed where
  refl _ := rfl
  trans h h' := h'.trans h
  finished := fixed_finished
  send b _ packet := fixed_send b packet
  arm b _ := fixed_arm b
  receiveTimeout _ _ := rfl

end Fixed

theorem fixed_optionNegotiation (b : OperationImpl δ)
    (handler : Option (OptionNegotiationHandler δ)) (options : Options) :
    (b.optionNegotiation handler options).2.fixed = b.fixed := by
  cases handler <;> rfl

theorem receiverRespected_fixed [ReceiveDataHandler δ]
    (handler : Option (OptionNegotiationHandler δ)) :
    ReceiverRespected (fun b b' : OperationImpl δ => b'.fixed = b.fixed) handler where
  toRespected := respected_fixed
  optionNegotiation b options := fixed_optionNegotiation b handler options
  receivedTransferSize b transferSize := by
    rw [receivedTransferSize]
    split_ifs <;> rfl
  receivedData _ _ := rfl

theorem senderRespected_fixed [TransmitDataHandler δ]
    (handler : Option (OptionNegotiationHandler δ)) :
    SenderRespected (fun b b' : OperationImpl δ => b'.fixed = b.fixed) handler where
  toRespected := respected_fixed
  optionNegotiation b options := fixed_optionNegotiation b handler options
  nextData b maxSize := by
    rw [nextData]
    split_ifs <;> rfl

end OperationImpl

open OperationImpl hiding actions

namespace Operation

open Protocol

variable {σ δ κ : Type} [DataHandler δ] [Operation σ δ] {k : σ → κ} {s : σ}

/-- **Settings of an operation**: they depend on those of the shared part only, and the functions
of the operation leave them alone. -/
structure Keeps (k : σ → κ) : Prop where
  withBase : ∀ (s : σ) b, b.fixed = (base s).fixed → k (withBase s b) = k s
  received : ∀ s f r, k (received s f r) = k s
  gracefulAbort : ∀ s f errorCode errorMessage, k (gracefulAbort s f errorCode errorMessage) = k s

namespace Keeps

variable (hk : Keeps k)

include hk

theorem onDatagram (s : σ) (f : Faults) (source : Endpoint) (rawPacket : RawData) :
    k (onDatagram s f source rawPacket) = k s := by
  rw [Operation.onDatagram]
  split
  · rfl
  · rename_i handler rest hreceives
    have htaken : k (Operation.withBase s { base s with receives := rest }) = k s :=
      hk.withBase _ _ rfl
    split_ifs
    · rw [← htaken]
      generalize Operation.withBase s { base s with receives := rest } = t
      cases handler with
      | receiveHandler => exact hk.received t f _
      | receiveFirstHandler =>
        simp only [receiveFirstHandler]
        split_ifs
        · exact hk.withBase t _ (fixed_finished _ _ _)
        · exact hk.withBase t _ (fixed_finished _ _ _)
        · exact hk.withBase t _ rfl
        · exact hk.withBase t _ rfl
        · exact hk.withBase t _ (fixed_finished _ _ _)
        · exact (hk.received _ f _).trans (hk.withBase t _ rfl)
    · rfl

theorem onTimeout (s : σ) (f : Faults) : k (onTimeout s f) = k s := by
  rw [Operation.onTimeout]
  split
  · rfl
  · dsimp only
    split
    · exact hk.withBase s _ (fixed_timeoutFirstHandler _)
    · exact hk.withBase s _ (fixed_timeoutHandler _)
    · exact hk.withBase s _ (fixed_finished _ _ _)

theorem step (s : σ) (e : Faults × Event) : k (step s e) = k s := by
  obtain ⟨f, event⟩ := e
  have hclear : k (Operation.withBase s { base s with actions := [] }) = k s :=
    hk.withBase _ _ rfl
  simp only [Operation.step]
  rw [← hclear]
  generalize Operation.withBase s { base s with actions := [] } = t
  split_ifs
  · rfl
  · cases event with
    | datagram source rawPacket => exact hk.onDatagram t f source rawPacket
    | timeout => exact hk.onTimeout t f
    | receiveError | timerError =>
      dsimp only
      split
      · rfl
      · exact hk.withBase t _ (fixed_finished _ _ _)
    | abort => exact hk.withBase t _ (fixed_finished _ _ _)
    | gracefulAbort errorCode errorMessage => exact hk.gracefulAbort t f _ _

/-- **The settings are the same in every state of a run.** -/
theorem run {init : σ} {history : List (Transition σ (Faults × Event))}
    (hrun : Run Operation.step init history s) : k s = k init := by
  induction hrun with
  | start => rfl
  | next e hrun ih => exact (hk.step _ e).trans ih

end Keeps

end Operation

namespace Clients

variable {δ : Type} {R : OperationImpl δ → OperationImpl δ → Prop} {f : Faults}

theorem OperationImpl.errorPacket_respected [DataHandler δ] (hR : Respected R)
    (b : OperationImpl δ) (errorCode : ErrorCode) (errorMessage : RawData) :
    R b (errorPacket b errorCode errorMessage) := by
  obtain ⟨status, -, -, heq⟩ := errorPacket_eq b errorCode errorMessage
  rw [heq]
  exact hR.finished b _ _

namespace ReadOperationImpl

variable [ReceiveDataHandler δ] {s : ReadOperationImpl δ}

/-- The shared parts are related, and the option negotiation handler is the same. -/
def Leads (R : OperationImpl δ → OperationImpl δ → Prop) (s s' : ReadOperationImpl δ) : Prop :=
  R s.toOperationImpl s'.toOperationImpl ∧
    s'.optionNegotiationHandlerV = s.optionNegotiationHandlerV

theorem negotiateNone_leads (hR : ReceiverRespected R s.optionNegotiationHandlerV)
    (blockNumber : BlockNumber) : s.Leads R (s.negotiateNone blockNumber).2 := by
  rw [negotiateNone]
  split_ifs
  · exact ⟨hR.optionNegotiation _ _, rfl⟩
  · exact ⟨hR.refl _, rfl⟩

theorem dataPacket_leads (hR : ReceiverRespected R s.optionNegotiationHandlerV)
    (blockNumber : BlockNumber) (data : RawData) :
    s.Leads R (s.dataPacket f blockNumber data) := by
  obtain ⟨hnone, hhandler⟩ := negotiateNone_leads hR blockNumber
  rw [dataPacket]
  dsimp only
  split_ifs
  · -- the last block again
    exact ⟨hR.send_afterData _ f _ _ _, rfl⟩
  · -- not the next block
    exact ⟨hR.reject _ f _ _ _, rfl⟩
  · -- too large
    exact ⟨hR.reject _ f _ _ _, rfl⟩
  · -- the user does not do without options
    exact ⟨hR.trans hnone (hR.reject _ f _ _ _), hhandler⟩
  · have hdata := hR.trans hnone (hR.receivedData _ data)
    exact ⟨hR.trans hdata (hR.send_afterData _ f _ _ _), hhandler⟩

theorem negotiated_leads (hR : ReceiverRespected R s.optionNegotiationHandlerV)
    (transferSizeValue : Option UInt64) (remoteOptions : Options) :
    s.Leads R (s.negotiated f transferSizeValue remoteOptions) := by
  have hsize := hR.offerTransferSize s.toOperationImpl transferSizeValue
  have hoptions := hR.trans hsize (hR.optionNegotiation _ remoteOptions)
  rw [negotiated]
  dsimp only
  split_ifs
  · exact ⟨hR.trans hsize (hR.reject _ f _ _ _), rfl⟩
  · exact ⟨hR.trans hoptions (hR.reject _ f _ _ _), rfl⟩
  · exact ⟨hR.trans hoptions (hR.reject _ f _ _ _), rfl⟩
  · exact ⟨hR.trans hoptions (hR.send_receive _ f _), rfl⟩

theorem optionsAcknowledgementPacket_leads
    (hR : ReceiverRespected R s.optionNegotiationHandlerV) (remoteOptions : Options) :
    s.Leads R (s.optionsAcknowledgementPacket f remoteOptions) := by
  rw [optionsAcknowledgementPacket]
  split_ifs
  · exact ⟨hR.reject _ f _ _ _, rfl⟩
  · exact ⟨hR.reject _ f _ _ _, rfl⟩
  · rcases negotiateBlockSize s.optionsConfigurationV remoteOptions with
      rejection | ⟨blockSize, options₁⟩
    · exact ⟨hR.reject _ f _ _ _, rfl⟩
    · rcases htimeout : negotiateTimeout s.optionsConfigurationV options₁ with
        rejection | ⟨timeout, options₂⟩
      · simp only [htimeout]
        exact ⟨hR.reject _ f _ _ _, rfl⟩
      · -- the timeout is taken over before the transfer size is checked
        have htaken := hR.receiveTimeout s.toOperationImpl (timeout.getD s.receiveTimeoutV)
        rcases hsize : negotiateTransferSize s.optionsConfigurationV.handleTransferSizeOption
          options₂ with rejection | ⟨transferSize, options₃⟩
        · simp only [htimeout, hsize]
          exact ⟨hR.trans htaken (hR.reject _ f _ _ _), rfl⟩
        · simp only [htimeout, hsize]
          obtain ⟨hrest, hhandler⟩ := negotiated_leads (f := f) (s := { s with
            receiveDataSize := blockSize.getD s.receiveDataSize
            receiveTimeoutV := timeout.getD s.receiveTimeoutV }) hR transferSize options₃
          exact ⟨hR.trans htaken hrest, hhandler⟩

/-- **A read keeps what its parts keep**, whatever it receives. -/
theorem received_leads (hR : ReceiverRespected R s.optionNegotiationHandlerV) (r : Received) :
    s.Leads R (s.received f r) := by
  rcases r with packet | -
  · cases packet with
    | readRequest | writeRequest | acknowledgement => exact ⟨hR.reject _ f _ _ _, rfl⟩
    | data blockNumber data => exact dataPacket_leads hR blockNumber data
    | error errorCode errorMessage =>
      exact ⟨OperationImpl.errorPacket_respected hR.toRespected _ errorCode errorMessage, rfl⟩
    | optionsAcknowledgement options => exact optionsAcknowledgementPacket_leads hR options
  · exact ⟨hR.reject _ f _ _ _, rfl⟩

end ReadOperationImpl

namespace WriteOperationImpl

variable [TransmitDataHandler δ] {s : WriteOperationImpl δ}

theorem negotiateNone_respected (hR : SenderRespected R s.optionNegotiationHandlerV)
    (blockNumber : BlockNumber) :
    R s.toOperationImpl (s.negotiateNone blockNumber).2.toOperationImpl := by
  rw [negotiateNone]
  split_ifs
  · exact hR.optionNegotiation _ _
  · exact hR.refl _

/-- Sending a block and waiting for its acknowledgement. -/
theorem sendData_respected {handler : Option (OptionNegotiationHandler δ)}
    (hR : SenderRespected R handler) (s : WriteOperationImpl δ) :
    R s.toOperationImpl ((s.sendData f).update (·.receive f)).toOperationImpl :=
  hR.trans (hR.nextData _ _) (hR.send_receive _ f _)

theorem acknowledgementPacket_respected (hR : SenderRespected R s.optionNegotiationHandlerV)
    (blockNumber : BlockNumber) :
    R s.toOperationImpl (s.acknowledgementPacket f blockNumber).toOperationImpl := by
  have hnone := negotiateNone_respected (s := { s with lastReceivedBlockNumber := blockNumber })
    hR blockNumber
  rw [acknowledgementPacket]
  dsimp only
  split_ifs
  · -- the last answer again
    exact hR.arm _ f _ _ _
  · -- an answer to no block that was sent
    exact hR.reject _ f _ _ _
  · -- the user does not do without options
    exact hR.trans hnone (hR.reject _ f _ _ _)
  · -- the end of the file is acknowledged
    exact hR.trans hnone (hR.finished _ _ _)
  · exact hR.trans hnone (sendData_respected hR _)

theorem negotiated_respected (hR : SenderRespected R s.optionNegotiationHandlerV)
    (transferSizeValue : Option UInt64) (remoteOptions : Options) :
    R s.toOperationImpl (s.negotiated f transferSizeValue remoteOptions).toOperationImpl := by
  have hoptions := hR.optionNegotiation s.toOperationImpl remoteOptions
  rw [negotiated]
  dsimp only
  split_ifs
  · exact hR.reject _ f _ _ _
  · exact hR.trans hoptions (hR.reject _ f _ _ _)
  · exact hR.trans hoptions (hR.reject _ f _ _ _)
  · exact hR.trans hoptions (sendData_respected hR { s with
      toOperationImpl :=
        (s.toOperationImpl.optionNegotiation s.optionNegotiationHandlerV remoteOptions).2 })

theorem optionsAcknowledgementPacket_respected
    (hR : SenderRespected R s.optionNegotiationHandlerV) (remoteOptions : Options) :
    R s.toOperationImpl (s.optionsAcknowledgementPacket f remoteOptions).toOperationImpl := by
  rw [optionsAcknowledgementPacket]
  split_ifs
  · exact hR.reject _ f _ _ _
  · exact hR.reject _ f _ _ _
  · rcases negotiateBlockSize s.optionsConfigurationV remoteOptions with
      rejection | ⟨blockSize, options₁⟩
    · exact hR.reject _ f _ _ _
    · rcases htimeout : negotiateTimeout s.optionsConfigurationV options₁ with
        rejection | ⟨timeout, options₂⟩
      · simp only [htimeout]
        exact hR.reject _ f _ _ _
      · have htaken := hR.receiveTimeout s.toOperationImpl (timeout.getD s.receiveTimeoutV)
        rcases hsize : negotiateTransferSize (s.optionsConfigurationV.handleTransferSizeOption &&
          s.transferSize.isSome) options₂ with rejection | ⟨transferSize, options₃⟩
        · simp only [htimeout, hsize]
          exact hR.trans htaken (hR.reject _ f _ _ _)
        · simp only [htimeout, hsize]
          exact hR.trans htaken (negotiated_respected (s := { s with
            transmitDataSize := blockSize.getD s.transmitDataSize
            receiveTimeoutV := timeout.getD s.receiveTimeoutV }) hR transferSize options₃)

/-- **A write keeps what its parts keep**, whatever it receives. -/
theorem received_respected (hR : SenderRespected R s.optionNegotiationHandlerV) (r : Received) :
    R s.toOperationImpl (s.received f r).toOperationImpl := by
  rcases r with packet | -
  · cases packet with
    | readRequest | writeRequest | data => exact hR.reject _ f _ _ _
    | acknowledgement blockNumber => exact acknowledgementPacket_respected hR blockNumber
    | error errorCode errorMessage =>
      exact OperationImpl.errorPacket_respected hR.toRespected _ errorCode errorMessage
    | optionsAcknowledgement options => exact optionsAcknowledgementPacket_respected hR options
  · exact hR.reject _ f _ _ _

end WriteOperationImpl

end Clients

namespace Servers

variable {δ : Type} {R : OperationImpl δ → OperationImpl δ → Prop} {f : Faults}

theorem OperationImpl.errorPacket_respected [DataHandler δ] (hR : Respected R)
    (b : OperationImpl δ) (errorCode : ErrorCode) (errorMessage : RawData) :
    R b (errorPacket b errorCode errorMessage) := by
  obtain ⟨status, -, -, heq⟩ := errorPacket_eq b errorCode errorMessage
  rw [heq]
  exact hR.finished b _ _

namespace ReadOperationImpl

variable [TransmitDataHandler δ] {s : ReadOperationImpl δ}

theorem sendData_respected (hR : SenderRespected R none) (s : ReadOperationImpl δ) :
    R s.toOperationImpl ((s.sendData f).update (·.receive f)).toOperationImpl :=
  hR.trans (hR.nextData _ _) (hR.send_receive _ f _)

theorem acknowledgementPacket_respected (hR : SenderRespected R none)
    (blockNumber : BlockNumber) :
    R s.toOperationImpl (s.acknowledgementPacket f blockNumber).toOperationImpl := by
  rw [acknowledgementPacket]
  dsimp only
  split_ifs
  · exact hR.arm _ f _ _ _
  · exact hR.reject _ f _ _ _
  · exact hR.finished _ _ _
  · exact sendData_respected hR _

/-- **The server of a read keeps what its parts keep**, whatever it receives. -/
theorem received_respected (hR : SenderRespected R none) (r : Received) :
    R s.toOperationImpl (s.received f r).toOperationImpl := by
  rcases r with packet | -
  · cases packet with
    | readRequest | writeRequest | data | optionsAcknowledgement => exact hR.reject _ f _ _ _
    | acknowledgement blockNumber => exact acknowledgementPacket_respected hR blockNumber
    | error errorCode errorMessage =>
      exact OperationImpl.errorPacket_respected hR.toRespected _ errorCode errorMessage
  · exact hR.reject _ f _ _ _

end ReadOperationImpl

namespace WriteOperationImpl

variable [ReceiveDataHandler δ] {s : WriteOperationImpl δ}

theorem dataPacket_respected (hR : ReceiverRespected R none) (blockNumber : BlockNumber)
    (data : RawData) :
    R s.toOperationImpl (s.dataPacket f blockNumber data).toOperationImpl := by
  rw [dataPacket]
  dsimp only
  split_ifs
  · exact hR.send_afterData _ f _ _ _
  · exact hR.reject _ f _ _ _
  · exact hR.reject _ f _ _ _
  · exact hR.trans (hR.receivedData _ data) (hR.send_afterData _ f _ _ _)

/-- **The server of a write keeps what its parts keep**, whatever it receives. -/
theorem received_respected (hR : ReceiverRespected R none) (r : Received) :
    R s.toOperationImpl (s.received f r).toOperationImpl := by
  rcases r with packet | -
  · cases packet with
    | readRequest | writeRequest | acknowledgement | optionsAcknowledgement =>
      exact hR.reject _ f _ _ _
    | data blockNumber data => exact dataPacket_respected hR blockNumber data
    | error errorCode errorMessage =>
      exact OperationImpl.errorPacket_respected hR.toRespected _ errorCode errorMessage
  · exact hR.reject _ f _ _ _

end WriteOperationImpl

end Servers

end Tftp
