import Tftp.Matching

/-!
# Requesting again

What a transfer leaves behind in a client is overwritten by the next request, or not looked at any
more – the endpoint, the last packet with its counter, the data size and the block numbers, and
what was announced. So a client that is requested again cannot be told apart from a new one
(`Tftp.Clients.ReadOperationImpl.Renewed`, `Tftp.Clients.WriteOperationImpl.Renewed`), or both
requests have failed before they were sent (`Tftp.Operation.OrStalled`) – provided that the
timeout is the same, and for a read also the flag that tells whether options were acknowledged:
neither of them is reset.
-/

namespace Tftp

open Protocol Operation

open OperationImpl hiding actions

namespace Clients

variable {δ : Type} {f : Faults}

namespace OperationImpl

section Shared

variable [DataHandler δ] {b b' : OperationImpl δ}

theorem matching_errorPacket (h : b.Matching b') (errorCode : ErrorCode) (errorMessage : RawData) :
    (errorPacket b errorCode errorMessage).Matching (errorPacket b' errorCode errorMessage) := by
  have hpacket : b.transmitPacketV = b'.transmitPacketV := by
    obtain ⟨information, rfl⟩ := h
    rfl
  rw [errorPacket, errorPacket, hpacket]
  cases Packet.packetType b'.transmitPacketV with
  | readRequest | writeRequest =>
    dsimp only
    split_ifs
    · exact h.finished _ _
    · exact h.finished _ _
  | data | acknowledgement | error | optionsAcknowledgement | invalid => exact h.finished _ _

theorem matching_gracefulAbort (h : b.Matching b') (errorCode : ErrorCode)
    (errorMessage : RawData) : (gracefulAbort b f errorCode errorMessage).Matching
      (gracefulAbort b' f errorCode errorMessage) := by
  have hendpoint : b.receiveEndpointV = b'.receiveEndpointV := by
    obtain ⟨information, rfl⟩ := h
    rfl
  rw [gracefulAbort, gracefulAbort, hendpoint]
  split_ifs
  · exact (h.send _).finished _ _
  · exact h.finished _ _

/-- **At rest**, and the same but for what a transfer leaves behind. -/
structure Resting (b b' : OperationImpl δ) : Prop where
  same : ∃ endpoint packet counter information, b = { b' with
    receiveEndpointV := endpoint
    transmitPacketV := packet
    transmitCounterV := counter
    errorInformationV := information }
  receives : b'.receives = []
  timer : b'.timerV = none

/-- The remembered endpoint is reset, and the last packet is not looked at. -/
theorem Resting.initialise (h : Resting b b') (f : Faults) :
    (initialise b f).Stalled (initialise b' f) := by
  obtain ⟨⟨endpoint, packet, counter, information, rfl⟩, hreceives, htimer⟩ := h
  simp only [OperationImpl.initialise]
  split_ifs
  · refine Stalled.finished ?_ _ _
    exact ⟨⟨packet, counter, information, rfl⟩, hreceives, htimer, rfl⟩
  · exact ⟨⟨packet, counter, information, rfl⟩, hreceives, htimer, rfl⟩

theorem stalled_catchException (h : b.Stalled b') (e : HandlerException) :
    (catchException b e).Stalled (catchException b' e) := by
  cases e with
  | tftpException | boostException => exact h.finished _ _
  | otherException =>
    obtain ⟨⟨packet, counter, information, rfl⟩, hreceives, htimer, hendpoint⟩ := h
    simp only [catchException]
    split_ifs
    · exact ⟨⟨packet, counter, information, rfl⟩, hreceives, htimer, hendpoint⟩
    · exact ⟨⟨packet, counter, information, rfl⟩, hreceives, htimer, hendpoint⟩

theorem stalled_startDataHandler (h : b.Stalled b') :
    b.startDataHandler.Stalled b'.startDataHandler := by
  obtain ⟨⟨packet, counter, information, rfl⟩, hreceives, htimer, hendpoint⟩ := h
  simp only [OperationImpl.startDataHandler]
  split_ifs
  · exact ⟨⟨packet, counter, information, rfl⟩, hreceives, htimer, hendpoint⟩
  · exact ⟨⟨packet, counter, information, rfl⟩, hreceives, htimer, hendpoint⟩

/-- **A request that is sent makes up for everything**: packet and counter are overwritten. -/
theorem matching_or_stalled_sendFirst (h : b.Stalled b') (request : Packet) :
    ((b.sendFirst f request).receiveFirst f).Matching
        ((b'.sendFirst f request).receiveFirst f) ∨
      ((b.sendFirst f request).receiveFirst f).Stalled
        ((b'.sendFirst f request).receiveFirst f) := by
  obtain ⟨⟨packet, counter, information, rfl⟩, hreceives, htimer, hendpoint⟩ := h
  by_cases halive : b'.terminated = true
  · -- a process that is gone sends nothing
    right
    have hleft : ∀ b₁ : OperationImpl δ, b₁.terminated = true →
        (b₁.sendFirst f request).receiveFirst f = b₁ := by
      intro b₁ hb₁
      rw [sendFirst, if_pos hb₁, receiveFirst, arm, if_pos hb₁]
    rw [hleft _ (by exact halive), hleft _ halive]
    exact ⟨⟨packet, counter, information, rfl⟩, hreceives, htimer, hendpoint⟩
  · left
    refine Matching.receiveFirst ?_
    simp only [sendFirst, if_neg halive]
    split_ifs
    · refine Matching.finished ?_ _ _
      exact ⟨information, rfl⟩
    · exact ⟨information, rfl⟩

end Shared

theorem stalled_requestedTransferSize [TransmitDataHandler δ] {b b' : OperationImpl δ}
    (h : b.Stalled b') :
    b.requestedTransferSize.1 = b'.requestedTransferSize.1 ∧
      b.requestedTransferSize.2.Stalled b'.requestedTransferSize.2 := by
  obtain ⟨⟨packet, counter, information, rfl⟩, hreceives, htimer, hendpoint⟩ := h
  simp only [OperationImpl.requestedTransferSize]
  split_ifs
  · exact ⟨rfl, ⟨packet, counter, information, rfl⟩, hreceives, htimer, hendpoint⟩
  · exact ⟨rfl, ⟨packet, counter, information, rfl⟩, hreceives, htimer, hendpoint⟩

end OperationImpl

/-! ### A read -/

namespace ReadOperationImpl

section Renewed

/-- **A read that has been requested again**, and a new one: they cannot be told apart but for the
flag that tells whether options were acknowledged, and that only if there is an option negotiation
handler. -/
def Renewed (s s' : ReadOperationImpl δ) : Prop :=
  ∃ b oack, s = { s' with toOperationImpl := b, oackReceived := oack } ∧
    b.Matching s'.toOperationImpl ∧
      (oack = s'.oackReceived ∨ s'.optionNegotiationHandlerV = none)

variable {s s' : ReadOperationImpl δ}

theorem Renewed.update (h : s.Renewed s') {g : OperationImpl δ → OperationImpl δ}
    (hg : ∀ {b b'}, b.Matching b' → (g b).Matching (g b')) :
    (s.update g).Renewed (s'.update g) := by
  obtain ⟨b, oack, rfl, hb, hoack⟩ := h
  exact ⟨g b, oack, rfl, hg hb, hoack⟩

/-- Without a handler there is nobody to ask. -/
theorem negotiateNone_of_none (h : s.optionNegotiationHandlerV = none) (blockNumber : BlockNumber) :
    s.negotiateNone blockNumber = (true, s) := by
  have hasked : s.toOperationImpl.optionNegotiation s.optionNegotiationHandlerV SortedMap.empty =
      ((true, SortedMap.empty), s.toOperationImpl) := by rw [h]; rfl
  rw [negotiateNone, hasked]
  split_ifs <;> rfl

theorem Renewed.negotiateNone (h : s.Renewed s') (blockNumber : BlockNumber) :
    (s.negotiateNone blockNumber).1 = (s'.negotiateNone blockNumber).1 ∧
      (s.negotiateNone blockNumber).2.Renewed (s'.negotiateNone blockNumber).2 := by
  obtain ⟨b, oack, rfl, hb, rfl | hnone⟩ := h
  · simp only [ReadOperationImpl.negotiateNone]
    split_ifs
    · obtain ⟨heq, hcalled⟩ := hb.optionNegotiation s'.optionNegotiationHandlerV SortedMap.empty
      refine ⟨?_, _, _, rfl, hcalled, Or.inl rfl⟩
      dsimp only
      exact congrArg Prod.fst heq
    · exact ⟨rfl, b, s'.oackReceived, rfl, hb, Or.inl rfl⟩
  · -- the flag decides whether nobody is asked
    rw [negotiateNone_of_none hnone, negotiateNone_of_none (by exact hnone)]
    exact ⟨rfl, b, oack, rfl, hb, Or.inr hnone⟩

variable [ReceiveDataHandler δ]

theorem Renewed.dataPacket (h : s.Renewed s') (blockNumber : BlockNumber) (data : RawData) :
    (s.dataPacket f blockNumber data).Renewed (s'.dataPacket f blockNumber data) := by
  obtain ⟨haccepted, b₁, oack₁, hnone, hb₁, hoack₁⟩ := h.negotiateNone blockNumber
  have hblock : (s'.negotiateNone blockNumber).2.lastReceivedBlockNumber =
      s'.lastReceivedBlockNumber := by
    rw [ReadOperationImpl.negotiateNone]
    split_ifs <;> rfl
  obtain ⟨b, oack, rfl, hb, hoack⟩ := h
  simp only [ReadOperationImpl.dataPacket, haccepted]
  split_ifs
  · exact ⟨_, oack, rfl, (hb.send _).afterData _ _, hoack⟩
  · exact ⟨_, oack, rfl, hb.reject _ _ _, hoack⟩
  · exact ⟨_, oack, rfl, hb.reject _ _ _, hoack⟩
  · rw [hnone]
    exact ⟨_, oack₁, rfl, hb₁.reject _ _ _, hoack₁⟩
  · rw [hnone]
    exact ⟨_, oack₁, rfl, ((hb₁.receivedData data).send _).afterData _ _, hoack₁⟩

theorem Renewed.negotiated (h : s.Renewed s') (transferSizeValue : Option UInt64)
    (remoteOptions : Options) : (s.negotiated f transferSizeValue remoteOptions).Renewed
      (s'.negotiated f transferSizeValue remoteOptions) := by
  obtain ⟨b, oack, rfl, hb, hoack⟩ := h
  obtain ⟨hfits, hb₁⟩ := hb.offerTransferSize transferSizeValue
  obtain ⟨hanswer, hb₂⟩ := hb₁.optionNegotiation s'.optionNegotiationHandlerV remoteOptions
  simp only [ReadOperationImpl.negotiated, hfits, hanswer]
  split_ifs
  · exact ⟨_, oack, rfl, hb₁.reject _ _ _, hoack⟩
  · exact ⟨_, oack, rfl, hb₂.reject _ _ _, hoack⟩
  · exact ⟨_, oack, rfl, hb₂.reject _ _ _, hoack⟩
  · -- the flag is set in both, and the difference is gone
    exact ⟨_, true, rfl, (hb₂.send _).receive, Or.inl rfl⟩

theorem Renewed.optionsAcknowledgementPacket (h : s.Renewed s') (remoteOptions : Options) :
    (s.optionsAcknowledgementPacket f remoteOptions).Renewed
      (s'.optionsAcknowledgementPacket f remoteOptions) := by
  obtain ⟨b, oack, rfl, hb, hoack⟩ := h
  simp only [ReadOperationImpl.optionsAcknowledgementPacket, hb.receiveTimeout]
  split_ifs
  · exact ⟨_, oack, rfl, hb.reject _ _ _, hoack⟩
  · exact ⟨_, oack, rfl, hb.reject _ _ _, hoack⟩
  · rcases negotiateBlockSize s'.optionsConfigurationV remoteOptions with
      rejection | ⟨blockSize, options₁⟩
    · exact ⟨_, oack, rfl, hb.reject _ _ _, hoack⟩
    · dsimp only
      rcases negotiateTimeout s'.optionsConfigurationV options₁ with rejection | ⟨timeout, options₂⟩
      · exact ⟨_, oack, rfl, hb.reject _ _ _, hoack⟩
      · dsimp only
        rcases negotiateTransferSize s'.optionsConfigurationV.handleTransferSizeOption options₂ with
          rejection | ⟨transferSize, options₃⟩
        · exact ⟨_, oack, rfl, (hb.withTimeout _).reject _ _ _, hoack⟩
        · refine Renewed.negotiated ?_ transferSize options₃
          exact ⟨_, oack, rfl, hb.withTimeout _, hoack⟩

theorem Renewed.received (h : s.Renewed s') (r : Received) :
    (s.received f r).Renewed (s'.received f r) := by
  rcases r with packet | -
  · cases packet with
    | readRequest | writeRequest | acknowledgement => exact h.update fun hb => hb.reject _ _ _
    | data blockNumber data => exact h.dataPacket blockNumber data
    | error errorCode errorMessage =>
      exact h.update fun hb => OperationImpl.matching_errorPacket hb errorCode errorMessage
    | optionsAcknowledgement options => exact h.optionsAcknowledgementPacket options
  · exact h.update fun hb => hb.reject _ _ _

theorem matches_renewed : Operation.Matches (Renewed (δ := δ)) where
  base := by
    rintro _ _ ⟨b, oack, rfl, hb, -⟩
    exact hb
  withBase := by
    rintro _ _ b b' ⟨_, oack, rfl, -, hoack⟩ hb
    exact ⟨b, oack, rfl, hb, hoack⟩
  received _ r h := h.received r
  gracefulAbort _ errorCode errorMessage h :=
    h.update fun hb => OperationImpl.matching_gracefulAbort hb errorCode errorMessage

end Renewed

/-- **What is requested again is renewed**, or the request has failed before it was sent. -/
theorem renewed_request [ReceiveDataHandler δ] {s' : ReadOperationImpl δ} {b : OperationImpl δ}
    {oack : Bool} (hb : OperationImpl.Resting b s'.toOperationImpl)
    (hoack : oack = s'.oackReceived ∨ s'.optionNegotiationHandlerV = none) (dataSize : UInt16)
    (block : BlockNumber) (f : Faults) :
    OrStalled Renewed ({ s' with
      toOperationImpl := b
      oackReceived := oack
      receiveDataSize := dataSize
      lastReceivedBlockNumber := block }.request f) (s'.request f) := by
  have hinitialised := hb.initialise f
  simp only [request]
  cases f.startThrows with
  | some e => exact Or.inr (OperationImpl.stalled_catchException hinitialised e)
  | none =>
    have hstarted := OperationImpl.stalled_startDataHandler hinitialised
    rcases OperationImpl.matching_or_stalled_sendFirst (f := f) hstarted
      (.readRequest s'.filenameV s'.modeV s'.requestOptions) with hsent | hfailed
    · exact Or.inl ⟨_, oack, rfl, hsent, hoack⟩
    · exact Or.inr hfailed

end ReadOperationImpl

/-! ### A write -/

namespace WriteOperationImpl

section Renewed

/-- **A write that has been requested again**, and a new one, which cannot be told apart. -/
def Renewed (s s' : WriteOperationImpl δ) : Prop :=
  ∃ b, s = { s' with toOperationImpl := b } ∧ b.Matching s'.toOperationImpl

variable {s s' : WriteOperationImpl δ}

theorem Renewed.update (h : s.Renewed s') {g : OperationImpl δ → OperationImpl δ}
    (hg : ∀ {b b'}, b.Matching b' → (g b).Matching (g b')) :
    (s.update g).Renewed (s'.update g) := by
  obtain ⟨b, rfl, hb⟩ := h
  exact ⟨g b, rfl, hg hb⟩

theorem Renewed.negotiateNone (h : s.Renewed s') (blockNumber : BlockNumber) :
    (s.negotiateNone blockNumber).1 = (s'.negotiateNone blockNumber).1 ∧
      (s.negotiateNone blockNumber).2.Renewed (s'.negotiateNone blockNumber).2 := by
  obtain ⟨b, rfl, hb⟩ := h
  simp only [WriteOperationImpl.negotiateNone]
  split_ifs
  · obtain ⟨heq, hcalled⟩ := hb.optionNegotiation s'.optionNegotiationHandlerV SortedMap.empty
    refine ⟨?_, _, rfl, hcalled⟩
    dsimp only
    exact congrArg Prod.fst heq
  · exact ⟨rfl, b, rfl, hb⟩

variable [TransmitDataHandler δ]

theorem Renewed.sendData (h : s.Renewed s') : (s.sendData f).Renewed (s'.sendData f) := by
  obtain ⟨b, rfl, hb⟩ := h
  obtain ⟨hdata, hb₁⟩ := hb.nextData s'.transmitDataSize.toNat
  simp only [WriteOperationImpl.sendData, hdata]
  exact ⟨_, rfl, hb₁.send _⟩

/-- The next block is sent, and its acknowledgement awaited. -/
theorem Renewed.sendData_receive (h : s.Renewed s') :
    ((s.sendData f).update (·.receive f)).Renewed ((s'.sendData f).update (·.receive f)) :=
  h.sendData.update Matching.receive

theorem Renewed.acknowledgementPacket (h : s.Renewed s') (blockNumber : BlockNumber) :
    (s.acknowledgementPacket f blockNumber).Renewed
      (s'.acknowledgementPacket f blockNumber) := by
  obtain ⟨b, rfl, hb⟩ := h
  have hset : Renewed { s' with toOperationImpl := b, lastReceivedBlockNumber := blockNumber }
      { s' with lastReceivedBlockNumber := blockNumber } := ⟨b, rfl, hb⟩
  obtain ⟨haccepted, hnone⟩ := hset.negotiateNone blockNumber
  have hlast : ({ s' with
      toOperationImpl := b
      lastReceivedBlockNumber := blockNumber }.negotiateNone
        blockNumber).2.lastDataPacketTransmitted = ({ s' with lastReceivedBlockNumber :=
          blockNumber }.negotiateNone blockNumber).2.lastDataPacketTransmitted := by
    obtain ⟨b, heq, -⟩ := hnone
    rw [heq]
  simp only [WriteOperationImpl.acknowledgementPacket, haccepted, hlast]
  split_ifs
  · exact ⟨_, rfl, hb.receive⟩
  · exact ⟨_, rfl, hb.reject _ _ _⟩
  · exact hnone.update fun hb => hb.reject _ _ _
  · exact hnone.update fun hb => hb.finished _ _
  · exact hnone.sendData_receive

theorem Renewed.negotiated (h : s.Renewed s') (transferSizeValue : Option UInt64)
    (remoteOptions : Options) : (s.negotiated f transferSizeValue remoteOptions).Renewed
      (s'.negotiated f transferSizeValue remoteOptions) := by
  obtain ⟨b, rfl, hb⟩ := h
  obtain ⟨hanswer, hb₁⟩ := hb.optionNegotiation s'.optionNegotiationHandlerV remoteOptions
  simp only [WriteOperationImpl.negotiated, hanswer]
  split_ifs
  · exact ⟨_, rfl, hb.reject _ _ _⟩
  · exact ⟨_, rfl, hb₁.reject _ _ _⟩
  · exact ⟨_, rfl, hb₁.reject _ _ _⟩
  · exact Renewed.sendData_receive ⟨_, rfl, hb₁⟩

theorem Renewed.optionsAcknowledgementPacket (h : s.Renewed s') (remoteOptions : Options) :
    (s.optionsAcknowledgementPacket f remoteOptions).Renewed
      (s'.optionsAcknowledgementPacket f remoteOptions) := by
  obtain ⟨b, rfl, hb⟩ := h
  simp only [WriteOperationImpl.optionsAcknowledgementPacket, hb.receiveTimeout]
  split_ifs
  · exact ⟨_, rfl, hb.reject _ _ _⟩
  · exact ⟨_, rfl, hb.reject _ _ _⟩
  · rcases negotiateBlockSize s'.optionsConfigurationV remoteOptions with
      rejection | ⟨blockSize, options₁⟩
    · exact ⟨_, rfl, hb.reject _ _ _⟩
    · dsimp only
      rcases negotiateTimeout s'.optionsConfigurationV options₁ with rejection | ⟨timeout, options₂⟩
      · exact ⟨_, rfl, hb.reject _ _ _⟩
      · dsimp only
        rcases negotiateTransferSize (s'.optionsConfigurationV.handleTransferSizeOption &&
          s'.transferSize.isSome) options₂ with rejection | ⟨transferSize, options₃⟩
        · exact ⟨_, rfl, (hb.withTimeout _).reject _ _ _⟩
        · refine Renewed.negotiated ?_ transferSize options₃
          exact ⟨_, rfl, hb.withTimeout _⟩

theorem Renewed.received (h : s.Renewed s') (r : Received) :
    (s.received f r).Renewed (s'.received f r) := by
  rcases r with packet | -
  · cases packet with
    | readRequest | writeRequest | data => exact h.update fun hb => hb.reject _ _ _
    | acknowledgement blockNumber => exact h.acknowledgementPacket blockNumber
    | error errorCode errorMessage =>
      exact h.update fun hb => OperationImpl.matching_errorPacket hb errorCode errorMessage
    | optionsAcknowledgement options => exact h.optionsAcknowledgementPacket options
  · exact h.update fun hb => hb.reject _ _ _

theorem matches_renewed : Operation.Matches (Renewed (δ := δ)) where
  base := by
    rintro _ _ ⟨b, rfl, hb⟩
    exact hb
  withBase := by
    rintro _ _ b b' ⟨_, rfl, -⟩ hb
    exact ⟨b, rfl, hb⟩
  received _ r h := h.received r
  gracefulAbort _ errorCode errorMessage h :=
    h.update fun hb => OperationImpl.matching_gracefulAbort hb errorCode errorMessage

theorem renewed_sendRequest (hs : s = { s' with toOperationImpl := s.toOperationImpl })
    (hb : s.toOperationImpl.Stalled s'.toOperationImpl) (options : Options) :
    OrStalled Renewed (s.sendRequest f options) (s'.sendRequest f options) := by
  generalize s.toOperationImpl = b at hs hb
  subst hs
  rcases OperationImpl.matching_or_stalled_sendFirst (f := f) hb
    (.writeRequest s'.filenameV s'.modeV options) with hsent | hfailed
  · exact Or.inl ⟨_, rfl, hsent⟩
  · exact Or.inr hfailed

/-- **What is requested again is renewed**, or the request has failed before it was sent. -/
theorem renewed_request {b : OperationImpl δ} (hb : OperationImpl.Resting b s'.toOperationImpl)
    {size : Option UInt64}
    (hsize : s'.optionsConfigurationV.handleTransferSizeOption = false → size = s'.transferSize)
    (dataSize : UInt16) (last : Bool) (transmitted received : BlockNumber) (f : Faults) :
    OrStalled Renewed ({ s' with
      toOperationImpl := b
      transmitDataSize := dataSize
      lastDataPacketTransmitted := last
      lastTransmittedBlockNumber := transmitted
      lastReceivedBlockNumber := received
      transferSize := size }.request f) (s'.request f) := by
  have hinitialised := hb.initialise f
  simp only [request]
  cases f.startThrows with
  | some e => exact Or.inr (OperationImpl.stalled_catchException hinitialised e)
  | none =>
    have hstarted := OperationImpl.stalled_startDataHandler hinitialised
    cases hhandle : s'.optionsConfigurationV.handleTransferSizeOption with
    | true =>
      simp only [update, hhandle, if_true]
      cases f.transferSizeThrows with
      | some e => exact Or.inr (OperationImpl.stalled_catchException hstarted e)
      | none =>
        obtain ⟨heq, hasked⟩ := OperationImpl.stalled_requestedTransferSize hstarted
        simp only [heq]
        split
        · exact renewed_sendRequest rfl hasked _
        · exact renewed_sendRequest rfl hasked _
    | false =>
      obtain rfl := hsize hhandle
      simp only [update, hhandle, Bool.false_eq_true, if_false]
      exact renewed_sendRequest rfl hstarted _

end Renewed

end WriteOperationImpl

end Clients

end Tftp
