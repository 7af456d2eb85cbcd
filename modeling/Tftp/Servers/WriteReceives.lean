import Tftp.Servers.WriteOperation
import Tftp.Delivery

/-!
# The server of a write is a receiver

The handlers of `Tftp.Servers.WriteOperationImpl` do with every packet what
`Tftp.ReceiverStep` says. The engine is the one of the client, without the option
negotiation, which is over when the operation starts to receive.
-/

namespace Tftp.Servers.WriteOperationImpl

open Tftp.OperationImpl

variable {δ : Type} [ReceiveDataHandler δ] {s : WriteOperationImpl δ} {peer : Endpoint}

/-- What the engine works on. -/
def view (s : WriteOperationImpl δ) : ReceiverView where
  block := s.lastReceivedBlockNumber
  dataSize := s.receiveDataSize
  dally := s.dallyV
  negotiates := false
  reports := s.completionHandlerV
  timeout := s.receiveTimeoutV
  retries := s.tftpRetriesV
  packet := s.transmitPacketV
  counter := s.transmitCounterV
  buffer := s.receivePacketV
  remote := s.remoteV
  configuration := s.optionsConfigurationV

/-- The outcome of the handlers, as `Tftp.ReceivingOperation` asks for it. -/
def Steps (s : WriteOperationImpl δ) (peer : Endpoint) (r : Received)
    (s' : WriteOperationImpl δ) : Prop :=
  s'.Settled ∧ ReceiverStep s.view peer r s'.actions s'.phase s'.view

theorem steps_repeated (h : s.Ready peer) (hactions : s.actions = []) (data : RawData) :
    s.Steps peer (.packet (.data s.lastReceivedBlockNumber data))
      (s.dataPacket {} s.lastReceivedBlockNumber data) := by
  obtain ⟨hset, hphase, hact, hpacket, hsame⟩ :=
    h.acknowledge s.lastReceivedBlockNumber (decide (data.length < s.receiveDataSize.toNat))
      s.dallyV
  rw [dataPacket, if_pos rfl]
  refine ⟨hset, (ReceiverStep.repeated data).of_eq ?_ hphase ?_⟩
  · rw [hactions] at hact
    exact hact
  · simp [update, view, ReceiverView.sent, hpacket, hsame.reports, hsame.buffer, hsame.remote,
      hsame.timeout, hsame.retries]

theorem steps_reject {r : Received} (h : s.Ready peer) (hactions : s.actions = [])
    (hpacket : ∀ code message, r ≠ .packet (.error code message))
    (hdata : ∀ n data, r = .packet (.data n data) → n ≠ s.lastReceivedBlockNumber ∧
      (n = s.lastReceivedBlockNumber.next → s.receiveDataSize.toNat < data.length))
    (errorMessage : String) :
    s.Steps peer r (s.update (·.reject {} .illegalTftpOperation errorMessage .transferError)) := by
  obtain ⟨hset, hphase, hact, hstored, hsame⟩ :=
    h.reject .illegalTftpOperation errorMessage .transferError
  refine ⟨hset, (ReceiverStep.failed (v := s.view) r []
    [.send (Packet.error .illegalTftpOperation (ascii errorMessage)).encode peer] .transferError
    s.receiveDataSize s.receiveTimeoutV _ _ (by simp [Negotiation])
    (.rejected r .illegalTftpOperation (ascii errorMessage) _ hpacket (by decide)
      (Or.inl ⟨rfl, rfl⟩)) (Or.inl ⟨Or.inl rfl, rfl, rfl⟩) ?_).of_eq ?_ hphase ?_⟩
  · intro n data hr
    exact ⟨(hdata n data hr).1, fun hn hle => absurd hle (not_le.mpr ((hdata n data hr).2 hn))⟩
  · rw [update, hact, hactions]
    rfl
  · simp [view, update, hstored, hsame.reports, hsame.buffer, hsame.remote, hsame.timeout,
      hsame.retries]

theorem steps_next (h : s.Ready peer) (hactions : s.actions = []) (data : RawData) :
    s.Steps peer (.packet (.data s.lastReceivedBlockNumber.next data))
      (s.dataPacket {} s.lastReceivedBlockNumber.next data) := by
  have hrep : s.lastReceivedBlockNumber.next ≠ s.lastReceivedBlockNumber := BlockNumber.next_ne _
  rw [dataPacket, if_neg hrep, if_neg (not_not.mpr rfl)]
  rcases Nat.lt_or_ge s.receiveDataSize.toNat data.length with hlong | hsize
  · rw [if_pos hlong]
    refine steps_reject h hactions (by rintro _ _ ⟨⟩) ?_ _
    rintro n' data' heq
    cases heq
    exact ⟨hrep, fun _ => hlong⟩
  · rw [if_neg (not_lt.mpr hsize)]
    obtain ⟨hset, hphase, hact, hpacket, hsame⟩ :=
      (h.called (ReceiveDataHandler.receivedData s.dataHandlerV data)
        [.receivedData data]).acknowledge s.lastReceivedBlockNumber.next
        (decide (data.length < s.receiveDataSize.toNat)) s.dallyV
    refine ⟨hset, (ReceiverStep.accepted [] data (Or.inl rfl) hsize).of_eq ?_ hphase ?_⟩
    · rw [called_actions, hactions] at hact
      exact hact
    · simp only [update, receivedData_eq, view, hpacket, hsame.reports, hsame.buffer, hsame.remote,
        hsame.timeout, hsame.retries]
      rfl

theorem steps_dataPacket (h : s.Ready peer) (hactions : s.actions = []) (n : BlockNumber)
    (data : RawData) : s.Steps peer (.packet (.data n data)) (s.dataPacket {} n data) := by
  by_cases hrep : n = s.lastReceivedBlockNumber
  · subst hrep
    exact steps_repeated h hactions data
  · by_cases hnext : n = s.lastReceivedBlockNumber.next
    · subst hnext
      exact steps_next h hactions data
    · rw [dataPacket, if_neg hrep, if_pos hnext]
      refine steps_reject h hactions (by rintro _ _ ⟨⟩) ?_ _
      rintro n' data' heq
      cases heq
      exact ⟨hrep, fun hn => absurd hn hnext⟩

/-- An ERROR packet ends the operation, and is not answered. -/
theorem steps_errorPacket (h : s.Ready peer) (hactions : s.actions = []) (errorCode : ErrorCode)
    (errorMessage : RawData) :
    s.Steps peer (.packet (.error errorCode errorMessage))
      (s.update (OperationImpl.errorPacket · errorCode errorMessage)) := by
  obtain ⟨status, hstatus, hstored, heq⟩ :=
    OperationImpl.errorPacket_eq s.toOperationImpl errorCode errorMessage
  rw [h.finished_eq] at heq
  have hw := settled_completed h.alive status (some (errorCode, errorMessage))
  rw [update, heq]
  refine ⟨hw.1, (ReceiverStep.failed (v := s.view) (.packet (.error errorCode errorMessage)) [] []
    status s.receiveDataSize s.receiveTimeoutV _ _ (by simp [Negotiation])
    (.reported errorCode errorMessage status hstatus hstored) (Or.inl ⟨Or.inl rfl, rfl, rfl⟩)
    (by rintro n data ⟨⟩)).of_eq ?_ hw.2 rfl⟩
  simp only [completed, hactions]
  rfl

instance : ReceivingOperation (WriteOperationImpl δ) δ where
  view := view
  view_withBase _ _ := rfl
  received_step s peer r h hactions := by
    cases r with
    | invalid => exact steps_reject h hactions (by rintro _ _ ⟨⟩) (by rintro n data ⟨⟩) _
    | packet p =>
      cases p with
      | data n data => exact steps_dataPacket h hactions n data
      | error errorCode errorMessage => exact steps_errorPacket h hactions errorCode errorMessage
      | readRequest | writeRequest | acknowledgement | optionsAcknowledgement =>
        exact steps_reject h hactions (by rintro _ _ ⟨⟩) (by rintro n data ⟨⟩) _

/-! ### The start -/

/-- The transfer size that the data handler is told. -/
def offeredTransferSize (s : WriteOperationImpl δ) : Option UInt64 :=
  if s.optionsConfigurationV.handleTransferSizeOption then s.clientOptionsV.transferSize else none

/-- The options that are acknowledged. -/
def acknowledgedOptions (s : WriteOperationImpl δ) : Options :=
  let options :=
    serverOptions s.additionalNegotiatedOptionsV s.optionsConfigurationV s.clientOptionsV
  match s.offeredTransferSize with
  | some transferSize =>
      options.emplace (tftpOptionsName .transferSize) (stdToString transferSize.toNat)
  | none => options

/-- The answer to the request. -/
def firstPacket (s : WriteOperationImpl δ) : Packet :=
  if s.acknowledgedOptions.isEmpty then .acknowledgement 0
  else .optionsAcknowledgement s.acknowledgedOptions

/-- The receive timeout after the negotiation. -/
def negotiatedReceiveTimeout (s : WriteOperationImpl δ) : ℤ :=
  ((negotiatedTimeout s.optionsConfigurationV s.clientOptionsV).map
    fun t : UInt8 => (t.toNat : ℤ)).getD s.receiveTimeoutV

theorem answer_eq (t : WriteOperationImpl δ) {options : Options} {p : Packet}
    (hpacket : p = if options.isEmpty then .acknowledgement 0
      else .optionsAcknowledgement options) :
    t.answer {} options = t.update fun b => (b.send {} p).receive {} := by
  subst hpacket
  simp only [answer, update]
  cases options.isEmpty <;> rfl

/-- What the negotiation does when no call fails. -/
theorem negotiate_eq :
    s.negotiate {} = { s with
      toOperationImpl :=
        let (accepted, b) := ({ s.toOperationImpl with
          receiveTimeoutV := s.negotiatedReceiveTimeout }).offerTransferSize s.offeredTransferSize
        if accepted then (b.send {} s.firstPacket).receive {}
        else b.reject {} .diskFullOrAllocationExceeds "File to big" .transferError
      receiveDataSize := (negotiatedBlockSize s.optionsConfigurationV s.clientOptionsV).getD
        s.receiveDataSize } := by
  cases hhandle : s.optionsConfigurationV.handleTransferSizeOption with
  | false =>
    have hoff : s.offeredTransferSize = none := by simp [offeredTransferSize, hhandle]
    simp only [negotiate, hhandle]
    rw [answer_eq _ (p := s.firstPacket) (by simp [firstPacket, acknowledgedOptions, hoff])]
    simp [hoff, offerTransferSize, update, negotiatedReceiveTimeout]
  | true =>
    have hoff : s.offeredTransferSize = s.clientOptionsV.transferSize := by
      simp [offeredTransferSize, hhandle]
    cases hsize : s.clientOptionsV.transferSize with
    | none =>
      rw [hsize] at hoff
      simp only [negotiate, hhandle, hsize]
      rw [answer_eq _ (p := s.firstPacket) (by simp [firstPacket, acknowledgedOptions, hoff])]
      simp [hoff, offerTransferSize, update, negotiatedReceiveTimeout]
    | some transferSize =>
      rw [hsize] at hoff
      simp only [negotiate, hhandle, hsize]
      rw [answer_eq _ (p := s.firstPacket) (by simp [firstPacket, acknowledgedOptions, hoff])]
      simp only [hoff, offerTransferSize, update, negotiatedReceiveTimeout]
      generalize @OperationImpl.receivedTransferSize δ _ _ transferSize = result
      obtain ⟨accepted, b⟩ := result
      cases accepted <;> rfl

/-- What `start` does when no call fails. -/
theorem start_eq (h : s.Idle) :
    s.start {} = { s with
      toOperationImpl :=
        let (accepted, b) := (OperationImpl.connected s.toOperationImpl
          s.negotiatedReceiveTimeout).offerTransferSize s.offeredTransferSize
        if accepted then (b.send {} s.firstPacket).receive {}
        else b.reject {} .diskFullOrAllocationExceeds "File to big" .transferError
      receiveDataSize := (negotiatedBlockSize s.optionsConfigurationV s.clientOptionsV).getD
        s.receiveDataSize } := by
  have hb := OperationImpl.initialise_eq h
  by_cases hset : s.clientOptionsV.isSet = false ∧ s.additionalNegotiatedOptionsV.isEmpty = true
  · -- without any option the answer is the acknowledgement of block zero
    obtain ⟨hblock, htimeout, hsize⟩ := isSet_eq_false hset.1
    have hts : s.offeredTransferSize = none := by
      simp [offeredTransferSize, hsize]
    have hack : s.acknowledgedOptions = s.additionalNegotiatedOptionsV := by
      simp only [acknowledgedOptions, serverOptions_of_isSet hset.1, hts]
    have htime : s.negotiatedReceiveTimeout = s.receiveTimeoutV := by
      simp [negotiatedReceiveTimeout, negotiatedTimeout_none htimeout]
    simp [start, update, hb, hset, hts, firstPacket, hack, htime, negotiatedBlockSize_none hblock,
      offerTransferSize]
  · have hcond : (!s.clientOptionsV.isSet && s.additionalNegotiatedOptionsV.isEmpty) = false := by
      simpa using hset
    simp only [start, update, hb, hcond, Bool.false_eq_true, if_false]
    exact negotiate_eq

omit [ReceiveDataHandler δ] in
/-- The acknowledgement carries the known options. -/
theorem acknowledgedOptions_eq (s : WriteOperationImpl δ) :
    s.acknowledgedOptions = (Servers.acknowledged s.optionsConfigurationV s.clientOptionsV
      s.offeredTransferSize).onto s.additionalNegotiatedOptionsV := by
  rw [← serverOptions_eq, acknowledgedOptions]
  cases s.offeredTransferSize <;> rfl

omit [ReceiveDataHandler δ] in
theorem idle_configured (settings : Settings δ) : (configured settings).Idle := ⟨rfl, rfl, rfl⟩

omit [ReceiveDataHandler δ] in
/-- The answer acknowledges at most block zero. -/
theorem acknowledgementOf_firstPacket {n : BlockNumber}
    (h : acknowledgementOf s.firstPacket.encode = some n) : n = 0 := by
  rw [firstPacket] at h
  split_ifs at h
  · exact (by simpa using h : (0 : BlockNumber) = n).symm
  · rw [acknowledgementOf_eq_none (by simp [Packet.type])] at h
    cases h

/-- A server that has answered the request starts as a receiver. -/
theorem receiverStart_start (h : s.Idle) (hactions : s.actions = [])
    (hblock : s.lastReceivedBlockNumber = 0) :
    (s.start {}).Settled ∧
      ReceiverStart (s.start {}).actions (s.start {}).phase (s.start {}).view := by
  have hc := OperationImpl.ready_connected h s.negotiatedReceiveTimeout
  obtain ⟨accepted, state, calls, heq, hcalls⟩ :=
    hc.offerTransferSize_called s.offeredTransferSize
  have hready := hc.called state calls
  have hneg : Negotiation calls := by
    rcases hcalls with rfl | ⟨n, rfl⟩ <;> simp [Negotiation]
  have hact : ((OperationImpl.connected s.toOperationImpl s.negotiatedReceiveTimeout).called state
      calls).actions = .start :: calls := by
    rw [called_actions, OperationImpl.connected, hactions]
    rfl
  have hsilent : ∀ a ∈ Action.start :: calls, a.acknowledges = none := by
    intro a ha
    rcases List.mem_cons.mp ha with rfl | ha
    · rfl
    · exact negotiation_silent hneg a ha
  have hdel : deliveries (Action.start :: calls) = [] := by
    rw [deliveries_cons_none rfl, deliveries_negotiation hneg]
  have hfin : ∀ status, Action.finished status ∉ Action.start :: calls := by
    intro status hs
    rcases List.mem_cons.mp hs with hs | hs
    · cases hs
    · exact finished_negotiation hneg status hs
  rw [start_eq h]
  simp only [heq]
  cases accepted with
  | true =>
    obtain ⟨hset, hphase, ha, hpacket, -⟩ := hready.sendAndReceive s.firstPacket
    rw [hact] at ha
    simp only [if_true]
    refine ⟨hset, hblock, ?_, ?_, ?_, ?_, ?_⟩
    · rw [ha, deliveries_append, hdel, deliveries_send]
      rfl
    · rw [ha]
      refine acksFrom_append.mpr ⟨acksFrom_of_silent hsilent _, fun n hn => ?_, trivial⟩
      rw [hdel]
      exact acknowledgementOf_firstPacket hn
    · intro status hs
      rw [ha] at hs
      exact absurd (by simpa using hs) (hfin status)
    · intro _ n hn
      exact acknowledgementOf_firstPacket (by rw [← hpacket.1]; exact hn)
    · intro peer
      rw [hphase]
      rintro ⟨⟩
  | false =>
    obtain ⟨hset, hphase, ha, -⟩ :=
      hready.reject .diskFullOrAllocationExceeds "File to big" .transferError
    rw [hact] at ha
    simp only [Bool.false_eq_true, if_false]
    refine ⟨hset, hblock, ?_, ?_, ?_, fun hne => absurd hphase hne, ?_⟩
    · rw [ha, deliveries_append, hdel, deliveries_append, deliveries_send]
      exact deliveries_completion _ _
    · rw [ha]
      refine acksFrom_append.mpr ⟨acksFrom_of_silent hsilent _, acksFrom_of_silent ?_ _⟩
      intro a hmem
      rcases List.mem_append.mp hmem with hmem | hmem
      · rw [List.mem_singleton.mp hmem]
        exact send_silent (by simp [Packet.type]) _
      · exact completion_silent _ _ a hmem
    · intro status hs
      rw [ha] at hs
      have hmem : .finished status ∈ ((OperationImpl.connected s.toOperationImpl
          s.negotiatedReceiveTimeout).called state calls).completion .transferError := by
        rcases List.mem_append.mp hs with hs | hs
        · exact absurd hs (hfin status)
        · simpa using hs
      refine ⟨?_, hphase⟩
      rintro rfl
      rw [completion, Action.completion] at hmem
      split_ifs at hmem <;> simp at hmem
    · intro peer
      rw [hphase]
      rintro ⟨⟩

end Tftp.Servers.WriteOperationImpl
