import Tftp.Clients.ReadOperation
import Tftp.Delivery

/-!
# The client of a read is a receiver

The handlers of `Tftp.Clients.ReadOperationImpl` do with every packet what
`Tftp.ReceiverStep` says, one lemma per handler. The only long one is about the
acknowledgement of options, which can be rejected at every stage of the negotiation.
-/

namespace Tftp.Clients.ReadOperationImpl

open Tftp.OperationImpl

variable {δ : Type} [ReceiveDataHandler δ] {s : ReadOperationImpl δ} {peer : Endpoint}

/-- What the engine works on. -/
def view (s : ReadOperationImpl δ) : ReceiverView where
  block := s.lastReceivedBlockNumber
  dataSize := s.receiveDataSize
  dally := s.dallyV
  negotiates := s.optionNegotiationHandlerV.isSome
  reports := s.completionHandlerV
  timeout := s.receiveTimeoutV
  retries := s.tftpRetriesV
  packet := s.transmitPacketV
  counter := s.transmitCounterV
  buffer := s.receivePacketV
  remote := s.remoteV
  configuration := s.optionsConfigurationV

/-- The outcome of the handlers, as `Tftp.ReceivingOperation` asks for it. -/
def Steps (s : ReadOperationImpl δ) (peer : Endpoint) (r : Received)
    (s' : ReadOperationImpl δ) : Prop :=
  s'.Settled ∧ ReceiverStep s.view peer r s'.actions s'.phase s'.view

theorem steps_repeated (h : s.Ready peer) (hactions : s.actions = []) (data : RawData) :
    s.Steps peer (.packet (.data s.lastReceivedBlockNumber data))
      (s.dataPacket {} s.lastReceivedBlockNumber data) := by
  obtain ⟨hset, hphase, hact, hpacket, hsame⟩ :=
    h.acknowledge s.lastReceivedBlockNumber (decide (data.length < s.receiveDataSize.toNat))
      s.dallyV
  rw [dataPacket, if_pos rfl]
  refine ⟨hset, (ReceiverStep.repeated data).of_eq ?_ hphase ?_⟩
  · rw [hactions] at hact
    exact hact
  · simp [update, view, ReceiverView.sent, hpacket, hsame.reports, hsame.buffer, hsame.remote,
      hsame.timeout, hsame.retries]

/-- Rejecting, after calls that may have changed the size of a full block and the receive
timeout. -/
theorem steps_reject {t : ReadOperationImpl δ} {r : Received} (h : t.Ready peer)
    (hview : t.view = { s.view with dataSize := t.receiveDataSize, timeout := t.receiveTimeoutV })
    (hcalls : Negotiation t.actions)
    (hsettings : s.view.Unchanged r t.actions t.receiveDataSize t.receiveTimeoutV ∨
      s.lastReceivedBlockNumber = 0)
    (hpacket : ∀ code message, r ≠ .packet (.error code message))
    (hdata : ∀ n data, r = .packet (.data n data) → n ≠ s.lastReceivedBlockNumber ∧
      (n = s.lastReceivedBlockNumber.next → data.length ≤ s.receiveDataSize.toNat →
        s.optionNegotiationHandlerV.isSome))
    (errorCode : ErrorCode) (errorMessage : String) {status : TransferStatus}
    (hstatus : status ≠ .successful)
    (hillegal : errorCode = .illegalTftpOperation ∧ status = .transferError ∨
      s.view.Negotiating r) :
    s.Steps peer r (t.update (·.reject {} errorCode errorMessage status)) := by
  obtain ⟨hset, hphase, hact, hstored, hsame⟩ := h.reject errorCode errorMessage status
  have hreports' : t.completionHandlerV = s.completionHandlerV :=
    congrArg ReceiverView.reports hview
  refine ⟨hset, (ReceiverStep.failed r t.actions
    [.send (Packet.error errorCode (ascii errorMessage)).encode peer] status t.receiveDataSize
    t.receiveTimeoutV _ _ hcalls (.rejected r errorCode (ascii errorMessage) status hpacket hstatus
      hillegal) hsettings hdata).of_eq ?_ hphase ?_⟩
  · rw [update, hact, ← List.append_assoc]
    simp only [completion, hreports']
    rfl
  · have hv : (t.update (·.reject {} errorCode errorMessage status)).view =
        { t.view with
          packet := (Packet.error errorCode (ascii errorMessage)).encode, counter := 1 } := by
      simp [view, update, hstored, hsame.reports, hsame.buffer, hsame.remote, hsame.timeout,
        hsame.retries]
    rw [hv, hview]

/-- Rejecting a packet that is no part of the negotiation, before anything else has
happened. -/
theorem steps_illegal {r : Received} (h : s.Ready peer) (hactions : s.actions = [])
    (hpacket : ∀ code message, r ≠ .packet (.error code message))
    (hdata : ∀ n data, r = .packet (.data n data) → n ≠ s.lastReceivedBlockNumber ∧
      (n = s.lastReceivedBlockNumber.next → data.length ≤ s.receiveDataSize.toNat →
        s.optionNegotiationHandlerV.isSome))
    (errorMessage : String) :
    s.Steps peer r (s.update (·.reject {} .illegalTftpOperation errorMessage .transferError)) := by
  refine steps_reject h rfl ?_ (Or.inl ⟨Or.inl hactions, rfl, rfl⟩) hpacket hdata _ _ (by decide)
    (Or.inl ⟨rfl, rfl⟩)
  simp [hactions, Negotiation]

omit [ReceiveDataHandler δ] in
/-- Before the first block the option negotiation handler may be called. -/
theorem negotiateNone_called (s : ReadOperationImpl δ) (n : BlockNumber) :
    ∃ accepted state calls,
      s.negotiateNone n = (accepted, s.update (·.called state calls)) ∧
      (calls = [] ∧ accepted = true ∨
        s.optionNegotiationHandlerV.isSome = true ∧
          calls = [.optionNegotiation Protocol.SortedMap.empty]) := by
  rw [negotiateNone]
  split_ifs with hfirst
  · obtain ⟨accepted, remaining, state, calls, heq, hcalls⟩ :=
      s.toOperationImpl.optionNegotiation_called s.optionNegotiationHandlerV
        Protocol.SortedMap.empty
    rw [heq]
    refine ⟨accepted, state, calls, rfl, hcalls.imp (fun h => ⟨h.1, h.2.1⟩) ?_⟩
    rintro ⟨⟨g, hg, -⟩, rfl⟩
    exact ⟨by rw [hg]; rfl, rfl⟩
  · refine ⟨true, s.dataHandlerV, [], ?_, Or.inl ⟨rfl, rfl⟩⟩
    rw [update, called_nil]

theorem steps_next (h : s.Ready peer) (hactions : s.actions = []) (data : RawData) :
    s.Steps peer (.packet (.data s.lastReceivedBlockNumber.next data))
      (s.dataPacket {} s.lastReceivedBlockNumber.next data) := by
  have hrep : s.lastReceivedBlockNumber.next ≠ s.lastReceivedBlockNumber := BlockNumber.next_ne _
  rw [dataPacket, if_neg hrep, if_neg (not_not.mpr rfl)]
  rcases Nat.lt_or_ge s.receiveDataSize.toNat data.length with hlong | hsize
  · rw [if_pos hlong]
    refine steps_illegal h hactions (by rintro _ _ ⟨⟩) ?_ _
    rintro n' data' heq
    cases heq
    exact ⟨hrep, fun _ hle => absurd hle (not_le.mpr hlong)⟩
  · rw [if_neg (not_lt.mpr hsize)]
    obtain ⟨accepted, state, calls, heq, hcalls⟩ := negotiateNone_called s
      s.lastReceivedBlockNumber.next
    have hc := h.called state calls
    simp only [heq]
    cases accepted with
    | false =>
      have hneg : s.optionNegotiationHandlerV.isSome = true ∧
          calls = [.optionNegotiation Protocol.SortedMap.empty] := by simpa using hcalls
      have hact : (s.update (·.called state calls)).actions =
          [.optionNegotiation Protocol.SortedMap.empty] := by
        simp [update, OperationImpl.called, hactions, hneg.2]
      refine steps_reject (t := s.update (·.called state calls)) hc rfl ?_
        (Or.inl ⟨Or.inr ⟨Or.inl ⟨hneg.1, _, _, rfl⟩, _, hact⟩, rfl, rfl⟩) (by rintro _ _ ⟨⟩) ?_ _ _
        (by decide) (Or.inr (Or.inl ⟨hneg.1, _, _, rfl⟩))
      · simp [Negotiation, hact]
      · rintro n' data' heq
        cases heq
        exact ⟨hrep, fun _ _ => hneg.1⟩
    | true =>
      simp only [Bool.not_true, Bool.false_eq_true, if_false, receivedData_eq]
      obtain ⟨hset, hphase, hact, hpacket, hsame⟩ :=
        (hc.called (ReceiveDataHandler.receivedData (s.toOperationImpl.called state
          calls).dataHandlerV data) [.receivedData data]).acknowledge
          s.lastReceivedBlockNumber.next (decide (data.length < s.receiveDataSize.toNat)) s.dallyV
      refine ⟨hset, (ReceiverStep.accepted calls data
        (hcalls.imp (fun h => h.1) fun h => ⟨h.1, _, h.2⟩) hsize).of_eq ?_ hphase ?_⟩
      · rw [called_actions, called_actions, hactions, List.nil_append, List.append_assoc] at hact
        exact hact
      · simp only [update, view, hpacket, hsame.reports, hsame.buffer, hsame.remote, hsame.timeout,
          hsame.retries]
        rfl

theorem steps_dataPacket (h : s.Ready peer) (hactions : s.actions = []) (n : BlockNumber)
    (data : RawData) : s.Steps peer (.packet (.data n data)) (s.dataPacket {} n data) := by
  by_cases hrep : n = s.lastReceivedBlockNumber
  · subst hrep
    exact steps_repeated h hactions data
  · by_cases hnext : n = s.lastReceivedBlockNumber.next
    · subst hnext
      exact steps_next h hactions data
    · rw [dataPacket, if_neg hrep, if_pos hnext]
      refine steps_illegal h hactions (by rintro _ _ ⟨⟩) ?_ _
      rintro n' data' heq
      cases heq
      exact ⟨hrep, fun hn => absurd hn hnext⟩

/-- Rejecting an acknowledgement of options. -/
theorem steps_refuse {t : ReadOperationImpl δ} {options : Options} (h : t.Ready peer)
    (hview : t.view = { s.view with dataSize := t.receiveDataSize, timeout := t.receiveTimeoutV })
    (hcalls : Negotiation t.actions) (hblock : s.lastReceivedBlockNumber = 0)
    (rejection : Rejection) :
    s.Steps peer (.packet (.optionsAcknowledgement options)) (t.refuse {} rejection) :=
  steps_reject h hview hcalls (Or.inr hblock) (by rintro _ _ ⟨⟩) (by rintro n data ⟨⟩)
    rejection.errorCode rejection.errorMessage (by decide) (Or.inr (Or.inr ⟨hblock, _, rfl⟩))

/-- The end of the negotiation, in a state `t` that has taken over the values. -/
theorem steps_negotiated {t : ReadOperationImpl δ} {options : Options} (h : t.Ready peer)
    (hview : t.view = { s.view with dataSize := t.receiveDataSize, timeout := t.receiveTimeoutV })
    (hactions : t.actions = []) (hblock : s.lastReceivedBlockNumber = 0)
    (hsize : t.receiveDataSize = ((options.getOption 16 (tftpOptionsName .blockSize)
      blockSizeOptionMin blockSizeOptionMax).1.2.map UInt16.ofNat).getD s.receiveDataSize)
    (transferSize : Option UInt64) (remaining : Options) :
    s.Steps peer (.packet (.optionsAcknowledgement options))
      (t.negotiated {} transferSize remaining) := by
  -- the data handler is told the transfer size, if there is one
  obtain ⟨accepted, state, calls, heq, hcalls⟩ := h.offerTransferSize_called transferSize
  have hneg : Negotiation calls := by
    rcases hcalls with rfl | ⟨n, rfl⟩ <;> simp [Negotiation]
  have hc := h.called state calls
  simp only [negotiated, heq]
  cases accepted with
  | false =>
    refine steps_refuse (t := t.update (·.called state calls)) hc hview ?_ hblock _
    simpa [update, hactions] using hneg
  | true =>
    -- the option negotiation handler gets the other options
    obtain ⟨accepted, left, state', calls', heq', hcalls'⟩ :=
      (t.toOperationImpl.called state calls).optionNegotiation_called t.optionNegotiationHandlerV
        remaining
    have hneg' : Negotiation (calls ++ calls') := by
      intro a ha
      rcases List.mem_append.mp ha with ha | ha
      · exact hneg a ha
      · rcases hcalls' with ⟨rfl, -⟩ | ⟨-, rfl⟩
        · simp at ha
        · exact Or.inl ⟨remaining, List.mem_singleton.mp ha⟩
    have hc' := hc.called state' calls'
    have hact' : ((t.toOperationImpl.called state calls).called state' calls').actions =
        calls ++ calls' := by
      rw [called_actions, called_actions, hactions, List.nil_append]
    simp only [Bool.not_true, Bool.false_eq_true, if_false, heq']
    split_ifs with hrefused hleft
    · exact steps_refuse (t := (t.update (·.called state calls)).update (·.called state' calls'))
        hc' hview (by rw [← hact'] at hneg'; exact hneg') hblock _
    · exact steps_refuse (t := (t.update (·.called state calls)).update (·.called state' calls'))
        hc' hview (by rw [← hact'] at hneg'; exact hneg') hblock _
    · obtain ⟨hset, hphase, hact, hpacket, -, hsame⟩ :=
        hc'.sendAndReceive (.acknowledgement 0)
      refine ⟨hset, (ReceiverStep.negotiated (calls ++ calls') options t.receiveTimeoutV hneg'
        hblock).of_eq ?_ hphase ?_⟩
      · rw [hact'] at hact
        exact hact
      · have hv : ({ (t.update (·.called state calls)).update (·.called state' calls') with
            oackReceived := true }.update (·.send {} (.acknowledgement 0))
              |>.update (·.receive {})).view =
            t.view.sent (.acknowledgement 0) := by
          simp only [update, view, hpacket, hsame.reports, hsame.buffer, hsame.remote,
            hsame.timeout, hsame.retries]
          rfl
        refine hv.trans ?_
        rw [hview, hsize]
        rfl

theorem steps_optionsAcknowledgementPacket (h : s.Ready peer) (hactions : s.actions = [])
    (options : Options) :
    s.Steps peer (.packet (.optionsAcknowledgement options))
      (s.optionsAcknowledgementPacket {} options) := by
  have hdata : ∀ n data, Received.packet (.optionsAcknowledgement options) =
      .packet (.data n data) → n ≠ s.lastReceivedBlockNumber ∧
        (n = s.lastReceivedBlockNumber.next → data.length ≤ s.receiveDataSize.toNat →
          s.optionNegotiationHandlerV.isSome) := by
    rintro n data ⟨⟩
  have hnil : Negotiation s.actions := by simp [hactions, Negotiation]
  rw [optionsAcknowledgementPacket]
  split_ifs with hblock hempty
  · exact steps_illegal h hactions (by rintro _ _ ⟨⟩) hdata _
  · exact steps_illegal h hactions (by rintro _ _ ⟨⟩) hdata _
  · have hzero : s.lastReceivedBlockNumber = 0 := not_not.mp hblock
    cases hb : negotiateBlockSize s.optionsConfigurationV options with
    | error rejection => exact steps_refuse h rfl hnil hzero rejection
    | ok result =>
      obtain ⟨blockSize, remaining⟩ := result
      obtain ⟨rfl, -⟩ := negotiateBlockSize_ok hb
      dsimp only
      split
      · refine steps_refuse ?_ ?_ ?_ hzero _
        exacts [h, rfl, hnil]
      · have ht : ∀ timeout, ({ s.toOperationImpl with receiveTimeoutV := timeout }).Ready peer :=
          fun timeout => ⟨h.alive, h.connected, h.receives_nil⟩
        split
        · refine steps_refuse ?_ ?_ ?_ hzero _
          exacts [ht _, rfl, hnil]
        · refine steps_negotiated ?_ ?_ ?_ hzero ?_ _ _
          exacts [ht _, rfl, hactions, rfl]

/-- **An acceptable acknowledgement of options is accepted**, unless the data handler
refuses the transfer size. -/
theorem optionsAcknowledgementPacket_acceptable (h : s.Ready peer)
    (hblock : s.lastReceivedBlockNumber = 0) (hhandler : s.optionNegotiationHandlerV = none)
    {acknowledged : TftpOptions} (hrange : acknowledged.InRange)
    (hacc : Acceptable s.optionsConfigurationV s.optionsConfigurationV.handleTransferSizeOption
      acknowledged)
    (hset : (acknowledged.onto Protocol.SortedMap.empty).isEmpty = false)
    (hsize : ∀ size, acknowledged.transferSize = some size →
      (ReceiveDataHandler.receivedTransferSize s.dataHandlerV size).1 = true) :
    ∃ s', s' = s.optionsAcknowledgementPacket {} (acknowledged.onto Protocol.SortedMap.empty) ∧
      s'.phase = .waiting peer ∧
      s'.receiveDataSize = acknowledged.blockSize.getD s.receiveDataSize ∧
      s'.receiveTimeoutV =
        (acknowledged.timeout.map fun t : UInt8 => (t.toNat : ℤ)).getD s.receiveTimeoutV ∧
      ∃ calls, Negotiation calls ∧
        s'.actions = s.actions ++ calls ++ [.send (Packet.acknowledgement 0).encode peer] := by
  obtain ⟨m₁, m₂, m₃, hb, ht, hz, hempty⟩ := negotiate_acceptable hrange hacc
  have hready : ({ s.toOperationImpl with
      receiveTimeoutV := (acknowledged.timeout.map fun t : UInt8 => (t.toNat : ℤ)).getD
        s.receiveTimeoutV }).Ready peer := ⟨h.alive, h.connected, h.receives_nil⟩
  obtain ⟨accepted, state, calls, heq, hcalls⟩ :=
    hready.offerTransferSize_called acknowledged.transferSize
  obtain rfl : accepted = true :=
    (congrArg Prod.fst heq).symm.trans (hready.offerTransferSize_accepted hsize)
  obtain ⟨-, hphase, hact, -, -, hsame⟩ :=
    (hready.called state calls).sendAndReceive (.acknowledgement 0)
  have hneg : Negotiation calls := by
    rcases hcalls with rfl | ⟨n, rfl⟩ <;> simp [Negotiation]
  refine ⟨_, rfl, ?_⟩
  rw [optionsAcknowledgementPacket, if_neg (not_not.mpr hblock), hset, if_neg (by decide)]
  simp only [hb, ht, hz, negotiated, heq, hhandler, OperationImpl.optionNegotiation, hempty,
    Bool.not_true, Bool.false_eq_true, if_false]
  exact ⟨hphase, rfl, hsame.timeout, calls, hneg, hact⟩

/-- An ERROR packet ends the operation, and is not answered. -/
theorem steps_errorPacket (h : s.Ready peer) (hactions : s.actions = []) (errorCode : ErrorCode)
    (errorMessage : RawData) :
    s.Steps peer (.packet (.error errorCode errorMessage))
      (s.update (OperationImpl.errorPacket · errorCode errorMessage)) := by
  obtain ⟨status, hstatus, hstored, heq⟩ :=
    OperationImpl.errorPacket_eq s.toOperationImpl errorCode errorMessage
  rw [h.finished_eq] at heq
  have hw := settled_completed h.alive status (some (errorCode, errorMessage))
  rw [update, heq]
  refine ⟨hw.1, (ReceiverStep.failed (v := s.view) (.packet (.error errorCode errorMessage)) [] []
    status s.receiveDataSize s.receiveTimeoutV _ _ (by simp [Negotiation])
    (.reported errorCode errorMessage status hstatus hstored) (Or.inl ⟨Or.inl rfl, rfl, rfl⟩)
    (by rintro n data ⟨⟩)).of_eq ?_ hw.2 rfl⟩
  simp only [completed, hactions]
  rfl

instance : ReceivingOperation (ReadOperationImpl δ) δ where
  view := view
  view_withBase _ _ := rfl
  received_step s peer r h hactions := by
    cases r with
    | invalid => exact steps_illegal h hactions (by rintro _ _ ⟨⟩) (by rintro n data ⟨⟩) _
    | packet p =>
      cases p with
      | data n data => exact steps_dataPacket h hactions n data
      | optionsAcknowledgement options =>
        exact steps_optionsAcknowledgementPacket h hactions options
      | error errorCode errorMessage => exact steps_errorPacket h hactions errorCode errorMessage
      | readRequest | writeRequest | acknowledgement =>
        exact steps_illegal h hactions (by rintro _ _ ⟨⟩) (by rintro n data ⟨⟩) _

/-! ### The start -/

/-- What `request` does when no call fails. -/
theorem request_eq (h : s.Idle) :
    s.request {} = { s with
      toOperationImpl := OperationImpl.requested s.toOperationImpl
        (.readRequest s.filenameV s.modeV s.requestOptions)
      receiveDataSize := defaultDataSize
      lastReceivedBlockNumber := 0 } := by
  have hb := OperationImpl.initialise_eq h
  have hs := OperationImpl.sendFirst_eq (s := OperationImpl.opened s.toOperationImpl) h.alive rfl
    h.receives_nil (.readRequest s.filenameV s.modeV s.requestOptions)
  simp only [request, update, requestOptions, hb] at hs ⊢
  rw [hs]
  simp [OperationImpl.requested, OperationImpl.opened]

omit [ReceiveDataHandler δ] in
theorem idle_configured (settings : Settings δ) : (configured settings).Idle := ⟨rfl, rfl, rfl⟩

/-- A client that has sent its request starts as a receiver. -/
theorem receiverStart_request (h : s.Idle) (hactions : s.actions = []) :
    (s.request {}).Settled ∧
      ReceiverStart (s.request {}).actions (s.request {}).phase (s.request {}).view := by
  have hw := OperationImpl.settled_requested h.alive
    (.readRequest s.filenameV s.modeV s.requestOptions)
  have hreq : acknowledgementOf
      (Packet.readRequest s.filenameV s.modeV s.requestOptions).encode = none :=
    acknowledgementOf_eq_none (by simp [Packet.type])
  rw [request_eq h]
  refine ⟨hw.1, rfl, ?_, ?_, ?_, ?_, ?_⟩
  · simp [OperationImpl.requested, hactions, deliveries, Action.delivered]
  · refine acksFrom_of_silent ?_ _
    simp [OperationImpl.requested, hactions, Action.acknowledges, Action.onWire, hreq]
  · simp [OperationImpl.requested, hactions]
  · intro _ n hn
    exact absurd (hreq.symm.trans hn) (by simp)
  · intro peer
    rw [hw.2]
    rintro ⟨⟩

end Tftp.Clients.ReadOperationImpl
