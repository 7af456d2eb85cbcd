import Tftp.Clients.WriteOperation
import Tftp.Sender

/-!
# The client of a write is a sender

The handlers of `Tftp.Clients.WriteOperationImpl` do with every packet what
`Tftp.SenderStep` says, one lemma per handler. That an acknowledgement of options is
taken over whenever the last number acknowledged is `0xFFFF` is what the code does, not
what it means to do.
-/

namespace Tftp.Clients.WriteOperationImpl

open Tftp.OperationImpl

variable {δ : Type} {s : WriteOperationImpl δ} {peer : Endpoint}

/-- What the engine works on. -/
def view (s : WriteOperationImpl δ) : SenderView δ where
  transmitted := s.lastTransmittedBlockNumber
  received := s.lastReceivedBlockNumber
  dataSize := s.transmitDataSize
  timeout := s.receiveTimeoutV
  last := s.lastDataPacketTransmitted
  takesOptions := true
  negotiation := s.optionNegotiationHandlerV
  reports := s.completionHandlerV
  retries := s.tftpRetriesV
  packet := s.transmitPacketV
  counter := s.transmitCounterV
  buffer := s.receivePacketV
  remote := s.remoteV
  configuration := s.optionsConfigurationV
  transferSize := s.transferSize
  handler := s.dataHandlerV

variable [TransmitDataHandler δ]

/-- The outcome of the handlers, as `Tftp.SendingOperation` asks for it. -/
def Steps (s : WriteOperationImpl δ) (peer : Endpoint) (r : Received)
    (s' : WriteOperationImpl δ) : Prop :=
  s'.Settled ∧ SenderStep s.view peer r s'.actions s'.phase s'.view

/-- Sending the next block and waiting for its acknowledgement. -/
theorem sendData_receive (h : s.Ready peer) :
    ((s.sendData {}).update (·.receive {})).Settled ∧
      ((s.sendData {}).update (·.receive {})).phase = .waiting peer ∧
      ((s.sendData {}).update (·.receive {})).actions = s.actions ++ s.view.sending peer ∧
      ((s.sendData {}).update (·.receive {})).view = s.view.advanced := by
  have hc := h.called (TransmitDataHandler.sendData s.dataHandlerV s.transmitDataSize.toNat).2
    [.sendData s.transmitDataSize.toNat s.view.block]
  obtain ⟨hset, hphase, hact, hpacket, hhandler, hsame⟩ :=
    hc.sendAndReceive (.data s.lastTransmittedBlockNumber.next s.view.block)
  have hnext := h.nextData_eq s.transmitDataSize.toNat
  simp only [sendData, update, hnext]
  refine ⟨hset, hphase, ?_, ?_⟩
  · refine hact.trans ?_
    rw [called_actions, List.append_assoc]
    rfl
  · simp only [view, SenderView.block] at hpacket hhandler hsame ⊢
    simp only [SenderView.advanced, SenderView.block, hpacket, hhandler, hsame.timeout,
      hsame.reports, hsame.buffer, hsame.remote, hsame.retries]
    rfl

/-- Rejecting, after calls that may have changed the settings. -/
theorem steps_reject {t : WriteOperationImpl δ} {r : Received} (h : t.Ready peer)
    (hreports : t.completionHandlerV = s.completionHandlerV ∧ t.tftpRetriesV = s.tftpRetriesV)
    (htransmitted : t.lastTransmittedBlockNumber = s.lastTransmittedBlockNumber)
    (hlast : t.lastDataPacketTransmitted = s.lastDataPacketTransmitted)
    (hcalls : t.actions = [] ∨ ∃ options, t.actions = [.optionNegotiation options])
    (hsettings : t.actions = [] ∧ t.transmitDataSize = s.transmitDataSize ∧
      t.receiveTimeoutV = s.receiveTimeoutV ∨
        s.lastReceivedBlockNumber = 0xFFFF ∨ s.lastTransmittedBlockNumber = 0)
    (hpacket : ∀ code message, r ≠ .packet (.error code message))
    (hack : ∀ n, r = .packet (.acknowledgement n) → n ≠ s.lastReceivedBlockNumber ∧
      (n = s.lastTransmittedBlockNumber →
        s.lastTransmittedBlockNumber = 0 ∧ s.optionNegotiationHandlerV.isSome))
    (errorCode : ErrorCode) (errorMessage : String) {status : TransferStatus}
    (hstatus : status ≠ .successful)
    (hillegal : errorCode = .illegalTftpOperation ∧ status = .transferError ∨
      s.view.Negotiating r) :
    s.Steps peer r (t.update (·.reject {} errorCode errorMessage status)) := by
  obtain ⟨hset, hphase, hact, hstored, hsame⟩ := h.reject errorCode errorMessage status
  have hfailure : Failure peer s.view.packet s.view.counter (s.view.Negotiating r) r
      [.send (Packet.error errorCode (ascii errorMessage)).encode peer] status
      (t.update (·.reject {} errorCode errorMessage status)).view.packet
      (t.update (·.reject {} errorCode errorMessage status)).view.counter := by
    simp only [view, update, hstored]
    exact .rejected r errorCode (ascii errorMessage) status hpacket hstatus hillegal
  refine ⟨hset, (SenderStep.failed (v := s.view) r t.actions _ status
    (t.update (·.reject {} errorCode errorMessage status)).view hcalls hfailure
    (hsame.retries.trans hreports.2) htransmitted hlast ?_ hack).of_eq ?_ hphase rfl⟩
  · refine hsettings.imp_left fun hs => ⟨hs.1, hs.2.1, ?_⟩
    exact hsame.timeout.trans hs.2.2
  · rw [update, hact, ← List.append_assoc]
    simp only [completion, hreports.1]
    rfl

/-- Rejecting a packet that is no part of the negotiation, before anything else has
happened. -/
theorem steps_illegal {r : Received} (h : s.Ready peer) (hactions : s.actions = [])
    (hpacket : ∀ code message, r ≠ .packet (.error code message))
    (hack : ∀ n, r = .packet (.acknowledgement n) → n ≠ s.lastReceivedBlockNumber ∧
      (n = s.lastTransmittedBlockNumber →
        s.lastTransmittedBlockNumber = 0 ∧ s.optionNegotiationHandlerV.isSome))
    (errorMessage : String) :
    s.Steps peer r (s.update (·.reject {} .illegalTftpOperation errorMessage .transferError)) :=
  steps_reject h ⟨rfl, rfl⟩ rfl rfl (Or.inl hactions) (Or.inl ⟨hactions, rfl, rfl⟩) hpacket hack _ _
    (by decide) (Or.inl ⟨rfl, rfl⟩)

omit [TransmitDataHandler δ] in
/-- On the acknowledgement of block zero the option negotiation handler may be called. -/
theorem negotiateNone_called (s : WriteOperationImpl δ) (n : BlockNumber) :
    ∃ accepted state calls,
      s.negotiateNone n = (accepted, s.update (·.called state calls)) ∧
      (calls = [] ∧ accepted = true ∧ state = s.dataHandlerV ∨
        n = 0 ∧ (∃ g, s.optionNegotiationHandlerV = some g ∧
          state = (g s.dataHandlerV Protocol.SortedMap.empty).2.2) ∧
          calls = [.optionNegotiation Protocol.SortedMap.empty]) := by
  rw [negotiateNone]
  split_ifs with hzero
  · obtain ⟨accepted, remaining, state, calls, heq, hcalls⟩ :=
      s.toOperationImpl.optionNegotiation_called s.optionNegotiationHandlerV
        Protocol.SortedMap.empty
    rw [heq]
    refine ⟨accepted, state, calls, rfl, hcalls.imp (fun h => ⟨h.1, h.2.1, h.2.2.2⟩) ?_⟩
    rintro ⟨⟨g, hg, hstate⟩, rfl⟩
    exact ⟨hzero, ⟨g, hg, by rw [← hstate]⟩, rfl⟩
  · refine ⟨true, s.dataHandlerV, [], ?_, Or.inl ⟨rfl, rfl, rfl⟩⟩
    rw [update, called_nil]

theorem steps_acknowledgementPacket (h : s.Ready peer) (hactions : s.actions = [])
    (n : BlockNumber) :
    s.Steps peer (.packet (.acknowledgement n)) (s.acknowledgementPacket {} n) := by
  rw [acknowledgementPacket]
  split_ifs with hrep hwrong
  · -- a repetition
    subst hrep
    have hw := h.settled_awaiting s.receiveTimeoutV
    rw [update, h.receive_eq]
    exact ⟨hw.1, SenderStep.repeated.of_eq hactions hw.2 rfl⟩
  · refine steps_illegal h hactions (by rintro _ _ ⟨⟩) ?_ _
    rintro n' heq
    cases heq
    exact ⟨hrep, fun hn => absurd hn hwrong⟩
  · obtain rfl : n = s.lastTransmittedBlockNumber := not_not.mp hwrong
    obtain ⟨accepted, state, calls, heq, hcalls⟩ := negotiateNone_called
      { s with lastReceivedBlockNumber := s.lastTransmittedBlockNumber }
      s.lastTransmittedBlockNumber
    have hc := h.called state calls
    simp only [heq]
    cases accepted with
    | false =>
      obtain ⟨hzero, ⟨g, hg, -⟩, rfl⟩ := hcalls.resolve_left (by simp)
      simp only [Bool.not_false, if_true]
      have hsome : s.optionNegotiationHandlerV.isSome := by
        rw [show s.optionNegotiationHandlerV = some g from hg]
        rfl
      refine steps_reject (s := s) (t := ({ s with
        lastReceivedBlockNumber := s.lastTransmittedBlockNumber }).update (·.called state
          [.optionNegotiation Protocol.SortedMap.empty])) hc ?_ ?_ ?_
        (Or.inr ⟨Protocol.SortedMap.empty, ?_⟩) (Or.inr (Or.inr hzero)) (by rintro _ _ ⟨⟩) ?_ _ _ ?_
        (Or.inr (Or.inl ⟨hsome, _, rfl⟩))
      · exact ⟨rfl, rfl⟩
      iterate 2 rfl
      · simp [update, OperationImpl.called, hactions]
      · rintro n' heq'
        cases heq'
        exact ⟨hrep, fun _ => ⟨hzero, hsome⟩⟩
      · decide
    | true =>
      have hcalls' : s.view.Acknowledged calls state :=
        hcalls.imp (fun h => ⟨h.1, h.2.2⟩) fun h => ⟨h.1, Or.inr h.2⟩
      simp only [Bool.not_true, Bool.false_eq_true, if_false]
      split_ifs with hlast
      · -- the end of the file
        have hw := settled_completed hc.alive .successful none
        simp only [update, hc.finished_eq]
        refine ⟨hw.1, (SenderStep.completed (v := s.view) calls state hcalls' hrep hlast).of_eq ?_
          hw.2 rfl⟩
        simp only [completed, called_actions, hactions]
        rfl
      · obtain ⟨hset, hphase, hact, hview⟩ := sendData_receive (s := ({ s with
          lastReceivedBlockNumber := s.lastTransmittedBlockNumber }).update
            (·.called state calls)) hc
        refine ⟨hset, (SenderStep.next (v := s.view) calls state hcalls' hrep
          (Bool.eq_false_of_not_eq_true hlast)).of_eq ?_ hphase hview⟩
        rw [hact, update, called_actions, hactions, List.nil_append]
        rfl

/-- An ERROR packet ends the operation, and is not answered. -/
theorem steps_errorPacket (h : s.Ready peer) (hactions : s.actions = []) (errorCode : ErrorCode)
    (errorMessage : RawData) :
    s.Steps peer (.packet (.error errorCode errorMessage))
      (s.update (OperationImpl.errorPacket · errorCode errorMessage)) := by
  obtain ⟨status, hstatus, hstored, heq⟩ :=
    OperationImpl.errorPacket_eq s.toOperationImpl errorCode errorMessage
  rw [h.finished_eq] at heq
  have hw := settled_completed h.alive status (some (errorCode, errorMessage))
  rw [update, heq]
  refine ⟨hw.1, (SenderStep.failed (v := s.view) _ [] [] status
    (view { s with toOperationImpl := s.completed status (some (errorCode, errorMessage)) })
    (Or.inl rfl) (.reported errorCode errorMessage status hstatus hstored) rfl rfl rfl
    (Or.inl ⟨rfl, rfl, rfl⟩) (by rintro n ⟨⟩)).of_eq ?_ hw.2 rfl⟩
  simp only [completed, hactions]
  rfl

/-- Rejecting an acknowledgement of options. -/
theorem steps_refuse {t : WriteOperationImpl δ} {options : Options} (h : t.Ready peer)
    (hreports : t.completionHandlerV = s.completionHandlerV ∧ t.tftpRetriesV = s.tftpRetriesV)
    (htransmitted : t.lastTransmittedBlockNumber = s.lastTransmittedBlockNumber)
    (hlast : t.lastDataPacketTransmitted = s.lastDataPacketTransmitted)
    (hcalls : t.actions = [] ∨ ∃ options, t.actions = [.optionNegotiation options])
    (hreceived : s.lastReceivedBlockNumber = 0xFFFF) (rejection : Rejection) :
    s.Steps peer (.packet (.optionsAcknowledgement options)) (t.refuse {} rejection) :=
  steps_reject h hreports htransmitted hlast hcalls (Or.inr (Or.inl hreceived)) (by rintro _ _ ⟨⟩)
    (by rintro n ⟨⟩) rejection.errorCode rejection.errorMessage (by decide)
    (Or.inr (Or.inr ⟨rfl, hreceived, _, rfl⟩))

/-- The end of the negotiation, in a state `t` that has taken over the values. -/
theorem steps_negotiated {t : WriteOperationImpl δ} {options : Options} (h : t.Ready peer)
    (hview : t.view = s.view.negotiated t.transmitDataSize t.receiveTimeoutV s.dataHandlerV)
    (hactions : t.actions = []) (hreceived : s.lastReceivedBlockNumber = 0xFFFF)
    (hsize : t.transmitDataSize = ((options.getOption 16 (tftpOptionsName .blockSize)
      blockSizeOptionMin blockSizeOptionMax).1.2.map UInt16.ofNat).getD s.transmitDataSize)
    (transferSize : Option UInt64) (remaining : Options) :
    s.Steps peer (.packet (.optionsAcknowledgement options))
      (t.negotiated {} transferSize remaining) := by
  have hreports : t.completionHandlerV = s.completionHandlerV ∧
      t.tftpRetriesV = s.tftpRetriesV :=
    ⟨congrArg SenderView.reports hview, congrArg SenderView.retries hview⟩
  have htransmitted : t.lastTransmittedBlockNumber = s.lastTransmittedBlockNumber :=
    congrArg SenderView.transmitted hview
  have hlast : t.lastDataPacketTransmitted = s.lastDataPacketTransmitted :=
    congrArg SenderView.last hview
  have hneg : t.optionNegotiationHandlerV = s.optionNegotiationHandlerV :=
    congrArg SenderView.negotiation hview
  have hhandler : t.dataHandlerV = s.dataHandlerV := congrArg SenderView.handler hview
  rw [negotiated]
  split_ifs with hsizeRefused
  · exact steps_refuse h hreports htransmitted hlast (Or.inl hactions) hreceived _
  · obtain ⟨accepted, left, state, calls, heq, hcalls⟩ :=
      t.toOperationImpl.optionNegotiation_called t.optionNegotiationHandlerV remaining
    have hc := h.called state calls
    have hcalled : s.view.Consulted remaining calls state := by
      rcases hcalls with ⟨rfl, -, -, rfl⟩ | ⟨⟨g, hg, hstate⟩, rfl⟩
      · exact Or.inl ⟨rfl, hhandler⟩
      · refine Or.inr ⟨⟨g, hneg.symm.trans hg, ?_⟩, rfl⟩
        rw [show s.view.handler = t.dataHandlerV from hhandler.symm, ← hstate]
    have hact : (t.toOperationImpl.called state calls).actions = calls := by
      rw [called_actions, hactions, List.nil_append]
    have honly : (t.toOperationImpl.called state calls).actions = [] ∨
        ∃ options, (t.toOperationImpl.called state calls).actions =
          [.optionNegotiation options] := by
      rw [hact]
      rcases hcalls with ⟨rfl, -⟩ | ⟨-, rfl⟩
      · exact Or.inl rfl
      · exact Or.inr ⟨remaining, rfl⟩
    simp only [heq]
    split_ifs with hrefused hleft
    · exact steps_refuse (t := t.update (·.called state calls)) hc hreports htransmitted hlast
        honly hreceived _
    · exact steps_refuse (t := t.update (·.called state calls)) hc hreports htransmitted hlast
        honly hreceived _
    · obtain ⟨hset, hphase, ha, hv⟩ := sendData_receive (s := t.update (·.called state calls)) hc
      have hview' : (t.update (·.called state calls)).view =
          s.view.negotiated t.transmitDataSize t.receiveTimeoutV state := by
        have : (t.update (·.called state calls)).view = { t.view with handler := state } := rfl
        rw [this, hview]
        rfl
      rw [hview'] at ha hv
      refine ⟨hset, (SenderStep.negotiated calls state options remaining t.transmitDataSize
        t.receiveTimeoutV rfl hreceived hcalled hsize).of_eq ?_ hphase hv⟩
      rwa [show (t.update (·.called state calls)).actions = calls from hact] at ha

theorem steps_optionsAcknowledgementPacket (h : s.Ready peer) (hactions : s.actions = [])
    (options : Options) :
    s.Steps peer (.packet (.optionsAcknowledgement options))
      (s.optionsAcknowledgementPacket {} options) := by
  have hack : ∀ n, Received.packet (.optionsAcknowledgement options) =
      .packet (.acknowledgement n) → n ≠ s.lastReceivedBlockNumber ∧
        (n = s.lastTransmittedBlockNumber →
          s.lastTransmittedBlockNumber = 0 ∧ s.optionNegotiationHandlerV.isSome) := by
    rintro n ⟨⟩
  rw [optionsAcknowledgementPacket]
  split_ifs with hguard hempty
  · exact steps_illegal h hactions (by rintro _ _ ⟨⟩) hack _
  · exact steps_illegal h hactions (by rintro _ _ ⟨⟩) hack _
  · have hreceived : s.lastReceivedBlockNumber = 0xFFFF := not_not.mp hguard
    cases hb : negotiateBlockSize s.optionsConfigurationV options with
    | error rejection =>
      exact steps_refuse h ⟨rfl, rfl⟩ rfl rfl (Or.inl hactions) hreceived rejection
    | ok result =>
      obtain ⟨blockSize, remaining⟩ := result
      obtain ⟨rfl, -⟩ := negotiateBlockSize_ok hb
      have ht : ∀ timeout, ({ s.toOperationImpl with receiveTimeoutV := timeout }).Ready peer :=
        fun timeout => ⟨h.alive, h.connected, h.receives_nil⟩
      dsimp only
      split
      · refine steps_refuse (s := s) ?_ ?_ ?_ ?_ ?_ hreceived _
        exacts [h, ⟨rfl, rfl⟩, rfl, rfl, Or.inl hactions]
      · split
        · refine steps_refuse (s := s) ?_ ?_ ?_ ?_ ?_ hreceived _
          exacts [ht _, ⟨rfl, rfl⟩, rfl, rfl, Or.inl hactions]
        · refine steps_negotiated (s := s) ?_ ?_ ?_ hreceived ?_ _ _
          exacts [ht _, rfl, hactions, rfl]

/-- **An acceptable acknowledgement of options is accepted.** -/
theorem optionsAcknowledgementPacket_acceptable (h : s.Ready peer)
    (hreceived : s.lastReceivedBlockNumber = 0xFFFF) (hhandler : s.optionNegotiationHandlerV = none)
    {acknowledged : TftpOptions} (hrange : acknowledged.InRange)
    (hacc : Acceptable s.optionsConfigurationV
      (s.optionsConfigurationV.handleTransferSizeOption && s.transferSize.isSome) acknowledged)
    (hset : (acknowledged.onto Protocol.SortedMap.empty).isEmpty = false)
    (hsize : ∀ size, acknowledged.transferSize = some size → s.transferSize = some size) :
    ∃ s', s' = s.optionsAcknowledgementPacket {} (acknowledged.onto Protocol.SortedMap.empty) ∧
      s'.phase = .waiting peer ∧
      s'.transmitDataSize = acknowledged.blockSize.getD s.transmitDataSize ∧
      s'.receiveTimeoutV =
        (acknowledged.timeout.map fun t : UInt8 => (t.toNat : ℤ)).getD s.receiveTimeoutV ∧
      ∃ size data, s'.actions = s.actions ++ [.sendData size data,
        .send (Packet.data s.lastTransmittedBlockNumber.next data).encode peer] := by
  obtain ⟨m₁, m₂, m₃, hb, ht, hz, hempty⟩ := negotiate_acceptable hrange hacc
  have hsame :
      ¬ (acknowledged.transferSize.isSome ∧ acknowledged.transferSize ≠ s.transferSize) := by
    rintro ⟨hsome, hne⟩
    obtain ⟨size, heq⟩ := Option.isSome_iff_exists.mp hsome
    exact hne (heq.trans (hsize size heq).symm)
  have hready : ({ s.toOperationImpl with
      receiveTimeoutV := (acknowledged.timeout.map fun t : UInt8 => (t.toNat : ℤ)).getD
        s.receiveTimeoutV }).Ready peer := ⟨h.alive, h.connected, h.receives_nil⟩
  obtain ⟨-, hphase, hact, hview⟩ := sendData_receive (s := { s with
    transmitDataSize := acknowledged.blockSize.getD s.transmitDataSize
    receiveTimeoutV := (acknowledged.timeout.map fun t : UInt8 => (t.toNat : ℤ)).getD
      s.receiveTimeoutV }) hready
  refine ⟨_, rfl, ?_⟩
  rw [optionsAcknowledgementPacket, if_neg (not_not.mpr hreceived), hset, if_neg (by decide)]
  simp only [hb, ht, hz, negotiated, if_neg hsame, hhandler, OperationImpl.optionNegotiation,
    hempty, Bool.not_true, Bool.false_eq_true, if_false]
  exact ⟨hphase, congrArg SenderView.dataSize hview, congrArg SenderView.timeout hview, _, _, hact⟩

instance : SendingOperation (WriteOperationImpl δ) δ where
  view := view
  view_withBase _ _ := rfl
  received_step s peer r h hactions := by
    cases r with
    | invalid => exact steps_illegal h hactions (by rintro _ _ ⟨⟩) (by rintro n ⟨⟩) _
    | packet p =>
      cases p with
      | acknowledgement n => exact steps_acknowledgementPacket h hactions n
      | optionsAcknowledgement options =>
        exact steps_optionsAcknowledgementPacket h hactions options
      | error errorCode errorMessage => exact steps_errorPacket h hactions errorCode errorMessage
      | readRequest | writeRequest | data =>
        exact steps_illegal h hactions (by rintro _ _ ⟨⟩) (by rintro n ⟨⟩) _

/-! ### The start -/

/-- The transfer size that is announced, the data handler afterwards, and the calls made. -/
def announced (s : WriteOperationImpl δ) : Option UInt64 × δ × List Action :=
  if s.optionsConfigurationV.handleTransferSizeOption then
    ((TransmitDataHandler.requestedTransferSize (DataHandler.start s.dataHandlerV)).1,
      (TransmitDataHandler.requestedTransferSize (DataHandler.start s.dataHandlerV)).2,
      [.requestedTransferSize])
  else (none, DataHandler.start s.dataHandlerV, [])

/-- The options of the request. -/
def requestOptions (s : WriteOperationImpl δ) : Options :=
  let options := Clients.requestOptions s.additionalOptionsV s.optionsConfigurationV
  match s.announced.1 with
  | some size => options.emplace (tftpOptionsName .transferSize) (stdToString size.toNat)
  | none => options

/-- The operation is about to send its request. -/
def prepared (s : WriteOperationImpl δ) : WriteOperationImpl δ :=
  { s with
    toOperationImpl := (OperationImpl.opened s.toOperationImpl).called s.announced.2.1
      s.announced.2.2
    transmitDataSize := defaultDataSize
    lastDataPacketTransmitted := false
    lastTransmittedBlockNumber := 0
    lastReceivedBlockNumber := 0xFFFF
    transferSize := if s.optionsConfigurationV.handleTransferSizeOption then s.announced.1
      else s.transferSize }

/-- The operation has sent its request. -/
def requested (s : WriteOperationImpl δ) : WriteOperationImpl δ :=
  { s.prepared with
    transmitCounterV := 1
    transmitPacketV := (Packet.writeRequest s.filenameV s.modeV s.requestOptions).encode
    receives := [.receiveFirstHandler]
    timerV := some (.timeoutFirstHandler, s.receiveTimeoutV)
    actions := s.prepared.actions ++
      [.send (Packet.writeRequest s.filenameV s.modeV s.requestOptions).encode s.remoteV] }

theorem sendRequest_prepared (h : s.Idle) :
    s.prepared.sendRequest {} s.requestOptions = s.requested := by
  have hs := OperationImpl.sendFirst_eq (s := s.prepared.toOperationImpl) h.alive rfl
    h.receives_nil (.writeRequest s.filenameV s.modeV s.requestOptions)
  exact congrArg (fun b => { s.prepared with toOperationImpl := b }) hs

/-- What `request` does when no call fails. -/
theorem request_eq (h : s.Idle) : s.request {} = s.requested := by
  have hb := OperationImpl.initialise_eq h
  have halive : (OperationImpl.opened s.toOperationImpl).terminated = false := h.alive
  rw [← sendRequest_prepared h]
  cases hhandle : s.optionsConfigurationV.handleTransferSizeOption with
  | false =>
    have hnil := called_nil (s := OperationImpl.opened s.toOperationImpl)
    have hann : s.announced = (none, DataHandler.start s.dataHandlerV, []) := by
      simp [announced, hhandle]
    simp only [request, update, hb, hhandle, Bool.false_eq_true, if_false, requestOptions, prepared,
      hann]
    exact congrArg (fun b => sendRequest { s with
      toOperationImpl := b
      transmitDataSize := defaultDataSize
      lastDataPacketTransmitted := false
      lastTransmittedBlockNumber := 0
      lastReceivedBlockNumber := 0xFFFF } {}
        (Clients.requestOptions s.additionalOptionsV s.optionsConfigurationV)) hnil.symm
  | true =>
    simp only [request, update, hb, hhandle, if_true]
    generalize hres : @OperationImpl.requestedTransferSize δ _ _ = result
    obtain rfl : (s.announced.1, s.prepared.toOperationImpl) = result := by
      simp only [prepared, announced, hhandle, if_true]
      exact (requestedTransferSize_eq halive).symm.trans hres
    simp only [requestOptions, prepared, hhandle, if_true]
    cases s.announced.1 <;> rfl

omit [TransmitDataHandler δ] in
theorem idle_configured (settings : Settings δ) : (configured settings).Idle := ⟨rfl, rfl, rfl⟩

end Tftp.Clients.WriteOperationImpl
