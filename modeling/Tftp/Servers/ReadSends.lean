import Tftp.Servers.ReadOperation
import Tftp.Sender

/-!
# The server of a read is a sender

The handlers of `Tftp.Servers.ReadOperationImpl` do with every packet what
`Tftp.SenderStep` says. An acknowledgement of options is sent by this side, so there is
none to take over.
-/

namespace Tftp.Servers.ReadOperationImpl

open Tftp.OperationImpl

variable {δ : Type} {s : ReadOperationImpl δ} {peer : Endpoint}

/-- What the engine works on. -/
def view (s : ReadOperationImpl δ) : SenderView δ where
  transmitted := s.lastTransmittedBlockNumber
  received := s.lastReceivedBlockNumber
  dataSize := s.transmitDataSize
  timeout := s.receiveTimeoutV
  last := s.lastDataPacketTransmitted
  takesOptions := false
  negotiation := none
  reports := s.completionHandlerV
  retries := s.tftpRetriesV
  packet := s.transmitPacketV
  counter := s.transmitCounterV
  buffer := s.receivePacketV
  remote := s.remoteV
  configuration := s.optionsConfigurationV
  transferSize := none
  handler := s.dataHandlerV

variable [TransmitDataHandler δ]

/-- The outcome of the handlers, as `Tftp.SendingOperation` asks for it. -/
def Steps (s : ReadOperationImpl δ) (peer : Endpoint) (r : Received)
    (s' : ReadOperationImpl δ) : Prop :=
  s'.Settled ∧ SenderStep s.view peer r s'.actions s'.phase s'.view

/-- Sending the next block and waiting for its acknowledgement. -/
theorem sendData_receive (h : s.Ready peer) :
    ((s.sendData {}).update (·.receive {})).Settled ∧
      ((s.sendData {}).update (·.receive {})).phase = .waiting peer ∧
      ((s.sendData {}).update (·.receive {})).actions = s.actions ++ s.view.sending peer ∧
      ((s.sendData {}).update (·.receive {})).view = s.view.advanced := by
  have hc := h.called (TransmitDataHandler.sendData s.dataHandlerV s.transmitDataSize.toNat).2
    [.sendData s.transmitDataSize.toNat s.view.block]
  obtain ⟨hset, hphase, hact, hpacket, hhandler, hsame⟩ :=
    hc.sendAndReceive (.data s.lastTransmittedBlockNumber.next s.view.block)
  have hnext := h.nextData_eq s.transmitDataSize.toNat
  simp only [sendData, update, hnext]
  refine ⟨hset, hphase, ?_, ?_⟩
  · refine hact.trans ?_
    rw [called_actions, List.append_assoc]
    rfl
  · simp only [view, SenderView.block] at hpacket hhandler hsame ⊢
    simp only [SenderView.advanced, SenderView.block, hpacket, hhandler, hsame.timeout,
      hsame.reports, hsame.buffer, hsame.remote, hsame.retries]
    rfl

theorem steps_reject {r : Received} (h : s.Ready peer) (hactions : s.actions = [])
    (hpacket : ∀ code message, r ≠ .packet (.error code message))
    (hack : ∀ n, r = .packet (.acknowledgement n) → n ≠ s.lastReceivedBlockNumber ∧
      n ≠ s.lastTransmittedBlockNumber)
    (errorMessage : String) :
    s.Steps peer r (s.update (·.reject {} .illegalTftpOperation errorMessage .transferError)) := by
  obtain ⟨hset, hphase, hact, hstored, hsame⟩ :=
    h.reject .illegalTftpOperation errorMessage .transferError
  have hfailure : Failure peer s.view.packet s.view.counter (s.view.Negotiating r) r
      [.send (Packet.error .illegalTftpOperation (ascii errorMessage)).encode peer] .transferError
      (s.update (·.reject {} .illegalTftpOperation errorMessage .transferError)).view.packet
      (s.update (·.reject {} .illegalTftpOperation errorMessage .transferError)).view.counter := by
    simp only [view, update, hstored]
    exact .rejected r .illegalTftpOperation (ascii errorMessage) _ hpacket (by decide)
      (Or.inl ⟨rfl, rfl⟩)
  rw [hactions, List.nil_append] at hact
  refine ⟨hset, (SenderStep.failed (v := s.view) r [] _ .transferError
    (s.update (·.reject {} .illegalTftpOperation errorMessage .transferError)).view (Or.inl rfl)
    hfailure hsame.retries rfl rfl (Or.inl ⟨rfl, rfl, hsame.timeout⟩) ?_).of_eq hact hphase rfl⟩
  intro n hn
  exact ⟨(hack n hn).1, fun heq => absurd heq (hack n hn).2⟩

theorem steps_acknowledgementPacket (h : s.Ready peer) (hactions : s.actions = [])
    (n : BlockNumber) :
    s.Steps peer (.packet (.acknowledgement n)) (s.acknowledgementPacket {} n) := by
  rw [acknowledgementPacket]
  split_ifs with hrep hwrong
  · -- a repetition
    subst hrep
    have hw := h.settled_awaiting s.receiveTimeoutV
    rw [update, h.receive_eq]
    exact ⟨hw.1, SenderStep.repeated.of_eq hactions hw.2 rfl⟩
  · refine steps_reject h hactions (by rintro _ _ ⟨⟩) ?_ _
    rintro n' heq
    cases heq
    exact ⟨hrep, hwrong⟩
  · obtain rfl : n = s.lastTransmittedBlockNumber := not_not.mp hwrong
    dsimp only
    split_ifs with hlast
    · -- the end of the file
      have hw := settled_completed h.alive .successful none
      simp only [update, h.finished_eq]
      refine ⟨hw.1, (SenderStep.completed (v := s.view) [] s.dataHandlerV (Or.inl ⟨rfl, rfl⟩) hrep
        hlast).of_eq ?_ hw.2 rfl⟩
      simp only [completed, hactions]
      rfl
    · obtain ⟨hset, hphase, hact, hview⟩ := sendData_receive
        (s := { s with lastReceivedBlockNumber := s.lastTransmittedBlockNumber }) h
      refine ⟨hset, (SenderStep.next (v := s.view) [] s.dataHandlerV (Or.inl ⟨rfl, rfl⟩) hrep
        (Bool.eq_false_of_not_eq_true hlast)).of_eq ?_ hphase hview⟩
      rw [hact, hactions]
      rfl

/-- An ERROR packet ends the operation, and is not answered. -/
theorem steps_errorPacket (h : s.Ready peer) (hactions : s.actions = []) (errorCode : ErrorCode)
    (errorMessage : RawData) :
    s.Steps peer (.packet (.error errorCode errorMessage))
      (s.update (OperationImpl.errorPacket · errorCode errorMessage)) := by
  obtain ⟨status, hstatus, hstored, heq⟩ :=
    OperationImpl.errorPacket_eq s.toOperationImpl errorCode errorMessage
  rw [h.finished_eq] at heq
  have hw := settled_completed h.alive status (some (errorCode, errorMessage))
  rw [update, heq]
  refine ⟨hw.1, (SenderStep.failed (v := s.view) _ [] [] status
    (view { s with toOperationImpl := s.completed status (some (errorCode, errorMessage)) })
    (Or.inl rfl) (.reported errorCode errorMessage status hstatus hstored) rfl rfl rfl
    (Or.inl ⟨rfl, rfl, rfl⟩) (by rintro n ⟨⟩)).of_eq ?_ hw.2 rfl⟩
  simp only [completed, hactions]
  rfl

instance : SendingOperation (ReadOperationImpl δ) δ where
  view := view
  view_withBase _ _ := rfl
  received_step s peer r h hactions := by
    cases r with
    | invalid => exact steps_reject h hactions (by rintro _ _ ⟨⟩) (by rintro n ⟨⟩) _
    | packet p =>
      cases p with
      | acknowledgement n => exact steps_acknowledgementPacket h hactions n
      | error errorCode errorMessage => exact steps_errorPacket h hactions errorCode errorMessage
      | readRequest | writeRequest | data | optionsAcknowledgement =>
        exact steps_reject h hactions (by rintro _ _ ⟨⟩) (by rintro n ⟨⟩) _

/-! ### The start -/

/-- The transfer size in the request, if it is handled. -/
def offeredTransferSize (s : ReadOperationImpl δ) : Option UInt64 :=
  if s.optionsConfigurationV.handleTransferSizeOption then s.clientOptionsV.transferSize else none

/-- What the data handler announces as the transfer size, the data handler afterwards, and
the calls made. -/
def announced (s : ReadOperationImpl δ) : Option UInt64 × δ × List Action :=
  match s.offeredTransferSize with
  | some _ =>
      ((TransmitDataHandler.requestedTransferSize (DataHandler.start s.dataHandlerV)).1,
        (TransmitDataHandler.requestedTransferSize (DataHandler.start s.dataHandlerV)).2,
        [.requestedTransferSize])
  | none => (none, DataHandler.start s.dataHandlerV, [])

/-- The options that are acknowledged. -/
def acknowledgedOptions (s : ReadOperationImpl δ) : Options :=
  let options :=
    serverOptions s.additionalNegotiatedOptionsV s.optionsConfigurationV s.clientOptionsV
  match s.announced.1 with
  | some size => options.emplace (tftpOptionsName .transferSize) (stdToString size.toNat)
  | none => options

/-- The receive timeout after the negotiation. -/
def negotiatedReceiveTimeout (s : ReadOperationImpl δ) : ℤ :=
  ((negotiatedTimeout s.optionsConfigurationV s.clientOptionsV).map
    fun t : UInt8 => (t.toNat : ℤ)).getD s.receiveTimeoutV

/-- The operation has accepted the request, and is about to answer. -/
def accepted (s : ReadOperationImpl δ) : ReadOperationImpl δ :=
  { s with
    toOperationImpl := (OperationImpl.connected s.toOperationImpl s.negotiatedReceiveTimeout).called
      s.announced.2.1 s.announced.2.2
    transmitDataSize := (negotiatedBlockSize s.optionsConfigurationV s.clientOptionsV).getD
      s.transmitDataSize }

theorem ready_accepted (h : s.Idle) : s.accepted.Ready s.remoteV :=
  (OperationImpl.ready_connected h _).called _ _

/-- Whether the request announces the size of the file, which only the server knows. -/
def refuses (s : ReadOperationImpl δ) : Bool :=
  match s.offeredTransferSize with
  | some size => decide (size ≠ 0)
  | none => false

/-- The request is refused, because a client must not announce the size of the file that
it wants to read. -/
def refused (s : ReadOperationImpl δ) : ReadOperationImpl δ :=
  { s with
    toOperationImpl := (OperationImpl.connected s.toOperationImpl s.negotiatedReceiveTimeout).reject
      {} .tftpOptionRefused "transfer size must be 0" .transferError
    transmitDataSize := (negotiatedBlockSize s.optionsConfigurationV s.clientOptionsV).getD
      s.transmitDataSize }

theorem accepted_of_none (hoff : s.offeredTransferSize = none) :
    s.accepted = { s with
      toOperationImpl := OperationImpl.connected s.toOperationImpl s.negotiatedReceiveTimeout
      transmitDataSize := (negotiatedBlockSize s.optionsConfigurationV s.clientOptionsV).getD
        s.transmitDataSize } := by
  have hnil := called_nil
    (s := OperationImpl.connected s.toOperationImpl s.negotiatedReceiveTimeout)
  simp only [accepted, announced, hoff]
  exact congrArg (fun b => { s with
    toOperationImpl := b
    transmitDataSize := (negotiatedBlockSize s.optionsConfigurationV s.clientOptionsV).getD
      s.transmitDataSize }) hnil

/-- What the negotiation does when no call fails. -/
theorem negotiate_eq (h : s.Idle) :
    ({ s with toOperationImpl := OperationImpl.connected s.toOperationImpl s.receiveTimeoutV } :
      ReadOperationImpl δ).negotiate {} =
      if s.refuses then s.refused
      else s.accepted.answer {} s.acknowledgedOptions := by
  have hr := OperationImpl.ready_connected h s.negotiatedReceiveTimeout
  cases hhandle : s.optionsConfigurationV.handleTransferSizeOption with
  | false =>
    have hoff : s.offeredTransferSize = none := by simp [offeredTransferSize, hhandle]
    rw [if_neg (by simp [refuses, hoff]), accepted_of_none hoff]
    simp only [negotiate, hhandle, acknowledgedOptions, announced, hoff]
    rfl
  | true =>
    have hoff : s.offeredTransferSize = s.clientOptionsV.transferSize := by
      simp [offeredTransferSize, hhandle]
    cases hsize : s.clientOptionsV.transferSize with
    | none =>
      rw [hsize] at hoff
      rw [if_neg (by simp [refuses, hoff]), accepted_of_none hoff]
      simp only [negotiate, hhandle, hsize, acknowledgedOptions, announced, hoff]
      rfl
    | some size =>
      rw [hsize] at hoff
      by_cases hzero : size = 0
      · rw [if_neg (by simp [refuses, hoff, hzero])]
        simp only [negotiate, hhandle, hsize, hzero, ne_eq, not_true_eq_false, if_false]
        generalize hres : @OperationImpl.requestedTransferSize δ _ _ = result
        obtain rfl : (s.announced.1, s.accepted.toOperationImpl) = result := by
          simp only [accepted, announced, hoff]
          exact (requestedTransferSize_eq hr.alive).symm.trans hres
        simp only [acknowledgedOptions]
        cases s.announced.1 <;> rfl
      · rw [if_pos (by simp [refuses, hoff, hzero])]
        simp only [negotiate, hhandle, hsize, ne_eq, hzero, not_false_eq_true, if_true]
        rfl

/-- What `start` does when no call fails. -/
theorem start_eq (h : s.Idle) :
    s.start {} =
      if s.refuses then s.refused
      else s.accepted.answer {} s.acknowledgedOptions := by
  have hb := OperationImpl.initialise_eq h
  by_cases hset : s.clientOptionsV.isSet = false ∧ s.additionalNegotiatedOptionsV.isEmpty = true
  · -- without any option the answer is the first block
    obtain ⟨hblock, htimeout, hsize⟩ := isSet_eq_false hset.1
    have hoff : s.offeredTransferSize = none := by
      simp [offeredTransferSize, hsize]
    have hack : s.acknowledgedOptions = s.additionalNegotiatedOptionsV := by
      simp only [acknowledgedOptions, serverOptions_of_isSet hset.1, announced, hoff]
    have htime : s.negotiatedReceiveTimeout = s.receiveTimeoutV := by
      simp [negotiatedReceiveTimeout, negotiatedTimeout_none htimeout]
    rw [if_neg (by simp [refuses, hoff]), accepted_of_none hoff, htime,
      negotiatedBlockSize_none hblock, hack]
    simp only [start, update, hb, answer, hset.1, hset.2, Bool.not_false, Bool.not_true,
      Bool.and_true, Bool.false_eq_true, if_true, if_false, Option.getD_none]
  · have hcond : (!s.clientOptionsV.isSet && s.additionalNegotiatedOptionsV.isEmpty) = false := by
      simpa using hset
    simp only [start, update, hb, hcond, Bool.false_eq_true, if_false]
    exact negotiate_eq h

/-- The request is refused. -/
theorem start_refused (h : s.Idle) (hrefuses : s.refuses = true) :
    (s.start {}).Settled ∧ (s.start {}).phase = .done ∧
      (s.start {}).actions = s.actions ++ .start :: .send (Packet.error .tftpOptionRefused
        (ascii "transfer size must be 0")).encode s.remoteV :: s.completion .transferError ∧
      (s.start {}).lastTransmittedBlockNumber = s.lastTransmittedBlockNumber ∧
      (s.start {}).lastDataPacketTransmitted = s.lastDataPacketTransmitted := by
  obtain ⟨hset, hphase, hact, -⟩ :=
    (OperationImpl.ready_connected h s.negotiatedReceiveTimeout).reject .tftpOptionRefused
      "transfer size must be 0" .transferError
  rw [start_eq h, if_pos hrefuses]
  refine ⟨hset, hphase, hact.trans ?_, rfl, rfl⟩
  exact List.append_assoc _ _ _

/-- The options are acknowledged. -/
theorem start_acknowledges (h : s.Idle) (hrefuses : s.refuses = false)
    (hoptions : s.acknowledgedOptions.isEmpty = false) :
    (s.start {}).Settled ∧ (s.start {}).phase = .waiting s.remoteV ∧
      (s.start {}).actions = s.actions ++ .start :: (s.announced.2.2 ++
        [.send (Packet.optionsAcknowledgement s.acknowledgedOptions).encode s.remoteV]) ∧
      (s.start {}).view = { s.accepted.view with
        received := 0xFFFF
        packet := (Packet.optionsAcknowledgement s.acknowledgedOptions).encode
        counter := 1 } := by
  obtain ⟨hset, hphase, hact, hpacket, hhandler, hsame⟩ :=
    (ready_accepted h).sendAndReceive (.optionsAcknowledgement s.acknowledgedOptions)
  rw [start_eq h, if_neg (Bool.eq_false_iff.mp hrefuses)]
  simp only [answer, hoptions, Bool.not_false, if_true]
  refine ⟨hset, hphase, hact.trans ?_, ?_⟩
  · simp [accepted, OperationImpl.connected]
  · simp only [update, view, hpacket, hhandler, hsame.timeout, hsame.reports, hsame.buffer,
      hsame.remote, hsame.retries]

/-- The first block is sent. -/
theorem start_sends (h : s.Idle) (hrefuses : s.refuses = false)
    (hoptions : s.acknowledgedOptions.isEmpty = true) :
    (s.start {}).Settled ∧ (s.start {}).phase = .waiting s.remoteV ∧
      (s.start {}).actions = s.actions ++ .start :: (s.announced.2.2 ++
        s.accepted.view.sending s.remoteV) ∧
      (s.start {}).view = s.accepted.view.advanced := by
  obtain ⟨hset, hphase, hact, hview⟩ := sendData_receive (ready_accepted h)
  rw [start_eq h, if_neg (Bool.eq_false_iff.mp hrefuses)]
  simp only [answer, hoptions, Bool.not_true, Bool.false_eq_true, if_false]
  refine ⟨hset, hphase, hact.trans ?_, hview⟩
  simp [accepted, OperationImpl.connected]

/-- The acknowledgement carries the known options. -/
theorem acknowledgedOptions_eq (s : ReadOperationImpl δ) :
    s.acknowledgedOptions = (Servers.acknowledged s.optionsConfigurationV s.clientOptionsV
      s.announced.1).onto s.additionalNegotiatedOptionsV := by
  rw [← serverOptions_eq, acknowledgedOptions]
  cases s.announced.1 <;> rfl

omit [TransmitDataHandler δ] in
theorem idle_configured (settings : Settings δ) : (configured settings).Idle := ⟨rfl, rfl, rfl⟩

end Tftp.Servers.ReadOperationImpl
