import Tftp.Completion

/-!
# What the parts of a handler do to the report of the end

Calls may fail here. Whatever a handler does, it does in parts, and each part either leaves the
socket alone and reports nothing (`Tftp.OperationImpl.Quiet`) or ends the operation with one
report (`Tftp.OperationImpl.Ends`) – with one exception. When `send` or `sendFirst` fails it
ends the operation, and no caller knows: it goes on, and either ends the operation again at
once, or waits on the closed socket and ends it when that fails.

`Tftp.AnsweringOperation` says of each of the four operations which packets make it call
`send`. As long as these calls succeed, a packet handler ends the operation at most once,
whichever other call fails.
-/

namespace Tftp

open Protocol

/-- The report that an operation is over: `finished`, or the call of the completion handler. -/
def Action.isReport : Action → Bool
  | .finished _ | .completionHandler _ => true
  | _ => false

/-- The reports among the actions, in order. -/
def reports (actions : List Action) : List Action := actions.filter Action.isReport

/-- **Reported at most once**: `finished` is entered at most once, and the completion handler
is called at most once, with the same status. -/
def AtMostOnce (actions : List Action) : Prop :=
  ∃ status, reports actions <+: [.finished status, .completionHandler status]

@[simp] theorem reports_nil : reports [] = [] := rfl

@[simp] theorem reports_append (l l' : List Action) :
    reports (l ++ l') = reports l ++ reports l' := List.filter_append ..

theorem reports_concat {a : Action} (h : a.isReport = false) (l : List Action) :
    reports (l ++ [a]) = reports l := by
  simp [reports, h]

@[simp] theorem reports_completion (c : Bool) (status : TransferStatus) :
    reports (Action.completion c status) = Action.completion c status := by
  cases c <;> rfl

theorem atMostOnce_of_nil {l : List Action} (h : reports l = []) : AtMostOnce l :=
  ⟨.successful, by rw [h]; exact List.nil_prefix⟩

theorem atMostOnce_of_completion {l : List Action} {c : Bool} {status : TransferStatus}
    (h : reports l = Action.completion c status) : AtMostOnce l := by
  refine ⟨status, ?_⟩
  rw [h]
  cases c
  · exact ⟨[.completionHandler status], rfl⟩
  · exact ⟨[], rfl⟩

namespace OperationImpl

variable {δ : Type}

/-- **Not over**: the socket is open, and it is connected where a packet of the peer is
awaited. -/
structure Running (s : OperationImpl δ) : Prop where
  alive : s.terminated = false
  opened : s.socketV ≠ .closed
  connected : .receiveHandler ∈ s.receives → ∃ peer, s.socketV = .connected peer

/-- **Over**: nothing is pending on the closed socket, or the process was terminated. -/
def Over (s : OperationImpl δ) : Prop :=
  s.terminated = true ∨ s.socketV = .closed ∧ s.AtRest

/-- **A part of a handler that reports nothing.** -/
structure Quiet (s s' : OperationImpl δ) : Prop where
  alive : s'.terminated = s.terminated
  socket : s'.socketV = s.socketV
  waits : .receiveHandler ∈ s'.receives →
    .receiveHandler ∈ s.receives ∨ ∃ peer, s.socketV = .connected peer
  reports : reports s'.actions = reports s.actions

/-- **A part of a handler that ends the operation**, with one report. -/
structure Ends (s s' : OperationImpl δ) : Prop where
  alive : s.terminated = false
  isOver : s'.Over
  reports : ∃ c status, reports s'.actions = reports s.actions ++ Action.completion c status

/-- A part of a handler. -/
def Progress (s s' : OperationImpl δ) : Prop := s.Quiet s' ∨ s.Ends s'

/-- **Where an operation is** after some parts of a handler: not over and nothing reported, or
over and reported once. -/
def Stage (s : OperationImpl δ) : Prop :=
  s.Running ∧ Tftp.reports s.actions = [] ∨
    s.Over ∧ ∃ c status, Tftp.reports s.actions = Action.completion c status

/-- A call of `send` succeeds, if the process still runs. -/
def Sending (s : OperationImpl δ) (f : Faults) : Prop :=
  s.terminated = false → f.sendFails = false ∧ ∃ peer, s.socketV = .connected peer

section Parts

variable {s s' s'' : OperationImpl δ} {f : Faults}

theorem Quiet.refl (s : OperationImpl δ) : s.Quiet s := ⟨rfl, rfl, Or.inl, rfl⟩

theorem Quiet.trans (h : s.Quiet s') (h' : s'.Quiet s'') : s.Quiet s'' where
  alive := h'.alive.trans h.alive
  socket := h'.socket.trans h.socket
  waits hmem := by
    rcases h'.waits hmem with hmem | ⟨peer, hpeer⟩
    · exact h.waits hmem
    · exact Or.inr ⟨peer, h.socket ▸ hpeer⟩
  reports := h'.reports.trans h.reports

theorem Quiet.progress (h : s.Quiet s') (h' : s'.Progress s'') : s.Progress s'' := by
  rcases h' with h' | ⟨halive, hover, c, status, hreports⟩
  · exact Or.inl (h.trans h')
  · exact Or.inr ⟨h.alive ▸ halive, hover, c, status, by rw [hreports, h.reports]⟩

theorem Quiet.sending (h : s.Quiet s') (hs : s.Sending f) : s'.Sending f := by
  intro halive
  rw [h.socket]
  exact hs (h.alive ▸ halive)

theorem Quiet.running (h : s.Quiet s') (hs : s.Running) : s'.Running where
  alive := h.alive.trans hs.alive
  opened := h.socket ▸ hs.opened
  connected hmem := by
    rw [h.socket]
    exact (h.waits hmem).elim hs.connected id

/-- **The next part.** Only a terminated process gets here after the end, and it does nothing
any more. -/
theorem Stage.progress (hs : s.Stage) (hover : s.Over → s.terminated = true)
    (h : s.Progress s') : s'.Stage := by
  rcases hs with ⟨hrun, hnil⟩ | ⟨hdone, c, status, hreports⟩
  · rcases h with h | h
    · exact Or.inl ⟨h.running hrun, h.reports.trans hnil⟩
    · obtain ⟨c, status, hreports⟩ := h.reports
      exact Or.inr ⟨h.isOver, c, status, by rw [hreports, hnil, List.nil_append]⟩
  · have hterminated := hover hdone
    rcases h with h | h
    · exact Or.inr ⟨Or.inl (h.alive.trans hterminated), c, status, h.reports.trans hreports⟩
    · exact absurd hterminated (by rw [h.alive]; decide)

/-- Where an operation starts that is not over. -/
theorem Running.stage (h : s.Running) (hreports : Tftp.reports s.actions = []) : s.Stage :=
  Or.inl ⟨h, hreports⟩

theorem Running.not_over (h : s.Running) : s.Over → s.terminated = true := by
  rintro (hterminated | ⟨hclosed, -⟩)
  · exact hterminated
  · exact absurd hclosed h.opened

/-! ### Calls of the user's handlers -/

theorem quiet_emit {action : Action} (h : action.isReport = false) (s : OperationImpl δ) :
    s.Quiet (s.emit action) := ⟨rfl, rfl, Or.inl, reports_concat h _⟩

theorem quiet_called {action : Action} (h : action.isReport = false) (s : OperationImpl δ)
    (state : δ) : s.Quiet ({ s with dataHandlerV := state }.emit action) :=
  ⟨rfl, rfl, Or.inl, reports_concat h _⟩

theorem quiet_awaitFirst (s : OperationImpl δ) :
    s.Quiet { s with receives := s.receives ++ [.receiveFirstHandler] } := by
  refine ⟨rfl, rfl, fun hmem => Or.inl ?_, rfl⟩
  simpa using hmem

theorem quiet_startDataHandler [DataHandler δ] (s : OperationImpl δ) :
    s.Quiet s.startDataHandler := by
  rw [startDataHandler]
  split_ifs
  · exact .refl s
  · exact quiet_called rfl s _

theorem quiet_optionNegotiation (s : OperationImpl δ)
    (handler : Option (OptionNegotiationHandler δ)) (options : Options) :
    s.Quiet (s.optionNegotiation handler options).2 := by
  cases handler with
  | none => exact .refl s
  | some handler => exact quiet_called rfl s _

theorem quiet_receivedData [ReceiveDataHandler δ] (s : OperationImpl δ) (data : RawData) :
    s.Quiet (s.receivedData data) := quiet_called rfl s _

theorem quiet_receivedTransferSize [ReceiveDataHandler δ] (s : OperationImpl δ) (n : UInt64) :
    s.Quiet (s.receivedTransferSize n).2 := by
  rw [receivedTransferSize]
  split_ifs
  · exact .refl s
  · exact quiet_called rfl s _

theorem quiet_offerTransferSize [ReceiveDataHandler δ] (s : OperationImpl δ) (n : Option UInt64) :
    s.Quiet (s.offerTransferSize n).2 := by
  cases n with
  | none => exact .refl s
  | some n => exact quiet_receivedTransferSize s n

theorem quiet_requestedTransferSize [TransmitDataHandler δ] (s : OperationImpl δ) :
    s.Quiet s.requestedTransferSize.2 := by
  rw [requestedTransferSize]
  split_ifs
  · exact .refl s
  · exact quiet_called rfl s _

theorem quiet_nextData [TransmitDataHandler δ] (s : OperationImpl δ) (maxSize : ℕ) :
    s.Quiet (s.nextData maxSize).2 := by
  rw [nextData]
  split_ifs
  · exact .refl s
  · exact quiet_called rfl s _

/-! ### Sending, waiting and finishing -/

variable [DataHandler δ]

theorem ends_finished (halive : s.terminated = false) (hopen : s.socketV ≠ .closed)
    (status : TransferStatus) (errorInformation : Option (ErrorCode × RawData)) :
    s.Ends (s.finished status errorInformation) := by
  rw [finished_eq halive hopen]
  refine ⟨halive, Or.inr ⟨rfl, rfl, rfl⟩, s.completionHandlerV, status, ?_⟩
  rw [completed, reports_append, completion, reports_completion]

/-- Finishing, where a terminated process may get to. -/
theorem progress_finished (hopen : s.terminated = false → s.socketV ≠ .closed)
    (status : TransferStatus) (errorInformation : Option (ErrorCode × RawData)) :
    s.Progress (s.finished status errorInformation) := by
  by_cases halive : s.terminated = false
  · exact Or.inr (ends_finished halive (hopen halive) status errorInformation)
  · rw [finished, if_pos (by simpa using halive)]
    exact Or.inl (.refl s)

omit [DataHandler δ] in
theorem opened_of_connected (h : ∃ peer, s.socketV = .connected peer) : s.socketV ≠ .closed := by
  obtain ⟨peer, hpeer⟩ := h
  rw [hpeer]
  rintro ⟨⟩

omit [DataHandler δ] in
theorem Sending.opened (h : s.Sending f) : s.terminated = false → s.socketV ≠ .closed :=
  fun halive => opened_of_connected (h halive).2

theorem Sending.quiet_send (h : s.Sending f) (packet : Packet) : s.Quiet (s.send f packet) := by
  by_cases halive : s.terminated = false
  · obtain ⟨hsend, peer, hpeer⟩ := h halive
    have heq : s.send f packet = s.sent packet peer := by
      simp [send, halive, hpeer, hsend, emit, OperationImpl.sent]
    rw [heq]
    exact ⟨rfl, rfl, Or.inl, reports_concat rfl _⟩
  · rw [send, if_pos (by simpa using halive)]
    exact .refl s

theorem quiet_sendFirst (h : s.terminated = false → s.socketV ≠ .closed ∧ f.sendFails = false)
    (packet : Packet) : s.Quiet (s.sendFirst f packet) := by
  by_cases halive : s.terminated = false
  · obtain ⟨hopen, hsend⟩ := h halive
    have heq : s.sendFirst f packet = s.sent packet s.remoteV := by
      simp [sendFirst, halive, hopen, hsend, emit, OperationImpl.sent]
    rw [heq]
    exact ⟨rfl, rfl, Or.inl, reports_concat rfl _⟩
  · rw [sendFirst, if_pos (by simpa using halive)]
    exact .refl s

theorem progress_arm (hopen : s.terminated = false → s.socketV ≠ .closed)
    {onReceive : ReceiveHandler}
    (hwaits : s.terminated = false → onReceive = .receiveFirstHandler ∨
      ∃ peer, s.socketV = .connected peer)
    (onTimeout : TimerHandler) (timeout : ℤ) :
    s.Progress (s.arm f onReceive onTimeout timeout) := by
  rw [arm]
  split_ifs with halive
  · exact Or.inl (.refl s)
  · exact progress_finished hopen _ _
  · refine Or.inl ⟨rfl, rfl, fun hmem => ?_, rfl⟩
    rcases List.mem_append.mp hmem with hmem | hmem
    · exact Or.inl hmem
    · rcases hwaits (by simpa using halive) with hfirst | hpeer
      · rw [hfirst] at hmem
        simp at hmem
      · exact Or.inr hpeer

theorem progress_receiveFirst (hopen : s.terminated = false → s.socketV ≠ .closed) :
    s.Progress (s.receiveFirst f) :=
  progress_arm hopen (fun _ => Or.inl rfl) _ _

theorem Sending.progress_receive (h : s.Sending f) : s.Progress (s.receive f) :=
  progress_arm h.opened (fun halive => Or.inr (h halive).2) _ _

theorem Sending.progress_afterData (h : s.Sending f) (short dally : Bool) :
    s.Progress (s.afterData f short dally) := by
  rw [afterData]
  split_ifs
  · exact progress_arm h.opened (fun halive => Or.inr (h halive).2) _ _
  · exact progress_finished h.opened _ _
  · exact h.progress_receive

/-- **Rejecting ends the operation once**, as the ERROR packet can be sent. -/
theorem Sending.progress_reject (h : s.Sending f) (errorCode : ErrorCode) (errorMessage : String)
    (status : TransferStatus) : s.Progress (s.reject f errorCode errorMessage status) := by
  have hq := h.quiet_send (.error errorCode (ascii errorMessage))
  exact hq.progress (progress_finished (hq.sending h).opened _ _)

/-- Sending a packet and waiting for the answer. -/
theorem Sending.progress_send (h : s.Sending f) (packet : Packet) :
    s.Progress ((s.send f packet).receive f) := by
  have hq := h.quiet_send packet
  exact hq.progress (hq.sending h).progress_receive

/-- Acknowledging a block, and what follows. -/
theorem Sending.progress_acknowledge (h : s.Sending f) (packet : Packet) (short dally : Bool) :
    s.Progress ((s.send f packet).afterData f short dally) := by
  have hq := h.quiet_send packet
  exact hq.progress ((hq.sending h).progress_afterData short dally)

end Parts

end OperationImpl

/-! ### When the four operations send -/

/-- Not an ERROR packet. -/
def Received.NotError (r : Received) : Prop := ∀ code message, r ≠ .packet (.error code message)

/-- An operation of which is known when it calls `send`. -/
class AnsweringOperation (σ : Type) (δ : outParam Type) [DataHandler δ] extends Operation σ δ where
  /-- Whether the handler of a packet calls `send`. -/
  answers : σ → Received → Prop
  /-- Whether `gracefulAbort` calls `send`. -/
  tells : σ → Prop
  answers_withBase : ∀ s b r, answers (withBase s b) r = answers s r := by intros; rfl
  tells_cleared : ∀ s, tells (withBase s (base s).cleared) = tells s := by intros; rfl
  received_progress : ∀ s f r, (∃ peer, (base s).socketV = .connected peer) →
    (answers s r → f.sendFails = false) → (base s).Progress (base (received s f r))
  gracefulAbort_progress : ∀ s f errorCode errorMessage, (base s).Running →
    (tells s → (base s).Sending f) →
      (base s).Progress (base (gracefulAbort s f errorCode errorMessage))

open OperationImpl hiding actions

namespace Clients

variable {δ : Type} {f : Faults}

section Shared

variable [DataHandler δ] {s : OperationImpl δ}

theorem OperationImpl.progress_errorPacket (hopen : s.terminated = false → s.socketV ≠ .closed)
    (errorCode : ErrorCode) (errorMessage : RawData) :
    s.Progress (errorPacket s errorCode errorMessage) := by
  obtain ⟨status, -, -, heq⟩ := errorPacket_eq s errorCode errorMessage
  rw [heq]
  exact progress_finished hopen _ _

theorem OperationImpl.progress_gracefulAbort (h : s.Running)
    (hsend : s.receiveEndpointV ≠ {} → s.Sending f) (errorCode : ErrorCode)
    (errorMessage : RawData) : s.Progress (gracefulAbort s f errorCode errorMessage) := by
  rw [gracefulAbort]
  split_ifs with hpeer
  · have hs := hsend hpeer
    have hq := hs.quiet_send (.error errorCode errorMessage)
    exact hq.progress (progress_finished (hq.sending hs).opened _ _)
  · exact progress_finished (fun _ => h.opened) _ _

end Shared

namespace ReadOperationImpl

variable [ReceiveDataHandler δ] {s : ReadOperationImpl δ}

omit [ReceiveDataHandler δ] in
theorem quiet_negotiateNone (s : ReadOperationImpl δ) (blockNumber : BlockNumber) :
    s.toOperationImpl.Quiet (s.negotiateNone blockNumber).2.toOperationImpl := by
  rw [negotiateNone]
  split_ifs
  · exact quiet_optionNegotiation _ _ _
  · exact .refl _

theorem progress_dataPacket (hs : s.toOperationImpl.Sending f) (blockNumber : BlockNumber)
    (data : RawData) :
    s.toOperationImpl.Progress (s.dataPacket f blockNumber data).toOperationImpl := by
  rw [dataPacket]
  dsimp only
  split_ifs
  · exact hs.progress_acknowledge _ _ _
  · exact hs.progress_reject _ _ _
  · exact hs.progress_reject _ _ _
  · exact (quiet_negotiateNone s blockNumber).progress
      (((quiet_negotiateNone s blockNumber).sending hs).progress_reject _ _ _)
  · have hq := (quiet_negotiateNone s blockNumber).trans (quiet_receivedData _ data)
    exact hq.progress ((hq.sending hs).progress_acknowledge _ _ _)

theorem progress_negotiated (hs : s.toOperationImpl.Sending f) (transferSizeValue : Option UInt64)
    (remoteOptions : Options) :
    s.toOperationImpl.Progress
      (s.negotiated f transferSizeValue remoteOptions).toOperationImpl := by
  have hq := quiet_offerTransferSize s.toOperationImpl transferSizeValue
  have hq' := hq.trans (quiet_optionNegotiation _ s.optionNegotiationHandlerV remoteOptions)
  rw [negotiated]
  dsimp only
  split_ifs
  · exact hq.progress ((hq.sending hs).progress_reject _ _ _)
  · exact hq'.progress ((hq'.sending hs).progress_reject _ _ _)
  · exact hq'.progress ((hq'.sending hs).progress_reject _ _ _)
  · exact hq'.progress ((hq'.sending hs).progress_send _)

theorem progress_optionsAcknowledgementPacket (hs : s.toOperationImpl.Sending f)
    (remoteOptions : Options) : s.toOperationImpl.Progress
      (s.optionsAcknowledgementPacket f remoteOptions).toOperationImpl := by
  rw [optionsAcknowledgementPacket]
  split_ifs
  · exact hs.progress_reject _ _ _
  · exact hs.progress_reject _ _ _
  · rcases hblock : negotiateBlockSize s.optionsConfigurationV remoteOptions with
      rejection | ⟨blockSize, options₁⟩
    · exact hs.progress_reject _ _ _
    · rcases htimeout : negotiateTimeout s.optionsConfigurationV options₁ with
        rejection | ⟨timeout, options₂⟩
      · simp only [htimeout]
        exact hs.progress_reject _ _ _
      · -- what has been taken over so far has nothing to do with the reports
        let s' : ReadOperationImpl δ := { s with
          receiveDataSize := blockSize.getD s.receiveDataSize
          receiveTimeoutV := timeout.getD s.receiveTimeoutV }
        have hq : s.toOperationImpl.Quiet s'.toOperationImpl := ⟨rfl, rfl, Or.inl, rfl⟩
        have hs' := hq.sending hs
        rcases hsize : negotiateTransferSize s.optionsConfigurationV.handleTransferSizeOption
          options₂ with rejection | ⟨transferSize, options₃⟩
        · simp only [htimeout, hsize]
          exact hq.progress (hs'.progress_reject _ _ _)
        · simp only [htimeout, hsize]
          exact hq.progress (progress_negotiated hs' transferSize options₃)

/-- Every packet is answered that is no ERROR packet. -/
instance : AnsweringOperation (ReadOperationImpl δ) δ where
  answers _ r := r.NotError
  tells s := s.receiveEndpointV ≠ {}
  received_progress s f r hpeer hsend := by
    have hs (hr : r.NotError) : s.toOperationImpl.Sending f := fun _ => ⟨hsend hr, hpeer⟩
    rcases r with packet | -
    · cases packet with
      | readRequest | writeRequest | acknowledgement =>
        exact (hs (by rintro _ _ ⟨⟩)).progress_reject _ _ _
      | data blockNumber data => exact progress_dataPacket (hs (by rintro _ _ ⟨⟩)) blockNumber data
      | error errorCode errorMessage =>
        exact OperationImpl.progress_errorPacket (fun _ => opened_of_connected hpeer) errorCode
          errorMessage
      | optionsAcknowledgement options =>
        exact progress_optionsAcknowledgementPacket (hs (by rintro _ _ ⟨⟩)) options
    · exact (hs (by rintro _ _ ⟨⟩)).progress_reject _ _ _
  gracefulAbort_progress _ _ errorCode errorMessage hrun hsend :=
    OperationImpl.progress_gracefulAbort hrun hsend errorCode errorMessage

end ReadOperationImpl

namespace WriteOperationImpl

variable [TransmitDataHandler δ] {s : WriteOperationImpl δ}

omit [TransmitDataHandler δ] in
theorem quiet_negotiateNone (s : WriteOperationImpl δ) (blockNumber : BlockNumber) :
    s.toOperationImpl.Quiet (s.negotiateNone blockNumber).2.toOperationImpl := by
  rw [negotiateNone]
  split_ifs
  · exact quiet_optionNegotiation _ _ _
  · exact .refl _

/-- Sending a block and waiting for its acknowledgement. -/
theorem progress_sendData (hs : s.toOperationImpl.Sending f) :
    s.toOperationImpl.Progress ((s.sendData f).update (·.receive f)).toOperationImpl := by
  have hq := quiet_nextData s.toOperationImpl s.transmitDataSize.toNat
  exact hq.progress ((hq.sending hs).progress_send _)

/-- Whether a packet is answered: all but an ERROR packet are, a repeated acknowledgement, and
that of the last block. Block zero is never the last block. -/
def Answers (s : WriteOperationImpl δ) : Received → Prop
  | .packet (.acknowledgement blockNumber) => blockNumber ≠ s.lastReceivedBlockNumber ∧
      (blockNumber = s.lastTransmittedBlockNumber → blockNumber = 0 ∨ !s.lastDataPacketTransmitted)
  | r => r.NotError

theorem progress_acknowledgementPacket {blockNumber : BlockNumber}
    (hpeer : ∃ peer, s.socketV = .connected peer)
    (hsend : s.Answers (.packet (.acknowledgement blockNumber)) → f.sendFails = false) :
    s.toOperationImpl.Progress (s.acknowledgementPacket f blockNumber).toOperationImpl := by
  rw [acknowledgementPacket]
  split_ifs with hrepeated hwrong
  · exact progress_arm (fun _ => opened_of_connected hpeer) (fun _ => Or.inr hpeer) _ _
  · have hs : s.toOperationImpl.Sending f := fun _ =>
      ⟨hsend ⟨hrepeated, fun h => absurd h hwrong⟩, hpeer⟩
    exact hs.progress_reject _ _ _
  · let s' : WriteOperationImpl δ := { s with lastReceivedBlockNumber := blockNumber }
    have hq := quiet_negotiateNone s' blockNumber
    have hopen : s.terminated = false → s.socketV ≠ .closed := fun _ => opened_of_connected hpeer
    have hs (h : blockNumber = 0 ∨ !s.lastDataPacketTransmitted) : s.toOperationImpl.Sending f :=
      fun _ => ⟨hsend ⟨hrepeated, fun _ => h⟩, hpeer⟩
    by_cases hzero : blockNumber = 0
    · have hs' := hq.sending (hs (Or.inl hzero))
      dsimp only
      split_ifs
      · exact hq.progress (hs'.progress_reject _ _ _)
      · exact hq.progress (progress_finished hs'.opened _ _)
      · exact hq.progress (progress_sendData hs')
    · -- the options were negotiated before
      have hnone : s'.negotiateNone blockNumber = (true, s') := if_neg hzero
      simp only [s'] at hnone
      simp only [hnone, Bool.not_true, Bool.false_eq_true, if_false]
      split_ifs with hlast
      · exact progress_finished hopen _ _
      · exact progress_sendData (s := s') (hs (Or.inr (by simpa using hlast)))

theorem progress_negotiated (hs : s.toOperationImpl.Sending f) (transferSizeValue : Option UInt64)
    (remoteOptions : Options) :
    s.toOperationImpl.Progress
      (s.negotiated f transferSizeValue remoteOptions).toOperationImpl := by
  let s' : WriteOperationImpl δ := { s with
    toOperationImpl := (s.optionNegotiation s.optionNegotiationHandlerV remoteOptions).2 }
  have hq : s.toOperationImpl.Quiet s'.toOperationImpl :=
    quiet_optionNegotiation s.toOperationImpl s.optionNegotiationHandlerV remoteOptions
  rw [negotiated]
  dsimp only
  split_ifs
  · exact hs.progress_reject _ _ _
  · exact hq.progress ((hq.sending hs).progress_reject _ _ _)
  · exact hq.progress ((hq.sending hs).progress_reject _ _ _)
  · exact hq.progress (progress_sendData (s := s') (hq.sending hs))

theorem progress_optionsAcknowledgementPacket (hs : s.toOperationImpl.Sending f)
    (remoteOptions : Options) : s.toOperationImpl.Progress
      (s.optionsAcknowledgementPacket f remoteOptions).toOperationImpl := by
  rw [optionsAcknowledgementPacket]
  split_ifs
  · exact hs.progress_reject _ _ _
  · exact hs.progress_reject _ _ _
  · rcases hblock : negotiateBlockSize s.optionsConfigurationV remoteOptions with
      rejection | ⟨blockSize, options₁⟩
    · exact hs.progress_reject _ _ _
    · rcases htimeout : negotiateTimeout s.optionsConfigurationV options₁ with
        rejection | ⟨timeout, options₂⟩
      · simp only [htimeout]
        exact hs.progress_reject _ _ _
      · let s' : WriteOperationImpl δ := { s with
          transmitDataSize := blockSize.getD s.transmitDataSize
          receiveTimeoutV := timeout.getD s.receiveTimeoutV }
        have hq : s.toOperationImpl.Quiet s'.toOperationImpl := ⟨rfl, rfl, Or.inl, rfl⟩
        have hs' := hq.sending hs
        rcases hsize : negotiateTransferSize
          (s.optionsConfigurationV.handleTransferSizeOption && s.transferSize.isSome) options₂ with
          rejection | ⟨transferSize, options₃⟩
        · simp only [htimeout, hsize]
          exact hq.progress (hs'.progress_reject _ _ _)
        · simp only [htimeout, hsize]
          exact hq.progress (progress_negotiated hs' transferSize options₃)

instance : AnsweringOperation (WriteOperationImpl δ) δ where
  answers := Answers
  tells s := s.receiveEndpointV ≠ {}
  received_progress s f r hpeer hsend := by
    have hs (hr : s.Answers r) : s.toOperationImpl.Sending f := fun _ => ⟨hsend hr, hpeer⟩
    rcases r with packet | -
    · cases packet with
      | readRequest | writeRequest | data => exact (hs (by rintro _ _ ⟨⟩)).progress_reject _ _ _
      | acknowledgement blockNumber => exact progress_acknowledgementPacket hpeer hsend
      | error errorCode errorMessage =>
        exact OperationImpl.progress_errorPacket (fun _ => opened_of_connected hpeer) errorCode
          errorMessage
      | optionsAcknowledgement options =>
        exact progress_optionsAcknowledgementPacket (hs (by rintro _ _ ⟨⟩)) options
    · exact (hs (by rintro _ _ ⟨⟩)).progress_reject _ _ _
  gracefulAbort_progress _ _ errorCode errorMessage hrun hsend :=
    OperationImpl.progress_gracefulAbort hrun hsend errorCode errorMessage

end WriteOperationImpl

end Clients

namespace Servers

variable {δ : Type} {f : Faults}

section Shared

variable [DataHandler δ] {s : OperationImpl δ}

theorem OperationImpl.progress_errorPacket (hopen : s.terminated = false → s.socketV ≠ .closed)
    (errorCode : ErrorCode) (errorMessage : RawData) :
    s.Progress (errorPacket s errorCode errorMessage) := by
  obtain ⟨status, -, -, heq⟩ := errorPacket_eq s errorCode errorMessage
  rw [heq]
  exact progress_finished hopen _ _

theorem OperationImpl.progress_gracefulAbort (hs : s.Sending f) (errorCode : ErrorCode)
    (errorMessage : RawData) : s.Progress (gracefulAbort s f errorCode errorMessage) := by
  have hq := hs.quiet_send (.error errorCode errorMessage)
  exact hq.progress (progress_finished (hq.sending hs).opened _ _)

end Shared

namespace ReadOperationImpl

variable [TransmitDataHandler δ] {s : ReadOperationImpl δ}

/-- Sending a block and waiting for its acknowledgement. -/
theorem progress_sendData (hs : s.toOperationImpl.Sending f) :
    s.toOperationImpl.Progress ((s.sendData f).update (·.receive f)).toOperationImpl := by
  have hq := quiet_nextData s.toOperationImpl s.transmitDataSize.toNat
  exact hq.progress ((hq.sending hs).progress_send _)

/-- Whether a packet is answered: all but an ERROR packet are, a repeated acknowledgement, and
that of the last block. -/
def Answers (s : ReadOperationImpl δ) : Received → Prop
  | .packet (.acknowledgement blockNumber) => blockNumber ≠ s.lastReceivedBlockNumber ∧
      (blockNumber = s.lastTransmittedBlockNumber → !s.lastDataPacketTransmitted)
  | r => r.NotError

theorem progress_acknowledgementPacket {blockNumber : BlockNumber}
    (hpeer : ∃ peer, s.socketV = .connected peer)
    (hsend : s.Answers (.packet (.acknowledgement blockNumber)) → f.sendFails = false) :
    s.toOperationImpl.Progress (s.acknowledgementPacket f blockNumber).toOperationImpl := by
  rw [acknowledgementPacket]
  dsimp only
  split_ifs with hrepeated hwrong hlast
  · exact progress_arm (fun _ => opened_of_connected hpeer) (fun _ => Or.inr hpeer) _ _
  · have hs : s.toOperationImpl.Sending f := fun _ =>
      ⟨hsend ⟨hrepeated, fun h => absurd h hwrong⟩, hpeer⟩
    exact hs.progress_reject _ _ _
  · exact progress_finished (fun _ => opened_of_connected hpeer) _ _
  · have hs : s.toOperationImpl.Sending f := fun _ =>
      ⟨hsend ⟨hrepeated, fun _ => by simpa using hlast⟩, hpeer⟩
    exact progress_sendData (s := { s with lastReceivedBlockNumber := blockNumber }) hs

instance : AnsweringOperation (ReadOperationImpl δ) δ where
  answers := Answers
  tells _ := True
  received_progress s f r hpeer hsend := by
    have hs (hr : s.Answers r) : s.toOperationImpl.Sending f := fun _ => ⟨hsend hr, hpeer⟩
    rcases r with packet | -
    · cases packet with
      | readRequest | writeRequest | data | optionsAcknowledgement =>
        exact (hs (by rintro _ _ ⟨⟩)).progress_reject _ _ _
      | acknowledgement blockNumber => exact progress_acknowledgementPacket hpeer hsend
      | error errorCode errorMessage =>
        exact OperationImpl.progress_errorPacket (fun _ => opened_of_connected hpeer) errorCode
          errorMessage
    · exact (hs (by rintro _ _ ⟨⟩)).progress_reject _ _ _
  gracefulAbort_progress _ _ errorCode errorMessage _ hsend :=
    OperationImpl.progress_gracefulAbort (hsend trivial) errorCode errorMessage

end ReadOperationImpl

namespace WriteOperationImpl

variable [ReceiveDataHandler δ] {s : WriteOperationImpl δ}

theorem progress_dataPacket (hs : s.toOperationImpl.Sending f) (blockNumber : BlockNumber)
    (data : RawData) :
    s.toOperationImpl.Progress (s.dataPacket f blockNumber data).toOperationImpl := by
  rw [dataPacket]
  dsimp only
  split_ifs
  · exact hs.progress_acknowledge _ _ _
  · exact hs.progress_reject _ _ _
  · exact hs.progress_reject _ _ _
  · have hq := quiet_receivedData s.toOperationImpl data
    exact hq.progress ((hq.sending hs).progress_acknowledge _ _ _)

/-- Every packet is answered that is no ERROR packet. -/
instance : AnsweringOperation (WriteOperationImpl δ) δ where
  answers _ r := r.NotError
  tells _ := True
  received_progress s f r hpeer hsend := by
    have hs (hr : r.NotError) : s.toOperationImpl.Sending f := fun _ => ⟨hsend hr, hpeer⟩
    rcases r with packet | -
    · cases packet with
      | readRequest | writeRequest | acknowledgement | optionsAcknowledgement =>
        exact (hs (by rintro _ _ ⟨⟩)).progress_reject _ _ _
      | data blockNumber data => exact progress_dataPacket (hs (by rintro _ _ ⟨⟩)) blockNumber data
      | error errorCode errorMessage =>
        exact OperationImpl.progress_errorPacket (fun _ => opened_of_connected hpeer) errorCode
          errorMessage
    · exact (hs (by rintro _ _ ⟨⟩)).progress_reject _ _ _
  gracefulAbort_progress _ _ errorCode errorMessage _ hsend :=
    OperationImpl.progress_gracefulAbort (hsend trivial) errorCode errorMessage

end WriteOperationImpl

end Servers

end Tftp
