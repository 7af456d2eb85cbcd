import Tftp.Protocol.Run
import Tftp.Clients.Acceptance
import Tftp.Clients.ReadReceives
import Tftp.Clients.WriteSends
import Tftp.Files.MemoryFile

/-!
# The first answer to a request

A client sends its request to a server and waits for an answer, from whatever port of the server it
comes. How it judges that answer should depend on what it has asked for, and not on what strangers
have sent in the meantime, nor on how often the request had to be repeated, nor on which calls have
failed.

The invariant behind this is that as long as it waits, it is the client that has sent the request
(`Tftp.Operation.AsRequested`): only its socket, its timer and its counter of transmissions move,
along every run of any events and any faults (`Tftp.Operation.asRequested_run`). It is an
alternative. Either the state is the one after the request, but for those three; or the socket is
not open any more, because it has been connected or closed, and a socket that is not open will not
be opened again (`Tftp.Operation.not_opened_step`). So whoever finds the client waiting for the
first answer finds the first case.

An acknowledgement of options is then judged by the configuration of the client and by nothing else,
and it is accepted exactly when it answers the request: it is not empty, it acknowledges only what
was asked for, and each value is in the range that the request allows. Accepting it means to take
over the size of the blocks and the timeout, and to go on with the transfer; refusing it means an
ERROR packet and the end of the operation (`Tftp.Clients.OperationImpl.Rejects`). Both are settled
here for each client, and put together in `Tftp.Clients.oack_accepted_iff`. The clients there have
no options of their own and no negotiation handler, so that there is nobody to be asked about an
option that the library does not know.
-/

namespace Tftp

open Protocol

/-! ### A socket is not opened again -/

namespace OperationImpl

variable {δ : Type} [DataHandler δ] {b : OperationImpl δ} {f : Faults}

theorem not_opened_finished (h : b.terminated = false ∨ b.socketV ≠ .opened)
    (status : TransferStatus) (errorInformation : Option (ErrorCode × RawData)) :
    (b.finished status errorInformation).socketV ≠ .opened := by
  rw [finished]
  split_ifs with hterminated
  · exact h.resolve_left (by simp [hterminated])
  · cases hsock : b.socketV with
    | closed => simp [emit]
    | opened | connected peer =>
      dsimp only [emit]
      split_ifs <;> rintro ⟨⟩

theorem not_opened_send (h : b.socketV ≠ .opened) (packet : Packet) :
    (b.send f packet).socketV ≠ .opened := by
  by_cases hterminated : b.terminated = true
  · rw [send, if_pos hterminated]
    exact h
  · cases hsock : b.socketV with
    | opened => exact absurd hsock h
    | closed =>
      simp only [send, hsock, if_neg hterminated]
      exact not_opened_finished (Or.inr (by simp)) _ _
    | connected peer =>
      simp only [send, hsock, if_neg hterminated]
      split_ifs
      · exact not_opened_finished (Or.inr (by simp)) _ _
      · simp [emit]

theorem not_opened_arm (h : b.socketV ≠ .opened) (onReceive : ReceiveHandler)
    (onTimeout : TimerHandler) (timeout : ℤ) :
    (b.arm f onReceive onTimeout timeout).socketV ≠ .opened := by
  rw [arm]
  split_ifs
  · exact h
  · exact not_opened_finished (Or.inr h) _ _
  · exact h

theorem not_opened_reject (h : b.socketV ≠ .opened) (errorCode : ErrorCode)
    (errorMessage : String) (status : TransferStatus) :
    (b.reject f errorCode errorMessage status).socketV ≠ .opened :=
  not_opened_finished (Or.inr (not_opened_send h _)) _ _

theorem not_opened_afterData (h : b.socketV ≠ .opened) (short dally : Bool) :
    (b.afterData f short dally).socketV ≠ .opened := by
  rw [afterData]
  split_ifs
  · exact not_opened_arm h _ _ _
  · exact not_opened_finished (Or.inr h) _ _
  · exact not_opened_arm h _ _ _

theorem not_opened_sendFirst (h : b.socketV ≠ .opened) (packet : Packet) :
    (b.sendFirst f packet).socketV ≠ .opened := by
  simp only [sendFirst]
  split_ifs
  · exact h
  · exact not_opened_finished (Or.inr (by exact h)) _ _
  · exact h

theorem not_opened_startDataHandler (h : b.socketV ≠ .opened) :
    b.startDataHandler.socketV ≠ .opened := by
  rw [startDataHandler]
  split_ifs <;> exact h

/-- Sending the request and waiting for the answer works, or the socket is closed. -/
theorem sendFirst_cases (halive : b.terminated = false) (hopened : b.socketV = .opened)
    (packet : Packet) (f : Faults) :
    ((b.sendFirst f packet).receiveFirst f).socketV ≠ .opened ∨
      (b.sendFirst f packet).receiveFirst f = (b.sendFirst {} packet).receiveFirst {} := by
  cases hsend : f.sendFails with
  | true =>
    refine Or.inl (not_opened_arm ?_ _ _ _)
    simp only [sendFirst, halive, hsend, or_true, Bool.false_eq_true, if_false, if_true]
    exact not_opened_finished (Or.inl (by rfl)) _ _
  | false =>
    have heq : b.sendFirst f packet = b.sendFirst {} packet := by simp [sendFirst, hsend]
    have halive' : (b.sendFirst {} packet).terminated = false := by
      simp [sendFirst, halive, hopened, emit]
    rw [heq]
    cases hreceive : f.receiveFails with
    | true =>
      refine Or.inl ?_
      rw [receiveFirst, arm, halive', hreceive]
      exact not_opened_finished (Or.inl halive') _ _
    | false =>
      refine Or.inr ?_
      simp [receiveFirst, arm, hreceive]

theorem not_opened_timeoutFirstHandler (h : b.socketV ≠ .opened) :
    (b.timeoutFirstHandler f).socketV ≠ .opened := by
  rw [timeoutFirstHandler]
  split_ifs
  · exact not_opened_finished (Or.inr h) _ _
  · exact not_opened_finished (Or.inr h) _ _
  · exact h

theorem not_opened_timeoutHandler (h : b.socketV ≠ .opened) :
    (b.timeoutHandler f).socketV ≠ .opened := by
  by_cases hretries : b.tftpRetriesV.toNat < b.transmitCounterV.toNat
  · rw [timeoutHandler, if_pos hretries]
    exact not_opened_finished (Or.inr h) _ _
  · cases hsock : b.socketV with
    | opened => exact absurd hsock h
    | closed =>
      simp only [timeoutHandler, hsock, if_neg hretries]
      exact not_opened_finished (Or.inr h) _ _
    | connected peer =>
      simp only [timeoutHandler, hsock, if_neg hretries]
      split_ifs
      · exact not_opened_finished (Or.inr h) _ _
      · exact h

omit [DataHandler δ] in
theorem socketV_optionNegotiation (b : OperationImpl δ)
    (handler : Option (OptionNegotiationHandler δ)) (options : Options) :
    (b.optionNegotiation handler options).2.socketV = b.socketV := by
  cases handler <;> rfl

omit [DataHandler δ] in
theorem socketV_offerTransferSize [ReceiveDataHandler δ] (b : OperationImpl δ)
    (transferSize : Option UInt64) : (b.offerTransferSize transferSize).2.socketV = b.socketV := by
  cases transferSize with
  | none => rfl
  | some n =>
    rw [offerTransferSize, receivedTransferSize]
    split_ifs <;> rfl

omit [DataHandler δ] in
theorem socketV_nextData [TransmitDataHandler δ] (b : OperationImpl δ) (maxSize : ℕ) :
    (b.nextData maxSize).2.socketV = b.socketV := by
  rw [nextData]
  split_ifs <;> rfl

end OperationImpl

/-! ### Waiting for the first answer -/

/-- **Waits for the first answer**: the socket is open, but not connected to anybody, and a handler
waits for a datagram. -/
structure OperationImpl.AwaitsAnswer {δ : Type} (b : OperationImpl δ) : Prop where
  opened : b.socketV = .opened
  receives : b.receives ≠ []

namespace Operation

variable {σ δ : Type} [DataHandler δ] [Operation σ δ] {s s₀ : σ} {f : Faults}

/-- What strangers and the timer leave alone as long as nobody answers. -/
def untouched (s : σ) : σ :=
  withBase s { base s with
    receiveEndpointV := {}
    transmitCounterV := 0
    timerV := none
    actions := [] }

/-- **A client that has sent its request**: it waits for the first answer and is as it was when it
sent the request, or its socket is not open any more, or its data handler has thrown an exception
and it waits for nothing. -/
inductive AsRequested (s₀ s : σ) : Prop where
  | waits (halive : (base s).terminated = false) (hopened : (base s).socketV = .opened)
      (hreceives : (base s).receives = [.receiveFirstHandler])
      (htimer : ∃ d, (base s).timerV = some (.timeoutFirstHandler, d))
      (huntouched : untouched s = untouched s₀)
  | left (hopened : (base s).socketV ≠ .opened)
  | threw (hreceives : (base s).receives = []) (htimer : (base s).timerV = none)

/-- The handlers of the packets and the abort do not open a socket. -/
class Connecting (σ : Type) (δ : outParam Type) [DataHandler δ] [Operation σ δ] : Prop where
  received : ∀ (s : σ) f r, (base s).socketV ≠ .opened → (base (received s f r)).socketV ≠ .opened
  gracefulAbort : ∀ (s : σ) f errorCode errorMessage,
    (base s).terminated = false ∨ (base s).socketV ≠ .opened →
      (base (gracefulAbort s f errorCode errorMessage)).socketV ≠ .opened

section Connecting

open OperationImpl

variable [Connecting σ δ]

theorem not_opened_receiveFirstHandler (h : (base s).socketV ≠ .opened) (source : Endpoint)
    (rawPacket : RawData) :
    (base (receiveFirstHandler s f source rawPacket)).socketV ≠ .opened := by
  simp only [receiveFirstHandler]
  split_ifs
  · rw [base_withBase]
    exact not_opened_finished (Or.inr (by exact h)) _ _
  · rw [base_withBase]
    exact not_opened_finished (Or.inr (by exact h)) _ _
  · rw [base_withBase]
    exact h
  · rw [base_withBase]
    exact h
  · rw [base_withBase]
    exact not_opened_finished (Or.inr (by exact h)) _ _
  · refine Connecting.received _ _ _ ?_
    rw [base_withBase]
    rintro ⟨⟩

/-- **Once the socket is not open any more, it will not be opened again.** -/
theorem not_opened_step (h : (base s).socketV ≠ .opened) (e : Faults × Event) :
    (base (step s e)).socketV ≠ .opened := by
  obtain ⟨f, event⟩ := e
  simp only [step, base_withBase, withBase_withBase]
  split_ifs
  · rw [base_withBase]
    exact h
  · cases event with
    | datagram source rawPacket =>
      simp only [onDatagram, base_withBase, withBase_withBase]
      split
      · rw [base_withBase]
        exact h
      · split_ifs
        · split
          · refine not_opened_receiveFirstHandler ?_ source rawPacket
            rw [base_withBase]
            exact h
          · refine Connecting.received _ _ _ ?_
            rw [base_withBase]
            exact h
        · rw [base_withBase]
          exact h
    | timeout =>
      simp only [onTimeout, base_withBase, withBase_withBase]
      split
      · rw [base_withBase]
        exact h
      · split <;> rw [base_withBase]
        · exact not_opened_timeoutFirstHandler h
        · exact not_opened_timeoutHandler h
        · exact not_opened_finished (Or.inr (by exact h)) _ _
    | receiveError | timerError =>
      dsimp only
      split <;> rw [base_withBase]
      · exact h
      · exact not_opened_finished (Or.inr (by exact h)) _ _
    | abort =>
      rw [base_withBase]
      exact not_opened_finished (Or.inr (by exact h)) _ _
    | gracefulAbort errorCode errorMessage =>
      refine Connecting.gracefulAbort _ _ _ _ (Or.inr ?_)
      rw [base_withBase]
      exact h

omit [Connecting σ δ] in
/-- An abort closes the socket. -/
theorem not_opened_abort (halive : (base s).terminated = false) :
    (base (step s (f, .abort))).socketV ≠ .opened := by
  simp only [step, base_withBase, halive, Bool.false_eq_true, if_false, withBase_withBase]
  exact not_opened_finished (Or.inl (by rfl)) _ _

theorem not_opened_gracefulAbort (halive : (base s).terminated = false) (errorCode : ErrorCode)
    (errorMessage : RawData) :
    (base (step s (f, .gracefulAbort errorCode errorMessage))).socketV ≠ .opened := by
  simp only [step, base_withBase, halive, Bool.false_eq_true, if_false]
  refine Connecting.gracefulAbort _ _ _ _ (Or.inl ?_)
  rw [base_withBase]

/-- A datagram that reaches a waiting client: one from a stranger is answered, any other one is the
first answer. -/
theorem AsRequested.datagram (halive : (base s).terminated = false)
    (hopened : (base s).socketV = .opened) (hreceives : (base s).receives = [.receiveFirstHandler])
    (htimer : ∃ d, (base s).timerV = some (.timeoutFirstHandler, d))
    (huntouched : untouched s = untouched s₀) (source : Endpoint) (rawPacket : RawData) :
    AsRequested s₀ (step s (f, .datagram source rawPacket)) := by
  have heq : step s (f, .datagram source rawPacket) =
      receiveFirstHandler (withBase s { base s with actions := [], receives := [] }) f source
        rawPacket := by
    simp [step, onDatagram, halive, hreceives, hopened, Socket.accepts]
  rw [heq]
  simp only [receiveFirstHandler, base_withBase, withBase_withBase]
  split_ifs
  · refine .left ?_
    rw [base_withBase]
    exact not_opened_finished (Or.inl (by exact halive)) _ _
  · refine .left ?_
    rw [base_withBase]
    exact not_opened_finished (Or.inl (by exact halive)) _ _
  · refine .waits ?_ ?_ ?_ ?_ ?_
    · simpa using halive
    · simpa using hopened
    · simp
    · simpa using htimer
    · rw [← huntouched]
      simp [untouched, hreceives]
  · refine .waits ?_ ?_ ?_ ?_ ?_
    · simpa [emit] using halive
    · simpa [emit] using hopened
    · simp [emit]
    · simpa [emit] using htimer
    · rw [← huntouched]
      simp [untouched, emit, hreceives]
  · refine .left ?_
    rw [base_withBase]
    exact not_opened_finished (Or.inl (by exact halive)) _ _
  · refine .left (Connecting.received _ _ _ ?_)
    rw [base_withBase]
    rintro ⟨⟩

omit [Connecting σ δ] in
/-- The timer of a waiting client: the request is sent again, or the client gives up. -/
theorem AsRequested.timeout (halive : (base s).terminated = false)
    (hopened : (base s).socketV = .opened) (hreceives : (base s).receives = [.receiveFirstHandler])
    (htimer : ∃ d, (base s).timerV = some (.timeoutFirstHandler, d))
    (huntouched : untouched s = untouched s₀) : AsRequested s₀ (step s (f, .timeout)) := by
  obtain ⟨d, htimer⟩ := htimer
  have heq : step s (f, .timeout) = withBase s
      (OperationImpl.timeoutFirstHandler { base s with actions := [], timerV := none } f) := by
    simp [step, onTimeout, halive, htimer]
  rw [heq, timeoutFirstHandler]
  split_ifs
  · refine .left ?_
    rw [base_withBase]
    exact not_opened_finished (Or.inl (by exact halive)) _ _
  · refine .left ?_
    rw [base_withBase]
    exact not_opened_finished (Or.inl (by exact halive)) _ _
  · refine .waits ?_ ?_ ?_ ?_ ?_
    · simpa [emit] using halive
    · simpa [emit] using hopened
    · simpa [emit] using hreceives
    · simp [emit]
    · rw [← huntouched]
      simp [untouched, emit]

/-- **Every event** leaves a client as it was when it sent its request, or its socket is not open
any more. -/
theorem AsRequested.step (h : AsRequested s₀ s) (e : Faults × Event) :
    AsRequested s₀ (step s e) := by
  cases h with
  | left hopened => exact .left (not_opened_step hopened e)
  | threw hreceives htimer =>
    by_cases hterminated : (base s).terminated = true
    · refine .threw ?_ ?_ <;> simp [Operation.step, hterminated, hreceives, htimer]
    · have halive : (base s).terminated = false := by simpa using hterminated
      obtain ⟨f, event⟩ := e
      cases event with
      | abort => exact .left (not_opened_abort halive)
      | gracefulAbort errorCode errorMessage =>
        exact .left (not_opened_gracefulAbort halive errorCode errorMessage)
      | datagram | timeout | receiveError | timerError =>
        refine .threw ?_ ?_ <;>
          simp [Operation.step, onDatagram, onTimeout, halive, hreceives, htimer]
  | waits halive hopened hreceives htimer huntouched =>
    obtain ⟨f, event⟩ := e
    cases event with
    | datagram source rawPacket =>
      exact .datagram halive hopened hreceives htimer huntouched source rawPacket
    | timeout => exact .timeout halive hopened hreceives htimer huntouched
    | receiveError =>
      refine .left ?_
      simp only [Operation.step, base_withBase, halive, hreceives, Bool.false_eq_true, if_false,
        withBase_withBase]
      exact not_opened_finished (Or.inl (by rfl)) _ _
    | timerError =>
      obtain ⟨d, htimer⟩ := htimer
      refine .left ?_
      simp only [Operation.step, base_withBase, halive, htimer, Bool.false_eq_true, if_false,
        withBase_withBase]
      exact not_opened_finished (Or.inl (by rfl)) _ _
    | abort => exact .left (not_opened_abort halive)
    | gracefulAbort errorCode errorMessage =>
      exact .left (not_opened_gracefulAbort halive errorCode errorMessage)

/-- **In the course of any run**, whatever is received and whatever fails. -/
theorem asRequested_run {init : σ} {history : List (Transition σ (Faults × Event))}
    (hstart : AsRequested s₀ init) (hrun : Run Operation.step init history s) :
    AsRequested s₀ s := by
  induction hrun with
  | start => exact hstart
  | next e hrun ih => exact ih.step e

end Connecting

/-- A client that still waits for the first answer is as it was when it sent the request. -/
theorem AsRequested.of_awaits (h : AsRequested s₀ s) (hawaits : (base s).AwaitsAnswer) :
    (base s).Settled ∧ (base s).phase = .requesting (base s).remoteV.address ∧
      untouched s = untouched s₀ := by
  cases h with
  | left hopened => exact absurd hawaits.opened hopened
  | threw hreceives htimer => exact absurd hreceives hawaits.receives
  | waits halive hopened hreceives htimer huntouched =>
    refine ⟨⟨halive, ?_⟩, OperationImpl.phase_opened hopened, huntouched⟩
    rw [hopened]
    exact ⟨hreceives, htimer⟩

end Operation

/-! ### The two clients -/

namespace Clients

open Tftp.OperationImpl

variable {δ : Type} {f : Faults}

theorem OperationImpl.not_opened_errorPacket [DataHandler δ] {b : OperationImpl δ}
    (h : b.socketV ≠ .opened) (errorCode : ErrorCode) (errorMessage : RawData) :
    (errorPacket b errorCode errorMessage).socketV ≠ .opened := by
  obtain ⟨status, -, -, heq⟩ := errorPacket_eq b errorCode errorMessage
  rw [heq]
  exact not_opened_finished (Or.inr h) _ _

/-- An abort closes the socket. -/
theorem OperationImpl.not_opened_gracefulAbort [DataHandler δ] {b : OperationImpl δ}
    (h : b.terminated = false ∨ b.socketV ≠ .opened) (errorCode : ErrorCode)
    (errorMessage : RawData) : (gracefulAbort b f errorCode errorMessage).socketV ≠ .opened := by
  rw [gracefulAbort]
  split_ifs
  · refine not_opened_finished (Or.inr ?_) _ _
    by_cases hopened : b.socketV = .opened
    · -- nothing can be sent as long as nobody has answered
      have halive := h.resolve_right (not_not.mpr hopened)
      simp only [send, halive, hopened, Bool.false_eq_true, if_false]
      exact not_opened_finished (Or.inl (by rfl)) _ _
    · exact not_opened_send hopened _
  · exact not_opened_finished h _ _

/-- The socket has been opened. -/
def OperationImpl.initialised (b : OperationImpl δ) : OperationImpl δ :=
  { b with receiveEndpointV := {}, socketV := .opened }

/-- The socket can be opened, or it is closed. -/
theorem OperationImpl.initialise_cases [DataHandler δ] {b : OperationImpl δ} (h : b.Idle)
    (f : Faults) : (initialise b f).socketV ≠ .opened ∨ initialise b f = initialised b := by
  rw [initialise]
  dsimp only
  split_ifs with hfails
  · exact Or.inl (not_opened_finished (Or.inl (by exact h.alive)) _ _)
  · exact Or.inr rfl

theorem OperationImpl.initialised_eq [DataHandler δ] {b : OperationImpl δ} (h : b.Idle) :
    initialise b {} = initialised b := by
  simp [initialise, initialised, h.closed]

theorem OperationImpl.startDataHandler_initialised [DataHandler δ] {b : OperationImpl δ}
    (h : b.Idle) : (initialised b).startDataHandler = opened b := by
  simp [OperationImpl.startDataHandler, initialised, opened, emit, h.alive]

theorem OperationImpl.not_opened_catchException [DataHandler δ] {b : OperationImpl δ}
    (h : b.socketV ≠ .opened) (e : HandlerException) : (catchException b e).socketV ≠ .opened := by
  cases e with
  | tftpException | boostException => exact not_opened_finished (Or.inr h) _ _
  | otherException =>
    rw [catchException]
    split_ifs <;> exact h

/-- An exception of the data handler ends the operation, or leaves it with an open socket and
nothing to wait for. -/
theorem OperationImpl.catchException_cases [DataHandler δ] {b : OperationImpl δ}
    (halive : b.terminated = false) (hreceives : b.receives = []) (htimer : b.timerV = none)
    (e : HandlerException) :
    (catchException b e).socketV ≠ .opened ∨
      (catchException b e).receives = [] ∧ (catchException b e).timerV = none := by
  cases e with
  | tftpException | boostException => exact Or.inl (not_opened_finished (Or.inl halive) _ _)
  | otherException =>
    refine Or.inr ?_
    simp [catchException, halive, emit, hreceives, htimer]

/-- **A client whose data handler has thrown an exception** is over, or waits for nothing. -/
theorem asRequested_of_caught {σ : Type} [DataHandler δ] [Operation σ δ] {s₀ s : σ}
    {b : OperationImpl δ} {e : HandlerException}
    (hbase : Operation.base s = OperationImpl.catchException b e) (halive : b.terminated = false)
    (hreceives : b.receives = []) (htimer : b.timerV = none) : Operation.AsRequested s₀ s := by
  rcases OperationImpl.catchException_cases halive hreceives htimer e with
    hclosed | ⟨hnothing, hnever⟩
  · exact .left (hbase ▸ hclosed)
  · exact .threw (hbase ▸ hnothing) (hbase ▸ hnever)

namespace ReadOperationImpl

variable [ReceiveDataHandler δ] {s : ReadOperationImpl δ}

theorem not_opened_dataPacket (h : s.socketV ≠ .opened) (n : BlockNumber) (data : RawData) :
    (s.dataPacket f n data).socketV ≠ .opened := by
  have hnone : (s.negotiateNone n).2.socketV ≠ .opened := by
    rw [negotiateNone]
    split_ifs
    · exact (socketV_optionNegotiation _ _ _).trans_ne h
    · exact h
  rw [dataPacket]
  dsimp only
  split_ifs
  · exact not_opened_afterData (not_opened_send h _) _ _
  · exact not_opened_reject h _ _ _
  · exact not_opened_reject h _ _ _
  · exact not_opened_reject hnone _ _ _
  · exact not_opened_afterData (not_opened_send (by exact hnone) _) _ _

theorem not_opened_negotiated (h : s.socketV ≠ .opened) (transferSizeValue : Option UInt64)
    (remoteOptions : Options) :
    (s.negotiated f transferSizeValue remoteOptions).socketV ≠ .opened := by
  have hoffered := (socketV_offerTransferSize s.toOperationImpl transferSizeValue).trans_ne h
  have hnegotiated := (socketV_optionNegotiation (s.toOperationImpl.offerTransferSize
    transferSizeValue).2 s.optionNegotiationHandlerV remoteOptions).trans_ne hoffered
  rw [negotiated]
  dsimp only
  split_ifs
  · exact not_opened_reject hoffered _ _ _
  · exact not_opened_reject hnegotiated _ _ _
  · exact not_opened_reject hnegotiated _ _ _
  · exact not_opened_arm (not_opened_send hnegotiated _) _ _ _

theorem not_opened_optionsAcknowledgementPacket (h : s.socketV ≠ .opened) (m : Options) :
    (s.optionsAcknowledgementPacket f m).socketV ≠ .opened := by
  rw [optionsAcknowledgementPacket]
  split_ifs
  · exact not_opened_reject h _ _ _
  · exact not_opened_reject h _ _ _
  · split
    · exact not_opened_reject h _ _ _
    · dsimp only
      split
      · exact not_opened_reject h _ _ _
      · split
        · exact not_opened_reject (by exact h) _ _ _
        · exact not_opened_negotiated (by exact h) _ _

instance : Operation.Connecting (ReadOperationImpl δ) δ where
  received s f r h := by
    cases r with
    | invalid => exact not_opened_reject h _ _ _
    | packet packet =>
      cases packet with
      | data n data => exact not_opened_dataPacket h n data
      | optionsAcknowledgement m => exact not_opened_optionsAcknowledgementPacket h m
      | error errorCode errorMessage =>
        exact OperationImpl.not_opened_errorPacket h errorCode errorMessage
      | readRequest | writeRequest | acknowledgement => exact not_opened_reject h _ _ _
  gracefulAbort s f errorCode errorMessage h :=
    OperationImpl.not_opened_gracefulAbort h errorCode errorMessage

/-- What `request` does with a socket that can be opened. -/
theorem request_initialised (h : s.Idle)
    (hinitialised : OperationImpl.initialise s.toOperationImpl f =
      OperationImpl.initialised s.toOperationImpl) (hthrows : f.startThrows = none) :
    s.request f = { s with
      toOperationImpl := ((OperationImpl.opened s.toOperationImpl).sendFirst f
        (.readRequest s.filenameV s.modeV s.requestOptions)).receiveFirst f
      receiveDataSize := defaultDataSize
      lastReceivedBlockNumber := 0 } := by
  have hstarted := OperationImpl.startDataHandler_initialised h
  simp only [request, update, hinitialised, hthrows, hstarted]
  rfl

/-- **After `request`**, whatever fails in it. -/
theorem asRequested_request (settings : Settings δ) (f : Faults) :
    Operation.AsRequested ((configured settings).request {}) ((configured settings).request f) := by
  have hidle := idle_configured settings
  have htimer : (configured settings).timerV = none := rfl
  generalize configured settings = s at hidle htimer
  rcases OperationImpl.initialise_cases hidle f with hclosed | hinitialised
  · refine .left ?_
    rw [request]
    dsimp only
    split
    · exact OperationImpl.not_opened_catchException hclosed _
    · exact not_opened_arm (not_opened_sendFirst (not_opened_startDataHandler hclosed) _) _ _ _
  · cases hthrows : f.startThrows with
    | some e =>
      have heq : s.request f = s.update fun b =>
          OperationImpl.catchException (OperationImpl.initialised b) e := by
        simp only [request, update, hinitialised, hthrows]
      rw [heq]
      exact asRequested_of_caught (b := OperationImpl.initialised s.toOperationImpl) rfl
        hidle.alive hidle.receives_nil htimer
    | none =>
      have heq := request_initialised hidle hinitialised hthrows
      rcases sendFirst_cases (b := OperationImpl.opened s.toOperationImpl) hidle.alive rfl
        (.readRequest s.filenameV s.modeV s.requestOptions) f with hclosed | hsent
      · rw [heq]
        exact .left hclosed
      · have hrequest : s.request f = s.request {} := by
          rw [heq, request_initialised hidle (OperationImpl.initialised_eq hidle) rfl, hsent]
        rw [hrequest, request_eq hidle]
        exact .waits hidle.alive rfl rfl ⟨_, rfl⟩ rfl

end ReadOperationImpl

namespace WriteOperationImpl

variable [TransmitDataHandler δ] {s : WriteOperationImpl δ}

theorem not_opened_sendData (h : s.socketV ≠ .opened) :
    (s.sendData f).socketV ≠ .opened :=
  not_opened_send (by exact (socketV_nextData _ _).trans_ne h) _

theorem not_opened_acknowledgementPacket (h : s.socketV ≠ .opened) (n : BlockNumber) :
    (s.acknowledgementPacket f n).socketV ≠ .opened := by
  have hnone : (negotiateNone { s with lastReceivedBlockNumber := n } n).2.socketV ≠ .opened := by
    rw [negotiateNone]
    split_ifs
    · exact (socketV_optionNegotiation _ _ _).trans_ne h
    · exact h
  rw [acknowledgementPacket]
  dsimp only
  split_ifs
  · exact not_opened_arm h _ _ _
  · exact not_opened_reject h _ _ _
  · exact not_opened_reject hnone _ _ _
  · exact not_opened_finished (Or.inr hnone) _ _
  · exact not_opened_arm (not_opened_sendData hnone) _ _ _

theorem not_opened_negotiated (h : s.socketV ≠ .opened) (transferSizeValue : Option UInt64)
    (remoteOptions : Options) :
    (s.negotiated f transferSizeValue remoteOptions).socketV ≠ .opened := by
  have hnegotiated := (socketV_optionNegotiation s.toOperationImpl s.optionNegotiationHandlerV
    remoteOptions).trans_ne h
  rw [negotiated]
  split_ifs
  · exact not_opened_reject h _ _ _
  · dsimp only
    split_ifs
    · exact not_opened_reject hnegotiated _ _ _
    · exact not_opened_reject hnegotiated _ _ _
    · exact not_opened_arm (not_opened_sendData (by exact hnegotiated)) _ _ _

theorem not_opened_optionsAcknowledgementPacket (h : s.socketV ≠ .opened) (m : Options) :
    (s.optionsAcknowledgementPacket f m).socketV ≠ .opened := by
  rw [optionsAcknowledgementPacket]
  split_ifs
  · exact not_opened_reject h _ _ _
  · exact not_opened_reject h _ _ _
  · split
    · exact not_opened_reject h _ _ _
    · dsimp only
      split
      · exact not_opened_reject h _ _ _
      · split
        · exact not_opened_reject (by exact h) _ _ _
        · exact not_opened_negotiated (by exact h) _ _

instance : Operation.Connecting (WriteOperationImpl δ) δ where
  received s f r h := by
    cases r with
    | invalid => exact not_opened_reject h _ _ _
    | packet packet =>
      cases packet with
      | acknowledgement n => exact not_opened_acknowledgementPacket h n
      | optionsAcknowledgement m => exact not_opened_optionsAcknowledgementPacket h m
      | error errorCode errorMessage =>
        exact OperationImpl.not_opened_errorPacket h errorCode errorMessage
      | readRequest | writeRequest | data => exact not_opened_reject h _ _ _
  gracefulAbort s f errorCode errorMessage h :=
    OperationImpl.not_opened_gracefulAbort h errorCode errorMessage

theorem not_opened_sendRequest (h : s.socketV ≠ .opened) (options : Options) :
    (s.sendRequest f options).socketV ≠ .opened :=
  not_opened_arm (not_opened_sendFirst h _) _ _ _

theorem socketV_requestedTransferSize (b : OperationImpl δ) :
    b.requestedTransferSize.2.socketV = b.socketV := by
  rw [OperationImpl.requestedTransferSize]
  split_ifs <;> rfl

/-- The request is sent, and so it is waited for the answer, or the socket is closed. -/
theorem asRequested_sendRequest (halive : s.terminated = false) (hopened : s.socketV = .opened)
    (hreceives : s.receives = []) (options : Options) (f : Faults) :
    Operation.AsRequested (s.sendRequest {} options) (s.sendRequest f options) := by
  rcases sendFirst_cases halive hopened (.writeRequest s.filenameV s.modeV options) f
    with hclosed | hsent
  · exact .left hclosed
  · have heq : s.sendRequest f options = s.sendRequest {} options := by
      simp only [sendRequest, update, hsent]
    have hfirst := OperationImpl.sendFirst_eq halive hopened hreceives
      (.writeRequest s.filenameV s.modeV options)
    rw [heq, sendRequest]
    simp only [update, hfirst]
    exact .waits halive hopened rfl ⟨_, rfl⟩ rfl

/-- The operation is about to ask for the transfer size. -/
def started (s : WriteOperationImpl δ) : WriteOperationImpl δ :=
  { s with
    toOperationImpl := OperationImpl.opened s.toOperationImpl
    transmitDataSize := defaultDataSize
    lastDataPacketTransmitted := false
    lastTransmittedBlockNumber := 0
    lastReceivedBlockNumber := 0xFFFF }

/-- The operation knows the transfer size. -/
def asked (s : WriteOperationImpl δ) : WriteOperationImpl δ :=
  { s.started with
    toOperationImpl := (OperationImpl.opened s.toOperationImpl).requestedTransferSize.2
    transferSize := (OperationImpl.opened s.toOperationImpl).requestedTransferSize.1 }

/-- What `request` does with a socket that can be opened. -/
theorem request_initialised (h : s.Idle)
    (hinitialised : OperationImpl.initialise s.toOperationImpl f =
      OperationImpl.initialised s.toOperationImpl) (hthrows : f.startThrows = none) :
    s.request f =
      if s.optionsConfigurationV.handleTransferSizeOption then
        match f.transferSizeThrows with
        | some e => s.started.update (OperationImpl.catchException · e)
        | none =>
            match s.asked.transferSize with
            | some size => s.asked.sendRequest f
                ((Clients.requestOptions s.additionalOptionsV s.optionsConfigurationV).emplace
                  (tftpOptionsName .transferSize) (stdToString size.toNat))
            | none => s.asked.sendRequest f
                (Clients.requestOptions s.additionalOptionsV s.optionsConfigurationV)
      else s.started.sendRequest f
        (Clients.requestOptions s.additionalOptionsV s.optionsConfigurationV) := by
  have hstarted := OperationImpl.startDataHandler_initialised h
  simp only [request, update, hinitialised, hthrows, hstarted]
  rfl

/-- **After `request`**, whatever fails in it. -/
theorem asRequested_request (settings : Settings δ) (f : Faults) :
    Operation.AsRequested ((configured settings).request {}) ((configured settings).request f) := by
  have hidle := idle_configured settings
  have htimer : (configured settings).timerV = none := rfl
  generalize configured settings = s at hidle htimer
  rcases OperationImpl.initialise_cases hidle f with hclosed | hinitialised
  · refine .left ?_
    have hstarted := not_opened_startDataHandler hclosed
    rw [request]
    dsimp only
    split
    · exact OperationImpl.not_opened_catchException hclosed _
    · split_ifs
      · split
        · exact OperationImpl.not_opened_catchException hstarted _
        · have hasked := (socketV_requestedTransferSize _).trans_ne hstarted
          split <;> exact not_opened_sendRequest (by exact hasked) _
      · exact not_opened_sendRequest (by exact hstarted) _
  · cases hthrows : f.startThrows with
    | some e =>
      have heq : s.request f = s.update fun b =>
          OperationImpl.catchException (OperationImpl.initialised b) e := by
        simp only [request, update, hinitialised, hthrows]
      rw [heq]
      exact asRequested_of_caught (b := OperationImpl.initialised s.toOperationImpl) rfl
        hidle.alive hidle.receives_nil htimer
    | none =>
      rw [request_initialised hidle hinitialised hthrows,
        request_initialised hidle (OperationImpl.initialised_eq hidle) rfl]
      split_ifs
      · cases f.transferSizeThrows with
        | some e =>
          exact asRequested_of_caught (b := s.started.toOperationImpl) rfl hidle.alive
            hidle.receives_nil htimer
        | none =>
          have hasked := requestedTransferSize_eq (s := OperationImpl.opened s.toOperationImpl)
            hidle.alive
          have hbase : s.asked.terminated = false ∧ s.asked.socketV = .opened ∧
              s.asked.receives = [] := by
            simp only [asked, hasked]
            exact ⟨hidle.alive, rfl, hidle.receives_nil⟩
          dsimp only
          cases s.asked.transferSize <;>
            exact asRequested_sendRequest hbase.1 hbase.2.1 hbase.2.2 _ f
      · exact asRequested_sendRequest (s := s.started) hidle.alive rfl hidle.receives_nil _ f

end WriteOperationImpl

/-! ### The answer -/

/-- **The acknowledgement is rejected**: the data handler may be asked about the transfer size, then
one ERROR packet is sent, and the operation is over with an error. -/
structure OperationImpl.Rejects (reports : Bool) (b' : OperationImpl δ) (peer : Endpoint) :
    Prop where
  isOver : b'.phase = .done
  actions : ∃ calls errorCode errorMessage status,
    (calls = [] ∨ ∃ n, calls = [.receivedTransferSize n]) ∧
      (status = .optionNegotiationError ∨ status = .transferError) ∧
        b'.actions = calls ++ .send (Packet.error errorCode (ascii errorMessage)).encode peer ::
          Action.completion reports status

theorem OperationImpl.Rejects.not_waiting {reports : Bool} {b' : OperationImpl δ} {peer : Endpoint}
    (h : Rejects reports b' peer) : b'.phase ≠ .waiting peer := by
  rw [h.isOver]
  rintro ⟨⟩

/-- **The verdict can be told from the phase**: who waits for its peer has accepted. -/
theorem OperationImpl.verdict {answers accepts : Prop} {b' : OperationImpl δ}
    {peer : Endpoint} {reports : Bool} (hwaits : accepts → b'.phase = .waiting peer)
    (h : answers ∧ accepts ∨ ¬ answers ∧ Rejects reports b' peer) :
    (b'.phase = .waiting peer ↔ answers) ∧ (b'.phase = .waiting peer → accepts) ∧
      (b'.phase ≠ .waiting peer → Rejects reports b' peer) := by
  rcases h with ⟨hanswers, haccepts⟩ | ⟨hanswers, hrejects⟩
  · have hphase := hwaits haccepts
    exact ⟨iff_of_true hphase hanswers, fun _ => haccepts, fun hnot => absurd hphase hnot⟩
  · have hnot := hrejects.not_waiting
    exact ⟨iff_of_false hnot hanswers, fun hphase => absurd hphase hnot, fun _ => hrejects⟩

theorem OperationImpl.rejects_reject [DataHandler δ] {b : OperationImpl δ} {peer : Endpoint}
    {calls : List Action} (h : b.Ready peer) (hactions : b.actions = calls)
    (hcalls : calls = [] ∨ ∃ n, calls = [.receivedTransferSize n]) (errorCode : ErrorCode)
    (errorMessage : String) {status : TransferStatus}
    (hstatus : status = .optionNegotiationError ∨ status = .transferError) :
    Rejects b.completionHandlerV (b.reject {} errorCode errorMessage status) peer := by
  obtain ⟨-, hphase, hact, -⟩ := h.reject errorCode errorMessage status
  refine ⟨hphase, calls, errorCode, errorMessage, status, hcalls, hstatus, ?_⟩
  rw [hact, hactions]
  rfl

theorem OperationImpl.optionNegotiation_none (b : OperationImpl δ) (remaining : Options) :
    b.optionNegotiation none remaining = ((true, remaining), b) := rfl

namespace ReadOperationImpl

variable [ReceiveDataHandler δ] {s t : ReadOperationImpl δ} {peer : Endpoint} {m : Options}

/-- **The acknowledgement is accepted**: the data handler may be asked about the transfer size, then
it is acknowledged, and the values are taken over. -/
structure Accepts (s s' : ReadOperationImpl δ) (peer : Endpoint) (m : Options) : Prop where
  waits : s'.phase = .waiting peer
  actions : ∃ calls, (calls = [] ∨ ∃ n, calls = [.receivedTransferSize n]) ∧
    s'.actions = calls ++ [.send (Packet.acknowledgement 0).encode peer]
  dataSize : s'.receiveDataSize = (acknowledgedBlockSize m).getD s.receiveDataSize
  timeout : s'.receiveTimeoutV = (acknowledgedTimeout m).getD s.receiveTimeoutV

/-- All checks have passed, the transfer size is acceptable, and no option is left. -/
theorem negotiated_accepts (h : t.Ready peer) (hactions : t.actions = [])
    (hhandler : t.optionNegotiationHandlerV = none) {transferSize : Option UInt64}
    (hsize : ∀ n, transferSize = some n →
      (ReceiveDataHandler.receivedTransferSize t.dataHandlerV n).1 = true)
    {remaining : Options} (hleft : remaining.isEmpty = true) :
    (t.negotiated {} transferSize remaining).phase = .waiting peer ∧
      (∃ calls, (calls = [] ∨ ∃ n, calls = [.receivedTransferSize n]) ∧
        (t.negotiated {} transferSize remaining).actions =
          calls ++ [.send (Packet.acknowledgement 0).encode peer]) ∧
      (t.negotiated {} transferSize remaining).receiveDataSize = t.receiveDataSize ∧
      (t.negotiated {} transferSize remaining).receiveTimeoutV = t.receiveTimeoutV := by
  obtain ⟨accepted, state, calls, heq, hcalls⟩ := h.offerTransferSize_called transferSize
  obtain rfl : accepted = true :=
    (congrArg Prod.fst heq).symm.trans (h.offerTransferSize_accepted hsize)
  obtain ⟨-, hphase, hact, -, -, hsame⟩ :=
    (h.called state calls).sendAndReceive (.acknowledgement 0)
  rw [called_actions, hactions, List.nil_append] at hact
  simp only [negotiated, heq, hhandler, OperationImpl.optionNegotiation_none, hleft, Bool.not_true,
    Bool.false_eq_true, if_false]
  exact ⟨hphase, ⟨calls, hcalls, hact⟩, rfl, hsame.timeout⟩

/-- All checks have passed, but the transfer size is not acceptable, or an option is left. -/
theorem negotiated_rejects (h : t.Ready peer) (hactions : t.actions = [])
    (hhandler : t.optionNegotiationHandlerV = none) {transferSize : Option UInt64}
    {remaining : Options}
    (hnot : ¬ ((∀ n, transferSize = some n →
      (ReceiveDataHandler.receivedTransferSize t.dataHandlerV n).1 = true) ∧
        remaining.isEmpty = true)) :
    OperationImpl.Rejects t.completionHandlerV
      (t.negotiated {} transferSize remaining).toOperationImpl peer := by
  obtain ⟨accepted, state, calls, heq, hcalls⟩ := h.offerTransferSize_called transferSize
  have hc := h.called state calls
  have hact : (t.toOperationImpl.called state calls).actions = calls := by
    rw [called_actions, hactions, List.nil_append]
  rw [negotiated]
  simp only [heq, hhandler, OperationImpl.optionNegotiation_none]
  split_ifs with hrefused hleft hempty
  · exact OperationImpl.rejects_reject hc hact hcalls _ _ (Or.inl rfl)
  · exact absurd hleft (by simp)
  · exact OperationImpl.rejects_reject hc hact hcalls _ _ (Or.inl rfl)
  · -- nothing has been refused
    refine absurd ⟨fun n hn => ?_, by simpa using hempty⟩ hnot
    rw [hn, offerTransferSize, h.receivedTransferSize_eq] at heq
    rw [congrArg Prod.fst heq]
    simpa using hrefused

/-- **An acknowledgement is accepted if it answers the request, and rejected otherwise.** -/
theorem optionsAcknowledgementPacket_cases (h : t.Ready peer) (hactions : t.actions = [])
    (hblock : t.lastReceivedBlockNumber = 0) (hhandler : t.optionNegotiationHandlerV = none)
    {request : Options}
    (hrequest : Requests t.optionsConfigurationV t.optionsConfigurationV.handleTransferSizeOption
      request) (m : Options) :
    Answers t.optionsConfigurationV request
        (fun n => (ReceiveDataHandler.receivedTransferSize t.dataHandlerV n).1 = true) m ∧
      t.Accepts (t.optionsAcknowledgementPacket {} m) peer m ∨
    ¬ Answers t.optionsConfigurationV request
        (fun n => (ReceiveDataHandler.receivedTransferSize t.dataHandlerV n).1 = true) m ∧
      OperationImpl.Rejects t.completionHandlerV
        (t.optionsAcknowledgementPacket {} m).toOperationImpl peer := by
  rw [answers_iff hrequest]
  have hready : ∀ timeout, ({ t.toOperationImpl with receiveTimeoutV := timeout }).Ready peer :=
    fun timeout => ⟨h.alive, h.connected, h.receives_nil⟩
  rw [optionsAcknowledgementPacket, if_neg (not_not.mpr hblock)]
  by_cases hempty : m.isEmpty = true
  · rw [if_pos hempty]
    exact Or.inr ⟨by simp [hempty], OperationImpl.rejects_reject h hactions (Or.inl rfl) _ _
      (Or.inr rfl)⟩
  rw [if_neg hempty]
  cases checked t.optionsConfigurationV t.optionsConfigurationV.handleTransferSizeOption m with
  | blockSize rejection hcheck hfits =>
    simp only [hcheck]
    exact Or.inr ⟨fun h => hfits h.2.1, OperationImpl.rejects_reject h hactions (Or.inl rfl) _ _
      (Or.inl rfl)⟩
  | timeout m₁ rejection hcheck hcheck' hfits =>
    simp only [hcheck, hcheck']
    exact Or.inr ⟨fun h => hfits h.2.1, OperationImpl.rejects_reject h hactions (Or.inl rfl) _ _
      (Or.inl rfl)⟩
  | transferSize m₁ m₂ rejection hcheck hcheck' hcheck'' hfits =>
    simp only [hcheck, hcheck', hcheck'']
    refine Or.inr ⟨fun h => hfits h.2.1, ?_⟩
    exact OperationImpl.rejects_reject (hready ((acknowledgedTimeout m).getD t.receiveTimeoutV))
      hactions (Or.inl rfl) _ _ (Or.inl rfl)
  | passed m₁ m₂ m₃ hcheck hcheck' hcheck'' hfits hleft =>
    simp only [hcheck, hcheck', hcheck'']
    by_cases hlast : (∀ n, acknowledgedTransferSize m = some n →
        (ReceiveDataHandler.receivedTransferSize t.dataHandlerV n).1 = true) ∧ m₃.isEmpty = true
    · obtain ⟨hphase, hacts, hsize, htimeout⟩ := negotiated_accepts (t := { t with
        receiveDataSize := (acknowledgedBlockSize m).getD t.receiveDataSize
        receiveTimeoutV := (acknowledgedTimeout m).getD t.receiveTimeoutV }) (hready _) hactions
          hhandler hlast.1 hlast.2
      exact Or.inl ⟨⟨by simpa using hempty, hfits, hleft.mp hlast.2, hlast.1⟩,
        ⟨hphase, hacts, hsize, htimeout⟩⟩
    · refine Or.inr ⟨fun h => hlast ⟨h.2.2.2, hleft.mpr h.2.2.1⟩, ?_⟩
      exact negotiated_rejects (t := { t with
        receiveDataSize := (acknowledgedBlockSize m).getD t.receiveDataSize
        receiveTimeoutV := (acknowledgedTimeout m).getD t.receiveTimeoutV }) (hready _) hactions
          hhandler hlast

/-- What a client that still waits has kept from its settings. -/
theorem kept_of_awaits {settings : Settings δ} {history}
    (hrun : Protocol.Run Operation.step ((configured settings).request f) history s)
    (hawaits : s.AwaitsAnswer) :
    s.Settled ∧ s.phase = .requesting settings.remote.address ∧
      s.optionsConfigurationV = settings.optionsConfiguration ∧
      s.optionNegotiationHandlerV = settings.optionNegotiationHandler ∧
      s.completionHandlerV = settings.completionHandler ∧ s.lastReceivedBlockNumber = 0 := by
  obtain ⟨hsettled, hphase, huntouched⟩ :=
    (Operation.asRequested_run (asRequested_request settings f) hrun).of_awaits hawaits
  rw [request_eq (idle_configured settings)] at huntouched
  have hremote : s.remoteV = settings.remote := congrArg (·.remoteV) huntouched
  refine ⟨hsettled, hphase.trans ?_, congrArg (·.optionsConfigurationV) huntouched,
    congrArg (·.optionNegotiationHandlerV) huntouched, congrArg (·.completionHandlerV) huntouched,
    congrArg (·.lastReceivedBlockNumber) huntouched⟩
  exact congrArg (fun e : Endpoint => Phase.requesting e.address) hremote

omit [ReceiveDataHandler δ] in
/-- The options of a request without additional ones. -/
theorem requests_configured {settings : Settings δ}
    (hadditional : settings.additionalOptions = Protocol.SortedMap.empty) :
    Requests settings.optionsConfiguration settings.optionsConfiguration.handleTransferSizeOption
      (configured settings).requestOptions := by
  have hrequests := requests_requestOptions settings.optionsConfiguration
  rw [requestOptions]
  simp only [configured, optionsConfiguration, hadditional]
  cases hhandle : settings.optionsConfiguration.handleTransferSizeOption with
  | false => exact hrequests.1
  | true => exact hrequests.2 _

/-- **The first answer to a read request**, if it is an acknowledgement of options. -/
theorem oack_cases {settings : Settings δ} {history}
    (hadditional : settings.additionalOptions = Protocol.SortedMap.empty)
    (hhandler : settings.optionNegotiationHandler = none)
    (hrun : Protocol.Run Operation.step ((configured settings).request f) history s)
    (hawaits : s.AwaitsAnswer) {source : Endpoint}
    (hsource : source.address = settings.remote.address)
    {rawPacket : RawData} (hpacket : PacketHandler.packet (rawPacket.take s.receivePacketV) =
      .packet (.optionsAcknowledgement m)) :
    Answers settings.optionsConfiguration (configured settings).requestOptions
        (fun n => (ReceiveDataHandler.receivedTransferSize s.dataHandlerV n).1 = true) m ∧
      s.Accepts (Operation.peerStep s (.datagram source rawPacket)) source m ∨
    ¬ Answers settings.optionsConfiguration (configured settings).requestOptions
        (fun n => (ReceiveDataHandler.receivedTransferSize s.dataHandlerV n).1 = true) m ∧
      OperationImpl.Rejects settings.completionHandler
        (Operation.peerStep s (.datagram source rawPacket)).toOperationImpl source := by
  obtain ⟨hsettled, hphase, hconfiguration, hnone, hreports, hblock⟩ := kept_of_awaits hrun hawaits
  have hadmits : (Operation.base s).phase.admits source := by
    rw [show (Operation.base s).phase = _ from hphase]
    exact hsource
  obtain ⟨lastEndpoint, hready, heq⟩ :=
    Operation.peerStep_admitted (s := s) hsettled hadmits rawPacket
  rw [show (Operation.base s).receivePacketV = s.receivePacketV from rfl, hpacket] at heq
  let t : ReadOperationImpl δ := s.update (·.takenUp source lastEndpoint)
  have ht : Operation.peerStep s (.datagram source rawPacket) =
      t.optionsAcknowledgementPacket {} m :=
    heq
  have hrequest : Requests t.optionsConfigurationV
      t.optionsConfigurationV.handleTransferSizeOption (configured settings).requestOptions := by
    rw [show t.optionsConfigurationV = _ from hconfiguration]
    exact requests_configured hadditional
  have hcases := optionsAcknowledgementPacket_cases (t := t) hready rfl hblock
    (hnone.trans hhandler) hrequest m
  rw [show t.optionsConfigurationV = _ from hconfiguration,
    show t.completionHandlerV = _ from hreports] at hcases
  rw [ht]
  rcases hcases with ⟨hanswers, haccepts⟩ | hrejects
  · exact Or.inl ⟨hanswers, haccepts.waits, haccepts.actions, haccepts.dataSize, haccepts.timeout⟩
  · exact Or.inr hrejects

end ReadOperationImpl

namespace WriteOperationImpl

variable [TransmitDataHandler δ] {s t : WriteOperationImpl δ} {peer : Endpoint} {m : Options}

/-- **The acknowledgement is accepted**: the values are taken over, and the first block is sent. -/
structure Accepts (s s' : WriteOperationImpl δ) (peer : Endpoint) (m : Options) : Prop where
  waits : s'.phase = .waiting peer
  actions : ∃ data, s'.actions = [.sendData s'.transmitDataSize.toNat data,
    .send (Packet.data 1 data).encode peer]
  dataSize : s'.transmitDataSize = (acknowledgedBlockSize m).getD s.transmitDataSize
  timeout : s'.receiveTimeoutV = (acknowledgedTimeout m).getD s.receiveTimeoutV

/-- All checks have passed, the transfer size is the announced one, and no option is left. -/
theorem negotiated_accepts (h : t.Ready peer) (hactions : t.actions = [])
    (hhandler : t.optionNegotiationHandlerV = none) (hblock : t.lastTransmittedBlockNumber = 0)
    {transferSize : Option UInt64} (hsize : ∀ n, transferSize = some n → t.transferSize = some n)
    {remaining : Options} (hleft : remaining.isEmpty = true) :
    (t.negotiated {} transferSize remaining).phase = .waiting peer ∧
      (∃ data, (t.negotiated {} transferSize remaining).actions =
        [.sendData t.transmitDataSize.toNat data, .send (Packet.data 1 data).encode peer]) ∧
      (t.negotiated {} transferSize remaining).transmitDataSize = t.transmitDataSize ∧
      (t.negotiated {} transferSize remaining).receiveTimeoutV = t.receiveTimeoutV := by
  have hsame : ¬ (transferSize.isSome ∧ transferSize ≠ t.transferSize) := by
    rintro ⟨hsome, hne⟩
    obtain ⟨n, hn⟩ := Option.isSome_iff_exists.mp hsome
    exact hne (hn.trans (hsize n hn).symm)
  obtain ⟨-, hphase, hact, hview⟩ := sendData_receive h
  rw [hactions, List.nil_append] at hact
  simp only [negotiated, if_neg hsame, hhandler, OperationImpl.optionNegotiation_none, hleft,
    Bool.not_true, Bool.false_eq_true, if_false]
  refine ⟨hphase, ⟨t.view.block, hact.trans ?_⟩, congrArg SenderView.dataSize hview,
    congrArg SenderView.timeout hview⟩
  rw [SenderView.sending, show t.view.transmitted = 0 from hblock]
  rfl

/-- All checks have passed, but the transfer size is another one, or an option is left. -/
theorem negotiated_rejects (h : t.Ready peer) (hactions : t.actions = [])
    (hhandler : t.optionNegotiationHandlerV = none) {transferSize : Option UInt64}
    {remaining : Options}
    (hnot : ¬ ((∀ n, transferSize = some n → t.transferSize = some n) ∧
      remaining.isEmpty = true)) :
    OperationImpl.Rejects t.completionHandlerV
      (t.negotiated {} transferSize remaining).toOperationImpl peer := by
  rw [negotiated]
  simp only [hhandler, OperationImpl.optionNegotiation_none]
  split_ifs with hother hleft hempty
  · exact OperationImpl.rejects_reject h hactions (Or.inl rfl) _ _ (Or.inl rfl)
  · exact absurd hleft (by simp)
  · exact OperationImpl.rejects_reject h hactions (Or.inl rfl) _ _ (Or.inl rfl)
  · refine absurd ⟨fun n hn => ?_, by simpa using hempty⟩ hnot
    by_contra hne
    exact hother ⟨by rw [hn]; rfl, fun heq => hne (heq.symm.trans hn)⟩

/-- **An acknowledgement is accepted if it answers the request, and rejected otherwise.** -/
theorem optionsAcknowledgementPacket_cases (h : t.Ready peer) (hactions : t.actions = [])
    (hreceived : t.lastReceivedBlockNumber = 0xFFFF) (hblock : t.lastTransmittedBlockNumber = 0)
    (hhandler : t.optionNegotiationHandlerV = none) {request : Options}
    (hrequest : Requests t.optionsConfigurationV
      (t.optionsConfigurationV.handleTransferSizeOption && t.transferSize.isSome) request)
    (m : Options) :
    Answers t.optionsConfigurationV request (fun n => t.transferSize = some n) m ∧
      t.Accepts (t.optionsAcknowledgementPacket {} m) peer m ∨
    ¬ Answers t.optionsConfigurationV request (fun n => t.transferSize = some n) m ∧
      OperationImpl.Rejects t.completionHandlerV
        (t.optionsAcknowledgementPacket {} m).toOperationImpl peer := by
  rw [answers_iff hrequest]
  have hready : ∀ timeout, ({ t.toOperationImpl with receiveTimeoutV := timeout }).Ready peer :=
    fun timeout => ⟨h.alive, h.connected, h.receives_nil⟩
  rw [optionsAcknowledgementPacket, if_neg (not_not.mpr hreceived)]
  by_cases hempty : m.isEmpty = true
  · rw [if_pos hempty]
    exact Or.inr ⟨by simp [hempty], OperationImpl.rejects_reject h hactions (Or.inl rfl) _ _
      (Or.inr rfl)⟩
  rw [if_neg hempty]
  cases checked t.optionsConfigurationV
    (t.optionsConfigurationV.handleTransferSizeOption && t.transferSize.isSome) m with
  | blockSize rejection hcheck hfits =>
    simp only [hcheck]
    exact Or.inr ⟨fun h => hfits h.2.1, OperationImpl.rejects_reject h hactions (Or.inl rfl) _ _
      (Or.inl rfl)⟩
  | timeout m₁ rejection hcheck hcheck' hfits =>
    simp only [hcheck, hcheck']
    exact Or.inr ⟨fun h => hfits h.2.1, OperationImpl.rejects_reject h hactions (Or.inl rfl) _ _
      (Or.inl rfl)⟩
  | transferSize m₁ m₂ rejection hcheck hcheck' hcheck'' hfits =>
    simp only [hcheck, hcheck', hcheck'']
    refine Or.inr ⟨fun h => hfits h.2.1, ?_⟩
    exact OperationImpl.rejects_reject (hready ((acknowledgedTimeout m).getD t.receiveTimeoutV))
      hactions (Or.inl rfl) _ _ (Or.inl rfl)
  | passed m₁ m₂ m₃ hcheck hcheck' hcheck'' hfits hleft =>
    simp only [hcheck, hcheck', hcheck'']
    by_cases hlast : (∀ n, acknowledgedTransferSize m = some n → t.transferSize = some n) ∧
        m₃.isEmpty = true
    · obtain ⟨hphase, hacts, hsize, htimeout⟩ := negotiated_accepts (t := { t with
        transmitDataSize := (acknowledgedBlockSize m).getD t.transmitDataSize
        receiveTimeoutV := (acknowledgedTimeout m).getD t.receiveTimeoutV }) (hready _) hactions
          hhandler hblock hlast.1 hlast.2
      refine Or.inl ⟨⟨by simpa using hempty, hfits, hleft.mp hlast.2, hlast.1⟩,
        ⟨hphase, ?_, hsize, htimeout⟩⟩
      rw [hsize]
      exact hacts
    · refine Or.inr ⟨fun h => hlast ⟨h.2.2.2, hleft.mpr h.2.2.1⟩, ?_⟩
      exact negotiated_rejects (t := { t with
        transmitDataSize := (acknowledgedBlockSize m).getD t.transmitDataSize
        receiveTimeoutV := (acknowledgedTimeout m).getD t.receiveTimeoutV }) (hready _) hactions
          hhandler hlast

/-- Only a transfer size that is to be handled is announced. -/
theorem handle_and_announced (s : WriteOperationImpl δ) :
    (s.optionsConfigurationV.handleTransferSizeOption && s.announced.1.isSome) =
      s.announced.1.isSome := by
  rw [announced]
  cases s.optionsConfigurationV.handleTransferSizeOption <;> simp

/-- What a client that still waits has kept from its settings, and the transfer size that it has
announced. -/
theorem kept_of_awaits {settings : Settings δ} {history}
    (hrun : Protocol.Run Operation.step ((configured settings).request f) history s)
    (hawaits : s.AwaitsAnswer) :
    s.Settled ∧ s.phase = .requesting settings.remote.address ∧
      s.optionsConfigurationV = settings.optionsConfiguration ∧
      s.optionNegotiationHandlerV = settings.optionNegotiationHandler ∧
      s.completionHandlerV = settings.completionHandler ∧
      s.lastReceivedBlockNumber = 0xFFFF ∧ s.lastTransmittedBlockNumber = 0 ∧
      s.transferSize = (configured settings).announced.1 := by
  obtain ⟨hsettled, hphase, huntouched⟩ :=
    (Operation.asRequested_run (asRequested_request settings f) hrun).of_awaits hawaits
  rw [request_eq (idle_configured settings)] at huntouched
  have hremote : s.remoteV = settings.remote := congrArg (·.remoteV) huntouched
  refine ⟨hsettled, hphase.trans ?_, congrArg (·.optionsConfigurationV) huntouched,
    congrArg (·.optionNegotiationHandlerV) huntouched, congrArg (·.completionHandlerV) huntouched,
    congrArg (·.lastReceivedBlockNumber) huntouched,
    congrArg (·.lastTransmittedBlockNumber) huntouched, ?_⟩
  · exact congrArg (fun e : Endpoint => Phase.requesting e.address) hremote
  · have hsize : s.transferSize = if settings.optionsConfiguration.handleTransferSizeOption then
        (configured settings).announced.1 else none := congrArg (·.transferSize) huntouched
    rw [hsize, announced, show (configured settings).optionsConfigurationV =
      settings.optionsConfiguration from rfl]
    cases settings.optionsConfiguration.handleTransferSizeOption <;> rfl

/-- The options of a request without additional ones. -/
theorem requests_configured {settings : Settings δ}
    (hadditional : settings.additionalOptions = Protocol.SortedMap.empty) :
    Requests settings.optionsConfiguration (configured settings).announced.1.isSome
      (configured settings).requestOptions := by
  have hrequests := requests_requestOptions settings.optionsConfiguration
  rw [requestOptions]
  cases (configured settings).announced.1 with
  | none =>
    simp only [configured, hadditional]
    exact hrequests.1
  | some size =>
    simp only [configured, hadditional]
    exact hrequests.2 _

/-- **The first answer to a write request**, if it is an acknowledgement of options. -/
theorem oack_cases {settings : Settings δ} {history}
    (hadditional : settings.additionalOptions = Protocol.SortedMap.empty)
    (hhandler : settings.optionNegotiationHandler = none)
    (hrun : Protocol.Run Operation.step ((configured settings).request f) history s)
    (hawaits : s.AwaitsAnswer) {source : Endpoint}
    (hsource : source.address = settings.remote.address)
    {rawPacket : RawData} (hpacket : PacketHandler.packet (rawPacket.take s.receivePacketV) =
      .packet (.optionsAcknowledgement m)) :
    Answers settings.optionsConfiguration (configured settings).requestOptions
        (fun n => s.transferSize = some n) m ∧
      s.Accepts (Operation.peerStep s (.datagram source rawPacket)) source m ∨
    ¬ Answers settings.optionsConfiguration (configured settings).requestOptions
        (fun n => s.transferSize = some n) m ∧
      OperationImpl.Rejects settings.completionHandler
        (Operation.peerStep s (.datagram source rawPacket)).toOperationImpl source := by
  obtain ⟨hsettled, hphase, hconfiguration, hnone, hreports, hreceived, hblock, hsize⟩ :=
    kept_of_awaits hrun hawaits
  have hadmits : (Operation.base s).phase.admits source := by
    rw [show (Operation.base s).phase = _ from hphase]
    exact hsource
  obtain ⟨lastEndpoint, hready, heq⟩ :=
    Operation.peerStep_admitted (s := s) hsettled hadmits rawPacket
  rw [show (Operation.base s).receivePacketV = s.receivePacketV from rfl, hpacket] at heq
  let t : WriteOperationImpl δ := s.update (·.takenUp source lastEndpoint)
  have ht : Operation.peerStep s (.datagram source rawPacket) =
      t.optionsAcknowledgementPacket {} m :=
    heq
  have hrequest : Requests t.optionsConfigurationV
      (t.optionsConfigurationV.handleTransferSizeOption && t.transferSize.isSome)
        (configured settings).requestOptions := by
    rw [show t.optionsConfigurationV = _ from hconfiguration, show t.transferSize = _ from hsize,
      show settings.optionsConfiguration = (configured settings).optionsConfigurationV from rfl,
      handle_and_announced]
    exact requests_configured hadditional
  have hcases := optionsAcknowledgementPacket_cases (t := t) hready rfl hreceived hblock
    (hnone.trans hhandler) hrequest m
  rw [show t.optionsConfigurationV = _ from hconfiguration,
    show t.completionHandlerV = _ from hreports] at hcases
  rw [ht]
  rcases hcases with ⟨hanswers, haccepts⟩ | hrejects
  · exact Or.inl ⟨hanswers, haccepts.waits, haccepts.actions, haccepts.dataSize, haccepts.timeout⟩
  · exact Or.inr hrejects

end WriteOperationImpl

/-- **An acknowledgement of options is accepted exactly when it answers the request**: by either
client, as long as it waits for the first answer, whatever has been received and has failed
before. -/
theorem oack_accepted_iff (δ ε : Type) [ReceiveDataHandler δ] [TransmitDataHandler ε] :
    (∀ (settings : Settings δ) f history s source rawPacket m,
      settings.additionalOptions = Protocol.SortedMap.empty →
      settings.optionNegotiationHandler = none →
      Protocol.Run Operation.step ((ReadOperationImpl.configured settings).request f) history s →
      s.AwaitsAnswer → source.address = settings.remote.address →
      PacketHandler.packet (rawPacket.take s.receivePacketV) =
        .packet (.optionsAcknowledgement m) →
      ∃ s', s' = Operation.peerStep s (.datagram source rawPacket) ∧
        (s'.phase = .waiting source ↔
          Answers settings.optionsConfiguration
            (ReadOperationImpl.configured settings).requestOptions
              (fun n => (ReceiveDataHandler.receivedTransferSize s.dataHandlerV n).1 = true) m) ∧
        (s'.phase = .waiting source → s.Accepts s' source m) ∧
        (s'.phase ≠ .waiting source →
          OperationImpl.Rejects settings.completionHandler s'.toOperationImpl source)) ∧
    (∀ (settings : Settings ε) f history s source rawPacket m,
      settings.additionalOptions = Protocol.SortedMap.empty →
      settings.optionNegotiationHandler = none →
      Protocol.Run Operation.step ((WriteOperationImpl.configured settings).request f) history s →
      s.AwaitsAnswer → source.address = settings.remote.address →
      PacketHandler.packet (rawPacket.take s.receivePacketV) =
        .packet (.optionsAcknowledgement m) →
      ∃ s', s' = Operation.peerStep s (.datagram source rawPacket) ∧
        (s'.phase = .waiting source ↔
          Answers settings.optionsConfiguration
            (WriteOperationImpl.configured settings).requestOptions
              (fun n => s.transferSize = some n) m) ∧
        (s'.phase = .waiting source → s.Accepts s' source m) ∧
        (s'.phase ≠ .waiting source →
          OperationImpl.Rejects settings.completionHandler s'.toOperationImpl source)) := by
  refine ⟨fun settings f history s source rawPacket m hadditional hhandler hrun hawaits hsource
    hpacket => ⟨_, rfl, ?_⟩, fun settings f history s source rawPacket m hadditional hhandler hrun
    hawaits hsource hpacket => ⟨_, rfl, ?_⟩⟩
  · exact OperationImpl.verdict ReadOperationImpl.Accepts.waits
      (ReadOperationImpl.oack_cases hadditional hhandler hrun hawaits hsource hpacket)
  · exact OperationImpl.verdict WriteOperationImpl.Accepts.waits
      (WriteOperationImpl.oack_cases hadditional hhandler hrun hawaits hsource hpacket)

/-- An acknowledgement of the given block size. -/
def blockSizeOf (value : ℕ) : Options :=
  Options.emplaceNumber Protocol.SortedMap.empty (tftpOptionsName .blockSize) (some value)

/-- A client that asks for blocks of 1024 bytes. -/
def asking : Settings MemoryFile :=
  { optionsConfiguration := { blockSizeOption := some 1024 }, dataHandler := .empty }

/-- A smaller block size is accepted. -/
theorem oack_accepted_iff_block_size :
    (Operation.peerStep ((ReadOperationImpl.configured asking).request {})
      (.datagram {} (Packet.optionsAcknowledgement (blockSizeOf 600)).encode)).phase =
        .waiting {} ∧
    (Operation.peerStep ((WriteOperationImpl.configured asking).request {})
      (.datagram {} (Packet.optionsAcknowledgement (blockSizeOf 600)).encode)).phase =
        .waiting {} := by
  have hfind : ∀ name, (blockSizeOf 600).find? name =
      if name = tftpOptionsName .blockSize then some (stdToString 600) else none := by
    intro name
    rw [blockSizeOf, Options.find?_emplaceNumber, Protocol.SortedMap.find?_empty, Option.none_or]
    rfl
  have hnone : ∀ option, option ≠ KnownOptions.blockSize →
      (blockSizeOf 600).find? (tftpOptionsName option) = none := by
    intro option hne
    rw [hfind, if_neg (TftpOptions.tftpOptionsName_ne hne)]
  have hknown : ∀ name, ((blockSizeOf 600).find? name).isSome →
      name = tftpOptionsName .blockSize := by
    intro name hsome
    by_contra hne
    rw [hfind, if_neg hne] at hsome
    cases hsome
  have hanswers : ∀ request acceptable, (request.find? (tftpOptionsName .blockSize)).isSome →
      Answers asking.optionsConfiguration request acceptable (blockSizeOf 600) := by
    intro request acceptable hrequested
    refine ⟨rfl, fun name hsome => ⟨_, hknown name hsome⟩, fun name hsome => ?_, fun _ => ?_,
      fun hsome => ?_, fun hsome => ?_⟩
    · rw [hknown name hsome]
      exact hrequested
    · exact ⟨600, 1024, by decide, rfl, by decide, by decide⟩
    · rw [hnone .timeout (by decide)] at hsome
      cases hsome
    · rw [hnone .transferSize (by decide)] at hsome
      cases hsome
  have hpacket : ∀ size, (Packet.optionsAcknowledgement (blockSizeOf 600)).encode.length ≤ size →
      PacketHandler.packet ((Packet.optionsAcknowledgement (blockSizeOf 600)).encode.take size) =
        .packet (.optionsAcknowledgement (blockSizeOf 600)) := by
    intro size hsize
    rw [List.take_of_length_le hsize]
    exact PacketHandler.packet_encode
      ⟨rfl, Options.nulFree_empty.emplaceNumber (TftpOptions.zero_notMem_tftpOptionsName _)⟩
  obtain ⟨hread, hwrite⟩ := oack_accepted_iff MemoryFile MemoryFile
  obtain ⟨_, rfl, hread, -⟩ := hread asking {} [] _ {}
    (Packet.optionsAcknowledgement (blockSizeOf 600)).encode (blockSizeOf 600) rfl rfl .start
    ⟨by decide, by decide⟩ rfl (hpacket _ (by decide))
  obtain ⟨_, rfl, hwrite, -⟩ := hwrite asking {} [] _ {}
    (Packet.optionsAcknowledgement (blockSizeOf 600)).encode (blockSizeOf 600) rfl rfl .start
    ⟨by decide, by decide⟩ rfl (hpacket _ (by decide))
  exact ⟨hread.mpr (hanswers _ _ (by decide)), hwrite.mpr (hanswers _ _ (by decide))⟩

end Clients

end Tftp
