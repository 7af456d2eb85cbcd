import Tftp.Matching

/-!
# The data handler may be exchanged

An operation knows of its data handler only what the handler answers. So two data handlers that
answer alike – a relation between their states says what that means – make no difference: the
operation does the same with either, whatever the network, the timer and the user do
(`Tftp.Operation.Exchangeable.step`).

The relation is needed only while the handler is in use, that is until `finished`, which closes the
socket (`Tftp.OperationImpl.Exchanged`): what a handler answers after that is never asked.
-/

namespace Tftp

/-! ### What is asked of two data handlers -/

/-- **How two data handlers are related**: as long as they are in use, and after that. -/
structure HandlerRelation (δ δ' : Type) [DataHandler δ] [DataHandler δ'] where
  /-- While they are in use. -/
  inUse : δ → δ' → Prop
  /-- At any time. -/
  always : δ → δ' → Prop
  always_of_inUse : ∀ {handler handler'}, inUse handler handler' → always handler handler'
  finished : ∀ {handler handler'}, always handler handler' →
    always (DataHandler.finished handler) (DataHandler.finished handler')

/-- How the data handlers are related, if the given condition says whether they are in use. -/
def HandlerRelation.Holds {δ δ' : Type} [DataHandler δ] [DataHandler δ']
    (R : HandlerRelation δ δ') (used : Prop) (handler : δ) (handler' : δ') : Prop :=
  R.always handler handler' ∧ (used → R.inUse handler handler')

theorem HandlerRelation.inUse_holds {δ δ' : Type} [DataHandler δ] [DataHandler δ']
    {R : HandlerRelation δ δ'} {handler : δ} {handler' : δ'} (h : R.inUse handler handler')
    (used : Prop) : R.Holds used handler handler' := ⟨R.always_of_inUse h, fun _ => h⟩

section Handlers

variable {δ δ' : Type}

/-- **Two handlers that a file can be received with**, and that answer alike. -/
structure ReceiveAlike [ReceiveDataHandler δ] [ReceiveDataHandler δ'] (R : HandlerRelation δ δ') :
    Prop where
  receivedTransferSize : ∀ {handler handler'}, R.inUse handler handler' → ∀ transferSize,
    (ReceiveDataHandler.receivedTransferSize handler transferSize).1 =
        (ReceiveDataHandler.receivedTransferSize handler' transferSize).1 ∧
      R.inUse (ReceiveDataHandler.receivedTransferSize handler transferSize).2
        (ReceiveDataHandler.receivedTransferSize handler' transferSize).2
  receivedData : ∀ {handler handler'}, R.inUse handler handler' → ∀ data,
    R.inUse (ReceiveDataHandler.receivedData handler data)
      (ReceiveDataHandler.receivedData handler' data)

/-- **Two handlers that a file can be transmitted with**, and that answer alike. -/
structure TransmitAlike [TransmitDataHandler δ] [TransmitDataHandler δ']
    (R : HandlerRelation δ δ') : Prop where
  requestedTransferSize : ∀ {handler handler'}, R.inUse handler handler' →
    (TransmitDataHandler.requestedTransferSize handler).1 =
        (TransmitDataHandler.requestedTransferSize handler').1 ∧
      R.inUse (TransmitDataHandler.requestedTransferSize handler).2
        (TransmitDataHandler.requestedTransferSize handler').2
  sendData : ∀ {handler handler'}, R.inUse handler handler' → ∀ maxSize,
    (TransmitDataHandler.sendData handler maxSize).1 =
        (TransmitDataHandler.sendData handler' maxSize).1 ∧
      R.inUse (TransmitDataHandler.sendData handler maxSize).2
        (TransmitDataHandler.sendData handler' maxSize).2

/-- Two option negotiation handlers, if there are any, that decide alike. -/
def NegotiateAlike [DataHandler δ] [DataHandler δ'] (R : HandlerRelation δ δ') :
    Option (OptionNegotiationHandler δ) → Option (OptionNegotiationHandler δ') → Prop
  | none, none => True
  | some g, some g' => ∀ handler handler' options, R.inUse handler handler' →
      (g handler options).1 = (g' handler' options).1 ∧
        (g handler options).2.1 = (g' handler' options).2.1 ∧
        R.inUse (g handler options).2.2 (g' handler' options).2.2
  | _, _ => False

end Handlers

namespace OperationImpl

section State

variable {δ δ' : Type} {b : OperationImpl δ}

/-- The same state with another data handler. -/
def withHandler (b : OperationImpl δ) (handler : δ') : OperationImpl δ' :=
  { b with dataHandlerV := handler }

section WithHandler

variable (b) (handler : δ')

@[simp] theorem withHandler_tftpRetriesV :
    (b.withHandler handler).tftpRetriesV = b.tftpRetriesV := rfl

@[simp] theorem withHandler_socketV : (b.withHandler handler).socketV = b.socketV := rfl

@[simp] theorem withHandler_receives : (b.withHandler handler).receives = b.receives := rfl

@[simp] theorem withHandler_transmitCounterV :
    (b.withHandler handler).transmitCounterV = b.transmitCounterV := rfl

@[simp] theorem withHandler_terminated : (b.withHandler handler).terminated = b.terminated := rfl

end WithHandler

/-- The data handler is in use. -/
def InUse (b : OperationImpl δ) : Prop := b.terminated = false ∧ b.socketV ≠ .closed

/-- The handler may be asked: it is in use, or not asked because the process was terminated. -/
def Usable (b : OperationImpl δ) : Prop := b.socketV = .closed → b.terminated = true

theorem InUse.usable (h : b.InUse) : b.Usable := fun hclosed => absurd hclosed h.2

theorem Usable.inUse (h : b.Usable) (halive : ¬ b.terminated = true) : b.InUse :=
  ⟨Bool.eq_false_iff.mpr halive, fun hclosed => halive (h hclosed)⟩

end State

section Engine

variable {δ δ' : Type} [DataHandler δ] [DataHandler δ'] {R : HandlerRelation δ δ'}
  {b : OperationImpl δ} {b' : OperationImpl δ'} {f : Faults}

/-- **The same state but for the data handler**, and the two handlers are related. -/
def Exchanged (R : HandlerRelation δ δ') (b : OperationImpl δ) (b' : OperationImpl δ') : Prop :=
  ∃ handler, b' = b.withHandler handler ∧ R.Holds b.InUse b.dataHandlerV handler

/-- The timeout is negotiated, to the same. -/
theorem Exchanged.withTimeout (h : Exchanged R b b') (timeout : Option ℤ) :
    Exchanged R { b with receiveTimeoutV := timeout.getD b.receiveTimeoutV }
      { b' with receiveTimeoutV := timeout.getD b'.receiveTimeoutV } := by
  obtain ⟨handler, rfl, hR⟩ := h
  exact ⟨handler, rfl, hR⟩

theorem Exchanged.observed (h : Exchanged R b b') :
    b.actions = b'.actions ∧ b.timerV = b'.timerV := by
  obtain ⟨handler, rfl, -⟩ := h
  exact ⟨rfl, rfl⟩

/-- Nothing is asked of the handlers any more. -/
theorem Exchanged.finished (h : Exchanged R b b') (status : TransferStatus)
    (errorInformation : Option (ErrorCode × RawData)) :
    Exchanged R (b.finished status errorInformation) (b'.finished status errorInformation) := by
  obtain ⟨handler, rfl, hR⟩ := h
  by_cases halive : b.terminated = true
  · rw [OperationImpl.finished, OperationImpl.finished, withHandler_terminated, if_pos halive,
      if_pos halive]
    exact ⟨handler, rfl, hR⟩
  · have hhandler : (b.finished status errorInformation).dataHandlerV =
        DataHandler.finished b.dataHandlerV := by
      cases hsock : b.socketV <;> cases hreports : b.completionHandlerV <;>
        simp [OperationImpl.finished, OperationImpl.emit, halive, hsock, hreports]
    refine ⟨DataHandler.finished handler, ?_, hhandler ▸ R.finished hR.1, fun hinUse => ?_⟩
    · cases hsock : b.socketV <;> cases hreports : b.completionHandlerV <;>
        simp [OperationImpl.finished, OperationImpl.emit, withHandler, halive, hsock, hreports]
    · refine absurd ?_ hinUse.2
      cases hsock : b.socketV <;> cases hreports : b.completionHandlerV <;>
        simp [OperationImpl.finished, OperationImpl.emit, halive, hsock, hreports]

theorem Exchanged.sendFirst (h : Exchanged R b b') (packet : Packet) :
    Exchanged R (b.sendFirst f packet) (b'.sendFirst f packet) := by
  obtain ⟨handler, rfl, hR⟩ := h
  dsimp only [OperationImpl.sendFirst, withHandler]
  split_ifs
  · exact ⟨handler, rfl, hR⟩
  · refine Exchanged.finished ?_ _ _
    exact ⟨handler, rfl, hR⟩
  · exact ⟨handler, rfl, hR⟩

theorem Exchanged.send (h : Exchanged R b b') (packet : Packet) :
    Exchanged R (b.send f packet) (b'.send f packet) := by
  obtain ⟨handler, rfl, hR⟩ := h
  by_cases halive : b.terminated = true
  · rw [OperationImpl.send, OperationImpl.send, withHandler_terminated, if_pos halive,
      if_pos halive]
    exact ⟨handler, rfl, hR⟩
  · dsimp only [OperationImpl.send, withHandler]
    rw [if_neg halive, if_neg halive]
    cases hsock : b.socketV with
    | closed | opened =>
      rw [InUse, hsock] at hR
      refine Exchanged.finished ?_ _ _
      exact ⟨handler, rfl, hR⟩
    | connected peer =>
      rw [InUse, hsock] at hR
      dsimp only
      split_ifs
      · refine Exchanged.finished ?_ _ _
        exact ⟨handler, rfl, hR⟩
      · exact ⟨handler, rfl, hR⟩

theorem Exchanged.arm (h : Exchanged R b b') (onReceive : ReceiveHandler) (onTimeout : TimerHandler)
    (timeout : ℤ) :
    Exchanged R (b.arm f onReceive onTimeout timeout) (b'.arm f onReceive onTimeout timeout) := by
  obtain ⟨handler, rfl, hR⟩ := h
  dsimp only [OperationImpl.arm, withHandler]
  split_ifs
  · exact ⟨handler, rfl, hR⟩
  · refine Exchanged.finished ?_ _ _
    exact ⟨handler, rfl, hR⟩
  · exact ⟨handler, rfl, hR⟩

theorem Exchanged.receiveTimeout (h : Exchanged R b b') :
    b.receiveTimeoutV = b'.receiveTimeoutV := by
  obtain ⟨handler, rfl, -⟩ := h
  rfl

theorem Exchanged.receiveFirst (h : Exchanged R b b') :
    Exchanged R (b.receiveFirst f) (b'.receiveFirst f) := by
  rw [OperationImpl.receiveFirst, OperationImpl.receiveFirst, h.receiveTimeout]
  exact h.arm _ _ _

theorem Exchanged.receive (h : Exchanged R b b') : Exchanged R (b.receive f) (b'.receive f) := by
  rw [OperationImpl.receive, OperationImpl.receive, h.receiveTimeout]
  exact h.arm _ _ _

theorem Exchanged.receiveDally (h : Exchanged R b b') :
    Exchanged R (b.receiveDally f) (b'.receiveDally f) := by
  rw [OperationImpl.receiveDally, OperationImpl.receiveDally, h.receiveTimeout]
  exact h.arm _ _ _

theorem Exchanged.reject (h : Exchanged R b b') (errorCode : ErrorCode) (errorMessage : String)
    (status : TransferStatus) :
    Exchanged R (b.reject f errorCode errorMessage status)
      (b'.reject f errorCode errorMessage status) :=
  (h.send _).finished _ _

theorem Exchanged.afterData (h : Exchanged R b b') (short dally : Bool) :
    Exchanged R (b.afterData f short dally) (b'.afterData f short dally) := by
  simp only [OperationImpl.afterData]
  split_ifs
  · exact h.receiveDally
  · exact h.finished _ _
  · exact h.receive

theorem Exchanged.timeoutFirstHandler (h : Exchanged R b b') :
    Exchanged R (b.timeoutFirstHandler f) (b'.timeoutFirstHandler f) := by
  obtain ⟨handler, rfl, hR⟩ := h
  have hsame : Exchanged R b (b.withHandler handler) := ⟨handler, rfl, hR⟩
  dsimp only [OperationImpl.timeoutFirstHandler, withHandler]
  split_ifs
  · exact hsame.finished _ _
  · exact hsame.finished _ _
  · exact ⟨handler, rfl, hR⟩

theorem Exchanged.timeoutHandler (h : Exchanged R b b') :
    Exchanged R (b.timeoutHandler f) (b'.timeoutHandler f) := by
  obtain ⟨handler, rfl, hR⟩ := h
  have hsame : Exchanged R b (b.withHandler handler) := ⟨handler, rfl, hR⟩
  rw [OperationImpl.timeoutHandler, OperationImpl.timeoutHandler, withHandler_tftpRetriesV,
    withHandler_transmitCounterV, withHandler_socketV]
  cases hsock : b.socketV with
  | closed | opened => split_ifs <;> exact hsame.finished _ _
  | connected peer =>
    dsimp only
    split_ifs
    · exact hsame.finished _ _
    · exact hsame.finished _ _
    · exact ⟨handler, rfl, hR⟩

theorem Exchanged.transmitPacket (h : Exchanged R b b') :
    b.transmitPacketV = b'.transmitPacketV := by
  obtain ⟨handler, rfl, -⟩ := h
  rfl

theorem Exchanged.clientErrorPacket (h : Exchanged R b b') (errorCode : ErrorCode)
    (errorMessage : RawData) :
    Exchanged R (Clients.OperationImpl.errorPacket b errorCode errorMessage)
      (Clients.OperationImpl.errorPacket b' errorCode errorMessage) := by
  rw [Clients.OperationImpl.errorPacket, Clients.OperationImpl.errorPacket, h.transmitPacket]
  split
  · split_ifs
    · exact h.finished _ _
    · exact h.finished _ _
  · split_ifs
    · exact h.finished _ _
    · exact h.finished _ _
  · exact h.finished _ _

theorem Exchanged.clientGracefulAbort (h : Exchanged R b b') (errorCode : ErrorCode)
    (errorMessage : RawData) :
    Exchanged R (Clients.OperationImpl.gracefulAbort b f errorCode errorMessage)
      (Clients.OperationImpl.gracefulAbort b' f errorCode errorMessage) := by
  have heq : b.receiveEndpointV = b'.receiveEndpointV := by
    obtain ⟨handler, rfl, -⟩ := h
    rfl
  rw [Clients.OperationImpl.gracefulAbort, Clients.OperationImpl.gracefulAbort, heq]
  by_cases hnone : b'.receiveEndpointV ≠ {}
  · rw [if_pos hnone, if_pos hnone]
    exact (h.send _).finished _ _
  · rw [if_neg hnone, if_neg hnone]
    exact h.finished _ _

theorem Exchanged.serverErrorPacket (h : Exchanged R b b') (errorCode : ErrorCode)
    (errorMessage : RawData) :
    Exchanged R (Servers.OperationImpl.errorPacket b errorCode errorMessage)
      (Servers.OperationImpl.errorPacket b' errorCode errorMessage) := by
  rw [Servers.OperationImpl.errorPacket, Servers.OperationImpl.errorPacket, h.transmitPacket]
  split
  · split_ifs
    · exact h.finished _ _
    · exact h.finished _ _
  · exact h.finished _ _

end Engine

/-! ### Calls of the user's handlers -/

section Calls

variable {δ δ' : Type}

section Called

variable [DataHandler δ] [DataHandler δ'] {R : HandlerRelation δ δ'} {b : OperationImpl δ}
  {b' : OperationImpl δ'}

/-- **A call of the handlers that is answered alike**: the answer, and what is left behind. -/
def Called {α : Type} (R : HandlerRelation δ δ') (b : OperationImpl δ) (p : α × OperationImpl δ)
    (p' : α × OperationImpl δ') : Prop :=
  ∃ answer c c', p = (answer, c) ∧ p' = (answer, c') ∧ Exchanged R c c' ∧ (b.InUse → c.InUse)

/-- Nothing is called. -/
theorem Exchanged.called_none {α : Type} (h : Exchanged R b b') (answer : α) :
    Called R b (answer, b) (answer, b') := ⟨answer, b, b', rfl, rfl, h, id⟩

/-- What a call leaves behind. -/
theorem called_state {α : Type} {state : δ} {state' : δ'} (hR : R.inUse state state') (answer : α)
    (action : Action) :
    Called R b (answer, { b with dataHandlerV := state }.emit action)
      (answer, (b.withHandler state').emit action) :=
  ⟨answer, _, _, rfl, rfl, ⟨state', rfl, R.inUse_holds hR _⟩, id⟩

theorem Exchanged.optionNegotiation {g : Option (OptionNegotiationHandler δ)}
    {g' : Option (OptionNegotiationHandler δ')} (hg : NegotiateAlike R g g')
    (h : Exchanged R b b') (hinUse : b.InUse) (options : Options) :
    Called R b (b.optionNegotiation g options) (b'.optionNegotiation g' options) := by
  cases g with
  | none =>
    cases g' with
    | none => exact h.called_none _
    | some g' => exact hg.elim
  | some g =>
    cases g' with
    | none => exact hg.elim
    | some g' =>
      obtain ⟨handler, rfl, hR⟩ := h
      obtain ⟨haccepted, hremaining, hstate⟩ := hg _ _ options (hR.2 hinUse)
      rw [OperationImpl.optionNegotiation, OperationImpl.optionNegotiation]
      dsimp only [OperationImpl.withHandler]
      rw [haccepted, hremaining]
      exact called_state hstate _ _

end Called

section Receive

variable [ReceiveDataHandler δ] [ReceiveDataHandler δ'] {R : HandlerRelation δ δ'}
  {b : OperationImpl δ} {b' : OperationImpl δ'} (hreceive : ReceiveAlike R)
  (h : Exchanged R b b')

include hreceive h

theorem Exchanged.receivedData (hinUse : b.InUse) (data : RawData) :
    Exchanged R (b.receivedData data) (b'.receivedData data) := by
  obtain ⟨handler, rfl, hR⟩ := h
  exact ⟨_, rfl, R.inUse_holds (hreceive.receivedData (hR.2 hinUse) data) _⟩

theorem Exchanged.receivedTransferSize (husable : b.Usable) (transferSize : UInt64) :
    Called R b (b.receivedTransferSize transferSize) (b'.receivedTransferSize transferSize) := by
  obtain ⟨handler, rfl, hR⟩ := h
  rw
    [OperationImpl.receivedTransferSize, OperationImpl.receivedTransferSize, withHandler_terminated]
  split_ifs with halive
  · exact Exchanged.called_none ⟨handler, rfl, hR⟩ _
  · obtain ⟨haccepted, hstate⟩ := hreceive.receivedTransferSize
      (hR.2 (husable.inUse halive)) transferSize
    dsimp only [OperationImpl.withHandler]
    rw [haccepted]
    exact called_state hstate _ _

theorem Exchanged.offerTransferSize (husable : b.Usable) (transferSize : Option UInt64) :
    Called R b (b.offerTransferSize transferSize) (b'.offerTransferSize transferSize) := by
  cases transferSize with
  | none => exact h.called_none _
  | some transferSize => exact h.receivedTransferSize hreceive husable transferSize

end Receive

section Transmit

variable [TransmitDataHandler δ] [TransmitDataHandler δ'] {R : HandlerRelation δ δ'}
  {b : OperationImpl δ} {b' : OperationImpl δ'} (htransmit : TransmitAlike R)
  (h : Exchanged R b b')

include htransmit h

theorem Exchanged.requestedTransferSize (husable : b.Usable) :
    Called R b b.requestedTransferSize b'.requestedTransferSize := by
  obtain ⟨handler, rfl, hR⟩ := h
  rw [OperationImpl.requestedTransferSize, OperationImpl.requestedTransferSize,
    withHandler_terminated]
  split_ifs with halive
  · exact Exchanged.called_none ⟨handler, rfl, hR⟩ _
  · obtain ⟨hsize, hstate⟩ := htransmit.requestedTransferSize (hR.2 (husable.inUse halive))
    dsimp only [OperationImpl.withHandler]
    rw [hsize]
    exact called_state hstate _ _

theorem Exchanged.nextData (husable : b.Usable) (maxSize : ℕ) :
    Called R b (b.nextData maxSize) (b'.nextData maxSize) := by
  obtain ⟨handler, rfl, hR⟩ := h
  rw [OperationImpl.nextData, OperationImpl.nextData, withHandler_terminated]
  split_ifs with halive
  · exact Exchanged.called_none ⟨handler, rfl, hR⟩ _
  · obtain ⟨hdata, hstate⟩ := htransmit.sendData (hR.2 (husable.inUse halive)) maxSize
    dsimp only [OperationImpl.withHandler]
    rw [hdata]
    exact called_state hstate _ _

end Transmit

end Calls

end OperationImpl

open Protocol

open OperationImpl hiding actions

namespace Operation

/-! ### Whole operations -/

section Exchangeable

variable {σ σ' δ δ' : Type} [DataHandler δ] [DataHandler δ'] [Operation σ δ] [Operation σ' δ']
  {R : HandlerRelation δ δ'} {Q : σ → σ' → Prop} {s : σ} {s' : σ'}

/-- **A relation between operations with exchanged data handlers**: their shared parts are the same
but for the handlers, may be replaced by others that are, and their own functions keep the relation,
if they are called while the handlers are in use. -/
structure Exchangeable (R : HandlerRelation δ δ') (Q : σ → σ' → Prop) : Prop where
  base : ∀ {s s'}, Q s s' → (base s).Exchanged R (base s')
  withBase : ∀ {s s' b b'}, Q s s' → b.Exchanged R b' → Q (withBase s b) (withBase s' b')
  received : ∀ {s s'} f r, Q s s' → (Operation.base s).InUse → Q (received s f r) (received s' f r)
  gracefulAbort : ∀ {s s'} f errorCode errorMessage, Q s s' →
    Q (gracefulAbort s f errorCode errorMessage) (gracefulAbort s' f errorCode errorMessage)

namespace Exchangeable

variable (hQ : Exchangeable R Q) (h : Q s s') (f : Faults)

include hQ h

theorem receiveHandler (hinUse : (Operation.base s).InUse) (rawPacket : RawData) :
    Q (receiveHandler s f rawPacket) (receiveHandler s' f rawPacket) := by
  obtain ⟨handler, heq, -⟩ := hQ.base h
  rw [Operation.receiveHandler, Operation.receiveHandler, heq]
  exact hQ.received f _ h hinUse

theorem receiveFirstHandler (hinUse : (Operation.base s).InUse) (source : Endpoint)
    (rawPacket : RawData) :
    Q (receiveFirstHandler s f source rawPacket) (receiveFirstHandler s' f source rawPacket) := by
  obtain ⟨handler, heq, hR⟩ := hQ.base h
  replace hR := hR.2 hinUse
  rw [Operation.receiveFirstHandler, Operation.receiveFirstHandler, heq]
  generalize Operation.base s = b at *
  dsimp only [OperationImpl.withHandler]
  split_ifs
  · refine hQ.withBase h (Exchanged.finished ?_ _ _)
    exact ⟨handler, rfl, R.inUse_holds hR _⟩
  · refine hQ.withBase h (Exchanged.finished ?_ _ _)
    exact ⟨handler, rfl, R.inUse_holds hR _⟩
  · refine hQ.withBase h ?_
    exact ⟨handler, rfl, R.inUse_holds hR _⟩
  · refine hQ.withBase h ?_
    exact ⟨handler, rfl, R.inUse_holds hR _⟩
  · refine hQ.withBase h (Exchanged.finished ?_ _ _)
    exact ⟨handler, rfl, R.inUse_holds hR _⟩
  · refine hQ.receiveHandler (hQ.withBase h ?_) f ?_ rawPacket
    · exact ⟨handler, rfl, R.inUse_holds hR _⟩
    · rw [base_withBase]
      exact ⟨hinUse.1, by rintro ⟨⟩⟩

theorem onDatagram (halive : (Operation.base s).terminated = false) (source : Endpoint)
    (rawPacket : RawData) :
    Q (onDatagram s f source rawPacket) (onDatagram s' f source rawPacket) := by
  obtain ⟨handler, heq, hR⟩ := hQ.base h
  rw [Operation.onDatagram, Operation.onDatagram, heq, withHandler_socketV, withHandler_receives]
  generalize hb : Operation.base s = b at *
  cases b.receives with
  | nil => exact h
  | cons receive rest =>
    dsimp only
    by_cases haccepts : b.socketV.accepts source = true
    · rw [if_pos haccepts, if_pos haccepts]
      have hopen : b.socketV ≠ .closed := by
        rintro hclosed
        simp [hclosed, Socket.accepts] at haccepts
      -- the handler that was posted is taken before it is called
      have htaken : Exchanged R { b with receives := rest }
          { b.withHandler handler with receives := rest } := ⟨handler, rfl, hR⟩
      have hinUse : (Operation.base (Operation.withBase s { b with receives := rest })).InUse := by
        rw [base_withBase]
        exact ⟨halive, hopen⟩
      cases receive with
      | receiveFirstHandler =>
        exact hQ.receiveFirstHandler (hQ.withBase h htaken) f hinUse source rawPacket
      | receiveHandler => exact hQ.receiveHandler (hQ.withBase h htaken) f hinUse rawPacket
    · rw [if_neg haccepts, if_neg haccepts]
      exact h

theorem onTimeout : Q (onTimeout s f) (onTimeout s' f) := by
  obtain ⟨handler, heq, hR⟩ := hQ.base h
  rw [Operation.onTimeout, Operation.onTimeout, heq]
  generalize hb : Operation.base s = b at *
  have hexpired : Exchanged R { b with timerV := none }
      { b.withHandler handler with timerV := none } := ⟨handler, rfl, hR⟩
  dsimp only [OperationImpl.withHandler] at hexpired ⊢
  cases b.timerV with
  | none => exact h
  | some timer =>
    obtain ⟨timerHandler, d⟩ := timer
    cases timerHandler with
    | timeoutFirstHandler => exact hQ.withBase h hexpired.timeoutFirstHandler
    | timeoutHandler => exact hQ.withBase h hexpired.timeoutHandler
    | timeoutDallyHandler => exact hQ.withBase h (hexpired.finished _ _)

/-- **Every event keeps the relation.** -/
theorem step (e : Faults × Event) : Q (step s e) (step s' e) := by
  obtain ⟨f, event⟩ := e
  obtain ⟨handler, heq, hR⟩ := hQ.base h
  have hclear : Q (Operation.withBase s { Operation.base s with actions := [] })
      (Operation.withBase s' { Operation.base s' with actions := [] }) :=
    hQ.withBase h ⟨handler, by rw [heq]; rfl, hR⟩
  clear heq hR h
  simp only [Operation.step]
  generalize Operation.withBase s { Operation.base s with actions := [] } = t at *
  generalize Operation.withBase s' { Operation.base s' with actions := [] } = t' at *
  obtain ⟨handler, heq, hR⟩ := hQ.base hclear
  rw [heq]
  have hsame : Exchanged R (Operation.base t) ((Operation.base t).withHandler handler) :=
    ⟨handler, rfl, hR⟩
  rw [withHandler_terminated]
  split_ifs with halive
  · exact hclear
  · cases event with
    | datagram source rawPacket =>
      exact hQ.onDatagram hclear f (Bool.eq_false_iff.mpr halive) source rawPacket
    | timeout => exact hQ.onTimeout hclear f
    | receiveError =>
      generalize Operation.base t = b at *
      dsimp only [OperationImpl.withHandler]
      split
      · exact hclear
      · refine hQ.withBase hclear (Exchanged.finished ?_ _ _)
        exact ⟨handler, rfl, hR⟩
    | timerError =>
      generalize Operation.base t = b at *
      dsimp only [OperationImpl.withHandler]
      split
      · exact hclear
      · refine hQ.withBase hclear (Exchanged.finished ?_ _ _)
        exact ⟨handler, rfl, hR⟩
    | abort => exact hQ.withBase hclear (hsame.finished _ _)
    | gracefulAbort errorCode errorMessage => exact hQ.gracefulAbort f _ _ hclear

end Exchangeable

end Exchangeable

end Operation

end Tftp
