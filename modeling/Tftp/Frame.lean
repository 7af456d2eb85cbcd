import Tftp.Events
import Tftp.Clients.OperationImpl
import Tftp.Servers.OperationImpl

/-!
# What the shared functions leave alone

The functions that all operations share know nothing of blocks and options. Whatever fails in
them, they do not touch the receive buffer, and they neither pass data on nor call the option
negotiation handler (`Tftp.OperationImpl.Framed`). So a property of an operation that its own
handlers keep, and that is a matter of nothing else, is kept by every event
(`Tftp.Operation.LeadsTo.step`).
-/

namespace Tftp

/-- Whether data is passed on, or options are negotiated. -/
def Action.tellsUser : Action → Bool
  | .receivedData _ | .optionNegotiation _ => true
  | _ => false

namespace OperationImpl

variable {δ : Type}

/-- **From one state to the other** nothing has happened to the buffer, and the user has not been
told anything. -/
structure Framed (b b' : OperationImpl δ) : Prop where
  buffer : b'.receivePacketV = b.receivePacketV
  actions : ∃ acts, b'.actions = b.actions ++ acts ∧ ∀ a ∈ acts, a.tellsUser = false

variable {b b' b'' : OperationImpl δ}

theorem Framed.trans (h : b.Framed b') (h' : b'.Framed b'') : b.Framed b'' := by
  obtain ⟨acts, hacts, hquiet⟩ := h.actions
  obtain ⟨acts', hacts', hquiet'⟩ := h'.actions
  refine ⟨h'.buffer.trans h.buffer, acts ++ acts', ?_, fun a ha => ?_⟩
  · rw [hacts', hacts, List.append_assoc]
  · rcases List.mem_append.mp ha with ha | ha
    · exact hquiet a ha
    · exact hquiet' a ha

/-- Nothing was done, and nothing happened to the buffer. -/
theorem framed_of_eq (hbuffer : b'.receivePacketV = b.receivePacketV)
    (hactions : b'.actions = b.actions) : b.Framed b' :=
  ⟨hbuffer, [], by simp [hactions], by simp⟩

/-- One thing was done, and nothing happened to the buffer. -/
theorem framed_of_append {action : Action} (hbuffer : b'.receivePacketV = b.receivePacketV)
    (hactions : b'.actions = b.actions ++ [action]) (haction : action.tellsUser = false) :
    b.Framed b' :=
  ⟨hbuffer, [action], hactions, by simpa using haction⟩

theorem framed_emit {action : Action} (h : action.tellsUser = false) : b.Framed (b.emit action) :=
  framed_of_append rfl rfl h

theorem Framed.refl (b : OperationImpl δ) : b.Framed b := framed_of_eq rfl rfl

section Engine

variable [DataHandler δ] {f : Faults}

theorem framed_finished (b : OperationImpl δ) (status : TransferStatus)
    (errorInformation : Option (ErrorCode × RawData)) :
    b.Framed (b.finished status errorInformation) := by
  by_cases halive : b.terminated = true
  · rw [finished, if_pos halive]
    exact .refl b
  · cases hsock : b.socketV with
    | closed =>
      simp only [finished, hsock, if_neg halive]
      exact framed_of_append rfl rfl rfl
    | opened | connected peer =>
      simp only [finished, hsock, if_neg halive]
      split_ifs
      · refine ⟨rfl, [.finished status, .completionHandler status], ?_, by simp [Action.tellsUser]⟩
        simp [emit]
      · exact framed_of_append rfl rfl rfl

/-- Changing what does not matter before the operation is finished. -/
theorem framed_finished_of_eq (hbuffer : b'.receivePacketV = b.receivePacketV)
    (hactions : b'.actions = b.actions) (status : TransferStatus)
    (errorInformation : Option (ErrorCode × RawData)) :
    b.Framed (b'.finished status errorInformation) :=
  (framed_of_eq hbuffer hactions).trans (framed_finished b' status errorInformation)

theorem framed_send (b : OperationImpl δ) (packet : Packet) : b.Framed (b.send f packet) := by
  by_cases halive : b.terminated = true
  · rw [send, if_pos halive]
    exact .refl b
  · cases hsock : b.socketV with
    | closed | opened =>
      simp only [send, hsock, if_neg halive]
      exact framed_finished_of_eq (by rfl) (by rfl) _ _
    | connected peer =>
      simp only [send, hsock, if_neg halive]
      split_ifs
      · exact framed_finished_of_eq (by rfl) (by rfl) _ _
      · exact framed_of_append rfl rfl rfl

theorem framed_sendFirst (b : OperationImpl δ) (packet : Packet) :
    b.Framed (b.sendFirst f packet) := by
  simp only [sendFirst]
  split_ifs
  · exact .refl b
  · exact framed_finished_of_eq (by rfl) (by rfl) _ _
  · exact framed_of_append rfl rfl rfl

theorem framed_arm (b : OperationImpl δ) (onReceive : ReceiveHandler) (onTimeout : TimerHandler)
    (timeout : ℤ) : b.Framed (b.arm f onReceive onTimeout timeout) := by
  rw [arm]
  split_ifs
  · exact .refl b
  · exact framed_finished b _ _
  · exact framed_of_eq rfl rfl

theorem framed_reject (b : OperationImpl δ) (errorCode : ErrorCode) (errorMessage : String)
    (status : TransferStatus) : b.Framed (b.reject f errorCode errorMessage status) :=
  (framed_send b _).trans (framed_finished _ _ _)

theorem framed_afterData (b : OperationImpl δ) (short dally : Bool) :
    b.Framed (b.afterData f short dally) := by
  rw [afterData]
  split_ifs
  · exact framed_arm b _ _ _
  · exact framed_finished b _ _
  · exact framed_arm b _ _ _

/-- Sending a packet and going on. -/
theorem framed_send_receive (b : OperationImpl δ) (packet : Packet) :
    b.Framed ((b.send f packet).receive f) :=
  (framed_send b packet).trans (framed_arm _ _ _ _)

theorem framed_send_afterData (b : OperationImpl δ) (packet : Packet) (short dally : Bool) :
    b.Framed ((b.send f packet).afterData f short dally) :=
  (framed_send b packet).trans (framed_afterData _ short dally)

theorem framed_startDataHandler (b : OperationImpl δ) : b.Framed b.startDataHandler := by
  rw [startDataHandler]
  split_ifs
  · exact .refl b
  · exact framed_of_append rfl rfl rfl

theorem framed_timeoutFirstHandler (b : OperationImpl δ) :
    b.Framed (b.timeoutFirstHandler f) := by
  simp only [timeoutFirstHandler]
  split_ifs
  · exact framed_finished b _ _
  · exact framed_finished b _ _
  · exact framed_of_append rfl rfl rfl

theorem framed_timeoutHandler (b : OperationImpl δ) : b.Framed (b.timeoutHandler f) := by
  by_cases hretries : b.tftpRetriesV.toNat < b.transmitCounterV.toNat
  · rw [timeoutHandler, if_pos hretries]
    exact framed_finished b _ _
  · cases hsock : b.socketV with
    | closed | opened =>
      simp only [timeoutHandler, hsock, if_neg hretries]
      exact framed_finished b _ _
    | connected peer =>
      simp only [timeoutHandler, hsock, if_neg hretries]
      split_ifs
      · exact framed_finished b _ _
      · exact framed_of_append rfl rfl rfl

end Engine

section Handlers

/-- The option negotiation handler has nothing to do with the buffer. -/
theorem receivePacketV_optionNegotiation (b : OperationImpl δ)
    (handler : Option (OptionNegotiationHandler δ)) (options : Options) :
    (b.optionNegotiation handler options).2.receivePacketV = b.receivePacketV := by
  cases handler <;> rfl

variable [ReceiveDataHandler δ]

theorem framed_receivedTransferSize (b : OperationImpl δ) (transferSize : UInt64) :
    b.Framed (b.receivedTransferSize transferSize).2 := by
  rw [receivedTransferSize]
  split_ifs
  · exact .refl b
  · exact framed_of_append rfl rfl rfl

theorem framed_offerTransferSize (b : OperationImpl δ) (transferSize : Option UInt64) :
    b.Framed (b.offerTransferSize transferSize).2 := by
  cases transferSize with
  | none => exact .refl b
  | some transferSize => exact framed_receivedTransferSize b transferSize

end Handlers

end OperationImpl

section Sides

open Tftp.OperationImpl

variable {δ : Type} [DataHandler δ] {f : Faults}

theorem Clients.OperationImpl.framed_initialise (b : OperationImpl δ) (f : Faults) :
    b.Framed (initialise b f) := by
  simp only [initialise]
  split_ifs
  · exact framed_finished_of_eq (by rfl) (by rfl) _ _
  · exact framed_of_eq rfl rfl

theorem Clients.OperationImpl.framed_errorPacket (b : OperationImpl δ) (errorCode : ErrorCode)
    (errorMessage : RawData) : b.Framed (errorPacket b errorCode errorMessage) := by
  obtain ⟨status, -, -, heq⟩ := errorPacket_eq b errorCode errorMessage
  rw [heq]
  exact framed_finished b _ _

theorem Clients.OperationImpl.framed_catchException (b : OperationImpl δ) (e : HandlerException) :
    b.Framed (catchException b e) := by
  cases e with
  | tftpException | boostException => exact framed_finished b _ _
  | otherException =>
    rw [catchException]
    split_ifs
    · exact .refl b
    · exact framed_emit rfl

theorem Clients.OperationImpl.framed_gracefulAbort (b : OperationImpl δ) (f : Faults)
    (errorCode : ErrorCode) (errorMessage : RawData) :
    b.Framed (gracefulAbort b f errorCode errorMessage) := by
  simp only [gracefulAbort]
  split_ifs
  · exact (framed_send b _).trans (framed_finished _ _ _)
  · exact framed_finished b _ _

theorem Servers.OperationImpl.framed_initialise (b : OperationImpl δ) (f : Faults) :
    b.Framed (initialise b f) := by
  rw [initialise]
  split_ifs
  · exact framed_finished_of_eq (by rfl) (by rfl) _ _
  · exact framed_of_eq rfl rfl

theorem Servers.OperationImpl.framed_errorPacket (b : OperationImpl δ) (errorCode : ErrorCode)
    (errorMessage : RawData) : b.Framed (errorPacket b errorCode errorMessage) := by
  obtain ⟨status, -, -, heq⟩ := errorPacket_eq b errorCode errorMessage
  rw [heq]
  exact framed_finished b _ _

theorem Servers.OperationImpl.framed_catchException (b : OperationImpl δ) (e : HandlerException) :
    b.Framed (catchException b e) := by
  cases e with
  | tftpException => exact .refl b
  | boostException | otherException => exact framed_finished b _ _

end Sides

/-! ### What events do -/

namespace Operation

variable {σ δ : Type} [DataHandler δ] [Operation σ δ]

/-- **From one property of an operation to another**: what leaves the buffer and the user alone
keeps the first one, and an event ends, at the latest with a handler of an admitted packet, in the
second one. -/
structure LeadsTo (P Q : σ → Prop) (admitted : Received → Prop) : Prop where
  withBase : ∀ (s : σ) (b : OperationImpl δ), P s → (base s).Framed b → P (withBase s b)
  rest : ∀ s, P s → Q s
  received : ∀ (s : σ) f r, P s → admitted r → Q (received s f r)
  gracefulAbort : ∀ (s : σ) f errorCode errorMessage, P s →
    Q (gracefulAbort s f errorCode errorMessage)

namespace LeadsTo

open OperationImpl

variable {P Q : σ → Prop} {admitted : Received → Prop} {s : σ}

/-- What is done outside the handlers of the packets. -/
theorem framed (hP : LeadsTo P Q admitted) (h : P s) {b : OperationImpl δ}
    (hb : (base s).Framed b) : Q (Operation.withBase s b) :=
  hP.rest _ (hP.withBase _ _ h hb)

theorem receiveHandler (hP : LeadsTo P Q admitted) (h : P s) (f : Faults) {rawPacket : RawData}
    (hadmitted : admitted (PacketHandler.packet (rawPacket.take (base s).receivePacketV))) :
    Q (receiveHandler s f rawPacket) :=
  hP.received _ _ _ h hadmitted

theorem receiveFirstHandler (hP : LeadsTo P Q admitted) (h : P s) (f : Faults) (source : Endpoint)
    {rawPacket : RawData}
    (hadmitted : admitted (PacketHandler.packet (rawPacket.take (base s).receivePacketV))) :
    Q (receiveFirstHandler s f source rawPacket) := by
  simp only [Operation.receiveFirstHandler]
  by_cases hsource : (base s).remoteV.address ≠ source.address
  · rw [if_pos hsource]
    -- a stranger is told, if that can be sent, and nothing else
    split_ifs
    · exact hP.framed h (framed_finished_of_eq (by rfl) (by rfl) _ _)
    · refine hP.framed h (Framed.trans ?_ (framed_finished _ _ _))
      exact framed_of_append rfl rfl rfl
    · exact hP.framed h (framed_of_eq rfl rfl)
    · exact hP.framed h (framed_of_append rfl rfl rfl)
  · rw [if_neg hsource]
    split_ifs
    · exact hP.framed h (framed_finished_of_eq (by rfl) (by rfl) _ _)
    · refine hP.receiveHandler (hP.withBase _ _ h ?_) f ?_
      · exact framed_of_eq rfl rfl
      · rw [base_withBase]
        exact hadmitted

theorem onDatagram (hP : LeadsTo P Q admitted) (h : P s) (f : Faults) (source : Endpoint)
    {rawPacket : RawData}
    (hadmitted : (base s).receives ≠ [] → (base s).socketV.accepts source = true →
      admitted (PacketHandler.packet (rawPacket.take (base s).receivePacketV))) :
    Q (onDatagram s f source rawPacket) := by
  rw [Operation.onDatagram]
  split
  · exact hP.rest s h
  · rename_i handler rest hreceives
    split_ifs with haccepts
    · have htaken : P (Operation.withBase s { base s with receives := rest }) :=
        hP.withBase _ _ h (framed_of_eq rfl rfl)
      have hadmitted' : admitted (PacketHandler.packet (rawPacket.take
          (base (Operation.withBase s { base s with receives := rest })).receivePacketV)) := by
        rw [base_withBase]
        exact hadmitted (by simp [hreceives]) haccepts
      cases handler with
      | receiveFirstHandler => exact hP.receiveFirstHandler htaken f source hadmitted'
      | receiveHandler => exact hP.receiveHandler htaken f hadmitted'
    · exact hP.rest s h

theorem onTimeout (hP : LeadsTo P Q admitted) (h : P s) (f : Faults) : Q (onTimeout s f) := by
  rw [Operation.onTimeout]
  split
  · exact hP.rest s h
  · have hexpired : (base s).Framed { base s with timerV := none } := framed_of_eq rfl rfl
    dsimp only
    split
    · exact hP.framed h (hexpired.trans (framed_timeoutFirstHandler _))
    · exact hP.framed h (hexpired.trans (framed_timeoutHandler _))
    · exact hP.framed h (hexpired.trans (framed_finished _ _ _))

/-- The datagram of the event, if there is one, gets to the handlers of the packets only if it is
admitted. -/
def Admits (admitted : Received → Prop) (s : σ) (e : Faults × Event) : Prop :=
  ∀ source rawPacket, e.2 = .datagram source rawPacket → (base s).receives ≠ [] →
    (base s).socketV.accepts source = true →
      admitted (PacketHandler.packet (rawPacket.take (base s).receivePacketV))

/-- **Every event leads from the one property to the other**, if the first one holds when nothing
has been done yet. -/
theorem step (hP : LeadsTo P Q admitted)
    (h : P (Operation.withBase s { base s with actions := [] })) {e : Faults × Event}
    (hadmits : Admits admitted s e) : Q (step s e) := by
  obtain ⟨f, event⟩ := e
  simp only [Operation.step]
  split_ifs
  · exact hP.rest _ h
  · cases event with
    | datagram source rawPacket =>
      refine hP.onDatagram h f source ?_
      rw [base_withBase]
      exact hadmits source rawPacket rfl
    | timeout => exact hP.onTimeout h f
    | receiveError | timerError =>
      dsimp only
      split
      · exact hP.rest _ h
      · exact hP.framed h (framed_finished_of_eq (by rfl) (by rfl) _ _)
    | abort => exact hP.framed h (framed_finished _ _ _)
    | gracefulAbort errorCode errorMessage => exact hP.gracefulAbort _ _ _ _ h

end LeadsTo

end Operation

end Tftp
