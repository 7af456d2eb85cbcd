import Tftp.Completion
import Tftp.Application.TftpServer

/-!
# The operations of the server application

What the application sees of an operation that it has started is the call of its completion
handler. As long as the operation is in progress (`Tftp.ServerOperation.InProgress`) it waits for
its client and has not called it, and whatever the client sends, an event leaves the operation in
progress or makes it call the completion handler once.
-/

namespace Tftp

open Servers OperationImpl Protocol

/-- The status that the completion handler is called with. -/
def Action.completed : Action → Option TransferStatus
  | .completionHandler status => some status
  | _ => none

/-- The calls of the completion handler, in order. -/
def completions (actions : List Action) : List TransferStatus := actions.filterMap Action.completed

@[simp] theorem completions_append (l l' : List Action) :
    completions (l ++ l') = completions l ++ completions l' := List.filterMap_append

theorem completions_calls {calls : List Action} (h : ∀ a ∈ calls, a.IsCall) :
    completions calls = [] := by
  refine List.filterMap_eq_nil_iff.mpr fun a ha => ?_
  have hcall := h a ha
  cases a <;> first | rfl | exact hcall.elim

theorem Sent.completions_eq {peer : Endpoint} {stored packet : RawData}
    {counter counter' : UInt32} {sends : List Action}
    (h : Sent peer stored counter sends packet counter') : completions sends = [] := by
  cases h <;> rfl

section Step

variable {δ : Type} [DataHandler δ] {s s' : OperationImpl δ} {e : PeerEvent}

/-- **One event and the completion handler**: it is called if the operation is over afterwards,
and then once. -/
theorem Outcome.completions_cases (h : Outcome s e s') (hphase : s.phase ≠ .done)
    (hreports : s.completionHandlerV = true) :
    completions s'.actions = [] ∧ s'.phase ≠ .done ∨
      (∃ status, completions s'.actions = [status]) ∧ s'.phase = .done := by
  have hcompletion : ∀ status, completions (s.completion status) = [status] := by
    intro status
    rw [completion, hreports]
    rfl
  cases h with
  | idle | foreign => exact Or.inl ⟨rfl, hphase⟩
  | resend destination =>
    rw [phase_resent]
    exact Or.inl ⟨rfl, hphase⟩
  | expire => exact Or.inr ⟨⟨_, hcompletion _⟩, rfl⟩
  | dallied peer => exact Or.inr ⟨⟨_, hcompletion _⟩, rfl⟩
  | received _ _ _ _ calls sends report hadmits hhandled =>
    rw [hhandled.actions_eq, completions_append, completions_append,
      completions_calls hhandled.calls_only, hhandled.sent.completions_eq]
    rcases hhandled.reported with ⟨rfl, hne⟩ | ⟨status, rfl, hdone, -⟩
    · exact Or.inl ⟨rfl, hne⟩
    · exact Or.inr ⟨⟨status, hcompletion status⟩, hdone⟩

end Step

section Reports

/-- A receiver goes on with its completion handler. -/
theorem ReceiverReaction.reports_eq {v v' : ReceiverView} {p p' : Phase} {e : PeerEvent}
    {acts : List Action} (h : ReceiverReaction v p e acts p' v') : v'.reports = v.reports := by
  cases h with
  | received source rawPacket _ hstep =>
    generalize PacketHandler.packet (rawPacket.take v.buffer) = r at hstep
    cases hstep <;> rfl
  | idle | foreign | resend | expire | dallied => rfl

/-- A sender goes on with its completion handler, unless it is over. -/
theorem SenderReaction.reports_eq {δ : Type} [TransmitDataHandler δ] {v v' : SenderView δ}
    {p p' : Phase} {e : PeerEvent} {acts : List Action} (h : SenderReaction v p e acts p' v')
    (hphase : p' ≠ .done) : v'.reports = v.reports := by
  cases h with
  | received source rawPacket _ hstep =>
    generalize PacketHandler.packet (rawPacket.take v.buffer) = r at hstep
    cases hstep with
    | failed => exact absurd rfl hphase
    | repeated | next | completed | negotiated => rfl
  | idle | foreign | resend | expire | dallied => rfl

variable {δ : Type}

theorem Servers.ReadOperationImpl.reports_start [TransmitDataHandler δ] {s : ReadOperationImpl δ}
    (h : s.Idle) : (s.start {}).completionHandlerV = s.completionHandlerV := by
  rw [ReadOperationImpl.start_eq h]
  split_ifs
  · exact ((Servers.OperationImpl.ready_connected h
      s.negotiatedReceiveTimeout).reject _ _ _).2.2.2.2.reports
  · have hready := ReadOperationImpl.ready_accepted h
    rw [ReadOperationImpl.answer]
    split_ifs
    · exact (hready.sendAndReceive _).2.2.2.2.2.reports
    · simp only [ReadOperationImpl.sendData, ReadOperationImpl.update, hready.nextData_eq]
      exact ((hready.called _ _).sendAndReceive _).2.2.2.2.2.reports

theorem Servers.WriteOperationImpl.reports_start [ReceiveDataHandler δ]
    {s : WriteOperationImpl δ} (h : s.Idle) :
    (s.start {}).completionHandlerV = s.completionHandlerV := by
  have hconnected := Servers.OperationImpl.ready_connected h s.negotiatedReceiveTimeout
  obtain ⟨accepted, state, calls, heq, -⟩ :=
    hconnected.offerTransferSize_called s.offeredTransferSize
  rw [WriteOperationImpl.start_eq h]
  simp only [heq]
  cases accepted with
  | true => exact ((hconnected.called state calls).sendAndReceive _).2.2.2.2.2.reports
  | false => exact ((hconnected.called state calls).reject _ _ _).2.2.2.2.reports

end Reports

namespace ServerOperation

/-- An event that is none of the application's: a datagram at the port of the operation, or the
timer. -/
def step : ServerOperation → PeerEvent → ServerOperation
  | read operation, e => read (Operation.peerStep operation e)
  | write operation, e => write (Operation.peerStep operation e)

/-- What the operation did in the course of the last event. -/
def actions (o : ServerOperation) : List Action := o.base.actions

/-- **The operation is in progress**: it waits for its client, and it will call the completion
handler. -/
structure InProgress (o : ServerOperation) : Prop where
  settled : o.base.Settled
  waits : o.base.phase ≠ .done
  reports : o.base.completionHandlerV = true

/-- **An operation in progress or just over**, which the completion handler has been told. -/
def Told (o : ServerOperation) : Prop :=
  completions o.actions = [] ∧ o.InProgress ∨ ∃ status, completions o.actions = [status]

variable {o : ServerOperation}

/-- An operation in progress has one handler waiting for a datagram and one for the timer. -/
theorem InProgress.pending (h : o.InProgress) : o.base.Pending :=
  (h.settled.pending.resolve_right fun hdone => h.waits hdone.1).2

/-- **What has been started is in progress or over**, and in the latter case the completion
handler has been called. -/
theorem Fresh.told (h : o.Fresh) (hreports : o.base.completionHandlerV = true) : o.start.Told := by
  have hstarted := h.started
  have hkept : o.start.base.completionHandlerV = true := by
    cases o with
    | read operation => exact (ReadOperationImpl.reports_start h.idle).trans hreports
    | write operation => exact (WriteOperationImpl.reports_start h.idle).trans hreports
  obtain ⟨calls, destination, report, hact, hcalls, hreport⟩ := hstarted.opening
  rw [Told, actions, hact, completions_append, completions_append, completions_calls hcalls]
  rcases hreport with ⟨rfl, hphase⟩ | ⟨status, -, rfl, -⟩
  · exact Or.inl ⟨rfl, hstarted.settled, hphase, hkept⟩
  · refine Or.inr ⟨status, ?_⟩
    rw [completion, hkept]
    rfl

/-- **Every event leaves an operation in progress or makes it report.** -/
theorem InProgress.told_step (h : o.InProgress) (e : PeerEvent) : (o.step e).Told := by
  have houtcome : Outcome o.base e (o.step e).base := by
    cases o with
    | read operation => exact Operation.outcome (s := operation) h.settled e
    | write operation => exact Operation.outcome (s := operation) h.settled e
  have hkept : (o.step e).base.phase ≠ .done → (o.step e).base.completionHandlerV = true := by
    intro hphase
    cases o with
    | read operation =>
      have hr := (SendingOperation.senderReaction (s := operation) h.settled e).2.reports_eq hphase
      exact hr.trans h.reports
    | write operation =>
      have hr := (ReceivingOperation.receiverReaction (s := operation) h.settled e).2.reports_eq
      exact hr.trans h.reports
  rcases houtcome.completions_cases h.waits h.reports with ⟨hnil, hphase⟩ | ⟨hone, -⟩
  · exact Or.inl ⟨hnil, houtcome.settled h.settled, hphase, hkept hphase⟩
  · exact Or.inr hone

end ServerOperation

end Tftp
