import Tftp.Handling
import Tftp.Clients.ReadReceives
import Tftp.Clients.WriteSends
import Tftp.Servers.ReadSends
import Tftp.Servers.WriteReceives

/-!
# How the four operations start

Whatever an operation is, at its start it calls handlers of its user, sends one packet –
the request, or the answer to one – and then waits, unless that packet is an ERROR packet
and the operation is over already (`Tftp.Started`). This is all that the statements about
arbitrary runs need to know of `request` and `start`.
-/

namespace Tftp

open OperationImpl

/-- **A started operation** with the given number of retries: one packet was sent, which is
stored. -/
structure Started {δ : Type} (retries : UInt16) (s : OperationImpl δ) : Prop where
  settled : s.Settled
  retries_eq : s.tftpRetriesV = retries
  counter_eq : s.transmitCounterV = 1
  opening : ∃ calls destination report,
    s.actions = calls ++ [.send s.transmitPacketV destination] ++ report ∧
      (∀ a ∈ calls, a.IsCall) ∧
      (report = [] ∧ s.phase ≠ .done ∨
        ∃ status, status ≠ .successful ∧ report = s.completion status ∧ s.phase = .done)

section Sending

variable {δ : Type} [DataHandler δ] {s : OperationImpl δ} {peer : Endpoint}

/-- Sending a packet and waiting is a start. -/
theorem OperationImpl.Ready.started_send (h : s.Ready peer) (hcalls : ∀ a ∈ s.actions, a.IsCall)
    (packet : Packet) : Started s.tftpRetriesV ((s.send {} packet).receive {}) := by
  obtain ⟨hset, hphase, hact, hpacket, -, hsame⟩ := h.sendAndReceive packet
  refine ⟨hset, hsame.retries, hpacket.2, s.actions, peer, [], ?_, hcalls, Or.inl ⟨rfl, ?_⟩⟩
  · rw [hact, hpacket.1, List.append_nil]
  · rw [hphase]
    rintro ⟨⟩

/-- Sending an ERROR packet and finishing is a start that is the end. -/
theorem OperationImpl.Ready.started_reject (h : s.Ready peer)
    (hcalls : ∀ a ∈ s.actions, a.IsCall) (errorCode : ErrorCode) (errorMessage : String)
    {status : TransferStatus} (hstatus : status ≠ .successful) :
    Started s.tftpRetriesV (s.reject {} errorCode errorMessage status) := by
  obtain ⟨hset, hphase, hact, hpacket, hsame⟩ := h.reject errorCode errorMessage status
  refine ⟨hset, hsame.retries, hpacket.2, s.actions, peer, s.completion status, ?_, hcalls,
    Or.inr ⟨status, hstatus, ?_, hphase⟩⟩
  · rw [hact, hpacket.1, List.append_assoc]
  · rw [OperationImpl.completion, OperationImpl.completion, hsame.reports]

end Sending

section Clients

variable {δ : Type}

theorem Clients.OperationImpl.started_requested [DataHandler δ] {s : OperationImpl δ}
    (halive : s.terminated = false) (hactions : s.actions = []) (request : Packet) :
    Started s.tftpRetriesV (requested s request) := by
  obtain ⟨hset, hphase⟩ := settled_requested halive request
  refine ⟨hset, rfl, rfl, [.start], s.remoteV, [], ?_, by simp [Action.IsCall], Or.inl ⟨rfl, ?_⟩⟩
  · rw [requested, hactions]
    rfl
  · rw [hphase]
    rintro ⟨⟩

/-- The client of a read waits for the answer to its request. -/
theorem Clients.ReadOperationImpl.started_request [ReceiveDataHandler δ] {s : ReadOperationImpl δ}
    (h : s.Idle) (hactions : s.actions = []) :
    Started s.tftpRetriesV (s.request {}).toOperationImpl := by
  rw [request_eq h]
  exact OperationImpl.started_requested h.alive hactions _

/-- What comes before the request of a write. -/
theorem Clients.WriteOperationImpl.isCall_announced [TransmitDataHandler δ]
    (s : WriteOperationImpl δ) : ∀ a ∈ Action.start :: s.announced.2.2, a.IsCall := by
  rw [announced]
  split_ifs <;> simp [Action.IsCall]

/-- The client of a write waits for the answer to its request. -/
theorem Clients.WriteOperationImpl.started_request [TransmitDataHandler δ]
    {s : WriteOperationImpl δ} (h : s.Idle) (hactions : s.actions = []) :
    Started s.tftpRetriesV (s.request {}).toOperationImpl := by
  rw [request_eq h]
  refine ⟨⟨h.alive, rfl, _, rfl⟩, rfl, rfl, .start :: s.announced.2.2, s.remoteV, [], ?_,
    s.isCall_announced, Or.inl ⟨rfl, by rintro ⟨⟩⟩⟩
  simp [requested, prepared, OperationImpl.opened, hactions]

end Clients

section Servers

variable {δ : Type}

/-- What comes before the answer of the server of a read. -/
theorem Servers.ReadOperationImpl.isCall_announced [TransmitDataHandler δ]
    (s : ReadOperationImpl δ) : ∀ a ∈ Action.start :: s.announced.2.2, a.IsCall := by
  rw [announced]
  split <;> simp [Action.IsCall]

/-- The server of a read waits for its client, unless it refuses the request. -/
theorem Servers.ReadOperationImpl.started_start [TransmitDataHandler δ] {s : ReadOperationImpl δ}
    (h : s.Idle) (hactions : s.actions = []) :
    Started s.tftpRetriesV (s.start {}).toOperationImpl := by
  have hready := ready_accepted h
  have hcalls : ∀ a ∈ s.accepted.actions, a.IsCall := by
    simp only [accepted, called_actions, OperationImpl.connected, hactions]
    exact s.isCall_announced
  rw [start_eq h]
  split_ifs
  · refine (OperationImpl.ready_connected h s.negotiatedReceiveTimeout).started_reject ?_ _ _
      (by decide)
    simp [OperationImpl.connected, hactions, Action.IsCall]
  · rw [answer]
    split_ifs
    · exact hready.started_send hcalls _
    · simp only [sendData, update, hready.nextData_eq]
      exact (hready.called _ _).started_send (isCall_concat_sendData hcalls _ _) _

/-- The server of a write waits for its client, unless it refuses the file. -/
theorem Servers.WriteOperationImpl.started_start [ReceiveDataHandler δ] {s : WriteOperationImpl δ}
    (h : s.Idle) (hactions : s.actions = []) :
    Started s.tftpRetriesV (s.start {}).toOperationImpl := by
  have hconnected := OperationImpl.ready_connected h s.negotiatedReceiveTimeout
  obtain ⟨accepted, state, calls, heq, hcalls⟩ :=
    hconnected.offerTransferSize_called s.offeredTransferSize
  have hcalls' : ∀ a ∈ ((OperationImpl.connected s.toOperationImpl
      s.negotiatedReceiveTimeout).called state calls).actions, a.IsCall := by
    rw [called_actions, OperationImpl.connected, hactions]
    rcases hcalls with rfl | ⟨n, rfl⟩ <;> simp [Action.IsCall]
  rw [start_eq h]
  simp only [heq]
  cases accepted with
  | true => exact (hconnected.called state calls).started_send hcalls' _
  | false => exact (hconnected.called state calls).started_reject hcalls' _ _ (by decide)

end Servers

end Tftp
