import Tftp.Starts
import Tftp.Finishing
import Tftp.Files.MemoryFile

/-!
# How a server operation leaves `start`

No socket call fails, but the data handler may throw. When `start` returns, the operation should be
over and have said so, or wait for its client (`Tftp.Servers.LegallyStarted`). Any exception but
one finishes the operation; a `TftpException` is only logged, and then the operation neither waits
nor is over: its completion handler is never called.
-/

namespace Tftp.Servers

open Tftp.OperationImpl

/-- Nothing goes wrong but what the data handler throws: when it is started, and when it is asked
for or told the transfer size. -/
def handlerFaults (startThrows transferSizeThrows : Option HandlerException) : Faults where
  startThrows := startThrows
  transferSizeThrows := transferSizeThrows

/-- **When `start` has returned**: the operation is over, which has been reported once, or it has
sent its first packet, and one handler waits for a datagram and one for the timer. -/
def LegallyStarted {δ : Type} (s : OperationImpl δ) : Prop :=
  (∃ status, reports s.actions = Action.completion s.completionHandlerV status) ∨
    ∃ calls rawPacket destination, s.actions = calls ++ [.send rawPacket destination] ∧
      (∀ a ∈ calls, a.IsCall) ∧ s.receives.length = 1 ∧ s.timerV.isSome

/-- The data handler makes `start` return by a `TftpException`: the one that it throws when it is
started, or the one that it throws on account of the transfer size, if `start` gets there. -/
def Silenced (startThrows transferSizeThrows : Option HandlerException) (asked : Bool) : Prop :=
  startThrows = some .tftpException ∨
    startThrows = none ∧ asked = true ∧ transferSizeThrows = some .tftpException

section Shared

variable {δ : Type} {s : OperationImpl δ} {peer : Endpoint}

theorem reports_calls {calls : List Action} (h : ∀ a ∈ calls, a.IsCall) : reports calls = [] := by
  refine List.filter_eq_nil_iff.mpr fun a ha => ?_
  have hcall := h a ha
  cases a <;> simp_all [Action.IsCall, Action.isReport]

/-- Whatever is a start is legal. -/
theorem legallyStarted_of_started {retries : UInt16} (h : Started retries s) :
    LegallyStarted s := by
  obtain ⟨calls, destination, report, hact, hcalls, ⟨rfl, hphase⟩ | ⟨status, -, rfl, -⟩⟩ :=
    h.opening
  · refine Or.inr ⟨calls, _, destination, hact.trans (List.append_nil _), hcalls, ?_⟩
    obtain ⟨-, hshape⟩ := h.settled
    cases hsock : s.socketV with
    | closed => exact absurd (phase_closed hsock) hphase
    | opened =>
      rw [hsock] at hshape
      obtain ⟨hreceives, d, htimer⟩ := hshape
      exact ⟨by rw [hreceives]; rfl, by rw [htimer]; rfl⟩
    | connected peer =>
      rw [hsock] at hshape
      obtain ⟨hreceives, d, htimer | htimer⟩ := hshape <;>
        exact ⟨by rw [hreceives]; rfl, by rw [htimer]; rfl⟩
  · refine Or.inl ⟨status, ?_⟩
    rw [hact, reports_append, reports_append, reports_calls hcalls, OperationImpl.completion,
      reports_completion]
    rfl

/-- **A `TftpException` leaves an operation that does not wait and has not reported**, any other
exception ends it. -/
theorem legallyStarted_catchException [DataHandler δ] (h : s.Ready peer)
    (hcalls : ∀ a ∈ s.actions, a.IsCall) (e : HandlerException) :
    LegallyStarted (OperationImpl.catchException s e) ↔ e ≠ .tftpException := by
  have hnil : reports s.actions = [] := reports_calls hcalls
  constructor
  · rintro hlegal rfl
    rcases hlegal with ⟨status, hreports⟩ | ⟨-, -, -, -, -, hreceives, -⟩
    · rw [OperationImpl.catchException, hnil] at hreports
      cases hreports
    · rw [OperationImpl.catchException, h.receives_nil] at hreceives
      cases hreceives
  · intro hne
    have heq : OperationImpl.catchException s e = s.completed .communicationError none := by
      cases e with
      | tftpException => exact absurd rfl hne
      | boostException | otherException => exact h.finished_eq _ _
    refine Or.inl ⟨.communicationError, ?_⟩
    rw [heq, completed, reports_append, hnil, OperationImpl.completion, reports_completion]
    rfl

theorem initialise_handlerFaults [DataHandler δ] (h : s.Idle)
    (startThrows transferSizeThrows : Option HandlerException) :
    OperationImpl.initialise s (handlerFaults startThrows transferSizeThrows) =
      { s with socketV := .connected s.remoteV } := by
  simp [OperationImpl.initialise, handlerFaults, h.closed]

/-- The data handler throws when it is started. -/
theorem legallyStarted_startThrows [DataHandler δ] (h : s.Idle) (hnil : s.actions = [])
    (e : HandlerException) (transferSizeThrows : Option HandlerException) (asked : Bool) :
    LegallyStarted (OperationImpl.catchException (OperationImpl.initialise s
        (handlerFaults (some e) transferSizeThrows)) e) ↔
      ¬ Silenced (some e) transferSizeThrows asked := by
  rw [initialise_handlerFaults h]
  have hready : Ready { s with socketV := .connected s.remoteV } s.remoteV :=
    ⟨h.alive, rfl, h.receives_nil⟩
  refine (legallyStarted_catchException hready (by simp [hnil]) e).trans (not_congr ?_)
  simp [Silenced]

/-- **A start that depends on its data handler in two places**: it is legal unless one of them is a
`TftpException`. -/
theorem legallyStarted_iff_not_silenced
    (started : Option HandlerException → Option HandlerException → OperationImpl δ) {asked : Bool}
    (hthrows : ∀ e transferSizeThrows, LegallyStarted (started (some e) transferSizeThrows) ↔
      ¬ Silenced (some e) transferSizeThrows asked)
    (hquiet : LegallyStarted (started none none))
    (hsame : asked = false → ∀ transferSizeThrows,
      started none transferSizeThrows = started none none)
    (hasked : asked = true → ∀ e, LegallyStarted (started none (some e)) ↔ e ≠ .tftpException)
    (startThrows transferSizeThrows : Option HandlerException) :
    LegallyStarted (started startThrows transferSizeThrows) ↔
      ¬ Silenced startThrows transferSizeThrows asked := by
  cases startThrows with
  | some e => exact hthrows e transferSizeThrows
  | none =>
    cases asked with
    | false =>
      rw [hsame rfl]
      exact iff_of_true hquiet (by simp [Silenced])
    | true =>
      cases transferSizeThrows with
      | none => exact iff_of_true hquiet (by simp [Silenced])
      | some e => exact (hasked rfl e).trans (not_congr (by simp [Silenced]))

section Read

variable [TransmitDataHandler δ] {s : ReadOperationImpl δ}

/-- Whether the data handler is asked for the transfer size. -/
def ReadOperationImpl.asks (s : ReadOperationImpl δ) : Bool :=
  s.optionsConfigurationV.handleTransferSizeOption && s.clientOptionsV.transferSize = some 0

theorem ReadOperationImpl.negotiate_of_not_asks (h : s.asks = false)
    (transferSizeThrows : Option HandlerException) :
    s.negotiate (handlerFaults none transferSizeThrows) = s.negotiate {} := by
  rw [asks] at h
  rw [negotiate, negotiate]
  cases hhandle : s.optionsConfigurationV.handleTransferSizeOption with
  | false => rfl
  | true =>
    cases hsize : s.clientOptionsV.transferSize with
    | none => rfl
    | some transferSize =>
      have hne : transferSize ≠ 0 := by
        rintro rfl
        simp [hhandle, hsize] at h
      dsimp only
      rw [if_pos hne, if_pos hne]
      rfl

theorem ReadOperationImpl.start_handlerFaults (h : s.Idle)
    (transferSizeThrows : Option HandlerException) :
    s.start (handlerFaults none transferSizeThrows) =
      if !s.clientOptionsV.isSet && s.additionalNegotiatedOptionsV.isEmpty then
        ((s.update (OperationImpl.connected · s.receiveTimeoutV)).sendData {}).update (·.receive {})
      else (s.update (OperationImpl.connected · s.receiveTimeoutV)).negotiate
        (handlerFaults none transferSizeThrows) := by
  simp only [update, ← OperationImpl.initialise_eq h]
  rfl

/-- The data handler does not get to throw. -/
theorem ReadOperationImpl.start_of_not_asks (h : s.Idle) (hasks : s.asks = false)
    (transferSizeThrows : Option HandlerException) :
    s.start (handlerFaults none transferSizeThrows) = s.start {} := by
  have hsame := negotiate_of_not_asks (s := s.update (OperationImpl.connected · s.receiveTimeoutV))
    hasks
  have hquiet := start_handlerFaults h none
  rw [hsame] at hquiet
  rw [start_handlerFaults h, hsame]
  exact hquiet.symm

/-- **When the server of a read starts legally**: unless its data handler throws a
`TftpException`. -/
theorem ReadOperationImpl.legallyStarted_start (h : s.Idle) (hnil : s.actions = [])
    (startThrows transferSizeThrows : Option HandlerException) :
    LegallyStarted (s.start (handlerFaults startThrows transferSizeThrows)).toOperationImpl ↔
      ¬ Silenced startThrows transferSizeThrows s.asks := by
  refine legallyStarted_iff_not_silenced
    (fun throws throws' => (s.start (handlerFaults throws throws')).toOperationImpl)
    (fun e _ => legallyStarted_startThrows h hnil e _ _)
    (legallyStarted_of_started (started_start h hnil))
    (fun hasks _ => congrArg toOperationImpl (start_of_not_asks h hasks _)) ?_
    startThrows transferSizeThrows
  -- the options have been looked at, and the data handler is asked
  intro hasks e
  rw [asks, Bool.and_eq_true, decide_eq_true_eq] at hasks
  obtain ⟨hhandle, hsize⟩ := hasks
  rw [start_handlerFaults h, if_neg (by simp [TftpOptions.isSet, hsize]), negotiate]
  simp only [update, hhandle, hsize, ne_eq, not_true_eq_false, if_false]
  have hready := OperationImpl.ready_connected h s.negotiatedReceiveTimeout
  exact legallyStarted_catchException hready
    (by simp [OperationImpl.connected, hnil, Action.IsCall]) e

end Read

section Write

variable [ReceiveDataHandler δ] {s : WriteOperationImpl δ}

/-- Whether the data handler is told the transfer size. -/
def WriteOperationImpl.asks (s : WriteOperationImpl δ) : Bool :=
  s.optionsConfigurationV.handleTransferSizeOption && s.clientOptionsV.transferSize.isSome

theorem WriteOperationImpl.negotiate_of_not_asks (h : s.asks = false)
    (transferSizeThrows : Option HandlerException) :
    s.negotiate (handlerFaults none transferSizeThrows) = s.negotiate {} := by
  rw [asks] at h
  rw [negotiate, negotiate]
  cases hhandle : s.optionsConfigurationV.handleTransferSizeOption with
  | false => rfl
  | true =>
    cases hsize : s.clientOptionsV.transferSize with
    | none => rfl
    | some transferSize => simp [hhandle, hsize] at h

theorem WriteOperationImpl.start_handlerFaults (h : s.Idle)
    (transferSizeThrows : Option HandlerException) :
    s.start (handlerFaults none transferSizeThrows) =
      if !s.clientOptionsV.isSet && s.additionalNegotiatedOptionsV.isEmpty then
        ((s.update (OperationImpl.connected · s.receiveTimeoutV)).update
          (·.send {} (.acknowledgement 0))).update (·.receive {})
      else (s.update (OperationImpl.connected · s.receiveTimeoutV)).negotiate
        (handlerFaults none transferSizeThrows) := by
  simp only [update, ← OperationImpl.initialise_eq h]
  rfl

/-- The data handler does not get to throw. -/
theorem WriteOperationImpl.start_of_not_asks (h : s.Idle) (hasks : s.asks = false)
    (transferSizeThrows : Option HandlerException) :
    s.start (handlerFaults none transferSizeThrows) = s.start {} := by
  have hsame := negotiate_of_not_asks (s := s.update (OperationImpl.connected · s.receiveTimeoutV))
    hasks
  have hquiet := start_handlerFaults h none
  rw [hsame] at hquiet
  rw [start_handlerFaults h, hsame]
  exact hquiet.symm

/-- **When the server of a write starts legally**: unless its data handler throws a
`TftpException`. -/
theorem WriteOperationImpl.legallyStarted_start (h : s.Idle) (hnil : s.actions = [])
    (startThrows transferSizeThrows : Option HandlerException) :
    LegallyStarted (s.start (handlerFaults startThrows transferSizeThrows)).toOperationImpl ↔
      ¬ Silenced startThrows transferSizeThrows s.asks := by
  refine legallyStarted_iff_not_silenced
    (fun throws throws' => (s.start (handlerFaults throws throws')).toOperationImpl)
    (fun e _ => legallyStarted_startThrows h hnil e _ _)
    (legallyStarted_of_started (started_start h hnil))
    (fun hasks _ => congrArg toOperationImpl (start_of_not_asks h hasks _)) ?_
    startThrows transferSizeThrows
  -- the options have been looked at, and the data handler is told
  intro hasks e
  rw [asks, Bool.and_eq_true, Option.isSome_iff_exists] at hasks
  obtain ⟨hhandle, transferSize, hsize⟩ := hasks
  rw [start_handlerFaults h, if_neg (by simp [TftpOptions.isSet, hsize]), negotiate]
  simp only [update, hhandle, hsize]
  have hready := OperationImpl.ready_connected h s.negotiatedReceiveTimeout
  exact legallyStarted_catchException hready
    (by simp [OperationImpl.connected, hnil, Action.IsCall]) e

end Write

end Shared

/-- **No server operation dies silently**, whatever its data handler throws, unless that is a
`TftpException`. -/
theorem legallyStarted_iff (δ ε : Type) [TransmitDataHandler δ] [ReceiveDataHandler ε] :
    (∀ (settings : Settings δ) (startThrows transferSizeThrows : Option HandlerException),
      LegallyStarted ((ReadOperationImpl.configured settings).start
          (handlerFaults startThrows transferSizeThrows)).toOperationImpl ↔
        ¬ Silenced startThrows transferSizeThrows
          (settings.optionsConfiguration.handleTransferSizeOption &&
            settings.clientOptions.transferSize = some 0)) ∧
    ∀ (settings : Settings ε) (startThrows transferSizeThrows : Option HandlerException),
      LegallyStarted ((WriteOperationImpl.configured settings).start
          (handlerFaults startThrows transferSizeThrows)).toOperationImpl ↔
        ¬ Silenced startThrows transferSizeThrows
          (settings.optionsConfiguration.handleTransferSizeOption &&
            settings.clientOptions.transferSize.isSome) := by
  constructor
  · intro settings startThrows transferSizeThrows
    exact ReadOperationImpl.legallyStarted_start ⟨rfl, rfl, rfl⟩ rfl _ _
  · intro settings startThrows transferSizeThrows
    exact WriteOperationImpl.legallyStarted_start ⟨rfl, rfl, rfl⟩ rfl _ _

/-- **A file that cannot be opened**: the data handler throws a `TftpException`, and nothing is sent
or reported. -/
theorem not_legallyStarted_startThrows :
    ¬ LegallyStarted ((ReadOperationImpl.configured { dataHandler := MemoryFile.ofData [] }).start
      (handlerFaults (some .tftpException) none)).toOperationImpl := by
  rintro (⟨status, hreports⟩ | ⟨-, -, -, -, -, hreceives, -⟩)
  · exact absurd (congrArg List.length hreports) (by cases status <;> decide)
  · exact absurd hreceives (by decide)

end Tftp.Servers
