import Tftp.Starts
import Tftp.Reception
import Tftp.Transmission

/-!
# Every event leaves an operation waiting or over

An operation that forgets to wait again hangs, and one that waits twice handles a datagram
twice. Whatever the peer sends, neither happens: between two events either one handler waits
for a datagram and one for the timer, and nothing has been reported, or none waits and the
end has been reported once (`Tftp.WaitsOrIsOver`). And whoever breaks the protocol is told so
with one ERROR packet, unless it is an ERROR packet that ends the operation.
-/

namespace Tftp

open Protocol

/-- The status that an action reports. -/
def Action.status : Action → Option TransferStatus
  | .finished status => some status
  | _ => none

/-- The statuses reported, in order. -/
def statuses (actions : List Action) : List TransferStatus := actions.filterMap Action.status

/-- One handler waits for a datagram and one for the timer. -/
def OperationImpl.Pending {δ : Type} (s : OperationImpl δ) : Prop :=
  (∃ handler, s.receives = [handler]) ∧ s.timerV.isSome

/-- No handler waits. -/
def OperationImpl.AtRest {δ : Type} (s : OperationImpl δ) : Prop :=
  s.receives = [] ∧ s.timerV = none

@[simp] theorem statuses_nil : statuses [] = [] := rfl

@[simp] theorem statuses_append (l l' : List Action) :
    statuses (l ++ l') = statuses l ++ statuses l' := List.filterMap_append

@[simp] theorem statuses_completion (reports : Bool) (status : TransferStatus) :
    statuses (Action.completion reports status) = [status] := by
  cases reports <;> rfl

theorem statuses_cons_none {a : Action} (h : a.status = none) (l : List Action) :
    statuses (a :: l) = statuses l := by
  simp [statuses, h]

@[simp] theorem statuses_send (rawPacket : RawData) (destination : Endpoint) (l : List Action) :
    statuses (.send rawPacket destination :: l) = statuses l := statuses_cons_none rfl l

theorem statuses_calls {calls : List Action} (h : ∀ a ∈ calls, a.IsCall) : statuses calls = [] := by
  refine List.filterMap_eq_nil_iff.mpr fun a ha => ?_
  have hcall := h a ha
  cases a <;> first | rfl | exact hcall.elim

theorem Sent.statuses_eq {peer : Endpoint} {stored packet : RawData} {counter counter' : UInt32}
    {sends : List Action} (h : Sent peer stored counter sends packet counter') :
    statuses sends = [] := by
  cases h <;> rfl

theorem mem_statuses {actions : List Action} {status : TransferStatus} :
    status ∈ statuses actions ↔ .finished status ∈ actions := by
  rw [statuses, List.mem_filterMap]
  constructor
  · rintro ⟨a, ha, hs⟩
    cases a with
    | finished status' =>
      obtain rfl : status' = status := Option.some.inj hs
      exact ha
    | send | resend | sendUnknown | start | requestedTransferSize | receivedTransferSize
    | sendData | receivedData | optionNegotiation | completionHandler | exception => cases hs
  · intro h
    exact ⟨_, h, rfl⟩

section Step

open OperationImpl

variable {δ : Type} {s s' : OperationImpl δ} {e : PeerEvent} {T : List Action}

/-- In which phase which handlers wait. -/
theorem OperationImpl.Settled.pending (h : s.Settled) :
    s.phase ≠ .done ∧ s.Pending ∨ s.phase = .done ∧ s.AtRest := by
  obtain ⟨halive, hshape⟩ := h
  cases hsock : s.socketV with
  | closed =>
    rw [hsock] at hshape
    exact Or.inr ⟨phase_closed hsock, hshape⟩
  | opened =>
    rw [hsock] at hshape
    obtain ⟨hrec, d, htimer⟩ := hshape
    refine Or.inl ⟨?_, ⟨_, hrec⟩, by rw [htimer]; rfl⟩
    rw [phase_opened hsock]
    rintro ⟨⟩
  | connected peer =>
    rw [hsock] at hshape
    obtain ⟨hrec, d, htimer | htimer⟩ := hshape
    · refine Or.inl ⟨?_, ⟨_, hrec⟩, by rw [htimer]; rfl⟩
      rw [phase_waiting hsock htimer]
      rintro ⟨⟩
    · refine Or.inl ⟨?_, ⟨_, hrec⟩, by rw [htimer]; rfl⟩
      rw [phase_dallying hsock htimer]
      rintro ⟨⟩

/-- **What has been reported** of an operation in the given phase: its end, once. -/
def Reported (T : List Action) (p : Phase) : Prop :=
  statuses T = [] ∧ p ≠ .done ∨ (∃ status, statuses T = [status]) ∧ p = .done

theorem Started.reported {retries : UInt16} (h : Started retries s) :
    Reported s.actions s.phase := by
  obtain ⟨calls, destination, report, hact, hcalls, hreport⟩ := h.opening
  rw [hact]
  rcases hreport with ⟨rfl, hphase⟩ | ⟨status, -, rfl, hphase⟩
  · exact Or.inl ⟨by simp [statuses_calls hcalls], hphase⟩
  · exact Or.inr ⟨⟨status, by simp [statuses_calls hcalls, completion]⟩, hphase⟩

/-- **One event keeps the count of the reports.** -/
theorem Reported.outcome [DataHandler δ] (h : Reported T s.phase) (ho : Outcome s e s') :
    Reported (T ++ s'.actions) s'.phase := by
  -- an operation that is over stays over, so nothing has been reported where something happens
  rcases h with ⟨hnil, hphase⟩ | ⟨hone, hdone⟩
  · rw [Reported, statuses_append, hnil, List.nil_append]
    cases ho with
    | idle => exact Or.inl ⟨rfl, hphase⟩
    | foreign => exact Or.inl ⟨rfl, hphase⟩
    | resend destination =>
      rw [phase_resent]
      exact Or.inl ⟨rfl, hphase⟩
    | expire =>
      exact Or.inr ⟨⟨_, statuses_completion _ _⟩, rfl⟩
    | dallied peer =>
      exact Or.inr ⟨⟨_, statuses_completion _ _⟩, rfl⟩
    | received _ _ _ _ calls sends report hadmits hhandled =>
      rw [hhandled.actions_eq, statuses_append, statuses_append,
        statuses_calls hhandled.calls_only, hhandled.sent.statuses_eq]
      rcases hhandled.reported with ⟨rfl, hne⟩ | ⟨status, rfl, hdone, -⟩
      · exact Or.inl ⟨rfl, hne⟩
      · exact Or.inr ⟨⟨status, statuses_completion _ _⟩, hdone⟩
  · obtain ⟨hnil, hdone'⟩ := ho.of_done hdone
    rw [hnil, List.append_nil]
    exact Or.inr ⟨hone, hdone'⟩

end Step

section Runs

open Operation

variable {σ δ : Type} [DataHandler δ]

/-- **Waiting or over**, after a run from `init` to `s`. -/
structure WaitsOrIsOver [Operation σ δ] (init : σ) (history : List (Transition σ PeerEvent))
    (s : σ) : Prop where
  /-- Either nothing has been reported and one handler waits for a datagram and one for the
  timer, or the end has been reported once and none waits. -/
  pending : statuses (trace actions init history) = [] ∧ (base s).Pending ∨
    (∃ status, statuses (trace actions init history) = [status]) ∧ (base s).AtRest
  /-- A datagram that ends the operation without success is answered with one ERROR packet
  before that is reported, unless it is an ERROR packet. -/
  refused : ∀ t ∈ history, ∀ source rawPacket status, t.event = .datagram source rawPacket →
    .finished status ∈ actions t.post → status ≠ .successful →
    ∃ calls sends, actions t.post = calls ++ sends ++ (base t.pre).completion status ∧
      (∀ a ∈ calls, a.IsCall) ∧
      Refused source (PacketHandler.packet (rawPacket.take (base t.pre).receivePacketV)) sends

theorem waitsOrIsOver_run [PeerOperation σ δ] {init s : σ}
    {history : List (Transition σ PeerEvent)} {retries : UInt16}
    (hstart : Started retries (base init))
    (hrun : Run peerStep init history s) : WaitsOrIsOver init history s := by
  have hreported : Reported (trace actions init history) (base s).phase := by
    induction hrun with
    | start =>
      rw [trace_nil]
      exact hstart.reported
    | next e hrun ih =>
      rw [trace_concat]
      exact ih.outcome (outcome (settled_run hstart.settled hrun) e)
  constructor
  · rcases (settled_run hstart.settled hrun).pending with ⟨hne, hpending⟩ | ⟨hdone, hrest⟩
    · exact Or.inl ⟨(hreported.resolve_right fun h => hne h.2).1, hpending⟩
    · exact Or.inr ⟨(hreported.resolve_left fun h => h.2 hdone).1, hrest⟩
  · intro t ht source rawPacket status he hfinished hstatus
    obtain ⟨before, after, heq⟩ := List.append_of_mem ht
    have ho := outcome_at hstart.settled hrun before t after heq
    rw [he] at ho
    have hmem := mem_statuses.mpr hfinished
    rw [Operation.actions] at hmem ⊢
    generalize base t.post = s' at ho hmem
    cases ho with
    | idle => cases hmem
    | foreign => cases hmem
    | received _ _ _ _ calls sends report hadmits hhandled =>
      rw [hhandled.actions_eq] at hmem ⊢
      rw [statuses_append, statuses_append, statuses_calls hhandled.calls_only,
        hhandled.sent.statuses_eq] at hmem
      rcases hhandled.reported with ⟨rfl, hne⟩ | ⟨status', rfl, hdone, hrefused⟩
      · cases hmem
      · have hsame : status = status' := by
          simpa [OperationImpl.completion] using hmem
        subst hsame
        exact ⟨calls, sends, rfl, hhandled.calls_only, hrefused hstatus⟩

end Runs

/-! ### The four operations -/

section Operations

open Operation

/-- **Every event leaves an operation waiting or over**, whatever the peer sends. -/
theorem waits_or_is_over (δ ε : Type) [ReceiveDataHandler δ] [TransmitDataHandler ε] :
    (∀ (settings : Clients.Settings δ) history s,
      Run peerStep ((Clients.ReadOperationImpl.configured settings).request {}) history s →
      WaitsOrIsOver ((Clients.ReadOperationImpl.configured settings).request {}) history s) ∧
    (∀ (settings : Clients.Settings ε) history s,
      Run peerStep ((Clients.WriteOperationImpl.configured settings).request {}) history s →
      WaitsOrIsOver ((Clients.WriteOperationImpl.configured settings).request {}) history s) ∧
    (∀ (settings : Servers.Settings ε) history s,
      Run peerStep ((Servers.ReadOperationImpl.configured settings).start {}) history s →
      WaitsOrIsOver ((Servers.ReadOperationImpl.configured settings).start {}) history s) ∧
    (∀ (settings : Servers.Settings δ) history s,
      Run peerStep ((Servers.WriteOperationImpl.configured settings).start {}) history s →
      WaitsOrIsOver ((Servers.WriteOperationImpl.configured settings).start {}) history s) := by
  refine ⟨fun settings history s hrun => ?_, fun settings history s hrun => ?_,
    fun settings history s hrun => ?_, fun settings history s hrun => ?_⟩
  · exact waitsOrIsOver_run (Clients.ReadOperationImpl.started_request
      (Clients.ReadOperationImpl.idle_configured settings) rfl) hrun
  · exact waitsOrIsOver_run (Clients.WriteOperationImpl.started_request
      (Clients.WriteOperationImpl.idle_configured settings) rfl) hrun
  · exact waitsOrIsOver_run (Servers.ReadOperationImpl.started_start
      (Servers.ReadOperationImpl.idle_configured settings) rfl) hrun
  · exact waitsOrIsOver_run (Servers.WriteOperationImpl.started_start
      (Servers.WriteOperationImpl.idle_configured settings) rfl) hrun

/-- A peer that sends a datagram of one byte, and the operation that gets it. -/
theorem waits_or_is_over_one_byte :
    WaitsOrIsOver dallyingServer (replay peerStep dallyingServer [.datagram {} [0]]).1
        (replay peerStep dallyingServer [.datagram {} [0]]).2 ∧
      statuses (trace actions dallyingServer (replay peerStep dallyingServer
        [.datagram {} [0]]).1) = [.transferError] :=
  ⟨(waits_or_is_over MemoryFile MemoryFile).2.2.2 { dally := true, dataHandler := .empty } _ _
    (Run.of_replay _ _ _), by decide⟩

end Operations

end Tftp
