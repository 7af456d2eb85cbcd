import Tftp.Starts
import Tftp.Reception
import Tftp.Transmission

/-!
# Retransmissions are bounded, and identical

The stored packet is sent again when the timer expires, and how often is counted in one
handler, reset in another and compared in a third place. Read off the list of the actions, the
count is simple: each retransmission repeats the packet that was handed over last, and between
two packets handed over there are at most as many as the retry limit says
(`Tftp.Paced`). The transmission counter is that count plus one.
-/

namespace Tftp

open Protocol

/-- Whether an action hands over a new packet. -/
def Action.IsSend : Action → Prop
  | .send _ _ => True
  | _ => False

/-- Whether an action sends the stored packet again. -/
def Action.isResend : Action → Bool
  | .resend _ _ => true
  | _ => false

/-- How often the stored packet is sent again. -/
def resends (actions : List Action) : ℕ := actions.countP Action.isResend

/-- The packet handed over last, and how often it was sent again since, after one more
action. -/
def Action.handed (last : Option (RawData × ℕ)) : Action → Option (RawData × ℕ)
  | .send rawPacket _ => some (rawPacket, 0)
  | .resend _ _ => last.map fun x => (x.1, x.2 + 1)
  | _ => last

/-- The packet handed over last, and how often it was sent again since. -/
def handed (last : Option (RawData × ℕ)) (actions : List Action) : Option (RawData × ℕ) :=
  actions.foldl Action.handed last

/-- **Every retransmission repeats the packet handed over last**, and not more often than
allowed. -/
def Paced (limit : ℕ) : Option (RawData × ℕ) → List Action → Prop
  | _, [] => True
  | last, a :: rest =>
      (∀ rawPacket destination, a = .resend rawPacket destination →
        ∃ n, last = some (rawPacket, n) ∧ n < limit) ∧ Paced limit (a.handed last) rest

section Lists

variable {limit n : ℕ} {last : Option (RawData × ℕ)} {l l' : List Action} {packet : RawData}
  {destination : Endpoint}

@[simp] theorem handed_nil : handed last [] = last := rfl

theorem handed_append : handed last (l ++ l') = handed (handed last l) l' := List.foldl_append

theorem paced_append : ∀ {last}, Paced limit last (l ++ l') ↔
    Paced limit last l ∧ Paced limit (handed last l) l' := by
  induction l with
  | nil => simp [Paced]
  | cons a l ih =>
    intro last
    rw [List.cons_append, Paced, Paced, ih, and_assoc]
    rfl

/-- Actions that put neither a new packet nor the stored one on the wire. -/
def Silent (l : List Action) : Prop := ∀ a ∈ l, ¬ a.IsSend ∧ a.isResend = false

theorem handed_silent (h : Silent l) : handed last l = last := by
  induction l with
  | nil => rfl
  | cons a l ih =>
    obtain ⟨ha, hl⟩ := List.forall_mem_cons.mp h
    have hlast : a.handed last = last := by
      cases a with
      | send => exact absurd trivial ha.1
      | resend => exact absurd ha.2 (by simp [Action.isResend])
      | sendUnknown | start | requestedTransferSize | receivedTransferSize | sendData
      | receivedData | optionNegotiation | finished | completionHandler | exception => rfl
    rw [handed, List.foldl_cons, hlast]
    exact ih hl

theorem paced_silent (h : Silent l) : Paced limit last l := by
  induction l generalizing last with
  | nil => trivial
  | cons a l ih =>
    obtain ⟨ha, hl⟩ := List.forall_mem_cons.mp h
    refine ⟨?_, ih hl⟩
    rintro rawPacket destination rfl
    exact absurd ha.2 (by simp [Action.isResend])

/-- Until the next packet is handed over, the last one stays, and every retransmission is
counted. -/
theorem handed_between (h : ∀ a ∈ l, ¬ a.IsSend) :
    handed (some (packet, n)) l = some (packet, n + resends l) := by
  induction l generalizing n with
  | nil => rfl
  | cons a l ih =>
    obtain ⟨ha, hl⟩ := List.forall_mem_cons.mp h
    rw [handed, List.foldl_cons, resends, List.countP_cons]
    cases a with
    | send => exact absurd trivial ha
    | resend =>
      refine (ih hl).trans ?_
      simp only [resends, Action.isResend, if_true]
      congr 2
      omega
    | sendUnknown | start | requestedTransferSize | receivedTransferSize | sendData
    | receivedData | optionNegotiation | finished | completionHandler | exception => exact ih hl

/-- **What pacing means between two packets handed over.** -/
theorem Paced.between (hpaced : Paced limit (some (packet, n)) l) (h : ∀ a ∈ l, ¬ a.IsSend)
    (hn : n ≤ limit) :
    (∀ rawPacket destination, .resend rawPacket destination ∈ l → rawPacket = packet) ∧
      n + resends l ≤ limit := by
  induction l generalizing n with
  | nil => exact ⟨by simp, hn⟩
  | cons a l ih =>
    obtain ⟨ha, hl⟩ := List.forall_mem_cons.mp h
    obtain ⟨hresend, hrest⟩ := hpaced
    rw [resends, List.countP_cons]
    cases a with
    | send => exact absurd trivial ha
    | resend rawPacket destination =>
      obtain ⟨m, hm, hlt⟩ := hresend rawPacket destination rfl
      obtain ⟨rfl, rfl⟩ : packet = rawPacket ∧ n = m := by simpa using hm
      obtain ⟨hsame, hcount⟩ := ih hrest hl (by omega)
      constructor
      · intro rawPacket' destination' hmem
        rcases List.mem_cons.mp hmem with heq | hmem
        · cases heq
          rfl
        · exact hsame rawPacket' destination' hmem
      · rw [resends] at hcount
        simp only [Action.isResend, if_true]
        omega
    | sendUnknown | start | requestedTransferSize | receivedTransferSize | sendData
    | receivedData | optionNegotiation | finished | completionHandler | exception =>
      obtain ⟨hsame, hcount⟩ := ih hrest hl hn
      exact ⟨fun rawPacket' destination' hmem => hsame rawPacket' destination'
        (by simpa using hmem), hcount⟩

/-- Before the first packet is handed over nothing is sent again. -/
theorem Paced.before (hpaced : Paced limit none l) (h : ∀ a ∈ l, ¬ a.IsSend) :
    ∀ rawPacket destination, .resend rawPacket destination ∉ l := by
  induction l with
  | nil => simp
  | cons a l ih =>
    obtain ⟨ha, hl⟩ := List.forall_mem_cons.mp h
    obtain ⟨hresend, hrest⟩ := hpaced
    have hnone : a.handed none = none := by
      cases a with
      | send => exact absurd trivial ha
      | resend | sendUnknown | start | requestedTransferSize | receivedTransferSize | sendData
      | receivedData | optionNegotiation | finished | completionHandler | exception => rfl
    rw [hnone] at hrest
    intro rawPacket destination hmem
    rcases List.mem_cons.mp hmem with rfl | hmem
    · obtain ⟨m, hm, -⟩ := hresend rawPacket destination rfl
      cases hm
    · exact ih hrest hl rawPacket destination hmem

theorem silent_append : Silent (l ++ l') ↔ Silent l ∧ Silent l' := List.forall_mem_append

theorem silent_calls (h : ∀ a ∈ l, a.IsCall) : Silent l := by
  intro a ha
  have hcall := h a ha
  cases a with
  | send | resend | sendUnknown | finished | completionHandler | exception => exact hcall.elim
  | start | requestedTransferSize | receivedTransferSize | sendData | receivedData
  | optionNegotiation => exact ⟨id, rfl⟩

theorem silent_completion (reports : Bool) (status : TransferStatus) :
    Silent (Action.completion reports status) := by
  cases reports <;> simp [Silent, Action.completion, Action.IsSend, Action.isResend]

end Lists

section Step

open OperationImpl

variable {δ : Type} {limit : ℕ} {s s' : OperationImpl δ} {e : PeerEvent} {T acts : List Action}

/-- **What the transmission counter counts**, given all actions so far. -/
structure Counted (limit : ℕ) (T : List Action) (s : OperationImpl δ) : Prop where
  paced : Paced limit none T
  retries_eq : s.tftpRetriesV.toNat = limit
  handed_eq : ∃ n, handed none T = some (s.transmitPacketV, n) ∧ s.transmitCounterV.toNat = n + 1 ∧
    n ≤ limit

/-- Actions that put nothing on the wire count nothing. -/
theorem Counted.silent (h : Counted limit T s) (hacts : Silent acts)
    (hretries : s'.tftpRetriesV = s.tftpRetriesV) (hpacket : s'.transmitPacketV = s.transmitPacketV)
    (hcounter : s'.transmitCounterV = s.transmitCounterV) : Counted limit (T ++ acts) s' := by
  refine ⟨paced_append.mpr ⟨h.paced, paced_silent hacts⟩, hretries ▸ h.retries_eq, ?_⟩
  rw [handed_append, handed_silent hacts, hpacket, hcounter]
  exact h.handed_eq

/-- A new packet starts a new count. -/
theorem Counted.sent (h : Counted limit T s) {calls report : List Action} (hcalls : Silent calls)
    (hreport : Silent report) (packet : RawData) (destination : Endpoint)
    (hretries : s'.tftpRetriesV = s.tftpRetriesV) (hpacket : s'.transmitPacketV = packet)
    (hcounter : s'.transmitCounterV = 1) :
    Counted limit (T ++ (calls ++ [.send packet destination] ++ report)) s' := by
  refine ⟨paced_append.mpr ⟨h.paced, paced_append.mpr ⟨paced_append.mpr ⟨paced_silent hcalls, ?_⟩,
    paced_silent hreport⟩⟩, hretries ▸ h.retries_eq, 0, ?_, by rw [hcounter]; rfl, Nat.zero_le _⟩
  · exact ⟨by rintro rawPacket destination ⟨⟩, trivial⟩
  · rw [handed_append, handed_append, handed_append, handed_silent hreport, hpacket]
    rfl

/-- **One event keeps the count.** -/
theorem Counted.outcome [DataHandler δ] (h : Counted limit T s) (ho : Outcome s e s') :
    Counted limit (T ++ s'.actions) s' := by
  cases ho with
  | idle => exact h.silent (by simp [Silent, cleared]) rfl rfl rfl
  | foreign =>
    refine h.silent ?_ rfl rfl rfl
    simp [Silent, emit, cleared, Action.IsSend, Action.isResend]
  | resend destination hphase hretries =>
    obtain ⟨n, hn, hcounter, hle⟩ := h.handed_eq
    have hlimit := h.retries_eq
    have hlt : s.tftpRetriesV.toNat < 65536 := s.tftpRetriesV.toNat_lt
    refine ⟨paced_append.mpr ⟨h.paced, ?_, trivial⟩, hlimit, n + 1, ?_, ?_, by omega⟩
    · rintro rawPacket destination' heq
      cases heq
      exact ⟨n, hn, by omega⟩
    · rw [handed_append, hn]
      rfl
    · -- far below the greatest value the counter does not wrap
      show (s.transmitCounterV + 1).toNat = n + 1 + 1
      rw [UInt32.toNat_add, UInt32.toNat_one]
      omega
  | expire => exact h.silent (silent_completion _ _) rfl rfl rfl
  | dallied peer => exact h.silent (silent_completion _ _) rfl rfl rfl
  | received source lastEndpoint _ _ calls sends report hadmits hhandled =>
    have hcalls := silent_calls hhandled.calls_only
    have hreport : Silent report := by
      rcases hhandled.reported with ⟨rfl, -⟩ | ⟨status, rfl, -⟩
      · simp [Silent]
      · exact silent_completion _ _
    rw [hhandled.actions_eq]
    have hsent := hhandled.sent
    generalize hp : s'.transmitPacketV = packet at hsent
    generalize hc : s'.transmitCounterV = counter at hsent
    cases hsent with
    | nothing =>
      rw [List.append_nil]
      exact h.silent (silent_append.mpr ⟨hcalls, hreport⟩) hhandled.retries_eq hp hc
    | packet p => exact h.sent hcalls hreport p.encode source hhandled.retries_eq hp hc

theorem timerV_of_dallying {peer : Endpoint} (h : s.phase = .dallying peer) :
    ∃ d, s.timerV = some (.timeoutDallyHandler, d) := by
  rw [phase] at h
  split at h
  · cases h
  · cases h
  · split at h
    · rename_i d htimer
      exact ⟨d, htimer⟩
    · cases h

theorem timerV_of_done (hset : s.Settled) (h : s.phase = .done) :
    s.timerV = none := by
  obtain ⟨-, hshape⟩ := hset
  rw [phase] at h
  split at h
  · rename_i hsock
    rw [hsock] at hshape
    exact hshape.2
  · cases h
  · split at h <;> cases h

theorem Started.counted {retries : UInt16} (h : Started retries s) :
    Counted retries.toNat s.actions s := by
  obtain ⟨calls, destination, report, hact, hcalls, hreport⟩ := h.opening
  have hsilent : Silent report := by
    rcases hreport with ⟨rfl, -⟩ | ⟨status, -, rfl, -⟩
    · simp [Silent]
    · exact silent_completion _ _
  rw [hact]
  refine ⟨paced_append.mpr ⟨paced_append.mpr ⟨paced_silent (silent_calls hcalls), ?_⟩,
    paced_silent hsilent⟩, by rw [h.retries_eq], 0, ?_, by rw [h.counter_eq]; rfl, Nat.zero_le _⟩
  · exact ⟨by rintro rawPacket destination ⟨⟩, trivial⟩
  · rw [handed_append, handed_append, handed_silent hsilent]
    rfl

end Step

/-! ### Runs -/

section Runs

open Operation

variable {σ δ : Type} [DataHandler δ]

/-- **Bounded, identical retransmission**, in a run from `init` to `s`. -/
structure Retransmits [Operation σ δ] (retries : UInt16) (init : σ)
    (history : List (Transition σ PeerEvent)) (s : σ) : Prop where
  /-- Nothing is sent again before the first packet is handed over. -/
  first : ∀ past after, trace actions init history = past ++ after → (∀ a ∈ past, ¬ a.IsSend) →
    ∀ rawPacket destination, .resend rawPacket destination ∉ past
  /-- Up to the next packet handed over, only the last one is sent again, and as often as
  allowed. -/
  between : ∀ past packet destination between after,
    trace actions init history = past ++ .send packet destination :: (between ++ after) →
    (∀ a ∈ between, ¬ a.IsSend) →
    (∀ rawPacket destination, .resend rawPacket destination ∈ between → rawPacket = packet) ∧
      resends between ≤ retries.toNat
  /-- When it was sent as often as allowed, the expiry of the timer ends the operation, unless
  it dallies. -/
  expired : ∀ before t after, history = before ++ t :: after → t.event = .timeout →
    (∃ handler timeout, (base t.pre).timerV = some (handler, timeout) ∧
      handler ≠ .timeoutDallyHandler) →
    ∀ past packet destination between,
      trace actions init before = past ++ .send packet destination :: between →
      (∀ a ∈ between, ¬ a.IsSend) → resends between = retries.toNat →
      actions t.post = (base t.pre).completion .communicationError
  /-- A datagram does not make it send the stored packet again. -/
  datagram : ∀ t ∈ history, ∀ source rawPacket, t.event = .datagram source rawPacket →
    ∀ packet destination, .resend packet destination ∉ actions t.post
  /-- A datagram from another source leaves the stored packet and its count alone. -/
  foreign : ∀ t ∈ history, ∀ source rawPacket, t.event = .datagram source rawPacket →
    ¬ (base t.pre).phase.admits source → Silent (actions t.post) ∧
      (base t.post).transmitPacketV = (base t.pre).transmitPacketV ∧
      (base t.post).transmitCounterV = (base t.pre).transmitCounterV
  /-- The counter stays in its range. -/
  counter : (base s).transmitCounterV.toNat ≤ retries.toNat + 1

/-- A datagram never makes an operation send the stored packet again. -/
theorem Outcome.resend_notMem {s s' : OperationImpl δ} {source : Endpoint} {rawPacket : RawData}
    (h : Outcome s (.datagram source rawPacket) s') (packet : RawData) (destination : Endpoint) :
    .resend packet destination ∉ s'.actions := by
  cases h with
  | idle => simp [OperationImpl.cleared]
  | foreign => simp [OperationImpl.emit, OperationImpl.cleared]
  | received _ _ _ _ calls sends report hadmits hhandled =>
    rw [hhandled.actions_eq]
    intro hmem
    rcases List.mem_append.mp hmem with hmem | hmem
    · rcases List.mem_append.mp hmem with hmem | hmem
      · exact hhandled.calls_only _ hmem
      · have hsent := hhandled.sent
        generalize s'.transmitPacketV = packet' at hsent
        generalize s'.transmitCounterV = counter at hsent
        cases hsent <;> simp at hmem
    · rcases hhandled.reported with ⟨rfl, -⟩ | ⟨status, rfl, -⟩
      · simp at hmem
      · exact absurd (silent_completion _ _ _ hmem).2 (by simp [Action.isResend])

/-- A datagram from another source than the phase admits. -/
theorem Outcome.unadmitted {s s' : OperationImpl δ} {source : Endpoint} {rawPacket : RawData}
    (h : Outcome s (.datagram source rawPacket) s') (hsource : ¬ s.phase.admits source) :
    Silent s'.actions ∧ s'.transmitPacketV = s.transmitPacketV ∧
      s'.transmitCounterV = s.transmitCounterV := by
  cases h with
  | idle => exact ⟨by simp [Silent, OperationImpl.cleared], rfl, rfl⟩
  | foreign =>
    refine ⟨?_, rfl, rfl⟩
    simp [Silent, OperationImpl.emit, OperationImpl.cleared, Action.IsSend, Action.isResend]
  | received _ _ _ _ _ _ _ hadmits => exact absurd hadmits hsource

variable [PeerOperation σ δ] {init s : σ} {history : List (Transition σ PeerEvent)}
  {retries : UInt16}

theorem counted_run (hstart : Started retries (base init)) (hrun : Run peerStep init history s) :
    Counted retries.toNat (trace actions init history) (base s) := by
  induction hrun with
  | start =>
    rw [trace_nil]
    exact hstart.counted
  | next e hrun ih =>
    rw [trace_concat]
    exact ih.outcome (outcome (settled_run hstart.settled hrun) e)

theorem retransmits_run (hstart : Started retries (base init))
    (hrun : Run peerStep init history s) : Retransmits retries init history s := by
  have hcounted := counted_run hstart hrun
  constructor
  · intro past after heq hpast
    have hpaced := hcounted.paced
    rw [heq] at hpaced
    exact (paced_append.mp hpaced).1.before hpast
  · intro past packet destination between after heq hbetween
    have hpaced := hcounted.paced
    rw [heq] at hpaced
    have hrest := (paced_append.mp (paced_append.mp hpaced).2.2).1
    have hcount := hrest.between hbetween (Nat.zero_le _)
    rwa [Nat.zero_add] at hcount
  · rintro before t after heq he ⟨handler, timeout, htimer, hhandler⟩ past packet destination
      between htrace hbetween hcount
    have hset := settled_run hstart.settled (hrun.before before t after heq)
    have ho := outcome_at hstart.settled hrun before t after heq
    obtain ⟨n, hn, hcounter, -⟩ := (counted_run hstart (hrun.before before t after heq)).handed_eq
    have hretries := (counted_run hstart (hrun.before before t after heq)).retries_eq
    -- the counter has counted all that were allowed
    have hall : handed none (trace actions init before) = some (packet, resends between) := by
      rw [htrace, handed_append, ← Nat.zero_add (resends between), ← handed_between hbetween]
      rfl
    have heq' : n = retries.toNat := by
      rw [hall] at hn
      obtain ⟨-, h⟩ : packet = (base t.pre).transmitPacketV ∧ resends between = n := by
        simpa using hn
      omega
    rw [he] at ho
    rw [Operation.actions]
    generalize base t.post = s' at ho
    cases ho with
    | idle _ hidle =>
      rcases hidle with hdone | ⟨peer, source, rawPacket, -, -, heq⟩
      · rw [timerV_of_done hset hdone] at htimer
        cases htimer
      · cases heq
    | resend destination' hphase hle => omega
    | expire hphase hlt => rfl
    | dallied peer hphase =>
      obtain ⟨d, hd⟩ := timerV_of_dallying hphase
      obtain ⟨rfl, -⟩ : TimerHandler.timeoutDallyHandler = handler ∧ d = timeout := by
        simpa using hd.symm.trans htimer
      exact absurd rfl hhandler
  · intro t ht source rawPacket he
    obtain ⟨before, after, heq⟩ := List.append_of_mem ht
    have ho := outcome_at hstart.settled hrun before t after heq
    rw [he] at ho
    exact ho.resend_notMem
  · intro t ht source rawPacket he
    obtain ⟨before, after, heq⟩ := List.append_of_mem ht
    have ho := outcome_at hstart.settled hrun before t after heq
    rw [he] at ho
    exact ho.unadmitted
  · obtain ⟨n, -, hcounter, hle⟩ := hcounted.handed_eq
    omega

end Runs

/-! ### The four operations -/

section Operations

open Operation

/-- **Repeated acknowledgements are ignored**: nothing is done, and the stored packet and its
count stay. -/
def RepeatsIgnored {σ δ : Type} [TransmitDataHandler δ] [SendingOperation σ δ]
    (history : List (Transition σ PeerEvent)) : Prop :=
  ∀ t ∈ history, ∀ source rawPacket, t.event = .datagram source rawPacket →
    (base t.pre).phase.admits source →
    PacketHandler.packet (rawPacket.take (base t.pre).receivePacketV) =
      .packet (.acknowledgement (SendingOperation.view t.pre).received) →
    actions t.post = [] ∧ (base t.post).transmitPacketV = (base t.pre).transmitPacketV ∧
      (base t.post).transmitCounterV = (base t.pre).transmitCounterV

theorem repeatsIgnored_run {σ δ : Type} [TransmitDataHandler δ] [SendingOperation σ δ]
    {init s : σ} {history : List (Transition σ PeerEvent)} (hset : (base init).Settled)
    (hrun : Run peerStep init history s) : RepeatsIgnored history := by
  intro t ht source rawPacket he hadmits hr
  obtain ⟨before, after, heq⟩ := List.append_of_mem ht
  have hset' := settled_run hset (hrun.before before t after heq)
  have hreaction := (SendingOperation.senderReaction hset' t.event).2
  rw [← hrun.post_eq t ht, he] at hreaction
  have hbuffer : (SendingOperation.view t.pre).buffer = (base t.pre).receivePacketV := by
    rw [SendingOperation.view_base t.pre]
  obtain ⟨hnil, hview⟩ := hreaction.repeated hadmits (by rw [hbuffer]; exact hr)
  refine ⟨hnil, ?_, ?_⟩
  · have hpacket := congrArg SenderView.packet hview
    rwa [SendingOperation.view_base t.pre, SendingOperation.view_base t.post] at hpacket
  · have hcounter := congrArg SenderView.counter hview
    rwa [(SendingOperation.retries_view t.pre).2, (SendingOperation.retries_view t.post).2]
      at hcounter

/-- **Retransmission is bounded and identical** in all four operations, for every retry
limit. -/
theorem retransmission_bounded (δ ε : Type) [ReceiveDataHandler δ] [TransmitDataHandler ε] :
    (∀ (settings : Clients.Settings δ) history s,
      Run peerStep ((Clients.ReadOperationImpl.configured settings).request {}) history s →
      Retransmits settings.tftpRetries ((Clients.ReadOperationImpl.configured settings).request {})
        history s) ∧
    (∀ (settings : Clients.Settings ε) history s,
      Run peerStep ((Clients.WriteOperationImpl.configured settings).request {}) history s →
      Retransmits settings.tftpRetries
        ((Clients.WriteOperationImpl.configured settings).request {}) history s ∧
      RepeatsIgnored history) ∧
    (∀ (settings : Servers.Settings ε) history s,
      Run peerStep ((Servers.ReadOperationImpl.configured settings).start {}) history s →
      Retransmits settings.tftpRetries ((Servers.ReadOperationImpl.configured settings).start {})
        history s ∧
      RepeatsIgnored history) ∧
    (∀ (settings : Servers.Settings δ) history s,
      Run peerStep ((Servers.WriteOperationImpl.configured settings).start {}) history s →
      Retransmits settings.tftpRetries ((Servers.WriteOperationImpl.configured settings).start {})
        history s) := by
  refine ⟨fun settings history s hrun => ?_, fun settings history s hrun => ?_,
    fun settings history s hrun => ?_, fun settings history s hrun => ?_⟩
  · exact retransmits_run (Clients.ReadOperationImpl.started_request
      (Clients.ReadOperationImpl.idle_configured settings) rfl) hrun
  · have hstart := Clients.WriteOperationImpl.started_request
      (Clients.WriteOperationImpl.idle_configured settings) rfl
    exact ⟨retransmits_run hstart hrun, repeatsIgnored_run hstart.settled hrun⟩
  · have hstart := Servers.ReadOperationImpl.started_start
      (Servers.ReadOperationImpl.idle_configured settings) rfl
    exact ⟨retransmits_run hstart hrun, repeatsIgnored_run hstart.settled hrun⟩
  · exact retransmits_run (Servers.WriteOperationImpl.started_start
      (Servers.WriteOperationImpl.idle_configured settings) rfl) hrun

/-- One retry, and then the end. -/
theorem retransmission_bounded_two_timeouts :
    Retransmits 1 dallyingServer (replay peerStep dallyingServer [.timeout, .timeout]).1
        (replay peerStep dallyingServer [.timeout, .timeout]).2 ∧
      trace actions dallyingServer (replay peerStep dallyingServer [.timeout, .timeout]).1 =
        [.start, .send (Packet.acknowledgement 0).encode {},
          .resend (Packet.acknowledgement 0).encode {}, .finished .communicationError,
          .completionHandler .communicationError] :=
  ⟨(retransmission_bounded MemoryFile MemoryFile).2.2.2 { dally := true, dataHandler := .empty } _ _
    (Run.of_replay _ _ _), by decide⟩

end Operations

end Tftp
