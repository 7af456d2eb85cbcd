import Tftp.Frame
import Tftp.Protocol.Run
import Tftp.Clients.ReadReceives
import Tftp.Files.MemoryFile

/-!
# The option negotiation handler and the first block

The client of a read calls the option negotiation handler when it gets the acknowledgement of its
options, or, without one, when it gets block one. The first is over as soon as the block counter
has moved. The second is not: the number of block 65536 is one again, and if the server has
ignored the options, the handler is called anew in the middle of the transfer
(`Tftp.Clients.ReadOperationImpl.negotiated_in_the_middle`). Without that event it is never called
once data has been passed on (`Tftp.Clients.ReadOperationImpl.negotiatedFirst_run`).
-/

namespace Tftp

open Protocol

/-- **No options are negotiated after data has been passed on.** -/
def NegotiatedFirst (actions : List Action) : Prop :=
  actions.Pairwise fun a b => ∀ data options, a = .receivedData data → b ≠ .optionNegotiation options

/-- Whether data has been passed on. -/
def PassedOn (actions : List Action) : Prop := ∃ data, .receivedData data ∈ actions

section Order

variable {l l' : List Action}

theorem negotiatedFirst_of_not_passedOn (h : ¬ PassedOn l) : NegotiatedFirst l := by
  refine List.Pairwise.imp_of_mem (fun {a b} ha _ _ data _ heq => ?_)
    (List.pairwise_of_forall (l := l) fun _ _ => trivial)
  exact absurd ⟨data, heq ▸ ha⟩ h

/-- What tells the user nothing may come at any time. -/
theorem NegotiatedFirst.append (h : NegotiatedFirst l) (hquiet : ∀ a ∈ l', a.tellsUser = false) :
    NegotiatedFirst (l ++ l') := by
  refine List.pairwise_append.mpr ⟨h, negotiatedFirst_of_not_passedOn ?_, ?_⟩
  · rintro ⟨data, hdata⟩
    cases hquiet _ hdata
  · rintro a - b hb data options - rfl
    cases hquiet _ hb

theorem NegotiatedFirst.receivedData (h : NegotiatedFirst l) (data : RawData) :
    NegotiatedFirst (l ++ [.receivedData data]) := by
  refine List.pairwise_append.mpr ⟨h, List.pairwise_singleton _ _, ?_⟩
  rintro a - b hb data' options - rfl
  cases List.mem_singleton.mp hb

theorem passedOn_append (hquiet : ∀ a ∈ l', a.tellsUser = false) :
    PassedOn (l ++ l') ↔ PassedOn l := by
  constructor
  · rintro ⟨data, hdata⟩
    rcases List.mem_append.mp hdata with hdata | hdata
    · exact ⟨data, hdata⟩
    · cases hquiet _ hdata
  · rintro ⟨data, hdata⟩
    exact ⟨data, List.mem_append_left _ hdata⟩

end Order

namespace Clients.ReadOperationImpl

open Tftp.OperationImpl

variable {δ : Type} {past : List Action} {s t : ReadOperationImpl δ}

/-- **What holds in the course of a transfer**, after the given actions and those of the current
event: no options have been negotiated too late, and once data has been passed on, the block
counter has moved. -/
structure Orderly (past : List Action) (s : ReadOperationImpl δ) : Prop where
  negotiated : NegotiatedFirst (past ++ s.actions)
  counted : PassedOn (past ++ s.actions) → s.lastReceivedBlockNumber ≠ 0

/-- What tells the user nothing keeps the order. -/
theorem Orderly.framed (h : s.Orderly past) (hframed : s.toOperationImpl.Framed t.toOperationImpl)
    (hblock : t.lastReceivedBlockNumber = s.lastReceivedBlockNumber) : t.Orderly past := by
  obtain ⟨acts, hacts, hquiet⟩ := hframed.actions
  constructor
  · rw [hacts, ← List.append_assoc]
    exact h.negotiated.append hquiet
  · rw [hacts, ← List.append_assoc, passedOn_append hquiet, hblock]
    exact h.counted

/-- As long as no data has been passed on, options may be negotiated. -/
theorem orderly_of_not_passedOn (h : ¬ PassedOn (past ++ s.actions)) : s.Orderly past :=
  ⟨negotiatedFirst_of_not_passedOn h, fun hpassed => absurd hpassed h⟩

/-- At block zero no data has been passed on. -/
theorem Orderly.not_passedOn (h : s.Orderly past) (hblock : s.lastReceivedBlockNumber = 0) :
    ¬ PassedOn (past ++ s.actions) := fun hpassed => h.counted hpassed hblock

theorem not_passedOn_framed {b b' : OperationImpl δ} (h : ¬ PassedOn (past ++ b.actions))
    (hframed : b.Framed b') : ¬ PassedOn (past ++ b'.actions) := by
  obtain ⟨acts, hacts, hquiet⟩ := hframed.actions
  rwa [hacts, ← List.append_assoc, passedOn_append hquiet]

theorem not_passedOn_optionNegotiation {b : OperationImpl δ} (h : ¬ PassedOn (past ++ b.actions))
    (handler : Option (OptionNegotiationHandler δ)) (options : Options) :
    ¬ PassedOn (past ++ (b.optionNegotiation handler options).2.actions) := by
  cases handler with
  | none => exact h
  | some g =>
    rintro ⟨data, hdata⟩
    refine h ⟨data, ?_⟩
    simpa [OperationImpl.optionNegotiation, emit] using hdata

/-- **Block one may come again**: the counter is about to roll over, the server has not
acknowledged any options, and there is a handler to be called. -/
def RollsOver (s : ReadOperationImpl δ) : Prop :=
  s.optionNegotiationHandlerV.isSome ∧ s.oackReceived = false ∧ s.lastReceivedBlockNumber = 0xFFFF

/-- Only two block numbers are followed by one. -/
theorem next_eq_one {n : BlockNumber} (h : n.next = 1) : n = 0 ∨ n = 0xFFFF := by
  have hnext : n.next.toNat = 1 := by rw [h]; rfl
  rw [BlockNumber.toNat_next] at hnext
  split_ifs at hnext with hmax
  · exact Or.inr (UInt16.toNat_inj.mp hmax)
  · refine Or.inl (UInt16.toNat_inj.mp ?_)
    show n.toNat = 0
    omega

theorem Orderly.negotiateNone (h : s.Orderly past)
    (hadmitted : ¬ (s.RollsOver ∧ s.lastReceivedBlockNumber.next = 1)) :
    (s.negotiateNone s.lastReceivedBlockNumber.next).2.Orderly past := by
  rw [ReadOperationImpl.negotiateNone]
  split_ifs with hfirst
  · obtain ⟨hone, hoack⟩ := hfirst
    cases hhandler : s.optionNegotiationHandlerV with
    | none => exact ⟨h.negotiated, h.counted⟩
    | some g =>
      -- block one is the first one
      have hzero : s.lastReceivedBlockNumber = 0 := by
        refine (next_eq_one hone).resolve_right fun hmax => hadmitted ⟨⟨?_, ?_, hmax⟩, hone⟩
        · rw [hhandler]
          rfl
        · simpa using hoack
      exact orderly_of_not_passedOn
        (not_passedOn_optionNegotiation (h.not_passedOn hzero) (some g) SortedMap.empty)
  · exact h

variable [ReceiveDataHandler δ]

theorem Orderly.dataPacket (h : s.Orderly past) (f : Faults) {n : BlockNumber} {data : RawData}
    (hadmitted : s.RollsOver → data.length ≤ s.receiveDataSize.toNat → n ≠ 1) :
    (s.dataPacket f n data).Orderly past := by
  rw [ReadOperationImpl.dataPacket]
  dsimp only
  by_cases hrepeated : n = s.lastReceivedBlockNumber
  · rw [if_pos hrepeated]
    exact h.framed (framed_send_afterData _ _ _ _) rfl
  · rw [if_neg hrepeated]
    by_cases hwrong : n ≠ s.lastReceivedBlockNumber.next
    · rw [if_pos hwrong]
      exact h.framed (framed_reject _ _ _ _) rfl
    · rw [if_neg hwrong]
      obtain rfl := not_not.mp hwrong
      split_ifs with hsize hrefused
      · exact h.framed (framed_reject _ _ _ _) rfl
      all_goals
        have hnone := h.negotiateNone fun hroll => hadmitted hroll.1 (not_lt.mp hsize) hroll.2
        generalize (s.negotiateNone s.lastReceivedBlockNumber.next).2 = t at hnone
      · exact hnone.framed (framed_reject _ _ _ _) rfl
      · -- the data is passed on, and the counter moves
        have hpassed : Orderly past { t.update (·.receivedData data) with
            lastReceivedBlockNumber := t.lastReceivedBlockNumber.next } := by
          constructor
          · have hdata := hnone.negotiated.receivedData data
            rwa [List.append_assoc] at hdata
          · exact fun _ => BlockNumber.next_ne_zero _
        exact hpassed.framed (framed_send_afterData _ _ _ _) rfl

theorem not_passedOn_negotiated (h : ¬ PassedOn (past ++ s.actions)) (f : Faults)
    (transferSizeValue : Option UInt64) (remoteOptions : Options) :
    ¬ PassedOn (past ++ (s.negotiated f transferSizeValue remoteOptions).actions) := by
  have hoffered := not_passedOn_framed h (framed_offerTransferSize _ transferSizeValue)
  have hnegotiated := not_passedOn_optionNegotiation hoffered s.optionNegotiationHandlerV
    remoteOptions
  rw [ReadOperationImpl.negotiated]
  dsimp only
  split_ifs
  · exact not_passedOn_framed hoffered (framed_reject _ _ _ _)
  · exact not_passedOn_framed hnegotiated (framed_reject _ _ _ _)
  · exact not_passedOn_framed hnegotiated (framed_reject _ _ _ _)
  · exact not_passedOn_framed hnegotiated (framed_send_receive _ _)

theorem Orderly.optionsAcknowledgementPacket (h : s.Orderly past) (f : Faults)
    (remoteOptions : Options) : (s.optionsAcknowledgementPacket f remoteOptions).Orderly past := by
  rw [ReadOperationImpl.optionsAcknowledgementPacket]
  split_ifs with hblock hempty
  · exact h.framed (framed_reject _ _ _ _) rfl
  · exact h.framed (framed_reject _ _ _ _) rfl
  · have hnot := h.not_passedOn (not_not.mp hblock)
    split
    · exact h.framed (framed_reject _ _ _ _) rfl
    · dsimp only
      split
      · exact h.framed (framed_reject _ _ _ _) rfl
      · split
        · refine h.framed (Framed.trans ?_ (framed_reject _ _ _ _)) rfl
          exact framed_of_eq rfl rfl
        · refine orderly_of_not_passedOn (not_passedOn_negotiated ?_ f _ _)
          exact hnot

theorem Orderly.received (h : s.Orderly past) (f : Faults) {r : Received}
    (hadmitted : s.RollsOver → ∀ data, data.length ≤ s.receiveDataSize.toNat →
      r ≠ .packet (.data 1 data)) : (s.received f r).Orderly past := by
  cases r with
  | invalid => exact h.framed (framed_reject _ _ _ _) rfl
  | packet packet =>
    cases packet with
    | data n data =>
      refine h.dataPacket f fun hroll hsize hone => ?_
      exact hadmitted hroll data hsize (by rw [hone])
    | optionsAcknowledgement options => exact h.optionsAcknowledgementPacket f options
    | error errorCode errorMessage =>
      exact h.framed (OperationImpl.framed_errorPacket _ errorCode errorMessage) rfl
    | readRequest | writeRequest | acknowledgement => exact h.framed (framed_reject _ _ _ _) rfl

/-- **Block one comes again**, and would be accepted as the next block. -/
def Wraps (s : ReadOperationImpl δ) (e : Faults × Event) : Prop :=
  s.RollsOver ∧ ∃ source rawPacket data, e.2 = .datagram source rawPacket ∧ s.receives ≠ [] ∧
    s.socketV.accepts source = true ∧ data.length ≤ s.receiveDataSize.toNat ∧
      PacketHandler.packet (rawPacket.take s.receivePacketV) = .packet (.data 1 data)

/-- What an event that starts in the given state keeps until a packet is handled. -/
theorem leadsTo_orderly (past : List Action) (s₀ : ReadOperationImpl δ) :
    Operation.LeadsTo
      (fun s : ReadOperationImpl δ => s.Orderly past ∧ (s.RollsOver → s₀.RollsOver) ∧
        s.receiveDataSize = s₀.receiveDataSize)
      (Orderly past)
      fun r => s₀.RollsOver → ∀ data, data.length ≤ s₀.receiveDataSize.toNat →
        r ≠ .packet (.data 1 data) where
  withBase _ _ h hb := ⟨h.1.framed hb rfl, h.2⟩
  rest _ h := h.1
  received _ f _ h hadmitted := h.1.received f fun hroll data hsize =>
    hadmitted (h.2.1 hroll) data (h.2.2 ▸ hsize)
  gracefulAbort _ _ _ _ h := h.1.framed (OperationImpl.framed_gracefulAbort _ _ _ _) rfl

/-- **One event keeps the order**, unless block one comes again. -/
theorem Orderly.step (h : s.Orderly past) {e : Faults × Event} (hwraps : ¬ s.Wraps e) :
    (Operation.step s e).Orderly (past ++ s.actions) := by
  refine (leadsTo_orderly (past ++ s.actions) s).step ⟨?_, id, rfl⟩ ?_
  · constructor
    · show NegotiatedFirst (past ++ s.actions ++ [])
      rw [List.append_nil]
      exact h.negotiated
    · show PassedOn (past ++ s.actions ++ []) → _
      rw [List.append_nil]
      exact h.counted
  · rintro source rawPacket hevent hreceives haccepts hroll data hsize hpacket
    exact hwraps ⟨hroll, source, rawPacket, data, hevent, hreceives, haccepts, hsize, hpacket⟩

/-- A transfer starts in order. -/
theorem orderly_request (settings : Settings δ) (f : Faults) :
    ((configured settings).request f).Orderly [] := by
  have hconfigured : (configured settings).Orderly [] :=
    orderly_of_not_passedOn (by rintro ⟨data, ⟨⟩⟩)
  have hinitialised := OperationImpl.framed_initialise (configured settings).toOperationImpl f
  rw [request]
  dsimp only
  split
  · exact hconfigured.framed
      (hinitialised.trans (OperationImpl.framed_catchException _ _)) rfl
  · refine hconfigured.framed (hinitialised.trans ((framed_startDataHandler _).trans
      (Framed.trans ?_ (framed_arm _ _ _ _)))) rfl
    exact framed_sendFirst _ _

/-- **No options are negotiated after data has been passed on**, as long as block one does not come
again: in no run, however long, and whatever fails in it. -/
theorem negotiatedFirst_run (δ : Type) [ReceiveDataHandler δ] (settings : Settings δ) (f : Faults)
    (history : List (Transition (ReadOperationImpl δ) (Faults × Event))) (s : ReadOperationImpl δ)
    (hrun : Run Operation.step ((configured settings).request f) history s)
    (hwraps : ∀ t ∈ history, ¬ t.pre.Wraps t.event) :
    NegotiatedFirst (trace (·.actions) ((configured settings).request f) history) := by
  have horderly : ∃ past, past ++ s.actions =
      trace (·.actions) ((configured settings).request f) history ∧ s.Orderly past := by
    induction hrun with
    | start => exact ⟨[], by simp, orderly_request settings f⟩
    | @next history s e hrun ih =>
      obtain ⟨past, hpast, horderly⟩ := ih fun t ht => hwraps t (List.mem_append_left _ ht)
      refine ⟨past ++ s.actions, ?_, horderly.step (hwraps ⟨s, e, Operation.step s e⟩ (by simp))⟩
      rw [trace_concat, hpast]
  obtain ⟨past, hpast, horderly⟩ := horderly
  rw [← hpast]
  exact horderly.negotiated

/-! ### A transfer that is long enough -/

section Long

/-- A full block. -/
def fullBlock : RawData := List.replicate 512 0

/-- A handler that accepts everything. -/
def acceptAll : OptionNegotiationHandler δ := fun handler options => (true, options, handler)

/-- The datagram with the full block of the given number. -/
def fullDatagram (peer : Endpoint) (n : BlockNumber) : PeerEvent :=
  .datagram peer (Packet.data n fullBlock).encode

/-- Waits for a full block after the given one, from a server that has ignored the options. -/
structure Waits (peer : Endpoint) (s : ReadOperationImpl δ) (n : BlockNumber) : Prop where
  settled : s.Settled
  admits : s.phase.admits peer
  block_eq : s.lastReceivedBlockNumber = n
  dataSize_eq : s.receiveDataSize = defaultDataSize
  buffer_eq : s.receivePacketV = 516
  ignored : s.oackReceived = false
  handler_eq : s.optionNegotiationHandlerV = some acceptAll

variable {peer : Endpoint} {n : BlockNumber}

omit [ReceiveDataHandler δ] in
theorem negotiateNone_acceptAll (hhandler : s.optionNegotiationHandlerV = some acceptAll)
    (hignored : s.oackReceived = false) (n : BlockNumber) :
    s.negotiateNone n = (true, s.update (·.called s.dataHandlerV
      (if n = 1 then [.optionNegotiation SortedMap.empty] else []))) := by
  rw [ReadOperationImpl.negotiateNone]
  by_cases hone : n = 1
  · have hcalled : s.optionNegotiation s.optionNegotiationHandlerV SortedMap.empty =
        ((true, SortedMap.empty),
          s.called s.dataHandlerV [.optionNegotiation SortedMap.empty]) := by
      rw [hhandler]
      rfl
    rw [if_pos ⟨hone, by rw [hignored]; rfl⟩, if_pos hone, hcalled]
    rfl
  · rw [if_neg fun h => hone h.1, if_neg hone, update, called_nil]

theorem length_fullBlock : fullBlock.length = defaultDataSize.toNat := List.length_replicate

theorem packet_fullBlock (n : BlockNumber) :
    PacketHandler.packet ((Packet.data n fullBlock).encode.take 516) =
      .packet (.data n fullBlock) := by
  have hlength : (Packet.data n fullBlock).encode.length = 516 := by
    simp [Packet.encode, RawData.setInt, length_fullBlock]
    rfl
  rw [List.take_of_length_le hlength.le]
  exact PacketHandler.packet_encode trivial

/-- **A full block is passed on**, and if its number is one, the options are negotiated before. -/
theorem Waits.next (h : s.Waits peer n) :
    (Operation.peerStep s (fullDatagram peer n.next)).Waits peer n.next ∧
      .receivedData fullBlock ∈ (Operation.peerStep s (fullDatagram peer n.next)).actions ∧
      (n.next = 1 → .optionNegotiation SortedMap.empty ∈
        (Operation.peerStep s (fullDatagram peer n.next)).actions) := by
  obtain ⟨lastEndpoint, hready, heq⟩ := Operation.peerStep_admitted (s := s) h.settled h.admits
    (Packet.data n.next fullBlock).encode
  rw [show (Operation.base s).receivePacketV = 516 from h.buffer_eq, packet_fullBlock] at heq
  rw [fullDatagram, heq]
  let t : ReadOperationImpl δ := s.update (·.takenUp peer lastEndpoint)
  have ht : t.Ready peer := hready
  have hneg := negotiateNone_acceptAll (s := t) h.handler_eq h.ignored n.next
  have hblock : t.lastReceivedBlockNumber = n := h.block_eq
  have hsize : t.receiveDataSize = defaultDataSize := h.dataSize_eq
  show (t.dataPacket {} n.next fullBlock).Waits peer n.next ∧
    .receivedData fullBlock ∈ (t.dataPacket {} n.next fullBlock).actions ∧
      (n.next = 1 → .optionNegotiation SortedMap.empty ∈ (t.dataPacket {} n.next fullBlock).actions)
  have hfull : ¬ t.receiveDataSize.toNat < fullBlock.length := by
    rw [hsize, length_fullBlock]
    exact lt_irrefl _
  have hshort : decide (fullBlock.length < t.receiveDataSize.toNat) = false := by
    rw [hsize, length_fullBlock]
    exact decide_eq_false (lt_irrefl _)
  -- the block is the next one, and is acknowledged
  have heq' : t.dataPacket {} n.next fullBlock =
      { t with
        toOperationImpl := (((t.called t.dataHandlerV
          (if n.next = 1 then [.optionNegotiation SortedMap.empty] else [])).receivedData
            fullBlock).send {} (.acknowledgement n.next)).afterData {} false t.dallyV
        lastReceivedBlockNumber := n.next } := by
    rw [ReadOperationImpl.dataPacket, hblock, if_neg n.next_ne, if_neg (not_not.mpr rfl),
      if_neg hfull, hshort, hneg]
    simp only [update, hblock]
    rfl
  obtain ⟨hset, hphase, hact, -, hsame⟩ := ((ht.called t.dataHandlerV
    (if n.next = 1 then [.optionNegotiation SortedMap.empty] else [])).called
      (ReceiveDataHandler.receivedData t.dataHandlerV fullBlock)
        [.receivedData fullBlock]).acknowledge n.next false t.dallyV
  rw [heq']
  refine ⟨⟨hset, ?_, rfl, hsize, hsame.buffer.trans h.buffer_eq, h.ignored, h.handler_eq⟩, ?_,
    fun hone => ?_⟩
  · refine (congrArg (Phase.admits · peer) hphase).mpr ?_
    rfl
  · refine (congrArg (Action.receivedData fullBlock ∈ ·) hact).mpr ?_
    simp
  · refine (congrArg (Action.optionNegotiation SortedMap.empty ∈ ·) hact).mpr ?_
    simp [hone]

/-- A client that accepts whatever is negotiated. -/
def longRead : Settings MemoryFile :=
  { optionNegotiationHandler := some acceptAll, dataHandler := .empty }

/-- One block is received in order. -/
theorem negotiatedFirst_run_one_block :
    NegotiatedFirst (trace (·.actions) ((configured longRead).request {})
      [⟨(configured longRead).request {}, (fullDatagram {} 1).toEvent,
        Operation.step ((configured longRead).request {}) (fullDatagram {} 1).toEvent⟩]) := by
  refine negotiatedFirst_run _ longRead {} _ _ (Run.start.next _) ?_
  rintro t ht ⟨⟨-, -, hlast⟩, -⟩
  obtain rfl := List.mem_singleton.mp ht
  cases hlast

theorem waits_request (peer : Endpoint) (haddress : peer.address = longRead.remote.address) :
    ((configured longRead).request {}).Waits peer (BlockNumber.bn 0) := by
  rw [request_eq (idle_configured longRead)]
  exact ⟨(OperationImpl.settled_requested rfl _).1, haddress, rfl, rfl, rfl, rfl, rfl⟩

/-- Any number of full blocks is received. -/
theorem run_full (peer : Endpoint) (haddress : peer.address = longRead.remote.address) (k : ℕ) :
    ∃ history s, Run Operation.step ((configured longRead).request {}) history s ∧
      s.Waits peer (BlockNumber.bn k) ∧
      (0 < k → PassedOn (trace (·.actions) ((configured longRead).request {}) history)) := by
  induction k with
  | zero => exact ⟨[], _, Run.start, waits_request peer haddress, by omega⟩
  | succ k ih =>
    obtain ⟨history, s, hrun, hwaits, -⟩ := ih
    obtain ⟨hwaits', hdata, -⟩ := hwaits.next
    rw [BlockNumber.next_bn] at hwaits' hdata
    refine ⟨_, _, hrun.next (fullDatagram peer (BlockNumber.bn (k + 1))).toEvent, hwaits',
      fun _ => ⟨fullBlock, ?_⟩⟩
    rw [trace_concat]
    exact List.mem_append_right _ hdata

/-- **In the middle of a long transfer** the options are negotiated once more: before block 65536
is passed on, whose number is one. -/
theorem negotiated_in_the_middle :
    ∃ history s, Run Operation.step ((configured longRead).request {}) history s ∧
      ¬ NegotiatedFirst (trace (·.actions) ((configured longRead).request {}) history) := by
  obtain ⟨history, s, hrun, hwaits, hpassed⟩ := run_full {} rfl 65535
  obtain ⟨data, hdata⟩ := hpassed (by omega)
  obtain ⟨-, -, hnegotiated⟩ := hwaits.next
  refine ⟨_, _, hrun.next (fullDatagram {} (BlockNumber.bn 65535).next).toEvent, fun h => ?_⟩
  rw [trace_concat] at h
  obtain ⟨-, -, hcross⟩ := List.pairwise_append.mp h
  exact hcross _ hdata _ (hnegotiated (by decide)) data SortedMap.empty rfl rfl

end Long

end Clients.ReadOperationImpl

end Tftp
