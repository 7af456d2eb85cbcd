import Tftp.WriteTransfer

/-!
# The outcomes of both sides

Over a FIFO network the two sides of a transfer do not contradict each other: a sender that reports
success has a receiver that has got the whole file, and reports success, too, or is going to after
it has dallied (`Tftp.read_outcomes_agree`, `Tftp.write_outcomes_agree`). The other way round this
cannot be: the last acknowledgement may get lost, and then the sender gives up waiting for it.

This needs to be said more exactly than in `Tftp.Flawless` what the two sides do as long as nothing
goes wrong (`Tftp.LinkedInOrder.item_exact`, `Tftp.LinkedInOrder.ack_exact`), and that a receiver
that gives up waiting has not got all blocks (`Tftp.Conclusive`). So once the last block has been
accepted, nothing but the end of dallying can happen to the receiver, and that is success; and the
sender reports success only on the acknowledgement of the last block.

The timers are those of `Tftp.Operation.peerStep`, where a wait that has been replaced by a new one
never expires. What a wait can do that has expired already when it is replaced, and has not been
handled yet, is a matter of `Tftp.Timers`, and it is left out here: such a wait may end an operation
that has gone on in the meantime, and make it report an error.
-/

namespace Tftp

open Protocol Clients Servers Operation Transfer

/-! ### What is done if nothing goes wrong -/

section Exact

variable {peer : Endpoint} {acts : List Action} {p' : Phase}

/-- Who refuses a packet sends an ERROR packet. -/
theorem Failure.not_flawless {stored packet : RawData} {counter counter' : UInt32}
    {negotiating : Prop} {r : Received} {calls errors report : List Action}
    {status : TransferStatus}
    (h : Failure peer stored counter negotiating r errors status packet counter')
    (hr : ∀ code message, r ≠ .packet (.error code message)) :
    ¬ Flawless (calls ++ errors ++ report) := by
  cases h with
  | reported code message => exact absurd rfl (hr code message)
  | rejected _ code message =>
    intro hflawless
    refine hflawless.packet (.send (Packet.error code message).encode peer) (by simp) _ rfl ?_
    rw [Packet.packetType_encode]
    rfl

/-- **What a receiver does with a packet that it does not refuse**: it answers it, it passes a new
block on, it ends with success, and it goes on waiting only after a full block. -/
theorem ReceiverStep.exact {v v' : ReceiverView} {r : Received}
    (h : ReceiverStep v peer r acts p' v') (hr : ∀ code message, r ≠ .packet (.error code message))
    (hflawless : Flawless acts) :
    sentTo peer acts ≠ [] ∧ (p' = .done → .finished .successful ∈ acts) ∧
      (∀ status, .finished status ∈ acts → status = .successful) ∧
      ∀ b data, r = .packet (.data b data) → (b ≠ v.block → deliveries acts ≠ []) ∧
        ∀ peer', p' = .waiting peer' → v.dataSize.toNat ≤ data.length := by
  have hclosing : ∀ data, v.phaseAfter peer data = .done →
      .finished .successful ∈ v.closing data := by
    intro data hdone
    rcases closing_cases v peer data with ⟨-, hne⟩ | ⟨heq, -⟩
    · exact absurd hdone hne
    · rw [heq]
      exact List.mem_cons_self
  have hwaiting : ∀ data peer', v.phaseAfter peer data = .waiting peer' →
      v.dataSize.toNat ≤ data.length := by
    intro data peer' hphase
    by_contra hshort
    have htrue : v.short data = true := decide_eq_true (Nat.lt_of_not_le hshort)
    rw [ReceiverView.phaseAfter, Phase.afterData, htrue, if_pos rfl] at hphase
    split_ifs at hphase
  have hreports : ∀ data status, .finished status ∈ v.closing data → status = .successful := by
    intro data status hmem
    rcases closing_cases v peer data with ⟨heq, -⟩ | ⟨heq, -⟩
    · rw [heq] at hmem
      cases hmem
    · rw [heq] at hmem
      exact finished_completion hmem
  cases h with
  | repeated data =>
    refine ⟨?_, fun hdone => List.mem_cons_of_mem _ (hclosing data hdone),
      fun status hmem => ?_, ?_⟩
    · rw [sentTo_send]
      exact List.cons_ne_nil _ _
    · exact hreports data status (List.mem_of_ne_of_mem (by rintro ⟨⟩) hmem)
    · rintro b data' ⟨⟩
      exact ⟨fun hne => absurd rfl hne, hwaiting data⟩
  | accepted calls data hcalls hsize =>
    have hcalls' := isCall_concat (isCall_negotiation (negotiation_of_next hcalls))
      (a := .receivedData data) trivial
    have heq : calls ++ .receivedData data ::
        .send (Packet.acknowledgement v.block.next).encode peer :: v.closing data =
          (calls ++ [.receivedData data]) ++
            .send (Packet.acknowledgement v.block.next).encode peer :: v.closing data := by simp
    refine ⟨?_, fun hdone => ?_, fun status hmem => ?_, ?_⟩
    · rw [heq, sentTo_calls_append hcalls', sentTo_send]
      exact List.cons_ne_nil _ _
    · simp [hclosing data hdone]
    · rw [heq, finished_mem_calls_append hcalls'] at hmem
      exact hreports data status (List.mem_of_ne_of_mem (by rintro ⟨⟩) hmem)
    · rintro b data' ⟨⟩
      exact ⟨fun _ => by simp, hwaiting data⟩
  | negotiated calls options timeout hcalls hblock =>
    refine ⟨?_, by rintro ⟨⟩, fun status hmem => ?_, by rintro _ _ ⟨⟩⟩
    · rw [sentTo_calls_append (isCall_negotiation hcalls), sentTo_send]
      exact List.cons_ne_nil _ _
    · rw [finished_mem_calls_append (isCall_negotiation hcalls)] at hmem
      simp at hmem
  | failed _ calls errors status size timeout packet counter hcalls hfailure =>
    exact absurd hflawless (hfailure.not_flawless hr)

/-- **What a sender does with a packet that it does not refuse**: unless it is an old
acknowledgement, it sends the next item, or it ends with success. -/
theorem SenderStep.exact {δ : Type} [TransmitDataHandler δ] {w w' : SenderView δ} {r : Received}
    (h : SenderStep w peer r acts p' w') (hr : ∀ code message, r ≠ .packet (.error code message))
    (hflawless : Flawless acts) :
    (r ≠ .packet (.acknowledgement w.received) → sentTo peer acts = [] → p' = .done) ∧
      (p' = .done → .finished .successful ∈ acts) := by
  cases h with
  | repeated => exact ⟨fun hne => absurd rfl hne, fun hdone => by cases hdone⟩
  | next calls state hcalls hne hlast =>
    refine ⟨fun _ hnil => ?_, fun hdone => by cases hdone⟩
    rw [sentTo_calls_append hcalls.isCall] at hnil
    simp [SenderView.sending, sentTo, Action.sentTo] at hnil
  | completed calls state hcalls hne hlast =>
    exact ⟨fun _ _ => rfl, fun _ => List.mem_append_right _ List.mem_cons_self⟩
  | negotiated calls state options remaining size timeout htakes hreceived hcalls hsize =>
    refine ⟨fun _ hnil => ?_, fun hdone => by cases hdone⟩
    rw [sentTo_calls_append hcalls.isCall] at hnil
    simp [SenderView.sending, sentTo, Action.sentTo] at hnil
  | failed _ calls errors status w' hcalls hfailure =>
    exact absurd hflawless (hfailure.not_flawless hr)

theorem Flawless.right {l l' : List Action} (h : Flawless (l ++ l')) : Flawless l' where
  status status hmem := h.status status (List.mem_append_right _ hmem)
  packet a ha := h.packet a (List.mem_append_right _ ha)

end Exact

section Outcomes

variable {σ τ δ : Type} [DataHandler δ] [ReceivingOperation σ δ] [SendingOperation τ MemoryFile]
  {x : Session} {receiverV senderV : Endpoint} {v₀ : ReceiverView} {w₀ : SenderView MemoryFile}
  {t : Transfer σ τ} {n k d a : ℕ}

/-- Before a block arrives, its size is agreed upon. -/
theorem Linked.dataSize_eq (h : Linked x receiverV senderV v₀ w₀ t n k)
    (hrunning : (base t.receiver).phase ≠ .done) (hd : d ≠ 0) (hle : d ≤ k) :
    (ReceivingOperation.view t.receiver).dataSize = x.dataSize := by
  rcases (h.receives hrunning).dataSize_eq with heq | ⟨hphase, heq⟩
  · exact heq
  · rcases (h.quiet hphase).2 with rfl | hdefault
    · omega
    · exact heq.trans hdefault.symm

/-- **An item that is delivered to a receiver is answered**, and the receiver has accepted as many
blocks as its number says. -/
theorem LinkedInOrder.item_exact (hag : Agreeing σ τ x receiverV senderV v₀ w₀)
    (h : LinkedInOrder x receiverV senderV v₀ w₀ t n k)
    (hrunning : (base t.receiver).phase ≠ .done)
    (hhead : t.toReceiver[0]? = some (x.item d).encode) (hd : d = n ∨ d = n + 1) (hle : d ≤ k)
    (hoffer : d = 0 → x.offer.isSome) (toReceiver : List RawData) :
    let receiver := peerStep t.receiver (.datagram senderV (x.item d).encode)
    Linked x receiverV senderV v₀ w₀ ({ t with toReceiver := toReceiver }.receiverReacts senderV
        (.datagram senderV (x.item d).encode)) d k ∧
      Flawless (actions receiver) ∧ sentTo senderV (actions receiver) = [(x.ack d).encode] ∧
      ((base receiver).phase = .done → .finished .successful ∈ actions receiver) ∧
      (∀ status, .finished status ∈ actions receiver → status = .successful) ∧
      ∀ peer, (base receiver).phase = .waiting peer → d < x.lastBlock := by
  intro receiver
  have hreceives := h.linked.receives hrunning
  -- nothing goes wrong
  have hflawless : Flawless (actions receiver) := by
    obtain ⟨n'', h''⟩ := h.toReceiver hag true
    rw [step_toReceiver true hhead] at h''
    exact h''.receiver_flawless.right
  obtain ⟨-, hreaction⟩ := ReceivingOperation.receiverReaction h.linked.receiver_settled
    (.datagram senderV (x.item d).encode)
  have hstep := hreaction.step hreceives.admits
  rw [x.packet_item hag.valid hoffer
    (by rw [hreceives.kept.buffer]; exact hag.receiver_buffer)] at hstep
  have hne : ∀ code message, Received.packet (x.item d) ≠ .packet (.error code message) := by
    intro code message heq
    have htype := x.item_type_ne d
    rw [Received.packet.inj heq] at htype
    exact htype rfl
  obtain ⟨hanswers, hsuccess, hreports, hdata⟩ := hstep.exact hne hflawless
  have hinj : ∀ m, m = n ∨ m = n + 1 → BlockNumber.bn d = BlockNumber.bn m → d = m :=
    fun m hm => eq_of_neighbours (by omega)
  obtain ⟨n', hlinked, hwhat⟩ := (h.linked.withToReceiver toReceiver).item hag.valid
    hag.receiver_buffer hle hoffer hinj
  rcases hwhat with ⟨-, ⟨-, hnil⟩ | ⟨hn, hsent⟩⟩ | ⟨-, -, hfails, -⟩
  · exact absurd hnil hanswers
  · obtain rfl : n' = d := by
      rcases hd with rfl | rfl
      · omega
      · refine hn.elim (fun hsame => ?_) And.left
        -- the next block is passed on
        exfalso
        have hdeliveries := hlinked.deliveries_eq
        rw [Transfer.receiverReacts, deliveries_append, h.linked.deliveries_eq, hsame]
          at hdeliveries
        refine (hdata (BlockNumber.bn (n + 1)) _ rfl).1 ?_ (by simpa using hdeliveries)
        rw [hreceives.block_eq]
        exact (BlockNumber.bn_ne_succ n).symm
    refine ⟨hlinked, hflawless, hsent, hsuccess, hreports, fun peer hphase => ?_⟩
    rcases n' with _ | m
    · exact Nat.lt_of_not_le x.not_lastBlock_le_zero
    · have hfull := (hdata (BlockNumber.bn (m + 1)) _ rfl).2 peer hphase
      rw [h.linked.dataSize_eq hrunning m.succ_ne_zero hle] at hfull
      by_contra hlast
      exact absurd ((x.short_iff hag.valid m).mpr (Nat.le_of_not_lt hlast)) (by omega)
  · exact absurd (hsuccess hfails.isOver) hfails.status

/-- The answer to the outstanding item is not taken for an old one. -/
theorem Sends.ack_ne_received {peer : Endpoint} {p : Phase} {w : SenderView MemoryFile}
    (h : Sends x peer w₀ k p w) :
    Received.packet (x.ack k) ≠ .packet (.acknowledgement w.received) := by
  intro heq
  obtain ⟨hn, -⟩ := x.ack_eq (Received.packet.inj heq)
  rcases h.received_eq with ⟨hsentinel, hk⟩ | ⟨m, rfl, hreceived⟩
  · rw [hsentinel] at hn
    exact bn_ne_sentinel (by omega) hn.symm
  · rw [hreceived] at hn
    exact BlockNumber.bn_ne_succ m hn

/-- **An answer that is delivered to a sender**: an old one is ignored, and the answer to the
outstanding item makes it send the next one, or end with success. -/
theorem LinkedInOrder.ack_exact (hag : Agreeing σ τ x receiverV senderV v₀ w₀)
    (h : LinkedInOrder x receiverV senderV v₀ w₀ t n k) (hrunning : (base t.sender).phase ≠ .done)
    (hhead : t.toSender[0]? = some (x.ack a).encode) (ha : a + 1 = k ∨ a = k) (hle : a ≤ n)
    (htime : x.answer.isSome → ∀ keep, OptionsInTime t (.toSender 0 keep))
    {toSender : List RawData} (hsub : toSender.Sublist t.toSender) :
    let sender := peerStep t.sender (.datagram receiverV (x.ack a).encode)
    ∃ k', Linked x receiverV senderV v₀ w₀ ({ t with toSender := toSender }.senderReacts receiverV
        (.datagram receiverV (x.ack a).encode)) n k' ∧
      Flawless (actions sender) ∧
      ((base sender).phase = .done → .finished .successful ∈ actions sender) ∧
      (k' = k ∧ sentTo receiverV (actions sender) = [] ∧ (a = k → (base sender).phase = .done) ∨
        k' = k + 1 ∧ a = k ∧ sentTo receiverV (actions sender) = [(x.item (k + 1)).encode]) := by
  intro sender
  have hsends := h.linked.sends hrunning
  -- nothing goes wrong
  have hflawless : Flawless (actions sender) := by
    obtain ⟨k'', h''⟩ := h.toSender hag true fun hanswer => htime hanswer true
    rw [step_toSender true hhead] at h''
    exact h''.sender_flawless.right
  obtain ⟨-, hreaction⟩ := SendingOperation.senderReaction h.linked.sender_settled
    (.datagram receiverV (x.ack a).encode)
  have hstep := hreaction.step hsends.admits
  rw [x.packet_ack hag.valid a (by rw [hsends.kept.buffer]; exact hag.sender_buffer)] at hstep
  have hne : ∀ code message, Received.packet (x.ack a) ≠ .packet (.error code message) := by
    intro code message heq
    have htype := x.ack_type_ne a
    rw [Received.packet.inj heq] at htype
    exact htype rfl
  obtain ⟨hnext, hsuccess⟩ := hstep.exact hne hflawless
  have hquiet : (base t.receiver).phase ≠ .requesting senderV.address := by
    intro hphase
    rw [(h.linked.quiet hphase).1] at hhead
    cases hhead
  have hlate : (base t.sender).phase ≠ .done → a = 0 → x.answer.isSome → k = 0 := by
    rintro - rfl hanswer
    obtain ⟨options, ho⟩ := Option.isSome_iff_exists.mp hanswer
    have htype : Packet.packetType (x.ack 0).encode = .optionsAcknowledgement := by
      rw [Packet.packetType_encode, Session.ack, ho]
      rfl
    have hnone := htime hanswer true _ hhead htype hrunning
    rw [hsends.transmitted_eq] at hnone
    exact BlockNumber.bn_eq_zero.mp hnone
  obtain ⟨k', hlinked, hwhat⟩ := (h.linked.withToSender hsub).ack hag.valid hag.sender_buffer
    hag.keepsFile hle (fun m hm => eq_of_neighbours (by omega)) hlate hquiet
  refine ⟨k', hlinked, hflawless, hsuccess, ?_⟩
  rcases hwhat with ⟨-, ⟨hk, hnil⟩ | ⟨⟨hk, hak⟩, hsent⟩⟩ | ⟨-, -, hfails, -⟩
  · refine Or.inl ⟨hk, hnil, fun hak => hnext ?_ hnil⟩
    rw [hak]
    exact hsends.ack_ne_received
  · exact Or.inr ⟨hk, hak, hsent⟩
  · exact absurd (hsuccess hfails.isOver) hfails.status

/-! ### What the receiver reports -/

/-- **What a receiver has reported tells whether it has got all blocks**, and as long as it waits it
has not. -/
structure Conclusive (x : Session) (t : Transfer σ τ) : Prop where
  waiting : ∀ peer, (base t.receiver).phase = .waiting peer →
    (deliveries t.receiverActions).length < x.lastBlock
  done : (base t.receiver).phase = .done → x.lastBlock ≤ (deliveries t.receiverActions).length →
    .finished .successful ∈ t.receiverActions
  failed : ∀ status, .finished status ∈ t.receiverActions → status ≠ .successful →
    (base t.receiver).phase = .done ∧ (deliveries t.receiverActions).length < x.lastBlock

theorem Linked.length_deliveries (h : Linked x receiverV senderV v₀ w₀ t n k) :
    (deliveries t.receiverActions).length = n := by
  rw [h.deliveries_eq, Session.prefixOf, List.length_map, List.length_range]

/-- At the start nothing has been reported. -/
theorem Conclusive.started (h : Linked x receiverV senderV v₀ w₀ t 0 k)
    (hnot : ∀ status, .finished status ∉ t.receiverActions) : Conclusive x t := by
  have hpos : (deliveries t.receiverActions).length < x.lastBlock := by
    rw [h.length_deliveries]
    exact Nat.lt_of_not_le x.not_lastBlock_le_zero
  exact ⟨fun _ _ => hpos, fun _ hlast => absurd hpos (Nat.not_lt.mpr hlast),
    fun status hmem => absurd hmem (hnot status)⟩

/-- The timer of a receiver delivers nothing, and ends it with success only if it dallies. -/
theorem ReceiverReaction.timeout {v v' : ReceiverView} {p p' : Phase} {acts : List Action}
    (h : ReceiverReaction v p .timeout acts p' v') :
    deliveries acts = [] ∧
      (p' = p ∧ (∀ status, .finished status ∉ acts) ∨
        p' = .done ∧ ((∃ peer, p = .dallying peer) ∧ acts = v.completion .successful ∨
          (∀ peer, p ≠ .dallying peer) ∧ p ≠ .done ∧ acts = v.completion .communicationError)) := by
  generalize he : PeerEvent.timeout = e at h
  cases h with
  | idle => exact ⟨rfl, Or.inl ⟨rfl, by simp⟩⟩
  | foreign | received => cases he
  | resend destination hphase hretries =>
    exact ⟨deliveries_cons_none rfl [], Or.inl ⟨rfl, by simp⟩⟩
  | expire hphase hretries =>
    refine ⟨by simp [ReceiverView.completion], Or.inr ⟨rfl, Or.inr ⟨?_, ?_, rfl⟩⟩⟩
    · rintro peer rfl
      simp at hphase
    · rintro rfl
      simp at hphase
  | dallied peer hphase =>
    exact ⟨by simp [ReceiverView.completion], Or.inr ⟨rfl, Or.inl ⟨⟨peer, hphase⟩, rfl⟩⟩⟩

/-- **The timer of a receiver**: it gives up only if a block is missing. -/
theorem Conclusive.receiverTimeout (h : Linked x receiverV senderV v₀ w₀ t n k)
    (hconclusive : Conclusive x t) :
    Conclusive x (t.step receiverV senderV .receiverTimeout) := by
  obtain ⟨-, hreaction⟩ := ReceivingOperation.receiverReaction h.receiver_settled .timeout
  obtain ⟨hnil, hcases⟩ := hreaction.timeout
  have hlength : deliveries (t.step receiverV senderV .receiverTimeout).receiverActions =
      deliveries t.receiverActions := by
    rw [Transfer.step, receiverReacts, deliveries_append, hnil, List.append_nil]
  rcases hcases with ⟨hphase, hnot⟩ | ⟨hphase, hcases⟩
  · -- it waits on, or it is over
    refine ⟨fun peer hwaiting => ?_, fun hdone hlast => ?_, fun status hmem hstatus => ?_⟩
    · rw [hlength]
      exact hconclusive.waiting peer (hphase.symm.trans hwaiting)
    · rw [hlength] at hlast
      exact List.mem_append_left _ (hconclusive.done (hphase.symm.trans hdone) hlast)
    · rw [hlength]
      obtain ⟨hdone, hlt⟩ := hconclusive.failed status
        ((List.mem_append.mp hmem).resolve_right (hnot status)) hstatus
      exact ⟨hphase.trans hdone, hlt⟩
  · rcases hcases with ⟨⟨peer, hdallying⟩, hacts⟩ | ⟨hnot, hrunning, hacts⟩
    · -- it has dallied
      refine ⟨fun peer' hwaiting => ?_, fun _ _ => ?_, fun status hmem hstatus => ?_⟩
      · cases hphase.symm.trans hwaiting
      · refine List.mem_append_right _ ?_
        show _ ∈ actions (peerStep t.receiver .timeout)
        rw [hacts]
        exact List.mem_cons_self
      · rcases List.mem_append.mp hmem with hmem | hmem
        · obtain ⟨hdone, -⟩ := hconclusive.failed status hmem hstatus
          cases hdone.symm.trans hdallying
        · have hmem' : .finished status ∈ actions (peerStep t.receiver .timeout) := hmem
          rw [hacts] at hmem'
          exact absurd (finished_completion hmem') hstatus
    · -- it gives up
      have hlt : n < x.lastBlock := by
        rcases (h.receives hrunning).phase_cases with ⟨-, -, rfl⟩ | hwaiting | ⟨hdallying, -⟩
        · exact Nat.lt_of_not_le x.not_lastBlock_le_zero
        · rw [← h.length_deliveries]
          exact hconclusive.waiting _ hwaiting
        · exact absurd hdallying (hnot _)
      refine ⟨fun peer hwaiting => ?_, fun _ hlast => ?_, fun _ _ _ => ⟨hphase, ?_⟩⟩
      · cases hphase.symm.trans hwaiting
      · rw [hlength, h.length_deliveries] at hlast
        omega
      · rw [hlength, h.length_deliveries]
        exact hlt

/-- **An item that is delivered**: a receiver gets the last block only once, and does not wait after
it. -/
theorem Conclusive.toReceiver (hag : Agreeing σ τ x receiverV senderV v₀ w₀)
    (h : LinkedInOrder x receiverV senderV v₀ w₀ t n k) (hconclusive : Conclusive x t)
    (keep : Bool) : Conclusive x (t.step receiverV senderV (.toReceiver 0 keep)) := by
  obtain ⟨items, acks, hfifo, hitems, -, hzero⟩ := h.channels
  rcases items with _ | ⟨d, items⟩
  · have hnone : t.toReceiver[0]? = none := by rw [hitems]; rfl
    rw [Transfer.step, hnone]
    exact hconclusive
  · have hsome : t.toReceiver[0]? = some (x.item d).encode := by rw [hitems]; rfl
    rw [step_toReceiver keep hsome]
    by_cases hdone : (base t.receiver).phase = .done
    · -- a receiver that is over does nothing
      obtain ⟨-, hreaction⟩ := ReceivingOperation.receiverReaction h.linked.receiver_settled
        (.datagram senderV (x.item d).encode)
      rw [hdone] at hreaction
      obtain ⟨hacts, hphase⟩ := hreaction.over
      have hsame : t.receiverActions ++
          actions (peerStep t.receiver (.datagram senderV (x.item d).encode)) =
            t.receiverActions := by
        rw [show actions (peerStep t.receiver _) = [] from hacts, List.append_nil]
      refine ⟨fun peer hwaiting => ?_, fun _ hlast => ?_, fun status hmem hstatus => ?_⟩
      · cases hphase.symm.trans hwaiting
      · rw [receiverReacts, hsame] at hlast ⊢
        exact hconclusive.done hdone hlast
      · rw [receiverReacts, hsame] at hmem ⊢
        exact ⟨hphase, (hconclusive.failed status hmem hstatus).2⟩
    · obtain ⟨hlinked, -, -, hsuccess, hreports, hlast⟩ := h.item_exact hag hdone hsome
        hfifo.item_cases (hfifo.items_le d List.mem_cons_self)
        (fun hd => hzero (hd ▸ List.mem_cons_self))
        (if keep then t.toReceiver else t.toReceiver.eraseIdx 0)
      refine ⟨fun peer hwaiting => ?_, fun hdone' _ => List.mem_append_right _ (hsuccess hdone'),
        fun status hmem hstatus => ?_⟩
      · rw [hlinked.length_deliveries]
        exact hlast peer hwaiting
      · rcases List.mem_append.mp hmem with hmem | hmem
        · exact absurd (hconclusive.failed status hmem hstatus).1 hdone
        · exact absurd (hreports status hmem) hstatus

omit [SendingOperation τ MemoryFile] in
/-- Only what happens to the receiver matters. -/
theorem Conclusive.of_receiver {t' : Transfer σ τ} (h : Conclusive x t)
    (hreceiver : t'.receiver = t.receiver) (hactions : t'.receiverActions = t.receiverActions) :
    Conclusive x t' := by
  constructor
  · rw [hreceiver, hactions]
    exact h.waiting
  · rw [hreceiver, hactions]
    exact h.done
  · rw [hreceiver, hactions]
    exact h.failed

/-- **Every event keeps it.** -/
theorem Conclusive.step (hag : Agreeing σ τ x receiverV senderV v₀ w₀)
    (h : LinkedInOrder x receiverV senderV v₀ w₀ t n k) (hconclusive : Conclusive x t)
    {e : NetworkEvent} (horder : e.InOrder) : Conclusive x (t.step receiverV senderV e) := by
  cases e with
  | toReceiver index keep =>
    obtain rfl : index = 0 := horder
    exact hconclusive.toReceiver hag h keep
  | receiverTimeout => exact hconclusive.receiverTimeout h.linked
  | toSender index keep =>
    rcases hraw : t.toSender[index]? with _ | rawPacket
    · rw [Transfer.step, hraw]
      exact hconclusive
    · rw [step_toSender keep hraw]
      exact hconclusive.of_receiver rfl rfl
  | loseToReceiver | loseToSender | senderTimeout => exact hconclusive.of_receiver rfl rfl

/-- **What holds of every run over a FIFO network**, of the receiver, too. -/
theorem conclusive_run (hag : Agreeing σ τ x receiverV senderV v₀ w₀) {init s : Transfer σ τ}
    (hinit : LinkedInOrder x receiverV senderV v₀ w₀ init n k) (hconclusive : Conclusive x init)
    {history : List (Transition (Transfer σ τ) NetworkEvent)}
    (hrun : Run (Transfer.step receiverV senderV) init history s)
    (horder : ∀ u ∈ history, u.event.InOrder)
    (htime : x.answer.isSome → ∀ u ∈ history, OptionsInTime u.pre u.event) :
    (∃ n' k', LinkedInOrder x receiverV senderV v₀ w₀ s n' k') ∧ Conclusive x s := by
  refine ⟨linkedInOrder_run hag hinit hrun horder htime, ?_⟩
  induction hrun with
  | start => exact hconclusive
  | @next history s e hrun ih =>
    have hearlier : ∀ u ∈ history, u ∈ history ++ [⟨s, e, s.step receiverV senderV e⟩] :=
      fun u hu => List.mem_append_left _ hu
    have horder' := fun u hu => horder u (hearlier u hu)
    have htime' := fun hanswer u hu => htime hanswer u (hearlier u hu)
    obtain ⟨n', k', h⟩ := linkedInOrder_run hag hinit hrun horder' htime'
    exact (ih horder' htime').step hag h
      (horder ⟨s, e, s.step receiverV senderV e⟩ (List.mem_append_right _ (by simp)))

/-- A transfer that has got to its end: the file is complete, the sender has reported success, and
the receiver has reported it, too, or is going to after it has dallied. -/
structure Completed (file : RawData) (t : Transfer σ τ) : Prop where
  bytes_eq : t.bytes = file
  sender : .finished .successful ∈ t.senderActions
  receiver : .finished .successful ∈ t.receiverActions ∨
    ∃ peer, (base t.receiver).phase = .dallying peer

/-- **The two sides do not contradict each other**: if the sender has reported success, the receiver
has got all blocks, and does not report anything but success. -/
theorem Conclusive.agreed (hx : x.Valid) (h : Linked x receiverV senderV v₀ w₀ t n k)
    (hconclusive : Conclusive x t) (hsuccess : .finished .successful ∈ t.senderActions) :
    Completed x.file t ∧ ∀ status, .finished status ∈ t.receiverActions → status = .successful := by
  have hlast := h.successful (Or.inr hsuccess)
  rw [← h.length_deliveries] at hlast
  refine ⟨⟨(h.intact hx).complete (Or.inr hsuccess), hsuccess, ?_⟩, fun status hmem => ?_⟩
  · by_cases hdone : (base t.receiver).phase = .done
    · exact Or.inl (hconclusive.done hdone hlast)
    · rcases (h.receives hdone).phase_cases with ⟨-, -, rfl⟩ | hwaiting | ⟨hdallying, -⟩
      · rw [h.length_deliveries] at hlast
        exact absurd hlast x.not_lastBlock_le_zero
      · exact absurd (hconclusive.waiting _ hwaiting) (Nat.not_lt.mpr hlast)
      · exact Or.inr ⟨_, hdallying⟩
  · by_contra hstatus
    exact absurd (hconclusive.failed status hmem hstatus).2 (Nat.not_lt.mpr hlast)

end Outcomes

/-! ### Reading and writing a file -/

section Read

variable {client : Clients.Settings MemoryFile} {server : Servers.Settings MemoryFile}
  {request : ReceivedTftpRequest} {serverV : Endpoint}

/-- The client of a read has not reported anything at the start. -/
theorem unreported_read (haddress : serverV.address = client.remote.address)
    (hport : serverV ≠ client.remote) (status : TransferStatus) :
    .finished status ∉ (Transfer.read client server request serverV).receiverActions := by
  obtain ⟨-, -, -, rawPacket, -, hact⟩ :=
    receives_request (x := readSession server request) haddress hport
  show _ ∉ ((Clients.ReadOperationImpl.configured client).request {}).actions
  rw [hact]
  simp

/-- **The two sides of a read do not contradict each other.** Over a FIFO network, whatever gets
lost or is delivered again: if the server has reported success, the client has got the whole file,
has reported success, too, or dallies, and never reports anything else. -/
theorem read_outcomes_agree (client : Clients.Settings MemoryFile)
    (server : Servers.Settings MemoryFile) (request : ReceivedTftpRequest) (serverV : Endpoint)
    (hclient : client.optionsConfiguration.BlockSizeInRange)
    (htimeout : client.optionsConfiguration.TimeoutInRange)
    (hhandler : client.optionNegotiationHandler = none) (hserver : server.Negotiable)
    (hsource : server.dataHandler.operationV = .transmit)
    (hrequest : request.clientOptions = client.readOptions)
    (haddress : serverV.address = client.remote.address) (hport : serverV ≠ client.remote)
    (history : List (Transition (Transfer (Clients.ReadOperationImpl MemoryFile)
      (Servers.ReadOperationImpl MemoryFile)) NetworkEvent))
    (t : Transfer (Clients.ReadOperationImpl MemoryFile) (Servers.ReadOperationImpl MemoryFile))
    (hrun : Run (Transfer.step request.remote serverV)
      (Transfer.read client server request serverV) history t)
    (horder : ∀ u ∈ history, u.event.InOrder)
    (hsuccess : .finished .successful ∈ t.senderActions) :
    Completed server.dataHandler.dataV t ∧
      ∀ status, .finished status ∈ t.receiverActions → status = .successful := by
  have hrange : request.clientOptions.InRange := by
    rw [hrequest]
    exact inRange_requestedOptions hclient htimeout
  have hzero : request.clientOptions.transferSize = none ∨
      request.clientOptions.transferSize = some 0 := by
    rw [hrequest]
    exact client.transferSize_readOptions
  obtain ⟨k, hstart, hbuffer⟩ := linkedInOrder_read hserver hrange hzero hsource haddress hport
  have hagree := agreeing_read hclient htimeout hhandler hserver hrequest hbuffer
  obtain ⟨⟨n', k', h⟩, hconclusive⟩ := conclusive_run hagree hstart
    (Conclusive.started hstart.linked (unreported_read haddress hport)) hrun horder (by rintro ⟨⟩)
  exact hconclusive.agreed hagree.valid h.linked hsuccess

/-- The last acknowledgement is delivered, and the client, which dallies, is still waiting. -/
def dallyingRead :
    List (Transition (Transfer (Clients.ReadOperationImpl MemoryFile)
      (Servers.ReadOperationImpl MemoryFile)) NetworkEvent) ×
      Transfer (Clients.ReadOperationImpl MemoryFile) (Servers.ReadOperationImpl MemoryFile) :=
  replay (Transfer.step { port := 2 } { port := 1 })
    (Transfer.read smallReader smallSource smallReadRequest { port := 1 })
    [.toReceiver 0 false, .toSender 0 false, .toReceiver 0 true, .toSender 0 false,
      .toReceiver 0 false, .toSender 0 false, .toReceiver 0 true, .toSender 0 false]

/-- The server has reported success, and the client has got both blocks. -/
theorem read_outcomes_agree_two_blocks :
    Completed [97, 98, 99, 100, 101, 102, 103, 104, 105] dallyingRead.2 ∧
      ∀ status, .finished status ∈ dallyingRead.2.receiverActions → status = .successful := by
  refine read_outcomes_agree smallReader smallSource smallReadRequest { port := 1 } ?_ ?_ rfl
    ⟨?_, rfl⟩ rfl rfl rfl (by decide) _ _ (Run.of_replay _ _ _) (Run.forall_replay (by decide))
    (by decide)
  · rintro b ⟨⟩
    decide
  · rintro t ⟨⟩
  · rintro b ⟨⟩
    decide

end Read

section Write

/-- The server of a write waits for the first block, and has not reported anything. -/
theorem waits_write (client : Clients.Settings MemoryFile) (server : Servers.Settings MemoryFile)
    (request : ReceivedTftpRequest) (serverV : Endpoint) :
    (Transfer.write client server request serverV).receiver.phase = .waiting request.remote ∧
      ∀ status,
        .finished status ∉ (Transfer.write client server request serverV).receiverActions := by
  obtain ⟨-, calls, hcalls, -, hcases⟩ := receives_start client server request
  -- a file in memory does not refuse anything
  obtain ⟨-, hwaiting, hact⟩ := hcases.resolve_right (by rintro ⟨⟨_, _, ⟨⟩⟩, -⟩)
  refine ⟨hwaiting, fun status => ?_⟩
  show _ ∉ ((Servers.WriteOperationImpl.configured (server.answering request)).start {}).actions
  rw [hact, finished_mem_calls_append hcalls]
  simp

/-- **The two sides of a write do not contradict each other**, likewise: if the client has reported
success, the server has got the whole file, and does not report anything but success. -/
theorem write_outcomes_agree (client : Clients.Settings MemoryFile)
    (server : Servers.Settings MemoryFile) (request : ReceivedTftpRequest) (serverV : Endpoint)
    (hclient : client.optionsConfiguration.BlockSizeInRange)
    (htimeout : client.optionsConfiguration.TimeoutInRange)
    (hhandler : client.optionNegotiationHandler = none) (hserver : server.Negotiable)
    (hsource : client.dataHandler.operationV = .transmit)
    (hrequest : request.clientOptions = client.writeOptions)
    (haddress : serverV.address = client.remote.address) (hport : serverV ≠ client.remote)
    (history : List (Transition (Transfer (Servers.WriteOperationImpl MemoryFile)
      (Clients.WriteOperationImpl MemoryFile)) NetworkEvent))
    (t : Transfer (Servers.WriteOperationImpl MemoryFile) (Clients.WriteOperationImpl MemoryFile))
    (hrun : Run (Transfer.step serverV request.remote)
      (Transfer.write client server request serverV) history t)
    (horder : ∀ u ∈ history, u.event.InOrder)
    (htime : ∀ u ∈ history, OptionsInTime u.pre u.event)
    (hsuccess : .finished .successful ∈ t.senderActions) :
    Completed client.dataHandler.dataV t ∧
      ∀ status, .finished status ∈ t.receiverActions → status = .successful := by
  have hadd : server.additionalNegotiatedOptions.Unobtrusive := by
    rw [hserver.additional]
    exact Options.unobtrusive_empty
  obtain ⟨hlinked, hbuffer, hitems, hsender, hcases⟩ :=
    linked_write server request hadd hsource haddress hport
  -- a file in memory does not refuse anything
  obtain ⟨hacks, hreceiver⟩ := hcases.resolve_right (by rintro ⟨⟨_, _, ⟨⟩⟩, -⟩)
  have hagree := agreeing_write hclient htimeout hhandler hserver hrequest hbuffer
  obtain ⟨⟨n', k', h⟩, hconclusive⟩ := conclusive_run hagree
    ⟨hlinked, ⟨[], [0], (StopAndWait.Fifo.start hlinked.in_step).reack, hitems, hacks, by simp⟩,
      hreceiver, hsender⟩
    (Conclusive.started hlinked (waits_write client server request serverV).2) hrun horder
    fun _ => htime
  exact hconclusive.agreed hagree.valid h.linked hsuccess

/-- Both blocks of the write with losses are at the server. -/
theorem write_outcomes_agree_two_blocks :
    Completed [97, 98, 99, 100, 101, 102, 103, 104, 105] (smallWrite lossyWrite).2 ∧
      ∀ status, .finished status ∈ (smallWrite lossyWrite).2.receiverActions →
        status = .successful := by
  refine write_outcomes_agree smallWriter smallSink smallWriteRequest { port := 1 } ?_ ?_ rfl
    ⟨?_, rfl⟩ rfl rfl rfl (by decide) (smallWrite lossyWrite).1 _ (Run.of_replay _ _ _)
    (Run.forall_replay (by decide)) ?_ (by decide)
  · rintro b ⟨⟩
    decide
  · rintro t ⟨⟩
  · rintro b ⟨⟩
    decide
  · decide

end Write

end Tftp
