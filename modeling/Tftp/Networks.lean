import Tftp.Linked

/-!
# Whole transfers, on either network

A transfer is run over one of two networks, and what was said of its two operations
(`Tftp.Linked`) is completed by what is under way between them.

## The FIFO network

Packets may get lost and may be delivered again, but not overtake one another. Then the packets
under way to the receiver are, in order, copies of the item that it has accepted last and of the one
that is outstanding, and those under way to the sender are copies of the acknowledgement that it
has used last and of the next one (`Protocol.StopAndWait.Fifo`). Two neighbouring numbers never show
the same block number, however often those have rolled over. So nothing that arrives is ever
unexpected, no ERROR packet is ever sent, and neither side reports anything but success or that its
peer has fallen silent (`Tftp.LinkedInOrder`). There is no bound on the number of blocks here.

One condition remains where the receiver opens the transfer with an acknowledgement of options: the
client takes a copy of it that comes too late for a violation of the protocol
(`Tftp.OptionsInTime`).

## The unordered network

Everything ever sent may come back at any time. An operation may well take an old packet for a
wrong one, and fail; so there may be ERROR packets under way, and nothing is said of the end of a
transfer. But nothing was ever sent that is ahead of the two counters
(`Protocol.StopAndWait.Unordered`): what comes back are old items and old acknowledgements. As long
as there are fewer blocks than block numbers, an old item is never taken for the next one, and that
is enough for the file to be intact (`Tftp.LinkedUnordered`). Beyond that bound it fails, since the
block number of an old item may be the one that is expected.
-/

namespace Tftp

open Protocol Operation Transfer

/-- What both networks ask of the two operations at the start: the buffers are large enough, and
the user leaves the file alone. -/
structure Equipped (x : Session) (v₀ : ReceiverView) (w₀ : SenderView MemoryFile) : Prop where
  valid : x.Valid
  receiver_buffer : 516 ≤ v₀.buffer ∧ x.dataSize.toNat + 4 ≤ v₀.buffer
  sender_buffer : 516 ≤ w₀.buffer
  keepsFile : w₀.KeepsFile

section Networks

variable {σ τ δ : Type} [DataHandler δ] [ReceivingOperation σ δ] [SendingOperation τ MemoryFile]
  {x : Session} {receiverV senderV : Endpoint} {v₀ : ReceiverView} {w₀ : SenderView MemoryFile}
  {t : Transfer σ τ} {n k : ℕ}

theorem step_toReceiver {index : ℕ} {rawPacket : RawData} (keep : Bool)
    (hraw : t.toReceiver[index]? = some rawPacket) :
    t.step receiverV senderV (.toReceiver index keep) =
      receiverReacts senderV
        { t with toReceiver := if keep then t.toReceiver else t.toReceiver.eraseIdx index }
        (.datagram senderV rawPacket) := by
  rw [Transfer.step, hraw]

theorem step_toSender {index : ℕ} {rawPacket : RawData} (keep : Bool)
    (hraw : t.toSender[index]? = some rawPacket) :
    t.step receiverV senderV (.toSender index keep) =
      senderReacts receiverV
        { t with toSender := if keep then t.toSender else t.toSender.eraseIdx index }
        (.datagram receiverV rawPacket) := by
  rw [Transfer.step, hraw]

/-- **The start**: nothing was accepted, and at most the first block was sent. -/
theorem Linked.started {receiver : σ} {sender : τ} (hreceiver : (base receiver).Settled)
    (hsender : (base sender).Settled)
    (hreceives : (base receiver).phase ≠ .done →
      Receives x senderV v₀ 0 (base receiver).phase (ReceivingOperation.view receiver))
    (hsends : (base sender).phase ≠ .done →
      Sends x receiverV w₀ k (base sender).phase (SendingOperation.view sender))
    (hdeliveries : deliveries (actions receiver) = [])
    (hsuccessful : .finished .successful ∉ actions receiver ∧
      .finished .successful ∉ actions sender) (hk : k ≤ 1)
    (hquiet : (base receiver).phase = .requesting senderV.address →
      sentTo senderV (actions receiver) = [] ∧ (k = 0 ∨ x.dataSize = defaultDataSize)) :
    Linked x receiverV senderV v₀ w₀ (.started receiverV senderV receiver sender) 0 k where
  receiver_settled := hreceiver
  sender_settled := hsender
  receives := hreceives
  sends := hsends
  deliveries_eq := hdeliveries
  successful h := by
    rcases h with h | h
    · exact absurd h hsuccessful.1
    · exact absurd h hsuccessful.2
  in_step := ⟨Nat.zero_le k, hk⟩
  le_last := hk.trans (Nat.succ_le_succ (Nat.zero_le _))
  quiet := hquiet

/-! ### The FIFO network -/

/-- An acknowledgement of options that is delivered to the sender comes before any block was
sent. -/
def OptionsInTime (t : Transfer σ τ) : NetworkEvent → Prop
  | .toSender index _ => ∀ rawPacket ∈ t.toSender[index]?,
      Packet.packetType rawPacket = .optionsAcknowledgement → (base t.sender).phase ≠ .done →
        (SendingOperation.view t.sender).transmitted = 0
  | _ => True

instance (t : Transfer σ τ) : DecidablePred (OptionsInTime t)
  | .toSender index _ => inferInstanceAs (Decidable (∀ rawPacket ∈ t.toSender[index]?,
      Packet.packetType rawPacket = .optionsAcknowledgement → (base t.sender).phase ≠ .done →
        (SendingOperation.view t.sender).transmitted = 0))
  | .toReceiver .. | .loseToReceiver _ | .loseToSender _ | .receiverTimeout | .senderTimeout =>
      inferInstanceAs (Decidable True)

/-- What a FIFO network asks of the operations: without option negotiation handlers, each
accepts the options that the other acknowledges. -/
structure Agreeing (σ τ : Type) {δ : Type} [DataHandler δ] [ReceivingOperation σ δ]
    [SendingOperation τ MemoryFile] (x : Session) (receiverV senderV : Endpoint)
    (v₀ : ReceiverView) (w₀ : SenderView MemoryFile) : Prop extends Equipped x v₀ w₀ where
  negotiates : v₀.negotiates = false
  negotiation : w₀.negotiation = none
  offer_accepted : x.offer.isSome → ∀ s : σ, (base s).Settled →
    Receives x senderV v₀ 0 (base s).phase (ReceivingOperation.view s) →
    (base (peerStep s (.datagram senderV (x.item 0).encode))).phase ≠ .done
  answer_accepted : x.answer.isSome → ∀ s : τ, (base s).Settled →
    Sends x receiverV w₀ 0 (base s).phase (SendingOperation.view s) →
    (base (peerStep s (.datagram receiverV (x.ack 0).encode))).phase ≠ .done

/-- **What holds of a transfer over a FIFO network.** -/
structure LinkedInOrder (x : Session) (receiverV senderV : Endpoint) (v₀ : ReceiverView)
    (w₀ : SenderView MemoryFile) (t : Transfer σ τ) (n k : ℕ) : Prop where
  linked : Linked x receiverV senderV v₀ w₀ t n k
  channels : ∃ items acks, (⟨k, n⟩ : StopAndWait).Fifo items acks ∧
    t.toReceiver = items.map (fun d => (x.item d).encode) ∧
    t.toSender = acks.map (fun a => (x.ack a).encode) ∧ (0 ∈ items → x.offer.isSome)
  receiver_flawless : Flawless t.receiverActions
  sender_flawless : Flawless t.senderActions

/-- The head of a channel is delivered, and may stay. -/
theorem exists_kept (f : ℕ → RawData) (keep : Bool) (d : ℕ) (items : List ℕ) :
    ∃ items' : List ℕ, (if keep then (d :: items).map f else ((d :: items).map f).eraseIdx 0) =
      items'.map f ∧ (items' = items ∨ items' = d :: items) := by
  cases keep
  · exact ⟨items, rfl, Or.inl rfl⟩
  · exact ⟨d :: items, rfl, Or.inr rfl⟩

theorem sublist_of_kept {d : ℕ} {items items' : List ℕ}
    (h : items' = items ∨ items' = d :: items) : items'.Sublist (d :: items) := by
  rcases h with rfl | rfl
  · exact List.sublist_cons_self d _
  · exact List.Sublist.refl _

/-- Neighbouring numbers are told apart. -/
theorem eq_of_neighbours {l m : ℕ} (h : l = m ∨ l + 1 = m ∨ l = m + 1)
    (heq : BlockNumber.bn l = BlockNumber.bn m) : l = m := by
  rcases h with h | rfl | rfl
  · exact h
  · exact absurd heq (BlockNumber.bn_ne_succ _)
  · exact absurd heq.symm (BlockNumber.bn_ne_succ _)

/-- **An item is delivered in order.** -/
theorem LinkedInOrder.toReceiver (hag : Agreeing σ τ x receiverV senderV v₀ w₀)
    (h : LinkedInOrder x receiverV senderV v₀ w₀ t n k) (keep : Bool) :
    ∃ n', LinkedInOrder x receiverV senderV v₀ w₀
      (t.step receiverV senderV (.toReceiver 0 keep)) n' k := by
  obtain ⟨items, acks, hfifo, hitems, hacks, hzero⟩ := h.channels
  rcases items with _ | ⟨d, items⟩
  · have hnone : t.toReceiver[0]? = none := by rw [hitems]; rfl
    rw [Transfer.step, hnone]
    exact ⟨n, h⟩
  · -- what stays under way
    have hsome : t.toReceiver[0]? = some (x.item d).encode := by rw [hitems]; rfl
    obtain ⟨items', hkeep, hcases⟩ := exists_kept (fun d => (x.item d).encode) keep d items
    rw [step_toReceiver keep hsome, hitems, hkeep]
    have hsub := sublist_of_kept hcases
    have hzero' : 0 ∈ items' → x.offer.isSome := fun hmem => hzero (hsub.subset hmem)
    -- it is the last one again, or the next one
    have hd : d = n ∨ d = n + 1 := hfifo.item_cases
    have hinj : ∀ m, m = n ∨ m = n + 1 → BlockNumber.bn d = BlockNumber.bn m → d = m :=
      fun m hm => eq_of_neighbours (by omega)
    have hoffer : d = 0 → x.offer.isSome := by
      rintro rfl
      exact hzero List.mem_cons_self
    obtain ⟨n', hlinked, hwhat⟩ :=
      (h.linked.withToReceiver (items'.map fun d => (x.item d).encode)).item hag.valid
        hag.receiver_buffer (hfifo.items_le d List.mem_cons_self) hoffer hinj
    refine ⟨n', ?_⟩
    rcases hwhat with ⟨hflawless, hsent⟩ | ⟨rfl, hrunning, hfails, hwhy⟩
    · refine ⟨hlinked, ?_, h.receiver_flawless.append hflawless, h.sender_flawless⟩
      rcases hsent with ⟨rfl, hsent⟩ | ⟨rfl | ⟨rfl, rfl⟩, hsent⟩
      · refine ⟨items', acks, hfifo.lose hsub (List.Sublist.refl _), rfl, ?_, hzero'⟩
        rw [receiverReacts, hsent, List.append_nil]
        exact hacks
      · refine ⟨items', acks ++ [n'], (hfifo.lose hsub (List.Sublist.refl _)).reack, rfl, ?_,
          hzero'⟩
        rw [receiverReacts, hsent, List.map_append, ← hacks]
        rfl
      · refine ⟨items', acks ++ [n + 1], hfifo.accept hcases, rfl, ?_, hzero'⟩
        rw [receiverReacts, hsent, List.map_append, ← hacks]
        rfl
    · -- nothing is unexpected
      exfalso
      rcases Nat.eq_zero_or_pos d with rfl | hpos
      · obtain rfl : n' = 0 := by omega
        exact hag.offer_accepted (hoffer rfl) t.receiver h.linked.receiver_settled
          (h.linked.receives hrunning) hfails.isOver
      · obtain ⟨hne, hnext⟩ := hwhy (by omega)
        have htrue := hnext (hd.resolve_left hne)
        rw [hag.negotiates] at htrue
        cases htrue

/-- **An answer is delivered in order.** -/
theorem LinkedInOrder.toSender (hag : Agreeing σ τ x receiverV senderV v₀ w₀)
    (h : LinkedInOrder x receiverV senderV v₀ w₀ t n k) (keep : Bool)
    (htime : x.answer.isSome → OptionsInTime t (.toSender 0 keep)) :
    ∃ k', LinkedInOrder x receiverV senderV v₀ w₀
      (t.step receiverV senderV (.toSender 0 keep)) n k' := by
  obtain ⟨items, acks, hfifo, hitems, hacks, hzero⟩ := h.channels
  rcases acks with _ | ⟨a, acks⟩
  · have hnone : t.toSender[0]? = none := by rw [hacks]; rfl
    rw [Transfer.step, hnone]
    exact ⟨k, h⟩
  · have hsome : t.toSender[0]? = some (x.ack a).encode := by rw [hacks]; rfl
    have hquiet : (base t.receiver).phase ≠ .requesting senderV.address := by
      intro hphase
      rw [(h.linked.quiet hphase).1] at hacks
      cases hacks
    have hlate : (base t.sender).phase ≠ .done → a = 0 → x.answer.isSome → k = 0 := by
      rintro hrunning rfl hanswer
      obtain ⟨options, ho⟩ := Option.isSome_iff_exists.mp hanswer
      have hsends := h.linked.sends hrunning
      have htype : Packet.packetType (x.ack 0).encode = .optionsAcknowledgement := by
        rw [Packet.packetType_encode, Session.ack, ho]
        rfl
      have hnone := htime hanswer _ hsome htype hrunning
      rw [hsends.transmitted_eq] at hnone
      exact BlockNumber.bn_eq_zero.mp hnone
    -- what stays under way
    obtain ⟨acks', hkeep, hcases⟩ := exists_kept (fun a => (x.ack a).encode) keep a acks
    rw [step_toSender keep hsome, hacks, hkeep]
    have hsub := sublist_of_kept hcases
    -- it is the last one used again, or that of the outstanding item
    have ha : a + 1 = k ∨ a = k := hfifo.ack_cases
    have hinj : ∀ m, m = k ∨ m + 1 = k → BlockNumber.bn a = BlockNumber.bn m → a = m :=
      fun m hm => eq_of_neighbours (by omega)
    have hsub' : (acks'.map fun a => (x.ack a).encode).Sublist t.toSender := by
      rw [hacks]
      exact hsub.map _
    obtain ⟨k', hlinked, hwhat⟩ :=
      (h.linked.withToSender hsub').ack hag.valid hag.sender_buffer hag.keepsFile
          (hfifo.acks_le a List.mem_cons_self) hinj hlate hquiet
    refine ⟨k', ?_⟩
    rcases hwhat with ⟨hflawless, hsent⟩ | ⟨rfl, hrunning, hfails, hwhy⟩
    · refine ⟨hlinked, ?_, h.receiver_flawless, h.sender_flawless.append hflawless⟩
      rcases hsent with ⟨rfl, hsent⟩ | ⟨⟨rfl, rfl⟩, hsent⟩
      · refine ⟨items, acks', hfifo.lose (List.Sublist.refl _) hsub, ?_, rfl, hzero⟩
        rw [senderReacts, hsent, List.append_nil]
        exact hitems
      · refine ⟨items ++ [a + 1], acks', hfifo.advance hcases, ?_, rfl, ?_⟩
        · rw [senderReacts, hsent, List.map_append, ← hitems]
          rfl
        · intro hmem
          exact hzero (by simpa using hmem)
    · -- nothing is unexpected
      exfalso
      by_cases hoptions : a = 0 ∧ x.answer.isSome
      · obtain ⟨rfl, hanswer⟩ := hoptions
        obtain rfl : k' = 0 := hlate hrunning rfl hanswer
        exact hag.answer_accepted hanswer t.sender h.linked.sender_settled
          (h.linked.sends hrunning) hfails.isOver
      · obtain ⟨hne, hsome⟩ := hwhy fun hzero => by
          simpa using fun hs => hoptions ⟨hzero, hs⟩
        have htrue := hsome (ha.resolve_left hne)
        rw [hag.negotiation] at htrue
        cases htrue

/-- What is lost does not matter. -/
theorem exists_erased (f : ℕ → RawData) (items : List ℕ) (index : ℕ) :
    ∃ items' : List ℕ, (items.map f).eraseIdx index = items'.map f ∧ items'.Sublist items :=
  ⟨items.eraseIdx index, List.eraseIdx_map _ _ _, List.eraseIdx_sublist _ _⟩

/-- **One event of a FIFO network keeps what holds of a transfer.** -/
theorem LinkedInOrder.step (hag : Agreeing σ τ x receiverV senderV v₀ w₀)
    (h : LinkedInOrder x receiverV senderV v₀ w₀ t n k) {e : NetworkEvent} (horder : e.InOrder)
    (htime : x.answer.isSome → OptionsInTime t e) :
    ∃ n' k', LinkedInOrder x receiverV senderV v₀ w₀ (t.step receiverV senderV e) n' k' := by
  cases e with
  | toReceiver index keep =>
    obtain rfl : index = 0 := horder
    obtain ⟨n', h'⟩ := h.toReceiver hag keep
    exact ⟨n', k, h'⟩
  | toSender index keep =>
    obtain rfl : index = 0 := horder
    obtain ⟨k', h'⟩ := h.toSender hag keep htime
    exact ⟨n, k', h'⟩
  | loseToReceiver index =>
    obtain ⟨items, acks, hfifo, hitems, hacks, hzero⟩ := h.channels
    obtain ⟨items', heq, hsub⟩ := exists_erased (fun d => (x.item d).encode) items index
    rw [← hitems] at heq
    exact ⟨n, k, h.linked.withToReceiver _, ⟨items', acks, hfifo.lose hsub (List.Sublist.refl _),
      heq, hacks, fun hmem => hzero (hsub.subset hmem)⟩, h.receiver_flawless, h.sender_flawless⟩
  | loseToSender index =>
    obtain ⟨items, acks, hfifo, hitems, hacks, hzero⟩ := h.channels
    obtain ⟨acks', heq, hsub⟩ := exists_erased (fun a => (x.ack a).encode) acks index
    rw [← hacks] at heq
    exact ⟨n, k, h.linked.withToSender (List.eraseIdx_sublist _ _),
      ⟨items, acks', hfifo.lose (List.Sublist.refl _) hsub, hitems, heq, hzero⟩,
      h.receiver_flawless, h.sender_flawless⟩
  | receiverTimeout =>
    obtain ⟨items, acks, hfifo, hitems, hacks, hzero⟩ := h.channels
    obtain ⟨hlinked, hflawless, hsent⟩ := h.linked.receiver_timeout
    refine ⟨n, k, hlinked, ?_, h.receiver_flawless.append hflawless, h.sender_flawless⟩
    rcases hsent with hsent | hsent
    · refine ⟨items, acks, hfifo, hitems, ?_, hzero⟩
      rw [Transfer.step, receiverReacts, hsent, List.append_nil]
      exact hacks
    · refine ⟨items, acks ++ [n], hfifo.reack, hitems, ?_, hzero⟩
      rw [Transfer.step, receiverReacts, hsent, List.map_append, ← hacks]
      rfl
  | senderTimeout =>
    obtain ⟨items, acks, hfifo, hitems, hacks, hzero⟩ := h.channels
    obtain ⟨hlinked, hflawless, hsent⟩ := h.linked.sender_timeout
    refine ⟨n, k, hlinked, ?_, h.receiver_flawless, h.sender_flawless.append hflawless⟩
    rcases hsent with hsent | ⟨hoffer, hsent⟩
    · refine ⟨items, acks, hfifo, ?_, hacks, hzero⟩
      rw [Transfer.step, senderReacts, hsent, List.append_nil]
      exact hitems
    · refine ⟨items ++ [k], acks, hfifo.resend, ?_, hacks, fun hmem => ?_⟩
      · rw [Transfer.step, senderReacts, hsent, List.map_append, ← hitems]
        rfl
      · rcases List.mem_append.mp hmem with hmem | hmem
        · exact hzero hmem
        · exact hoffer (List.mem_singleton.mp hmem).symm

/-- **What holds of every run over a FIFO network.** -/
theorem linkedInOrder_run (hag : Agreeing σ τ x receiverV senderV v₀ w₀) {init s : Transfer σ τ}
    (hinit : LinkedInOrder x receiverV senderV v₀ w₀ init n k)
    {history : List (Transition (Transfer σ τ) NetworkEvent)}
    (hrun : Run (Transfer.step receiverV senderV) init history s)
    (horder : ∀ u ∈ history, u.event.InOrder)
    (htime : x.answer.isSome → ∀ u ∈ history, OptionsInTime u.pre u.event) :
    ∃ n' k', LinkedInOrder x receiverV senderV v₀ w₀ s n' k' := by
  induction hrun with
  | start => exact ⟨n, k, hinit⟩
  | @next history s e hrun ih =>
    obtain ⟨n', k', h⟩ := ih (fun u hu => horder u (List.mem_append_left _ hu))
      fun hanswer u hu => htime hanswer u (List.mem_append_left _ hu)
    have hlast : (⟨s, e, s.step receiverV senderV e⟩ : Transition (Transfer σ τ) NetworkEvent) ∈
        history ++ [⟨s, e, s.step receiverV senderV e⟩] := by simp
    exact h.step hag (horder _ hlast) fun hanswer => htime hanswer _ hlast

/-- **The file is intact.** -/
theorem Linked.intact (hx : x.Valid) (h : Linked x receiverV senderV v₀ w₀ t n k) :
    t.Intact x.file x.dataSize.toNat :=
  Transfer.intact_of_blocks hx.dataSize_pos h.deliveries_eq h.successful

/-! ### The unordered network -/

/-- **What holds of a transfer over an unordered network.** -/
structure LinkedUnordered (x : Session) (receiverV senderV : Endpoint) (v₀ : ReceiverView)
    (w₀ : SenderView MemoryFile) (t : Transfer σ τ) (n k : ℕ) : Prop where
  linked : Linked x receiverV senderV v₀ w₀ t n k
  channels : ∃ items acks : Set ℕ, (⟨k, n⟩ : StopAndWait).Unordered items acks ∧
    (∀ rawPacket ∈ t.toReceiver,
      (∃ d ∈ items, rawPacket = (x.item d).encode) ∨ IsError rawPacket) ∧
    (∀ rawPacket ∈ t.toSender,
      (∃ a ∈ acks, rawPacket = (x.ack a).encode) ∨ IsError rawPacket) ∧
    (0 ∈ items → x.offer.isSome)

/-- What both sides send on an unordered network is not ahead of them. -/
theorem mem_append_errors {f : ℕ → RawData} {items items' : Set ℕ} {old new : List RawData}
    (hold : ∀ rawPacket ∈ old, (∃ d ∈ items, rawPacket = f d) ∨ IsError rawPacket)
    (hsub : items ⊆ items')
    (hnew : ∀ rawPacket ∈ new, (∃ d ∈ items', rawPacket = f d) ∨ IsError rawPacket) :
    ∀ rawPacket ∈ old ++ new, (∃ d ∈ items', rawPacket = f d) ∨ IsError rawPacket := by
  intro rawPacket hmem
  rcases List.mem_append.mp hmem with hmem | hmem
  · exact (hold rawPacket hmem).imp (fun ⟨d, hd, heq⟩ => ⟨d, hsub hd, heq⟩) id
  · exact hnew rawPacket hmem

/-- Numbers that have not rolled over are told apart. -/
theorem eq_of_small {l m b : ℕ} (hb : b < 65535) (hl : l ≤ b + 1) (hm : m ≤ b + 1)
    (heq : BlockNumber.bn l = BlockNumber.bn m) : l = m :=
  BlockNumber.bn_inj (by omega) (by omega) heq

/-- **Anything arrives at the receiver.** -/
theorem LinkedUnordered.toReceiver (heq : Equipped x v₀ w₀) (hsmall : x.lastBlock < 65535)
    (h : LinkedUnordered x receiverV senderV v₀ w₀ t n k) (index : ℕ) (keep : Bool) :
    ∃ n', LinkedUnordered x receiverV senderV v₀ w₀
      (t.step receiverV senderV (.toReceiver index keep)) n' k := by
  obtain ⟨items, acks, hun, hitems, hacks, hzero⟩ := h.channels
  rcases hraw : t.toReceiver[index]? with _ | rawPacket
  · rw [Transfer.step, hraw]
    exact ⟨n, h⟩
  · rw [step_toReceiver keep hraw]
    have hle := h.linked.le_last
    have hnk := hun.accepted_le
    -- what stays under way was under way before
    have hkept : ∀ rawPacket ∈ (if keep then t.toReceiver else t.toReceiver.eraseIdx index),
        (∃ d ∈ items, rawPacket = (x.item d).encode) ∨ IsError rawPacket := by
      intro rawPacket' hmem
      split_ifs at hmem
      · exact hitems rawPacket' hmem
      · exact hitems rawPacket' (List.mem_of_mem_eraseIdx hmem)
    generalize (if keep then t.toReceiver else t.toReceiver.eraseIdx index) = toReceiver at hkept
    have hlinked := h.linked.withToReceiver toReceiver
    rcases hitems rawPacket (List.mem_of_getElem? hraw) with ⟨d, hd, rfl⟩ | herror
    · have hdk : d ≤ k := hun.items_le d hd
      obtain ⟨n', hlinked', hwhat⟩ := hlinked.item heq.valid heq.receiver_buffer hdk
        (fun hd0 => hzero (hd0 ▸ hd)) fun m hm => eq_of_small hsmall (by omega) (by
          have : n ≤ k := hnk
          omega)
      refine ⟨n', hlinked', ?_⟩
      rcases hwhat with ⟨-, ⟨rfl, hsent⟩ | ⟨rfl | ⟨rfl, rfl⟩, hsent⟩⟩ | ⟨rfl, -, hfails, -⟩
      · refine ⟨items, acks, hun, hkept, ?_, hzero⟩
        rw [receiverReacts, hsent, List.append_nil]
        exact hacks
      · refine ⟨items, insert n' acks, hun.reack, hkept, ?_, hzero⟩
        rw [receiverReacts, hsent]
        exact mem_append_errors hacks (Set.subset_insert _ _) fun rawPacket hmem =>
          Or.inl ⟨n', Set.mem_insert _ _, List.mem_singleton.mp hmem⟩
      · refine ⟨items, insert (n + 1) acks, hun.accept hd, hkept, ?_, hzero⟩
        rw [receiverReacts, hsent]
        exact mem_append_errors hacks (Set.subset_insert _ _) fun rawPacket hmem =>
          Or.inl ⟨n + 1, Set.mem_insert _ _, List.mem_singleton.mp hmem⟩
      · exact ⟨items, acks, hun, hkept, mem_append_errors hacks (Set.Subset.refl _)
          fun rawPacket hmem => Or.inr (hfails.errors rawPacket hmem), hzero⟩
    · obtain ⟨hlinked', herrors⟩ := hlinked.receiver_error heq.receiver_buffer.1 herror
      exact ⟨n, hlinked', items, acks, hun, hkept, mem_append_errors hacks (Set.Subset.refl _)
        fun rawPacket hmem => Or.inr (herrors rawPacket hmem), hzero⟩

/-- **Anything arrives at the sender.** -/
theorem LinkedUnordered.toSender (heq : Equipped x v₀ w₀) (hsmall : x.lastBlock < 65535)
    (hanswer : x.answer = none) (h : LinkedUnordered x receiverV senderV v₀ w₀ t n k)
    (index : ℕ) (keep : Bool) :
    ∃ k', LinkedUnordered x receiverV senderV v₀ w₀
      (t.step receiverV senderV (.toSender index keep)) n k' := by
  obtain ⟨items, acks, hun, hitems, hacks, hzero⟩ := h.channels
  rcases hraw : t.toSender[index]? with _ | rawPacket
  · rw [Transfer.step, hraw]
    exact ⟨k, h⟩
  · have hquiet : (base t.receiver).phase ≠ .requesting senderV.address := by
      intro hphase
      rw [(h.linked.quiet hphase).1] at hraw
      cases hraw
    rw [step_toSender keep hraw]
    have hle := h.linked.le_last
    have hnk := hun.accepted_le
    have hsub : (if keep then t.toSender else t.toSender.eraseIdx index).Sublist t.toSender := by
      split_ifs
      · exact List.Sublist.refl _
      · exact List.eraseIdx_sublist _ _
    have hkept : ∀ rawPacket ∈ (if keep then t.toSender else t.toSender.eraseIdx index),
        (∃ a ∈ acks, rawPacket = (x.ack a).encode) ∨ IsError rawPacket := fun rawPacket' hmem =>
      hacks rawPacket' (hsub.subset hmem)
    generalize (if keep then t.toSender else t.toSender.eraseIdx index) = toSender at hkept hsub
    have hlinked := h.linked.withToSender hsub
    rcases hacks rawPacket (List.mem_of_getElem? hraw) with ⟨a, ha, rfl⟩ | herror
    · have han : a ≤ n := hun.acks_le a ha
      obtain ⟨k', hlinked', hwhat⟩ := hlinked.ack heq.valid heq.sender_buffer heq.keepsFile han
        (fun m hm => eq_of_small hsmall (by
          have : n ≤ k := hnk
          omega) (by omega))
        (fun _ _ hsome => by
          rw [hanswer] at hsome
          cases hsome) hquiet
      refine ⟨k', hlinked', ?_⟩
      rcases hwhat with ⟨-, ⟨rfl, hsent⟩ | ⟨⟨rfl, rfl⟩, hsent⟩⟩ | ⟨rfl, -, hfails, -⟩
      · refine ⟨items, acks, hun, ?_, hkept, hzero⟩
        rw [senderReacts, hsent, List.append_nil]
        exact hitems
      · refine ⟨insert (a + 1) items, acks, hun.advance ha, ?_, hkept, ?_⟩
        · rw [senderReacts, hsent]
          exact mem_append_errors hitems (Set.subset_insert _ _) fun rawPacket hmem =>
            Or.inl ⟨a + 1, Set.mem_insert _ _, List.mem_singleton.mp hmem⟩
        · intro hmem
          exact hzero ((Set.mem_insert_iff.mp hmem).resolve_left (by omega))
      · exact ⟨items, acks, hun, mem_append_errors hitems (Set.Subset.refl _)
          fun rawPacket hmem => Or.inr (hfails.errors rawPacket hmem), hkept, hzero⟩
    · obtain ⟨hlinked', herrors⟩ := hlinked.sender_error heq.sender_buffer herror
      exact ⟨k, hlinked', items, acks, hun, mem_append_errors hitems (Set.Subset.refl _)
        fun rawPacket hmem => Or.inr (herrors rawPacket hmem), hkept, hzero⟩

/-- **One event of an unordered network keeps what holds of a transfer.** -/
theorem LinkedUnordered.step (heq : Equipped x v₀ w₀) (hsmall : x.lastBlock < 65535)
    (hanswer : x.answer = none) (h : LinkedUnordered x receiverV senderV v₀ w₀ t n k)
    (e : NetworkEvent) :
    ∃ n' k', LinkedUnordered x receiverV senderV v₀ w₀ (t.step receiverV senderV e) n' k' := by
  cases e with
  | toReceiver index keep =>
    obtain ⟨n', h'⟩ := h.toReceiver heq hsmall index keep
    exact ⟨n', k, h'⟩
  | toSender index keep =>
    obtain ⟨k', h'⟩ := h.toSender heq hsmall hanswer index keep
    exact ⟨n, k', h'⟩
  | loseToReceiver index =>
    obtain ⟨items, acks, hun, hitems, hacks, hzero⟩ := h.channels
    exact ⟨n, k, h.linked.withToReceiver _, items, acks, hun,
      fun rawPacket hmem => hitems rawPacket (List.mem_of_mem_eraseIdx hmem), hacks, hzero⟩
  | loseToSender index =>
    obtain ⟨items, acks, hun, hitems, hacks, hzero⟩ := h.channels
    exact ⟨n, k, h.linked.withToSender (List.eraseIdx_sublist _ _), items, acks, hun, hitems,
      fun rawPacket hmem => hacks rawPacket (List.mem_of_mem_eraseIdx hmem), hzero⟩
  | receiverTimeout =>
    obtain ⟨items, acks, hun, hitems, hacks, hzero⟩ := h.channels
    obtain ⟨hlinked, -, hsent⟩ := h.linked.receiver_timeout
    refine ⟨n, k, hlinked, items, insert n acks, hun.reack, hitems, ?_, hzero⟩
    refine mem_append_errors hacks (Set.subset_insert _ _) fun rawPacket hmem => ?_
    rcases hsent with hsent | hsent
    · rw [hsent] at hmem
      cases hmem
    · rw [hsent] at hmem
      exact Or.inl ⟨n, Set.mem_insert _ _, List.mem_singleton.mp hmem⟩
  | senderTimeout =>
    obtain ⟨items, acks, hun, hitems, hacks, hzero⟩ := h.channels
    obtain ⟨hlinked, -, hsent⟩ := h.linked.sender_timeout
    rcases hsent with hsent | ⟨hoffer, hsent⟩
    · refine ⟨n, k, hlinked, items, acks, hun, ?_, hacks, hzero⟩
      rw [Transfer.step, senderReacts, hsent, List.append_nil]
      exact hitems
    · refine ⟨n, k, hlinked, insert k items, acks, hun.resend, ?_, hacks, fun hmem => ?_⟩
      · rw [Transfer.step, senderReacts, hsent]
        exact mem_append_errors hitems (Set.subset_insert _ _) fun rawPacket hmem =>
          Or.inl ⟨k, Set.mem_insert _ _, List.mem_singleton.mp hmem⟩
      · rcases Set.mem_insert_iff.mp hmem with hk | hmem
        · exact hoffer hk.symm
        · exact hzero hmem

/-- **What holds of every run over an unordered network.** -/
theorem linkedUnordered_run (heq : Equipped x v₀ w₀) (hsmall : x.lastBlock < 65535)
    (hanswer : x.answer = none) {init s : Transfer σ τ}
    (hinit : LinkedUnordered x receiverV senderV v₀ w₀ init n k)
    {history : List (Transition (Transfer σ τ) NetworkEvent)}
    (hrun : Run (Transfer.step receiverV senderV) init history s) :
    ∃ n' k', LinkedUnordered x receiverV senderV v₀ w₀ s n' k' :=
  hrun.invariant (P := fun s => ∃ n' k', LinkedUnordered x receiverV senderV v₀ w₀ s n' k')
    ⟨n, k, hinit⟩ fun _ e ⟨_, _, h⟩ => h.step heq hsmall hanswer e

end Networks

end Tftp
