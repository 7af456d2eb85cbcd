import Tftp.Lockstep
import Tftp.Protocol.StopAndWait

/-!
# What holds of the two operations of a transfer

`Tftp.Linked` relates the two operations of a transfer to one another, as far as this does not
depend on the network. It is the part of the invariant that the FIFO network and the unordered one
have in common; what differs between them is only what may be under way.

The relation is between a state and two numbers, `n` blocks accepted and `k` items sent:

* each of the two operations is at its number, or over (`Tftp.Receives`, `Tftp.Sends`). Being over
  is no longer a matter of numbers, so that nothing is said of an operation then;
* the receiver is level with the sender or one behind (`Protocol.StopAndWait.InStep`), since a
  sender goes on only when its last item has been acknowledged;
* what has been delivered are the first `n` blocks of the file, also after the receiver is over,
  which is why this is said of the actions and not of the state of the data handler;
* success has been reported, by whichever side, only if these are all the blocks;
* a receiver that still waits for the answer to its request has not said anything to the sender.
  So the sender is at its first item then, or the blocks are of the default size anyway, and the
  receiver cannot be surprised by a block whose size it has not heard of.

There is one lemma for each thing that can happen to one of the two sides: a packet of the other
side arrives, an ERROR packet arrives, the timer expires. Each of them says that the relation is
kept, at which numbers, and what is sent in return, and it asks of the network only that the packet
that arrives is the one with the number that it is taken for.
-/

namespace Tftp

open Protocol

section Linked

variable {σ τ δ : Type} [DataHandler δ] [ReceivingOperation σ δ] [SendingOperation τ MemoryFile]

open Operation Transfer

/-- **What relates the two operations of a transfer**: `n` blocks have been accepted, `k` have
been sent. -/
structure Linked (x : Session) (receiverV senderV : Endpoint) (v₀ : ReceiverView)
    (w₀ : SenderView MemoryFile) (t : Transfer σ τ) (n k : ℕ) : Prop where
  receiver_settled : (base t.receiver).Settled
  sender_settled : (base t.sender).Settled
  receives : (base t.receiver).phase ≠ .done →
    Receives x senderV v₀ n (base t.receiver).phase (ReceivingOperation.view t.receiver)
  sends : (base t.sender).phase ≠ .done →
    Sends x receiverV w₀ k (base t.sender).phase (SendingOperation.view t.sender)
  deliveries_eq : deliveries t.receiverActions = x.prefixOf n
  /-- Success is not reported too early. -/
  successful : t.Succeeded → x.lastBlock ≤ n
  in_step : (⟨k, n⟩ : StopAndWait).InStep
  le_last : k ≤ x.lastBlock
  /-- A receiver that waits for the answer to its request has not said anything to the sender. -/
  quiet : (base t.receiver).phase = .requesting senderV.address →
    t.toSender = [] ∧ (k = 0 ∨ x.dataSize = defaultDataSize)

variable {x : Session} {receiverV senderV : Endpoint} {v₀ : ReceiverView}
  {w₀ : SenderView MemoryFile} {t : Transfer σ τ} {n k d a : ℕ}

/-- What is under way to the receiver does not matter here. -/
theorem Linked.withToReceiver (h : Linked x receiverV senderV v₀ w₀ t n k)
    (toReceiver : List RawData) :
    Linked x receiverV senderV v₀ w₀ { t with toReceiver := toReceiver } n k :=
  ⟨h.receiver_settled, h.sender_settled, h.receives, h.sends, h.deliveries_eq, h.successful,
    h.in_step, h.le_last, h.quiet⟩

/-- Something to the sender gets lost. -/
theorem Linked.withToSender (h : Linked x receiverV senderV v₀ w₀ t n k)
    {toSender : List RawData} (hsub : toSender.Sublist t.toSender) :
    Linked x receiverV senderV v₀ w₀ { t with toSender := toSender } n k := by
  refine ⟨h.receiver_settled, h.sender_settled, h.receives, h.sends, h.deliveries_eq,
    h.successful, h.in_step, h.le_last, fun hphase => ?_⟩
  obtain ⟨hnil, hsize⟩ := h.quiet hphase
  rw [hnil] at hsub
  exact ⟨List.sublist_nil.mp hsub, hsize⟩

/-- A reaction of the receiver that keeps the relation. -/
theorem Linked.receiverReacts {n' : ℕ} (h : Linked x receiverV senderV v₀ w₀ t n k)
    (e : PeerEvent)
    (hreceives : (base (peerStep t.receiver e)).phase ≠ .done → Receives x senderV v₀ n'
      (base (peerStep t.receiver e)).phase (ReceivingOperation.view (peerStep t.receiver e)))
    (hdelivers : x.Delivers n n' (actions (peerStep t.receiver e)))
    (hstep : n' = n ∨ n' = n + 1 ∧ n + 1 ≤ k)
    (hquiet : (∀ server, (base (peerStep t.receiver e)).phase ≠ .requesting server) ∨
      (base t.receiver).phase = (base (peerStep t.receiver e)).phase ∧
        sentTo senderV (actions (peerStep t.receiver e)) = []) :
    Linked x receiverV senderV v₀ w₀ (t.receiverReacts senderV e) n' k where
  receiver_settled := (ReceivingOperation.receiverReaction h.receiver_settled e).1
  sender_settled := h.sender_settled
  receives := hreceives
  sends := h.sends
  deliveries_eq := by
    rw [Transfer.receiverReacts, deliveries_append, h.deliveries_eq]
    exact hdelivers.deliveries_eq
  successful hs := by
    have hle : n ≤ n' := by omega
    rcases hs with hs | hs
    · rcases List.mem_append.mp hs with hs | hs
      · exact (h.successful (Or.inl hs)).trans hle
      · exact hdelivers.successful hs
    · exact (h.successful (Or.inr hs)).trans hle
  in_step := by
    rcases hstep with rfl | ⟨rfl, hle⟩
    · exact h.in_step
    · exact h.in_step.accept hle
  le_last := h.le_last
  quiet hphase := by
    rcases hquiet with hne | ⟨hsame, hnil⟩
    · exact absurd hphase (hne _)
    · obtain ⟨hempty, hsize⟩ := h.quiet (hsame.trans hphase)
      refine ⟨?_, hsize⟩
      rw [Transfer.receiverReacts, hempty, hnil]
      rfl

/-- A reaction of the sender that keeps the relation. -/
theorem Linked.senderReacts {k' : ℕ} (h : Linked x receiverV senderV v₀ w₀ t n k) (e : PeerEvent)
    (hsends : (base (peerStep t.sender e)).phase ≠ .done → Sends x receiverV w₀ k'
      (base (peerStep t.sender e)).phase (SendingOperation.view (peerStep t.sender e)))
    (hsuccessful : .finished .successful ∈ actions (peerStep t.sender e) → x.lastBlock ≤ n)
    (hstep : k' = k ∨ k' = k + 1 ∧ k ≤ n ∧ k + 1 ≤ x.lastBlock ∧
      (base t.receiver).phase ≠ .requesting senderV.address) :
    Linked x receiverV senderV v₀ w₀ (t.senderReacts receiverV e) n k' where
  receiver_settled := h.receiver_settled
  sender_settled := (SendingOperation.senderReaction h.sender_settled e).1
  receives := h.receives
  sends := hsends
  deliveries_eq := h.deliveries_eq
  successful hs := by
    rcases hs with hs | hs
    · exact h.successful (Or.inl hs)
    · rcases List.mem_append.mp hs with hs | hs
      · exact h.successful (Or.inr hs)
      · exact hsuccessful hs
  in_step := by
    rcases hstep with rfl | ⟨rfl, hle, -⟩
    · exact h.in_step
    · exact h.in_step.advance hle
  le_last := by
    rcases hstep with rfl | ⟨rfl, -, hle, -⟩
    · exact h.le_last
    · exact hle
  quiet hphase := by
    rcases hstep with rfl | ⟨-, -, -, hne⟩
    · exact h.quiet hphase
    · exact absurd hphase hne

/-! ### What can happen to the receiver -/

/-- Nothing happens to a receiver that is over. -/
theorem Linked.receiver_over (h : Linked x receiverV senderV v₀ w₀ t n k) (e : PeerEvent)
    (hdone : (base t.receiver).phase = .done) :
    Linked x receiverV senderV v₀ w₀ (t.receiverReacts senderV e) n k ∧
      actions (peerStep t.receiver e) = [] := by
  obtain ⟨-, hreaction⟩ := ReceivingOperation.receiverReaction h.receiver_settled e
  rw [hdone] at hreaction
  obtain ⟨hacts, hphase⟩ := hreaction.over
  refine ⟨h.receiverReacts e (fun hne => absurd hphase hne) ⟨?_, ?_⟩ (Or.inl rfl) ?_, hacts⟩
  · rw [hacts]
    exact List.append_nil _
  · rw [hacts]
    simp
  · rw [hphase]
    exact Or.inl (by rintro _ ⟨⟩)

/-- **An item arrives**: it is answered, or the receiver fails. -/
theorem Linked.item (hx : x.Valid) (h : Linked x receiverV senderV v₀ w₀ t n k)
    (hbuffer : 516 ≤ v₀.buffer ∧ x.dataSize.toNat + 4 ≤ v₀.buffer)
    (hd : d ≤ k) (hoffer : d = 0 → x.offer.isSome)
    (hinj : ∀ m, m = n ∨ m = n + 1 → BlockNumber.bn d = BlockNumber.bn m → d = m) :
    ∃ n', Linked x receiverV senderV v₀ w₀
        (t.receiverReacts senderV (.datagram senderV (x.item d).encode)) n' k ∧
      (Flawless (actions (peerStep t.receiver (.datagram senderV (x.item d).encode))) ∧
        (n' = n ∧ sentTo senderV
            (actions (peerStep t.receiver (.datagram senderV (x.item d).encode))) = [] ∨
          (n' = n ∨ n' = n + 1 ∧ d = n + 1) ∧ sentTo senderV
            (actions (peerStep t.receiver (.datagram senderV (x.item d).encode))) =
              [(x.ack n').encode]) ∨
        n' = n ∧ (base t.receiver).phase ≠ .done ∧
          Fails senderV (actions (peerStep t.receiver (.datagram senderV (x.item d).encode)))
            (base (peerStep t.receiver (.datagram senderV (x.item d).encode))).phase ∧
          (d ≠ 0 → d ≠ n ∧ (d = n + 1 → v₀.negotiates = true))) := by
  by_cases hdone : (base t.receiver).phase = .done
  · obtain ⟨hlinked, hacts⟩ := h.receiver_over (.datagram senderV (x.item d).encode) hdone
    rw [hacts]
    exact ⟨n, hlinked, Or.inl ⟨flawless_nil, Or.inl ⟨rfl, rfl⟩⟩⟩
  · have hreceives := h.receives hdone
    obtain ⟨-, hreaction⟩ := ReceivingOperation.receiverReaction h.receiver_settled
      (.datagram senderV (x.item d).encode)
    have hstep := hreaction.step hreceives.admits
    rw [x.packet_item hx hoffer (by rw [hreceives.kept.buffer]; exact hbuffer)] at hstep
    -- before the options are negotiated there are no blocks yet
    have hsize : d ≠ 0 → (ReceivingOperation.view t.receiver).dataSize = x.dataSize := by
      intro hd0
      rcases hreceives.dataSize_eq with heq | ⟨hphase, heq⟩
      · exact heq
      · rcases (h.quiet hphase).2 with rfl | hdefault
        · omega
        · exact heq.trans hdefault.symm
    obtain ⟨n', hnext, hdelivers, hne, hcases⟩ := hreceives.item hx hinj hsize hoffer hstep
    refine ⟨n', h.receiverReacts _ hnext hdelivers ?_ (Or.inl hne), ?_⟩
    · rcases hcases with ⟨-, -, rfl | ⟨rfl, rfl⟩⟩ | ⟨rfl, -⟩
      · exact Or.inl rfl
      · exact Or.inr ⟨rfl, hd⟩
      · exact Or.inl rfl
    · rcases hcases with ⟨hflawless, hsent, hn⟩ | ⟨hn, hfails, hwhy⟩
      · exact Or.inl ⟨hflawless, Or.inr ⟨hn, hsent⟩⟩
      · rw [hreceives.kept.negotiates] at hwhy
        exact Or.inr ⟨hn, hdone, hfails, hwhy⟩

/-- **An ERROR packet arrives at the receiver.** -/
theorem Linked.receiver_error (h : Linked x receiverV senderV v₀ w₀ t n k)
    (hbuffer : 516 ≤ v₀.buffer) {rawPacket : RawData} (herror : IsError rawPacket) :
    Linked x receiverV senderV v₀ w₀
        (t.receiverReacts senderV (.datagram senderV rawPacket)) n k ∧
      ∀ rawPacket' ∈ sentTo senderV
        (actions (peerStep t.receiver (.datagram senderV rawPacket))), IsError rawPacket' := by
  by_cases hdone : (base t.receiver).phase = .done
  · obtain ⟨hlinked, hacts⟩ := h.receiver_over (.datagram senderV rawPacket) hdone
    rw [hacts]
    exact ⟨hlinked, by simp⟩
  · have hreceives := h.receives hdone
    obtain ⟨-, hreaction⟩ := ReceivingOperation.receiverReaction h.receiver_settled
      (.datagram senderV rawPacket)
    obtain ⟨hfails, hdel⟩ := (hreaction.step hreceives.admits).error
      (herror.type_eq (by rw [hreceives.kept.buffer]; exact hbuffer))
    refine ⟨h.receiverReacts _ (fun hne => absurd hfails.isOver hne) ⟨?_, fun hs => ?_⟩
      (Or.inl rfl) (Or.inl ?_), hfails.errors⟩
    · rw [hdel, List.append_nil]
    · exact absurd hs hfails.status
    · rw [hfails.isOver]
      rintro _ ⟨⟩

/-- **The timer of the receiver expires.** -/
theorem Linked.receiver_timeout (h : Linked x receiverV senderV v₀ w₀ t n k) :
    Linked x receiverV senderV v₀ w₀ (t.receiverReacts senderV .timeout) n k ∧
      Flawless (actions (peerStep t.receiver .timeout)) ∧
      (sentTo senderV (actions (peerStep t.receiver .timeout)) = [] ∨
        sentTo senderV (actions (peerStep t.receiver .timeout)) = [(x.ack n).encode]) := by
  by_cases hdone : (base t.receiver).phase = .done
  · obtain ⟨hlinked, hacts⟩ := h.receiver_over .timeout hdone
    rw [hacts]
    exact ⟨hlinked, flawless_nil, Or.inl rfl⟩
  · obtain ⟨-, hreaction⟩ := ReceivingOperation.receiverReaction h.receiver_settled .timeout
    obtain ⟨hnext, hdelivers, hflawless, hsent, hquiet⟩ :=
      (h.receives hdone).timeout hreaction
    exact ⟨h.receiverReacts _ hnext hdelivers (Or.inl rfl) hquiet, hflawless, hsent⟩

/-! ### What can happen to the sender -/

/-- Nothing happens to a sender that is over. -/
theorem Linked.sender_over (h : Linked x receiverV senderV v₀ w₀ t n k) (e : PeerEvent)
    (hdone : (base t.sender).phase = .done) :
    Linked x receiverV senderV v₀ w₀ (t.senderReacts receiverV e) n k ∧
      actions (peerStep t.sender e) = [] := by
  obtain ⟨-, hreaction⟩ := SendingOperation.senderReaction h.sender_settled e
  rw [hdone] at hreaction
  obtain ⟨hacts, hphase⟩ := hreaction.over
  refine ⟨h.senderReacts e (fun hne => absurd hphase hne) ?_ (Or.inl rfl), hacts⟩
  rw [hacts]
  simp

/-- **An answer arrives**: the sender goes on, or ignores it, or it fails. -/
theorem Linked.ack (hx : x.Valid) (h : Linked x receiverV senderV v₀ w₀ t n k)
    (hbuffer : 516 ≤ w₀.buffer) (hfile : w₀.KeepsFile) (ha : a ≤ n)
    (hinj : ∀ m, m = k ∨ m + 1 = k → BlockNumber.bn a = BlockNumber.bn m → a = m)
    (hlate : (base t.sender).phase ≠ .done → a = 0 → x.answer.isSome → k = 0)
    (hquiet : (base t.receiver).phase ≠ .requesting senderV.address) :
    ∃ k', Linked x receiverV senderV v₀ w₀
        (t.senderReacts receiverV (.datagram receiverV (x.ack a).encode)) n k' ∧
      (Flawless (actions (peerStep t.sender (.datagram receiverV (x.ack a).encode))) ∧
        (k' = k ∧ sentTo receiverV
            (actions (peerStep t.sender (.datagram receiverV (x.ack a).encode))) = [] ∨
          (k' = k + 1 ∧ a = k) ∧ sentTo receiverV
            (actions (peerStep t.sender (.datagram receiverV (x.ack a).encode))) =
              [(x.item (k + 1)).encode]) ∨
        k' = k ∧ (base t.sender).phase ≠ .done ∧
          Fails receiverV (actions (peerStep t.sender (.datagram receiverV (x.ack a).encode)))
            (base (peerStep t.sender (.datagram receiverV (x.ack a).encode))).phase ∧
          ((a = 0 → x.answer = none) → a + 1 ≠ k ∧ (a = k → w₀.negotiation.isSome))) := by
  by_cases hdone : (base t.sender).phase = .done
  · obtain ⟨hlinked, hacts⟩ := h.sender_over (.datagram receiverV (x.ack a).encode) hdone
    rw [hacts]
    exact ⟨k, hlinked, Or.inl ⟨flawless_nil, Or.inl ⟨rfl, rfl⟩⟩⟩
  · have hsends := h.sends hdone
    obtain ⟨-, hreaction⟩ := SendingOperation.senderReaction h.sender_settled
      (.datagram receiverV (x.ack a).encode)
    have hstep := hreaction.step hsends.admits
    rw [x.packet_ack hx a (by rw [hsends.kept.buffer]; exact hbuffer)] at hstep
    obtain ⟨k', hnext, hsuccessful, hcases⟩ := hsends.ack hx hfile (ha.trans h.in_step.accepted_le)
      hinj (hlate hdone) hstep
    refine ⟨k', h.senderReacts _ hnext (fun hs => ?_) ?_, ?_⟩
    · obtain ⟨rfl, hlast⟩ := hsuccessful hs
      exact hlast.trans ha
    · rcases hcases with ⟨-, ⟨rfl, -⟩ | ⟨rfl, rfl, hlast, -⟩⟩ | ⟨rfl, -⟩
      · exact Or.inl rfl
      · exact Or.inr ⟨rfl, ha, hlast, hquiet⟩
      · exact Or.inl rfl
    · rcases hcases with ⟨hflawless, ⟨hk, hsent⟩ | ⟨hk, hak, -, hsent⟩⟩ | ⟨hk, hfails, hwhy⟩
      · exact Or.inl ⟨hflawless, Or.inl ⟨hk, hsent⟩⟩
      · exact Or.inl ⟨hflawless, Or.inr ⟨⟨hk, hak⟩, hsent⟩⟩
      · rw [hsends.kept.negotiation] at hwhy
        exact Or.inr ⟨hk, hdone, hfails, hwhy⟩

/-- **An ERROR packet arrives at the sender.** -/
theorem Linked.sender_error (h : Linked x receiverV senderV v₀ w₀ t n k)
    (hbuffer : 516 ≤ w₀.buffer) {rawPacket : RawData} (herror : IsError rawPacket) :
    Linked x receiverV senderV v₀ w₀
        (t.senderReacts receiverV (.datagram receiverV rawPacket)) n k ∧
      ∀ rawPacket' ∈ sentTo receiverV
        (actions (peerStep t.sender (.datagram receiverV rawPacket))), IsError rawPacket' := by
  by_cases hdone : (base t.sender).phase = .done
  · obtain ⟨hlinked, hacts⟩ := h.sender_over (.datagram receiverV rawPacket) hdone
    rw [hacts]
    exact ⟨hlinked, by simp⟩
  · have hsends := h.sends hdone
    obtain ⟨-, hreaction⟩ := SendingOperation.senderReaction h.sender_settled
      (.datagram receiverV rawPacket)
    have hfails := (hreaction.step hsends.admits).error
      (herror.type_eq (by rw [hsends.kept.buffer]; exact hbuffer))
    exact ⟨h.senderReacts _ (fun hne => absurd hfails.isOver hne)
      (fun hs => absurd hs hfails.status) (Or.inl rfl), hfails.errors⟩

/-- **The timer of the sender expires.** -/
theorem Linked.sender_timeout (h : Linked x receiverV senderV v₀ w₀ t n k) :
    Linked x receiverV senderV v₀ w₀ (t.senderReacts receiverV .timeout) n k ∧
      Flawless (actions (peerStep t.sender .timeout)) ∧
      (sentTo receiverV (actions (peerStep t.sender .timeout)) = [] ∨
        (k = 0 → x.offer.isSome) ∧
          sentTo receiverV (actions (peerStep t.sender .timeout)) = [(x.item k).encode]) := by
  by_cases hdone : (base t.sender).phase = .done
  · obtain ⟨hlinked, hacts⟩ := h.sender_over .timeout hdone
    rw [hacts]
    exact ⟨hlinked, flawless_nil, Or.inl rfl⟩
  · obtain ⟨-, hreaction⟩ := SendingOperation.senderReaction h.sender_settled .timeout
    obtain ⟨hnext, hnot, hflawless, hsent⟩ := (h.sends hdone).timeout hreaction
    exact ⟨h.senderReacts _ hnext (fun hs => absurd hs hnot) (Or.inl rfl), hflawless, hsent⟩

end Linked

end Tftp
