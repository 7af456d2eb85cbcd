import Tftp.Outcomes
import Tftp.Termination

/-!
# An undisturbed transfer gets to its end

A transfer over a FIFO network never gets stuck. As long as both operations go on, the next step is
under way: the outstanding item, or the acknowledgement of it (`Tftp.Live`). Every datagram that
is delivered keeps this (`Tftp.Live.toReceiver`, `Tftp.Live.toSender`), so that, if nothing gets
lost, nothing can be left under way unless the sender has reported success, and the receiver has
reported it, too, or dallies.

What was lost before does not matter: a transfer is live again after the timer of the side that
has the word has expired once (`Tftp.LinkedInOrder.nudged`). For a read that is the server, whose
timer repeats the outstanding block. For a write it is the client, once it has been answered, and
the server before that, since a client that waits for its first answer repeats its request to the
port of the server, which would start another operation. A side whose counter of repetitions has
run out does not repeat anything, but gives up; so the expiry has to be one within the limit
(`Tftp.Transfer.Nudges`).
-/

namespace Tftp

open Protocol Clients Servers Operation Transfer

/-! ### A live transfer -/

/-- A datagram is delivered, and none is overtaken. -/
def NetworkEvent.Delivers : NetworkEvent → Prop
  | .toReceiver index _ | .toSender index _ => index = 0
  | _ => False

instance instDecidableDelivers : DecidablePred NetworkEvent.Delivers
  | .toReceiver index _ | .toSender index _ => inferInstanceAs (Decidable (index = 0))
  | .loseToReceiver _ | .loseToSender _ | .receiverTimeout | .senderTimeout =>
      inferInstanceAs (Decidable False)

section Live

variable {σ τ δ : Type} [DataHandler δ] [ReceivingOperation σ δ] [SendingOperation τ MemoryFile]
  {x : Session} {receiverV senderV : Endpoint} {v₀ : ReceiverView} {w₀ : SenderView MemoryFile}
  {t : Transfer σ τ} {n k d a : ℕ}

/-- **A transfer in which nobody has given up**, and as long as the sender goes on, the next step is
under way. -/
structure Live (x : Session) (receiverV senderV : Endpoint) (v₀ : ReceiverView)
    (w₀ : SenderView MemoryFile) (t : Transfer σ τ) (n k : ℕ) : Prop where
  linked : Linked x receiverV senderV v₀ w₀ t n k
  channels : ∃ items acks, (⟨k, n⟩ : StopAndWait).Fifo items acks ∧
    t.toReceiver = items.map (fun d => (x.item d).encode) ∧
    t.toSender = acks.map (fun a => (x.ack a).encode) ∧ (0 ∈ items → x.offer.isSome) ∧
    ((base t.sender).phase ≠ .done →
      (⟨k, n⟩ : StopAndWait).Pending ((base t.receiver).phase ≠ .done) items acks)
  receiver_flawless : Flawless t.receiverActions
  sender_flawless : Flawless t.senderActions
  receiver_done : (base t.receiver).phase = .done → .finished .successful ∈ t.receiverActions
  sender_done : (base t.sender).phase = .done → .finished .successful ∈ t.senderActions
  conclusive : Conclusive x t

theorem Live.inOrder (h : Live x receiverV senderV v₀ w₀ t n k) :
    LinkedInOrder x receiverV senderV v₀ w₀ t n k := by
  obtain ⟨items, acks, hfifo, hitems, hacks, hzero, -⟩ := h.channels
  exact ⟨h.linked, ⟨items, acks, hfifo, hitems, hacks, hzero⟩, h.receiver_flawless,
    h.sender_flawless⟩

/-- **An item is delivered in a live transfer.** -/
theorem Live.toReceiver (hag : Agreeing σ τ x receiverV senderV v₀ w₀)
    (h : Live x receiverV senderV v₀ w₀ t n k) (keep : Bool) :
    ∃ n', Live x receiverV senderV v₀ w₀ (t.step receiverV senderV (.toReceiver 0 keep)) n' k := by
  obtain ⟨items, acks, hfifo, hitems, hacks, hzero, hpending⟩ := h.channels
  rcases items with _ | ⟨d, items⟩
  · have hnone : t.toReceiver[0]? = none := by rw [hitems]; rfl
    rw [Transfer.step, hnone]
    exact ⟨n, h⟩
  · -- what stays under way
    have hsome : t.toReceiver[0]? = some (x.item d).encode := by rw [hitems]; rfl
    obtain ⟨items', hkeep, hcases⟩ := exists_kept (fun d => (x.item d).encode) keep d items
    have hsub := sublist_of_kept hcases
    have hzero' : 0 ∈ items' → x.offer.isSome := fun hmem => hzero (hsub.subset hmem)
    have hkept : ∀ e ∈ items, e ∈ items' := by
      rcases hcases with rfl | rfl
      · exact fun e he => he
      · exact fun e he => List.mem_cons_of_mem _ he
    have hconclusive := h.conclusive.toReceiver hag h.inOrder keep
    rw [step_toReceiver keep hsome, hitems, hkeep] at hconclusive ⊢
    by_cases hdone : (base t.receiver).phase = .done
    · -- a receiver that is over ignores it
      obtain ⟨-, hreaction⟩ := ReceivingOperation.receiverReaction h.linked.receiver_settled
        (.datagram senderV (x.item d).encode)
      rw [hdone] at hreaction
      obtain ⟨hacts, -⟩ := hreaction.over
      obtain ⟨hlinked, -⟩ := (h.linked.withToReceiver
        (items'.map fun d => (x.item d).encode)).receiver_over
          (.datagram senderV (x.item d).encode) hdone
      refine ⟨n, hlinked, ⟨items', acks, hfifo.lose hsub (List.Sublist.refl _), rfl, ?_, hzero',
        fun hrunning => Or.inr ?_⟩, ?_, h.sender_flawless, fun _ => ?_, h.sender_done,
        hconclusive⟩
      · rw [receiverReacts, hacts, sentTo_nil, List.append_nil]
        exact hacks
      · exact (hpending hrunning).resolve_left fun hanswers => hanswers.1 hdone
      · rw [receiverReacts, hacts, List.append_nil]
        exact h.receiver_flawless
      · exact List.mem_append_left _ (h.receiver_done hdone)
    · have hle : d ≤ k := hfifo.items_le d List.mem_cons_self
      obtain ⟨hlinked, hflawless, hsent, hsuccess, -⟩ := h.inOrder.item_exact hag hdone
        hsome hfifo.item_cases hle (fun hd => hzero (hd ▸ List.mem_cons_self))
        (items'.map fun d => (x.item d).encode)
      refine ⟨d, hlinked, ⟨items', acks ++ [d], ?_, rfl, ?_, hzero', fun hrunning => ?_⟩,
        h.receiver_flawless.append hflawless, h.sender_flawless,
        fun hdone' => List.mem_append_right _ (hsuccess hdone'), h.sender_done, hconclusive⟩
      · rcases hfifo.item_cases with rfl | rfl
        · exact (hfifo.lose hsub (List.Sublist.refl _)).reack
        · exact hfifo.accept hcases
      · rw [receiverReacts, hsent, List.map_append, ← hacks]
        rfl
      · refine StopAndWait.Pending.item hfifo (hpending hrunning) hkept fun hne hdone' => ?_
        -- only the answer to the last block is the end
        have hlast := hlinked.successful (Or.inl (List.mem_append_right _ (hsuccess hdone')))
        have hmax := hlinked.le_last
        have hne' : d ≠ k := hne
        omega

/-- **An answer is delivered in a live transfer.** -/
theorem Live.toSender (hag : Agreeing σ τ x receiverV senderV v₀ w₀)
    (h : Live x receiverV senderV v₀ w₀ t n k) (keep : Bool)
    (htime : x.answer.isSome → OptionsInTime t (.toSender 0 keep)) :
    ∃ k', Live x receiverV senderV v₀ w₀ (t.step receiverV senderV (.toSender 0 keep)) n k' := by
  obtain ⟨items, acks, hfifo, hitems, hacks, hzero, hpending⟩ := h.channels
  rcases acks with _ | ⟨a, acks⟩
  · have hnone : t.toSender[0]? = none := by rw [hacks]; rfl
    rw [Transfer.step, hnone]
    exact ⟨k, h⟩
  · -- what stays under way
    have hsome : t.toSender[0]? = some (x.ack a).encode := by rw [hacks]; rfl
    obtain ⟨acks', hkeep, hcases⟩ := exists_kept (fun a => (x.ack a).encode) keep a acks
    have hsub := sublist_of_kept hcases
    have hkept : ∀ b ∈ acks, b ∈ acks' := by
      rcases hcases with rfl | rfl
      · exact fun b hb => hb
      · exact fun b hb => List.mem_cons_of_mem _ hb
    have hsub' : (acks'.map fun a => (x.ack a).encode).Sublist t.toSender := by
      rw [hacks]
      exact hsub.map _
    rw [step_toSender keep hsome, hacks, hkeep]
    by_cases hdone : (base t.sender).phase = .done
    · -- a sender that is over ignores it
      obtain ⟨-, hreaction⟩ := SendingOperation.senderReaction h.linked.sender_settled
        (.datagram receiverV (x.ack a).encode)
      rw [hdone] at hreaction
      obtain ⟨hacts, hphase⟩ := hreaction.over
      obtain ⟨hlinked, -⟩ := (h.linked.withToSender hsub').sender_over
        (.datagram receiverV (x.ack a).encode) hdone
      refine ⟨k, hlinked, ⟨items, acks', hfifo.lose (List.Sublist.refl _) hsub, ?_, rfl, hzero,
        fun hrunning => absurd hphase hrunning⟩, h.receiver_flawless, ?_, h.receiver_done,
        fun _ => ?_, h.conclusive.of_receiver rfl rfl⟩
      · rw [senderReacts, hacts, sentTo_nil, List.append_nil]
        exact hitems
      · rw [senderReacts, hacts, List.append_nil]
        exact h.sender_flawless
      · exact List.mem_append_left _ (h.sender_done hdone)
    · obtain ⟨k', hlinked, hflawless, hsuccess, hwhat⟩ := h.inOrder.ack_exact hag hdone hsome
        hfifo.ack_cases (hfifo.acks_le a List.mem_cons_self) (fun hanswer _ => htime hanswer) hsub'
      have hdone' := fun hd => List.mem_append_right t.senderActions (hsuccess hd)
      rcases hwhat with ⟨rfl, hnil, hover⟩ | ⟨rfl, rfl, hsent⟩
      · refine ⟨k', hlinked, ⟨items, acks', hfifo.lose (List.Sublist.refl _) hsub, ?_, rfl, hzero,
          fun hrunning => (hpending hdone).ack (fun hak => hrunning (hover hak)) hkept⟩,
          h.receiver_flawless, h.sender_flawless.append hflawless, h.receiver_done, hdone',
          h.conclusive.of_receiver rfl rfl⟩
        rw [senderReacts, hnil, List.append_nil]
        exact hitems
      · refine ⟨a + 1, hlinked, ⟨items ++ [a + 1], acks', hfifo.advance hcases, ?_, rfl, ?_,
          fun _ => StopAndWait.Pending.resend (p := ⟨a + 1, n⟩) fun hover => ?_⟩,
          h.receiver_flawless, h.sender_flawless.append hflawless, h.receiver_done, hdone',
          h.conclusive.of_receiver rfl rfl⟩
        · rw [senderReacts, hsent, List.map_append, ← hitems]
          rfl
        · exact fun hmem => hzero (by simpa using hmem)
        · -- there is a next block, so that the receiver cannot be over
          have hlast := h.linked.successful (Or.inl (h.receiver_done hover))
          have hmax := hlinked.le_last
          have hle : n ≤ a := h.linked.in_step.accepted_le
          omega

/-- **What holds of every undisturbed run**, in which datagrams are delivered, and nothing gets
lost. -/
theorem live_run (hag : Agreeing σ τ x receiverV senderV v₀ w₀) {init s : Transfer σ τ}
    (hinit : Live x receiverV senderV v₀ w₀ init n k)
    {history : List (Transition (Transfer σ τ) NetworkEvent)}
    (hrun : Run (Transfer.step receiverV senderV) init history s)
    (hdelivers : ∀ u ∈ history, u.event.Delivers)
    (htime : x.answer.isSome → ∀ u ∈ history, OptionsInTime u.pre u.event) :
    ∃ n' k', Live x receiverV senderV v₀ w₀ s n' k' := by
  induction hrun with
  | start => exact ⟨n, k, hinit⟩
  | @next history s e hrun ih =>
    obtain ⟨n', k', h⟩ := ih (fun u hu => hdelivers u (List.mem_append_left _ hu))
      fun hanswer u hu => htime hanswer u (List.mem_append_left _ hu)
    have hlast : (⟨s, e, s.step receiverV senderV e⟩ : Transition (Transfer σ τ) NetworkEvent) ∈
        history ++ [⟨s, e, s.step receiverV senderV e⟩] := by simp
    have hdeliver : e.Delivers := hdelivers _ hlast
    cases e with
    | toReceiver index keep =>
      obtain rfl : index = 0 := hdeliver
      obtain ⟨n'', h'⟩ := h.toReceiver hag keep
      exact ⟨n'', k', h'⟩
    | toSender index keep =>
      obtain rfl : index = 0 := hdeliver
      obtain ⟨k'', h'⟩ := h.toSender hag keep fun hanswer => htime hanswer _ hlast
      exact ⟨n', k'', h'⟩
    | loseToReceiver | loseToSender | receiverTimeout | senderTimeout => exact hdeliver.elim

/-- **If nothing is under way any more**, a live transfer has got to its end. -/
theorem Live.completed (hx : x.Valid) (h : Live x receiverV senderV v₀ w₀ t n k)
    (hreceiver : t.toReceiver = []) (hsender : t.toSender = []) : Completed x.file t := by
  obtain ⟨items, acks, -, hitems, hacks, -, hpending⟩ := h.channels
  have hdone : (base t.sender).phase = .done := by
    by_contra hrunning
    rcases (hpending hrunning).ne_nil with hne | hne
    · exact hne (List.map_eq_nil_iff.mp (hitems.symm.trans hreceiver))
    · exact hne (List.map_eq_nil_iff.mp (hacks.symm.trans hsender))
  exact (h.conclusive.agreed hx h.linked (h.sender_done hdone)).1

/-! ### After a disturbance -/

/-- **What brings a transfer back to life**: the timer of the sender expires while the receiver
goes on, or that of the receiver while the sender still waits for the answer to its request, and
the operation has not been waiting for too long. -/
def Transfer.Nudges (t : Transfer σ τ) : NetworkEvent → Prop
  | .senderTimeout =>
      (∃ peer, (base t.sender).phase = .waiting peer) ∧ (base t.receiver).phase ≠ .done ∧
        (SendingOperation.view t.sender).counter.toNat ≤
          (SendingOperation.view t.sender).retries.toNat
  | .receiverTimeout =>
      (∃ server, (base t.sender).phase = .requesting server) ∧
        (∃ peer, (base t.receiver).phase = .waiting peer) ∧
        (ReceivingOperation.view t.receiver).counter.toNat ≤
          (ReceivingOperation.view t.receiver).retries.toNat
  | _ => False

instance instDecidableExistsWaiting (p : Phase) : Decidable (∃ peer, p = .waiting peer) :=
  match p with
  | .waiting peer => isTrue ⟨peer, rfl⟩
  | .requesting _ | .dallying _ | .done => isFalse (by rintro ⟨_, ⟨⟩⟩)

instance instDecidableExistsRequesting (p : Phase) : Decidable (∃ server, p = .requesting server) :=
  match p with
  | .requesting server => isTrue ⟨server, rfl⟩
  | .waiting _ | .dallying _ | .done => isFalse (by rintro ⟨_, ⟨⟩⟩)

instance instDecidableNudges (t : Transfer σ τ) : DecidablePred t.Nudges
  | .senderTimeout => inferInstanceAs (Decidable (_ ∧ _ ∧ _))
  | .receiverTimeout => inferInstanceAs (Decidable (_ ∧ _ ∧ _))
  | .toReceiver .. | .toSender .. | .loseToReceiver _ | .loseToSender _ =>
      inferInstanceAs (Decidable False)

/-- The timer of a sender that waits, and has not waited for too long. -/
theorem SenderReaction.resends {δ : Type} [TransmitDataHandler δ] {w w' : SenderView δ}
    {p' : Phase} {acts : List Action} {peer : Endpoint}
    (h : SenderReaction w (.waiting peer) .timeout acts p' w')
    (hretries : w.counter.toNat ≤ w.retries.toNat) :
    acts = [.resend w.packet peer] ∧ p' = .waiting peer := by
  generalize he : PeerEvent.timeout = e at h
  generalize hp : Phase.waiting peer = p at h
  cases h with
  | idle _ hidle =>
    subst hp he
    rcases hidle with hdone | ⟨_, _, _, _, _, heq⟩
    · cases hdone
    · cases heq
  | foreign | received => cases he
  | resend destination hphase =>
    subst hp
    rcases hphase with ⟨⟨_, hrequesting⟩, -⟩ | hwaiting
    · cases hrequesting
    · cases hwaiting
      exact ⟨rfl, rfl⟩
  | expire _ hexpired => exact absurd hretries (Nat.not_le.mpr hexpired)
  | dallied _ hphase => cases hp.trans hphase

/-- The timer of a receiver that waits, and has not waited for too long. -/
theorem ReceiverReaction.resends {v v' : ReceiverView} {p' : Phase} {acts : List Action}
    {peer : Endpoint} (h : ReceiverReaction v (.waiting peer) .timeout acts p' v')
    (hretries : v.counter.toNat ≤ v.retries.toNat) :
    acts = [.resend v.packet peer] ∧ p' = .waiting peer := by
  generalize he : PeerEvent.timeout = e at h
  generalize hp : Phase.waiting peer = p at h
  cases h with
  | idle _ hidle =>
    subst hp he
    rcases hidle with hdone | ⟨_, _, _, _, _, heq⟩
    · cases hdone
    · cases heq
  | foreign | received => cases he
  | resend destination hphase =>
    subst hp
    rcases hphase with ⟨⟨_, hrequesting⟩, -⟩ | hwaiting
    · cases hrequesting
    · cases hwaiting
      exact ⟨rfl, rfl⟩
  | expire _ hexpired => exact absurd hretries (Nat.not_le.mpr hexpired)
  | dallied _ hphase => cases hp.trans hphase

/-- **One expiry of the right timer is enough.** -/
theorem LinkedInOrder.nudged (h : LinkedInOrder x receiverV senderV v₀ w₀ t n k)
    (hconclusive : Conclusive x t) {e : NetworkEvent} (hnudges : t.Nudges e) :
    Live x receiverV senderV v₀ w₀ (t.step receiverV senderV e) n k := by
  obtain ⟨items, acks, hfifo, hitems, hacks, hzero⟩ := h.channels
  cases e with
  | senderTimeout =>
    obtain ⟨⟨peer, hphase⟩, hreceiver, hretries⟩ := hnudges
    have hsends := h.linked.sends (by rw [hphase]; rintro ⟨⟩)
    obtain rfl : peer = receiverV := by
      rcases hsends.phase_cases with ⟨hrequesting, -⟩ | hwaiting
      · cases hphase.symm.trans hrequesting
      · exact Phase.waiting.inj (hphase.symm.trans hwaiting)
    obtain ⟨hpacket, hoffer⟩ := hsends.stored hphase
    obtain ⟨-, hreaction⟩ := SendingOperation.senderReaction h.linked.sender_settled .timeout
    rw [hphase] at hreaction
    obtain ⟨hacts, hphase'⟩ := hreaction.resends hretries
    obtain ⟨hlinked, hflawless, -⟩ := h.linked.sender_timeout
    refine ⟨hlinked, ⟨items ++ [k], acks, hfifo.resend, ?_, hacks, fun hmem => ?_,
      fun _ => StopAndWait.Pending.resend hreceiver⟩, h.receiver_flawless,
      h.sender_flawless.append hflawless, fun hdone => absurd hdone hreceiver,
      fun hdone => ?_, hconclusive.of_receiver rfl rfl⟩
    · rw [Transfer.step, senderReacts, hacts, hpacket, sentTo_resend, List.map_append, ← hitems]
      rfl
    · rcases List.mem_append.mp hmem with hmem | hmem
      · exact hzero hmem
      · exact hoffer (List.mem_singleton.mp hmem).symm
    · cases hdone.symm.trans hphase'
  | receiverTimeout =>
    obtain ⟨⟨server, hrequesting⟩, ⟨peer, hphase⟩, hretries⟩ := hnudges
    have hsender : (base t.sender).phase ≠ .done := by rw [hrequesting]; rintro ⟨⟩
    have hreceives := h.linked.receives (by rw [hphase]; rintro ⟨⟩)
    obtain rfl : peer = senderV := by
      rcases hreceives.phase_cases with ⟨hrequesting', -⟩ | hwaiting | ⟨hdallying, -⟩
      · cases hphase.symm.trans hrequesting'
      · exact Phase.waiting.inj (hphase.symm.trans hwaiting)
      · cases hphase.symm.trans hdallying
    -- a sender that waits for the answer to its request has not sent anything yet
    obtain rfl : k = 0 := by
      rcases (h.linked.sends hsender).phase_cases with ⟨-, -, hk⟩ | hwaiting
      · exact hk
      · cases hrequesting.symm.trans hwaiting
    obtain rfl : n = 0 := Nat.le_zero.mp h.linked.in_step.accepted_le
    have hpacket := hreceives.stored hphase
    obtain ⟨-, hreaction⟩ := ReceivingOperation.receiverReaction h.linked.receiver_settled .timeout
    rw [hphase] at hreaction
    obtain ⟨hacts, hphase'⟩ := hreaction.resends hretries
    obtain ⟨hlinked, hflawless, -⟩ := h.linked.receiver_timeout
    refine ⟨hlinked, ⟨items, acks ++ [0], hfifo.reack, hitems, ?_, hzero,
      fun _ => StopAndWait.Pending.reack rfl⟩, h.receiver_flawless.append hflawless,
      h.sender_flawless, fun hdone => ?_, fun hdone => absurd hdone hsender,
      hconclusive.receiverTimeout h.linked⟩
    · rw [Transfer.step, receiverReacts, hacts, hpacket, sentTo_resend, List.map_append, ← hacks]
      rfl
    · cases hdone.symm.trans hphase'
  | toReceiver | toSender | loseToReceiver | loseToSender => exact hnudges.elim

/-- **A transfer gets to its end, once nothing gets lost any more**: from the start on, or after
the right timer has expired. -/
theorem Live.completes (hag : Agreeing σ τ x receiverV senderV v₀ w₀) {init s s' : Transfer σ τ}
    (hinit : Live x receiverV senderV v₀ w₀ init n k)
    {before after : List (Transition (Transfer σ τ) NetworkEvent)}
    (hbefore : Run (Transfer.step receiverV senderV) init before s)
    (hafter : Run (Transfer.step receiverV senderV) s after s')
    (horder : ∀ u ∈ before, u.event.InOrder)
    (htime : x.answer.isSome → ∀ u ∈ before ++ after, OptionsInTime u.pre u.event)
    (hnudges : ∀ u ∈ before.getLast?, u.pre.Nudges u.event)
    (hdelivers : ∀ u ∈ after, u.event.Delivers)
    (hreceiver : s'.toReceiver = []) (hsender : s'.toSender = []) : Completed x.file s' := by
  suffices hlive : ∃ n' k', Live x receiverV senderV v₀ w₀ s n' k' by
    obtain ⟨n', k', hlive⟩ := hlive
    obtain ⟨n'', k'', h⟩ := live_run hag hlive hafter hdelivers
      fun hanswer u hu => htime hanswer u (List.mem_append_right _ hu)
    exact h.completed hag.valid hreceiver hsender
  cases hbefore with
  | start => exact ⟨n, k, hinit⟩
  | @next history s e hpast =>
    have hearlier : ∀ u ∈ history, u ∈ history ++ [⟨s, e, s.step receiverV senderV e⟩] :=
      fun u hu => List.mem_append_left _ hu
    obtain ⟨⟨n', k', h⟩, hconclusive⟩ := conclusive_run hag hinit.inOrder hinit.conclusive hpast
      (fun u hu => horder u (hearlier u hu))
      fun hanswer u hu => htime hanswer u (List.mem_append_left _ (hearlier u hu))
    exact ⟨n', k', h.nudged hconclusive
      (hnudges ⟨s, e, s.step receiverV senderV e⟩ List.getLast?_concat)⟩

end Live

/-! ### Reading and writing a file -/

section Read

variable {client : Clients.Settings MemoryFile} {server : Servers.Settings MemoryFile}
  {request : ReceivedTftpRequest} {serverV : Endpoint}

/-- **A read is live at its start**: the first packet of the server is under way. -/
theorem live_read (hserver : server.Negotiable) (hrange : request.clientOptions.InRange)
    (hzero : request.clientOptions.transferSize = none ∨
      request.clientOptions.transferSize = some 0)
    (hsource : server.dataHandler.operationV = .transmit)
    (haddress : serverV.address = client.remote.address) (hport : serverV ≠ client.remote) :
    ∃ k, Live (readSession server request) request.remote serverV
        (Transfer.read client server request serverV).receiver.view
        (Transfer.read client server request serverV).sender.view
        (Transfer.read client server request serverV) 0 k ∧
      (Transfer.read client server request serverV).sender.view.buffer = 516 := by
  have hadd : server.additionalNegotiatedOptions.Unobtrusive := by
    rw [hserver.additional]
    exact Options.unobtrusive_empty
  obtain ⟨k, hlinked, hoffer, hbuffer, hitems, hacks, hreceiver, hsender⟩ :=
    linked_read hserver.blockSize hadd hrange hzero hsource haddress hport
  have hrequesting : (Transfer.read client server request serverV).receiver.phase =
      .requesting serverV.address :=
    (receives_request (x := readSession server request) haddress hport).2.1
  obtain ⟨-, _, -, -, -, -, hsending, -⟩ :=
    sends_start hserver.blockSize hadd hrange hzero hsource
  refine ⟨k, ⟨hlinked, ⟨[k], [], (StopAndWait.Fifo.start hlinked.in_step).resend, hitems, hacks,
    fun hmem => hoffer (List.mem_singleton.mp hmem).symm, fun _ => ?_⟩, hreceiver, hsender,
    fun hdone => ?_, fun hdone => absurd hdone hsending,
    Conclusive.started hlinked (unreported_read haddress hport)⟩, hbuffer⟩
  · refine Or.inl ⟨fun hdone => ?_, List.mem_singleton_self k⟩
    cases hrequesting.symm.trans hdone
  · cases hrequesting.symm.trans hdone

/-- **Every read is complete, once nothing gets lost any more.** However a FIFO network has treated
it before: after the timer of the server has expired once more while the client goes on, or if
nothing was lost at all, delivering what is under way, until nothing is, takes the read to its
end. -/
theorem read_completes (client : Clients.Settings MemoryFile)
    (server : Servers.Settings MemoryFile) (request : ReceivedTftpRequest) (serverV : Endpoint)
    (hclient : client.optionsConfiguration.BlockSizeInRange)
    (htimeout : client.optionsConfiguration.TimeoutInRange)
    (hhandler : client.optionNegotiationHandler = none) (hserver : server.Negotiable)
    (hsource : server.dataHandler.operationV = .transmit)
    (hrequest : request.clientOptions = client.readOptions)
    (haddress : serverV.address = client.remote.address) (hport : serverV ≠ client.remote)
    (before after : List (Transition (Transfer (Clients.ReadOperationImpl MemoryFile)
      (Servers.ReadOperationImpl MemoryFile)) NetworkEvent))
    (s t : Transfer (Clients.ReadOperationImpl MemoryFile) (Servers.ReadOperationImpl MemoryFile))
    (hbefore : Run (Transfer.step request.remote serverV)
      (Transfer.read client server request serverV) before s)
    (hafter : Run (Transfer.step request.remote serverV) s after t)
    (horder : ∀ u ∈ before, u.event.InOrder)
    (hnudges : ∀ u ∈ before.getLast?, u.pre.Nudges u.event)
    (hdelivers : ∀ u ∈ after, u.event.Delivers)
    (hreceiver : t.toReceiver = []) (hsender : t.toSender = []) :
    Completed server.dataHandler.dataV t := by
  have hrange : request.clientOptions.InRange := by
    rw [hrequest]
    exact inRange_requestedOptions hclient htimeout
  have hzero : request.clientOptions.transferSize = none ∨
      request.clientOptions.transferSize = some 0 := by
    rw [hrequest]
    exact client.transferSize_readOptions
  obtain ⟨k, hlive, hbuffer⟩ := live_read hserver hrange hzero hsource haddress hport
  have hagree := agreeing_read hclient htimeout hhandler hserver hrequest hbuffer
  exact hlive.completes hagree hbefore hafter horder (by rintro ⟨⟩) hnudges hdelivers hreceiver
    hsender

/-- The answer of the server and the second block get lost, and the first block is delivered twice
before the timer of the server expires again. -/
def disturbedRead : List NetworkEvent :=
  [.loseToReceiver 0, .senderTimeout, .toReceiver 0 true, .toReceiver 0 false, .toSender 0 false,
    .toReceiver 0 false, .toSender 0 false, .toSender 0 false, .loseToReceiver 0, .receiverTimeout,
    .senderTimeout]

/-- That read, up to the last expiry of the timer. -/
def nudgedRead :
    List (Transition (Transfer (Clients.ReadOperationImpl MemoryFile)
      (Servers.ReadOperationImpl MemoryFile)) NetworkEvent) ×
      Transfer (Clients.ReadOperationImpl MemoryFile) (Servers.ReadOperationImpl MemoryFile) :=
  replay (Transfer.step { port := 2 } { port := 1 })
    (Transfer.read smallReader smallSource smallReadRequest { port := 1 }) disturbedRead

/-- What is under way then is delivered. -/
def settledRead :
    List (Transition (Transfer (Clients.ReadOperationImpl MemoryFile)
      (Servers.ReadOperationImpl MemoryFile)) NetworkEvent) ×
      Transfer (Clients.ReadOperationImpl MemoryFile) (Servers.ReadOperationImpl MemoryFile) :=
  replay (Transfer.step { port := 2 } { port := 1 }) nudgedRead.2
    [.toSender 0 false, .toReceiver 0 false, .toSender 0 false]

/-- Two blocks arrive, in spite of all that. -/
theorem read_completes_two_blocks :
    Completed [97, 98, 99, 100, 101, 102, 103, 104, 105] settledRead.2 := by
  refine read_completes smallReader smallSource smallReadRequest { port := 1 } ?_ ?_ rfl ⟨?_, rfl⟩
    rfl rfl rfl (by decide) _ _ _ _ (Run.of_replay _ _ _) (Run.of_replay _ _ _)
    (Run.forall_replay (by decide)) ?_ (Run.forall_replay (by decide)) (by decide) (by decide)
  · rintro b ⟨⟩
    decide
  · rintro t ⟨⟩
  · rintro b ⟨⟩
    decide
  · decide

end Read

section Write

variable {client : Clients.Settings MemoryFile} {server : Servers.Settings MemoryFile}
  {request : ReceivedTftpRequest} {serverV : Endpoint}

variable (server request) in
/-- **A write is live at its start**: the answer of the server is under way. -/
theorem live_write (hadd : server.additionalNegotiatedOptions.Unobtrusive)
    (hsource : client.dataHandler.operationV = .transmit)
    (haddress : serverV.address = client.remote.address) (hport : serverV ≠ client.remote) :
    Live (writeSession client server request) serverV request.remote
        (Transfer.write client server request serverV).receiver.view
        (Transfer.write client server request serverV).sender.view
        (Transfer.write client server request serverV) 0 0 ∧
      (Transfer.write client server request serverV).sender.view.buffer = 516 := by
  obtain ⟨hlinked, hbuffer, hitems, hsender, hcases⟩ :=
    linked_write server request hadd hsource haddress hport
  -- a file in memory does not refuse anything
  obtain ⟨hacks, hreceiver⟩ := hcases.resolve_right (by rintro ⟨⟨_, _, ⟨⟩⟩, -⟩)
  obtain ⟨hwaiting, hnot⟩ := waits_write client server request serverV
  obtain ⟨-, hsends, -⟩ := sends_request server request hadd hsource haddress hport
  have hsending : (Transfer.write client server request serverV).sender.phase ≠ .done := by
    rcases hsends.phase_cases with ⟨hrequesting, -⟩ | hwaiting'
    · intro hdone
      cases hrequesting.symm.trans hdone
    · intro hdone
      cases hwaiting'.symm.trans hdone
  refine ⟨⟨hlinked, ⟨[], [0], (StopAndWait.Fifo.start hlinked.in_step).reack, hitems, hacks,
    by simp, fun _ => Or.inr ⟨rfl, List.mem_singleton_self 0⟩⟩, hreceiver, hsender,
    fun hdone => ?_, fun hdone => absurd hdone hsending, Conclusive.started hlinked hnot⟩, hbuffer⟩
  cases hwaiting.symm.trans hdone

/-- **Every write is complete, once nothing gets lost any more**, likewise. If it is the answer of
the server that was lost, the timer of the server is the right one. -/
theorem write_completes (client : Clients.Settings MemoryFile)
    (server : Servers.Settings MemoryFile) (request : ReceivedTftpRequest) (serverV : Endpoint)
    (hclient : client.optionsConfiguration.BlockSizeInRange)
    (htimeout : client.optionsConfiguration.TimeoutInRange)
    (hhandler : client.optionNegotiationHandler = none) (hserver : server.Negotiable)
    (hsource : client.dataHandler.operationV = .transmit)
    (hrequest : request.clientOptions = client.writeOptions)
    (haddress : serverV.address = client.remote.address) (hport : serverV ≠ client.remote)
    (before after : List (Transition (Transfer (Servers.WriteOperationImpl MemoryFile)
      (Clients.WriteOperationImpl MemoryFile)) NetworkEvent))
    (s t : Transfer (Servers.WriteOperationImpl MemoryFile) (Clients.WriteOperationImpl MemoryFile))
    (hbefore : Run (Transfer.step serverV request.remote)
      (Transfer.write client server request serverV) before s)
    (hafter : Run (Transfer.step serverV request.remote) s after t)
    (horder : ∀ u ∈ before, u.event.InOrder)
    (htime : ∀ u ∈ before ++ after, OptionsInTime u.pre u.event)
    (hnudges : ∀ u ∈ before.getLast?, u.pre.Nudges u.event)
    (hdelivers : ∀ u ∈ after, u.event.Delivers)
    (hreceiver : t.toReceiver = []) (hsender : t.toSender = []) :
    Completed client.dataHandler.dataV t := by
  have hadd : server.additionalNegotiatedOptions.Unobtrusive := by
    rw [hserver.additional]
    exact Options.unobtrusive_empty
  obtain ⟨hlive, hbuffer⟩ := live_write server request hadd hsource haddress hport
  have hagree := agreeing_write hclient htimeout hhandler hserver hrequest hbuffer
  exact hlive.completes hagree hbefore hafter horder (fun _ => htime) hnudges hdelivers hreceiver
    hsender

/-- The answer of the server gets lost, so that its own timer has to expire. -/
def nudgedWrite :
    List (Transition (Transfer (Servers.WriteOperationImpl MemoryFile)
      (Clients.WriteOperationImpl MemoryFile)) NetworkEvent) ×
      Transfer (Servers.WriteOperationImpl MemoryFile) (Clients.WriteOperationImpl MemoryFile) :=
  smallWrite [.loseToSender 0, .senderTimeout, .receiverTimeout]

/-- What is under way then is delivered. -/
def settledWrite :
    List (Transition (Transfer (Servers.WriteOperationImpl MemoryFile)
      (Clients.WriteOperationImpl MemoryFile)) NetworkEvent) ×
      Transfer (Servers.WriteOperationImpl MemoryFile) (Clients.WriteOperationImpl MemoryFile) :=
  replay (Transfer.step { port := 1 } { port := 2 }) nudgedWrite.2
    [.toSender 0 false, .toReceiver 0 false, .toSender 0 false, .toReceiver 0 false,
      .toSender 0 false]

/-- Two blocks are written. -/
theorem write_completes_two_blocks :
    Completed [97, 98, 99, 100, 101, 102, 103, 104, 105] settledWrite.2 := by
  refine write_completes smallWriter smallSink smallWriteRequest { port := 1 } ?_ ?_ rfl ⟨?_, rfl⟩
    rfl rfl rfl (by decide) nudgedWrite.1 settledWrite.1 nudgedWrite.2 _ (Run.of_replay _ _ _)
    (Run.of_replay _ _ _) (Run.forall_replay (by decide)) ?_ ?_ (Run.forall_replay (by decide))
    (by decide) (by decide)
  · rintro b ⟨⟩
    decide
  · rintro t ⟨⟩
  · rintro b ⟨⟩
    decide
  · decide
  · decide

end Write

end Tftp
