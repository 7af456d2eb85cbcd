import Tftp.Handling
import Tftp.Clients.ReadReceives
import Tftp.Files.MemoryFile

/-!
# After the first block the negotiation is over

The guard of `Tftp.Clients.ReadOperationImpl.optionsAcknowledgementPacket` asks whether the
block counter is zero. Since the counter never shows zero again once it has moved, however
often it rolls over, the guard holds from the first block on: size and timeout stay what they
are, and an acknowledgement of options that comes later ends the transfer.
-/

namespace Tftp

open Operation Protocol

section Reaction

variable {v v' : ReceiverView} {p p' : Phase} {e : PeerEvent} {acts : List Action}

theorem receivedTransferSize_notMem_completion (reports : Bool) (status : TransferStatus)
    (n : UInt64) : .receivedTransferSize n ∉ Action.completion reports status := by
  cases reports <;> simp [Action.completion]

theorem receivedTransferSize_notMem_closing (v : ReceiverView) (data : RawData) (n : UInt64) :
    .receivedTransferSize n ∉ v.closing data := by
  rw [ReceiverView.closing]
  split_ifs
  · exact receivedTransferSize_notMem_completion _ _ n
  · simp

/-- **Whoever has received a block, or receives one, negotiates no more.** -/
theorem ReceiverReaction.frozen (h : ReceiverReaction v p e acts p' v')
    (hlate : v.block ≠ 0 ∨ deliveries acts ≠ []) :
    v'.dataSize = v.dataSize ∧ v'.timeout = v.timeout ∧
      ∀ n, .receivedTransferSize n ∉ acts := by
  cases h with
  | idle | foreign | resend => exact ⟨rfl, rfl, by simp⟩
  | expire | dallied => exact ⟨rfl, rfl, receivedTransferSize_notMem_completion _ _⟩
  | received source rawPacket hphase hstep =>
    generalize PacketHandler.packet (rawPacket.take v.buffer) = r at hstep
    cases hstep with
    | repeated data =>
      refine ⟨rfl, rfl, fun n hn => ?_⟩
      exact receivedTransferSize_notMem_closing v data n (by simpa using hn)
    | accepted calls data hcalls hsize =>
      refine ⟨rfl, rfl, fun n hn => ?_⟩
      have hmem : .receivedTransferSize n ∈ calls ∨ .receivedTransferSize n ∈ v.closing data := by
        simpa using hn
      rcases hmem with hn | hn
      · rcases hcalls with rfl | ⟨-, options, rfl⟩ <;> simp at hn
      · exact receivedTransferSize_notMem_closing v data n hn
    | negotiated calls options timeout hcalls hblock =>
      rcases hlate with hne | hne
      · exact absurd hblock hne
      · exact absurd (by simp [deliveries_negotiation hcalls]) hne
    | failed _ calls errors status size timeout packet counter hcalls hfailure hsettings hdata =>
      have hnone : deliveries (calls ++ errors ++ v.completion status) = [] := by
        rcases hfailure.errors_cases with rfl | ⟨code, message, rfl⟩ <;>
          simp [deliveries_negotiation hcalls, ReceiverView.completion]
      obtain ⟨hcalls', hsize, htimeout⟩ :=
        hsettings.resolve_right (hlate.resolve_right (not_not.mpr hnone))
      refine ⟨hsize, htimeout, fun n hn => ?_⟩
      have hmem : .receivedTransferSize n ∈ calls ∨ .receivedTransferSize n ∈ errors ∨
          .receivedTransferSize n ∈ v.completion status := by
        simpa [or_assoc] using hn
      rcases hmem with hn | hn | hn
      · rcases hcalls' with rfl | ⟨-, options, rfl⟩ <;> simp at hn
      · rcases hfailure.errors_cases with rfl | ⟨code, message, rfl⟩ <;> simp at hn
      · exact receivedTransferSize_notMem_completion _ _ n hn

/-- What a datagram with the opcode of an acknowledgement of options is to the handlers, when
it has been cut to the receive buffer. -/
theorem received_of_packetType {rawPacket : RawData} (n : ℕ)
    (h : Packet.packetType rawPacket = .optionsAcknowledgement) :
    PacketHandler.packet (rawPacket.take n) = .invalid ∨
      ∃ options, PacketHandler.packet (rawPacket.take n) =
        .packet (.optionsAcknowledgement options) := by
  have htype : Packet.packetType (rawPacket.take n) = .invalid ∨
      Packet.packetType (rawPacket.take n) = .optionsAcknowledgement := by
    -- less than an opcode may be left
    rcases n with _ | _ | n
    · exact Or.inl rfl
    · rcases rawPacket with _ | ⟨high, rest⟩ <;> exact Or.inl rfl
    · rcases rawPacket with _ | ⟨high, _ | ⟨low, rest⟩⟩
      · exact Or.inl rfl
      · exact Or.inl rfl
      · exact Or.inr h
  cases hr : PacketHandler.packet (rawPacket.take n) with
  | invalid => exact Or.inl rfl
  | packet p =>
    have hp := PacketHandler.type_eq hr
    cases p with
    | optionsAcknowledgement options => exact Or.inr ⟨options, rfl⟩
    | readRequest | writeRequest | data | acknowledgement | error =>
      rcases htype with ht | ht <;> exact absurd (ht.symm.trans hp) (by simp [Packet.type])

/-- **A late acknowledgement of options ends the transfer**, with one ERROR packet. -/
theorem ReceiverReaction.late_options (h : ReceiverReaction v p e acts p' v')
    (hblock : v.block ≠ 0) {source : Endpoint} {rawPacket : RawData}
    (he : e = .datagram source rawPacket) (hadmits : p.admits source)
    (htype : Packet.packetType rawPacket = .optionsAcknowledgement) :
    ∃ message, acts = .send (Packet.error .illegalTftpOperation message).encode source ::
      v.completion .transferError ∧ p' = .done := by
  subst he
  have hstep := h.step hadmits
  generalize hr : PacketHandler.packet (rawPacket.take v.buffer) = r at hstep
  have hcases : r = .invalid ∨ ∃ options, r = .packet (.optionsAcknowledgement options) := by
    rw [← hr]
    exact received_of_packetType v.buffer htype
  have hneg : ¬ v.Negotiating r := by
    rintro (⟨-, n, data, heq⟩ | ⟨hzero, -⟩)
    · rcases hcases with rfl | ⟨options, rfl⟩ <;> cases heq
    · exact hblock hzero
  have hnot : ∀ code message, r ≠ .packet (.error code message) := by
    rcases hcases with rfl | ⟨options, rfl⟩ <;> rintro _ _ ⟨⟩
  cases hstep with
  | repeated data => rcases hcases with heq | ⟨options, heq⟩ <;> cases heq
  | accepted calls data => rcases hcases with heq | ⟨options, heq⟩ <;> cases heq
  | negotiated calls _ timeout hcalls hzero => exact absurd hzero hblock
  | failed _ calls errors status size timeout packet counter hcalls hfailure hsettings hdata =>
    -- it is rejected before any handler is called
    obtain rfl : calls = [] :=
      (hsettings.resolve_right hblock).calls_eq.resolve_right fun h => hneg h.1
    cases hfailure with
    | reported code message => exact absurd rfl (hnot code message)
    | rejected _ code message _ hpacket hstatus hillegal =>
      obtain ⟨rfl, rfl⟩ := hillegal.resolve_right hneg
      exact ⟨message, rfl, rfl⟩

end Reaction

namespace Clients.ReadOperationImpl

variable {δ : Type} [ReceiveDataHandler δ] {init s : ReadOperationImpl δ}
  {history : List (Transition (ReadOperationImpl δ) PeerEvent)}

/-- **The negotiation is over** once a block has been passed to the data handler. -/
structure Frozen (init : ReadOperationImpl δ)
    (history : List (Transition (ReadOperationImpl δ) PeerEvent)) : Prop where
  /-- The event that delivers the first block and all later ones leave size and timeout
  alone, and the data handler hears of no transfer size. -/
  parameters : ∀ before t after, history = before ++ t :: after →
    deliveries (trace actions init before ++ actions t.post) ≠ [] →
      t.post.receiveDataSize = t.pre.receiveDataSize ∧
        t.post.receiveTimeoutV = t.pre.receiveTimeoutV ∧
        ∀ n, .receivedTransferSize n ∉ actions t.post
  /-- A datagram with the opcode of an acknowledgement of options that comes afterwards is
  answered with one ERROR packet, and nothing happens after it. -/
  options : ∀ before t after, history = before ++ t :: after →
    deliveries (trace actions init before) ≠ [] → ∀ source rawPacket,
      t.event = .datagram source rawPacket → t.pre.phase.admits source →
      Packet.packetType rawPacket = .optionsAcknowledgement →
      (∃ message, actions t.post =
        .send (Packet.error .illegalTftpOperation message).encode source ::
          t.pre.completion .transferError) ∧
        ∀ u ∈ after, actions u.post = []

theorem frozen_run (hset : (base init).Settled)
    (hstart : ReceiverStart (actions init) (base init).phase (ReceivingOperation.view init))
    (hrun : Run peerStep init history s) : Frozen init history := by
  have hat := ReceivingOperation.reaction_at hset hstart hrun
  -- the counter has left zero with the first block
  have hblock : ∀ {T : List Action} {t : ReadOperationImpl δ}, Delivered T t.phase t.view →
      deliveries T ≠ [] → t.view.block ≠ 0 := by
    intro T t hdel hne
    rw [hdel.block_eq, Ne, BlockNumber.bn_eq_zero, List.length_eq_zero_iff]
    exact hne
  constructor
  · intro before t after heq hne
    obtain ⟨hdel, hreaction⟩ := hat before t after heq
    refine hreaction.frozen ?_
    rw [deliveries_append, Ne, List.append_eq_nil_iff, not_and_or] at hne
    exact hne.imp_left (hblock hdel)
  · intro before t after heq hne source rawPacket he hadmits htype
    obtain ⟨hdel, hreaction⟩ := hat before t after heq
    obtain ⟨message, hact, hdone⟩ :=
      hreaction.late_options (hblock hdel hne) he hadmits htype
    exact ⟨⟨message, hact⟩, (silent_after_done hset hrun before t after heq hdone).1⟩

/-- **The negotiated parameters are frozen** after the first block, whatever the server
sends. -/
theorem parameters_frozen (settings : Settings δ) :
    ∀ history s, Run peerStep ((configured settings).request {}) history s →
      Frozen ((configured settings).request {}) history := by
  intro history s hrun
  obtain ⟨hset, hstart⟩ := receiverStart_request (idle_configured settings) rfl
  exact frozen_run hset hstart hrun

/-- A server that acknowledges options after the first block. -/
def lateOptions : List PeerEvent :=
  [.datagram {} (Packet.data 1 [97]).encode,
    .datagram {} [0, 6, 116, 115, 105, 122, 101, 0, 49, 0]]

/-- A client that has sent its request, and will dally. -/
def requestingClient : ReadOperationImpl MemoryFile :=
  (configured { dally := true, dataHandler := .empty }).request {}

/-- The options come too late: the transfer fails. -/
theorem parameters_frozen_late_options :
    Frozen requestingClient (replay peerStep requestingClient lateOptions).1 ∧
      .finished .transferError ∈ actions (replay peerStep requestingClient lateOptions).2 :=
  ⟨parameters_frozen { dally := true, dataHandler := MemoryFile.empty } _ _ (Run.of_replay _ _ _),
    by decide⟩

end Clients.ReadOperationImpl

end Tftp
