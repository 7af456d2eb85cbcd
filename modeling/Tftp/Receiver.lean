import Tftp.Phases

/-!
# The receiving side

The client of a read and the server of a write receive a file with the same engine. What
it works on is a `Tftp.ReceiverView` – the last block number, the size of a full block,
the stored packet – and what it can do with a packet is one of the four cases of
`Tftp.ReceiverStep`: a repetition is acknowledged again, the next block is accepted, an
acknowledgement of options is taken over, or the operation fails.

`Tftp.ReceivingOperation` is the interface, with the law that the packet handlers do
one of these; the two instances are the proofs that both copies of the engine do.
Everything about a receiver is then proved once, for any instance.
-/

namespace Tftp

open OperationImpl

/-- What the receiving engine works on. -/
structure ReceiverView where
  /-- The number of the last block received. -/
  block : BlockNumber
  /-- The size of a full block. -/
  dataSize : UInt16
  dally : Bool
  /-- Whether an option negotiation handler is registered. -/
  negotiates : Bool
  /-- Whether a completion handler is registered. -/
  reports : Bool
  /-- The receive timeout. -/
  timeout : ℤ
  /-- How often a packet is sent again. -/
  retries : UInt16
  /-- The stored packet. -/
  packet : RawData
  /-- How often the stored packet has been sent. -/
  counter : UInt32
  /-- The size of the receive buffer. -/
  buffer : ℕ
  /-- Where the request goes to. -/
  remote : Endpoint
  /-- The configuration of the options. -/
  configuration : TftpOptionsConfiguration

namespace ReceiverView

/-- What is reported when the operation is over. -/
def completion (v : ReceiverView) (status : TransferStatus) : List Action :=
  Action.completion v.reports status

/-- A packet has been sent. -/
def sent (v : ReceiverView) (packet : Packet) : ReceiverView :=
  { v with packet := packet.encode, counter := 1 }

@[simp] theorem sent_block (v : ReceiverView) (packet : Packet) :
    (v.sent packet).block = v.block := rfl

@[simp] theorem sent_packet (v : ReceiverView) (packet : Packet) :
    (v.sent packet).packet = packet.encode := rfl

/-- Whether a block tells the end of the file. -/
def short (v : ReceiverView) (data : RawData) : Bool := decide (data.length < v.dataSize.toNat)

/-- What is reported after a block was acknowledged. -/
def closing (v : ReceiverView) (data : RawData) : List Action :=
  if v.short data && !v.dally then v.completion .successful else []

/-- The phase after a block was acknowledged. -/
def phaseAfter (v : ReceiverView) (peer : Endpoint) (data : RawData) : Phase :=
  Phase.afterData (v.short data) v.dally peer

end ReceiverView

/-- The calls of handlers that option negotiation makes. -/
def Negotiation (calls : List Action) : Prop :=
  ∀ a ∈ calls, (∃ options, a = .optionNegotiation options) ∨ ∃ n, a = .receivedTransferSize n

/-- A packet that takes part in the option negotiation: it can be rejected for its options. -/
def ReceiverView.Negotiating (v : ReceiverView) (r : Received) : Prop :=
  v.negotiates = true ∧ (∃ n data, r = .packet (.data n data)) ∨
    v.block = 0 ∧ ∃ options, r = .packet (.optionsAcknowledgement options)

/-- Nothing was negotiated: the handler is at most told that there is nothing. -/
structure ReceiverView.Unchanged (v : ReceiverView) (r : Received) (calls : List Action)
    (size : UInt16) (timeout : ℤ) : Prop where
  calls_eq : calls = [] ∨ v.Negotiating r ∧ ∃ options, calls = [.optionNegotiation options]
  size_eq : size = v.dataSize
  timeout_eq : timeout = v.timeout

/-- **What a receiver does with a packet of its peer**: the actions, the phase and the
view afterwards. -/
inductive ReceiverStep (v : ReceiverView) (peer : Endpoint) :
    Received → List Action → Phase → ReceiverView → Prop
  /-- The last block again: it is acknowledged again. -/
  | repeated (data : RawData) :
      ReceiverStep v peer (.packet (.data v.block data))
        (.send (Packet.acknowledgement v.block).encode peer :: v.closing data)
        (v.phaseAfter peer data) (v.sent (.acknowledgement v.block))
  /-- The next block: it is passed on and acknowledged. -/
  | accepted (calls : List Action) (data : RawData)
      (hcalls : calls = [] ∨ v.negotiates ∧ ∃ options, calls = [.optionNegotiation options])
      (hsize : data.length ≤ v.dataSize.toNat) :
      ReceiverStep v peer (.packet (.data v.block.next data))
        (calls ++ .receivedData data ::
          .send (Packet.acknowledgement v.block.next).encode peer :: v.closing data)
        (v.phaseAfter peer data)
        ({ v with block := v.block.next }.sent (.acknowledgement v.block.next))
  /-- Options are taken over before the first block. -/
  | negotiated (calls : List Action) (options : Options) (timeout : ℤ)
      (hcalls : Negotiation calls) (hblock : v.block = 0) :
      ReceiverStep v peer (.packet (.optionsAcknowledgement options))
        (calls ++ [.send (Packet.acknowledgement 0).encode peer]) (.waiting peer)
        ({ v with
          dataSize := ((options.getOption 16 (tftpOptionsName .blockSize) blockSizeOptionMin
            blockSizeOptionMax).1.2.map UInt16.ofNat).getD v.dataSize
          timeout := timeout }.sent (.acknowledgement 0))
  /-- Anything else ends the operation, and not with success. -/
  | failed (r : Received) (calls errors : List Action) (status : TransferStatus) (size : UInt16)
      (timeout : ℤ) (packet : RawData) (counter : UInt32) (hcalls : Negotiation calls)
      (hfailure : Failure peer v.packet v.counter (v.Negotiating r) r errors status packet counter)
      (hsettings : v.Unchanged r calls size timeout ∨ v.block = 0)
      (hdata : ∀ n data, r = .packet (.data n data) → n ≠ v.block ∧
        (n = v.block.next → data.length ≤ v.dataSize.toNat → v.negotiates)) :
      ReceiverStep v peer r (calls ++ errors ++ v.completion status) .done
        { v with dataSize := size, timeout := timeout, packet := packet, counter := counter }

theorem ReceiverStep.of_eq {v v' v'' : ReceiverView} {peer : Endpoint} {r : Received}
    {a a' : List Action} {p p' : Phase} (h : ReceiverStep v peer r a p v') (ha : a' = a)
    (hp : p' = p) (hv : v'' = v') : ReceiverStep v peer r a' p' v'' := by
  subst ha hp hv
  exact h

/-- An operation that receives a file. -/
class ReceivingOperation (σ : Type) (δ : outParam Type) [DataHandler δ] extends
    Operation σ δ where
  /-- What the engine works on in a state. -/
  view : σ → ReceiverView
  view_withBase : ∀ s b, view (withBase s b) =
    { view s with
      reports := b.completionHandlerV
      timeout := b.receiveTimeoutV
      retries := b.tftpRetriesV
      packet := b.transmitPacketV
      counter := b.transmitCounterV
      buffer := b.receivePacketV
      remote := b.remoteV }
  /-- The handlers do what `Tftp.ReceiverStep` says. -/
  received_step : ∀ s peer r, (base s).Ready peer → (base s).actions = [] →
    (base (received s {} r)).Settled ∧
      ReceiverStep (view s) peer r (base (received s {} r)).actions
        (base (received s {} r)).phase (view (received s {} r))

/-- **What a receiver does in the course of an event**, given the phase it is in. -/
inductive ReceiverReaction (v : ReceiverView) (p : Phase) :
    PeerEvent → List Action → Phase → ReceiverView → Prop
  | idle (e : PeerEvent)
      (hidle : p = .done ∨ ∃ peer source rawPacket, (p = .waiting peer ∨ p = .dallying peer) ∧
        source ≠ peer ∧ e = .datagram source rawPacket) :
      ReceiverReaction v p e [] p v
  | foreign (server : Address) (source : Endpoint) (rawPacket : RawData)
      (hphase : p = .requesting server) (hsource : source.address ≠ server) :
      ReceiverReaction v p (.datagram source rawPacket)
        [.sendUnknown (Packet.error .unknownTransferId (ascii "Packet from wrong source")).encode
          source] p v
  | resend (destination : Endpoint)
      (hphase : (∃ server, p = .requesting server) ∧ destination = v.remote ∨
        p = .waiting destination) (hretries : v.counter.toNat ≤ v.retries.toNat) :
      ReceiverReaction v p .timeout [.resend v.packet destination] p
        { v with counter := v.counter + 1 }
  | expire (hphase : (∃ server, p = .requesting server) ∨ ∃ peer, p = .waiting peer)
      (hretries : v.retries.toNat < v.counter.toNat) :
      ReceiverReaction v p .timeout (v.completion .communicationError) .done v
  | dallied (peer : Endpoint) (hphase : p = .dallying peer) :
      ReceiverReaction v p .timeout (v.completion .successful) .done v
  | received (source : Endpoint) (rawPacket : RawData) {actions : List Action} {p' : Phase}
      {v' : ReceiverView} (hphase : p.admits source)
      (hstep : ReceiverStep v source (PacketHandler.packet (rawPacket.take v.buffer)) actions p'
        v') :
      ReceiverReaction v p (.datagram source rawPacket) actions p' v'

section Reaction

variable {v v' : ReceiverView} {p p' : Phase} {acts : List Action}

/-- **A datagram that the phase admits is handled.** -/
theorem ReceiverReaction.step {source : Endpoint} {rawPacket : RawData}
    (h : ReceiverReaction v p (.datagram source rawPacket) acts p' v')
    (hadmits : p.admits source) :
    ReceiverStep v source (PacketHandler.packet (rawPacket.take v.buffer)) acts p' v' := by
  generalize he : PeerEvent.datagram source rawPacket = e at h
  cases h with
  | idle _ hidle =>
    subst he
    exact absurd hidle (Operation.not_idle_of_admits hadmits)
  | foreign server _ _ hphase hsource =>
    cases he
    rw [hphase] at hadmits
    exact absurd hadmits hsource
  | resend | expire | dallied => cases he
  | received _ _ _ hstep =>
    cases he
    exact hstep

/-- Nothing happens to a receiver that is over. -/
theorem ReceiverReaction.over {e : PeerEvent} (h : ReceiverReaction v .done e acts p' v') :
    acts = [] ∧ p' = .done := by
  generalize hp : Phase.done = p at h
  cases h with
  | idle => exact ⟨rfl, rfl⟩
  | foreign server source rawPacket hphase hsource =>
    rw [hphase] at hp
    cases hp
  | resend destination hphase hretries =>
    subst hp
    simp at hphase
  | expire hphase hretries =>
    subst hp
    simp at hphase
  | dallied peer hphase =>
    rw [hphase] at hp
    cases hp
  | received source rawPacket hphase hstep => exact absurd hp.symm (admits_ne_done hphase)

end Reaction

namespace ReceivingOperation

open Operation

variable {σ δ : Type} [DataHandler δ] [ReceivingOperation σ δ] {s : σ}

/-- A change of the shared part that leaves settings, stored packet and counter alone leaves
the view alone. -/
theorem view_same {b : OperationImpl δ} (hset : (base s).SameSettings b)
    (hpacket : b.transmitPacketV = (base s).transmitPacketV)
    (hcounter : b.transmitCounterV = (base s).transmitCounterV) :
    view (withBase s b) = view s := by
  rw [view_withBase, hset.reports, hset.buffer, hset.remote, hset.timeout, hset.retries, hpacket,
    hcounter, ← view_withBase, withBase_base]

/-- What the view shows of the shared part. -/
theorem view_base (s : σ) : view s =
    { view s with
      reports := (base s).completionHandlerV
      timeout := (base s).receiveTimeoutV
      retries := (base s).tftpRetriesV
      packet := (base s).transmitPacketV
      counter := (base s).transmitCounterV
      buffer := (base s).receivePacketV
      remote := (base s).remoteV } := by
  conv_lhs => rw [← withBase_base s, view_withBase]

theorem view_reports (s : σ) : (view s).reports = (base s).completionHandlerV := by
  rw [view_base s]

theorem view_packet (s : σ) : (view s).packet = (base s).transmitPacketV := by
  rw [view_base s]

theorem view_counter (s : σ) : (view s).counter = (base s).transmitCounterV := by
  rw [view_base s]

theorem view_retries (s : σ) : (view s).retries = (base s).tftpRetriesV := by
  rw [view_base s]

theorem view_buffer (s : σ) : (view s).buffer = (base s).receivePacketV := by
  rw [view_base s]

theorem view_remote (s : σ) : (view s).remote = (base s).remoteV := by
  rw [view_base s]

/-- The stored packet was sent again: the view counts it. -/
theorem view_resent (s : σ) (destination : Endpoint) :
    view (withBase s ((base s).cleared.resent destination)) =
      { view s with counter := (view s).counter + 1 } := by
  rw [view_withBase, view_base s]
  rfl

/-- **A settled receiver settles again, having done what `Tftp.ReceiverReaction` says.** -/
theorem receiverReaction (h : (base s).Settled) (e : PeerEvent) :
    (base (peerStep s e)).Settled ∧
      ReceiverReaction (view s) (base s).phase e (Operation.actions (peerStep s e))
        (base (peerStep s e)).phase (view (peerStep s e)) := by
  generalize hs' : peerStep s e = s'
  have hr := Operation.reaction h e
  rw [hs'] at hr
  cases hr with
  | idle _ hidle =>
    rw [Operation.actions, base_withBase, view_same]
    · exact ⟨h, .idle e hidle⟩
    · exact ⟨rfl, rfl, rfl, rfl, rfl⟩
    all_goals rfl
  | foreign server source rawPacket hphase hsource =>
    rw [Operation.actions, base_withBase, view_same]
    · exact ⟨h, .foreign server source rawPacket hphase hsource⟩
    · exact ⟨rfl, rfl, rfl, rfl, rfl⟩
    all_goals rfl
  | resend destination hphase hretries =>
    have hact : ((base s).cleared.resent destination).actions =
        [.resend (view s).packet destination] := by
      rw [view_packet]
      rfl
    rw [Operation.actions, base_withBase, view_resent, phase_resent, hact]
    exact ⟨settled_resent h destination, .resend destination (by rwa [view_remote])
      (by rwa [view_counter, view_retries])⟩
  | expire hphase hretries =>
    have hw := settled_completed (s := (base s).cleared) h.1 .communicationError none
    rw [Operation.actions, base_withBase, view_same, hw.2]
    · refine ⟨hw.1, ?_⟩
      have hr := ReceiverReaction.expire (v := view s) hphase (by rwa [view_counter, view_retries])
      rw [ReceiverView.completion, view_reports] at hr
      exact hr
    · exact ⟨rfl, rfl, rfl, rfl, rfl⟩
    all_goals rfl
  | dallied peer hphase =>
    have hw := settled_completed (s := (base s).cleared) h.1 .successful none
    rw [Operation.actions, base_withBase, view_same, hw.2]
    · refine ⟨hw.1, ?_⟩
      have hr := ReceiverReaction.dallied (v := view s) peer hphase
      rw [ReceiverView.completion, view_reports] at hr
      exact hr
    · exact ⟨rfl, rfl, rfl, rfl, rfl⟩
    all_goals rfl
  | received source lastEndpoint rawPacket hphase hready =>
    have hstep := received_step (withBase s ((base s).takenUp source lastEndpoint)) source
      (PacketHandler.packet (rawPacket.take (base s).receivePacketV))
      (by rw [base_withBase]; exact hready) (by rw [base_withBase]; rfl)
    rw [view_same (b := (base s).takenUp source lastEndpoint) ⟨rfl, rfl, rfl, rfl, rfl⟩ rfl
      rfl] at hstep
    refine ⟨hstep.1, .received source rawPacket hphase ?_⟩
    rw [view_buffer]
    exact hstep.2

end ReceivingOperation

end Tftp
