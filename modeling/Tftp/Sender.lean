import Tftp.Phases

/-!
# The transmitting side

The client of a write and the server of a read transmit a file with the same engine. What
it works on is a `Tftp.SenderView` – the number of the last block sent, the last number
acknowledged, whether the last block was the end of the file – and what it can do with a
packet is one of the five cases of `Tftp.SenderStep`: a repeated acknowledgement is
ignored, the acknowledgement of the last block sent asks for the next one or ends the
transfer, an acknowledgement of options is taken over, or the operation fails.

`Tftp.SendingOperation` is the interface, with the law that the packet handlers do one of
these; the two instances are the proofs that both copies of the engine do.
-/

namespace Tftp

open OperationImpl Protocol

/-- What the transmitting engine works on. -/
structure SenderView (δ : Type) where
  /-- The number of the last block sent. -/
  transmitted : BlockNumber
  /-- The last number that was acknowledged. -/
  received : BlockNumber
  /-- The size of a full block. -/
  dataSize : UInt16
  /-- The receive timeout. -/
  timeout : ℤ
  /-- Whether the last block sent was the end of the file. -/
  last : Bool
  /-- Whether it is this side that takes over the options. -/
  takesOptions : Bool
  /-- The option negotiation handler, if one is registered. -/
  negotiation : Option (OptionNegotiationHandler δ)
  /-- Whether a completion handler is registered. -/
  reports : Bool
  /-- How often a packet is sent again. -/
  retries : UInt16
  /-- The stored packet. -/
  packet : RawData
  /-- How often the stored packet has been sent. -/
  counter : UInt32
  /-- The size of the receive buffer. -/
  buffer : ℕ
  /-- Where the request goes to. -/
  remote : Endpoint
  /-- The configuration of the options. -/
  configuration : TftpOptionsConfiguration
  /-- The transfer size in the request, if it is this side that sends it. -/
  transferSize : Option UInt64
  /-- The data handler. -/
  handler : δ

namespace SenderView

variable {δ : Type}

/-- What is reported when the operation is over. -/
def completion (v : SenderView δ) (status : TransferStatus) : List Action :=
  Action.completion v.reports status

/-- The option negotiation handler is asked about the options, if there is one: the calls
made, and the data handler afterwards. -/
def Consulted (v : SenderView δ) (options : Options) (calls : List Action) (state : δ) : Prop :=
  calls = [] ∧ state = v.handler ∨
    (∃ g, v.negotiation = some g ∧ state = (g v.handler options).2.2) ∧
      calls = [.optionNegotiation options]

/-- The calls made on an acknowledgement: the option negotiation handler learns from the
acknowledgement of block zero that the options were ignored. -/
def Acknowledged (v : SenderView δ) (calls : List Action) (state : δ) : Prop :=
  calls = [] ∧ state = v.handler ∨
    v.transmitted = 0 ∧ v.Consulted SortedMap.empty calls state

/-- The last block sent has been acknowledged. -/
def acknowledged (v : SenderView δ) (state : δ) : SenderView δ :=
  { v with received := v.transmitted, handler := state }

/-- A packet that takes part in the option negotiation: it can be rejected for its options. -/
def Negotiating (v : SenderView δ) (r : Received) : Prop :=
  v.negotiation.isSome ∧ (∃ n, r = .packet (.acknowledgement n)) ∨
    v.takesOptions = true ∧ v.received = 0xFFFF ∧
      ∃ options, r = .packet (.optionsAcknowledgement options)

/-- Options have been taken over. -/
def negotiated (v : SenderView δ) (dataSize : UInt16) (timeout : ℤ) (state : δ) :
    SenderView δ :=
  { v with dataSize := dataSize, timeout := timeout, handler := state }

variable [TransmitDataHandler δ]

/-- The next block. -/
def block (v : SenderView δ) : RawData :=
  (TransmitDataHandler.sendData v.handler v.dataSize.toNat).1

/-- The next block is taken from the data handler and sent. -/
def sending (v : SenderView δ) (peer : Endpoint) : List Action :=
  [.sendData v.dataSize.toNat v.block,
    .send (Packet.data v.transmitted.next v.block).encode peer]

/-- The next block has been sent. -/
def advanced (v : SenderView δ) : SenderView δ :=
  { v with
    transmitted := v.transmitted.next
    last := if v.block.length < v.dataSize.toNat then true else v.last
    packet := (Packet.data v.transmitted.next v.block).encode
    counter := 1
    handler := (TransmitDataHandler.sendData v.handler v.dataSize.toNat).2 }

end SenderView

/-- **What a sender does with a packet of its peer**: the actions, the phase and the view
afterwards. -/
inductive SenderStep {δ : Type} [TransmitDataHandler δ] (v : SenderView δ) (peer : Endpoint) :
    Received → List Action → Phase → SenderView δ → Prop
  /-- The last acknowledgement again: it is ignored. -/
  | repeated : SenderStep v peer (.packet (.acknowledgement v.received)) [] (.waiting peer) v
  /-- The last block is acknowledged: the next one is sent. -/
  | next (calls : List Action) (state : δ) (hcalls : v.Acknowledged calls state)
      (hne : v.transmitted ≠ v.received) (hlast : v.last = false) :
      SenderStep v peer (.packet (.acknowledgement v.transmitted))
        (calls ++ (v.acknowledged state).sending peer) (.waiting peer)
        (v.acknowledged state).advanced
  /-- The end of the file is acknowledged: the transfer is over. -/
  | completed (calls : List Action) (state : δ) (hcalls : v.Acknowledged calls state)
      (hne : v.transmitted ≠ v.received) (hlast : v.last = true) :
      SenderStep v peer (.packet (.acknowledgement v.transmitted))
        (calls ++ v.completion .successful) .done
        (v.acknowledged (DataHandler.finished state))
  /-- Options are taken over, and the next block is sent. -/
  | negotiated (calls : List Action) (state : δ) (options remaining : Options) (size : UInt16)
      (timeout : ℤ) (htakes : v.takesOptions = true) (hreceived : v.received = 0xFFFF)
      (hcalls : v.Consulted remaining calls state)
      (hsize : size = ((options.getOption 16 (tftpOptionsName .blockSize) blockSizeOptionMin
        blockSizeOptionMax).1.2.map UInt16.ofNat).getD v.dataSize) :
      SenderStep v peer (.packet (.optionsAcknowledgement options))
        (calls ++ (v.negotiated size timeout state).sending peer) (.waiting peer)
        (v.negotiated size timeout state).advanced
  /-- Anything else ends the operation, and not with success. -/
  | failed (r : Received) (calls errors : List Action) (status : TransferStatus)
      (v' : SenderView δ) (hcalls : calls = [] ∨ ∃ options, calls = [.optionNegotiation options])
      (hfailure : Failure peer v.packet v.counter (v.Negotiating r) r errors status v'.packet
        v'.counter)
      (hretries : v'.retries = v.retries) (htransmitted : v'.transmitted = v.transmitted)
      (hlast : v'.last = v.last)
      (hsettings : calls = [] ∧ v'.dataSize = v.dataSize ∧ v'.timeout = v.timeout ∨
        v.received = 0xFFFF ∨ v.transmitted = 0)
      (hack : ∀ n, r = .packet (.acknowledgement n) → n ≠ v.received ∧
        (n = v.transmitted → v.transmitted = 0 ∧ v.negotiation.isSome)) :
      SenderStep v peer r (calls ++ errors ++ v.completion status) .done v'

theorem SenderStep.of_eq {δ : Type} [TransmitDataHandler δ] {v v' v'' : SenderView δ}
    {peer : Endpoint} {r : Received} {a a' : List Action} {p p' : Phase}
    (h : SenderStep v peer r a p v') (ha : a' = a) (hp : p' = p) (hv : v'' = v') :
    SenderStep v peer r a' p' v'' := by
  subst ha hp hv
  exact h

/-- An operation that transmits a file. -/
class SendingOperation (σ : Type) (δ : outParam Type) [TransmitDataHandler δ] extends
    Operation σ δ where
  /-- What the engine works on in a state. -/
  view : σ → SenderView δ
  view_withBase : ∀ s b, view (withBase s b) =
    { view s with
      timeout := b.receiveTimeoutV
      reports := b.completionHandlerV
      retries := b.tftpRetriesV
      packet := b.transmitPacketV
      counter := b.transmitCounterV
      buffer := b.receivePacketV
      remote := b.remoteV
      handler := b.dataHandlerV }
  /-- The handlers do what `Tftp.SenderStep` says. -/
  received_step : ∀ s peer r, (base s).Ready peer → (base s).actions = [] →
    (base (received s {} r)).Settled ∧
      SenderStep (view s) peer r (base (received s {} r)).actions
        (base (received s {} r)).phase (view (received s {} r))

/-- **What a sender does in the course of an event**, given the phase it is in. -/
inductive SenderReaction {δ : Type} [TransmitDataHandler δ] (v : SenderView δ) (p : Phase) :
    PeerEvent → List Action → Phase → SenderView δ → Prop
  | idle (e : PeerEvent)
      (hidle : p = .done ∨ ∃ peer source rawPacket, (p = .waiting peer ∨ p = .dallying peer) ∧
        source ≠ peer ∧ e = .datagram source rawPacket) :
      SenderReaction v p e [] p v
  | foreign (server : Address) (source : Endpoint) (rawPacket : RawData)
      (hphase : p = .requesting server) (hsource : source.address ≠ server) :
      SenderReaction v p (.datagram source rawPacket)
        [.sendUnknown (Packet.error .unknownTransferId (ascii "Packet from wrong source")).encode
          source] p v
  | resend (destination : Endpoint)
      (hphase : (∃ server, p = .requesting server) ∧ destination = v.remote ∨
        p = .waiting destination) (hretries : v.counter.toNat ≤ v.retries.toNat) :
      SenderReaction v p .timeout [.resend v.packet destination] p
        { v with counter := v.counter + 1 }
  | expire (hphase : (∃ server, p = .requesting server) ∨ ∃ peer, p = .waiting peer)
      (hretries : v.retries.toNat < v.counter.toNat) :
      SenderReaction v p .timeout (v.completion .communicationError) .done
        { v with handler := DataHandler.finished v.handler }
  | dallied (peer : Endpoint) (hphase : p = .dallying peer) :
      SenderReaction v p .timeout (v.completion .successful) .done
        { v with handler := DataHandler.finished v.handler }
  | received (source : Endpoint) (rawPacket : RawData) {actions : List Action} {p' : Phase}
      {v' : SenderView δ} (hphase : p.admits source)
      (hstep : SenderStep v source (PacketHandler.packet (rawPacket.take v.buffer)) actions p'
        v') :
      SenderReaction v p (.datagram source rawPacket) actions p' v'

section Reaction

variable {δ : Type} [TransmitDataHandler δ] {v v' : SenderView δ} {p p' : Phase}
  {acts : List Action}

/-- **A datagram that the phase admits is handled.** -/
theorem SenderReaction.step {source : Endpoint} {rawPacket : RawData}
    (h : SenderReaction v p (.datagram source rawPacket) acts p' v')
    (hadmits : p.admits source) :
    SenderStep v source (PacketHandler.packet (rawPacket.take v.buffer)) acts p' v' := by
  generalize he : PeerEvent.datagram source rawPacket = e at h
  cases h with
  | idle _ hidle =>
    subst he
    exact absurd hidle (Operation.not_idle_of_admits hadmits)
  | foreign server _ _ hphase hsource =>
    cases he
    rw [hphase] at hadmits
    exact absurd hadmits hsource
  | resend | expire | dallied => cases he
  | received _ _ _ hstep =>
    cases he
    exact hstep

/-- Nothing happens to a sender that is over. -/
theorem SenderReaction.over {e : PeerEvent} (h : SenderReaction v .done e acts p' v') :
    acts = [] ∧ p' = .done := by
  generalize hp : Phase.done = p at h
  cases h with
  | idle => exact ⟨rfl, rfl⟩
  | foreign server source rawPacket hphase hsource =>
    rw [hphase] at hp
    cases hp
  | resend destination hphase hretries =>
    subst hp
    simp at hphase
  | expire hphase hretries =>
    subst hp
    simp at hphase
  | dallied peer hphase =>
    rw [hphase] at hp
    cases hp
  | received source rawPacket hphase hstep => exact absurd hp.symm (admits_ne_done hphase)

end Reaction

namespace SendingOperation

open Operation

variable {σ δ : Type} [TransmitDataHandler δ] [SendingOperation σ δ] {s : σ}

/-- A change of the shared part that leaves the settings, the stored packet and the data
handler alone leaves the view alone. -/
theorem view_same {b : OperationImpl δ} (hset : (base s).SameSettings b)
    (hpacket : b.transmitPacketV = (base s).transmitPacketV)
    (hcounter : b.transmitCounterV = (base s).transmitCounterV)
    (hhandler : b.dataHandlerV = (base s).dataHandlerV) : view (withBase s b) = view s := by
  rw [view_withBase, hset.timeout, hset.reports, hset.buffer, hset.remote, hset.retries, hpacket,
    hcounter, hhandler, ← view_withBase, withBase_base]

/-- What the view shows of the shared part. -/
theorem view_base (s : σ) : view s =
    { view s with
      timeout := (base s).receiveTimeoutV
      reports := (base s).completionHandlerV
      retries := (base s).tftpRetriesV
      packet := (base s).transmitPacketV
      counter := (base s).transmitCounterV
      buffer := (base s).receivePacketV
      remote := (base s).remoteV
      handler := (base s).dataHandlerV } := by
  conv_lhs => rw [← withBase_base s, view_withBase]

/-- The stored packet was sent again: the view counts it. -/
theorem view_resent (s : σ) (destination : Endpoint) :
    view (withBase s ((base s).cleared.resent destination)) =
      { view s with counter := (view s).counter + 1 } := by
  rw [view_withBase, view_base s]
  rfl

theorem resent_actions (s : σ) (destination : Endpoint) :
    ((base s).cleared.resent destination).actions = [.resend (view s).packet destination] := by
  rw [view_base s]
  rfl

theorem retries_view (s : σ) : (view s).retries = (base s).tftpRetriesV ∧
    (view s).counter = (base s).transmitCounterV := by
  rw [view_base s]
  exact ⟨rfl, rfl⟩

/-- The end of the operation changes nothing in the view but the data handler. -/
theorem view_completed (s : σ) (status : TransferStatus) :
    view (withBase s ((base s).cleared.completed status none)) =
      { view s with handler := DataHandler.finished (view s).handler } := by
  rw [view_withBase, view_base s]
  rfl

theorem completed_actions (s : σ) (status : TransferStatus) :
    ((base s).cleared.completed status none).actions = (view s).completion status := by
  rw [view_base s]
  rfl

/-- **A settled sender settles again, having done what `Tftp.SenderReaction` says.** -/
theorem senderReaction (h : (base s).Settled) (e : PeerEvent) :
    (base (peerStep s e)).Settled ∧
      SenderReaction (view s) (base s).phase e (Operation.actions (peerStep s e))
        (base (peerStep s e)).phase (view (peerStep s e)) := by
  generalize hs' : peerStep s e = s'
  have hr := Operation.reaction h e
  rw [hs'] at hr
  cases hr with
  | idle _ hidle =>
    rw [Operation.actions, base_withBase, view_same]
    · exact ⟨h, .idle e hidle⟩
    · exact ⟨rfl, rfl, rfl, rfl, rfl⟩
    all_goals rfl
  | foreign server source rawPacket hphase hsource =>
    rw [Operation.actions, base_withBase, view_same]
    · exact ⟨h, .foreign server source rawPacket hphase hsource⟩
    · exact ⟨rfl, rfl, rfl, rfl, rfl⟩
    all_goals rfl
  | resend destination hphase hretries =>
    rw [Operation.actions, base_withBase, view_resent, phase_resent, resent_actions]
    refine ⟨settled_resent h destination, .resend destination (by rwa [view_base s]) ?_⟩
    rwa [(retries_view s).1, (retries_view s).2]
  | expire hphase hretries =>
    have hw := settled_completed (s := (base s).cleared) h.1 .communicationError none
    rw [Operation.actions, base_withBase, view_completed, hw.2, completed_actions]
    refine ⟨hw.1, .expire hphase ?_⟩
    rwa [(retries_view s).1, (retries_view s).2]
  | dallied peer hphase =>
    have hw := settled_completed (s := (base s).cleared) h.1 .successful none
    rw [Operation.actions, base_withBase, view_completed, hw.2, completed_actions]
    exact ⟨hw.1, .dallied peer hphase⟩
  | received source lastEndpoint rawPacket hphase hready =>
    have hstep := received_step (withBase s ((base s).takenUp source lastEndpoint)) source
      (PacketHandler.packet (rawPacket.take (base s).receivePacketV))
      (by rw [base_withBase]; exact hready) (by rw [base_withBase]; rfl)
    rw [view_same (b := (base s).takenUp source lastEndpoint) ⟨rfl, rfl, rfl, rfl, rfl⟩ rfl rfl
      rfl] at hstep
    refine ⟨hstep.1, .received source rawPacket hphase ?_⟩
    rw [show (view s).buffer = (base s).receivePacketV from by rw [view_base s]]
    exact hstep.2

end SendingOperation

end Tftp
