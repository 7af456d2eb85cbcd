import Tftp.Clients.WriteOperation
import Tftp.Servers.ReadOperation
import Tftp.Servers.WriteOperation
import Tftp.Delivery
import Tftp.Files.MemoryFile

/-!
# The two copies of the engine

Client and server each have a copy of the receiving engine and a copy of the
transmitting one, written by hand. Once the options are negotiated the copies of a pair
do the same: from states that agree in what the engine works on, and on the same
datagrams and expiries of the timer, they send the same packets, make the same calls of
the data handler and end with the same status (`Tftp.Seen`). Only the texts of the ERROR
packets differ.

What agrees in the shared part of the state is `Tftp.Alike`. Each function of the shared
part keeps it, whatever the peers, the timeouts and the other settings are, so the
handlers of a pair can be walked through side by side. Two things that the engine does
not compare have to agree as well: whether an operation dallies, and what its receive
buffer leaves of a datagram.
-/

namespace Tftp

open Protocol OperationImpl

/-- A packet, less the text of an ERROR. -/
def textless (rawPacket : RawData) : RawData :=
  match PacketHandler.packet rawPacket with
  | .packet (.error errorCode _) => (Packet.error errorCode []).encode
  | _ => rawPacket

/-- What is seen of an operation, wherever its peer is. -/
inductive Seen where
  /-- A packet is sent. -/
  | packet (rawPacket : RawData)
  /-- A handler is called; with `finished` the operation completes. -/
  | call (call : Action)
  deriving DecidableEq

/-- What is seen of an action. A completion handler that is registered repeats what
`finished` was called with. -/
def Action.seen : Action → Option Seen
  | .send rawPacket _ => some (.packet (textless rawPacket))
  | .resend rawPacket _ => some (.packet (textless rawPacket))
  | .sendUnknown rawPacket _ => some (.packet (textless rawPacket))
  | .completionHandler _ => none
  | action => some (.call action)

/-- What is seen of a list of actions. -/
def seen (actions : List Action) : List Seen := actions.filterMap Action.seen

@[simp] theorem seen_append (l l' : List Action) : seen (l ++ l') = seen l ++ seen l' :=
  List.filterMap_append

@[simp] theorem seen_completion (reports : Bool) (status : TransferStatus) :
    seen (Action.completion reports status) = [.call (.finished status)] := by
  cases reports <;> rfl

theorem textless_error (errorCode : ErrorCode) (errorMessage : RawData) :
    textless (Packet.error errorCode errorMessage).encode =
      (Packet.error errorCode []).encode := by
  rw [textless, PacketHandler.packet_encode (p := .error errorCode errorMessage) trivial]

/-- What arrives at a connected operation. -/
inductive DataEvent where
  /-- A datagram of the peer. -/
  | datagram (rawPacket : RawData)
  /-- The timer expires. -/
  | timeout

/-- The event at an operation with the given peer. -/
def DataEvent.at (peer : Endpoint) : DataEvent → PeerEvent
  | .datagram rawPacket => .datagram peer rawPacket
  | .timeout => .timeout

/-- What belongs to the data phase: DATA, ACK, ERROR and what is no packet at all. -/
def Received.DataPhase (r : Received) : Prop :=
  ∀ p, r = .packet p → p.type = .data ∨ p.type = .acknowledgement ∨ p.type = .error

theorem dataPhase_encode {p : Packet}
    (h : p.type = .data ∨ p.type = .acknowledgement ∨ p.type = .error) :
    (PacketHandler.packet p.encode).DataPhase := by
  have hencodable : p.Encodable := by
    cases p with
    | readRequest | writeRequest | optionsAcknowledgement => simp [Packet.type] at h
    | data | acknowledgement | error => trivial
  rw [PacketHandler.packet_encode hencodable]
  rintro q ⟨⟩
  exact h

/-! ### The shared parts side by side -/

section Shared

variable {δ δ' : Type} {R : δ → δ' → Prop} {b : OperationImpl δ} {b' : OperationImpl δ'}
  {peer peer' : Endpoint} {buffer buffer' : ℕ}

/-- **The shared parts agree** in what the engine works on; `R` relates the data handlers. -/
structure Alike (R : δ → δ' → Prop) (buffer buffer' : ℕ) (b : OperationImpl δ)
    (b' : OperationImpl δ') : Prop where
  /-- The sizes of the receive buffers. -/
  buffers : b.receivePacketV = buffer ∧ b'.receivePacketV = buffer'
  handler : R b.dataHandlerV b'.dataHandlerV
  retries : b.tftpRetriesV = b'.tftpRetriesV
  counter : b.transmitCounterV = b'.transmitCounterV
  packet : b.transmitPacketV = b'.transmitPacketV
  /-- The stored packet belongs to the data phase. -/
  stored : Packet.packetType b.transmitPacketV = .data ∨
    Packet.packetType b.transmitPacketV = .acknowledgement
  actions : seen b.actions = seen b'.actions

/-- **Between two events**: both are over, or both wait alike. -/
structure Paired (R : δ → δ' → Prop) (buffer buffer' : ℕ) (peer peer' : Endpoint)
    (b : OperationImpl δ) (b' : OperationImpl δ') : Prop where
  settled : b.Settled ∧ b'.Settled
  actions : seen b.actions = seen b'.actions
  phases : b.phase = .done ∧ b'.phase = .done ∨ Alike R buffer buffer' b b' ∧
    (b.phase = .waiting peer ∧ b'.phase = .waiting peer' ∨
      b.phase = .dallying peer ∧ b'.phase = .dallying peer')

namespace Alike

theorem sent (h : Alike R buffer buffer' b b') {p : Packet}
    (hp : p.type = .data ∨ p.type = .acknowledgement) :
    Alike R buffer buffer' (b.sent p peer) (b'.sent p peer') where
  buffers := h.buffers
  handler := h.handler
  retries := h.retries
  counter := rfl
  packet := rfl
  stored := by rwa [show (b.sent p peer).transmitPacketV = p.encode from rfl,
    Packet.packetType_encode]
  actions := by
    show seen (b.actions ++ _) = seen (b'.actions ++ _)
    rw [seen_append, seen_append, h.actions]
    rfl

theorem called (h : Alike R buffer buffer' b b') {state : δ} {state' : δ'} {calls : List Action}
    (hstate : R state state') :
    Alike R buffer buffer' (b.called state calls) (b'.called state' calls) where
  buffers := h.buffers
  handler := hstate
  retries := h.retries
  counter := h.counter
  packet := h.packet
  stored := h.stored
  actions := by rw [called_actions, called_actions, seen_append, seen_append, h.actions]

theorem takenUp (h : Alike R buffer buffer' b b') (lastEndpoint lastEndpoint' : Endpoint) :
    Alike R buffer buffer' (b.takenUp peer lastEndpoint) (b'.takenUp peer' lastEndpoint') :=
  ⟨h.buffers, h.handler, h.retries, h.counter, h.packet, h.stored, rfl⟩

theorem awaiting (h : Alike R buffer buffer' b b') (onTimeout : TimerHandler) (d d' : ℤ) :
    Alike R buffer buffer' (b.awaiting onTimeout d) (b'.awaiting onTimeout d') :=
  ⟨h.buffers, h.handler, h.retries, h.counter, h.packet, h.stored, h.actions⟩

variable [DataHandler δ] [DataHandler δ']

theorem paired_completed (hactions : seen b.actions = seen b'.actions)
    (halive : b.terminated = false) (halive' : b'.terminated = false) (status : TransferStatus)
    (errorInformation errorInformation' : Option (ErrorCode × RawData)) :
    Paired R buffer buffer' peer peer' (b.completed status errorInformation)
      (b'.completed status errorInformation') := by
  have hw := settled_completed halive status errorInformation
  have hw' := settled_completed halive' status errorInformation'
  refine ⟨⟨hw.1, hw'.1⟩, ?_, Or.inl ⟨hw.2, hw'.2⟩⟩
  show seen (b.actions ++ Action.completion _ _) = seen (b'.actions ++ Action.completion _ _)
  rw [seen_append, seen_append, hactions, seen_completion, seen_completion]

theorem paired_finished (h : Alike R buffer buffer' b b') (hr : b.Ready peer)
    (hr' : b'.Ready peer') (status : TransferStatus)
    (errorInformation errorInformation' : Option (ErrorCode × RawData)) :
    Paired R buffer buffer' peer peer' (b.finished status errorInformation)
      (b'.finished status errorInformation') := by
  rw [hr.finished_eq, hr'.finished_eq]
  exact paired_completed h.actions hr.alive hr'.alive status _ _

/-- The texts of a rejection may differ. -/
theorem paired_reject (h : Alike R buffer buffer' b b') (hr : b.Ready peer)
    (hr' : b'.Ready peer') (errorCode : ErrorCode) (errorMessage errorMessage' : String)
    (status : TransferStatus) :
    Paired R buffer buffer' peer peer' (b.reject {} errorCode errorMessage status)
      (b'.reject {} errorCode errorMessage' status) := by
  rw [hr.reject_eq, hr'.reject_eq]
  have hactions :
      seen (b.sent (.error errorCode (ascii errorMessage)) peer).actions =
        seen (b'.sent (.error errorCode (ascii errorMessage')) peer').actions := by
    show seen (b.actions ++ _) = seen (b'.actions ++ _)
    rw [seen_append, seen_append, h.actions]
    simp [seen, Action.seen, textless_error]
  exact paired_completed hactions hr.alive hr'.alive status _ _

theorem paired_receive (h : Alike R buffer buffer' b b') (hr : b.Ready peer)
    (hr' : b'.Ready peer') :
    Paired R buffer buffer' peer peer' (b.receive {}) (b'.receive {}) := by
  have hw := hr.settled_awaiting b.receiveTimeoutV
  have hw' := hr'.settled_awaiting b'.receiveTimeoutV
  rw [hr.receive_eq, hr'.receive_eq]
  exact ⟨⟨hw.1, hw'.1⟩, h.actions, Or.inr ⟨h.awaiting _ _ _, Or.inl ⟨hw.2, hw'.2⟩⟩⟩

theorem paired_receiveDally (h : Alike R buffer buffer' b b') (hr : b.Ready peer)
    (hr' : b'.Ready peer') :
    Paired R buffer buffer' peer peer' (b.receiveDally {}) (b'.receiveDally {}) := by
  have hw := hr.settled_dallying (2 * b.receiveTimeoutV)
  have hw' := hr'.settled_dallying (2 * b'.receiveTimeoutV)
  rw [hr.receiveDally_eq, hr'.receiveDally_eq]
  exact ⟨⟨hw.1, hw'.1⟩, h.actions, Or.inr ⟨h.awaiting _ _ _, Or.inr ⟨hw.2, hw'.2⟩⟩⟩

theorem paired_afterData (h : Alike R buffer buffer' b b') (hr : b.Ready peer)
    (hr' : b'.Ready peer') (short dally : Bool) :
    Paired R buffer buffer' peer peer' (b.afterData {} short dally)
      (b'.afterData {} short dally) := by
  cases short with
  | false => exact h.paired_receive hr hr'
  | true =>
    cases dally with
    | false => exact h.paired_finished hr hr' .successful none none
    | true => exact h.paired_receiveDally hr hr'

end Alike

end Shared

/-! ### One event -/

section Event

open Operation

variable {σ σ' δ δ' : Type} [DataHandler δ] [DataHandler δ'] [Operation σ δ] [Operation σ' δ']
  {R : δ → δ' → Prop} {s : σ} {s' : σ'} {peer peer' : Endpoint} {buffer buffer' : ℕ}

/-- A connected operation hands a datagram of its peer to the handlers of the packets. -/
theorem peerStep_own (h : (base s).Settled)
    (hphase : (base s).phase = .waiting peer ∨ (base s).phase = .dallying peer)
    (rawPacket : RawData) :
    ∃ lastEndpoint, ((base s).takenUp peer lastEndpoint).Ready peer ∧
      peerStep s (.datagram peer rawPacket) =
        received (withBase s ((base s).takenUp peer lastEndpoint)) {}
          (PacketHandler.packet (rawPacket.take (base s).receivePacketV)) := by
  refine peerStep_admitted h ?_ rawPacket
  rcases hphase with hphase | hphase <;> rw [hphase] <;> rfl

/-- What an expiry of the timer does to an operation that waits for its peer. -/
theorem peerStep_timeout_waiting (h : (base s).Settled) (hphase : (base s).phase = .waiting peer) :
    (base s).transmitCounterV.toNat ≤ (base s).tftpRetriesV.toNat ∧
        peerStep s .timeout = withBase s ((base s).cleared.resent peer) ∨
      (base s).tftpRetriesV.toNat < (base s).transmitCounterV.toNat ∧
        peerStep s .timeout =
          withBase s ((base s).cleared.completed .communicationError none) := by
  generalize hs' : peerStep s .timeout = s'
  have hr := Operation.reaction h .timeout
  rw [hs'] at hr
  cases hr with
  | idle _ hidle =>
    rcases hidle with hdone | ⟨_, _, _, _, _, heq⟩
    · rw [hphase] at hdone
      cases hdone
    · cases heq
  | resend destination hp hretries =>
    rcases hp with ⟨⟨server, hp⟩, -⟩ | hp
    · rw [hphase] at hp
      cases hp
    · rw [hphase] at hp
      cases hp
      exact Or.inl ⟨hretries, rfl⟩
  | expire hp hretries => exact Or.inr ⟨hretries, rfl⟩
  | dallied peer₀ hp =>
    rw [hphase] at hp
    cases hp

theorem peerStep_timeout_dallying (h : (base s).Settled)
    (hphase : (base s).phase = .dallying peer) :
    peerStep s .timeout = withBase s ((base s).cleared.completed .successful none) := by
  generalize hs' : peerStep s .timeout = s'
  have hr := Operation.reaction h .timeout
  rw [hs'] at hr
  cases hr with
  | idle _ hidle =>
    rcases hidle with hdone | ⟨_, _, _, _, _, heq⟩
    · rw [hphase] at hdone
      cases hdone
    · cases heq
  | resend destination hp =>
    rcases hp with ⟨⟨server, hp⟩, -⟩ | hp <;> · rw [hphase] at hp; cases hp
  | expire hp =>
    rcases hp with ⟨server, hp⟩ | ⟨peer₀, hp⟩ <;> · rw [hphase] at hp; cases hp
  | dallied => rfl

/-- An operation that is over stays as it is. -/
theorem peerStep_done (h : (base s).Settled) (hphase : (base s).phase = .done) (e : PeerEvent) :
    peerStep s e = withBase s (base s).cleared := by
  generalize hs' : peerStep s e = s'
  have hr := Operation.reaction h e
  rw [hs'] at hr
  cases hr with
  | idle => rfl
  | foreign server source rawPacket hp =>
    rw [hphase] at hp
    cases hp
  | resend destination hp =>
    rcases hp with ⟨⟨server, hp⟩, -⟩ | hp <;> · rw [hphase] at hp; cases hp
  | expire hp =>
    rcases hp with ⟨server, hp⟩ | ⟨peer₀, hp⟩ <;> · rw [hphase] at hp; cases hp
  | dallied peer₀ hp =>
    rw [hphase] at hp
    cases hp
  | received source lastEndpoint rawPacket hadmits =>
    rw [hphase] at hadmits
    exact hadmits.elim

theorem Paired.cleared (h : Paired R buffer buffer' peer peer' (base s) (base s'))
    (hphase : (base s).phase = .done) (hphase' : (base s').phase = .done) :
    Paired R buffer buffer' peer peer' (base s).cleared (base s').cleared :=
  ⟨h.settled, rfl, Or.inl ⟨hphase, hphase'⟩⟩

/-- **An expiry of the timer keeps a pair.** -/
theorem Paired.timeout (h : Paired R buffer buffer' peer peer' (base s) (base s')) :
    ∃ b b', peerStep s .timeout = withBase s b ∧ peerStep s' .timeout = withBase s' b' ∧
      Paired R buffer buffer' peer peer' b b' := by
  have hcleared : seen (base s).cleared.actions = seen (base s').cleared.actions := rfl
  rcases h.phases with ⟨hp, hp'⟩ | ⟨ha, ⟨hp, hp'⟩ | ⟨hp, hp'⟩⟩
  · exact ⟨_, _, peerStep_done h.settled.1 hp _, peerStep_done h.settled.2 hp' _, h.cleared hp hp'⟩
  · have hsame : (base s').transmitCounterV = (base s).transmitCounterV ∧
        (base s').tftpRetriesV = (base s).tftpRetriesV := ⟨ha.counter.symm, ha.retries.symm⟩
    rcases peerStep_timeout_waiting h.settled.1 hp with ⟨hle, heq⟩ | ⟨hlt, heq⟩ <;>
      rcases peerStep_timeout_waiting h.settled.2 hp' with ⟨hle', heq'⟩ | ⟨hlt', heq'⟩
    · refine ⟨_, _, heq, heq', ⟨settled_resent h.settled.1 peer, settled_resent h.settled.2 peer'⟩,
        ?_, Or.inr ⟨?_, Or.inl ?_⟩⟩
      · show seen [.resend (base s).transmitPacketV peer] =
          seen [.resend (base s').transmitPacketV peer']
        rw [ha.packet]
        rfl
      · refine ⟨ha.buffers, ha.handler, ha.retries, congrArg (· + 1) ha.counter, ha.packet,
          ha.stored, ?_⟩
        show seen [.resend (base s).transmitPacketV peer] =
          seen [.resend (base s').transmitPacketV peer']
        rw [ha.packet]
        rfl
      · rw [phase_resent, phase_resent]
        exact ⟨hp, hp'⟩
    · rw [hsame.1, hsame.2] at hlt'
      omega
    · rw [hsame.1, hsame.2] at hle'
      omega
    · exact ⟨_, _, heq, heq', Alike.paired_completed hcleared h.settled.1.1 h.settled.2.1 _ _ _⟩
  · exact ⟨_, _, peerStep_timeout_dallying h.settled.1 hp,
      peerStep_timeout_dallying h.settled.2 hp',
      Alike.paired_completed hcleared h.settled.1.1 h.settled.2.1 _ _ _⟩

/-- **A datagram keeps a pair** if the handlers of the packets do. -/
theorem Paired.datagram (h : Paired R buffer buffer' peer peer' (base s) (base s'))
    {rawPacket : RawData} (hcut : rawPacket.take buffer = rawPacket.take buffer')
    {P : σ → σ' → Prop} (hkeep : ∀ b b', P (withBase s b) (withBase s' b'))
    (hreceived : ∀ b b', Alike R buffer buffer' b b' → b.Ready peer → b'.Ready peer' →
      b.actions = [] → b'.actions = [] →
      Paired R buffer buffer' peer peer'
          (base (received (withBase s b) {} (PacketHandler.packet (rawPacket.take buffer))))
          (base (received (withBase s' b') {} (PacketHandler.packet (rawPacket.take buffer)))) ∧
        P (received (withBase s b) {} (PacketHandler.packet (rawPacket.take buffer)))
          (received (withBase s' b') {} (PacketHandler.packet (rawPacket.take buffer)))) :
    Paired R buffer buffer' peer peer' (base (peerStep s (.datagram peer rawPacket)))
        (base (peerStep s' (.datagram peer' rawPacket))) ∧
      P (peerStep s (.datagram peer rawPacket)) (peerStep s' (.datagram peer' rawPacket)) := by
  rcases h.phases with ⟨hp, hp'⟩ | ⟨ha, hphases⟩
  · rw [peerStep_done h.settled.1 hp, peerStep_done h.settled.2 hp', base_withBase, base_withBase]
    exact ⟨h.cleared hp hp', hkeep _ _⟩
  · obtain ⟨lastEndpoint, hr, heq⟩ :=
      peerStep_own h.settled.1 (hphases.imp And.left And.left) rawPacket
    obtain ⟨lastEndpoint', hr', heq'⟩ :=
      peerStep_own h.settled.2 (hphases.imp And.right And.right) rawPacket
    rw [heq, heq', ha.buffers.1, ha.buffers.2, ← hcut]
    exact hreceived _ _ (ha.takenUp _ _) hr hr' rfl rfl

end Event

/-! ### The receivers -/

section Receivers

variable {δ δ' : Type} [ReceiveDataHandler δ] [ReceiveDataHandler δ']
  {s : Clients.ReadOperationImpl δ} {s' : Servers.WriteOperationImpl δ'}
  {peer peer' : Endpoint} {buffer buffer' : ℕ}

/-- The data handlers of two receivers: the engine asks them nothing. -/
abbrev Unrelated (_ : δ) (_ : δ') : Prop := True

/-- **What the receiving engine works on agrees**, and the client negotiates nothing. -/
structure SameReceiver (s : Clients.ReadOperationImpl δ) (s' : Servers.WriteOperationImpl δ') :
    Prop where
  block : s.lastReceivedBlockNumber = s'.lastReceivedBlockNumber
  dataSize : s.receiveDataSize = s'.receiveDataSize
  dally : s.dallyV = s'.dallyV
  negotiation : s.optionNegotiationHandlerV = none

/-- An ERROR packet ends both sides alike. -/
theorem Alike.paired_errorPacket {δ δ' : Type} [DataHandler δ] [DataHandler δ'] {R : δ → δ' → Prop}
    {b : OperationImpl δ} {b' : OperationImpl δ'} (h : Alike R buffer buffer' b b')
    (hr : b.Ready peer) (hr' : b'.Ready peer') (errorCode : ErrorCode) (errorMessage : RawData) :
    Paired R buffer buffer' peer peer' (Clients.OperationImpl.errorPacket b errorCode errorMessage)
      (Servers.OperationImpl.errorPacket b' errorCode errorMessage) := by
  obtain ⟨status, -, hstatus, heq⟩ := Clients.OperationImpl.errorPacket_eq b errorCode errorMessage
  obtain ⟨status', -, hstatus', heq'⟩ :=
    Servers.OperationImpl.errorPacket_eq b' errorCode errorMessage
  rw [heq, heq', hstatus h.stored, hstatus' (h.packet ▸ h.stored)]
  exact h.paired_finished hr hr' .transferError _ _

omit [ReceiveDataHandler δ] in
/-- Without negotiation handler the first block is accepted. -/
theorem Clients.ReadOperationImpl.negotiateNone_none (h : s.optionNegotiationHandlerV = none)
    (blockNumber : BlockNumber) : s.negotiateNone blockNumber = (true, s) := by
  obtain ⟨⟩ := s
  dsimp only at h
  subst h
  rw [Clients.ReadOperationImpl.negotiateNone]
  split_ifs <;> rfl

/-- **A DATA packet keeps a pair of receivers.** -/
theorem SameReceiver.dataPacket (h : SameReceiver s s')
    (ha : Alike Unrelated buffer buffer' s.toOperationImpl s'.toOperationImpl)
    (hr : s.toOperationImpl.Ready peer) (hr' : s'.toOperationImpl.Ready peer')
    (blockNumber : BlockNumber) (data : RawData) :
    Paired Unrelated buffer buffer' peer peer' (s.dataPacket {} blockNumber data).toOperationImpl
        (s'.dataPacket {} blockNumber data).toOperationImpl ∧
      SameReceiver (s.dataPacket {} blockNumber data) (s'.dataPacket {} blockNumber data) := by
  have hack : ∀ n : BlockNumber, (Packet.acknowledgement n).type = .data ∨
      (Packet.acknowledgement n).type = .acknowledgement := fun _ => Or.inr rfl
  have hblock := h.block
  have hdataSize := h.dataSize
  have hdally := h.dally
  simp only [Clients.ReadOperationImpl.dataPacket, Servers.WriteOperationImpl.dataPacket,
    Clients.ReadOperationImpl.negotiateNone_none h.negotiation, Bool.not_true,
    Bool.false_eq_true, if_false, Clients.ReadOperationImpl.update,
    Servers.WriteOperationImpl.update, ← hblock, ← hdataSize, ← hdally]
  by_cases hrepeated : blockNumber = s.lastReceivedBlockNumber
  · rw [if_pos hrepeated, if_pos hrepeated]
    refine ⟨?_, rfl, rfl, rfl, h.negotiation⟩
    rw [hr.send_eq, hr'.send_eq]
    exact (ha.sent (hack _)).paired_afterData (hr.sent _ peer) (hr'.sent _ peer') _ _
  rw [if_neg hrepeated, if_neg hrepeated]
  by_cases hnext : blockNumber = s.lastReceivedBlockNumber.next
  · rw [if_neg (not_not.mpr hnext), if_neg (not_not.mpr hnext)]
    by_cases hsize : s.receiveDataSize.toNat < data.length
    · rw [if_pos hsize, if_pos hsize]
      exact ⟨ha.paired_reject hr hr' _ _ _ _, rfl, rfl, rfl, h.negotiation⟩
    · rw [if_neg hsize, if_neg hsize]
      refine ⟨?_, rfl, rfl, rfl, h.negotiation⟩
      rw [receivedData_eq, receivedData_eq, (hr.called _ _).send_eq, (hr'.called _ _).send_eq]
      exact ((ha.called trivial).sent (hack _)).paired_afterData ((hr.called _ _).sent _ peer)
        ((hr'.called _ _).sent _ peer') _ _
  · rw [if_pos hnext, if_pos hnext]
    exact ⟨ha.paired_reject hr hr' _ _ _ _, rfl, rfl, rfl, h.negotiation⟩

/-- **What arrives in the data phase keeps a pair of receivers.** -/
theorem SameReceiver.received (h : SameReceiver s s')
    (ha : Alike Unrelated buffer buffer' s.toOperationImpl s'.toOperationImpl)
    (hr : s.toOperationImpl.Ready peer) (hr' : s'.toOperationImpl.Ready peer') {r : Received}
    (hphase : r.DataPhase) :
    Paired Unrelated buffer buffer' peer peer' (s.received {} r).toOperationImpl
        (s'.received {} r).toOperationImpl ∧
      SameReceiver (s.received {} r) (s'.received {} r) := by
  cases r with
  | invalid =>
    exact ⟨ha.paired_reject hr hr' _ _ _ _, h.block, h.dataSize, h.dally, h.negotiation⟩
  | packet p =>
    have htype := hphase p rfl
    cases p with
    | readRequest | writeRequest | optionsAcknowledgement => simp [Packet.type] at htype
    | data blockNumber data => exact h.dataPacket ha hr hr' blockNumber data
    | acknowledgement =>
      exact ⟨ha.paired_reject hr hr' _ _ _ _, h.block, h.dataSize, h.dally, h.negotiation⟩
    | error errorCode errorMessage =>
      exact ⟨ha.paired_errorPacket hr hr' _ _, h.block, h.dataSize, h.dally, h.negotiation⟩

end Receivers

/-! ### The senders -/

section Senders

variable {δ : Type} [TransmitDataHandler δ]
  {s : Clients.WriteOperationImpl δ} {s' : Servers.ReadOperationImpl δ}
  {peer peer' : Endpoint} {buffer buffer' : ℕ}

/-- **What the transmitting engine works on agrees**, and the client negotiates nothing. -/
structure SameSender (s : Clients.WriteOperationImpl δ) (s' : Servers.ReadOperationImpl δ) :
    Prop where
  transmitted : s.lastTransmittedBlockNumber = s'.lastTransmittedBlockNumber
  received : s.lastReceivedBlockNumber = s'.lastReceivedBlockNumber
  dataSize : s.transmitDataSize = s'.transmitDataSize
  last : s.lastDataPacketTransmitted = s'.lastDataPacketTransmitted
  negotiation : s.optionNegotiationHandlerV = none

omit [TransmitDataHandler δ] in
theorem Clients.WriteOperationImpl.negotiateNone_none (h : s.optionNegotiationHandlerV = none)
    (blockNumber : BlockNumber) : s.negotiateNone blockNumber = (true, s) := by
  obtain ⟨⟩ := s
  dsimp only at h
  subst h
  rw [Clients.WriteOperationImpl.negotiateNone]
  split_ifs <;> rfl

/-- The next block is the same, as the data handlers are. -/
theorem SameSender.sendData (h : SameSender s s')
    (ha : Alike Eq buffer buffer' s.toOperationImpl s'.toOperationImpl)
    (hr : s.toOperationImpl.Ready peer) (hr' : s'.toOperationImpl.Ready peer') :
    (Alike Eq buffer buffer' (s.sendData {}).toOperationImpl (s'.sendData {}).toOperationImpl ∧
      (s.sendData {}).toOperationImpl.Ready peer ∧ (s'.sendData {}).toOperationImpl.Ready peer') ∧
    SameSender (s.sendData {}) (s'.sendData {}) := by
  have hdata : ∀ n data, (Packet.data n data).type = .data ∨
      (Packet.data n data).type = .acknowledgement := fun _ _ => Or.inl rfl
  simp only [Clients.WriteOperationImpl.sendData, Servers.ReadOperationImpl.sendData,
    hr.nextData_eq, hr'.nextData_eq, Clients.WriteOperationImpl.update,
    Servers.ReadOperationImpl.update, (hr.called _ _).send_eq, (hr'.called _ _).send_eq]
  rw [← ha.handler, ← h.dataSize, ← h.transmitted, ← h.last]
  exact ⟨⟨(ha.called rfl).sent (hdata _ _), (hr.called _ _).sent _ peer,
    (hr'.called _ _).sent _ peer'⟩, rfl, h.received, rfl, rfl, h.negotiation⟩

/-- **An ACK packet keeps a pair of senders.** -/
theorem SameSender.acknowledgementPacket (h : SameSender s s')
    (ha : Alike Eq buffer buffer' s.toOperationImpl s'.toOperationImpl)
    (hr : s.toOperationImpl.Ready peer) (hr' : s'.toOperationImpl.Ready peer')
    (blockNumber : BlockNumber) :
    Paired Eq buffer buffer' peer peer' (s.acknowledgementPacket {} blockNumber).toOperationImpl
        (s'.acknowledgementPacket {} blockNumber).toOperationImpl ∧
      SameSender (s.acknowledgementPacket {} blockNumber)
        (s'.acknowledgementPacket {} blockNumber) := by
  obtain ⟨b', configuration', clientOptions', additional', size', last', transmitted', received'⟩ :=
    s'
  obtain ⟨htransmitted, hreceived, hsize, hlast, hneg⟩ := h
  dsimp only at htransmitted hreceived hsize hlast
  subst htransmitted hreceived hsize hlast
  have hacknowledged : SameSender { s with lastReceivedBlockNumber := blockNumber }
      ⟨b', configuration', clientOptions', additional', s.transmitDataSize,
        s.lastDataPacketTransmitted, s.lastTransmittedBlockNumber, blockNumber⟩ :=
    ⟨rfl, rfl, rfl, rfl, hneg⟩
  simp only [Clients.WriteOperationImpl.acknowledgementPacket,
    Servers.ReadOperationImpl.acknowledgementPacket,
    Clients.WriteOperationImpl.negotiateNone_none hacknowledged.negotiation, Bool.not_true,
    Bool.false_eq_true, if_false]
  by_cases hrepeated : blockNumber = s.lastReceivedBlockNumber
  · rw [if_pos hrepeated, if_pos hrepeated]
    exact ⟨ha.paired_receive hr hr', rfl, rfl, rfl, rfl, hneg⟩
  rw [if_neg hrepeated, if_neg hrepeated]
  by_cases hnext : blockNumber = s.lastTransmittedBlockNumber
  · rw [if_neg (not_not.mpr hnext), if_neg (not_not.mpr hnext)]
    by_cases hend : s.lastDataPacketTransmitted = true
    · rw [if_pos hend, if_pos hend]
      exact ⟨ha.paired_finished hr hr' _ _ _, rfl, rfl, rfl, rfl, hneg⟩
    · rw [if_neg hend, if_neg hend]
      obtain ⟨⟨ha', hready, hready'⟩, hsame⟩ := hacknowledged.sendData ha hr hr'
      exact ⟨ha'.paired_receive hready hready', hsame.transmitted, hsame.received, hsame.dataSize,
        hsame.last, hsame.negotiation⟩
  · rw [if_pos hnext, if_pos hnext]
    exact ⟨ha.paired_reject hr hr' _ _ _ _, rfl, rfl, rfl, rfl, hneg⟩

/-- **What arrives in the data phase keeps a pair of senders.** -/
theorem SameSender.packet (h : SameSender s s')
    (ha : Alike Eq buffer buffer' s.toOperationImpl s'.toOperationImpl)
    (hr : s.toOperationImpl.Ready peer) (hr' : s'.toOperationImpl.Ready peer') {r : Received}
    (hphase : r.DataPhase) :
    Paired Eq buffer buffer' peer peer' (s.received {} r).toOperationImpl
        (s'.received {} r).toOperationImpl ∧
      SameSender (s.received {} r) (s'.received {} r) := by
  have hkeep : ∀ b b', SameSender { s with toOperationImpl := b }
      { s' with toOperationImpl := b' } := fun b b' =>
    ⟨h.transmitted, h.received, h.dataSize, h.last, h.negotiation⟩
  cases r with
  | invalid => exact ⟨ha.paired_reject hr hr' _ _ _ _, hkeep _ _⟩
  | packet p =>
    have htype := hphase p rfl
    cases p with
    | readRequest | writeRequest | optionsAcknowledgement => simp [Packet.type] at htype
    | data => exact ⟨ha.paired_reject hr hr' _ _ _ _, hkeep _ _⟩
    | acknowledgement blockNumber => exact h.acknowledgementPacket ha hr hr' blockNumber
    | error errorCode errorMessage => exact ⟨ha.paired_errorPacket hr hr' _ _, hkeep _ _⟩

end Senders

/-! ### Runs -/

section Runs

open Operation

/-- What an operation does on a list of events that come from the given peer. -/
def dataRun {σ δ : Type} [DataHandler δ] [Operation σ δ] (peer : Endpoint) (s : σ)
    (events : List DataEvent) : List Action :=
  (replay peerStep s (events.map (DataEvent.at peer))).1.flatMap fun t : Transition σ PeerEvent =>
    Operation.actions t.post

/-- A datagram that two receive buffers cut alike, and what is left of it belongs to the data
phase; or an expiry of the timer. -/
def DataEvent.Admitted (buffer buffer' : ℕ) : DataEvent → Prop
  | .datagram rawPacket => rawPacket.take buffer = rawPacket.take buffer' ∧
      (PacketHandler.packet (rawPacket.take buffer)).DataPhase
  | .timeout => True

/-- **Two connected operations wait alike**, with the same stored packet. -/
structure ConnectedAlike {δ δ' : Type} (peer peer' : Endpoint) (b : OperationImpl δ)
    (b' : OperationImpl δ') : Prop where
  settled : b.Settled ∧ b'.Settled
  phases : b.phase = .waiting peer ∧ b'.phase = .waiting peer' ∨
    b.phase = .dallying peer ∧ b'.phase = .dallying peer'
  retries : b.tftpRetriesV = b'.tftpRetriesV
  counter : b.transmitCounterV = b'.transmitCounterV
  packet : b.transmitPacketV = b'.transmitPacketV

variable {σ σ' δ δ' : Type} [DataHandler δ] [DataHandler δ'] [Operation σ δ] [Operation σ' δ']
  {R : δ → δ' → Prop} {s : σ} {s' : σ'} {peer peer' : Endpoint} {buffer buffer' : ℕ}

theorem ConnectedAlike.paired (h : ConnectedAlike peer peer' (base s) (base s'))
    (hstored : Packet.packetType (base s).transmitPacketV = .data ∨
      Packet.packetType (base s).transmitPacketV = .acknowledgement)
    (hhandler : R (base s).dataHandlerV (base s').dataHandlerV) :
    Paired R (base s).receivePacketV (base s').receivePacketV peer peer' (base s).cleared
      (base s').cleared :=
  ⟨h.settled, rfl, Or.inr ⟨⟨⟨rfl, rfl⟩, hhandler, h.retries, h.counter, h.packet, hstored, rfl⟩,
    h.phases⟩⟩

omit [DataHandler δ] [DataHandler δ'] in
theorem Paired.clear {b : OperationImpl δ} {b' : OperationImpl δ'}
    (h : Paired R buffer buffer' peer peer' b b') :
    Paired R buffer buffer' peer peer' b.cleared b'.cleared := by
  refine ⟨h.settled, rfl, h.phases.imp id fun ⟨ha, hp⟩ => ⟨?_, hp⟩⟩
  exact ⟨ha.buffers, ha.handler, ha.retries, ha.counter, ha.packet, ha.stored, rfl⟩

/-- **Pairs stay pairs over whole runs**, and what is seen of the two is the same, if the
handlers of the packets keep a property of the pair that the shared parts do not matter to. -/
theorem Paired.run {P : σ → σ' → Prop}
    (h : Paired R buffer buffer' peer peer' (base s).cleared (base s').cleared) (hP : P s s')
    (hkeep : ∀ s s' b b', P s s' → P (withBase s b) (withBase s' b'))
    (hreceived : ∀ s s' r, P s s' → Received.DataPhase r →
      Alike R buffer buffer' (base s) (base s') → (base s).Ready peer → (base s').Ready peer' →
      Paired R buffer buffer' peer peer' (base (received s {} r)) (base (received s' {} r)) ∧
        P (received s {} r) (received s' {} r))
    (events : List DataEvent) (hevents : ∀ e ∈ events, e.Admitted buffer buffer') :
    seen (dataRun peer s events) = seen (dataRun peer' s' events) := by
  rw [dataRun, dataRun, seen, seen, List.filterMap_flatMap, List.filterMap_flatMap]
  refine (@replay_agree σ PeerEvent Seen σ' PeerEvent DataEvent peerStep peerStep
    (fun s => seen (Operation.actions s)) (fun s' => seen (Operation.actions s'))
    (DataEvent.at peer) (DataEvent.at peer') (DataEvent.Admitted buffer buffer')
    (fun s s' => P s s' ∧ Paired R buffer buffer' peer peer' (base s).cleared (base s').cleared)
    s s' ⟨hP, h⟩ ?_ events hevents).2
  rintro s s' e ⟨hP, h⟩ he
  -- what the operations did before does not matter
  have hclear : ∀ {τ γ : Type} [DataHandler γ] [Operation τ γ] (t : τ) (e : PeerEvent),
      peerStep (withBase t (base t).cleared) e = peerStep t e := fun t e =>
    step_actions t [] e.toEvent
  have hpair : Paired R buffer buffer' peer peer' (base (withBase s (base s).cleared))
      (base (withBase s' (base s').cleared)) := by
    rw [base_withBase, base_withBase]
    exact h
  cases e with
  | timeout =>
    obtain ⟨b, b', heq, heq', hb⟩ := hpair.timeout
    rw [hclear, withBase_withBase] at heq heq'
    have hs : base (peerStep s .timeout) = b := by rw [heq, base_withBase]
    have hs' : base (peerStep s' .timeout) = b' := by rw [heq', base_withBase]
    refine ⟨⟨?_, ?_⟩, ?_⟩
    · show P (peerStep s .timeout) (peerStep s' .timeout)
      rw [heq, heq']
      exact hkeep s s' b b' hP
    · show Paired R buffer buffer' peer peer' (base (peerStep s .timeout)).cleared
        (base (peerStep s' .timeout)).cleared
      rw [hs, hs']
      exact hb.clear
    · show seen (base (peerStep s .timeout)).actions = seen (base (peerStep s' .timeout)).actions
      rw [hs, hs']
      exact hb.actions
  | datagram rawPacket =>
    obtain ⟨hcut, hphase⟩ := he
    obtain ⟨hb, hP'⟩ := hpair.datagram (P := P) hcut
      (fun b b' => by rw [withBase_withBase, withBase_withBase]; exact hkeep s s' b b' hP)
      (fun b b' ha hr hr' _ _ => hreceived _ _ _
        (by rw [withBase_withBase, withBase_withBase]; exact hkeep s s' b b' hP) hphase
        (by rw [base_withBase, base_withBase]; exact ha) (by rw [base_withBase]; exact hr)
        (by rw [base_withBase]; exact hr'))
    rw [hclear, hclear] at hb hP'
    exact ⟨⟨hP', hb.clear⟩, hb.actions⟩

end Runs

/-- **The two copies of each engine agree in the data phase.** -/
theorem copies_agree :
    (∀ (δ δ' : Type) [ReceiveDataHandler δ] [ReceiveDataHandler δ']
      (s : Clients.ReadOperationImpl δ) (s' : Servers.WriteOperationImpl δ') (peer peer' : Endpoint)
      (events : List DataEvent),
      ConnectedAlike peer peer' s.toOperationImpl s'.toOperationImpl →
      Packet.packetType s.transmitPacketV = .acknowledgement → SameReceiver s s' →
      (∀ e ∈ events, e.Admitted s.receivePacketV s'.receivePacketV) →
      seen (dataRun peer s events) = seen (dataRun peer' s' events)) ∧
    (∀ (δ : Type) [TransmitDataHandler δ]
      (s : Clients.WriteOperationImpl δ) (s' : Servers.ReadOperationImpl δ) (peer peer' : Endpoint)
      (events : List DataEvent),
      ConnectedAlike peer peer' s.toOperationImpl s'.toOperationImpl →
      Packet.packetType s.transmitPacketV = .data → SameSender s s' →
      s.dataHandlerV = s'.dataHandlerV →
      (∀ e ∈ events, e.Admitted s.receivePacketV s'.receivePacketV) →
      seen (dataRun peer s events) = seen (dataRun peer' s' events)) := by
  constructor
  · intro δ δ' _ _ s s' peer peer' events h hstored hsame hevents
    refine Paired.run (P := SameReceiver) (h.paired (R := Unrelated) (Or.inr hstored) trivial)
      hsame ?_ ?_ events hevents
    · exact fun s s' b b' h => ⟨h.block, h.dataSize, h.dally, h.negotiation⟩
    · exact fun s s' r hsame hphase ha hr hr' => hsame.received ha hr hr' hphase
  · intro δ _ s s' peer peer' events h hstored hsame hhandler hevents
    refine Paired.run (P := SameSender) (h.paired (R := Eq) (Or.inl hstored) hhandler)
      hsame ?_ ?_ events hevents
    · exact fun s s' b b' h => ⟨h.transmitted, h.received, h.dataSize, h.last, h.negotiation⟩
    · exact fun s s' r hsame hphase ha hr hr' => hsame.packet ha hr hr' hphase

/-! ### What has to agree besides -/

/-- A source that hands out prepared blocks. -/
structure Prepared where
  blocks : List RawData
  deriving DecidableEq

instance : TransmitDataHandler Prepared where
  start source := source
  finished source := source
  requestedTransferSize source := (none, source)
  sendData source _ := (source.blocks.headD [], ⟨source.blocks.tail⟩)

/-- A server that acknowledges a block size. -/
def acknowledgedSize (blockSize : ℕ) : RawData :=
  (Packet.optionsAcknowledgement
    (SortedMap.empty.emplace (tftpOptionsName .blockSize) (stdToString blockSize))).encode

/-- A receiving client that asked for the given block size, after the events. -/
def receivingClient (blockSize : UInt16) (events : List PeerEvent) :
    Clients.ReadOperationImpl MemoryFile :=
  (replay Operation.peerStep (Clients.ReadOperationImpl.request
    (Clients.ReadOperationImpl.configured
      { optionsConfiguration := { blockSizeOption := some blockSize }
        dally := true
        dataHandler := MemoryFile.empty }) {}) events).2

/-- A receiving server that was asked for the given block size, if any, after the events. -/
def receivingServer (blockSize : Option UInt16) (events : List PeerEvent) :
    Servers.WriteOperationImpl MemoryFile :=
  (replay Operation.peerStep (Servers.WriteOperationImpl.start
    (Servers.WriteOperationImpl.configured
      { optionsConfiguration := { blockSizeOption := blockSize }
        clientOptions := { blockSize := blockSize }
        dally := true
        dataHandler := MemoryFile.empty }) {}) events).2

/-- A client that sends one block, which is on its way. -/
def transmittingClient (block : RawData) : Clients.WriteOperationImpl Prepared :=
  (replay Operation.peerStep (Clients.WriteOperationImpl.request
    (Clients.WriteOperationImpl.configured { dataHandler := ⟨[block]⟩ }) {})
    [.datagram { port := 1 } (Packet.acknowledgement 0).encode]).2

/-- A server that sends one block, which is on its way. -/
def transmittingServer (block : RawData) : Servers.ReadOperationImpl Prepared :=
  Servers.ReadOperationImpl.start
    (Servers.ReadOperationImpl.configured { dataHandler := ⟨[block]⟩ }) {}

/-- The copies agree while the last block arrives, and its acknowledgement. -/
theorem copies_agree_one_block :
    seen (dataRun { port := 1 } (receivingClient 8 [.datagram { port := 1 } (acknowledgedSize 8),
        .datagram { port := 1 } (Packet.data 1 [97, 98, 99, 100, 101, 102, 103, 104]).encode])
      [.datagram (Packet.data 2 [105]).encode, .timeout]) =
    seen (dataRun {} (receivingServer (some 8)
        [.datagram {} (Packet.data 1 [97, 98, 99, 100, 101, 102, 103, 104]).encode])
      [.datagram (Packet.data 2 [105]).encode, .timeout]) ∧
    seen (dataRun { port := 1 } (transmittingClient [97])
      [.timeout, .datagram (Packet.acknowledgement 1).encode]) =
    seen (dataRun {} (transmittingServer [97])
      [.timeout, .datagram (Packet.acknowledgement 1).encode]) := by
  have hdata : (Packet.data 2 [105]).encode.take 516 = (Packet.data 2 [105]).encode := by decide
  have hack : (Packet.acknowledgement 1).encode.take 516 = (Packet.acknowledgement 1).encode := by
    decide
  constructor
  · refine copies_agree.1 _ _ _ _ _ _ _ ⟨⟨⟨by decide, by decide, 2, by decide⟩,
      ⟨by decide, by decide, 2, by decide⟩⟩, by decide, by decide, by decide, by decide⟩ (by decide)
      ⟨by decide, by decide, by decide, rfl⟩ ?_
    intro e he
    simp only [List.mem_cons, List.not_mem_nil, or_false] at he
    rcases he with rfl | rfl
    · exact ⟨hdata.trans hdata.symm, hdata.symm ▸ dataPhase_encode (Or.inl rfl)⟩
    · trivial
  · refine copies_agree.2 _ _ _ _ _ _ ⟨⟨⟨by decide, by decide, 2, by decide⟩,
      ⟨by decide, by decide, 2, by decide⟩⟩, by decide, by decide, by decide, by decide⟩ (by decide)
      ⟨by decide, by decide, by decide, by decide, rfl⟩ (by decide) ?_
    intro e he
    simp only [List.mem_cons, List.not_mem_nil, or_false] at he
    rcases he with rfl | rfl
    · trivial
    · exact ⟨hack.trans hack.symm, hack.symm ▸ dataPhase_encode (Or.inr (Or.inl rfl))⟩

/-- A block that is longer than a full one. -/
def oversized : RawData := (Packet.data 1 (List.replicate 513 0)).encode

/-- **Where the copies differ although what the engine works on agrees**: a block that only one
receive buffer cuts, a receiver that dallies beside one that waits, and stored blocks with
different data. -/
theorem copies_disagree :
    (ConnectedAlike { port := 1 } {}
        (receivingClient 1024 [.datagram { port := 1 } (acknowledgedSize 512)]).toOperationImpl
        (receivingServer none []).toOperationImpl ∧
      SameReceiver (receivingClient 1024 [.datagram { port := 1 } (acknowledgedSize 512)])
        (receivingServer none []) ∧
      (PacketHandler.packet oversized).DataPhase ∧
      seen (dataRun { port := 1 } (receivingClient 1024
          [.datagram { port := 1 } (acknowledgedSize 512)]) [.datagram oversized]) ≠
        seen (dataRun {} (receivingServer none []) [.datagram oversized])) ∧
    (∃ client server, client = receivingClient 8 [.datagram { port := 1 } (acknowledgedSize 8),
          .datagram { port := 1 } (Packet.data 1 [97]).encode] ∧
      server = receivingServer (some 8)
        [.datagram {} (Packet.data 1 [97, 98, 99, 100, 101, 102, 103, 104]).encode] ∧
      SameReceiver client server ∧ client.tftpRetriesV = server.tftpRetriesV ∧
      client.transmitCounterV = server.transmitCounterV ∧
      client.transmitPacketV = server.transmitPacketV ∧
      Packet.packetType client.transmitPacketV = .acknowledgement ∧
      seen (dataRun { port := 1 } client [.timeout]) ≠ seen (dataRun {} server [.timeout])) ∧
    (SameSender (transmittingClient [97]) (transmittingServer [98]) ∧
      (transmittingClient [97]).tftpRetriesV = (transmittingServer [98]).tftpRetriesV ∧
      (transmittingClient [97]).transmitCounterV = (transmittingServer [98]).transmitCounterV ∧
      (transmittingClient [97]).dataHandlerV = (transmittingServer [98]).dataHandlerV ∧
      Packet.packetType (transmittingClient [97]).transmitPacketV = .data ∧
      Packet.packetType (transmittingServer [98]).transmitPacketV = .data ∧
      seen (dataRun { port := 1 } (transmittingClient [97]) [.timeout]) ≠
        seen (dataRun {} (transmittingServer [98]) [.timeout])) := by
  refine ⟨⟨⟨⟨⟨by decide, by decide, 2, by decide⟩, ⟨by decide, by decide, 2, by decide⟩⟩,
    by decide, by decide, by decide, by decide⟩, ⟨by decide, by decide, by decide, rfl⟩,
    dataPhase_encode (Or.inl rfl), by decide +kernel⟩, ?_, ?_⟩
  · exact ⟨_, _, rfl, rfl, ⟨by decide, by decide, by decide, rfl⟩, by decide, by decide, by decide,
      by decide, by decide⟩
  · exact ⟨⟨by decide, by decide, by decide, by decide, rfl⟩, by decide, by decide, by decide,
      by decide, by decide, by decide⟩

end Tftp
