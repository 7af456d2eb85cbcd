import Tftp.Delivery
import Tftp.Sender

/-!
# What all packet handlers have in common

Receiver or sender, client or server: a packet makes an operation call the handlers of its
user, send at most one packet, and go on waiting or report the end – in this order, and an
unexpected packet is answered with an ERROR packet unless it is one itself
(`Tftp.Handled`). `Tftp.PeerOperation` is the interface of the operations that do so, with an
instance for either role, and `Tftp.Outcome` is what an event does to the shared part of any
of the four operations.
-/

namespace Tftp

open OperationImpl Protocol

/-- Calls of the user's handlers: neither a transmission nor a report. -/
def Action.IsCall : Action → Prop
  | .start | .requestedTransferSize | .receivedTransferSize _ | .sendData _ _ | .receivedData _
  | .optionNegotiation _ => True
  | _ => False

/-- **What a handler sends**: nothing, or one packet, which is stored. -/
inductive Sent (peer : Endpoint) (stored : RawData) (counter : UInt32) :
    List Action → RawData → UInt32 → Prop
  | nothing : Sent peer stored counter [] stored counter
  | packet (p : Packet) : Sent peer stored counter [.send p.encode peer] p.encode 1

/-- **How a packet is answered that ends an operation without success**: not at all, if it is
an ERROR packet, and by one ERROR packet otherwise. -/
def Refused (peer : Endpoint) (r : Received) (sends : List Action) : Prop :=
  (∃ code message, r = .packet (.error code message)) ∧ sends = [] ∨
    (∀ code message, r ≠ .packet (.error code message)) ∧
      ∃ code message, sends = [.send (Packet.error code message).encode peer]

/-- **What a packet makes an operation do**, from a state in which it is connected to its peer
and waits for nothing. -/
structure Handled {δ : Type} (s s' : OperationImpl δ) (peer : Endpoint) (r : Received)
    (calls sends report : List Action) : Prop where
  settled : s'.Settled
  retries_eq : s'.tftpRetriesV = s.tftpRetriesV
  actions_eq : s'.actions = calls ++ sends ++ report
  calls_only : ∀ a ∈ calls, a.IsCall
  sent : Sent peer s.transmitPacketV s.transmitCounterV sends s'.transmitPacketV
    s'.transmitCounterV
  reported : report = [] ∧ s'.phase ≠ .done ∨
    ∃ status, report = s.completion status ∧ s'.phase = .done ∧
      (status ≠ .successful → Refused peer r sends)

theorem isCall_negotiation {calls : List Action} (h : Negotiation calls) :
    ∀ a ∈ calls, a.IsCall := by
  intro a ha
  rcases h a ha with ⟨options, rfl⟩ | ⟨n, rfl⟩ <;> trivial

theorem isCall_concat {calls : List Action} (hcalls : ∀ a ∈ calls, a.IsCall) {a : Action}
    (ha : a.IsCall) : ∀ b ∈ calls ++ [a], b.IsCall := by
  intro b hb
  rcases List.mem_append.mp hb with hb | hb
  · exact hcalls b hb
  · rwa [List.mem_singleton.mp hb]

theorem Failure.sent {peer : Endpoint} {stored packet : RawData} {counter counter' : UInt32}
    {negotiating : Prop} {r : Received} {errors : List Action} {status : TransferStatus}
    (h : Failure peer stored counter negotiating r errors status packet counter') :
    Sent peer stored counter errors packet counter' ∧ Refused peer r errors := by
  cases h with
  | reported code message status hstatus hstored =>
    exact ⟨.nothing, Or.inl ⟨⟨code, message, rfl⟩, rfl⟩⟩
  | rejected r code message status hpacket hstatus hillegal =>
    exact ⟨.packet (.error code message), Or.inr ⟨hpacket, code, message, rfl⟩⟩

/-- An operation whose packet handlers do what `Tftp.Handled` says. -/
class PeerOperation (σ : Type) (δ : outParam Type) [DataHandler δ] extends Operation σ δ where
  received_handled : ∀ s peer r, (base s).Ready peer → (base s).actions = [] →
    ∃ calls sends report,
      Handled (base s) (base (received s {} r)) peer r calls sends report

section Receiver

variable {v v' : ReceiverView} {peer : Endpoint} {r : Received} {acts : List Action} {p' : Phase}

/-- The end of a block is reported only when the file is over, and with success. -/
theorem closing_cases (v : ReceiverView) (peer : Endpoint) (data : RawData) :
    v.closing data = [] ∧ v.phaseAfter peer data ≠ .done ∨
      v.closing data = v.completion .successful ∧ v.phaseAfter peer data = .done := by
  rw [ReceiverView.closing, ReceiverView.phaseAfter, Phase.afterData]
  cases v.short data <;> cases v.dally <;> simp

/-- What a receiver does, cut into its three parts. -/
theorem ReceiverStep.handled (h : ReceiverStep v peer r acts p' v') :
    v'.retries = v.retries ∧ ∃ calls sends report, acts = calls ++ sends ++ report ∧
      (∀ a ∈ calls, a.IsCall) ∧ Sent peer v.packet v.counter sends v'.packet v'.counter ∧
      (report = [] ∧ p' ≠ .done ∨ ∃ status, report = v.completion status ∧ p' = .done ∧
        (status ≠ .successful → Refused peer r sends)) := by
  cases h with
  | repeated data =>
    refine ⟨rfl, [], _, v.closing data, rfl, by simp, .packet _, ?_⟩
    exact (closing_cases v peer data).imp id fun h => ⟨_, h.1, h.2, fun hne => absurd rfl hne⟩
  | accepted calls data hcalls hsize =>
    refine ⟨rfl, calls ++ [.receivedData data],
      [.send (Packet.acknowledgement v.block.next).encode peer], v.closing data, by simp, ?_,
      .packet _, ?_⟩
    · intro a ha
      rcases List.mem_append.mp ha with ha | ha
      · exact isCall_negotiation (negotiation_of_next hcalls) a ha
      · rw [List.mem_singleton.mp ha]
        trivial
    · exact (closing_cases v peer data).imp id fun h => ⟨_, h.1, h.2, fun hne => absurd rfl hne⟩
  | negotiated calls options timeout hcalls hblock =>
    exact ⟨rfl, calls, [.send (Packet.acknowledgement 0).encode peer], [], by simp,
      isCall_negotiation hcalls, .packet _, Or.inl ⟨rfl, by rintro ⟨⟩⟩⟩
  | failed _ calls errors status size timeout packet counter hcalls hfailure hsettings hdata =>
    exact ⟨rfl, calls, errors, v.completion status, rfl, isCall_negotiation hcalls,
      hfailure.sent.1, Or.inr ⟨status, rfl, rfl, fun _ => hfailure.sent.2⟩⟩

end Receiver

section Sender

variable {δ : Type} [TransmitDataHandler δ] {v v' : SenderView δ} {peer : Endpoint} {r : Received}
  {acts calls : List Action} {p' : Phase} {state : δ}

omit [TransmitDataHandler δ] in
theorem SenderView.Consulted.isCall {options : Options} (h : v.Consulted options calls state) :
    ∀ a ∈ calls, a.IsCall := by
  rcases h with ⟨rfl, -⟩ | ⟨-, rfl⟩ <;> simp [Action.IsCall]

omit [TransmitDataHandler δ] in
theorem SenderView.Acknowledged.isCall (h : v.Acknowledged calls state) :
    ∀ a ∈ calls, a.IsCall := by
  rcases h with ⟨rfl, -⟩ | ⟨-, h⟩
  · simp
  · exact h.isCall

theorem isCall_concat_sendData (hcalls : ∀ a ∈ calls, a.IsCall) (maxSize : ℕ) (data : RawData) :
    ∀ a ∈ calls ++ [.sendData maxSize data], a.IsCall :=
  isCall_concat hcalls trivial

/-- What a sender does, cut into its three parts. -/
theorem SenderStep.handled (h : SenderStep v peer r acts p' v') :
    v'.retries = v.retries ∧ ∃ calls sends report, acts = calls ++ sends ++ report ∧
      (∀ a ∈ calls, a.IsCall) ∧ Sent peer v.packet v.counter sends v'.packet v'.counter ∧
      (report = [] ∧ p' ≠ .done ∨ ∃ status, report = v.completion status ∧ p' = .done ∧
        (status ≠ .successful → Refused peer r sends)) := by
  cases h with
  | repeated => exact ⟨rfl, [], [], [], rfl, by simp, .nothing, Or.inl ⟨rfl, by rintro ⟨⟩⟩⟩
  | next calls state hcalls hne hlast =>
    exact ⟨rfl, calls ++ [.sendData v.dataSize.toNat (v.acknowledged state).block], _, [],
      by simp only [SenderView.sending, List.append_assoc, List.append_nil]; rfl,
      isCall_concat_sendData hcalls.isCall _ _, .packet _, Or.inl ⟨rfl, by rintro ⟨⟩⟩⟩
  | completed calls state hcalls hne hlast =>
    exact ⟨rfl, calls, [], v.completion .successful, by simp, hcalls.isCall, .nothing,
      Or.inr ⟨_, rfl, rfl, fun hne => absurd rfl hne⟩⟩
  | negotiated calls state options remaining size timeout htakes hreceived hcalls hsize =>
    exact ⟨rfl, calls ++ [.sendData size.toNat (v.negotiated size timeout state).block], _, [],
      by simp only [SenderView.sending, List.append_assoc, List.append_nil]; rfl,
      isCall_concat_sendData hcalls.isCall _ _, .packet _, Or.inl ⟨rfl, by rintro ⟨⟩⟩⟩
  | failed _ calls errors status v' hcalls hfailure hretries htransmitted hlast hsettings hack =>
    refine ⟨hretries, calls, errors, v.completion status, rfl, ?_, hfailure.sent.1,
      Or.inr ⟨status, rfl, rfl, fun _ => hfailure.sent.2⟩⟩
    rcases hcalls with rfl | ⟨options, rfl⟩ <;> simp [Action.IsCall]

end Sender

instance (priority := low) ReceivingOperation.toPeerOperation {σ δ : Type} [DataHandler δ]
    [ReceivingOperation σ δ] : PeerOperation σ δ where
  received_handled s peer r hready hactions := by
    obtain ⟨hset, hstep⟩ := ReceivingOperation.received_step s peer r hready hactions
    obtain ⟨hretries, calls, sends, report, hacts, hcalls, hsent, hreport⟩ := hstep.handled
    simp only [ReceivingOperation.view_retries, ReceivingOperation.view_packet,
      ReceivingOperation.view_counter, ReceiverView.completion,
      ReceivingOperation.view_reports] at hretries hsent hreport
    exact ⟨calls, sends, report, hset, hretries, hacts, hcalls, hsent, hreport⟩

instance (priority := low) SendingOperation.toPeerOperation {σ δ : Type} [TransmitDataHandler δ]
    [SendingOperation σ δ] : PeerOperation σ δ where
  received_handled s peer r hready hactions := by
    obtain ⟨hset, hstep⟩ := SendingOperation.received_step s peer r hready hactions
    obtain ⟨hretries, calls, sends, report, hacts, hcalls, hsent, hreport⟩ := hstep.handled
    rw [SendingOperation.view_base s, SendingOperation.view_base
      (Operation.received s {} r)] at hretries hsent
    rw [SendingOperation.view_base s] at hreport
    exact ⟨calls, sends, report, hset, hretries, hacts, hcalls, hsent, hreport⟩

/-- **What an event does to the shared part of any operation**, between two states in which
it has settled. -/
inductive Outcome {δ : Type} [DataHandler δ] (s : OperationImpl δ) :
    PeerEvent → OperationImpl δ → Prop
  /-- No handler waits for the event. -/
  | idle (e : PeerEvent)
      (hidle : s.phase = .done ∨ ∃ peer source rawPacket,
        (s.phase = .waiting peer ∨ s.phase = .dallying peer) ∧ source ≠ peer ∧
          e = .datagram source rawPacket) :
      Outcome s e s.cleared
  /-- A datagram from another address than the expected one. -/
  | foreign (server : Address) (source : Endpoint) (rawPacket : RawData)
      (hphase : s.phase = .requesting server) (hsource : source.address ≠ server) :
      Outcome s (.datagram source rawPacket)
        { s.cleared.emit (.sendUnknown
          (Packet.error .unknownTransferId (ascii "Packet from wrong source")).encode source) with
          receiveEndpointV := source }
  /-- The stored packet is sent again. -/
  | resend (destination : Endpoint)
      (hphase : (∃ server, s.phase = .requesting server) ∧ destination = s.remoteV ∨
        s.phase = .waiting destination)
      (hretries : s.transmitCounterV.toNat ≤ s.tftpRetriesV.toNat) :
      Outcome s .timeout (s.cleared.resent destination)
  /-- The stored packet was sent often enough. -/
  | expire (hphase : (∃ server, s.phase = .requesting server) ∨ ∃ peer, s.phase = .waiting peer)
      (hretries : s.tftpRetriesV.toNat < s.transmitCounterV.toNat) :
      Outcome s .timeout (s.cleared.completed .communicationError none)
  /-- Nothing was repeated. -/
  | dallied (peer : Endpoint) (hphase : s.phase = .dallying peer) :
      Outcome s .timeout (s.cleared.completed .successful none)
  /-- The packet is handled. -/
  | received (source lastEndpoint : Endpoint) (rawPacket : RawData) (s' : OperationImpl δ)
      (calls sends report : List Action) (hphase : s.phase.admits source)
      (hhandled : Handled (s.takenUp source lastEndpoint) s' source
        (PacketHandler.packet (rawPacket.take s.receivePacketV)) calls sends report) :
      Outcome s (.datagram source rawPacket) s'

namespace Outcome

variable {δ : Type} [DataHandler δ] {s s' : OperationImpl δ} {e : PeerEvent}

theorem settled (h : Outcome s e s') (hset : s.Settled) : s'.Settled := by
  cases h with
  | idle | foreign => exact hset
  | resend destination => exact settled_resent hset destination
  | expire | dallied => exact (settled_completed (s := s.cleared) hset.1 _ none).1
  | received source lastEndpoint rawPacket _ calls sends report hphase hhandled =>
    exact hhandled.settled

/-- **What is over stays over**, and nothing is done any more. -/
theorem of_done (h : Outcome s e s') (hdone : s.phase = .done) :
    s'.actions = [] ∧ s'.phase = .done := by
  cases h with
  | idle => exact ⟨rfl, hdone⟩
  | foreign server _ _ hphase =>
    rw [hdone] at hphase
    cases hphase
  | resend destination hphase =>
    rw [hdone] at hphase
    rcases hphase with ⟨⟨server, hp⟩, -⟩ | hp <;> cases hp
  | expire hphase =>
    rw [hdone] at hphase
    rcases hphase with ⟨server, hp⟩ | ⟨peer, hp⟩ <;> cases hp
  | dallied peer hphase =>
    rw [hdone] at hphase
    cases hphase
  | received _ _ _ _ _ _ _ hphase =>
    rw [hdone] at hphase
    exact hphase.elim

end Outcome

namespace Operation

variable {σ δ : Type} [DataHandler δ] [PeerOperation σ δ] {init s : σ}
  {history : List (Transition σ PeerEvent)}

/-- **Every event has one of these outcomes.** -/
theorem outcome (h : (base s).Settled) (e : PeerEvent) :
    Outcome (base s) e (base (peerStep s e)) := by
  generalize hs' : peerStep s e = s'
  have hr := reaction h e
  rw [hs'] at hr
  cases hr with
  | idle _ hidle =>
    rw [base_withBase]
    exact .idle e hidle
  | foreign server source rawPacket hphase hsource =>
    rw [base_withBase]
    exact .foreign server source rawPacket hphase hsource
  | resend destination hphase hretries =>
    rw [base_withBase]
    exact .resend destination hphase hretries
  | expire hphase hretries =>
    rw [base_withBase]
    exact .expire hphase hretries
  | dallied peer hphase =>
    rw [base_withBase]
    exact .dallied peer hphase
  | received source lastEndpoint rawPacket hphase hready =>
    obtain ⟨calls, sends, report, hhandled⟩ := PeerOperation.received_handled
      (withBase s ((base s).takenUp source lastEndpoint)) source
      (PacketHandler.packet (rawPacket.take (base s).receivePacketV))
      (by rw [base_withBase]; exact hready) (by rw [base_withBase]; rfl)
    rw [base_withBase] at hhandled
    exact .received source lastEndpoint rawPacket _ calls sends report hphase hhandled

theorem settled_run (hset : (base init).Settled) (hrun : Run peerStep init history s) :
    (base s).Settled :=
  hrun.invariant (P := fun s => (base s).Settled) hset fun _ e h => (outcome h e).settled h

/-- The outcome of each transition of a run. -/
theorem outcome_at (hset : (base init).Settled) (hrun : Run peerStep init history s) :
    ∀ before t after, history = before ++ t :: after →
      Outcome (base t.pre) t.event (base t.post) := by
  intro before t after heq
  have ho := outcome (settled_run hset (hrun.before before t after heq)) t.event
  rwa [← hrun.post_eq t (by rw [heq]; simp)] at ho

/-- After the end of an operation no event makes it do anything. -/
theorem silent_after_done (hset : (base init).Settled) (hrun : Run peerStep init history s) :
    ∀ before t after, history = before ++ t :: after → (base t.post).phase = .done →
      (∀ u ∈ after, actions u.post = []) ∧ (base s).phase = .done := by
  intro before t after heq hdone
  have hat : ∀ u ∈ after, Outcome (base u.pre) u.event (base u.post) := by
    intro u hu
    obtain ⟨past, rest, rfl⟩ := List.append_of_mem hu
    exact outcome_at hset hrun (before ++ t :: past) u rest (by rw [heq]; simp)
  obtain ⟨hend, hpre⟩ := hrun.since (P := fun s => (base s).phase = .done) before t after heq hdone
    fun u hu h => ((hat u hu).of_done h).2
  exact ⟨fun u hu => ((hat u hu).of_done (hpre u hu)).1, hend⟩

end Operation

end Tftp
