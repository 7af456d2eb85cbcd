import Tftp.Packets.Grammar
import Tftp.WriteTransfer

/-!
# Every transfer ends

Whatever gets lost or is overtaken, and whenever a timer expires: as long as the network delivers
no datagram twice, a transfer comes to its end. The restriction is needed: a datagram that is
delivered again starts the timer anew, so that a network that delivers one over and over, each time
before the timer expires, keeps the other side waiting for ever.

## What is counted

A sender can send so many packets, since the file is finite and each block is repeated a limited
number of times (`Tftp.SenderView.outlay`); every packet of the sender makes the receiver send one,
and repeat it a limited number of times (`Tftp.ReceiverView.reserve`); and every packet that is
under way is delivered or lost once.

This is counted by a potential (`Tftp.Transfer.potential`), in which a packet that can still be
sent pays in advance for what it can cause at the other side. The exchange rate between the two
sides is not the same in both directions. An acknowledgement of a block causes nothing that is not
paid for by the block that it makes the sender send, so it is worth one event. But an
acknowledgement of options makes the client send a block without any progress in the file, and that
block is repeated and answered like any other; so it carries the price of all that
(`Tftp.Transfer.price`, `Tftp.weight`).

No event raises the potential, and one that finds something to do lowers it
(`Tftp.Transfer.potential_step`), so that there are only so many of those, by the general rule of
potentials (`Protocol.Run.countP_le`). What the potential is worth at the start depends on the
length of the file and on the two limits of repetitions, and on nothing else.

## What the end is

When no event finds anything to do any more, no timer is running and nothing is under way that
anybody would receive. An operation that is not over has its timer running; so both are over, and
an operation that is over has reported how (`Tftp.Transfer.Reported`, `Tftp.read_ends`,
`Tftp.write_ends`).
-/

namespace Tftp

open Protocol Operation OperationImpl

/-! ### How long an operation waits -/

/-- How many expiries of its timer an operation gets along with, and the one that ends it. -/
def patience (retries : UInt16) (counter : UInt32) : ℕ :=
  retries.toNat + 1 - counter.toNat + 1

theorem patience_pos (retries : UInt16) (counter : UInt32) : 1 ≤ patience retries counter :=
  Nat.le_add_left 1 _

/-- A new packet can be repeated as often as the settings say. -/
theorem patience_one (retries : UInt16) : patience retries 1 = retries.toNat + 1 := by
  rw [patience]
  rfl

/-- A repetition is counted. -/
theorem patience_succ {retries : UInt16} {counter : UInt32}
    (h : counter.toNat ≤ retries.toNat) :
    patience retries (counter + 1) + 1 = patience retries counter := by
  have hcounter : (counter + 1).toNat = counter.toNat + 1 := by
    have hlt : retries.toNat < 2 ^ 16 := retries.toNat_lt
    rw [UInt32.toNat_add]
    exact Nat.mod_eq_of_lt (by
      simp only [UInt32.reduceToNat]
      omega)
  rw [patience, patience, hcounter]
  omega

theorem length_sentTo_singleton {destination : Endpoint} (a : Action) :
    (sentTo destination [a]).length ≤ 1 := List.length_filterMap_le _ _

/-- An operation that gets over reports it. -/
theorem Outcome.reported {δ : Type} [DataHandler δ] {s s' : OperationImpl δ} {e : PeerEvent}
    (h : Outcome s e s') (hdone : s'.phase = .done) :
    s.phase = .done ∨ ∃ status, .finished status ∈ s'.actions := by
  cases h with
  | idle | foreign => exact Or.inl hdone
  | resend destination =>
    rw [phase_resent] at hdone
    exact Or.inl hdone
  | expire | dallied => exact Or.inr ⟨_, List.mem_append_right _ List.mem_cons_self⟩
  | received source lastEndpoint rawPacket _ calls sends report hphase hhandled =>
    rcases hhandled.reported with ⟨-, hne⟩ | ⟨status, rfl, -⟩
    · exact absurd hdone hne
    · rw [hhandled.actions_eq]
      exact Or.inr ⟨status, List.mem_append_right _ List.mem_cons_self⟩

/-! ### How much a sender has to send -/

/-- A data handler whose data come to an end: a full block leaves less behind. -/
class FiniteDataHandler (δ : Type) extends TransmitDataHandler δ where
  /-- What is left to be sent. -/
  left : δ → ℕ
  left_lt : ∀ handler maxSize, 0 < maxSize →
    maxSize ≤ (TransmitDataHandler.sendData handler maxSize).1.length →
      left (TransmitDataHandler.sendData handler maxSize).2 < left handler

theorem MemoryFile.left_lt (file : MemoryFile) (maxSize : ℕ) (hpos : 0 < maxSize)
    (hfull : maxSize ≤ (file.sendData maxSize).1.length) :
    (file.sendData maxSize).2.dataV.length - (file.sendData maxSize).2.dataPtr <
      file.dataV.length - file.dataPtr := by
  have hptr := file.dataPtr_le
  simp only [MemoryFile.sendData, List.length_drop, List.length_take] at hfull ⊢
  split_ifs at hfull ⊢ <;> omega

instance instFiniteMemoryFile : FiniteDataHandler MemoryFile where
  left file := file.dataV.length - file.dataPtr
  left_lt := MemoryFile.left_lt

/-- A block size that is negotiated is not zero. -/
theorem positive_of_getOption {options : Options} {size size' : UInt16} (hpos : 0 < size.toNat)
    (h : size' = ((options.getOption 16 (tftpOptionsName .blockSize) blockSizeOptionMin
      blockSizeOptionMax).1.2.map UInt16.ofNat).getD size) : 0 < size'.toNat := by
  rw [h]
  rcases hvalue : (options.getOption 16 (tftpOptionsName .blockSize) blockSizeOptionMin
    blockSizeOptionMax).1.2 with _ | n
  · exact hpos
  · obtain ⟨hmin, hmax⟩ := Options.getOption_value hvalue (by decide)
    rw [blockSizeOptionMin] at hmin
    rw [blockSizeOptionMax] at hmax
    rw [Option.map_some, Option.getD_some, UInt16.toNat_ofNat', Nat.mod_eq_of_lt (by omega)]
    omega

section Sender

variable {δ : Type} [FiniteDataHandler δ] {v v' : SenderView δ} {peer : Endpoint} {r : Received}
  {acts : List Action} {p p' : Phase}

open FiniteDataHandler

/-- How many blocks a sender may still have to send. -/
def SenderView.supply (v : SenderView δ) : ℕ := if v.last then 0 else left v.handler + 1

/-- How many packets a sender may still have to send, repetitions included, and one more for an
ERROR packet. -/
def SenderView.outlay (v : SenderView δ) (p : Phase) : ℕ :=
  if p = .done then 0 else v.supply * (v.retries.toNat + 1) + patience v.retries v.counter

theorem SenderView.outlay_of_ne (h : p ≠ .done) :
    v.outlay p = v.supply * (v.retries.toNat + 1) + patience v.retries v.counter := if_neg h

theorem SenderView.outlay_done (v : SenderView δ) : v.outlay .done = 0 := if_pos rfl

theorem SenderView.one_le_outlay (h : p ≠ .done) : 1 ≤ v.outlay p := by
  rw [SenderView.outlay_of_ne h]
  exact (patience_pos _ _).trans (Nat.le_add_left _ _)

/-- What a sender needs in order to get anywhere: blocks that are not empty, and a file that is
left alone. -/
structure SenderView.Productive (v : SenderView δ) : Prop where
  dataSize_pos : 0 < v.dataSize.toNat
  keepsFile : v.KeepsFile

/-- **The next block** is one block less to be sent. -/
theorem SenderView.supply_advanced (hsize : 0 < v.dataSize.toNat) :
    v.advanced.supply ≤ v.supply ∧ (v.last = false → v.advanced.supply + 1 ≤ v.supply) := by
  have hsupply : v.advanced.supply =
      if (if v.block.length < v.dataSize.toNat then true else v.last) then 0
      else left (TransmitDataHandler.sendData v.handler v.dataSize.toNat).2 + 1 := rfl
  rw [hsupply, SenderView.supply]
  cases v.last with
  | true => simp
  | false =>
    have hfull : ¬ v.block.length < v.dataSize.toNat →
        left (TransmitDataHandler.sendData v.handler v.dataSize.toNat).2 < left v.handler :=
      fun hshort => left_lt v.handler v.dataSize.toNat hsize (Nat.le_of_not_lt hshort)
    by_cases hshort : v.block.length < v.dataSize.toNat
    · simp [hshort]
    · have hlt := hfull hshort
      simp only [hshort, if_false, Bool.false_eq_true, forall_const]
      omega

/-- The next block is sent, by a sender that is otherwise like another one. -/
theorem SenderView.outlay_advanced (u v : SenderView δ) (peer : Endpoint)
    (hsize : 0 < u.dataSize.toNat) (hp : p ≠ .done) (hsupply : u.supply = v.supply)
    (hretries : u.retries = v.retries) :
    u.advanced.outlay (.waiting peer) ≤ v.outlay p + v.retries.toNat ∧
      (u.last = false → u.advanced.outlay (.waiting peer) + 1 ≤ v.outlay p) := by
  obtain ⟨hle, hlt⟩ := SenderView.supply_advanced hsize
  have hpos := patience_pos v.retries v.counter
  have houtlay : u.advanced.outlay (.waiting peer) =
      u.advanced.supply * (v.retries.toNat + 1) + (v.retries.toNat + 1) := by
    rw [SenderView.outlay_of_ne (by rintro ⟨⟩), show u.advanced.retries = u.retries from rfl,
      hretries, show u.advanced.counter = 1 from rfl, patience_one]
  rw [houtlay, SenderView.outlay_of_ne hp, ← hsupply]
  constructor
  · have hmul := Nat.mul_le_mul_right (v.retries.toNat + 1) hle
    omega
  · intro hlast
    have hmul := Nat.mul_le_mul_right (v.retries.toNat + 1) (hlt hlast)
    rw [Nat.add_mul, Nat.one_mul] at hmul
    omega

/-- **What a packet costs a sender**: nothing, if it sends nothing, and otherwise one of the packets
that it had to send; unless it takes over options. -/
theorem SenderStep.outlay_le (h : SenderStep v peer r acts p' v') (hp : p ≠ .done)
    (hv : v.Productive) (destination : Endpoint) :
    v'.outlay p' + (sentTo destination acts).length ≤ v.outlay p ∨
      (∃ options, r = .packet (.optionsAcknowledgement options)) ∧
        v'.outlay p' ≤ v.outlay p + v.retries.toNat := by
  have hone := SenderView.one_le_outlay (v := v) hp
  cases h with
  | repeated =>
    refine Or.inl ?_
    rw [SenderView.outlay_of_ne hp, SenderView.outlay_of_ne (by rintro ⟨⟩)]
    exact le_refl _
  | next calls state hcalls hne hlast =>
    have hstate := hv.keepsFile.acknowledged hcalls
    have hcost := (SenderView.outlay_advanced (v.acknowledged state) v peer hv.dataSize_pos hp
      (by rw [hstate]; rfl) rfl).2 hlast
    refine Or.inl ?_
    rw [sentTo_calls_append hcalls.isCall]
    exact (Nat.add_le_add_left (length_sentTo_singleton _) _).trans hcost
  | completed calls state hcalls hne hlast =>
    refine Or.inl ?_
    rw [sentTo_calls_append hcalls.isCall, SenderView.completion, sentTo_completion,
      SenderView.outlay_done]
    exact Nat.zero_le _
  | negotiated calls state options remaining size timeout htakes hreceived hcalls hsize =>
    have hstate := hv.keepsFile.consulted hcalls
    have hpos : 0 < size.toNat := positive_of_getOption hv.dataSize_pos hsize
    have hcost := (SenderView.outlay_advanced (v.negotiated size timeout state) v peer hpos hp
      (by rw [hstate]; rfl) rfl).1
    exact Or.inr ⟨⟨options, rfl⟩, hcost⟩
  | failed _ calls errors status v' hcalls hfailure hretries htransmitted hlast hsettings hack =>
    refine Or.inl ?_
    have hcalls' : ∀ a ∈ calls, a.IsCall := by
      rcases hcalls with rfl | ⟨options, rfl⟩ <;> simp [Action.IsCall]
    rw [List.append_assoc, sentTo_calls_append hcalls', sentTo_append, SenderView.completion,
      sentTo_completion, List.append_nil, SenderView.outlay_done, Nat.zero_add]
    rcases hfailure.errors_cases with rfl | ⟨code, message, rfl⟩
    · exact Nat.zero_le _
    · exact (length_sentTo_singleton _).trans hone

/-- **A sender stays productive**, as long as it is not over. -/
theorem SenderStep.productive (h : SenderStep v peer r acts p' v') (hv : v.Productive)
    (hp : p' ≠ .done) : v'.Productive ∧ p' = .waiting peer := by
  cases h with
  | repeated | next => exact ⟨⟨hv.dataSize_pos, hv.keepsFile⟩, rfl⟩
  | negotiated calls state options remaining size timeout htakes hreceived hcalls hsize =>
    exact ⟨⟨positive_of_getOption hv.dataSize_pos hsize, hv.keepsFile⟩, rfl⟩
  | completed | failed => exact absurd rfl hp

/-- What arrives is of the type that was sent, even if it is cut off. -/
theorem PacketHandler.packetType_of_take {rawPacket : RawData} {buffer : ℕ} {q : Packet}
    (h : PacketHandler.packet (rawPacket.take buffer) = .packet q) :
    Packet.packetType rawPacket = q.type := by
  rw [PacketHandler.packet] at h
  cases hd : Packet.decodeAs (Packet.packetType (rawPacket.take buffer))
    (rawPacket.take buffer) with
  | error e =>
    rw [hd] at h
    cases h
  | ok q' =>
    rw [hd] at h
    obtain rfl : q' = q := by simpa using h
    obtain ⟨body, hbody⟩ := Packet.header_of_decodeAs hd
    rw [← Packet.type_of_decodeAs hd] at hbody
    rw [← List.take_append_drop buffer rawPacket, hbody, List.append_assoc]
    exact Packet.packetType_setInt _ _

/-- A packet is answered by at most one packet. -/
theorem SenderStep.length_sentTo (h : SenderStep v peer r acts p' v') (destination : Endpoint) :
    (sentTo destination acts).length ≤ 1 := by
  obtain ⟨-, calls, sends, report, rfl, hcalls, hsent, hreport⟩ := h.handled
  have hnil : sentTo destination report = [] := by
    rcases hreport with ⟨rfl, -⟩ | ⟨status, rfl, -⟩
    · rfl
    · exact sentTo_completion _ _ _
  rw [List.append_assoc, sentTo_calls_append hcalls, sentTo_append, hnil, List.append_nil]
  generalize v'.packet = packet at hsent
  generalize v'.counter = counter at hsent
  cases hsent with
  | nothing => exact Nat.zero_le 1
  | packet p => exact length_sentTo_singleton _

/-- **What a datagram costs a sender.** -/
theorem SenderReaction.outlay_datagram {source : Endpoint} {rawPacket : RawData}
    (h : SenderReaction v p (.datagram source rawPacket) acts p' v')
    (hv : p ≠ .done → v.Productive)
    (haddress : ∀ server, p = .requesting server → source.address = server)
    (destination : Endpoint) :
    v'.outlay p' + (sentTo destination acts).length ≤ v.outlay p ∨
      Packet.packetType rawPacket = .optionsAcknowledgement ∧
        (sentTo destination acts).length ≤ 1 ∧ v'.outlay p' ≤ v.outlay p + v.retries.toNat := by
  generalize he : PeerEvent.datagram source rawPacket = e at h
  cases h with
  | idle => exact Or.inl (le_refl _)
  | foreign server source' _ hphase hsource =>
    cases he
    exact absurd (haddress server hphase) hsource
  | resend | expire | dallied => cases he
  | received source' _ hphase hstep =>
    cases he
    have hp : p ≠ .done := admits_ne_done hphase
    refine (hstep.outlay_le hp (hv hp) destination).imp id fun ⟨⟨options, ho⟩, hle⟩ => ?_
    exact ⟨PacketHandler.packetType_of_take ho, hstep.length_sentTo destination, hle⟩

/-- **What an expiry of the timer costs a sender** that is not over. -/
theorem SenderReaction.outlay_timeout (h : SenderReaction v p .timeout acts p' v')
    (hp : p ≠ .done) (destination : Endpoint) :
    v'.outlay p' + 1 ≤ v.outlay p ∧ (sentTo destination acts).length ≤ 1 := by
  have hone := SenderView.one_le_outlay (v := v) hp
  generalize he : PeerEvent.timeout = e at h
  cases h with
  | idle _ hidle =>
    subst he
    rcases hidle with hdone | ⟨peer, source, rawPacket, -, -, heq⟩
    · exact absurd hdone hp
    · cases heq
  | foreign | received => cases he
  | resend destination' hphase hretries =>
    refine ⟨?_, length_sentTo_singleton _⟩
    have hsucc := patience_succ hretries
    rw [SenderView.outlay_of_ne hp, SenderView.outlay_of_ne hp, ← hsucc]
    exact le_refl _
  | expire | dallied =>
    rw [SenderView.outlay_done, SenderView.completion, sentTo_completion]
    exact ⟨hone, Nat.zero_le 1⟩

/-- What a sender is from one event to the next, as long as it is not over. -/
theorem SenderReaction.productive {e : PeerEvent} (h : SenderReaction v p e acts p' v')
    (hv : p ≠ .done → v.Productive) (hp : p' ≠ .done) :
    v'.Productive ∧ (p' = p ∨ ∃ peer, p' = .waiting peer) := by
  cases h with
  | idle | foreign | resend =>
    have hprod := hv hp
    exact ⟨⟨hprod.dataSize_pos, hprod.keepsFile⟩, Or.inl rfl⟩
  | expire | dallied => exact absurd rfl hp
  | received source _ hphase hstep =>
    obtain ⟨hprod, hwaiting⟩ := hstep.productive (hv (admits_ne_done hphase)) hp
    exact ⟨hprod, Or.inr ⟨source, hwaiting⟩⟩

theorem SenderReaction.retries_eq {e : PeerEvent} (h : SenderReaction v p e acts p' v') :
    v'.retries = v.retries := by
  cases h with
  | idle | foreign | resend | expire | dallied => rfl
  | received source _ hphase hstep => exact hstep.handled.1

end Sender

/-! ### How much a receiver has to send -/

/-- What a datagram can cause: `price`, if it acknowledges options, and otherwise nothing that is
not paid for by the block that is sent. -/
def weight (price : ℕ) (rawPacket : RawData) : ℕ :=
  if Packet.packetType rawPacket = .optionsAcknowledgement then price else 1

theorem weight_of_ne {price : ℕ} {rawPacket : RawData}
    (h : Packet.packetType rawPacket ≠ .optionsAcknowledgement) : weight price rawPacket = 1 :=
  if_neg h

theorem weight_encode {price : ℕ} {packet : Packet} (h : packet.type ≠ .optionsAcknowledgement) :
    weight price packet.encode = 1 := weight_of_ne (by rwa [Packet.packetType_encode])

theorem one_le_weight {price : ℕ} (h : 1 ≤ price) (rawPacket : RawData) :
    1 ≤ weight price rawPacket := by
  rw [weight]
  split_ifs
  · exact h
  · exact le_refl 1

/-- What datagrams can cause in total. -/
def weights (price : ℕ) (rawPackets : List RawData) : ℕ := (rawPackets.map (weight price)).sum

section Receiver

variable {price : ℕ} {v v' : ReceiverView} {peer : Endpoint} {r : Received} {acts : List Action}
  {p p' : Phase}

@[simp] theorem weights_nil : weights price [] = 0 := rfl

@[simp] theorem weights_append (l l' : List RawData) :
    weights price (l ++ l') = weights price l + weights price l' := by
  simp [weights]

/-- What the repetitions of its stored packet can cause. -/
def ReceiverView.reserve (price : ℕ) (v : ReceiverView) (p : Phase) : ℕ :=
  if p = .done then 0 else patience v.retries v.counter * (weight price v.packet + 1)

theorem ReceiverView.reserve_done : v.reserve price .done = 0 := if_pos rfl

theorem ReceiverView.reserve_of_ne (h : p ≠ .done) :
    v.reserve price p = patience v.retries v.counter * (weight price v.packet + 1) := if_neg h

variable (price) in
theorem ReceiverView.reserve_le (v : ReceiverView) (p : Phase) :
    v.reserve price p ≤ patience v.retries v.counter * (weight price v.packet + 1) := by
  rw [ReceiverView.reserve]
  split_ifs
  · exact Nat.zero_le _
  · exact le_refl _

theorem ReceiverView.two_le_reserve (hprice : 1 ≤ price) (h : p ≠ .done) :
    2 ≤ v.reserve price p := by
  rw [ReceiverView.reserve_of_ne h]
  exact Nat.mul_le_mul (patience_pos v.retries v.counter)
    (Nat.succ_le_succ (one_le_weight hprice v.packet))

/-- **What a receiver sends is an acknowledgement of a block, or an ERROR packet**: its options were
acknowledged before. -/
theorem ReceiverStep.sends (h : ReceiverStep v peer r acts p' v') (destination : Endpoint) :
    v'.retries = v.retries ∧
      (sentTo destination acts = [] ∧ v'.packet = v.packet ∧ v'.counter = v.counter ∨
        ∃ q : Packet, q.type ≠ .optionsAcknowledgement ∧
          sentTo destination acts = sentTo destination [.send q.encode peer] ∧
          v'.packet = q.encode ∧ v'.counter = 1) := by
  have hcalled : ∀ {calls : List Action} (sends report : List Action), (∀ a ∈ calls, a.IsCall) →
      (∀ a ∈ report, a.onWire = none) →
        sentTo destination (calls ++ (sends ++ report)) = sentTo destination sends := by
    intro calls sends report hcalls hreport
    rw [sentTo_calls_append hcalls, sentTo_append, sentTo_of_onWire hreport, List.append_nil]
  cases h with
  | repeated data =>
    refine ⟨rfl, Or.inr ⟨.acknowledgement v.block, by rintro ⟨⟩, ?_, rfl, rfl⟩⟩
    rw [← hcalled [.send (Packet.acknowledgement v.block).encode peer] (v.closing data)
      (List.forall_mem_nil _) (onWire_closing data)]
    rfl
  | accepted calls data hcalls hsize =>
    have hcalls' := isCall_concat (isCall_negotiation (negotiation_of_next hcalls))
      (a := .receivedData data) trivial
    refine ⟨rfl, Or.inr ⟨.acknowledgement v.block.next, by rintro ⟨⟩, ?_, rfl, rfl⟩⟩
    rw [← hcalled [.send (Packet.acknowledgement v.block.next).encode peer] (v.closing data) hcalls'
      (onWire_closing data)]
    simp
  | negotiated calls options timeout hcalls hblock =>
    refine ⟨rfl, Or.inr ⟨.acknowledgement 0, by rintro ⟨⟩, ?_, rfl, rfl⟩⟩
    rw [← hcalled [.send (Packet.acknowledgement 0).encode peer] [] (isCall_negotiation hcalls)
      (by simp), List.append_nil]
  | failed _ calls errors status size timeout packet counter hcalls hfailure hsettings hdata =>
    rw [List.append_assoc, ReceiverView.completion, hcalled errors _ (isCall_negotiation hcalls)
      (onWire_completion _ _)]
    cases hfailure with
    | reported => exact ⟨rfl, Or.inl ⟨rfl, rfl, rfl⟩⟩
    | rejected _ code message =>
      exact ⟨rfl, Or.inr ⟨.error code message, by rintro ⟨⟩, rfl, rfl, rfl⟩⟩

theorem weights_sentTo_send (price : ℕ) (peer destination : Endpoint) {q : Packet}
    (h : q.type ≠ .optionsAcknowledgement) :
    weights price (sentTo destination [.send q.encode peer]) ≤ 1 := by
  simp only [sentTo, List.filterMap_cons, List.filterMap_nil, Action.sentTo]
  split_ifs
  · simp [weights, weight_encode h]
  · simp

theorem ReceiverReaction.retries_eq {e : PeerEvent} (h : ReceiverReaction v p e acts p' v') :
    v'.retries = v.retries := by
  cases h with
  | idle | foreign | resend | expire | dallied => rfl
  | received source _ hphase hstep => exact (hstep.sends source).1

/-- **What a datagram costs a receiver**: it may have to repeat the answer as often as its settings
say. -/
theorem ReceiverReaction.reserve_datagram {source : Endpoint} {rawPacket : RawData}
    (h : ReceiverReaction v p (.datagram source rawPacket) acts p' v') (hprice : 1 ≤ price)
    (destination : Endpoint) :
    v'.reserve price p' + weights price (sentTo destination acts) ≤
      v.reserve price p + (2 * v.retries.toNat + 1) := by
  generalize he : PeerEvent.datagram source rawPacket = e at h
  cases h with
  | idle => exact Nat.le_add_right _ _
  | foreign server source' _ hphase hsource =>
    have hone : weights price (sentTo destination [.sendUnknown (Packet.error .unknownTransferId
        (ascii "Packet from wrong source")).encode source']) ≤ 1 :=
      weights_sentTo_send price source' destination (q := .error .unknownTransferId _)
        (by rintro ⟨⟩)
    exact Nat.add_le_add_left (hone.trans (Nat.le_add_left 1 _)) _
  | resend | expire | dallied => cases he
  | received source' _ hphase hstep =>
    cases he
    have hp : p ≠ .done := admits_ne_done hphase
    obtain ⟨hretries, hcases⟩ := hstep.sends destination
    have hle := v'.reserve_le price p'
    rw [hretries] at hle
    rcases hcases with ⟨hnil, hpacket, hcounter⟩ | ⟨q, hq, hsent, hpacket, hcounter⟩
    · -- nothing is sent
      rw [hpacket, hcounter, ← ReceiverView.reserve_of_ne hp] at hle
      rw [hnil, weights_nil]
      omega
    · -- a new packet is sent
      have hone := weights_sentTo_send price source destination hq
      have hreserve := v.two_le_reserve hprice hp
      rw [hpacket, hcounter, patience_one, weight_encode hq] at hle
      rw [hsent]
      omega

/-- **What an expiry of the timer costs a receiver** that is not over. -/
theorem ReceiverReaction.reserve_timeout (h : ReceiverReaction v p .timeout acts p' v')
    (hprice : 1 ≤ price) (hp : p ≠ .done) (destination : Endpoint) :
    v'.reserve price p' + weights price (sentTo destination acts) + 1 ≤ v.reserve price p := by
  have hreserve := v.two_le_reserve hprice hp
  generalize he : PeerEvent.timeout = e at h
  cases h with
  | idle _ hidle =>
    subst he
    rcases hidle with hdone | ⟨peer, source, rawPacket, -, -, heq⟩
    · exact absurd hdone hp
    · cases heq
  | foreign | received => cases he
  | resend destination' hphase hretries =>
    have hweight : weights price (sentTo destination [.resend v.packet destination']) ≤
        weight price v.packet := by
      simp only [sentTo, List.filterMap_cons, List.filterMap_nil, Action.sentTo]
      split_ifs
      · simp [weights]
      · simp
    rw [ReceiverView.reserve_of_ne hp, ReceiverView.reserve_of_ne hp, ← patience_succ hretries,
      Nat.add_mul, Nat.one_mul]
    dsimp only
    omega
  | expire | dallied =>
    rw [ReceiverView.reserve_done, ReceiverView.completion, sentTo_completion, weights_nil]
    omega

end Receiver

/-! ### What a transfer costs -/

/-- No datagram is delivered twice. -/
def NetworkEvent.Once : NetworkEvent → Prop
  | .toReceiver _ keep | .toSender _ keep => keep = false
  | _ => True

instance instDecidableOnce : DecidablePred NetworkEvent.Once
  | .toReceiver _ keep | .toSender _ keep => inferInstanceAs (Decidable (keep = false))
  | .loseToReceiver _ | .loseToSender _ | .receiverTimeout | .senderTimeout =>
      inferInstanceAs (Decidable True)

section Transfer

variable {σ τ δ ε : Type} [DataHandler δ] [FiniteDataHandler ε] [ReceivingOperation σ δ]
  [SendingOperation τ ε]

/-- Whether an event finds something to do: a datagram that is under way, or an operation that is
not over. -/
def Transfer.Effective (t : Transfer σ τ) : NetworkEvent → Prop
  | .toReceiver index _ | .loseToReceiver index => index < t.toReceiver.length
  | .toSender index _ | .loseToSender index => index < t.toSender.length
  | .receiverTimeout => (base t.receiver).phase ≠ .done
  | .senderTimeout => (base t.sender).phase ≠ .done

instance Transfer.instDecidableEffective (t : Transfer σ τ) : DecidablePred t.Effective
  | .toReceiver index _ | .loseToReceiver index =>
      inferInstanceAs (Decidable (index < t.toReceiver.length))
  | .toSender index _ | .loseToSender index =>
      inferInstanceAs (Decidable (index < t.toSender.length))
  | .receiverTimeout => inferInstanceAs (Decidable ((base t.receiver).phase ≠ .done))
  | .senderTimeout => inferInstanceAs (Decidable ((base t.sender).phase ≠ .done))

namespace Transfer

/-- What an acknowledgement of options can cause: that the sender sends a block that it did not have
to send, and repeats it as often as its settings say. -/
def price (receiverRetries senderRetries : ℕ) : ℕ :=
  (2 * receiverRetries + 3) * (senderRetries + 1)

/-- **What can still happen in a transfer**, at most. Each packet that the sender may have to send
pays for itself and for the answers of the receiver. -/
def potential (receiverRetries senderRetries : ℕ) (t : Transfer σ τ) : ℕ :=
  (2 * receiverRetries + 3) * (SendingOperation.view t.sender).outlay (base t.sender).phase +
    (2 * receiverRetries + 2) * t.toReceiver.length +
    (ReceivingOperation.view t.receiver).reserve (price receiverRetries senderRetries)
      (base t.receiver).phase +
    weights (price receiverRetries senderRetries) t.toSender

/-- What a transfer needs in order to get anywhere. -/
structure Productive (receiverV : Endpoint) (receiverRetries senderRetries : ℕ)
    (t : Transfer σ τ) : Prop where
  receiver_settled : (base t.receiver).Settled
  sender_settled : (base t.sender).Settled
  receiver_retries : (ReceivingOperation.view t.receiver).retries.toNat = receiverRetries
  sender_retries : (SendingOperation.view t.sender).retries.toNat = senderRetries
  sender_productive : (base t.sender).phase ≠ .done → (SendingOperation.view t.sender).Productive
  /-- The sender waits for the receiver. -/
  address : ∀ server, (base t.sender).phase = .requesting server → receiverV.address = server

variable {receiverV senderV : Endpoint} {r q : ℕ} {t : Transfer σ τ}

theorem one_le_price : 1 ≤ price r q := by
  rw [price]
  exact Nat.mul_pos (by omega) (by omega)

theorem weights_eraseIdx {price index : ℕ} {l : List RawData}
    {rawPacket : RawData} (h : l[index]? = some rawPacket) :
    weights price (l.eraseIdx index) + weight price rawPacket = weights price l := by
  obtain ⟨hindex, rfl⟩ := List.getElem?_eq_some_iff.mp h
  have hsum := List.add_sum_eraseIdx (l := l.map (weight price)) (i := index)
    (by simpa using hindex) fun a _ => AddCommute.all _ a
  rw [List.getElem_map] at hsum
  rw [weights, weights, ← List.eraseIdx_map, ← hsum, Nat.add_comm]

variable (senderV r q) in
/-- The receiver reacts: what changes in the potential. -/
theorem potential_receiverReacts (t : Transfer σ τ) (e : PeerEvent) :
    potential r q (receiverReacts senderV t e) + (ReceivingOperation.view t.receiver).reserve
        (price r q) (base t.receiver).phase =
      potential r q t + ((ReceivingOperation.view (peerStep t.receiver e)).reserve (price r q)
        (base (peerStep t.receiver e)).phase +
        weights (price r q) (sentTo senderV (actions (peerStep t.receiver e)))) := by
  simp only [potential, receiverReacts, weights_append]
  omega

variable (receiverV r q) in
/-- The sender reacts: what changes in the potential. -/
theorem potential_senderReacts (t : Transfer σ τ) (e : PeerEvent) :
    potential r q (senderReacts receiverV t e) +
        (2 * r + 3) * (SendingOperation.view t.sender).outlay (base t.sender).phase =
      potential r q t + ((2 * r + 3) * (SendingOperation.view (peerStep t.sender e)).outlay
        (base (peerStep t.sender e)).phase +
        (2 * r + 2) * (sentTo receiverV (actions (peerStep t.sender e))).length) := by
  simp only [potential, senderReacts, List.length_append, Nat.mul_add]
  omega

theorem Productive.receiverReacts (h : t.Productive receiverV r q) (e : PeerEvent) :
    (receiverReacts senderV t e).Productive receiverV r q := by
  obtain ⟨hset, hreaction⟩ := ReceivingOperation.receiverReaction h.receiver_settled e
  refine ⟨hset, h.sender_settled, ?_, h.sender_retries, h.sender_productive, h.address⟩
  rw [← h.receiver_retries, ← hreaction.retries_eq]
  rfl

theorem Productive.senderReacts (h : t.Productive receiverV r q) (e : PeerEvent) :
    (senderReacts receiverV t e).Productive receiverV r q := by
  obtain ⟨hset, hreaction⟩ := SendingOperation.senderReaction h.sender_settled e
  refine ⟨h.receiver_settled, hset, h.receiver_retries, ?_,
    fun hp => (hreaction.productive h.sender_productive hp).1, fun server hserver => ?_⟩
  · rw [← h.sender_retries, ← hreaction.retries_eq]
    rfl
  · replace hserver : (base (peerStep t.sender e)).phase = .requesting server := hserver
    have hp : (base (peerStep t.sender e)).phase ≠ .done := by
      rw [hserver]
      rintro ⟨⟩
    rcases (hreaction.productive h.sender_productive hp).2 with hsame | ⟨peer, hwaiting⟩
    · exact h.address server (hsame.symm.trans hserver)
    · cases hserver.symm.trans hwaiting

/-- A datagram is taken off the way to the receiver. -/
theorem potential_toReceiver {index : ℕ} (h : index < t.toReceiver.length) :
    potential r q { t with toReceiver := t.toReceiver.eraseIdx index } + (2 * r + 2) =
      potential r q t := by
  simp only [potential, List.length_eraseIdx, if_pos h]
  have hsucc := Nat.sub_add_cancel (Nat.one_le_of_lt h)
  generalize t.toReceiver.length - 1 = n at hsucc
  rw [← hsucc, Nat.mul_add (2 * r + 2) n 1]
  omega

/-- A datagram is taken off the way to the sender. -/
theorem potential_toSender {index : ℕ} {rawPacket : RawData}
    (h : t.toSender[index]? = some rawPacket) :
    potential r q { t with toSender := t.toSender.eraseIdx index } + weight (price r q) rawPacket =
      potential r q t := by
  simp only [potential]
  rw [← weights_eraseIdx h]
  omega

variable (senderV) in
/-- **A datagram is delivered to the receiver.** -/
theorem potential_receiverDatagram (h : t.Productive receiverV r q) (rawPacket : RawData) :
    potential r q (receiverReacts senderV t (.datagram senderV rawPacket)) ≤
      potential r q t + (2 * r + 1) := by
  obtain ⟨-, hreaction⟩ := ReceivingOperation.receiverReaction h.receiver_settled
    (.datagram senderV rawPacket)
  have hcost := hreaction.reserve_datagram (one_le_price (r := r) (q := q)) senderV
  have hchange := potential_receiverReacts senderV r q t
    (.datagram senderV rawPacket)
  rw [h.receiver_retries] at hcost
  omega

/-- **A datagram is delivered to the sender.** -/
theorem potential_senderDatagram (h : t.Productive receiverV r q) (rawPacket : RawData) :
    potential r q (senderReacts receiverV t (.datagram receiverV rawPacket)) + 1 ≤
      potential r q t + weight (price r q) rawPacket := by
  obtain ⟨-, hreaction⟩ := SendingOperation.senderReaction h.sender_settled
    (.datagram receiverV rawPacket)
  have hcost := hreaction.outlay_datagram h.sender_productive h.address receiverV
  have hchange := potential_senderReacts receiverV r q t
    (.datagram receiverV rawPacket)
  have hone := one_le_weight (one_le_price (r := r) (q := q)) rawPacket
  rw [h.sender_retries] at hcost
  generalize (SendingOperation.view t.sender).outlay (base t.sender).phase = before
    at hcost hchange
  generalize (SendingOperation.view (peerStep t.sender (.datagram receiverV rawPacket))).outlay
    (base (peerStep t.sender (.datagram receiverV rawPacket))).phase = after at hcost hchange
  generalize (sentTo receiverV
    (actions (peerStep t.sender (.datagram receiverV rawPacket)))).length = sent at hcost hchange
  rcases hcost with hpaid | ⟨htype, hsent, hle⟩
  · -- what is sent was to be sent anyway
    have hmul := Nat.mul_le_mul_left (2 * r + 3) hpaid
    rw [Nat.mul_add, Nat.add_mul (2 * r + 2) 1 sent, Nat.one_mul] at hmul
    omega
  · -- options are taken over
    have hmul := Nat.mul_le_mul_left (2 * r + 3) hle
    have hmul' := Nat.mul_le_mul_left (2 * r + 2) hsent
    rw [weight, if_pos htype, price, Nat.mul_add (2 * r + 3) q 1]
    rw [Nat.mul_add] at hmul
    omega

/-- **An expiry at the receiver**, if that is not over. -/
theorem potential_receiverTimeout (h : t.Productive receiverV r q)
    (hrunning : (base t.receiver).phase ≠ .done) :
    potential r q (receiverReacts senderV t .timeout) + 1 ≤ potential r q t := by
  obtain ⟨-, hreaction⟩ := ReceivingOperation.receiverReaction h.receiver_settled .timeout
  have hcost := hreaction.reserve_timeout (one_le_price (r := r) (q := q)) hrunning senderV
  have hchange := potential_receiverReacts senderV r q t .timeout
  omega

/-- **An expiry at the sender**, if that is not over. -/
theorem potential_senderTimeout (h : t.Productive receiverV r q)
    (hrunning : (base t.sender).phase ≠ .done) :
    potential r q (senderReacts receiverV t .timeout) + 1 ≤ potential r q t := by
  obtain ⟨-, hreaction⟩ := SendingOperation.senderReaction h.sender_settled .timeout
  obtain ⟨hle, hsent⟩ := hreaction.outlay_timeout hrunning receiverV
  have hchange := potential_senderReacts receiverV r q t .timeout
  have hmul := Nat.mul_le_mul_left (2 * r + 3) hle
  have hmul' := Nat.mul_le_mul_left (2 * r + 2) hsent
  rw [Nat.mul_add] at hmul
  omega

/-- Nothing happens to a receiver that is over. -/
theorem potential_receiverOver (h : t.Productive receiverV r q)
    (hdone : (base t.receiver).phase = .done) :
    potential r q (receiverReacts senderV t .timeout) = potential r q t := by
  obtain ⟨-, hreaction⟩ := ReceivingOperation.receiverReaction h.receiver_settled .timeout
  rw [hdone] at hreaction
  obtain ⟨hacts, hphase⟩ := hreaction.over
  have hchange := potential_receiverReacts senderV r q t .timeout
  rw [hacts, hphase, hdone, ReceiverView.reserve_done, ReceiverView.reserve_done] at hchange
  simpa using hchange

/-- Nothing happens to a sender that is over. -/
theorem potential_senderOver (h : t.Productive receiverV r q)
    (hdone : (base t.sender).phase = .done) :
    potential r q (senderReacts receiverV t .timeout) = potential r q t := by
  obtain ⟨-, hreaction⟩ := SendingOperation.senderReaction h.sender_settled .timeout
  rw [hdone] at hreaction
  obtain ⟨hacts, hphase⟩ := hreaction.over
  have hchange := potential_senderReacts receiverV r q t .timeout
  rw [hacts, hphase, hdone, SenderView.outlay_done, SenderView.outlay_done] at hchange
  simpa using hchange

/-- What is under way does not matter to the operations. -/
theorem Productive.withChannels (h : t.Productive receiverV r q)
    (toReceiver toSender : List RawData) :
    { t with toReceiver := toReceiver, toSender := toSender }.Productive receiverV r q :=
  ⟨h.receiver_settled, h.sender_settled, h.receiver_retries, h.sender_retries,
    h.sender_productive, h.address⟩

/-- A datagram is taken off the way to the receiver and delivered, or there is none. -/
theorem potential_deliverToReceiver (h : t.Productive receiverV r q) (index : ℕ) :
    (t.step receiverV senderV (.toReceiver index false)).Productive receiverV r q ∧
      potential r q (t.step receiverV senderV (.toReceiver index false)) +
        (if t.Effective (.toReceiver index false) then 1 else 0) ≤ potential r q t := by
  rcases hraw : t.toReceiver[index]? with _ | rawPacket
  · have hnot : ¬ t.Effective (.toReceiver index false) :=
      Nat.not_lt.mpr (List.getElem?_eq_none_iff.mp hraw)
    rw [Transfer.step, hraw, if_neg hnot]
    exact ⟨h, le_refl _⟩
  · have hindex : t.Effective (.toReceiver index false) := (List.getElem?_eq_some_iff.mp hraw).1
    have h' := h.withChannels (t.toReceiver.eraseIdx index) t.toSender
    have htaken := potential_toReceiver (r := r) (q := q) hindex
    have hreacts := potential_receiverDatagram senderV h' rawPacket
    rw [Transfer.step, hraw, if_pos hindex]
    refine ⟨h'.receiverReacts _, ?_⟩
    simp only [Bool.false_eq_true, if_false]
    omega

/-- A datagram is taken off the way to the sender and delivered, or there is none. -/
theorem potential_deliverToSender (h : t.Productive receiverV r q) (index : ℕ) :
    (t.step receiverV senderV (.toSender index false)).Productive receiverV r q ∧
      potential r q (t.step receiverV senderV (.toSender index false)) +
        (if t.Effective (.toSender index false) then 1 else 0) ≤ potential r q t := by
  rcases hraw : t.toSender[index]? with _ | rawPacket
  · have hnot : ¬ t.Effective (.toSender index false) :=
      Nat.not_lt.mpr (List.getElem?_eq_none_iff.mp hraw)
    rw [Transfer.step, hraw, if_neg hnot]
    exact ⟨h, le_refl _⟩
  · have hindex : t.Effective (.toSender index false) := (List.getElem?_eq_some_iff.mp hraw).1
    have h' := h.withChannels t.toReceiver (t.toSender.eraseIdx index)
    have htaken := potential_toSender (r := r) (q := q) hraw
    have hreacts := potential_senderDatagram h' rawPacket
    rw [Transfer.step, hraw, if_pos hindex]
    refine ⟨h'.senderReacts _, ?_⟩
    simp only [Bool.false_eq_true, if_false]
    omega

/-- **An event that finds something to do lowers the potential**, and no event raises it. -/
theorem potential_step (h : t.Productive receiverV r q) {e : NetworkEvent} (honce : e.Once) :
    (t.step receiverV senderV e).Productive receiverV r q ∧
      potential r q (t.step receiverV senderV e) + (if t.Effective e then 1 else 0) ≤
        potential r q t := by
  cases e with
  | toReceiver index keep =>
    obtain rfl : keep = false := honce
    exact potential_deliverToReceiver h index
  | toSender index keep =>
    obtain rfl : keep = false := honce
    exact potential_deliverToSender h index
  | loseToReceiver index =>
    refine ⟨h.withChannels _ _, ?_⟩
    by_cases hindex : t.Effective (.loseToReceiver index)
    · have htaken := potential_toReceiver (r := r) (q := q) hindex
      rw [if_pos hindex, Transfer.step]
      omega
    · rw [if_neg hindex, Transfer.step, List.eraseIdx_of_length_le (Nat.le_of_not_lt hindex)]
      exact le_refl _
  | loseToSender index =>
    refine ⟨h.withChannels _ _, ?_⟩
    by_cases hindex : t.Effective (.loseToSender index)
    · have hlt : index < t.toSender.length := hindex
      have htaken := potential_toSender (r := r) (q := q) (List.getElem?_eq_getElem hlt)
      have hone := one_le_weight (one_le_price (r := r) (q := q)) t.toSender[index]
      rw [if_pos hindex, Transfer.step]
      omega
    · rw [if_neg hindex, Transfer.step, List.eraseIdx_of_length_le (Nat.le_of_not_lt hindex)]
      exact le_refl _
  | receiverTimeout =>
    refine ⟨h.receiverReacts _, ?_⟩
    by_cases hrunning : t.Effective .receiverTimeout
    · rw [if_pos hrunning, Transfer.step]
      exact potential_receiverTimeout h hrunning
    · rw [if_neg hrunning, Transfer.step, potential_receiverOver h (not_not.mp hrunning)]
      exact le_refl _
  | senderTimeout =>
    refine ⟨h.senderReacts _, ?_⟩
    by_cases hrunning : t.Effective .senderTimeout
    · rw [if_pos hrunning, Transfer.step]
      exact potential_senderTimeout h hrunning
    · rw [if_neg hrunning, Transfer.step, potential_senderOver h (not_not.mp hrunning)]
      exact le_refl _

/-- A side that is over has told its user how it ended. -/
structure Reported (t : Transfer σ τ) : Prop where
  receiver : (base t.receiver).phase = .done → ∃ status, .finished status ∈ t.receiverActions
  sender : (base t.sender).phase = .done → ∃ status, .finished status ∈ t.senderActions

theorem Reported.receiverReacts (h : t.Reported) (hset : (base t.receiver).Settled)
    (e : PeerEvent) : (receiverReacts senderV t e).Reported := by
  refine ⟨fun hdone => ?_, h.sender⟩
  show ∃ status, .finished status ∈ t.receiverActions ++ actions (peerStep t.receiver e)
  rcases (outcome hset e).reported hdone with hover | ⟨status, hstatus⟩
  · obtain ⟨status, hstatus⟩ := h.receiver hover
    exact ⟨status, List.mem_append_left _ hstatus⟩
  · exact ⟨status, List.mem_append_right _ hstatus⟩

theorem Reported.senderReacts (h : t.Reported) (hset : (base t.sender).Settled)
    (e : PeerEvent) : (senderReacts receiverV t e).Reported := by
  refine ⟨h.receiver, fun hdone => ?_⟩
  show ∃ status, .finished status ∈ t.senderActions ++ actions (peerStep t.sender e)
  rcases (outcome hset e).reported hdone with hover | ⟨status, hstatus⟩
  · obtain ⟨status, hstatus⟩ := h.sender hover
    exact ⟨status, List.mem_append_left _ hstatus⟩
  · exact ⟨status, List.mem_append_right _ hstatus⟩

theorem Reported.withChannels (h : t.Reported) (toReceiver toSender : List RawData) :
    { t with toReceiver := toReceiver, toSender := toSender }.Reported :=
  ⟨h.receiver, h.sender⟩

theorem Reported.step (h : t.Reported) (hreceiver : (base t.receiver).Settled)
    (hsender : (base t.sender).Settled) (e : NetworkEvent) :
    (t.step receiverV senderV e).Reported := by
  cases e with
  | toReceiver index keep =>
    rw [Transfer.step]
    split
    · exact h
    · exact (h.withChannels (if keep then t.toReceiver else t.toReceiver.eraseIdx index)
        t.toSender).receiverReacts hreceiver _
  | toSender index keep =>
    rw [Transfer.step]
    split
    · exact h
    · exact (h.withChannels t.toReceiver
        (if keep then t.toSender else t.toSender.eraseIdx index)).senderReacts hsender _
  | loseToReceiver | loseToSender => exact ⟨h.receiver, h.sender⟩
  | receiverTimeout => exact h.receiverReacts hreceiver _
  | senderTimeout => exact h.senderReacts hsender _

/-- **A transfer ends**: only so many events find something to do, and when none is left, both
sides have told their users how it ended. -/
theorem ends {history : List (Transition (Transfer σ τ) NetworkEvent)} {init : Transfer σ τ}
    (hinit : init.Productive receiverV r q) (hreported : init.Reported)
    (hrun : Run (Transfer.step receiverV senderV) init history t)
    (honce : ∀ u ∈ history, u.event.Once) :
    history.countP (fun u => decide (u.pre.Effective u.event)) ≤ potential r q init ∧
      ((∀ e, ¬ t.Effective e) → (∃ status, .finished status ∈ t.receiverActions) ∧
        ∃ status, .finished status ∈ t.senderActions) := by
  have hstep : ∀ (s : Transfer σ τ) (e : NetworkEvent), s.Productive receiverV r q ∧ s.Reported →
      e.Once → ((s.step receiverV senderV e).Productive receiverV r q ∧
        (s.step receiverV senderV e).Reported) ∧
          potential r q (s.step receiverV senderV e) + (if s.Effective e then 1 else 0) ≤
            potential r q s := by
    rintro s e ⟨hs, hreported⟩ he
    obtain ⟨hproductive, hle⟩ := potential_step hs he
    exact ⟨⟨hproductive, hreported.step hs.receiver_settled hs.sender_settled e⟩, hle⟩
  obtain ⟨⟨-, hend⟩, hle⟩ := Run.countP_le ⟨hinit, hreported⟩ hstep hrun honce
  refine ⟨(Nat.le_add_left _ _).trans hle, fun hnone => ⟨hend.receiver ?_, hend.sender ?_⟩⟩
  · by_contra hrunning
    exact hnone .receiverTimeout hrunning
  · by_contra hrunning
    exact hnone .senderTimeout hrunning

/-- The number of events that can find something to do, if the sender has `length` bytes to send. -/
def eventBound (length receiverRetries senderRetries : ℕ) : ℕ :=
  (2 * receiverRetries + 3) *
    ((senderRetries + 1) * (length + receiverRetries + 4) + 2)

section Start

variable {receiver : σ} {sender : τ} {retries retries' : UInt16} {length : ℕ}

theorem started_reported {δ : Type} {s : OperationImpl δ} (h : Started retries s)
    (hdone : s.phase = .done) : ∃ status, .finished status ∈ s.actions := by
  obtain ⟨calls, peer, report, hactions, hcalls, hreport⟩ := h.opening
  rcases hreport with ⟨-, hne⟩ | ⟨status, -, rfl, -⟩
  · exact absurd hdone hne
  · rw [hactions]
    exact ⟨status, List.mem_append_right _ List.mem_cons_self⟩

theorem length_sentTo_started {δ : Type} {s : OperationImpl δ} (h : Started retries s)
    (destination : Endpoint) : (sentTo destination s.actions).length ≤ 1 := by
  obtain ⟨calls, peer, report, hactions, hcalls, hreport⟩ := h.opening
  have hnil : sentTo destination report = [] := by
    rcases hreport with ⟨rfl, -⟩ | ⟨status, -, rfl, -⟩
    · rfl
    · exact sentTo_completion _ _ _
  rw [hactions, List.append_assoc, sentTo_calls_append hcalls, sentTo_append, hnil,
    List.append_nil]
  exact length_sentTo_singleton _

theorem weight_le {price : ℕ} (h : 1 ≤ price) (rawPacket : RawData) :
    weight price rawPacket ≤ price := by
  rw [weight]
  split_ifs
  · exact le_refl _
  · exact h

theorem weights_le {price : ℕ} (h : 1 ≤ price) (l : List RawData) :
    weights price l ≤ l.length * price := by
  induction l with
  | nil => simp
  | cons rawPacket l ih =>
    have hle := weight_le h rawPacket
    simp only [weights, List.map_cons, List.sum_cons, List.length_cons, Nat.succ_mul] at ih ⊢
    omega

/-- **What a transfer costs that has just been started.** -/
theorem potential_started (hreceiver : Started retries (base receiver))
    (hsender : Started retries' (base sender))
    (hsupply : (SendingOperation.view sender).supply ≤ length + 1) :
    potential retries.toNat retries'.toNat
        (Transfer.started receiverV senderV receiver sender : Transfer σ τ) ≤
      eventBound length retries.toNat retries'.toNat := by
  have hprice := one_le_price (r := retries.toNat) (q := retries'.toNat)
  have houtlay : (SendingOperation.view sender).outlay (base sender).phase ≤
      (length + 1) * (retries'.toNat + 1) + (retries'.toNat + 1) := by
    rw [SenderView.outlay]
    split_ifs
    · exact Nat.zero_le _
    · rw [(SendingOperation.retries_view sender).1, (SendingOperation.retries_view sender).2,
        hsender.retries_eq, hsender.counter_eq, patience_one]
      exact Nat.add_le_add_right (Nat.mul_le_mul_right _ hsupply) _
  have hreserve : (ReceivingOperation.view receiver).reserve
      (price retries.toNat retries'.toNat) (base receiver).phase ≤
        (retries.toNat + 1) * (price retries.toNat retries'.toNat + 1) := by
    refine (ReceiverView.reserve_le _ _ _).trans ?_
    rw [ReceivingOperation.view_retries, ReceivingOperation.view_counter, hreceiver.retries_eq,
      hreceiver.counter_eq, patience_one]
    exact Nat.mul_le_mul_left _ (Nat.succ_le_succ (weight_le hprice _))
  have hitems := length_sentTo_started hsender receiverV
  have hacks := (weights_le hprice (sentTo senderV (actions receiver))).trans
    (Nat.mul_le_mul_right _ (length_sentTo_started hreceiver senderV))
  generalize retries.toNat = r at *
  generalize retries'.toNat = q at *
  calc potential r q (Transfer.started receiverV senderV receiver sender : Transfer σ τ)
      ≤ (2 * r + 3) * ((length + 1) * (q + 1) + (q + 1)) + (2 * r + 2) * 1 +
          (r + 1) * (price r q + 1) + 1 * price r q :=
        Nat.add_le_add (Nat.add_le_add (Nat.add_le_add (Nat.mul_le_mul_left _ houtlay)
          (Nat.mul_le_mul_left _ hitems)) hreserve) hacks
    _ ≤ (2 * r + 3) * ((length + 1) * (q + 1) + (q + 1)) + (2 * r + 2) * 1 +
          (r + 1) * (price r q + 1) + 1 * price r q + (r + 3) := Nat.le_add_right _ _
    _ = eventBound length r q := by
        rw [price, eventBound]
        ring

theorem reported_started (hreceiver : Started retries (base receiver))
    (hsender : Started retries' (base sender)) :
    (Transfer.started receiverV senderV receiver sender : Transfer σ τ).Reported :=
  ⟨started_reported hreceiver, started_reported hsender⟩

end Start

end Transfer

end Transfer

/-! ### Reading and writing -/

open Clients Servers

/-- A sender in step with its peer is productive. -/
theorem Sends.productive {x : Session} {peer : Endpoint} {w₀ w : SenderView MemoryFile} {k : ℕ}
    {p : Phase} (hx : x.Valid) (h : Sends x peer w₀ k p w) (hkeeps : w₀.KeepsFile) :
    w.Productive ∧ w.supply ≤ x.file.length + 1 := by
  refine ⟨⟨?_, ?_⟩, ?_⟩
  · rcases h.dataSize_eq with heq | ⟨-, -, heq⟩
    · rw [heq]
      exact hx.dataSize_pos
    · rw [heq]
      decide
  · rw [SenderView.KeepsFile, h.kept.negotiation]
    exact hkeeps
  · have hleft : FiniteDataHandler.left w.handler ≤ x.file.length := by
      rw [← h.handler_after.1]
      exact Nat.sub_le _ _
    rw [SenderView.supply]
    split_ifs
    · exact Nat.zero_le _
    · exact Nat.succ_le_succ hleft

section Read

variable {δ : Type} [ReceiveDataHandler δ]

/-- **Every read ends**: on a network that delivers no datagram twice, whatever is lost or overtaken
and whenever a timer expires, only so many events find something to do, and when none is left,
both sides have reported how the read ended. -/
theorem read_ends (client : Clients.Settings δ) (server : Servers.Settings MemoryFile)
    (request : ReceivedTftpRequest) (serverV : Endpoint)
    (hserver : server.optionsConfiguration.BlockSizeInRange)
    (hadd : server.additionalNegotiatedOptions.Unobtrusive)
    (hrequest : request.clientOptions.InRange)
    (hzero : request.clientOptions.transferSize = none ∨
      request.clientOptions.transferSize = some 0)
    (hsource : server.dataHandler.operationV = .transmit)
    (history : List (Transition (Transfer (Clients.ReadOperationImpl δ)
      (Servers.ReadOperationImpl MemoryFile)) NetworkEvent))
    (t : Transfer (Clients.ReadOperationImpl δ) (Servers.ReadOperationImpl MemoryFile))
    (hrun : Run (Transfer.step request.remote serverV)
      (Transfer.read client server request serverV) history t)
    (honce : ∀ u ∈ history, u.event.Once) :
    history.countP (fun u => decide (u.pre.Effective u.event)) ≤
        Transfer.eventBound server.dataHandler.dataV.length client.tftpRetries.toNat
          server.tftpRetries.toNat ∧
      ((∀ e, ¬ t.Effective e) → (∃ status, .finished status ∈ t.receiverActions) ∧
        ∃ status, .finished status ∈ t.senderActions) := by
  have hreceiver := Clients.ReadOperationImpl.started_request
    (Clients.ReadOperationImpl.idle_configured client) rfl
  have hsender := Servers.ReadOperationImpl.started_start
    (Servers.ReadOperationImpl.idle_configured (server.answering request)) rfl
  have hvalid := valid_readSession hserver hadd hrequest
  obtain ⟨hset, k, -, -, -, -, hne, hsends, -⟩ :=
    sends_start hserver hadd hrequest hzero hsource
  obtain ⟨hproductive, hsupply⟩ := hsends.productive hvalid (by
    intro g hg
    cases hg)
  have hinit : (Transfer.read client server request serverV).Productive request.remote
      client.tftpRetries.toNat server.tftpRetries.toNat := by
    refine ⟨hreceiver.settled, hset, ?_, ?_, fun _ => hproductive, fun server' hphase => ?_⟩
    · rw [ReceivingOperation.view_retries]
      exact congrArg UInt16.toNat hreceiver.retries_eq
    · rw [(SendingOperation.retries_view _).1]
      exact congrArg UInt16.toNat hsender.retries_eq
    · rcases hsends.phase_cases with ⟨hrequesting, -⟩ | hwaiting
      · exact Phase.requesting.inj (hrequesting.symm.trans hphase)
      · cases hphase.symm.trans hwaiting
  obtain ⟨hle, hend⟩ := Transfer.ends hinit (Transfer.reported_started hreceiver hsender) hrun honce
  exact ⟨hle.trans (Transfer.potential_started hreceiver hsender hsupply), hend⟩

/-- The answer of the server is sent twice, and the second copy overtakes the first one. -/
def overtakenRead : List NetworkEvent :=
  [.senderTimeout, .toReceiver 1 false, .loseToReceiver 0, .toSender 0 false, .toReceiver 0 false,
    .toSender 0 false, .toReceiver 0 false, .toSender 0 false, .receiverTimeout]

/-- A read of two blocks, on that network. -/
def endedRead :
    List (Transition (Transfer (Clients.ReadOperationImpl MemoryFile)
      (Servers.ReadOperationImpl MemoryFile)) NetworkEvent) ×
      Transfer (Clients.ReadOperationImpl MemoryFile) (Servers.ReadOperationImpl MemoryFile) :=
  replay (Transfer.step { port := 2 } { port := 1 })
    (Transfer.read smallReader smallSource smallReadRequest { port := 1 }) overtakenRead

/-- All nine events find something to do, and 150 are allowed. -/
theorem read_ends_two_blocks :
    (endedRead.1.countP (fun u => decide (u.pre.Effective u.event)) ≤
        Transfer.eventBound 9 1 1 ∧
      ((∀ e, ¬ endedRead.2.Effective e) →
        (∃ status, .finished status ∈ endedRead.2.receiverActions) ∧
          ∃ status, .finished status ∈ endedRead.2.senderActions)) ∧
      endedRead.1.countP (fun u => decide (u.pre.Effective u.event)) = 9 ∧
      Transfer.eventBound 9 1 1 = 150 := by
  refine ⟨read_ends smallReader smallSource smallReadRequest { port := 1 } ?_
    Options.unobtrusive_empty ?_ (Or.inl rfl) rfl _ _ (Run.of_replay _ _ _)
    (Run.forall_replay (by decide)), by decide, by decide⟩
  · rintro b ⟨⟩
    decide
  · refine inRange_requestedOptions ?_ ?_
    · rintro b ⟨⟩
      decide
    · rintro t ⟨⟩

end Read

section Write

variable {δ : Type} [ReceiveDataHandler δ]

/-- **Every write ends**, likewise. -/
theorem write_ends (client : Clients.Settings MemoryFile) (server : Servers.Settings δ)
    (request : ReceivedTftpRequest) (serverV : Endpoint)
    (hserver : server.optionsConfiguration.BlockSizeInRange)
    (hadd : server.additionalNegotiatedOptions.Unobtrusive)
    (hrequest : request.clientOptions.InRange)
    (hkeeps : ∀ g, client.optionNegotiationHandler = some g →
      ∀ handler options, (g handler options).2.2 = handler)
    (hsource : client.dataHandler.operationV = .transmit)
    (haddress : serverV.address = client.remote.address) (hport : serverV ≠ client.remote)
    (history : List (Transition (Transfer (Servers.WriteOperationImpl δ)
      (Clients.WriteOperationImpl MemoryFile)) NetworkEvent))
    (t : Transfer (Servers.WriteOperationImpl δ) (Clients.WriteOperationImpl MemoryFile))
    (hrun : Run (Transfer.step serverV request.remote)
      (Transfer.write client server request serverV) history t)
    (honce : ∀ u ∈ history, u.event.Once) :
    history.countP (fun u => decide (u.pre.Effective u.event)) ≤
        Transfer.eventBound client.dataHandler.dataV.length server.tftpRetries.toNat
          client.tftpRetries.toNat ∧
      ((∀ e, ¬ t.Effective e) → (∃ status, .finished status ∈ t.receiverActions) ∧
        ∃ status, .finished status ∈ t.senderActions) := by
  have hreceiver := Servers.WriteOperationImpl.started_start
    (Servers.WriteOperationImpl.idle_configured (server.answering request)) rfl
  have hsender := Clients.WriteOperationImpl.started_request
    (Clients.WriteOperationImpl.idle_configured client) rfl
  have hvalid : (writeSession client server request).Valid :=
    valid_writeSession hserver hadd hrequest
  obtain ⟨hset, hsends, -, -⟩ := sends_request server request hadd hsource haddress hport
  obtain ⟨hproductive, hsupply⟩ := hsends.productive hvalid (by
    rw [SenderView.KeepsFile, show ((Clients.WriteOperationImpl.configured client).request
      {}).view.negotiation = client.optionNegotiationHandler from
        (view_write client server request serverV).1]
    exact hkeeps)
  have hinit : (Transfer.write client server request serverV).Productive serverV
      server.tftpRetries.toNat client.tftpRetries.toNat := by
    refine ⟨hreceiver.settled, hset, ?_, ?_, fun _ => hproductive, fun server' hphase => ?_⟩
    · rw [ReceivingOperation.view_retries]
      exact congrArg UInt16.toNat hreceiver.retries_eq
    · rw [(SendingOperation.retries_view _).1]
      exact congrArg UInt16.toNat hsender.retries_eq
    · rcases hsends.phase_cases with ⟨hrequesting, -⟩ | hwaiting
      · exact Phase.requesting.inj (hrequesting.symm.trans hphase)
      · cases hphase.symm.trans hwaiting
  obtain ⟨hle, hend⟩ := Transfer.ends hinit (Transfer.reported_started hreceiver hsender) hrun honce
  exact ⟨hle.trans (Transfer.potential_started hreceiver hsender hsupply), hend⟩

/-- A second acknowledgement of the options makes a write fail, but it ends. -/
theorem write_ends_on_second_acknowledgement :
    (smallWrite secondAcknowledgement).1.countP (fun u => decide (u.pre.Effective u.event)) ≤
        Transfer.eventBound 9 1 1 ∧
      ((∀ e, ¬ (smallWrite secondAcknowledgement).2.Effective e) →
        (∃ status, .finished status ∈ (smallWrite secondAcknowledgement).2.receiverActions) ∧
          ∃ status, .finished status ∈ (smallWrite secondAcknowledgement).2.senderActions) := by
  refine write_ends smallWriter smallSink smallWriteRequest { port := 1 } ?_
    Options.unobtrusive_empty ?_ ?_ rfl rfl (by decide) _ _ (Run.of_replay _ _ _)
    (Run.forall_replay (by decide))
  · rintro b ⟨⟩
    decide
  · refine inRange_requestedOptions ?_ ?_
    · rintro b ⟨⟩
      decide
    · rintro t ⟨⟩
  · rintro g ⟨⟩

end Write

end Tftp
