import Tftp.Transfer
import Tftp.Transmission

/-!
# The two operations in lockstep

Each operation of a transfer on its own, against what its peer can have sent. Nothing here speaks
of a network: what arrives is a packet of the peer, and the question is what the operation makes of
it. The answers are put together in `Tftp.Linked`, and the network comes in `Tftp.Networks`.

## The numbers

The packets of a transfer are numbered (`Tftp.Session`). Item `k + 1` of the sender is block `k` of
the file, counted from zero, and item `0` is the acknowledgement of options that a server sends
before the first block; acknowledgement `n` of the receiver answers item `n`, and acknowledgement
`0` is what a server that receives opens the transfer with. What the packets carry are block numbers
of 16 bits, and those roll over: a packet is taken for what it is only if no other number that is
expected shows the same block number. This is left to the network here, as a hypothesis.

## The invariants

A receiver that is not over is told by the number `n` of blocks that it has accepted
(`Tftp.Receives`): its block number is that of `n`, the packet that it has stored for repetition is
acknowledgement `n`, and it dallies only if that acknowledges the last block. Until it has heard of
the sender it is still at `n = 0`, and may still expect blocks of the default size. A sender that is
not over is told by the number `k` of the last item that it has sent, in the same way
(`Tftp.Sends`): that item is stored, the data handler stands behind block `k`, and the end is known
exactly if that was the last one.

What is not in these invariants is what happens after a failure: an operation that fails sends at
most an ERROR packet and is over (`Tftp.Fails`), and nothing else is asked of it. So each step lemma
has two outcomes. With a packet of its peer, or when its timer expires, an operation goes on to the
next number or repeats its last packet, and then it does nothing wrong (`Tftp.Flawless`); or it
fails, and the number of blocks that have been passed on stays what it was
(`Tftp.Session.Delivers`).
-/

namespace Tftp

open Protocol

/-- What a transfer is about. -/
structure Session where
  file : RawData
  /-- The size of a full block. -/
  dataSize : UInt16
  /-- The options that the sender acknowledges before the first block. -/
  offer : Option Options
  /-- The options that the receiver acknowledges instead of block zero. -/
  answer : Option Options

namespace Session

variable (x : Session)

/-- The items that are sent: the blocks of the file, and before them an acknowledgement of
options. -/
def item : ℕ → Packet
  | 0 => .optionsAcknowledgement (x.offer.getD SortedMap.empty)
  | k + 1 => .data (BlockNumber.bn (k + 1)) (block x.file x.dataSize.toNat k)

/-- The answers to them. -/
def ack : ℕ → Packet
  | 0 => match x.answer with
    | some options => .optionsAcknowledgement options
    | none => .acknowledgement 0
  | n + 1 => .acknowledgement (BlockNumber.bn (n + 1))

/-- The number of blocks. -/
def lastBlock : ℕ := Protocol.lastBlock x.file x.dataSize.toNat

/-- The first blocks of the file. -/
def prefixOf (n : ℕ) : List RawData := (List.range n).map (block x.file x.dataSize.toNat)

/-- An acknowledgement of options that can be sent, and that leads to the size of a full block
that both sides use. -/
structure Acknowledges (options : Options) : Prop where
  encodable : (Packet.optionsAcknowledgement options).Encodable
  length_le : (Packet.optionsAcknowledgement options).encode.length ≤ 516
  dataSize_eq : ∀ size, size = x.dataSize ∨ size = defaultDataSize →
    ((options.getOption 16 (tftpOptionsName .blockSize) blockSizeOptionMin
      blockSizeOptionMax).1.2.map UInt16.ofNat).getD size = x.dataSize

/-- What both sides rely on. -/
structure Valid : Prop where
  dataSize_pos : 0 < x.dataSize.toNat
  offered : ∀ options, x.offer = some options → x.Acknowledges options
  answered : ∀ options, x.answer = some options → x.Acknowledges options
  /-- Only one of the two sides is the server. -/
  one_side : x.offer.isSome → x.answer = none

variable {x}

theorem prefixOf_succ (n : ℕ) :
    x.prefixOf (n + 1) = x.prefixOf n ++ [block x.file x.dataSize.toNat n] := by
  rw [prefixOf, prefixOf, List.range_succ, List.map_append]
  rfl

/-- The last block is the only short one. -/
theorem short_iff (hx : x.Valid) (k : ℕ) :
    (block x.file x.dataSize.toNat k).length < x.dataSize.toNat ↔ x.lastBlock ≤ k + 1 :=
  length_block_lt_iff hx.dataSize_pos

/-- **What arrives is what was sent**, if the buffer is large enough. -/
theorem packet_item (hx : x.Valid) {d buffer : ℕ} (hd : d = 0 → x.offer.isSome)
    (hbuffer : 516 ≤ buffer ∧ x.dataSize.toNat + 4 ≤ buffer) :
    PacketHandler.packet ((x.item d).encode.take buffer) = .packet (x.item d) := by
  cases d with
  | zero =>
    obtain ⟨options, ho⟩ := Option.isSome_iff_exists.mp (hd rfl)
    have hack := hx.offered options ho
    rw [item, ho, Option.getD_some, List.take_of_length_le (hack.length_le.trans hbuffer.1),
      PacketHandler.packet_encode hack.encodable]
  | succ k =>
    have hlength : (x.item (k + 1)).encode.length ≤ buffer := by
      have hle : (block x.file x.dataSize.toNat k).length ≤ x.dataSize.toNat := length_block_le
      simp only [item, Packet.encode_data, List.length_append, RawData.length_setInt]
      omega
    rw [List.take_of_length_le hlength]
    exact PacketHandler.packet_encode (p := .data _ _) trivial

theorem packet_ack (hx : x.Valid) (a : ℕ) {buffer : ℕ} (hbuffer : 516 ≤ buffer) :
    PacketHandler.packet ((x.ack a).encode.take buffer) = .packet (x.ack a) := by
  have hack (n : BlockNumber) : PacketHandler.packet
      ((Packet.acknowledgement n).encode.take buffer) = .packet (.acknowledgement n) := by
    have hlength : (Packet.acknowledgement n).encode.length ≤ buffer := by
      simp only [Packet.encode_acknowledgement, List.length_append, RawData.length_setInt]
      omega
    rw [List.take_of_length_le hlength]
    exact PacketHandler.packet_encode (p := .acknowledgement n) trivial
  cases a with
  | zero =>
    rw [ack]
    cases ho : x.answer with
    | none => exact hack 0
    | some options =>
      have hopt := hx.answered options ho
      dsimp only
      rw [List.take_of_length_le (hopt.length_le.trans hbuffer),
        PacketHandler.packet_encode hopt.encodable]
  | succ n => exact hack _

theorem item_type_ne (d : ℕ) : (x.item d).type ≠ .error := by
  cases d <;> simp [item, Packet.type]

theorem ack_type_ne (a : ℕ) : (x.ack a).type ≠ .error := by
  cases a with
  | zero =>
    rw [ack]
    cases x.answer <;> simp [Packet.type]
  | succ n => simp [ack, Packet.type]

end Session

/-- An ERROR packet. -/
def IsError (rawPacket : RawData) : Prop :=
  ∃ code message, rawPacket = (Packet.error code message).encode

/-- What arrives of an ERROR packet is taken for nothing else. -/
theorem IsError.type_eq {rawPacket : RawData} (h : IsError rawPacket) {buffer : ℕ}
    (hbuffer : 516 ≤ buffer) (q : Packet)
    (hq : PacketHandler.packet (rawPacket.take buffer) = .packet q) : q.type = .error := by
  obtain ⟨code, message, rfl⟩ := h
  rw [← PacketHandler.type_eq hq, Packet.encode_error, List.take_append,
    List.take_of_length_le (by rw [RawData.length_setInt]; omega)]
  exact Packet.packetType_setInt .error _

/-- An operation fails: it sends at most an ERROR packet, and is over. -/
structure Fails (peer : Endpoint) (acts : List Action) (p' : Phase) : Prop where
  isOver : p' = .done
  errors : ∀ rawPacket ∈ sentTo peer acts, IsError rawPacket
  status : .finished .successful ∉ acts

theorem sentTo_completion (peer : Endpoint) (reports : Bool) (status : TransferStatus) :
    sentTo peer (Action.completion reports status) = [] :=
  sentTo_of_onWire (onWire_completion reports status)

/-- What an operation does when it fails. -/
theorem Failure.fails {peer : Endpoint} {stored packet : RawData} {counter counter' : UInt32}
    {negotiating : Prop} {r : Received} {calls errors : List Action}
    {status : TransferStatus}
    (h : Failure peer stored counter negotiating r errors status packet counter')
    (hcalls : ∀ a ∈ calls, a.IsCall) (reports : Bool) :
    Fails peer (calls ++ errors ++ Action.completion reports status) .done where
  isOver := rfl
  errors rawPacket hmem := by
    rw [sentTo_append, sentTo_append, sentTo_of_onWire (onWire_calls hcalls),
      sentTo_completion] at hmem
    rcases h.errors_cases with rfl | ⟨code, message, rfl⟩
    · simp at hmem
    · exact ⟨code, message, by simpa using hmem⟩
  status hmem := by
    rcases List.mem_append.mp hmem with hmem | hmem
    · rcases List.mem_append.mp hmem with hmem | hmem
      · exact hcalls _ hmem
      · rcases h.errors_cases with rfl | ⟨code, message, rfl⟩ <;> simp at hmem
    · exact h.status_ne (finished_completion hmem).symm

/-! ### The receiver -/

/-- What nothing changes in a receiver. -/
structure ReceiverView.Kept (v₀ v : ReceiverView) : Prop where
  negotiates : v.negotiates = v₀.negotiates
  buffer : v.buffer = v₀.buffer
  remote : v.remote = v₀.remote
  configuration : v.configuration = v₀.configuration

/-- **A receiver that has accepted `n` blocks**, and is not over. -/
structure Receives (x : Session) (peer : Endpoint) (v₀ : ReceiverView) (n : ℕ) (p : Phase)
    (v : ReceiverView) : Prop where
  phase_cases : p = .requesting peer.address ∧ v₀.remote ≠ peer ∧ n = 0 ∨ p = .waiting peer ∨
    p = .dallying peer ∧ x.lastBlock ≤ n
  block_eq : v.block = BlockNumber.bn n
  /-- The last answer is stored. -/
  stored : p = .waiting peer → v.packet = (x.ack n).encode
  request : Packet.packetType v.packet ≠ .error
  dataSize_eq : v.dataSize = x.dataSize ∨
    p = .requesting peer.address ∧ v.dataSize = defaultDataSize
  kept : v₀.Kept v

/-- What a receiver passes on when it goes from `n` blocks to `n'` blocks. -/
structure Session.Delivers (x : Session) (n n' : ℕ) (acts : List Action) : Prop where
  deliveries_eq : x.prefixOf n ++ deliveries acts = x.prefixOf n'
  successful : .finished .successful ∈ acts → x.lastBlock ≤ n'

section Receiver

variable {x : Session} {peer : Endpoint} {v₀ v v' : ReceiverView} {n d : ℕ} {p p' : Phase}
  {acts : List Action} {e : PeerEvent}

theorem Receives.admits (h : Receives x peer v₀ n p v) : p.admits peer := by
  rcases h.phase_cases with ⟨rfl, -, -⟩ | rfl | ⟨rfl, -⟩ <;> rfl

/-- Success is reported only after a short block. -/
theorem short_of_successful {data : RawData} (h : .finished .successful ∈ v.closing data) :
    data.length < v.dataSize.toNat := by
  rw [ReceiverView.closing] at h
  split_ifs at h with hshort
  · rw [Bool.and_eq_true] at hshort
    exact of_decide_eq_true hshort.1
  · cases h

theorem onWire_closing (data : RawData) : ∀ a ∈ v.closing data, a.onWire = none := by
  rw [ReceiverView.closing]
  split_ifs
  · exact onWire_completion _ _
  · simp

theorem flawless_closing (data : RawData) : Flawless (v.closing data) := by
  rw [ReceiverView.closing]
  split_ifs
  · exact flawless_completion _ (Or.inl rfl)
  · exact flawless_nil

/-- **The answer to a block**, and the end if it is the last one. -/
theorem Receives.afterBlock (hx : x.Valid) (peer : Endpoint) (hkept : v₀.Kept v)
    (hsize : v.dataSize = x.dataSize) (k : ℕ)
    (hp : v.phaseAfter peer (block x.file x.dataSize.toNat k) ≠ .done) :
    Receives x peer v₀ (k + 1) (v.phaseAfter peer (block x.file x.dataSize.toNat k))
      ({ v with block := BlockNumber.bn (k + 1) }.sent (x.ack (k + 1))) where
  phase_cases := by
    rw [ReceiverView.phaseAfter, ReceiverView.short, Phase.afterData] at hp ⊢
    split_ifs at hp ⊢ with hshort hdally
    · rw [decide_eq_true_eq, hsize] at hshort
      exact Or.inr (Or.inr ⟨rfl, (x.short_iff hx k).mp hshort⟩)
    · exact absurd rfl hp
    · exact Or.inr (Or.inl rfl)
  block_eq := rfl
  stored _ := rfl
  request := by
    rw [ReceiverView.sent_packet, Packet.packetType_encode]
    exact x.ack_type_ne _
  dataSize_eq := Or.inl hsize
  kept := ⟨hkept.negotiates, hkept.buffer, hkept.remote, hkept.configuration⟩

/-- An item that is a block. -/
theorem Session.item_eq_data {b : BlockNumber} {data : RawData} (h : x.item d = .data b data) :
    ∃ k, d = k + 1 ∧ BlockNumber.bn (k + 1) = b ∧ block x.file x.dataSize.toNat k = data := by
  cases d with
  | zero => cases h
  | succ k =>
    obtain ⟨hb, hdata⟩ := Packet.data.inj h
    exact ⟨k, rfl, hb, hdata⟩

/-- An item that acknowledges options. -/
theorem Session.item_eq_options {options : Options} (h : x.item d = .optionsAcknowledgement options)
    (hoffer : d = 0 → x.offer.isSome) : d = 0 ∧ x.offer = some options := by
  cases d with
  | zero =>
    obtain ⟨options', ho⟩ := Option.isSome_iff_exists.mp (hoffer rfl)
    rw [Session.item, ho] at h
    exact ⟨rfl, ho.trans (congrArg some (Packet.optionsAcknowledgement.inj h))⟩
  | succ k => cases h

theorem phaseAfter_ne_requesting (data : RawData) (server : Address) :
    v.phaseAfter peer data ≠ .requesting server := by
  rw [ReceiverView.phaseAfter, Phase.afterData]
  split_ifs <;> rintro ⟨⟩

/-- Nothing but the answer is sent. -/
theorem Session.flawless_answer (x : Session) (v : ReceiverView) (peer : Endpoint) (n : ℕ)
    (data : RawData) :
    Flawless (.send (x.ack n).encode peer :: v.closing data) ∧
      sentTo peer (.send (x.ack n).encode peer :: v.closing data) = [(x.ack n).encode] := by
  constructor
  · refine (flawless_send ?_ peer).append (flawless_closing data)
    rw [Packet.packetType_encode]
    exact x.ack_type_ne n
  · rw [sentTo_send, sentTo_of_onWire (onWire_closing data)]

/-- Success is reported with the answer to the last block. -/
theorem Session.lastBlock_le (hx : x.Valid) (hsize : v.dataSize = x.dataSize) {k : ℕ}
    (h : .finished .successful ∈ v.closing (block x.file x.dataSize.toNat k)) :
    x.lastBlock ≤ k + 1 := by
  have hshort := short_of_successful h
  rw [hsize] at hshort
  exact (x.short_iff hx k).mp hshort

/-- **The answer to options**, before the first block. -/
theorem Receives.afterOptions (hx : x.Valid) (h : Receives x peer v₀ n p v) {options : Options}
    (ho : x.offer = some options) (hblock : v.block = 0) (timeout : ℤ) :
    Receives x peer v₀ 0 (.waiting peer)
      ({ v with
        dataSize := ((options.getOption 16 (tftpOptionsName .blockSize) blockSizeOptionMin
          blockSizeOptionMax).1.2.map UInt16.ofNat).getD v.dataSize
        timeout := timeout }.sent (.acknowledgement 0)) where
  phase_cases := Or.inr (Or.inl rfl)
  block_eq := hblock
  stored _ := by
    rw [Session.ack, hx.one_side (by rw [ho]; rfl), ReceiverView.sent_packet]
  request := by
    rw [ReceiverView.sent_packet, Packet.packetType_encode]
    rintro ⟨⟩
  dataSize_eq := Or.inl ((hx.offered options ho).dataSize_eq v.dataSize
    (h.dataSize_eq.imp id And.right))
  kept := ⟨h.kept.negotiates, h.kept.buffer, h.kept.remote, h.kept.configuration⟩

/-- **What a receiver does with an item**: it answers it and goes on, or it fails. -/
theorem Receives.item (hx : x.Valid) (h : Receives x peer v₀ n p v)
    (hinj : ∀ m, m = n ∨ m = n + 1 → BlockNumber.bn d = BlockNumber.bn m → d = m)
    (hsize : d ≠ 0 → v.dataSize = x.dataSize) (hoffer : d = 0 → x.offer.isSome)
    (hstep : ReceiverStep v peer (.packet (x.item d)) acts p' v') :
    ∃ n', (p' ≠ .done → Receives x peer v₀ n' p' v') ∧ x.Delivers n n' acts ∧
      (∀ server, p' ≠ .requesting server) ∧
      (Flawless acts ∧ sentTo peer acts = [(x.ack n').encode] ∧
          (n' = n ∨ n' = n + 1 ∧ d = n + 1) ∨
        n' = n ∧ Fails peer acts p' ∧ (d ≠ 0 → d ≠ n ∧ (d = n + 1 → v.negotiates = true))) := by
  generalize hr : Received.packet (x.item d) = r at hstep
  cases hstep with
  | repeated data =>
    -- the last block again
    obtain ⟨k, rfl, hb, rfl⟩ := x.item_eq_data (Received.packet.inj hr)
    obtain rfl : k + 1 = n := hinj n (Or.inl rfl) (hb.trans h.block_eq)
    have hdata := hsize k.succ_ne_zero
    have hv : { v with block := BlockNumber.bn (k + 1) } = v := by rw [hb]
    have hreceives := Receives.afterBlock hx peer h.kept hdata k
    rw [hv] at hreceives
    obtain ⟨hflawless, hsent⟩ := x.flawless_answer v peer (k + 1)
      (block x.file x.dataSize.toNat k)
    rw [← hb]
    refine ⟨k + 1, hreceives, ⟨by simp, fun hs => ?_⟩, phaseAfter_ne_requesting _,
      Or.inl ⟨hflawless, hsent, Or.inl rfl⟩⟩
    exact x.lastBlock_le hx hdata (by simpa using hs)
  | accepted calls data hcalls hfits =>
    -- the next block
    have hneg := negotiation_of_next hcalls
    obtain ⟨k, rfl, hb, rfl⟩ := x.item_eq_data (Received.packet.inj hr)
    rw [h.block_eq, BlockNumber.next_bn] at hb ⊢
    obtain rfl : k = n := by simpa using hinj (n + 1) (Or.inr rfl) hb
    have hdata := hsize k.succ_ne_zero
    obtain ⟨hflawless, hsent⟩ := x.flawless_answer v peer (k + 1)
      (block x.file x.dataSize.toNat k)
    have hcalls' := isCall_concat (isCall_negotiation hneg)
      (a := .receivedData (block x.file x.dataSize.toNat k)) trivial
    have hacts : calls ++ .receivedData (block x.file x.dataSize.toNat k) ::
        .send (Packet.acknowledgement (BlockNumber.bn (k + 1))).encode peer ::
          v.closing (block x.file x.dataSize.toNat k) =
        (calls ++ [.receivedData (block x.file x.dataSize.toNat k)]) ++
          .send (x.ack (k + 1)).encode peer :: v.closing (block x.file x.dataSize.toNat k) := by
      simp [Session.ack]
    rw [hacts]
    refine ⟨k + 1, Receives.afterBlock hx peer h.kept hdata k, ⟨?_, fun hs => ?_⟩,
      phaseAfter_ne_requesting _, Or.inl ⟨(flawless_calls hcalls').append hflawless, ?_,
        Or.inr ⟨rfl, rfl⟩⟩⟩
    · rw [Session.prefixOf_succ]
      simp [deliveries_negotiation hneg]
    · rw [finished_mem_calls_append hcalls'] at hs
      exact x.lastBlock_le hx hdata (by simpa using hs)
    · rw [sentTo_calls_append hcalls', hsent]
  | negotiated calls options timeout hcalls hblock =>
    -- the options, before the first block
    obtain ⟨rfl, ho⟩ := x.item_eq_options (Received.packet.inj hr) hoffer
    obtain rfl : n = 0 := BlockNumber.bn_eq_zero.mp (h.block_eq.symm.trans hblock)
    have hcalls' := isCall_negotiation hcalls
    refine ⟨0, fun _ => h.afterOptions hx ho hblock timeout, ⟨?_, fun hs => ?_⟩,
      by rintro _ ⟨⟩, Or.inl ⟨?_, ?_, Or.inl rfl⟩⟩
    · simp [deliveries_negotiation hcalls]
    · rw [finished_mem_calls_append hcalls'] at hs
      simp at hs
    · refine (flawless_calls hcalls').append (flawless_send ?_ peer)
      rw [Packet.packetType_encode]
      rintro ⟨⟩
    · rw [sentTo_calls_append hcalls', sentTo_send, Session.ack,
        hx.one_side (hoffer rfl)]
      rfl
  | failed _ calls errors status size timeout packet counter hcalls hfailure hsettings hdata =>
    have hfails := hfailure.fails (isCall_negotiation hcalls) v.reports
    refine ⟨n, fun hne => absurd rfl hne, ⟨?_, fun hs => absurd hs hfails.status⟩, by rintro _ ⟨⟩,
      Or.inr ⟨rfl, hfails, fun hd => ?_⟩⟩
    · simp [deliveries_negotiation hcalls, hfailure.deliveries_errors, ReceiverView.completion]
    · obtain ⟨k, rfl⟩ := Nat.exists_eq_succ_of_ne_zero hd
      obtain ⟨hne, hnext⟩ := hdata _ _ hr.symm
      constructor
      · rintro rfl
        exact hne h.block_eq.symm
      · rintro heq
        refine hnext ?_ ?_
        · rw [h.block_eq, BlockNumber.next_bn, ← heq]
        · rw [hsize hd]
          exact length_block_le

/-- **What a receiver does with an ERROR packet**: it fails. -/
theorem ReceiverStep.error {r : Received}
    (hr : ∀ q, r = .packet q → q.type = .error)
    (hstep : ReceiverStep v peer r acts p' v') :
    Fails peer acts p' ∧ deliveries acts = [] := by
  cases hstep with
  | repeated | accepted | negotiated => exact absurd (hr _ rfl) (by simp [Packet.type])
  | failed _ calls errors status size timeout packet counter hcalls hfailure hsettings hdata =>
    refine ⟨hfailure.fails (isCall_negotiation hcalls) v.reports, ?_⟩
    simp [deliveries_negotiation hcalls, hfailure.deliveries_errors, ReceiverView.completion]

/-- **What a receiver does when its timer expires**: it repeats its last answer, or its request,
or it is over. -/
theorem Receives.timeout (h : Receives x peer v₀ n p v)
    (hreaction : ReceiverReaction v p .timeout acts p' v') :
    (p' ≠ .done → Receives x peer v₀ n p' v') ∧ x.Delivers n n acts ∧ Flawless acts ∧
      (sentTo peer acts = [] ∨ sentTo peer acts = [(x.ack n).encode]) ∧
      ((∀ server, p' ≠ .requesting server) ∨ p = p' ∧ sentTo peer acts = []) := by
  generalize he : PeerEvent.timeout = e at hreaction
  cases hreaction with
  | idle _ hidle =>
    subst he
    rcases hidle with rfl | ⟨peer', source, rawPacket', hphase, hsource, heq⟩
    · exact h.admits.elim
    · cases heq
  | foreign | received => cases he
  | resend destination hphase hretries =>
    have hreceives : Receives x peer v₀ n p { v with counter := v.counter + 1 } :=
      ⟨h.phase_cases, h.block_eq, h.stored, h.request, h.dataSize_eq,
        ⟨h.kept.negotiates, h.kept.buffer, h.kept.remote, h.kept.configuration⟩⟩
    refine ⟨fun _ => hreceives, ⟨?_, by simp⟩, flawless_resend h.request destination, ?_⟩
    · rw [deliveries_cons_none rfl]
      simp
    · rcases h.phase_cases with ⟨rfl, hremote, -⟩ | rfl | ⟨rfl, -⟩
      · -- the request does not go to the operation
        obtain rfl : destination = v.remote := by simpa using hphase
        rw [← h.kept.remote] at hremote
        have hnil := sentTo_resend_ne hremote v.packet []
        exact ⟨Or.inl hnil, Or.inr ⟨rfl, hnil⟩⟩
      · obtain rfl : peer = destination := by simpa using hphase
        refine ⟨Or.inr ?_, Or.inl (by rintro _ ⟨⟩)⟩
        rw [← h.stored rfl]
        exact sentTo_resend _ []
      · simp at hphase
  | expire hphase hretries =>
    refine ⟨fun hne => absurd rfl hne, ⟨?_, fun hs => ?_⟩, flawless_completion _ (Or.inr rfl),
      Or.inl (sentTo_completion _ _ _), Or.inl (by rintro _ ⟨⟩)⟩
    · simp [ReceiverView.completion]
    · exact absurd (finished_completion hs) (by decide)
  | dallied peer' hphase =>
    refine ⟨fun hne => absurd rfl hne, ⟨?_, fun _ => ?_⟩, flawless_completion _ (Or.inl rfl),
      Or.inl (sentTo_completion _ _ _), Or.inl (by rintro _ ⟨⟩)⟩
    · simp [ReceiverView.completion]
    · rcases h.phase_cases with ⟨rfl, -, -⟩ | rfl | ⟨-, hlast⟩
      · cases hphase
      · cases hphase
      · exact hlast

end Receiver

/-! ### The sender -/

/-- What nothing changes in a sender. -/
structure SenderView.Kept {ε : Type} (w₀ w : SenderView ε) : Prop where
  negotiation : w.negotiation = w₀.negotiation
  buffer : w.buffer = w₀.buffer
  remote : w.remote = w₀.remote
  configuration : w.configuration = w₀.configuration
  transferSize : w.transferSize = w₀.transferSize

/-- **A sender that has sent `k` blocks of a file**, and is not over. -/
structure Sends (x : Session) (peer : Endpoint) (w₀ : SenderView MemoryFile) (k : ℕ) (p : Phase)
    (w : SenderView MemoryFile) : Prop where
  phase_cases : p = .requesting peer.address ∧ w₀.remote ≠ peer ∧ k = 0 ∨ p = .waiting peer
  transmitted_eq : w.transmitted = BlockNumber.bn k
  received_eq : w.received = 0xFFFF ∧ (k = 0 ∨ k = 1 ∧ x.answer.isSome) ∨
    ∃ a, k = a + 1 ∧ w.received = BlockNumber.bn a
  dataSize_eq : w.dataSize = x.dataSize ∨
    k = 0 ∧ x.answer.isSome ∧ w.dataSize = defaultDataSize
  last_eq : w.last = decide (x.lastBlock ≤ k)
  handler_after : w.handler.After x.file x.dataSize.toNat k
  /-- The last item is stored. -/
  stored : p = .waiting peer → w.packet = (x.item k).encode ∧ (k = 0 → x.offer.isSome)
  request : Packet.packetType w.packet ≠ .error
  kept : w₀.Kept w

/-- The option negotiation handler does not touch the file. -/
def SenderView.KeepsFile {ε : Type} (w : SenderView ε) : Prop :=
  ∀ g, w.negotiation = some g → ∀ handler options, (g handler options).2.2 = handler

section Sender

variable {x : Session} {peer : Endpoint} {w₀ w w' : SenderView MemoryFile} {k a : ℕ}
  {p p' : Phase} {acts : List Action} {e : PeerEvent}

theorem Sends.admits (h : Sends x peer w₀ k p w) : p.admits peer := by
  rcases h.phase_cases with ⟨rfl, -, -⟩ | rfl <;> rfl

theorem SenderView.KeepsFile.consulted {ε : Type} {u : SenderView ε} (h : u.KeepsFile)
    {options : Options} {calls : List Action} {state : ε} (hc : u.Consulted options calls state) :
    state = u.handler := by
  rcases hc with ⟨-, rfl⟩ | ⟨⟨g, hg, rfl⟩, -⟩
  · rfl
  · exact h g hg _ _

theorem SenderView.KeepsFile.acknowledged {ε : Type} {u : SenderView ε} (h : u.KeepsFile)
    {calls : List Action} {state : ε} (hc : u.Acknowledged calls state) :
    state = u.handler := by
  rcases hc with ⟨-, rfl⟩ | ⟨-, hc⟩
  · rfl
  · exact h.consulted hc

/-- **The next block is sent**: block `k` of the file, as number `k + 1`. -/
theorem Sends.afterBlock (hx : x.Valid) (peer : Endpoint) {u : SenderView MemoryFile}
    (hkept : w₀.Kept u) (hsize : u.dataSize = x.dataSize)
    (hafter : u.handler.After x.file x.dataSize.toNat k)
    (htransmitted : u.transmitted = BlockNumber.bn k) (hlast : u.last = false)
    (hreceived : u.received = 0xFFFF ∧ k = 0 ∧ x.answer.isSome ∨
      u.received = BlockNumber.bn k) :
    Sends x peer w₀ (k + 1) (.waiting peer) u.advanced ∧
      u.sending peer = [.sendData x.dataSize.toNat (block x.file x.dataSize.toNat k),
        .send (x.item (k + 1)).encode peer] := by
  obtain ⟨hblock, hnext⟩ := MemoryFile.sendData_block hafter
  have hb : u.block = block x.file x.dataSize.toNat k := by
    rw [← hblock, ← hsize]
    rfl
  have hpacket : Packet.data u.transmitted.next u.block = x.item (k + 1) := by
    rw [hb, htransmitted, BlockNumber.next_bn]
    rfl
  constructor
  · refine ⟨Or.inr rfl, ?_, ?_, Or.inl hsize, ?_, ?_, fun _ => ⟨?_, by simp⟩, ?_, ?_⟩
    · rw [SenderView.advanced, htransmitted, BlockNumber.next_bn]
    · exact hreceived.imp (fun h => ⟨h.1, Or.inr ⟨by omega, h.2.2⟩⟩) fun h => ⟨k, rfl, h⟩
    · rw [SenderView.advanced, hb, hsize, hlast]
      rcases Nat.lt_or_ge (k + 1) x.lastBlock with hlt | hge
      · rw [if_neg (fun h => absurd ((x.short_iff hx k).mp h) (by omega)),
          decide_eq_false (by omega)]
      · rw [if_pos ((x.short_iff hx k).mpr hge), decide_eq_true hge]
    · rw [← hsize] at hnext
      exact hsize ▸ hnext
    · rw [SenderView.advanced, hpacket]
    · rw [SenderView.advanced, hpacket, Packet.packetType_encode]
      exact x.item_type_ne _
    · exact ⟨hkept.negotiation, hkept.buffer, hkept.remote, hkept.configuration,
        hkept.transferSize⟩
  · rw [SenderView.sending, hpacket, hb, hsize]

/-- An answer that acknowledges a number, and not options. -/
theorem Session.ack_eq {n : BlockNumber} (h : x.ack a = .acknowledgement n) :
    n = BlockNumber.bn a ∧ (a = 0 → x.answer = none) := by
  cases a with
  | zero =>
    rw [Session.ack] at h
    cases ho : x.answer with
    | none =>
      rw [ho] at h
      exact ⟨(Packet.acknowledgement.inj h).symm, fun _ => rfl⟩
    | some options =>
      rw [ho] at h
      cases h
  | succ a => exact ⟨(Packet.acknowledgement.inj h).symm, by simp⟩

/-- An answer that acknowledges options. -/
theorem Session.ack_eq_options {options : Options}
    (h : x.ack a = .optionsAcknowledgement options) : a = 0 ∧ x.answer = some options := by
  cases a with
  | zero =>
    rw [Session.ack] at h
    cases ho : x.answer with
    | none =>
      rw [ho] at h
      cases h
    | some options' =>
      rw [ho] at h
      exact ⟨rfl, congrArg some (Packet.optionsAcknowledgement.inj h)⟩
  | succ a => cases h

/-- Before the first block the end of the file is not reached. -/
theorem Session.not_lastBlock_le_zero : ¬ x.lastBlock ≤ 0 := Nat.not_succ_le_zero _

/-- **The next item and nothing else is sent**, after the calls of the handlers. -/
theorem Session.flawless_sending (x : Session) (peer : Endpoint) (k : ℕ) {calls : List Action}
    (hcalls : ∀ a ∈ calls, a.IsCall) :
    let acts' := calls ++ [.sendData x.dataSize.toNat (block x.file x.dataSize.toNat k),
      .send (x.item (k + 1)).encode peer]
    .finished .successful ∉ acts' ∧ Flawless acts' ∧
      sentTo peer acts' = [(x.item (k + 1)).encode] := by
  have hcalls' := isCall_concat_sendData hcalls x.dataSize.toNat
    (block x.file x.dataSize.toNat k)
  have heq : calls ++ [.sendData x.dataSize.toNat (block x.file x.dataSize.toNat k),
      .send (x.item (k + 1)).encode peer] =
        calls ++ [.sendData x.dataSize.toNat (block x.file x.dataSize.toNat k)] ++
          [.send (x.item (k + 1)).encode peer] := by simp
  dsimp only
  rw [heq]
  refine ⟨fun hs => ?_, (flawless_calls hcalls').append (flawless_send ?_ peer), ?_⟩
  · rw [finished_mem_calls_append hcalls'] at hs
    simp at hs
  · rw [Packet.packetType_encode]
    exact x.item_type_ne _
  · rw [sentTo_calls_append hcalls', sentTo_send]
    rfl

/-- The last answer again: it has come to a sender that waits for its peer. -/
theorem Sends.again (h : Sends x peer w₀ k p w) (hle : a ≤ k)
    (hn : w.received = BlockNumber.bn a) : Sends x peer w₀ k (.waiting peer) w := by
  rcases h.phase_cases with ⟨-, -, rfl⟩ | rfl
  · obtain rfl := Nat.le_zero.mp hle
    rcases h.received_eq with ⟨hsentinel, -⟩ | ⟨m, hm, -⟩
    · rw [hsentinel] at hn
      exact absurd hn.symm (bn_ne_sentinel (by omega))
    · omega
  · exact h

/-- What a sender has acknowledged by its peer is one item behind what it has sent. -/
theorem Sends.received_of_succ (h : Sends x peer w₀ (a + 1) p w)
    (hnone : a = 0 → x.answer = none) : w.received = BlockNumber.bn a := by
  rcases h.received_eq with ⟨-, hzero | ⟨hone, hsome⟩⟩ | ⟨m, hm, hreceived⟩
  · omega
  · rw [hnone (by omega)] at hsome
    cases hsome
  · obtain rfl : a = m := by omega
    exact hreceived

/-- **What a sender does with an answer**: it ignores it, or goes on, or it fails. -/
theorem Sends.ack (hx : x.Valid) (h : Sends x peer w₀ k p w) (hfile : w₀.KeepsFile)
    (hle : a ≤ k)
    (hinj : ∀ m, m = k ∨ m + 1 = k → BlockNumber.bn a = BlockNumber.bn m → a = m)
    (hlate : a = 0 → x.answer.isSome → k = 0)
    (hstep : SenderStep w peer (.packet (x.ack a)) acts p' w') :
    ∃ k', (p' ≠ .done → Sends x peer w₀ k' p' w') ∧
      (.finished .successful ∈ acts → a = k ∧ x.lastBlock ≤ k) ∧
      (Flawless acts ∧ (k' = k ∧ sentTo peer acts = [] ∨
          k' = k + 1 ∧ a = k ∧ k + 1 ≤ x.lastBlock ∧
            sentTo peer acts = [(x.item (k + 1)).encode]) ∨
        k' = k ∧ Fails peer acts p' ∧ ((a = 0 → x.answer = none) →
          a + 1 ≠ k ∧ (a = k → w.negotiation.isSome))) := by
  have hkeeps : w.KeepsFile := by
    rw [SenderView.KeepsFile, h.kept.negotiation]
    exact hfile
  generalize hr : Received.packet (x.ack a) = r at hstep
  cases hstep with
  | repeated =>
    -- the last answer again
    obtain ⟨hn, -⟩ := x.ack_eq (Received.packet.inj hr)
    exact ⟨k, fun _ => h.again hle hn, by simp, Or.inl ⟨flawless_nil, Or.inl ⟨rfl, rfl⟩⟩⟩
  | next calls state hcalls hne hlast =>
    -- the answer to the last item
    obtain ⟨hn, hanswer⟩ := x.ack_eq (Received.packet.inj hr)
    rw [h.transmitted_eq] at hn
    obtain rfl : a = k := hinj k (Or.inl rfl) hn.symm
    have hstate := hkeeps.acknowledged hcalls
    have hsize : w.dataSize = x.dataSize := by
      refine h.dataSize_eq.resolve_right ?_
      rintro ⟨hzero, hsome, -⟩
      rw [hanswer hzero] at hsome
      cases hsome
    have hbefore : ¬ x.lastBlock ≤ a := by
      rw [h.last_eq] at hlast
      exact of_decide_eq_false hlast
    obtain ⟨hsends, hacts⟩ := Sends.afterBlock hx peer (u := w.acknowledged state)
      ⟨h.kept.negotiation, h.kept.buffer, h.kept.remote, h.kept.configuration,
        h.kept.transferSize⟩ hsize (hstate ▸ h.handler_after) h.transmitted_eq hlast
      (Or.inr h.transmitted_eq)
    obtain ⟨hnot, hflawless, hsent⟩ := x.flawless_sending peer a hcalls.isCall
    rw [hacts]
    exact ⟨a + 1, fun _ => hsends, fun hs => absurd hs hnot,
      Or.inl ⟨hflawless, Or.inr ⟨rfl, rfl, by omega, hsent⟩⟩⟩
  | completed calls state hcalls hne hlast =>
    -- the answer to the last block
    obtain ⟨hn, -⟩ := x.ack_eq (Received.packet.inj hr)
    rw [h.transmitted_eq] at hn
    obtain rfl : a = k := hinj k (Or.inl rfl) hn.symm
    have hend : x.lastBlock ≤ a := by
      rw [h.last_eq] at hlast
      exact of_decide_eq_true hlast
    refine ⟨a, fun hne => absurd rfl hne, fun _ => ⟨rfl, hend⟩, Or.inl ⟨?_, Or.inl ⟨rfl, ?_⟩⟩⟩
    · exact (flawless_calls hcalls.isCall).append (flawless_completion _ (Or.inl rfl))
    · rw [sentTo_calls_append hcalls.isCall, SenderView.completion, sentTo_completion]
  | negotiated calls state options remaining size timeout htakes hreceived hcalls hsize =>
    -- the options, instead of block zero
    obtain ⟨rfl, hanswer⟩ := x.ack_eq_options (Received.packet.inj hr)
    have hsome : x.answer.isSome := by rw [hanswer]; rfl
    obtain rfl := hlate rfl hsome
    have hstate := hkeeps.consulted hcalls
    have hsize' : size = x.dataSize := by
      rw [hsize]
      exact (hx.answered options hanswer).dataSize_eq _ (h.dataSize_eq.imp id fun h => h.2.2)
    have hlast : w.last = false := by
      rw [h.last_eq]
      exact decide_eq_false x.not_lastBlock_le_zero
    obtain ⟨hsends, hacts⟩ := Sends.afterBlock hx peer
      (u := w.negotiated size timeout state)
      ⟨h.kept.negotiation, h.kept.buffer, h.kept.remote, h.kept.configuration,
        h.kept.transferSize⟩ hsize' (hstate ▸ h.handler_after) h.transmitted_eq hlast
      (Or.inl ⟨hreceived, rfl, hsome⟩)
    obtain ⟨hnot, hflawless, hsent⟩ := x.flawless_sending peer 0 hcalls.isCall
    rw [hacts]
    exact ⟨1, fun _ => hsends, fun hs => absurd hs hnot,
      Or.inl ⟨hflawless, Or.inr ⟨rfl, rfl, Nat.succ_le_succ (Nat.zero_le _), hsent⟩⟩⟩
  | failed _ calls errors status w' hcalls hfailure hretries htransmitted hlast hsettings hack =>
    have hcalls' : ∀ b ∈ calls, b.IsCall := by
      rcases hcalls with rfl | ⟨options, rfl⟩ <;> simp [Action.IsCall]
    have hfails := hfailure.fails hcalls' w.reports
    refine ⟨k, fun hne => absurd rfl hne, fun hs => absurd hs hfails.status,
      Or.inr ⟨rfl, hfails, fun hnone => ?_⟩⟩
    have hnumber : x.ack a = .acknowledgement (BlockNumber.bn a) := by
      cases a with
      | zero =>
        rw [Session.ack, hnone rfl]
        rfl
      | succ a => rfl
    obtain ⟨hne, hnext⟩ := hack (BlockNumber.bn a) (by rw [← hr, hnumber])
    constructor
    · rintro rfl
      exact hne (h.received_of_succ hnone).symm
    · rintro rfl
      exact (hnext h.transmitted_eq.symm).2

/-- **What a sender does with an ERROR packet**: it fails. -/
theorem SenderStep.error {r : Received} (hr : ∀ q, r = .packet q → q.type = .error)
    (hstep : SenderStep w peer r acts p' w') : Fails peer acts p' := by
  cases hstep with
  | repeated | next | completed | negotiated => exact absurd (hr _ rfl) (by simp [Packet.type])
  | failed _ calls errors status w' hcalls hfailure hretries htransmitted hlast hsettings hack =>
    refine hfailure.fails ?_ w.reports
    rcases hcalls with rfl | ⟨options, rfl⟩ <;> simp [Action.IsCall]

/-- **What a sender does when its timer expires**: it repeats its last item, or its request, or
it is over. -/
theorem Sends.timeout (h : Sends x peer w₀ k p w)
    (hreaction : SenderReaction w p .timeout acts p' w') :
    (p' ≠ .done → Sends x peer w₀ k p' w') ∧ .finished .successful ∉ acts ∧ Flawless acts ∧
      (sentTo peer acts = [] ∨
        (k = 0 → x.offer.isSome) ∧ sentTo peer acts = [(x.item k).encode]) := by
  generalize he : PeerEvent.timeout = e at hreaction
  cases hreaction with
  | idle _ hidle =>
    subst he
    rcases hidle with rfl | ⟨peer', source, rawPacket', hphase, hsource, heq⟩
    · exact h.admits.elim
    · cases heq
  | foreign | received => cases he
  | resend destination hphase hretries =>
    have hsends : Sends x peer w₀ k p { w with counter := w.counter + 1 } :=
      ⟨h.phase_cases, h.transmitted_eq, h.received_eq, h.dataSize_eq, h.last_eq, h.handler_after,
        h.stored, h.request, ⟨h.kept.negotiation, h.kept.buffer, h.kept.remote,
          h.kept.configuration, h.kept.transferSize⟩⟩
    refine ⟨fun _ => hsends, by simp, flawless_resend h.request destination, ?_⟩
    rcases h.phase_cases with ⟨rfl, hremote, -⟩ | rfl
    · -- the request does not go to the operation
      obtain rfl : destination = w.remote := by simpa using hphase
      rw [← h.kept.remote] at hremote
      exact Or.inl (sentTo_resend_ne hremote _ [])
    · obtain rfl : peer = destination := by simpa using hphase
      obtain ⟨hpacket, hoffer⟩ := h.stored rfl
      rw [hpacket]
      exact Or.inr ⟨hoffer, sentTo_resend _ []⟩
  | expire hphase hretries =>
    refine ⟨fun hne => absurd rfl hne, fun hs => ?_, flawless_completion _ (Or.inr rfl),
      Or.inl (sentTo_completion _ _ _)⟩
    exact absurd (finished_completion hs) (by decide)
  | dallied peer' hphase =>
    rcases h.phase_cases with ⟨rfl, -, -⟩ | rfl <;> cases hphase

end Sender

end Tftp
