import Mathlib.Data.UInt
import Tftp.Packets.Grammar

/-!
# The dispatcher and its statistic

`PacketHandler::packet` is where every received datagram arrives. It looks at the
opcode, tries the decoder of that class, and calls one of seven handlers; on the way it
counts the datagram in the process-wide receive statistic. `Tftp.PacketHandler.dispatch`
lists what it does for one datagram, in order, handler calls and countings alike, also
where a handler throws `InvalidPacketException` itself.

The opcode is checked twice, once to choose the branch and once by the decoder in it, so
that the branch taken is the one of the only decoder that can accept
(`Tftp.PacketHandler.dispatch_eq`). It follows that the dispatcher splits the datagrams
by the decoder that accepts them, and that the statistic misses none and counts none
twice (`Tftp.PacketStatistic.total_receiveAll`).
-/

namespace Tftp

open Protocol

instance : LinearOrder PacketType :=
  LinearOrder.lift' (fun packetType => packetType.opcode.toNat)
    (by intro t t'; cases t <;> cases t' <;> decide)

/-- Packets by type: how many, and their size in total (`size_t`). -/
abbrev PacketStatistic := SortedMap PacketType (UInt64 × UInt64)

namespace PacketStatistic

/-- `PacketStatistic::packet`: counts a packet. -/
def packet (statistic : PacketStatistic) (type : PacketType) (size : UInt64) : PacketStatistic :=
  (statistic.emplace type (0, 0)).modify type fun value => (value.1 + 1, value.2 + size)

/-- `PacketStatistic::total`: accumulates all values. -/
def total (statistic : PacketStatistic) : UInt64 × UInt64 :=
  statistic.entries.foldl (fun total x => (total.1 + x.2.1, total.2 + x.2.2)) (0, 0)

section Total

open scoped UInt64.CommRing

theorem total_eq (statistic : PacketStatistic) :
    statistic.total = (statistic.weight Prod.fst, statistic.weight Prod.snd) := by
  have hfold : ∀ (l : List (PacketType × UInt64 × UInt64)) (a : UInt64 × UInt64),
      l.foldl (fun total x => (total.1 + x.2.1, total.2 + x.2.2)) a =
        (a.1 + (l.map fun x => x.2.1).sum, a.2 + (l.map fun x => x.2.2).sum) := by
    intro l
    induction l with
    | nil => simp
    | cons x l ih =>
      intro a
      rw [List.foldl_cons, ih]
      simp only [List.map_cons, List.sum_cons, add_assoc]
  rw [total, hfold]
  simp only [SortedMap.weight, zero_add]

/-- A packet adds one to the number and its size to the size. -/
theorem total_packet (statistic : PacketStatistic) (type : PacketType) (size : UInt64) :
    (statistic.packet type size).total = (statistic.total.1 + 1, statistic.total.2 + size) := by
  obtain ⟨value, hvalue⟩ := statistic.exists_find?_emplace type ((0 : UInt64), (0 : UInt64))
  have hcount := SortedMap.weight_modify (w := Prod.fst)
    (f := fun value : UInt64 × UInt64 => (value.1 + 1, value.2 + size)) hvalue fun _ => rfl
  have hsize := SortedMap.weight_modify (w := Prod.snd)
    (f := fun value : UInt64 × UInt64 => (value.1 + 1, value.2 + size)) hvalue fun _ => rfl
  have hzero : ∀ w : UInt64 × UInt64 → UInt64, w (0, 0) = 0 →
      (statistic.emplace type (0, 0)).weight w = statistic.weight w := fun w hw =>
    SortedMap.weight_emplace hw
  rw [total_eq, total_eq, packet, hcount, hsize, hzero _ rfl, hzero _ rfl]

end Total

end PacketStatistic

/-- A call of one of the seven handlers. -/
inductive HandlerCall where
  /-- The handler of the type of a packet. -/
  | packet (packet : Packet)
  /-- `invalidPacket`. -/
  | invalidPacket (rawPacket : RawData)
  deriving DecidableEq

/-- What the dispatcher does for a datagram. -/
inductive DispatchStep where
  /-- It calls a handler. -/
  | handler (call : HandlerCall)
  /-- It counts the datagram in `globalReceive`. -/
  | globalReceive (type : PacketType) (size : UInt64)
  deriving DecidableEq

namespace PacketHandler

variable {throws : Packet → Bool} {rawPacket : RawData} {p : Packet}

/-- `rawPacket.size()`. -/
def size (rawPacket : RawData) : UInt64 := UInt64.ofNat rawPacket.length

/-- A datagram that is none, or whose handler refuses it. -/
def invalid (rawPacket : RawData) : List DispatchStep :=
  [.globalReceive .invalid (size rawPacket), .handler (.invalidPacket rawPacket)]

/-- The branch of a packet type: its decoder and its handler in one `try` block.
`throws` tells which handlers throw `InvalidPacketException`. -/
def branch (throws : Packet → Bool) (packetType : PacketType) (rawPacket : RawData) :
    Except DecodeError (List DispatchStep) :=
  match Packet.decodeAs packetType rawPacket with
  | .ok packet =>
      if throws packet then pure (.handler (.packet packet) :: invalid rawPacket)
      else pure [.handler (.packet packet), .globalReceive packetType (size rawPacket)]
  | .error (.invalidPacket _) => pure (invalid rawPacket)
  | .error .outOfBounds => .error .outOfBounds

/-- `PacketHandler::packet`: what is done for a datagram, in order. -/
def dispatch (throws : Packet → Bool) (rawPacket : RawData) :
    Except DecodeError (List DispatchStep) :=
  match Packet.packetType rawPacket with
  | .readRequest => branch throws .readRequest rawPacket
  | .writeRequest => branch throws .writeRequest rawPacket
  | .data => branch throws .data rawPacket
  | .acknowledgement => branch throws .acknowledgement rawPacket
  | .error => branch throws .error rawPacket
  | .optionsAcknowledgement => branch throws .optionsAcknowledgement rawPacket
  | .invalid => pure (invalid rawPacket)

/-- `globalReceive` after a step. -/
def count (statistic : PacketStatistic) : DispatchStep → PacketStatistic
  | .handler _ => statistic
  | .globalReceive type size => statistic.packet type size

/-- `globalReceive` after the datagrams of a list. -/
def receiveAll (throws : Packet → Bool) (statistic : PacketStatistic) :
    List RawData → Except DecodeError PacketStatistic
  | [] => .ok statistic
  | rawPacket :: rawPackets => do
      let steps ← dispatch throws rawPacket
      receiveAll throws (steps.foldl count statistic) rawPackets

/-- The branch is the one of the opcode. -/
theorem dispatch_eq :
    dispatch throws rawPacket = branch throws (Packet.packetType rawPacket) rawPacket := by
  rw [dispatch]
  cases Packet.packetType rawPacket <;> rfl

/-- What a decoder accepts lies in the branch of that decoder. -/
theorem packetType_of_decodeAs {packetType : PacketType}
    (h : Packet.decodeAs packetType rawPacket = .ok p) :
    Packet.packetType rawPacket = packetType := by
  obtain ⟨body, rfl⟩ := Packet.header_of_decodeAs h
  exact Packet.packetType_setInt packetType body

/-- **A datagram that is accepted** goes to the handler of its packet and is counted
under its type. -/
theorem dispatch_of_decodeAs {packetType : PacketType}
    (h : Packet.decodeAs packetType rawPacket = .ok p) :
    dispatch throws rawPacket =
      .ok (if throws p then .handler (.packet p) :: invalid rawPacket
        else [.handler (.packet p), .globalReceive packetType (size rawPacket)]) := by
  rw [dispatch_eq, packetType_of_decodeAs h, branch, h]
  dsimp only
  split_ifs <;> rfl

/-- **A datagram that no decoder accepts** goes to `invalidPacket` and is counted as
invalid. -/
theorem dispatch_of_rejected (h : ∀ packetType p, Packet.decodeAs packetType rawPacket ≠ .ok p) :
    dispatch throws rawPacket = .ok (invalid rawPacket) := by
  rw [dispatch_eq, branch]
  rcases Packet.decodeAs_total (Packet.packetType rawPacket) rawPacket with
    ⟨p, hp⟩ | ⟨additionalInfo, hr⟩
  · exact absurd hp (h _ p)
  · rw [hr]
    rfl

/-! ### The statistic counts every datagram once -/

/-- Whatever a datagram is, it is counted once. -/
theorem dispatch_counted (throws : Packet → Bool) (rawPacket : RawData) :
    ∃ steps type, dispatch throws rawPacket = .ok steps ∧ ∀ statistic,
      steps.foldl count statistic = statistic.packet type (size rawPacket) := by
  by_cases h : ∃ packetType p, Packet.decodeAs packetType rawPacket = .ok p
  · obtain ⟨packetType, p, hp⟩ := h
    rw [dispatch_of_decodeAs hp]
    cases throws p with
    | true => exact ⟨_, .invalid, rfl, fun _ => rfl⟩
    | false => exact ⟨_, packetType, rfl, fun _ => rfl⟩
  · exact ⟨_, .invalid, dispatch_of_rejected fun t p hp => h ⟨t, p, hp⟩, fun _ => rfl⟩

/-- **The totals of the statistic** are the number and the size of all datagrams, as
far as a `size_t` can hold them. -/
theorem total_receiveAll (throws : Packet → Bool) (statistic : PacketStatistic)
    (rawPackets : List RawData) :
    ∃ statistic', receiveAll throws statistic rawPackets = .ok statistic' ∧
      statistic'.total.1.toNat = (statistic.total.1.toNat + rawPackets.length) % 2 ^ 64 ∧
      statistic'.total.2.toNat =
        (statistic.total.2.toNat + (rawPackets.map List.length).sum) % 2 ^ 64 := by
  induction rawPackets generalizing statistic with
  | nil =>
    exact ⟨statistic, rfl, (Nat.mod_eq_of_lt (UInt64.toNat_lt _)).symm,
      (Nat.mod_eq_of_lt (UInt64.toNat_lt _)).symm⟩
  | cons rawPacket rawPackets ih =>
    obtain ⟨steps, type, hsteps, hcount⟩ := dispatch_counted throws rawPacket
    obtain ⟨statistic', hall, hnumber, hsize⟩ := ih (steps.foldl count statistic)
    rw [hcount, PacketStatistic.total_packet] at hnumber hsize
    refine ⟨statistic', ?_, ?_, ?_⟩
    · rw [receiveAll, hsteps]
      exact hall
    · rw [hnumber, UInt64.toNat_add, List.length_cons]
      simp only [UInt64.reduceToNat]
      omega
    · rw [hsize, UInt64.toNat_add, size, UInt64.toNat_ofNat', List.map_cons, List.sum_cons]
      omega

end PacketHandler

/-- **The dispatcher splits the datagrams by the decoder that accepts them**, and the
receive statistic counts each of them once. -/
theorem dispatch_partition :
    (∀ rawPacket packetType p, Packet.decodeAs packetType rawPacket = .ok p →
      p.type = packetType ∧ packetType ≠ .invalid ∧
      PacketHandler.dispatch (fun _ => false) rawPacket =
        .ok [.handler (.packet p), .globalReceive packetType (PacketHandler.size rawPacket)]) ∧
    (∀ rawPacket, (∀ packetType p, Packet.decodeAs packetType rawPacket ≠ .ok p) →
      PacketHandler.dispatch (fun _ => false) rawPacket =
        .ok [.globalReceive .invalid (PacketHandler.size rawPacket),
          .handler (.invalidPacket rawPacket)]) ∧
    (∀ rawPacket packetType packetType' p p', Packet.decodeAs packetType rawPacket = .ok p →
      Packet.decodeAs packetType' rawPacket = .ok p' → packetType = packetType') ∧
    ∀ statistic rawPackets, ∃ statistic',
      PacketHandler.receiveAll (fun _ => false) statistic rawPackets = .ok statistic' ∧
      statistic'.total.1.toNat = (statistic.total.1.toNat + rawPackets.length) % 2 ^ 64 ∧
      statistic'.total.2.toNat =
        (statistic.total.2.toNat + (rawPackets.map List.length).sum) % 2 ^ 64 := by
  refine ⟨fun rawPacket packetType p h => ⟨Packet.type_of_decodeAs h, ?_, ?_⟩,
    fun rawPacket h => PacketHandler.dispatch_of_rejected h, ?_,
    PacketHandler.total_receiveAll _⟩
  · rintro rfl
    cases h
  · exact PacketHandler.dispatch_of_decodeAs h
  · intro rawPacket packetType packetType' p p' h h'
    rw [← PacketHandler.packetType_of_decodeAs h, PacketHandler.packetType_of_decodeAs h']

/-- After `2 ^ 64` datagrams the number has wrapped around. -/
theorem total_wraps : ¬ ∀ rawPackets, ∃ statistic',
    PacketHandler.receiveAll (fun _ => false) SortedMap.empty rawPackets = .ok statistic' ∧
    statistic'.total.1.toNat = rawPackets.length ∧
    statistic'.total.2.toNat = (rawPackets.map List.length).sum := by
  intro h
  obtain ⟨statistic', hall, hnumber, -⟩ := h (List.replicate (2 ^ 64) [])
  rw [List.length_replicate] at hnumber
  exact absurd (UInt64.toNat_lt statistic'.total.1) (by omega)

end Tftp
