import Tftp.Packets.Codec
import Tftp.Packets.Encoder

/-!
# DATA, ACK and ERROR and their bytes

A DATA, ACK or ERROR packet and its datagram determine each other. One half of this
is the round trip of `Tftp.Packets.Codec`. The other half, proved here, is that
nothing else is accepted: a datagram that none of these packets encodes to is refused
with an `InvalidPacketException`, before any byte outside of it is looked at.

The header is common to all six classes. `Tftp.Packet.decodeHeader_of_ne` refuses
every datagram that does not begin with the opcode; behind the opcode each class has
only the size of the rest to decide on, and ERROR its last byte.
-/

namespace Tftp

namespace Packet

variable {packetType : PacketType} {rawPacket body : RawData}

/-- The decoder throws an `InvalidPacketException`. -/
def Rejected {α : Type} (result : Except DecodeError α) : Prop :=
  ∃ additionalInfo, result = .error (.invalidPacket additionalInfo)

theorem Rejected.bind {α β : Type} {result : Except DecodeError α}
    (h : Rejected result) (f : α → Except DecodeError β) : Rejected (result >>= f) := by
  obtain ⟨additionalInfo, rfl⟩ := h
  exact ⟨additionalInfo, rfl⟩

/-- A datagram with another opcode, or without one, is refused. -/
theorem decodeHeader_of_ne (h : ∀ body, rawPacket ≠ RawData.setInt packetType.opcode ++ body) :
    Rejected (decodeHeader packetType rawPacket) := by
  rw [decodeHeader]
  by_cases hsize : rawPacket.length < headerSize
  · rw [if_pos hsize]
    exact ⟨_, rfl⟩
  · obtain ⟨opcode, body, rfl⟩ := RawData.exists_setInt (not_lt.mp hsize)
    have hopcode : opcode ≠ packetType.opcode := by
      rintro rfl
      exact h body rfl
    simp only [if_neg hsize, RawData.getInt_setInt, Bind.bind, Except.bind, if_pos hopcode]
    exact ⟨_, rfl⟩

theorem decodeHeader_rejected_or (packetType : PacketType) (rawPacket : RawData) :
    Rejected (decodeHeader packetType rawPacket) ∧
      (∀ body, rawPacket ≠ RawData.setInt packetType.opcode ++ body) ∨
    ∃ body, rawPacket = RawData.setInt packetType.opcode ++ body := by
  by_cases h : ∃ body, rawPacket = RawData.setInt packetType.opcode ++ body
  · exact Or.inr h
  · have hne := not_exists.mp h
    exact Or.inl ⟨decodeHeader_of_ne hne, hne⟩

/-! ### The three classes -/

theorem decodeData_of_short (h : body.length < 2) :
    Rejected (decodeData (RawData.setInt PacketType.data.opcode ++ body)) := by
  have hsize : (RawData.setInt PacketType.data.opcode ++ body).length < headerSize + 2 := by
    rw [List.length_append, RawData.length_setInt, headerSize]
    omega
  simp only [decodeData, decodeHeader_setInt, bind, Except.bind, if_pos hsize]
  exact ⟨_, rfl⟩

/-- A datagram that is not refused is one of a DATA packet. -/
theorem decodeData_cases (rawPacket : RawData) :
    (∃ blockNumber bytes, rawPacket = (Packet.data blockNumber bytes).encode) ∨
      Rejected (decodeData rawPacket) := by
  rcases decodeHeader_rejected_or .data rawPacket with ⟨hr, -⟩ | ⟨body, rfl⟩
  · exact Or.inr (Rejected.bind hr _)
  · by_cases hsize : body.length < 2
    · exact Or.inr (decodeData_of_short hsize)
    · obtain ⟨blockNumber, bytes, rfl⟩ := RawData.exists_setInt (not_lt.mp hsize)
      exact Or.inl ⟨blockNumber, bytes, rfl⟩

theorem decodeAcknowledgement_of_ne (h : body.length ≠ 2) :
    Rejected (decodeAcknowledgement
      (RawData.setInt PacketType.acknowledgement.opcode ++ body)) := by
  have hsize : (RawData.setInt PacketType.acknowledgement.opcode ++ body).length ≠
      headerSize + 2 := by
    rw [List.length_append, RawData.length_setInt, headerSize]
    omega
  simp only [decodeAcknowledgement, decodeHeader_setInt, bind, Except.bind, if_pos hsize]
  exact ⟨_, rfl⟩

/-- A datagram that is not refused is one of an ACK packet. -/
theorem decodeAcknowledgement_cases (rawPacket : RawData) :
    (∃ blockNumber, rawPacket = (Packet.acknowledgement blockNumber).encode) ∨
      Rejected (decodeAcknowledgement rawPacket) := by
  rcases decodeHeader_rejected_or .acknowledgement rawPacket with ⟨hr, -⟩ | ⟨body, rfl⟩
  · exact Or.inr (Rejected.bind hr _)
  · by_cases hsize : body.length = 2
    · obtain ⟨blockNumber, rest, rfl⟩ := RawData.exists_setInt hsize.ge
      have hrest : rest = [] := by
        rw [List.length_append, RawData.length_setInt] at hsize
        exact List.length_eq_zero_iff.mp (by omega)
      subst hrest
      exact Or.inl ⟨blockNumber, by rw [encode_acknowledgement, List.append_nil]⟩
    · exact Or.inr (decodeAcknowledgement_of_ne hsize)

theorem decodeError_of_short (h : body.length < 3) :
    Rejected (decodeError (RawData.setInt PacketType.error.opcode ++ body)) := by
  have hsize : (RawData.setInt PacketType.error.opcode ++ body).length < headerSize + 2 + 1 := by
    rw [List.length_append, RawData.length_setInt, headerSize]
    omega
  simp only [decodeError, decodeHeader_setInt, bind, Except.bind, if_pos hsize]
  exact ⟨_, rfl⟩

theorem decodeError_of_unterminated {errorCode : UInt16} {text : RawData} {last : UInt8}
    (h : last ≠ 0) :
    Rejected (decodeError (RawData.setInt PacketType.error.opcode ++
      (RawData.setInt errorCode ++ (text ++ [last])))) := by
  have hsize : ¬ (RawData.setInt PacketType.error.opcode ++
      (RawData.setInt errorCode ++ (text ++ [last]))).length < headerSize + 2 + 1 := by
    simp only [List.length_append, RawData.length_setInt, headerSize, List.length_singleton]
    omega
  simp only [decodeError, decodeHeader_setInt, bind, Except.bind, if_neg hsize,
    RawData.getInt_setInt, RawData.back_concat, if_pos h]
  exact ⟨_, rfl⟩

/-- A datagram that is not refused is one of an ERROR packet. -/
theorem decodeError_cases (rawPacket : RawData) :
    (∃ errorCode errorMessage, rawPacket = (Packet.error errorCode errorMessage).encode) ∨
      Rejected (decodeError rawPacket) := by
  rcases decodeHeader_rejected_or .error rawPacket with ⟨hr, -⟩ | ⟨body, rfl⟩
  · exact Or.inr (Rejected.bind hr _)
  · by_cases hsize : body.length < 3
    · exact Or.inr (decodeError_of_short hsize)
    · obtain ⟨errorCode, rest, rfl⟩ := RawData.exists_setInt (show 2 ≤ body.length by omega)
      have hrest : rest ≠ [] := by
        rintro rfl
        exact hsize (by simp)
      obtain ⟨text, last, rfl⟩ := List.eq_nil_or_concat' rest |>.resolve_left hrest
      by_cases hlast : last = 0
      · subst hlast
        exact Or.inl ⟨⟨errorCode⟩, text, rfl⟩
      · exact Or.inr (decodeError_of_unterminated hlast)

/-! ### Exact formats -/

theorem opcode_data : RawData.setInt PacketType.data.opcode = [0, 3] := rfl

theorem opcode_acknowledgement : RawData.setInt PacketType.acknowledgement.opcode = [0, 4] := rfl

theorem opcode_error : RawData.setInt PacketType.error.opcode = [0, 5] := rfl

/-- The packets of a type and the datagrams with a property determine each other, and
every other datagram is refused. -/
structure Bijection (packetType : PacketType) (accepts : RawData → Prop) : Prop where
  /-- The encoder produces a datagram with the property. -/
  encodes : ∀ p : Packet, p.type = packetType →
    (∃ buffer, p.encodeInto = .ok buffer ∧ buffer.raw = p.encode) ∧ accepts p.encode
  /-- An encoded packet is decoded again. -/
  decode_encode : ∀ p : Packet, p.type = packetType → decodeAs packetType p.encode = .ok p
  /-- What is accepted are the datagrams with the property. -/
  accepted_iff : ∀ rawPacket, (∃ p, decodeAs packetType rawPacket = .ok p) ↔ accepts rawPacket
  /-- A decoded datagram is encoded again. -/
  encode_decode : ∀ rawPacket p, decodeAs packetType rawPacket = .ok p → p.encode = rawPacket
  /-- Every other datagram raises `InvalidPacketException`, and nothing else. -/
  rejected : ∀ rawPacket, ¬ accepts rawPacket → Rejected (decodeAs packetType rawPacket)

/-- A format is exact if its datagrams are those of the packets and everything else is
refused. -/
theorem Bijection.of_cases {accepts : RawData → Prop}
    (hdecode : ∀ p : Packet, p.type = packetType → decodeAs packetType p.encode = .ok p)
    (hcases : ∀ rawPacket, (∃ p : Packet, p.type = packetType ∧ rawPacket = p.encode) ∨
      Rejected (decodeAs packetType rawPacket))
    (haccepts : ∀ rawPacket, accepts rawPacket ↔
      ∃ p : Packet, p.type = packetType ∧ rawPacket = p.encode) :
    Bijection packetType accepts := by
  have hof : ∀ rawPacket p, decodeAs packetType rawPacket = .ok p →
      p.type = packetType ∧ rawPacket = p.encode := by
    intro rawPacket p h
    rcases hcases rawPacket with ⟨q, hq, rfl⟩ | ⟨_, hr⟩
    · rw [hdecode q hq] at h
      obtain rfl := Except.ok.inj h
      exact ⟨hq, rfl⟩
    · rw [hr] at h
      cases h
  constructor
  · intro p hp
    obtain ⟨buffer, hb, hraw, -⟩ := encodeInto_eq p
    exact ⟨⟨buffer, hb, hraw⟩, (haccepts _).mpr ⟨p, hp, rfl⟩⟩
  · exact hdecode
  · intro rawPacket
    rw [haccepts]
    constructor
    · rintro ⟨p, h⟩
      exact ⟨p, hof rawPacket p h⟩
    · rintro ⟨p, hp, rfl⟩
      exact ⟨p, hdecode p hp⟩
  · exact fun rawPacket p h => (hof rawPacket p h).2.symm
  · intro rawPacket h
    exact (hcases rawPacket).resolve_left fun hp => h ((haccepts rawPacket).mpr hp)

theorem bijection_data :
    Bijection .data fun rawPacket => [0, 3] <+: rawPacket ∧ 4 ≤ rawPacket.length := by
  have hof : ∀ p : Packet, p.type = .data → ∃ blockNumber bytes, p = .data blockNumber bytes := by
    rintro (_ | _ | ⟨blockNumber, bytes⟩ | _ | _ | _) h <;>
      first | cases h; done | exact ⟨_, _, rfl⟩
  refine Bijection.of_cases ?_ ?_ ?_
  · intro p hp
    obtain ⟨blockNumber, bytes, rfl⟩ := hof p hp
    exact decodeAs_data blockNumber bytes
  · intro rawPacket
    exact (decodeData_cases rawPacket).imp_left fun ⟨blockNumber, bytes, h⟩ => ⟨_, rfl, h⟩
  · intro rawPacket
    constructor
    · rintro ⟨⟨body, rfl⟩, hsize⟩
      have hbody : 2 ≤ body.length := by simpa using hsize
      obtain ⟨blockNumber, bytes, rfl⟩ := RawData.exists_setInt hbody
      exact ⟨.data blockNumber bytes, rfl, by rw [encode_data, opcode_data]⟩
    · rintro ⟨p, hp, rfl⟩
      obtain ⟨blockNumber, bytes, rfl⟩ := hof p hp
      refine ⟨⟨_, by rw [encode_data, opcode_data]⟩, ?_⟩
      simp [encode_data]
      omega

theorem bijection_acknowledgement :
    Bijection .acknowledgement fun rawPacket => [0, 4] <+: rawPacket ∧ rawPacket.length = 4 := by
  have hof : ∀ p : Packet, p.type = .acknowledgement →
      ∃ blockNumber, p = .acknowledgement blockNumber := by
    rintro (_ | _ | _ | blockNumber | _ | _) h <;> first | cases h; done | exact ⟨_, rfl⟩
  refine Bijection.of_cases ?_ ?_ ?_
  · intro p hp
    obtain ⟨blockNumber, rfl⟩ := hof p hp
    exact decodeAs_acknowledgement blockNumber
  · intro rawPacket
    exact (decodeAcknowledgement_cases rawPacket).imp_left fun ⟨blockNumber, h⟩ => ⟨_, rfl, h⟩
  · intro rawPacket
    constructor
    · rintro ⟨⟨body, rfl⟩, hsize⟩
      have hbody : body.length = 2 := by simpa using hsize
      obtain ⟨blockNumber, rest, rfl⟩ := RawData.exists_setInt hbody.ge
      have hrest : rest = [] := by
        rw [List.length_append, RawData.length_setInt] at hbody
        exact List.length_eq_zero_iff.mp (by omega)
      subst hrest
      exact ⟨.acknowledgement blockNumber, rfl, by
        rw [encode_acknowledgement, opcode_acknowledgement, List.append_nil]⟩
    · rintro ⟨p, hp, rfl⟩
      obtain ⟨blockNumber, rfl⟩ := hof p hp
      exact ⟨⟨_, by rw [encode_acknowledgement, opcode_acknowledgement]⟩, by
        simp [encode_acknowledgement]⟩

theorem bijection_error :
    Bijection .error fun rawPacket =>
      [0, 5] <+: rawPacket ∧ 5 ≤ rawPacket.length ∧ rawPacket.getLast? = some 0 := by
  have hof : ∀ p : Packet, p.type = .error →
      ∃ errorCode errorMessage, p = .error errorCode errorMessage := by
    rintro (_ | _ | _ | _ | ⟨errorCode, errorMessage⟩ | _) h <;>
      first | cases h; done | exact ⟨_, _, rfl⟩
  refine Bijection.of_cases ?_ ?_ ?_
  · intro p hp
    obtain ⟨errorCode, errorMessage, rfl⟩ := hof p hp
    exact decodeAs_error errorCode errorMessage
  · intro rawPacket
    exact (decodeError_cases rawPacket).imp_left fun ⟨errorCode, errorMessage, h⟩ => ⟨_, rfl, h⟩
  · intro rawPacket
    constructor
    · rintro ⟨⟨body, rfl⟩, hsize, hlast⟩
      have hbody : 3 ≤ body.length := by simpa using hsize
      obtain ⟨errorCode, rest, rfl⟩ := RawData.exists_setInt (show 2 ≤ body.length by omega)
      have hrest : rest ≠ [] := by
        rintro rfl
        simp at hbody
      obtain ⟨text, last, rfl⟩ := List.eq_nil_or_concat' rest |>.resolve_left hrest
      rw [← List.append_assoc, ← List.append_assoc, List.getLast?_concat] at hlast
      obtain rfl := Option.some.inj hlast
      exact ⟨.error ⟨errorCode⟩ text, rfl, by rw [encode_error, opcode_error]⟩
    · rintro ⟨p, hp, rfl⟩
      obtain ⟨errorCode, errorMessage, rfl⟩ := hof p hp
      refine ⟨⟨_, by rw [encode_error, opcode_error]⟩, ?_, ?_⟩
      · simp [encode_error]
        omega
      · rw [encode_error, ← List.append_assoc, ← List.append_assoc, List.getLast?_concat]

end Packet

/-- **DATA, ACK and ERROR are exact bijections with their byte format.** -/
theorem plain_packets_bijective :
    (Packet.Bijection .data fun rawPacket => [0, 3] <+: rawPacket ∧ 4 ≤ rawPacket.length) ∧
    (Packet.Bijection .acknowledgement fun rawPacket =>
      [0, 4] <+: rawPacket ∧ rawPacket.length = 4) ∧
    (Packet.Bijection .error fun rawPacket =>
      [0, 5] <+: rawPacket ∧ 5 ≤ rawPacket.length ∧ rawPacket.getLast? = some 0) :=
  ⟨Packet.bijection_data, Packet.bijection_acknowledgement, Packet.bijection_error⟩

end Tftp
