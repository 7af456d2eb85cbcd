import Tftp.Packets.Packet

/-!
# Packets are decoded again

The round trip of every packet class, and from it the one of the dispatcher,
`Tftp.PacketHandler.packet_encode`: a packet that can be put on the wire at all
(`Tftp.Packet.Encodable`) reaches the handler of its type unchanged.
-/

namespace Tftp

namespace Packet

/-- What the wire format can carry: strings without `NUL`, and at least one option
in an acknowledgement of options. -/
def Encodable : Packet → Prop
  | .readRequest filename _ options => 0 ∉ filename ∧ options.NulFree
  | .writeRequest filename _ options => 0 ∉ filename ∧ options.NulFree
  | .data _ _ => True
  | .acknowledgement _ => True
  | .error _ _ => True
  | .optionsAcknowledgement options => options.isEmpty = false ∧ options.NulFree

@[simp] theorem packetType_setInt (packetType : PacketType) (body : RawData) :
    Packet.packetType (RawData.setInt packetType.opcode ++ body) = packetType := by
  rw [Packet.packetType, RawData.getInt_setInt]
  cases packetType <;> rfl

theorem encode_readRequest (filename : RawData) (mode : TransferMode) (m : Options) :
    (Packet.readRequest filename mode m).encode =
      RawData.setInt PacketType.readRequest.opcode ++ encode.encodeRequest filename mode m := rfl

theorem encode_writeRequest (filename : RawData) (mode : TransferMode) (m : Options) :
    (Packet.writeRequest filename mode m).encode =
      RawData.setInt PacketType.writeRequest.opcode ++ encode.encodeRequest filename mode m := rfl

theorem encode_data (blockNumber : BlockNumber) (bytes : RawData) :
    (Packet.data blockNumber bytes).encode =
      RawData.setInt PacketType.data.opcode ++ (RawData.setInt blockNumber ++ bytes) := rfl

theorem encode_acknowledgement (blockNumber : BlockNumber) :
    (Packet.acknowledgement blockNumber).encode =
      RawData.setInt PacketType.acknowledgement.opcode ++ RawData.setInt blockNumber := rfl

theorem encode_error (errorCode : ErrorCode) (errorMessage : RawData) :
    (Packet.error errorCode errorMessage).encode =
      RawData.setInt PacketType.error.opcode ++
        (RawData.setInt errorCode.value ++ (errorMessage ++ [0])) := rfl

theorem encode_optionsAcknowledgement (m : Options) :
    (Packet.optionsAcknowledgement m).encode =
      RawData.setInt PacketType.optionsAcknowledgement.opcode ++ m.rawOptions := rfl

/-- The type of an encoded packet. -/
@[simp] theorem packetType_encode (p : Packet) : Packet.packetType p.encode = p.type := by
  cases p <;> exact packetType_setInt _ _

@[simp] theorem decodeHeader_setInt (packetType : PacketType) (body : RawData) :
    decodeHeader packetType (RawData.setInt packetType.opcode ++ body) = .ok body := by
  have hlen : ¬ (RawData.setInt packetType.opcode ++ body).length < headerSize := by
    rw [List.length_append, RawData.length_setInt, headerSize]
    omega
  rw [decodeHeader, if_neg hlen, RawData.getInt_setInt]
  simp only [bind, Except.bind, ne_eq, not_true_eq_false, if_false, pure, Except.pure]

theorem decodeMode_text (mode : TransferMode) : decodeMode mode.text = mode := by
  cases mode <;> decide

theorem zero_notMem_text (mode : TransferMode) : 0 ∉ mode.text := by
  cases mode <;> decide

theorem rawOptions_getLast (m : Options) (h : m.rawOptions ≠ []) :
    ∃ text, m.rawOptions = text ++ [0] := by
  rw [Options.rawOptions] at *
  rcases List.eq_nil_or_concat m.entries with he | ⟨front, x, he⟩
  · simp [he] at h
  · exact ⟨front.flatMap (fun x => x.1 ++ [0] ++ x.2 ++ [0]) ++ (x.1 ++ [0] ++ x.2), by simp [he]⟩

/-- The body of a request ends with `NUL`. -/
theorem encodeRequest_getLast (filename : RawData) (mode : TransferMode) (m : Options) :
    ∃ text, encode.encodeRequest filename mode m = text ++ [0] := by
  rw [encode.encodeRequest]
  by_cases h : m.rawOptions = []
  · exact ⟨filename ++ 0 :: mode.text, by simp [h]⟩
  · obtain ⟨text, ht⟩ := rawOptions_getLast m h
    exact ⟨filename ++ 0 :: (mode.text ++ 0 :: text), by simp [ht]⟩

/-- **An encoded request is decoded again.** -/
theorem decodeRequest_encode (packetType : PacketType) {filename : RawData} {mode : TransferMode}
    {m : Options} (hf : 0 ∉ filename) (ho : m.NulFree) :
    decodeRequest packetType
      (RawData.setInt packetType.opcode ++ encode.encodeRequest filename mode m) =
        .ok (filename, mode, m) := by
  obtain ⟨text, ht⟩ := encodeRequest_getLast filename mode m
  have hlen : ¬ (RawData.setInt packetType.opcode ++ encode.encodeRequest filename mode m).length ≤
      headerSize := by
    simp [headerSize, ht]
  have hback : (encode.encodeRequest filename mode m).back = .ok 0 := by
    rw [ht, RawData.back_concat]
  have hname : (encode.encodeRequest filename mode m).idxOf? 0 = some filename.length :=
    Options.idxOf?_zero hf
  have hdrop : (encode.encodeRequest filename mode m).drop (filename.length + 1) =
      mode.text ++ 0 :: m.rawOptions := by
    simp [encode.encodeRequest]
  have htake : (encode.encodeRequest filename mode m).take filename.length = filename := by
    simp [encode.encodeRequest]
  have hmode : (mode.text ++ 0 :: m.rawOptions).idxOf? 0 = some mode.text.length :=
    Options.idxOf?_zero (zero_notMem_text mode)
  have hdrop' : (mode.text ++ 0 :: m.rawOptions).drop (mode.text.length + 1) = m.rawOptions := by
    simp
  have htake' : (mode.text ++ 0 :: m.rawOptions).take mode.text.length = mode.text := by simp
  simp only [decodeRequest, decodeHeader_setInt, bind, Except.bind, if_neg hlen, hback, ne_eq,
    not_true_eq_false, if_false, RawData.getString_length, hname, hdrop, hmode, hdrop',
    Options.options_rawOptions ho, htake, htake', decodeMode_text mode, pure, Except.pure]

theorem decodeAs_readRequest {filename : RawData} {mode : TransferMode} {m : Options}
    (h : (Packet.readRequest filename mode m).Encodable) :
    decodeAs .readRequest (Packet.readRequest filename mode m).encode =
      .ok (.readRequest filename mode m) := by
  rw [encode_readRequest]
  simp only [decodeAs, decodeRequest_encode .readRequest h.1 h.2, bind, Except.bind, pure,
    Except.pure]

theorem decodeAs_writeRequest {filename : RawData} {mode : TransferMode} {m : Options}
    (h : (Packet.writeRequest filename mode m).Encodable) :
    decodeAs .writeRequest (Packet.writeRequest filename mode m).encode =
      .ok (.writeRequest filename mode m) := by
  rw [encode_writeRequest]
  simp only [decodeAs, decodeRequest_encode .writeRequest h.1 h.2, bind, Except.bind, pure,
    Except.pure]

theorem decodeAs_data (blockNumber : BlockNumber) (bytes : RawData) :
    decodeAs .data (Packet.data blockNumber bytes).encode = .ok (.data blockNumber bytes) := by
  have hlen : ¬ (Packet.data blockNumber bytes).encode.length < headerSize + 2 := by
    simp [encode_data, headerSize]
    omega
  rw [encode_data] at *
  simp only [decodeAs, decodeData, decodeHeader_setInt, bind, Except.bind, if_neg hlen,
    RawData.getInt_setInt, pure, Except.pure]

theorem decodeAs_acknowledgement (blockNumber : BlockNumber) :
    decodeAs .acknowledgement (Packet.acknowledgement blockNumber).encode =
      .ok (.acknowledgement blockNumber) := by
  have hlen : ¬ (Packet.acknowledgement blockNumber).encode.length ≠ headerSize + 2 := by
    simp [encode_acknowledgement, headerSize]
  have hb := RawData.getInt_setInt blockNumber []
  rw [List.append_nil] at hb
  rw [encode_acknowledgement] at *
  simp only [decodeAs, decodeAcknowledgement, decodeHeader_setInt, bind, Except.bind, if_neg hlen,
    hb, pure, Except.pure]

theorem decodeAs_error (errorCode : ErrorCode) (errorMessage : RawData) :
    decodeAs .error (Packet.error errorCode errorMessage).encode =
      .ok (.error errorCode errorMessage) := by
  have hlen : ¬ (Packet.error errorCode errorMessage).encode.length < headerSize + 2 + 1 := by
    simp [encode_error, headerSize]
    omega
  have hs : (errorMessage ++ [0]).getString ((errorMessage ++ [0]).length - 1) =
      .ok ([0], errorMessage) := by
    simp [RawData.getString]
  rw [encode_error] at *
  simp only [decodeAs, decodeError, decodeHeader_setInt, bind, Except.bind, if_neg hlen,
    RawData.getInt_setInt, RawData.back_concat, ne_eq, not_true_eq_false, if_false, hs, pure,
    Except.pure]

theorem rawOptions_ne_nil {m : Options} (h : m.isEmpty = false) : m.rawOptions ≠ [] := by
  have he : m.entries ≠ [] := by simpa [Protocol.SortedMap.isEmpty] using h
  obtain ⟨x, rest, hx⟩ := List.exists_cons_of_ne_nil he
  simp [Options.rawOptions, hx]

theorem decodeAs_optionsAcknowledgement {m : Options}
    (h : (Packet.optionsAcknowledgement m).Encodable) :
    decodeAs .optionsAcknowledgement (Packet.optionsAcknowledgement m).encode =
      .ok (.optionsAcknowledgement m) := by
  have hpos := List.length_pos_of_ne_nil (rawOptions_ne_nil h.1)
  have hlen : ¬ (Packet.optionsAcknowledgement m).encode.length ≤ headerSize := by
    rw [encode_optionsAcknowledgement, List.length_append, RawData.length_setInt, headerSize]
    omega
  rw [encode_optionsAcknowledgement] at *
  simp only [decodeAs, decodeOptionsAcknowledgement, decodeHeader_setInt, bind, Except.bind,
    if_neg hlen, RawData.getString_length, Options.options_rawOptions h.2, pure, Except.pure]

/-- A decoder makes packets of its own type only. -/
theorem type_of_decodeAs {packetType : PacketType} {rawPacket : RawData} {p : Packet}
    (h : decodeAs packetType rawPacket = .ok p) : p.type = packetType := by
  cases packetType with
  | invalid => cases h
  | readRequest | writeRequest | data | acknowledgement | error | optionsAcknowledgement =>
    simp only [decodeAs, decodeData, decodeAcknowledgement, decodeError,
      decodeOptionsAcknowledgement, bind, Except.bind, pure, Except.pure] at h
    -- every way through the decoder fails, or ends in the constructor of the class
    repeat' split at h
    all_goals first | cases h; done | cases h; rfl

/-- **An encodable packet is decoded again** by the decoder of its class. -/
theorem decodeAs_encode {p : Packet} (h : p.Encodable) : decodeAs p.type p.encode = .ok p := by
  cases p with
  | readRequest filename mode options => exact decodeAs_readRequest h
  | writeRequest filename mode options => exact decodeAs_writeRequest h
  | data blockNumber bytes => exact decodeAs_data blockNumber bytes
  | acknowledgement blockNumber => exact decodeAs_acknowledgement blockNumber
  | error errorCode errorMessage => exact decodeAs_error errorCode errorMessage
  | optionsAcknowledgement options => exact decodeAs_optionsAcknowledgement h

end Packet

/-- **Every encodable packet reaches the handler of its type unchanged.** -/
theorem PacketHandler.packet_encode {p : Packet} (h : p.Encodable) :
    PacketHandler.packet p.encode = .packet p := by
  rw [PacketHandler.packet, Packet.packetType_encode, Packet.decodeAs_encode h]

end Tftp
