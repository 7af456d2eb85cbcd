import Tftp.Packets.Packet

/-!
# Writing a packet into its buffer

`Tftp.Packet.encode` says which bytes a packet is. The packet classes produce them
in another way: they compute the size of the packet first, allocate a buffer of
zeros of that size and then write field after field behind each other
(`Tftp.Packet.encodeInto`). Nothing checks that the size was right: a write beyond the
end of the buffer is undefined in the source, and a buffer that is not filled would end
in stray zeros.

`Tftp.Packet.encodeInto_eq` shows that the sizes are right. Every class writes exactly the
bytes of `Tftp.Packet.encode`, no write leaves the buffer, and none of the encoders'
assertions fails.
-/

namespace Tftp

/-- Why encoding stopped. Neither happens, and neither is an exception of the
source. -/
inductive EncodeError where
  /-- A write beyond the end of the buffer. -/
  | outOfBounds
  /-- An `assert` of the encoder. -/
  | assertionFailed
  deriving DecidableEq, Repr

/-- A buffer that is written from the front. -/
structure Buffer where
  /-- The bytes up to the position of writing. -/
  written : RawData
  /-- The span behind it. -/
  rawSpan : RawData
  deriving DecidableEq

namespace Buffer

/-- A buffer with some bytes written and the given number of zeros left. -/
def filled (written : RawData) (left : ℕ) : Buffer := ⟨written, List.replicate left 0⟩

/-- `Helper::RawData rawPacket( size )`. -/
def alloc (size : ℕ) : Buffer := filled [] size

/-- The contents of the buffer. -/
def raw (buffer : Buffer) : RawData := buffer.written ++ buffer.rawSpan

/-- Writes bytes at the front of the span (`std::ranges::copy`,
`Helper::RawData_setInt`, `Helper::RawData_setString`). -/
def copy (buffer : Buffer) (bytes : RawData) : Except EncodeError Buffer :=
  if bytes.length ≤ buffer.rawSpan.length then
    .ok ⟨buffer.written ++ bytes, buffer.rawSpan.drop bytes.length⟩
  else .error .outOfBounds

/-- `rawSpan.back() = byte`. -/
def setBack (buffer : Buffer) (byte : UInt8) : Except EncodeError Buffer :=
  if buffer.rawSpan.isEmpty then .error .outOfBounds
  else .ok ⟨buffer.written, buffer.rawSpan.dropLast ++ [byte]⟩

/-- `rawPacket.insert( rawPacket.end(), … )`: the buffer grows. -/
def insertEnd (buffer : Buffer) (bytes : RawData) : Buffer := ⟨buffer.raw ++ bytes, []⟩

/-- `Packet::insertHeader`. -/
def insertHeader (buffer : Buffer) (packetType : PacketType) : Except EncodeError Buffer :=
  if buffer.rawSpan.length < Packet.headerSize then .error .assertionFailed
  else buffer.copy (RawData.setInt packetType.opcode)

@[simp] theorem length_rawSpan_filled (written : RawData) (left : ℕ) :
    (filled written left).rawSpan.length = left :=
  List.length_replicate

@[simp] theorem raw_filled_zero (written : RawData) : (filled written 0).raw = written :=
  List.append_nil _

/-- A write takes its length from what is left. -/
theorem copy_filled {written bytes : RawData} {left : ℕ} (h : bytes.length ≤ left) :
    (filled written left).copy bytes = .ok (filled (written ++ bytes) (left - bytes.length)) := by
  rw [copy, if_pos (by simpa using h), filled, filled, List.drop_replicate]

theorem insertHeader_alloc {packetType : PacketType} {size : ℕ} (h : Packet.headerSize ≤ size) :
    (alloc size).insertHeader packetType =
      .ok (filled (RawData.setInt packetType.opcode) (size - Packet.headerSize)) := by
  rw [insertHeader, alloc, length_rawSpan_filled, if_neg (by omega), copy_filled h,
    List.nil_append, RawData.length_setInt, Packet.headerSize]

end Buffer

namespace Packet

open Buffer

/-- `ReadWriteRequestPacket::encode`. -/
def encodeRequestInto (packetType : PacketType) (filename : RawData) (mode : TransferMode)
    (options : Options) : Except EncodeError Buffer := do
  let rawOptions := options.rawOptions
  let rawPacket := alloc
    (headerSize + filename.length + 1 + mode.text.length + 1 + rawOptions.length)
  let rawSpan ← rawPacket.insertHeader packetType
  let filenameEnd ← rawSpan.copy filename
  let filenameEnd ← filenameEnd.copy [0]
  let modeEnd ← filenameEnd.copy mode.text
  let modeEnd ← modeEnd.copy [0]
  modeEnd.copy rawOptions

/-- `DataPacket::encode`. -/
def encodeDataInto (blockNumber : BlockNumber) (bytes : RawData) : Except EncodeError Buffer := do
  let rawPacket := alloc (headerSize + 2 + bytes.length)
  let rawSpan ← rawPacket.insertHeader .data
  let rawSpan ← rawSpan.copy (RawData.setInt blockNumber)
  if rawSpan.rawSpan.length ≠ bytes.length then .error .assertionFailed
  else rawSpan.copy bytes

/-- `AcknowledgementPacket::encode`. -/
def encodeAcknowledgementInto (blockNumber : BlockNumber) : Except EncodeError Buffer := do
  let rawPacket := alloc (headerSize + 2)
  let rawSpan ← rawPacket.insertHeader .acknowledgement
  let rawSpan ← rawSpan.copy (RawData.setInt blockNumber)
  if rawSpan.rawSpan.isEmpty then pure rawSpan else .error .assertionFailed

/-- `ErrorPacket::encode`. The terminator is written through the last byte of the
span, not at the position of writing. -/
def encodeErrorInto (errorCode : ErrorCode) (errorMessage : RawData) :
    Except EncodeError Buffer := do
  let rawPacket := alloc (headerSize + 2 + 1 + errorMessage.length)
  let rawSpan ← rawPacket.insertHeader .error
  let rawSpan ← rawSpan.copy (RawData.setInt errorCode.value)
  let rawSpan ← rawSpan.copy errorMessage
  rawSpan.setBack 0

/-- `OptionsAcknowledgementPacket::encode`. The buffer is allocated for the header
only; the options are appended. -/
def encodeOptionsAcknowledgementInto (options : Options) : Except EncodeError Buffer := do
  let rawPacket := alloc headerSize
  let rawPacket ← rawPacket.insertHeader .optionsAcknowledgement
  pure (rawPacket.insertEnd options.rawOptions)

/-- `encode` of the class a packet belongs to. -/
def encodeInto : Packet → Except EncodeError Buffer
  | .readRequest filename mode options => encodeRequestInto .readRequest filename mode options
  | .writeRequest filename mode options => encodeRequestInto .writeRequest filename mode options
  | .data blockNumber bytes => encodeDataInto blockNumber bytes
  | .acknowledgement blockNumber => encodeAcknowledgementInto blockNumber
  | .error errorCode errorMessage => encodeErrorInto errorCode errorMessage
  | .optionsAcknowledgement options => encodeOptionsAcknowledgementInto options

theorem encodeRequestInto_eq (packetType : PacketType) (filename : RawData) (mode : TransferMode)
    (options : Options) :
    encodeRequestInto packetType filename mode options =
      .ok (filled (RawData.setInt packetType.opcode ++
        encode.encodeRequest filename mode options) 0) := by
  simp only [encodeRequestInto, bind, Except.bind]
  rw [insertHeader_alloc (by omega)]
  dsimp only
  -- what is left after each of the five writes is what the ones behind it need
  rw [copy_filled (by omega)]
  dsimp only
  rw [copy_filled (by rw [List.length_singleton]; omega)]
  dsimp only
  rw [copy_filled (by rw [List.length_singleton]; omega)]
  dsimp only
  rw [copy_filled (by rw [List.length_singleton]; omega)]
  dsimp only
  rw [copy_filled (by simp only [List.length_singleton]; omega)]
  congr 2
  · simp [encode.encodeRequest]
  · simp only [List.length_singleton]
    omega

theorem encodeDataInto_eq (blockNumber : BlockNumber) (bytes : RawData) :
    encodeDataInto blockNumber bytes = .ok (filled (Packet.data blockNumber bytes).encode 0) := by
  simp only [encodeDataInto, bind, Except.bind]
  rw [insertHeader_alloc (by omega)]
  dsimp only
  rw [copy_filled (by rw [RawData.length_setInt]; omega)]
  have hleft : headerSize + 2 + bytes.length - headerSize - (RawData.setInt blockNumber).length =
      bytes.length := by
    rw [RawData.length_setInt]
    omega
  simp only [hleft, length_rawSpan_filled, ne_eq, not_true_eq_false, if_false]
  rw [copy_filled le_rfl, Nat.sub_self, List.append_assoc]
  rfl

theorem encodeAcknowledgementInto_eq (blockNumber : BlockNumber) :
    encodeAcknowledgementInto blockNumber =
      .ok (filled (Packet.acknowledgement blockNumber).encode 0) := by
  simp only [encodeAcknowledgementInto, bind, Except.bind]
  rw [insertHeader_alloc (by omega)]
  dsimp only
  rw [copy_filled (by rw [RawData.length_setInt]; omega)]
  rfl

/-- Behind an error message one byte is left, for its terminator. -/
theorem encodeErrorInto_eq (errorCode : ErrorCode) (errorMessage : RawData) :
    encodeErrorInto errorCode errorMessage =
      .ok ⟨RawData.setInt PacketType.error.opcode ++ RawData.setInt errorCode.value ++ errorMessage,
        [0]⟩ := by
  simp only [encodeErrorInto, bind, Except.bind]
  rw [insertHeader_alloc (by omega)]
  dsimp only
  rw [copy_filled (by rw [RawData.length_setInt]; omega)]
  dsimp only
  rw [copy_filled (by rw [RawData.length_setInt]; omega)]
  have hleft : headerSize + 2 + 1 + errorMessage.length - headerSize -
      (RawData.setInt errorCode.value).length - errorMessage.length = 1 := by
    rw [RawData.length_setInt]
    omega
  rw [hleft]
  rfl

theorem encodeOptionsAcknowledgementInto_eq (options : Options) :
    encodeOptionsAcknowledgementInto options =
      .ok (filled (Packet.optionsAcknowledgement options).encode 0) := by
  simp only [encodeOptionsAcknowledgementInto, bind, Except.bind]
  rw [insertHeader_alloc le_rfl, Nat.sub_self]
  simp only [pure, Except.pure, insertEnd, raw_filled_zero]
  rfl

/-- **The encoders fill their buffers with the bytes of the packet.** Only the
encoder of ERROR ends with a byte that it did not write at the position of writing. -/
theorem encodeInto_eq (p : Packet) : ∃ buffer, p.encodeInto = .ok buffer ∧ buffer.raw = p.encode ∧
    (p.type ≠ .error → buffer.rawSpan = []) := by
  cases p with
  | readRequest filename mode options =>
    exact ⟨_, encodeRequestInto_eq _ _ _ _, raw_filled_zero _, fun _ => rfl⟩
  | writeRequest filename mode options =>
    exact ⟨_, encodeRequestInto_eq _ _ _ _, raw_filled_zero _, fun _ => rfl⟩
  | data blockNumber bytes => exact ⟨_, encodeDataInto_eq _ _, raw_filled_zero _, fun _ => rfl⟩
  | acknowledgement blockNumber =>
    exact ⟨_, encodeAcknowledgementInto_eq _, raw_filled_zero _, fun _ => rfl⟩
  | error errorCode errorMessage =>
    refine ⟨_, encodeErrorInto_eq _ _, ?_, fun h => absurd rfl h⟩
    simp [raw, encode, type]
  | optionsAcknowledgement options =>
    exact ⟨_, encodeOptionsAcknowledgementInto_eq _, raw_filled_zero _, fun _ => rfl⟩

end Packet

end Tftp
