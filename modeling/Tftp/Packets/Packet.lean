import Tftp.Packets.BlockNumber
import Tftp.Packets.Options

/-!
# Packets

The six packets of the protocol, their wire format, and the dispatcher every
received datagram goes through.

Each packet class decodes with its own checks; `Tftp.PacketHandler.packet` looks at
the opcode, tries the decoder of that class, and hands the result to the handler of
the operation. What the handler sees is a `Tftp.Received`: a packet, or the datagram
itself if it is not one. `Tftp.PacketHandler.packet_encode` is the round trip that
everything about two communicating operations rests on.
-/

namespace Tftp

/-- TFTP packet types, as far as they are valid opcodes. -/
inductive PacketType where
  | readRequest
  | writeRequest
  | data
  | acknowledgement
  | error
  | optionsAcknowledgement
  /-- Any other opcode, or none. -/
  | invalid
  deriving DecidableEq, Repr

/-- The number of a packet type. -/
def PacketType.opcode : PacketType → UInt16
  | .readRequest => 1
  | .writeRequest => 2
  | .data => 3
  | .acknowledgement => 4
  | .error => 5
  | .optionsAcknowledgement => 6
  | .invalid => 0xFF

/-- Maximum size of the data field without the block size option. -/
def defaultDataSize : UInt16 := 512
/-- Size of the header of a DATA packet. -/
def defaultTftpDataPacketHeaderSize : UInt16 := 4
/-- Maximum size of a packet without the block size option. -/
def defaultMaxPacketSize : UInt16 := defaultDataSize + defaultTftpDataPacketHeaderSize

/-- TFTP transfer modes. -/
inductive TransferMode where
  | octet
  | netascii
  | mail
  | invalid
  deriving DecidableEq, Repr

/-- TFTP error codes; any 16-bit value can be received. -/
structure ErrorCode where
  /-- The value on the wire. -/
  value : UInt16
  deriving DecidableEq, Repr

namespace ErrorCode

/-- Not defined, see the error message (if any). -/
def notDefined : ErrorCode := ⟨0⟩
/-- File not found. -/
def fileNotFound : ErrorCode := ⟨1⟩
/-- Access violation. -/
def accessViolation : ErrorCode := ⟨2⟩
/-- Disk full or allocation exceeded. -/
def diskFullOrAllocationExceeds : ErrorCode := ⟨3⟩
/-- Illegal TFTP operation. -/
def illegalTftpOperation : ErrorCode := ⟨4⟩
/-- Unknown transfer ID. -/
def unknownTransferId : ErrorCode := ⟨5⟩
/-- TFTP options refused during option negotiation. -/
def tftpOptionRefused : ErrorCode := ⟨8⟩

end ErrorCode

/-- The packets of the protocol. -/
inductive Packet where
  /-- RRQ. -/
  | readRequest (filename : RawData) (mode : TransferMode) (options : Options)
  /-- WRQ. -/
  | writeRequest (filename : RawData) (mode : TransferMode) (options : Options)
  /-- DATA. -/
  | data (blockNumber : BlockNumber) (bytes : RawData)
  /-- ACK. -/
  | acknowledgement (blockNumber : BlockNumber)
  /-- ERROR. -/
  | error (errorCode : ErrorCode) (errorMessage : RawData)
  /-- OACK. -/
  | optionsAcknowledgement (options : Options)
  deriving DecidableEq

/-- `ReadWriteRequestPacket::decodeMode`: the text of a mode. -/
def TransferMode.text : TransferMode → RawData
  | .octet => ascii "OCTET"
  | .netascii => ascii "NETASCII"
  | .mail => ascii "MAIL"
  | .invalid => []

/-- `toupper` of the default locale. -/
def toUpper (byte : UInt8) : UInt8 := if 97 ≤ byte ∧ byte ≤ 122 then byte - 32 else byte

/-- `ReadWriteRequestPacket::decodeMode`: the mode of a text. -/
def decodeMode (mode : RawData) : TransferMode :=
  let upperMode := mode.map toUpper
  if upperMode = ascii "OCTET" then .octet
  else if upperMode = ascii "NETASCII" then .netascii
  else if upperMode = ascii "MAIL" then .mail
  else .invalid

namespace Packet

/-- Size of the header, the opcode. -/
def headerSize : ℕ := 2

/-- `Packet::packetType` of a datagram. -/
def packetType (rawPacket : RawData) : PacketType :=
  match RawData.getInt rawPacket with
  | .error _ => .invalid
  | .ok (_, opcode) =>
      if opcode = 1 then .readRequest
      else if opcode = 2 then .writeRequest
      else if opcode = 3 then .data
      else if opcode = 4 then .acknowledgement
      else if opcode = 5 then .error
      else if opcode = 6 then .optionsAcknowledgement
      else .invalid

/-- The packet type of a packet. -/
def type : Packet → PacketType
  | .readRequest .. => .readRequest
  | .writeRequest .. => .writeRequest
  | .data .. => .data
  | .acknowledgement .. => .acknowledgement
  | .error .. => .error
  | .optionsAcknowledgement .. => .optionsAcknowledgement

/-- `encode`: the datagram of a packet. -/
def encode (packet : Packet) : RawData :=
  RawData.setInt packet.type.opcode ++
    match packet with
    | .readRequest filename mode options => encodeRequest filename mode options
    | .writeRequest filename mode options => encodeRequest filename mode options
    | .data blockNumber bytes => RawData.setInt blockNumber ++ bytes
    | .acknowledgement blockNumber => RawData.setInt blockNumber
    | .error errorCode errorMessage => RawData.setInt errorCode.value ++ (errorMessage ++ [0])
    | .optionsAcknowledgement options => options.rawOptions
where
  /-- The body of a request. -/
  encodeRequest (filename : RawData) (mode : TransferMode) (options : Options) : RawData :=
    filename ++ 0 :: (mode.text ++ 0 :: options.rawOptions)

/-- `Packet::decodeHeader`: checks the opcode; returns the body. -/
def decodeHeader (packetType : PacketType) (rawPacket : RawData) : Except DecodeError RawData :=
  if rawPacket.length < headerSize then
    .error (.invalidPacket "Invalid packet size (HEADER SIZE)")
  else do
    let (body, opcode) ← RawData.getInt rawPacket
    if opcode ≠ packetType.opcode then .error (.invalidPacket "Invalid opcode")
    else pure body

/-- `ReadWriteRequestPacket::decodeBody`. -/
def decodeRequest (packetType : PacketType) (rawPacket : RawData) :
    Except DecodeError (RawData × TransferMode × Options) := do
  let rawSpan ← decodeHeader packetType rawPacket
  if rawPacket.length ≤ headerSize then
    .error (.invalidPacket "Invalid packet size of RRQ/WRQ packet")
  else
    let last ← rawSpan.back
    if last ≠ 0 then .error (.invalidPacket "RRQ/WRQ message not 0-terminated")
    else
      let (_, rawRequestString) ← rawSpan.getString rawSpan.length
      match rawRequestString.idxOf? 0 with
      | none => .error (.invalidPacket "No 0-termination for filename found")
      | some filenameEnd =>
          let filename := rawRequestString.take filenameEnd
          let rawRequestString := rawRequestString.drop (filenameEnd + 1)
          match rawRequestString.idxOf? 0 with
          | none => .error (.invalidPacket "No 0-termination for operation found")
          | some modeEnd =>
              let mode := decodeMode (rawRequestString.take modeEnd)
              let rawRequestString := rawRequestString.drop (modeEnd + 1)
              let options ← Options.options rawRequestString
              pure (filename, mode, options)

/-- `DataPacket`: decodes a DATA packet. -/
def decodeData (rawPacket : RawData) : Except DecodeError Packet := do
  let rawSpan ← decodeHeader .data rawPacket
  if rawPacket.length < headerSize + 2 then
    .error (.invalidPacket "Invalid packet size of DATA packet")
  else
    let (remaining, blockNumber) ← RawData.getInt rawSpan
    pure (.data blockNumber remaining)

/-- `AcknowledgementPacket`: decodes an ACK packet. -/
def decodeAcknowledgement (rawPacket : RawData) : Except DecodeError Packet := do
  let rawSpan ← decodeHeader .acknowledgement rawPacket
  if rawPacket.length ≠ headerSize + 2 then
    .error (.invalidPacket "Invalid packet size of ACK packet")
  else
    let (_, blockNumber) ← RawData.getInt rawSpan
    pure (.acknowledgement blockNumber)

/-- `ErrorPacket`: decodes an ERROR packet. -/
def decodeError (rawPacket : RawData) : Except DecodeError Packet := do
  let rawSpan ← decodeHeader .error rawPacket
  if rawPacket.length < headerSize + 2 + 1 then
    .error (.invalidPacket "Invalid packet size of ERROR packet")
  else
    let (rawSpan, errorCode) ← RawData.getInt rawSpan
    let last ← rawSpan.back
    if last ≠ 0 then .error (.invalidPacket "error message not 0-terminated")
    else
      let (_, errorMessage) ← rawSpan.getString (rawSpan.length - 1)
      pure (.error ⟨errorCode⟩ errorMessage)

/-- `OptionsAcknowledgementPacket`: decodes an OACK packet. -/
def decodeOptionsAcknowledgement (rawPacket : RawData) : Except DecodeError Packet := do
  let rawSpan ← decodeHeader .optionsAcknowledgement rawPacket
  if rawPacket.length ≤ headerSize then
    .error (.invalidPacket "Invalid packet size of OACK packet")
  else
    let (_, optionsString) ← rawSpan.getString rawSpan.length
    let options ← Options.options optionsString
    pure (.optionsAcknowledgement options)

end Packet

/-- What a datagram is to the handlers of an operation. -/
inductive Received where
  /-- A packet, for the handler of its type. -/
  | packet (packet : Packet)
  /-- Anything else, for `invalidPacket`. -/
  | invalid

/-- The decoder of the class a packet type belongs to. -/
def Packet.decodeAs : PacketType → RawData → Except DecodeError Packet
  | .readRequest, rawPacket => do
      let (filename, mode, options) ← decodeRequest .readRequest rawPacket
      pure (.readRequest filename mode options)
  | .writeRequest, rawPacket => do
      let (filename, mode, options) ← decodeRequest .writeRequest rawPacket
      pure (.writeRequest filename mode options)
  | .data, rawPacket => decodeData rawPacket
  | .acknowledgement, rawPacket => decodeAcknowledgement rawPacket
  | .error, rawPacket => decodeError rawPacket
  | .optionsAcknowledgement, rawPacket => decodeOptionsAcknowledgement rawPacket
  | .invalid, _ => .error (.invalidPacket "")

/-- `PacketHandler::packet`: which handler is called, and with what. -/
def PacketHandler.packet (rawPacket : RawData) : Received :=
  match Packet.decodeAs (Packet.packetType rawPacket) rawPacket with
  | .ok packet => .packet packet
  | .error _ => .invalid

end Tftp
