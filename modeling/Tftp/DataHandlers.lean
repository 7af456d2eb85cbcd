import Tftp.Packets.Packet

/-!
# What the user supplies

The configuration of the options, the endpoints, and the handlers: the data handlers
the file goes through and the option negotiation handler of the client. The handlers
are the user's code, so they are interfaces here, over a state `δ` of the user's own
that every call may change.
-/

namespace Tftp

/-- An IP address. -/
inductive Address where
  | v4 (bytes : UInt32)
  | v6 (bytes : BitVec 128)
  deriving DecidableEq, Repr

/-- `is_unspecified`: all bytes are zero. -/
def Address.isUnspecified : Address → Bool
  | .v4 bytes => bytes = 0
  | .v6 bytes => bytes = 0

/-- A UDP endpoint. -/
structure Endpoint where
  address : Address := .v4 0
  port : UInt16 := 0
  deriving DecidableEq, Repr

/-- Status reported on completion of a transfer. -/
inductive TransferStatus where
  /-- Transfer completed successfully. -/
  | successful
  /-- Communication error (timeout, read error) occurred. -/
  | communicationError
  /-- RRQ or WRQ rejected. -/
  | requestError
  /-- Option negotiation failed. -/
  | optionNegotiationError
  /-- Invalid data or packets. -/
  | transferError
  /-- Own side requested abort. -/
  | aborted
  deriving DecidableEq, Repr

/-- TFTP options configuration. -/
structure TftpOptionsConfiguration where
  /-- If set, the transfer size option is handled. -/
  handleTransferSizeOption : Bool := false
  /-- If set, this value is used for option negotiation. -/
  blockSizeOption : Option UInt16 := none
  /-- If set, this value, in seconds, is used for option negotiation. -/
  timeoutOption : Option ℤ := none
  deriving DecidableEq, Repr

/-- The known options of a request, as the server has decoded them. -/
structure TftpOptions where
  blockSize : Option UInt16 := none
  timeout : Option UInt8 := none
  transferSize : Option UInt64 := none
  deriving DecidableEq, Repr

/-- Whether any option is set. -/
def TftpOptions.isSet (options : TftpOptions) : Bool :=
  options.blockSize.isSome || options.timeout.isSome || options.transferSize.isSome

/-- What every data handler offers. -/
class DataHandler (δ : Type) where
  /-- Resets the handler for a new transfer. -/
  start : δ → δ
  /-- Told that the transfer is over. -/
  finished : δ → δ

/-- The handler of the side that receives the file. -/
class ReceiveDataHandler (δ : Type) extends DataHandler δ where
  /-- Told the transfer size; answers whether it is acceptable. -/
  receivedTransferSize : δ → UInt64 → Bool × δ
  /-- Takes the data of one block. -/
  receivedData : δ → RawData → δ

/-- The handler of the side that transmits the file. -/
class TransmitDataHandler (δ : Type) extends DataHandler δ where
  /-- Asked for the transfer size. -/
  requestedTransferSize : δ → Option UInt64 × δ
  /-- Asked for the next data, of at most the given size. -/
  sendData : δ → ℕ → RawData × δ

/-- The option negotiation handler of a client: it gets the options the library does
not know, may change them, and answers whether to go on. -/
abbrev OptionNegotiationHandler (δ : Type) := δ → Options → Bool × Options × δ

end Tftp
