import Tftp.Servers.OperationImpl

/-!
# The listening server

`ServerImpl`: waits for requests at the port of the server, decodes their known options, and
hands them to the request handler of the user, who answers with an operation. Whatever else
arrives there is answered with an ERROR packet, or ignored if it is no packet at all.
-/

namespace Tftp.Servers

/-- The two kinds of requests. -/
inductive RequestType where
  | read
  | write
  deriving DecidableEq, Repr

/-- What the request handler is told. -/
structure ReceivedTftpRequest where
  remote : Endpoint
  requestType : RequestType
  filename : RawData
  mode : TransferMode
  /-- The known options of the request. -/
  clientOptions : TftpOptions
  /-- All other options of the request. -/
  additionalClientOptions : Options
  deriving DecidableEq

/-- What the server does with a datagram. -/
inductive ServerAction where
  /-- `errorOperation`: an ERROR packet is sent from a socket of its own. -/
  | errorOperation (remote : Endpoint) (errorCode : ErrorCode) (errorMessage : RawData)
  /-- The request handler is called. -/
  | requestHandler (request : ReceivedTftpRequest)
  /-- The call of a request handler that is not there throws `std::bad_function_call`. -/
  | badFunctionCall
  deriving DecidableEq

/-- The listening server, as far as a datagram is concerned. -/
structure ServerImpl where
  /-- Whether a request handler is registered. -/
  requestHandlerV : Bool

namespace ServerImpl

/-- What `readRequestPacket` and `writeRequestPacket` have in common: without a request handler
the request is rejected, and the handler is called nevertheless. -/
def handleRequest (s : ServerImpl) (remote : Endpoint) (requestType : RequestType)
    (filename : RawData) (mode : TransferMode) (options : Options) (errorMessage : String) :
    List ServerAction :=
  let (decodedOptions, receivedOptions) := tftpOptions options
  if s.requestHandlerV then
    [.requestHandler ⟨remote, requestType, filename, mode, decodedOptions, receivedOptions⟩]
  else [.errorOperation remote .fileNotFound (ascii errorMessage), .badFunctionCall]

/-- `readRequestPacket`. -/
def readRequestPacket (s : ServerImpl) (remote : Endpoint) (filename : RawData)
    (mode : TransferMode) (options : Options) : List ServerAction :=
  s.handleRequest remote .read filename mode options "RRQ packet isn't accepted"

/-- `writeRequestPacket`. -/
def writeRequestPacket (s : ServerImpl) (remote : Endpoint) (filename : RawData)
    (mode : TransferMode) (options : Options) : List ServerAction :=
  s.handleRequest remote .write filename mode options "WRQ"

/-- The answer to a packet that is no request. -/
def unexpected (remote : Endpoint) (errorMessage : String) : List ServerAction :=
  [.errorOperation remote .illegalTftpOperation (ascii errorMessage)]

/-- The handlers of the packets. -/
def received (s : ServerImpl) (remote : Endpoint) : Received → List ServerAction
  | .packet (.readRequest filename mode options) => s.readRequestPacket remote filename mode options
  | .packet (.writeRequest filename mode options) =>
      s.writeRequestPacket remote filename mode options
  | .packet (.data ..) => unexpected remote "DATA packet isn't expected"
  | .packet (.acknowledgement _) => unexpected remote "ACK packet isn't expected"
  | .packet (.error ..) => unexpected remote "ERR packet isn't expected"
  | .packet (.optionsAcknowledgement _) => unexpected remote "OACK packet isn't expected"
  | .invalid => []

/-- `receiveHandler`: a datagram at the port of the server; what does not fit into the buffer is
lost. -/
def receiveHandler (s : ServerImpl) (remote : Endpoint) (rawPacket : RawData) :
    List ServerAction :=
  s.received remote (PacketHandler.packet (rawPacket.take defaultMaxPacketSize.toNat))

/-- **A request that fits into the buffer gets to the request handler**, with the known options
that were put into it. -/
theorem receiveHandler_request {s : ServerImpl} (hhandler : s.requestHandlerV = true)
    {known : TftpOptions} (hrange : known.InRange) {filename : RawData} (hfilename : 0 ∉ filename)
    (mode : TransferMode) (remote : Endpoint) (requestType : RequestType) {packet : Packet}
    (hpacket : packet = match requestType with
      | .read => .readRequest filename mode (known.onto Protocol.SortedMap.empty)
      | .write => .writeRequest filename mode (known.onto Protocol.SortedMap.empty))
    (hlength : packet.encode.length ≤ defaultMaxPacketSize.toNat) :
    ∃ additional, s.receiveHandler remote packet.encode =
      [.requestHandler ⟨remote, requestType, filename, mode, known, additional⟩] := by
  have hnul : (known.onto Protocol.SortedMap.empty).NulFree :=
    TftpOptions.nulFree_onto Options.nulFree_empty
  have hknown : (tftpOptions (known.onto Protocol.SortedMap.empty)).1 = known :=
    tftpOptions_eq hrange (TftpOptions.find?_onto TftpOptions.lacks_empty)
  have hencodable : packet.Encodable := by
    rw [hpacket]
    cases requestType <;> exact ⟨hfilename, hnul⟩
  refine ⟨(tftpOptions (known.onto Protocol.SortedMap.empty)).2, ?_⟩
  rw [receiveHandler, List.take_of_length_le hlength, PacketHandler.packet_encode hencodable,
    hpacket]
  cases requestType <;>
    simp [received, readRequestPacket, writeRequestPacket, handleRequest, hhandler, hknown]

end ServerImpl

end Tftp.Servers
