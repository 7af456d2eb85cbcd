import Tftp.Servers.ServerImpl
import Tftp.Starts
import Tftp.Files.MemoryFile

/-!
# Client and server agree on the options

The request of a client, decoded by the listening server and answered by an operation that is
started for it, and the answer decoded by the client again: whatever both sides are configured
to, the client accepts the answer, and then both use the same size of a full block and the same
receive timeout (`Tftp.Negotiated`).

The values go through four hands, and at each of them something could be lost. The client writes the
numbers of its configuration as texts into the map of options; the server reads them back, if they
are in the range of the option, and keeps what it does not know apart; the operation decides on each
of them, by its own configuration, and writes what it acknowledges as texts again; and the client
reads these, and compares them with what it has asked for. That no text is lost and no number
changed on the way is the round trip of the packets together with that of the numbers
(`Tftp.TftpOptions.onto`). What remains is that the decision of the server is one that the client
accepts: a smaller block, or the same, and the same timeout (`Tftp.acceptable_acknowledged`).

There are two ways to answer, and they are told apart by whether the map of acknowledged options is
empty: with an acknowledgement of options, or with the first packet of the transfer if there is none
to acknowledge. In the second case both sides must fall back to the same defaults without any word
on it, and the client learns that it is so from the type of the packet alone.

A read and a write differ in who opens the transfer, and in who tells the size of the file: a client
that writes announces it, and the server may refuse it, which is the one case that is left out of
the agreement; a client that reads asks for it with a zero.
-/

namespace Tftp

open Protocol Clients Servers

/-- The datagrams sent, in order. -/
def datagrams (actions : List Action) : List RawData := actions.filterMap Action.onWire

/-- **One packet is sent**, and no failure is reported. -/
def Replies (actions : List Action) (p : Packet) : Prop :=
  datagrams actions = [p.encode] ∧
    ∀ status, .finished status ∈ actions → status = .successful

/-- Whether a packet acknowledges an option. -/
def Packet.Acknowledges (answer : Packet) (option : KnownOptions) : Prop :=
  ∃ options, answer = .optionsAcknowledgement options ∧
    (options.find? (tftpOptionsName option)).isSome

/-- A client whose options can be negotiated: in range, and no others. -/
structure Clients.Settings.Negotiable {δ : Type} (settings : Clients.Settings δ) : Prop where
  blockSize : settings.optionsConfiguration.BlockSizeInRange
  timeout : settings.optionsConfiguration.TimeoutInRange
  additional : settings.additionalOptions = SortedMap.empty
  handler : settings.optionNegotiationHandler = none
  filename : 0 ∉ settings.filename

/-- A server whose options can be negotiated. -/
structure Servers.Settings.Negotiable {δ : Type} (settings : Servers.Settings δ) : Prop where
  blockSize : settings.optionsConfiguration.BlockSizeInRange
  additional : settings.additionalNegotiatedOptions = SortedMap.empty

/-- The settings of the operation that is started for a request. -/
def Servers.Settings.answering {δ : Type} (settings : Servers.Settings δ)
    (request : ReceivedTftpRequest) : Servers.Settings δ :=
  { settings with
    remote := request.remote
    clientOptions := request.clientOptions }

/-- A data handler keeps to the size it is asked for. -/
def KeepsToMaxSize (ε : Type) [TransmitDataHandler ε] : Prop :=
  ∀ (handler : ε) maxSize, (TransmitDataHandler.sendData handler maxSize).1.length ≤ maxSize

theorem datagrams_calls {calls : List Action} (h : ∀ a ∈ calls, a.IsCall) :
    datagrams calls = [] := by
  refine List.filterMap_eq_nil_iff.mpr fun a ha => ?_
  have hcall := h a ha
  cases a <;> first | rfl | exact hcall.elim

/-- Calls, one packet, and at most the report of success. -/
theorem replies_of_eq {calls report : List Action} (hcalls : ∀ a ∈ calls, a.IsCall)
    (hreport : report = [] ∨ ∃ c, report = Action.completion c .successful) (p : Packet)
    (peer : Endpoint) : Replies (calls ++ [.send p.encode peer] ++ report) p := by
  have hsilent : datagrams report = [] := by
    rcases hreport with rfl | ⟨c, rfl⟩
    · rfl
    · cases c <;> rfl
  constructor
  · have hcalls' := datagrams_calls hcalls
    simp only [datagrams, List.filterMap_append] at hcalls' hsilent ⊢
    rw [hcalls', hsilent]
    rfl
  · intro status hmem
    rcases List.mem_append.mp hmem with hmem | hmem
    · rcases List.mem_append.mp hmem with hmem | hmem
      · exact (hcalls _ hmem).elim
      · cases List.mem_singleton.mp hmem
    · rcases hreport with rfl | ⟨c, rfl⟩
      · cases hmem
      · exact finished_completion hmem

/-- **The first block is accepted**, where its number is not negotiated about. -/
theorem ReceiverStep.first {v v' : ReceiverView} {peer : Endpoint} {data : RawData}
    {acts : List Action} {p' : Phase} (h : ReceiverStep v peer (.packet (.data 1 data)) acts p' v')
    (hblock : v.block = 0) (hneg : v.negotiates = false) (hsize : data.length ≤ v.dataSize.toNat) :
    Replies acts (.acknowledgement 1) ∧ v'.dataSize = v.dataSize := by
  have hone : v.block.next = 1 := by rw [hblock]; decide
  generalize hr : Received.packet (.data 1 data) = r at h
  cases h with
  | repeated data' =>
    rw [hblock] at hr
    cases hr
  | accepted calls data' hcalls hsize' =>
    refine ⟨?_, rfl⟩
    obtain rfl := hcalls.resolve_right fun h => by simp [hneg] at h
    have hclosing := closing_cases v peer data'
    have hreplies : Replies ([.receivedData data'] ++
        [.send (Packet.acknowledgement 1).encode peer] ++ v.closing data') (.acknowledgement 1) :=
      replies_of_eq (by simp [Action.IsCall]) (hclosing.imp And.left fun h => ⟨_, h.1⟩) _ _
    rw [hone]
    exact hreplies
  | negotiated => cases hr
  | failed _ calls errors status size timeout packet counter _ _ _ hdata =>
    have hrefused := (hdata 1 data hr.symm).2 hone.symm hsize
    rw [hneg] at hrefused
    cases hrefused

/-- **The acknowledgement of block zero is accepted**, where it is not negotiated about: the first
block is sent. -/
theorem SenderStep.first {ε : Type} [TransmitDataHandler ε] {v v' : SenderView ε}
    {peer : Endpoint} {acts : List Action} {p' : Phase}
    (h : SenderStep v peer (.packet (.acknowledgement 0)) acts p' v') (hreceived : v.received ≠ 0)
    (htransmitted : v.transmitted = 0) (hlast : v.last = false) (hneg : v.negotiation = none) :
    (∃ data, Replies acts (.data 1 data)) ∧ v'.dataSize = v.dataSize := by
  have hone : v.transmitted.next = 1 := by rw [htransmitted]; decide
  generalize hr : Received.packet (.acknowledgement 0) = r at h
  cases h with
  | repeated =>
    obtain heq : 0 = v.received := by simpa using hr
    exact absurd heq.symm hreceived
  | next calls state hcalls hne =>
    have hnil : calls = [] := by
      rcases hcalls with ⟨hnil, -⟩ | ⟨-, ⟨hnil, -⟩ | ⟨⟨g, hg, -⟩, -⟩⟩
      · exact hnil
      · exact hnil
      · rw [hneg] at hg
        cases hg
    subst hnil
    refine ⟨⟨(v.acknowledged state).block, ?_⟩, rfl⟩
    have hreplies : Replies ([.sendData v.dataSize.toNat (v.acknowledged state).block] ++
        [.send (Packet.data 1 (v.acknowledged state).block).encode peer] ++ [])
        (.data 1 (v.acknowledged state).block) :=
      replies_of_eq (by simp [Action.IsCall]) (Or.inl rfl) _ _
    rw [← hone] at hreplies ⊢
    exact hreplies
  | completed _ _ _ _ hlast' =>
    rw [hlast] at hlast'
    cases hlast'
  | negotiated => cases hr
  | failed _ _ _ _ _ _ _ _ _ _ _ hack =>
    have hsome := ((hack 0 hr.symm).2 htransmitted.symm).2
    rw [hneg] at hsome
    cases hsome

section Generic

open Operation

variable {σ τ δ ε : Type} [DataHandler δ] [DataHandler ε] [Operation σ δ] [Operation τ ε]

/-- **A successful negotiation** between the client at `clientV`, which has sent its request, and
the operation at `serverV` that is started for the request. The sizes are those of a full
block. -/
structure Negotiated (client : σ) (start : ReceivedTftpRequest → τ) (clientSize : σ → UInt16)
    (serverSize : τ → UInt16) (clientV serverV : Endpoint) (rawRequest : RawData)
    (request : ReceivedTftpRequest) (answer reply : Packet) : Prop where
  /-- The client has sent the request. -/
  requested : datagrams (actions client) = [rawRequest]
  /-- The listening server hands it to the request handler. -/
  decoded : ServerImpl.receiveHandler ⟨true⟩ clientV rawRequest = [.requestHandler request]
  /-- The operation answers, and not with an ERROR packet. -/
  answered : Replies (actions (start request)) answer ∧ answer.type ≠ .error ∧
    (base (start request)).phase = .waiting clientV
  /-- The client replies, and not with an ERROR packet. -/
  accepted : Replies (actions (peerStep client (.datagram serverV answer.encode))) reply ∧
    reply.type ≠ .error
  /-- Both use the same size of a full block. -/
  dataSize : clientSize (peerStep client (.datagram serverV answer.encode)) =
    serverSize (start request)
  /-- This is 512 if no block size was acknowledged. -/
  defaultSize : ¬ answer.Acknowledges .blockSize →
    clientSize (peerStep client (.datagram serverV answer.encode)) = defaultDataSize
  /-- Both use the same receive timeout if one was acknowledged. -/
  timeout : answer.Acknowledges .timeout →
    (base (peerStep client (.datagram serverV answer.encode))).receiveTimeoutV =
      (base (start request)).receiveTimeoutV

/-- The first datagram of the server gets to the handlers of the packets. -/
theorem Operation.peerStep_answer {s : σ} (halive : (base s).terminated = false)
    (hsock : (base s).socketV = .opened) (hrec : (base s).receives = [.receiveFirstHandler])
    {source : Endpoint} (hsource : source.address = (base s).remoteV.address) {p : Packet}
    (hp : p.Encodable) (hlength : p.encode.length ≤ (base s).receivePacketV) :
    peerStep s (.datagram source p.encode) =
      received (withBase s ((base s).takenUp source source)) {} (.packet p) := by
  have hpacket := PacketHandler.packet_encode hp
  rw [← List.take_of_length_le hlength] at hpacket
  rw [peerStep_datagram halive]
  simp [onDatagram, receiveFirstHandler, receiveHandler, OperationImpl.cleared,
    OperationImpl.takenUp, hrec, hsock, Socket.accepts, hsource, hpacket]

end Generic

section Options

variable {configuration serverConfiguration : TftpOptionsConfiguration}
  {transferSize announced : Option UInt64}

/-- **What a server acknowledges is acceptable** for the client that has sent the request. -/
theorem acceptable_acknowledged (htimeout : configuration.TimeoutInRange) {expected : Bool}
    (hsize : announced.isSome → expected = true) :
    Acceptable configuration expected
      (acknowledged serverConfiguration (requestedOptions configuration transferSize)
        announced) where
  blockSize b hb := by
    obtain ⟨configured, requested, -, hrequested, hmin⟩ := negotiatedBlockSize_eq_some hb
    exact ⟨requested, hrequested, by omega⟩
  timeout t ht := by
    obtain ⟨t', ht', rfl⟩ := Option.map_eq_some_iff.mp (negotiatedTimeout_eq_some ht)
    rw [timeout_toNat htimeout ht']
    exact ht'
  transferSize := hsize

/-- The acknowledged options, as they are found in the packet. -/
theorem find?_acknowledged (known : TftpOptions) (o : KnownOptions) :
    (Packet.optionsAcknowledgement (known.onto SortedMap.empty)).Acknowledges o ↔
      (known.number o).isSome := by
  constructor
  · rintro ⟨options, heq, hsome⟩
    obtain rfl : known.onto SortedMap.empty = options := by simpa using heq
    rw [TftpOptions.find?_onto TftpOptions.lacks_empty] at hsome
    simpa using hsome
  · intro h
    refine ⟨_, rfl, ?_⟩
    rw [TftpOptions.find?_onto TftpOptions.lacks_empty]
    simpa using h

/-- An acknowledgement of the known options fits into every buffer. -/
theorem length_acknowledgement (known : TftpOptions) :
    (Packet.optionsAcknowledgement (known.onto SortedMap.empty)).encode.length ≤ 55 := by
  have hlength : (known.onto SortedMap.empty).rawOptions.length ≤
      (Options.rawOptions SortedMap.empty).length + 53 := TftpOptions.length_rawOptions_onto
  rw [Packet.encode_optionsAcknowledgement, List.length_append, RawData.length_setInt]
  have hnil : (Options.rawOptions SortedMap.empty).length = 0 := rfl
  omega

end Options

/-! ### Reading a file -/

section Read

open Operation

variable {δ ε : Type} [ReceiveDataHandler δ] [TransmitDataHandler ε] {client : Clients.Settings δ}
  {server : Servers.Settings ε} {serverV : Endpoint}

/-- The known options of the request for a file: its size is asked for with zero. -/
def Clients.Settings.readOptions {δ : Type} (settings : Clients.Settings δ) : TftpOptions :=
  requestedOptions settings.optionsConfiguration
    (if settings.optionsConfiguration.handleTransferSizeOption then some 0 else none)

/-- The size of the file is asked for with zero, or not at all. -/
theorem Clients.Settings.transferSize_readOptions {δ : Type} (settings : Clients.Settings δ) :
    settings.readOptions.transferSize = none ∨ settings.readOptions.transferSize = some 0 := by
  show (if settings.optionsConfiguration.handleTransferSizeOption then some 0 else none) = none ∨
    (if settings.optionsConfiguration.handleTransferSizeOption then some 0 else none) = some 0
  split_ifs
  · exact Or.inr rfl
  · exact Or.inl rfl

/-- Whoever asks for the size of the file handles the option. -/
theorem Clients.Settings.handles_of_readOptions {δ : Type} (settings : Clients.Settings δ)
    (h : settings.readOptions.transferSize.isSome) :
    settings.optionsConfiguration.handleTransferSizeOption = true := by
  by_contra hhandle
  simp [Clients.Settings.readOptions, requestedOptions, hhandle] at h

/-- The client of a read that has sent its request. -/
def readingClient (client : Clients.Settings δ) : Clients.ReadOperationImpl δ :=
  (Clients.ReadOperationImpl.configured client).request {}

/-- The request for a file. -/
def readRequest (client : Clients.Settings δ) : Packet :=
  .readRequest client.filename client.mode (client.readOptions.onto SortedMap.empty)

omit [ReceiveDataHandler δ] in
theorem requestOptions_read (h : client.Negotiable) :
    (Clients.ReadOperationImpl.configured client).requestOptions =
      client.readOptions.onto SortedMap.empty := by
  have heq : (requestOptions SortedMap.empty client.optionsConfiguration).emplaceNumber
      (tftpOptionsName .transferSize) ((if client.optionsConfiguration.handleTransferSizeOption
        then some 0 else none : Option UInt64).map UInt64.toNat) =
          client.readOptions.onto SortedMap.empty := requestOptions_eq h.timeout SortedMap.empty
  have hzero : ascii "0" = [48] := by decide
  rw [← heq, ← h.additional]
  cases hhandle : client.optionsConfiguration.handleTransferSizeOption <;>
    simp [Clients.ReadOperationImpl.requestOptions, Clients.ReadOperationImpl.configured,
      Clients.ReadOperationImpl.optionsConfiguration, hhandle, Options.emplaceNumber,
      stdToString_of_lt, hzero]

theorem readingClient_eq (h : client.Negotiable) :
    readingClient client = { Clients.ReadOperationImpl.configured client with
      toOperationImpl := Clients.OperationImpl.requested
        (Clients.ReadOperationImpl.configured client).toOperationImpl (readRequest client)
      receiveDataSize := defaultDataSize
      lastReceivedBlockNumber := 0 } := by
  rw [readingClient, Clients.ReadOperationImpl.request_eq
    (Clients.ReadOperationImpl.idle_configured client), requestOptions_read h]
  rfl

omit [ReceiveDataHandler δ] in
/-- The receive buffer holds a packet of the default size. -/
theorem defaultMaxPacketSize_le_buffer (h : client.Negotiable) :
    516 ≤ (Clients.ReadOperationImpl.configured client).receivePacketV := by
  show 516 ≤ (4 + max 512 (client.optionsConfiguration.blockSizeOption.getD 512).toNat) % 2 ^ 16
  cases hblock : client.optionsConfiguration.blockSizeOption with
  | none => decide
  | some b =>
    have hmax := (h.blockSize b hblock).2
    rw [blockSizeOptionMax] at hmax
    rw [Option.getD_some]
    omega

/-- The client, when the answer of the server has arrived. -/
def answeredClient (client : Clients.Settings δ) (serverV : Endpoint) :
    Clients.ReadOperationImpl δ :=
  { readingClient client with
    toOperationImpl := (readingClient client).toOperationImpl.takenUp serverV serverV }

theorem peerStep_readingClient (h : client.Negotiable)
    (hserver : serverV.address = client.remote.address) {p : Packet} (hp : p.Encodable)
    (hlength : p.encode.length ≤ 516) :
    peerStep (readingClient client) (.datagram serverV p.encode) =
      (answeredClient client serverV).received {} (.packet p) := by
  have hbuffer := defaultMaxPacketSize_le_buffer h
  refine peerStep_answer ?_ ?_ ?_ ?_ hp ?_
  all_goals
    rw [readingClient_eq h]
  iterate 3 rfl
  · exact hserver
  · exact hlength.trans hbuffer

/-- What the client is when the answer arrives. -/
theorem answeredClient_spec (h : client.Negotiable) (serverV : Endpoint) :
    (answeredClient client serverV).Ready serverV ∧
      (answeredClient client serverV).actions = [] ∧
      (answeredClient client serverV).lastReceivedBlockNumber = 0 ∧
      (answeredClient client serverV).optionNegotiationHandlerV = none ∧
      (answeredClient client serverV).optionsConfigurationV = client.optionsConfiguration ∧
      (answeredClient client serverV).dataHandlerV = DataHandler.start client.dataHandler ∧
      (answeredClient client serverV).receiveDataSize = defaultDataSize := by
  rw [answeredClient, readingClient_eq h]
  exact ⟨⟨rfl, rfl, rfl⟩, rfl, rfl, h.handler, rfl, rfl, rfl⟩

/-- **The client accepts an acknowledgement of its options**, and acknowledges it. -/
theorem readingClient_accepts_options (h : client.Negotiable)
    (hserver : serverV.address = client.remote.address) {known : TftpOptions}
    (hrange : known.InRange)
    (hacc : Acceptable client.optionsConfiguration
      client.optionsConfiguration.handleTransferSizeOption known)
    (hset : (known.onto SortedMap.empty).isEmpty = false)
    (hsize : ∀ size, known.transferSize = some size →
      (ReceiveDataHandler.receivedTransferSize
        (DataHandler.start client.dataHandler) size).1 = true) :
    ∃ c, c = peerStep (readingClient client) (.datagram serverV
        (Packet.optionsAcknowledgement (known.onto SortedMap.empty)).encode) ∧
      Replies (actions c) (.acknowledgement 0) ∧
      c.receiveDataSize = known.blockSize.getD defaultDataSize ∧
      (∀ t, known.timeout = some t → c.receiveTimeoutV = t.toNat) := by
  have hencodable : (Packet.optionsAcknowledgement (known.onto SortedMap.empty)).Encodable :=
    ⟨hset, TftpOptions.nulFree_onto Options.nulFree_empty⟩
  obtain ⟨hready, hactions, hblock, hhandler, hconf, hdata, hsz⟩ := answeredClient_spec h serverV
  rw [← hconf] at hacc
  rw [← hdata] at hsize
  obtain ⟨c, hc, -, hdataSize, htimeout, calls, hcalls, hact⟩ :=
    Clients.ReadOperationImpl.optionsAcknowledgementPacket_acceptable hready hblock hhandler hrange
      hacc hset hsize
  refine ⟨c, ?_, ?_, ?_, ?_⟩
  · rw [peerStep_readingClient h hserver hencodable
      ((length_acknowledgement known).trans (by decide)), hc]
    rfl
  · have hreplies := replies_of_eq (isCall_negotiation hcalls) (Or.inl rfl) (.acknowledgement 0)
      serverV
    rw [hactions, List.nil_append] at hact
    rw [List.append_nil, ← hact] at hreplies
    exact hreplies
  · rw [hdataSize, hsz]
  · intro t ht
    rw [htimeout, ht]
    rfl

/-- **The client accepts the first block**, and acknowledges it. -/
theorem readingClient_accepts_block (h : client.Negotiable)
    (hserver : serverV.address = client.remote.address) {data : RawData}
    (hlength : data.length ≤ 512) :
    ∃ c, c = peerStep (readingClient client) (.datagram serverV (Packet.data 1 data).encode) ∧
      Replies (actions c) (.acknowledgement 1) ∧ c.receiveDataSize = defaultDataSize := by
  obtain ⟨hready, hactions, hblock, hhandler, -, -, hsize⟩ := answeredClient_spec h serverV
  have hlength' : (Packet.data 1 data).encode.length ≤ 516 := by
    simp only [Packet.encode_data, List.length_append, RawData.length_setInt]
    omega
  refine ⟨_, rfl, ?_⟩
  rw [peerStep_readingClient h hserver (p := .data 1 data) trivial hlength']
  have hfull : data.length ≤ (answeredClient client serverV).view.dataSize.toNat := by
    show data.length ≤ (answeredClient client serverV).receiveDataSize.toNat
    rw [hsize]
    exact hlength
  obtain ⟨-, hstep⟩ := Clients.ReadOperationImpl.steps_dataPacket hready hactions 1 data
  obtain ⟨hreplies, hkept⟩ := hstep.first hblock
    (by simp [Clients.ReadOperationImpl.view, hhandler]) hfull
  exact ⟨hreplies, hkept.trans hsize⟩

/-- The operation that is started for the request for a file. -/
def readServer (server : Servers.Settings ε) (request : ReceivedTftpRequest) :
    Servers.ReadOperationImpl ε :=
  (Servers.ReadOperationImpl.configured (server.answering request)).start {}

/-- The options that the server of a read acknowledges. -/
def readAcknowledged (server : Servers.Settings ε) (request : ReceivedTftpRequest) :
    TftpOptions :=
  acknowledged server.optionsConfiguration request.clientOptions
    (Servers.ReadOperationImpl.configured (server.answering request)).announced.1

omit [TransmitDataHandler ε] in
/-- A request that asks for the size of the file is not refused. -/
theorem refuses_answering (server : Servers.Settings ε) {request : ReceivedTftpRequest}
    (hzero : request.clientOptions.transferSize = none ∨
      request.clientOptions.transferSize = some 0) :
    (Servers.ReadOperationImpl.configured (server.answering request)).refuses = false := by
  have hoffered :
      (Servers.ReadOperationImpl.configured (server.answering request)).offeredTransferSize =
        if server.optionsConfiguration.handleTransferSizeOption then
          request.clientOptions.transferSize else none := rfl
  rw [Servers.ReadOperationImpl.refuses, hoffered]
  rcases hzero with hzero | hzero <;> rw [hzero] <;> split_ifs <;> rfl

/-- **The server of a read answers** with an acknowledgement of its options, or with the first
block if there is none. -/
theorem readServer_answers (h : server.Negotiable) (request : ReceivedTftpRequest)
    (hzero : request.clientOptions.transferSize = none ∨
      request.clientOptions.transferSize = some 0) :
    ∃ s answer, s = readServer server request ∧ Replies s.actions answer ∧
      s.phase = .waiting request.remote ∧
      s.transmitDataSize = (readAcknowledged server request).blockSize.getD defaultDataSize ∧
      (∀ t, (readAcknowledged server request).timeout = some t → s.receiveTimeoutV = t.toNat) ∧
      (((readAcknowledged server request).onto SortedMap.empty).isEmpty = false ∧
          answer = .optionsAcknowledgement
            ((readAcknowledged server request).onto SortedMap.empty) ∨
        ((readAcknowledged server request).onto SortedMap.empty).isEmpty = true ∧
          ∃ handler : ε,
            answer = .data 1 (TransmitDataHandler.sendData handler
              ((readAcknowledged server request).blockSize.getD defaultDataSize).toNat).1) := by
  have hidle := Servers.ReadOperationImpl.idle_configured (server.answering request)
  have hrefuses := refuses_answering server hzero
  have hoptions : (Servers.ReadOperationImpl.configured
      (server.answering request)).acknowledgedOptions =
        (readAcknowledged server request).onto SortedMap.empty := by
    rw [Servers.ReadOperationImpl.acknowledgedOptions_eq, ← h.additional]
    rfl
  have hcalls := (Servers.ReadOperationImpl.configured (server.answering request)).isCall_announced
  have htimeout : ∀ t, (readAcknowledged server request).timeout = some t →
      (Servers.ReadOperationImpl.configured (server.answering request)).negotiatedReceiveTimeout =
        t.toNat := by
    intro t ht
    have ht' : negotiatedTimeout server.optionsConfiguration request.clientOptions = some t := ht
    show ((negotiatedTimeout server.optionsConfiguration request.clientOptions).map
      fun t : UInt8 => (t.toNat : ℤ)).getD _ = _
    rw [ht']
    rfl
  rw [← hoptions]
  rcases hempty : (Servers.ReadOperationImpl.configured
    (server.answering request)).acknowledgedOptions.isEmpty with _ | _
  · obtain ⟨-, hphase, hact, hview⟩ :=
      Servers.ReadOperationImpl.start_acknowledges hidle hrefuses hempty
    have hreplies := replies_of_eq hcalls (Or.inl rfl)
      (.optionsAcknowledgement (Servers.ReadOperationImpl.configured
        (server.answering request)).acknowledgedOptions) request.remote
    refine ⟨_, _, rfl, ?_, hphase, congrArg SenderView.dataSize hview,
      fun t ht => (congrArg SenderView.timeout hview).trans (htimeout t ht), Or.inl ⟨rfl, rfl⟩⟩
    rw [List.append_nil] at hreplies
    rw [readServer, hact]
    exact hreplies
  · obtain ⟨-, hphase, hact, hview⟩ := Servers.ReadOperationImpl.start_sends hidle hrefuses hempty
    have hcalls' := isCall_concat_sendData hcalls
      (Servers.ReadOperationImpl.configured (server.answering request)).accepted.view.dataSize.toNat
      (Servers.ReadOperationImpl.configured (server.answering request)).accepted.view.block
    have hreplies := replies_of_eq hcalls' (Or.inl rfl) (.data 1
      (Servers.ReadOperationImpl.configured
      (server.answering request)).accepted.view.block) request.remote
    refine ⟨_, .data 1 (Servers.ReadOperationImpl.configured
      (server.answering request)).accepted.view.block, rfl, ?_, hphase,
      congrArg SenderView.dataSize hview,
      fun t ht => (congrArg SenderView.timeout hview).trans (htimeout t ht),
      Or.inr ⟨rfl, (Servers.ReadOperationImpl.configured
        (server.answering request)).accepted.view.handler, rfl⟩⟩
    rw [List.append_nil, List.append_assoc, List.cons_append] at hreplies
    rw [readServer, hact]
    exact hreplies

/-- The transfer size is announced if both sides handle it and the data handler knows it. -/
theorem announced_eq_some {request : ReceivedTftpRequest} {size : UInt64}
    (h : (readAcknowledged server request).transferSize = some size) :
    server.optionsConfiguration.handleTransferSizeOption = true ∧
      request.clientOptions.transferSize.isSome ∧
      (TransmitDataHandler.requestedTransferSize (DataHandler.start server.dataHandler)).1 =
        some size := by
  have hoffered : (Servers.ReadOperationImpl.configured
      (server.answering request)).offeredTransferSize =
        if server.optionsConfiguration.handleTransferSizeOption then
          request.clientOptions.transferSize else none := rfl
  have hannounced : (Servers.ReadOperationImpl.configured
    (server.answering request)).announced.1 = some size := h
  rw [Servers.ReadOperationImpl.announced, hoffered] at hannounced
  split_ifs at hannounced with hhandle
  · rcases hsize : request.clientOptions.transferSize with _ | size'
    · rw [hsize] at hannounced
      cases hannounced
    · rw [hsize] at hannounced
      exact ⟨hhandle, rfl, hannounced⟩

omit [ReceiveDataHandler δ] in
/-- **What the server of a read acknowledges is acceptable** for the client that has sent the
request. -/
theorem acceptable_read (server : Servers.Settings ε)
    (htimeout : client.optionsConfiguration.TimeoutInRange)
    {request : ReceivedTftpRequest} (hrequest : request.clientOptions = client.readOptions) :
    Acceptable client.optionsConfiguration client.optionsConfiguration.handleTransferSizeOption
      (readAcknowledged server request) := by
  rw [readAcknowledged, hrequest, Clients.Settings.readOptions]
  refine acceptable_acknowledged htimeout fun hsome => ?_
  obtain ⟨size, hannounced⟩ := Option.isSome_iff_exists.mp hsome
  have hasked := (announced_eq_some hannounced).2.1
  rw [hrequest] at hasked
  exact client.handles_of_readOptions hasked

/-- **A read is negotiated**, unless the data handler of the client refuses the transfer
size. -/
theorem read_negotiated (hclient : client.Negotiable) (hserver : server.Negotiable)
    (hkeeps : KeepsToMaxSize ε) (clientV : Endpoint)
    (hserverV : serverV.address = client.remote.address)
    (hlength : (readRequest client).encode.length ≤ 516)
    (hsize : client.optionsConfiguration.handleTransferSizeOption →
      server.optionsConfiguration.handleTransferSizeOption → ∀ size,
        (TransmitDataHandler.requestedTransferSize (DataHandler.start server.dataHandler)).1 =
          some size →
        (ReceiveDataHandler.receivedTransferSize (DataHandler.start client.dataHandler) size).1 =
          true) :
    ∃ request answer reply, Negotiated (readingClient client) (readServer server)
      Clients.ReadOperationImpl.receiveDataSize Servers.ReadOperationImpl.transmitDataSize clientV
      serverV (readRequest client).encode request answer reply := by
  have hrange : client.readOptions.InRange :=
    inRange_requestedOptions hclient.blockSize hclient.timeout
  have hrequested : datagrams (actions (readingClient client)) = [(readRequest client).encode] := by
    rw [readingClient_eq hclient]
    rfl
  -- the request is decoded
  obtain ⟨additional, hdecoded⟩ := ServerImpl.receiveHandler_request (s := ⟨true⟩) rfl hrange
    hclient.filename client.mode clientV .read rfl hlength
  -- and answered
  obtain ⟨s, answer, rfl, hreplies, hphase, hdataSize, htimeout, hanswer⟩ :=
    readServer_answers hserver ⟨clientV, .read, client.filename, client.mode, client.readOptions,
      additional⟩ client.transferSize_readOptions
  rcases hanswer with ⟨hset, rfl⟩ | ⟨hempty, handler, rfl⟩
  · -- the client takes over what is acknowledged
    have hacc : Acceptable client.optionsConfiguration
        client.optionsConfiguration.handleTransferSizeOption (readAcknowledged server
          ⟨clientV, .read, client.filename, client.mode, client.readOptions, additional⟩) :=
      acceptable_read server hclient.timeout rfl
    obtain ⟨c, rfl, hreplies', hdataSize', htimeout'⟩ := readingClient_accepts_options hclient
      hserverV (inRange_acknowledged hserver.blockSize hrange _)
      hacc hset
      (fun size hannounced => by
        obtain ⟨hhandle, hknown, hrequested⟩ := announced_eq_some hannounced
        exact hsize (client.handles_of_readOptions hknown) hhandle size hrequested)
    refine ⟨_, _, _, hrequested, hdecoded, ⟨hreplies, by rintro ⟨⟩, hphase⟩,
      ⟨hreplies', by rintro ⟨⟩⟩, hdataSize'.trans hdataSize.symm, fun hnone => ?_, fun hsome => ?_⟩
    · rw [find?_acknowledged, TftpOptions.number, Option.isSome_map] at hnone
      exact hdataSize'.trans
        (congrArg (Option.getD · defaultDataSize) (Option.not_isSome_iff_eq_none.mp hnone))
    · rw [find?_acknowledged, TftpOptions.number, Option.isSome_map] at hsome
      obtain ⟨t, ht⟩ := Option.isSome_iff_exists.mp hsome
      exact (htimeout' t ht).trans (htimeout t ht).symm
  · -- nothing is acknowledged, so the first block has at most 512 bytes
    have hnone := (isSet_eq_false (TftpOptions.isEmpty_onto TftpOptions.lacks_empty hempty)).1
    rw [hnone] at hdataSize hreplies
    obtain ⟨c, rfl, hreplies', hdataSize'⟩ := readingClient_accepts_block hclient hserverV
      (hkeeps handler 512)
    exact ⟨_, _, _, hrequested, hdecoded, ⟨hreplies, by rintro ⟨⟩, hphase⟩,
      ⟨hreplies', by rintro ⟨⟩⟩, hdataSize'.trans hdataSize.symm, fun _ => hdataSize', fun h => by
        obtain ⟨options, heq, -⟩ := h
        cases heq⟩

end Read

/-! ### Writing a file -/

section Write

open Operation

variable {δ ε : Type} [ReceiveDataHandler δ] [TransmitDataHandler ε] {client : Clients.Settings ε}
  {server : Servers.Settings δ} {serverV : Endpoint}

/-- The transfer size that the client of a write announces, if it handles it. -/
def Clients.Settings.announced (settings : Clients.Settings ε) : Option UInt64 :=
  if settings.optionsConfiguration.handleTransferSizeOption then
    (TransmitDataHandler.requestedTransferSize (DataHandler.start settings.dataHandler)).1
  else none

/-- The known options of the request to write a file. -/
def Clients.Settings.writeOptions (settings : Clients.Settings ε) : TftpOptions :=
  requestedOptions settings.optionsConfiguration settings.announced

/-- The client of a write that has sent its request. -/
def writingClient (client : Clients.Settings ε) : Clients.WriteOperationImpl ε :=
  (Clients.WriteOperationImpl.configured client).request {}

/-- The request to write a file. -/
def writeRequest (client : Clients.Settings ε) : Packet :=
  .writeRequest client.filename client.mode (client.writeOptions.onto SortedMap.empty)

theorem announced_write (client : Clients.Settings ε) :
    (Clients.WriteOperationImpl.configured client).announced.1 = client.announced := by
  rw [Clients.WriteOperationImpl.announced, Clients.Settings.announced]
  show (if client.optionsConfiguration.handleTransferSizeOption then _ else _ :
    Option UInt64 × ε × List Action).1 = _
  split_ifs <;> rfl

theorem requestOptions_write (h : client.Negotiable) :
    (Clients.WriteOperationImpl.configured client).requestOptions =
      client.writeOptions.onto SortedMap.empty := by
  have heq : (requestOptions SortedMap.empty client.optionsConfiguration).emplaceNumber
      (tftpOptionsName .transferSize) (client.announced.map UInt64.toNat) =
        client.writeOptions.onto SortedMap.empty := requestOptions_eq h.timeout SortedMap.empty
  rw [← heq, ← h.additional, Clients.WriteOperationImpl.requestOptions, announced_write]
  cases client.announced <;> rfl

/-- The client, when the answer of the server has arrived. -/
def answeredWriter (client : Clients.Settings ε) (serverV : Endpoint) :
    Clients.WriteOperationImpl ε :=
  { writingClient client with
    toOperationImpl := (writingClient client).toOperationImpl.takenUp serverV serverV }

theorem writingClient_eq (client : Clients.Settings ε) :
    writingClient client = (Clients.WriteOperationImpl.configured client).requested :=
  Clients.WriteOperationImpl.request_eq (Clients.WriteOperationImpl.idle_configured client)

theorem peerStep_writingClient
    (hserver : serverV.address = client.remote.address) {p : Packet} (hp : p.Encodable)
    (hlength : p.encode.length ≤ 516) :
    peerStep (writingClient client) (.datagram serverV p.encode) =
      (answeredWriter client serverV).received {} (.packet p) := by
  refine peerStep_answer ?_ ?_ ?_ ?_ hp ?_
  all_goals
    rw [writingClient_eq]
  iterate 3 rfl
  · exact hserver
  · exact hlength

/-- What the client is when the answer arrives. -/
theorem answeredWriter_spec (h : client.Negotiable) (serverV : Endpoint) :
    (answeredWriter client serverV).Ready serverV ∧
      (answeredWriter client serverV).actions = [] ∧
      (answeredWriter client serverV).lastReceivedBlockNumber = 0xFFFF ∧
      (answeredWriter client serverV).lastTransmittedBlockNumber = 0 ∧
      (answeredWriter client serverV).lastDataPacketTransmitted = false ∧
      (answeredWriter client serverV).optionNegotiationHandlerV = none ∧
      (answeredWriter client serverV).optionsConfigurationV = client.optionsConfiguration ∧
      (answeredWriter client serverV).transferSize = client.announced ∧
      (answeredWriter client serverV).transmitDataSize = defaultDataSize := by
  rw [answeredWriter, writingClient_eq]
  refine ⟨⟨rfl, rfl, rfl⟩, rfl, rfl, rfl, rfl, h.handler, rfl, ?_, rfl⟩
  show (if client.optionsConfiguration.handleTransferSizeOption then
    (Clients.WriteOperationImpl.configured client).announced.1 else none) = _
  rw [announced_write, Clients.Settings.announced]
  split_ifs <;> rfl

/-- **The client accepts an acknowledgement of its options**, and sends the first block. -/
theorem writingClient_accepts_options (h : client.Negotiable)
    (hserver : serverV.address = client.remote.address) {known : TftpOptions}
    (hrange : known.InRange)
    (hacc : Acceptable client.optionsConfiguration
      (client.optionsConfiguration.handleTransferSizeOption && client.announced.isSome) known)
    (hset : (known.onto SortedMap.empty).isEmpty = false)
    (hsize : ∀ size, known.transferSize = some size → client.announced = some size) :
    ∃ c data, c = peerStep (writingClient client) (.datagram serverV
        (Packet.optionsAcknowledgement (known.onto SortedMap.empty)).encode) ∧
      Replies (actions c) (.data 1 data) ∧
      c.transmitDataSize = known.blockSize.getD defaultDataSize ∧
      (∀ t, known.timeout = some t → c.receiveTimeoutV = t.toNat) := by
  have hencodable : (Packet.optionsAcknowledgement (known.onto SortedMap.empty)).Encodable :=
    ⟨hset, TftpOptions.nulFree_onto Options.nulFree_empty⟩
  obtain ⟨hready, hactions, hreceived, htransmitted, -, hhandler, hconf, hannounced, hsz⟩ :=
    answeredWriter_spec h serverV
  rw [← hconf, ← hannounced] at hacc
  rw [← hannounced] at hsize
  obtain ⟨c, hc, -, hdataSize, htimeout, size, data, hact⟩ :=
    Clients.WriteOperationImpl.optionsAcknowledgementPacket_acceptable hready hreceived hhandler
      hrange hacc hset hsize
  have hone : (answeredWriter client serverV).lastTransmittedBlockNumber.next = 1 := by
    rw [htransmitted]
    decide
  refine ⟨c, data, ?_, ?_, ?_, ?_⟩
  · rw [peerStep_writingClient hserver hencodable
      ((length_acknowledgement known).trans (by decide)), hc]
    rfl
  · have hreplies : Replies ([.sendData size data] ++
        [.send (Packet.data 1 data).encode serverV] ++ []) (.data 1 data) :=
      replies_of_eq (by simp [Action.IsCall]) (Or.inl rfl) _ _
    rw [hactions, List.nil_append, hone] at hact
    rw [Operation.actions, show (base c).actions = _ from hact]
    exact hreplies
  · rw [hdataSize, hsz]
  · intro t ht
    rw [htimeout, ht]
    rfl

/-- **The client accepts the acknowledgement of block zero**, and sends the first block. -/
theorem writingClient_accepts_zero (h : client.Negotiable)
    (hserver : serverV.address = client.remote.address) :
    ∃ c data, c = peerStep (writingClient client)
        (.datagram serverV (Packet.acknowledgement 0).encode) ∧
      Replies (actions c) (.data 1 data) ∧ c.transmitDataSize = defaultDataSize := by
  obtain ⟨hready, hactions, hreceived, htransmitted, hlast, hhandler, -, -, hsize⟩ :=
    answeredWriter_spec h serverV
  obtain ⟨-, hstep⟩ := Clients.WriteOperationImpl.steps_acknowledgementPacket hready hactions 0
  obtain ⟨⟨data, hreplies⟩, hkept⟩ := hstep.first
    (by rw [show (answeredWriter client serverV).view.received = _ from hreceived]; decide)
    htransmitted hlast hhandler
  refine ⟨_, data, rfl, ?_⟩
  rw [peerStep_writingClient hserver (p := .acknowledgement 0) trivial (by decide)]
  exact ⟨hreplies, hkept.trans hsize⟩

/-- The operation that is started for the request to write a file. -/
def writeServer (server : Servers.Settings δ) (request : ReceivedTftpRequest) :
    Servers.WriteOperationImpl δ :=
  (Servers.WriteOperationImpl.configured (server.answering request)).start {}

/-- The transfer size that the data handler of the server is told. -/
def Servers.Settings.offered (settings : Servers.Settings δ) (request : ReceivedTftpRequest) :
    Option UInt64 :=
  if settings.optionsConfiguration.handleTransferSizeOption then request.clientOptions.transferSize
  else none

/-- The options that the server of a write acknowledges. -/
def writeAcknowledged (server : Servers.Settings δ) (request : ReceivedTftpRequest) :
    TftpOptions :=
  acknowledged server.optionsConfiguration request.clientOptions (server.offered request)

/-- **The server of a write answers** with an acknowledgement of its options, or with that of
block zero if there is none. -/
theorem writeServer_answers (h : server.Negotiable) (request : ReceivedTftpRequest)
    (hsize : ∀ size, server.offered request = some size →
      (ReceiveDataHandler.receivedTransferSize (DataHandler.start server.dataHandler) size).1 =
        true) :
    ∃ s answer, s = writeServer server request ∧ Replies s.actions answer ∧
      s.phase = .waiting request.remote ∧
      s.receiveDataSize = (writeAcknowledged server request).blockSize.getD defaultDataSize ∧
      (∀ t, (writeAcknowledged server request).timeout = some t → s.receiveTimeoutV = t.toNat) ∧
      (((writeAcknowledged server request).onto SortedMap.empty).isEmpty = false ∧
          answer = .optionsAcknowledgement
            ((writeAcknowledged server request).onto SortedMap.empty) ∨
        ((writeAcknowledged server request).onto SortedMap.empty).isEmpty = true ∧
          answer = .acknowledgement 0) := by
  have hidle := Servers.WriteOperationImpl.idle_configured (server.answering request)
  have hoptions : (Servers.WriteOperationImpl.configured
      (server.answering request)).acknowledgedOptions =
        (writeAcknowledged server request).onto SortedMap.empty := by
    rw [Servers.WriteOperationImpl.acknowledgedOptions_eq, ← h.additional]
    rfl
  have hready := Servers.OperationImpl.ready_connected hidle
    (Servers.WriteOperationImpl.configured (server.answering request)).negotiatedReceiveTimeout
  obtain ⟨accepted, state, calls, heq, hcalls⟩ := hready.offerTransferSize_called
    (Servers.WriteOperationImpl.configured (server.answering request)).offeredTransferSize
  obtain rfl : accepted = true :=
    (congrArg Prod.fst heq).symm.trans (hready.offerTransferSize_accepted hsize)
  have hcalls' : ∀ a ∈ Action.start :: calls, a.IsCall := by
    rcases hcalls with rfl | ⟨n, rfl⟩ <;> simp [Action.IsCall]
  obtain ⟨-, hphase, hact, -, -, hsame⟩ := (hready.called state calls).sendAndReceive
    (Servers.WriteOperationImpl.configured (server.answering request)).firstPacket
  have hstart := Servers.WriteOperationImpl.start_eq hidle
  simp only [heq, if_true] at hstart
  refine ⟨_, (Servers.WriteOperationImpl.configured (server.answering request)).firstPacket, rfl,
    ?_, ?_, ?_, fun t ht => ?_, ?_⟩
  · have hreplies := replies_of_eq hcalls' (Or.inl rfl)
      (Servers.WriteOperationImpl.configured (server.answering request)).firstPacket request.remote
    rw [List.append_nil] at hreplies
    rw [writeServer, hstart]
    rw [OperationImpl.called_actions] at hact
    exact hact ▸ hreplies
  · rw [writeServer, hstart]
    exact hphase
  · rw [writeServer, hstart]
    rfl
  · rw [writeServer, hstart]
    have ht' : negotiatedTimeout server.optionsConfiguration request.clientOptions = some t := ht
    refine hsame.timeout.trans ?_
    show ((negotiatedTimeout server.optionsConfiguration request.clientOptions).map
      fun t : UInt8 => (t.toNat : ℤ)).getD _ = _
    rw [ht']
    rfl
  · rw [← hoptions, Servers.WriteOperationImpl.firstPacket]
    rcases (Servers.WriteOperationImpl.configured
      (server.answering request)).acknowledgedOptions.isEmpty with _ | _
    · exact Or.inl ⟨rfl, rfl⟩
    · exact Or.inr ⟨rfl, rfl⟩

omit [ReceiveDataHandler δ] in
/-- What is offered to the data handler of the server is what the client has announced. -/
theorem offered_eq_some {request : ReceivedTftpRequest}
    (hrequest : request.clientOptions = client.writeOptions) {size : UInt64}
    (h : server.offered request = some size) :
    server.optionsConfiguration.handleTransferSizeOption = true ∧
      client.announced = some size := by
  rw [Servers.Settings.offered, hrequest] at h
  split_ifs at h with hhandle
  exact ⟨hhandle, h⟩

omit [ReceiveDataHandler δ] in
/-- **What the server of a write acknowledges is acceptable** for the client that has sent the
request. -/
theorem acceptable_write (server : Servers.Settings δ)
    (htimeout : client.optionsConfiguration.TimeoutInRange)
    {request : ReceivedTftpRequest} (hrequest : request.clientOptions = client.writeOptions) :
    Acceptable client.optionsConfiguration
      (client.optionsConfiguration.handleTransferSizeOption && client.announced.isSome)
      (writeAcknowledged server request) := by
  have hexpected : (server.offered request).isSome →
      (client.optionsConfiguration.handleTransferSizeOption && client.announced.isSome) = true := by
    intro hsome
    obtain ⟨size, h⟩ := Option.isSome_iff_exists.mp hsome
    have hannounced := (offered_eq_some hrequest h).2
    rw [hannounced, Option.isSome_some, Bool.and_true]
    rw [Clients.Settings.announced] at hannounced
    split_ifs at hannounced with hhandle
    exact hhandle
  rw [writeAcknowledged, hrequest, Clients.Settings.writeOptions]
  exact acceptable_acknowledged htimeout hexpected

/-- **A write is negotiated**, unless the data handler of the server refuses the transfer
size. -/
theorem write_negotiated (hclient : client.Negotiable) (hserver : server.Negotiable)
    (clientV : Endpoint) (hserverV : serverV.address = client.remote.address)
    (hlength : (writeRequest client).encode.length ≤ 516)
    (hsize : client.optionsConfiguration.handleTransferSizeOption →
      server.optionsConfiguration.handleTransferSizeOption → ∀ size,
        (TransmitDataHandler.requestedTransferSize (DataHandler.start client.dataHandler)).1 =
          some size →
        (ReceiveDataHandler.receivedTransferSize (DataHandler.start server.dataHandler) size).1 =
          true) :
    ∃ request answer reply, Negotiated (writingClient client) (writeServer server)
      Clients.WriteOperationImpl.transmitDataSize Servers.WriteOperationImpl.receiveDataSize clientV
      serverV (writeRequest client).encode request answer reply := by
  have hrange : client.writeOptions.InRange :=
    inRange_requestedOptions hclient.blockSize hclient.timeout
  have hrequested :
      datagrams (actions (writingClient client)) = [(writeRequest client).encode] := by
    have hcalls := (Clients.WriteOperationImpl.configured client).isCall_announced
    have hreplies := replies_of_eq hcalls (Or.inl rfl) (writeRequest client) client.remote
    rw [List.append_nil, writeRequest, ← requestOptions_write hclient] at hreplies
    rw [writingClient_eq, writeRequest, ← requestOptions_write hclient]
    exact hreplies.1
  -- the request is decoded
  obtain ⟨additional, hdecoded⟩ := ServerImpl.receiveHandler_request (s := ⟨true⟩) rfl hrange
    hclient.filename client.mode clientV .write rfl hlength
  -- and answered
  obtain ⟨s, answer, rfl, hreplies, hphase, hdataSize, htimeout, hanswer⟩ :=
    writeServer_answers hserver ⟨clientV, .write, client.filename, client.mode,
      client.writeOptions, additional⟩ fun size h => by
        obtain ⟨hhandle, hannounced⟩ := offered_eq_some rfl h
        rw [Clients.Settings.announced] at hannounced
        split_ifs at hannounced with hhandle'
        exact hsize hhandle' hhandle size hannounced
  rcases hanswer with ⟨hset, rfl⟩ | ⟨hempty, rfl⟩
  · have hacc : Acceptable client.optionsConfiguration
        (client.optionsConfiguration.handleTransferSizeOption && client.announced.isSome)
        (writeAcknowledged server
          ⟨clientV, .write, client.filename, client.mode, client.writeOptions, additional⟩) :=
      acceptable_write server hclient.timeout rfl
    obtain ⟨c, data, rfl, hreplies', hdataSize', htimeout'⟩ := writingClient_accepts_options hclient
      hserverV (inRange_acknowledged hserver.blockSize hrange _)
      hacc hset (fun size h => (offered_eq_some rfl h).2)
    refine ⟨_, _, _, hrequested, hdecoded, ⟨hreplies, by rintro ⟨⟩, hphase⟩,
      ⟨hreplies', by rintro ⟨⟩⟩, hdataSize'.trans hdataSize.symm, fun hnone => ?_, fun hsome => ?_⟩
    · rw [find?_acknowledged, TftpOptions.number, Option.isSome_map] at hnone
      exact hdataSize'.trans
        (congrArg (Option.getD · defaultDataSize) (Option.not_isSome_iff_eq_none.mp hnone))
    · rw [find?_acknowledged, TftpOptions.number, Option.isSome_map] at hsome
      obtain ⟨t, ht⟩ := Option.isSome_iff_exists.mp hsome
      exact (htimeout' t ht).trans (htimeout t ht).symm
  · have hnone := (isSet_eq_false (TftpOptions.isEmpty_onto TftpOptions.lacks_empty hempty)).1
    rw [hnone] at hdataSize
    obtain ⟨c, data, rfl, hreplies', hdataSize'⟩ := writingClient_accepts_zero hclient hserverV
    exact ⟨_, _, _, hrequested, hdecoded, ⟨hreplies, by rintro ⟨⟩, hphase⟩,
      ⟨hreplies', by rintro ⟨⟩⟩, hdataSize'.trans hdataSize.symm, fun _ => hdataSize', fun h => by
        obtain ⟨options, heq, -⟩ := h
        cases heq⟩

end Write

/-! ### The two directions -/

section Directions

open Operation

/-- **Client and server agree on the options**, in both directions, unless the data handler of
the receiving side refuses the transfer size that it is told. -/
theorem options_agree (δ ε : Type) [ReceiveDataHandler δ] [TransmitDataHandler ε]
    (hkeeps : KeepsToMaxSize ε) :
    (∀ (client : Clients.Settings δ) (server : Servers.Settings ε) (clientV serverV : Endpoint),
      client.Negotiable → server.Negotiable → serverV.address = client.remote.address →
      (readRequest client).encode.length ≤ 516 →
      (client.optionsConfiguration.handleTransferSizeOption →
        server.optionsConfiguration.handleTransferSizeOption → ∀ size,
          (TransmitDataHandler.requestedTransferSize (DataHandler.start server.dataHandler)).1 =
            some size →
          (ReceiveDataHandler.receivedTransferSize (DataHandler.start client.dataHandler) size).1 =
            true) →
      ∃ request answer reply, Negotiated ((Clients.ReadOperationImpl.configured client).request {})
        (fun request =>
          (Servers.ReadOperationImpl.configured (server.answering request)).start {})
        Clients.ReadOperationImpl.receiveDataSize Servers.ReadOperationImpl.transmitDataSize
        clientV serverV (readRequest client).encode request answer reply) ∧
    (∀ (client : Clients.Settings ε) (server : Servers.Settings δ) (clientV serverV : Endpoint),
      client.Negotiable → server.Negotiable → serverV.address = client.remote.address →
      (writeRequest client).encode.length ≤ 516 →
      (client.optionsConfiguration.handleTransferSizeOption →
        server.optionsConfiguration.handleTransferSizeOption → ∀ size,
          (TransmitDataHandler.requestedTransferSize (DataHandler.start client.dataHandler)).1 =
            some size →
          (ReceiveDataHandler.receivedTransferSize (DataHandler.start server.dataHandler) size).1 =
            true) →
      ∃ request answer reply, Negotiated ((Clients.WriteOperationImpl.configured client).request {})
        (fun request =>
          (Servers.WriteOperationImpl.configured (server.answering request)).start {})
        Clients.WriteOperationImpl.transmitDataSize Servers.WriteOperationImpl.receiveDataSize
        clientV serverV (writeRequest client).encode request answer reply) :=
  ⟨fun _ _ clientV _ hclient hserver hserverV hlength hsize =>
      read_negotiated hclient hserver hkeeps clientV hserverV hlength hsize,
    fun _ _ clientV _ hclient hserver hserverV hlength hsize =>
      write_negotiated hclient hserver clientV hserverV hlength hsize⟩

/-- A client that asks for all options. -/
def askingClient : Clients.Settings MemoryFile :=
  { dataHandler := .empty, optionsConfiguration := ⟨true, some 1024, some 5⟩ }

/-- A server that acknowledges less than that. -/
def cautiousServer : Servers.Settings MemoryFile :=
  { dataHandler := .ofData [97], optionsConfiguration := ⟨true, some 512, some 3⟩ }

/-- They agree on how to read the file. -/
theorem options_agree_one_byte :
    ∃ request answer reply, Negotiated
      ((Clients.ReadOperationImpl.configured askingClient).request {})
      (fun request =>
        (Servers.ReadOperationImpl.configured (cautiousServer.answering request)).start {})
      Clients.ReadOperationImpl.receiveDataSize Servers.ReadOperationImpl.transmitDataSize
      { port := 2 } { port := 1 } (readRequest askingClient).encode request answer reply := by
  have hlength : (readRequest askingClient).encode.length ≤ 516 := by
    have hoptions : (askingClient.readOptions.onto SortedMap.empty).rawOptions.length ≤
        (Options.rawOptions SortedMap.empty).length + 53 := TftpOptions.length_rawOptions_onto
    have hnil : (Options.rawOptions SortedMap.empty).length = 0 := rfl
    have hmode : askingClient.mode.text.length = 5 := by decide
    have hfilename : askingClient.filename = [] := rfl
    rw [readRequest, Packet.encode_readRequest, List.length_append, RawData.length_setInt,
      Packet.encode.encodeRequest, hfilename, List.nil_append, List.length_cons, List.length_append,
      List.length_cons, hmode]
    omega
  refine (options_agree MemoryFile MemoryFile fun _ _ => MemoryFile.length_sendData_le).1 _ _ _ _
    ?_ ?_ rfl hlength fun _ _ _ _ => rfl
  · constructor
    · rintro b ⟨⟩
      decide
    · rintro t ⟨⟩
      decide
    · rfl
    · rfl
    · decide
  · constructor
    · rintro b ⟨⟩
      decide
    · rfl

end Directions

end Tftp
