import Tftp.Integrity
import Tftp.Meetings
import Tftp.Servers.AnyOperation

/-!
# Reads and writes among everything else

What holds of a client and one operation of the server over a network of their own
(`Tftp.intact_under_reordering`) holds of a client and a server with its port for requests, where a
request may get lost, may be repeated and may be answered by several operations, and where other
hosts send whatever they like, and read and write files of their own.

The way there is short, after `Tftp.Hosts.meeting_run`. Whoever becomes the partner of the client
takes part in a run of the two alone, and the run of the two alone is one of those that the file
survives; what the client has done is what it has done there, but for the ERROR packets to
strangers. All others that were started for it have passed nothing on. What is left is to see that
the two clients start with their request and nothing else (`Tftp.Requests`), and that the two kinds
of operations of a server open by answering the one they were started for, and nobody else
(`Tftp.Opens`).

The conditions are those of the transfer between two: fewer blocks than block numbers, since the
network is not ordered, and for a write that the server opens it with the acknowledgement of block
zero, and not of options.
-/

namespace Tftp

open Protocol Clients Servers Operation

/-! ### The two sides of a transfer -/

/-- The same transfer, with the two sides named the other way round. -/
def Transfer.swap {σ τ : Type} (t : Transfer σ τ) : Transfer τ σ where
  receiver := t.sender
  sender := t.receiver
  toReceiver := t.toSender
  toSender := t.toReceiver
  receiverActions := t.senderActions
  senderActions := t.receiverActions

/-- What happens to it. -/
def NetworkEvent.swap : NetworkEvent → NetworkEvent
  | .toReceiver index keep => .toSender index keep
  | .toSender index keep => .toReceiver index keep
  | .loseToReceiver index => .loseToSender index
  | .loseToSender index => .loseToReceiver index
  | .receiverTimeout => .senderTimeout
  | .senderTimeout => .receiverTimeout

theorem Transfer.swap_step {σ τ δ ε : Type} [DataHandler δ] [DataHandler ε] [Operation σ δ]
    [Operation τ ε] {receiverV senderV : Endpoint} (t : Transfer σ τ) (e : NetworkEvent) :
    (t.step receiverV senderV e).swap = t.swap.step senderV receiverV e.swap := by
  cases e with
  | toReceiver index keep =>
    simp only [step, NetworkEvent.swap, swap]
    cases t.toReceiver[index]? <;> rfl
  | toSender index keep =>
    simp only [step, NetworkEvent.swap, swap]
    cases t.toSender[index]? <;> rfl
  | loseToReceiver | loseToSender | receiverTimeout | senderTimeout => rfl

/-! ### How an operation of the server opens -/

/-- **What an operation of the server has done at its start**: it has answered its client. -/
structure Opens {δ : Type} (peer : Endpoint) (b : OperationImpl δ) : Prop where
  phase : b.phase = .waiting peer ∨ b.phase = .done
  sends : SendsOnlyTo peer b.actions
  deliveries_eq : deliveries b.actions = []
  unsuccessful : .finished .successful ∉ b.actions

namespace OperationImpl

variable {δ : Type} {s : OperationImpl δ} {peer : Endpoint}

theorem sendsOnlyTo_calls_send {calls : List Action} (hcalls : ∀ a ∈ calls, a.IsCall)
    (rawPacket : RawData) : SendsOnlyTo peer (calls ++ [.send rawPacket peer]) := by
  intro destination hne
  rw [sentTo_calls_append hcalls, sentTo_cons_none (by simp [Action.sentTo, hne.symm]), sentTo_nil]

/-- Sending a packet and waiting. -/
theorem Ready.opens_send [DataHandler δ] (h : s.Ready peer) (hcalls : ∀ a ∈ s.actions, a.IsCall)
    (hdeliveries : deliveries s.actions = []) (packet : Packet) :
    Opens peer ((s.send {} packet).receive {}) := by
  obtain ⟨-, hphase, hact, -, -, -⟩ := h.sendAndReceive packet
  refine ⟨Or.inl hphase, ?_, ?_, ?_⟩ <;> rw [hact]
  · exact sendsOnlyTo_calls_send hcalls _
  · rw [deliveries_append, hdeliveries]
    rfl
  · rw [finished_mem_calls_append hcalls]
    simp

/-- Sending an ERROR packet, and the end. -/
theorem Ready.opens_reject [DataHandler δ] (h : s.Ready peer) (hcalls : ∀ a ∈ s.actions, a.IsCall)
    (hdeliveries : deliveries s.actions = []) (errorCode : ErrorCode) (errorMessage : String) :
    Opens peer (s.reject {} errorCode errorMessage .transferError) := by
  obtain ⟨-, hphase, hact, -, -⟩ := h.reject errorCode errorMessage .transferError
  refine ⟨Or.inr hphase, fun destination hne => ?_, ?_, ?_⟩ <;> rw [hact]
  · rw [← List.append_assoc, sentTo_append, sendsOnlyTo_calls_send hcalls _ destination hne]
    exact sentTo_completion destination _ _
  · rw [deliveries_append, hdeliveries, deliveries_append]
    exact deliveries_completion _ _
  · rw [finished_mem_calls_append hcalls]
    cases hreports : s.completionHandlerV <;> simp [completion, Action.completion, hreports]

end OperationImpl

section Servers

variable {δ : Type}

/-- The server of a read. -/
theorem Servers.ReadOperationImpl.opens_start [TransmitDataHandler δ] {s : ReadOperationImpl δ}
    (h : s.Idle) (hactions : s.actions = []) : Opens s.remoteV (s.start {}).toOperationImpl := by
  have hready := ready_accepted h
  have hcalls : ∀ a ∈ s.accepted.actions, a.IsCall := by
    simp only [accepted, Tftp.OperationImpl.called_actions, OperationImpl.connected, hactions]
    exact s.isCall_announced
  have hdeliveries : deliveries s.accepted.actions = [] := by
    simp only [accepted, Tftp.OperationImpl.called_actions, OperationImpl.connected, hactions,
      announced]
    split <;> rfl
  rw [start_eq h]
  split_ifs
  · refine (OperationImpl.ready_connected h s.negotiatedReceiveTimeout).opens_reject ?_ ?_ _ _
    · simp [OperationImpl.connected, hactions, Action.IsCall]
    · simp [OperationImpl.connected, hactions, deliveries, Action.delivered]
  · rw [answer]
    split_ifs
    · exact hready.opens_send hcalls hdeliveries _
    · simp only [sendData, update, hready.nextData_eq]
      refine (hready.called _ _).opens_send (isCall_concat_sendData hcalls _ _) ?_ _
      rw [Tftp.OperationImpl.called_actions, deliveries_append, hdeliveries]
      rfl

/-- The server of a write. -/
theorem Servers.WriteOperationImpl.opens_start [ReceiveDataHandler δ] {s : WriteOperationImpl δ}
    (h : s.Idle) (hactions : s.actions = []) : Opens s.remoteV (s.start {}).toOperationImpl := by
  have hconnected := OperationImpl.ready_connected h s.negotiatedReceiveTimeout
  obtain ⟨accepted, state, calls, heq, hcalls⟩ :=
    hconnected.offerTransferSize_called s.offeredTransferSize
  have hact : ((OperationImpl.connected s.toOperationImpl s.negotiatedReceiveTimeout).called state
      calls).actions = .start :: calls := by
    rw [Tftp.OperationImpl.called_actions, OperationImpl.connected, hactions]
    rfl
  have hcalls' : ∀ a ∈ Action.start :: calls, a.IsCall := by
    rcases hcalls with rfl | ⟨n, rfl⟩ <;> simp [Action.IsCall]
  have hdeliveries : deliveries (Action.start :: calls) = [] := by
    rcases hcalls with rfl | ⟨n, rfl⟩ <;> rfl
  rw [← hact] at hcalls' hdeliveries
  rw [start_eq h]
  simp only [heq]
  cases accepted with
  | true => exact (hconnected.called state calls).opens_send hcalls' hdeliveries _
  | false => exact (hconnected.called state calls).opens_reject hcalls' hdeliveries _ _

end Servers

/-- **The server answers as it should**, if its operations open as they should. -/
theorem Hosts.answers_of_opens {τ δ : Type} [DataHandler δ] [PeerOperation τ δ]
    {answer : ReceivedTftpRequest → τ} (hsettled : ∀ request, (base (answer request)).Settled)
    (hopens : ∀ request : ReceivedTftpRequest, Opens request.remote (base (answer request)))
    {ports : Ports} {rawPacket : RawData} {request : ReceivedTftpRequest}
    (hreceived : (ServerImpl.mk true).receiveHandler ports.client rawPacket =
      [.requestHandler request]) :
    Answers ports rawPacket (answer request) answer where
  request := ⟨request, hreceived, rfl⟩
  bound request := ⟨hsettled request, (hopens request).phase.imp id Or.inr⟩
  sends request := (hopens request).sends
  quiet := by
    have hto := (ServerImpl.mk true).to_of_mem_receiveHandler ports.client rawPacket
    rw [hreceived] at hto
    obtain hremote : request.remote = ports.client := hto _ List.mem_cons_self
    have h := hopens request
    exact ⟨hsettled request, hremote ▸ h.phase, h.deliveries_eq, h.unsuccessful⟩

/-! ### What is carried over -/

namespace Hosts

variable {σ τ : Type}

/-- What the client of a read has got. -/
def downloaded (s : Hosts σ τ) : RawData := (deliveries s.clientActions).flatten

/-- **A file is downloaded**: the client has got a part of it, and all of it once the client, or an
operation that was started for it, has reported success; and not more than one of these has. -/
structure Downloads (ports : Ports) (file : RawData) (s : Hosts σ τ) : Prop where
  isPrefix : s.downloaded <+: file
  complete : .finished .successful ∈ s.clientActions → s.downloaded = file
  served : ∀ o ∈ s.operations, o.remote = ports.client → .finished .successful ∈ o.actions →
    s.downloaded = file
  once : ∀ (j k : ℕ) (o o' : Attended τ), s.operations[j]? = some o → s.operations[k]? = some o' →
    o.remote = ports.client → o'.remote = ports.client → .finished .successful ∈ o.actions →
    .finished .successful ∈ o'.actions → j = k

/-- **A file is uploaded**: what was started for the client has got a part of it, and all of it when
it has reported success; if the client has reported success, somebody has got all of it; and not
more than one has got anything. -/
structure Uploads (ports : Ports) (file : RawData) (s : Hosts σ τ) : Prop where
  isPrefix : ∀ o ∈ s.operations, o.remote = ports.client → (deliveries o.actions).flatten <+: file
  complete : ∀ o ∈ s.operations, o.remote = ports.client → .finished .successful ∈ o.actions →
    (deliveries o.actions).flatten = file
  stored : .finished .successful ∈ s.clientActions →
    ∃ o ∈ s.operations, o.remote = ports.client ∧ (deliveries o.actions).flatten = file
  once : ∀ (j k : ℕ) (o o' : Attended τ), s.operations[j]? = some o → s.operations[k]? = some o' →
    o.remote = ports.client → o'.remote = ports.client → deliveries o.actions ≠ [] →
    deliveries o'.actions ≠ [] → j = k

end Hosts

namespace Hosts

variable {σ τ δ ε : Type} [DataHandler δ] [DataHandler ε] [PeerOperation σ δ] [PeerOperation τ ε]
  {ports : Ports} {rawPacket : RawData} {client : σ} {operation : τ} {partner : Option ℕ}
  {s : Hosts σ τ} {file : RawData} (dataSize : ℕ)

/-- **What holds of a transfer on its own holds of the client and its partner**, if the client
receives. -/
theorem Meeting.downloads (h : Meeting ports rawPacket client operation partner s)
    (hintact : ∀ k history t, Run (Transfer.step ports.client (ports.operation k))
      (.started ports.client (ports.operation k) client operation) history t →
      t.Intact file dataSize) : s.Downloads ports file := by
  obtain ⟨k, history, t, hrun, ht, hquiet, -⟩ := h.transfer
  have hfile := hintact k history t hrun
  have hbytes : s.downloaded = t.bytes := by
    rw [downloaded, Transfer.bytes, ← deliveries_isOwn, ← ht.clientActions, deliveries_isOwn]
  -- whoever succeeds is the partner
  have hpartner : ∀ j o, s.operations[j]? = some o → o.remote = ports.client →
      .finished .successful ∈ o.actions → j = k := by
    intro j o ho hclient hsuccess
    by_contra hne
    exact (hquiet j o ho hclient hne).unsuccessful hsuccess
  refine ⟨hbytes ▸ hfile.isPrefix, fun hsuccess => ?_, fun o ho hclient hsuccess => ?_,
    fun i j o o' ho ho' hclient hclient' hsuccess hsuccess' => ?_⟩
  · rw [hbytes]
    refine hfile.complete (Or.inl ?_)
    rwa [← finished_mem_isOwn, ht.clientActions, finished_mem_isOwn]
  · obtain ⟨j, hj⟩ := List.getElem?_of_mem ho
    obtain rfl := hpartner j o hj hclient hsuccess
    rw [hbytes]
    exact hfile.complete (Or.inr ((ht.started o hj).2 ▸ hsuccess))
  · rw [hpartner i o ho hclient hsuccess, hpartner j o' ho' hclient' hsuccess']

/-- The same, if the client transmits. -/
theorem Meeting.uploads (h : Meeting ports rawPacket client operation partner s)
    (hintact : ∀ k history t, Run (Transfer.step (ports.operation k) ports.client)
      (.started (ports.operation k) ports.client operation client) history t →
      t.Intact file dataSize) : s.Uploads ports file := by
  obtain ⟨k, history, t, hrun, ht, hquiet, howns⟩ := h.transfer
  have hfile := hintact k _ t.swap
    (hrun.map (f := Transfer.swap) (g := NetworkEvent.swap) Transfer.swap_step)
  -- whoever has got anything, or succeeds, is the partner
  have hquiet' : ∀ j o, s.operations[j]? = some o → o.remote = ports.client →
      j = k ∧ (deliveries o.actions).flatten = t.swap.bytes ∧ o.actions = t.senderActions ∨
        deliveries o.actions = [] ∧ .finished .successful ∉ o.actions := by
    intro j o ho hclient
    by_cases hjk : j = k
    · subst hjk
      have hactions := (ht.started o ho).2
      exact Or.inl ⟨rfl, by rw [Transfer.bytes, hactions]; rfl, hactions⟩
    · have hq := hquiet j o ho hclient hjk
      exact Or.inr ⟨hq.deliveries_eq, hq.unsuccessful⟩
  refine ⟨fun o ho hclient => ?_, fun o ho hclient hsuccess => ?_, fun hsuccess => ?_,
    fun i j o o' ho ho' hclient hclient' hne hne' => ?_⟩
  · obtain ⟨j, hj⟩ := List.getElem?_of_mem ho
    rcases hquiet' j o hj hclient with ⟨-, hbytes, -⟩ | ⟨hnil, -⟩
    · rw [hbytes]
      exact hfile.isPrefix
    · rw [hnil]
      exact List.nil_prefix
  · obtain ⟨j, hj⟩ := List.getElem?_of_mem ho
    rcases hquiet' j o hj hclient with ⟨-, hbytes, hactions⟩ | ⟨-, hnone⟩
    · rw [hbytes]
      rw [hactions] at hsuccess
      exact hfile.complete (Or.inl hsuccess)
    · exact absurd hsuccess hnone
  · obtain ⟨o, ho, hclient⟩ := howns hsuccess
    refine ⟨o, List.mem_of_getElem? ho, hclient, ?_⟩
    have hbytes : (deliveries o.actions).flatten = t.swap.bytes := by
      rw [Transfer.bytes, (ht.started o ho).2]
      rfl
    rw [hbytes]
    refine hfile.complete (Or.inr ?_)
    rwa [Transfer.swap, ← finished_mem_isOwn, ht.clientActions, finished_mem_isOwn]
  · rcases hquiet' i o ho hclient with ⟨rfl, -⟩ | ⟨hnil, -⟩
    · rcases hquiet' j o' ho' hclient' with ⟨rfl, -⟩ | ⟨hnil, -⟩
      · rfl
      · exact absurd hnil hne'
    · exact absurd hnil hne

end Hosts

/-! ### The four operations -/

/-- **A client that has sent its request** to the server, and nothing else. -/
structure Requests {σ δ : Type} [DataHandler δ] [Operation σ δ] (server : Endpoint)
    (rawPacket : RawData) (c : σ) : Prop where
  asking : Asking server rawPacket c
  actions_eq : ∃ calls, actions c = calls ++ [.send rawPacket server] ∧ ∀ a ∈ calls, a.IsCall

section Requests

variable {σ δ : Type} [DataHandler δ] [Operation σ δ] {server : Endpoint} {rawPacket : RawData}
  {c : σ}

theorem Requests.sends (h : Requests server rawPacket c) :
    ∀ destination, ∀ rawPacket' ∈ sentTo destination (actions c),
      destination = server ∧ rawPacket' = rawPacket := by
  obtain ⟨-, calls, heq, hcalls⟩ := h
  intro destination rawPacket' hmem
  rw [heq, sentTo_calls_append hcalls] at hmem
  by_cases hserver : server = destination
  · subst hserver
    rw [sentTo_send, sentTo_nil, List.mem_singleton] at hmem
    exact ⟨rfl, hmem⟩
  · rw [sentTo_cons_none (by simp [Action.sentTo, hserver])] at hmem
    cases hmem

theorem Requests.unsuccessful (h : Requests server rawPacket c) :
    .finished .successful ∉ actions c := by
  obtain ⟨-, calls, heq, hcalls⟩ := h
  rw [heq, finished_mem_calls_append hcalls]
  simp

end Requests

section Clients

variable {δ : Type}

theorem requests_read [ReceiveDataHandler δ] {client : Clients.Settings δ}
    (h : client.Negotiable) :
    Requests client.remote (readRequest client).encode
      ((Clients.ReadOperationImpl.configured client).request {}) := by
  have hset := (Clients.ReadOperationImpl.started_request
    (Clients.ReadOperationImpl.idle_configured client) rfl).settled
  have heq := Clients.ReadOperationImpl.request_eq
    (Clients.ReadOperationImpl.idle_configured client)
  rw [requestOptions_read h] at heq
  rw [heq] at hset ⊢
  exact ⟨⟨⟨hset, Or.inl rfl⟩, rfl, rfl⟩, [.start], rfl, by simp [Action.IsCall]⟩

theorem requests_write [TransmitDataHandler δ] {client : Clients.Settings δ}
    (h : client.Negotiable) :
    Requests client.remote (writeRequest client).encode
      ((Clients.WriteOperationImpl.configured client).request {}) := by
  have hset := (Clients.WriteOperationImpl.started_request
    (Clients.WriteOperationImpl.idle_configured client) rfl).settled
  have heq := Clients.WriteOperationImpl.request_eq
    (Clients.WriteOperationImpl.idle_configured client)
  rw [Clients.WriteOperationImpl.requested, requestOptions_write h] at heq
  rw [heq] at hset ⊢
  exact ⟨⟨⟨hset, Or.inl rfl⟩, rfl, rfl⟩, _, rfl,
    (Clients.WriteOperationImpl.configured client).isCall_announced⟩

end Clients

section Servers

variable {δ : Type} [File δ] (requestHandler : ReceivedTftpRequest → Servers.Settings δ)
  (request : ReceivedTftpRequest)

theorem Servers.settled_answer : (base (answer requestHandler request)).Settled := by
  rw [answer]
  cases request.requestType with
  | read =>
    exact (ReadOperationImpl.started_start (ReadOperationImpl.idle_configured _) rfl).settled
  | write =>
    exact (WriteOperationImpl.started_start (WriteOperationImpl.idle_configured _) rfl).settled

theorem Servers.opens_answer : Opens request.remote (base (answer requestHandler request)) := by
  rw [answer]
  cases request.requestType with
  | read =>
    exact ReadOperationImpl.opens_start
      (ReadOperationImpl.idle_configured ((requestHandler request).answering request)) rfl
  | write =>
    exact WriteOperationImpl.opens_start
      (WriteOperationImpl.idle_configured ((requestHandler request).answering request)) rfl

end Servers

/-- **A file is downloaded among everything else**: over an unordered network, where the request
may be repeated and answered by several operations, and other hosts send whatever they like. -/
theorem read_among_others (δ : Type) [ReceiveDataHandler δ] (client : Clients.Settings δ)
    (requestHandler : ReceivedTftpRequest → Servers.Settings MemoryFile)
    (server : Servers.Settings MemoryFile) (ports : Ports) (hclient : client.Negotiable)
    (hserver : server.optionsConfiguration.BlockSizeInRange)
    (hadd : server.additionalNegotiatedOptions.Unobtrusive)
    (hsource : server.dataHandler.operationV = .transmit) (hremote : client.remote = ports.server)
    (hserves : ∀ request, request.requestType = .read → request.filename = client.filename →
      requestHandler request = server)
    (hlength : (readRequest client).encode.length ≤ defaultMaxPacketSize.toNat)
    (hsmall : lastBlock server.dataHandler.dataV
      (negotiatedDataSize server.optionsConfiguration client.readOptions).toNat < 65535)
    (history : List (Transition (Hosts (Clients.ReadOperationImpl δ)
      (AnyOperation MemoryFile)) HostsEvent))
    (s : Hosts (Clients.ReadOperationImpl δ) (AnyOperation MemoryFile))
    (hrun : Run (Hosts.step ports (answer requestHandler))
      (.started ports ((Clients.ReadOperationImpl.configured client).request {})) history s)
    (hhonest : ∀ t ∈ history, t.event.Honest ports) (hdistinct : s.PortsDistinct ports) :
    s.Downloads ports server.dataHandler.dataV := by
  have hrequests := requests_read hclient
  obtain ⟨additional, hreceived⟩ := ServerImpl.receiveHandler_request (s := ⟨true⟩) rfl
    (inRange_requestedOptions hclient.blockSize hclient.timeout) hclient.filename client.mode
    ports.client .read rfl hlength
  rw [hremote] at hrequests
  have hanswers := Hosts.answers_of_opens (settled_answer requestHandler)
    (opens_answer requestHandler) hreceived
  obtain ⟨partner, hmeeting⟩ := Hosts.meeting_run hrequests.asking hrequests.unsuccessful
    hrequests.sends hanswers hrun hhonest hdistinct
  refine hmeeting.downloads
    (negotiatedDataSize server.optionsConfiguration client.readOptions).toNat
    fun k history t hrun => ?_
  rw [answer, hserves _ rfl rfl] at hrun
  obtain ⟨history', t', hrun', hsame⟩ := hrun.simulate
    (exchangeable_refl.exchanged_started AnyOperation.exchangeable_read rfl rfl)
    fun _ _ e h => h.step exchangeable_refl AnyOperation.exchangeable_read e
  refine (hsame.intact_iff _ _).mpr ?_
  refine read_intact client server
    ⟨ports.client, .read, client.filename, client.mode, client.readOptions, additional⟩
    (ports.operation k) hclient.blockSize hclient.timeout hserver hadd hsource rfl
    ((ports.address k).trans (congrArg _ hremote.symm)) (hremote ▸ ports.operation_ne_server k) ?_
    hrun'
  exact hsmall

/-- A client on one host, and a server with its operations on another. -/
def smallPorts : Ports where
  client := ⟨.v4 1, 2⟩
  server := {}
  operation k := { port := if k = 0 then 3 else if k = 1 then 4 else 5 }
  address _ := rfl
  operation_ne_server k := by split_ifs <;> decide
  client_ne_server := by decide
  client_ne_operation k := by split_ifs <;> decide

theorem portsDistinct_small {σ τ : Type} {s : Hosts σ τ} (h : s.operations.length = 3) :
    s.PortsDistinct smallPorts := by
  have hports : ∀ j < 3, ∀ k < 3, smallPorts.operation j = smallPorts.operation k → j = k := by
    decide
  intro j hj k hk
  rw [h] at hj hk
  exact hports j hj k hk

/-- A server with a file to be read, and with room for others. -/
def smallRequestHandler (request : ReceivedTftpRequest) : Servers.Settings MemoryFile :=
  match request.requestType with
  | .read => smallSource
  | .write => smallSink

/-- A WRQ of somebody else. -/
def foreignWriteRequest : Datagram :=
  ⟨⟨.v4 9, 9⟩, {}, [0, 2, 102, 0, 111, 99, 116, 101, 116, 0]⟩

/-- The request arrives twice, and the answer of the second operation arrives first. Somebody else
sends to the client, and writes to the server. -/
def contestedRead :
    List (Transition (Hosts (Clients.ReadOperationImpl MemoryFile) (AnyOperation MemoryFile))
      HostsEvent) × Hosts (Clients.ReadOperationImpl MemoryFile) (AnyOperation MemoryFile) :=
  replay (Hosts.step smallPorts (answer smallRequestHandler))
    (.started smallPorts ((Clients.ReadOperationImpl.configured smallReader).request {}))
    [.deliver 0 {}, .deliver 0 {}, .foreign ⟨⟨.v4 9, 9⟩, ⟨.v4 1, 2⟩, [0, 3, 0, 1, 7]⟩,
      .deliver 3 {}, .deliver 2 {}, .deliver 1 {}, .deliver 5 {}, .deliver 6 {}, .deliver 7 {},
      .foreign foreignWriteRequest, .deliver 9 {}, .deliver 8 {}, .deliver 11 {}, .clientTimeout]

/-- The client reads the file from the second operation. -/
theorem read_among_others_second_operation :
    contestedRead.2.Downloads smallPorts [97, 98, 99, 100, 101, 102, 103, 104, 105] ∧
      .finished .successful ∈ contestedRead.2.clientActions ∧
      contestedRead.2.operations.map (fun o => decide (.finished .successful ∈ o.actions)) =
        [false, true, false] := by
  refine ⟨read_among_others MemoryFile smallReader smallRequestHandler smallSource smallPorts
    ?_ ?_ Options.unobtrusive_empty rfl rfl (fun request h _ => ?_) (by decide) (by decide) _ _
    (Run.of_replay _ _ _) (Run.forall_replay ?_) ?_, by decide⟩
  · refine ⟨?_, ?_, rfl, rfl, by decide⟩
    · rintro b ⟨⟩
      decide
    · rintro t ⟨⟩
  · rintro b ⟨⟩
    decide
  · rw [smallRequestHandler, h]
  · simp [HostsEvent.Honest, smallPorts, foreignWriteRequest]
  · exact portsDistinct_small (by decide)

/-- **A file is uploaded among everything else**, likewise, if the server acknowledges no
options. -/
theorem write_among_others (δ : Type) [File δ] (client : Clients.Settings MemoryFile)
    (requestHandler : ReceivedTftpRequest → Servers.Settings δ) (server : Servers.Settings δ)
    (ports : Ports) (hclient : client.Negotiable)
    (hserver : server.optionsConfiguration.BlockSizeInRange)
    (hadd : server.additionalNegotiatedOptions.Unobtrusive)
    (hsource : client.dataHandler.operationV = .transmit) (hremote : client.remote = ports.server)
    (hserves : ∀ request, request.requestType = .write → request.filename = client.filename →
      requestHandler request = server)
    (hlength : (writeRequest client).encode.length ≤ defaultMaxPacketSize.toNat)
    (hplain : ∀ request : ReceivedTftpRequest, request.clientOptions = client.writeOptions →
      (writeAnswer server request).isEmpty)
    (hsmall : lastBlock client.dataHandler.dataV
      (negotiatedDataSize server.optionsConfiguration client.writeOptions).toNat < 65535)
    (history : List (Transition (Hosts (Clients.WriteOperationImpl MemoryFile)
      (AnyOperation δ)) HostsEvent))
    (s : Hosts (Clients.WriteOperationImpl MemoryFile) (AnyOperation δ))
    (hrun : Run (Hosts.step ports (answer requestHandler))
      (.started ports ((Clients.WriteOperationImpl.configured client).request {})) history s)
    (hhonest : ∀ t ∈ history, t.event.Honest ports) (hdistinct : s.PortsDistinct ports) :
    s.Uploads ports client.dataHandler.dataV := by
  have hrequests := requests_write hclient
  obtain ⟨additional, hreceived⟩ := ServerImpl.receiveHandler_request (s := ⟨true⟩) rfl
    (inRange_requestedOptions hclient.blockSize hclient.timeout) hclient.filename client.mode
    ports.client .write rfl hlength
  rw [hremote] at hrequests
  have hanswers := Hosts.answers_of_opens (settled_answer requestHandler)
    (opens_answer requestHandler) hreceived
  obtain ⟨partner, hmeeting⟩ := Hosts.meeting_run hrequests.asking hrequests.unsuccessful
    hrequests.sends hanswers hrun hhonest hdistinct
  refine hmeeting.uploads
    (negotiatedDataSize server.optionsConfiguration client.writeOptions).toNat
    fun k history t hrun => ?_
  rw [answer, hserves _ rfl rfl] at hrun
  obtain ⟨history', t', hrun', hsame⟩ := hrun.simulate
    (AnyOperation.exchangeable_write.exchanged_started exchangeable_refl rfl rfl)
    fun _ _ e h => h.step AnyOperation.exchangeable_write exchangeable_refl e
  refine (hsame.intact_iff _ _).mpr ?_
  refine write_intact client server
    ⟨ports.client, .write, client.filename, client.mode, client.writeOptions, additional⟩
    (ports.operation k) hclient.blockSize hclient.timeout hserver hadd hsource
    (by rw [hclient.handler]; rintro g ⟨⟩) rfl
    ((ports.address k).trans (congrArg _ hremote.symm)) (hremote ▸ ports.operation_ne_server k)
    (hplain _ rfl) ?_ hrun'
  exact hsmall

/-- The request arrives twice, and the answer of the second operation arrives first. Somebody else
writes, too. -/
def contestedWrite :
    List (Transition (Hosts (Clients.WriteOperationImpl MemoryFile) (AnyOperation MemoryFile))
      HostsEvent) × Hosts (Clients.WriteOperationImpl MemoryFile) (AnyOperation MemoryFile) :=
  replay (Hosts.step smallPorts (answer smallRequestHandler))
    (.started smallPorts ((Clients.WriteOperationImpl.configured plainWriter).request {}))
    [.deliver 0 {}, .deliver 0 {}, .deliver 2 {}, .deliver 1 {}, .operationTimeout 0,
      .foreign foreignWriteRequest, .deliver 5 {}, .deliver 3 {}, .deliver 7 {},
      .operationTimeout 1]

/-- The client writes the file to the second operation. -/
theorem write_among_others_second_operation :
    contestedWrite.2.Uploads smallPorts [97] ∧
      .finished .successful ∈ contestedWrite.2.clientActions ∧
      contestedWrite.2.operations.map (fun o => (deliveries o.actions).flatten) =
        [[], [97], []] := by
  refine ⟨write_among_others MemoryFile plainWriter smallRequestHandler smallSink smallPorts
    ?_ ?_ Options.unobtrusive_empty rfl rfl (fun request h _ => ?_) (by decide) ?_ (by decide) _ _
    (Run.of_replay _ _ _) (Run.forall_replay ?_) ?_, by decide⟩
  · refine ⟨?_, ?_, rfl, rfl, by decide⟩
    · rintro b ⟨⟩
    · rintro t ⟨⟩
  · rintro b ⟨⟩
    decide
  · rw [smallRequestHandler, h]
  · rintro request hrequest
    rw [writeAnswer, writeAcknowledged, hrequest]
    rfl
  · simp [HostsEvent.Honest, smallPorts, foreignWriteRequest]
  · exact portsDistinct_small (by decide)

end Tftp
