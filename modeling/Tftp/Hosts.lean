import Tftp.Clients.GracefulAbort
import Tftp.Lockstep
import Tftp.Servers.ServerImpl

/-!
# A client, a server, and everybody else

A transfer begins with a request to the port of the server. What answers is an operation with a
port of its own, and whichever operation the client hears first is the one it talks to from then
on. A request may be repeated, by the client or by the network, and each time it arrives another
operation is started for it; and other hosts may send to anybody whatever they like, requests
included.

All this is one system (`Tftp.Hosts`): a client, the operations that a server has started, in the
order in which it has started them, and the datagrams under way, each with its two ends. What can
happen in it (`Tftp.HostsEvent`) is that a datagram is delivered, and stays, so that it may be
delivered again and in any order; that it gets lost; that a timer expires; and that another host
sends something. A datagram for the port of the server goes to its listening part
(`Tftp.Servers.ServerImpl.receiveHandler`), and what the request handler does with a request is a
parameter of the system; one for the port of an operation goes to that operation. An operation
that has a peer is connected to it, and the operating system does not let through what comes from
anywhere else.

Nothing is known of the network but that it does not change datagrams, and that nobody else uses the
addresses of the client and of the server (`Tftp.HostsEvent.Honest`). That no port of the server is
given to two operations is not built into the system; it is asked of a run
(`Tftp.Hosts.PortsDistinct`).

What a single operation does in such a company is settled here, too: one that has a peer stays with
it (`Tftp.Bound`), and one that never hears of its peer achieves nothing (`Tftp.Quiet`).
-/

namespace Tftp

open Protocol Clients Servers Operation

/-- A datagram under way. -/
structure Datagram where
  source : Endpoint
  destination : Endpoint
  rawPacket : RawData
  deriving DecidableEq

/-- The datagram that an action sends from the given port. -/
def Action.datagram (source : Endpoint) : Action → Option Datagram
  | .send rawPacket destination | .resend rawPacket destination
  | .sendUnknown rawPacket destination => some ⟨source, destination, rawPacket⟩
  | _ => none

/-- The datagrams that are sent from the given port. -/
def datagramsFrom (source : Endpoint) (actions : List Action) : List Datagram :=
  actions.filterMap (Action.datagram source)

theorem mem_datagramsFrom {source : Endpoint} {actions : List Action} {d : Datagram} :
    d ∈ datagramsFrom source actions ↔
      d.source = source ∧ d.rawPacket ∈ sentTo d.destination actions := by
  simp only [datagramsFrom, sentTo, List.mem_filterMap]
  constructor
  · rintro ⟨a, ha, hd⟩
    cases a <;> cases hd <;> exact ⟨rfl, _, ha, if_pos rfl⟩
  · rintro ⟨rfl, a, ha, hd⟩
    refine ⟨a, ha, ?_⟩
    cases a with
    | send rawPacket destination | resend rawPacket destination
    | sendUnknown rawPacket destination =>
      rw [Action.sentTo] at hd
      split_ifs at hd with hdestination
      rw [Action.datagram, hdestination, Option.some.inj hd]
    | start | requestedTransferSize | receivedTransferSize | sendData | receivedData
    | optionNegotiation | finished | completionHandler | exception => cases hd

/-- **The ports of a client and of a server**, which has one for requests, and one for each of its
operations. -/
structure Ports where
  client : Endpoint
  /-- Where requests are sent to. -/
  server : Endpoint
  /-- The port of each operation of the server, in the order in which they are started. -/
  operation : ℕ → Endpoint
  address : ∀ k, (operation k).address = server.address
  operation_ne_server : ∀ k, operation k ≠ server
  client_ne_server : client ≠ server
  client_ne_operation : ∀ k, client ≠ operation k

/-- Which of the first `n` operations has the given port. -/
def Ports.index (ports : Ports) (n : ℕ) (port : Endpoint) : Option ℕ :=
  (List.range n).find? fun k => ports.operation k = port

theorem Ports.operation_of_index {ports : Ports} {n k : ℕ} {port : Endpoint}
    (h : ports.index n port = some k) : ports.operation k = port := by
  simpa using List.find?_some h

/-- An operation of the server, for whom it was started, and all that it has done. -/
structure Attended (τ : Type) where
  remote : Endpoint
  operation : τ
  actions : List Action

/-- **A client, the operations of a server, and the datagrams under way.** -/
structure Hosts (σ τ : Type) where
  client : σ
  /-- All that the client has done. -/
  clientActions : List Action
  /-- The operations of the server, in the order in which they were started. -/
  operations : List (Attended τ)
  inFlight : List Datagram

/-- No port of the server is used by two operations. -/
def Hosts.PortsDistinct {σ τ : Type} (ports : Ports) (s : Hosts σ τ) : Prop :=
  Set.InjOn ports.operation (Set.Iio s.operations.length)

/-- What the network, the timers and the other hosts do. -/
inductive HostsEvent where
  /-- A datagram arrives, and may arrive again. An ERROR packet that the server itself answers
  with is sent from the given port. -/
  | deliver (index : ℕ) (port : Endpoint)
  /-- A datagram gets lost. -/
  | lose (index : ℕ)
  /-- The timer of the client expires. -/
  | clientTimeout
  /-- The timer of an operation of the server expires. -/
  | operationTimeout (index : ℕ)
  /-- Another host sends something. -/
  | foreign (datagram : Datagram)

/-- **Nobody pretends** to be the client or the server. -/
def HostsEvent.Honest (ports : Ports) : HostsEvent → Prop
  | .deliver _ port => port ≠ ports.client
  | .foreign d => d.source ≠ ports.client ∧ d.source.address ≠ ports.server.address
  | _ => True

namespace Hosts

section Step

variable {σ τ δ ε : Type} [DataHandler δ] [DataHandler ε] [Operation σ δ] [Operation τ ε]
  (ports : Ports) (answer : ReceivedTftpRequest → τ)

/-- The client has sent its request. -/
def started (client : σ) : Hosts σ τ where
  client := client
  clientActions := actions client
  operations := []
  inFlight := datagramsFrom ports.client (actions client)

/-- The client reacts. -/
def clientReacts (s : Hosts σ τ) (e : PeerEvent) : Hosts σ τ :=
  let client := peerStep s.client e
  { s with
    client := client
    clientActions := s.clientActions ++ actions client
    inFlight := s.inFlight ++ datagramsFrom ports.client (actions client) }

/-- An operation of the server reacts. -/
def operationReacts (s : Hosts σ τ) (k : ℕ) (e : PeerEvent) : Hosts σ τ :=
  match s.operations[k]? with
  | none => s
  | some o =>
      let operation := peerStep o.operation e
      { s with
        operations := s.operations.set k ⟨o.remote, operation, o.actions ++ actions operation⟩
        inFlight := s.inFlight ++ datagramsFrom (ports.operation k) (actions operation) }

/-- The server starts the operation that the request handler answers a request with, or sends an
ERROR packet from the given port. -/
def serverReacts (port : Endpoint) (s : Hosts σ τ) : ServerAction → Hosts σ τ
  | .requestHandler request =>
      let operation := answer request
      { s with
        operations := s.operations ++ [⟨request.remote, operation, actions operation⟩]
        inFlight := s.inFlight ++
          datagramsFrom (ports.operation s.operations.length) (actions operation) }
  | .errorOperation remote errorCode errorMessage =>
      { s with
        inFlight := s.inFlight ++ [⟨port, remote, (Packet.error errorCode errorMessage).encode⟩] }
  | .badFunctionCall => s

/-- A datagram arrives. -/
def arrive (s : Hosts σ τ) (d : Datagram) (port : Endpoint) : Hosts σ τ :=
  if d.destination = ports.client then s.clientReacts ports (.datagram d.source d.rawPacket)
  else if d.destination = ports.server then
    ((ServerImpl.mk true).receiveHandler d.source d.rawPacket).foldl
      (serverReacts ports answer port) s
  else
    match ports.index s.operations.length d.destination with
    | none => s
    | some k => s.operationReacts ports k (.datagram d.source d.rawPacket)

/-- One event. -/
def step (s : Hosts σ τ) : HostsEvent → Hosts σ τ
  | .deliver index port =>
      match s.inFlight[index]? with
      | none => s
      | some d => s.arrive ports answer d port
  | .lose index => { s with inFlight := s.inFlight.eraseIdx index }
  | .clientTimeout => s.clientReacts ports .timeout
  | .operationTimeout index => s.operationReacts ports index .timeout
  | .foreign d => { s with inFlight := s.inFlight ++ [d] }

/-! #### Operations are not forgotten -/

theorem length_operationReacts (s : Hosts σ τ) (k : ℕ) (e : PeerEvent) :
    (s.operationReacts ports k e).operations.length = s.operations.length := by
  rw [operationReacts]
  cases s.operations[k]? with
  | none => rfl
  | some o => exact List.length_set

theorem length_le_serverReacts (port : Endpoint) (s : Hosts σ τ) (a : ServerAction) :
    s.operations.length ≤ (s.serverReacts ports answer port a).operations.length := by
  cases a with
  | requestHandler request =>
    rw [serverReacts, List.length_append]
    exact Nat.le_add_right _ _
  | errorOperation | badFunctionCall => exact le_rfl

theorem length_le_foldl_serverReacts (port : Endpoint) (l : List ServerAction) (s : Hosts σ τ) :
    s.operations.length ≤ (l.foldl (serverReacts ports answer port) s).operations.length := by
  induction l generalizing s with
  | nil => exact le_rfl
  | cons a l ih => exact (length_le_serverReacts ports answer port s a).trans (ih _)

theorem length_le_step (s : Hosts σ τ) (e : HostsEvent) :
    s.operations.length ≤ (s.step ports answer e).operations.length := by
  cases e with
  | deliver index port =>
    rw [step]
    cases s.inFlight[index]? with
    | none => exact le_rfl
    | some d =>
      simp only [arrive]
      split_ifs
      · exact le_rfl
      · exact length_le_foldl_serverReacts ports answer port _ s
      · cases ports.index s.operations.length d.destination with
        | none => exact le_rfl
        | some k => exact (length_operationReacts ports s k _).ge
  | operationTimeout index => exact (length_operationReacts ports s index .timeout).ge
  | lose | clientTimeout | foreign => exact le_rfl

variable {ports} in
theorem PortsDistinct.mono {s s' : Hosts σ τ} (h : s'.PortsDistinct ports)
    (hle : s.operations.length ≤ s'.operations.length) : s.PortsDistinct ports :=
  Set.InjOn.mono (Set.Iio_subset_Iio hle) h

end Step

end Hosts

/-! ### Operations that have a peer -/

/-- An operation whose packet handlers leave the endpoints alone. -/
class SteadyOperation (σ : Type) (δ : outParam Type) [DataHandler δ] [Operation σ δ] : Prop where
  received_moored : ∀ (s : σ) r, (base s).Moored (base (received s {} r))

section Steady

variable {δ : Type}

instance instSteadyClient {σ : Type} [DataHandler δ] [Operation σ δ] [MooredClient σ δ] :
    SteadyOperation σ δ where
  received_moored s r := MooredClient.received_moored s {} r

instance instSteadyReadOperation [TransmitDataHandler δ] :
    SteadyOperation (Servers.ReadOperationImpl δ) δ where
  received_moored _ r :=
    Servers.ReadOperationImpl.received_respected (OperationImpl.senderRespected_moored none) r

instance instSteadyWriteOperation [ReceiveDataHandler δ] :
    SteadyOperation (Servers.WriteOperationImpl δ) δ where
  received_moored _ r :=
    Servers.WriteOperationImpl.received_respected (OperationImpl.receiverRespected_moored none) r

end Steady

/-- **An operation that talks to one peer only**, or is over. -/
structure Bound {δ : Type} (peer : Endpoint) (b : OperationImpl δ) : Prop where
  settled : b.Settled
  phase : b.phase = .waiting peer ∨ b.phase = .dallying peer ∨ b.phase = .done

/-- Nobody but the peer is sent anything. -/
def SendsOnlyTo (peer : Endpoint) (actions : List Action) : Prop :=
  ∀ destination, destination ≠ peer → sentTo destination actions = []

section Binding

variable {σ δ : Type} {peer source : Endpoint}

theorem sendsOnlyTo_nil : SendsOnlyTo peer [] := fun _ _ => rfl

theorem sendsOnlyTo_resend (rawPacket : RawData) :
    SendsOnlyTo peer [.resend rawPacket peer] := fun destination hne => by
  rw [sentTo_resend_ne hne.symm, sentTo_nil]

theorem sendsOnlyTo_completion (reports : Bool) (status : TransferStatus) :
    SendsOnlyTo peer (Action.completion reports status) := fun destination _ =>
  sentTo_completion destination reports status

/-- What a packet makes an operation do is heard by nobody but its source. -/
theorem Handled.sendsOnlyTo {b b' : OperationImpl δ} {r : Received}
    {calls sends report : List Action} (h : Handled b b' peer r calls sends report) :
    SendsOnlyTo peer b'.actions := by
  intro destination hne
  have hsends : sentTo destination sends = [] := by
    have hsent := h.sent
    generalize b'.transmitPacketV = packet, b'.transmitCounterV = counter at hsent
    cases hsent with
    | nothing => rfl
    | packet p => exact sentTo_cons_none (by simp [Action.sentTo, hne.symm]) []
  have hreport : sentTo destination report = [] := by
    rcases h.reported with ⟨rfl, -⟩ | ⟨status, rfl, -⟩
    · rfl
    · exact sentTo_completion destination _ status
  rw [h.actions_eq, List.append_assoc, sentTo_calls_append h.calls_only, sentTo_append, hsends,
    hreport]
  rfl

/-- An operation whose socket is connected to its peer, or closed. -/
theorem bound_of_socket {b : OperationImpl δ} (hset : b.Settled)
    (hsock : b.socketV = .connected peer ∨ b.socketV = .closed) : Bound peer b := by
  refine ⟨hset, ?_⟩
  obtain ⟨-, hshape⟩ := hset
  rcases hsock with hsock | hsock
  · rw [hsock] at hshape
    obtain ⟨-, d, htimer | htimer⟩ := hshape
    · exact Or.inl (OperationImpl.phase_waiting hsock htimer)
    · exact Or.inr (Or.inl (OperationImpl.phase_dallying hsock htimer))
  · exact Or.inr (Or.inr (OperationImpl.phase_closed hsock))

variable [DataHandler δ] [PeerOperation σ δ] [SteadyOperation σ δ] {s : σ}

/-- **Whoever is listened to becomes the peer**, and is the only one to be answered. -/
theorem bound_admitted (hset : (base s).Settled) (hadmits : (base s).phase.admits source)
    (rawPacket : RawData) : Bound source (base (peerStep s (.datagram source rawPacket))) ∧
      SendsOnlyTo source (actions (peerStep s (.datagram source rawPacket))) := by
  obtain ⟨lastEndpoint, hready, heq⟩ := peerStep_admitted hset hadmits rawPacket
  rw [heq]
  obtain ⟨calls, sends, report, hhandled⟩ := PeerOperation.received_handled
    (withBase s ((base s).takenUp source lastEndpoint)) source
    (PacketHandler.packet (rawPacket.take (base s).receivePacketV))
    (by rw [base_withBase]; exact hready) (by rw [base_withBase]; rfl)
  have hmoored := SteadyOperation.received_moored
    (withBase s ((base s).takenUp source lastEndpoint))
    (PacketHandler.packet (rawPacket.take (base s).receivePacketV))
  rw [base_withBase] at hmoored
  refine ⟨bound_of_socket hhandled.settled ?_, hhandled.sendsOnlyTo⟩
  rw [← hready.connected]
  exact hmoored.socket

/-- **A peer is kept**, and nobody else is talked to. -/
theorem Bound.peerStep (h : Bound peer (base s)) (e : PeerEvent) :
    Bound peer (base (peerStep s e)) ∧ SendsOnlyTo peer (actions (Operation.peerStep s e)) := by
  have hset := (outcome h.settled e).settled h.settled
  have hreaction := reaction h.settled e
  generalize hs' : Operation.peerStep s e = s' at hreaction hset ⊢
  rw [Operation.actions]
  cases hreaction with
  | idle =>
    rw [base_withBase] at hset ⊢
    exact ⟨⟨hset, h.phase⟩, sendsOnlyTo_nil⟩
  | foreign server source rawPacket hphase =>
    have hp := h.phase
    rw [hphase] at hp
    rcases hp with hp | hp | hp <;> cases hp
  | resend destination hphase =>
    have hdestination : destination = peer := by
      have hp := h.phase
      rcases hphase with ⟨⟨server, hphase⟩, -⟩ | hphase <;> rw [hphase] at hp
      · rcases hp with hp | hp | hp <;> cases hp
      · rcases hp with hp | hp | hp <;> cases hp
        rfl
    rw [base_withBase] at hset ⊢
    refine ⟨⟨hset, ?_⟩, ?_⟩
    · rw [OperationImpl.phase_resent]
      exact h.phase
    · rw [hdestination]
      exact sendsOnlyTo_resend _
  | expire | dallied =>
    rw [base_withBase] at hset ⊢
    exact ⟨⟨hset, Or.inr (Or.inr rfl)⟩, sendsOnlyTo_completion _ _⟩
  | received source lastEndpoint rawPacket hadmits =>
    obtain rfl : source = peer := by
      have hp := h.phase
      rcases hp with hp | hp | hp <;> rw [hp] at hadmits
      · exact hadmits
      · exact hadmits
      · exact hadmits.elim
    rw [← Operation.actions, ← hs']
    exact bound_admitted h.settled hadmits rawPacket

omit [SteadyOperation σ δ] in
/-- What does not come from the peer is not noticed. -/
theorem Bound.refuses (h : Bound peer (base s)) (hsource : source ≠ peer) (rawPacket : RawData) :
    Operation.peerStep s (.datagram source rawPacket) = withBase s (base s).cleared := by
  obtain ⟨halive, hshape⟩ := h.settled
  refine peerStep_unaccepted halive ?_ rawPacket
  cases hsock : (base s).socketV with
  | closed => rfl
  | opened =>
    have hp := h.phase
    rw [OperationImpl.phase_opened hsock] at hp
    rcases hp with hp | hp | hp <;> cases hp
  | connected peer' =>
    rw [hsock] at hshape
    have hp := h.phase
    have hsame : peer' = peer := by
      obtain ⟨-, d, htimer | htimer⟩ := hshape
      · rw [OperationImpl.phase_waiting hsock htimer] at hp
        rcases hp with hp | hp | hp <;> cases hp
        rfl
      · rw [OperationImpl.phase_dallying hsock htimer] at hp
        rcases hp with hp | hp | hp <;> cases hp
        rfl
    rw [hsame]
    simpa [Socket.accepts] using hsource

end Binding

/-! ### Operations that nobody answers -/

/-- An event that brings nothing of the given peer. -/
def PeerEvent.Without (peer : Endpoint) : PeerEvent → Prop
  | .datagram source _ => source ≠ peer
  | .timeout => True

/-- **An operation of the server that has not heard of its client**: it has passed nothing on, and
has not reported success. -/
structure Quiet {τ δ : Type} [DataHandler δ] [Operation τ δ] (peer : Endpoint) (o : Attended τ) :
    Prop where
  settled : (base o.operation).Settled
  phase : (base o.operation).phase = .waiting peer ∨ (base o.operation).phase = .done
  deliveries_eq : deliveries o.actions = []
  unsuccessful : .finished .successful ∉ o.actions

theorem Quiet.peerStep {τ δ : Type} [DataHandler δ] [PeerOperation τ δ] {peer : Endpoint}
    {o : Attended τ} (h : Quiet peer o) {e : PeerEvent} (he : e.Without peer) :
    Quiet peer ⟨o.remote, peerStep o.operation e,
      o.actions ++ actions (Operation.peerStep o.operation e)⟩ := by
  have hset := (outcome h.settled e).settled h.settled
  have hreaction := reaction h.settled e
  suffices hsilent : ((base (Operation.peerStep o.operation e)).phase = .waiting peer ∨
      (base (Operation.peerStep o.operation e)).phase = .done) ∧
      deliveries (actions (Operation.peerStep o.operation e)) = [] ∧
      .finished .successful ∉ actions (Operation.peerStep o.operation e) by
    obtain ⟨hphase, hdeliveries, hsuccess⟩ := hsilent
    refine ⟨hset, hphase, ?_, fun hmem => ?_⟩
    · rw [deliveries_append, h.deliveries_eq, hdeliveries]
      rfl
    · exact (List.mem_append.mp hmem).elim h.unsuccessful hsuccess
  generalize Operation.peerStep o.operation e = s' at hreaction
  rw [Operation.actions]
  cases hreaction with
  | idle =>
    rw [base_withBase]
    exact ⟨h.phase, rfl, by rintro ⟨⟩⟩
  | foreign server source rawPacket hphase =>
    have hp := h.phase
    rw [hphase] at hp
    rcases hp with hp | hp <;> cases hp
  | resend =>
    rw [base_withBase, OperationImpl.phase_resent]
    exact ⟨h.phase, rfl, by simp [OperationImpl.resent, OperationImpl.cleared]⟩
  | expire =>
    rw [base_withBase]
    refine ⟨Or.inr rfl, deliveries_completion _ _, ?_⟩
    cases hreports : (base o.operation).completionHandlerV <;>
      simp [OperationImpl.completed, OperationImpl.cleared, OperationImpl.completion,
        Action.completion, hreports]
  | dallied peer' hphase =>
    have hp := h.phase
    rw [hphase] at hp
    rcases hp with hp | hp <;> cases hp
  | received source lastEndpoint rawPacket hadmits =>
    -- the only one who is listened to is the peer
    have hp := h.phase
    rcases hp with hp | hp <;> rw [hp] at hadmits
    · exact absurd hadmits he
    · exact hadmits.elim

end Tftp
