import Tftp.Agreement
import Tftp.Hosts

/-!
# Transfer identifiers

The ports of a client and of an operation of the server are all that tells their transfer from
everything else. Still whatever the other operations and the other hosts do makes no difference to
it: the two take part in a transfer of their own (`Tftp.Hosts.Follows`).

The relation between everything (`Tftp.Hosts`) and the transfer of the two (`Tftp.Transfer`) is a
simulation in which most events are not noticed. The operation is the same in both, but for what it
did last, and so is all that it has done; the actions of the client are the same but for its ERROR
packets to strangers, which are no part of the transfer (`Tftp.Action.isOwn`); and what is under way
from the one to the other is under way in the transfer, too. An operation that has not been started
yet takes part in it all the same, since its start depends on nothing but the request. So for each
of the hosts there is one lemma for when it reacts to something of the transfer, and one for when it
does not notice what happens.

What can happen to a client that the server has not answered yet is in `Tftp.Asking`: it waits, and
repeats its request, and strangers make it send ERROR packets to them, but nobody else hears of it.
-/

namespace Tftp

open Protocol Clients Servers Operation

/-! ### What is the same for both sides -/

/-- Whether an action is a part of a transfer: an ERROR packet to an unknown partner is not. -/
def Action.isOwn : Action → Bool
  | .sendUnknown .. => false
  | _ => true

theorem deliveries_isOwn (l : List Action) : deliveries (l.filter Action.isOwn) = deliveries l := by
  rw [deliveries, deliveries, List.filterMap_filter]
  refine List.filterMap_congr fun a _ => ?_
  cases a <;> rfl

theorem finished_mem_isOwn {l : List Action} {status : TransferStatus} :
    .finished status ∈ l.filter Action.isOwn ↔ .finished status ∈ l := by
  rw [List.mem_filter]
  exact and_iff_left rfl

section Resemblance

variable {σ δ : Type} [DataHandler δ] [Operation σ δ] {s s' : σ}

/-- Two states that differ only in what was done last. -/
def Resembles (s s' : σ) : Prop := ∃ acts, s' = withBase s { base s with actions := acts }

theorem Resembles.refl (s : σ) : Resembles s s := ⟨(base s).actions, (withBase_base s).symm⟩

/-- The next event does the same to both. -/
theorem Resembles.peerStep_eq (h : Resembles s s') (e : PeerEvent) :
    peerStep s' e = peerStep s e := by
  obtain ⟨acts, rfl⟩ := h
  exact step_actions s acts e.toEvent

/-- An event that is not noticed. -/
theorem Resembles.cleared (h : Resembles s s') :
    Resembles s (withBase s' (base s').cleared) := by
  obtain ⟨acts, rfl⟩ := h
  refine ⟨[], ?_⟩
  rw [base_withBase, withBase_withBase]
  rfl

/-- A twin that has not noticed an event. -/
theorem Clients.Twin.cleared (h : Twin s s') : Twin s (withBase s' (base s').cleared) := by
  obtain ⟨endpoint, acts, rfl⟩ := h
  refine ⟨endpoint, [], ?_⟩
  rw [base_withBase, withBase_withBase]
  rfl

/-- **The answer of the server does the same to twins**, and makes them equal. -/
theorem Clients.Twin.answered {server : Address} (ht : Twin s s') (hs : Unanswered server s)
    (hopen : (base s').phase ≠ .done) {source : Endpoint} (hsource : source.address = server)
    (rawPacket : RawData) :
    peerStep s' (.datagram source rawPacket) = peerStep s (.datagram source rawPacket) := by
  obtain ⟨hwith, endpoint, acts, hbase⟩ := ht.base_eq
  obtain ⟨halive', ⟨hsock', hremote', hrec', -⟩ | ⟨hsock', -⟩⟩ := (hs.twin ht).cases
  · obtain ⟨halive, ⟨hsock, hremote, hrec, -⟩ | ⟨hsock, -⟩⟩ := hs.cases
    · rw [peerStep_server halive hsock hrec (hsource.trans hremote.symm),
        peerStep_server halive' hsock' hrec' (hsource.trans hremote'.symm), hwith, hbase]
      rfl
    · rw [hbase] at hsock'
      cases hsock.symm.trans hsock'
  · exact absurd (OperationImpl.phase_closed hsock') hopen

end Resemblance

/-! ### Whom the server answers -/

/-- For whom the server does something. -/
def Servers.ServerAction.To (remote : Endpoint) : ServerAction → Prop
  | .requestHandler request => request.remote = remote
  | .errorOperation remote' _ _ => remote' = remote
  | .badFunctionCall => True

/-- **What is done about a datagram is done for its source.** -/
theorem Servers.ServerImpl.to_of_mem_receiveHandler (s : ServerImpl) (remote : Endpoint)
    (rawPacket : RawData) : ∀ a ∈ s.receiveHandler remote rawPacket, a.To remote := by
  have hrequest : ∀ requestType filename mode options errorMessage,
      ∀ a ∈ s.handleRequest remote requestType filename mode options errorMessage,
        a.To remote := by
    intro requestType filename mode options errorMessage
    rw [handleRequest]
    split_ifs <;> simp [ServerAction.To]
  rw [receiveHandler]
  rcases PacketHandler.packet (rawPacket.take defaultMaxPacketSize.toNat) with packet | -
  · cases packet with
    | readRequest filename mode options => exact hrequest _ _ _ _ _
    | writeRequest filename mode options => exact hrequest _ _ _ _ _
    | data | acknowledgement | error | optionsAcknowledgement =>
      simp [received, unexpected, ServerAction.To]
  · rintro _ ⟨⟩

/-! ### A client that has not been answered -/

/-- **A client that waits for the server**, or is over without an answer; the stored packet is its
request. -/
structure Asking {σ δ : Type} [DataHandler δ] [Operation σ δ] (server : Endpoint)
    (request : RawData) (c : σ) : Prop where
  unanswered : Unanswered server.address c
  remote : (base c).remoteV = server
  packet : (base c).transmitPacketV = request

/-- An event that brings nothing of the given host. -/
def PeerEvent.NotFrom (server : Address) : PeerEvent → Prop
  | .datagram source _ => source.address ≠ server
  | .timeout => True

section Asking

variable {σ δ : Type} [DataHandler δ] [Operation σ δ] {server : Endpoint} {request : RawData}
  {c : σ} {e : PeerEvent}

/-- **As long as the server does not answer**, it gets the same request, and nothing succeeds. -/
theorem Asking.peerStep (h : Asking server request c) (he : e.NotFrom server.address) :
    Asking server request (peerStep c e) ∧
      (∀ destination, destination.address = server.address →
        ∀ rawPacket ∈ sentTo destination (actions (Operation.peerStep c e)),
          destination = server ∧ rawPacket = request) ∧
      .finished .successful ∉ actions (Operation.peerStep c e) := by
  obtain ⟨⟨hset, hphase⟩, hremote, hpacket⟩ := h
  have hreaction := reaction hset e
  generalize Operation.peerStep c e = c' at hreaction ⊢
  rw [Operation.actions]
  cases hreaction with
  | idle =>
    refine ⟨⟨⟨?_, ?_⟩, ?_, ?_⟩, ?_, ?_⟩ <;> rw [base_withBase]
    · exact hset
    · exact hphase
    · exact hremote
    · exact hpacket
    · rintro _ _ _ ⟨⟩
    · rintro ⟨⟩
  | foreign address source rawPacket hp hsource =>
    refine ⟨⟨⟨?_, ?_⟩, ?_, ?_⟩, ?_, ?_⟩ <;> rw [base_withBase]
    · exact hset
    · exact hphase
    · exact hremote
    · exact hpacket
    · intro destination haddress rawPacket' hmem
      have hne : ¬ source = destination := fun heq => he (heq ▸ haddress)
      simp [OperationImpl.emit, OperationImpl.cleared, sentTo, Action.sentTo, hne] at hmem
    · simp [OperationImpl.emit, OperationImpl.cleared]
  | resend destination hp =>
    have hdestination : destination = server := by
      rcases hp with ⟨-, hp⟩ | hp
      · exact hp.trans hremote
      · rw [hp] at hphase
        rcases hphase with hphase | hphase <;> cases hphase
    refine ⟨⟨⟨?_, ?_⟩, ?_, ?_⟩, ?_, ?_⟩ <;> rw [base_withBase]
    · exact OperationImpl.settled_resent hset destination
    · rw [OperationImpl.phase_resent]
      exact hphase
    · exact hremote
    · exact hpacket
    · intro destination' haddress rawPacket hmem
      change rawPacket ∈ sentTo destination' [.resend (base c).transmitPacketV destination] at hmem
      by_cases heq : destination = destination'
      · subst heq
        rw [sentTo_resend, sentTo_nil, List.mem_singleton] at hmem
        exact ⟨hdestination, hmem.trans hpacket⟩
      · rw [sentTo_resend_ne heq] at hmem
        cases hmem
    · simp [OperationImpl.resent, OperationImpl.cleared]
  | expire =>
    refine ⟨⟨⟨?_, ?_⟩, ?_, ?_⟩, ?_, ?_⟩ <;> rw [base_withBase]
    · exact (OperationImpl.settled_completed (s := (base c).cleared) hset.1 _ none).1
    · exact Or.inr rfl
    · exact hremote
    · exact hpacket
    · intro destination _ rawPacket hmem
      change rawPacket ∈ sentTo destination (Action.completion _ _) at hmem
      rw [sentTo_completion] at hmem
      cases hmem
    · cases hreports : (base c).completionHandlerV <;>
        simp [OperationImpl.completed, OperationImpl.cleared, OperationImpl.completion,
          Action.completion, hreports]
  | dallied peer hp =>
    rw [hp] at hphase
    rcases hphase with hphase | hphase <;> cases hphase
  | received source lastEndpoint rawPacket hadmits =>
    rcases hphase with hphase | hphase <;> rw [hphase] at hadmits
    · exact absurd hadmits he
    · exact hadmits.elim

/-- What is done about a datagram from elsewhere is no part of the transfer. -/
theorem Asking.isOwn_foreign (h : Asking server request c) {source : Endpoint}
    (hsource : source.address ≠ server.address) (rawPacket : RawData) :
    (actions (Operation.peerStep c (.datagram source rawPacket))).filter Action.isOwn = [] := by
  obtain ⟨⟨hset, hphase⟩, -, -⟩ := h
  have hreaction := reaction hset (.datagram source rawPacket)
  generalize Operation.peerStep c (.datagram source rawPacket) = c' at hreaction ⊢
  rw [Operation.actions]
  cases hreaction with
  | idle | foreign =>
    rw [base_withBase]
    rfl
  | received source lastEndpoint rawPacket hadmits =>
    rcases hphase with hphase | hphase <;> rw [hphase] at hadmits
    · exact absurd hadmits hsource
    · exact hadmits.elim

end Asking

namespace Hosts

/-- An operation of the server was started for the client. -/
def Owns {τ : Type} (ports : Ports) (operations : List (Attended τ)) (k : ℕ) : Prop :=
  ∃ o, operations[k]? = some o ∧ o.remote = ports.client

theorem Owns.lt {τ : Type} {ports : Ports} {operations : List (Attended τ)} {k : ℕ}
    (h : Owns ports operations k) : k < operations.length := by
  obtain ⟨o, ho, -⟩ := h
  exact (List.getElem?_eq_some_iff.mp ho).1

theorem Owns.set {τ : Type} {ports : Ports} {operations : List (Attended τ)} {j k : ℕ}
    {o o' : Attended τ} (h : Owns ports operations k) (ho : operations[j]? = some o)
    (hremote : o'.remote = o.remote) : Owns ports (operations.set j o') k := by
  obtain ⟨o'', ho'', hclient⟩ := h
  by_cases hjk : j = k
  · subst hjk
    obtain rfl := Option.some.inj (ho.symm.trans ho'')
    exact ⟨o', List.getElem?_set_self (List.getElem?_eq_some_iff.mp ho).1, hremote.trans hclient⟩
  · exact ⟨o'', (List.getElem?_set_ne hjk).trans ho'', hclient⟩

theorem Owns.append {τ : Type} {ports : Ports} {operations : List (Attended τ)} {k : ℕ}
    (h : Owns ports operations k) (new : List (Attended τ)) : Owns ports (operations ++ new) k := by
  have hlt := h.lt
  obtain ⟨o, ho, hclient⟩ := h
  exact ⟨o, by rw [List.getElem?_append_left hlt, ho], hclient⟩

section Following

variable {σ τ δ ε : Type} [DataHandler δ] [DataHandler ε] [Operation σ δ] [Operation τ ε]
  {ports : Ports} {operation : τ} {s : Hosts σ τ} {t : Transfer σ τ} {k : ℕ}

/-- **The transfer between the client and an operation of the server**, among everything else: it
knows of all that is under way between the two. The operation may not have been started yet. -/
structure Follows (ports : Ports) (operation : τ) (s : Hosts σ τ) (t : Transfer σ τ) (k : ℕ) :
    Prop where
  clientActions : t.receiverActions.filter Action.isOwn = s.clientActions.filter Action.isOwn
  toClient : k < s.operations.length → ∀ d ∈ s.inFlight, d.source = ports.operation k →
    d.destination = ports.client → d.rawPacket ∈ t.toReceiver
  toOperation : ∀ d ∈ s.inFlight, d.source = ports.client → d.destination = ports.operation k →
    d.rawPacket ∈ t.toSender
  started : ∀ o, s.operations[k]? = some o →
    Resembles t.sender o.operation ∧ o.actions = t.senderActions
  unstarted : s.operations[k]? = none → t.sender = operation ∧ t.senderActions = actions operation ∧
    ∀ rawPacket ∈ sentTo ports.client (actions operation), rawPacket ∈ t.toReceiver

/-- At the start. -/
theorem follows_started (client : σ) :
    (started ports client).Follows ports operation
      (Transfer.started ports.client (ports.operation k) client operation) k where
  clientActions := rfl
  toClient hlt := absurd hlt (Nat.not_lt_zero k)
  toOperation d hd _ hdestination := by
    obtain ⟨-, hmem⟩ := mem_datagramsFrom.mp hd
    rwa [hdestination] at hmem
  started o ho := by cases ho
  unstarted _ := ⟨rfl, rfl, fun _ h => h⟩

/-- What gets lost. -/
theorem Follows.subset (h : s.Follows ports operation t k) {l : List Datagram}
    (hl : ∀ d ∈ l, d ∈ s.inFlight) : Follows ports operation { s with inFlight := l } t k where
  clientActions := h.clientActions
  toClient hlt d hd := h.toClient hlt d (hl d hd)
  toOperation d hd := h.toOperation d (hl d hd)
  started := h.started
  unstarted := h.unstarted

/-- What somebody else sends. -/
theorem Follows.sent (h : s.Follows ports operation t k) {d : Datagram}
    (hsource : d.source ≠ ports.client)
    (hdestination : d.destination = ports.client → d.source.address ≠ ports.server.address) :
    Follows ports operation { s with inFlight := s.inFlight ++ [d] } t k where
  clientActions := h.clientActions
  toClient hlt d' hd' hfrom hto := by
    rcases List.mem_append.mp hd' with hd' | hd'
    · exact h.toClient hlt d' hd' hfrom hto
    · obtain rfl := List.mem_singleton.mp hd'
      exact absurd (hfrom ▸ ports.address k) (hdestination hto)
  toOperation d' hd' hfrom hto := by
    rcases List.mem_append.mp hd' with hd' | hd'
    · exact h.toOperation d' hd' hfrom hto
    · obtain rfl := List.mem_singleton.mp hd'
      exact absurd hfrom hsource
  started := h.started
  unstarted := h.unstarted

/-- Another operation reacts. -/
theorem Follows.other (h : s.Follows ports operation t k) (hdistinct : s.PortsDistinct ports)
    {j : ℕ} (hne : j ≠ k) (e : PeerEvent) :
    (s.operationReacts ports j e).Follows ports operation t k := by
  rw [operationReacts]
  cases ho : s.operations[j]? with
  | none => exact h
  | some o =>
    have hsame : ∀ o', (s.operations.set j o')[k]? = s.operations[k]? := fun o' =>
      List.getElem?_set_ne hne
    have hj : j < s.operations.length := (List.getElem?_eq_some_iff.mp ho).1
    refine ⟨h.clientActions, fun hlt d hd hfrom hto => ?_, fun d hd hfrom hto => ?_, ?_, ?_⟩
    · rw [List.length_set] at hlt
      rcases List.mem_append.mp hd with hd | hd
      · exact h.toClient hlt d hd hfrom hto
      · have hsource := (mem_datagramsFrom.mp hd).1
        exact absurd (hdistinct hj hlt (hsource.symm.trans hfrom)) hne
    · rcases List.mem_append.mp hd with hd | hd
      · exact h.toOperation d hd hfrom hto
      · have hsource := (mem_datagramsFrom.mp hd).1
        exact absurd (hfrom.symm.trans hsource) (ports.client_ne_operation j)
    · rw [hsame]
      exact h.started
    · rw [hsame]
      exact h.unstarted

/-- The operation reacts to what reaches it. -/
theorem Follows.operationReacts (h : s.Follows ports operation t k) {o : Attended τ}
    (ho : s.operations[k]? = some o) (e : PeerEvent) :
    (s.operationReacts ports k e).Follows ports operation (t.senderReacts ports.client e) k := by
  obtain ⟨hresembles, hactions⟩ := h.started o ho
  have hlt : k < s.operations.length := (List.getElem?_eq_some_iff.mp ho).1
  simp only [Hosts.operationReacts, ho, hresembles.peerStep_eq e]
  refine ⟨h.clientActions, fun _ d hd hfrom hto => ?_, fun d hd hfrom hto => ?_, fun o' ho' => ?_,
    fun hnone => ?_⟩
  · rw [Transfer.senderReacts, List.mem_append]
    rcases List.mem_append.mp hd with hd | hd
    · exact Or.inl (h.toClient hlt d hd hfrom hto)
    · rw [← hto]
      exact Or.inr (mem_datagramsFrom.mp hd).2
  · rcases List.mem_append.mp hd with hd | hd
    · exact h.toOperation d hd hfrom hto
    · have hsource := (mem_datagramsFrom.mp hd).1
      exact absurd (hfrom.symm.trans hsource) (ports.client_ne_operation k)
  · rw [List.getElem?_set_self hlt] at ho'
    obtain rfl := Option.some.inj ho'
    exact ⟨.refl _, by rw [Transfer.senderReacts, hactions]⟩
  · rw [List.getElem?_set_self hlt] at hnone
    cases hnone

/-- The operation does not notice something. -/
theorem Follows.operationIgnores (h : s.Follows ports operation t k) {o : Attended τ}
    (ho : s.operations[k]? = some o) {e : PeerEvent}
    (hignored : peerStep o.operation e = withBase o.operation (base o.operation).cleared) :
    (s.operationReacts ports k e).Follows ports operation t k := by
  obtain ⟨hresembles, hactions⟩ := h.started o ho
  have hlt : k < s.operations.length := (List.getElem?_eq_some_iff.mp ho).1
  have hnil : actions (peerStep o.operation e) = [] := by
    rw [hignored, Operation.actions, base_withBase]
    rfl
  simp only [Hosts.operationReacts, ho, hnil, List.append_nil]
  refine ⟨h.clientActions, fun _ d hd => ?_, fun d hd => ?_, fun o' ho' => ?_, fun hnone => ?_⟩
  · exact h.toClient hlt d (by simpa [datagramsFrom] using hd)
  · exact h.toOperation d (by simpa [datagramsFrom] using hd)
  · rw [List.getElem?_set_self hlt] at ho'
    obtain rfl := Option.some.inj ho'
    refine ⟨?_, hactions⟩
    rw [hignored]
    exact hresembles.cleared
  · rw [List.getElem?_set_self hlt] at hnone
    cases hnone

/-- An operation is started for a request, with a port that was not used before. -/
theorem Follows.attended (h : s.Follows ports operation t k) {remote : Endpoint} {new : τ}
    (hfresh : ∀ d ∈ s.inFlight, d.destination = ports.client →
      d.source ≠ ports.operation s.operations.length)
    (hdistinct : ∀ j < s.operations.length,
      ports.operation j ≠ ports.operation s.operations.length)
    (hnew : s.operations.length = k → new = operation) :
    Follows ports operation { s with
      operations := s.operations ++ [⟨remote, new, actions new⟩]
      inFlight := s.inFlight ++
        datagramsFrom (ports.operation s.operations.length) (actions new) } t k := by
  refine ⟨h.clientActions, fun hlt d hd hfrom hto => ?_, fun d hd hfrom hto => ?_, fun o ho => ?_,
    fun hnone => ?_⟩
  · rw [List.length_append, List.length_singleton, Nat.lt_succ_iff_lt_or_eq] at hlt
    rcases List.mem_append.mp hd with hd | hd
    · rcases hlt with hlt | rfl
      · exact h.toClient hlt d hd hfrom hto
      · exact absurd hfrom (hfresh d hd hto)
    · obtain ⟨hsource, hmem⟩ := mem_datagramsFrom.mp hd
      rcases hlt with hlt | rfl
      · exact absurd (hfrom.symm.trans hsource) (hdistinct k hlt)
      · rw [hto, hnew rfl] at hmem
        exact (h.unstarted (List.getElem?_eq_none le_rfl)).2.2 _ hmem
  · rcases List.mem_append.mp hd with hd | hd
    · exact h.toOperation d hd hfrom hto
    · have hsource := (mem_datagramsFrom.mp hd).1
      exact absurd (hfrom.symm.trans hsource) (ports.client_ne_operation _)
  · rcases Nat.lt_trichotomy k s.operations.length with hlt | heq | hlt
    · rw [List.getElem?_append_left hlt] at ho
      exact h.started o ho
    · rw [heq, List.getElem?_concat_length] at ho
      obtain rfl := Option.some.inj ho
      obtain ⟨hsender, hactions, -⟩ := h.unstarted (List.getElem?_eq_none heq.ge)
      obtain rfl := hnew heq.symm
      rw [hsender, hactions]
      exact ⟨.refl _, rfl⟩
    · have hle : (s.operations ++ [(⟨remote, new, actions new⟩ : Attended τ)]).length ≤ k := by
        rw [List.length_append, List.length_singleton]
        exact hlt
      rw [List.getElem?_eq_none hle] at ho
      cases ho
  · rw [List.getElem?_eq_none_iff, List.length_append, List.length_singleton] at hnone
    exact h.unstarted (List.getElem?_eq_none (by omega))

/-- The client reacts in the same way. -/
theorem Follows.clientReacts (h : s.Follows ports operation t k) {e : PeerEvent}
    (hactions : actions (peerStep s.client e) = actions (peerStep t.receiver e)) :
    (s.clientReacts ports e).Follows ports operation
      (t.receiverReacts (ports.operation k) e) k where
  clientActions := by
    rw [Transfer.receiverReacts, Hosts.clientReacts, hactions, List.filter_append,
      List.filter_append, h.clientActions]
  toClient hlt d hd hfrom hto := by
    rcases List.mem_append.mp hd with hd | hd
    · exact h.toClient hlt d hd hfrom hto
    · have hsource := (mem_datagramsFrom.mp hd).1
      exact absurd (hsource.symm.trans hfrom) (ports.client_ne_operation k)
  toOperation d hd hfrom hto := by
    rw [Transfer.receiverReacts, List.mem_append]
    rcases List.mem_append.mp hd with hd | hd
    · exact Or.inl (h.toOperation d hd hfrom hto)
    · have hmem := (mem_datagramsFrom.mp hd).2
      rw [hactions, hto] at hmem
      exact Or.inr hmem
  started := h.started
  unstarted := h.unstarted

/-- The client does nothing that belongs to the transfer. -/
theorem Follows.clientIgnores (h : s.Follows ports operation t k) {e : PeerEvent}
    (hown : (actions (peerStep s.client e)).filter Action.isOwn = [])
    (hsilent : sentTo (ports.operation k) (actions (peerStep s.client e)) = []) :
    (s.clientReacts ports e).Follows ports operation t k where
  clientActions := by
    rw [Hosts.clientReacts, List.filter_append, hown, List.append_nil, h.clientActions]
  toClient hlt d hd hfrom hto := by
    rcases List.mem_append.mp hd with hd | hd
    · exact h.toClient hlt d hd hfrom hto
    · have hsource := (mem_datagramsFrom.mp hd).1
      exact absurd (hsource.symm.trans hfrom) (ports.client_ne_operation k)
  toOperation d hd hfrom hto := by
    rcases List.mem_append.mp hd with hd | hd
    · exact h.toOperation d hd hfrom hto
    · have hmem := (mem_datagramsFrom.mp hd).2
      rw [hto, hsilent] at hmem
      cases hmem
  started := h.started
  unstarted := h.unstarted

end Following

end Hosts

end Tftp
