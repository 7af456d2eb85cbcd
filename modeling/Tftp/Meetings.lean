import Tftp.Identifiers

/-!
# Who becomes the partner of a client

Among all the operations that the server has started for the requests of a client, the one that the
client hears first becomes its partner. The client and its partner take part in a transfer of their
own, and the other operations never hear of the client (`Tftp.Hosts.Meeting`).

## Before and after

Before the client has heard of anybody, every operation may still become its partner, also one that
has not even been started: its request may be under way, or may be repeated. So the invariant is
indexed by the partner, if there is one. As long as there is none, it speaks of every operation that
was started for the client, or that may still be; afterwards it speaks of one.

What it says of each of these is the existence of a run of a transfer of the two alone
(`Tftp.Hosts.Followed`), and that the network among everybody else does not know more than the one
between the two: what is under way from the one to the other is under way there, too
(`Tftp.Hosts.Follows`). A run between two is not ordered and forgets nothing, so that it does not
matter how often, how late and in which order anything is delivered here. When the client gets a
partner, the runs with all others are dropped, and the one with its partner goes on.

## What keeps the others away

* The client sends its request and nothing else until it is answered, so that only the server hears
  of it, and then it sends to its partner only (`Tftp.SendsOnlyTo`).
* An operation talks to the one that it was started for, and to nobody else (`Tftp.Bound`). So what
  the client hears from the address of the server comes from an operation of its own.
* An operation that never hears of the client passes nothing on and does not succeed
  (`Tftp.Quiet`).
* No two operations have the same port (`Tftp.Hosts.PortsDistinct`). This is asked of the whole run:
  a port that is given to another operation later would make its datagrams those of the former.

The events are then taken one after the other: the client reacts, before and after it has a partner
(`Tftp.Hosts.Meeting.clientReacts`), an operation reacts (`Tftp.Hosts.Meeting.operationReacts`), and
the server starts an operation, or answers with an ERROR packet
(`Tftp.Hosts.Meeting.serverReacts`).
-/

namespace Tftp

open Protocol Clients Servers Operation

namespace Hosts

section Meetings

variable {σ τ δ ε : Type} [DataHandler δ] [DataHandler ε] [PeerOperation σ δ] [PeerOperation τ ε]
  {ports : Ports} {rawPacket : RawData} {client : σ} {operation : τ} {partner : Option ℕ}
  {s : Hosts σ τ}

/-- How the client of a transfer on its own and the one among everything else are related: until
the latter has a partner, it may have heard of others. -/
def Accompanies (ports : Ports) (rawPacket : RawData) (partner : Option ℕ) (c c' : σ) : Prop :=
  match partner with
  | none => Twin c c' ∧ Asking ports.server rawPacket c
  | some _ => Resembles c c'

/-- **There is a transfer of their own** for the client and an operation of the server. -/
def Followed (ports : Ports) (rawPacket : RawData) (client : σ) (operation : τ)
    (partner : Option ℕ) (s : Hosts σ τ) (k : ℕ) : Prop :=
  ∃ history t, Run (Transfer.step ports.client (ports.operation k))
      (.started ports.client (ports.operation k) client operation) history t ∧
    Accompanies ports rawPacket partner t.receiver s.client ∧ s.Follows ports operation t k

/-- **Who talks to whom**: the partner of the client, if it has one, and nobody else, has heard of
it. -/
structure Meeting (ports : Ports) (rawPacket : RawData) (client : σ) (operation : τ)
    (partner : Option ℕ) (s : Hosts σ τ) : Prop where
  bound : ∀ o ∈ s.operations, Bound o.remote (base o.operation)
  /-- What the client hears of the server comes from an operation that was started for it. -/
  toClient : ∀ d ∈ s.inFlight, d.destination = ports.client →
    d.source.address = ports.server.address →
      ∃ k, Owns ports s.operations k ∧ d.source = ports.operation k
  /-- What the server hears of the client is its request, or goes to the partner. -/
  fromClient : ∀ d ∈ s.inFlight, d.source = ports.client →
    d.destination.address = ports.server.address →
      d.destination = ports.server ∧ d.rawPacket = rawPacket ∨
        ∃ k, partner = some k ∧ d.destination = ports.operation k
  quiet : ∀ k o, s.operations[k]? = some o → o.remote = ports.client → partner ≠ some k →
    Quiet ports.client o
  followed : ∀ k, (∀ j, partner = some j → j = k) →
    (∀ o, s.operations[k]? = some o → o.remote = ports.client) →
      Followed ports rawPacket client operation partner s k
  unmet : partner = none → Asking ports.server rawPacket s.client ∧
    .finished .successful ∉ s.clientActions
  met : ∀ k, partner = some k →
    Bound (ports.operation k) (base s.client) ∧ Owns ports s.operations k

/-- What is added to what is under way, and what gets lost. -/
theorem Meeting.of_inFlight (h : Meeting ports rawPacket client operation partner s)
    {l : List Datagram} (hl : ∀ d ∈ l, d ∈ s.inFlight ∨ d.source ≠ ports.client ∧
      (d.destination = ports.client → d.source.address ≠ ports.server.address))
    (hfollows : ∀ t k, s.Follows ports operation t k →
      Follows ports operation { s with inFlight := l } t k) :
    Meeting ports rawPacket client operation partner { s with inFlight := l } where
  bound := h.bound
  toClient d hd hto hfrom := by
    rcases hl d hd with hd | ⟨-, hforeign⟩
    · exact h.toClient d hd hto hfrom
    · exact absurd hfrom (hforeign hto)
  fromClient d hd hfrom hto := by
    rcases hl d hd with hd | ⟨hforeign, -⟩
    · exact h.fromClient d hd hfrom hto
    · exact absurd hfrom hforeign
  quiet := h.quiet
  followed k hk howns := by
    obtain ⟨history, t, hrun, hclient, ht⟩ := h.followed k hk howns
    exact ⟨history, t, hrun, hclient, hfollows t k ht⟩
  unmet := h.unmet
  met := h.met

/-- An operation is started for a request: one of the client, or one of somebody else. -/
theorem Meeting.attended (h : Meeting ports rawPacket client operation partner s)
    {remote : Endpoint} {new : τ} (hdistinct : ∀ j < s.operations.length,
      ports.operation j ≠ ports.operation s.operations.length)
    (hbound : Bound remote (base new)) (hsends : SendsOnlyTo remote (actions new))
    (hnew : remote = ports.client → new = operation ∧ Quiet ports.client
      ⟨remote, new, actions new⟩) :
    Meeting ports rawPacket client operation partner { s with
      operations := s.operations ++ [⟨remote, new, actions new⟩]
      inFlight := s.inFlight ++
        datagramsFrom (ports.operation s.operations.length) (actions new) } where
  bound o ho := by
    rcases List.mem_append.mp ho with ho | ho
    · exact h.bound o ho
    · obtain rfl := List.mem_singleton.mp ho
      exact hbound
  toClient d hd hto hfrom := by
    rcases List.mem_append.mp hd with hd | hd
    · obtain ⟨k, howns, hsource⟩ := h.toClient d hd hto hfrom
      exact ⟨k, howns.append _, hsource⟩
    · obtain ⟨hsource, hmem⟩ := mem_datagramsFrom.mp hd
      refine ⟨_, ⟨_, List.getElem?_concat_length, ?_⟩, hsource⟩
      by_contra hne
      rw [hto, hsends ports.client (Ne.symm hne)] at hmem
      cases hmem
  fromClient d hd hfrom hto := by
    rcases List.mem_append.mp hd with hd | hd
    · exact h.fromClient d hd hfrom hto
    · have hsource := (mem_datagramsFrom.mp hd).1
      exact absurd (hfrom.symm.trans hsource) (ports.client_ne_operation _)
  quiet k o ho hclient hpartner := by
    rcases Nat.lt_trichotomy k s.operations.length with hlt | rfl | hlt
    · rw [List.getElem?_append_left hlt] at ho
      exact h.quiet k o ho hclient hpartner
    · rw [List.getElem?_concat_length] at ho
      obtain rfl := Option.some.inj ho
      exact (hnew hclient).2
    · have hle : (s.operations ++ [(⟨remote, new, actions new⟩ : Attended τ)]).length ≤ k := by
        rw [List.length_append, List.length_singleton]
        exact hlt
      rw [List.getElem?_eq_none hle] at ho
      cases ho
  followed k hk howns := by
    have howns' : ∀ o, s.operations[k]? = some o → o.remote = ports.client := fun o ho =>
      howns o (by rw [List.getElem?_append_left (List.getElem?_eq_some_iff.mp ho).1, ho])
    obtain ⟨history, t, hrun, hclient, ht⟩ := h.followed k hk howns'
    refine ⟨history, t, hrun, hclient, ht.attended (fun d hd hto hsource => ?_) hdistinct
      fun hlength => ?_⟩
    · obtain ⟨j, howns, hj⟩ := h.toClient d hd hto (by rw [hsource]; exact ports.address _)
      exact hdistinct j howns.lt (hj.symm.trans hsource)
    · subst hlength
      exact (hnew (howns _ List.getElem?_concat_length)).1
  unmet := h.unmet
  met k hk := ⟨(h.met k hk).1, (h.met k hk).2.append _⟩

/-- **The transfer of the client**, and the operations that do not take part in it. -/
theorem Meeting.transfer
    (h : Meeting ports rawPacket client operation partner s) :
    ∃ k history t, Run (Transfer.step ports.client (ports.operation k))
        (.started ports.client (ports.operation k) client operation) history t ∧
      s.Follows ports operation t k ∧
      (∀ j o, s.operations[j]? = some o → o.remote = ports.client → j ≠ k →
        Quiet ports.client o) ∧
      (.finished .successful ∈ s.clientActions → Owns ports s.operations k) := by
  cases partner with
  | some k =>
    obtain ⟨-, o, ho, hremote⟩ := h.met k rfl
    obtain ⟨history, t, hrun, -, ht⟩ := h.followed k (fun j hj => (Option.some.inj hj).symm)
      fun o' ho' => by rwa [← Option.some.inj (ho.symm.trans ho')]
    exact ⟨k, history, t, hrun, ht, fun j o' ho' hclient hne =>
      h.quiet j o' ho' hclient fun heq => hne (Option.some.inj heq).symm, fun _ => ⟨o, ho, hremote⟩⟩
  | none =>
    -- any operation that has not been started will do
    have hnone : s.operations[s.operations.length]? = none := List.getElem?_eq_none le_rfl
    obtain ⟨history, t, hrun, -, ht⟩ := h.followed s.operations.length (by rintro j ⟨⟩)
      fun o ho => by cases hnone.symm.trans ho
    exact ⟨_, history, t, hrun, ht, fun j o ho hclient _ => h.quiet j o ho hclient (by rintro ⟨⟩),
      fun hsuccess => absurd hsuccess (h.unmet rfl).2⟩

/-- What can happen to an operation of the server: its timer expires, or something arrives at its
port. -/
def Reaches (ports : Ports) (s : Hosts σ τ) (j : ℕ) (e : PeerEvent) : Prop :=
  e = .timeout ∨ ∃ d ∈ s.inFlight, d.destination = ports.operation j ∧
    e = .datagram d.source d.rawPacket

/-- **Only the partner hears of the client.** -/
theorem Meeting.hears (h : Meeting ports rawPacket client operation partner s)
    (hdistinct : s.PortsDistinct ports) {j : ℕ} (hj : j < s.operations.length) {e : PeerEvent}
    (he : Reaches ports s j e) :
    e.Without ports.client ∨ partner = some j ∧ ∃ d ∈ s.inFlight, d.source = ports.client ∧
      d.destination = ports.operation j ∧ e = .datagram ports.client d.rawPacket := by
  rcases he with rfl | ⟨d, hd, hto, rfl⟩
  · exact Or.inl trivial
  · by_cases hfrom : d.source = ports.client
    · rcases h.fromClient d hd hfrom (by rw [hto]; exact ports.address j) with
        ⟨hserver, -⟩ | ⟨k, hk, hto'⟩
      · exact absurd (hto.symm.trans hserver) (ports.operation_ne_server j)
      · obtain rfl := hdistinct hj (h.met k hk).2.lt (hto.symm.trans hto')
        exact Or.inr ⟨hk, d, hd, hfrom, hto, by rw [hfrom]⟩
    · exact Or.inl hfrom

/-- The transfers go on when an operation of the server reacts. -/
theorem Meeting.followed_operationReacts
    (h : Meeting ports rawPacket client operation partner s) (hdistinct : s.PortsDistinct ports)
    {j k : ℕ} {e : PeerEvent} (he : Reaches ports s j e) (hk : ∀ i, partner = some i → i = k)
    (howns : ∀ o, s.operations[k]? = some o → o.remote = ports.client) :
    Followed ports rawPacket client operation partner (s.operationReacts ports j e) k := by
  obtain ⟨history, t, hrun, hclient, ht⟩ := h.followed k hk howns
  have hsame : (s.operationReacts ports j e).client = s.client := by
    rw [Hosts.operationReacts]
    cases s.operations[j]? <;> rfl
  rw [Followed, hsame]
  by_cases hjk : j = k
  · subst hjk
    cases ho : s.operations[j]? with
    | none =>
      rw [Hosts.operationReacts, ho]
      exact ⟨history, t, hrun, hclient, ht⟩
    | some o =>
      have hlt := (List.getElem?_eq_some_iff.mp ho).1
      rcases h.hears hdistinct hlt he with hwithout | ⟨-, d, hd, hfrom, hto, rfl⟩
      · rcases he with rfl | ⟨d, hd, hto, rfl⟩
        · have hnext := hrun.next .senderTimeout
          exact ⟨_, _, hnext, hclient, ht.operationReacts ho _⟩
        · -- it is connected to the client, and does not notice anybody else
          have hsource : d.source ≠ o.remote := by
            rw [howns o ho]
            exact hwithout
          have hrefuses := (h.bound o (List.mem_of_getElem? ho)).refuses hsource d.rawPacket
          exact ⟨history, t, hrun, hclient, ht.operationIgnores ho hrefuses⟩
      · obtain ⟨index, hindex⟩ := List.getElem?_of_mem (ht.toOperation d hd hfrom hto)
        have hstep : t.step ports.client (ports.operation j) (.toSender index true) =
            t.senderReacts ports.client (.datagram ports.client d.rawPacket) := by
          rw [Transfer.step, hindex]
          rfl
        have hnext := hrun.next (.toSender index true)
        rw [hstep] at hnext
        exact ⟨_, _, hnext, hclient, ht.operationReacts ho _⟩
  · exact ⟨history, t, hrun, hclient, ht.other hdistinct hjk e⟩

/-- **An operation of the server reacts.** -/
theorem Meeting.operationReacts [SteadyOperation τ ε]
    (h : Meeting ports rawPacket client operation partner s) (hdistinct : s.PortsDistinct ports)
    {j : ℕ} {e : PeerEvent} (he : Reaches ports s j e) :
    Meeting ports rawPacket client operation partner (s.operationReacts ports j e) := by
  have hfollowed := fun k => h.followed_operationReacts (k := k) hdistinct he
  cases ho : s.operations[j]? with
  | none =>
    rw [Hosts.operationReacts, ho]
    exact h
  | some o =>
    simp only [Hosts.operationReacts, ho] at hfollowed ⊢
    obtain ⟨hbound, hsends⟩ := (h.bound o (List.mem_of_getElem? ho)).peerStep e
    have hlt : j < s.operations.length := (List.getElem?_eq_some_iff.mp ho).1
    have hheard := h.hears hdistinct hlt he
    refine ⟨fun o' ho' => ?_, fun d hd hto hfrom => ?_, fun d hd hfrom hto => ?_,
      fun k o' ho' hclient hpartner => ?_, fun k hk howns => hfollowed k hk fun o' ho' => ?_,
      h.unmet, fun k hk => ⟨(h.met k hk).1, (h.met k hk).2.set ho rfl⟩⟩
    · rcases List.mem_or_eq_of_mem_set ho' with ho' | rfl
      · exact h.bound o' ho'
      · exact hbound
    · rcases List.mem_append.mp hd with hd | hd
      · obtain ⟨k, howns, hsource⟩ := h.toClient d hd hto hfrom
        exact ⟨k, howns.set ho rfl, hsource⟩
      · obtain ⟨hsource, hmem⟩ := mem_datagramsFrom.mp hd
        refine ⟨j, ⟨_, List.getElem?_set_self hlt, ?_⟩, hsource⟩
        by_contra hne
        rw [hto, hsends ports.client (Ne.symm hne)] at hmem
        cases hmem
    · rcases List.mem_append.mp hd with hd | hd
      · exact h.fromClient d hd hfrom hto
      · have hsource := (mem_datagramsFrom.mp hd).1
        exact absurd (hfrom.symm.trans hsource) (ports.client_ne_operation _)
    · by_cases hjk : j = k
      · subst hjk
        rw [List.getElem?_set_self hlt] at ho'
        obtain rfl := Option.some.inj ho'
        rcases hheard with hwithout | ⟨hpartner', -⟩
        · exact (h.quiet j o ho hclient hpartner).peerStep hwithout
        · exact absurd hpartner' hpartner
      · rw [List.getElem?_set_ne hjk] at ho'
        exact h.quiet k o' ho' hclient hpartner
    · by_cases hjk : j = k
      · subst hjk
        obtain rfl := Option.some.inj (ho.symm.trans ho')
        have hclient := howns _ (List.getElem?_set_self hlt)
        exact hclient
      · exact howns o' ((List.getElem?_set_ne hjk).trans ho')

/-- What can happen to the client. -/
def ReachesClient (ports : Ports) (s : Hosts σ τ) (e : PeerEvent) : Prop :=
  e = .timeout ∨ ∃ d ∈ s.inFlight, d.destination = ports.client ∧
    e = .datagram d.source d.rawPacket

/-- **The client goes on without a partner**: its timer expires, or it hears from somebody
else. -/
theorem Meeting.unmet_clientReacts (h : Meeting ports rawPacket client operation none s)
    {e : PeerEvent} (he : e.NotFrom ports.server.address) :
    Meeting ports rawPacket client operation none (s.clientReacts ports e) := by
  obtain ⟨hunmet, hunsuccessful⟩ := h.unmet rfl
  obtain ⟨hasking, hsends, hsuccess⟩ := hunmet.peerStep he
  refine ⟨h.bound, fun d hd hto hfrom => ?_, fun d hd hfrom hto => ?_, h.quiet,
    fun k hk howns => ?_, fun _ => ⟨hasking, fun hmem => ?_⟩, fun k hk => by cases hk⟩
  · rcases List.mem_append.mp hd with hd | hd
    · exact h.toClient d hd hto hfrom
    · obtain ⟨hsource, hmem⟩ := mem_datagramsFrom.mp hd
      rw [hto] at hmem
      have hserver := hsends ports.client (by rw [← hsource]; exact hfrom) _ hmem
      exact absurd hserver.1 ports.client_ne_server
  · rcases List.mem_append.mp hd with hd | hd
    · exact h.fromClient d hd hfrom hto
    · exact Or.inl (hsends _ hto _ (mem_datagramsFrom.mp hd).2)
  · obtain ⟨history, t, hrun, ⟨htwin, hclient⟩, ht⟩ := h.followed k hk howns
    have hsilent : sentTo (ports.operation k) (actions (peerStep s.client e)) = [] := by
      refine List.eq_nil_iff_forall_not_mem.mpr fun rawPacket' hmem => ?_
      exact absurd (hsends _ (ports.address k) _ hmem).1 (ports.operation_ne_server k)
    cases e with
    | timeout =>
      obtain ⟨hactions, ⟨htwin', -⟩ | ⟨-, source, rawPacket', hevent, -⟩⟩ :=
        htwin.own hclient.unanswered .timeout
      · have hnext := hrun.next .receiverTimeout
        have hclient' := (hclient.peerStep (e := .timeout) trivial).1
        exact ⟨_, _, hnext, ⟨htwin', hclient'⟩, ht.clientReacts hactions⟩
      · cases hevent
    | datagram source rawPacket' =>
      have hown := hunmet.isOwn_foreign he rawPacket'
      refine ⟨history, t, hrun, ⟨?_, hclient⟩, ht.clientIgnores hown hsilent⟩
      exact htwin.foreign hclient.unanswered he rawPacket' false
  · exact (List.mem_append.mp hmem).elim hunsuccessful hsuccess

/-- **The client is over without a partner.** -/
theorem Meeting.over_clientReacts (h : Meeting ports rawPacket client operation none s)
    (hdone : (base s.client).phase = .done) (e : PeerEvent) :
    Meeting ports rawPacket client operation none (s.clientReacts ports e) := by
  obtain ⟨hasking, hunsuccessful⟩ := h.unmet rfl
  have hstep := peerStep_done hasking.unanswered.1 hdone e
  have hnil : actions (peerStep s.client e) = [] := by
    rw [hstep, Operation.actions, base_withBase]
    rfl
  have hsame : (s.clientReacts ports e).inFlight = s.inFlight := by
    rw [Hosts.clientReacts, hnil]
    exact List.append_nil _
  refine ⟨h.bound, ?_, ?_, h.quiet, fun k hk howns => ?_, fun _ => ⟨?_, ?_⟩,
    fun k hk => by cases hk⟩
  · rw [hsame]
    exact h.toClient
  · rw [hsame]
    exact h.fromClient
  · obtain ⟨history, t, hrun, ⟨htwin, hclient⟩, ht⟩ := h.followed k hk howns
    refine ⟨history, t, hrun, ⟨?_, hclient⟩,
      ht.clientIgnores (by rw [hnil]; rfl) (by rw [hnil]; rfl)⟩
    rw [Hosts.clientReacts, hstep]
    exact htwin.cleared
  · rw [Hosts.clientReacts, hstep]
    refine ⟨hasking.unanswered.twin (Twin.refl _).cleared, ?_, ?_⟩ <;> rw [base_withBase]
    · exact hasking.remote
    · exact hasking.packet
  · rw [Hosts.clientReacts, hnil, List.append_nil]
    exact hunsuccessful

variable [SteadyOperation σ δ]

/-- **The client gets a partner**: whoever answers first. -/
theorem Meeting.answered_clientReacts (h : Meeting ports rawPacket client operation none s)
    (hopen : (base s.client).phase ≠ .done) {d : Datagram} (hd : d ∈ s.inFlight)
    (hto : d.destination = ports.client) (hfrom : d.source.address = ports.server.address) :
    ∃ k, Meeting ports rawPacket client operation (some k)
      (s.clientReacts ports (.datagram d.source d.rawPacket)) := by
  obtain ⟨k, howns, hsource⟩ := h.toClient d hd hto hfrom
  obtain ⟨hasking, -⟩ := h.unmet rfl
  have hadmits : (base s.client).phase.admits d.source := by
    rw [hasking.unanswered.2.resolve_right hopen]
    exact hfrom
  obtain ⟨hbound, hsends⟩ := bound_admitted hasking.unanswered.1 hadmits d.rawPacket
  refine ⟨k, h.bound, fun d' hd' hto' hfrom' => ?_, fun d' hd' hfrom' hto' => ?_,
    fun j o ho hclient _ => h.quiet j o ho hclient (by rintro ⟨⟩), fun j hj howns' => ?_,
    by rintro ⟨⟩, fun j hj => ?_⟩
  · rcases List.mem_append.mp hd' with hd' | hd'
    · exact h.toClient d' hd' hto' hfrom'
    · have hmem := (mem_datagramsFrom.mp hd').2
      rw [hto', hsends ports.client (by rw [hsource]; exact ports.client_ne_operation k)] at hmem
      cases hmem
  · rcases List.mem_append.mp hd' with hd' | hd'
    · rcases h.fromClient d' hd' hfrom' hto' with hserver | ⟨j, hj, -⟩
      · exact Or.inl hserver
      · cases hj
    · have hmem := (mem_datagramsFrom.mp hd').2
      refine Or.inr ⟨k, rfl, ?_⟩
      by_contra hne
      rw [hsends d'.destination (by rw [hsource]; exact hne)] at hmem
      cases hmem
  · obtain rfl := hj k rfl
    obtain ⟨history, t, hrun, ⟨htwin, hclient⟩, ht⟩ := h.followed k (by rintro _ ⟨⟩) howns'
    have heq := htwin.answered hclient.unanswered hopen hfrom d.rawPacket
    obtain ⟨index, hindex⟩ := List.getElem?_of_mem (ht.toClient howns.lt d hd hsource hto)
    have hstep : t.step ports.client (ports.operation k) (.toReceiver index true) =
        t.receiverReacts (ports.operation k) (.datagram d.source d.rawPacket) := by
      rw [Transfer.step, hindex, hsource]
      rfl
    have hnext := hrun.next (.toReceiver index true)
    rw [hstep] at hnext
    refine ⟨_, _, hnext, ?_, ht.clientReacts (congrArg actions heq)⟩
    rw [Transfer.receiverReacts, Hosts.clientReacts, heq]
    exact .refl _
  · obtain rfl := Option.some.inj hj
    exact ⟨hsource ▸ hbound, howns⟩

/-- **The client goes on with its partner.** -/
theorem Meeting.met_clientReacts {k : ℕ}
    (h : Meeting ports rawPacket client operation (some k) s) {e : PeerEvent}
    (he : ReachesClient ports s e) :
    Meeting ports rawPacket client operation (some k) (s.clientReacts ports e) := by
  obtain ⟨hbound, howns⟩ := h.met k rfl
  obtain ⟨hbound', hsends⟩ := hbound.peerStep e
  refine ⟨h.bound, fun d hd hto hfrom => ?_, fun d hd hfrom hto => ?_, h.quiet,
    fun j hj howns' => ?_, by rintro ⟨⟩, fun j hj => ?_⟩
  · rcases List.mem_append.mp hd with hd | hd
    · exact h.toClient d hd hto hfrom
    · have hmem := (mem_datagramsFrom.mp hd).2
      rw [hto, hsends ports.client (ports.client_ne_operation k)] at hmem
      cases hmem
  · rcases List.mem_append.mp hd with hd | hd
    · exact h.fromClient d hd hfrom hto
    · have hmem := (mem_datagramsFrom.mp hd).2
      refine Or.inr ⟨k, rfl, ?_⟩
      by_contra hne
      rw [hsends d.destination hne] at hmem
      cases hmem
  · obtain rfl := hj k rfl
    obtain ⟨history, t, hrun, hresembles, ht⟩ := h.followed k hj howns'
    have heq := Resembles.peerStep_eq hresembles e
    have hnext' : Accompanies ports rawPacket (some k)
        (t.receiverReacts (ports.operation k) e).receiver (s.clientReacts ports e).client := by
      rw [Transfer.receiverReacts, Hosts.clientReacts, heq]
      exact .refl _
    rcases he with rfl | ⟨d, hd, hto, rfl⟩
    · have hnext := hrun.next .receiverTimeout
      exact ⟨_, _, hnext, hnext', ht.clientReacts (congrArg actions heq)⟩
    · by_cases hsource : d.source = ports.operation k
      · obtain ⟨index, hindex⟩ := List.getElem?_of_mem (ht.toClient howns.lt d hd hsource hto)
        have hstep : t.step ports.client (ports.operation k) (.toReceiver index true) =
            t.receiverReacts (ports.operation k) (.datagram d.source d.rawPacket) := by
          rw [Transfer.step, hindex, hsource]
          rfl
        have hnext := hrun.next (.toReceiver index true)
        rw [hstep] at hnext
        exact ⟨_, _, hnext, hnext', ht.clientReacts (congrArg actions heq)⟩
      · -- it is connected to its partner, and does not notice anybody else
        have hrefuses := hbound.refuses hsource d.rawPacket
        have hnil : actions (peerStep s.client (.datagram d.source d.rawPacket)) = [] := by
          rw [hrefuses, Operation.actions, base_withBase]
          rfl
        refine ⟨history, t, hrun, ?_, ht.clientIgnores (by rw [hnil]; rfl) (by rw [hnil]; rfl)⟩
        rw [Hosts.clientReacts, hrefuses]
        exact Resembles.cleared hresembles
  · obtain rfl := Option.some.inj hj
    exact ⟨hbound', howns⟩

/-- **The client reacts**, and may get a partner. -/
theorem Meeting.clientReacts (h : Meeting ports rawPacket client operation partner s)
    {e : PeerEvent} (he : ReachesClient ports s e) :
    ∃ partner', Meeting ports rawPacket client operation partner' (s.clientReacts ports e) := by
  cases partner with
  | some k => exact ⟨some k, h.met_clientReacts he⟩
  | none =>
    by_cases hdone : (base s.client).phase = .done
    · exact ⟨none, h.over_clientReacts hdone e⟩
    · rcases he with rfl | ⟨d, hd, hto, rfl⟩
      · exact ⟨none, h.unmet_clientReacts trivial⟩
      · by_cases hfrom : d.source.address = ports.server.address
        · obtain ⟨k, hk⟩ := h.answered_clientReacts hdone hd hto hfrom
          exact ⟨some k, hk⟩
        · exact ⟨none, h.unmet_clientReacts hfrom⟩

/-- **How the server answers** the request of the client, and all others: with an operation that
talks to nobody but the one who has asked for it. -/
structure Answers (ports : Ports) (rawPacket : RawData) (operation : τ)
    (answer : ReceivedTftpRequest → τ) : Prop where
  request : ∃ request, (ServerImpl.mk true).receiveHandler ports.client rawPacket =
    [.requestHandler request] ∧ answer request = operation
  bound : ∀ request, Bound request.remote (base (answer request))
  sends : ∀ request, SendsOnlyTo request.remote (actions (answer request))
  quiet : Quiet ports.client ⟨ports.client, operation, actions operation⟩

variable {answer : ReceivedTftpRequest → τ} {port : Endpoint}

omit [SteadyOperation σ δ] in
/-- The server does something about a datagram of the given source. -/
theorem Meeting.serverReacts (h : Meeting ports rawPacket client operation partner s)
    (hanswers : Answers ports rawPacket operation answer) (hport : port ≠ ports.client)
    {remote : Endpoint} {a : ServerAction} (ha : a.To remote)
    (hdistinct : (s.serverReacts ports answer port a).PortsDistinct ports)
    (hrequest : ∀ request, a = .requestHandler request → remote = ports.client →
      answer request = operation)
    (herror : ∀ code message, a = .errorOperation remote code message → remote ≠ ports.client) :
    Meeting ports rawPacket client operation partner
      (s.serverReacts ports answer port a) := by
  cases a with
  | requestHandler request =>
    obtain rfl : request.remote = remote := ha
    have hfresh : ∀ j < s.operations.length,
        ports.operation j ≠ ports.operation s.operations.length := fun j hj heq => by
      rw [PortsDistinct, Hosts.serverReacts, List.length_append, List.length_singleton] at hdistinct
      exact hj.ne (hdistinct (Nat.lt_succ_of_lt hj) (Nat.lt_succ_self _) heq)
    refine h.attended hfresh (hanswers.bound request) (hanswers.sends request) fun hremote => ?_
    rw [hrequest request rfl hremote, hremote]
    exact ⟨rfl, hanswers.quiet⟩
  | errorOperation remote' code message =>
    obtain rfl : remote' = remote := ha
    have hforeign := herror code message rfl
    refine h.of_inFlight (fun d hd => ?_) fun t k ht => ht.sent hport fun hto => absurd hto hforeign
    rcases List.mem_append.mp hd with hd | hd
    · exact Or.inl hd
    · obtain rfl := List.mem_singleton.mp hd
      exact Or.inr ⟨hport, fun hto => absurd hto hforeign⟩
  | badFunctionCall => exact h

variable [SteadyOperation τ ε]

/-- **A datagram arrives.** -/
theorem Meeting.arrive (h : Meeting ports rawPacket client operation partner s)
    (hanswers : Answers ports rawPacket operation answer) (hport : port ≠ ports.client)
    {d : Datagram} (hd : d ∈ s.inFlight)
    (hdistinct : (s.arrive ports answer d port).PortsDistinct ports) :
    ∃ partner', Meeting ports rawPacket client operation partner'
      (s.arrive ports answer d port) := by
  rw [Hosts.arrive] at hdistinct ⊢
  split_ifs at hdistinct ⊢ with hclient hserver
  · exact h.clientReacts (Or.inr ⟨d, hd, hclient, rfl⟩)
  · refine ⟨partner, ?_⟩
    by_cases hfrom : d.source = ports.client
    · -- it is the request of the client
      obtain ⟨request, hreceived, hanswer⟩ := hanswers.request
      obtain ⟨-, hsame⟩ : d.destination = ports.server ∧ d.rawPacket = rawPacket := by
        rcases h.fromClient d hd hfrom (by rw [hserver]) with hboth | ⟨k, -, hk⟩
        · exact hboth
        · exact absurd (hk.symm.trans hserver) (ports.operation_ne_server k)
      have hto := (ServerImpl.mk true).to_of_mem_receiveHandler ports.client rawPacket
      rw [hreceived] at hto
      rw [hfrom, hsame, hreceived] at hdistinct ⊢
      refine h.serverReacts hanswers hport (hto _ List.mem_cons_self) hdistinct
        (fun request' heq _ => ?_) (by rintro _ _ ⟨⟩)
      rw [← ServerAction.requestHandler.inj heq, hanswer]
    · -- it is from somebody else, and so is what is done about it
      have hto := (ServerImpl.mk true).to_of_mem_receiveHandler d.source d.rawPacket
      generalize (ServerImpl.mk true).receiveHandler d.source d.rawPacket = reactions
        at hto hdistinct ⊢
      clear hd
      induction reactions generalizing s with
      | nil => exact h
      | cons a reactions ih =>
        obtain ⟨ha, hto⟩ := List.forall_mem_cons.mp hto
        rw [List.foldl_cons] at hdistinct ⊢
        have hdistinct' :=
          hdistinct.mono (length_le_foldl_serverReacts ports answer port reactions _)
        have hnext := h.serverReacts hanswers hport ha hdistinct'
          (fun _ _ heq => absurd heq hfrom) fun _ _ _ => hfrom
        exact ih hnext hto hdistinct
  · cases hindex : ports.index s.operations.length d.destination with
    | none => exact ⟨partner, h⟩
    | some k =>
      rw [hindex] at hdistinct
      have hdistinct' := hdistinct.mono (length_operationReacts ports s k _).ge
      refine ⟨partner, h.operationReacts hdistinct' (Or.inr ⟨d, hd, ?_, rfl⟩)⟩
      exact (Ports.operation_of_index hindex).symm

/-- **One event.** -/
theorem Meeting.step (h : Meeting ports rawPacket client operation partner s)
    (hanswers : Answers ports rawPacket operation answer) {e : HostsEvent}
    (he : e.Honest ports) (hdistinct : (s.step ports answer e).PortsDistinct ports) :
    ∃ partner', Meeting ports rawPacket client operation partner' (s.step ports answer e) := by
  cases e with
  | deliver index port =>
    rw [Hosts.step] at hdistinct ⊢
    cases hd : s.inFlight[index]? with
    | none => exact ⟨partner, h⟩
    | some d =>
      rw [hd] at hdistinct
      exact h.arrive hanswers he (List.mem_of_getElem? hd) hdistinct
  | lose index =>
    have hsubset : ∀ d ∈ s.inFlight.eraseIdx index, d ∈ s.inFlight := fun d hd =>
      List.mem_of_mem_eraseIdx hd
    exact ⟨partner, h.of_inFlight (fun d hd => Or.inl (hsubset d hd)) fun t k ht =>
      ht.subset hsubset⟩
  | clientTimeout => exact h.clientReacts (Or.inl rfl)
  | operationTimeout index =>
    have hdistinct' := hdistinct.mono (length_operationReacts ports s index .timeout).ge
    exact ⟨partner, h.operationReacts hdistinct' (Or.inl rfl)⟩
  | foreign d =>
    obtain ⟨hclient, hserver⟩ := he
    refine ⟨partner, h.of_inFlight (fun d' hd' => ?_) fun t k ht =>
      ht.sent hclient fun _ => hserver⟩
    rcases List.mem_append.mp hd' with hd' | hd'
    · exact Or.inl hd'
    · obtain rfl := List.mem_singleton.mp hd'
      exact Or.inr ⟨hclient, fun _ => hserver⟩

/-- **Whoever sends what to whom**, the client and its partner take part in a transfer of their
own, and no other operation hears of the client. -/
theorem meeting_run (hasking : Asking ports.server rawPacket client)
    (hunsuccessful : .finished .successful ∉ actions client)
    (hsends : ∀ destination, ∀ rawPacket' ∈ sentTo destination (actions client),
      destination = ports.server ∧ rawPacket' = rawPacket)
    (hanswers : Answers ports rawPacket operation answer)
    {history : List (Transition (Hosts σ τ) HostsEvent)}
    (hrun : Run (step ports answer) (.started ports client) history s)
    (hhonest : ∀ t ∈ history, t.event.Honest ports) (hdistinct : s.PortsDistinct ports) :
    ∃ partner, Meeting ports rawPacket client operation partner s := by
  induction hrun with
  | start =>
    refine ⟨none, by rintro o ⟨⟩, fun d hd hto _ => ?_, fun d hd _ _ => ?_, by rintro k o ⟨⟩,
      fun k _ _ => ?_, fun _ => ⟨hasking, hunsuccessful⟩, by rintro k ⟨⟩⟩
    · have hserver := hsends _ _ (mem_datagramsFrom.mp hd).2
      exact absurd (hto.symm.trans hserver.1) ports.client_ne_server
    · exact Or.inl (hsends _ _ (mem_datagramsFrom.mp hd).2)
    · exact ⟨[], _, .start, ⟨Twin.refl _, hasking⟩, follows_started client⟩
  | next e hrun ih =>
    obtain ⟨hpast, hlast⟩ := List.forall_mem_append.mp hhonest
    obtain ⟨partner, h⟩ := ih hpast (hdistinct.mono (length_le_step ports answer _ e))
    exact h.step hanswers (hlast _ List.mem_cons_self) hdistinct

end Meetings

end Hosts

end Tftp
