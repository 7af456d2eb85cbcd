import Tftp.Starts
import Tftp.Files.MemoryFile

/-!
# Datagrams from elsewhere

Until the server has answered, a client listens to everybody. A datagram from another address
shares the receive buffer, the endpoint variable, the socket and the running timer with the
transfer, and still does not influence it: all it changes is the endpoint variable
(`Tftp.Clients.Twin`), which the first datagram of the server overwrites. So two runs that
differ only in such datagrams do the same in every event of the transfer.
-/

namespace Tftp.Clients

open Protocol Operation

/-- An event of the transfer, or a datagram from elsewhere, which is answered unless sending
fails. -/
inductive Disturbed where
  /-- An event of the transfer. -/
  | own (event : PeerEvent)
  /-- A datagram from elsewhere. -/
  | foreign (source : Endpoint) (rawPacket : RawData) (sendUnknownFails : Bool)

namespace Disturbed

/-- What happens to the operation. -/
def toEvent : Disturbed → Faults × Event
  | own event => event.toEvent
  | foreign source rawPacket fails =>
      ({ sendUnknownFails := fails }, .datagram source rawPacket)

/-- Whether it is an event of the transfer. -/
def isOwn : Disturbed → Bool
  | own _ => true
  | foreign .. => false

/-- A datagram of the server, from any port. -/
def FromServer (server : Address) (d : Disturbed) : Prop :=
  ∃ source rawPacket, d = own (.datagram source rawPacket) ∧ source.address = server

end Disturbed

/-- **The datagrams from elsewhere come from other addresses**, and before the first datagram
of the server: afterwards the socket is connected. -/
def Early (server : Address) (events : List Disturbed) : Prop :=
  ∀ past source rawPacket fails rest, events = past ++ .foreign source rawPacket fails :: rest →
    source.address ≠ server ∧ ∀ d ∈ past, ¬ d.FromServer server

section Runs

variable {σ δ : Type} [DataHandler δ] [Operation σ δ]

/-- What an operation does in the events of the transfer, event by event. -/
def answers (s : σ) : List Disturbed → List (List Action)
  | [] => []
  | .own event :: rest => actions (peerStep s event) :: answers (peerStep s event) rest
  | .foreign source rawPacket fails :: rest =>
      answers (step s (Disturbed.foreign source rawPacket fails).toEvent) rest

/-- The state after the given events. -/
def after (s : σ) (events : List Disturbed) : σ :=
  events.foldl (fun s d => step s d.toEvent) s

/-- **A transfer that is not influenced** by the datagrams from elsewhere among the events. -/
structure Uninfluenced (init : σ) (events : List Disturbed) : Prop where
  /-- In every event of the transfer the same is done as without them. -/
  own : answers init events = answers init (events.filter Disturbed.isOwn)
  /-- Each of them that comes while the socket is open is answered with one ERROR packet to
  its sender, if that can be sent. -/
  foreign : ∀ past source rawPacket fails rest,
    events = past ++ .foreign source rawPacket fails :: rest →
    (base (after init past)).socketV ≠ .closed →
    actions (step (after init past) (Disturbed.foreign source rawPacket fails).toEvent) =
      if fails then []
      else [.sendUnknown
        (Packet.error .unknownTransferId (ascii "Packet from wrong source")).encode source]

/-- Two states that differ only in where the last datagram came from. -/
def Twin (s s' : σ) : Prop :=
  ∃ endpoint actions, s' = withBase s { base s with
    receiveEndpointV := endpoint
    actions := actions }

/-- No datagram of the server has come yet: the operation waits for it, or is over. -/
def Unanswered (server : Address) (s : σ) : Prop :=
  (base s).Settled ∧ ((base s).phase = .requesting server ∨ (base s).phase = .done)

variable {s s' : σ} {server : Address}

theorem Twin.refl (s : σ) : Twin s s :=
  ⟨(base s).receiveEndpointV, (base s).actions, (withBase_base s).symm⟩

/-- What it means to wait for the server. -/
theorem Unanswered.cases (h : Unanswered server s) :
    (base s).terminated = false ∧
      ((base s).socketV = .opened ∧ (base s).remoteV.address = server ∧
          (base s).receives = [.receiveFirstHandler] ∧
          (∃ d, (base s).timerV = some (.timeoutFirstHandler, d)) ∨
        (base s).socketV = .closed ∧ (base s).receives = [] ∧ (base s).timerV = none) := by
  obtain ⟨⟨halive, hshape⟩, hphase⟩ := h
  refine ⟨halive, ?_⟩
  cases hsock : (base s).socketV with
  | closed =>
    rw [hsock] at hshape
    exact Or.inr ⟨rfl, hshape⟩
  | opened =>
    rw [hsock] at hshape
    rw [OperationImpl.phase_opened hsock] at hphase
    exact Or.inl ⟨rfl, by simpa using hphase, hshape⟩
  | connected peer =>
    rw [hsock] at hshape
    obtain ⟨-, d, htimer | htimer⟩ := hshape
    · rw [OperationImpl.phase_waiting hsock htimer] at hphase
      rcases hphase with hp | hp <;> cases hp
    · rw [OperationImpl.phase_dallying hsock htimer] at hphase
      rcases hphase with hp | hp <;> cases hp

/-- A closed operation does not react. -/
theorem step_closed (halive : (base s).terminated = false) (hsock : (base s).receives = [])
    (htimer : (base s).timerV = none) (d : Disturbed) :
    step s d.toEvent = withBase s (base s).cleared := by
  cases d with
  | own event =>
    cases event <;>
      simp [Disturbed.toEvent, PeerEvent.toEvent, step, halive, onDatagram, onTimeout, hsock,
        htimer, OperationImpl.cleared]
  | foreign source rawPacket fails =>
    simp [Disturbed.toEvent, step, halive, onDatagram, hsock, OperationImpl.cleared]

/-- What the expiry of the timer does to an operation that waits for the server. -/
def expired (b : OperationImpl δ) : OperationImpl δ :=
  if b.tftpRetriesV.toNat < b.transmitCounterV.toNat then
    b.cleared.completed .communicationError none
  else b.cleared.resent b.remoteV

theorem expired_twin (b : OperationImpl δ) (endpoint : Endpoint) (acts : List Action) :
    expired { b with receiveEndpointV := endpoint, actions := acts } =
      { expired b with receiveEndpointV := endpoint } := by
  rw [expired, expired]
  split_ifs <;> rfl

section Waiting

variable (halive : (base s).terminated = false) (hsock : (base s).socketV = .opened)

include halive hsock

/-- The timer expires while the operation waits for the server. -/
theorem peerStep_expired {d : ℤ} (htimer : (base s).timerV = some (.timeoutFirstHandler, d)) :
    peerStep s .timeout = withBase s (expired (base s)) := by
  rw [peerStep_timeout halive, expired]
  split_ifs with hlt
  · have hf := finished_cleared halive (by simp [hsock]) .communicationError
    simpa [onTimeout, OperationImpl.cleared, htimer, OperationImpl.timeoutFirstHandler, hlt]
      using congrArg (withBase s) hf
  · simp [onTimeout, OperationImpl.cleared, htimer, OperationImpl.timeoutFirstHandler, hlt, hsock,
      OperationImpl.resent, OperationImpl.emit]

/-- The first datagram of the server. -/
theorem peerStep_server (hrec : (base s).receives = [.receiveFirstHandler]) {source : Endpoint}
    (hsource : source.address = (base s).remoteV.address) (rawPacket : RawData) :
    peerStep s (.datagram source rawPacket) =
      received (withBase s ((base s).takenUp source source)) {}
        (PacketHandler.packet (rawPacket.take (base s).receivePacketV)) := by
  rw [peerStep_datagram halive]
  simp [onDatagram, receiveFirstHandler, receiveHandler, OperationImpl.cleared,
    OperationImpl.takenUp, hrec, hsock, Socket.accepts, hsource]

end Waiting

/-- **A datagram from elsewhere leaves a twin.** -/
theorem Twin.foreign (ht : Twin s s') (hs : Unanswered server s) {source : Endpoint}
    (hsource : source.address ≠ server) (rawPacket : RawData) (fails : Bool) :
    Twin s (step s' (Disturbed.foreign source rawPacket fails).toEvent) := by
  obtain ⟨endpoint, acts, rfl⟩ := ht
  obtain ⟨halive, ⟨hsock, hremote, hrec, -⟩ | ⟨-, hrec, htimer⟩⟩ := hs.cases
  · rw [Disturbed.toEvent, step_foreign (s := withBase s _) (by rw [base_withBase]; exact halive)
      (by rw [base_withBase]; exact hsock) (by rw [base_withBase]; exact hrec)
      (by rw [base_withBase]; rw [← hremote] at hsource; exact hsource)]
    rw [base_withBase, withBase_withBase]
    exact ⟨source, _, rfl⟩
  · rw [step_closed (s := withBase s _) (by rw [base_withBase]; exact halive)
      (by rw [base_withBase]; exact hrec) (by rw [base_withBase]; exact htimer)]
    rw [base_withBase, withBase_withBase]
    exact ⟨endpoint, [], rfl⟩

/-- Waiting for the server goes on, or is over, when the timer expires. -/
theorem Unanswered.expired (hs : Unanswered server s) :
    Unanswered server (withBase s (expired (base s))) := by
  rw [Unanswered, base_withBase, Clients.expired]
  split_ifs
  · have hw :=
      OperationImpl.settled_completed (s := (base s).cleared) hs.1.1 .communicationError none
    exact ⟨hw.1, Or.inr hw.2⟩
  · refine ⟨OperationImpl.settled_resent hs.1 (base s).remoteV, ?_⟩
    rw [OperationImpl.phase_resent]
    exact hs.2

/-- A state that differs only in where the last datagram came from waits as well. -/
theorem Unanswered.twin (hs : Unanswered server s) (ht : Twin s s') : Unanswered server s' := by
  obtain ⟨endpoint, acts, rfl⟩ := ht
  rw [Unanswered, base_withBase]
  exact hs

theorem actions_withBase (b : OperationImpl δ) : actions (withBase s b) = b.actions := by
  rw [Operation.actions, base_withBase]

/-- What two twins have in common. -/
theorem Twin.base_eq (ht : Twin s s') : (∀ b, withBase s' b = withBase s b) ∧
    ∃ endpoint acts, base s' = { base s with
      receiveEndpointV := endpoint
      actions := acts } := by
  obtain ⟨endpoint, acts, rfl⟩ := ht
  exact ⟨fun b => withBase_withBase _ _ _, endpoint, acts, base_withBase _ _⟩

/-- **An event of the transfer does the same to a twin**: the results are twins again, and once
the server has answered they are equal. -/
theorem Twin.own (ht : Twin s s') (hs : Unanswered server s) (e : PeerEvent) :
    actions (peerStep s' e) = actions (peerStep s e) ∧
      (Twin (peerStep s e) (peerStep s' e) ∧ Unanswered server (peerStep s e) ∨
        peerStep s' e = peerStep s e ∧ (Disturbed.own e).FromServer server) := by
  obtain ⟨hwith, endpoint, acts, hbase⟩ := ht.base_eq
  obtain ⟨halive, ⟨hsock, hremote, hrec, d, htimer⟩ | ⟨hsock, hrec, htimer⟩⟩ := hs.cases
  · obtain ⟨halive', ⟨hsock', hremote', hrec', d', htimer'⟩ | ⟨hsock', -⟩⟩ := (hs.twin ht).cases
    · cases e with
      | timeout =>
        rw [peerStep_expired halive hsock htimer, peerStep_expired halive' hsock' htimer',
          actions_withBase, actions_withBase, hwith, hbase, expired_twin]
        refine ⟨rfl, Or.inl ⟨⟨endpoint, (expired (base s)).actions, ?_⟩, hs.expired⟩⟩
        rw [base_withBase, withBase_withBase]
      | datagram source rawPacket =>
        by_cases hsource : source.address = server
        · have heq : peerStep s' (.datagram source rawPacket) =
              peerStep s (.datagram source rawPacket) := by
            rw [peerStep_server halive hsock hrec (hsource.trans hremote.symm),
              peerStep_server halive' hsock' hrec' (hsource.trans hremote'.symm), hwith, hbase]
            rfl
          exact ⟨congrArg actions heq, Or.inr ⟨heq, source, rawPacket, rfl, hsource⟩⟩
        · -- the endpoint is overwritten in both
          have hstep := step_foreign halive hsock hrec (hremote.symm ▸ hsource) rawPacket false
          have hstep' := step_foreign halive' hsock' hrec' (hremote'.symm ▸ hsource) rawPacket false
          rw [hwith, hbase] at hstep'
          have heq : peerStep s' (.datagram source rawPacket) =
              peerStep s (.datagram source rawPacket) := hstep'.trans hstep.symm
          have htwin : Twin s (peerStep s (.datagram source rawPacket)) := ⟨source, _, hstep⟩
          rw [heq]
          exact ⟨rfl, Or.inl ⟨Twin.refl _, hs.twin htwin⟩⟩
    · rw [hbase] at hsock'
      exact absurd (hsock.symm.trans hsock') (by rintro ⟨⟩)
  · have hstep : peerStep s e = withBase s (base s).cleared :=
      step_closed halive hrec htimer (.own e)
    have hstep' : peerStep s' e = withBase s (base s').cleared := by
      rw [← hwith]
      exact step_closed (by rw [hbase]; exact halive) (by rw [hbase]; exact hrec)
        (by rw [hbase]; exact htimer) (.own e)
    have htwin : Twin s (peerStep s e) := ⟨(base s).receiveEndpointV, [], hstep⟩
    refine ⟨?_, Or.inl ⟨⟨endpoint, [], ?_⟩, hs.twin htwin⟩⟩
    · rw [hstep, hstep', actions_withBase, actions_withBase]
      rfl
    · rw [hstep, hstep', base_withBase, withBase_withBase, hbase]
      rfl

/-! ### Runs with and without them -/

theorem Early.tail {d : Disturbed} {events : List Disturbed} (h : Early server (d :: events)) :
    Early server events := by
  intro past source rawPacket fails rest heq
  obtain ⟨hsource, hpast⟩ := h (d :: past) source rawPacket fails rest (by rw [heq]; rfl)
  exact ⟨hsource, fun x hx => hpast x (List.mem_cons_of_mem _ hx)⟩

/-- After the first datagram of the server nothing comes from elsewhere. -/
theorem Early.own_of_fromServer {d : Disturbed} {events : List Disturbed}
    (h : Early server (d :: events)) (hd : d.FromServer server) :
    events.filter Disturbed.isOwn = events := by
  refine List.filter_eq_self.mpr fun x hx => ?_
  cases x with
  | own e => rfl
  | foreign source rawPacket fails =>
    obtain ⟨past, rest, heq⟩ := List.append_of_mem hx
    have hpast := (h (d :: past) source rawPacket fails rest (by rw [heq]; rfl)).2
    exact absurd hd (hpast d List.mem_cons_self)

theorem Twin.answers {events : List Disturbed} (ht : Twin s s') (hs : Unanswered server s)
    (hearly : Early server events) :
    answers s' events = answers s (events.filter Disturbed.isOwn) := by
  induction events generalizing s s' with
  | nil => rfl
  | cons d events ih =>
    cases d with
    | foreign source rawPacket fails =>
      have hsource := (hearly [] source rawPacket fails events rfl).1
      exact ih (ht.foreign hs hsource rawPacket fails) hs hearly.tail
    | own e =>
      obtain ⟨hacts, hnext⟩ := ht.own hs e
      show Operation.actions (peerStep s' e) :: Clients.answers (peerStep s' e) events =
        Operation.actions (peerStep s e) :: Clients.answers (peerStep s e)
          (events.filter Disturbed.isOwn)
      rw [hacts]
      rcases hnext with ⟨htwin, hunanswered⟩ | ⟨heq, hserver⟩
      · rw [ih htwin hunanswered hearly.tail]
      · rw [heq, hearly.own_of_fromServer hserver]

/-- Before the first datagram of the server the operation waits for it, or is over. -/
theorem unanswered_after (hs : Unanswered server s) {past : List Disturbed}
    (hpast : ∀ d ∈ past, ¬ d.FromServer server)
    (hsource : ∀ source rawPacket fails, Disturbed.foreign source rawPacket fails ∈ past →
      source.address ≠ server) : Unanswered server (after s past) := by
  induction past generalizing s with
  | nil => exact hs
  | cons d past ih =>
    obtain ⟨hd, hpast'⟩ := List.forall_mem_cons.mp hpast
    refine ih (s := step s d.toEvent) ?_ hpast' fun source rawPacket fails hmem =>
      hsource source rawPacket fails (List.mem_cons_of_mem _ hmem)
    cases d with
    | foreign source rawPacket fails =>
      exact hs.twin ((Twin.refl s).foreign hs (hsource source rawPacket fails List.mem_cons_self)
        rawPacket fails)
    | own e =>
      obtain ⟨-, ⟨-, hunanswered⟩ | ⟨-, hserver⟩⟩ := (Twin.refl s).own hs e
      · exact hunanswered
      · exact absurd hserver hd

/-- **A client that waits for its server is not influenced.** -/
theorem uninfluenced {events : List Disturbed} (hs : Unanswered server s)
    (hearly : Early server events) : Uninfluenced s events := by
  refine ⟨(Twin.refl s).answers hs hearly, ?_⟩
  intro past source rawPacket fails rest heq hopen
  obtain ⟨hsource, hpast⟩ := hearly past source rawPacket fails rest heq
  have hbefore : Unanswered server (after s past) := by
    refine unanswered_after hs hpast fun source' rawPacket' fails' hmem => ?_
    obtain ⟨past', rest', heq'⟩ := List.append_of_mem hmem
    exact (hearly past' source' rawPacket' fails' (rest' ++ .foreign source rawPacket fails :: rest)
      (by rw [heq, heq']; simp)).1
  obtain ⟨halive, ⟨hsock, hremote, hrec, -⟩ | ⟨hsock, -⟩⟩ := hbefore.cases
  · rw [Disturbed.toEvent, step_foreign halive hsock hrec (by rw [hremote]; exact hsource),
      actions_withBase]
  · exact absurd hsock hopen

end Runs

/-- **Datagrams from elsewhere do not influence a client**, whether it reads or writes. -/
theorem foreign_datagrams (δ ε : Type) [ReceiveDataHandler δ] [TransmitDataHandler ε] :
    (∀ (settings : Settings δ) events, Early settings.remote.address events →
      Uninfluenced ((ReadOperationImpl.configured settings).request {}) events) ∧
    (∀ (settings : Settings ε) events, Early settings.remote.address events →
      Uninfluenced ((WriteOperationImpl.configured settings).request {}) events) := by
  constructor
  · intro settings events hearly
    refine uninfluenced ?_ hearly
    have hset := (ReadOperationImpl.started_request (ReadOperationImpl.idle_configured settings)
      rfl).settled
    rw [ReadOperationImpl.request_eq (ReadOperationImpl.idle_configured settings)] at hset ⊢
    exact ⟨hset, Or.inl rfl⟩
  · intro settings events hearly
    refine uninfluenced ?_ hearly
    have hset := (WriteOperationImpl.started_request (WriteOperationImpl.idle_configured settings)
      rfl).settled
    rw [WriteOperationImpl.request_eq (WriteOperationImpl.idle_configured settings)] at hset ⊢
    exact ⟨hset, Or.inl rfl⟩

/-- A datagram from elsewhere before the answer of the server. -/
def intruded : List Disturbed :=
  [.foreign { address := .v4 1 } [0, 3, 0, 1, 97] false, .own .timeout,
    .own (.datagram {} (Packet.data 1 [98]).encode)]

/-- A client that is disturbed, and still gets its file. -/
theorem foreign_datagrams_one :
    Uninfluenced ((ReadOperationImpl.configured { dataHandler := MemoryFile.empty }).request {})
        intruded ∧
      answers ((ReadOperationImpl.configured { dataHandler := MemoryFile.empty }).request {})
          intruded =
        answers ((ReadOperationImpl.configured { dataHandler := MemoryFile.empty }).request {})
          [.own .timeout, .own (.datagram {} (Packet.data 1 [98]).encode)] := by
  refine ⟨(foreign_datagrams MemoryFile MemoryFile).1 { dataHandler := .empty } intruded ?_,
    by decide⟩
  intro past source rawPacket fails rest heq
  rcases past with _ | ⟨d, past⟩
  · cases heq
    exact ⟨by decide, by simp⟩
  · have hmem : Disturbed.foreign source rawPacket fails ∈ intruded.tail := by
      rw [heq]
      simp
    simp [intruded] at hmem

end Tftp.Clients
