import Tftp.Finishing
import Tftp.Clients.Foreign
import Tftp.Handling
import Tftp.Relations

/-!
# Graceful aborts

When it is aborted gracefully, a client sends an ERROR packet to its server, "if already received
something from remote". What it looks at is the endpoint variable, and that is where every
datagram leaves its source as long as the socket is not connected – the one of the server, and
those from elsewhere, too. After one of the latter the variable is set and there is nobody to send
to: `send` ends the operation with `CommunicationError`, and `finished` is entered once more for
the abort, on a socket that is closed.

`Tftp.Clients.listen` follows the variable along the events, without any of the rest of the
state. With it the abort can be judged by the events (`Tftp.Clients.Unmistaken`).
-/

namespace Tftp

open Protocol

namespace OperationImpl

variable {δ : Type}

/-- **From one state to the other** the socket has been closed or left alone, and so have the
endpoints. -/
structure Moored (b b' : OperationImpl δ) : Prop where
  endpoint : b'.receiveEndpointV = b.receiveEndpointV
  remote : b'.remoteV = b.remoteV
  socket : b'.socketV = b.socketV ∨ b'.socketV = .closed

variable {b b' b'' : OperationImpl δ} {f : Faults}

theorem Moored.refl (b : OperationImpl δ) : b.Moored b := ⟨rfl, rfl, Or.inl rfl⟩

theorem Moored.trans (h : b.Moored b') (h' : b'.Moored b'') : b.Moored b'' := by
  refine ⟨h'.endpoint.trans h.endpoint, h'.remote.trans h.remote, ?_⟩
  rcases h'.socket with hsock | hsock
  · rw [hsock]
    exact h.socket
  · exact Or.inr hsock

section Engine

variable [DataHandler δ]

theorem moored_finished (b : OperationImpl δ) (status : TransferStatus)
    (errorInformation : Option (ErrorCode × RawData)) :
    b.Moored (b.finished status errorInformation) := by
  by_cases halive : b.terminated = true
  · rw [finished, if_pos halive]
    exact .refl b
  · cases hsock : b.socketV with
    | closed =>
      simp only [finished, hsock, if_neg halive]
      exact ⟨rfl, rfl, Or.inr rfl⟩
    | opened | connected peer =>
      simp only [finished, hsock, if_neg halive]
      split_ifs <;> exact ⟨rfl, rfl, Or.inr rfl⟩

theorem Moored.finished (h : b.Moored b') (status : TransferStatus)
    (errorInformation : Option (ErrorCode × RawData)) :
    b.Moored (b'.finished status errorInformation) :=
  h.trans (moored_finished b' status errorInformation)

/-- Changing what does not matter before the operation is finished. -/
theorem moored_finished_of_eq (hendpoint : b'.receiveEndpointV = b.receiveEndpointV)
    (hremote : b'.remoteV = b.remoteV) (hsock : b'.socketV = b.socketV) (status : TransferStatus)
    (errorInformation : Option (ErrorCode × RawData)) :
    b.Moored (b'.finished status errorInformation) :=
  Moored.finished ⟨hendpoint, hremote, Or.inl hsock⟩ status errorInformation

theorem moored_send (b : OperationImpl δ) (packet : Packet) : b.Moored (b.send f packet) := by
  by_cases halive : b.terminated = true
  · rw [send, if_pos halive]
    exact .refl b
  · cases hsock : b.socketV with
    | closed | opened =>
      simp only [send, hsock, if_neg halive]
      exact moored_finished_of_eq (by rfl) (by rfl) hsock.symm _ _
    | connected peer =>
      simp only [send, hsock, if_neg halive]
      split_ifs
      · exact moored_finished_of_eq (by rfl) (by rfl) hsock.symm _ _
      · exact ⟨rfl, rfl, Or.inl hsock.symm⟩

theorem moored_arm (b : OperationImpl δ) (onReceive : ReceiveHandler) (onTimeout : TimerHandler)
    (timeout : ℤ) : b.Moored (b.arm f onReceive onTimeout timeout) := by
  rw [arm]
  split_ifs
  · exact .refl b
  · exact moored_finished b _ _
  · exact ⟨rfl, rfl, Or.inl rfl⟩

/-- **The shared functions leave the endpoints alone.** -/
theorem respected_moored : Respected (Moored (δ := δ)) where
  refl := .refl
  trans h h' := h.trans h'
  finished := moored_finished
  send b _ packet := moored_send b packet
  arm b _ := moored_arm b
  receiveTimeout _ _ := ⟨rfl, rfl, Or.inl rfl⟩

end Engine

theorem moored_optionNegotiation (b : OperationImpl δ)
    (handler : Option (OptionNegotiationHandler δ)) (options : Options) :
    b.Moored (b.optionNegotiation handler options).2 := by
  cases handler with
  | none => exact .refl b
  | some handler => exact ⟨rfl, rfl, Or.inl rfl⟩

/-- What a receiver calls leaves the endpoints alone. -/
theorem receiverRespected_moored [ReceiveDataHandler δ]
    (handler : Option (OptionNegotiationHandler δ)) :
    ReceiverRespected (Moored (δ := δ)) handler where
  toRespected := respected_moored
  optionNegotiation b options := moored_optionNegotiation b handler options
  receivedTransferSize b transferSize := by
    rw [receivedTransferSize]
    split_ifs
    · exact .refl b
    · exact ⟨rfl, rfl, Or.inl rfl⟩
  receivedData _ _ := ⟨rfl, rfl, Or.inl rfl⟩

/-- What a sender calls leaves the endpoints alone. -/
theorem senderRespected_moored [TransmitDataHandler δ]
    (handler : Option (OptionNegotiationHandler δ)) :
    SenderRespected (Moored (δ := δ)) handler where
  toRespected := respected_moored
  optionNegotiation b options := moored_optionNegotiation b handler options
  nextData b maxSize := by
    rw [nextData]
    split_ifs
    · exact .refl b
    · exact ⟨rfl, rfl, Or.inl rfl⟩

end OperationImpl

open OperationImpl hiding actions

namespace Clients

variable {δ : Type}

/-! ### What a client has listened to -/

/-- The source of the last datagram that was received by a socket that was not connected before
it, the one of the server, if it has come, or the last one from elsewhere. -/
def listen (server : Address) (heard : Option Endpoint) : PeerEvent → Option Endpoint
  | .timeout => heard
  | .datagram source _ =>
      if heard.any fun endpoint => endpoint.address = server then heard else some source

/-- What a client has listened to in the course of the events. -/
def heard (server : Address) (events : List PeerEvent) : Option Endpoint :=
  events.foldl (listen server) none

/-- **Nobody else is taken for the server**: what was heard last came from the server. The
endpoint that stands for none is not noticed. -/
def Unmistaken (server : Address) (events : List PeerEvent) : Prop :=
  ∀ source, heard server events = some source → (source ≠ {} ↔ source.address = server)

/-- **The endpoint variable is what was heard last**, and the socket is connected if that was the
server – as long as the operation is not over. -/
def Follows (server : Address) (last : Option Endpoint) (b : OperationImpl δ) : Prop :=
  b.socketV = .closed ∨ b.receiveEndpointV = last.getD {} ∧
    (b.socketV = .opened ∧ (∀ source, last = some source → source.address ≠ server) ∨
      ∃ peer, b.socketV = .connected peer ∧ last = some peer ∧ peer.address = server)

theorem heard_concat (server : Address) (events : List PeerEvent) (e : PeerEvent) :
    heard server (events ++ [e]) = listen server (heard server events) e := by
  rw [heard, List.foldl_append]
  rfl

/-- What follows what was heard still does, if the endpoints are left alone. -/
theorem Follows.moored {server : Address} {last : Option Endpoint} {b b' : OperationImpl δ}
    (h : Follows server last b) (hm : b.Moored b') : Follows server last b' := by
  rcases h with hclosed | ⟨hendpoint, hsock⟩
  · exact Or.inl (hm.socket.elim (·.trans hclosed) id)
  · rcases hm.socket with heq | hclosed
    · rw [Follows, hm.endpoint, heq]
      exact Or.inr ⟨hendpoint, hsock⟩
    · exact Or.inl hclosed

section Run

open Operation

variable {σ : Type} [DataHandler δ] [Operation σ δ] {s : σ} {server : Address}
  {last : Option Endpoint}

/-- A packet of the peer of a connected client. -/
theorem peerStep_peer (halive : (base s).terminated = false) {peer : Endpoint}
    (hsock : (base s).socketV = .connected peer) (hrec : (base s).receives = [.receiveHandler])
    (rawPacket : RawData) :
    peerStep s (.datagram peer rawPacket) =
      received (withBase s ((base s).takenUp peer (base s).receiveEndpointV)) {}
        (PacketHandler.packet (rawPacket.take (base s).receivePacketV)) := by
  rw [peerStep_datagram halive]
  simp [onDatagram, receiveHandler, OperationImpl.cleared, OperationImpl.takenUp, hrec, hsock,
    Socket.accepts]

/-- The timer expires: the stored packet is sent again, or the operation is over. -/
theorem moored_timeout (h : (base s).Settled) :
    (base s).Moored (base (peerStep s .timeout)) := by
  have hreaction := reaction h .timeout
  generalize hs : peerStep s .timeout = s' at hreaction
  generalize he : PeerEvent.timeout = e at hreaction
  cases hreaction with
  | foreign | received => cases he
  | idle | resend =>
    rw [base_withBase]
    exact ⟨rfl, rfl, Or.inl rfl⟩
  | expire | dallied =>
    rw [base_withBase]
    exact ⟨rfl, rfl, Or.inr rfl⟩

/-- A client whose packet handlers leave the endpoints alone. -/
class MooredClient (σ : Type) (δ : outParam Type) [DataHandler δ] [Operation σ δ] : Prop where
  received_moored : ∀ (s : σ) f r, (base s).Moored (base (received s f r))
  base_gracefulAbort : ∀ (s : σ) f errorCode errorMessage,
    base (gracefulAbort s f errorCode errorMessage) =
      OperationImpl.gracefulAbort (base s) f errorCode errorMessage

variable [MooredClient σ δ]

/-- **Every event is followed.** -/
theorem follows_peerStep (hset : (base s).Settled) (hremote : (base s).remoteV.address = server)
    (h : Follows server last (base s)) (e : PeerEvent) :
    (base (peerStep s e)).remoteV = (base s).remoteV ∧
      Follows server (listen server last e) (base (peerStep s e)) := by
  cases e with
  | timeout =>
    have hm := moored_timeout hset
    exact ⟨hm.remote, h.moored hm⟩
  | datagram source rawPacket =>
    obtain ⟨halive, hshape⟩ := hset
    rcases h with hclosed | ⟨hendpoint, ⟨hopened, hlast⟩ | ⟨peer, hconnected, hlast, hpeer⟩⟩
    · -- a closed socket receives nothing
      rw [peerStep_unaccepted halive (by rw [hclosed]; rfl), base_withBase]
      exact ⟨rfl, Or.inl hclosed⟩
    · -- whoever sends to an open socket is remembered, and a server is connected to
      rw [hopened] at hshape
      obtain ⟨hreceives, -⟩ := hshape
      have hnot : last.any (fun endpoint => endpoint.address = server) = false := by
        cases last with
        | none => rfl
        | some other => simpa using hlast other rfl
      rw [listen, hnot]
      by_cases hsource : source.address = server
      · rw [peerStep_server halive hopened hreceives (hsource.trans hremote.symm)]
        have hm := MooredClient.received_moored (withBase s ((base s).takenUp source source)) {}
          (PacketHandler.packet (rawPacket.take (base s).receivePacketV))
        rw [base_withBase] at hm
        refine ⟨hm.remote, Follows.moored (Or.inr ⟨rfl, Or.inr ⟨source, rfl, rfl, hsource⟩⟩) hm⟩
      · rw [peerStep_foreign halive hopened hreceives (by rw [hremote]; exact hsource),
          base_withBase]
        refine ⟨rfl, Or.inr ⟨rfl, Or.inl ⟨hopened, fun other heq => ?_⟩⟩⟩
        obtain rfl := Option.some.inj heq
        exact hsource
    · -- a connected socket hears nobody else
      rw [hconnected] at hshape
      have hlisten : listen server last (.datagram source rawPacket) = last := by
        rw [listen, hlast, Option.any_some, if_pos (by simpa using hpeer)]
      rw [hlisten]
      have hfollows : Follows server last (base s) :=
        Or.inr ⟨hendpoint, Or.inr ⟨peer, hconnected, hlast, hpeer⟩⟩
      by_cases hsource : source = peer
      · subst hsource
        rw [peerStep_peer halive hconnected hshape.1]
        have hm := MooredClient.received_moored
          (withBase s ((base s).takenUp source (base s).receiveEndpointV)) {}
          (PacketHandler.packet (rawPacket.take (base s).receivePacketV))
        rw [base_withBase] at hm
        refine ⟨hm.remote, Follows.moored ?_ hm⟩
        exact Or.inr ⟨hendpoint, Or.inr ⟨source, rfl, hlast, hpeer⟩⟩
      · rw [peerStep_unaccepted halive (by rw [hconnected]; simpa [Socket.accepts] using hsource),
          base_withBase]
        exact ⟨rfl, hfollows⟩

end Run

section History

open Operation

variable {σ : Type} [DataHandler δ] [PeerOperation σ δ] [MooredClient σ δ] {init s : σ}
  {server : Address} {history : List (Transition σ PeerEvent)}

/-- **Every run is followed.** -/
theorem follows_run (hset : (base init).Settled) (hremote : (base init).remoteV.address = server)
    (hinit : Follows server none (base init)) (hrun : Run peerStep init history s) :
    (base s).remoteV = (base init).remoteV ∧
      Follows server (heard server (history.map Transition.event)) (base s) := by
  induction hrun with
  | start => exact ⟨rfl, hinit⟩
  | @next history s e hrun ih =>
    obtain ⟨hsame, hfollows⟩ := ih
    have hstep := follows_peerStep (settled_run hset hrun) (by rw [hsame]; exact hremote) hfollows e
    rw [List.map_append, List.map_singleton, heard_concat]
    exact ⟨hstep.1.trans hsame, hstep.2⟩

end History

/-! ### The abort -/

/-- **A graceful abort as it should be**: the ERROR packet is sent if the socket is connected, the
end is reported once, as an abort and with the given error information, and the process goes
on. -/
structure AbortedGracefully (b b' : OperationImpl δ) (errorCode : ErrorCode)
    (errorMessage : RawData) : Prop where
  tells : (∃ destination,
    .send (Packet.error errorCode errorMessage).encode destination ∈ b'.actions) ↔
      ∃ peer, b.socketV = .connected peer
  completes : reports b'.actions = Action.completion b.completionHandlerV .aborted
  errorInformation : b'.errorInformationV = some (errorCode, errorMessage)
  alive : b'.terminated = false

/-- What was done before does not matter. -/
theorem abortedGracefully_cleared {b b' : OperationImpl δ} {errorCode : ErrorCode}
    {errorMessage : RawData} : AbortedGracefully b.cleared b' errorCode errorMessage ↔
      AbortedGracefully b b' errorCode errorMessage :=
  ⟨fun h => ⟨h.tells, h.completes, h.errorInformation, h.alive⟩,
    fun h => ⟨h.tells, h.completes, h.errorInformation, h.alive⟩⟩

/-- **The abort is as it should be if the endpoint variable tells whether the socket is
connected.** -/
theorem OperationImpl.gracefulAbort_iff [DataHandler δ] {b : OperationImpl δ}
    (halive : b.terminated = false) (hactions : b.actions = []) (hopen : b.socketV ≠ .closed)
    (errorCode : ErrorCode) (errorMessage : RawData) :
    AbortedGracefully b (gracefulAbort b {} errorCode errorMessage) errorCode errorMessage ↔
      (b.receiveEndpointV ≠ {} ↔ ∃ peer, b.socketV = .connected peer) := by
  have hsilent : ∀ destination, Action.send (Packet.error errorCode errorMessage).encode
      destination ∉ b.completion .aborted := by
    intro destination
    rw [completion, Action.completion]
    split_ifs <;> simp
  by_cases hendpoint : b.receiveEndpointV = {}
  · -- nothing is sent
    rw [gracefulAbort, if_neg (not_not_intro hendpoint), finished_eq halive hopen]
    have hquiet : ¬ ∃ destination, Action.send (Packet.error errorCode errorMessage).encode
        destination ∈ (b.completed .aborted (some (errorCode, errorMessage))).actions := by
      rintro ⟨destination, hmem⟩
      rw [completed, hactions] at hmem
      exact hsilent destination hmem
    constructor
    · intro h
      exact iff_of_false (not_not_intro hendpoint) fun hpeer => hquiet (h.tells.mpr hpeer)
    · intro h
      refine ⟨iff_of_false hquiet fun hpeer => h.mpr hpeer hendpoint, ?_, rfl, halive⟩
      rw [completed, hactions]
      exact reports_completion _ _
  · rw [gracefulAbort, if_pos hendpoint]
    cases hsock : b.socketV with
    | closed => exact absurd hsock hopen
    | opened =>
      -- sending fails, and the end is reported on a closed socket
      refine iff_of_false (fun h => ?_) fun h => ?_
      · have hsend : b.send {} (.error errorCode errorMessage) =
            OperationImpl.completed { b with
              terminated := false
              socketV := .opened
              transmitCounterV := 1
              transmitPacketV := (Packet.error errorCode errorMessage).encode }
                .communicationError none := by
          simp only [send, halive, hsock, Bool.false_eq_true, if_false]
          exact finished_eq rfl (by rintro ⟨⟩) _ _
        have hterminated := h.alive
        rw [hsend, finished, if_neg (by simp [completed])] at hterminated
        cases hterminated
      · obtain ⟨peer, hpeer⟩ := h.mp hendpoint
        cases hpeer
    | connected peer =>
      -- the peer is told
      have hsend : b.send {} (.error errorCode errorMessage) =
          b.sent (.error errorCode errorMessage) peer := by
        simp [send, halive, hsock, OperationImpl.sent, emit]
      rw [hsend, finished_eq (by exact halive) (by rw [OperationImpl.sent, hsock]; rintro ⟨⟩)]
      refine iff_of_true ⟨iff_of_true ⟨peer, ?_⟩ ⟨peer, hsock⟩, ?_, rfl, halive⟩
        (iff_of_true hendpoint ⟨peer, rfl⟩)
      · simp [completed, OperationImpl.sent]
      · simp only [completed, OperationImpl.sent, hactions, List.nil_append, reports_append]
        exact reports_completion _ _

/-- As long as the operation is not over, what was heard tells whether the variable is right. -/
theorem Follows.unmistaken_iff {server : Address} {last : Option Endpoint} {b : OperationImpl δ}
    (h : Follows server last b) (hopen : b.socketV ≠ .closed) :
    (b.receiveEndpointV ≠ {} ↔ ∃ peer, b.socketV = .connected peer) ↔
      ∀ source, last = some source → (source ≠ {} ↔ source.address = server) := by
  rcases h with hclosed | ⟨hendpoint, ⟨hopened, hlast⟩ | ⟨peer, hconnected, hlast, hpeer⟩⟩
  · exact absurd hclosed hopen
  · rw [hendpoint, hopened]
    cases last with
    | none => simp
    | some source => simp [hlast source rfl]
  · rw [hendpoint, hconnected, hlast]
    simp [hpeer]

section Abort

open Operation

variable {σ : Type} [DataHandler δ] [PeerOperation σ δ] [MooredClient σ δ] {init s : σ}
  {history : List (Transition σ PeerEvent)}

/-- **When a client can be aborted gracefully**, in every state of every run in which it is not
over. -/
theorem gracefulAbort_run_iff (hset : (base init).Settled)
    (hopened : (base init).socketV = .opened) (hnone : (base init).receiveEndpointV = {})
    (hrun : Run peerStep init history s) (hgoing : (base s).phase ≠ .done) (errorCode : ErrorCode)
    (errorMessage : RawData) :
    AbortedGracefully (base s) (base (step s ({}, .gracefulAbort errorCode errorMessage)))
        errorCode errorMessage ↔
      Unmistaken (base init).remoteV.address (history.map Transition.event) := by
  obtain ⟨-, hfollows⟩ := follows_run hset rfl
    (Or.inr ⟨hnone, Or.inl ⟨hopened, (by rintro _ ⟨⟩)⟩⟩) hrun
  have halive := (settled_run hset hrun).1
  have hopen : (base s).socketV ≠ .closed := fun hclosed => hgoing (phase_closed hclosed)
  have hstep : base (step s ({}, .gracefulAbort errorCode errorMessage)) =
      OperationImpl.gracefulAbort (base s).cleared {} errorCode errorMessage := by
    simp only [step, base_withBase]
    rw [if_neg (by simp [halive]), MooredClient.base_gracefulAbort, base_withBase]
    rfl
  rw [hstep, Unmistaken, ← hfollows.unmistaken_iff hopen, ← abortedGracefully_cleared]
  exact OperationImpl.gracefulAbort_iff (b := (base s).cleared) halive rfl hopen errorCode
    errorMessage

end Abort

instance [ReceiveDataHandler δ] : MooredClient (ReadOperationImpl δ) δ where
  received_moored _ _ r := (ReadOperationImpl.received_leads (receiverRespected_moored _) r).1
  base_gracefulAbort _ _ _ _ := rfl

instance [TransmitDataHandler δ] : MooredClient (WriteOperationImpl δ) δ where
  received_moored _ _ r := WriteOperationImpl.received_respected (senderRespected_moored _) r
  base_gracefulAbort _ _ _ _ := rfl

/-- **When a graceful abort is as it should be**: exactly if nobody else is taken for the server.
In every run of datagrams from anywhere and of timer expiries, as long as the operation is not
over. -/
theorem aborted_gracefully_iff (δ ε : Type) [ReceiveDataHandler δ] [TransmitDataHandler ε] :
    (∀ (settings : Settings δ) history s errorCode errorMessage,
      Run Operation.peerStep ((ReadOperationImpl.configured settings).request {}) history s →
      s.phase ≠ .done →
      (AbortedGracefully s.toOperationImpl
        (Operation.step s ({}, .gracefulAbort errorCode errorMessage)).toOperationImpl
          errorCode errorMessage ↔
        Unmistaken settings.remote.address (history.map Transition.event))) ∧
    (∀ (settings : Settings ε) history s errorCode errorMessage,
      Run Operation.peerStep ((WriteOperationImpl.configured settings).request {}) history s →
      s.phase ≠ .done →
      (AbortedGracefully s.toOperationImpl
        (Operation.step s ({}, .gracefulAbort errorCode errorMessage)).toOperationImpl
          errorCode errorMessage ↔
        Unmistaken settings.remote.address (history.map Transition.event))) := by
  constructor
  · intro settings history s errorCode errorMessage hrun hgoing
    rw [ReadOperationImpl.request_eq (ReadOperationImpl.idle_configured settings)] at hrun
    exact gracefulAbort_run_iff (OperationImpl.settled_requested
      (ReadOperationImpl.idle_configured settings).alive _).1 rfl rfl hrun hgoing errorCode
        errorMessage
  · intro settings history s errorCode errorMessage hrun hgoing
    rw [WriteOperationImpl.request_eq (WriteOperationImpl.idle_configured settings)] at hrun
    have hset : (WriteOperationImpl.configured settings).requested.Settled :=
      ⟨rfl, rfl, _, rfl⟩
    exact gracefulAbort_run_iff hset rfl rfl hrun hgoing errorCode errorMessage

/-- A client of a server. -/
def client : Settings MemoryFile :=
  { remote := { address := .v4 1, port := 69 }, dataHandler := .empty }

/-- The server has sent the first block to a client that reads. -/
def answeredRead :
    List (Transition (ReadOperationImpl MemoryFile) PeerEvent) × ReadOperationImpl MemoryFile :=
  replay Operation.peerStep ((ReadOperationImpl.configured client).request {})
    [.datagram ⟨.v4 1, 5⟩ ([0, 3, 0, 1] ++ List.replicate 512 97)]

/-- The server has acknowledged the request of a client that writes. -/
def answeredWrite :
    List (Transition (WriteOperationImpl MemoryFile) PeerEvent) × WriteOperationImpl MemoryFile :=
  replay Operation.peerStep ((WriteOperationImpl.configured client).request {})
    [.datagram ⟨.v4 1, 5⟩ [0, 4, 0, 0]]

/-- The abort of an operation. -/
abbrev gracefullyAborted {σ : Type} [Operation σ MemoryFile] (s : σ) : OperationImpl MemoryFile :=
  Operation.base (Operation.step s ({}, .gracefulAbort .notDefined []))

/-- A client that has heard nothing tells nobody of its abort, and one that has heard of the server
tells the server. -/
theorem aborted_gracefully_unheard_and_heard :
    AbortedGracefully ((ReadOperationImpl.configured client).request {}).toOperationImpl
      (gracefullyAborted ((ReadOperationImpl.configured client).request {})) .notDefined [] ∧
    AbortedGracefully answeredRead.2.toOperationImpl (gracefullyAborted answeredRead.2)
      .notDefined [] ∧
    AbortedGracefully ((WriteOperationImpl.configured client).request {}).toOperationImpl
      (gracefullyAborted ((WriteOperationImpl.configured client).request {})) .notDefined [] ∧
    AbortedGracefully answeredWrite.2.toOperationImpl (gracefullyAborted answeredWrite.2)
      .notDefined [] ∧
    .send (Packet.error .notDefined []).encode ⟨.v4 1, 5⟩ ∈
      (gracefullyAborted answeredWrite.2).actions := by
  obtain ⟨hread, hwrite⟩ := aborted_gracefully_iff MemoryFile MemoryFile
  refine ⟨(hread client [] _ _ _ .start (by decide)).mpr ?_,
    (hread client _ _ _ _ (Run.of_replay _ _ _) (by decide +kernel)).mpr ?_,
    (hwrite client [] _ _ _ .start (by decide)).mpr ?_,
    (hwrite client _ _ _ _ (Run.of_replay _ _ _) (by decide)).mpr ?_, by decide⟩
  · rintro _ ⟨⟩
  · rintro _ ⟨⟩
    decide
  · rintro _ ⟨⟩
  · rintro _ ⟨⟩
    decide

/-- **A datagram from elsewhere is taken for the server**: the client tries to tell it, and the
process is terminated. -/
theorem aborted_after_stranger : ¬ ∀ (settings : Settings MemoryFile) history s errorCode
    errorMessage,
    Run Operation.peerStep ((ReadOperationImpl.configured settings).request {}) history s →
      s.phase ≠ .done →
      AbortedGracefully s.toOperationImpl
        (Operation.step s ({}, .gracefulAbort errorCode errorMessage)).toOperationImpl
          errorCode errorMessage := by
  intro h
  have haborted := h client _ _ .notDefined []
    (Run.next (.datagram { address := .v4 2, port := 69 } []) .start) (by decide)
  exact absurd haborted.alive (by decide)

end Clients

end Tftp
