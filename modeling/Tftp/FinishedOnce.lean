import Tftp.Finishing

/-!
# Completion is reported at most once

The runs of an operation with failing calls and a user who aborts. An event that meets an
operation that is not over leaves it so and unreported, or over and reported once; one that
meets an operation that is over changes nothing (`Tftp.Operation.stage_step`,
`Tftp.Operation.over_step`). So the end is reported at most once in every run in which no call
of `send` fails (`Tftp.Operation.Delivers`); and where one fails, it may be reported twice.
-/

namespace Tftp

open Protocol

open OperationImpl hiding actions

/-! ### One event -/

namespace OperationImpl

variable {δ : Type} [DataHandler δ] {s : OperationImpl δ} {f : Faults}

/-- A datagram gets to the handlers of the packets. -/
def Admits (s : OperationImpl δ) (f : Faults) (source : Endpoint) : Prop :=
  ∃ handler rest, s.receives = handler :: rest ∧ s.socketV.accepts source = true ∧
    (handler = .receiveFirstHandler →
      source.address = s.remoteV.address ∧ f.connectFails = false)

theorem Running.progress_timeoutFirstHandler (h : s.Running) :
    s.Progress (s.timeoutFirstHandler f) := by
  rw [timeoutFirstHandler]
  split_ifs
  · exact Or.inr (ends_finished h.alive h.opened _ _)
  · exact Or.inr (ends_finished h.alive h.opened _ _)
  · exact Or.inl ⟨rfl, rfl, Or.inl, reports_concat rfl _⟩

theorem Running.progress_timeoutHandler (h : s.Running) : s.Progress (s.timeoutHandler f) := by
  rw [timeoutHandler]
  rcases hsock : s.socketV with _ | _ | peer
  · exact absurd hsock h.opened
  · split_ifs <;> exact Or.inr (ends_finished h.alive h.opened _ _)
  · dsimp only
    split_ifs
    · exact Or.inr (ends_finished h.alive h.opened _ _)
    · exact Or.inr (ends_finished h.alive h.opened _ _)
    · exact Or.inl ⟨rfl, rfl, Or.inl, reports_concat rfl _⟩

end OperationImpl

/-- The user aborts. -/
def Event.IsAbort : Event → Prop
  | .abort | .gracefulAbort .. => True
  | _ => False

namespace Operation

variable {σ δ : Type} [DataHandler δ] [AnsweringOperation σ δ] {s : σ}

/-- **No call of `send` fails in the course of the event**: where a packet is answered, it is
sent, and where the peer is told of an abort, the socket is connected to it. -/
def Delivers (s : σ) : Faults × Event → Prop
  | (f, .datagram source rawPacket) => (base s).Admits f source →
      AnsweringOperation.answers s
        (PacketHandler.packet (rawPacket.take (base s).receivePacketV)) → f.sendFails = false
  | (f, .gracefulAbort ..) => AnsweringOperation.tells s →
      f.sendFails = false ∧ ∃ peer, (base s).socketV = .connected peer
  | _ => True

omit [DataHandler δ] in
theorem stage_of_progress {b b' : OperationImpl δ} (h : b.Running) (hnil : b.actions = [])
    (hp : b.Progress b') : b'.Stage :=
  (h.stage (by rw [hnil]; rfl)).progress h.not_over hp

/-- Finishing is one report. -/
theorem stage_finished {b : OperationImpl δ} (h : b.Running) (hnil : b.actions = [])
    (status : TransferStatus) (errorInformation : Option (ErrorCode × RawData)) :
    (b.finished status errorInformation).Stage :=
  stage_of_progress h hnil (Or.inr (ends_finished h.alive h.opened _ _))

/-- The handlers of the packets get the datagram. -/
theorem stage_receiveHandler {b : OperationImpl δ} (halive : b.terminated = false)
    (hpeer : ∃ peer, b.socketV = .connected peer) (hnil : b.actions = []) {f : Faults}
    {rawPacket : RawData}
    (hsend : AnsweringOperation.answers s
      (PacketHandler.packet (rawPacket.take b.receivePacketV)) → f.sendFails = false) :
    (base (receiveHandler (withBase s b) f rawPacket)).Stage := by
  have hp := AnsweringOperation.received_progress (withBase s b) f
    (PacketHandler.packet (rawPacket.take b.receivePacketV)) (by rw [base_withBase]; exact hpeer)
    (by rw [AnsweringOperation.answers_withBase]; exact hsend)
  rw [base_withBase] at hp
  rw [receiveHandler, base_withBase]
  exact stage_of_progress ⟨halive, opened_of_connected hpeer, fun _ => hpeer⟩ hnil hp

/-- A datagram from anywhere: the socket is connected if the address is the expected one. -/
theorem stage_receiveFirstHandler {b : OperationImpl δ} (h : b.Running) (hnil : b.actions = [])
    {f : Faults} {source : Endpoint} {rawPacket : RawData}
    (hsend : source.address = b.remoteV.address → f.connectFails = false →
      AnsweringOperation.answers s
        (PacketHandler.packet (rawPacket.take b.receivePacketV)) → f.sendFails = false) :
    (base (receiveFirstHandler (withBase s b) f source rawPacket)).Stage := by
  let b' : OperationImpl δ := { b with receiveEndpointV := source }
  have hrun : b'.Running := ⟨h.alive, h.opened, h.connected⟩
  rw [receiveFirstHandler]
  simp only [base_withBase, withBase_withBase]
  by_cases hsource : source.address = b.remoteV.address
  · rw [if_neg (not_not.mpr hsource.symm)]
    by_cases hconnect : f.connectFails = true
    · rw [if_pos hconnect, base_withBase]
      exact stage_finished hrun hnil _ _
    · rw [if_neg hconnect]
      exact stage_receiveHandler (b := { b' with socketV := .connected source }) hrun.alive
        ⟨source, rfl⟩ hnil (hsend hsource (by simpa using hconnect))
  · rw [if_pos (Ne.symm hsource)]
    -- whether or not the answer to the stranger can be sent
    have hquiet : b'.Quiet (if f.sendUnknownFails then b' else b'.emit (.sendUnknown
        (Packet.error .unknownTransferId (ascii "Packet from wrong source")).encode source)) := by
      split_ifs
      · exact .refl _
      · exact quiet_emit rfl _
    have hrun' := hquiet.running hrun
    by_cases hreceive : f.receiveFails = true
    · rw [if_pos hreceive, base_withBase]
      exact stage_of_progress hrun hnil
        (hquiet.progress (Or.inr (ends_finished hrun'.alive hrun'.opened _ _)))
    · rw [if_neg hreceive, base_withBase]
      exact stage_of_progress hrun hnil (hquiet.progress (Or.inl (quiet_awaitFirst _)))

theorem stage_onDatagram (h : (base s).Running) (hnil : (base s).actions = []) {f : Faults}
    {source : Endpoint} {rawPacket : RawData}
    (hd : (base s).Admits f source → AnsweringOperation.answers s
      (PacketHandler.packet (rawPacket.take (base s).receivePacketV)) → f.sendFails = false) :
    (base (onDatagram s f source rawPacket)).Stage := by
  have hstage := h.stage (by rw [hnil]; rfl)
  rw [onDatagram]
  rcases hreceives : (base s).receives with _ | ⟨handler, rest⟩
  · exact hstage
  by_cases haccepts : (base s).socketV.accepts source = true
  · simp only [haccepts, if_true]
    have hrun : OperationImpl.Running { base s with receives := rest } :=
      ⟨h.alive, h.opened, fun hmem =>
        h.connected (by rw [hreceives]; exact List.mem_cons_of_mem _ hmem)⟩
    cases handler with
    | receiveFirstHandler =>
      exact stage_receiveFirstHandler hrun hnil fun hsource hconnect =>
        hd ⟨_, rest, hreceives, haccepts, fun _ => ⟨hsource, hconnect⟩⟩
    | receiveHandler =>
      have hpeer := h.connected (by rw [hreceives]; exact List.mem_cons_self)
      exact stage_receiveHandler (b := { base s with receives := rest }) h.alive hpeer hnil
        (hd ⟨_, rest, hreceives, haccepts, by rintro ⟨⟩⟩)
  · simpa only [haccepts, Bool.false_eq_true, if_false] using hstage

theorem stage_onTimeout (h : (base s).Running) (hnil : (base s).actions = []) {f : Faults} :
    (base (onTimeout s f)).Stage := by
  rw [onTimeout]
  rcases htimer : (base s).timerV with _ | ⟨handler, d⟩
  · exact h.stage (by rw [hnil]; rfl)
  have hrun : OperationImpl.Running { base s with timerV := none } :=
    ⟨h.alive, h.opened, h.connected⟩
  cases handler with
  | timeoutFirstHandler =>
    rw [base_withBase]
    exact stage_of_progress hrun hnil hrun.progress_timeoutFirstHandler
  | timeoutHandler =>
    rw [base_withBase]
    exact stage_of_progress hrun hnil hrun.progress_timeoutHandler
  | timeoutDallyHandler =>
    rw [base_withBase]
    exact stage_finished hrun hnil _ _

/-- **One event, and the operation is not over**: it goes on, or ends with one report. -/
theorem stage_step (h : (base s).Running) {e : Faults × Event} (hd : Delivers s e) :
    (base (step s e)).Stage := by
  have hrun : (base s).cleared.Running := ⟨h.alive, h.opened, h.connected⟩
  have hstage : (base s).cleared.Stage := hrun.stage rfl
  obtain ⟨f, e⟩ := e
  cases e with
  | datagram source rawPacket =>
    have heq : step s (f, .datagram source rawPacket) =
        onDatagram (withBase s (base s).cleared) f source rawPacket := by
      simp [step, cleared, h.alive]
    rw [heq]
    refine stage_onDatagram (by rw [base_withBase]; exact hrun) (by rw [base_withBase]; rfl) ?_
    rw [base_withBase, AnsweringOperation.answers_withBase]
    exact hd
  | receiveError =>
    rcases hreceives : (base s).receives with _ | ⟨handler, rest⟩
    · have heq : step s (f, .receiveError) = withBase s (base s).cleared := by
        simp [step, cleared, h.alive, hreceives]
      rw [heq, base_withBase]
      exact hstage
    · have heq : step s (f, .receiveError) = withBase s
          (OperationImpl.finished { (base s).cleared with receives := rest } .communicationError
            none) := by
        simp [step, cleared, h.alive, hreceives]
      rw [heq, base_withBase]
      refine stage_finished (b := { (base s).cleared with receives := rest })
        ⟨h.alive, h.opened, fun hmem => h.connected ?_⟩ rfl _ _
      rw [hreceives]
      exact List.mem_cons_of_mem _ hmem
  | timeout =>
    have heq : step s (f, .timeout) = onTimeout (withBase s (base s).cleared) f := by
      simp [step, cleared, h.alive]
    rw [heq]
    exact stage_onTimeout (by rw [base_withBase]; exact hrun) (by rw [base_withBase]; rfl)
  | timerError =>
    rcases htimer : (base s).timerV with _ | timer
    · have heq : step s (f, .timerError) = withBase s (base s).cleared := by
        simp [step, cleared, h.alive, htimer]
      rw [heq, base_withBase]
      exact hstage
    · have heq : step s (f, .timerError) = withBase s
          (OperationImpl.finished { (base s).cleared with timerV := none } .communicationError
            none) := by
        simp [step, cleared, h.alive, htimer]
      rw [heq, base_withBase]
      exact stage_finished (b := { (base s).cleared with timerV := none })
        ⟨h.alive, h.opened, h.connected⟩ rfl _ _
  | abort =>
    have heq : step s (f, .abort) = withBase s (base s).cleared.abort := by
      simp [step, cleared, h.alive]
    rw [heq, base_withBase]
    exact stage_finished hrun rfl _ _
  | gracefulAbort errorCode errorMessage =>
    have heq : step s (f, .gracefulAbort errorCode errorMessage) =
        gracefulAbort (withBase s (base s).cleared) f errorCode errorMessage := by
      simp [step, cleared, h.alive]
    have hp := AnsweringOperation.gracefulAbort_progress (withBase s (base s).cleared) f errorCode
      errorMessage (by rw [base_withBase]; exact hrun) (by
        rw [AnsweringOperation.tells_cleared, base_withBase]
        exact fun htells _ => hd htells)
    rw [base_withBase] at hp
    rw [heq]
    exact stage_of_progress hrun rfl hp

/-- **One event, and the operation is over**: nothing is reported, unless the user aborts what
is over already. -/
theorem over_step (h : (base s).Over) {e : Faults × Event}
    (habort : (base s).terminated = true ∨ ¬ e.2.IsAbort) :
    (base (step s e)).Over ∧ reports (actions (step s e)) = [] := by
  by_cases hterminated : (base s).terminated = true
  · have heq : step s e = withBase s (base s).cleared := by
      simp [step, cleared, hterminated]
    rw [heq, actions, base_withBase]
    exact ⟨Or.inl hterminated, rfl⟩
  · obtain ⟨hclosed, hreceives, htimer⟩ := h.resolve_left hterminated
    have habort := habort.resolve_left hterminated
    -- no handler waits for the event
    have heq : step s e = withBase s (base s).cleared := by
      obtain ⟨f, e⟩ := e
      cases e with
      | abort | gracefulAbort => exact absurd trivial habort
      | datagram | receiveError | timeout | timerError =>
        simp [step, cleared, hterminated, onDatagram, onTimeout, hreceives, htimer]
    rw [heq, actions, base_withBase]
    exact ⟨Or.inr ⟨hclosed, hreceives, htimer⟩, rfl⟩

/-- **What a run with failing calls leaves out**: a call of `send` that fails, and an abort of
what has been reported as over. -/
def Clean (init : σ) (before : List (Transition σ (Faults × Event)))
    (t : Transition σ (Faults × Event)) : Prop :=
  Delivers t.pre t.event ∧ (t.event.2.IsAbort → reports (trace actions init before) = [])

/-- **The whole run**: not over and nothing reported, or over and reported once. -/
theorem stage_run {init : σ} {history : List (Transition σ (Faults × Event))}
    (hstart : (base init).Stage) (hrun : Run step init history s)
    (halong : Along (Clean init) history) :
    (base s).Running ∧ reports (trace actions init history) = [] ∨
      (base s).Over ∧ ∃ c status,
        reports (trace actions init history) = Action.completion c status := by
  induction hrun with
  | start =>
    rw [trace_nil]
    exact hstart
  | @next history s e hrun ih =>
    obtain ⟨hpast, hdelivers, habort⟩ := along_concat.mp halong
    rw [trace_concat, reports_append]
    rcases ih hpast with ⟨hrunning, hnil⟩ | ⟨hover, c, status, hreports⟩
    · rw [hnil, List.nil_append]
      exact stage_step hrunning hdelivers
    · -- an abort would come after the report
      have hno : ¬ e.2.IsAbort := by
        intro h
        rw [habort h, Action.completion] at hreports
        cases hreports
      obtain ⟨hover', hnil⟩ := over_step hover (Or.inr hno)
      rw [hnil, List.append_nil]
      exact Or.inr ⟨hover', c, status, hreports⟩

theorem atMostOnce_run {init : σ} {history : List (Transition σ (Faults × Event))}
    (hstart : (base init).Stage) (hrun : Run step init history s)
    (halong : Along (Clean init) history) : AtMostOnce (trace actions init history) := by
  rcases stage_run hstart hrun halong with ⟨-, hnil⟩ | ⟨-, c, status, hreports⟩
  · exact atMostOnce_of_nil hnil
  · exact atMostOnce_of_completion hreports

end Operation

/-! ### The start -/

section Starts

variable {δ : Type} {f : Faults}

namespace Clients

/-- The socket can be opened and bound. -/
def OperationImpl.Initialises (s : OperationImpl δ) (f : Faults) : Prop :=
  f.openFails = false ∧ (s.localV.address.isUnspecified = true ∨ f.bindFails = false)

/-- **A socket that cannot be opened ends the process**, with one report: the socket is closed
when `finished` cancels it. -/
theorem OperationImpl.stage_initialise [DataHandler δ] {s : OperationImpl δ} (h : s.Idle)
    (hnil : s.actions = []) (f : Faults) :
    (initialise s f).Stage ∧
      ((initialise s f).Over → (initialise s f).terminated = true) ∧
      ((initialise s f).terminated = false →
        (initialise s f).socketV = .opened ∧ Initialises s f) := by
  by_cases hinit : Initialises s f
  · obtain ⟨hopen, hbind⟩ := hinit
    have heq : initialise s f = { s with receiveEndpointV := {}, socketV := .opened } := by
      rcases hbind with hbind | hbind <;> simp [initialise, h.closed, hopen, hbind]
    have hrun : (initialise s f).Running := by
      rw [heq]
      refine ⟨h.alive, by rintro ⟨⟩, fun hmem => ?_⟩
      rw [h.receives_nil] at hmem
      cases hmem
    refine ⟨hrun.stage ?_, hrun.not_over, fun _ => ?_⟩
    · rw [heq, hnil]
      rfl
    · rw [heq]
      exact ⟨rfl, hopen, hbind⟩
  · have heq : initialise s f = { s with
        receiveEndpointV := {}
        dataHandlerV := DataHandler.finished s.dataHandlerV
        errorInformationV := none
        timerV := none
        terminated := true
        actions := [.finished .communicationError] } := by
      have hfails : f.openFails = true ∨
          s.localV.address.isUnspecified = false ∧ f.bindFails = true := by
        by_contra hcon
        refine hinit ⟨?_, ?_⟩
        · exact Bool.eq_false_iff.mpr fun hopen => hcon (Or.inl hopen)
        · rcases hbind : f.bindFails with _ | _
          · exact Or.inr rfl
          · exact Or.inl (by_contra fun haddress => hcon (Or.inr ⟨by simpa using haddress, hbind⟩))
      rcases hfails with hopen | ⟨haddress, hbind⟩
      · simp [initialise, h.closed, hopen, finished, h.alive, emit, hnil]
      · simp [initialise, h.closed, haddress, hbind, finished, h.alive, emit, hnil]
    rw [heq]
    exact ⟨Or.inr ⟨Or.inl rfl, false, .communicationError, rfl⟩, fun _ => rfl, by rintro ⟨⟩⟩

theorem OperationImpl.progress_catchException [DataHandler δ] {s : OperationImpl δ}
    (hopen : s.terminated = false → s.socketV ≠ .closed) (e : HandlerException) :
    s.Progress (catchException s e) := by
  cases e with
  | tftpException | boostException => exact progress_finished hopen _ _
  | otherException =>
    rw [catchException]
    split_ifs
    · exact Or.inl (.refl s)
    · exact Or.inl (quiet_emit rfl s)

/-- Sending the request and waiting for the answer. -/
theorem OperationImpl.progress_sendFirst [DataHandler δ] {s : OperationImpl δ}
    (h : s.terminated = false → s.socketV = .opened ∧ f.sendFails = false) (packet : Packet) :
    s.Progress ((s.sendFirst f packet).receiveFirst f) := by
  have hopen : s.terminated = false → s.socketV ≠ .closed := by
    intro halive
    rw [(h halive).1]
    rintro ⟨⟩
  have hq : s.Quiet (s.sendFirst f packet) :=
    quiet_sendFirst (fun halive => ⟨hopen halive, (h halive).2⟩) packet
  refine hq.progress (progress_receiveFirst fun halive => ?_)
  rw [hq.socket]
  exact hopen (hq.alive ▸ halive)

/-- Whether `request` calls `sendFirst`. -/
def ReadOperationImpl.Requests (s : ReadOperationImpl δ) (f : Faults) : Prop :=
  OperationImpl.Initialises s.toOperationImpl f ∧ f.startThrows = none

/-- Whether `request` calls `sendFirst`. -/
def WriteOperationImpl.Requests (s : WriteOperationImpl δ) (f : Faults) : Prop :=
  OperationImpl.Initialises s.toOperationImpl f ∧ f.startThrows = none ∧
    (s.optionsConfigurationV.handleTransferSizeOption → f.transferSizeThrows = none)

theorem ReadOperationImpl.stage_request [ReceiveDataHandler δ] {s : ReadOperationImpl δ}
    (h : s.Idle) (hnil : s.actions = []) (hsend : s.Requests f → f.sendFails = false) :
    (s.request f).Stage := by
  obtain ⟨hstage, hover, halive⟩ := OperationImpl.stage_initialise h hnil f
  refine hstage.progress hover ?_
  rw [request]
  rcases hthrows : f.startThrows with _ | e
  · -- the data handler has been started
    have hq := quiet_startDataHandler (OperationImpl.initialise s.toOperationImpl f)
    refine hq.progress (OperationImpl.progress_sendFirst (fun halive' => ?_) _)
    rw [hq.alive] at halive'
    obtain ⟨hopened, hinit⟩ := halive halive'
    exact ⟨hq.socket.trans hopened, hsend ⟨hinit, hthrows⟩⟩
  · refine OperationImpl.progress_catchException (fun halive' => ?_) e
    rw [(halive halive').1]
    rintro ⟨⟩

theorem WriteOperationImpl.stage_request [TransmitDataHandler δ] {s : WriteOperationImpl δ}
    (h : s.Idle) (hnil : s.actions = []) (hsend : s.Requests f → f.sendFails = false) :
    (s.request f).Stage := by
  obtain ⟨hstage, hover, halive⟩ := OperationImpl.stage_initialise h hnil f
  refine hstage.progress hover ?_
  rw [request]
  rcases hthrows : f.startThrows with _ | e
  · have hq := quiet_startDataHandler (OperationImpl.initialise s.toOperationImpl f)
    have hopened
        (halive' : (OperationImpl.initialise s.toOperationImpl f).startDataHandler.terminated =
          false) :
        (OperationImpl.initialise s.toOperationImpl f).startDataHandler.socketV = .opened ∧
          OperationImpl.Initialises s.toOperationImpl f := by
      obtain ⟨hopened, hinit⟩ := halive (hq.alive ▸ halive')
      exact ⟨hq.socket.trans hopened, hinit⟩
    refine hq.progress ?_
    dsimp only [update]
    split_ifs with hhandle
    · rcases hsize : f.transferSizeThrows with _ | e
      · have hq' := quiet_requestedTransferSize
          (OperationImpl.initialise s.toOperationImpl f).startDataHandler
        have hopened' (halive' : (OperationImpl.initialise s.toOperationImpl
            f).startDataHandler.requestedTransferSize.2.terminated = false) :
            (OperationImpl.initialise s.toOperationImpl
              f).startDataHandler.requestedTransferSize.2.socketV = .opened ∧
                f.sendFails = false := by
          obtain ⟨hopen, hinit⟩ := hopened (hq'.alive ▸ halive')
          exact ⟨hq'.socket.trans hopen, hsend ⟨hinit, hthrows, fun _ => hsize⟩⟩
        dsimp only
        split <;> exact hq'.progress (OperationImpl.progress_sendFirst hopened' _)
      · refine OperationImpl.progress_catchException (fun halive' => ?_) e
        rw [(hopened halive').1]
        rintro ⟨⟩
    · refine OperationImpl.progress_sendFirst (fun halive' => ?_) _
      obtain ⟨hopen, hinit⟩ := hopened halive'
      exact ⟨hopen, hsend ⟨hinit, hthrows, fun h => absurd h hhandle⟩⟩
  · refine OperationImpl.progress_catchException (fun halive' => ?_) e
    rw [(halive halive').1]
    rintro ⟨⟩

end Clients

namespace Servers

/-- The socket can be opened, bound and connected. -/
def OperationImpl.Initialises (s : OperationImpl δ) (f : Faults) : Prop :=
  f.openFails = false ∧ (s.localV.address.isUnspecified = true ∨ f.bindFails = false) ∧
    f.connectFails = false

/-- **A socket that cannot be connected ends the process**, with one report. -/
theorem OperationImpl.stage_initialise [DataHandler δ] {s : OperationImpl δ} (h : s.Idle)
    (hnil : s.actions = []) (f : Faults) :
    (initialise s f).Stage ∧
      ((initialise s f).Over → (initialise s f).terminated = true) ∧
      ((initialise s f).terminated = false →
        (∃ peer, (initialise s f).socketV = .connected peer) ∧ Initialises s f) := by
  by_cases hinit : Initialises s f
  · obtain ⟨hopen, hbind, hconnect⟩ := hinit
    have heq : initialise s f = { s with socketV := .connected s.remoteV } := by
      rcases hbind with hbind | hbind <;> simp [initialise, h.closed, hopen, hbind, hconnect]
    have hrun : (initialise s f).Running := by
      rw [heq]
      exact ⟨h.alive, by rintro ⟨⟩, fun _ => ⟨_, rfl⟩⟩
    refine ⟨hrun.stage ?_, hrun.not_over, fun _ => ?_⟩
    · rw [heq, hnil]
      rfl
    · rw [heq]
      exact ⟨⟨_, rfl⟩, hopen, hbind, hconnect⟩
  · have heq : initialise s f = { s with
        dataHandlerV := DataHandler.finished s.dataHandlerV
        errorInformationV := none
        timerV := none
        terminated := true
        actions := [.finished .communicationError] } := by
      have hfails : f.openFails = true ∨
          s.localV.address.isUnspecified = false ∧ f.bindFails = true ∨ f.connectFails = true := by
        by_contra hcon
        refine hinit ⟨?_, ?_, ?_⟩
        · exact Bool.eq_false_iff.mpr fun hopen => hcon (Or.inl hopen)
        · rcases hbind : f.bindFails with _ | _
          · exact Or.inr rfl
          · exact Or.inl (by_contra fun haddress =>
              hcon (Or.inr (Or.inl ⟨by simpa using haddress, hbind⟩)))
        · exact Bool.eq_false_iff.mpr fun hconnect => hcon (Or.inr (Or.inr hconnect))
      rcases hfails with hopen | ⟨haddress, hbind⟩ | hconnect
      · simp [initialise, h.closed, hopen, finished, h.alive, emit, hnil]
      · simp [initialise, h.closed, haddress, hbind, finished, h.alive, emit, hnil]
      · simp [initialise, h.closed, hconnect, finished, h.alive, emit, hnil]
    rw [heq]
    exact ⟨Or.inr ⟨Or.inl rfl, false, .communicationError, rfl⟩, fun _ => rfl, by rintro ⟨⟩⟩

/-- An operation whose data handler has been started is connected, or it is over. -/
theorem OperationImpl.connected_startDataHandler [DataHandler δ] {s : OperationImpl δ} (h : s.Idle)
    (hnil : s.actions = []) (f : Faults)
    (halive : (initialise s f).startDataHandler.terminated = false) :
    (∃ peer, (initialise s f).startDataHandler.socketV = .connected peer) ∧
      Initialises s f := by
  have hq := quiet_startDataHandler (initialise s f)
  rw [hq.alive] at halive
  rw [hq.socket]
  exact (stage_initialise h hnil f).2.2 halive

theorem OperationImpl.progress_catchException [DataHandler δ] {s : OperationImpl δ}
    (hopen : s.terminated = false → s.socketV ≠ .closed) (e : HandlerException) :
    s.Progress (catchException s e) := by
  cases e with
  | tftpException => exact Or.inl (.refl s)
  | boostException | otherException => exact progress_finished hopen _ _

/-- Whether `start` calls `send`. -/
def ReadOperationImpl.Sends (s : ReadOperationImpl δ) (f : Faults) : Prop :=
  OperationImpl.Initialises s.toOperationImpl f ∧ f.startThrows = none ∧
    (s.optionsConfigurationV.handleTransferSizeOption → s.clientOptionsV.transferSize = some 0 →
      f.transferSizeThrows = none)

/-- Whether `start` calls `send`. -/
def WriteOperationImpl.Sends (s : WriteOperationImpl δ) (f : Faults) : Prop :=
  OperationImpl.Initialises s.toOperationImpl f ∧ f.startThrows = none ∧
    (s.optionsConfigurationV.handleTransferSizeOption → s.clientOptionsV.transferSize.isSome →
      f.transferSizeThrows = none)

section Read

variable [TransmitDataHandler δ] {s : ReadOperationImpl δ}

theorem ReadOperationImpl.progress_answer (hs : s.toOperationImpl.Sending f) (options : Options) :
    s.toOperationImpl.Progress (s.answer f options).toOperationImpl := by
  rw [answer]
  split_ifs
  · exact hs.progress_send _
  · exact progress_sendData hs

theorem ReadOperationImpl.progress_negotiate
    (hpeer : s.terminated = false → ∃ peer, s.socketV = .connected peer)
    (hs : (s.optionsConfigurationV.handleTransferSizeOption →
      s.clientOptionsV.transferSize = some 0 → f.transferSizeThrows = none) →
        s.toOperationImpl.Sending f) :
    s.toOperationImpl.Progress (s.negotiate f).toOperationImpl := by
  let s' : ReadOperationImpl δ := { s with
    transmitDataSize :=
      (negotiatedBlockSize s.optionsConfigurationV s.clientOptionsV).getD s.transmitDataSize
    receiveTimeoutV := ((negotiatedTimeout s.optionsConfigurationV s.clientOptionsV).map
      fun t : UInt8 => (t.toNat : ℤ)).getD s.receiveTimeoutV }
  have hq : s.toOperationImpl.Quiet s'.toOperationImpl := ⟨rfl, rfl, Or.inl, rfl⟩
  refine hq.progress ?_
  rw [negotiate]
  rcases hhandle : s.optionsConfigurationV.handleTransferSizeOption with _ | _ <;>
    rcases hsize : s.clientOptionsV.transferSize with _ | n
  -- without a transfer size, the options are as they are
  case true.some =>
    dsimp only
    split_ifs with hzero
    · have hs' := hs fun _ hsize' => absurd (Option.some.inj (hsize.symm.trans hsize')) hzero
      exact (hq.sending hs').progress_reject _ _ _
    · rcases hthrows : f.transferSizeThrows with _ | e
      · let s'' : ReadOperationImpl δ := { s' with
          toOperationImpl := s'.toOperationImpl.requestedTransferSize.2 }
        have hq' : s'.toOperationImpl.Quiet s''.toOperationImpl := quiet_requestedTransferSize _
        have hs' := (hq.trans hq').sending (hs fun _ _ => hthrows)
        dsimp only
        split <;> exact hq'.progress (progress_answer (s := s'') hs' _)
      · exact OperationImpl.progress_catchException (s := s'.toOperationImpl)
          (fun halive => opened_of_connected (hpeer halive)) e
  all_goals
    exact progress_answer (s := s') (hq.sending (hs (by simp [hhandle, hsize]))) _

theorem ReadOperationImpl.stage_start (h : s.Idle) (hnil : s.actions = [])
    (hsend : s.Sends f → f.sendFails = false) : (s.start f).Stage := by
  obtain ⟨hstage, hover, halive⟩ := OperationImpl.stage_initialise h hnil f
  refine hstage.progress hover ?_
  rw [start]
  rcases hthrows : f.startThrows with _ | e
  · have hq := quiet_startDataHandler (OperationImpl.initialise s.toOperationImpl f)
    refine hq.progress ?_
    -- what has been decided so far about whether something is sent
    let s' : ReadOperationImpl δ := { s with
      toOperationImpl := (OperationImpl.initialise s.toOperationImpl f).startDataHandler }
    have hpeer : s'.terminated = false → (∃ peer, s'.socketV = .connected peer) ∧
        OperationImpl.Initialises s.toOperationImpl f :=
      OperationImpl.connected_startDataHandler h hnil f
    dsimp only [update]
    split_ifs with hoptions
    · refine progress_sendData (s := s') fun halive' => ⟨hsend ⟨(hpeer halive').2, hthrows, ?_⟩,
        (hpeer halive').1⟩
      -- there is no transfer size without options
      intro _ hsize
      rw [(isSet_eq_false (by simpa using (Bool.and_eq_true_iff.mp hoptions).1)).2.2] at hsize
      cases hsize
    · exact progress_negotiate (s := s') (fun halive' => (hpeer halive').1)
        fun hsize halive' => ⟨hsend ⟨(hpeer halive').2, hthrows, hsize⟩, (hpeer halive').1⟩
  · exact OperationImpl.progress_catchException
      (fun halive' => opened_of_connected (halive halive').1) e

end Read

section Write

variable [ReceiveDataHandler δ] {s : WriteOperationImpl δ}

theorem WriteOperationImpl.progress_answer (hs : s.toOperationImpl.Sending f) (options : Options) :
    s.toOperationImpl.Progress (s.answer f options).toOperationImpl :=
  hs.progress_send _

theorem WriteOperationImpl.progress_negotiate
    (hpeer : s.terminated = false → ∃ peer, s.socketV = .connected peer)
    (hs : (s.optionsConfigurationV.handleTransferSizeOption →
      s.clientOptionsV.transferSize.isSome → f.transferSizeThrows = none) →
        s.toOperationImpl.Sending f) :
    s.toOperationImpl.Progress (s.negotiate f).toOperationImpl := by
  let s' : WriteOperationImpl δ := { s with
    receiveDataSize :=
      (negotiatedBlockSize s.optionsConfigurationV s.clientOptionsV).getD s.receiveDataSize
    receiveTimeoutV := ((negotiatedTimeout s.optionsConfigurationV s.clientOptionsV).map
      fun t : UInt8 => (t.toNat : ℤ)).getD s.receiveTimeoutV }
  have hq : s.toOperationImpl.Quiet s'.toOperationImpl := ⟨rfl, rfl, Or.inl, rfl⟩
  refine hq.progress ?_
  rw [negotiate]
  rcases hhandle : s.optionsConfigurationV.handleTransferSizeOption with _ | _ <;>
    rcases hsize : s.clientOptionsV.transferSize with _ | n
  -- without a transfer size, the options are as they are
  case true.some =>
    rcases hthrows : f.transferSizeThrows with _ | e
    · let s'' : WriteOperationImpl δ := { s' with
        toOperationImpl := (s'.toOperationImpl.receivedTransferSize n).2 }
      have hq' : s'.toOperationImpl.Quiet s''.toOperationImpl := quiet_receivedTransferSize _ n
      have hs' := (hq.trans hq').sending (hs fun _ _ => hthrows)
      dsimp only
      split_ifs
      · exact hq'.progress (hs'.progress_reject _ _ _)
      · exact hq'.progress (progress_answer (s := s'') hs' _)
    · exact OperationImpl.progress_catchException (s := s'.toOperationImpl)
        (fun halive => opened_of_connected (hpeer halive)) e
  all_goals
    exact progress_answer (s := s') (hq.sending (hs (by simp [hhandle, hsize]))) _

theorem WriteOperationImpl.stage_start (h : s.Idle) (hnil : s.actions = [])
    (hsend : s.Sends f → f.sendFails = false) : (s.start f).Stage := by
  obtain ⟨hstage, hover, halive⟩ := OperationImpl.stage_initialise h hnil f
  refine hstage.progress hover ?_
  rw [start]
  rcases hthrows : f.startThrows with _ | e
  · have hq := quiet_startDataHandler (OperationImpl.initialise s.toOperationImpl f)
    refine hq.progress ?_
    let s' : WriteOperationImpl δ := { s with
      toOperationImpl := (OperationImpl.initialise s.toOperationImpl f).startDataHandler }
    have hpeer : s'.terminated = false → (∃ peer, s'.socketV = .connected peer) ∧
        OperationImpl.Initialises s.toOperationImpl f :=
      OperationImpl.connected_startDataHandler h hnil f
    dsimp only [update]
    split_ifs with hoptions
    · have hs' : s'.toOperationImpl.Sending f := by
        refine fun halive' => ⟨hsend ⟨(hpeer halive').2, hthrows, ?_⟩, (hpeer halive').1⟩
        -- there is no transfer size without options
        intro _ hsize
        rw [(isSet_eq_false (by simpa using (Bool.and_eq_true_iff.mp hoptions).1)).2.2] at hsize
        cases hsize
      exact hs'.progress_send _
    · exact progress_negotiate (s := s') (fun halive' => (hpeer halive').1)
        fun hsize halive' => ⟨hsend ⟨(hpeer halive').2, hthrows, hsize⟩, (hpeer halive').1⟩
  · exact OperationImpl.progress_catchException
      (fun halive' => opened_of_connected (halive halive').1) e

end Write

end Servers

end Starts

/-! ### The four operations -/

section Operations

open Operation

/-- **Completion is reported at most once**, whatever the peer sends, whichever calls fail, and
whenever the user aborts, as long as no call of `sendFirst` or `send` fails. -/
theorem finished_at_most_once (δ ε : Type) [ReceiveDataHandler δ] [TransmitDataHandler ε] :
    (∀ (settings : Clients.Settings δ) f history s,
      ((Clients.ReadOperationImpl.configured settings).Requests f → f.sendFails = false) →
      Run step ((Clients.ReadOperationImpl.configured settings).request f) history s →
      Along (Clean ((Clients.ReadOperationImpl.configured settings).request f)) history →
      AtMostOnce (trace actions ((Clients.ReadOperationImpl.configured settings).request f)
        history)) ∧
    (∀ (settings : Clients.Settings ε) f history s,
      ((Clients.WriteOperationImpl.configured settings).Requests f → f.sendFails = false) →
      Run step ((Clients.WriteOperationImpl.configured settings).request f) history s →
      Along (Clean ((Clients.WriteOperationImpl.configured settings).request f)) history →
      AtMostOnce (trace actions ((Clients.WriteOperationImpl.configured settings).request f)
        history)) ∧
    (∀ (settings : Servers.Settings ε) f history s,
      ((Servers.ReadOperationImpl.configured settings).Sends f → f.sendFails = false) →
      Run step ((Servers.ReadOperationImpl.configured settings).start f) history s →
      Along (Clean ((Servers.ReadOperationImpl.configured settings).start f)) history →
      AtMostOnce (trace actions ((Servers.ReadOperationImpl.configured settings).start f)
        history)) ∧
    (∀ (settings : Servers.Settings δ) f history s,
      ((Servers.WriteOperationImpl.configured settings).Sends f → f.sendFails = false) →
      Run step ((Servers.WriteOperationImpl.configured settings).start f) history s →
      Along (Clean ((Servers.WriteOperationImpl.configured settings).start f)) history →
      AtMostOnce (trace actions ((Servers.WriteOperationImpl.configured settings).start f)
        history)) := by
  refine ⟨fun settings f history s hsend hrun halong => ?_,
    fun settings f history s hsend hrun halong => ?_,
    fun settings f history s hsend hrun halong => ?_,
    fun settings f history s hsend hrun halong => ?_⟩
  · exact atMostOnce_run (Clients.ReadOperationImpl.stage_request
      (Clients.ReadOperationImpl.idle_configured settings) rfl hsend) hrun halong
  · exact atMostOnce_run (Clients.WriteOperationImpl.stage_request
      (Clients.WriteOperationImpl.idle_configured settings) rfl hsend) hrun halong
  · exact atMostOnce_run (Servers.ReadOperationImpl.stage_start
      (Servers.ReadOperationImpl.idle_configured settings) rfl hsend) hrun halong
  · exact atMostOnce_run (Servers.WriteOperationImpl.stage_start
      (Servers.WriteOperationImpl.idle_configured settings) rfl hsend) hrun halong

/-- A client that does not dally, and has sent its request. -/
def plainClient : Clients.ReadOperationImpl MemoryFile :=
  (Clients.ReadOperationImpl.configured { dataHandler := .empty }).request {}

/-- The request cannot be sent again. -/
theorem finished_at_most_once_resend :
    AtMostOnce (trace actions plainClient
        (replay step plainClient [({ resendFails := true }, .timeout)]).1) ∧
      statuses (trace actions plainClient
        (replay step plainClient [({ resendFails := true }, .timeout)]).1) =
          [.communicationError] := by
  refine ⟨(finished_at_most_once MemoryFile MemoryFile).1 { dataHandler := .empty } {} _ _
    (fun _ => rfl) (Run.of_replay _ _ _) ?_, by decide⟩
  exact along_concat.mpr ⟨along_nil, trivial, fun h => h.elim⟩

/-- **The acknowledgement of the last block cannot be sent**: the client ends with
`CommunicationError`, and then with `Successful`. -/
theorem finished_twice :
    ∃ history s, Run step plainClient history s ∧ (∀ t ∈ history, ¬ t.event.2.IsAbort) ∧
      statuses (trace actions plainClient history) = [.communicationError, .successful] ∧
      ¬ AtMostOnce (trace actions plainClient history) := by
  refine ⟨_, _, Run.of_replay step plainClient
    [({ sendFails := true }, .datagram { port := 1 } (Packet.data 1 [97]).encode)], ?_, ?_, ?_⟩
  · intro t ht h
    rw [List.mem_singleton.mp ht] at h
    exact h
  · decide
  · rintro ⟨status, h⟩
    have hlength : (reports (trace actions plainClient (replay step plainClient
        [({ sendFails := true }, .datagram { port := 1 }
          (Packet.data 1 [97]).encode)]).1)).length = 3 := by decide
    have hle := h.length_le
    rw [hlength] at hle
    exact absurd hle (by simp)

end Operations

end Tftp
