import Tftp.Completion
import Tftp.Retransmission

/-!
# Expired waits in the queue

An expiry of the timer and the handler that reacts to it are two events: between them the
handler waits in a queue of the I/O library, and arming the timer again, or cancelling it,
does not take it out. So a handler can run although the wait it belongs to has been
superseded. `Tftp.Timed` is an operation together with that queue, and `Tftp.Timed.step`
runs the ready handlers in any order.

The handlers of the timer do not notice that they are superseded: whichever runs does
something (`Tftp.Timed.runWait_ne_nil`). What saves an operation is the order in which the
ready handlers run. As long as no datagram is taken up while an expired wait is in the queue
(`Tftp.Timed.TakesUpIdle`), no wait in the queue is ever superseded, and the operation behaves
as one whose timer expires at once (`Tftp.Timed.Sim`).
-/

namespace Tftp

open Protocol Operation

/-- A wait handler that has been queued because its wait expired, and whether that wait has been
superseded since. -/
structure QueuedWait where
  handler : TimerHandler
  superseded : Bool
  deriving DecidableEq

/-- An operation, and the wait handlers in the queue. -/
structure Timed (σ : Type) where
  operation : σ
  queue : List QueuedWait := []

/-- What happens to an operation whose handlers are queued. -/
inductive TimedEvent where
  /-- The handler of a datagram runs. -/
  | datagram (source : Endpoint) (rawPacket : RawData)
  /-- The wait for the timer expires, and its handler is queued. -/
  | expire
  /-- A queued wait handler runs. -/
  | run (i : ℕ)

namespace Timed

section Steps

variable {σ δ : Type} [DataHandler δ] [Operation σ δ]

/-- A wait handler runs with a success code, whatever the timer is doing. -/
def runWait (s : σ) (handler : TimerHandler) : σ :=
  let b := (base s).cleared
  if b.terminated then withBase s b
  else
    match handler with
    | .timeoutFirstHandler => withBase s (b.timeoutFirstHandler {})
    | .timeoutHandler => withBase s (b.timeoutHandler {})
    | .timeoutDallyHandler => withBase s b.timeoutDallyHandler

/-- After a handler has run: a timer that is armed, or an operation that is over, supersedes the
waits in the queue. -/
def supersede (s : σ) (queue : List QueuedWait) : Timed σ where
  operation := s
  queue :=
    if (base s).timerV.isSome ∨ (base s).socketV = .closed then
      queue.map fun wait => { wait with superseded := true }
    else queue

/-- One event. -/
def step (t : Timed σ) : TimedEvent → Timed σ
  | .datagram source rawPacket =>
      supersede (peerStep t.operation (.datagram source rawPacket)) t.queue
  | .expire =>
      match (base t.operation).timerV with
      | none => { t with operation := withBase t.operation (base t.operation).cleared }
      | some (handler, _) =>
          { operation := withBase t.operation { (base t.operation).cleared with timerV := none }
            queue := t.queue ++ [⟨handler, false⟩] }
  | .run i =>
      match t.queue[i]? with
      | none => { t with operation := withBase t.operation (base t.operation).cleared }
      | some wait => supersede (runWait t.operation wait.handler) (t.queue.eraseIdx i)

/-- What an operation did in the course of the last event. -/
def actions (t : Timed σ) : List Action := Operation.actions t.operation

/-- **A datagram is taken up only when no expired wait is in the queue.** -/
def TakesUpIdle (_before : List (Transition (Timed σ) TimedEvent))
    (t : Transition (Timed σ) TimedEvent) : Prop :=
  ∀ source rawPacket, t.event = .datagram source rawPacket →
    (base t.pre.operation).phase.admits source → t.pre.queue = []

/-- **Superseded waits are inert**: their handlers do nothing. -/
def Inert (history : List (Transition (Timed σ) TimedEvent)) : Prop :=
  ∀ t ∈ history, ∀ i wait, t.event = .run i → t.pre.queue[i]? = some wait →
    wait.superseded = true →
    actions t.post = [] ∧
      t.post.operation = withBase t.pre.operation (base t.pre.operation).cleared

/-- **The handler of a wait always does something**, superseded or not. -/
theorem runWait_ne_nil {s : σ} (halive : (base s).terminated = false) (handler : TimerHandler) :
    Operation.actions (runWait s handler) ≠ [] := by
  have hfinished : ∀ b : OperationImpl δ, b.terminated = false → ∀ status,
      (b.finished status none).actions ≠ [] := by
    intro b hb status
    rw [OperationImpl.finished, hb, if_neg (by decide)]
    cases b.socketV with
    | closed => simp [OperationImpl.emit]
    | opened | connected => cases b.completionHandlerV <;> simp [OperationImpl.emit]
  have hcleared : (base s).cleared.terminated = false := halive
  simp only [runWait, hcleared, Bool.false_eq_true, if_false]
  cases handler with
  | timeoutFirstHandler =>
    rw [Operation.actions, base_withBase, OperationImpl.timeoutFirstHandler]
    split_ifs
    · exact hfinished _ hcleared _
    · exact hfinished _ hcleared _
    · simp [OperationImpl.emit]
  | timeoutHandler =>
    rw [Operation.actions, base_withBase, OperationImpl.timeoutHandler]
    by_cases hlt : (base s).cleared.tftpRetriesV.toNat < (base s).cleared.transmitCounterV.toNat
    · rw [if_pos hlt]
      exact hfinished _ hcleared _
    · rw [if_neg hlt]
      cases (base s).cleared.socketV with
      | connected peer => simp [OperationImpl.emit]
      | closed | opened => exact hfinished _ hcleared _
  | timeoutDallyHandler =>
    rw [Operation.actions, base_withBase, OperationImpl.timeoutDallyHandler]
    exact hfinished _ hcleared _

/-- **Inert is only what does not run**: a run in which superseded waits are inert is one in which
none of their handlers runs, unless the process is gone. -/
theorem inert_iff {init t : Timed σ} {history : List (Transition (Timed σ) TimedEvent)}
    (hrun : Run step init history t) :
    Inert history ↔ ∀ u ∈ history, ∀ i wait, u.event = .run i → u.pre.queue[i]? = some wait →
      wait.superseded = true → (base u.pre.operation).terminated = true := by
  constructor
  · intro h u hu i wait he hwait hsuperseded
    by_contra halive
    obtain ⟨hnil, -⟩ := h u hu i wait he hwait hsuperseded
    rw [hrun.post_eq u hu, he] at hnil
    simp only [step, hwait] at hnil
    exact runWait_ne_nil (Bool.eq_false_iff.mpr halive) wait.handler hnil
  · intro h u hu i wait he hwait hsuperseded
    have hgone : (base u.pre.operation).cleared.terminated = true :=
      h u hu i wait he hwait hsuperseded
    rw [hrun.post_eq u hu, he]
    simp only [step, hwait, supersede, actions, Operation.actions, runWait, hgone, if_true,
      base_withBase]
    exact ⟨rfl, trivial⟩

/-- **The untimed operation that a timed one behaves like**: the wait in the queue has not
expired yet. -/
def Sim (t : Timed σ) (s : σ) : Prop :=
  (∀ b, withBase s b = withBase t.operation b) ∧ ∃ acts,
    t.queue = [] ∧ base s = { base t.operation with actions := acts } ∨
      ∃ handler d, t.queue = [⟨handler, false⟩] ∧ (base t.operation).timerV = none ∧
        base s = { base t.operation with
          timerV := some (handler, d)
          actions := acts }

end Steps

section Simulation

variable {σ δ : Type} [DataHandler δ] [Operation σ δ] {t : Timed σ} {s s' : σ}

/-- Two states with the same parts are equal. -/
theorem eq_of_base_eq (hwith : ∀ b, withBase s b = withBase s' b) (hbase : base s = base s') :
    s = s' := by
  rw [← withBase_base s, ← withBase_base s', hwith, hbase]

theorem Sim.start (s : σ) : Sim (σ := σ) { operation := s } s :=
  ⟨fun _ => rfl, (base s).actions, Or.inl ⟨rfl, rfl⟩⟩

/-- Without a wait in the queue the handlers of a datagram do the same. -/
theorem peerStep_eq {acts : List Action} (hwith : ∀ b, withBase s b = withBase s' b)
    (hbase : base s = { base s' with actions := acts }) (e : PeerEvent) :
    peerStep s' e = peerStep s e := by
  have heq : s = withBase s' { base s' with actions := acts } :=
    eq_of_base_eq (fun b => by rw [hwith, withBase_withBase]) (by rw [hbase, base_withBase])
  rw [heq]
  exact (step_actions s' acts e.toEvent).symm

/-- **The handler of the wait in the queue does what the expiry of the timer does.** -/
theorem runWait_eq {acts : List Action} {handler : TimerHandler} {d : ℤ}
    (hwith : ∀ b, withBase s b = withBase s' b) (halive : (base s).terminated = false)
    (htimer : (base s').timerV = none)
    (hbase : base s = { base s' with
      timerV := some (handler, d)
      actions := acts }) :
    runWait s' handler = peerStep s .timeout := by
  have halive' : (base s').cleared.terminated = false := by
    rw [hbase] at halive
    exact halive
  have hcleared : (base s').cleared = { (base s').cleared with timerV := none } := by
    rw [OperationImpl.cleared, ← htimer]
  rw [peerStep_timeout halive, hwith, hbase]
  simp only [runWait, halive', Bool.false_eq_true, if_false]
  rw [hcleared]
  cases handler <;> simp [onTimeout, OperationImpl.cleared]

theorem Sim.of_nil (t : Timed σ) (h : t.queue = []) : Sim t t.operation :=
  ⟨fun _ => rfl, (base t.operation).actions, Or.inl ⟨h, rfl⟩⟩

omit [DataHandler δ] in
/-- Whether a datagram gets to the handlers of the packets is a question of the socket. -/
theorem admits_iff {b : OperationImpl δ} {source : Endpoint} :
    b.phase.admits source ↔ match b.socketV with
      | .closed => False
      | .opened => source.address = b.remoteV.address
      | .connected peer => source = peer := by
  cases hsock : b.socketV with
  | closed =>
    rw [OperationImpl.phase_closed hsock]
    rfl
  | opened =>
    rw [OperationImpl.phase_opened hsock]
    rfl
  | connected peer =>
    simp only [OperationImpl.phase, hsock]
    split <;> rfl

/-- The event of the untimed operation that an event amounts to. -/
def Mirrors (t : Timed σ) (e : TimedEvent) (e' : PeerEvent) : Prop :=
  (∃ source rawPacket, e = .datagram source rawPacket ∧ e' = .datagram source rawPacket) ∨
    (∃ i wait, e = .run i ∧ t.queue[i]? = some wait) ∧ e' = .timeout

/-- An event that does nothing. -/
def Idles (t : Timed σ) (e : TimedEvent) : Prop :=
  e = .expire ∨ ∃ i, e = .run i ∧ t.queue[i]? = none

/-- The wait expires: nothing is done yet. -/
theorem Sim.expire (h : Sim t s) : Sim (step t .expire) s ∧ actions (step t .expire) = [] := by
  obtain ⟨hwith, acts, ⟨hqueue, hbase⟩ | ⟨handler, d, hqueue, htimer, hbase⟩⟩ := h
  · cases htimer : (base t.operation).timerV with
    | none =>
      simp only [step, htimer, actions, Operation.actions, base_withBase]
      refine ⟨⟨fun b => by rw [hwith, withBase_withBase], acts, Or.inl ⟨hqueue, ?_⟩⟩, rfl⟩
      rw [base_withBase, hbase]
      rfl
    | some timer =>
      obtain ⟨handler, d⟩ := timer
      simp only [step, htimer, actions, Operation.actions, base_withBase]
      refine ⟨⟨fun b => by rw [hwith, withBase_withBase], acts,
        Or.inr ⟨handler, d, by rw [hqueue]; rfl, by rw [base_withBase], ?_⟩⟩, rfl⟩
      rw [base_withBase, hbase, ← htimer]
      rfl
  · simp only [step, htimer, actions, Operation.actions, base_withBase]
    refine ⟨⟨fun b => by rw [hwith, withBase_withBase], acts,
      Or.inr ⟨handler, d, hqueue, by rw [base_withBase]; exact htimer, ?_⟩⟩, rfl⟩
    rw [base_withBase, hbase]
    rfl

/-- A queued handler runs: the timer expires. -/
theorem Sim.run (h : Sim t s) (hset : (base s).Settled) (i : ℕ) :
    (t.queue[i]? = none ∧ Sim (step t (.run i)) s ∧ actions (step t (.run i)) = []) ∨
      (∃ wait, t.queue[i]? = some wait) ∧ Sim (step t (.run i)) (peerStep s .timeout) ∧
        actions (step t (.run i)) = Operation.actions (peerStep s .timeout) := by
  cases hwait : t.queue[i]? with
  | none =>
    refine Or.inl ⟨rfl, ?_⟩
    obtain ⟨hwith, acts, hcases⟩ := h
    simp only [step, hwait, actions, Operation.actions, base_withBase]
    refine ⟨⟨fun b => by rw [hwith, withBase_withBase], acts, ?_⟩, rfl⟩
    rw [base_withBase]
    exact hcases
  | some wait =>
    refine Or.inr ⟨⟨wait, rfl⟩, ?_⟩
    obtain ⟨hwith, acts, ⟨hqueue, hbase⟩ | ⟨handler, d, hqueue, htimer, hbase⟩⟩ := h
    · simp [hqueue] at hwait
    · obtain ⟨rfl, rfl⟩ : i = 0 ∧ wait = ⟨handler, false⟩ := by
        rw [hqueue] at hwait
        cases i with
        | zero => exact ⟨rfl, by simpa using hwait.symm⟩
        | succ i => simp at hwait
      have hrun := runWait_eq hwith hset.1 htimer hbase
      have hstep : step t (.run 0) = supersede (peerStep s .timeout) [] := by
        simp only [step, hqueue, List.getElem?_cons_zero, hrun, List.eraseIdx_zero, List.tail_cons]
      rw [hstep]
      refine ⟨Sim.of_nil _ ?_, rfl⟩
      simp [supersede]

/-- A wait stays in the queue while its operation waits. -/
theorem supersede_of_none {s : σ} (htimer : (base s).timerV = none)
    (hsock : (base s).socketV ≠ .closed) (queue : List QueuedWait) :
    supersede s queue = { operation := s, queue := queue } := by
  simp [supersede, htimer, hsock]

/-- The handlers of a datagram run. -/
theorem Sim.datagram (h : Sim t s) (hset : (base s).Settled) (source : Endpoint)
    (rawPacket : RawData) (hidle : (base t.operation).phase.admits source → t.queue = []) :
    Sim (step t (.datagram source rawPacket)) (peerStep s (.datagram source rawPacket)) ∧
      actions (step t (.datagram source rawPacket)) =
        Operation.actions (peerStep s (.datagram source rawPacket)) := by
  obtain ⟨hwith, acts, ⟨hqueue, hbase⟩ | ⟨handler, d, hqueue, htimer, hbase⟩⟩ := h
  · have hstep : step t (.datagram source rawPacket) =
        supersede (peerStep s (.datagram source rawPacket)) [] := by
      rw [step, hqueue, peerStep_eq hwith hbase]
    rw [hstep]
    refine ⟨Sim.of_nil _ ?_, rfl⟩
    simp [supersede]
  · -- the datagram is not taken up, so the wait goes on
    have hnot : ¬ (base t.operation).phase.admits source := fun h => by
      rw [hidle h] at hqueue
      cases hqueue
    rw [admits_iff] at hnot
    obtain ⟨halive, hshape⟩ := hset
    have halive' : (base t.operation).terminated = false := by
      rw [hbase] at halive
      exact halive
    cases hsock : (base t.operation).socketV with
    | closed =>
      have hsock' : (base s).socketV = .closed := by rw [hbase, hsock]
      have htimer' : (base s).timerV = some (handler, d) := by rw [hbase]
      rw [hsock', htimer'] at hshape
      cases hshape.2
    | opened =>
      have hsock' : (base s).socketV = .opened := by rw [hbase, hsock]
      rw [hsock'] at hshape
      rw [hsock] at hnot
      have hrec : (base t.operation).receives = [.receiveFirstHandler] := by
        rw [hbase] at hshape
        exact hshape.1
      have hremote : (base s).remoteV = (base t.operation).remoteV := by rw [hbase]
      have hs := peerStep_foreign halive hsock' hshape.1 (by rw [hremote]; exact hnot) rawPacket
      have ht := peerStep_foreign halive' hsock hrec hnot rawPacket
      have ht' : step t (.datagram source rawPacket) =
          { operation := peerStep t.operation (.datagram source rawPacket), queue := t.queue } := by
        refine supersede_of_none ?_ ?_ _ <;> rw [ht, base_withBase]
        · exact htimer
        · rw [hsock]
          rintro ⟨⟩
      rw [ht', actions, hs, ht]
      refine ⟨⟨fun b => by rw [withBase_withBase, withBase_withBase, hwith],
        [.sendUnknown (Packet.error .unknownTransferId (ascii "Packet from wrong source")).encode
          source], Or.inr ⟨handler, d, hqueue, by rw [base_withBase]; exact htimer, ?_⟩⟩, ?_⟩
      · rw [base_withBase, base_withBase, hbase]
      · rw [Operation.actions, Operation.actions, base_withBase, base_withBase]
    | connected peer =>
      rw [hsock] at hnot
      have haccepts : (base t.operation).socketV.accepts source = false := by
        rw [hsock]
        simpa [Socket.accepts] using hnot
      have haccepts' : (base s).socketV.accepts source = false := by
        rw [hbase]
        exact haccepts
      have hs := peerStep_unaccepted halive haccepts' rawPacket
      have ht := peerStep_unaccepted halive' haccepts rawPacket
      have ht' : step t (.datagram source rawPacket) =
          { operation := peerStep t.operation (.datagram source rawPacket), queue := t.queue } := by
        refine supersede_of_none ?_ ?_ _ <;> rw [ht, base_withBase]
        · exact htimer
        · rw [OperationImpl.cleared, hsock]
          rintro ⟨⟩
      rw [ht', actions, hs, ht]
      refine ⟨⟨fun b => by rw [withBase_withBase, withBase_withBase, hwith], [],
        Or.inr ⟨handler, d, hqueue, by rw [base_withBase]; exact htimer, ?_⟩⟩, ?_⟩
      · rw [base_withBase, base_withBase, hbase]
        rfl
      · rw [Operation.actions, Operation.actions, base_withBase, base_withBase]
        rfl

/-- **Every event has its counterpart**, or does nothing. -/
theorem Sim.step_cases (h : Sim t s) (hset : (base s).Settled) {e : TimedEvent}
    (hidle : ∀ source rawPacket, e = .datagram source rawPacket →
      (base t.operation).phase.admits source → t.queue = []) :
    (Idles t e ∧ Sim (step t e) s ∧ actions (step t e) = []) ∨
      ∃ e', Mirrors t e e' ∧ Sim (step t e) (peerStep s e') ∧
        actions (step t e) = Operation.actions (peerStep s e') := by
  cases e with
  | datagram source rawPacket =>
    exact Or.inr ⟨_, Or.inl ⟨source, rawPacket, rfl, rfl⟩,
      h.datagram hset source rawPacket (hidle source rawPacket rfl)⟩
  | expire => exact Or.inl ⟨Or.inl rfl, h.expire⟩
  | run i =>
    rcases h.run hset i with ⟨hnone, hsim, hacts⟩ | ⟨⟨wait, hwait⟩, hsim, hacts⟩
    · exact Or.inl ⟨Or.inr ⟨i, rfl, hnone⟩, hsim, hacts⟩
    · exact Or.inr ⟨_, Or.inr ⟨⟨i, wait, rfl, hwait⟩, rfl⟩, hsim, hacts⟩

/-- No wait in the queue is superseded. -/
theorem Sim.superseded_eq (h : Sim t s) {i : ℕ} {wait : QueuedWait}
    (hwait : t.queue[i]? = some wait) : wait.superseded = false := by
  obtain ⟨-, acts, ⟨hqueue, -⟩ | ⟨handler, d, hqueue, -⟩⟩ := h
  · simp [hqueue] at hwait
  · have hmem := List.mem_of_getElem? hwait
    rw [hqueue, List.mem_singleton] at hmem
    rw [hmem]

theorem Sim.socketV_eq (h : Sim t s) : (base s).socketV = (base t.operation).socketV := by
  obtain ⟨-, acts, ⟨-, hbase⟩ | ⟨handler, d, -, -, hbase⟩⟩ := h <;> rw [hbase]

end Simulation

/-! ### Runs -/

section Runs

variable {σ δ : Type} [DataHandler δ] [PeerOperation σ δ] {init : σ} {t : Timed σ}
  {history : List (Transition (Timed σ) TimedEvent)}

theorem sim_run (hset : (base init).Settled) (hrun : Run step { operation := init } history t)
    (halong : Along TakesUpIdle history) : ∃ s, (base s).Settled ∧ Sim t s := by
  induction hrun with
  | start => exact ⟨init, hset, Sim.start init⟩
  | next e _ ih =>
    obtain ⟨hpast, hlast⟩ := along_concat.mp halong
    obtain ⟨s, hset', hsim⟩ := ih hpast
    rcases hsim.step_cases hset' hlast with ⟨-, hnext, -⟩ | ⟨e', -, hnext, -⟩
    · exact ⟨s, hset', hnext⟩
    · exact ⟨_, (outcome hset' e').settled hset', hnext⟩

/-- **The stored packet is sent again to the peer**, once there is one. -/
def ResendsToPeer (history : List (Transition (Timed σ) TimedEvent)) : Prop :=
  ∀ u ∈ history, ∀ packet destination peer, .resend packet destination ∈ actions u.post →
    (base u.pre.operation).socketV = .connected peer → destination = peer

/-- A superseded wait is inert, because there is none. -/
theorem inert_run (hset : (base init).Settled) (hrun : Run step { operation := init } history t)
    (halong : Along TakesUpIdle history) : Inert history := by
  intro u hu i wait he hwait hsuperseded
  obtain ⟨before, after, heq⟩ := List.append_of_mem hu
  obtain ⟨s, -, hsim⟩ := sim_run hset (hrun.before before u after heq) (halong.past heq)
  rw [hsim.superseded_eq hwait] at hsuperseded
  cases hsuperseded

/-- The timer makes a connected operation resend to its peer. -/
theorem resend_connected {s s' : OperationImpl δ} {e : PeerEvent} (h : Outcome s e s')
    {packet : RawData} {destination peer : Endpoint}
    (hmem : .resend packet destination ∈ s'.actions) (hsock : s.socketV = .connected peer) :
    destination = peer := by
  cases h with
  | idle => simp [OperationImpl.cleared] at hmem
  | foreign source rawPacket hphase => simp [OperationImpl.emit, OperationImpl.cleared] at hmem
  | resend destination' hphase =>
    have hdest : destination = destination' := by
      have heq : Action.resend packet destination = .resend s.transmitPacketV destination' := by
        simpa [OperationImpl.resent, OperationImpl.cleared] using hmem
      injection heq
    rcases hphase with ⟨⟨server, hp⟩, -⟩ | hp
    · simp only [OperationImpl.phase, hsock] at hp
      split at hp <;> cases hp
    · simp only [OperationImpl.phase, hsock] at hp
      split at hp
      · cases hp
      · cases hp
        exact hdest
  | expire => exact absurd (silent_completion _ _ _ hmem).2 (by simp [Action.isResend])
  | dallied => exact absurd (silent_completion _ _ _ hmem).2 (by simp [Action.isResend])
  | received source lastEndpoint rawPacket _ calls sends report hadmits hhandled =>
    exact absurd hmem ((Outcome.received source lastEndpoint rawPacket _ calls sends report hadmits
      hhandled).resend_notMem packet destination)

theorem resendsToPeer_run (hset : (base init).Settled)
    (hrun : Run step { operation := init } history t) (halong : Along TakesUpIdle history) :
    ResendsToPeer history := by
  intro u hu packet destination peer hmem hsock
  obtain ⟨before, after, heq⟩ := List.append_of_mem hu
  obtain ⟨s, hset', hsim⟩ := sim_run hset (hrun.before before u after heq) (halong.past heq)
  rw [hrun.post_eq u hu] at hmem
  rcases hsim.step_cases hset' (halong before u after heq) with ⟨-, -, hnil⟩ | ⟨e', -, -, hacts⟩
  · rw [hnil] at hmem
    cases hmem
  · rw [hacts] at hmem
    exact resend_connected (outcome hset' e') hmem (hsim.socketV_eq.trans hsock)

end Runs

/-! ### Dallying -/

section Dallying

open ReceivingOperation

variable {σ δ : Type} [DataHandler δ] [ReceivingOperation σ δ] {init s : σ} {t : Timed σ}
  {n : BlockNumber} {data : RawData} {history : List (Transition (Timed σ) TimedEvent)}

/-- **Dallying ends with success**: after the short last block was accepted by an operation that
dallies, and as long as only this block is repeated, nothing but success is reported, and it is
reported when the wait is over. -/
def DalliesToSuccess (history : List (Transition (Timed σ) TimedEvent)) : Prop :=
  ∀ before u after, history = before ++ u :: after → ∀ data,
    .receivedData data ∈ actions u.post →
    data.length < (view u.pre.operation).dataSize.toNat → (view u.pre.operation).dally = true →
    (∀ w ∈ after, ∀ source rawPacket, w.event = .datagram source rawPacket →
      PacketHandler.packet (rawPacket.take (view w.pre.operation).buffer) =
        .packet (.data (view u.post.operation).block data)) →
    ∀ w ∈ after, (∀ status, .finished status ∈ actions w.post → status = .successful) ∧
      ∀ i wait, w.event = .run i → w.pre.queue[i]? = some wait →
        .finished .successful ∈ actions w.post

/-- The timer does not show in the view. -/
theorem Sim.view_eq (h : Sim t s) : view s = view t.operation := by
  obtain ⟨hwith, acts, ⟨-, hbase⟩ | ⟨handler, d, -, -, hbase⟩⟩ := h
  · rw [← withBase_base s, hwith, hbase]
    exact view_same ⟨rfl, rfl, rfl, rfl, rfl⟩ rfl rfl
  · rw [← withBase_base s, hwith, hbase]
    exact view_same ⟨rfl, rfl, rfl, rfl, rfl⟩ rfl rfl

/-- Dallying after a short last block, or over. -/
def Dallies (n : BlockNumber) (data : RawData) (t : Timed σ) : Prop :=
  ∃ s, (base s).Settled ∧ Sim t s ∧
    ((∃ peer, (base s).phase = .dallying peer) ∧ (view s).block = n ∧
        data.length < (view s).dataSize.toNat ∧ (view s).dally = true ∨
      (base s).phase = .done)

/-- A repetition of the last block, while the operation dallies, and the expiry of its timer. -/
theorem dallying_reaction {v v' : ReceiverView} {p p' : Phase} {e : PeerEvent} {acts : List Action}
    {peer : Endpoint} (h : ReceiverReaction v p e acts p' v') (hphase : p = .dallying peer)
    (hshort : data.length < v.dataSize.toNat) (hdally : v.dally = true)
    (hrepeat : ∀ source rawPacket, e = .datagram source rawPacket →
      PacketHandler.packet (rawPacket.take v.buffer) = .packet (.data v.block data)) :
    statuses acts = [] ∧ (∃ source rawPacket, e = .datagram source rawPacket) ∧
        (∃ peer', p' = .dallying peer') ∧ v'.block = v.block ∧ v'.dataSize = v.dataSize ∧
          v'.dally = v.dally ∨
      statuses acts = [.successful] ∧ p' = .done := by
  subst hphase
  cases h with
  | idle _ hidle =>
    rcases hidle with hp | ⟨peer', source, rawPacket, -, -, rfl⟩
    · cases hp
    · exact Or.inl ⟨rfl, ⟨source, rawPacket, rfl⟩, ⟨peer, rfl⟩, rfl, rfl, rfl⟩
  | foreign server source rawPacket hphase => cases hphase
  | resend destination hphase => rcases hphase with ⟨⟨server, hp⟩, -⟩ | hp <;> cases hp
  | expire hphase => rcases hphase with ⟨server, hp⟩ | ⟨peer', hp⟩ <;> cases hp
  | dallied => exact Or.inr ⟨statuses_completion _ _, rfl⟩
  | received source rawPacket hadmits hstep =>
    rw [hrepeat source rawPacket rfl] at hstep
    generalize hn : v.block = n at hstep
    cases hstep with
    | repeated data =>
      refine Or.inl ⟨?_, ⟨source, rawPacket, rfl⟩, ⟨source, ?_⟩, rfl, rfl, rfl⟩
      · simp [ReceiverView.closing, hdally]
      · simp [ReceiverView.phaseAfter, ReceiverView.short, Phase.afterData, hshort, hdally]
    | accepted => exact absurd hn.symm (BlockNumber.next_ne _)
    | failed _ calls errors status size timeout packet counter hcalls hfailure hsettings hdata =>
      exact absurd hn.symm (hdata _ _ rfl).1

/-- **One event keeps dallying**, or ends it with success. -/
theorem Dallies.step_keeps (h : Dallies n data t) {e : TimedEvent}
    (hidle : ∀ source rawPacket, e = .datagram source rawPacket →
      (base t.operation).phase.admits source → t.queue = [])
    (hrepeat : ∀ source rawPacket, e = .datagram source rawPacket →
      PacketHandler.packet (rawPacket.take (view t.operation).buffer) = .packet (.data n data)) :
    Dallies n data (step t e) ∧
      (∀ status, .finished status ∈ actions (step t e) → status = .successful) ∧
      ∀ i wait, e = .run i → t.queue[i]? = some wait →
        .finished .successful ∈ actions (step t e) := by
  obtain ⟨s, hset, hsim, hphase⟩ := h
  rcases hsim.step_cases hset hidle with ⟨hidles, hnext, hnil⟩ | ⟨e', hmirrors, hnext, hacts⟩
  · refine ⟨⟨s, hset, hnext, hphase⟩, by simp [hnil], ?_⟩
    rintro i wait rfl hwait
    rcases hidles with he | ⟨i', he, hnone⟩
    · cases he
    · cases he
      rw [hwait] at hnone
      cases hnone
  · rcases hphase with ⟨⟨peer, hp⟩, hblock, hshort, hdally⟩ | hdone
    · obtain ⟨hset', hreaction⟩ := receiverReaction hset e'
      have hrepeat' : ∀ source rawPacket, e' = .datagram source rawPacket →
          PacketHandler.packet (rawPacket.take (view s).buffer) =
            .packet (.data (view s).block data) := by
        rintro source rawPacket rfl
        rw [hblock, hsim.view_eq]
        rcases hmirrors with ⟨source', rawPacket', he, heq⟩ | ⟨-, heq⟩
        · cases heq
          exact hrepeat source rawPacket he
        · cases heq
      rcases dallying_reaction hreaction hp hshort hdally hrepeat' with
        ⟨hnone, ⟨source, rawPacket, rfl⟩, hp', hblock', hsize', hdally'⟩ | ⟨hone, hdone⟩
      · refine ⟨⟨_, hset', hnext, Or.inl ⟨hp', hblock'.trans hblock, hsize' ▸ hshort,
          hdally'.trans hdally⟩⟩, ?_, ?_⟩
        · intro status hmem
          rw [hacts, ← mem_statuses, hnone] at hmem
          cases hmem
        · rintro i wait rfl -
          rcases hmirrors with ⟨source', rawPacket', he, -⟩ | ⟨-, heq⟩
          · cases he
          · cases heq
      · refine ⟨⟨_, hset', hnext, Or.inr hdone⟩, ?_, ?_⟩
        · intro status hmem
          rw [hacts, ← mem_statuses, hone] at hmem
          exact List.mem_singleton.mp hmem
        · intro i wait _ _
          rw [hacts, ← mem_statuses, hone]
          exact List.mem_singleton_self _
    · obtain ⟨hnil, hdone'⟩ := (outcome hset e').of_done hdone
      refine ⟨⟨_, (outcome hset e').settled hset, hnext, Or.inr hdone'⟩, ?_, ?_⟩
      · intro status hmem
        rw [hacts, Operation.actions, hnil] at hmem
        cases hmem
      · -- an operation that is over has no wait in the queue
        rintro i wait - hwait
        obtain ⟨-, acts, ⟨hqueue, -⟩ | ⟨handler, d, -, -, hbase⟩⟩ := hsim
        · simp [hqueue] at hwait
        · have htimer := timerV_of_done hset hdone
          rw [hbase] at htimer
          cases htimer

theorem dalliesToSuccess_run (hset : (base init).Settled)
    (hrun : Run step { operation := init } history t) (halong : Along TakesUpIdle history) :
    DalliesToSuccess history := by
  intro before u after heq data hmem hshort hdally hrepeat
  obtain ⟨s, hset', hsim⟩ := sim_run hset (hrun.before before u after heq) (halong.past heq)
  have hpost := hrun.post_eq u (by rw [heq]; simp)
  -- the event is the acceptance of the last block
  have hdallies : Dallies (view u.post.operation).block data u.post := by
    rw [hpost] at hmem ⊢
    rcases hsim.step_cases hset' (halong before u after heq) with
      ⟨-, -, hnil⟩ | ⟨e', -, hnext, hacts⟩
    · rw [hnil] at hmem
      cases hmem
    · obtain ⟨hset'', hreaction⟩ := receiverReaction hset' e'
      rw [← hsim.view_eq] at hshort hdally
      have hmem' : data ∈ deliveries (Operation.actions (peerStep s e')) := by
        rw [← hacts]
        exact List.mem_filterMap.mpr ⟨_, hmem, rfl⟩
      rcases hreaction.deliveries_cases with
        ⟨hnil, -⟩ | ⟨source, rawPacket, data', -, -, -, -, hdel, hsize, hphase⟩
      · rw [hnil] at hmem'
        cases hmem'
      · rw [hdel] at hmem'
        obtain rfl := List.mem_singleton.mp hmem'
        refine ⟨_, hset'', hnext, Or.inl ⟨⟨source, ?_⟩, by rw [hnext.view_eq], hsize ▸ hshort,
          hreaction.dally_eq.trans hdally⟩⟩
        rw [hphase]
        simp [ReceiverView.phaseAfter, ReceiverView.short, Phase.afterData, hshort, hdally]
  have hkeeps : ∀ w ∈ after, Dallies (view u.post.operation).block data w.pre →
      Dallies (view u.post.operation).block data w.post ∧
        (∀ status, .finished status ∈ actions w.post → status = .successful) ∧
        ∀ i wait, w.event = .run i → w.pre.queue[i]? = some wait →
          .finished .successful ∈ actions w.post := by
    intro w hw hd
    obtain ⟨past, rest, rfl⟩ := List.append_of_mem hw
    rw [hrun.post_eq w (by rw [heq]; simp)]
    exact hd.step_keeps (halong (before ++ u :: past) w rest (by rw [heq]; simp)) (hrepeat w hw)
  have hpre := (hrun.since (P := Dallies (view u.post.operation).block data) before u after heq
    hdallies fun w hw hd => (hkeeps w hw hd).1).2
  exact fun w hw => (hkeeps w hw (hpre w hw)).2

end Dallying

/-! ### The four operations -/

section Operations

/-- **Superseded waits are inert**, as long as no datagram is taken up while an expired wait is
in the queue: the packet of a connected client goes again to its peer only, and a receiver that
dallies ends with success. -/
theorem superseded_inert (δ ε : Type) [ReceiveDataHandler δ] [TransmitDataHandler ε] :
    (∀ (settings : Clients.Settings δ) history t,
      Run step { operation := (Clients.ReadOperationImpl.configured settings).request {} } history t →
      Along TakesUpIdle history →
      Inert history ∧ ResendsToPeer history ∧ DalliesToSuccess history) ∧
    (∀ (settings : Clients.Settings ε) history t,
      Run step { operation := (Clients.WriteOperationImpl.configured settings).request {} } history
        t →
      Along TakesUpIdle history → Inert history ∧ ResendsToPeer history) ∧
    (∀ (settings : Servers.Settings ε) history t,
      Run step { operation := (Servers.ReadOperationImpl.configured settings).start {} } history t →
      Along TakesUpIdle history → Inert history) ∧
    (∀ (settings : Servers.Settings δ) history t,
      Run step { operation := (Servers.WriteOperationImpl.configured settings).start {} } history t →
      Along TakesUpIdle history → Inert history ∧ DalliesToSuccess history) := by
  refine ⟨fun settings history t hrun halong => ?_, fun settings history t hrun halong => ?_,
    fun settings history t hrun halong => ?_, fun settings history t hrun halong => ?_⟩
  · have hset := (Clients.ReadOperationImpl.started_request
      (Clients.ReadOperationImpl.idle_configured settings) rfl).settled
    exact ⟨inert_run hset hrun halong, resendsToPeer_run hset hrun halong,
      dalliesToSuccess_run hset hrun halong⟩
  · have hset := (Clients.WriteOperationImpl.started_request
      (Clients.WriteOperationImpl.idle_configured settings) rfl).settled
    exact ⟨inert_run hset hrun halong, resendsToPeer_run hset hrun halong⟩
  · have hset := (Servers.ReadOperationImpl.started_start
      (Servers.ReadOperationImpl.idle_configured settings) rfl).settled
    exact inert_run hset hrun halong
  · have hset := (Servers.WriteOperationImpl.started_start
      (Servers.WriteOperationImpl.idle_configured settings) rfl).settled
    exact ⟨inert_run hset hrun halong, dalliesToSuccess_run hset hrun halong⟩

/-- A short block, and nothing after it: the wait for its repetition expires. -/
def shortBlock : List TimedEvent :=
  [.datagram { port := 1 } (Packet.data 1 [97]).encode, .expire, .run 0]

/-- The handlers run in time. -/
theorem superseded_inert_short_block :
    Inert (replay step { operation := dallyingClient } shortBlock).1 ∧
      actions (replay step { operation := dallyingClient } shortBlock).2 =
        [.finished .successful, .completionHandler .successful] := by
  refine ⟨((superseded_inert MemoryFile MemoryFile).1 { dally := true, dataHandler := .empty } _ _
    (Run.of_replay _ _ _) ?_).1, by decide⟩
  -- the only datagram comes when the queue is empty
  refine along_concat.mpr ⟨along_concat.mpr ⟨along_concat.mpr ⟨along_nil, ?_⟩, ?_⟩, ?_⟩
  · rintro source rawPacket - -
    rfl
  · rintro source rawPacket ⟨⟩
  · rintro source rawPacket ⟨⟩

/-- The same block, but the wait for the answer has expired before, and its handler runs
after. -/
def lateWait : List TimedEvent :=
  [.expire, .datagram { port := 1 } (Packet.data 1 [97]).encode, .run 0, .expire, .run 0]

/-- **A superseded wait acts**: the packet goes again to where the request went to, dallying is
given up, and the next expiry ends the transfer without success. -/
theorem superseded_acts :
    ∃ history t, Run step { operation := dallyingClient } history t ∧ ¬ Inert history ∧
      ¬ ResendsToPeer history ∧ ¬ DalliesToSuccess history := by
  refine ⟨_, _, Run.of_replay step { operation := dallyingClient } lateWait, ?_, ?_, ?_⟩
  · intro h
    have hnil := (h _ (List.mem_cons_of_mem _ (List.mem_cons_of_mem _ List.mem_cons_self)) 0
      ⟨.timeoutFirstHandler, true⟩ rfl (by decide) rfl).1
    exact absurd hnil (by decide)
  · intro h
    have hdest := h _ (List.mem_cons_of_mem _ (List.mem_cons_of_mem _ List.mem_cons_self))
      (Packet.acknowledgement 1).encode {} { port := 1 } (by decide) (by decide)
    exact absurd hdest (by decide)
  · intro h
    have hafter := h [_] _ [_, _, _] rfl [97] (by decide) (by decide) rfl ?_ _
      (List.mem_cons_of_mem _ (List.mem_cons_of_mem _ List.mem_cons_self))
    · exact absurd (hafter.1 .communicationError (by decide)) (by decide)
    · intro w hw source rawPacket he
      simp only [List.mem_cons, List.not_mem_nil, or_false] at hw
      rcases hw with rfl | rfl | rfl <;> cases he

end Operations

end Timed

end Tftp
