import Tftp.Clients.GracefulAbort

/-!
# Operations that cannot be told apart

Nothing an operation does depends on the error information of its last transfer: it is there for
the user to ask for. So two operations that agree in everything else
(`Tftp.OperationImpl.Matching`) do the same in every event, as long as their own functions do
(`Tftp.Operation.Matches`). Two operations whose request has failed before a packet was sent need
to agree in less (`Tftp.OperationImpl.Stalled`): they wait for nothing, so neither their last
packet nor what they know of blocks is looked at any more.
-/

namespace Tftp

namespace OperationImpl

variable {δ : Type} {b b' : OperationImpl δ} {f : Faults}

/-- **The same state**, but for the error information. -/
def Matching (b b' : OperationImpl δ) : Prop :=
  ∃ information, b = { b' with errorInformationV := information }

/-- Nothing is put out differently. -/
theorem Matching.observed (h : b.Matching b') : b.actions = b'.actions ∧ b.timerV = b'.timerV := by
  obtain ⟨information, rfl⟩ := h
  exact ⟨rfl, rfl⟩

theorem Matching.receiveTimeout (h : b.Matching b') :
    b.receiveTimeoutV = b'.receiveTimeoutV := by
  obtain ⟨information, rfl⟩ := h
  rfl

/-- The timeout may be set, to the same. -/
theorem Matching.withTimeout (h : b.Matching b') (timeout : ℤ) :
    Matching { b with receiveTimeoutV := timeout } { b' with receiveTimeoutV := timeout } := by
  obtain ⟨information, rfl⟩ := h
  exact ⟨information, rfl⟩

section Engine

variable [DataHandler δ]

theorem Matching.finished (h : b.Matching b') (status : TransferStatus)
    (errorInformation : Option (ErrorCode × RawData)) :
    (b.finished status errorInformation).Matching (b'.finished status errorInformation) := by
  obtain ⟨information, rfl⟩ := h
  by_cases halive : b'.terminated = true
  · rw [OperationImpl.finished, OperationImpl.finished, if_pos halive, if_pos halive]
    exact ⟨information, rfl⟩
  · -- the old information is overwritten
    refine ⟨errorInformation, ?_⟩
    cases hsock : b'.socketV <;> cases hreports : b'.completionHandlerV <;>
      simp [OperationImpl.finished, emit, halive, hsock, hreports]

theorem Matching.send (h : b.Matching b') (packet : Packet) :
    (b.send f packet).Matching (b'.send f packet) := by
  obtain ⟨information, rfl⟩ := h
  by_cases halive : b'.terminated = true
  · rw [OperationImpl.send, OperationImpl.send, if_pos halive, if_pos halive]
    exact ⟨information, rfl⟩
  · cases hsock : b'.socketV with
    | closed | opened =>
      simp only [OperationImpl.send, hsock, if_neg halive]
      refine Matching.finished ?_ _ _
      exact ⟨information, rfl⟩
    | connected peer =>
      simp only [OperationImpl.send, hsock, if_neg halive]
      split_ifs
      · refine Matching.finished ?_ _ _
        exact ⟨information, rfl⟩
      · exact ⟨information, rfl⟩

theorem Matching.arm (h : b.Matching b') (onReceive : ReceiveHandler) (onTimeout : TimerHandler)
    (timeout : ℤ) : (b.arm f onReceive onTimeout timeout).Matching
      (b'.arm f onReceive onTimeout timeout) := by
  obtain ⟨information, rfl⟩ := h
  simp only [OperationImpl.arm]
  split_ifs
  · exact ⟨information, rfl⟩
  · exact Matching.finished ⟨information, rfl⟩ _ _
  · exact ⟨information, rfl⟩

theorem Matching.receiveFirst (h : b.Matching b') :
    (b.receiveFirst f).Matching (b'.receiveFirst f) := by
  rw [OperationImpl.receiveFirst, h.receiveTimeout]
  exact h.arm _ _ _

theorem Matching.receive (h : b.Matching b') : (b.receive f).Matching (b'.receive f) := by
  rw [OperationImpl.receive, h.receiveTimeout]
  exact h.arm _ _ _

theorem Matching.receiveDally (h : b.Matching b') :
    (b.receiveDally f).Matching (b'.receiveDally f) := by
  rw [OperationImpl.receiveDally, h.receiveTimeout]
  exact h.arm _ _ _

theorem Matching.reject (h : b.Matching b') (errorCode : ErrorCode) (errorMessage : String)
    (status : TransferStatus) : (b.reject f errorCode errorMessage status).Matching
      (b'.reject f errorCode errorMessage status) :=
  (h.send _).finished _ _

theorem Matching.afterData (h : b.Matching b') (short dally : Bool) :
    (b.afterData f short dally).Matching (b'.afterData f short dally) := by
  simp only [OperationImpl.afterData]
  split_ifs
  · exact h.receiveDally
  · exact h.finished _ _
  · exact h.receive

theorem Matching.timeoutFirstHandler (h : b.Matching b') :
    (b.timeoutFirstHandler f).Matching (b'.timeoutFirstHandler f) := by
  obtain ⟨information, rfl⟩ := h
  simp only [OperationImpl.timeoutFirstHandler]
  split_ifs
  · exact Matching.finished ⟨information, rfl⟩ _ _
  · exact Matching.finished ⟨information, rfl⟩ _ _
  · exact ⟨information, rfl⟩

theorem Matching.timeoutHandler (h : b.Matching b') :
    (b.timeoutHandler f).Matching (b'.timeoutHandler f) := by
  obtain ⟨information, rfl⟩ := h
  by_cases hretries : b'.tftpRetriesV.toNat < b'.transmitCounterV.toNat
  · simp only [OperationImpl.timeoutHandler, if_pos hretries]
    exact Matching.finished ⟨information, rfl⟩ _ _
  · cases hsock : b'.socketV with
    | closed | opened =>
      simp only [OperationImpl.timeoutHandler, hsock, if_neg hretries]
      exact Matching.finished ⟨information, by simp [hsock]⟩ _ _
    | connected peer =>
      simp only [OperationImpl.timeoutHandler, hsock, if_neg hretries]
      split_ifs
      · exact Matching.finished ⟨information, by simp [hsock]⟩ _ _
      · exact ⟨information, by simp [emit, hsock]⟩

end Engine

section Handlers

variable (h : b.Matching b')

include h

/-- The option negotiation handler is asked the same, and answers the same. -/
theorem Matching.optionNegotiation (handler : Option (OptionNegotiationHandler δ))
    (options : Options) :
    (b.optionNegotiation handler options).1 = (b'.optionNegotiation handler options).1 ∧
      (b.optionNegotiation handler options).2.Matching
        (b'.optionNegotiation handler options).2 := by
  obtain ⟨information, rfl⟩ := h
  cases handler with
  | none => exact ⟨rfl, information, rfl⟩
  | some handler => exact ⟨rfl, information, rfl⟩

theorem Matching.receivedData [ReceiveDataHandler δ] (data : RawData) :
    (b.receivedData data).Matching (b'.receivedData data) := by
  obtain ⟨information, rfl⟩ := h
  exact ⟨information, rfl⟩

theorem Matching.offerTransferSize [ReceiveDataHandler δ] (transferSize : Option UInt64) :
    (b.offerTransferSize transferSize).1 = (b'.offerTransferSize transferSize).1 ∧
      (b.offerTransferSize transferSize).2.Matching (b'.offerTransferSize transferSize).2 := by
  obtain ⟨information, rfl⟩ := h
  cases transferSize with
  | none => exact ⟨rfl, information, rfl⟩
  | some n =>
    simp only [OperationImpl.offerTransferSize, receivedTransferSize]
    split_ifs
    · exact ⟨rfl, information, rfl⟩
    · exact ⟨rfl, information, rfl⟩

theorem Matching.nextData [TransmitDataHandler δ] (maxSize : ℕ) :
    (b.nextData maxSize).1 = (b'.nextData maxSize).1 ∧
      (b.nextData maxSize).2.Matching (b'.nextData maxSize).2 := by
  obtain ⟨information, rfl⟩ := h
  simp only [OperationImpl.nextData]
  split_ifs
  · exact ⟨rfl, information, rfl⟩
  · exact ⟨rfl, information, rfl⟩

end Handlers

/-! ### Nothing was sent -/

/-- **Two requests that have failed before they were sent**: nothing is waited for, and nobody has
been heard of, so it does not matter what the last packet was. -/
structure Stalled (b b' : OperationImpl δ) : Prop where
  same : ∃ packet counter information, b = { b' with
    transmitPacketV := packet
    transmitCounterV := counter
    errorInformationV := information }
  receives : b'.receives = []
  timer : b'.timerV = none
  endpoint : b'.receiveEndpointV = {}

theorem Stalled.observed (h : b.Stalled b') : b.actions = b'.actions ∧ b.timerV = b'.timerV := by
  obtain ⟨⟨packet, counter, information, rfl⟩, -⟩ := h
  exact ⟨rfl, rfl⟩

/-- What is said of the one holds of the other. -/
theorem Stalled.left (h : b.Stalled b') : b.receives = [] ∧ b.timerV = none ∧
    b.receiveEndpointV = {} ∧ b.terminated = b'.terminated := by
  obtain ⟨⟨packet, counter, information, rfl⟩, hreceives, htimer, hendpoint⟩ := h
  exact ⟨hreceives, htimer, hendpoint, rfl⟩

theorem Stalled.finished [DataHandler δ] (h : b.Stalled b') (status : TransferStatus)
    (errorInformation : Option (ErrorCode × RawData)) :
    (b.finished status errorInformation).Stalled (b'.finished status errorInformation) := by
  obtain ⟨⟨packet, counter, information, rfl⟩, hreceives, htimer, hendpoint⟩ := h
  by_cases halive : b'.terminated = true
  · rw [OperationImpl.finished, OperationImpl.finished, if_pos halive, if_pos halive]
    exact ⟨⟨packet, counter, information, rfl⟩, hreceives, htimer, hendpoint⟩
  · -- the old information is overwritten, and nothing starts to be waited for
    refine ⟨⟨packet, counter, errorInformation, ?_⟩, ?_, ?_, ?_⟩ <;>
      cases hsock : b'.socketV <;> cases hreports : b'.completionHandlerV <;>
        simp [OperationImpl.finished, emit, halive, hsock, hreports, hreceives, hendpoint]

end OperationImpl

open Protocol

open OperationImpl hiding actions

namespace Operation

variable {σ δ : Type} [DataHandler δ] [Operation σ δ] {s s' : σ} {R : σ → σ → Prop}

/-- **A relation between operations that cannot be told apart**: their shared parts match, may be
replaced by others that match, and their own functions keep the relation. -/
structure Matches (R : σ → σ → Prop) : Prop where
  base : ∀ {s s'}, R s s' → (base s).Matching (base s')
  withBase : ∀ {s s' b b'}, R s s' → b.Matching b' → R (withBase s b) (withBase s' b')
  received : ∀ {s s'} f r, R s s' → R (received s f r) (received s' f r)
  gracefulAbort : ∀ {s s'} f errorCode errorMessage, R s s' →
    R (gracefulAbort s f errorCode errorMessage) (gracefulAbort s' f errorCode errorMessage)

namespace Matches

variable (hR : Matches R) (h : R s s') (f : Faults)

include hR h

/-- The shared parts are changed in the same way. -/
theorem change {g : OperationImpl δ → OperationImpl δ}
    (hg : ∀ b information, (g { b with errorInformationV := information }).Matching (g b)) :
    R (Operation.withBase s (g (Operation.base s)))
      (Operation.withBase s' (g (Operation.base s'))) := by
  obtain ⟨information, heq⟩ := hR.base h
  refine hR.withBase h ?_
  rw [heq]
  exact hg _ information

theorem receiveHandler (rawPacket : RawData) :
    R (receiveHandler s f rawPacket) (receiveHandler s' f rawPacket) := by
  obtain ⟨information, heq⟩ := hR.base h
  rw [Operation.receiveHandler, Operation.receiveHandler, heq]
  exact hR.received f _ h

theorem receiveFirstHandler (source : Endpoint) (rawPacket : RawData) :
    R (receiveFirstHandler s f source rawPacket) (receiveFirstHandler s' f source rawPacket) := by
  obtain ⟨information, heq⟩ := hR.base h
  simp only [Operation.receiveFirstHandler, heq]
  split_ifs
  · refine hR.withBase h (Matching.finished ?_ _ _)
    exact ⟨information, rfl⟩
  · refine hR.withBase h (Matching.finished ?_ _ _)
    exact ⟨information, rfl⟩
  · exact hR.withBase h ⟨information, rfl⟩
  · exact hR.withBase h ⟨information, rfl⟩
  · refine hR.withBase h (Matching.finished ?_ _ _)
    exact ⟨information, rfl⟩
  · refine hR.receiveHandler (hR.withBase h ?_) f rawPacket
    exact ⟨information, rfl⟩

theorem onDatagram (source : Endpoint) (rawPacket : RawData) :
    R (onDatagram s f source rawPacket) (onDatagram s' f source rawPacket) := by
  obtain ⟨information, heq⟩ := hR.base h
  simp only [Operation.onDatagram, heq]
  cases (Operation.base s').receives with
  | nil => exact h
  | cons handler rest =>
    dsimp only
    split_ifs
    · -- the handler that was posted is taken before it is called
      have htaken : R
          (Operation.withBase s { Operation.base s' with
            errorInformationV := information
            receives := rest })
          (Operation.withBase s' { Operation.base s' with receives := rest }) :=
        hR.withBase h ⟨information, rfl⟩
      cases handler with
      | receiveFirstHandler => exact hR.receiveFirstHandler htaken f source rawPacket
      | receiveHandler => exact hR.receiveHandler htaken f rawPacket
    · exact h

theorem onTimeout : R (onTimeout s f) (onTimeout s' f) := by
  obtain ⟨information, heq⟩ := hR.base h
  simp only [Operation.onTimeout, heq]
  cases (Operation.base s').timerV with
  | none => exact h
  | some timer =>
    obtain ⟨handler, d⟩ := timer
    cases handler with
    | timeoutFirstHandler =>
      refine hR.withBase h (Matching.timeoutFirstHandler ?_)
      exact ⟨information, rfl⟩
    | timeoutHandler =>
      refine hR.withBase h (Matching.timeoutHandler ?_)
      exact ⟨information, rfl⟩
    | timeoutDallyHandler =>
      refine hR.withBase h (Matching.finished ?_ _ _)
      exact ⟨information, rfl⟩

/-- **Every event keeps the relation.** -/
theorem step (e : Faults × Event) : R (step s e) (step s' e) := by
  obtain ⟨f, event⟩ := e
  have hclear := hR.change h (g := fun b => { b with actions := [] }) fun _ information =>
    ⟨information, rfl⟩
  obtain ⟨information, heq⟩ := hR.base hclear
  simp only [Operation.step]
  generalize Operation.withBase s { Operation.base s with actions := [] } = t at *
  generalize Operation.withBase s' { Operation.base s' with actions := [] } = t' at *
  rw [heq]
  dsimp only
  split_ifs
  · exact hclear
  · cases event with
    | datagram source rawPacket => exact hR.onDatagram hclear f source rawPacket
    | timeout => exact hR.onTimeout hclear f
    | receiveError =>
      dsimp only
      split
      · exact hclear
      · refine hR.withBase hclear (Matching.finished ?_ _ _)
        exact ⟨information, rfl⟩
    | timerError =>
      dsimp only
      split
      · exact hclear
      · refine hR.withBase hclear (Matching.finished ?_ _ _)
        exact ⟨information, rfl⟩
    | abort =>
      refine hR.withBase hclear (Matching.finished ?_ _ _)
      exact ⟨information, rfl⟩
    | gracefulAbort errorCode errorMessage => exact hR.gracefulAbort f _ _ hclear

end Matches

/-- **Nothing is done in an event** that does not have to do with the last packet. -/
theorem stalled_step [Clients.MooredClient σ δ] (h : (base s).Stalled (base s'))
    (e : Faults × Event) : (base (step s e)).Stalled (base (step s' e)) := by
  obtain ⟨f, event⟩ := e
  have hclear : (base (withBase s { base s with actions := [] })).Stalled
      (base (withBase s' { base s' with actions := [] })) := by
    obtain ⟨⟨packet, counter, information, heq⟩, hreceives, htimer, hendpoint⟩ := h
    rw [base_withBase, base_withBase, heq]
    exact ⟨⟨packet, counter, information, rfl⟩, hreceives, htimer, hendpoint⟩
  simp only [step]
  generalize withBase s { base s with actions := [] } = t at *
  generalize withBase s' { base s' with actions := [] } = t' at *
  obtain ⟨hreceives, htimer, hendpoint, halive⟩ := hclear.left
  rw [halive]
  split_ifs
  · exact hclear
  · cases event with
    | datagram source rawPacket => simpa [onDatagram, hreceives, hclear.receives] using hclear
    | timeout => simpa [onTimeout, htimer, hclear.timer] using hclear
    | receiveError => simpa [hreceives, hclear.receives] using hclear
    | timerError => simpa [htimer, hclear.timer] using hclear
    | abort => simpa [OperationImpl.abort] using hclear.finished _ _
    | gracefulAbort errorCode errorMessage =>
      -- there is nobody to send to
      rw [Clients.MooredClient.base_gracefulAbort, Clients.MooredClient.base_gracefulAbort]
      simpa [Clients.OperationImpl.gracefulAbort, hendpoint, hclear.endpoint]
        using hclear.finished _ _

/-! ### What is seen -/

/-- What is seen of an operation after an event: what it has done, and how long the timer runs. -/
def observed (s : σ) : List (List Action × Option ℤ) :=
  [(actions s, (base s).timerV.map Prod.snd)]

/-- What is seen of an operation at its start and in the course of the events. -/
def visible (init : σ) (es : List (Faults × Event)) : List (List Action × Option ℤ) :=
  trace observed init (replay step init es).1

/-- At the start the timer is seen. -/
theorem timer_eq_of_visible (h : visible s [] = visible s' []) :
    (base s).timerV.map Prod.snd = (base s').timerV.map Prod.snd := by
  simp only [visible, replay, List.foldl_nil, trace_nil, observed, List.cons.injEq,
    Prod.mk.injEq] at h
  exact h.1.2

/-- In an event it is seen what is done. -/
theorem actions_eq_of_visible {e : Faults × Event} (h : visible s [e] = visible s' [e]) :
    actions (step s e) = actions (step s' e) := by
  have hparts : ∀ t : σ, visible t [e] = observed t ++ observed (step t e) := by
    intro t
    simp [visible, replay, trace]
  rw [hparts, hparts] at h
  exact congrArg Prod.fst (List.singleton_inj.mp (List.append_inj' h rfl).2)

/-- Related, or without effect because the request has failed before it was sent. -/
def OrStalled (R : σ → σ → Prop) (s s' : σ) : Prop :=
  R s s' ∨ (base s).Stalled (base s')

theorem OrStalled.observed_eq (hR : Matches R) (h : OrStalled R s s') :
    observed s = observed s' := by
  obtain ⟨hactions, htimer⟩ : (base s).actions = (base s').actions ∧
      (base s).timerV = (base s').timerV := by
    rcases h with h | h
    · exact (hR.base h).observed
    · exact h.observed
  rw [observed, observed, actions, actions, hactions, htimer]

/-- **They cannot be told apart** by anything that is seen of them, whatever happens. -/
theorem OrStalled.visible_eq [Clients.MooredClient σ δ] (hR : Matches R) (h : OrStalled R s s')
    (es : List (Faults × Event)) : visible s es = visible s' es := by
  have hstep : ∀ (t t' : σ) (e : Faults × Event), OrStalled R t t' → True →
      OrStalled R (step t (id e)) (step t' (id e)) ∧
        observed (step t (id e)) = observed (step t' (id e)) := by
    intro t t' e ht _
    have hnext : OrStalled R (step t e) (step t' e) := ht.imp (hR.step · e) (stalled_step · e)
    exact ⟨hnext, hnext.observed_eq hR⟩
  have hagree := (replay_agree h hstep es fun _ _ => trivial).2
  rw [List.map_id] at hagree
  rw [visible, visible, trace, trace, h.observed_eq hR, hagree]

end Operation

end Tftp
