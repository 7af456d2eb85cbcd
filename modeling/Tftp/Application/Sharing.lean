import Tftp.Protocol.Shared
import Tftp.Application.Operations

/-!
# All operations share one pointer

The application keeps the operation that it has started last in one global variable,
`serverOperation`, and nothing else keeps it (`Tftp.Application`). So a request that gets as far as
its file destroys the operation in progress, whoever that belongs to, and so does a request that
ends the application. As long as no request does so while an operation is in progress, every
operation runs until it has called the completion handler
(`Tftp.Application.independent_iff`).
-/

namespace Tftp

open Servers Protocol

/-- The pointers to operations. -/
inductive OperationPtr where
  /-- The global variable. -/
  | serverOperation
  /-- The local variable of `transmitFile` and `receiveFile`. -/
  | localOperation
  deriving DecidableEq

instance : Fintype OperationPtr where
  elems := {.serverOperation, .localOperation}
  complete p := by cases p <;> decide

/-- The state of the application. -/
structure Application where
  server : TftpServer
  /-- The operations that exist. -/
  operations : Shared OperationPtr ServerOperation := .empty
  /-- An exception has left the event loop. -/
  ended : Bool := false
  /-- Which operations have called the completion handler in the course of the last event, and
  with which status. -/
  completed : List (ℕ × TransferStatus) := []

/-- What happens to the application. -/
inductive ApplicationEvent where
  /-- A datagram arrives at the port of the server, and this is what the disk is like. -/
  | datagram (disk : Disk) (remote : Endpoint) (rawPacket : RawData)
  /-- Something happens to the operation of the given number. -/
  | operation (n : ℕ) (e : PeerEvent)

namespace Application

/-- `operationCompleted`, called with the given statuses for the operation of the given number. -/
def operationCompleted (a : Application) (n : ℕ) (statuses : List TransferStatus) : Application :=
  { a with
    operations :=
      if statuses.isEmpty then a.operations else a.operations.reset .serverOperation
    completed := statuses.map fun status => (n, status) }

/-- The end of `transmitFile` and `receiveFile`: the operation is stored and started. -/
def start (a : Application) (operation : ServerOperation) : Application :=
  let n := a.operations.next
  let operations := a.operations.make .localOperation operation
  let operations := operations.assign .serverOperation .localOperation
  let a := { a with operations := operations.modify n ServerOperation.start }
  let a := a.operationCompleted n (completions operation.start.actions)
  { a with operations := a.operations.reset .localOperation }

/-- What the request handler makes of a request. -/
def receivedRequest (a : Application) (disk : Disk) (request : ReceivedTftpRequest) :
    Application :=
  match a.server.receivedRequest disk request with
  | .errorOperation .. => a
  | .started operation => a.start operation
  | .filesystemError | .beyondEnd => { a with operations := a.operations.clear, ended := true }

/-- What the listening server does. -/
def perform (a : Application) (disk : Disk) : ServerAction → Application
  | .requestHandler request => a.receivedRequest disk request
  | .errorOperation .. | .badFunctionCall => a

/-- The operation of the given number reacts to an event. -/
def operationStep (a : Application) (n : ℕ) (e : PeerEvent) : Application :=
  match a.operations.object n with
  | none => a
  | some operation =>
      let a := { a with operations := a.operations.modify n (ServerOperation.step · e) }
      a.operationCompleted n (completions (operation.step e).actions)

/-- The event is taken up. -/
def cleared (a : Application) : Application := { a with completed := [] }

/-- One event. -/
def step (a : Application) (e : ApplicationEvent) : Application :=
  let a := a.cleared
  if a.ended then a
  else
    match e with
    | .datagram disk remote rawPacket =>
        ((ServerImpl.mk true).receiveHandler remote rawPacket).foldl (perform · disk) a
    | .operation n e => a.operationStep n e

/-- The event is a request that gets as far as its file. -/
def OpensFile (a : Application) : ApplicationEvent → Prop
  | .datagram disk remote rawPacket =>
      ∃ request, (ServerImpl.mk true).receiveHandler remote rawPacket = [.requestHandler request] ∧
        a.server.Opens disk request
  | .operation .. => False

/-- **No operation is kept** when a request gets as far as its file. -/
def Alone (t : Transition Application ApplicationEvent) : Prop :=
  t.pre.OpensFile t.event → t.pre.operations.points .serverOperation = none

/-- The statuses that an operation has reported. -/
def reported (n : ℕ) (completed : List (ℕ × TransferStatus)) : List TransferStatus :=
  completed.filterMap fun x => if x.1 = n then some x.2 else none

/-- **The operations are independent**, after a run from `init` to `a`. -/
structure Independent (init : Application)
    (history : List (Transition Application ApplicationEvent)) (a : Application) : Prop where
  /-- Whatever arrives at the port of the server leaves all operations alone. -/
  requests : ∀ t ∈ history, ∀ disk remote rawPacket, t.event = .datagram disk remote rawPacket →
    ∀ n o, t.pre.operations.object n = some o → t.post.operations.object n = some o
  /-- Whatever happens to an operation, its completion included, leaves all others alone. -/
  others : ∀ t ∈ history, ∀ n e, t.event = .operation n e →
    ∀ m ≠ n, t.post.operations.object m = t.pre.operations.object m
  /-- An operation that has been started is in progress and has reported nothing, or it has
  reported its end, once. -/
  runs : ∀ n < a.operations.next,
    reported n (trace completed init history) = [] ∧
        (∃ o, a.operations.object n = some o ∧ o.InProgress) ∨
      (∃ status, reported n (trace completed init history) = [status]) ∧
        a.operations.object n = none

/-- **Between two events**: only the global variable points to an operation, and that is in
progress. -/
structure Sound (a : Application) : Prop where
  local_eq : a.operations.points .localOperation = none
  inProgress : ∀ n o, a.operations.object n = some o → o.InProgress
  ended : a.ended = true → a.operations.points .serverOperation = none

/-- **What an event does to the operations**, between two events. -/
inductive Stepped (a : Application) : ApplicationEvent → Application → Prop
  /-- Nothing. -/
  | idle (e : ApplicationEvent)
      (hidle : a.OpensFile e → a.operations.points .serverOperation = none) :
      Stepped a e a.cleared
  /-- An operation is started, and the one before it destroyed. -/
  | started (e : ApplicationEvent) (o : ServerOperation) (a' : Application)
      (hopens : a.OpensFile e) (ho : o.InProgress)
      (hobject : a'.operations.object = Function.update (fun _ => none) a.operations.next (some o))
      (hnext : a'.operations.next = a.operations.next + 1) (hcompleted : a'.completed = []) :
      Stepped a e a'
  /-- An operation is started, and is over at once. -/
  | refused (e : ApplicationEvent) (status : TransferStatus) (a' : Application)
      (hopens : a.OpensFile e) (hobject : ∀ n, a'.operations.object n = none)
      (hnext : a'.operations.next = a.operations.next + 1)
      (hcompleted : a'.completed = [(a.operations.next, status)]) : Stepped a e a'
  /-- The application ends. -/
  | ended (e : ApplicationEvent) (a' : Application) (hopens : a.OpensFile e)
      (hobject : ∀ n, a'.operations.object n = none)
      (hnext : a'.operations.next = a.operations.next) (hcompleted : a'.completed = []) :
      Stepped a e a'
  /-- The operation goes on. -/
  | advanced (n : ℕ) (e : PeerEvent) (o : ServerOperation) (a' : Application)
      (hthere : (a.operations.object n).isSome) (ho : o.InProgress)
      (hobject : a'.operations.object = Function.update a.operations.object n (some o))
      (hnext : a'.operations.next = a.operations.next) (hcompleted : a'.completed = []) :
      Stepped a (.operation n e) a'
  /-- The operation reports its end, and is destroyed. -/
  | completed (n : ℕ) (e : PeerEvent) (status : TransferStatus) (a' : Application)
      (hthere : (a.operations.object n).isSome) (hobject : ∀ m, a'.operations.object m = none)
      (hnext : a'.operations.next = a.operations.next)
      (hcompleted : a'.completed = [(n, status)]) : Stepped a (.operation n e) a'

variable {a a' : Application} {e : ApplicationEvent}

@[simp] theorem server_cleared : a.cleared.server = a.server := rfl

@[simp] theorem operations_cleared : a.cleared.operations = a.operations := rfl

@[simp] theorem completed_cleared : a.cleared.completed = [] := rfl

/-- There is no operation but the one that the global variable points to. -/
theorem Sound.points_eq (h : a.Sound) {n : ℕ} (hn : (a.operations.object n).isSome) :
    a.operations.points .serverOperation = some n := by
  obtain ⟨p, hp⟩ := a.operations.owned n hn
  cases p with
  | serverOperation => exact hp
  | localOperation => exact absurd (h.local_eq.symm.trans hp) (by rintro ⟨⟩)

theorem Sound.object_eq_none (h : a.Sound) {n : ℕ}
    (hn : a.operations.points .serverOperation ≠ some n) : a.operations.object n = none := by
  rw [← Option.not_isSome_iff_eq_none]
  exact fun hsome => hn (h.points_eq hsome)

/-- Operations stay in progress if one more is put among them that is. -/
theorem inProgress_update {object : ℕ → Option ServerOperation} {o : ServerOperation}
    (h : ∀ m o', object m = some o' → o'.InProgress) (ho : o.InProgress) (n m : ℕ)
    (o' : ServerOperation) (ho' : Function.update object n (some o) m = some o') :
    o'.InProgress := by
  rcases eq_or_ne m n with rfl | hne
  · rw [Function.update_self] at ho'
    exact Option.some.inj ho' ▸ ho
  · rw [Function.update_of_ne hne] at ho'
    exact h m o' ho'

/-- The operation is stored, in both variables, and started. -/
def stored (a : Application) (o : ServerOperation) : Shared OperationPtr ServerOperation :=
  ((a.operations.make .localOperation o).assign .serverOperation .localOperation).modify
    a.operations.next ServerOperation.start

theorem object_stored (a : Application) (o : ServerOperation) :
    (a.stored o).object a.operations.next = some o.start := by
  have hmade : (a.operations.make .localOperation o).object a.operations.next = some o :=
    Function.update_self ..
  have hassigned : ((a.operations.make .localOperation o).assign .serverOperation
      .localOperation).object a.operations.next = some o :=
    (Shared.object_redirect _ (i := OperationPtr.localOperation) rfl).trans hmade
  rw [stored, Shared.object_modify, hassigned, Function.update_self]
  rfl

/-- **What starting an operation does**: it is the only one afterwards, or over and gone. -/
theorem start_cases {o : ServerOperation} (hended : a.ended = false) (hfresh : o.Fresh)
    (hreports : o.base.completionHandlerV = true) :
    (a.start o).Sound ∧ (a.start o).operations.next = a.operations.next + 1 ∧
      ((a.start o).operations.object =
          Function.update (fun _ => none) a.operations.next (some o.start) ∧
        o.start.InProgress ∧ (a.start o).completed = [] ∨
      (∀ n, (a.start o).operations.object n = none) ∧
        ∃ status, (a.start o).completed = [(a.operations.next, status)]) := by
  rcases hfresh.told hreports with ⟨hnil, hprogress⟩ | ⟨status, hone⟩
  · have heq : a.start o =
        { a with operations := (a.stored o).reset .localOperation, completed := [] } := by
      simp only [start, operationCompleted, hnil]
      rfl
    have hobject : ((a.stored o).reset .localOperation).object =
        Function.update (fun _ => none) a.operations.next (some o.start) := by
      funext m
      rcases eq_or_ne m a.operations.next with rfl | hne
      · rw [Function.update_self]
        exact (Shared.object_redirect _ (i := OperationPtr.serverOperation) rfl).trans
          (object_stored a o)
      · rw [Function.update_of_ne hne]
        refine Shared.object_eq_none fun p hp => ?_
        cases p with
        | serverOperation => exact hne (Option.some.inj hp).symm
        | localOperation => cases hp
    rw [heq]
    refine ⟨⟨rfl, ?_, fun h => absurd (hended.symm.trans h) (by rintro ⟨⟩)⟩, rfl,
      Or.inl ⟨hobject, hprogress, rfl⟩⟩
    intro n o' ho'
    rw [hobject] at ho'
    refine inProgress_update ?_ hprogress _ n o' ho'
    intro m o hnone
    cases hnone
  · have heq : a.start o =
        { a with
          operations := ((a.stored o).reset .serverOperation).reset .localOperation
          completed := [(a.operations.next, status)] } := by
      simp only [start, operationCompleted, hone]
      rfl
    have hobject : ∀ n, (((a.stored o).reset .serverOperation).reset
        .localOperation).object n = none := by
      intro n
      refine Shared.object_eq_none fun p hp => ?_
      cases p <;> cases hp
    rw [heq]
    refine ⟨⟨rfl, ?_, fun _ => rfl⟩, rfl, Or.inr ⟨hobject, status, rfl⟩⟩
    intro n o' ho'
    cases (hobject n).symm.trans ho'

/-- The end of the application. -/
theorem object_clear (a : Application) (n : ℕ) : a.operations.clear.object n = none :=
  Shared.object_eq_none fun _ hp => nomatch hp

theorem Sound.cleared (h : a.Sound) : a.cleared.Sound := ⟨h.local_eq, h.inProgress, h.ended⟩

/-- An application without operations. -/
theorem sound_of_object (hlocal : a.operations.points .localOperation = none)
    (hglobal : a.operations.points .serverOperation = none) : a.Sound := by
  refine ⟨hlocal, fun n o ho => ?_, fun _ => hglobal⟩
  have hnone : a.operations.object n = none := Shared.object_eq_none fun p hp => by
    cases p with
    | serverOperation => cases hglobal.symm.trans hp
    | localOperation => cases hlocal.symm.trans hp
  cases hnone.symm.trans ho

/-- A request that does not get as far as its file has no consequences. -/
theorem foldl_perform_of_not_opens {disk : Disk} {remote : Endpoint} {rawPacket : RawData}
    (h : ¬ a.OpensFile (.datagram disk remote rawPacket)) :
    ((ServerImpl.mk true).receiveHandler remote rawPacket).foldl (perform · disk) a = a := by
  rw [ServerImpl.receiveHandler]
  by_cases hr : IsRequest (PacketHandler.packet (rawPacket.take defaultMaxPacketSize.toNat))
  · have hhandler : (ServerImpl.mk true).requestHandlerV = true := rfl
    obtain ⟨request, heq⟩ := Listener.received_request hhandler hr remote
    obtain ⟨errorCode, errorMessage, herror⟩ := TftpServer.receivedRequest_of_not_opens
      fun hopens => h ⟨request, heq, hopens⟩
    rw [heq, List.foldl_cons, List.foldl_nil, perform, receivedRequest, herror]
  · cases hpacket : PacketHandler.packet (rawPacket.take defaultMaxPacketSize.toNat) with
    | invalid => rfl
    | packet packet =>
      rw [hpacket] at hr
      obtain ⟨errorCode, errorMessage, heq⟩ :=
        Listener.oneError_of_packet ⟨true⟩ hr remote
      rw [heq]
      rfl

/-- **What a request does that gets as far as its file.** -/
theorem stepped_receivedRequest (hended : a.ended = false) {disk : Disk}
    {request : ReceivedTftpRequest} (hopens : a.server.Opens disk request)
    (hevent : a.OpensFile e) :
    Stepped a e (a.cleared.receivedRequest disk request) ∧
      (a.cleared.receivedRequest disk request).Sound := by
  rw [receivedRequest]
  rcases TftpServer.receivedRequest_of_opens hopens with
    ⟨o, heq, hfresh, hreports⟩ | heq | heq
  · rw [server_cleared, heq]
    obtain ⟨hsound, hnext, ⟨hobject, ho, hnil⟩ | ⟨hobject, status, hone⟩⟩ :=
      start_cases (a := a.cleared) hended hfresh hreports
    · exact ⟨.started e o.start _ hevent ho hobject hnext hnil, hsound⟩
    · exact ⟨.refused e status _ hevent hobject hnext hone, hsound⟩
  · rw [server_cleared, heq]
    exact ⟨.ended e _ hevent (object_clear a) rfl rfl, sound_of_object rfl rfl⟩
  · rw [server_cleared, heq]
    exact ⟨.ended e _ hevent (object_clear a) rfl rfl, sound_of_object rfl rfl⟩

/-- **What happens to an operation.** -/
theorem stepped_operationStep (h : a.Sound) (n : ℕ) (e : PeerEvent) :
    Stepped a (.operation n e) (a.cleared.operationStep n e) ∧
      (a.cleared.operationStep n e).Sound := by
  rw [operationStep, operations_cleared]
  cases hobject : a.operations.object n with
  | none => exact ⟨.idle _ fun hopens => hopens.elim, h.cleared⟩
  | some o =>
    have hthere : (a.operations.object n).isSome := by
      rw [hobject]
      rfl
    have hmodified : (a.operations.modify n (ServerOperation.step · e)).object =
        Function.update a.operations.object n (some (o.step e)) := by
      rw [Shared.object_modify, hobject]
      rfl
    dsimp only
    rcases (h.inProgress n o hobject).told_step e with ⟨hnil, ho⟩ | ⟨status, hone⟩
    · rw [hnil]
      refine ⟨.advanced n e (o.step e) _ hthere ho hmodified rfl rfl, h.local_eq, ?_, h.ended⟩
      intro m o' ho'
      change (a.operations.modify n (ServerOperation.step · e)).object m = some o' at ho'
      rw [hmodified] at ho'
      exact inProgress_update h.inProgress ho n m o' ho'
    · rw [hone]
      refine ⟨.completed n e status _ hthere ?_ rfl rfl, sound_of_object h.local_eq rfl⟩
      intro m
      refine Shared.object_eq_none fun p hp => ?_
      cases p with
      | serverOperation => cases hp
      | localOperation => cases h.local_eq.symm.trans hp

/-- **Every event does one of these things.** -/
theorem stepped (h : a.Sound) (e : ApplicationEvent) :
    Stepped a e (a.step e) ∧ (a.step e).Sound := by
  by_cases hended : a.cleared.ended = true
  · have heq : a.step e = a.cleared := if_pos hended
    rw [heq]
    exact ⟨.idle _ fun _ => h.ended hended, h.cleared⟩
  · cases e with
    | datagram disk remote rawPacket =>
      have heq : a.step (.datagram disk remote rawPacket) =
          ((ServerImpl.mk true).receiveHandler remote rawPacket).foldl (perform · disk)
            a.cleared := if_neg hended
      rw [heq]
      by_cases hopens : a.OpensFile (.datagram disk remote rawPacket)
      · have hevent := hopens
        obtain ⟨request, hcalls, hrequest⟩ := hopens
        rw [hcalls]
        exact stepped_receivedRequest (a := a) (Bool.eq_false_iff.mpr hended) hrequest hevent
      · rw [foldl_perform_of_not_opens (a := a.cleared) hopens]
        exact ⟨.idle _ fun hevent => absurd hevent hopens, h.cleared⟩
    | operation n e =>
      have heq : a.step (.operation n e) = a.cleared.operationStep n e := if_neg hended
      rw [heq]
      exact stepped_operationStep h n e

/-- **What has been reported**, and by whom: by no operation that is still to come, and by the
others unless they are in progress. -/
structure Runs (T : List (ℕ × TransferStatus)) (a : Application) : Prop where
  made : ∀ n < a.operations.next,
    reported n T = [] ∧ (∃ o, a.operations.object n = some o ∧ o.InProgress) ∨
      (∃ status, reported n T = [status]) ∧ a.operations.object n = none
  unmade : ∀ n, a.operations.next ≤ n → reported n T = []

variable {T : List (ℕ × TransferStatus)}

@[simp] theorem reported_append (n : ℕ) (l l' : List (ℕ × TransferStatus)) :
    reported n (l ++ l') = reported n l ++ reported n l' := List.filterMap_append

theorem reported_self (n : ℕ) (status : TransferStatus) : reported n [(n, status)] = [status] := by
  simp [reported]

theorem reported_ne {m n : ℕ} (h : n ≠ m) (status : TransferStatus) :
    reported m [(n, status)] = [] := by
  simp [reported, h]

/-- **One event keeps account of the reports**, if it does not meet an operation in its way. -/
theorem Runs.stepped (h : Runs T a) (hsound : a.Sound) (hstep : Stepped a e a')
    (halone : a.OpensFile e → a.operations.points .serverOperation = none) :
    Runs (T ++ a'.completed) a' := by
  -- nothing is in the way of a request, so all operations are over
  have hover : a.OpensFile e → ∀ n < a.operations.next, ∃ status, reported n T = [status] := by
    intro hopens n hn
    refine (h.made n hn).elim (fun hprogress => ?_) And.left
    obtain ⟨-, o, ho, -⟩ := hprogress
    have hnone := hsound.object_eq_none (n := n) (by rw [halone hopens]; rintro ⟨⟩)
    cases hnone.symm.trans ho
  cases hstep with
  | idle _ hidle =>
    rw [completed_cleared, List.append_nil]
    exact ⟨h.made, h.unmade⟩
  | started _ o _ hopens ho hobject hnext hcompleted =>
    rw [hcompleted, List.append_nil]
    constructor
    · intro n hn
      rw [hobject]
      rw [hnext] at hn
      rcases Nat.lt_succ_iff_lt_or_eq.mp hn with hlt | rfl
      · rw [Function.update_of_ne (Nat.ne_of_lt hlt)]
        exact Or.inr ⟨hover hopens n hlt, rfl⟩
      · rw [Function.update_self]
        exact Or.inl ⟨h.unmade _ (le_refl _), o, rfl, ho⟩
    · intro n hn
      exact h.unmade n (by omega)
  | refused _ status _ hopens hobject hnext hcompleted =>
    rw [hcompleted]
    constructor
    · intro n hn
      rw [hnext] at hn
      refine Or.inr ⟨?_, hobject n⟩
      rw [reported_append]
      rcases Nat.lt_succ_iff_lt_or_eq.mp hn with hlt | rfl
      · rw [reported_ne (Nat.ne_of_gt hlt), List.append_nil]
        exact hover hopens n hlt
      · rw [reported_self, h.unmade _ (le_refl _)]
        exact ⟨status, rfl⟩
    · intro n hn
      rw [reported_append, reported_ne (by omega), h.unmade n (by omega), List.append_nil]
  | ended _ _ hopens hobject hnext hcompleted =>
    rw [hcompleted, List.append_nil]
    constructor
    · intro n hn
      exact Or.inr ⟨hover hopens n (by omega), hobject n⟩
    · intro n hn
      exact h.unmade n (by omega)
  | advanced n _ o _ hthere ho hobject hnext hcompleted =>
    rw [hcompleted, List.append_nil]
    constructor
    · intro m hm
      rw [hobject]
      rw [hnext] at hm
      rcases eq_or_ne m n with rfl | hne
      · rw [Function.update_self]
        obtain ⟨hnil, -⟩ | ⟨-, hnone⟩ := h.made m hm
        · exact Or.inl ⟨hnil, o, rfl, ho⟩
        · rw [hnone] at hthere
          cases hthere
      · rw [Function.update_of_ne hne]
        exact h.made m hm
    · intro m hm
      exact h.unmade m (by omega)
  | completed n _ status _ hthere hobject hnext hcompleted =>
    rw [hcompleted]
    constructor
    · intro m hm
      refine Or.inr ⟨?_, hobject m⟩
      rw [hnext] at hm
      rw [reported_append]
      rcases eq_or_ne m n with rfl | hne
      · obtain ⟨hnil, -⟩ | ⟨-, hnone⟩ := h.made m hm
        · rw [hnil, reported_self]
          exact ⟨status, rfl⟩
        · rw [hnone] at hthere
          cases hthere
      · -- there was no other operation
        rw [reported_ne (Ne.symm hne), List.append_nil]
        refine (h.made m hm).elim (fun hprogress => ?_) And.left
        obtain ⟨-, o, ho, -⟩ := hprogress
        have hn := hsound.points_eq hthere
        rw [hsound.points_eq (n := m) (by rw [ho]; rfl)] at hn
        exact absurd (Option.some.inj hn) hne
    · intro m hm
      have hlt := a.operations.made n hthere
      rw [reported_append, reported_ne (by omega), h.unmade m (by omega), List.append_nil]

section Run

variable {server : TftpServer} {history : List (Transition Application ApplicationEvent)}

theorem sound_init (server : TftpServer) : ({ server := server } : Application).Sound :=
  sound_of_object rfl rfl

/-- What every transition of a run does. -/
theorem stepped_run (hrun : Run step { server := server } history a) :
    a.Sound ∧ ∀ t ∈ history, t.pre.Sound ∧ Stepped t.pre t.event t.post := by
  induction hrun with
  | start => exact ⟨sound_init server, by simp⟩
  | @next history a e hrun ih =>
    obtain ⟨hsound, hpast⟩ := ih
    obtain ⟨hstep, hsound'⟩ := stepped hsound e
    rw [List.forall_mem_append, List.forall_mem_singleton]
    exact ⟨hsound', hpast, hsound, hstep⟩

theorem runs_run (hrun : Run step { server := server } history a)
    (halone : ∀ t ∈ history, Alone t) : Runs (trace completed { server := server } history) a := by
  induction hrun with
  | start => exact ⟨fun n hn => absurd hn (Nat.not_lt_zero n), fun n _ => rfl⟩
  | @next history a e hrun ih =>
    rw [List.forall_mem_append, List.forall_mem_singleton] at halone
    obtain ⟨hpast, hlast⟩ := halone
    have hsound := (stepped_run hrun).1
    rw [trace_concat]
    exact (ih hpast).stepped hsound (stepped hsound e).1 hlast

/-- **A request that gets as far as its file destroys all operations.** -/
theorem Stepped.object_eq_none (h : Stepped a e a') {disk : Disk} {remote : Endpoint}
    {rawPacket : RawData} (he : e = .datagram disk remote rawPacket) :
    (a.OpensFile e → a.operations.points .serverOperation = none) ∧
        a'.operations.object = a.operations.object ∨
      a.OpensFile e ∧ ∀ n < a.operations.next, a'.operations.object n = none := by
  cases h with
  | idle _ hidle => exact Or.inl ⟨hidle, rfl⟩
  | started _ o _ hopens ho hobject =>
    refine Or.inr ⟨hopens, fun n hn => ?_⟩
    rw [hobject, Function.update_of_ne (Nat.ne_of_lt hn)]
  | refused _ status _ hopens hobject => exact Or.inr ⟨hopens, fun n _ => hobject n⟩
  | ended _ _ hopens hobject => exact Or.inr ⟨hopens, fun n _ => hobject n⟩
  | advanced | completed => cases he

/-- **What happens to one operation leaves all others alone.** -/
theorem Stepped.others (h : Stepped a e a') (hsound : a.Sound) {n m : ℕ} {e' : PeerEvent}
    (he : e = .operation n e') (hne : m ≠ n) :
    a'.operations.object m = a.operations.object m := by
  cases h with
  | idle => rfl
  | started _ _ _ hopens | refused _ _ _ hopens | ended _ _ hopens =>
    rw [he] at hopens
    exact hopens.elim
  | advanced _ _ o _ hthere ho hobject =>
    obtain ⟨rfl, -⟩ := ApplicationEvent.operation.inj he
    rw [hobject, Function.update_of_ne hne]
  | completed _ _ status _ hthere hobject =>
    obtain ⟨rfl, -⟩ := ApplicationEvent.operation.inj he
    rw [hobject, hsound.object_eq_none]
    rw [hsound.points_eq hthere]
    exact fun heq => hne (Option.some.inj heq).symm

end Run

end Application

open Application in
/-- **When the operations are independent**: if none is kept whenever a request gets as far as its
file. -/
theorem independent_iff (server : TftpServer) (events : List ApplicationEvent) :
    Independent { server := server } (replay step { server := server } events).1
        (replay step { server := server } events).2 ↔
      ∀ t ∈ (replay step { server := server } events).1, Alone t := by
  have hrun := Run.of_replay step { server := server } events
  obtain ⟨-, hstepped⟩ := stepped_run hrun
  constructor
  · intro h t ht
    obtain ⟨hsound, hstep⟩ := hstepped t ht
    intro hopens
    cases hevent : t.event with
    | operation n e =>
      rw [hevent] at hopens
      exact hopens.elim
    | datagram disk remote rawPacket =>
      rcases hstep.object_eq_none hevent with ⟨hnone, -⟩ | ⟨-, hgone⟩
      · exact hnone hopens
      · -- the operation that is kept would have been destroyed
        rw [Option.eq_none_iff_forall_ne_some]
        intro n hn
        obtain ⟨o, ho⟩ := Option.isSome_iff_exists.mp (t.pre.operations.alive _ n hn)
        have hkept := h.requests t ht disk remote rawPacket hevent n o ho
        have hlt := t.pre.operations.made n (t.pre.operations.alive _ n hn)
        cases hkept.symm.trans (hgone n hlt)
  · intro halone
    refine ⟨?_, ?_, (runs_run hrun halone).made⟩
    · intro t ht disk remote rawPacket hevent n o ho
      obtain ⟨hsound, hstep⟩ := hstepped t ht
      rcases hstep.object_eq_none hevent with ⟨-, hsame⟩ | ⟨hopens, -⟩
      · rw [hsame]
        exact ho
      · have hnone := hsound.object_eq_none (n := n) (by rw [halone t ht hopens]; rintro ⟨⟩)
        cases hnone.symm.trans ho
    · intro t ht n e hevent m hne
      obtain ⟨hsound, hstep⟩ := hstepped t ht
      exact hstep.others hsound hevent hne

/-- An RRQ for the file `/srv/tftp/f` from the given port. -/
def smallRequestFrom (port : UInt16) : ApplicationEvent :=
  .datagram { toFileSystem := smallFiles } ⟨.v4 0x7F000001, port⟩ smallRequest.rawPacket

/-- One client reads the file, and acknowledges its only block. -/
def oneRead : List ApplicationEvent :=
  [smallRequestFrom 50000,
    .operation 0 (.datagram ⟨.v4 0x7F000001, 50000⟩ (Packet.acknowledgement 1).encode)]

/-- Two clients ask for the file. -/
def twoReads : List ApplicationEvent := [smallRequestFrom 50000, smallRequestFrom 50001]

/-- The application that offers what is below `/srv/tftp`. -/
abbrev smallApplication : Application := { server := TftpServer.smallServer }

open Application in
/-- A read on its own is completed. -/
theorem independent_oneRead :
    Independent smallApplication (replay step smallApplication oneRead).1
        (replay step smallApplication oneRead).2 ∧
      trace completed smallApplication (replay step smallApplication oneRead).1 =
        [(0, .successful)] := by
  refine ⟨(independent_iff TftpServer.smallServer oneRead).mpr fun t ht => ?_, by decide⟩
  rcases List.mem_pair.mp ht with rfl | rfl
  · exact fun _ => rfl
  · exact fun hopens => hopens.elim

open Application in
/-- **The second of two reads destroys the first one**, which has not reported its end. -/
theorem not_independent_twoReads :
    ¬ Independent smallApplication (replay step smallApplication twoReads).1
      (replay step smallApplication twoReads).2 := by
  intro h
  rcases h.runs 0 (by decide) with ⟨-, o, ho, -⟩ | ⟨⟨status, hreported⟩, -⟩
  · have hnone : (replay step smallApplication twoReads).2.operations.object 0 = none := by
      rw [← Option.isNone_iff_eq_none]
      decide
    cases hnone.symm.trans ho
  · have hlength : (reported 0 (trace completed smallApplication
        (replay step smallApplication twoReads).1)).length = 1 := congrArg List.length hreported
    exact absurd hlength (by decide)

end Tftp
