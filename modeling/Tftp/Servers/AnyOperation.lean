import Tftp.Exchanged
import Tftp.Hosts
import Tftp.Negotiation

/-!
# The operations of a server

A server starts what a request asks for: an operation that transmits a file for an RRQ, and one
that receives a file for a WRQ (`Tftp.Servers.answer`). So its operations are of two kinds
(`Tftp.Servers.AnyOperation`), and each of them does what the operation of its kind does
(`Tftp.Servers.AnyOperation.exchangeable_read`, `Tftp.Servers.AnyOperation.exchangeable_write`):
what has been proved of a transfer with either carries over.

Both kinds work on files of the same type, which is why that has to be a `Tftp.File`.
-/

namespace Tftp

open Protocol Operation

/-- `File`: a data handler for both directions. -/
class File (δ : Type) extends ReceiveDataHandler δ, TransmitDataHandler δ

instance MemoryFile.instFile : File MemoryFile where

namespace Servers

/-- **An operation of a server**, of either kind. -/
inductive AnyOperation (δ : Type) where
  | read (operation : ReadOperationImpl δ)
  | write (operation : WriteOperationImpl δ)

namespace AnyOperation

variable {δ : Type}

/-- The shared part of the state. -/
def base : AnyOperation δ → OperationImpl δ
  | read operation => operation.toOperationImpl
  | write operation => operation.toOperationImpl

/-- Replaces the shared part. -/
def withBase : AnyOperation δ → OperationImpl δ → AnyOperation δ
  | read operation, b => read { operation with toOperationImpl := b }
  | write operation, b => write { operation with toOperationImpl := b }

theorem base_withBase (s : AnyOperation δ) (b : OperationImpl δ) : (s.withBase b).base = b := by
  cases s <;> rfl

theorem withBase_withBase (s : AnyOperation δ) (b b' : OperationImpl δ) :
    (s.withBase b).withBase b' = s.withBase b' := by
  cases s <;> rfl

theorem withBase_base (s : AnyOperation δ) : s.withBase s.base = s := by
  cases s <;> rfl

variable [File δ]

/-- The handler of a packet. -/
def received : AnyOperation δ → Faults → Received → AnyOperation δ
  | read operation, f, r => read (Operation.received operation f r)
  | write operation, f, r => write (Operation.received operation f r)

/-- `gracefulAbort`. -/
def gracefulAbort : AnyOperation δ → Faults → ErrorCode → RawData → AnyOperation δ
  | read operation, f, errorCode, errorMessage =>
      read (Operation.gracefulAbort operation f errorCode errorMessage)
  | write operation, f, errorCode, errorMessage =>
      write (Operation.gracefulAbort operation f errorCode errorMessage)

instance instOperation : Operation (AnyOperation δ) δ where
  base := base
  withBase := withBase
  base_withBase := base_withBase
  withBase_withBase := withBase_withBase
  withBase_base := withBase_base
  received := received
  gracefulAbort := gracefulAbort

theorem received_handled (s : AnyOperation δ) (peer : Endpoint) (r : Received)
    (hready : s.base.Ready peer) (hactions : s.base.actions = []) :
    ∃ calls sends report, Handled s.base (s.received {} r).base peer r calls sends report := by
  cases s with
  | read operation => exact PeerOperation.received_handled operation peer r hready hactions
  | write operation => exact PeerOperation.received_handled operation peer r hready hactions

instance instPeerOperation : PeerOperation (AnyOperation δ) δ where
  received_handled := received_handled

theorem received_moored (s : AnyOperation δ) (r : Received) :
    s.base.Moored (s.received {} r).base := by
  cases s with
  | read operation => exact SteadyOperation.received_moored operation r
  | write operation => exact SteadyOperation.received_moored operation r

instance instSteadyOperation : SteadyOperation (AnyOperation δ) δ where
  received_moored := received_moored

end AnyOperation

end Servers

/-! ### What one kind of operation does -/

/-- The same data handler. -/
def HandlerRelation.same (δ : Type) [DataHandler δ] : HandlerRelation δ δ where
  inUse handler handler' := handler = handler'
  always handler handler' := handler = handler'
  always_of_inUse h := h
  finished h := congrArg DataHandler.finished h

theorem OperationImpl.exchanged_same {δ : Type} [DataHandler δ] {b b' : OperationImpl δ} :
    b.Exchanged (.same δ) b' ↔ b = b' := by
  constructor
  · rintro ⟨handler, rfl, rfl, -⟩
    rfl
  · rintro rfl
    exact ⟨b.dataHandlerV, rfl, rfl, fun _ => rfl⟩

/-- **A function that all handlers commute with** makes no difference. -/
theorem Operation.exchangeable_map {σ τ δ : Type} [DataHandler δ] [Operation σ δ] [Operation τ δ]
    {g : τ → σ} (hbase : ∀ s, base (g s) = base s)
    (hwithBase : ∀ s b, withBase (g s) b = g (withBase s b))
    (hreceived : ∀ s f r, received (g s) f r = g (received s f r))
    (hgracefulAbort : ∀ s f errorCode errorMessage, gracefulAbort (g s) f errorCode errorMessage =
      g (gracefulAbort s f errorCode errorMessage)) :
    Exchangeable (.same δ) fun (s : σ) (s' : τ) => s = g s' where
  base h := OperationImpl.exchanged_same.mpr (by rw [h, hbase])
  withBase h hb := by rw [h, OperationImpl.exchanged_same.mp hb, hwithBase]
  received f r h _ := by rw [h, hreceived]
  gracefulAbort f errorCode errorMessage h := by rw [h, hgracefulAbort]

theorem Operation.exchangeable_refl {σ δ : Type} [DataHandler δ] [Operation σ δ] :
    Exchangeable (.same δ) fun s s' : σ => s = s' :=
  exchangeable_map (g := id) (fun _ => rfl) (fun _ _ => rfl) (fun _ _ _ => rfl) fun _ _ _ _ => rfl

namespace Servers

variable {δ : Type} [File δ]

/-- What is started for an RRQ reads. -/
theorem AnyOperation.exchangeable_read : Exchangeable (.same δ)
    fun (s : AnyOperation δ) (s' : ReadOperationImpl δ) => s = .read s' :=
  exchangeable_map (fun _ => rfl) (fun _ _ => rfl) (fun _ _ _ => rfl) fun _ _ _ _ => rfl

/-- What is started for a WRQ writes. -/
theorem AnyOperation.exchangeable_write : Exchangeable (.same δ)
    fun (s : AnyOperation δ) (s' : WriteOperationImpl δ) => s = .write s' :=
  exchangeable_map (fun _ => rfl) (fun _ _ => rfl) (fun _ _ _ => rfl) fun _ _ _ _ => rfl

/-! ### What is started for a request -/

/-- **What a server starts for a request**, with the settings that its request handler chooses. -/
def answer (requestHandler : ReceivedTftpRequest → Settings δ) (request : ReceivedTftpRequest) :
    AnyOperation δ :=
  let settings := (requestHandler request).answering request
  match request.requestType with
  | .read => .read ((ReadOperationImpl.configured settings).start {})
  | .write => .write ((WriteOperationImpl.configured settings).start {})

end Servers

end Tftp
