import Tftp.Protocol.Run
import Tftp.Packets.Codec
import Tftp.Receiver

/-!
# What a receiver has delivered

The past of a receiver is the list of its actions (`Protocol.trace`). This file says
what of it matters – the blocks passed to the data handler (`Tftp.deliveries`), the
acknowledgements that have gone out (`Tftp.Action.acknowledges`) – and proves the
invariant of every run, `Tftp.Delivered`: the block counter counts the deliveries, and
no acknowledgement is ahead of them.
-/

namespace Tftp

open Protocol OperationImpl

/-- The data that an action passes to the data handler. -/
def Action.delivered : Action → Option RawData
  | .receivedData data => some data
  | _ => none

/-- The data passed to the data handler, in order. -/
def deliveries (actions : List Action) : List RawData := actions.filterMap Action.delivered

/-- The datagram that an action puts on the wire. -/
def Action.onWire : Action → Option RawData
  | .send rawPacket _ | .resend rawPacket _ | .sendUnknown rawPacket _ => some rawPacket
  | _ => none

/-- The block number that a datagram acknowledges. -/
def acknowledgementOf (rawPacket : RawData) : Option BlockNumber :=
  match PacketHandler.packet rawPacket with
  | .packet (.acknowledgement blockNumber) => some blockNumber
  | _ => none

/-- The block number that an action acknowledges. -/
def Action.acknowledges (action : Action) : Option BlockNumber :=
  action.onWire.bind acknowledgementOf

@[simp] theorem deliveries_nil : deliveries [] = [] := rfl

@[simp] theorem deliveries_append (l l' : List Action) :
    deliveries (l ++ l') = deliveries l ++ deliveries l' := List.filterMap_append

@[simp] theorem deliveries_receivedData (data : RawData) (l : List Action) :
    deliveries (.receivedData data :: l) = data :: deliveries l := rfl

theorem deliveries_cons_none {a : Action} (h : a.delivered = none) (l : List Action) :
    deliveries (a :: l) = deliveries l := by
  simp [deliveries, h]

@[simp] theorem deliveries_send (rawPacket : RawData) (destination : Endpoint) (l : List Action) :
    deliveries (.send rawPacket destination :: l) = deliveries l := deliveries_cons_none rfl l

@[simp] theorem deliveries_completion (reports : Bool) (status : TransferStatus) :
    deliveries (Action.completion reports status) = [] := by
  cases reports <;> rfl

theorem deliveries_negotiation {calls : List Action} (h : Negotiation calls) :
    deliveries calls = [] := by
  refine List.filterMap_eq_nil_iff.mpr fun a ha => ?_
  rcases h a ha with ⟨options, rfl⟩ | ⟨n, rfl⟩ <;> rfl

theorem Failure.deliveries_errors {peer : Endpoint} {stored packet : RawData}
    {counter counter' : UInt32} {negotiating : Prop} {r : Received} {errors : List Action}
    {status : TransferStatus}
    (h : Failure peer stored counter negotiating r errors status packet counter') :
    deliveries errors = [] := by
  rcases h.errors_cases with rfl | ⟨code, message, rfl⟩ <;> rfl

@[simp] theorem acknowledgementOf_acknowledgement (n : BlockNumber) :
    acknowledgementOf (Packet.acknowledgement n).encode = some n := by
  rw [acknowledgementOf, PacketHandler.packet_encode (by trivial)]

/-- What reaches a handler has the type that the opcode says. -/
theorem PacketHandler.type_eq {rawPacket : RawData} {p : Packet}
    (h : PacketHandler.packet rawPacket = .packet p) : Packet.packetType rawPacket = p.type := by
  rw [PacketHandler.packet] at h
  cases hd : Packet.decodeAs (Packet.packetType rawPacket) rawPacket with
  | error e => rw [hd] at h; cases h
  | ok q =>
    rw [hd] at h
    obtain rfl : q = p := by simpa using h
    exact (Packet.type_of_decodeAs hd).symm

theorem acknowledgementOf_eq_none {p : Packet} (h : p.type ≠ .acknowledgement) :
    acknowledgementOf p.encode = none := by
  rw [acknowledgementOf]
  split
  · rename_i blockNumber heq
    have ht := PacketHandler.type_eq heq
    rw [Packet.packetType_encode] at ht
    exact absurd ht h
  · rfl

/-! ### Acknowledgements never run ahead -/

/-- Every acknowledgement among the actions is the one of the last block delivered,
when `k` blocks were delivered before. -/
def AcksFrom : ℕ → List Action → Prop
  | _, [] => True
  | k, a :: rest =>
      (∀ n, a.acknowledges = some n → n = BlockNumber.bn k) ∧
        AcksFrom (k + (deliveries [a]).length) rest

theorem acksFrom_append {l l' : List Action} : ∀ {k : ℕ},
    AcksFrom k (l ++ l') ↔ AcksFrom k l ∧ AcksFrom (k + (deliveries l).length) l' := by
  induction l with
  | nil => simp [AcksFrom]
  | cons a l ih =>
    intro k
    rw [List.cons_append, AcksFrom, AcksFrom, ih, and_assoc,
      show deliveries (a :: l) = deliveries [a] ++ deliveries l from deliveries_append [a] l,
      List.length_append, Nat.add_assoc]

/-- What `Tftp.AcksFrom` says about a single action. -/
theorem AcksFrom.at {pre post : List Action} {a : Action} {k : ℕ}
    (h : AcksFrom k (pre ++ a :: post)) {n : BlockNumber} (ha : a.acknowledges = some n) :
    n = BlockNumber.bn (k + (deliveries pre).length) :=
  (acksFrom_append.mp h).2.1 n ha

/-- Actions that put no acknowledgement on the wire. -/
theorem acksFrom_of_silent {l : List Action} (h : ∀ a ∈ l, a.acknowledges = none) :
    ∀ k, AcksFrom k l := by
  induction l with
  | nil => simp [AcksFrom]
  | cons a l ih =>
    intro k
    refine ⟨fun n hn => ?_, ih (fun b hb => h b (List.mem_cons_of_mem _ hb)) _⟩
    rw [h a List.mem_cons_self] at hn
    cases hn

theorem completion_silent (reports : Bool) (status : TransferStatus) :
    ∀ a ∈ Action.completion reports status, a.acknowledges = none := by
  cases reports <;> simp [Action.completion, Action.acknowledges, Action.onWire]

theorem negotiation_silent {calls : List Action} (h : Negotiation calls) :
    ∀ a ∈ calls, a.acknowledges = none := by
  intro a ha
  rcases h a ha with ⟨options, rfl⟩ | ⟨n, rfl⟩ <;> rfl

theorem send_silent {p : Packet} (h : p.type ≠ .acknowledgement) (destination : Endpoint) :
    Action.acknowledges (.send p.encode destination) = none :=
  acknowledgementOf_eq_none h

/-! ### The invariant -/

/-- **How a receiver starts**: it has received nothing, and what it has said is at most
the acknowledgement of block zero. -/
structure ReceiverStart (actions : List Action) (p : Phase) (v : ReceiverView) : Prop where
  block_eq : v.block = 0
  deliveries_eq : deliveries actions = []
  acks : AcksFrom 0 actions
  finished : ∀ status, .finished status ∈ actions → status ≠ .successful ∧ p = .done
  stored : p ≠ .done → ∀ n, acknowledgementOf v.packet = some n → n = 0
  dallying : ∀ peer, p ≠ .dallying peer

/-- **What holds of a receiver at any time**, given all its actions so far. -/
structure Delivered (actions : List Action) (p : Phase) (v : ReceiverView) : Prop where
  /-- The block counter counts the deliveries. -/
  block_eq : v.block = BlockNumber.bn (deliveries actions).length
  /-- No acknowledgement was ahead of the deliveries. -/
  acks : AcksFrom 0 actions
  /-- The stored packet does not acknowledge anything else. -/
  stored : p ≠ .done → ∀ n, acknowledgementOf v.packet = some n → n = v.block
  /-- What is over stays over. -/
  finished : ∀ status, .finished status ∈ actions → p = .done

theorem ReceiverStart.delivered {actions : List Action} {p : Phase} {v : ReceiverView}
    (h : ReceiverStart actions p v) : Delivered actions p v where
  block_eq := by rw [h.block_eq, h.deliveries_eq]; rfl
  acks := h.acks
  stored hp n hn := by rw [h.block_eq]; exact h.stored hp n hn
  finished status hs := (h.finished status hs).2

section Closing

variable (v : ReceiverView) (data : RawData)

theorem closing_silent : ∀ a ∈ v.closing data, a.acknowledges = none := by
  rw [ReceiverView.closing]
  split_ifs
  · exact completion_silent _ _
  · simp

@[simp] theorem deliveries_closing : deliveries (v.closing data) = [] := by
  rw [ReceiverView.closing]
  split_ifs
  · exact deliveries_completion _ _
  · rfl

/-- When something is reported after a block, the operation is done. -/
theorem phaseAfter_of_closing {status : TransferStatus} (peer : Endpoint)
    (h : .finished status ∈ v.closing data) : v.phaseAfter peer data = .done := by
  rw [ReceiverView.closing] at h
  split_ifs at h with hshort
  · simp only [Bool.and_eq_true, Bool.not_eq_true'] at hshort
    simp [ReceiverView.phaseAfter, Phase.afterData, hshort]
  · simp at h

end Closing

theorem finished_completion {reports : Bool} {status status' : TransferStatus}
    (h : .finished status ∈ Action.completion reports status') : status = status' := by
  rw [Action.completion] at h
  split_ifs at h <;> simpa using h

theorem finished_negotiation {calls : List Action} (h : Negotiation calls)
    (status : TransferStatus) : .finished status ∉ calls := by
  intro hmem
  rcases h _ hmem with ⟨options, heq⟩ | ⟨n, heq⟩ <;> cases heq

theorem negotiation_of_next {v : ReceiverView} {calls : List Action}
    (h : calls = [] ∨ v.negotiates ∧ ∃ options, calls = [.optionNegotiation options]) :
    Negotiation calls := by
  rcases h with rfl | ⟨-, options, rfl⟩ <;> simp [Negotiation]

section Step

variable {T acts : List Action} {p p' : Phase} {v v' : ReceiverView} {peer : Endpoint}
  {r : Received} {e : PeerEvent}

/-- **One packet keeps the invariant.** -/
theorem Delivered.received (h : Delivered T p v) (hp : p ≠ .done)
    (hstep : ReceiverStep v peer r acts p' v') : Delivered (T ++ acts) p' v' := by
  have hrunning : ∀ status, .finished status ∉ T := fun status hs => hp (h.finished status hs)
  cases hstep with
  | repeated data =>
    -- the last block again: the counter stays, and its number is acknowledged
    refine ⟨?_, acksFrom_append.mpr ⟨h.acks, ?_, ?_⟩, ?_, ?_⟩
    · simpa using h.block_eq
    · intro n hn
      obtain rfl : v.block = n := by simpa [Action.acknowledges, Action.onWire] using hn
      simpa using h.block_eq
    · exact acksFrom_of_silent (closing_silent v data) _
    · intro _ n hn
      obtain rfl : v.block = n := by simpa using hn
      rfl
    · intro status hs
      rcases List.mem_append.mp hs with hs | hs
      · exact absurd hs (hrunning status)
      · exact phaseAfter_of_closing v data peer (by simpa using hs)
  | accepted calls data hcalls hsize =>
    -- one more is delivered, and the counter goes along
    have hneg := negotiation_of_next hcalls
    have hblock : v.block.next = BlockNumber.bn ((deliveries T).length + 1) := by
      rw [h.block_eq, BlockNumber.next_bn]
    refine ⟨?_, acksFrom_append.mpr ⟨h.acks, acksFrom_append.mpr ⟨?_, ?_, ?_, ?_⟩⟩, ?_, ?_⟩
    · simpa [deliveries_negotiation hneg] using hblock
    · exact acksFrom_of_silent (negotiation_silent hneg) _
    · rintro n ⟨⟩
    · intro n hn
      obtain rfl : v.block.next = n := by simpa [Action.acknowledges, Action.onWire] using hn
      simpa [deliveries_negotiation hneg] using hblock
    · exact acksFrom_of_silent (closing_silent v data) _
    · intro _ n hn
      obtain rfl : v.block.next = n := by simpa using hn
      rfl
    · intro status hs
      rcases List.mem_append.mp hs with hs | hs
      · exact absurd hs (hrunning status)
      · rcases List.mem_append.mp hs with hs | hs
        · exact absurd hs (finished_negotiation hneg status)
        · exact phaseAfter_of_closing v data peer (by simpa using hs)
  | negotiated calls options timeout hcalls hblock =>
    -- number zero is acknowledged, and nothing has been delivered
    refine ⟨?_, acksFrom_append.mpr ⟨h.acks, acksFrom_append.mpr ⟨?_, ?_, trivial⟩⟩, ?_, ?_⟩
    · simpa [deliveries_negotiation hcalls] using h.block_eq
    · exact acksFrom_of_silent (negotiation_silent hcalls) _
    · intro n hn
      obtain rfl : 0 = n := by simpa [Action.acknowledges, Action.onWire] using hn
      rw [← hblock]
      simpa [deliveries_negotiation hcalls] using h.block_eq
    · intro _ n hn
      obtain rfl : 0 = n := by simpa using hn
      exact hblock.symm
    · intro status hs
      have hmem : .finished status ∈ T ∨ .finished status ∈ calls := by simpa using hs
      rcases hmem with hs | hs
      · exact absurd hs (hrunning status)
      · exact absurd hs (finished_negotiation hcalls status)
  | failed _ calls errors status size timeout packet counter hcalls hfailure hsettings hdata =>
    have hsilent : ∀ a ∈ errors, a.acknowledges = none := by
      rcases hfailure.errors_cases with rfl | ⟨code, message, rfl⟩
      · simp
      · simpa using send_silent (p := .error code message) (by simp [Packet.type]) peer
    refine ⟨?_, acksFrom_append.mpr ⟨h.acks, ?_⟩, fun hne => absurd rfl hne, fun _ _ => rfl⟩
    · simpa [deliveries_negotiation hcalls, hfailure.deliveries_errors, ReceiverView.completion]
        using h.block_eq
    · refine acksFrom_of_silent ?_ _
      intro a ha
      simp only [List.mem_append] at ha
      rcases ha with (ha | ha) | ha
      · exact negotiation_silent hcalls a ha
      · exact hsilent a ha
      · exact completion_silent _ _ a ha

/-- **One event keeps the invariant.** -/
theorem Delivered.reaction (h : Delivered T p v) (hreaction : ReceiverReaction v p e acts p' v') :
    Delivered (T ++ acts) p' v' := by
  cases hreaction with
  | idle _ hidle => simpa using h
  | foreign server source rawPacket hphase hsource =>
    have hsilent : ∀ a ∈ [Action.sendUnknown (Packet.error .unknownTransferId
        (ascii "Packet from wrong source")).encode source], a.acknowledges = none := by
      intro a ha
      obtain rfl := List.mem_singleton.mp ha
      exact acknowledgementOf_eq_none
        (p := .error .unknownTransferId (ascii "Packet from wrong source")) (by simp [Packet.type])
    refine ⟨?_, acksFrom_append.mpr ⟨h.acks, acksFrom_of_silent hsilent _⟩, h.stored, ?_⟩
    · rw [deliveries_append, deliveries_cons_none rfl, deliveries_nil, List.append_nil]
      exact h.block_eq
    · intro status hs
      exact h.finished status (by simpa using hs)
  | resend destination hphase hretries =>
    have hne : p ≠ .done := by
      rcases hphase with ⟨⟨server, rfl⟩, -⟩ | rfl <;> rintro ⟨⟩
    refine ⟨?_, acksFrom_append.mpr ⟨h.acks, ?_, trivial⟩, h.stored, ?_⟩
    · rw [deliveries_append, deliveries_cons_none rfl, deliveries_nil, List.append_nil]
      exact h.block_eq
    · intro n hn
      rw [Nat.zero_add, ← h.block_eq]
      exact h.stored hne n hn
    · intro status hs
      exact h.finished status (by simpa using hs)
  | expire hphase hretries =>
    refine ⟨?_, acksFrom_append.mpr ⟨h.acks, acksFrom_of_silent (completion_silent _ _) _⟩,
      fun hne => absurd rfl hne, fun _ _ => rfl⟩
    simpa [ReceiverView.completion] using h.block_eq
  | dallied peer hphase =>
    refine ⟨?_, acksFrom_append.mpr ⟨h.acks, acksFrom_of_silent (completion_silent _ _) _⟩,
      fun hne => absurd rfl hne, fun _ _ => rfl⟩
    simpa [ReceiverView.completion] using h.block_eq
  | received source rawPacket hphase hstep => exact h.received (admits_ne_done hphase) hstep

end Step

namespace ReceivingOperation

open Operation

variable {σ δ : Type} [DataHandler δ] [ReceivingOperation σ δ] {init s : σ}
  {history : List (Transition σ PeerEvent)}

/-- **What holds of every run of a receiver.** -/
theorem delivered_run (hset : (base init).Settled)
    (hstart : ReceiverStart (Operation.actions init) (base init).phase (view init))
    (hrun : Run peerStep init history s) :
    (base s).Settled ∧
      Delivered (trace Operation.actions init history) (base s).phase (view s) := by
  induction hrun with
  | start =>
    rw [trace_nil]
    exact ⟨hset, hstart.delivered⟩
  | next e _ ih =>
    obtain ⟨hset', hreaction⟩ := receiverReaction ih.1 e
    rw [trace_concat]
    exact ⟨hset', ih.2.reaction hreaction⟩

/-- The reaction at each transition of a run, with the invariant before it. -/
theorem reaction_at (hset : (base init).Settled)
    (hstart : ReceiverStart (Operation.actions init) (base init).phase (view init))
    (hrun : Run peerStep init history s) :
    ∀ before t after, history = before ++ t :: after →
      Delivered (trace Operation.actions init before) (base t.pre).phase (view t.pre) ∧
        ReceiverReaction (view t.pre) (base t.pre).phase t.event (Operation.actions t.post)
          (base t.post).phase (view t.post) := by
  intro before t after heq
  obtain ⟨hset', hdel⟩ := delivered_run hset hstart (hrun.before before t after heq)
  have hreaction := (receiverReaction hset' t.event).2
  rw [← hrun.post_eq t (by rw [heq]; simp)] at hreaction
  exact ⟨hdel, hreaction⟩

end ReceivingOperation

end Tftp
