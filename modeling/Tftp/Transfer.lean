import Tftp.Delivery
import Tftp.Handling
import Tftp.Protocol.Chunks

/-!
# A transfer: two operations and a network

The receiver and the sender of a file, and the datagrams that are under way between them
(`Tftp.Transfer`). The network may deliver a datagram and keep it, so that it can be delivered
again, or lose it, and the timers of both sides may expire at any moment
(`Tftp.NetworkEvent`). It is a FIFO network if only the datagram at the head of a channel is
delivered (`Tftp.NetworkEvent.InOrder`). Without that condition it is an unordered network:
everything that was ever sent can be delivered, at any time and any number of times.

What is to be said about a transfer is in `Tftp.Transfer.Intact` – what has been delivered is a
part of the file, and all of it once one side has reported success – and in `Tftp.Flawless`:
nothing goes wrong but that one side may give up waiting.
-/

namespace Tftp

open Protocol

/-- The datagram that an action sends to an endpoint. -/
def Action.sentTo (destination : Endpoint) : Action → Option RawData
  | .send rawPacket destination' | .resend rawPacket destination'
  | .sendUnknown rawPacket destination' =>
      if destination' = destination then some rawPacket else none
  | _ => none

/-- The datagrams that are sent to an endpoint, in order. -/
def sentTo (destination : Endpoint) (actions : List Action) : List RawData :=
  actions.filterMap (Action.sentTo destination)

/-- What the network and the timers do. -/
inductive NetworkEvent where
  /-- A datagram is delivered to the receiver, and may be kept. -/
  | toReceiver (index : ℕ) (keep : Bool)
  /-- A datagram is delivered to the sender, and may be kept. -/
  | toSender (index : ℕ) (keep : Bool)
  /-- A datagram to the receiver gets lost. -/
  | loseToReceiver (index : ℕ)
  /-- A datagram to the sender gets lost. -/
  | loseToSender (index : ℕ)
  /-- The timer of the receiver expires. -/
  | receiverTimeout
  /-- The timer of the sender expires. -/
  | senderTimeout
  deriving DecidableEq

/-- No datagram is overtaken: only the head of a channel is delivered. -/
def NetworkEvent.InOrder : NetworkEvent → Prop
  | .toReceiver index _ | .toSender index _ => index = 0
  | _ => True

instance : DecidablePred NetworkEvent.InOrder
  | .toReceiver index _ | .toSender index _ => inferInstanceAs (Decidable (index = 0))
  | .loseToReceiver _ | .loseToSender _ | .receiverTimeout | .senderTimeout =>
      inferInstanceAs (Decidable True)

/-- A transfer. -/
structure Transfer (σ τ : Type) where
  receiver : σ
  sender : τ
  /-- The datagrams under way to the receiver, the oldest first. -/
  toReceiver : List RawData
  /-- The datagrams under way to the sender, the oldest first. -/
  toSender : List RawData
  /-- All that the receiver has done. -/
  receiverActions : List Action
  /-- All that the sender has done. -/
  senderActions : List Action

namespace Transfer

section Network

open Operation

variable {σ τ δ ε : Type} [DataHandler δ] [DataHandler ε] [Operation σ δ] [Operation τ ε]

/-- Two operations have been started: what they have sent to one another is under way. -/
def started (receiverV senderV : Endpoint) (receiver : σ) (sender : τ) : Transfer σ τ where
  receiver := receiver
  sender := sender
  toReceiver := sentTo receiverV (actions sender)
  toSender := sentTo senderV (actions receiver)
  receiverActions := actions receiver
  senderActions := actions sender

/-- The receiver reacts, and what it sends to the sender is under way. -/
def receiverReacts (senderV : Endpoint) (t : Transfer σ τ) (e : PeerEvent) : Transfer σ τ :=
  let receiver := peerStep t.receiver e
  { t with
    receiver := receiver
    toSender := t.toSender ++ sentTo senderV (actions receiver)
    receiverActions := t.receiverActions ++ actions receiver }

/-- The sender reacts, and what it sends to the receiver is under way. -/
def senderReacts (receiverV : Endpoint) (t : Transfer σ τ) (e : PeerEvent) : Transfer σ τ :=
  let sender := peerStep t.sender e
  { t with
    sender := sender
    toReceiver := t.toReceiver ++ sentTo receiverV (actions sender)
    senderActions := t.senderActions ++ actions sender }

/-- One event. -/
def step (receiverV senderV : Endpoint) (t : Transfer σ τ) : NetworkEvent → Transfer σ τ
  | .toReceiver index keep =>
      match t.toReceiver[index]? with
      | none => t
      | some rawPacket =>
          receiverReacts senderV
            { t with toReceiver := if keep then t.toReceiver else t.toReceiver.eraseIdx index }
            (.datagram senderV rawPacket)
  | .toSender index keep =>
      match t.toSender[index]? with
      | none => t
      | some rawPacket =>
          senderReacts receiverV
            { t with toSender := if keep then t.toSender else t.toSender.eraseIdx index }
            (.datagram receiverV rawPacket)
  | .loseToReceiver index => { t with toReceiver := t.toReceiver.eraseIdx index }
  | .loseToSender index => { t with toSender := t.toSender.eraseIdx index }
  | .receiverTimeout => receiverReacts senderV t .timeout
  | .senderTimeout => senderReacts receiverV t .timeout

end Network

variable {σ τ : Type}

/-- The bytes that were passed to the data handler of the receiver. -/
def bytes (t : Transfer σ τ) : RawData := (deliveries t.receiverActions).flatten

/-- One of the two operations has reported success. -/
def Succeeded (t : Transfer σ τ) : Prop :=
  .finished .successful ∈ t.receiverActions ∨ .finished .successful ∈ t.senderActions

/-- **The file is intact**: what was delivered is a part of the file, made of whole blocks, and
all of it once one side has reported success. -/
structure Intact (file : RawData) (dataSize : ℕ) (t : Transfer σ τ) : Prop where
  blocks_eq : ∃ n, deliveries t.receiverActions = (List.range n).map (block file dataSize)
  isPrefix : t.bytes <+: file
  complete : t.Succeeded → t.bytes = file

end Transfer

/-- **Nothing goes wrong**: no ERROR packet is sent, and the operation ends with success or
because it has waited for too long. -/
structure Flawless (actions : List Action) : Prop where
  status : ∀ status, .finished status ∈ actions →
    status = .successful ∨ status = .communicationError
  packet : ∀ a ∈ actions, ∀ rawPacket, a.onWire = some rawPacket →
    Packet.packetType rawPacket ≠ .error

/-- **The blocks delivered so far make the file intact.** -/
theorem Transfer.intact_of_blocks {σ τ : Type} {t : Transfer σ τ} {file : RawData} {s n : ℕ}
    (hs : 0 < s) (hblocks : deliveries t.receiverActions = (List.range n).map (block file s))
    (hlast : t.Succeeded → lastBlock file s ≤ n) : t.Intact file s := by
  have hbytes : t.bytes = blocks file s n := by
    rw [bytes, hblocks, flatten_range]
  refine ⟨⟨n, hblocks⟩, ?_, fun h => ?_⟩
  · rw [hbytes]
    exact blocks_prefix
  · have hn : 1 ≤ n := le_trans (Nat.le_add_left 1 _) (hlast h)
    obtain ⟨m, rfl⟩ := Nat.exists_eq_add_of_le' hn
    rw [hbytes]
    exact blocks_eq_self ((length_block_lt_iff hs).mpr (hlast h))

section Lists

variable {destination : Endpoint} {l l' : List Action}

@[simp] theorem sentTo_nil : sentTo destination [] = [] := rfl

@[simp] theorem sentTo_append : sentTo destination (l ++ l') =
    sentTo destination l ++ sentTo destination l' := List.filterMap_append

theorem sentTo_cons_none {a : Action} (h : a.sentTo destination = none) (l : List Action) :
    sentTo destination (a :: l) = sentTo destination l := by
  simp [sentTo, h]

theorem sentTo_cons_some {a : Action} {rawPacket : RawData}
    (h : a.sentTo destination = some rawPacket) (l : List Action) :
    sentTo destination (a :: l) = rawPacket :: sentTo destination l := by
  simp [sentTo, h]

@[simp] theorem sentTo_send (rawPacket : RawData) (l : List Action) :
    sentTo destination (.send rawPacket destination :: l) = rawPacket :: sentTo destination l :=
  sentTo_cons_some (by simp [Action.sentTo]) l

@[simp] theorem sentTo_resend (rawPacket : RawData) (l : List Action) :
    sentTo destination (.resend rawPacket destination :: l) =
      rawPacket :: sentTo destination l :=
  sentTo_cons_some (by simp [Action.sentTo]) l

/-- What is sent to somebody else. -/
theorem sentTo_resend_ne {destination' : Endpoint} (h : destination' ≠ destination)
    (rawPacket : RawData) (l : List Action) :
    sentTo destination (.resend rawPacket destination' :: l) = sentTo destination l :=
  sentTo_cons_none (by simp [Action.sentTo, h]) l

/-- What puts nothing on the wire sends nothing to anybody. -/
theorem sentTo_of_onWire (h : ∀ a ∈ l, a.onWire = none) : sentTo destination l = [] := by
  refine List.filterMap_eq_nil_iff.mpr fun a ha => ?_
  have hwire := h a ha
  cases a <;> first | rfl | cases hwire

theorem Flawless.append (h : Flawless l) (h' : Flawless l') : Flawless (l ++ l') where
  status status hmem := (List.mem_append.mp hmem).elim (h.status status) (h'.status status)
  packet a ha := (List.mem_append.mp ha).elim (h.packet a) (h'.packet a)

@[simp] theorem flawless_nil : Flawless [] := ⟨by simp, by simp⟩

theorem onWire_calls (h : ∀ a ∈ l, a.IsCall) : ∀ a ∈ l, a.onWire = none := by
  intro a ha
  have hcall := h a ha
  cases a <;> first | rfl | exact hcall.elim

theorem onWire_completion (reports : Bool) (status : TransferStatus) :
    ∀ a ∈ Action.completion reports status, a.onWire = none := by
  cases reports <;> simp [Action.completion, Action.onWire]

/-- What puts nothing on the wire need not worry about ERROR packets. -/
theorem flawless_of_onWire (h : ∀ a ∈ l, a.onWire = none)
    (hstatus : ∀ status, .finished status ∈ l →
      status = .successful ∨ status = .communicationError) : Flawless l where
  status := hstatus
  packet a ha rawPacket hwire := by
    rw [h a ha] at hwire
    cases hwire

theorem flawless_calls (h : ∀ a ∈ l, a.IsCall) : Flawless l :=
  flawless_of_onWire (onWire_calls h) fun _ hmem => (h _ hmem).elim

/-- Calls of handlers send nothing. -/
theorem sentTo_calls_append (h : ∀ a ∈ l, a.IsCall) :
    sentTo destination (l ++ l') = sentTo destination l' := by
  rw [sentTo_append, sentTo_of_onWire (onWire_calls h), List.nil_append]

/-- Calls of handlers report nothing. -/
theorem finished_mem_calls_append (h : ∀ a ∈ l, a.IsCall) {status : TransferStatus} :
    .finished status ∈ l ++ l' ↔ .finished status ∈ l' := by
  rw [List.mem_append]
  exact or_iff_right (h _)

theorem flawless_completion (reports : Bool) {status : TransferStatus}
    (h : status = .successful ∨ status = .communicationError) :
    Flawless (Action.completion reports status) :=
  flawless_of_onWire (onWire_completion reports status) fun status' hmem => by
    rw [finished_completion hmem]
    exact h

theorem flawless_send {rawPacket : RawData} (h : Packet.packetType rawPacket ≠ .error)
    (destination : Endpoint) : Flawless [.send rawPacket destination] := by
  refine ⟨by simp, fun a ha raw hwire => ?_⟩
  obtain rfl := List.mem_singleton.mp ha
  obtain rfl : rawPacket = raw := by simpa [Action.onWire] using hwire
  exact h

theorem flawless_resend {rawPacket : RawData} (h : Packet.packetType rawPacket ≠ .error)
    (destination : Endpoint) : Flawless [.resend rawPacket destination] := by
  refine ⟨by simp, fun a ha raw hwire => ?_⟩
  obtain rfl := List.mem_singleton.mp ha
  obtain rfl : rawPacket = raw := by simpa [Action.onWire] using hwire
  exact h

end Lists

end Tftp
