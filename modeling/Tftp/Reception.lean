import Tftp.Handling
import Tftp.Clients.ReadReceives
import Tftp.Servers.WriteReceives
import Tftp.Files.MemoryFile

/-!
# What a receiver promises

The three questions about the client of a read and the server of a write, whatever the
peer sends and whenever the timer expires: is every block delivered exactly once and in
order, is success reported only at the end of the file, and is nothing delivered after
it?

The first answer is yes (`Tftp.ExactlyOnce`). The other two are no, because the
repetition of a block is recognised by its number alone (`Tftp.RepeatsShortOnly`) and
because dallying is no state of its own (`Tftp.SilentAfterEnd`); under these conditions
on the packets of the peer they are yes (`Tftp.SuccessAtEnd`, `Tftp.NothingAfterEnd`).
-/

namespace Tftp

open Protocol Operation

section Runs

variable {σ δ : Type} [DataHandler δ] [ReceivingOperation σ δ] {init s : σ}
  {history : List (Transition σ PeerEvent)}

open ReceivingOperation

/-! ### Exactly once, in order -/

/-- **Exactly-once delivery in order**, in a run from `init` to `s`. -/
structure ExactlyOnce (init : σ) (history : List (Transition σ PeerEvent)) (s : σ) : Prop where
  /-- The last block number is the number of the last block delivered. -/
  block_eq : (view s).block = BlockNumber.bn (deliveries (trace actions init history)).length
  /-- Nothing is delivered at the start. -/
  start : deliveries (actions init) = []
  /-- An event delivers at most one block: the `k + 1`-st is the payload of a DATA packet
  with its number, and of at most the size in force. -/
  next : ∀ before t after, history = before ++ t :: after →
    ∀ data ∈ deliveries (actions t.post), deliveries (actions t.post) = [data] ∧
      ∃ source rawPacket, t.event = .datagram source rawPacket ∧
        PacketHandler.packet (rawPacket.take (view t.pre).buffer) =
          .packet (.data
            (BlockNumber.bn ((deliveries (trace actions init before)).length + 1)) data) ∧
        data.length ≤ (view t.pre).dataSize.toNat
  /-- A packet with the number of the last block delivers nothing. -/
  repeated : ∀ t ∈ history, ∀ source rawPacket data, t.event = .datagram source rawPacket →
    PacketHandler.packet (rawPacket.take (view t.pre).buffer) =
      .packet (.data (view t.pre).block data) → deliveries (actions t.post) = []
  /-- What is acknowledged, at first or again, is the last block delivered before. -/
  acknowledged : ∀ before a after, trace actions init history = before ++ a :: after →
    ∀ n, a.acknowledges = some n → n = BlockNumber.bn (deliveries before).length

/-- A reaction delivers nothing, unless it accepts the next block. -/
theorem ReceiverReaction.deliveries_cases {v v' : ReceiverView} {p p' : Phase} {e : PeerEvent}
    {acts : List Action} (h : ReceiverReaction v p e acts p' v') :
    (deliveries acts = [] ∧ (v'.dataSize = v.dataSize ∨ v.block = 0) ∧ (p = .done → p' = .done)) ∨
      ∃ source rawPacket data, e = .datagram source rawPacket ∧ p.admits source ∧
        PacketHandler.packet (rawPacket.take v.buffer) = .packet (.data v.block.next data) ∧
        data.length ≤ v.dataSize.toNat ∧ deliveries acts = [data] ∧ v'.dataSize = v.dataSize ∧
        p' = v.phaseAfter source data := by
  cases h with
  | idle | foreign | resend => exact Or.inl ⟨rfl, Or.inl rfl, id⟩
  | expire | dallied => exact Or.inl ⟨deliveries_completion _ _, Or.inl rfl, fun _ => rfl⟩
  | received source rawPacket hphase hstep =>
    have hne := admits_ne_done hphase
    generalize hr : PacketHandler.packet (rawPacket.take v.buffer) = r at hstep
    cases hstep with
    | repeated data => exact Or.inl ⟨by simp, Or.inl rfl, fun hp => absurd hp hne⟩
    | accepted calls data hcalls hsize =>
      have hneg := deliveries_negotiation (negotiation_of_next hcalls)
      exact Or.inr ⟨source, rawPacket, data, rfl, hphase, hr, hsize, by simp [hneg], rfl, rfl⟩
    | negotiated calls options timeout hcalls hblock =>
      exact Or.inl ⟨by simp [deliveries_negotiation hcalls], Or.inr hblock,
        fun hp => absurd hp hne⟩
    | failed _ calls errors status size timeout packet counter hcalls hfailure hsettings hdata =>
      refine Or.inl ⟨?_, hsettings.imp (fun h => h.size_eq) id, fun _ => rfl⟩
      simp [deliveries_negotiation hcalls, hfailure.deliveries_errors, ReceiverView.completion]

theorem ReceiverReaction.dally_eq {v v' : ReceiverView} {p p' : Phase} {e : PeerEvent}
    {acts : List Action} (h : ReceiverReaction v p e acts p' v') : v'.dally = v.dally := by
  cases h with
  | idle | foreign | resend | expire | dallied => rfl
  | received source rawPacket hphase hstep =>
    generalize PacketHandler.packet (rawPacket.take v.buffer) = r at hstep
    cases hstep <;> rfl

/-- **Every run of a receiver delivers exactly once and in order.** -/
theorem exactlyOnce_run (hset : (base init).Settled)
    (hstart : ReceiverStart (actions init) (base init).phase (view init))
    (hrun : Run peerStep init history s) : ExactlyOnce init history s := by
  have hat := reaction_at hset hstart hrun
  obtain ⟨-, hend⟩ := delivered_run hset hstart hrun
  refine ⟨hend.block_eq, hstart.deliveries_eq, ?_, ?_, ?_⟩
  · intro before t after heq data hdata
    obtain ⟨hdel, hreaction⟩ := hat before t after heq
    rcases hreaction.deliveries_cases with
      ⟨hnil, -, -⟩ | ⟨source, rawPacket, data', he, -, hp, hsize, hd, -⟩
    · rw [hnil] at hdata
      cases hdata
    · rw [hd] at hdata ⊢
      obtain rfl := List.mem_singleton.mp hdata
      rw [hdel.block_eq, BlockNumber.next_bn] at hp
      exact ⟨rfl, source, rawPacket, he, hp, hsize⟩
  · intro t ht source rawPacket data he hp
    obtain ⟨before, after, heq⟩ := List.append_of_mem ht
    obtain ⟨-, hreaction⟩ := hat before t after heq
    rcases hreaction.deliveries_cases with
      ⟨hnil, -, -⟩ | ⟨source', rawPacket', data', he', -, hp', -⟩
    · exact hnil
    · obtain ⟨rfl, rfl⟩ : source = source' ∧ rawPacket = rawPacket' := by
        simpa using he.symm.trans he'
      have hblock : (view t.pre).block = (view t.pre).block.next := by
        have := hp.symm.trans hp'
        simp only [Received.packet.injEq, Packet.data.injEq] at this
        exact this.1
      exact absurd hblock.symm (BlockNumber.next_ne _)
  · intro before a after heq n hn
    have hacks := hend.acks
    rw [heq] at hacks
    simpa using hacks.at hn

/-! ### The end of the file -/

/-- Something was delivered, and the last block was shorter than the size in force: the
file is complete. -/
def EndsShort (actions : List Action) (v : ReceiverView) : Prop :=
  ∃ blocks last, deliveries actions = blocks ++ [last] ∧ last.length < v.dataSize.toNat

/-- **No success without the end of the file.** -/
def SuccessAtEnd (init : σ) (history : List (Transition σ PeerEvent)) (s : σ) : Prop :=
  .finished .successful ∈ trace actions init history →
    EndsShort (trace actions init history) (view s)

/-- A short packet with the number of the last block comes only when the last block was
short itself. -/
def RepeatsShortOnly (init : σ) (before : List (Transition σ PeerEvent))
    (t : Transition σ PeerEvent) : Prop :=
  ∀ source rawPacket data, t.event = .datagram source rawPacket → (base t.pre).phase.admits source →
    PacketHandler.packet (rawPacket.take (view t.pre).buffer) =
      .packet (.data (view t.pre).block data) →
    data.length < (view t.pre).dataSize.toNat → EndsShort (trace actions init before) (view t.pre)

/-- **Nothing is delivered after the end of the file**: an event delivers at most one
block, and none when an event before has delivered a short one. -/
def NothingAfterEnd (history : List (Transition σ PeerEvent)) : Prop :=
  Along (fun before t => (deliveries (actions t.post)).length ≤ 1 ∧
    ((∃ u ∈ before, ∃ data ∈ deliveries (actions u.post),
      data.length < (view u.pre).dataSize.toNat) → deliveries (actions t.post) = [])) history

/-- An operation that dallies does not get a packet with the number of a next block once
it has got a short one, unless that packet is too long for a block. -/
def SilentAfterEnd (init : σ) (before : List (Transition σ PeerEvent))
    (t : Transition σ PeerEvent) : Prop :=
  ∀ source rawPacket data, t.event = .datagram source rawPacket → (base t.pre).phase.admits source →
    PacketHandler.packet (rawPacket.take (view t.pre).buffer) =
      .packet (.data (view t.pre).block.next data) →
    data.length ≤ (view t.pre).dataSize.toNat → (view t.pre).dally = true →
    ¬ EndsShort (trace actions init before) (view t.pre)

section Step

variable {T acts : List Action} {p p' : Phase} {v v' : ReceiverView} {e : PeerEvent}

theorem EndsShort.append_silent (h : EndsShort T v) (hacts : deliveries acts = [])
    (hsize : v'.dataSize = v.dataSize) : EndsShort (T ++ acts) v' := by
  obtain ⟨blocks, last, heq, hlast⟩ := h
  exact ⟨blocks, last, by rw [deliveries_append, heq, hacts, List.append_nil], by rwa [hsize]⟩

/-- An operation that has delivered something is beyond the negotiation. -/
theorem EndsShort.block_ne (h : EndsShort T v) (hdel : Delivered T p v) : v.block ≠ 0 := by
  obtain ⟨blocks, last, heq, -⟩ := h
  rw [hdel.block_eq, heq, Ne, BlockNumber.bn_eq_zero]
  simp

/-- Success is reported by nothing but the answer to a short packet. -/
theorem short_of_closing {data : RawData} {status : TransferStatus}
    (h : .finished status ∈ v.closing data) : data.length < v.dataSize.toNat := by
  rw [ReceiverView.closing] at h
  split_ifs at h with hshort
  · simp only [Bool.and_eq_true] at hshort
    exact of_decide_eq_true hshort.1
  · simp at h

theorem short_of_dallying {data : RawData} {peer peer' : Endpoint}
    (h : v.phaseAfter peer data = .dallying peer') : data.length < v.dataSize.toNat := by
  by_contra hlong
  rw [ReceiverView.phaseAfter, ReceiverView.short, decide_eq_false hlong] at h
  cases h

/-- What carries the second answer: whoever dallies or has reported success has the end of
the file. -/
def EndReached (T : List Action) (p : Phase) (v : ReceiverView) : Prop :=
  ((∃ peer, p = .dallying peer) ∨ .finished .successful ∈ T) → EndsShort T v

/-- One event keeps `Tftp.EndReached`, if a short repetition comes only at the end. -/
theorem EndReached.reaction (h : EndReached T p v) (hdel : Delivered T p v)
    (hcond : ∀ source rawPacket data, e = .datagram source rawPacket → p.admits source →
      PacketHandler.packet (rawPacket.take v.buffer) = .packet (.data v.block data) →
      data.length < v.dataSize.toNat → EndsShort T v)
    (hreaction : ReceiverReaction v p e acts p' v') : EndReached (T ++ acts) p' v' := by
  intro hend
  cases hreaction with
  | idle _ hidle => simpa using h (by simpa using hend)
  | foreign server source rawPacket hphase hsource =>
    refine (h ?_).append_silent (deliveries_cons_none rfl _) rfl
    simpa using hend
  | resend destination hphase hretries =>
    refine (h ?_).append_silent (deliveries_cons_none rfl _) rfl
    simpa using hend
  | expire hphase hretries =>
    have hne : p ≠ .done := by rcases hphase with ⟨server, rfl⟩ | ⟨peer, rfl⟩ <;> rintro ⟨⟩
    rcases hend with ⟨peer, hp⟩ | hs
    · cases hp
    · rcases List.mem_append.mp hs with hs | hs
      · exact absurd (hdel.finished _ hs) hne
      · exact absurd (finished_completion hs) (by decide)
  | dallied peer hphase =>
    exact (h (Or.inl ⟨peer, hphase⟩)).append_silent (deliveries_completion _ _) rfl
  | received source rawPacket hphase hstep =>
    have hT : ∀ status, .finished status ∉ T := fun status hs =>
      admits_ne_done hphase (hdel.finished status hs)
    generalize hr : PacketHandler.packet (rawPacket.take v.buffer) = r at hstep
    cases hstep with
    | repeated data =>
      have hshort : data.length < v.dataSize.toNat := by
        rcases hend with ⟨peer, hp⟩ | hs
        · exact short_of_dallying hp
        · rcases List.mem_append.mp hs with hs | hs
          · exact absurd hs (hT _)
          · exact short_of_closing (by simpa using hs)
      exact (hcond source rawPacket data rfl hphase hr hshort).append_silent (by simp) rfl
    | accepted calls data hcalls hsize =>
      have hneg := negotiation_of_next hcalls
      have hshort : data.length < v.dataSize.toNat := by
        rcases hend with ⟨peer, hp⟩ | hs
        · exact short_of_dallying hp
        · rcases List.mem_append.mp hs with hs | hs
          · exact absurd hs (hT _)
          · rcases List.mem_append.mp hs with hs | hs
            · exact absurd hs (finished_negotiation hneg _)
            · exact short_of_closing (by simpa using hs)
      exact ⟨deliveries T, data, by simp [deliveries_negotiation hneg], hshort⟩
    | negotiated calls options timeout hcalls hblock =>
      rcases hend with ⟨peer, hp⟩ | hs
      · cases hp
      · have hmem : .finished .successful ∈ T ∨ .finished .successful ∈ calls := by simpa using hs
        rcases hmem with hs | hs
        · exact absurd hs (hT _)
        · exact absurd hs (finished_negotiation hcalls _)
    | failed _ calls errors status size timeout packet counter hcalls hfailure hsettings hdata =>
      rcases hend with ⟨peer, hp⟩ | hs
      · cases hp
      · have hmem : .finished .successful ∈ T ∨ .finished .successful ∈ calls ∨
            .finished .successful ∈ errors ∨ .finished .successful ∈ v.completion status := by
          simpa [or_assoc] using hs
        rcases hmem with hs | hs | hs | hs
        · exact absurd hs (hT _)
        · exact absurd hs (finished_negotiation hcalls _)
        · rcases hfailure.errors_cases with rfl | ⟨code, message, rfl⟩ <;> simp at hs
        · exact absurd (finished_completion hs).symm hfailure.status_ne

end Step

/-- **A receiver reports success only at the end of the file**, in a run in which a short
packet with the number of the last block comes only when that block was short. -/
theorem successAtEnd_run (hset : (base init).Settled)
    (hstart : ReceiverStart (actions init) (base init).phase (view init))
    (hrun : Run peerStep init history s) (halong : Along (RepeatsShortOnly init) history) :
    SuccessAtEnd init history s := by
  have hend : EndReached (trace actions init history) (base s).phase (view s) := by
    induction hrun with
    | start =>
      rintro (⟨peer, hp⟩ | hs)
      · exact absurd hp (hstart.dallying peer)
      · exact absurd rfl (hstart.finished _ (by simpa using hs)).1
    | next e hrun ih =>
      obtain ⟨hpast, hlast⟩ := along_concat.mp halong
      obtain ⟨hset', hdel⟩ := delivered_run hset hstart hrun
      rw [trace_concat]
      exact (ih hpast).reaction hdel hlast (receiverReaction hset' e).2
  exact fun hs => hend (Or.inr hs)

/-- **A receiver delivers nothing after the end of the file**, unless it dallies and the
peer goes on. -/
theorem nothingAfterEnd_run (hset : (base init).Settled)
    (hstart : ReceiverStart (actions init) (base init).phase (view init))
    (hrun : Run peerStep init history s) (halong : Along (SilentAfterEnd init) history) :
    NothingAfterEnd history := by
  -- a short block stays the last one, and ends the operation unless it dallies
  suffices NothingAfterEnd history ∧
      (∀ u ∈ history, ∀ data ∈ deliveries (actions u.post),
        data.length < (view u.pre).dataSize.toNat →
          EndsShort (trace actions init history) (view s)) ∧
      (EndsShort (trace actions init history) (view s) → (view s).dally = false →
        (base s).phase = .done) from this.1
  induction hrun with
  | start =>
    refine ⟨along_nil, by simp, ?_⟩
    rintro ⟨blocks, last, heq, -⟩
    simp [hstart.deliveries_eq] at heq
  | @next history s e hrun ih =>
    obtain ⟨hpast, hlast⟩ := along_concat.mp halong
    obtain ⟨hnothing, hshort, hdone⟩ := ih hpast
    obtain ⟨hset', hdel⟩ := delivered_run hset hstart hrun
    obtain ⟨-, hreaction⟩ := receiverReaction hset' e
    generalize hs' : peerStep s e = s' at hreaction
    have hdally : (view s').dally = (view s).dally := hreaction.dally_eq
    rw [NothingAfterEnd, along_concat, trace_concat]
    rcases hreaction.deliveries_cases with
      ⟨hnil, hsize, hphase⟩ |
        ⟨source, rawPacket, data, rfl, hadmits, hp, hfits, hd, hsize, hafter⟩
    · have hkeep : EndsShort (trace actions init history) (view s) →
          EndsShort (trace actions init history ++ actions s') (view s') := fun hends =>
        hends.append_silent hnil (hsize.resolve_right (hends.block_ne hdel))
      refine ⟨⟨hnothing, by simp [hnil], fun _ => hnil⟩, ?_, ?_⟩
      · rintro u hu data' hdata' hlt
        rcases List.mem_append.mp hu with hu | hu
        · exact hkeep (hshort u hu data' hdata' hlt)
        · obtain rfl := List.mem_singleton.mp hu
          simp [hnil] at hdata'
      · rintro ⟨blocks, last, heq, hlt⟩ hd
        rw [deliveries_append, hnil, List.append_nil] at heq
        -- the size in force is that of the delivery
        have hne : (view s).block ≠ 0 := by
          rw [hdel.block_eq, heq, Ne, BlockNumber.bn_eq_zero]
          simp
        rw [hsize.resolve_right hne] at hlt
        exact hphase (hdone ⟨blocks, last, heq, hlt⟩ (hdally ▸ hd))
    · -- the next block is accepted, so the file was not complete
      have hnot : ¬ EndsShort (trace actions init history) (view s) := by
        intro hends
        cases hd : (view s).dally with
        | false => exact admits_ne_done hadmits (hdone hends hd)
        | true => exact hlast source rawPacket data rfl hadmits hp hfits hd hends
      refine ⟨⟨hnothing, by simp [hd], ?_⟩, ?_, ?_⟩
      · rintro ⟨u, hu, data', hdata', hlt⟩
        exact absurd (hshort u hu data' hdata' hlt) hnot
      · rintro u hu data' hdata' hlt
        rcases List.mem_append.mp hu with hu | hu
        · exact absurd (hshort u hu data' hdata' hlt) hnot
        · obtain rfl := List.mem_singleton.mp hu
          refine ⟨deliveries (trace actions init history), data', ?_, by rwa [hsize]⟩
          rw [hd, List.mem_singleton] at hdata'
          rw [deliveries_append, hd, hdata']
      · rintro ⟨blocks, last, heq, hlt⟩ hfalse
        rw [deliveries_append, hd] at heq
        obtain ⟨-, hlast'⟩ := List.append_inj' heq rfl
        obtain rfl : data = last := by simpa using hlast'
        rw [hsize] at hlt
        rw [hafter, ReceiverView.phaseAfter, ReceiverView.short, decide_eq_true hlt,
          ← hdally, hfalse]
        rfl

end Runs

/-! ### The two receivers -/

section Operations

variable {δ : Type} [ReceiveDataHandler δ] (client : Clients.Settings δ)
  (server : Servers.Settings δ)

/-- **Exactly-once delivery**: whatever the peer sends, the client of a read and the server
of a write deliver every block once and in order, and acknowledge none before. -/
theorem exactly_once :
    (∀ history s, Run peerStep ((Clients.ReadOperationImpl.configured client).request {}) history s →
      ExactlyOnce ((Clients.ReadOperationImpl.configured client).request {}) history s) ∧
    (∀ history s, Run peerStep ((Servers.WriteOperationImpl.configured server).start {}) history s →
      ExactlyOnce ((Servers.WriteOperationImpl.configured server).start {}) history s) := by
  constructor
  · intro history s hrun
    obtain ⟨hset, hstart⟩ := Clients.ReadOperationImpl.receiverStart_request
      (Clients.ReadOperationImpl.idle_configured client) rfl
    exact exactlyOnce_run hset hstart hrun
  · intro history s hrun
    obtain ⟨hset, hstart⟩ := Servers.WriteOperationImpl.receiverStart_start
      (Servers.WriteOperationImpl.idle_configured server) rfl rfl
    exact exactlyOnce_run hset hstart hrun

/-- A peer that sends two blocks although the first one is short. -/
def twoShortBlocks : List PeerEvent :=
  [.datagram {} (Packet.data 1 [97]).encode, .datagram {} (Packet.data 2 [98]).encode]

/-- A client that dallies, and its first state. -/
def dallyingClient : Clients.ReadOperationImpl MemoryFile :=
  (Clients.ReadOperationImpl.configured { dally := true, dataHandler := .empty }).request {}

/-- A server that dallies, and its first state. -/
def dallyingServer : Servers.WriteOperationImpl MemoryFile :=
  (Servers.WriteOperationImpl.configured { dally := true, dataHandler := .empty }).start {}

/-- Two blocks delivered one after the other. -/
theorem exactly_once_two_blocks :
    ExactlyOnce dallyingClient (replay peerStep dallyingClient twoShortBlocks).1
        (replay peerStep dallyingClient twoShortBlocks).2 ∧
      deliveries (trace actions dallyingClient (replay peerStep dallyingClient twoShortBlocks).1) =
        [[97], [98]] :=
  ⟨(exactly_once { dally := true, dataHandler := MemoryFile.empty }
    { dataHandler := MemoryFile.empty }).1 _ _ (Run.of_replay _ _ _), by decide⟩

/-- **Success only at the end of the file**, as long as a short packet with the number of
the last block is a repetition of a short block. -/
theorem success_at_end :
    (∀ history s, Run peerStep ((Clients.ReadOperationImpl.configured client).request {}) history s →
      Along (RepeatsShortOnly ((Clients.ReadOperationImpl.configured client).request {})) history →
      SuccessAtEnd ((Clients.ReadOperationImpl.configured client).request {}) history s) ∧
    (∀ history s, Run peerStep ((Servers.WriteOperationImpl.configured server).start {}) history s →
      Along (RepeatsShortOnly ((Servers.WriteOperationImpl.configured server).start {})) history →
      SuccessAtEnd ((Servers.WriteOperationImpl.configured server).start {}) history s) := by
  constructor
  · intro history s hrun halong
    obtain ⟨hset, hstart⟩ := Clients.ReadOperationImpl.receiverStart_request
      (Clients.ReadOperationImpl.idle_configured client) rfl
    exact successAtEnd_run hset hstart hrun halong
  · intro history s hrun halong
    obtain ⟨hset, hstart⟩ := Servers.WriteOperationImpl.receiverStart_start
      (Servers.WriteOperationImpl.idle_configured server) rfl rfl
    exact successAtEnd_run hset hstart hrun halong

/-- A peer that sends a file of one byte. -/
def oneShortBlock : List PeerEvent := [.datagram {} (Packet.data 1 [97]).encode, .timeout]

/-- A peer that begins with block zero. -/
def blockZero : List PeerEvent := [.datagram {} (Packet.data 0 []).encode, .timeout]

/-- A transfer of one block. -/
theorem success_at_end_one_block :
    SuccessAtEnd dallyingClient (replay peerStep dallyingClient oneShortBlock).1
        (replay peerStep dallyingClient oneShortBlock).2 ∧
      .finished .successful ∈
        trace actions dallyingClient (replay peerStep dallyingClient oneShortBlock).1 := by
  refine ⟨(success_at_end { dally := true, dataHandler := MemoryFile.empty }
    { dataHandler := MemoryFile.empty }).1 _ _ (Run.of_replay _ _ _) ?_, by decide⟩
  -- the only packet has the number of the next block
  refine along_concat.mpr ⟨along_concat.mpr ⟨along_nil, ?_⟩, by rintro _ _ _ ⟨⟩⟩
  rintro source rawPacket data ⟨rfl, rfl⟩ - hp
  cases hp

/-- **Success without any data**: block zero counts as a repetition of the block before
the first one, and when it is short it ends the file. -/
theorem success_without_end :
    ∃ history s, Run peerStep dallyingClient history s ∧
      ¬ SuccessAtEnd dallyingClient history s := by
  refine ⟨_, _, Run.of_replay peerStep dallyingClient blockZero, fun h => ?_⟩
  obtain ⟨blocks, last, heq, -⟩ := h (by decide)
  have hnil : deliveries (trace actions dallyingClient
      (replay peerStep dallyingClient blockZero).1) = [] := by decide
  rw [hnil] at heq
  simp at heq

/-- **Nothing after the end of the file**, unless the operation dallies and the peer
goes on. -/
theorem nothing_after_end :
    (∀ history s, Run peerStep ((Clients.ReadOperationImpl.configured client).request {}) history s →
      Along (SilentAfterEnd ((Clients.ReadOperationImpl.configured client).request {})) history →
      NothingAfterEnd history) ∧
    (∀ history s, Run peerStep ((Servers.WriteOperationImpl.configured server).start {}) history s →
      Along (SilentAfterEnd ((Servers.WriteOperationImpl.configured server).start {})) history →
      NothingAfterEnd history) := by
  constructor
  · intro history s hrun halong
    obtain ⟨hset, hstart⟩ := Clients.ReadOperationImpl.receiverStart_request
      (Clients.ReadOperationImpl.idle_configured client) rfl
    exact nothingAfterEnd_run hset hstart hrun halong
  · intro history s hrun halong
    obtain ⟨hset, hstart⟩ := Servers.WriteOperationImpl.receiverStart_start
      (Servers.WriteOperationImpl.idle_configured server) rfl rfl
    exact nothingAfterEnd_run hset hstart hrun halong

/-- A transfer of one block. -/
theorem nothing_after_end_one_block :
    NothingAfterEnd (replay peerStep dallyingClient oneShortBlock).1 := by
  refine (nothing_after_end { dally := true, dataHandler := MemoryFile.empty }
    { dataHandler := MemoryFile.empty }).1 _ _ (Run.of_replay _ _ _) ?_
  -- the only packet comes when nothing was delivered
  refine along_concat.mpr ⟨along_concat.mpr ⟨along_nil, ?_⟩, by rintro _ _ _ ⟨⟩⟩
  rintro source rawPacket data - - - - - ⟨blocks, last, heq, -⟩
  have hnil : deliveries (actions dallyingClient) = [] := by decide
  rw [trace_nil] at heq
  exact List.cons_ne_nil _ _ (List.append_eq_nil_iff.mp (heq.symm.trans hnil)).2

/-- **Data after the end of the file**: whoever dallies takes the next block although the
last one was short. -/
theorem data_after_end :
    ∃ history s, Run peerStep dallyingClient history s ∧ ¬ NothingAfterEnd history := by
  refine ⟨_, _, Run.of_replay peerStep dallyingClient twoShortBlocks, fun h => ?_⟩
  have hlast := (h _ _ [] rfl).2
  exact absurd (hlast ⟨_, List.mem_singleton_self _, [97], by decide, by decide⟩) (by decide)

end Operations

end Tftp
