import Tftp.Handling
import Tftp.Clients.WriteSends
import Tftp.Servers.ReadSends
import Tftp.Files.MemoryFile

/-!
# What a sender has sent

The blocks that a sender has taken from its data handler (`Tftp.chunks`) say where it
stands. `Tftp.Transmitted` is the invariant of every run: the counter of sent blocks
counts them, and the last number acknowledged is that of the block before the last –
or the sentinel `0xFFFF`, as long as the first acknowledgement has not come.

The server of a read keeps it whatever the peer sends (`Tftp.SendsAndWaits`). The client
of a write does not: it takes over an acknowledgement of options whenever its sentinel
says so, and the sentinel does not say that no data has been sent
(`Tftp.NegotiationOver`).
-/

namespace Tftp

open Protocol

/-- What an action takes from the data handler: the size asked for, and the data. -/
def Action.taken : Action → Option (ℕ × RawData)
  | .sendData maxSize data => some (maxSize, data)
  | _ => none

/-- The blocks taken from the data handler, in order, each with the size asked for. -/
def chunks (actions : List Action) : List (ℕ × RawData) := actions.filterMap Action.taken

@[simp] theorem chunks_nil : chunks [] = [] := rfl

@[simp] theorem chunks_append (l l' : List Action) : chunks (l ++ l') = chunks l ++ chunks l' :=
  List.filterMap_append

theorem chunks_cons_none {a : Action} (h : a.taken = none) (l : List Action) :
    chunks (a :: l) = chunks l := by
  simp [chunks, h]

@[simp] theorem chunks_completion (reports : Bool) (status : TransferStatus) :
    chunks (Action.completion reports status) = [] := by
  cases reports <;> rfl

section Views

variable {δ : Type} {v w : SenderView δ} {calls : List Action} {state : δ}

theorem SenderView.Consulted.chunks_eq {options : Options} (h : v.Consulted options calls state) :
    chunks calls = [] := by
  rcases h with ⟨rfl, -⟩ | ⟨-, rfl⟩ <;> rfl

theorem SenderView.Consulted.finished_notMem {options : Options}
    (h : v.Consulted options calls state) (status : TransferStatus) :
    .finished status ∉ calls := by
  rcases h with ⟨rfl, -⟩ | ⟨-, rfl⟩ <;> simp

theorem SenderView.Acknowledged.chunks_eq (h : v.Acknowledged calls state) : chunks calls = [] := by
  rcases h with ⟨rfl, -⟩ | ⟨-, h⟩
  · rfl
  · exact h.chunks_eq

theorem SenderView.Acknowledged.finished_notMem (h : v.Acknowledged calls state)
    (status : TransferStatus) : .finished status ∉ calls := by
  rcases h with ⟨rfl, -⟩ | ⟨-, h⟩
  · simp
  · exact h.finished_notMem status

variable [TransmitDataHandler δ]

@[simp] theorem SenderView.chunks_sending (peer : Endpoint) :
    chunks (w.sending peer) = [(w.dataSize.toNat, w.block)] := rfl

theorem SenderView.finished_notMem_sending (peer : Endpoint) (status : TransferStatus) :
    .finished status ∉ w.sending peer := by
  simp [SenderView.sending]

end Views

/-! ### The invariant -/

/-- What is acknowledged when `k` blocks have been sent: all but the last, or nothing at
all yet. -/
def AcknowledgedOf {δ : Type} (v : SenderView δ) (k : ℕ) : Prop :=
  v.received = 0xFFFF ∧ (k = 0 ∨ v.takesOptions = true ∧ k = 1) ∨
    1 ≤ k ∧ v.received = BlockNumber.bn (k - 1)

/-- **What holds of a sender at any time**, given all its actions so far. -/
structure Transmitted {δ : Type} (actions : List Action) (p : Phase) (v : SenderView δ) :
    Prop where
  /-- The block counter counts the blocks sent. -/
  transmitted_eq : v.transmitted = BlockNumber.bn (chunks actions).length
  /-- All of them but the last are acknowledged. -/
  received_eq : p ≠ .done → AcknowledgedOf v (chunks actions).length
  /-- The end of the file is noticed. -/
  last_eq : v.last = true →
    ∃ blocks c, chunks actions = blocks ++ [c] ∧ c.2.length < c.1
  /-- No block is taken after a short one. -/
  full : ∀ c ∈ chunks actions, c.2.length < c.1 → v.last = true
  /-- What is over stays over. -/
  finished : ∀ status, .finished status ∈ actions → p = .done
  dallying : ∀ peer, p ≠ .dallying peer

/-- The sentinel is no number that the first block could have. -/
theorem bn_ne_sentinel {k : ℕ} (h : k ≤ 1) : BlockNumber.bn k ≠ 0xFFFF := by
  interval_cases k <;> decide

section Step

variable {δ : Type} [TransmitDataHandler δ] {T acts : List Action} {p p' : Phase}
  {v v' w : SenderView δ} {peer : Endpoint} {r : Received} {e : PeerEvent}

omit [TransmitDataHandler δ] in
/-- Before the first block. -/
theorem Transmitted.init (hchunks : chunks T = []) (hfin : ∀ status, .finished status ∉ T)
    (htransmitted : v.transmitted = 0) (hreceived : v.received = 0xFFFF) (hlast : v.last = false)
    (hdally : ∀ peer, p ≠ .dallying peer) : Transmitted T p v := by
  refine ⟨?_, fun _ => Or.inl ⟨hreceived, Or.inl ?_⟩, ?_, ?_, ?_, hdally⟩
  · rw [hchunks, htransmitted]
    rfl
  · rw [hchunks]
    rfl
  · rw [hlast]
    rintro ⟨⟩
  · simp [hchunks]
  · intro status hs
    exact absurd hs (hfin status)

omit [TransmitDataHandler δ] in
/-- **The outstanding acknowledgement is no repetition.** -/
theorem Transmitted.ne (h : Transmitted T p v) (hp : p ≠ .done) : v.transmitted ≠ v.received := by
  rw [h.transmitted_eq]
  rcases h.received_eq hp with ⟨hs, hk⟩ | ⟨hk, hs⟩
  · rw [hs]
    exact bn_ne_sentinel (by omega)
  · rw [hs]
    obtain ⟨k, hk'⟩ := Nat.exists_eq_add_of_le' hk
    rw [hk', Nat.add_sub_cancel]
    exact (BlockNumber.bn_ne_succ k).symm

/-- Sending one more block keeps the invariant. -/
theorem Transmitted.sending {calls : List Action} (h : Transmitted T p v) (hp : p ≠ .done)
    (hlast : v.last = false) (hw : w.transmitted = v.transmitted) (hwlast : w.last = v.last)
    (hack : AcknowledgedOf w.advanced ((chunks T).length + 1)) (hcalls : chunks calls = [])
    (hfin : ∀ status, .finished status ∉ calls) :
    Transmitted (T ++ (calls ++ w.sending peer)) (.waiting peer) w.advanced := by
  have hchunks : chunks (T ++ (calls ++ w.sending peer)) =
      chunks T ++ [(w.dataSize.toNat, w.block)] := by
    simp [hcalls]
  have hfull : ∀ c ∈ chunks T, ¬ c.2.length < c.1 := by
    intro c hc hshort
    rw [h.full c hc hshort] at hlast
    cases hlast
  refine ⟨?_, fun _ => ?_, ?_, ?_, ?_, by rintro _ ⟨⟩⟩
  · rw [hchunks, List.length_append, SenderView.advanced, hw, h.transmitted_eq,
      BlockNumber.next_bn]
    rfl
  · rw [hchunks, List.length_append]
    exact hack
  · intro hl
    refine ⟨chunks T, _, hchunks, ?_⟩
    rw [SenderView.advanced, hwlast, hlast] at hl
    split_ifs at hl with hshort
    exact hshort
  · intro c hc hshort
    rw [hchunks] at hc
    rcases List.mem_append.mp hc with hc | hc
    · exact absurd hshort (hfull c hc)
    · obtain rfl := List.mem_singleton.mp hc
      exact if_pos hshort
  · intro status hs
    rcases List.mem_append.mp hs with hs | hs
    · exact absurd (h.finished status hs) hp
    · rcases List.mem_append.mp hs with hs | hs
      · exact absurd hs (hfin status)
      · exact absurd hs (SenderView.finished_notMem_sending peer status)

omit [TransmitDataHandler δ] in
/-- What takes no block and ends the operation keeps the invariant. -/
theorem Transmitted.over (h : Transmitted T p v) (hacts : chunks acts = [])
    (htransmitted : v'.transmitted = v.transmitted) (hlast : v'.last = v.last) :
    Transmitted (T ++ acts) .done v' := by
  have hchunks : chunks (T ++ acts) = chunks T := by simp [hacts]
  refine ⟨?_, fun hne => absurd rfl hne, ?_, ?_, fun _ _ => rfl, by rintro _ ⟨⟩⟩
  · rw [hchunks, htransmitted, h.transmitted_eq]
  · rw [hchunks, hlast]
    exact h.last_eq
  · rw [hchunks, hlast]
    exact h.full

omit [TransmitDataHandler δ] in
/-- What takes no block and changes nothing keeps the invariant. -/
theorem Transmitted.silent (h : Transmitted T p v) (hacts : chunks acts = [])
    (hfin : ∀ status, .finished status ∉ acts) : Transmitted (T ++ acts) p v := by
  have hchunks : chunks (T ++ acts) = chunks T := by simp [hacts]
  refine ⟨?_, ?_, ?_, ?_, fun status hs => ?_, h.dallying⟩
  · rw [hchunks]
    exact h.transmitted_eq
  · rw [hchunks]
    exact h.received_eq
  · rw [hchunks]
    exact h.last_eq
  · rw [hchunks]
    exact h.full
  · rcases List.mem_append.mp hs with hs | hs
    · exact h.finished status hs
    · exact absurd hs (hfin status)

/-- **One packet keeps the invariant**, unless it is an acknowledgement of options that
comes when data has been sent and the sentinel is still there. -/
theorem Transmitted.received (h : Transmitted T p v) (hp : p ≠ .done)
    (hcond : v.takesOptions = true → ∀ options, r = .packet (.optionsAcknowledgement options) →
      v.received = 0xFFFF → chunks T = [])
    (hstep : SenderStep v peer r acts p' v') : Transmitted (T ++ acts) p' v' := by
  cases hstep with
  | repeated =>
    have hrunning : ∀ status, .finished status ∉ T := fun status hs => hp (h.finished status hs)
    rw [List.append_nil]
    exact ⟨h.transmitted_eq, fun _ => h.received_eq hp, h.last_eq, h.full,
      fun status hs => absurd hs (hrunning status), by rintro _ ⟨⟩⟩
  | next calls state hcalls hne hlast =>
    refine h.sending hp hlast rfl rfl (Or.inr ⟨by omega, ?_⟩) hcalls.chunks_eq
      hcalls.finished_notMem
    rw [Nat.add_sub_cancel]
    exact h.transmitted_eq
  | completed calls state hcalls hne hlast =>
    exact h.over (by simp [hcalls.chunks_eq, SenderView.completion]) rfl rfl
  | negotiated calls state options remaining size timeout htakes hreceived hcalls hsize =>
    have hnil := hcond htakes options rfl hreceived
    have hlast : v.last = false := by
      rw [Bool.eq_false_iff]
      intro hl
      obtain ⟨blocks, c, heq, -⟩ := h.last_eq hl
      simp [hnil] at heq
    refine h.sending hp hlast rfl rfl (Or.inl ⟨hreceived, Or.inr ⟨htakes, ?_⟩⟩) hcalls.chunks_eq
      hcalls.finished_notMem
    simp [hnil]
  | failed _ calls errors status v' hcalls hfailure hretries htransmitted hlast hsettings hack =>
    have hcall : chunks calls = [] := by
      rcases hcalls with rfl | ⟨options, rfl⟩ <;> rfl
    have herr : chunks errors = [] := by
      rcases hfailure.errors_cases with rfl | ⟨code, message, rfl⟩ <;> rfl
    exact h.over (by simp [hcall, herr, SenderView.completion]) htransmitted hlast

/-- **One event keeps the invariant**, under the same condition. -/
theorem Transmitted.reaction (h : Transmitted T p v)
    (hcond : v.takesOptions = true → ∀ source rawPacket options,
      e = .datagram source rawPacket → p.admits source →
      PacketHandler.packet (rawPacket.take v.buffer) = .packet (.optionsAcknowledgement options) →
      v.received = 0xFFFF → chunks T = [])
    (hreaction : SenderReaction v p e acts p' v') : Transmitted (T ++ acts) p' v' := by
  cases hreaction with
  | idle _ hidle => exact h.silent rfl (by simp)
  | foreign server source rawPacket hphase hsource => exact h.silent rfl (by simp)
  | resend destination hphase hretries =>
    -- only the counter is another one
    have hsilent : Transmitted (T ++ [.resend v.packet destination]) p v :=
      h.silent rfl (by simp)
    exact ⟨hsilent.transmitted_eq, hsilent.received_eq, hsilent.last_eq, hsilent.full,
      hsilent.finished, hsilent.dallying⟩
  | expire hphase => exact h.over (chunks_completion _ _) rfl rfl
  | dallied peer hphase => exact absurd hphase (h.dallying peer)
  | received source rawPacket hphase hstep =>
    exact h.received (admits_ne_done hphase)
      (fun htakes options => hcond htakes source rawPacket options rfl hphase) hstep

/-! ### What an event can do -/

/-- **A block is taken only in answer to an acknowledgement** of the last one, or of the
options, and it is sent at once. -/
theorem SenderReaction.chunks_cases (h : SenderReaction v p e acts p' v') :
    chunks acts = [] ∨ ∃ source rawPacket c, e = .datagram source rawPacket ∧ p.admits source ∧
      chunks acts = [c] ∧ .send (Packet.data v.transmitted.next c.2).encode source ∈ acts ∧
      (PacketHandler.packet (rawPacket.take v.buffer) =
          .packet (.acknowledgement v.transmitted) ∧ v.last = false ∨
        ∃ options, PacketHandler.packet (rawPacket.take v.buffer) =
          .packet (.optionsAcknowledgement options) ∧ v.takesOptions = true ∧
            v.received = 0xFFFF) := by
  cases h with
  | idle | foreign | resend => exact Or.inl rfl
  | expire | dallied => exact Or.inl (chunks_completion _ _)
  | received source rawPacket hphase hstep =>
    generalize hr : PacketHandler.packet (rawPacket.take v.buffer) = r at hstep
    cases hstep with
    | repeated => exact Or.inl rfl
    | next calls state hcalls hne hlast =>
      exact Or.inr ⟨source, rawPacket, _, rfl, hphase, by simp [hcalls.chunks_eq]; rfl,
        by simp [SenderView.sending, SenderView.acknowledged], Or.inl ⟨hr, hlast⟩⟩
    | completed calls state hcalls hne hlast =>
      exact Or.inl (by simp [hcalls.chunks_eq, SenderView.completion])
    | negotiated calls state options remaining size timeout htakes hreceived hcalls hsize =>
      exact Or.inr ⟨source, rawPacket, _, rfl, hphase, by simp [hcalls.chunks_eq]; rfl,
        by simp [SenderView.sending, SenderView.negotiated],
        Or.inr ⟨options, hr, htakes, hreceived⟩⟩
    | failed _ calls errors status v' hcalls hfailure hretries htransmitted hlast hsettings hack =>
      have hcall : chunks calls = [] := by
        rcases hcalls with rfl | ⟨options, rfl⟩ <;> rfl
      have herr : chunks errors = [] := by
        rcases hfailure.errors_cases with rfl | ⟨code, message, rfl⟩ <;> rfl
      exact Or.inl (by simp [hcall, herr, SenderView.completion])

/-- Success is reported in answer to the acknowledgement of the end of the file. -/
theorem SenderReaction.successful (h : SenderReaction v p e acts p' v')
    (hdally : ∀ peer, p ≠ .dallying peer) (hs : .finished .successful ∈ acts) :
    ∃ source rawPacket, e = .datagram source rawPacket ∧ p.admits source ∧
      PacketHandler.packet (rawPacket.take v.buffer) = .packet (.acknowledgement v.transmitted) ∧
      v.last = true := by
  cases h with
  | idle | foreign | resend => simp at hs
  | expire => exact absurd (finished_completion hs) (by decide)
  | dallied peer hphase => exact absurd hphase (hdally peer)
  | received source rawPacket hphase hstep =>
    generalize hr : PacketHandler.packet (rawPacket.take v.buffer) = r at hstep
    cases hstep with
    | repeated => simp at hs
    | next calls state hcalls hne hlast =>
      rcases List.mem_append.mp hs with hs | hs
      · exact absurd hs (hcalls.finished_notMem _)
      · exact absurd hs (SenderView.finished_notMem_sending _ _)
    | completed calls state hcalls hne hlast =>
      exact ⟨source, rawPacket, rfl, hphase, hr, hlast⟩
    | negotiated calls state options remaining size timeout htakes hreceived hcalls hsize =>
      rcases List.mem_append.mp hs with hs | hs
      · exact absurd hs (hcalls.finished_notMem _)
      · exact absurd hs (SenderView.finished_notMem_sending _ _)
    | failed _ calls errors status v' hcalls hfailure hretries htransmitted hlast hsettings hack =>
      have hcall : .finished .successful ∉ calls := by
        rcases hcalls with rfl | ⟨options, rfl⟩ <;> simp
      have herr : .finished .successful ∉ errors := by
        rcases hfailure.errors_cases with rfl | ⟨code, message, rfl⟩ <;> simp
      have hmem : .finished .successful ∈ calls ∨ .finished .successful ∈ errors ∨
          .finished .successful ∈ v.completion status := by
        simpa [or_assoc] using hs
      rcases hmem with hs | hs | hs
      · exact absurd hs hcall
      · exact absurd hs herr
      · exact absurd (finished_completion hs).symm hfailure.status_ne

/-- **A repeated acknowledgement is answered with nothing at all**, and changes nothing. -/
theorem SenderReaction.repeated {source : Endpoint} {rawPacket : RawData}
    (h : SenderReaction v p (.datagram source rawPacket) acts p' v')
    (hadmits : p.admits source)
    (hr : PacketHandler.packet (rawPacket.take v.buffer) = .packet (.acknowledgement v.received)) :
    acts = [] ∧ v' = v := by
  have hstep := h.step hadmits
  rw [hr] at hstep
  generalize hn : v.received = n at hstep
  cases hstep with
  | repeated => exact ⟨rfl, rfl⟩
  | next _ _ _ hne | completed _ _ _ hne => exact absurd hn.symm hne
  | failed _ calls errors status v' hcalls hfailure hretries htransmitted hlast hsettings hack =>
    exact absurd hn.symm (hack n rfl).1

/-- **The acknowledgement of the last block is always answered**, by the next block or by
the end, where there is no option negotiation handler that could refuse. -/
theorem SenderReaction.answered {source : Endpoint} {rawPacket : RawData}
    (h : SenderReaction v p (.datagram source rawPacket) acts p' v')
    (hadmits : p.admits source) (hne : v.transmitted ≠ v.received) (hneg : v.negotiation = none)
    (hr : PacketHandler.packet (rawPacket.take v.buffer) =
      .packet (.acknowledgement v.transmitted)) :
    (∃ c, chunks acts = [c]) ∨ .finished .successful ∈ acts := by
  have hstep := h.step hadmits
  rw [hr] at hstep
  generalize hn : v.transmitted = n at hstep
  cases hstep with
  | repeated => exact absurd hn hne
  | next calls state hcalls => exact Or.inl ⟨_, by rw [chunks_append, hcalls.chunks_eq]; rfl⟩
  | completed calls state hcalls =>
    exact Or.inr (List.mem_append_right _ List.mem_cons_self)
  | failed _ calls errors status v' hcalls hfailure hretries htransmitted hlast hsettings hack =>
    have hsome := ((hack n rfl).2 hn.symm).2
    rw [hneg] at hsome
    cases hsome

/-- **An acknowledgement of options that comes when data flows changes nothing**, if the
sentinel is gone. -/
theorem SenderReaction.options {source : Endpoint} {rawPacket : RawData} {options : Options}
    (h : SenderReaction v p (.datagram source rawPacket) acts p' v')
    (hr : PacketHandler.packet (rawPacket.take v.buffer) =
      .packet (.optionsAcknowledgement options))
    (hzero : v.transmitted ≠ 0) (hsentinel : p.admits source → v.received ≠ 0xFFFF) :
    v'.dataSize = v.dataSize ∧ v'.timeout = v.timeout ∧
      (∀ options, .optionNegotiation options ∉ acts) ∧ chunks acts = [] := by
  generalize he : PeerEvent.datagram source rawPacket = e at h
  cases h with
  | idle | foreign => exact ⟨rfl, rfl, by simp, rfl⟩
  | resend | expire | dallied => cases he
  | received _ _ hphase hstep =>
    cases he
    rw [hr] at hstep
    cases hstep with
    | negotiated calls state options remaining size timeout htakes hreceived =>
      exact absurd hreceived (hsentinel hphase)
    | failed _ calls errors status v' hcalls hfailure hretries htransmitted hlast hsettings hack =>
      obtain ⟨rfl, hsize, htimeout⟩ :=
        hsettings.resolve_right (not_or.mpr ⟨hsentinel hphase, hzero⟩)
      refine ⟨hsize, htimeout, fun options ho => ?_, ?_⟩
      · have hmem : .optionNegotiation options ∈ errors ∨
            .optionNegotiation options ∈ v.completion status := by simpa using ho
        rcases hmem with hmem | hmem
        · rcases hfailure.errors_cases with rfl | ⟨code, message, rfl⟩ <;> simp at hmem
        · rw [SenderView.completion, Action.completion] at hmem
          split_ifs at hmem <;> simp at hmem
      · rcases hfailure.errors_cases with rfl | ⟨code, message, rfl⟩
        · simp [SenderView.completion]
        · exact chunks_completion _ _

end Step

/-! ### Runs -/

section Runs

open Operation SendingOperation

variable {σ δ : Type} [TransmitDataHandler δ] [SendingOperation σ δ] {init s : σ}
  {history : List (Transition σ PeerEvent)}

/-- An acknowledgement of options that finds the sentinel comes before any data is sent. -/
def NoLateOptions (init : σ) (before : List (Transition σ PeerEvent))
    (t : Transition σ PeerEvent) : Prop :=
  ∀ source rawPacket options, t.event = .datagram source rawPacket → (base t.pre).phase.admits source →
    PacketHandler.packet (rawPacket.take (view t.pre).buffer) =
      .packet (.optionsAcknowledgement options) →
    (view t.pre).received = 0xFFFF → chunks (trace actions init before) = []

/-- **What holds of every run of a sender**, if no acknowledgement of options comes late to
a side that takes them over. -/
theorem transmitted_run (hrun : Run peerStep init history s) (hset : (base init).Settled)
    (hstart : Transmitted (actions init) (base init).phase (view init))
    (halong : Along (fun before t => (view t.pre).takesOptions = true → NoLateOptions init before t)
      history) :
    (base s).Settled ∧ Transmitted (trace actions init history) (base s).phase (view s) := by
  induction hrun with
  | start =>
    rw [trace_nil]
    exact ⟨hset, hstart⟩
  | next e _ ih =>
    obtain ⟨hpast, hlast⟩ := along_concat.mp halong
    obtain ⟨hset', htr⟩ := ih hpast
    obtain ⟨hset'', hreaction⟩ := senderReaction hset' e
    rw [trace_concat]
    exact ⟨hset'', htr.reaction hlast hreaction⟩

/-- The reaction at each transition of a run, with the invariant before it. -/
theorem transmitted_at (hrun : Run peerStep init history s) (hset : (base init).Settled)
    (hstart : Transmitted (actions init) (base init).phase (view init))
    (halong : Along (fun before t => (view t.pre).takesOptions = true → NoLateOptions init before t)
      history) :
    ∀ before t after, history = before ++ t :: after →
      Transmitted (trace actions init before) (base t.pre).phase (view t.pre) ∧
        SenderReaction (view t.pre) (base t.pre).phase t.event (actions t.post)
          (base t.post).phase (view t.post) := by
  intro before t after heq
  obtain ⟨hset', htr⟩ :=
    transmitted_run (hrun.before before t after heq) hset hstart (halong.past heq)
  have hreaction := (senderReaction hset' t.event).2
  rw [← hrun.post_eq t (by rw [heq]; simp)] at hreaction
  exact ⟨htr, hreaction⟩

end Runs

/-! ### The server of a read -/

section Server

open Operation SendingOperation

variable {δ : Type} [TransmitDataHandler δ]

/-- **A stop-and-wait sender**, in a run from `init`. -/
structure SendsAndWaits {σ : Type} [SendingOperation σ δ] (init : σ)
    (history : List (Transition σ PeerEvent)) : Prop where
  /-- At the start no block is sent, or the first one and no acknowledgement of options. -/
  start : chunks (actions init) = [] ∨ ∃ c peer, chunks (actions init) = [c] ∧
    .send (Packet.data 1 c.2).encode peer ∈ actions init ∧
    ∀ options destination, .send (Packet.optionsAcknowledgement options).encode destination ∉
      actions init
  /-- After that block `k + 1` is taken only in answer to an acknowledgement of block `k`,
  and sent with its number. -/
  next : ∀ before t after, history = before ++ t :: after → ∀ c ∈ chunks (actions t.post),
    chunks (actions t.post) = [c] ∧ ∃ source rawPacket, t.event = .datagram source rawPacket ∧
      PacketHandler.packet (rawPacket.take (view t.pre).buffer) = .packet (.acknowledgement
        (BlockNumber.bn (chunks (trace actions init before)).length)) ∧
      .send (Packet.data (BlockNumber.bn ((chunks (trace actions init before)).length + 1))
        c.2).encode source ∈ actions t.post
  /-- The acknowledgement of the block before the last is answered with nothing. -/
  repeated : ∀ before t after k, history = before ++ t :: after →
    (chunks (trace actions init before)).length = k + 1 → ∀ source rawPacket,
      t.event = .datagram source rawPacket →
      PacketHandler.packet (rawPacket.take (view t.pre).buffer) =
        .packet (.acknowledgement (BlockNumber.bn k)) →
      (base t.pre).phase.admits source → actions t.post = []
  /-- The acknowledgement of the last block is answered with the next one, or ends the
  transfer. -/
  answered : ∀ before t after, history = before ++ t :: after → ∀ source rawPacket,
    t.event = .datagram source rawPacket →
    PacketHandler.packet (rawPacket.take (view t.pre).buffer) = .packet (.acknowledgement
      (BlockNumber.bn (chunks (trace actions init before)).length)) →
    (base t.pre).phase.admits source →
      (∃ c, chunks (actions t.post) = [c]) ∨ .finished .successful ∈ actions t.post
  /-- No block is taken after a short one. -/
  last : ∀ before t after, history = before ++ t :: after →
    (∃ c ∈ chunks (trace actions init before), c.2.length < c.1) → chunks (actions t.post) = []
  /-- Success is reported only in answer to the acknowledgement of a short last block. -/
  successful : .finished .successful ∉ actions init ∧
    ∀ before t after, history = before ++ t :: after → .finished .successful ∈ actions t.post →
      ∃ source rawPacket, t.event = .datagram source rawPacket ∧
        PacketHandler.packet (rawPacket.take (view t.pre).buffer) = .packet (.acknowledgement
          (BlockNumber.bn (chunks (trace actions init before)).length)) ∧
        ∃ blocks c, chunks (trace actions init before) = blocks ++ [c] ∧ c.2.length < c.1

/-- **In every run the server of a read sends and waits.** -/
theorem sendsAndWaits_run {init s : Servers.ReadOperationImpl δ}
    {history : List (Transition (Servers.ReadOperationImpl δ) PeerEvent)}
    (hset : init.Settled) (hstart : Transmitted init.actions init.phase init.view)
    (hfirst : chunks (actions init) = [] ∨ ∃ c peer, chunks (actions init) = [c] ∧
      .send (Packet.data 1 c.2).encode peer ∈ actions init ∧
      ∀ options destination, .send (Packet.optionsAcknowledgement options).encode destination ∉
        actions init)
    (hfail : .finished .successful ∉ actions init) (hrun : Run peerStep init history s) :
    SendsAndWaits init history := by
  have hat := transmitted_at hrun hset hstart (by rintro before t after - ⟨⟩)
  refine ⟨hfirst, ?_, ?_, ?_, ?_, hfail, ?_⟩
  · intro before t after heq c hc
    obtain ⟨htr, hreaction⟩ := hat before t after heq
    rcases hreaction.chunks_cases with
      hnil | ⟨source, rawPacket, c', he, -, hchunks, hsend, ⟨hp, -⟩ | ⟨options, -, htakes, -⟩⟩
    · rw [hnil] at hc
      cases hc
    · rw [hchunks] at hc ⊢
      obtain rfl := List.mem_singleton.mp hc
      rw [htr.transmitted_eq] at hp hsend
      rw [BlockNumber.next_bn] at hsend
      exact ⟨rfl, source, rawPacket, he, hp, hsend⟩
    · cases htakes
  · intro before t after k heq hk source rawPacket he hp hadmits
    obtain ⟨htr, hreaction⟩ := hat before t after heq
    rw [he] at hreaction
    refine (hreaction.repeated hadmits ?_).1
    rcases htr.received_eq (admits_ne_done hadmits) with ⟨-, hzero | ⟨⟨⟩, -⟩⟩ | ⟨-, hrec⟩
    · omega
    · rw [hrec, hk, Nat.add_sub_cancel]
      exact hp
  · intro before t after heq source rawPacket he hp hadmits
    obtain ⟨htr, hreaction⟩ := hat before t after heq
    rw [he] at hreaction
    rw [← htr.transmitted_eq] at hp
    exact hreaction.answered hadmits (htr.ne (admits_ne_done hadmits)) rfl hp
  · rintro before t after heq ⟨c, hc, hshort⟩
    obtain ⟨htr, hreaction⟩ := hat before t after heq
    have hlast := htr.full c hc hshort
    rcases hreaction.chunks_cases with
      hnil | ⟨-, -, c', -, -, -, -, ⟨-, hfalse⟩ | ⟨options, -, htakes, -⟩⟩
    · exact hnil
    · rw [hlast] at hfalse
      cases hfalse
    · cases htakes
  · intro before t after heq hs
    obtain ⟨htr, hreaction⟩ := hat before t after heq
    obtain ⟨source, rawPacket, he, -, hp, hlast⟩ := hreaction.successful htr.dallying hs
    rw [htr.transmitted_eq] at hp
    exact ⟨source, rawPacket, he, hp, htr.last_eq hlast⟩

open Servers.ReadOperationImpl in
theorem chunks_announced (s : Servers.ReadOperationImpl δ) : chunks s.announced.2.2 = [] := by
  rw [announced]
  cases s.offeredTransferSize <;> rfl

open Servers.ReadOperationImpl in
theorem mem_announced {s : Servers.ReadOperationImpl δ} {a : Action} (h : a ∈ s.announced.2.2) :
    a = .requestedTransferSize := by
  rw [announced] at h
  cases hoff : s.offeredTransferSize with
  | none =>
    rw [hoff] at h
    cases h
  | some size =>
    rw [hoff] at h
    exact List.mem_singleton.mp h

open Servers.ReadOperationImpl in
/-- A file in memory is at its beginning when the server of a read answers. -/
theorem after_announced (settings : Servers.Settings MemoryFile)
    (hsource : settings.dataHandler.operationV = .transmit) (size : ℕ) :
    ((configured settings).announced.2.1).After settings.dataHandler.dataV size 0 := by
  have hstart : (configured settings).announced.2.1 = settings.dataHandler.start := by
    rw [announced]
    cases (configured settings).offeredTransferSize <;> rfl
  rw [hstart]
  exact MemoryFile.start_after hsource

/-- The packets of a read are of one type each. -/
theorem encode_ne {p q : Packet} (h : p.type ≠ q.type) : p.encode ≠ q.encode := by
  intro heq
  have ht := congrArg Packet.packetType heq
  rw [Packet.packetType_encode, Packet.packetType_encode] at ht
  exact h ht

open Servers.ReadOperationImpl in
/-- **The server of a read starts as a stop-and-wait sender.** -/
theorem transmitted_start {s : Servers.ReadOperationImpl δ} (h : s.Idle) (hactions : s.actions = [])
    (htransmitted : s.lastTransmittedBlockNumber = 0) (hreceived : s.lastReceivedBlockNumber = 0)
    (hlast : s.lastDataPacketTransmitted = false) :
    (s.start {}).Settled ∧
      Transmitted (s.start {}).actions (s.start {}).phase (s.start {}).view ∧
      (chunks (actions (s.start {})) = [] ∨ ∃ c peer, chunks (actions (s.start {})) = [c] ∧
        .send (Packet.data 1 c.2).encode peer ∈ actions (s.start {}) ∧
        ∀ options destination, .send (Packet.optionsAcknowledgement options).encode destination ∉
          actions (s.start {})) ∧
      .finished .successful ∉ actions (s.start {}) := by
  have hann := chunks_announced s
  have hfin : ∀ status, .finished status ∉ s.announced.2.2 := by
    intro status hs
    cases mem_announced hs
  cases hrefuses : s.refuses with
  | true =>
    obtain ⟨hset, hphase, hact, hblock, hl⟩ := start_refused h hrefuses
    rw [hactions, List.nil_append] at hact
    have hchunks : chunks (s.start {}).actions = [] := by
      rw [hact]
      exact chunks_completion _ _
    refine ⟨hset, ⟨?_, fun hne => absurd hphase hne, ?_, ?_, fun _ _ => hphase, ?_⟩,
      Or.inl hchunks, ?_⟩
    · rw [hchunks]
      exact hblock.trans htransmitted
    · intro hlast'
      rw [show (s.start {}).view.last = false from hl.trans hlast] at hlast'
      cases hlast'
    · simp [hchunks]
    · rw [hphase]
      rintro _ ⟨⟩
    · intro hs
      have hs' : .finished .successful ∈ s.completion .transferError := by
        rw [show actions (s.start {}) = _ from hact] at hs
        simpa using hs
      exact absurd (finished_completion hs') (by decide)
  | false =>
    cases hoptions : s.acknowledgedOptions.isEmpty with
    | false =>
      obtain ⟨hset, hphase, hact, hview⟩ := start_acknowledges h hrefuses hoptions
      rw [hactions, List.nil_append] at hact
      have hchunks : chunks (s.start {}).actions = [] := by
        rw [hact, chunks_cons_none rfl, chunks_append, hann]
        rfl
      have hnot : ∀ status, .finished status ∉ (s.start {}).actions := by
        intro status hs
        rw [hact] at hs
        exact hfin status (by simpa using hs)
      refine ⟨hset, Transmitted.init hchunks hnot ?_ ?_ ?_ ?_, Or.inl hchunks, hnot _⟩
      · rw [hview]
        exact htransmitted
      · rw [hview]
      · rw [hview]
        exact hlast
      · rw [hphase]
        rintro _ ⟨⟩
    | true =>
      obtain ⟨hset, hphase, hact, hview⟩ := start_sends h hrefuses hoptions
      rw [hactions, List.nil_append] at hact
      -- as if a sentinel had been there, and block zero were acknowledged
      have hinit :
          Transmitted [] (.waiting s.remoteV) { s.accepted.view with received := 0xFFFF } :=
        Transmitted.init rfl (by simp) htransmitted rfl hlast (by rintro _ ⟨⟩)
      have hsending : Transmitted ([] ++ ((.start :: s.announced.2.2) ++
          s.accepted.view.sending s.remoteV)) (.waiting s.remoteV) s.accepted.view.advanced :=
        hinit.sending (by rintro ⟨⟩) hlast rfl rfl (Or.inr ⟨le_refl _, hreceived⟩)
          (by rw [chunks_cons_none rfl, hann]) (by simpa using hfin)
      have hchunks : chunks (s.start {}).actions =
          [(s.accepted.view.dataSize.toNat, s.accepted.view.block)] := by
        rw [hact, chunks_cons_none rfl, chunks_append, hann]
        rfl
      have hacts : actions (s.start {}) = .start :: (s.announced.2.2 ++
        s.accepted.view.sending s.remoteV) := hact
      have hfirst : s.accepted.view.transmitted.next = 1 := by
        rw [show s.accepted.view.transmitted = 0 from htransmitted]
        rfl
      have hmem : ∀ rawPacket destination, .send rawPacket destination ∈ actions (s.start {}) →
          rawPacket = (Packet.data 1 s.accepted.view.block).encode := by
        intro rawPacket destination hs
        rw [hacts] at hs
        rcases List.mem_append.mp (List.mem_of_ne_of_mem (by simp) hs) with hs | hs
        · cases mem_announced hs
        · rw [SenderView.sending, hfirst] at hs
          have heq : rawPacket = (Packet.data 1 s.accepted.view.block).encode ∧
            destination = s.remoteV := by simpa using hs
          exact heq.1
      refine ⟨hset, ?_, Or.inr ⟨_, s.remoteV, hchunks, ?_, ?_⟩, ?_⟩
      · rw [hact, hphase, hview]
        exact hsending
      · rw [hacts, SenderView.sending, hfirst]
        simp
      · intro options destination hs
        exact encode_ne (by simp [Packet.type]) (hmem _ _ hs)
      · rw [hacts]
        intro hs
        rcases List.mem_append.mp (List.mem_of_ne_of_mem (by simp) hs) with hs | hs
        · exact hfin _ hs
        · exact SenderView.finished_notMem_sending _ _ hs

/-- **Stop and wait**: whatever the peer sends, the server of a read takes a block from its
data handler only when the one before is acknowledged. -/
theorem sends_and_waits (server : Servers.Settings δ) :
    ∀ history s, Run peerStep ((Servers.ReadOperationImpl.configured server).start {}) history s →
      SendsAndWaits ((Servers.ReadOperationImpl.configured server).start {}) history := by
  intro history s hrun
  obtain ⟨hset, hstart, hfirst, hfail⟩ := transmitted_start
    (Servers.ReadOperationImpl.idle_configured server) rfl rfl rfl rfl
  exact sendsAndWaits_run hset hstart hfirst hfail hrun

/-- A server that has sent the first of two blocks. -/
def sendingServer : Servers.ReadOperationImpl MemoryFile :=
  (Servers.ReadOperationImpl.configured {
    dataHandler := .ofData [97, 98, 99, 100, 101, 102, 103, 104, 105]
    optionsConfiguration := { blockSizeOption := some 8 }
    clientOptions := { blockSize := some 8 } }).start {}

/-- A peer that acknowledges the options and two blocks, each of them twice. -/
def threeAcknowledgements : List PeerEvent :=
  [0, 0, 1, 1, 2, 2].map fun n => .datagram {} (Packet.acknowledgement n).encode

/-- A file of two blocks, sent to the end. -/
theorem sends_and_waits_two_blocks :
    SendsAndWaits sendingServer (replay peerStep sendingServer threeAcknowledgements).1 ∧
      (chunks (trace actions sendingServer
        (replay peerStep sendingServer threeAcknowledgements).1)).map Prod.snd =
          [[97, 98, 99, 100, 101, 102, 103, 104], [105]] :=
  ⟨sends_and_waits _ _ _ (Run.of_replay _ _ _), by decide⟩

end Server

/-! ### The client of a write -/

section Client

open Operation SendingOperation

/-- **Negotiation is over once data flows**, in a run from `init`. -/
structure NegotiationOver {σ δ : Type} [TransmitDataHandler δ] [SendingOperation σ δ] (init : σ)
    (history : List (Transition σ PeerEvent)) : Prop where
  /-- No block is taken before the request is answered. -/
  start : chunks (actions init) = []
  /-- After the first block an acknowledgement of options changes no setting, is not shown
  to the option negotiation handler, and takes no block. -/
  options : ∀ before t after, history = before ++ t :: after →
    chunks (trace actions init before) ≠ [] → ∀ source rawPacket options,
      t.event = .datagram source rawPacket →
      PacketHandler.packet (rawPacket.take (view t.pre).buffer) =
        .packet (.optionsAcknowledgement options) →
      (view t.post).dataSize = (view t.pre).dataSize ∧
        (view t.post).timeout = (view t.pre).timeout ∧
        (∀ options, .optionNegotiation options ∉ actions t.post) ∧ chunks (actions t.post) = []
  /-- Block `k + 1` is taken alone, and only in answer to an acknowledgement of block `k`. -/
  next : ∀ before t after, history = before ++ t :: after → ∀ c ∈ chunks (actions t.post),
    chunks (actions t.post) = [c] ∧ (chunks (trace actions init before) ≠ [] →
      ∃ source rawPacket, t.event = .datagram source rawPacket ∧
        PacketHandler.packet (rawPacket.take (view t.pre).buffer) = .packet (.acknowledgement
          (BlockNumber.bn (chunks (trace actions init before)).length)))

variable {δ : Type} [TransmitDataHandler δ]

/-- **The client of a write starts as a sender**: it has sent its request. -/
theorem transmitted_request {s : Clients.WriteOperationImpl δ} (h : s.Idle)
    (hactions : s.actions = []) :
    (s.request {}).Settled ∧
      Transmitted (s.request {}).actions (s.request {}).phase (s.request {}).view ∧
      chunks (actions (s.request {})) = [] := by
  have hcalls : s.announced.2.2 = [] ∨ s.announced.2.2 = [.requestedTransferSize] := by
    rw [Clients.WriteOperationImpl.announced]
    split_ifs
    · exact Or.inr rfl
    · exact Or.inl rfl
  have hprepared : s.prepared.actions = .start :: s.announced.2.2 := by
    simp [Clients.WriteOperationImpl.prepared, Clients.OperationImpl.opened, hactions]
  have hchunks : chunks s.requested.actions = [] := by
    rw [Clients.WriteOperationImpl.requested, hprepared, chunks_append]
    rcases hcalls with hc | hc <;> rw [hc] <;> rfl
  have hfin : ∀ status, .finished status ∉ s.requested.actions := by
    intro status
    rw [Clients.WriteOperationImpl.requested, hprepared]
    rcases hcalls with hc | hc <;> simp [hc]
  rw [Clients.WriteOperationImpl.request_eq h]
  exact ⟨⟨h.alive, rfl, _, rfl⟩, Transmitted.init hchunks hfin rfl rfl rfl (by rintro _ ⟨⟩),
    hchunks⟩

/-- **Negotiation is over once data flows**, as long as no acknowledgement of options comes
when data has been sent and the last number acknowledged is `0xFFFF`. -/
theorem negotiation_over (client : Clients.Settings δ) :
    ∀ history s, Run peerStep ((Clients.WriteOperationImpl.configured client).request {}) history s →
      Along (NoLateOptions ((Clients.WriteOperationImpl.configured client).request {})) history →
      NegotiationOver ((Clients.WriteOperationImpl.configured client).request {}) history := by
  intro history s hrun halong
  obtain ⟨hset, hstart, hfirst⟩ := transmitted_request
    (Clients.WriteOperationImpl.idle_configured client) rfl
  have hat := transmitted_at hrun hset hstart fun before t after heq _ => halong before t after heq
  refine ⟨hfirst, ?_, ?_⟩
  · intro before t after heq hsome source rawPacket options he hp
    obtain ⟨htr, hreaction⟩ := hat before t after heq
    rw [he] at hreaction
    refine hreaction.options hp ?_ fun hadmits hreceived => ?_
    · rw [htr.transmitted_eq, Ne, BlockNumber.bn_eq_zero, List.length_eq_zero_iff]
      exact hsome
    · exact hsome (halong before t after heq source rawPacket options he hadmits hp hreceived)
  · intro before t after heq c hc
    obtain ⟨htr, hreaction⟩ := hat before t after heq
    rcases hreaction.chunks_cases with
      hnil | ⟨source, rawPacket, c', he, hadmits, hchunks, -, hwhy⟩
    · rw [hnil] at hc
      cases hc
    · rw [hchunks] at hc ⊢
      obtain rfl := List.mem_singleton.mp hc
      refine ⟨rfl, fun hsome => ?_⟩
      rcases hwhy with ⟨hp, -⟩ | ⟨options, hp, -, hreceived⟩
      · rw [htr.transmitted_eq] at hp
        exact ⟨source, rawPacket, he, hp⟩
      · exact absurd (halong before t after heq source rawPacket options he hadmits hp hreceived)
          hsome

/-- A client that has sent a request with a block size of eight. -/
def requestingClient : Clients.WriteOperationImpl MemoryFile :=
  (Clients.WriteOperationImpl.configured {
    dataHandler := .ofData [97, 98, 99, 100, 101, 102, 103, 104, 105]
    optionsConfiguration := { blockSizeOption := some 8 } }).request {}

/-- The acknowledgement of a block size of eight. -/
def acknowledgedBlockSize : PeerEvent :=
  .datagram {} (Packet.optionsAcknowledgement
    (SortedMap.empty.emplace (tftpOptionsName .blockSize) (stdToString 8))).encode

/-- A server that acknowledges the options and the two blocks. -/
def acknowledgedBlocks : List PeerEvent :=
  [acknowledgedBlockSize, .datagram {} (Packet.acknowledgement 1).encode,
    .datagram {} (Packet.acknowledgement 2).encode]

/-- A file of two blocks, sent to the end. -/
theorem negotiation_over_two_blocks :
    NegotiationOver requestingClient (replay peerStep requestingClient acknowledgedBlocks).1 ∧
      (chunks (trace actions requestingClient
        (replay peerStep requestingClient acknowledgedBlocks).1)).map Prod.snd =
          [[97, 98, 99, 100, 101, 102, 103, 104], [105]] := by
  refine ⟨negotiation_over _ _ _ (Run.of_replay _ _ _) ?_, by decide⟩
  refine along_concat.mpr ⟨along_concat.mpr ⟨along_concat.mpr ⟨along_nil, ?_⟩, ?_⟩, ?_⟩
  · -- the only acknowledgement of options is the first answer
    rintro source rawPacket options - - - -
    decide
  · rintro source rawPacket options ⟨rfl, rfl⟩ - hp
    cases hp
  · rintro source rawPacket options ⟨rfl, rfl⟩ - hp
    cases hp

/-- **Data without an acknowledgement**: when the acknowledgement of options comes twice, the
second one takes the second block. -/
theorem block_without_acknowledgement :
    ∃ history s, Run peerStep requestingClient history s ∧
      ¬ NegotiationOver requestingClient history := by
  refine ⟨_, _, Run.of_replay peerStep requestingClient
    [acknowledgedBlockSize, acknowledgedBlockSize], fun h => ?_⟩
  obtain ⟨-, -, -, hnil⟩ := h.options [_] _ [] rfl (by decide) _ _ _ rfl rfl
  exact absurd hnil (by decide)

end Client

end Tftp
