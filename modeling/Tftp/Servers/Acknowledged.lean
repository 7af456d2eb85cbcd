import Tftp.Finishing

/-!
# A read that is acknowledged to the end

When every packet of the server of a read is acknowledged in turn, it goes through the file, block
by block, and stops when a block was not full. The file gets shorter with every block – unless the
size of a full block is zero: the block size is negotiated as the smaller one of what is requested
and what is configured, and what is configured is not checked. Then no block is ever short, and the
server sends empty blocks as long as they are acknowledged.

How many blocks have been sent is all that has to be known about the state
(`Tftp.Servers.Serves`).
-/

namespace Tftp

open Protocol

/-- The data of a DATA packet. -/
def dataOf (rawPacket : RawData) : Option RawData :=
  match PacketHandler.packet rawPacket with
  | .packet (.data _ data) => some data
  | _ => none

/-- The DATA blocks that were sent, in order. -/
def sentBlocks (actions : List Action) : List RawData :=
  actions.filterMap fun a => a.onWire.bind dataOf

/-- The acknowledgement of a packet: of its number, or of block zero if there is none. -/
def acknowledgementFor (rawPacket : RawData) : Packet :=
  match PacketHandler.packet rawPacket with
  | .packet (.data blockNumber _) => .acknowledgement blockNumber
  | _ => .acknowledgement 0

section Packets

@[simp] theorem dataOf_data (n : BlockNumber) (data : RawData) :
    dataOf (Packet.data n data).encode = some data := by
  rw [dataOf, PacketHandler.packet_encode (p := .data n data) trivial]

@[simp] theorem acknowledgementFor_data (n : BlockNumber) (data : RawData) :
    acknowledgementFor (Packet.data n data).encode = .acknowledgement n := by
  rw [acknowledgementFor, PacketHandler.packet_encode (p := .data n data) trivial]

variable {p : Packet}

theorem packet_ne_data (h : p.type ≠ .data) (n : BlockNumber) (data : RawData) :
    PacketHandler.packet p.encode ≠ .packet (.data n data) := by
  intro heq
  have htype := PacketHandler.type_eq heq
  rw [Packet.packetType_encode] at htype
  exact h htype

theorem dataOf_eq_none (h : p.type ≠ .data) : dataOf p.encode = none := by
  rw [dataOf]
  split
  · rename_i n data heq
    exact absurd heq (packet_ne_data h n data)
  · rfl

theorem acknowledgementFor_other (h : p.type ≠ .data) :
    acknowledgementFor p.encode = .acknowledgement 0 := by
  rw [acknowledgementFor]
  split
  · rename_i n data heq
    exact absurd heq (packet_ne_data h n data)
  · rfl

variable {l l' : List Action}

@[simp] theorem sentBlocks_append : sentBlocks (l ++ l') = sentBlocks l ++ sentBlocks l' :=
  List.filterMap_append

theorem sentBlocks_of_onWire (h : ∀ a ∈ l, a.onWire = none) : sentBlocks l = [] := by
  refine List.filterMap_eq_nil_iff.mpr fun a ha => ?_
  rw [h a ha, Option.bind_none]

theorem sentBlocks_send (h : p.type ≠ .data) (destination : Endpoint) :
    sentBlocks [.send p.encode destination] = [] := by
  exact List.filterMap_cons_none (dataOf_eq_none h)

@[simp] theorem sentBlocks_completion (reports : Bool) (status : TransferStatus) :
    sentBlocks (Action.completion reports status) = [] := by
  cases reports <;> rfl

end Packets

/-! ### Acknowledging in turn -/

section Run

open Operation

variable {σ δ : Type} [DataHandler δ] [Operation σ δ]

/-- **The run in which the peer acknowledges every packet in turn**, as far as the given number of
acknowledgements. -/
def acknowledgedRun (init : σ) (peer : Endpoint) : ℕ → List (Transition σ PeerEvent) × σ
  | 0 => ([], init)
  | k + 1 =>
      let (history, s) := acknowledgedRun init peer k
      let e := .datagram peer (acknowledgementFor (base s).transmitPacketV).encode
      (history ++ [⟨s, e, peerStep s e⟩], peerStep s e)

/-- What was done until then. -/
def acknowledgedTrace (init : σ) (peer : Endpoint) (k : ℕ) : List Action :=
  trace actions init (acknowledgedRun init peer k).1

variable (init : σ) (peer : Endpoint) (k : ℕ)

theorem acknowledgedRun_succ : (acknowledgedRun init peer (k + 1)).2 =
    peerStep (acknowledgedRun init peer k).2 (.datagram peer
      (acknowledgementFor (base (acknowledgedRun init peer k).2).transmitPacketV).encode) := rfl

theorem acknowledgedTrace_succ : acknowledgedTrace init peer (k + 1) =
    acknowledgedTrace init peer k ++ actions (acknowledgedRun init peer (k + 1)).2 :=
  trace_concat _ _

end Run

/-! ### A sender that goes through a file -/

/-- **A sender that has sent `k` blocks of a file**, the last of which is not acknowledged yet. -/
structure Serves (file : RawData) (k : ℕ) (v : SenderView MemoryFile) : Prop where
  transmitted_eq : v.transmitted = BlockNumber.bn k
  received_ne : v.transmitted ≠ v.received
  /-- The last block is the first one that is not full. -/
  last_eq : v.last = true ↔
    ∃ j, k = j + 1 ∧ (block file v.dataSize.toNat j).length < v.dataSize.toNat
  handler_after : v.handler.After file v.dataSize.toNat k
  stored : acknowledgementFor v.packet = .acknowledgement (BlockNumber.bn k)
  buffer : v.buffer = 516
  negotiation : v.negotiation = none

section Views

variable {file : RawData} {k : ℕ} {v v' : SenderView MemoryFile} {peer : Endpoint}
  {acts : List Action} {p' : Phase}

/-- **The next block is sent**: block `k` of the file. -/
theorem Serves.advanced (htransmitted : v.transmitted = BlockNumber.bn k)
    (hreceived : v.received = BlockNumber.bn k) (hlast : v.last = false)
    (hafter : v.handler.After file v.dataSize.toNat k) (hbuffer : v.buffer = 516)
    (hnegotiation : v.negotiation = none) (peer : Endpoint) :
    Serves file (k + 1) v.advanced ∧
      sentBlocks (v.sending peer) = [block file v.dataSize.toNat k] := by
  obtain ⟨hblock, hnext⟩ := MemoryFile.sendData_block hafter
  have hb : v.block = block file v.dataSize.toNat k := hblock
  refine ⟨⟨?_, ?_, ?_, hnext, ?_, hbuffer, hnegotiation⟩, ?_⟩
  · rw [SenderView.advanced, htransmitted, BlockNumber.next_bn]
  · change v.transmitted.next ≠ v.received
    rw [htransmitted, hreceived, BlockNumber.next_bn]
    exact (BlockNumber.bn_ne_succ k).symm
  · change (if v.block.length < v.dataSize.toNat then true else v.last) = true ↔ _
    rw [hb, hlast]
    constructor
    · intro h
      split_ifs at h with hshort
      exact ⟨k, rfl, hshort⟩
    · rintro ⟨j, hj, hshort⟩
      obtain rfl : k = j := Nat.succ_inj.mp hj
      exact if_pos hshort
  · change acknowledgementFor (Packet.data v.transmitted.next v.block).encode = _
    rw [acknowledgementFor_data, htransmitted, BlockNumber.next_bn]
  · change [Action.sendData _ _, Action.send (Packet.data _ v.block).encode peer].filterMap _ = _
    rw [hb]
    simp [Action.onWire]

/-- **What an acknowledgement of the last block does**: the next block is sent, or the operation is
over. -/
theorem Serves.acknowledged (h : Serves file k v)
    (hreaction : SenderReaction v (.waiting peer)
      (.datagram peer (acknowledgementFor v.packet).encode) acts p' v') :
    (v.last = false ∧ acts = (v.acknowledged v.handler).sending peer ∧ p' = .waiting peer ∧
        v' = (v.acknowledged v.handler).advanced) ∨
      v.last = true ∧ acts = v.completion .successful ∧ p' = .done := by
  have hstep := hreaction.step rfl
  have hlength : (Packet.acknowledgement (BlockNumber.bn k)).encode.length ≤ v.buffer := by
    simp only [Packet.encode_acknowledgement, List.length_append, RawData.length_setInt, h.buffer]
    omega
  rw [h.stored, List.take_of_length_le hlength,
    PacketHandler.packet_encode (p := .acknowledgement _) trivial, ← h.transmitted_eq] at hstep
  generalize hn : v.transmitted = n at hstep
  -- there is no option negotiation handler that could be called
  have hcalls {calls : List Action} {state : MemoryFile} (hc : v.Acknowledged calls state) :
      calls = [] ∧ state = v.handler := by
    rcases hc with hc | ⟨-, hc | ⟨⟨g, hg, -⟩, -⟩⟩
    · exact hc
    · exact hc
    · rw [h.negotiation] at hg
      cases hg
  cases hstep with
  | repeated => exact absurd hn h.received_ne
  | next calls state hc hne hlast =>
    obtain ⟨rfl, rfl⟩ := hcalls hc
    exact Or.inl ⟨hlast, rfl, rfl, rfl⟩
  | completed calls state hc hne hlast =>
    obtain ⟨rfl, rfl⟩ := hcalls hc
    exact Or.inr ⟨hlast, rfl, rfl⟩
  | failed _ calls errors status v' hcalls hfailure hretries htransmitted hlast hsettings hack =>
    -- the answer to the last block is refused for its options only
    have hsome := ((hack n rfl).2 hn.symm).2
    rw [h.negotiation] at hsome
    cases hsome

end Views

namespace Servers.ReadOperationImpl

open Operation

/-- **A server that has sent `k` blocks of a file**, given all its actions so far. -/
structure Serving (file : RawData) (dataSize : UInt16) (reported : Bool) (peer : Endpoint) (k : ℕ)
    (T : List Action) (s : ReadOperationImpl MemoryFile) : Prop where
  settled : s.Settled
  phase_eq : s.phase = .waiting peer
  serves : Serves file k s.view
  dataSize_eq : s.transmitDataSize = dataSize
  completionHandler_eq : s.completionHandlerV = reported
  sent : sentBlocks T = (List.range k).map (block file dataSize.toNat)
  unreported : reports T = []

/-- **The whole file has been sent**, and that was reported. -/
structure Served (file : RawData) (dataSize : UInt16) (reported : Bool) (T : List Action)
    (s : ReadOperationImpl MemoryFile) : Prop where
  settled : s.Settled
  phase_eq : s.phase = .done
  cut : CutInto file dataSize.toNat (sentBlocks T)
  reports_eq : reports T = Action.completion reported .successful

section Step

variable {file : RawData} {dataSize : UInt16} {reported : Bool} {peer : Endpoint} {k : ℕ}
  {T : List Action} {s : ReadOperationImpl MemoryFile}

theorem range_succ_blocks : (List.range (k + 1)).map (block file dataSize.toNat) =
    (List.range k).map (block file dataSize.toNat) ++ [block file dataSize.toNat k] := by
  rw [List.range_succ, List.map_append]
  rfl

/-- **One acknowledgement**: one block more, or the end. -/
theorem Serving.step (h : Serving file dataSize reported peer k T s) :
    let s' := peerStep s (.datagram peer (acknowledgementFor (base s).transmitPacketV).encode)
    (s.lastDataPacketTransmitted = false ∧
        Serving file dataSize reported peer (k + 1) (T ++ actions s') s') ∨
      s.lastDataPacketTransmitted = true ∧ s'.Settled ∧ s'.phase = .done ∧
        actions s' = Action.completion reported .successful := by
  intro s'
  obtain ⟨hset, hreaction⟩ := SendingOperation.senderReaction (s := s) h.settled
    (.datagram peer (acknowledgementFor (base s).transmitPacketV).encode)
  have hphase : (base s).phase = .waiting peer := h.phase_eq
  rw [hphase] at hreaction
  rcases h.serves.acknowledged hreaction with
    ⟨hlast, hacts, hphase', hview⟩ | ⟨hlast, hacts, hphase'⟩
  · refine Or.inl ⟨hlast, ?_⟩
    obtain ⟨hserves, hsent⟩ := Serves.advanced (v := s.view.acknowledged s.view.handler)
      h.serves.transmitted_eq h.serves.transmitted_eq hlast h.serves.handler_after h.serves.buffer
      h.serves.negotiation peer
    have hsize : s'.transmitDataSize = s.transmitDataSize := congrArg SenderView.dataSize hview
    refine ⟨hset, hphase', ?_, hsize.trans h.dataSize_eq, ?_, ?_, ?_⟩
    · change Serves file (k + 1) (SendingOperation.view s')
      rw [hview]
      exact hserves
    · exact (congrArg SenderView.reports hview).trans h.completionHandler_eq
    · rw [sentBlocks_append, h.sent, hacts, hsent, range_succ_blocks, ← h.dataSize_eq]
      rfl
    · rw [reports_append, h.unreported, hacts]
      rfl
  · refine Or.inr ⟨hlast, hset, hphase', ?_⟩
    rw [hacts, ← h.completionHandler_eq]
    rfl

/-- Nothing happens any more. -/
theorem Served.step (h : Served file dataSize reported T s) (e : PeerEvent) :
    Served file dataSize reported (T ++ actions (peerStep s e)) (peerStep s e) := by
  obtain ⟨hset, hreaction⟩ := SendingOperation.senderReaction (s := s) h.settled e
  have hphase : (base s).phase = .done := h.phase_eq
  rw [hphase] at hreaction
  obtain ⟨hacts, hdone⟩ := hreaction.over
  rw [hacts, List.append_nil]
  exact ⟨hset, hdone, h.cut, h.reports_eq⟩

end Step

section Runs

variable {file : RawData} {dataSize : UInt16} {reported : Bool} {peer : Endpoint} {k : ℕ}
  {init : ReadOperationImpl MemoryFile}

/-- **One block for each acknowledgement**, as long as all but the last are full. -/
theorem serving_run (h : Serving file dataSize reported peer k (actions init) init) (i : ℕ)
    (hfull : ∀ j, j + 1 < k + i → ¬ (block file dataSize.toNat j).length < dataSize.toNat) :
    Serving file dataSize reported peer (k + i) (acknowledgedTrace init peer i)
      (acknowledgedRun init peer i).2 := by
  induction i with
  | zero =>
    rw [acknowledgedTrace, acknowledgedRun, trace_nil]
    exact h
  | succ i ih =>
    have hi := ih fun j hj => hfull j (by omega)
    rw [acknowledgedTrace_succ, acknowledgedRun_succ]
    rcases hi.step with ⟨-, hnext⟩ | ⟨hlast, -⟩
    · exact hnext
    · -- the end has been reached too early
      obtain ⟨j, hj, hshort⟩ := hi.serves.last_eq.mp hlast
      change (block file (acknowledgedRun init peer i).2.transmitDataSize.toNat j).length <
        (acknowledgedRun init peer i).2.transmitDataSize.toNat at hshort
      rw [hi.dataSize_eq] at hshort
      exact absurd hshort (hfull j (by omega))

/-- **The end is reached**, and it is the end. -/
theorem served_run (h : Serving file dataSize reported peer k (actions init) init) (hk : k ≤ 1)
    (hsize : 0 < dataSize.toNat) (m : ℕ) :
    Served file dataSize reported
      (acknowledgedTrace init peer (lastBlock file dataSize.toNat - k + 1 + m))
      (acknowledgedRun init peer (lastBlock file dataSize.toNat - k + 1 + m)).2 := by
  induction m with
  | zero =>
    -- all blocks have been sent, and the last one is acknowledged
    have hpos : 1 ≤ lastBlock file dataSize.toNat := Nat.succ_pos _
    have hall := serving_run h (lastBlock file dataSize.toNat - k) fun j hj hshort => by
      have := (length_block_lt_iff hsize).mp hshort
      omega
    rw [Nat.add_sub_cancel' (hk.trans hpos)] at hall
    have hlast : (acknowledgedRun init peer
        (lastBlock file dataSize.toNat - k)).2.lastDataPacketTransmitted = true := by
      refine hall.serves.last_eq.mpr ⟨lastBlock file dataSize.toNat - 1, by omega, ?_⟩
      change (block file (acknowledgedRun init peer _).2.transmitDataSize.toNat _).length <
        (acknowledgedRun init peer _).2.transmitDataSize.toNat
      rw [hall.dataSize_eq]
      exact (length_block_lt_iff hsize).mpr (by omega)
    rw [Nat.add_zero, acknowledgedTrace_succ, acknowledgedRun_succ]
    rcases hall.step with ⟨hnot, -⟩ | ⟨-, hset, hphase, hacts⟩
    · rw [hlast] at hnot
      cases hnot
    · refine ⟨hset, hphase, ?_, ?_⟩
      · rw [sentBlocks_append, hall.sent, hacts, sentBlocks_completion, List.append_nil]
        exact cutInto_blocks hsize
      · rw [reports_append, hall.unreported, hacts]
        exact reports_completion _ _
  | succ m ih =>
    rw [← Nat.add_assoc, acknowledgedTrace_succ, acknowledgedRun_succ]
    exact ih.step _

end Runs

/-! ### The start -/

section Start

variable {settings : Settings MemoryFile}

/-- The size of a full block, when the server has answered. -/
theorem transmitDataSize_start (hrefuses : (configured settings).refuses = false) :
    ((configured settings).start {}).transmitDataSize =
      (negotiatedBlockSize settings.optionsConfiguration settings.clientOptions).getD
        defaultDataSize := by
  have hidle := idle_configured settings
  cases hoptions : (configured settings).acknowledgedOptions.isEmpty with
  | false =>
    obtain ⟨-, -, -, hview⟩ := start_acknowledges hidle hrefuses hoptions
    exact congrArg SenderView.dataSize hview
  | true =>
    obtain ⟨-, -, -, hview⟩ := start_sends hidle hrefuses hoptions
    exact congrArg SenderView.dataSize hview

/-- **No block size of zero is negotiated** exactly if neither side has one. -/
theorem dataSize_pos_iff (hrefuses : (configured settings).refuses = false) :
    0 < ((configured settings).start {}).transmitDataSize.toNat ↔
      ∀ requested configured, settings.clientOptions.blockSize = some requested →
        settings.optionsConfiguration.blockSizeOption = some configured →
          requested ≠ 0 ∧ configured ≠ 0 := by
  rw [transmitDataSize_start hrefuses]
  cases hnegotiated : negotiatedBlockSize settings.optionsConfiguration
    settings.clientOptions with
  | none =>
    refine iff_of_true (by decide) fun requested configured' hrequested hconfigured => ?_
    rw [negotiatedBlockSize, hconfigured, hrequested] at hnegotiated
    cases hnegotiated
  | some b =>
    obtain ⟨configured', requested, hconfigured, hrequested, hmin⟩ :=
      negotiatedBlockSize_eq_some hnegotiated
    rw [Option.getD_some, hmin, Nat.lt_min, hconfigured, hrequested]
    have hpos (n : UInt16) : 0 < n.toNat ↔ n ≠ 0 := by
      rw [Nat.pos_iff_ne_zero, Ne, Ne, ← UInt16.toNat_inj]
      rfl
    rw [hpos, hpos]
    constructor
    · rintro hne _ _ ⟨⟩ ⟨⟩
      exact hne
    · intro hne
      exact hne requested configured' rfl rfl

/-- **The server has answered the request**, with an acknowledgement of options or with the first
block. -/
theorem serving_start (hsource : settings.dataHandler.operationV = .transmit)
    (hrefuses : (configured settings).refuses = false) :
    ∃ k ≤ 1, Serving settings.dataHandler.dataV ((configured settings).start {}).transmitDataSize
      settings.completionHandler settings.remote k ((configured settings).start {}).actions
      ((configured settings).start {}) := by
  have hidle := idle_configured settings
  have hcalls : ∀ a ∈ (configured settings).announced.2.2,
      a.onWire = none ∧ a.isReport = false := by
    intro a ha
    rw [mem_announced ha]
    exact ⟨rfl, rfl⟩
  have hsilent : sentBlocks (configured settings).announced.2.2 = [] :=
    sentBlocks_of_onWire fun a ha => (hcalls a ha).1
  have hquiet : reports (configured settings).announced.2.2 = [] :=
    List.filter_eq_nil_iff.mpr fun a ha => by simp [(hcalls a ha).2]
  have hafter : (configured settings).accepted.view.handler.After settings.dataHandler.dataV
      (configured settings).accepted.view.dataSize.toNat 0 :=
    after_announced settings hsource _
  cases hoptions : (configured settings).acknowledgedOptions.isEmpty with
  | false =>
    -- no block is sent yet
    obtain ⟨hset, hphase, hacts, hview⟩ := start_acknowledges hidle hrefuses hoptions
    refine ⟨0, Nat.zero_le 1, hset, hphase, ?_, rfl, ?_, ?_, ?_⟩
    · rw [hview]
      refine ⟨rfl, (by decide : (0 : BlockNumber) ≠ 0xFFFF), ⟨by rintro ⟨⟩, ?_⟩, hafter, ?_, rfl,
        rfl⟩
      · rintro ⟨j, hj, -⟩
        omega
      · exact acknowledgementFor_other (by simp [Packet.type])
    · exact congrArg SenderView.reports hview
    · rw [hacts]
      change sentBlocks ([Action.start] ++ (_ ++ [Action.send _ _])) = []
      rw [sentBlocks_append, sentBlocks_append, hsilent, sentBlocks_send (by simp [Packet.type])]
      rfl
    · rw [hacts]
      change reports ([Action.start] ++ (_ ++ [Action.send _ _])) = []
      rw [reports_append, reports_append, hquiet]
      rfl
  | true =>
    -- as if block zero had been acknowledged
    obtain ⟨hset, hphase, hacts, hview⟩ := start_sends hidle hrefuses hoptions
    obtain ⟨hserves, hsent⟩ := Serves.advanced (v := (configured settings).accepted.view) rfl rfl
      rfl hafter rfl rfl (configured settings).remoteV
    refine ⟨1, le_refl 1, hset, hphase, ?_, rfl, ?_, ?_, ?_⟩
    · rw [hview]
      exact hserves
    · exact congrArg SenderView.reports hview
    · rw [hacts]
      change sentBlocks ([Action.start] ++ (_ ++ _)) = _
      have hsize : ((configured settings).start {}).transmitDataSize =
          (configured settings).accepted.view.dataSize := congrArg SenderView.dataSize hview
      rw [sentBlocks_append, sentBlocks_append, hsilent, hsent, hsize]
      rfl
    · rw [hacts]
      change reports ([Action.start] ++ (_ ++ _)) = []
      rw [reports_append, reports_append, hquiet]
      rfl

end Start

/-- **A read that ends as it should**, when every packet is acknowledged in turn: after finitely
many acknowledgements the file has been sent, cut into blocks, and success has been reported. -/
def Completes (settings : Settings MemoryFile) : Prop :=
  ∃ n, ∀ k, n ≤ k →
    let init := (configured settings).start {}
    CutInto settings.dataHandler.dataV init.transmitDataSize.toNat
        (sentBlocks (acknowledgedTrace init settings.remote k)) ∧
      reports (acknowledgedTrace init settings.remote k) =
        Action.completion settings.completionHandler .successful ∧
      (acknowledgedRun init settings.remote k).2.phase = .done

/-- It ends if the size of a full block is not zero. -/
theorem completes_iff_pos {settings : Settings MemoryFile}
    (hsource : settings.dataHandler.operationV = .transmit)
    (hrefuses : (configured settings).refuses = false) :
    Completes settings ↔ 0 < ((configured settings).start {}).transmitDataSize.toNat := by
  obtain ⟨k, hk, hserving⟩ := serving_start hsource hrefuses
  constructor
  · rintro ⟨n, hn⟩
    by_contra hzero
    -- no block is shorter than nothing
    have hrun := serving_run hserving n fun j _ hshort => hzero (Nat.zero_lt_of_lt hshort)
    have hdone := (hn n (le_refl n)).2.2
    rw [hrun.phase_eq] at hdone
    cases hdone
  · intro hpos
    refine ⟨lastBlock settings.dataHandler.dataV
      ((configured settings).start {}).transmitDataSize.toNat - k + 1, fun n hn => ?_⟩
    obtain ⟨m, rfl⟩ := Nat.exists_eq_add_of_le hn
    have hserved := served_run hserving hk hpos m
    exact ⟨hserved.cut, hserved.reports_eq, hserved.phase_eq⟩

/-- **When a fully acknowledged read ends as it should**: exactly if neither the requested nor the
configured block size is zero, where there are both. -/
theorem fully_acknowledged_iff (settings : Settings MemoryFile)
    (hsource : settings.dataHandler.operationV = .transmit)
    (hrefuses : (configured settings).refuses = false) :
    Completes settings ↔
      ∀ requested configured, settings.clientOptions.blockSize = some requested →
        settings.optionsConfiguration.blockSizeOption = some configured →
          requested ≠ 0 ∧ configured ≠ 0 :=
  (completes_iff_pos hsource hrefuses).trans (dataSize_pos_iff hrefuses)

/-- A server with the given block size, whose client asks for blocks of eight bytes. -/
def eightRequested (blockSize : UInt16) : Settings MemoryFile where
  optionsConfiguration := { blockSizeOption := some blockSize }
  clientOptions := { blockSize := some 8 }
  dataHandler := .ofData [97, 98, 99, 100, 101, 102, 103, 104]

/-- A file of eight bytes is one full block, and an empty one. -/
theorem fully_acknowledged_eight : Completes (eightRequested 8) :=
  (fully_acknowledged_iff (eightRequested 8) rfl rfl).mpr (by rintro _ _ ⟨⟩ ⟨⟩; decide)

/-- **A configured block size of zero**: the server sends empty blocks for ever. -/
theorem fully_acknowledged_never : ¬ ∀ settings : Settings MemoryFile,
    settings.dataHandler.operationV = .transmit → (configured settings).refuses = false →
      Completes settings := by
  intro h
  have hpos := (completes_iff_pos rfl rfl).mp (h (eightRequested 0) rfl rfl)
  exact absurd hpos (by decide)

end Servers.ReadOperationImpl

end Tftp
