import Tftp.Handling
import Tftp.Reception
import Tftp.Relations
import Tftp.Files.StreamFile

/-!
# Success and the file

A receiver whose data handler is a `Tftp.StreamFile` reports success when the last block has
come, and the stream is not asked whether it has taken what it was given: `receivedData` does not
look at it, and `finished` is over when the status is reported. So the file holds what was accepted
only as far as the stream did not fail (`Tftp.StreamFile.Spared`).

What the operation has done is known from its actions. That the file has gone along with them
(`Tftp.OperationImpl.Recorded`) is a relation that the packet handlers keep.
-/

namespace Tftp

open Protocol

/-- What the handlers of the user work on: the file that is received, and what the option
negotiation handler has besides. -/
structure Storage (ε : Type) where
  file : StreamFile
  others : ε

namespace Storage

variable {ε : Type}

instance : ReceiveDataHandler (Storage ε) where
  start storage := { storage with file := storage.file.start }
  finished storage := { storage with file := storage.file.finished }
  receivedTransferSize storage transferSize :=
    (storage.file.receivedTransferSize transferSize, storage)
  receivedData storage data := { storage with file := storage.file.receivedData data }

/-- An option negotiation handler does not touch the file. -/
def Spares (handler : Option (OptionNegotiationHandler (Storage ε))) : Prop :=
  ∀ g, handler = some g → ∀ storage options, (g storage options).2.2.file = storage.file

end Storage

/-- What an action makes of the file. -/
def Action.onFile (file : StreamFile) : Action → StreamFile
  | .start => file.start
  | .receivedData data => file.receivedData data
  | .finished _ => file.finished
  | _ => file

/-- An action that leaves the file alone. -/
def Action.SparesFile (a : Action) : Prop := ∀ file, Action.onFile file a = file

theorem foldl_onFile_spares {acts : List Action} (h : ∀ a ∈ acts, a.SparesFile)
    (file : StreamFile) : acts.foldl Action.onFile file = file := by
  induction acts with
  | nil => rfl
  | cons a acts ih =>
    rw [List.foldl_cons, h a List.mem_cons_self file]
    exact ih fun b hb => h b (List.mem_cons_of_mem _ hb)

theorem foldl_onFile_negotiation {calls : List Action} (h : Negotiation calls)
    (file : StreamFile) : calls.foldl Action.onFile file = file := by
  refine foldl_onFile_spares (fun a ha => ?_) file
  rcases h a ha with ⟨options, rfl⟩ | ⟨n, rfl⟩ <;> exact fun _ => rfl

@[simp] theorem foldl_onFile_completion (reports : Bool) (status : TransferStatus)
    (file : StreamFile) :
    (Action.completion reports status).foldl Action.onFile file = file.finished := by
  cases reports <;> rfl

namespace OperationImpl

variable {ε : Type} {b b' b'' : OperationImpl (Storage ε)}

/-- **From one state to the other** the file has gone along with the actions. -/
def Recorded (b b' : OperationImpl (Storage ε)) : Prop :=
  ∃ acts, b'.actions = b.actions ++ acts ∧
    b'.dataHandlerV.file = acts.foldl Action.onFile b.dataHandlerV.file

/-- Nothing was done, and nothing happened to the file. -/
theorem recorded_of_eq (hactions : b'.actions = b.actions)
    (hfile : b'.dataHandlerV.file = b.dataHandlerV.file) : b.Recorded b' :=
  ⟨[], by simp [hactions], hfile⟩

/-- One thing was done. -/
theorem recorded_of_append {a : Action} (hactions : b'.actions = b.actions ++ [a])
    (hfile : b'.dataHandlerV.file = Action.onFile b.dataHandlerV.file a) : b.Recorded b' :=
  ⟨[a], hactions, hfile⟩

theorem Recorded.refl (b : OperationImpl (Storage ε)) : b.Recorded b := recorded_of_eq rfl rfl

theorem Recorded.trans (h : b.Recorded b') (h' : b'.Recorded b'') : b.Recorded b'' := by
  obtain ⟨acts, hacts, hfile⟩ := h
  obtain ⟨acts', hacts', hfile'⟩ := h'
  refine ⟨acts ++ acts', ?_, ?_⟩
  · rw [hacts', hacts, List.append_assoc]
  · rw [hfile', hfile, List.foldl_append]

theorem recorded_finished (b : OperationImpl (Storage ε)) (status : TransferStatus)
    (errorInformation : Option (ErrorCode × RawData)) :
    b.Recorded (b.finished status errorInformation) := by
  by_cases halive : b.terminated = true
  · rw [finished, if_pos halive]
    exact .refl b
  · cases hsock : b.socketV with
    | closed =>
      simp only [finished, hsock, if_neg halive]
      exact recorded_of_append rfl rfl
    | opened | connected peer =>
      simp only [finished, hsock, if_neg halive]
      split_ifs
      · exact ⟨[.finished status, .completionHandler status], by simp [emit], rfl⟩
      · exact recorded_of_append rfl rfl

/-- Changing what does not matter before the operation is finished. -/
theorem recorded_finished_of_eq (hactions : b'.actions = b.actions)
    (hfile : b'.dataHandlerV.file = b.dataHandlerV.file) (status : TransferStatus)
    (errorInformation : Option (ErrorCode × RawData)) :
    b.Recorded (b'.finished status errorInformation) :=
  (recorded_of_eq hactions hfile).trans (recorded_finished b' status errorInformation)

theorem recorded_send (b : OperationImpl (Storage ε)) (f : Faults) (packet : Packet) :
    b.Recorded (b.send f packet) := by
  by_cases halive : b.terminated = true
  · rw [send, if_pos halive]
    exact .refl b
  · cases hsock : b.socketV with
    | closed | opened =>
      simp only [send, hsock, if_neg halive]
      exact recorded_finished_of_eq (by rfl) (by rfl) _ _
    | connected peer =>
      simp only [send, hsock, if_neg halive]
      split_ifs
      · exact recorded_finished_of_eq (by rfl) (by rfl) _ _
      · exact recorded_of_append rfl rfl

/-- **The shared functions take the file along.** -/
theorem respected_recorded : Respected (Recorded (ε := ε)) where
  refl := .refl
  trans h h' := h.trans h'
  finished := recorded_finished
  send := recorded_send
  arm b f onReceive onTimeout timeout := by
    rw [arm]
    split_ifs
    · exact .refl b
    · exact recorded_finished b _ _
    · exact recorded_of_eq rfl rfl
  receiveTimeout _ _ := recorded_of_eq rfl rfl

/-- So does what a receiver calls, unless the option negotiation handler touches the file. -/
theorem receiverRespected_recorded {handler : Option (OptionNegotiationHandler (Storage ε))}
    (hspares : Storage.Spares handler) : ReceiverRespected Recorded handler where
  toRespected := respected_recorded
  optionNegotiation b options := by
    cases hhandler : handler with
    | none => exact .refl b
    | some g => exact recorded_of_append rfl (hspares g hhandler _ _)
  receivedTransferSize b transferSize := by
    rw [receivedTransferSize]
    split_ifs
    · exact .refl b
    · exact recorded_of_append rfl rfl
  receivedData _ _ := recorded_of_append rfl rfl

/-- Telling the transfer size leaves the file alone. -/
theorem file_offerTransferSize (b : OperationImpl (Storage ε)) (transferSize : Option UInt64) :
    (b.offerTransferSize transferSize).2.dataHandlerV.file = b.dataHandlerV.file := by
  cases transferSize with
  | none => rfl
  | some n =>
    rw [offerTransferSize, receivedTransferSize]
    split_ifs <;> rfl

end OperationImpl

open OperationImpl hiding actions

/-! ### Runs -/

/-- A receiver that takes its file along, in the states that are meant. -/
class RecordingOperation (σ : Type) (ε : outParam Type) [ReceivingOperation σ (Storage ε)] where
  /-- The option negotiation handler does not touch the file. -/
  Spares : σ → Prop
  spares_withBase : ∀ (s : σ) b, Spares s → Spares (Operation.withBase s b)
  received_recorded : ∀ (s : σ) r, Spares s → Spares (Operation.received s {} r) ∧
    (Operation.base s).Recorded (Operation.base (Operation.received s {} r))

/-- The file of a receiver that has delivered the given blocks: closed, if the operation is over. -/
def fileIn (p : Phase) (started : StreamFile) (blocks : List RawData) : StreamFile :=
  if p = .done then (blocks.foldl StreamFile.receivedData started).finished
  else blocks.foldl StreamFile.receivedData started

section Reaction

variable {v v' : ReceiverView} {p p' : Phase} {e : PeerEvent} {acts : List Action}

/-- The file is closed with the last block. -/
theorem foldl_onFile_closing (v : ReceiverView) (peer : Endpoint) (data : RawData)
    (file : StreamFile) :
    (v.closing data).foldl Action.onFile file =
      if v.phaseAfter peer data = .done then file.finished else file := by
  rw [ReceiverView.closing, ReceiverView.phaseAfter, Phase.afterData]
  cases v.short data <;> cases v.dally <;> simp [ReceiverView.completion]

/-- **One event takes the file along** with what is delivered. -/
theorem ReceiverReaction.fileIn (h : ReceiverReaction v p e acts p' v') (started : StreamFile)
    (blocks : List RawData) :
    acts.foldl Action.onFile (fileIn p started blocks) =
      Tftp.fileIn p' started (blocks ++ deliveries acts) := by
  cases h with
  | idle => simp
  | foreign | resend =>
    rw [deliveries_cons_none rfl, deliveries_nil, List.append_nil]
    rfl
  | expire hphase hretries =>
    have hne : p ≠ .done := by rcases hphase with ⟨server, rfl⟩ | ⟨peer, rfl⟩ <;> rintro ⟨⟩
    simp [ReceiverView.completion, Tftp.fileIn, hne]
  | dallied peer hphase => simp [ReceiverView.completion, Tftp.fileIn, hphase]
  | received source rawPacket hphase hstep =>
    have hne := admits_ne_done hphase
    generalize PacketHandler.packet (rawPacket.take v.buffer) = r at hstep
    rw [Tftp.fileIn, if_neg hne]
    cases hstep with
    | repeated data =>
      rw [List.foldl_cons, foldl_onFile_closing v source, deliveries_send, deliveries_closing,
        List.append_nil]
      rfl
    | accepted calls data hcalls hsize =>
      -- the block is written before it is acknowledged
      have hneg := negotiation_of_next hcalls
      rw [List.foldl_append, foldl_onFile_negotiation hneg, List.foldl_cons, List.foldl_cons,
        foldl_onFile_closing v source, deliveries_append, deliveries_negotiation hneg]
      simp [Tftp.fileIn, Action.onFile]
    | negotiated calls options timeout hcalls hblock =>
      rw [List.foldl_append, foldl_onFile_negotiation hcalls, deliveries_append,
        deliveries_negotiation hcalls]
      simp [Tftp.fileIn, Action.onFile]
    | failed _ calls errors status size timeout packet counter hcalls hfailure hsettings hdata =>
      -- the file is closed whatever has failed
      rw [List.foldl_append, List.foldl_append, foldl_onFile_negotiation hcalls]
      rcases hfailure.errors_cases with rfl | ⟨code, message, rfl⟩ <;>
        simp [Tftp.fileIn, ReceiverView.completion, Action.onFile, deliveries_negotiation hcalls]

/-- A block that is delivered is acknowledged. -/
theorem ReceiverReaction.acknowledges (h : ReceiverReaction v p e acts p' v')
    (hne : deliveries acts ≠ []) : acts.any (fun a => a.acknowledges.isSome) = true := by
  cases h with
  | idle | foreign | resend => exact absurd rfl hne
  | expire | dallied => exact absurd (deliveries_completion _ _) hne
  | received source rawPacket hphase hstep =>
    generalize PacketHandler.packet (rawPacket.take v.buffer) = r at hstep
    cases hstep with
    | repeated data => exact absurd (by simp) hne
    | accepted calls data hcalls hsize => simp [Action.acknowledges, Action.onWire]
    | negotiated calls options timeout hcalls hblock =>
      exact absurd (by simp [deliveries_negotiation hcalls]) hne
    | failed _ calls errors status size timeout packet counter hcalls hfailure hsettings hdata =>
      refine absurd ?_ hne
      simp [ReceiverView.completion, deliveries_negotiation hcalls, hfailure.deliveries_errors]

end Reaction

section Runs

open Operation

variable {σ ε : Type} [ReceivingOperation σ (Storage ε)] [RecordingOperation σ ε] {init s : σ}
  {history : List (Transition σ PeerEvent)} {started : StreamFile}

open RecordingOperation ReceivingOperation

/-- **One event takes the file along** with the actions. -/
theorem recorded_peerStep (hset : (base s).Settled) (hspares : Spares s) (e : PeerEvent) :
    Spares (peerStep s e) ∧ (base (peerStep s e)).dataHandlerV.file =
      (actions (peerStep s e)).foldl Action.onFile (base s).dataHandlerV.file := by
  have hreaction := reaction hset e
  generalize peerStep s e = s' at hreaction ⊢
  rw [Operation.actions]
  cases hreaction with
  | idle | foreign | resend =>
    refine ⟨spares_withBase s _ hspares, ?_⟩
    rw [base_withBase]
    rfl
  | expire | dallied =>
    refine ⟨spares_withBase s _ hspares, ?_⟩
    rw [base_withBase]
    exact (foldl_onFile_completion _ _ _).symm
  | received source lastEndpoint rawPacket hphase hready =>
    obtain ⟨hspares', acts, hacts, hfile⟩ := received_recorded
      (withBase s ((base s).takenUp source lastEndpoint))
      (PacketHandler.packet (rawPacket.take (base s).receivePacketV))
      (spares_withBase s _ hspares)
    rw [base_withBase] at hacts hfile
    rw [hacts]
    exact ⟨hspares', hfile⟩

/-- **The file of a run** has received what was delivered. -/
theorem fileIn_run (hset : (base init).Settled)
    (hstart : ReceiverStart (actions init) (base init).phase (view init)) (hspares : Spares init)
    (hinit : (base init).dataHandlerV.file = fileIn (base init).phase started [])
    (hrun : Run peerStep init history s) :
    Spares s ∧ (base s).dataHandlerV.file =
      fileIn (base s).phase started (deliveries (trace actions init history)) := by
  induction hrun with
  | start => exact ⟨hspares, by rw [trace_nil, hstart.deliveries_eq, hinit]⟩
  | next e hrun ih =>
    obtain ⟨hspares', hfile⟩ := ih
    have hset' := (delivered_run hset hstart hrun).1
    obtain ⟨hspares'', hfile'⟩ := recorded_peerStep hset' hspares' e
    refine ⟨hspares'', ?_⟩
    rw [hfile', hfile, trace_concat, deliveries_append]
    exact (receiverReaction hset' e).2.fileIn started _

/-- The blocks that were accepted and acknowledged: what was delivered in the course of the events
in which an acknowledgement was sent. -/
def acceptedBlocks (history : List (Transition σ PeerEvent)) : List RawData :=
  history.flatMap fun t =>
    if (actions t.post).any fun a => a.acknowledges.isSome then deliveries (actions t.post) else []

omit [RecordingOperation σ ε] in
/-- Whatever was delivered was acknowledged. -/
theorem acceptedBlocks_run (hset : (base init).Settled)
    (hstart : ReceiverStart (actions init) (base init).phase (view init))
    (hrun : Run peerStep init history s) :
    acceptedBlocks history = deliveries (trace actions init history) := by
  induction hrun with
  | start => rw [trace_nil, hstart.deliveries_eq]; rfl
  | @next history s e hrun ih =>
    have hset' := (delivered_run hset hstart hrun).1
    have hacknowledges := (receiverReaction hset' e).2.acknowledges
    rw [trace_concat, deliveries_append, ← ih, acceptedBlocks, acceptedBlocks,
      List.flatMap_append, List.flatMap_singleton]
    refine congrArg _ ?_
    split_ifs with hany
    · rfl
    · -- what is not acknowledged was not delivered
      by_contra hne
      exact hany (hacknowledges (Ne.symm hne))

/-- **Success means that the file was stored** exactly if the stream did not fail. -/
theorem stored_run (hset : (base init).Settled)
    (hstart : ReceiverStart (actions init) (base init).phase (view init)) (hspares : Spares init)
    {file : StreamFile}
    (hinit : (base init).dataHandlerV.file = fileIn (base init).phase file.start [])
    (hoperation : file.operationV = .receive) (hclosed : file.streamV.isOpen = false)
    (hrun : Run peerStep init history s)
    (hsuccess : .finished .successful ∈ trace actions init history) :
    (base s).dataHandlerV.file.streamV.contents = (acceptedBlocks history).flatten ↔
      file.Spared (acceptedBlocks history) := by
  -- success is reported at the end only, and then the file is closed
  have hdone := (delivered_run hset hstart hrun).2.finished _ hsuccess
  rw [acceptedBlocks_run hset hstart hrun, (fileIn_run hset hstart hspares hinit hrun).2, fileIn,
    if_pos hdone]
  exact StreamFile.contents_stored_iff hoperation hclosed _

end Runs

/-! ### The two receivers -/

namespace Clients.ReadOperationImpl

variable {ε : Type}

instance : RecordingOperation (ReadOperationImpl (Storage ε)) ε where
  Spares s := Storage.Spares s.optionNegotiationHandlerV
  spares_withBase _ _ h := h
  received_recorded s r h := by
    obtain ⟨hrecorded, hhandler⟩ := received_leads (receiverRespected_recorded h) r
    refine ⟨?_, hrecorded⟩
    change Storage.Spares (s.received {} r).optionNegotiationHandlerV
    rw [hhandler]
    exact h

end Clients.ReadOperationImpl

namespace Servers.WriteOperationImpl

variable {ε : Type} {s : WriteOperationImpl (Storage ε)}

instance : RecordingOperation (WriteOperationImpl (Storage ε)) ε where
  Spares _ := True
  spares_withBase _ _ h := h
  received_recorded _ r _ :=
    ⟨trivial, received_respected (receiverRespected_recorded (by rintro _ ⟨⟩)) r⟩

/-- The file is open when the server has answered the request, unless it has refused it. -/
theorem fileIn_start (h : s.Idle) : (s.start {}).dataHandlerV.file =
    fileIn (s.start {}).phase s.dataHandlerV.file.start [] := by
  have hready := OperationImpl.ready_connected h s.negotiatedReceiveTimeout
  have hfile := file_offerTransferSize
    (OperationImpl.connected s.toOperationImpl s.negotiatedReceiveTimeout) s.offeredTransferSize
  obtain ⟨accepted, state, calls, heq, -⟩ := hready.offerTransferSize_called s.offeredTransferSize
  have hcalled := hready.called state calls
  rw [start_eq h]
  simp only [heq] at hfile ⊢
  cases accepted with
  | true =>
    obtain ⟨-, hphase, -, -, hstate, -⟩ := hcalled.sendAndReceive s.firstPacket
    simp only [if_true]
    rw [hphase, hstate, hfile]
    rfl
  | false =>
    obtain ⟨-, hphase, -⟩ :=
      hcalled.reject .diskFullOrAllocationExceeds "File to big" .transferError
    simp only [Bool.false_eq_true, if_false]
    rw [hphase, hcalled.reject_eq]
    exact congrArg StreamFile.finished hfile

end Servers.WriteOperationImpl

/-- **When success means that the file was stored**: exactly if none of the calls fails that bring
the blocks to the file. In every run that ends with success, of the server of a write and of the
client of a read. -/
theorem success_stored_iff (ε : Type) :
    (∀ (settings : Servers.Settings (Storage ε)) history s,
      settings.dataHandler.file.operationV = .receive →
      settings.dataHandler.file.streamV.isOpen = false →
      Run Operation.peerStep ((Servers.WriteOperationImpl.configured settings).start {}) history s →
      .finished .successful ∈
        trace Operation.actions ((Servers.WriteOperationImpl.configured settings).start {})
          history →
      (s.dataHandlerV.file.streamV.contents = (acceptedBlocks history).flatten ↔
        settings.dataHandler.file.Spared (acceptedBlocks history))) ∧
    (∀ (settings : Clients.Settings (Storage ε)) history s,
      Storage.Spares settings.optionNegotiationHandler →
      settings.dataHandler.file.operationV = .receive →
      settings.dataHandler.file.streamV.isOpen = false →
      Run Operation.peerStep ((Clients.ReadOperationImpl.configured settings).request {})
        history s →
      .finished .successful ∈
        trace Operation.actions ((Clients.ReadOperationImpl.configured settings).request {})
          history →
      (s.dataHandlerV.file.streamV.contents = (acceptedBlocks history).flatten ↔
        settings.dataHandler.file.Spared (acceptedBlocks history))) := by
  constructor
  · intro settings history s hoperation hclosed hrun hsuccess
    have hidle := Servers.WriteOperationImpl.idle_configured settings
    obtain ⟨hset, hstart⟩ := Servers.WriteOperationImpl.receiverStart_start hidle rfl rfl
    exact stored_run (s := s) hset hstart trivial
      (Servers.WriteOperationImpl.fileIn_start hidle) hoperation hclosed hrun hsuccess
  · intro settings history s hspares hoperation hclosed hrun hsuccess
    have hidle := Clients.ReadOperationImpl.idle_configured settings
    obtain ⟨hset, hstart⟩ := Clients.ReadOperationImpl.receiverStart_request hidle rfl
    have heq := Clients.ReadOperationImpl.request_eq hidle
    refine stored_run (s := s) hset ?_ ?_ ?_ hoperation hclosed hrun hsuccess
    · exact hstart
    · rw [heq]
      exact hspares
    · rw [heq]
      rfl

/-- A file to be received, with the given failures of its stream. -/
def fileToReceive (failures : List Bool) : Storage Unit where
  file := { operationV := .receive, filenameV := [[97]], streamV := { failures := failures } }
  others := ()

/-- A server of a write, and what is the first and last block for it. -/
def serverOnDisk (failures : List Bool) : Servers.Settings (Storage Unit) :=
  { dataHandler := fileToReceive failures }

/-- A client of a read. -/
def clientOnDisk (failures : List Bool) : Clients.Settings (Storage Unit) :=
  { dataHandler := fileToReceive failures }

/-- Where nothing fails, the block is in the file. -/
theorem success_stored_one_block :
    (replay Operation.peerStep
        ((Servers.WriteOperationImpl.configured (serverOnDisk [])).start {})
        oneShortBlock).2.dataHandlerV.file.streamV.contents = [97] ∧
      (replay Operation.peerStep
        ((Clients.ReadOperationImpl.configured (clientOnDisk [])).request {})
        oneShortBlock).2.dataHandlerV.file.streamV.contents = [97] := by
  obtain ⟨hserver, hclient⟩ := success_stored_iff Unit
  exact ⟨(hserver (serverOnDisk []) _ _ rfl rfl (Run.of_replay _ _ oneShortBlock)
      (by decide)).mpr (by decide),
    (hclient (clientOnDisk []) _ _ (by rintro _ ⟨⟩) rfl rfl (Run.of_replay _ _ oneShortBlock)
      (by decide)).mpr (by decide)⟩

/-- **The disk is full**: the write fails, and success is reported all the same. -/
theorem success_without_file : ¬ ∀ (settings : Servers.Settings (Storage Unit)) history s,
    settings.dataHandler.file.operationV = .receive →
    settings.dataHandler.file.streamV.isOpen = false →
    Run Operation.peerStep ((Servers.WriteOperationImpl.configured settings).start {}) history s →
    .finished .successful ∈
      trace Operation.actions ((Servers.WriteOperationImpl.configured settings).start {}) history →
    s.dataHandlerV.file.streamV.contents = (acceptedBlocks history).flatten := by
  intro h
  exact absurd (h (serverOnDisk [true]) _ _ rfl rfl (Run.of_replay _ _ oneShortBlock) (by decide))
    (by decide)

end Tftp
