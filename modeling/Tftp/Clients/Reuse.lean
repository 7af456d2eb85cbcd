import Tftp.Clients.Renewal
import Tftp.Frame
import Tftp.Packets.Grammar
import Tftp.Clients.WriteSends
import Tftp.Files.MemoryFile

/-!
# Using a client again

The setters of a client are called once, and it may be requested again and again. What the setters
have set lasts through every run (`Tftp.Clients.ReadOperationImpl.keeps_allSettings`), and a
request makes up for the rest (`Tftp.Clients.ReadOperationImpl.renewed_request`) – with two
exceptions. A negotiated timeout overwrites the one that was set. And `oackReceived` is never reset
to false, so once a server has acknowledged options, the option negotiation handler of a read is
not called any more for a server that ignores them. Both can be seen
(`Tftp.Clients.ReadOperationImpl.of_asGoodAsNew`): the timeout at once, the flag when the first
block comes without an acknowledgement.
-/

namespace Tftp

open Protocol Operation

/-- **The transfer is over**: the socket is closed, and nothing is waited for. -/
structure OperationImpl.Completed {δ : Type} (b : OperationImpl δ) : Prop extends b.Idle where
  timer : b.timerV = none

/-- An acknowledgement of options is at least as long as its opcode and the ends of two strings. -/
theorem PacketHandler.length_of_optionsAcknowledgement {rawPacket : RawData} {options : Options}
    (h : PacketHandler.packet rawPacket = .packet (.optionsAcknowledgement options)) :
    4 ≤ rawPacket.length := by
  have htype : Packet.packetType rawPacket = .optionsAcknowledgement := PacketHandler.type_eq h
  have hdecoded : ∃ p, Packet.decodeAs .optionsAcknowledgement rawPacket = .ok p := by
    rw [PacketHandler.packet, htype] at h
    cases hp : Packet.decodeAs .optionsAcknowledgement rawPacket with
    | ok p => exact ⟨p, rfl⟩
    | error e =>
      rw [hp] at h
      cases h
  obtain ⟨body, rfl, hne, hlast, heven⟩ :=
    (Packet.optionsAcknowledgementGrammar.accepted_iff rawPacket).mp hdecoded
  have hpos : 0 < body.count 0 := List.count_pos_iff.mpr (List.mem_of_getLast? hlast)
  have hle := List.count_le_length (a := 0) (l := body)
  obtain ⟨k, hk⟩ := heven
  simp only [List.length_cons]
  omega

open OperationImpl hiding actions

namespace Clients

variable {δ : Type} {f : Faults}

/-! ### The settings last -/

namespace OperationImpl

variable [DataHandler δ]

theorem fixed_initialise (b : OperationImpl δ) : (initialise b f).fixed = b.fixed := by
  simp only [OperationImpl.initialise]
  split_ifs
  · exact fixed_finished _ _ _
  · rfl

theorem fixed_startDataHandler (b : OperationImpl δ) : b.startDataHandler.fixed = b.fixed := by
  rw [OperationImpl.startDataHandler]
  split_ifs <;> rfl

theorem fixed_catchException (b : OperationImpl δ) (e : HandlerException) :
    (catchException b e).fixed = b.fixed := by
  cases e with
  | tftpException | boostException => exact fixed_finished _ _ _
  | otherException =>
    rw [catchException]
    split_ifs <;> rfl

theorem fixed_gracefulAbort (b : OperationImpl δ) (errorCode : ErrorCode)
    (errorMessage : RawData) : (gracefulAbort b f errorCode errorMessage).fixed = b.fixed := by
  simp only [gracefulAbort]
  split_ifs
  · exact (fixed_finished _ _ _).trans (fixed_send b _)
  · exact fixed_finished _ _ _

end OperationImpl

theorem fixed_requestedTransferSize [TransmitDataHandler δ] (b : OperationImpl δ) :
    b.requestedTransferSize.2.fixed = b.fixed := by
  rw [requestedTransferSize]
  split_ifs <;> rfl

namespace ReadOperationImpl

variable {s : ReadOperationImpl δ}

/-- The settings of a read. -/
def ownSettings (s : ReadOperationImpl δ) : TftpOptionsConfiguration × Options ×
    Option (OptionNegotiationHandler δ) × RawData × TransferMode × Bool :=
  (s.optionsConfigurationV, s.additionalOptionsV, s.optionNegotiationHandlerV, s.filenameV,
    s.modeV, s.dallyV)

theorem ownSettings_negotiateNone (blockNumber : BlockNumber) :
    (s.negotiateNone blockNumber).2.ownSettings = s.ownSettings := by
  rw [negotiateNone]
  split_ifs <;> rfl

variable [ReceiveDataHandler δ]

theorem ownSettings_dataPacket (blockNumber : BlockNumber) (data : RawData) :
    (s.dataPacket f blockNumber data).ownSettings = s.ownSettings := by
  rw [dataPacket]
  dsimp only
  split_ifs
  · rfl
  · rfl
  · rfl
  · exact ownSettings_negotiateNone blockNumber
  · exact ownSettings_negotiateNone blockNumber

theorem ownSettings_negotiated (transferSizeValue : Option UInt64) (remoteOptions : Options) :
    (s.negotiated f transferSizeValue remoteOptions).ownSettings = s.ownSettings := by
  rw [negotiated]
  dsimp only
  split_ifs <;> rfl

theorem ownSettings_optionsAcknowledgementPacket (remoteOptions : Options) :
    (s.optionsAcknowledgementPacket f remoteOptions).ownSettings = s.ownSettings := by
  rw [optionsAcknowledgementPacket]
  split_ifs
  · rfl
  · rfl
  · split
    · rfl
    · dsimp only
      split
      · rfl
      · split
        · rfl
        · exact ownSettings_negotiated _ _

theorem ownSettings_received (r : Received) :
    (s.received f r).ownSettings = s.ownSettings := by
  rcases r with packet | -
  · cases packet with
    | readRequest | writeRequest | acknowledgement | error => rfl
    | data blockNumber data => exact ownSettings_dataPacket blockNumber data
    | optionsAcknowledgement options => exact ownSettings_optionsAcknowledgementPacket options
  · rfl

/-- All settings but the timeout. -/
def allSettings (s : ReadOperationImpl δ) := (s.toOperationImpl.fixed, s.ownSettings)

theorem keeps_allSettings : Keeps (allSettings (δ := δ)) where
  withBase _ _ h := Prod.ext h rfl
  received s _ r := Prod.ext
    (received_leads (receiverRespected_fixed s.optionNegotiationHandlerV) r).1
    (ownSettings_received r)
  gracefulAbort _ _ _ _ := Prod.ext (OperationImpl.fixed_gracefulAbort _ _ _) rfl

theorem allSettings_request (s : ReadOperationImpl δ) :
    (s.request f).allSettings = s.allSettings := by
  have hinitialised := OperationImpl.fixed_initialise (f := f) s.toOperationImpl
  rw [request]
  cases f.startThrows with
  | some e => exact Prod.ext ((OperationImpl.fixed_catchException _ e).trans hinitialised) rfl
  | none =>
    refine Prod.ext ?_ rfl
    refine (fixed_arm _ _ _ _).trans ((fixed_sendFirst _ _).trans ?_)
    exact (OperationImpl.fixed_startDataHandler _).trans hinitialised

/-! ### A read -/

/-- **It cannot be seen that the operation has been used before**: whatever fails and whatever
happens, the next request does what that of a new operation does with the same settings and the
data handler as it is now. -/
def AsGoodAsNew (settings : Settings δ) (s : ReadOperationImpl δ) : Prop :=
  ∀ f es, visible ((s.update (·.cleared)).request f) es =
    visible ((configured { settings with dataHandler := s.dataHandlerV }).request f) es

variable {settings : Settings δ}

omit [ReceiveDataHandler δ] in
/-- What is left of a transfer with the same settings. -/
theorem cleared_eq (h : s.allSettings = (configured settings).allSettings)
    (hover : s.toOperationImpl.Completed) (htimeout : s.receiveTimeoutV = settings.tftpTimeout) :
    s.update (·.cleared) = { configured { settings with dataHandler := s.dataHandlerV } with
        toOperationImpl := s.toOperationImpl.cleared
        oackReceived := s.oackReceived
        receiveDataSize := s.receiveDataSize
        lastReceivedBlockNumber := s.lastReceivedBlockNumber } ∧
      OperationImpl.Resting s.toOperationImpl.cleared
        (configured { settings with dataHandler := s.dataHandlerV }).toOperationImpl := by
  simp only [allSettings, OperationImpl.fixed, ownSettings, configured, optionsConfiguration,
    Prod.mk.injEq] at h
  obtain ⟨⟨hreports, hretries, hremote, hlocal, hbuffer⟩, hconfiguration, hadditional, hhandler,
    hfilename, hmode, hdally⟩ := h
  refine ⟨?_, ⟨s.receiveEndpointV, s.transmitPacketV, s.transmitCounterV, s.errorInformationV, ?_⟩,
    rfl, rfl⟩
  · simp only [configured, optionsConfiguration, ← hconfiguration, ← hadditional, ← hhandler,
      ← hfilename, ← hmode, ← hdally]
    rfl
  · simp only [configured, optionsConfiguration, ← hreports, ← hretries, ← hremote, ← hlocal,
      ← hbuffer, ← htimeout, OperationImpl.cleared, hover.closed, hover.receives_nil, hover.timer,
      hover.alive]

/-- **With the same timeout, and without anybody to be told that the options were ignored**, an
operation is as good as new. -/
theorem asGoodAsNew (h : s.allSettings = (configured settings).allSettings)
    (hover : s.toOperationImpl.Completed) (htimeout : s.receiveTimeoutV = settings.tftpTimeout)
    (hoack : s.oackReceived = false ∨ settings.optionNegotiationHandler = none) :
    s.AsGoodAsNew settings := by
  intro f es
  obtain ⟨heq, hresting⟩ := cleared_eq h hover htimeout
  rw [heq]
  exact (renewed_request hresting hoack _ _ f).visible_eq matches_renewed es

/-! ### What gives a used read away -/

/-- The flag is set by nothing but an acknowledgement of options, and that needs room. -/
def Roomy (n : ℕ) (s : ReadOperationImpl δ) : Prop :=
  s.receivePacketV = n ∧ (s.oackReceived = true → 4 ≤ n)

theorem oackReceived_dataPacket (blockNumber : BlockNumber) (data : RawData) :
    (s.dataPacket f blockNumber data).oackReceived = s.oackReceived := by
  have hnone : (s.negotiateNone blockNumber).2.oackReceived = s.oackReceived := by
    rw [negotiateNone]
    split_ifs <;> rfl
  rw [dataPacket]
  dsimp only
  split_ifs
  · rfl
  · rfl
  · rfl
  · exact hnone
  · exact hnone

theorem leadsTo_roomy (n : ℕ) : LeadsTo (Roomy (δ := δ) n) (Roomy n)
    fun r => ∀ options, r = .packet (.optionsAcknowledgement options) → 4 ≤ n where
  withBase _ _ h hb := ⟨hb.buffer.trans h.1, h.2⟩
  rest _ h := h
  received s f r h hadmitted := by
    have hbuffer : (s.received f r).receivePacketV = s.receivePacketV :=
      congrArg (fun x => x.1.2.2.2.2) (keeps_allSettings.received s f r)
    refine ⟨hbuffer.trans h.1, ?_⟩
    rcases r with packet | -
    · cases packet with
      | readRequest | writeRequest | acknowledgement | error => exact h.2
      | optionsAcknowledgement options => exact fun _ => hadmitted options rfl
      | data blockNumber data =>
        intro hoack
        exact h.2 ((oackReceived_dataPacket blockNumber data).symm.trans hoack)
    · exact h.2
  gracefulAbort _ _ _ _ h :=
    ⟨(OperationImpl.framed_gracefulAbort _ _ _ _).buffer.trans h.1, h.2⟩

theorem roomy_run {init : ReadOperationImpl δ} (hinit : init.oackReceived = false)
    {history : List (Transition (ReadOperationImpl δ) (Faults × Event))}
    (hrun : Run step init history s) : s.Roomy init.receivePacketV := by
  induction hrun with
  | start => exact ⟨rfl, fun h => absurd (hinit.symm.trans h) (by decide)⟩
  | @next history s e hrun ih =>
    refine (leadsTo_roomy _).step ⟨ih.1, ih.2⟩ ?_
    intro source rawPacket _ _ _ options hoptions
    -- what is taken for an acknowledgement of options is no longer than the buffer
    have hlength := PacketHandler.length_of_optionsAcknowledgement hoptions
    have htake := List.length_take_le (base s).receivePacketV rawPacket
    have hbuffer : (base s).receivePacketV = init.receivePacketV := ih.1
    omega

section FirstBlock

variable (hblock : s.lastReceivedBlockNumber = 0)

include hblock

theorem dataPacket_firstBlock : s.dataPacket f 1 [] =
    if !(s.negotiateNone 1).1 then (s.negotiateNone 1).2.update
      (·.reject f .tftpOptionRefused "Option Negotiation Failed" .transferError)
    else { (s.negotiateNone 1).2 with
      toOperationImpl := (((s.negotiateNone 1).2.receivedData []).send f
        (.acknowledgement (s.negotiateNone 1).2.lastReceivedBlockNumber.next)).afterData f
          (decide (([] : RawData).length < s.receiveDataSize.toNat)) (s.negotiateNone 1).2.dallyV
      lastReceivedBlockNumber := (s.negotiateNone 1).2.lastReceivedBlockNumber.next } := by
  rw [dataPacket]
  dsimp only
  rw [if_neg (by rw [hblock]; decide), if_neg (by rw [hblock]; decide), if_neg (by simp)]
  rfl

variable (hnil : s.actions = [])

include hnil

/-- If the flag is set, the first block is passed on at once. -/
theorem actions_firstBlock_of_oackReceived (hoack : s.oackReceived = true) :
    ∃ acts, (s.dataPacket f 1 []).actions = .receivedData [] :: acts := by
  have hnone : s.negotiateNone 1 = (true, s) := by simp [negotiateNone, hoack]
  rw [dataPacket_firstBlock hblock, hnone]
  obtain ⟨acts, hacts, -⟩ := (framed_send_afterData (f := f) (s.toOperationImpl.receivedData [])
    (.acknowledgement s.lastReceivedBlockNumber.next)
    (decide (([] : RawData).length < s.receiveDataSize.toNat)) s.dallyV).actions
  exact ⟨acts, hacts.trans (by simp [receivedData, emit, hnil])⟩

/-- If it is not, the option negotiation handler is called before. -/
theorem actions_firstBlock_of_handler (hoack : s.oackReceived = false)
    {handler : OptionNegotiationHandler δ} (hhandler : s.optionNegotiationHandlerV = some handler) :
    ∃ acts, (s.dataPacket f 1 []).actions = .optionNegotiation SortedMap.empty :: acts := by
  have hcalled : (s.negotiateNone 1).2.actions = [.optionNegotiation SortedMap.empty] := by
    simp [negotiateNone, hoack, hhandler, OperationImpl.optionNegotiation, emit, hnil]
  rw [dataPacket_firstBlock hblock]
  generalize s.negotiateNone 1 = answer at hcalled
  split_ifs
  · obtain ⟨acts, hacts, -⟩ := (framed_reject (f := f) answer.2.toOperationImpl .tftpOptionRefused
      "Option Negotiation Failed" .transferError).actions
    exact ⟨acts, hacts.trans (by rw [hcalled]; rfl)⟩
  · obtain ⟨acts, hacts, -⟩ := (framed_send_afterData (f := f)
      (answer.2.toOperationImpl.receivedData [])
      (.acknowledgement answer.2.lastReceivedBlockNumber.next)
      (decide (([] : RawData).length < s.receiveDataSize.toNat)) answer.2.dallyV).actions
    exact ⟨.receivedData [] :: acts, hacts.trans (by simp [receivedData, emit, hcalled])⟩

end FirstBlock

omit [ReceiveDataHandler δ] in
/-- The cleared state of a completed operation is idle. -/
theorem idle_cleared (hover : s.toOperationImpl.Completed) : (s.update (·.cleared)).Idle :=
  ⟨hover.alive, hover.closed, hover.receives_nil⟩

/-- The first block comes at once: the operation as it has been requested gets it. -/
theorem step_firstBlock (h : s.Idle) (hbuffer : 4 ≤ s.receivePacketV) :
    ∃ t : ReadOperationImpl δ, t.lastReceivedBlockNumber = 0 ∧ t.actions = [] ∧
      t.oackReceived = s.oackReceived ∧
      t.optionNegotiationHandlerV = s.optionNegotiationHandlerV ∧
      step (s.request {}) ({}, .datagram s.remoteV (Packet.data 1 []).encode) =
        t.dataPacket {} 1 [] := by
  have hfits : (Packet.data 1 []).encode.take s.receivePacketV = (Packet.data 1 []).encode :=
    List.take_of_length_le hbuffer
  have hrequest := request_eq h
  have hstep : peerStep (s.request {}) (.datagram s.remoteV (Packet.data 1 []).encode) =
      received (withBase (s.request {}) ((base (s.request {})).takenUp s.remoteV s.remoteV)) {}
        (PacketHandler.packet ((Packet.data 1 []).encode.take
          (base (s.request {})).receivePacketV)) := by
    rw [hrequest]
    exact peerStep_server h.alive rfl rfl rfl _
  have hbuffer' : (base (s.request {})).receivePacketV = s.receivePacketV := by
    rw [hrequest]
    rfl
  refine ⟨withBase (s.request {}) ((base (s.request {})).takenUp s.remoteV s.remoteV), ?_, rfl, ?_,
    ?_, ?_⟩
  · rw [hrequest]
    rfl
  · rw [hrequest]
    rfl
  · rw [hrequest]
    rfl
  · rw [hbuffer', hfits] at hstep
    exact hstep

/-- **An operation that is as good as new** has the timeout that was set, and its flag is not set,
or nobody would ask for it. -/
theorem of_asGoodAsNew (hnew : s.AsGoodAsNew settings)
    (h : s.allSettings = (configured settings).allSettings)
    (hover : s.toOperationImpl.Completed) (hroomy : s.Roomy (configured settings).receivePacketV) :
    s.receiveTimeoutV = settings.tftpTimeout ∧
      (s.oackReceived = false ∨ settings.optionNegotiationHandler = none) := by
  have hidle := idle_cleared hover
  constructor
  · -- the timer of the request shows the timeout
    have htimer := timer_eq_of_visible (hnew {} [])
    rw [request_eq hidle, request_eq (idle_configured _)] at htimer
    exact Option.some.inj htimer
  · by_contra hnot
    obtain ⟨hoack, hhandler⟩ := not_or.mp hnot
    obtain ⟨handler, hhandler⟩ := Option.ne_none_iff_exists'.mp hhandler
    have hset : s.oackReceived = true := by simpa using hoack
    have hbuffer := hroomy.2 hset
    -- the used operation passes the first block on, a new one calls the handler
    obtain ⟨t, hblock, hnil, hflag, -, hstep⟩ := step_firstBlock hidle (hroomy.1.symm ▸ hbuffer)
    obtain ⟨acts, hacts⟩ := actions_firstBlock_of_oackReceived (f := {}) hblock hnil
      (hflag.trans hset)
    obtain ⟨t', hblock', hnil', hflag', hhandler', hstep'⟩ := step_firstBlock
      (idle_configured { settings with dataHandler := s.dataHandlerV }) hbuffer
    obtain ⟨acts', hacts'⟩ := actions_firstBlock_of_handler (f := {}) hblock' hnil' hflag'
      (hhandler'.trans hhandler)
    have hremote : (s.update (·.cleared)).remoteV = settings.remote := congrArg (·.1.2.2.1) h
    rw [hremote] at hstep
    have hdone := actions_eq_of_visible
      (hnew {} [({}, .datagram settings.remote (Packet.data 1 []).encode)])
    rw [hstep] at hdone
    have hdone' := hdone.trans (congrArg actions hstep')
    cases hacts.symm.trans (hdone'.trans hacts')

end ReadOperationImpl

/-! ### A write -/

namespace WriteOperationImpl

variable {s : WriteOperationImpl δ}

/-- The settings of a write. -/
def ownSettings (s : WriteOperationImpl δ) : TftpOptionsConfiguration × Options ×
    Option (OptionNegotiationHandler δ) × RawData × TransferMode :=
  (s.optionsConfigurationV, s.additionalOptionsV, s.optionNegotiationHandlerV, s.filenameV,
    s.modeV)

/-- All settings but the timeout. -/
def allSettings (s : WriteOperationImpl δ) := (s.toOperationImpl.fixed, s.ownSettings)

/-- What no event changes: the settings, and the transfer size that was announced. -/
def lasting (s : WriteOperationImpl δ) := (s.ownSettings, s.transferSize)

theorem lasting_negotiateNone (blockNumber : BlockNumber) :
    (s.negotiateNone blockNumber).2.lasting = s.lasting := by
  rw [negotiateNone]
  split_ifs <;> rfl

variable [TransmitDataHandler δ]

theorem lasting_acknowledgementPacket (blockNumber : BlockNumber) :
    (s.acknowledgementPacket f blockNumber).lasting = s.lasting := by
  have hnone := lasting_negotiateNone (s := { s with lastReceivedBlockNumber := blockNumber })
    blockNumber
  rw [acknowledgementPacket]
  dsimp only
  split_ifs
  · rfl
  · rfl
  · exact hnone
  · exact hnone
  · exact hnone

theorem lasting_negotiated (transferSizeValue : Option UInt64) (remoteOptions : Options) :
    (s.negotiated f transferSizeValue remoteOptions).lasting = s.lasting := by
  rw [negotiated]
  dsimp only
  split_ifs <;> rfl

theorem lasting_optionsAcknowledgementPacket (remoteOptions : Options) :
    (s.optionsAcknowledgementPacket f remoteOptions).lasting = s.lasting := by
  rw [optionsAcknowledgementPacket]
  split_ifs
  · rfl
  · rfl
  · split
    · rfl
    · dsimp only
      split
      · rfl
      · split
        · rfl
        · exact lasting_negotiated _ _

theorem lasting_received (r : Received) : (s.received f r).lasting = s.lasting := by
  rcases r with packet | -
  · cases packet with
    | readRequest | writeRequest | data | error => rfl
    | acknowledgement blockNumber => exact lasting_acknowledgementPacket blockNumber
    | optionsAcknowledgement options => exact lasting_optionsAcknowledgementPacket options
  · rfl

theorem keeps_lasting :
    Keeps fun s : WriteOperationImpl δ => (s.toOperationImpl.fixed, s.lasting) where
  withBase _ _ h := Prod.ext h rfl
  received s _ r := Prod.ext
    (received_respected (senderRespected_fixed s.optionNegotiationHandlerV) r) (lasting_received r)
  gracefulAbort _ _ _ _ := Prod.ext (OperationImpl.fixed_gracefulAbort _ _ _) rfl

theorem fixed_sendRequest (s : WriteOperationImpl δ) (options : Options) :
    (s.sendRequest f options).fixed = s.fixed :=
  (fixed_arm _ _ _ _).trans (fixed_sendFirst _ _)

theorem allSettings_request (s : WriteOperationImpl δ) :
    (s.request f).allSettings = s.allSettings ∧
      (s.optionsConfigurationV.handleTransferSizeOption = false →
        (s.request f).transferSize = s.transferSize) := by
  have hinitialised := OperationImpl.fixed_initialise (f := f) s.toOperationImpl
  have hstarted := (OperationImpl.fixed_startDataHandler _).trans hinitialised
  rw [request]
  cases f.startThrows with
  | some e =>
    exact ⟨Prod.ext ((OperationImpl.fixed_catchException _ e).trans hinitialised) rfl, fun _ => rfl⟩
  | none =>
    dsimp only
    split_ifs with hhandle
    · refine ⟨?_, fun hnot => absurd (hnot.symm.trans hhandle) (by decide)⟩
      cases f.transferSizeThrows with
      | some e => exact Prod.ext ((OperationImpl.fixed_catchException _ e).trans hstarted) rfl
      | none =>
        have hasked := (fixed_requestedTransferSize _).trans hstarted
        dsimp only
        split
        · exact Prod.ext ((fixed_sendRequest _ _).trans hasked) rfl
        · exact Prod.ext ((fixed_sendRequest _ _).trans hasked) rfl
    · exact ⟨Prod.ext ((fixed_sendRequest _ _).trans hstarted) rfl, fun _ => rfl⟩

/-- **It cannot be seen that the operation has been used before**: whatever fails and whatever
happens, the next request does what that of a new operation does with the same settings and the
data handler as it is now. -/
def AsGoodAsNew (settings : Settings δ) (s : WriteOperationImpl δ) : Prop :=
  ∀ f es, visible ((s.update (·.cleared)).request f) es =
    visible ((configured { settings with dataHandler := s.dataHandlerV }).request f) es

variable {settings : Settings δ}

omit [TransmitDataHandler δ] in
/-- What is left of a transfer with the same settings. -/
theorem cleared_eq (h : s.allSettings = (configured settings).allSettings)
    (hover : s.toOperationImpl.Completed) (htimeout : s.receiveTimeoutV = settings.tftpTimeout) :
    s.update (·.cleared) = { configured { settings with dataHandler := s.dataHandlerV } with
        toOperationImpl := s.toOperationImpl.cleared
        transmitDataSize := s.transmitDataSize
        lastDataPacketTransmitted := s.lastDataPacketTransmitted
        lastTransmittedBlockNumber := s.lastTransmittedBlockNumber
        lastReceivedBlockNumber := s.lastReceivedBlockNumber
        transferSize := s.transferSize } ∧
      OperationImpl.Resting s.toOperationImpl.cleared
        (configured { settings with dataHandler := s.dataHandlerV }).toOperationImpl := by
  simp only [allSettings, OperationImpl.fixed, ownSettings, configured, Prod.mk.injEq] at h
  obtain ⟨⟨hreports, hretries, hremote, hlocal, hbuffer⟩, hconfiguration, hadditional, hhandler,
    hfilename, hmode⟩ := h
  refine ⟨?_, ⟨s.receiveEndpointV, s.transmitPacketV, s.transmitCounterV, s.errorInformationV, ?_⟩,
    rfl, rfl⟩
  · simp only [configured, ← hconfiguration, ← hadditional, ← hhandler, ← hfilename, ← hmode]
    rfl
  · simp only [configured, ← hreports, ← hretries, ← hremote, ← hlocal, ← hbuffer, ← htimeout,
      OperationImpl.cleared, hover.closed, hover.receives_nil, hover.timer, hover.alive]

/-- **With the same timeout** an operation is as good as new. -/
theorem asGoodAsNew (h : s.allSettings = (configured settings).allSettings)
    (hsize : settings.optionsConfiguration.handleTransferSizeOption = false →
      s.transferSize = none)
    (hover : s.toOperationImpl.Completed) (htimeout : s.receiveTimeoutV = settings.tftpTimeout) :
    s.AsGoodAsNew settings := by
  intro f es
  obtain ⟨heq, hresting⟩ := cleared_eq h hover htimeout
  rw [heq]
  exact (renewed_request hresting hsize _ _ _ _ f).visible_eq matches_renewed es

/-- **An operation that is as good as new** has the timeout that was set. -/
theorem of_asGoodAsNew (hnew : s.AsGoodAsNew settings) (hover : s.toOperationImpl.Completed) :
    s.receiveTimeoutV = settings.tftpTimeout := by
  have hidle : (s.update (·.cleared)).Idle := ⟨hover.alive, hover.closed, hover.receives_nil⟩
  have htimer := timer_eq_of_visible (hnew {} [])
  rw [request_eq hidle, request_eq (idle_configured _)] at htimer
  exact Option.some.inj htimer

end WriteOperationImpl

/-- **When a client operation can be used again**: after a transfer that is over, with any
settings and whatever has failed, the next request does what that of a new operation does if and
only if the timeout is the one that was set – a negotiated one is not forgotten – and, for a read,
the flag that tells whether options were acknowledged is not set, or nobody asks for it. -/
theorem asGoodAsNew_iff (δ ε : Type) [ReceiveDataHandler δ] [TransmitDataHandler ε] :
    (∀ (settings : Settings δ) f history s,
      Run step ((ReadOperationImpl.configured settings).request f) history s →
      s.toOperationImpl.Completed →
      (s.AsGoodAsNew settings ↔ s.receiveTimeoutV = settings.tftpTimeout ∧
        (s.oackReceived = false ∨ settings.optionNegotiationHandler = none))) ∧
    (∀ (settings : Settings ε) f history s,
      Run step ((WriteOperationImpl.configured settings).request f) history s →
      s.toOperationImpl.Completed →
      (s.AsGoodAsNew settings ↔ s.receiveTimeoutV = settings.tftpTimeout)) := by
  constructor
  · intro settings f history s hrun hover
    have hrequest := ReadOperationImpl.allSettings_request (f := f)
      (ReadOperationImpl.configured settings)
    have hsettings := (ReadOperationImpl.keeps_allSettings.run hrun).trans hrequest
    have hflag : ((ReadOperationImpl.configured settings).request f).oackReceived = false := by
      rw [ReadOperationImpl.request]
      cases f.startThrows <;> rfl
    have hroomy := ReadOperationImpl.roomy_run hflag hrun
    rw [show ((ReadOperationImpl.configured settings).request f).receivePacketV = _ from
      congrArg (·.1.2.2.2.2) hrequest] at hroomy
    exact ⟨fun hnew => ReadOperationImpl.of_asGoodAsNew hnew hsettings hover hroomy,
      fun h => ReadOperationImpl.asGoodAsNew hsettings hover h.1 h.2⟩
  · intro settings f history s hrun hover
    obtain ⟨hrequest, hannounced⟩ := WriteOperationImpl.allSettings_request (f := f)
      (WriteOperationImpl.configured settings)
    have hlasting := WriteOperationImpl.keeps_lasting.run hrun
    have hsettings : s.allSettings = (WriteOperationImpl.configured settings).allSettings :=
      (congrArg (fun x => (x.1, x.2.1)) hlasting).trans hrequest
    exact ⟨fun hnew => WriteOperationImpl.of_asGoodAsNew hnew hover,
      WriteOperationImpl.asGoodAsNew hsettings
        (fun hnot => (congrArg (·.2.2) hlasting).trans (hannounced hnot)) hover⟩

/-- A file of one byte is read. -/
def shortRead : List (Faults × Event) := [({}, .datagram {} (Packet.data 1 [97]).encode)]

/-- A file of one byte is written. -/
def shortWrite : List (Faults × Event) :=
  [({}, .datagram {} (Packet.acknowledgement 0).encode),
    ({}, .datagram {} (Packet.acknowledgement 1).encode)]

/-- Without options both can be used again. -/
theorem asGoodAsNew_short :
    (replay step ((ReadOperationImpl.configured { dataHandler := MemoryFile.empty }).request {})
        shortRead).2.AsGoodAsNew { dataHandler := .empty } ∧
      (replay step ((WriteOperationImpl.configured
        { dataHandler := MemoryFile.ofData [98] }).request {}) shortWrite).2.AsGoodAsNew
          { dataHandler := .ofData [98] } :=
  ⟨((asGoodAsNew_iff MemoryFile MemoryFile).1 { dataHandler := .empty } {} _ _
      (Run.of_replay step _ shortRead) ⟨⟨by decide, by decide, by decide⟩, by decide⟩).mpr
        ⟨by decide, Or.inl (by decide)⟩,
    ((asGoodAsNew_iff MemoryFile MemoryFile).2 { dataHandler := .ofData [98] } {} _ _
      (Run.of_replay step _ shortWrite) ⟨⟨by decide, by decide, by decide⟩, by decide⟩).mpr
        (by decide)⟩

/-- Settings that ask for another timeout than the one that is set. -/
def patient : Settings MemoryFile where
  optionsConfiguration := { timeoutOption := some 5 }
  dataHandler := .empty

/-- The server agrees to the timeout, and sends a file of one byte. -/
def patientRead : List (Faults × Event) :=
  ({}, .datagram {} [0, 6, 116, 105, 109, 101, 111, 117, 116, 0, 53, 0]) :: shortRead

/-- The next request waits for five seconds, and a new operation for two. -/
theorem not_asGoodAsNew : ¬ ∀ (settings : Settings MemoryFile) f history s,
    Run step ((ReadOperationImpl.configured settings).request f) history s →
      s.toOperationImpl.Completed → s.AsGoodAsNew settings := by
  intro hnew
  have htimer := timer_eq_of_visible (hnew patient {} _ _ (Run.of_replay step _ patientRead)
    ⟨⟨by decide, by decide, by decide⟩, by decide⟩ {} [])
  exact absurd htimer (by decide)

end Clients

end Tftp
