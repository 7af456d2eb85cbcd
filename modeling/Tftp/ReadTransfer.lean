import Tftp.Negotiation
import Tftp.Networks

/-!
# Reading a file, end to end

A client and a server of this library, from the request for a file on. The operation of the server
is the one that is started for the request (`Tftp.Transfer.read`), so that what the server
acknowledges and what the client has asked for fit together; from there on the two operations stay
in lockstep, and over a FIFO network the file arrives intact and nothing goes wrong
(`Tftp.read_end_to_end`).
-/

namespace Tftp

open Protocol Clients Servers Operation

/-- Additional options that do not get in the way: none of them is a known option, and they fit
into one packet together with all the known ones. -/
structure Options.Unobtrusive (options : Options) : Prop where
  lacks : TftpOptions.Lacks options
  nulFree : options.NulFree
  length_le : options.rawOptions.length ≤ 461

theorem Options.unobtrusive_empty : Options.Unobtrusive SortedMap.empty :=
  ⟨TftpOptions.lacks_empty, Options.nulFree_empty, by decide⟩

/-! ### What the two sides have in common -/

section Common

variable {configuration serverConfiguration : TftpOptionsConfiguration}
  {clientOptions known : TftpOptions} {additional : Options}

/-- **The receive buffer** of either receiver holds every packet of an admissible size. -/
theorem le_receiveBuffer (h : configuration.BlockSizeInRange) :
    516 ≤ (defaultTftpDataPacketHeaderSize.toNat +
        max defaultDataSize.toNat (configuration.blockSizeOption.getD defaultDataSize).toNat) %
          2 ^ 16 ∧
      ∀ size ≤ max 512 (configuration.blockSizeOption.getD defaultDataSize).toNat,
        size + 4 ≤ (defaultTftpDataPacketHeaderSize.toNat +
          max defaultDataSize.toNat (configuration.blockSizeOption.getD defaultDataSize).toNat) %
            2 ^ 16 := by
  have hheader : defaultTftpDataPacketHeaderSize.toNat = 4 := rfl
  have hdefault : defaultDataSize.toNat = 512 := rfl
  have hmax : (configuration.blockSizeOption.getD defaultDataSize).toNat ≤ 65464 := by
    cases hblock : configuration.blockSizeOption with
    | none => decide
    | some b =>
      have hmax := (h b hblock).2
      rw [blockSizeOptionMax] at hmax
      exact hmax
  rw [hheader, hdefault, Nat.mod_eq_of_lt (by omega)]
  refine ⟨by omega, fun size hsize => ?_⟩
  omega

/-- The size of a full block, when the server has answered. -/
def negotiatedDataSize (serverConfiguration : TftpOptionsConfiguration)
    (clientOptions : TftpOptions) : UInt16 :=
  (negotiatedBlockSize serverConfiguration clientOptions).getD defaultDataSize

theorem negotiatedDataSize_pos (hserver : serverConfiguration.BlockSizeInRange)
    (hclient : clientOptions.InRange) :
    0 < (negotiatedDataSize serverConfiguration clientOptions).toNat := by
  have hrange := (inRange_acknowledged hserver hclient none).blockSize
  rw [negotiatedDataSize]
  cases hb : negotiatedBlockSize serverConfiguration clientOptions with
  | none => decide
  | some b =>
    have hmin := (hrange b hb).1
    rw [blockSizeOptionMin] at hmin
    rw [Option.getD_some]
    omega

/-- The server acknowledges no more than what it is asked for, and what it is configured to. -/
theorem negotiatedDataSize_le :
    (negotiatedDataSize serverConfiguration clientOptions).toNat ≤
        max 512 (clientOptions.blockSize.getD defaultDataSize).toNat ∧
      (negotiatedDataSize serverConfiguration clientOptions).toNat ≤
        max 512 (serverConfiguration.blockSizeOption.getD defaultDataSize).toNat := by
  rw [negotiatedDataSize]
  cases hb : negotiatedBlockSize serverConfiguration clientOptions with
  | none => exact ⟨le_max_left _ _, le_max_left _ _⟩
  | some b =>
    obtain ⟨configured, requested, hconfigured, hrequested, hmin⟩ := negotiatedBlockSize_eq_some hb
    rw [hconfigured, hrequested, Option.getD_some, Option.getD_some, Option.getD_some]
    omega

/-- What is acknowledged is what both sides use. -/
theorem acknowledges_onto {x : Session} (hsize : x.dataSize = known.blockSize.getD defaultDataSize)
    (hrange : known.InRange) (hadd : additional.Unobtrusive)
    (hset : (known.onto additional).isEmpty = false) : x.Acknowledges (known.onto additional) where
  encodable := ⟨hset, TftpOptions.nulFree_onto hadd.nulFree⟩
  length_le := by
    have hlength : (known.onto additional).rawOptions.length ≤
      additional.rawOptions.length + 53 := TftpOptions.length_rawOptions_onto
    have hle := hadd.length_le
    rw [Packet.encode_optionsAcknowledgement, List.length_append, RawData.length_setInt]
    omega
  dataSize_eq size hcases := by
    obtain ⟨remaining, hget, -⟩ := TftpOptions.getOption_blockSize hrange
      (TftpOptions.find?_onto hadd.lacks .blockSize)
    rw [hget]
    show ((known.blockSize.map UInt16.toNat).map UInt16.ofNat).getD size = x.dataSize
    rw [hsize] at hcases ⊢
    cases hb : known.blockSize with
    | none =>
      rw [hb] at hcases
      exact hcases.elim id id
    | some b => simp

end Common

/-! ### Reading a file -/

section Read

variable {δ : Type} [ReceiveDataHandler δ] {client : Clients.Settings δ}
  {server : Servers.Settings MemoryFile} {request : ReceivedTftpRequest} {serverV : Endpoint}

/-- A read: the client has sent its request, and an operation was started for it. -/
def Transfer.read (client : Clients.Settings δ) (server : Servers.Settings MemoryFile)
    (request : ReceivedTftpRequest) (serverV : Endpoint) :
    Transfer (Clients.ReadOperationImpl δ) (Servers.ReadOperationImpl MemoryFile) :=
  .started request.remote serverV ((Clients.ReadOperationImpl.configured client).request {})
    ((Servers.ReadOperationImpl.configured (server.answering request)).start {})

/-- The options that the server of a read acknowledges, with the additional ones. -/
def readOffer (server : Servers.Settings MemoryFile) (request : ReceivedTftpRequest) : Options :=
  (readAcknowledged server request).onto server.additionalNegotiatedOptions

/-- What a read is about. -/
def readSession (server : Servers.Settings MemoryFile) (request : ReceivedTftpRequest) :
    Session where
  file := server.dataHandler.dataV
  dataSize := negotiatedDataSize server.optionsConfiguration request.clientOptions
  offer := if (readOffer server request).isEmpty then none else some (readOffer server request)
  answer := none

theorem offer_eq_some {options : Options}
    (h : (readSession server request).offer = some options) :
    options = readOffer server request ∧ (readOffer server request).isEmpty = false := by
  rw [readSession] at h
  dsimp only at h
  split_ifs at h with hempty
  exact ⟨(Option.some.inj h).symm, Bool.eq_false_iff.mpr hempty⟩

theorem valid_readSession (hserver : server.optionsConfiguration.BlockSizeInRange)
    (hadd : server.additionalNegotiatedOptions.Unobtrusive)
    (hrequest : request.clientOptions.InRange) : (readSession server request).Valid where
  dataSize_pos := negotiatedDataSize_pos hserver hrequest
  offered options ho := by
    obtain ⟨rfl, hset⟩ := offer_eq_some ho
    exact acknowledges_onto rfl (inRange_acknowledged hserver hrequest _) hadd hset
  answered options ho := by cases ho
  one_side _ := rfl

/-- **The client of a read is a receiver** that waits for the answer to its request. -/
theorem receives_request {x : Session} (haddress : serverV.address = client.remote.address)
    (hport : serverV ≠ client.remote) :
    ((Clients.ReadOperationImpl.configured client).request {}).Settled ∧
      ((Clients.ReadOperationImpl.configured client).request {}).phase =
        .requesting serverV.address ∧
      Receives x serverV ((Clients.ReadOperationImpl.configured client).request {}).view 0
        ((Clients.ReadOperationImpl.configured client).request {}).phase
        ((Clients.ReadOperationImpl.configured client).request {}).view ∧
      ∃ rawPacket, Packet.packetType rawPacket ≠ .error ∧
        ((Clients.ReadOperationImpl.configured client).request {}).actions =
          [.start, .send rawPacket client.remote] := by
  have hidle := Clients.ReadOperationImpl.idle_configured client
  obtain ⟨hset, hphase⟩ := Clients.OperationImpl.settled_requested hidle.alive
    (.readRequest client.filename client.mode
      (Clients.ReadOperationImpl.configured client).requestOptions)
  have hphase' : ((Clients.ReadOperationImpl.configured client).request {}).phase =
      .requesting serverV.address := by
    rw [Clients.ReadOperationImpl.request_eq hidle, haddress]
    exact hphase
  have hnot : Packet.packetType (Packet.readRequest client.filename client.mode
      (Clients.ReadOperationImpl.configured client).requestOptions).encode ≠ .error := by
    rw [Packet.packetType_encode]
    rintro ⟨⟩
  refine ⟨?_, hphase', ?_, _, hnot, ?_⟩
  · rw [Clients.ReadOperationImpl.request_eq hidle]
    exact hset
  · rw [hphase', Clients.ReadOperationImpl.request_eq hidle]
    exact ⟨Or.inl ⟨rfl, hport.symm, rfl⟩, rfl, by rintro ⟨⟩, hnot, Or.inr ⟨rfl, rfl⟩,
      ⟨rfl, rfl, rfl, rfl⟩⟩
  · rw [Clients.ReadOperationImpl.request_eq hidle]
    rfl

/-- **The server of a read is a sender** that has sent its first packet. -/
theorem sends_start (hserver : server.optionsConfiguration.BlockSizeInRange)
    (hadd : server.additionalNegotiatedOptions.Unobtrusive)
    (hrequest : request.clientOptions.InRange)
    (hzero : request.clientOptions.transferSize = none ∨
      request.clientOptions.transferSize = some 0)
    (hsource : server.dataHandler.operationV = .transmit) :
    ((Servers.ReadOperationImpl.configured (server.answering request)).start {}).Settled ∧
      ∃ k ≤ 1, (k = 0 → (readSession server request).offer.isSome) ∧
        (k = 1 → (readSession server request).dataSize = defaultDataSize) ∧
        ((Servers.ReadOperationImpl.configured (server.answering request)).start {}).view.buffer =
          516 ∧
        ((Servers.ReadOperationImpl.configured (server.answering request)).start {}).phase ≠
          .done ∧
        Sends (readSession server request) request.remote
          ((Servers.ReadOperationImpl.configured (server.answering request)).start {}).view k
          ((Servers.ReadOperationImpl.configured (server.answering request)).start {}).phase
          ((Servers.ReadOperationImpl.configured (server.answering request)).start {}).view ∧
        ∃ calls, (∀ a ∈ calls, a.IsCall) ∧
          ((Servers.ReadOperationImpl.configured (server.answering request)).start {}).actions =
            calls ++ [.send ((readSession server request).item k).encode request.remote] := by
  have hidle := Servers.ReadOperationImpl.idle_configured (server.answering request)
  have hvalid := valid_readSession hserver hadd hrequest
  have hrefuses : (Servers.ReadOperationImpl.configured (server.answering request)).refuses =
      false := refuses_answering server hzero
  have hoffer : (Servers.ReadOperationImpl.configured
      (server.answering request)).acknowledgedOptions = readOffer server request :=
    Servers.ReadOperationImpl.acknowledgedOptions_eq _
  have hcalls := (Servers.ReadOperationImpl.configured (server.answering request)).isCall_announced
  have hafter : (Servers.ReadOperationImpl.configured
      (server.answering request)).accepted.view.handler.After server.dataHandler.dataV
        (readSession server request).dataSize.toNat 0 :=
    after_announced (server.answering request) hsource _
  rcases hempty : (readOffer server request).isEmpty with _ | _
  · -- the options are acknowledged
    rw [← hoffer] at hempty
    obtain ⟨hset, hphase, hact, hview⟩ :=
      Servers.ReadOperationImpl.start_acknowledges hidle hrefuses hempty
    rw [hoffer] at hempty hact hview
    have hsome : (readSession server request).offer = some (readOffer server request) := by
      simp [readSession, hempty]
    have hitem : (readSession server request).item 0 =
        .optionsAcknowledgement (readOffer server request) := by
      rw [Session.item, hsome, Option.getD_some]
    refine ⟨hset, 0, Nat.zero_le 1, fun _ => by rw [hsome]; rfl, by simp, ?_, ?_, ?_, _, hcalls, ?_⟩
    · rw [hview]
      rfl
    · rw [hphase]
      rintro ⟨⟩
    · rw [hphase, hview]
      refine ⟨Or.inr rfl, rfl, Or.inl ⟨rfl, Or.inl rfl⟩, Or.inl rfl, ?_, hafter, fun _ => ⟨?_, ?_⟩,
        ?_, ⟨rfl, rfl, rfl, rfl, rfl⟩⟩
      · exact (decide_eq_false (readSession server request).not_lastBlock_le_zero).symm
      · rw [hitem]
      · rw [hsome]
        exact fun _ => rfl
      · rw [Packet.packetType_encode]
        rintro ⟨⟩
    · rw [hact, hitem]
      rfl
  · -- the first block is sent
    rw [← hoffer] at hempty
    obtain ⟨hset, hphase, hact, hview⟩ :=
      Servers.ReadOperationImpl.start_sends hidle hrefuses hempty
    rw [hoffer] at hempty
    have hdefault : (readSession server request).dataSize = defaultDataSize := by
      have hnone := (isSet_eq_false (TftpOptions.isEmpty_onto hadd.lacks hempty)).1
      show (readAcknowledged server request).blockSize.getD defaultDataSize = defaultDataSize
      rw [hnone, Option.getD_none]
    have hkept : (Servers.ReadOperationImpl.configured
        (server.answering request)).accepted.view.advanced.Kept
          (Servers.ReadOperationImpl.configured (server.answering request)).accepted.view :=
      ⟨rfl, rfl, rfl, rfl, rfl⟩
    obtain ⟨hsends, hsending⟩ := Sends.afterBlock hvalid request.remote hkept rfl hafter rfl rfl
      (Or.inr rfl)
    refine ⟨hset, 1, le_refl 1, by simp, fun _ => hdefault, ?_, ?_, ?_, _,
      isCall_concat_sendData hcalls (readSession server request).dataSize.toNat
        (block (readSession server request).file (readSession server request).dataSize.toNat 0), ?_⟩
    · rw [hview]
      rfl
    · rw [hphase]
      rintro ⟨⟩
    · rw [hphase, hview]
      exact hsends
    · rw [hact]
      show [] ++ Action.start :: (_ ++ (Servers.ReadOperationImpl.configured
        (server.answering request)).accepted.view.sending request.remote) = _
      rw [hsending]
      simp

/-- **A read starts in step.** -/
theorem linked_read (hserver : server.optionsConfiguration.BlockSizeInRange)
    (hadd : server.additionalNegotiatedOptions.Unobtrusive)
    (hrequest : request.clientOptions.InRange)
    (hzero : request.clientOptions.transferSize = none ∨
      request.clientOptions.transferSize = some 0)
    (hsource : server.dataHandler.operationV = .transmit)
    (haddress : serverV.address = client.remote.address) (hport : serverV ≠ client.remote) :
    ∃ k, Linked (readSession server request) request.remote serverV
        (Transfer.read client server request serverV).receiver.view
        (Transfer.read client server request serverV).sender.view
        (Transfer.read client server request serverV) 0 k ∧
      (k = 0 → (readSession server request).offer.isSome) ∧
      (Transfer.read client server request serverV).sender.view.buffer = 516 ∧
      (Transfer.read client server request serverV).toReceiver =
        [((readSession server request).item k).encode] ∧
      (Transfer.read client server request serverV).toSender = [] ∧
      Flawless (Transfer.read client server request serverV).receiverActions ∧
      Flawless (Transfer.read client server request serverV).senderActions := by
  obtain ⟨hset, hphase, hreceives, rawPacket, hnot, hact⟩ :=
    receives_request (x := readSession server request) haddress hport
  obtain ⟨hset', k, hk, hoffer, hdefault, hbuffer, -, hsends, calls, hcalls, hact'⟩ :=
    sends_start hserver hadd hrequest hzero hsource
  have hnil : sentTo serverV ((Clients.ReadOperationImpl.configured client).request {}).actions =
      [] := by
    rw [hact]
    simp [sentTo, Action.sentTo, hport.symm]
  refine ⟨k, Linked.started hset hset' (fun _ => hreceives) (fun _ => hsends) ?_ ⟨?_, ?_⟩ hk
    fun _ => ⟨hnil, ?_⟩, hoffer, hbuffer, ?_, hnil, ?_, ?_⟩
  · show deliveries ((Clients.ReadOperationImpl.configured client).request {}).actions = []
    rw [hact]
    rfl
  · show _ ∉ ((Clients.ReadOperationImpl.configured client).request {}).actions
    rw [hact]
    simp
  · show _ ∉ ((Servers.ReadOperationImpl.configured (server.answering request)).start {}).actions
    rw [hact']
    rw [finished_mem_calls_append hcalls]
    simp
  · rcases Nat.le_one_iff_eq_zero_or_eq_one.mp hk with rfl | rfl
    · exact Or.inl rfl
    · exact Or.inr (hdefault rfl)
  · show sentTo request.remote
      ((Servers.ReadOperationImpl.configured (server.answering request)).start {}).actions = _
    rw [hact', sentTo_calls_append hcalls, sentTo_send]
    rfl
  · show Flawless ((Clients.ReadOperationImpl.configured client).request {}).actions
    rw [hact]
    exact (flawless_calls (l := [.start]) (by simp [Action.IsCall])).append
      (flawless_send hnot client.remote)
  · show Flawless
      ((Servers.ReadOperationImpl.configured (server.answering request)).start {}).actions
    rw [hact']
    refine (flawless_calls hcalls).append (flawless_send ?_ request.remote)
    rw [Packet.packetType_encode]
    exact (readSession server request).item_type_ne k

/-- What the client of a read brings along. -/
theorem view_read (client : Clients.Settings δ) (server : Servers.Settings MemoryFile)
    (request : ReceivedTftpRequest) (serverV : Endpoint) :
    (Transfer.read client server request serverV).receiver.view.buffer =
        (Clients.ReadOperationImpl.configured client).receivePacketV ∧
      (Transfer.read client server request serverV).receiver.view.negotiates =
        client.optionNegotiationHandler.isSome ∧
      (Transfer.read client server request serverV).receiver.view.configuration =
        client.optionsConfiguration := by
  have heq : (Transfer.read client server request serverV).receiver =
    (Clients.ReadOperationImpl.configured client).request {} := rfl
  rw [heq, Clients.ReadOperationImpl.request_eq (Clients.ReadOperationImpl.idle_configured client)]
  exact ⟨rfl, rfl, rfl⟩

/-- What both sides of a read bring along. -/
theorem equipped_read (hclient : client.optionsConfiguration.BlockSizeInRange)
    (hserver : server.optionsConfiguration.BlockSizeInRange)
    (hadd : server.additionalNegotiatedOptions.Unobtrusive)
    (hrequest : request.clientOptions.InRange)
    (hoptions : request.clientOptions.blockSize = client.optionsConfiguration.blockSizeOption)
    (hbuffer : (Transfer.read client server request serverV).sender.view.buffer = 516) :
    Equipped (readSession server request)
      (Transfer.read client server request serverV).receiver.view
      (Transfer.read client server request serverV).sender.view where
  valid := valid_readSession hserver hadd hrequest
  receiver_buffer := by
    obtain ⟨hmin, hmax⟩ := le_receiveBuffer hclient
    rw [(view_read client server request serverV).1]
    refine ⟨hmin, hmax _ ?_⟩
    rw [← hoptions]
    exact negotiatedDataSize_le.1
  sender_buffer := hbuffer.ge
  keepsFile := by
    intro g hg
    cases hg

end Read

/-! ### Reading a file into a file -/

section ReadFile

variable {client : Clients.Settings MemoryFile} {server : Servers.Settings MemoryFile}
  {request : ReceivedTftpRequest} {serverV : Endpoint}

/-- The client of a read accepts what the server acknowledges. -/
theorem agreeing_read (hclient : client.optionsConfiguration.BlockSizeInRange)
    (htimeout : client.optionsConfiguration.TimeoutInRange)
    (hhandler : client.optionNegotiationHandler = none) (hserver : server.Negotiable)
    (hrequest : request.clientOptions = client.readOptions)
    (hbuffer : (Transfer.read client server request serverV).sender.view.buffer = 516) :
    Agreeing (Clients.ReadOperationImpl MemoryFile) (Servers.ReadOperationImpl MemoryFile)
      (readSession server request) request.remote serverV
      (Transfer.read client server request serverV).receiver.view
      (Transfer.read client server request serverV).sender.view := by
  have hadd : server.additionalNegotiatedOptions.Unobtrusive := by
    rw [hserver.additional]
    exact Options.unobtrusive_empty
  have hrange : request.clientOptions.InRange := by
    rw [hrequest]
    exact inRange_requestedOptions hclient htimeout
  obtain ⟨-, hnegotiates, hconfiguration⟩ := view_read client server request serverV
  have hequipped := equipped_read hclient hserver.blockSize hadd hrange
    (congrArg TftpOptions.blockSize hrequest) hbuffer
  refine ⟨hequipped, ?_, rfl, fun hoffer s hset hreceives => ?_, by rintro ⟨⟩⟩
  · rw [hnegotiates, hhandler]
    rfl
  · obtain ⟨options, ho⟩ := Option.isSome_iff_exists.mp hoffer
    obtain ⟨hoptions, hsome⟩ := offer_eq_some ho
    rw [readOffer, hserver.additional] at hoptions hsome
    obtain ⟨lastEndpoint, hready, heq⟩ := Operation.peerStep_admitted hset hreceives.admits
      ((readSession server request).item 0).encode
    have hpacket := Session.packet_item (d := 0) hequipped.valid (fun _ => hoffer)
      hequipped.receiver_buffer
    rw [← hreceives.kept.buffer] at hpacket
    have hitem : (readSession server request).item 0 = .optionsAcknowledgement
        ((readAcknowledged server request).onto SortedMap.empty) := by
      rw [Session.item, ho, Option.getD_some, hoptions]
    have hnone : s.optionNegotiationHandlerV = none := by
      have hview : s.optionNegotiationHandlerV.isSome = false := by
        rw [hhandler] at hnegotiates
        exact hreceives.kept.negotiates.trans hnegotiates
      exact Option.isNone_iff_eq_none.mp (Option.isSome_eq_false_iff.mp hview)
    have hsame : s.optionsConfigurationV = client.optionsConfiguration :=
      hreceives.kept.configuration.trans hconfiguration
    have hacc := acceptable_read server htimeout hrequest
    rw [← hsame] at hacc
    obtain ⟨s', rfl, hphase, -⟩ :=
      Clients.ReadOperationImpl.optionsAcknowledgementPacket_acceptable
        (s := { s with toOperationImpl := s.toOperationImpl.takenUp serverV lastEndpoint })
        hready hreceives.block_eq hnone (inRange_acknowledged hserver.blockSize hrange _) hacc
        hsome fun _ _ => rfl
    have hreceived := heq.trans (congrArg (Operation.received _ {}) hpacket)
    rw [hitem] at hreceived
    rw [hitem, hreceived]
    show OperationImpl.phase _ ≠ .done
    intro hdone
    cases hphase.symm.trans hdone

/-- **What holds of a read at its start.** -/
theorem linkedInOrder_read (hserver : server.Negotiable)
    (hrange : request.clientOptions.InRange)
    (hzero : request.clientOptions.transferSize = none ∨
      request.clientOptions.transferSize = some 0)
    (hsource : server.dataHandler.operationV = .transmit)
    (haddress : serverV.address = client.remote.address) (hport : serverV ≠ client.remote) :
    ∃ k, LinkedInOrder (readSession server request) request.remote serverV
        (Transfer.read client server request serverV).receiver.view
        (Transfer.read client server request serverV).sender.view
        (Transfer.read client server request serverV) 0 k ∧
      (Transfer.read client server request serverV).sender.view.buffer = 516 := by
  have hadd : server.additionalNegotiatedOptions.Unobtrusive := by
    rw [hserver.additional]
    exact Options.unobtrusive_empty
  obtain ⟨k, hlinked, hoffer, hbuffer, hitems, hacks, hreceiver, hsender⟩ :=
    linked_read hserver.blockSize hadd hrange hzero hsource haddress hport
  refine ⟨k, ⟨hlinked, ⟨[k], [], ?_, hitems, hacks, fun hmem => ?_⟩, hreceiver, hsender⟩, hbuffer⟩
  · exact (StopAndWait.Fifo.start hlinked.in_step).resend
  · exact hoffer (List.mem_singleton.mp hmem).symm

/-- **A read over a FIFO network**: whatever gets lost or is delivered again, and whenever a timer
expires, the file arrives intact, and nothing goes wrong. -/
theorem read_end_to_end (client : Clients.Settings MemoryFile) (server : Servers.Settings MemoryFile)
    (request : ReceivedTftpRequest) (serverV : Endpoint)
    (hclient : client.optionsConfiguration.BlockSizeInRange)
    (htimeout : client.optionsConfiguration.TimeoutInRange)
    (hhandler : client.optionNegotiationHandler = none) (hserver : server.Negotiable)
    (hsource : server.dataHandler.operationV = .transmit)
    (hrequest : request.clientOptions = client.readOptions)
    (haddress : serverV.address = client.remote.address) (hport : serverV ≠ client.remote)
    (history : List (Transition (Transfer (Clients.ReadOperationImpl MemoryFile)
      (Servers.ReadOperationImpl MemoryFile)) NetworkEvent))
    (t : Transfer (Clients.ReadOperationImpl MemoryFile) (Servers.ReadOperationImpl MemoryFile))
    (hrun : Run (Transfer.step request.remote serverV)
      (Transfer.read client server request serverV) history t)
    (horder : ∀ u ∈ history, u.event.InOrder) :
    t.Intact server.dataHandler.dataV
        (negotiatedDataSize server.optionsConfiguration request.clientOptions).toNat ∧
      Flawless t.receiverActions ∧ Flawless t.senderActions := by
  have hrange : request.clientOptions.InRange := by
    rw [hrequest]
    exact inRange_requestedOptions hclient htimeout
  have hzero : request.clientOptions.transferSize = none ∨
      request.clientOptions.transferSize = some 0 := by
    rw [hrequest]
    exact client.transferSize_readOptions
  obtain ⟨k, hstart, hbuffer⟩ := linkedInOrder_read hserver hrange hzero hsource haddress hport
  have hagree := agreeing_read hclient htimeout hhandler hserver hrequest hbuffer
  obtain ⟨n', k', h⟩ := linkedInOrder_run hagree hstart hrun horder (by rintro ⟨⟩)
  exact ⟨h.linked.intact hagree.valid, h.receiver_flawless, h.sender_flawless⟩

/-- A client that asks for blocks of eight bytes. -/
def smallReader : Clients.Settings MemoryFile :=
  { dally := true, dataHandler := .empty, optionsConfiguration := { blockSizeOption := some 8 } }

/-- A server of a file of nine bytes. -/
def smallSource : Servers.Settings MemoryFile :=
  { dataHandler := .ofData [97, 98, 99, 100, 101, 102, 103, 104, 105]
    optionsConfiguration := { blockSizeOption := some 16 } }

/-- What that server is told of the request of that client. -/
def smallReadRequest : ReceivedTftpRequest :=
  ⟨{ port := 2 }, .read, [], .octet, smallReader.readOptions, SortedMap.empty⟩

/-- The acknowledgement of the options is delivered twice, and the first block gets lost. -/
def lossyRead : List NetworkEvent :=
  [.toReceiver 0 true, .toReceiver 0 false, .toSender 0 false, .toSender 0 false,
    .loseToReceiver 0, .senderTimeout, .toReceiver 0 false, .toSender 0 false, .toReceiver 0 false,
    .toSender 0 false, .receiverTimeout]

/-- The end of that read. -/
def smallRead :
    Transfer (Clients.ReadOperationImpl MemoryFile) (Servers.ReadOperationImpl MemoryFile) :=
  (replay (Transfer.step { port := 2 } { port := 1 })
    (Transfer.read smallReader smallSource smallReadRequest { port := 1 }) lossyRead).2

/-- Two blocks arrive nevertheless. -/
theorem read_end_to_end_two_blocks :
    (smallRead.Intact [97, 98, 99, 100, 101, 102, 103, 104, 105] 8 ∧
      Flawless smallRead.receiverActions ∧ Flawless smallRead.senderActions) ∧
      .finished .successful ∈ smallRead.receiverActions ∧
      .finished .successful ∈ smallRead.senderActions := by
  refine ⟨read_end_to_end smallReader smallSource smallReadRequest { port := 1 } ?_ ?_ rfl ⟨?_, rfl⟩
    rfl rfl rfl (by decide) _ _ (Run.of_replay _ _ _) (Run.forall_replay (by decide)), by decide⟩
  · rintro b ⟨⟩
    decide
  · rintro t ⟨⟩
  · rintro b ⟨⟩
    decide

end ReadFile

end Tftp
