import Tftp.ReadTransfer

/-!
# Writing a file, end to end

A client and a server of this library, from the request to write a file on (`Tftp.Transfer.write`).
The server acknowledges the options instead of block zero here, and the client takes an
acknowledgement of options over whenever no block of its own was acknowledged. Over a FIFO network
the file arrives intact and nothing goes wrong as long as no acknowledgement of options gets to the
client after it has sent the first block (`Tftp.write_end_to_end`); a second copy of it makes the
transfer fail (`Tftp.write_fails_on_second_acknowledgement`).
-/

namespace Tftp

open Protocol Clients Servers Operation

section Write

variable {δ : Type} [ReceiveDataHandler δ] {client : Clients.Settings MemoryFile}
  {server : Servers.Settings δ} {request : ReceivedTftpRequest} {serverV : Endpoint}

/-- A write: the client has sent its request, and an operation was started for it. -/
def Transfer.write (client : Clients.Settings MemoryFile) (server : Servers.Settings δ)
    (request : ReceivedTftpRequest) (serverV : Endpoint) :
    Transfer (Servers.WriteOperationImpl δ) (Clients.WriteOperationImpl MemoryFile) :=
  .started serverV request.remote
    ((Servers.WriteOperationImpl.configured (server.answering request)).start {})
    ((Clients.WriteOperationImpl.configured client).request {})

/-- The options that the server of a write acknowledges, with the additional ones. -/
def writeAnswer (server : Servers.Settings δ) (request : ReceivedTftpRequest) : Options :=
  (writeAcknowledged server request).onto server.additionalNegotiatedOptions

/-- What a write is about. -/
def writeSession (client : Clients.Settings MemoryFile) (server : Servers.Settings δ)
    (request : ReceivedTftpRequest) : Session where
  file := client.dataHandler.dataV
  dataSize := negotiatedDataSize server.optionsConfiguration request.clientOptions
  offer := none
  answer := if (writeAnswer server request).isEmpty then none else some (writeAnswer server request)

omit [ReceiveDataHandler δ] in
theorem answer_eq_some {options : Options}
    (h : (writeSession client server request).answer = some options) :
    options = writeAnswer server request ∧ (writeAnswer server request).isEmpty = false := by
  rw [writeSession] at h
  dsimp only at h
  split_ifs at h with hempty
  exact ⟨(Option.some.inj h).symm, Bool.eq_false_iff.mpr hempty⟩

omit [ReceiveDataHandler δ] in
theorem valid_writeSession (hserver : server.optionsConfiguration.BlockSizeInRange)
    (hadd : server.additionalNegotiatedOptions.Unobtrusive)
    (hrequest : request.clientOptions.InRange) : (writeSession client server request).Valid where
  dataSize_pos := negotiatedDataSize_pos hserver hrequest
  offered options ho := by cases ho
  answered options ho := by
    obtain ⟨rfl, hset⟩ := answer_eq_some ho
    exact acknowledges_onto rfl (inRange_acknowledged hserver hrequest _) hadd hset
  one_side := (by rintro ⟨⟩)

variable (client) in
omit [ReceiveDataHandler δ] in
/-- The first packet of the server is the answer to the request. -/
theorem firstPacket_eq : (Servers.WriteOperationImpl.configured
    (server.answering request)).firstPacket = (writeSession client server request).ack 0 := by
  have hoptions : (Servers.WriteOperationImpl.configured
      (server.answering request)).acknowledgedOptions = writeAnswer server request :=
    Servers.WriteOperationImpl.acknowledgedOptions_eq _
  rw [Servers.WriteOperationImpl.firstPacket, hoptions, Session.ack, writeSession]
  dsimp only
  split_ifs <;> rfl

variable (server request) in
omit [ReceiveDataHandler δ] in
/-- **The client of a write is a sender** that waits for the answer to its request. -/
theorem sends_request (hadd : server.additionalNegotiatedOptions.Unobtrusive)
    (hsource : client.dataHandler.operationV = .transmit)
    (haddress : serverV.address = client.remote.address) (hport : serverV ≠ client.remote) :
    ((Clients.WriteOperationImpl.configured client).request {}).Settled ∧
      Sends (writeSession client server request) serverV
        ((Clients.WriteOperationImpl.configured client).request {}).view 0
        ((Clients.WriteOperationImpl.configured client).request {}).phase
        ((Clients.WriteOperationImpl.configured client).request {}).view ∧
      ((Clients.WriteOperationImpl.configured client).request {}).view.buffer = 516 ∧
      ∃ calls rawPacket, (∀ a ∈ calls, a.IsCall) ∧ Packet.packetType rawPacket ≠ .error ∧
        ((Clients.WriteOperationImpl.configured client).request {}).actions =
          calls ++ [.send rawPacket client.remote] := by
  have hidle := Clients.WriteOperationImpl.idle_configured client
  have hcalls := (Clients.WriteOperationImpl.configured client).isCall_announced
  have hstart : (Clients.WriteOperationImpl.configured client).announced.2.1 =
      client.dataHandler.start := by
    rw [Clients.WriteOperationImpl.announced]
    split_ifs <;> rfl
  have hafter : (Clients.WriteOperationImpl.configured client).announced.2.1.After
      client.dataHandler.dataV (writeSession client server request).dataSize.toNat 0 := by
    rw [hstart]
    exact MemoryFile.start_after hsource
  have hnot : Packet.packetType (Packet.writeRequest client.filename client.mode
      (Clients.WriteOperationImpl.configured client).requestOptions).encode ≠ .error := by
    rw [Packet.packetType_encode]
    rintro ⟨⟩
  have hphase : (Clients.WriteOperationImpl.configured client).requested.phase =
      .requesting serverV.address := by
    rw [haddress]
    rfl
  rw [Clients.WriteOperationImpl.request_eq hidle]
  refine ⟨⟨rfl, rfl, _, rfl⟩, ?_, rfl, _, _, hcalls, hnot, rfl⟩
  rw [hphase]
  refine ⟨Or.inl ⟨rfl, hport.symm, rfl⟩, rfl, Or.inl ⟨rfl, Or.inl rfl⟩, ?_, ?_, hafter,
    by rintro ⟨⟩, hnot, ⟨rfl, rfl, rfl, rfl, rfl⟩⟩
  · -- without an acknowledgement of options no block size is negotiated
    rcases hempty : (writeAnswer server request).isEmpty with _ | _
    · exact Or.inr ⟨rfl, by simp [writeSession, hempty], rfl⟩
    · have hnone := (isSet_eq_false (TftpOptions.isEmpty_onto hadd.lacks hempty)).1
      refine Or.inl (Eq.symm ?_)
      show (writeAcknowledged server request).blockSize.getD defaultDataSize = defaultDataSize
      rw [hnone, Option.getD_none]
  · exact (decide_eq_false (writeSession client server request).not_lastBlock_le_zero).symm

variable (client server request) in
/-- **The server of a write is a receiver** that has answered the request, unless its data handler
has refused the size of the file. -/
theorem receives_start :
    ((Servers.WriteOperationImpl.configured (server.answering request)).start {}).Settled ∧
      ∃ calls, (∀ a ∈ calls, a.IsCall) ∧ deliveries calls = [] ∧
        (Receives (writeSession client server request) request.remote
            ((Servers.WriteOperationImpl.configured (server.answering request)).start {}).view 0
            ((Servers.WriteOperationImpl.configured (server.answering request)).start {}).phase
            ((Servers.WriteOperationImpl.configured (server.answering request)).start {}).view ∧
          ((Servers.WriteOperationImpl.configured (server.answering request)).start {}).phase =
            .waiting request.remote ∧
          ((Servers.WriteOperationImpl.configured (server.answering request)).start {}).actions =
            calls ++ [.send ((writeSession client server request).ack 0).encode request.remote] ∨
        (∃ size, server.offered request = some size ∧ (ReceiveDataHandler.receivedTransferSize
            (DataHandler.start server.dataHandler) size).1 = false) ∧
          ((Servers.WriteOperationImpl.configured (server.answering request)).start {}).phase =
            .done ∧
          ∃ code message reports,
            ((Servers.WriteOperationImpl.configured (server.answering request)).start {}).actions =
              calls ++ [.send (Packet.error code message).encode request.remote] ++
                Action.completion reports .transferError) := by
  have hidle := Servers.WriteOperationImpl.idle_configured (server.answering request)
  have hready := Servers.OperationImpl.ready_connected hidle
    (Servers.WriteOperationImpl.configured (server.answering request)).negotiatedReceiveTimeout
  obtain ⟨accepted, state, calls, heq, hcalls⟩ := hready.offerTransferSize_called
    (Servers.WriteOperationImpl.configured (server.answering request)).offeredTransferSize
  have hstart := Servers.WriteOperationImpl.start_eq hidle
  have hcalls' : ∀ a ∈ Action.start :: calls, a.IsCall := by
    rcases hcalls with rfl | ⟨n, rfl⟩ <;> simp [Action.IsCall]
  have hdel : deliveries (Action.start :: calls) = [] := by
    rcases hcalls with rfl | ⟨n, rfl⟩ <;> rfl
  simp only [heq] at hstart
  rw [hstart]
  cases accepted with
  | true =>
    obtain ⟨hset, hphase, hact, hpacket, -, hsame⟩ := (hready.called state calls).sendAndReceive
      (Servers.WriteOperationImpl.configured (server.answering request)).firstPacket
    rw [firstPacket_eq client] at hset hphase hact hpacket hsame ⊢
    refine ⟨hset, .start :: calls, hcalls', hdel, Or.inl ⟨?_, hphase, hact⟩⟩
    have hne : Packet.packetType ((writeSession client server request).ack 0).encode ≠ .error := by
      rw [Packet.packetType_encode]
      exact (writeSession client server request).ack_type_ne 0
    rw [← hpacket.1] at hne
    exact ⟨Or.inr (Or.inl hphase), rfl, fun _ => hpacket.1, hne, Or.inl rfl, ⟨rfl, rfl, rfl, rfl⟩⟩
  | false =>
    obtain ⟨hset, hphase, hact, -⟩ := (hready.called state calls).reject
      .diskFullOrAllocationExceeds "File to big" .transferError
    refine ⟨hset, .start :: calls, hcalls', hdel, Or.inr ⟨?_, hphase, _, _, _,
      hact.trans (List.append_assoc _ _ _).symm⟩⟩
    by_contra hnone
    have haccepted := hready.offerTransferSize_accepted 
      fun size (hsize : server.offered request = some size) => by
        by_contra hrefused
        exact hnone ⟨size, hsize, Bool.eq_false_iff.mpr hrefused⟩
    cases haccepted.symm.trans (congrArg Prod.fst heq)

variable (server request) in
/-- **A write starts in step.** -/
theorem linked_write (hadd : server.additionalNegotiatedOptions.Unobtrusive)
    (hsource : client.dataHandler.operationV = .transmit)
    (haddress : serverV.address = client.remote.address) (hport : serverV ≠ client.remote) :
    Linked (writeSession client server request) serverV request.remote
        (Transfer.write client server request serverV).receiver.view
        (Transfer.write client server request serverV).sender.view
        (Transfer.write client server request serverV) 0 0 ∧
      (Transfer.write client server request serverV).sender.view.buffer = 516 ∧
      (Transfer.write client server request serverV).toReceiver = [] ∧
      Flawless (Transfer.write client server request serverV).senderActions ∧
      ((Transfer.write client server request serverV).toSender =
          [((writeSession client server request).ack 0).encode] ∧
        Flawless (Transfer.write client server request serverV).receiverActions ∨
      (∃ size, server.offered request = some size ∧ (ReceiveDataHandler.receivedTransferSize
          (DataHandler.start server.dataHandler) size).1 = false) ∧
        ∀ rawPacket ∈ (Transfer.write client server request serverV).toSender,
          IsError rawPacket) := by
  obtain ⟨hset, hsends, hbuffer, calls, rawPacket, hcalls, hnot, hact⟩ :=
    sends_request server request hadd hsource haddress hport
  obtain ⟨hset', calls', hcalls', hdel, hcases⟩ :=
    receives_start client server request
  have hnil : sentTo serverV ((Clients.WriteOperationImpl.configured client).request {}).actions =
      [] := by
    rw [hact, sentTo_calls_append hcalls, sentTo_cons_none (by simp [Action.sentTo, hport.symm])]
    rfl
  have hsuccess : .finished .successful ∉
      ((Clients.WriteOperationImpl.configured client).request {}).actions := by
    rw [hact]
    intro hs
    rw [finished_mem_calls_append hcalls] at hs
    simp at hs
  have hflawless :
      Flawless ((Clients.WriteOperationImpl.configured client).request {}).actions := by
    rw [hact]
    exact (flawless_calls hcalls).append (flawless_send hnot client.remote)
  rcases hcases with ⟨hreceives, hphase, hact'⟩ | ⟨hrefused, hphase, code, message, reports, hact'⟩
  · -- the server waits for the first block
    refine ⟨Linked.started hset' hset (fun _ => hreceives) (fun _ => hsends) ?_ ⟨?_, hsuccess⟩
      (Nat.zero_le 1) ?_, hbuffer, hnil, hflawless, Or.inl ⟨?_, ?_⟩⟩
    · show deliveries
        ((Servers.WriteOperationImpl.configured (server.answering request)).start {}).actions = []
      rw [hact', deliveries_append, hdel, deliveries_send]
      rfl
    · show _ ∉ ((Servers.WriteOperationImpl.configured (server.answering request)).start {}).actions
      rw [hact']
      intro hs
      rw [finished_mem_calls_append hcalls'] at hs
      simp at hs
    · intro hrequesting
      cases hphase.symm.trans hrequesting
    · show sentTo request.remote
        ((Servers.WriteOperationImpl.configured (server.answering request)).start {}).actions = _
      rw [hact', sentTo_calls_append hcalls', sentTo_send]
      rfl
    · show Flawless
        ((Servers.WriteOperationImpl.configured (server.answering request)).start {}).actions
      rw [hact']
      refine (flawless_calls hcalls').append (flawless_send ?_ request.remote)
      rw [Packet.packetType_encode]
      exact (writeSession client server request).ack_type_ne 0
  · -- the server has refused the file
    refine ⟨Linked.started hset' hset (fun hne => absurd hphase hne) (fun _ => hsends) ?_
      ⟨?_, hsuccess⟩ (Nat.zero_le 1) ?_, hbuffer, hnil, hflawless, Or.inr ⟨hrefused, ?_⟩⟩
    · show deliveries
        ((Servers.WriteOperationImpl.configured (server.answering request)).start {}).actions = []
      rw [hact', deliveries_append, deliveries_append, hdel, deliveries_send]
      exact deliveries_completion _ _
    · show _ ∉ ((Servers.WriteOperationImpl.configured (server.answering request)).start {}).actions
      rw [hact']
      intro hs
      rw [List.append_assoc, finished_mem_calls_append hcalls'] at hs
      rcases List.mem_cons.mp hs with hs | hs
      · cases hs
      · cases finished_completion hs
    · intro hrequesting
      cases hphase.symm.trans hrequesting
    · show ∀ rawPacket ∈ sentTo request.remote
        ((Servers.WriteOperationImpl.configured (server.answering request)).start {}).actions, _
      rw [hact', sentTo_append, sentTo_calls_append hcalls', sentTo_send, sentTo_completion]
      intro rawPacket hmem
      exact ⟨code, message, by simpa using hmem⟩

variable (client server request serverV) in
/-- What the client of a write brings along. -/
theorem view_write :
    (Transfer.write client server request serverV).sender.view.negotiation =
        client.optionNegotiationHandler ∧
      (Transfer.write client server request serverV).sender.view.configuration =
        client.optionsConfiguration ∧
      (Transfer.write client server request serverV).sender.view.transferSize =
        client.announced := by
  have heq : (Transfer.write client server request serverV).sender =
    (Clients.WriteOperationImpl.configured client).request {} := rfl
  rw [heq,
    Clients.WriteOperationImpl.request_eq (Clients.WriteOperationImpl.idle_configured client)]
  refine ⟨rfl, rfl, ?_⟩
  show (if client.optionsConfiguration.handleTransferSizeOption then
    (Clients.WriteOperationImpl.configured client).announced.1 else none) = _
  rw [announced_write, Clients.Settings.announced]
  split_ifs <;> rfl

/-- The receive buffer of the server is what it was configured to. -/
theorem buffer_write : (Transfer.write client server request serverV).receiver.view.buffer =
    (Servers.WriteOperationImpl.configured (server.answering request)).receivePacketV := by
  have hidle := Servers.WriteOperationImpl.idle_configured (server.answering request)
  have hready := Servers.OperationImpl.ready_connected hidle
    (Servers.WriteOperationImpl.configured (server.answering request)).negotiatedReceiveTimeout
  obtain ⟨accepted, state, calls, heq, -⟩ := hready.offerTransferSize_called
    (Servers.WriteOperationImpl.configured (server.answering request)).offeredTransferSize
  have hstart := Servers.WriteOperationImpl.start_eq hidle
  simp only [heq] at hstart
  show
    ((Servers.WriteOperationImpl.configured (server.answering request)).start {}).receivePacketV = _
  rw [hstart]
  cases accepted with
  | true =>
    obtain ⟨-, -, -, -, -, hsame⟩ := (hready.called state calls).sendAndReceive
      (Servers.WriteOperationImpl.configured (server.answering request)).firstPacket
    exact hsame.buffer
  | false =>
    obtain ⟨-, -, -, -, hsame⟩ := (hready.called state calls).reject
      .diskFullOrAllocationExceeds "File to big" .transferError
    exact hsame.buffer

/-- What both sides of a write bring along. -/
theorem equipped_write (hserver : server.optionsConfiguration.BlockSizeInRange)
    (hadd : server.additionalNegotiatedOptions.Unobtrusive)
    (hrequest : request.clientOptions.InRange)
    (hkeeps : (Transfer.write client server request serverV).sender.view.KeepsFile)
    (hbuffer : (Transfer.write client server request serverV).sender.view.buffer = 516) :
    Equipped (writeSession client server request)
      (Transfer.write client server request serverV).receiver.view
      (Transfer.write client server request serverV).sender.view where
  valid := valid_writeSession hserver hadd hrequest
  receiver_buffer := by
    obtain ⟨hmin, hmax⟩ := le_receiveBuffer hserver
    rw [buffer_write]
    exact ⟨hmin, hmax _ negotiatedDataSize_le.2⟩
  sender_buffer := hbuffer.ge
  keepsFile := hkeeps

end Write

/-! ### Writing a file into a file -/

section WriteFile

variable {client : Clients.Settings MemoryFile} {server : Servers.Settings MemoryFile}
  {request : ReceivedTftpRequest} {serverV : Endpoint}

/-- The client of a write accepts what the server acknowledges. -/
theorem agreeing_write (hclient : client.optionsConfiguration.BlockSizeInRange)
    (htimeout : client.optionsConfiguration.TimeoutInRange)
    (hhandler : client.optionNegotiationHandler = none) (hserver : server.Negotiable)
    (hrequest : request.clientOptions = client.writeOptions)
    (hbuffer : (Transfer.write client server request serverV).sender.view.buffer = 516) :
    Agreeing (Servers.WriteOperationImpl MemoryFile) (Clients.WriteOperationImpl MemoryFile)
      (writeSession client server request) serverV request.remote
      (Transfer.write client server request serverV).receiver.view
      (Transfer.write client server request serverV).sender.view := by
  have hadd : server.additionalNegotiatedOptions.Unobtrusive := by
    rw [hserver.additional]
    exact Options.unobtrusive_empty
  have hrange : request.clientOptions.InRange := by
    rw [hrequest]
    exact inRange_requestedOptions hclient htimeout
  obtain ⟨hnegotiation, hconfiguration, htransferSize⟩ :=
    view_write client server request serverV
  rw [hhandler] at hnegotiation
  have hkeeps : (Transfer.write client server request serverV).sender.view.KeepsFile := by
    intro g hg
    cases hnegotiation.symm.trans hg
  have hequipped := equipped_write hserver.blockSize hadd hrange hkeeps hbuffer
  refine ⟨hequipped, rfl, hnegotiation, by rintro ⟨⟩, fun hanswer s hset hsends => ?_⟩
  obtain ⟨options, ho⟩ := Option.isSome_iff_exists.mp hanswer
  obtain ⟨rfl, hsome⟩ := answer_eq_some ho
  have hack : (writeSession client server request).ack 0 =
      .optionsAcknowledgement (writeAnswer server request) := by
    rw [Session.ack, ho]
  rw [writeAnswer, hserver.additional] at hack hsome
  obtain ⟨lastEndpoint, hready, heq⟩ := Operation.peerStep_admitted hset hsends.admits
    ((writeSession client server request).ack 0).encode
  have hpacket := Session.packet_ack hequipped.valid 0 hequipped.sender_buffer
  rw [← hsends.kept.buffer] at hpacket
  -- the client is still as it was when it sent its request
  have hreceived : s.lastReceivedBlockNumber = 0xFFFF := by
    rcases hsends.received_eq with ⟨hsentinel, -⟩ | ⟨a, ha, -⟩
    · exact hsentinel
    · cases ha
  have hnone : s.optionNegotiationHandlerV = none := hsends.kept.negotiation.trans hnegotiation
  have hsame : s.optionsConfigurationV = client.optionsConfiguration :=
    hsends.kept.configuration.trans hconfiguration
  have hsize : s.transferSize = client.announced := hsends.kept.transferSize.trans htransferSize
  have hacc := acceptable_write server htimeout hrequest
  rw [← hsame, ← hsize] at hacc
  obtain ⟨s', rfl, hphase, -⟩ :=
    Clients.WriteOperationImpl.optionsAcknowledgementPacket_acceptable
      (s := { s with toOperationImpl := s.toOperationImpl.takenUp serverV lastEndpoint })
      hready hreceived hnone (inRange_acknowledged hserver.blockSize hrange _) hacc hsome
      fun size h => hsize.trans (offered_eq_some hrequest h).2
  have hstep := heq.trans (congrArg (Operation.received _ {}) hpacket)
  rw [hack] at hstep
  rw [hack, hstep]
  show OperationImpl.phase _ ≠ .done
  intro hdone
  cases hphase.symm.trans hdone

/-- **A write over a FIFO network**: as long as no acknowledgement of options gets to the client
after it has sent the first block, the file arrives intact, and nothing goes wrong. -/
theorem write_end_to_end (client : Clients.Settings MemoryFile)
    (server : Servers.Settings MemoryFile) (request : ReceivedTftpRequest) (serverV : Endpoint)
    (hclient : client.optionsConfiguration.BlockSizeInRange)
    (htimeout : client.optionsConfiguration.TimeoutInRange)
    (hhandler : client.optionNegotiationHandler = none) (hserver : server.Negotiable)
    (hsource : client.dataHandler.operationV = .transmit)
    (hrequest : request.clientOptions = client.writeOptions)
    (haddress : serverV.address = client.remote.address) (hport : serverV ≠ client.remote)
    (history : List (Transition (Transfer (Servers.WriteOperationImpl MemoryFile)
      (Clients.WriteOperationImpl MemoryFile)) NetworkEvent))
    (t : Transfer (Servers.WriteOperationImpl MemoryFile) (Clients.WriteOperationImpl MemoryFile))
    (hrun : Run (Transfer.step serverV request.remote)
      (Transfer.write client server request serverV) history t)
    (horder : ∀ u ∈ history, u.event.InOrder)
    (htime : ∀ u ∈ history, OptionsInTime u.pre u.event) :
    t.Intact client.dataHandler.dataV
        (negotiatedDataSize server.optionsConfiguration request.clientOptions).toNat ∧
      Flawless t.receiverActions ∧ Flawless t.senderActions := by
  have hadd : server.additionalNegotiatedOptions.Unobtrusive := by
    rw [hserver.additional]
    exact Options.unobtrusive_empty
  obtain ⟨hlinked, hbuffer, hitems, hsender, hcases⟩ :=
    linked_write server request hadd hsource haddress hport
  have hagree := agreeing_write hclient htimeout hhandler hserver hrequest hbuffer
  -- a file in memory does not refuse anything
  obtain ⟨hacks, hreceiver⟩ := hcases.resolve_right fun ⟨⟨_, _, hrefused⟩, _⟩ => by cases hrefused
  have hstart : LinkedInOrder (writeSession client server request) serverV request.remote
      (Transfer.write client server request serverV).receiver.view
      (Transfer.write client server request serverV).sender.view
      (Transfer.write client server request serverV) 0 0 :=
    ⟨hlinked, ⟨[], [0], (StopAndWait.Fifo.start hlinked.in_step).reack, hitems, hacks, by simp⟩,
      hreceiver, hsender⟩
  obtain ⟨n', k', h⟩ := linkedInOrder_run hagree hstart hrun horder fun _ => htime
  exact ⟨h.linked.intact hagree.valid, h.receiver_flawless, h.sender_flawless⟩

/-- A client that writes a file of nine bytes, in blocks of eight if the server agrees. -/
def smallWriter : Clients.Settings MemoryFile :=
  { dataHandler := .ofData [97, 98, 99, 100, 101, 102, 103, 104, 105]
    optionsConfiguration := { blockSizeOption := some 8 } }

/-- A server that agrees. -/
def smallSink : Servers.Settings MemoryFile :=
  { dally := true, dataHandler := .empty, optionsConfiguration := { blockSizeOption := some 16 } }

/-- What that server is told of the request of that client. -/
def smallWriteRequest : ReceivedTftpRequest :=
  ⟨{ port := 2 }, .write, [], .octet, smallWriter.writeOptions, SortedMap.empty⟩

/-- A write of two blocks that gets to the state after the given events. -/
def smallWrite (es : List NetworkEvent) :
    List (Transition (Transfer (Servers.WriteOperationImpl MemoryFile)
      (Clients.WriteOperationImpl MemoryFile)) NetworkEvent) ×
      Transfer (Servers.WriteOperationImpl MemoryFile) (Clients.WriteOperationImpl MemoryFile) :=
  replay (Transfer.step { port := 1 } { port := 2 })
    (Transfer.write smallWriter smallSink smallWriteRequest { port := 1 }) es

/-- The first block gets lost, and its acknowledgement is delivered twice. -/
def lossyWrite : List NetworkEvent :=
  [.toSender 0 false, .loseToReceiver 0, .senderTimeout, .toReceiver 0 false, .toSender 0 true,
    .toSender 0 false, .toReceiver 0 false, .toSender 0 false, .receiverTimeout]

/-- Two blocks arrive nevertheless. -/
theorem write_end_to_end_two_blocks :
    ((smallWrite lossyWrite).2.Intact [97, 98, 99, 100, 101, 102, 103, 104, 105] 8 ∧
      Flawless (smallWrite lossyWrite).2.receiverActions ∧
      Flawless (smallWrite lossyWrite).2.senderActions) ∧
      .finished .successful ∈ (smallWrite lossyWrite).2.receiverActions ∧
      .finished .successful ∈ (smallWrite lossyWrite).2.senderActions := by
  refine ⟨write_end_to_end smallWriter smallSink smallWriteRequest { port := 1 } ?_ ?_ rfl ⟨?_, rfl⟩
    rfl rfl rfl (by decide) _ _ (Run.of_replay _ _ _) (Run.forall_replay (by decide)) ?_,
    by decide⟩
  · rintro b ⟨⟩
    decide
  · rintro t ⟨⟩
  · rintro b ⟨⟩
    decide
  · decide

/-- The server times out, and acknowledges the options again. -/
def secondAcknowledgement : List NetworkEvent :=
  [.receiverTimeout, .toSender 0 false, .toSender 0 false, .toReceiver 0 false, .toSender 0 false]

/-- **A second acknowledgement of the options makes a write fail**: the client takes it for that of
the first block, and then it does not expect the true one any more. -/
theorem write_fails_on_second_acknowledgement :
    Run (Transfer.step { port := 1 } { port := 2 })
        (Transfer.write smallWriter smallSink smallWriteRequest { port := 1 })
        (smallWrite secondAcknowledgement).1 (smallWrite secondAcknowledgement).2 ∧
      (∀ u ∈ (smallWrite secondAcknowledgement).1, u.event.InOrder) ∧
      ¬ Flawless (smallWrite secondAcknowledgement).2.senderActions := by
  refine ⟨Run.of_replay _ _ _, Run.forall_replay (by decide), fun h => ?_⟩
  have hfailed : .finished .transferError ∈
    (smallWrite secondAcknowledgement).2.senderActions := by decide
  exact absurd (h.status _ hfailed) (by decide)

end WriteFile

end Tftp
