import Tftp.WriteTransfer

/-!
# Integrity on an unordered network

Everything that was ever sent may arrive, in any order and any number of times. A transfer may
fail then, but as long as block numbers do not roll over it never reports success on wrong data
(`Tftp.intact_under_reordering`). This needs neither that the two sides accept one another's
options nor that the data handler of the receiver accepts the file.
-/

namespace Tftp

open Protocol Clients Servers Operation

section Integrity

variable {δ : Type} [ReceiveDataHandler δ]

/-- **A read over an unordered network** leaves the file intact. -/
theorem read_intact (client : Clients.Settings δ) (server : Servers.Settings MemoryFile)
    (request : ReceivedTftpRequest) (serverV : Endpoint)
    (hclient : client.optionsConfiguration.BlockSizeInRange)
    (htimeout : client.optionsConfiguration.TimeoutInRange)
    (hserver : server.optionsConfiguration.BlockSizeInRange)
    (hadd : server.additionalNegotiatedOptions.Unobtrusive)
    (hsource : server.dataHandler.operationV = .transmit)
    (hrequest : request.clientOptions = client.readOptions)
    (haddress : serverV.address = client.remote.address) (hport : serverV ≠ client.remote)
    (hsmall : (readSession server request).lastBlock < 65535)
    {history : List (Transition (Transfer (Clients.ReadOperationImpl δ)
      (Servers.ReadOperationImpl MemoryFile)) NetworkEvent)}
    {t : Transfer (Clients.ReadOperationImpl δ) (Servers.ReadOperationImpl MemoryFile)}
    (hrun : Run (Transfer.step request.remote serverV)
      (Transfer.read client server request serverV) history t) :
    t.Intact server.dataHandler.dataV
      (negotiatedDataSize server.optionsConfiguration request.clientOptions).toNat := by
  have hrange : request.clientOptions.InRange := by
    rw [hrequest]
    exact inRange_requestedOptions hclient htimeout
  have hzero : request.clientOptions.transferSize = none ∨
      request.clientOptions.transferSize = some 0 := by
    rw [hrequest]
    exact client.transferSize_readOptions
  obtain ⟨k, hlinked, hoffer, hbuffer, hitems, hacks, -, -⟩ :=
    linked_read hserver hadd hrange hzero hsource haddress hport
  have hequipped := equipped_read hclient hserver hadd hrange
    (congrArg TftpOptions.blockSize hrequest) hbuffer
  -- the first packet of the server is under way
  have hstart : LinkedUnordered (readSession server request) request.remote serverV
      (Transfer.read client server request serverV).receiver.view
      (Transfer.read client server request serverV).sender.view
      (Transfer.read client server request serverV) 0 k := by
    refine ⟨hlinked, insert k ∅, ∅, ?_, fun rawPacket hmem => Or.inl ⟨k, by simp, ?_⟩, ?_,
      fun hmem => ?_⟩
    · exact (StopAndWait.Unordered.start hlinked.in_step).resend
    · rw [hitems] at hmem
      exact List.mem_singleton.mp hmem
    · rw [hacks]
      rintro _ ⟨⟩
    · exact hoffer (by simpa using hmem : 0 = k).symm
  obtain ⟨n', k', h⟩ := linkedUnordered_run hequipped hsmall rfl hstart hrun
  exact h.linked.intact hequipped.valid

/-- **A write over an unordered network** leaves the file intact, if no options are
acknowledged. -/
theorem write_intact (client : Clients.Settings MemoryFile) (server : Servers.Settings δ)
    (request : ReceivedTftpRequest) (serverV : Endpoint)
    (hclient : client.optionsConfiguration.BlockSizeInRange)
    (htimeout : client.optionsConfiguration.TimeoutInRange)
    (hserver : server.optionsConfiguration.BlockSizeInRange)
    (hadd : server.additionalNegotiatedOptions.Unobtrusive)
    (hsource : client.dataHandler.operationV = .transmit)
    (hkeeps : ∀ g, client.optionNegotiationHandler = some g →
      ∀ handler options, (g handler options).2.2 = handler)
    (hrequest : request.clientOptions = client.writeOptions)
    (haddress : serverV.address = client.remote.address) (hport : serverV ≠ client.remote)
    (hempty : (writeAnswer server request).isEmpty)
    (hsmall : (writeSession client server request).lastBlock < 65535)
    {history : List (Transition (Transfer (Servers.WriteOperationImpl δ)
      (Clients.WriteOperationImpl MemoryFile)) NetworkEvent)}
    {t : Transfer (Servers.WriteOperationImpl δ) (Clients.WriteOperationImpl MemoryFile)}
    (hrun : Run (Transfer.step serverV request.remote)
      (Transfer.write client server request serverV) history t) :
    t.Intact client.dataHandler.dataV
      (negotiatedDataSize server.optionsConfiguration request.clientOptions).toNat := by
  have hrange : request.clientOptions.InRange := by
    rw [hrequest]
    exact inRange_requestedOptions hclient htimeout
  obtain ⟨hlinked, hbuffer, hitems, -, hcases⟩ :=
    linked_write server request hadd hsource haddress hport
  have hequipped := equipped_write hserver hadd hrange
    (fun g hg => hkeeps g ((view_write client server request serverV).1.symm.trans hg)) hbuffer
  have hanswer : (writeSession client server request).answer = none := if_pos hempty
  -- block zero is acknowledged, or the file is refused
  have hstart : LinkedUnordered (writeSession client server request) serverV request.remote
      (Transfer.write client server request serverV).receiver.view
      (Transfer.write client server request serverV).sender.view
      (Transfer.write client server request serverV) 0 0 := by
    refine ⟨hlinked, ∅, insert 0 ∅, ?_, ?_, fun rawPacket hmem => ?_, by simp⟩
    · exact (StopAndWait.Unordered.start hlinked.in_step).reack
    · rw [hitems]
      rintro _ ⟨⟩
    · rcases hcases with ⟨hacks, -⟩ | ⟨-, herrors⟩
      · rw [hacks] at hmem
        exact Or.inl ⟨0, by simp, List.mem_singleton.mp hmem⟩
      · exact Or.inr (herrors rawPacket hmem)
  obtain ⟨n', k', h⟩ := linkedUnordered_run hequipped hsmall hanswer hstart hrun
  exact h.linked.intact hequipped.valid

end Integrity

/-- **Integrity under reordering**: over an unordered network, a read, and a write that is opened
with the acknowledgement of block zero, leave the file intact as long as its blocks can be told
apart. -/
theorem intact_under_reordering :
    (∀ (δ : Type) [ReceiveDataHandler δ] (client : Clients.Settings δ)
      (server : Servers.Settings MemoryFile) (request : ReceivedTftpRequest) (serverV : Endpoint),
      client.optionsConfiguration.BlockSizeInRange → client.optionsConfiguration.TimeoutInRange →
      server.optionsConfiguration.BlockSizeInRange →
      server.additionalNegotiatedOptions.Unobtrusive →
      server.dataHandler.operationV = .transmit →
      request.clientOptions = client.readOptions →
      serverV.address = client.remote.address → serverV ≠ client.remote →
      (readSession server request).lastBlock < 65535 →
      ∀ history t, Run (Transfer.step request.remote serverV)
        (Transfer.read client server request serverV) history t →
        t.Intact server.dataHandler.dataV
          (negotiatedDataSize server.optionsConfiguration request.clientOptions).toNat) ∧
    (∀ (δ : Type) [ReceiveDataHandler δ] (client : Clients.Settings MemoryFile)
      (server : Servers.Settings δ) (request : ReceivedTftpRequest) (serverV : Endpoint),
      client.optionsConfiguration.BlockSizeInRange → client.optionsConfiguration.TimeoutInRange →
      server.optionsConfiguration.BlockSizeInRange →
      server.additionalNegotiatedOptions.Unobtrusive →
      client.dataHandler.operationV = .transmit →
      (∀ g, client.optionNegotiationHandler = some g →
        ∀ handler options, (g handler options).2.2 = handler) →
      request.clientOptions = client.writeOptions →
      serverV.address = client.remote.address → serverV ≠ client.remote →
      (writeAnswer server request).isEmpty →
      (writeSession client server request).lastBlock < 65535 →
      ∀ history t, Run (Transfer.step serverV request.remote)
        (Transfer.write client server request serverV) history t →
        t.Intact client.dataHandler.dataV
          (negotiatedDataSize server.optionsConfiguration request.clientOptions).toNat) :=
  ⟨fun _ _ client server request serverV hclient htimeout hserver hadd hsource hrequest haddress
      hport hsmall _ _ hrun => read_intact client server request serverV hclient htimeout hserver
        hadd hsource hrequest haddress hport hsmall hrun,
    fun _ _ client server request serverV hclient htimeout hserver hadd hsource hkeeps hrequest
      haddress hport hempty hsmall _ _ hrun => write_intact client server request serverV hclient
        htimeout hserver hadd hsource hkeeps hrequest haddress hport hempty hsmall hrun⟩

/-- The first block is delivered again after the second one. -/
def reorderedRead : List NetworkEvent :=
  [.toReceiver 0 true, .toSender 0 true, .toReceiver 1 true, .toSender 1 true, .toReceiver 2 true,
    .toReceiver 1 true]

/-- A client that writes without any options. -/
def plainWriter : Clients.Settings MemoryFile := { dataHandler := .ofData [97] }

/-- What a server is told of its request. -/
def plainWriteRequest : ReceivedTftpRequest :=
  ⟨{ port := 2 }, .write, [], .octet, plainWriter.writeOptions, SortedMap.empty⟩

/-- The acknowledgement of block zero is delivered again after the end. -/
def reorderedWrite : List NetworkEvent :=
  [.toSender 0 true, .toReceiver 0 true, .toSender 1 true, .toSender 0 true]

/-- A read of two blocks fails on the old block, and a write of one block succeeds; both leave the
file intact. -/
theorem intact_under_reordering_two_blocks :
    ((replay (Transfer.step { port := 2 } { port := 1 })
      (Transfer.read smallReader smallSource smallReadRequest { port := 1 })
        reorderedRead).2.Intact [97, 98, 99, 100, 101, 102, 103, 104, 105] 8 ∧
      .finished .transferError ∈ (replay (Transfer.step { port := 2 } { port := 1 })
        (Transfer.read smallReader smallSource smallReadRequest { port := 1 })
          reorderedRead).2.receiverActions) ∧
    (replay (Transfer.step { port := 1 } { port := 2 })
      (Transfer.write plainWriter smallSink plainWriteRequest { port := 1 })
        reorderedWrite).2.Intact [97] 512 ∧
      .finished .successful ∈ (replay (Transfer.step { port := 1 } { port := 2 })
        (Transfer.write plainWriter smallSink plainWriteRequest { port := 1 })
          reorderedWrite).2.senderActions := by
  refine ⟨⟨intact_under_reordering.1 MemoryFile smallReader smallSource smallReadRequest
    { port := 1 } ?_ ?_ ?_ Options.unobtrusive_empty rfl rfl rfl (by decide) (by decide) _ _
      (Run.of_replay _ _ _), by decide⟩,
    intact_under_reordering.2 MemoryFile plainWriter smallSink plainWriteRequest { port := 1 } ?_ ?_
      ?_ Options.unobtrusive_empty rfl (by rintro g ⟨⟩) rfl rfl (by decide) rfl (by decide) _ _
        (Run.of_replay _ _ _), by decide⟩
  · rintro b ⟨⟩
    decide
  · rintro t ⟨⟩
  · rintro b ⟨⟩
    decide
  · rintro b ⟨⟩
  · rintro t ⟨⟩
  · rintro b ⟨⟩
    decide

end Tftp
