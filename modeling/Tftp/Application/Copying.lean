import Tftp.Application.TftpClient
import Tftp.Exchanged
import Tftp.Integrity
import Tftp.Storing

/-!
# Copying a file from disk to disk

The two applications together: a file below the base directory of `tftp_server` is read by
`tftp_client` into a local file (`Tftp.tftp_download`), or a local file is written to the server
(`Tftp.tftp_upload`). What is known of transfers from a file in memory is carried over to files on
the disk: the data handlers answer alike (`Tftp.StreamFile.source`, `Tftp.StreamFile.sink`), so the
operations on both sides and the network do the same with either
(`Tftp.Transfer.Exchanged.step`).

A source answers like a file in memory as long as it is read to its end, block by block. A sink is
another matter, since the disk may fail, and it does not say so. What it answers does not depend on
that, so that it can be exchanged for a handler that only keeps what it has been given, together
with the file that it writes (`Tftp.Storage`); what is on the disk is then read off that file
(`Tftp.copied_transfer`). It is a part of what was sent in any case, and all of it exactly if
neither a write nor the flush has failed (`Tftp.StreamFile.Spared`); the status that is reported
does not depend on that.

The requests are those that the client application sends, and the operations those that the request
handler of the server application starts for them. Between the two there is the listening server:
a request has to fit into its buffer, and is decoded there.
-/

namespace Tftp

open Protocol Clients Servers Operation

/-! ### Files on the disk and in memory -/

namespace StreamFile

/-- **A file on the disk and one in memory hold the same**, and stand at the same place. -/
structure SameSource (file : StreamFile) (memory : MemoryFile) : Prop where
  isOpen : file.streamV.isOpen = true
  contents : file.streamV.contents = memory.dataV
  position : file.streamV.position = memory.dataPtr
  /-- Nothing has failed but a read at the end of the file. -/
  failed : file.streamV.failed = true → memory.dataPtr = memory.dataV.length
  size : file.sizeV = some (UInt64.ofNat memory.dataV.length)

/-- A file on the disk that is read, and one in memory. -/
def source : HandlerRelation StreamFile MemoryFile where
  inUse := SameSource
  always _ _ := True
  always_of_inUse _ := trivial
  finished _ := trivial

/-- Both hand out the same. -/
theorem SameSource.sendData {file : StreamFile} {memory : MemoryFile} (h : SameSource file memory)
    (maxSize : ℕ) : (file.sendData maxSize).1 = (memory.sendData maxSize).1 ∧
      SameSource (file.sendData maxSize).2 (memory.sendData maxSize).2 := by
  have hptr := memory.sendData_dataPtr maxSize
  rw [MemoryFile.sendData_fst]
  cases hstate : file.streamV.failed with
  | true =>
    -- the end of the file has been met, and both stay there
    have hend := h.failed hstate
    rw [hend, Nat.sub_self, Nat.min_zero, Nat.add_zero] at hptr
    rw [StreamFile.sendData, FileStream.read_failed hstate]
    refine ⟨?_, h.isOpen, h.contents, (h.position.trans hend).trans hptr.symm, fun _ => hptr,
      h.size⟩
    rw [hend, List.drop_length, List.take_nil]
  | false =>
    rw [StreamFile.sendData, FileStream.read_eq h.isOpen hstate, h.contents, h.position]
    refine ⟨rfl, h.isOpen, rfl, hptr.symm, fun hshort => ?_, h.size⟩
    have hlt := of_decide_eq_true hshort
    have hle := memory.dataPtr_le
    refine hptr.trans ?_
    change _ = memory.dataV.length
    omega

theorem transmitAlike_source : TransmitAlike source where
  requestedTransferSize h := ⟨h.size, h⟩
  sendData h maxSize := h.sendData maxSize

/-- **A file on the disk that is received**, alone and among what the user's handlers work on. -/
def sink : HandlerRelation StreamFile (Storage Unit) where
  inUse file storage := storage.file = file
  always file storage := storage.file = file
  always_of_inUse h := h
  finished h := congrArg StreamFile.finished h

theorem receiveAlike_sink : ReceiveAlike sink where
  receivedTransferSize := by
    rintro file storage rfl transferSize
    exact ⟨rfl, rfl⟩
  receivedData := by
    rintro file storage rfl data
    rfl

end StreamFile

section Runs

variable {σ τ δ ε : Type} [DataHandler δ] [DataHandler ε] [Operation σ δ] [Operation τ ε]
  {receiverV senderV : Endpoint} {receiver : σ} {sender : τ} {t : Transfer σ τ}
  {history : List (Transition (Transfer σ τ) NetworkEvent)}

/-- **The receiver in a transfer** makes a run of its own. -/
theorem Transfer.receiver_run
    (hrun : Run (Transfer.step receiverV senderV) (.started receiverV senderV receiver sender)
      history t) :
    ∃ events, Run peerStep receiver events t.receiver ∧
      trace actions receiver events = t.receiverActions := by
  have hreact : ∀ {t : Transfer σ τ} (e : PeerEvent),
      (∃ events, Run peerStep receiver events t.receiver ∧
        trace actions receiver events = t.receiverActions) →
      ∃ events, Run peerStep receiver events (t.receiverReacts senderV e).receiver ∧
        trace actions receiver events = (t.receiverReacts senderV e).receiverActions := by
    rintro t e ⟨events, hevents, htrace⟩
    refine ⟨_, hevents.next e, ?_⟩
    rw [trace_concat, htrace]
    rfl
  induction hrun with
  | start => exact ⟨[], .start, trace_nil⟩
  | @next history t e hrun ih =>
    cases e with
    | toReceiver index keep =>
      rw [Transfer.step]
      cases t.toReceiver[index]? with
      | none => exact ih
      | some rawPacket => exact hreact (t := { t with toReceiver := _ }) _ ih
    | toSender index keep =>
      rw [Transfer.step]
      cases t.toSender[index]? with
      | none => exact ih
      | some rawPacket => exact ih
    | loseToReceiver index => exact ih
    | loseToSender index => exact ih
    | receiverTimeout => exact hreact _ ih
    | senderTimeout => exact ih

end Runs

/-! ### What is stored -/

/-- **The file on the disk never holds anything but a part of what was delivered**, whatever fails,
and however the operation ends. -/
theorem isPrefix_contents_fileIn {file : StreamFile} (hoperation : file.operationV = .receive)
    (hclosed : file.streamV.isOpen = false) (p : Phase) (blocks : List RawData) :
    (fileIn p file.start blocks).streamV.contents <+: blocks.flatten := by
  have hstart : file.start.streamV = { isOpen := true, failures := file.streamV.failures } := by
    rw [StreamFile.start, hoperation]
    exact FileStream.openOut_eq hclosed
  obtain ⟨hopen, hcontents, hbuffered⟩ := FileStream.buffered_foldl_write
    (StreamFile.written blocks) file.start.streamV (by rw [hstart])
  rw [StreamFile.flatten_written, hstart, List.nil_append] at hbuffered
  rw [hstart] at hopen hcontents
  rw [fileIn, StreamFile.foldl_receivedData, hstart]
  split_ifs
  · rcases FileStream.contents_flush_close hopen with heq | heq
    · rw [StreamFile.finished, heq, hcontents]
      exact List.nil_prefix
    · rw [StreamFile.finished, heq, hcontents, List.nil_append]
      exact hbuffered
  · rw [hcontents]
    exact List.nil_prefix

/-- **A file has been copied** over a transfer, into the file `stored` that was to be received as
`sink`. -/
structure Copied {σ τ : Type} (file : RawData) (dataSize : ℕ) (sink stored : StreamFile)
    (t : Transfer σ τ) : Prop where
  intact : t.Intact file dataSize
  /-- Nothing else is ever on the disk, whatever fails there. -/
  isPrefix : stored.streamV.contents <+: file
  /-- When the receiver reports success, the file is there exactly if the disk did not fail. -/
  stored_iff : .finished .successful ∈ t.receiverActions →
    (stored.streamV.contents = file ↔ sink.Spared (deliveries t.receiverActions))

/-- The same is copied by a transfer that does the same. -/
theorem Copied.exchanged {σ σ' τ τ' : Type} {P : σ → σ' → Prop} {Q : τ → τ' → Prop}
    {t : Transfer σ τ} {t' : Transfer σ' τ'} {file : RawData} {dataSize : ℕ}
    {sink stored : StreamFile} (h : Copied file dataSize sink stored t')
    (hsame : t.Exchanged P Q t') : Copied file dataSize sink stored t where
  intact := (hsame.intact_iff file dataSize).mpr h.intact
  isPrefix := h.isPrefix
  stored_iff hsuccess := by
    rw [hsame.receiverActions] at hsuccess ⊢
    exact h.stored_iff hsuccess

theorem FileSystem.length_contentsOf {fs : FileSystem} {path : Path} {size : ℕ}
    (h : fs.fileSize path = some size) : (fs.contentsOf path).length = size := by
  rw [FileSystem.fileSize] at h
  rw [FileSystem.contentsOf]
  cases hfile : fs.resolve path with
  | none => simp [hfile] at h
  | some file =>
    rw [hfile] at h
    dsimp only at h ⊢
    split_ifs at h
    exact Option.some.inj h

namespace TftpServer

variable {server : TftpServer} {disk : Disk} {request : ReceivedTftpRequest}

/-- The path of the requested file. -/
def path (server : TftpServer) (request : ReceivedTftpRequest) : Path :=
  server.baseDir.append (Path.ofText request.filename)

/-- What an operation of the server is set up with, but for the data handler. -/
def settings {δ : Type} (server : TftpServer) (handler : δ) : Servers.Settings δ where
  tftpTimeout := server.tftpConfiguration.tftpTimeout
  tftpRetries := server.tftpConfiguration.tftpRetries
  dally := server.tftpConfiguration.dally
  optionsConfiguration := server.tftpOptionsConfiguration
  dataHandler := handler

/-- **An operation that transmits** is about the requested file. -/
theorem started_read {operation : Servers.ReadOperationImpl StreamFile}
    (h : server.receivedRequest disk request = .started (.read operation)) :
    operation = Servers.ReadOperationImpl.configured ((server.settings
      { operationV := .transmit
        filenameV := server.path request
        streamV := { contents := disk.contentsOf (server.path request) }
        sizeV := some (UInt64.ofNat (disk.contentsOf (server.path request)).length) }).answering
          request) := by
  rw [receivedRequest] at h
  split_ifs at h
  dsimp only at h
  split at h
  · cases h
  · cases h
  · split at h
    · rw [transmitFile] at h
      split_ifs at h
      split at h
      · cases h
      · rename_i size hsize
        obtain rfl := ServerOperation.read.inj (Response.started.inj h)
        rw [← FileSystem.length_contentsOf hsize]
        rfl
    · rw [receiveFile] at h
      split_ifs at h
      cases h

/-- **An operation that receives** is about the requested file. -/
theorem started_write {operation : Servers.WriteOperationImpl StreamFile}
    (h : server.receivedRequest disk request = .started (.write operation)) :
    operation = Servers.WriteOperationImpl.configured ((server.settings
      { operationV := .receive
        filenameV := server.path request
        streamV := { failures := disk.failures } }).answering request) := by
  rw [receivedRequest] at h
  split_ifs at h
  dsimp only at h
  split at h
  · cases h
  · cases h
  · split at h
    · rw [transmitFile] at h
      split_ifs at h
      split at h <;> cases h
    · rw [receiveFile] at h
      split_ifs at h
      obtain rfl := ServerOperation.write.inj (Response.started.inj h)
      rfl

end TftpServer

namespace TftpClient

variable {client : TftpClient} {disk : Disk}

/-- What an operation of the client is set up with, but for the data handler. -/
def settings {δ : Type} (client : TftpClient) (handler : δ) : Clients.Settings δ where
  tftpTimeout := client.tftpConfiguration.tftpTimeout
  tftpRetries := client.tftpConfiguration.tftpRetries
  dally := client.tftpConfiguration.dally
  optionsConfiguration := client.tftpOptionsConfiguration
  optionNegotiationHandler := some optionNegotiation
  dataHandler := handler
  filename := client.remoteFile
  remote := client.remote

/-- **What the client can be used with**: its options can be negotiated, and the name of the remote
file is a text. -/
structure Usable (client : TftpClient) : Prop where
  blockSize : client.tftpOptionsConfiguration.BlockSizeInRange
  timeout : client.tftpOptionsConfiguration.TimeoutInRange
  filename : 0 ∉ client.remoteFile

/-- The known options of an RRQ. -/
def readOptions (client : TftpClient) : TftpOptions := (client.settings ()).readOptions

/-- The RRQ. -/
def readRequest (client : TftpClient) : Packet :=
  .readRequest client.remoteFile .octet (client.readOptions.onto SortedMap.empty)

/-- What the client sends at first. -/
theorem request_readOperation (h : client.Usable) {rawPacket : RawData} {destination : Endpoint}
    (hsent : .send rawPacket destination ∈ ((client.readOperation disk).request {}).actions) :
    rawPacket = client.readRequest.encode := by
  have hnegotiable : Clients.Settings.Negotiable { client.settings (client.localSink disk) with
      optionNegotiationHandler := none } := ⟨h.blockSize, h.timeout, rfl, rfl, h.filename⟩
  have hrequest := requestOptions_read hnegotiable
  have hoptions : (client.readOperation disk).requestOptions =
      client.readOptions.onto SortedMap.empty := hrequest
  rw [Clients.ReadOperationImpl.request_eq (s := client.readOperation disk) ⟨rfl, rfl, rfl⟩,
    hoptions] at hsent
  rcases List.mem_pair.mp hsent with heq | heq
  · cases heq
  · exact (Action.send.inj heq).1

/-- **What the server makes of the request.** -/
theorem received_readRequest (h : client.Usable)
    (hlength : client.readRequest.encode.length ≤ defaultMaxPacketSize.toNat) {remote : Endpoint}
    {request : ReceivedTftpRequest}
    (hgot : .requestHandler request ∈
      (ServerImpl.mk true).receiveHandler remote client.readRequest.encode) :
    request.remote = remote ∧ request.filename = client.remoteFile ∧
      request.clientOptions = client.readOptions := by
  obtain ⟨additional, heq⟩ : ∃ additional,
      (ServerImpl.mk true).receiveHandler remote client.readRequest.encode =
        [.requestHandler ⟨remote, .read, client.remoteFile, .octet, client.readOptions,
          additional⟩] :=
    ServerImpl.receiveHandler_request rfl (inRange_requestedOptions h.blockSize h.timeout)
      h.filename .octet remote .read rfl hlength
  rw [heq, List.mem_singleton] at hgot
  obtain rfl := ServerAction.requestHandler.inj hgot
  exact ⟨rfl, rfl, rfl⟩

end TftpClient

/-- **What a transfer has stored**, if the file that is delivered stays intact. -/
theorem copied_transfer {σ τ ε : Type} [DataHandler ε] [Operation τ ε]
    [ReceivingOperation σ (Storage Unit)] [RecordingOperation σ Unit] {receiverV senderV : Endpoint}
    {receiver : σ} {sender : τ} (hset : (base receiver).Settled)
    (hstart : ReceiverStart (actions receiver) (base receiver).phase
      (ReceivingOperation.view receiver)) (hspares : RecordingOperation.Spares receiver)
    {sink : StreamFile}
    (hinit : (base receiver).dataHandlerV.file = fileIn (base receiver).phase sink.start [])
    (hoperation : sink.operationV = .receive) (hclosed : sink.streamV.isOpen = false)
    {history : List (Transition (Transfer σ τ) NetworkEvent)} {t : Transfer σ τ}
    (hrun : Run (Transfer.step receiverV senderV) (.started receiverV senderV receiver sender)
      history t) {file : RawData} {dataSize : ℕ} (hintact : t.Intact file dataSize) :
    Copied file dataSize sink (base t.receiver).dataHandlerV.file t := by
  obtain ⟨events, hevents, htrace⟩ := Transfer.receiver_run hrun
  refine ⟨hintact, ?_, fun hsuccess => ?_⟩
  · have hfile := (fileIn_run hset hstart hspares hinit hevents).2
    rw [htrace] at hfile
    rw [hfile]
    exact (isPrefix_contents_fileIn hoperation hclosed _ _).trans hintact.isPrefix
  · have hstored := stored_run hset hstart hspares hinit hoperation hclosed hevents
      (htrace ▸ hsuccess)
    rw [acceptedBlocks_run hset hstart hevents, htrace] at hstored
    rw [← hintact.complete (Or.inl hsuccess)]
    exact hstored

/-- The option negotiation handler of the application does not look at the data handler. -/
theorem TftpClient.negotiateAlike {δ δ' : Type} [DataHandler δ] [DataHandler δ']
    (R : HandlerRelation δ δ') :
    NegotiateAlike R (some TftpClient.optionNegotiation) (some TftpClient.optionNegotiation) :=
  fun _ _ _ h => ⟨rfl, rfl, h⟩

/-- **The reading client**, with the local file among what the user's handlers work on. -/
theorem TftpClient.exchanged_readOperation (client : TftpClient) (disk : Disk) :
    Clients.ReadOperationImpl.Exchanged StreamFile.sink ((client.readOperation disk).request {})
      ((Clients.ReadOperationImpl.configured (client.settings
        (⟨client.localSink disk, ()⟩ : Storage Unit))).request {}) :=
  Clients.ReadOperationImpl.exchanged_request
    (Clients.ReadOperationImpl.idle_configured (client.settings (client.localSink disk))) rfl
    (TftpClient.negotiateAlike _)

/-- **The transmitting server**, with the file in memory. -/
theorem TftpServer.exchanged_read (server : TftpServer) (request : ReceivedTftpRequest)
    (filename : Path) (file : RawData) :
    Servers.ReadOperationImpl.Exchanged StreamFile.source
      ((Servers.ReadOperationImpl.configured ((server.settings
        (⟨.transmit, filename, { contents := file }, some (UInt64.ofNat file.length)⟩ :
          StreamFile)).answering request)).start {})
      ((Servers.ReadOperationImpl.configured
        ((server.settings (MemoryFile.ofData file)).answering request)).start {}) :=
  Servers.ReadOperationImpl.exchanged_start StreamFile.transmitAlike_source
    (Servers.ReadOperationImpl.idle_configured ((server.settings
        (⟨.transmit, filename, { contents := file }, some (UInt64.ofNat file.length)⟩ :
          StreamFile)).answering request))
    ⟨rfl, rfl, rfl, by rintro ⟨⟩, rfl⟩

/-- **A file is downloaded** from the server application by the client application, over a network
that may lose, repeat and reorder datagrams: what the client has got is a part of the file, and all
of it once either side has reported success; and when the client has reported success, the file is
on its disk exactly if that did not fail. -/
theorem tftp_download (client : TftpClient) (server : TftpServer) (localDisk serverDisk : Disk)
    (request : ReceivedTftpRequest) (operation : Servers.ReadOperationImpl StreamFile)
    (serverV : Endpoint) (rawPacket : RawData) (hclient : client.Usable)
    (hserver : server.tftpOptionsConfiguration.BlockSizeInRange)
    (hsent : .send rawPacket client.remote ∈ ((client.readOperation localDisk).request {}).actions)
    (hlength : rawPacket.length ≤ defaultMaxPacketSize.toNat)
    (hgot : .requestHandler request ∈
      (ServerImpl.mk true).receiveHandler request.remote rawPacket)
    (hstarted : server.receivedRequest serverDisk request = .started (.read operation))
    (haddress : serverV.address = client.address) (hport : serverV ≠ client.remote)
    (hsmall : lastBlock (serverDisk.contentsOf (server.baseDir.append
      (Path.ofText client.remoteFile))) (negotiatedDataSize server.tftpOptionsConfiguration
        client.readOptions).toNat < 65535)
    (history : List (Transition (Transfer (Clients.ReadOperationImpl StreamFile)
      (Servers.ReadOperationImpl StreamFile)) NetworkEvent))
    (t : Transfer (Clients.ReadOperationImpl StreamFile) (Servers.ReadOperationImpl StreamFile))
    (hrun : Run (Transfer.step request.remote serverV)
      (.started request.remote serverV ((client.readOperation localDisk).request {})
        (operation.start {})) history t) :
    Copied (serverDisk.contentsOf (server.baseDir.append (Path.ofText client.remoteFile)))
      (negotiatedDataSize server.tftpOptionsConfiguration client.readOptions).toNat
      (client.localSink localDisk) t.receiver.dataHandlerV t := by
  obtain rfl := client.request_readOperation hclient hsent
  obtain ⟨-, hfilename, hoptions⟩ := client.received_readRequest hclient hlength hgot
  obtain rfl := TftpServer.started_read hstarted
  have hpath : server.baseDir.append (Path.ofText client.remoteFile) = server.path request := by
    rw [TftpServer.path, hfilename]
  rw [hpath] at hsmall ⊢
  rw [← hoptions] at hsmall ⊢
  generalize serverDisk.contentsOf (server.path request) = file at *
  -- the same transfer, with the file in memory and the local file among the handlers' state
  have hreceiver := Clients.ReadOperationImpl.exchangeable StreamFile.receiveAlike_sink
  have hsender := Servers.ReadOperationImpl.exchangeable StreamFile.transmitAlike_source
  obtain ⟨history', t', hrun', hsame⟩ := hrun.simulate
    (hreceiver.exchanged_started hsender (client.exchanged_readOperation localDisk)
      (server.exchanged_read request (server.path request) file))
    fun _ _ e h => h.step hreceiver hsender e
  have hintact := read_intact (client.settings (⟨client.localSink localDisk, ()⟩ : Storage Unit))
    (server.settings (MemoryFile.ofData file)) request serverV hclient.blockSize hclient.timeout
      hserver Options.unobtrusive_empty rfl hoptions haddress hport hsmall hrun'
  have hidle := Clients.ReadOperationImpl.idle_configured
    (client.settings (⟨client.localSink localDisk, ()⟩ : Storage Unit))
  obtain ⟨hset, hstart⟩ := Clients.ReadOperationImpl.receiverStart_request hidle rfl
  have hspares : Storage.Spares (some (TftpClient.optionNegotiation (δ := Storage Unit))) := by
    rintro g hg storage options
    obtain rfl := Option.some.inj hg
    rfl
  have hcopied : Copied file
      (negotiatedDataSize server.tftpOptionsConfiguration request.clientOptions).toNat
      (client.localSink localDisk)
      (base t'.receiver).dataHandlerV.file t' := by
    refine copied_transfer hset ?_ ?_ ?_ rfl rfl hrun' hintact
    · exact hstart
    · rw [Clients.ReadOperationImpl.request_eq hidle]
      exact hspares
    · rw [Clients.ReadOperationImpl.request_eq hidle]
      rfl
  have hfile : (base t'.receiver).dataHandlerV.file = t.receiver.dataHandlerV := by
    obtain ⟨b', g', ⟨handler, rfl, halways, -⟩, -, heq⟩ := hsame.receiver
    rw [heq]
    exact halways
  exact hfile ▸ hcopied.exchanged hsame

/-- A client of the server that offers what is below `/srv/tftp`. -/
def TftpClient.small : TftpClient where
  localFile := Path.ofText (ascii "/srv/tftp/f")
  remoteFile := ascii "f"
  address := .v4 0x7F000001

theorem TftpClient.usable_small : TftpClient.small.Usable :=
  ⟨by rintro _ ⟨⟩, by rintro _ ⟨⟩, by decide⟩

/-- A file of two blocks. -/
def twoBlocks : RawData := List.replicate 512 97 ++ [98]

/-- The files of that server, if that is what it offers. -/
def twoBlockFiles : FileSystem := { smallFiles with contents := fun _ => twoBlocks }

/-- What that server starts for the RRQ of that client. -/
def TftpServer.smallTransmitter : Servers.ReadOperationImpl StreamFile :=
  .configured ((TftpServer.smallServer.settings
    (⟨.transmit, Path.ofText (ascii "/srv/tftp/f"), { contents := twoBlocks },
      some (UInt64.ofNat twoBlocks.length)⟩ : StreamFile)).answering (TftpServer.smallRead "f"))

/-- Its first block gets lost, and is delivered twice when it is sent again. -/
def smallDownload :
    Transfer (Clients.ReadOperationImpl StreamFile) (Servers.ReadOperationImpl StreamFile) :=
  (replay (Transfer.step ⟨.v4 0x7F000001, 50000⟩ ⟨.v4 0x7F000001, 40000⟩)
    (.started ⟨.v4 0x7F000001, 50000⟩ ⟨.v4 0x7F000001, 40000⟩
      ((TftpClient.small.readOperation { toFileSystem := twoBlockFiles }).request {})
      (TftpServer.smallTransmitter.start {}))
    [.loseToReceiver 0, .senderTimeout, .toReceiver 0 true, .toReceiver 0 false,
      .toSender 0 false, .toReceiver 0 false, .toSender 0 false, .toSender 0 false]).2

/-- The file is downloaded nevertheless. -/
theorem tftp_download_two_blocks :
    Copied twoBlocks 512 (TftpClient.small.localSink { toFileSystem := twoBlockFiles })
        smallDownload.receiver.dataHandlerV smallDownload ∧
      .finished .successful ∈ smallDownload.receiverActions ∧
      .finished .successful ∈ smallDownload.senderActions := by
  refine ⟨?_, by decide +kernel⟩
  have hsent : .send TftpClient.small.readRequest.encode TftpClient.small.remote ∈
      ((TftpClient.small.readOperation { toFileSystem := twoBlockFiles }).request {}).actions := by
    decide
  exact tftp_download TftpClient.small TftpServer.smallServer { toFileSystem := twoBlockFiles }
    { toFileSystem := twoBlockFiles } (TftpServer.smallRead "f") TftpServer.smallTransmitter
    ⟨.v4 0x7F000001, 40000⟩ TftpClient.small.readRequest.encode TftpClient.usable_small
    (by rintro _ ⟨⟩) hsent (by decide) (by decide) rfl rfl (by decide) (by decide +kernel) _ _
    (Run.of_replay _ _ _)

namespace TftpClient

variable {client : TftpClient} {disk : Disk}

/-- The known options of a WRQ for a file of the given size. -/
def writeOptions (client : TftpClient) (size : ℕ) : TftpOptions :=
  requestedOptions client.tftpOptionsConfiguration
    (if client.tftpOptionsConfiguration.handleTransferSizeOption then some (UInt64.ofNat size)
      else none)

/-- The WRQ for a file of the given size. -/
def writeRequest (client : TftpClient) (size : ℕ) : Packet :=
  .writeRequest client.remoteFile .octet ((client.writeOptions size).onto SortedMap.empty)

/-- What the client sends at first. -/
theorem request_writeOperation (h : client.Usable)
    {operation : Clients.WriteOperationImpl StreamFile}
    (hoperation : client.writeOperation disk = some operation) {rawPacket : RawData}
    {destination : Endpoint}
    (hsent : .send rawPacket destination ∈ (operation.request {}).actions) :
    rawPacket = (client.writeRequest (disk.contentsOf client.localFile).length).encode := by
  obtain ⟨size, hsize, rfl⟩ := Option.map_eq_some_iff.mp hoperation
  obtain rfl := FileSystem.length_contentsOf hsize
  generalize hsource : client.localSource disk (disk.contentsOf client.localFile).length = source
    at *
  have hnegotiable : Clients.Settings.Negotiable { client.settings source with
      optionNegotiationHandler := none } := ⟨h.blockSize, h.timeout, rfl, rfl, h.filename⟩
  have hoptions := requestOptions_write hnegotiable
  have hidle := Clients.WriteOperationImpl.idle_configured (client.settings source)
  have hcalls := (Clients.WriteOperationImpl.configured (client.settings source)).isCall_announced
  change _ ∈ ((Clients.WriteOperationImpl.configured (client.settings source)).request {}).actions
    at hsent
  rw [Clients.WriteOperationImpl.request_eq hidle] at hsent
  rcases List.mem_append.mp hsent with hcall | hlast
  · exact (hcalls _ hcall).elim
  · obtain ⟨rfl, rfl⟩ := Action.send.inj (List.mem_singleton.mp hlast)
    subst hsource
    exact congrArg (fun options => (Packet.writeRequest client.remoteFile .octet options).encode)
      hoptions

/-- **What the server makes of the request.** -/
theorem received_writeRequest (h : client.Usable) {size : ℕ}
    (hlength : (client.writeRequest size).encode.length ≤ defaultMaxPacketSize.toNat)
    {remote : Endpoint} {request : ReceivedTftpRequest}
    (hgot : .requestHandler request ∈
      (ServerImpl.mk true).receiveHandler remote (client.writeRequest size).encode) :
    request.remote = remote ∧ request.filename = client.remoteFile ∧
      request.clientOptions = client.writeOptions size := by
  obtain ⟨additional, heq⟩ : ∃ additional,
      (ServerImpl.mk true).receiveHandler remote (client.writeRequest size).encode =
        [.requestHandler ⟨remote, .write, client.remoteFile, .octet, client.writeOptions size,
          additional⟩] :=
    ServerImpl.receiveHandler_request rfl (inRange_requestedOptions h.blockSize h.timeout)
      h.filename .octet remote .write rfl hlength
  rw [heq, List.mem_singleton] at hgot
  obtain rfl := ServerAction.requestHandler.inj hgot
  exact ⟨rfl, rfl, rfl⟩

/-- **The writing client**, with the file in memory. -/
theorem exchanged_writeOperation {operation : Clients.WriteOperationImpl StreamFile}
    (h : client.writeOperation disk = some operation) :
    Clients.WriteOperationImpl.Exchanged StreamFile.source (operation.request {})
      ((Clients.WriteOperationImpl.configured (client.settings
        (MemoryFile.ofData (disk.contentsOf client.localFile)))).request {}) := by
  obtain ⟨size, hsize, rfl⟩ := Option.map_eq_some_iff.mp h
  obtain rfl := FileSystem.length_contentsOf hsize
  exact Clients.WriteOperationImpl.exchanged_request StreamFile.transmitAlike_source
    (Clients.WriteOperationImpl.idle_configured (client.settings (client.localSource disk _)))
    ⟨rfl, rfl, rfl, by rintro ⟨⟩, rfl⟩ (negotiateAlike _)

end TftpClient

/-- **The receiving server**, with the file among what the user's handlers work on. -/
theorem TftpServer.exchanged_write (server : TftpServer) (request : ReceivedTftpRequest)
    (file : StreamFile) :
    Servers.WriteOperationImpl.Exchanged StreamFile.sink
      ((Servers.WriteOperationImpl.configured
        ((server.settings file).answering request)).start {})
      ((Servers.WriteOperationImpl.configured
        ((server.settings (⟨file, ()⟩ : Storage Unit)).answering request)).start {}) :=
  Servers.WriteOperationImpl.exchanged_start StreamFile.receiveAlike_sink
    (Servers.WriteOperationImpl.idle_configured ((server.settings file).answering request)) rfl

/-- **The server acknowledges no options**, but block zero. -/
structure AcknowledgesNothing (configuration : TftpOptionsConfiguration)
    (clientOptions : TftpOptions) : Prop where
  blockSize : negotiatedBlockSize configuration clientOptions = none
  timeout : negotiatedTimeout configuration clientOptions = none
  transferSize : configuration.handleTransferSizeOption = false ∨ clientOptions.transferSize = none

theorem writeAnswer_isEmpty {δ : Type} [ReceiveDataHandler δ] {settings : Servers.Settings δ}
    {request : ReceivedTftpRequest}
    (hadd : settings.additionalNegotiatedOptions = SortedMap.empty)
    (h : AcknowledgesNothing settings.optionsConfiguration request.clientOptions) :
    (writeAnswer settings request).isEmpty := by
  have hnone : writeAcknowledged settings request = {} := by
    rw [writeAcknowledged, acknowledged, h.blockSize, h.timeout, Servers.Settings.offered]
    rcases h.transferSize with hhandles | hlacks
    · rw [hhandles, if_neg Bool.false_ne_true]
    · rw [hlacks, ite_self]
  rw [writeAnswer, hnone, hadd]
  rfl

/-- **A file is uploaded** to the server application by the client application, over a network that
may lose, repeat and reorder datagrams, if the server acknowledges no options: what the server has
got is a part of the file, and all of it once either side has reported success; and when the server
has reported success, the file is on its disk exactly if that did not fail. -/
theorem tftp_upload (client : TftpClient) (server : TftpServer) (localDisk serverDisk : Disk)
    (request : ReceivedTftpRequest) (writer : Clients.WriteOperationImpl StreamFile)
    (operation : Servers.WriteOperationImpl StreamFile) (serverV : Endpoint) (rawPacket : RawData)
    (hclient : client.Usable) (hserver : server.tftpOptionsConfiguration.BlockSizeInRange)
    (hwriter : client.writeOperation localDisk = some writer)
    (hsent : .send rawPacket client.remote ∈ (writer.request {}).actions)
    (hlength : rawPacket.length ≤ defaultMaxPacketSize.toNat)
    (hgot : .requestHandler request ∈
      (ServerImpl.mk true).receiveHandler request.remote rawPacket)
    (hstarted : server.receivedRequest serverDisk request = .started (.write operation))
    (hplain : AcknowledgesNothing server.tftpOptionsConfiguration request.clientOptions)
    (haddress : serverV.address = client.address) (hport : serverV ≠ client.remote)
    (hsmall : lastBlock (localDisk.contentsOf client.localFile) 512 < 65535)
    (history : List (Transition (Transfer (Servers.WriteOperationImpl StreamFile)
      (Clients.WriteOperationImpl StreamFile)) NetworkEvent))
    (t : Transfer (Servers.WriteOperationImpl StreamFile) (Clients.WriteOperationImpl StreamFile))
    (hrun : Run (Transfer.step serverV request.remote)
      (.started serverV request.remote (operation.start {}) (writer.request {})) history t) :
    Copied (localDisk.contentsOf client.localFile) 512
      { operationV := .receive
        filenameV := server.baseDir.append (Path.ofText client.remoteFile)
        streamV := { failures := serverDisk.failures } } t.receiver.dataHandlerV t := by
  obtain rfl := client.request_writeOperation hclient hwriter hsent
  obtain ⟨-, hfilename, hoptions⟩ := client.received_writeRequest hclient hlength hgot
  obtain rfl := TftpServer.started_write hstarted
  have hclientSide := client.exchanged_writeOperation hwriter
  have hpath : server.baseDir.append (Path.ofText client.remoteFile) = server.path request := by
    rw [TftpServer.path, hfilename]
  rw [hpath]
  clear hgot hstarted hwriter hsent hlength
  have hserverSide := server.exchanged_write request
    ⟨.receive, server.path request, { failures := serverDisk.failures }, none⟩
  have hclosed : (⟨.receive, server.path request, { failures := serverDisk.failures }, none⟩ :
    StreamFile).streamV.isOpen = false := rfl
  have hoperation : (⟨.receive, server.path request, { failures := serverDisk.failures }, none⟩ :
    StreamFile).operationV = .receive := rfl
  generalize (⟨.receive, server.path request, { failures := serverDisk.failures }, none⟩ :
    StreamFile) = sink at *
  generalize localDisk.contentsOf client.localFile = file at *
  -- the same transfer, with the file in memory and the received one among the handlers' state
  have hreceiver := Servers.WriteOperationImpl.exchangeable StreamFile.receiveAlike_sink
  have hsender := Clients.WriteOperationImpl.exchangeable StreamFile.transmitAlike_source
  obtain ⟨history', t', hrun', hsame⟩ := hrun.simulate
    (hreceiver.exchanged_started hsender hserverSide hclientSide)
    fun _ _ e h => h.step hreceiver hsender e
  have hempty : (writeAnswer (server.settings (⟨sink, ()⟩ : Storage Unit)) request).isEmpty :=
    writeAnswer_isEmpty rfl hplain
  have hsize : (negotiatedDataSize server.tftpOptionsConfiguration request.clientOptions).toNat =
      512 := by
    rw [negotiatedDataSize, hplain.blockSize]
    rfl
  have hkeeps : ∀ g, some (TftpClient.optionNegotiation (δ := MemoryFile)) = some g →
      ∀ handler options, (g handler options).2.2 = handler := by
    rintro _ ⟨⟩ handler options
    rfl
  have hlast : (writeSession (client.settings (MemoryFile.ofData file))
      (server.settings (⟨sink, ()⟩ : Storage Unit)) request).lastBlock < 65535 := by
    rw [← hsize] at hsmall
    exact hsmall
  have hintact := write_intact (client.settings (MemoryFile.ofData file))
    (server.settings (⟨sink, ()⟩ : Storage Unit)) request serverV hclient.blockSize hclient.timeout
      hserver Options.unobtrusive_empty rfl hkeeps hoptions haddress hport hempty hlast hrun'
  have hidle := Servers.WriteOperationImpl.idle_configured
    ((server.settings (⟨sink, ()⟩ : Storage Unit)).answering request)
  obtain ⟨hset, hstart⟩ := Servers.WriteOperationImpl.receiverStart_start hidle rfl rfl
  have hmemory : t'.Intact file 512 := hsize ▸ hintact
  have hcopied : Copied file 512 sink (base t'.receiver).dataHandlerV.file t' := by
    refine copied_transfer hset ?_ trivial (Servers.WriteOperationImpl.fileIn_start hidle)
      hoperation hclosed hrun' hmemory
    exact hstart
  have hfile : (base t'.receiver).dataHandlerV.file = t.receiver.dataHandlerV := by
    obtain ⟨b', ⟨handler, rfl, halways, -⟩, heq⟩ := hsame.receiver
    rw [heq]
    exact halways
  exact hfile ▸ hcopied.exchanged hsame

/-- What the server makes of the WRQ of the client above. -/
def TftpServer.smallWrite : ReceivedTftpRequest where
  remote := ⟨.v4 0x7F000001, 50000⟩
  requestType := .write
  filename := ascii "f"
  mode := .octet
  clientOptions := {}
  additionalClientOptions := SortedMap.empty

/-- What it starts for it. -/
def TftpServer.smallReceiver : Servers.WriteOperationImpl StreamFile :=
  .configured ((TftpServer.smallServer.settings
    ({ operationV := .receive, filenameV := Path.ofText (ascii "/srv/tftp/f") } :
      StreamFile)).answering TftpServer.smallWrite)

/-- What the client sets up for it. -/
def TftpClient.smallWriter : Clients.WriteOperationImpl StreamFile :=
  .configured (TftpClient.small.settings
    (TftpClient.small.localSource { toFileSystem := twoBlockFiles } twoBlocks.length))

/-- The acknowledgement of the WRQ is delivered twice, and so is the first block. -/
def smallUpload :
    Transfer (Servers.WriteOperationImpl StreamFile) (Clients.WriteOperationImpl StreamFile) :=
  (replay (Transfer.step ⟨.v4 0x7F000001, 40000⟩ ⟨.v4 0x7F000001, 50000⟩)
    (.started ⟨.v4 0x7F000001, 40000⟩ ⟨.v4 0x7F000001, 50000⟩ (TftpServer.smallReceiver.start {})
      (TftpClient.smallWriter.request {}))
    [.toSender 0 true, .toSender 0 false, .toReceiver 0 true, .toReceiver 0 false,
      .toSender 0 false, .toReceiver 0 false, .toSender 0 false, .toSender 0 false]).2

/-- The file is uploaded nevertheless. -/
theorem tftp_upload_two_blocks :
    Copied twoBlocks 512
        { operationV := .receive, filenameV := Path.ofText (ascii "/srv/tftp/f") }
        smallUpload.receiver.dataHandlerV smallUpload ∧
      .finished .successful ∈ smallUpload.receiverActions ∧
      .finished .successful ∈ smallUpload.senderActions := by
  refine ⟨?_, by decide +kernel⟩
  have hsent : .send (TftpClient.small.writeRequest 513).encode TftpClient.small.remote ∈
      (TftpClient.smallWriter.request {}).actions := by
    decide +kernel
  exact tftp_upload TftpClient.small TftpServer.smallServer { toFileSystem := twoBlockFiles }
    { toFileSystem := twoBlockFiles } TftpServer.smallWrite TftpClient.smallWriter
    TftpServer.smallReceiver ⟨.v4 0x7F000001, 40000⟩
    (TftpClient.small.writeRequest 513).encode TftpClient.usable_small (by rintro _ ⟨⟩) rfl hsent
    (by decide) (by decide) rfl ⟨rfl, rfl, Or.inl rfl⟩ rfl (by decide) (by decide +kernel) _ _
    (Run.of_replay _ _ _)

end Tftp
