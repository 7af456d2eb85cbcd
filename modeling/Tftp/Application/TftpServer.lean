import Tftp.Files.StreamFile
import Tftp.Servers.Filename
import Tftp.Servers.Listening
import Tftp.Servers.Starting

/-!
# The server application

`tftp_server`: its request handler, `Tftp.TftpServer.receivedRequest`, checks the request, opens
the file below the base directory, and starts an operation of the library on it, or has an ERROR
packet sent. All this runs inside the event loop of the listening server, so an exception other
than a `TftpException` stops the application.

There is one such exception: the size of the file to be read is asked for, and that throws for
anything but a regular file, whereas the check of the filename lets a directory pass, and opening
it may succeed (`Tftp.TftpServer.served_iff`).
-/

namespace Tftp

open Servers

/-- `TftpConfiguration`, as far as the server uses it. -/
structure TftpConfiguration where
  tftpTimeout : ℤ := 2
  tftpRetries : UInt16 := 1
  dally : Bool := false

/-- The file system, and what becomes of the file that is received. -/
structure Disk extends FileSystem where
  /-- Which of its writes, flushes and closes fail. -/
  failures : List Bool := []

/-- An operation of the server. -/
inductive ServerOperation where
  | read (operation : ReadOperationImpl StreamFile)
  | write (operation : WriteOperationImpl StreamFile)

namespace ServerOperation

/-- The shared part of the state. -/
def base : ServerOperation → OperationImpl StreamFile
  | read operation => operation.toOperationImpl
  | write operation => operation.toOperationImpl

/-- `start`. -/
def start : ServerOperation → ServerOperation
  | read operation => read (operation.start {})
  | write operation => write (operation.start {})

/-- An operation that has been set up, and not started. -/
structure Fresh (o : ServerOperation) : Prop where
  idle : o.base.Idle
  actions_nil : o.base.actions = []

theorem Fresh.started {o : ServerOperation} (h : o.Fresh) :
    Started o.base.tftpRetriesV o.start.base := by
  cases o with
  | read operation => exact ReadOperationImpl.started_start h.idle h.actions_nil
  | write operation => exact WriteOperationImpl.started_start h.idle h.actions_nil

end ServerOperation

/-- What comes of a request. -/
inductive Response where
  /-- An ERROR packet is sent. -/
  | errorOperation (remote : Endpoint) (errorCode : ErrorCode) (errorMessage : RawData)
  /-- An operation is set up, and started. -/
  | started (operation : ServerOperation)
  /-- `std::filesystem::filesystem_error` is thrown. -/
  | filesystemError
  /-- The check of the filename reads beyond the end of the path: anything may happen. -/
  | beyondEnd

/-- What leaves the request handler; the worst, where anything may happen. -/
def Response.thrown : Response → Option HandlerException
  | errorOperation .. | started _ => none
  | filesystemError | beyondEnd => some .otherException

/-- **The client at the given endpoint has been answered**: by an ERROR packet, or by an operation,
and that has been started. -/
def Response.Answers (remote : Endpoint) : Response → Prop
  | errorOperation remote' .. => remote' = remote
  | started operation => operation.base.remoteV = remote ∧ LegallyStarted operation.start.base
  | filesystemError | beyondEnd => False

theorem Response.Answers.thrown_eq {remote : Endpoint} {response : Response}
    (h : response.Answers remote) : response.thrown = none := by
  cases response with
  | errorOperation | started => rfl
  | filesystemError | beyondEnd => exact h.elim

/-- The global variables of the application that do not change. -/
structure TftpServer where
  baseDir : Path
  tftpConfiguration : TftpConfiguration := {}
  tftpOptionsConfiguration : TftpOptionsConfiguration := {}

namespace TftpServer

/-- `transmitFile`. -/
def transmitFile (server : TftpServer) (disk : Disk) (remote : Endpoint) (filename : Path)
    (clientOptions : TftpOptions) : Response :=
  if !disk.opensIn filename then
    .errorOperation remote .fileNotFound (ascii "file not found")
  else
    match disk.fileSize filename with
    | none => .filesystemError
    | some size =>
        .started (.read (ReadOperationImpl.configured
          { tftpTimeout := server.tftpConfiguration.tftpTimeout
            tftpRetries := server.tftpConfiguration.tftpRetries
            optionsConfiguration := server.tftpOptionsConfiguration
            completionHandler := true
            dataHandler :=
              { operationV := .transmit
                filenameV := filename
                streamV := { contents := disk.contentsOf filename }
                sizeV := some (UInt64.ofNat size) }
            remote := remote
            clientOptions := clientOptions }))

/-- `receiveFile`. -/
def receiveFile (server : TftpServer) (disk : Disk) (remote : Endpoint) (filename : Path)
    (clientOptions : TftpOptions) : Response :=
  if !disk.writable filename then .errorOperation remote .accessViolation []
  else
    .started (.write (WriteOperationImpl.configured
      { tftpTimeout := server.tftpConfiguration.tftpTimeout
        tftpRetries := server.tftpConfiguration.tftpRetries
        dally := server.tftpConfiguration.dally
        optionsConfiguration := server.tftpOptionsConfiguration
        completionHandler := true
        dataHandler :=
          { operationV := .receive
            filenameV := filename
            streamV := { failures := disk.failures } }
        remote := remote
        clientOptions := clientOptions }))

/-- `receivedRequest`: the request handler. -/
def receivedRequest (server : TftpServer) (disk : Disk) (request : ReceivedTftpRequest) :
    Response :=
  if request.mode ≠ .octet then
    .errorOperation request.remote .illegalTftpOperation (ascii "wrong transfer mode")
  else
    let filename := Path.ofText request.filename
    match checkFilename disk.toFileSystem server.baseDir filename
        (request.requestType = .read) with
    | .beyondEnd => .beyondEnd
    | .rejected => .errorOperation request.remote .accessViolation (ascii "Illegal filename")
    | .accepted _ =>
        match request.requestType with
        | .read =>
            server.transmitFile disk request.remote (server.baseDir.append filename)
              request.clientOptions
        | .write =>
            server.receiveFile disk request.remote (server.baseDir.append filename)
              request.clientOptions

/-- **What can be served**: in the right mode, nothing above the base directory, and nothing to be
read below it but a regular file, unless there is nothing at all. -/
def Serviceable (server : TftpServer) (fs : FileSystem) (request : ReceivedTftpRequest) : Prop :=
  request.mode = .octet →
    ¬ Above fs server.baseDir (Path.ofText request.filename) ∧
      (request.requestType = .read → ∀ filePath,
        Below fs server.baseDir (Path.ofText request.filename) filePath →
          (fs.isRegularFile filePath).1 = true ∨ (fs.isRegularFile filePath).2 = true)

/-- **A request has been served.** -/
structure Served (server : TftpServer) (disk : Disk) (request : ReceivedTftpRequest) : Prop where
  /-- Nothing but a `TftpException` leaves the request handler. -/
  returned : (server.receivedRequest disk request).thrown = none ∨
    (server.receivedRequest disk request).thrown = some .tftpException
  /-- The listening server that has called it waits for the next datagram. -/
  listens : ∀ (l : Listener) (a : Arrival), l.receives = 1 → l.escaped = none →
    l.server.received a.remote a.received = [.requestHandler request] →
    a.throws request = (server.receivedRequest disk request).thrown →
    (l.step a).receives = 1 ∧ (l.step a).escaped = none
  /-- The client gets an ERROR packet, or an operation that has been started. -/
  answered : (server.receivedRequest disk request).Answers request.remote
  /-- What is to be read has been accepted only if it is a regular file. -/
  accepted : request.mode = .octet → request.requestType = .read → ∀ filePath,
    checkFilename disk.toFileSystem server.baseDir (Path.ofText request.filename) true =
      .accepted filePath → (disk.isRegularFile filePath).1 = true

variable {server : TftpServer} {disk : Disk} {request : ReceivedTftpRequest} {remote : Endpoint}
  {filename : Path} {clientOptions : TftpOptions}

/-- **What is to be transmitted** has to have a size, if it can be opened. -/
theorem answers_transmitFile_iff :
    (server.transmitFile disk remote filename clientOptions).Answers remote ↔
      (disk.opensIn filename = true → (disk.fileSize filename).isSome) := by
  rw [transmitFile]
  cases hopens : disk.opensIn filename with
  | false => exact iff_of_true rfl (by simp)
  | true =>
    cases hsize : disk.fileSize filename with
    | none => exact iff_of_false id (by simp)
    | some size =>
      refine iff_of_true ⟨rfl, legallyStarted_of_started (ServerOperation.Fresh.started ?_)⟩
        fun _ => rfl
      exact ⟨ReadOperationImpl.idle_configured _, rfl⟩

/-- What is to be received is received, or rejected. -/
theorem answers_receiveFile :
    (server.receiveFile disk remote filename clientOptions).Answers remote := by
  rw [receiveFile]
  split_ifs
  · rfl
  · refine ⟨rfl, legallyStarted_of_started (ServerOperation.Fresh.started ?_)⟩
    exact ⟨WriteOperationImpl.idle_configured _, rfl⟩

/-- What a file below the base directory is opened by leads to that file. -/
theorem fileSize_isSome_of_below {fs : FileSystem} {baseDir filePath : Path}
    (h : Below fs baseDir filename filePath) (hregular : (fs.isRegularFile filePath).1 = true)
    (hopens : fs.opensIn (baseDir.append filename) = true) :
    (fs.fileSize (baseDir.append filename)).isSome := by
  obtain ⟨⟨base, file⟩, hr, rfl, -⟩ := h
  obtain ⟨base', hbase, hmap⟩ := Option.bind_eq_some_iff.mp hr
  obtain ⟨file', hfile, heq⟩ := Option.map_eq_some_iff.mp hmap
  obtain ⟨rfl, rfl⟩ := Prod.mk.inj heq
  exact (FileSystem.fileSize_isSome_iff hbase hfile hopens).mpr hregular

/-- **A request that can be served is answered.** -/
theorem answers_receivedRequest (h : server.Serviceable disk.toFileSystem request) :
    (server.receivedRequest disk request).Answers request.remote := by
  rw [receivedRequest]
  split_ifs with hmode
  · rfl
  · obtain ⟨habove, hread⟩ := h (not_not.mp hmode)
    dsimp only
    cases hcheck : checkFilename disk.toFileSystem server.baseDir (Path.ofText request.filename)
        (request.requestType = .read) with
    | beyondEnd => exact habove (checkFilename_eq_beyondEnd_iff.mp hcheck)
    | rejected => rfl
    | accepted filePath =>
      obtain ⟨hbelow, hexist⟩ := checkFilename_eq_accepted_iff.mp hcheck
      cases htype : request.requestType with
      | write => exact answers_receiveFile
      | read =>
        refine answers_transmitFile_iff.mpr fun hopens => ?_
        -- what is missing has not been accepted
        have hregular : (disk.isRegularFile filePath).1 = true := by
          rcases hexist (by simp [htype]) with hregular | hthere
          · exact hregular
          · refine (hread htype filePath hbelow).resolve_right fun hmissing => ?_
            cases hthere.symm.trans hmissing
        exact fileSize_isSome_of_below hbelow hregular hopens

/-- **When a request is served.** -/
theorem served_iff (server : TftpServer) (disk : Disk) (request : ReceivedTftpRequest) :
    server.Served disk request ↔ server.Serviceable disk.toFileSystem request := by
  constructor
  · intro h hmode
    constructor
    · intro habove
      have hanswered := h.answered
      rw [receivedRequest, if_neg (not_not.mpr hmode)] at hanswered
      dsimp only at hanswered
      rw [checkFilename_eq_beyondEnd_iff.mpr habove] at hanswered
      exact hanswered
    · intro htype filePath hbelow
      by_contra hnot
      obtain ⟨hregular, hthere⟩ := not_or.mp hnot
      exact hregular (h.accepted hmode htype filePath
        (checkFilename_eq_accepted_iff.mpr
          ⟨hbelow, fun _ => Or.inr (Bool.eq_false_iff.mpr hthere)⟩))
  · intro h
    have hanswers := answers_receivedRequest h
    refine ⟨Or.inl hanswers.thrown_eq, ?_, hanswers, ?_⟩
    · intro l a harmed hescaped hcalls hthrows
      rw [Listener.step_eq_of_caught harmed fun e he => ?_]
      · exact ⟨harmed, hescaped⟩
      · rw [hcalls, List.findSome?_singleton, ServerAction.thrown, hthrows,
          hanswers.thrown_eq] at he
        cases he
    · intro hmode htype filePath hcheck
      obtain ⟨hbelow, hexist⟩ := checkFilename_eq_accepted_iff.mp hcheck
      rcases hexist rfl with hregular | hthere
      · exact hregular
      · refine ((h hmode).2 htype filePath hbelow).resolve_right fun hmissing => ?_
        cases hthere.symm.trans hmissing

/-- **A request that gets as far as its file**: it can be opened, or the check of its name reads
beyond the end of it. -/
def Opens (server : TftpServer) (disk : Disk) (request : ReceivedTftpRequest) : Prop :=
  request.mode = .octet ∧
    (Above disk.toFileSystem server.baseDir (Path.ofText request.filename) ∨
      (∃ filePath, checkFilename disk.toFileSystem server.baseDir (Path.ofText request.filename)
        (request.requestType = .read) = .accepted filePath) ∧
      match request.requestType with
      | .read => disk.opensIn (server.baseDir.append (Path.ofText request.filename)) = true
      | .write => disk.writable (server.baseDir.append (Path.ofText request.filename)) = true)

/-- A request that does not get as far as its file gets an ERROR packet. -/
theorem receivedRequest_of_not_opens (h : ¬ server.Opens disk request) :
    ∃ errorCode errorMessage, server.receivedRequest disk request =
      .errorOperation request.remote errorCode errorMessage := by
  rw [receivedRequest]
  split_ifs with hmode
  · exact ⟨_, _, rfl⟩
  · dsimp only
    cases hcheck : checkFilename disk.toFileSystem server.baseDir (Path.ofText request.filename)
        (request.requestType = .read) with
    | beyondEnd =>
      exact absurd ⟨not_not.mp hmode, Or.inl (checkFilename_eq_beyondEnd_iff.mp hcheck)⟩ h
    | rejected => exact ⟨_, _, rfl⟩
    | accepted filePath =>
      cases htype : request.requestType with
      | read =>
        refine ⟨_, _, if_pos ?_⟩
        by_contra hopens
        refine h ⟨not_not.mp hmode, Or.inr ⟨⟨filePath, hcheck⟩, ?_⟩⟩
        simpa [htype] using hopens
      | write =>
        refine ⟨_, _, if_pos ?_⟩
        by_contra hopens
        refine h ⟨not_not.mp hmode, Or.inr ⟨⟨filePath, hcheck⟩, ?_⟩⟩
        simpa [htype] using hopens

/-- **A request that gets as far as its file** gets an operation, or ends the application. -/
theorem receivedRequest_of_opens (h : server.Opens disk request) :
    (∃ o : ServerOperation, server.receivedRequest disk request = .started o ∧ o.Fresh ∧
      o.base.completionHandlerV = true) ∨
      server.receivedRequest disk request = .filesystemError ∨
      server.receivedRequest disk request = .beyondEnd := by
  obtain ⟨hmode, habove | ⟨⟨filePath, hcheck⟩, hopens⟩⟩ := h
  · refine Or.inr (Or.inr ?_)
    rw [receivedRequest, if_neg (not_not.mpr hmode)]
    dsimp only
    rw [checkFilename_eq_beyondEnd_iff.mpr habove]
  · rw [receivedRequest, if_neg (not_not.mpr hmode)]
    dsimp only
    rw [hcheck]
    cases htype : request.requestType with
    | read =>
      simp only [htype] at hopens
      dsimp only
      rw [transmitFile, hopens]
      cases disk.fileSize (server.baseDir.append (Path.ofText request.filename)) with
      | none => exact Or.inr (Or.inl rfl)
      | some size => exact Or.inl ⟨_, rfl, ⟨ReadOperationImpl.idle_configured _, rfl⟩, rfl⟩
    | write =>
      simp only [htype] at hopens
      dsimp only
      rw [receiveFile, hopens]
      exact Or.inl ⟨_, rfl, ⟨WriteOperationImpl.idle_configured _, rfl⟩, rfl⟩

/-- An RRQ at the server that offers what is below `/srv/tftp`. -/
def smallRead (filename : String) : ReceivedTftpRequest where
  remote := ⟨.v4 0x7F000001, 50000⟩
  requestType := .read
  filename := ascii filename
  mode := .octet
  clientOptions := {}
  additionalClientOptions := Protocol.SortedMap.empty

/-- That server. -/
def smallServer : TftpServer where
  baseDir := Path.ofText (ascii "/srv/tftp")

/-- **The base directory itself is asked for**: it is accepted and opened, and has no size. -/
theorem not_served_directory :
    ¬ smallServer.Served { toFileSystem := smallFiles } (smallRead ".") ∧
      (smallServer.receivedRequest { toFileSystem := smallFiles } (smallRead ".")).thrown =
        some .otherException := by
  have hthrown : (smallServer.receivedRequest { toFileSystem := smallFiles }
      (smallRead ".")).thrown = some .otherException := by decide
  refine ⟨fun h => ?_, hthrown⟩
  rcases h.returned with hnone | hcaught
  · cases hthrown.symm.trans hnone
  · cases hthrown.symm.trans hcaught

/-- The file there is served. -/
theorem served_file : smallServer.Served { toFileSystem := smallFiles } (smallRead "f") :=
  (served_iff _ _ _).mpr fun _ => by
    refine ⟨by decide, fun _ filePath hbelow => ?_⟩
    obtain ⟨r, hr, rfl, -⟩ := hbelow
    have heq : r = (Path.ofText (ascii "/srv/tftp"), Path.ofText (ascii "/srv/tftp/f")) := by
      have hresolved : resolved smallFiles (Path.ofText (ascii "/srv/tftp"))
          (Path.ofText (ascii "f")) =
            some (Path.ofText (ascii "/srv/tftp"), Path.ofText (ascii "/srv/tftp/f")) := by decide
      exact (Option.some.inj (hresolved.symm.trans hr)).symm
    rw [heq]
    exact Or.inl (by decide)

end TftpServer

end Tftp
