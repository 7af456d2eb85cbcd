import Tftp.Application.TftpServer
import Tftp.Clients.WriteOperation

/-!
# The client application

`tftp_client`: reads a file of the server into a local file, or writes a local file to the server,
with one operation of the library.

The size of a local file that is to be written is asked for before the operation is set up, and
that throws for anything but a regular file; then no operation is set up at all.
-/

namespace Tftp

open Clients

/-- What the command line of the application sets. -/
structure TftpClient where
  tftpConfiguration : TftpConfiguration := {}
  /-- The port of the server, which is a part of the TFTP configuration. -/
  tftpServerPort : UInt16 := 69
  tftpOptionsConfiguration : TftpOptionsConfiguration := {}
  localFile : Path
  remoteFile : RawData
  address : Address

namespace TftpClient

/-- `optionNegotiation`: no additional options are sent, so none must come back. -/
def optionNegotiation {δ : Type} : OptionNegotiationHandler δ :=
  fun handler serverOptions => (serverOptions.isEmpty, serverOptions, handler)

/-- The endpoint of the server. -/
def remote (client : TftpClient) : Endpoint := ⟨client.address, client.tftpServerPort⟩

/-- The local file that is read into. -/
def localSink (client : TftpClient) (disk : Disk) : StreamFile where
  operationV := .receive
  filenameV := client.localFile
  streamV := { failures := disk.failures }

/-- The local file that is written, of the given size. -/
def localSource (client : TftpClient) (disk : Disk) (size : ℕ) : StreamFile where
  operationV := .transmit
  filenameV := client.localFile
  streamV := { contents := disk.contentsOf client.localFile }
  sizeV := some (UInt64.ofNat size)

/-- `readOperation`. -/
def readOperation (client : TftpClient) (disk : Disk) : ReadOperationImpl StreamFile :=
  ReadOperationImpl.configured
    { tftpTimeout := client.tftpConfiguration.tftpTimeout
      tftpRetries := client.tftpConfiguration.tftpRetries
      dally := client.tftpConfiguration.dally
      optionsConfiguration := client.tftpOptionsConfiguration
      optionNegotiationHandler := some optionNegotiation
      completionHandler := true
      dataHandler := client.localSink disk
      filename := client.remoteFile
      mode := .octet
      remote := client.remote }

/-- `writeOperation`: nothing if the size of the file throws. -/
def writeOperation (client : TftpClient) (disk : Disk) : Option (WriteOperationImpl StreamFile) :=
  (disk.fileSize client.localFile).map fun size =>
    WriteOperationImpl.configured
      { tftpTimeout := client.tftpConfiguration.tftpTimeout
        tftpRetries := client.tftpConfiguration.tftpRetries
        optionsConfiguration := client.tftpOptionsConfiguration
        optionNegotiationHandler := some optionNegotiation
        completionHandler := true
        dataHandler := client.localSource disk size
        filename := client.remoteFile
        mode := .octet
        remote := client.remote }

end TftpClient

end Tftp
