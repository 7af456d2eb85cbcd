import Tftp.Protocol.Run
import Tftp.Protocol.Rolling
import Tftp.Protocol.Chunks
import Tftp.Protocol.StopAndWait
import Tftp.Protocol.SortedMap
import Tftp.KnownOptions
import Tftp.Clients.ReadReceives
import Tftp.Servers.WriteReceives
import Tftp.Reception
import Tftp.Transmission
import Tftp.Clients.WriteSends
import Tftp.Servers.ReadSends
import Tftp.Servers.WriteOperation
import Tftp.Files.MemoryFile
import Tftp.Clients.Frozen
import Tftp.Starts
import Tftp.Completion
import Tftp.Retransmission
import Tftp.Clients.Foreign
import Tftp.Timers
import Tftp.Packets.Encoder
import Tftp.Packets.Format
import Tftp.Protocol.Terminated
import Tftp.Packets.Grammar
import Tftp.Packets.Assignment
import Tftp.Packets.PacketHandler
import Tftp.Agreement
import Tftp.Finishing
import Tftp.FinishedOnce
import Tftp.Servers.ServerImpl
import Tftp.Negotiation
import Tftp.Transfer
import Tftp.Lockstep
import Tftp.Linked
import Tftp.Networks
import Tftp.ReadTransfer
import Tftp.Integrity
import Tftp.Servers.Filename
import Tftp.Servers.Starting
import Tftp.Buffers
import Tftp.Clients.Renegotiation
import Tftp.Clients.Acceptance
import Tftp.Clients.FirstAnswer
import Tftp.Clients.Echo
import Tftp.Relations
import Tftp.Clients.GracefulAbort
import Tftp.Storing
import Tftp.Servers.Announcing
import Tftp.Servers.Listening
import Tftp.Servers.Acknowledged
import Tftp.Application.TftpServer
import Tftp.Application.Operations
import Tftp.Protocol.Shared
import Tftp.Application.Sharing
import Tftp.Matching
import Tftp.Clients.Reuse
import Tftp.Termination
import Tftp.Outcomes
import Tftp.Progress
import Tftp.Exchange
import Tftp.Exchanged
import Tftp.Hosts
import Tftp.Identifiers
import Tftp.Meetings
import Tftp.Servers.AnyOperation
import Tftp.Concurrent
import Tftp.Application.TftpClient
import Tftp.Application.Copying
