import KanchoNet.Lib.CyclicWindow
import KanchoNet.Lib.CheckedMemory
import KanchoNet.Lib.Conversions
import KanchoNet.Lib.BoundedFifo
import KanchoNet.Lib.LabelledRuns
import KanchoNet.Lib.Interleavings
import KanchoNet.Lib.ReplyingMachines
import KanchoNet.Lib.GuardedSections
import KanchoNet.Lib.GrowableArray
import KanchoNet.Lib.OutgoingStream
import KanchoNet.Lib.ResourceLedger
import KanchoNet.Lib.SingleRequests
import KanchoNet.Lib.BoundedRelay
import KanchoNet.Lib.CStrings
import KanchoNet.Lib.Tables
import KanchoNet.Buffer.RingBuffer
import KanchoNet.Buffer.RingBufferFifo
import KanchoNet.Buffer.RingBufferDirect
import KanchoNet.Buffer.RingBufferMoves
import KanchoNet.Buffer.LiveRing
import KanchoNet.Buffer.PacketStorage
import KanchoNet.Buffer.PacketStrings
import KanchoNet.Buffer.PacketFailures
import KanchoNet.Buffer.BufferPool
import KanchoNet.Buffer.PoolCapacity
import KanchoNet.Core.EngineConfig
import KanchoNet.Session.Session
import KanchoNet.Utils.SpinLock
import KanchoNet.Session.SessionMoves
import KanchoNet.Session.SessionManager
import KanchoNet.Session.SessionTable
import KanchoNet.Network.EpollRegistry
import KanchoNet.Network.EpollSend
import KanchoNet.Network.EpollStream
import KanchoNet.Network.EpollPending
import KanchoNet.Network.EpollServer
import KanchoNet.Network.EpollHandlers
import KanchoNet.Network.EpollIndexes
import KanchoNet.Network.AcceptLoop
import KanchoNet.Network.EpollMoments
import KanchoNet.Network.EpollDispatch
import KanchoNet.Network.EpollViews
import KanchoNet.Core.NetworkEngine
import KanchoNet.Core.Application
import KanchoNet.Network.EpollWorkers
import KanchoNet.Network.WorkerStreams
import KanchoNet.Network.WorkerPhases
import KanchoNet.Network.WorkerCallbacks
import KanchoNet.Network.WorkerPlaces
import KanchoNet.Network.EdgeTriggered
import KanchoNet.Network.StrandedInput
import KanchoNet.Network.SingleWorker
import KanchoNet.Network.IOCPSend
import KanchoNet.Network.IOCPStream
import KanchoNet.Network.PendingSends
import KanchoNet.Network.CompletionQueue
import KanchoNet.Network.IOCPModel
import KanchoNet.Network.IOCPSessions
import KanchoNet.Network.IOCPAccept
import KanchoNet.Network.IOUringModel
import KanchoNet.Network.SessionLocks
import KanchoNet.Network.LockScopes
import KanchoNet.Network.IOUringSessions
import KanchoNet.Network.IOUringServer
import KanchoNet.Network.RingContexts
import KanchoNet.Network.IOUringWorkers
import KanchoNet.Network.IOUringSilence
import KanchoNet.Network.IOUringReplies
import KanchoNet.Network.IOUringPlaces
import KanchoNet.Network.Disconnects
import KanchoNet.Network.FailedAccepts
import KanchoNet.Network.IOCPSockets
import KanchoNet.Network.IOCPWorkers
import KanchoNet.Network.IOCPDeliveries
import KanchoNet.Network.ReceiveChain
import KanchoNet.Network.SendAtomicity
import KanchoNet.Network.Initialization
import KanchoNet.Network.FailedInitialization
import KanchoNet.Network.SocketUtils
import KanchoNet.Network.DerivedQuantities
import KanchoNet.Examples.EchoServer
import KanchoNet.Examples.Shutdown
import KanchoNet.Examples.ChatProtocol
import KanchoNet.Examples.ChatServer
import KanchoNet.Examples.ChatRoom
import KanchoNet.Examples.UnjoinedWorkers
