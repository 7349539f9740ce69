import KanchoNet.Core.EngineConfig
import KanchoNet.Lib.ResourceLedger
import KanchoNet.Session.SessionManager

/-!
Initialize and Shutdown of the four models, with what they take from the operating
system. Each variable that stores a handle is a field; what a call answers is an
argument. Sockets of sessions are not taken by Initialize and are left out.
-/
namespace KanchoNet
open ResourceLedger

inductive Resource where
  | winsock
  | socket
  | epoll
  | ring
  | completionPort
  | event
  | completionQueue
  | memory
  | registeredBuffer
  deriving DecidableEq

inductive ErrorCode where
  | ioUringNotSupported
  | rioNotSupported
  deriving DecidableEq

structure ErrorReports where
  mOnError : Bool
  errors : List ErrorCode

def ErrorReports.onError (r : ErrorReports) (error : ErrorCode) : ErrorReports :=
  if r.mOnError then { r with errors := r.errors ++ [error] } else r

/-- InitializeNetwork takes nothing on Linux, and CleanupNetwork gives nothing back. -/
structure EpollHandles where
  mInitialized : Bool
  mRunning : Bool
  mConfig : EngineConfig
  mEpollFd : Handle
  mListenSocket : Handle
  mSessionManager : SessionManager Fd
  os : Ledger Resource

namespace EpollHandles

structure Answers where
  config : EngineConfig
  epoll : Bool
  listenSocket : Bool
  bound : Bool

def initializeModel (a : Answers) (m : EpollHandles) : Bool × EpollHandles :=
  if m.mInitialized then (false, m)
  else
    let (mEpollFd, os) := acquire .epoll a.epoll m.os
    let m := { m with mConfig := a.config, mEpollFd, os }
    if m.mEpollFd = none then (false, m)
    else
      let (mListenSocket, os) := acquire .socket a.listenSocket m.os
      let m := { m with mListenSocket, os }
      if m.mListenSocket = none then (false, { m with os := release m.mEpollFd m.os })
      else if ¬a.bound then
        (false, { m with os := release m.mEpollFd (release m.mListenSocket m.os) })
      else (true, { m with
        mSessionManager := SessionManager.construct a.config.mMaxSessions
        mInitialized := true })

def shutdown (m : EpollHandles) : EpollHandles :=
  if ¬m.mInitialized then m
  else { m with
    mRunning := false
    mSessionManager := m.mSessionManager.clear
    os := release m.mEpollFd (release m.mListenSocket m.os)
    mListenSocket := none
    mEpollFd := none
    mInitialized := false }

end EpollHandles

structure IOUringHandles where
  mInitialized : Bool
  mRunning : Bool
  mConfig : EngineConfig
  mRing : Handle
  mRingInitialized : Bool
  mListenSocket : Handle
  mSessionManager : SessionManager Fd
  mIOUringSupportChecked : Bool
  mIOUringSupported : Bool
  reports : ErrorReports
  os : Ledger Resource

namespace IOUringHandles

structure Answers where
  config : EngineConfig
  testRing : Bool
  ring : Bool
  listenSocket : Bool
  bound : Bool

def isIOUringSupported (a : Answers) (m : IOUringHandles) : Bool × IOUringHandles :=
  if m.mIOUringSupportChecked then (m.mIOUringSupported, m)
  else
    let (testRing, os) := acquire .ring a.testRing m.os
    let m := { m with
      os := release testRing os
      mIOUringSupported := testRing.isSome
      mIOUringSupportChecked := true }
    (m.mIOUringSupported, m)

def createIOUring (a : Answers) (m : IOUringHandles) : Bool × IOUringHandles :=
  let (mRing, os) := acquire .ring a.ring m.os
  if mRing = none then (false, { m with mRing, os })
  else (true, { m with mRing, os, mRingInitialized := true })

/-- io_uring_queue_exit is called on mRing whatever mRingInitialized says. -/
def initializeModel (a : Answers) (m : IOUringHandles) : Bool × IOUringHandles :=
  if m.mInitialized then (false, m)
  else
    let (supported, m) := m.isIOUringSupported a
    if ¬supported then (false, { m with reports := m.reports.onError .ioUringNotSupported })
    else
      let (created, m) := { m with mConfig := a.config }.createIOUring a
      if ¬created then (false, m)
      else
        let (mListenSocket, os) := acquire .socket a.listenSocket m.os
        let m := { m with mListenSocket, os }
        if m.mListenSocket = none then (false, { m with os := release m.mRing m.os })
        else if ¬a.bound then
          (false, { m with os := release m.mRing (release m.mListenSocket m.os) })
        else (true, { m with
          mSessionManager := SessionManager.construct a.config.mMaxSessions
          mInitialized := true })

def shutdown (m : IOUringHandles) : IOUringHandles :=
  if ¬m.mInitialized then m
  else
    let os := release m.mListenSocket m.os
    { m with
      mRunning := false
      mSessionManager := m.mSessionManager.clear
      os := if m.mRingInitialized then release m.mRing os else os
      mListenSocket := none
      mRingInitialized := false
      mInitialized := false }

end IOUringHandles

/-- The source stores no handle for what WSAStartup gives; winsock stands for it. -/
structure IOCPHandles where
  mInitialized : Bool
  mRunning : Bool
  mConfig : EngineConfig
  winsock : Handle
  mIocpHandle : Handle
  mListenSocket : Handle
  mSessionManager : SessionManager SOCKET
  os : Ledger Resource

namespace IOCPHandles

structure Answers where
  config : EngineConfig
  winsock : Bool
  completionPort : Bool
  listenSocket : Bool
  extensionFunctions : Bool
  bound : Bool

def cleanupNetwork (m : IOCPHandles) : IOCPHandles :=
  { m with winsock := none, os := release m.winsock m.os }

def initializeModel (a : Answers) (m : IOCPHandles) : Bool × IOCPHandles :=
  if m.mInitialized then (false, m)
  else
    let (winsock, os) := acquire .winsock a.winsock m.os
    let m := { m with mConfig := a.config, winsock, os }
    if m.winsock = none then (false, m)
    else
      let (mIocpHandle, os) := acquire .completionPort a.completionPort m.os
      let m := { m with mIocpHandle, os }
      if m.mIocpHandle = none then (false, m.cleanupNetwork)
      else
        let (mListenSocket, os) := acquire .socket a.listenSocket m.os
        let m := { m with mListenSocket, os }
        if m.mListenSocket = none then
          (false, { m with os := release m.mIocpHandle m.os }.cleanupNetwork)
        else if ¬a.extensionFunctions then
          (false, { m with
            os := release m.mIocpHandle (release m.mListenSocket m.os) }.cleanupNetwork)
        else if ¬a.bound then
          (false, { m with
            os := release m.mIocpHandle (release m.mListenSocket m.os) }.cleanupNetwork)
        else (true, { m with
          mSessionManager := SessionManager.construct a.config.mMaxSessions
          mInitialized := true })

def shutdown (m : IOCPHandles) : IOCPHandles :=
  if ¬m.mInitialized then m
  else { m with
    mRunning := false
    mSessionManager := m.mSessionManager.clear
    os := release m.mIocpHandle (release m.mListenSocket m.os)
    mListenSocket := none
    mIocpHandle := none
    mInitialized := false }.cleanupNetwork

end IOCPHandles

/-- An object's buffer infos start as zeros, which is not the invalid id. -/
inductive RIO_BUFFERID where
  | zero
  | invalid
  | registered (handle : Nat)
  deriving DecidableEq

structure RIOBufferInfo where
  bufferID : RIO_BUFFERID
  buffer : Handle
  bufferSize : UInt64
  bufferCount : UInt64

structure RIOHandles where
  mInitialized : Bool
  mRunning : Bool
  mConfig : EngineConfig
  winsock : Handle
  mListenSocket : Handle
  mCompletionQueue : Handle
  hEvent : Handle
  mRecvBufferInfo : RIOBufferInfo
  mSendBufferInfo : RIOBufferInfo
  mSessionManager : SessionManager SOCKET
  mRioSupportChecked : Bool
  mRioSupported : Bool
  reports : ErrorReports
  os : Ledger Resource

namespace RIOHandles

structure Answers where
  config : EngineConfig
  supported : Bool
  winsock : Bool
  listenSocket : Bool
  rioFunctions : Bool
  event : Bool
  completionQueue : Bool
  receiveBuffer : Bool
  sendBuffer : Bool
  bound : Bool

def isRIOSupported (a : Answers) (m : RIOHandles) : Bool × RIOHandles :=
  if m.mRioSupportChecked then (m.mRioSupported, m)
  else (a.supported, { m with mRioSupported := a.supported, mRioSupportChecked := true })

def registerBuffer (bufferSize bufferCount : UInt64) (registers : Bool)
    (os : Ledger Resource) : Bool × RIOBufferInfo × Ledger Resource :=
  let (buffer, os) := acquire .memory true os
  let (bufferID, os) := acquire .registeredBuffer registers os
  match bufferID with
  | none => (false, ⟨.invalid, none, bufferSize, bufferCount⟩, release buffer os)
  | some handle => (true, ⟨.registered handle, buffer, bufferSize, bufferCount⟩, os)

def deregisterBuffer (bufferInfo : RIOBufferInfo) (os : Ledger Resource) :
    RIOBufferInfo × Ledger Resource :=
  let (bufferID, os) := match bufferInfo.bufferID with
    | .invalid => (RIO_BUFFERID.invalid, os)
    -- there is no registration behind a zero id
    | .zero => (.invalid, os)
    | .registered handle => (.invalid, release (some handle) os)
  ({ bufferInfo with bufferID, buffer := none }, release bufferInfo.buffer os)

/-- The result of CreateEvent is not looked at. -/
def createRIOResources (a : Answers) (m : RIOHandles) : Bool × RIOHandles :=
  let (hEvent, os) := acquire .event a.event m.os
  let (mCompletionQueue, os) := acquire .completionQueue a.completionQueue os
  let m := { m with hEvent, mCompletionQueue, os }
  if m.mCompletionQueue = none then (false, m)
  else
    let (registered, mRecvBufferInfo, os) := registerBuffer m.mConfig.mRecvBufferSize
      m.mConfig.mRioReceiveBufferCount.toUInt64 a.receiveBuffer m.os
    let m := { m with mRecvBufferInfo, os }
    if ¬registered then (false, m)
    else
      let (registered, mSendBufferInfo, os) := registerBuffer m.mConfig.mSendBufferSize
        m.mConfig.mRioSendBufferCount.toUInt64 a.sendBuffer m.os
      let m := { m with mSendBufferInfo, os }
      if ¬registered then
        let (mRecvBufferInfo, os) := deregisterBuffer m.mRecvBufferInfo m.os
        (false, { m with mRecvBufferInfo, os })
      else (true, m)

def cleanupNetwork (m : RIOHandles) : RIOHandles :=
  { m with winsock := none, os := release m.winsock m.os }

def closeListenSocket (m : RIOHandles) : RIOHandles :=
  { m with os := release m.mListenSocket m.os }

def deregisterBuffers (m : RIOHandles) : RIOHandles :=
  let (mRecvBufferInfo, os) := deregisterBuffer m.mRecvBufferInfo m.os
  let (mSendBufferInfo, os) := deregisterBuffer m.mSendBufferInfo os
  { m with mRecvBufferInfo, mSendBufferInfo, os }

def initializeResources (a : Answers) (m : RIOHandles) : Bool × RIOHandles :=
  let (created, m) := m.createRIOResources a
  if ¬created then (false, m.closeListenSocket.cleanupNetwork)
  else if ¬a.bound then (false, m.deregisterBuffers.closeListenSocket.cleanupNetwork)
  else (true, { m with
    mSessionManager := SessionManager.construct a.config.mMaxSessions
    mInitialized := true })

def initializeModel (a : Answers) (m : RIOHandles) : Bool × RIOHandles :=
  if m.mInitialized then (false, m)
  else
    let (supported, m) := { m with mConfig := a.config }.isRIOSupported a
    if ¬supported then (false, { m with reports := m.reports.onError .rioNotSupported })
    else
      let (winsock, os) := acquire .winsock a.winsock m.os
      let m := { m with winsock, os }
      if m.winsock = none then (false, m)
      else
        let (mListenSocket, os) := acquire .socket a.listenSocket m.os
        let m := { m with mListenSocket, os }
        if m.mListenSocket = none then (false, m.cleanupNetwork)
        else if ¬a.rioFunctions then (false, m.closeListenSocket.cleanupNetwork)
        else m.initializeResources a

/-- hEvent is not closed. -/
def shutdown (m : RIOHandles) : RIOHandles :=
  if ¬m.mInitialized then m
  else
    let m := { m with mRunning := false, mSessionManager := m.mSessionManager.clear }
    let m := { m with os := release m.mCompletionQueue m.os, mCompletionQueue := none }
    { m.deregisterBuffers.closeListenSocket.cleanupNetwork with
      mListenSocket := none, mInitialized := false }

end RIOHandles
end KanchoNet
