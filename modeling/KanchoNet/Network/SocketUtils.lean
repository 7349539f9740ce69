import KanchoNet.Core.EngineConfig
import KanchoNet.Lib.Conversions

/-!
The options that SocketUtils sets on a socket for a configuration. A call of the
operating system is recorded with the value it is given; whether it succeeds is an
argument. What is only logged is left out.
-/
namespace KanchoNet
open Conversions

inductive Platform where
  | windows
  | linux
  deriving DecidableEq

inductive SocketOption where
  | SO_REUSEADDR
  | TCP_NODELAY
  | SO_KEEPALIVE
  | SO_SNDBUF
  | SO_RCVBUF
  | TCP_KEEPIDLE
  | TCP_KEEPINTVL
  | TCP_KEEPCNT
  | SIO_KEEPALIVE_VALS
  deriving DecidableEq

inductive SystemCall where
  | setsockopt (option : SocketOption) (optval : Int32)
  | keepAliveVals (onoff keepalivetime keepaliveinterval : UInt32)
  | listen (backlog : Int32)
  deriving DecidableEq

namespace SocketUtils

def setOption (option : SocketOption) (optval : Int32) (answers : SocketOption → Bool) :
    Bool × List SystemCall :=
  (answers option, [.setsockopt option optval])

def setReuseAddress (reuse : Bool) : (SocketOption → Bool) → Bool × List SystemCall :=
  setOption .SO_REUSEADDR (if reuse then 1 else 0)

def setNoDelay (noDelay : Bool) : (SocketOption → Bool) → Bool × List SystemCall :=
  setOption .TCP_NODELAY (if noDelay then 1 else 0)

def setSendBufferSize (size : Int32) : (SocketOption → Bool) → Bool × List SystemCall :=
  setOption .SO_SNDBUF size

def setRecvBufferSize (size : Int32) : (SocketOption → Bool) → Bool × List SystemCall :=
  setOption .SO_RCVBUF size

def keepSeconds (milliseconds : UInt32) : Int32 := (milliseconds / 1000).toInt32

/-- On Linux the results of the last three calls are not looked at. -/
def setKeepAlive (platform : Platform) (enable : Bool) (time interval : UInt32)
    (answers : SocketOption → Bool) : Bool × List SystemCall :=
  let (result, calls) := setOption .SO_KEEPALIVE (if enable then 1 else 0) answers
  if ¬result ∨ ¬enable then (result, calls)
  else
    match platform with
    | .windows => (answers .SIO_KEEPALIVE_VALS, calls ++ [.keepAliveVals 1 time interval])
    | .linux =>
      let keepIdle := keepSeconds time
      let keepInterval := keepSeconds interval
      let keepCount := 5
      (true, calls ++ [.setsockopt .TCP_KEEPIDLE keepIdle,
        .setsockopt .TCP_KEEPINTVL keepInterval, .setsockopt .TCP_KEEPCNT keepCount])

/-- An option that can not be set is only warned about. -/
def setSocketOption (platform : Platform) (config : EngineConfig)
    (answers : SocketOption → Bool) : Bool × List SystemCall :=
  let (_, noDelay) := setNoDelay config.mNoDelay answers
  let (_, keepAlive) := setKeepAlive platform config.mKeepAlive config.mKeepAliveTime
    config.mKeepAliveInterval answers
  let (_, sendBuffer) := setSendBufferSize (sizeToInt config.mSendBufferSize) answers
  let (_, recvBuffer) := setRecvBufferSize (sizeToInt config.mRecvBufferSize) answers
  let (_, reuse) := setReuseAddress true answers
  (true, noDelay ++ keepAlive ++ sendBuffer ++ recvBuffer ++ reuse)

def listenSocket (backlog : Int32) (listens : Bool) : Bool × List SystemCall :=
  (listens, [.listen backlog])

end SocketUtils
end KanchoNet
