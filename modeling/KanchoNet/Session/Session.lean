import KanchoNet.Buffer.LiveRing
import KanchoNet.Lib.GuardedSections

/-!
Sessions and the constants the network models share. A socket handle is an int
on Linux and a pointer-sized word on Windows, so sessions are generic in it.
-/
namespace KanchoNet
open GuardedSections

abbrev SessionID := UInt64

abbrev Fd := BitVec 32

def INVALID_SOCKET_HANDLE : Fd := -1

/-- A Winsock handle, as wide as a pointer. -/
abbrev SOCKET := BitVec 64

def DEFAULT_BUFFER_SIZE : UInt64 := 8192

inductive IOOperation where
  | accept
  | receive
  | send
  | disconnect
  deriving DecidableEq

inductive SessionState where
  | idle
  | connected
  | disconnecting
  | disconnected
  deriving DecidableEq

/-- The flag of a SpinLock; set while some thread holds the lock. -/
structure SpinLock where
  mFlag : Bool
  deriving DecidableEq

/-- The buffer size a session is made with. A vector that can be allocated at all
    is below 2^63 bytes. -/
structure SessionConfig where
  mMaxPacketSize : UInt64
  storable : (mMaxPacketSize * 2).toNat + 1 ≤ 2 ^ 63 - 1

/-- The default configuration, the only one the models use: 1 MiB packets. -/
def SessionConfig.default : SessionConfig := ⟨1024 * 1024, by decide⟩

structure Session (Handle : Type) where
  mID : SessionID
  mSocket : Handle
  mState : SessionState
  mSendBuffer : LiveRing
  mIsSending : Bool
  mLock : SpinLock

namespace Session
variable {Handle : Type}

def construct (id : SessionID) (socket : Handle) (config : SessionConfig) : Session Handle where
  mID := id
  mSocket := socket
  mState := .idle
  mSendBuffer := LiveRing.construct (config.mMaxPacketSize * 2) config.storable
  mIsSending := false
  mLock := ⟨false⟩

def isConnected (s : Session Handle) : Bool := s.mState == .connected

def isDisconnected (s : Session Handle) : Bool := s.mState == .disconnected

def setState (s : Session Handle) (state : SessionState) : Session Handle :=
  { s with mState := state }

def setSending (s : Session Handle) (sending : Bool) : Session Handle :=
  { s with mIsSending := sending }

def accepted (id : SessionID) (socket : Handle) (config : SessionConfig) : Session Handle :=
  (construct id socket config).setState .connected

def lock : Lock (Session Handle) where
  held s := s.mLock.mFlag
  set flag s := { s with mLock := ⟨flag⟩ }

def outgoing (s : Session Handle) : List UInt8 := s.mSendBuffer.queue

def freeSpace (s : Session Handle) : Nat := s.mSendBuffer.room

def writePacket (s : Session Handle) (packet : PacketBuffer) : UInt64 × Session Handle :=
  let (written, mSendBuffer) := s.mSendBuffer.write packet.argument
  (written, { s with mSendBuffer })

def skipSent (s : Session Handle) (size : UInt64) : Session Handle :=
  { s with mSendBuffer := s.mSendBuffer.skip size }

@[simp] theorem mIsSending_setSending (s : Session Handle) (b : Bool) :
    (s.setSending b).mIsSending = b := rfl

@[simp] theorem outgoing_lock (s : Session Handle) (b : Bool) :
    (lock.set b s).outgoing = s.outgoing := rfl

theorem lock_restored {s : Session Handle} (free : s.mLock.mFlag = false) (flag : Bool) :
    lock.set false (lock.set flag s) = s := by
  obtain ⟨_, _, _, _, _, ⟨_⟩⟩ := s
  cases free
  rfl

theorem outgoing_writePacket (s : Session Handle) (packet : PacketBuffer) :
    (s.writePacket packet).2.outgoing = s.outgoing ++ packet.contents.take s.freeSpace :=
  s.mSendBuffer.write_queue packet.argument

theorem writePacket_count (s : Session Handle) (packet : PacketBuffer) :
    (s.writePacket packet).1.toNat = min packet.contents.length s.freeSpace := by
  rw [packet.contents_length]
  exact s.mSendBuffer.write_count packet.argument

theorem freeSpace_writePacket (s : Session Handle) (packet : PacketBuffer) :
    (s.writePacket packet).2.freeSpace = s.freeSpace - packet.contents.length := by
  rw [packet.contents_length]
  exact s.mSendBuffer.write_room packet.argument

/-- The overflow test of Send: the packet is longer than the free space. -/
theorem writePacket_overflows_iff (s : Session Handle) (packet : PacketBuffer) :
    (s.writePacket packet).1 < packet.getSize ↔ s.freeSpace < packet.contents.length := by
  rw [UInt64.lt_iff_toNat_lt, writePacket_count, PacketBuffer.getSize, packet.contents_length]
  omega

/-- The bytes of a packet that Send's Write accepts. -/
def acceptedPrefix (s : Session Handle) (packet : PacketBuffer) : List UInt8 :=
  packet.contents.take (s.writePacket packet).1.toNat

theorem acceptedPrefix_eq_take (s : Session Handle) (packet : PacketBuffer) :
    s.acceptedPrefix packet = packet.contents.take s.freeSpace := by
  rw [acceptedPrefix, writePacket_count, Nat.min_comm, ← List.take_eq_take_min]

theorem outgoing_writePacket_accepted (s : Session Handle) (packet : PacketBuffer) :
    (s.writePacket packet).2.outgoing = s.outgoing ++ s.acceptedPrefix packet := by
  rw [outgoing_writePacket, acceptedPrefix_eq_take]

theorem acceptedPrefix_ne_nil {s : Session Handle} {packet : PacketBuffer}
    (packed : packet.contents ≠ []) (room : s.freeSpace ≠ 0) : s.acceptedPrefix packet ≠ [] := by
  have packed' := List.length_pos_iff.mpr packed
  rw [← List.length_pos_iff, acceptedPrefix, List.length_take,
    writePacket_count]
  omega

theorem freeSpace_ne_zero {s : Session Handle} {packet : PacketBuffer}
    (packed : packet.contents ≠ []) (fits : packet.contents.length ≤ s.freeSpace) :
    s.freeSpace ≠ 0 := by
  have packed' := List.length_pos_iff.mpr packed
  omega

theorem outgoing_writePacket_ne_nil {s : Session Handle} {packet : PacketBuffer}
    (packed : packet.contents ≠ []) (room : s.freeSpace ≠ 0) :
    (s.writePacket packet).2.outgoing ≠ [] := by
  intro none
  rw [outgoing_writePacket_accepted, List.append_eq_nil_iff] at none
  exact acceptedPrefix_ne_nil packed room none.2

theorem acceptedPrefix_full {s : Session Handle} (packet : PacketBuffer)
    (full : s.freeSpace = 0) : s.acceptedPrefix packet = [] := by
  rw [acceptedPrefix, writePacket_count, full, Nat.min_zero, List.take_zero]

theorem acceptedPrefix_whole {s : Session Handle} {packet : PacketBuffer}
    (fits : packet.contents.length ≤ s.freeSpace) : s.acceptedPrefix packet = packet.contents := by
  rw [acceptedPrefix, writePacket_count, Nat.min_eq_left fits, List.take_length]

theorem acceptedPrefix_eq_nil_iff {s : Session Handle} {packet : PacketBuffer}
    (packed : packet.contents ≠ []) : s.acceptedPrefix packet = [] ↔ s.freeSpace = 0 :=
  ⟨fun none => Classical.byContradiction fun room => acceptedPrefix_ne_nil packed room none,
    acceptedPrefix_full packet⟩

theorem acceptedPrefix_empty (s : Session Handle) {packet : PacketBuffer}
    (empty : packet.contents = []) : s.acceptedPrefix packet = [] := by
  rw [acceptedPrefix, empty, List.take_nil]

theorem outgoing_skipSent (s : Session Handle) (size : UInt64) :
    (s.skipSent size).outgoing = s.outgoing.drop size.toNat :=
  s.mSendBuffer.skip_queue size

theorem outgoing_accepted (id : SessionID) (socket : Handle) (config : SessionConfig) :
    (accepted id socket config).outgoing = [] :=
  LiveRing.construct_queue _ config.storable

theorem freeSpace_accepted (id : SessionID) (socket : Handle) (config : SessionConfig) :
    (accepted id socket config).freeSpace = (config.mMaxPacketSize * 2).toNat :=
  LiveRing.construct_room _ config.storable

end Session
end KanchoNet
