import KanchoNet.Buffer.RingBufferMoves
import KanchoNet.Session.Session

/-!
The move operations of Session, on a session with both of its ring buffers. The
network models never move a session; their sessions hold buffers that keep their
invariant.
-/
namespace KanchoNet
open RingBuffer

def INVALID_SESSION_ID : SessionID := 0

/-- All the fields of a session. User data is the address behind a void pointer. -/
structure MovableSession (Handle : Type) where
  mID : SessionID
  mSocket : Handle
  mState : SessionState
  mSendBuffer : RingBuffer
  mRecvBuffer : RingBuffer
  mUserData : UInt64
  mIsSending : Bool
  mConfig : SessionConfig
  mLock : SpinLock

namespace MovableSession
variable {Handle : Type} (invalidSocketHandle : Handle)

def leaving (other : MovableSession Handle) (mSendBuffer mRecvBuffer : RingBuffer) :
    MovableSession Handle :=
  { other with
    mID := INVALID_SESSION_ID
    mSocket := invalidSocketHandle
    mSendBuffer
    mRecvBuffer
    mUserData := 0 }

def moveConstruct (other : MovableSession Handle) : MovableSession Handle × MovableSession Handle :=
  let (mSendBuffer, sendLeft) := other.mSendBuffer.moveConstruct
  let (mRecvBuffer, recvLeft) := other.mRecvBuffer.moveConstruct
  ({ mID := other.mID
     mSocket := other.mSocket
     mState := other.mState
     mSendBuffer
     mRecvBuffer
     mUserData := other.mUserData
     mIsSending := other.mIsSending
     mConfig := other.mConfig
     mLock := ⟨false⟩ }, other.leaving invalidSocketHandle sendLeft recvLeft)

def moveAssign (session other : MovableSession Handle) (sameObject : Bool) :
    MovableSession Handle × MovableSession Handle :=
  if !sameObject then
    let (mSendBuffer, sendLeft) := session.mSendBuffer.moveAssign other.mSendBuffer false
    let (mRecvBuffer, recvLeft) := session.mRecvBuffer.moveAssign other.mRecvBuffer false
    ({ session with
        mID := other.mID
        mSocket := other.mSocket
        mState := other.mState
        mSendBuffer
        mRecvBuffer
        mUserData := other.mUserData
        mIsSending := other.mIsSending
        mConfig := other.mConfig }, other.leaving invalidSocketHandle sendLeft recvLeft)
  else (session, other)

/-- Both buffers are moved by the ring buffer's own move; the state, the flag, the
    settings and the lock stay with the source. -/
structure BuffersMoved (other : MovableSession Handle)
    (moved : MovableSession Handle × MovableSession Handle) : Prop where
  sending : (moved.1.mSendBuffer, moved.2.mSendBuffer) = other.mSendBuffer.moveConstruct
  receiving : (moved.1.mRecvBuffer, moved.2.mRecvBuffer) = other.mRecvBuffer.moveConstruct
  state : moved.1.mState = other.mState ∧ moved.2.mState = other.mState
  isSending : moved.2.mIsSending = other.mIsSending
  config : moved.2.mConfig = other.mConfig
  lock : moved.2.mLock = other.mLock

theorem moveConstruct_moves (other : MovableSession Handle) :
    BuffersMoved other (moveConstruct invalidSocketHandle other) :=
  ⟨rfl, rfl, ⟨rfl, rfl⟩, rfl, rfl, rfl⟩

theorem moveAssign_moves (other session : MovableSession Handle) :
    BuffersMoved other (moveAssign invalidSocketHandle session other false) :=
  ⟨rfl, rfl, ⟨rfl, rfl⟩, rfl, rfl, rfl⟩

end MovableSession

/-- A move leaves both sides usable for exactly the later uses of the source that
    neither ask for its free space nor take a remainder by its capacity. -/
theorem moves_leave_both_usable_iff {Handle : Type} {other : RingBuffer}
    (reachable : Reachable other) (ring : RingBuffer) (uses : List Use)
    (invalidSocketHandle : Handle) (session target : MovableSession Handle) :
    (MoveUsable other other.moveConstruct uses ↔ ∀ use ∈ uses, use.spared) ∧
    (MoveUsable other (ring.moveAssign other false) uses ↔ ∀ use ∈ uses, use.spared) ∧
    session.BuffersMoved (session.moveConstruct invalidSocketHandle) ∧
    session.BuffersMoved (target.moveAssign invalidSocketHandle session false) :=
  ⟨moveUsable_iff reachable uses, moveUsable_iff reachable uses,
    session.moveConstruct_moves invalidSocketHandle,
    session.moveAssign_moves invalidSocketHandle target⟩

/- Skipping, clearing and asking for the unread bytes of a moved-from buffer is fine, also
   when bytes have gone to the destination. -/
theorem moves_leave_source_readable : ∃ queued, Reachable queued ∧ queued.contents = [1, 2, 3] ∧
    MoveUsable queued queued.moveConstruct
      [.call (.skip 1), .call .clear, .isEmpty, .query .availableRead] := by
  have session : MovableSession Fd :=
    ⟨7, 5, .connected, construct 16, construct 16, 0, false, .default, ⟨false⟩⟩
  have start : Reachable (construct 8) := .constructed (by decide)
  obtain ⟨queued, reachable, contents⟩ : ∃ queued, Reachable queued ∧
      queued.contents = [1, 2, 3] :=
    ⟨_, @Reachable.called _ _ (.write ⟨some [1, 2, 3], 3, by simp⟩) _ start rfl, rfl⟩
  have iff := moves_leave_both_usable_iff reachable (construct 4)
    [.call (.skip 1), .call .clear, .isEmpty, .query .availableRead] INVALID_SOCKET_HANDLE
    session session
  refine ⟨queued, reachable, contents, iff.1.mpr ?_⟩
  simp [Use.spared]

/- A buffer for eight bytes is moved; one byte is then written to the source. It is
   told that 2^64 - 1 bytes are free and copies to storage it does not have. -/
theorem moved_from_write_leaves_storage :
    Reachable (construct 8) ∧ (construct 8).moveConstruct.2.mBuffer = [] ∧
      (construct 8).moveConstruct.2.getAvailableWrite = 18446744073709551615 ∧
      (construct 8).moveConstruct.2.write (some [1]) 1 = none ∧
      (construct 8).moveConstruct.2.commitRead 0 = none ∧
      ¬MoveUsable (construct 8) (construct 8).moveConstruct
        [.call (.write ⟨some [1], 1, by simp⟩)] := by
  refine ⟨.constructed (by decide), rfl, by decide, by decide, by decide, ?_⟩
  intro moved
  have total := moved.usable.1.defined
  revert total
  decide

end KanchoNet
