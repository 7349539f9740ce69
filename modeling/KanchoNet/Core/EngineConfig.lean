import Mathlib.Init

/-!
The engine's configuration and its check.
-/
namespace KanchoNet

structure EngineConfig where
  mPort : UInt16
  mMaxSessions : UInt32
  mBacklog : UInt32
  mSendBufferSize : UInt64
  mRecvBufferSize : UInt64
  mNoDelay : Bool
  mKeepAlive : Bool
  mKeepAliveTime : UInt32
  mKeepAliveInterval : UInt32
  mRioReceiveBufferCount : UInt32
  mRioSendBufferCount : UInt32
  mRioMaxOutstandingReceive : UInt32
  mRioMaxOutstandingSend : UInt32
  mRioCQSize : UInt32
  deriving DecidableEq

namespace EngineConfig

def default : EngineConfig where
  mPort := 9000
  mMaxSessions := 10000
  mBacklog := 200
  mSendBufferSize := 65536
  mRecvBufferSize := 65536
  mNoDelay := true
  mKeepAlive := true
  mKeepAliveTime := 7200000
  mKeepAliveInterval := 1000
  mRioReceiveBufferCount := 1024
  mRioSendBufferCount := 1024
  mRioMaxOutstandingReceive := 100
  mRioMaxOutstandingSend := 100
  mRioCQSize := 2048

def validate (c : EngineConfig) : Bool :=
  if c.mPort = 0 ∨ c.mPort < 1024 then false
  else if c.mMaxSessions = 0 ∨ c.mMaxSessions > 100000 then false
  else if c.mBacklog = 0 ∨ c.mBacklog > 10000 then false
  else if c.mSendBufferSize < 1024 ∨ c.mSendBufferSize > 10 * 1024 * 1024 then false
  else if c.mRecvBufferSize < 1024 ∨ c.mRecvBufferSize > 10 * 1024 * 1024 then false
  else if c.mRioReceiveBufferCount = 0 ∨ c.mRioReceiveBufferCount > 100000 then false
  else if c.mRioSendBufferCount = 0 ∨ c.mRioSendBufferCount > 100000 then false
  else if c.mRioCQSize < 128 ∨ c.mRioCQSize > 1000000 then false
  else true

structure WithinBounds (c : EngineConfig) : Prop where
  mPort : 1024 ≤ c.mPort.toNat
  mMaxSessions : 1 ≤ c.mMaxSessions.toNat ∧ c.mMaxSessions.toNat ≤ 100000
  mBacklog : 1 ≤ c.mBacklog.toNat ∧ c.mBacklog.toNat ≤ 10000
  mSendBufferSize : 1024 ≤ c.mSendBufferSize.toNat ∧ c.mSendBufferSize.toNat ≤ 10 * 1024 * 1024
  mRecvBufferSize : 1024 ≤ c.mRecvBufferSize.toNat ∧ c.mRecvBufferSize.toNat ≤ 10 * 1024 * 1024
  mRioReceiveBufferCount :
    1 ≤ c.mRioReceiveBufferCount.toNat ∧ c.mRioReceiveBufferCount.toNat ≤ 100000
  mRioSendBufferCount : 1 ≤ c.mRioSendBufferCount.toNat ∧ c.mRioSendBufferCount.toNat ≤ 100000
  mRioCQSize : 128 ≤ c.mRioCQSize.toNat ∧ c.mRioCQSize.toNat ≤ 1000000

theorem count_bounds_iff (n limit : UInt32) :
    ¬(n = 0 ∨ n > limit) ↔ 1 ≤ n.toNat ∧ n.toNat ≤ limit.toNat := by
  rw [not_or, ← UInt32.toNat_inj, gt_iff_lt, UInt32.lt_iff_toNat_lt]
  change ¬n.toNat = 0 ∧ _ ↔ _
  omega

theorem size_bounds_iff (n least most : UInt64) :
    ¬(n < least ∨ n > most) ↔ least.toNat ≤ n.toNat ∧ n.toNat ≤ most.toNat := by
  rw [not_or, gt_iff_lt, UInt64.lt_iff_toNat_lt, UInt64.lt_iff_toNat_lt]
  omega

theorem validate_iff (c : EngineConfig) : c.validate = true ↔ WithinBounds c := by
  have port : ¬(c.mPort = 0 ∨ c.mPort < 1024) ↔ 1024 ≤ c.mPort.toNat := by
    rw [not_or, ← UInt16.toNat_inj, UInt16.lt_iff_toNat_lt]
    change ¬c.mPort.toNat = 0 ∧ ¬c.mPort.toNat < 1024 ↔ _
    omega
  have queue : ¬(c.mRioCQSize < 128 ∨ c.mRioCQSize > 1000000) ↔
      128 ≤ c.mRioCQSize.toNat ∧ c.mRioCQSize.toNat ≤ 1000000 := by
    rw [not_or, gt_iff_lt, UInt32.lt_iff_toNat_lt, UInt32.lt_iff_toNat_lt]
    change ¬c.mRioCQSize.toNat < 128 ∧ ¬1000000 < c.mRioCQSize.toNat ↔ _
    omega
  simp only [validate, Bool.if_false_left, Bool.and_eq_true, Bool.not_eq_true',
    decide_eq_false_iff_not]
  rw [port, count_bounds_iff, count_bounds_iff, size_bounds_iff, size_bounds_iff,
    count_bounds_iff, count_bounds_iff, queue]
  constructor
  · rintro ⟨ports, sessions, backlog, sent, received, receivePool, sendPool, completions, _⟩
    exact ⟨ports, sessions, backlog, sent, received, receivePool, sendPool, completions⟩
  · intro bounds
    exact ⟨bounds.mPort, bounds.mMaxSessions, bounds.mBacklog, bounds.mSendBufferSize,
      bounds.mRecvBufferSize, bounds.mRioReceiveBufferCount, bounds.mRioSendBufferCount,
      bounds.mRioCQSize, trivial⟩

/-- The configuration an application gets without setting anything is valid. -/
theorem default_valid : default.validate = true := by decide

end EngineConfig
end KanchoNet
