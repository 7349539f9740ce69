import KanchoNet.Network.Initialization
import KanchoNet.Network.SocketUtils

/-!
What the models derive from a configuration that Validate has accepted: the ints of
SocketUtils and ListenSocket, the seconds of the keep-alive options and the length of
each RIO buffer pool. Validate bounds the fields one by one.
-/
namespace KanchoNet
open Conversions ResourceLedger SocketUtils

/-- What RegisterBuffer asks operator new for, and the DWORD it gives RIORegisterBuffer
    for the same memory. -/
structure RegisteredSizes where
  totalSize : UInt64
  dataLength : UInt32

namespace RIOHandles

def registeredSizes (bufferSize bufferCount : UInt64) : RegisteredSizes :=
  let totalSize := bufferSize * bufferCount
  ⟨totalSize, totalSize.toUInt32⟩

structure RegistersAll (bufferSize bufferCount : UInt64) : Prop where
  allocated : (registeredSizes bufferSize bufferCount).totalSize.toNat =
    bufferSize.toNat * bufferCount.toNat
  registered : (registeredSizes bufferSize bufferCount).dataLength.toNat =
    bufferSize.toNat * bufferCount.toNat

theorem registersAll_iff (bufferSize bufferCount : UInt64) :
    RegistersAll bufferSize bufferCount ↔ bufferSize.toNat * bufferCount.toNat < 2 ^ 32 := by
  constructor
  · intro all
    exact (product_toUInt32_exact_iff bufferSize bufferCount).mp all.registered
  · intro small
    constructor
    · exact (product_exact_iff bufferSize bufferCount).mpr (Nat.lt_trans small (by decide))
    · exact (product_toUInt32_exact_iff bufferSize bufferCount).mpr small

def PoolsOf (config : EngineConfig) (m : RIOHandles) : Prop :=
  m.mRecvBufferInfo.bufferSize = config.mRecvBufferSize ∧
  m.mRecvBufferInfo.bufferCount = config.mRioReceiveBufferCount.toUInt64 ∧
  m.mSendBufferInfo.bufferSize = config.mSendBufferSize ∧
  m.mSendBufferInfo.bufferCount = config.mRioSendBufferCount.toUInt64

theorem createRIOResources_pools {a : Answers} {m : RIOHandles}
    (created : (createRIOResources a m).1 = true) :
    PoolsOf m.mConfig (createRIOResources a m).2 := by
  obtain ⟨config, support, winsock, listenSocket, rioFunctions, event, completionQueue,
    receiveBuffer, sendBuffer, bound⟩ := a
  cases completionQueue with
  | false => cases created
  | true =>
    cases receiveBuffer with
    | false => cases created
    | true =>
      cases sendBuffer with
      | false => cases created
      | true => exact ⟨rfl, rfl, rfl, rfl⟩

theorem initializeResources_pools {a : Answers} {m : RIOHandles}
    (initialized : (initializeResources a m).1 = true) :
    PoolsOf m.mConfig (initializeResources a m).2 := by
  have pools := @createRIOResources_pools a m
  unfold initializeResources at initialized ⊢
  generalize createRIOResources a m = result at pools initialized ⊢
  obtain ⟨created, u⟩ := result
  cases created with
  | false => cases initialized
  | true =>
    cases bound : a.bound with
    | false => simp [bound] at initialized
    | true => exact pools rfl

theorem initializeModel_pools {a : Answers} {m : RIOHandles}
    (initialized : (initializeModel a m).1 = true) :
    PoolsOf a.config (initializeModel a m).2 := by
  have kept : (isRIOSupported a { m with mConfig := a.config }).2.mConfig = a.config := by
    unfold isRIOSupported
    split
    · rfl
    · rfl
  unfold initializeModel at initialized ⊢
  split at initialized
  · cases initialized
  · rename_i fresh
    rw [if_neg fresh]
    generalize isRIOSupported a { m with mConfig := a.config } = check at kept initialized ⊢
    obtain ⟨supported, u⟩ := check
    dsimp only at kept initialized ⊢
    rw [← kept]
    cases supported with
    | false => cases initialized
    | true =>
      cases winsock : a.winsock with
      | false => simp [winsock, acquire] at initialized
      | true =>
        cases listenSocket : a.listenSocket with
        | false => simp [winsock, listenSocket, acquire] at initialized
        | true =>
          cases functions : a.rioFunctions with
          | false => simp [winsock, listenSocket, functions, acquire] at initialized
          | true =>
            simp only [winsock, listenSocket, functions, acquire, if_true, not_true_eq_false,
              if_false, reduceCtorEq] at initialized ⊢
            exact initializeResources_pools initialized

theorem initializeModel_registersAll_iff {a : Answers} {m : RIOHandles}
    (initialized : (initializeModel a m).1 = true) :
    (RegistersAll (initializeModel a m).2.mRecvBufferInfo.bufferSize
        (initializeModel a m).2.mRecvBufferInfo.bufferCount ∧
      RegistersAll (initializeModel a m).2.mSendBufferInfo.bufferSize
        (initializeModel a m).2.mSendBufferInfo.bufferCount) ↔
    a.config.mRecvBufferSize.toNat * a.config.mRioReceiveBufferCount.toNat < 2 ^ 32 ∧
    a.config.mSendBufferSize.toNat * a.config.mRioSendBufferCount.toNat < 2 ^ 32 := by
  obtain ⟨receiveSize, receiveCount, sendSize, sendCount⟩ := initializeModel_pools initialized
  rw [receiveSize, receiveCount, sendSize, sendCount, registersAll_iff, registersAll_iff]
  rfl

end RIOHandles

/-- The second is the smallest keep-alive time that the kernel accepts. -/
theorem keepSeconds_iff (milliseconds : UInt32) :
    1 ≤ (keepSeconds milliseconds).toInt ↔ 1000 ≤ milliseconds.toNat := by
  have seconds : (milliseconds / 1000).toNat = milliseconds.toNat / 1000 :=
    UInt32.toNat_div milliseconds 1000
  have below := milliseconds.toNat_lt
  have exact_seconds : (keepSeconds milliseconds).toInt = (milliseconds / 1000).toNat :=
    (toInt32_exact_iff (milliseconds / 1000)).mpr (by omega)
  rw [exact_seconds, seconds]
  omega

namespace EngineConfig

structure DerivedExact (c : EngineConfig) : Prop where
  sendBufferSize : (sizeToInt c.mSendBufferSize).toInt = c.mSendBufferSize.toNat
  recvBufferSize : (sizeToInt c.mRecvBufferSize).toInt = c.mRecvBufferSize.toNat
  backlog : c.mBacklog.toInt32.toInt = c.mBacklog.toNat
  receivePool : RIOHandles.RegistersAll c.mRecvBufferSize c.mRioReceiveBufferCount.toUInt64
  sendPool : RIOHandles.RegistersAll c.mSendBufferSize c.mRioSendBufferCount.toUInt64
  keepAlive : c.mKeepAlive = true →
    1 ≤ (keepSeconds c.mKeepAliveTime).toInt ∧ 1 ≤ (keepSeconds c.mKeepAliveInterval).toInt

def calls (platform : Platform) (answers : SocketOption → Bool) (listens : Bool)
    (c : EngineConfig) : List SystemCall :=
  (setSocketOption platform c answers).2 ++ (listenSocket c.mBacklog.toInt32 listens).2

def CallExact (c : EngineConfig) : SystemCall → Prop
  | .setsockopt .SO_SNDBUF optval => optval.toInt = c.mSendBufferSize.toNat
  | .setsockopt .SO_RCVBUF optval => optval.toInt = c.mRecvBufferSize.toNat
  | .setsockopt .TCP_KEEPIDLE optval => 1 ≤ optval.toInt
  | .setsockopt .TCP_KEEPINTVL optval => 1 ≤ optval.toInt
  | .listen backlog => backlog.toInt = c.mBacklog.toNat
  | _ => True

theorem setKeepAlive_exact {c : EngineConfig} (seconds : c.mKeepAlive = true →
      1 ≤ (keepSeconds c.mKeepAliveTime).toInt ∧ 1 ≤ (keepSeconds c.mKeepAliveInterval).toInt)
    (platform : Platform) (answers : SocketOption → Bool) :
    ∀ call ∈ (setKeepAlive platform c.mKeepAlive c.mKeepAliveTime c.mKeepAliveInterval
      answers).2, CallExact c call := by
  unfold setKeepAlive setOption
  dsimp only
  split
  · simp [CallExact]
  · rename_i enabled
    rw [not_or, not_not, not_not] at enabled
    obtain ⟨idle, interval⟩ := seconds enabled.2
    cases platform with
    | windows => simp [CallExact]
    | linux => simpa [CallExact] using ⟨idle, interval⟩

theorem mem_calls_iff {platform : Platform} {answers : SocketOption → Bool} {listens : Bool}
    {c : EngineConfig} {call : SystemCall} : call ∈ c.calls platform answers listens ↔
      call = .setsockopt .TCP_NODELAY (if c.mNoDelay then 1 else 0) ∨
      call ∈ (setKeepAlive platform c.mKeepAlive c.mKeepAliveTime c.mKeepAliveInterval answers).2 ∨
      call = .setsockopt .SO_SNDBUF (sizeToInt c.mSendBufferSize) ∨
      call = .setsockopt .SO_RCVBUF (sizeToInt c.mRecvBufferSize) ∨
      call = .setsockopt .SO_REUSEADDR 1 ∨ call = .listen c.mBacklog.toInt32 := by
  simp [calls, setSocketOption, setNoDelay, setSendBufferSize, setRecvBufferSize,
    setReuseAddress, setOption, listenSocket]

theorem derivedExact_iff_calls (c : EngineConfig) : c.DerivedExact ↔
    (∀ platform answers listens, ∀ call ∈ c.calls platform answers listens, CallExact c call) ∧
    RIOHandles.RegistersAll c.mRecvBufferSize c.mRioReceiveBufferCount.toUInt64 ∧
    RIOHandles.RegistersAll c.mSendBufferSize c.mRioSendBufferCount.toUInt64 := by
  constructor
  · intro derived
    refine ⟨?_, derived.receivePool, derived.sendPool⟩
    intro platform answers listens call member
    rcases mem_calls_iff.mp member with rfl | alive | rfl | rfl | rfl | rfl
    · trivial
    · exact setKeepAlive_exact derived.keepAlive platform answers call alive
    · exact derived.sendBufferSize
    · exact derived.recvBufferSize
    · trivial
    · exact derived.backlog
  · rintro ⟨told, receivePool, sendPool⟩
    -- on Linux, every call succeeding
    have exact_call : ∀ call, call ∈ c.calls .linux (fun _ => true) true → CallExact c call :=
      told .linux (fun _ => true) true
    constructor
    · exact exact_call _ (mem_calls_iff.mpr (Or.inr (Or.inr (Or.inl rfl))))
    · exact exact_call _ (mem_calls_iff.mpr (Or.inr (Or.inr (Or.inr (Or.inl rfl)))))
    · exact exact_call (.listen c.mBacklog.toInt32) (mem_calls_iff.mpr (by simp))
    · exact receivePool
    · exact sendPool
    · intro enabled
      have alive : ∀ call ∈ (setKeepAlive .linux c.mKeepAlive c.mKeepAliveTime
          c.mKeepAliveInterval fun _ => true).2, CallExact c call :=
        fun call member => exact_call call (mem_calls_iff.mpr (Or.inr (Or.inl member)))
      rw [enabled] at alive
      constructor
      · exact alive (.setsockopt .TCP_KEEPIDLE (keepSeconds c.mKeepAliveTime))
          (by simp [setKeepAlive, setOption])
      · exact alive (.setsockopt .TCP_KEEPINTVL (keepSeconds c.mKeepAliveInterval))
          (by simp [setKeepAlive, setOption])

/-- Both pools are below 4 GiB, and keep-alive times are at least a second. -/
structure Representable (c : EngineConfig) : Prop where
  receivePool : c.mRecvBufferSize.toNat * c.mRioReceiveBufferCount.toNat < 2 ^ 32
  sendPool : c.mSendBufferSize.toNat * c.mRioSendBufferCount.toNat < 2 ^ 32
  keepAlive : c.mKeepAlive = true →
    1000 ≤ c.mKeepAliveTime.toNat ∧ 1000 ≤ c.mKeepAliveInterval.toNat

theorem sizes_exact {c : EngineConfig} (bounds : WithinBounds c) :
    (sizeToInt c.mSendBufferSize).toInt = c.mSendBufferSize.toNat ∧
    (sizeToInt c.mRecvBufferSize).toInt = c.mRecvBufferSize.toNat ∧
    c.mBacklog.toInt32.toInt = c.mBacklog.toNat := by
  have sent := bounds.mSendBufferSize
  have received := bounds.mRecvBufferSize
  have waiting := bounds.mBacklog
  rw [sizeToInt_exact_iff, sizeToInt_exact_iff, toInt32_exact_iff]
  omega

/- No pool that Validate accepts wraps in 64 bits; only the DWORD is too short. -/
theorem pools_allocated {c : EngineConfig} (bounds : WithinBounds c) :
    (RIOHandles.registeredSizes c.mRecvBufferSize
        c.mRioReceiveBufferCount.toUInt64).totalSize.toNat =
      c.mRecvBufferSize.toNat * c.mRioReceiveBufferCount.toNat ∧
    (RIOHandles.registeredSizes c.mSendBufferSize c.mRioSendBufferCount.toUInt64).totalSize.toNat =
      c.mSendBufferSize.toNat * c.mRioSendBufferCount.toNat := by
  have most : 10 * 1024 * 1024 * 100000 < 2 ^ 64 := by decide
  have received := Nat.mul_le_mul bounds.mRecvBufferSize.2 bounds.mRioReceiveBufferCount.2
  have sent := Nat.mul_le_mul bounds.mSendBufferSize.2 bounds.mRioSendBufferCount.2
  constructor
  · exact (product_exact_iff _ _).mpr (Nat.lt_of_le_of_lt received most)
  · exact (product_exact_iff _ _).mpr (Nat.lt_of_le_of_lt sent most)

theorem keepAlive_iff (c : EngineConfig) :
    (c.mKeepAlive = true → 1 ≤ (keepSeconds c.mKeepAliveTime).toInt ∧
      1 ≤ (keepSeconds c.mKeepAliveInterval).toInt) ↔
    (c.mKeepAlive = true → 1000 ≤ c.mKeepAliveTime.toNat ∧ 1000 ≤ c.mKeepAliveInterval.toNat) := by
  rw [keepSeconds_iff, keepSeconds_iff]

/-- For a configuration that Validate accepts, everything derived is exact when neither
    pool has 4 GiB or more and no keep-alive time in use is below a second. -/
theorem derived_exact_iff {c : EngineConfig} (valid : c.validate = true) :
    c.DerivedExact ↔ c.Representable := by
  obtain ⟨sent, received, waiting⟩ := sizes_exact ((validate_iff c).mp valid)
  have receivePool := RIOHandles.registersAll_iff c.mRecvBufferSize
    c.mRioReceiveBufferCount.toUInt64
  have sendPool := RIOHandles.registersAll_iff c.mSendBufferSize c.mRioSendBufferCount.toUInt64
  constructor
  · intro derived
    constructor
    · exact receivePool.mp derived.receivePool
    · exact sendPool.mp derived.sendPool
    · exact (keepAlive_iff c).mp derived.keepAlive
  · intro fits
    constructor
    · exact sent
    · exact received
    · exact waiting
    · exact receivePool.mpr fits.receivePool
    · exact sendPool.mpr fits.sendPool
    · exact (keepAlive_iff c).mpr fits.keepAlive

theorem default_derived_exact : default.DerivedExact :=
  (derived_exact_iff (by decide)).mpr ⟨by decide, by decide, fun _ => by decide⟩

/-- 1024 receive buffers of 4 MiB. -/
def largePool : EngineConfig :=
  { default with mRecvBufferSize := 4 * 1024 * 1024, mRioReceiveBufferCount := 1024 }

def halfSecond : EngineConfig := { default with mKeepAliveInterval := 500 }

/- The large pool is registered with length 0, and the half second is set as 0. -/
theorem accepted_configurations_inexact :
    (largePool.validate = true ∧ ¬largePool.DerivedExact) ∧
    (halfSecond.validate = true ∧ ¬halfSecond.DerivedExact) := by
  refine ⟨⟨by decide, ?_⟩, ⟨by decide, ?_⟩⟩
  · intro derived
    have registered := derived.receivePool.registered
    exact absurd registered (by decide)
  · intro derived
    have seconds := (derived.keepAlive rfl).2
    exact absurd seconds (by decide)

end EngineConfig
end KanchoNet
