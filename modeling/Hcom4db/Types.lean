import Mathlib.Data.Fintype.Pi
import Hcom4db.Base.FlatMem
import Hcom4db.Base.StdMap

/-!
# Hcom4db.Types

The data model of `hcom4db.h`, `hcom4db_hcom.h` and `hcom4db_define.h`, with the fields the
modelled functions read or write.

* An address is a natural number, `0` is the null pointer; function pointers are addresses too.
* A pointer the code only reads bytes through is a `Buf`: the bytes at and after it.
* `OckRpcStatus` and the `int` results of the transport are integers: the code casts one into the
  other.
-/

namespace Hcom4db

open FlatMem

/-- `uintptr_t`, handles and pointers; `0` is null. -/
abbrev Addr := Nat

/-- A NUL-terminated string, without its NUL. -/
abbrev CStr := List UInt8

def cstr (s : String) : CStr := s.toList.map fun c => c.toNat.toUInt8

/-- The memory behind a pointer that is read. -/
abbrev Buf := Mem

/-! ## Status codes and constants -/

abbrev OckRpcStatus := Int

abbrev ockRpcOk : OckRpcStatus := 0
abbrev ockRpcErr : OckRpcStatus := -1
abbrev ockRpcErrInvalidParam : OckRpcStatus := -2

theorem ockRpcErr_ne_ok : ockRpcErr ≠ ockRpcOk := by
  intro h
  cases h

theorem ockRpcErrInvalidParam_ne_ok : ockRpcErrInvalidParam ≠ ockRpcOk := by
  intro h
  cases h

def ockMaxIovCount : Nat := 4
def maxMessageIdSize : Nat := 1000
def maxCallWithParamsCount : Nat := 8
def maxMessageSglCount : Nat := 4
def ockMinPortNum : Nat := 1024

/-! ## Messages and requests -/

/-- `OckRpcMessage`. `P` is what the model keeps of the `data` pointer: an optional `Buf` for a
message that is sent, an address for a response slot. -/
structure OckRpcMessage (P : Type) where
  data : P
  len : UInt64

/-- A message of a scatter-gather request; `data = none` is the null pointer. -/
abbrev ReqMessage := OckRpcMessage (Option Buf)

/-- The bytes of a message: the first `len` bytes behind `data`. -/
def ReqMessage.payload (m : ReqMessage) : List UInt8 :=
  match m.data with
  | none => []
  | some b => bytesAt b 0 m.len.toNat

/-- `Service_Request` and `OckRpcRequest`. -/
structure ServiceRequest where
  lAddress : Addr := 0
  rAddress : Addr := 0
  lKey : UInt32 := 0
  rKey : UInt32 := 0
  size : UInt32 := 0
  deriving DecidableEq

/-- `Service_SglRequest`. `iov i` is what is stored at index `i`, inside the array or not. -/
structure ServiceSglRequest where
  iov : Nat → ServiceRequest := fun _ => {}
  iovCount : UInt16 := 0

/-- `Service_Message`. -/
structure ServiceMessage where
  data : Addr
  size : UInt32
  deriving DecidableEq

/-- `Service_OpInfo`, the fields the library sets. -/
structure ServiceOpInfo where
  opCode : UInt16 := 0
  timeout : Int16 := 0
  deriving DecidableEq

/-- `Service_RndvMessage` and `OckRpcRndvMessage`: the count, and as many entries of the array. -/
structure ServiceRndvMessage where
  cnt : UInt16
  msg : Nat → ServiceMessage

structure OckRpcRndvMessage where
  cnt : UInt16
  msg : List (OckRpcMessage Addr)

/-- `OckRpcMessageInfo`. -/
structure OckRpcMessageInfo where
  lAddress : Addr
  lKey : UInt32
  size : UInt32

/-- `OckRpcCallDone`. -/
structure OckRpcCallDone where
  cb : Addr
  arg : Addr
  deriving DecidableEq

/-- `RawMessageHeader` is one `uint16_t`, stored in host order (little endian). -/
def sizeofRawMessageHeader : Nat := 2

/-- The bytes of the header of `msgId`, as the buffer the header is stored from. -/
def rawMessageHeader (msgId : UInt16) : Buf := fun i =>
  if i = 0 then UInt8.ofNat (msgId.toNat % 256) else UInt8.ofNat (msgId.toNat / 256)

/-- `head->msgId`: the two bytes at the start of a received message. -/
def rawMsgId (b : Buf) : UInt16 := UInt16.ofNat ((b 0).toNat + 256 * (b 1).toNat)

/-- `Service_ContextType`. -/
inductive ServiceContextType where
  | received | receivedRaw | sent | sentRaw | oneSide | invalidOpType
  deriving DecidableEq

/-- `Service_RndvType`. -/
inductive ServiceRndvType where
  | rndv | rndvSgl | invalidType
  deriving DecidableEq

/-- `OckRpcService` and `OckRpcRndvService`. -/
structure OckRpcService where
  id : UInt16
  handler : Addr
  deriving DecidableEq

/-! ## Callback records -/

/-- `Channel_CallbackFunc`: the two callbacks the library hands to the transport. -/
inductive ChannelCallbackFunc where
  | ockRpcCallbackFunc | responseCallBack
  deriving DecidableEq

/-- `Channel_Callback`. -/
structure ChannelCallback where
  cb : ChannelCallbackFunc
  arg : Addr
  deriving DecidableEq

/-- `AsyncCbInfo`, as `malloc` returns it and the submitting operation fills it: a field is
`none` while nothing was stored in it. -/
structure AsyncCbInfo where
  cb : Addr
  arg : Addr
  client : Option Addr := none
  rsp : Option Addr := none
  reqAddr : Option Addr := none
  reqCnt : Option Nat := none
  deriving DecidableEq

/-! ## Options -/

inductive ServiceType where
  | rdma | tcp
  deriving DecidableEq

/-- `Service_WorkingMode`; the first is the zero value. -/
inductive ServiceWorkingMode where
  | busyPolling | eventPolling
  deriving DecidableEq

/-- A `char` array of `n` bytes. -/
abbrev CharArray (n : Nat) := Fin n → UInt8

/-- `Service_Options`, the fields the library sets; the defaults are `Service_Options()`. -/
structure ServiceOptions where
  netDeviceIpMask : CharArray 256 := fun _ => 0
  enableTls : Bool := false
  tlsVersion : Nat := 0
  enableRndv : Bool := false
  mode : ServiceWorkingMode := .busyPolling
  workerGroups : CharArray 64 := fun _ => 0
  workerGroupsCpuSet : CharArray 128 := fun _ => 0
  heartBeatIdleTime : UInt16 := 0
  mrSendReceiveSegCount : UInt32 := 0
  mrSendReceiveSegSize : UInt32 := 0
  completionQueueDepth : UInt16 := 0
  prePostReceiveSizePerQP : UInt16 := 0
  qpSendQueueSize : UInt32 := 0
  qpReceiveQueueSize : UInt32 := 0
  oobPortRange : CharArray 16 := fun _ => 0
  deriving DecidableEq

/-- `TlsFuncs`. -/
structure TlsFuncs where
  getCaAndVerify : Addr := 0
  getCert : Addr := 0
  getPriKey : Addr := 0
  eraseKeyPass : Addr := 0
  deriving DecidableEq

/-- `Net_MemoryAllocatorCacheTierPolicy`. -/
inductive NetMemoryAllocatorCacheTierPolicy where
  | times | power
  deriving DecidableEq

/-- `Net_MemoryAllocatorOptions`. -/
structure NetMemoryAllocatorOptions where
  address : Addr
  size : UInt64
  minBlockSize : UInt32
  bucketCount : UInt32
  alignedAddress : UInt16
  cacheTierCount : UInt16
  cacheBlockCountPerTier : UInt16
  cacheTierPolicy : NetMemoryAllocatorCacheTierPolicy

/-- `Service_MemoryRegionInfo`. -/
structure ServiceMemoryRegionInfo where
  lAddress : Addr
  lKey : UInt32
  size : UInt32
  deriving DecidableEq

/-- `OckRpcMrInfo`. -/
structure OckRpcMrInfo where
  mr : Addr
  mrInfo : ServiceMemoryRegionInfo
  server : Addr
  deriving DecidableEq

/-! ## Facts about the header -/

theorem rawMsgId_rawMessageHeader (msgId : UInt16) : rawMsgId (rawMessageHeader msgId) = msgId := by
  have h := msgId.toNat_lt
  have h1 : msgId.toNat % 256 % 256 + 256 * (msgId.toNat / 256 % 256) = msgId.toNat := by omega
  simp only [rawMsgId, rawMessageHeader, if_pos, UInt8.toNat_ofNat', one_ne_zero, if_false]
  rw [h1, UInt16.ofNat_toNat]

end Hcom4db
