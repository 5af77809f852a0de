import Hcom4db.Pack

/-!
# Hcom4db.Async

The two completion callbacks and the ten operations that hand them to the transport.

`Completion` is what the context of a completion answers, `SubmitEnv` what `malloc` and the transport
do while an operation runs. A primitive that returns 0 owes one run of its callback: it has run inside
the primitive (`early`) or it is put on `inflight`.

A callback record is created by `malloc`, so a field nobody stored is `none`; a branch that would act
on one is `Event.ub`.
-/

namespace Hcom4db

open FlatMem

/-! ## Records on the heap -/

/-- `std::free(p)`. -/
def World.stdFree (w : World) (p : Addr) : World :=
  { w with
    cbInfos := Function.update w.cbInfos p none
    reqAddrs := Function.update w.reqAddrs p none
    trace := .stdFree p :: w.trace }

def World.newCbInfo (w : World) (p : Addr) (info : AsyncCbInfo) : World :=
  { w with cbInfos := Function.update w.cbInfos p (some info), trace := .malloc p :: w.trace }

def World.newReqAddr (w : World) (p : Addr) (addrs : List Addr) : World :=
  { w with reqAddrs := Function.update w.reqAddrs p (some addrs), trace := .malloc p :: w.trace }

/-! ## Completion -/

structure Completion where
  /-- What `Service_GetResult` returns. -/
  getResultRet : Int := 0
  /-- What it stores, if it stores anything. -/
  result : Option Int := some 0
  /-- `Service_GetContextType`, `none` when it fails. -/
  ctxType : Option ServiceContextType
  data : Option Buf := none
  dataLen : UInt32 := 0
  /-- The answer to `malloc(rspMsg->len)`. -/
  malloc : Addr := 0
  overlap : Bool := false

/-- The variable `result` of a callback, which starts as `OCK_RPC_OK`. -/
def Completion.resultValue (c : Completion) : OckRpcStatus := c.result.getD ockRpcOk

def responseCallBack (w : World) (arg : Addr) (c : Completion) : World :=
  match w.cbInfos arg with
  | none => w.emit .ub
  | some cbInfo =>
    if cbInfo.cb ≠ 0 then (w.emit (.userCb cbInfo.cb cbInfo.arg c.resultValue)).stdFree arg
    else w.stdFree arg

/-- The request blocks and the array of their addresses. -/
def releaseRequest (w : World) (cbInfo : AsyncCbInfo) : Option World :=
  match cbInfo.reqAddr with
  | none => none
  | some reqAddr =>
    if reqAddr = 0 then some w
    else
      match cbInfo.client, cbInfo.reqCnt, w.reqAddrs reqAddr with
      | some client, some reqCnt, some addrs =>
        some ((memFreeList w client (addrs.take reqCnt)).stdFree reqAddr)
      | _, _, _ => none

/-- The caller's response struct before the copy. Its length field, until now the room it has, is
overwritten by the received length. -/
def responseSlot (w : World) (rspMsg : Addr) (c : Completion) : OckRpcMessage Addr :=
  ⟨if (w.slots rspMsg).data = 0 then c.malloc else (w.slots rspMsg).data, c.dataLen.toUInt64⟩

def storeResponse (w : World) (rspMsg : Addr) (c : Completion) : World :=
  let rsp := responseSlot w rspMsg c
  (memcpyS { w with slots := Function.update w.slots rspMsg rsp } rsp.data rsp.len.toNat c.data
    c.dataLen.toNat c.overlap).1

/-- The end of a two-sided completion: the response, then the user's callback. -/
def respond (w : World) (cbInfo : AsyncCbInfo) (rspMsg : Addr) (c : Completion) : World :=
  let w := if rspMsg ≠ 0 then storeResponse w rspMsg c else w
  if cbInfo.cb = 0 then w else w.emit (.userCb cbInfo.cb cbInfo.arg c.resultValue)

def ockRpcCallbackFunc (w : World) (arg : Addr) (c : Completion) : World :=
  if c.getResultRet ≠ ockRpcOk then w.stdFree arg
  else
    match c.ctxType with
    | none => w.stdFree arg
    | some cbType =>
      match w.cbInfos arg with
      | none => w.emit .ub
      | some cbInfo =>
        if cbType = .oneSide then
          -- the callback is not checked on this branch
          (w.emit (.userCb cbInfo.cb cbInfo.arg c.resultValue)).stdFree arg
        else
          match releaseRequest (w.stdFree arg) cbInfo, cbInfo.rsp with
          | some w, some rspMsg => respond w cbInfo rspMsg c
          | _, _ => (w.stdFree arg).emit .ub

def runCallback (w : World) (cb : ChannelCallback) (c : Completion) : World :=
  match cb.cb with
  | .ockRpcCallbackFunc => ockRpcCallbackFunc w cb.arg c
  | .responseCallBack => responseCallBack w cb.arg c

/-! ## Submission -/

/-- What the context of a request answers to a reply: `Service_GetChannel`, `Service_GetRspCtx` and
`Service_GetContextType`. -/
structure ReplyCtx where
  channel : Addr
  rspCtx : Addr
  ctxType : ServiceContextType

structure SubmitEnv where
  /-- `malloc(sizeof(AsyncCbInfo))`, 0 when it fails. -/
  malloc : Addr := 0
  /-- `malloc` of the address array. -/
  mallocReqAddr : Addr := 0
  /-- What the primitive returns. -/
  ret : Int := 0
  /-- The completion, when the callback runs before the primitive returns. -/
  early : Option Completion := none
  /-- The response a synchronous primitive stores. -/
  rsp : Addr × UInt32 := (0, 0)
  /-- The bytes of that response. -/
  payload : Buf := fun _ => 0
  /-- The answers of the context replied to, `none` when a query fails. -/
  ctx : Option ReplyCtx := none
  pack : PackEnv := { alloc := fun _ => none }

/-- A call of a transport primitive. -/
structure Post where
  prim : Primitive
  chan : Addr
  op : Option ServiceOpInfo := none
  req : Payload

def Post.event (p : Post) (cb : Option ChannelCallback) (ret : Int) : Event :=
  .transport p.prim p.chan p.op p.req cb ret

/-- A primitive called without a callback. -/
def World.post (w : World) (p : Post) (e : SubmitEnv) : World := w.emit (p.event none e.ret)

/-- The callback has run before the primitive returned, or it is owed. -/
def World.handOver (w : World) (cb : ChannelCallback) (e : SubmitEnv) : World :=
  match e.early with
  | some c => runCallback w cb c
  | none => { w with inflight := w.inflight ++ [cb] }

/-- A primitive called with a callback. -/
def World.postAsync (w : World) (p : Post) (cb : ChannelCallback) (e : SubmitEnv) : World :=
  let w := w.emit (p.event (some cb) e.ret)
  if e.ret ≠ 0 then w else w.handOver cb e

/-- A synchronous primitive that fills in a response, and its copy into the caller's struct. -/
def callForResponse (w : World) (p : Post) (response : Addr) (e : SubmitEnv) : World × Int :=
  let w := w.post p e
  if e.ret ≠ ockRpcOk then (w, ockRpcErr)
  else
    ({ w with
      mem := blit w.mem e.rsp.1 e.payload e.rsp.2.toNat
      slots := Function.update w.slots response ⟨e.rsp.1, e.rsp.2.toUInt64⟩ }, ockRpcOk)

def callNoResponse (w : World) (p : Post) (e : SubmitEnv) : World × Int :=
  (w.post p e, if e.ret ≠ ockRpcOk then ockRpcErr else ockRpcOk)

/-- The common part of the asynchronous operations: the record, the primitive, and the record freed
again when the primitive fails. -/
def submitAsync (w : World) (e : SubmitEnv) (info : AsyncCbInfo) (cb : ChannelCallbackFunc)
    (p : Post) : World × Int :=
  if e.malloc = 0 then (w, ockRpcErr)
  else
    let w := (w.newCbInfo e.malloc info).postAsync p ⟨cb, e.malloc⟩ e
    if e.ret ≠ ockRpcOk then (w.stdFree e.malloc, e.ret) else (w, ockRpcOk)

/-- The caller of an operation that maps every failure to `OCK_RPC_ERR`. -/
def orErr (r : World × Int) : World × OckRpcStatus :=
  (r.1, if r.2 ≠ ockRpcOk then ockRpcErr else ockRpcOk)

/-- The record of a call without scatter-gather blocks; `client` is not stored. -/
def callInfo (done : OckRpcCallDone) (response : Addr) : AsyncCbInfo :=
  { cb := done.cb, arg := done.arg, reqAddr := some 0, reqCnt := some 0, rsp := some response }

/-! ### `OckRpcClientCall` -/

def ockRpcCallSync (w : World) (client : Addr) (reqOpInfo : ServiceOpInfo) (request : ServiceMessage)
    (response : Addr) (e : SubmitEnv) : World × Int :=
  if response ≠ 0 then
    callForResponse w ⟨.syncCall, client, some reqOpInfo, .message request⟩ response e
  else
    callNoResponse w ⟨.postSend, client, some reqOpInfo, .message request⟩ e

def ockRpcCallASync (w : World) (client : Addr) (reqOpInfo : ServiceOpInfo)
    (request : ServiceMessage) (response : Addr) (done : OckRpcCallDone) (e : SubmitEnv) :
    World × Int :=
  orErr (submitAsync w e (callInfo done response) .ockRpcCallbackFunc
    ⟨if response ≠ 0 then .asyncCall else .postSend, client, some reqOpInfo, .message request⟩)

/-- `UINT32_MAX`. -/
def uint32Max : Nat := 4294967295

def ockRpcClientCall (w : World) (client : Addr) (msgId : UInt16)
    (request : Option (OckRpcMessage Addr)) (response : Addr) (done : Option OckRpcCallDone)
    (e : SubmitEnv) : World × OckRpcStatus :=
  match request with
  | none => (w, ockRpcErrInvalidParam)
  | some request =>
    if uint32Max < request.len.toNat then (w, ockRpcErrInvalidParam)
    else
      let reqOpInfo := { opCode := msgId, timeout := w.gTimeoutTime.toInt16 }
      let req := ⟨request.data, request.len.toUInt32⟩
      match done with
      | none => orErr (ockRpcCallSync w client reqOpInfo req response e)
      | some done => orErr (ockRpcCallASync w client reqOpInfo req response done e)

/-! ### `OckRpcClientCallWithParam` -/

/-- `OckRpcMessageIov`. -/
structure OckRpcMessageIov where
  count : UInt64
  msgs : Option (Nat → ReqMessage)

/-- `OckRpcClientCallParams`; of `rspIov` only the `msgs` pointer is used. -/
structure OckRpcClientCallParams where
  client : Addr
  msgId : UInt16
  reqIov : OckRpcMessageIov
  rspMsgs : Addr := 0
  done : Option OckRpcCallDone := none

/-- The segments of a request, as the transport gets them. -/
def ServiceSglRequest.segs (req : ServiceSglRequest) : List ServiceRequest :=
  (List.range req.iovCount.toNat).map req.iov

def ockRpcCallSyncSgl (w : World) (client : Addr) (request : ServiceSglRequest) (response : Addr)
    (e : SubmitEnv) : World × Int :=
  if response ≠ 0 then
    callForResponse w ⟨.syncCallRawSgl, client, none, .sgl request.segs⟩ response e
  else
    callNoResponse w ⟨.postSendRawSgl, client, none, .sgl request.segs⟩ e

/-- The record of a scatter-gather call, with the array of the block addresses. -/
def sglInfo (client : Addr) (request : ServiceSglRequest) (response : Addr) (done : OckRpcCallDone)
    (reqAddr : Addr) : AsyncCbInfo :=
  { cb := done.cb, arg := done.arg, client := some client, rsp := some response,
    reqAddr := some reqAddr, reqCnt := some request.iovCount.toNat }

/-- The record and the array of a scatter-gather call, ready for the transport. -/
def sglRecorded (w : World) (client : Addr) (request : ServiceSglRequest) (response : Addr)
    (done : OckRpcCallDone) (e : SubmitEnv) : World :=
  ((w.newCbInfo e.malloc (sglInfo client request response done e.mallocReqAddr)).newReqAddr
    e.mallocReqAddr (iovAddrs request request.iovCount.toNat))

def sglPost (client : Addr) (request : ServiceSglRequest) (response : Addr) : Post :=
  ⟨if response ≠ 0 then .asyncCallRawSgl else .postSendRawSgl, client, none, .sgl request.segs⟩

def ockRpcCallAsyncSgl (w : World) (client : Addr) (request : ServiceSglRequest) (response : Addr)
    (done : OckRpcCallDone) (e : SubmitEnv) : World × Int :=
  if e.malloc = 0 then (w, ockRpcErr)
  else if e.mallocReqAddr = 0 then
    ((w.newCbInfo e.malloc (sglInfo client request response done 0)).stdFree e.malloc, ockRpcErr)
  else
    let w := (sglRecorded w client request response done e).postAsync
      (sglPost client request response) ⟨.ockRpcCallbackFunc, e.malloc⟩ e
    if e.ret ≠ ockRpcOk then ((w.stdFree e.mallocReqAddr).stdFree e.malloc, ockRpcErr)
    else (w, ockRpcOk)

/-- The checks of `OckRpcClientCallWithParam`: the messages of a call that passes them. -/
def checkedMsgs (w : World) (params : OckRpcClientCallParams) : Option (List ReqMessage) :=
  match params.reqIov.msgs with
  | none => none
  | some msgs =>
    let n := params.reqIov.count.toNat
    if maxCallWithParamsCount < n ∨ n = 0 then none
    else if ∃ m ∈ (List.range n).map msgs, w.gOptions.mrSendReceiveSegSize.toNat < m.len.toNat then
      none
    else some ((List.range n).map msgs)

def ockRpcClientCallWithParam (w : World) (params : Option OckRpcClientCallParams) (e : SubmitEnv) :
    World × OckRpcStatus :=
  match params with
  | none => (w, ockRpcErrInvalidParam)
  | some params =>
    match checkedMsgs w params with
    | none => (w, ockRpcErrInvalidParam)
    | some msgs =>
      match packReqInfo w params.client msgs params.msgId {} e.pack with
      | (w, ret, serviceReq) =>
        if ret ≠ ockRpcOk then (w, ockRpcErr)
        else
          match params.done with
          | none =>
            match ockRpcCallSyncSgl w params.client serviceReq params.rspMsgs e with
            | (w, ret) =>
              orErr (memFreeList w params.client (iovAddrs serviceReq serviceReq.iovCount.toNat), ret)
          | some done =>
            orErr (ockRpcCallAsyncSgl w params.client serviceReq params.rspMsgs done e)

/-! ### Rendezvous calls -/

def ockRpcClientCallRndv (w : World) (client : Addr) (msgId : UInt16)
    (request : Option OckRpcMessageInfo) (response : Addr) (done : Option OckRpcCallDone)
    (e : SubmitEnv) : World × OckRpcStatus :=
  match request with
  | none => (w, ockRpcErrInvalidParam)
  | some request =>
    if response = 0 then (w, ockRpcErrInvalidParam)
    else
      let reqOpInfo := { opCode := msgId, timeout := w.gTimeoutTime.toInt16 }
      let req := { lAddress := request.lAddress, lKey := request.lKey, size := request.size }
      match done with
      | none =>
        orErr (callForResponse w ⟨.syncRndvCall, client, some reqOpInfo, .request req⟩ response e)
      | some done =>
        orErr (submitAsync w e (callInfo done response) .ockRpcCallbackFunc
          ⟨.asyncRndvCall, client, some reqOpInfo, .request req⟩)

/-- `OckRpcMessageInfoIov`. -/
structure OckRpcMessageInfoIov where
  count : UInt64
  reqs : Option (Nat → OckRpcMessageInfo)

/-- `OckRpcRndvIovCheckParams`: the segments of a request that passes. -/
def ockRpcRndvIovCheckParams (request : Option OckRpcMessageInfoIov) (response : Addr) :
    Option (List ServiceRequest) :=
  match request with
  | none => none
  | some request =>
    if response = 0 then none
    else if maxMessageSglCount < request.count.toNat ∨ request.count.toNat = 0 then none
    else
      match request.reqs with
      | none => none
      | some reqs =>
        some ((List.range request.count.toNat).map fun i =>
          { lAddress := (reqs i).lAddress, lKey := (reqs i).lKey, size := (reqs i).size })

def ockRpcClientCallRndvIov (w : World) (client : Addr) (msgId : UInt16)
    (request : Option OckRpcMessageInfoIov) (response : Addr) (done : Option OckRpcCallDone)
    (e : SubmitEnv) : World × OckRpcStatus :=
  match ockRpcRndvIovCheckParams request response with
  | none => (w, ockRpcErrInvalidParam)
  | some segs =>
    let reqOpInfo := { opCode := msgId }
    match done with
    | none =>
      orErr (callForResponse w ⟨.syncRndvSglCall, client, some reqOpInfo, .sgl segs⟩ response e)
    | some done =>
      orErr (submitAsync w e (callInfo done response) .ockRpcCallbackFunc
        ⟨.asyncRndvSglCall, client, some reqOpInfo, .sgl segs⟩)

/-! ### One-sided operations -/

/-- The body `OckRpcRead`, `OckRpcReadSgl`, `OckRpcWrite` and `OckRpcWriteSgl` share. Of the record
only `cb` and `arg` are stored. -/
def oneSided (w : World) (p : Post) (cb : Option OckRpcCallDone) (e : SubmitEnv) : World × Int :=
  match cb with
  | none => (w.post p e, e.ret)
  | some done => submitAsync w e { cb := done.cb, arg := done.arg } .ockRpcCallbackFunc p

def ockRpcRead (w : World) (client : Addr) (req : Option ServiceRequest)
    (cb : Option OckRpcCallDone) (e : SubmitEnv) : World × Int :=
  match req with
  | none => (w, ockRpcErrInvalidParam)
  | some req => oneSided w ⟨.read, client, none, .request req⟩ cb e

def ockRpcReadSgl (w : World) (client req : Addr) (cb : Option OckRpcCallDone) (e : SubmitEnv) :
    World × Int :=
  oneSided w ⟨.readSgl, client, none, .sglPtr req⟩ cb e

def ockRpcWrite (w : World) (client : Addr) (req : Option ServiceRequest)
    (cb : Option OckRpcCallDone) (e : SubmitEnv) : World × Int :=
  match req with
  | none => (w, ockRpcErrInvalidParam)
  | some req => oneSided w ⟨.write, client, none, .request req⟩ cb e

def ockRpcWriteSgl (w : World) (client req : Addr) (cb : Option OckRpcCallDone) (e : SubmitEnv) :
    World × Int :=
  oneSided w ⟨.writeSgl, client, none, .sglPtr req⟩ cb e

/-! ### Replies -/

/-- The record of a reply; a null `done` gives a null callback. -/
def replyInfo (done : Option OckRpcCallDone) : AsyncCbInfo :=
  match done with
  | none => { cb := 0, arg := 0 }
  | some done => { cb := done.cb, arg := done.arg }

def ockRpcServerReply (w : World) (reply : Option (OckRpcMessage Addr))
    (done : Option OckRpcCallDone) (e : SubmitEnv) : World × OckRpcStatus :=
  match reply with
  | none => (w, ockRpcErrInvalidParam)
  | some reply =>
    if uint32Max < reply.len.toNat then (w, ockRpcErrInvalidParam)
    else
      match e.ctx with
      | none => (w, ockRpcErr)
      | some ⟨channel, rspCtx, ctxType⟩ =>
        let req := .response rspCtx ⟨reply.data, reply.len.toUInt32⟩
        orErr (submitAsync w e (replyInfo done) .responseCallBack
          (if ctxType = .receivedRaw then ⟨.postResponseRaw, channel, none, req⟩
            else ⟨.postResponse, channel, some {}, req⟩))

def ockRpcServerReplyRndv (w : World) (ctx : Addr) (reply : Option (OckRpcMessage Addr))
    (done : Option OckRpcCallDone) (e : SubmitEnv) : World × OckRpcStatus :=
  match reply with
  | none => (w, ockRpcErrInvalidParam)
  | some reply =>
    if uint32Max < reply.len.toNat then (w, ockRpcErrInvalidParam)
    else
      orErr (submitAsync w e (replyInfo done) .responseCallBack
        ⟨.rndvReply, ctx, some {}, .message ⟨reply.data, reply.len.toUInt32⟩⟩)

end Hcom4db
