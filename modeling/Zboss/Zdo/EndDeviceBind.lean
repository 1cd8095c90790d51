/-
# Zdo.EndDeviceBind -- two requests, a probe, and a walk

The coordinator keeps the first `End_Device_Bind_req` for a minute.  A second one is
matched with it: what one device puts out and the other takes in, both ways.  Then the
coordinator asks the devices: it takes the first link away, and the answer says whether it
was there.  If it was not, all links are made, one request after the other; if it was, all
are taken away.  The walk goes down the lists by their counts, and from the first device to
the second.

The parties are in the machine: a device that is asked does what it is asked or not, and
answers with any status (`respond`), or there is no answer (`lost`).  `links` says which
links there are, in the tables of all devices.  A request has a number, so that its answers
can be counted.

Writing behind the end of `cluster_list` stops the machine.

Two things are taken as always accepted: `zb_get_out_buf_delayed` has room for one that waits, and a
buffer comes; and `zb_schedule_callback` and `register_zdo_cb` have room for a callback.
-/
import Mathlib
import Zboss.Common.Constants
import Zboss.Theory.Run

namespace Zboss.Zdo.EndDeviceBind

open Zboss.Common.Constants

set_option autoImplicit false

/-! ## Constants -/

def zbUndefinedBuffer : UInt8 := 255

def zbZdoMaxClusterList : Nat := 15

/-! ## The context -/

structure EndDeviceBindReq where
  bindingTarget : UInt16
  srcIeeeAddr : UInt64
  srcEndp : UInt8
  profileId : UInt16
  inClusters : List UInt16
  outClusters : List UInt16
  deriving DecidableEq

/-- A request in its buffer: its number, and whom to answer. -/
structure BindInd where
  number : Nat
  srcAddr : UInt16
  tsn : UInt8
  req : EndDeviceBindReq
  deriving DecidableEq

/-- `clusterList` are the entries written. -/
structure BindDeviceInfo where
  endDeviceBindParam : UInt8
  bindingTarget : UInt16
  srcEndp : UInt8
  clusterList : List UInt16
  clusterNum : Nat
  deriving DecidableEq

/-- `bind_device_info[0]`, `bind_device_info[1]`, and the device the walk is at. -/
structure EndDeviceBindCtx where
  dev1 : BindDeviceInfo
  dev2 : BindDeviceInfo
  currentDevice : Nat
  deriving DecidableEq

def EndDeviceBindCtx.info (ctx : EndDeviceBindCtx) (num : Nat) : BindDeviceInfo :=
  if num = 0 then ctx.dev1 else ctx.dev2

/-- `ZB_ZDO_PEER_DEVICE_NUM` -/
def zbZdoPeerDeviceNum (num : Nat) : Nat := (num + 1) % 2

/-- Set the parameters of both devices to `ZB_UNDEFINED_BUFFER`. -/
def EndDeviceBindCtx.release (ctx : EndDeviceBindCtx) : EndDeviceBindCtx :=
  { ctx with
    dev1 := { ctx.dev1 with endDeviceBindParam := zbUndefinedBuffer }
    dev2 := { ctx.dev2 with endDeviceBindParam := zbUndefinedBuffer } }

/-- A link, with the device that has it in its table. -/
structure BindLink where
  reqDstAddr : UInt16
  srcAddress : UInt64
  srcEndp : UInt8
  clusterId : UInt16
  dstAddress : UInt64
  dstEndp : UInt8
  deriving DecidableEq

/-! ## Matching -/

/-- The inner loop of `check_cluster_list`, with the list so far. -/
def checkCluster (clusterId : UInt16) : List UInt16 → List UInt16 → Option (List UInt16)
  | [], found => some found
  | other :: rest, found =>
      if clusterId = other then
        if found.length < zbZdoMaxClusterList then
          let found := found ++ [clusterId]
          -- the break leaves the inner loop only
          if found.length ≥ zbZdoMaxClusterList then some found
          else checkCluster clusterId rest found
        else none
      else checkCluster clusterId rest found

def checkClusterList (clusterList1 clusterList2 : List UInt16) : Option (List UInt16) :=
  clusterList1.foldlM (fun found clusterId => checkCluster clusterId clusterList2 found) []

/-! ## The walk -/

/-- The callbacks of the responses. -/
inductive BindCb where
  | check
  | bind
  | unbind
  deriving DecidableEq

/-- What is scheduled or waited for. -/
inductive BindTask where
  /-- `zb_zdo_send_check_bind_unbind` waits for a buffer -/
  | sendCheck
  /-- a request is sent -/
  | request (cb : BindCb) (bind : Bool) (link : BindLink)
  | callback (cb : BindCb)
  deriving DecidableEq

section Walk

/- What `zb_address_ieee_by_short` leaves in the request. -/
variable (ieeeByShort : UInt16 → UInt64)

/-- The link that `send_bind_unbind_req` asks for. -/
def bindLink (ctx : EndDeviceBindCtx) (targetDevNum : Nat) (clusterId : UInt16) : BindLink :=
  let target := ctx.info targetDevNum
  let peer := ctx.info (zbZdoPeerDeviceNum targetDevNum)
  ⟨target.bindingTarget, ieeeByShort target.bindingTarget, target.srcEndp, clusterId,
    ieeeByShort peer.bindingTarget, peer.srcEndp⟩

def zbZdoSendCheckBindUnbind (ctx : EndDeviceBindCtx) : EndDeviceBindCtx × BindTask :=
  let currentDevice := if ctx.dev1.clusterNum ≠ 0 then 0 else 1
  let clusterId := (ctx.info currentDevice).clusterList.getD 0 0
  ({ ctx with currentDevice }, .request .check false (bindLink ieeeByShort ctx currentDevice clusterId))

/-- One entry of the list less, of the device the walk is at. -/
def EndDeviceBindCtx.countDown (ctx : EndDeviceBindCtx) : EndDeviceBindCtx :=
  if ctx.currentDevice = 0 then
    { ctx with dev1 := { ctx.dev1 with clusterNum := ctx.dev1.clusterNum - 1 } }
  else { ctx with dev2 := { ctx.dev2 with clusterNum := ctx.dev2.clusterNum - 1 } }

/-- Without a task the buffer is freed. -/
def sendBindUnbindWithCheck (bind : Bool) (cb : BindCb) (ctx : EndDeviceBindCtx) :
    EndDeviceBindCtx × Option BindTask :=
  let info := ctx.info ctx.currentDevice
  if info.clusterNum = 0 then
    let ctx := { ctx with currentDevice := ctx.currentDevice + 1 }
    if ctx.currentDevice = 1 then (ctx, some (.callback cb)) else (ctx.release, none)
  else
    let clusterId := info.clusterList.getD (info.clusterNum - 1) 0
    (ctx.countDown, some (.request cb bind (bindLink ieeeByShort ctx ctx.currentDevice clusterId)))

/-- `zb_zdo_bind_unbind_check_cb`, `zb_zdo_end_device_bind_cb`, `zb_zdo_end_device_unbind_cb`. -/
def runBindCb (status : UInt8) (ctx : EndDeviceBindCtx) : BindCb → EndDeviceBindCtx × Option BindTask
  | .check =>
      if status = zbZdpStatusNoEntry then sendBindUnbindWithCheck ieeeByShort true .bind ctx
      else sendBindUnbindWithCheck ieeeByShort false .unbind ctx
  | .bind => sendBindUnbindWithCheck ieeeByShort true .bind ctx
  | .unbind => sendBindUnbindWithCheck ieeeByShort false .unbind ctx

end Walk

/-! ## The machine -/

/-- Two requests that have been matched. -/
structure BindPair where
  first : EndDeviceBindReq
  second : EndDeviceBindReq
  deriving DecidableEq

/-- `pair` are the requests matched last, `existed` whether the link probed last was there. -/
structure EdBind where
  ctx : EndDeviceBindCtx
  /-- the pending alarms of `zb_zdo_end_device_bind_timer` -/
  timers : List UInt8
  pending : List BindTask
  bufs : UInt8 → BindInd
  links : BindLink → Bool
  requests : Nat
  answers : List (BindInd × UInt8)
  pair : Option BindPair
  existed : Bool

def zbZdoEndDeviceBindResp (param status : UInt8) (s : EdBind) : EdBind :=
  { s with answers := s.answers ++ [(s.bufs param, status)] }

def zbZdoEndDeviceBindTimer (param : UInt8) (s : EdBind) : EdBind :=
  zbZdoEndDeviceBindResp param zbZdpStatusTimeout { s with ctx := s.ctx.release }

def validEndpoint (req : EndDeviceBindReq) : Bool :=
  zbMinEndpointNumber ≤ req.srcEndp && req.srcEndp ≤ zbMaxEndpointNumber

/-- The requests of both devices: the lists matched, and the status. -/
def matchRequests (req1 req2 : EndDeviceBindReq) (ctx : EndDeviceBindCtx) :
    Option (EndDeviceBindCtx × UInt8) :=
  if req1.profileId ≠ req2.profileId then some (ctx, zbZdpStatusNoMatch)
  else do
    let list1 ← checkClusterList req1.outClusters req2.inClusters
    let list2 ← checkClusterList req1.inClusters req2.outClusters
    let ctx := { ctx with
      dev1 := { ctx.dev1 with clusterList := list1, clusterNum := list1.length }
      dev2 := { ctx.dev2 with clusterList := list2, clusterNum := list2.length } }
    return (ctx, if list1.length = 0 ∧ list2.length = 0 then zbZdpStatusNoMatch else zbZdpStatusSuccess)

/-- Whom to ask, with what endpoints. -/
def EndDeviceBindCtx.saveDevices (req1 req2 : EndDeviceBindReq) (param : UInt8)
    (ctx : EndDeviceBindCtx) : EndDeviceBindCtx :=
  { ctx with
    dev1 := { ctx.dev1 with bindingTarget := req1.bindingTarget, srcEndp := req1.srcEndp }
    dev2 := { ctx.dev2 with
      bindingTarget := req2.bindingTarget
      srcEndp := req2.srcEndp
      endDeviceBindParam := param } }

/-- The first request is kept, and its alarm is set when the alarm queue has an entry. -/
def EdBind.keepFirst (param : UInt8) (room : Bool) (s : EdBind) : EdBind :=
  { s with
    ctx := { s.ctx with dev1 := { s.ctx.dev1 with endDeviceBindParam := param } }
    timers := if room then s.timers ++ [param] else s.timers }

/-- The probe is scheduled, or there was no match; both requests are answered. -/
def endMatch (param status : UInt8) (s : EdBind) : EdBind :=
  let param1 := s.ctx.dev1.endDeviceBindParam
  let req1 := (s.bufs param1).req
  let req2 := (s.bufs param).req
  if status = zbZdpStatusSuccess then
    let s := { s with
      ctx := s.ctx.saveDevices req1 req2 param
      pending := s.pending ++ [.sendCheck]
      pair := some ⟨req1, req2⟩ }
    zbZdoEndDeviceBindResp param1 status (zbZdoEndDeviceBindResp param status s)
  else
    let s := zbZdoEndDeviceBindResp param1 status (zbZdoEndDeviceBindResp param status s)
    { s with ctx := s.ctx.release }

/-- `room`: the alarm queue has an entry. -/
def zbZdoEndDeviceBindHandler (param : UInt8) (room : Bool) (s : EdBind) : Option EdBind :=
  let req2 := (s.bufs param).req
  if ¬ validEndpoint req2 then some (zbZdoEndDeviceBindResp param zbZdpStatusInvalidEp s)
  else if s.ctx.dev1.endDeviceBindParam = zbUndefinedBuffer then
    some (s.keepFirst param room)
  else if s.ctx.dev2.endDeviceBindParam ≠ zbUndefinedBuffer then
    some (zbZdoEndDeviceBindResp param zbZdpStatusTimeout s)
  else do
    let req1 := (s.bufs s.ctx.dev1.endDeviceBindParam).req
    let (ctx, status) ← matchRequests req1 req2 s.ctx
    return endMatch param status { s with ctx, timers := [] }

inductive BindCall where
  /-- a request comes in a buffer -/
  | request (param : UInt8) (srcAddr : UInt16) (tsn : UInt8) (req : EndDeviceBindReq) (room : Bool)
  | timeout (i : Nat)
  /-- a buffer is there, or a scheduled callback runs -/
  | run (i : Nat)
  | respond (i : Nat) (status : UInt8) (performed : Bool)
  | lost (i : Nat) (performed : Bool)
  deriving DecidableEq

/-- The first of two requests waits for the second. -/
def EdBind.waits (s : EdBind) : Bool :=
  s.ctx.dev1.endDeviceBindParam != zbUndefinedBuffer &&
    s.ctx.dev2.endDeviceBindParam == zbUndefinedBuffer

/-- A buffer that is given to a request that comes in: it is not that of the request that waits. -/
def EdBind.fresh (s : EdBind) (param : UInt8) : Bool :=
  param != zbUndefinedBuffer && !(s.waits && param == s.ctx.dev1.endDeviceBindParam)

/-- A request comes in its buffer. -/
def EdBind.receive (param : UInt8) (srcAddr : UInt16) (tsn : UInt8) (req : EndDeviceBindReq)
    (s : EdBind) : EdBind :=
  { s with
    bufs := Function.update s.bufs param ⟨s.requests, srcAddr, tsn, req⟩
    requests := s.requests + 1 }

/-- A device does what it is asked, or not. -/
def perform (performed bind : Bool) (link : BindLink) (links : BindLink → Bool) : BindLink → Bool :=
  if performed then Function.update links link bind else links

section Machine

variable (ieeeByShort : UInt16 → UInt64)

def bindStep (s : EdBind) : BindCall → Option EdBind
  | .request param srcAddr tsn req room =>
      if s.fresh param then
        zbZdoEndDeviceBindHandler param room (s.receive param srcAddr tsn req)
      else none
  | .timeout i =>
      s.timers[i]?.map fun param =>
        zbZdoEndDeviceBindTimer param { s with timers := s.timers.eraseIdx i }
  | .run i =>
      match s.pending[i]? with
      | some .sendCheck =>
          let (ctx, task) := zbZdoSendCheckBindUnbind ieeeByShort s.ctx
          some { s with ctx, pending := s.pending.eraseIdx i ++ [task] }
      | some (.callback cb) =>
          let (ctx, task) := runBindCb ieeeByShort zbZdpStatusSuccess s.ctx cb
          some { s with ctx, pending := s.pending.eraseIdx i ++ task.toList }
      | _ => none
  | .respond i status performed =>
      match s.pending[i]? with
      | some (.request cb bind link) =>
          let (ctx, task) := runBindCb ieeeByShort status s.ctx cb
          some { s with
            ctx
            pending := s.pending.eraseIdx i ++ task.toList
            links := perform performed bind link s.links
            existed := if cb = .check then s.links link else s.existed }
      | _ => none
  | .lost i performed =>
      match s.pending[i]? with
      | some (.request _ bind link) =>
          some { s with
            pending := s.pending.eraseIdx i
            links := perform performed bind link s.links }
      | _ => none

end Machine

def BindDeviceInfo.init : BindDeviceInfo := ⟨zbUndefinedBuffer, 0, 0, [], 0⟩

/-- The start, with the links there are. -/
def EdBind.start (links : BindLink → Bool) : EdBind :=
  ⟨⟨.init, .init, 0⟩, [], [], fun _ => ⟨0, 0, 0, ⟨0, 0, 0, 0, [], []⟩⟩, links, 0, [], none, false⟩

end Zboss.Zdo.EndDeviceBind
