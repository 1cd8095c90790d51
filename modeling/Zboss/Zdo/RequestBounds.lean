/-
# Zdo.RequestBounds -- what the handlers read and write

The handlers of requests, with every place that they read or write; what they make is what
`Zdo.Dispatch` and the modules under it say.  A handler is not told how long its request is: the
counts and modes that stand in it, and the bytes that stand behind it, say how far it reads.

* `requests_bounded_iff`: which requests are read inside what has been received, copied and answered
  inside the buffer, and leave the tables alone where they are too short;
* `compareRequests_result`: two requests are compared as they are matched.

Poles: an `End_Device_Bind_req` that ends behind its endpoint is kept for the second one
(`short_bind_kept`); the output clusters of a `Match_Desc_req` are never read where they stand.
-/
import Mathlib
import Zboss.Common.Constants
import Zboss.Zdo.Dispatch

namespace Zboss.Zdo.RequestBounds

open Zboss.Common.Constants
open Zboss.Theory.ByteMemory
open Zboss.Theory.Access
open Zboss.Theory.LeadingRun (exists_leads)
open Zboss.Aps.Bind (ZbApsmeBindingReq BindContext)
open Zboss.Nwk.Forget (zbNeighborTableSize)
open Zboss.Zdo.AddressList
open Zboss.Zdo.BodyMemory
open Zboss.Zdo.ChannelChange (scans notifies update_ends zbZdoNewActiveChannel zbZdoNewChannelMask
  zbZdoMaxScanDuration)
open Zboss.Zdo.Dispatch (bindTables updateInd updNotifyParamSize endDeviceBindReq NwkAddrFits)
open Zboss.Zdo.EndDeviceBind (EndDeviceBindCtx zbUndefinedBuffer zbZdoMaxClusterList checkCluster
  checkClusterList matchRequests)
open Zboss.Zdo.MatchDesc (matchDescRespSize numIn numOut)
open Zboss.Zdo.RequestDecode
open Zboss.Zdo.RequestEncode (zbApsAddrMode16GroupEndpNotPresent zbApsAddrMode64EndpPresent
  cellsAt_one)
open Zboss.Zdo.RxContext
open Zboss.Zdo.SendByShort

set_option autoImplicit false

/-! ## Requests, and how they are left -/

/-- A place: in the request, in the first of two requests that are compared, or in what the handler
makes itself. -/
inductive Place where
  | request (a : Nat)
  | first (a : Nat)
  | made (a : Nat)

inductive ZdoRequest where
  | matchDesc
  | endDeviceBind
  | bindUnbind (bind : Bool)
  | mgmtNwkUpdate
  | mgmtLqi
  | nwkAddr
  | ieeeAddr

/-- How the handler is left; a table can stop it. -/
abbrev Left := Except Zboss.Aps.Bind.Stop ZdoRxContext

/-! ## The handlers -/

/-- What the handing on of a message writes: the parameters of the data request, and the transaction
number. -/
def fillSent (packet : Body) : Traced Place Unit := do
  (fill (zbIoBufSize - apsdeDataReqSize.toNat) apsdeDataReqSize.toNat).placed .made
  (fill packet.begin_ 1).placed .made

/-- `zdo_send_resp_by_short`; a message that begins with the buffer moves. -/
def send (b : Body) : Traced Place Unit := do
  let _ ← check (zbGetBufTail apsdeDataReqSize b)
  let _ ← (moveCells 1 b.begin_ (if b.begin_ = 0 then b.len else 0) b.mem).placed .made
  let packet ← check (zbBufSmartAllocLeft 1 b)
  fillSent packet

/-- `zb_buf_initial_alloc`, so many bytes of the answer, and its handing on. -/
def answer (size : UInt8) (written : Nat) (b : Body) : Traced Place Unit := do
  let resp ← check (zbBufInitialAlloc size b)
  (fill resp.begin_ written).placed .made
  send resp

/-- The parameters of what is called next. -/
def fillParam (size : UInt8) (b : Body) : Traced Place Unit := do
  let tail ← check (zbGetBufTail size b)
  (fill tail size.toNat).placed .made

def lookAt (place : Nat → Place) (b : Body) (i : Nat) : Traced Place UInt8 :=
  (look (b.begin_ + i) b.mem).placed place

section Handlers

variable (frame : ZdoFrame) (c : ZdoRxContext)

def zdoMatchDescRes : Traced Place Unit := do
  let _ ← (readMatchDesc frame.toBody).placed .request
  let (l, _) ← check
    (MatchDesc.zdoMatchDescRes frame.toBody c.shortAddress c.simpleDescs c.epSlots)
  answer (UInt8.ofNat (matchDescRespSize + l.num)) (matchDescRespSize + l.num) frame.toBody

/-- What a binding leaves. -/
def bound (left : BindContext) : ZdoRxContext :=
  { c with
    locks := { c.locks with
      nwk := { c.locks.nwk with addr := left.addr }
      binding := left.binding } }

def zbZdoBindUnbindRes (bind : Bool) : Traced Place Left := do
  let req ← (readBinding c.build frame.toBody).placed .request
  match bindTables c bind req with
  | .error stop => return .error stop
  | .ok (left, _) =>
      answer 1 1 frame.toBody
      return .ok (bound c left)

/-- The bytes of a request for the manager, as far as it is read. -/
def readUpdate (b : Body) : Traced Nat (List UInt8) := do
  let _ ← look b.begin_ b.mem
  let _ ← lookCells (b.begin_ + 1) 4 b.mem
  let scanDuration ← look (b.begin_ + 5) b.mem
  let _ ←
    if scanDuration = zbZdoNewChannelMask then lookCells (b.begin_ + 7) 2 b.mem
    else if scanDuration ≤ zbZdoMaxScanDuration then lookCells (b.begin_ + 6) 1 b.mem
    else pure []
  return cellsAt b.begin_ 9 b.mem

/-- `sizeof(zb_nlme_ed_scan_request_t)` -/
def edScanRequestSize : UInt8 := 5

/-- The notification is made by `zb_zdo_nwk_upd_notify`, and the parameters of a scan by
`zb_start_ed_scan`. -/
def zbZdoMgmtNwkUpdateHandler : Traced Place Unit := do
  let bytes ← (readUpdate frame.toBody).placed .request
  let handled ← check
    (ChannelChange.zbZdoMgmtNwkUpdateHandler c.beyond (updateInd frame) bytes)
  match handled with
  | .updNotify _ _ _ =>
      fillParam updNotifyParamSize frame.toBody
      answer 10 10 frame.toBody
  | .edScan _ _ _ _ => fillParam edScanRequestSize frame.toBody
  | _ => return

/-- The records of a page; the flags are put into the byte that is there. -/
def fillRecords (at_ : Nat) (m : Nat → UInt8) : Nat → Traced Nat Unit
  | 0 => return
  | n + 1 => do
      fillRecords at_ m n
      let record := at_ + LqiPaging.neighborTableRecordSize * n
      let _ ← look (record + 18) m
      fill record LqiPaging.neighborTableRecordSize

/-- A router reads the start index, and again for the answer. -/
def zdoLqiResp : Traced Place Unit := do
  let _ ← lookAt .request frame.toBody 0
  let _ ← (lookCells (frame.begin_ + 1) (if c.routerRole then 1 else 0) frame.mem).placed .request
  let resp ← check (LqiPaging.zdoLqiResp c frame.toBody)
  let begin_ := resp.packet.begin_ + 1
  (fill begin_ LqiPaging.lqiRespSize).placed .made
  let _ ← (lookCells (frame.begin_ + 1) (if c.routerRole then 1 else 0) frame.mem).placed .request
  (fillRecords (begin_ + LqiPaging.lqiRespSize) frame.mem resp.slots.length).placed .made
  fillSent resp.packet

def answerList : Option AddrListResp → Traced Place Unit
  | none => return
  | some resp => answer (UInt8.ofNat (listSize resp)) (listBytes resp).length frame.toBody

def zdoDeviceNwkAddrRes : Traced Place Unit := do
  let _ ← (lookCells frame.begin_ 11 frame.mem).placed .request
  if zdoNwkAddrStatus c frame ≠ zbZdpStatusSuccess ∨ nwkReqType frame = zbZdoSingleDevResponse then
    answer (UInt8.ofNat addrRespSize) addrRespSize frame.toBody
  else if nwkServed c frame then answerList frame (nwkAddrExtended c frame)
  else send frame.toBody

def zdoDeviceIeeeAddrRes : Traced Place Unit := do
  let _ ← (lookCells frame.begin_ 5 frame.mem).placed .request
  if c.shortAddress ≠ frame.nwkAddr then
    if frame.deliveryMode = zbApsDeliveryUnicast then
      answer (UInt8.ofNat addrRespSize) addrRespSize frame.toBody
    else if frame.deliveryMode = zbApsDeliveryBroadcast then return
    else send frame.toBody
  else if ieeeReqType frame > zbZdoExtendedResponse ∨ ieeeReqType frame = zbZdoSingleDevResponse then
    answer (UInt8.ofNat addrRespSize) addrRespSize frame.toBody
  else if ieeeServed c frame then answerList frame (ieeeAddrExtended c frame)
  else send frame.toBody

end Handlers

/-! ## Two requests of an end device bind -/

/-- The inner loop of `check_cluster_list`: both clusters are read in each turn. -/
def checkClusterAt (one : Traced Place UInt16) (two : Nat → Traced Place UInt16) :
    List Nat → List UInt16 → Traced Place (List UInt16)
  | [], found => return found
  | j :: js, found => do
      let clusterId ← one
      let other ← two j
      if clusterId = other then
        if found.length < zbZdoMaxClusterList then
          let found := found ++ [clusterId]
          if found.length ≥ zbZdoMaxClusterList then return found
          else checkClusterAt one two js found
        else check none
      else checkClusterAt one two js found

def checkClusterListAt (one two : Nat → Traced Place UInt16) (numCluster1 numCluster2 : Nat) :
    Traced Place (List UInt16) :=
  (List.range numCluster1).foldlM
    (fun found i => checkClusterAt (one i) two (List.range numCluster2) found) []

/-- The cluster at a place of a list. -/
def clusterAt (place : Nat → Place) (b : Body) (list i : Nat) : Traced Place UInt16 :=
  (lookWord (b.begin_ + list + 2 * i) b.mem).placed place

/-- The clusters that both requests share go into the context. -/
def compareRequests (first b : Body) (ctx : EndDeviceBindCtx) :
    Traced Place (EndDeviceBindCtx × Bool) := do
  let profileId1 ← (lookWord (first.begin_ + 12) first.mem).placed .first
  let profileId2 ← (lookWord (b.begin_ + 12) b.mem).placed .request
  if profileId1 ≠ profileId2 then return (ctx, false)
  else
    let numIn1 ← lookAt .first first 14
    let numIn2 ← lookAt .request b 14
    let numOut1 ← lookAt .first first (15 + 2 * numIn1.toNat)
    let numOut2 ← lookAt .request b (15 + 2 * numIn2.toNat)
    let list1 ← checkClusterListAt (clusterAt .first first (16 + 2 * numIn1.toNat))
      (clusterAt .request b 15) numOut1.toNat numIn2.toNat
    let list2 ← checkClusterListAt (clusterAt .first first 15)
      (clusterAt .request b (16 + 2 * numIn2.toNat)) numIn1.toNat numOut2.toNat
    let ctx := { ctx with
      dev1 := { ctx.dev1 with clusterList := list1, clusterNum := list1.length }
      dev2 := { ctx.dev2 with clusterList := list2, clusterNum := list2.length } }
    return (ctx, decide (list1.length ≠ 0 ∨ list2.length ≠ 0))

/-- Whom to ask, with what endpoint. -/
def readTarget (place : Nat → Place) (b : Body) : Traced Place (UInt16 × UInt8) := do
  let bindingTarget ← (lookWord (b.begin_ + 1) b.mem).placed place
  let srcEndp ← lookAt place b 11
  return (bindingTarget, srcEndp)

/-- Both devices are saved, when they have matched. -/
def saveTargets (first b : ZdoFrame) (ctx : EndDeviceBindCtx) (matched : Bool) :
    Traced Place EndDeviceBindCtx :=
  if matched then do
    let (target1, srcEndp1) ← readTarget .first first.toBody
    let (target2, srcEndp2) ← readTarget .request b.toBody
    return { ctx with
      dev1 := { ctx.dev1 with bindingTarget := target1, srcEndp := srcEndp1 }
      dev2 := { ctx.dev2 with
        bindingTarget := target2, srcEndp := srcEndp2, endDeviceBindParam := b.param } }
  else return ctx.release

/-- The number of the transaction, and the status in a buffer. -/
def zbZdoEndDeviceBindResp (place : Nat → Place) (b : Body) : Traced Place Unit := do
  let _ ← lookAt place b 0
  answer 1 1 b

def zbZdoEndDeviceBindHandler (frame : ZdoFrame) (c : ZdoRxContext) : Traced Place ZdoRxContext :=
  if c.build.disableEdBindReq then do
    zbZdoEndDeviceBindResp .request frame.toBody
    return c
  else do
    let srcEndp ← lookAt .request frame.toBody 11
    if srcEndp < zbMinEndpointNumber ∨ zbMaxEndpointNumber < srcEndp then
      zbZdoEndDeviceBindResp .request frame.toBody
      return c
    else if c.endDeviceBind.ctx.dev1.endDeviceBindParam = zbUndefinedBuffer then
      let ctx := c.endDeviceBind.ctx
      return { c with
        endDeviceBind :=
          ⟨{ ctx with dev1 := { ctx.dev1 with endDeviceBindParam := frame.param } }, frame⟩ }
    else if c.endDeviceBind.ctx.dev2.endDeviceBindParam ≠ zbUndefinedBuffer then
      zbZdoEndDeviceBindResp .request frame.toBody
      return c
    else
      let first := c.endDeviceBind.first
      let (ctx, matched) ← compareRequests first.toBody frame.toBody c.endDeviceBind.ctx
      let ctx ← saveTargets first frame ctx matched
      zbZdoEndDeviceBindResp .request frame.toBody
      zbZdoEndDeviceBindResp .first first.toBody
      return { c with endDeviceBind := ⟨ctx, first⟩ }

/-- What is done with a request. -/
def handle (frame : ZdoFrame) (c : ZdoRxContext) : ZdoRequest → Traced Place Left
  | .matchDesc => do
      zdoMatchDescRes frame c
      return .ok c
  | .endDeviceBind => do
      let c ← zbZdoEndDeviceBindHandler frame c
      return .ok c
  | .bindUnbind bind => zbZdoBindUnbindRes frame c bind
  | .mgmtNwkUpdate => do
      zbZdoMgmtNwkUpdateHandler frame c
      return .ok c
  | .mgmtLqi => do
      zdoLqiResp frame c
      return .ok c
  | .nwkAddr => do
      zdoDeviceNwkAddrRes frame c
      return .ok c
  | .ieeeAddr => do
      zdoDeviceIeeeAddrRes frame c
      return .ok c

/-! ## Where a handler may read and write -/

/-- A place of the request. -/
def Covers (b : Body) (a : Nat) : Prop := b.begin_ ≤ a ∧ a < b.begin_ + b.len

def Reads (first frame : ZdoFrame) : Place → Prop
  | .request a => Covers frame.toBody a
  | .first a => Covers first.toBody a
  | .made a => a < zbIoBufSize

def Writes : Place → Prop
  | .request a | .first a | .made a => a < zbIoBufSize

/-- The binding table, the neighbour table and the pending bind are as before. -/
structure Unchanged (c c' : ZdoRxContext) : Prop where
  binding : c'.locks.binding = c.locks.binding
  neighbor : c'.locks.nwk.neighbor = c.locks.nwk.neighbor
  pending : c'.endDeviceBind = c.endDeviceBind

def bindMode (b : Body) : UInt8 := b.at_ 12

def scanDuration (b : Body) : UInt8 := b.at_ 5

/-- The lengths of the lists of an `End_Device_Bind_req`. -/
def bindNumIn (b : Body) : Nat := (b.at_ 14).toNat

def bindNumOut (b : Body) : Nat := (b.at_ (15 + 2 * bindNumIn b)).toNat

/-- A request has all the bytes that its counts and modes ask for. -/
def Fits (b : Body) : ZdoRequest → Prop
  | .matchDesc => 7 + 2 * numIn b + 2 * numOut b ≤ b.len
  | .endDeviceBind => 16 + 2 * bindNumIn b + 2 * bindNumOut b ≤ b.len
  | .bindUnbind _ =>
      13 ≤ b.len ∧ (bindMode b = zbApsAddrMode16GroupEndpNotPresent → 15 ≤ b.len) ∧
        (bindMode b = zbApsAddrMode64EndpPresent → 22 ≤ b.len)
  | .mgmtNwkUpdate =>
      6 ≤ b.len ∧ (scanDuration b = zbZdoNewChannelMask → 9 ≤ b.len) ∧
        (scanDuration b ≤ zbZdoMaxScanDuration → 7 ≤ b.len)
  | .mgmtLqi => 2 ≤ b.len
  | .nwkAddr => 11 ≤ b.len
  | .ieeeAddr => 5 ≤ b.len

/-- The handler ends; it reads inside the request, and writes inside the buffer; and a request that
has not all its bytes leaves the tables as they are. -/
def Bounded (frame : ZdoFrame) (c : ZdoRxContext) (req : ZdoRequest) : Prop :=
  Meets (Reads c.endDeviceBind.first frame) Writes (handle frame c req) fun left =>
    ¬ Fits frame.toBody req → ∃ c', left = .ok c' ∧ Unchanged c c'

/-! ## When it does -/

/-- What a second request finds in the first one is there, and the clusters they share find room. -/
def FirstFits (first b : Body) : Prop :=
  14 ≤ first.len ∧
    ((endDeviceBindFields first).profileId = (endDeviceBindFields b).profileId →
      16 + 2 * bindNumIn first ≤ first.len ∧
      (bindNumIn b ≠ 0 → 16 + 2 * bindNumIn first + 2 * bindNumOut first ≤ first.len) ∧
      EndDeviceBind.fits (endDeviceBindFields first).outClusters
        (endDeviceBindFields b).inClusters = true ∧
      EndDeviceBind.fits (endDeviceBindFields first).inClusters
        (endDeviceBindFields b).outClusters = true)

def endpointValid (b : Body) : Prop :=
  zbMinEndpointNumber ≤ b.at_ 11 ∧ b.at_ 11 ≤ zbMaxEndpointNumber

/-- A first request waits. -/
def Waits (ctx : EndDeviceBindCtx) : Prop := ctx.dev1.endDeviceBindParam ≠ zbUndefinedBuffer

/-- Two requests are dealt with. -/
def Busy (ctx : EndDeviceBindCtx) : Prop :=
  Waits ctx ∧ ctx.dev2.endDeviceBindParam ≠ zbUndefinedBuffer

/-- A request for a long address that is sent back has room behind it. -/
def IeeeRoom (c : ZdoRxContext) (frame : ZdoFrame) : Prop :=
  if c.shortAddress = frame.nwkAddr then
    ieeeReqType frame = zbZdoExtendedResponse → c.isParent = false → SendRoom frame.toBody
  else
    frame.deliveryMode = zbApsDeliveryUnicast ∨ frame.deliveryMode = zbApsDeliveryBroadcast ∨
      SendRoom frame.toBody

/-- **When a request is bounded.** -/
def Within (frame : ZdoFrame) (c : ZdoRxContext) : ZdoRequest → Prop
  | .matchDesc =>
      numOut frame.toBody = 0 ∧ Fits frame.toBody .matchDesc ∧
        frame.len + frame.begin_ + 2 * numIn frame.toBody ≤ zbIoBufSize
  | .endDeviceBind =>
      if c.build.disableEdBindReq then 1 ≤ frame.len
      else
        12 ≤ frame.len ∧
          (endpointValid frame.toBody → ¬ Busy c.endDeviceBind.ctx →
            Fits frame.toBody .endDeviceBind ∧
              (Waits c.endDeviceBind.ctx →
                FirstFits c.endDeviceBind.first.toBody frame.toBody))
  | .bindUnbind bind =>
      if c.build.disableBindReq then 1 ≤ frame.len
      else Fits frame.toBody (.bindUnbind bind) ∧
        frame.len + frame.begin_ + apsmeBindingReqSize.toNat ≤ zbIoBufSize
  | .mgmtNwkUpdate =>
      Fits frame.toBody .mgmtNwkUpdate ∧
        (notifies (updateInd frame) (scanDuration frame.toBody) (frame.at_ 6) = true →
          frame.len + frame.begin_ + updNotifyParamSize.toNat ≤ zbIoBufSize)
  | .mgmtLqi =>
      if c.routerRole then
        Fits frame.toBody .mgmtLqi ∧ LqiPaging.PageFits c (frame.at_ 1)
      else 1 ≤ frame.len
  | .nwkAddr => Fits frame.toBody .nwkAddr ∧ NwkAddrFits c frame
  | .ieeeAddr => Fits frame.toBody .ieeeAddr ∧ IeeeRoom c frame

section Places

variable {first frame : ZdoFrame} {leaves : Unit → Prop}

@[simp] theorem reads_request {a : Nat} :
    Reads first frame (.request a) ↔ Covers frame.toBody a := Iff.rfl

@[simp] theorem reads_first {a : Nat} :
    Reads first frame (.first a) ↔ Covers first.toBody a := Iff.rfl

@[simp] theorem reads_made {a : Nat} : Reads first frame (.made a) ↔ a < zbIoBufSize := Iff.rfl

@[simp] theorem writes_request {a : Nat} : Writes (.request a) ↔ a < zbIoBufSize := Iff.rfl

@[simp] theorem writes_made {a : Nat} : Writes (.made a) ↔ a < zbIoBufSize := Iff.rfl

/-- A byte of the request, -/
theorem covers_iff {b : Body} {i : Nat} : Covers b (b.begin_ + i) ↔ i < b.len := by
  rw [Covers]
  omega

/-- and bytes in a row, -/
theorem covers_cells {b : Body} {i n : Nat} :
    (∀ a ∈ List.range' (b.begin_ + i) n, Covers b a) ↔ n = 0 ∨ i + n ≤ b.len := by
  refine range'_within.trans ?_
  omega

/-- and of the buffer. -/
theorem buffer_cells {at_ n : Nat} :
    (∀ a ∈ List.range' at_ n, a < zbIoBufSize) ↔ n = 0 ∨ at_ + n ≤ zbIoBufSize := by
  have within := @range'_within at_ n 0 zbIoBufSize
  simpa only [Nat.zero_le, true_and] using within

theorem meets_lookWord {reads writes : Nat → Prop} {a : Nat} {m : Nat → UInt8}
    {leaves : UInt16 → Prop} : Meets reads writes (lookWord a m) leaves ↔
      (∀ i ∈ List.range' a 2, reads i) ∧ leaves (word m a) := by
  rw [lookWord, meets_bind, meets_lookCells, meets_pure]

/-- The tail of a buffer that has room for it. -/
theorem tail_iff {size : UInt8} {b : Body} {leaves : Nat → Prop} :
    (∃ tail, zbGetBufTail size b = some tail ∧ leaves tail) ↔
      b.len + b.begin_ + size.toNat ≤ zbIoBufSize ∧ leaves (zbIoBufSize - size.toNat) := by
  rw [zbGetBufTail]
  by_cases room : b.len + b.begin_ + size.toNat ≤ zbIoBufSize
  · rw [if_pos room]
    simp only [Option.some.injEq, exists_eq_left', room, true_and]
  · rw [if_neg room]
    refine iff_of_false ?_ fun all => room all.1
    rintro ⟨tail, none_, -⟩
    cases none_

theorem alloc_iff {size : UInt8} {b : Body} {leaves : Body → Prop} :
    (∃ resp, zbBufInitialAlloc size b = some resp ∧ leaves resp) ↔
      size.toNat < zbIoBufSize ∧
        leaves ⟨b.mem, (zbIoBufSize - size.toNat) / 2, size.toNat⟩ := by
  rw [zbBufInitialAlloc]
  by_cases small : size.toNat < zbIoBufSize
  · rw [if_pos small]
    simp only [Option.some.injEq, exists_eq_left', small, true_and]
  · rw [if_neg small]
    refine iff_of_false ?_ fun all => small all.1
    rintro ⟨resp, none_, -⟩
    cases none_

theorem meets_fillSent {packet : Body} :
    Meets (Reads first frame) Writes (fillSent packet) leaves ↔
      packet.begin_ + 1 ≤ zbIoBufSize ∧ leaves () := by
  have size : apsdeDataReqSize.toNat = 18 := rfl
  have bufSize : zbIoBufSize = 148 := rfl
  rw [fillSent]
  simp only [meets_bind, meets_placed, meets_fill, writes_made, buffer_cells]
  constructor
  · rintro ⟨-, inside, left⟩
    exact ⟨by omega, left⟩
  · rintro ⟨inside, left⟩
    exact ⟨.inr (by omega), .inr inside, left⟩

/-- **What is handed on** has room behind it for the parameters. -/
theorem meets_send {b : Body} :
    Meets (Reads first frame) Writes (send b) leaves ↔ SendRoom b ∧ leaves () := by
  have size : apsdeDataReqSize.toNat = 18 := rfl
  have bufSize : zbIoBufSize = 148 := rfl
  rw [send, meets_bind, meets_check, tail_iff, SendRoom]
  refine and_congr_right fun room => ?_
  have alloc : (1 : UInt8).toNat + b.len < zbIoBufSize := by
    have one : (1 : UInt8).toNat = 1 := rfl
    omega
  have moved : (if b.begin_ = 0 then b.len else 0) = 0 ∨
      b.begin_ + (if b.begin_ = 0 then b.len else 0) ≤ zbIoBufSize ∧
        1 + (if b.begin_ = 0 then b.len else 0) ≤ zbIoBufSize := by
    split
    · exact .inr (by omega)
    · exact .inl rfl
  rw [meets_bind, meets_placed, meets_moveCells, meets_bind, meets_check, zbBufSmartAllocLeft,
    if_pos alloc]
  simp only [reads_made, writes_made, buffer_cells, Option.some.injEq, exists_eq_left', meets_fillSent]
  constructor
  · exact fun all => all.2.2.2
  · refine fun left => ⟨by omega, by omega, ?_, left⟩
    split
    · exact (by decide : 1 - 1 + 1 ≤ 148)
    · exact Nat.succ_le_of_lt (by omega)

theorem meets_answer {size : UInt8} {written : Nat} {b : Body} :
    Meets (Reads first frame) Writes (answer size written b) leaves ↔
      size.toNat ≤ maxAnswer ∧
        (written = 0 ∨ (zbIoBufSize - size.toNat) / 2 + written ≤ zbIoBufSize) ∧ leaves () := by
  have data : apsdeDataReqSize.toNat = 18 := rfl
  have bufSize : zbIoBufSize = 148 := rfl
  have most : maxAnswer = 113 := rfl
  rw [answer]
  simp only [meets_bind, meets_check, alloc_iff, meets_placed, meets_fill, writes_made, buffer_cells,
    meets_send, SendRoom]
  constructor
  · rintro ⟨small, inside, room, left⟩
    exact ⟨by omega, inside, left⟩
  · rintro ⟨small, inside, left⟩
    exact ⟨by omega, inside, by omega, left⟩

/-- An answer of a size that fits. -/
theorem answer_meets {n : Nat} {b : Body} (small : n ≤ maxAnswer) {written : Nat}
    (less : written ≤ n) :
    Meets (Reads first frame) Writes (answer (UInt8.ofNat n) written b) leaves ↔ leaves () := by
  have bufSize : zbIoBufSize = 148 := rfl
  have most : maxAnswer = 113 := rfl
  have size : (UInt8.ofNat n).toNat = n := by rw [UInt8.toNat_ofNat', Nat.mod_eq_of_lt (by omega)]
  rw [meets_answer, size]
  constructor
  · exact fun all => all.2.2
  · exact fun left => ⟨small, .inr (by omega), left⟩

theorem meets_fillParam {size : UInt8} {b : Body} :
    Meets (Reads first frame) Writes (fillParam size b) leaves ↔
      b.len + b.begin_ + size.toNat ≤ zbIoBufSize ∧ leaves () := by
  rw [fillParam]
  simp only [meets_bind, meets_check, tail_iff, meets_placed, meets_fill, writes_made, buffer_cells]
  constructor
  · rintro ⟨room, -, left⟩
    exact ⟨room, left⟩
  · rintro ⟨room, left⟩
    exact ⟨room, .inr (by omega), left⟩

end Places

section Read

variable {first frame : ZdoFrame} {place : Nat → Place} {body : Body}
  (here : ∀ a, Reads first frame (place a) ↔ Covers body a)
include here

theorem meets_lookAt {i : Nat} {leaves : UInt8 → Prop} :
    Meets (Reads first frame) Writes (lookAt place body i) leaves ↔
      i < body.len ∧ leaves (body.at_ i) := by
  rw [lookAt, meets_placed, meets_look, here, covers_iff]
  rfl

theorem meets_wordAt {i : Nat} {leaves : UInt16 → Prop} :
    Meets (Reads first frame) Writes ((lookWord (body.begin_ + i) body.mem).placed place) leaves ↔
      i + 2 ≤ body.len ∧ leaves (word body.mem (body.begin_ + i)) := by
  rw [meets_placed, meets_lookWord]
  simp only [here, covers_cells]
  exact and_congr_left' (or_iff_right (by decide))

theorem meets_clusterAt {list i : Nat} {leaves : UInt16 → Prop} :
    Meets (Reads first frame) Writes (clusterAt place body list i) leaves ↔
      list + 2 * i + 2 ≤ body.len ∧ leaves (word body.mem (body.begin_ + list + 2 * i)) := by
  rw [clusterAt, Nat.add_assoc]
  exact meets_wordAt here

theorem meets_readTarget {leaves : UInt16 × UInt8 → Prop} (whole : 12 ≤ body.len) :
    Meets (Reads first frame) Writes (readTarget place body) leaves ↔
      leaves (word body.mem (body.begin_ + 1), body.at_ 11) := by
  rw [readTarget, meets_bind, meets_wordAt here, meets_bind, meets_lookAt here, meets_pure]
  constructor
  · exact fun all => all.2.2
  · exact fun left => ⟨by omega, by omega, left⟩

theorem meets_resp {leaves : Unit → Prop} :
    Meets (Reads first frame) Writes (zbZdoEndDeviceBindResp place body) leaves ↔
      1 ≤ body.len ∧ leaves () := by
  rw [zbZdoEndDeviceBindResp, meets_bind, meets_lookAt here, meets_answer]
  have small : (1 : UInt8).toNat ≤ maxAnswer := by decide
  have inside : 1 = 0 ∨ (zbIoBufSize - (1 : UInt8).toNat) / 2 + 1 ≤ zbIoBufSize := by decide
  simp only [small, inside, true_and]
  exact Iff.rfl

end Read

/-! ## Matching and binding -/

theorem meets_readMatchDesc (frame : ZdoFrame) :
    Meets (Covers frame.toBody) (· < zbIoBufSize) (readMatchDesc frame.toBody) (fun _ => True) ↔
      numOut frame.toBody = 0 ∧ 7 + 2 * numIn frame.toBody + 2 * numOut frame.toBody ≤ frame.len ∧
        frame.len + frame.begin_ + 2 * numIn frame.toBody ≤ zbIoBufSize := by
  have bufSize : zbIoBufSize = 148 := rfl
  have received := frame.received
  rw [readMatchDesc]
  simp only [meets_bind, meets_look, meets_lookWord, meets_check, moveClusterId, meets_moveItems,
    meets_pure, tail_iff, covers_iff, covers_cells, buffer_cells, and_true]
  have ins : (frame.mem (frame.begin_ + 5)).toNat = numIn frame.toBody := rfl
  rw [ins]
  have outs : (frame.mem (frame.begin_ + (6 + 2 * numIn frame.toBody))).toNat =
    numOut frame.toBody := rfl
  rw [outs]
  have size : (UInt8.ofNat (2 * (numIn frame.toBody + numOut frame.toBody))).toNat =
    (2 * (numIn frame.toBody + numOut frame.toBody)) % 256 := UInt8.toNat_ofNat'
  rw [size]
  have second := @range'_within (zbIoBufSize - 2 * (numIn frame.toBody + numOut frame.toBody) % 256 +
    2 * numIn frame.toBody + 1) (2 * numOut frame.toBody) frame.begin_ (frame.begin_ + frame.len)
  constructor
  · rintro ⟨-, -, -, -, whole, -, room, ins, -, outs, -⟩
    -- what is read behind the clusters in the tail does not belong to the request
    have none_ : numOut frame.toBody = 0 := by
      rcases second.1 outs with none_ | inside
      · omega
      · omega
    have sum : numIn frame.toBody + numOut frame.toBody = numIn frame.toBody := by omega
    have small : 2 * numIn frame.toBody % 256 = 2 * numIn frame.toBody := Nat.mod_eq_of_lt (by omega)
    rw [sum, small] at room
    exact ⟨none_, by omega, room⟩
  · rintro ⟨none_, whole, room⟩
    have sum : numIn frame.toBody + numOut frame.toBody = numIn frame.toBody := by omega
    have small : 2 * numIn frame.toBody % 256 = 2 * numIn frame.toBody := Nat.mod_eq_of_lt (by omega)
    rw [sum, small, none_]
    exact ⟨covers_iff.2 (show 0 < frame.len by omega), .inr (by omega), .inr (by omega), by omega,
      by omega, received, room, .inr (by omega), .inr (by omega),
      fun _ mem => absurd mem List.not_mem_nil, .inl rfl⟩

/-- **A `Match_Desc_req`.** -/
theorem matchDesc_meets (frame : ZdoFrame) (c : ZdoRxContext) {leaves : Unit → Prop} :
    Meets (Reads c.endDeviceBind.first frame) Writes (zdoMatchDescRes frame c) leaves ↔
      Within frame c .matchDesc ∧ leaves () := by
  have few := c.length_simpleDescs
  have one : zbMaxEpNumber = 1 := rfl
  have head : matchDescRespSize = 4 := rfl
  have bufSize : zbIoBufSize = 148 := rfl
  have most : maxAnswer = 113 := rfl
  have made := @MatchDesc.match_made frame.toBody c.shortAddress c.simpleDescs c.epSlots (by omega)
  rw [and_iff_right frame.received] at made
  have answered (fields : MatchDescFields) :
      Meets (Reads c.endDeviceBind.first frame) Writes
        (do
          let (l, _) ← check
            (MatchDesc.zdoMatchDescRes frame.toBody c.shortAddress c.simpleDescs c.epSlots)
          answer (UInt8.ofNat (matchDescRespSize + l.num)) (matchDescRespSize + l.num) frame.toBody)
        leaves ↔
      frame.len + frame.begin_ + 2 * (numIn frame.toBody + numOut frame.toBody) % 256 ≤
        zbIoBufSize ∧ leaves () := by
    rw [meets_bind, meets_check, ← made]
    constructor
    · rintro ⟨left, is, rest⟩
      have num := MatchDesc.num_made is
      exact ⟨⟨left, is⟩, (answer_meets (by omega) (le_refl _)).1 rest⟩
    · rintro ⟨⟨left, is⟩, rest⟩
      have num := MatchDesc.num_made is
      exact ⟨left, is, (answer_meets (by omega) (le_refl _)).2 rest⟩
  rw [zdoMatchDescRes, meets_bind, meets_placed, meets_congr answered, meets_const, Within]
  refine (and_congr_left' (meets_readMatchDesc frame)).trans ?_
  constructor
  · rintro ⟨⟨noOut, whole, room⟩, -, left⟩
    exact ⟨⟨noOut, whole, room⟩, left⟩
  · rintro ⟨⟨noOut, whole, room⟩, left⟩
    have less := Nat.mod_le (2 * (numIn frame.toBody + numOut frame.toBody)) 256
    exact ⟨⟨noOut, whole, room⟩, by omega, left⟩

section Binding

variable {b : Body} {tail : Nat} {m : Nat → UInt8}

theorem meets_moveHead (inside : tail + 13 ≤ zbIoBufSize) :
    Meets (Covers b) (· < zbIoBufSize) (moveHead tail (b.begin_ + 1) m) (fun _ => True) ↔
      13 ≤ b.len := by
  rw [moveHead]
  simp only [meets_bind, meets_moveCells, Nat.add_assoc, Nat.reduceAdd, covers_cells, buffer_cells,
    and_true]
  omega

theorem meets_moveDst (inside : tail + 23 ≤ zbIoBufSize) (mode : m (tail + 12) = bindMode b) :
    Meets (Covers b) (· < zbIoBufSize) (moveDst tail (b.begin_ + 13) m) (fun _ => True) ↔
      (bindMode b = zbApsAddrMode16GroupEndpNotPresent → 15 ≤ b.len) ∧
        (bindMode b = zbApsAddrMode64EndpPresent → 22 ≤ b.len) := by
  rw [moveDst, mode]
  by_cases group : bindMode b = zbApsAddrMode16GroupEndpNotPresent
  · have other : bindMode b ≠ zbApsAddrMode64EndpPresent := by
      rw [group]
      decide
    rw [if_pos group]
    simp only [meets_moveCells, covers_cells, buffer_cells, and_true]
    constructor
    · intro all
      exact ⟨fun _ => by omega, fun is => absurd is other⟩
    · intro all
      have whole := all.1 group
      omega
  rw [if_neg group]
  by_cases long : bindMode b = zbApsAddrMode64EndpPresent
  · rw [if_pos long]
    simp only [meets_bind, meets_moveCells, Nat.add_assoc, Nat.reduceAdd, covers_cells, buffer_cells,
      and_true]
    constructor
    · intro all
      exact ⟨fun is => absurd is group, fun _ => by omega⟩
    · intro all
      have whole := all.2 long
      omega
  · rw [if_neg long, meets_pure]
    exact iff_of_true trivial ⟨fun is => absurd is group, fun is => absurd is long⟩

theorem meets_readBindingReq (bind : Bool) (frame : ZdoFrame) :
    Meets (Covers frame.toBody) (· < zbIoBufSize) (readBindingReq frame.toBody) (fun _ => True) ↔
      Fits frame.toBody (.bindUnbind bind) ∧
        frame.len + frame.begin_ + apsmeBindingReqSize.toNat ≤ zbIoBufSize := by
  have bufSize : zbIoBufSize = 148 := rfl
  have size : apsmeBindingReqSize.toNat = 24 := rfl
  have received := frame.received
  rw [readBindingReq]
  simp only [meets_bind, meets_check, tail_iff, meets_look, meets_pure]
  generalize place : zbIoBufSize - apsmeBindingReqSize.toNat = tail
  rw [meets_iff_result, meets_moveHead (by omega)]
  constructor
  · rintro ⟨-, -, room, head, dst⟩
    obtain ⟨m, made, -, -, -, mode, -⟩ :=
      @moveHead_result tail (frame.begin_ + 1) frame.mem (by omega)
    exact ⟨⟨head, (meets_moveDst (by omega) (cellsAt_one.1 mode)).1 (dst m made)⟩, room⟩
  · rintro ⟨⟨head, dst⟩, room⟩
    refine ⟨received, covers_iff.2 (show 0 < frame.len by omega), room, head, fun m made => ?_⟩
    obtain ⟨m', made', -, -, -, mode, -⟩ :=
      @moveHead_result tail (frame.begin_ + 1) frame.mem (by omega)
    cases made.symm.trans made'
    exact (meets_moveDst (by omega) (cellsAt_one.1 mode)).2 dst

end Binding

theorem meets_readBinding (bind : Bool) (frame : ZdoFrame) (c : ZdoRxContext) :
    Meets (Covers frame.toBody) (· < zbIoBufSize) (readBinding c.build frame.toBody)
      (fun _ => True) ↔ Within frame c (.bindUnbind bind) := by
  rw [readBinding, Within]
  cases c.build.disableBindReq with
  | true =>
      have first : Covers frame.toBody frame.begin_ ↔ 0 < frame.len := @covers_iff frame.toBody 0
      rw [if_pos rfl, if_pos rfl]
      simp only [meets_bind, meets_check, tail_iff, meets_look, meets_pure, and_true]
      rw [first, and_iff_right frame.received]
      exact Iff.rfl
  | false =>
      rw [if_neg Bool.false_ne_true, if_neg Bool.false_ne_true, meets_bind]
      simp only [meets_pure]
      exact meets_readBindingReq bind frame

/-- **A `Bind_req` or an `Unbind_req`.**  It has all its bytes, or nothing is asked of the tables. -/
theorem bindUnbind_bounded_iff (bind : Bool) (frame : ZdoFrame) (c : ZdoRxContext) :
    Bounded frame c (.bindUnbind bind) ↔ Within frame c (.bindUnbind bind) := by
  have one : answer 1 1 frame.toBody = answer (UInt8.ofNat 1) 1 frame.toBody := rfl
  have small : 1 ≤ maxAnswer := by decide
  show Meets _ _ (zbZdoBindUnbindRes frame c bind) _ ↔ _
  rw [zbZdoBindUnbindRes, meets_bind, meets_placed]
  constructor
  · intro bounded
    exact (meets_readBinding bind frame c).1 (meets_iff_result.1 bounded).1
  · intro within
    refine meets_iff_result.2 ⟨(meets_readBinding bind frame c).2 within, fun req made => ?_⟩
    rw [one]
    cases req with
    | none =>
        exact meets_bind.2 ((answer_meets small (le_refl 1)).2
          (meets_pure.2 fun _ => ⟨c, rfl, rfl, rfl, rfl⟩))
    | some req =>
        have fits : Fits frame.toBody (.bindUnbind bind) := by
          rw [Within, (readBinding_some.1 made).1, if_neg Bool.false_ne_true] at within
          exact within.1
        cases bindTables c bind (some req) with
        | error stop => exact meets_pure.2 fun unfit => absurd fits unfit
        | ok left =>
            exact meets_bind.2 ((answer_meets small (le_refl 1)).2
              (meets_pure.2 fun unfit => absurd fits unfit))

/-! ## The manager's request -/

theorem meets_readUpdate {b : Body} {leaves : List UInt8 → Prop} :
    Meets (Covers b) (· < zbIoBufSize) (readUpdate b) leaves ↔
      Fits b .mgmtNwkUpdate ∧ leaves (cellsAt b.begin_ 9 b.mem) := by
  have place : b.mem (b.begin_ + 5) = scanDuration b := rfl
  rw [readUpdate]
  simp only [meets_bind, meets_look, meets_lookCells, place]
  rw [covers_cells, covers_iff, show Covers b b.begin_ ↔ 0 < b.len from @covers_iff b 0, Fits]
  by_cases isMask : scanDuration b = zbZdoNewChannelMask
  · have more : ¬ scanDuration b ≤ zbZdoMaxScanDuration := by
      rw [isMask]
      decide
    rw [if_pos isMask, meets_bind, meets_lookCells, covers_cells, meets_pure]
    constructor
    · rintro ⟨-, -, -, whole, left⟩
      exact ⟨⟨by omega, fun _ => by omega, fun is => absurd is more⟩, left⟩
    · rintro ⟨⟨-, whole, -⟩, left⟩
      have whole := whole isMask
      exact ⟨by omega, by omega, by omega, by omega, left⟩
  rw [if_neg isMask]
  by_cases scan : scanDuration b ≤ zbZdoMaxScanDuration
  · rw [if_pos scan, meets_bind, meets_lookCells, covers_cells, meets_pure]
    constructor
    · rintro ⟨-, -, -, whole, left⟩
      exact ⟨⟨by omega, fun is => absurd is isMask, fun _ => by omega⟩, left⟩
    · rintro ⟨⟨-, -, whole⟩, left⟩
      have whole := whole scan
      exact ⟨by omega, by omega, by omega, by omega, left⟩
  · rw [if_neg scan, meets_bind, meets_pure, meets_pure]
    constructor
    · rintro ⟨-, -, whole, left⟩
      exact ⟨⟨by omega, fun is => absurd is isMask, fun is => absurd is scan⟩, left⟩
    · rintro ⟨⟨whole, -, -⟩, left⟩
      exact ⟨by omega, by omega, by omega, left⟩

/-- **A `Mgmt_NWK_Update_req`.** -/
theorem mgmtNwkUpdate_meets (frame : ZdoFrame) (c : ZdoRxContext) {leaves : Unit → Prop} :
    Meets (Reads c.endDeviceBind.first frame) Writes (zbZdoMgmtNwkUpdateHandler frame c) leaves ↔
      Within frame c .mgmtNwkUpdate ∧ leaves () := by
  have received := frame.received
  have ten : answer 10 10 frame.toBody = answer (UInt8.ofNat 10) 10 frame.toBody := rfl
  have small : 10 ≤ maxAnswer := by decide
  have duration : (cellsAt frame.begin_ 9 frame.mem).getD 5 0 = scanDuration frame.toBody :=
    getD_cellsAt (by decide) 0
  have count : (cellsAt frame.begin_ 9 frame.mem).getD 6 0 = frame.at_ 6 := getD_cellsAt (by decide) 0
  obtain ⟨handled, ran, -, isNotify⟩ :=
    update_ends c.beyond (updateInd frame) (cellsAt frame.begin_ 9 frame.mem)
  rw [duration, count] at isNotify
  have ends : Meets (Reads c.endDeviceBind.first frame) Writes
      (match handled with
        | .updNotify _ _ _ => do
            fillParam updNotifyParamSize frame.toBody
            answer 10 10 frame.toBody
        | .edScan _ _ _ _ => fillParam edScanRequestSize frame.toBody
        | _ => (pure () : Traced Place Unit)) leaves ↔
      (notifies (updateInd frame) (scanDuration frame.toBody) (frame.at_ 6) = true →
        frame.len + frame.begin_ + updNotifyParamSize.toNat ≤ zbIoBufSize) ∧ leaves () := by
    rw [← isNotify]
    cases handled with
    | updNotify status tsn dstAddr =>
        rw [meets_bind, meets_fillParam, ten, answer_meets small (le_refl 10)]
        exact and_congr_left' ⟨fun room _ => room, fun room => room rfl⟩
    | edScan req scanCount dstAddr tsn =>
        rw [meets_fillParam]
        have room : frame.len + frame.begin_ + edScanRequestSize.toNat ≤ zbIoBufSize :=
          le_trans (Nat.add_le_add_left (by decide) _) received
        exact and_congr_left' (iff_of_true room fun not => by cases not)
    | newChannel i => exact meets_pure.trans (and_iff_right fun not => by cases not).symm
    | newMask mask addr => exact meets_pure.trans (and_iff_right fun not => by cases not).symm
    | nothing => exact meets_pure.trans (and_iff_right fun not => by cases not).symm
  rw [zbZdoMgmtNwkUpdateHandler, meets_bind, meets_placed]
  refine meets_readUpdate.trans ?_
  rw [meets_bind, meets_check, ran]
  simp only [Option.some.injEq, exists_eq_left']
  rw [Within, and_assoc]
  exact and_congr_right' ends

/-! ## Pages and lists -/

theorem meets_fillRecords {at_ n : Nat} {m : Nat → UInt8} {leaves : Unit → Prop} :
    Meets (· < zbIoBufSize) (· < zbIoBufSize) (fillRecords at_ m n) leaves ↔
      (n = 0 ∨ at_ + LqiPaging.neighborTableRecordSize * n ≤ zbIoBufSize) ∧ leaves () := by
  have recordSize : LqiPaging.neighborTableRecordSize = 22 := rfl
  induction n generalizing leaves with
  | zero =>
      rw [fillRecords, meets_pure]
      exact (and_iff_right (.inl rfl)).symm
  | succ n ih =>
      rw [fillRecords]
      refine meets_bind.trans (ih.trans ?_)
      simp only [meets_bind, meets_look, meets_fill, buffer_cells, recordSize]
      constructor
      · rintro ⟨-, -, last, left⟩
        exact ⟨.inr (by omega), left⟩
      · rintro ⟨all, left⟩
        exact ⟨by omega, by omega, by omega, left⟩

/-- **A `Mgmt_Lqi_req`.** -/
theorem mgmtLqi_meets (frame : ZdoFrame) (c : ZdoRxContext) {leaves : Unit → Prop} :
    Meets (Reads c.endDeviceBind.first frame) Writes (zdoLqiResp frame c) leaves ↔
      Within frame c .mgmtLqi ∧ leaves () := by
  have bufSize : zbIoBufSize = 148 := rfl
  have respSize : LqiPaging.lqiRespSize = 4 := rfl
  have recordSize : LqiPaging.neighborTableRecordSize = 22 := rfl
  rw [zdoLqiResp, Within]
  simp only [meets_bind, meets_lookAt fun a => reads_request, meets_check, meets_placed,
    meets_lookCells, meets_fill, writes_made, reads_made, reads_request, covers_cells,
    meets_fillRecords, meets_fillSent, buffer_cells]
  cases router : c.routerRole with
  | true =>
      rw [if_pos rfl, if_pos rfl, LqiPaging.PageFits, Fits]
      obtain ⟨none_, over_⟩ | ⟨resp, made, page⟩ := @LqiPaging.lqiResp_router c frame router
      · rw [none_]
        refine iff_of_false ?_ fun all => absurd all.1.2.1 (by omega)
        rintro ⟨-, -, resp, not, -⟩
        cases not
      · have length : resp.slots.length = min (LqiPaging.pageRecords c (frame.at_ 1))
            (LqiPaging.usedSlots c).length := by rw [page.slots, List.length_take]
        have most := page.size
        rw [made, and_iff_right most, ← page.begin_, ← length, recordSize]
        simp only [Option.some.injEq, exists_eq_left']
        have begin_ := page.begin_
        constructor
        · rintro ⟨-, two, header, -, records, -, left⟩
          exact ⟨⟨by omega, by omega⟩, left⟩
        · rintro ⟨⟨two, inside⟩, left⟩
          exact ⟨by omega, by omega, by omega, by omega, by omega, by omega, left⟩
  | false =>
      obtain ⟨resp, made, slots, -, -, -, begin_⟩ := @LqiPaging.lqiResp_endDevice c frame router
      rw [if_neg Bool.false_ne_true, if_neg Bool.false_ne_true, made]
      simp only [Option.some.injEq, exists_eq_left']
      rw [slots, List.length_nil]
      constructor
      · exact fun all => ⟨all.1, all.2.2.2.2.2.2⟩
      · exact fun all => ⟨all.1, by omega, by omega, by omega, by omega, by omega, all.2⟩

theorem answerList_meets {first frame : ZdoFrame} {c : ZdoRxContext} {served : Bool}
    {most startIndex : UInt8} {num : UInt8 → UInt8} {leaves : Unit → Prop} (few : most.toNat ≤ 39) :
    Meets (Reads first frame) Writes
      (answerList frame (extendedFrom c served most num startIndex)) leaves ↔ leaves () := by
  cases made : extendedFrom c served most num startIndex with
  | none => exact meets_pure
  | some resp =>
      obtain ⟨size, fits⟩ := listSize_fits few made
      exact answer_meets fits size

/-- Where all bytes of a request are read at once. -/
theorem covers_first {b : Body} {n : Nat} :
    (∀ a ∈ List.range' b.begin_ n, Covers b a) ↔ n = 0 ∨ n ≤ b.len := by
  have cells := @covers_cells b 0 n
  rw [Nat.zero_add] at cells
  exact cells

/-- **A request for a short address**, -/
theorem nwkAddr_meets (frame : ZdoFrame) (c : ZdoRxContext) {leaves : Unit → Prop} :
    Meets (Reads c.endDeviceBind.first frame) Writes (zdoDeviceNwkAddrRes frame c) leaves ↔
      Within frame c .nwkAddr ∧ leaves () := by
  have small : addrRespSize ≤ maxAnswer := by decide
  rw [zdoDeviceNwkAddrRes, meets_bind, meets_placed, meets_lookCells, Within, and_assoc]
  refine and_congr (covers_first.trans (or_iff_right (by decide))) ?_
  by_cases short : zdoNwkAddrStatus c frame ≠ zbZdpStatusSuccess ∨
      nwkReqType frame = zbZdoSingleDevResponse
  · rw [if_pos short, answer_meets small (le_refl _)]
    exact (and_iff_right (Dispatch.nwkAddrFits_short short)).symm
  rw [if_neg short]
  cases served : nwkServed c frame with
  | true =>
      rw [if_pos rfl, nwkAddrExtended, answerList_meets (by decide)]
      exact (and_iff_right (Dispatch.nwkAddrFits_served served)).symm
  | false =>
      rw [if_neg Bool.false_ne_true, meets_send, Dispatch.nwkAddrFits_back short served]

/-- and for a long one. -/
theorem ieeeAddr_meets (frame : ZdoFrame) (c : ZdoRxContext) {leaves : Unit → Prop} :
    Meets (Reads c.endDeviceBind.first frame) Writes (zdoDeviceIeeeAddrRes frame c) leaves ↔
      Within frame c .ieeeAddr ∧ leaves () := by
  have small : addrRespSize ≤ maxAnswer := by decide
  rw [zdoDeviceIeeeAddrRes, meets_bind, meets_placed, meets_lookCells, Within, and_assoc]
  refine and_congr (covers_first.trans (or_iff_right (by decide))) ?_
  rw [IeeeRoom]
  by_cases own : c.shortAddress = frame.nwkAddr
  swap
  · rw [if_pos own, if_neg own]
    by_cases unicast : frame.deliveryMode = zbApsDeliveryUnicast
    · rw [if_pos unicast, answer_meets small (le_refl _)]
      exact (and_iff_right (.inl unicast)).symm
    rw [if_neg unicast, or_iff_right unicast]
    by_cases broadcast : frame.deliveryMode = zbApsDeliveryBroadcast
    · rw [if_pos broadcast, meets_pure]
      exact (and_iff_right (.inl broadcast)).symm
    · rw [if_neg broadcast, or_iff_right broadcast, meets_send]
  rw [if_neg (not_not.2 own), if_pos own]
  by_cases short : ieeeReqType frame > zbZdoExtendedResponse ∨
      ieeeReqType frame = zbZdoSingleDevResponse
  · rw [if_pos short, answer_meets small (le_refl _)]
    refine (and_iff_right fun extended => ?_).symm
    rw [extended] at short
    exact absurd short (by decide)
  rw [if_neg short]
  obtain ⟨noMore, noSingle⟩ := not_or.1 short
  have type_ := extended_of_other noSingle noMore
  rw [forall_prop_of_true type_, ieeeServed, decide_eq_true own, decide_eq_true type_,
    Bool.true_and, Bool.true_and]
  cases parent : c.isParent with
  | true =>
      rw [if_pos rfl, ieeeAddrExtended, answerList_meets (by decide)]
      exact (and_iff_right fun not => by cases not).symm
  | false => rw [if_neg Bool.false_ne_true, meets_send, forall_prop_of_true rfl]

/-! ## Two requests that are compared -/

section Lists

variable {reads writes : Place → Prop} {w2 : Nat → UInt16}

/-- The inner loop reads its cluster again in each turn. -/
theorem meets_checkClusterAt {one : Traced Place UInt16} {two : Nat → Traced Place UInt16}
    {inOne : Prop} {w1 : UInt16}
    (readsOne : ∀ leaves, Meets reads writes one leaves ↔ inOne ∧ leaves w1) {js : List Nat}
    (readsTwo : ∀ j ∈ js, ∀ leaves, Meets reads writes (two j) leaves ↔ leaves (w2 j))
    {found : List UInt16} {leaves : List UInt16 → Prop} :
    Meets reads writes (checkClusterAt one two js found) leaves ↔
      (js ≠ [] → inOne) ∧ ∃ l, checkCluster w1 (js.map w2) found = some l ∧ leaves l := by
  induction js generalizing found with
  | nil =>
      rw [checkClusterAt, meets_pure, List.map_nil, checkCluster]
      simp only [ne_eq, not_true_eq_false, false_implies, true_and, Option.some.injEq, exists_eq_left']
  | cons j js ih =>
      have ih := @ih fun j mem => readsTwo j (List.mem_cons_of_mem _ mem)
      rw [checkClusterAt, meets_bind, readsOne, meets_bind, readsTwo j List.mem_cons_self,
        List.map_cons, checkCluster]
      have asked : (j :: js ≠ [] → inOne) ↔ inOne :=
        ⟨fun inside => inside (List.cons_ne_nil _ _), fun inside _ => inside⟩
      rw [asked]
      refine and_congr_right fun inside => ?_
      have rest (found : List UInt16) : Meets reads writes (checkClusterAt one two js found) leaves ↔
          ∃ l, checkCluster w1 (js.map w2) found = some l ∧ leaves l :=
        ih.trans (and_iff_right fun _ => inside)
      by_cases same : w1 = w2 j
      · rw [if_pos same, if_pos same]
        by_cases room : found.length < zbZdoMaxClusterList
        · rw [if_pos room, if_pos room]
          dsimp only
          by_cases full : (found ++ [w1]).length ≥ zbZdoMaxClusterList
          · rw [if_pos full, if_pos full, meets_pure]
            simp only [Option.some.injEq, exists_eq_left']
          · rw [if_neg full, if_neg full, rest]
        · rw [if_neg room, if_neg room, meets_check]
      · rw [if_neg same, if_neg same, rest]

/-- The first list is read when there is a second one. -/
theorem meets_foldlM {one two : Nat → Traced Place UInt16} {inOne : Nat → Prop} {w1 : Nat → UInt16}
    (readsOne : ∀ i leaves, Meets reads writes (one i) leaves ↔ inOne i ∧ leaves (w1 i))
    {js : List Nat} (readsTwo : ∀ j ∈ js, ∀ leaves, Meets reads writes (two j) leaves ↔ leaves (w2 j))
    {is : List Nat} {found : List UInt16} {leaves : List UInt16 → Prop} :
    Meets reads writes
        (is.foldlM (fun found i => checkClusterAt (one i) two js found) found) leaves ↔
      (js ≠ [] → ∀ i ∈ is, inOne i) ∧
        ∃ l, (is.map w1).foldlM (fun found c => checkCluster c (js.map w2) found) found = some l ∧
          leaves l := by
  induction is generalizing found with
  | nil =>
      rw [List.foldlM_nil, meets_pure]
      simp only [List.map_nil, List.foldlM_nil, Option.pure_def, Option.some.injEq, exists_eq_left',
        List.not_mem_nil, false_implies, implies_true, true_and]
  | cons i is ih =>
      rw [List.foldlM_cons, meets_bind, meets_checkClusterAt (readsOne i) readsTwo, List.map_cons,
        List.foldlM_cons]
      constructor
      · rintro ⟨here, found, is, rest⟩
        obtain ⟨there, l, made, left⟩ := ih.1 rest
        exact ⟨fun some_ => List.forall_mem_cons.2 ⟨here some_, there some_⟩, l,
          Option.bind_eq_some_iff.2 ⟨found, is, made⟩, left⟩
      · rintro ⟨inside, l, made, left⟩
        obtain ⟨found, is, made⟩ := Option.bind_eq_some_iff.1 made
        exact ⟨fun some_ => (List.forall_mem_cons.1 (inside some_)).1, found, is,
          ih.2 ⟨fun some_ => (List.forall_mem_cons.1 (inside some_)).2, l, made, left⟩⟩

end Lists

/-- The clusters shared find room when the lists fit. -/
theorem fits_iff (list1 list2 : List UInt16) :
    (∃ l, checkClusterList list1 list2 = some l) ↔ EndDeviceBind.fits list1 list2 = true := by
  rw [← EndDeviceBind.checkClusterList_isSome, Option.isSome_iff_exists]

/-! ## What is found in two requests -/

theorem checkClusterAt_result {one : Traced Place UInt16} {two : Nat → Traced Place UInt16}
    {w1 : UInt16} {w2 : Nat → UInt16} (readOne : one.result = some w1)
    (readTwo : ∀ j, (two j).result = some (w2 j)) {js : List Nat} {found : List UInt16} :
    (checkClusterAt one two js found).result = checkCluster w1 (js.map w2) found := by
  induction js generalizing found with
  | nil => rfl
  | cons j js ih =>
      rw [checkClusterAt, result_bind, readOne, Option.bind_some, result_bind, readTwo,
        Option.bind_some, List.map_cons, checkCluster]
      by_cases same : w1 = w2 j
      · rw [if_pos same, if_pos same]
        by_cases room : found.length < zbZdoMaxClusterList
        · rw [if_pos room, if_pos room]
          dsimp only
          by_cases full : (found ++ [w1]).length ≥ zbZdoMaxClusterList
          · rw [if_pos full, if_pos full, result_pure]
          · rw [if_neg full, if_neg full, ih]
        · rw [if_neg room, if_neg room, result_check]
      · rw [if_neg same, if_neg same, ih]

theorem checkClusterListAt_result {one two : Nat → Traced Place UInt16} {w1 w2 : Nat → UInt16}
    (readOne : ∀ i, (one i).result = some (w1 i)) (readTwo : ∀ j, (two j).result = some (w2 j))
    (num1 num2 : Nat) : (checkClusterListAt one two num1 num2).result =
      checkClusterList ((List.range num1).map w1) ((List.range num2).map w2) := by
  rw [checkClusterListAt, checkClusterList]
  generalize List.range num1 = is
  generalize ([] : List UInt16) = found
  induction is generalizing found with
  | nil => rfl
  | cons i is ih =>
      rw [List.foldlM_cons, List.map_cons, List.foldlM_cons, result_bind,
        checkClusterAt_result (readOne i) readTwo]
      exact congrArg _ (funext ih)

theorem clusterAt_result {place : Nat → Place} {b : Body} {list : Nat} (i : Nat) :
    (clusterAt place b list i).result = some (word b.mem (b.begin_ + list + 2 * i)) := by
  rw [clusterAt, result_placed]
  rfl

/-- **Two requests are compared as they are matched.** -/
theorem compareRequests_result (first b : Body) (ctx : EndDeviceBindCtx) :
    (compareRequests first b ctx).result =
      (matchRequests (endDeviceBindReq (endDeviceBindFields first))
        (endDeviceBindReq (endDeviceBindFields b)) ctx).map fun left =>
          (left.1, decide (left.2 = zbZdpStatusSuccess)) := by
  have profile (place : Nat → Place) (b : Body) :
      ((lookWord (b.begin_ + 12) b.mem).placed place).result =
        some (endDeviceBindReq (endDeviceBindFields b)).profileId := by
    rw [result_placed]
    rfl
  rw [compareRequests, matchRequests, result_bind, profile, Option.bind_some, result_bind, profile,
    Option.bind_some]
  by_cases other : (endDeviceBindReq (endDeviceBindFields first)).profileId ≠
      (endDeviceBindReq (endDeviceBindFields b)).profileId
  · rw [if_pos other, if_pos other]
    rfl
  rw [if_neg other, if_neg other]
  have byte (place : Nat → Place) (b : Body) (i : Nat) :
      (lookAt place b i).result = some (b.at_ i) := by
    rw [lookAt, result_placed]
    rfl
  simp only [result_bind, byte, Option.bind_some, result_pure,
    checkClusterListAt_result (fun i => clusterAt_result i) fun j => clusterAt_result j]
  have ins (b : Body) : (endDeviceBindReq (endDeviceBindFields b)).inClusters =
      (List.range (b.at_ 14).toNat).map fun i => word b.mem (b.begin_ + 15 + 2 * i) := rfl
  have outs (b : Body) : (endDeviceBindReq (endDeviceBindFields b)).outClusters =
      (List.range (b.at_ (15 + 2 * (b.at_ 14).toNat)).toNat).map fun i =>
        word b.mem (b.begin_ + (16 + 2 * (b.at_ 14).toNat) + 2 * i) := rfl
  simp only [← ins, ← outs]
  cases checkClusterList (endDeviceBindReq (endDeviceBindFields first)).outClusters
      (endDeviceBindReq (endDeviceBindFields b)).inClusters with
  | none => rfl
  | some list1 =>
      cases checkClusterList (endDeviceBindReq (endDeviceBindFields first)).inClusters
          (endDeviceBindReq (endDeviceBindFields b)).outClusters with
      | none => rfl
      | some list2 =>
          refine congrArg some (Prod.ext rfl ?_)
          dsimp only
          by_cases none_ : list1.length = 0 ∧ list2.length = 0
          · rw [if_pos none_, decide_eq_false fun some_ => some_.elim (absurd none_.1) (absurd none_.2)]
            rfl
          · rw [if_neg none_, decide_eq_true (not_and_or.1 none_)]
            rfl

section Second

variable {first frame : ZdoFrame}

/-- The lists of the first request are read where they stand, and those of the second are inside. -/
theorem meets_sharedAt {list1 list2 num1 num2 : Nat} {leaves : List UInt16 → Prop}
    (whole : list2 + 2 * num2 ≤ frame.len) :
    Meets (Reads first frame) Writes
        (checkClusterListAt (clusterAt .first first.toBody list1)
          (clusterAt .request frame.toBody list2) num1 num2) leaves ↔
      (num2 ≠ 0 → num1 = 0 ∨ list1 + 2 * num1 ≤ first.len) ∧
        ∃ l, checkClusterList (wordsAt (first.begin_ + list1) num1 first.mem)
            (wordsAt (frame.begin_ + list2) num2 frame.mem) = some l ∧ leaves l := by
  rw [checkClusterListAt, meets_foldlM (fun i leaves => meets_clusterAt fun a => reads_first)
    fun j mem leaves => (meets_clusterAt fun a => reads_request).trans (and_iff_right ?_)]
  · refine and_congr ?_ Iff.rfl
    have some_ : List.range num2 ≠ [] ↔ num2 ≠ 0 := not_congr List.range_eq_nil
    rw [some_]
    refine imp_congr_right fun _ => ?_
    simp only [List.mem_range]
    constructor
    · intro all
      by_cases none_ : num1 = 0
      · exact .inl none_
      · have last := all (num1 - 1) (by omega)
        exact .inr (by omega)
    · intro inside i less
      omega
  · have less := List.mem_range.1 mem
    omega

/-- **What is read of the first request**, when the second one has all its bytes. -/
theorem meets_compareRequests (ctx : EndDeviceBindCtx) (fits : Fits frame.toBody .endDeviceBind) :
    Meets (Reads first frame) Writes (compareRequests first.toBody frame.toBody ctx)
      (fun _ => True) ↔ FirstFits first.toBody frame.toBody := by
  have whole : 16 + 2 * bindNumIn frame.toBody + 2 * bindNumOut frame.toBody ≤ frame.len := fits
  rw [compareRequests, meets_bind, meets_wordAt fun a => reads_first, meets_bind,
    meets_wordAt fun a => reads_request, FirstFits]
  refine and_congr_right fun head => ?_
  rw [and_iff_right (show 12 + 2 ≤ frame.len by omega)]
  have profiles : word first.mem (first.begin_ + 12) = (endDeviceBindFields first.toBody).profileId ∧
      word frame.mem (frame.begin_ + 12) = (endDeviceBindFields frame.toBody).profileId := ⟨rfl, rfl⟩
  rw [profiles.1, profiles.2]
  by_cases same : (endDeviceBindFields first.toBody).profileId =
      (endDeviceBindFields frame.toBody).profileId
  · have ins : (first.at_ 14).toNat = bindNumIn first.toBody ∧
        (frame.at_ 14).toNat = bindNumIn frame.toBody := ⟨rfl, rfl⟩
    have outs : (first.at_ (15 + 2 * bindNumIn first.toBody)).toNat = bindNumOut first.toBody ∧
        (frame.at_ (15 + 2 * bindNumIn frame.toBody)).toNat = bindNumOut frame.toBody := ⟨rfl, rfl⟩
    rw [if_neg (not_not.2 same), meets_bind, meets_lookAt fun a => reads_first, meets_bind,
      meets_lookAt fun a => reads_request, meets_bind, meets_lookAt fun a => reads_first, meets_bind,
      meets_lookAt fun a => reads_request, ins.1, ins.2, outs.1, outs.2, meets_bind,
      meets_sharedAt (by omega)]
    have second (leaves : List UInt16 → Prop) := @meets_sharedAt first frame 15
      (16 + 2 * bindNumIn frame.toBody) (bindNumIn first.toBody) (bindNumOut frame.toBody) leaves
      (by omega)
    simp only [meets_bind, second, meets_pure, and_true]
    constructor
    · rintro ⟨-, -, outAt, -, outs, l, shared, -, l', shared'⟩ -
      refine ⟨by omega, fun some_ => ?_, (fits_iff _ _).1 ⟨l, shared⟩, (fits_iff _ _).1 ⟨l', shared'⟩⟩
      rcases outs some_ with none_ | inside
      · omega
      · exact inside
    · intro all
      obtain ⟨inside, outs, shared, shared'⟩ := all same
      obtain ⟨l, shared⟩ := (fits_iff _ _).2 shared
      obtain ⟨l', shared'⟩ := (fits_iff _ _).2 shared'
      exact ⟨by omega, by omega, by omega, by omega, fun some_ => .inr (outs some_), l, shared,
        fun _ => .inr (by omega), l', shared'⟩
  · rw [if_pos same, meets_pure]
    exact iff_of_true trivial fun is => absurd is same

/-- What both requests leave is another context. -/
theorem saveTargets_leaves {ctx : EndDeviceBindCtx} {matched : Bool}
    {leaves : EndDeviceBindCtx → Prop}
    (meets : Meets (Reads first frame) Writes (saveTargets first frame ctx matched) leaves) :
    ∃ ctx', leaves ctx' ∧ (ctx'.dev2.endDeviceBindParam = frame.param ∨
      ctx'.dev1.endDeviceBindParam = zbUndefinedBuffer) := by
  cases matched with
  | false => exact ⟨_, meets_pure.1 meets, .inr rfl⟩
  | true =>
      obtain ⟨target1, -, -, -, rest⟩ := meets_bind.1 meets
      obtain ⟨target2, -, -, -, rest⟩ := meets_bind.1 rest
      exact ⟨_, meets_pure.1 rest, .inl rfl⟩

theorem saveTargets_meets {ctx : EndDeviceBindCtx} {matched : Bool}
    {leaves : EndDeviceBindCtx → Prop} (whole : 12 ≤ first.len ∧ 12 ≤ frame.len)
    (all : ∀ ctx, leaves ctx) :
    Meets (Reads first frame) Writes (saveTargets first frame ctx matched) leaves := by
  cases matched with
  | false => exact meets_pure.2 (all _)
  | true =>
      refine meets_bind.2 ((meets_readTarget (fun a => reads_first) whole.1).2 ?_)
      refine meets_bind.2 ((meets_readTarget (fun a => reads_request) whole.2).2 ?_)
      exact meets_pure.2 (all _)

end Second

/-- **An `End_Device_Bind_req`.** -/
theorem endDeviceBind_bounded_iff (frame : ZdoFrame) (c : ZdoRxContext) :
    Bounded frame c .endDeviceBind ↔ Within frame c .endDeviceBind := by
  have request : ∀ a, Reads c.endDeviceBind.first frame (.request a) ↔ Covers frame.toBody a :=
    fun a => reads_request
  have first : ∀ a, Reads c.endDeviceBind.first frame (.first a) ↔
      Covers c.endDeviceBind.first.toBody a := fun a => reads_first
  rw [Bounded, handle, meets_bind, zbZdoEndDeviceBindHandler, Within]
  simp only [meets_pure, Except.ok.injEq, exists_eq_left']
  have kept : ¬ Fits frame.toBody .endDeviceBind → Unchanged c c := fun _ => ⟨rfl, rfl, rfl⟩
  cases disabled : c.build.disableEdBindReq with
  | true =>
      rw [if_pos rfl, if_pos rfl, meets_bind, meets_resp request, meets_pure]
      exact and_iff_left kept
  | false =>
      rw [if_neg Bool.false_ne_true, if_neg Bool.false_ne_true, meets_bind, meets_lookAt request]
      refine and_congr_right fun head => ?_
      by_cases wrong : frame.at_ 11 < zbMinEndpointNumber ∨ zbMaxEndpointNumber < frame.at_ 11
      · have other : ¬ endpointValid frame.toBody := fun valid =>
          wrong.elim (UInt8.not_lt.2 valid.1) (UInt8.not_lt.2 valid.2)
        rw [if_pos wrong, meets_bind, meets_resp request, meets_pure]
        exact iff_of_true ⟨by omega, kept⟩ fun valid => absurd valid other
      have valid : endpointValid frame.toBody := by
        rw [not_or, UInt8.not_lt, UInt8.not_lt] at wrong
        exact wrong
      rw [if_neg wrong, forall_prop_of_true valid]
      by_cases none_ : c.endDeviceBind.ctx.dev1.endDeviceBindParam = zbUndefinedBuffer
      · -- the first request is kept, whatever it has
        have free : ¬ Waits c.endDeviceBind.ctx := fun waits => waits none_
        rw [if_pos none_, meets_pure]
        constructor
        · intro unchanged _
          refine ⟨Classical.by_contradiction fun unfit => ?_, fun waits => absurd waits free⟩
          have same := congrArg (fun p => p.ctx.dev1.endDeviceBindParam) (unchanged unfit).pending
          exact frame.given (same.trans none_)
        · intro fits unfit
          exact absurd (fits fun busy => free busy.1).1 unfit
      rw [if_neg none_]
      by_cases busy : c.endDeviceBind.ctx.dev2.endDeviceBindParam ≠ zbUndefinedBuffer
      · rw [if_pos busy, meets_bind, meets_resp request, meets_pure]
        exact iff_of_true ⟨by omega, kept⟩ fun idle => absurd ⟨none_, busy⟩ idle
      · rw [if_neg busy]
        have idle : ¬ Busy c.endDeviceBind.ctx := fun both => busy both.2
        have waits : Waits c.endDeviceBind.ctx := none_
        rw [forall_prop_of_true idle, forall_prop_of_true waits]
        have free : c.endDeviceBind.ctx.dev2.endDeviceBindParam = zbUndefinedBuffer := not_not.1 busy
        constructor
        · intro bounded
          have compared := meets_bind.1 bounded
          have fits : Fits frame.toBody .endDeviceBind := by
            by_contra unfit
            obtain ⟨r, -, -, -, rest⟩ := compared
            obtain ⟨ctx, left, changed⟩ := saveTargets_leaves (meets_bind.1 rest)
            obtain ⟨-, left⟩ := (meets_resp request).1 (meets_bind.1 left)
            obtain ⟨-, left⟩ := (meets_resp first).1 (meets_bind.1 left)
            have same := congrArg PendingBind.ctx (meets_pure.1 left unfit).pending
            rcases changed with saved | released
            · rw [show ctx = c.endDeviceBind.ctx from same, free] at saved
              exact frame.given saved.symm
            · rw [show ctx = c.endDeviceBind.ctx from same] at released
              exact none_ released
          exact ⟨fits, (meets_compareRequests _ fits).1 (meets_iff_result.1 compared).1⟩
        · rintro ⟨fits, there⟩
          have firstHead : 14 ≤ c.endDeviceBind.first.len := there.1
          refine meets_bind.2 (meets_iff_result.2 ⟨(meets_compareRequests _ fits).2 there, ?_⟩)
          intro val _
          refine meets_bind.2 (saveTargets_meets ⟨by omega, head⟩ fun ctx => ?_)
          refine meets_bind.2 ((meets_resp request).2 ⟨by omega, ?_⟩)
          refine meets_bind.2 ((meets_resp first).2 ⟨by omega, ?_⟩)
          exact meets_pure.2 fun unfit => absurd fits unfit

/-! ## All requests -/

/-- A handler that leaves the tables alone. -/
theorem bounded_of_meets {frame : ZdoFrame} {c : ZdoRxContext} {req : ZdoRequest}
    {x : Traced Place Unit}
    (is : handle frame c req = x >>= fun _ => pure (.ok c))
    (meets : ∀ leaves, Meets (Reads c.endDeviceBind.first frame) Writes x leaves ↔
      Within frame c req ∧ leaves ()) : Bounded frame c req ↔ Within frame c req := by
  rw [Bounded, is, meets_bind, meets, meets_pure]
  exact and_iff_left fun _ => ⟨c, rfl, rfl, rfl, rfl⟩

/-- **Which requests are bounded.** -/
theorem requests_bounded_iff (frame : ZdoFrame) (c : ZdoRxContext) (req : ZdoRequest) :
    Bounded frame c req ↔ Within frame c req := by
  cases req with
  | matchDesc => exact bounded_of_meets rfl fun leaves => matchDesc_meets frame c
  | endDeviceBind => exact endDeviceBind_bounded_iff frame c
  | bindUnbind bind => exact bindUnbind_bounded_iff bind frame c
  | mgmtNwkUpdate => exact bounded_of_meets rfl fun leaves => mgmtNwkUpdate_meets frame c
  | mgmtLqi => exact bounded_of_meets rfl fun leaves => mgmtLqi_meets frame c
  | nwkAddr => exact bounded_of_meets rfl fun leaves => nwkAddr_meets frame c
  | ieeeAddr => exact bounded_of_meets rfl fun leaves => ieeeAddr_meets frame c

/-! ## Pole -/

/-- A request that ends behind its endpoint, in buffer 3. -/
def shortBind : ZdoFrame where
  mem a := if a = 31 then 1 else 0
  begin_ := 20
  len := 12
  param := 3
  macSrc := some 0
  given := by decide
  received := by decide

/-- **It is kept for the second one.** -/
theorem short_bind_kept :
    ¬ ∀ (frame : ZdoFrame) (c : ZdoRxContext) (req : ZdoRequest), Bounded frame c req := by
  intro always
  have within := (requests_bounded_iff shortBind quietRouter .endDeviceBind).1 (always _ _ _)
  have valid : endpointValid shortBind.toBody := ⟨by decide, by decide⟩
  have fits : 16 + 2 * bindNumIn shortBind.toBody + 2 * bindNumOut shortBind.toBody ≤ 12 :=
    (within.2 valid fun busy => busy.1 rfl).1
  omega

end Zboss.Zdo.RequestBounds
