/-
# Zdo.RequestEncode -- requests that are built where their parameters stand

A client puts the parameters of a request into a buffer, and the request is built in the middle of
the same buffer.  Those of `Match_Desc_req` and `End_Device_Bind_req` have a variable length: they
are moved to the tail first, as far to the left as they are long.  Those of `Bind_req` are in the
tail from the start.

* `Requested.Right`: what a request should carry;
* `matchDescReq_sends`, `endDeviceBindReq_sends` and `bindUnbindReq_sends`: which requests are made,
  and which of them are right.

Pole: the address that a request is sent to is the first of its parameters and is read at last.  It
is covered from 22 clusters on in the one request, and from 17 on in the other.
-/
import Mathlib
import Zboss.Common.Constants
import Zboss.Theory.MessageBuild
import Zboss.Zdo.SimpleDescResp

namespace Zboss.Zdo.RequestEncode

open Zboss.Common.Constants
open Zboss.Common.Types (ZbIeeeAddr)
open Zboss.Theory.ByteMemory
open Zboss.Theory.MessageBuild
open Zboss.Common.PacketBuf (uint16Bytes)
open Zboss.Zdo.BodyMemory
open Zboss.Zdo.SendByShort
open Zboss.Zdo.SimpleDescResp (zbAsduMaxLen)

set_option autoImplicit false

/-! ## Parameters -/

/-- `zb_zdo_match_desc_param_t`, of a message that fits. -/
structure ZbZdoMatchDescParam where
  nwkAddr : UInt16
  profileId : UInt16
  inClusters : List UInt16
  outClusters : List UInt16
  fits : 7 + 2 * (inClusters.length + outClusters.length) ≤ zbAsduMaxLen

/-- `zb_end_device_bind_req_param_t`, of a message that fits. -/
structure ZbEndDeviceBindReqParam where
  dstAddr : UInt16
  bindingTarget : UInt16
  srcIeeeAddr : ZbIeeeAddr
  srcEndp : UInt8
  profileId : UInt16
  inClusters : List UInt16
  outClusters : List UInt16
  fits : 16 + 2 * (inClusters.length + outClusters.length) ≤ zbAsduMaxLen

def zbApsAddrMode16GroupEndpNotPresent : UInt8 := 1

def zbApsAddrMode64EndpPresent : UInt8 := 3

/-- `zb_zdo_bind_req_param_t`, with all eight bytes of its union. -/
structure ZbZdoBindReqParam where
  srcAddress : ZbIeeeAddr
  srcEndp : UInt8
  clusterId : UInt16
  dstAddrMode : UInt8
  dstAddress : ZbIeeeAddr
  dstEndp : UInt8
  reqDstAddr : UInt16
  accepted : dstAddrMode = zbApsAddrMode16GroupEndpNotPresent ∨ dstAddrMode = zbApsAddrMode64EndpPresent

def listBytes (clusters : List UInt16) : List UInt8 := clusters.flatMap uint16Bytes

def countByte (clusters : List UInt16) : UInt8 := UInt8.ofNat clusters.length

namespace ZbZdoMatchDescParam

variable (p : ZbZdoMatchDescParam)

def clusters : Nat := p.inClusters.length + p.outClusters.length

/-- In memory both numbers stand before the clusters, -/
def parts : List (List UInt8) :=
  [uint16Bytes p.nwkAddr, uint16Bytes p.profileId, [countByte p.inClusters],
    [countByte p.outClusters], listBytes p.inClusters, listBytes p.outClusters]

/-- and on the wire each of them before its own. -/
def wire : List (List UInt8) :=
  [uint16Bytes p.nwkAddr, uint16Bytes p.profileId, [countByte p.inClusters],
    listBytes p.inClusters, [countByte p.outClusters], listBytes p.outClusters]

end ZbZdoMatchDescParam

namespace ZbEndDeviceBindReqParam

variable (p : ZbEndDeviceBindReqParam)

def clusters : Nat := p.inClusters.length + p.outClusters.length

def headParts : List (List UInt8) :=
  [uint16Bytes p.bindingTarget, p.srcIeeeAddr.toList, [p.srcEndp], uint16Bytes p.profileId,
    [countByte p.inClusters]]

def parts : List (List UInt8) :=
  uint16Bytes p.dstAddr :: (p.headParts ++
    [[countByte p.outClusters], listBytes p.inClusters, listBytes p.outClusters])

def wire : List (List UInt8) :=
  p.headParts ++ [listBytes p.inClusters, [countByte p.outClusters], listBytes p.outClusters]

end ZbEndDeviceBindReqParam

namespace ZbZdoBindReqParam

variable (p : ZbZdoBindReqParam)

/-- The parameters with the bytes of padding between them. -/
def parts (pads : Vector UInt8 3) : List (List UInt8) :=
  [p.srcAddress.toList, [p.srcEndp], [pads.toList.getD 0 0], uint16Bytes p.clusterId,
    [p.dstAddrMode], [pads.toList.getD 1 0], p.dstAddress.toList, [p.dstEndp],
    [pads.toList.getD 2 0], uint16Bytes p.reqDstAddr]

def headParts : List (List UInt8) :=
  [p.srcAddress.toList, [p.srcEndp], uint16Bytes p.clusterId, [p.dstAddrMode]]

def wire : List (List UInt8) :=
  p.headParts ++
    if p.dstAddrMode = zbApsAddrMode16GroupEndpNotPresent then [p.dstAddress.toList.take 2]
    else [p.dstAddress.toList, [p.dstEndp]]

end ZbZdoBindReqParam

/-! ## The clients -/

/-- A request that is sent: the message with what it is sent with, and whether it has been made out
of bytes that it had covered. -/
structure Requested where
  body : Body
  spoiled : Bool

/-- The address is read when the message is there. -/
def sendRequest (commandId : UInt16) (dstAt : Nat) (tsn : UInt8) (req : Body) (s : Building UInt8) :
    Option Requested := do
  let s := s.read dstAt 2
  let body ← zdoSendReqByShort commandId (word s.mem dstAt) tsn { req with mem := s.mem }
  return ⟨body, s.spoiled⟩

/-- A request that is built from its first byte on. -/
def buildIn (req : Body) : Building UInt8 := ⟨req.mem, req.begin_, req.begin_, false⟩

def matchDescParamSize : Nat := 8

def endDeviceBindReqParamSize : Nat := 19

def bindReqParamSize : UInt8 := 26

/-- The parameters go to the tail, by the numbers of clusters in them. -/
def toTail (size : Nat) (b : Body) : Option (Nat × Body) := do
  let param ← zbGetBufTail (UInt8.ofNat size) b
  return (param, { b with mem := copyCells param b.begin_ size b.mem })

/-- Both loops read the number of their clusters again for each of them. -/
def matchDescMessage (param : Nat) (s : Building UInt8) : Building UInt8 :=
  let s := ((s.copy param 2).copy (param + 2) 2).copy (param + 4) 1
  let (s, clusterId) := s.copyWhile UInt8.toNat (param + 4) 2 256 0 (param + 6)
  let s := s.copy (param + 5) 1
  (s.copyWhile UInt8.toNat (param + 5) 2 256 0 clusterId).1

def zbZdoMatchDescReq (tsn : UInt8) (b : Body) : Option Requested := do
  let (param, b) ← toTail (matchDescParamSize + 2 * ((b.at_ 4).toNat + (b.at_ 5).toNat)) b
  let req ← zbBufInitialAlloc
    (UInt8.ofNat (6 + 2 * ((b.mem (param + 4)).toNat + (b.mem (param + 5)).toNat))) b
  sendRequest zdoMatchDescReqClid param tsn req (matchDescMessage param (buildIn req))

def copyEndDeviceBindReqHead (srcHead : Nat) (s : Building UInt8) : Building UInt8 :=
  ((((s.copy srcHead 2).copy (srcHead + 2) 8).copy (srcHead + 10) 1).copy (srcHead + 11) 2).copy
    (srcHead + 13) 1

def endDeviceBindMessage (param : Nat) (s : Building UInt8) : Building UInt8 :=
  let s := (copyEndDeviceBindReqHead (param + 2) s).read (param + 15) 1
  let s := s.copyEach 2 (param + 17) (s.mem (param + 15)).toNat
  let s := (s.copy (param + 16) 1).read (param + 15) 2
  s.copyEach 2 (param + 17 + 2 * (s.mem (param + 15)).toNat) (s.mem (param + 16)).toNat

def zbEndDeviceBindReq (tsn : UInt8) (b : Body) : Option Requested := do
  let (param, b) ←
    toTail (endDeviceBindReqParamSize + 2 * ((b.at_ 15).toNat + (b.at_ 16).toNat)) b
  let req ← zbBufInitialAlloc
    (UInt8.ofNat (15 + 2 * ((b.mem (param + 15)).toNat + (b.mem (param + 16)).toNat))) b
  sendRequest zdoEndDeviceBindReqClid param tsn req (endDeviceBindMessage param (buildIn req))

def bindReqHead (param : Nat) (s : Building UInt8) : Building UInt8 :=
  let s := ((s.copy param 8).copy (param + 8) 1).copy (param + 10) 2
  (s.copy (param + 12) 1).read (param + 12) 1

/-- Another address mode is an assertion. -/
def zbZdoBindUnbindReq (bind : Bool) (tsn : UInt8) (b : Body) : Option Requested := do
  let param ← zbGetBufTail bindReqParamSize b
  let req ← zbBufInitialAlloc 12 b
  let s := bindReqHead param (buildIn req)
  let (req, s) ←
    if s.mem (param + 12) = zbApsAddrMode16GroupEndpNotPresent then do
      let (req, _) ← zbBufSmartAllocRight 2 req
      some (req, s.copy (param + 14) 2)
    else if s.mem (param + 12) = zbApsAddrMode64EndpPresent then do
      let (req, _) ← zbBufSmartAllocRight 9 req
      some (req, (s.copy (param + 14) 8).copy (param + 22) 1)
    else none
  sendRequest (if bind then zdoBindReqClid else zdoUnbindReqClid) (param + 24) tsn req s

/-! ## What a request should be -/

/-- It is made out of its parameters, carries the message, and goes to the address. -/
structure Requested.Right (r : Requested) (tsn : UInt8) (message : List UInt8)
    (commandId dstAddr : UInt16) : Prop where
  clean : r.spoiled = false
  bytes : r.body.bytes = (tsn + 1) :: message
  dstAddr : word r.body.mem (zbIoBufSize - apsdeDataReqSize.toNat) = dstAddr
  clusterid : word r.body.mem (zbIoBufSize - apsdeDataReqSize.toNat + 10) = commandId

/-- Which requests are made, and which of these are right. -/
structure Sends (made : Option Requested) (room clear : Prop) (tsn : UInt8) (message : List UInt8)
    (commandId dstAddr : UInt16) : Prop where
  made_iff : made.isSome = true ↔ room
  clean_iff : ∀ r, made = some r → (r.spoiled = false ↔ clear)
  right : ∀ r, made = some r → clear → r.Right tsn message commandId dstAddr

/-! ## Sending -/

section Send

variable {commandId dstAddr : UInt16} {param start dstAt : Nat} {tsn : UInt8} {req : Body}
  {s : Building UInt8} {message : List UInt8} {r : Requested}

/-- A message with room behind it is sent as it stands. -/
theorem sendRequest_some (starts : 1 ≤ req.begin_) (room : SendRoom req) :
    sendRequest commandId dstAt tsn req s =
      some ⟨sent commandId (word s.mem dstAt) (tsn + 1) { req with mem := s.mem },
        (s.read dstAt 2).spoiled⟩ := by
  have made := (@sendByShort_some commandId (word s.mem dstAt) (tsn + 1)
    { req with mem := s.mem } _ starts).2 ⟨room, rfl⟩
  rw [sendRequest, zdoSendReqByShort, read_mem, made]
  rfl

/-- **A message that ends before its parameters is right.** -/
theorem sendRequest_right (kept : Kept param req.mem req.begin_ message s)
    (clear : req.begin_ + message.length ≤ param) (length : req.len = message.length)
    (starts : 1 ≤ req.begin_) (room : SendRoom req)
    (there : cellsAt dstAt 2 req.mem = uint16Bytes dstAddr) (behind : param ≤ dstAt) :
    ∃ r, sendRequest commandId dstAt tsn req s = some r ∧ r.Right tsn message commandId dstAddr := by
  have whole := kept.whole clear
  have read : word s.mem dstAt = dstAddr := by
    apply word_of_bytes
    rw [whole, ← there]
    exact cellsAt_put_apart (.inr (by omega))
  have bytes : ({ req with mem := s.mem } : Body).bytes = message := by
    rw [Body.bytes, whole]
    exact cellsAt_put_self length.symm
  refine ⟨_, sendRequest_some starts room, ?_, ?_, ?_, ?_⟩
  · rw [whole, read_built (by omega)]
    rfl
  · exact (@sent_bytes _ _ _ { req with mem := s.mem } starts room).trans (congrArg _ bytes)
  · rw [read]
    exact (@sent_params _ _ _ { req with mem := s.mem } starts room).1
  · exact (@sent_params _ _ _ { req with mem := s.mem } starts room).2

theorem sends_of_right {asked : Prop} {made : Option Requested} (enough : asked)
    (sends : ∃ r, made = some r ∧ r.Right tsn message commandId dstAddr) :
    Sends made asked True tsn message commandId dstAddr := by
  obtain ⟨r, rfl, right⟩ := sends
  exact
    { made_iff := iff_of_true rfl enough
      clean_iff := fun r' made => by
        cases made
        exact iff_of_true right.clean trivial
      right := fun r' made _ => by
        cases made
        exact right }

/-- **A message in the middle of the buffer** is sent; it is right when it ends before its
parameters. -/
theorem sends_built {asked clear : Prop} {b : Body} {m : Nat → UInt8} {n : Nat}
    {build : Building UInt8 → Building UInt8}
    (kept : ∀ start, Kept param m start message (build ⟨m, start, start, false⟩))
    (length : message.length = n) (small : n ≤ 100) (before : (zbIoBufSize - n) / 2 ≤ param)
    (there : cellsAt param 2 m = uint16Bytes dstAddr) (enough : asked)
    (ends : (zbIoBufSize - n) / 2 + n ≤ param ↔ clear) :
    Sends ((zbBufInitialAlloc (UInt8.ofNat n) { b with mem := m }).bind fun req =>
      sendRequest commandId param tsn req (build (buildIn req))) asked clear tsn message commandId dstAddr := by
  have bufSize : zbIoBufSize = 148 := rfl
  have data : apsdeDataReqSize.toNat = 18 := rfl
  have number : (UInt8.ofNat n).toNat = n := by rw [UInt8.toNat_ofNat', Nat.mod_eq_of_lt (by omega)]
  rw [zbBufInitialAlloc, number, if_pos (by omega), Option.bind_some]
  have starts : 1 ≤ (zbIoBufSize - n) / 2 := by omega
  have room : SendRoom ⟨m, (zbIoBufSize - n) / 2, n⟩ := by
    show n + (zbIoBufSize - n) / 2 + apsdeDataReqSize.toNat ≤ zbIoBufSize
    omega
  have made := @sendRequest_some commandId param tsn ⟨m, (zbIoBufSize - n) / 2, n⟩
    (build ⟨m, (zbIoBufSize - n) / 2, (zbIoBufSize - n) / 2, false⟩) starts room
  constructor
  · exact iff_of_true (congrArg Option.isSome made) enough
  · intro r made'
    cases made.symm.trans made'
    refine ((kept _).read_param before Nat.two_pos).trans ?_
    rw [length]
    exact ends
  · intro r made' clear
    obtain ⟨r', made'', right⟩ := @sendRequest_right commandId _ _ _ tsn ⟨m, (zbIoBufSize - n) / 2, n⟩
      _ _ (kept _) (by rw [length]; exact ends.2 clear) length.symm starts room there (le_refl param)
    cases made'.symm.trans made''
    exact right

end Send

/-- Without room in the tail nothing is made. -/
theorem sends_none {room clear : Prop} {tsn : UInt8} {message : List UInt8}
    {commandId dstAddr : UInt16} (full : ¬ room) : Sends none room clear tsn message commandId dstAddr where
  made_iff := iff_of_false Bool.false_ne_true full
  clean_iff _ made := by cases made
  right _ made := by cases made

/-! ## Parameters in the buffer -/

section Buffer

variable {b : Body} {parts : List (List UInt8)} {size : Nat}

/-- **The parameters in the tail.** -/
theorem toTail_eq (there : Laid b.begin_ parts b.mem) (all : parts.flatten.length ≤ size)
    (small : size < 256) :
    toTail size b =
        (if b.len + b.begin_ + size ≤ zbIoBufSize then
          some (zbIoBufSize - size,
            { b with mem := copyCells (zbIoBufSize - size) b.begin_ size b.mem })
        else none) ∧
      Laid (zbIoBufSize - size) parts (copyCells (zbIoBufSize - size) b.begin_ size b.mem) := by
  have number : (UInt8.ofNat size).toNat = size := by
    rw [UInt8.toNat_ofNat', Nat.mod_eq_of_lt small]
  constructor
  · rw [toTail, zbGetBufTail, number]
    split <;> rfl
  · exact laid_copyCells all there

theorem countByte_toNat {clusters : List UInt16} (few : clusters.length < 256) :
    (countByte clusters).toNat = clusters.length := by
  rw [countByte, UInt8.toNat_ofNat', Nat.mod_eq_of_lt few]

theorem length_listBytes {clusters : List UInt16} :
    (listBytes clusters).length = 2 * clusters.length := length_flatMap_bytes

/-- One byte that stands somewhere. -/
theorem cellsAt_one {a : Nat} {val : UInt8} {m : Nat → UInt8} :
    cellsAt a 1 m = [val] ↔ m a = val := by
  simp [cellsAt]

end Buffer

/-! ## Match_Desc_req -/

section MatchDesc

variable (p : ZbZdoMatchDescParam)

theorem length_matchDesc_parts : p.parts.flatten.length = 6 + 2 * p.clusters := by
  simp only [ZbZdoMatchDescParam.parts, List.length_flatten, List.map_cons, List.map_nil,
    List.sum_cons, List.sum_nil, length_uint16Bytes, List.length_singleton, length_listBytes,
    ZbZdoMatchDescParam.clusters]
  omega

theorem length_matchDesc_wire : p.wire.flatten.length = 6 + 2 * p.clusters := by
  simp only [ZbZdoMatchDescParam.wire, List.length_flatten, List.map_cons, List.map_nil,
    List.sum_cons, List.sum_nil, length_uint16Bytes, List.length_singleton, length_listBytes,
    ZbZdoMatchDescParam.clusters]
  omega

theorem matchDesc_few : p.clusters ≤ 44 := by
  have fits := p.fits
  have longest : zbAsduMaxLen = 96 := rfl
  rw [ZbZdoMatchDescParam.clusters]
  omega

section Built

variable {p} {param start : Nat} {m : Nat → UInt8} (there : Laid param p.parts m)
include there

/-- The numbers of clusters, where they stand. -/
theorem matchDesc_counts : (m (param + 4)).toNat = p.inClusters.length ∧
    (m (param + 5)).toNat = p.outClusters.length := by
  have few := matchDesc_few p
  rw [ZbZdoMatchDescParam.clusters] at few
  obtain ⟨-, -, nin, nout, -⟩ := there
  rw [length_uint16Bytes, length_uint16Bytes] at nin nout
  have four : m (param + 4) = countByte p.inClusters := cellsAt_one.1 nin
  have five : m (param + 5) = countByte p.outClusters := cellsAt_one.1 nout
  rw [four, five]
  exact ⟨countByte_toNat (by omega), countByte_toNat (by omega)⟩

/-- **The message**, as far as it ends before its parameters. -/
theorem matchDescMessage_kept :
    Kept param m start p.wire.flatten (matchDescMessage param ⟨m, start, start, false⟩) := by
  obtain ⟨numIn, numOut⟩ := matchDesc_counts there
  have few := matchDesc_few p
  rw [ZbZdoMatchDescParam.clusters] at few
  obtain ⟨nwkAddr, profileId, nin, nout, ins, outs, -⟩ := there
  simp only [length_uint16Bytes, List.length_singleton, length_listBytes] at *
  have head := (((kept_start param m start).copy (le_refl param) nwkAddr).copy (by omega) profileId).copy
    (by omega) nin
  have first := head.copyWhile (by omega) ins (by omega) (numIn.trans (Nat.zero_add _).symm)
    (show _ < 256 by omega) fun _ => rfl
  have number := first.1.copy (by omega) nout
  have second := number.copyWhile (by omega) outs (by omega) (numOut.trans (Nat.zero_add _).symm)
    (show _ < 256 by omega) fun ends => first.2 (by
      rw [List.length_append] at ends
      omega)
  have all : p.wire.flatten = [] ++ uint16Bytes p.nwkAddr ++ uint16Bytes p.profileId ++
      [countByte p.inClusters] ++ listBytes p.inClusters ++ [countByte p.outClusters] ++
      listBytes p.outClusters := by
    simp [ZbZdoMatchDescParam.wire]
  rw [all]
  exact second.1

end Built

/-- **A `Match_Desc_req` is made**, and is right with 21 clusters at most. -/
theorem matchDescReq_sends {b : Body} (tsn : UInt8) (there : Laid b.begin_ p.parts b.mem) :
    Sends (zbZdoMatchDescReq tsn b) (b.len + b.begin_ + (8 + 2 * p.clusters) ≤ zbIoBufSize)
      (p.clusters ≤ 21) tsn p.wire.flatten zdoMatchDescReqClid p.nwkAddr := by
  have few := matchDesc_few p
  have parts := length_matchDesc_parts p
  have wire := length_matchDesc_wire p
  have bufSize : zbIoBufSize = 148 := rfl
  have data : apsdeDataReqSize.toNat = 18 := rfl
  obtain ⟨moved, tail⟩ := @toTail_eq b _ (8 + 2 * p.clusters) there (by omega) (by omega)
  obtain ⟨numIn, numOut⟩ := matchDesc_counts there
  obtain ⟨numIn', numOut'⟩ := matchDesc_counts tail
  rw [zbZdoMatchDescReq, Body.at_, Body.at_, numIn, numOut, ← ZbZdoMatchDescParam.clusters,
    matchDescParamSize, moved]
  by_cases room : b.len + b.begin_ + (8 + 2 * p.clusters) ≤ zbIoBufSize
  · rw [if_pos room]
    simp only [Option.bind_eq_bind, Option.bind_some]
    rw [numIn', numOut', ← ZbZdoMatchDescParam.clusters]
    exact sends_built (fun _ => matchDescMessage_kept tail) wire (by omega) (by omega) tail.1 room
      (by omega)
  · rw [if_neg room]
    exact sends_none room

end MatchDesc

/-! ## End_Device_Bind_req -/

section EndDeviceBind

variable (p : ZbEndDeviceBindReqParam)

theorem length_endDeviceBind_parts : p.parts.flatten.length = 17 + 2 * p.clusters := by
  simp only [ZbEndDeviceBindReqParam.parts, ZbEndDeviceBindReqParam.headParts, List.length_flatten,
    List.map_cons, List.map_nil, List.map_append, List.sum_append, List.sum_cons, List.sum_nil,
    length_uint16Bytes, List.length_singleton, length_listBytes, Vector.length_toList,
    ZbEndDeviceBindReqParam.clusters]
  omega

theorem length_endDeviceBind_wire : p.wire.flatten.length = 15 + 2 * p.clusters := by
  simp only [ZbEndDeviceBindReqParam.wire, ZbEndDeviceBindReqParam.headParts, List.length_flatten,
    List.map_cons, List.map_nil, List.map_append, List.sum_append, List.sum_cons, List.sum_nil,
    length_uint16Bytes, List.length_singleton, length_listBytes, Vector.length_toList,
    ZbEndDeviceBindReqParam.clusters]
  omega

theorem endDeviceBind_few : p.clusters ≤ 40 := by
  have fits := p.fits
  have longest : zbAsduMaxLen = 96 := rfl
  rw [ZbEndDeviceBindReqParam.clusters]
  omega

section Built

variable {p} {param start : Nat} {m : Nat → UInt8} (there : Laid param p.parts m)
include there

theorem endDeviceBind_counts : (m (param + 15)).toNat = p.inClusters.length ∧
    (m (param + 16)).toNat = p.outClusters.length := by
  have few := endDeviceBind_few p
  rw [ZbEndDeviceBindReqParam.clusters] at few
  obtain ⟨-, -, -, -, -, nin, nout, -⟩ := there
  simp only [length_uint16Bytes, List.length_singleton, Vector.length_toList] at nin nout
  have first : m (param + 15) = countByte p.inClusters := cellsAt_one.1 nin
  have second : m (param + 16) = countByte p.outClusters := cellsAt_one.1 nout
  rw [first, second]
  exact ⟨countByte_toNat (by omega), countByte_toNat (by omega)⟩

theorem copyEndDeviceBindReqHead_kept : Kept param m start p.headParts.flatten
    (copyEndDeviceBindReqHead (param + 2) ⟨m, start, start, false⟩) := by
  obtain ⟨-, target, ieee, endp, profile, nin, -⟩ := there
  simp only [length_uint16Bytes, List.length_singleton, Vector.length_toList]
    at target ieee endp profile nin
  have addrs := ((kept_start param m start).copy (Nat.le_add_right _ 2) target).copy (by omega) ieee
  have head := ((addrs.copy (by omega) endp).copy (by omega) profile).copy (by omega) nin
  have all : p.headParts.flatten = [] ++ uint16Bytes p.bindingTarget ++ p.srcIeeeAddr.toList ++
      [p.srcEndp] ++ uint16Bytes p.profileId ++ [countByte p.inClusters] := by
    simp [ZbEndDeviceBindReqParam.headParts]
  rw [all]
  exact head

/-- **The message**, as far as it ends before its parameters. -/
theorem endDeviceBindMessage_kept :
    Kept param m start p.wire.flatten (endDeviceBindMessage param ⟨m, start, start, false⟩) := by
  obtain ⟨numIn, numOut⟩ := endDeviceBind_counts there
  have head := @copyEndDeviceBindReqHead_kept p param start m there
  obtain ⟨-, -, -, -, -, -, nout, ins, outs, -⟩ := there
  simp only [length_uint16Bytes, List.length_singleton, length_listBytes, Vector.length_toList]
    at nout ins outs
  have all : p.wire.flatten = p.headParts.flatten ++ listBytes p.inClusters ++
      [countByte p.outClusters] ++ listBytes p.outClusters := by
    simp [ZbEndDeviceBindReqParam.wire]
  rw [all, endDeviceBindMessage]
  generalize copyEndDeviceBindReqHead (param + 2) ⟨m, start, start, false⟩ = s at head ⊢
  have counted : Kept param m start _ (s.read (param + 15) 1) := head.read (Nat.le_add_right _ 15)
  generalize s.read (param + 15) 1 = s at counted ⊢
  have first : Kept param m start _ (s.copyEach 2 (param + 17) (s.mem (param + 15)).toNat) :=
    counted.copyEach ins (by omega) fun fits => by
      rw [counted.mem_behind fits (by omega), numIn]
      exact ⟨rfl, rfl⟩
  generalize s.copyEach 2 (param + 17) (s.mem (param + 15)).toNat = s at first ⊢
  have number : Kept param m start _ ((s.copy (param + 16) 1).read (param + 15) 2) :=
    (first.copy (by omega) nout).read (Nat.le_add_right _ 15)
  generalize (s.copy (param + 16) 1).read (param + 15) 2 = s at number ⊢
  exact number.copyEach outs (by omega) fun fits => by
    rw [number.mem_behind fits (by omega), number.mem_behind fits (by omega), numIn, numOut]
    exact ⟨rfl, rfl⟩

end Built

/-- **An `End_Device_Bind_req` is made**, and is right with 16 clusters at most. -/
theorem endDeviceBindReq_sends {b : Body} (tsn : UInt8) (there : Laid b.begin_ p.parts b.mem) :
    Sends (zbEndDeviceBindReq tsn b) (b.len + b.begin_ + (19 + 2 * p.clusters) ≤ zbIoBufSize)
      (p.clusters ≤ 16) tsn p.wire.flatten zdoEndDeviceBindReqClid p.dstAddr := by
  have few := endDeviceBind_few p
  have parts := length_endDeviceBind_parts p
  have wire := length_endDeviceBind_wire p
  have bufSize : zbIoBufSize = 148 := rfl
  have data : apsdeDataReqSize.toNat = 18 := rfl
  obtain ⟨moved, tail⟩ := @toTail_eq b _ (19 + 2 * p.clusters) there (by omega) (by omega)
  obtain ⟨numIn, numOut⟩ := endDeviceBind_counts there
  obtain ⟨numIn', numOut'⟩ := endDeviceBind_counts tail
  rw [zbEndDeviceBindReq, Body.at_, Body.at_, numIn, numOut, ← ZbEndDeviceBindReqParam.clusters,
    endDeviceBindReqParamSize, moved]
  by_cases room : b.len + b.begin_ + (19 + 2 * p.clusters) ≤ zbIoBufSize
  · rw [if_pos room]
    simp only [Option.bind_eq_bind, Option.bind_some]
    rw [numIn', numOut', ← ZbEndDeviceBindReqParam.clusters]
    exact sends_built (fun _ => endDeviceBindMessage_kept tail) wire (by omega) (by omega) tail.1 room
      (by omega)
  · rw [if_neg room]
    exact sends_none room

end EndDeviceBind

/-! ## Bind_req and Unbind_req -/

section BindUnbind

variable (p : ZbZdoBindReqParam)

/-- The length of the message by its mode. -/
theorem length_bind_wire : p.wire.flatten.length =
    if p.dstAddrMode = zbApsAddrMode16GroupEndpNotPresent then 14 else 21 := by
  rw [ZbZdoBindReqParam.wire, ZbZdoBindReqParam.headParts]
  split <;>
  simp only [List.length_flatten, List.map_cons, List.map_nil, List.map_append, List.sum_append,
    List.sum_cons, List.sum_nil, length_uint16Bytes, List.length_singleton, List.length_take,
    Vector.length_toList] <;>
  rfl

variable {p} {b : Body} {param : Nat} {pads : Vector UInt8 3} {m : Nat → UInt8}

theorem bindReqHead_kept {start : Nat} (there : Laid param (p.parts pads) m) :
    Kept param m start p.headParts.flatten (bindReqHead param ⟨m, start, start, false⟩) := by
  obtain ⟨srcAddress, srcEndp, -, clusterId, mode, -⟩ := there
  simp only [length_uint16Bytes, List.length_singleton, Vector.length_toList]
    at srcAddress srcEndp clusterId mode
  have source := ((kept_start param m start).copy (le_refl _) srcAddress).copy (by omega) srcEndp
  have head := (source.copy (by omega) clusterId).copy (by omega) mode
  have all : p.headParts.flatten = [] ++ p.srcAddress.toList ++ [p.srcEndp] ++
      uint16Bytes p.clusterId ++ [p.dstAddrMode] := by
    simp [ZbZdoBindReqParam.headParts]
  rw [all]
  exact head.read (Nat.le_add_right _ 12)

/-- **A `Bind_req` is made and is right** when there is room for its parameters. -/
theorem bindUnbindReq_sends (bind : Bool) (tsn : UInt8)
    (there : Laid (zbIoBufSize - bindReqParamSize.toNat) (p.parts pads) b.mem) :
    Sends (zbZdoBindUnbindReq bind tsn b) (b.len + b.begin_ + bindReqParamSize.toNat ≤ zbIoBufSize)
      True tsn p.wire.flatten (if bind then zdoBindReqClid else zdoUnbindReqClid) p.reqDstAddr := by
  have bufSize : zbIoBufSize = 148 := rfl
  have size : bindReqParamSize.toNat = 26 := rfl
  have data : apsdeDataReqSize.toNat = 18 := rfl
  have wire := length_bind_wire p
  rw [zbZdoBindUnbindReq, zbGetBufTail]
  by_cases room : b.len + b.begin_ + bindReqParamSize.toNat ≤ zbIoBufSize
  · rw [if_pos room]
    generalize place : zbIoBufSize - bindReqParamSize.toNat = param at there ⊢
    have alloc : zbBufInitialAlloc 12 b = some { b with begin_ := 68, len := 12 } := rfl
    simp only [Option.bind_eq_bind, Option.bind_some, alloc]
    have head : Kept param b.mem 68 _ (bindReqHead param (buildIn { b with begin_ := 68, len := 12 })) :=
      bindReqHead_kept there
    generalize bindReqHead param (buildIn { b with begin_ := 68, len := 12 }) = s at head ⊢
    obtain ⟨-, -, -, -, mode, -, dstAddress, dstEndp, -, reqDstAddr, -⟩ := there
    simp only [length_uint16Bytes, List.length_singleton, Vector.length_toList]
      at mode dstAddress dstEndp reqDstAddr
    have headLength : p.headParts.flatten.length = 12 := by
      simp [ZbZdoBindReqParam.headParts]
    have asked : s.mem (param + 12) = p.dstAddrMode :=
      (head.mem_behind (by omega) (Nat.le_add_right _ 12)).trans (cellsAt_one.1 mode)
    rw [asked]
    have starts : 1 ≤ 68 := Nat.succ_le_of_lt (Nat.succ_pos 67)
    apply sends_of_right room
    rcases p.accepted with group | long
    · have short : cellsAt (param + 14) 2 b.mem = p.dstAddress.toList.take 2 := by
        rw [← dstAddress, show 8 = 2 + 6 from rfl, cellsAt_add, List.take_left' length_cellsAt]
      have grown : zbBufSmartAllocRight 2 ⟨b.mem, 68, 12⟩ = some (⟨b.mem, 68, 14⟩, 80) := rfl
      have tail := head.copy (Nat.le_add_right _ 14) short
      have all : p.wire.flatten = p.headParts.flatten ++ p.dstAddress.toList.take 2 := by
        simp [ZbZdoBindReqParam.wire, group]
      rw [if_pos group] at wire
      rw [all] at wire ⊢
      rw [if_pos group, grown, Option.bind_some]
      refine @sendRequest_right _ _ param _ _ ⟨b.mem, 68, 14⟩ _ _ tail ?_ wire.symm starts
        ?_ reqDstAddr (by omega)
      · rw [wire]
        show 68 + 14 ≤ param
        omega
      · show 14 + 68 + apsdeDataReqSize.toNat ≤ zbIoBufSize
        omega
    · have other : p.dstAddrMode ≠ zbApsAddrMode16GroupEndpNotPresent := by
        rw [long]
        decide
      have grown : zbBufSmartAllocRight 9 ⟨b.mem, 68, 12⟩ = some (⟨b.mem, 68, 21⟩, 80) := rfl
      have tail := (head.copy (Nat.le_add_right _ 14) dstAddress).copy (Nat.le_add_right _ 22) dstEndp
      have all : p.wire.flatten = p.headParts.flatten ++ p.dstAddress.toList ++ [p.dstEndp] := by
        simp [ZbZdoBindReqParam.wire, other]
      rw [if_neg other] at wire
      rw [all] at wire ⊢
      rw [if_neg other, if_pos long, grown, Option.bind_some]
      refine @sendRequest_right _ _ param _ _ ⟨b.mem, 68, 21⟩ _ _ tail ?_ wire.symm starts
        ?_ reqDstAddr (by omega)
      · rw [wire]
        show 68 + 21 ≤ param
        omega
      · show 21 + 68 + apsdeDataReqSize.toNat ≤ zbIoBufSize
        omega
  · rw [if_neg room]
    exact sends_none room

end BindUnbind

end Zboss.Zdo.RequestEncode
