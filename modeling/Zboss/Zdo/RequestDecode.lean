/-
# Zdo.RequestDecode -- what the handlers take out of a request

The handlers read a request where it stands.  That of `Match_Desc_req` copies the clusters, and that
of `Bind_req` all the fields, into the tail of the buffer; that of `End_Device_Bind_req` lays its
structures over the request.

* `readMatchDesc_result`: the clusters that are compared are those of `clusterId`;
* `matchDesc_decodes`, `endDeviceBind_decodes` and `binding_decodes`: what is taken out of a request
  that has been built out of parameters.

The handlers of the last two read nothing where the stack is built without them (`Switches`).

Pole: none of them looks at the length of the request.
-/
import Mathlib
import Zboss.Common.Constants
import Zboss.Theory.Access
import Zboss.Zdo.MatchDesc
import Zboss.Zdo.RequestEncode

namespace Zboss.Zdo.RequestDecode

open Zboss.Common.Constants
open Zboss.Common.Types (ZbIeeeAddr)
open Zboss.Common.PacketBuf (uint16Bytes uint16At)
open Zboss.Theory.ByteMemory
open Zboss.Theory.Access
open Zboss.Aps.Bind (ZbApsmeBindingReq)
open Zboss.Zdo.BodyMemory
open Zboss.Zdo.RequestEncode
open Zboss.Zdo.MatchDesc (clusterId tailClusters)

set_option autoImplicit false

/-- What a stack is built without. -/
structure Switches where
  /-- `ZB_DISABLE_BIND_REQ` -/
  disableBindReq : Bool
  /-- `ZB_DISABLE_ED_BIND_REQ` -/
  disableEdBindReq : Bool

/-- Those of `zb_config.h`: the second line of the two is commented out. -/
def zbConfig : Switches := ⟨true, false⟩

/-! ## Reading -/

def lookWord (a : Nat) (m : Nat → UInt8) : Traced Nat UInt16 := do
  let _ ← lookCells a 2 m
  return word m a

/-- `copy_cluster_id`, with the pointer it returns. -/
def moveClusterId (clusterDst clusterSrc : Nat) (num : UInt8) (m : Nat → UInt8) :
    Traced Nat ((Nat → UInt8) × Nat) := do
  let m ← moveItems 2 clusterDst clusterSrc num.toNat m
  return (m, clusterDst + 2 * num.toNat)

/-- What `zdo_match_desc_res` takes out of a request. -/
structure MatchDescFields where
  nwkAddr : UInt16
  profileId : UInt16
  inClusters : List UInt16
  outClusters : List UInt16

/-- The output clusters are read from behind the input clusters in the tail. -/
def readMatchDesc (b : Body) : Traced Nat MatchDescFields := do
  let _ ← look b.begin_ b.mem
  let nwkAddr ← lookWord (b.begin_ + 1) b.mem
  let profileId ← lookWord (b.begin_ + 3) b.mem
  let numIn ← look (b.begin_ + 5) b.mem
  let numOut ← look (b.begin_ + (6 + 2 * numIn.toNat)) b.mem
  let _ ← check (zbGetBufTail apsdeDataIndicationSize b)
  let tail ← check (zbGetBufTail (UInt8.ofNat (2 * (numIn.toNat + numOut.toNat))) b)
  let (m, apsBody) ← moveClusterId tail (b.begin_ + 6) numIn b.mem
  let (m, _) ← moveClusterId (tail + 2 * numIn.toNat) (apsBody + 1) numOut m
  return ⟨nwkAddr, profileId, wordsAt tail numIn.toNat m,
    wordsAt (tail + 2 * numIn.toNat) numOut.toNat m⟩

/-- What the handler of `End_Device_Bind_req` finds under its structures. -/
structure EndDeviceBindFields where
  bindingTarget : UInt16
  srcIeeeAddr : ZbIeeeAddr
  srcEndp : UInt8
  profileId : UInt16
  inClusters : List UInt16
  outClusters : List UInt16

/-- The places of the request. -/
def endDeviceBindFields (b : Body) : EndDeviceBindFields :=
  let numIn := (b.at_ 14).toNat
  { bindingTarget := word b.mem (b.begin_ + 1)
    srcIeeeAddr := ieeeAt (b.begin_ + 3) b.mem
    srcEndp := b.at_ 11
    profileId := word b.mem (b.begin_ + 12)
    inClusters := wordsAt (b.begin_ + 15) numIn b.mem
    outClusters := wordsAt (b.begin_ + (16 + 2 * numIn)) (b.at_ (15 + 2 * numIn)).toNat b.mem }

/-- `zb_zdo_end_device_bind_handler` takes the fields where it is built in. -/
def readEndDeviceBind (build : Switches) (b : Body) : Option EndDeviceBindFields :=
  if build.disableEdBindReq then none else some (endDeviceBindFields b)

/-- `sizeof(zb_apsme_binding_req_t)` -/
def apsmeBindingReqSize : UInt8 := 24

def bindingReqAt (tail : Nat) (m : Nat → UInt8) : ZbApsmeBindingReq where
  srcAddr := ieeeAt tail m
  srcEndpoint := m (tail + 8)
  clusterid := word m (tail + 10)
  addrMode := m (tail + 12)
  dstAddrLong := ieeeAt (tail + 14) m
  dstAddrShort := word m (tail + 14)
  dstEndpoint := m (tail + 22)

def moveHead (tail req : Nat) (m : Nat → UInt8) : Traced Nat (Nat → UInt8) := do
  let m ← moveCells tail req 8 m
  let m ← moveCells (tail + 8) (req + 8) 1 m
  let m ← moveCells (tail + 10) (req + 9) 2 m
  moveCells (tail + 12) (req + 11) 1 m

/-- The destination by its mode; of another mode nothing is copied. -/
def moveDst (tail aps : Nat) (m : Nat → UInt8) : Traced Nat (Nat → UInt8) :=
  if m (tail + 12) = zbApsAddrMode16GroupEndpNotPresent then moveCells (tail + 14) aps 2 m
  else if m (tail + 12) = zbApsAddrMode64EndpPresent then do
    let m ← moveCells (tail + 14) aps 8 m
    moveCells (tail + 22) (aps + 8) 1 m
  else pure m

/-- The parameters of the binding, behind the indication. -/
def readBindingReq (b : Body) : Traced Nat ZbApsmeBindingReq := do
  let _ ← check (zbGetBufTail apsdeDataIndicationSize b)
  let _ ← look b.begin_ b.mem
  let tail ← check (zbGetBufTail apsmeBindingReqSize b)
  let m ← moveHead tail (b.begin_ + 1) b.mem
  let m ← moveDst tail (b.begin_ + 13) m
  return bindingReqAt tail m

/-- What `zb_zdo_bind_unbind_res` asks for, where it is built in; the transaction number is read
anyway. -/
def readBinding (build : Switches) (b : Body) : Traced Nat (Option ZbApsmeBindingReq) :=
  if build.disableBindReq then do
    let _ ← check (zbGetBufTail apsdeDataIndicationSize b)
    let _ ← look b.begin_ b.mem
    return none
  else do
    let req ← readBindingReq b
    return some req

/-! ## Requests that have been built -/

/-- A message in the buffer that it has come into. -/
def received (at_ : Nat) (stale : Nat → UInt8) (bytes : List UInt8) : Body where
  mem := put at_ bytes stale
  begin_ := at_
  len := bytes.length

theorem received_laid {at_ : Nat} {stale : Nat → UInt8} {tsn : UInt8} {wire : List (List UInt8)} :
    Laid at_ ([tsn] :: wire) (received at_ stale (tsn :: wire.flatten)).mem := by
  rw [laid_iff]
  exact cellsAt_put_self rfl

@[simp] theorem lookWord_result {a : Nat} {m : Nat → UInt8} :
    (lookWord a m).result = some (word m a) := rfl

@[simp] theorem moveClusterId_result {dst src : Nat} {num : UInt8} {m : Nat → UInt8} :
    (moveClusterId dst src num m).result = some (copyClusterId dst src num.toNat m) := rfl

/-- A binding is read where it is built in. -/
theorem readBinding_some {build : Switches} {b : Body} {req : ZbApsmeBindingReq} :
    (readBinding build b).result = some (some req) ↔
      build.disableBindReq = false ∧ (readBindingReq b).result = some req := by
  rw [readBinding]
  cases build.disableBindReq with
  | true =>
      rw [if_pos rfl]
      refine iff_of_false (fun made => ?_) fun not => by cases not.1
      simp only [result_bind, result_check, result_look, result_pure, Option.bind_some,
        Option.bind_eq_some_iff, Option.some.injEq, reduceCtorEq, and_false, exists_false] at made
  | false =>
      rw [if_neg Bool.false_ne_true, and_iff_right rfl]
      simp only [result_bind, result_pure, Option.bind_eq_some_iff, Option.some.injEq,
        exists_eq_right]

/-- The clusters of `Match_Desc_req` are those that are compared. -/
theorem readMatchDesc_result (b : Body) : (readMatchDesc b).result =
    (zbGetBufTail apsdeDataIndicationSize b).bind fun _ => (clusterId b).map fun clusters =>
      ⟨MatchDesc.nwkAddr b, MatchDesc.profileId b, clusters.1, clusters.2⟩ := by
  rw [readMatchDesc]
  simp only [result_bind, result_look, lookWord_result, result_check, moveClusterId_result,
    result_pure, Option.bind_some]
  refine Option.bind_congr fun _ _ => ?_
  rw [clusterId, Option.bind_eq_bind, Option.map_bind]
  rfl

/-- A list is read by its number. -/
theorem wordsAt_of_list {a num : Nat} {m : Nat → UInt8} {clusters : List UInt16}
    (bytes : cellsAt a (2 * clusters.length) m = listBytes clusters) (number : num = clusters.length) :
    wordsAt a num m = clusters := by
  rw [number]
  exact wordsAt_of_bytes bytes

section Decode

variable {b : Body} {tsn : UInt8}

/-- **A `Match_Desc_req`** is taken as it is, but for its output clusters: in their place is what has
stood in the tail. -/
theorem matchDesc_decodes (p : ZbZdoMatchDescParam) (there : Laid b.begin_ ([tsn] :: p.wire) b.mem)
    (len : b.len = 7 + 2 * p.clusters) :
    (readMatchDesc b).result =
      if b.len + b.begin_ + apsdeDataIndicationSize.toNat ≤ zbIoBufSize ∧
          b.len + b.begin_ + 2 * p.clusters ≤ zbIoBufSize then
        some ⟨p.nwkAddr, p.profileId, p.inClusters,
          wordsAt (zbIoBufSize - 2 * p.outClusters.length + 1) p.outClusters.length b.mem⟩
      else none := by
  have few := matchDesc_few p
  have clusters : p.clusters = p.inClusters.length + p.outClusters.length := rfl
  obtain ⟨-, nwkAddr, profileId, nin, ins, nout, -⟩ := there
  simp only [length_uint16Bytes, List.length_singleton, length_listBytes] at *
  have numIn : MatchDesc.numIn b = p.inClusters.length := by
    have byte : b.at_ 5 = countByte p.inClusters := cellsAt_one.1 nin
    rw [MatchDesc.numIn, byte, countByte_toNat (by omega)]
  have numOut : MatchDesc.numOut b = p.outClusters.length := by
    have byte : b.at_ (6 + 2 * p.inClusters.length) = countByte p.outClusters := by
      rw [← cellsAt_one.1 nout, Body.at_]
      congr 1
      omega
    rw [MatchDesc.numOut, numIn, byte, countByte_toNat (by omega)]
  rw [readMatchDesc_result, zbGetBufTail]
  by_cases indication : b.len + b.begin_ + apsdeDataIndicationSize.toNat ≤ zbIoBufSize
  · have whole : 7 + 2 * MatchDesc.numIn b + 2 * MatchDesc.numOut b ≤ b.len := by
      rw [numIn, numOut]
      omega
    have heard : clusterId b =
        if b.len + b.begin_ + 2 * (MatchDesc.numIn b + MatchDesc.numOut b) ≤ zbIoBufSize then
          some (MatchDesc.inClusters b, tailClusters b)
        else none := MatchDesc.heard_spec ⟨b, whole, by omega⟩
    rw [if_pos indication, Option.bind_some, heard, numIn, numOut, ← clusters]
    have words : MatchDesc.nwkAddr b = p.nwkAddr ∧ MatchDesc.profileId b = p.profileId :=
      ⟨word_of_bytes nwkAddr, word_of_bytes profileId⟩
    have list : MatchDesc.inClusters b = p.inClusters := wordsAt_of_list ins numIn
    by_cases room : b.len + b.begin_ + 2 * p.clusters ≤ zbIoBufSize
    · rw [if_pos room, if_pos ⟨indication, room⟩, Option.map_some, words.1, words.2, list,
        tailClusters, numOut]
    · rw [if_neg room, if_neg fun both => room both.2]
      rfl
  · rw [if_neg indication, if_neg fun both => indication both.1]
    rfl

/-- **An `End_Device_Bind_req`** is found as it is. -/
theorem endDeviceBind_decodes (p : ZbEndDeviceBindReqParam)
    (there : Laid b.begin_ ([tsn] :: p.wire) b.mem) :
    endDeviceBindFields b =
      ⟨p.bindingTarget, p.srcIeeeAddr, p.srcEndp, p.profileId, p.inClusters, p.outClusters⟩ := by
  have few := endDeviceBind_few p
  have clusters : p.clusters = p.inClusters.length + p.outClusters.length := rfl
  obtain ⟨-, target, ieee, endp, profile, nin, ins, nout, outs, -⟩ := there
  simp only [length_uint16Bytes, List.length_singleton, length_listBytes, Vector.length_toList] at *
  have numIn : (b.at_ 14).toNat = p.inClusters.length := by
    have byte : b.at_ 14 = countByte p.inClusters := cellsAt_one.1 nin
    rw [byte, countByte_toNat (by omega)]
  have numOut : (b.at_ (15 + 2 * p.inClusters.length)).toNat = p.outClusters.length := by
    have byte : b.at_ (15 + 2 * p.inClusters.length) = countByte p.outClusters := by
      rw [← cellsAt_one.1 nout, Body.at_]
      congr 1
      omega
    rw [byte, countByte_toNat (by omega)]
  have endpoint : b.at_ 11 = p.srcEndp := cellsAt_one.1 endp
  have outList : wordsAt (b.begin_ + (16 + 2 * p.inClusters.length)) p.outClusters.length b.mem =
      p.outClusters := by
    apply wordsAt_of_list _ rfl
    rw [← outs]
    congr 1
    omega
  rw [endDeviceBindFields]
  simp only [numIn, numOut, endpoint, outList]
  rw [word_of_bytes target, ieeeAt_of_bytes ieee, word_of_bytes profile, wordsAt_of_list ins rfl]

end Decode

/-! ## Binding -/

/-- The binding that is asked for is that of the parameters. -/
structure BindAgrees (p : ZbZdoBindReqParam) (req : ZbApsmeBindingReq) : Prop where
  srcAddr : req.srcAddr = p.srcAddress
  srcEndpoint : req.srcEndpoint = p.srcEndp
  clusterid : req.clusterid = p.clusterId
  addrMode : req.addrMode = p.dstAddrMode
  group : p.dstAddrMode = zbApsAddrMode16GroupEndpNotPresent →
    req.dstAddrShort = uint16At 0 p.dstAddress.toList
  long : p.dstAddrMode = zbApsAddrMode64EndpPresent →
    req.dstAddrLong = p.dstAddress ∧ req.dstEndpoint = p.dstEndp

section Moves

variable {tail req aps : Nat} {m : Nat → UInt8}

/-- What stands in the tail, when the request stands before it. -/
theorem moveHead_result (apart : req + 12 ≤ tail) : ∃ m', (moveHead tail req m).result = some m' ∧
    cellsAt tail 8 m' = cellsAt req 8 m ∧ cellsAt (tail + 8) 1 m' = cellsAt (req + 8) 1 m ∧
    cellsAt (tail + 10) 2 m' = cellsAt (req + 9) 2 m ∧
    cellsAt (tail + 12) 1 m' = cellsAt (req + 11) 1 m ∧
    ∀ k n, k + n ≤ tail → cellsAt k n m' = cellsAt k n m := by
  refine ⟨copyCells (tail + 12) (req + 11) 1 (copyCells (tail + 10) (req + 9) 2
    (copyCells (tail + 8) (req + 8) 1 (copyCells tail req 8 m))), rfl, ?_, ?_, ?_, ?_,
    fun k n before => ?_⟩
  · rw [copyCells_apart (by omega), copyCells_apart (by omega), copyCells_apart (by omega),
      copyCells_self]
  · rw [copyCells_apart (by omega), copyCells_apart (by omega), copyCells_self,
      copyCells_apart (by omega)]
  · rw [copyCells_apart (by omega), copyCells_self, copyCells_apart (by omega),
      copyCells_apart (by omega)]
  · rw [copyCells_self, copyCells_apart (by omega), copyCells_apart (by omega),
      copyCells_apart (by omega)]
  · rw [copyCells_apart (by omega), copyCells_apart (by omega), copyCells_apart (by omega),
      copyCells_apart (by omega)]

/-- A group is two bytes, -/
theorem moveDst_group (mode : m (tail + 12) = zbApsAddrMode16GroupEndpNotPresent) :
    (moveDst tail aps m).result = some (copyCells (tail + 14) aps 2 m) := by
  rw [moveDst, if_pos mode, result_moveCells]

/-- and a device its address and an endpoint. -/
theorem moveDst_long (mode : m (tail + 12) = zbApsAddrMode64EndpPresent) :
    (moveDst tail aps m).result =
      some (copyCells (tail + 22) (aps + 8) 1 (copyCells (tail + 14) aps 8 m)) := by
  have other : m (tail + 12) ≠ zbApsAddrMode16GroupEndpNotPresent := by
    rw [mode]
    decide
  rw [moveDst, if_neg other, if_pos mode]
  rfl

end Moves

/-- The two bytes of a group are read as a number. -/
theorem word_of_take {a : Nat} {m : Nat → UInt8} {bytes : List UInt8}
    (two : cellsAt a 2 m = bytes.take 2) : word m a = uint16At 0 bytes := by
  have byte (i : Nat) (less : i < 2) : m (a + i) = bytes.getD i 0 := by
    rw [← @getD_cellsAt _ a 2 m i less 0, two, List.getD_eq_getElem?_getD, List.getElem?_take_of_lt less,
      ← List.getD_eq_getElem?_getD]
  rw [word, uint16At, byte 1 (by omega), ← byte 0 (by omega)]
  rfl

theorem bindAgrees_of_cells {p : ZbZdoBindReqParam} {tail : Nat} {m : Nat → UInt8}
    (srcAddr : cellsAt tail 8 m = p.srcAddress.toList) (srcEndp : cellsAt (tail + 8) 1 m = [p.srcEndp])
    (cluster : cellsAt (tail + 10) 2 m = uint16Bytes p.clusterId)
    (mode : cellsAt (tail + 12) 1 m = [p.dstAddrMode])
    (group : p.dstAddrMode = zbApsAddrMode16GroupEndpNotPresent →
      cellsAt (tail + 14) 2 m = p.dstAddress.toList.take 2)
    (long : p.dstAddrMode = zbApsAddrMode64EndpPresent →
      cellsAt (tail + 14) 8 m = p.dstAddress.toList ∧ cellsAt (tail + 22) 1 m = [p.dstEndp]) :
    BindAgrees p (bindingReqAt tail m) where
  srcAddr := ieeeAt_of_bytes srcAddr
  srcEndpoint := cellsAt_one.1 srcEndp
  clusterid := word_of_bytes cluster
  addrMode := cellsAt_one.1 mode
  group is := word_of_take (group is)
  long is := ⟨ieeeAt_of_bytes (long is).1, cellsAt_one.1 (long is).2⟩

/-- **A `Bind_req`** is taken as it is, when there is room in the tail. -/
theorem binding_decodes {b : Body} {tsn : UInt8} (p : ZbZdoBindReqParam)
    (there : Laid b.begin_ ([tsn] :: p.wire) b.mem) (len : b.len = 1 + p.wire.flatten.length) :
    (∃ req, (readBindingReq b).result = some req ∧ BindAgrees p req) ↔
      b.len + b.begin_ + apsmeBindingReqSize.toNat ≤ zbIoBufSize := by
  have bufSize : zbIoBufSize = 148 := rfl
  have size : apsmeBindingReqSize.toNat = 24 := rfl
  have indication : apsdeDataIndicationSize.toNat = 14 := rfl
  have length := length_bind_wire p
  by_cases room : b.len + b.begin_ + apsmeBindingReqSize.toNat ≤ zbIoBufSize
  · refine iff_of_true ?_ room
    have reads : (readBindingReq b).result =
        (moveHead (zbIoBufSize - apsmeBindingReqSize.toNat) (b.begin_ + 1) b.mem).result.bind
          fun m => (moveDst (zbIoBufSize - apsmeBindingReqSize.toNat) (b.begin_ + 13) m).result.map
            (bindingReqAt (zbIoBufSize - apsmeBindingReqSize.toNat)) := by
      rw [readBindingReq, zbGetBufTail, zbGetBufTail, if_pos (by omega), if_pos room]
      simp only [result_bind, result_check, result_look, Option.bind_some, result_pure,
        Option.map_eq_bind, Function.comp_def]
    generalize place : zbIoBufSize - apsmeBindingReqSize.toNat = tail at reads
    obtain ⟨-, srcAddr, srcEndp, cluster, mode, dst⟩ := there
    simp only [length_uint16Bytes, List.length_singleton, Vector.length_toList] at *
    have wire : 14 ≤ p.wire.flatten.length := by
      rw [length]
      split <;> omega
    obtain ⟨m, moved, addr', endp', cluster', mode', before⟩ :=
      @moveHead_result tail (b.begin_ + 1) b.mem (by omega)
    have asked : m (tail + 12) = p.dstAddrMode := cellsAt_one.1 (mode'.trans mode)
    rw [reads, moved, Option.bind_some]
    rcases p.accepted with group | long
    · rw [if_pos group] at dst
      obtain ⟨dst, -⟩ := dst
      rw [List.length_take, Vector.length_toList] at dst
      rw [moveDst_group (asked.trans group)]
      refine ⟨_, rfl, bindAgrees_of_cells ?_ ?_ ?_ ?_ (fun _ => ?_) fun is => ?_⟩
      · rw [copyCells_apart (by omega), addr', srcAddr]
      · rw [copyCells_apart (by omega), endp', srcEndp]
      · rw [copyCells_apart (by omega), cluster', cluster]
      · rw [copyCells_apart (by omega), mode', mode]
      · rw [copyCells_self, before _ _ (by omega)]
        exact dst
      · rw [group] at is
        exact absurd is (by decide)
    · have other : p.dstAddrMode ≠ zbApsAddrMode16GroupEndpNotPresent := by
        rw [long]
        decide
      rw [if_neg other] at dst length
      obtain ⟨dst, endp, -⟩ := dst
      rw [Vector.length_toList] at dst endp
      rw [moveDst_long (asked.trans long)]
      refine ⟨_, rfl, bindAgrees_of_cells ?_ ?_ ?_ ?_ (fun is => absurd is other) fun _ => ⟨?_, ?_⟩⟩
      · rw [copyCells_apart (by omega), copyCells_apart (by omega), addr', srcAddr]
      · rw [copyCells_apart (by omega), copyCells_apart (by omega), endp', srcEndp]
      · rw [copyCells_apart (by omega), copyCells_apart (by omega), cluster', cluster]
      · rw [copyCells_apart (by omega), copyCells_apart (by omega), mode', mode]
      · rw [copyCells_apart (by omega), copyCells_self, before _ _ (by omega)]
        exact dst
      · rw [copyCells_self, copyCells_apart (by omega), before _ _ (by omega)]
        exact endp
  · refine iff_of_false ?_ room
    rintro ⟨req, made, -⟩
    rw [readBindingReq, zbGetBufTail, zbGetBufTail, if_neg room] at made
    simp at made

end Zboss.Zdo.RequestDecode
