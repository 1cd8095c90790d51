/-
# Zdo.SimpleDescResp -- a simple descriptor on the wire

In memory the number of output clusters stands before the list of clusters, on the wire between the
input and the output clusters.  `zb_copy_simple_desc` copies what stands before the list, then the
input clusters one byte to the left, over the number, and last the number to its new place.

* `zbCopySimpleDesc_eq`: the copy is right for all numbers of clusters, none included;
* `parse_wire`: the bytes of a descriptor are parsed to its fields;
* `simple_desc_iff`: which descriptors are sent.

Pole: the response begins in the middle of the buffer, and the parameters of the data request need
the end of it; with more than 23 clusters there is no room for both.
-/
import Mathlib
import Zboss.Common.Constants
import Zboss.Zdo.SendByShort

namespace Zboss.Zdo.SimpleDescResp

open Zboss.Common.Constants
open Zboss.Theory.ByteMemory
open Zboss.Common.PacketBuf (uint16Bytes uint16At uint16At_bytes)
open Zboss.Zdo.BodyMemory
open Zboss.Zdo.SendByShort

set_option autoImplicit false

/-! ## Descriptors -/

/-- `zb_af_simple_desc_1_1_t` with as many clusters as it counts, the input clusters first. -/
structure ZbAfSimpleDesc where
  endpoint : UInt8
  appProfileId : UInt16
  appDeviceId : UInt16
  appDeviceVersion : Fin 16
  reserved : Fin 16
  appInputClusterCount : UInt8
  appOutputClusterCount : UInt8
  appClusterList : List UInt16
  whole : appClusterList.length = appInputClusterCount.toNat + appOutputClusterCount.toNat

/-- `ZB_ASDU_MAX_LEN` -/
def zbAsduMaxLen : Nat := 127 - (0xB + 0x8) - 0x0C

/-- `sizeof(zb_af_simple_desc_1_1_t)`, two clusters included. -/
def afSimpleDescSize : Nat := 12

/-- `sizeof(zb_zdo_simple_desc_resp_hdr_t)` -/
def simpleDescRespHdrSize : UInt8 := 4

section Fields

variable (d : ZbAfSimpleDesc)

def clusters : Nat := d.appInputClusterCount.toNat + d.appOutputClusterCount.toNat

def versionByte : UInt8 := UInt8.ofNat (d.appDeviceVersion.val + 16 * d.reserved.val)

/-- What stands before the numbers of clusters. -/
def headBytes : List UInt8 :=
  d.endpoint :: (uint16Bytes d.appProfileId ++ uint16Bytes d.appDeviceId ++ [versionByte d])

def inputs : List UInt16 := d.appClusterList.take d.appInputClusterCount.toNat

def outputs : List UInt16 := d.appClusterList.drop d.appInputClusterCount.toNat

/-- A cluster in the order of the wire. -/
def clusterBytes (i : Nat) : List UInt8 := uint16Bytes (d.appClusterList.getD i 0)

/-- The input clusters go to one byte before their place in a descriptor. -/
def zbCopySimpleDesc (dstDesc : Nat) (m : Nat → UInt8) : Nat → UInt8 :=
  let list := dstDesc + 8
  let nin := d.appInputClusterCount.toNat
  let m := put dstDesc (headBytes d ++ [d.appInputClusterCount, d.appOutputClusterCount]) m
  let m := (List.range nin).foldl (fun m i => put (list + 2 * i - 1) (clusterBytes d i) m) m
  let m := (List.range' nin d.appOutputClusterCount.toNat).foldl
    (fun m i => put (list + 2 * i) (clusterBytes d i) m) m
  put (list + 2 * nin - 1) [d.appOutputClusterCount] m

end Fields

/-! ## The handler -/

structure DescContext where
  networkAddress : UInt16
  zdoSimpleDesc : ZbAfSimpleDesc
  simpleDescList : List ZbAfSimpleDesc
  coordinatorRole : Bool

/-- The descriptor of an endpoint: of several in the list it is the last one. -/
def srcDesc (c : DescContext) (ep : UInt8) : Option ZbAfSimpleDesc :=
  if ep = 0 then some c.zdoSimpleDesc
  else (c.simpleDescList.filter fun desc => desc.endpoint == ep).getLast?

def descLength (d : ZbAfSimpleDesc) : UInt8 :=
  UInt8.ofNat (afSimpleDescSize + clusters d * 2 - 2 * 2)

/-- The descriptor behind the header of the response. -/
def putDesc (d : ZbAfSimpleDesc) (resp : Body) : Option Body := do
  let resp := resp.write resp.begin_ [zbZdpStatusSuccess]
  let resp := resp.write (resp.begin_ + 3) [descLength d]
  let (resp, descBody) ← zbBufSmartAllocRight (descLength d) resp
  return { resp with mem := zbCopySimpleDesc d descBody resp.mem }

/-- The response; `none` where an assertion on the room in the buffer fails.  The address that it is
sent to is read from the tail of the request at last. -/
def zdoSendSimpleDescResp (c : DescContext) (b : Body) : Option Body := do
  let tsn := b.at_ 0
  let addrOfInterest := word b.mem (b.begin_ + 1)
  let ep := b.at_ 3
  let ind ← zbGetBufTail apsdeDataIndicationSize b
  let resp ← zbBufInitialAlloc simpleDescRespHdrSize b
  let resp := resp.write (resp.begin_ + 3) [0]
  let resp ←
    if c.networkAddress = addrOfInterest then
      match srcDesc c ep with
      | some d => putDesc d resp
      | none => some (resp.write resp.begin_ [zbZdpStatusInvalidEp])
    else if c.coordinatorRole then some (resp.write resp.begin_ [zbZdpStatusDeviceNotFound])
    else some (resp.write resp.begin_ [zbZdpStatusInvRequesttype])
  let resp := resp.write (resp.begin_ + 1) (uint16Bytes addrOfInterest)
  zdoSendRespByShort zdoSimpleDescRespClid tsn (word resp.mem (ind + 1)) resp

/-! ## What a response should be -/

/-- So many numbers from the front. -/
def takeWords : Nat → List UInt8 → Option (List UInt16 × List UInt8)
  | 0, bytes => some ([], bytes)
  | num + 1, low :: high :: bytes =>
      (takeWords num bytes).map fun rest => (uint16At 0 [low, high] :: rest.1, rest.2)
  | _ + 1, _ => none

/-- The fields of a descriptor that has been received. -/
structure DescFields where
  endpoint : UInt8
  appProfileId : UInt16
  appDeviceId : UInt16
  appDeviceVersion : Fin 16
  reserved : Fin 16
  inputs : List UInt16
  outputs : List UInt16

/-- The order of the wire: endpoint, profile, device, version, the number of the input clusters,
these, the number of the output clusters, and these. -/
def parseSimpleDesc : List UInt8 → Option DescFields
  | endpoint :: p₀ :: p₁ :: d₀ :: d₁ :: version :: inputCount :: bytes => do
      let (inputs, bytes) ← takeWords inputCount.toNat bytes
      match bytes with
      | outputCount :: bytes => do
          let (outputs, bytes) ← takeWords outputCount.toNat bytes
          if bytes = [] then
            some
              { endpoint
                appProfileId := uint16At 0 [p₀, p₁]
                appDeviceId := uint16At 0 [d₀, d₁]
                appDeviceVersion := ⟨version.toNat % 16, Nat.mod_lt _ (Nat.succ_pos 15)⟩
                reserved := ⟨version.toNat / 16 % 16, Nat.mod_lt _ (Nat.succ_pos 15)⟩
                inputs
                outputs }
          else none
      | [] => none
  | _ => none

def ZbAfSimpleDesc.fields (d : ZbAfSimpleDesc) : DescFields where
  endpoint := d.endpoint
  appProfileId := d.appProfileId
  appDeviceId := d.appDeviceId
  appDeviceVersion := d.appDeviceVersion
  reserved := d.reserved
  inputs := inputs d
  outputs := outputs d

/-- The descriptor is what stands behind the number of the response, its header and its length; it
is what has been asked for; and beside the response nothing is written but the parameters it is
sent with. -/
structure RespRight (d : ZbAfSimpleDesc) (b resp : Body) : Prop where
  tsn : resp.at_ 0 = b.at_ 0
  status : resp.at_ 1 = zbZdpStatusSuccess
  nwkAddr : word resp.mem (resp.begin_ + 2) = word b.mem (b.begin_ + 1)
  length : (resp.at_ 4).toNat = (resp.bytes.drop 5).length
  parsed : parseSimpleDesc (resp.bytes.drop 5) = some d.fields
  apart : ∀ a, a < resp.begin_ ∨ resp.begin_ + resp.len ≤ a →
    a < zbIoBufSize - apsdeDataReqSize.toNat ∨ zbIoBufSize ≤ a → resp.mem a = b.mem a

/-- A request with the indication that it has come with behind it. -/
structure DescRequest extends Body where
  whole : 4 ≤ len
  received : len + begin_ + apsdeDataIndicationSize.toNat ≤ zbIoBufSize

/-! ## The copy -/

section Copy

variable (d : ZbAfSimpleDesc)

/-- The bytes of a descriptor in the order of the wire. -/
def wireBytes : List UInt8 :=
  headBytes d ++ ((d.appInputClusterCount :: (inputs d).flatMap uint16Bytes) ++
    (d.appOutputClusterCount :: (outputs d).flatMap uint16Bytes))

theorem length_inputs : (inputs d).length = d.appInputClusterCount.toNat := by
  rw [inputs, List.length_take, d.whole]
  omega

theorem length_outputs : (outputs d).length = d.appOutputClusterCount.toNat := by
  rw [outputs, List.length_drop, d.whole]
  omega

theorem length_headBytes : (headBytes d).length = 6 := rfl

theorem length_wireBytes : (wireBytes d).length = 8 + 2 * clusters d := by
  rw [wireBytes, List.length_append, List.length_append, List.length_cons, List.length_cons,
    length_flatMap_bytes, length_flatMap_bytes, length_inputs, length_outputs, length_headBytes,
    clusters]
  omega

theorem map_getD_range {list : List UInt16} {first num : Nat} (inside : first + num ≤ list.length) :
    (List.range num).map (fun i => list.getD (first + i) 0) = (list.drop first).take num := by
  apply List.ext_getElem
  · rw [List.length_map, List.length_range, List.length_take, List.length_drop]
    omega
  · intro i less _
    rw [List.length_map, List.length_range] at less
    rw [List.getElem_map, List.getElem_range, List.getElem_take, List.getElem_drop]
    exact List.getD_eq_getElem _ _ (by omega)

/-- The clusters that a loop copies. -/
theorem clusterBytes_range {first num : Nat} (inside : first + num ≤ d.appClusterList.length) :
    (List.range num).flatMap (fun i => clusterBytes d (first + i)) =
      ((d.appClusterList.drop first).take num).flatMap uint16Bytes := by
  rw [← map_getD_range inside, List.flatMap_map]
  rfl

/-- **The copy** writes the bytes of the wire: the number of the output clusters that it has copied
first is covered by an input cluster, or written once more. -/
theorem zbCopySimpleDesc_eq (dstDesc : Nat) (m : Nat → UInt8) :
    zbCopySimpleDesc d dstDesc m = put dstDesc (wireBytes d) m := by
  have ins (m : Nat → UInt8) :
      (List.range d.appInputClusterCount.toNat).foldl
          (fun m i => put (dstDesc + 8 + 2 * i - 1) (clusterBytes d i) m) m =
        put (dstDesc + 7) ((inputs d).flatMap uint16Bytes) m := by
    have copied := @clusterBytes_range d 0 d.appInputClusterCount.toNat (by rw [d.whole]; omega)
    rw [List.drop_zero] at copied
    rw [inputs, ← copied, ← @foldl_put _ _ _ 2 _ _ fun _ => rfl]
    refine List.foldl_ext _ _ _ fun m i _ => ?_
    rw [show dstDesc + 8 + 2 * i - 1 = dstDesc + 7 + 2 * i by omega, Nat.zero_add]
  have outs (m : Nat → UInt8) :
      (List.range' d.appInputClusterCount.toNat d.appOutputClusterCount.toNat).foldl
          (fun m i => put (dstDesc + 8 + 2 * i) (clusterBytes d i) m) m =
        put (dstDesc + 8 + 2 * d.appInputClusterCount.toNat) ((outputs d).flatMap uint16Bytes) m := by
    have copied := @clusterBytes_range d d.appInputClusterCount.toNat
      d.appOutputClusterCount.toNat d.whole.ge
    rw [← outputs, List.take_of_length_le (length_outputs d).le] at copied
    rw [← copied, ← @foldl_put _ _ _ 2 _ _ fun _ => rfl, List.range'_eq_map_range,
      List.foldl_map]
    refine List.foldl_ext _ _ _ fun m i _ => ?_
    rw [Nat.mul_add, Nat.add_assoc _ _ (2 * i)]
  have inLength : ((inputs d).flatMap uint16Bytes).length = 2 * d.appInputClusterCount.toNat := by
    rw [length_flatMap_bytes, length_inputs]
  have head : (headBytes d ++ [d.appInputClusterCount]).length = 7 := rfl
  have split : headBytes d ++ [d.appInputClusterCount, d.appOutputClusterCount] =
      headBytes d ++ [d.appInputClusterCount] ++ [d.appOutputClusterCount] := by
    rw [List.append_assoc, List.singleton_append]
  have moved : dstDesc + 8 + 2 * d.appInputClusterCount.toNat - 1 =
      dstDesc + 7 + 2 * d.appInputClusterCount.toNat := by omega
  have behind : dstDesc + 8 + 2 * d.appInputClusterCount.toNat =
      dstDesc + 7 + ((inputs d).flatMap uint16Bytes ++ [d.appOutputClusterCount]).length := by
    rw [List.length_append, inLength, List.length_singleton]
    omega
  rw [zbCopySimpleDesc, ins, outs, moved, put_comm (by rw [List.length_singleton]; omega), split,
    put_append, head]
  calc _ = put (dstDesc + 8 + 2 * d.appInputClusterCount.toNat) ((outputs d).flatMap uint16Bytes)
          (put (dstDesc + 7) ((inputs d).flatMap uint16Bytes ++ [d.appOutputClusterCount])
            (put (dstDesc + 7) [d.appOutputClusterCount]
              (put dstDesc (headBytes d ++ [d.appInputClusterCount]) m))) := by
        rw [@put_append _ (dstDesc + 7) ((inputs d).flatMap uint16Bytes), inLength]
    _ = put (dstDesc + 7) ((inputs d).flatMap uint16Bytes ++ [d.appOutputClusterCount] ++
            (outputs d).flatMap uint16Bytes)
          (put dstDesc (headBytes d ++ [d.appInputClusterCount]) m) := by
        rw [put_covered (by rw [List.length_append]; omega), behind, ← put_append]
    _ = put dstDesc (wireBytes d) m := by
        rw [show dstDesc + 7 = dstDesc + (headBytes d ++ [d.appInputClusterCount]).length from rfl,
          ← put_append, wireBytes]
        simp only [List.append_assoc, List.cons_append, List.nil_append]

end Copy

/-! ## Parsing -/

section Parse

theorem uint16At_pair (val : UInt16) : uint16At 0 [val.toUInt8, (val >>> 8).toUInt8] = val :=
  uint16At_bytes val [] []

theorem takeWords_append (words : List UInt16) (rest : List UInt8) :
    takeWords words.length (words.flatMap uint16Bytes ++ rest) = some (words, rest) := by
  induction words with
  | nil => rfl
  | cons word words ih =>
      rw [List.flatMap_cons, uint16Bytes, List.length_cons, List.append_assoc, List.cons_append,
        List.cons_append, List.nil_append, takeWords, ih, Option.map_some, uint16At_pair]

theorem takeWords_length {num : Nat} {bytes rest : List UInt8} {words : List UInt16}
    (taken : takeWords num bytes = some (words, rest)) :
    words.length = num ∧ bytes.length = 2 * num + rest.length := by
  induction num generalizing bytes words with
  | zero =>
      cases taken
      exact ⟨rfl, (Nat.zero_add _).symm⟩
  | succ num ih =>
      match bytes, taken with
      | low :: high :: bytes, taken =>
          obtain ⟨⟨words', rest'⟩, before, same⟩ := Option.map_eq_some_iff.1 taken
          cases same
          obtain ⟨length, all⟩ := ih before
          rw [List.length_cons, List.length_cons, List.length_cons, length, all]
          exact ⟨rfl, by omega⟩

variable (d : ZbAfSimpleDesc)

theorem versionByte_toNat :
    (versionByte d).toNat = d.appDeviceVersion.val + 16 * d.reserved.val := by
  have low := d.appDeviceVersion.isLt
  have high := d.reserved.isLt
  rw [versionByte, UInt8.toNat_ofNat']
  exact Nat.mod_eq_of_lt (by omega)

/-- **The bytes of a descriptor are parsed to its fields.** -/
theorem parse_wire : parseSimpleDesc (wireBytes d) = some d.fields := by
  have ins := takeWords_append (inputs d)
    (d.appOutputClusterCount :: (outputs d).flatMap uint16Bytes)
  have outs := takeWords_append (outputs d) []
  rw [length_inputs] at ins
  rw [length_outputs, List.append_nil] at outs
  have version : (⟨(versionByte d).toNat % 16, Nat.mod_lt _ (Nat.succ_pos 15)⟩ : Fin 16) =
      d.appDeviceVersion := by
    apply Fin.ext
    have low := d.appDeviceVersion.isLt
    rw [Fin.val_mk, versionByte_toNat]
    omega
  have reserved : (⟨(versionByte d).toNat / 16 % 16, Nat.mod_lt _ (Nat.succ_pos 15)⟩ : Fin 16) =
      d.reserved := by
    apply Fin.ext
    have low := d.appDeviceVersion.isLt
    have high := d.reserved.isLt
    rw [Fin.val_mk, versionByte_toNat]
    omega
  rw [wireBytes, headBytes, uint16Bytes, uint16Bytes]
  simp only [List.cons_append, List.nil_append, parseSimpleDesc, ins, Option.bind_eq_bind,
    Option.bind_some, outs, if_true, version, reserved, uint16At_pair]
  rfl

/-- What is parsed is as long as its clusters make it. -/
theorem parse_length {bytes : List UInt8} {f : DescFields} (parsed : parseSimpleDesc bytes = some f) :
    bytes.length = 8 + 2 * (f.inputs.length + f.outputs.length) := by
  match bytes, parsed with
  | _ :: _ :: _ :: _ :: _ :: _ :: inputCount :: bytes, parsed =>
      rw [parseSimpleDesc, Option.bind_eq_bind, Option.bind_eq_some_iff] at parsed
      obtain ⟨⟨ins, rest⟩, first, parsed⟩ := parsed
      obtain ⟨inLength, all⟩ := takeWords_length first
      match rest, parsed with
      | outputCount :: rest, parsed =>
          obtain ⟨⟨outs, rest'⟩, second, parsed⟩ := Option.bind_eq_some_iff.1 parsed
          dsimp only at parsed
          obtain ⟨outLength, all'⟩ := takeWords_length second
          by_cases last : rest' = []
          · subst last
            rw [if_pos rfl] at parsed
            cases parsed
            simp only [List.length_cons, List.length_nil] at all all' ⊢
            omega
          · rw [if_neg last] at parsed
            cases parsed

end Parse

/-! ## The response -/

section Response

variable (d : ZbAfSimpleDesc) (b : Body)

theorem descLength_toNat : (descLength d).toNat = (8 + 2 * clusters d) % 256 := by
  rw [descLength, afSimpleDescSize, UInt8.toNat_ofNat']
  congr 1
  omega

/-- The response to a request for this descriptor, before it is sent. -/
def message : Body where
  mem := put 73 (uint16Bytes (word b.mem (b.begin_ + 1)))
    (put 76 (wireBytes d) (put 75 [descLength d] (put 72 [zbZdpStatusSuccess] (put 75 [0] b.mem))))
  begin_ := 72
  len := 4 + (descLength d).toNat

theorem message_mem : (message d b).mem =
    put 73 (uint16Bytes (word b.mem (b.begin_ + 1)))
      (put 76 (wireBytes d)
        (put 75 [descLength d] (put 72 [zbZdpStatusSuccess] (put 75 [0] b.mem)))) := rfl

/-- **What the handler makes** of a request for a descriptor that is there. -/
theorem zdoSendSimpleDescResp_some {c : DescContext} {resp : Body}
    (received : b.len + b.begin_ + apsdeDataIndicationSize.toNat ≤ zbIoBufSize)
    (asked : c.networkAddress = word b.mem (b.begin_ + 1)) (found : srcDesc c (b.at_ 3) = some d) :
    zdoSendSimpleDescResp c b = some resp ↔
      SendRoom (message d b) ∧ resp = sent zdoSimpleDescRespClid
        (word (message d b).mem (zbIoBufSize - apsdeDataIndicationSize.toNat + 1)) (b.at_ 0)
        (message d b) := by
  have hdr : simpleDescRespHdrSize.toNat = 4 := rfl
  have bufSize : zbIoBufSize = 148 := rfl
  have data : apsdeDataReqSize.toNat = 18 := rfl
  rw [zdoSendSimpleDescResp, zbGetBufTail, if_pos received, zbBufInitialAlloc,
    if_pos (by rw [hdr, bufSize]; omega)]
  simp only [Option.bind_eq_bind, Option.bind_some, if_pos asked, found, putDesc]
  rw [zbBufSmartAllocRight]
  by_cases fits : (descLength d).toNat + 4 < zbIoBufSize
  · rw [if_pos (by simpa only [Body.write_len, hdr] using fits)]
    simp only [Option.bind_some, zdoSendRespByShort, Body.write_begin, Body.write_mem,
      Body.write_len, zbCopySimpleDesc_eq]
    exact sendByShort_some (b := message d b) (show 1 ≤ 72 by decide)
  · rw [if_neg (by simpa only [Body.write_len, hdr] using fits)]
    refine iff_of_false (fun impossible => by cases impossible) fun both => ?_
    have room := both.1
    rw [SendRoom, message, data] at room
    dsimp only at room
    omega

section Whole

variable {d} (fits : (descLength d).toNat = (wireBytes d).length)
include fits

/-- The response as bytes. -/
theorem message_bytes : (message d b).bytes =
    zbZdpStatusSuccess :: (uint16Bytes (word b.mem (b.begin_ + 1)) ++
      (descLength d :: wireBytes d)) := by
  have status : cellsAt 72 1 (message d b).mem = [zbZdpStatusSuccess] := by
    rw [message_mem, cellsAt_put_apart (.inl (by omega)), cellsAt_put_apart (.inl (by omega)),
      cellsAt_put_apart (.inl (by omega))]
    exact cellsAt_put_self rfl
  have addr : cellsAt 73 2 (message d b).mem = uint16Bytes (word b.mem (b.begin_ + 1)) := by
    rw [message_mem]
    exact cellsAt_put_self rfl
  have length : cellsAt 75 1 (message d b).mem = [descLength d] := by
    rw [message_mem, cellsAt_put_apart (.inr (by rw [length_uint16Bytes])),
      cellsAt_put_apart (.inl (by omega))]
    exact cellsAt_put_self rfl
  have desc : cellsAt 76 (wireBytes d).length (message d b).mem = wireBytes d := by
    rw [message_mem, cellsAt_put_apart (.inr (by rw [length_uint16Bytes]; omega))]
    exact cellsAt_put_self rfl
  have len : (message d b).len = 1 + (2 + (1 + (wireBytes d).length)) := by
    show 4 + (descLength d).toNat = _
    omega
  calc (message d b).bytes
      = cellsAt 72 (1 + (2 + (1 + (wireBytes d).length))) (message d b).mem := by
        rw [Body.bytes, len]
        rfl
    _ = _ := by
        rw [cellsAt_add, cellsAt_add, cellsAt_add, status, addr, length, desc,
          List.singleton_append, List.singleton_append]

theorem message_apart {a : Nat} (outside : a < 72 ∨ 72 + 4 + (descLength d).toNat ≤ a) :
    (message d b).mem a = b.mem a := by
  rw [fits] at outside
  rcases outside with before | behind
  · rw [message_mem, put_before (by omega), put_before (by omega), put_before (by omega),
      put_before (by omega), put_before (by omega)]
  · rw [message_mem, put_behind (by rw [length_uint16Bytes]; omega), put_behind (by omega),
      put_behind (by rw [List.length_singleton]; omega),
      put_behind (by rw [List.length_singleton]; omega),
      put_behind (by rw [List.length_singleton]; omega)]

/-- **A response with room behind it is right.** -/
theorem sent_right {clusterid addr : UInt16} (room : SendRoom (message d b)) :
    RespRight d b (sent clusterid addr (b.at_ 0) (message d b)) := by
  have bytes := @sent_bytes clusterid addr (b.at_ 0) (message d b)
    (show 1 ≤ (message d b).begin_ from Nat.succ_le_of_lt (Nat.succ_pos 71)) room
  rw [message_bytes b fits] at bytes
  generalize whole : sent clusterid addr (b.at_ 0) (message d b) = r at bytes
  have len : r.len = 5 + (wireBytes d).length := by
    rw [← length_bytes, bytes]
    simp only [List.length_cons, List.length_append, length_uint16Bytes]
    omega
  have byte (i : Nat) (less : i < 5) : r.at_ i = r.bytes.getD i 0 :=
    (getD_bytes (by omega)).symm
  have payload : r.bytes.drop 5 = wireBytes d := by
    rw [bytes]
    rfl
  constructor
  · rw [byte 0 (by omega), bytes]
    rfl
  · rw [byte 1 (by omega), bytes]
    rfl
  · rw [← uint16At_bytes_body (by omega), bytes]
    exact uint16At_bytes _ [b.at_ 0, zbZdpStatusSuccess] _
  · rw [byte 4 (by omega), payload, bytes]
    exact fits
  · rw [payload]
    exact parse_wire d
  · intro a outside tail
    rw [← whole] at outside ⊢
    have edge : a < 71 ∨ 71 + (4 + (descLength d).toNat + 1) ≤ a := outside
    rw [sent_apart (show a + 1 ≠ 72 by omega) tail (show 1 ≤ 72 by decide),
      message_apart b fits (by omega)]

end Whole

end Response

/-- **Which descriptors are sent**, each of them as it is: those with 23 clusters at most. -/
theorem simple_desc_iff (q : DescRequest) (c : DescContext) {d : ZbAfSimpleDesc}
    (asked : c.networkAddress = word q.mem (q.begin_ + 1)) (found : srcDesc c (q.at_ 3) = some d) :
    (∃ resp, zdoSendSimpleDescResp c q.toBody = some resp ∧ RespRight d q.toBody resp) ↔
      clusters d ≤ 23 := by
  have data : apsdeDataReqSize.toNat = 18 := rfl
  have bufSize : zbIoBufSize = 148 := rfl
  have length := descLength_toNat d
  have wire := length_wireBytes d
  have room_iff : SendRoom (message d q.toBody) ↔ 4 + (descLength d).toNat + 72 + 18 ≤ 148 :=
    Iff.rfl
  constructor
  · rintro ⟨resp, made, right⟩
    obtain ⟨room, rfl⟩ := (zdoSendSimpleDescResp_some d q.toBody q.received asked found).1 made
    have all := parse_length right.parsed
    rw [List.length_drop, length_bytes] at all
    have len : ∀ clusterid addr : UInt16, (sent clusterid addr (q.at_ 0) (message d q.toBody)).len =
        4 + (descLength d).toNat + 1 := fun _ _ => rfl
    have counts : d.fields.inputs.length + d.fields.outputs.length = clusters d :=
      congrArg₂ (· + ·) (length_inputs d) (length_outputs d)
    rw [len, counts] at all
    have space := room_iff.1 room
    omega
  · intro few
    have fits : (descLength d).toNat = (wireBytes d).length := by
      rw [length, wire]
      omega
    have room : SendRoom (message d q.toBody) := room_iff.2 (by omega)
    exact ⟨_, (zdoSendSimpleDescResp_some d q.toBody q.received asked found).2 ⟨room, rfl⟩,
      sent_right q.toBody fits room⟩

/-- A request for the descriptor of an endpoint of the coordinator. -/
def requestFor (ep : UInt8) : DescRequest where
  mem a := if a = 63 then ep else 0
  begin_ := 60
  len := 4
  whole := le_refl 4
  received := Nat.le_of_ble_eq_true rfl

/-- The descriptor that ZDO has itself. -/
def zdoSimpleDesc : ZbAfSimpleDesc where
  endpoint := 0
  appProfileId := 0
  appDeviceId := 0
  appDeviceVersion := ⟨0, Nat.succ_pos 15⟩
  reserved := ⟨0, Nat.succ_pos 15⟩
  appInputClusterCount := 7
  appOutputClusterCount := 8
  appClusterList := [0x8000, 0x8001, 0x8002, 0x8003, 0x8004, 0x8005, 0x8006,
    0x0000, 0x0001, 0x0002, 0x0003, 0x0004, 0x0005, 0x0006, 0x0013]
  whole := rfl

/-- A descriptor with 24 clusters. -/
def crowdedDesc : ZbAfSimpleDesc :=
  { zdoSimpleDesc with
    endpoint := 1
    appInputClusterCount := 12
    appOutputClusterCount := 12
    appClusterList := List.replicate 24 6
    whole := rfl }

def coordinator : DescContext := ⟨0, zdoSimpleDesc, [crowdedDesc], true⟩

theorem simple_desc_zdo : ∃ resp,
    zdoSendSimpleDescResp coordinator (requestFor 0).toBody = some resp ∧
      RespRight zdoSimpleDesc (requestFor 0).toBody resp :=
  (simple_desc_iff (requestFor 0) coordinator rfl rfl).2 (by decide)

/-- **A descriptor is not sent**, though the longest message has room for it. -/
theorem crowded_unsent :
    ¬ ∀ (q : DescRequest) (c : DescContext) (d : ZbAfSimpleDesc),
      c.networkAddress = word q.mem (q.begin_ + 1) → srcDesc c (q.at_ 3) = some d →
      5 + (wireBytes d).length ≤ zbAsduMaxLen →
      ∃ resp, zdoSendSimpleDescResp c q.toBody = some resp ∧ RespRight d q.toBody resp := by
  intro always
  have sends := always (requestFor 1) coordinator crowdedDesc rfl rfl (by decide +kernel)
  have few := (simple_desc_iff (requestFor 1) coordinator rfl rfl).1 sends
  revert few
  decide

end Zboss.Zdo.SimpleDescResp
