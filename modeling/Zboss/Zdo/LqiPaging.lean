/-
# Zdo.LqiPaging -- the neighbour table, page by page

`zdo_lqi_resp` answers a request for the neighbours from a start index on with as many records as
there is room for; the next page is asked for behind the last record.

* `written_all`: what the loop writes: records of the first used entries, each with its entry's
  type, relationship, depth and link quality;
* `lqiResp_router`: the page that goes out, and when none does;
* `lqi_paging_iff`: which pages are right, and when the pages together list every neighbour once.

Poles: `ZB_MAC_MAX_HEADER_SIZE` has no brackets.  In the sum of the headers its `?` takes all that
stands before it for its condition, the sum is 2, and a page has room for 74 records (`page_room`).
The size of a page goes into eight bits, and behind one of 5 or 6 records there is no room for the
parameters it is sent with.  The loop begins at the first entry, whatever the start index.
-/
import Mathlib
import Zboss.Common.Constants
import Zboss.Zdo.RxContext

namespace Zboss.Zdo.LqiPaging

open Zboss.Common.Constants
open Zboss.Common.Types
open Zboss.Common.PacketBuf
open Zboss.Common.Address
open Zboss.Nwk.Neighbor
open Zboss.Theory.ByteMemory
open Zboss.Zdo.BodyMemory
open Zboss.Zdo.SendByShort
open Zboss.Zdo.RxContext

set_option autoImplicit false

/-! ## Sizes -/

/-- `ZB_APS_HDR_SIZE(ZB_APS_FRAME_DATA)` -/
def zbApsHdrSize : Nat := 2 + (1 + 0 + (2 + 2) + 1)

/-- `sizeof(zb_aps_nwk_aux_frame_hdr_t)` -/
def zbApsNwkAuxFrameHdrSize : Nat := 6

/-- `ZB_NWK_FULL_HDR_SIZE(1)` -/
def zbNwkFullHdrSize : Nat := 24 + 1

def zbTailSizeForSenderMacFrame : Nat := 2

/-- `sizeof(zb_zdo_mgmt_lqi_resp_t)` -/
def lqiRespSize : Nat := 4

/-- `sizeof(zb_zdo_neighbor_table_record_t)` -/
def neighborTableRecordSize : Nat := 22

/-- The value that `ZB_MAC_MAX_HEADER_SIZE(1, 1)` is meant to have. -/
def zbMacMaxHeaderSize : Nat := 2 + 1 + 2 + 2 + 2

/-- The headers and the tail that a response is sent with. -/
def headersSize : Nat :=
  zbApsHdrSize + zbApsNwkAuxFrameHdrSize + zbNwkFullHdrSize + zbMacMaxHeaderSize +
    zbTailSizeForSenderMacFrame

/-- "calculate total header size": each `?` of the macro takes what stands before it in the sum for
its condition, and what stands behind its last `:` is only added there. -/
def totalHeaderSize : Nat :=
  if zbApsHdrSize + zbApsNwkAuxFrameHdrSize + zbNwkFullHdrSize + 2 + 1 + 1 ≠ 0 then 2
  else if 8 + 2 + 1 ≠ 0 then 2
  else 8 + lqiRespSize + zbTailSizeForSenderMacFrame

def maxRecordsNum : UInt8 := UInt8.ofNat (zbIoBufSize / totalHeaderSize)

theorem page_room : totalHeaderSize = 2 ∧ maxRecordsNum = 74 := by decide

/-! ## Records -/

/-- The fields of a byte: the bits of `mask` are cleared and `type` is put in. -/
def setBits (mask type var : UInt8) : UInt8 := var &&& ~~~mask ||| type

/-- `ZB_ZDO_RECORD_SET_DEVICE_TYPE` -/
def recordSetDeviceType (type var : UInt8) : UInt8 := setBits 3 type var

def recordGetDeviceType (var : UInt8) : UInt8 := var &&& 3

/-- `ZB_ZDO_RECORD_SET_RX_ON_WHEN_IDLE` -/
def recordSetRxOnWhenIdle (type var : UInt8) : UInt8 := setBits 0xC (type <<< 2) var

def recordGetRxOnWhenIdle (var : UInt8) : UInt8 := (var &&& 0xC) >>> 2

/-- `ZB_ZDO_RECORD_SET_RELATIONSHIP` -/
def recordSetRelationship (type var : UInt8) : UInt8 := setBits 0x70 (type <<< 4) var

def recordGetRelationship (var : UInt8) : UInt8 := (var &&& 0x70) >>> 4

/-- The value of the enumeration. -/
def relationshipCode : ZbNwkRelationship → UInt8
  | .parent => 0
  | .child => 1
  | .sibling => 2
  | .noneOfTheAbove => 3
  | .previousChild => 4
  | .unauthenticatedChild => 5

/-- `device_type` is two bits wide. -/
def deviceTypeBits (nbe : ZbNeighborTblEnt) : UInt8 := nbe.deviceType &&& 3

structure ZbZdoNeighborTableRecord where
  extPanId : ZbIeeeAddr
  extAddr : ZbIeeeAddr
  networkAddr : UInt16
  typeFlags : UInt8
  permitJoin : UInt8
  depth : UInt8
  lqi : UInt8

/-- A record in the buffer. -/
def recordBytes (record : ZbZdoNeighborTableRecord) : List UInt8 :=
  record.extPanId.toList ++ record.extAddr.toList ++ uint16Bytes record.networkAddr ++
    [record.typeFlags, record.permitJoin, record.depth, record.lqi]

/-- The record of an entry; its flags are put into a byte that holds `stale`. -/
def recordOf (g : ZbAddrGlobals) (extPanId : ZbIeeeAddr) (stale : UInt8) (nbe : ZbNeighborTblEnt) :
    ZbZdoNeighborTableRecord where
  extPanId := extPanId
  extAddr := (zbAddressByRef nbe.addrRef g).1
  networkAddr := (zbAddressByRef nbe.addrRef g).2
  typeFlags :=
    recordSetRelationship (relationshipCode nbe.relationship)
      (recordSetRxOnWhenIdle nbe.rxOnWhenIdle.toUInt8
        (recordSetDeviceType (deviceTypeBits nbe) stale))
  permitJoin := nbe.permitJoining
  depth := nbe.depth
  lqi := nbe.lqi

/-- What a record says is what its entry says. -/
structure Reports (g : ZbAddrGlobals) (extPanId : ZbIeeeAddr) (record : ZbZdoNeighborTableRecord)
    (nbe : ZbNeighborTblEnt) : Prop where
  extPanId : record.extPanId = extPanId
  address : (record.extAddr, record.networkAddr) = zbAddressByRef nbe.addrRef g
  deviceType : recordGetDeviceType record.typeFlags = deviceTypeBits nbe
  rxOnWhenIdle : recordGetRxOnWhenIdle record.typeFlags = nbe.rxOnWhenIdle.toUInt8
  relationship : recordGetRelationship record.typeFlags = relationshipCode nbe.relationship
  permitJoin : record.permitJoin = nbe.permitJoining
  depth : record.depth = nbe.depth
  lqi : record.lqi = nbe.lqi

section Bits

variable {mask other type var : UInt8}

/-- A field that has been set is read, -/
theorem setBits_self (within : type &&& mask = type) : setBits mask type var &&& mask = type := by
  rw [← within, setBits]
  apply UInt8.toBitVec_inj.1
  ext i
  simp only [UInt8.toBitVec_and, UInt8.toBitVec_or, UInt8.toBitVec_not, BitVec.getElem_and,
    BitVec.getElem_or, BitVec.getElem_not]
  cases mask.toBitVec[i] <;> simp

/-- and the other fields are left as they are. -/
theorem setBits_other (within : type &&& other = 0) (apart : ~~~mask &&& other = other) :
    setBits mask type var &&& other = var &&& other := by
  have bits : setBits mask type var &&& other = var &&& (~~~mask &&& other) ||| type &&& other := by
    rw [setBits]
    apply UInt8.toBitVec_inj.1
    ext i
    simp only [UInt8.toBitVec_and, UInt8.toBitVec_or, UInt8.toBitVec_not, BitVec.getElem_and,
      BitVec.getElem_or, BitVec.getElem_not]
    cases other.toBitVec[i] <;> simp
  rw [bits, within, apart, UInt8.or_zero]

end Bits

theorem recordOf_reports (g : ZbAddrGlobals) (extPanId : ZbIeeeAddr) (stale : UInt8)
    (nbe : ZbNeighborTblEnt) : Reports g extPanId (recordOf g extPanId stale nbe) nbe where
  extPanId := rfl
  address := rfl
  deviceType := by
    rw [recordOf, recordGetDeviceType, recordSetRelationship, recordSetRxOnWhenIdle,
      recordSetDeviceType, setBits_other, setBits_other, setBits_self]
    · rw [deviceTypeBits, UInt8.and_assoc, UInt8.and_self]
    · cases nbe.rxOnWhenIdle <;> decide
    · decide
    · cases nbe.relationship <;> decide
    · decide
  rxOnWhenIdle := by
    rw [recordOf, recordGetRxOnWhenIdle, recordSetRelationship, recordSetRxOnWhenIdle,
      setBits_other, setBits_self]
    · cases nbe.rxOnWhenIdle <;> decide
    · cases nbe.rxOnWhenIdle <;> decide
    · cases nbe.relationship <;> decide
    · decide
  relationship := by
    rw [recordOf, recordGetRelationship, recordSetRelationship, setBits_self]
    · cases nbe.relationship <;> decide
    · cases nbe.relationship <;> decide
  permitJoin := rfl
  depth := rfl
  lqi := rfl

/-! ## The response -/

/-- What the loop works with: the records that are left to write, the memory, the entries it has
written, and their records. -/
structure Pages where
  recordsNum : UInt8
  mem : Nat → UInt8
  slots : List Nat
  records : List ZbZdoNeighborTableRecord

variable (c : ZdoRxContext)

def tableEntry (i : Nat) : ZbNeighborTblEnt := c.locks.nwk.neighbor.baseNeighbor i

/-- One turn, for the entry `i`; the first record is at `at_`. -/
def recordStep (at_ : Nat) (pages : Pages) (i : Nat) : Pages :=
  if pages.recordsNum = 0 then pages
  else if (tableEntry c i).used then
    let place := at_ + neighborTableRecordSize * pages.slots.length
    let record := recordOf c.locks.nwk.addr c.extPanId (pages.mem (place + 18)) (tableEntry c i)
    ⟨pages.recordsNum - 1, put place (recordBytes record) pages.mem, pages.slots ++ [i],
      pages.records ++ [record]⟩
  else pages

/-- The loop, after its first `n` turns. -/
def recordsAfter (at_ : Nat) (m : Nat → UInt8) (recordsNum : UInt8) (n : Nat) : Pages :=
  (List.range n).foldl (recordStep c at_) ⟨recordsNum, m, [], []⟩

/-- `records_num` -/
def pageNum (startIndex : UInt8) : UInt8 :=
  let used := c.locks.nwk.neighbor.baseNeighborUsed
  let recordsNum := UInt8.ofNat (if used > startIndex.toNat then used - startIndex.toNat else 0)
  if recordsNum < maxRecordsNum then recordsNum else maxRecordsNum

/-- The header of the response; the start index is read where the request stands. -/
def putHeader (num : UInt8) (reqAt : Nat) (resp : Body) : Body :=
  let resp := resp.write resp.begin_
    [zbZdpStatusSuccess, UInt8.ofNat c.locks.nwk.neighbor.baseNeighborUsed]
  resp.write (resp.begin_ + 2) [resp.mem reqAt, num]

/-- The response that is sent, with the entries and the records that have been written. -/
structure LqiResp where
  packet : Body
  slots : List Nat
  records : List ZbZdoNeighborTableRecord

/-- `none` where an assertion on the room in the buffer fails.  The size goes into eight bits, and
the address that the response is sent to is read at last. -/
def zdoLqiResp (b : Body) : Option LqiResp := do
  let tsn := b.at_ 0
  let ind ← zbGetBufTail apsdeDataIndicationSize b
  if c.routerRole then
    let num := pageNum c (b.at_ 1)
    let resp ← zbBufInitialAlloc
      (UInt8.ofNat (lqiRespSize + num.toNat * neighborTableRecordSize)) b
    let resp := putHeader c num (b.begin_ + 1) resp
    let pages := recordsAfter c (resp.begin_ + lqiRespSize) resp.mem num
      c.locks.nwk.neighbor.baseNeighborSize
    let packet ← zdoSendRespByShort zdoMgmtLqiRespClid tsn (word pages.mem (ind + 1))
      { resp with mem := pages.mem }
    return ⟨packet, pages.slots, pages.records⟩
  else
    let resp ← zbBufInitialAlloc (UInt8.ofNat lqiRespSize) b
    let resp := resp.write resp.begin_ [zbZdpStatusNotSupported, 0, 0, 0]
    let packet ← zdoSendRespByShort zdoMgmtLqiRespClid tsn (word resp.mem (ind + 1)) resp
    return ⟨packet, [], []⟩

/-- A request for the neighbours that has a start index. -/
structure LqiRequest extends ZdoFrame where
  whole : 2 ≤ len

/-- The used neighbours, in the order of the table. -/
def usedSlots : List Nat :=
  (List.range c.locks.nwk.neighbor.baseNeighborSize).filter fun i => (tableEntry c i).used

/-- The number of records that a response says it has. -/
def listCount (resp : LqiResp) : UInt8 := resp.packet.at_ 4

/-- What a response should be; behind the transaction number and the header are its records. -/
structure PageRight (startIndex : UInt8) (resp : LqiResp) : Prop where
  fits : headersSize + (lqiRespSize + (listCount resp).toNat * neighborTableRecordSize) ≤ zbIoBufSize
  counted : (listCount resp).toNat = resp.records.length
  page : resp.slots <+: (usedSlots c).drop startIndex.toNat
  own : List.Forall₂ (Reports c.locks.nwk.addr c.extPanId) resp.records
    (resp.slots.map (tableEntry c))
  carried : resp.packet.bytes.drop (1 + lqiRespSize) = resp.records.flatMap recordBytes

/-- The entries whose records are in the response as it is sent. -/
def carriedSlots (resp : LqiResp) : List Nat :=
  resp.slots.take ((resp.packet.len - (1 + lqiRespSize)) / neighborTableRecordSize)

/-- The entries of the responses to successive start indices, each behind the count of the response
before; `none` when a response fails to come or has no count. -/
def fetch (ask : UInt8 → Option LqiResp) : Nat → UInt8 → Option (List Nat)
  | 0, _ => some []
  | n + 1, startIndex =>
      match ask startIndex with
      | none => none
      | some resp =>
          if resp.packet.len < 1 + lqiRespSize then none
          else if carriedSlots resp = [] then some []
          else (fetch ask n (startIndex + listCount resp)).map (carriedSlots resp ++ ·)

/-- The neighbours are asked for in requests that are the same but for the start index. -/
def asks (frame : UInt8 → LqiRequest) (startIndex : UInt8) : Option LqiResp :=
  zdoLqiResp c ((frame startIndex).asking 1 startIndex).toBody

/-! ## What the loop writes -/

section Loop

variable {c : ZdoRxContext} {at_ : Nat} {m : Nat → UInt8} {num : UInt8}

@[simp] theorem length_recordBytes (record : ZbZdoNeighborTableRecord) :
    (recordBytes record).length = neighborTableRecordSize := by
  simp [recordBytes, neighborTableRecordSize]

theorem length_records (records : List ZbZdoNeighborTableRecord) :
    (records.flatMap recordBytes).length = neighborTableRecordSize * records.length := by
  rw [List.length_flatMap, List.map_congr_left fun record _ => length_recordBytes record,
    List.map_const', List.sum_replicate, smul_eq_mul, Nat.mul_comm]

/-- After `i` turns: the used entries before `i`, as far as there is room, and their records one
behind the other. -/
structure Written (c : ZdoRxContext) (at_ : Nat) (m : Nat → UInt8) (num : UInt8) (i : Nat)
    (pages : Pages) : Prop where
  slots : pages.slots = ((List.range i).filter fun i => (tableEntry c i).used).take num.toNat
  left : pages.recordsNum.toNat + pages.slots.length = num.toNat
  own : List.Forall₂ (Reports c.locks.nwk.addr c.extPanId) pages.records
    (pages.slots.map (tableEntry c))
  mem : pages.mem = put at_ (pages.records.flatMap recordBytes) m

theorem written_step {i : Nat} {pages : Pages} (written : Written c at_ m num i pages) :
    Written c at_ m num (i + 1) (recordStep c at_ pages i) := by
  obtain ⟨slots, left, own, mem⟩ := written
  rw [recordStep]
  by_cases full : pages.recordsNum = 0
  · -- the page is full, and the list of the used entries only gets longer
    rw [if_pos full]
    refine ⟨?_, left, own, mem⟩
    have length := congrArg List.length slots
    rw [List.length_take] at length
    rw [full, UInt8.toNat_zero, Nat.zero_add] at left
    rw [slots, List.range_succ, List.filter_append, List.take_append_of_le_length]
    omega
  · rw [if_neg full]
    have room : pages.recordsNum.toNat ≠ 0 := fun zero => full (UInt8.toNat_inj.1 zero)
    have all : ((List.range i).filter fun i => (tableEntry c i).used).length < num.toNat := by
      have length := congrArg List.length slots
      rw [List.length_take] at length
      omega
    rw [List.take_of_length_le all.le] at slots
    cases here : (tableEntry c i).used with
    | false =>
        rw [if_neg (by decide)]
        refine ⟨?_, left, own, mem⟩
        rw [slots, List.range_succ, List.filter_append, List.filter_singleton, here, cond_false,
          List.append_nil, List.take_of_length_le all.le]
    | true =>
        have records : pages.slots.length = pages.records.length := by
          rw [own.length_eq, List.length_map]
        rw [if_pos rfl]
        refine ⟨?_, ?_, ?_, ?_⟩
        · rw [slots, List.range_succ, List.filter_append, List.filter_singleton, here, cond_true,
            List.take_of_length_le]
          rw [List.length_append, List.length_singleton]
          omega
        · have one : (1 : UInt8) ≤ pages.recordsNum := by
            rw [UInt8.le_iff_toNat_le]
            have : (1 : UInt8).toNat = 1 := rfl
            omega
          rw [UInt8.toNat_sub_of_le _ _ one, List.length_append, List.length_singleton]
          have : (1 : UInt8).toNat = 1 := rfl
          omega
        · rw [List.map_append]
          exact List.rel_append own (.cons (recordOf_reports _ _ _ _) .nil)
        · rw [List.flatMap_append, List.flatMap_singleton, put_append, length_records, ← records,
            ← mem]

theorem written_all (n : Nat) : Written c at_ m num n (recordsAfter c at_ m num n) := by
  induction n with
  | zero => exact ⟨List.take_nil.symm, Nat.add_zero _, .nil, put_nil.symm⟩
  | succ n ih =>
      rw [recordsAfter, List.range_succ, List.foldl_append]
      exact written_step ih

end Loop

/-! ## The size of a page -/

/-- What is left behind the start index of the places that have been handed out, in eight bits. -/
def left (startIndex : UInt8) : Nat :=
  (c.locks.nwk.neighbor.baseNeighborUsed - startIndex.toNat) % 256

/-- The records of a page. -/
def pageRecords (startIndex : UInt8) : Nat := min (left c startIndex) 74

/-- The size of so many records, in eight bits. -/
def pageSize (num : Nat) : Nat := (lqiRespSize + num * neighborTableRecordSize) % 256

/-- A response with so many records goes out, with its count. -/
def GoesOut (num : Nat) : Prop := lqiRespSize ≤ pageSize num ∧ pageSize num ≤ maxAnswer

/-- The records stay inside the buffer where they are written. -/
def PageFits (startIndex : UInt8) : Prop :=
  pageSize (pageRecords c startIndex) ≤ maxAnswer ∧
    (zbIoBufSize - pageSize (pageRecords c startIndex)) / 2 + lqiRespSize +
      neighborTableRecordSize * min (pageRecords c startIndex) (usedSlots c).length ≤ zbIoBufSize

/-- The records it has then. -/
def carries (num : Nat) : Nat := (pageSize num - lqiRespSize) / neighborTableRecordSize

section Pages

variable {startIndex : UInt8} {frame : ZdoFrame}

theorem pageNum_toNat : (pageNum c startIndex).toNat = pageRecords c startIndex := by
  have recordsNum : (UInt8.ofNat
      (if c.locks.nwk.neighbor.baseNeighborUsed > startIndex.toNat then
        c.locks.nwk.neighbor.baseNeighborUsed - startIndex.toNat else 0)).toNat =
      left c startIndex := by
    rw [UInt8.toNat_ofNat', left]
    congr 1
    split
    · rfl
    · omega
  rw [pageNum, page_room.2, pageRecords]
  generalize UInt8.ofNat (if c.locks.nwk.neighbor.baseNeighborUsed > startIndex.toNat then
    c.locks.nwk.neighbor.baseNeighborUsed - startIndex.toNat else 0) = num at recordsNum
  have most : (74 : UInt8).toNat = 74 := rfl
  by_cases less : num < 74
  · rw [if_pos less, recordsNum]
    rw [UInt8.lt_iff_toNat_lt, recordsNum, most] at less
    omega
  · rw [if_neg less, most]
    rw [UInt8.lt_iff_toNat_lt, recordsNum, most] at less
    omega

/-- The page of a router that goes out, with `num` records. -/
structure PageOut (c : ZdoRxContext) (num : Nat) (resp : LqiResp) : Prop where
  size : pageSize num ≤ maxAnswer
  begin_ : resp.packet.begin_ + 1 = (zbIoBufSize - pageSize num) / 2
  len : resp.packet.len = pageSize num + 1
  count : (listCount resp).toNat = num
  slots : resp.slots = (usedSlots c).take num
  own : List.Forall₂ (Reports c.locks.nwk.addr c.extPanId) resp.records
    (resp.slots.map (tableEntry c))
  carried : lqiRespSize + neighborTableRecordSize * resp.records.length = pageSize num →
    resp.packet.bytes.drop (1 + lqiRespSize) = resp.records.flatMap recordBytes

/-- What has been written goes out. -/
theorem pageOut_sent {num : UInt8} {m : Nat → UInt8} {pages : Pages} {b : Body} {addr : UInt16}
    {tsn : UInt8} (place : b.begin_ = (zbIoBufSize - pageSize num.toNat) / 2)
    (length : b.len = pageSize num.toNat) (counted : m (b.begin_ + 3) = num)
    (written : Written c (b.begin_ + lqiRespSize) m num c.locks.nwk.neighbor.baseNeighborSize pages)
    (there : b.mem = pages.mem) (room : pageSize num.toNat ≤ maxAnswer) (starts : 1 ≤ b.begin_) :
    PageOut c num.toNat ⟨sent zdoMgmtLqiRespClid addr tsn b, pages.slots, pages.records⟩ := by
  have data : apsdeDataReqSize.toNat = 18 := rfl
  have bufSize : zbIoBufSize = 148 := rfl
  have most : maxAnswer = 113 := rfl
  have four : lqiRespSize = 4 := rfl
  obtain ⟨slots, -, own, mem⟩ := written
  refine ⟨room, (Nat.sub_add_cancel starts).trans place, congrArg (· + 1) length, ?_, slots, own,
    fun whole => ?_⟩
  · -- the records are behind the count, and the parameters behind them
    have apart : (sent zdoMgmtLqiRespClid addr tsn b).mem (b.begin_ + 3) = b.mem (b.begin_ + 3) :=
      sent_apart (by omega) (.inl (by omega)) starts
    have at_ : (sent zdoMgmtLqiRespClid addr tsn b).begin_ + 4 = b.begin_ + 3 :=
      show b.begin_ - 1 + 4 = b.begin_ + 3 by omega
    show ((sent zdoMgmtLqiRespClid addr tsn b).at_ 4).toNat = num.toNat
    rw [Body.at_, at_, apart, there, mem, put_before (by omega), counted]
  · have bytes := @sent_bytes zdoMgmtLqiRespClid addr tsn b starts (by rw [SendRoom]; omega)
    have rest : cellsAt (b.begin_ + lqiRespSize)
        (neighborTableRecordSize * pages.records.length) pages.mem =
          pages.records.flatMap recordBytes := by
      rw [mem]
      exact cellsAt_put_self (length_records _)
    have all : b.bytes =
        cellsAt b.begin_ lqiRespSize pages.mem ++ pages.records.flatMap recordBytes := by
      rw [Body.bytes, length, ← whole, cellsAt_add, there, rest]
    show (sent zdoMgmtLqiRespClid addr tsn b).bytes.drop (1 + lqiRespSize) = _
    rw [bytes, all, Nat.add_comm 1, List.drop_succ_cons, List.drop_left' length_cellsAt]

/-- **A router sends a page** just when there is room behind it for the parameters. -/
theorem lqiResp_router (router : c.routerRole = true) :
    (zdoLqiResp c frame.toBody = none ∧ maxAnswer < pageSize (pageRecords c (frame.at_ 1))) ∨
      ∃ resp, zdoLqiResp c frame.toBody = some resp ∧
        PageOut c (pageRecords c (frame.at_ 1)) resp := by
  have data : apsdeDataReqSize.toNat = 18 := rfl
  have bufSize : zbIoBufSize = 148 := rfl
  have most : maxAnswer = 113 := rfl
  have four : lqiRespSize = 4 := rfl
  have size (num : UInt8) : (UInt8.ofNat (lqiRespSize + num.toNat * neighborTableRecordSize)).toNat =
      pageSize num.toNat := UInt8.toNat_ofNat'
  rw [← pageNum_toNat, zdoLqiResp]
  simp only [indication_room, Option.bind_eq_bind, Option.bind_some, if_pos router,
    zbBufInitialAlloc, size]
  generalize pageNum c (frame.at_ 1) = num
  by_cases small : pageSize num.toNat < zbIoBufSize
  swap
  · rw [if_neg small]
    exact .inl ⟨rfl, by omega⟩
  rw [if_pos small]
  simp only [Option.bind_some]
  generalize header : putHeader c num (frame.begin_ + 1)
    { frame.toBody with begin_ := (zbIoBufSize - pageSize num.toNat) / 2, len := pageSize num.toNat } =
      resp
  have place : resp.begin_ = (zbIoBufSize - pageSize num.toNat) / 2 := by rw [← header]; rfl
  have length : resp.len = pageSize num.toNat := by rw [← header]; rfl
  have counted : resp.mem (resp.begin_ + 3) = num := by
    rw [← header, putHeader]
    exact @put_inside _ _ [_, num] _ 1 Nat.one_lt_two
  have written := @written_all c (resp.begin_ + lqiRespSize) resp.mem num
    c.locks.nwk.neighbor.baseNeighborSize
  generalize recordsAfter c (resp.begin_ + lqiRespSize) resp.mem num
    c.locks.nwk.neighbor.baseNeighborSize = pages at written ⊢
  generalize word pages.mem (indicationAt + 1) = addr
  rw [zdoSendRespByShort]
  by_cases room : pageSize num.toNat ≤ maxAnswer
  · have starts : 1 ≤ resp.begin_ := by omega
    have sendRoom : SendRoom { resp with mem := pages.mem } := by
      rw [SendRoom]
      dsimp only
      omega
    have sends := (@sendByShort_some zdoMgmtLqiRespClid addr (frame.at_ 0)
      { resp with mem := pages.mem } _ starts).2 ⟨sendRoom, rfl⟩
    rw [sends]
    exact .inr ⟨_, rfl, pageOut_sent c place length counted written rfl room starts⟩
  · have stays : ¬ (sendByShort zdoMgmtLqiRespClid addr (frame.at_ 0)
        { resp with mem := pages.mem }).isSome = true := by
      rw [sendByShort_isSome, SendRoom]
      dsimp only
      omega
    rw [Bool.not_eq_true, Option.isSome_eq_false_iff, Option.isNone_iff_eq_none] at stays
    rw [stays]
    exact .inl ⟨rfl, by omega⟩

/-- An end device answers with the header alone. -/
theorem lqiResp_endDevice (router : c.routerRole = false) :
    ∃ resp, zdoLqiResp c frame.toBody = some resp ∧ resp.slots = [] ∧ resp.records = [] ∧
      listCount resp = 0 ∧ resp.packet.len = 1 + lqiRespSize ∧ resp.packet.begin_ = 71 := by
  have size : (UInt8.ofNat lqiRespSize).toNat = 4 := rfl
  have bufSize : zbIoBufSize = 148 := rfl
  have data : apsdeDataReqSize.toNat = 18 := rfl
  rw [zdoLqiResp]
  simp only [indication_room, Option.bind_eq_bind, Option.bind_some, router, Bool.false_eq_true,
    if_false, zbBufInitialAlloc, size]
  rw [if_pos (by omega)]
  simp only [Option.bind_some]
  generalize header : Body.write ((zbIoBufSize - 4) / 2) [zbZdpStatusNotSupported, 0, 0, 0]
    { frame.toBody with begin_ := (zbIoBufSize - 4) / 2, len := 4 } = resp
  have place : resp.begin_ = 72 := by rw [← header]; rfl
  have length : resp.len = 4 := by rw [← header]; rfl
  have counted : resp.mem (resp.begin_ + 3) = 0 := by
    rw [← header]
    show put ((zbIoBufSize - 4) / 2) [zbZdpStatusNotSupported, 0, 0, 0] frame.mem
      ((zbIoBufSize - 4) / 2 + 3) = 0
    exact put_inside (by decide)
  generalize word resp.mem (indicationAt + 1) = addr
  have starts : 1 ≤ resp.begin_ := by omega
  have sends := (@sendByShort_some zdoMgmtLqiRespClid addr (frame.at_ 0) resp _ starts).2
    ⟨by rw [SendRoom]; omega, rfl⟩
  rw [zdoSendRespByShort, sends]
  refine ⟨_, rfl, rfl, rfl, ?_, congrArg (· + 1) length, congrArg (· - 1) place⟩
  have at_ : (sent zdoMgmtLqiRespClid addr (frame.at_ 0) resp).begin_ + 4 = resp.begin_ + 3 :=
    show resp.begin_ - 1 + 4 = resp.begin_ + 3 by omega
  show (sent zdoMgmtLqiRespClid addr (frame.at_ 0) resp).at_ 4 = 0
  rw [Body.at_, at_, sent_apart (by omega) (.inl (by omega)) starts, counted]

theorem first_mem_take {slots : List Nat} {n : Nat} (some_ : slots ≠ []) (room : n ≠ 0) :
    slots.head some_ ∈ slots.take n := by
  cases slots with
  | nil => exact absurd rfl some_
  | cons first rest =>
      obtain ⟨before, rfl⟩ := Nat.exists_eq_succ_of_ne_zero room
      exact List.mem_cons_self

/-- **Which pages are right.** -/
theorem page_right_iff :
    (∃ resp, zdoLqiResp c frame.toBody = some resp ∧ PageRight c (frame.at_ 1) resp) ↔
      c.routerRole = false ∨
        left c (frame.at_ 1) ≤ 4 ∧ left c (frame.at_ 1) ≤ (usedSlots c).length ∧
          (left c (frame.at_ 1) = 0 ∨ frame.at_ 1 = 0) := by
  cases router : c.routerRole with
  | false =>
      obtain ⟨resp, made, slots, records, count, len, -⟩ := @lqiResp_endDevice c frame router
      refine iff_of_true ⟨resp, made, ?_, ?_, ?_, ?_, ?_⟩ (.inl rfl)
      · rw [count]
        decide
      · rw [count, records]
        rfl
      · rw [slots]
        exact List.nil_prefix
      · rw [slots, records]
        exact .nil
      · rw [records]
        exact List.drop_eq_nil_of_le (length_bytes.trans len).le
  | true =>
      have sizes : headersSize = 50 ∧ lqiRespSize = 4 ∧ neighborTableRecordSize = 22 ∧
        zbIoBufSize = 148 ∧ maxAnswer = 113 := by decide
      obtain ⟨headers, respSize, recordSize, bufSize, most⟩ := sizes
      have page := @lqiResp_router c frame router
      rw [pageRecords] at page
      generalize frame.at_ 1 = startIndex at page
      constructor
      · rintro ⟨resp, made, fits, counted, prefix_, own, -⟩
        obtain ⟨none_, -⟩ | ⟨resp', made', -, -, -, count, slots, -, -⟩ := page
        · rw [none_] at made
          cases made
        cases made.symm.trans made'
        rw [headers, respSize, recordSize, bufSize, count] at fits
        have few : left c startIndex ≤ 4 := by omega
        have length := own.length_eq
        rw [← counted, count, List.length_map, slots, List.length_take] at length
        refine .inr ⟨few, by omega, ?_⟩
        by_contra late
        rw [not_or] at late
        obtain ⟨some_, later⟩ := late
        -- the first entry would stand in the list again, behind itself
        have some' : usedSlots c ≠ [] := by
          rw [← List.length_pos_iff]
          omega
        have once : (usedSlots c).Nodup := List.nodup_range.filter _
        rw [slots] at prefix_
        rw [← List.take_append_drop startIndex.toNat (usedSlots c)] at once
        exact List.disjoint_of_nodup_append once
          (first_mem_take some' fun zero => later (UInt8.toNat_inj.1 zero))
          (prefix_.subset (first_mem_take some' (by omega)))
      · rintro (not | ⟨few, enough, begins⟩)
        · cases not
        have size : pageSize (min (left c startIndex) 74) = 4 + left c startIndex * 22 := by
          rw [pageSize, Nat.min_eq_left (by omega), respSize, recordSize, Nat.mod_eq_of_lt (by omega)]
        obtain ⟨-, over_⟩ | ⟨resp, made, -, -, -, count, slots, own, carried⟩ := page
        · omega
        have length : resp.records.length = left c startIndex := by
          rw [own.length_eq, List.length_map, slots, List.length_take]
          omega
        refine ⟨resp, made, ?_, ?_, ?_, own, carried ?_⟩
        · rw [headers, respSize, recordSize, bufSize, count]
          omega
        · rw [length, count]
          omega
        · rw [slots]
          rcases begins with none_ | first
          · rw [none_]
            exact List.nil_prefix
          · rw [first]
            exact List.take_prefix _ _
        · rw [length, size, respSize, recordSize, Nat.mul_comm]

/-- What a page carries is the begin of the used entries. -/
theorem carriedSlots_page {n : Nat} {resp : LqiResp} (page : PageOut c n resp) :
    carriedSlots resp = (usedSlots c).take (carries n) := by
  have less : pageSize n ≤ lqiRespSize + n * neighborTableRecordSize := Nat.mod_le _ _
  have few : carries n ≤ n := Nat.div_le_of_le_mul (by rw [Nat.mul_comm]; omega)
  have behind : pageSize n + 1 - (1 + lqiRespSize) = pageSize n - lqiRespSize := by omega
  rw [carriedSlots, page.slots, page.len, List.take_take, behind]
  exact congrArg (List.take · _) (Nat.min_eq_left few)

/-- A request for a page, of a router. -/
theorem asks_router (frames : UInt8 → LqiRequest) (router : c.routerRole = true) :
    (∃ resp, asks c frames startIndex = some resp ∧ PageOut c (pageRecords c startIndex) resp) ∨
      asks c frames startIndex = none ∧ maxAnswer < pageSize (pageRecords c startIndex) := by
  have page := @lqiResp_router c ((frames startIndex).asking 1 startIndex) router
  rw [asking_at] at page
  exact page.symm

/-- One request more, to a router. -/
theorem fetch_router (frames : UInt8 → LqiRequest) (n : Nat) (router : c.routerRole = true) :
    (¬ GoesOut (pageRecords c startIndex) ∧ fetch (asks c frames) (n + 1) startIndex = none) ∨
      GoesOut (pageRecords c startIndex) ∧ ∃ count : UInt8, count.toNat = pageRecords c startIndex ∧
        fetch (asks c frames) (n + 1) startIndex =
          if (usedSlots c).take (carries (pageRecords c startIndex)) = [] then some []
          else (fetch (asks c frames) n (startIndex + count)).map
            ((usedSlots c).take (carries (pageRecords c startIndex)) ++ ·) := by
  rw [fetch]
  obtain ⟨resp, made, page⟩ | ⟨none_, over_⟩ := @asks_router c startIndex frames router
  · rw [made]
    dsimp only
    rw [carriedSlots_page c page, page.len]
    by_cases counts : lqiRespSize ≤ pageSize (pageRecords c startIndex)
    · rw [if_neg (by omega)]
      exact .inr ⟨⟨counts, page.size⟩, listCount resp, page.count, rfl⟩
    · rw [if_pos (by omega)]
      exact .inl ⟨fun out => counts out.1, rfl⟩
  · rw [none_]
    exact .inl ⟨fun out => absurd out.2 (Nat.not_le.2 over_), rfl⟩

/-- **When the pages list every neighbour once.**  The second page has no record, or begins with the
first entry again. -/
theorem fetch_iff (frames : UInt8 → LqiRequest) (n : Nat) :
    fetch (asks c frames) (n + 2) 0 = some (usedSlots c) ↔
      c.routerRole = false ∧ usedSlots c = [] ∨
        c.routerRole = true ∧ GoesOut (pageRecords c 0) ∧
          (usedSlots c = [] ∨ (usedSlots c).length ≤ carries (pageRecords c 0) ∧
            GoesOut (min (left c 0 - 74) 74) ∧ carries (min (left c 0 - 74) 74) = 0) := by
  cases router : c.routerRole with
  | false =>
      obtain ⟨resp, made, slots, -, -, len, -⟩ :=
        @lqiResp_endDevice c ((frames 0).asking 1 0) router
      have silent : asks c frames 0 = some resp := made
      rw [fetch, silent]
      dsimp only
      rw [carriedSlots, slots, List.take_nil, if_neg (by omega), if_pos rfl, Option.some.injEq]
      constructor
      · exact fun none_ => .inl ⟨rfl, none_.symm⟩
      · rintro (⟨-, none_⟩ | ⟨not, -⟩)
        · exact none_.symm
        · cases not
  | true =>
      have simplified (p : Prop) : (true = false ∧ usedSlots c = [] ∨ true = true ∧ p) ↔ p := by
        simp
      rw [simplified]
      obtain ⟨stays, none_⟩ | ⟨out, count, counted, first⟩ :=
        @fetch_router c 0 frames (n + 1) router
      · rw [none_]
        exact iff_of_false (fun not => by cases not) fun all => stays all.1
      rw [first]
      by_cases empty : (usedSlots c).take (carries (pageRecords c 0)) = []
      · rw [if_pos empty, Option.some.injEq]
        constructor
        · exact fun none_ => ⟨out, .inl none_.symm⟩
        · rintro ⟨-, none_ | ⟨enough, -⟩⟩
          · exact none_.symm
          · rw [← empty, List.take_of_length_le enough]
      rw [if_neg empty]
      have ⟨size, some_⟩ := not_or.1 (mt List.take_eq_nil_iff.2 empty)
      have behind : pageRecords c (0 + count) = min (left c 0 - 74) 74 := by
        rw [UInt8.zero_add, pageRecords, left, counted, pageRecords, left, UInt8.toNat_zero]
        omega
      obtain ⟨stays, none_⟩ | ⟨out', count', -, second⟩ :=
        @fetch_router c (0 + count) frames n router
      · rw [none_]
        rw [behind] at stays
        refine iff_of_false (fun not => by cases not) ?_
        rintro ⟨-, none_ | ⟨-, out', -⟩⟩
        · exact some_ none_
        · exact stays out'
      rw [behind] at out' second
      rw [second]
      by_cases last : carries (min (left c 0 - 74) 74) = 0
      · rw [last, List.take_zero, if_pos rfl, Option.map_some, List.append_nil, Option.some.injEq,
          List.take_eq_self_iff]
        constructor
        · exact fun enough => ⟨out, .inr ⟨enough, out', rfl⟩⟩
        · rintro ⟨-, none_ | ⟨enough, -⟩⟩
          · exact absurd none_ some_
          · exact enough
      · apply iff_of_false
        · intro all
          have again : (usedSlots c).take (carries (min (left c 0 - 74) 74)) ≠ [] := by
            rw [Ne, List.take_eq_nil_iff, not_or]
            exact ⟨last, some_⟩
          rw [if_neg again] at all
          obtain ⟨behind_, second, all⟩ := Option.map_eq_some_iff.1 all
          obtain ⟨rest, -, rfl⟩ := Option.map_eq_some_iff.1 second
          have once : (usedSlots c).Nodup := List.nodup_range.filter _
          rw [← all] at once
          exact List.disjoint_of_nodup_append once (first_mem_take some_ size)
            (List.mem_append_left _ (first_mem_take some_ last))
        · rintro ⟨-, none_ | ⟨-, -, not⟩⟩
          · exact some_ none_
          · exact last not

end Pages

/-- **The pages.** -/
theorem lqi_paging_iff (frames : UInt8 → LqiRequest) (startIndex : UInt8) (n : Nat) :
    ((∃ resp, asks c frames startIndex = some resp ∧ PageRight c startIndex resp) ↔
      c.routerRole = false ∨
        left c startIndex ≤ 4 ∧ left c startIndex ≤ (usedSlots c).length ∧
          (left c startIndex = 0 ∨ startIndex = 0)) ∧
    (fetch (asks c frames) (n + 2) 0 = some (usedSlots c) ↔
      c.routerRole = false ∧ usedSlots c = [] ∨
        c.routerRole = true ∧ GoesOut (pageRecords c 0) ∧
          (usedSlots c = [] ∨ (usedSlots c).length ≤ carries (pageRecords c 0) ∧
            GoesOut (min (left c 0 - 74) 74) ∧ carries (min (left c 0 - 74) 74) = 0)) := by
  have page := @page_right_iff c ((frames startIndex).asking 1 startIndex)
  rw [asking_at] at page
  exact ⟨page, fetch_iff c frames n⟩

/-! ## Poles -/

/-- A router with twelve neighbours. -/
def crowdedRouter : ZdoRxContext :=
  { quietRouter with
    locks :=
      { quietRouter.locks with
        nwk :=
          { quietRouter.locks.nwk with
            neighbor :=
              { quietRouter.locks.nwk.neighbor with
                baseNeighbor i := { newNeighbor i 1 with used := i < 12 }
                baseNeighborUsed := 12 } } } }

/-- A request for the neighbours from the first on. -/
def firstPage : LqiRequest where
  toZdoFrame := fromCoordinator zdoMgmtLqiReqClid [0] (by decide)
  whole := le_refl 2

/-- **The buffer is overrun**: the size of the twelve records is 268, which is 12 in eight bits, and
all of them are written; none of them is carried. -/
theorem page_overruns :
    (∃ resp, asks crowdedRouter (fun _ => firstPage) 0 = some resp ∧
      listCount resp = 12 ∧ resp.slots = List.range 12 ∧ carriedSlots resp = [] ∧
      zbIoBufSize < lqiRespSize + 12 * neighborTableRecordSize ∧
      ¬ PageRight crowdedRouter 0 resp) ∧
    ∀ n, fetch (asks crowdedRouter fun _ => firstPage) (n + 2) 0 ≠
      some (usedSlots crowdedRouter) := by
  have twelve : left crowdedRouter 0 = 12 := by decide +kernel
  have records : pageRecords crowdedRouter 0 = 12 := by rw [pageRecords, twelve]; rfl
  have used : usedSlots crowdedRouter = List.range 12 := by decide +kernel
  have carried : carries 12 = 0 := by decide
  have paging := lqi_paging_iff crowdedRouter (fun _ => firstPage) 0
  rw [twelve, records, used, carried] at paging
  constructor
  · obtain ⟨resp, made, page⟩ | ⟨-, over_⟩ :=
      @asks_router crowdedRouter 0 (fun _ => firstPage) rfl
    · rw [records] at page
      refine ⟨resp, made, UInt8.toNat_inj.1 page.count, ?_, ?_, by decide, fun right => ?_⟩
      · rw [page.slots, used]
        rfl
      · rw [carriedSlots_page _ page, carried, List.take_zero]
      · obtain not | ⟨few, -⟩ := (paging 0).1.1 ⟨resp, made, right⟩
        · cases not
        · omega
    · rw [records] at over_
      exact absurd over_ (by decide)
  · intro n all
    obtain ⟨not, -⟩ | ⟨-, -, none_ | ⟨few, -⟩⟩ := (paging n).2.1 (by rw [used] at all; exact all)
    · cases not
    · cases none_
    · rw [List.length_range] at few
      omega

end Zboss.Zdo.LqiPaging
