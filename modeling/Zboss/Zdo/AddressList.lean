/-
# Zdo.AddressList -- the neighbours in an extended address response

A request for a short or for a long address can ask for the neighbours as well, from a start index
on.  `zdo_device_nwk_addr_res` and `zdo_device_ieee_addr_res` answer it with the same loop, which
goes through the table with a cursor of its own.

* `cursor_spec`: what the loop lists: the run of used entries that the table begins with;
* `nwkAddr_sends` and `ieeeAddr_sends`: the response is in what the handlers send;
* `addr_list_iff`: which responses are right, and when the responses to successive start indices
  list every neighbour once.

Pole: the cursor moves on only behind an entry that has been listed.  At the first hole it stays
for good, and a start index is waited for at the first entry and does not skip any.  The response
says that it starts at 0, whatever was asked for.  And no short address is looked for when a list
is asked for, so that a unicast request for one is answered as if the device were not known.
-/
import Mathlib
import Zboss.Common.Constants
import Zboss.Zdo.RxContext
import Zboss.Zdo.BufferOwner
import Zboss.Theory.LeadingRun

namespace Zboss.Zdo.AddressList

open Zboss.Common.Constants
open Zboss.Common.Types
open Zboss.Common.PacketBuf
open Zboss.Nwk.Neighbor
open Zboss.Nwk.Forget
open Zboss.Theory.ByteMemory
open Zboss.Theory.LeadingRun
open Zboss.Zdo.BodyMemory
open Zboss.Zdo.BufferOwner (ieeeByRef)
open Zboss.Zdo.RxContext
open Zboss.Zdo.SendByShort

set_option autoImplicit false

/-! ## The loop -/

/-- What the loop works with: the entry the cursor is at, the used entries it has found,
`addr_counter`, and the entries it has listed. -/
structure Cursor where
  ent : Nat
  found : Nat
  addrCounter : Nat
  listed : List Nat
  deriving DecidableEq

/-- One turn, at the entry of the cursor and not at the entry of the turn. -/
def cursorStep (used : Nat → Bool) (startIndex : UInt8) (cur : Cursor) : Cursor :=
  if cur.addrCounter = 0 then cur
  else if used cur.ent then
    let cur := { cur with found := cur.found + 1 }
    if cur.found ≥ startIndex.toNat then
      ⟨cur.ent + 1, cur.found, cur.addrCounter - 1, cur.listed ++ [cur.ent]⟩
    else cur
  else cur

/-- The loop, after its first `n` turns. -/
def cursorAfter (used : Nat → Bool) (startIndex : UInt8) (addrCounter n : Nat) : Cursor :=
  (List.range n).foldl (fun cur _ => cursorStep used startIndex cur) ⟨0, 0, addrCounter, []⟩

/-! ## The responses -/

variable (c : ZdoRxContext)

/-- `count`: the places of the table that have been handed out.  A neighbour that is deleted leaves
its place and the number as they are. -/
def count : UInt8 := UInt8.ofNat c.locks.nwk.neighbor.baseNeighborUsed

def usedAt (i : Nat) : Bool := (c.locks.nwk.neighbor.baseNeighbor i).used

/-- The used neighbours, in the order of the table. -/
def usedSlots : List Nat := (List.range zbNeighborTableSize).filter (usedAt c)

/-- `zb_address_short_by_ref` -/
def shortAt (i : Nat) : UInt16 :=
  (c.locks.nwk.addr.addrMap (c.locks.nwk.neighbor.baseNeighbor i).addrRef).addr

/-- The number of short addresses in an extended response, of which `most` find room; `none` when
there are none. -/
def addrCounter (most startIndex : UInt8) : Option UInt8 :=
  let left := count c - startIndex
  if left.toNat * 2 + 70 > zbIoBufSize then some most
  else if left = 0 then none
  else some left

/-- An extended response, with the entries whose addresses it lists; it has room for `room`
addresses. -/
structure AddrListResp where
  ieeeAddr : ZbIeeeAddr
  nwkAddr : UInt16
  numAssocDev : UInt8
  startIndex : UInt8
  room : Nat
  slots : List Nat
  addrs : List UInt16

/-- The response of a request that is `served`; `none` when there is none. -/
def extendedFrom (served : Bool) (most : UInt8) (num : UInt8 → UInt8) (startIndex : UInt8) :
    Option AddrListResp :=
  if served then
    (addrCounter c most startIndex).map fun counter =>
      let slots := (cursorAfter (usedAt c) startIndex counter.toNat zbNeighborTableSize).listed
      ⟨c.extendedAddress, c.shortAddress, num counter, 0, counter.toNat, slots,
        slots.map (shortAt c)⟩
  else none

/-- Status, long and short address. -/
def addrRespSize : Nat := 11

/-- The number of addresses and the start index are behind them. -/
def listSize (resp : AddrListResp) : Nat := addrRespSize + 2 + 2 * resp.room

def addrBytes (status : UInt8) (ieeeAddr : ZbIeeeAddr) (nwkAddr : UInt16) : List UInt8 :=
  status :: (ieeeAddr.toList ++ uint16Bytes nwkAddr)

def listBytes (resp : AddrListResp) : List UInt8 :=
  addrBytes zbZdpStatusSuccess resp.ieeeAddr resp.nwkAddr ++ [resp.numAssocDev, resp.startIndex] ++
    resp.addrs.flatMap uint16Bytes

/-- The extended response, or the buffer is freed. -/
def sendList (clusterid : UInt16) (frame : ZdoFrame) :
    Option AddrListResp → Except ZdoStop (List BufferEnd)
  | some resp => answered clusterid (UInt8.ofNat (listSize resp)) (listBytes resp) frame
  | none => .ok [.freed]

/-! ### The request for a short address -/

section NwkAddr

variable (frame : ZdoFrame)

/-- The long address that is asked for, -/
def nwkReqIeee : ZbIeeeAddr := ieeeAt (frame.begin_ + 1) frame.mem

def nwkReqType : UInt8 := frame.at_ 9

def nwkReqStart : UInt8 := frame.at_ 10

/-- The short address of a neighbour. -/
def neighborShort (ieee : ZbIeeeAddr) (s : NwkContext) : Option UInt16 :=
  ((List.range zbNeighborTableSize).map s.neighbor.baseNeighbor).find? (fun nbe =>
    nbe.used && ieeeByRef nbe.addrRef s == ieee) |>.map fun nbe => (s.addr.addrMap nbe.addrRef).addr

/-- It is looked for when it is all that is asked for. -/
def foundShort : UInt16 :=
  if nwkReqType frame = zbZdoSingleDevResponse then
    if c.extendedAddress = nwkReqIeee frame then c.shortAddress
    else (neighborShort (nwkReqIeee frame) c.locks.nwk).getD zbUnknownShortAddr
  else zbUnknownShortAddr

def zdoNwkAddrStatus : UInt8 :=
  if foundShort c frame = zbUnknownShortAddr ∧ frame.deliveryMode = zbApsDeliveryUnicast then
    zbZdpStatusDeviceNotFound
  else if nwkReqType frame > zbZdoExtendedResponse then zbZdpStatusInvRequesttype
  else zbZdpStatusSuccess

/-- An extended response is made. -/
def nwkServed : Bool :=
  decide (zdoNwkAddrStatus c frame = zbZdpStatusSuccess) &&
    decide (nwkReqType frame = zbZdoExtendedResponse) && c.isParent

/-- The number of neighbours in it is that of the table. -/
def nwkAddrExtended : Option AddrListResp :=
  extendedFrom c (nwkServed c frame) 32 (fun _ => count c) (nwkReqStart frame)

/-- Where nothing has been made, what has come in goes out. -/
def zdoDeviceNwkAddrRes : Except ZdoStop (List BufferEnd) :=
  let status := zdoNwkAddrStatus c frame
  let short (nwkAddr : UInt16) : Except ZdoStop (List BufferEnd) :=
    answered zdoNwkAddrRespClid (UInt8.ofNat addrRespSize)
      (addrBytes status (nwkReqIeee frame) nwkAddr) frame
  if status ≠ zbZdpStatusSuccess then short c.shortAddress
  else if nwkReqType frame = zbZdoSingleDevResponse then short (foundShort c frame)
  else if nwkServed c frame then sendList zdoNwkAddrRespClid frame (nwkAddrExtended c frame)
  else respond (zdoSendRespByShort zdoNwkAddrRespClid frame.tsn frame.srcAddr frame.toBody)

end NwkAddr

/-! ### The request for a long address -/

section IeeeAddr

variable (frame : ZdoFrame)

def ieeeReqType : UInt8 := frame.at_ 3

def ieeeReqStart : UInt8 := frame.at_ 4

/-- An extended response is made. -/
def ieeeServed : Bool :=
  decide (c.shortAddress = frame.nwkAddr) && decide (ieeeReqType frame = zbZdoExtendedResponse) &&
    c.isParent

/-- The number of neighbours in it is that of the addresses there is room for. -/
def ieeeAddrExtended : Option AddrListResp :=
  extendedFrom c (ieeeServed c frame) 29 id (ieeeReqStart frame)

/-- A broadcast for another device is left where it is; where nothing has been made, what has come
in goes out. -/
def zdoDeviceIeeeAddrRes : Except ZdoStop (List BufferEnd) :=
  let short (status : UInt8) : Except ZdoStop (List BufferEnd) :=
    answered zdoIeeeAddrRespClid (UInt8.ofNat addrRespSize)
      (addrBytes status c.extendedAddress frame.nwkAddr) frame
  let back : Except ZdoStop (List BufferEnd) :=
    respond (zdoSendRespByShort zdoIeeeAddrRespClid frame.tsn frame.srcAddr frame.toBody)
  if c.shortAddress ≠ frame.nwkAddr then
    if frame.deliveryMode = zbApsDeliveryUnicast then short zbZdpStatusDeviceNotFound
    else if frame.deliveryMode = zbApsDeliveryBroadcast then .ok []
    else back
  else if ieeeReqType frame > zbZdoExtendedResponse then short zbZdpStatusInvRequesttype
  else if ieeeReqType frame = zbZdoSingleDevResponse then short zbZdpStatusSuccess
  else if ieeeServed c frame then sendList zdoIeeeAddrRespClid frame (ieeeAddrExtended c frame)
  else back

end IeeeAddr

/-- There are two types. -/
theorem extended_of_other {type_ : UInt8} (noSingle : type_ ≠ zbZdoSingleDevResponse)
    (noMore : ¬ type_ > zbZdoExtendedResponse) : type_ = zbZdoExtendedResponse := by
  have single : zbZdoSingleDevResponse = 0 := rfl
  have extended : zbZdoExtendedResponse = 1 := rfl
  rw [single, Ne, ← UInt8.toNat_inj, UInt8.toNat_zero] at noSingle
  rw [extended, gt_iff_lt, UInt8.not_lt, UInt8.le_iff_toNat_le, UInt8.toNat_one] at noMore
  rw [extended, ← UInt8.toNat_inj, UInt8.toNat_one]
  omega

/-! ### What is claimed of the lists -/

/-- A request for the short address of a device and for its neighbours. -/
structure NwkListRequest extends ZdoFrame where
  whole : 11 ≤ len
  extended : nwkReqType toZdoFrame = zbZdoExtendedResponse

/-- A request for the long address of a device and for its neighbours. -/
structure IeeeListRequest extends ZdoFrame where
  whole : 5 ≤ len
  extended : ieeeReqType toZdoFrame = zbZdoExtendedResponse

/-- A device that can have children is asked about itself, -/
def nwkAsks (frame : ZdoFrame) : Prop :=
  c.isParent = true ∧ nwkReqIeee frame = c.extendedAddress

def ieeeAsks (frame : ZdoFrame) : Prop := c.isParent = true ∧ c.shortAddress = frame.nwkAddr

/-- or it is asked about any device, with others. -/
def nwkServes (frame : ZdoFrame) : Prop :=
  c.isParent = true ∧ frame.deliveryMode ≠ zbApsDeliveryUnicast

/-- The same request, from another start index on. -/
def nwkListFrom (frame : NwkListRequest) (startIndex : UInt8) : Option AddrListResp :=
  nwkAddrExtended c (frame.asking 10 startIndex)

def ieeeListFrom (frame : IeeeListRequest) (startIndex : UInt8) : Option AddrListResp :=
  ieeeAddrExtended c (frame.asking 4 startIndex)

/-- The entries listed by the responses to successive start indices: each begins where the one
before has ended. -/
def fetch (ask : UInt8 → Option AddrListResp) : Nat → UInt8 → List Nat
  | 0, _ => []
  | n + 1, startIndex =>
      match ask startIndex with
      | none => []
      | some resp =>
          if resp.slots = [] then []
          else resp.slots ++ fetch ask n (startIndex + UInt8.ofNat resp.slots.length)

/-- What an extended response should be. -/
structure ListRight (startIndex : UInt8) (resp : AddrListResp) : Prop where
  listed : resp.addrs = ((usedSlots c).drop startIndex.toNat).map (shortAt c)
  counted : resp.numAssocDev.toNat = resp.addrs.length
  started : resp.startIndex = startIndex
  whole : resp.room = resp.addrs.length

/-- Each response to a start index is as it should be, and where one is due there is none only when
there is nothing to list. -/
def Lists (made : Option AddrListResp) (due : Prop) (startIndex : UInt8) : Prop :=
  (∀ resp, made = some resp → ListRight c startIndex resp) ∧
    (due → made = none → (usedSlots c).length ≤ startIndex.toNat)

/-- The used entries of the table are its first ones. -/
def compact : Bool := noGap (usedAt c) zbNeighborTableSize

/-! ## What the loop lists -/

section Loop

variable {used : Nat → Bool} {n f : Nat} {startIndex : UInt8} {counter i : Nat}

/-- After `i` turns: the cursor has waited at the first entry for the start index, and gone through
the run of used entries since. -/
structure Walked (f : Nat) (startIndex : UInt8) (counter i : Nat) (cur : Cursor) : Prop where
  listed : cur.listed = List.range cur.ent
  counts : cur.addrCounter + cur.ent = counter
  ent : cur.ent = min (i - (startIndex.toNat - 1)) (min counter f)
  waits : 0 < counter → 0 < f → i ≤ startIndex.toNat - 1 → cur.found = i
  past : 0 < counter → 0 < f → startIndex.toNat - 1 < i → startIndex.toNat ≤ cur.found

theorem walked_step (leads : Leads used n f) {cur : Cursor} (less : i < n)
    (walked : Walked f startIndex counter i cur) :
    Walked f startIndex counter (i + 1) (cursorStep used startIndex cur) := by
  obtain ⟨listed, counts, ent, waits, past⟩ := walked
  rw [cursorStep]
  by_cases full : cur.addrCounter = 0
  · rw [if_pos full]
    exact ⟨listed, counts, by omega, by omega, fun some_ run _ => past some_ run (by omega)⟩
  · rw [if_neg full]
    cases here : used cur.ent with
    | false =>
        -- the cursor is at the end of the run
        have ended : cur.ent = f := by
          by_contra other
          rw [leads.before cur.ent (by omega)] at here
          cases here
        rw [if_neg (by decide)]
        exact ⟨listed, counts, by omega, by omega, fun some_ run _ => past some_ run (by omega)⟩
    | true =>
        have inside : cur.ent < f := by
          by_contra other
          have stuck := leads.stuck (by omega)
          rw [show cur.ent = f by omega, stuck] at here
          cases here
        rw [if_pos rfl]
        dsimp only
        by_cases reached : cur.found + 1 ≥ startIndex.toNat
        · have late : startIndex.toNat - 1 ≤ i := by
            by_contra early
            have := waits (by omega) (by omega) (by omega)
            omega
          rw [if_pos reached]
          refine ⟨?_, by dsimp only; omega, by dsimp only; omega, by omega, fun _ _ _ => reached⟩
          rw [listed, List.range_succ]
        · have early : i < startIndex.toNat - 1 := by
            by_contra late
            rcases Nat.lt_or_ge (startIndex.toNat - 1) i with more | exactly
            · have := past (by omega) (by omega) more
              omega
            · have := waits (by omega) (by omega) exactly
              omega
          rw [if_neg reached]
          refine ⟨listed, counts, by dsimp only; omega, ?_, by omega⟩
          intro some_ run _
          dsimp only
          rw [waits some_ run (by omega)]

theorem walked_cursorAfter (leads : Leads used n f) (within : i ≤ n) :
    Walked f startIndex counter i (cursorAfter used startIndex counter i) := by
  induction i with
  | zero =>
      exact ⟨rfl, rfl, by rw [Nat.zero_sub, Nat.zero_min]; rfl, fun _ _ _ => rfl, by omega⟩
  | succ i ih =>
      rw [cursorAfter, List.range_succ, List.foldl_append]
      exact walked_step leads (by omega) (ih (by omega))

/-- **What the loop lists** is the begin of the run, whatever the start index. -/
theorem cursor_spec (leads : Leads used n f) :
    (cursorAfter used startIndex counter n).listed =
      List.range (min (n - (startIndex.toNat - 1)) (min counter f)) := by
  have walked := @walked_cursorAfter used n f startIndex counter n leads (le_refl n)
  rw [walked.listed, walked.ent]

end Loop

/-! ## The counter -/

section Counter

variable {most startIndex : UInt8}

theorem usedSlots_length_le : (usedSlots c).length ≤ zbNeighborTableSize :=
  (List.length_filter_le _ _).trans_eq List.length_range

/-- There is no response for a start index just behind the places handed out. -/
theorem addrCounter_none_iff : addrCounter c most startIndex = none ↔ startIndex = count c := by
  rw [addrCounter, @eq_comm _ startIndex,
    ← @sub_eq_zero UInt8 _ (count c) startIndex]
  by_cases last : count c - startIndex = 0
  · rw [last]
    exact iff_of_true rfl rfl
  · rw [if_neg last]
    refine iff_of_false (fun none_ => ?_) last
    split at none_ <;> cases none_

/-- Otherwise there is room for the rest of the places, or for `most` where these are too many. -/
theorem addrCounter_spec (other : startIndex ≠ count c) :
    ∃ counter, addrCounter c most startIndex = some counter ∧
      (counter = count c - startIndex ∧ (count c - startIndex).toNat ≤ 39 ∨
        counter = most ∧ 39 < (count c - startIndex).toNat) := by
  have size : zbIoBufSize = 148 := rfl
  rw [addrCounter]
  have some_ : count c - startIndex ≠ 0 := fun zero => other (sub_eq_zero.1 zero).symm
  by_cases many : (count c - startIndex).toNat * 2 + 70 > zbIoBufSize
  · exact ⟨most, if_pos many, .inr ⟨rfl, by omega⟩⟩
  · rw [if_neg many, if_neg some_]
    exact ⟨_, rfl, .inl ⟨rfl, by omega⟩⟩

end Counter

/-! ## Which responses are right -/

section Right

variable {served : Bool} {most startIndex : UInt8} {num : UInt8 → UInt8}

/-- What a response says. -/
theorem extendedFrom_some {resp : AddrListResp}
    (made : extendedFrom c served most num startIndex = some resp) :
    ∃ counter, addrCounter c most startIndex = some counter ∧
      resp.startIndex = 0 ∧ resp.room = counter.toNat ∧ resp.numAssocDev = num counter ∧
      resp.addrs = resp.slots.map (shortAt c) ∧
      resp.slots =
        (cursorAfter (usedAt c) startIndex counter.toNat zbNeighborTableSize).listed := by
  rw [extendedFrom] at made
  cases served with
  | false => cases made
  | true =>
      rw [if_pos rfl] at made
      obtain ⟨counter, taken, is⟩ := Option.map_eq_some_iff.1 made
      generalize slots :
        (cursorAfter (usedAt c) startIndex counter.toNat zbNeighborTableSize).listed = l at is
      subst is
      exact ⟨counter, taken, rfl, rfl, rfl, rfl, slots.symm⟩

theorem extendedFrom_none_iff :
    extendedFrom c true most num startIndex = none ↔ startIndex = count c := by
  rw [extendedFrom, if_pos rfl, Option.map_eq_none_iff, addrCounter_none_iff]

theorem extendedFrom_made (other : startIndex ≠ count c) :
    ∃ resp, extendedFrom c true most num startIndex = some resp :=
  Option.ne_none_iff_exists'.1 (mt (extendedFrom_none_iff c).1 other)

/-- From index 0 on the run is listed, as far as there is room. -/
theorem first_slots {resp : AddrListResp} {f : Nat} (leads : Leads (usedAt c) zbNeighborTableSize f)
    (made : extendedFrom c served most num 0 = some resp) :
    ∃ counter, resp.slots = List.range (min counter.toNat f) ∧ resp.room = counter.toNat ∧
      resp.numAssocDev = num counter ∧
      (counter = count c ∧ (count c).toNat ≤ 39 ∧ count c ≠ 0 ∨
        counter = most ∧ 39 < (count c).toNat) := by
  obtain ⟨counter, taken, -, room, numAssocDev, -, slots⟩ := extendedFrom_some c made
  have within := leads.within
  have start : (0 : UInt8).toNat = 0 := rfl
  have some_ : (0 : UInt8) ≠ count c := by
    intro none_
    rw [(addrCounter_none_iff c).2 none_] at taken
    cases taken
  obtain ⟨counter', taken', kinds⟩ := @addrCounter_spec c most 0 some_
  cases taken.symm.trans taken'
  rw [sub_zero] at kinds
  refine ⟨counter, ?_, room, numAssocDev, ?_⟩
  · rw [slots, cursor_spec leads]
    congr 1
    omega
  · rcases kinds with ⟨is, few⟩ | many
    · exact .inl ⟨is, few, some_.symm⟩
    · exact .inr many

theorem lists_none {made : Option AddrListResp} {due : Prop} (none_ : made = none) :
    Lists c made due startIndex ↔ (due → (usedSlots c).length ≤ startIndex.toNat) := by
  rw [Lists, none_]
  constructor
  · exact fun lists asked => lists.2 asked rfl
  · exact fun few => ⟨fun resp made => (Option.some_ne_none resp made.symm).elim,
      fun asked _ => few asked⟩

theorem lists_some {made : Option AddrListResp} {due : Prop} {resp : AddrListResp}
    (some_ : made = some resp) : Lists c made due startIndex ↔ ListRight c startIndex resp := by
  rw [Lists, some_]
  constructor
  · exact fun lists => lists.1 resp rfl
  · intro right
    refine ⟨fun resp' made' => ?_, fun _ none_ => (Option.some_ne_none resp none_).elim⟩
    cases made'
    exact right

/-- **The response to index 0** is right iff the run is all there is, and the numbers are its
length. -/
theorem first_right_iff {resp : AddrListResp}
    (made : extendedFrom c served most num 0 = some resp) :
    ∃ counter, (counter = count c ∧ (count c).toNat ≤ 39 ∧ count c ≠ 0 ∨
        counter = most ∧ 39 < (count c).toNat) ∧
      (ListRight c 0 resp ↔ compact c = true ∧
        (num counter).toNat = (usedSlots c).length ∧ counter.toNat = (usedSlots c).length) := by
  obtain ⟨f, leads⟩ := exists_leads (usedAt c) zbNeighborTableSize
  have run : f ≤ (usedSlots c).length := le_length_filter leads
  have whole : (usedSlots c).length = f ↔ compact c = true := length_filter_eq_iff leads
  obtain ⟨-, -, started, -, -, listed, -⟩ := extendedFrom_some c made
  obtain ⟨counter, slots, room, numAssocDev, kinds⟩ := first_slots c leads made
  have none_skipped : (usedSlots c).drop (0 : UInt8).toNat = usedSlots c := List.drop_zero
  have addrs : resp.addrs = (List.range (min counter.toNat f)).map (shortAt c) := by
    rw [listed, slots]
  have length : resp.addrs.length = min counter.toNat f := by
    rw [addrs, List.length_map, List.length_range]
  refine ⟨counter, kinds, ?_⟩
  constructor
  · rintro ⟨all, counted, -, roomy⟩
    rw [none_skipped] at all
    have lengths := congrArg List.length all
    rw [length, List.length_map] at lengths
    rw [numAssocDev, length, lengths] at counted
    rw [room, length, lengths] at roomy
    exact ⟨whole.1 (by omega), counted, roomy⟩
  · rintro ⟨closed, counted, roomy⟩
    have range : usedSlots c = List.range f := filter_range_of_noGap leads closed
    have size := whole.2 closed
    have all : min counter.toNat f = f := by omega
    refine ⟨by rw [addrs, none_skipped, range, all], ?_, started, ?_⟩
    · rw [numAssocDev, counted, length, all, size]
    · rw [room, roomy, length, all, size]

/-- **Which responses are right**: `rightCount` says when the numbers are. -/
theorem lists_iff {rightCount due : Prop}
    (numbers : ∀ counter, (counter = count c ∧ (count c).toNat ≤ 39 ∧ count c ≠ 0 ∨
        counter = most ∧ 39 < (count c).toNat) →
      (((num counter).toNat = (usedSlots c).length ∧ counter.toNat = (usedSlots c).length) ↔
        rightCount)) (zero : count c = 0 → rightCount → usedSlots c = []) :
    Lists c (extendedFrom c served most num startIndex) due startIndex ↔
      served = true ∧ startIndex = 0 ∧ compact c = true ∧ rightCount ∨
        (served = false ∨ startIndex = count c) ∧
          (due → (usedSlots c).length ≤ startIndex.toNat) := by
  cases served with
  | false =>
      have silent : extendedFrom c false most num startIndex = none := rfl
      rw [lists_none c silent]
      constructor
      · exact fun few => .inr ⟨.inl rfl, few⟩
      · rintro (⟨not, -⟩ | ⟨-, few⟩)
        · cases not
        · exact few
  | true =>
      by_cases last : startIndex = count c
      · rw [lists_none c ((extendedFrom_none_iff c).2 last)]
        constructor
        · exact fun few => .inr ⟨.inr last, few⟩
        · rintro (⟨-, first, -, counts⟩ | ⟨-, few⟩) asked
          · rw [zero (last.symm.trans first) counts]
            exact Nat.zero_le _
          · exact few asked
      obtain ⟨resp, made⟩ := @extendedFrom_made c most startIndex num last
      obtain ⟨-, -, started, -⟩ := extendedFrom_some c made
      have noOther : ¬ ((true = false ∨ startIndex = count c) ∧
          (due → (usedSlots c).length ≤ startIndex.toNat)) := by
        rintro ⟨not | not, -⟩
        · cases not
        · exact last not
      rw [lists_some c made, or_iff_left noOther]
      by_cases first : startIndex = 0
      · subst first
        obtain ⟨counter, kinds, right⟩ := first_right_iff c made
        rw [right, numbers counter kinds]
        constructor
        · exact fun both => ⟨rfl, rfl, both⟩
        · exact fun all => all.2.2
      · constructor
        · exact fun right => absurd (right.started.symm.trans started) first
        · exact fun not => absurd not.2.1 first

/-- The response to an index behind the begin starts with the first entry again. -/
theorem again_listed {resp : AddrListResp} {f : Nat}
    (leads : Leads (usedAt c) zbNeighborTableSize f) (some_ : 0 < f) (room : 0 < most.toNat)
    (made : extendedFrom c served most num startIndex = some resp)
    (inside : startIndex.toNat ≤ zbNeighborTableSize) : 0 ∈ resp.slots := by
  have size : zbNeighborTableSize = 32 := rfl
  obtain ⟨counter, taken, -, -, -, -, slots⟩ := extendedFrom_some c made
  have other : startIndex ≠ count c := by
    intro last
    rw [(addrCounter_none_iff c).2 last] at taken
    cases taken
  obtain ⟨counter', taken', kinds⟩ := @addrCounter_spec c most startIndex other
  cases taken.symm.trans taken'
  have counted : counter.toNat ≠ 0 := by
    rcases kinds with ⟨rfl, -⟩ | ⟨rfl, -⟩
    · exact fun zero => other (sub_eq_zero.1 (UInt8.toNat_inj.1 zero)).symm
    · omega
  rw [slots, cursor_spec leads, List.mem_range]
  omega

/-- **Successive responses** list the neighbours once iff the first response lists them all: the one
after it begins again with the first entry. -/
theorem fetch_iff (room : zbNeighborTableSize ≤ most.toNat + 3) (n : Nat) :
    fetch (extendedFrom c served most num) (n + 2) 0 = usedSlots c ↔
      usedSlots c = [] ∨
        served = true ∧ compact c = true ∧ (count c).toNat = (usedSlots c).length := by
  obtain ⟨f, leads⟩ := exists_leads (usedAt c) zbNeighborTableSize
  have few := usedSlots_length_le c
  have size : zbNeighborTableSize = 32 := rfl
  have within := leads.within
  have run : f ≤ (usedSlots c).length := le_length_filter leads
  have whole : (usedSlots c).length = f ↔ compact c = true := length_filter_eq_iff leads
  have once : (usedSlots c).Nodup := List.nodup_range.filter _
  cases served with
  | false =>
      have silent : extendedFrom c false most num 0 = none := rfl
      rw [fetch, silent]
      constructor
      · exact fun all => .inl all.symm
      · rintro (empty | ⟨not, -⟩)
        · exact empty.symm
        · cases not
  | true =>
      by_cases none_ : (0 : UInt8) = count c
      · -- no places: no response
        rw [fetch, (extendedFrom_none_iff c).2 none_]
        constructor
        · exact fun all => .inl all.symm
        · rintro (empty | ⟨-, -, counted⟩)
          · exact empty.symm
          · rw [← none_] at counted
            exact (List.length_eq_zero_iff.1 counted.symm).symm
      obtain ⟨resp, made⟩ := @extendedFrom_made c most 0 num none_
      obtain ⟨counter, slots, -, -, kinds⟩ := first_slots c leads made
      have counted : counter.toNat ≠ 0 := by
        rcases kinds with ⟨rfl, -⟩ | ⟨rfl, -⟩
        · exact fun zero => none_ (UInt8.toNat_inj.1 zero).symm
        · omega
      rw [fetch, made]
      dsimp only
      rw [slots]
      by_cases stopped : f = 0
      · rw [stopped, Nat.min_zero, List.range_zero, if_pos rfl]
        constructor
        · exact fun all => .inl all.symm
        · rintro (empty | ⟨-, closed, -⟩)
          · exact empty.symm
          · exact (List.length_eq_zero_iff.1 ((whole.2 closed).trans stopped)).symm
      · rw [if_neg (by rw [List.range_eq_nil]; omega), List.length_range, UInt8.zero_add]
        have next : (UInt8.ofNat (min counter.toNat f)).toNat = min counter.toNat f := by
          rw [UInt8.toNat_ofNat', Nat.mod_eq_of_lt (by omega)]
        by_cases last : UInt8.ofNat (min counter.toNat f) = count c
        · -- one response has been all
          rw [fetch, (extendedFrom_none_iff c).2 last, List.append_nil, ← last, next]
          constructor
          · intro all
            have lengths := congrArg List.length all
            rw [List.length_range] at lengths
            exact .inr ⟨rfl, whole.1 (by omega), lengths⟩
          · rintro (empty | ⟨-, closed, counts⟩)
            · rw [empty, List.length_nil] at run
              omega
            · rw [counts, whole.2 closed]
              exact (filter_range_of_noGap leads closed).symm
        · obtain ⟨resp', made'⟩ := @extendedFrom_made c most _ num last
          have again := again_listed c leads (by omega) (by omega) made' (by omega)
          apply iff_of_false
          · intro all
            rw [← all, fetch, made'] at once
            dsimp only at once
            rw [if_neg (List.ne_nil_of_mem again)] at once
            exact List.disjoint_of_nodup_append once (List.mem_range.2 (by omega))
              (List.mem_append_left _ again)
          · rintro (empty | ⟨-, closed, counts⟩)
            · rw [empty, List.length_nil] at run
              omega
            · apply last
              apply UInt8.toNat_inj.1
              have := whole.2 closed
              rcases kinds with ⟨rfl, -⟩ | ⟨-, many⟩
              · omega
              · omega

end Right

/-! ## The two responses -/

section Sent

variable {c : ZdoRxContext} {frame : ZdoFrame} {resp : AddrListResp}

theorem length_listBytes : (listBytes resp).length = 13 + 2 * resp.addrs.length := by
  simp only [listBytes, addrBytes, List.length_append, List.length_cons, Vector.length_toList,
    length_uint16Bytes, length_flatMap_bytes, List.length_nil]

/-- A list has a size that can be answered with, and is no longer than that. -/
theorem listSize_fits {served : Bool} {most startIndex : UInt8} {num : UInt8 → UInt8}
    (few : most.toNat ≤ 39) (made : extendedFrom c served most num startIndex = some resp) :
    (listBytes resp).length ≤ listSize resp ∧ listSize resp ≤ maxAnswer := by
  have answerRoom : maxAnswer = 113 := rfl
  have respSize : addrRespSize = 11 := rfl
  obtain ⟨counter, taken, -, room, -, addrs, slots⟩ := extendedFrom_some c made
  obtain ⟨f, leads⟩ := exists_leads (usedAt c) zbNeighborTableSize
  have other : startIndex ≠ count c := by
    intro last
    rw [(addrCounter_none_iff c).2 last] at taken
    cases taken
  obtain ⟨counter', taken', kinds⟩ := @addrCounter_spec c most startIndex other
  cases taken.symm.trans taken'
  have small : counter.toNat ≤ 39 := by
    rcases kinds with ⟨rfl, small⟩ | ⟨rfl, -⟩
    · exact small
    · exact few
  have listed : resp.addrs.length ≤ counter.toNat := by
    rw [addrs, List.length_map, slots, cursor_spec leads, List.length_range]
    omega
  rw [length_listBytes, listSize, respSize, room]
  omega

/-- A list of addresses goes out, in the order they are listed in. -/
theorem sendList_sends {clusterid : UInt16} {served : Bool} {most startIndex : UInt8}
    {num : UInt8 → UInt8} (few : most.toNat ≤ 39)
    (made : extendedFrom c served most num startIndex = some resp) :
    ∃ packet rest, sendList clusterid frame (some resp) = .ok [.responded packet] ∧
      packet.clusterid = clusterid ∧ packet.dstAddr = frame.srcAddr ∧
      packet.bytes = frame.tsn :: (listBytes resp ++ rest) := by
  have bufSize : zbIoBufSize = 148 := rfl
  have answerRoom : maxAnswer = 113 := rfl
  obtain ⟨length, small⟩ := listSize_fits few made
  have size : (UInt8.ofNat (listSize resp)).toNat = listSize resp := by
    rw [UInt8.toNat_ofNat', Nat.mod_eq_of_lt (by omega)]
  have fits : (UInt8.ofNat (listSize resp)).toNat ≤ maxAnswer := by omega
  have params := @sent_params clusterid frame.srcAddr frame.tsn
    (answerBody (UInt8.ofNat (listSize resp)) (listBytes resp) frame.toBody)
    (show 1 ≤ (zbIoBufSize - (UInt8.ofNat (listSize resp)).toNat) / 2 by omega)
    (answerBody_room.2 fits)
  obtain ⟨rest, bytes⟩ := @answer_bytes clusterid frame.srcAddr frame.tsn
    (UInt8.ofNat (listSize resp)) (listBytes resp) frame.toBody fits (by omega)
  exact ⟨_, rest, answered_ok fits, params.2, params.1, bytes⟩

/-- **The response to a request for a short address** is sent as it has been made, -/
theorem nwkAddr_sends (made : nwkAddrExtended c frame = some resp) :
    ∃ packet rest, zdoDeviceNwkAddrRes c frame = .ok [.responded packet] ∧
      packet.clusterid = zdoNwkAddrRespClid ∧ packet.dstAddr = frame.srcAddr ∧
      packet.bytes = frame.tsn :: (listBytes resp ++ rest) := by
  have served : nwkServed c frame = true := by
    by_contra not
    rw [nwkAddrExtended, Bool.eq_false_iff.2 not] at made
    cases made
  have sends := @sendList_sends c frame resp zdoNwkAddrRespClid _ _ _ _ (by decide) made
  have parts := served
  rw [nwkServed, Bool.and_eq_true, Bool.and_eq_true, decide_eq_true_eq, decide_eq_true_eq] at parts
  have noSingle : nwkReqType frame ≠ zbZdoSingleDevResponse := by
    rw [parts.1.2]
    decide
  rw [zdoDeviceNwkAddrRes]
  dsimp only
  rw [if_neg (not_not.2 parts.1.1), if_neg noSingle, if_pos served, made]
  exact sends

/-- and so is that to one for a long address. -/
theorem ieeeAddr_sends (made : ieeeAddrExtended c frame = some resp) :
    ∃ packet rest, zdoDeviceIeeeAddrRes c frame = .ok [.responded packet] ∧
      packet.clusterid = zdoIeeeAddrRespClid ∧ packet.dstAddr = frame.srcAddr ∧
      packet.bytes = frame.tsn :: (listBytes resp ++ rest) := by
  have served : ieeeServed c frame = true := by
    by_contra not
    rw [ieeeAddrExtended, Bool.eq_false_iff.2 not] at made
    cases made
  have sends := @sendList_sends c frame resp zdoIeeeAddrRespClid _ _ _ _ (by decide) made
  have parts := served
  rw [ieeeServed, Bool.and_eq_true, Bool.and_eq_true, decide_eq_true_eq, decide_eq_true_eq] at parts
  have noSingle : ieeeReqType frame ≠ zbZdoSingleDevResponse := by
    rw [parts.1.2]
    decide
  have noMore : ¬ ieeeReqType frame > zbZdoExtendedResponse := by
    rw [parts.1.2]
    decide
  rw [zdoDeviceIeeeAddrRes]
  dsimp only
  rw [if_neg (not_not.2 parts.1.1), if_neg noMore, if_neg noSingle, if_pos served, made]
  exact sends

/-- A list is given to a request that has come to others too, -/
theorem nwkServed_iff (extended : nwkReqType frame = zbZdoExtendedResponse) :
    nwkServed c frame = true ↔ nwkServes c frame := by
  have noSingle : zbZdoExtendedResponse ≠ zbZdoSingleDevResponse := by decide
  have noMore : ¬ zbZdoExtendedResponse > zbZdoExtendedResponse := by decide
  have wrong : zbZdpStatusDeviceNotFound ≠ zbZdpStatusSuccess := by decide
  have found : foundShort c frame = zbUnknownShortAddr := by
    rw [foundShort, extended, if_neg noSingle]
  rw [nwkServed, zdoNwkAddrStatus, found, extended, if_neg noMore, Bool.and_eq_true,
    Bool.and_eq_true, decide_eq_true_eq, decide_eq_true_eq, nwkServes, and_comm]
  refine and_congr_right fun _ => (and_iff_left rfl).trans ?_
  by_cases unicast : frame.deliveryMode = zbApsDeliveryUnicast
  · rw [if_pos ⟨rfl, unicast⟩]
    exact iff_of_false wrong (not_not.2 unicast)
  · rw [if_neg fun both => unicast both.2]
    exact iff_of_true rfl unicast

/-- and to one for this device. -/
theorem ieeeServed_iff (extended : ieeeReqType frame = zbZdoExtendedResponse) :
    ieeeServed c frame = true ↔ ieeeAsks c frame := by
  rw [ieeeServed, extended, Bool.and_eq_true, Bool.and_eq_true, decide_eq_true_eq,
    decide_eq_true_eq, ieeeAsks, and_comm]
  exact and_congr_right fun _ => and_iff_left rfl

end Sent

/-! ## All lists -/

/-- From another start index on the request is the same. -/
theorem nwkListFrom_eq (nwk : NwkListRequest) (startIndex : UInt8) :
    nwkListFrom c nwk startIndex =
      extendedFrom c (nwkServed c nwk.toZdoFrame) 32 (fun _ => count c) startIndex := by
  have received := nwk.received
  have whole := nwk.whole
  have size : apsdeDataIndicationSize.toNat = 14 := rfl
  have bufSize : zbIoBufSize = 148 := rfl
  have same {a : Nat} (other : a ≠ nwk.begin_ + 10) : (nwk.asking 10 startIndex).mem a = nwk.mem a :=
    asking_other other
  have extended : nwkReqType (nwk.asking 10 startIndex) = zbZdoExtendedResponse :=
    (same (a := nwk.begin_ + 9) (by omega)).trans nwk.extended
  have mode : (nwk.asking 10 startIndex).deliveryMode = nwk.deliveryMode := by
    rw [ZdoFrame.deliveryMode, ZdoFrame.fc, same (by rw [indicationAt]; omega)]
    rfl
  have served : nwkServed c (nwk.asking 10 startIndex) = nwkServed c nwk.toZdoFrame := by
    rw [Bool.eq_iff_iff, nwkServed_iff extended, nwkServed_iff nwk.extended, nwkServes, mode,
      nwkServes]
  rw [nwkListFrom, nwkAddrExtended, served, nwkReqStart, asking_at]

theorem ieeeListFrom_eq (ieee : IeeeListRequest) (startIndex : UInt8) :
    ieeeListFrom c ieee startIndex =
      extendedFrom c (ieeeServed c ieee.toZdoFrame) 29 id startIndex := by
  have same {a : Nat} (other : a ≠ ieee.begin_ + 4) : (ieee.asking 4 startIndex).mem a = ieee.mem a :=
    asking_other other
  have extended : ieeeReqType (ieee.asking 4 startIndex) = zbZdoExtendedResponse :=
    (same (a := ieee.begin_ + 3) (by omega)).trans ieee.extended
  have nwkAddr : (ieee.asking 4 startIndex).nwkAddr = ieee.nwkAddr := by
    show word (ieee.asking 4 startIndex).mem (ieee.begin_ + 1) = word ieee.mem (ieee.begin_ + 1)
    rw [word, word, same (by omega), same (by omega)]
  have served : ieeeServed c (ieee.asking 4 startIndex) = ieeeServed c ieee.toZdoFrame := by
    rw [Bool.eq_iff_iff, ieeeServed_iff extended, ieeeServed_iff ieee.extended, ieeeAsks, nwkAddr,
      ieeeAsks]
  rw [ieeeListFrom, ieeeAddrExtended, served, ieeeReqStart, asking_at]

/-- **The lists of neighbours**: those of one response, and those of successive ones. -/
theorem addr_list_iff (nwk : NwkListRequest) (ieee : IeeeListRequest) (startIndex : UInt8) (n : Nat) :
    (Lists c (nwkListFrom c nwk startIndex) (nwkAsks c nwk.toZdoFrame) startIndex ↔
        nwkServes c nwk.toZdoFrame ∧ startIndex = 0 ∧ compact c = true ∧
            (count c).toNat = (usedSlots c).length ∨
          (¬ nwkServes c nwk.toZdoFrame ∨ startIndex = count c) ∧
            (nwkAsks c nwk.toZdoFrame → (usedSlots c).length ≤ startIndex.toNat)) ∧
      (Lists c (ieeeListFrom c ieee startIndex) (ieeeAsks c ieee.toZdoFrame) startIndex ↔
        ieeeAsks c ieee.toZdoFrame ∧ startIndex = 0 ∧ compact c = true ∧
            ((count c).toNat = (usedSlots c).length ∨
              39 < (count c).toNat ∧ (usedSlots c).length = 29) ∨
          (¬ ieeeAsks c ieee.toZdoFrame ∨ startIndex = count c) ∧
            (ieeeAsks c ieee.toZdoFrame → (usedSlots c).length ≤ startIndex.toNat)) ∧
      (fetch (nwkListFrom c nwk) (n + 2) 0 = usedSlots c ↔
        usedSlots c = [] ∨
          nwkServes c nwk.toZdoFrame ∧ compact c = true ∧
            (count c).toNat = (usedSlots c).length) ∧
      (fetch (ieeeListFrom c ieee) (n + 2) 0 = usedSlots c ↔
        usedSlots c = [] ∨
          ieeeAsks c ieee.toZdoFrame ∧ compact c = true ∧
            (count c).toNat = (usedSlots c).length) := by
  have few := usedSlots_length_le c
  have size : zbNeighborTableSize = 32 := rfl
  have zero (none_ : count c = 0) : (count c).toNat = 0 := by
    rw [none_]
    rfl
  rw [← nwkServed_iff nwk.extended, ← ieeeServed_iff ieee.extended, Bool.not_eq_true,
    Bool.not_eq_true, funext (nwkListFrom_eq c nwk), funext (ieeeListFrom_eq c ieee)]
  refine ⟨lists_iff c ?_ ?_, lists_iff c ?_ ?_, fetch_iff c (by decide) n, fetch_iff c (by decide) n⟩
  · rintro counter (⟨rfl, -, -⟩ | ⟨rfl, many⟩)
    · rw [and_self]
    · have : (32 : UInt8).toNat = 32 := rfl
      omega
  · exact fun none_ counts => List.length_eq_zero_iff.1 (counts.symm.trans (zero none_))
  · rintro counter (⟨rfl, small, -⟩ | ⟨rfl, many⟩)
    · rw [id, and_self]
      omega
    · have : (29 : UInt8).toNat = 29 := rfl
      rw [id]
      omega
  · rintro none_ (counts | ⟨many, -⟩)
    · exact List.length_eq_zero_iff.1 (counts.symm.trans (zero none_))
    · rw [zero none_] at many
      omega

/-! ## Poles -/

/-- A router with three neighbours, of which the second has been deleted. -/
def holedRouter : ZdoRxContext :=
  { quietRouter with
    locks :=
      { quietRouter.locks with
        nwk :=
          { quietRouter.locks.nwk with
            addr :=
              { quietRouter.locks.nwk.addr with
                addrMap ref :=
                  { quietRouter.locks.nwk.addr.addrMap ref with addr := UInt16.ofNat (ref + 16) } }
            neighbor :=
              { quietRouter.locks.nwk.neighbor with
                baseNeighbor i := { newNeighbor i 1 with used := i == 0 || i == 2 }
                baseNeighborUsed := 3 } } } }

/-- A request for the long address, with the neighbours from the first on. -/
def listRequest : IeeeListRequest where
  toZdoFrame := fromCoordinator zdoIeeeAddrReqClid [1, 0, 1, 0] (by decide)
  whole := le_refl 5
  extended := rfl

/-- The neighbour behind the hole is not listed, though there is room for it. -/
theorem list_ends_at_hole :
    ∃ resp, ieeeListFrom holedRouter listRequest 0 = some resp ∧
      usedSlots holedRouter = [0, 2] ∧ resp.slots = [0] ∧ resp.numAssocDev = 3 ∧
      ¬ ListRight holedRouter 0 resp ∧
      ∀ n, fetch (ieeeListFrom holedRouter listRequest) (n + 2) 0 ≠ usedSlots holedRouter := by
  have used : usedSlots holedRouter = [0, 2] := by decide +kernel
  have holed : compact holedRouter = false := by decide +kernel
  have served : ieeeServed holedRouter listRequest.toZdoFrame = true := by decide +kernel
  have made := ieeeListFrom_eq holedRouter listRequest 0
  rw [served] at made
  rw [made]
  refine ⟨_, rfl, used, by decide +kernel, by decide +kernel, ?_, ?_⟩
  · intro right
    have counted := right.counted
    revert counted
    decide +kernel
  · intro n all
    have asks : ieeeListFrom holedRouter listRequest = extendedFrom holedRouter true 29 id := by
      funext startIndex
      rw [ieeeListFrom_eq, served]
    rw [asks] at all
    rcases (@fetch_iff holedRouter true 29 id (by decide) n).1 all with empty | ⟨-, closed, -⟩
    · rw [used] at empty
      cases empty
    · rw [holed] at closed
      cases closed

end Zboss.Zdo.AddressList
