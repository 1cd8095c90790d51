/-
# Nwk.Relay -- a router's table of broadcasts, run by run

A broadcast frame enters the table when it is forwarded, is copied by
`nwk_broadcast_transmition`, loses a mark for every copy of it that is overheard, and
leaves the table for its confirm.  `heard` and `sent` are kept beside an entry since it
was made: the neighbours that were overheard relaying the frame, and the copies made of
it, to a child or to all.  The source address that is written into a copy is not
modelled: only that of the frames in the table is read.

The check that the frame has not been processed already is not part of this, nor are
networks of the other profile (`joined_pro`), where copies are not counted.
-/
import Mathlib
import Zboss.Theory.Run
import Zboss.Nwk.Broadcast

namespace Zboss.Nwk.Relay

open Zboss.Common.Types
open Zboss.Common.Scheduler
open Zboss.Common.Address
open Zboss.Nwk.Neighbor
open Zboss.Nwk.Broadcast

set_option autoImplicit false

structure RelayState where
  brr : ZbNwkBrrt
  /-- The sequence numbers in the entries. -/
  seqNum : Nat → UInt8
  /-- The source addresses in the network headers of the buffers. -/
  nwkSrcAddr : UInt8 → UInt16
  /-- The buffers whose confirm is to come; the helpers have a handle of their own. -/
  unconfirmed : List (UInt8 × Bool)
  heard : Nat → List Nat
  sent : Nat → List (Option Nat)

def RelayState.init : RelayState where
  brr :=
    { brrt _ :=
        { used := false, retries := 0, buf := 0, neighborTableIterator := some 0
          nextRetransmit := 0, srcAddr := 0, dstAddr := 0, passiveAck := 0 }
      brrtCnt := 0 }
  seqNum _ := 0
  nwkSrcAddr _ := 0
  unconfirmed := []
  heard _ := []
  sent _ := []

/-- What the callback reads, at a time. -/
def RelayState.env (s : RelayState) (env : NwkEnv) (timer : ZbTime) : NwkEnv :=
  { env with timer := timer, nwkSrcAddr := s.nwkSrcAddr }

/-! ## A frame enters -/

/-- The entry of a frame that is forwarded; the time stays what it was. -/
def newEnt (env : NwkEnv) (buf : UInt8) (srcAddr dstAddr : UInt16)
    (old : ZbNwkBroadcastRetransmit) : ZbNwkBroadcastRetransmit where
  used := true
  retries := 0
  buf := buf
  neighborTableIterator := zbNwkNeighborNextZeChildrenI env dstAddr 0
  nextRetransmit := old.nextRetransmit
  srcAddr := srcAddr
  dstAddr := dstAddr
  passiveAck := 0

/-- `zb_nwk_forward` of a broadcast frame: it is dropped when the table is full. -/
def zbNwkForward (env : NwkEnv) (buf : UInt8) (srcAddr dstAddr : UInt16) (seqNum : UInt8)
    (s : RelayState) : Option RelayState :=
  if s.brr.brrtCnt.toNat < zbNwkBrrTableSize then
    ((List.range zbNwkBrrTableSize).find? fun i => !(s.brr.brrt i).used).map fun i =>
      { s with
        brr :=
          { s.brr.setEnt i (newEnt env buf srcAddr dstAddr (s.brr.brrt i)) with
            brrtCnt := s.brr.brrtCnt + 1 }
        seqNum := Function.update s.seqNum i seqNum
        nwkSrcAddr := Function.update s.nwkSrcAddr buf srcAddr
        heard := Function.update s.heard i []
        sent := Function.update s.sent i [] }
  else some s

/-! ## A copy is overheard -/

/-- The place of the neighbour with a short address. -/
def zbNwkNeighborGetByShort (env : NwkEnv) (addr : UInt16) : Option Nat :=
  match zbAddressByShort addr false false env.addr with
  | some (_, .ok ref) =>
      let n := env.neighbor.addrToNeighbor ref
      if n ≠ 255 then some n.toNat else none
  | _ => none

/-- All neighbours that should have the frame have it, by the count of the marks. -/
def allAcked (env : NwkEnv) (ent : ZbNwkBroadcastRetransmit) : Bool :=
  let num := passiveAckDevNum env
  let acks := magicBitcount8 ent.passiveAck
  (acks == num && ent.srcAddr == env.pibShortAddress) ||
    (num != 0 && acks == num - 1 && ent.srcAddr != env.pibShortAddress)

/-- The entry of a frame, by its source and sequence number. -/
def findEnt (s : RelayState) (srcAddr : UInt16) (seqNum : UInt8) : Option Nat :=
  (List.range zbNwkBrrTableSize).find? fun i =>
    (s.brr.brrt i).used && (s.brr.brrt i).srcAddr == srcAddr && s.seqNum i == seqNum

/-- The neighbour is noted with every entry of the frame. -/
def noteHeard (n : Nat) (srcAddr : UInt16) (seqNum : UInt8) (s : RelayState) : Nat → List Nat :=
  fun i =>
    if (s.brr.brrt i).used ∧ (s.brr.brrt i).srcAddr = srcAddr ∧ s.seqNum i = seqNum then
      n :: s.heard i
    else s.heard i

section Calls

variable (spill : Nat → Nat → ZbNwkBrrt → ZbNwkBrrt)

/-- Mark the neighbour `n` in the entry `i`; the frame is not repeated once all
neighbours that should have it have it. -/
def markAcked (env : NwkEnv) (i n : Nat) (s : RelayState) : RelayState :=
  let brr := setPassiveAck spill i n s.brr
  let ent := brr.brrt i
  if allAcked env ent then
    { s with
      brr := { brr.setEnt i { ent with used := false } with brrtCnt := brr.brrtCnt - 1 }
      unconfirmed := s.unconfirmed ++ [(ent.buf, false)] }
  else { s with brr := brr }

/-- The part of `zb_mcps_data_indication` that counts a copy of a broadcast; `macSrc` is
the short source address in its MAC header, when it has one. -/
def zbMcpsDataIndication (env : NwkEnv) (macSrc : Option UInt16) (srcAddr : UInt16)
    (seqNum : UInt8) (s : RelayState) : RelayState :=
  match macSrc.bind (zbNwkNeighborGetByShort env) with
  | none => s
  | some n =>
      let noted := { s with heard := noteHeard n srcAddr seqNum s }
      match findEnt s srcAddr seqNum with
      | none => noted
      | some i => markAcked spill env i n noted

/-! ## A frame is repeated -/

/-- The buffers given to the MAC; a copy is given the handle of the helpers. -/
def submitted (calls : List StackCall) : List (UInt8 × Bool) :=
  calls.filterMap fun call =>
    match call with
    | .schedule .zbMcpsDataRequest buf =>
        some (buf, calls.any fun c =>
          match c with
          | .copy dst _ => dst == buf
          | _ => false)
    | _ => none

/-- The buffers given back to the pool. -/
def freed (calls : List StackCall) : List UInt8 :=
  calls.filterMap fun call =>
    match call with
    | .freeBuf buf => some buf
    | _ => none

/-- The copy an activation makes, and of which entry. -/
def madeCopy (env : NwkEnv) (param : UInt8) (brr : ZbNwkBrrt) : Option (Nat × Option Nat) :=
  if param = 0 then none else (selectEnt env brr).2

def transmition (env : NwkEnv) (param : UInt8) (s : RelayState) : RelayState :=
  let (brr, calls) := nwkBroadcastTransmition spill env param s.brr
  { s with
    brr := brr
    unconfirmed := s.unconfirmed ++ submitted calls
    sent :=
      match madeCopy env param s.brr with
      | some (i, nent) => Function.update s.sent i (nent :: s.sent i)
      | none => s.sent }

/-! ## Histories -/

inductive RelayCall where
  | forward (buf : UInt8) (srcAddr dstAddr : UInt16) (seqNum : UInt8)
  | overheard (macSrc : Option UInt16) (srcAddr : UInt16) (seqNum : UInt8)
  | transmition (timer : ZbTime) (param : UInt8)
  | confirm (k : Nat)

def relayStep (env : NwkEnv) (s : RelayState) : RelayCall → Option RelayState
  | .forward buf srcAddr dstAddr seqNum => zbNwkForward env buf srcAddr dstAddr seqNum s
  | .overheard macSrc srcAddr seqNum =>
      some (zbMcpsDataIndication spill env macSrc srcAddr seqNum s)
  | .transmition timer param => some (transmition spill (s.env env timer) param s)
  | .confirm k =>
      if k < s.unconfirmed.length then some { s with unconfirmed := s.unconfirmed.eraseIdx k }
      else none

end Calls

/-- The entry leaves the table in this step. -/
def Leaves (s t : RelayState) (i : Nat) : Prop :=
  (s.brr.brrt i).used = true ∧ (t.brr.brrt i).used = false

end Zboss.Nwk.Relay
