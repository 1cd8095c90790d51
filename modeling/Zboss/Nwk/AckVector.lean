/-
# Nwk.AckVector -- where the passive acknowledgements of a broadcast are noted

An entry of `brrt` ends with `passive_ack`, a bit for each place of the neighbour table.  Its size
is meant to be an eighth of the table's, rounded up; but `?:` binds weaker than `+`, and the
quotient and the remainder are the condition.  The vector of a table of any size is one byte
(`arraySize_eq`).

A bit is set by `nwk_broadcast_transmition` for the child it sends to, and by
`zb_mcps_data_indication` for the neighbour that was overheard; none is tested by itself, they are
counted.  The neighbour table may change from call to call.

* `ackInside_iff`: in every run, the bits that are set are inside, and no others change, exactly
  when the neighbours marked are in the first eight places (`FirstEight`);
* `firstEight_of_small`: which is so in every run when the table has no more places.

Pole: `ninth_neighbor_outside`.
-/
import Mathlib
import Zboss.Common.Constants
import Zboss.Theory.BitBytes
import Zboss.Nwk.PassiveAck
import Zboss.Nwk.NeighborIndex

namespace Zboss.Nwk.AckVector

open Zboss.Common.Constants
open Zboss.Theory.Run
open Zboss.Theory.BitBytes
open Zboss.Common.Types
open Zboss.Common.Scheduler
open Zboss.Common.Address
open Zboss.Nwk.Neighbor
open Zboss.Nwk.Broadcast
open Zboss.Nwk.Relay
open Zboss.Nwk.RelayStep
open Zboss.Nwk.PassiveAck
open Zboss.Nwk.NeighborIndex

set_option autoImplicit false

/-! ## The vector -/

/-- `ZB_NWK_BRCST_PASSIVE_ACK_ARRAY_SIZE` of a neighbour table size. -/
def zbNwkBrcstPassiveAckArraySize (tableSize : Nat) : Nat :=
  if tableSize / 8 + tableSize % 8 ≠ 0 then 1 else 0

/-- `passive_ack` of an entry. -/
def passiveAckBytes (ent : ZbNwkBroadcastRetransmit) : Bytes :=
  fun k => if k = 0 then ent.passiveAck else 0

/-- `ZB_CALC_NONE_ZERO_BITS_IN_BIT_VECTOR` -/
def zbCalcNoneZeroBits (size : Nat) (v : Bytes) : Nat :=
  bitCount (fun b => (magicBitcount8 b).toNat) size v

/-! ## Runs -/

/-- One call, with the rest of the stack as it is then. -/
def ackStep (spill : Nat → Nat → ZbNwkBrrt → ZbNwkBrrt) (s : RelayState)
    (call : NwkEnv × RelayCall) : Option RelayState :=
  relayStep spill call.1 s call.2

/-- The entry a call sets a bit of, and the place of the neighbour it is set for. -/
def marked (s : RelayState) : NwkEnv × RelayCall → Option (Nat × Nat)
  | (env, .overheard macSrc srcAddr seqNum) =>
      (macSrc.bind (zbNwkNeighborGetByShort env)).bind fun n =>
        (findEnt s srcAddr seqNum).map fun i => (i, n)
  | (env, .transmition timer param) =>
      (madeCopy (s.env env timer) param s.brr).bind fun copy => copy.2.map fun c => (copy.1, c)
  | _ => none

/-- **A bit is set inside the vector**: the byte is one of the vector's, no other place has this
bit, no other bit of any entry changes, and the count is of the places marked. -/
structure SetInside (spill : Nat → Nat → ZbNwkBrrt → ZbNwkBrrt) (tableSize : Nat) (s : RelayState)
    (call : NwkEnv × RelayCall) (i n : Nat) : Prop where
  inside : (place n).1 < zbNwkBrcstPassiveAckArraySize tableSize
  distinct : ∀ m, place m = place n → m = n
  set : ∀ t, ackStep spill s call = some t → ∀ j m,
    bit (passiveAckBytes (t.brr.brrt j)) m =
      (decide (j = i ∧ m = n) || bit (passiveAckBytes (s.brr.brrt j)) m)
  counted : ∀ t, ackStep spill s call = some t →
    zbCalcNoneZeroBits (zbNwkBrcstPassiveAckArraySize tableSize)
        (passiveAckBytes (t.brr.brrt i)) =
      (insert n (bits (zbNwkBrcstPassiveAckArraySize tableSize)
        (passiveAckBytes (s.brr.brrt i)))).card

/-- **The passive acknowledgements stay inside.** -/
def AckInside (spill : Nat → Nat → ZbNwkBrrt → ZbNwkBrrt) (tableSize : Nat) (s : RelayState)
    (call : NwkEnv × RelayCall) : Prop :=
  ∀ at_ ∈ marked s call, SetInside spill tableSize s call at_.1 at_.2

/-- The neighbour marked is in the first eight places of the table. -/
def FirstEight (s : RelayState) (call : NwkEnv × RelayCall) : Prop :=
  ∀ at_ ∈ marked s call, at_.2 < 8

/-! ## The size -/

section Size

variable {tableSize n : Nat}

theorem arraySize_eq (some_ : 0 < tableSize) : zbNwkBrcstPassiveAckArraySize tableSize = 1 := by
  rw [zbNwkBrcstPassiveAckArraySize, if_pos (by omega)]

theorem place_inside_iff (some_ : 0 < tableSize) :
    (place n).1 < zbNwkBrcstPassiveAckArraySize tableSize ↔ n < 8 := by
  rw [arraySize_eq some_, byte_lt_iff, mul_one]

theorem calcNoneZeroBits_eq_card (size : Nat) (v : Bytes) :
    zbCalcNoneZeroBits size v = (bits size v).card :=
  bitCount_eq_card magicBitcount8_toNat size v

end Size

/-! ## What a call does to the vectors -/

section Calls

variable {spill : Nat → Nat → ZbNwkBrrt → ZbNwkBrrt} {s t : RelayState} {env : NwkEnv}
  {i n : Nat}

theorem passiveAckBytes_or {ent ent' : ZbNwkBroadcastRetransmit} (few : n < 8)
    (eq : ent'.passiveAck = ent.passiveAck ||| 1 <<< UInt8.ofNat n) :
    passiveAckBytes ent' = setBit (passiveAckBytes ent) n := by
  have first : place n = (0, 1 <<< UInt8.ofNat n) := by
    rw [place, Nat.div_eq_of_lt few, Nat.mod_eq_of_lt few]
  funext k
  rw [setBit, first]
  by_cases here : k = 0
  · rw [here, Function.update_self, passiveAckBytes, passiveAckBytes, if_pos rfl, if_pos rfl, eq]
  · rw [Function.update_of_ne here, passiveAckBytes, passiveAckBytes, if_neg here, if_neg here]

/-- The loops over the entries set no bit. -/
theorem passiveAckBytes_passed {ent ent' : ZbNwkBroadcastRetransmit}
    (passed : Passed env ent ent') : passiveAckBytes ent' = passiveAckBytes ent := by
  rcases passed with same | ⟨-, skipped⟩
  · rw [same]
  · rw [skipped]
    rfl

/-- **The bytes after a call that marks a neighbour.** -/
theorem marked_bytes {call : NwkEnv × RelayCall} (at_ : marked s call = some (i, n)) (few : n < 8)
    (taken : ackStep spill s call = some t) (j : Nat) :
    passiveAckBytes (t.brr.brrt j) =
      if j = i then setBit (passiveAckBytes (s.brr.brrt i)) n
      else passiveAckBytes (s.brr.brrt j) := by
  obtain ⟨env, call⟩ := call
  cases call with
  | forward buf srcAddr dstAddr seqNum => cases at_
  | confirm k => cases at_
  | overheard macSrc srcAddr seqNum =>
      cases taken
      obtain ⟨m, source, entry⟩ := Option.bind_eq_some_iff.1 at_
      obtain ⟨k, found, eq⟩ := Option.map_eq_some_iff.1 entry
      cases eq
      have acked : zbMcpsDataIndication spill env macSrc srcAddr seqNum s =
          markAcked spill env i n { s with heard := noteHeard n srcAddr seqNum s } := by
        simp only [zbMcpsDataIndication, source, found]
      rw [acked, markAcked_entry few]
      by_cases here : j = i
      · rw [if_pos here, if_pos here]
        exact passiveAckBytes_or few rfl
      · rw [if_neg here, if_neg here]
  | transmition timer param =>
      cases taken
      obtain ⟨⟨k, nent⟩, made, child⟩ := Option.bind_eq_some_iff.1 at_
      obtain ⟨c, rfl, eq⟩ := Option.map_eq_some_iff.1 child
      cases eq
      have small : ∀ i' c', madeCopy (s.env env timer) param s.brr = some (i', some c') →
          c' < 8 := by
        intro i' c' made'
        cases made.symm.trans made'
        exact few
      rw [transmition_entry small, made]
      dsimp only
      by_cases here : j = k
      · rw [if_pos here, if_pos here]
        refine passiveAckBytes_or few ?_
        rw [settleEnt, copiedEnt, markCopied, (madeCopy_child made).2]
      · rw [if_neg here, if_neg here]
        exact passiveAckBytes_passed (selectEnt_passed s.brr j)

/-- **One call.** -/
theorem setInside_of_few {tableSize : Nat} {call : NwkEnv × RelayCall} (some_ : 0 < tableSize)
    (at_ : marked s call = some (i, n)) (few : n < 8) : SetInside spill tableSize s call i n where
  inside := (place_inside_iff some_).2 few
  distinct m same := place_injective same
  set t taken j m := by
    rw [marked_bytes at_ few taken j]
    by_cases here : j = i
    · rw [if_pos here, bit_setBit, here]
      simp
    · rw [if_neg here]
      simp [here]
  counted t taken := by
    rw [marked_bytes at_ few taken i, if_pos rfl, calcNoneZeroBits_eq_card,
      bits_setBit _ ((place_inside_iff some_).2 few)]

theorem ackInside_call_iff {tableSize : Nat} (some_ : 0 < tableSize) (s : RelayState)
    (call : NwkEnv × RelayCall) : AckInside spill tableSize s call ↔ FirstEight s call := by
  constructor
  · intro safe at_ mem
    exact (place_inside_iff some_).1 (safe at_ mem).inside
  · intro first at_ mem
    exact setInside_of_few some_ mem (first at_ mem)

end Calls

/-- **Passive acknowledgements stay inside their vector** exactly when the neighbours marked are in
the first eight places: for every size of the neighbour table, every table of entries and every run
of calls, with any neighbours at each of them. -/
theorem ackInside_iff (spill : Nat → Nat → ZbNwkBrrt → ZbNwkBrrt) (tableSize : Nat)
    (some_ : 0 < tableSize) (s : RelayState) (calls : List (NwkEnv × RelayCall)) :
    Along (ackStep spill) (AckInside spill tableSize) s calls ↔
      Along (ackStep spill) FirstEight s calls :=
  along_congr (fun _ _ _ _ _ _ => trivial) (fun s call (_ : True) => ackInside_call_iff some_ s call)
    trivial

/-! ## Small tables -/

/-- The neighbour table is in order, and has eight places at most. -/
structure SmallTable (env : NwkEnv) : Prop where
  indexed : NeighborIndexed env.neighbor
  small : env.neighbor.baseNeighborSize ≤ 8

/-- The iterators are in the first eight places. -/
def IteratesFirst (s : RelayState) : Prop :=
  ∀ i c, (s.brr.brrt i).neighborTableIterator = some c → c < 8

section Small

variable {spill : Nat → Nat → ZbNwkBrrt → ZbNwkBrrt} {s t : RelayState} {env : NwkEnv}
  {call : RelayCall}

theorem nextZeChildren_small (small : SmallTable env) {dstAddr : UInt16} {i c : Nat}
    (found : zbNwkNeighborNextZeChildrenI env dstAddr i = some c) : c < 8 := by
  have served := (nextZeChildren_eq_some found).2.1.1
  have inside := small.indexed.inside
  have few := small.small
  omega

theorem neighborGetByShort_small (small : SmallTable env) {addr : UInt16} {n : Nat}
    (found : zbNwkNeighborGetByShort env addr = some n) : n < 8 := by
  rw [zbNwkNeighborGetByShort] at found
  split at found
  · rename_i ref _
    by_cases indexed : env.neighbor.addrToNeighbor ref ≠ 255
    · rw [← Option.some.inj ((if_pos indexed).symm.trans found)]
      have inside := (small.indexed.mapped ref indexed).1
      have few := small.small
      omega
    · cases (if_neg indexed).symm.trans found
  · cases found

theorem IteratesFirst.child (first : IteratesFirst s) {timer : ZbTime} {param : UInt8} {i c : Nat}
    (made : madeCopy (s.env env timer) param s.brr = some (i, some c)) : c < 8 :=
  first i c (madeCopy_child made).1.next

/-- The places that are marked come from the iterators and from the index. -/
theorem firstEight_call (small : SmallTable env) (first : IteratesFirst s) :
    FirstEight s (env, call) := by
  rintro ⟨i, n⟩ at_
  cases call with
  | forward buf srcAddr dstAddr seqNum => cases at_
  | confirm k => cases at_
  | overheard macSrc srcAddr seqNum =>
      obtain ⟨m, source, entry⟩ := Option.bind_eq_some_iff.1 at_
      obtain ⟨addr, -, known⟩ := Option.bind_eq_some_iff.1 source
      obtain ⟨k, -, eq⟩ := Option.map_eq_some_iff.1 entry
      cases eq
      exact neighborGetByShort_small small known
  | transmition timer param =>
      obtain ⟨⟨k, nent⟩, made, child⟩ := Option.bind_eq_some_iff.1 at_
      obtain ⟨c, rfl, eq⟩ := Option.map_eq_some_iff.1 child
      cases eq
      exact first.child made

theorem iteratesFirst_step (small : SmallTable env) (first : IteratesFirst s)
    (taken : ackStep spill s (env, call) = some t) : IteratesFirst t := by
  intro j c at_
  cases call with
  | forward buf srcAddr dstAddr seqNum =>
      rcases forward_entry taken with ⟨-, rfl⟩ | ⟨-, i, enters⟩
      · exact first j c at_
      · by_cases here : j = i
        · rw [here, enters.entry] at at_
          exact nextZeChildren_small small at_
        · rw [(enters.others j here).1] at at_
          exact first j c at_
  | overheard macSrc srcAddr seqNum =>
      cases taken
      rcases overheard_cases spill env macSrc srcAddr seqNum s with
        eq | ⟨n, source, ⟨-, eq⟩ | ⟨i, found, eq⟩⟩
      · rw [eq] at at_
        exact first j c at_
      · rw [eq] at at_
        exact first j c at_
      · obtain ⟨addr, -, known⟩ := Option.bind_eq_some_iff.1 source
        rw [eq, markAcked_entry (neighborGetByShort_small small known)] at at_
        by_cases here : j = i
        · rw [if_pos here] at at_
          exact first i c at_
        · rw [if_neg here] at at_
          exact first j c at_
  | transmition timer param =>
      cases taken
      have then_ : SmallTable (s.env env timer) := ⟨small.indexed, small.small⟩
      have passed : ∀ k d, ((selectEnt (s.env env timer) s.brr).1.brrt k).neighborTableIterator =
          some d → d < 8 := by
        intro k d next
        rcases selectEnt_passed s.brr k with same | ⟨-, skipped⟩
        · rw [same] at next
          exact first k d next
        · rw [skipped] at next
          exact nextZeChildren_small then_ next
      rw [transmition_entry fun i d made => first.child made] at at_
      cases made : madeCopy (s.env env timer) param s.brr with
      | none =>
          simp only [made] at at_
          exact passed j c at_
      | some copy =>
          obtain ⟨i, nent⟩ := copy
          simp only [made] at at_
          by_cases here : j = i
          · rw [if_pos here] at at_
            cases nent with
            | none => exact passed i c at_
            | some d => exact nextZeChildren_small then_ at_
          · rw [if_neg here] at at_
            exact passed j c at_
  | confirm k =>
      rw [ackStep, relayStep] at taken
      split at taken
      · cases taken
        exact first j c at_
      · cases taken

theorem iteratesFirst_init : IteratesFirst RelayState.init := by
  intro i c at_
  cases at_
  decide

end Small

/-- **Eight places are enough**: what is marked is in the first eight in every run. -/
theorem firstEight_of_small (spill : Nat → Nat → ZbNwkBrrt → ZbNwkBrrt)
    {calls : List (NwkEnv × RelayCall)} (small : ∀ call ∈ calls, SmallTable call.1) :
    Along (ackStep spill) FirstEight RelayState.init calls :=
  along_of_invariant (fun _ _ _ first small taken => iteratesFirst_step small first taken)
    (fun _ _ first small => firstEight_call small first) iteratesFirst_init
    (along_of_mem small)

/-! ## Poles -/

instance decidableFirstEight (s : RelayState) (call : NwkEnv × RelayCall) :
    Decidable (FirstEight s call) :=
  inferInstanceAs (Decidable (∀ at_ ∈ marked s call, at_.2 < 8))

/-- A device with the short address 5 and nine routers around it, with the addresses from 10 on, in
a table of 32 places. -/
def nineNeighbors : NwkEnv where
  timer := 0
  pibShortAddress := 5
  neighbor :=
    { baseNeighbor n := { newNeighbor n 0 with deviceType := zbNwkDeviceTypeRouter, used := n < 9 }
      addrToNeighbor ref := if ref < 9 then UInt8.ofNat ref else 255
      baseNeighborSize := 32
      baseNeighborUsed := 9 }
  addr :=
    { ZbAddrGlobals.init with
      addrMap ref :=
        { ZbAddrGlobals.init.addrMap ref with addr := 10 + UInt16.ofNat ref, used := ref < 9 }
      shortSorted ref := ref
      nElements := 9
      nSortedElements := 9 }
  nwkSrcAddr _ := 0
  joined := true
  sent _ := true
  leaveWaits _ := false

/-- A frame of the device's own is overheard from a neighbour. -/
def heardFrom (addr : UInt16) : List (NwkEnv × RelayCall) :=
  [(nineNeighbors, .forward 1 5 0xFFFF 7), (nineNeighbors, .overheard (some addr) 5 7)]

theorem ackInside_eighth :
    Along (ackStep fun _ _ t => t) (AckInside (fun _ _ t => t) 32) RelayState.init
      (heardFrom 17) :=
  (ackInside_iff (fun _ _ t => t) 32 (by decide) RelayState.init (heardFrom 17)).2
    (by decide +kernel)

theorem nineNeighbors_listed {ref : Nat} (few : ref < 9) :
    nineNeighbors.neighbor.addrToNeighbor ref ≠ 255 ∧
      (nineNeighbors.neighbor.addrToNeighbor ref).toNat = ref := by
  revert ref
  decide

theorem nineNeighbors_indexed : NeighborIndexed nineNeighbors.neighbor where
  inside := by decide
  mapped ref known := by
    have few : ref < 9 := by
      by_contra far
      exact known (if_neg far)
    rw [(nineNeighbors_listed few).2]
    exact ⟨few.trans (by decide), decide_eq_true few, rfl⟩
  reached i _ used := nineNeighbors_listed (of_decide_eq_true used)
  apart i _ j _ _ _ same := same

/-- **The ninth neighbour is marked outside**: its bit is in a second byte, and there is one. -/
theorem ninth_neighbor_outside :
    ¬ ∀ (spill : Nat → Nat → ZbNwkBrrt → ZbNwkBrrt) (tableSize : Nat)
      (calls : List (NwkEnv × RelayCall)),
      (∀ call ∈ calls, NeighborIndexed call.1.neighbor ∧
        call.1.neighbor.baseNeighborSize ≤ tableSize) →
      Along (ackStep spill) (AckInside spill tableSize) RelayState.init calls := by
  intro claim
  have along := claim (fun _ _ t => t) 32 (heardFrom 18) (by
    intro call mem
    have one : call.1 = nineNeighbors := by
      rcases List.mem_cons.1 mem with rfl | mem
      · rfl
      · rw [List.mem_singleton.1 mem]
    rw [one]
    exact ⟨nineNeighbors_indexed, by decide⟩)
  have heard : (run (ackStep fun _ _ t => t) RelayState.init
      [(nineNeighbors, .forward 1 5 0xFFFF 7)]).any
        (fun s => marked s (nineNeighbors, .overheard (some 18) 5 7) == some (0, 8)) = true := by
    decide +kernel
  obtain ⟨s, ran, place_⟩ := (Option.any_eq_true _ _).1 heard
  have cut : heardFrom 18 = [(nineNeighbors, .forward 1 5 0xFFFF 7)] ++
      [(nineNeighbors, .overheard (some 18) 5 7)] := rfl
  rw [cut, along_append] at along
  have inside := ((along.2 s ran).1 (0, 8) (beq_iff_eq.1 place_)).inside
  revert inside
  decide

end Zboss.Nwk.AckVector
