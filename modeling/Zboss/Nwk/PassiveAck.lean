/-
# Nwk.PassiveAck -- when the repetition of a broadcast stops early

Where a copy is overheard, the marks of an entry are counted against the number of routers
and coordinators among the neighbours, less one when the frame is not the device's own.
The callback is to do the same, but its counter is 0 before the last broadcast
(`counter_of_early`), whatever the marks are.

* `marked_step`: in every run, a mark is of a neighbour that was overheard, or of an end
  device the frame was sent to;
* `allAcked_marks`: where the marks are those of routers and coordinators other than the
  source, and the source is the device itself or one of them, as many marks as are asked
  for are the marks of all of them;
* `stops_when_heard`: so in a run where the marks fit whenever they are complete, and the
  callback finishes with no frame next to one router that is still to be heard, a frame
  that is given up early has been overheard from all of them.

Nothing in the code keeps the other marks out: end devices are marked, by the callback
itself and when they are overheard, and so is the source.  And next to one router or
coordinator the callback gives up the frames of others after one broadcast, heard or not
(`counter_counts_as_acks`).
-/
import Mathlib
import Zboss.Common.Constants
import Zboss.Nwk.RelayStep

namespace Zboss.Nwk.PassiveAck

open Zboss.Common.Constants
open Zboss.Theory.Run
open Zboss.Common.Types
open Zboss.Common.Scheduler
open Zboss.Common.Address
open Zboss.Nwk.Neighbor
open Zboss.Nwk.Broadcast
open Zboss.Nwk.Relay
open Zboss.Nwk.RelayStep

set_option autoImplicit false

/-! ## Counting -/

/-- The routers and coordinators among the neighbours. -/
def ackNeighbors (env : NwkEnv) : Finset Nat :=
  (Finset.range env.neighbor.baseNeighborSize).filter fun n =>
    ((env.neighbor.baseNeighbor n).used &&
      ((env.neighbor.baseNeighbor n).deviceType == zbNwkDeviceTypeRouter ||
        (env.neighbor.baseNeighbor n).deviceType == zbNwkDeviceTypeCoordinator)) = true

/-- The neighbours a vector of marks names. -/
def marks (passiveAck : UInt8) : Finset Nat :=
  (Finset.range 8).filter fun n => passiveAck.toNat.testBit n = true

theorem magicBitcount8_toNat (b : UInt8) : (magicBitcount8 b).toNat = (marks b).card := by
  have all : ∀ n < 256, (magicBitcount8 (UInt8.ofNat n)).toNat = (marks (UInt8.ofNat n)).card := by
    decide +kernel
  simpa using all b.toNat b.toNat_lt

theorem marks_or (b : UInt8) {n : Nat} (few : n < 8) :
    marks (b ||| 1 <<< UInt8.ofNat n) = insert n (marks b) := by
  have bit : ∀ k < 8, ((1 : UInt8) <<< UInt8.ofNat n).toNat.testBit k = decide (k = n) := by
    revert n
    decide
  ext k
  simp only [marks, Finset.mem_filter, Finset.mem_range, Finset.mem_insert, UInt8.toNat_or,
    Nat.testBit_or, Bool.or_eq_true]
  constructor
  · rintro ⟨inside, marked | new⟩
    · exact .inr ⟨inside, marked⟩
    · exact .inl (of_decide_eq_true ((bit k inside).symm.trans new))
  · rintro (rfl | ⟨inside, marked⟩)
    · exact ⟨few, .inr ((bit k few).trans (decide_eq_true rfl))⟩
    · exact ⟨inside, .inl marked⟩

theorem ackNeighbors_subset {env : NwkEnv} (few : FewNeighbors env) :
    ackNeighbors env ⊆ Finset.range 8 := by
  intro n mem
  have used := (Finset.mem_filter.1 mem).2
  rw [Bool.and_eq_true] at used
  exact Finset.mem_range.2 (few.used n used.1)

theorem passiveAckDevNum_toNat {env : NwkEnv} (few : FewNeighbors env) :
    (passiveAckDevNum env).toNat = (ackNeighbors env).card := by
  have bound := Finset.card_le_card (ackNeighbors_subset few)
  rw [Finset.card_range] at bound
  have counted : (ackNeighbors env).card =
      (List.range env.neighbor.baseNeighborSize).countP fun n =>
        (env.neighbor.baseNeighbor n).used &&
          ((env.neighbor.baseNeighbor n).deviceType == zbNwkDeviceTypeRouter ||
            (env.neighbor.baseNeighbor n).deviceType == zbNwkDeviceTypeCoordinator) := by
    rw [ackNeighbors, Finset.card_def, Finset.filter_val, ← Multiset.countP_eq_card_filter,
      Finset.range_val, Multiset.range, Multiset.coe_countP]
    simp only [Bool.decide_eq_true]
  rw [passiveAckDevNum, ← counted]
  exact UInt8.toNat_ofNat_of_lt' (show (ackNeighbors env).card < 256 by omega)

/-! ## Complete marks -/

/-- All routers and coordinators but the source were overheard. -/
def AllHeard (env : NwkEnv) (srcAddr : UInt16) (heard : List Nat) : Prop :=
  ∀ n ∈ ackNeighbors env, neighborShort env n ≠ srcAddr → n ∈ heard

/-- The marks are of routers and coordinators other than the source, and the source is
the device itself or one of them. -/
def MarksFit (env : NwkEnv) (ent : ZbNwkBroadcastRetransmit) : Prop :=
  (∀ n ∈ marks ent.passiveAck, n ∈ ackNeighbors env ∧ neighborShort env n ≠ ent.srcAddr) ∧
    (ent.srcAddr = env.pibShortAddress ∨ ∃ n ∈ ackNeighbors env, neighborShort env n = ent.srcAddr)

/-- **Marks that fit are complete** when there are as many as are asked for. -/
theorem allAcked_marks {env : NwkEnv} {ent : ZbNwkBroadcastRetransmit} (few : FewNeighbors env)
    (acked : allAcked env ent = true) (fit : MarksFit env ent) :
    ∀ n ∈ ackNeighbors env, neighborShort env n ≠ ent.srcAddr → n ∈ marks ent.passiveAck := by
  have within : marks ent.passiveAck ⊆
      (ackNeighbors env).filter fun n => neighborShort env n ≠ ent.srcAddr := by
    intro n mem
    exact Finset.mem_filter.2 (fit.1 n mem)
  have enough : ((ackNeighbors env).filter fun n => neighborShort env n ≠ ent.srcAddr).card ≤
      (marks ent.passiveAck).card := by
    rw [← magicBitcount8_toNat]
    simp only [allAcked, Bool.or_eq_true, Bool.and_eq_true, beq_iff_eq, bne_iff_ne] at acked
    rcases acked with ⟨count, -⟩ | ⟨⟨some_, count⟩, foreign⟩
    · rw [count, passiveAckDevNum_toNat few]
      exact Finset.card_filter_le _ _
    · obtain ⟨n, mem, source⟩ := fit.2.resolve_left foreign
      have proper : ((ackNeighbors env).filter fun n => neighborShort env n ≠ ent.srcAddr).card <
          (ackNeighbors env).card := by
        refine Finset.card_lt_card (Finset.filter_ssubset.2 ⟨n, mem, ?_⟩)
        exact fun other => other source
      have one : (1 : UInt8) ≤ passiveAckDevNum env := by
        rw [UInt8.le_iff_toNat_le, UInt8.toNat_one, passiveAckDevNum_toNat few]
        omega
      rw [count, UInt8.toNat_sub_of_le _ _ one, passiveAckDevNum_toNat few, UInt8.toNat_one]
      omega
  have same := Finset.eq_of_subset_of_card_le within enough
  intro n mem other
  rw [same]
  exact Finset.mem_filter.2 ⟨mem, other⟩

/-! ## What is marked -/

/-- Only neighbours that were overheard are marked, and those no mark is asked of. -/
structure EntOk (env : NwkEnv) (heard : List Nat) (ent : ZbNwkBroadcastRetransmit) : Prop where
  marked : ∀ n ∈ marks ent.passiveAck, n ∈ heard ∨ n ∉ ackNeighbors env
  next : ∀ c, ent.neighborTableIterator = some c → ServedChild env ent.dstAddr c

section Marks

variable {env : NwkEnv} {heard heard' : List Nat} {ent ent' : ZbNwkBroadcastRetransmit}
  {dstAddr : UInt16} {c n : Nat}

/-- No mark is asked of a child a frame is sent to. -/
theorem not_mem_ackNeighbors (served : ServedChild env dstAddr c) : c ∉ ackNeighbors env := by
  intro mem
  have kind := (Finset.mem_filter.1 mem).2
  rw [served.2.2.2.1] at kind
  simp [zbNwkDeviceTypeEd, zbNwkDeviceTypeRouter, zbNwkDeviceTypeCoordinator] at kind

theorem served_few (few : FewNeighbors env) (served : ServedChild env dstAddr c) : c < 8 :=
  few.used c served.2.1

theorem EntOk.mono (ok : EntOk env heard ent) (sub : ∀ n ∈ heard, n ∈ heard') :
    EntOk env heard' ent := by
  refine ⟨?_, ok.next⟩
  intro n mem
  exact (ok.marked n mem).imp_left (sub n)

theorem EntOk.passed (ok : EntOk env heard ent) (passed : Passed env ent ent') :
    EntOk env heard ent' := by
  rcases passed with rfl | ⟨-, rfl⟩
  · exact ok
  · refine ⟨ok.marked, ?_⟩
    intro c found
    exact (nextZeChildren_eq_some found).2.1

theorem EntOk.overheard (ok : EntOk env heard ent) (few : n < 8) :
    EntOk env (n :: heard) (markHeard n ent) := by
  refine ⟨?_, ok.next⟩
  intro m mem
  rw [markHeard, marks_or _ few, Finset.mem_insert] at mem
  rcases mem with rfl | mem
  · exact .inl List.mem_cons_self
  · exact (ok.marked m mem).imp_left (List.mem_cons_of_mem n)

theorem EntOk.copied {nent : Option Nat} (few : FewNeighbors env) (ok : EntOk env heard ent)
    (served : ∀ c, nent = some c → ServedChild env ent.dstAddr c) :
    EntOk env heard (markCopied env nent ent) := by
  cases nent with
  | none => exact ⟨ok.marked, ok.next⟩
  | some c =>
      have child := served c rfl
      refine ⟨?_, ?_⟩
      · intro m mem
        rw [markCopied, marks_or _ (served_few few child), Finset.mem_insert] at mem
        rcases mem with rfl | mem
        · exact .inr (not_mem_ackNeighbors child)
        · exact ok.marked m mem
      · intro c found
        exact (nextZeChildren_eq_some found).2.1

theorem EntOk.new (env : NwkEnv) (buf : UInt8) (srcAddr dstAddr : UInt16)
    (old : ZbNwkBroadcastRetransmit) :
    EntOk env [] (newEnt env buf srcAddr dstAddr old) := by
  refine ⟨?_, ?_⟩
  · intro n mem
    simp [newEnt, marks] at mem
  · intro c found
    exact (nextZeChildren_eq_some found).2.1

/-- Enough marks that fit are of neighbours that were overheard. -/
theorem EntOk.allHeard (few : FewNeighbors env) (ok : EntOk env heard ent)
    (acked : allAcked env ent = true) (fit : MarksFit env ent) :
    AllHeard env ent.srcAddr heard := by
  intro n mem other
  have marked := allAcked_marks few acked fit n mem other
  exact (ok.marked n marked).resolve_right fun out => out mem

end Marks

/-! ## Runs -/

/-- The entry a call decides about: with the neighbour that is overheard, or after the copy,
when no child waits for one. -/
def countedEnt (env : NwkEnv) (s : RelayState) : RelayCall → Option ZbNwkBroadcastRetransmit
  | .overheard macSrc srcAddr seqNum =>
      (macSrc.bind (zbNwkNeighborGetByShort env)).bind fun n =>
        (findEnt s srcAddr seqNum).map fun i => markHeard n (s.brr.brrt i)
  | .transmition timer param =>
      ((madeCopy (s.env env timer) param s.brr).map fun copy =>
        copiedEnt (s.env env timer) s.brr copy.1 copy.2).filter fun ent =>
          ent.neighborTableIterator.isNone
  | _ => none

/-- Before the last broadcast, marks that are as many as are asked for fit; and the callback
finishes with a frame of another device next to one router only when that router is the
source, or marked.  The callback counts no marks. -/
def CountsRight (env : NwkEnv) (s : RelayState) : RelayCall → Prop
  | .overheard macSrc srcAddr seqNum =>
      ∀ ent ∈ countedEnt env s (.overheard macSrc srcAddr seqNum),
        ent.retries < zbNwkMaxBroadcastRetries → allAcked env ent = true → MarksFit env ent
  | .transmition timer param =>
      ∀ ent ∈ countedEnt env s (.transmition timer param),
        ent.retries < zbNwkMaxBroadcastRetries → ent.srcAddr ≠ env.pibShortAddress →
          passiveAckDevNum env = 1 → ∀ n ∈ ackNeighbors env,
            neighborShort env n ≠ ent.srcAddr → n ∈ marks ent.passiveAck
  | _ => True

/-- A frame that leaves the table before its last broadcast was overheard from every
router and coordinator but its source. -/
def StopsRightly (spill : Nat → Nat → ZbNwkBrrt → ZbNwkBrrt) (env : NwkEnv) (s : RelayState)
    (call : RelayCall) : Prop :=
  ∀ t, relayStep spill env s call = some t → ∀ i, Leaves s t i →
    (t.brr.brrt i).retries < zbNwkMaxBroadcastRetries →
      AllHeard env (s.brr.brrt i).srcAddr (t.heard i)

/-- What is marked in the table. -/
def Marked (env : NwkEnv) (s : RelayState) : Prop :=
  ∀ i, (s.brr.brrt i).used = true → EntOk env (s.heard i) (s.brr.brrt i)

/-- From the second broadcast on a frame stays for a child, and each broadcast takes its
iterator on. -/
def Seldom (s : RelayState) : Prop :=
  ∀ i, (s.brr.brrt i).used = true →
    (s.brr.brrt i).retries.toNat ≤ (s.brr.brrt i).neighborTableIterator.getD 8 + 1

section Runs

variable {spill : Nat → Nat → ZbNwkBrrt → ZbNwkBrrt} {env : NwkEnv} {s t : RelayState}

theorem marked_init (env : NwkEnv) : Marked env RelayState.init := by
  intro i used
  cases used

theorem seldom_init : Seldom RelayState.init := by
  intro i used
  cases used

theorem neighborGetByShort_few (few : FewNeighbors env) {addr : UInt16} {n : Nat}
    (found : zbNwkNeighborGetByShort env addr = some n) : n < 8 := by
  rw [zbNwkNeighborGetByShort] at found
  split at found
  · rename_i ref _
    by_cases indexed : env.neighbor.addrToNeighbor ref ≠ 255
    · rw [← Option.some.inj ((if_pos indexed).symm.trans found)]
      exact few.indexed ref indexed
    · cases (if_neg indexed).symm.trans found
  · cases found

theorem noteHeard_sub (n : Nat) (srcAddr : UInt16) (seqNum : UInt8) (s : RelayState) (i : Nat) :
    ∀ m ∈ s.heard i, m ∈ noteHeard n srcAddr seqNum s i := by
  intro m mem
  rw [noteHeard]
  split
  · exact List.mem_cons_of_mem n mem
  · exact mem

theorem findEnt_eq_some {srcAddr : UInt16} {seqNum : UInt8} {i : Nat}
    (found : findEnt s srcAddr seqNum = some i) :
    (s.brr.brrt i).used = true ∧ (s.brr.brrt i).srcAddr = srcAddr ∧ s.seqNum i = seqNum := by
  have holds := List.find?_some found
  simpa [and_assoc] using holds

theorem noteHeard_found {srcAddr : UInt16} {seqNum : UInt8} {i n : Nat}
    (found : findEnt s srcAddr seqNum = some i) :
    noteHeard n srcAddr seqNum s i = n :: s.heard i := by
  rw [noteHeard, if_pos (findEnt_eq_some found)]

/-- What an overheard copy does. -/
theorem overheard_cases (spill : Nat → Nat → ZbNwkBrrt → ZbNwkBrrt) (env : NwkEnv)
    (macSrc : Option UInt16) (srcAddr : UInt16) (seqNum : UInt8) (s : RelayState) :
    zbMcpsDataIndication spill env macSrc srcAddr seqNum s = s ∨
      ∃ n, macSrc.bind (zbNwkNeighborGetByShort env) = some n ∧
        ((findEnt s srcAddr seqNum = none ∧
            zbMcpsDataIndication spill env macSrc srcAddr seqNum s =
              { s with heard := noteHeard n srcAddr seqNum s }) ∨
          ∃ i, findEnt s srcAddr seqNum = some i ∧
            zbMcpsDataIndication spill env macSrc srcAddr seqNum s =
              markAcked spill env i n { s with heard := noteHeard n srcAddr seqNum s }) := by
  cases source : macSrc.bind (zbNwkNeighborGetByShort env) with
  | none =>
      left
      simp only [zbMcpsDataIndication, source]
  | some n =>
      right
      refine ⟨n, rfl, ?_⟩
      cases found : findEnt s srcAddr seqNum with
      | none =>
          left
          simp only [zbMcpsDataIndication, source, found, and_self]
      | some i =>
          right
          exact ⟨i, rfl, by simp only [zbMcpsDataIndication, source, found]⟩

theorem markAcked_heard (spill : Nat → Nat → ZbNwkBrrt → ZbNwkBrrt) (env : NwkEnv) (i n : Nat)
    (s : RelayState) : (markAcked spill env i n s).heard = s.heard := by
  rw [markAcked]
  split <;> rfl

theorem transmition_heard (spill : Nat → Nat → ZbNwkBrrt → ZbNwkBrrt) (env : NwkEnv)
    (param : UInt8) (s : RelayState) : (transmition spill env param s).heard = s.heard := rfl

/-- A frame has got the entry `i`. -/
structure Enters (env : NwkEnv) (buf : UInt8) (srcAddr dstAddr : UInt16) (s t : RelayState)
    (i : Nat) : Prop where
  inside : i < zbNwkBrrTableSize
  free : (s.brr.brrt i).used = false
  entry : t.brr.brrt i = newEnt env buf srcAddr dstAddr (s.brr.brrt i)
  heard : t.heard i = []
  sent : t.sent i = []
  nwkSrcAddr : t.nwkSrcAddr = Function.update s.nwkSrcAddr buf srcAddr
  unconfirmed : t.unconfirmed = s.unconfirmed
  others : ∀ j, j ≠ i →
    t.brr.brrt j = s.brr.brrt j ∧ t.heard j = s.heard j ∧ t.sent j = s.sent j

/-- A frame is dropped when the table is full. -/
theorem forward_entry {buf : UInt8} {srcAddr dstAddr : UInt16} {seqNum : UInt8}
    (taken : zbNwkForward env buf srcAddr dstAddr seqNum s = some t) :
    (¬ s.brr.brrtCnt.toNat < zbNwkBrrTableSize ∧ t = s) ∨
      (s.brr.brrtCnt.toNat < zbNwkBrrTableSize ∧ ∃ i, Enters env buf srcAddr dstAddr s t i) := by
  rw [zbNwkForward] at taken
  by_cases room : s.brr.brrtCnt.toNat < zbNwkBrrTableSize
  · rw [if_pos room] at taken
    obtain ⟨i, free, rfl⟩ := Option.map_eq_some_iff.1 taken
    have unused := List.find?_some free
    rw [Bool.not_eq_true'] at unused
    right
    refine ⟨room, i, List.mem_range.1 (List.mem_of_find?_eq_some free), unused, setEnt_self ..,
      by simp, by simp, rfl, rfl, ?_⟩
    intro j ne
    exact ⟨setEnt_of_ne _ ne _, by simp [ne], by simp [ne]⟩
  · rw [if_neg room] at taken
    exact .inl ⟨room, (Option.some.inj taken).symm⟩

/-- The iterators are at children the frames are for. -/
def Iterates (env : NwkEnv) (s : RelayState) : Prop :=
  ∀ i, (s.brr.brrt i).used = true → ∀ c, (s.brr.brrt i).neighborTableIterator = some c →
    ServedChild env (s.brr.brrt i).dstAddr c

/-- The child a copy is made for is a child the frame is for. -/
theorem Iterates.served (iterates : Iterates env s) {timer : ZbTime} {param : UInt8} {i c : Nat}
    (made : madeCopy (s.env env timer) param s.brr = some (i, some c)) :
    ServedChild env (s.brr.brrt i).dstAddr c := by
  obtain ⟨child, -⟩ := madeCopy_child made
  exact iterates i child.used c child.next

/-- **One activation**, entry by entry, where the iterators are at children. -/
theorem Iterates.entry (few : FewNeighbors env) (iterates : Iterates env s)
    (spill : Nat → Nat → ZbNwkBrrt → ZbNwkBrrt) (timer : ZbTime) (param : UInt8) (j : Nat) :
    (transmition spill (s.env env timer) param s).brr.brrt j =
      match madeCopy (s.env env timer) param s.brr with
      | some (i, nent) =>
          if j = i then
            settleEnt (lastCopy (s.env env timer) s.brr i nent)
              (copiedEnt (s.env env timer) s.brr i nent)
          else (selectEnt (s.env env timer) s.brr).1.brrt j
      | none => (selectEnt (s.env env timer) s.brr).1.brrt j := by
  apply transmition_entry
  intro i c made
  exact served_few few (iterates.served made)

theorem Marked.iterates (ok : Marked env s) : Iterates env s := fun i used => (ok i used).next

theorem few_env (few : FewNeighbors env) (s : RelayState) (timer : ZbTime) :
    FewNeighbors (s.env env timer) := ⟨few.used, few.filled, few.indexed⟩

theorem entOk_env {timer : ZbTime} {heard : List Nat} {ent : ZbNwkBroadcastRetransmit} :
    EntOk (s.env env timer) heard ent ↔ EntOk env heard ent :=
  ⟨fun ok => ⟨ok.marked, ok.next⟩, fun ok => ⟨ok.marked, ok.next⟩⟩

theorem Marked.passed (ok : Marked env s) (timer : ZbTime) {i : Nat}
    (used : (s.brr.brrt i).used = true) :
    EntOk env (s.heard i) ((selectEnt (s.env env timer) s.brr).1.brrt i) :=
  entOk_env.1 ((entOk_env.2 (ok i used)).passed (selectEnt_passed s.brr i))

theorem Marked.copied (few : FewNeighbors env) (ok : Marked env s) {timer : ZbTime}
    {param : UInt8} {i : Nat} {nent : Option Nat}
    (made : madeCopy (s.env env timer) param s.brr = some (i, nent))
    (used : (s.brr.brrt i).used = true) :
    EntOk env (s.heard i) (copiedEnt (s.env env timer) s.brr i nent) := by
  refine entOk_env.1 (EntOk.copied (few_env few s timer) (entOk_env.2 (ok.passed timer used)) ?_)
  rintro c rfl
  obtain ⟨-, kept⟩ := madeCopy_child made
  rw [kept]
  exact ok.iterates.served made

theorem copiedEnt_used (env : NwkEnv) (brr : ZbNwkBrrt) (i : Nat) (nent : Option Nat) :
    (copiedEnt env brr i nent).used = (brr.brrt i).used := by
  have passed : Passed env (brr.brrt i) ((selectEnt env brr).1.brrt i) := selectEnt_passed brr i
  rw [← passed_used passed]
  cases nent <;> rfl

theorem copiedEnt_srcAddr (env : NwkEnv) (brr : ZbNwkBrrt) (i : Nat) (nent : Option Nat) :
    (copiedEnt env brr i nent).srcAddr = (brr.brrt i).srcAddr := by
  have passed : Passed env (brr.brrt i) ((selectEnt env brr).1.brrt i) := selectEnt_passed brr i
  have kept : ((selectEnt env brr).1.brrt i).srcAddr = (brr.brrt i).srcAddr := by
    rcases passed with same | ⟨-, skipped⟩
    · rw [same]
    · rw [skipped, skipChild]
  rw [← kept]
  cases nent <;> rfl

/-- **One step keeps the marks.** -/
theorem marked_step (few : FewNeighbors env) {call : RelayCall} (ok : Marked env s)
    (taken : relayStep spill env s call = some t) : Marked env t := by
  intro j used
  cases call with
  | forward buf srcAddr dstAddr seqNum =>
      rcases forward_entry taken with ⟨-, rfl⟩ | ⟨-, i, enters⟩
      · exact ok j used
      · by_cases same : j = i
        · rw [same, enters.entry, enters.heard]
          exact EntOk.new ..
        · obtain ⟨kept, keptHeard, -⟩ := enters.others j same
          rw [kept] at used ⊢
          rw [keptHeard]
          exact ok j used
  | overheard macSrc srcAddr seqNum =>
      cases taken
      rcases overheard_cases spill env macSrc srcAddr seqNum s with
        eq | ⟨n, source, ⟨-, eq⟩ | ⟨i, found, eq⟩⟩
      · rw [eq] at used ⊢
        exact ok j used
      · rw [eq] at used ⊢
        exact (ok j used).mono (noteHeard_sub n srcAddr seqNum s j)
      · obtain ⟨addr, -, place⟩ := Option.bind_eq_some_iff.1 source
        have small := neighborGetByShort_few few place
        rw [eq, markAcked_entry small] at used
        rw [eq, markAcked_entry small, markAcked_heard]
        by_cases same : j = i
        · have marked := (ok i (findEnt_eq_some found).1).overheard small
          rw [← noteHeard_found found] at marked
          rw [if_pos same, same]
          exact ⟨marked.marked, marked.next⟩
        · rw [if_neg same] at used ⊢
          exact (ok j used).mono (noteHeard_sub n srcAddr seqNum s j)
  | transmition timer param =>
      cases taken
      rw [ok.iterates.entry few] at used
      rw [ok.iterates.entry few, transmition_heard]
      cases made : madeCopy (s.env env timer) param s.brr with
      | none =>
          simp only [made] at used ⊢
          rw [passed_used (selectEnt_passed s.brr j)] at used
          exact ok.passed timer used
      | some copy =>
          obtain ⟨i, nent⟩ := copy
          simp only [made] at used ⊢
          by_cases same : j = i
          · rw [if_pos same] at used ⊢
            rw [settleEnt, Bool.and_eq_true, copiedEnt_used] at used
            rw [same]
            have copied := ok.copied few made used.1
            exact ⟨copied.marked, copied.next⟩
          · rw [if_neg same] at used ⊢
            rw [passed_used (selectEnt_passed s.brr j)] at used
            exact ok.passed timer used
  | confirm k =>
      rw [relayStep] at taken
      split at taken
      · cases taken
        exact ok j used
      · cases taken

/-- An entry that is given up at the start of the table, before its last broadcast, has at
most one neighbour to wait for. -/
theorem isLast_early {env : NwkEnv} {ent : ZbNwkBroadcastRetransmit} (last : isLast env 0 ent = true)
    (early : ent.retries < zbNwkMaxBroadcastRetries) :
    ent.neighborTableIterator = none ∧ ((passiveAckDevNum env).toNat = 0 ∨
      ((passiveAckDevNum env).toNat = 1 ∧ ent.srcAddr ≠ env.pibShortAddress)) := by
  simp only [isLast, Bool.and_eq_true, Option.isNone_iff_eq_none, Bool.or_eq_true, beq_iff_eq,
    bne_iff_ne] at last
  obtain ⟨done, (often | ⟨none_, -⟩) | ⟨⟨some_, one⟩, foreign⟩⟩ := last
  · exact (UInt8.not_le.2 early (of_decide_eq_true often)).elim
  · exact ⟨done, .inl none_.symm⟩
  · exact ⟨done, .inr ⟨by omega, foreign⟩⟩

/-- **How an entry is let go of**: everyone who is asked has acknowledged, or its last copy has
been sent. -/
inductive LetsGo (spill : Nat → Nat → ZbNwkBrrt → ZbNwkBrrt) (env : NwkEnv) (s : RelayState)
    (j : Nat) : RelayCall → RelayState → Prop where
  | acked (macSrc : Option UInt16) (srcAddr : UInt16) (seqNum : UInt8) (n : Nat) (small : n < 8)
      (found : findEnt s srcAddr seqNum = some j)
      (acked : allAcked env (markHeard n (s.brr.brrt j)) = true)
      (counted : markHeard n (s.brr.brrt j) ∈ countedEnt env s (.overheard macSrc srcAddr seqNum)) :
      LetsGo spill env s j (.overheard macSrc srcAddr seqNum)
        (markAcked spill env j n { s with heard := noteHeard n srcAddr seqNum s })
  | sent (timer : ZbTime) (param : UInt8) (nent : Option Nat)
      (made : madeCopy (s.env env timer) param s.brr = some (j, nent))
      (last : lastCopy (s.env env timer) s.brr j nent = true) :
      LetsGo spill env s j (.transmition timer param) (transmition spill (s.env env timer) param s)

theorem letsGo_of_leaves (few : FewNeighbors env) (iterates : Iterates env s) {call : RelayCall}
    (taken : relayStep spill env s call = some t) {j : Nat} (leaves : Leaves s t j) :
    LetsGo spill env s j call t := by
  obtain ⟨before, after⟩ := leaves
  cases call with
  | forward buf srcAddr dstAddr seqNum =>
      exfalso
      rcases forward_entry taken with ⟨-, rfl⟩ | ⟨-, i, enters⟩
      · exact Bool.false_ne_true (after.symm.trans before)
      · by_cases same : j = i
        · rw [same, enters.entry] at after
          cases after
        · rw [(enters.others j same).1] at after
          exact Bool.false_ne_true (after.symm.trans before)
  | overheard macSrc srcAddr seqNum =>
      cases taken
      rcases overheard_cases spill env macSrc srcAddr seqNum s with
        eq | ⟨n, source, ⟨-, eq⟩ | ⟨i, found, eq⟩⟩
      · rw [eq] at after
        exact (Bool.false_ne_true (after.symm.trans before)).elim
      · rw [eq] at after
        exact (Bool.false_ne_true (after.symm.trans before)).elim
      · obtain ⟨addr, -, place⟩ := Option.bind_eq_some_iff.1 source
        have small := neighborGetByShort_few few place
        rw [eq, markAcked_entry small] at after
        by_cases same : j = i
        · subst same
          rw [if_pos rfl] at after
          rw [eq]
          refine .acked macSrc srcAddr seqNum n small found ?_ ?_
          · simpa [before] using after
          · simp [countedEnt, source, found]
        · rw [if_neg same] at after
          exact (Bool.false_ne_true (after.symm.trans before)).elim
  | transmition timer param =>
      cases taken
      rw [iterates.entry few] at after
      have passed : ((selectEnt (s.env env timer) s.brr).1.brrt j).used = true := by
        rw [passed_used (selectEnt_passed s.brr j), before]
      cases made : madeCopy (s.env env timer) param s.brr with
      | none =>
          simp only [made] at after
          exact (Bool.false_ne_true (after.symm.trans passed)).elim
      | some copy =>
          obtain ⟨i, nent⟩ := copy
          simp only [made] at after
          by_cases same : j = i
          · subst same
            rw [if_pos rfl] at after
            refine .sent timer param nent made ?_
            simpa [settleEnt, copiedEnt_used, before] using after
          · rw [if_neg same] at after
            exact (Bool.false_ne_true (after.symm.trans passed)).elim
  | confirm k =>
      rw [relayStep] at taken
      split at taken
      · cases taken
        exact (Bool.false_ne_true (after.symm.trans before)).elim
      · cases taken

/-- An entry that stays, and has no child to go to, was broadcast once. -/
theorem isLast_stays {env : NwkEnv} {counter : Nat} {ent : ZbNwkBroadcastRetransmit}
    (stays : isLast env counter ent = false) (done : ent.neighborTableIterator = none) :
    ent.retries < zbNwkMaxBroadcastRetries := by
  rw [← UInt8.not_le]
  intro often
  simp [isLast, done, often] at stays

/-- The iterator goes on from a child, to the end at most. -/
theorem skipChild_iterator {env : NwkEnv} {ent : ZbNwkBroadcastRetransmit} (few : FewNeighbors env)
    {c : Nat} (next : ent.neighborTableIterator = some c) (served : ServedChild env ent.dstAddr c) :
    c + 1 ≤ (skipChild env ent).neighborTableIterator.getD 8 := by
  have small := served_few few served
  simp only [skipChild, next, Option.map_some, Option.getD_some]
  cases found : zbNwkNeighborNextZeChildrenI env ent.dstAddr (c + 1) with
  | none => exact small
  | some d => exact (nextZeChildren_eq_some found).1

/-- An entry the loops pass over. -/
theorem Seldom.passed (few : FewNeighbors env) (iterates : Iterates env s) (seldom : Seldom s)
    (timer : ZbTime) {i : Nat} (used : (s.brr.brrt i).used = true) :
    ((selectEnt (s.env env timer) s.brr).1.brrt i).retries.toNat ≤
      ((selectEnt (s.env env timer) s.brr).1.brrt i).neighborTableIterator.getD 8 + 1 := by
  have before := seldom i used
  have passed : Passed (s.env env timer) (s.brr.brrt i)
      ((selectEnt (s.env env timer) s.brr).1.brrt i) := selectEnt_passed s.brr i
  rcases passed with same | ⟨⟨-, c, next, -⟩, skipped⟩
  · rwa [same]
  · have on := skipChild_iterator (few_env few s timer) next (iterates i used c next)
    have kept : (skipChild (s.env env timer) (s.brr.brrt i)).retries = (s.brr.brrt i).retries := rfl
    rw [next, Option.getD_some] at before
    rw [skipped, kept]
    omega

/-- An entry that is copied, and stays. -/
theorem Seldom.copied (few : FewNeighbors env) (iterates : Iterates env s) (seldom : Seldom s)
    {timer : ZbTime} {param : UInt8} {i : Nat} {nent : Option Nat}
    (made : madeCopy (s.env env timer) param s.brr = some (i, nent))
    (used : (s.brr.brrt i).used = true)
    (stays : lastCopy (s.env env timer) s.brr i nent = false) :
    (copiedEnt (s.env env timer) s.brr i nent).retries.toNat ≤
      (copiedEnt (s.env env timer) s.brr i nent).neighborTableIterator.getD 8 + 1 := by
  have before := seldom i used
  rw [lastCopy] at stays
  cases done : (copiedEnt (s.env env timer) s.brr i nent).neighborTableIterator with
  | none =>
      have once := UInt8.lt_iff_toNat_lt.1 (isLast_stays stays done)
      have two : zbNwkMaxBroadcastRetries.toNat = 2 := rfl
      rw [Option.getD_none]
      omega
  | some d =>
      have chosen := (madeCopy_eq_some made).2
      have spec : Selected (s.env env timer) s.brr (selectEnt (s.env env timer) s.brr).1
          (selectEnt (s.env env timer) s.brr).2 := selectEnt_spec s.brr
      rw [chosen] at spec
      have wraps := Nat.mod_le ((s.brr.brrt i).retries.toNat + 1) 64
      rw [copiedEnt] at done ⊢
      rw [Option.getD_some]
      cases spec with
      | first i used fresh same =>
          have one : (markCopied (s.env env timer) none ((selectEnt (s.env env timer) s.brr).1.brrt i)).retries
              = 1 := by
            rw [same, markCopied, fresh]
            rfl
          rw [one]
          exact Nat.le_add_left 1 d
      | child i c sent inside toChild kept cnt passed =>
          have on := skipChild_iterator (few_env few s timer) toChild.next
            (iterates i used c toChild.next)
          rw [kept] at done ⊢
          change (skipChild (s.env env timer) (s.brr.brrt i)).neighborTableIterator = some d at done
          change (s.brr.brrt i).retries.toNat ≤ d + 1
          rw [toChild.next, Option.getD_some] at before
          rw [done, Option.getD_some] at on
          omega
      | later sel sent skipped cnt passed due =>
          obtain ⟨rfl, inside, -⟩ := due i nent rfl
          change ((selectEnt (s.env env timer) s.brr).1.brrt i).neighborTableIterator = some d at done
          have busy : (s.brr.brrt i).neighborTableIterator ≠ none := by
            intro idle
            rcases passed i with same | ⟨⟨-, c, next, -⟩, -⟩
            · rw [same, idle] at done
              cases done
            · rw [idle] at next
              cases next
          obtain ⟨⟨-, c, next, -⟩, skip⟩ := skipped i inside used busy
          have on := skipChild_iterator (few_env few s timer) next (iterates i used c next)
          rw [← skip, done, Option.getD_some] at on
          rw [next, Option.getD_some] at before
          have count : (markCopied (s.env env timer) none
              ((selectEnt (s.env env timer) s.brr).1.brrt i)).retries.toNat ≤
                (s.brr.brrt i).retries.toNat + 1 := by
            rw [skip]
            change (((s.brr.brrt i).retries + 1) % 64).toNat ≤ _
            rw [UInt8.toNat_mod, UInt8.toNat_add]
            exact (Nat.mod_le _ _).trans (Nat.mod_le _ _)
          omega

/-- **One step keeps the frames from being repeated too often.** -/
theorem seldom_step (few : FewNeighbors env) (iterates : Iterates env s) {call : RelayCall}
    (seldom : Seldom s) (taken : relayStep spill env s call = some t) : Seldom t := by
  intro j used
  cases call with
  | forward buf srcAddr dstAddr seqNum =>
      rcases forward_entry taken with ⟨-, rfl⟩ | ⟨-, i, enters⟩
      · exact seldom j used
      · by_cases same : j = i
        · rw [same, enters.entry]
          exact Nat.zero_le _
        · rw [(enters.others j same).1] at used ⊢
          exact seldom j used
  | overheard macSrc srcAddr seqNum =>
      cases taken
      rcases overheard_cases spill env macSrc srcAddr seqNum s with
        eq | ⟨n, source, ⟨-, eq⟩ | ⟨i, found, eq⟩⟩
      · rw [eq] at used ⊢
        exact seldom j used
      · rw [eq] at used ⊢
        exact seldom j used
      · obtain ⟨addr, -, place⟩ := Option.bind_eq_some_iff.1 source
        have small := neighborGetByShort_few few place
        rw [eq, markAcked_entry small] at used ⊢
        by_cases same : j = i
        · rw [if_pos same]
          exact seldom i (findEnt_eq_some found).1
        · rw [if_neg same] at used ⊢
          exact seldom j used
  | transmition timer param =>
      cases taken
      rw [iterates.entry few] at used ⊢
      have passed : ((selectEnt (s.env env timer) s.brr).1.brrt j).used = (s.brr.brrt j).used :=
        passed_used (selectEnt_passed s.brr j)
      cases made : madeCopy (s.env env timer) param s.brr with
      | none =>
          simp only [made] at used ⊢
          exact seldom.passed few iterates timer (passed ▸ used)
      | some copy =>
          obtain ⟨i, nent⟩ := copy
          simp only [made] at used ⊢
          by_cases same : j = i
          · rw [if_pos same] at used ⊢
            rw [settleEnt, Bool.and_eq_true, copiedEnt_used, Bool.not_eq_true'] at used
            exact seldom.copied few iterates made used.1 used.2
          · rw [if_neg same] at used ⊢
            exact seldom.passed few iterates timer (passed ▸ used)
  | confirm k =>
      rw [relayStep] at taken
      split at taken
      · cases taken
        exact seldom j used
      · cases taken

/-- **A frame that is given up before its last broadcast** was found by one of the first two
loops, so that the counter is 0. -/
theorem counter_of_early (seldom : Seldom s) {timer : ZbTime} {param : UInt8} {i : Nat}
    {nent : Option Nat} (made : madeCopy (s.env env timer) param s.brr = some (i, nent))
    (few : FewNeighbors env) (iterates : Iterates env s)
    (early : (copiedEnt (s.env env timer) s.brr i nent).retries < zbNwkMaxBroadcastRetries) :
    loopCounter (s.env env timer) s.brr = 0 := by
  have used := madeCopy_used made
  by_contra placed
  obtain ⟨rfl, begun⟩ := loopCounter_ne_zero (madeCopy_eq_some made).2 placed used
  have positive : (s.brr.brrt i).retries.toNat ≠ 0 := fun zero => begun (UInt8.toNat_inj.1 zero)
  have bound : (s.brr.brrt i).neighborTableIterator.getD 8 ≤ 8 := by
    cases next : (s.brr.brrt i).neighborTableIterator with
    | none => exact Nat.le_refl 8
    | some c => exact (served_few few (iterates i used c next)).le
  have before := seldom i used
  have kept : ((selectEnt (s.env env timer) s.brr).1.brrt i).retries = (s.brr.brrt i).retries := by
    have passed : Passed (s.env env timer) (s.brr.brrt i)
      ((selectEnt (s.env env timer) s.brr).1.brrt i) := selectEnt_passed s.brr i
    rcases passed with same | ⟨-, skipped⟩
    · rw [same]
    · rw [skipped, skipChild]
  have count : (copiedEnt (s.env env timer) s.brr i none).retries.toNat =
      (s.brr.brrt i).retries.toNat + 1 := by
    rw [copiedEnt, markCopied, kept, UInt8.toNat_mod, UInt8.toNat_add]
    simp
    omega
  have two : zbNwkMaxBroadcastRetries.toNat = 2 := rfl
  have less := UInt8.lt_iff_toNat_lt.1 early
  omega

/-- **One step stops rightly** where the marks it counts fit. -/
theorem stopsRightly_step (few : FewNeighbors env) (ok : Marked env s) (seldom : Seldom s)
    {call : RelayCall} (fits : CountsRight env s call) : StopsRightly spill env s call := by
  intro t taken j leaves early
  have before := leaves.1
  cases letsGo_of_leaves few ok.iterates taken leaves with
  | acked macSrc srcAddr seqNum n small found acked counted =>
      rw [markAcked_entry small, if_pos rfl] at early
      rw [markAcked_heard]
      have marked := (ok j before).overheard small
      rw [← noteHeard_found found] at marked
      have heard := marked.allHeard few acked (fits _ counted early acked)
      exact heard
  | sent timer param nent made last =>
      rw [ok.iterates.entry few] at early
      simp only [made, if_true] at early
      rw [transmition_heard]
      have early : (copiedEnt (s.env env timer) s.brr j nent).retries < zbNwkMaxBroadcastRetries :=
        early
      rw [lastCopy, counter_of_early seldom made few ok.iterates early] at last
      obtain ⟨done, number⟩ := isLast_early last early
      have counted : copiedEnt (s.env env timer) s.brr j nent ∈
          countedEnt env s (.transmition timer param) := by
        simp [countedEnt, made, done]
      intro n mem other
      rcases number with none_ | ⟨one, foreign⟩
      · -- nobody is asked
        have empty := (passiveAckDevNum_toNat few).symm.trans none_
        rw [Finset.card_eq_zero.1 empty] at mem
        cases mem
      · rw [← copiedEnt_srcAddr (s.env env timer) s.brr j nent] at other
        have marked := fits _ counted early foreign (UInt8.toNat_inj.1 one) n mem other
        exact ((ok.copied few made before).marked n marked).resolve_right fun out => out mem

/-- **A broadcast stops early when it is heard.**  In a run where marks that are as many
as are asked for fit, a frame that leaves the table before its last broadcast was
overheard from every router and coordinator among the neighbours but its source. -/
theorem stops_when_heard (spill : Nat → Nat → ZbNwkBrrt → ZbNwkBrrt) {env : NwkEnv}
    (few : FewNeighbors env) (calls : List RelayCall)
    (fits : Along (relayStep spill env) (CountsRight env) RelayState.init calls) :
    Along (relayStep spill env) (StopsRightly spill env) RelayState.init calls := by
  have keeps : ∀ s call t, (Marked env s ∧ Seldom s) → CountsRight env s call →
      relayStep spill env s call = some t → Marked env t ∧ Seldom t :=
    fun _ _ _ ok _ taken =>
      ⟨marked_step few ok.1 taken, seldom_step few ok.1.iterates ok.2 taken⟩
  exact along_of_invariant keeps (fun _ _ ok counts => stopsRightly_step few ok.1 ok.2 counts)
    ⟨marked_init env, seldom_init⟩ fits

end Runs

/-! ## Poles -/

/-- A device with the short address 5 and two neighbours, a coordinator with the address 0
and one with the address 6. -/
def twoNeighbors (deviceType : UInt8) (relationship : ZbNwkRelationship) : NwkEnv where
  timer := 0
  pibShortAddress := 5
  neighbor :=
    { baseNeighbor n :=
        if n = 0 then
          { newNeighbor 0 0 with deviceType := zbNwkDeviceTypeCoordinator, relationship := .parent }
        else if n = 1 then
          { newNeighbor 1 0 with deviceType := deviceType, relationship := relationship }
        else { newNeighbor n 0 with used := false }
      addrToNeighbor ref := if ref = 0 then 0 else if ref = 1 then 1 else 255
      baseNeighborSize := 32
      baseNeighborUsed := 2 }
  addr :=
    { ZbAddrGlobals.init with
      addrMap ref := { ZbAddrGlobals.init.addrMap ref with addr := if ref = 0 then 0 else 6, used := true }
      shortSorted ref := ref
      nElements := 2
      nSortedElements := 2 }
  nwkSrcAddr _ := 0
  joined := true
  sent _ := true
  leaveWaits _ := false

theorem twoNeighbors_few (deviceType : UInt8) (relationship : ZbNwkRelationship) :
    FewNeighbors (twoNeighbors deviceType relationship) := by
  refine ⟨?_, by simp [twoNeighbors], ?_⟩
  · intro n used
    by_contra far
    have first : n ≠ 0 := by omega
    have second : n ≠ 1 := by omega
    simp [twoNeighbors, first, second] at used
  · intro ref indexed
    by_cases first : ref = 0
    · simp [twoNeighbors, first]
    · by_cases second : ref = 1
      · simp [twoNeighbors, second]
      · simp [twoNeighbors, first, second] at indexed

/-- A frame of the device's own is broadcast once and overheard from both routers. -/
def heardByBoth : List RelayCall :=
  [.forward 1 5 0xFFFF 7, .transmition 0 2, .overheard (some 0) 5 7, .overheard (some 6) 5 7]

instance decidableMarksFit (env : NwkEnv) (ent : ZbNwkBroadcastRetransmit) :
    Decidable (MarksFit env ent) :=
  inferInstanceAs (Decidable (_ ∧ _))

instance decidableCountsRight (env : NwkEnv) (s : RelayState) :
    (call : RelayCall) → Decidable (CountsRight env s call)
  | .forward _ _ _ _ => inferInstanceAs (Decidable True)
  | .overheard macSrc srcAddr seqNum =>
      inferInstanceAs (Decidable (∀ ent ∈ countedEnt env s (.overheard macSrc srcAddr seqNum), _))
  | .transmition timer param =>
      inferInstanceAs (Decidable (∀ ent ∈ countedEnt env s (.transmition timer param), _))
  | .confirm _ => inferInstanceAs (Decidable True)

theorem stops_when_heard_byBoth :
    (run (relayStep (fun _ _ t => t) (twoNeighbors zbNwkDeviceTypeRouter .sibling))
        RelayState.init heardByBoth).map
      (fun s => ((s.brr.brrt 0).used, s.heard 0)) = some (false, [1, 0]) ∧
    Along (relayStep (fun _ _ t => t) (twoNeighbors zbNwkDeviceTypeRouter .sibling))
      (StopsRightly (fun _ _ t => t) (twoNeighbors zbNwkDeviceTypeRouter .sibling))
      RelayState.init heardByBoth :=
  ⟨by decide +kernel,
    stops_when_heard (fun _ _ t => t) (twoNeighbors_few zbNwkDeviceTypeRouter .sibling) heardByBoth
      (by decide +kernel)⟩

/-- A frame of the end device next to the coordinator, for the routers, broadcast once. -/
def broadcastOnce : List RelayCall :=
  [.forward 1 6 0xFFFC 7, .transmition 0 2]

/-- **The counter counts as acks**: it is 0, all but one of the routers, and the
coordinator was not overheard. -/
theorem counter_counts_as_acks :
    ¬ ∀ (env : NwkEnv) (calls : List RelayCall), FewNeighbors env →
      Along (relayStep (fun _ _ t => t) env) (StopsRightly (fun _ _ t => t) env)
        RelayState.init calls := by
  intro claim
  have along := claim (twoNeighbors zbNwkDeviceTypeEd .child) broadcastOnce
    (twoNeighbors_few zbNwkDeviceTypeEd .child)
  have cut : broadcastOnce = [.forward 1 6 0xFFFC 7] ++ [.transmition 0 2] := rfl
  rw [cut, along_append] at along
  obtain ⟨s, ran, before⟩ := Option.map_eq_some_iff.1
    (by decide +kernel : (run (relayStep (fun _ _ t => t) (twoNeighbors zbNwkDeviceTypeEd .child))
      RelayState.init [.forward 1 6 0xFFFC 7]).map
        (fun s => ((s.brr.brrt 0).used, (s.brr.brrt 0).srcAddr)) = some (true, 6))
  obtain ⟨t, ranAll, after⟩ := Option.map_eq_some_iff.1
    (by decide +kernel : (run (relayStep (fun _ _ t => t) (twoNeighbors zbNwkDeviceTypeEd .child))
      RelayState.init broadcastOnce).map
        (fun t => ((t.brr.brrt 0).used, (t.brr.brrt 0).retries, t.heard 0)) = some (false, 1, []))
  rw [cut, run_append, ran, Option.bind_some, run_cons_eq_some] at ranAll
  obtain ⟨t', taken, rest⟩ := ranAll
  cases rest
  simp only [Prod.mk.injEq] at before after
  obtain ⟨used, srcAddr⟩ := before
  obtain ⟨unused, retries, heard⟩ := after
  have all := (along.2 s ran).1 t taken 0 ⟨used, unused⟩ (by rw [retries]; decide)
  rw [srcAddr, heard] at all
  exact absurd (all 0 (by decide +kernel) (by decide +kernel)) (List.not_mem_nil)

end Zboss.Nwk.PassiveAck
