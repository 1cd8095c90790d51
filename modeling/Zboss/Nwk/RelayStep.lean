/-
# Nwk.RelayStep -- what one activation does to each entry

`selectEnt_spec`: the three loops pass over the entries whose next child is the
originator, and pick at most one entry.  `transmition_entry`: an activation of
`nwk_broadcast_transmition` leaves every entry as the loops left it, except the one it
copies (`settleEnt`); `markAcked_entry` is the same for an overheard copy.  All of it is
for a neighbour table whose entries lie in the first eight places (`FewNeighbors`):
the marks of an entry have one byte.
-/
import Mathlib
import Zboss.Common.Constants
import Zboss.Nwk.Relay

namespace Zboss.Nwk.RelayStep

open Zboss.Common.Constants
open Zboss.Common.Types
open Zboss.Common.Scheduler
open Zboss.Common.Address
open Zboss.Nwk.Neighbor
open Zboss.Nwk.Broadcast
open Zboss.Nwk.Relay

set_option autoImplicit false

/-- The neighbours lie in the first eight places of the table. -/
structure FewNeighbors (env : NwkEnv) : Prop where
  used : ∀ n, (env.neighbor.baseNeighbor n).used = true → n < 8
  filled : env.neighbor.baseNeighborUsed ≤ 8
  indexed : ∀ ref, env.neighbor.addrToNeighbor ref ≠ 255 →
    (env.neighbor.addrToNeighbor ref).toNat < 8

/-- The short address of the neighbour at a place. -/
def neighborShort (env : NwkEnv) (n : Nat) : UInt16 :=
  zbAddressShortByRef (env.neighbor.baseNeighbor n).addrRef env

/-! ## Children -/

/-- An end device child that a broadcast to `dstAddr` is sent to. -/
def ServedChild (env : NwkEnv) (dstAddr : UInt16) (n : Nat) : Prop :=
  n < env.neighbor.baseNeighborUsed ∧
    ((env.neighbor.baseNeighbor n).used = true ∧
      ((env.neighbor.baseNeighbor n).relationship = .child ∨
        (env.neighbor.baseNeighbor n).relationship = .unauthenticatedChild) ∧
      (env.neighbor.baseNeighbor n).deviceType = zbNwkDeviceTypeEd ∧
      (dstAddr = zbNwkBroadcastAllDevices ∨
        (dstAddr = zbNwkBroadcastRxOnWhenIdle ∧
          (env.neighbor.baseNeighbor n).rxOnWhenIdle = true)))

section Children

variable {env : NwkEnv} {dstAddr : UInt16} {i c n : Nat}

/-- The condition of the scan. -/
theorem servedChild_iff : ServedChild env dstAddr n ↔ n < env.neighbor.baseNeighborUsed ∧
    ((env.neighbor.baseNeighbor n).used &&
      ((env.neighbor.baseNeighbor n).relationship == .child ||
        (env.neighbor.baseNeighbor n).relationship == .unauthenticatedChild) &&
      (env.neighbor.baseNeighbor n).deviceType == zbNwkDeviceTypeEd &&
      (dstAddr == zbNwkBroadcastAllDevices ||
        (dstAddr == zbNwkBroadcastRxOnWhenIdle &&
          (env.neighbor.baseNeighbor n).rxOnWhenIdle))) = true := by
  simp only [ServedChild, Bool.and_eq_true, Bool.or_eq_true, beq_iff_eq, and_assoc]

theorem nextZeChildren_eq_some (found : zbNwkNeighborNextZeChildrenI env dstAddr i = some c) :
    i ≤ c ∧ ServedChild env dstAddr c ∧ ∀ n, i ≤ n → n < c → ¬ ServedChild env dstAddr n := by
  obtain ⟨served, inside, before⟩ := List.find?_range'_eq_some.1 found
  rw [List.mem_range'_1] at inside
  have within : c < env.neighbor.baseNeighborUsed := by omega
  refine ⟨inside.1, servedChild_iff.2 ⟨within, served⟩, ?_⟩
  intro n le lt served'
  have missed := before n le lt
  rw [Bool.not_eq_true'] at missed
  exact Bool.false_ne_true (missed.symm.trans (servedChild_iff.1 served').2)

theorem nextZeChildren_eq_none (none_ : zbNwkNeighborNextZeChildrenI env dstAddr i = none) :
    ∀ n, i ≤ n → ¬ ServedChild env dstAddr n := by
  intro n le served
  have within := served.1
  have missed := List.find?_eq_none.1 none_ n (List.mem_range'_1.2 ⟨le, by omega⟩)
  exact missed (servedChild_iff.1 served).2

end Children

/-! ## The loops -/

/-- The next child is the originator. -/
def AtOriginator (env : NwkEnv) (ent : ZbNwkBroadcastRetransmit) : Prop :=
  ent.used = true ∧ ∃ c, ent.neighborTableIterator = some c ∧
    neighborShort env c = env.nwkSrcAddr ent.buf

/-- The iterator goes on. -/
def skipChild (env : NwkEnv) (ent : ZbNwkBroadcastRetransmit) : ZbNwkBroadcastRetransmit :=
  { ent with
    neighborTableIterator := zbNwkNeighborNextZeChildrenI env ent.dstAddr
      ((ent.neighborTableIterator.map (· + 1)).getD 0) }

/-- What the loops leave of an entry. -/
def Passed (env : NwkEnv) (ent ent' : ZbNwkBroadcastRetransmit) : Prop :=
  ent' = ent ∨ (AtOriginator env ent ∧ ent' = skipChild env ent)

section Loops

variable {env : NwkEnv} {t t' : ZbNwkBrrt}

theorem setEnt_self (t : ZbNwkBrrt) (i : Nat) (ent : ZbNwkBroadcastRetransmit) :
    (t.setEnt i ent).brrt i = ent := by
  simp [ZbNwkBrrt.setEnt]

theorem setEnt_of_ne (t : ZbNwkBrrt) {i j : Nat} (ne : j ≠ i) (ent : ZbNwkBroadcastRetransmit) :
    (t.setEnt i ent).brrt j = t.brrt j := by
  simp [ZbNwkBrrt.setEnt, ne]

/-- What the second loop finds in the entry it stops at. -/
structure ToChild (env : NwkEnv) (ent : ZbNwkBroadcastRetransmit) (c : Nat) : Prop where
  used : ent.used = true
  next : ent.neighborTableIterator = some c
  other : neighborShort env c ≠ env.nwkSrcAddr ent.buf

/-- What the second loop does on a table, entry by entry. -/
structure Scanned (env : NwkEnv) (is : List Nat) (t t' : ZbNwkBrrt) (sel : Option (Nat × Nat)) :
    Prop where
  cnt : t'.brrtCnt = t.brrtCnt
  passed : ∀ j, Passed env (t.brrt j) (t'.brrt j)
  outside : ∀ j, j ∉ is → t'.brrt j = t.brrt j
  picked : ∀ i c, sel = some (i, c) → i ∈ is ∧ ToChild env (t.brrt i) c ∧ t'.brrt i = t.brrt i
  nothing : sel = none → ∀ j ∈ is, (t.brrt j).used = true →
    (t.brrt j).neighborTableIterator ≠ none →
      AtOriginator env (t.brrt j) ∧ t'.brrt j = skipChild env (t.brrt j)

/-- The entry is passed over: it goes on as it was left. -/
theorem Scanned.cons {i : Nat} {is : List Nat} {ent : ZbNwkBroadcastRetransmit}
    {sel : Option (Nat × Nat)} (nodup : (i :: is).Nodup)
    (passed : Passed env (t.brrt i) ent)
    (skipped : (t.brrt i).used = true → (t.brrt i).neighborTableIterator ≠ none →
      AtOriginator env (t.brrt i) ∧ ent = skipChild env (t.brrt i))
    (rest : Scanned env is (t.setEnt i ent) t' sel) : Scanned env (i :: is) t t' sel := by
  have fresh : i ∉ is := (List.nodup_cons.1 nodup).1
  have here : t'.brrt i = ent := by rw [rest.outside i fresh, setEnt_self]
  refine ⟨rest.cnt, ?_, ?_, ?_, ?_⟩
  · intro j
    by_cases same : j = i
    · rw [same, here]
      exact passed
    · have after := rest.passed j
      rwa [setEnt_of_ne t same] at after
  · intro j out
    obtain ⟨ne, out⟩ := not_or.1 fun either => out (List.mem_cons.2 either)
    rw [rest.outside j out, setEnt_of_ne t ne]
  · intro j c eq
    obtain ⟨mem, child, kept⟩ := rest.picked j c eq
    have ne : j ≠ i := fun same => fresh (same ▸ mem)
    rw [setEnt_of_ne t ne] at child kept
    exact ⟨List.mem_cons_of_mem i mem, child, kept⟩
  · intro eq j mem used iterator
    rcases List.mem_cons.1 mem with rfl | mem
    · rw [here]
      exact skipped used iterator
    · have ne : j ≠ i := fun same => fresh (same ▸ mem)
      have after := rest.nothing eq j mem
      rw [setEnt_of_ne t ne] at after
      exact after used iterator

theorem setEnt_id (t : ZbNwkBrrt) (i : Nat) : t.setEnt i (t.brrt i) = t := by
  simp [ZbNwkBrrt.setEnt]

theorem toUnicast_skip {i : Nat} {is : List Nat} (at_ : AtOriginator env (t.brrt i)) :
    toUnicast env (i :: is) t = toUnicast env is (t.setEnt i (skipChild env (t.brrt i))) := by
  obtain ⟨used, c, next, originator⟩ := at_
  rw [neighborShort] at originator
  simp [toUnicast, skipChild, used, next, originator]

theorem toUnicast_pick {i c : Nat} {is : List Nat} (child : ToChild env (t.brrt i) c) :
    toUnicast env (i :: is) t = (t, some (i, c)) := by
  have other := child.other
  rw [neighborShort] at other
  simp [toUnicast, child.used, child.next, other]

theorem toUnicast_pass {i : Nat} {is : List Nat}
    (idle : (t.brrt i).used = true → (t.brrt i).neighborTableIterator = none) :
    toUnicast env (i :: is) t = toUnicast env is t := by
  cases used : (t.brrt i).used with
  | false => simp [toUnicast, used]
  | true => simp [toUnicast, used, idle used]

/-- **The second loop** stops at the first entry with a child to send to, and has passed
over those before it. -/
theorem toUnicast_spec {is : List Nat} (nodup : is.Nodup) (t : ZbNwkBrrt) :
    Scanned env is t (toUnicast env is t).1 (toUnicast env is t).2 := by
  induction is generalizing t with
  | nil =>
      refine ⟨rfl, fun j => .inl rfl, fun j _ => rfl, ?_, ?_⟩
      · intro i c impossible
        cases impossible
      · intro _ j mem
        cases mem
  | cons i is ih =>
      have rest := (List.nodup_cons.1 nodup).2
      by_cases idle : (t.brrt i).used = true → (t.brrt i).neighborTableIterator = none
      · rw [toUnicast_pass idle]
        have tail := ih rest t
        refine Scanned.cons nodup (.inl rfl) ?_ (by rwa [setEnt_id])
        intro used some_
        exact (some_ (idle used)).elim
      · obtain ⟨used, busy⟩ := Classical.not_imp.1 idle
        obtain ⟨c, next⟩ := Option.ne_none_iff_exists'.1 busy
        by_cases originator : neighborShort env c = env.nwkSrcAddr (t.brrt i).buf
        · have at_ : AtOriginator env (t.brrt i) := ⟨used, c, next, originator⟩
          rw [toUnicast_skip at_]
          exact Scanned.cons nodup (.inr ⟨at_, rfl⟩) (fun _ _ => ⟨at_, rfl⟩) (ih rest _)
        · rw [toUnicast_pick ⟨used, next, originator⟩]
          refine ⟨rfl, fun j => .inl rfl, fun j _ => rfl, ?_, ?_⟩
          · intro j d eq
            cases eq
            exact ⟨List.mem_cons_self, ⟨used, next, originator⟩, rfl⟩
          · intro impossible
            cases impossible

/-- **What the three loops pick**: `none` for the child is a broadcast. -/
inductive Selected (env : NwkEnv) (t t' : ZbNwkBrrt) : Option (Nat × Option Nat) → Prop
  /-- A frame that has not been sent at all. -/
  | first (i : Nat) (used : (t.brrt i).used = true) (retries : (t.brrt i).retries = 0)
      (same : t' = t) : Selected env t t' (some (i, none))
  /-- A frame for a child. -/
  | child (i c : Nat) (sent : ∀ j < zbNwkBrrTableSize, (t.brrt j).used = true →
        (t.brrt j).retries ≠ 0)
      (inside : i < zbNwkBrrTableSize)
      (toChild : ToChild env (t.brrt i) c) (kept : t'.brrt i = t.brrt i)
      (cnt : t'.brrtCnt = t.brrtCnt) (passed : ∀ j, Passed env (t.brrt j) (t'.brrt j)) :
      Selected env t t' (some (i, some c))
  /-- A frame whose time has come, or none. -/
  | later (sel : Option (Nat × Option Nat))
      (sent : ∀ j < zbNwkBrrTableSize, (t.brrt j).used = true → (t.brrt j).retries ≠ 0)
      (skipped : ∀ j < zbNwkBrrTableSize, (t.brrt j).used = true →
        (t.brrt j).neighborTableIterator ≠ none →
          AtOriginator env (t.brrt j) ∧ t'.brrt j = skipChild env (t.brrt j))
      (cnt : t'.brrtCnt = t.brrtCnt) (passed : ∀ j, Passed env (t.brrt j) (t'.brrt j))
      (due : ∀ i nent, sel = some (i, nent) → nent = none ∧ i < zbNwkBrrTableSize ∧
        (t'.brrt i).used = true) : Selected env t t' sel

theorem selectEnt_spec (t : ZbNwkBrrt) :
    Selected env t (selectEnt env t).1 (selectEnt env t).2 := by
  rw [selectEnt]
  cases fresh : (List.range zbNwkBrrTableSize).find? fun i =>
      (t.brrt i).used && (t.brrt i).retries == 0 with
  | some i =>
      have found := List.find?_some fresh
      simp only [Bool.and_eq_true, beq_iff_eq] at found
      exact .first i found.1 found.2 rfl
  | none =>
      have sent : ∀ j < zbNwkBrrTableSize, (t.brrt j).used = true → (t.brrt j).retries ≠ 0 := by
        intro j lt used zero
        have missed := List.find?_eq_none.1 fresh j (List.mem_range.2 lt)
        simp [used, zero] at missed
      have scan : Scanned env (List.range zbNwkBrrTableSize) t
          (toUnicast env (List.range zbNwkBrrTableSize) t).1
          (toUnicast env (List.range zbNwkBrrTableSize) t).2 := toUnicast_spec List.nodup_range t
      generalize toUnicast env (List.range zbNwkBrrTableSize) t = r at scan
      obtain ⟨t', _ | ⟨i, c⟩⟩ := r
      · have skipped : ∀ j < zbNwkBrrTableSize, (t.brrt j).used = true →
            (t.brrt j).neighborTableIterator ≠ none →
              AtOriginator env (t.brrt j) ∧ t'.brrt j = skipChild env (t.brrt j) :=
          fun j lt => scan.nothing rfl j (List.mem_range.2 lt)
        cases due : (List.range zbNwkBrrTableSize).find? fun i =>
            (t'.brrt i).used && decide (zbTimeGe env.timer (t'.brrt i).nextRetransmit) with
        | none =>
            simp only [due]
            refine .later none sent skipped scan.cnt scan.passed ?_
            intro i nent impossible
            cases impossible
        | some i =>
            simp only [due]
            refine .later (some (i, none)) sent skipped scan.cnt scan.passed ?_
            intro j nent eq
            cases eq
            have found := List.find?_some due
            simp only [Bool.and_eq_true] at found
            exact ⟨rfl, List.mem_range.1 (List.mem_of_find?_eq_some due), found.1⟩
      · obtain ⟨mem, toChild, kept⟩ := scan.picked i c rfl
        exact .child i c sent (List.mem_range.1 mem) toChild kept scan.cnt scan.passed

theorem passed_used {ent ent' : ZbNwkBroadcastRetransmit} (passed : Passed env ent ent') :
    ent'.used = ent.used := by
  rcases passed with rfl | ⟨-, rfl⟩ <;> rfl

theorem selectEnt_passed (t : ZbNwkBrrt) (j : Nat) :
    Passed env (t.brrt j) ((selectEnt env t).1.brrt j) := by
  have spec : Selected env t (selectEnt env t).1 (selectEnt env t).2 := selectEnt_spec t
  generalize selectEnt env t = r at spec ⊢
  obtain ⟨t', sel⟩ := r
  cases spec with
  | first i used retries same => exact .inl (congrArg (·.brrt j) same)
  | child i c sent inside toChild kept cnt passed => exact passed j
  | later sel sent skipped cnt passed due => exact passed j

/-- **What is left in the counter**: a place only where the third loop stopped, at a frame
that has been broadcast. -/
theorem loopCounter_ne_zero {i : Nat} {nent : Option Nat}
    (chosen : (selectEnt env t).2 = some (i, nent)) (placed : loopCounter env t ≠ 0)
    (used : (t.brrt i).used = true) : nent = none ∧ (t.brrt i).retries ≠ 0 := by
  rw [selectEnt] at chosen
  rw [loopCounter] at placed
  cases fresh : (List.range zbNwkBrrTableSize).find? fun i =>
      (t.brrt i).used && (t.brrt i).retries == 0 with
  | some k => simp [fresh] at placed
  | none =>
      simp only [fresh] at chosen placed
      generalize toUnicast env (List.range zbNwkBrrTableSize) t = r at chosen placed
      obtain ⟨t', _ | ⟨k, c⟩⟩ := r
      · simp only at chosen
        cases due : (List.range zbNwkBrrTableSize).find? fun i =>
            (t'.brrt i).used && decide (zbTimeGe env.timer (t'.brrt i).nextRetransmit) with
        | none =>
            rw [due] at chosen
            cases chosen
        | some k =>
            rw [due] at chosen
            cases chosen
            refine ⟨rfl, ?_⟩
            intro zero
            have missed := List.find?_eq_none.1 fresh i (List.mem_of_find?_eq_some due)
            simp [used, zero] at missed
      · exact (placed rfl).elim

theorem madeCopy_eq_some {param : UInt8} {copy : Nat × Option Nat}
    (made : madeCopy env param t = some copy) : param ≠ 0 ∧ (selectEnt env t).2 = some copy := by
  rw [madeCopy] at made
  by_cases zero : param = 0
  · simp [zero] at made
  · exact ⟨zero, (if_neg zero).symm.trans made⟩

/-- A copy is of an entry in the table. -/
theorem madeCopy_used {param : UInt8} {i : Nat} {nent : Option Nat}
    (made : madeCopy env param t = some (i, nent)) : (t.brrt i).used = true := by
  have chosen := (madeCopy_eq_some made).2
  have spec : Selected env t (selectEnt env t).1 (selectEnt env t).2 := selectEnt_spec t
  rw [chosen] at spec
  cases spec with
  | first i used retries same => exact used
  | child i c sent inside toChild kept cnt passed => exact toChild.used
  | later sel sent skipped cnt passed due =>
      rw [← passed_used (passed i)]
      exact (due i nent rfl).2.2

/-- A copy for a child is of an entry the loops did not touch. -/
theorem madeCopy_child {param : UInt8} {i c : Nat} (made : madeCopy env param t = some (i, some c)) :
    ToChild env (t.brrt i) c ∧ (selectEnt env t).1.brrt i = t.brrt i := by
  have chosen := (madeCopy_eq_some made).2
  have spec : Selected env t (selectEnt env t).1 (selectEnt env t).2 := selectEnt_spec t
  rw [chosen] at spec
  cases spec with
  | child i c sent inside toChild kept cnt passed => exact ⟨toChild, kept⟩
  | later sel sent skipped cnt passed due => cases (due i (some c) rfl).1

end Loops

/-! ## One activation -/

/-- The entry after a copy has been made of it. -/
def markCopied (env : NwkEnv) (nent : Option Nat) (ent : ZbNwkBroadcastRetransmit) :
    ZbNwkBroadcastRetransmit :=
  match nent with
  | some c =>
      { skipChild env ent with passiveAck := ent.passiveAck ||| 1 <<< UInt8.ofNat c }
  | none =>
      { ent with
        nextRetransmit := env.timer + zbNwkRreqRetryInterval
        retries := (ent.retries + 1) % 64 }

/-- The entry is given up after its last copy. -/
def settleEnt (last : Bool) (ent : ZbNwkBroadcastRetransmit) : ZbNwkBroadcastRetransmit :=
  { ent with used := ent.used && !last }

section Activation

variable {spill : Nat → Nat → ZbNwkBrrt → ZbNwkBrrt} {env : NwkEnv} {param : UInt8}
  {s : RelayState} {i j : Nat} {nent : Option Nat}

theorem setEnt_setEnt (t : ZbNwkBrrt) (i : Nat) (ent ent' : ZbNwkBroadcastRetransmit) :
    (t.setEnt i ent).setEnt i ent' = t.setEnt i ent' := by
  simp [ZbNwkBrrt.setEnt]

theorem setPassiveAck_few {n : Nat} (few : n < 8) (i : Nat) (t : ZbNwkBrrt) :
    setPassiveAck spill i n t =
      t.setEnt i { t.brrt i with passiveAck := (t.brrt i).passiveAck ||| 1 <<< UInt8.ofNat n } := by
  rw [setPassiveAck, if_pos few]

theorem markSent_few (few : ∀ c, nent = some c → c < 8) (i : Nat) (t : ZbNwkBrrt) :
    markSent spill env i nent t = t.setEnt i (markCopied env nent (t.brrt i)) := by
  cases nent with
  | none => rfl
  | some c =>
      simp only [markSent, setPassiveAck_few (few c rfl), setEnt_self, setEnt_setEnt]
      rfl

theorem markCopied_buf (env : NwkEnv) (nent : Option Nat) (ent : ZbNwkBroadcastRetransmit) :
    (markCopied env nent ent).buf = ent.buf := by
  cases nent <;> rfl

/-- The entry an activation copies, once it is marked. -/
def copiedEnt (env : NwkEnv) (brr : ZbNwkBrrt) (i : Nat) (nent : Option Nat) :
    ZbNwkBroadcastRetransmit :=
  markCopied env nent ((selectEnt env brr).1.brrt i)

/-- The copy is the last one of its entry. -/
def lastCopy (env : NwkEnv) (brr : ZbNwkBrrt) (i : Nat) (nent : Option Nat) : Bool :=
  isLast env (loopCounter env brr) (copiedEnt env brr i nent)

/-- **One activation**: the loops, and the entry that is copied. -/
theorem transmition_entry (few : ∀ i c, madeCopy env param s.brr = some (i, some c) → c < 8)
    (j : Nat) :
    (transmition spill env param s).brr.brrt j =
      match madeCopy env param s.brr with
      | some (i, nent) =>
          if j = i then settleEnt (lastCopy env s.brr i nent) (copiedEnt env s.brr i nent)
          else (selectEnt env s.brr).1.brrt j
      | none => (selectEnt env s.brr).1.brrt j := by
  simp only [transmition, nwkBroadcastTransmition, madeCopy, lastCopy, copiedEnt] at few ⊢
  generalize loopCounter env s.brr = counter
  generalize selectEnt env s.brr = r at few ⊢
  obtain ⟨t, _ | ⟨i, nent⟩⟩ := r
  · cases decide (param = 0) <;> simp
  · by_cases zero : param = 0
    · simp [zero]
    · have small : ∀ c, nent = some c → c < 8 := by
        rintro c rfl
        exact few i c (by simp [zero])
      simp only [if_neg zero, markSent_few small, setEnt_self, setEnt_setEnt]
      cases last : isLast env counter (markCopied env nent (t.brrt i)) with
      | true =>
          by_cases same : j = i
          · simp [same, settleEnt, ZbNwkBrrt.setEnt]
          · simp [same, ZbNwkBrrt.setEnt]
      | false =>
          by_cases same : j = i
          · simp [same, settleEnt, ZbNwkBrrt.setEnt]
          · simp [same, ZbNwkBrrt.setEnt]

/-- **The buffers of an activation**: it gives its own to the MAC with a copy, or frees it
and gives the frame's for the last one. -/
theorem activation_buffers
    (few : ∀ i c, madeCopy env param s.brr = some (i, some c) → c < 8)
    (apart : ∀ i nent, madeCopy env param s.brr = some (i, nent) →
      ((selectEnt env s.brr).1.brrt i).buf ≠ param) :
    submitted (nwkBroadcastTransmition spill env param s.brr).2 =
        (match madeCopy env param s.brr with
        | some (i, nent) =>
            if lastCopy env s.brr i nent then [((copiedEnt env s.brr i nent).buf, false)]
            else [(param, true)]
        | none => []) ∧
      freed (nwkBroadcastTransmition spill env param s.brr).2 =
        match madeCopy env param s.brr with
        | some (i, nent) => if lastCopy env s.brr i nent then [param] else []
        | none => if param = 0 then [] else [param] := by
  rcases selected : selectEnt env s.brr with ⟨t, _ | ⟨i, nent⟩⟩
  · simp only [nwkBroadcastTransmition, madeCopy, selected]
    by_cases zero : param = 0
    · by_cases empty : t.brrtCnt = 0 <;> simp [zero, empty, submitted, freed]
    · by_cases empty : t.brrtCnt = 0 <;> simp [zero, empty, submitted, freed]
  · by_cases zero : param = 0
    · simp [nwkBroadcastTransmition, madeCopy, selected, zero, submitted, freed]
    · have made : madeCopy env param s.brr = some (i, nent) := by
        simp [madeCopy, zero, selected]
      have small : ∀ c, nent = some c → c < 8 := by
        rintro c rfl
        exact few i c made
      have other : param ≠ (markCopied env nent (t.brrt i)).buf := by
        rw [markCopied_buf]
        have apart := apart i nent made
        rw [selected] at apart
        exact apart.symm
      simp only [made, nwkBroadcastTransmition, lastCopy, copiedEnt, selected, if_neg zero,
        markSent_few small, setEnt_self]
      generalize loopCounter env s.brr = counter
      generalize markCopied env nent (t.brrt i) = ent at other
      generalize t.setEnt i ent = t'
      cases last : isLast env counter ent with
      | true =>
          cases nent <;> by_cases empty : t'.brrtCnt - 1 = 0 <;> simp [submitted, freed, empty]
      | false =>
          cases nent <;> by_cases empty : t'.brrtCnt = 0 <;>
            simp [submitted, freed, empty, other]

end Activation

/-! ## One overheard copy -/

section Overheard

variable {spill : Nat → Nat → ZbNwkBrrt → ZbNwkBrrt} {env : NwkEnv} {s : RelayState} {i n : Nat}

/-- The entry with one more mark. -/
def markHeard (n : Nat) (ent : ZbNwkBroadcastRetransmit) : ZbNwkBroadcastRetransmit :=
  { ent with passiveAck := ent.passiveAck ||| 1 <<< UInt8.ofNat n }

/-- **One overheard copy** changes the entry of the frame only. -/
theorem markAcked_entry (few : n < 8) (j : Nat) :
    (markAcked spill env i n s).brr.brrt j =
      if j = i then
        { markHeard n (s.brr.brrt i) with
          used := (s.brr.brrt i).used && !allAcked env (markHeard n (s.brr.brrt i)) }
      else s.brr.brrt j := by
  simp only [markAcked, setPassiveAck_few few, setEnt_self, setEnt_setEnt]
  change (if allAcked env (markHeard n (s.brr.brrt i)) = true then _ else _ : RelayState).brr.brrt j = _
  cases complete : allAcked env (markHeard n (s.brr.brrt i)) with
  | true => by_cases same : j = i <;> simp [same, ZbNwkBrrt.setEnt, markHeard]
  | false => by_cases same : j = i <;> simp [same, ZbNwkBrrt.setEnt, markHeard]

theorem markAcked_unconfirmed (few : n < 8) :
    (markAcked spill env i n s).unconfirmed = s.unconfirmed ++
      if allAcked env (markHeard n (s.brr.brrt i)) then [((s.brr.brrt i).buf, false)] else [] := by
  simp only [markAcked, setPassiveAck_few few, setEnt_self, setEnt_setEnt]
  change (if allAcked env (markHeard n (s.brr.brrt i)) = true then _ else _ :
    RelayState).unconfirmed = _
  cases allAcked env (markHeard n (s.brr.brrt i)) <;> simp

end Overheard

end Zboss.Nwk.RelayStep
