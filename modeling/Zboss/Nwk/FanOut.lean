/-
# Nwk.FanOut -- each broadcast, each child, each buffer

What `nwk_broadcast_transmition` makes of the frames in the table, over every run.

* `fanOut`: a frame that leaves the table was broadcast once or twice, and was sent once
  to each end device child it is for, the originator aside;
* every original that enters the table is there, waits for its confirm or has been
  confirmed, and every buffer obtained for a copy has been freed, waits for its confirm
  or has been confirmed (`originals_step`, `helpers_step`).

The runs are those where the stack hands over free buffers and no two children share the
originator's address (`Handed`), and an overheard copy that completes the marks finds the
frame broadcast and no child waiting (`AckedLate`).  The code asks for the last in the
callback only, not where a copy is overheard: `acked_before_child` and
`acked_before_sent` are the two ways a frame is dropped too early.
-/
import Mathlib
import Zboss.Common.Constants
import Zboss.Theory.Table
import Zboss.Nwk.PassiveAck

namespace Zboss.Nwk.FanOut

open Zboss.Common.Constants
open Zboss.Theory.Run
open Zboss.Theory.Table
open Zboss.Common.Types
open Zboss.Common.Scheduler
open Zboss.Common.Address
open Zboss.Nwk.Neighbor
open Zboss.Nwk.Broadcast
open Zboss.Nwk.Relay
open Zboss.Nwk.RelayStep
open Zboss.Nwk.PassiveAck

set_option autoImplicit false

/-! ## One entry -/

/-- A child the frame is for, other than its originator. -/
def Due (env : NwkEnv) (ent : ZbNwkBroadcastRetransmit) (n : Nat) : Prop :=
  ServedChild env ent.dstAddr n ∧ neighborShort env n ≠ ent.srcAddr

/-- The iterator has not come to the child. -/
def Waiting (ent : ZbNwkBroadcastRetransmit) (n : Nat) : Prop :=
  ∃ c, ent.neighborTableIterator = some c ∧ c ≤ n

/-- No two children a broadcast to `dstAddr` is for have the source address. -/
def OneOriginator (env : NwkEnv) (srcAddr dstAddr : UInt16) : Prop :=
  ∀ a < env.neighbor.baseNeighborUsed, ∀ b < env.neighbor.baseNeighborUsed,
    ServedChild env dstAddr a → ServedChild env dstAddr b →
      neighborShort env a = srcAddr → neighborShort env b = srcAddr → a = b

/-- What has been sent of a frame, by its entry. -/
structure Fanned (env : NwkEnv) (src : UInt8 → UInt16) (sent : List (Option Nat))
    (ent : ZbNwkBroadcastRetransmit) : Prop where
  source : src ent.buf = ent.srcAddr
  originator : OneOriginator env ent.srcAddr ent.dstAddr
  next : ∀ c, ent.neighborTableIterator = some c → ServedChild env ent.dstAddr c
  broadcasts : sent.count none = ent.retries.toNat
  served : ∀ n, Due env ent n → ¬ Waiting ent n → sent.count (some n) = 1
  spared : ∀ n, ¬ (Due env ent n ∧ ¬ Waiting ent n) → sent.count (some n) = 0

/-- A frame that was broadcast twice stays for a child only. -/
structure Stays (env : NwkEnv) (ent : ZbNwkBroadcastRetransmit) : Prop where
  often : ent.retries ≤ zbNwkMaxBroadcastRetries
  child : ent.retries = zbNwkMaxBroadcastRetries → ∃ c, ent.neighborTableIterator = some c ∧
    ∀ n, c ≤ n → ServedChild env ent.dstAddr n → neighborShort env n ≠ ent.srcAddr

section Entry

variable {env : NwkEnv} {src : UInt8 → UInt16} {sent : List (Option Nat)}
  {ent : ZbNwkBroadcastRetransmit} {c n : Nat}

theorem Fanned.new (env : NwkEnv) (src : UInt8 → UInt16) (buf : UInt8) (srcAddr dstAddr : UInt16)
    (old : ZbNwkBroadcastRetransmit) (source : src buf = srcAddr)
    (originator : OneOriginator env srcAddr dstAddr) :
    Fanned env src [] (newEnt env buf srcAddr dstAddr old) := by
  refine ⟨source, originator, ?_, rfl, ?_, fun n _ => rfl⟩
  · intro c found
    exact (nextZeChildren_eq_some found).2.1
  · intro n due idle
    exfalso
    cases found : zbNwkNeighborNextZeChildrenI env dstAddr 0 with
    | none => exact nextZeChildren_eq_none found n (Nat.zero_le n) due.1
    | some c =>
        obtain ⟨-, -, before⟩ := nextZeChildren_eq_some found
        have ahead : ¬ c ≤ n := fun le => idle ⟨c, found, le⟩
        exact before n (Nat.zero_le n) (by omega) due.1

theorem Stays.new (env : NwkEnv) (buf : UInt8) (srcAddr dstAddr : UInt16)
    (old : ZbNwkBroadcastRetransmit) : Stays env (newEnt env buf srcAddr dstAddr old) := by
  refine ⟨by simp [newEnt, zbNwkMaxBroadcastRetries], ?_⟩
  intro twice
  exact absurd twice (by simp [newEnt, zbNwkMaxBroadcastRetries])

/-- The iterator comes to the children in order. -/
theorem waiting_skip (next : ent.neighborTableIterator = some c) (served : ServedChild env ent.dstAddr n) :
    Waiting (skipChild env ent) n ↔ Waiting ent n ∧ n ≠ c := by
  have step : (skipChild env ent).neighborTableIterator =
      zbNwkNeighborNextZeChildrenI env ent.dstAddr (c + 1) := by
    simp [skipChild, next]
  rw [Waiting, step]
  constructor
  · rintro ⟨d, found, le⟩
    obtain ⟨behind, -, -⟩ := nextZeChildren_eq_some found
    exact ⟨⟨c, next, by omega⟩, by omega⟩
  · rintro ⟨⟨d, at_, le⟩, ne⟩
    cases at_.symm.trans next
    cases found : zbNwkNeighborNextZeChildrenI env ent.dstAddr (c + 1) with
    | none => exact (nextZeChildren_eq_none found n (by omega) served).elim
    | some d =>
        obtain ⟨-, -, before⟩ := nextZeChildren_eq_some found
        refine ⟨d, rfl, ?_⟩
        by_contra far
        exact before n (by omega) (by omega) served

/-- A child the loops pass over has the source address. -/
theorem Fanned.atOriginator {env' : NwkEnv} (ok : Fanned env src sent ent)
    (at_ : AtOriginator env' ent) (neighbor : env'.neighbor = env.neighbor)
    (addr : env'.addr = env.addr) (nwkSrcAddr : env'.nwkSrcAddr = src) :
    ∃ c, ent.neighborTableIterator = some c ∧ neighborShort env c = ent.srcAddr := by
  obtain ⟨-, c, next, originator⟩ := at_
  refine ⟨c, next, ?_⟩
  rw [← ok.source, ← nwkSrcAddr, ← originator, neighborShort, neighborShort, zbAddressShortByRef,
    zbAddressShortByRef, neighbor, addr]

/-- **The originator is passed over**: it is not due. -/
theorem Fanned.passed {env' : NwkEnv} {ent' : ZbNwkBroadcastRetransmit}
    (ok : Fanned env src sent ent) (passed : Passed env' ent ent')
    (neighbor : env'.neighbor = env.neighbor) (addr : env'.addr = env.addr)
    (nwkSrcAddr : env'.nwkSrcAddr = src) : Fanned env src sent ent' := by
  rcases passed with rfl | ⟨at_, rfl⟩
  · exact ok
  · obtain ⟨c, next, own⟩ := ok.atOriginator at_ neighbor addr nwkSrcAddr
    have skip : skipChild env' ent = skipChild env ent := by
      simp only [skipChild, zbNwkNeighborNextZeChildrenI, neighbor]
    have same : ∀ n, Due env ent n → (Waiting (skipChild env ent) n ↔ Waiting ent n) := by
      intro n due
      rw [waiting_skip next due.1]
      refine and_iff_left ?_
      rintro rfl
      exact due.2 own
    rw [skip]
    refine ⟨ok.source, ok.originator, ?_, ok.broadcasts, ?_, ?_⟩
    · intro d found
      exact (nextZeChildren_eq_some found).2.1
    · intro n due idle
      exact ok.served n due fun waits => idle ((same n due).2 waits)
    · intro n spared
      refine ok.spared n ?_
      rintro ⟨due, idle⟩
      exact spared ⟨due, fun waits => idle ((same n due).1 waits)⟩

theorem Fanned.heard (ok : Fanned env src sent ent) (n : Nat) :
    Fanned env src sent (markHeard n ent) :=
  ⟨ok.source, ok.originator, ok.next, ok.broadcasts, ok.served, ok.spared⟩

theorem Stays.heard (ok : Stays env ent) (n : Nat) : Stays env (markHeard n ent) :=
  ⟨ok.often, ok.child⟩

/-- A child gets its copy. -/
theorem Fanned.child (ok : Fanned env src sent ent) (next : ent.neighborTableIterator = some c)
    (other : neighborShort env c ≠ ent.srcAddr) :
    Fanned env src (some c :: sent) (markCopied env (some c) ent) := by
  have due : Due env ent c := ⟨ok.next c next, other⟩
  have waits : ∀ n, ServedChild env ent.dstAddr n →
      (Waiting (markCopied env (some c) ent) n ↔ Waiting ent n ∧ n ≠ c) :=
    fun n served => waiting_skip next served
  refine ⟨ok.source, ok.originator, ?_, ?_, ?_, ?_⟩
  · intro d found
    exact (nextZeChildren_eq_some found).2.1
  · rw [List.count_cons_of_ne (by simp)]
    exact ok.broadcasts
  · intro n dueN idle
    by_cases same : n = c
    · have before : sent.count (some c) = 0 :=
        ok.spared c fun both => both.2 ⟨c, next, Nat.le_refl c⟩
      rw [same, List.count_cons_self, before]
    · rw [List.count_cons_of_ne (by simpa using fun eq => same eq.symm)]
      exact ok.served n dueN fun waiting => idle ((waits n dueN.1).2 ⟨waiting, same⟩)
  · intro n spared
    have ne : n ≠ c := by
      rintro rfl
      exact spared ⟨due, fun waiting => ((waits n due.1).1 waiting).2 rfl⟩
    rw [List.count_cons_of_ne (by simpa using fun eq => ne eq.symm)]
    refine ok.spared n ?_
    rintro ⟨dueN, idle⟩
    exact spared ⟨dueN, fun waiting => idle ((waits n dueN.1).1 waiting).1⟩

/-- One more broadcast. -/
theorem Fanned.broadcast (ok : Fanned env src sent ent) (env' : NwkEnv)
    (seldom : ent.retries < zbNwkMaxBroadcastRetries) :
    Fanned env src (none :: sent) (markCopied env' none ent) ∧
      (markCopied env' none ent).retries.toNat = ent.retries.toNat + 1 := by
  have few : ent.retries.toNat < 2 := UInt8.lt_iff_toNat_lt.1 seldom
  have count : (markCopied env' none ent).retries.toNat = ent.retries.toNat + 1 := by
    simp only [markCopied, UInt8.toNat_mod, UInt8.toNat_add]
    simp
    omega
  refine ⟨⟨ok.source, ok.originator, ok.next, ?_, ?_, ?_⟩, count⟩
  · rw [List.count_cons_self, ok.broadcasts, count]
  · intro n due idle
    rw [List.count_cons_of_ne (by simp)]
    exact ok.served n due idle
  · intro n spared
    rw [List.count_cons_of_ne (by simp)]
    exact ok.spared n spared

end Entry

/-! ## One activation -/

/-- The invariant of the table. -/
structure Fans (env : NwkEnv) (s : RelayState) : Prop where
  inside : ∀ i, (s.brr.brrt i).used = true → i < zbNwkBrrTableSize
  fanned : ∀ i, (s.brr.brrt i).used = true → Fanned env s.nwkSrcAddr (s.sent i) (s.brr.brrt i)
  stays : ∀ i, (s.brr.brrt i).used = true → Stays env (s.brr.brrt i)

/-- What a copy leaves of the entry it is made of. -/
structure Copied (env env' : NwkEnv) (src : UInt8 → UInt16) (sent : List (Option Nat))
    (ent : ZbNwkBroadcastRetransmit) : Prop where
  fanned : Fanned env src sent ent
  begun : 1 ≤ ent.retries.toNat
  often : ent.retries ≤ zbNwkMaxBroadcastRetries
  stays : ∀ counter, isLast env' counter ent = false → Stays env ent

section Activation

variable {spill : Nat → Nat → ZbNwkBrrt → ZbNwkBrrt} {env : NwkEnv} {s t : RelayState}
  {timer : ZbTime} {param : UInt8} {i : Nat}

theorem Fans.passed (ok : Fans env s) (timer : ZbTime) {i : Nat}
    (used : (s.brr.brrt i).used = true) :
    Fanned env s.nwkSrcAddr (s.sent i) ((selectEnt (s.env env timer) s.brr).1.brrt i) :=
  (ok.fanned i used).passed (selectEnt_passed s.brr i) rfl rfl rfl

theorem isLast_often {ent : ZbNwkBroadcastRetransmit} {counter : Nat}
    (last : isLast env counter ent = false) (twice : ent.retries = zbNwkMaxBroadcastRetries) :
    ent.neighborTableIterator ≠ none := by
  intro done
  simp [isLast, done, twice] at last

/-- The first broadcast. -/
theorem Fans.first (ok : Fans env s) (used : (s.brr.brrt i).used = true)
    (fresh : (s.brr.brrt i).retries = 0) (env' : NwkEnv) :
    Copied env env' s.nwkSrcAddr (none :: s.sent i) (markCopied env' none (s.brr.brrt i)) := by
  have seldom : (s.brr.brrt i).retries < zbNwkMaxBroadcastRetries := by
    rw [fresh]
    decide
  obtain ⟨fanned, count⟩ := (ok.fanned i used).broadcast env' seldom
  rw [fresh] at count
  have once : (markCopied env' none (s.brr.brrt i)).retries = 1 := UInt8.toNat_inj.1 count
  refine ⟨fanned, by rw [once]; decide, by rw [once]; decide, ?_⟩
  intro _ _
  refine ⟨by rw [once]; decide, ?_⟩
  intro twice
  rw [once] at twice
  exact absurd twice (by decide)

/-- A copy for a child. -/
theorem Fans.child (ok : Fans env s) {c : Nat} (toChild : ToChild (s.env env timer) (s.brr.brrt i) c)
    (begun : (s.brr.brrt i).retries ≠ 0) :
    Copied env (s.env env timer) s.nwkSrcAddr (some c :: s.sent i)
      (markCopied (s.env env timer) (some c) (s.brr.brrt i)) := by
  have fanned := ok.fanned i toChild.used
  have other : neighborShort env c ≠ (s.brr.brrt i).srcAddr := by
    rw [← fanned.source]
    exact toChild.other
  have stays := ok.stays i toChild.used
  refine ⟨fanned.child toChild.next other, ?_, stays.often, ?_⟩
  · have positive : (s.brr.brrt i).retries.toNat ≠ 0 := fun zero => begun (UInt8.toNat_inj.1 zero)
    exact Nat.one_le_iff_ne_zero.2 positive
  · intro counter last
    refine ⟨stays.often, ?_⟩
    intro twice
    obtain ⟨d, next⟩ := Option.ne_none_iff_exists'.1 (isLast_often last twice)
    obtain ⟨c', at_, others⟩ := stays.child twice
    cases at_.symm.trans toChild.next
    have found : zbNwkNeighborNextZeChildrenI (s.env env timer) (s.brr.brrt i).dstAddr (c + 1) =
        some d := by
      simpa [markCopied, skipChild, toChild.next] using next
    obtain ⟨behind, -, -⟩ := nextZeChildren_eq_some found
    refine ⟨d, next, ?_⟩
    intro n le served
    exact others n (by omega) served

/-- A frame whose time has come. -/
theorem Fans.later (ok : Fans env s) (used : (s.brr.brrt i).used = true)
    (skipped : (s.brr.brrt i).neighborTableIterator ≠ none →
      AtOriginator (s.env env timer) (s.brr.brrt i) ∧
        (selectEnt (s.env env timer) s.brr).1.brrt i = skipChild (s.env env timer) (s.brr.brrt i)) :
    Copied env (s.env env timer) s.nwkSrcAddr (none :: s.sent i)
      (markCopied (s.env env timer) none ((selectEnt (s.env env timer) s.brr).1.brrt i)) := by
  have fanned := ok.fanned i used
  have stays := ok.stays i used
  have passedFanned := ok.passed timer used
  have passed : Passed (s.env env timer) (s.brr.brrt i)
      ((selectEnt (s.env env timer) s.brr).1.brrt i) := selectEnt_passed s.brr i
  generalize (selectEnt (s.env env timer) s.brr).1.brrt i = ent at skipped passedFanned passed
  have same : ent.retries = (s.brr.brrt i).retries := by
    rcases passed with rfl | ⟨-, rfl⟩ <;> rfl
  -- an entry that was broadcast twice waits for a child that is not the originator
  have seldom : ent.retries < zbNwkMaxBroadcastRetries := by
    rw [same]
    refine UInt8.lt_of_le_of_ne stays.often ?_
    intro twice
    obtain ⟨c, waits, others⟩ := stays.child twice
    obtain ⟨d, next, own⟩ := fanned.atOriginator (skipped (by simp [waits])).1 rfl rfl rfl
    cases waits.symm.trans next
    exact others c (Nat.le_refl c) (fanned.next c next) own
  obtain ⟨broadcast, count⟩ := passedFanned.broadcast (s.env env timer) seldom
  have often : (markCopied (s.env env timer) none ent).retries ≤ zbNwkMaxBroadcastRetries := by
    have few : ent.retries.toNat < 2 := UInt8.lt_iff_toNat_lt.1 seldom
    rw [UInt8.le_iff_toNat_le, count]
    exact few
  refine ⟨broadcast, by rw [count]; omega, often, ?_⟩
  intro counter last
  refine ⟨often, ?_⟩
  intro twice
  obtain ⟨d, next⟩ := Option.ne_none_iff_exists'.1 (isLast_often last twice)
  have busy : (s.brr.brrt i).neighborTableIterator ≠ none := by
    intro idle
    rcases passed with rfl | ⟨⟨-, c, at_, -⟩, -⟩
    · cases idle.symm.trans next
    · cases idle.symm.trans at_
  obtain ⟨⟨-, c, at_, originator⟩, rfl⟩ := skipped busy
  have found : zbNwkNeighborNextZeChildrenI (s.env env timer) (s.brr.brrt i).dstAddr (c + 1) =
      some d := by
    simpa [markCopied, skipChild, at_] using next
  obtain ⟨behind, -, -⟩ := nextZeChildren_eq_some found
  have own : neighborShort env c = (s.brr.brrt i).srcAddr := by
    rw [← fanned.source]
    exact originator
  refine ⟨d, next, ?_⟩
  intro n le served shares
  have child := fanned.next c at_
  have first := fanned.originator c child.1 n served.1 child served own shares
  omega

/-- **The copy of an activation.** -/
theorem Fans.copied (ok : Fans env s) {nent : Option Nat}
    (made : madeCopy (s.env env timer) param s.brr = some (i, nent))
    (used : (s.brr.brrt i).used = true) :
    Copied env (s.env env timer) s.nwkSrcAddr (nent :: s.sent i)
      (copiedEnt (s.env env timer) s.brr i nent) := by
  have chosen := (madeCopy_eq_some made).2
  have spec : Selected (s.env env timer) s.brr (selectEnt (s.env env timer) s.brr).1
      (selectEnt (s.env env timer) s.brr).2 := selectEnt_spec s.brr
  rw [chosen] at spec
  rw [copiedEnt]
  cases spec with
  | first i used fresh same =>
      rw [same]
      exact ok.first used fresh (s.env env timer)
  | child i c sent inside toChild kept cnt passed =>
      rw [kept]
      exact ok.child toChild (sent i inside used)
  | later sel sent skipped cnt passed due =>
      obtain ⟨rfl, inside, -⟩ := due i nent rfl
      exact ok.later used (skipped i inside used)

end Activation

/-! ## One step -/

/-- The stack hands over free buffers, and a frame has one originator among the children. -/
def Handed (env : NwkEnv) (s : RelayState) : RelayCall → Prop
  | .forward buf srcAddr dstAddr _ =>
      (∀ i < zbNwkBrrTableSize, (s.brr.brrt i).used = true → (s.brr.brrt i).buf ≠ buf) ∧
        OneOriginator env srcAddr dstAddr
  | .transmition _ param =>
      param = 0 ∨ ∀ i < zbNwkBrrTableSize, (s.brr.brrt i).used = true → (s.brr.brrt i).buf ≠ param
  | _ => True

/-- An overheard copy that completes the marks finds the frame broadcast, and no child
waiting. -/
def AckedLate (env : NwkEnv) (s : RelayState) : RelayCall → Prop
  | .overheard macSrc srcAddr seqNum =>
      ∀ ent ∈ countedEnt env s (.overheard macSrc srcAddr seqNum), allAcked env ent = true →
        ent.retries ≠ 0 ∧
          ∀ n < env.neighbor.baseNeighborUsed, Due env ent n → ¬ Waiting ent n
  | _ => True

def Fair (env : NwkEnv) (s : RelayState) (call : RelayCall) : Prop :=
  Handed env s call ∧ AckedLate env s call

/-- What was sent of a frame that leaves. -/
structure SentOnce (env : NwkEnv) (srcAddr dstAddr : UInt16) (sent : List (Option Nat)) : Prop where
  atLeast : 1 ≤ sent.count none
  atMost : sent.count none ≤ zbNwkMaxBroadcastRetries.toNat
  child : ∀ n, ServedChild env dstAddr n → neighborShort env n ≠ srcAddr →
    sent.count (some n) = 1
  spared : ∀ n, ¬ (ServedChild env dstAddr n ∧ neighborShort env n ≠ srcAddr) →
    sent.count (some n) = 0

/-- The frames that leave the table in a step have been sent. -/
def FansOut (spill : Nat → Nat → ZbNwkBrrt → ZbNwkBrrt) (env : NwkEnv) (s : RelayState)
    (call : RelayCall) : Prop :=
  ∀ t, relayStep spill env s call = some t → ∀ i, Leaves s t i →
    SentOnce env (s.brr.brrt i).srcAddr (s.brr.brrt i).dstAddr (t.sent i)

section Steps

variable {spill : Nat → Nat → ZbNwkBrrt → ZbNwkBrrt} {env : NwkEnv} {s t : RelayState}

/-- A frame no child waits for has been sent. -/
theorem Fanned.sentOnce {src : UInt8 → UInt16} {sent : List (Option Nat)}
    {ent : ZbNwkBroadcastRetransmit} (ok : Fanned env src sent ent)
    (begun : 1 ≤ ent.retries.toNat) (often : ent.retries ≤ zbNwkMaxBroadcastRetries)
    (idle : ∀ n, Due env ent n → ¬ Waiting ent n) :
    SentOnce env ent.srcAddr ent.dstAddr sent := by
  refine ⟨?_, ?_, ?_, ?_⟩
  · rw [ok.broadcasts]
    exact begun
  · rw [ok.broadcasts]
    exact UInt8.le_iff_toNat_le.1 often
  · intro n child other
    exact ok.served n ⟨child, other⟩ (idle n ⟨child, other⟩)
  · intro n not
    exact ok.spared n fun both => not both.1

theorem Fanned.source_congr {src src' : UInt8 → UInt16} {sent : List (Option Nat)}
    {ent : ZbNwkBroadcastRetransmit} (ok : Fanned env src sent ent)
    (same : src' ent.buf = src ent.buf) : Fanned env src' sent ent :=
  ⟨same.trans ok.source, ok.originator, ok.next, ok.broadcasts, ok.served, ok.spared⟩

theorem Fans.iterates (ok : Fans env s) : Iterates env s := fun i used => (ok.fanned i used).next

theorem transmition_sent (env : NwkEnv) (param : UInt8) (s : RelayState) :
    (transmition spill env param s).sent =
      match madeCopy env param s.brr with
      | some (i, nent) => Function.update s.sent i (nent :: s.sent i)
      | none => s.sent := rfl

theorem transmition_nwkSrcAddr (env : NwkEnv) (param : UInt8) (s : RelayState) :
    (transmition spill env param s).nwkSrcAddr = s.nwkSrcAddr := rfl

theorem markAcked_sent (spill : Nat → Nat → ZbNwkBrrt → ZbNwkBrrt) (env : NwkEnv) (i n : Nat)
    (s : RelayState) :
    (markAcked spill env i n s).sent = s.sent ∧
      (markAcked spill env i n s).nwkSrcAddr = s.nwkSrcAddr := by
  rw [markAcked]
  split <;> exact ⟨rfl, rfl⟩

theorem Stays.passed {env' : NwkEnv} {src : UInt8 → UInt16} {sent : List (Option Nat)}
    {ent ent' : ZbNwkBroadcastRetransmit} (fanned : Fanned env src sent ent) (ok : Stays env ent)
    (passed : Passed env' ent ent') (neighbor : env'.neighbor = env.neighbor)
    (addr : env'.addr = env.addr) (nwkSrcAddr : env'.nwkSrcAddr = src) : Stays env ent' := by
  rcases passed with rfl | ⟨at_, rfl⟩
  · exact ok
  · obtain ⟨c, next, own⟩ := fanned.atOriginator at_ neighbor addr nwkSrcAddr
    refine ⟨ok.often, ?_⟩
    intro twice
    obtain ⟨d, waits, others⟩ := ok.child twice
    cases waits.symm.trans next
    exact (others c (Nat.le_refl c) (fanned.next c next) own).elim

/-- **One step keeps what has been sent of each frame.** -/
theorem fans_step (few : FewNeighbors env) {call : RelayCall} (ok : Fans env s)
    (fair : Fair env s call) (taken : relayStep spill env s call = some t) : Fans env t := by
  suffices each : ∀ j, (t.brr.brrt j).used = true → j < zbNwkBrrTableSize ∧
      Fanned env t.nwkSrcAddr (t.sent j) (t.brr.brrt j) ∧ Stays env (t.brr.brrt j) from
    ⟨fun j used => (each j used).1, fun j used => (each j used).2.1, fun j used => (each j used).2.2⟩
  intro j used
  cases call with
  | forward buf srcAddr dstAddr seqNum =>
      rcases forward_entry taken with ⟨-, rfl⟩ | ⟨-, i, enters⟩
      · exact ⟨ok.inside j used, ok.fanned j used, ok.stays j used⟩
      · by_cases same : j = i
        · rw [same, enters.entry, enters.sent, enters.nwkSrcAddr]
          exact ⟨enters.inside, Fanned.new env _ buf srcAddr dstAddr _ (by simp) fair.1.2, Stays.new ..⟩
        · obtain ⟨kept, -, keptSent⟩ := enters.others j same
          rw [kept] at used ⊢
          rw [keptSent, enters.nwkSrcAddr]
          have apart := fair.1.1 j (ok.inside j used) used
          exact ⟨ok.inside j used, (ok.fanned j used).source_congr (by simp [apart]), ok.stays j used⟩
  | overheard macSrc srcAddr seqNum =>
      cases taken
      rcases overheard_cases spill env macSrc srcAddr seqNum s with
        eq | ⟨n, source, ⟨-, eq⟩ | ⟨i, found, eq⟩⟩
      · rw [eq] at used ⊢
        exact ⟨ok.inside j used, ok.fanned j used, ok.stays j used⟩
      · rw [eq] at used ⊢
        exact ⟨ok.inside j used, ok.fanned j used, ok.stays j used⟩
      · obtain ⟨addr, -, place⟩ := Option.bind_eq_some_iff.1 source
        have small := neighborGetByShort_few few place
        obtain ⟨keptSent, keptAddr⟩ := markAcked_sent spill env i n
          { s with heard := noteHeard n srcAddr seqNum s }
        rw [eq, markAcked_entry small] at used
        rw [eq, markAcked_entry small, keptSent, keptAddr]
        by_cases same : j = i
        · have before := (findEnt_eq_some found).1
          have fanned := (ok.fanned i before).heard n
          have stays := (ok.stays i before).heard n
          rw [if_pos same, same]
          exact ⟨ok.inside i before,
            ⟨fanned.source, fanned.originator, fanned.next, fanned.broadcasts, fanned.served,
              fanned.spared⟩, ⟨stays.often, stays.child⟩⟩
        · rw [if_neg same] at used ⊢
          exact ⟨ok.inside j used, ok.fanned j used, ok.stays j used⟩
  | transmition timer param =>
      cases taken
      rw [ok.iterates.entry few] at used
      rw [ok.iterates.entry few, transmition_sent, transmition_nwkSrcAddr]
      have passed : (s.brr.brrt j).used = true → j < zbNwkBrrTableSize ∧
          Fanned env s.nwkSrcAddr (s.sent j) ((selectEnt (s.env env timer) s.brr).1.brrt j) ∧
            Stays env ((selectEnt (s.env env timer) s.brr).1.brrt j) := fun before =>
        ⟨ok.inside j before, ok.passed timer before,
          (ok.stays j before).passed (ok.fanned j before) (selectEnt_passed s.brr j) rfl rfl rfl⟩
      cases made : madeCopy (s.env env timer) param s.brr with
      | none =>
          simp only [made] at used ⊢
          rw [passed_used (selectEnt_passed s.brr j)] at used
          exact passed used
      | some copy =>
          obtain ⟨i, nent⟩ := copy
          simp only [made] at used ⊢
          by_cases same : j = i
          · rw [if_pos same] at used ⊢
            rw [settleEnt, Bool.and_eq_true, copiedEnt_used, Bool.not_eq_true'] at used
            have copied := ok.copied made used.1
            have fanned := copied.fanned
            have stays := copied.stays _ used.2
            rw [same, Function.update_self]
            exact ⟨ok.inside i used.1,
              ⟨fanned.source, fanned.originator, fanned.next, fanned.broadcasts, fanned.served,
                fanned.spared⟩, ⟨stays.often, stays.child⟩⟩
          · rw [if_neg same] at used ⊢
            rw [passed_used (selectEnt_passed s.brr j)] at used
            rw [Function.update_of_ne same]
            exact passed used
  | confirm k =>
      rw [relayStep] at taken
      split at taken
      · cases taken
        exact ⟨ok.inside j used, ok.fanned j used, ok.stays j used⟩
      · cases taken

theorem Copied.sentOnce {env' : NwkEnv} {src : UInt8 → UInt16} {sent : List (Option Nat)}
    {ent : ZbNwkBroadcastRetransmit} (copied : Copied env env' src sent ent) {counter : Nat}
    (last : isLast env' counter ent = true) : SentOnce env ent.srcAddr ent.dstAddr sent := by
  refine copied.fanned.sentOnce copied.begun copied.often ?_
  rintro n - ⟨c, next, -⟩
  simp [isLast, next] at last

/-- A copy is of the frame it was. -/
theorem copiedEnt_frame (env : NwkEnv) (brr : ZbNwkBrrt) (i : Nat) (nent : Option Nat) :
    (copiedEnt env brr i nent).srcAddr = (brr.brrt i).srcAddr ∧
      (copiedEnt env brr i nent).dstAddr = (brr.brrt i).dstAddr ∧
        (copiedEnt env brr i nent).buf = (brr.brrt i).buf := by
  have passed : Passed env (brr.brrt i) ((selectEnt env brr).1.brrt i) := selectEnt_passed brr i
  rw [copiedEnt]
  rcases passed with same | ⟨-, skipped⟩
  · rw [same]
    cases nent <;> exact ⟨rfl, rfl, rfl⟩
  · rw [skipped]
    cases nent <;> exact ⟨rfl, rfl, rfl⟩

/-- **One step lets go of what has been sent only.** -/
theorem fansOut_step (few : FewNeighbors env) (ok : Fans env s) {call : RelayCall}
    (fair : Fair env s call) : FansOut spill env s call := by
  intro t taken j leaves
  have before := leaves.1
  cases letsGo_of_leaves few ok.iterates taken leaves with
  | acked macSrc srcAddr seqNum n small found acked counted =>
      rw [(markAcked_sent spill env j n _).1]
      obtain ⟨begun, idle⟩ := fair.2 _ counted acked
      have positive : 1 ≤ (s.brr.brrt j).retries.toNat :=
        Nat.one_le_iff_ne_zero.2 fun zero => begun (UInt8.toNat_inj.1 zero)
      exact (ok.fanned j before).sentOnce positive (ok.stays j before).often
        fun n due => idle n due.1.1 due
  | sent timer param nent made last =>
      rw [transmition_sent]
      simp only [made]
      obtain ⟨srcAddr, dstAddr, -⟩ := copiedEnt_frame (s.env env timer) s.brr j nent
      have sent := (ok.copied made before).sentOnce last
      rw [srcAddr, dstAddr] at sent
      rwa [Function.update_self]

end Steps

/-! ## The buffers -/

/-- The buffer an entry holds. -/
def entBuf (ent : ZbNwkBroadcastRetransmit) : Option UInt8 := if ent.used then some ent.buf else none

/-- The originals in the table. -/
def tableBufs (s : RelayState) : List UInt8 := held (fun i => entBuf (s.brr.brrt i)) zbNwkBrrTableSize

/-- The buffers whose confirm goes up. -/
def originals (bufs : List (UInt8 × Bool)) : List UInt8 := (bufs.filter fun b => !b.2).map Prod.fst

/-- The buffers whose confirm does not. -/
def helpers (bufs : List (UInt8 × Bool)) : List UInt8 := (bufs.filter fun b => b.2).map Prod.fst

/-- The frames that get an entry. -/
def accepted (s : RelayState) : RelayCall → List UInt8
  | .forward buf _ _ _ => if s.brr.brrtCnt.toNat < zbNwkBrrTableSize then [buf] else []
  | _ => []

def confirmed (s : RelayState) : RelayCall → List (UInt8 × Bool)
  | .confirm k => s.unconfirmed[k]?.toList
  | _ => []

/-- The buffers handed over for a copy. -/
def obtained : RelayCall → List UInt8
  | .transmition _ param => if param = 0 then [] else [param]
  | _ => []

/-- The buffers an activation gives back. -/
def released (spill : Nat → Nat → ZbNwkBrrt → ZbNwkBrrt) (env : NwkEnv) (s : RelayState) :
    RelayCall → List UInt8
  | .transmition timer param => freed (nwkBroadcastTransmition spill (s.env env timer) param s.brr).2
  | _ => []

section Buffers

variable {spill : Nat → Nat → ZbNwkBrrt → ZbNwkBrrt} {env : NwkEnv} {s t : RelayState}

theorem originals_append (bufs bufs' : List (UInt8 × Bool)) :
    originals (bufs ++ bufs') = originals bufs ++ originals bufs' := by
  simp [originals]

theorem helpers_append (bufs bufs' : List (UInt8 × Bool)) :
    helpers (bufs ++ bufs') = helpers bufs ++ helpers bufs' := by
  simp [helpers]

theorem entBuf_passed {ent ent' : ZbNwkBroadcastRetransmit} (passed : Passed env ent ent') :
    entBuf ent' = entBuf ent := by
  rcases passed with rfl | ⟨-, rfl⟩ <;> rfl

/-- The buffers of an activation that makes a copy, or none. -/
theorem Fans.buffers (few : FewNeighbors env) (ok : Fans env s)
    (spill : Nat → Nat → ZbNwkBrrt → ZbNwkBrrt) {timer : ZbTime} {param : UInt8}
    (fair : Fair env s (.transmition timer param)) :
    submitted (nwkBroadcastTransmition spill (s.env env timer) param s.brr).2 =
        (match madeCopy (s.env env timer) param s.brr with
        | some (i, nent) =>
            if lastCopy (s.env env timer) s.brr i nent then
              [((copiedEnt (s.env env timer) s.brr i nent).buf, false)]
            else [(param, true)]
        | none => []) ∧
      freed (nwkBroadcastTransmition spill (s.env env timer) param s.brr).2 =
        match madeCopy (s.env env timer) param s.brr with
        | some (i, nent) => if lastCopy (s.env env timer) s.brr i nent then [param] else []
        | none => if param = 0 then [] else [param] := by
  refine activation_buffers ?_ ?_
  · intro i c made
    exact served_few few (ok.iterates.served made)
  · intro i nent made
    have used := madeCopy_used made
    have apart := fair.1.resolve_left (madeCopy_eq_some made).1 i (ok.inside i used) used
    have passed : Passed (s.env env timer) (s.brr.brrt i)
      ((selectEnt (s.env env timer) s.brr).1.brrt i) := selectEnt_passed s.brr i
    rcases passed with same | ⟨-, skipped⟩
    · rwa [same]
    · rwa [skipped]

theorem transmition_unconfirmed (env : NwkEnv) (param : UInt8) (s : RelayState) :
    (transmition spill env param s).unconfirmed =
      s.unconfirmed ++ submitted (nwkBroadcastTransmition spill env param s.brr).2 := rfl

theorem settleEnt_entBuf (env : NwkEnv) (brr : ZbNwkBrrt) {i : Nat} {nent : Option Nat}
    (used : (brr.brrt i).used = true) (last : Bool) :
    entBuf (settleEnt last (copiedEnt env brr i nent)) =
      if last then none else some (brr.brrt i).buf := by
  simp only [entBuf, settleEnt, copiedEnt_used, used, (copiedEnt_frame env brr i nent).2.2]
  cases last <;> rfl

/-- The table after one slot has changed. -/
theorem tableBufs_perm {i : Nat} (inside : i < zbNwkBrrTableSize)
    (others : ∀ j, j ≠ i → entBuf (t.brr.brrt j) = entBuf (s.brr.brrt j)) :
    ((entBuf (s.brr.brrt i)).toList ++ tableBufs t).Perm
      ((entBuf (t.brr.brrt i)).toList ++ tableBufs s) :=
  held_update_perm inside others

theorem tableBufs_congr (same : ∀ i, entBuf (t.brr.brrt i) = entBuf (s.brr.brrt i)) :
    tableBufs t = tableBufs s :=
  held_congr fun i _ => same i

/-- A buffer that is confirmed no longer waits. -/
theorem confirm_perm {k : Nat} (bufs : List (UInt8 × Bool)) :
    (bufs[k]?.toList ++ bufs.eraseIdx k).Perm bufs := by
  by_cases inside : k < bufs.length
  · rw [List.getElem?_eq_getElem inside]
    exact List.getElem_cons_eraseIdx_perm inside
  · rw [List.getElem?_eq_none (by omega), List.eraseIdx_of_length_le (by omega)]
    exact List.Perm.refl _

theorem originals_perm_of {bufs bufs' : List (UInt8 × Bool)} (perm : bufs.Perm bufs') :
    (originals bufs).Perm (originals bufs') :=
  (perm.filter _).map _

theorem helpers_perm_of {bufs bufs' : List (UInt8 × Bool)} (perm : bufs.Perm bufs') :
    (helpers bufs).Perm (helpers bufs') :=
  (perm.filter _).map _

/-- An overheard copy sends the frame it completes to its confirm. -/
theorem markAcked_originals (spill : Nat → Nat → ZbNwkBrrt → ZbNwkBrrt) (env : NwkEnv)
    (s : RelayState) {i n : Nat} (small : n < 8)
    (inside : i < zbNwkBrrTableSize) (used : (s.brr.brrt i).used = true) :
    (tableBufs (markAcked spill env i n s) ++ originals (markAcked spill env i n s).unconfirmed).Perm
      (tableBufs s ++ originals s.unconfirmed) := by
  have changed := tableBufs_perm (s := s) (t := markAcked spill env i n s) inside fun j ne => by
    rw [markAcked_entry small, if_neg ne]
  have held_ : entBuf (s.brr.brrt i) = some (s.brr.brrt i).buf := by simp [entBuf, used]
  have after : entBuf ((markAcked spill env i n s).brr.brrt i) =
      if allAcked env (markHeard n (s.brr.brrt i)) then none else some (s.brr.brrt i).buf := by
    rw [markAcked_entry small, if_pos rfl]
    cases acked : allAcked env (markHeard n (s.brr.brrt i)) <;>
      simp [entBuf, used, markHeard]
  rw [held_, after] at changed
  rw [markAcked_unconfirmed small, originals_append]
  refine List.perm_iff_count.2 ?_
  intro b
  have count := changed.count_eq b
  cases acked : allAcked env (markHeard n (s.brr.brrt i)) with
  | true =>
      simp only [acked, if_true, Option.toList_none, Option.toList_some, List.nil_append,
        List.count_append] at count
      simp only [if_true, originals, List.count_append] at count ⊢
      simp at count ⊢
      omega
  | false =>
      simp only [acked, Bool.false_eq_true, if_false, Option.toList_some, List.count_append] at count
      simp only [Bool.false_eq_true, if_false, originals, List.count_append, List.filter_nil,
        List.map_nil, List.count_nil]
      omega

/-- An activation sends the frame it sends last to its confirm. -/
theorem transmition_originals (few : FewNeighbors env) (ok : Fans env s)
    (spill : Nat → Nat → ZbNwkBrrt → ZbNwkBrrt) {timer : ZbTime} {param : UInt8}
    (fair : Fair env s (.transmition timer param)) :
    (tableBufs (transmition spill (s.env env timer) param s) ++
        originals (transmition spill (s.env env timer) param s).unconfirmed).Perm
      (tableBufs s ++ originals s.unconfirmed) := by
  have given := (ok.buffers few spill fair).1
  have entry := fun j => ok.iterates.entry few spill timer param j
  rw [transmition_unconfirmed, originals_append, given]
  cases made : madeCopy (s.env env timer) param s.brr with
  | none =>
      simp only [made] at entry
      have table : tableBufs (transmition spill (s.env env timer) param s) = tableBufs s := by
        refine tableBufs_congr fun j => ?_
        rw [entry, entBuf_passed (selectEnt_passed s.brr j)]
      simp [table, originals]
  | some copy =>
      obtain ⟨i, nent⟩ := copy
      simp only [made] at entry
      have used := madeCopy_used made
      have changed := tableBufs_perm (s := s) (t := transmition spill (s.env env timer) param s)
        (ok.inside i used) fun j ne => by
          rw [entry, if_neg ne, entBuf_passed (selectEnt_passed s.brr j)]
      have held_ : entBuf (s.brr.brrt i) = some (s.brr.brrt i).buf := by simp [entBuf, used]
      rw [held_, entry, if_pos rfl, settleEnt_entBuf _ _ used] at changed
      refine List.perm_iff_count.2 ?_
      intro b
      have count := changed.count_eq b
      cases last : lastCopy (s.env env timer) s.brr i nent with
      | true =>
          have buf := (copiedEnt_frame (s.env env timer) s.brr i nent).2.2
          simp only [last, if_true, Option.toList_none, Option.toList_some, List.nil_append,
            List.count_append] at count
          simp only [last, if_true, buf, originals, List.count_append] at count ⊢
          simp at count ⊢
          omega
      | false =>
          simp only [last, Bool.false_eq_true, if_false, Option.toList_some,
            List.count_append] at count
          simp only [last, Bool.false_eq_true, if_false, originals, List.count_append]
          simp at count ⊢
          omega

/-- **The originals of one step**: what was there and comes is confirmed or still there. -/
theorem originals_step (few : FewNeighbors env) (ok : Fans env s) {call : RelayCall}
    (fair : Fair env s call) (taken : relayStep spill env s call = some t) :
    (tableBufs s ++ originals s.unconfirmed ++ accepted s call).Perm
      (originals (confirmed s call) ++ (tableBufs t ++ originals t.unconfirmed)) := by
  refine List.perm_iff_count.2 ?_
  intro b
  cases call with
  | forward buf srcAddr dstAddr seqNum =>
      rcases forward_entry taken with ⟨full, rfl⟩ | ⟨room, i, enters⟩
      · simp [accepted, confirmed, full, originals]
      · have changed := (tableBufs_perm (s := s) (t := t) enters.inside fun j ne => by
          rw [(enters.others j ne).1]).count_eq b
        have free : entBuf (s.brr.brrt i) = none := by simp [entBuf, enters.free]
        have filled : entBuf (t.brr.brrt i) = some buf := by
          rw [enters.entry]
          rfl
        rw [free, filled] at changed
        simp only [Option.toList_none, List.nil_append, Option.toList_some, List.count_append] at changed
        simp only [accepted, confirmed, if_pos room, enters.unconfirmed, originals, List.filter_nil,
          List.map_nil, List.nil_append, List.count_append]
        omega
  | overheard macSrc srcAddr seqNum =>
      cases taken
      rcases overheard_cases spill env macSrc srcAddr seqNum s with
        eq | ⟨n, source, ⟨-, eq⟩ | ⟨i, found, eq⟩⟩
      · rw [eq]
        simp [accepted, confirmed, originals]
      · rw [eq]
        simp [accepted, confirmed, originals, tableBufs]
      · obtain ⟨addr, -, place⟩ := Option.bind_eq_some_iff.1 source
        have small := neighborGetByShort_few few place
        have before := (findEnt_eq_some found).1
        have kept := (markAcked_originals spill env { s with heard := noteHeard n srcAddr seqNum s }
          small (ok.inside i before) before).count_eq b
        rw [eq]
        simpa [accepted, confirmed, originals, tableBufs] using kept.symm
  | transmition timer param =>
      cases taken
      have kept := (transmition_originals few ok spill fair).count_eq b
      simpa [accepted, confirmed, originals] using kept.symm
  | confirm k =>
      rw [relayStep] at taken
      split at taken
      · cases taken
        have settled := (originals_perm_of (confirm_perm (k := k) s.unconfirmed)).count_eq b
        rw [originals_append] at settled
        simp only [List.count_append] at settled
        simp only [accepted, confirmed, List.append_nil, List.count_append]
        have table : tableBufs { s with unconfirmed := s.unconfirmed.eraseIdx k } = tableBufs s := rfl
        rw [table]
        omega
      · cases taken

/-- **The helpers of one step**: a buffer handed over is given back, or goes to the MAC. -/
theorem helpers_step (few : FewNeighbors env) (ok : Fans env s) {call : RelayCall}
    (fair : Fair env s call) (taken : relayStep spill env s call = some t) :
    (helpers s.unconfirmed ++ obtained call).Perm
      ((released spill env s call ++ helpers (confirmed s call)) ++ helpers t.unconfirmed) := by
  cases call with
  | forward buf srcAddr dstAddr seqNum =>
      rcases forward_entry taken with ⟨-, rfl⟩ | ⟨-, i, enters⟩
      · simp [obtained, released, confirmed, helpers]
      · simp [obtained, released, confirmed, helpers, enters.unconfirmed]
  | overheard macSrc srcAddr seqNum =>
      cases taken
      rcases overheard_cases spill env macSrc srcAddr seqNum s with
        eq | ⟨n, source, ⟨-, eq⟩ | ⟨i, found, eq⟩⟩
      · simp [eq, obtained, released, confirmed, helpers]
      · simp [eq, obtained, released, confirmed, helpers]
      · obtain ⟨addr, -, place⟩ := Option.bind_eq_some_iff.1 source
        have small := neighborGetByShort_few few place
        rw [eq, markAcked_unconfirmed small, helpers_append]
        split <;> simp [obtained, released, confirmed, helpers]
  | transmition timer param =>
      cases taken
      obtain ⟨given, back⟩ := ok.buffers few spill fair
      rw [transmition_unconfirmed, helpers_append, given, released, back]
      cases made : madeCopy (s.env env timer) param s.brr with
      | none => by_cases zero : param = 0 <;> simp [obtained, confirmed, helpers, zero,
          List.perm_append_singleton]
      | some copy =>
          obtain ⟨i, nent⟩ := copy
          have nonzero := (madeCopy_eq_some made).1
          cases last : lastCopy (s.env env timer) s.brr i nent <;>
            simp [last, obtained, confirmed, helpers, nonzero, List.perm_append_singleton]
  | confirm k =>
      rw [relayStep] at taken
      split at taken
      · cases taken
        have settled := (helpers_perm_of (confirm_perm (k := k) s.unconfirmed)).symm
        rw [helpers_append] at settled
        simpa [obtained, released, confirmed] using settled
      · cases taken

end Buffers

/-! ## Runs -/

section Runs

variable {env : NwkEnv} {s : RelayState}

theorem fans_init (env : NwkEnv) : Fans env RelayState.init := by
  refine ⟨?_, ?_, ?_⟩
  · intro i used
    cases used
  · intro i used
    cases used
  · intro i used
    cases used

/-- **Each broadcast once, each child once, each buffer once.**  In a fair run a frame that
leaves the table was broadcast at least once and at most twice, and went once to each
child it is for but the originator; no frame in the table has been sent more often.  The
originals that were accepted are those confirmed to the upper layer, in the table, or
waiting for their confirm; the buffers handed over for copies are those given back,
confirmed, or waiting for their confirm. -/
theorem fanOut (spill : Nat → Nat → ZbNwkBrrt → ZbNwkBrrt) (few : FewNeighbors env)
    (calls : List RelayCall)
    (fair : Along (relayStep spill env) (Fair env) RelayState.init calls) :
    Along (relayStep spill env) (FansOut spill env) RelayState.init calls ∧
      ∀ s, run (relayStep spill env) RelayState.init calls = some s →
        (∀ i, (s.brr.brrt i).used = true →
          (s.sent i).count none ≤ zbNwkMaxBroadcastRetries.toNat ∧
            ∀ n, (s.sent i).count (some n) ≤ 1) ∧
        (trace (relayStep spill env) accepted RelayState.init calls).Perm
          (trace (relayStep spill env) (fun s call => originals (confirmed s call)) RelayState.init
            calls ++ (tableBufs s ++ originals s.unconfirmed)) ∧
        (trace (relayStep spill env) (fun _ call => obtained call) RelayState.init calls).Perm
          (trace (relayStep spill env)
            (fun s call => released spill env s call ++ helpers (confirmed s call)) RelayState.init
            calls ++ helpers s.unconfirmed) := by
  have keeps : ∀ s call t, Fans env s → Fair env s call → relayStep spill env s call = some t →
      Fans env t := fun _ _ _ ok fair taken => fans_step few ok fair taken
  refine ⟨along_of_invariant keeps (fun _ _ ok fair => fansOut_step few ok fair) (fans_init env) fair,
    ?_⟩
  intro s ran
  have ok : Fans env s := run_invariant keeps (fans_init env) fair ran
  have along : Along (relayStep spill env) (fun s call => Fans env s ∧ Fair env s call)
      RelayState.init calls :=
    along_of_invariant keeps (fun _ _ ok fair => ⟨ok, fair⟩) (fans_init env) fair
  refine ⟨?_, ?_, ?_⟩
  · intro i used
    have fanned := ok.fanned i used
    refine ⟨?_, ?_⟩
    · rw [fanned.broadcasts]
      exact UInt8.le_iff_toNat_le.1 (ok.stays i used).often
    · intro n
      by_cases served : Due env (s.brr.brrt i) n ∧ ¬ Waiting (s.brr.brrt i) n
      · exact (fanned.served n served.1 served.2).le
      · rw [fanned.spared n served]
        exact Nat.zero_le 1
  · have perm := trace_perm
      (fun s call t both taken => originals_step few both.1 both.2 taken) along ran
    simpa [tableBufs, held, originals, entBuf, RelayState.init] using perm
  · have perm := trace_perm
      (fun s call t both taken => helpers_step few both.1 both.2 taken) along ran
    simpa [helpers, RelayState.init] using perm

end Runs

/-! ## Poles -/

instance decidableServedChild (env : NwkEnv) (dstAddr : UInt16) (n : Nat) :
    Decidable (ServedChild env dstAddr n) :=
  inferInstanceAs (Decidable (_ ∧ (_ ∧ _ ∧ _ ∧ _)))

instance decidableDue (env : NwkEnv) (ent : ZbNwkBroadcastRetransmit) (n : Nat) :
    Decidable (Due env ent n) :=
  inferInstanceAs (Decidable (_ ∧ _))

instance decidableWaiting (ent : ZbNwkBroadcastRetransmit) (n : Nat) : Decidable (Waiting ent n) :=
  inferInstanceAs (Decidable (∃ c ∈ ent.neighborTableIterator, c ≤ n))

instance decidableOneOriginator (env : NwkEnv) (srcAddr dstAddr : UInt16) :
    Decidable (OneOriginator env srcAddr dstAddr) :=
  have (a b : Nat) : Decidable (ServedChild env dstAddr a → ServedChild env dstAddr b →
      neighborShort env a = srcAddr → neighborShort env b = srcAddr → a = b) := inferInstance
  have (a : Nat) : Decidable (∀ b < env.neighbor.baseNeighborUsed, ServedChild env dstAddr a →
      ServedChild env dstAddr b → neighborShort env a = srcAddr →
        neighborShort env b = srcAddr → a = b) := Nat.decidableBallLT _ _
  Nat.decidableBallLT _ _

instance decidableHanded (env : NwkEnv) (s : RelayState) :
    (call : RelayCall) → Decidable (Handed env s call)
  | .forward _ _ _ _ => inferInstanceAs (Decidable ((∀ i < zbNwkBrrTableSize, _) ∧ _))
  | .overheard _ _ _ => inferInstanceAs (Decidable True)
  | .transmition _ _ => inferInstanceAs (Decidable (_ ∨ ∀ i < zbNwkBrrTableSize, _))
  | .confirm _ => inferInstanceAs (Decidable True)

instance decidableAckedLate (env : NwkEnv) (s : RelayState) :
    (call : RelayCall) → Decidable (AckedLate env s call)
  | .forward _ _ _ _ => inferInstanceAs (Decidable True)
  | .overheard macSrc srcAddr seqNum =>
      inferInstanceAs (Decidable (∀ ent ∈ countedEnt env s (.overheard macSrc srcAddr seqNum), _))
  | .transmition _ _ => inferInstanceAs (Decidable True)
  | .confirm _ => inferInstanceAs (Decidable True)

instance decidableFair (env : NwkEnv) (s : RelayState) (call : RelayCall) :
    Decidable (Fair env s call) :=
  inferInstanceAs (Decidable (_ ∧ _))

/-- A frame of the device's own is broadcast, sent to a sleeping child, broadcast once more
and confirmed. -/
def sentAndConfirmed : List RelayCall :=
  [.forward 1 5 0xFFFF 7, .transmition 0 2, .transmition 1 3, .transmition 17 4, .confirm 0,
    .confirm 0, .confirm 0]

theorem fanOut_sentAndConfirmed :
    (run (relayStep (fun _ _ t => t) (twoNeighbors zbNwkDeviceTypeEd .child)) RelayState.init
        sentAndConfirmed).map (fun s => ((s.brr.brrt 0).used, s.sent 0, s.unconfirmed)) =
      some (false, [none, some 1, none], []) ∧
    Along (relayStep (fun _ _ t => t) (twoNeighbors zbNwkDeviceTypeEd .child))
      (FansOut (fun _ _ t => t) (twoNeighbors zbNwkDeviceTypeEd .child)) RelayState.init
      sentAndConfirmed :=
  ⟨by decide +kernel,
    (fanOut (fun _ _ t => t) (twoNeighbors_few zbNwkDeviceTypeEd .child) sentAndConfirmed
      (by decide +kernel)).1⟩

/-- A frame of the device's own, broadcast once and then overheard from the coordinator. -/
def ackedBeforeChild : List RelayCall :=
  [.forward 1 5 0xFFFF 7, .transmition 0 2, .overheard (some 0) 5 7]

/-- **A copy is overheard too early**: it is the one mark the frame waits for, and the
sleeping child never gets its copy. -/
theorem acked_before_child :
    ¬ ∀ (env : NwkEnv) (calls : List RelayCall), FewNeighbors env →
      Along (relayStep (fun _ _ t => t) env) (Handed env) RelayState.init calls →
        Along (relayStep (fun _ _ t => t) env) (FansOut (fun _ _ t => t) env) RelayState.init
          calls := by
  intro claim
  have along := claim (twoNeighbors zbNwkDeviceTypeEd .child) ackedBeforeChild
    (twoNeighbors_few zbNwkDeviceTypeEd .child) (by decide +kernel)
  have cut : ackedBeforeChild =
      [.forward 1 5 0xFFFF 7, .transmition 0 2] ++ [.overheard (some 0) 5 7] := rfl
  rw [cut, along_append] at along
  obtain ⟨s, ran, before⟩ := Option.map_eq_some_iff.1
    (by decide +kernel : (run (relayStep (fun _ _ t => t) (twoNeighbors zbNwkDeviceTypeEd .child))
      RelayState.init [.forward 1 5 0xFFFF 7, .transmition 0 2]).map
        (fun s => ((s.brr.brrt 0).used, (s.brr.brrt 0).srcAddr, (s.brr.brrt 0).dstAddr)) =
          some (true, 5, 0xFFFF))
  obtain ⟨t, ranAll, after⟩ := Option.map_eq_some_iff.1
    (by decide +kernel : (run (relayStep (fun _ _ t => t) (twoNeighbors zbNwkDeviceTypeEd .child))
      RelayState.init ackedBeforeChild).map
        (fun t => ((t.brr.brrt 0).used, t.sent 0)) = some (false, [none]))
  rw [cut, run_append, ran, Option.bind_some, run_cons_eq_some] at ranAll
  obtain ⟨t', taken, rest⟩ := ranAll
  cases rest
  simp only [Prod.mk.injEq] at before after
  obtain ⟨used, srcAddr, dstAddr⟩ := before
  obtain ⟨unused, sent⟩ := after
  have once := ((along.2 s ran).1 t taken 0 ⟨used, unused⟩).child 1
    (by rw [dstAddr]; decide +kernel) (by rw [srcAddr]; decide +kernel)
  rw [sent] at once
  exact absurd once (by decide)

/-- A frame of another device is dropped before its first broadcast. -/
theorem acked_before_sent :
    (run (relayStep (fun _ _ t => t) (twoNeighbors zbNwkDeviceTypeRouter .sibling)) RelayState.init
        [.forward 1 0 0xFFFF 7, .overheard (some 6) 0 7]).map
      (fun s => ((s.brr.brrt 0).used, s.sent 0, s.unconfirmed)) =
      some (false, [], [(1, false)]) := by
  decide +kernel

end Zboss.Nwk.FanOut
