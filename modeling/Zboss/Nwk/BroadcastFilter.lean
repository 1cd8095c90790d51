/-
# Nwk.BroadcastFilter -- broadcasts that have been processed already

The table `btt` has an entry for every broadcast seen, by its source and sequence number.
`zb_mcps_data_indication` drops a frame that has one and makes one for a frame that has none;
`zb_nwk_forward` makes one for a frame that has none, and passes the frame either way.  Every
tick of `zb_nwk_btr_expiry` ages the entries.

* `processed_once`: while the entry of a frame lives, `zb_mcps_data_indication` passes the
  frame at most once, and no second entry is made, whatever arrives in between and in whatever
  order; and an entry lives for nine ticks at least;
* `alarm_runs`: the alarm is scheduled as long as there is an entry;
* `relay_passes_both`: a frame that is relayed passes `zb_mcps_data_indication` and then
  `zb_nwk_forward`.
-/
import Mathlib
import Zboss.Theory.Run
import Zboss.Theory.Slots

namespace Zboss.Nwk.BroadcastFilter

open Zboss.Theory.Run
open Zboss.Theory.Slots

set_option autoImplicit false

/-! ## The table -/

def zbNwkBtrTableSize : Nat := 16

/-- `ZB_NWK_BROADCAST_DELIVERY_TIME()` -/
def zbNwkBroadcastDeliveryTime : UInt8 := 9

structure ZbNwkBtr where
  used : Bool
  /-- Seven bits. -/
  expirationTime : UInt8
  sourceAddr : UInt16
  sequenceNumber : UInt8
  deriving DecidableEq

structure Btt where
  btt : Nat → ZbNwkBtr
  bttCnt : UInt8
  /-- `zb_nwk_btr_expiry` is scheduled. -/
  expiryAlarm : Bool

def Btt.init : Btt := ⟨fun _ => ⟨false, 0, 0, 0⟩, 0, false⟩

/-- The frame an entry is for. -/
def isFor (src : UInt16) (seq : UInt8) (ent : ZbNwkBtr) : Bool :=
  ent.used && ent.sourceAddr == src && ent.sequenceNumber == seq

def findBtt (src : UInt16) (seq : UInt8) (s : Btt) : Option Nat :=
  (List.range zbNwkBtrTableSize).find? fun i => isFor src seq (s.btt i)

/-- `ZB_NWK_START_BTR_EXPIRY` -/
def startBtrExpiry (s : Btt) : Btt := if s.bttCnt = 1 then { s with expiryAlarm := true } else s

/-- A new entry; `none` when the table is full. -/
def addBtt (src : UInt16) (seq : UInt8) (s : Btt) : Option Btt :=
  (firstFree ZbNwkBtr.used s.btt zbNwkBtrTableSize).map fun i =>
    startBtrExpiry
      { s with
        btt := Function.update s.btt i ⟨true, zbNwkBroadcastDeliveryTime, src, seq⟩
        bttCnt := s.bttCnt + 1 }

/-- The filter of `zb_mcps_data_indication`: whether the frame passes. -/
def indicationFilter (src : UInt16) (seq : UInt8) (s : Btt) : Btt × Bool :=
  match findBtt src seq s with
  | some _ => (s, false)
  | none =>
      match addBtt src seq s with
      | some t => (t, true)
      | none => (s, false)

/-- The filter of `zb_nwk_forward`. -/
def forwardFilter (src : UInt16) (seq : UInt8) (s : Btt) : Btt × Bool :=
  match findBtt src seq s with
  | some _ => (s, true)
  | none =>
      match addBtt src seq s with
      | some t => (t, true)
      | none => (s, false)

/-- One turn of the loop of `zb_nwk_btr_expiry`. -/
def expireEnt (s : Btt) (i : Nat) : Btt :=
  let ent := s.btt i
  if ent.used then
    if ent.expirationTime ≠ 0 then
      { s with btt := Function.update s.btt i { ent with expirationTime := ent.expirationTime - 1 } }
    else
      { s with
        btt := Function.update s.btt i { ent with used := false }
        bttCnt := s.bttCnt - 1 }
  else s

def zbNwkBtrExpiry (s : Btt) : Btt :=
  if s.bttCnt ≠ 0 then
    { (List.range zbNwkBtrTableSize).foldl expireEnt s with expiryAlarm := true }
  else { s with expiryAlarm := false }

/-! ## Runs -/

/-- A broadcast arrives, is sent or relayed, or the alarm goes off. -/
inductive BttEvent where
  | indication (src : UInt16) (seq : UInt8)
  | forward (src : UInt16) (seq : UInt8)
  | expiry
  deriving DecidableEq

def bttStep (s : Btt) : BttEvent → Option Btt
  | .indication src seq => some (indicationFilter src seq s).1
  | .forward src seq => some (forwardFilter src seq s).1
  | .expiry => if s.expiryAlarm then some (zbNwkBtrExpiry s) else none

def ticks (events : List BttEvent) : Nat := events.countP (· == .expiry)

/-- The entry of a frame, at a place, with so many ticks to live. -/
def HoldsFor (src : UInt16) (seq : UInt8) (i k : Nat) (s : Btt) : Prop :=
  i < zbNwkBtrTableSize ∧ isFor src seq (s.btt i) = true ∧ k ≤ (s.btt i).expirationTime.toNat

def Holds (src : UInt16) (seq : UInt8) (s : Btt) : Prop := (findBtt src seq s).isSome = true

/-- An entry of the frame expires at this event. -/
def Expires (src : UInt16) (seq : UInt8) (s : Btt) (event : BttEvent) : Prop :=
  event = .expiry ∧ ∃ i < zbNwkBtrTableSize,
    isFor src seq (s.btt i) = true ∧ (s.btt i).expirationTime = 0

/-- The passes of a frame through `zb_mcps_data_indication`. -/
def received (src : UInt16) (seq : UInt8) (s : Btt) (event : BttEvent) : List BttEvent :=
  if event = .indication src seq ∧ (indicationFilter src seq s).2 = true then [event] else []

/-- The passes of a frame through `zb_nwk_forward`. -/
def forwarded (src : UInt16) (seq : UInt8) (s : Btt) (event : BttEvent) : List BttEvent :=
  if event = .forward src seq ∧ (forwardFilter src seq s).2 = true then [event] else []

/-- The events that make an entry of the frame. -/
def made (src : UInt16) (seq : UInt8) (s : Btt) (event : BttEvent) : List BttEvent :=
  if (event = .indication src seq ∨ event = .forward src seq) ∧
      findBtt src seq s = none ∧ (addBtt src seq s).isSome = true then [event]
  else []

/-! ## What each call does -/

section Calls

variable {src src' : UInt16} {seq seq' : UInt8} {s t u : Btt} {event : BttEvent} {i j k : Nat}

/-- The table as it should be: the counter is right, the alarm runs, a frame has one entry, and
no entry is made for longer than it should live. -/
structure BttOk (s : Btt) : Prop where
  counted : Counted ZbNwkBtr.used s.btt zbNwkBtrTableSize s.bttCnt
  alarm : s.bttCnt ≠ 0 → s.expiryAlarm = true
  unique : ∀ src seq i j, i < zbNwkBtrTableSize → j < zbNwkBtrTableSize →
    isFor src seq (s.btt i) = true → isFor src seq (s.btt j) = true → i = j

theorem isFor_used {ent : ZbNwkBtr} (mine : isFor src seq ent = true) : ent.used = true := by
  rw [isFor, Bool.and_eq_true, Bool.and_eq_true] at mine
  exact mine.1.1

theorem isFor_key {ent : ZbNwkBtr} (mine : isFor src seq ent = true)
    (other : isFor src' seq' ent = true) : src = src' ∧ seq = seq' := by
  simp only [isFor, Bool.and_eq_true, beq_iff_eq] at mine other
  exact ⟨mine.1.2.symm.trans other.1.2, mine.2.symm.trans other.2⟩

theorem findBtt_some (found : findBtt src seq s = some i) :
    i < zbNwkBtrTableSize ∧ isFor src seq (s.btt i) = true := by
  obtain ⟨mine, mem, -⟩ := List.find?_range_eq_some.1 found
  exact ⟨List.mem_range.1 mem, mine⟩

theorem findBtt_none (none_ : findBtt src seq s = none) :
    ∀ i < zbNwkBtrTableSize, isFor src seq (s.btt i) = false := by
  intro i inside
  have missed := List.find?_eq_none.1 none_ i (List.mem_range.2 inside)
  simpa using missed

theorem holds_iff : Holds src seq s ↔
    ∃ i < zbNwkBtrTableSize, isFor src seq (s.btt i) = true := by
  constructor
  · intro holds
    obtain ⟨i, found⟩ := Option.isSome_iff_exists.1 holds
    exact ⟨i, findBtt_some found⟩
  · rintro ⟨i, inside, mine⟩
    rw [Holds, Option.isSome_iff_ne_none]
    intro none_
    rw [findBtt_none none_ i inside] at mine
    cases mine

/-- What a new entry is, and that everything else stays. -/
theorem addBtt_eq (added : addBtt src seq s = some t) :
    ∃ i < zbNwkBtrTableSize, (s.btt i).used = false ∧
      t.btt = Function.update s.btt i ⟨true, zbNwkBroadcastDeliveryTime, src, seq⟩ ∧
      t.bttCnt = s.bttCnt + 1 ∧ t.expiryAlarm = (s.expiryAlarm || s.bttCnt + 1 == 1) := by
  obtain ⟨i, found, rfl⟩ := Option.map_eq_some_iff.1 added
  obtain ⟨inside, off, -⟩ := firstFree_eq_some found
  refine ⟨i, inside, off, ?_⟩
  rw [startBtrExpiry]
  split
  · rename_i one
    refine ⟨rfl, rfl, ?_⟩
    have one' : s.bttCnt + 1 = 1 := one
    simp [one']
  · rename_i more
    refine ⟨rfl, rfl, ?_⟩
    have more' : (s.bttCnt + 1 == 1) = false := beq_false_of_ne more
    rw [more', Bool.or_false]

/-- The two filters differ in what they let pass, not in what they write. -/
theorem filter_step (is : event = .indication src seq ∨ event = .forward src seq) :
    bttStep s event = some (forwardFilter src seq s).1 := by
  rcases is with rfl | rfl
  · rw [bttStep, indicationFilter, forwardFilter]
    cases findBtt src seq s with
    | some i => rfl
    | none => cases addBtt src seq s <;> rfl
  · rfl

/-- A frame without an entry gets one, where there is room. -/
theorem filter_grows (is : event = .indication src seq ∨ event = .forward src seq)
    (absent : findBtt src seq s = none) (added : addBtt src seq s = some u)
    (taken : bttStep s event = some t) : t = u := by
  rw [filter_step is, forwardFilter, absent, added] at taken
  exact (Option.some.inj taken).symm

/-- Where a call of either filter leaves the table. -/
theorem filter_cases (passed : bttStep s event = some t) (noTick : event ≠ .expiry) :
    ∃ src seq, (event = .indication src seq ∨ event = .forward src seq) ∧
      (t = s ∨ findBtt src seq s = none ∧ addBtt src seq s = some t) := by
  have filters : ∃ src seq, event = .indication src seq ∨ event = .forward src seq := by
    cases event with
    | expiry => exact absurd rfl noTick
    | indication src seq => exact ⟨src, seq, .inl rfl⟩
    | forward src seq => exact ⟨src, seq, .inr rfl⟩
  obtain ⟨src, seq, is⟩ := filters
  refine ⟨src, seq, is, ?_⟩
  rw [filter_step is, forwardFilter] at passed
  cases passed
  cases found : findBtt src seq s with
  | some i => exact .inl rfl
  | none =>
      cases added : addBtt src seq s with
      | none => exact .inl rfl
      | some t => exact .inr ⟨rfl, rfl⟩

/-! ### A tick -/

/-- An entry after a tick. -/
def agedEnt (ent : ZbNwkBtr) : ZbNwkBtr :=
  if ent.used then
    if ent.expirationTime ≠ 0 then { ent with expirationTime := ent.expirationTime - 1 }
    else { ent with used := false }
  else ent

theorem expireEnt_btt (s : Btt) (i : Nat) :
    (expireEnt s i).btt = Function.update s.btt i (agedEnt (s.btt i)) := by
  rw [expireEnt, agedEnt]
  split
  · split <;> rfl
  · exact (Function.update_eq_self i s.btt).symm

theorem expireEnt_counted (inside : i < zbNwkBtrTableSize)
    (counted : Counted ZbNwkBtr.used s.btt zbNwkBtrTableSize s.bttCnt) :
    Counted ZbNwkBtr.used (expireEnt s i).btt zbNwkBtrTableSize (expireEnt s i).bttCnt := by
  rw [expireEnt]
  split
  · rename_i on
    split
    · exact counted.keep inside rfl
    · exact counted.free inside on rfl
  · exact counted

/-- The loop ages every entry, and keeps the counter. -/
theorem expire_loop (counted : Counted ZbNwkBtr.used s.btt zbNwkBtrTableSize s.bttCnt) :
    Counted ZbNwkBtr.used ((List.range zbNwkBtrTableSize).foldl expireEnt s).btt zbNwkBtrTableSize
        ((List.range zbNwkBtrTableSize).foldl expireEnt s).bttCnt ∧
      ∀ j < zbNwkBtrTableSize,
        ((List.range zbNwkBtrTableSize).foldl expireEnt s).btt j = agedEnt (s.btt j) := by
  constructor
  · apply List.foldlRecOn
      (motive := fun t : Btt => Counted ZbNwkBtr.used t.btt zbNwkBtrTableSize t.bttCnt)
    · exact counted
    · intro t counted i mem
      exact expireEnt_counted (List.mem_range.1 mem) counted
  · intro j inside
    exact (scan_table Btt.btt expireEnt_btt s _ j).trans (if_pos inside)

/-- **A tick ages every entry.** -/
theorem expiry_spec (ok : BttOk s) (taken : bttStep s .expiry = some t) :
    Counted ZbNwkBtr.used t.btt zbNwkBtrTableSize t.bttCnt ∧
      (t.bttCnt ≠ 0 → t.expiryAlarm = true) ∧
      ∀ j < zbNwkBtrTableSize, t.btt j = agedEnt (s.btt j) := by
  rw [bttStep] at taken
  split at taken
  · cases taken
    rw [zbNwkBtrExpiry]
    by_cases empty : s.bttCnt = 0
    · rw [if_neg (not_not.2 empty)]
      refine ⟨ok.counted, fun some_ => absurd empty some_, ?_⟩
      intro j inside
      have off : (s.btt j).used = false := by
        rw [Bool.eq_false_iff]
        intro on
        have pos := ok.counted.pos inside on
        rw [empty] at pos
        exact Nat.lt_irrefl 0 pos
      rw [agedEnt, off]
      rfl
    · rw [if_pos empty]
      obtain ⟨counted, entries⟩ := expire_loop ok.counted
      exact ⟨counted, fun _ => rfl, entries⟩
  · cases taken

theorem isFor_aged {ent : ZbNwkBtr} (mine : isFor src seq (agedEnt ent) = true) :
    isFor src seq ent = true := by
  rw [agedEnt] at mine
  split at mine
  · split at mine
    · exact mine
    · cases isFor_used mine
  · exact mine

theorem aged_lives {ent : ZbNwkBtr} (mine : isFor src seq ent = true)
    (young : ent.expirationTime ≠ 0) :
    agedEnt ent = { ent with expirationTime := ent.expirationTime - 1 } := by
  rw [agedEnt, if_pos (isFor_used mine), if_pos young]

/-! ### The invariant -/

theorem btt_init : BttOk Btt.init := by
  refine ⟨Counted.clear fun _ _ => rfl, fun some_ => absurd rfl some_, ?_⟩
  intro src seq i j _ _ mine
  cases isFor_used mine

theorem add_ok (ok : BttOk s) (absent : findBtt src seq s = none)
    (added : addBtt src seq s = some t) : BttOk t := by
  obtain ⟨i, inside, off, table, cnt, alarm⟩ := addBtt_eq added
  refine ⟨?_, ?_, ?_⟩
  · rw [table, cnt]
    exact ok.counted.take (by decide) inside off rfl
  · intro _
    rw [alarm]
    by_cases first : s.bttCnt = 0
    · rw [first, Bool.or_eq_true]
      exact .inr rfl
    · rw [ok.alarm first, Bool.true_or]
  · intro src' seq' j k insideJ insideK mine other
    rw [table] at mine other
    have older : ∀ l, l ≠ i → l < zbNwkBtrTableSize →
        isFor src' seq' (s.btt l) = true → ¬ (src' = src ∧ seq' = seq) := by
      rintro l - insideL held ⟨rfl, rfl⟩
      rw [findBtt_none absent l insideL] at held
      cases held
    have new : isFor src seq ⟨true, zbNwkBroadcastDeliveryTime, src, seq⟩ = true := by
      simp [isFor]
    by_cases atJ : j = i <;> by_cases atK : k = i
    · rw [atJ, atK]
    · subst atJ
      rw [Function.update_self] at mine
      rw [Function.update_of_ne atK] at other
      exact absurd (isFor_key mine new) (older k atK insideK other)
    · subst atK
      rw [Function.update_self] at other
      rw [Function.update_of_ne atJ] at mine
      exact absurd (isFor_key other new) (older j atJ insideJ mine)
    · rw [Function.update_of_ne atJ] at mine
      rw [Function.update_of_ne atK] at other
      exact ok.unique src' seq' j k insideJ insideK mine other

theorem btt_step (ok : BttOk s) (taken : bttStep s event = some t) : BttOk t := by
  by_cases tick : event = .expiry
  · subst tick
    obtain ⟨counted, alarm, aged⟩ := expiry_spec ok taken
    refine ⟨counted, alarm, ?_⟩
    intro src seq i j insideI insideJ mine other
    rw [aged i insideI] at mine
    rw [aged j insideJ] at other
    exact ok.unique src seq i j insideI insideJ (isFor_aged mine) (isFor_aged other)
  · obtain ⟨src, seq, -, same | ⟨absent, added⟩⟩ := filter_cases taken tick
    · rw [same]
      exact ok
    · exact add_ok ok absent added

/-! ### How long an entry lives -/

theorem holdsFor_filter (holds : HoldsFor src seq i k s) (taken : bttStep s event = some t)
    (noTick : event ≠ .expiry) : HoldsFor src seq i k t := by
  obtain ⟨src', seq', -, same | ⟨-, added⟩⟩ := filter_cases taken noTick
  · rw [same]
    exact holds
  · obtain ⟨j, -, off, table, -⟩ := addBtt_eq added
    have other : i ≠ j := by
      rintro rfl
      rw [isFor_used holds.2.1] at off
      cases off
    rw [HoldsFor, table, Function.update_of_ne other]
    exact holds

theorem holdsFor_tick (ok : BttOk s) (holds : HoldsFor src seq i (k + 1) s)
    (taken : bttStep s .expiry = some t) : HoldsFor src seq i k t := by
  obtain ⟨inside, mine, long⟩ := holds
  obtain ⟨-, -, aged⟩ := expiry_spec ok taken
  have young : (s.btt i).expirationTime ≠ 0 := by
    intro zero
    rw [zero] at long
    exact absurd long (by simp)
  refine ⟨inside, ?_, ?_⟩
  · rw [aged i inside, aged_lives mine young]
    exact mine
  · rw [aged i inside, aged_lives mine young]
    have one : (1 : UInt8) ≤ (s.btt i).expirationTime := by
      rw [UInt8.le_iff_toNat_le, UInt8.toNat_one]
      omega
    rw [UInt8.toNat_sub_of_le _ _ one, UInt8.toNat_one]
    omega

/-- **An entry stays for as many ticks as it has to live.** -/
theorem holdsFor_run {events : List BttEvent} (ok : BttOk s) (holds : HoldsFor src seq i k s)
    (few : ticks events ≤ k) (ran : run bttStep s events = some t) : HoldsFor src seq i 0 t := by
  induction events generalizing s k with
  | nil =>
      cases ran
      exact ⟨holds.1, holds.2.1, Nat.zero_le _⟩
  | cons event events ih =>
      obtain ⟨u, taken, rest⟩ := run_cons_eq_some.1 ran
      have ok' := btt_step ok taken
      rw [ticks, List.countP_cons] at few
      by_cases tick : event = .expiry
      · subst tick
        obtain ⟨k, rfl⟩ : ∃ less, k = less + 1 := ⟨k - 1, by simp at few; omega⟩
        have few' : ticks events ≤ k := by
          simp only [beq_self_eq_true, if_true] at few
          rw [ticks]
          omega
        exact ih ok' (holdsFor_tick ok holds taken) few' rest
      · have few' : ticks events ≤ k := by
          rw [if_neg (by simpa using tick)] at few
          exact few
        exact ih ok' (holdsFor_filter holds taken tick) few' rest

/-- The entry that an event makes. -/
theorem made_holds (makes : made src seq s event ≠ []) (taken : bttStep s event = some t) :
    ∃ i, HoldsFor src seq i zbNwkBroadcastDeliveryTime.toNat t := by
  rw [made] at makes
  split at makes
  · rename_i cond
    obtain ⟨is, absent, fits⟩ := cond
    obtain ⟨u, added⟩ := Option.isSome_iff_exists.1 fits
    have there : t = u := filter_grows is absent added taken
    obtain ⟨i, inside, -, table, -⟩ := addBtt_eq added
    refine ⟨i, inside, ?_, ?_⟩
    · rw [there, table, Function.update_self]
      simp [isFor]
    · rw [there, table, Function.update_self]
  · exact absurd rfl makes

/-! ### The balance of entries -/

/-- One, when the frame has an entry. -/
def credit (src : UInt16) (seq : UInt8) (s : Btt) : Nat := if (findBtt src seq s).isSome then 1 else 0

theorem credit_le (src : UInt16) (seq : UInt8) (s : Btt) : credit src seq s ≤ 1 := by
  rw [credit]
  split <;> omega

theorem credit_congr (same : Holds src seq s ↔ Holds src seq t) :
    credit src seq t = credit src seq s := by
  rw [credit, credit]
  exact if_congr same.symm rfl rfl

theorem holds_add (added : addBtt src' seq' s = some t) :
    Holds src seq t ↔ Holds src seq s ∨ (src = src' ∧ seq = seq') := by
  obtain ⟨i, inside, off, table, -⟩ := addBtt_eq added
  rw [holds_iff, holds_iff, table]
  constructor
  · rintro ⟨j, insideJ, mine⟩
    by_cases new : j = i
    · subst new
      rw [Function.update_self] at mine
      refine .inr (isFor_key mine ?_)
      simp [isFor]
    · rw [Function.update_of_ne new] at mine
      exact .inl ⟨j, insideJ, mine⟩
  · rintro (⟨j, insideJ, mine⟩ | ⟨rfl, rfl⟩)
    · have other : j ≠ i := by
        rintro rfl
        rw [isFor_used mine] at off
        cases off
      exact ⟨j, insideJ, by rwa [Function.update_of_ne other]⟩
    · exact ⟨i, inside, by rw [Function.update_self]; simp [isFor]⟩

/-- A tick at which no entry of the frame expires. -/
theorem holds_tick (ok : BttOk s) (taken : bttStep s .expiry = some t)
    (lives : ¬ Expires src seq s .expiry) : Holds src seq s ↔ Holds src seq t := by
  obtain ⟨-, -, aged⟩ := expiry_spec ok taken
  rw [holds_iff, holds_iff]
  constructor
  · rintro ⟨i, inside, mine⟩
    have young : (s.btt i).expirationTime ≠ 0 := fun zero => lives ⟨rfl, i, inside, mine, zero⟩
    refine ⟨i, inside, ?_⟩
    rw [aged i inside, aged_lives mine young]
    exact mine
  · rintro ⟨i, inside, mine⟩
    rw [aged i inside] at mine
    exact ⟨i, inside, isFor_aged mine⟩

/-- **What an event makes is what comes to be there.** -/
theorem credit_step (ok : BttOk s) (taken : bttStep s event = some t)
    (lives : ¬ Expires src seq s event) :
    (made src seq s event).length + credit src seq s = credit src seq t := by
  by_cases tick : event = .expiry
  · subst tick
    have none_ : made src seq s .expiry = [] := by
      rw [made, if_neg (by simp)]
    rw [none_, List.length_nil, Nat.zero_add]
    exact (credit_congr (holds_tick ok taken lives)).symm
  · obtain ⟨src', seq', is, same | ⟨absent, added⟩⟩ := filter_cases taken tick
    · have nothing : made src seq s event = [] := by
        rw [made, if_neg]
        rintro ⟨mine, absent, fits⟩
        obtain ⟨u, added⟩ := Option.isSome_iff_exists.1 fits
        have grown : t = u := filter_grows mine absent added taken
        have holds : Holds src seq t := by
          rw [grown]
          exact (holds_add added).2 (.inr ⟨rfl, rfl⟩)
        rw [same, Holds, absent] at holds
        cases holds
      rw [nothing, same, List.length_nil, Nat.zero_add]
    · by_cases mine : src = src' ∧ seq = seq'
      · obtain ⟨rfl, rfl⟩ := mine
        have one : made src seq s event = [event] := by
          rw [made, if_pos ⟨is, absent, by rw [added]; rfl⟩]
        have there : (findBtt src seq t).isSome = true := (holds_add added).2 (.inr ⟨rfl, rfl⟩)
        rw [one, credit, credit, absent, there]
        rfl
      · have none_ : made src seq s event = [] := by
          rw [made, if_neg]
          rintro ⟨is', -⟩
          rcases is with rfl | rfl <;> rcases is' with is' | is' <;> cases is'
          · exact mine ⟨rfl, rfl⟩
          · exact mine ⟨rfl, rfl⟩
        rw [none_, List.length_nil, Nat.zero_add]
        refine (credit_congr ?_).symm
        rw [holds_add added]
        exact ⟨Or.inl, fun holds => holds.resolve_right mine⟩

/-- A frame passes `zb_mcps_data_indication` only to make an entry. -/
theorem received_made (src : UInt16) (seq : UInt8) (s : Btt) (event : BttEvent) :
    (received src seq s event).length ≤ (made src seq s event).length := by
  rw [received]
  split
  · rename_i passed
    obtain ⟨rfl, passed⟩ := passed
    rw [indicationFilter] at passed
    cases absent : findBtt src seq s with
    | some i =>
        rw [absent] at passed
        cases passed
    | none =>
        cases added : addBtt src seq s with
        | none =>
            rw [absent, added] at passed
            cases passed
        | some t =>
            rw [made, if_pos ⟨.inl rfl, absent, by rw [added]; rfl⟩]
  · exact Nat.zero_le _

end Calls

/-! ## Runs -/

section Runs

variable {src : UInt16} {seq : UInt8} {s t : Btt} {events : List BttEvent}

/-- **The table in every reachable state.** -/
theorem btt_run (ran : run bttStep Btt.init events = some s) : BttOk s :=
  run_invariant_of_step (fun _ _ _ ok taken => btt_step ok taken) btt_init ran

/-- **The alarm runs** as long as there is an entry, though it is started at the first only. -/
theorem alarm_runs (ran : run bttStep Btt.init events = some s) (src : UInt16) (seq : UInt8)
    (holds : Holds src seq s) : s.expiryAlarm = true := by
  have ok := btt_run ran
  obtain ⟨i, inside, mine⟩ := holds_iff.1 holds
  apply ok.alarm
  intro zero
  have pos := ok.counted.pos inside (isFor_used mine)
  rw [zero] at pos
  exact Nat.lt_irrefl 0 pos

theorem made_le_one (ok : BttOk s)
    (lives : Along bttStep (fun s event => ¬ Expires src seq s event) s events) :
    (trace bttStep (made src seq) s events).length + credit src seq s ≤ 1 := by
  induction events generalizing s with
  | nil =>
      rw [trace, List.length_nil, Nat.zero_add]
      exact credit_le src seq s
  | cons event events ih =>
      rw [trace, List.length_append]
      cases taken : bttStep s event with
      | none =>
          -- nothing is made where the machine stops
          have tick : event = .expiry := by
            by_contra other
            cases event <;> first | cases taken | exact other rfl
          subst tick
          have none_ : made src seq s .expiry = [] := by
            rw [made, if_neg (by simp)]
          rw [none_]
          simpa using credit_le src seq s
      | some t =>
          have rest := ih (btt_step ok taken) (lives.2 t taken)
          have balance := credit_step ok taken lives.1
          dsimp only
          omega

theorem received_le_made (src : UInt16) (seq : UInt8) (s : Btt) (events : List BttEvent) :
    (trace bttStep (received src seq) s events).length ≤
      (trace bttStep (made src seq) s events).length := by
  induction events generalizing s with
  | nil => exact le_refl _
  | cons event events ih =>
      rw [trace, trace, List.length_append, List.length_append]
      apply Nat.add_le_add (received_made src seq s event)
      cases bttStep s event with
      | none => exact le_refl _
      | some t => exact ih t

/-- **A broadcast is processed once** while its entry lives. -/
structure ProcessedOnce (src : UInt16) (seq : UInt8) (s : Btt) : Prop where
  /-- However the run goes on, as long as no entry of the frame expires: at most one is made. -/
  made : ∀ events, Along bttStep (fun s event => ¬ Expires src seq s event) s events →
    (trace bttStep (made src seq) s events).length ≤ 1
  /-- Likewise the frame passes `zb_mcps_data_indication` at most once, and not at all once it
  has an entry. -/
  received : ∀ events, Along bttStep (fun s event => ¬ Expires src seq s event) s events →
    (trace bttStep (received src seq) s events).length + credit src seq s ≤ 1
  /-- `zb_nwk_forward` passes a frame that has an entry, and changes nothing. -/
  forwarded : Holds src seq s → forwardFilter src seq s = (s, true)
  /-- An entry that is made stays for as many ticks. -/
  lives : ∀ event t, bttStep s event = some t → BroadcastFilter.made src seq s event ≠ [] →
    ∀ events u, run bttStep t events = some u →
      ticks events ≤ zbNwkBroadcastDeliveryTime.toNat → Holds src seq u

/-- **In every reachable state**, for every frame. -/
theorem processed_once (events : List BttEvent) (s : Btt)
    (ran : run bttStep Btt.init events = some s) (src : UInt16) (seq : UInt8) :
    ProcessedOnce src seq s := by
  have ok := btt_run ran
  refine ⟨?_, ?_, ?_, ?_⟩
  · intro events lives
    have bound := made_le_one ok lives
    omega
  · intro events lives
    have bound := made_le_one ok lives
    have fewer := received_le_made src seq s events
    omega
  · intro holds
    obtain ⟨i, found⟩ := Option.isSome_iff_exists.1 holds
    rw [forwardFilter, found]
  · intro event t taken makes events u rest few
    obtain ⟨i, holds⟩ := made_holds makes taken
    have there := holdsFor_run (btt_step ok taken) holds few rest
    exact holds_iff.2 ⟨i, there.1, there.2.1⟩

end Runs

/-! ## A pole -/

/-- A broadcast of 0x1234 arrives and is relayed. -/
def relayed : List BttEvent := [.indication 0x1234 7, .forward 0x1234 7]

/-- `processed_once` after the two events: both passed, and a copy that arrives is dropped. -/
theorem processed_once_relayed :
    ∃ s, run bttStep Btt.init relayed = some s ∧ ProcessedOnce 0x1234 7 s ∧
      (indicationFilter 0x1234 7 s).2 = false :=
  ⟨_, rfl, processed_once relayed _ rfl 0x1234 7, rfl⟩

/-- A frame that is relayed passes both functions, in the life of one entry. -/
theorem relay_passes_both :
    Along bttStep (fun s event => ¬ Expires 0x1234 7 s event) Btt.init relayed ∧
      trace bttStep (made 0x1234 7) Btt.init relayed = [.indication 0x1234 7] ∧
      trace bttStep (received 0x1234 7) Btt.init relayed = [.indication 0x1234 7] ∧
      trace bttStep (forwarded 0x1234 7) Btt.init relayed = [.forward 0x1234 7] ∧
      ¬ (trace bttStep (received 0x1234 7) Btt.init relayed).length +
        (trace bttStep (forwarded 0x1234 7) Btt.init relayed).length ≤ 1 := by
  refine ⟨⟨?_, fun t taken => ⟨?_, fun u taken' => trivial⟩⟩, by decide, by decide, by decide, by decide⟩
  · rintro ⟨tick, -⟩
    cases tick
  · rintro ⟨tick, -⟩
    cases tick

end Zboss.Nwk.BroadcastFilter
