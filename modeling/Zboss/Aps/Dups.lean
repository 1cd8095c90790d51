/-
# Aps.Dups -- rejection of duplicate frames

The duplicates are remembered in the address table: each entry has the counter of
the last frame of its device and a clock of two bits, which every frame sets to 3 and
every tick of the alarm lowers.  These two fields are memories of their own here,
`apsDupCounter` and `apsDupClock`; no function of the address table touches them.

There is one counter for each source, so another frame of the source in between
makes it forget (`interleaved_repeat_passed`).  Otherwise a repeat is dropped for
three ticks, whatever arrives from other sources (`duplicate_dropped`).
-/
import Mathlib
import Zboss.Theory.Run
import Zboss.Common.AddressBijection

namespace Zboss.Aps.Dups

open Zboss.Theory.Run
open Zboss.Theory.Table
open Zboss.Common.Types
open Zboss.Common.Address
open Zboss.Common.AddressIndex
open Zboss.Common.AddressPairs
open Zboss.Common.AddressRun
open Zboss.Common.AddressBijection

set_option autoImplicit false

/-! ## The receive path -/

structure DupState where
  addr : ZbAddrGlobals
  apsDupCounter : Nat → UInt8
  /-- Two bits. -/
  apsDupClock : Nat → Nat
  dupsAlarmRunning : Bool

def DupState.init : DupState := ⟨.init, fun _ => 0, fun _ => 0, false⟩

/-- What is used of a parsed header. -/
structure ZbApsHdr where
  fc : UInt8
  srcAddr : UInt16
  apsCounter : UInt8
  deriving DecidableEq

def zbApsFcGetFrameType (fc : UInt8) : UInt8 := fc &&& 3
def zbApsFcGetDeliveryMode (fc : UInt8) : UInt8 := fc >>> 2 &&& 3
def zbApsFrameData : UInt8 := 0
def zbApsFrameCommand : UInt8 := 1
def zbApsDeliveryGroup : UInt8 := 3

/-- The entry of the source is not locked: it may go. -/
def apsCheckDups (srcAddr : UInt16) (apsCounter : UInt8) (s : DupState) :
    Option (DupState × Bool) := do
  let (addr, ret) ← zbAddressByShort srcAddr true false s.addr
  match ret with
  | .ok ref =>
      let isDup := s.apsDupClock ref != 0 && s.apsDupCounter ref == apsCounter
      return ({
        addr
        apsDupCounter := Function.update s.apsDupCounter ref apsCounter
        apsDupClock := Function.update s.apsDupClock ref 3
        dupsAlarmRunning := true }, isDup)
  | .error _ => return ({ s with addr }, false)

/-- The entries from `i` on, of which `n` in use are behind; reading on behind the
table is a stop. -/
def checkTimerScan : Nat → Nat → Nat → DupState → Option DupState
  | fuel, i, n, s =>
      if n < s.addr.nElements then
        match fuel with
        | 0 => none
        | fuel + 1 =>
            if (s.addr.addrMap i).used then
              let clock := s.apsDupClock i - 1
              checkTimerScan fuel (i + 1) (n + 1) { s with
                apsDupClock := Function.update s.apsDupClock i clock
                dupsAlarmRunning := s.dupsAlarmRunning || clock != 0 }
            else checkTimerScan fuel (i + 1) n s
      else some s

/-- The alarm runs again while a clock does. -/
def zbApsCheckTimerCb (s : DupState) : Option DupState :=
  checkTimerScan zbIeeeAddrTableSize 0 0 { s with dupsAlarmRunning := false }

/-- Where a frame goes. -/
inductive Passed where
  | dropped
  | command
  | indication
  | group
  deriving DecidableEq

/-- The acknowledgement, which is sent before, is left out. -/
def zbNldeDataIndicationContinue (hdr : ZbApsHdr) (s : DupState) : Option (DupState × Passed) := do
  let (s, isDup) ← apsCheckDups hdr.srcAddr hdr.apsCounter s
  if isDup then return (s, .dropped)
  else if zbApsFcGetFrameType hdr.fc = zbApsFrameCommand then return (s, .command)
  else if ¬(zbApsFcGetFrameType hdr.fc = zbApsFrameData ∧
      zbApsFcGetDeliveryMode hdr.fc = zbApsDeliveryGroup) then return (s, .indication)
  else return (s, .group)

/-! ## Runs -/

inductive ApsStep where
  | frame (hdr : ZbApsHdr)
  | tick
  deriving DecidableEq

def apsStep (s : DupState) : ApsStep → Option DupState
  | .frame hdr => (zbNldeDataIndicationContinue hdr s).map Prod.fst
  | .tick => zbApsCheckTimerCb s

/-- A frame that arrives now is passed up. -/
def passedUp (s : DupState) (hdr : ZbApsHdr) : Bool :=
  match zbNldeDataIndicationContinue hdr s with
  | some (_, passed) => passed != .dropped
  | none => false

def ticks (steps : List ApsStep) : Nat := steps.countP (· == .tick)

/-- A source has an address entry, or can be given one. -/
def HasEntry (g : ZbAddrGlobals) (srcAddr : UInt16) : Prop :=
  (∃ ref, shortSearch g srcAddr = some ref) ∨
    ∃ i, i < zbIeeeAddrTableSize ∧ (g.addrMap i).used = false

section Lookup

variable {g g' : ZbAddrGlobals} {a b : UInt16} {r ref : Nat} {res : Except ZbRet Nat}

/-- The holder of a short address is found. -/
theorem search_holder (map : AddressMap g) {code : ZbIeeeAddrCompressed}
    (short : a ≠ zbUnknownShortAddr) (holds : pairs g r = some (code, a)) :
    shortSearch g a = some r := by
  have listed : Indexed g r := indexed_iff.2 ⟨code, a, holds, short⟩
  obtain ⟨s, found⟩ :=
    (shortSearch_isSome_iff map.index a).2 ⟨r, listed, (pairs_eq_some.1 holds).2.2.2⟩
  obtain ⟨-, code', held⟩ := short_holder map.index found
  have same : s = r := map.pairsOk.short s r _ _ held holds short rfl
  rw [found, same]

/-- **Looking a source up**: the table stays well formed, the devices known keep their
entries, and the entry returned is the one the source is found at. -/
theorem lookup_spec (map : AddressMap g) (taken : zbAddressByShort a true false g = some (g', res)) :
    AddressMap g' ∧
      (∀ s b, shortSearch g b = some s → shortSearch g' b = some s) ∧
      ∀ ref, res = .ok ref → (g'.addrMap ref).addr = a ∧
        (a ≠ zbUnknownShortAddr → shortSearch g' a = some ref) := by
  rcases zbAddressByShort_cases taken with ⟨ref, found, same, rfl⟩ | ⟨-, creating, -⟩ |
    ⟨failed, -, g₂, added, same⟩
  · have search (b : UInt16) : shortSearch g' b = shortSearch g b := by
      have read : ∀ g, shortSearch (table g) b = shortSearch g b := fun _ => rfl
      rw [← read g', same, read g]
    refine ⟨map.congr same, fun s b hit => (search b).trans hit, fun s is => ?_⟩
    cases is
    have found' := (search a).trans found
    exact ⟨(shortSearch_eq_some found').2, fun _ => found'⟩
  · cases creating
  · have search (b : UInt16) : shortSearch g' b = shortSearch g₂ b := by
      have read : ∀ g, shortSearch (table g) b = shortSearch g b := fun _ => rfl
      rw [← read g', same, read g₂]
    have noCode : ∀ P : ZbIeeeAddrCompressed → Prop, ∀ code, none = some code → P code :=
      fun P code impossible => by cases impossible
    obtain ⟨map₂, -, -, wrote⟩ :=
      map.add added (fun _ => failed) (noCode _) (noCode _)
    refine ⟨map₂.congr same, fun s b hit => ?_, fun ref is => ?_⟩
    · rw [search]
      obtain ⟨short, code, held⟩ := short_holder map.index hit
      rcases addrAdd_spec map.index none a with full | ⟨i, g₃, -, -, is, -⟩
      · rw [full] at added
        cases added
        exact hit
      · rw [is] at added
        cases added
        obtain ⟨-, empty, after⟩ := wrote i rfl
        have ne : s ≠ i := by
          rintro rfl
          rw [empty] at held
          cases held
        have kept : pairs g₂ s = some (code, b) := by
          rw [after, Function.update_of_ne ne]
          exact held
        exact search_holder map₂ short kept
    · obtain ⟨-, -, after⟩ := wrote ref is
      have holds : pairs g₂ ref = some (.zero, a) := by
        rw [after, Function.update_self]
        rfl
      have holds' : pairs g' ref = some (.zero, a) := by rw [pairs_congr same, holds]
      exact ⟨(pairs_eq_some.1 holds').2.2.2, fun short =>
        (search a).trans (search_holder map₂ short holds)⟩

/-- A pair is refused only where every entry is in use. -/
theorem used_of_overflow (full : addrAdd none a g = some (g', .error .overflow)) {i : Nat}
    (inside : i < zbIeeeAddrTableSize) : (g.addrMap i).used = true := by
  simp only [addrAdd] at full
  split at full
  · rename_i failed
    have taken := (probe_eq_none_iff (by decide)).1 failed i inside
    simpa using taken
  · obtain ⟨g₂, -, is⟩ := Option.bind_eq_some_iff.1 full
    cases is

/-- A source with an entry is looked up with success. -/
theorem lookup_ok (map : AddressMap g) (entry : HasEntry g a) :
    ∃ g' ref, zbAddressByShort a true false g = some (g', .ok ref) := by
  cases found : shortSearch g a with
  | some ref =>
      exact ⟨g.setEnt ref fun ent => { ent with clock := true }, ref, by
        simp [zbAddressByShort, found, lockIf]⟩
  | none =>
      rcases addrAdd_spec map.index none a with full | ⟨i, g', -, -, added, -⟩
      · exfalso
        rcases entry with ⟨ref, is⟩ | ⟨i, inside, free⟩
        · rw [found] at is
          cases is
        · rw [used_of_overflow full inside] at free
          cases free
      · exact ⟨g', i, by simp [zbAddressByShort, found, added, lockIf]⟩

end Lookup

section Receive

variable {s t u : DupState} {hdr first second : ZbApsHdr} {steps : List ApsStep}

/-- What a frame does. -/
theorem frame_spec (taken : apsStep s (.frame hdr) = some t) :
    (∃ g ref, zbAddressByShort hdr.srcAddr true false s.addr = some (g, .ok ref) ∧
        t.addr = g ∧ t.apsDupCounter = Function.update s.apsDupCounter ref hdr.apsCounter ∧
        t.apsDupClock = Function.update s.apsDupClock ref 3) ∨
      ∃ g ret, zbAddressByShort hdr.srcAddr true false s.addr = some (g, .error ret) ∧
        t.addr = g ∧ t.apsDupCounter = s.apsDupCounter ∧ t.apsDupClock = s.apsDupClock := by
  obtain ⟨⟨t', passed⟩, received, rfl⟩ := Option.map_eq_some_iff.1 taken
  obtain ⟨⟨t'', isDup⟩, checked, sorted⟩ := Option.bind_eq_some_iff.1 received
  have same : t'' = t' := by
    dsimp only at sorted
    split at sorted
    · cases sorted; rfl
    · split at sorted
      · cases sorted; rfl
      · split at sorted <;> (cases sorted; rfl)
  subst same
  obtain ⟨⟨g, ret⟩, looked, checked⟩ := Option.bind_eq_some_iff.1 checked
  cases ret with
  | ok ref =>
      cases checked
      exact .inl ⟨g, ref, looked, rfl, rfl, rfl⟩
  | error ret =>
      cases checked
      exact .inr ⟨g, ret, looked, rfl, rfl, rfl⟩

/-- A repeat that meets the counter before the clock has run down is dropped. -/
theorem not_passedUp {ref : Nat} (found : shortSearch s.addr hdr.srcAddr = some ref)
    (running : s.apsDupClock ref ≠ 0) (same : s.apsDupCounter ref = hdr.apsCounter) :
    passedUp s hdr = false := by
  simp [passedUp, zbNldeDataIndicationContinue, apsCheckDups, zbAddressByShort, found, lockIf,
    running, same]

/-- The tick lowers clocks by one at most, and touches nothing else. -/
theorem checkTimerScan_spec {fuel i n : Nat} (scanned : checkTimerScan fuel i n s = some t) :
    t.addr = s.addr ∧ t.apsDupCounter = s.apsDupCounter ∧
      ∀ ref, (ref < i → t.apsDupClock ref = s.apsDupClock ref) ∧
        s.apsDupClock ref ≤ t.apsDupClock ref + 1 := by
  induction fuel generalizing i n s with
  | zero =>
      rw [checkTimerScan] at scanned
      split at scanned
      · cases scanned
      · cases scanned
        exact ⟨rfl, rfl, fun ref => ⟨fun _ => rfl, Nat.le_succ _⟩⟩
  | succ fuel ih =>
      rw [checkTimerScan] at scanned
      split at scanned
      · dsimp only at scanned
        split at scanned
        · obtain ⟨addr, counters, clocks⟩ := ih scanned
          refine ⟨addr, counters, fun ref => ⟨fun below => ?_, ?_⟩⟩
          · rw [(clocks ref).1 (Nat.lt_succ_of_lt below)]
            exact Function.update_of_ne below.ne _ _
          · rcases eq_or_ne ref i with rfl | other
            · rw [(clocks ref).1 (Nat.lt_succ_self ref)]
              simp only [Function.update_self]
              omega
            · have later := (clocks ref).2
              simp only [Function.update_of_ne other] at later
              exact later
        · obtain ⟨addr, counters, clocks⟩ := ih scanned
          exact ⟨addr, counters, fun ref =>
            ⟨fun below => (clocks ref).1 (Nat.lt_succ_of_lt below), (clocks ref).2⟩⟩
      · cases scanned
        exact ⟨rfl, rfl, fun ref => ⟨fun _ => rfl, Nat.le_succ _⟩⟩

/-! ## What the table remembers -/

/-- A frame with this counter has come from the source, and so many ticks since. -/
structure Remembers (s : DupState) (srcAddr : UInt16) (apsCounter : UInt8) (ref age : Nat) :
    Prop where
  map : AddressMap s.addr
  found : shortSearch s.addr srcAddr = some ref
  counter : s.apsDupCounter ref = apsCounter
  clock : 3 ≤ s.apsDupClock ref + age

variable {srcAddr : UInt16} {apsCounter : UInt8} {ref age : Nat}

/-- A frame of the same source is not taken for one of another. -/
theorem frame_remembers (remembers : Remembers s srcAddr apsCounter ref age)
    (only : hdr.srcAddr = srcAddr → hdr.apsCounter = apsCounter)
    (taken : apsStep s (.frame hdr) = some t) : Remembers t srcAddr apsCounter ref age := by
  obtain ⟨map, found, counter, clock⟩ := remembers
  rcases frame_spec taken with ⟨g, r, looked, addr, counters, clocks⟩ |
    ⟨g, ret, looked, addr, counters, clocks⟩
  · obtain ⟨map', kept, at_⟩ := lookup_spec map looked
    subst addr
    have found' := kept ref srcAddr found
    by_cases same : r = ref
    · subst same
      refine ⟨map', found', ?_, ?_⟩
      · rw [counters, Function.update_self]
        -- the entry has one address
        apply only
        rw [← (at_ r rfl).1, (shortSearch_eq_some found').2]
      · rw [clocks, Function.update_self]
        exact Nat.le_add_right 3 age
    · have ne : ref ≠ r := Ne.symm same
      refine ⟨map', found', ?_, ?_⟩
      · rw [counters, Function.update_of_ne ne]
        exact counter
      · rw [clocks, Function.update_of_ne ne]
        exact clock
  · obtain ⟨map', kept, -⟩ := lookup_spec map looked
    subst addr
    refine ⟨map', kept ref srcAddr found, ?_, ?_⟩
    · rw [counters]
      exact counter
    · rw [clocks]
      exact clock

/-- A tick makes what is remembered one older. -/
theorem tick_remembers (remembers : Remembers s srcAddr apsCounter ref age)
    (taken : apsStep s .tick = some t) : Remembers t srcAddr apsCounter ref (age + 1) := by
  obtain ⟨map, found, counter, clock⟩ := remembers
  obtain ⟨addr, counters, clocks⟩ := checkTimerScan_spec taken
  refine ⟨?_, ?_, ?_, ?_⟩
  · rw [addr]
    exact map
  · rw [addr]
    exact found
  · rw [counters]
    exact counter
  · have lowered : s.apsDupClock ref ≤ t.apsDupClock ref + 1 := (clocks ref).2
    omega

/-- The frames of a source that arrive have this counter. -/
def OnlyCounter (srcAddr : UInt16) (apsCounter : UInt8) (steps : List ApsStep) : Prop :=
  ∀ hdr, .frame hdr ∈ steps → hdr.srcAddr = srcAddr → hdr.apsCounter = apsCounter

theorem run_remembers (remembers : Remembers s srcAddr apsCounter ref age)
    (only : OnlyCounter srcAddr apsCounter steps) (ran : run apsStep s steps = some t) :
    Remembers t srcAddr apsCounter ref (age + ticks steps) := by
  induction steps generalizing s age with
  | nil =>
      cases ran
      exact remembers
  | cons step steps ih =>
      obtain ⟨u, taken, rest⟩ := run_cons_eq_some.1 ran
      have onlyRest : OnlyCounter srcAddr apsCounter steps := fun hdr mem =>
        only hdr (List.mem_cons_of_mem step mem)
      cases step with
      | frame hdr =>
          have remembers := frame_remembers remembers (only hdr List.mem_cons_self) taken
          exact ih remembers onlyRest rest
      | tick =>
          have remembers := ih (tick_remembers remembers taken) onlyRest rest
          have count : ticks (.tick :: steps) = ticks steps + 1 := by simp [ticks]
          rw [count]
          rwa [Nat.add_assoc, Nat.add_comm 1] at remembers

/-- The first frame is remembered. -/
theorem first_remembers (map : AddressMap s.addr) (entry : HasEntry s.addr first.srcAddr)
    (known : first.srcAddr ≠ zbUnknownShortAddr) (arrived : apsStep s (.frame first) = some t) :
    ∃ ref, Remembers t first.srcAddr first.apsCounter ref 0 := by
  obtain ⟨g, ref, looked⟩ := lookup_ok map entry
  rcases frame_spec arrived with ⟨g', ref', looked', addr, counters, clocks⟩ |
    ⟨g', ret, looked', -⟩
  · obtain ⟨map', -, at_⟩ := lookup_spec map looked'
    refine ⟨ref', addr ▸ map', addr ▸ (at_ ref' rfl).2 known, ?_, ?_⟩
    · rw [counters, Function.update_self]
    · rw [clocks, Function.update_self]
  · rw [looked] at looked'
    cases looked'

end Receive

/-- What the receive path promises of two frames with the same source and counter,
with `between` from the first to the second. -/
def RepeatDropped (s : DupState) (first second : ZbApsHdr) (between : List ApsStep) : Prop :=
  ∀ t u, apsStep s (.frame first) = some t → run apsStep t between = some u →
    ¬(passedUp s first = true ∧ passedUp u second = true)

/-- **A repeat is dropped**, until three ticks have passed, whatever arrives from other
sources, unless another frame of the source arrives in between, or the source has no
address entry. -/
theorem duplicate_dropped {s : DupState} {first second : ZbApsHdr} {between : List ApsStep}
    (map : AddressMap s.addr) (sameSource : second.srcAddr = first.srcAddr)
    (sameCounter : second.apsCounter = first.apsCounter) (young : ticks between < 3)
    (known : first.srcAddr ≠ zbUnknownShortAddr) (entry : HasEntry s.addr first.srcAddr)
    (only : OnlyCounter first.srcAddr first.apsCounter between) :
    RepeatDropped s first second between := by
  rintro t u arrived ran ⟨-, passed⟩
  obtain ⟨ref, remembers⟩ := first_remembers map entry known arrived
  obtain ⟨-, found, counter, clock⟩ := run_remembers remembers only ran
  have running : u.apsDupClock ref ≠ 0 := by omega
  have dropped : passedUp u second = false :=
    not_passedUp (sameSource ▸ found) running (counter.trans sameCounter.symm)
  rw [dropped] at passed
  cases passed

/-- Two ticks and frames of other sources. -/
def othersInBetween : List ApsStep :=
  [.tick, .frame ⟨0, 2, 9⟩, .frame ⟨0, 1, 7⟩, .frame ⟨1, 3, 7⟩, .tick]

theorem duplicate_dropped_othersInBetween :
    RepeatDropped .init ⟨0, 1, 7⟩ ⟨0, 1, 7⟩ othersInBetween :=
  duplicate_dropped addressMap_init rfl rfl (by decide) (by decide)
    (.inr ⟨0, by decide, rfl⟩) (by
      intro hdr mem source
      simp only [othersInBetween, List.mem_cons, reduceCtorEq, ApsStep.frame.injEq,
        List.not_mem_nil, or_false, false_or] at mem
      rcases mem with rfl | rfl | rfl
      · exact absurd source (by decide)
      · rfl
      · exact absurd source (by decide))

/-- The run does not stop. -/
example : ((apsStep .init (.frame ⟨0, 1, 7⟩)).bind fun t =>
    run apsStep t othersInBetween).isSome = true := by decide +kernel

/-- **A repeat is passed up after another frame of its source.** -/
theorem interleaved_repeat_passed :
    ¬ ∀ (s : DupState) (first second : ZbApsHdr) (between : List ApsStep),
      AddressMap s.addr → second.srcAddr = first.srcAddr → second.apsCounter = first.apsCounter →
      ticks between < 3 → RepeatDropped s first second between := by
  intro dropped
  have once := dropped .init ⟨0, 1, 7⟩ ⟨0, 1, 7⟩ [.frame ⟨0, 1, 8⟩] addressMap_init rfl rfl (by decide)
  have twice : ((apsStep .init (.frame ⟨0, 1, 7⟩)).bind fun t =>
      (run apsStep t [.frame ⟨0, 1, 8⟩]).map fun u => passedUp u ⟨0, 1, 7⟩) = some true := by decide +kernel
  obtain ⟨t, arrived, rest⟩ := Option.bind_eq_some_iff.1 twice
  obtain ⟨u, ran, passed⟩ := Option.map_eq_some_iff.1 rest
  exact once t u arrived ran ⟨by decide +kernel, passed⟩

end Zboss.Aps.Dups
