/-
# Aps.BindingSearch -- the destination a source is bound to

A request without a destination goes where its source is bound: `zb_search_dst_in_binding_table`
looks for the device's own entry, for the source, and for the first destination of that.

`contextOk_of_run`: an unbind that would not leave the binding table in order moves memory out
of its array, so every table that a run reaches is in order.  On such a table `searchExact_iff`:
the search finds a destination exactly when the source is bound to a device, and one it is bound
to, unless the table is empty and the stale slots 0 still name a link of the source, or the
first destination of the source is a group and a later one is not.

Pole: `unbound_destination_used`.
-/
import Mathlib
import Zboss.Aps.BindLinks
import Zboss.Aps.ApsFrame

namespace Zboss.Aps.BindingSearch

open Zboss.Theory.Run
open Zboss.Theory.Table
open Zboss.Common.Types
open Zboss.Common.Address
open Zboss.Aps.Bind
open Zboss.Aps.BindLinks
open Zboss.Aps.ApsFrame

set_option autoImplicit false

/-! ## The tables that are reached -/

section Reached

variable {t : ZbApsBindingTable} {dst : BindDst} {c c' : BindContext} {call : BindCall}

/-- Removing a stale record from an empty table moves 255 records. -/
theorem removeRecord_faults (noDst : t.dstNElements = 0) (stale : t.dstTable 0 = ⟨dst, 0⟩) :
    removeRecord 0 dst t = .error .fault := by
  have first : removeDst 0 dst 256 t.dstTable t.dstNElements 0 false = .error .fault := by
    rw [show (256 : Nat) = 255 + 1 from rfl, removeDst, if_pos stale, noDst, if_neg (by decide)]
  rw [removeRecord, first]
  rfl

/-- What a named link says of the lookups it was made by. -/
theorem requestLink_eq_some {create : Bool} {req : ZbApsmeBindingReq} {g : ZbAddrGlobals}
    {link : Link} (named : requestLink create req g = some link) :
    ∃ g₁ ref g₂ dst, lookup req.srcAddr create g = .ok (g₁, .ok ref) ∧
      requestDst req g₁ = .ok (g₂, .ok dst) ∧ link = (requestSrc req ref, dst) := by
  unfold requestLink at named
  split at named
  · rename_i g₁ ref found
    split at named
    · rename_i g₂ dst asked
      cases named
      exact ⟨g₁, ref, g₂, dst, found, asked, rfl⟩
    · cases named
  · cases named

/-- An unbind that meets a stale link does not come back. -/
theorem bindStep_of_stale (ok : ContextOk c) (stale : ¬ UnbindIntact c call) :
    bindStep c call = none := by
  cases call with
  | bind req => exact absurd trivial stale
  | unbind req =>
      simp only [UnbindIntact, not_forall, not_not] at stale
      obtain ⟨empty, link, named, src, dst⟩ := stale
      obtain ⟨g₁, ref, g₂, to_, found, asked, rfl⟩ := requestLink_eq_some named
      have noDst := (empty_iff ok.table).1 empty
      have hit : apsFindSrcRef c.binding (requestSrc req ref) = 0 := by
        rw [apsFindSrcRef_empty empty, if_pos src]
      have faults := removeRecord_faults noDst dst
      have called : zbApsmeUnbindRequest req c = .error .fault := by
        simp only [zbApsmeUnbindRequest, found, bind, Except.bind, hit, asked, faults]
        rfl
      rw [bindStep, bindCall, called]

/-- **Every step keeps the table in order.** -/
theorem contextOk_of_taken (ok : ContextOk c) (taken : bindStep c call = some c') :
    ContextOk c' := by
  by_cases intact : UnbindIntact c call
  · exact contextOk_step ok intact taken
  · rw [bindStep_of_stale ok intact] at taken
    cases taken

theorem contextOk_of_run {g : ZbAddrGlobals} {calls : List BindCall}
    (ran : run bindStep ⟨g, .init⟩ calls = some c) : ContextOk c :=
  run_invariant_of_step (fun _ _ _ ok taken => contextOk_of_taken ok taken) (contextOk_init g) ran

end Reached

/-! ## The scan -/

section Scan

variable {t : ZbApsBindingTable} {src : ZbApsBindSrcTable} {ind : Nat}

/-- The scan of a table that is not empty. -/
theorem dstScan_eq {fuel i : Nat} (inside : i < t.dstNElements)
    (fueled : t.dstNElements ≤ i + fuel) :
    dstScan t ind fuel i = ((List.range' i (t.dstNElements - i)).map t.dstTable).find?
      fun r => decide (r.srcTableIndex = ind) := by
  induction fuel generalizing i with
  | zero => omega
  | succ fuel ih =>
      rw [dstScan, show t.dstNElements - i = (t.dstNElements - (i + 1)) + 1 by omega,
        List.range'_succ, List.map_cons]
      by_cases here : (t.dstTable i).srcTableIndex = ind
      · rw [if_pos here, List.find?_cons_of_pos (by simpa using here)]
      · rw [if_neg here, List.find?_cons_of_neg (by simpa using here)]
        by_cases more : i + 1 < t.dstNElements
        · rw [if_pos more, ih more (by omega)]
        · rw [if_neg more, show t.dstNElements - (i + 1) = 0 by omega]
          rfl

theorem dstScan_records (ok : BindingOk t) (some_ : 0 < t.dstNElements) :
    dstScan t ind 256 0 = (records t).find? fun r => decide (r.srcTableIndex = ind) := by
  have fits := ok.dstFits
  simp only [zbApsDstBindingTableSize] at fits
  rw [dstScan_eq some_ (by omega), records, live, List.range_eq_range', Nat.sub_zero]

/-- The first destination of a source among the live records. -/
def firstDst (t : ZbApsBindingTable) (src : ZbApsBindSrcTable) : Option BindDst :=
  ((records t).find? fun r => decide (t.srcTable r.srcTableIndex = src)).map
    ZbApsBindDstTable.dst

/-- The records of a source are those with its index. -/
theorem firstDst_eq (ok : BindingOk t) (inside : ind < t.srcNElements)
    (there : t.srcTable ind = src) :
    firstDst t src = ((records t).find? fun r => decide (r.srcTableIndex = ind)).map
      ZbApsBindDstTable.dst := by
  have same : ∀ r ∈ records t,
      decide (t.srcTable r.srcTableIndex = src) = decide (r.srcTableIndex = ind) := by
    intro r mem
    rw [decide_eq_decide, ← there]
    exact ⟨source_inj ok (ok.inside r mem) inside, congrArg t.srcTable⟩
  rw [firstDst, List.find?_congr same]

theorem mem_links {dst : BindDst} : (src, dst) ∈ links t ↔
    ∃ r ∈ records t, t.srcTable r.srcTableIndex = src ∧ r.dst = dst := by
  simp [links, linkOf]

theorem mem_links_of_firstDst {dst : BindDst} (first : firstDst t src = some dst) :
    (src, dst) ∈ links t := by
  obtain ⟨r, found, rfl⟩ := Option.map_eq_some_iff.1 first
  have there : t.srcTable r.srcTableIndex = src := by simpa using List.find?_some found
  exact mem_links.2 ⟨r, List.mem_of_find?_eq_some found, there, rfl⟩

/-- A source without a destination has no link. -/
theorem firstDst_eq_none : firstDst t src = none ↔ ∀ dst, (src, dst) ∉ links t := by
  rw [firstDst, Option.map_eq_none_iff, List.find?_eq_none]
  constructor
  · intro absent dst mem
    obtain ⟨r, live_, there, -⟩ := mem_links.1 mem
    exact absent r live_ (decide_eq_true there)
  · intro absent r live_ there
    exact absent r.dst (mem_links.2 ⟨r, live_, of_decide_eq_true there, rfl⟩)

end Scan

/-! ## The search -/

/-- A device the source is bound to, with its endpoint, as the search reads a destination. -/
def unicastDst : BindDst → Option (Nat × UInt8)
  | .long ref dstEnd => some (ref, dstEnd)
  | .group _ => none

/-- The source of a request from a device with this entry. -/
def reqSrc (own : Nat) (req : ZbApsdeDataReq) : ZbApsBindSrcTable :=
  ⟨own, req.srcEndpoint, req.clusterid⟩

/-- What the search comes to once the device has found its own entry. -/
def searchFrom (t : ZbApsBindingTable) (src : ZbApsBindSrcTable) : Option (Nat × UInt8) :=
  if apsFindSrcRef t src = 255 then none
  else (dstScan t (apsFindSrcRef t src) 256 0).bind fun r => unicastDst r.dst

/-- **The condition**: an empty table has no stale link of the source to a device in its slots
0, and a source that is bound to a device has one as its first destination. -/
structure SearchIntact (t : ZbApsBindingTable) (src : ZbApsBindSrcTable) : Prop where
  stale : t.dstNElements = 0 → t.srcTable 0 = src → unicastDst (t.dstTable 0).dst = none
  first : ∀ ref dstEnd, (src, .long ref dstEnd) ∈ links t →
    ∃ ref' dstEnd', firstDst t src = some (.long ref' dstEnd')

/-- The result of a search is a device the source is bound to, and there is one if it is bound
to any. -/
def Exact (t : ZbApsBindingTable) (src : ZbApsBindSrcTable) (found : Option (Nat × UInt8)) : Prop :=
  ((∃ dst, found = some dst) ↔ ∃ ref dstEnd, (src, .long ref dstEnd) ∈ links t) ∧
    ∀ ref dstEnd, found = some (ref, dstEnd) → (src, .long ref dstEnd) ∈ links t

section Search

variable {t : ZbApsBindingTable} {src : ZbApsBindSrcTable}

theorem unicastDst_eq_some {dst : BindDst} {ref : Nat} {dstEnd : UInt8} :
    unicastDst dst = some (ref, dstEnd) ↔ dst = .long ref dstEnd := by
  cases dst <;> simp [unicastDst]

/-- On an empty table the search reads the stale slots 0. -/
theorem searchFrom_empty (ok : BindingOk t) (zero : StaleZero t) (empty : t.dstNElements = 0) :
    searchFrom t src = if t.srcTable 0 = src then unicastDst (t.dstTable 0).dst else none := by
  have noSrc := (empty_iff ok).2 empty
  rw [searchFrom, apsFindSrcRef_empty noSrc]
  by_cases there : t.srcTable 0 = src
  · have scanned : dstScan t 0 256 0 = some (t.dstTable 0) := by
      rw [show (256 : Nat) = 255 + 1 from rfl, dstScan, if_pos (zero noSrc)]
    rw [if_pos there, if_neg (by decide), scanned, if_pos there, Option.bind_some]
  · rw [if_neg there, if_pos rfl, if_neg there]

/-- On any other it reads the first destination of the source. -/
theorem searchFrom_filled (ok : BindingOk t) (some_ : 0 < t.dstNElements) :
    searchFrom t src = (firstDst t src).bind unicastDst := by
  have srcs : 0 < t.srcNElements := by
    have := empty_iff ok
    omega
  rcases apsFindSrcRef_spec src ok srcs with ⟨inside, there⟩ | ⟨miss, absent⟩
  · have fits := ok.srcFits
    simp only [zbApsSrcBindingTableSize] at fits
    rw [searchFrom, if_neg (by omega), dstScan_records ok some_, firstDst_eq ok inside there,
      Option.bind_map]
    rfl
  · have unbound : firstDst t src = none := by
      rw [firstDst_eq_none]
      intro dst mem
      obtain ⟨r, live_, there, -⟩ := mem_links.1 mem
      exact absent _ (ok.inside r live_) there
    rw [searchFrom, if_pos miss, unbound, Option.bind_none]

/-- **The search is exact** under the condition, and only then. -/
theorem exact_iff (ok : BindingOk t) (zero : StaleZero t) :
    Exact t src (searchFrom t src) ↔ SearchIntact t src := by
  rcases Nat.eq_zero_or_pos t.dstNElements with empty | some_
  · have none_ : ∀ dst, (src, dst) ∉ links t := by
      intro dst mem
      rw [links, records, empty] at mem
      cases mem
    rw [searchFrom_empty ok zero empty]
    constructor
    · rintro ⟨-, bound⟩
      refine ⟨fun _ there => ?_, fun ref dstEnd mem => absurd mem (none_ _)⟩
      rw [if_pos there] at bound
      cases found : unicastDst (t.dstTable 0).dst with
      | none => rfl
      | some dst => exact absurd (bound dst.1 dst.2 found) (none_ _)
    · rintro ⟨stale, -⟩
      have misses : (if t.srcTable 0 = src then unicastDst (t.dstTable 0).dst else none) = none := by
        split
        · rename_i there
          exact stale empty there
        · rfl
      rw [misses]
      refine ⟨⟨?_, ?_⟩, by simp⟩
      · rintro ⟨dst, is⟩
        cases is
      · rintro ⟨ref, dstEnd, mem⟩
        exact absurd mem (none_ _)
  · rw [searchFrom_filled ok some_]
    constructor
    · rintro ⟨iff_, -⟩
      refine ⟨fun empty => absurd empty (by omega), fun ref dstEnd mem => ?_⟩
      obtain ⟨⟨ref', dstEnd'⟩, found⟩ := iff_.2 ⟨ref, dstEnd, mem⟩
      obtain ⟨dst, first, unicast⟩ := Option.bind_eq_some_iff.1 found
      exact ⟨ref', dstEnd', first.trans (congrArg some (unicastDst_eq_some.1 unicast))⟩
    · rintro ⟨-, first⟩
      have bound : ∀ ref dstEnd, (firstDst t src).bind unicastDst = some (ref, dstEnd) →
          (src, .long ref dstEnd) ∈ links t := by
        intro ref dstEnd found
        obtain ⟨dst, here, unicast⟩ := Option.bind_eq_some_iff.1 found
        rw [unicastDst_eq_some.1 unicast] at here
        exact mem_links_of_firstDst here
      refine ⟨⟨?_, ?_⟩, bound⟩
      · rintro ⟨⟨ref, dstEnd⟩, found⟩
        exact ⟨ref, dstEnd, bound ref dstEnd found⟩
      · rintro ⟨ref, dstEnd, mem⟩
        obtain ⟨ref', dstEnd', here⟩ := first ref dstEnd mem
        exact ⟨(ref', dstEnd'), by rw [here]; rfl⟩

/-- The search of a request: the device's own entry, and from there. -/
theorem zbSearchDst_eq (pibShortAddress : UInt16) (req : ZbApsdeDataReq) (s : ApsState) :
    (zbSearchDstInBindingTable pibShortAddress req s).map Prod.snd =
      some ((shortSearch s.addr pibShortAddress).bind fun own =>
        searchFrom s.binding (reqSrc own req)) := by
  cases found : shortSearch s.addr pibShortAddress with
  | none =>
      simp only [zbSearchDstInBindingTable, zbAddressByShort, found]
      rfl
  | some own =>
      simp only [zbSearchDstInBindingTable, zbAddressByShort, found, lockIf, Option.bind_eq_bind,
        Option.bind_some]
      change _ = some (searchFrom s.binding ⟨own, req.srcEndpoint, req.clusterid⟩)
      rw [searchFrom]
      by_cases miss : apsFindSrcRef s.binding ⟨own, req.srcEndpoint, req.clusterid⟩ = 255
      · rw [if_pos miss, if_pos miss]
        rfl
      · rw [if_neg miss, if_neg miss]
        cases dstScan s.binding
          (apsFindSrcRef s.binding ⟨own, req.srcEndpoint, req.clusterid⟩) 256 0 with
        | none => rfl
        | some r =>
            obtain ⟨dst, ind⟩ := r
            cases dst <;> rfl

end Search

/-- **The device the request goes to**: the search returns, it finds a device exactly when the
source, at the device's own entry, is bound to one, and then one that it is bound to. -/
def SearchExact (pibShortAddress : UInt16) (req : ZbApsdeDataReq) (s : ApsState) : Prop :=
  ∃ s' found, zbSearchDstInBindingTable pibShortAddress req s = some (s', found) ∧
    ((∃ dst, found = some dst) ↔ ∃ own ref dstEnd, shortSearch s.addr pibShortAddress = some own ∧
      (reqSrc own req, .long ref dstEnd) ∈ links s.binding) ∧
    ∀ ref dstEnd, found = some (ref, dstEnd) → ∃ own,
      shortSearch s.addr pibShortAddress = some own ∧
        (reqSrc own req, .long ref dstEnd) ∈ links s.binding

theorem searchExact_iff_exact {pibShortAddress : UInt16} {req : ZbApsdeDataReq} {s : ApsState} :
    SearchExact pibShortAddress req s ↔ ∀ own, shortSearch s.addr pibShortAddress = some own →
      Exact s.binding (reqSrc own req) (searchFrom s.binding (reqSrc own req)) := by
  have search := zbSearchDst_eq pibShortAddress req s
  obtain ⟨⟨s', found⟩, searched, result⟩ := Option.map_eq_some_iff.1 search
  simp only at result
  cases at_ : shortSearch s.addr pibShortAddress with
  | none =>
      rw [at_, Option.bind_none] at result
      subst result
      refine iff_of_true ⟨s', none, searched, ⟨?_, ?_⟩, nofun⟩ nofun
      · rintro ⟨dst, is⟩
        cases is
      · rintro ⟨own, ref, dstEnd, is, -⟩
        rw [at_] at is
        cases is
  | some own =>
      rw [at_, Option.bind_some] at result
      subst result
      constructor
      · rintro ⟨s'', found, again, iff_, bound⟩ own' is
        rw [searched] at again
        cases again
        cases is
        refine ⟨iff_.trans ⟨?_, ?_⟩, fun ref dstEnd is => ?_⟩
        · rintro ⟨own', ref, dstEnd, same, mem⟩
          rw [at_] at same
          cases same
          exact ⟨ref, dstEnd, mem⟩
        · rintro ⟨ref, dstEnd, mem⟩
          exact ⟨own, ref, dstEnd, at_, mem⟩
        · obtain ⟨own', same, mem⟩ := bound ref dstEnd is
          rw [at_] at same
          cases same
          exact mem
      · intro exact_
        obtain ⟨iff_, bound⟩ := exact_ own rfl
        refine ⟨s', _, searched, iff_.trans ⟨?_, ?_⟩, fun ref dstEnd is => ?_⟩
        · rintro ⟨ref, dstEnd, mem⟩
          exact ⟨own, ref, dstEnd, at_, mem⟩
        · rintro ⟨own', ref, dstEnd, same, mem⟩
          rw [at_] at same
          cases same
          exact ⟨ref, dstEnd, mem⟩
        · exact ⟨own, at_, bound ref dstEnd is⟩

/-- **Binding-mode addressing uses exactly the current bindings** under the condition, and only
then: for every table that bind and unbind requests reach, and every request. -/
theorem searchExact_iff {g : ZbAddrGlobals} {calls : List BindCall} {c : BindContext}
    (ran : run bindStep ⟨g, .init⟩ calls = some c) (pibShortAddress : UInt16)
    (req : ZbApsdeDataReq) (s : ApsState) (same : s.binding = c.binding) :
    SearchExact pibShortAddress req s ↔ ∀ own, shortSearch s.addr pibShortAddress = some own →
      SearchIntact s.binding (reqSrc own req) := by
  obtain ⟨table, zero⟩ := contextOk_of_run ran
  rw [← same] at table zero
  rw [searchExact_iff_exact]
  exact forall₂_congr fun own _ => exact_iff table zero

/-! ## Poles -/

/-- The device itself. -/
def ownIeee : ZbIeeeAddr := #v[7, 7, 7, 7, 7, 7, 7, 7]

/-- It is in the address table with its short address 5. -/
def ownAddr : ZbAddrGlobals :=
  (((zbAddressUpdate ownIeee 5 false .init).map Prod.fst).getD .init)

/-- A request to bind it to a device. -/
def toDevice (cluster : UInt16) : ZbApsmeBindingReq where
  srcAddr := ownIeee
  srcEndpoint := 1
  clusterid := cluster
  addrMode := 3
  dstAddrLong := #v[9, 9, 9, 9, 9, 9, 9, 9]
  dstAddrShort := 0
  dstEndpoint := 10

/-- A data request of the bound source. -/
def boundReq (cluster : UInt16) : ZbApsdeDataReq where
  dstAddr := Vector.replicate 8 0
  profileid := 0
  clusterid := cluster
  dstEndpoint := 0
  srcEndpoint := 1
  radius := 0
  addrMode := .dstAddrEndpNotPresent
  txOptions := 0

/-- With the tables of a binding context. -/
def apsState (c : BindContext) : ApsState where
  apsCounter := 0
  hash _ := ⟨0xFFFF, 0, 0, 0, 0, 0xFF, 0, false, .free⟩
  addr := c.addr
  binding := c.binding

def boundAndUnbound : List BindCall := [.bind (toDevice 6), .unbind (toDevice 6)]

/-- **A binding that has been removed is used again.** -/
theorem unbound_destination_used :
    ¬ ∀ (g : ZbAddrGlobals) (calls : List BindCall) (c : BindContext),
      run bindStep ⟨g, .init⟩ calls = some c →
      ∀ (pibShortAddress : UInt16) (req : ZbApsdeDataReq) (s : ApsState), s.binding = c.binding →
        SearchExact pibShortAddress req s := by
  intro always
  have after : (run bindStep ⟨ownAddr, .init⟩ boundAndUnbound).any (fun c =>
      decide (c.binding.dstNElements = 0 ∧
        ((zbSearchDstInBindingTable 5 (boundReq 6) (apsState c)).bind Prod.snd).isSome)) = true := by
    decide +kernel
  obtain ⟨c, ran, holds⟩ := (Option.any_eq_true _ _).1 after
  obtain ⟨empty, finds⟩ := of_decide_eq_true holds
  obtain ⟨s', found, searched, -, bound⟩ :=
    always ownAddr boundAndUnbound c ran 5 (boundReq 6) (apsState c) rfl
  rw [searched, Option.bind_some] at finds
  obtain ⟨⟨ref, dstEnd⟩, is⟩ := Option.isSome_iff_exists.1 finds
  obtain ⟨own, -, mem⟩ := bound ref dstEnd is
  have none_ : links (apsState c).binding = 0 := by
    rw [links, records, show (apsState c).binding.dstNElements = 0 from empty]
    rfl
  rw [none_] at mem
  cases mem

/-- A group, and then a device. -/
def groupThenDevice : List BindCall :=
  [.bind { toDevice 6 with addrMode := 1, dstAddrShort := 100 }, .bind (toDevice 6)]

/-- A group bound first hides the device bound after it. -/
example : (run bindStep ⟨ownAddr, .init⟩ groupThenDevice).any (fun c =>
    decide (((zbSearchDstInBindingTable 5 (boundReq 6) (apsState c)).bind Prod.snd) = none ∧
      (records c.binding).map ZbApsBindDstTable.dst = [.group 100, .long 89 10])) = true := by
  decide +kernel

def twoDevices : List BindCall := [.bind (toDevice 6), .bind (toDevice 8), .unbind (toDevice 6)]

/-- The binding that is left after an unbind is found. -/
theorem searchExact_twoDevices :
    ∃ c, run bindStep ⟨ownAddr, .init⟩ twoDevices = some c ∧
      SearchExact 5 (boundReq 8) (apsState c) := by
  have after : (run bindStep ⟨ownAddr, .init⟩ twoDevices).any (fun c =>
      decide (c.binding.dstNElements ≠ 0 ∧ shortSearch c.addr 5 = some 2 ∧
        firstDst c.binding (reqSrc 2 (boundReq 8)) = some (.long 89 10))) = true := by
    decide +kernel
  obtain ⟨c, ran, holds⟩ := (Option.any_eq_true _ _).1 after
  obtain ⟨filled, own, first⟩ := of_decide_eq_true holds
  refine ⟨c, ran, (searchExact_iff ran 5 (boundReq 8) (apsState c) rfl).2 fun own' is => ?_⟩
  have same : own' = 2 := Option.some.inj (is.symm.trans own)
  subst same
  exact ⟨fun empty => absurd empty filled, fun _ _ _ => ⟨89, 10, first⟩⟩

end Zboss.Aps.BindingSearch
