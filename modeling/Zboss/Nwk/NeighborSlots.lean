/-
# Nwk.NeighborSlots -- whether the places of the neighbour table are used again

`zb_nwk_neighbor_get` takes the place the counter stands at and moves the counter on;
`zb_nwk_neighbor_delete` clears the flag of a place, and leaves the counter and the lock of the
address.  So a place is given out once, the last one never, and the lock of an address that comes
and goes is counted up until it overflows.

* `Enters`: the lookup that creates makes its entry in a free place of the table, or the table is
  full of entries in use;
* `entersAlong_iff`: in a run it does at every creation iff every creation finds the counter before
  the last place, and the lock of its address below the overflow (`PlaceLeft`).

Pole: `places_spent`, a table without an entry in use that takes no more.
-/
import Mathlib
import Zboss.Theory.Run
import Zboss.Nwk.NeighborIndex

namespace Zboss.Nwk.NeighborSlots

open Zboss.Theory.Run
open Zboss.Common.Types
open Zboss.Common.Address
open Zboss.Nwk.Neighbor
open Zboss.Nwk.Forget
open Zboss.Nwk.NeighborIndex
open Zboss.Zdo.DeviceInfo

set_option autoImplicit false

/-! ## Histories -/

inductive SlotCall where
  | neighborGet (ref : Nat) (createIfAbsent : Bool)
  | neighborDelete (ref : Nat)
  /-- Others use the address table, which they may leave in any state. -/
  | address (addr : ZbAddrGlobals)

def slotStep (s : NwkContext) : SlotCall → Option NwkContext
  | .neighborGet ref createIfAbsent => (s.neighborGet ref createIfAbsent).map Prod.fst
  | .neighborDelete ref => some { s with neighbor := (zbNwkNeighborDelete ref s.neighbor).1 }
  | .address addr => some { s with addr }

/-! ## What is claimed -/

/-- The entries in use. -/
def entriesInUse (t : ZbNeighborTbl) : Nat :=
  ((Finset.range t.baseNeighborSize).filter fun i => (t.baseNeighbor i).used = true).card

/-- An entry for `ref` is made at `n`, which is inside the table and was free; nothing else is
written. -/
structure PlacedAt (ref n : Nat) (s t : ZbNeighborTbl) : Prop where
  inside : n < s.baseNeighborSize
  free : (s.baseNeighbor n).used = false
  made : (t.baseNeighbor n).used = true ∧ (t.baseNeighbor n).addrRef = ref
  others : ∀ i, i ≠ n → t.baseNeighbor i = s.baseNeighbor i

/-- **The creation finds a place** whenever not all are in use. -/
def Enters (ref : Nat) (s : NwkContext) : Prop :=
  match s.neighborGet ref true with
  | some (t, .ok n) => PlacedAt ref n s.neighbor t.neighbor
  | some (_, .error _) | none => s.neighbor.baseNeighborSize ≤ entriesInUse s.neighbor

/-- What is claimed of a call: of a creation for a new address. -/
def SlotFound (s : NwkContext) : SlotCall → Prop
  | .neighborGet ref createIfAbsent =>
      createIfAbsent = true → s.neighbor.addrToNeighbor ref = 255 → Enters ref s
  | .neighborDelete _ | .address _ => True

/-- **The condition**: the counter is before the last place, and the lock does not overflow. -/
def PlaceLeft (s : NwkContext) : SlotCall → Prop
  | .neighborGet ref createIfAbsent =>
      createIfAbsent = true → s.neighbor.addrToNeighbor ref = 255 →
        s.neighbor.baseNeighborUsed + 1 < s.neighbor.baseNeighborSize ∧
          ((s.addr.addrMap ref).lockCnt + 1) % 16 ≠ 0
  | .neighborDelete _ | .address _ => True

instance (s : NwkContext) : (call : SlotCall) → Decidable (PlaceLeft s call)
  | .neighborGet ref createIfAbsent =>
      inferInstanceAs (Decidable (createIfAbsent = true → s.neighbor.addrToNeighbor ref = 255 →
        s.neighbor.baseNeighborUsed + 1 < s.neighbor.baseNeighborSize ∧
          ((s.addr.addrMap ref).lockCnt + 1) % 16 ≠ 0))
  | .neighborDelete _ | .address _ => isTrue trivial

/-! ## One call -/

/-- What every call keeps: the entries in use are before the counter, and the counter is inside. -/
structure Slots (t : ZbNeighborTbl) : Prop where
  tidy : Tidy t t.baseNeighborSize
  inside : t.baseNeighborUsed < t.baseNeighborSize
  small : t.baseNeighborSize ≤ 32

section Calls

variable {s s' : NwkContext} {ref : Nat}

theorem slots_init : Slots ZbNeighborTbl.init :=
  ⟨tidy_init, by decide, by decide⟩

/-- The entries in use are among those handed out. -/
theorem entriesInUse_le {t : ZbNeighborTbl} (slots : Slots t) :
    entriesInUse t ≤ t.baseNeighborUsed := by
  have among : (Finset.range t.baseNeighborSize).filter (fun i => (t.baseNeighbor i).used = true) ⊆
      Finset.range t.baseNeighborUsed := by
    intro i mem
    obtain ⟨inside, on⟩ := Finset.mem_filter.1 mem
    exact Finset.mem_range.2 (slots.tidy.below i (Finset.mem_range.1 inside) on)
  calc entriesInUse t ≤ (Finset.range t.baseNeighborUsed).card := Finset.card_le_card among
    _ = t.baseNeighborUsed := Finset.card_range _

theorem lock_eq_none {g : ZbAddrGlobals} :
    zbAddressLock ref g = none ↔ ((g.addrMap ref).lockCnt + 1) % 16 = 0 := by
  rw [zbAddressLock]
  split
  · rename_i below
    simp [below]
  · rename_i wraps
    simp [not_not.1 wraps]

/-- **All that a lookup can do**: nothing, or put an entry at the counter. -/
theorem neighborGet_places {createIfAbsent : Bool} {ret : Except ZbRet Nat}
    (got : s.neighborGet ref createIfAbsent = some (s', ret)) :
    s'.neighbor = s.neighbor ∨
      createIfAbsent = true ∧ s.neighbor.addrToNeighbor ref = 255 ∧
        s.neighbor.baseNeighborUsed + 1 ≠ s.neighbor.baseNeighborSize ∧
        s'.neighbor = appendNeighbor ref (newNeighbor ref s.depth) s.neighbor := by
  obtain ⟨⟨g, t, n⟩, found, made⟩ := Option.bind_eq_some_iff.1 got
  cases made
  rw [zbNwkNeighborGet] at found
  dsimp only at found
  split at found
  · rename_i absent
    split at found
    · rename_i create
      split at found
      · cases found
        exact .inl rfl
      · rename_i left_
        obtain ⟨g', _, made⟩ := Option.bind_eq_some_iff.1 found
        cases made
        exact .inr ⟨create, absent, left_, rfl⟩
    · cases found
      exact .inl rfl
  · cases found
    exact .inl rfl

theorem slots_step {call : SlotCall} (slots : Slots s.neighbor)
    (taken : slotStep s call = some s') : Slots s'.neighbor := by
  cases call with
  | neighborGet ref createIfAbsent =>
      obtain ⟨⟨t, ret⟩, got, rfl⟩ := Option.map_eq_some_iff.1 taken
      have inside := slots.inside
      rcases neighborGet_places got with same | ⟨-, absent, left_, is⟩
      · rw [same]
        exact slots
      · rw [is]
        refine ⟨slots.tidy.append inside slots.small absent rfl rfl, ?_, slots.small⟩
        show s.neighbor.baseNeighborUsed + 1 < s.neighbor.baseNeighborSize
        omega
  | neighborDelete ref =>
      cases taken
      have same : (zbNwkNeighborDelete ref s.neighbor).1.baseNeighborSize =
            s.neighbor.baseNeighborSize ∧
          (zbNwkNeighborDelete ref s.neighbor).1.baseNeighborUsed =
            s.neighbor.baseNeighborUsed := by
        rw [zbNwkNeighborDelete]
        dsimp only
        split <;> exact ⟨rfl, rfl⟩
      constructor
      case tidy =>
        rw [same.1]
        exact slots.tidy.delete
      case inside =>
        rw [same.1, same.2]
        exact slots.inside
      case small =>
        rw [same.1]
        exact slots.small
  | address addr =>
      cases taken
      exact slots

/-- **A creation finds its place iff one is left.** -/
theorem enters_iff (slots : Slots s.neighbor) (absent : s.neighbor.addrToNeighbor ref = 255) :
    Enters ref s ↔ s.neighbor.baseNeighborUsed + 1 < s.neighbor.baseNeighborSize ∧
      ((s.addr.addrMap ref).lockCnt + 1) % 16 ≠ 0 := by
  have few := entriesInUse_le slots
  have inside := slots.inside
  by_cases last : s.neighbor.baseNeighborUsed + 1 = s.neighbor.baseNeighborSize
  · -- the counter stands at the last place
    have got : s.neighborGet ref true = some (s, .error .noMemory) := by
      simp [NwkContext.neighborGet, zbNwkNeighborGet, absent, last]
    rw [Enters, got]
    dsimp only
    constructor
    · intro full
      omega
    · rintro ⟨before, -⟩
      omega
  · cases lock : zbAddressLock ref s.addr with
    | none =>
        have got : s.neighborGet ref true = none := by
          simp [NwkContext.neighborGet, zbNwkNeighborGet, absent, last, lock]
        rw [Enters, got]
        dsimp only
        constructor
        · intro full
          omega
        · rintro ⟨-, below⟩
          exact absurd (lock_eq_none.1 lock) below
    | some g =>
        have got : s.neighborGet ref true = some
            ({ s with
                addr := g
                neighbor := appendNeighbor ref (newNeighbor ref s.depth) s.neighbor },
              .ok s.neighbor.baseNeighborUsed) := by
          simp [NwkContext.neighborGet, zbNwkNeighborGet, absent, last, lock, appendNeighbor]
        rw [Enters, got]
        dsimp only
        constructor
        · intro _
          refine ⟨by omega, ?_⟩
          intro wraps
          rw [lock_eq_none.2 wraps] at lock
          cases lock
        · intro _
          constructor
          case inside => exact inside
          case free =>
            rw [Bool.eq_false_iff]
            intro on
            exact absurd (slots.tidy.below _ inside on) (Nat.lt_irrefl _)
          case made => simp [appendNeighbor, newNeighbor]
          case others =>
            intro i other
            exact Function.update_of_ne other _ _

end Calls

/-! ## The run -/

/-- **The places are used again** along a run iff every creation finds the counter before the last
place and the lock of its address below the overflow. -/
theorem entersAlong_iff (addr : ZbAddrGlobals) (depth : UInt8) (networkAddress : UInt16)
    (calls : List SlotCall) :
    Along slotStep SlotFound ⟨addr, ZbNeighborTbl.init, depth, networkAddress⟩ calls ↔
      Along slotStep PlaceLeft ⟨addr, ZbNeighborTbl.init, depth, networkAddress⟩ calls := by
  have keeps : ∀ (s : NwkContext) call t, Slots s.neighbor → SlotFound s call →
      slotStep s call = some t → Slots t.neighbor :=
    fun s call t slots _ taken => slots_step slots taken
  apply along_congr keeps
  · intro s call slots
    cases call with
    | neighborGet ref createIfAbsent =>
        constructor
        · intro enters create absent
          exact (enters_iff slots absent).1 (enters create absent)
        · intro left_ create absent
          exact (enters_iff slots absent).2 (left_ create absent)
    | neighborDelete ref => exact Iff.rfl
    | address addr => exact Iff.rfl
  · exact slots_init

/-! ## Poles -/

/-- Devices come and go, one at a time. -/
def comeAndGo (n : Nat) : List SlotCall :=
  (List.range n).flatMap fun ref => [.neighborGet ref true, .neighborDelete ref]

/-- **The places are spent**: after 31 devices nobody is there, and there is no place for one more. -/
theorem places_spent :
    ¬ ∀ depth networkAddress calls,
      Along slotStep SlotFound (.init depth networkAddress) calls := by
  intro all
  have spent : ((run slotStep (.init 0 0) (comeAndGo 31)).any fun s =>
      decide (s.neighbor.addrToNeighbor 31 = 255 ∧
        s.neighbor.baseNeighborUsed = 31 ∧ s.neighbor.baseNeighborSize = 32)) = true := by
    decide +kernel
  obtain ⟨s, ran, is⟩ := (Option.any_eq_true _ _).1 spent
  obtain ⟨absent, used, size⟩ := of_decide_eq_true is
  have slots : Slots s.neighbor := run_invariant_of_step
    (fun _ _ _ slots taken => slots_step slots taken) slots_init ran
  have enters := (along_append.1 (all 0 0 (comeAndGo 31 ++ [.neighborGet 31 true]))).2 s ran
  have left_ := (enters_iff slots absent).1 (enters.1 rfl absent)
  omega

end Zboss.Nwk.NeighborSlots
