/-
# Nwk.TreeDelivery -- what the tree routing delivers

A tree of devices is numbered by the distributed assignment rule: a router owns a block of
addresses, its child routers own blocks in it, its end devices come behind these.  A router that
has a destination in its block sends it to the neighbour of that address, or looks for the block
of a child router around it; but the blocks it looks at are those of the coordinator's children,
moved by nothing.

* `tree_delivers`: in every network with the tables in order, the coordinator and every other
  router deliver to all of the tree in at most twice the depth, where the blocks looked at by a
  router are those of its own children (`BlocksLineUp`); where the tables hold nobody but parent
  and children, only there;
* `grandchild_unreached`: a router that is not the coordinator finds no route to a grandchild.
-/
import Mathlib
import Zboss.Common.AddressIndex
import Zboss.Nwk.Cskip

namespace Zboss.Nwk.TreeDelivery

open Zboss.Theory.BlockTree
open Zboss.Common.Types
open Zboss.Common.Address
open Zboss.Common.AddressIndex
open Zboss.Nwk.Neighbor
open Zboss.Nwk.TreeRouting
open Zboss.Nwk.Cskip

set_option autoImplicit false

/-! ## The tree and its addresses -/

/-- The parameters of a network. -/
structure TreeParams where
  maxDepth : UInt8
  maxChildren : UInt8
  maxRouters : UInt8

/-- The block of a router so many levels above the deepest. -/
def TreeParams.block (P : TreeParams) : Nat → Nat := span P.maxChildren.toNat P.maxRouters.toNat

/-- The routers that a router can have for children, and the end devices beside them. -/
def TreeParams.routers (P : TreeParams) : Nat := min P.maxRouters.toNat P.maxChildren.toNat

def TreeParams.ends (P : TreeParams) : Nat := P.maxChildren.toNat - P.maxRouters.toNat

/-- The address space fits 16 bits. -/
def TreeParams.Fits (P : TreeParams) : Prop := P.block P.maxDepth.toNat ≤ 65536

/-- The path from the coordinator, by the number of each router among its parent's, and possibly
the number of an end device. -/
def TreeParams.number (P : TreeParams) (path : List Nat) (ed : Option Nat) : Nat :=
  place P.block P.routers P.maxDepth.toNat path ed

def TreeParams.address (P : TreeParams) (path : List Nat) (ed : Option Nat) : UInt16 :=
  UInt16.ofNat (P.number path ed)

/-- A tree of devices; above each of them is a router. -/
structure AddressTree (P : TreeParams) where
  present : List Nat → Option Nat → Prop
  valid : ∀ path ed, present path ed → Valid P.routers P.ends P.maxDepth.toNat path ed
  root : present [] none
  routerAbove : ∀ path i, present (path ++ [i]) none → present path none
  edAbove : ∀ path n, present path (some n) → present path none

/-- `a` is the address of a child of the router at `path`. -/
def AddressTree.Child {P : TreeParams} (tree : AddressTree P) (path : List Nat) (a : UInt16) :
    Prop :=
  (∃ i, tree.present (path ++ [i]) none ∧ a = P.address (path ++ [i]) none) ∨
    ∃ n, tree.present path (some n) ∧ a = P.address path (some n)

/-- A router in its place: its parameters, its depth and address, and tables that hold its parent
and its children.  What is found under an address has that address. -/
structure RouterAt {P : TreeParams} (tree : AddressTree P) (path : List Nat) (dev : TreeDevice) :
    Prop where
  maxDepth : dev.nib.maxDepth = P.maxDepth
  maxChildren : dev.nib.maxChildren = P.maxChildren
  maxRouters : dev.nib.maxRouters = P.maxRouters
  depth : dev.nib.depth.toNat = path.length
  cskip : dev.nib.cskip = zbNwkDaaCalcCskip dev.nib dev.nib.depth
  macShortAddress : dev.macShortAddress = P.address path none
  named : ∀ a ent, neighborByShort dev a = some ent → hopAddress dev ent = a
  children : ∀ a, tree.Child path a → (neighborByShort dev a).isSome
  parent : ∀ above i, path = above ++ [i] →
    ∃ ent, parentEntry dev = some ent ∧ hopAddress dev ent = P.address above none

/-- Every router of the tree is in its place; nobody else routes. -/
structure Network {P : TreeParams} (tree : AddressTree P) (network : UInt16 → Option TreeDevice) :
    Prop where
  routers : ∀ path, tree.present path none →
    ∃ dev, network (P.address path none) = some dev ∧ RouterAt tree path dev
  only : ∀ a dev, network a = some dev → ∃ path, tree.present path none ∧ a = P.address path none

/-- The tables hold nobody else. -/
def NobodyElse {P : TreeParams} (tree : AddressTree P) (network : UInt16 → Option TreeDevice) :
    Prop :=
  ∀ path dev, tree.present path none → network (P.address path none) = some dev →
    ∀ a, (neighborByShort dev a).isSome →
      tree.Child path a ∨ ∃ above i, path = above ++ [i] ∧ a = P.address above none

/-- **The tree routing delivers**: from every router, to every device. -/
def DeliversAll {P : TreeParams} (tree : AddressTree P) (network : UInt16 → Option TreeDevice) :
    Prop :=
  ∀ start, tree.present start none → ∀ path ed, tree.present path ed →
    Delivers network (P.address path ed) (2 * P.maxDepth.toNat) (P.address start none)

/-- The block of the `i`-th child router of a router is among those looked at. -/
def LinesUp (P : TreeParams) (path : List Nat) (i : Nat) : Prop :=
  let cskip := P.block (P.maxDepth.toNat - path.length - 1)
  cskip ∣ P.number path none ∧ i + P.number path none / cskip < P.maxRouters.toNat

/-- **The condition**: for every router but the coordinator, the block of a child router that has
somebody below it lines up. -/
def BlocksLineUp {P : TreeParams} (tree : AddressTree P) : Prop :=
  ∀ path i below ed, path ≠ [] → tree.present (path ++ i :: below) ed →
    below ≠ [] ∨ ed ≠ none → LinesUp P path i

/-! ## Numbers -/

section Numbers

variable {P : TreeParams} {path below : List Nat} {ed : Option Nat} {i n : Nat}

theorem nested (P : TreeParams) : Nested P.block P.routers P.ends := span_nested _ _

theorem block_mono {h k : Nat} (le : h ≤ k) : P.block h ≤ P.block k := span_mono le

/-- No block of a child of the coordinator ends with the address space. -/
theorem last_block_lt (fits : P.Fits) (deep : 0 < P.maxDepth.toNat) :
    1 + P.routers * P.block (P.maxDepth.toNat - 1) < 65536 := by
  obtain ⟨h, height⟩ : ∃ h, P.maxDepth.toNat = h + 1 := ⟨P.maxDepth.toNat - 1, by omega⟩
  have room := (nested P).fits h
  have maxDepth := P.maxDepth.toNat_lt
  have maxChildren := P.maxChildren.toNat_lt
  rw [TreeParams.Fits, height] at fits
  rw [height, Nat.add_sub_cancel]
  refine Nat.lt_of_le_of_ne (by omega) fun full => ?_
  -- then all children are routers, and their number and the blocks make 65535
  have noEnds : P.ends = 0 := by omega
  have all : P.routers = P.maxChildren.toNat := by
    rw [TreeParams.ends] at noEnds
    rw [TreeParams.routers]
    omega
  rw [all] at full
  have product : P.maxChildren.toNat * P.block h = 65535 := by omega
  obtain ⟨s, block⟩ : ∃ s, P.block h = 1 + P.maxChildren.toNat * s := ⟨_, rfl⟩
  rw [block] at product
  have divided : ∀ c < 256, c ≠ 1 → c * (65535 / c) = 65535 → (65535 / c) % c ≠ 1 % c := by
    decide +kernel
  have some : 0 < P.maxChildren.toNat := by
    rcases Nat.eq_zero_or_pos P.maxChildren.toNat with none_ | some
    · rw [none_] at product
      omega
    · exact some
  have quotient : 65535 / P.maxChildren.toNat = 1 + P.maxChildren.toNat * s :=
    Nat.div_eq_of_eq_mul_right some product.symm
  by_cases one : P.maxChildren.toNat = 1
  · -- one router below another, and the whole depth is not enough
    rw [one, Nat.one_mul] at product
    have grows : P.block (h + 1) = 1 + P.maxChildren.toNat + P.maxRouters.toNat * (P.block h - 1) :=
      span_succ
    have single : P.maxRouters.toNat = 1 := by
      rw [TreeParams.ends] at noEnds
      obtain rfl : s = 65534 := by omega
      rw [block, one] at grows
      omega
    have linear : P.block h = 1 + h := by
      simp [TreeParams.block, span, one, single]
    rw [block, one, Nat.one_mul] at linear
    omega
  · refine divided _ maxChildren one ?_ ?_
    · rw [quotient, product]
    · rw [quotient, Nat.add_mul_mod_self_left]

@[simp] theorem number_root (P : TreeParams) : P.number [] none = 0 := by
  simp [TreeParams.number, place]

/-- A router with somebody below it is not one of the deepest. -/
theorem length_lt_depth (valid : Valid P.routers P.ends P.maxDepth.toNat (path ++ i :: below) ed) :
    path.length < P.maxDepth.toNat := by
  have fits := length_le valid
  rw [List.length_append, List.length_cons] at fits
  omega

/-- The number of a node below the `i`-th child router. -/
theorem number_below (valid : Valid P.routers P.ends P.maxDepth.toNat (path ++ i :: below) ed) :
    P.number (path ++ i :: below) ed = P.number path none +
      (P.block (P.maxDepth.toNat - path.length - 1) * i + 1 +
        place P.block P.routers (P.maxDepth.toNat - path.length - 1) below ed) := by
  have deep := length_lt_depth valid
  have above := (valid_append.1 valid).1
  rw [TreeParams.number, place_append above, TreeParams.number]
  obtain ⟨h, height⟩ : ∃ h, P.maxDepth.toNat - path.length = h + 1 :=
    ⟨P.maxDepth.toNat - path.length - 1, by omega⟩
  rw [height, Nat.add_sub_cancel, place]

/-- Of those below a child router, only the router itself has the first number. -/
theorem place_pos {h : Nat} (valid : Valid P.routers P.ends h below ed)
    (strict : below ≠ [] ∨ ed ≠ none) : 0 < place P.block P.routers h below ed := by
  cases below with
  | nil =>
      cases ed with
      | none => simp at strict
      | some n =>
          cases h with
          | zero => cases valid
          | succ h => exact Nat.succ_pos _
  | cons j below =>
      cases h with
      | zero => cases valid
      | succ h =>
          rw [place]
          omega

/-- The block of a child router ends before the address space does. -/
theorem child_block_lt (fits : P.Fits)
    (valid : Valid P.routers P.ends P.maxDepth.toNat (path ++ i :: below) ed) :
    P.number path none + (P.block (P.maxDepth.toNat - path.length - 1) * i + 1 +
      P.block (P.maxDepth.toNat - path.length - 1)) < 65536 := by
  have deep := length_lt_depth valid
  have last := last_block_lt fits (by omega)
  obtain ⟨above, here⟩ := valid_append.1 valid
  cases path with
  | nil =>
      obtain ⟨h, height⟩ : ∃ h, P.maxDepth.toNat = h + 1 := ⟨P.maxDepth.toNat - 1, by omega⟩
      rw [height] at here last ⊢
      have room := child_block_le (P.block h) here.1
      simp only [TreeParams.number, place, List.length_nil, Nat.sub_zero, Nat.add_sub_cancel,
        Nat.zero_add] at last ⊢
      omega
  | cons j path =>
      obtain ⟨h, height⟩ : ∃ h, P.maxDepth.toNat = h + 1 := ⟨P.maxDepth.toNat - 1, by omega⟩
      rw [height] at valid here above last deep ⊢
      rw [List.length_cons, Nat.add_sub_add_right] at here ⊢
      have deep : path.length < h := by simpa using deep
      obtain ⟨k, rest⟩ : ∃ k, h - path.length = k + 1 := ⟨h - path.length - 1, by omega⟩
      rw [rest] at here ⊢
      have inside := block_le (nested P) above.2
      have room := child_block_le (P.block k) here.1
      have fitsK := (nested P).fits k
      have roomJ := child_block_le (P.block h) above.1
      simp only [TreeParams.number, place, Nat.add_sub_cancel, height, rest] at last inside ⊢
      omega

theorem number_lt (fits : P.Fits) (valid : Valid P.routers P.ends P.maxDepth.toNat path ed) :
    P.number path ed < 65536 :=
  Nat.lt_of_lt_of_le (place_lt (nested P) valid) fits

theorem toNat_address (fits : P.Fits) (valid : Valid P.routers P.ends P.maxDepth.toNat path ed) :
    (P.address path ed).toNat = P.number path ed :=
  UInt16.toNat_ofNat_of_lt' (number_lt fits valid)

/-- **No two devices share an address.** -/
theorem address_inj {path' : List Nat} {ed' : Option Nat} (fits : P.Fits)
    (valid : Valid P.routers P.ends P.maxDepth.toNat path ed)
    (valid' : Valid P.routers P.ends P.maxDepth.toNat path' ed')
    (same : P.address path ed = P.address path' ed') : path = path' ∧ ed = ed' := by
  have numbers : P.number path ed = P.number path' ed' := by
    rw [← toNat_address fits valid, ← toNat_address fits valid', same]
  exact place_inj (nested P) valid valid' numbers

end Numbers

/-! ## The loop over the blocks -/

section Scan

variable {dev : TreeDevice} {destAddress : UInt16} {ent : ZbNeighborTblEnt} {k : Nat}

theorem scan_cons (cnt i : Nat) :
    findRouterScan dev destAddress (cnt + 1) i =
      if UInt16.ofNat (dev.nib.cskip.toNat * i + 1) < destAddress ∧
          destAddress < UInt16.ofNat (dev.nib.cskip.toNat * i + 1) + dev.nib.cskip then
        neighborByShort dev (UInt16.ofNat (dev.nib.cskip.toNat * i + 1))
      else findRouterScan dev destAddress cnt (i + 1) := rfl

/-- The bounds of a block that does not go around. -/
theorem block_bounds {s : UInt16} {i : Nat} (room : s.toNat * i + 1 + s.toNat < 65536) :
    (UInt16.ofNat (s.toNat * i + 1)).toNat = s.toNat * i + 1 ∧
      (UInt16.ofNat (s.toNat * i + 1) + s).toNat = s.toNat * i + 1 + s.toNat := by
  have lower : (UInt16.ofNat (s.toNat * i + 1)).toNat = s.toNat * i + 1 :=
    UInt16.toNat_ofNat_of_lt' (Nat.lt_of_le_of_lt (Nat.le_add_right _ _) room)
  refine ⟨lower, ?_⟩
  rw [UInt16.toNat_add, lower]
  exact Nat.mod_eq_of_lt room

/-- The router of a block that the destination is in is looked for; the blocks before end before
it. -/
theorem scan_hit (low : dev.nib.cskip.toNat * k + 1 < destAddress.toNat)
    (high : destAddress.toNat < dev.nib.cskip.toNat * k + 1 + dev.nib.cskip.toNat)
    (room : dev.nib.cskip.toNat * k + 1 + dev.nib.cskip.toNat < 65536) (cnt i : Nat) (le : i ≤ k)
    (lt : k < i + cnt) :
    findRouterScan dev destAddress cnt i =
      neighborByShort dev (UInt16.ofNat (dev.nib.cskip.toNat * k + 1)) := by
  induction cnt generalizing i with
  | zero => omega
  | succ cnt ih =>
      rw [scan_cons]
      rcases Nat.lt_or_eq_of_le le with before | rfl
      · have apart := blocks_apart (s := dev.nib.cskip.toNat) before
        have upper := (block_bounds (s := dev.nib.cskip) (i := i) (by omega)).2
        rw [if_neg, ih (i + 1) before (by omega)]
        rintro ⟨-, inside⟩
        rw [UInt16.lt_iff_toNat_lt, upper] at inside
        omega
      · obtain ⟨lower, upper⟩ := block_bounds room
        rw [if_pos]
        rw [UInt16.lt_iff_toNat_lt, UInt16.lt_iff_toNat_lt, upper, lower]
        exact ⟨low, high⟩

/-- Only routers of the blocks are found. -/
theorem scan_found (cnt i : Nat) (found : findRouterScan dev destAddress cnt i = some ent) :
    ∃ k < i + cnt, neighborByShort dev (UInt16.ofNat (dev.nib.cskip.toNat * k + 1)) = some ent := by
  induction cnt generalizing i with
  | zero => cases found
  | succ cnt ih =>
      rw [scan_cons] at found
      split at found
      · exact ⟨i, by omega, found⟩
      · obtain ⟨k, inside, there⟩ := ih (i + 1) found
        exact ⟨k, by omega, there⟩

end Scan

/-! ## One router -/

section Router

variable {P : TreeParams} {tree : AddressTree P} {path q : List Nat} {ed : Option Nat}
  {dev : TreeDevice} {ent : ZbNeighborTblEnt} {i : Nat}

theorem RouterAt.blockAt_depth (at_ : RouterAt tree path dev) :
    blockAt dev.nib dev.nib.depth = P.block (P.maxDepth.toNat - path.length) := by
  rw [blockAt, at_.maxChildren, at_.maxRouters, at_.maxDepth, at_.depth]
  rfl

theorem RouterAt.blockAt_le (at_ : RouterAt tree path dev) (fits : P.Fits) (depth : UInt8) :
    blockAt dev.nib depth ≤ 65536 := by
  rw [blockAt, at_.maxChildren, at_.maxRouters, at_.maxDepth]
  exact (block_mono (Nat.sub_le _ _)).trans fits

theorem RouterAt.cskip_toNat (at_ : RouterAt tree path dev) (fits : P.Fits)
    (deep : path.length < P.maxDepth.toNat) :
    dev.nib.cskip.toNat = P.block (P.maxDepth.toNat - path.length - 1) := by
  have below : dev.nib.depth < dev.nib.maxDepth := by
    rw [UInt8.lt_iff_toNat_lt, at_.depth, at_.maxDepth]
    exact deep
  rw [at_.cskip, zbNwkDaaCalcCskip_spec below (at_.blockAt_le fits _), at_.maxChildren,
    at_.maxRouters, at_.maxDepth, at_.depth]
  rfl

theorem RouterAt.macShortAddress_toNat (at_ : RouterAt tree path dev) (fits : P.Fits)
    (here : tree.present path none) : dev.macShortAddress.toNat = P.number path none := by
  rw [at_.macShortAddress, toNat_address fits (tree.valid _ _ here)]

/-- What the parent's Cskip is read for. -/
theorem RouterAt.cskipParent_toNat (at_ : RouterAt tree path dev) (fits : P.Fits)
    (here : tree.present path none) (notRoot : path ≠ []) :
    (if dev.nib.depth ≠ 0 then zbNwkDaaCalcCskip dev.nib (dev.nib.depth - 1) else 0).toNat =
      P.block (P.maxDepth.toNat - path.length) := by
  have long : 0 < path.length := List.length_pos_iff.2 notRoot
  have short : path.length ≤ P.maxDepth.toNat := length_le (tree.valid _ _ here)
  have depth : dev.nib.depth ≠ 0 := by
    intro zero
    have := at_.depth
    rw [zero, UInt8.toNat_zero] at this
    omega
  have one : (1 : UInt8) ≤ dev.nib.depth := by
    rw [UInt8.le_iff_toNat_le, at_.depth]
    exact long
  have below : dev.nib.depth - 1 < dev.nib.maxDepth := by
    rw [UInt8.lt_iff_toNat_lt, UInt8.toNat_sub_of_le _ _ one, at_.depth, at_.maxDepth]
    exact Nat.lt_of_lt_of_le (Nat.sub_lt long Nat.one_pos) short
  rw [if_pos depth, blockAt_of_parent below depth (at_.blockAt_le fits _), at_.blockAt_depth]

/-- **Down**: a destination below is looked for among neighbours and blocks. -/
theorem RouterAt.route_inside (at_ : RouterAt tree path dev) (fits : P.Fits)
    (here : tree.present path none) (dest : tree.present q ed) (inside : path <+: q)
    (other : ¬ (path = q ∧ none = ed)) :
    zbNwkTreeRoutingRoute dev (P.address q ed) =
      zbNwkTreeRoutingFindRouter dev (P.address q ed) := by
  have validP := tree.valid _ _ here
  have validQ := tree.valid _ _ dest
  rw [zbNwkTreeRoutingRoute, if_pos]
  by_cases root : path = []
  · left
    subst root
    rw [at_.macShortAddress, TreeParams.address, number_root]
    rfl
  · right
    rw [UInt16.lt_iff_toNat_lt, at_.cskipParent_toNat fits here root,
      at_.macShortAddress_toNat fits here, toNat_address fits validQ]
    obtain ⟨le, lt⟩ := (inBlock_iff (nested P) validP validQ).2 inside
    have ne : P.number path none ≠ P.number q ed := fun same =>
      other (place_inj (nested P) validP validQ same)
    exact ⟨Nat.lt_of_le_of_ne le ne, lt⟩

/-- **Up**: any other destination goes to the parent. -/
theorem RouterAt.route_outside (at_ : RouterAt tree path dev) (fits : P.Fits)
    (here : tree.present path none) (dest : tree.present q ed) (outside : ¬ path <+: q) :
    zbNwkTreeRoutingRoute dev (P.address q ed) = parentEntry dev := by
  have validP := tree.valid _ _ here
  have validQ := tree.valid _ _ dest
  have notRoot : path ≠ [] := by
    rintro rfl
    exact outside List.nil_prefix
  rw [zbNwkTreeRoutingRoute, if_neg]
  rintro (zero | ⟨low, high⟩)
  · -- only the coordinator has the address 0
    have number : P.number path none = 0 := by
      rw [← at_.macShortAddress_toNat fits here, zero]
      rfl
    have same : P.number path none = P.number [] none := number.trans (number_root P).symm
    exact notRoot (place_inj (nested P) validP (tree.valid _ _ tree.root) same).1
  · rw [UInt16.lt_iff_toNat_lt] at low
    rw [at_.cskipParent_toNat fits here notRoot] at high
    rw [at_.macShortAddress_toNat fits here, toNat_address fits validQ] at low high
    exact outside ((inBlock_iff (nested P) validP validQ).1 ⟨low.le, high⟩)

/-- A neighbour is found by its address. -/
theorem RouterAt.find_neighbor (at_ : RouterAt tree path dev) {a : UInt16}
    (known : (neighborByShort dev a).isSome) :
    ∃ ent, zbNwkTreeRoutingFindRouter dev a = some ent ∧ hopAddress dev ent = a := by
  obtain ⟨ent, found⟩ := Option.isSome_iff_exists.1 known
  refine ⟨ent, ?_, at_.named a ent found⟩
  rw [zbNwkTreeRoutingFindRouter, found]

/-- The block of a child router is found where it lines up. -/
theorem RouterAt.find_block (at_ : RouterAt tree path dev) (fits : P.Fits)
    (here : tree.present path none) (child : tree.present (path ++ [i]) none)
    (dest : tree.present (path ++ i :: q) ed) (strict : q ≠ [] ∨ ed ≠ none)
    (unknown : neighborByShort dev (P.address (path ++ i :: q) ed) = none)
    (lined : path = [] ∨ LinesUp P path i) :
    ∃ ent, zbNwkTreeRoutingFindRouter dev (P.address (path ++ i :: q) ed) = some ent ∧
      hopAddress dev ent = P.address (path ++ [i]) none := by
  have valid := tree.valid _ _ dest
  have deep := length_lt_depth valid
  have cskip := at_.cskip_toNat fits deep
  have room := child_block_lt fits valid
  have number := number_below valid
  have childNumber := number_below (tree.valid _ _ child)
  have below := (valid_append.1 valid).2
  obtain ⟨h, height⟩ : ∃ h, P.maxDepth.toNat - path.length = h + 1 :=
    ⟨P.maxDepth.toNat - path.length - 1, by omega⟩
  rw [height] at below
  rw [height, Nat.add_sub_cancel] at cskip room number childNumber
  have low := place_pos below.2 strict
  have high := place_lt (nested P) below.2
  have first : place P.block P.routers h [] none = 0 := by simp [place]
  rw [first, Nat.add_zero] at childNumber
  have isRouter : i < P.maxRouters.toNat :=
    Nat.lt_of_lt_of_le below.1 (Nat.min_le_left _ _)
  -- the block looked at that is the child's
  obtain ⟨k, among, is⟩ : ∃ k < P.maxRouters.toNat,
      P.block h * k = P.number path none + P.block h * i := by
    rcases lined with rfl | lined
    · exact ⟨i, isRouter, by rw [number_root, Nat.zero_add]⟩
    · rw [LinesUp, height, Nat.add_sub_cancel] at lined
      refine ⟨i + P.number path none / P.block h, lined.2, ?_⟩
      rw [Nat.mul_add, Nat.mul_div_cancel' lined.1, Nat.add_comm]
  have destNumber := toNat_address fits valid
  have hit := @scan_hit dev (P.address (path ++ i :: q) ed) k
    (by rw [cskip, is, destNumber]; omega) (by rw [cskip, is, destNumber]; omega)
    (by rw [cskip, is]; omega) dev.nib.maxRouters.toNat 0 (Nat.zero_le _)
    (by rw [at_.maxRouters]; omega)
  have childAddress : UInt16.ofNat (dev.nib.cskip.toNat * k + 1) = P.address (path ++ [i]) none := by
    rw [TreeParams.address, childNumber, cskip, is, Nat.add_assoc]
  rw [childAddress] at hit
  obtain ⟨ent, found⟩ := Option.isSome_iff_exists.1 (at_.children _ (.inl ⟨i, child, rfl⟩))
  refine ⟨ent, ?_, at_.named _ ent found⟩
  rw [zbNwkTreeRoutingFindRouter, unknown, hit, found]

end Router

/-! ## Delivery -/

section Delivery

variable {P : TreeParams} {tree : AddressTree P} {network : UInt16 → Option TreeDevice}
  {destAddress a : UInt16}

theorem delivers_self (n : Nat) : Delivers network destAddress n destAddress := by
  cases n with
  | zero => rfl
  | succ n => exact .inl rfl

/-- More hops are no worse. -/
theorem delivers_mono {n m : Nat} (delivers : Delivers network destAddress n a) (le : n ≤ m) :
    Delivers network destAddress m a := by
  induction n generalizing m a with
  | zero =>
      obtain rfl : a = destAddress := delivers
      exact delivers_self m
  | succ n ih =>
      obtain ⟨m, rfl⟩ : ∃ m', m = m' + 1 := ⟨m - 1, by omega⟩
      rcases delivers with arrived | ⟨dev, ent, at_, hop, on⟩
      · exact .inl arrived
      · exact .inr ⟨dev, ent, at_, hop, ih on (by omega)⟩

/-- Above a device there are routers. -/
theorem present_above {path below : List Nat} {ed : Option Nat}
    (dest : tree.present (path ++ below) ed) : tree.present path none := by
  have router : tree.present (path ++ below) none := by
    cases ed with
    | none => exact dest
    | some n => exact tree.edAbove _ _ dest
  clear dest
  induction below using List.reverseRecOn with
  | nil => rwa [List.append_nil] at router
  | append_singleton below i ih =>
      rw [← List.append_assoc] at router
      exact ih (tree.routerAbove _ _ router)

/-- The hops of an end device's own. -/
def lastHop (ed : Option Nat) : Nat := if ed.isSome then 1 else 0

/-- **Down the tree**, a hop for each level. -/
theorem delivers_down (fits : P.Fits) (net : Network tree network) (lined : BlocksLineUp tree)
    {ed : Option Nat} (below path : List Nat) (dest : tree.present (path ++ below) ed) :
    Delivers network (P.address (path ++ below) ed) (below.length + lastHop ed)
      (P.address path none) := by
  induction below generalizing path with
  | nil =>
      cases ed with
      | none =>
          rw [List.append_nil]
          exact delivers_self _
      | some n =>
          rw [List.append_nil] at dest ⊢
          have here := tree.edAbove _ _ dest
          obtain ⟨dev, is, at_⟩ := net.routers path here
          obtain ⟨ent, found, hop⟩ := at_.find_neighbor (at_.children _ (.inr ⟨n, dest, rfl⟩))
          refine .inr ⟨dev, ent, is, ?_, hop ▸ delivers_self _⟩
          rw [at_.route_inside fits here dest List.prefix_rfl (by simp), found]
  | cons i below ih =>
      have here := present_above dest
      have assoc : path ++ i :: below = path ++ [i] ++ below := by simp
      have child : tree.present (path ++ [i]) none := present_above (assoc ▸ dest)
      obtain ⟨dev, is, at_⟩ := net.routers path here
      have down := at_.route_inside fits here dest (List.prefix_append _ _) (by simp)
      rw [List.length_cons, Nat.add_right_comm]
      cases known : neighborByShort dev (P.address (path ++ i :: below) ed) with
      | some ent =>
          have known : (neighborByShort dev (P.address (path ++ i :: below) ed)).isSome := by
            rw [known]
            rfl
          obtain ⟨ent, found, hop⟩ := at_.find_neighbor known
          exact .inr ⟨dev, ent, is, down.trans found, hop ▸ delivers_self _⟩
      | none =>
          have strict : below ≠ [] ∨ ed ≠ none := by
            by_contra last
            rw [not_or, not_not, not_not] at last
            obtain ⟨rfl, rfl⟩ := last
            have there := at_.children _ (.inl ⟨i, child, rfl⟩)
            rw [known] at there
            cases there
          have blocks : path = [] ∨ LinesUp P path i := by
            by_cases root : path = []
            · exact .inl root
            · exact .inr (lined path i below ed root dest strict)
          obtain ⟨ent, found, hop⟩ := at_.find_block fits here child dest strict known blocks
          refine .inr ⟨dev, ent, is, down.trans found, ?_⟩
          rw [hop]
          have on := ih (path ++ [i]) (assoc ▸ dest)
          rwa [← assoc] at on

/-- **Up the tree**, until the destination is below. -/
theorem delivers_up (fits : P.Fits) (net : Network tree network) (lined : BlocksLineUp tree)
    {q : List Nat} {ed : Option Nat} (dest : tree.present q ed) (path : List Nat)
    (here : tree.present path none) :
    Delivers network (P.address q ed) (path.length + (q.length + lastHop ed))
      (P.address path none) := by
  induction path using List.reverseRecOn with
  | nil => exact delivers_mono (delivers_down fits net lined q [] dest) (Nat.le_add_left _ _)
  | append_singleton above i ih =>
      by_cases inside : above ++ [i] <+: q
      · obtain ⟨below, rfl⟩ := inside
        refine delivers_mono (delivers_down fits net lined below _ dest) ?_
        have longer : (above ++ [i] ++ below).length = (above ++ [i]).length + below.length :=
          List.length_append
        omega
      · obtain ⟨dev, is, at_⟩ := net.routers _ here
        obtain ⟨ent, entry, hop⟩ := at_.parent above i rfl
        rw [List.length_append, List.length_singleton, Nat.add_right_comm]
        refine .inr ⟨dev, ent, is, ?_, ?_⟩
        · rw [at_.route_outside fits here dest inside, entry]
        · rw [hop]
          exact ih (tree.routerAbove _ _ here)

/-- A device is at most as deep as the tree. -/
theorem depth_le {q : List Nat} {ed : Option Nat} (dest : tree.present q ed) :
    q.length + lastHop ed ≤ P.maxDepth.toNat := by
  have valid := tree.valid _ _ dest
  cases ed with
  | none => exact length_le valid
  | some n => exact length_lt valid

theorem delivers_of_lined (fits : P.Fits) (net : Network tree network)
    (lined : BlocksLineUp tree) : DeliversAll tree network := by
  intro start here q ed dest
  refine delivers_mono (delivers_up fits net lined dest start here) ?_
  have far := depth_le dest
  have deep : start.length ≤ P.maxDepth.toNat := length_le (tree.valid _ _ here)
  omega

/-- Away from the destination, the next hop is the parent or a neighbour. -/
theorem RouterAt.hop_cases {path q : List Nat} {ed : Option Nat} {dev : TreeDevice}
    {ent : ZbNeighborTblEnt} (at_ : RouterAt tree path dev) (fits : P.Fits)
    (here : tree.present path none) (dest : tree.present q ed) (other : ¬ (path = q ∧ none = ed))
    (routed : zbNwkTreeRoutingRoute dev (P.address q ed) = some ent) :
    (∃ above i, path = above ++ [i] ∧ hopAddress dev ent = P.address above none) ∨
      (neighborByShort dev (hopAddress dev ent)).isSome := by
  have neighbor {x : UInt16} (known : neighborByShort dev x = some ent) :
      (neighborByShort dev (hopAddress dev ent)).isSome := by
    rw [at_.named x ent known, known]
    rfl
  by_cases inside : path <+: q
  · right
    rw [at_.route_inside fits here dest inside other, zbNwkTreeRoutingFindRouter] at routed
    split at routed
    · rename_i ent' known
      cases routed
      exact neighbor known
    · obtain ⟨k, -, known⟩ := scan_found _ _ routed
      exact neighbor known
  · left
    rw [at_.route_outside fits here dest inside] at routed
    have notRoot : path ≠ [] := by
      rintro rfl
      exact inside List.nil_prefix
    obtain ⟨above, i, rfl⟩ : ∃ above i, path = above ++ [i] :=
      ⟨_, _, (List.dropLast_append_getLast notRoot).symm⟩
    obtain ⟨ent', entry, hop⟩ := at_.parent above i rfl
    rw [entry] at routed
    cases routed
    exact ⟨above, i, rfl, hop⟩

/-- What comes to an end device stays there. -/
theorem stays_at_ed (fits : P.Fits) (net : Network tree network) {path : List Nat} {m n : Nat}
    (here : tree.present path (some m))
    (delivers : Delivers network destAddress n (P.address path (some m))) :
    P.address path (some m) = destAddress := by
  cases n with
  | zero => exact delivers
  | succ n =>
      rcases delivers with arrived | ⟨dev, ent, is, -, -⟩
      · exact arrived
      · obtain ⟨other, router, same⟩ := net.only _ _ is
        cases (address_inj fits (tree.valid _ _ here) (tree.valid _ _ router) same).2

section Astray

variable {path below : List Nat} {ed : Option Nat} {i : Nat}

/-- A destination below a child is no neighbour. -/
theorem unknown_below (fits : P.Fits) (else_ : NobodyElse tree network) {dev : TreeDevice}
    (is : network (P.address path none) = some dev) (here : tree.present path none)
    (dest : tree.present (path ++ i :: below) ed) (strict : below ≠ [] ∨ ed ≠ none) :
    neighborByShort dev (P.address (path ++ i :: below) ed) = none := by
  by_contra known
  have validDest := tree.valid _ _ dest
  rcases else_ path dev here is _ (Option.isSome_iff_ne_none.2 known) with
    (⟨j, child, same⟩ | ⟨m, child, same⟩) | ⟨above, j, rfl, same⟩
  · obtain ⟨paths, eds⟩ := address_inj fits validDest (tree.valid _ _ child) same
    rw [List.append_cancel_left_eq, List.cons.injEq] at paths
    exact strict.elim (fun more => more paths.2) fun more => more eds
  · obtain ⟨paths, -⟩ := address_inj fits validDest (tree.valid _ _ child) same
    simp at paths
  · obtain ⟨paths, -⟩ := address_inj fits validDest
      (tree.valid _ _ (tree.routerAbove _ _ here)) same
    simp at paths

/-- A router that hands a destination on to the right child has lined up. -/
theorem lined_of_hop (fits : P.Fits) (net : Network tree network)
    (else_ : NobodyElse tree network) (fewer : P.maxRouters ≤ P.maxChildren) {dev : TreeDevice}
    {ent : ZbNeighborTblEnt} (is : network (P.address path none) = some dev)
    (dest : tree.present (path ++ i :: below) ed) (strict : below ≠ [] ∨ ed ≠ none)
    (routed : zbNwkTreeRoutingRoute dev (P.address (path ++ i :: below) ed) = some ent)
    (hop : hopAddress dev ent = P.address (path ++ [i]) none) : LinesUp P path i := by
  have here := present_above dest
  have assoc : path ++ i :: below = path ++ [i] ++ below := by simp
  have child : tree.present (path ++ [i]) none := present_above (assoc ▸ dest)
  obtain ⟨dev', is', at_⟩ := net.routers path here
  obtain rfl : dev' = dev := Option.some.inj (is'.symm.trans is)
  rw [at_.route_inside fits here dest (List.prefix_append _ _) (by simp),
    zbNwkTreeRoutingFindRouter, unknown_below fits else_ is here dest strict] at routed
  obtain ⟨k, among, known⟩ := scan_found _ _ routed
  have deep := length_lt_depth (tree.valid _ _ dest)
  have cskip := at_.cskip_toNat fits deep
  have same := (at_.named _ _ known).symm.trans hop
  obtain ⟨h, height⟩ : ∃ h, P.maxDepth.toNat - path.length = h + 1 :=
    ⟨P.maxDepth.toNat - path.length - 1, by omega⟩
  have childNumber := number_below (tree.valid _ _ child)
  rw [LinesUp, height, Nat.add_sub_cancel]
  rw [height, Nat.add_sub_cancel] at cskip childNumber
  have first : place P.block P.routers h [] none = 0 := by simp [place]
  rw [first, Nat.add_zero] at childNumber
  rw [at_.maxRouters, Nat.zero_add] at among
  -- the block looked at does not go around
  have all : P.routers = P.maxRouters.toNat := Nat.min_eq_left (UInt8.le_iff_toNat_le.1 fewer)
  have room := child_block_le (P.block h) (all ▸ among : k < P.routers)
  have inside := (nested P).fits h
  have some := (nested P).pos h
  have levels : P.block (h + 1) ≤ 65536 := (block_mono (by omega)).trans fits
  have lower : (UInt16.ofNat (dev'.nib.cskip.toNat * k + 1)).toNat = P.block h * k + 1 := by
    rw [cskip]
    apply UInt16.toNat_ofNat_of_lt'
    have : UInt16.size = 65536 := rfl
    omega
  have numbers : P.block h * k = P.number path none + P.block h * i := by
    have same := congrArg UInt16.toNat same
    rw [lower, toNat_address fits (tree.valid _ _ child), childNumber] at same
    omega
  have multiple : P.number path none = P.block h * (k - i) := by
    rw [Nat.mul_sub]
    omega
  have after : i ≤ k := Nat.le_of_mul_le_mul_left (by omega) some
  refine ⟨Dvd.intro _ multiple.symm, ?_⟩
  rw [multiple, Nat.mul_div_cancel_left _ some]
  omega

/-- **Astray**: nobody outside the block of the child hands a destination in it on to the child,
where that block does not line up. -/
theorem astray (fits : P.Fits) (net : Network tree network) (else_ : NobodyElse tree network)
    (fewer : P.maxRouters ≤ P.maxChildren) (dest : tree.present (path ++ i :: below) ed)
    (strict : below ≠ [] ∨ ed ≠ none) (off : ¬ LinesUp P path i) (n : Nat) (p : List Nat)
    (here : tree.present p none) (outside : ¬ path ++ [i] <+: p) :
    ¬ Delivers network (P.address (path ++ i :: below) ed) n (P.address p none) := by
  have assoc : path ++ i :: below = path ++ [i] ++ below := by simp
  have elsewhere {p : List Nat} {ed' : Option Nat} (here : tree.present p ed')
      (outside : ¬ path ++ [i] <+: p) :
      P.address p ed' ≠ P.address (path ++ i :: below) ed := by
    intro same
    have paths := (address_inj fits (tree.valid _ _ here) (tree.valid _ _ dest) same).1
    exact outside (paths ▸ assoc ▸ List.prefix_append _ _)
  induction n generalizing p with
  | zero => exact elsewhere here outside
  | succ n ih =>
      rintro (arrived | ⟨dev, ent, is, routed, on⟩)
      · exact elsewhere here outside arrived
      obtain ⟨dev', is', at_⟩ := net.routers p here
      obtain rfl : dev' = dev := Option.some.inj (is'.symm.trans is)
      have up {above : List Nat} {j : Nat} (parent : p = above ++ [j])
          (hop : hopAddress dev' ent = P.address above none) : False := by
        subst parent
        rw [hop] at on
        exact ih above (tree.routerAbove _ _ here)
          (fun inside => outside (inside.trans (List.prefix_append _ _))) on
      have other : ¬ (p = path ++ i :: below ∧ none = ed) := by
        rintro ⟨rfl, -⟩
        exact outside (assoc ▸ List.prefix_append _ _)
      rcases at_.hop_cases fits here dest other routed with ⟨above, j, parent, hop⟩ | known
      · exact up parent hop
      rcases else_ p dev' here is _ known with
        (⟨j, child, hop⟩ | ⟨m, child, hop⟩) | ⟨above, j, parent, hop⟩
      · by_cases inside : path ++ [i] <+: p ++ [j]
        · rcases List.prefix_concat_iff.1 inside with same | inside
          · obtain ⟨rfl, last⟩ := List.append_inj' same rfl
            obtain rfl : i = j := List.singleton_inj.1 last
            exact off (lined_of_hop fits net else_ fewer is dest strict routed hop)
          · exact outside inside
        · rw [hop] at on
          exact ih _ child inside on
      · rw [hop] at on
        exact elsewhere child outside (stays_at_ed fits net child on)
      · exact up parent hop

end Astray

end Delivery

/-- **The tree routing delivers** where the blocks line up; and where the tables hold nobody but
parent and children, only there. -/
theorem tree_delivers {P : TreeParams} (tree : AddressTree P)
    (network : UInt16 → Option TreeDevice) (fits : P.Fits) (net : Network tree network) :
    (BlocksLineUp tree → DeliversAll tree network) ∧
      (NobodyElse tree network → P.maxRouters ≤ P.maxChildren → DeliversAll tree network →
        BlocksLineUp tree) := by
  refine ⟨delivers_of_lined fits net, ?_⟩
  intro else_ fewer delivers path i below ed notRoot dest strict
  by_contra off
  have here := present_above dest
  have outside : ¬ path ++ [i] <+: path := fun inside => by
    have longer := inside.length_le
    rw [List.length_append, List.length_singleton] at longer
    omega
  exact astray fits net else_ fewer dest strict off _ path here outside (delivers path here _ _ dest)

/-! ## Poles -/

/-- Every router has one child, down to a depth. -/
def chainParams (m : Nat) : TreeParams := ⟨UInt8.ofNat m, 1, 1⟩

/-- The entry of a neighbour whose address has the reference. -/
def chainNeighbor (ref : Nat) : ZbNeighborTblEnt where
  addrRef := ref
  permitJoining := 0
  deviceType := 1
  depth := 0
  used := true
  rxOnWhenIdle := true
  relationship := if ref = 0 then .parent else .child
  transmitFailure := 0
  lqi := 255
  incomingFrameCounter := 0
  keySeqNumber := 0

/-- The router at a depth: the parent has the reference 0, the child 1. -/
def chainRouter (m d : Nat) : TreeDevice where
  nib :=
    { maxDepth := UInt8.ofNat m
      maxChildren := 1
      maxRouters := 1
      depth := UInt8.ofNat d
      cskip := zbNwkDaaCalcCskip ⟨UInt8.ofNat m, 1, 1, UInt8.ofNat d, 0⟩ (UInt8.ofNat d) }
  macShortAddress := UInt16.ofNat d
  parent := 0
  addr :=
    { ZbAddrGlobals.init with
      addrMap := fun ref =>
        ⟨.zero, UInt16.ofNat (if ref = 0 then d - 1 else d + 1), true, 0, false⟩
      shortSorted := fun i => if d = 0 then 1 else i
      nElements := 2
      nSortedElements := if d = 0 ∨ d = m then 1 else 2 }
  neighbor :=
    { baseNeighbor := chainNeighbor
      addrToNeighbor := fun ref => if ref < 2 then UInt8.ofNat ref else 255
      baseNeighborSize := 32
      baseNeighborUsed := 2 }

theorem valid_chain {h d : Nat} (le : d ≤ h) : Valid 1 0 h (List.replicate d 0) none := by
  induction d generalizing h with
  | zero => cases h <;> trivial
  | succ d ih =>
      cases h with
      | zero => omega
      | succ h => exact ⟨Nat.one_pos, ih (by omega)⟩

theorem place_chain (size : Nat → Nat) {h d : Nat} (le : d ≤ h) :
    place size 1 h (List.replicate d 0) none = d := by
  induction d generalizing h with
  | zero => simp [place]
  | succ d ih =>
      cases h with
      | zero => omega
      | succ h =>
          rw [List.replicate_succ, place, ih (by omega)]
          omega

theorem chain_depth {m : Nat} (small : m ≤ 3) : (chainParams m).maxDepth.toNat = m :=
  UInt8.toNat_ofNat_of_lt' (Nat.lt_of_le_of_lt small (by decide))

def chainTree (m : Nat) (small : m ≤ 3) : AddressTree (chainParams m) where
  present path ed := (∃ d ≤ m, path = List.replicate d 0) ∧ ed = none
  valid := by
    rintro _ _ ⟨⟨d, le, rfl⟩, rfl⟩
    rw [chain_depth small]
    exact valid_chain le
  root := ⟨⟨0, Nat.zero_le m, rfl⟩, rfl⟩
  routerAbove path i := by
    rintro ⟨⟨d, le, is⟩, -⟩
    obtain ⟨length, zeros, -⟩ := List.append_eq_replicate_iff.1 is
    exact ⟨⟨path.length, by omega, zeros⟩, rfl⟩
  edAbove path n := by
    rintro ⟨-, none_⟩
    cases none_

def chainNetwork (m : Nat) (a : UInt16) : Option TreeDevice :=
  if a.toNat ≤ m then some (chainRouter m a.toNat) else none

section Chain

variable {m d : Nat}

theorem chain_address (small : m ≤ 3) (le : d ≤ m) :
    (chainParams m).address (List.replicate d 0) none = UInt16.ofNat d := by
  rw [TreeParams.address, TreeParams.number, chain_depth small]
  exact congrArg UInt16.ofNat (place_chain _ le)

theorem chain_child (small : m ≤ 3) {a : UInt16}
    (child : (chainTree m small).Child (List.replicate d 0) a) : d < m ∧ a = UInt16.ofNat (d + 1) := by
  rcases child with ⟨i, ⟨⟨d', le, is⟩, -⟩, rfl⟩ | ⟨n, ⟨-, impossible⟩, -⟩
  · have length := congrArg List.length is
    simp only [List.length_append, List.length_replicate, List.length_singleton] at length
    subst length
    exact ⟨le, is ▸ chain_address small le⟩
  · cases impossible

theorem chain_routerAt (small : m ≤ 3) (le : d ≤ m) :
    RouterAt (chainTree m small) (List.replicate d 0) (chainRouter m d) where
  maxDepth := rfl
  maxChildren := rfl
  maxRouters := rfl
  depth := by
    rw [List.length_replicate]
    exact UInt8.toNat_ofNat_of_lt' (Nat.lt_of_le_of_lt (le.trans small) (by decide))
  cskip := rfl
  macShortAddress := (chain_address small le).symm
  named a ent found := by
    rw [neighborByShort, zbAddressByShort] at found
    cases searched : shortSearch (chainRouter m d).addr a with
    | none => simp [searched, lockIf] at found
    | some ref =>
        have same := (shortSearch_eq_some searched).2
        simp only [searched, lockIf, Option.bind_eq_bind, Option.bind_some] at found
        split at found
        · rename_i there
          cases found
          have inside : ref < 2 := by
            by_contra outside
            exact there (if_neg outside)
          have entry : ((chainRouter m d).neighbor.addrToNeighbor ref).toNat = ref := by
            have small : (if ref < 2 then UInt8.ofNat ref else 255).toNat = ref := by
              rw [if_pos inside]
              exact UInt8.toNat_ofNat_of_lt' (Nat.lt_trans inside (by decide))
            exact small
          rw [entry]
          exact same
        · cases found
  children a child := by
    obtain ⟨lt, rfl⟩ := chain_child small child
    have known : ∀ m ≤ 3, ∀ d < m,
        (neighborByShort (chainRouter m d) (UInt16.ofNat (d + 1))).isSome := by decide
    exact known m small d lt
  parent above i is := by
    obtain ⟨length, zeros, -⟩ := List.append_eq_replicate_iff.1 is.symm
    rw [List.length_singleton] at length
    subst length
    refine ⟨chainNeighbor 0, rfl, ?_⟩
    rw [zeros, chain_address small (by omega), List.length_replicate]
    rfl

theorem chain_network (small : m ≤ 3) : Network (chainTree m small) (chainNetwork m) where
  routers := by
    rintro _ ⟨⟨d, le, rfl⟩, -⟩
    refine ⟨chainRouter m d, ?_, chain_routerAt small le⟩
    have number : (UInt16.ofNat d).toNat = d :=
      UInt16.toNat_ofNat_of_lt' (Nat.lt_of_le_of_lt (le.trans small) (by decide))
    rw [chain_address small le, chainNetwork, number, if_pos le]
  only a dev is := by
    rw [chainNetwork] at is
    split at is
    · rename_i le
      refine ⟨List.replicate a.toNat 0, ⟨⟨_, le, rfl⟩, rfl⟩, ?_⟩
      rw [chain_address small le, UInt16.ofNat_toNat]
    · cases is

theorem chain_fits (small : m ≤ 3) : (chainParams m).Fits := by
  have fits : ∀ m ≤ 3, span 1 1 m ≤ 65536 := by decide
  rw [TreeParams.Fits, chain_depth small]
  exact fits m small

/-- Of two levels, nobody is below a child of the router in the middle. -/
theorem chain_lines_up : BlocksLineUp (chainTree 2 (by decide)) := by
  rintro path i below ed notRoot ⟨⟨d, le, is⟩, rfl⟩ strict
  have length := congrArg List.length is
  rw [List.length_append, List.length_cons, List.length_replicate] at length
  have long : 0 < path.length := List.length_pos_iff.2 notRoot
  have longer : 0 < below.length :=
    List.length_pos_iff.2 (strict.resolve_right fun other => other rfl)
  omega

theorem tree_delivers_twoLevels : DeliversAll (chainTree 2 (by decide)) (chainNetwork 2) :=
  (tree_delivers _ _ (chain_fits (by decide)) (chain_network (by decide))).1 chain_lines_up

end Chain

/-- **A grandchild is not reached** from a router that is not the coordinator: of three levels, the
router at 1 finds no way to 3. -/
theorem grandchild_unreached :
    ¬ ∀ (P : TreeParams) (tree : AddressTree P) (network : UInt16 → Option TreeDevice), P.Fits →
      Network tree network → DeliversAll tree network := by
  intro always
  have delivers := always (chainParams 3) (chainTree 3 (by decide)) (chainNetwork 3)
    (chain_fits (by decide)) (chain_network (by decide)) (List.replicate 1 0)
    ⟨⟨1, by decide, rfl⟩, rfl⟩ (List.replicate 3 0) none ⟨⟨3, by decide, rfl⟩, rfl⟩
  rw [chain_address (by decide) (by decide), chain_address (by decide) (by decide)] at delivers
  rcases delivers with arrived | ⟨dev, ent, is, routed, -⟩
  · exact absurd arrived (by decide)
  · cases is
    have lost : zbNwkTreeRoutingRoute (chainRouter 3 1) (UInt16.ofNat 3) = none := by decide
    exact absurd (lost.symm.trans routed) (by simp)

end Zboss.Nwk.TreeDelivery
