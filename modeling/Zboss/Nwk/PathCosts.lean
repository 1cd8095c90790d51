/-
# Nwk.PathCosts -- the path cost that a router keeps and passes on

A request and a reply carry a cost.  The router adds the cost of a link to it, in one byte, and what
comes out is compared with the entry of the discovery, kept in it and sent on.  The link is looked
up by the source of the NWK header, which need not be the neighbour that was heard.

* `CostKept`: what is kept and sent on is no less than the cost received and that of the link
  crossed, or than the greatest cost there is, and what it replaces neither;
* `costKept_iff`: this is so exactly if the frame is not taken, or the sum does not pass the byte
  and the link that was added is not the cheaper one.

Pole: `huge_cost`, a cost of 250 that replaces one of 20.
-/
import Mathlib
import Zboss.Nwk.MeshLoops
import Zboss.Nwk.RequestCosts

namespace Zboss.Nwk.PathCosts

open Zboss.Theory.Slots
open Zboss.Nwk.MeshRouting
open Zboss.Nwk.MeshLoops
open Zboss.Nwk.RequestCosts

set_option autoImplicit false

/-! ## A frame with a cost -/

inductive CostFrame where
  | rreq (frame : RreqFrame)
  | rrep (frame : RrepFrame)

namespace CostFrame

def received : CostFrame → UInt8
  | .rreq frame => frame.cmd.pathCost
  | .rrep frame => frame.cmd.pathCost

def srcAddr : CostFrame → UInt16
  | .rreq frame => frame.srcAddr
  | .rrep frame => frame.srcAddr

def macSrc : CostFrame → UInt16
  | .rreq frame => frame.macSrc
  | .rrep frame => frame.macSrc

def handle (env : MeshEnv) (buf : UInt8) : CostFrame → MeshNib → MeshNib × List MeshCall
  | .rreq frame, s => zbNwkMeshRreqHandler env buf frame s
  | .rrep frame, s => zbNwkMeshRrepHandler env buf frame s

/-- The cost kept for the discovery of the frame, on the way there or back. -/
def kept : CostFrame → MeshNib → Option UInt8
  | .rreq frame, s =>
      (findDisc frame.cmd.rreqId frame.srcAddr s).map fun i => (s.routeDiscTable i).forwardCost
  | .rrep frame, s =>
      (findDisc frame.cmd.rreqId frame.cmd.originator s).map fun i => (s.routeDiscTable i).residualCost

/-- `path_cost` after the addition. -/
def total (env : MeshEnv) (frame : CostFrame) : UInt8 :=
  nwkCalcPathCost env frame.srcAddr + frame.received

/-- The frame is taken: there is room, and it is not too dear. -/
def takes (env : MeshEnv) : CostFrame → MeshNib → Bool
  | .rreq frame, s =>
      match routeSought frame.cmd.destAddr s with
      | some (_, t) =>
          match discSought frame (total env (.rreq frame)) t with
          | .goOn _ => true
          | .skip => false
          | .full => false
      | none => false
  | .rrep frame, s =>
      match findDisc frame.cmd.rreqId frame.cmd.originator s, findRoute frame.cmd.responder s with
      | some disc, some _ => total env (.rrep frame) ≤ (s.routeDiscTable disc).residualCost
      | _, _ => false

/-- The cost received and that of the link crossed, but no more than a byte holds. -/
def least (env : MeshEnv) (frame : CostFrame) : Nat :=
  min 255 (frame.received.toNat + (nwkCalcPathCost env frame.macSrc).toNat)

end CostFrame

/-- The cost in a frame that is sent. -/
def sentCost : MeshCall → Option UInt8
  | .sendRreq _ cmd _ _ _ => some cmd.pathCost
  | .sendRrep _ cmd _ => some cmd.pathCost
  | _ => none

/-- **Costs do not wrap** at a frame. -/
structure CostKept (env : MeshEnv) (buf : UInt8) (frame : CostFrame) (s : MeshNib) : Prop where
  stored : frame.takes env s = true →
    ∃ cost, frame.kept (frame.handle env buf s).1 = some cost ∧ frame.least env ≤ cost.toNat
  forwarded : ∀ call ∈ (frame.handle env buf s).2, ∀ cost, sentCost call = some cost →
    frame.least env ≤ cost.toNat
  replaced : frame.takes env s = true →
    ∀ cost, frame.kept s = some cost → frame.least env ≤ cost.toNat

/-- **The condition**: the sum fits a byte, and the link to the source of the NWK header costs no
less than the one to the neighbour, or the sum is the greatest cost. -/
def SumFits (env : MeshEnv) (frame : CostFrame) : Prop :=
  frame.received.toNat + (nwkCalcPathCost env frame.srcAddr).toNat ≤ 255 ∧
    ((nwkCalcPathCost env frame.macSrc).toNat ≤ (nwkCalcPathCost env frame.srcAddr).toNat ∨
      frame.received.toNat + (nwkCalcPathCost env frame.srcAddr).toNat = 255)

/-! ## The sum -/

section Sum

variable {env : MeshEnv} {frame : CostFrame}

theorem nwkCalcPathCost_le (env : MeshEnv) (addr : UInt16) : (nwkCalcPathCost env addr).toNat ≤ 7 := by
  rw [nwkCalcPathCost]
  split
  · decide
  · split
    · rename_i lqi _
      rw [linkCost]
      split
      · decide
      · rw [UInt8.toNat_ofNat']
        omega
    · split <;> decide

/-- Below the byte a wrapped sum is far less than what was received. -/
theorem least_le_total : frame.least env ≤ (frame.total env).toNat ↔ SumFits env frame := by
  have added := nwkCalcPathCost_le env frame.srcAddr
  have crossed := nwkCalcPathCost_le env frame.macSrc
  have byte := frame.received.toNat_lt
  rw [CostFrame.least, CostFrame.total, SumFits, UInt8.toNat_add]
  omega

end Sum

/-! ## What is done with a frame -/

section Handled

variable {env : MeshEnv} {frame : CostFrame} {s : MeshNib}

theorem rreq_takes {rreq : RreqFrame} (takes : (CostFrame.rreq rreq).takes env s = true) :
    ∃ i u t, routeSought rreq.cmd.destAddr s = some (i, u) ∧
      discSought rreq ((CostFrame.rreq rreq).total env) u = .goOn t := by
  rw [CostFrame.takes] at takes
  split at takes
  · rename_i i u sought
    split at takes
    · rename_i t goOn
      exact ⟨i, u, t, sought, goOn⟩
    · cases takes
    · cases takes
  · cases takes

theorem rrep_takes {rrep : RrepFrame} (takes : (CostFrame.rrep rrep).takes env s = true) :
    ∃ disc routing, findDisc rrep.cmd.rreqId rrep.cmd.originator s = some disc ∧
      findRoute rrep.cmd.responder s = some routing ∧
        (CostFrame.rrep rrep).total env ≤ (s.routeDiscTable disc).residualCost := by
  rw [CostFrame.takes] at takes
  split at takes
  · rename_i disc routing found route
    exact ⟨disc, routing, found, route, of_decide_eq_true takes⟩
  · cases takes

/-- A frame that is not taken is not sent on. -/
theorem silent_of_dropped (buf : UInt8) (drop : frame.takes env s = false) :
    ∀ call ∈ (frame.handle env buf s).2, sentCost call = none := by
  have failed : ∀ (rreq : RreqFrame) (v : MeshNib), ∀ call ∈ rreqFailed buf rreq v,
      sentCost call = none := by
    intro rreq v call mem
    rw [rreqFailed] at mem
    split at mem <;> cases List.mem_singleton.1 mem <;> rfl
  have freed : ∀ call ∈ [MeshCall.freeBuf buf], sentCost call = none := by
    intro call mem
    cases List.mem_singleton.1 mem
    rfl
  cases frame with
  | rreq rreq =>
      rw [CostFrame.takes, CostFrame.total] at drop
      rw [CostFrame.handle, zbNwkMeshRreqHandler]
      dsimp only [CostFrame.srcAddr, CostFrame.received] at drop ⊢
      cases sought : routeSought rreq.cmd.destAddr s with
      | none => exact failed rreq s
      | some place =>
          obtain ⟨i, u⟩ := place
          rw [sought] at drop
          dsimp only at drop ⊢
          cases found : discSought rreq (nwkCalcPathCost env rreq.srcAddr + rreq.cmd.pathCost) u with
          | goOn t =>
              rw [found] at drop
              cases drop
          | skip => exact freed
          | full => exact failed rreq u
  | rrep rrep =>
      rw [CostFrame.takes, CostFrame.total] at drop
      rw [CostFrame.handle, zbNwkMeshRrepHandler]
      dsimp only [CostFrame.srcAddr, CostFrame.received] at drop ⊢
      cases disc : findDisc rrep.cmd.rreqId rrep.cmd.originator s with
      | none => cases findRoute rrep.cmd.responder s <;> exact freed
      | some i =>
          cases route : findRoute rrep.cmd.responder s with
          | none => exact freed
          | some j =>
              rw [disc, route] at drop
              have more := UInt8.not_le.1 (of_decide_eq_false drop)
              dsimp only
              rw [if_pos more]
              exact freed

/-- A frame that is taken leaves the sum in the entry, sends nothing else on, and what the entry held
was no less. -/
theorem total_of_taken (buf : UInt8) (takes : frame.takes env s = true) :
    frame.kept (frame.handle env buf s).1 = some (frame.total env) ∧
      (∀ call ∈ (frame.handle env buf s).2, ∀ cost, sentCost call = some cost →
        cost = frame.total env) ∧
      ∀ cost, frame.kept s = some cost → frame.total env ≤ cost := by
  cases frame with
  | rreq rreq =>
      obtain ⟨i, u, t, sought, wins⟩ := rreq_takes takes
      obtain ⟨k, found, cost, -⟩ := discSought_goOn wins
      have done : (CostFrame.rreq rreq).handle env buf s = _ := handler_wins sought wins
      refine ⟨?_, ?_, ?_⟩
      · rw [done, CostFrame.kept, found, Option.map_some, cost]
      · intro call mem cost' sent
        rw [done] at mem
        cases List.mem_singleton.1 mem
        rw [rreqPassed] at sent
        split at sent <;> cases sent <;> rfl
      · intro before held
        obtain ⟨j, there, rfl⟩ := Option.map_eq_some_iff.1 held
        have same := routeSought_discTable sought
        have less := (discSought_isGoOn.1 ⟨t, wins⟩).2 j
        rw [findDisc_congr same, same] at less
        exact UInt8.le_of_lt (less there)
  | rrep rrep =>
      obtain ⟨disc, routing, found, route, less⟩ := rrep_takes takes
      obtain ⟨inside, on, is⟩ := findUsed_eq_some found
      have fits : ¬ nwkCalcPathCost env rrep.srcAddr + rrep.cmd.pathCost >
          (s.routeDiscTable disc).residualCost := UInt8.not_lt.2 less
      have entry : ∀ t : MeshNib,
          t.routeDiscTable = (replyEntries disc routing rrep ((CostFrame.rrep rrep).total env) s).routeDiscTable →
            (CostFrame.rrep rrep).kept t = some ((CostFrame.rrep rrep).total env) := by
        intro t same
        have there : findDisc rrep.cmd.rreqId rrep.cmd.originator t = some disc := by
          rw [findDisc, same]
          exact findUsed_update_self inside on is (.inl found)
        rw [CostFrame.kept, there, Option.map_some, same]
        simp [replyEntries, setDisc, setRoute]
      have kept : ∀ cost, (CostFrame.rrep rrep).kept s = some cost →
          (CostFrame.rrep rrep).total env ≤ cost := by
        intro cost held
        rw [CostFrame.kept, found] at held
        cases held
        exact less
      rw [CostFrame.handle, zbNwkMeshRrepHandler]
      simp only [found, route]
      rw [if_neg fits]
      split
      · obtain ⟨-, discs, silent⟩ := replyArrived_still buf rrep
          (replyEntries disc routing rrep ((CostFrame.rrep rrep).total env) s)
        refine ⟨entry _ discs, ?_, kept⟩
        intro call mem cost sent
        have quiet := List.filterMap_eq_nil_iff.1 (silent 0) call mem
        cases call <;> simp [sentBy, sentCost] at quiet sent
      · refine ⟨entry _ rfl, ?_, kept⟩
        intro call mem cost sent
        cases List.mem_singleton.1 mem
        exact (Option.some.inj sent).symm

/-- **When costs do not wrap.** -/
theorem costKept_iff (env : MeshEnv) (buf : UInt8) (frame : CostFrame) (s : MeshNib) :
    CostKept env buf frame s ↔ (frame.takes env s = true → SumFits env frame) := by
  constructor
  · intro costs takes
    obtain ⟨cost, kept, bound⟩ := costs.stored takes
    rw [(total_of_taken buf takes).1] at kept
    cases kept
    exact least_le_total.1 bound
  · intro fits
    cases takes : frame.takes env s with
    | false =>
        constructor
        case stored => exact fun taken => absurd (takes.symm.trans taken) (by decide)
        case forwarded =>
          intro call mem cost sent
          rw [silent_of_dropped buf takes call mem] at sent
          cases sent
        case replaced => exact fun taken => absurd (takes.symm.trans taken) (by decide)
    | true =>
        obtain ⟨stored, forwarded, replaced⟩ := total_of_taken buf takes
        have bound := least_le_total.2 (fits takes)
        constructor
        case stored => exact fun _ => ⟨_, stored, bound⟩
        case forwarded =>
          intro call mem cost sent
          rw [forwarded call mem cost sent]
          exact bound
        case replaced =>
          intro _ cost held
          exact bound.trans (UInt8.le_iff_toNat_le.1 (replaced cost held))

end Handled

/-! ## Pole -/

/-- A router where every link costs the same, and a discovery of 0x0009 that has cost 20. -/
def poleEnv : MeshEnv :=
  { networkAddress := 0x0003
    deviceType := 2
    maxDepth := 5
    nwkReportConstantCost := true
    useTreeRouting := false
    parentAddr := none
    neighborLqi := fun _ => none
    treeHop := fun _ => none }

def poleNib : MeshNib :=
  { MeshNib.init with
    routeDiscTable := Function.update MeshNib.init.routeDiscTable 0
      ⟨true, 7, 0x0009, 0x0001, 0x0050, 20, 0xFF, 10⟩
    routeDiscTableCnt := 1 }

/-- **A cost of 250 replaces one of 20**: the sum wraps to one. -/
theorem huge_cost :
    ¬ ∀ (env : MeshEnv) (buf : UInt8) (frame : CostFrame) (s : MeshNib), CostKept env buf frame s := by
  intro every
  have costs := every poleEnv 1 (.rreq ⟨0x0009, 0x21, 4, 0x0002, ⟨7, 0x0050, 250⟩⟩) poleNib
  have bound := costs.replaced (by decide) 20 (by decide)
  revert bound
  decide

end Zboss.Nwk.PathCosts
