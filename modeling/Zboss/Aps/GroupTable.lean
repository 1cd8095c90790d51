/-
# Aps.GroupTable -- the groups of the device's endpoints

`zb_apsme_add_group_request` keeps up to 16 groups of up to 8 endpoints in arrays that
only grow; `addGroup` is its scan with the two inner ones.  A row of the arrays is read
up to its count, so a table is the list of its groups in order.

* `GroupsOk` is the invariant (no group twice, no endpoint twice in one, no empty row, both
  bounds);
* `endpointsOf_addGroup`: an endpoint keeps its place in its group;
* `groups_refine`: over any requests the table is the set of the pairs that were
  confirmed, and a request is refused exactly when there is no room for its pair.
-/
import Mathlib
import Zboss.Common.Types
import Zboss.Theory.Run

namespace Zboss.Aps.GroupTable

open Zboss.Theory.Run

set_option autoImplicit false

def zbApsGroupTableSize : Nat := 16
def zbApsEndpointsInGroupTable : Nat := 8

/-- `ZB_APS_STATUS_TABLE_FULL`. -/
def zbApsStatusTableFull : UInt8 := 0xae

/-- Group table entry. -/
structure ZbApsGroupTableEnt where
  groupAddr : UInt16
  endpoints : List UInt8
  deriving DecidableEq

structure ZbApsmeAddGroupReq where
  groupAddress : UInt16
  endpoint : UInt8
  deriving DecidableEq

structure ZbApsmeAddGroupConf where
  groupAddress : UInt16
  endpoint : UInt8
  status : UInt8
  deriving DecidableEq

/-- The scan from a group on, with room for so many more, and the status. -/
def addGroup (req : ZbApsmeAddGroupReq) :
    Nat → List ZbApsGroupTableEnt → List ZbApsGroupTableEnt × UInt8
  | room, [] =>
      if 0 < room then ([⟨req.groupAddress, [req.endpoint]⟩], 0) else ([], zbApsStatusTableFull)
  | room, ent :: rest =>
      if ent.groupAddr = req.groupAddress then
        if req.endpoint ∈ ent.endpoints then (ent :: rest, 0)
        else if ent.endpoints.length < zbApsEndpointsInGroupTable then
          ({ ent with endpoints := ent.endpoints ++ [req.endpoint] } :: rest, 0)
        else (ent :: rest, zbApsStatusTableFull)
      else
        let (rest, status) := addGroup req (room - 1) rest
        (ent :: rest, status)

def zbApsmeAddGroupRequest (req : ZbApsmeAddGroupReq) (groups : List ZbApsGroupTableEnt) :
    List ZbApsGroupTableEnt × ZbApsmeAddGroupConf :=
  let (groups, status) := addGroup req zbApsGroupTableSize groups
  (groups, ⟨req.groupAddress, req.endpoint, status⟩)

/-- The endpoints of a group; none, if the device is not in it. -/
def endpointsOf (groups : List ZbApsGroupTableEnt) (groupAddr : UInt16) : List UInt8 :=
  ((groups.find? fun ent => ent.groupAddr == groupAddr).map (·.endpoints)).getD []

/-! ## One request -/

/-- No group is in the table twice, and no endpoint in a group; no row is empty, and nothing is
past its bound. -/
structure GroupsOk (groups : List ZbApsGroupTableEnt) : Prop where
  endpoints : ∀ ent ∈ groups, ent.endpoints.Nodup ∧ ent.endpoints.length ≤ zbApsEndpointsInGroupTable
  addrs : (groups.map (·.groupAddr)).Nodup
  filled : ∀ ent ∈ groups, ent.endpoints ≠ []

section Groups

variable {groups : List ZbApsGroupTableEnt} {req : ZbApsmeAddGroupReq} {room : Nat}

theorem addGroup_addrs (addr : UInt16) :
    addr ∈ ((addGroup req room groups).1.map (·.groupAddr)) →
      addr ∈ groups.map (·.groupAddr) ∨ addr = req.groupAddress := by
  induction groups generalizing room with
  | nil =>
      intro mem
      unfold addGroup at mem
      split at mem
      · exact .inr (List.mem_singleton.1 mem)
      · cases mem
  | cons ent rest ih =>
      intro mem
      unfold addGroup at mem
      split at mem
      · have same : addr ∈ (ent :: rest).map (·.groupAddr) := by
          split at mem
          · exact mem
          · split at mem
            · exact mem
            · exact mem
        exact .inl same
      · rcases List.mem_cons.1 mem with first | later
        · exact .inl (List.mem_cons.2 (.inl first))
        · rcases ih later with old | new
          · exact .inl (List.mem_cons_of_mem _ old)
          · exact .inr new

theorem GroupsOk.rest {ent : ZbApsGroupTableEnt} (ok : GroupsOk (ent :: groups)) :
    GroupsOk groups :=
  ⟨fun ent mem => ok.endpoints ent (List.mem_cons_of_mem _ mem), (List.nodup_cons.1 ok.addrs).2,
    fun ent mem => ok.filled ent (List.mem_cons_of_mem _ mem)⟩

/-- An endpoint more, behind the others. -/
theorem GroupsOk.append {ent : ZbApsGroupTableEnt} (ok : GroupsOk (ent :: groups))
    {endpoint : UInt8} (absent : endpoint ∉ ent.endpoints)
    (space : ent.endpoints.length < zbApsEndpointsInGroupTable) :
    GroupsOk ({ ent with endpoints := ent.endpoints ++ [endpoint] } :: groups) := by
  have head := ok.endpoints ent List.mem_cons_self
  refine ⟨?_, ok.addrs, ?_⟩
  · intro ent' mem
    rcases List.mem_cons.1 mem with rfl | later
    · refine ⟨?_, ?_⟩
      · rw [List.nodup_append]
        refine ⟨head.1, List.nodup_singleton _, ?_⟩
        rintro a inside b isNew rfl
        rw [List.mem_singleton] at isNew
        exact absent (isNew ▸ inside)
      · show (ent.endpoints ++ [endpoint]).length ≤ _
        rw [List.length_append, List.length_singleton]
        omega
    · exact ok.rest.endpoints ent' later
  · intro ent' mem
    rcases List.mem_cons.1 mem with rfl | later
    · exact List.append_ne_nil_of_right_ne_nil _ (List.cons_ne_nil _ _)
    · exact ok.rest.filled ent' later

theorem addGroup_ok (ok : GroupsOk groups) : GroupsOk (addGroup req room groups).1 := by
  induction groups generalizing room with
  | nil =>
      unfold addGroup
      split
      · refine ⟨?_, List.nodup_singleton _, ?_⟩
        · intro ent mem
          rw [List.mem_singleton] at mem
          subst mem
          exact ⟨List.nodup_singleton _, by show 1 ≤ 8; omega⟩
        · intro ent mem
          rw [List.mem_singleton] at mem
          subst mem
          exact List.cons_ne_nil _ _
      · exact ok
  | cons ent rest ih =>
      unfold addGroup
      split
      · split
        · exact ok
        · next absent =>
            split
            · next space => exact ok.append absent space
            · exact ok
      · next other =>
          obtain ⟨endpoints, addrs, filled⟩ := @ih (room - 1) ok.rest
          refine ⟨?_, ?_, ?_⟩
          · intro ent' mem
            rcases List.mem_cons.1 mem with rfl | later
            · exact ok.endpoints ent' List.mem_cons_self
            · exact endpoints ent' later
          · refine List.nodup_cons.2 ⟨?_, addrs⟩
            intro mem
            rcases addGroup_addrs ent.groupAddr mem with old | new
            · exact (List.nodup_cons.1 ok.addrs).1 old
            · exact other new
          · intro ent' mem
            rcases List.mem_cons.1 mem with rfl | later
            · exact ok.filled ent' List.mem_cons_self
            · exact filled ent' later

/-- Never more groups than there is room for. -/
theorem addGroup_length (fits : groups.length ≤ room) :
    (addGroup req room groups).1.length ≤ room := by
  induction groups generalizing room with
  | nil =>
      unfold addGroup
      split
      · next some_ => exact some_
      · exact Nat.zero_le _
  | cons ent rest ih =>
      rw [List.length_cons] at fits
      unfold addGroup
      split
      · split
        · exact fits
        · split
          · exact fits
          · exact fits
      · have more := @ih (room - 1) (by omega)
        show (addGroup req (room - 1) rest).1.length + 1 ≤ room
        omega

theorem endpointsOf_cons (ent : ZbApsGroupTableEnt) (addr : UInt16) :
    endpointsOf (ent :: groups) addr =
      if ent.groupAddr = addr then ent.endpoints else endpointsOf groups addr := by
  unfold endpointsOf
  by_cases same : ent.groupAddr = addr
  · rw [List.find?_cons_of_pos (by simp [same]), if_pos same]
    rfl
  · rw [List.find?_cons_of_neg (by simp [same]), if_neg same]

/-- An endpoint keeps its place in its group. -/
theorem endpointsOf_addGroup (addr : UInt16) :
    endpointsOf groups addr <+: endpointsOf (addGroup req room groups).1 addr := by
  induction groups generalizing room with
  | nil => exact List.nil_prefix
  | cons ent rest ih =>
      unfold addGroup
      split
      · split
        · exact List.prefix_refl _
        · split
          · simp only [endpointsOf_cons]
            split
            · exact List.prefix_append _ _
            · exact List.prefix_refl _
          · exact List.prefix_refl _
      · simp only [endpointsOf_cons]
        split
        · exact List.prefix_refl _
        · exact ih

theorem endpointsOf_ok (ok : GroupsOk groups) (addr : UInt16) :
    (endpointsOf groups addr).Nodup ∧
      (endpointsOf groups addr).length ≤ zbApsEndpointsInGroupTable := by
  unfold endpointsOf
  cases found : groups.find? fun ent => ent.groupAddr == addr with
  | none => exact ⟨List.nodup_nil, Nat.zero_le _⟩
  | some ent => exact ok.endpoints ent (List.mem_of_find?_eq_some found)

/-- **What a request does to the pairs**: its own is there if it is confirmed. -/
theorem mem_endpointsOf_addGroup (addr : UInt16) (endpoint : UInt8) :
    endpoint ∈ endpointsOf (addGroup req room groups).1 addr ↔
      endpoint ∈ endpointsOf groups addr ∨
        (addr = req.groupAddress ∧ endpoint = req.endpoint ∧ (addGroup req room groups).2 = 0) := by
  have full : zbApsStatusTableFull ≠ 0 := by decide
  induction groups generalizing room with
  | nil =>
      unfold addGroup
      split
      · rw [endpointsOf_cons]
        by_cases same : req.groupAddress = addr
        · simp [same, endpointsOf]
        · simp [same, Ne.symm same, endpointsOf]
      · simp [full, endpointsOf]
  | cons ent rest ih =>
      unfold addGroup
      split
      · next here =>
          split
          · next present =>
              refine ⟨Or.inl, ?_⟩
              rintro (old | ⟨rfl, rfl, -⟩)
              · exact old
              · rw [endpointsOf_cons, if_pos here]
                exact present
          · split
            · rw [endpointsOf_cons, endpointsOf_cons]
              by_cases same : ent.groupAddr = addr
              · simp [same, ← here]
              · simp [same, ← here, Ne.symm same]
            · simp [full]
      · next other =>
          rw [endpointsOf_cons, endpointsOf_cons]
          by_cases same : ent.groupAddr = addr
          · rw [if_pos same, if_pos same]
            refine ⟨Or.inl, ?_⟩
            rintro (old | ⟨own, -⟩)
            · exact old
            · exact absurd (same.trans own) other
          · rw [if_neg same, if_neg same]
            exact ih

/-- There is no room for the pair: its group is full, or there is none and the table is. -/
def Full (groups : List ZbApsGroupTableEnt) (room : Nat) (req : ZbApsmeAddGroupReq) : Prop :=
  req.endpoint ∉ endpointsOf groups req.groupAddress ∧
    if req.groupAddress ∈ groups.map (·.groupAddr) then
      (endpointsOf groups req.groupAddress).length = zbApsEndpointsInGroupTable
    else groups.length = room

/-- **A request is refused exactly when there is no room for its pair.** -/
theorem addGroup_refused_iff (ok : GroupsOk groups) (fits : groups.length ≤ room) :
    (addGroup req room groups).2 ≠ 0 ↔ Full groups room req := by
  have full : zbApsStatusTableFull ≠ 0 := by decide
  unfold Full
  induction groups generalizing room with
  | nil =>
      unfold addGroup
      split
      · next some_ => simp [endpointsOf, Nat.ne_of_lt some_]
      · next none_ => simp [endpointsOf, full, Nat.eq_zero_of_not_pos none_]
  | cons ent rest ih =>
      have head := (ok.endpoints ent List.mem_cons_self).2
      rw [List.length_cons] at fits
      rw [endpointsOf_cons]
      unfold addGroup
      split
      · next here =>
          rw [if_pos (List.mem_map.2 ⟨ent, List.mem_cons_self, here⟩)]
          split
          · next present => simp [present]
          · next absent =>
              split
              · next space => simp [absent, Nat.ne_of_lt space]
              · next none_ =>
                  have count : ent.endpoints.length = zbApsEndpointsInGroupTable := by omega
                  simp [absent, full, count]
      · next other =>
          have later := @ih (room - 1) ok.rest (by omega)
          have elsewhere : (req.groupAddress ∈ (ent :: rest).map (·.groupAddr)) ↔
              req.groupAddress ∈ rest.map (·.groupAddr) := by
            rw [List.map_cons, List.mem_cons]
            exact or_iff_right fun same => other same.symm
          have count : rest.length = room - 1 ↔ (ent :: rest).length = room := by
            rw [List.length_cons]
            omega
          simp only [elsewhere, ← count]
          exact later

end Groups

/-! ## All requests -/

/-- A request on the device's table. -/
def addStep (groups : List ZbApsGroupTableEnt) (req : ZbApsmeAddGroupReq) :
    Option (List ZbApsGroupTableEnt) :=
  some (zbApsmeAddGroupRequest req groups).1

/-- The requests that are confirmed. -/
def confirmed (groups : List ZbApsGroupTableEnt) (req : ZbApsmeAddGroupReq) :
    List ZbApsmeAddGroupReq :=
  if (zbApsmeAddGroupRequest req groups).2.status = 0 then [req] else []

/-- What the table is between two requests. -/
structure TableOk (groups : List ZbApsGroupTableEnt) : Prop where
  rows : GroupsOk groups
  size : groups.length ≤ zbApsGroupTableSize

theorem tableOk_nil : TableOk [] :=
  ⟨⟨fun _ mem => absurd mem List.not_mem_nil, List.nodup_nil,
    fun _ mem => absurd mem List.not_mem_nil⟩, Nat.zero_le _⟩

theorem TableOk.add {groups : List ZbApsGroupTableEnt} (ok : TableOk groups)
    (req : ZbApsmeAddGroupReq) : TableOk (zbApsmeAddGroupRequest req groups).1 :=
  ⟨addGroup_ok ok.rows, addGroup_length ok.size⟩

/-- The pairs after a run are those before it and those confirmed. -/
theorem mem_endpointsOf_run {start groups : List ZbApsGroupTableEnt}
    {reqs : List ZbApsmeAddGroupReq} (ran : run addStep start reqs = some groups) (addr : UInt16)
    (endpoint : UInt8) :
    endpoint ∈ endpointsOf groups addr ↔
      endpoint ∈ endpointsOf start addr ∨
        ⟨addr, endpoint⟩ ∈ trace addStep confirmed start reqs := by
  induction reqs generalizing start with
  | nil =>
      obtain rfl := Option.some.inj ran
      simp [trace]
  | cons req reqs ih =>
      obtain ⟨next, taken, rest⟩ := run_cons_eq_some.1 ran
      obtain rfl := Option.some.inj taken
      have own : (⟨addr, endpoint⟩ : ZbApsmeAddGroupReq) ∈ confirmed start req ↔
          addr = req.groupAddress ∧ endpoint = req.endpoint ∧
            (zbApsmeAddGroupRequest req start).2.status = 0 := by
        obtain ⟨groupAddress, point⟩ := req
        unfold confirmed
        split
        · next done => simp [done]
        · next refused => simp [refused]
      rw [ih rest, trace]
      simp only [addStep, List.mem_append, own, ← or_assoc]
      exact or_congr_left (mem_endpointsOf_addGroup addr endpoint)

/-- **The table is the set of the confirmed pairs**, in every run of requests: it is well
formed, holds a pair exactly if its request was confirmed, and each request was refused
exactly if there was no room for its pair. -/
theorem groups_refine {reqs : List ZbApsmeAddGroupReq} {groups : List ZbApsGroupTableEnt}
    (ran : run addStep [] reqs = some groups) :
    TableOk groups ∧
      (∀ addr endpoint, endpoint ∈ endpointsOf groups addr ↔
        ⟨addr, endpoint⟩ ∈ trace addStep confirmed [] reqs) ∧
      Along addStep (fun groups req => confirmed groups req = [] ↔ Full groups zbApsGroupTableSize req)
        [] reqs := by
  have keeps : ∀ groups req next, TableOk groups → True → addStep groups req = some next →
      TableOk next := by
    intro groups req next ok _ taken
    obtain rfl := Option.some.inj taken
    exact ok.add req
  have free := @along_of_forall _ _ addStep (fun _ _ => True) (fun _ _ => trivial) [] reqs
  refine ⟨run_invariant keeps tableOk_nil free ran, fun addr endpoint => ?_, ?_⟩
  · rw [mem_endpointsOf_run ran]
    simp [endpointsOf]
  · refine along_of_invariant keeps ?_ tableOk_nil free
    intro groups req ok _
    rw [← addGroup_refused_iff ok.rows ok.size]
    show (if (addGroup req zbApsGroupTableSize groups).2 = 0 then [req] else []) = [] ↔ _
    split
    · next done => simp [done]
    · next refused => simp [refused]

/-- Pole: two endpoints in one group, one of them asked for twice. -/
theorem groups_refine_two :
    ∃ groups, run addStep [] [⟨7, 1⟩, ⟨7, 2⟩, ⟨7, 1⟩] = some groups ∧
      endpointsOf groups 7 = [1, 2] ∧ TableOk groups :=
  ⟨[⟨7, [1, 2]⟩], rfl, rfl, (@groups_refine [⟨7, 1⟩, ⟨7, 2⟩, ⟨7, 1⟩] _ rfl).1⟩

end Zboss.Aps.GroupTable
