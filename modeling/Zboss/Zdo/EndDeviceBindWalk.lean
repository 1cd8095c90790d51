/-
# Zdo.EndDeviceBindWalk -- what two requests ask for, and the walk that does it

Two requests ask for a link for each cluster that one device puts out and the other takes
in (`wanted`).  The clusters found are those, as long as they fit (`mem_checkClusterList`).
The walk takes the entries of the two lists from their ends: what the counts have passed is
as asked for (`Walked`), each step takes one entry more (`sendBindUnbindWithCheck_next`,
`respond_next`), and what is left to do gets less (`runBindCb_ahead`).

* `checkClusterList_isSome`: the writes stay inside `cluster_list` exactly when the lists fit.
-/
import Mathlib
import Zboss.Common.Constants
import Zboss.Zdo.EndDeviceBind

namespace Zboss.Zdo.EndDeviceBind

open Zboss.Common.Constants

set_option autoImplicit false

/-! ## The matched clusters -/

/-- The matching pairs are counted; at each matching entry there are fewer of them than entries
in `cluster_list`. -/
def fitsFrom (clusterList2 : List UInt16) : Nat → List UInt16 → Bool
  | _, [] => true
  | found, clusterId :: rest =>
      (clusterId ∉ clusterList2 || found < zbZdoMaxClusterList) &&
        fitsFrom clusterList2 (found + clusterList2.count clusterId) rest

/-- The matches of the lists fit into `cluster_list`. -/
def fits (clusterList1 clusterList2 : List UInt16) : Bool := fitsFrom clusterList2 0 clusterList1

section Matching

variable {clusterId : UInt16} {found result : List UInt16}

/-- The inner loop adds the entry as often as it is met, until the array is full. -/
theorem checkCluster_room (list2 : List UInt16) (room : found.length < zbZdoMaxClusterList) :
    checkCluster clusterId list2 found = some (found ++
      List.replicate (min (list2.count clusterId) (zbZdoMaxClusterList - found.length)) clusterId) := by
  induction list2 generalizing found with
  | nil => simp [checkCluster]
  | cons other rest ih =>
      by_cases same : clusterId = other
      · subst same
        rw [checkCluster, if_pos rfl, if_pos room]
        dsimp only
        have longer : (found ++ [clusterId]).length = found.length + 1 := by simp
        split
        · rename_i full
          have one : min ((clusterId :: rest).count clusterId)
              (zbZdoMaxClusterList - found.length) = 1 := by
            rw [List.count_cons_self]
            omega
          rw [one]
          rfl
        · rename_i notFull
          rw [ih (Nat.lt_of_not_ge notFull), List.append_assoc, List.singleton_append,
            ← List.replicate_succ, longer, List.count_cons_self]
          congr 3
          omega
      · rw [checkCluster, if_neg same, ih room, List.count_cons_of_ne (Ne.symm same)]

/-- A full array has room for no match. -/
theorem checkCluster_full (list2 : List UInt16) (full : zbZdoMaxClusterList ≤ found.length) :
    checkCluster clusterId list2 found = if clusterId ∈ list2 then none else some found := by
  induction list2 with
  | nil => simp [checkCluster]
  | cons other rest ih =>
      by_cases same : clusterId = other
      · rw [checkCluster, if_pos same, if_neg (Nat.not_lt.2 full), if_pos (by simp [same])]
      · rw [checkCluster, if_neg same, ih]
        simp [same]

/-- What the inner loop leaves in the array. -/
def added (clusterId : UInt16) (list2 found : List UInt16) : List UInt16 :=
  found ++ List.replicate (min (list2.count clusterId) (zbZdoMaxClusterList - found.length)) clusterId

theorem mem_added {list2 : List UInt16} (room : clusterId ∈ list2 → found.length < zbZdoMaxClusterList)
    {c : UInt16} : c ∈ added clusterId list2 found ↔ c ∈ found ∨ c = clusterId ∧ c ∈ list2 := by
  rw [added, List.mem_append, List.mem_replicate]
  refine or_congr_right ?_
  constructor
  · rintro ⟨some_, rfl⟩
    exact ⟨rfl, List.count_pos_iff.1 (by omega)⟩
  · rintro ⟨rfl, mem⟩
    have met := List.count_pos_iff.2 mem
    have room := room mem
    exact ⟨by omega, rfl⟩

theorem checkCluster_eq (list2 : List UInt16) : checkCluster clusterId list2 found =
    if clusterId ∈ list2 → found.length < zbZdoMaxClusterList then some (added clusterId list2 found)
    else none := by
  by_cases room : found.length < zbZdoMaxClusterList
  · rw [checkCluster_room list2 room, if_pos fun _ => room, added]
  · rw [checkCluster_full list2 (Nat.le_of_not_lt room)]
    by_cases mem : clusterId ∈ list2
    · rw [if_pos mem, if_neg fun all => room (all mem)]
    · rw [if_neg mem, if_pos fun yes => absurd yes mem, added, List.count_eq_zero.2 mem]
      simp

/-- The outer loop, from an array with the pairs counted so far. -/
theorem checkClusterList_from (list1 list2 : List UInt16) {counted : Nat}
    (holds : found.length = min counted zbZdoMaxClusterList) :
    match list1.foldlM (fun found clusterId => checkCluster clusterId list2 found) found with
    | some result => fitsFrom list2 counted list1 = true ∧
        ∀ c, c ∈ result ↔ c ∈ found ∨ c ∈ list1 ∧ c ∈ list2
    | none => fitsFrom list2 counted list1 = false := by
  induction list1 generalizing found counted with
  | nil => simp [fitsFrom]
  | cons clusterId rest ih =>
      rw [List.foldlM_cons, checkCluster_eq]
      by_cases room : clusterId ∈ list2 → found.length < zbZdoMaxClusterList
      · have length : (added clusterId list2 found).length =
            min (counted + list2.count clusterId) zbZdoMaxClusterList := by
          rw [added, List.length_append, List.length_replicate]
          omega
        have here : (decide (clusterId ∉ list2) || decide (counted < zbZdoMaxClusterList)) = true := by
          by_cases mem : clusterId ∈ list2
          · have less := room mem
            have less : counted < zbZdoMaxClusterList := by omega
            simp [less]
          · simp [mem]
        have rest_ := ih length
        rw [if_pos room, Option.bind_eq_bind, Option.bind_some, fitsFrom, here, Bool.true_and]
        split at rest_
        · obtain ⟨fit, mem⟩ := rest_
          refine ⟨fit, fun c => ?_⟩
          rw [mem c, mem_added room, List.mem_cons]
          tauto
        · exact rest_
      · obtain ⟨mem, full⟩ := Classical.not_imp.1 room
        have full : ¬ counted < zbZdoMaxClusterList := by omega
        rw [if_neg room]
        simp [fitsFrom, mem, full]

/-- **The writes stay inside `cluster_list`** exactly when the lists fit. -/
theorem checkClusterList_isSome (list1 list2 : List UInt16) :
    (checkClusterList list1 list2).isSome = fits list1 list2 := by
  have all := @checkClusterList_from [] list1 list2 0 rfl
  rw [checkClusterList, fits]
  split at all
  · rename_i result is
    rw [is, all.1, Option.isSome_some]
  · rename_i is
    rw [is, all, Option.isSome_none]

/-- What is written are the clusters met in both lists. -/
theorem mem_checkClusterList {list1 list2 : List UInt16}
    (is : checkClusterList list1 list2 = some result) (c : UInt16) :
    c ∈ result ↔ c ∈ list1 ∧ c ∈ list2 := by
  have all := @checkClusterList_from [] list1 list2 0 rfl
  rw [checkClusterList] at is
  rw [is] at all
  simpa using all.2 c

end Matching

/-! ## What the requests ask for -/

/-- The clusters that one device puts out and the other takes in. -/
def matched (source sink : EndDeviceBindReq) : List UInt16 :=
  source.outClusters.filter (· ∈ sink.inClusters)

/-- A link for each of them, on the device that puts it out. -/
def wantedOn (source sink : EndDeviceBindReq) : List BindLink :=
  (matched source sink).map fun clusterId =>
    ⟨source.bindingTarget, source.srcIeeeAddr, source.srcEndp, clusterId, sink.srcIeeeAddr, sink.srcEndp⟩

/-- **The links that two requests ask for**, both ways. -/
def BindPair.wanted (pair : BindPair) : List BindLink :=
  wantedOn pair.first pair.second ++ wantedOn pair.second pair.first

/-- The steps that the walk has ahead. -/
def EndDeviceBindCtx.ahead (ctx : EndDeviceBindCtx) : Nat :=
  if ctx.currentDevice = 0 then ctx.dev1.clusterNum + 1 + ctx.dev2.clusterNum else ctx.dev2.clusterNum

def taskAhead (ctx : EndDeviceBindCtx) : BindTask → Nat
  | .sendCheck => ctx.dev1.clusterNum + ctx.dev2.clusterNum + 3
  | _ => ctx.ahead + 1

/-! ## The walk -/

section Walk

variable (ieeeByShort : UInt16 → UInt64)

/-- The target of the links is the device of the request. -/
def addressed (req : EndDeviceBindReq) : Bool := ieeeByShort req.bindingTarget == req.srcIeeeAddr

/-- The lists fit into the arrays, and where there is a match the devices are known by their
addresses. -/
def pairKept (req1 req2 : EndDeviceBindReq) : Bool :=
  fits req1.outClusters req2.inClusters && fits req1.inClusters req2.outClusters &&
    ((BindPair.wanted ⟨req1, req2⟩).isEmpty || (addressed ieeeByShort req1 && addressed ieeeByShort req2))

/-- The links of the lists, by their devices. -/
def entries (ctx : EndDeviceBindCtx) (num : Nat) : List BindLink :=
  (ctx.info num).clusterList.map (bindLink ieeeByShort ctx num)

/-- **The walk so far**: what the counts have passed is as asked for, and behind the first device
nothing is left of its list. -/
structure Walked (links : BindLink → Bool) (bind : Bool) (ctx : EndDeviceBindCtx) : Prop where
  device : ctx.currentDevice = 0 ∨ ctx.currentDevice = 1 ∧ ctx.dev1.clusterNum = 0
  first : ∀ link ∈ (entries ieeeByShort ctx 0).drop ctx.dev1.clusterNum, links link = bind
  second : ∀ link ∈ (entries ieeeByShort ctx 1).drop ctx.dev2.clusterNum, links link = bind

/-- The counts are those of the whole lists. -/
def Whole (ctx : EndDeviceBindCtx) : Prop :=
  ctx.dev1.clusterNum = ctx.dev1.clusterList.length ∧ ctx.dev2.clusterNum = ctx.dev2.clusterList.length

/-- The callback of the walk. -/
def walkCb (bind : Bool) : BindCb := if bind then .bind else .unbind

/-- Where the walk is, by what is pending; a request counts as done. -/
def Phase (links : BindLink → Bool) (existed : Bool) (ctx : EndDeviceBindCtx) : BindTask → Prop
  | .sendCheck => Whole ctx
  | .request .check _ _ =>
      Whole ctx ∧ (ctx.currentDevice = 0 ∨ ctx.currentDevice = 1 ∧ ctx.dev1.clusterNum = 0)
  | .request cb bind link =>
      cb = walkCb bind ∧ existed = !bind ∧
        Walked ieeeByShort (Function.update links link bind) bind ctx
  | .callback cb => ∃ bind, cb = walkCb bind ∧ existed = !bind ∧ Walked ieeeByShort links bind ctx

/-- The links of the lists are those asked for. -/
def Covers (ctx : EndDeviceBindCtx) (pair : BindPair) : Prop :=
  ∀ link ∈ pair.wanted, link ∈ entries ieeeByShort ctx 0 ∨ link ∈ entries ieeeByShort ctx 1

/-- What the walk leaves behind a callback or an answer. -/
def WalkNext (links : BindLink → Bool) (existed : Bool) (ctx : EndDeviceBindCtx) :
    EndDeviceBindCtx × Option BindTask → Prop
  | (ctx', some task) =>
      Phase ieeeByShort links existed ctx' task ∧ ctx'.dev1.endDeviceBindParam = ctx.dev1.endDeviceBindParam ∧
        ctx'.dev2.endDeviceBindParam = ctx.dev2.endDeviceBindParam ∧
        entries ieeeByShort ctx' 0 = entries ieeeByShort ctx 0 ∧
        entries ieeeByShort ctx' 1 = entries ieeeByShort ctx 1
  | (ctx', none) =>
      ctx'.dev1.endDeviceBindParam = zbUndefinedBuffer ∧ ctx'.dev2.endDeviceBindParam = zbUndefinedBuffer ∧
        ∀ link, link ∈ entries ieeeByShort ctx 0 ∨ link ∈ entries ieeeByShort ctx 1 →
          links link = !existed

end Walk

section WalkSteps

variable {ieeeByShort : UInt16 → UInt64} {links : BindLink → Bool} {bind existed : Bool}
  {ctx : EndDeviceBindCtx} {link : BindLink}

theorem update_settled {other : BindLink} (settled : links other = bind) :
    Function.update links link bind other = bind := by
  rw [Function.update_apply]
  split
  · rfl
  · exact settled

/-- The entry in front of those passed, and those. -/
theorem drop_pred {list : List UInt16} {f : UInt16 → BindLink} {num : Nat}
    (settled : ∀ link ∈ (list.map f).drop num, links link = bind) {other : BindLink}
    (mem : other ∈ (list.map f).drop (num - 1)) :
    Function.update links (f (list.getD (num - 1) 0)) bind other = bind := by
  by_cases inside : num - 1 < list.length
  · rw [List.drop_eq_getElem_cons (by simpa using inside), List.getElem_map, List.mem_cons] at mem
    rcases mem with rfl | mem
    · rw [List.getD_eq_getElem _ _ inside, Function.update_self]
    · exact update_settled (settled other (List.drop_subset_drop_left _ (by omega) mem))
  · rw [List.drop_eq_nil_of_le (by simpa using inside)] at mem
    exact absurd mem List.not_mem_nil

theorem phase_request (is : existed = !bind)
    (walked : Walked ieeeByShort (Function.update links link bind) bind ctx) :
    Phase ieeeByShort links existed ctx (.request (walkCb bind) bind link) := by
  cases bind with
  | false => exact ⟨rfl, is, walked⟩
  | true => exact ⟨rfl, is, walked⟩

/-- **One step of the walk.** -/
theorem sendBindUnbindWithCheck_next (is : existed = !bind) (walked : Walked ieeeByShort links bind ctx) :
    WalkNext ieeeByShort links existed ctx
      (sendBindUnbindWithCheck ieeeByShort bind (walkCb bind) ctx) := by
  unfold sendBindUnbindWithCheck
  rcases walked.device with first | ⟨second, passed⟩
  · rw [first]
    dsimp only [EndDeviceBindCtx.info]
    rw [if_pos rfl]
    split
    · rename_i passed
      exact ⟨⟨bind, rfl, is, ⟨.inr ⟨rfl, passed⟩, walked.first, walked.second⟩⟩, rfl, rfl, rfl, rfl⟩
    · rw [EndDeviceBindCtx.countDown, if_pos first]
      exact ⟨phase_request is ⟨.inl first, fun _ mem => drop_pred walked.first mem,
        fun _ mem => update_settled (walked.second _ mem)⟩, rfl, rfl, rfl, rfl⟩
  · rw [second]
    dsimp only [EndDeviceBindCtx.info]
    rw [if_neg Nat.one_ne_zero]
    split
    · rename_i through
      refine ⟨rfl, rfl, fun link mem => ?_⟩
      rw [is, Bool.not_not]
      rcases mem with mem | mem
      · exact walked.first link (by rwa [passed])
      · exact walked.second link (by rwa [through])
    · have notFirst : ctx.currentDevice ≠ 0 := by omega
      rw [EndDeviceBindCtx.countDown, if_neg notFirst]
      exact ⟨phase_request is ⟨.inr ⟨second, passed⟩,
        fun _ mem => update_settled (walked.first _ mem), fun _ mem => drop_pred walked.second mem⟩,
        rfl, rfl, rfl, rfl⟩

/-- The lists are whole where the walk begins. -/
theorem walked_of_whole (whole : Whole ctx)
    (device : ctx.currentDevice = 0 ∨ ctx.currentDevice = 1 ∧ ctx.dev1.clusterNum = 0) :
    Walked ieeeByShort links bind ctx := by
  refine ⟨device, fun link mem => ?_, fun link mem => ?_⟩
  · rw [whole.1, List.drop_eq_nil_of_le (by simp [entries, EndDeviceBindCtx.info])] at mem
    exact absurd mem List.not_mem_nil
  · rw [whole.2, List.drop_eq_nil_of_le (by simp [entries, EndDeviceBindCtx.info])] at mem
    exact absurd mem List.not_mem_nil

/-- The probe. -/
theorem sendCheck_next (whole : Whole ctx) : WalkNext ieeeByShort links existed ctx
    ((zbZdoSendCheckBindUnbind ieeeByShort ctx).1, some (zbZdoSendCheckBindUnbind ieeeByShort ctx).2) := by
  refine ⟨⟨whole, ?_⟩, rfl, rfl, rfl, rfl⟩
  dsimp only [zbZdoSendCheckBindUnbind]
  split
  · exact .inl rfl
  · rename_i none_
    exact .inr ⟨rfl, Classical.not_not.1 none_⟩

/-- The callback behind the first device. -/
theorem callback_next {cb : BindCb} (phase : Phase ieeeByShort links existed ctx (.callback cb))
    (status : UInt8) : WalkNext ieeeByShort links existed ctx (runBindCb ieeeByShort status ctx cb) := by
  obtain ⟨bind, rfl, is, walked⟩ := phase
  have next := sendBindUnbindWithCheck_next is walked
  cases bind with
  | false => exact next
  | true => exact next

/-- **An answer**, to the probe or to a request of the walk, that keeps the condition. -/
theorem respond_next {cb : BindCb} (status : UInt8) (performed : Bool)
    (phase : Phase ieeeByShort links existed ctx (.request cb bind link))
    (probed : cb = .check → ((status == zbZdpStatusNoEntry) == !links link) = true)
    (done : cb ≠ .check → (performed || links link == bind) = true) :
    WalkNext ieeeByShort (perform performed bind link links) (if cb = .check then links link else existed)
      ctx (runBindCb ieeeByShort status ctx cb) := by
  have walks (walk : cb ≠ .check) (phase : cb = walkCb bind ∧ existed = (!bind) ∧
      Walked ieeeByShort (Function.update links link bind) bind ctx) :
      WalkNext ieeeByShort (perform performed bind link links)
        (if cb = .check then links link else existed) ctx (runBindCb ieeeByShort status ctx cb) := by
    obtain ⟨is, found, walked⟩ := phase
    have made : perform performed bind link links = Function.update links link bind := by
      rw [perform]
      split
      · rfl
      · rename_i not
        have already := done walk
        rw [Bool.eq_false_iff.2 not, Bool.false_or, beq_iff_eq] at already
        rw [← already, Function.update_eq_self]
    rw [if_neg walk, made]
    exact callback_next ⟨bind, is, found, walked⟩ status
  cases cb with
  | check =>
      obtain ⟨whole, device⟩ := phase
      have found := beq_iff_eq.1 (probed rfl)
      rw [if_pos rfl, runBindCb]
      by_cases noEntry : status = zbZdpStatusNoEntry
      · rw [if_pos noEntry]
        rw [beq_iff_eq.2 noEntry] at found
        exact sendBindUnbindWithCheck_next (show links link = !true by simpa using found.symm)
          (walked_of_whole whole device)
      · rw [if_neg noEntry]
        rw [beq_false_of_ne noEntry] at found
        exact sendBindUnbindWithCheck_next (show links link = !false by simpa using found.symm)
          (walked_of_whole whole device)
  | bind => exact walks (by decide) phase
  | unbind => exact walks (by decide) phase

/-- A step of the walk has fewer ahead of it. -/
theorem sendBindUnbindWithCheck_ahead {cb : BindCb}
    (device : ctx.currentDevice = 0 ∨ ctx.currentDevice = 1 ∧ ctx.dev1.clusterNum = 0) :
    let next := sendBindUnbindWithCheck ieeeByShort bind cb ctx
    (next.2.toList.map (taskAhead next.1)).sum < ctx.ahead + 1 := by
  dsimp only
  unfold sendBindUnbindWithCheck
  rcases device with first | ⟨second, -⟩
  · rw [first]
    dsimp only [EndDeviceBindCtx.info]
    rw [if_pos rfl]
    split
    · simp [taskAhead, EndDeviceBindCtx.ahead, first]
    · rename_i some_
      have some_ : ctx.dev1.clusterNum ≠ 0 := some_
      simp only [Option.toList_some, List.map_cons, List.map_nil, List.sum_cons, List.sum_nil,
        taskAhead, EndDeviceBindCtx.countDown, first, if_true, EndDeviceBindCtx.ahead]
      omega
  · rw [second]
    dsimp only [EndDeviceBindCtx.info]
    rw [if_neg Nat.one_ne_zero]
    split
    · simp
    · rename_i some_
      have some_ : ctx.dev2.clusterNum ≠ 0 := some_
      simp only [Option.toList_some, List.map_cons, List.map_nil, List.sum_cons, List.sum_nil,
        taskAhead, EndDeviceBindCtx.countDown, second, if_neg Nat.one_ne_zero,
        EndDeviceBindCtx.ahead]
      omega

theorem runBindCb_ahead {cb : BindCb} {status : UInt8}
    (device : ctx.currentDevice = 0 ∨ ctx.currentDevice = 1 ∧ ctx.dev1.clusterNum = 0) :
    let next := runBindCb ieeeByShort status ctx cb
    (next.2.toList.map (taskAhead next.1)).sum < ctx.ahead + 1 := by
  cases cb with
  | check =>
      dsimp only [runBindCb]
      split
      · exact sendBindUnbindWithCheck_ahead device
      · exact sendBindUnbindWithCheck_ahead device
  | bind => exact sendBindUnbindWithCheck_ahead device
  | unbind => exact sendBindUnbindWithCheck_ahead device

theorem sendCheck_ahead : taskAhead (zbZdoSendCheckBindUnbind ieeeByShort ctx).1
    (zbZdoSendCheckBindUnbind ieeeByShort ctx).2 < taskAhead ctx .sendCheck := by
  simp only [zbZdoSendCheckBindUnbind, taskAhead, EndDeviceBindCtx.ahead]
  split
  · show ctx.dev1.clusterNum + 1 + ctx.dev2.clusterNum + 1 < _
    omega
  · show ctx.dev2.clusterNum + 1 < _
    omega

/-- The walk is at one of the two devices. -/
theorem Phase.device {task : BindTask} (phase : Phase ieeeByShort links existed ctx task)
    (walk : task ≠ .sendCheck) :
    ctx.currentDevice = 0 ∨ ctx.currentDevice = 1 ∧ ctx.dev1.clusterNum = 0 := by
  cases task with
  | sendCheck => exact absurd rfl walk
  | callback cb =>
      obtain ⟨_, -, -, walked⟩ := phase
      exact walked.device
  | request cb bind link =>
      cases cb with
      | check => exact phase.2
      | bind => exact phase.2.2.device
      | unbind => exact phase.2.2.device

end WalkSteps

end Zboss.Zdo.EndDeviceBind
