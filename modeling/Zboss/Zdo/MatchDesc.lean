/-
# Zdo.MatchDesc -- which endpoints match

`zdo_match_desc_res` copies the clusters of a request into the tail of the buffer, compares them
with those of each simple descriptor, and puts the endpoints that match into a sorted list.

* `heard_spec`: which clusters are compared: the input clusters of the request, and in place of its
  output clusters what stood in the tail;
* `addEpSorted_spec`: one endpoint goes into the list, or the slot behind its end holds it already;
* `match_desc_iff`: which requests are answered as they should be.

Poles: `copy_cluster_id` returns its destination, from which the output clusters are then copied;
the slot behind the end of the list is read before it is written; and the status for a request to
another device is written over.
-/
import Mathlib
import Zboss.Common.Constants
import Zboss.Zdo.BodyMemory

namespace Zboss.Zdo.MatchDesc

open Zboss.Common.Constants
open Zboss.Theory.ByteMemory
open Zboss.Zdo.BodyMemory

set_option autoImplicit false

/-! ## Descriptors -/

/-- What is compared of a simple descriptor. -/
structure SimpleDesc where
  endpoint : UInt8
  appProfileId : UInt16
  appInputClusters : List UInt16
  appOutputClusters : List UInt16

def sharesCluster (these those : List UInt16) : Bool := these.any fun id => those.contains id

/-! ## The list of endpoints -/

/-- `ep_list` with the number of its endpoints.  The slots are those of the stack; it is noted which
have been written, and which have been read before. -/
structure EpList where
  slots : Nat → UInt8
  num : Nat
  written : List Nat
  fresh : List Nat

def EpList.start (slots : Nat → UInt8) : EpList := ⟨slots, 0, [], []⟩

/-- The place for an endpoint: before the first one that is not smaller. -/
def epIndex (endpoint : UInt8) (l : EpList) : Nat :=
  ((List.range l.num).find? fun i => decide (endpoint ≤ l.slots i)).getD l.num

/-- The slots up to the place are read, the last one whether or not it is in the list; those behind
it move by one. -/
def addEpSorted (l : EpList) (endpoint : UInt8) : EpList :=
  let index := epIndex endpoint l
  let fresh := l.fresh ++ (List.range (index + 1)).filter fun i => !l.written.contains i
  if l.slots index ≠ endpoint then
    { slots := fun i =>
        if i = index then endpoint
        else if index < i ∧ i ≤ l.num then l.slots (i - 1)
        else l.slots i
      num := l.num + 1
      written := l.written ++ List.range' index (l.num + 1 - index)
      fresh := fresh }
  else { l with fresh := fresh }

def EpList.endpoints (l : EpList) : List UInt8 := cellsAt 0 l.num l.slots

/-! ## The handler -/

/-- The descriptors of a device. -/
structure DescList (maxEp : Nat) where
  list : List SimpleDesc
  few : list.length ≤ maxEp

/-- `sizeof(zb_zdo_match_desc_resp_t)` -/
def matchDescRespSize : Nat := 4

section Request

variable (b : Body)

def nwkAddr : UInt16 := word b.mem (b.begin_ + 1)

def profileId : UInt16 := word b.mem (b.begin_ + 3)

def numIn : Nat := (b.at_ 5).toNat

def numOut : Nat := (b.at_ (6 + 2 * numIn b)).toNat

/-- The clusters of the request. -/
def inClusters : List UInt16 := wordsAt (b.begin_ + 6) (numIn b) b.mem

def outClusters : List UInt16 := wordsAt (b.begin_ + 7 + 2 * numIn b) (numOut b) b.mem

/-- Whether a descriptor shares a cluster with two lists. -/
def sharesOne (desc : SimpleDesc) (inList outList : List UInt16) : Bool :=
  sharesCluster desc.appInputClusters inList || sharesCluster desc.appOutputClusters outList

/-- The clusters that are compared, `cluster_id`, behind the copies into the tail. -/
def clusterId : Option (List UInt16 × List UInt16) := do
  let tail ← zbGetBufTail (UInt8.ofNat (2 * (numIn b + numOut b))) b
  let (m, apsBody) := copyClusterId tail (b.begin_ + 6) (numIn b) b.mem
  let (m, _) := copyClusterId (tail + 2 * numIn b) (apsBody + 1) (numOut b) m
  return (wordsAt tail (numIn b) m, wordsAt (tail + 2 * numIn b) (numOut b) m)

structure MatchDescResp where
  status : UInt8
  nwkAddr : UInt16
  matchLen : UInt8
  matchList : List UInt8

variable (shortAddress : UInt16)

def asked : Bool := shortAddress == nwkAddr b || nwkAddr b == zbNwkBroadcastRxOnWhenIdle

/-- The list that the descriptors leave. -/
def listed (descs : List SimpleDesc) (clusters : List UInt16 × List UInt16)
    (slots : Nat → UInt8) : EpList :=
  descs.foldl (fun l desc =>
    if desc.appProfileId == profileId b && sharesOne desc clusters.1 clusters.2 then
      addEpSorted l desc.endpoint
    else l) (.start slots)

/-- The list and the response; `none` where an assertion on the room in the buffer fails. -/
def zdoMatchDescRes (descs : List SimpleDesc) (slots : Nat → UInt8) :
    Option (EpList × MatchDescResp) := do
  let _ ← zbGetBufTail apsdeDataIndicationSize b
  let clusters ← clusterId b
  let l := if asked b shortAddress then listed b descs clusters slots else .start slots
  if (UInt8.ofNat (matchDescRespSize + l.num)).toNat < zbIoBufSize then
    return (l,
      { status := if l.num ≠ 0 then zbZdpStatusSuccess else zbZdpStatusNoDescriptor
        nwkAddr := nwkAddr b
        matchLen := UInt8.ofNat l.num
        matchList := l.endpoints })
  else none

/-! ## What should be -/

/-- The endpoint of a descriptor that the request is about. -/
def Matches (desc : SimpleDesc) : Prop :=
  desc.appProfileId = profileId b ∧ sharesOne desc (inClusters b) (outClusters b) = true

/-- The list is that of the endpoints that match. -/
structure ListRight (descs : List SimpleDesc) (resp : MatchDescResp) : Prop where
  sorted : resp.matchList.Pairwise (· < ·)
  exactly : ∀ ep, ep ∈ resp.matchList ↔
    asked b shortAddress = true ∧ ∃ desc ∈ descs, Matches b desc ∧ desc.endpoint = ep

/-- What the answer to a request should be. -/
structure MatchRight (maxEp : Nat) (descs : List SimpleDesc) (l : EpList) (resp : MatchDescResp) :
    Prop where
  list : ListRight b shortAddress descs resp
  success : resp.status = zbZdpStatusSuccess ↔ resp.matchList ≠ []
  other : resp.status = zbZdpStatusInvRequesttype ↔ asked b shortAddress = false
  none_ : resp.status = zbZdpStatusNoDescriptor ↔
    resp.matchList = [] ∧ asked b shortAddress = true
  counted : resp.matchLen.toNat = resp.matchList.length
  inside : ∀ i ∈ l.written, i < maxEp
  read : l.fresh = []

end Request

/-- A request that has all its clusters, in the buffer. -/
structure MatchRequest extends Body where
  whole : 7 + 2 * numIn toBody + 2 * numOut toBody ≤ len
  inside : begin_ + len ≤ zbIoBufSize

/-! ## One endpoint -/

section One

variable {l : EpList} {endpoint : UInt8} {stale : Nat → UInt8} {E : List UInt8}

theorem epIndex_spec (l : EpList) (endpoint : UInt8) :
    epIndex endpoint l ≤ l.num ∧ (∀ i < epIndex endpoint l, l.slots i < endpoint) ∧
      (epIndex endpoint l < l.num → endpoint ≤ l.slots (epIndex endpoint l)) := by
  rw [epIndex]
  cases place : (List.range l.num).find? fun i => decide (endpoint ≤ l.slots i) with
  | none =>
      rw [Option.getD_none]
      refine ⟨le_refl _, fun i less => ?_, fun less => absurd less (Nat.lt_irrefl _)⟩
      have small := List.find?_range_eq_none.1 place i less
      rw [Bool.not_eq_true', decide_eq_false_iff_not] at small
      exact UInt8.not_le.1 small
  | some index =>
      obtain ⟨here, mem, before⟩ := List.find?_range_eq_some.1 place
      rw [Option.getD_some]
      refine ⟨(List.mem_range.1 mem).le, fun i less => ?_, fun _ => of_decide_eq_true here⟩
      have small := before i less
      rw [Bool.not_eq_true', decide_eq_false_iff_not] at small
      exact UInt8.not_le.1 small

/-- What holds of the list when the endpoints `E` have been put in. -/
structure EpWhole (stale : Nat → UInt8) (E : List UInt8) (l : EpList) : Prop where
  sorted : ∀ i j, i < j → j < l.num → l.slots i < l.slots j
  mine : ∀ i < l.num, l.slots i ∈ E
  behind : ∀ i, l.num ≤ i → l.slots i = stale i
  written : ∀ i, i ∈ l.written ↔ i < l.num
  few : l.num ≤ E.length
  fresh : l.fresh = [] ↔ E = []

theorem epWhole_start (stale : Nat → UInt8) : EpWhole stale [] (.start stale) where
  sorted _ j _ less := absurd less (Nat.not_lt_zero j)
  mine i less := absurd less (Nat.not_lt_zero i)
  behind _ _ := rfl
  written i := iff_of_false List.not_mem_nil (Nat.not_lt_zero i)
  few := le_refl _
  fresh := iff_of_true rfl rfl

/-- The slots that are read before they are written. -/
theorem fresh_addEpSorted :
    (addEpSorted l endpoint).fresh =
      l.fresh ++ (List.range (epIndex endpoint l + 1)).filter fun i => !l.written.contains i := by
  rw [addEpSorted]
  split <;> rfl

/-- The first endpoint is put where nothing has been written. -/
theorem fresh_ne_nil (whole : EpWhole stale E l) : (addEpSorted l endpoint).fresh ≠ [] := by
  rw [fresh_addEpSorted]
  intro none_
  obtain ⟨earlier, here⟩ := List.append_eq_nil_iff.1 none_
  have few := whole.few
  rw [whole.fresh.1 earlier, List.length_nil] at few
  have index := (epIndex_spec l endpoint).1
  rw [show epIndex endpoint l = 0 by omega, List.filter_eq_nil_iff] at here
  apply here 0 (List.mem_range.2 Nat.one_pos)
  rw [Bool.not_eq_true', List.contains_eq_mem, decide_eq_false_iff_not, whole.written]
  omega

section Moved

variable (new : l.slots (epIndex endpoint l) ≠ endpoint)
include new

theorem addEpSorted_new : addEpSorted l endpoint =
    { slots := fun i =>
        if i = epIndex endpoint l then endpoint
        else if epIndex endpoint l < i ∧ i ≤ l.num then l.slots (i - 1)
        else l.slots i
      num := l.num + 1
      written := l.written ++ List.range' (epIndex endpoint l) (l.num + 1 - epIndex endpoint l)
      fresh := (addEpSorted l endpoint).fresh } := by
  rw [fresh_addEpSorted, addEpSorted, if_pos new]

theorem slots_index : (addEpSorted l endpoint).slots (epIndex endpoint l) = endpoint := by
  rw [addEpSorted_new new]
  exact if_pos rfl

theorem slots_before {i : Nat} (before : i < epIndex endpoint l) :
    (addEpSorted l endpoint).slots i = l.slots i := by
  rw [addEpSorted_new new]
  dsimp only
  rw [if_neg (by omega), if_neg (by omega)]

theorem slots_moved {i : Nat} (past : epIndex endpoint l ≤ i) (inside : i < l.num) :
    (addEpSorted l endpoint).slots (i + 1) = l.slots i := by
  rw [addEpSorted_new new]
  dsimp only
  rw [if_neg (by omega), if_pos (by omega), Nat.add_sub_cancel]

theorem slots_behind {i : Nat} (behind : l.num < i) :
    (addEpSorted l endpoint).slots i = l.slots i := by
  have := (epIndex_spec l endpoint).1
  rw [addEpSorted_new new]
  dsimp only
  rw [if_neg (by omega), if_neg (by omega)]

/-- The endpoint is put in: a slot is that of the endpoint, or one of before. -/
theorem slots_cases {i : Nat} (less : i < l.num + 1) :
    (i = epIndex endpoint l ∧ (addEpSorted l endpoint).slots i = endpoint) ∨
      (i < epIndex endpoint l ∧ (addEpSorted l endpoint).slots i = l.slots i) ∨
        ∃ k, i = k + 1 ∧ epIndex endpoint l ≤ k ∧ k < l.num ∧
          (addEpSorted l endpoint).slots i = l.slots k := by
  rcases Nat.lt_trichotomy i (epIndex endpoint l) with before | rfl | past
  · exact .inr (.inl ⟨before, slots_before new before⟩)
  · exact .inl ⟨rfl, slots_index new⟩
  · obtain ⟨k, rfl⟩ := Nat.exists_eq_succ_of_ne_zero (Nat.ne_zero_of_lt past)
    exact .inr (.inr ⟨k, rfl, by omega, by omega, slots_moved new (by omega) (by omega)⟩)

theorem epWhole_new (whole : EpWhole stale E l) :
    EpWhole stale (E ++ [endpoint]) (addEpSorted l endpoint) := by
  obtain ⟨within, before, after⟩ := epIndex_spec l endpoint
  have num : (addEpSorted l endpoint).num = l.num + 1 := by rw [addEpSorted_new new]
  have above : ∀ k, epIndex endpoint l ≤ k → k < l.num → endpoint < l.slots k := by
    intro k past less
    have first : endpoint < l.slots (epIndex endpoint l) :=
      UInt8.lt_of_le_of_ne (after (by omega)) new.symm
    rcases Nat.lt_or_eq_of_le past with later | rfl
    · exact UInt8.lt_trans first (whole.sorted _ _ later less)
    · exact first
  constructor
  · intro i j less inside
    rw [num] at inside
    rcases slots_cases new (show i < l.num + 1 by omega) with
      ⟨rfl, si⟩ | ⟨ib, si⟩ | ⟨p, rfl, pp, pn, si⟩ <;>
    rcases slots_cases new inside with ⟨rfl, sj⟩ | ⟨jb, sj⟩ | ⟨q, rfl, qp, qn, sj⟩ <;>
    first
    | exact absurd less (by omega)
    | rw [si, sj]
    · exact above q qp qn
    · exact before i ib
    · exact whole.sorted i j less (by omega)
    · exact UInt8.lt_trans (before i ib) (above q qp qn)
    · exact whole.sorted p q (by omega) qn
  · intro i less
    rw [num] at less
    rcases slots_cases new less with ⟨-, is⟩ | ⟨earlier, is⟩ | ⟨k, -, -, less', is⟩
    · rw [is]
      exact List.mem_append_right _ (List.mem_singleton_self _)
    · rw [is]
      exact List.mem_append_left _ (whole.mine i (by omega))
    · rw [is]
      exact List.mem_append_left _ (whole.mine k less')
  · intro i past
    rw [num] at past
    rw [slots_behind new (by omega), whole.behind i (by omega)]
  · intro i
    rw [addEpSorted_new new]
    dsimp only
    rw [List.mem_append, whole.written, List.mem_range'_1]
    omega
  · rw [num, List.length_append, List.length_singleton]
    exact Nat.succ_le_succ whole.few
  · exact iff_of_false (fresh_ne_nil whole) (List.append_ne_nil_of_right_ne_nil _ (by simp))

end Moved

/-- **One endpoint**: it is there, or the slot behind the end holds it, or it is put in. -/
theorem addEpSorted_spec (whole : EpWhole stale E l) :
    EpWhole stale (E ++ [endpoint]) (addEpSorted l endpoint) ∧
      ((addEpSorted l endpoint).num = l.num ∧ (addEpSorted l endpoint).slots = l.slots ∧
          ((∃ i < l.num, l.slots i = endpoint) ∨
            (∀ i < l.num, l.slots i < endpoint) ∧ stale l.num = endpoint) ∨
        (addEpSorted l endpoint).num = l.num + 1 ∧
          ∀ ep, (∃ i < l.num + 1, (addEpSorted l endpoint).slots i = ep) ↔
            ep = endpoint ∨ ∃ i < l.num, l.slots i = ep) := by
  obtain ⟨within, before, -⟩ := epIndex_spec l endpoint
  by_cases new : l.slots (epIndex endpoint l) = endpoint
  · have same : addEpSorted l endpoint = { l with fresh := (addEpSorted l endpoint).fresh } := by
      rw [fresh_addEpSorted, addEpSorted, if_neg (not_not.2 new)]
    constructor
    · rw [same]
      exact
        { sorted := whole.sorted
          mine := fun i less => List.mem_append_left _ (whole.mine i less)
          behind := whole.behind
          written := whole.written
          few := whole.few.trans (by rw [List.length_append]; omega)
          fresh := iff_of_false (fresh_ne_nil whole)
            (List.append_ne_nil_of_right_ne_nil _ (by simp)) }
    · refine .inl ⟨by rw [same], by rw [same], ?_⟩
      rcases Nat.lt_or_eq_of_le within with less | last
      · exact .inl ⟨_, less, new⟩
      · rw [last] at new before
        exact .inr ⟨before, (whole.behind _ (le_refl _)).symm.trans new⟩
  · refine ⟨epWhole_new new whole, .inr ⟨by rw [addEpSorted_new new], fun ep => ?_⟩⟩
    constructor
    · rintro ⟨i, less, rfl⟩
      rcases slots_cases new less with ⟨-, is⟩ | ⟨earlier, is⟩ | ⟨k, -, -, less', is⟩
      · exact .inl is
      · exact .inr ⟨i, by omega, is.symm⟩
      · exact .inr ⟨k, less', is.symm⟩
    · rintro (rfl | ⟨i, less, rfl⟩)
      · exact ⟨epIndex ep l, by omega, slots_index new⟩
      · rcases Nat.lt_or_ge i (epIndex endpoint l) with earlier | past
        · exact ⟨i, by omega, slots_before new earlier⟩
        · exact ⟨i + 1, by omega, slots_moved new past less⟩

/-- What the slot behind the end holds already is not put in. -/
theorem addEpSorted_dropped (whole : EpWhole stale E l) (last : ∀ i < l.num, l.slots i < endpoint)
    (there : stale l.num = endpoint) : (addEpSorted l endpoint).num = l.num := by
  obtain ⟨within, -, after⟩ := epIndex_spec l endpoint
  have index : epIndex endpoint l = l.num := by
    by_contra other
    have less : epIndex endpoint l < l.num := by omega
    exact absurd (UInt8.lt_of_le_of_lt (after less) (last _ less)) (UInt8.lt_irrefl _)
  rw [addEpSorted, if_neg]
  rw [index, not_not, whole.behind _ (le_refl _), there]

end One

/-! ## All endpoints -/

section All

variable {stale : Nat → UInt8} {E : List UInt8}

/-- The list that the endpoints leave. -/
def putAll (stale : Nat → UInt8) (E : List UInt8) : EpList := E.foldl addEpSorted (.start stale)

theorem putAll_append (endpoint : UInt8) :
    putAll stale (E ++ [endpoint]) = addEpSorted (putAll stale E) endpoint := by
  rw [putAll, putAll, List.foldl_append, List.foldl_cons, List.foldl_nil]

theorem putAll_whole (stale : Nat → UInt8) (E : List UInt8) : EpWhole stale E (putAll stale E) := by
  induction E using List.reverseRecOn with
  | nil => exact epWhole_start stale
  | append_singleton E endpoint ih =>
      rw [putAll_append]
      exact (addEpSorted_spec ih).1

/-- With other bytes in the slots all endpoints are put in. -/
theorem putAll_all (clean : ∀ i, ∀ endpoint ∈ E, stale i ≠ endpoint) (ep : UInt8) :
    (∃ i < (putAll stale E).num, (putAll stale E).slots i = ep) ↔ ep ∈ E := by
  induction E using List.reverseRecOn with
  | nil => exact iff_of_false (fun ⟨i, less, _⟩ => absurd less (Nat.not_lt_zero i)) List.not_mem_nil
  | append_singleton E endpoint ih =>
      have ih := ih fun i e mem => clean i e (List.mem_append_left _ mem)
      have mine := clean (putAll stale E).num endpoint
        (List.mem_append_right _ (List.mem_singleton_self _))
      rw [putAll_append, List.mem_append, List.mem_singleton]
      rcases (addEpSorted_spec (putAll_whole stale E)).2 with
        ⟨num, slots, ⟨i, less, is⟩ | ⟨-, dropped⟩⟩ | ⟨num, ends⟩
      · rw [num, slots, ih]
        constructor
        · exact .inl
        · rintro (mem | rfl)
          · exact mem
          · exact ih.1 ⟨i, less, is⟩
      · exact absurd dropped mine
      · rw [num, ends, ih]
        exact Or.comm

/-- When all slots hold the greatest endpoint, it is never put in. -/
theorem putAll_greatest {greatest : UInt8} (most : ∀ endpoint ∈ E, endpoint ≤ greatest) :
    ∀ i < (putAll (fun _ => greatest) E).num, (putAll (fun _ => greatest) E).slots i < greatest := by
  induction E using List.reverseRecOn with
  | nil => exact fun i less => absurd less (Nat.not_lt_zero i)
  | append_singleton E endpoint ih =>
      have ih := ih fun e mem => most e (List.mem_append_left _ mem)
      have whole := putAll_whole (fun _ => greatest) E
      rw [putAll_append]
      rcases (@addEpSorted_spec _ endpoint _ _ whole).2 with ⟨num, slots, -⟩ | ⟨num, ends⟩
      · rw [num, slots]
        exact ih
      · intro i less
        rw [num] at less
        rcases (ends _).1 ⟨i, less, rfl⟩ with is | ⟨k, less', is⟩
        · rw [is]
          refine UInt8.lt_of_le_of_ne
            (most endpoint (List.mem_append_right _ (List.mem_singleton_self _))) fun same => ?_
          have dropped := addEpSorted_dropped whole (same ▸ ih) same.symm
          omega
        · rw [← is]
          exact ih k less'

/-- The list is empty iff the first slot holds what is put in. -/
theorem putAll_num_iff : (putAll stale E).num = 0 ↔ ∀ endpoint ∈ E, endpoint = stale 0 := by
  induction E using List.reverseRecOn with
  | nil => exact iff_of_true rfl fun e mem => absurd mem List.not_mem_nil
  | append_singleton E endpoint ih =>
      have whole := putAll_whole stale E
      rw [putAll_append, List.forall_mem_append, List.forall_mem_singleton, ← ih]
      constructor
      · intro none_
        rcases (@addEpSorted_spec _ endpoint _ _ whole).2 with
          ⟨num, -, ⟨i, less, -⟩ | ⟨-, dropped⟩⟩ | ⟨num, -⟩
        · omega
        · have zero : (putAll stale E).num = 0 := by omega
          rw [zero] at dropped
          exact ⟨zero, dropped.symm⟩
        · omega
      · rintro ⟨zero, is⟩
        rw [addEpSorted_dropped whole (by omega) (by rw [zero, is]), zero]

end All

/-! ## What is compared -/

/-- What is compared with in place of the output clusters of a request: the words that stand behind
the first byte of their place in the tail, up to the byte behind the buffer. -/
def tailClusters (b : Body) : List UInt16 :=
  wordsAt (zbIoBufSize - 2 * numOut b + 1) (numOut b) b.mem

/-- There is room in the tail for the indication and for the clusters. -/
def Room (b : Body) : Prop :=
  b.len + b.begin_ + apsdeDataIndicationSize.toNat ≤ zbIoBufSize ∧
    b.len + b.begin_ + 2 * (numIn b + numOut b) ≤ zbIoBufSize

/-- What the handler takes for a descriptor that the request is about. -/
def Hears (b : Body) (desc : SimpleDesc) : Prop :=
  desc.appProfileId = profileId b ∧ sharesOne desc (inClusters b) (tailClusters b) = true

/-- The endpoints that are put into the list. -/
def heard (b : Body) (descs : List SimpleDesc) : List UInt8 :=
  (descs.filter fun desc => desc.appProfileId == profileId b &&
    sharesOne desc (inClusters b) (tailClusters b)).map SimpleDesc.endpoint

section Heard

variable (q : MatchRequest)

/-- **Which clusters are compared.** -/
theorem heard_spec : clusterId q.toBody =
    if q.len + q.begin_ + 2 * (numIn q.toBody + numOut q.toBody) ≤ zbIoBufSize then
      some (inClusters q.toBody, tailClusters q.toBody)
    else none := by
  have whole := q.whole
  have inside := q.inside
  have bufSize : zbIoBufSize = 148 := rfl
  have size : (UInt8.ofNat (2 * (numIn q.toBody + numOut q.toBody))).toNat =
      2 * (numIn q.toBody + numOut q.toBody) := by
    rw [UInt8.toNat_ofNat', Nat.mod_eq_of_lt (by omega)]
  rw [clusterId, zbGetBufTail, size]
  by_cases room : q.len + q.begin_ + 2 * (numIn q.toBody + numOut q.toBody) ≤ zbIoBufSize
  · rw [if_pos room, if_pos room]
    generalize place : zbIoBufSize - 2 * (numIn q.toBody + numOut q.toBody) = tail
    have behind : tail = zbIoBufSize - 2 * numOut q.toBody - 2 * numIn q.toBody := by omega
    -- the first copy is apart from the request, and the second one goes to the left
    have apart : q.begin_ + 6 + 2 * numIn q.toBody ≤ tail := by omega
    have left : tail + 2 * numIn q.toBody ≤ tail + 2 * numIn q.toBody + 1 := Nat.le_succ _
    have first : wordsAt tail (numIn q.toBody)
        (copyClusterId (tail + 2 * numIn q.toBody)
          ((copyClusterId tail (q.begin_ + 6) (numIn q.toBody) q.mem).2 + 1) (numOut q.toBody)
          (copyClusterId tail (q.begin_ + 6) (numIn q.toBody) q.mem).1).1 =
        inClusters q.toBody := by
      rw [inClusters, ← @copyClusterId_words (numIn q.toBody) tail (q.begin_ + 6) q.mem (.inr apart)]
      exact wordsAt_congr (copyClusterId_apart (.inl left) (.inl (le_refl _)))
    have second : wordsAt (tail + 2 * numIn q.toBody) (numOut q.toBody)
        (copyClusterId (tail + 2 * numIn q.toBody)
          ((copyClusterId tail (q.begin_ + 6) (numIn q.toBody) q.mem).2 + 1) (numOut q.toBody)
          (copyClusterId tail (q.begin_ + 6) (numIn q.toBody) q.mem).1).1 =
        tailClusters q.toBody := by
      rw [tailClusters, show zbIoBufSize - 2 * numOut q.toBody + 1 =
        tail + 2 * numIn q.toBody + 1 by omega]
      exact (copyClusterId_words (.inl left)).trans
        (wordsAt_congr (copyClusterId_apart (.inr apart) (.inr (Nat.le_succ _))))
    have both := congrArg₂ Prod.mk first second
    exact congrArg some both
  · rw [if_neg room, if_neg room]
    rfl

theorem listed_eq (descs : List SimpleDesc) (slots : Nat → UInt8) :
    listed q.toBody descs (inClusters q.toBody, tailClusters q.toBody) slots =
      putAll slots (heard q.toBody descs) := by
  rw [listed, putAll, heard, List.foldl_map, List.foldl_filter]

theorem mem_heard {b : Body} {descs : List SimpleDesc} {ep : UInt8} :
    ep ∈ heard b descs ↔ ∃ desc ∈ descs, Hears b desc ∧ desc.endpoint = ep := by
  simp only [heard, Hears, List.mem_map, List.mem_filter, Bool.and_eq_true, beq_iff_eq, and_assoc]

/-- There is at most one endpoint for each descriptor. -/
theorem num_listed (b : Body) (descs : List SimpleDesc) (clusters : List UInt16 × List UInt16)
    (slots : Nat → UInt8) : (listed b descs clusters slots).num ≤ descs.length := by
  have put := (putAll_whole slots ((descs.filter fun desc => desc.appProfileId == profileId b &&
    sharesOne desc clusters.1 clusters.2).map SimpleDesc.endpoint)).few
  rw [putAll, List.foldl_map, List.foldl_filter, List.length_map] at put
  exact put.trans (List.length_filter_le _ _)

end Heard

/-! ## When there is an answer -/

section Made

variable {b : Body} {shortAddress : UInt16} {descs : List SimpleDesc} {slots : Nat → UInt8}

/-- The clusters are copied where the tail has room for their size, in eight bits. -/
theorem clusterId_made : (∃ clusters, clusterId b = some clusters) ↔
    b.len + b.begin_ + 2 * (numIn b + numOut b) % 256 ≤ zbIoBufSize := by
  have size : (UInt8.ofNat (2 * (numIn b + numOut b))).toNat = 2 * (numIn b + numOut b) % 256 :=
    UInt8.toNat_ofNat'
  rw [clusterId, zbGetBufTail, size]
  by_cases room : b.len + b.begin_ + 2 * (numIn b + numOut b) % 256 ≤ zbIoBufSize
  · rw [if_pos room]
    exact iff_of_true ⟨_, rfl⟩ room
  · rw [if_neg room]
    exact iff_of_false (fun none_ => by cases none_.choose_spec) room

theorem num_asked (clusters : List UInt16 × List UInt16) :
    (if asked b shortAddress = true then listed b descs clusters slots else .start slots).num ≤
      descs.length := by
  split
  · exact num_listed b descs clusters slots
  · exact Nat.zero_le _

/-- The list has at most one endpoint for each descriptor. -/
theorem num_made {l : EpList} {resp : MatchDescResp}
    (made : zdoMatchDescRes b shortAddress descs slots = some (l, resp)) :
    l.num ≤ descs.length := by
  obtain ⟨_, -, rest⟩ := Option.bind_eq_some_iff.1 made
  obtain ⟨clusters, -, rest⟩ := Option.bind_eq_some_iff.1 rest
  have num := @num_asked b shortAddress descs slots clusters
  dsimp only at rest
  generalize (if asked b shortAddress = true then listed b descs clusters slots
    else .start slots) = l' at rest num
  by_cases fits : (UInt8.ofNat (matchDescRespSize + l'.num)).toNat < zbIoBufSize
  · rw [if_pos fits] at rest
    cases rest
    exact num
  · rw [if_neg fits] at rest
    cases rest

/-- **When a request is answered**, whatever bytes it has. -/
theorem match_made (few : matchDescRespSize + descs.length < zbIoBufSize) :
    (∃ made, zdoMatchDescRes b shortAddress descs slots = some made) ↔
      b.len + b.begin_ + apsdeDataIndicationSize.toNat ≤ zbIoBufSize ∧
        b.len + b.begin_ + 2 * (numIn b + numOut b) % 256 ≤ zbIoBufSize := by
  have bufSize : zbIoBufSize = 148 := rfl
  rw [← clusterId_made, zdoMatchDescRes, zbGetBufTail]
  by_cases room : b.len + b.begin_ + apsdeDataIndicationSize.toNat ≤ zbIoBufSize
  swap
  · rw [if_neg room]
    exact iff_of_false (fun none_ => by cases none_.choose_spec) fun both => room both.1
  rw [if_pos room, and_iff_right room]
  simp only [Option.bind_eq_bind, Option.bind_some]
  cases clusterId b with
  | none => exact iff_of_false (fun none_ => by cases none_.choose_spec) nofun
  | some clusters =>
      refine iff_of_true ?_ ⟨clusters, rfl⟩
      have num := @num_asked b shortAddress descs slots clusters
      rw [Option.bind_some]
      generalize (if asked b shortAddress = true then listed b descs clusters slots
        else .start slots) = l at num ⊢
      have size : (UInt8.ofNat (matchDescRespSize + l.num)).toNat = matchDescRespSize + l.num := by
        rw [UInt8.toNat_ofNat', Nat.mod_eq_of_lt (by omega)]
      exact ⟨_, if_pos (by omega)⟩

end Made

/-! ## The answer -/

section Answer

variable (q : MatchRequest) (shortAddress : UInt16) (descs : List SimpleDesc) (slots : Nat → UInt8)

/-- The list of a request that is asked of this device, or an empty one. -/
def left : EpList :=
  if asked q.toBody shortAddress then putAll slots (heard q.toBody descs) else .start slots

/-- The response that is made of a list. -/
def responseOf (l : EpList) : MatchDescResp where
  status := if l.num ≠ 0 then zbZdpStatusSuccess else zbZdpStatusNoDescriptor
  nwkAddr := nwkAddr q.toBody
  matchLen := UInt8.ofNat l.num
  matchList := l.endpoints

/-- **What the handler makes.** -/
theorem zdoMatchDescRes_some {l : EpList} {resp : MatchDescResp} :
    zdoMatchDescRes q.toBody shortAddress descs slots = some (l, resp) ↔
      Room q.toBody ∧
        (UInt8.ofNat (matchDescRespSize + (left q shortAddress descs slots).num)).toNat <
          zbIoBufSize ∧
        l = left q shortAddress descs slots ∧ resp = responseOf q l := by
  rw [zdoMatchDescRes, heard_spec, zbGetBufTail, Room]
  by_cases first : q.len + q.begin_ + apsdeDataIndicationSize.toNat ≤ zbIoBufSize
  · by_cases second : q.len + q.begin_ + 2 * (numIn q.toBody + numOut q.toBody) ≤ zbIoBufSize
    · simp only [if_pos first, if_pos second, Option.bind_eq_bind, Option.bind_some, listed_eq]
      rw [← left]
      by_cases fits : (UInt8.ofNat (matchDescRespSize +
          (left q shortAddress descs slots).num)).toNat < zbIoBufSize
      · rw [if_pos fits]
        simp only [first, second, fits, and_self, true_and]
        constructor
        · intro made
          cases made
          exact ⟨rfl, rfl⟩
        · rintro ⟨rfl, rfl⟩
          rfl
      · rw [if_neg fits]
        exact iff_of_false (fun not => by cases not) fun all => fits all.2.1
    · rw [if_neg second, if_pos first]
      exact iff_of_false (fun not => by cases not) fun all => second all.1.2
  · rw [if_neg first]
    exact iff_of_false (fun not => by cases not) fun all => first all.1.1

theorem length_endpoints (l : EpList) : l.endpoints.length = l.num := length_cellsAt

theorem mem_endpoints {l : EpList} {ep : UInt8} :
    ep ∈ l.endpoints ↔ ∃ i < l.num, l.slots i = ep := by
  simp only [EpList.endpoints, cellsAt, List.mem_map, List.mem_range, Nat.zero_add]

theorem left_whole :
    EpWhole slots (if asked q.toBody shortAddress then heard q.toBody descs else [])
      (left q shortAddress descs slots) := by
  rw [left]
  cases asked q.toBody shortAddress with
  | true => exact putAll_whole slots _
  | false => exact epWhole_start slots

theorem left_sorted : (left q shortAddress descs slots).endpoints.Pairwise (· < ·) := by
  have whole := left_whole q shortAddress descs slots
  rw [EpList.endpoints, cellsAt, List.pairwise_map]
  refine List.Pairwise.imp_of_mem ?_ List.pairwise_lt_range
  intro i j _ inside less
  rw [Nat.zero_add, Nat.zero_add]
  exact whole.sorted i j less (List.mem_range.1 inside)

/-- **Which requests are answered as they should be**: none that an endpoint is found for. -/
theorem match_right_iff (maxEp : Nat) :
    (∃ l resp, zdoMatchDescRes q.toBody shortAddress descs slots = some (l, resp) ∧
        MatchRight q.toBody shortAddress maxEp descs l resp) ↔
      Room q.toBody ∧ asked q.toBody shortAddress = true ∧
        ∀ desc ∈ descs, ¬ Matches q.toBody desc ∧ ¬ Hears q.toBody desc := by
  have whole := left_whole q shortAddress descs slots
  constructor
  · rintro ⟨l, resp, made, right⟩
    obtain ⟨room, -, rfl, rfl⟩ := (zdoMatchDescRes_some q shortAddress descs slots).1 made
    have wanted : asked q.toBody shortAddress = true := by
      by_contra other
      have status := right.other.2 (Bool.eq_false_iff.2 other)
      revert status
      rw [responseOf]
      dsimp only
      split <;> decide
    have none_ : heard q.toBody descs = [] := by
      have fresh := whole.fresh.1 right.read
      rwa [wanted, if_pos rfl] at fresh
    have empty : (responseOf q (left q shortAddress descs slots)).matchList = [] := by
      have few := whole.few
      rw [wanted, if_pos rfl, none_, List.length_nil] at few
      apply List.eq_nil_of_length_eq_zero
      exact (length_endpoints _).trans (by omega)
    refine ⟨room, wanted, fun desc mem => ⟨fun found => ?_, fun found => ?_⟩⟩
    · have listed := (right.list.exactly desc.endpoint).2 ⟨wanted, desc, mem, found, rfl⟩
      rw [empty] at listed
      cases listed
    · have put := mem_heard.2 ⟨desc, mem, found, rfl⟩
      rw [none_] at put
      cases put
  · rintro ⟨room, wanted, silent⟩
    have none_ : heard q.toBody descs = [] := by
      apply List.eq_nil_iff_forall_not_mem.2
      intro ep mem
      obtain ⟨desc, mem, found, -⟩ := mem_heard.1 mem
      exact (silent desc mem).2 found
    have start : left q shortAddress descs slots = .start slots := by
      rw [left, wanted, if_pos rfl, none_]
      rfl
    have num : (EpList.start slots).num = 0 := rfl
    have status : (responseOf q (.start slots)).status = zbZdpStatusNoDescriptor := rfl
    have matchList : (responseOf q (.start slots)).matchList = [] := rfl
    refine ⟨.start slots, responseOf q (.start slots), ?_, ?_⟩
    · rw [zdoMatchDescRes_some, start, num]
      exact ⟨room, by decide, rfl, rfl⟩
    · exact
        { list :=
            { sorted := .nil
              exactly := fun ep => iff_of_false List.not_mem_nil fun ⟨_, desc, mem, found, _⟩ =>
                (silent desc mem).1 found }
          success := iff_of_false (by rw [status]; decide) (not_not.2 matchList)
          other := iff_of_false (by rw [status]; decide) (by rw [wanted]; decide)
          none_ := iff_of_true status ⟨matchList, wanted⟩
          counted := rfl
          inside := fun i mem => absurd mem List.not_mem_nil
          read := rfl }

theorem length_found :
    (if asked q.toBody shortAddress then heard q.toBody descs else []).length ≤ descs.length := by
  split
  · rw [heard, List.length_map]
    exact List.length_filter_le _ _
  · exact Nat.zero_le _

/-- The response to few descriptors fits. -/
theorem left_fits (few : matchDescRespSize + descs.length < zbIoBufSize) :
    (UInt8.ofNat (matchDescRespSize + (left q shortAddress descs slots).num)).toNat <
      zbIoBufSize := by
  have num := (left_whole q shortAddress descs slots).few
  have found := length_found q shortAddress descs
  have bufSize : zbIoBufSize = 148 := rfl
  rw [UInt8.toNat_ofNat', Nat.mod_eq_of_lt (by omega)]
  omega

/-- **Which lists are right**, when the slots hold no endpoint before. -/
theorem list_right_iff (few : matchDescRespSize + descs.length < zbIoBufSize)
    (room : Room q.toBody) (clean : ∀ i, ∀ desc ∈ descs, slots i ≠ desc.endpoint) :
    (∃ l resp, zdoMatchDescRes q.toBody shortAddress descs slots = some (l, resp) ∧
        ListRight q.toBody shortAddress descs resp) ↔
      asked q.toBody shortAddress = false ∨
        ∀ ep, (∃ desc ∈ descs, Hears q.toBody desc ∧ desc.endpoint = ep) ↔
          ∃ desc ∈ descs, Matches q.toBody desc ∧ desc.endpoint = ep := by
  have fits := left_fits q shortAddress descs slots few
  have made := (zdoMatchDescRes_some q shortAddress descs slots).2 ⟨room, fits, rfl, rfl⟩
  have exactly_iff : (∃ l resp,
        zdoMatchDescRes q.toBody shortAddress descs slots = some (l, resp) ∧
          ListRight q.toBody shortAddress descs resp) ↔
      ∀ ep, ep ∈ (left q shortAddress descs slots).endpoints ↔ asked q.toBody shortAddress = true ∧
        ∃ desc ∈ descs, Matches q.toBody desc ∧ desc.endpoint = ep := by
    constructor
    · rintro ⟨l, resp, made', right⟩
      cases made.symm.trans made'
      exact right.exactly
    · intro right
      exact ⟨_, _, made, left_sorted q shortAddress descs slots, right⟩
  rw [exactly_iff]
  cases wanted : asked q.toBody shortAddress with
  | false =>
      rw [left, wanted]
      exact iff_of_true (fun ep => iff_of_false List.not_mem_nil fun not => by cases not.1) (.inl rfl)
  | true =>
      rw [left, wanted, if_pos rfl]
      have clear : ∀ i, ∀ e ∈ heard q.toBody descs, slots i ≠ e := by
        intro i e mem
        obtain ⟨desc, listed, -, rfl⟩ := mem_heard.1 mem
        exact clean i desc listed
      have all := putAll_all clear
      simp only [mem_endpoints, all, mem_heard, true_and]
      constructor
      · exact .inr
      · rintro (not | same)
        · cases not
        · exact same

/-- **No list is right for sure**: where an endpoint is found, the slots can hold bytes with which
one is missing. -/
theorem endpoint_missing (wanted : asked q.toBody shortAddress = true)
    (found : heard q.toBody descs ≠ []) :
    ∃ slots, ∀ l resp, zdoMatchDescRes q.toBody shortAddress descs slots = some (l, resp) →
      ∃ ep ∈ heard q.toBody descs, ep ∉ resp.matchList := by
  obtain ⟨greatest, mem, most⟩ : ∃ e ∈ heard q.toBody descs, ∀ e' ∈ heard q.toBody descs, e' ≤ e := by
    generalize heard q.toBody descs = E at found
    induction E with
    | nil => exact absurd rfl found
    | cons e E ih =>
        cases E with
        | nil => exact ⟨e, List.mem_cons_self, by simp⟩
        | cons e' E =>
            obtain ⟨m, mem, most⟩ := ih (List.cons_ne_nil _ _)
            rcases UInt8.le_total e m with less | more
            · exact ⟨m, List.mem_cons_of_mem _ mem, List.forall_mem_cons.2 ⟨less, most⟩⟩
            · exact ⟨e, List.mem_cons_self, List.forall_mem_cons.2
                ⟨UInt8.le_refl _, fun x mem => UInt8.le_trans (most x mem) more⟩⟩
  refine ⟨fun _ => greatest, fun l resp made => ⟨greatest, mem, ?_⟩⟩
  obtain ⟨-, -, rfl, rfl⟩ := (zdoMatchDescRes_some q shortAddress descs _).1 made
  rw [responseOf, left, wanted, if_pos rfl, mem_endpoints]
  rintro ⟨i, less, is⟩
  have small := putAll_greatest most i less
  rw [is] at small
  exact UInt8.lt_irrefl _ small

end Answer

/-- **Matches.**  The slots that are written are always those of the list. -/
theorem match_desc_iff {maxEp : Nat} (q : MatchRequest) (shortAddress : UInt16)
    (descs : DescList maxEp) (slots : Nat → UInt8) :
    ((∃ l resp, zdoMatchDescRes q.toBody shortAddress descs.list slots = some (l, resp) ∧
        MatchRight q.toBody shortAddress maxEp descs.list l resp) ↔
      Room q.toBody ∧ asked q.toBody shortAddress = true ∧
        ∀ desc ∈ descs.list, ¬ Matches q.toBody desc ∧ ¬ Hears q.toBody desc) ∧
    (∀ l resp, zdoMatchDescRes q.toBody shortAddress descs.list slots = some (l, resp) →
      ∀ i ∈ l.written, i < maxEp) ∧
    (matchDescRespSize + maxEp < zbIoBufSize → Room q.toBody →
      (∀ i, ∀ desc ∈ descs.list, slots i ≠ desc.endpoint) →
      ((∃ l resp, zdoMatchDescRes q.toBody shortAddress descs.list slots = some (l, resp) ∧
          ListRight q.toBody shortAddress descs.list resp) ↔
        asked q.toBody shortAddress = false ∨
          ∀ ep, (∃ desc ∈ descs.list, Hears q.toBody desc ∧ desc.endpoint = ep) ↔
            ∃ desc ∈ descs.list, Matches q.toBody desc ∧ desc.endpoint = ep)) := by
  have fewer := descs.few
  refine ⟨match_right_iff q shortAddress descs.list slots maxEp, ?_, fun few room clean =>
    list_right_iff q shortAddress descs.list slots (by omega) room clean⟩
  intro l resp made i mem
  obtain ⟨-, -, rfl, -⟩ := (zdoMatchDescRes_some q shortAddress descs.list slots).1 made
  have whole := left_whole q shortAddress descs.list slots
  have less := (whole.written i).1 mem
  have few := whole.few
  have found := length_found q shortAddress descs.list
  omega

/-! ## Poles -/

/-- A request for an output cluster 8, with nothing but zeros around it. -/
def outputRequest : MatchRequest where
  mem a := if 60 ≤ a then [5, 1, 0, 4, 1, 0, 1, 8, 0].getD (a - 60) 0 else 0
  begin_ := 60
  len := 9
  whole := by decide
  inside := by decide

/-- A device with this output cluster. -/
def outputDesc : DescList 1 := ⟨[⟨1, 0x0104, [6], [8]⟩], le_refl 1⟩

/-- The endpoint is not found, and the answer is that there is none. -/
theorem outputs_unheard :
    (zdoMatchDescRes outputRequest.toBody 1 outputDesc.list fun _ => 0).map
        (fun made => (made.2.status, made.2.matchList)) = some (zbZdpStatusNoDescriptor, []) ∧
      (∀ desc ∈ outputDesc.list, Matches outputRequest.toBody desc) ∧
      ¬ ∃ l resp, zdoMatchDescRes outputRequest.toBody 1 outputDesc.list (fun _ => 0) =
          some (l, resp) ∧ MatchRight outputRequest.toBody 1 1 outputDesc.list l resp := by
  have found : ∀ desc ∈ outputDesc.list, Matches outputRequest.toBody desc :=
    List.forall_mem_singleton.2 ⟨by decide +kernel, by decide +kernel⟩
  refine ⟨by decide +kernel, found, fun right => ?_⟩
  have silent := ((match_right_iff outputRequest 1 outputDesc.list _ 1).1 right).2.2
  exact (silent _ (List.mem_singleton_self _)).1 (found _ (List.mem_singleton_self _))

end Zboss.Zdo.MatchDesc
