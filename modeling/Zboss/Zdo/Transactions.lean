/-
# Zdo.Transactions -- requests and the callbacks that wait for their responses

A request is sent with the next transaction number; its callback goes to a table that is probed
from a hash of the number, with the number of responses it is to get (`register_zdo_cb`).  A
response runs the callback that the table has for its number (`zdo_af_resp`).  An entry that
waits is never aged.

The callback of a system server discovery is not in the table.  There is one place for it
beside the number of the request, a second request takes that place, and nothing clears it: every
response with the number runs what is there.  So a run has to remember whether the last discovery
had its response (`ZdoHistory`).

`Outstanding` says what this is for: to each number belongs the last request that was sent with
it, and the callback of that one gets so many responses.

* `request_follows`, `response_follows`: what one call does to the table;
* `Fits`: the condition, that no request waits with the number to be used, that the callback
  can be registered, for a response at least, and that a discovery is answered once, before the next;
* `answers_of_run`: in every run of requests that fit, each response runs what it should.

Pole: `callback_dropped`, a request that is sent although the table is full.
-/
import Mathlib
import Zboss.Common.Constants
import Zboss.Theory.Run
import Zboss.Theory.Probe
import Zboss.Common.Address

namespace Zboss.Zdo.Transactions

open Zboss.Common.Constants
open Zboss.Theory.Run
open Zboss.Theory.Probe
open Zboss.Common.Address (zbHashFuncStep)

set_option autoImplicit false

/-! ## The table -/

/-- A `zb_callback_t` that is not `NULL`. -/
abbrev ZbCallback := UInt32

/-- `zdo_cb_hash_ent_t`; without a function it is free. -/
structure ZdoCbHashEnt where
  func : Option ZbCallback
  tsn : UInt8
  respCounter : UInt8
  deriving DecidableEq

structure ZdoCtx where
  tsn : UInt8
  systemServerDiscoveryTsn : UInt8
  systemServerDiscoveryCb : Option ZbCallback
  zdoCb : Nat → ZdoCbHashEnt

def ZdoCtx.init : ZdoCtx := ⟨0, 0, none, fun _ => ⟨none, 0, 0⟩⟩

/-- `ZB_TSN_HASH` -/
def zbTsnHash (tsn : UInt8) : Nat :=
  (zbHashFuncStep 5381 tsn.toUInt32 &&& 0x7FFFFFFF).toNat % zdoTranTableSize

def ZdoCbHashEnt.waitsFor (tsn : UInt8) (ent : ZdoCbHashEnt) : Bool := ent.tsn == tsn && ent.func.isSome

/-- Without a callback there is nothing to register; without a free slot it is dropped. -/
def registerZdoCb (tsn : UInt8) (cb : Option ZbCallback) (respCounter : UInt8) (s : ZdoCtx) : ZdoCtx :=
  if cb.isSome then
    match probe (fun i => (s.zdoCb i).func.isNone) (zbTsnHash tsn) zdoTranTableSize with
    | some i => { s with zdoCb := Function.update s.zdoCb i ⟨cb, tsn, respCounter⟩ }
    | none => s
  else s

/-- The entry that a response finds. -/
def findZdoCb (tsn : UInt8) (s : ZdoCtx) : Option Nat :=
  probe (fun i => (s.zdoCb i).waitsFor tsn) (zbTsnHash tsn) zdoTranTableSize

/-- A response; the function that is scheduled, `none` for `RET_NOT_FOUND`. -/
def zdoAfResp (tsn : UInt8) (s : ZdoCtx) : ZdoCtx × Option ZbCallback :=
  match findZdoCb tsn s with
  | some i =>
      let ent := s.zdoCb i
      let respCounter := ent.respCounter - 1
      ({ s with
        zdoCb := Function.update s.zdoCb i
          { ent with respCounter, func := if respCounter = 0 then none else ent.func } },
        ent.func)
  | none => (s, none)

/-- What is given a transaction number, and the responses. -/
inductive ZdoEvent where
  /-- `zdo_send_req` -/
  | sendReq (clusterid : UInt16) (cb : Option ZbCallback) (respCounter : UInt8)
  /-- `zdo_mgmt_leave_cli` with room in its list: the response comes from this device. -/
  | mgmtLeaveCli (cb : Option ZbCallback)
  /-- `zdo_send_device_annce` -/
  | sendDeviceAnnce
  /-- `zb_zdo_system_server_discovery_req` -/
  | systemServerDiscoveryReq (cb : Option ZbCallback)
  /-- `zdo_af_resp` with this number, also for a request that was not acknowledged. -/
  | afResp (tsn : UInt8)
  /-- A system server discovery response in `zb_zdo_data_indication`, which asks no table. -/
  | systemServerDiscoveryResp (tsn : UInt8)
  deriving DecidableEq

/-- The number of a request is taken, and its callback registered. -/
def request (cb : Option ZbCallback) (respCounter : UInt8) (s : ZdoCtx) : ZdoCtx :=
  let s := { s with tsn := s.tsn + 1 }
  registerZdoCb s.tsn cb respCounter s

/-- `zdo_send_req`; the request is sent in any case. -/
def zdoSendReq (clusterid : UInt16) (cb : Option ZbCallback) (respCounter : UInt8) (s : ZdoCtx) :
    ZdoCtx :=
  let sent := request cb respCounter s
  if clusterid = zdoSystemServerDiscoveryReqClid then { sent with systemServerDiscoveryTsn := sent.tsn }
  else sent

/-- `zb_zdo_system_server_discovery_req`: its callback is not registered. -/
def systemServerDiscoveryReq (cb : Option ZbCallback) (s : ZdoCtx) : ZdoCtx :=
  zdoSendReq zdoSystemServerDiscoveryReqClid none 1 { s with systemServerDiscoveryCb := cb }

/-- The function that a response with the number of the last discovery has scheduled. -/
def systemServerDiscoveryResp (tsn : UInt8) (s : ZdoCtx) : Option ZbCallback :=
  if tsn = s.systemServerDiscoveryTsn then s.systemServerDiscoveryCb else none

/-- A run stops where `NULL` is scheduled, to be called. -/
def zdoStep (s : ZdoCtx) : ZdoEvent → Option ZdoCtx
  | .sendReq clusterid cb respCounter => some (zdoSendReq clusterid cb respCounter s)
  | .mgmtLeaveCli cb => some (request cb 1 s)
  | .sendDeviceAnnce => some { s with tsn := s.tsn + 1 }
  | .systemServerDiscoveryReq cb => some (systemServerDiscoveryReq cb s)
  | .afResp tsn => some (zdoAfResp tsn s).1
  | .systemServerDiscoveryResp tsn =>
      if tsn = s.systemServerDiscoveryTsn ∧ s.systemServerDiscoveryCb = none then none else some s

/-- The responses, each with the callback it runs. -/
def invoked (s : ZdoCtx) : ZdoEvent → List (UInt8 × Option ZbCallback)
  | .afResp tsn => [(tsn, (zdoAfResp tsn s).2)]
  | .systemServerDiscoveryResp tsn => [(tsn, systemServerDiscoveryResp tsn s)]
  | _ => []

/-! ## What was asked -/

/-- What the device has, and whether the callback of the last discovery is still to run: it had no
response, and its number was not used again. -/
structure ZdoHistory where
  ctx : ZdoCtx
  awaited : Bool

def ZdoHistory.init : ZdoHistory := ⟨ZdoCtx.init, false⟩

/-- The last discovery keeps its number when a request takes the next one. -/
def ZdoHistory.keepsNumber (h : ZdoHistory) : Bool := h.ctx.tsn + 1 != h.ctx.systemServerDiscoveryTsn

def awaitedAfter (h : ZdoHistory) : ZdoEvent → Bool
  | .sendReq clusterid _ _ =>
      h.awaited && (h.keepsNumber && clusterid != zdoSystemServerDiscoveryReqClid)
  | .mgmtLeaveCli _ | .sendDeviceAnnce => h.awaited && h.keepsNumber
  | .systemServerDiscoveryReq cb => cb.isSome
  | .afResp _ => h.awaited
  | .systemServerDiscoveryResp tsn => h.awaited && tsn != h.ctx.systemServerDiscoveryTsn

def historyStep (h : ZdoHistory) (event : ZdoEvent) : Option ZdoHistory :=
  (zdoStep h.ctx event).map fun ctx => ⟨ctx, awaitedAfter h event⟩

/-! ## What it is for -/

/-- The last number that was used, and the callback of the last request with a number, with the
responses it is still to get. -/
structure Outstanding where
  tsn : UInt8
  due : UInt8 → Option (ZbCallback × Nat)

def Outstanding.init : Outstanding := ⟨0, fun _ => none⟩

/-- A request takes the place of the one that had its number before. -/
def Outstanding.request (cb : Option ZbCallback) (responses : Nat) (a : Outstanding) : Outstanding where
  tsn := a.tsn + 1
  due := Function.update a.due (a.tsn + 1)
    (cb.bind fun cb => if responses = 0 then none else some (cb, responses))

def Outstanding.response (tsn : UInt8) (a : Outstanding) : Outstanding :=
  { a with
    due := Function.update a.due tsn
      ((a.due tsn).bind fun (cb, responses) => if responses ≤ 1 then none else some (cb, responses - 1)) }

def Outstanding.step (a : Outstanding) : ZdoEvent → Option Outstanding
  | .sendReq _ cb respCounter => some (a.request cb respCounter.toNat)
  | .mgmtLeaveCli cb => some (a.request cb 1)
  | .sendDeviceAnnce => some (a.request none 0)
  | .systemServerDiscoveryReq cb => some (a.request cb 1)
  | .afResp tsn | .systemServerDiscoveryResp tsn => some (a.response tsn)

/-- The callback that each response should run. -/
def Outstanding.owed (a : Outstanding) : ZdoEvent → List (UInt8 × Option ZbCallback)
  | .afResp tsn | .systemServerDiscoveryResp tsn => [(tsn, (a.due tsn).map Prod.fst)]
  | _ => []

/-- The callback that a request comes with, and the responses it is to get. -/
def asks : ZdoEvent → Option (ZbCallback × Nat)
  | .sendReq _ cb respCounter => cb.map fun cb => (cb, respCounter.toNat)
  | .mgmtLeaveCli cb | .systemServerDiscoveryReq cb => cb.map fun cb => (cb, 1)
  | _ => none

/-! ## The condition -/

/-- A request can be made: nothing waits with its number, and there is a free slot for its callback,
if it has one, which is to get a response at least. -/
structure RequestFits (cb : Option ZbCallback) (respCounter : UInt8) (s : ZdoCtx) : Prop where
  answered : ∀ i < zdoTranTableSize, (s.zdoCb i).waitsFor (s.tsn + 1) = false
  room : cb.isSome = true → ∃ i < zdoTranTableSize, (s.zdoCb i).func = none
  awaits : cb.isSome = true → respCounter ≠ 0

/-- A discovery takes the place of the one before: that one had its response, or loses its number
as well. -/
def Overtakes (h : ZdoHistory) : Prop := h.awaited = true → h.keepsNumber = false

/-- A discovery is answered once, by a discovery response, and nothing else by such a response. -/
def Fits (h : ZdoHistory) : ZdoEvent → Prop
  | .sendReq clusterid cb respCounter =>
      RequestFits cb respCounter h.ctx ∧ (clusterid = zdoSystemServerDiscoveryReqClid → Overtakes h)
  | .mgmtLeaveCli cb => RequestFits cb 1 h.ctx
  | .sendDeviceAnnce => RequestFits none 0 h.ctx
  | .systemServerDiscoveryReq _ => RequestFits none 1 h.ctx ∧ Overtakes h
  | .afResp tsn => h.awaited = true → tsn ≠ h.ctx.systemServerDiscoveryTsn
  | .systemServerDiscoveryResp tsn =>
      if tsn = h.ctx.systemServerDiscoveryTsn then h.awaited = true
      else ∀ i < zdoTranTableSize, (h.ctx.zdoCb i).waitsFor tsn = false

/-! ## The two together -/

/-- What the table has for a number. -/
def dueOf (s : ZdoCtx) (tsn : UInt8) : Option (ZbCallback × Nat) :=
  (findZdoCb tsn s).bind fun i => (s.zdoCb i).func.map fun cb => (cb, (s.zdoCb i).respCounter.toNat)

/-- No two entries wait with one number, and each is to get a response. -/
structure Tidy (s : ZdoCtx) : Prop where
  unique : ∀ tsn, ∀ i < zdoTranTableSize, ∀ j < zdoTranTableSize,
    (s.zdoCb i).waitsFor tsn = true → (s.zdoCb j).waitsFor tsn = true → i = j
  awaits : ∀ i < zdoTranTableSize, (s.zdoCb i).func.isSome = true → (s.zdoCb i).respCounter ≠ 0

/-- What the device has for a number: that of the last discovery comes first. -/
def dueAt (h : ZdoHistory) (tsn : UInt8) : Option (ZbCallback × Nat) :=
  if h.awaited = true ∧ tsn = h.ctx.systemServerDiscoveryTsn then
    h.ctx.systemServerDiscoveryCb.map fun cb => (cb, 1)
  else dueOf h.ctx tsn

/-- A callback that a request is sent with is registered, and not dropped. -/
def Registers (h : ZdoHistory) (event : ZdoEvent) : Prop :=
  ∀ due ∈ asks event, ∀ t, historyStep h event = some t → dueAt t (h.ctx.tsn + 1) = some due

/-- The table has what is due. -/
structure Follows (s : ZdoCtx) (a : Outstanding) : Prop where
  tidy : Tidy s
  tsn : s.tsn = a.tsn
  due : ∀ tsn, dueOf s tsn = a.due tsn

/-- What is due from the table: all but what is due to the last discovery. -/
def Outstanding.inTable (h : ZdoHistory) (a : Outstanding) : Outstanding :=
  if h.awaited = true then { a with due := Function.update a.due h.ctx.systemServerDiscoveryTsn none }
  else a

/-- The device has what is due, in its two places. -/
structure FollowsAll (h : ZdoHistory) (a : Outstanding) : Prop where
  table : Follows h.ctx (a.inTable h)
  discovery : h.awaited = true → ∃ func, h.ctx.systemServerDiscoveryCb = some func ∧
    a.due h.ctx.systemServerDiscoveryTsn = some (func, 1)

section Steps

variable {s : ZdoCtx} {a : Outstanding} {tsn other : UInt8} {ent : ZdoCbHashEnt} {i : Nat}
  {cb : Option ZbCallback} {respCounter : UInt8}

theorem waitsFor_iff : ent.waitsFor tsn = true ↔ ent.tsn = tsn ∧ ent.func.isSome = true := by
  rw [ZdoCbHashEnt.waitsFor, Bool.and_eq_true, beq_iff_eq]

/-- **The entry that waits is found**, wherever the search began. -/
theorem findZdoCb_iff (tidy : Tidy s) :
    findZdoCb tsn s = some i ↔ i < zdoTranTableSize ∧ (s.zdoCb i).waitsFor tsn = true :=
  probe_iff (tidy.unique tsn)

theorem findZdoCb_none :
    findZdoCb tsn s = none ↔ ∀ i < zdoTranTableSize, (s.zdoCb i).waitsFor tsn = false :=
  probe_eq_none

theorem dueOf_found (found : findZdoCb tsn s = some i) :
    dueOf s tsn = (s.zdoCb i).func.map fun cb => (cb, (s.zdoCb i).respCounter.toNat) := by
  rw [dueOf, found]
  rfl

theorem dueOf_none (none_ : ∀ i < zdoTranTableSize, (s.zdoCb i).waitsFor tsn = false) :
    dueOf s tsn = none := by
  rw [dueOf, findZdoCb_none.2 none_]
  rfl

/-- Only the table counts. -/
theorem dueOf_congr {t : ZdoCtx} (same : t.zdoCb = s.zdoCb) : dueOf t tsn = dueOf s tsn := by
  rw [dueOf, dueOf, findZdoCb, findZdoCb, same]

theorem Tidy.congr {t : ZdoCtx} (tidy : Tidy s) (same : t.zdoCb = s.zdoCb) : Tidy t := by
  constructor
  · rw [same]
    exact tidy.unique
  · rw [same]
    exact tidy.awaits

theorem Follows.congr {t : ZdoCtx} (follows : Follows s a) (same : t.zdoCb = s.zdoCb)
    (tsn : t.tsn = s.tsn) : Follows t a :=
  ⟨follows.tidy.congr same, tsn.trans follows.tsn, fun n => (dueOf_congr same).trans (follows.due n)⟩

/-- **The entry of another number is written**: what is due for this one stays. -/
theorem dueOf_update (was : (s.zdoCb i).waitsFor tsn = false) (is : ent.waitsFor tsn = false) :
    dueOf { s with zdoCb := Function.update s.zdoCb i ent } tsn = dueOf s tsn := by
  have same : ∀ j, (Function.update s.zdoCb i ent j).waitsFor tsn = (s.zdoCb j).waitsFor tsn := by
    intro j
    by_cases here : j = i
    · rw [here, Function.update_self, was, is]
    · rw [Function.update_of_ne here]
  have found : findZdoCb tsn { s with zdoCb := Function.update s.zdoCb i ent } = findZdoCb tsn s := by
    rw [findZdoCb, findZdoCb]
    exact congrArg (fun cond => probe cond _ _) (funext same)
  rw [dueOf, dueOf, found]
  cases at_ : findZdoCb tsn s with
  | none => rfl
  | some j =>
      have apart : j ≠ i := by
        rintro rfl
        rw [(probe_some at_).2] at was
        cases was
      dsimp only [Option.bind_some]
      rw [Function.update_of_ne apart]

/-- An entry is written that waits with a number of its own, or with none. -/
theorem Tidy.write (tidy : Tidy s)
    (own : ∀ tsn, ent.waitsFor tsn = true →
      ∀ j < zdoTranTableSize, (s.zdoCb j).waitsFor tsn = true → j = i)
    (awaits : ent.func.isSome = true → ent.respCounter ≠ 0) :
    Tidy { s with zdoCb := Function.update s.zdoCb i ent } := by
  constructor
  · intro tsn j insideJ k insideK waitsJ waitsK
    dsimp only at waitsJ waitsK
    by_cases atJ : j = i
    · by_cases atK : k = i
      · rw [atJ, atK]
      · rw [atJ, Function.update_self] at waitsJ
        rw [Function.update_of_ne atK] at waitsK
        exact absurd (own tsn waitsJ k insideK waitsK) atK
    · rw [Function.update_of_ne atJ] at waitsJ
      by_cases atK : k = i
      · rw [atK, Function.update_self] at waitsK
        exact absurd (own tsn waitsK j insideJ waitsJ) atJ
      · rw [Function.update_of_ne atK] at waitsK
        exact tidy.unique tsn j insideJ k insideK waitsJ waitsK
  · intro j inside
    dsimp only
    by_cases here : j = i
    · rw [here, Function.update_self]
      exact awaits
    · rw [Function.update_of_ne here]
      exact tidy.awaits j inside

/-! ### A request -/

/-- **A callback is registered** in a slot that is free, and found there. -/
theorem register_due {func : ZbCallback} (tidy : Tidy s)
    (answered : ∀ i < zdoTranTableSize, (s.zdoCb i).waitsFor tsn = false)
    (room : ∃ i < zdoTranTableSize, (s.zdoCb i).func = none) (awaits : respCounter ≠ 0) :
    Tidy (registerZdoCb tsn (some func) respCounter s) ∧
      (registerZdoCb tsn (some func) respCounter s).tsn = s.tsn ∧
      dueOf (registerZdoCb tsn (some func) respCounter s) tsn = some (func, respCounter.toNat) ∧
      ∀ other, other ≠ tsn →
        dueOf (registerZdoCb tsn (some func) respCounter s) other = dueOf s other := by
  cases found : probe (fun i => (s.zdoCb i).func.isNone) (zbTsnHash tsn) zdoTranTableSize with
  | none =>
      obtain ⟨i, inside, free⟩ := room
      have taken := probe_eq_none.1 found i inside
      rw [free] at taken
      cases taken
  | some i =>
      obtain ⟨inside, free⟩ := probe_some found
      have is : registerZdoCb tsn (some func) respCounter s =
          { s with zdoCb := Function.update s.zdoCb i ⟨some func, tsn, respCounter⟩ } := by
        rw [registerZdoCb, found]
        rfl
      have tidy' : Tidy { s with zdoCb := Function.update s.zdoCb i ⟨some func, tsn, respCounter⟩ } := by
        apply tidy.write
        · intro other waits j insideJ waitsJ
          rw [waitsFor_iff] at waits
          rw [← waits.1, answered j insideJ] at waitsJ
          cases waitsJ
        · intro _
          exact awaits
      rw [is]
      refine ⟨tidy', rfl, ?_, ?_⟩
      · have here : findZdoCb tsn { s with
            zdoCb := Function.update s.zdoCb i ⟨some func, tsn, respCounter⟩ } = some i := by
          rw [findZdoCb_iff tidy']
          refine ⟨inside, ?_⟩
          dsimp only
          rw [Function.update_self]
          exact waitsFor_iff.2 ⟨rfl, rfl⟩
        rw [dueOf_found here]
        dsimp only
        rw [Function.update_self]
        rfl
      · intro other apart
        apply dueOf_update
        · rw [Bool.eq_false_iff]
          intro waits
          rw [waitsFor_iff, Option.isNone_iff_eq_none.1 free] at waits
          cases waits.2
        · rw [Bool.eq_false_iff]
          intro waits
          exact apart (waitsFor_iff.1 waits).1.symm

/-- **A request that fits** is due, and nothing else changes. -/
theorem request_follows (follows : Follows s a) (fits : RequestFits cb respCounter s) :
    Follows (request cb respCounter s) (a.request cb respCounter.toNat) := by
  have same : ({ s with tsn := s.tsn + 1 } : ZdoCtx).zdoCb = s.zdoCb := rfl
  have tidy := follows.tidy.congr same
  have kept : ∀ tsn, dueOf { s with tsn := s.tsn + 1 } tsn = a.due tsn := by
    intro tsn
    rw [← follows.due]
    exact dueOf_congr same
  cases cb with
  | none =>
      refine ⟨tidy, congrArg (· + 1) follows.tsn, ?_⟩
      intro tsn
      show dueOf { s with tsn := s.tsn + 1 } tsn = Function.update a.due (a.tsn + 1) none tsn
      rw [← follows.tsn]
      by_cases here : tsn = s.tsn + 1
      · rw [here, Function.update_self]
        exact dueOf_none fits.answered
      · rw [Function.update_of_ne here, kept]
  | some func =>
      have awaits := fits.awaits rfl
      obtain ⟨tidy', tsn', due, others⟩ := @register_due { s with tsn := s.tsn + 1 } (s.tsn + 1)
        respCounter func tidy fits.answered (fits.room rfl) awaits
      refine ⟨tidy', tsn'.trans (congrArg (· + 1) follows.tsn), ?_⟩
      intro tsn
      have count : respCounter.toNat ≠ 0 := by
        intro zero
        exact awaits (UInt8.toNat_inj.1 zero)
      show dueOf (registerZdoCb (s.tsn + 1) (some func) respCounter { s with tsn := s.tsn + 1 }) tsn =
        Function.update a.due (a.tsn + 1) (if respCounter.toNat = 0 then none
          else some (func, respCounter.toNat)) tsn
      rw [if_neg count, ← follows.tsn]
      by_cases here : tsn = s.tsn + 1
      · rw [here, Function.update_self, due]
      · rw [Function.update_of_ne here, others tsn here, kept]

/-! ### A response -/

/-- One response less. -/
theorem counted_down {count : UInt8} (awaits : count ≠ 0) :
    (count - 1).toNat = count.toNat - 1 ∧ (count - 1 = 0 ↔ count.toNat ≤ 1) := by
  have le : (1 : UInt8) ≤ count := by
    rw [UInt8.le_iff_toNat_le, UInt8.toNat_one]
    exact Nat.one_le_iff_ne_zero.2 fun zero => awaits (UInt8.toNat_inj.1 zero)
  have less : (count - 1).toNat = count.toNat - 1 := by
    rw [UInt8.toNat_sub_of_le _ _ le, UInt8.toNat_one]
  refine ⟨less, ?_⟩
  rw [← UInt8.toNat_inj, less, UInt8.toNat_zero]
  omega

/-- **A callback is found** and counted down, and its slot is free after the last response. -/
theorem response_due {func : ZbCallback} (tidy : Tidy s) (found : findZdoCb tsn s = some i)
    (isFunc : (s.zdoCb i).func = some func) :
    Tidy (zdoAfResp tsn s).1 ∧ (zdoAfResp tsn s).1.tsn = s.tsn ∧
      (zdoAfResp tsn s).2 = some func ∧
      dueOf (zdoAfResp tsn s).1 tsn =
        (if (s.zdoCb i).respCounter.toNat ≤ 1 then none
          else some (func, (s.zdoCb i).respCounter.toNat - 1)) ∧
      ∀ other, other ≠ tsn → dueOf (zdoAfResp tsn s).1 other = dueOf s other := by
  obtain ⟨inside, waits⟩ := (findZdoCb_iff tidy).1 found
  have sameTsn := (waitsFor_iff.1 waits).1
  obtain ⟨less, zero_iff⟩ := counted_down (tidy.awaits i inside (by rw [isFunc]; rfl))
  have is : zdoAfResp tsn s = ({ s with
      zdoCb := Function.update s.zdoCb i
        { s.zdoCb i with
          respCounter := (s.zdoCb i).respCounter - 1
          func := if (s.zdoCb i).respCounter - 1 = 0 then none else some func } }, some func) := by
    rw [zdoAfResp, found]
    dsimp only
    rw [isFunc]
  have tidy' : Tidy (zdoAfResp tsn s).1 := by
    rw [is]
    apply tidy.write
    · intro other waits' j insideJ waitsJ
      have same := (waitsFor_iff.1 waits').1
      dsimp only at same
      rw [← same, sameTsn] at waitsJ
      exact tidy.unique tsn j insideJ i inside waitsJ waits
    · dsimp only
      split
      · nofun
      · rename_i more
        exact fun _ => more
  refine ⟨tidy', by rw [is], by rw [is], ?_, ?_⟩
  · by_cases last : (s.zdoCb i).respCounter - 1 = 0
    · rw [if_pos (zero_iff.1 last)]
      apply dueOf_none
      intro j insideJ
      rw [is]
      dsimp only
      rw [if_pos last, Bool.eq_false_iff]
      intro waitsJ
      by_cases here : j = i
      · rw [here, Function.update_self] at waitsJ
        cases (waitsFor_iff.1 waitsJ).2
      · rw [Function.update_of_ne here] at waitsJ
        exact here (tidy.unique tsn j insideJ i inside waitsJ waits)
    · rw [if_neg fun small => last (zero_iff.2 small), ← less]
      have at_ : ((zdoAfResp tsn s).1.zdoCb i) =
          ⟨some func, tsn, (s.zdoCb i).respCounter - 1⟩ := by
        rw [is]
        dsimp only
        rw [Function.update_self, if_neg last, sameTsn]
      have found' : findZdoCb tsn (zdoAfResp tsn s).1 = some i := by
        rw [findZdoCb_iff tidy', at_]
        exact ⟨inside, waitsFor_iff.2 ⟨rfl, rfl⟩⟩
      rw [dueOf_found found', at_]
      rfl
  · intro other apart
    rw [is]
    apply dueOf_update
    · rw [Bool.eq_false_iff]
      intro waits'
      exact apart ((waitsFor_iff.1 waits').1.symm.trans sameTsn)
    · rw [Bool.eq_false_iff]
      intro waits'
      exact apart ((waitsFor_iff.1 waits').1.symm.trans sameTsn)

/-- **A response** runs what is due, once. -/
theorem response_follows (follows : Follows s a) :
    Follows (zdoAfResp tsn s).1 (a.response tsn) ∧
      (zdoAfResp tsn s).2 = (a.due tsn).map Prod.fst := by
  have tidy := follows.tidy
  cases found : findZdoCb tsn s with
  | none =>
      have none_ : a.due tsn = none := by
        rw [← follows.due]
        exact dueOf_none (findZdoCb_none.1 found)
      have is : zdoAfResp tsn s = (s, none) := by
        rw [zdoAfResp, found]
      rw [is, none_]
      refine ⟨⟨tidy, follows.tsn, ?_⟩, rfl⟩
      intro other
      rw [Outstanding.response, none_, follows.due]
      show a.due other = Function.update a.due tsn none other
      rw [← none_, Function.update_eq_self]
  | some i =>
      obtain ⟨-, waits⟩ := (findZdoCb_iff tidy).1 found
      obtain ⟨func, isFunc⟩ := Option.isSome_iff_exists.1 (waitsFor_iff.1 waits).2
      have due : a.due tsn = some (func, (s.zdoCb i).respCounter.toNat) := by
        rw [← follows.due, dueOf_found found, isFunc]
        rfl
      obtain ⟨tidy', sameTsn, runs, mine, others⟩ := response_due tidy found isFunc
      refine ⟨⟨tidy', sameTsn.trans follows.tsn, ?_⟩, ?_⟩
      · intro other
        show dueOf _ other = Function.update a.due tsn _ other
        by_cases here : other = tsn
        · rw [here, Function.update_self, mine, due]
          rfl
        · rw [Function.update_of_ne here, others other here, follows.due]
      · rw [runs, due]
        rfl

end Steps

/-! ## The last discovery -/

section Discovery

variable {h h' : ZdoHistory} {a : Outstanding} {tsn : UInt8}

theorem inTable_tsn : (a.inTable h).tsn = a.tsn := by
  rw [Outstanding.inTable]
  split <;> rfl

theorem inTable_due :
    (a.inTable h).due = if h.awaited = true then
      Function.update a.due h.ctx.systemServerDiscoveryTsn none else a.due := by
  rw [Outstanding.inTable]
  split <;> rfl

/-- Only the numbers and what is due count. -/
theorem outstanding_eq {a b : Outstanding} (tsn : a.tsn = b.tsn) (due : a.due = b.due) : a = b := by
  cases a
  cases b
  cases tsn
  cases due
  rfl

/-- **A request is due in the table alike**, whether it overtakes the discovery or not. -/
theorem inTable_request (cb : Option ZbCallback) (responses : Nat) (at_ : h.ctx.tsn = a.tsn)
    (awaited : h'.awaited = (h.awaited && h.keepsNumber))
    (same : h'.awaited = true →
      h'.ctx.systemServerDiscoveryTsn = h.ctx.systemServerDiscoveryTsn) :
    (a.request cb responses).inTable h' = (a.inTable h).request cb responses := by
  apply outstanding_eq
  · rw [inTable_tsn]
    exact congrArg (· + 1) inTable_tsn.symm
  · rw [inTable_due]
    show _ = Function.update (a.inTable h).due ((a.inTable h).tsn + 1) _
    rw [inTable_due, inTable_tsn]
    cases waits : h.awaited with
    | false =>
        rw [waits, Bool.false_and] at awaited
        rw [if_neg (by rw [awaited]; decide), if_neg (by decide)]
        rfl
    | true =>
        rw [if_pos rfl]
        rw [waits, Bool.true_and] at awaited
        cases apart : h.keepsNumber with
        | false =>
            -- the discovery loses its number
            rw [apart] at awaited
            rw [ZdoHistory.keepsNumber, bne_eq_false_iff_eq, at_] at apart
            rw [if_neg (by rw [awaited]; decide), ← apart, Function.update_idem]
            rfl
        | true =>
            rw [apart] at awaited
            rw [ZdoHistory.keepsNumber, bne_iff_ne, at_] at apart
            rw [if_pos awaited, same awaited, Function.update_comm apart.symm]
            rfl

/-- What is due to the discovery stays, while nothing takes its number. -/
theorem request_discovery (cb : Option ZbCallback) (responses : Nat) (at_ : h.ctx.tsn = a.tsn)
    (apart : h.keepsNumber = true) :
    (a.request cb responses).due h.ctx.systemServerDiscoveryTsn =
      a.due h.ctx.systemServerDiscoveryTsn := by
  rw [ZdoHistory.keepsNumber, bne_iff_ne, at_] at apart
  exact Function.update_of_ne apart.symm _ _

/-- **A request that takes the next number**, of whatever kind. -/
theorem request_followsAll {cb : Option ZbCallback} {respCounter : UInt8} (follows : FollowsAll h a)
    (fits : RequestFits cb respCounter h.ctx)
    (table : h'.ctx.zdoCb = (request cb respCounter h.ctx).zdoCb)
    (tsn : h'.ctx.tsn = (request cb respCounter h.ctx).tsn)
    (awaited : h'.awaited = (h.awaited && h.keepsNumber))
    (same : h'.awaited = true →
      h'.ctx.systemServerDiscoveryTsn = h.ctx.systemServerDiscoveryTsn ∧
        h'.ctx.systemServerDiscoveryCb = h.ctx.systemServerDiscoveryCb) :
    FollowsAll h' (a.request cb respCounter.toNat) := by
  have at_ : h.ctx.tsn = a.tsn := follows.table.tsn.trans inTable_tsn
  constructor
  · rw [inTable_request cb respCounter.toNat at_ awaited fun waits => (same waits).1]
    exact (request_follows follows.table fits).congr table tsn
  · intro waits
    obtain ⟨sameTsn, sameCb⟩ := same waits
    rw [awaited, Bool.and_eq_true] at waits
    obtain ⟨func, isFunc, due⟩ := follows.discovery waits.1
    refine ⟨func, sameCb.trans isFunc, ?_⟩
    rw [sameTsn, request_discovery cb respCounter.toNat at_ waits.2, due]

/-- A discovery has nothing due in the table. -/
theorem inTable_discovery (cb : Option ZbCallback) (at_ : h.ctx.tsn = a.tsn) (overtakes : Overtakes h)
    (number : h'.ctx.systemServerDiscoveryTsn = a.tsn + 1) (awaited : h'.awaited = cb.isSome) :
    (a.request cb 1).inTable h' = (a.inTable h).request none 1 := by
  have before : Function.update (a.inTable h).due (a.tsn + 1) none =
      Function.update a.due (a.tsn + 1) none := by
    rw [inTable_due]
    split
    · rename_i waits
      have lost := overtakes waits
      rw [ZdoHistory.keepsNumber, bne_eq_false_iff_eq, at_] at lost
      rw [← lost, Function.update_idem]
    · rfl
  apply outstanding_eq
  · rw [inTable_tsn]
    exact congrArg (· + 1) inTable_tsn.symm
  · rw [inTable_due]
    show _ = Function.update (a.inTable h).due ((a.inTable h).tsn + 1) none
    rw [inTable_tsn, before, number]
    cases cb with
    | none =>
        rw [if_neg (by rw [awaited]; decide)]
        rfl
    | some func =>
        rw [if_pos (by rw [awaited]; rfl)]
        exact Function.update_idem _ _ _

/-- **A discovery that fits** is due, beside the table. -/
theorem discoveryReq_followsAll {cb : Option ZbCallback} (follows : FollowsAll h a)
    (fits : RequestFits none 1 h.ctx) (overtakes : Overtakes h) :
    FollowsAll ⟨systemServerDiscoveryReq cb h.ctx, cb.isSome⟩ (a.request cb 1) := by
  have at_ : h.ctx.tsn = a.tsn := follows.table.tsn.trans inTable_tsn
  have is : systemServerDiscoveryReq cb h.ctx = { h.ctx with
      tsn := h.ctx.tsn + 1
      systemServerDiscoveryTsn := h.ctx.tsn + 1
      systemServerDiscoveryCb := cb } := rfl
  rw [is]
  constructor
  · rw [inTable_discovery cb at_ overtakes (congrArg (· + 1) at_) rfl]
    exact (request_follows follows.table fits).congr rfl rfl
  · intro waits
    obtain ⟨func, isFunc⟩ := Option.isSome_iff_exists.1 waits
    refine ⟨func, isFunc, ?_⟩
    rw [isFunc]
    show Function.update a.due (a.tsn + 1) (some (func, 1)) (h.ctx.tsn + 1) = _
    rw [at_, Function.update_self]

/-- A response to another request. -/
theorem inTable_response (apart : h.awaited = true → tsn ≠ h.ctx.systemServerDiscoveryTsn)
    (awaited : h'.awaited = h.awaited)
    (same : h'.ctx.systemServerDiscoveryTsn = h.ctx.systemServerDiscoveryTsn) :
    (a.response tsn).inTable h' = (a.inTable h).response tsn ∧ (a.inTable h).due tsn = a.due tsn := by
  have sameDue : (a.inTable h).due tsn = a.due tsn := by
    rw [inTable_due]
    split
    · rename_i waits
      exact Function.update_of_ne (apart waits) _ _
    · rfl
  refine ⟨outstanding_eq ?_ ?_, sameDue⟩
  · rw [inTable_tsn]
    exact (@inTable_tsn h a).symm
  · rw [inTable_due]
    show _ = Function.update (a.inTable h).due tsn _
    rw [sameDue, inTable_due, awaited, same]
    split
    · rename_i waits
      exact Function.update_comm (apart waits) _ _ _
    · rfl

/-- **A response that the table is asked for** runs what is due, once. -/
theorem afResp_followsAll (follows : FollowsAll h a)
    (apart : h.awaited = true → tsn ≠ h.ctx.systemServerDiscoveryTsn) :
    FollowsAll ⟨(zdoAfResp tsn h.ctx).1, h.awaited⟩ (a.response tsn) ∧
      (zdoAfResp tsn h.ctx).2 = (a.due tsn).map Prod.fst := by
  have kept : (zdoAfResp tsn h.ctx).1.systemServerDiscoveryTsn = h.ctx.systemServerDiscoveryTsn ∧
      (zdoAfResp tsn h.ctx).1.systemServerDiscoveryCb = h.ctx.systemServerDiscoveryCb := by
    rw [zdoAfResp]
    split <;> exact ⟨rfl, rfl⟩
  obtain ⟨table, sameDue⟩ := @inTable_response h ⟨(zdoAfResp tsn h.ctx).1, h.awaited⟩ a tsn apart rfl
    kept.1
  obtain ⟨follows', runs⟩ := @response_follows h.ctx (a.inTable h) tsn follows.table
  rw [sameDue] at runs
  refine ⟨⟨by rw [table]; exact follows', ?_⟩, runs⟩
  intro waits
  obtain ⟨func, isFunc, due⟩ := follows.discovery waits
  refine ⟨func, kept.2.trans isFunc, ?_⟩
  rw [kept.1, ← due]
  exact Function.update_of_ne (apart waits).symm _ _

/-- A response that nothing waits for changes nothing. -/
theorem response_missed (none_ : a.due tsn = none) : a.response tsn = a := by
  refine outstanding_eq (by rfl) ?_
  show Function.update a.due tsn ((a.due tsn).bind _) = a.due
  rw [none_, Option.bind_none, ← none_, Function.update_eq_self]

/-- **A discovery response** runs what is due, once. -/
theorem discoveryResp_followsAll (follows : FollowsAll h a)
    (fits : Fits h (.systemServerDiscoveryResp tsn)) :
    Option.Rel FollowsAll (historyStep h (.systemServerDiscoveryResp tsn)) (some (a.response tsn)) ∧
      systemServerDiscoveryResp tsn h.ctx = (a.due tsn).map Prod.fst := by
  rw [Fits] at fits
  rw [historyStep, zdoStep, systemServerDiscoveryResp, awaitedAfter]
  by_cases here : tsn = h.ctx.systemServerDiscoveryTsn
  · rw [if_pos here] at fits
    obtain ⟨func, isFunc, due⟩ := follows.discovery fits
    rw [if_neg (fun stops => by rw [isFunc] at stops; cases stops.2), if_pos here, isFunc, here, due]
    refine ⟨.some ⟨?_, ?_⟩, rfl⟩
    · have answered : ((a.response h.ctx.systemServerDiscoveryTsn).inTable
          ⟨h.ctx, h.awaited && h.ctx.systemServerDiscoveryTsn != h.ctx.systemServerDiscoveryTsn⟩) =
            a.inTable h := by
        rw [Outstanding.inTable, Outstanding.inTable, if_pos fits, bne_self_eq_false, Bool.and_false,
          if_neg Bool.false_ne_true]
        refine outstanding_eq (by rfl) ?_
        show Function.update a.due _ ((a.due _).bind _) = _
        rw [due]
        rfl
      rw [answered]
      exact follows.table
    · intro waits
      rw [bne_self_eq_false, Bool.and_false] at waits
      cases waits
  · rw [if_neg here] at fits
    have none_ : a.due tsn = none := by
      have inTable : (a.inTable h).due tsn = none := by
        rw [← follows.table.due, dueOf_none fits]
      rw [inTable_due] at inTable
      split at inTable
      · rwa [Function.update_of_ne here] at inTable
      · exact inTable
    rw [if_neg fun stops => here stops.1, if_neg here, none_, response_missed none_, bne_iff_ne.2 here,
      Bool.and_true]
    exact ⟨.some follows, rfl⟩

end Discovery

/-! ## Runs -/

section Runs

variable {h : ZdoHistory} {a : Outstanding} {event : ZdoEvent} {events : List ZdoEvent}

theorem follows_init : FollowsAll ZdoHistory.init Outstanding.init := by
  have free : ∀ tsn, ∀ i < zdoTranTableSize, (ZdoCtx.init.zdoCb i).waitsFor tsn = false := by
    intro tsn i _
    simp [ZdoCtx.init, ZdoCbHashEnt.waitsFor]
  refine ⟨⟨⟨?_, nofun⟩, rfl, fun tsn => dueOf_none (free tsn)⟩, nofun⟩
  intro tsn i inside j _ waits
  rw [show (ZdoHistory.init.ctx.zdoCb i).waitsFor tsn = false from free tsn i inside] at waits
  cases waits

theorem sendReq_table (clusterid : UInt16) (cb : Option ZbCallback) (respCounter : UInt8)
    (s : ZdoCtx) :
    (zdoSendReq clusterid cb respCounter s).zdoCb = (request cb respCounter s).zdoCb ∧
      (zdoSendReq clusterid cb respCounter s).tsn = (request cb respCounter s).tsn := by
  rw [zdoSendReq]
  split <;> exact ⟨rfl, rfl⟩

/-- A callback is registered in the table only. -/
theorem request_discovery_kept (cb : Option ZbCallback) (respCounter : UInt8) (s : ZdoCtx) :
    (request cb respCounter s).systemServerDiscoveryTsn = s.systemServerDiscoveryTsn ∧
      (request cb respCounter s).systemServerDiscoveryCb = s.systemServerDiscoveryCb := by
  rw [request, registerZdoCb]
  split
  · split <;> exact ⟨rfl, rfl⟩
  · exact ⟨rfl, rfl⟩

/-- A request that is no discovery leaves the last one. -/
theorem sendReq_kept {clusterid : UInt16} (cb : Option ZbCallback) (respCounter : UInt8) (s : ZdoCtx)
    (other : clusterid ≠ zdoSystemServerDiscoveryReqClid) :
    (zdoSendReq clusterid cb respCounter s).systemServerDiscoveryTsn = s.systemServerDiscoveryTsn ∧
      (zdoSendReq clusterid cb respCounter s).systemServerDiscoveryCb = s.systemServerDiscoveryCb := by
  rw [zdoSendReq, if_neg other]
  exact request_discovery_kept cb respCounter s

/-- **An event that fits** does the same to both. -/
theorem step_follows (follows : FollowsAll h a) (fits : Fits h event) :
    Option.Rel FollowsAll (historyStep h event) (a.step event) ∧
      invoked h.ctx event = a.owed event := by
  cases event with
  | sendReq clusterid cb respCounter =>
      obtain ⟨table, tsn⟩ := sendReq_table clusterid cb respCounter h.ctx
      refine ⟨.some (request_followsAll follows fits.1 table tsn ?_ ?_), rfl⟩
      · show (h.awaited && (h.keepsNumber && clusterid != zdoSystemServerDiscoveryReqClid)) = _
        by_cases discovery : clusterid = zdoSystemServerDiscoveryReqClid
        · cases waits : h.awaited with
          | false => rfl
          | true =>
              rw [fits.2 discovery waits]
              rfl
        · rw [bne_iff_ne.2 discovery, Bool.and_true]
      · intro waits
        have other : clusterid ≠ zdoSystemServerDiscoveryReqClid := by
          rw [awaitedAfter, Bool.and_eq_true, Bool.and_eq_true] at waits
          exact bne_iff_ne.1 waits.2.2
        exact sendReq_kept cb respCounter h.ctx other
  | mgmtLeaveCli cb =>
      refine ⟨.some (request_followsAll follows fits rfl rfl rfl fun _ => ?_), rfl⟩
      exact request_discovery_kept cb 1 h.ctx
  | sendDeviceAnnce =>
      exact ⟨.some (request_followsAll follows fits rfl rfl rfl fun _ => ⟨rfl, rfl⟩), rfl⟩
  | systemServerDiscoveryReq cb =>
      exact ⟨.some (discoveryReq_followsAll follows fits.1 fits.2), rfl⟩
  | afResp tsn =>
      obtain ⟨follows', runs⟩ := afResp_followsAll follows fits
      refine ⟨.some follows', ?_⟩
      rw [invoked, Outstanding.owed, runs]
  | systemServerDiscoveryResp tsn =>
      obtain ⟨follows', runs⟩ := discoveryResp_followsAll follows fits
      refine ⟨follows', ?_⟩
      rw [invoked, Outstanding.owed, runs]

/-- What is due is what the device has. -/
theorem FollowsAll.due (follows : FollowsAll h a) (tsn : UInt8) : dueAt h tsn = a.due tsn := by
  rw [dueAt]
  by_cases mine : h.awaited = true ∧ tsn = h.ctx.systemServerDiscoveryTsn
  · obtain ⟨func, isFunc, due⟩ := follows.discovery mine.1
    rw [if_pos mine, mine.2, due, isFunc]
    rfl
  · rw [if_neg mine, follows.table.due, inTable_due]
    split
    · rename_i waits
      exact Function.update_of_ne (fun here => mine ⟨waits, here⟩) _ _
    · rfl

/-- A request of a callback that gets a response at least is due with the next number. -/
theorem asks_due {due : ZbCallback × Nat} (fits : Fits h event) (asked : due ∈ asks event)
    {b : Outstanding} (next : a.step event = some b) : b.due (a.tsn + 1) = some due := by
  have requested : ∀ {cb : Option ZbCallback} {responses : Nat}, responses ≠ 0 →
      due ∈ cb.map (fun cb => (cb, responses)) →
        (a.request cb responses).due (a.tsn + 1) = some due := by
    intro cb responses some_ mem
    obtain ⟨func, rfl, rfl⟩ := Option.map_eq_some_iff.1 mem
    show Function.update a.due (a.tsn + 1) (if responses = 0 then none else some (func, responses))
      (a.tsn + 1) = _
    rw [Function.update_self, if_neg some_]
  cases event with
  | sendReq clusterid cb respCounter =>
      cases next
      refine requested ?_ asked
      obtain ⟨func, isFunc, -⟩ := Option.map_eq_some_iff.1 asked
      intro zero
      exact fits.1.awaits (by rw [isFunc]; rfl) (UInt8.toNat_inj.1 zero)
  | mgmtLeaveCli cb =>
      cases next
      exact requested (by decide) asked
  | systemServerDiscoveryReq cb =>
      cases next
      exact requested (by decide) asked
  | sendDeviceAnnce => cases asked
  | afResp tsn => cases asked
  | systemServerDiscoveryResp tsn => cases asked

/-- **A request that fits has its callback registered.** -/
theorem step_registers (follows : FollowsAll h a) (fits : Fits h event) : Registers h event := by
  intro due asked t taken
  have related := (step_follows follows fits).1
  rw [taken] at related
  cases next : a.step event with
  | none =>
      rw [next] at related
      cases related
  | some b =>
      rw [next] at related
      cases related with
      | some follows' =>
          rw [follows'.due, follows.table.tsn, inTable_tsn]
          exact asks_due fits asked next

/-- **Each response runs the callback of the last request with its number**, while that is still to
get one, and each request has its callback registered, in every run of events that fit. -/
theorem answers_of_run (along : Along historyStep Fits ZdoHistory.init events) :
    trace zdoStep invoked ZdoCtx.init events =
        trace Outstanding.step Outstanding.owed Outstanding.init events ∧
      Along historyStep Registers ZdoHistory.init events := by
  have relates : ∀ h a event, FollowsAll h a → Fits h event →
      Option.Rel FollowsAll (historyStep h event) (a.step event) :=
    fun h a event follows fits => (step_follows follows fits).1
  have runs : ∀ h a event, FollowsAll h a → Fits h event → invoked h.ctx event = a.owed event :=
    fun h a event follows fits => (step_follows follows fits).2
  constructor
  · -- what is remembered changes nothing
    have remembered : trace historyStep (fun h => invoked h.ctx) ZdoHistory.init events =
        trace zdoStep invoked ZdoCtx.init events := by
      have same : ∀ (h : ZdoHistory) (s : ZdoCtx) (event : ZdoEvent), h.ctx = s → True →
          invoked h.ctx event = invoked s event := by
        rintro h _ event rfl -
        rfl
      have keeps : ∀ (h : ZdoHistory) (s : ZdoCtx) (event : ZdoEvent), h.ctx = s → True →
          Option.Rel (fun h s => h.ctx = s) (historyStep h event) (zdoStep s event) := by
        rintro h _ event rfl -
        rw [historyStep]
        cases zdoStep h.ctx event with
        | none => exact .none
        | some s => exact .some rfl
      exact trace_simulates same keeps rfl (along_of_forall (fun _ _ => trivial) _ _)
    rw [← remembered]
    exact trace_simulates runs relates follows_init along
  · have keeps : ∀ h event t, (∃ a, FollowsAll h a) → Fits h event → historyStep h event = some t →
        ∃ a, FollowsAll t a := by
      rintro h event t ⟨a, follows⟩ fits taken
      have related := relates h a event follows fits
      rw [taken] at related
      cases next : a.step event with
      | none =>
          rw [next] at related
          cases related
      | some b =>
          rw [next] at related
          cases related with
          | some follows' => exact ⟨b, follows'⟩
    have registers : ∀ h event, (∃ a, FollowsAll h a) → Fits h event → Registers h event := by
      rintro h event ⟨a, follows⟩ fits
      exact step_registers follows fits
    exact along_of_invariant keeps registers ⟨_, follows_init⟩ along

end Runs

/-! ## Poles -/

section Poles

/-- Two node descriptors, one of them answered, and a discovery. -/
theorem answers_of_run_three : trace zdoStep invoked ZdoCtx.init
      [.sendReq 0x0002 (some 1) 1, .sendReq 0x0002 (some 2) 1, .afResp 1,
        .systemServerDiscoveryReq (some 3), .systemServerDiscoveryResp 3] =
    trace Outstanding.step Outstanding.owed Outstanding.init
      [.sendReq 0x0002 (some 1) 1, .sendReq 0x0002 (some 2) 1, .afResp 1,
        .systemServerDiscoveryReq (some 3), .systemServerDiscoveryResp 3] := by
  have along : Along historyStep Fits ZdoHistory.init
      [.sendReq 0x0002 (some 1) 1, .sendReq 0x0002 (some 2) 1, .afResp 1,
        .systemServerDiscoveryReq (some 3), .systemServerDiscoveryResp 3] := by
    refine ⟨⟨⟨by decide, fun _ => ⟨0, by decide⟩, fun _ => by decide⟩,
      fun discovery => absurd discovery (by decide)⟩, ?_⟩
    rintro s ⟨⟩
    refine ⟨⟨⟨by decide, fun _ => ⟨0, by decide⟩, fun _ => by decide⟩,
      fun discovery => absurd discovery (by decide)⟩, ?_⟩
    rintro s ⟨⟩
    refine ⟨nofun, ?_⟩
    rintro s ⟨⟩
    refine ⟨⟨⟨by decide, nofun, nofun⟩, nofun⟩, ?_⟩
    rintro s ⟨⟩
    exact ⟨rfl, fun _ _ => trivial⟩
  exact (answers_of_run along).1

/-- Requests with these callbacks, and one response. -/
def requests (callbacks : List ZbCallback) (tsn : UInt8) : List ZdoEvent :=
  callbacks.map (fun cb => .sendReq 0x0002 (some cb) 1) ++ [.afResp tsn]

/-- **The last of 17 requests is sent without its callback**: its response runs none. -/
theorem callback_dropped :
    ¬ ∀ events, trace zdoStep invoked ZdoCtx.init events =
      trace Outstanding.step Outstanding.owed Outstanding.init events := by
  intro always
  have same := always (requests [1, 2, 3, 4, 5, 6, 7, 8, 9, 10, 11, 12, 13, 14, 15, 16, 17] 17)
  have runs : trace zdoStep invoked ZdoCtx.init
      (requests [1, 2, 3, 4, 5, 6, 7, 8, 9, 10, 11, 12, 13, 14, 15, 16, 17] 17) = [(17, none)] := by
    decide +kernel
  have owed : trace Outstanding.step Outstanding.owed Outstanding.init
      (requests [1, 2, 3, 4, 5, 6, 7, 8, 9, 10, 11, 12, 13, 14, 15, 16, 17] 17) =
        [(17, some 17)] := by
    decide +kernel
  rw [runs, owed] at same
  cases same

/-- **An older request answers**: it was sent with the same number, 256 requests before. -/
example : trace zdoStep invoked ZdoCtx.init
    ([.sendReq 0x0002 (some 1) 1] ++ List.replicate 255 (.sendReq 0x0002 none 1) ++
      [.sendReq 0x0002 (some 2) 1, .afResp 1]) = [(1, some 1)] := by
  decide +kernel

/-- **The first of two discoveries is answered to nobody**, the second as often as it is answered. -/
example : trace zdoStep invoked ZdoCtx.init
    [.systemServerDiscoveryReq (some 1), .systemServerDiscoveryReq (some 2),
      .systemServerDiscoveryResp 1, .systemServerDiscoveryResp 2, .systemServerDiscoveryResp 2] =
    [(1, none), (2, some 2), (2, some 2)] := by
  decide

end Poles

end Zboss.Zdo.Transactions
