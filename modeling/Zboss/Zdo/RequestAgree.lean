/-
# Zdo.RequestAgree -- what is asked for is what is heard

The client builds a request out of parameters, and the handler of another device takes it apart.
Both do so in a buffer of their own, whose bytes around the message are what they have been before.

* `requests_agree_iff`: for which parameters, in which buffers and builds of the server, both agree.

Poles: a `Match_Desc_req` with 22 clusters goes to an address that has been covered by clusters
(`covered_disagrees`); one with an output cluster is heard with what stood in the tail; and
`zb_config.h` leaves the decoding of `Bind_req` and `Unbind_req` out.
-/
import Mathlib
import Zboss.Common.Constants
import Zboss.Zdo.RequestDecode

namespace Zboss.Zdo.RequestAgree

open Zboss.Common.Constants
open Zboss.Theory.ByteMemory
open Zboss.Zdo.BodyMemory
open Zboss.Zdo.SendByShort
open Zboss.Zdo.RequestEncode
open Zboss.Zdo.RequestDecode

set_option autoImplicit false

/-- The parameters of a request. -/
inductive ReqParam where
  | matchDesc (p : ZbZdoMatchDescParam)
  | endDeviceBind (p : ZbEndDeviceBindReqParam)
  | bindUnbind (bind : Bool) (p : ZbZdoBindReqParam)

namespace ReqParam

/-- The parameters are in the buffer: at the beginning of its data, or in its tail. -/
def In (b : Body) : ReqParam → Prop
  | .matchDesc p => Laid b.begin_ p.parts b.mem
  | .endDeviceBind p => Laid b.begin_ p.parts b.mem
  | .bindUnbind _ p => ∃ pads, Laid (zbIoBufSize - bindReqParamSize.toNat) (p.parts pads) b.mem

/-- What the client does. -/
def request (tsn : UInt8) (b : Body) : ReqParam → Option Requested
  | .matchDesc _ => zbZdoMatchDescReq tsn b
  | .endDeviceBind _ => zbEndDeviceBindReq tsn b
  | .bindUnbind bind _ => zbZdoBindUnbindReq bind tsn b

def dstAddr : ReqParam → UInt16
  | .matchDesc p => p.nwkAddr
  | .endDeviceBind p => p.dstAddr
  | .bindUnbind _ p => p.reqDstAddr

def commandId : ReqParam → UInt16
  | .matchDesc _ => zdoMatchDescReqClid
  | .endDeviceBind _ => zdoEndDeviceBindReqClid
  | .bindUnbind bind _ => if bind then zdoBindReqClid else zdoUnbindReqClid

def wire : ReqParam → List (List UInt8)
  | .matchDesc p => p.wire
  | .endDeviceBind p => p.wire
  | .bindUnbind _ p => p.wire

/-- What the handler takes out of a request are these parameters. -/
def Taken (build : Switches) (b : Body) : ReqParam → Prop
  | .matchDesc p => (readMatchDesc b).result =
      some ⟨p.nwkAddr, p.profileId, p.inClusters, p.outClusters⟩
  | .endDeviceBind p => readEndDeviceBind build b =
      some ⟨p.bindingTarget, p.srcIeeeAddr, p.srcEndp, p.profileId, p.inClusters, p.outClusters⟩
  | .bindUnbind _ p => ∃ req, (readBinding build b).result = some (some req) ∧ BindAgrees p req

/-- The handler of the request is built in. -/
def BuiltIn (build : Switches) : ReqParam → Prop
  | .matchDesc _ => True
  | .endDeviceBind _ => build.disableEdBindReq = false
  | .bindUnbind _ _ => build.disableBindReq = false

/-- There is room in the buffer for the parameters and for what is made of them. -/
def Room (b : Body) : ReqParam → Prop
  | .matchDesc p => b.len + b.begin_ + (8 + 2 * p.clusters) ≤ zbIoBufSize
  | .endDeviceBind p => b.len + b.begin_ + (19 + 2 * p.clusters) ≤ zbIoBufSize
  | .bindUnbind _ _ => b.len + b.begin_ + bindReqParamSize.toNat ≤ zbIoBufSize

/-- The message ends before the parameters. -/
def Clear : ReqParam → Prop
  | .matchDesc p => p.clusters ≤ 21
  | .endDeviceBind p => p.clusters ≤ 16
  | .bindUnbind _ _ => True

/-- There is room behind the message for what the handler puts there. -/
def RoomAt (at_ : Nat) : ReqParam → Prop
  | .matchDesc p =>
      7 + 2 * p.clusters + at_ + apsdeDataIndicationSize.toNat ≤ zbIoBufSize ∧
        7 + 2 * p.clusters + at_ + 2 * p.clusters ≤ zbIoBufSize
  | .endDeviceBind _ => True
  | .bindUnbind _ p =>
      1 + p.wire.flatten.length + at_ + apsmeBindingReqSize.toNat ≤ zbIoBufSize

/-- What has stood in the tail is what the handler takes for the output clusters. -/
def Foreseen (stale : Nat → UInt8) : ReqParam → Prop
  | .matchDesc p =>
      wordsAt (zbIoBufSize - 2 * p.outClusters.length + 1) p.outClusters.length stale = p.outClusters
  | .endDeviceBind _ => True
  | .bindUnbind _ _ => True

end ReqParam

/-- Parameters in the buffer of the client. -/
structure ParamBuf extends Body where
  param : ReqParam
  there : param.In toBody

/-- The client makes the request out of its parameters, for the address that they have; and what the
handler takes out of it, in a buffer with `stale` bytes, are the parameters. -/
def Agrees (build : Switches) (q : ParamBuf) (tsn : UInt8) (at_ : Nat) (stale : Nat → UInt8) : Prop :=
  ∃ r, q.param.request tsn q.toBody = some r ∧ r.spoiled = false ∧
    word r.body.mem (zbIoBufSize - apsdeDataReqSize.toNat) = q.param.dstAddr ∧
    word r.body.mem (zbIoBufSize - apsdeDataReqSize.toNat + 10) = q.param.commandId ∧
    q.param.Taken build (received at_ stale r.body.bytes)

section Agree

variable {build : Switches} {tsn : UInt8} {at_ : Nat} {stale : Nat → UInt8}

/-- What the client makes. -/
theorem request_sends (q : ParamBuf) : Sends (q.param.request tsn q.toBody) (q.param.Room q.toBody)
    q.param.Clear tsn q.param.wire.flatten q.param.commandId q.param.dstAddr := by
  obtain ⟨b, param, there⟩ := q
  cases param with
  | matchDesc p => exact matchDescReq_sends p tsn there
  | endDeviceBind p => exact endDeviceBindReq_sends p tsn there
  | bindUnbind bind p =>
      obtain ⟨pads, there⟩ := there
      exact bindUnbindReq_sends bind tsn there

/-- What the handler takes out of such a message. -/
theorem taken_iff (param : ReqParam) :
    param.Taken build (received at_ stale (tsn :: param.wire.flatten)) ↔
      param.BuiltIn build ∧ param.RoomAt at_ ∧ param.Foreseen stale := by
  have there := @received_laid at_ stale tsn param.wire
  generalize whole : received at_ stale (tsn :: param.wire.flatten) = b at there
  have length : b.len = param.wire.flatten.length + 1 := by rw [← whole]; rfl
  have place : b.begin_ = at_ := by rw [← whole]; rfl
  rw [← place] at there
  cases param with
  | matchDesc p =>
      have wire := length_matchDesc_wire p
      have len : b.len = 7 + 2 * p.clusters := by
        rw [length]
        exact (congrArg (· + 1) wire).trans (by omega)
      have taken := matchDesc_decodes p there len
      rw [len, place] at taken
      show (readMatchDesc b).result = _ ↔ True ∧ (_ ∧ _) ∧ _
      rw [taken, true_and]
      by_cases room : 7 + 2 * p.clusters + at_ + apsdeDataIndicationSize.toNat ≤ zbIoBufSize ∧
          7 + 2 * p.clusters + at_ + 2 * p.clusters ≤ zbIoBufSize
      · -- the words behind the message are those that were there
        have behind : wordsAt (zbIoBufSize - 2 * p.outClusters.length + 1) p.outClusters.length b.mem =
            wordsAt (zbIoBufSize - 2 * p.outClusters.length + 1) p.outClusters.length stale := by
          apply wordsAt_congr
          rw [← whole]
          apply cellsAt_put_apart
          have clusters : p.clusters = p.inClusters.length + p.outClusters.length := rfl
          right
          rw [show (tsn :: (ReqParam.matchDesc p).wire.flatten).length = 7 + 2 * p.clusters from
            length.symm.trans len]
          omega
        rw [if_pos room, behind, Option.some.injEq, MatchDescFields.mk.injEq]
        constructor
        · rintro ⟨-, -, -, foreseen⟩
          exact ⟨room, foreseen⟩
        · rintro ⟨-, foreseen⟩
          exact ⟨rfl, rfl, rfl, foreseen⟩
      · rw [if_neg room]
        exact iff_of_false (fun none_ => by cases none_) fun both => room both.1
  | endDeviceBind p =>
      show readEndDeviceBind build b = _ ↔ build.disableEdBindReq = false ∧ True ∧ True
      rw [readEndDeviceBind, endDeviceBind_decodes p there, and_self, and_true]
      cases build.disableEdBindReq with
      | false => exact iff_of_true rfl rfl
      | true => exact iff_of_false (fun none_ => by cases none_) fun not => by cases not
  | bindUnbind bind p =>
      have taken := binding_decodes p there (length.trans (Nat.add_comm _ _))
      rw [length, place, Nat.add_comm _ 1] at taken
      show (∃ req, (readBinding build b).result = some (some req) ∧ BindAgrees p req) ↔
        build.disableBindReq = false ∧ (ReqParam.bindUnbind bind p).RoomAt at_ ∧ True
      rw [and_true]
      simp only [readBinding_some, and_assoc, exists_and_left]
      exact and_congr_right fun _ => taken

/-- **Where both agree**: the message ends before its parameters, the server is built with its
handler, there is room on both sides, and what has stood in the tail is what the handler takes for
the output clusters. -/
theorem requests_agree_iff (build : Switches) (q : ParamBuf) (tsn : UInt8) (at_ : Nat)
    (stale : Nat → UInt8) :
    Agrees build q tsn at_ stale ↔
      (q.param.Room q.toBody ∧ q.param.Clear) ∧
        q.param.BuiltIn build ∧ q.param.RoomAt at_ ∧ q.param.Foreseen stale := by
  have sends := @request_sends tsn q
  constructor
  · rintro ⟨r, made, clean, -, -, taken⟩
    have clear := (sends.clean_iff r made).1 clean
    rw [(sends.right r made clear).bytes, taken_iff] at taken
    exact ⟨⟨sends.made_iff.1 (by rw [made]; rfl), clear⟩, taken⟩
  · rintro ⟨⟨room, clear⟩, heard⟩
    obtain ⟨r, made⟩ := Option.isSome_iff_exists.1 (sends.made_iff.2 room)
    have right := sends.right r made clear
    refine ⟨r, made, right.clean, right.dstAddr, right.clusterid, ?_⟩
    rw [right.bytes, taken_iff]
    exact heard

end Agree

/-! ## Poles -/

/-- A request for 22 input clusters. -/
def crowdedParam : ZbZdoMatchDescParam where
  nwkAddr := 1
  profileId := 0x0104
  inClusters := List.replicate 22 6
  outClusters := []
  fits := Nat.le_of_ble_eq_true rfl

/-- A request for an output cluster. -/
def outputParam : ZbZdoMatchDescParam where
  nwkAddr := 1
  profileId := 0x0104
  inClusters := []
  outClusters := [8]
  fits := Nat.le_of_ble_eq_true rfl

/-- Parameters at the beginning of a buffer. -/
def bufferOf (p : ZbZdoMatchDescParam) : ParamBuf where
  mem := put 0 p.parts.flatten fun _ => 0
  begin_ := 0
  len := p.parts.flatten.length
  param := .matchDesc p
  there := laid_iff.2 (cellsAt_put_self rfl)

/-- A binding of a group, with its parameters in the tail of the buffer. -/
def groupParam : ZbZdoBindReqParam where
  srcAddress := Vector.replicate 8 1
  srcEndp := 1
  clusterId := 6
  dstAddrMode := zbApsAddrMode16GroupEndpNotPresent
  dstAddress := Vector.replicate 8 2
  dstEndp := 0
  reqDstAddr := 1
  accepted := .inl rfl

def bindBuffer : ParamBuf where
  mem := put (zbIoBufSize - bindReqParamSize.toNat)
    (groupParam.parts (Vector.replicate 3 0)).flatten fun _ => 0
  begin_ := 0
  len := 0
  param := .bindUnbind true groupParam
  there := ⟨Vector.replicate 3 0, laid_iff.2 (cellsAt_put_self rfl)⟩

/-- **The address has been covered**; of a request whose address has not been covered, a cluster
is not heard; and of a request to bind nothing is heard. -/
theorem covered_disagrees :
    (¬ ∀ (q : ParamBuf) (tsn : UInt8) (at_ : Nat) (stale : Nat → UInt8),
      q.param.Room q.toBody → q.param.RoomAt at_ → q.param.BuiltIn zbConfig →
        Agrees zbConfig q tsn at_ stale) ∧
    (¬ ∀ (q : ParamBuf) (tsn : UInt8) (at_ : Nat) (stale : Nat → UInt8),
      q.param.Room q.toBody → q.param.RoomAt at_ → q.param.BuiltIn zbConfig → q.param.Clear →
        Agrees zbConfig q tsn at_ stale) ∧
    ¬ ∀ (q : ParamBuf) (tsn : UInt8) (at_ : Nat) (stale : Nat → UInt8),
      q.param.Room q.toBody → q.param.RoomAt at_ → q.param.Foreseen stale → q.param.Clear →
        Agrees zbConfig q tsn at_ stale := by
  refine ⟨fun always => ?_, fun always => ?_, fun always => ?_⟩
  · have agrees := always (bufferOf crowdedParam) 0 40 (fun _ => 0)
      (Nat.le_of_ble_eq_true rfl) ⟨Nat.le_of_ble_eq_true rfl, Nat.le_of_ble_eq_true rfl⟩ trivial
    have few : crowdedParam.clusters ≤ 21 := ((requests_agree_iff _ _ _ _ _).1 agrees).1.2
    exact absurd few (by decide)
  · have agrees := always (bufferOf outputParam) 0 40 (fun _ => 0) (Nat.le_of_ble_eq_true rfl)
      ⟨Nat.le_of_ble_eq_true rfl, Nat.le_of_ble_eq_true rfl⟩ trivial (Nat.le_of_ble_eq_true rfl)
    have heard : wordsAt (zbIoBufSize - 2 * 1 + 1) 1 (fun _ => 0) = [8] :=
      ((requests_agree_iff _ _ _ _ _).1 agrees).2.2.2
    exact absurd heard (by decide)
  · have agrees := always bindBuffer 0 40 (fun _ => 0) (Nat.le_of_ble_eq_true rfl)
      (Nat.le_of_ble_eq_true rfl) trivial trivial
    have built : zbConfig.disableBindReq = false := ((requests_agree_iff _ _ _ _ _).1 agrees).2.1
    exact absurd built (by decide)

end Zboss.Zdo.RequestAgree
