/-
# Nwk.DiscoveryConfirm -- the networks that a discovery reports

The beacons of a scan are noted in the extended neighbour table, one record for each sender.  When
the MAC is done, `zb_mlme_scan_confirm` makes one descriptor for each extended PAN identifier of
the table, in two passes: the coordinators go first, and in the second pass every record is looked
at.  There is space for as many descriptors as the table of PANs has places, and a record refers to
one of these (`ScanTable`).

The MAC puts the status of the scan in the parameter of the buffer.  The confirm takes its status
from the header of the buffer, after the allocation of its own space has zeroed that.

* `descriptors_right`: the descriptors are always right, and fit;
* `status_zero`: the status that is reported is always a success;
* `discovery_right_iff`: so the confirm is right iff the MAC has reported a success.

Pole: `no_beacon_reported`.
-/
import Mathlib
import Zboss.Common.Constants
import Zboss.Theory.Firsts
import Zboss.Common.PanIdTable
import Zboss.Nwk.Formation

namespace Zboss.Nwk.DiscoveryConfirm

open Zboss.Common.Constants
open Zboss.Theory.Firsts
open Zboss.Common.PanIdTable
open Zboss.Nwk.Formation (ExNeighborKey ZbNlmeState MacSrcAddr findExNeighbor keyOf)

set_option autoImplicit false

/-! ## Constants -/

/-- `sizeof(zb_nlme_network_discovery_confirm_t)` -/
def sizeofDiscoveryConfirm : Nat := 2

/-- `sizeof(zb_nlme_network_descriptor_t)` -/
def sizeofNetworkDescriptor : Nat := 12

/-! ## The table -/

/-- A record: what finds it again, and what the descriptors are made of. -/
structure ZbExtNeighborTblEnt extends ExNeighborKey where
  logicalChannel : UInt8
  beaconOrder : UInt8
  depth : UInt8
  stackProfile : UInt8
  superframeOrder : UInt8
  permitJoining : Bool
  deviceType : UInt8
  routerCapacity : Bool
  endDeviceCapacity : Bool
  deriving DecidableEq

/-- The PANs, and the used part of the extended neighbour table. -/
structure ExtNeighbors where
  pan : PanAddrGlobals
  extNeighbor : List ZbExtNeighborTblEnt
  extNeighborSize : Nat

/-- A reference to a PAN that there is. -/
def Refers (pan : PanAddrGlobals) (ref : Nat) : Prop :=
  ref < zbPanidTableSize ∧ pan.usedPanAddr ref = true

instance (pan : PanAddrGlobals) (ref : Nat) : Decidable (Refers pan ref) :=
  inferInstanceAs (Decidable (_ ∧ _))

/-- **The table of a scan**: every record refers to a PAN. -/
structure ScanTable extends ExtNeighbors where
  referring : ∀ en ∈ extNeighbor, Refers pan en.panidRef

/-- What is read of the payload of a beacon. -/
structure ZbMacBeaconPayload where
  protocolId : UInt8
  stackProfile : UInt8
  protocolVersion : UInt8
  routerCapacity : Bool
  deviceDepth : UInt8
  endDeviceCapacity : Bool
  extendedPanid : ZbExtPanId
  deriving DecidableEq

/-- What is read of a beacon; the two bytes of `superframeSpec` are in the order of the frame. -/
structure Beacon where
  srcPanId : UInt16
  srcAddr : MacSrcAddr
  superframeSpec : UInt8 × UInt8
  logicalChannel : UInt8
  payload : Option ZbMacBeaconPayload
  deriving DecidableEq

def zbMacGetBeaconOrder (sfs : UInt8 × UInt8) : UInt8 := sfs.1 &&& 0x07

def zbMacGetSuperframeOrder (sfs : UInt8 × UInt8) : UInt8 := (sfs.1 >>> 4) &&& 0x0F

def zbMacGetAssociationPermit (sfs : UInt8 × UInt8) : Bool := (sfs.2 >>> 7) &&& 1 != 0

/-! ## Beacons -/

/-- The record that `alloc_new_extneiboard` makes: all the rest is zero. -/
def allocNewExtneiboard (panidRef : Nat) (srcAddr : MacSrcAddr) : ZbExtNeighborTblEnt where
  toExNeighborKey := keyOf (panidRef % 8) srcAddr
  logicalChannel := 0
  beaconOrder := 0
  depth := 0
  stackProfile := 0
  superframeOrder := 0
  permitJoining := false
  deviceType := 0
  routerCapacity := false
  endDeviceCapacity := false

/-- What kind of device sends such beacons. -/
def deviceTypeOf (depth : UInt8) (permitJoining routerCapacity endDeviceCapacity : Bool) : UInt8 :=
  if depth = 0 then zbNwkDeviceTypeCoordinator
  else if permitJoining || routerCapacity || endDeviceCapacity then zbNwkDeviceTypeRouter
  else zbNwkDeviceTypeNone

/-- The record is written anew; its bit fields keep as many bits as they have. -/
def fillExNeighbor (b : Beacon) (payload : ZbMacBeaconPayload) (panidRef : Nat)
    (en : ZbExtNeighborTblEnt) : ZbExtNeighborTblEnt :=
  let permitJoining := zbMacGetAssociationPermit b.superframeSpec
  { en with
    panidRef := panidRef % 8
    logicalChannel := b.logicalChannel &&& 0x1F
    depth := payload.deviceDepth &&& 0x0F
    beaconOrder := zbMacGetBeaconOrder b.superframeSpec
    permitJoining
    stackProfile := payload.stackProfile &&& 0x0F
    superframeOrder := zbMacGetSuperframeOrder b.superframeSpec
    routerCapacity := payload.routerCapacity
    endDeviceCapacity := payload.endDeviceCapacity
    deviceType := deviceTypeOf (payload.deviceDepth &&& 0x0F) permitJoining payload.routerCapacity
      payload.endDeviceCapacity }

/-- The reference that `zb_address_set_pan_id` writes. -/
def setResultRef : SetResult → Option Nat
  | .ok ref => some ref
  | .alreadyExists ref => some ref
  | .overflow => none

/-- The sender of a beacon is noted, when its PAN and its record have room. -/
def noteBeacon (b : Beacon) (payload : ZbMacBeaconPayload) (n : ExtNeighbors) : ExtNeighbors :=
  let set := zbAddressSetPanId b.srcPanId payload.extendedPanid n.pan
  match setResultRef set.2 with
  | none => { n with pan := set.1 }
  | some ref =>
      match findExNeighbor (·.toExNeighborKey) ref b.srcAddr n.extNeighbor with
      | some i =>
          { n with
            pan := set.1
            extNeighbor := n.extNeighbor.modify i (fillExNeighbor b payload ref) }
      | none =>
          if n.extNeighbor.length = n.extNeighborSize then { n with pan := set.1 }
          else
            { n with
              pan := set.1
              extNeighbor :=
                n.extNeighbor ++ [fillExNeighbor b payload ref (allocNewExtneiboard ref b.srcAddr)] }

/-- What `zb_mlme_beacon_notify_indication` does to the table in a discovery; in a rejoin only the
beacons of one network count. -/
def zbMlmeBeaconNotifyIndication (rejoining : Option ZbExtPanId) (b : Beacon) (n : ExtNeighbors) :
    ExtNeighbors :=
  match b.payload with
  | none => n
  | some payload =>
      if payload.protocolId = 0 ∧ payload.protocolVersion = zbProtocolVersion ∧
          rejoining.all (· == payload.extendedPanid) then noteBeacon b payload n
      else n

/-! ## The buffer -/

structure ZbBufHdr where
  len : UInt8
  dataOffset : UInt8
  handle : UInt8
  macHdrOffset : UInt8
  status : Int16
  isInBuf : Bool
  encryptType : UInt8
  useSameKey : Bool
  zdoCmdNoResp : Bool
  mhrLen : UInt8
  deriving DecidableEq

def ZbBufHdr.zero : ZbBufHdr := ⟨0, 0, 0, 0, 0, false, 0, false, false, 0⟩

/-- What the MAC reports of a scan. -/
structure ZbMacScanConfirm where
  status : UInt8
  scanType : UInt8
  deriving DecidableEq

/-- A buffer with the parameter at its end. -/
structure ZbBuf where
  hdr : ZbBufHdr
  scanConfirm : ZbMacScanConfirm
  deriving DecidableEq

/-- The header is zeroed but for `is_in_buf`; `none` is the assertion. -/
def zbBufInitialAlloc (size : UInt8) (hdr : ZbBufHdr) : Option ZbBufHdr :=
  if size.toNat < zbIoBufSize then
    some { ZbBufHdr.zero with
      isInBuf := hdr.isInBuf
      len := size
      dataOffset := UInt8.ofNat ((zbIoBufSize - size.toNat) / 2) }
  else none

/-- The end of `zb_mlme_scan_step`: the status goes in the parameter. -/
def scanDone (scanType : UInt8) (beaconFound gotRealignment : Bool) (buf : ZbBuf) : ZbBuf :=
  let status :=
    if scanType = edScan ∨ beaconFound ∨ gotRealignment then macSuccess else macNoBeacon
  { buf with scanConfirm := ⟨status, scanType⟩ }

/-! ## The confirm -/

structure ZbNlmeNetworkDescriptor where
  extendedPanId : ZbExtPanId
  logicalChannel : UInt8
  stackProfile : UInt8
  zigbeeVersion : UInt8
  beaconOrder : UInt8
  superframeOrder : UInt8
  permitJoining : Bool
  routerCapacity : Bool
  endDeviceCapacity : Bool
  deriving DecidableEq

/-- The descriptors come behind it. -/
structure ZbNlmeNetworkDiscoveryConfirm where
  status : UInt8
  networkCount : UInt8
  deriving DecidableEq

/-- `none` is the assertion, here and below. -/
def zbAddressGetPanId (ref : Nat) (pan : PanAddrGlobals) : Option ZbExtPanId :=
  if Refers pan ref then some (pan.panMap ref).longPanid else none

def zbAddressCmpPanIdByRef (ref : Nat) (panId : ZbExtPanId) (pan : PanAddrGlobals) : Option Bool :=
  if Refers pan ref then some (panId == (pan.panMap ref).longPanid) else none

/-- The inner loop, from descriptor `j` on: where it ends. -/
def searchDescriptor (pan : PanAddrGlobals) (ref : Nat) :
    List ZbNlmeNetworkDescriptor → Nat → Option Nat
  | [], j => some j
  | d :: ds, j => do
      if ← zbAddressCmpPanIdByRef ref d.extendedPanId pan then return j
      searchDescriptor pan ref ds (j + 1)

/-- What a record says of its network. -/
def describe (panId : ZbExtPanId) (en : ZbExtNeighborTblEnt) : ZbNlmeNetworkDescriptor where
  extendedPanId := panId
  logicalChannel := en.logicalChannel
  stackProfile := en.stackProfile
  zigbeeVersion := zbProtocolVersion
  beaconOrder := en.beaconOrder
  superframeOrder := en.superframeOrder
  permitJoining := en.permitJoining
  routerCapacity := en.routerCapacity
  endDeviceCapacity := en.endDeviceCapacity

/-- One record of a pass: where its network has no descriptor, one is added. -/
def addNetwork (pan : PanAddrGlobals) (ds : List ZbNlmeNetworkDescriptor)
    (en : ZbExtNeighborTblEnt) : Option (List ZbNlmeNetworkDescriptor) := do
  let j ← searchDescriptor pan en.panidRef ds 0
  if j = ds.length then
    let panId ← zbAddressGetPanId en.panidRef pan
    return ds ++ [describe panId en]
  else return ds

/-- The record is looked at in this pass. -/
def passTakes (devTypeCmp : Nat) (en : ZbExtNeighborTblEnt) : Bool :=
  devTypeCmp == 0 || en.deviceType == zbNwkDeviceTypeCoordinator

/-- A pass over the table. -/
def networkPass (pan : PanAddrGlobals) (devTypeCmp : Nat) :
    List ZbExtNeighborTblEnt → List ZbNlmeNetworkDescriptor → Option (List ZbNlmeNetworkDescriptor)
  | [], ds => some ds
  | en :: rest, ds =>
      if passTakes devTypeCmp en then do
        let ds ← addNetwork pan ds en
        networkPass pan devTypeCmp rest ds
      else networkPass pan devTypeCmp rest ds

/-- `while (dev_type_cmp)` -/
def networkPasses (n : ExtNeighbors) :
    Nat → List ZbNlmeNetworkDescriptor → Option (List ZbNlmeNetworkDescriptor)
  | 0, ds => some ds
  | devTypeCmp + 1, ds => do
      let ds ← networkPass n.pan devTypeCmp n.extNeighbor ds
      networkPasses n devTypeCmp ds

/-- What is scheduled or called with the buffer. -/
inductive ScanConfirmCall where
  | networkDiscoveryRequest (scanChannels : UInt32) (scanDuration : UInt8)
  | networkDiscoveryConfirm (hdr : ZbBufHdr) (confirm : ZbNlmeNetworkDiscoveryConfirm)
      (descriptors : List ZbNlmeNetworkDescriptor)
  | edScanConfirm
  | formationEdScanConfirm
  | formationSelectChannel
  | rejoinScanConfirm
  | orphanScanConfirm
  deriving DecidableEq

/-- The state of the network layer, the scans of the discovery that are to go, and the table. -/
structure DiscoveryState where
  state : ZbNlmeState
  discCount : UInt8
  apsChannelMask : UInt32
  table : ScanTable

/-- The space for the confirm with a descriptor for every place of the table of PANs. -/
def discoveryConfirmSize : UInt8 :=
  UInt8.ofNat (sizeofDiscoveryConfirm + sizeofNetworkDescriptor * zbPanidTableSize)

/-- The confirm of a discovery. -/
def buildDiscoveryConfirm (n : ExtNeighbors) (buf : ZbBuf) : Option ScanConfirmCall := do
  let hdr ← zbBufInitialAlloc discoveryConfirmSize buf.hdr
  let ds ← networkPasses n 2 []
  return .networkDiscoveryConfirm hdr ⟨hdr.status.toInt8.toUInt8, UInt8.ofNat ds.length⟩ ds

def zbMlmeScanConfirm (buf : ZbBuf) (s : DiscoveryState) :
    Option (DiscoveryState × ScanConfirmCall) :=
  match s.state with
  | .disc => do
      let discCount := if s.discCount ≠ 0 then s.discCount - 1 else s.discCount
      if discCount ≠ 0 then
        return ({ s with state := .idle, discCount },
          .networkDiscoveryRequest s.apsChannelMask zbDefaultScanDuration)
      let call ← buildDiscoveryConfirm s.table.toExtNeighbors buf
      return ({ s with state := .idle, discCount }, call)
  | .edScan => some ({ s with state := .idle }, .edScanConfirm)
  -- the others leave the state to whom they call
  | .formationEdScan => some (s, .formationEdScanConfirm)
  | .formationActiveScan => some (s, .formationSelectChannel)
  | .rejoin => some (s, .rejoinScanConfirm)
  | .orphanScan => some (s, .orphanScanConfirm)
  | _ => none

/-! ## What is claimed -/

/-- The extended PAN identifier of a record. -/
def extPanIdOf (pan : PanAddrGlobals) (en : ZbExtNeighborTblEnt) : ZbExtPanId :=
  (pan.panMap en.panidRef).longPanid

def IsCoordinator (en : ZbExtNeighborTblEnt) : Prop := en.deviceType = zbNwkDeviceTypeCoordinator

/-- **One descriptor for each network**, of a coordinator where it has one. -/
structure DescriptorsRight (n : ExtNeighbors) (ds : List ZbNlmeNetworkDescriptor) : Prop where
  once : (ds.map ZbNlmeNetworkDescriptor.extendedPanId).Nodup
  every : ∀ panId, panId ∈ ds.map ZbNlmeNetworkDescriptor.extendedPanId ↔
    ∃ en ∈ n.extNeighbor, extPanIdOf n.pan en = panId
  taken : ∀ d ∈ ds, ∃ en ∈ n.extNeighbor, d = describe (extPanIdOf n.pan en) en ∧
    ((∃ other ∈ n.extNeighbor, extPanIdOf n.pan other = extPanIdOf n.pan en ∧
      IsCoordinator other) → IsCoordinator en)

/-- **The confirm is right** for a table and the status of the MAC. -/
structure ConfirmRight (n : ExtNeighbors) (macStatus : UInt8) (hdr : ZbBufHdr)
    (confirm : ZbNlmeNetworkDiscoveryConfirm) (ds : List ZbNlmeNetworkDescriptor) : Prop where
  descriptors : DescriptorsRight n ds
  counted : confirm.networkCount.toNat = ds.length
  fits : sizeofDiscoveryConfirm + sizeofNetworkDescriptor * ds.length ≤ hdr.len.toNat
  inside : hdr.dataOffset.toNat + hdr.len.toNat ≤ zbIoBufSize
  status : confirm.status = macStatus

/-! ## The table of a scan -/

section Scan

variable {n : ExtNeighbors} {pan : PanAddrGlobals} {b : Beacon} {payload : ZbMacBeaconPayload}
  {ref i : Nat} {en : ZbExtNeighborTblEnt}

/-- A PAN that is set is there, and none goes away. -/
theorem setPanId_refers (shortPanId : UInt16) (panId : ZbExtPanId) (pan : PanAddrGlobals) :
    (∀ r, Refers pan r → Refers (zbAddressSetPanId shortPanId panId pan).1 r) ∧
      ∀ ref ∈ setResultRef (zbAddressSetPanId shortPanId panId pan).2,
        Refers (zbAddressSetPanId shortPanId panId pan).1 ref := by
  rcases setPanId_cases shortPanId panId pan with ⟨i, found, set⟩ | ⟨i, inside, -, -, set⟩ |
    ⟨-, -, set⟩
  · rw [set]
    refine ⟨fun r refers => refers, ?_⟩
    rintro ref ⟨rfl⟩
    obtain ⟨inside, held⟩ := Zboss.Theory.Probe.probe_some found
    exact ⟨inside, (heldAt_iff.1 held).1⟩
  · rw [set]
    have usedNow (r : Nat) (used : pan.usedPanAddr r = true ∨ r = i) :
        (entered pan i panId shortPanId).usedPanAddr r = true := by
      show Function.update pan.usedPanAddr i true r = true
      rw [Function.update_apply]
      split
      · rfl
      · rename_i other
        exact used.resolve_right other
    refine ⟨fun r refers => ⟨refers.1, usedNow r (.inl refers.2)⟩, ?_⟩
    rintro ref ⟨rfl⟩
    exact ⟨inside, usedNow i (.inr rfl)⟩
  · rw [set]
    exact ⟨fun r refers => refers, fun ref none_ => by cases none_⟩

theorem fill_refers (refers : Refers pan ref) (en : ZbExtNeighborTblEnt) :
    Refers pan (fillExNeighbor b payload ref en).panidRef := by
  show Refers pan (ref % 8)
  have inside : ref < 8 := refers.1
  rw [Nat.mod_eq_of_lt inside]
  exact refers

/-- **A beacon leaves every record with a PAN.** -/
theorem noteBeacon_referring (referring : ∀ en ∈ n.extNeighbor, Refers n.pan en.panidRef) :
    ∀ en ∈ (noteBeacon b payload n).extNeighbor,
      Refers (noteBeacon b payload n).pan en.panidRef := by
  obtain ⟨stays, enters⟩ := setPanId_refers b.srcPanId payload.extendedPanid n.pan
  have older (en : ZbExtNeighborTblEnt) (mem : en ∈ n.extNeighbor) :
      Refers (zbAddressSetPanId b.srcPanId payload.extendedPanid n.pan).1 en.panidRef :=
    stays _ (referring en mem)
  rw [noteBeacon]
  split
  · exact older
  · rename_i ref set
    have refers := enters ref set
    split
    · rename_i i found
      intro en mem
      obtain ⟨k, at_, rfl⟩ := List.mem_iff_getElem.1 mem
      dsimp only at at_ ⊢
      rw [List.getElem_modify]
      split
      · exact fill_refers refers _
      · rw [List.length_modify] at at_
        exact older _ (List.getElem_mem at_)
    · split
      · exact older
      · intro en mem
        rcases List.mem_append.1 mem with old | new
        · exact older en old
        · rw [List.mem_singleton.1 new]
          exact fill_refers refers _

theorem beaconNotify_referring (rejoining : Option ZbExtPanId)
    (referring : ∀ en ∈ n.extNeighbor, Refers n.pan en.panidRef) :
    ∀ en ∈ (zbMlmeBeaconNotifyIndication rejoining b n).extNeighbor,
      Refers (zbMlmeBeaconNotifyIndication rejoining b n).pan en.panidRef := by
  rw [zbMlmeBeaconNotifyIndication]
  split
  · exact referring
  · split
    · exact noteBeacon_referring referring
    · exact referring

end Scan

/-- The table before a scan. -/
def ScanTable.start (pan : PanAddrGlobals) (size : Nat) : ScanTable where
  pan
  extNeighbor := []
  extNeighborSize := size
  referring _ mem := absurd mem List.not_mem_nil

def ScanTable.hear (rejoining : Option ZbExtPanId) (t : ScanTable) (b : Beacon) : ScanTable where
  toExtNeighbors := zbMlmeBeaconNotifyIndication rejoining b t.toExtNeighbors
  referring := beaconNotify_referring rejoining t.referring

/-- The table that a scan has gathered from the beacons. -/
def ScanTable.gather (rejoining : Option ZbExtPanId) (t : ScanTable) (beacons : List Beacon) :
    ScanTable :=
  beacons.foldl (ScanTable.hear rejoining) t

/-! ## The descriptors -/

section Descriptors

variable {n : ExtNeighbors} {pan : PanAddrGlobals} {en : ZbExtNeighborTblEnt}
  {kept table : List ZbExtNeighborTblEnt} {ds : List ZbNlmeNetworkDescriptor} {devTypeCmp : Nat}

/-- What a record says, with the PAN identifier it refers to. -/
def describeIn (pan : PanAddrGlobals) (en : ZbExtNeighborTblEnt) : ZbNlmeNetworkDescriptor :=
  describe (extPanIdOf pan en) en

def isCoordinator (en : ZbExtNeighborTblEnt) : Bool := en.deviceType == zbNwkDeviceTypeCoordinator

/-- The records that the descriptors are made of. -/
def reported (n : ExtNeighbors) : List ZbExtNeighborTblEnt :=
  firsts (extPanIdOf n.pan) [] (n.extNeighbor.filter isCoordinator ++ n.extNeighbor)

/-- The inner loop ends at the first descriptor of the network, or behind them all. -/
theorem searchDescriptor_spec (refers : Refers pan en.panidRef) (j : Nat) :
    searchDescriptor pan en.panidRef ds j =
      some (j + ds.findIdx fun d => d.extendedPanId == extPanIdOf pan en) := by
  induction ds generalizing j with
  | nil => rfl
  | cons d ds ih =>
      have compared : zbAddressCmpPanIdByRef en.panidRef d.extendedPanId pan =
          some (d.extendedPanId == extPanIdOf pan en) := if_pos refers
      rw [searchDescriptor, compared, List.findIdx_cons]
      cases d.extendedPanId == extPanIdOf pan en with
      | true => rfl
      | false =>
          show searchDescriptor pan en.panidRef ds (j + 1) = _
          rw [ih (j + 1), cond_false, Nat.add_assoc, Nat.add_comm 1]

/-- A record of a network that has no descriptor adds one, of itself. -/
theorem addNetwork_spec (refers : Refers pan en.panidRef) :
    addNetwork pan (kept.map (describeIn pan)) en =
      some ((keepFirst (extPanIdOf pan) kept en).map (describeIn pan)) := by
  have panId : zbAddressGetPanId en.panidRef pan = some (extPanIdOf pan en) := if_pos refers
  rw [addNetwork, searchDescriptor_spec refers, panId, Nat.zero_add]
  by_cases there : ∃ c ∈ kept, extPanIdOf pan c = extPanIdOf pan en
  · have found : ¬ (kept.map (describeIn pan)).findIdx
        (fun d => d.extendedPanId == extPanIdOf pan en) = (kept.map (describeIn pan)).length := by
      rw [List.findIdx_eq_length]
      obtain ⟨c, mem, same⟩ := there
      intro none_
      have differs := none_ (describeIn pan c) (List.mem_map_of_mem mem)
      exact absurd same (beq_eq_false_iff_ne.1 differs)
    rw [keepFirst_old there]
    exact if_neg found
  · have new : ∀ c ∈ kept, extPanIdOf pan c ≠ extPanIdOf pan en :=
      fun c mem same => there ⟨c, mem, same⟩
    have none_ : (kept.map (describeIn pan)).findIdx
        (fun d => d.extendedPanId == extPanIdOf pan en) = (kept.map (describeIn pan)).length := by
      rw [List.findIdx_eq_length]
      intro d mem
      obtain ⟨c, old, rfl⟩ := List.mem_map.1 mem
      exact beq_eq_false_iff_ne.2 (new c old)
    rw [keepFirst_new new, List.map_append]
    exact if_pos none_

/-- **A pass** keeps the first record of each network that has none. -/
theorem networkPass_spec (referring : ∀ en ∈ table, Refers pan en.panidRef) :
    networkPass pan devTypeCmp table (kept.map (describeIn pan)) =
      some ((firsts (extPanIdOf pan) kept (table.filter (passTakes devTypeCmp))).map
        (describeIn pan)) := by
  induction table generalizing kept with
  | nil => rfl
  | cons en rest ih =>
      have behind : ∀ e ∈ rest, Refers pan e.panidRef :=
        fun e mem => referring e (List.mem_cons_of_mem en mem)
      rw [networkPass]
      cases takes : passTakes devTypeCmp en with
      | false =>
          rw [List.filter_cons_of_neg (by rw [takes]; exact Bool.false_ne_true)]
          exact ih behind
      | true =>
          rw [List.filter_cons_of_pos takes, if_pos rfl,
            addNetwork_spec (referring en List.mem_cons_self)]
          exact ih behind

/-- **Both passes.** -/
theorem networkPasses_spec (referring : ∀ en ∈ n.extNeighbor, Refers n.pan en.panidRef) :
    networkPasses n 2 [] = some ((reported n).map (describeIn n.pan)) := by
  have first := @networkPass_spec n.pan [] n.extNeighbor 1 referring
  have second := @networkPass_spec n.pan
    (firsts (extPanIdOf n.pan) [] (n.extNeighbor.filter (passTakes 1))) n.extNeighbor 0 referring
  have all : n.extNeighbor.filter (passTakes 0) = n.extNeighbor :=
    List.filter_eq_self.2 fun en mem => rfl
  rw [all] at second
  rw [List.map_nil] at first
  rw [networkPasses, first]
  show (networkPass _ _ _ _ >>= _) = _
  rw [second, reported, firsts_append]
  rfl

theorem mem_of_mem_reported (mem : en ∈ reported n) : en ∈ n.extNeighbor := by
  rcases List.mem_append.1 (mem_of_mem_firsts mem) with coordinator | any
  · exact (List.mem_filter.1 coordinator).1
  · exact any

/-- There are no more networks than places in the table of PANs. -/
theorem reported_le (referring : ∀ en ∈ n.extNeighbor, Refers n.pan en.panidRef) :
    (reported n).length ≤ zbPanidTableSize := by
  let panIds := (List.range zbPanidTableSize).map fun ref => (n.pan.panMap ref).longPanid
  have once : ((reported n).map (extPanIdOf n.pan)).Nodup := nodup_firsts List.nodup_nil
  have known : (reported n).map (extPanIdOf n.pan) ⊆ panIds := by
    intro panId mem
    obtain ⟨en, kept, rfl⟩ := List.mem_map.1 mem
    have refers := referring en (mem_of_mem_reported kept)
    exact List.mem_map.2 ⟨en.panidRef, List.mem_range.2 refers.1, rfl⟩
  have few := (List.subperm_of_subset once known).length_le
  simpa [panIds] using few

/-- **The descriptors are right** for every table. -/
theorem reported_right : DescriptorsRight n ((reported n).map (describeIn n.pan)) where
  once := by
    have once : ((reported n).map (extPanIdOf n.pan)).Nodup := nodup_firsts List.nodup_nil
    rw [List.map_map]
    exact once
  every panId := by
    rw [List.map_map]
    show panId ∈ (reported n).map (extPanIdOf n.pan) ↔ _
    rw [reported, key_mem_firsts, List.map_append, List.mem_append]
    constructor
    · rintro (coordinator | any)
      · obtain ⟨en, mem, same⟩ := List.mem_map.1 coordinator
        exact ⟨en, (List.mem_filter.1 mem).1, same⟩
      · exact List.mem_map.1 any
    · exact fun mem => .inr (List.mem_map.2 mem)
  taken d mem := by
    obtain ⟨en, kept, rfl⟩ := List.mem_map.1 mem
    refine ⟨en, mem_of_mem_reported kept, rfl, ?_⟩
    rintro ⟨other, there, same, coordinator⟩
    have preferred : isCoordinator en = true :=
      preferred_firsts kept ⟨other, there, same, beq_iff_eq.2 coordinator⟩
    exact beq_iff_eq.1 preferred

end Descriptors

/-! ## The confirm -/

section Confirm

variable {s : DiscoveryState} {buf : ZbBuf}

/-- The header after the allocation. -/
def confirmHdr (hdr : ZbBufHdr) : ZbBufHdr :=
  { ZbBufHdr.zero with isInBuf := hdr.isInBuf, len := 98, dataOffset := 25 }

theorem discoveryConfirm_alloc (hdr : ZbBufHdr) :
    zbBufInitialAlloc discoveryConfirmSize hdr = some (confirmHdr hdr) := rfl

/-- **The status that is reported is a success**, whatever the header has held. -/
theorem status_zero (hdr : ZbBufHdr) : (confirmHdr hdr).status.toInt8.toUInt8 = macSuccess := rfl

/-- What is built from a table. -/
theorem buildDiscoveryConfirm_spec (table : ScanTable) (buf : ZbBuf) :
    buildDiscoveryConfirm table.toExtNeighbors buf =
      some (.networkDiscoveryConfirm (confirmHdr buf.hdr)
        ⟨macSuccess, UInt8.ofNat (reported table.toExtNeighbors).length⟩
        ((reported table.toExtNeighbors).map (describeIn table.pan))) := by
  rw [buildDiscoveryConfirm, discoveryConfirm_alloc]
  show (networkPasses _ 2 [] >>= _) = _
  rw [networkPasses_spec table.referring]
  show some _ = some _
  rw [List.length_map, status_zero]

/-- The confirm is built after the last scan of a discovery. -/
theorem scanConfirm_spec (discovering : s.state = .disc) (last : s.discCount ≤ 1) :
    ∃ t, zbMlmeScanConfirm buf s = some (t,
      .networkDiscoveryConfirm (confirmHdr buf.hdr)
        ⟨macSuccess, UInt8.ofNat (reported s.table.toExtNeighbors).length⟩
        ((reported s.table.toExtNeighbors).map (describeIn s.table.pan))) := by
  have none_ : ¬ (if s.discCount ≠ 0 then s.discCount - 1 else s.discCount) ≠ 0 := by
    by_cases zero : s.discCount = 0
    · rw [zero]
      decide
    · have one : s.discCount = 1 := by
        apply UInt8.toNat_inj.1
        have le : s.discCount.toNat ≤ 1 := last
        have ne : s.discCount.toNat ≠ 0 := fun same => zero (UInt8.toNat_inj.1 same)
        show s.discCount.toNat = 1
        omega
      rw [one]
      decide
  rw [zbMlmeScanConfirm, discovering]
  dsimp only
  rw [if_neg none_, buildDiscoveryConfirm_spec]
  exact ⟨_, rfl⟩

/-- **Everything but the status** is right in any case. -/
theorem descriptors_right (table : ScanTable) (hdr : ZbBufHdr) :
    ConfirmRight table.toExtNeighbors macSuccess (confirmHdr hdr)
      ⟨macSuccess, UInt8.ofNat (reported table.toExtNeighbors).length⟩
      ((reported table.toExtNeighbors).map (describeIn table.pan)) := by
  have few : (reported table.toExtNeighbors).length ≤ 8 := reported_le table.referring
  refine ⟨reported_right, ?_, ?_, ?_, rfl⟩
  · show (UInt8.ofNat _).toNat = _
    rw [List.length_map, UInt8.toNat_ofNat', Nat.mod_eq_of_lt]
    omega
  · rw [List.length_map]
    show 2 + 12 * _ ≤ 98
    omega
  · show 25 + 98 ≤ 148
    omega

/-- **The confirm of a discovery is right iff the MAC has reported a success.** -/
theorem discovery_right_iff (s : DiscoveryState) (buf : ZbBuf) (discovering : s.state = .disc)
    (last : s.discCount ≤ 1) :
    (∃ t hdr confirm ds,
        zbMlmeScanConfirm buf s = some (t, .networkDiscoveryConfirm hdr confirm ds) ∧
          ConfirmRight s.table.toExtNeighbors buf.scanConfirm.status hdr confirm ds) ↔
      buf.scanConfirm.status = macSuccess := by
  obtain ⟨t, built⟩ := @scanConfirm_spec s buf discovering last
  constructor
  · rintro ⟨u, hdr, confirm, ds, other, right⟩
    rw [built] at other
    cases other
    exact right.status.symm
  · intro success
    refine ⟨t, _, _, _, built, ?_⟩
    rw [success]
    exact descriptors_right s.table buf.hdr

end Confirm

/-! ## Poles -/

def freshBuf : ZbBuf := ⟨.zero, ⟨macSuccess, activeScan⟩⟩

/-- The last scan of a discovery, over before the MAC reports. -/
def lastScan (beacons : List Beacon) : DiscoveryState where
  state := .disc
  discCount := 1
  apsChannelMask := 0x800
  table := (ScanTable.start .init 11).gather none beacons

/-- The network is announced by a router, and then by its coordinator. -/
def announced (depth : UInt8) (sender : UInt16) : Beacon where
  srcPanId := 0x1AAA
  srcAddr := .short sender
  superframeSpec := (0xFF, 0xCF)
  logicalChannel := 11
  payload := some ⟨0, 1, 2, true, depth, true, Vector.replicate 8 7⟩

/-- With a beacon heard, the confirm is right. -/
theorem heard_reported :
    ∃ t hdr confirm ds,
      zbMlmeScanConfirm (scanDone activeScan true false freshBuf)
          (lastScan [announced 1 0x143E, announced 0 0]) =
        some (t, .networkDiscoveryConfirm hdr confirm ds) ∧
      ConfirmRight (lastScan [announced 1 0x143E, announced 0 0]).table.toExtNeighbors macSuccess hdr
        confirm ds :=
  (discovery_right_iff (lastScan [announced 1 0x143E, announced 0 0])
    (scanDone activeScan true false freshBuf) rfl (by decide)).2 rfl

-- the coordinator was heard last, and the descriptor is made of its record
example : (reported (lastScan [announced 1 0x143E, announced 0 0]).table.toExtNeighbors).map
    (·.shortAddr) = [0] := by decide

/-- **Nothing was heard**: the MAC reports that there is no beacon, and the confirm a success. -/
theorem no_beacon_reported :
    (scanDone activeScan false false freshBuf).scanConfirm.status = macNoBeacon ∧
      ∃ t hdr confirm ds,
        zbMlmeScanConfirm (scanDone activeScan false false freshBuf) (lastScan []) =
          some (t, .networkDiscoveryConfirm hdr confirm ds) ∧
        confirm.status = macSuccess ∧
        ¬ ConfirmRight (lastScan []).table.toExtNeighbors macNoBeacon hdr confirm ds := by
  obtain ⟨t, built⟩ := @scanConfirm_spec (lastScan []) (scanDone activeScan false false freshBuf)
    rfl (by decide)
  refine ⟨rfl, t, _, _, _, built, rfl, ?_⟩
  intro right
  exact absurd right.status (by decide)

end Zboss.Nwk.DiscoveryConfirm
