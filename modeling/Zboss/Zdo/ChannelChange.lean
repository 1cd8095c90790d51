/-
# Zdo.ChannelChange -- the channel the manager names, and the channel the network hears

The manager chooses a channel from an energy report, and sends it in a request whose channel
field is a mask.  It takes the channel out of the mask again for itself, and so does every
receiver.

* `mask_agreed`: a request that carries a mask of channels 11 to 26 is understood alike;
* `change_never_agreed`: the request of a decided change is not, for `zdo_change_channel` puts
  the number of the channel where the mask should stand: no receiver changes, and the manager
  moves to some other channel, if its search ends;
* `update_ends`: what a receiver does, and that its search ends;
* `decided_first_min`: the decision itself is the first of the channels with least energy.
-/
import Mathlib
import Zboss.Common.Constants
import Zboss.Secur.NwkRoundTrip

namespace Zboss.Zdo.ChannelChange

open Zboss.Common.Constants
open Zboss.Common.Types
open Zboss.Common.PacketBuf
open Zboss.Secur.NwkFrame
open Zboss.Secur.NwkRoundTrip

set_option autoImplicit false

/-! ## Constants -/

def zbMacStartChannelNumber : UInt8 := 11

def zbMacMaxChannelNumber : UInt8 := 26

def zbMacSupportedChannels : Nat := 16

def zbZdoMaxScanDuration : UInt8 := 5

def zbZdoNewActiveChannel : UInt8 := 0xFE

def zbZdoNewChannelMask : UInt8 := 0xFF

def zbChannelBusyEdValue : UInt8 := 0x60

def zbChannelFreeEdValue : UInt8 := 0x20

/-! ## The search for a channel in a mask -/

section Search

/- What `1l << i` is where C does not say: for `i` from 32 on. -/
variable (beyond : UInt8 → UInt32)

/-- `1l << i` -/
def oneShl (i : UInt8) : UInt32 := if i < 32 then 1 <<< i.toUInt32 else beyond i

/-- `while (!(scan_channels & (1l << i))) i++`.  The counter is a byte: a search that has not
ended after 256 steps does not end. -/
def findChannel (mask : UInt32) : Nat → UInt8 → Option UInt8
  | 0, _ => none
  | fuel + 1, i => if mask &&& oneShl beyond i ≠ 0 then some i else findChannel mask fuel (i + 1)

def firstChannel (mask : UInt32) : Option UInt8 := findChannel beyond mask 256 zbMacStartChannelNumber

/-! ## The request -/

structure ZbZdoMgmtNwkUpdateReqHdr where
  scanChannels : UInt32
  scanDuration : UInt8
  deriving DecidableEq

structure ZbZdoMgmtNwkUpdateReq where
  hdr : ZbZdoMgmtNwkUpdateReqHdr
  scanCount : UInt8
  updateId : UInt8
  managerAddr : UInt16
  dstAddr : UInt16
  deriving DecidableEq

/-- What `zb_zdo_mgmt_nwk_update_req` passes to APS, and the channel of the alarm of
`zb_zdo_new_channel_cb`. -/
structure SentUpdateReq where
  body : List UInt8
  dstAddr : UInt16
  respCounter : UInt8
  zdoCmdNoResp : Bool
  newChannel : Option UInt8
  deriving DecidableEq

/-- The bytes of the request, with the transaction number that `zdo_send_req` puts before them. -/
def updateReqBody (tsn : UInt8) (req : ZbZdoMgmtNwkUpdateReq) : List UInt8 :=
  [tsn] ++ uint32Bytes req.hdr.scanChannels ++ [req.hdr.scanDuration] ++
    (if req.hdr.scanDuration = zbZdoNewActiveChannel then [req.updateId]
    else if req.hdr.scanDuration = zbZdoNewChannelMask then
      [req.updateId] ++ uint16Bytes req.managerAddr
    else [req.scanCount])

/-- `none` when the search for the channel does not end. -/
def zbZdoMgmtNwkUpdateReq (tsn : UInt8) (req : ZbZdoMgmtNwkUpdateReq) : Option SentUpdateReq :=
  let body := updateReqBody tsn req
  if req.hdr.scanDuration ≤ zbZdoMaxScanDuration then
    some ⟨body, req.dstAddr, req.scanCount, false, none⟩
  else if req.hdr.scanDuration = zbZdoNewChannelMask then some ⟨body, req.dstAddr, 1, true, none⟩
  else if req.hdr.scanDuration = zbZdoNewActiveChannel then
    (firstChannel beyond req.hdr.scanChannels).map fun i => ⟨body, req.dstAddr, 1, true, some i⟩
  else some ⟨body, req.dstAddr, 1, false, none⟩

/-! ## The receiver -/

/-- What the receiver knows of the frame besides its bytes. -/
structure UpdateInd where
  srcAddr : UInt16
  unicast : Bool
  deriving DecidableEq

/-- What the receiver does. -/
inductive UpdateHandled where
  /-- the alarm of `zb_zdo_new_channel_cb` -/
  | newChannel (i : UInt8)
  | newMask (apsChannelMask : UInt32) (nwkManagerAddr : UInt16)
  /-- `nwk_upd_req`, and `zb_start_ed_scan` -/
  | edScan (req : ZbZdoMgmtNwkUpdateReqHdr) (scanCount : UInt8) (dstAddr : UInt16) (tsn : UInt8)
  | updNotify (status : UInt8) (tsn : UInt8) (dstAddr : UInt16)
  | nothing
  deriving DecidableEq

/-- The answer, if the frame was not broadcast. -/
def sendResp (ind : UpdateInd) (status tsn : UInt8) : UpdateHandled :=
  if ind.srcAddr < zbNwkBroadcastLowPowerRouter then .updNotify status tsn ind.srcAddr else .nothing

/-- `none` when the search for the channel does not end. -/
def zbZdoMgmtNwkUpdateHandler (ind : UpdateInd) (apsBody : List UInt8) : Option UpdateHandled :=
  let tsn := apsBody.getD 0 0
  let scanChannels := uint32At 1 apsBody
  let scanDuration := apsBody.getD 5 0
  if scanDuration = zbZdoNewActiveChannel then
    if (1 : UInt32) <<< zbMacStartChannelNumber.toUInt32 ≤ scanChannels ∧
        scanChannels ≤ (1 : UInt32) <<< zbMacMaxChannelNumber.toUInt32 then
      (firstChannel beyond scanChannels).map .newChannel
    else some .nothing
  else if scanDuration = zbZdoNewChannelMask then some (.newMask scanChannels (uint16At 7 apsBody))
  else if scanDuration ≤ zbZdoMaxScanDuration then
    let scanCount := apsBody.getD 6 0
    if scanCount > 5 then some (sendResp ind zbZdpStatusInvRequesttype tsn)
    else if scanCount > 0 then some (.edScan ⟨scanChannels, scanDuration⟩ scanCount ind.srcAddr tsn)
    else some (sendResp ind zbZdpStatusSuccess tsn)
  else if ind.unicast then some (sendResp ind zbNwkStatusInvalidRequest tsn)
  else some .nothing

end Search

/-! ## The decision -/

/-- The report, as it stands in the buffer: the energies and what lies behind them. -/
structure ZbZdoMgmtNwkUpdateNotify where
  status : UInt8
  scannedChannels : UInt32
  totalTransmissions : UInt16
  transmissionFailures : UInt16
  scannedChannelsListCount : UInt8
  energyValues : List UInt8
  deriving DecidableEq

structure ChannelManager where
  channelChanged : Bool
  updateId : UInt8
  tsn : UInt8
  logicalChannel : UInt8
  deriving DecidableEq

structure ScanResult where
  newChannelNum : UInt8
  minEnergy : UInt8
  currentEnergy : UInt8
  /-- how far `scan_result` has moved -/
  read : Nat
  deriving DecidableEq

/-- The channel of one turn of the loop. -/
def macChannel (k : Nat) : UInt8 := zbMacStartChannelNumber + UInt8.ofNat k

def scanned (mask : UInt32) (k : Nat) : Bool := mask &&& (1 <<< (macChannel k).toUInt32) != 0

def scanStep (current : UInt8) (notify : ZbZdoMgmtNwkUpdateNotify) (r : ScanResult) (k : Nat) :
    ScanResult :=
  if scanned notify.scannedChannels k then
    let energy := notify.energyValues.getD r.read 0
    let (newChannelNum, minEnergy) :=
      if energy < r.minEnergy then (macChannel k, energy) else (r.newChannelNum, r.minEnergy)
    let currentEnergy := if macChannel k = current then energy else r.currentEnergy
    ⟨newChannelNum, minEnergy, currentEnergy, r.read + 1⟩
  else r

/-- The loop of `zdo_change_channel`, after its first `n` turns. -/
def scanResult (current : UInt8) (notify : ZbZdoMgmtNwkUpdateNotify) (n : Nat) : ScanResult :=
  (List.range n).foldl (scanStep current notify) ⟨0, 0xff, 0, 0⟩

/-- The channel that `zdo_change_channel` decides to move to. -/
def decides (mgr : ChannelManager) (notify : ZbZdoMgmtNwkUpdateNotify) : Option UInt8 :=
  if mgr.channelChanged then none
  else if notify.status = zbZdpStatusSuccess ∧ notify.scannedChannelsListCount ≠ 0 then
    let r := scanResult mgr.logicalChannel notify zbMacSupportedChannels
    if r.currentEnergy > zbChannelBusyEdValue then
      if r.newChannelNum ≠ 0 ∧ r.minEnergy < zbChannelFreeEdValue then some r.newChannelNum else none
    else none
  else none

/-- The request of a decided change; `param` is what stands in the parameter of the buffer. -/
def changeReq (param : ZbZdoMgmtNwkUpdateReq) (updateId newChannelNum : UInt8) : ZbZdoMgmtNwkUpdateReq :=
  { param with
    hdr := ⟨newChannelNum.toUInt32, zbZdoNewActiveChannel⟩
    updateId := updateId
    dstAddr := zbNwkBroadcastRouterCoordinator }

inductive ChangeOutcome where
  | freed
  | sent (req : SentUpdateReq)
  deriving DecidableEq

/-- `none` when the search for the channel does not end. -/
def zdoChangeChannel (beyond : UInt8 → UInt32) (param : ZbZdoMgmtNwkUpdateReq)
    (notify : ZbZdoMgmtNwkUpdateNotify) (mgr : ChannelManager) :
    Option (ChannelManager × ChangeOutcome) :=
  match decides mgr notify with
  | none => some (mgr, .freed)
  | some newChannelNum => do
      let mgr := { mgr with updateId := mgr.updateId + 1, tsn := mgr.tsn + 1 }
      let sent ← zbZdoMgmtNwkUpdateReq beyond mgr.tsn (changeReq param mgr.updateId newChannelNum)
      return ({ mgr with channelChanged := true }, .sent sent)

/-! ## What the search finds -/

section Found

variable {beyond : UInt8 → UInt32} {mask : UInt32}

theorem findChannel_bit {r : UInt8} :
    ∀ {fuel : Nat} {i : UInt8}, findChannel beyond mask fuel i = some r →
      mask &&& oneShl beyond r ≠ 0 := by
  intro fuel
  induction fuel with
  | zero =>
      intro i found
      cases found
  | succ fuel ih =>
      intro i found
      rw [findChannel] at found
      split at found
      · rename_i bit
        cases found
        exact bit
      · exact ih found

/-- A search ends at the first of the channels it can reach. -/
theorem findChannel_of_reach :
    ∀ (far fuel : Nat) (i : UInt8), far < fuel →
      mask &&& oneShl beyond (i + UInt8.ofNat far) ≠ 0 →
      ∃ near, near ≤ far ∧ findChannel beyond mask fuel i = some (i + UInt8.ofNat near) := by
  intro far
  induction far with
  | zero =>
      intro fuel i room bit
      obtain ⟨fuel, rfl⟩ := Nat.exists_eq_add_of_lt room
      rw [show i + UInt8.ofNat 0 = i from UInt8.add_zero i] at bit
      refine ⟨0, le_refl 0, ?_⟩
      rw [show 0 + fuel + 1 = fuel + 1 by omega, findChannel, if_pos bit]
      exact congrArg some (UInt8.add_zero i).symm
  | succ far ih =>
      intro fuel i room bit
      obtain ⟨fuel, rfl⟩ : ∃ rest, fuel = rest + 1 := ⟨fuel - 1, by omega⟩
      have next : ∀ k : Nat, i + UInt8.ofNat (k + 1) = i + 1 + UInt8.ofNat k := by
        intro k
        rw [UInt8.ofNat_add, UInt8.add_comm (UInt8.ofNat k), ← UInt8.add_assoc]
        rfl
      by_cases here : mask &&& oneShl beyond i ≠ 0
      · refine ⟨0, Nat.zero_le _, ?_⟩
        rw [findChannel, if_pos here]
        exact congrArg some (UInt8.add_zero i).symm
      · rw [next] at bit
        obtain ⟨near, close, found⟩ := ih fuel (i + 1) (by omega) bit
        refine ⟨near + 1, by omega, ?_⟩
        rw [findChannel, if_neg here, found, next]

theorem oneShl_macChannel {k : Nat} (mac : k < zbMacSupportedChannels) :
    oneShl beyond (macChannel k) = 1 <<< (macChannel k).toUInt32 := by
  have inside : ∀ j < zbMacSupportedChannels, macChannel j < 32 := by decide
  rw [oneShl, if_pos (inside k mac)]

/-- A mask of channels 11 to 26 has one of them. -/
theorem exists_scanned (low : (1 : UInt32) <<< zbMacStartChannelNumber.toUInt32 ≤ mask)
    (high : mask ≤ (1 : UInt32) <<< zbMacMaxChannelNumber.toUInt32) :
    ∃ k < zbMacSupportedChannels, scanned mask k = true := by
  have low' : 2 ^ 11 ≤ mask.toNat := UInt32.le_iff_toNat_le.1 low
  have high' : mask.toNat ≤ 2 ^ 26 := UInt32.le_iff_toNat_le.1 high
  have some_bit : mask.toNat >>> 11 ≠ 0 := by
    rw [Nat.shiftRight_eq_div_pow]
    exact (Nat.div_pos low' (by decide)).ne'
  obtain ⟨k, bit⟩ := Nat.exists_testBit_of_ne_zero some_bit
  rw [Nat.testBit_shiftRight] at bit
  have small : k < 16 := by
    have reach := Nat.ge_two_pow_of_testBit bit
    by_contra far
    have : 2 ^ 27 ≤ 2 ^ (11 + k) := Nat.pow_le_pow_right (by decide) (by omega)
    omega
  refine ⟨k, small, ?_⟩
  rw [scanned, bne_iff_ne]
  intro zero
  have number : (1 : UInt32) <<< (macChannel k).toUInt32 = UInt32.ofNat (2 ^ (11 + k)) := by
    have all : ∀ j < 16, (1 : UInt32) <<< (macChannel j).toUInt32 = UInt32.ofNat (2 ^ (11 + j)) := by
      decide
    exact all k small
  have bits := congrArg (fun word : UInt32 => word.toNat.testBit (11 + k)) zero
  have fits : 2 ^ (11 + k) % 2 ^ 32 = 2 ^ (11 + k) :=
    Nat.mod_eq_of_lt (Nat.pow_lt_pow_right (by decide) (by omega))
  simp only [number, UInt32.toNat_and, UInt32.toNat_ofNat', fits, Nat.testBit_and, bit,
    Nat.testBit_two_pow_self, UInt32.toNat_zero, Nat.zero_testBit] at bits
  exact absurd bits (by decide)

/-- The search in such a mask ends at a channel of it. -/
theorem firstChannel_of_mask (low : (1 : UInt32) <<< zbMacStartChannelNumber.toUInt32 ≤ mask)
    (high : mask ≤ (1 : UInt32) <<< zbMacMaxChannelNumber.toUInt32) :
    ∃ k < zbMacSupportedChannels,
      scanned mask k = true ∧ firstChannel beyond mask = some (macChannel k) := by
  obtain ⟨far, mac, bit⟩ := exists_scanned low high
  have shifts : oneShl beyond (macChannel far) = 1 <<< (macChannel far).toUInt32 :=
    oneShl_macChannel mac
  rw [scanned, bne_iff_ne, ← shifts] at bit
  have room : far < 256 := lt_trans mac (by decide)
  obtain ⟨near, close, found⟩ := findChannel_of_reach far 256 zbMacStartChannelNumber room bit
  have mac' : near < zbMacSupportedChannels := lt_of_le_of_lt close mac
  refine ⟨near, mac', ?_, found⟩
  have shifts' : oneShl beyond (macChannel near) = 1 <<< (macChannel near).toUInt32 :=
    oneShl_macChannel mac'
  rw [scanned, bne_iff_ne, ← shifts']
  exact findChannel_bit found

end Found

/-! ## What a receiver does -/

section Receiver

/-- A request asks for scans, -/
def scans (scanDuration scanCount : UInt8) : Bool :=
  decide (scanDuration ≤ zbZdoMaxScanDuration) && decide (0 < scanCount) && decide (scanCount ≤ 5)

/-- or it asks for an answer at once, -/
def answersAtOnce (unicast : Bool) (scanDuration scanCount : UInt8) : Bool :=
  if scanDuration = zbZdoNewActiveChannel ∨ scanDuration = zbZdoNewChannelMask then false
  else if scanDuration ≤ zbZdoMaxScanDuration then decide (scanCount = 0 ∨ scanCount > 5)
  else unicast

/-- and is given one. -/
def notifies (ind : UpdateInd) (scanDuration scanCount : UInt8) : Bool :=
  decide (ind.srcAddr < zbNwkBroadcastLowPowerRouter) &&
    answersAtOnce ind.unicast scanDuration scanCount

def UpdateHandled.isScan : UpdateHandled → Bool
  | .edScan _ _ _ _ => true
  | _ => false

def UpdateHandled.isNotify : UpdateHandled → Bool
  | .updNotify _ _ _ => true
  | _ => false

theorem sendResp_kind {ind : UpdateInd} {status tsn : UInt8} :
    (sendResp ind status tsn).isScan = false ∧
      (sendResp ind status tsn).isNotify = decide (ind.srcAddr < zbNwkBroadcastLowPowerRouter) := by
  rw [sendResp]
  split
  · rename_i less
    exact ⟨rfl, (decide_eq_true less).symm⟩
  · rename_i more
    exact ⟨rfl, (decide_eq_false more).symm⟩

/-- **The search for a channel ends**, and what is done follows from the duration and the count. -/
theorem update_ends (beyond : UInt8 → UInt32) (ind : UpdateInd) (apsBody : List UInt8) :
    ∃ handled, zbZdoMgmtNwkUpdateHandler beyond ind apsBody = some handled ∧
      handled.isScan = scans (apsBody.getD 5 0) (apsBody.getD 6 0) ∧
      handled.isNotify = notifies ind (apsBody.getD 5 0) (apsBody.getD 6 0) := by
  rw [zbZdoMgmtNwkUpdateHandler, notifies, answersAtOnce, scans]
  by_cases active : apsBody.getD 5 0 = zbZdoNewActiveChannel
  · have long : ¬ zbZdoNewActiveChannel ≤ zbZdoMaxScanDuration := by decide
    have settled : apsBody.getD 5 0 = zbZdoNewActiveChannel ∨
        apsBody.getD 5 0 = zbZdoNewChannelMask := .inl active
    rw [if_pos active, if_pos settled, active, decide_eq_false long, Bool.and_false]
    by_cases mask : (1 : UInt32) <<< zbMacStartChannelNumber.toUInt32 ≤ uint32At 1 apsBody ∧
        uint32At 1 apsBody ≤ (1 : UInt32) <<< zbMacMaxChannelNumber.toUInt32
    · obtain ⟨k, -, -, found⟩ := @firstChannel_of_mask beyond _ mask.1 mask.2
      exact ⟨_, (if_pos mask).trans (congrArg _ found), rfl, rfl⟩
    · exact ⟨_, if_neg mask, rfl, rfl⟩
  rw [if_neg active]
  by_cases mask : apsBody.getD 5 0 = zbZdoNewChannelMask
  · have long : ¬ zbZdoNewChannelMask ≤ zbZdoMaxScanDuration := by decide
    have settled : apsBody.getD 5 0 = zbZdoNewActiveChannel ∨
        apsBody.getD 5 0 = zbZdoNewChannelMask := .inr mask
    rw [if_pos settled, mask, decide_eq_false long, Bool.and_false]
    exact ⟨_, if_pos rfl, rfl, rfl⟩
  have other : ¬ (apsBody.getD 5 0 = zbZdoNewActiveChannel ∨
      apsBody.getD 5 0 = zbZdoNewChannelMask) := not_or.2 ⟨active, mask⟩
  rw [if_neg mask, if_neg other]
  by_cases scan : apsBody.getD 5 0 ≤ zbZdoMaxScanDuration
  · rw [if_pos scan, if_pos scan, decide_eq_true scan, Bool.true_and]
    by_cases many : apsBody.getD 6 0 > 5
    · have wrong : apsBody.getD 6 0 = 0 ∨ apsBody.getD 6 0 > 5 := .inr many
      rw [decide_eq_true wrong, decide_eq_false (UInt8.not_le.2 many), Bool.and_true, Bool.and_false]
      exact ⟨_, if_pos many, sendResp_kind⟩
    by_cases some_ : apsBody.getD 6 0 > 0
    · have right : ¬ (apsBody.getD 6 0 = 0 ∨ apsBody.getD 6 0 > 5) := by
        rintro (zero | more)
        · rw [zero] at some_
          exact absurd some_ (by decide)
        · exact many more
      rw [decide_eq_false right, decide_eq_true some_, decide_eq_true (UInt8.not_lt.1 many),
        Bool.and_false]
      exact ⟨_, (if_neg many).trans (if_pos some_), rfl, rfl⟩
    · have wrong : apsBody.getD 6 0 = 0 ∨ apsBody.getD 6 0 > 5 :=
        .inl (Classical.not_not.1 fun other => some_ (UInt8.pos_iff_ne_zero.2 other))
      rw [decide_eq_true wrong, decide_eq_false some_, Bool.and_true, Bool.false_and]
      exact ⟨_, (if_neg many).trans (if_neg some_), sendResp_kind⟩
  rw [if_neg scan, if_neg scan, decide_eq_false scan, Bool.false_and, Bool.false_and]
  cases unicast : ind.unicast with
  | true =>
      rw [Bool.and_true]
      exact ⟨_, if_pos rfl, sendResp_kind⟩
  | false =>
      rw [Bool.and_false]
      exact ⟨_, if_neg Bool.false_ne_true, rfl, rfl⟩

end Receiver

/-! ## A mask is understood alike -/

section Agreement

variable (beyond : UInt8 → UInt32)

/-- The sender of a request and every receiver move to one channel. -/
def ChannelAgreed (tsn : UInt8) (req : ZbZdoMgmtNwkUpdateReq) (c : UInt8) : Prop :=
  ∃ sent, zbZdoMgmtNwkUpdateReq beyond tsn req = some sent ∧ sent.newChannel = some c ∧
    ∀ ind, zbZdoMgmtNwkUpdateHandler beyond ind sent.body = some (.newChannel c)

/-- What a receiver reads of a request for a new channel. -/
theorem handler_newChannel (ind : UpdateInd) (tsn : UInt8) (req : ZbZdoMgmtNwkUpdateReq)
    (change : req.hdr.scanDuration = zbZdoNewActiveChannel) :
    zbZdoMgmtNwkUpdateHandler beyond ind (updateReqBody tsn req) =
      if (1 : UInt32) <<< zbMacStartChannelNumber.toUInt32 ≤ req.hdr.scanChannels ∧
          req.hdr.scanChannels ≤ (1 : UInt32) <<< zbMacMaxChannelNumber.toUInt32 then
        (firstChannel beyond req.hdr.scanChannels).map .newChannel
      else some .nothing := by
  have channels : uint32At 1 (updateReqBody tsn req) = req.hdr.scanChannels := by
    rw [updateReqBody, List.append_assoc]
    exact uint32At_bytes _ _ _
  have duration : (updateReqBody tsn req).getD 5 0 = zbZdoNewActiveChannel := by
    rw [← change]
    rfl
  simp only [zbZdoMgmtNwkUpdateHandler, channels, duration, if_true]

theorem updateReq_newChannel (tsn : UInt8) (req : ZbZdoMgmtNwkUpdateReq)
    (change : req.hdr.scanDuration = zbZdoNewActiveChannel) :
    zbZdoMgmtNwkUpdateReq beyond tsn req =
      (firstChannel beyond req.hdr.scanChannels).map fun i =>
        ⟨updateReqBody tsn req, req.dstAddr, 1, true, some i⟩ := by
  have long : ¬ zbZdoNewActiveChannel ≤ zbZdoMaxScanDuration := by decide
  have other : zbZdoNewActiveChannel ≠ zbZdoNewChannelMask := by decide
  simp only [zbZdoMgmtNwkUpdateReq, change, if_neg long, if_neg other, if_true]

/-- **A mask is understood alike**: the sender and every receiver take the same channel out of
a mask of channels 11 to 26. -/
theorem mask_agreed (tsn : UInt8) (req : ZbZdoMgmtNwkUpdateReq)
    (change : req.hdr.scanDuration = zbZdoNewActiveChannel)
    (low : (1 : UInt32) <<< zbMacStartChannelNumber.toUInt32 ≤ req.hdr.scanChannels)
    (high : req.hdr.scanChannels ≤ (1 : UInt32) <<< zbMacMaxChannelNumber.toUInt32) :
    ∃ k < zbMacSupportedChannels,
      scanned req.hdr.scanChannels k = true ∧ ChannelAgreed beyond tsn req (macChannel k) := by
  obtain ⟨k, mac, bit, found⟩ : ∃ k < zbMacSupportedChannels,
      scanned req.hdr.scanChannels k = true ∧
        firstChannel beyond req.hdr.scanChannels = some (macChannel k) :=
    firstChannel_of_mask low high
  refine ⟨k, mac, bit, ⟨updateReqBody tsn req, req.dstAddr, 1, true, some (macChannel k)⟩, ?_, rfl, ?_⟩
  · rw [updateReq_newChannel beyond tsn req change, found]
    rfl
  · intro ind
    rw [handler_newChannel beyond ind tsn req change, if_pos ⟨low, high⟩, found]
    rfl

end Agreement

/-! ## The decision is the first least energy -/

section Decision

variable {current : UInt8} {notify : ZbZdoMgmtNwkUpdateNotify}

/-- Where the energy of a channel stands in the report. -/
def energyIndex (mask : UInt32) (k : Nat) : Nat := ((List.range k).filter (scanned mask)).length

def energyOf (notify : ZbZdoMgmtNwkUpdateNotify) (k : Nat) : UInt8 :=
  notify.energyValues.getD (energyIndex notify.scannedChannels k) 0

/-- The first of the scanned channels with least energy, among the first `n`. -/
structure FirstMin (notify : ZbZdoMgmtNwkUpdateNotify) (n k : Nat) : Prop where
  mac : k < n
  scanned : scanned notify.scannedChannels k = true
  least : ∀ j < n, ChannelChange.scanned notify.scannedChannels j = true →
    energyOf notify k ≤ energyOf notify j
  first : ∀ j < k, ChannelChange.scanned notify.scannedChannels j = true →
    energyOf notify k < energyOf notify j

/-- What the loop knows after `n` turns. -/
structure Scanning (notify : ZbZdoMgmtNwkUpdateNotify) (n : Nat) (r : ScanResult) : Prop where
  read : r.read = energyIndex notify.scannedChannels n
  least : ∀ j < n, scanned notify.scannedChannels j = true → r.minEnergy ≤ energyOf notify j
  found : r.newChannelNum ≠ 0 → ∃ k, r.newChannelNum = macChannel k ∧
    r.minEnergy = energyOf notify k ∧ FirstMin notify n k

theorem energyIndex_succ (mask : UInt32) (n : Nat) :
    energyIndex mask (n + 1) = energyIndex mask n + if scanned mask n then 1 else 0 := by
  rw [energyIndex, List.range_succ, List.filter_append, List.length_append]
  congr 1
  cases bit : scanned mask n <;> simp [bit]

/-- One turn of the loop. -/
theorem scanning_step {n : Nat} {r : ScanResult} (known : Scanning notify n r) :
    Scanning notify (n + 1) (scanStep current notify r n) := by
  have index := energyIndex_succ notify.scannedChannels n
  cases bit : scanned notify.scannedChannels n with
  | false =>
      have older : ∀ j < n + 1, scanned notify.scannedChannels j = true → j < n := by
        intro j near on
        rcases Nat.lt_succ_iff_lt_or_eq.1 near with earlier | rfl
        · exact earlier
        · exact absurd (bit.symm.trans on) (by decide)
      rw [scanStep, bit, if_neg (by decide)]
      refine ⟨?_, ?_, ?_⟩
      · rw [known.read, index, bit]
        rfl
      · intro j near on
        exact known.least j (older j near on) on
      · intro chosen
        obtain ⟨k, number, energy, min⟩ := known.found chosen
        refine ⟨k, number, energy, ⟨by have := min.mac; omega, min.scanned, ?_, min.first⟩⟩
        intro j near on
        exact min.least j (older j near on) on
  | true =>
      have energy : notify.energyValues.getD r.read 0 = energyOf notify n := by
        rw [energyOf, known.read]
      have next : r.read + 1 = energyIndex notify.scannedChannels (n + 1) := by
        rw [known.read, index, bit]
        rfl
      rw [scanStep, bit, if_pos rfl]
      simp only [energy]
      by_cases less : energyOf notify n < r.minEnergy
      · rw [if_pos less]
        have below : ∀ j < n, scanned notify.scannedChannels j = true →
            energyOf notify n < energyOf notify j := by
          intro j near on
          exact UInt8.lt_of_lt_of_le less (known.least j near on)
        have least : ∀ j < n + 1, scanned notify.scannedChannels j = true →
            energyOf notify n ≤ energyOf notify j := by
          intro j near on
          rcases Nat.lt_succ_iff_lt_or_eq.1 near with earlier | rfl
          · exact UInt8.le_of_lt (below j earlier on)
          · exact UInt8.le_refl _
        exact ⟨next, least, fun _ => ⟨n, rfl, rfl, ⟨Nat.lt_succ_self n, bit, least, below⟩⟩⟩
      · rw [if_neg less]
        have least : ∀ j < n + 1, scanned notify.scannedChannels j = true →
            r.minEnergy ≤ energyOf notify j := by
          intro j near on
          rcases Nat.lt_succ_iff_lt_or_eq.1 near with earlier | rfl
          · exact known.least j earlier on
          · exact UInt8.not_lt.1 less
        refine ⟨next, least, ?_⟩
        intro chosen
        obtain ⟨k, number, minimal, min⟩ := known.found chosen
        refine ⟨k, number, minimal, ⟨by have := min.mac; omega, min.scanned, ?_, min.first⟩⟩
        intro j near on
        rw [← minimal]
        exact least j near on

theorem scanning_scanResult (current : UInt8) (notify : ZbZdoMgmtNwkUpdateNotify) (n : Nat) :
    Scanning notify n (scanResult current notify n) := by
  induction n with
  | zero =>
      refine ⟨rfl, ?_, ?_⟩
      · intro j near
        exact absurd near (Nat.not_lt_zero j)
      · intro chosen
        exact absurd rfl chosen
  | succ n ih =>
      rw [scanResult, List.range_succ, List.foldl_append]
      exact scanning_step ih

variable {mgr : ChannelManager} {c : UInt8}

theorem decides_some (decided : decides mgr notify = some c) :
    c ≠ 0 ∧ c = (scanResult mgr.logicalChannel notify zbMacSupportedChannels).newChannelNum := by
  rw [decides] at decided
  split at decided
  · cases decided
  · split at decided
    · dsimp only at decided
      split at decided
      · split at decided
        · rename_i nonzero
          cases decided
          exact ⟨nonzero.1, rfl⟩
        · cases decided
      · cases decided
    · cases decided

/-- **The decision** is the first scanned channel of least energy, of channels 11 to 26. -/
theorem decided_first_min (decided : decides mgr notify = some c) :
    ∃ k, c = macChannel k ∧ FirstMin notify zbMacSupportedChannels k := by
  obtain ⟨nonzero, is⟩ := decides_some decided
  have known := scanning_scanResult mgr.logicalChannel notify zbMacSupportedChannels
  rw [is] at nonzero
  obtain ⟨k, number, -, min⟩ := known.found nonzero
  exact ⟨k, is.trans number, min⟩

end Decision

/-! ## The request of a decided change -/

section Change

variable (beyond : UInt8 → UInt32) {mgr : ChannelManager} {notify : ZbZdoMgmtNwkUpdateNotify}
  {c : UInt8}

/-- The number of a channel has not the bit of the channel, and is no mask of channels. -/
theorem channel_number_no_mask :
    ∀ k < zbMacSupportedChannels,
      (macChannel k).toUInt32 &&& (1 <<< (macChannel k).toUInt32) = 0 ∧
        ¬ (1 : UInt32) <<< zbMacStartChannelNumber.toUInt32 ≤ (macChannel k).toUInt32 := by
  decide

/-- No receiver moves. -/
theorem change_unheard (decided : decides mgr notify = some c) (tsn updateId : UInt8)
    (param : ZbZdoMgmtNwkUpdateReq) (ind : UpdateInd) :
    zbZdoMgmtNwkUpdateHandler beyond ind (updateReqBody tsn (changeReq param updateId c)) =
      some .nothing := by
  obtain ⟨k, rfl, min⟩ := decided_first_min decided
  rw [handler_newChannel beyond ind tsn _ rfl, if_neg]
  intro channels
  exact (channel_number_no_mask k min.mac).2 channels.1

/-- The manager does not move to the channel it chose. -/
theorem change_not_chosen (decided : decides mgr notify = some c) :
    firstChannel beyond c.toUInt32 ≠ some c := by
  obtain ⟨k, rfl, min⟩ := decided_first_min decided
  intro found
  have bit := findChannel_bit found
  rw [oneShl_macChannel min.mac] at bit
  exact bit (channel_number_no_mask k min.mac).1

/-- What the manager sends of a decided change. -/
theorem zdoChangeChannel_decided (param : ZbZdoMgmtNwkUpdateReq)
    (decided : decides mgr notify = some c) :
    zdoChangeChannel beyond param notify mgr =
      (firstChannel beyond c.toUInt32).map fun i =>
        ({ mgr with updateId := mgr.updateId + 1, tsn := mgr.tsn + 1, channelChanged := true },
          .sent ⟨updateReqBody (mgr.tsn + 1) (changeReq param (mgr.updateId + 1) c),
            zbNwkBroadcastRouterCoordinator, 1, true, some i⟩) := by
  rw [zdoChangeChannel, decided]
  dsimp only
  rw [updateReq_newChannel beyond _ _ rfl]
  have mask : (changeReq param (mgr.updateId + 1) c).hdr.scanChannels = c.toUInt32 := rfl
  rw [mask]
  cases firstChannel beyond c.toUInt32 <;> rfl

/-- The decided change is sent; the manager and every receiver, whatever its machine, move to
the channel chosen. -/
def ChangeAgreed (beyond : UInt8 → UInt32) (param : ZbZdoMgmtNwkUpdateReq)
    (notify : ZbZdoMgmtNwkUpdateNotify) (mgr : ChannelManager) (c : UInt8) : Prop :=
  ∃ mgr' sent, zdoChangeChannel beyond param notify mgr = some (mgr', .sent sent) ∧
    sent.newChannel = some c ∧
    ∀ beyond' ind, zbZdoMgmtNwkUpdateHandler beyond' ind sent.body = some (.newChannel c)

/-- **A decided change is never agreed**: whatever the report, the manager does not move to the
channel it chose; nor does any receiver (`change_unheard`). -/
theorem change_never_agreed (beyond : UInt8 → UInt32) (param : ZbZdoMgmtNwkUpdateReq)
    (notify : ZbZdoMgmtNwkUpdateNotify) (mgr : ChannelManager) (c : UInt8)
    (decided : decides mgr notify = some c) :
    ¬ ChangeAgreed beyond param notify mgr c := by
  rintro ⟨mgr', sent, changed, moved, -⟩
  rw [zdoChangeChannel_decided beyond param decided] at changed
  obtain ⟨i, found, is⟩ := Option.map_eq_some_iff.1 changed
  cases is
  cases moved
  exact change_not_chosen beyond decided found

end Change

/-! ## A pole -/

def busyManager : ChannelManager := ⟨false, 0, 0, 20⟩

def twoChannels : ZbZdoMgmtNwkUpdateNotify := ⟨0, 0x00100800, 0, 0, 2, [0x10, 0x70]⟩

def emptyParam : ZbZdoMgmtNwkUpdateReq := ⟨⟨0, 0⟩, 0, 0, 0, 0⟩

/-- Of channels 11 and 20, with 20 in use and busy, the manager chooses 11 and sends the number
11; its own search passes 255 and ends at 0, and a receiver does nothing. -/
theorem eleven_not_agreed :
    decides busyManager twoChannels = some 11 ∧
      zdoChangeChannel (fun _ => 0) emptyParam twoChannels busyManager =
        some (⟨true, 1, 1, 20⟩, .sent ⟨[1, 11, 0, 0, 0, 0xFE, 1], 0xFFFC, 1, true, some 0⟩) ∧
      zbZdoMgmtNwkUpdateHandler (fun _ => 0) ⟨0, false⟩ [1, 11, 0, 0, 0, 0xFE, 1] = some .nothing ∧
      ¬ ChangeAgreed (fun _ => 0) emptyParam twoChannels busyManager 11 := by
  refine ⟨by decide, by decide +kernel, by decide, ?_⟩
  rintro ⟨mgr', sent, changed, moved, -⟩
  have ran : zdoChangeChannel (fun _ => 0) emptyParam twoChannels busyManager =
      some (⟨true, 1, 1, 20⟩, .sent ⟨[1, 11, 0, 0, 0, 0xFE, 1], 0xFFFC, 1, true, some 0⟩) := by
    decide +kernel
  cases ran.symm.trans changed
  cases moved

/-- `change_never_agreed` at that report. -/
theorem eleven_never_agreed :
    decides busyManager twoChannels = some 11 ∧
      ¬ ChangeAgreed (fun _ => 0) emptyParam twoChannels busyManager 11 :=
  ⟨by decide, change_never_agreed (fun _ => 0) emptyParam twoChannels busyManager 11 (by decide)⟩

end Zboss.Zdo.ChannelChange
