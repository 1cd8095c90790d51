/-
# Nwk.Formation -- the channel and the PAN identifier of a new network

A network is formed in two scans: the energy on every channel, and then the beacons on those
that are quiet enough.  The beacons should be noted in the extended neighbour table, and the
channel with the fewest networks be taken.  But the handler of beacons notes them in a
discovery or a rejoin only: the table is empty when the channel is selected, every channel
seems to have no network, and the first one is taken with the PAN identifier at hand.

* `formation_selects`: whatever is heard, the lowest of the channels that are quiet enough is
  selected, with the PAN identifier of the MAC, or the first random number when that is zero;
* `formation_lawful_iff`: so the choice is right exactly when this channel and this identifier
  happen to be;
* `disc_notes_beacon`: the same beacon in a discovery leaves its channel in the table;
* `own_network_twice`: a network is formed beside one of the same identifier.

The table is empty when the formation begins.  A network is told by its extended PAN identifier.
-/
import Mathlib
import Zboss.Common.Constants
import Zboss.Theory.Run

namespace Zboss.Nwk.Formation

open Zboss.Common.Constants
open Zboss.Theory.Run

set_option autoImplicit false

/-! ## Constants -/

def zbMacStartChannelNumber : Nat := 11

def zbMacMaxChannelNumber : Nat := 26

def zbMacSupportedChannels : Nat := zbMacMaxChannelNumber - zbMacStartChannelNumber + 1

def zbNwkChannelAcceptLevel : UInt8 := 60

def zbNwkStatusStartupFailure : UInt8 := 0xC4

/-! ## State -/

inductive ZbNlmeState where
  | idle
  | disc
  | formationEdScan
  | formationActiveScan
  | formation
  | router
  | edScan
  | rejoin
  | orphanScan
  | reset
  | panidConflictResolution
  deriving DecidableEq

inductive ScanType where
  | edScan
  | activeScan
  deriving DecidableEq

structure ZbPanMap where
  longPanid : UInt64
  shortPanid : UInt16
  deriving DecidableEq

/-- What finds the sender of a beacon again: its addresses, as they are in the beacon, and its
PAN. -/
structure ExNeighborKey where
  shortAddr : UInt16
  longAddr : UInt64
  panidRef : Nat
  deriving DecidableEq

structure ZbExtNeighborTblEnt extends ExNeighborKey where
  logicalChannel : Nat
  deriving DecidableEq

/-- What is asked of the MAC and told to the ZDO. -/
inductive FormCall where
  | scanRequest (scanType : ScanType) (channels : UInt32) (duration : UInt8)
  | mlmeStart (panId : UInt16) (channel : Nat)
  | formationConfirm (status : UInt8)
  | panidConflict (srcPanId : UInt16)
  deriving DecidableEq

/-- `tmp` is the union of the handle, byte by byte: `energy_detect`, then `channel_pan_count`, then
`panid_handled_bm`. -/
structure FormState where
  state : ZbNlmeState
  joined : Bool
  joinedPro : Bool
  scanChannels : UInt32
  scanDuration : UInt8
  tmp : Nat → UInt8
  panMap : Nat → Option ZbPanMap
  extNeighbor : List ZbExtNeighborTblEnt
  extNeighborSize : Nat
  calls : List FormCall

def FormState.init : FormState where
  state := .idle
  joined := false
  joinedPro := false
  scanChannels := 0
  scanDuration := 0
  tmp _ := 0
  panMap _ := none
  extNeighbor := []
  extNeighborSize := 0
  calls := []

/-- What is read of the rest of the device. -/
structure FormEnv where
  macPanId : UInt16
  /-- `ZB_RANDOM()`, in the order of the calls. -/
  random : Nat → UInt16
  /-- `ZB_ADDRESS_PAN_ID_HASH`, before the division by the size of the table. -/
  panIdHash : UInt64 → Nat
  /-- What `zb_nwk_exneighbor_start` cuts off the neighbour table. -/
  extRoom : Nat
  rejoinExtPanId : UInt64
  nibPanId : UInt16
  nibExtPanId : UInt64
  isManager : Bool

inductive MacSrcAddr where
  | short (addr : UInt16)
  | long (addr : UInt64)
  deriving DecidableEq

/-- What is read of a beacon; `zigbee` is that it has a payload of this protocol and version. -/
structure Beacon where
  srcPanId : UInt16
  srcAddr : MacSrcAddr
  logicalChannel : Nat
  hasPayload : Bool
  zigbee : Bool
  extendedPanid : UInt64
  deriving DecidableEq

/-! ## Beacons -/

/-- The places of the table of PANs in the order of the search. -/
def panPlaces (env : FormEnv) (panId : UInt64) : List Nat :=
  (List.range zbPanidTableSize).map fun k => (env.panIdHash panId + k) % zbPanidTableSize

/-- `none` is `RET_OVERFLOW`; a new PAN is put in the last free place of the search. -/
def zbAddressSetPanId (env : FormEnv) (shortPanId : UInt16) (panId : UInt64)
    (panMap : Nat → Option ZbPanMap) : Option ((Nat → Option ZbPanMap) × Nat) :=
  match (panPlaces env panId).find? fun i => (panMap i).any (·.longPanid == panId) with
  | some i => some (panMap, i)
  | none =>
      ((panPlaces env panId).reverse.find? fun i => (panMap i).isNone).map fun i =>
        (Function.update panMap i (some ⟨panId, shortPanId⟩), i)

/-- `zb_nwk_exneighbor_by_short` finds the first entry, `zb_nwk_exneighbor_by_ieee` the last. -/
def findExNeighbor {Ent : Type} (key : Ent → ExNeighborKey) (panidRef : Nat) (srcAddr : MacSrcAddr)
    (ext : List Ent) : Option Nat :=
  match srcAddr with
  | .short addr =>
      (List.range ext.length).find? fun i =>
        ext[i]?.any fun en => (key en).shortAddr == addr && (key en).panidRef == panidRef
  | .long addr =>
      (List.range ext.length).reverse.find? fun i =>
        ext[i]?.any fun en => (key en).longAddr == addr && (key en).panidRef == panidRef

/-- Whose entry it is from the beginning. -/
def keyOf (panidRef : Nat) : MacSrcAddr → ExNeighborKey
  | .short addr => ⟨addr, 0, panidRef⟩
  | .long addr => ⟨0xFFFF, addr, panidRef⟩

/-- The entry that `alloc_new_extneiboard` makes. -/
def newExNeighbor (panidRef : Nat) (srcAddr : MacSrcAddr) : ZbExtNeighborTblEnt :=
  ⟨keyOf panidRef srcAddr, 0⟩

/-- The table with an entry for the sender; `none` when it is full. -/
def zbNwkExneighborBy (panidRef : Nat) (srcAddr : MacSrcAddr) (s : FormState) :
    Option (List ZbExtNeighborTblEnt × Nat) :=
  match findExNeighbor (·.toExNeighborKey) panidRef srcAddr s.extNeighbor with
  | some i => some (s.extNeighbor, i)
  | none =>
      if s.extNeighbor.length = s.extNeighborSize then none
      else some (s.extNeighbor ++ [newExNeighbor panidRef srcAddr], s.extNeighbor.length)

/-- The sender of a beacon is noted, with its channel and PAN. -/
def noteBeacon (env : FormEnv) (b : Beacon) (s : FormState) : FormState :=
  match zbAddressSetPanId env b.srcPanId b.extendedPanid s.panMap with
  | none => s
  | some (panMap, panidRef) =>
      match zbNwkExneighborBy panidRef b.srcAddr s with
      | none => { s with panMap }
      | some (ext, i) =>
          { s with
            panMap
            extNeighbor :=
              ext.modify i fun en => { en with panidRef, logicalChannel := b.logicalChannel } }

def zbMlmeBeaconNotifyIndication (env : FormEnv) (b : Beacon) (s : FormState) : FormState :=
  if s.state = .disc ∨ s.state = .rejoin then
    if b.hasPayload ∧ b.zigbee ∧ (s.state ≠ .rejoin ∨ b.extendedPanid = env.rejoinExtPanId) then
      noteBeacon env b s
    else s
  else if s.joined ∧ ¬ s.joinedPro then
    if b.srcPanId = env.nibPanId ∧ b.hasPayload ∧ b.extendedPanid ≠ env.nibExtPanId then
      { s with
        state := if env.isManager then .idle else s.state
        calls := s.calls ++ [.panidConflict b.srcPanId] }
    else s
  -- any other state, also the active scan of a formation: the beacon is ignored
  else s

/-! ## The energy scan -/

/-- `mask & (1l << i)` -/
def onChannel (mask : UInt32) (i : Nat) : Bool := mask &&& 1 <<< UInt32.ofNat i != 0

/-- `MAGIC_IS_POWER_OF_TWO` -/
def magicIsPowerOfTwo (x : UInt32) : Bool := x &&& (x - 1) == 0

def zbNlmeNetworkFormationRequest (scanChannels : UInt32) (scanDuration : UInt8) (s : FormState) :
    FormState :=
  if s.state = .idle ∧ ¬ s.joined then
    let single := magicIsPowerOfTwo scanChannels
    { s with
      scanChannels
      scanDuration
      state := if single then .formationActiveScan else .formationEdScan
      calls :=
        s.calls ++
          [.scanRequest (if single then .activeScan else .edScan) scanChannels scanDuration] }
  else { s with calls := s.calls ++ [.formationConfirm zbNwkStatusInvalidRequest] }

/-- One turn of the loop over the energies. -/
def clearBusyChannel (energy : Nat → UInt8) (mask : UInt32) (i : Nat) : UInt32 :=
  if onChannel mask (zbMacStartChannelNumber + i) && decide (energy i > zbNwkChannelAcceptLevel) then
    mask ^^^ 1 <<< UInt32.ofNat (zbMacStartChannelNumber + i)
  else mask

def clearBusy (energy : Nat → UInt8) (mask : UInt32) : UInt32 :=
  (List.range zbMacSupportedChannels).foldl (clearBusyChannel energy) mask

/-- The table that is there already is kept. -/
def zbNwkExneighborStart (env : FormEnv) (s : FormState) : FormState :=
  if s.extNeighborSize ≠ 0 then s else { s with extNeighborSize := env.extRoom }

def nwkFormationEdScanConfirm (env : FormEnv) (energy : Nat → UInt8) (s : FormState) : FormState :=
  let tmp i := if i < zbMacSupportedChannels then energy i else s.tmp i
  let scanChannels := clearBusy energy s.scanChannels
  if scanChannels ≠ 0 then
    let s := zbNwkExneighborStart env { s with tmp, scanChannels }
    { s with
      state := .formationActiveScan
      calls := s.calls ++ [.scanRequest .activeScan scanChannels s.scanDuration] }
  else
    { s with
      tmp
      scanChannels
      state := .idle
      calls := s.calls ++ [.formationConfirm zbNwkStatusStartupFailure] }

/-! ## The selection -/

/-- `energy_detect[i]`: the results are stored from 0 on, and read by the number of the channel. -/
def energyDetect (tmp : Nat → UInt8) (i : Nat) : UInt8 := tmp i

/-- The place of `channel_pan_count[i]`, which is moved by the number of the first channel. -/
def panCountAt (i : Nat) : Nat := zbMacSupportedChannels + i - zbMacStartChannelNumber

/-- The place of the byte of `panid_handled_bm` with a reference. -/
def handledAt (panidRef : Nat) : Nat := 2 * zbMacSupportedChannels + panidRef / 8

def isHandled (tmp : Nat → UInt8) (panidRef : Nat) : Bool :=
  tmp (handledAt panidRef) &&& 1 <<< UInt8.ofNat (panidRef % 8) != 0

/-- `ZB_BZERO` of `panid_handled_bm` and of `channel_pan_count`. -/
def zeroCounts (tmp : Nat → UInt8) : Nat → UInt8 := fun i =>
  if zbMacSupportedChannels ≤ i ∧ i ≤ handledAt zbPanidTableSize then 0 else tmp i

/-- One turn of the loop that counts the networks. -/
def countNetwork (tmp : Nat → UInt8) (en : ZbExtNeighborTblEnt) : Nat → UInt8 :=
  if isHandled tmp en.panidRef then tmp
  else
    let tmp := Function.update tmp (handledAt en.panidRef)
      (tmp (handledAt en.panidRef) ||| 1 <<< UInt8.ofNat (en.panidRef % 8))
    Function.update tmp (panCountAt en.logicalChannel) (tmp (panCountAt en.logicalChannel) + 1)

def countNetworks (ext : List ZbExtNeighborTblEnt) (tmp : Nat → UInt8) : Nat → UInt8 :=
  ext.foldl countNetwork (zeroCounts tmp)

/-- The variables of the selection; `drawn` is how many random numbers have been used. -/
structure Selection where
  channel : Nat
  channelNetworks : UInt8
  channelEd : UInt8
  panId : UInt16
  uniquePanId : Bool
  drawn : Nat
  deriving DecidableEq

/-- The search for a channel, from one on: it ends at a channel without networks. -/
def searchChannel (env : FormEnv) (scanChannels : UInt32) (tmp : Nat → UInt8) :
    List Nat → Selection → Selection
  | [], sel => sel
  | i :: rest, sel =>
      if onChannel scanChannels i ∧ tmp (panCountAt i) ≤ sel.channelNetworks then
        if tmp (panCountAt i) = sel.channelNetworks ∧ energyDetect tmp i > sel.channelEd then
          searchChannel env scanChannels tmp rest sel
        else
          let sel :=
            { sel with
              channel := i
              channelNetworks := tmp (panCountAt i)
              channelEd := energyDetect tmp i }
          if tmp (panCountAt i) = 0 then
            if sel.panId = 0 then
              { sel with panId := env.random sel.drawn, uniquePanId := true, drawn := sel.drawn + 1 }
            else { sel with uniquePanId := true }
          else searchChannel env scanChannels tmp rest sel
      else searchChannel env scanChannels tmp rest sel

/-- The identifier is that of a network in the table, on the channel. -/
def panIdOnChannel (s : FormState) (channel : Nat) (panId : UInt16) : Bool :=
  s.extNeighbor.any fun en =>
    en.logicalChannel == channel && (s.panMap en.panidRef).any (·.shortPanid == panId)

/-- The loop that draws an identifier; `none` when it has not ended. -/
def drawPanId (env : FormEnv) (s : FormState) : Nat → Selection → Option Selection
  | 0, sel => if sel.uniquePanId then some sel else none
  | fuel + 1, sel =>
      if sel.uniquePanId then some sel
      else
        let panId := env.random sel.drawn
        drawPanId env s fuel
          { sel with
            panId, drawn := sel.drawn + 1, uniquePanId := !panIdOnChannel s sel.channel panId }

def startSelection (env : FormEnv) : Selection :=
  ⟨zbMacStartChannelNumber, 0xff, 0xff, env.macPanId, false, 0⟩

def nwkFormationSelectChannel (env : FormEnv) (fuel : Nat) (s : FormState) : Option FormState :=
  let tmp := countNetworks s.extNeighbor s.tmp
  let sel := searchChannel env s.scanChannels tmp
    (List.range' zbMacStartChannelNumber zbMacSupportedChannels) (startSelection env)
  (if sel.channel ≠ zbMacStartChannelNumber then drawPanId env s fuel sel else some sel).map
    fun sel =>
      if sel.channel ≤ zbMacMaxChannelNumber ∧ sel.uniquePanId then
        { s with
          tmp
          state := .formation
          calls := s.calls ++ [.mlmeStart sel.panId sel.channel] }
      else
        { s with
          tmp
          state := .idle
          calls := s.calls ++ [.formationConfirm zbNwkStatusStartupFailure] }

/-! ## Runs -/

inductive FormEvent where
  | formationRequest (scanChannels : UInt32) (scanDuration : UInt8)
  /-- The MAC is done with a scan; the energies are those of an energy scan. -/
  | scanConfirm (energy : Nat → UInt8)
  | beacon (b : Beacon)

/-- `zb_mlme_scan_confirm`; what the other scans are for is not part of this. -/
def zbMlmeScanConfirm (env : FormEnv) (fuel : Nat) (energy : Nat → UInt8) (s : FormState) :
    Option FormState :=
  match s.state with
  | .formationEdScan => some (nwkFormationEdScanConfirm env energy s)
  | .formationActiveScan => nwkFormationSelectChannel env fuel s
  | _ => none

def formStep (env : FormEnv) (fuel : Nat) (s : FormState) : FormEvent → Option FormState
  | .formationRequest scanChannels scanDuration =>
      some (zbNlmeNetworkFormationRequest scanChannels scanDuration s)
  | .scanConfirm energy => zbMlmeScanConfirm env fuel energy s
  | .beacon b => some (zbMlmeBeaconNotifyIndication env b s)

/-- A formation with more than one channel: the energies are measured, beacons are heard, and the
second scan is done. -/
def formation (mask : UInt32) (duration : UInt8) (energy : Nat → UInt8) (beacons : List Beacon)
    (unused : Nat → UInt8) : List FormEvent :=
  [.formationRequest mask duration, .scanConfirm energy] ++ beacons.map .beacon ++
    [.scanConfirm unused]

/-! ## What is claimed -/

/-- A channel of the mask that is quiet enough. -/
def Admissible (mask : UInt32) (energy : Nat → UInt8) (c : Nat) : Prop :=
  zbMacStartChannelNumber ≤ c ∧ c ≤ zbMacMaxChannelNumber ∧ onChannel mask c = true ∧
    energy (c - zbMacStartChannelNumber) ≤ zbNwkChannelAcceptLevel

/-- How many networks are heard on a channel. -/
def networksOn (beacons : List Beacon) (c : Nat) : Nat :=
  ((beacons.filter fun b => b.logicalChannel == c).map Beacon.extendedPanid).dedup.length

/-- **The choice is right**: of the admissible channels one with the fewest networks, of these one
with the least energy, and an identifier that no network heard on it has. -/
structure Lawful (mask : UInt32) (energy : Nat → UInt8) (beacons : List Beacon) (panId : UInt16)
    (channel : Nat) : Prop where
  admissible : Admissible mask energy channel
  fewest : ∀ c, Admissible mask energy c → networksOn beacons channel ≤ networksOn beacons c
  quietest : ∀ c, Admissible mask energy c → networksOn beacons c = networksOn beacons channel →
    energy (channel - zbMacStartChannelNumber) ≤ energy (c - zbMacStartChannelNumber)
  fresh : ∀ b ∈ beacons, b.logicalChannel = channel → b.srcPanId ≠ panId

/-- There are two channels in the mask. -/
def TwoChannels (mask : UInt32) : Prop :=
  ∃ c c', c ≠ c' ∧ zbMacStartChannelNumber ≤ c ∧ c ≤ zbMacMaxChannelNumber ∧
    zbMacStartChannelNumber ≤ c' ∧ c' ≤ zbMacMaxChannelNumber ∧
    onChannel mask c = true ∧ onChannel mask c' = true

/-- Nothing is going on, and nothing remains of an earlier scan. -/
structure Free (s : FormState) : Prop where
  idle : s.state = .idle
  out : s.joined = false
  unscanned : s.extNeighbor = []

/-- The formation does not fail, and its choice is right. -/
def FormsLawfully (env : FormEnv) (fuel : Nat) (s : FormState) (mask : UInt32)
    (energy : Nat → UInt8) (beacons : List Beacon) (events : List FormEvent) : Prop :=
  ∃ t calls panId channel, run (formStep env fuel) s events = some t ∧
    t.calls = calls ++ [.mlmeStart panId channel] ∧ Lawful mask energy beacons panId channel

/-! ## When it holds -/

/-- The lowest of the admissible channels. -/
def Lowest (mask : UInt32) (energy : Nat → UInt8) (c : Nat) : Prop :=
  Admissible mask energy c ∧ ∀ c', Admissible mask energy c' → c ≤ c'

/-- The identifier at hand. -/
def panIdAtHand (env : FormEnv) : UInt16 := if env.macPanId = 0 then env.random 0 else env.macPanId

/-! ## Masks -/

section Masks

variable {mask : UInt32} {energy : Nat → UInt8} {c i n : Nat}

theorem toNat_channelMask (small : i < 32) : ((1 : UInt32) <<< UInt32.ofNat i).toNat = 2 ^ i := by
  have fits : i % 2 ^ 32 % 32 = i := by omega
  have inside : 2 ^ i < 2 ^ 32 := Nat.pow_lt_pow_right (by decide) small
  rw [UInt32.toNat_shiftLeft, UInt32.toNat_ofNat', fits, UInt32.toNat_one, Nat.one_shiftLeft]
  exact Nat.mod_eq_of_lt inside

theorem onChannel_eq (small : i < 32) : onChannel mask i = mask.toNat.testBit i := by
  have bits : (mask &&& 1 <<< UInt32.ofNat i).toNat = mask.toNat &&& 2 ^ i := by
    rw [UInt32.toNat_and, toNat_channelMask small]
  rw [onChannel, Bool.eq_iff_iff, bne_iff_ne, Ne, ← UInt32.toNat_inj, bits, UInt32.toNat_zero,
    Nat.and_two_pow]
  cases mask.toNat.testBit i with
  | false => simp
  | true => simp

/-- A mask with two channels is not that of one. -/
theorem not_single (two : TwoChannels mask) : magicIsPowerOfTwo mask = false := by
  obtain ⟨c, c', ne, -, high, -, high', on, on'⟩ := two
  have small : c < 32 := lt_of_le_of_lt high (by decide)
  have small' : c' < 32 := lt_of_le_of_lt high' (by decide)
  rw [onChannel_eq small] at on
  rw [onChannel_eq small'] at on'
  have pos : mask.toNat ≠ 0 := by
    intro zero
    rw [zero, Nat.zero_testBit] at on
    cases on
  have one : (1 : UInt32) ≤ mask := UInt32.le_iff_toNat_le.2 (Nat.one_le_iff_ne_zero.2 pos)
  rw [magicIsPowerOfTwo, beq_eq_false_iff_ne, Ne, ← UInt32.toNat_inj, UInt32.toNat_and,
    UInt32.toNat_sub_of_le _ _ one, UInt32.toNat_one, UInt32.toNat_zero,
    Nat.and_sub_one_eq_zero_iff_isPowerOfTwo pos]
  rintro ⟨k, power⟩
  rw [power, Nat.testBit_two_pow, decide_eq_true_iff] at on on'
  exact ne (on.symm.trans on')

/-- One turn clears the bit of its channel if it is busy, and no other. -/
theorem onChannel_clearBusyChannel (turn : i < zbMacSupportedChannels) (small : c < 32) :
    onChannel (clearBusyChannel energy mask i) c =
      (onChannel mask c &&
        !(decide (c = zbMacStartChannelNumber + i) && decide (energy i > zbNwkChannelAcceptLevel))) := by
  have place : zbMacStartChannelNumber + i < 32 := by
    have room : i < 16 := turn
    show 11 + i < 32
    omega
  rw [clearBusyChannel]
  by_cases busy : energy i > zbNwkChannelAcceptLevel
  · rw [decide_eq_true busy, Bool.and_true, Bool.and_true]
    by_cases here : c = zbMacStartChannelNumber + i
    · subst here
      split
      · rename_i on
        rw [onChannel_eq place] at on
        rw [onChannel_eq place, UInt32.toNat_xor, toNat_channelMask place, Nat.testBit_xor, on,
          Nat.testBit_two_pow_self]
        simp
      · rename_i off
        rw [Bool.not_eq_true] at off
        rw [off, Bool.false_and]
    · rw [decide_eq_false here, Bool.not_false, Bool.and_true]
      split
      · rw [onChannel_eq small, onChannel_eq small, UInt32.toNat_xor, toNat_channelMask place,
          Nat.testBit_xor, Nat.testBit_two_pow_of_ne (Ne.symm here), Bool.xor_false]
      · rfl
  · rw [decide_eq_false busy, Bool.and_false, Bool.and_false, Bool.not_false, Bool.and_true]
    rfl

/-- **The loop clears the bits of the busy channels.** -/
theorem onChannel_clearBusy (low : zbMacStartChannelNumber ≤ c) (high : c ≤ zbMacMaxChannelNumber) :
    onChannel (clearBusy energy mask) c = true ↔
      onChannel mask c = true ∧ energy (c - zbMacStartChannelNumber) ≤ zbNwkChannelAcceptLevel := by
  have small : c < 32 := lt_of_le_of_lt high (by decide)
  have prefixes : ∀ n ≤ zbMacSupportedChannels,
      (onChannel ((List.range n).foldl (clearBusyChannel energy) mask) c = true ↔
        onChannel mask c = true ∧ (c < zbMacStartChannelNumber + n →
          energy (c - zbMacStartChannelNumber) ≤ zbNwkChannelAcceptLevel)) := by
    intro n
    induction n with
    | zero =>
        intro _
        have out : ¬ c < zbMacStartChannelNumber + 0 := not_lt.2 low
        simp only [List.range_zero, List.foldl_nil, out, false_implies, and_true]
    | succ n ih =>
        intro inside
        rw [List.range_succ, List.foldl_append, List.foldl_cons, List.foldl_nil,
          onChannel_clearBusyChannel inside small, Bool.and_eq_true, ih (by omega)]
        by_cases here : c = zbMacStartChannelNumber + n
        · have place : c - zbMacStartChannelNumber = n := by omega
          have now : c < zbMacStartChannelNumber + (n + 1) := by omega
          have before : ¬ c < zbMacStartChannelNumber + n := by omega
          rw [decide_eq_true here, Bool.true_and, Bool.not_eq_true', decide_eq_false_iff_not,
            gt_iff_lt, UInt8.not_lt, place]
          constructor
          · rintro ⟨⟨on, -⟩, quiet⟩
            exact ⟨on, fun _ => quiet⟩
          · rintro ⟨on, quiet⟩
            exact ⟨⟨on, fun lt => absurd lt before⟩, quiet now⟩
        · have same : c < zbMacStartChannelNumber + (n + 1) ↔ c < zbMacStartChannelNumber + n := by
            omega
          simp [here, same]
  have all : c < zbMacStartChannelNumber + zbMacSupportedChannels := lt_of_le_of_lt high (by decide)
  rw [clearBusy, prefixes zbMacSupportedChannels (le_refl _)]
  exact and_congr_right fun _ => ⟨fun quiet => quiet all, fun quiet _ => quiet⟩

end Masks

/-! ## The formation -/

section Formation

variable {env : FormEnv} {fuel : Nat} {s t : FormState} {mask : UInt32} {energy : Nat → UInt8}
  {beacons : List Beacon}

theorem request_spec (free : Free s) (two : TwoChannels mask) (duration : UInt8) :
    (zbNlmeNetworkFormationRequest mask duration s).state = .formationEdScan ∧
      (zbNlmeNetworkFormationRequest mask duration s).scanChannels = mask ∧
      (zbNlmeNetworkFormationRequest mask duration s).joined = false ∧
      (zbNlmeNetworkFormationRequest mask duration s).extNeighbor = [] := by
  have go : s.state = .idle ∧ ¬ s.joined = true := by
    refine ⟨free.idle, ?_⟩
    rw [free.out]
    exact Bool.false_ne_true
  rw [zbNlmeNetworkFormationRequest, if_pos go, not_single two]
  exact ⟨rfl, rfl, free.out, free.unscanned⟩

/-- The second scan is for the channels that are quiet enough. -/
theorem edScanConfirm_spec (some_ : ∃ c, Admissible s.scanChannels energy c) :
    (nwkFormationEdScanConfirm env energy s).state = .formationActiveScan ∧
      (nwkFormationEdScanConfirm env energy s).scanChannels = clearBusy energy s.scanChannels ∧
      (nwkFormationEdScanConfirm env energy s).joined = s.joined ∧
      (nwkFormationEdScanConfirm env energy s).extNeighbor = s.extNeighbor := by
  obtain ⟨c, low, high, on, quiet⟩ := some_
  have left : clearBusy energy s.scanChannels ≠ 0 := by
    intro zero
    have stays : onChannel (clearBusy energy s.scanChannels) c = true :=
      (onChannel_clearBusy low high).2 ⟨on, quiet⟩
    rw [zero, onChannel, UInt32.zero_and] at stays
    cases stays
  rw [nwkFormationEdScanConfirm]
  dsimp only
  rw [if_pos left, zbNwkExneighborStart]
  split
  · exact ⟨rfl, rfl, rfl, rfl⟩
  · exact ⟨rfl, rfl, rfl, rfl⟩

/-- **A beacon is ignored** during the second scan. -/
theorem beacon_ignored (scanning : s.state = .formationActiveScan) (out : s.joined = false)
    (b : Beacon) : zbMlmeBeaconNotifyIndication env b s = s := by
  have other : ¬ (s.state = .disc ∨ s.state = .rejoin) := by
    rw [scanning]
    decide
  have alone : ¬ (s.joined = true ∧ ¬ s.joinedPro = true) := by
    rw [out]
    exact fun both => Bool.false_ne_true both.1
  rw [zbMlmeBeaconNotifyIndication, if_neg other, if_neg alone]

theorem beacons_ignored (scanning : s.state = .formationActiveScan) (out : s.joined = false)
    (beacons : List Beacon) : run (formStep env fuel) s (beacons.map .beacon) = some s := by
  induction beacons with
  | nil => rfl
  | cons b rest ih =>
      rw [List.map_cons, run, formStep, beacon_ignored scanning out]
      exact ih

/-- Every channel of the table, as it is without entries, has no network. -/
theorem countNetworks_nil {i : Nat} (low : zbMacStartChannelNumber ≤ i)
    (high : i ≤ zbMacMaxChannelNumber) (tmp : Nat → UInt8) :
    countNetworks [] tmp (panCountAt i) = 0 := by
  have low' : 11 ≤ i := low
  have high' : i ≤ 26 := high
  have inside : zbMacSupportedChannels ≤ panCountAt i ∧
      panCountAt i ≤ handledAt zbPanidTableSize := by
    show 16 ≤ 16 + i - 11 ∧ 16 + i - 11 ≤ 33
    omega
  exact if_pos inside

/-- **Without networks the first channel of the mask is taken.** -/
theorem searchChannel_first {tmp : Nat → UInt8} {places : List Nat} {sel : Selection}
    (zero : ∀ i ∈ places, tmp (panCountAt i) = 0) (fresh : sel.channelNetworks = 0xff) {c : Nat}
    (first : places.find? (onChannel mask) = some c) :
    let found := searchChannel env mask tmp places sel
    found.channel = c ∧ found.uniquePanId = true ∧
      found.panId = if sel.panId = 0 then env.random sel.drawn else sel.panId := by
  induction places with
  | nil => cases first
  | cons i rest ih =>
      have none_ : tmp (panCountAt i) = 0 := zero i List.mem_cons_self
      rw [searchChannel]
      cases on : onChannel mask i with
      | false =>
          rw [List.find?_cons_of_neg (by rw [on]; exact Bool.false_ne_true)] at first
          rw [if_neg fun both => Bool.false_ne_true both.1]
          exact ih (fun j mem => zero j (List.mem_cons_of_mem i mem)) first
      | true =>
          rw [List.find?_cons_of_pos on] at first
          cases first
          have few : true = true ∧ tmp (panCountAt c) ≤ sel.channelNetworks := by
            rw [none_, fresh]
            exact ⟨rfl, by decide⟩
          have better : ¬ (tmp (panCountAt c) = sel.channelNetworks ∧
              energyDetect tmp c > sel.channelEd) := by
            rw [none_, fresh]
            exact fun both => absurd both.1 (by decide)
          rw [if_pos few, if_neg better]
          dsimp only
          rw [if_pos none_]
          split
          · exact ⟨rfl, rfl, rfl⟩
          · exact ⟨rfl, rfl, rfl⟩

theorem drawPanId_unique {sel : Selection} (unique : sel.uniquePanId = true) :
    drawPanId env s fuel sel = some sel := by
  cases fuel with
  | zero => rw [drawPanId, if_pos unique]
  | succ fuel => rw [drawPanId, if_pos unique]

/-- The first channel of the second scan is the lowest admissible one. -/
theorem first_lowest {c : Nat} (lowest : Lowest mask energy c) :
    (List.range' zbMacStartChannelNumber zbMacSupportedChannels).find?
      (onChannel (clearBusy energy mask)) = some c := by
  obtain ⟨⟨low, high, on, quiet⟩, least⟩ := lowest
  rw [List.find?_range'_eq_some]
  refine ⟨(onChannel_clearBusy low high).2 ⟨on, quiet⟩, ?_, ?_⟩
  · rw [List.mem_range'_1]
    exact ⟨low, lt_of_le_of_lt high (by decide)⟩
  · intro j from_ before
    rw [Bool.not_eq_true', Bool.eq_false_iff]
    intro on'
    have inside : j ≤ zbMacMaxChannelNumber := (le_of_lt before).trans high
    obtain ⟨onMask, quiet'⟩ := (onChannel_clearBusy from_ inside).1 on'
    have le := least j ⟨from_, inside, onMask, quiet'⟩
    exact absurd le (not_le.2 before)

/-- **The selection without networks.** -/
theorem selectChannel_spec {c : Nat} (empty : s.extNeighbor = [])
    (scanned : s.scanChannels = clearBusy energy mask) (lowest : Lowest mask energy c) :
    ∃ t, nwkFormationSelectChannel env fuel s = some t ∧ t.state = .formation ∧
      t.calls = s.calls ++ [.mlmeStart (panIdAtHand env) c] := by
  have zero : ∀ i ∈ List.range' zbMacStartChannelNumber zbMacSupportedChannels,
      countNetworks [] s.tmp (panCountAt i) = 0 := by
    intro i mem
    obtain ⟨low, high⟩ := List.mem_range'_1.1 mem
    exact countNetworks_nil low (Nat.le_of_lt_succ high) s.tmp
  obtain ⟨channel, unique, panId⟩ :=
    searchChannel_first zero (rfl : (startSelection env).channelNetworks = 0xff)
      (first_lowest lowest)
  rw [nwkFormationSelectChannel, empty, scanned]
  generalize searchChannel env _ _ _ (startSelection env) = sel at channel unique panId
  have drawn : (if sel.channel ≠ zbMacStartChannelNumber then drawPanId env s fuel sel
      else some sel) = some sel := by
    rw [drawPanId_unique unique]
    exact ite_self _
  have taken : sel.channel ≤ zbMacMaxChannelNumber ∧ sel.uniquePanId = true := by
    rw [channel]
    exact ⟨lowest.1.2.1, unique⟩
  have atHand : sel.panId = panIdAtHand env := panId
  refine ⟨_, congrArg _ drawn, ?_, ?_⟩
  · dsimp only
    rw [if_pos taken]
  · dsimp only
    rw [if_pos taken, channel, atHand]

theorem exists_lowest (some_ : ∃ c, Admissible mask energy c) : ∃ c, Lowest mask energy c := by
  classical
  exact ⟨Nat.find some_, Nat.find_spec some_, fun c' ok => Nat.find_min' some_ ok⟩

/-- **What a formation selects**, whatever beacons are heard: the lowest of the admissible
channels, and the identifier at hand. -/
theorem formation_selects (free : Free s) (two : TwoChannels mask) {c : Nat}
    (lowest : Lowest mask energy c) (duration : UInt8) (beacons : List Beacon)
    (unused : Nat → UInt8) :
    ∃ t calls, run (formStep env fuel) s (formation mask duration energy beacons unused) = some t ∧
      t.state = .formation ∧ t.calls = calls ++ [.mlmeStart (panIdAtHand env) c] := by
  obtain ⟨measuring, asked, out, empty⟩ := request_spec free two duration
  let s₁ := zbNlmeNetworkFormationRequest mask duration s
  have some_ : ∃ c, Admissible s₁.scanChannels energy c := by
    rw [show s₁.scanChannels = mask from asked]
    exact ⟨c, lowest.1⟩
  let s₂ := nwkFormationEdScanConfirm env energy s₁
  obtain ⟨scanning, left, out', empty'⟩ : s₂.state = .formationActiveScan ∧
      s₂.scanChannels = clearBusy energy s₁.scanChannels ∧ s₂.joined = s₁.joined ∧
      s₂.extNeighbor = s₁.extNeighbor := edScanConfirm_spec some_
  have channels : s₂.scanChannels = clearBusy energy mask := left.trans (congrArg _ asked)
  obtain ⟨t, selected, done, calls⟩ : ∃ t, nwkFormationSelectChannel env fuel s₂ = some t ∧
      t.state = .formation ∧ t.calls = s₂.calls ++ [.mlmeStart (panIdAtHand env) c] :=
    selectChannel_spec (empty'.trans empty) channels lowest
  have first : run (formStep env fuel) s [.formationRequest mask duration, .scanConfirm energy] =
      some s₂ := by
    rw [run, formStep, Option.bind_some, run, formStep, zbMlmeScanConfirm, measuring]
    rfl
  have last : run (formStep env fuel) s₂ [.scanConfirm unused] = some t := by
    rw [run, formStep, zbMlmeScanConfirm, scanning]
    exact congrArg (Option.bind · _) selected
  refine ⟨t, s₂.calls, ?_, done, calls⟩
  rw [formation, run_append, run_append, first, Option.bind_some,
    beacons_ignored scanning (out'.trans out), Option.bind_some, last]

/-- The choice that is judged is the one that is made. -/
theorem lawful_of_forms (free : Free s) (two : TwoChannels mask) {c : Nat}
    (lowest : Lowest mask energy c) {duration : UInt8} {unused : Nat → UInt8}
    (forms : FormsLawfully env fuel s mask energy beacons
      (formation mask duration energy beacons unused)) :
    Lawful mask energy beacons (panIdAtHand env) c := by
  obtain ⟨t, calls, panId, channel, ran, asked, lawful⟩ := forms
  obtain ⟨t', calls', ran', -, asked'⟩ :=
    formation_selects free two lowest duration beacons unused
  cases ran.symm.trans ran'
  have same := List.append_inj_right' (asked.symm.trans asked') rfl
  cases same
  exact lawful

/-- **A formation is lawful exactly when the lowest of the admissible channels is**, with the
identifier at hand. -/
theorem formation_lawful_iff (env : FormEnv) (fuel : Nat) (s : FormState) (mask : UInt32)
    (duration : UInt8) (energy : Nat → UInt8) (beacons : List Beacon) (unused : Nat → UInt8)
    (free : Free s) (two : TwoChannels mask) (some_ : ∃ c, Admissible mask energy c) :
    FormsLawfully env fuel s mask energy beacons (formation mask duration energy beacons unused) ↔
      ∃ c, Lowest mask energy c ∧ Lawful mask energy beacons (panIdAtHand env) c := by
  constructor
  · intro forms
    obtain ⟨c, lowest⟩ := exists_lowest some_
    exact ⟨c, lowest, lawful_of_forms free two lowest forms⟩
  · rintro ⟨c, lowest, lawful⟩
    obtain ⟨t, calls, ran, -, asked⟩ := formation_selects free two lowest duration beacons unused
    exact ⟨t, calls, panIdAtHand env, c, ran, asked, lawful⟩

/-! ### A discovery -/

theorem setPanId_spec {shortPanId : UInt16} {panId : UInt64} {panMap panMap' : Nat → Option ZbPanMap}
    {ref : Nat} (set : zbAddressSetPanId env shortPanId panId panMap = some (panMap', ref)) :
    (panMap' ref).any (·.longPanid == panId) = true := by
  rw [zbAddressSetPanId] at set
  split at set
  · rename_i i found
    cases set
    have known := List.find?_some found
    exact known
  · obtain ⟨i, -, is⟩ := Option.map_eq_some_iff.1 set
    cases is
    rw [Function.update_self]
    exact beq_self_eq_true panId

theorem findExNeighbor_lt {Ent : Type} {key : Ent → ExNeighborKey} {panidRef i : Nat}
    {srcAddr : MacSrcAddr} {ext : List Ent}
    (found : findExNeighbor key panidRef srcAddr ext = some i) : i < ext.length := by
  cases srcAddr with
  | short addr => exact List.mem_range.1 (List.mem_of_find?_eq_some found)
  | long addr => exact List.mem_range.1 (List.mem_reverse.1 (List.mem_of_find?_eq_some found))

theorem exneighborBy_spec {panidRef : Nat} {srcAddr : MacSrcAddr}
    (room : s.extNeighbor.length < s.extNeighborSize) :
    ∃ ext i, zbNwkExneighborBy panidRef srcAddr s = some (ext, i) ∧ i < ext.length := by
  rw [zbNwkExneighborBy]
  cases found : findExNeighbor (·.toExNeighborKey) panidRef srcAddr s.extNeighbor with
  | some i => exact ⟨_, i, rfl, findExNeighbor_lt found⟩
  | none =>
      dsimp only
      rw [if_neg (Nat.ne_of_lt room)]
      refine ⟨_, _, rfl, ?_⟩
      rw [List.length_append]
      exact Nat.lt_succ_self _

/-- **A beacon in a discovery is noted**, by its channel and its PAN. -/
theorem disc_notes_beacon {b : Beacon} (discovering : s.state = .disc)
    (payload : b.hasPayload = true ∧ b.zigbee = true)
    (room : s.extNeighbor.length < s.extNeighborSize)
    (known : (zbAddressSetPanId env b.srcPanId b.extendedPanid s.panMap).isSome = true) :
    let t := zbMlmeBeaconNotifyIndication env b s
    ∃ en ∈ t.extNeighbor, en.logicalChannel = b.logicalChannel ∧
      (t.panMap en.panidRef).any (·.longPanid == b.extendedPanid) = true := by
  have other : s.state ≠ .rejoin := by
    rw [discovering]
    decide
  obtain ⟨⟨panMap, ref⟩, set⟩ := Option.isSome_iff_exists.1 known
  obtain ⟨ext, i, entered, inside⟩ : ∃ ext i,
      zbNwkExneighborBy ref b.srcAddr s = some (ext, i) ∧ i < ext.length := exneighborBy_spec room
  dsimp only
  rw [zbMlmeBeaconNotifyIndication, if_pos (.inl discovering),
    if_pos ⟨payload.1, payload.2, .inl other⟩, noteBeacon, set]
  dsimp only
  rw [entered]
  dsimp only
  refine ⟨{ ext[i] with panidRef := ref, logicalChannel := b.logicalChannel }, ?_, rfl,
    setPanId_spec set⟩
  rw [List.mem_iff_getElem]
  refine ⟨i, ?_, ?_⟩
  · rw [List.length_modify]
    exact inside
  · exact List.getElem_modify_eq _ _ _ _

end Formation

/-! ## Poles -/

def coordinatorEnv (macPanId : UInt16) : FormEnv where
  macPanId
  random n := UInt16.ofNat (n + 1)
  panIdHash _ := 0
  extRoom := 11
  rejoinExtPanId := 0
  nibPanId := 0
  nibExtPanId := 0
  isManager := true

/-- Channels 11 and 12. -/
def twoChannels : UInt32 := 0x1800

theorem twoChannels_two : TwoChannels twoChannels := by
  refine ⟨11, 12, ?_⟩
  decide

/-- Channel 12 is the quieter one. -/
def quieterAbove (i : Nat) : UInt8 := if i = 0 then 50 else 10

theorem lowest_eleven : Lowest twoChannels quieterAbove 11 := by
  refine ⟨?_, fun c other => other.1⟩
  unfold Admissible
  decide

theorem free_init : Free FormState.init := ⟨rfl, rfl, rfl⟩

/-- A beacon of a network on channel 11. -/
def beaconOn11 : Beacon := ⟨0x1AAA, .short 0, 11, true, true, 77⟩

/-- Where nothing is heard and the lower channel is the quieter one, the choice is right. -/
theorem formation_lawful_iff_quiet :
    FormsLawfully (coordinatorEnv 0x1AAA) 0 FormState.init twoChannels (fun _ => 10) []
        (formation twoChannels 3 (fun _ => 10) [] fun _ => 0) ↔
      ∃ c, Lowest twoChannels (fun _ => 10) c ∧
        Lawful twoChannels (fun _ => 10) [] (panIdAtHand (coordinatorEnv 0x1AAA)) c :=
  formation_lawful_iff (coordinatorEnv 0x1AAA) 0 FormState.init twoChannels 3 (fun _ => 10) []
    (fun _ => 0) free_init twoChannels_two ⟨11, by unfold Admissible; decide⟩

/-- **The network is formed on the channel of the other one**, with its identifier, though channel
12 is free and quieter. -/
theorem own_network_twice :
    ¬ ∀ (env : FormEnv) (fuel : Nat) (s : FormState) (mask : UInt32) (duration : UInt8)
        (energy : Nat → UInt8) (beacons : List Beacon) (unused : Nat → UInt8),
      Free s → TwoChannels mask → (∃ c, Admissible mask energy c) →
      FormsLawfully env fuel s mask energy beacons
        (formation mask duration energy beacons unused) := by
  intro claim
  have forms := claim (coordinatorEnv 0x1AAA) 0 FormState.init twoChannels 3 quieterAbove
    [beaconOn11] (fun _ => 0) free_init twoChannels_two ⟨11, lowest_eleven.1⟩
  have lawful := lawful_of_forms free_init twoChannels_two lowest_eleven forms
  exact lawful.fresh beaconOn11 (List.mem_singleton.2 rfl) rfl rfl

end Zboss.Nwk.Formation
