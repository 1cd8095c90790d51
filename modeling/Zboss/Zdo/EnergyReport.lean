/-
# Zdo.EnergyReport -- the energies of a scan, listed and read

`zb_nlme_ed_scan_confirm` lists the energies of a scan for the report: one value for each scanned
channel, in the order of the channels.  The manager that receives the report walks through the mask
and through the values (`zdo_change_channel`).

* `report_right_iff`: which reports list one value for each channel, so that the manager reads the
  energy of each;
* `reads_inside_iff`: which bytes are read as a report without going past the values.

Pole: the bit that the list is made with moves on only where a channel has been scanned, so the
list ends with the first channel that has not.  And the manager counts the channels of the mask; it
looks neither at the number of values, unless it is 0, nor at the end of the frame.
-/
import Mathlib
import Zboss.Common.Constants
import Zboss.Zdo.ScanContext
import Zboss.Theory.LeadingRun

namespace Zboss.Zdo.EnergyReport

open Zboss.Common.Constants
open Zboss.Theory.LeadingRun
open Zboss.Common.PacketBuf
open Zboss.Secur.NwkFrame
open Zboss.Secur.NwkRoundTrip
open Zboss.Zdo.ChannelChange
open Zboss.Zdo.ScanContext

set_option autoImplicit false

/-! ## The report in the buffer -/

/-- `sizeof(zb_zdo_mgmt_nwk_update_notify_hdr_t)` -/
def notifyHdrSize : Nat := 10

/-- The report that `zb_zdo_nwk_upd_notify` puts into the buffer. -/
def notifyBytes (notify : ZbZdoMgmtNwkUpdateNotify) : List UInt8 :=
  [notify.status] ++ uint32Bytes notify.scannedChannels ++
    (uint16Bytes notify.totalTransmissions ++ uint16Bytes notify.transmissionFailures ++
      [notify.scannedChannelsListCount] ++ notify.energyValues)

/-- The memory from the begin of the report on, as far as it is ever read; what lies behind the
frame is `behind`. -/
def memory (behind : Nat → UInt8) (body : List UInt8) : List UInt8 :=
  body ++ (List.range (notifyHdrSize + zbMacSupportedChannels)).map behind

/-- The report as `zdo_change_channel` finds it. -/
def notifyAt (behind : Nat → UInt8) (body : List UInt8) : ZbZdoMgmtNwkUpdateNotify :=
  let p := memory behind body
  ⟨p.getD 0 0, uint32At 1 p, uint16At 5 p, uint16At 7 p, p.getD 9 0,
    (p.drop notifyHdrSize).take zbMacSupportedChannels⟩

/-! ## What is read -/

/-- The channels of a mask, as their distances from channel 11. -/
def channelsOf (mask : UInt32) : List Nat := (List.range zbMacSupportedChannels).filter (scanned mask)

/-- `*scan_result` at the turn of a channel. -/
def readAt (current : UInt8) (notify : ZbZdoMgmtNwkUpdateNotify) (k : Nat) : UInt8 :=
  notify.energyValues.getD (scanResult current notify k).read 0

/-- The offsets that `zdo_change_channel` reads. -/
def offsetsRead (mgr : ChannelManager) (notify : ZbZdoMgmtNwkUpdateNotify) : List Nat :=
  if mgr.channelChanged then []
  else if notify.status ≠ zbZdpStatusSuccess then [0]
  else if notify.scannedChannelsListCount = 0 then [0, 9]
  else [0, 9, 1, 2, 3, 4] ++ (channelsOf notify.scannedChannels).map fun k =>
    notifyHdrSize + (scanResult mgr.logicalChannel notify k).read

/-- Nothing is read past the values that the report counts, nor past the frame. -/
def ReadsInside (mgr : ChannelManager) (behind : Nat → UInt8) (body : List UInt8) : Prop :=
  ∀ at_ ∈ offsetsRead mgr (notifyAt behind body),
    at_ < body.length ∧
      at_ < notifyHdrSize + (notifyAt behind body).scannedChannelsListCount.toNat

/-- What a report of a scan should be. -/
structure ReportRight (confirm : ZbMacScanConfirm) (notify : ZbZdoMgmtNwkUpdateNotify) : Prop where
  listed : notify.energyValues =
    (channelsOf notify.scannedChannels).map fun k => confirm.energyDetect.toList.getD k 0
  counted : notify.scannedChannelsListCount.toNat = (channelsOf notify.scannedChannels).length
  understood : ∀ current behind, ∀ k ∈ channelsOf notify.scannedChannels,
    readAt current (notifyAt behind (notifyBytes notify)) k = confirm.energyDetect.toList.getD k 0
  inside : ∀ mgr behind, ReadsInside mgr behind (notifyBytes notify)

/-- The bytes that are read as a report without going past its values. -/
def readsInside (mgr : ChannelManager) (behind : Nat → UInt8) (body : List UInt8) : Bool :=
  let notify := notifyAt behind body
  let channels := (channelsOf notify.scannedChannels).length
  mgr.channelChanged ||
    (decide (0 < body.length) &&
      (decide (notify.status ≠ zbZdpStatusSuccess) ||
        (decide (9 < body.length) &&
          (decide (notify.scannedChannelsListCount = 0) ||
            (decide (channels ≤ notify.scannedChannelsListCount.toNat) &&
              decide (notifyHdrSize + channels ≤ body.length))))))

/-! ## The list -/

section Listed

variable {mask : UInt32} {confirm : ZbMacScanConfirm}

/-- The bit of one channel. -/
def channelBit (k : Nat) : UInt32 := 1 <<< (macChannel k).toUInt32

theorem channelBit_succ : ∀ k < zbMacSupportedChannels, channelBit k * 2 = channelBit (k + 1) := by
  decide

/-- After `n` turns `r` values are listed: those of the channels up to the first that is not in the
mask. -/
structure Listed (mask : UInt32) (confirm : ZbMacScanConfirm) (n r : Nat)
    (state : UInt32 × List UInt8) : Prop where
  leads : Leads (scanned mask) n r
  bit : state.1 = channelBit r
  values : state.2 = (List.range r).map fun k => confirm.energyDetect.toList.getD k 0

theorem listed_step {n r : Nat} {state : UInt32 × List UInt8} (mac : n < zbMacSupportedChannels)
    (known : Listed mask confirm n r state) :
    ∃ r', Listed mask confirm (n + 1) r' (listEnergy mask confirm state n) := by
  obtain ⟨⟨within, before, stuck⟩, bit, values⟩ := known
  have test : (mask &&& state.1 ≠ 0) ↔ scanned mask r = true := by
    rw [bit, scanned, bne_iff_ne]
    rfl
  rw [listEnergy]
  by_cases on : scanned mask r = true
  · have last : r = n := by
      by_contra earlier
      rw [stuck (by omega)] at on
      cases on
    subst last
    rw [if_pos (test.2 on)]
    refine ⟨r + 1, ⟨le_refl _, ?_, fun less => absurd less (Nat.lt_irrefl _)⟩, ?_, ?_⟩
    · intro j less
      rcases Nat.lt_succ_iff_lt_or_eq.1 less with earlier | rfl
      · exact before j earlier
      · exact on
    · rw [bit, channelBit_succ r mac]
    · rw [values, List.range_succ, List.map_append]
      rfl
  · rw [if_neg fun one => on (test.1 one)]
    exact ⟨r, ⟨by omega, before, fun _ => Bool.eq_false_iff.2 on⟩, bit, values⟩

/-- **The list ends with the first channel that is not in the mask.** -/
theorem exists_listed (mask : UInt32) (confirm : ZbMacScanConfirm) (n : Nat) (mac : n ≤ zbMacSupportedChannels) :
    ∃ r, Listed mask confirm n r ((List.range n).foldl (listEnergy mask confirm) (0x800, [])) := by
  induction n with
  | zero =>
      exact ⟨0, ⟨le_refl 0, fun j less => absurd less (Nat.not_lt_zero j),
        fun less => absurd less (Nat.lt_irrefl 0)⟩, rfl, rfl⟩
  | succ n ih =>
      obtain ⟨r, known⟩ := ih (by omega)
      rw [List.range_succ, List.foldl_append]
      exact listed_step (by omega) known

end Listed

/-! ## The report is read back -/

section ReadBack

variable {notify : ZbZdoMgmtNwkUpdateNotify} {behind : Nat → UInt8}

theorem notifyAt_notifyBytes (few : notify.energyValues.length ≤ zbMacSupportedChannels) :
    let seen := notifyAt behind (notifyBytes notify)
    seen.status = notify.status ∧ seen.scannedChannels = notify.scannedChannels ∧
      seen.scannedChannelsListCount = notify.scannedChannelsListCount ∧
      ∀ i < notify.energyValues.length,
        seen.energyValues.getD i 0 = notify.energyValues.getD i 0 := by
  have split : memory behind (notifyBytes notify) =
      [notify.status] ++ uint32Bytes notify.scannedChannels ++
        (uint16Bytes notify.totalTransmissions ++ uint16Bytes notify.transmissionFailures ++
          [notify.scannedChannelsListCount] ++ notify.energyValues ++
          (List.range (notifyHdrSize + zbMacSupportedChannels)).map behind) := by
    rw [memory, notifyBytes, List.append_assoc, List.append_assoc]
  refine ⟨?_, ?_, ?_, ?_⟩
  · rfl
  · rw [notifyAt, split]
    exact uint32At_bytes _ _ _
  · rw [notifyAt, split]
    rfl
  · intro i less
    have values : (memory behind (notifyBytes notify)).drop notifyHdrSize =
        notify.energyValues ++
          (List.range (notifyHdrSize + zbMacSupportedChannels)).map behind := by
      rw [split]
      rfl
    rw [notifyAt, values, List.getD_eq_getElem?_getD, List.getElem?_take_of_lt (by omega),
      List.getElem?_append_left less, List.getD_eq_getElem?_getD]

theorem length_notifyBytes :
    (notifyBytes notify).length = notifyHdrSize + notify.energyValues.length := by
  simp [notifyBytes, uint32Bytes, uint16Bytes, notifyHdrSize]
  omega

end ReadBack

/-! ## Bytes received as a report -/

section Received

variable {mgr : ChannelManager} {behind : Nat → UInt8} {body : List UInt8}

/-- Each channel reads the value behind those of the channels before it. -/
theorem read_eq (current : UInt8) (notify : ZbZdoMgmtNwkUpdateNotify) (k : Nat) :
    (scanResult current notify k).read = energyIndex notify.scannedChannels k :=
  (scanning_scanResult current notify k).read

theorem energyIndex_lt {mask : UInt32} {k : Nat} (mem : k ∈ channelsOf mask) :
    energyIndex mask k < (channelsOf mask).length := by
  obtain ⟨mac, on⟩ := List.mem_filter.1 mem
  obtain ⟨rest, sum⟩ := Nat.exists_eq_add_of_le (List.mem_range.1 mac)
  rw [channelsOf, sum, Nat.succ_eq_add_one, List.range_add, List.filter_append, List.range_succ,
    List.filter_append, List.length_append, List.length_append, energyIndex,
    List.filter_cons_of_pos on]
  simp only [List.filter_nil, List.length_singleton]
  omega

/-- Some channel reads the last of so many values. -/
theorem exists_energyIndex {mask : UInt32} :
    ∀ i < (channelsOf mask).length, ∃ k ∈ channelsOf mask, energyIndex mask k = i := by
  suffices all : ∀ n i, i < energyIndex mask n →
      ∃ k < n, scanned mask k = true ∧ energyIndex mask k = i by
    intro i less
    obtain ⟨k, mac, on, is⟩ := all zbMacSupportedChannels i less
    exact ⟨k, List.mem_filter.2 ⟨List.mem_range.2 mac, on⟩, is⟩
  intro n
  induction n with
  | zero =>
      intro i less
      exact absurd less (Nat.not_lt_zero i)
  | succ n ih =>
      intro i less
      rw [energyIndex_succ] at less
      by_cases earlier : i < energyIndex mask n
      · obtain ⟨k, mac, on, is⟩ := ih i earlier
        exact ⟨k, by omega, on, is⟩
      · cases on : scanned mask n with
        | false =>
            rw [on, if_neg (by decide)] at less
            omega
        | true =>
            rw [on, if_pos rfl] at less
            exact ⟨n, Nat.lt_succ_self n, on, by omega⟩

/-- The values that are read end with the number of channels. -/
theorem values_inside_iff {mask : UInt32} {bound : Nat} :
    (∀ k ∈ channelsOf mask, energyIndex mask k < bound) ↔ (channelsOf mask).length ≤ bound := by
  constructor
  · intro all
    by_contra more
    obtain ⟨k, mem, is⟩ := exists_energyIndex bound (Nat.lt_of_not_le more)
    have := all k mem
    omega
  · intro le k mem
    exact lt_of_lt_of_le (energyIndex_lt mem) le

/-- **Which bytes are read without going past the values.** -/
theorem reads_inside_iff : ReadsInside mgr behind body ↔ readsInside mgr behind body = true := by
  rw [ReadsInside, readsInside, offsetsRead]
  generalize notifyAt behind body = notify
  cases changed : mgr.channelChanged with
  | true => simp
  | false =>
      by_cases failed : notify.status ≠ zbZdpStatusSuccess
      · simp [failed, notifyHdrSize]
      · rw [not_not] at failed
        by_cases none_ : notify.scannedChannelsListCount = 0
        · simp [failed, none_, notifyHdrSize]
        · -- the header is read, and then one value for each channel
          have header : (∀ at_ ∈ [0, 9, 1, 2, 3, 4], at_ < body.length ∧
              at_ < notifyHdrSize + notify.scannedChannelsListCount.toNat) ↔ 9 < body.length := by
            simp [notifyHdrSize]
            omega
          have values : (∀ at_ ∈ (channelsOf notify.scannedChannels).map fun k =>
              notifyHdrSize + (scanResult mgr.logicalChannel notify k).read,
                at_ < body.length ∧
                  at_ < notifyHdrSize + notify.scannedChannelsListCount.toNat) ↔
              (∀ k ∈ channelsOf notify.scannedChannels,
                energyIndex notify.scannedChannels k < body.length - notifyHdrSize) ∧
              ∀ k ∈ channelsOf notify.scannedChannels,
                energyIndex notify.scannedChannels k < notify.scannedChannelsListCount.toNat := by
            rw [List.forall_mem_map, ← forall₂_and]
            apply forall₂_congr
            intro k mem
            rw [read_eq]
            omega
          rw [if_neg (by decide), if_neg (not_not.2 failed), if_neg none_, List.forall_mem_append,
            header, values, values_inside_iff, values_inside_iff]
          simp only [failed, none_, ne_eq, not_true_eq_false, Bool.false_or, decide_false,
            Bool.and_eq_true, decide_eq_true_eq]
          dsimp only [notifyHdrSize]
          omega

end Received

/-! ## Which reports are right -/

/-- Within the run, each channel reads its own place. -/
theorem energyIndex_of_first {mask : UInt32} {n r k : Nat} (leads : Leads (scanned mask) n r)
    (less : k < r) : energyIndex mask k = k := by
  rw [energyIndex, List.filter_eq_self.2 fun j mem =>
    leads.before j (lt_trans (List.mem_range.1 mem) less), List.length_range]

section Report

variable {confirm : ZbMacScanConfirm} {g : ZdoGlobals} {param : ZbZdoMgmtNwkUpdateNotifyParam}

/-- What the report of a scan holds. -/
theorem updNotify_spec (built : zbNlmeEdScanConfirm confirm g = .updNotify param) :
    ∃ r, param.notify.scannedChannels = g.zdoCtx.scanChannels &&& ~~~confirm.unscannedChannels ∧
      Leads (scanned param.notify.scannedChannels) zbMacSupportedChannels r ∧
      param.notify.energyValues =
        (List.range r).map (fun k => confirm.energyDetect.toList.getD k 0) ∧
      param.notify.scannedChannelsListCount.toNat = r := by
  rw [zbNlmeEdScanConfirm] at built
  cases asked : g.zdoEdScan with
  | false =>
      rw [asked, if_neg (by decide)] at built
      split at built <;> cases built
  | true =>
      rw [asked, if_pos rfl] at built
      cases built
      obtain ⟨r, leads, -, values⟩ := exists_listed
        (g.zdoCtx.scanChannels &&& ~~~confirm.unscannedChannels) confirm
        zbMacSupportedChannels (le_refl _)
      refine ⟨r, rfl, leads, values, ?_⟩
      dsimp only
      rw [values, List.length_map, List.length_range, UInt8.toNat_ofNat']
      exact Nat.mod_eq_of_lt (lt_of_le_of_lt leads.within (by decide))

/-- **A report is right iff its mask has no gap.** -/
theorem report_right_iff (built : zbNlmeEdScanConfirm confirm g = .updNotify param) :
    ReportRight confirm param.notify ↔
      noGap (scanned (g.zdoCtx.scanChannels &&& ~~~confirm.unscannedChannels))
        zbMacSupportedChannels = true := by
  obtain ⟨r, mask, leads, values, counted⟩ := updNotify_spec built
  rw [← mask]
  constructor
  · intro right
    rw [← length_filter_eq_iff leads]
    exact right.counted.symm.trans counted
  · intro closed
    have first : channelsOf param.notify.scannedChannels = List.range r :=
      filter_range_of_noGap leads closed
    have length : param.notify.energyValues.length = r := by
      rw [values, List.length_map, List.length_range]
    have fits : param.notify.energyValues.length ≤ zbMacSupportedChannels := by
      rw [length]
      exact leads.within
    refine ⟨by rw [values, first], by rw [counted, first, List.length_range], ?_, ?_⟩
    · intro current behind k mem
      have ⟨_, mask', _, same⟩ := @notifyAt_notifyBytes _ behind fits
      rw [first] at mem
      have less := List.mem_range.1 mem
      rw [readAt, read_eq, mask', energyIndex_of_first leads less, same k (by omega), values,
        List.getD_eq_getElem _ _ (by rwa [List.length_map, List.length_range]), List.getElem_map,
        List.getElem_range]
    · intro mgr behind
      have ⟨_, mask', count', _⟩ := @notifyAt_notifyBytes _ behind fits
      rw [reads_inside_iff, readsInside, mask', count', first, List.length_range, counted,
        length_notifyBytes, length]
      have header : 9 < notifyHdrSize + r := by rw [notifyHdrSize]; omega
      simp [header, show 0 < notifyHdrSize by decide]

/-- **Energies and channels.**  The report of every scan is right iff no scanned channel comes after
one, from 11 on, that has not been scanned; and bytes that are received as a report are read without
going past its values iff the report counts the channels of its mask and holds a value for each, or
the reading stops before. -/
theorem energy_report_iff (confirm : ZbMacScanConfirm) (g : ZdoGlobals) (mgr : ChannelManager)
    (behind : Nat → UInt8) (body : List UInt8) :
    ((∀ param, zbNlmeEdScanConfirm confirm g = .updNotify param →
        ReportRight confirm (zbZdoNwkUpdNotify param g).2.notify) ↔
      g.zdoEdScan = false ∨
        noGap (scanned (g.zdoCtx.scanChannels &&& ~~~confirm.unscannedChannels))
          zbMacSupportedChannels = true) ∧
    (ReadsInside mgr behind body ↔ readsInside mgr behind body = true) := by
  refine ⟨?_, reads_inside_iff⟩
  cases asked : g.zdoEdScan with
  | false =>
      apply iff_of_true _ (.inl rfl)
      intro param built
      rw [zbNlmeEdScanConfirm, asked, if_neg (by decide)] at built
      split at built <;> cases built
  | true =>
      have built : ∃ param, zbNlmeEdScanConfirm confirm g = .updNotify param := by
        rw [zbNlmeEdScanConfirm, asked, if_pos rfl]
        exact ⟨_, rfl⟩
      obtain ⟨param, built⟩ := built
      constructor
      · intro right
        exact .inr ((report_right_iff built).1 (right param built))
      · rintro (not | closed) param' built'
        · cases not
        · exact (report_right_iff built').2 closed

end Report

/-! ## A scan of channels 11 and 13 -/

def reportConfirm : ZbMacScanConfirm := ⟨macSuccess, 0, Vector.ofFn fun i => UInt8.ofNat i.val⟩

def reportGlobals : ZdoGlobals :=
  { ZdoGlobals.init with
    zdoEdScan := true
    zdoCtx := { ZdoGlobals.init.zdoCtx with scanChannels := 0x2800 } }

/-- The report has two channels, and the value of one. -/
theorem report_ends_at_gap :
    ∃ param, zbNlmeEdScanConfirm reportConfirm reportGlobals = .updNotify param ∧
      channelsOf param.notify.scannedChannels = [0, 2] ∧ param.notify.energyValues = [0] ∧
      ¬ ReportRight reportConfirm (zbZdoNwkUpdNotify param reportGlobals).2.notify := by
  refine ⟨_, rfl, by decide +kernel, by decide +kernel, fun right => ?_⟩
  have counted := right.counted
  revert counted
  decide +kernel

end Zboss.Zdo.EnergyReport
