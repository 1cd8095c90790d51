/-
# Secur.ReceivedHeaders -- the headers of a received frame lie inside it

Every check of `Secur.ReceivePath` along a run, against a condition on the frames alone.

* `bounded_iff`: all headers lie within what remains, no payload is too short for its MIC,
  and no address reference is used before it is set, in a run that begins with no frame at
  all, exactly if every frame is long enough for the flags it carries (`LongEnough`), and a
  secured frame that is looked at has a short source address.
* `bounded_step`: one step, by its task.  Each function of the way has a lemma of its own
  that turns its checks into a condition on its frame.

A frame stays inside its buffer on the whole way (`step_inside`), so that what remains behind
a header is what stood there.

Pole: `short_unbounded`.
-/
import Mathlib
import Zboss.Common.Constants
import Zboss.Secur.NwkRoundTrip
import Zboss.Secur.ReceivePath

namespace Zboss.Secur.ReceivedHeaders

open Zboss.Common.Constants
open Zboss.Theory.Checks
open Zboss.Theory.CcmStar
open Zboss.Theory.Run
open Zboss.Common.Types
open Zboss.Common.Address
open Zboss.Common.PacketBuf
open Zboss.Common.PacketBufRun
open Zboss.Mac.Header
open Zboss.Nwk.Neighbor
open Zboss.Nwk.Header
open Zboss.Nwk.Broadcast
open Zboss.Nwk.RelayIndicate
open Zboss.Aps.ApsFrame
open Zboss.Aps.Dups hiding ZbApsHdr zbNldeDataIndicationContinue
open Zboss.Secur.KeyMaterial
open Zboss.Secur.NwkSecure
open Zboss.Secur.Ccm
open Zboss.Secur.CcmRoundTrip
open Zboss.Secur.NwkFrame
open Zboss.Secur.NwkRoundTrip
open Zboss.Secur.ReceivePath

set_option autoImplicit false

/-! ## Buffers -/

section Buffers

variable {b c : ZbBuf}

/-- A header was there, and is cut off. -/
structure Cut (size : Nat) (b c : ZbBuf) : Prop where
  enough : size ≤ b.len.toNat
  bytes : bytes c = (bytes b).drop size
  len : c.len.toNat = b.len.toNat - size
  inside : Inside c

theorem ofNat_toNat {size : Nat} (small : size < 256) : (UInt8.ofNat size).toNat = size :=
  UInt8.toNat_ofNat_of_lt' (by simpa [UInt8.size] using small)

theorem cutLeft_cut {size : Nat} (small : size < 256) (inside : Inside b)
    (cut : zbBufCutLeft (UInt8.ofNat size) b = some c) : Cut size b c := by
  have enough : UInt8.ofNat size ≤ b.len := by
    by_contra not
    rw [zbBufCutLeft, if_neg not] at cut
    cases cut
  obtain ⟨c', cut', buf, begins, len⟩ := cutLeft_spec (UInt8.le_iff_toNat_le.1 enough) inside
  obtain rfl := Option.some.inj (cut.symm.trans cut')
  have enough := UInt8.le_iff_toNat_le.1 enough
  rw [ofNat_toNat small] at enough begins len
  refine ⟨enough, ?_, len, (cutLeft_effect inside cut).1⟩
  rw [ReceivePath.bytes, ReceivePath.bytes, buf, begins, List.drop_drop]

theorem allHold_cutHeader {size : Nat} :
    AllHold HeaderCheck.Ok (cutHeader size b) ↔ size ≤ b.len.toNat := by
  rw [cutHeader, allHold_check_bind]
  exact and_iff_left (allHold_ofOption _)

theorem cutHeader_result {size : Nat} (small : size < 256) (inside : Inside b)
    (enough : size ≤ b.len.toNat) : ∃ c, (cutHeader size b).result = some c ∧ Cut size b c := by
  obtain ⟨c, cut, -⟩ := @cutLeft_spec (UInt8.ofNat size) b (by rwa [ofNat_toNat small]) inside
  refine ⟨c, ?_, cutLeft_cut small inside cut⟩
  rw [cutHeader, result_bind, result_check, Option.bind_some, result_ofOption, cut]

theorem gives_cutHeader {size : Nat} (small : size < 256) (inside : Inside b) :
    Gives (Cut size b) (cutHeader size b) := by
  refine gives_check_bind fun c cut => ?_
  exact cutLeft_cut small inside cut

/-- The trailer is cut off. -/
theorem cutRight_len {size : UInt8} (cut : zbBufCutRight size b = some c) :
    bytes c = bytes b ∧ c.len.toNat = b.len.toNat - size.toNat := by
  rw [zbBufCutRight] at cut
  split at cut
  next enough =>
    cases cut
    exact ⟨rfl, UInt8.toNat_sub_of_le _ _ enough⟩
  next => cases cut

end Buffers

section Decrypted

variable {aes128 : ZbKey → Block → Block} {stack : Vector UInt8 zbIoBufSize} {b c : ZbBuf}

/-- What is decrypted lies in the buffer, with its MIC. -/
theorem decrypt_effect {key : ZbKey} {nonce : Vector UInt8 zbCcmNonceLen} {aLen cLen : Nat}
    {ret : Except ZbRet Unit}
    (decrypted : zbCcmDecryptNAuth aes128 key nonce stack b aLen cLen = some (c, ret)) :
    zbCcmM ≤ cLen ∧ b.begin_ + aLen + cLen ≤ zbIoBufSize ∧ c.begin_ = b.begin_ ∧
      c.len = b.len - UInt8.ofNat zbCcmM := by
  unfold zbCcmDecryptNAuth at decrypted
  by_cases mic : cLen < zbCcmM
  · rw [if_pos mic] at decrypted
    cases decrypted
  · rw [if_neg mic] at decrypted
    obtain ⟨stringA, -, decrypted⟩ := Option.bind_eq_some_iff.1 decrypted
    obtain ⟨stringC, -, decrypted⟩ := Option.bind_eq_some_iff.1 decrypted
    obtain ⟨u, there, decrypted⟩ := Option.bind_eq_some_iff.1 decrypted
    obtain ⟨text, -, decrypted⟩ := Option.bind_eq_some_iff.1 decrypted
    obtain ⟨plain, -, decrypted⟩ := Option.bind_eq_some_iff.1 decrypted
    obtain ⟨tag, -, decrypted⟩ := Option.bind_eq_some_iff.1 decrypted
    have within : b.begin_ + aLen + cLen - zbCcmM + zbCcmM ≤ zbIoBufSize := by
      by_contra not
      rw [peek, if_neg not] at there
      cases there
    refine ⟨Nat.le_of_not_lt mic, by omega, ?_⟩
    split at decrypted
    next =>
      obtain ⟨mem, -, decrypted⟩ := Option.bind_eq_some_iff.1 decrypted
      cases decrypted
      exact ⟨rfl, rfl⟩
    next =>
      obtain ⟨mem, -, decrypted⟩ := Option.bind_eq_some_iff.1 decrypted
      cases decrypted
      exact ⟨rfl, rfl⟩

/-- A payload that was cut off below zero is beyond the buffer. -/
theorem decrypt_behind {key : ZbKey} {nonce : Vector UInt8 zbCcmNonceLen} {hdrSize : Nat}
    {ret : Except ZbRet Unit} (inside : Inside b)
    (decrypted : zbCcmDecryptNAuth aes128 key nonce stack b hdrSize (payloadSize b hdrSize) =
      some (c, ret)) : hdrSize ≤ c.len.toNat ∧ Inside c := by
  obtain ⟨mic, within, begins, len⟩ := decrypt_effect decrypted
  have buffer : zbIoBufSize = 148 := rfl
  have four : zbCcmM = 4 := rfl
  have payload : hdrSize + 4 ≤ b.len.toNat := by
    rw [payloadSize] at mic within
    omega
  have length : c.len.toNat = b.len.toNat - 4 := by
    rw [len, UInt8.toNat_sub_of_le _ _ (UInt8.le_iff_toNat_le.2 (by rw [ofNat_toNat] <;> omega)),
      ofNat_toNat (by omega), four]
  refine ⟨by omega, ?_⟩
  simp only [Inside] at inside ⊢
  omega

theorem reinsert_effect {mhr : ZbMacMhr} {mhrLen : Nat} {macHdrOffset : UInt8} (small : mhrLen + 1 < 256)
    (inside : Inside b) (inserted : reinsertMhr mhr mhrLen b = some (c, macHdrOffset)) :
    c.len.toNat = b.len.toNat ∧ Inside c := by
  simp only [reinsertMhr, Option.bind_eq_bind] at inserted
  obtain ⟨d, allocated, inserted⟩ := Option.bind_eq_some_iff.1 inserted
  obtain ⟨mem, -, inserted⟩ := Option.bind_eq_some_iff.1 inserted
  obtain ⟨e, cut, inserted⟩ := Option.bind_eq_some_iff.1 inserted
  cases inserted
  have room := allocLeft_room allocated
  obtain ⟨d', allocated', len, within, -⟩ := smartAllocLeft_spec room inside
  obtain rfl := Option.some.inj (allocated.symm.trans allocated')
  have cut := cutLeft_cut small (b := { d with buf := mem }) within cut
  rw [ofNat_toNat small] at len
  refine ⟨?_, cut.inside⟩
  rw [cut.len]
  show d.len.toNat - _ = _
  omega

end Decrypted

/-! ## Unsecuring -/

section Unsecure

variable {aes128 : ZbKey → Block → Block} {stack : Vector UInt8 zbIoBufSize} {random : ZbKey}
  {mhr : ZbMacMhr} {mhrLen hdrSize auxPos n : Nat} {key : ZbKey} {s s' : RecvContext}
  {nsdu c : ZbBuf} {macHdrOffset : UInt8}

theorem unsecureDecrypt_behind (small : mhrLen + 1 < 256) (inside : Inside nsdu)
    (unsecured : unsecureDecrypt aes128 stack random mhr mhrLen n hdrSize auxPos key s nsdu =
      some (s', .unsecured c macHdrOffset)) : hdrSize ≤ c.len.toNat ∧ Inside c := by
  unfold unsecureDecrypt at unsecured
  rw [← payloadSize] at unsecured
  by_cases short : payloadSize nsdu hdrSize < zbCcmM
  · rw [if_pos short] at unsecured
    obtain ⟨d, -, unsecured⟩ := Option.bind_eq_some_iff.1 unsecured
    obtain ⟨e, -, unsecured⟩ := Option.bind_eq_some_iff.1 unsecured
    cases unsecured
  · rw [if_neg short] at unsecured
    obtain ⟨mem, -, unsecured⟩ := Option.bind_eq_some_iff.1 unsecured
    obtain ⟨aux, -, unsecured⟩ := Option.bind_eq_some_iff.1 unsecured
    obtain ⟨⟨d, ret⟩, decrypted, unsecured⟩ := Option.bind_eq_some_iff.1 unsecured
    obtain ⟨behind, within⟩ := decrypt_behind (b := { nsdu with buf := mem }) inside decrypted
    cases ret with
    | error e =>
        obtain ⟨e, -, unsecured⟩ := Option.bind_eq_some_iff.1 unsecured
        cases unsecured
    | ok _ =>
        obtain ⟨⟨e, offset⟩, inserted, unsecured⟩ := Option.bind_eq_some_iff.1 unsecured
        obtain ⟨keySeqNumber, -, unsecured⟩ := Option.bind_eq_some_iff.1 unsecured
        cases unsecured
        obtain ⟨len, kept⟩ := reinsert_effect small within inserted
        exact ⟨by omega, kept⟩

theorem peek_bytes {b : ZbBuf} {len : Nat} {p : List UInt8} (there : peek b.buf b.begin_ len = some p) :
    p = (bytes b).take len := by
  rw [peek] at there
  split at there
  next =>
    cases there
    rfl
  next => cases there

/-- **Only a short address** is looked up. -/
theorem allHold_neighborGet (stackRef : Nat) (sourceAddress : ZbIeeeAddr) (srcAddr : UInt16) :
    AllHold HeaderCheck.Ok (neighborGet mhr stackRef sourceAddress srcAddr s) ↔
      fcfGetSrcAddressingMode mhr.frameControl = zbAddr16bitDevOrBroadcast := by
  rw [neighborGet, allHold_ofOption_bind]
  by_cases short : fcfGetSrcAddressingMode mhr.frameControl = zbAddr16bitDevOrBroadcast
  · refine iff_of_true ?_ short
    rintro ⟨addr, found⟩ -
    cases found with
    | error e => exact allHold_pure _
    | ok addrRef =>
        refine (allHold_check_bind _ _).2 ⟨beq_iff_eq.2 short, ?_⟩
        exact (allHold_ofOption_bind _ _).2 fun _ _ => allHold_pure _
  · refine iff_of_false ?_ short
    intro all
    have second := all (s.secur.addr, .ok stackRef) (if_neg short)
    have set := ((allHold_check_bind _ _).1 second).1
    exact short (beq_iff_eq.1 set)

/-- Behind headers that are all there nothing is below zero. -/
theorem allHold_unsecureKnown {aux : ZbNwkAuxFrameHdr} (behind : hdrSize ≤ nsdu.len.toNat) :
    AllHold HeaderCheck.Ok
      (unsecureKnown aes128 stack random mhr mhrLen n hdrSize auxPos aux s nsdu) := by
  unfold unsecureKnown
  dsimp only
  cases (checkFreshness n aux.keySeqNumber aux.frameCounter s).2 with
  | error status => exact (allHold_ofOption_bind _ _).2 fun _ _ => allHold_pure _
  | ok key =>
      dsimp only
      split
      next mic =>
        refine (allHold_check_bind _ _).2 ⟨?_, allHold_ofOption _⟩
        show hdrSize + zbCcmM ≤ nsdu.len.toNat
        have byte := nsdu.len.toNat_lt
        have four : zbCcmM = 4 := rfl
        rw [payloadSize] at mic
        omega
      next => exact allHold_ofOption _

/-- **A secured frame** that is looked at. -/
theorem allHold_unsecureFrame {stackRef : Nat} (inside : Inside nsdu) (eight : 8 ≤ nsdu.len.toNat)
    (secured : frameCtlGetSecurity (bytes nsdu) ≠ 0) :
    AllHold HeaderCheck.Ok (unsecureFrame aes128 stack random mhr mhrLen stackRef s nsdu) ↔
      (s.secur.authenticated = true → zbNwkHdrSize (bytes nsdu) ≤ nsdu.len.toNat ∧
        fcfGetSrcAddressingMode mhr.frameControl = zbAddr16bitDevOrBroadcast) := by
  unfold unsecureFrame
  cases s.secur.authenticated with
  | false => simp
  | true =>
      simp only [Bool.not_true, Bool.false_eq_true, if_false, forall_const]
      have inMemory : nsdu.begin_ + 8 ≤ zbIoBufSize := by
        simp only [Inside] at inside
        omega
      have read : peek nsdu.buf nsdu.begin_ 8 = some ((bytes nsdu).take 8) := if_pos inMemory
      have aux : 22 ≤ zbNwkHdrSize (bytes nsdu) := zbNwkHdrSize_secured secured
      rw [read, allHold_ofOption_bind]
      constructor
      · intro all
        obtain ⟨behind, rest⟩ := (allHold_check_bind _ _).1 (all _ rfl)
        rw [zbNwkHdrSize_take (by omega)] at behind
        refine ⟨behind, ?_⟩
        have auxIn : nsdu.begin_ + zbNwkHdrSize (bytes nsdu) - auxFrameHdrSize + auxFrameHdrSize ≤
            zbIoBufSize := by
          simp only [Inside, HeaderCheck.Ok, auxFrameHdrSize] at inside behind ⊢
          omega
        rw [zbNwkHdrSize_take (by omega), peek_slice auxIn] at rest
        have known := (allHold_ofOption_bind _ _).1 rest _ rfl
        exact (allHold_neighborGet ..).1 ((allHold_bind _ _).1 known).1
      · rintro ⟨behind, short⟩ nwkHdr same
        cases same
        rw [zbNwkHdrSize_take (by omega)]
        refine (allHold_check_bind _ _).2 ⟨behind, (allHold_ofOption_bind _ _).2 fun auxBytes _ => ?_⟩
        refine (allHold_bind _ _).2 ⟨(allHold_neighborGet ..).2 short, ?_⟩
        rintro ⟨s', found⟩ -
        cases found with
        | error e => exact (allHold_ofOption_bind _ _).2 fun _ _ => allHold_pure _
        | ok n => exact allHold_unsecureKnown behind

/-- **What is unsecured** has its header still, and lies in the buffer. -/
theorem gives_unsecureFrame {stackRef : Nat} (small : mhrLen + 1 < 256) (inside : Inside nsdu) :
    Gives (fun r => ∀ c macHdrOffset, r.2 = .unsecured c macHdrOffset →
        zbNwkHdrSize (bytes nsdu) ≤ c.len.toNat ∧ Inside c)
      (unsecureFrame aes128 stack random mhr mhrLen stackRef s nsdu) := by
  unfold unsecureFrame
  split
  next =>
    apply gives_pure
    intro c macHdrOffset same
    cases same
  next =>
    refine gives_ofOption_bind fun nwkHdr read => ?_
    obtain rfl := peek_bytes read
    rw [zbNwkHdrSize_take (by omega)]
    refine gives_check_bind (gives_ofOption_bind fun aux _ => ?_)
    refine gives_bind_of_result ?_
    rintro ⟨s', found⟩ -
    cases found with
    | error e =>
        refine gives_ofOption_bind fun d _ => gives_pure ?_
        intro c macHdrOffset same
        cases same
    | ok n =>
        rintro ⟨s'', outcome⟩ result c macHdrOffset rfl
        rw [unsecureKnown_eq] at result
        dsimp only at result
        split at result
        next =>
          obtain ⟨d, -, result⟩ := Option.bind_eq_some_iff.1 result
          cases result
        next => exact unsecureDecrypt_behind small inside result

end Unsecure

/-! ## A delivered frame -/

/-- The task that is next has its frame inside. -/
def NextInside (task : Option RxTask) : Prop := ∀ t, task = some t → Inside t.buf

section Delivered

variable {aes128 : ZbKey → Block → Block} {tail : UInt8} {dev : RxDevice} {b : ZbBuf}

theorem zbParseMhr_small (p : List UInt8) : (zbParseMhr p).2 + 1 < 256 := by
  rw [zbParseMhr_length, mhrLen]
  have short : ∀ mode, mhrAddrLen mode ≤ 8 := by
    intro mode
    rw [mhrAddrLen]
    split <;> omega
  have dst := short (fcfGetDstAddressingMode (zbParseMhr p).1.frameControl)
  have src := short (fcfGetSrcAddressingMode (zbParseMhr p).1.frameControl)
  split_ifs <;> omega

theorem allHold_zbMacCutHdr {hlen : Nat} :
    AllHold HeaderCheck.Ok (zbMacCutHdr tail hlen b) ↔ tail.toNat + hlen ≤ b.len.toNat := by
  rw [zbMacCutHdr, allHold_check_bind, allHold_ofOption_bind]
  constructor
  · rintro ⟨trailer, all⟩
    have enough : tail ≤ b.len := UInt8.le_iff_toNat_le.2 trailer
    have cut : zbBufCutRight tail b = some { b with len := b.len - tail } := if_pos enough
    have header := allHold_cutHeader.1 (all _ cut)
    have len := (cutRight_len cut).2
    simp only [HeaderCheck.Ok] at trailer
    omega
  · intro enough
    refine ⟨show tail.toNat ≤ b.len.toNat by omega, fun c cut => allHold_cutHeader.2 ?_⟩
    rw [(cutRight_len cut).2]
    omega

theorem zbMacCutHdr_result {hlen : Nat} (small : hlen < 256) (inside : Inside b)
    (enough : tail.toNat + hlen ≤ b.len.toNat) :
    ∃ c, (zbMacCutHdr tail hlen b).result = some c ∧ bytes c = (bytes b).drop hlen ∧
      c.len.toNat + tail.toNat + hlen = b.len.toNat ∧ Inside c := by
  have trailer : tail ≤ b.len := UInt8.le_iff_toNat_le.2 (by omega)
  have cut : zbBufCutRight tail b = some { b with len := b.len - tail } := if_pos trailer
  obtain ⟨same, len⟩ := cutRight_len cut
  obtain ⟨c, result, header⟩ := cutHeader_result small (cutRight_effect inside cut).1 (by omega)
  refine ⟨c, ?_, by rw [header.bytes, same], ?_, header.inside⟩
  · rw [zbMacCutHdr, result_bind, result_check, Option.bind_some, result_bind, result_ofOption, cut,
      Option.bind_some, result]
  · have length := header.len
    omega

theorem gives_zbMacCutHdr {hlen : Nat} (small : hlen < 256) (inside : Inside b) :
    Gives Inside (zbMacCutHdr tail hlen b) := by
  refine gives_check_bind (gives_ofOption_bind fun c cut => ?_)
  intro d result
  exact (gives_cutHeader small (cutRight_effect inside cut).1 d result).inside

theorem allHold_indicateFrame {nwkHdr : List UInt8} {hdrSize : Nat} :
    AllHold HeaderCheck.Ok (indicateFrame dev nwkHdr hdrSize b) ↔
      (isRouter dev = true ∧ zbNwkIsAddressBroadcast (nwhdrDstAddr nwkHdr) = true →
        hdrSize ≤ b.len.toNat) := by
  unfold indicateFrame
  dsimp only
  by_cases relays : (isRouter dev && zbNwkIsAddressBroadcast (nwhdrDstAddr nwkHdr)) = true
  · rw [if_pos relays, allHold_check_bind]
    have both := Bool.and_eq_true_iff.1 relays
    exact ⟨fun all _ => all.1, fun needs => ⟨needs both, allHold_pure _⟩⟩
  · rw [if_neg relays]
    refine iff_of_true (allHold_pure _) fun both => ?_
    exact absurd (Bool.and_eq_true_iff.2 both) relays

theorem gives_indicateFrame {nwkHdr : List UInt8} {hdrSize : Nat} (inside : Inside b) :
    Gives NextInside (indicateFrame dev nwkHdr hdrSize b) := by
  have next : ∀ c : Prop, ∀ (_ : Decidable c), NextInside
      (if c then some (RxTask.nwkFrameIndication (setByte 6 ((bytes b).getD 6 0 - 1) b)) else none) := by
    intro c _ task same
    split at same
    next =>
      cases same
      exact inside
    next => cases same
  unfold indicateFrame
  dsimp only
  split
  · exact gives_check_bind (gives_pure (next _ _))
  · exact gives_pure (next _ _)

/-- What a delivered frame needs: its trailer, its MAC header and what a NWK header begins
with.  If it goes on, also the whole NWK header, with the auxiliary header, where it is
unsecured or relayed; and a short source address where it is unsecured. -/
def DeliveredLongEnough (tail : UInt8) (dev : RxDevice) (authenticated accepted : Bool) (frame : ZbBuf) :
    Prop :=
  let p := bytes frame
  let fcf := (p.getD 0 0, p.getD 1 0)
  let nwkHdr := p.drop (mhrLen fcf)
  let behind := tail.toNat + mhrLen fcf
  behind + nwkFixedHdrSize ≤ frame.len.toNat ∧
    (goesOn accepted nwkHdr = true →
      if frameCtlGetSecurity nwkHdr ≠ 0 then
        authenticated = true → behind + zbNwkHdrSize nwkHdr ≤ frame.len.toNat ∧
          fcfGetSrcAddressingMode fcf = zbAddr16bitDevOrBroadcast
      else isRouter dev = true ∧ zbNwkIsAddressBroadcast (nwhdrDstAddr nwkHdr) = true →
        behind + zbNwkHdrSize nwkHdr ≤ frame.len.toNat)

/-- **A delivered frame**: what is looked at is there, exactly if it is long enough. -/
theorem allHold_zbMcpsDataIndication {accepted : Bool} {locals : Locals} {s : RecvContext}
    (inside : Inside b) :
    AllHold HeaderCheck.Ok (zbMcpsDataIndication aes128 tail dev b accepted locals s) ↔
      DeliveredLongEnough tail dev s.secur.authenticated accepted b := by
  have size : (zbParseMhr (bytes b)).2 = mhrLen ((bytes b).getD 0 0, (bytes b).getD 1 0) :=
    zbParseMhr_length _
  have small := zbParseMhr_small (bytes b)
  unfold zbMcpsDataIndication DeliveredLongEnough
  dsimp only
  rw [← size]
  by_cases enough : tail.toNat + (zbParseMhr (bytes b)).2 ≤ b.len.toNat
  · obtain ⟨c, result, same, len, within⟩ := zbMacCutHdr_result (by omega) inside enough
    rw [allHold_bind_of_result result, allHold_zbMacCutHdr, and_iff_right enough,
      allHold_check_bind, ← same]
    have fixed : (HeaderCheck.header nwkFixedHdrSize c.len.toNat).Ok ↔
        tail.toNat + (zbParseMhr (bytes b)).2 + nwkFixedHdrSize ≤ b.len.toNat := by
      show nwkFixedHdrSize ≤ c.len.toNat ↔ _
      omega
    rw [fixed]
    refine and_congr_right fun eight => ?_
    cases goesOn accepted (bytes c) with
    | false => simp
    | true =>
        simp only [Bool.not_true, Bool.false_eq_true, if_false, forall_const]
        have header : zbNwkHdrSize (bytes c) ≤ c.len.toNat ↔
            tail.toNat + (zbParseMhr (bytes b)).2 + zbNwkHdrSize (bytes c) ≤ b.len.toNat := by
          omega
        by_cases secured : frameCtlGetSecurity (bytes c) ≠ 0
        · rw [if_pos secured, if_pos secured, allHold_bind,
            allHold_unsecureFrame within (fixed.2 eight) secured, header]
          refine and_iff_left ?_
          rintro ⟨s', outcome⟩ result
          cases outcome with
          | unsecured d macHdrOffset =>
              -- the header is still there behind the MIC that was taken off
              have behind := (gives_unsecureFrame small within _ result d macHdrOffset rfl).1
              refine (allHold_bind _ _).2 ⟨allHold_indicateFrame.2 fun _ => behind, ?_⟩
              exact fun task _ => allHold_pure _
          | notAuthenticated => exact allHold_pure _
          | failed d statuses => exact allHold_pure _
        · rw [if_neg secured, if_neg secured, allHold_bind, allHold_indicateFrame, header]
          exact and_iff_left fun task _ => allHold_pure _
  · refine iff_of_false ?_ (fun needs => enough (by omega))
    intro all
    exact enough (allHold_zbMacCutHdr.1 ((allHold_bind _ _).1 all).1)

theorem gives_zbMcpsDataIndication {accepted : Bool} {locals : Locals} {s : RecvContext}
    (inside : Inside b) :
    Gives (fun r => NextInside r.2) (zbMcpsDataIndication aes128 tail dev b accepted locals s) := by
  have small := zbParseMhr_small (bytes b)
  have nothing : NextInside none := fun _ same => nomatch same
  unfold zbMcpsDataIndication
  dsimp only
  refine gives_bind (gives_zbMacCutHdr (by omega) inside) fun c within => gives_check_bind ?_
  split
  next => exact gives_pure nothing
  next =>
    split
    next =>
      refine gives_bind (gives_unsecureFrame small within) ?_
      rintro ⟨s', outcome⟩ behind
      cases outcome with
      | unsecured d macHdrOffset =>
          refine gives_bind (gives_indicateFrame (behind d macHdrOffset rfl).2) ?_
          exact fun task next => gives_pure next
      | notAuthenticated => exact gives_pure nothing
      | failed d statuses => exact gives_pure nothing
    next => exact gives_bind (gives_indicateFrame within) fun task next => gives_pure next

end Delivered

/-! ## NWK and APS headers -/

/-- What `zb_aps_hdr_parse` reads, by the frame control. -/
def apsParsedSize (fc : UInt8) : Nat :=
  if zbApsFcGetAckFormat fc = 0 then
    (if zbApsFcGetDeliveryMode fc ≠ zbApsDeliveryGroup then 2 else 3) + 6
  else 2

theorem zbApsHdrParse_size (stack : ZbApsHdr) (srcAddr dstAddr : UInt16) (p : List UInt8) :
    (zbApsHdrParse stack srcAddr dstAddr p).2 = apsParsedSize (p.getD 0 0) := by
  unfold zbApsHdrParse apsParsedSize
  dsimp only
  split
  · split <;> rfl
  · rfl

/-- A NWK header with the APS header behind it. -/
def ParsedLongEnough (packet : ZbBuf) : Prop :=
  let p := bytes packet
  zbNwkHdrSize p + apsParsedSize (p.getD (zbNwkHdrSize p) 0) ≤ packet.len.toNat

section Headers

variable {packet : ZbBuf} {stack : ZbApsHdr}

theorem allHold_apsHdrParse (inside : Inside packet) :
    AllHold HeaderCheck.Ok (apsHdrParse stack packet) ↔ ParsedLongEnough packet := by
  have small := zbNwkHdrSize_lt (bytes packet)
  unfold apsHdrParse ParsedLongEnough
  dsimp only
  by_cases enough : zbNwkHdrSize (bytes packet) ≤ packet.len.toNat
  · obtain ⟨c, result, cut⟩ := cutHeader_result small inside enough
    have fc : (bytes c).getD 0 0 = (bytes packet).getD (zbNwkHdrSize (bytes packet)) 0 := by
      rw [cut.bytes, List.getD_eq_getElem?_getD, List.getElem?_drop, Nat.add_zero,
        List.getD_eq_getElem?_getD]
    have len := cut.len
    rw [allHold_bind_of_result result, allHold_cutHeader, and_iff_right enough, allHold_check_bind,
      zbApsHdrParse_size, fc]
    refine (and_iff_left (allHold_pure _)).trans ?_
    simp only [HeaderCheck.Ok]
    omega
  · refine iff_of_false ?_ (fun needs => enough (by omega))
    intro all
    exact enough (allHold_cutHeader.1 ((allHold_bind _ _).1 all).1)

theorem gives_apsHdrParse (inside : Inside packet) :
    Gives (fun r => Inside r.2) (apsHdrParse stack packet) := by
  refine gives_bind (gives_cutHeader (zbNwkHdrSize_lt _) inside) fun c cut => ?_
  exact gives_check_bind (gives_pure cut.inside)

theorem allHold_nwkFrameIndication :
    AllHold HeaderCheck.Ok (nwkFrameIndication packet) ↔
      (frameCtlGetFrameType (bytes packet) = zbNwkFrameTypeCommand →
        zbNwkHdrSize (bytes packet) ≤ packet.len.toNat) := by
  unfold nwkFrameIndication
  dsimp only
  split
  next data =>
    refine iff_of_true (allHold_pure _) fun command => ?_
    rw [data] at command
    cases command
  next =>
    split
    next command =>
      rw [allHold_check_bind]
      exact ⟨fun all _ => all.1, fun needs => ⟨needs command, allHold_pure _⟩⟩
    next other => exact iff_of_true (allHold_pure _) fun command => absurd command other

theorem gives_nwkFrameIndication (inside : Inside packet) :
    Gives NextInside (nwkFrameIndication packet) := by
  unfold nwkFrameIndication
  dsimp only
  split
  next =>
    refine gives_pure fun task same => ?_
    cases same
    exact inside
  next =>
    split
    next => exact gives_check_bind (gives_pure fun _ same => nomatch same)
    next => exact gives_pure fun _ same => nomatch same

theorem allHold_zbNldeDataIndication (inside : Inside packet) :
    AllHold HeaderCheck.Ok (zbNldeDataIndication stack packet) ↔
      zbNwkHdrSize (bytes packet) ≤ packet.len.toNat ∧
        (zbApsFcGetFrameType ((bytes packet).getD (zbNwkHdrSize (bytes packet)) 0) = zbApsFrameAck →
          ParsedLongEnough packet) := by
  unfold zbNldeDataIndication
  dsimp only
  rw [allHold_check_bind]
  refine and_congr_right fun _ => ?_
  split
  next ack =>
    rw [allHold_bind, allHold_apsHdrParse inside]
    exact ⟨fun all _ => all.1, fun needs => ⟨needs ack, fun _ _ => allHold_pure _⟩⟩
  next other => exact iff_of_true (allHold_pure _) fun ack => absurd ack other

theorem gives_zbNldeDataIndication (inside : Inside packet) :
    Gives NextInside (zbNldeDataIndication stack packet) := by
  refine gives_check_bind ?_
  dsimp only
  split
  next => exact gives_bind_of_result fun _ _ => gives_pure fun _ same => nomatch same
  next =>
    refine gives_pure fun task same => ?_
    cases same
    exact inside

theorem allHold_zbNldeDataIndicationContinue {isDup : Bool} (inside : Inside packet) :
    AllHold HeaderCheck.Ok (zbNldeDataIndicationContinue stack isDup packet) ↔
      ParsedLongEnough packet := by
  unfold zbNldeDataIndicationContinue
  rw [allHold_bind, allHold_apsHdrParse inside]
  refine and_iff_left ?_
  rintro ⟨hdr, c⟩ -
  dsimp only
  split
  · exact allHold_pure _
  · refine (allHold_ofOption_bind _ _).2 fun d _ => ?_
    split <;> exact allHold_pure _

theorem passUp_buf (hdr : ZbApsHdr) (b : ZbBuf) : (passUp hdr b).buf = b := by
  rw [passUp]
  split <;> rfl

theorem gives_zbNldeDataIndicationContinue {isDup : Bool} (inside : Inside packet) :
    Gives NextInside (zbNldeDataIndicationContinue stack isDup packet) := by
  refine gives_bind (gives_apsHdrParse inside) ?_
  rintro ⟨hdr, c⟩ within
  dsimp only
  split
  · exact gives_pure fun _ same => nomatch same
  · refine gives_ofOption_bind fun d assigned => ?_
    have kept := (assignParam_effect within assigned).1
    split
    · refine gives_pure fun task same => ?_
      cases same
      exact kept
    · refine gives_pure fun task same => ?_
      cases same
      rw [passUp_buf]
      exact kept

end Headers

/-! ## APS security -/

/-- There is a key of this number, the sender has an entry in the neighbour table, and its
counter is not behind. -/
def HasApsKey (addrRef : Nat) (keySeqNumber : UInt8) (frameCounter : UInt32) (s : RecvContext) : Prop :=
  ∃ key addr neighbor n, securNwkKeyBySeq s.secur keySeqNumber = some key ∧
    zbNwkNeighborGet addrRef true s.depth s.secur.addr s.neighbor = some (addr, neighbor, .ok n) ∧
    staleCounter frameCounter (switchPeerKey keySeqNumber (neighbor.baseNeighbor n)) = false

/-- What a secured APS frame needs, where its sender has an address: its header; where it is
not under a data key, the auxiliary header; and the MIC where it is decrypted. -/
def ApsUnsecureLongEnough (srcAddr : UInt16) (s : RecvContext) (buf : ZbBuf) : Prop :=
  let p := bytes buf
  let hdrSize := zbApsHdrSize (p.getD 0 0)
  let aSize := hdrSize + apsNwkAuxFrameHdrSize
  ∀ addr addrRef, zbAddressByShort srcAddr false false s.secur.addr = some (addr, .ok addrRef) →
    hdrSize ≤ buf.len.toNat ∧
      (zbSecurAuxHdrGetKeyType (p.getD hdrSize 0) ≠ zbSecurDataKey →
        aSize ≤ buf.len.toNat ∧
          (HasApsKey addrRef (p.getD (hdrSize + 5) 0) (uint32At (hdrSize + 1) p)
              { s with secur := { s.secur with addr } } →
            aSize + zbCcmM ≤ buf.len.toNat))

section ApsSecurity

variable {aes128 : ZbKey → Block → Block} {buf : ZbBuf} {s : RecvContext} {locals : Locals}

theorem apsUnsecureKey_some {addrRef : Nat} {keySeqNumber : UInt8} {frameCounter : UInt32} :
    (∃ s' key, apsUnsecureKey addrRef keySeqNumber frameCounter s = some (s', some key)) ↔
      HasApsKey addrRef keySeqNumber frameCounter s := by
  unfold apsUnsecureKey HasApsKey
  dsimp only
  cases got : zbNwkNeighborGet addrRef true s.depth s.secur.addr s.neighbor with
  | none => simp
  | some r =>
      obtain ⟨addr, neighbor, found⟩ := r
      rw [Option.bind_eq_bind, Option.bind_some]
      cases found with
      | error e => simp
      | ok n =>
          cases securNwkKeyBySeq s.secur keySeqNumber with
          | none =>
              refine iff_of_false ?_ (by simp)
              rintro ⟨s', key, result⟩
              simp only [Option.isSome_none, Bool.false_eq_true, if_false] at result
              split at result <;> cases result
          | some key =>
              simp only [Option.isSome_some, if_true, setNbe_self]
              constructor
              · rintro ⟨s', key', result⟩
                split at result
                next => cases result
                next fresh => exact ⟨key, addr, neighbor, n, rfl, rfl, eq_false_of_ne_true fresh⟩
              · rintro ⟨key', addr', neighbor', n', -, same, fresh⟩
                cases same
                exact ⟨_, key, if_neg (by simp [fresh])⟩

theorem allHold_apsDecrypt {stack : Vector UInt8 zbIoBufSize} {key : ZbKey} {nonce : ZbSecurCcmNonce}
    {aSize : Nat} : AllHold HeaderCheck.Ok (apsDecrypt aes128 stack key nonce aSize buf) ↔
      aSize + zbCcmM ≤ buf.len.toNat := by
  rw [apsDecrypt, allHold_check_bind]
  exact and_iff_left (allHold_ofOption _)

theorem allHold_apsUnsecureKnown {found : Except ZbRet Nat} {addrRef : Nat}
    (set : found = .ok addrRef) :
    AllHold HeaderCheck.Ok (apsUnsecureKnown aes128 locals found addrRef buf s) ↔
      let p := bytes buf
      let hdrSize := zbApsHdrSize (p.getD 0 0)
      let aSize := hdrSize + apsNwkAuxFrameHdrSize
      hdrSize ≤ buf.len.toNat ∧
        (zbSecurAuxHdrGetKeyType (p.getD hdrSize 0) ≠ zbSecurDataKey →
          aSize ≤ buf.len.toNat ∧
            (HasApsKey addrRef (p.getD (hdrSize + 5) 0) (uint32At (hdrSize + 1) p) s →
              aSize + zbCcmM ≤ buf.len.toNat)) := by
  subst set
  unfold apsUnsecureKnown
  rw [allHold_check_bind]
  refine and_congr_right fun _ => ?_
  by_cases data : zbSecurAuxHdrGetKeyType
      ((bytes buf).getD (zbApsHdrSize ((bytes buf).getD 0 0)) 0) = zbSecurDataKey
  · rw [if_pos data]
    exact iff_of_true (allHold_pure _) fun other => absurd data other
  · rw [if_neg data, imp_iff_right data, allHold_check_bind, allHold_check_bind,
      allHold_ofOption_bind]
    refine and_congr_right fun _ => (and_iff_right rfl).trans ?_
    constructor
    · intro all has
      obtain ⟨s', key, result⟩ := apsUnsecureKey_some.2 has
      have decrypts := ((allHold_check_bind _ _).1 (all _ result)).2
      rw [allHold_bind, allHold_apsDecrypt] at decrypts
      exact decrypts.1
    · rintro needs ⟨s', found⟩ result
      cases found with
      | none => exact allHold_pure _
      | some key =>
          have mic := needs (apsUnsecureKey_some.1 ⟨s', key, result⟩)
          refine (allHold_check_bind _ _).2 ⟨rfl, (allHold_bind _ _).2 ⟨?_, fun _ _ => allHold_pure _⟩⟩
          exact allHold_apsDecrypt.2 mic

theorem allHold_zbApsUnsecureFrame {srcAddr : UInt16} :
    AllHold HeaderCheck.Ok (zbApsUnsecureFrame aes128 locals srcAddr buf s) ↔
      ApsUnsecureLongEnough srcAddr s buf := by
  unfold zbApsUnsecureFrame ApsUnsecureLongEnough
  dsimp only
  rw [allHold_ofOption_bind]
  constructor
  · intro all addr addrRef found
    exact (allHold_apsUnsecureKnown rfl).1 (all _ found)
  · rintro needs ⟨addr, found⟩ result
    cases found with
    | error e => exact allHold_pure _
    | ok addrRef => exact (allHold_apsUnsecureKnown rfl).2 (needs addr addrRef result)

theorem gives_apsDecrypt {stack : Vector UInt8 zbIoBufSize} {key : ZbKey} {nonce : ZbSecurCcmNonce}
    {aSize : Nat} (inside : Inside buf) :
    Gives (fun r => Inside r.1) (apsDecrypt aes128 stack key nonce aSize buf) := by
  refine gives_check_bind ?_
  rintro ⟨c, ret⟩ decrypted
  exact (decrypt_behind inside decrypted).2

theorem gives_zbApsUnsecureFrame {srcAddr : UInt16} (inside : Inside buf) :
    Gives (fun r => Inside r.2.1) (zbApsUnsecureFrame aes128 locals srcAddr buf s) := by
  refine gives_ofOption_bind ?_
  rintro ⟨addr, found⟩ -
  cases found with
  | error e => exact gives_pure inside
  | ok addrRef =>
      show Gives _ (apsUnsecureKnown ..)
      unfold apsUnsecureKnown
      refine gives_check_bind ?_
      by_cases data : zbSecurAuxHdrGetKeyType
          ((bytes buf).getD (zbApsHdrSize ((bytes buf).getD 0 0)) 0) = zbSecurDataKey
      · rw [if_pos data]
        exact gives_pure inside
      · rw [if_neg data]
        refine gives_check_bind (gives_check_bind (gives_ofOption_bind ?_))
        rintro ⟨s', key⟩ -
        cases key with
        | none => exact gives_pure inside
        | some key =>
            refine gives_check_bind (gives_bind (gives_apsDecrypt ?_) fun r kept => gives_pure kept)
            exact inside

end ApsSecurity

/-! ## Behind the APS header -/

section Behind

variable {b : ZbBuf}

theorem apsCommandHdrSize_two (p : List UInt8) : apsCommandPktHeaderSize ≤ apsCommandHdrSize p := by
  have aux : zbApsSecurAuxSize (p.drop apsCommandPktHeaderSize) = 5 ∨
      zbApsSecurAuxSize (p.drop apsCommandPktHeaderSize) = 6 ∨
      zbApsSecurAuxSize (p.drop apsCommandPktHeaderSize) = 2 ^ 32 - 1 := by
    rw [zbApsSecurAuxSize]
    split_ifs
    · exact Or.inl rfl
    · exact Or.inr (Or.inl rfl)
    · exact Or.inr (Or.inr rfl)
  have two : apsCommandPktHeaderSize = 2 := rfl
  rw [apsCommandHdrSize]
  split_ifs <;> omega

theorem allHold_zbApsInCommandHandle :
    AllHold HeaderCheck.Ok (zbApsInCommandHandle b) ↔ apsCommandHdrSize (bytes b) ≤ b.len.toNat := by
  unfold zbApsInCommandHandle
  have first := apsCommandHdrSize_two (bytes b)
  split
  next =>
    rw [allHold_check_bind, allHold_cutHeader]
    refine and_iff_right_of_imp fun enough => ?_
    show apsCommandPktHeaderSize ≤ b.len.toNat
    exact first.trans enough
  next => exact allHold_cutHeader

theorem zbApsHdrSize_le_full (p : List UInt8) : zbApsHdrSize (p.getD 0 0) ≤ zbApsFullHdrSize p := by
  rw [zbApsFullHdrSize]
  split_ifs <;> omega

theorem allHold_zbApsHdrCut :
    AllHold HeaderCheck.Ok (zbApsHdrCut b) ↔ zbApsFullHdrSize (bytes b) ≤ b.len.toNat := by
  unfold zbApsHdrCut
  have first := zbApsHdrSize_le_full (bytes b)
  dsimp only
  split
  next =>
    rw [allHold_check_bind, allHold_cutHeader]
    refine and_iff_right_of_imp fun enough => ?_
    show zbApsHdrSize ((bytes b).getD 0 0) ≤ b.len.toNat
    exact first.trans enough
  next => exact allHold_cutHeader

/-- Where a frame is delivered. -/
def deliveredEndpoint (hdr : ZbApsHdr) (endpoint : UInt8) : UInt8 :=
  if zbApsFcGetFrameType hdr.fc = zbApsFrameData ∧
    zbApsFcGetDeliveryMode hdr.fc = zbApsDeliveryGroup then endpoint else hdr.dstEndpoint

theorem allHold_zbApsdeDataIndication {hdr : ZbApsHdr} {endpoint : UInt8} :
    AllHold HeaderCheck.Ok (zbApsdeDataIndication hdr endpoint b) ↔
      (deliveredEndpoint hdr endpoint = 0 → zbApsFullHdrSize (bytes b) ≤ b.len.toNat) := by
  unfold zbApsdeDataIndication
  dsimp only
  rw [← deliveredEndpoint]
  split
  next zdp =>
    rw [allHold_bind, allHold_zbApsHdrCut]
    exact ⟨fun all _ => all.1, fun needs => ⟨needs zdp, fun _ _ => allHold_pure _⟩⟩
  next other => exact iff_of_true (allHold_pure _) fun zdp => absurd zdp other

end Behind

/-! ## Runs -/

/-- What a frame needs for the task that is done next with it. -/
def TaskLongEnough (endpoint : UInt8) (s : RecvContext) : RxTask → Prop
  | .nwkFrameIndication buf =>
      frameCtlGetFrameType (bytes buf) = zbNwkFrameTypeCommand →
        zbNwkHdrSize (bytes buf) ≤ buf.len.toNat
  | .nldeDataIndication packet =>
      zbNwkHdrSize (bytes packet) ≤ packet.len.toNat ∧
        (zbApsFcGetFrameType ((bytes packet).getD (zbNwkHdrSize (bytes packet)) 0) = zbApsFrameAck →
          ParsedLongEnough packet)
  | .nldeDataIndicationContinue packet => ParsedLongEnough packet
  | .apsUnsecureFrame hdr buf => ApsUnsecureLongEnough hdr.srcAddr s buf
  | .apsInCommandHandle packet => apsCommandHdrSize (bytes packet) ≤ packet.len.toNat
  | .apsdeDataIndication hdr asdu =>
      deliveredEndpoint hdr endpoint = 0 → zbApsFullHdrSize (bytes asdu) ≤ asdu.len.toNat

section Machine

variable (aes128 : ZbKey → Block → Block) (tail : UInt8) (dev : RxDevice)

/-- What is claimed of a step. -/
def Bounded (s : RxState) (call : RxCall) : Prop :=
  AllHold HeaderCheck.Ok (rxCall aes128 tail dev s call)

instance (s : RxState) (call : RxCall) : Decidable (Bounded aes128 tail dev s call) :=
  inferInstanceAs (Decidable (∀ c ∈ (rxCall aes128 tail dev s call).checks, c.Ok))

/-- **Long enough** for what is done next. -/
def LongEnough (s : RxState) : RxCall → Prop
  | .deliver frame accepted _ =>
      DeliveredLongEnough tail dev s.recv.secur.authenticated accepted frame.buf
  | .run i _ endpoint _ => ∀ task, s.pending[i]? = some task → TaskLongEnough endpoint s.recv task

/-- The frames that wait lie in their buffers. -/
def AllInside (s : RxState) : Prop := ∀ task ∈ s.pending, Inside task.buf

variable {aes128 tail dev} {s t : RxState} {call : RxCall}

theorem allHold_runTask {isDup : Bool} {endpoint : UInt8} {locals : Locals} {recv : RecvContext}
    {task : RxTask} (inside : Inside task.buf) :
    AllHold HeaderCheck.Ok (runTask aes128 isDup endpoint locals recv task) ↔
      TaskLongEnough endpoint recv task := by
  cases task with
  | nwkFrameIndication buf =>
      exact (allHold_bind_pure _ _).trans allHold_nwkFrameIndication
  | nldeDataIndication packet =>
      exact (allHold_bind_pure _ _).trans (allHold_zbNldeDataIndication inside)
  | nldeDataIndicationContinue packet =>
      exact (allHold_bind_pure _ _).trans (allHold_zbNldeDataIndicationContinue inside)
  | apsUnsecureFrame hdr buf =>
      exact (allHold_bind_pure _ _).trans allHold_zbApsUnsecureFrame
  | apsInCommandHandle packet =>
      exact (allHold_bind_pure _ _).trans allHold_zbApsInCommandHandle
  | apsdeDataIndication hdr asdu =>
      exact (allHold_bind_pure _ _).trans allHold_zbApsdeDataIndication

theorem gives_runTask {isDup : Bool} {endpoint : UInt8} {locals : Locals} {recv : RecvContext}
    {task : RxTask} (inside : Inside task.buf) :
    Gives (fun r => NextInside r.2) (runTask aes128 isDup endpoint locals recv task) := by
  have nothing : NextInside none := fun _ same => nomatch same
  cases task with
  | nwkFrameIndication buf =>
      exact gives_bind (gives_nwkFrameIndication inside) fun _ next => gives_pure next
  | nldeDataIndication packet =>
      exact gives_bind (gives_zbNldeDataIndication inside) fun _ next => gives_pure next
  | nldeDataIndicationContinue packet =>
      exact gives_bind (gives_zbNldeDataIndicationContinue inside) fun _ next => gives_pure next
  | apsUnsecureFrame hdr buf =>
      refine gives_bind (gives_zbApsUnsecureFrame inside) fun r kept => gives_pure ?_
      intro task same
      split at same
      next =>
        cases same
        rw [passUp_buf]
        exact kept
      next => cases same
  | apsInCommandHandle packet => exact gives_bind_of_result fun _ _ => gives_pure nothing
  | apsdeDataIndication hdr asdu => exact gives_bind_of_result fun _ _ => gives_pure nothing

/-- **A step**: what is looked at is there, exactly if the frame is long enough. -/
theorem bounded_step (inside : AllInside s) :
    Bounded aes128 tail dev s call ↔ LongEnough tail dev s call := by
  unfold Bounded
  cases call with
  | deliver frame accepted locals =>
      rw [rxCall, allHold_bind_pure]
      exact allHold_zbMcpsDataIndication frame.inside
  | run i isDup endpoint locals =>
      rw [rxCall, LongEnough]
      cases waits : s.pending[i]? with
      | none =>
          refine iff_of_true (allHold_ofOption _) fun _ same => ?_
          cases same
      | some task =>
          have within := inside task (List.mem_of_getElem? waits)
          dsimp only
          rw [allHold_bind_pure, allHold_runTask within]
          exact ⟨fun long _ same => Option.some.inj same ▸ long, fun long => long task rfl⟩

/-- **A frame stays inside** its buffer. -/
theorem step_inside (inside : AllInside s) (step : rxStep aes128 tail dev s call = some t) :
    AllInside t := by
  revert t
  show Gives AllInside (rxCall aes128 tail dev s call)
  cases call with
  | deliver frame accepted locals =>
      refine gives_bind (gives_zbMcpsDataIndication frame.inside) fun r next => gives_pure ?_
      intro task mem
      rcases List.mem_append.1 mem with waited | new
      · exact inside task waited
      · exact next task (Option.mem_toList.1 new)
  | run i isDup endpoint locals =>
      rw [rxCall]
      cases waits : s.pending[i]? with
      | none => exact fun _ stops => nomatch stops
      | some task =>
          have within := inside task (List.mem_of_getElem? waits)
          refine gives_bind (gives_runTask within) fun r next => gives_pure ?_
          intro task' mem
          rcases List.mem_append.1 mem with waited | new
          · exact inside task' (List.mem_of_mem_eraseIdx waited)
          · exact next task' (Option.mem_toList.1 new)

/-- **Received headers are bounded** in a run, exactly if every frame is long enough for its
flags whenever it is looked at. -/
theorem bounded_iff (recv : RecvContext) (calls : List RxCall) :
    Along (rxStep aes128 tail dev) (Bounded aes128 tail dev) (.start recv) calls ↔
      Along (rxStep aes128 tail dev) (LongEnough tail dev) (.start recv) calls := by
  have start : AllInside (.start recv) := fun _ mem => nomatch mem
  exact along_congr (fun s call t inside _ step => step_inside inside step)
    (fun s call inside => bounded_step inside) start

end Machine

/-! ## Frames that are not -/

/-- The bytes at the beginning of a buffer. -/
def bufOf (p : List UInt8) : ZbBuf :=
  ⟨Vector.ofFn fun i => p.getD i.val 0, UInt8.ofNat p.length, 0⟩

theorem bufOf_inside (p : List UInt8) (fits : p.length ≤ zbIoBufSize) :
    (bufOf p).begin_ + (bufOf p).len.toNat ≤ zbIoBufSize := by
  have small : p.length < 256 := by
    simp only [zbIoBufSize] at fits
    omega
  simp only [bufOf, ZbBuf.begin_, ofNat_toNat small]
  simpa using fits

/-- A frame at the beginning of its buffer. -/
def receivedFrame (p : List UInt8) (fits : p.length ≤ zbIoBufSize) : ReceivedFrame where
  buf := bufOf p
  inside := bufOf_inside p fits

/-- A MAC header, the link quality, and nothing in between. -/
def truncatedFrame : ReceivedFrame := receivedFrame (oneHopMac ++ [255]) (by decide)

/-- A secured command from a long source address, with its MIC. -/
def longAddressedFrame : ReceivedFrame :=
  receivedFrame ([0x41, 0xC8, 1, 0x34, 0x12, 0, 0] ++ oneHopSender.toList ++ oneByteFrame ++
    List.replicate 4 0 ++ [255]) (by decide)

def zeroLocals : Locals := ⟨0, Vector.replicate _ 0, ⟨0, 0, 0, 0, 0, 0, 0, 0, 0⟩, Vector.replicate _ 0⟩

def endDevice : RxDevice := ⟨2, 0⟩

/-- **A short frame, and one from a long address**: the NWK header of the first is read
behind it, and the sender of the second is looked for under a reference that was not set. -/
theorem short_unbounded :
    ¬ Along (rxStep (fun _ b => b) 1 endDevice) (Bounded (fun _ b => b) 1 endDevice)
        (.start newcomer) [.deliver truncatedFrame true zeroLocals] ∧
      ¬ Along (rxStep (fun _ b => b) 1 endDevice) (Bounded (fun _ b => b) 1 endDevice)
        (.start newcomer) [.deliver longAddressedFrame true zeroLocals] := by
  decide +kernel

end Zboss.Secur.ReceivedHeaders
