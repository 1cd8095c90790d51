/-
# Secur.NwkRoundTrip -- what was secured is unsecured

Both sides find the auxiliary header from the flags in the frame control, and
compute the associated string, the nonce and the length of the payload anew.
`secureFrame_spec`: what goes to the air is the header with the level cleared, and
the payload sealed under the header with the level set.  `unsecureFrame_spec`: a
frame from a sender that is accepted is decrypted under its header with the level
set, and refused exactly if its tag is another one.

`nwk_roundTrip`: the receiver gets the header and the payload that were secured,
and any other ciphertext with another tag is refused.  Pole:
`nwk_roundTrip_identity`.
-/
import Mathlib
import Zboss.Common.Constants
import Zboss.Secur.CcmRoundTrip
import Zboss.Secur.NwkFrame
import Zboss.Nwk.HeaderRoundTrip

namespace Zboss.Secur.NwkRoundTrip

open Zboss.Common.Constants
open Zboss.Common.Types
open Zboss.Common.Address
open Zboss.Common.PacketBuf
open Zboss.Mac.Header
open Zboss.Nwk.Neighbor
open Zboss.Nwk.Header
open Zboss.Nwk.HeaderRoundTrip
open Zboss.Theory.CcmStar
open Zboss.Secur.KeyMaterial
open Zboss.Secur.NwkSecure
open Zboss.Secur.Ccm
open Zboss.Secur.CcmRoundTrip
open Zboss.Secur.NwkFrame

set_option autoImplicit false

/-! ## Reading headers -/

section Strings

theorem getD_take {p : List UInt8} {i k : Nat} (lt : i < k) : (p.take k).getD i 0 = p.getD i 0 := by
  rw [List.getD_eq_getElem?_getD, List.getElem?_take, if_pos lt, List.getD_eq_getElem?_getD]

theorem getD_append {p q : List UInt8} {i : Nat} (lt : i < p.length) : (p ++ q).getD i 0 = p.getD i 0 := by
  rw [List.getD_eq_getElem?_getD, List.getElem?_append_left lt, List.getD_eq_getElem?_getD]

/-- The header size is in the second byte. -/
theorem zbNwkHdrSize_congr {p q : List UInt8} (same : p.getD 1 0 = q.getD 1 0) :
    zbNwkHdrSize p = zbNwkHdrSize q := by
  have second : ∀ p, zbNwkHdrSize p = zbNwkHdrSize [0, p.getD 1 0] := fun _ => rfl
  rw [second p, second q, same]

theorem zbNwkHdrSize_take {p : List UInt8} {k : Nat} (second : 1 < k) :
    zbNwkHdrSize (p.take k) = zbNwkHdrSize p :=
  zbNwkHdrSize_congr (getD_take second)

theorem nwhdrSrcAddr_congr {p q : List UInt8} (low : p.getD 4 0 = q.getD 4 0)
    (high : p.getD 5 0 = q.getD 5 0) : nwhdrSrcAddr p = nwhdrSrcAddr q := by
  simp only [nwhdrSrcAddr, uint16At, low, high]

/-- With the security flag the size counts the auxiliary header. -/
theorem zbNwkHdrSize_secured {p : List UInt8} (secured : frameCtlGetSecurity p ≠ 0) :
    22 ≤ zbNwkHdrSize p := by
  rw [zbNwkHdrSize, if_pos secured]
  simp only [zbNwkShortHdrSize, dstIeeeAddrOffset, auxFrameHdrSize]
  omega

/-- Both sides find the auxiliary header at the same place. -/
theorem auxPos_eq (nwhdr : Nat) (pre : List UInt8) :
    nwhdr + (pre.length + 14) - auxFrameHdrSize = nwhdr + pre.length := by
  simp only [auxFrameHdrSize]
  omega

@[simp] theorem length_auxBytes (aux : ZbNwkAuxFrameHdr) : (auxBytes aux).length = 14 := by
  simp [auxBytes, uint32Bytes]

theorem append_auxBytes_ne_nil (pre : List UInt8) (aux : ZbNwkAuxFrameHdr) :
    pre ++ auxBytes aux ≠ [] := by
  intro empty
  have length := congrArg List.length empty
  rw [List.length_append, length_auxBytes] at length
  cases length

theorem uint32At_bytes (val : UInt32) (x : UInt8) (rest : List UInt8) :
    uint32At 1 ([x] ++ uint32Bytes val ++ rest) = val := by
  apply UInt32.toNat_inj.1
  have range := val.toNat_lt
  simp [uint32At, uint32Bytes, Nat.shiftRight_eq_div_pow]
  omega

theorem auxAt_auxBytes (aux : ZbNwkAuxFrameHdr) (rest : List UInt8) : auxAt (auxBytes aux ++ rest) = aux := by
  have counter := uint32At_bytes aux.frameCounter aux.securControl
    (aux.sourceAddress.toList ++ [aux.keySeqNumber] ++ rest)
  have source := @ieeeAddrAt_bytes aux.sourceAddress ([aux.securControl] ++ uint32Bytes aux.frameCounter)
    ([aux.keySeqNumber] ++ rest) 5 rfl
  have split : auxBytes aux ++ rest = [aux.securControl] ++ uint32Bytes aux.frameCounter ++
      (aux.sourceAddress.toList ++ [aux.keySeqNumber] ++ rest) := by
    simp [auxBytes]
  have number : (auxBytes aux ++ rest).getD 13 0 = aux.keySeqNumber := by
    rw [getD_append (by simp), auxBytes, List.getD_eq_getElem?_getD, List.getElem?_append_right (by
      simp [uint32Bytes])]
    simp [uint32Bytes]
  rw [← split] at counter
  rw [← List.append_assoc, ← List.append_assoc, List.append_assoc _ aux.sourceAddress.toList,
    List.append_assoc, ← split] at source
  simp only [auxAt, counter, source, number]
  rfl

/-- Fourteen bytes are read. -/
theorem auxAt_take (p : List UInt8) : auxAt (p.take 14) = auxAt p := by
  have source : ieeeAddrAt 5 (p.take 14) = ieeeAddrAt 5 p := by
    apply Vector.ext
    intro i hi
    rw [ieeeAddrAt, ieeeAddrAt, Vector.getElem_ofFn, Vector.getElem_ofFn]
    exact getD_take (by show 5 + i < 14; omega)
  rw [auxAt, auxAt, source, uint32At, uint32At, getD_take (by omega), getD_take (by omega),
    getD_take (by omega), getD_take (by omega), getD_take (by omega), getD_take (by omega)]

end Strings

/-! ## Securing -/

section Sender

variable {aes128 : ZbKey → Block → Block} {extendedAddress : ZbIeeeAddr} {useSameKey : Bool}
  {c c' : SecurContext} {src dst : ZbBuf} {mac pre old payload : List UInt8} {aux : ZbNwkAuxFrameHdr}
  {key : ZbKey} {nonce : ZbSecurCcmNonce}

/-- What the air has room for: the frame with its tag, the scratch of CCM* behind
it, and the MAC header before it. -/
structure SecureFits (mac frame : List UInt8) : Prop where
  scratch : (zbIoBufSize - (frame.length + zbCcmM)) / 2 + (frame.length + zbCcmM) + 12 ≤ zbIoBufSize
  room : mac.length + (frame.length + zbCcmM) < zbIoBufSize

/-- The frame with the level cleared. -/
def airHeader (pre : List UInt8) (aux : ZbNwkAuxFrameHdr) : List UInt8 :=
  pre ++ auxBytes { aux with securControl := zbNwkStdSecurControlZeroedLevel }

/-- The source, as it is read, and after its auxiliary header was filled. -/
structure AuxFilled (src : ZbBuf) (mac pre old payload : List UInt8) (aux : ZbNwkAuxFrameHdr)
    (mem : Vector UInt8 zbIoBufSize) : Prop where
  fctl : peek src.buf (src.begin_ + mac.length) 2 = some ((pre ++ old ++ payload).take 2)
  readAux : peek src.buf (src.begin_ + (mac ++ pre).length) auxFrameHdrSize = some old
  poked : poke src.buf (src.begin_ + (mac ++ pre).length) (auxBytes aux) = some mem
  filled : slice mem src.begin_ src.len.toNat = mac ++ (pre ++ auxBytes aux) ++ payload

/-- The header is filled in place. -/
theorem aux_filled (stands : src.data = mac ++ (pre ++ old ++ payload))
    (inside : src.begin_ + src.len.toNat ≤ zbIoBufSize) (oldLength : old.length = 14)
    (total : src.len.toNat = mac.length + (pre.length + 14 + payload.length)) :
    ∃ mem, AuxFilled src mac pre old payload aux mem := by
  have buffer : zbIoBufSize = 148 := rfl
  have whole : (mac ++ pre ++ old ++ payload).length = src.len.toNat := by
    simp only [List.length_append, oldLength]
    omega
  have frame : slice src.buf src.begin_ ((mac ++ pre) ++ old ++ payload).length =
      (mac ++ pre) ++ old ++ payload := by
    rw [whole]
    exact stands.trans (by simp only [List.append_assoc])
  have fctl : peek src.buf (src.begin_ + mac.length) 2 = some ((pre ++ old ++ payload).take 2) := by
    have there : slice src.buf (src.begin_ + mac.length) (pre ++ old ++ payload).length =
        pre ++ old ++ payload := by
      apply @slice_part zbIoBufSize src.buf src.begin_ mac (pre ++ old ++ payload) []
      simpa only [List.append_assoc, List.append_nil] using frame
    have two : 2 ≤ (pre ++ old ++ payload).length := by
      simp only [List.length_append]
      omega
    rw [peek_slice (by omega), ← take_slice src.buf _ two, there]
  have readAux : peek src.buf (src.begin_ + (mac ++ pre).length) auxFrameHdrSize = some old := by
    have part := slice_part frame
    rw [oldLength] at part
    rw [peek_slice (by simp only [auxFrameHdrSize, List.length_append]; omega)]
    exact congrArg some part
  obtain ⟨mem, poked, filled, -⟩ := @poke_within zbIoBufSize src.buf src.begin_ (mac ++ pre) old
    (auxBytes aux) payload frame (by rw [length_auxBytes, oldLength]) (by rw [whole]; exact inside)
  refine ⟨mem, fctl, readAux, poked, ?_⟩
  rw [← whole, filled]
  simp only [List.append_assoc]

section Filled

variable {mem : Vector UInt8 zbIoBufSize} (made : AuxFilled src mac pre old payload aux mem)
  (inside : src.begin_ + src.len.toNat ≤ zbIoBufSize)
  (total : src.len.toNat = mac.length + (pre.length + 14 + payload.length))
include made inside total

/-- What is associated is the header, -/
theorem AuxFilled.reads_header :
    peek mem (src.begin_ + mac.length) (pre.length + 14) = some (pre ++ auxBytes aux) := by
  have filled : slice mem src.begin_ (mac ++ (pre ++ auxBytes aux) ++ payload).length =
      mac ++ (pre ++ auxBytes aux) ++ payload := by rw [← made.filled, length_slice inside]
  have part := slice_part filled
  rw [List.length_append, length_auxBytes] at part
  rw [peek_slice (by omega), part]

/-- what is sealed is the payload, -/
theorem AuxFilled.reads_payload : peek mem (src.begin_ + mac.length + (pre.length + 14))
    (src.len.toNat - (pre.length + 14) - mac.length) = some payload := by
  have filled : slice mem src.begin_ (mac ++ (pre ++ auxBytes aux) ++ payload ++ []).length =
      mac ++ (pre ++ auxBytes aux) ++ payload ++ [] := by
    rw [List.append_nil, ← made.filled, length_slice inside]
  have part := slice_part filled
  have at_ : src.begin_ + (mac ++ (pre ++ auxBytes aux)).length =
      src.begin_ + mac.length + (pre.length + 14) := by
    simp only [List.length_append, length_auxBytes]
    omega
  have len : src.len.toNat - (pre.length + 14) - mac.length = payload.length := by omega
  rw [at_] at part
  rw [len, peek_slice (by omega), part]

/-- and before them stands the MAC header. -/
theorem AuxFilled.reads_mac : peek mem src.begin_ mac.length = some mac := by
  have filled : slice mem src.begin_ ([] ++ mac ++ ((pre ++ auxBytes aux) ++ payload)).length =
      [] ++ mac ++ ((pre ++ auxBytes aux) ++ payload) := by
    rw [List.nil_append, ← List.append_assoc, ← made.filled, length_slice inside]
  have part := slice_part filled
  rw [peek_slice (by omega)]
  exact congrArg some part

end Filled

/-- The MAC header goes before what was sealed, and the level is cleared. -/
theorem put_on_air {e : ZbBuf} {ciphered : List UInt8}
    (eData : e.data = pre ++ auxBytes aux ++ ciphered)
    (eLen : e.len.toNat = pre.length + 14 + ciphered.length)
    (eInside : e.begin_ + e.len.toNat ≤ zbIoBufSize)
    (room : mac.length + (pre.length + 14 + ciphered.length) < zbIoBufSize) :
    ∃ d mem mem', zbBufSmartAllocLeft (UInt8.ofNat mac.length) e = some d ∧
      poke d.buf d.begin_ mac = some mem ∧
      poke mem (d.begin_ + (mac ++ pre).length) [zbNwkStdSecurControlZeroedLevel] = some mem' ∧
      slice mem' d.begin_ d.len.toNat = mac ++ (airHeader pre aux ++ ciphered) := by
  have buffer : zbIoBufSize = 148 := rfl
  have macSize : (UInt8.ofNat mac.length).toNat = mac.length :=
    UInt8.toNat_ofNat_of_lt' (by simp only [UInt8.size]; omega)
  obtain ⟨d, allocated, dLen, dEnd, dData, -⟩ := @smartAllocLeft_spec (UInt8.ofNat mac.length) e
    (by rw [macSize]; omega) eInside
  rw [macSize] at dLen dData
  obtain ⟨mem, poked, here, -, after⟩ := @poke_slices zbIoBufSize d.buf d.begin_ mac (by omega)
  let rest := uint32Bytes aux.frameCounter ++ aux.sourceAddress.toList ++ [aux.keySeqNumber]
  have length : ((mac ++ pre) ++ [aux.securControl] ++ (rest ++ ciphered)).length = d.len.toNat := by
    have restLength : rest.length = 13 := by simp [rest, uint32Bytes]
    simp only [List.length_append, List.length_singleton, restLength]
    omega
  have air : slice mem d.begin_ ((mac ++ pre) ++ [aux.securControl] ++ (rest ++ ciphered)).length =
      (mac ++ pre) ++ [aux.securControl] ++ (rest ++ ciphered) := by
    have split : (mac ++ pre) ++ [aux.securControl] ++ (rest ++ ciphered) =
        mac ++ ((pre ++ auxBytes aux) ++ ciphered) := by
      simp only [auxBytes, rest, List.append_assoc]
    rw [length, dLen, slice_add, here, after _ _ (le_refl _), dData, eData, split]
  obtain ⟨mem', poked', cleared, -⟩ := @poke_within zbIoBufSize mem d.begin_ (mac ++ pre)
    [aux.securControl] [zbNwkStdSecurControlZeroedLevel] (rest ++ ciphered) air rfl
    (by rw [length]; exact dEnd)
  refine ⟨d, mem, mem', allocated, poked, poked', ?_⟩
  rw [← length, cleared]
  simp only [airHeader, auxBytes, rest, List.append_assoc]

/-- **Securing**: the header is filled in place, and the frame sealed under it. -/
theorem secureFrame_spec (stands : src.data = mac ++ (pre ++ old ++ payload))
    (inside : src.begin_ + src.len.toNat ≤ zbIoBufSize) (oldLength : old.length = 14)
    (size : zbNwkHdrSize (pre ++ old ++ payload) = pre.length + 14)
    (fits : SecureFits mac (pre ++ old ++ payload))
    (secured : zbNwkSecureFrame extendedAddress useSameKey (auxAt old) c = (c', aux, some (key, nonce))) :
    ∃ src' dst' : ZbBuf,
      zbNwkSecureFrameBuf aes128 extendedAddress useSameKey mac.length c src dst =
          some (c', src', dst', .ok ()) ∧
        src'.data = mac ++ (pre ++ auxBytes aux ++ payload) ∧
        dst'.data = mac ++ (airHeader pre aux ++
          sealed 2 4 (aes128 key) (nonceBytes nonce).toList (pre ++ auxBytes aux) payload) := by
  have buffer : zbIoBufSize = 148 := rfl
  have four : zbCcmM = 4 := rfl
  have total : src.len.toNat = mac.length + (pre.length + 14 + payload.length) := by
    rw [← length_data inside, stands]
    simp only [List.length_append, oldLength]
  have scratch := fits.scratch
  have room := fits.room
  simp only [List.length_append, oldLength] at scratch room
  obtain ⟨mem₁, made⟩ := @aux_filled src mac pre old payload aux stands inside oldLength total
  have hdrSize : zbNwkHdrSize ((pre ++ old ++ payload).take 2) = pre.length + 14 := by
    rw [← size]
    exact zbNwkHdrSize_congr (getD_take (by omega))
  have auxPos : src.begin_ + mac.length + (pre.length + 14) - auxFrameHdrSize =
      src.begin_ + (mac ++ pre).length := by
    rw [auxPos_eq, List.length_append, Nat.add_assoc]
  -- CCM*
  have aLength : (pre ++ auxBytes aux).length = pre.length + 14 := by
    rw [List.length_append, length_auxBytes]
  obtain ⟨e, sealing, eLen, eRoom, eData⟩ := @encrypt_spec aes128 key (nonceBytes nonce)
    (pre ++ auxBytes aux) payload (append_auxBytes_ne_nil pre aux)
    (by simp only [ScratchFits, aLength]; omega) dst
  rw [aLength] at eLen eRoom
  have cipheredLength : (sealed 2 4 (aes128 key) (nonceBytes nonce).toList (pre ++ auxBytes aux)
      payload).length = payload.length + 4 := length_sealed _ _
  obtain ⟨d, mem₂, mem₃, allocated, poked₂, poked₃, air⟩ := @put_on_air mac pre aux e _ eData
    (by rw [cipheredLength, eLen]; rfl) (by omega) (by rw [cipheredLength]; omega)
  refine ⟨{ src with buf := mem₁ }, { d with buf := mem₃ }, ?_, ?_, air⟩
  · have long : ¬ src.len.toNat < pre.length + 14 + mac.length := by omega
    have place : src.begin_ + (mac ++ pre).length - src.begin_ = (mac ++ pre).length := by omega
    simp only [zbNwkSecureFrameBuf, made.fctl, hdrSize, auxPos, made.readAux, secured, made.poked,
      Option.bind_eq_bind, Option.bind_some, if_neg long]
    show (peek mem₁ (src.begin_ + mac.length) (pre.length + 14)).bind _ = _
    rw [made.reads_header inside total, Option.bind_some]
    show (peek mem₁ (src.begin_ + mac.length + (pre.length + 14)) _).bind _ = _
    rw [made.reads_payload inside total, Option.bind_some, sealing, Option.bind_some]
    show (zbBufSmartAllocLeft (UInt8.ofNat mac.length) e).bind _ = _
    rw [allocated, Option.bind_some]
    show (peek mem₁ src.begin_ mac.length).bind _ = _
    rw [made.reads_mac inside total, Option.bind_some, poked₂, Option.bind_some]
    show (poke mem₂ (d.begin_ + (src.begin_ + (mac ++ pre).length - src.begin_)) _).bind _ = _
    rw [place, poked₃]
    rfl
  · show slice mem₁ src.begin_ src.len.toNat = _
    rw [made.filled, List.append_assoc]

end Sender

/-! ## Who is accepted -/

section Acceptance

variable {stackRef n : Nat} {mhr : ZbMacMhr} {sourceAddress : ZbIeeeAddr} {srcAddr : UInt16}
  {s s₁ : RecvContext} {aux : ZbNwkAuxFrameHdr} {key : ZbKey}

/-- **The receiver accepts a frame with this auxiliary header**: it is authenticated,
has the sender's entry or makes one, holds the key, and the entry's counter does
not refuse the frame's. -/
structure Accepts (stackRef : Nat) (mhr : ZbMacMhr) (aux : ZbNwkAuxFrameHdr) (srcAddr : UInt16) (key : ZbKey)
    (s s₁ : RecvContext) (n : Nat) : Prop where
  authenticated : s.secur.authenticated = true
  found : unsecureNeighborGet stackRef mhr aux.sourceAddress srcAddr s = some (s₁, .ok n)
  holdsKey : securNwkKeyBySeq s.secur aux.keySeqNumber = some key
  fresh : staleCounter aux.frameCounter (switchPeerKey aux.keySeqNumber (s₁.neighbor.baseNeighbor n)) = false

/-- Only the address table and the neighbour table are moved. -/
theorem unsecureNeighborGet_secur {found : Except ZbRet Nat}
    (got : unsecureNeighborGet stackRef mhr sourceAddress srcAddr s = some (s₁, found)) :
    ∃ addr, s₁.secur = { s.secur with addr } := by
  simp only [unsecureNeighborGet, Option.bind_eq_bind, Option.bind_eq_some_iff] at got
  obtain ⟨⟨addr, ref⟩, -, got⟩ := got
  cases ref with
  | error e =>
      obtain ⟨rfl, -⟩ := Prod.mk.inj (Option.some.inj got)
      exact ⟨addr, rfl⟩
  | ok addrRef =>
      simp only [Option.bind_eq_some_iff] at got
      obtain ⟨⟨addr', neighbor, nbe⟩, -, got⟩ := got
      obtain ⟨rfl, -⟩ := Prod.mk.inj (Option.some.inj got)
      exact ⟨addr', rfl⟩

/-- Neither key nor slot is in the address table. -/
theorem keyBySeqScan_addr (c : SecurContext) (addr : ZbAddrGlobals) (keySeqNumber : UInt8) (cnt : Nat)
    (i : Fin 3) : keyBySeqScan { c with addr } keySeqNumber cnt i = keyBySeqScan c keySeqNumber cnt i := by
  induction cnt generalizing i with
  | zero => rfl
  | succ cnt ih =>
      rw [keyBySeqScan, keyBySeqScan, ih]

theorem securNwkKeyBySeq_addr (c : SecurContext) (addr : ZbAddrGlobals) (keySeqNumber : UInt8) :
    securNwkKeyBySeq { c with addr } keySeqNumber = securNwkKeyBySeq c keySeqNumber := by
  rw [securNwkKeyBySeq, securNwkKeyBySeq, keySlotBySeq, keySlotBySeq, keyBySeqScan_addr]

theorem staleCounter_demoteChild (keySeqNumber : UInt8) (frameCounter : UInt32) (nbe : ZbNeighborTblEnt) :
    staleCounter frameCounter (switchPeerKey keySeqNumber (demoteChild nbe)) =
      staleCounter frameCounter (switchPeerKey keySeqNumber nbe) := by
  rw [demoteChild]
  split
  · simp only [switchPeerKey]
    split <;> rfl
  · rfl

/-- An accepted frame gets its key. -/
theorem checkFreshness_accepts (accepts : Accepts stackRef mhr aux srcAddr key s s₁ n) :
    ∃ s₂, checkFreshness n aux.keySeqNumber aux.frameCounter s₁ = (s₂, .ok key) := by
  obtain ⟨addr, same⟩ := unsecureNeighborGet_secur accepts.found
  have held : securNwkKeyBySeq s₁.secur aux.keySeqNumber = some key := by
    rw [same, securNwkKeyBySeq_addr, accepts.holdsKey]
  have fresh := accepts.fresh
  rw [← staleCounter_demoteChild] at fresh
  simp only [checkFreshness, setNbe_secur, held, setNbe_self, fresh]
  exact ⟨_, rfl⟩

end Acceptance

/-! ## Unsecuring -/

section Receiver

variable {aes128 : ZbKey → Block → Block} {stack : Vector UInt8 zbIoBufSize} {random : ZbKey}
  {mhr : ZbMacMhr} {mhrLen stackRef n : Nat} {key : ZbKey} {s s₁ : RecvContext} {nsdu : ZbBuf}
  {pre old cipher : List UInt8} {aux : ZbNwkAuxFrameHdr}

theorem reinsertMhr_spec {d : ZbBuf} (room : mhrLen + 1 + d.len.toNat < zbIoBufSize)
    (inside : d.begin_ + d.len.toNat ≤ zbIoBufSize) (filled : (zbMacFillMhr mhr).length = mhrLen) :
    ∃ (e : ZbBuf) (macHdrOffset : UInt8), reinsertMhr mhr mhrLen d = some (e, macHdrOffset) ∧
      e.len.toNat = d.len.toNat ∧ e.data = d.data := by
  have buffer : zbIoBufSize = 148 := rfl
  have size : (UInt8.ofNat (mhrLen + 1)).toNat = mhrLen + 1 :=
    UInt8.toNat_ofNat_of_lt' (by simp only [UInt8.size]; omega)
  obtain ⟨c, allocated, cLen, cEnd, cData, -⟩ := @smartAllocLeft_spec (UInt8.ofNat (mhrLen + 1)) d
    (by rw [size]; omega) inside
  rw [size] at cLen cData
  obtain ⟨mem, poked, -, -, after⟩ := @poke_slices zbIoBufSize c.buf (c.begin_ + 1) (zbMacFillMhr mhr)
    (by omega)
  obtain ⟨e, cut, eBuf, eBegin, eLen⟩ := @cutLeft_spec (UInt8.ofNat (mhrLen + 1)) { c with buf := mem }
    (by rw [size]; show _ ≤ c.len.toNat; omega) cEnd
  rw [size] at eBegin eLen
  refine ⟨e, c.dataOffset + 1, ?_, ?_, ?_⟩
  · simp only [reinsertMhr, allocated, poked, cut, Option.bind_eq_bind, Option.bind_some]
    rfl
  · rw [eLen]
    show c.len.toNat - _ = _
    omega
  · have len : e.len.toNat = d.len.toNat := by
      rw [eLen]
      show c.len.toNat - _ = _
      omega
    show slice e.buf e.begin_ e.len.toNat = d.data
    rw [eBuf, eBegin, len]
    show slice mem (c.begin_ + (mhrLen + 1)) d.len.toNat = _
    rw [after _ _ (by omega), cData]

/-- What the receiver has room for: the frame in its buffer, its decryption, and the MAC
header before it once more. -/
structure UnsecureFits (mhr : ZbMacMhr) (mhrLen hdrSize : Nat) (nsdu : ZbBuf) : Prop where
  inside : nsdu.begin_ + nsdu.len.toNat ≤ zbIoBufSize
  tagged : hdrSize + zbCcmM ≤ nsdu.len.toNat
  scratch : nsdu.len.toNat - hdrSize + 12 ≤ zbIoBufSize
  room : mhrLen + 1 + (nsdu.len.toNat - zbCcmM) < zbIoBufSize
  parsed : (zbMacFillMhr mhr).length = mhrLen

/-- And for a status behind the frame. -/
def StatusFits (nsdu : ZbBuf) : Prop :=
  nsdu.begin_ + (nsdu.len.toNat - zbCcmM) + zbNlmeStatusIndicationSize.toNat ≤ zbIoBufSize

theorem zbSecurNwkStatus_spec (addrShort : UInt16) (status : UInt8) {d : ZbBuf}
    (room : d.begin_ + d.len.toNat + zbNlmeStatusIndicationSize.toNat ≤ zbIoBufSize) :
    ∃ e, zbSecurNwkStatus d addrShort status = some e := by
  have six : zbNlmeStatusIndicationSize.toNat = 6 := rfl
  have tail : zbGetBufTail zbNlmeStatusIndicationSize d = some 142 := if_pos (by omega)
  obtain ⟨mem, poked, -⟩ := @poke_slices zbIoBufSize d.buf 142 ([status, 0, 0, 0] ++ uint16Bytes addrShort)
    (by simp [uint16Bytes, zbIoBufSize])
  refine ⟨{ d with buf := mem }, ?_⟩
  simp only [zbSecurNwkStatus, tail, poked, Option.bind_eq_bind, Option.bind_some]
  rfl

/-- The header with the level set, as it is authenticated. -/
def withLevel (aux : ZbNwkAuxFrameHdr) : ZbNwkAuxFrameHdr := { aux with securControl := zbNwkStdSecurControl }

/-- The nonce of a frame. -/
def frameNonce (aux : ZbNwkAuxFrameHdr) : Vector UInt8 zbCcmNonceLen :=
  nonceBytes (fillNonce aux.sourceAddress aux)

theorem slice_of_stands (stands : nsdu.data = pre ++ auxBytes aux ++ cipher)
    (inside : nsdu.begin_ + nsdu.len.toNat ≤ zbIoBufSize) :
    nsdu.len.toNat = pre.length + 14 + cipher.length ∧
      slice nsdu.buf nsdu.begin_ (pre ++ auxBytes aux ++ cipher).length = pre ++ auxBytes aux ++ cipher := by
  have total : (pre ++ auxBytes aux ++ cipher).length = nsdu.len.toNat := by
    rw [← length_data inside, stands]
  refine ⟨?_, by rw [total]; exact stands⟩
  rw [← total]
  simp only [List.length_append, length_auxBytes]

/-- Up to the decryption of a frame that is accepted. -/
theorem unsecureFrame_accepts (stands : nsdu.data = pre ++ auxBytes aux ++ cipher)
    (size : zbNwkHdrSize (pre ++ auxBytes aux ++ cipher) = pre.length + 14) (fixed : 8 ≤ pre.length)
    (inside : nsdu.begin_ + nsdu.len.toNat ≤ zbIoBufSize)
    (accepts : Accepts stackRef mhr aux (nwhdrSrcAddr (pre ++ auxBytes aux ++ cipher)) key s s₁ n) :
    ∃ s₂, zbNwkUnsecureFrame aes128 stack random mhr mhrLen stackRef s nsdu =
      unsecureDecrypt aes128 stack random mhr mhrLen n (pre.length + 14) (nsdu.begin_ + pre.length) key s₂
        nsdu := by
  obtain ⟨total, frame⟩ := slice_of_stands stands inside
  have head : peek nsdu.buf nsdu.begin_ 8 = some ((pre ++ auxBytes aux ++ cipher).take 8) := by
    have eight : 8 ≤ (pre ++ auxBytes aux ++ cipher).length := by
      simp only [List.length_append]
      omega
    rw [peek_slice (by omega), ← take_slice nsdu.buf _ eight, frame]
  have hdrSize : zbNwkHdrSize ((pre ++ auxBytes aux ++ cipher).take 8) = pre.length + 14 := by
    rw [← size]
    exact zbNwkHdrSize_congr (getD_take (by omega))
  have srcAddr : nwhdrSrcAddr ((pre ++ auxBytes aux ++ cipher).take 8) =
      nwhdrSrcAddr (pre ++ auxBytes aux ++ cipher) :=
    nwhdrSrcAddr_congr (getD_take (by omega)) (getD_take (by omega))
  have readAux : peek nsdu.buf (nsdu.begin_ + pre.length) auxFrameHdrSize = some (auxBytes aux) := by
    have part := slice_part frame
    rw [length_auxBytes] at part
    rw [peek_slice (by simp only [auxFrameHdrSize]; omega)]
    exact congrArg some part
  have read : auxAt (auxBytes aux) = aux := by simpa using auxAt_auxBytes aux []
  have authenticated : (!s.secur.authenticated) = false := by rw [accepts.authenticated]; rfl
  obtain ⟨s₂, checked⟩ := checkFreshness_accepts accepts
  refine ⟨s₂, ?_⟩
  simp only [zbNwkUnsecureFrame, authenticated, Bool.false_eq_true, if_false, head, hdrSize, auxPos_eq, readAux,
    read, srcAddr, accepts.found, checked, Option.bind_eq_bind, Option.bind_some]

/-- The level is set in the frame. -/
theorem setLevel_spec (stands : nsdu.data = pre ++ auxBytes aux ++ cipher)
    (inside : nsdu.begin_ + nsdu.len.toNat ≤ zbIoBufSize) :
    ∃ mem : Vector UInt8 zbIoBufSize,
      poke nsdu.buf (nsdu.begin_ + pre.length) [zbNwkStdSecurControl] = some mem ∧
        slice mem nsdu.begin_ nsdu.len.toNat = pre ++ auxBytes (withLevel aux) ++ cipher ∧
        peek mem (nsdu.begin_ + pre.length) auxFrameHdrSize = some (auxBytes (withLevel aux)) := by
  obtain ⟨total, frame⟩ := slice_of_stands stands inside
  let rest := uint32Bytes aux.frameCounter ++ aux.sourceAddress.toList ++ [aux.keySeqNumber]
  have split : pre ++ [aux.securControl] ++ (rest ++ cipher) = pre ++ auxBytes aux ++ cipher := by
    simp only [auxBytes, rest, List.append_assoc]
  have leveled : pre ++ [zbNwkStdSecurControl] ++ (rest ++ cipher) =
      pre ++ auxBytes (withLevel aux) ++ cipher := by
    simp only [withLevel, auxBytes, rest, List.append_assoc]
  have whole : ∀ aux' : ZbNwkAuxFrameHdr, (pre ++ auxBytes aux' ++ cipher).length = nsdu.len.toNat := by
    intro aux'
    simp only [List.length_append, length_auxBytes, total]
  obtain ⟨mem, poked, level, -⟩ := @poke_within zbIoBufSize nsdu.buf nsdu.begin_ pre [aux.securControl]
    [zbNwkStdSecurControl] (rest ++ cipher) (by rw [split]; exact frame) rfl
    (by rw [split, whole]; exact inside)
  rw [split, whole, leveled] at level
  have part := @slice_part zbIoBufSize mem nsdu.begin_ pre (auxBytes (withLevel aux)) cipher
    (by rw [whole]; exact level)
  rw [length_auxBytes] at part
  refine ⟨mem, poked, level, ?_⟩
  rw [peek_slice (by simp only [auxFrameHdrSize]; omega)]
  exact congrArg some part

/-- **Unsecuring** a frame from a sender that is accepted: decrypted if its tag is
that of what it decrypts to, refused otherwise. -/
theorem unsecureFrame_spec (stands : nsdu.data = pre ++ auxBytes aux ++ cipher)
    (size : zbNwkHdrSize (pre ++ auxBytes aux ++ cipher) = pre.length + 14) (fixed : 8 ≤ pre.length)
    (fits : UnsecureFits mhr mhrLen (pre.length + 14) nsdu)
    (accepts : Accepts stackRef mhr aux (nwhdrSrcAddr (pre ++ auxBytes aux ++ cipher)) key s s₁ n) :
    let a := pre ++ auxBytes (withLevel aux)
    let m := ctr 2 (aes128 key) (frameNonce (withLevel aux)).toList 1 (cipher.take (cipher.length - zbCcmM))
    let same := mask 2 (aes128 key) (frameNonce (withLevel aux)).toList (cipher.drop (cipher.length - zbCcmM)) =
      (authTrans (aes128 key) (frameNonce (withLevel aux)) a m).toList.take zbCcmM
    (same → ∃ s' d macHdrOffset,
      zbNwkUnsecureFrame aes128 stack random mhr mhrLen stackRef s nsdu =
          some (s', .unsecured d macHdrOffset) ∧
        d.data = a ++ m ∧ d.len.toNat = nsdu.len.toNat - zbCcmM) ∧
      (¬ same → StatusFits nsdu → ∃ s' d statuses,
        zbNwkUnsecureFrame aes128 stack random mhr mhrLen stackRef s nsdu = some (s', .failed d statuses)) := by
  intro a m same
  have buffer : zbIoBufSize = 148 := rfl
  have four : zbCcmM = 4 := rfl
  obtain ⟨inside, tagged, scratch, room, parsed⟩ := fits
  obtain ⟨total, -⟩ := slice_of_stands stands inside
  obtain ⟨s₂, start⟩ := @unsecureFrame_accepts aes128 stack random mhr mhrLen stackRef n key s s₁ nsdu pre
    cipher aux stands size fixed inside accepts
  obtain ⟨mem, poked, level, readLevel⟩ := setLevel_spec stands inside
  have readWith : auxAt (auxBytes (withLevel aux)) = withLevel aux := by
    simpa using auxAt_auxBytes (withLevel aux) []
  -- decryption
  have aLength : a.length = pre.length + 14 := by
    simp only [a, List.length_append, length_auxBytes]
  have framed : Framed { nsdu with buf := mem } a cipher := by
    refine ⟨by omega, ?_, by omega, level, ?_⟩
    · show nsdu.begin_ + _ + _ ≤ _
      omega
    · show nsdu.len.toNat = _
      rw [aLength, total]
  obtain ⟨d, ran, dLen, dBegin, dData⟩ := @decrypt_framed aes128 key (frameNonce (withLevel aux))
    { nsdu with buf := mem } a cipher stack framed
  change d.len.toNat = nsdu.len.toNat - zbCcmM at dLen
  change d.begin_ = nsdu.begin_ at dBegin
  rw [aLength] at ran
  have payload : (nsdu.len.toNat + 2 ^ 32 - (pre.length + 14)) % 2 ^ 32 = cipher.length := by omega
  have enough : ¬ cipher.length < zbCcmM := by omega
  rw [start]
  simp only [unsecureDecrypt, payload, if_neg enough, poked, readLevel, readWith, Option.bind_eq_bind,
    Option.bind_some]
  change (zbCcmDecryptNAuth aes128 key (nonceBytes (fillNonce (withLevel aux).sourceAddress (withLevel aux)))
    stack { nsdu with buf := mem } (pre.length + 14) cipher.length) = _ at ran
  rw [ran, Option.bind_some]
  constructor
  · intro isSame
    rw [if_pos isSame] at dData
    obtain ⟨e, macHdrOffset, reinserted, eLen, eData⟩ := @reinsertMhr_spec mhr mhrLen d (by omega) (by omega)
      parsed
    have number : peek e.buf (nsdu.begin_ + pre.length + 13) 1 =
        some (slice e.buf (nsdu.begin_ + pre.length + 13) 1) := peek_slice (by omega)
    rw [if_pos isSame]
    simp only [reinserted, Option.bind_some, number]
    exact ⟨_, e, macHdrOffset, rfl, eData.trans dData, eLen.trans dLen⟩
  · intro other status
    obtain ⟨e, indicated⟩ := zbSecurNwkStatus_spec (addrShort mhr.srcAddr) frameSecurityFailed
      (show d.begin_ + d.len.toNat + _ ≤ _ by rw [dBegin, dLen]; exact status)
    rw [if_neg other]
    simp only [indicated, Option.bind_some]
    exact ⟨_, e, _, rfl⟩

end Receiver

/-! ## There and back -/

section RoundTrip

variable {extendedAddress : ZbIeeeAddr} {useSameKey : Bool} {c c' : SecurContext} {old aux : ZbNwkAuxFrameHdr}
  {key : ZbKey} {nonce : ZbSecurCcmNonce}

/-- The header that was filled has the level set, and names the sender. -/
theorem zbNwkSecureFrame_filled
    (secured : zbNwkSecureFrame extendedAddress useSameKey old c = (c', aux, some (key, nonce))) :
    withLevel aux = aux ∧ nonceBytes nonce = frameNonce aux := by
  simp only [zbNwkSecureFrame] at secured
  obtain ⟨-, filled, crypt⟩ := Prod.mk.inj secured |>.imp id Prod.mk.inj
  obtain ⟨k, -, pair⟩ := Option.map_eq_some_iff.1 crypt
  obtain ⟨-, rfl⟩ := Prod.mk.inj pair
  have fields : aux.securControl = zbNwkStdSecurControl ∧ aux.sourceAddress = extendedAddress := by
    rw [← filled, fillAux]
    split <;> exact ⟨rfl, rfl⟩
  refine ⟨?_, ?_⟩
  · rw [withLevel, ← fields.1]
  · rw [frameNonce, fields.2, filled]

/-- What a sender builds with the security flag, multicast or not, is such a frame. -/
theorem builtFrame_secured (srcIeeeAddr dstIeeeAddr : Option ZbIeeeAddr) (isMulticast isCmdFrame : Bool)
    (zeroByte radius seqNum : UInt8) (dstAddr srcAddr : UInt16) {spare : List UInt8} (payload : List UInt8)
    (spares : spare.length = spareSize isMulticast true) :
    let f := frameOf srcIeeeAddr dstIeeeAddr true isCmdFrame zeroByte dstAddr srcAddr radius seqNum
      (spare ++ payload)
    frameCtlGetSecurity f ≠ 0 ∧ zbNwkHdrSize f ≤ f.length := by
  intro f
  obtain ⟨-, security, -⟩ := @frameOf_flags srcIeeeAddr dstIeeeAddr true isCmdFrame dstAddr srcAddr radius
    seqNum (spare ++ payload) zeroByte
  refine ⟨by rw [security]; decide, ?_⟩
  rw [frameOf_hdrSize, nwkHdrSize_eq]
  show _ ≤ (headerBytes _ _ _ _ _ _ ++ (spare ++ payload)).length
  have least : spareSize false true ≤ spareSize isMulticast true := by
    cases isMulticast <;> decide
  rw [List.length_append, length_headerBytes, List.length_append, spares]
  omega

/-- The frame with this auxiliary header. -/
def withAux (f : List UInt8) (aux : ZbNwkAuxFrameHdr) : List UInt8 :=
  f.take (zbNwkHdrSize f - 14) ++ auxBytes aux ++ f.drop (zbNwkHdrSize f)

/-- **NWK security round trip**, for any block function.  A frame with the security
flag is secured; the receiver, whatever its buffer, that accepts the header gets the
frame as the sender has it, at its length; and refuses the header with any other
ciphertext and tag, unless the tag is the one computed. -/
theorem nwk_roundTrip (aes128 : ZbKey → Block → Block) (dst : ZbBuf) {src : ZbBuf} {mac f : List UInt8}
    (stands : src.data = mac ++ f) (inside : src.begin_ + src.len.toNat ≤ zbIoBufSize)
    (flagged : frameCtlGetSecurity f ≠ 0) (whole : zbNwkHdrSize f ≤ f.length) (fits : SecureFits mac f)
    (secured : zbNwkSecureFrame extendedAddress useSameKey (auxAt (f.drop (zbNwkHdrSize f - 14))) c =
      (c', aux, some (key, nonce))) :
    ∃ src' dst' : ZbBuf,
      zbNwkSecureFrameBuf aes128 extendedAddress useSameKey mac.length c src dst =
          some (c', src', dst', .ok ()) ∧
        src'.data = mac ++ withAux f aux ∧
        dst'.data.length = mac.length + (f.length + zbCcmM) ∧
        (∀ (stack : Vector UInt8 zbIoBufSize) (random : ZbKey) (mhr : ZbMacMhr) (mhrLen stackRef n : Nat)
          (s s₁ : RecvContext) (nsdu : ZbBuf), nsdu.data = dst'.data.drop mac.length →
            UnsecureFits mhr mhrLen (zbNwkHdrSize f) nsdu →
            Accepts stackRef mhr aux (nwhdrSrcAddr f) key s s₁ n →
              ∃ s' d macHdrOffset,
                zbNwkUnsecureFrame aes128 stack random mhr mhrLen stackRef s nsdu =
                    some (s', .unsecured d macHdrOffset) ∧
                  d.data = withAux f aux ∧ d.len.toNat = f.length) ∧
        ∀ (stack : Vector UInt8 zbIoBufSize) (random : ZbKey) (mhr : ZbMacMhr) (mhrLen stackRef n : Nat)
          (s s₁ : RecvContext) (nsdu : ZbBuf) (other : List UInt8),
            nsdu.data = (dst'.data.drop mac.length).take (zbNwkHdrSize f) ++ other →
            UnsecureFits mhr mhrLen (zbNwkHdrSize f) nsdu → StatusFits nsdu →
            Accepts stackRef mhr aux (nwhdrSrcAddr f) key s s₁ n →
            mask 2 (aes128 key) (nonceBytes nonce).toList (other.drop (other.length - zbCcmM)) ≠
              (authTrans (aes128 key) (nonceBytes nonce) ((withAux f aux).take (zbNwkHdrSize f))
                (ctr 2 (aes128 key) (nonceBytes nonce).toList 1
                  (other.take (other.length - zbCcmM)))).toList.take zbCcmM →
              ∃ s' d statuses, zbNwkUnsecureFrame aes128 stack random mhr mhrLen stackRef s nsdu =
                some (s', .failed d statuses) := by
  have long := zbNwkHdrSize_secured flagged
  obtain ⟨level, nonceEq⟩ := zbNwkSecureFrame_filled secured
  -- the frame in its parts
  let pre := f.take (zbNwkHdrSize f - 14)
  let old := (f.drop (zbNwkHdrSize f - 14)).take 14
  let payload := f.drop (zbNwkHdrSize f)
  have preLength : pre.length = zbNwkHdrSize f - 14 := by
    rw [List.length_take]
    omega
  have oldLength : old.length = 14 := by
    rw [List.length_take, List.length_drop]
    omega
  have split : f = pre ++ old ++ payload := by
    have behind : payload = (f.drop (zbNwkHdrSize f - 14)).drop 14 := by
      rw [List.drop_drop, Nat.sub_add_cancel (by omega)]
    rw [behind, List.append_assoc, List.take_append_drop, List.take_append_drop]
  have hdrSize : pre.length + 14 = zbNwkHdrSize f := by omega
  -- whatever follows the fixed part, it reads the same
  have sizeOf : ∀ rest, zbNwkHdrSize (pre ++ rest) = pre.length + 14 := by
    intro rest
    rw [hdrSize]
    apply zbNwkHdrSize_congr
    rw [getD_append (by omega)]
    exact getD_take (by omega)
  have srcAddrOf : ∀ rest, nwhdrSrcAddr (pre ++ rest) = nwhdrSrcAddr f := by
    intro rest
    apply nwhdrSrcAddr_congr <;>
    · rw [getD_append (by omega)]
      exact getD_take (by omega)
  rw [split] at stands fits
  rw [← auxAt_take] at secured
  obtain ⟨src', dst', sealing, srcData, dstData⟩ := @secureFrame_spec aes128 extendedAddress useSameKey c c' src
    dst mac pre old payload aux key nonce stands inside oldLength
    (by rw [List.append_assoc]; exact sizeOf _) fits secured
  rw [nonceEq] at dstData ⊢
  have air : dst'.data.drop mac.length = airHeader pre aux ++
      sealed 2 4 (aes128 key) (frameNonce aux).toList (pre ++ auxBytes aux) payload := by
    rw [dstData, List.drop_left]
  have airLength : (airHeader pre aux).length = zbNwkHdrSize f := by
    rw [airHeader, List.length_append, length_auxBytes, hdrSize]
  have some_ := append_auxBytes_ne_nil pre aux
  have payloadLength : payload.length = f.length - zbNwkHdrSize f := List.length_drop
  have airTotal : dst'.data.length = mac.length + (f.length + zbCcmM) := by
    rw [dstData, List.length_append, List.length_append, airLength, length_sealed]
    omega
  refine ⟨src', dst', sealing, srcData, airTotal, ?_, ?_⟩
  · intro stack random mhr mhrLen stackRef n s s₁ nsdu there room accepts
    obtain ⟨message, same⟩ := @sealed_opens aes128 key (frameNonce aux) _ some_ payload
    rw [air] at there
    obtain ⟨opens, -⟩ := @unsecureFrame_spec aes128 stack random mhr mhrLen stackRef n key s s₁ nsdu pre
      (sealed 2 4 (aes128 key) (frameNonce aux).toList (pre ++ auxBytes aux) payload)
      { aux with securControl := zbNwkStdSecurControlZeroedLevel } there
      (by rw [List.append_assoc]; exact sizeOf _) (by omega) (by rw [hdrSize]; exact room)
      (by
        rw [List.append_assoc, srcAddrOf]
        exact ⟨accepts.authenticated, accepts.found, accepts.holdsKey, accepts.fresh⟩)
    change withLevel { aux with securControl := zbNwkStdSecurControlZeroedLevel } = aux at level
    rw [level] at opens
    obtain ⟨s', d, macHdrOffset, ran, data, len⟩ := opens same
    refine ⟨s', d, macHdrOffset, ran, ?_, ?_⟩
    · rw [data, message]
      rfl
    · have total : nsdu.len.toNat = zbNwkHdrSize f + (payload.length + zbCcmM) := by
        rw [← length_data room.inside, there, List.length_append, airLength, length_sealed]
      omega
  · intro stack random mhr mhrLen stackRef n s s₁ nsdu other there room status accepts differs
    rw [air, ← airLength, List.take_left] at there
    obtain ⟨-, refused⟩ := @unsecureFrame_spec aes128 stack random mhr mhrLen stackRef n key s s₁ nsdu pre
      other { aux with securControl := zbNwkStdSecurControlZeroedLevel } there
      (by rw [List.append_assoc]; exact sizeOf _) (by omega) (by rw [hdrSize]; exact room)
      (by
        rw [List.append_assoc, srcAddrOf]
        exact ⟨accepts.authenticated, accepts.found, accepts.holdsKey, accepts.fresh⟩)
    have header : (withAux f aux).take (zbNwkHdrSize f) = pre ++ auxBytes aux := by
      have length : (pre ++ auxBytes aux).length = zbNwkHdrSize f := by
        rw [List.length_append, length_auxBytes, hdrSize]
      show (pre ++ auxBytes aux ++ payload).take _ = _
      rw [← length, List.take_left]
    rw [header] at differs
    change withLevel { aux with securControl := zbNwkStdSecurControlZeroedLevel } = aux at level
    rw [level] at refused
    exact refused differs status

/-! ## A frame of one byte -/

theorem exists_buf {bytes : List UInt8} {at_ : Nat} (fits : at_ + bytes.length ≤ zbIoBufSize) :
    ∃ b : ZbBuf, b.data = bytes ∧ b.begin_ = at_ ∧ b.len.toNat = bytes.length := by
  obtain ⟨mem, -, here, -⟩ := @poke_slices zbIoBufSize (Vector.replicate 148 0) at_ bytes fits
  simp only [zbIoBufSize] at fits
  have place : (UInt8.ofNat at_).toNat = at_ := UInt8.toNat_ofNat_of_lt' (by simp only [UInt8.size]; omega)
  have len : (UInt8.ofNat bytes.length).toNat = bytes.length :=
    UInt8.toNat_ofNat_of_lt' (by simp only [UInt8.size]; omega)
  refine ⟨⟨mem, UInt8.ofNat bytes.length, UInt8.ofNat at_⟩, ?_, place, len⟩
  show slice mem (UInt8.ofNat at_).toNat (UInt8.ofNat bytes.length).toNat = bytes
  rw [place, len, here]

/-- From 1 to 0, with short addresses. -/
def oneHopMac : List UInt8 := [0x61, 0x88, 1, 0x34, 0x12, 0, 0, 1, 0]

/-- A command of one byte, its auxiliary header empty. -/
def oneByteFrame : List UInt8 := [9, 2, 0, 0, 1, 0, 1, 7] ++ List.replicate 14 0 ++ [42]

def oneHopSender : ZbIeeeAddr := Vector.ofFn fun i => UInt8.ofNat (i.val + 1)

/-- A receiver that knows nobody and holds the key of zeros. -/
def newcomer : RecvContext where
  secur := { SecurContext.init .init with authenticated := true }
  neighbor := ⟨fun _ => newNeighbor 0 0, fun _ => 255, 10, 0⟩
  depth := 0

def oneByteAux : ZbNwkAuxFrameHdr := ⟨zbNwkStdSecurControl, 0, oneHopSender, 0⟩

theorem newcomer_accepts : ∃ s₁ n,
    Accepts 0 (zbParseMhr oneHopMac).1 oneByteAux (nwhdrSrcAddr oneByteFrame) (Vector.replicate 16 0)
      newcomer s₁ n := by
  have got : (unsecureNeighborGet 0 (zbParseMhr oneHopMac).1 oneHopSender (nwhdrSrcAddr oneByteFrame)
      newcomer).map (fun r => (r.2.toOption, staleCounter 0 (switchPeerKey 0 (r.1.neighbor.baseNeighbor 0)))) =
      some (some 0, false) := by
    decide +kernel
  obtain ⟨⟨s₁, found⟩, found_, read⟩ := Option.map_eq_some_iff.1 got
  obtain ⟨first, fresh⟩ := Prod.mk.inj read
  cases found with
  | error e => cases first
  | ok n =>
      obtain rfl : n = 0 := Option.some.inj first
      exact ⟨s₁, 0, rfl, found_, rfl, fresh⟩

/-- Pole: with the identity for a block function, a frame from 1 is secured and
unsecured. -/
theorem nwk_roundTrip_identity :
    ∃ (c' : SecurContext) (src src' dst' nsdu : ZbBuf) (s' : RecvContext) (d : ZbBuf) (macHdrOffset : UInt8),
      src.data = oneHopMac ++ oneByteFrame ∧
        zbNwkSecureFrameBuf (fun _ b => b) oneHopSender false 9 (SecurContext.init .init) src src =
          some (c', src', dst', .ok ()) ∧
        nsdu.data = dst'.data.drop 9 ∧
        zbNwkUnsecureFrame (fun _ b => b) (Vector.replicate 148 0) (Vector.replicate 16 0)
            (zbParseMhr oneHopMac).1 9 0 newcomer nsdu = some (s', .unsecured d macHdrOffset) ∧
        d.data = withAux oneByteFrame oneByteAux := by
  obtain ⟨src, stands, begins, len⟩ := @exists_buf (oneHopMac ++ oneByteFrame) 50 (by decide)
  have secured : zbNwkSecureFrame oneHopSender false (auxAt (oneByteFrame.drop (zbNwkHdrSize oneByteFrame - 14)))
      (SecurContext.init .init) = ({ SecurContext.init .init with outgoingFrameCounter := 1 }, oneByteAux,
        some (Vector.replicate 16 0, ⟨oneHopSender, 0, zbNwkStdSecurControl⟩)) := rfl
  obtain ⟨s₁, n, accepts⟩ := newcomer_accepts
  obtain ⟨src', dst', sealing, -, total, opening, -⟩ := nwk_roundTrip (fun _ b => b) src stands
    (by rw [begins, len]; decide) (by decide) (by decide) ⟨by decide, by decide⟩ secured
  have airLength : (dst'.data.drop 9).length = 27 := by
    rw [List.length_drop, total]
    decide
  obtain ⟨nsdu, there, nBegins, nLen⟩ := @exists_buf (dst'.data.drop 9) 40 (by rw [airLength]; decide)
  rw [airLength] at nLen
  obtain ⟨s', d, macHdrOffset, ran, data, -⟩ := opening (Vector.replicate 148 0) (Vector.replicate 16 0)
    (zbParseMhr oneHopMac).1 9 0 n newcomer s₁ nsdu there
    ⟨by rw [nBegins, nLen]; decide, by rw [nLen]; decide, by rw [nLen]; decide, by rw [nLen]; decide, by decide⟩
    accepts
  exact ⟨_, src, src', dst', nsdu, s', d, macHdrOffset, stands, sealing, there, ran, data⟩

end RoundTrip

end Zboss.Secur.NwkRoundTrip
