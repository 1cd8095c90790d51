/-
# Nwk.HeaderRoundTrip -- what is read of a header that was built

`headerBytes` is the header as a string.  `nwkAllocAndFillHdr_of_alloc`: the builder
leaves it before the space of the multicast control and the auxiliary header, with
the data behind it.  `readsBack_iff` reads such a string with the macros.

`header_readsBack_iff`: the frame of a data request, and of any command, reads back
to what was asked exactly if it is not multicast and route discovery was not asked
for, nor seems to be asked for after the data was moved.  Pole:
`route_discovery_reads_two`.
-/
import Mathlib
import Zboss.Common.Constants
import Zboss.Nwk.Header

namespace Zboss.Nwk.HeaderRoundTrip

open Zboss.Common.Constants
open Zboss.Common.Types
open Zboss.Secur.Ccm
open Zboss.Secur.CcmRoundTrip
open Zboss.Common.PacketBuf
open Zboss.Nwk.Header

set_option autoImplicit false

/-! ## The header as a string -/

section Strings

/-- The addresses that are present, the destination's first. -/
def ieeeBytes (srcIeeeAddr dstIeeeAddr : Option ZbIeeeAddr) : List UInt8 :=
  ((dstIeeeAddr.map (·.toList)).getD []) ++ ((srcIeeeAddr.map (·.toList)).getD [])

/-- The bytes behind the addresses. -/
def spareSize (isMulticast isSecured : Bool) : Nat :=
  (if isMulticast then 1 else 0) + if isSecured then auxFrameHdrSize else 0

def headerBytes (fctl : FrameCtl) (dstAddr srcAddr : UInt16) (radius seqNum : UInt8)
    (ieee : List UInt8) : List UInt8 :=
  [fctl.zeroByte, fctl.firstByte] ++ uint16Bytes dstAddr ++ uint16Bytes srcAddr ++ [radius, seqNum] ++ ieee

theorem length_headerBytes (fctl : FrameCtl) (dstAddr srcAddr : UInt16) (radius seqNum : UInt8)
    (ieee : List UInt8) :
    (headerBytes fctl dstAddr srcAddr radius seqNum ieee).length = 8 + ieee.length := by
  simp [headerBytes, uint16Bytes]
  omega

theorem nwkHdrSize_eq (src dst : Option ZbIeeeAddr) (isMulticast isSecured : Bool) :
    nwkHdrSize src dst isMulticast isSecured =
      8 + (ieeeBytes src dst).length + spareSize isMulticast isSecured := by
  cases src <;> cases dst <;> cases isMulticast <;> cases isSecured <;>
    simp [nwkHdrSize, ieeeBytes, spareSize, zbNwkFullHdrSize, zbNwkHalfHdrSize, zbNwkShortHdrSize,
      srcIeeeAddrOffset, dstIeeeAddrOffset, auxFrameHdrSize]

theorem length_ieeeBytes_le (src dst : Option ZbIeeeAddr) : (ieeeBytes src dst).length ≤ 16 := by
  cases src <;> cases dst <;> simp [ieeeBytes]

theorem spareSize_le (isMulticast isSecured : Bool) : spareSize isMulticast isSecured ≤ 15 := by
  cases isMulticast <;> cases isSecured <;> decide

end Strings

/-! ## What the builder writes -/

section Builder

variable {src dst : Option ZbIeeeAddr} {mem : Vector UInt8 zbIoBufSize} {at_ : Nat}

/-- The addresses are written where the first of them belongs, without a gap. -/
theorem nwkFillIeee_eq (fits : at_ + 8 + (ieeeBytes src dst).length ≤ zbIoBufSize) :
    nwkFillIeee src dst mem at_ = poke mem (at_ + 8) (ieeeBytes src dst) := by
  cases src with
  | none =>
      cases dst with
      | none =>
          obtain ⟨mem', poked, eq⟩ := @poke_spec zbIoBufSize mem (at_ + 8) [] fits
          show some mem = poke mem (at_ + 8) []
          rw [poked]
          congr 1
          apply Vector.toList_inj.1
          simpa using eq.symm
      | some d =>
          show poke mem (at_ + 8) d.toList = poke mem (at_ + 8) (d.toList ++ [])
          rw [List.append_nil]
  | some s =>
      cases dst with
      | none => rfl
      | some d =>
          have both : at_ + 8 + (d.toList ++ s.toList).length ≤ zbIoBufSize := fits
          obtain ⟨mem₁, poked, -⟩ := @poke_spec zbIoBufSize mem (at_ + 8) d.toList (by
            rw [List.length_append] at both
            omega)
          show (poke mem (at_ + 8) d.toList).bind (fun m => poke m (at_ + 16) s.toList) = _
          rw [poked, Option.bind_some]
          exact (by simpa using poke_poke both poked :
            poke mem₁ (at_ + 16) s.toList = poke mem (at_ + 8) (d.toList ++ s.toList))

variable {isMulticast isSecured isCmdFrame : Bool} {ctx : NwkContext} {b c : ZbBuf} {dstAddr : UInt16}

/-- The header a sender gets. -/
def builtHeader (src dst : Option ZbIeeeAddr) (isSecured isCmdFrame : Bool) (ctx : NwkContext)
    (dstAddr : UInt16) : List UInt8 :=
  headerBytes (nwkFillFrameCtl src dst isSecured isCmdFrame) dstAddr ctx.networkAddress 1
    ctx.sequenceNumber (ieeeBytes src dst)

theorem length_builtHeader :
    (builtHeader src dst isSecured isCmdFrame ctx dstAddr).length = 8 + (ieeeBytes src dst).length :=
  length_headerBytes _ _ _ _ _ _

/-- Filling, whatever way the space was allocated. -/
theorem nwkAllocAndFillHdr_of_alloc
    (allocated : (if isCmdFrame then
        zbBufInitialAlloc (UInt8.ofNat (nwkHdrSize src dst isMulticast isSecured)) b
      else zbBufSmartAllocLeft (UInt8.ofNat (nwkHdrSize src dst isMulticast isSecured)) b) = some c)
    (fits : c.begin_ + 8 + (ieeeBytes src dst).length ≤ zbIoBufSize) :
    ∃ c' : ZbBuf, nwkAllocAndFillHdr src dst isMulticast isSecured isCmdFrame ctx b dstAddr =
        some (c', if isSecured then .nwkEncr else .noEncr,
          { ctx with sequenceNumber := ctx.sequenceNumber + 1 }) ∧
      c'.len = c.len ∧ c'.begin_ = c.begin_ ∧
      slice c'.buf c'.begin_ (8 + (ieeeBytes src dst).length) =
        builtHeader src dst isSecured isCmdFrame ctx dstAddr ∧
      ∀ at_ len, c.begin_ + 8 + (ieeeBytes src dst).length ≤ at_ →
        slice c'.buf at_ len = slice c.buf at_ len := by
  have length := @length_builtHeader src dst isSecured isCmdFrame ctx dstAddr
  obtain ⟨mem, poked, here, -, after⟩ := @poke_slices zbIoBufSize c.buf c.begin_
    (builtHeader src dst isSecured isCmdFrame ctx dstAddr) (by omega)
  rw [length] at here after
  -- the fixed part, then the addresses
  let fixed := headerBytes (nwkFillFrameCtl src dst isSecured isCmdFrame) dstAddr ctx.networkAddress 1
    ctx.sequenceNumber []
  have eight : fixed.length = 8 := length_headerBytes _ _ _ _ _ _
  have whole : builtHeader src dst isSecured isCmdFrame ctx dstAddr = fixed ++ ieeeBytes src dst := rfl
  obtain ⟨mem₁, poked₁, -⟩ := @poke_spec zbIoBufSize c.buf c.begin_ fixed (by omega)
  have second : nwkFillIeee src dst mem₁ c.begin_ = some mem := by
    rw [nwkFillIeee_eq fits, ← eight, poke_poke (by rw [← whole]; omega) poked₁, ← whole, poked]
  refine ⟨{ c with buf := mem }, ?_, rfl, rfl, here, fun at_ len past => after at_ len (by omega)⟩
  simp only [nwkAllocAndFillHdr, allocated, Option.bind_eq_bind, Option.bind_some]
  show ((poke c.buf c.begin_ fixed).bind fun m => (nwkFillIeee src dst m c.begin_).bind _) = _
  rw [poked₁, Option.bind_some, second]
  rfl

theorem nwkHdrSize_lt : nwkHdrSize src dst isMulticast isSecured < 40 := by
  have ieee := length_ieeeBytes_le src dst
  have spare := spareSize_le isMulticast isSecured
  rw [nwkHdrSize_eq]
  omega

theorem toNat_nwkHdrSize :
    (UInt8.ofNat (nwkHdrSize src dst isMulticast isSecured)).toNat =
      nwkHdrSize src dst isMulticast isSecured :=
  UInt8.toNat_ofNat_of_lt' (Nat.lt_trans nwkHdrSize_lt (by decide))

/-- **A header before data.** -/
theorem nwkAllocAndFillHdr_data
    (room : nwkHdrSize src dst isMulticast isSecured + b.len.toNat < zbIoBufSize)
    (inside : b.begin_ + b.len.toNat ≤ zbIoBufSize) :
    ∃ c : ZbBuf, nwkAllocAndFillHdr src dst isMulticast isSecured false ctx b dstAddr =
        some (c, if isSecured then .nwkEncr else .noEncr,
          { ctx with sequenceNumber := ctx.sequenceNumber + 1 }) ∧
      c.len.toNat = nwkHdrSize src dst isMulticast isSecured + b.len.toNat ∧
      c.begin_ + nwkHdrSize src dst isMulticast isSecured =
        max b.begin_ (nwkHdrSize src dst isMulticast isSecured) ∧
      slice c.buf c.begin_ (8 + (ieeeBytes src dst).length) =
        builtHeader src dst isSecured false ctx dstAddr ∧
      slice c.buf (c.begin_ + nwkHdrSize src dst isMulticast isSecured) b.len.toNat = b.data ∧
      ∀ at_ len, max b.begin_ (nwkHdrSize src dst isMulticast isSecured) + b.len.toNat ≤ at_ →
        slice c.buf at_ len = slice b.buf at_ len := by
  have whole := @toNat_nwkHdrSize src dst isMulticast isSecured
  have size := nwkHdrSize_eq src dst isMulticast isSecured
  rw [← whole] at room
  obtain ⟨c, allocated, len, end_, data, there, after⟩ := smartAllocLeft_spec room inside
  rw [whole] at len there data after
  obtain ⟨c', filled, sameLen, begins, header, past⟩ :=
    @nwkAllocAndFillHdr_of_alloc src dst isMulticast isSecured false ctx b c dstAddr allocated (by omega)
  refine ⟨c', filled, by rw [sameLen, len], by rw [begins, there], header, ?_, ?_⟩
  · rw [begins, past _ _ (by omega), data]
  · intro at_ len' far
    rw [past at_ len' (by omega), after at_ len' far]

/-- **A header in an empty buffer.** -/
theorem nwkAllocAndFillHdr_cmd :
    ∃ c : ZbBuf, nwkAllocAndFillHdr src dst isMulticast isSecured true ctx b dstAddr =
        some (c, if isSecured then .nwkEncr else .noEncr,
          { ctx with sequenceNumber := ctx.sequenceNumber + 1 }) ∧
      c.len.toNat = nwkHdrSize src dst isMulticast isSecured ∧
      c.begin_ = (zbIoBufSize - nwkHdrSize src dst isMulticast isSecured) / 2 ∧
      slice c.buf c.begin_ (8 + (ieeeBytes src dst).length) =
        builtHeader src dst isSecured true ctx dstAddr := by
  have small := @nwkHdrSize_lt src dst isMulticast isSecured
  have size := nwkHdrSize_eq src dst isMulticast isSecured
  obtain ⟨c, allocated, len, begins⟩ := @zbBufInitialAlloc_spec
    (nwkHdrSize src dst isMulticast isSecured) (Nat.lt_trans small (by decide)) b
  have fits : c.begin_ + 8 + (ieeeBytes src dst).length ≤ zbIoBufSize := by
    simp only [zbIoBufSize] at begins ⊢
    omega
  obtain ⟨c', filled, sameLen, same, header, -⟩ :=
    @nwkAllocAndFillHdr_of_alloc src dst isMulticast isSecured true ctx b c dstAddr allocated fits
  exact ⟨c', filled, by rw [sameLen, len], by rw [same, begins], header⟩

end Builder

/-! ## Reading -/

/-- What a sender asks for. -/
structure Sent where
  frameType : UInt8
  secured : Bool
  dstAddr : UInt16
  srcAddr : UInt16
  srcIeeeAddr : Option ZbIeeeAddr
  dstIeeeAddr : Option ZbIeeeAddr
  discoverRoute : UInt8
  payload : List UInt8

/-- **The frame reads back**: every field with its macro, and the header size from
the frame control. -/
structure ReadsBack (sent : Sent) (frame : List UInt8) : Prop where
  frameType : frameCtlGetFrameType frame = sent.frameType
  security : frameCtlGetSecurity frame = if sent.secured then 1 else 0
  dstAddr : nwhdrDstAddr frame = sent.dstAddr
  srcAddr : nwhdrSrcAddr frame = sent.srcAddr
  dstIeeeAddr : nwhdrDstIeeeAddr frame = sent.dstIeeeAddr
  srcIeeeAddr : nwhdrSrcIeeeAddr frame = sent.srcIeeeAddr
  discoverRoute : frameCtlGetDiscoverRoute frame = sent.discoverRoute
  hdrSize : ∃ header, frame = header ++ sent.payload ∧ zbNwkHdrSize frame = header.length

section Reading

variable {src dst : Option ZbIeeeAddr} {isSecured isCmdFrame : Bool} {fctl : FrameCtl}
  {dstAddr srcAddr : UInt16} {radius seqNum : UInt8} {rest : List UInt8}

/-- A frame whose flags are those of the builder. -/
def frameOf (src dst : Option ZbIeeeAddr) (isSecured isCmdFrame : Bool) (zeroByte : UInt8)
    (dstAddr srcAddr : UInt16) (radius seqNum : UInt8) (rest : List UInt8) : List UInt8 :=
  headerBytes ⟨zeroByte, (nwkFillFrameCtl src dst isSecured isCmdFrame).firstByte⟩ dstAddr srcAddr
    radius seqNum (ieeeBytes src dst) ++ rest

theorem frameOf_flags (zeroByte : UInt8) :
    let frame := frameOf src dst isSecured isCmdFrame zeroByte dstAddr srcAddr radius seqNum rest
    frameCtlGetMulticastFlag frame = 0 ∧
      frameCtlGetSecurity frame = (if isSecured then 1 else 0) ∧
      frameCtlGetDestinationIeee frame = (if dst.isSome then 1 else 0) ∧
      frameCtlGetSourceIeee frame = if src.isSome then 1 else 0 := by
  intro frame
  have first : frame.getD 1 0 = (nwkFillFrameCtl src dst isSecured isCmdFrame).firstByte := rfl
  simp only [frameCtlGetMulticastFlag, frameCtlGetSecurity, frameCtlGetDestinationIeee,
    frameCtlGetSourceIeee, first, nwkFillFrameCtl]
  cases src.isSome <;> cases dst.isSome <;> cases isSecured <;> cases isCmdFrame <;> decide

theorem frameOf_addrs (zeroByte : UInt8) :
    let frame := frameOf src dst isSecured isCmdFrame zeroByte dstAddr srcAddr radius seqNum rest
    nwhdrDstAddr frame = dstAddr ∧ nwhdrSrcAddr frame = srcAddr := by
  intro frame
  let f := nwkFillFrameCtl src dst isSecured isCmdFrame
  constructor
  · exact uint16At_bytes dstAddr [zeroByte, f.firstByte]
      (uint16Bytes srcAddr ++ [radius, seqNum] ++ ieeeBytes src dst ++ rest)
  · exact uint16At_bytes srcAddr ([zeroByte, f.firstByte] ++ uint16Bytes dstAddr)
      ([radius, seqNum] ++ ieeeBytes src dst ++ rest)

theorem frameOf_ieee (zeroByte : UInt8) :
    let frame := frameOf src dst isSecured isCmdFrame zeroByte dstAddr srcAddr radius seqNum rest
    nwhdrDstIeeeAddr frame = dst ∧ nwhdrSrcIeeeAddr frame = src := by
  intro frame
  obtain ⟨-, -, hasDst, hasSrc⟩ := @frameOf_flags src dst isSecured isCmdFrame dstAddr srcAddr radius
    seqNum rest zeroByte
  let fixed := headerBytes ⟨zeroByte, (nwkFillFrameCtl src dst isSecured isCmdFrame).firstByte⟩ dstAddr
    srcAddr radius seqNum []
  have eight : fixed.length = 8 := length_headerBytes _ _ _ _ _ _
  have split : frame = fixed ++ (ieeeBytes src dst ++ rest) := by
    show fixed ++ ieeeBytes src dst ++ rest = _
    rw [List.append_assoc]
  rw [nwhdrDstIeeeAddr, nwhdrSrcIeeeAddr, hasDst, hasSrc, split]
  cases dst with
  | none =>
      cases src with
      | none => exact ⟨rfl, rfl⟩
      | some s => exact ⟨rfl, congrArg some (ieeeAddrAt_bytes s eight)⟩
  | some d =>
      cases src with
      | none =>
          rw [show ieeeBytes none (some d) = d.toList from List.append_nil _]
          exact ⟨congrArg some (ieeeAddrAt_bytes d eight), rfl⟩
      | some s =>
          have both : fixed ++ (ieeeBytes (some s) (some d) ++ rest) =
              fixed ++ (d.toList ++ (s.toList ++ rest)) := by
            rw [← List.append_assoc d.toList]
            rfl
          have behind : (fixed ++ d.toList).length = 16 := by
            rw [List.length_append, eight, Vector.length_toList]
          constructor
          · rw [both]
            exact congrArg some (ieeeAddrAt_bytes d eight)
          · rw [both, ← List.append_assoc fixed]
            exact congrArg some (ieeeAddrAt_bytes s behind)

theorem frameOf_hdrSize (zeroByte : UInt8) :
    zbNwkHdrSize (frameOf src dst isSecured isCmdFrame zeroByte dstAddr srcAddr radius seqNum rest) =
      nwkHdrSize src dst false isSecured := by
  obtain ⟨mcast, security, hasDst, hasSrc⟩ := @frameOf_flags src dst isSecured isCmdFrame dstAddr srcAddr
    radius seqNum rest zeroByte
  rw [zbNwkHdrSize, mcast, security, hasDst, hasSrc]
  cases src <;> cases dst <;> cases isSecured <;> rfl

/-- **Reading a built frame**: what can differ is the frame type and 'discover
route', as the first byte has them, and the header size, for a multicast one. -/
theorem readsBack_iff (sent : Sent) {isMulticast : Bool} {zeroByte : UInt8} {spare : List UInt8}
    (spares : spare.length = spareSize isMulticast sent.secured) :
    ReadsBack sent (frameOf sent.srcIeeeAddr sent.dstIeeeAddr sent.secured isCmdFrame zeroByte sent.dstAddr
        sent.srcAddr radius seqNum (spare ++ sent.payload)) ↔
      zeroByte &&& 3 = sent.frameType ∧ (zeroByte >>> 5) &&& 3 = sent.discoverRoute ∧
        isMulticast = false := by
  let fctl : FrameCtl :=
    ⟨zeroByte, (nwkFillFrameCtl sent.srcIeeeAddr sent.dstIeeeAddr sent.secured isCmdFrame).firstByte⟩
  let header := headerBytes fctl sent.dstAddr sent.srcAddr radius seqNum
    (ieeeBytes sent.srcIeeeAddr sent.dstIeeeAddr) ++ spare
  have split : frameOf sent.srcIeeeAddr sent.dstIeeeAddr sent.secured isCmdFrame zeroByte sent.dstAddr
      sent.srcAddr radius seqNum (spare ++ sent.payload) = header ++ sent.payload := by
    rw [frameOf, ← List.append_assoc]
  have length : header.length =
      nwkHdrSize sent.srcIeeeAddr sent.dstIeeeAddr isMulticast sent.secured := by
    rw [List.length_append, length_headerBytes, spares, nwkHdrSize_eq]
  have extra : nwkHdrSize sent.srcIeeeAddr sent.dstIeeeAddr isMulticast sent.secured =
      nwkHdrSize sent.srcIeeeAddr sent.dstIeeeAddr false sent.secured + if isMulticast then 1 else 0 := by
    rw [nwkHdrSize_eq, nwkHdrSize_eq, spareSize, spareSize]
    simp
    omega
  have read := @frameOf_hdrSize sent.srcIeeeAddr sent.dstIeeeAddr sent.secured isCmdFrame sent.dstAddr
    sent.srcAddr radius seqNum (spare ++ sent.payload) zeroByte
  constructor
  · intro back
    refine ⟨back.frameType, back.discoverRoute, ?_⟩
    obtain ⟨header', frame, size⟩ := back.hdrSize
    have same : header = header' := List.append_cancel_right (split.symm.trans frame)
    rw [read, ← same, length, extra] at size
    cases isMulticast with
    | false => rfl
    | true =>
        rw [if_pos rfl] at size
        omega
  · rintro ⟨type, route, rfl⟩
    obtain ⟨-, security, -, -⟩ := @frameOf_flags sent.srcIeeeAddr sent.dstIeeeAddr sent.secured isCmdFrame
      sent.dstAddr sent.srcAddr radius seqNum (spare ++ sent.payload) zeroByte
    obtain ⟨dstAddr, srcAddr⟩ := @frameOf_addrs sent.srcIeeeAddr sent.dstIeeeAddr sent.secured isCmdFrame
      sent.dstAddr sent.srcAddr radius seqNum (spare ++ sent.payload) zeroByte
    obtain ⟨dstIeee, srcIeee⟩ := @frameOf_ieee sent.srcIeeeAddr sent.dstIeeeAddr sent.secured isCmdFrame
      sent.dstAddr sent.srcAddr radius seqNum (spare ++ sent.payload) zeroByte
    exact ⟨type, security, dstAddr, srcAddr, dstIeee, srcIeee, route, header, split, by rw [read, length]⟩

end Reading

/-! ## Command senders -/

section Command

variable (ctx : NwkContext) (b : ZbBuf) (dstAddr : UInt16) (srcIeeeAddr dstIeeeAddr : Option ZbIeeeAddr)
  (isMulticast isSecured : Bool) (cmd : UInt8) (payload : List UInt8)

/-- The command and its payload end within the buffer. -/
def CommandFits : Prop :=
  (zbIoBufSize - nwkHdrSize srcIeeeAddr dstIeeeAddr isMulticast isSecured) / 2 +
    nwkHdrSize srcIeeeAddr dstIeeeAddr isMulticast isSecured + 1 + payload.length ≤ zbIoBufSize

def commandSent : Sent where
  frameType := zbNwkFrameTypeCommand
  secured := isSecured
  dstAddr := dstAddr
  srcAddr := ctx.networkAddress
  srcIeeeAddr := srcIeeeAddr
  dstIeeeAddr := dstIeeeAddr
  discoverRoute := 0
  payload := cmd :: payload

variable {ctx b dstAddr srcIeeeAddr dstIeeeAddr isMulticast isSecured cmd payload}

theorem nwkCommandFrame_spec (fits : CommandFits srcIeeeAddr dstIeeeAddr isMulticast isSecured payload) :
    ∃ (c : ZbBuf) (spare : List UInt8),
      nwkCommandFrame ctx b dstAddr srcIeeeAddr dstIeeeAddr isMulticast isSecured cmd payload =
        some (c, if isSecured then .nwkEncr else .noEncr,
          { ctx with sequenceNumber := ctx.sequenceNumber + 1 }) ∧
      spare.length = spareSize isMulticast isSecured ∧
      c.data = frameOf srcIeeeAddr dstIeeeAddr isSecured true
        (nwkFillFrameCtl srcIeeeAddr dstIeeeAddr isSecured true).zeroByte dstAddr ctx.networkAddress 1
        ctx.sequenceNumber (spare ++ cmd :: payload) := by
  have size := nwkHdrSize_eq srcIeeeAddr dstIeeeAddr isMulticast isSecured
  have small := @nwkHdrSize_lt srcIeeeAddr dstIeeeAddr isMulticast isSecured
  simp only [CommandFits, zbIoBufSize] at fits
  obtain ⟨c, built, len, begins, header⟩ := @nwkAllocAndFillHdr_cmd srcIeeeAddr dstIeeeAddr isMulticast
    isSecured ctx b dstAddr
  simp only [zbIoBufSize] at begins
  have cmdSize : (1 + UInt8.ofNat payload.length).toNat = 1 + payload.length := by
    rw [UInt8.toNat_add, UInt8.toNat_ofNat']
    simp
    omega
  obtain ⟨d, allocated, same, there, longer⟩ := @smartAllocRight_spec
    (1 + UInt8.ofNat payload.length) c (by simp only [zbIoBufSize]; omega)
  obtain ⟨mem₁, poked₁, here₁, before₁, -⟩ := @poke_slices zbIoBufSize d.buf (c.begin_ + c.len.toNat) [cmd]
    (by simp only [zbIoBufSize, List.length_singleton]; omega)
  obtain ⟨mem₂, poked₂, here₂, before₂, -⟩ := @poke_slices zbIoBufSize mem₁ (c.begin_ + c.len.toNat + 1)
    payload (by simp only [zbIoBufSize]; omega)
  let spare := slice mem₂ (c.begin_ + (8 + (ieeeBytes srcIeeeAddr dstIeeeAddr).length))
    (spareSize isMulticast isSecured)
  refine ⟨{ d with buf := mem₂ }, spare, ?_, length_slice (by simp only [zbIoBufSize]; omega), ?_⟩
  · simp only [nwkCommandFrame, nwkAllocAndFillCmd, built, allocated, poked₁, Option.bind_eq_bind,
      Option.bind_some, Option.pure_def, poked₂]
  · have total : d.len.toNat = 8 + (ieeeBytes srcIeeeAddr dstIeeeAddr).length +
        spareSize isMulticast isSecured + (1 + payload.length) := by omega
    have command : slice mem₂ (c.begin_ + c.len.toNat) 1 = [cmd] := by
      rw [before₂ _ _ (le_refl _)]
      exact here₁
    have head : slice mem₂ c.begin_ (8 + (ieeeBytes srcIeeeAddr dstIeeeAddr).length) =
        builtHeader srcIeeeAddr dstIeeeAddr isSecured true ctx dstAddr := by
      rw [before₂ _ _ (by omega), before₁ _ _ (by omega), same, header]
    have place : c.begin_ + (8 + (ieeeBytes srcIeeeAddr dstIeeeAddr).length +
        spareSize isMulticast isSecured) = c.begin_ + c.len.toNat := by omega
    show slice mem₂ d.begin_ d.len.toNat = _
    rw [there, total, slice_add, slice_add, head, place, slice_add, command, here₂, List.append_assoc]
    rfl

/-- **A command frame reads back unless it is multicast.** -/
theorem command_readsBack (fits : CommandFits srcIeeeAddr dstIeeeAddr isMulticast isSecured payload) :
    ∃ c encr ctx',
      nwkCommandFrame ctx b dstAddr srcIeeeAddr dstIeeeAddr isMulticast isSecured cmd payload =
          some (c, encr, ctx') ∧
        (ReadsBack (commandSent ctx dstAddr srcIeeeAddr dstIeeeAddr isSecured cmd payload) c.data ↔
          isMulticast = false) := by
  obtain ⟨c, spare, built, spares, data⟩ := @nwkCommandFrame_spec ctx b dstAddr srcIeeeAddr dstIeeeAddr
    isMulticast isSecured cmd payload fits
  have read := @readsBack_iff true 1 ctx.sequenceNumber
    (commandSent ctx dstAddr srcIeeeAddr dstIeeeAddr isSecured cmd payload) isMulticast
    (nwkFillFrameCtl srcIeeeAddr dstIeeeAddr isSecured true).zeroByte spare spares
  have first : (nwkFillFrameCtl srcIeeeAddr dstIeeeAddr isSecured true).zeroByte = 9 := by
    cases isSecured <;> rfl
  refine ⟨c, _, _, built, ?_⟩
  rw [data]
  refine read.trans ⟨fun back => back.2.2, fun unicast => ⟨?_, ?_, unicast⟩⟩
  · rw [first]
    rfl
  · rw [first]
    rfl

end Command

/-! ## Data requests -/

section Data

variable (ctx : NwkContext) (b : ZbBuf)

/-- The place of the parameters. -/
def nldeReqPlace : Nat := zbIoBufSize - zbNldeDataReqSize.toNat

/-- The parameters as they come. -/
def nldeReqOf : ZbNldeDataReq := nldeReqAt b.buf nldeReqPlace

def dataIsMulticast : Bool := (nldeReqOf b).addrMode == zbAddr16bitMulticast

def dataHdrSize : Nat := nwkHdrSize none none (dataIsMulticast b) (nldeSecure ctx (nldeReqOf b))

/-- The device is in a network, the data ends before its parameters, and there is
room for a header. -/
structure DataFits : Prop where
  joined : ctx.joined = true
  tail : b.len.toNat + b.begin_ + zbNldeDataReqSize.toNat ≤ zbIoBufSize
  room : dataHdrSize ctx b + b.len.toNat < zbIoBufSize

/-- 'Discover route' as it is found after the header was allocated: a byte of the
data, if the data was moved to make room and now reaches there. -/
def movedDiscoveryRoute : UInt8 :=
  if b.begin_ < dataHdrSize ctx b ∧ nldeReqPlace + 5 < dataHdrSize ctx b + b.len.toNat then
    b.data.getD (nldeReqPlace + 5 - dataHdrSize ctx b) 0
  else (nldeReqOf b).discoveryRoute

def dataSent : Sent where
  frameType := zbNwkFrameTypeData
  secured := nldeSecure ctx (nldeReqOf b)
  dstAddr := (nldeReqOf b).dstAddr
  srcAddr := ctx.networkAddress
  srcIeeeAddr := none
  dstIeeeAddr := none
  discoverRoute := if (nldeReqOf b).discoveryRoute ≠ 0 then 1 else 0
  payload := b.data

variable {ctx b}

theorem nldeReqAt_discoveryRoute (mem : Vector UInt8 zbIoBufSize) :
    (nldeReqAt mem nldeReqPlace).discoveryRoute = mem.toList.getD (nldeReqPlace + 5) 0 := by
  show (mem.toList.drop nldeReqPlace).getD 5 0 = _
  rw [List.getD_eq_getElem?_getD, List.getElem?_drop, ← List.getD_eq_getElem?_getD]

/-- What stands in the place of 'discover route' once there is a header. -/
theorem discoveryRoute_after {mem : Vector UInt8 zbIoBufSize} (fits : DataFits ctx b)
    (data : slice mem (max b.begin_ (dataHdrSize ctx b)) b.len.toNat = b.data)
    (after : ∀ at_ len, max b.begin_ (dataHdrSize ctx b) + b.len.toNat ≤ at_ →
      slice mem at_ len = slice b.buf at_ len) :
    (nldeReqAt mem nldeReqPlace).discoveryRoute = movedDiscoveryRoute ctx b := by
  have place : nldeReqPlace + 5 = 145 := rfl
  have small : dataHdrSize ctx b < 40 := nwkHdrSize_lt
  have tail := fits.tail
  have eight : zbNldeDataReqSize.toNat = 8 := rfl
  have buffer : zbIoBufSize = 148 := rfl
  rw [nldeReqAt_discoveryRoute, movedDiscoveryRoute]
  by_cases moved : b.begin_ < dataHdrSize ctx b ∧ nldeReqPlace + 5 < dataHdrSize ctx b + b.len.toNat
  · rw [if_pos moved]
    rw [Nat.max_eq_right moved.1.le] at data
    have dataLength : b.data.length = b.len.toNat := length_slice (by omega)
    have inside : nldeReqPlace + 5 - dataHdrSize ctx b < b.len.toNat := by omega
    have room := fits.room
    have at_ : dataHdrSize ctx b + (nldeReqPlace + 5 - dataHdrSize ctx b) = nldeReqPlace + 5 := by omega
    rw [← data, slice, List.getD_eq_getElem?_getD, List.getD_eq_getElem?_getD, List.getElem?_take,
      if_pos inside, List.getElem?_drop, at_]
  · rw [if_neg moved, nldeReqOf, nldeReqAt_discoveryRoute]
    apply getD_of_slice
    · apply after
      rcases Nat.lt_or_ge b.begin_ (dataHdrSize ctx b) with less | more
      · rw [Nat.max_eq_right less.le]
        have short := fun far => moved ⟨less, far⟩
        omega
      · rw [Nat.max_eq_left more]
        omega
    · omega

/-- The first byte of the frame, after 'discover route' has been looked at. -/
def dataZeroByte (discoveryRoute : UInt8) : UInt8 := if discoveryRoute ≠ 0 then 72 else 8

theorem dataZeroByte_type (discoveryRoute : UInt8) :
    dataZeroByte discoveryRoute &&& 3 = zbNwkFrameTypeData := by
  rw [dataZeroByte]
  split <;> decide

/-- What was set reads as two. -/
theorem dataZeroByte_route (discoveryRoute : UInt8) :
    (dataZeroByte discoveryRoute >>> 5) &&& 3 = if discoveryRoute ≠ 0 then 2 else 0 := by
  rw [dataZeroByte]
  split <;> decide

/-- **A data request** makes a header for what was asked, with 'discover route' from
the tail as it is then. -/
theorem zbNldeDataRequest_spec (fits : DataFits ctx b) :
    ∃ (c : ZbBuf) (radius : UInt8) (spare : List UInt8),
      zbNldeDataRequest ctx b = some (.forward c
          (if nldeSecure ctx (nldeReqOf b) then .nwkEncr else .noEncr)
          { ctx with sequenceNumber := ctx.sequenceNumber + 1 }) ∧
        spare.length = spareSize (dataIsMulticast b) (nldeSecure ctx (nldeReqOf b)) ∧
        c.data = frameOf none none (nldeSecure ctx (nldeReqOf b)) false
          (dataZeroByte (movedDiscoveryRoute ctx b)) (nldeReqOf b).dstAddr ctx.networkAddress radius
          ctx.sequenceNumber (spare ++ b.data) := by
  have tail := fits.tail
  have room := fits.room
  have eight : zbNldeDataReqSize.toNat = 8 := rfl
  have buffer : zbIoBufSize = 148 := rfl
  have small : dataHdrSize ctx b < 40 := nwkHdrSize_lt
  have size : dataHdrSize ctx b = 8 + spareSize (dataIsMulticast b) (nldeSecure ctx (nldeReqOf b)) :=
    nwkHdrSize_eq none none _ _
  have place : zbGetBufTail zbNldeDataReqSize b = some nldeReqPlace := if_pos fits.tail
  obtain ⟨c, built, len, begins, header, data, after⟩ := @nwkAllocAndFillHdr_data none none
    (dataIsMulticast b) (nldeSecure ctx (nldeReqOf b)) ctx b (nldeReqOf b).dstAddr room (by omega)
  change c.len.toNat = dataHdrSize ctx b + b.len.toNat at len
  change c.begin_ + dataHdrSize ctx b = max b.begin_ (dataHdrSize ctx b) at begins
  change slice c.buf c.begin_ 8 = _ at header
  change slice c.buf (c.begin_ + dataHdrSize ctx b) b.len.toNat = b.data at data
  change ∀ at_ len, max b.begin_ (dataHdrSize ctx b) + b.len.toNat ≤ at_ → _ at after
  have limit : c.begin_ + c.len.toNat ≤ 147 := by
    rcases Nat.le_total b.begin_ (dataHdrSize ctx b) with less | more
    · rw [Nat.max_eq_right less] at begins
      omega
    · rw [Nat.max_eq_left more] at begins
      omega
  -- the radius
  let req := nldeReqAt c.buf nldeReqPlace
  let radius := if req.radius ≠ 0 then req.radius else ctx.maxDepth * 2
  let fctl := nwkFillFrameCtl none none (nldeSecure ctx (nldeReqOf b)) false
  let addrs := uint16Bytes (nldeReqOf b).dstAddr ++ uint16Bytes ctx.networkAddress
  obtain ⟨mem₁, poked₁, header₁, after₁⟩ := @poke_within zbIoBufSize c.buf c.begin_
    ([fctl.zeroByte, fctl.firstByte] ++ addrs) [1] [radius] [ctx.sequenceNumber] header rfl
    (show c.begin_ + 8 ≤ zbIoBufSize by omega)
  change slice mem₁ c.begin_ 8 = _ at header₁
  change poke c.buf (c.begin_ + 6) _ = _ at poked₁
  change ∀ at_ len, c.begin_ + 8 ≤ at_ → _ at after₁
  -- 'discover route'
  have route : (nldeReqAt mem₁ nldeReqPlace).discoveryRoute = movedDiscoveryRoute ctx b := by
    apply discoveryRoute_after fits
    · rw [← begins, after₁ _ _ (by omega), data]
    · intro at_ len far
      rw [after₁ _ _ (by omega), after _ _ far]
  have zero : fctl.zeroByte = 8 := by
    show (nwkFillFrameCtl none none (nldeSecure ctx (nldeReqOf b)) false).zeroByte = 8
    cases nldeSecure ctx (nldeReqOf b) <;> rfl
  have first : peek mem₁ c.begin_ 1 = some [fctl.zeroByte] := by
    rw [peek_slice (by omega), ← take_slice mem₁ c.begin_ (show 1 ≤ 8 by omega), header₁]
    rfl
  obtain ⟨mem₂, poked₂, header₂, after₂⟩ :
      ∃ mem₂, (if (nldeReqAt mem₁ nldeReqPlace).discoveryRoute ≠ 0 then
          (peek mem₁ c.begin_ 1).bind fun zeroByte =>
            poke mem₁ c.begin_ [(FrameCtl.setDiscoverRoute ⟨zeroByte.getD 0 0, 0⟩ 1).zeroByte]
          else some mem₁) = some mem₂ ∧
        slice mem₂ c.begin_ 8 = [] ++ [dataZeroByte (movedDiscoveryRoute ctx b)] ++
          ([fctl.firstByte] ++ addrs ++ [radius, ctx.sequenceNumber]) ∧
        ∀ at_ len, c.begin_ + 8 ≤ at_ → slice mem₂ at_ len = slice mem₁ at_ len := by
    rw [route, dataZeroByte, first, Option.bind_some]
    by_cases asked : movedDiscoveryRoute ctx b ≠ 0
    · rw [if_pos asked, if_pos asked]
      obtain ⟨mem₂, poked₂, header₂, after₂⟩ := @poke_within zbIoBufSize mem₁ c.begin_ [] [fctl.zeroByte]
        [72] ([fctl.firstByte] ++ addrs ++ [radius, ctx.sequenceNumber]) header₁ rfl
        (show c.begin_ + 8 ≤ zbIoBufSize by omega)
      refine ⟨mem₂, ?_, header₂, after₂⟩
      show poke mem₁ c.begin_ [(FrameCtl.setDiscoverRoute ⟨fctl.zeroByte, 0⟩ 1).zeroByte] = _
      rw [zero]
      exact poked₂
    · rw [if_neg asked, if_neg asked, ← zero]
      exact ⟨mem₁, rfl, header₁, fun _ _ _ => rfl⟩
  -- the handle, behind the frame
  obtain ⟨mem₃, poked₃, -, before₃, -⟩ := @poke_slices zbIoBufSize mem₂ 147
    [(nldeReqAt mem₂ nldeReqPlace).ndsuHandle] (by simp [zbIoBufSize])
  have param : zbGetBufTail 1 c = some 147 := if_pos (show c.len.toNat + c.begin_ + 1 ≤ zbIoBufSize by omega)
  let spare := slice mem₃ (c.begin_ + 8) (spareSize (dataIsMulticast b) (nldeSecure ctx (nldeReqOf b)))
  refine ⟨{ c with buf := mem₃ }, radius, spare, ?_, length_slice (by omega), ?_⟩
  · have joined : (!ctx.joined) = false := by rw [fits.joined]; rfl
    simp only [zbNldeDataRequest, place, joined, Bool.false_eq_true, if_false, Option.bind_eq_bind,
      Option.bind_some]
    show (nwkAllocAndFillHdr none none (dataIsMulticast b) (nldeSecure ctx (nldeReqOf b)) false ctx b
      (nldeReqOf b).dstAddr).bind _ = _
    rw [built, Option.bind_some]
    show (poke c.buf (c.begin_ + 6) [radius]).bind _ = _
    rw [poked₁, Option.bind_some]
    show Option.bind (if (nldeReqAt mem₁ nldeReqPlace).discoveryRoute ≠ 0 then _ else _) _ = _
    rw [poked₂, Option.bind_some, param, Option.bind_some, poked₃]
    rfl
  · have total : c.len.toNat = 8 + spareSize (dataIsMulticast b) (nldeSecure ctx (nldeReqOf b)) +
        b.len.toNat := by omega
    have head : slice mem₃ c.begin_ 8 = _ := (before₃ _ _ (by omega)).trans header₂
    have behind : slice mem₃ (c.begin_ + (8 + spareSize (dataIsMulticast b) (nldeSecure ctx (nldeReqOf b))))
        b.len.toNat = b.data := by
      rw [before₃ _ _ (by omega), after₂ _ _ (by omega), after₁ _ _ (by omega), ← size, data]
    show slice mem₃ c.begin_ c.len.toNat = _
    rw [total, slice_add, slice_add, head, behind, List.append_assoc]
    rfl

/-- **A data frame reads back** exactly if it is not multicast, route discovery is
not asked for, and is not found to be asked for after the data was moved. -/
theorem data_readsBack (fits : DataFits ctx b) :
    ∃ c encr ctx', zbNldeDataRequest ctx b = some (.forward c encr ctx') ∧
      (ReadsBack (dataSent ctx b) c.data ↔
        dataIsMulticast b = false ∧ (nldeReqOf b).discoveryRoute = 0 ∧ movedDiscoveryRoute ctx b = 0) := by
  obtain ⟨c, radius, spare, built, spares, data⟩ := zbNldeDataRequest_spec fits
  have read := @readsBack_iff false radius ctx.sequenceNumber (dataSent ctx b) (dataIsMulticast b)
    (dataZeroByte (movedDiscoveryRoute ctx b)) spare spares
  refine ⟨c, _, _, built, ?_⟩
  rw [data]
  refine read.trans ?_
  rw [dataZeroByte_type, dataZeroByte_route]
  show zbNwkFrameTypeData = zbNwkFrameTypeData ∧ (if movedDiscoveryRoute ctx b ≠ 0 then 2 else 0) =
    (if (nldeReqOf b).discoveryRoute ≠ 0 then (1 : UInt8) else 0) ∧ dataIsMulticast b = false ↔ _
  by_cases asked : (nldeReqOf b).discoveryRoute = 0 <;> by_cases found : movedDiscoveryRoute ctx b = 0 <;>
    simp [asked, found]

end Data

/-! ## Both senders -/

/-- **Building and parsing agree exactly without multicast and route discovery.** -/
theorem header_readsBack_iff (ctx : NwkContext) (b : ZbBuf) :
    (DataFits ctx b →
      ∃ c encr ctx', zbNldeDataRequest ctx b = some (.forward c encr ctx') ∧
        (ReadsBack (dataSent ctx b) c.data ↔
          dataIsMulticast b = false ∧ (nldeReqOf b).discoveryRoute = 0 ∧ movedDiscoveryRoute ctx b = 0)) ∧
      ∀ (dstAddr : UInt16) (srcIeeeAddr dstIeeeAddr : Option ZbIeeeAddr) (isMulticast isSecured : Bool)
        (cmd : UInt8) (payload : List UInt8),
        CommandFits srcIeeeAddr dstIeeeAddr isMulticast isSecured payload →
          ∃ c encr ctx',
            nwkCommandFrame ctx b dstAddr srcIeeeAddr dstIeeeAddr isMulticast isSecured cmd payload =
                some (c, encr, ctx') ∧
              (ReadsBack (commandSent ctx dstAddr srcIeeeAddr dstIeeeAddr isSecured cmd payload) c.data ↔
                isMulticast = false) :=
  ⟨data_readsBack, fun _ _ _ _ _ _ _ fits => command_readsBack fits⟩

/-- A router of a secured network. -/
def joinedContext : NwkContext := ⟨0x1234, 7, 5, true, 5, true, true⟩

/-- Four bytes of data in the middle of a buffer, and their parameters: to 0, route
discovery as given, with security. -/
def requestBuf (discoveryRoute : UInt8) : ZbBuf :=
  ⟨((Vector.replicate 148 0).set 145 discoveryRoute).set 146 1, 4, 72⟩

theorem requestBuf_fits (discoveryRoute : UInt8) : DataFits joinedContext (requestBuf discoveryRoute) := by
  have small : dataHdrSize joinedContext (requestBuf discoveryRoute) < 40 := nwkHdrSize_lt
  refine ⟨rfl, by show 84 ≤ 148; omega, ?_⟩
  show _ + 4 < 148
  omega

theorem header_readsBack_joined :
    (∃ c encr ctx', zbNldeDataRequest joinedContext (requestBuf 0) = some (.forward c encr ctx') ∧
      ReadsBack (dataSent joinedContext (requestBuf 0)) c.data) ∧
      ∃ c encr ctx', nwkCommandFrame joinedContext (requestBuf 0) 0 (some (Vector.replicate 8 1))
          (some (Vector.replicate 8 2)) false true 7 [1, 2, 3] = some (c, encr, ctx') ∧
        ReadsBack (commandSent joinedContext 0 (some (Vector.replicate 8 1)) (some (Vector.replicate 8 2))
          true 7 [1, 2, 3]) c.data := by
  obtain ⟨c, encr, ctx', built, back⟩ :=
    (header_readsBack_iff joinedContext (requestBuf 0)).1 (requestBuf_fits 0)
  obtain ⟨d, encr₂, ctx₂, built₂, back₂⟩ := (header_readsBack_iff joinedContext (requestBuf 0)).2 0
    (some (Vector.replicate 8 1)) (some (Vector.replicate 8 2)) false true 7 [1, 2, 3]
    (by unfold CommandFits; decide)
  exact ⟨⟨c, encr, ctx', built, back.2 (by decide +kernel)⟩, ⟨d, encr₂, ctx₂, built₂, back₂.2 rfl⟩⟩

/-- Pole: a request with route discovery. -/
theorem route_discovery_reads_two :
    ¬ ∀ (ctx : NwkContext) (b : ZbBuf), DataFits ctx b →
      ∃ c encr ctx', zbNldeDataRequest ctx b = some (.forward c encr ctx') ∧
        ReadsBack (dataSent ctx b) c.data := by
  intro agree
  obtain ⟨c, encr, ctx', built, back⟩ := agree joinedContext (requestBuf 1) (requestBuf_fits 1)
  obtain ⟨c', encr₂, ctx₂, built', exact_⟩ := data_readsBack (requestBuf_fits 1)
  rw [built] at built'
  obtain ⟨rfl, -, -⟩ := NldeOutcome.forward.inj (Option.some.inj built')
  have asked : (nldeReqOf (requestBuf 1)).discoveryRoute ≠ 0 := by decide +kernel
  exact asked (exact_.1 back).2.1

end Zboss.Nwk.HeaderRoundTrip
