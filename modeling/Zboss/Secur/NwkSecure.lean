/-
# Secur.NwkSecure -- the auxiliary header of an outgoing frame

`zbNwkSecureFrame` fills the auxiliary header, takes a counter value for it, and
names the key and the nonce that CCM* is to run under.  What CCM* makes of the
bytes is the matter of another module; nothing of it comes back into the context.
-/
import Mathlib
import Zboss.Secur.KeyMaterial

namespace Zboss.Secur.NwkSecure

open Zboss.Common.Types
open Zboss.Secur.KeyMaterial

set_option autoImplicit false

/-- `zb_nwk_aux_frame_hdr_t`. -/
structure ZbNwkAuxFrameHdr where
  securControl : UInt8
  frameCounter : UInt32
  sourceAddress : ZbIeeeAddr
  keySeqNumber : UInt8
  deriving DecidableEq

/-- CCM nonce. -/
structure ZbSecurCcmNonce where
  sourceAddress : ZbIeeeAddr
  frameCounter : UInt32
  securControl : UInt8
  deriving DecidableEq

/-- Security level 5, network key, extended nonce. -/
def zbNwkStdSecurControl : UInt8 := 5 ||| ((1 : UInt8) <<< (3 : UInt8)) ||| ((1 : UInt8) <<< (5 : UInt8))

/-- A forwarded frame keeps the key number it came with, and takes the previous
counter, unless that number is the active one. -/
def keepsKey (useSameKey : Bool) (aux : ZbNwkAuxFrameHdr) (c : SecurContext) : Bool :=
  useSameKey && aux.keySeqNumber != c.activeKeySeqNumber

/-- Fill aux header and move the counter it took. -/
def fillAux (extendedAddress : ZbIeeeAddr) (useSameKey : Bool) (aux : ZbNwkAuxFrameHdr)
    (c : SecurContext) : ZbNwkAuxFrameHdr × SecurContext :=
  if keepsKey useSameKey aux c then
    ({ aux with
        securControl := zbNwkStdSecurControl
        frameCounter := c.prevOutgoingFrameCounter
        sourceAddress := extendedAddress },
      { c with prevOutgoingFrameCounter := c.prevOutgoingFrameCounter + 1 })
  else
    ({ securControl := zbNwkStdSecurControl
       frameCounter := c.outgoingFrameCounter
       sourceAddress := extendedAddress
       keySeqNumber := c.activeKeySeqNumber },
      { c with outgoingFrameCounter := c.outgoingFrameCounter + 1 })

/-- Fill nonce. -/
def fillNonce (extendedAddress : ZbIeeeAddr) (aux : ZbNwkAuxFrameHdr) : ZbSecurCcmNonce :=
  ⟨extendedAddress, aux.frameCounter, aux.securControl⟩

/-- The context after, the header, and the key and nonce handed to
`zb_ccm_encrypt_n_auth`; without a key the frame is refused, but the counter has
moved. -/
def zbNwkSecureFrame (extendedAddress : ZbIeeeAddr) (useSameKey : Bool) (aux : ZbNwkAuxFrameHdr)
    (c : SecurContext) : SecurContext × ZbNwkAuxFrameHdr × Option (ZbKey × ZbSecurCcmNonce) :=
  let (aux, c) := fillAux extendedAddress useSameKey aux c
  (c, aux, (securNwkKeyBySeq c aux.keySeqNumber).map fun key =>
    (key, fillNonce extendedAddress aux))

end Zboss.Secur.NwkSecure
