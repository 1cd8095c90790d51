/-
# Secur.KeyMaterial -- network keys of a device, transported and switched

A device has three slots of key material, the index and the number of the active
key, and two frame counters.  Keys come by TRANSPORT-KEY
(`zbApsmeTransportKeyIndication`), or are generated by the Trust Center; the
active key changes by SWITCH-KEY (`securNwkKeySwitch`).  Random key bytes are an
argument.  A failed assertion of the address table is a stop.
-/
import Mathlib
import Zboss.Common.Address

namespace Zboss.Secur.KeyMaterial

open Zboss.Common.Types
open Zboss.Common.Address

set_option autoImplicit false

/-- A 16-byte key. -/
abbrev ZbKey := Vector UInt8 16

structure ZbSecurMaterialSet where
  key : ZbKey
  keySeqNumber : UInt8
  deriving DecidableEq

/-- The parts of the global context that keys live in.  The slot index is one of
three. -/
structure SecurContext where
  securMaterialSet : Fin 3 → ZbSecurMaterialSet
  activeSecurMaterialI : Fin 3
  activeKeySeqNumber : UInt8
  outgoingFrameCounter : UInt32
  prevOutgoingFrameCounter : UInt32
  isTc : Bool
  authenticated : Bool
  trustCenterAddress : ZbIeeeAddr
  addr : ZbAddrGlobals

/-- The NIB after global initialisation. -/
def SecurContext.init (addr : ZbAddrGlobals) : SecurContext where
  securMaterialSet _ := ⟨Vector.replicate 16 0, 0⟩
  activeSecurMaterialI := 0
  activeKeySeqNumber := 0
  outgoingFrameCounter := 0
  prevOutgoingFrameCounter := 0
  isTc := false
  authenticated := false
  trustCenterAddress := Vector.replicate 8 0
  addr := addr

/-- TC initialization. -/
def securTcInit (extendedAddress : ZbIeeeAddr) (c : SecurContext) : SecurContext :=
  { c with isTc := true, trustCenterAddress := extendedAddress, authenticated := true }

def securGenerateKey (i : Fin 3) (keySeq : UInt8) (random : ZbKey) (c : SecurContext) :
    SecurContext :=
  { c with securMaterialSet := Function.update c.securMaterialSet i ⟨random, keySeq⟩ }

def securGenerateKeys (random : Fin 3 → ZbKey) (c : SecurContext) : SecurContext :=
  securGenerateKey 2 2 (random 2) (securGenerateKey 1 1 (random 1) (securGenerateKey 0 0 (random 0) c))

def securNwkKeyIsEmpty (key : ZbKey) : Bool := key.toList.all (· == 0)

/-- The search of `secur_nwk_key_by_seq` from slot `i`, over `cnt` slots. -/
def keyBySeqScan (c : SecurContext) (keySeqNumber : UInt8) : Nat → Fin 3 → Option (Fin 3)
  | 0, _ => none
  | cnt + 1, i =>
      if (c.securMaterialSet i).keySeqNumber = keySeqNumber then some i
      else keyBySeqScan c keySeqNumber cnt (i + 1)

/-- The slot `secur_nwk_key_by_seq` finds. -/
def keySlotBySeq (c : SecurContext) (keySeqNumber : UInt8) : Option (Fin 3) :=
  keyBySeqScan c keySeqNumber 3 c.activeSecurMaterialI

def securNwkKeyBySeq (c : SecurContext) (keySeqNumber : UInt8) : Option ZbKey :=
  (keySlotBySeq c keySeqNumber).map fun i => (c.securMaterialSet i).key

/-! ## TRANSPORT-KEY -/

/-- `zb_apsme_transport_key_indication_t`. -/
structure TransportKeyInd where
  keyType : UInt8
  srcAddress : ZbIeeeAddr
  key : ZbKey
  keySeqNumber : UInt8

def zbStandardNetworkKey : UInt8 := 1

/-- A device that knows no Trust Center takes the sender for it. -/
def learnTrustCenter (srcAddress : ZbIeeeAddr) (c : SecurContext) : Option SecurContext :=
  if c.trustCenterAddress = Vector.replicate 8 0 then do
    let (addr, _) ← zbAddressUpdate srcAddress 0 false c.addr
    return { c with trustCenterAddress := srcAddress, addr }
  else some c

/-- The slot of a key by the distance of its number from the active one, which is
taken modulo 256. -/
def transportSlot (c : SecurContext) (keySeqNumber : UInt8) : Fin 3 :=
  Fin.ofNat 3 (c.activeSecurMaterialI.val + (keySeqNumber - c.activeKeySeqNumber).toNat)

/-- The key an indication carries is none: the device has it already. -/
def carriesNoKey (ind : TransportKeyInd) : Bool :=
  securNwkKeyIsEmpty ind.key && decide (ind.keySeqNumber = 0)

/-- Store the key; one that lands in the active slot under another number becomes
the active one. -/
def storeKey (ind : TransportKeyInd) (c : SecurContext) : SecurContext :=
  let i := transportSlot c ind.keySeqNumber
  let recovers := i = c.activeSecurMaterialI ∧ ind.keySeqNumber ≠ c.activeKeySeqNumber
  let c := { c with
    securMaterialSet := Function.update c.securMaterialSet i ⟨ind.key, ind.keySeqNumber⟩ }
  if recovers then
    { c with activeKeySeqNumber := ind.keySeqNumber, outgoingFrameCounter := 0 }
  else c

/-- The first key a device gets makes it authenticated, with that key active. -/
def authenticate (i : Fin 3) (keySeqNumber : UInt8) (c : SecurContext) : SecurContext :=
  if !c.authenticated then
    { c with
      authenticated := true
      activeKeySeqNumber := keySeqNumber
      outgoingFrameCounter := 0
      activeSecurMaterialI := i }
  else c

def zbApsmeTransportKeyIndication (ind : TransportKeyInd) (c : SecurContext) :
    Option SecurContext :=
  if ind.keyType = zbStandardNetworkKey then do
    let c ← learnTrustCenter ind.srcAddress c
    if carriesNoKey ind then return authenticate 0 ind.keySeqNumber c
    else return authenticate (transportSlot c ind.keySeqNumber) ind.keySeqNumber (storeKey ind c)
  else some c

/-! ## SWITCH-KEY -/

/-- The loop of `secur_nwk_key_switch`: it runs on while the slots from `shift`
on do hold the number. -/
def keySwitchScan (c : SecurContext) (keyNumber : UInt8) (shift : Fin 3) : Nat → Nat → Nat
  | 0, i => i
  | cnt + 1, i =>
      if (c.securMaterialSet (Fin.ofNat 3 (i + shift.val))).keySeqNumber = keyNumber then
        keySwitchScan c keyNumber shift cnt (i + 1)
      else i

/-- Make slot `i` active under the number. -/
def switchTo (i : Fin 3) (keyNumber : UInt8) (c : SecurContext) : SecurContext :=
  { c with
    activeSecurMaterialI := i
    activeKeySeqNumber := keyNumber
    prevOutgoingFrameCounter := c.outgoingFrameCounter
    outgoingFrameCounter := 0 }

def securNwkKeySwitch (keyNumber : UInt8) (random : ZbKey) (c : SecurContext) : SecurContext :=
  let shift := c.activeSecurMaterialI + 1
  let i := keySwitchScan c keyNumber shift 3 0
  if i = 3 then
    if c.isTc then switchTo shift keyNumber (securGenerateKey shift keyNumber random c)
    else c
  else switchTo (Fin.ofNat 3 i) keyNumber c

/-- switch-key.indication primitive. -/
def zbApsmeSwitchKeyIndication (keySeqNumber : UInt8) (random : ZbKey) (c : SecurContext) :
    SecurContext :=
  securNwkKeySwitch keySeqNumber random c

/-! ## Histories -/

inductive KeyCall where
  | transportKey (ind : TransportKeyInd)
  | switchKeyIndication (keySeqNumber : UInt8) (random : ZbKey)
  | keySwitch (keyNumber : UInt8) (random : ZbKey)

def keyStep (c : SecurContext) : KeyCall → Option SecurContext
  | .transportKey ind => zbApsmeTransportKeyIndication ind c
  | .switchKeyIndication keySeqNumber random =>
      some (zbApsmeSwitchKeyIndication keySeqNumber random c)
  | .keySwitch keyNumber random => some (securNwkKeySwitch keyNumber random c)

/-- How a device starts: as the Trust Center or not, with generated keys or not. -/
def securStart (trustCenter : Option ZbIeeeAddr) (generated : Option (Fin 3 → ZbKey))
    (addr : ZbAddrGlobals) : SecurContext :=
  let c := SecurContext.init addr
  let c := match trustCenter with
    | some extendedAddress => securTcInit extendedAddress c
    | none => c
  match generated with
  | some random => securGenerateKeys random c
  | none => c

end Zboss.Secur.KeyMaterial
