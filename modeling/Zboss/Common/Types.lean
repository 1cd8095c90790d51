/-
# Common.Types -- the stack's basic types

The platform is 32-bit Linux: `zb_ushort_t`, `int`, `long` and pointers have 32
bits, the machine is little-endian, and a failed `ZB_ASSERT` stops the program.  A
function that can stop returns `none` there; a status other than `RET_OK` is a
`ZbRet`.

What is compiled differs between the builds of `zb_config.h`.  A module that rests
on a switch says how it stands, or has it as a parameter.
-/
import Mathlib

namespace Zboss.Common.Types

set_option autoImplicit false

/-- The statuses the modelled functions return besides `RET_OK`. -/
inductive ZbRet where
  | error
  | notFound
  | overflow
  | noMemory
  | invalidBinding
  | tableFull
  | illegalRequest
  deriving DecidableEq, Repr

/-- A 64-bit address as its eight bytes: three of the manufacturer, five of the
device. -/
abbrev ZbIeeeAddr := Vector UInt8 8

def ZbIeeeAddr.manufacturer (ieee : ZbIeeeAddr) : Vector UInt8 3 := #v[ieee[0], ieee[1], ieee[2]]

def ZbIeeeAddr.deviceId (ieee : ZbIeeeAddr) : Vector UInt8 5 :=
  #v[ieee[3], ieee[4], ieee[5], ieee[6], ieee[7]]

/-- The eight bytes with this manufacturer and this device. -/
def ZbIeeeAddr.make (m : Vector UInt8 3) (d : Vector UInt8 5) : ZbIeeeAddr :=
  #v[m[0], m[1], m[2], d[0], d[1], d[2], d[3], d[4]]

theorem ZbIeeeAddr.make_parts (ieee : ZbIeeeAddr) :
    ZbIeeeAddr.make (ZbIeeeAddr.manufacturer ieee) (ZbIeeeAddr.deviceId ieee) = ieee := by
  apply Vector.ext
  intro i hi
  match i, hi with
  | 0, _ | 1, _ | 2, _ | 3, _ | 4, _ | 5, _ | 6, _ | 7, _ => rfl

theorem ZbIeeeAddr.make_inj {m m' : Vector UInt8 3} {d d' : Vector UInt8 5}
    (same : ZbIeeeAddr.make m d = ZbIeeeAddr.make m' d') : m = m' ∧ d = d' := by
  have byte : ∀ (i : Nat) (hi : i < 8),
      (ZbIeeeAddr.make m d)[i] = (ZbIeeeAddr.make m' d')[i] := fun i hi => by rw [same]
  constructor
  · apply Vector.ext
    intro i hi
    match i, hi with
    | 0, _ => exact byte 0 (by omega)
    | 1, _ => exact byte 1 (by omega)
    | 2, _ => exact byte 2 (by omega)
  · apply Vector.ext
    intro i hi
    match i, hi with
    | 0, _ => exact byte 3 (by omega)
    | 1, _ => exact byte 4 (by omega)
    | 2, _ => exact byte 5 (by omega)
    | 3, _ => exact byte 6 (by omega)
    | 4, _ => exact byte 7 (by omega)

/-- The unknown short address, `(zb_uint16_t)~0`. -/
def zbUnknownShortAddr : UInt16 := 0xFFFF

/-- `x--` on a 32-bit `zb_ushort_t`. -/
def decUshort (x : Nat) : Nat := if x = 0 then 2 ^ 32 - 1 else x - 1

theorem decUshort_succ (x : Nat) : decUshort (x + 1) = x := if_neg (Nat.succ_ne_zero x)

end Zboss.Common.Types
