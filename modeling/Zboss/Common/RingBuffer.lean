/-
# Common.RingBuffer -- the ring buffer of `zb_ringbuffer.h`

`entries` reads the buffer as a list, oldest first.  A put appends to it unless the
buffer is full (`entries_put`), a flush drops its head (`entries_flushGet`).
-/
import Mathlib
import Zboss.Common.Types
import Zboss.Theory.Circular

namespace Zboss.Common.RingBuffer

open Zboss.Common.Types
open Zboss.Theory.Circular

set_option autoImplicit false

structure ZbRingBuffer (α : Type) (capacity : Nat) where
  ringBuf : Nat → α
  readI : Nat
  writeI : Nat
  written : Nat

variable {α : Type} {capacity : Nat} (rb : ZbRingBuffer α capacity)

namespace ZbRingBuffer

/-- `ZB_RING_BUFFER_INIT`, over whatever the slots hold. -/
def init (ringBuf : Nat → α) : ZbRingBuffer α capacity := ⟨ringBuf, 0, 0, 0⟩

def isFull : Bool := decide (capacity ≤ rb.written)

def isEmpty : Bool := decide (rb.written = 0)

/-- Fill the slot at the write index and flush the put. -/
def put (value : α) : ZbRingBuffer α capacity :=
  { rb with
    ringBuf := Function.update rb.ringBuf rb.writeI value
    written := rb.written + 1
    writeI := (rb.writeI + 1) % capacity }

def get : α := rb.ringBuf rb.readI

def peek : Option α := if rb.isEmpty then none else some rb.get

/-- The macro does not check for an empty buffer. -/
def flushGet : ZbRingBuffer α capacity :=
  { rb with written := decUshort rb.written, readI := (rb.readI + 1) % capacity }

/-! ## The buffer as a list -/

/-- What is written and not yet flushed, oldest first. -/
def entries : List α := window capacity rb.ringBuf rb.readI rb.written

end ZbRingBuffer

/-- **The invariant of the indices.** -/
structure RingOk : Prop where
  inside : rb.readI < capacity
  fits : rb.written ≤ capacity
  behind : rb.writeI = (rb.readI + rb.written) % capacity

variable {rb}

@[simp] theorem entries_length : rb.entries.length = rb.written := window_length

theorem isFull_iff : rb.isFull = true ↔ capacity ≤ rb.entries.length := by
  simp [ZbRingBuffer.isFull]

theorem peek_eq : rb.peek = rb.entries.head? := by
  unfold ZbRingBuffer.peek ZbRingBuffer.isEmpty ZbRingBuffer.get ZbRingBuffer.entries
  cases rb.written <;> simp [window]

theorem ringOk_init (ringBuf : Nat → α) (some_ : 0 < capacity) :
    RingOk (ZbRingBuffer.init ringBuf : ZbRingBuffer α capacity) :=
  ⟨some_, Nat.zero_le _, (Nat.zero_mod _).symm⟩

theorem ringOk_put (ok : RingOk rb) (room : rb.isFull = false) (value : α) :
    RingOk (rb.put value) := by
  have room : rb.written < capacity := by simpa [ZbRingBuffer.isFull] using room
  refine ⟨ok.inside, room, ?_⟩
  show (rb.writeI + 1) % capacity = (rb.readI + (rb.written + 1)) % capacity
  rw [ok.behind, Nat.mod_add_mod, Nat.add_assoc]

theorem entries_put (ok : RingOk rb) (room : rb.isFull = false) (value : α) :
    (rb.put value).entries = rb.entries ++ [value] := by
  have room : rb.written < capacity := by simpa [ZbRingBuffer.isFull] using room
  unfold ZbRingBuffer.entries ZbRingBuffer.put
  rw [ok.behind]
  exact window_push ok.inside room value

theorem ringOk_flushGet (ok : RingOk rb) (some_ : rb.isEmpty = false) : RingOk rb.flushGet := by
  have some_ : rb.written ≠ 0 := by simpa [ZbRingBuffer.isEmpty] using some_
  obtain ⟨n, written⟩ := Nat.exists_eq_succ_of_ne_zero some_
  have fits := ok.fits
  have dec : decUshort rb.written = n := by rw [written, decUshort_succ]
  refine ⟨Nat.mod_lt _ (Nat.zero_lt_of_lt ok.inside), ?_, ?_⟩
  · show decUshort rb.written ≤ capacity
    omega
  · show rb.writeI = ((rb.readI + 1) % capacity + decUshort rb.written) % capacity
    rw [ok.behind, dec, written, Nat.mod_add_mod, Nat.add_assoc, Nat.add_comm 1]

theorem entries_flushGet (some_ : rb.isEmpty = false) :
    rb.entries = rb.get :: rb.flushGet.entries := by
  have some_ : rb.written ≠ 0 := by simpa [ZbRingBuffer.isEmpty] using some_
  obtain ⟨n, written⟩ := Nat.exists_eq_succ_of_ne_zero some_
  unfold ZbRingBuffer.entries ZbRingBuffer.get ZbRingBuffer.flushGet
  simp only [written, decUshort_succ, window]

end Zboss.Common.RingBuffer
