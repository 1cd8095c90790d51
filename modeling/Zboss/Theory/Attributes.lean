/-
# Theory.Attributes -- setting an attribute and getting it

An information base holds attributes, and has a primitive that sets one from the bytes of a request
and one that gets it into the bytes of a confirm.  `SetGetRight` says what the two should do
together: what was set is what one gets, in its full width, and no other attribute has changed; an
attribute that is not supported is refused by both.

For an attribute that both accept this comes down to the bytes of the confirm
(`setGetRight_iff_value`); where one of them refuses, there is nothing to get
(`setGetRight_of_one_refuses`).
-/
import Mathlib

namespace Zboss.Theory.Attributes

set_option autoImplicit false

/-- The octets of a value of so many bits. -/
def width (bits : Nat) : Nat := (bits + 7) / 8

/-- A value of the declared width. -/
structure Value (bits : Nat) where
  bytes : List UInt8
  length_eq : bytes.length = width bits
  fits : bits < 8 → ∀ b ∈ bytes, b.toNat < 2 ^ bits

structure SetConfirm (A : Type) where
  status : UInt8
  attr : A
  deriving DecidableEq

@[ext]
structure GetConfirm (A : Type) where
  status : UInt8
  attr : A
  length : Nat
  value : List UInt8
  deriving DecidableEq

/-- The two primitives of a layer, and what its information base declares.  The bytes that the get
primitive does not write are `left` in the buffer. -/
structure Primitives (σ A : Type) where
  success : UInt8
  unsupported : UInt8
  bits : A → Nat
  supported : A → Bool
  content : σ → A → List UInt8
  setRequest : σ → A → List UInt8 → SetConfirm A × σ
  getRequest : σ → A → (Nat → UInt8) → GetConfirm A

/-- Set then get, for one attribute. -/
structure SetGetRight {σ A : Type} (P : Primitives σ A) (s : σ) (a : A) (v : Value (P.bits a))
    (left : Nat → UInt8) : Prop where
  returned : (P.setRequest s a v.bytes).1.status = P.success → (P.getRequest s a left).status = P.success →
    P.getRequest (P.setRequest s a v.bytes).2 a left =
      ⟨P.success, a, width (P.bits a), v.bytes⟩
  others : (P.setRequest s a v.bytes).1.status = P.success → (P.getRequest s a left).status = P.success →
    ∀ b ≠ a, P.content (P.setRequest s a v.bytes).2 b = P.content s b
  refused : P.supported a = false →
    P.setRequest s a v.bytes = (⟨P.unsupported, a⟩, s) ∧
      (P.getRequest s a left).status = P.unsupported

section Right

variable {σ A : Type} {P : Primitives σ A} {s : σ} {a : A} {v : Value (P.bits a)}
  {left : Nat → UInt8}

/-- Both accept the attribute: it comes down to the bytes of the confirm. -/
theorem setGetRight_iff_value (supported : P.supported a = true)
    (set_ok : (P.setRequest s a v.bytes).1.status = P.success)
    (get_ok : ∀ t, (P.getRequest t a left).status = P.success ∧
      (P.getRequest t a left).attr = a ∧
        (P.getRequest t a left).length = width (P.bits a))
    (others : ∀ b ≠ a, P.content (P.setRequest s a v.bytes).2 b = P.content s b) :
    SetGetRight P s a v left ↔
      (P.getRequest (P.setRequest s a v.bytes).2 a left).value = v.bytes := by
  constructor
  · intro right
    rw [right.returned set_ok (get_ok s).1]
  · intro same
    have ⟨status, attr, length⟩ := get_ok (P.setRequest s a v.bytes).2
    refine ⟨fun _ _ => GetConfirm.ext status attr length same, fun _ _ => others, fun not => ?_⟩
    · rw [supported] at not
      cases not

/-- One of them refuses it: there is nothing to get. -/
theorem setGetRight_of_one_refuses
    (one : (P.setRequest s a v.bytes).1.status ≠ P.success ∨ (P.getRequest s a left).status ≠ P.success)
    (refused : P.supported a = false →
      P.setRequest s a v.bytes = (⟨P.unsupported, a⟩, s) ∧
        (P.getRequest s a left).status = P.unsupported) :
    SetGetRight P s a v left := by
  refine ⟨fun set_ok get_ok => ?_, fun set_ok get_ok => ?_, refused⟩
  · rcases one with not | not
    · exact absurd set_ok not
    · exact absurd get_ok not
  · rcases one with not | not
    · exact absurd set_ok not
    · exact absurd get_ok not

end Right

/-! ## The bytes of a value -/

section Values

variable {p : List UInt8} {n bits : Nat} {left : Nat → UInt8}

/-- `n` bytes of a buffer, the first of which has been written. -/
def byteInto (n : Nat) (b : UInt8) (left : Nat → UInt8) : List UInt8 :=
  b :: (List.range (n - 1)).map fun i => left (i + 1)

/-- The bytes behind the first are those of the value already. -/
def restLeft (n : Nat) (left : Nat → UInt8) (p : List UInt8) : Bool :=
  (List.range (n - 1)).all fun i => p.getD (i + 1) 0 == left (i + 1)

/-- A confirm with `length` announced bytes, of which one is written. -/
def byteConfirm {A : Type} (status : UInt8) (a : A) (length : Nat) (b : UInt8)
    (left : Nat → UInt8) : GetConfirm A :=
  ⟨status, a, length, byteInto length b left⟩

/-- A confirm without a value. -/
def noneConfirm {A : Type} (status : UInt8) (a : A) : GetConfirm A := ⟨status, a, 0, []⟩

/-- **Of a value of which one byte is written, the others have to be there already.** -/
theorem byteInto_iff (some_ : 0 < n) (length : p.length = n) :
    byteInto n (p.getD 0 0) left = p ↔ restLeft n left p = true := by
  cases p with
  | nil => exact absurd length (by simpa using some_.ne)
  | cons b p =>
      have rest : n - 1 = p.length := by rw [← length]; rfl
      rw [byteInto, restLeft, List.getD_cons_zero, List.cons.injEq, and_iff_right rfl, rest,
        List.all_eq_true]
      constructor
      · intro same i mem
        have inside := List.mem_range.1 mem
        rw [List.getD_cons_succ, beq_iff_eq, List.getD_eq_getElem _ _ inside]
        have at_ := congrArg (fun l : List UInt8 => l[i]?) same
        simpa [inside] using at_.symm
      · intro all
        apply List.ext_getElem
        · rw [List.length_map, List.length_range]
        · intro i _ inside
          have here := all i (List.mem_range.2 inside)
          rw [List.getD_cons_succ, beq_iff_eq, List.getD_eq_getElem _ _ inside] at here
          rw [List.getElem_map, List.getElem_range, here]

/-- Where another byte has been written, it has to be that of the value. -/
theorem byteInto_other_iff {b : UInt8} (some_ : 0 < n) (length : p.length = n) :
    byteInto n b left = p ↔ (p.getD 0 0 == b && restLeft n left p) = true := by
  rw [Bool.and_eq_true, beq_iff_eq, ← byteInto_iff some_ length]
  constructor
  · intro is
    have first : p.getD 0 0 = b := by rw [← is]; rfl
    exact ⟨first, by rw [first]; exact is⟩
  · rintro ⟨rfl, is⟩
    exact is

/-- A value of one byte is got as it was written. -/
theorem byteInto_one {v : Value bits} (one : width bits = 1) :
    byteInto 1 (v.bytes.getD 0 0) left = v.bytes :=
  (byteInto_iff Nat.one_pos (v.length_eq.trans one)).2 rfl

/-- A number of few bits goes through a field of them. -/
theorem byteInto_bits {v : Value bits} (one : width bits = 1) (few : bits < 8) :
    byteInto 1 (UInt8.ofNat (BitVec.ofNat bits (v.bytes.getD 0 0).toNat).toNat) left =
      v.bytes := by
  have first : v.bytes.getD 0 0 ∈ v.bytes := by
    have some_ : 0 < v.bytes.length := by rw [v.length_eq, one]; exact Nat.one_pos
    rw [List.getD_eq_getElem _ _ some_]
    exact List.getElem_mem some_
  rw [BitVec.toNat_ofNat, Nat.mod_eq_of_lt (v.fits few _ first), UInt8.ofNat_toNat]
  exact byteInto_one one

/-- A vector filled from the bytes of a value holds these bytes. -/
theorem toList_ofFn_getD (length : p.length = n) :
    (Vector.ofFn fun i : Fin n => p.getD i.val 0).toList = p := by
  subst length
  rw [Vector.toList_ofFn]
  apply List.ext_getElem
  · rw [List.length_ofFn]
  · intro i _ inside
    rw [List.getElem_ofFn]
    exact List.getD_eq_getElem _ _ inside

end Values

end Zboss.Theory.Attributes
