/-
# Secur.CcmRoundTrip -- the code computes CCM*

The two loops are the block rules of `Theory.CcmStar` (`authLoop_spec`,
`encryptLoop_spec`); a block written past the data is overwritten by the next one
or by the tag, and what lies after the tag is scratch.  So the authentication
transformation is the tag of CCM* (`authTrans_spec`, for an associated string that
is not empty: the code always runs a block for it), and the encryption
transformation leaves the ciphertext and the masked tag (`encryptTrans_spec`).

`ccm_roundTrip`: what `zb_ccm_encrypt_n_auth` makes is `a || C || U`, decryption
restores it, and a buffer with another tag is refused and wiped.
-/
import Mathlib
import Zboss.Common.Constants
import Zboss.Secur.Ccm

namespace Zboss.Secur.CcmRoundTrip

open Zboss.Common.Constants
open Zboss.Common.Types
open Zboss.Theory.CcmStar
open Zboss.Secur.KeyMaterial
open Zboss.Secur.Ccm

set_option autoImplicit false

section Memory

variable {n : Nat} {mem mem' : Vector UInt8 n} {pos : Nat} {bytes : List UInt8}

/-! ## Memory -/

theorem poke_spec (fits : pos + bytes.length ≤ n) :
    ∃ mem' : Vector UInt8 n, poke mem pos bytes = some mem' ∧
      mem'.toList = mem.toList.take pos ++ bytes ++ mem.toList.drop (pos + bytes.length) := by
  rw [poke, dif_pos fits]
  exact ⟨_, rfl, rfl⟩

/-- A block written whole, as far as it is wanted. -/
theorem pokeBlock_spec (x : Block) {k : Nat} (part : k ≤ 16) (room : pos + 16 ≤ n) :
    ∃ mem' : Vector UInt8 n, poke mem pos x.toList = some mem' ∧
      mem'.toList.take (pos + k) = mem.toList.take pos ++ x.toList.take k := by
  obtain ⟨mem', poked, eq⟩ := @poke_spec n mem pos x.toList (by simpa using room)
  have length : (mem.toList.take pos).length = pos := by
    simp
    omega
  refine ⟨mem', poked, ?_⟩
  rw [eq, List.append_assoc, List.take_append, length, List.take_of_length_le (by omega),
    Nat.add_sub_cancel_left, List.take_append_of_le_length (by simpa using part)]

/-- A stretch of memory. -/
def slice (mem : Vector UInt8 n) (pos len : Nat) : List UInt8 := (mem.toList.drop pos).take len

theorem slice_of_take {len : Nat} {before : List UInt8}
    (taken : mem.toList.take (pos + len) = before ++ bytes) (at_ : before.length = pos) :
    slice mem pos len = bytes := by
  have cut : slice mem pos len = (mem.toList.take (pos + len)).drop pos := by
    rw [slice, List.drop_take, Nat.add_sub_cancel_left]
  rw [cut, taken, ← at_, List.drop_left]

theorem slice_add (mem : Vector UInt8 n) (pos len more : Nat) :
    slice mem pos (len + more) = slice mem pos len ++ slice mem (pos + len) more := by
  rw [slice, List.take_add, List.drop_drop]
  rfl

theorem take_slice (mem : Vector UInt8 n) (pos : Nat) {len k : Nat} (le : k ≤ len) :
    (slice mem pos len).take k = slice mem pos k := by
  rw [slice, slice, List.take_take, Nat.min_eq_left le]

theorem drop_slice (mem : Vector UInt8 n) (pos len k : Nat) :
    (slice mem pos len).drop k = slice mem (pos + k) (len - k) := by
  rw [slice, slice, List.drop_take, List.drop_drop]

theorem length_slice {len : Nat} (fits : pos + len ≤ n) : (slice mem pos len).length = len := by
  simp [slice]
  omega

theorem peek_slice {len : Nat} (fits : pos + len ≤ n) : peek mem pos len = some (slice mem pos len) :=
  if_pos fits

/-- What was written is there, and what lies before and after it is unchanged. -/
theorem poke_slices (fits : pos + bytes.length ≤ n) :
    ∃ mem' : Vector UInt8 n, poke mem pos bytes = some mem' ∧
      slice mem' pos bytes.length = bytes ∧
      (∀ at_ len, at_ + len ≤ pos → slice mem' at_ len = slice mem at_ len) ∧
      ∀ at_ len, pos + bytes.length ≤ at_ → slice mem' at_ len = slice mem at_ len := by
  obtain ⟨mem', poked, eq⟩ := @poke_spec n mem pos bytes fits
  have length : (mem.toList.take pos).length = pos := by
    simp
    omega
  have all : (mem.toList.take pos ++ bytes).length = pos + bytes.length := by
    rw [List.length_append, length]
  refine ⟨mem', poked, ?_, ?_, ?_⟩
  · have taken : mem'.toList.take (pos + bytes.length) = mem.toList.take pos ++ bytes := by
      rw [eq, ← all, List.take_left]
    exact slice_of_take taken length
  · intro at_ len below
    rw [slice, slice, eq, List.append_assoc, List.drop_append_of_le_length (by omega),
      List.take_append_of_le_length (by rw [List.length_drop]; omega), List.drop_take,
      List.take_take, Nat.min_eq_left (by omega)]
  · intro at_ len above
    rw [slice, slice, eq, List.drop_append, all, List.drop_of_length_le (by omega),
      List.nil_append, List.drop_drop]
    congr 2
    omega

end Memory

theorem xor16_eq (x y : Block) : xor16 x y = xorBlock x y := rfl

section Octets

/-! ## Lengths and counters -/

theorem octets_two (n : Nat) : octets 2 n = [UInt8.ofNat (n / 256), UInt8.ofNat n] := by
  simp [octets, List.range_succ]

theorem zbHtobe16_spec (n : Nat) : zbHtobe16 (UInt16.ofNat n) = octets 2 n := by
  rw [octets_two, zbHtobe16]
  congr 1
  · apply UInt8.toNat_inj.1
    simp
    omega
  · congr 1
    apply UInt8.toNat_inj.1
    simp

variable {nonce : Vector UInt8 zbCcmNonceLen}

theorem encryptAi_spec (i : Nat) : encryptAi nonce (UInt16.ofNat i) = counterBlock 2 nonce.toList i := by
  rw [encryptAi, zbHtobe16_spec]
  rfl

theorem authB0_spec {a : List UInt8} (some_ : a ≠ []) (m : List UInt8) :
    authB0 nonce m.length = b0 2 4 nonce.toList a m := by
  rw [authB0, zbHtobe16_spec, b0, authFlags, if_neg some_]
  rfl

end Octets

section Authentication

variable {aes128 : Block → Block}

/-! ## Authentication -/

theorem authLoop_spec (t : Block) (p : List UInt8) :
    authLoop aes128 t p p.length = (blocks (pad p)).foldl (fun x b => aes128 (xorBlock x b)) t := by
  induction count : p.length using Nat.strong_induction_on generalizing t p with
  | _ n ih =>
      subst count
      rw [authLoop]
      rcases Nat.lt_or_ge p.length 16 with short | long
      · rw [if_neg (by omega)]
        rcases Nat.eq_zero_or_pos p.length with empty | some_
        · rw [if_neg (by omega), List.length_eq_zero_iff.1 empty]
          rfl
        · rw [if_pos (by omega), blocks_pad_short some_ short, List.take_length]
          rfl
      · have rest := ih (p.drop 16).length (by rw [List.length_drop]; omega)
          (aes128 (xor16 t (toBlock (p.take 16)))) (p.drop 16) rfl
        rw [List.length_drop] at rest
        rw [if_pos long, rest, blocks_pad_long long, List.foldl_cons, toBlock_take (Or.inl (le_refl 16))]
        rfl

/-- The first block of the associated string, and the cursor on the rest of it. -/
theorem authFirst_spec {a : List UInt8} (t : Block) :
    authLoop aes128 (aes128 (xor16 t (authFirst a).1)) (a.drop (16 - 2)) (authFirst a).2 =
      (blocks (pad (octets 2 a.length ++ a))).foldl (fun x b => aes128 (xorBlock x b)) t := by
  have two : (octets 2 a.length).length = 2 := by simp [octets]
  have total : (octets 2 a.length ++ a).length = 2 + a.length := by rw [List.length_append, two]
  simp only [authFirst, zbHtobe16_spec]
  by_cases one : a.length ≤ 16 - 2
  · rw [if_pos one, blocks_pad_one (by omega) (by omega), authLoop, if_neg (by omega), if_neg (by omega)]
    rfl
  · have cut : octets 2 a.length ++ a.take 14 = (octets 2 a.length ++ a).take 16 := by
      rw [List.take_append, two, List.take_of_length_le (l := octets 2 a.length) (by omega)]
    have rest : (octets 2 a.length ++ a).drop 16 = a.drop 14 := by
      rw [List.drop_append, two, List.drop_of_length_le (by omega), List.nil_append]
    have left : a.length - 14 = (a.drop (16 - 2)).length := by rw [List.length_drop]
    rw [if_neg one, cut, toBlock_take (Or.inl (le_refl 16)), blocks_pad_long (by omega), rest, left,
      authLoop_spec, List.foldl_cons]
    rfl

/-- **The authentication transformation is that of CCM\***. -/
theorem authTrans_spec {nonce : Vector UInt8 zbCcmNonceLen} {a : List UInt8} (some_ : a ≠ [])
    (m : List UInt8) :
    (authTrans aes128 nonce a m).toList.take zbCcmM = tag 2 4 aes128 nonce.toList a m := by
  have start : xorBlock (Vector.replicate 16 0) (b0 2 4 nonce.toList a m) =
      b0 2 4 nonce.toList a m := by
    ext j h
    simp [xorBlock_getElem]
  rw [tag, cbcMac, List.foldl_cons, start, authData, if_neg some_, blocks_append_pad,
    List.foldl_append, ← authFirst_spec, ← authLoop_spec, ← authB0_spec some_]
  rfl

end Authentication

section Encryption

variable {n : Nat} {aes128 : Block → Block} {nonce : Vector UInt8 zbCcmNonceLen}

/-! ## Encryption -/

/-- **The encryption loop** appends the ciphertext to what is before it; it needs
room for a whole block more. -/
theorem encryptLoop_spec (mem : Vector UInt8 n) (pe : Nat) (p : List UInt8) (i : Nat)
    (room : pe + p.length + 16 ≤ n) :
    ∃ mem' : Vector UInt8 n,
      encryptLoop aes128 nonce mem pe p p.length (UInt16.ofNat i) = some (mem', pe + p.length) ∧
        mem'.toList.take (pe + p.length) =
          mem.toList.take pe ++ ctr 2 aes128 nonce.toList i p := by
  induction count : p.length using Nat.strong_induction_on generalizing mem pe p i with
  | _ len ih =>
      subst count
      rw [encryptLoop, encryptAi_spec]
      rcases Nat.lt_or_ge p.length 16 with short | long
      · rw [if_neg (by omega)]
        rcases Nat.eq_zero_or_pos p.length with empty | some_
        · rw [if_neg (by omega), List.length_eq_zero_iff.1 empty, ctr_nil, List.append_nil]
          exact ⟨mem, rfl, rfl⟩
        · -- the rest: a whole block is written, of which the rest counts
          rw [if_pos (by omega), List.take_length, ctr_short some_ short]
          obtain ⟨mem', poked, taken⟩ := @pokeBlock_spec n mem pe
            (xor16 (aes128 (counterBlock 2 nonce.toList i)) (toBlock p)) p.length short.le (by omega)
          rw [poked]
          exact ⟨mem', rfl, taken⟩
      · obtain ⟨mem₁, poked, taken⟩ := @pokeBlock_spec n mem pe
          (xor16 (aes128 (counterBlock 2 nonce.toList i)) (toBlock (p.take 16))) 16 (le_refl 16)
          (by omega)
        have length : (p.drop 16).length = p.length - 16 := List.length_drop
        obtain ⟨mem', ran, rest⟩ := ih (p.drop 16).length (by omega) mem₁ (pe + 16) (p.drop 16) (i + 1)
          (by omega) rfl
        have next : UInt16.ofNat i + 1 = UInt16.ofNat (i + 1) := (UInt16.ofNat_add i 1).symm
        have far : pe + 16 + (p.drop 16).length = pe + p.length := by omega
        rw [far] at ran rest
        rw [if_pos long, poked, Option.bind_some, next, ← length, ran]
        refine ⟨mem', rfl, ?_⟩
        rw [rest, taken, ctr_long long, List.append_assoc, take_block,
          toBlock_take (Or.inl (le_refl 16))]
        rfl

/-- **The encryption transformation** leaves the ciphertext and the masked tag
after what was before. -/
theorem encryptTrans_spec (m t : List UInt8) (mem : Vector UInt8 n) (encrypted : Nat)
    (room : encrypted + m.length + 16 ≤ n) (whole : zbCcmM ≤ t.length) :
    ∃ mem' : Vector UInt8 n, encryptTrans aes128 nonce m t mem encrypted = some mem' ∧
      mem'.toList.take (encrypted + m.length + zbCcmM) =
        mem.toList.take encrypted ++ (ctr 2 aes128 nonce.toList 1 m ++
          mask 2 aes128 nonce.toList (t.take zbCcmM)) := by
  obtain ⟨mem₁, ran, taken⟩ := @encryptLoop_spec n aes128 nonce mem encrypted m 1 room
  obtain ⟨mem', poked, tail⟩ := @pokeBlock_spec n mem₁ (encrypted + m.length)
    (xor16 (aes128 (encryptAi nonce 0)) (toBlock (t.take zbCcmM))) zbCcmM (by decide) room
  have zero : encryptAi nonce 0 = counterBlock 2 nonce.toList 0 := encryptAi_spec 0
  refine ⟨mem', ?_, ?_⟩
  · rw [UInt16.ofNat_one] at ran
    simp only [encryptTrans, ran, Option.bind_eq_bind, Option.bind_some]
    exact poked
  · have tagLength : (t.take zbCcmM).length = zbCcmM := by rw [List.length_take, Nat.min_eq_left whole]
    have masked := take_xorBlock (aes128 (counterBlock 2 nonce.toList 0))
      (show (t.take zbCcmM).length ≤ 16 by rw [tagLength]; decide)
    rw [tagLength] at masked
    rw [tail, taken, List.append_assoc, zero, xor16_eq, masked]
    rfl

end Encryption

section Frames

variable {aes128 : ZbKey → Block → Block} {key : ZbKey} {nonce : Vector UInt8 zbCcmNonceLen}

/-! ## Encrypt and decrypt -/

/-- The whole frame, and the block the code writes its last byte in. -/
def ScratchFits (a m : List UInt8) : Prop :=
  (zbIoBufSize - (a.length + m.length + zbCcmM)) / 2 + (a.length + m.length + zbCcmM) + 12 ≤
    zbIoBufSize

theorem zbBufInitialAlloc_spec {size : Nat} (fits : size < zbIoBufSize) (b : ZbBuf) :
    ∃ c, zbBufInitialAlloc (UInt8.ofNat size) b = some c ∧ c.len.toNat = size ∧
      c.begin_ = (zbIoBufSize - size) / 2 := by
  simp only [zbIoBufSize] at fits ⊢
  have whole : (UInt8.ofNat size).toNat = size :=
    UInt8.toNat_ofNat_of_lt' (by simp only [UInt8.size]; omega)
  have offset : (UInt8.ofNat ((148 - size) / 2)).toNat = (148 - size) / 2 :=
    UInt8.toNat_ofNat_of_lt' (by simp only [UInt8.size]; omega)
  refine ⟨_, if_pos (by rw [whole]; exact fits), whole, ?_⟩
  simp only [ZbBuf.begin_, whole, zbIoBufSize]
  exact offset

/-- **Encryption makes `a || C || U`.** -/
theorem encrypt_spec {a m : List UInt8} (some_ : a ≠ []) (fits : ScratchFits a m) (crypted : ZbBuf) :
    ∃ c : ZbBuf, zbCcmEncryptNAuth aes128 key nonce a m crypted = some (c, .ok ()) ∧
      c.len.toNat = a.length + (m.length + zbCcmM) ∧
      c.begin_ + a.length + m.length + 16 ≤ zbIoBufSize ∧
      c.data = a ++ sealed 2 4 (aes128 key) nonce.toList a m := by
  simp only [ScratchFits, zbIoBufSize, zbCcmM] at fits
  obtain ⟨c, alloc, len, offset⟩ := @zbBufInitialAlloc_spec (a.length + m.length + zbCcmM)
    (by simp only [zbIoBufSize, zbCcmM]; omega) crypted
  have room : c.begin_ + a.length + m.length + 16 ≤ zbIoBufSize := by
    simp only [zbIoBufSize, zbCcmM] at offset ⊢
    omega
  obtain ⟨mem₁, ran, taken⟩ := @encryptTrans_spec zbIoBufSize (aes128 key) nonce m
    (authTrans (aes128 key) nonce a m).toList c.buf (c.begin_ + a.length) room (by simp [zbCcmM])
  rw [authTrans_spec some_, Nat.add_assoc] at taken
  have cipher : slice mem₁ (c.begin_ + a.length) (m.length + zbCcmM) =
      sealed 2 4 (aes128 key) nonce.toList a m :=
    slice_of_take taken (by rw [List.length_take, Vector.length_toList]; omega)
  obtain ⟨mem₂, poked, here, -, after⟩ := @poke_slices zbIoBufSize mem₁ c.begin_ a (by omega)
  have length : c.len.toNat = a.length + (m.length + zbCcmM) := by rw [len, Nat.add_assoc]
  refine ⟨{ c with buf := mem₂ }, ?_, length, room, ?_⟩
  · simp only [zbCcmEncryptNAuth, alloc, ran, poked, Option.bind_eq_bind, Option.bind_some]
    rfl
  · show slice mem₂ c.begin_ c.len.toNat = _
    rw [length, slice_add, here, after _ _ (le_refl _), cipher]

/-- **Decryption**: the message if the tag is that of the message, and no byte of it
otherwise. -/
theorem decrypt_spec {stack : Vector UInt8 zbIoBufSize} {b : ZbBuf} {aLen cLen : Nat} {a c m : List UInt8}
    (tagged : zbCcmM ≤ cLen) (inside : b.begin_ + aLen + cLen ≤ zbIoBufSize)
    (scratch : cLen + 12 ≤ zbIoBufSize)
    (string : slice b.buf b.begin_ aLen = a) (cipher : slice b.buf (b.begin_ + aLen) cLen = c)
    (plain : ctr 2 (aes128 key) nonce.toList 1 (c.take (cLen - zbCcmM)) = m) :
    ∃ d : ZbBuf,
      zbCcmDecryptNAuth aes128 key nonce stack b aLen cLen =
          some (d, if mask 2 (aes128 key) nonce.toList (c.drop (cLen - zbCcmM)) =
            (authTrans (aes128 key) nonce a m).toList.take zbCcmM then .ok () else .error .error) ∧
        d.len = b.len - UInt8.ofNat zbCcmM ∧ d.begin_ = b.begin_ ∧
        slice d.buf d.begin_ (aLen + (cLen - zbCcmM)) =
          a ++ if mask 2 (aes128 key) nonce.toList (c.drop (cLen - zbCcmM)) =
            (authTrans (aes128 key) nonce a m).toList.take zbCcmM then m
          else List.replicate (cLen - zbCcmM) 0xeb := by
  have four : zbCcmM = 4 := rfl
  have cipherLength : c.length = cLen := by rw [← cipher, length_slice (by omega)]
  have maskedLength : (c.drop (cLen - zbCcmM)).length = zbCcmM := by
    rw [List.length_drop, cipherLength]
    omega
  have dataLength : (c.take (cLen - zbCcmM)).length = cLen - zbCcmM := by
    rw [List.length_take, cipherLength]
    omega
  have messageLength : m.length = cLen - zbCcmM := by rw [← plain, length_ctr, dataLength]
  -- the three strings that are read
  have readA : peek b.buf b.begin_ aLen = some a := by rw [peek_slice (by omega), string]
  have readC : peek b.buf (b.begin_ + aLen) (cLen - zbCcmM) = some (c.take (cLen - zbCcmM)) := by
    rw [peek_slice (by omega), ← cipher, take_slice _ _ (by omega)]
  have readU : peek b.buf (b.begin_ + aLen + cLen - zbCcmM) zbCcmM =
      some (c.drop (cLen - zbCcmM)) := by
    have at_ : b.begin_ + aLen + cLen - zbCcmM = b.begin_ + aLen + (cLen - zbCcmM) := by omega
    have rest : cLen - (cLen - zbCcmM) = zbCcmM := by omega
    rw [peek_slice (by omega), ← cipher, drop_slice, at_, rest]
  -- and what is decrypted of them
  obtain ⟨local_, ran, taken⟩ := @encryptTrans_spec zbIoBufSize (aes128 key) nonce
    (c.take (cLen - zbCcmM)) (c.drop (cLen - zbCcmM)) stack 0 (by omega) maskedLength.ge
  rw [plain, dataLength, List.take_zero, List.nil_append, List.take_of_length_le maskedLength.le,
    Nat.add_assoc] at taken
  have all : slice local_ 0 (cLen - zbCcmM + zbCcmM) =
      m ++ mask 2 (aes128 key) nonce.toList (c.drop (cLen - zbCcmM)) :=
    slice_of_take taken List.length_nil
  have readM : peek local_ 0 (cLen - zbCcmM) = some m := by
    rw [peek_slice (by omega), ← take_slice local_ 0 (Nat.le_add_right (cLen - zbCcmM) zbCcmM), all,
      ← messageLength, List.take_left]
  have readT : peek local_ (cLen - zbCcmM) zbCcmM =
      some (mask 2 (aes128 key) nonce.toList (c.drop (cLen - zbCcmM))) := by
    have cut := drop_slice local_ 0 (cLen - zbCcmM + zbCcmM) (cLen - zbCcmM)
    rw [Nat.zero_add, Nat.add_sub_cancel_left] at cut
    rw [peek_slice (by omega), ← cut, all, ← messageLength, List.drop_left]
  have enough : ¬ cLen < zbCcmM := by omega
  -- what is written back has the length of the message
  have written : ∀ bytes : List UInt8, bytes.length = cLen - zbCcmM →
      ∃ mem, poke b.buf (b.begin_ + aLen) bytes = some mem ∧
        slice mem b.begin_ (aLen + (cLen - zbCcmM)) = a ++ bytes := by
    intro bytes length
    obtain ⟨mem, poked, here, before, -⟩ :=
      @poke_slices zbIoBufSize b.buf (b.begin_ + aLen) bytes (by omega)
    exact ⟨mem, poked, by rw [slice_add, before _ _ (le_refl _), string, ← length, here]⟩
  by_cases same : mask 2 (aes128 key) nonce.toList (c.drop (cLen - zbCcmM)) =
      (authTrans (aes128 key) nonce a m).toList.take zbCcmM
  · obtain ⟨mem, poked, back⟩ := written m messageLength
    rw [if_pos same, if_pos same]
    refine ⟨{ b with buf := mem, len := b.len - UInt8.ofNat zbCcmM }, ?_, rfl, rfl, back⟩
    simp only [zbCcmDecryptNAuth, readA, readC, readU, ran, readM, readT, if_neg enough, if_pos same,
      Option.bind_eq_bind, Option.bind_some]
    show (poke b.buf (b.begin_ + aLen) m).bind _ = _
    rw [poked]
    rfl
  · obtain ⟨mem, poked, back⟩ := written (List.replicate (cLen - zbCcmM) 0xeb) (by simp)
    rw [if_neg same, if_neg same]
    refine ⟨{ b with buf := mem, len := b.len - UInt8.ofNat zbCcmM }, ?_, rfl, rfl, back⟩
    simp only [zbCcmDecryptNAuth, readA, readC, readU, ran, readM, readT, if_neg enough, if_neg same,
      Option.bind_eq_bind, Option.bind_some]
    show (poke b.buf (b.begin_ + aLen) (List.replicate (cLen - zbCcmM) 0xeb)).bind _ = _
    rw [poked]
    rfl

/-- A frame in a buffer: the associated string, and the ciphertext with its tag. -/
structure Framed (b : ZbBuf) (a c : List UInt8) : Prop where
  tagged : zbCcmM ≤ c.length
  inside : b.begin_ + a.length + c.length ≤ zbIoBufSize
  scratch : c.length + 12 ≤ zbIoBufSize
  data : b.data = a ++ c
  len : b.len.toNat = a.length + c.length

theorem Framed.slices {b : ZbBuf} {a c : List UInt8} (framed : Framed b a c) :
    slice b.buf b.begin_ a.length = a ∧ slice b.buf (b.begin_ + a.length) c.length = c := by
  have data : slice b.buf b.begin_ (a.length + c.length) = a ++ c := by
    rw [← framed.len]
    exact framed.data
  rw [slice_add] at data
  have inside := framed.inside
  exact List.append_inj data (length_slice (by omega))

/-- **Decryption of a frame**, whatever it holds. -/
theorem decrypt_framed {b : ZbBuf} {a c : List UInt8} (stack : Vector UInt8 zbIoBufSize)
    (framed : Framed b a c) :
    let m := ctr 2 (aes128 key) nonce.toList 1 (c.take (c.length - zbCcmM))
    let same := mask 2 (aes128 key) nonce.toList (c.drop (c.length - zbCcmM)) =
      (authTrans (aes128 key) nonce a m).toList.take zbCcmM
    ∃ d : ZbBuf,
      zbCcmDecryptNAuth aes128 key nonce stack b a.length c.length =
          some (d, if same then .ok () else .error .error) ∧
        d.len.toNat = b.len.toNat - zbCcmM ∧ d.begin_ = b.begin_ ∧
        d.data = a ++ if same then m else List.replicate (c.length - zbCcmM) 0xeb := by
  intro m same
  obtain ⟨string, cipher⟩ := framed.slices
  have tagged := framed.tagged
  have len := framed.len
  obtain ⟨d, ran, shorter, begins, back⟩ := @decrypt_spec aes128 key nonce stack b a.length c.length a c m
    tagged framed.inside framed.scratch string cipher rfl
  have left : d.len.toNat = a.length + (c.length - zbCcmM) := by
    have four : (UInt8.ofNat zbCcmM).toNat = zbCcmM := rfl
    rw [shorter, UInt8.toNat_sub_of_le _ _ (UInt8.le_iff_toNat_le.2 (by rw [four]; omega)), four]
    omega
  refine ⟨d, ran, by omega, begins, ?_⟩
  show slice d.buf d.begin_ d.len.toNat = _
  rw [left]
  exact back

theorem length_sealed (a m : List UInt8) :
    (sealed 2 4 (aes128 key) nonce.toList a m).length = m.length + zbCcmM := by
  have tagLength : (tag 2 4 (aes128 key) nonce.toList a m).length = zbCcmM := length_tag (by decide)
  rw [sealed, List.length_append, length_ctr, length_mask (by rw [tagLength]; decide), tagLength]

/-- What was sealed decrypts to the message, under the tag of the message. -/
theorem sealed_opens {a : List UInt8} (some_ : a ≠ []) (m : List UInt8) :
    let c := sealed 2 4 (aes128 key) nonce.toList a m
    ctr 2 (aes128 key) nonce.toList 1 (c.take (c.length - zbCcmM)) = m ∧
      mask 2 (aes128 key) nonce.toList (c.drop (c.length - zbCcmM)) =
        (authTrans (aes128 key) nonce a
          (ctr 2 (aes128 key) nonce.toList 1 (c.take (c.length - zbCcmM)))).toList.take zbCcmM := by
  intro c
  have opens : opened 2 4 (aes128 key) nonce.toList a c = some m := opened_sealed (by decide)
  rw [authTrans_spec some_]
  simp only [opened] at opens
  by_cases same : mask 2 (aes128 key) nonce.toList (c.drop (c.length - zbCcmM)) =
      tag 2 4 (aes128 key) nonce.toList a (ctr 2 (aes128 key) nonce.toList 1 (c.take (c.length - zbCcmM)))
  · rw [if_pos (by exact same)] at opens
    exact ⟨Option.some.inj opens, same⟩
  · rw [if_neg (by exact same)] at opens
    cases opens

/-- **Decryption of what was encrypted.** -/
theorem decrypt_sealed {c : ZbBuf} {a m : List UInt8} (stack : Vector UInt8 zbIoBufSize)
    (some_ : a ≠ []) (framed : Framed c a (sealed 2 4 (aes128 key) nonce.toList a m)) :
    ∃ d : ZbBuf,
      zbCcmDecryptNAuth aes128 key nonce stack c a.length (m.length + zbCcmM) = some (d, .ok ()) ∧
        d.data = a ++ m ∧ d.len.toNat = c.len.toNat - zbCcmM := by
  obtain ⟨message, same⟩ := @sealed_opens aes128 key nonce a some_ m
  obtain ⟨d, ran, len, -, data⟩ := decrypt_framed stack framed
  rw [if_pos same, length_sealed] at ran
  rw [if_pos same, message] at data
  exact ⟨d, ran, data, len⟩

/-- **CCM\* round trip and reference equality**, for any block function.  A frame is
encrypted to `a || C || U` of CCM\*, and decrypted to what it was, four bytes
shorter; any frame whose tag is not the one computed for what it decrypts to is
refused, with the message part wiped; the tag computed is that of CCM\*. -/
theorem ccm_roundTrip (aes128 : ZbKey → Block → Block) (key : ZbKey)
    (nonce : Vector UInt8 zbCcmNonceLen) (stack : Vector UInt8 zbIoBufSize) :
    (∀ (a m : List UInt8) (crypted : ZbBuf), a ≠ [] → ScratchFits a m →
      ∃ c d : ZbBuf,
        zbCcmEncryptNAuth aes128 key nonce a m crypted = some (c, .ok ()) ∧
          c.data = a ++ sealed 2 4 (aes128 key) nonce.toList a m ∧
          zbCcmDecryptNAuth aes128 key nonce stack c a.length (m.length + zbCcmM) =
            some (d, .ok ()) ∧
          d.data = a ++ m ∧ d.len.toNat = c.len.toNat - zbCcmM) ∧
      (∀ (b : ZbBuf) (a c : List UInt8), Framed b a c →
        mask 2 (aes128 key) nonce.toList (c.drop (c.length - zbCcmM)) ≠
            (authTrans (aes128 key) nonce a
              (ctr 2 (aes128 key) nonce.toList 1 (c.take (c.length - zbCcmM)))).toList.take zbCcmM →
          ∃ d : ZbBuf,
            zbCcmDecryptNAuth aes128 key nonce stack b a.length c.length =
                some (d, .error .error) ∧
              d.data = a ++ List.replicate (c.length - zbCcmM) 0xeb) ∧
      ∀ a m : List UInt8, a ≠ [] →
        (authTrans (aes128 key) nonce a m).toList.take zbCcmM =
          tag 2 4 (aes128 key) nonce.toList a m := by
  refine ⟨fun a m crypted some_ fits => ?_, fun b a c framed other => ?_,
    fun a m some_ => authTrans_spec some_ m⟩
  · obtain ⟨c, sealing, len, room, data⟩ := @encrypt_spec aes128 key nonce a m some_ fits crypted
    have four : zbCcmM = 4 := rfl
    have framed : Framed c a (sealed 2 4 (aes128 key) nonce.toList a m) := by
      refine ⟨?_, ?_, ?_, data, ?_⟩ <;> rw [length_sealed] <;> omega
    obtain ⟨d, opening, whole, shorter⟩ := decrypt_sealed stack some_ framed
    exact ⟨c, d, sealing, data, opening, whole, shorter⟩
  · obtain ⟨d, ran, -, -, data⟩ := decrypt_framed stack framed
    rw [if_neg other] at ran data
    exact ⟨d, ran, data⟩

/-- Pole: with the identity for a block function, a frame of three bytes goes there
and back, and four zeros are not the tag of an empty message. -/
theorem ccm_roundTrip_identity :
    (∃ c d : ZbBuf,
      zbCcmEncryptNAuth (fun _ b => b) (Vector.replicate 16 0) (Vector.replicate 13 0) [1] [2, 3]
          ⟨Vector.replicate 148 0, 0, 0⟩ = some (c, .ok ()) ∧
        zbCcmDecryptNAuth (fun _ b => b) (Vector.replicate 16 0) (Vector.replicate 13 0)
          (Vector.replicate 148 0) c 1 6 = some (d, .ok ()) ∧ d.data = [1, 2, 3]) ∧
      ∃ d : ZbBuf,
        zbCcmDecryptNAuth (fun _ b => b) (Vector.replicate 16 0) (Vector.replicate 13 0)
            (Vector.replicate 148 0) ⟨Vector.replicate 148 0, 5, 3⟩ 1 4 = some (d, .error .error) ∧
          d.data = [0] := by
  have correct := ccm_roundTrip (fun _ b => b) (Vector.replicate 16 0) (Vector.replicate 13 0)
    (Vector.replicate 148 0)
  constructor
  · obtain ⟨c, d, sealing, -, opening, data, -⟩ :=
      correct.1 [1] [2, 3] ⟨Vector.replicate 148 0, 0, 0⟩ (by decide) (by unfold ScratchFits; decide)
    exact ⟨c, d, sealing, opening, data⟩
  · apply correct.2.1 ⟨Vector.replicate 148 0, 5, 3⟩ [0] [0, 0, 0, 0]
    · exact ⟨by decide, by decide, by decide, by decide, by decide⟩
    · rw [correct.2.2 _ _ (by decide)]
      decide

end Frames

end Zboss.Secur.CcmRoundTrip
