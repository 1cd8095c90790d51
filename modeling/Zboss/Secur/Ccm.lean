/-
# Secur.Ccm -- CCM* in a packet buffer

`zb_ccm_encrypt_n_auth` and `zb_ccm_decrypt_n_auth` with the two transformations
they share.  A buffer is its 148 bytes and a header; strings are read through a
cursor and a count of what is left, and blocks are written whole, past the end of
a partial one.  A read or a write outside of memory is a stop, and so is the
assertion of the allocation.  AES-128 is an argument.
-/
import Mathlib
import Zboss.Common.Constants
import Zboss.Common.Types
import Zboss.Theory.CcmStar
import Zboss.Secur.KeyMaterial

namespace Zboss.Secur.Ccm

open Zboss.Common.Constants
open Zboss.Common.Types
open Zboss.Theory.CcmStar
open Zboss.Secur.KeyMaterial

set_option autoImplicit false

def zbCcmL : Nat := 2

def zbCcmNonceLen : Nat := 13

def zbCcmM : Nat := 4

/-! ## Memory -/

section Memory

variable {n : Nat}

/-- Read `len` bytes. -/
def peek (mem : Vector UInt8 n) (at_ len : Nat) : Option (List UInt8) :=
  if at_ + len ≤ n then some ((mem.toList.drop at_).take len) else none

/-- Write bytes. -/
def poke (mem : Vector UInt8 n) (at_ : Nat) (bytes : List UInt8) : Option (Vector UInt8 n) :=
  if fits : at_ + bytes.length ≤ n then
    some ⟨(mem.toList.take at_ ++ bytes ++ mem.toList.drop (at_ + bytes.length)).toArray, by
      simp
      omega⟩
  else none

end Memory

/-- The packet buffer, with the fields of its header that CCM* reads. -/
structure ZbBuf where
  buf : Vector UInt8 zbIoBufSize
  len : UInt8
  dataOffset : UInt8

/-- `ZB_BUF_BEGIN`, as an offset into the buffer. -/
def ZbBuf.begin_ (b : ZbBuf) : Nat := b.dataOffset.toNat

/-- The current layer's bytes. -/
def ZbBuf.data (b : ZbBuf) : List UInt8 := (b.buf.toList.drop b.begin_).take b.len.toNat

def zbBufInitialAlloc (size : UInt8) (b : ZbBuf) : Option ZbBuf :=
  if size.toNat < zbIoBufSize then
    some { b with len := size, dataOffset := UInt8.ofNat ((zbIoBufSize - size.toNat) / 2) }
  else none

/-- `ZB_HTOBE16`. -/
def zbHtobe16 (val : UInt16) : List UInt8 := [(val >>> 8).toUInt8, val.toUInt8]

def xor16 (v1 v2 : Block) : Block := Vector.ofFn fun i => v1.get i ^^^ v2.get i

/-! ## Authentication transformation -/

/-- Whole blocks, then the rest with padding. -/
def authLoop (aes128 : Block → Block) (t : Block) (p : List UInt8) (len : Nat) : Block :=
  if 16 ≤ len then authLoop aes128 (aes128 (xor16 t (toBlock (p.take 16)))) (p.drop 16) (len - 16)
  else if len ≠ 0 then aes128 (xor16 t (toBlock (p.take len)))
  else t
  termination_by len

/-- B0 = Flags || Nonce N || l(m). -/
def authB0 (nonce : Vector UInt8 zbCcmNonceLen) (stringMLen : Nat) : Block :=
  toBlock (UInt8.ofNat (2 ^ 6 ||| (zbCcmL - 1) ||| ((zbCcmM - 2) / 2) <<< 3) ::
    (nonce.toList ++ zbHtobe16 (UInt16.ofNat stringMLen)))

/-- L(a) || a as far as it goes into the first block, and what is left of a. -/
def authFirst (stringA : List UInt8) : Block × Nat :=
  let la := zbHtobe16 (UInt16.ofNat stringA.length)
  if stringA.length ≤ 16 - 2 then (toBlock (la ++ stringA), 0)
  else (toBlock (la ++ stringA.take 14), stringA.length - 14)

/-- Auth transformation from A.2.2. -/
def authTrans (aes128 : Block → Block) (nonce : Vector UInt8 zbCcmNonceLen)
    (stringA stringM : List UInt8) : Block :=
  let t := aes128 (authB0 nonce stringM.length)
  let (tmp, len) := authFirst stringA
  let t := aes128 (xor16 t tmp)
  let t := authLoop aes128 t (stringA.drop (16 - 2)) len
  authLoop aes128 t stringM stringM.length

/-! ## Encryption transformation -/

section Encryption

variable {n : Nat} (aes128 : Block → Block) (nonce : Vector UInt8 zbCcmNonceLen)

/-- Ai. -/
def encryptAi (i : UInt16) : Block :=
  toBlock (UInt8.ofNat (zbCcmL - 1) :: (nonce.toList ++ zbHtobe16 i))

/-- Whole blocks, then the rest; a block of the rest is written whole, and the end
of the data returned. -/
def encryptLoop (mem : Vector UInt8 n) (pe : Nat) (p : List UInt8) (len : Nat) (i : UInt16) :
    Option (Vector UInt8 n × Nat) :=
  if 16 ≤ len then
    (poke mem pe (xor16 (aes128 (encryptAi nonce i)) (toBlock (p.take 16))).toList).bind fun mem =>
      encryptLoop mem (pe + 16) (p.drop 16) (len - 16) (i + 1)
  else if len ≠ 0 then
    (poke mem pe (xor16 (aes128 (encryptAi nonce i)) (toBlock (p.take len))).toList).bind fun mem =>
      some (mem, pe + len)
  else some (mem, pe)
  termination_by len

/-- A.2.3 Encryption Transformation, to memory at `encrypted`; the masked tag is
written as a whole block after the data. -/
def encryptTrans (stringM t : List UInt8) (mem : Vector UInt8 n) (encrypted : Nat) :
    Option (Vector UInt8 n) := do
  let (mem, pe) ← encryptLoop aes128 nonce mem encrypted stringM stringM.length 1
  poke mem pe (xor16 (aes128 (encryptAi nonce 0)) (toBlock (t.take zbCcmM))).toList

end Encryption

/-! ## Encrypt and decrypt -/

section Frames

variable (aes128 : ZbKey → Block → Block) (key : ZbKey) (nonce : Vector UInt8 zbCcmNonceLen)

def zbCcmEncryptNAuth (stringA stringM : List UInt8) (cryptedText : ZbBuf) :
    Option (ZbBuf × Except ZbRet Unit) := do
  let t := authTrans (aes128 key) nonce stringA stringM
  let c ← zbBufInitialAlloc (UInt8.ofNat (stringA.length + stringM.length + zbCcmM)) cryptedText
  let mem ← encryptTrans (aes128 key) nonce stringM t.toList c.buf (c.begin_ + stringA.length)
  let mem ← poke mem c.begin_ stringA
  return ({ c with buf := mem }, .ok ())

/-- Decrypt "on place".  `decryptedText` is the local buffer, with whatever the
stack held. -/
def zbCcmDecryptNAuth (decryptedText : Vector UInt8 zbIoBufSize) (b : ZbBuf)
    (stringALen stringCLen : Nat) : Option (ZbBuf × Except ZbRet Unit) := do
  if stringCLen < zbCcmM then none
  let stringA ← peek b.buf b.begin_ stringALen
  let stringC ← peek b.buf (b.begin_ + stringALen) (stringCLen - zbCcmM)
  let u ← peek b.buf (b.begin_ + stringALen + stringCLen - zbCcmM) zbCcmM
  let decryptedText ← encryptTrans (aes128 key) nonce stringC u decryptedText 0
  let decryptedTextLen := stringCLen - zbCcmM
  let decrypted ← peek decryptedText 0 decryptedTextLen
  let t := authTrans (aes128 key) nonce stringA decrypted
  let tag ← peek decryptedText decryptedTextLen zbCcmM
  let b := { b with len := b.len - UInt8.ofNat zbCcmM }
  if tag = t.toList.take zbCcmM then
    let mem ← poke b.buf (b.begin_ + stringALen) decrypted
    return ({ b with buf := mem }, .ok ())
  else
    let mem ← poke b.buf (b.begin_ + stringALen) (List.replicate decryptedTextLen 0xeb)
    return ({ b with buf := mem }, .error .error)

end Frames

end Zboss.Secur.Ccm
