/-
# Zdo.SendByShort -- a message and the parameters it is sent with

`zdo_send_resp_by_short` and `zdo_send_req_by_short` put the parameters of a data request into the
tail of the buffer, and the transaction number before the message.

* `sendByShort_some`: there is room for the parameters behind the message, or the sending stops;
* `sent_bytes` and `sent_apart`: the message goes out as it stands, and nothing else is written;
* `answerByShort_eq`: so an answer of at most `maxAnswer` bytes in the middle of the buffer.
-/
import Mathlib
import Zboss.Common.Constants
import Zboss.Zdo.BodyMemory
import Zboss.Aps.ApsFrame

namespace Zboss.Zdo.SendByShort

open Zboss.Common.Constants
open Zboss.Theory.ByteMemory
open Zboss.Common.PacketBuf (uint16Bytes)
open Zboss.Aps.ApsFrame (zbApsdeTxOptAckTx zbNwkIsAddressBroadcast)
open Zboss.Zdo.BodyMemory

set_option autoImplicit false

/-- `sizeof(zb_apsde_data_req_t)` -/
def apsdeDataReqSize : UInt8 := 18

def zbApsAddrMode16EndpPresent : UInt8 := 2

/-- `zb_apsde_data_req_t`, all of it zero but the address, the cluster, its mode and its options. -/
def dataReqBytes (clusterid addr : UInt16) : List UInt8 :=
  uint16Bytes addr ++ List.replicate 8 0 ++ uint16Bytes clusterid ++
    [0, 0, 0, zbApsAddrMode16EndpPresent,
      if zbNwkIsAddressBroadcast addr then 0 else zbApsdeTxOptAckTx, 0]

/-- What both functions do with the buffer. -/
def sendByShort (commandId addr : UInt16) (tsn : UInt8) (b : Body) : Option Body := do
  let dreq ← zbGetBufTail apsdeDataReqSize b
  let b ← zbBufSmartAllocLeft 1 (b.write dreq (dataReqBytes commandId addr))
  return b.write b.begin_ [tsn]

/-- A response has the number of its request. -/
def zdoSendRespByShort (commandId : UInt16) (tsn : UInt8) (addr : UInt16) (b : Body) : Option Body :=
  sendByShort commandId addr tsn b

/-- A request has the next number. -/
def zdoSendReqByShort (commandId addr : UInt16) (tsn : UInt8) (b : Body) : Option Body :=
  sendByShort commandId addr (tsn + 1) b

/-- The message that is sent. -/
def sent (commandId addr : UInt16) (tsn : UInt8) (b : Body) : Body where
  mem := put (b.begin_ - 1) [tsn]
    (put (zbIoBufSize - apsdeDataReqSize.toNat) (dataReqBytes commandId addr) b.mem)
  begin_ := b.begin_ - 1
  len := b.len + 1

/-- An answer of `size` bytes in the middle of the buffer; so many of its bytes are written. -/
def answerByShort (commandId : UInt16) (tsn : UInt8) (addr : UInt16) (size : UInt8)
    (bytes : List UInt8) (b : Body) : Option Body := do
  let resp ← zbBufInitialAlloc size b
  zdoSendRespByShort commandId tsn addr (resp.write resp.begin_ bytes)

/-- The answer, before it is sent. -/
def answerBody (size : UInt8) (bytes : List UInt8) (b : Body) : Body where
  mem := put ((zbIoBufSize - size.toNat) / 2) bytes b.mem
  begin_ := (zbIoBufSize - size.toNat) / 2
  len := size.toNat

/-- Behind a longer answer in the middle of the buffer there is no room for the parameters. -/
def maxAnswer : Nat := 113

/-- There is room behind the message for the parameters. -/
def SendRoom (b : Body) : Prop := b.len + b.begin_ + apsdeDataReqSize.toNat ≤ zbIoBufSize

instance (b : Body) : Decidable (SendRoom b) := inferInstanceAs (Decidable (_ ≤ _))

section Sent

variable {commandId addr : UInt16} {tsn : UInt8} {b r : Body}

@[simp] theorem length_dataReqBytes :
    (dataReqBytes commandId addr).length = apsdeDataReqSize.toNat := by
  simp [dataReqBytes, apsdeDataReqSize]

/-- **What is sent**, of a message that does not begin with the buffer. -/
theorem sendByShort_some (starts : 1 ≤ b.begin_) :
    sendByShort commandId addr tsn b = some r ↔ SendRoom b ∧ r = sent commandId addr tsn b := by
  have size : apsdeDataReqSize.toNat = 18 := rfl
  have bufSize : zbIoBufSize = 148 := rfl
  have one : (1 : UInt8).toNat = 1 := rfl
  rw [sendByShort, zbGetBufTail, SendRoom]
  by_cases room : b.len + b.begin_ + apsdeDataReqSize.toNat ≤ zbIoBufSize
  · rw [if_pos room]
    simp only [Option.bind_eq_bind, Option.bind_some, zbBufSmartAllocLeft, Body.write_len,
      Body.write_begin, one]
    rw [if_pos (by omega), if_neg (by omega), Option.bind_some]
    constructor
    · rintro ⟨⟩
      exact ⟨room, rfl⟩
    · rintro ⟨-, rfl⟩
      rfl
  · rw [if_neg room]
    exact iff_of_false (fun impossible => by cases impossible) fun both => room both.1

theorem sent_bytes (starts : 1 ≤ b.begin_) (room : SendRoom b) :
    (sent commandId addr tsn b).bytes = tsn :: b.bytes := by
  rw [SendRoom] at room
  have message : cellsAt b.begin_ b.len (sent commandId addr tsn b).mem = b.bytes := by
    rw [sent, cellsAt_put_apart (.inr (by rw [List.length_singleton]; omega)),
      cellsAt_put_apart (.inl (by omega)), Body.bytes]
  have number : cellsAt (b.begin_ - 1) 1 (sent commandId addr tsn b).mem = [tsn] :=
    cellsAt_put_self rfl
  calc (sent commandId addr tsn b).bytes
      = cellsAt (b.begin_ - 1) (1 + b.len) (sent commandId addr tsn b).mem := by
        rw [Body.bytes, sent, Nat.add_comm 1]
    _ = tsn :: b.bytes := by
        rw [cellsAt_add, number, Nat.sub_add_cancel starts, message, List.singleton_append]

/-- Outside of the message and of the tail nothing is written. -/
theorem sent_apart {a : Nat} (message : a + 1 ≠ b.begin_)
    (tail : a < zbIoBufSize - apsdeDataReqSize.toNat ∨ zbIoBufSize ≤ a) (starts : 1 ≤ b.begin_) :
    (sent commandId addr tsn b).mem a = b.mem a := by
  have size : apsdeDataReqSize.toNat = 18 := rfl
  have bufSize : zbIoBufSize = 148 := rfl
  have apart (m : Nat → UInt8) : put (b.begin_ - 1) [tsn] m a = m a := by
    rcases Nat.lt_or_ge a (b.begin_ - 1) with before | behind
    · exact put_before before
    · exact put_behind (by rw [List.length_singleton]; omega)
  refine (apart _).trans ?_
  rcases tail with before | behind
  · exact put_before before
  · exact put_behind (by rw [length_dataReqBytes]; omega)

/-- The address and the command stand in the parameters of the data request. -/
theorem sent_params (starts : 1 ≤ b.begin_) (room : SendRoom b) :
    word (sent commandId addr tsn b).mem (zbIoBufSize - apsdeDataReqSize.toNat) = addr ∧
      word (sent commandId addr tsn b).mem (zbIoBufSize - apsdeDataReqSize.toNat + 10) =
        commandId := by
  have size : apsdeDataReqSize.toNat = 18 := rfl
  have bufSize : zbIoBufSize = 148 := rfl
  rw [SendRoom] at room
  have params : Laid (zbIoBufSize - apsdeDataReqSize.toNat)
      [uint16Bytes addr, List.replicate 8 0, uint16Bytes commandId,
        (dataReqBytes commandId addr).drop 12] (sent commandId addr tsn b).mem := by
    rw [laid_iff, sent, cellsAt_put_apart (.inr (by rw [List.length_singleton]; omega))]
    exact cellsAt_put_self rfl
  obtain ⟨dstAddr, -, command, -⟩ := params
  rw [length_uint16Bytes] at dstAddr
  rw [length_uint16Bytes, length_uint16Bytes, List.length_replicate, Nat.add_assoc] at command
  exact ⟨word_of_bytes dstAddr, word_of_bytes command⟩

/-- **Which messages are sent**, wherever they begin. -/
theorem sendByShort_isSome : (sendByShort commandId addr tsn b).isSome = true ↔ SendRoom b := by
  have size : apsdeDataReqSize.toNat = 18 := rfl
  have bufSize : zbIoBufSize = 148 := rfl
  have one : (1 : UInt8).toNat = 1 := rfl
  rw [sendByShort, zbGetBufTail, SendRoom]
  by_cases room : b.len + b.begin_ + apsdeDataReqSize.toNat ≤ zbIoBufSize
  · rw [if_pos room]
    simp only [Option.bind_eq_bind, Option.bind_some, zbBufSmartAllocLeft, Body.write_len, one]
    rw [if_pos (by omega), Option.bind_some]
    exact iff_of_true rfl room
  · rw [if_neg room]
    exact iff_of_false Bool.false_ne_true room

end Sent

section Answer

variable {commandId addr : UInt16} {tsn size : UInt8} {bytes : List UInt8} {b : Body}

theorem answerBody_room : SendRoom (answerBody size bytes b) ↔ size.toNat ≤ maxAnswer := by
  have data : apsdeDataReqSize.toNat = 18 := rfl
  have bufSize : zbIoBufSize = 148 := rfl
  have most : maxAnswer = 113 := rfl
  rw [SendRoom, answerBody]
  dsimp only
  omega

/-- **An answer that goes out.** -/
theorem answerByShort_eq (few : size.toNat ≤ maxAnswer) :
    answerByShort commandId tsn addr size bytes b =
      some (sent commandId addr tsn (answerBody size bytes b)) := by
  have bufSize : zbIoBufSize = 148 := rfl
  have most : maxAnswer = 113 := rfl
  rw [answerByShort, zbBufInitialAlloc, if_pos (by omega)]
  exact (sendByShort_some (b := answerBody size bytes b)
    (show 1 ≤ (zbIoBufSize - size.toNat) / 2 by omega)).2 ⟨answerBody_room.2 few, rfl⟩

/-- Its bytes are those that have been written, and behind them what was there. -/
theorem answer_bytes (few : size.toNat ≤ maxAnswer) (whole : bytes.length ≤ size.toNat) :
    ∃ rest, (sent commandId addr tsn (answerBody size bytes b)).bytes = tsn :: (bytes ++ rest) := by
  have bufSize : zbIoBufSize = 148 := rfl
  have most : maxAnswer = 113 := rfl
  rw [sent_bytes (show 1 ≤ (zbIoBufSize - size.toNat) / 2 by omega) (answerBody_room.2 few)]
  refine ⟨cellsAt ((zbIoBufSize - size.toNat) / 2 + bytes.length) (size.toNat - bytes.length)
    (answerBody size bytes b).mem, congrArg _ ?_⟩
  calc (answerBody size bytes b).bytes
      = cellsAt ((zbIoBufSize - size.toNat) / 2) (bytes.length + (size.toNat - bytes.length))
          (answerBody size bytes b).mem := by
        rw [Body.bytes, Nat.add_sub_cancel' whole]
        rfl
    _ = _ := by
        rw [cellsAt_add]
        exact congrArg (· ++ _) (cellsAt_put_self rfl)

end Answer

end Zboss.Zdo.SendByShort
