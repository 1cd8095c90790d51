/-
# Common.Bufpool -- the pool of packet buffers

A buffer is named by its index.  It begins with a union of its header and the link
of the free list.  On the 32-bit platform the link takes the first four of the eight
bytes (`len`, `data_offset`, `handle`, `mac_hdr_offset`), and `is_in_buf` is a bit of
the seventh, so writing the link leaves the kind of the buffer readable.  Whoever
holds a buffer writes the first bytes as it likes (`fill`).

The pool is one list for both kinds, with a counter and a limit for each.  Requests
that find no buffer wait in `delayed_buf`, which belongs to the scheduler.
-/
import Mathlib
import Zboss.Common.Scheduler

namespace Zboss.Common.Bufpool

open Zboss.Common.Types
open Zboss.Common.RingBuffer
open Zboss.Common.ListMacros
open Zboss.Common.Scheduler

set_option autoImplicit false

variable {F : Type}

def zbBufsLimit : Nat := zbIobufPoolSize / 2
def zbBufQSize : Nat := 16

/-- The union at the head of a buffer. -/
structure ZbBufU where
  /-- The first four bytes, as a link. -/
  next : Option Nat
  isInBuf : Bool
  deriving DecidableEq

/-- `pool` and `head` are the pool's; `delayedBuf` to `bufFreelist` are the
scheduler's, whose link fields are `links` (`prev` is not used). -/
structure ZbBufpool (F : Type) where
  pool : Nat → ZbBufU
  head : Option Nat
  bufsAllocated : Bool → Nat
  delayedBuf : Nat → F
  links : ZbLinks Nat
  inbufQueue : ZbSlList Nat
  outbufQueue : ZbSlList Nat
  bufFreelist : Option Nat
  cbQ : ZbCbQ F
  rxNeedBuf : Bool

/-- The queue of those who wait for a buffer of a kind. -/
def ZbBufpool.queue (s : ZbBufpool F) (isIn : Bool) : ZbSlList Nat :=
  if isIn then s.inbufQueue else s.outbufQueue

def ZbBufpool.setQueue (isIn : Bool) (queue : ZbSlList Nat) (s : ZbBufpool F) : ZbBufpool F :=
  if isIn then { s with inbufQueue := queue } else { s with outbufQueue := queue }

/-! ## Initialisation -/

/-- The zero-initialised context. -/
def ZbBufpool.zero (null : F) : ZbBufpool F where
  pool _ := ⟨none, false⟩
  head := none
  bufsAllocated _ := 0
  delayedBuf _ := null
  links := ⟨fun _ => none, fun _ => none⟩
  inbufQueue := .init
  outbufQueue := .init
  bufFreelist := none
  cbQ := .init fun _ => ⟨null, 0⟩
  rxNeedBuf := false

/-- Link the buffers from `p` on, so many to come. -/
def linkPool : Nat → Nat → (Nat → ZbBufU) → Nat → ZbBufU
  | 0, p, pool => Function.update pool p { pool p with next := none }
  | i + 1, p, pool => linkPool i (p + 1) (Function.update pool p { pool p with next := some (p + 1) })

def zbInitBuffers (s : ZbBufpool F) : ZbBufpool F :=
  if s.head.isSome then s
  else { s with head := some 0, pool := linkPool (zbIobufPoolSize - 1) 0 s.pool }

/-- The second loop of `zb_sched_init`. -/
def schedInitBufs (s : ZbBufpool F) : ZbBufpool F :=
  (List.range zbBufQSize).foldl (fun s i =>
    let (links, list) := zbStkPush s.links s.bufFreelist i
    { s with links, bufFreelist := list }) s

/-! ## Taking and freeing buffers -/

/-- `ZB_ASSERT(head || bufs_allocated[0] || bufs_allocated[1])`. -/
def initialised (s : ZbBufpool F) : Bool :=
  s.head.isSome || s.bufsAllocated false != 0 || s.bufsAllocated true != 0

def zbGetBuf (isIn : Bool) (s : ZbBufpool F) : Option (ZbBufpool F × Option Nat) :=
  if initialised s then
    if s.bufsAllocated isIn < zbBufsLimit then
      match s.head with
      | some buf =>
          some ({ s with
            head := (s.pool buf).next
            -- the union is zeroed, the kind written anew
            pool := Function.update s.pool buf ⟨none, isIn⟩
            bufsAllocated := Function.update s.bufsAllocated isIn (s.bufsAllocated isIn + 1) },
            some buf)
      | none => some (s, none)
    else some (s, none)
  else none

def zbGetInBuf (s : ZbBufpool F) : Option (ZbBufpool F × Option Nat) := zbGetBuf true s

def zbGetOutBuf (s : ZbBufpool F) : Option (ZbBufpool F × Option Nat) := zbGetBuf false s

def zbGetBufDelayed (callback : F) (isIn : Bool) (s : ZbBufpool F) :
    Option (ZbBufpool F × Except ZbRet Unit) := do
  let (s, buf) ← zbGetBuf isIn s
  match buf with
  | some buf =>
      let (cbQ, ret) ← zbScheduleCallback callback (UInt8.ofNat buf) s.cbQ
      return ({ s with cbQ }, ret)
  | none =>
      match zbStkPop s.links s.bufFreelist with
      | (some ent, rest) =>
          let (links, queue) := zbSlListInsertTail s.links (s.queue isIn) ent
          let s := { s with
            bufFreelist := rest
            delayedBuf := Function.update s.delayedBuf ent callback
            links }
          return (s.setQueue isIn queue, .ok ())
      | (none, _) => return (s, .error .error)

/-- The first who waits for a buffer of this kind; nobody gets an input buffer while
the MAC needs one. -/
def cutWaiter (isIn : Bool) (s : ZbBufpool F) : Option Nat × ZbBufpool F :=
  if isIn && s.rxNeedBuf then (none, s)
  else
    let (ent, queue) := zbSlListCutHead s.links (s.queue isIn)
    (ent, s.setQueue isIn queue)

/-- Give a buffer to the waiter cut; a null buffer has no reference. -/
def serveWaiter (isIn : Bool) (ent : Nat) (s : ZbBufpool F) : Option (ZbBufpool F) := do
  let (s, buf) ← zbGetBuf isIn s
  let buf ← buf
  let (cbQ, _) ← zbScheduleCallback (s.delayedBuf ent) (UInt8.ofNat buf) s.cbQ
  let (links, list) := zbStkPush s.links s.bufFreelist ent
  return { s with cbQ, links, bufFreelist := list }

/-- Put a buffer to the free list. -/
def pushBuf (buf : Nat) (s : ZbBufpool F) : ZbBufpool F :=
  { s with
    pool := Function.update s.pool buf { s.pool buf with next := s.head }
    head := some buf }

def zbFreeBuf (buf : Nat) (s : ZbBufpool F) : Option (ZbBufpool F) :=
  let isIn := (s.pool buf).isInBuf
  if initialised s ∧ 0 < s.bufsAllocated isIn then
    let s := pushBuf buf { s with
      bufsAllocated := Function.update s.bufsAllocated isIn (s.bufsAllocated isIn - 1) }
    -- the kind is read again, behind the link
    let isIn := (s.pool buf).isInBuf
    match cutWaiter isIn s with
    | (some ent, s) => serveWaiter isIn ent s
    | (none, s) => some s
  else none

/-! ## Histories -/

inductive BufCall (F : Type) where
  | getIn
  | getOut
  | getInDelayed (callback : F)
  | getOutDelayed (callback : F)
  | free (buf : Nat)
  /-- The holder of a buffer writes its first bytes. -/
  | fill (buf : Nat) (first : Option Nat)
  | rxNeedBuf (need : Bool)
  /-- Another part of the stack schedules a callback. -/
  | schedule (func : F) (param : UInt8)
  /-- The main loop has run the first callback. -/
  | done

def bufStep (s : ZbBufpool F) : BufCall F → Option (ZbBufpool F)
  | .getIn => (zbGetInBuf s).map Prod.fst
  | .getOut => (zbGetOutBuf s).map Prod.fst
  | .getInDelayed callback => (zbGetBufDelayed callback true s).map Prod.fst
  | .getOutDelayed callback => (zbGetBufDelayed callback false s).map Prod.fst
  | .free buf => zbFreeBuf buf s
  | .fill buf first =>
      some { s with pool := Function.update s.pool buf { s.pool buf with next := first } }
  | .rxNeedBuf need => some { s with rxNeedBuf := need }
  | .schedule func param =>
      (zbScheduleCallback func param s.cbQ).map fun (cbQ, _) => { s with cbQ }
  | .done => some (if s.cbQ.isEmpty then s else { s with cbQ := s.cbQ.flushGet })

end Zboss.Common.Bufpool
