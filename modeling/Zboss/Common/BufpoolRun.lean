/-
# Common.BufpoolRun -- no buffer is lost, and waiters are served in turn

`PoolParts` is the invariant of the pool: following the links from `head` visits the
free buffers, and these with the buffers the program holds are the pool, each once.
`WaitParts` is the invariant of the waiters: the two queues and the list of spare
entries share `delayed_buf` among them.  Taking a buffer, giving it back and serving
a waiter have one rule each (`zbGetBuf_spec`, `giveBack_spec`, `WaitParts.serve`),
and the calls are put together from these.

`bufpool_of_run` is about every run in which the program frees and writes only
buffers it has been given, and in which the callback queue does not overflow.
-/
import Mathlib
import Zboss.Theory.Run
import Zboss.Common.CallbackQueue
import Zboss.Common.Bufpool

namespace Zboss.Common.BufpoolRun

open Zboss.Theory.Run
open Zboss.Theory.LinkedList
open Zboss.Common.Types
open Zboss.Common.RingBuffer
open Zboss.Common.ListMacros
open Zboss.Common.Scheduler
open Zboss.Common.CallbackQueue
open Zboss.Common.Bufpool

set_option autoImplicit false

variable {F : Type}

/-! ## What the program sees -/

/-- The callbacks a step has put to the queue. -/
def scheduled (s t : ZbBufpool F) : List (ZbCbQEnt F) := t.cbQ.entries.drop s.cbQ.entries.length

/-- The callbacks a call puts to the queue. -/
def passed (s : ZbBufpool F) (call : BufCall F) : List (ZbCbQEnt F) :=
  (bufStep s call).toList.flatMap (scheduled s)

/-- The buffers a call returns, or passes to a callback. -/
def given (s : ZbBufpool F) : BufCall F → List Nat
  | .getIn => ((zbGetInBuf s).bind Prod.snd).toList
  | .getOut => ((zbGetOutBuf s).bind Prod.snd).toList
  | .getInDelayed callback => (passed s (.getInDelayed callback)).map (·.param.toNat)
  | .getOutDelayed callback => (passed s (.getOutDelayed callback)).map (·.param.toNat)
  | .free buf => (passed s (.free buf)).map (·.param.toNat)
  | _ => []

/-- The pool, and the buffers the program has been given and has not freed. -/
structure Pooled (F : Type) where
  bufpool : ZbBufpool F
  allocated : List Nat

/-- What the program holds after it has asked for a call. -/
def kept (allocated : List Nat) : BufCall F → List Nat
  | .free buf => allocated.erase buf
  | _ => allocated

def pooledStep (s : Pooled F) (call : BufCall F) : Option (Pooled F) :=
  (bufStep s.bufpool call).map fun bufpool =>
    ⟨bufpool, given s.bufpool call ++ kept s.allocated call⟩

def Pooled.start (null : F) : Pooled F := ⟨schedInitBufs (zbInitBuffers (.zero null)), []⟩

/-- The callback queue is full when the pool has a buffer to hand over. -/
def overflows (s : ZbBufpool F) : BufCall F → Bool
  | .getInDelayed _ => s.cbQ.isFull && decide (s.bufsAllocated true < zbBufsLimit)
  | .getOutDelayed _ => s.cbQ.isFull && decide (s.bufsAllocated false < zbBufsLimit)
  | .free buf => s.cbQ.isFull && (cutWaiter (s.pool buf).isInBuf s).1.isSome
  | _ => false

/-- The program frees and writes what it holds, and the callback queue has room. -/
def Allowed (s : Pooled F) (call : BufCall F) : Prop :=
  overflows s.bufpool call = false ∧
    match call with
    | .free buf => buf ∈ s.allocated
    | .fill buf _ => buf ∈ s.allocated
    | _ => True

instance (s : Pooled F) (call : BufCall F) : Decidable (Allowed s call) := by
  unfold Allowed
  cases call <;> infer_instance

/-- The callbacks that wait for a buffer of a kind. -/
def waits (isIn : Bool) (s : ZbBufpool F) : List F :=
  (walk s.links.next zbBufQSize (s.queue isIn).head).map s.delayedBuf

/-- A request that returns `RET_OK` and schedules nothing waits. -/
def joins (callback : F) (isIn : Bool) (s : ZbBufpool F) : List F :=
  match zbGetBufDelayed callback isIn s with
  | some (t, .ok ()) => if (scheduled s t).isEmpty then [callback] else []
  | _ => []

/-- The callback a call puts among those who wait for a buffer of a kind. -/
def enters (isIn : Bool) (s : Pooled F) : BufCall F → List F
  | .getInDelayed callback => if isIn = true then joins callback true s.bufpool else []
  | .getOutDelayed callback => if isIn = false then joins callback false s.bufpool else []
  | _ => []

/-- The callback that a freed buffer of a kind is given to. -/
def serves (isIn : Bool) (s : Pooled F) : BufCall F → List F
  | .free buf =>
      if isIn = (s.bufpool.pool buf).isInBuf then (passed s.bufpool (.free buf)).map (·.func)
      else []
  | _ => []

/-! ## The buffers -/

def ofKind (pool : Nat → ZbBufU) (isIn : Bool) (buf : Nat) : Bool := (pool buf).isInBuf == isIn

/-- **The invariant of the pool**: `free` is the free list. -/
structure PoolParts (s : ZbBufpool F) (free allocated : List Nat) : Prop where
  path : Path (fun i => (s.pool i).next) s.head free none
  parts : (free ++ allocated).Perm (List.range zbIobufPoolSize)
  counted : ∀ k, s.bufsAllocated k = allocated.countP (ofKind s.pool k)
  limited : ∀ k, s.bufsAllocated k ≤ zbBufsLimit

section Buffers

variable {s t : ZbBufpool F} {free allocated : List Nat} {buf : Nat} {isIn : Bool}

theorem PoolParts.nodup (parts : PoolParts s free allocated) : (free ++ allocated).Nodup :=
  parts.parts.nodup_iff.2 List.nodup_range

theorem PoolParts.lt (parts : PoolParts s free allocated) (mem : buf ∈ allocated) :
    buf < zbIobufPoolSize :=
  List.mem_range.1 (parts.parts.subset (List.mem_append_right free mem))

theorem PoolParts.length (parts : PoolParts s free allocated) :
    s.bufsAllocated false + s.bufsAllocated true + free.length = zbIobufPoolSize := by
  have all := parts.parts.length_eq
  rw [List.length_append, List.length_range] at all
  have split := List.length_eq_countP_add_countP (ofKind s.pool false) (l := allocated)
  have others : (fun i => decide ¬ofKind s.pool false i = true) = ofKind s.pool true := by
    funext i
    unfold ofKind
    cases (s.pool i).isInBuf <;> rfl
  rw [others] at split
  rw [parts.counted, parts.counted]
  omega

theorem PoolParts.initialised (parts : PoolParts s free allocated) : initialised s = true := by
  have length := parts.length
  cases free with
  | nil =>
      have some_ : s.bufsAllocated false ≠ 0 ∨ s.bufsAllocated true ≠ 0 := by
        simp only [List.length_nil, zbIobufPoolSize] at length
        omega
      rcases some_ with some_ | some_ <;> simp [Bufpool.initialised, some_]
  | cons buf free => simp [Bufpool.initialised, parts.path.1]

/-- While a kind is below its limit there is a free buffer. -/
theorem PoolParts.some_free (parts : PoolParts s free allocated)
    (room : s.bufsAllocated isIn < zbBufsLimit) : ∃ buf rest, free = buf :: rest := by
  cases free with
  | cons buf rest => exact ⟨buf, rest, rfl⟩
  | nil =>
      have length := parts.length
      have first := parts.limited false
      have second := parts.limited true
      simp only [List.length_nil, zbIobufPoolSize, zbBufsLimit] at length first second room
      cases isIn <;> omega

/-- The invariant speaks of the pool only. -/
theorem PoolParts.congr (parts : PoolParts s free allocated) (pool : t.pool = s.pool)
    (head : t.head = s.head) (counts : t.bufsAllocated = s.bufsAllocated) :
    PoolParts t free allocated := by
  obtain ⟨path, perm, counted, limited⟩ := parts
  exact ⟨by rw [pool, head]; exact path, perm, by rw [pool, counts]; exact counted,
    by rw [counts]; exact limited⟩

/-- Writing a buffer does not move the others. -/
theorem countP_update {u : ZbBufU} (pool : Nat → ZbBufU) (notIn : buf ∉ allocated) :
    allocated.countP (ofKind (Function.update pool buf u) isIn) =
      allocated.countP (ofKind pool isIn) := by
  apply List.countP_congr
  intro i mem
  have ne : i ≠ buf := fun same => notIn (same ▸ mem)
  simp only [ofKind, Function.update_of_ne ne]

/-- **Taking a buffer**: below the limit of the kind it is the first of the free
list, else there is none. -/
theorem zbGetBuf_spec (isIn : Bool) (parts : PoolParts s free allocated) :
    (zbBufsLimit ≤ s.bufsAllocated isIn ∧ zbGetBuf isIn s = some (s, none)) ∨
      (s.bufsAllocated isIn < zbBufsLimit ∧ ∃ buf rest pool head bufsAllocated,
        free = buf :: rest ∧
        zbGetBuf isIn s = some ({ s with pool, head, bufsAllocated }, some buf) ∧
        PoolParts { s with pool, head, bufsAllocated } rest (buf :: allocated) ∧
        (pool buf).isInBuf = isIn) := by
  rcases Nat.lt_or_ge (s.bufsAllocated isIn) zbBufsLimit with room | full
  · obtain ⟨buf, rest, rfl⟩ := parts.some_free room
    have head := parts.path.1
    have nodup := parts.nodup
    rw [List.cons_append, List.nodup_cons, List.mem_append, not_or] at nodup
    refine .inr ⟨room, buf, rest, Function.update s.pool buf ⟨none, isIn⟩, (s.pool buf).next,
      Function.update s.bufsAllocated isIn (s.bufsAllocated isIn + 1), rfl, ?_, ?_, ?_⟩
    · simp [zbGetBuf, parts.initialised, room, head]
    · refine ⟨?_, List.perm_middle.trans parts.parts, fun k => ?_, fun k => ?_⟩
      · refine path_congr (fun i mem => ?_) parts.path.2
        have ne : i ≠ buf := fun same => nodup.1.1 (same ▸ mem)
        simp only [Function.update_of_ne ne]
      · dsimp only
        rw [List.countP_cons, countP_update _ nodup.1.2, ← parts.counted k]
        rcases eq_or_ne k isIn with rfl | other
        · simp [ofKind]
        · simp [ofKind, other, other.symm]
      · rcases eq_or_ne k isIn with rfl | other
        · dsimp only
          rw [Function.update_self]
          exact room
        · dsimp only
          rw [Function.update_of_ne other]
          exact parts.limited k
    · simp
  · refine .inl ⟨full, ?_⟩
    simp [zbGetBuf, parts.initialised, Nat.not_lt.2 full]

/-- The first part of `zb_free_buf`. -/
def giveBack (buf : Nat) (s : ZbBufpool F) : ZbBufpool F :=
  let isIn := (s.pool buf).isInBuf
  pushBuf buf { s with
    bufsAllocated := Function.update s.bufsAllocated isIn (s.bufsAllocated isIn - 1) }

theorem giveBack_isInBuf (s : ZbBufpool F) (buf i : Nat) : ((giveBack buf s).pool i).isInBuf = (s.pool i).isInBuf := by
  rcases eq_or_ne i buf with rfl | other
  · simp [giveBack, pushBuf]
  · simp [giveBack, pushBuf, other]

/-- **Giving a buffer back**: it becomes the first of the free list, and its kind can
still be read. -/
theorem giveBack_spec (parts : PoolParts s free allocated) (mem : buf ∈ allocated) :
    0 < s.bufsAllocated (s.pool buf).isInBuf ∧
      s.bufsAllocated (s.pool buf).isInBuf - 1 < zbBufsLimit ∧
      PoolParts (giveBack buf s) (buf :: free) (allocated.erase buf) := by
  have notFree : buf ∉ free := fun isFree =>
    (List.nodup_append.1 parts.nodup).2.2 buf isFree buf mem rfl
  have some_ : 0 < s.bufsAllocated (s.pool buf).isInBuf := by
    rw [parts.counted, List.countP_pos_iff]
    exact ⟨buf, mem, by simp [ofKind]⟩
  have below := parts.limited (s.pool buf).isInBuf
  refine ⟨some_, by omega, ⟨rfl, ?_⟩, ?_, fun k => ?_, fun k => ?_⟩
  · have next : ((giveBack buf s).pool buf).next = s.head := by simp [giveBack, pushBuf]
    beta_reduce
    rw [next]
    refine path_congr (fun i isFree => ?_) parts.path
    have ne : i ≠ buf := fun same => notFree (same ▸ isFree)
    simp [giveBack, pushBuf, ne]
  · exact List.perm_middle.symm.trans
      (((List.perm_cons_erase mem).symm.append_left free).trans parts.parts)
  · have kinds : ofKind (giveBack buf s).pool k = ofKind s.pool k := by
      funext i
      simp only [ofKind, giveBack_isInBuf]
    rw [kinds, List.countP_erase, ← parts.counted k]
    rcases eq_or_ne k (s.pool buf).isInBuf with rfl | other
    · simp [giveBack, pushBuf, mem, ofKind]
    · simp [giveBack, pushBuf, other, other.symm, ofKind]
  · have limited := parts.limited k
    rcases eq_or_ne k (s.pool buf).isInBuf with rfl | other
    · simp only [giveBack, pushBuf, Function.update_self]
      omega
    · simpa [giveBack, pushBuf, other] using limited

/-- Whoever holds a buffer may write its first bytes. -/
theorem PoolParts.fill (parts : PoolParts s free allocated) (mem : buf ∈ allocated)
    (first : Option Nat) :
    PoolParts { s with pool := Function.update s.pool buf { s.pool buf with next := first } }
      free allocated := by
  have notFree : buf ∉ free := fun isFree =>
    (List.nodup_append.1 parts.nodup).2.2 buf isFree buf mem rfl
  have kinds (k : Bool) : ofKind (Function.update s.pool buf { s.pool buf with next := first }) k =
      ofKind s.pool k := by
    funext i
    rcases eq_or_ne i buf with rfl | other
    · simp [ofKind]
    · simp [ofKind, other]
  refine ⟨path_congr (fun i isFree => ?_) parts.path, parts.parts, fun k => ?_, parts.limited⟩
  · have ne : i ≠ buf := fun same => notFree (same ▸ isFree)
    simp only [Function.update_of_ne ne]
  · dsimp only
    rw [kinds]
    exact parts.counted k

end Buffers

/-! ## The waiters -/

/-- **The invariant of the waiters**: `spare` are the entries nobody waits in. -/
structure WaitParts (s : ZbBufpool F) (waiters : Bool → List Nat) (spare : List Nat) : Prop where
  queues : ∀ k, Queues s.links (s.queue k) (waiters k)
  stack : Stacked s.links s.bufFreelist spare
  parts : (spare ++ (waiters false ++ waiters true)).Perm (List.range zbBufQSize)

section Waiters

variable {s t : ZbBufpool F} {waiters : Bool → List Nat} {spare : List Nat} {ent i : Nat}
  {isIn k j : Bool} {rest : List Nat}

@[simp] theorem setQueue_self (queue : ZbSlList Nat) : (s.setQueue isIn queue).queue isIn = queue := by
  cases isIn <;> rfl

theorem setQueue_other (queue : ZbSlList Nat) (other : k ≠ isIn) :
    (s.setQueue isIn queue).queue k = s.queue k := by
  cases isIn <;> cases k <;> first | rfl | exact absurd rfl other

@[simp] theorem setQueue_pool (queue : ZbSlList Nat) : (s.setQueue isIn queue).pool = s.pool := by
  cases isIn <;> rfl

@[simp] theorem setQueue_head (queue : ZbSlList Nat) : (s.setQueue isIn queue).head = s.head := by
  cases isIn <;> rfl

@[simp] theorem setQueue_bufsAllocated (queue : ZbSlList Nat) : (s.setQueue isIn queue).bufsAllocated = s.bufsAllocated := by
  cases isIn <;> rfl

@[simp] theorem setQueue_delayedBuf (queue : ZbSlList Nat) : (s.setQueue isIn queue).delayedBuf = s.delayedBuf := by
  cases isIn <;> rfl

@[simp] theorem setQueue_links (queue : ZbSlList Nat) : (s.setQueue isIn queue).links = s.links := by
  cases isIn <;> rfl

@[simp] theorem setQueue_bufFreelist (queue : ZbSlList Nat) : (s.setQueue isIn queue).bufFreelist = s.bufFreelist := by
  cases isIn <;> rfl

@[simp] theorem setQueue_cbQ (queue : ZbSlList Nat) : (s.setQueue isIn queue).cbQ = s.cbQ := by
  cases isIn <;> rfl

@[simp] theorem setQueue_rxNeedBuf (queue : ZbSlList Nat) : (s.setQueue isIn queue).rxNeedBuf = s.rxNeedBuf := by
  cases isIn <;> rfl

theorem WaitParts.nodup (wait : WaitParts s waiters spare) :
    (spare ++ (waiters false ++ waiters true)).Nodup :=
  wait.parts.nodup_iff.2 List.nodup_range

/-- An entry that waits is not spare, and waits in one queue only. -/
theorem WaitParts.apart (wait : WaitParts s waiters spare) (mem : i ∈ waiters k) :
    i ∉ spare ∧ ∀ j, j ≠ k → i ∉ waiters j := by
  have nodup := wait.nodup
  simp only [List.nodup_append, List.mem_append] at nodup
  obtain ⟨-, ⟨-, -, queues⟩, spares⟩ := nodup
  constructor
  · intro isSpare
    cases k with
    | false => exact spares i isSpare i (Or.inl mem) rfl
    | true => exact spares i isSpare i (Or.inr mem) rfl
  · intro j other both
    cases k <;> cases j
    · exact other rfl
    · exact queues i mem i both rfl
    · exact queues i both i mem rfl
    · exact other rfl

theorem WaitParts.length_le (wait : WaitParts s waiters spare) :
    (waiters k).length ≤ zbBufQSize := by
  have all := wait.parts.length_eq
  simp only [List.length_append, List.length_range] at all
  cases k <;> omega

theorem WaitParts.waits_eq (wait : WaitParts s waiters spare) :
    waits k s = (waiters k).map s.delayedBuf := by
  unfold waits
  rw [walk_of_path (wait.queues k).path wait.length_le]

/-- The invariant speaks of the lists only. -/
theorem WaitParts.congr (wait : WaitParts s waiters spare) (links : t.links = s.links)
    (queues : ∀ k, t.queue k = s.queue k) (list : t.bufFreelist = s.bufFreelist) :
    WaitParts t waiters spare := by
  obtain ⟨lists, stack, parts⟩ := wait
  exact ⟨fun k => by rw [links, queues]; exact lists k, by rw [links, list]; exact stack, parts⟩

/-- **Serving the first waiter**: its entry goes to the spare ones. -/
theorem WaitParts.serve (wait : WaitParts s waiters spare) (first : waiters k = ent :: rest) :
    ∃ queue, zbSlListCutHead s.links (s.queue k) = (some ent, queue) ∧
      ∀ t : ZbBufpool F, t.links = (zbStkPush s.links s.bufFreelist ent).1 →
        t.bufFreelist = (zbStkPush s.links s.bufFreelist ent).2 → t.queue k = queue →
        (∀ j, j ≠ k → t.queue j = s.queue j) →
        WaitParts t (Function.update waiters k rest) (ent :: spare) := by
  have queues := wait.queues k
  rw [first] at queues
  obtain ⟨queue, cut, shorter⟩ := slCutHead_spec queues
  have mem : ent ∈ waiters k := first ▸ List.mem_cons_self
  obtain ⟨notSpare, elsewhere⟩ := wait.apart mem
  have nodup := (List.nodup_cons.1 queues.nodup).1
  refine ⟨queue, cut, fun t links list same others => ⟨fun j => ?_, ?_, ?_⟩⟩
  · rw [links]
    rcases eq_or_ne j k with rfl | other
    · rw [same, Function.update_self]
      refine spares_stkPush.queues (fun z isRest isEnt => ?_) shorter
      exact nodup (List.mem_singleton.1 isEnt ▸ isRest)
    · rw [others j other, Function.update_of_ne other]
      refine spares_stkPush.queues (fun z isWaiter isEnt => ?_) (wait.queues j)
      exact elsewhere j other (List.mem_singleton.1 isEnt ▸ isWaiter)
  · rw [links, list]
    exact stkPush_spec wait.stack notSpare
  · refine List.Perm.trans ?_ wait.parts
    cases k with
    | false =>
        simp only [Function.update_self, Function.update_of_ne Bool.false_ne_true.symm, first]
        exact List.perm_middle.symm
    | true =>
        simp only [Function.update_self, Function.update_of_ne Bool.false_ne_true, first]
        rw [← List.append_assoc spare]
        have moved : (spare ++ waiters false ++ ent :: rest).Perm
            (ent :: (spare ++ waiters false ++ rest)) := List.perm_middle
        simpa using moved.symm

/-- **Waiting**: a spare entry goes behind the others. -/
theorem WaitParts.enqueue (wait : WaitParts s waiters (ent :: spare)) :
    ∃ rest, zbStkPop s.links s.bufFreelist = (some ent, rest) ∧
      ∀ t : ZbBufpool F, t.links = (zbSlListInsertTail s.links (s.queue k) ent).1 →
        t.bufFreelist = rest → t.queue k = (zbSlListInsertTail s.links (s.queue k) ent).2 →
        (∀ j, j ≠ k → t.queue j = s.queue j) →
        WaitParts t (Function.update waiters k (waiters k ++ [ent])) spare := by
  have start : s.bufFreelist = some ent := wait.stack.1
  have fresh (j : Bool) : ent ∉ waiters j := fun mem =>
    (wait.apart mem).1 List.mem_cons_self
  have notSpare := wait.nodup
  rw [List.cons_append, List.nodup_cons, List.mem_append, not_or] at notSpare
  obtain ⟨longer, spares⟩ := slInsertTail_spec (wait.queues k) (fresh k)
  refine ⟨s.links.next ent, by rw [start]; rfl, fun t links list same others =>
    ⟨fun j => ?_, ?_, ?_⟩⟩
  · rw [links]
    rcases eq_or_ne j k with rfl | other
    · rw [same, Function.update_self]
      exact longer
    · rw [others j other, Function.update_of_ne other]
      refine spares.queues (fun z isWaiter isNew => ?_) (wait.queues j)
      rcases List.mem_append.1 isNew with isOther | isEnt
      · exact (wait.apart isWaiter).2 k other.symm isOther
      · exact fresh j (List.mem_singleton.1 isEnt ▸ isWaiter)
  · rw [links, list]
    refine spares.stacked (fun z isSpare isNew => ?_) wait.stack.2
    rcases List.mem_append.1 isNew with isWaiter | isEnt
    · exact (wait.apart isWaiter).1 (List.mem_cons_of_mem ent isSpare)
    · exact notSpare.1.1 (List.mem_singleton.1 isEnt ▸ isSpare)
  · refine List.Perm.trans ?_ wait.parts
    cases k with
    | false =>
        simp only [Function.update_self, Function.update_of_ne Bool.false_ne_true.symm]
        rw [List.append_assoc, List.singleton_append, ← List.append_assoc]
        have moved : (spare ++ waiters false ++ ent :: waiters true).Perm
            (ent :: (spare ++ waiters false ++ waiters true)) := List.perm_middle
        simpa using moved
    | true =>
        simp only [Function.update_self, Function.update_of_ne Bool.false_ne_true]
        rw [← List.append_assoc, ← List.append_assoc]
        simpa using List.perm_append_singleton ent (spare ++ (waiters false ++ waiters true))

end Waiters

/-! ## The calls -/

/-- **The invariant**, with the buffers the program holds. -/
structure BufpoolOk (s : ZbBufpool F) (allocated : List Nat) : Prop where
  pool : ∃ free, PoolParts s free allocated
  wait : ∃ waiters spare, WaitParts s waiters spare
  ring : RingOk s.cbQ

section Calls

variable {s t : ZbBufpool F} {allocated : List Nat} {buf : Nat} {isIn : Bool} {callback func : F}

theorem BufpoolOk.lt (ok : BufpoolOk s allocated) (mem : buf ∈ allocated) : buf < zbIobufPoolSize :=
  let ⟨_, parts⟩ := ok.pool
  parts.lt mem

/-- A buffer is passed on by its reference. -/
theorem toNat_ref (lt : buf < zbIobufPoolSize) : (UInt8.ofNat buf).toNat = buf := by
  apply UInt8.toNat_ofNat_of_lt'
  exact Nat.lt_trans lt (by decide)

theorem schedule_spec (callback : F) {cbQ : ZbCbQ F} (ring : RingOk cbQ) (room : cbQ.isFull = false)
    (lt : buf < zbIobufPoolSize) :
    ∃ cbQ', zbScheduleCallback callback (UInt8.ofNat buf) cbQ = some (cbQ', .ok ()) ∧
      RingOk cbQ' ∧ cbQ'.entries = cbQ.entries ++ [⟨callback, UInt8.ofNat buf⟩] := by
  refine ⟨_, ?_, ringOk_put ring room _, entries_put ring room _⟩
  unfold zbScheduleCallback
  rw [if_neg (Bool.eq_false_iff.1 room), toNat_ref lt, if_pos lt.le]

theorem scheduled_eq {l : List (ZbCbQEnt F)} (more : t.cbQ.entries = s.cbQ.entries ++ l) :
    scheduled s t = l := by
  unfold scheduled
  rw [more, List.drop_left]

theorem scheduled_nil (same : t.cbQ = s.cbQ) : scheduled s t = [] :=
  scheduled_eq (by rw [same, List.append_nil])

/-- What waits depends on the lists and the callbacks in the entries. -/
theorem waits_congr (k : Bool) (links : t.links = s.links) (queue : t.queue k = s.queue k)
    (callbacks : t.delayedBuf = s.delayedBuf) : waits k t = waits k s := by
  unfold waits
  rw [links, queue, callbacks]

/-- **Asking for a buffer to be passed to a callback**: the callback is scheduled with
a buffer, or it waits behind the others, or no entry is left to wait in. -/
theorem zbGetBufDelayed_spec (callback : F) (ok : BufpoolOk s allocated)
    (room : s.cbQ.isFull = true → zbBufsLimit ≤ s.bufsAllocated isIn) :
    (∃ buf t, zbGetBufDelayed callback isIn s = some (t, .ok ()) ∧
        BufpoolOk t (buf :: allocated) ∧ scheduled s t = [⟨callback, UInt8.ofNat buf⟩] ∧
        ∀ k, waits k t = waits k s) ∨
      (∃ t, zbGetBufDelayed callback isIn s = some (t, .ok ()) ∧ BufpoolOk t allocated ∧
        scheduled s t = [] ∧
        ∀ k, waits k t = waits k s ++ if k = isIn then [callback] else []) ∨
      zbGetBufDelayed callback isIn s = some (s, .error .error) := by
  obtain ⟨⟨free, parts⟩, ⟨waiters, spare, wait⟩, ring⟩ := ok
  rcases zbGetBuf_spec isIn parts with ⟨-, none_⟩ |
    ⟨below, buf, rest, pool, head, counts, rfl, got, parts', -⟩
  · right
    cases spare with
    | nil =>
        have empty : s.bufFreelist = none := wait.stack
        right
        simp [zbGetBufDelayed, none_, zbStkPop, empty]
    | cons ent spare =>
        left
        obtain ⟨list, popped, becomes⟩ := wait.enqueue (k := isIn)
        have fresh (k : Bool) : ent ∉ waiters k := fun mem =>
          (wait.apart mem).1 List.mem_cons_self
        let s₁ := { s with
          bufFreelist := list
          delayedBuf := Function.update s.delayedBuf ent callback
          links := (zbSlListInsertTail s.links (s.queue isIn) ent).1 }
        let t := s₁.setQueue isIn (zbSlListInsertTail s.links (s.queue isIn) ent).2
        have is : zbGetBufDelayed callback isIn s = some (t, .ok ()) := by
          simp only [zbGetBufDelayed, none_, Option.bind_eq_bind, Option.bind_some, popped]
          rfl
        have cbQ : t.cbQ = s.cbQ := setQueue_cbQ _
        have wait' := becomes t (setQueue_links _) (setQueue_bufFreelist _) (setQueue_self _)
          fun j other => setQueue_other _ other
        have parts' : PoolParts t free allocated :=
          parts.congr (setQueue_pool _) (setQueue_head _) (setQueue_bufsAllocated _)
        refine ⟨t, is, ⟨⟨free, parts'⟩, ⟨_, _, wait'⟩, cbQ ▸ ring⟩, scheduled_nil cbQ, fun k => ?_⟩
        · have callbacks : t.delayedBuf = Function.update s.delayedBuf ent callback :=
            setQueue_delayedBuf _
          have others : (waiters k).map (Function.update s.delayedBuf ent callback) =
              (waiters k).map s.delayedBuf :=
            List.map_congr_left fun i mem => by
              have ne : i ≠ ent := fun same => fresh k (same ▸ mem)
              rw [Function.update_of_ne ne]
          rw [wait'.waits_eq, wait.waits_eq, callbacks]
          rcases eq_or_ne k isIn with rfl | other
          · rw [Function.update_self, List.map_append, others]
            simp
          · rw [Function.update_of_ne other, others]
            simp [other]
  · left
    have roomy : s.cbQ.isFull = false := by
      refine Bool.eq_false_iff.2 fun full => ?_
      exact absurd (room full) (Nat.not_le.2 below)
    obtain ⟨cbQ', put, ring', more⟩ :=
      schedule_spec callback ring roomy (parts'.lt List.mem_cons_self)
    have is : zbGetBufDelayed callback isIn s = some
        ({ s with pool, head, bufsAllocated := counts, cbQ := cbQ' }, .ok ()) := by
      simp [zbGetBufDelayed, got, put]
    exact ⟨buf, _, is, ⟨⟨rest, parts'.congr rfl rfl rfl⟩,
      ⟨waiters, spare, wait.congr rfl (fun _ => rfl) rfl⟩, ring'⟩, scheduled_eq more,
      fun k => waits_congr k rfl rfl rfl⟩

/-- `zb_free_buf` up to the waiter. -/
theorem zbFreeBuf_none {free : List Nat} (t : ZbBufpool F) (parts : PoolParts s free allocated) (mem : buf ∈ allocated)
    (cut : cutWaiter (s.pool buf).isInBuf (giveBack buf s) = (none, t)) :
    zbFreeBuf buf s = some t := by
  have some_ := (giveBack_spec parts mem).1
  have kind := giveBack_isInBuf s buf buf
  unfold zbFreeBuf
  simp only [giveBack] at kind cut
  rw [if_pos ⟨parts.initialised, some_⟩]
  simp only [kind, cut]

theorem zbFreeBuf_some {free : List Nat} (t : ZbBufpool F) (ent : Nat) (parts : PoolParts s free allocated)
    (mem : buf ∈ allocated)
    (cut : cutWaiter (s.pool buf).isInBuf (giveBack buf s) = (some ent, t)) :
    zbFreeBuf buf s = serveWaiter (s.pool buf).isInBuf ent t := by
  have some_ := (giveBack_spec parts mem).1
  have kind := giveBack_isInBuf s buf buf
  unfold zbFreeBuf
  simp only [giveBack] at kind cut
  rw [if_pos ⟨parts.initialised, some_⟩]
  simp only [kind, cut]

/-- **Handing a freed buffer over**: the first who waits for a buffer of its kind is taken out of
the queue, and the buffer from the free list again, whatever the callback queue answers. -/
theorem zbFreeBuf_handsOver {free spare rest : List Nat} {waiters : Bool → List Nat} {ent : Nat}
    (parts : PoolParts s free allocated) (wait : WaitParts s waiters spare) (mem : buf ∈ allocated)
    (unneeded : ((s.pool buf).isInBuf && s.rxNeedBuf) = false)
    (first : waiters (s.pool buf).isInBuf = ent :: rest) {cbQ' : ZbCbQ F} {ret : Except ZbRet Unit}
    (put : zbScheduleCallback (s.delayedBuf ent) (UInt8.ofNat buf) s.cbQ = some (cbQ', ret)) :
    ∃ u, zbFreeBuf buf s = some u ∧ u.cbQ = cbQ' ∧ PoolParts u free (buf :: allocated.erase buf) ∧
      (∃ waiters spare, WaitParts u waiters spare) ∧ (u.pool buf).isInBuf = (s.pool buf).isInBuf ∧
      ∀ k, waits k s = (if k = (s.pool buf).isInBuf then [s.delayedBuf ent] else []) ++ waits k u := by
  obtain ⟨-, below, back⟩ := giveBack_spec parts mem
  have served := fun t ent => zbFreeBuf_some t ent parts mem
  generalize kind : (s.pool buf).isInBuf = isIn at below unneeded first served ⊢
  have needless : ¬(isIn && (giveBack buf s).rxNeedBuf) = true := Bool.eq_false_iff.1 unneeded
  unfold cutWaiter at served
  simp only [if_neg needless] at served
  obtain ⟨queue, cut, becomes⟩ := wait.serve first
  let s₁ := (giveBack buf s).setQueue isIn queue
  have is : zbFreeBuf buf s = serveWaiter isIn ent s₁ :=
    served s₁ ent (by
      have cut' : zbSlListCutHead (giveBack buf s).links ((giveBack buf s).queue isIn) =
          (some ent, queue) := cut
      rw [cut'])
  have back₁ : PoolParts s₁ (buf :: free) (allocated.erase buf) :=
    back.congr (setQueue_pool _) (setQueue_head _) (setQueue_bufsAllocated _)
  have below₁ : s₁.bufsAllocated isIn < zbBufsLimit := by
    simpa [s₁, giveBack, pushBuf, kind] using below
  -- the buffer just freed is the first of the free list
  obtain ⟨full, -⟩ | ⟨-, buf', rest', pool, head, counts, same, got, parts', kind'⟩ :=
    zbGetBuf_spec isIn back₁
  · exact absurd below₁ (Nat.not_lt.2 full)
  obtain ⟨rfl, rfl⟩ := List.cons.inj same
  have cbQ : s₁.cbQ = s.cbQ := setQueue_cbQ _
  have links : s₁.links = s.links := setQueue_links _
  have freelist : s₁.bufFreelist = s.bufFreelist := setQueue_bufFreelist _
  have callbacks : s₁.delayedBuf = s.delayedBuf := setQueue_delayedBuf _
  let u := { s₁ with
    pool, head
    bufsAllocated := counts
    cbQ := cbQ'
    links := (zbStkPush s.links s.bufFreelist ent).1
    bufFreelist := (zbStkPush s.links s.bufFreelist ent).2 }
  have wait' : WaitParts u (Function.update waiters isIn rest) (ent :: spare) :=
    becomes u rfl rfl (setQueue_self (s := giveBack buf s) _) fun j other =>
      setQueue_other (s := giveBack buf s) _ other
  have gave : serveWaiter isIn ent s₁ = some u := by
    simp only [serveWaiter, got, Option.bind_eq_bind, Option.bind_some, callbacks, cbQ, put,
      links, freelist]
    simp only [u, callbacks]
    rfl
  refine ⟨u, is.trans gave, rfl, parts'.congr rfl rfl rfl, ⟨_, _, wait'⟩, kind', fun k => ?_⟩
  have callbacks' : u.delayedBuf = s.delayedBuf := callbacks
  rw [wait.waits_eq, wait'.waits_eq, callbacks']
  rcases eq_or_ne k isIn with rfl | other
  · rw [Function.update_self, first, if_pos rfl]
    rfl
  · rw [Function.update_of_ne other, if_neg other]
    rfl

/-- **Freeing a buffer**: the first who waits for a buffer of its kind gets it, unless
nobody waits or the MAC needs an input buffer. -/
theorem zbFreeBuf_spec (ok : BufpoolOk s allocated) (mem : buf ∈ allocated)
    (room : s.cbQ.isFull = true → (cutWaiter (s.pool buf).isInBuf s).1 = none) :
    (∃ t func, ((s.pool buf).isInBuf && s.rxNeedBuf) = false ∧ zbFreeBuf buf s = some t ∧
        BufpoolOk t (buf :: allocated.erase buf) ∧
        (t.pool buf).isInBuf = (s.pool buf).isInBuf ∧
        t.cbQ.entries = s.cbQ.entries ++ [⟨func, UInt8.ofNat buf⟩] ∧
        ∀ k, waits k s = (if k = (s.pool buf).isInBuf then [func] else []) ++ waits k t) ∨
      (∃ t, (((s.pool buf).isInBuf && s.rxNeedBuf) = true ∨ waits (s.pool buf).isInBuf s = []) ∧
        zbFreeBuf buf s = some t ∧ BufpoolOk t (allocated.erase buf) ∧ scheduled s t = [] ∧
        ∀ k, waits k t = waits k s) := by
  obtain ⟨⟨free, parts⟩, ⟨waiters, spare, wait⟩, ring⟩ := ok
  obtain ⟨-, below, back⟩ := giveBack_spec parts mem
  have unserved := fun t => zbFreeBuf_none t parts mem
  have served := fun t ent => zbFreeBuf_some t ent parts mem
  generalize kind : (s.pool buf).isInBuf = isIn at below room unserved served ⊢
  unfold cutWaiter at room unserved served
  cases needed : isIn && s.rxNeedBuf with
  | true =>
      right
      have is := unserved (giveBack buf s) (if_pos needed)
      exact ⟨giveBack buf s, .inl rfl, is, ⟨⟨_, back⟩, ⟨_, _, wait.congr rfl (fun _ => rfl) rfl⟩,
        ring⟩, scheduled_nil rfl, fun k => waits_congr k rfl rfl rfl⟩
  | false =>
      have unneeded : ¬(isIn && (giveBack buf s).rxNeedBuf) = true := Bool.eq_false_iff.1 needed
      simp only [needed, Bool.false_eq_true, if_false] at room
      simp only [if_neg unneeded] at unserved served
      cases first : waiters isIn with
      | nil =>
          right
          have queues := wait.queues isIn
          rw [first] at queues
          have cut : zbSlListCutHead (giveBack buf s).links ((giveBack buf s).queue isIn) =
              (none, s.queue isIn) := slCutHead_nil queues
          let t := (giveBack buf s).setQueue isIn (s.queue isIn)
          have is : zbFreeBuf buf s = some t := unserved t (by rw [cut])
          have same (k : Bool) : t.queue k = s.queue k := by
            rcases eq_or_ne k isIn with rfl | other
            · exact setQueue_self _
            · exact setQueue_other _ other
          have cbQ : t.cbQ = s.cbQ := setQueue_cbQ _
          have parts' : PoolParts t (buf :: free) (allocated.erase buf) :=
            back.congr (setQueue_pool _) (setQueue_head _) (setQueue_bufsAllocated _)
          have wait' : WaitParts t waiters spare :=
            wait.congr (setQueue_links _) same (setQueue_bufFreelist _)
          have none_ : waits isIn s = [] := by rw [wait.waits_eq, first, List.map_nil]
          exact ⟨t, .inr none_, is, ⟨⟨_, parts'⟩, ⟨_, _, wait'⟩, cbQ ▸ ring⟩, scheduled_nil cbQ,
            fun k => waits_congr k (setQueue_links _) (same k) (setQueue_delayedBuf _)⟩
      | cons ent rest =>
          left
          obtain ⟨queue, cut, -⟩ := wait.serve first
          have roomy : s.cbQ.isFull = false := by
            refine Bool.eq_false_iff.2 fun full => ?_
            have none_ := room full
            rw [cut] at none_
            cases none_
          obtain ⟨cbQ', put, ring', more⟩ :=
            schedule_spec (s.delayedBuf ent) ring roomy (parts.lt mem)
          have unneeded' : ((s.pool buf).isInBuf && s.rxNeedBuf) = false := by rw [kind]; exact needed
          have first' : waiters (s.pool buf).isInBuf = ent :: rest := by rw [kind]; exact first
          obtain ⟨u, is, cbQ, parts', wait', kind', split⟩ :=
            zbFreeBuf_handsOver parts wait mem unneeded' first' put
          rw [kind] at kind' split
          exact ⟨u, s.delayedBuf ent, rfl, is, ⟨⟨free, parts'⟩, wait', cbQ ▸ ring'⟩, kind',
            cbQ ▸ more, split⟩

end Calls

/-! ## Runs -/

section Steps

variable {s t : Pooled F} {call : BufCall F} {isIn : Bool} {callback : F}

/-- What a request for a buffer does. -/
theorem zbGetBuf_keeps (ok : BufpoolOk s.bufpool s.allocated) {bufpool : ZbBufpool F}
    (taken : (zbGetBuf isIn s.bufpool).map Prod.fst = some bufpool) :
    BufpoolOk bufpool (((zbGetBuf isIn s.bufpool).bind Prod.snd).toList ++ s.allocated) ∧
      ∀ k, waits k s.bufpool = waits k bufpool := by
  obtain ⟨⟨free, parts⟩, ⟨waiters, spare, wait⟩, ring⟩ := ok
  rcases zbGetBuf_spec isIn parts with ⟨-, none_⟩ |
    ⟨-, buf, rest, pool, head, counts, -, got, parts', -⟩
  · rw [none_] at taken ⊢
    cases taken
    exact ⟨⟨⟨free, parts⟩, ⟨waiters, spare, wait⟩, ring⟩, fun _ => rfl⟩
  · rw [got] at taken ⊢
    cases taken
    exact ⟨⟨⟨rest, parts'⟩, ⟨waiters, spare, wait.congr rfl (fun _ => rfl) rfl⟩, ring⟩,
      fun k => (waits_congr k rfl rfl rfl).symm⟩

/-- What a delayed request does. -/
theorem zbGetBufDelayed_keeps (ok : BufpoolOk s.bufpool s.allocated)
    (room : s.bufpool.cbQ.isFull = true → zbBufsLimit ≤ s.bufpool.bufsAllocated isIn)
    {bufpool : ZbBufpool F}
    (taken : (zbGetBufDelayed callback isIn s.bufpool).map Prod.fst = some bufpool) :
    BufpoolOk bufpool ((scheduled s.bufpool bufpool).map (·.param.toNat) ++ s.allocated) ∧
      ∀ k, waits k s.bufpool ++ (if k = isIn then joins callback isIn s.bufpool else []) =
        waits k bufpool := by
  rcases zbGetBufDelayed_spec callback ok room with
    ⟨buf, u, is, ok', put, same⟩ | ⟨u, is, ok', put, more⟩ | is
  · rw [is] at taken
    cases taken
    have ref := toNat_ref (ok'.lt List.mem_cons_self)
    refine ⟨by simpa [put, ref] using ok', fun k => ?_⟩
    simp [joins, is, put, same]
  · rw [is] at taken
    cases taken
    refine ⟨by simpa [put] using ok', fun k => ?_⟩
    simp [joins, is, put, more]
  · rw [is] at taken
    cases taken
    have nothing : scheduled s.bufpool s.bufpool = [] := scheduled_nil rfl
    refine ⟨by simpa [nothing] using ok, fun k => ?_⟩
    simp [joins, is]

/-- **What one step does**: the invariant holds again, and who waits and joins is who
is served and still waits. -/
theorem step_spec (ok : BufpoolOk s.bufpool s.allocated) (allowed : Allowed s call)
    (taken : pooledStep s call = some t) :
    BufpoolOk t.bufpool t.allocated ∧
      ∀ k, waits k s.bufpool ++ enters k s call = serves k s call ++ waits k t.bufpool := by
  obtain ⟨bufpool, step, rfl⟩ := Option.map_eq_some_iff.1 taken
  obtain ⟨room, holds⟩ := allowed
  have passes : passed s.bufpool call = scheduled s.bufpool bufpool := by
    unfold passed
    rw [step]
    simp
  cases call with
  | getIn =>
      obtain ⟨ok', same⟩ := zbGetBuf_keeps ok step
      exact ⟨ok', fun k => by simp [enters, serves, same]⟩
  | getOut =>
      obtain ⟨ok', same⟩ := zbGetBuf_keeps ok step
      exact ⟨ok', fun k => by simp [enters, serves, same]⟩
  | getInDelayed callback =>
      have room : s.bufpool.cbQ.isFull = true → zbBufsLimit ≤ s.bufpool.bufsAllocated true := by
        intro full
        simpa [overflows, full] using room
      obtain ⟨ok', more⟩ := zbGetBufDelayed_keeps ok room step
      refine ⟨by simpa only [given, kept, passes] using ok', fun k => ?_⟩
      simpa only [enters, serves, List.nil_append] using more k
  | getOutDelayed callback =>
      have room : s.bufpool.cbQ.isFull = true → zbBufsLimit ≤ s.bufpool.bufsAllocated false := by
        intro full
        simpa [overflows, full] using room
      obtain ⟨ok', more⟩ := zbGetBufDelayed_keeps ok room step
      refine ⟨by simpa only [given, kept, passes] using ok', fun k => ?_⟩
      simpa only [enters, serves, List.nil_append] using more k
  | free buf =>
      have room : s.bufpool.cbQ.isFull = true →
          (cutWaiter (s.bufpool.pool buf).isInBuf s.bufpool).1 = none := by
        intro full
        simpa [overflows, full] using room
      rcases zbFreeBuf_spec ok holds room with
        ⟨u, func, -, is, ok', -, put, first⟩ | ⟨u, -, is, ok', put, same⟩
      · obtain rfl : u = bufpool := Option.some.inj (is.symm.trans step)
        have ref := toNat_ref (ok.lt holds)
        have put := scheduled_eq put
        refine ⟨by simpa [given, kept, passes, put, ref] using ok', fun k => ?_⟩
        simpa [enters, serves, passes, put] using first k
      · obtain rfl : u = bufpool := Option.some.inj (is.symm.trans step)
        refine ⟨by simpa [given, kept, passes, put] using ok', fun k => ?_⟩
        simp [enters, serves, passes, put, same]
  | fill buf first =>
      cases step
      obtain ⟨⟨free, parts⟩, ⟨waiters, spare, wait⟩, ring⟩ := ok
      exact ⟨⟨⟨free, parts.fill holds first⟩, ⟨waiters, spare, wait.congr rfl (fun _ => rfl) rfl⟩,
        ring⟩, fun k => List.append_nil _⟩
  | rxNeedBuf need =>
      cases step
      obtain ⟨⟨free, parts⟩, ⟨waiters, spare, wait⟩, ring⟩ := ok
      exact ⟨⟨⟨free, parts.congr rfl rfl rfl⟩,
        ⟨waiters, spare, wait.congr rfl (fun _ => rfl) rfl⟩, ring⟩, fun k => List.append_nil _⟩
  | schedule func param =>
      obtain ⟨⟨cbQ, ret⟩, put, rfl⟩ := Option.map_eq_some_iff.1 step
      obtain ⟨⟨free, parts⟩, ⟨waiters, spare, wait⟩, ring⟩ := ok
      have ring' := (scheduleCallback_spec ring put).1
      exact ⟨⟨⟨free, parts.congr rfl rfl rfl⟩,
        ⟨waiters, spare, wait.congr rfl (fun _ => rfl) rfl⟩, ring'⟩, fun k => List.append_nil _⟩
  | done =>
      cases step
      obtain ⟨⟨free, parts⟩, ⟨waiters, spare, wait⟩, ring⟩ := ok
      split
      · exact ⟨⟨⟨free, parts⟩, ⟨waiters, spare, wait⟩, ring⟩, fun k => List.append_nil _⟩
      · rename_i some_
        have ring' := ringOk_flushGet ring (Bool.eq_false_iff.2 some_)
        exact ⟨⟨⟨free, parts.congr rfl rfl rfl⟩,
          ⟨waiters, spare, wait.congr rfl (fun _ => rfl) rfl⟩, ring'⟩, fun k => List.append_nil _⟩

end Steps

/-! ## The start -/

theorem linkPool_of_lt {n p i : Nat} (lt : i < p) (pool : Nat → ZbBufU) :
    linkPool n p pool i = pool i := by
  induction n generalizing p pool with
  | zero => simp [linkPool, lt.ne]
  | succ n ih => simp [linkPool, ih (Nat.lt_succ_of_lt lt), lt.ne]

theorem linkPool_path (n p : Nat) (pool : Nat → ZbBufU) :
    Path (fun i => (linkPool n p pool i).next) (some p) (List.range' p (n + 1)) none := by
  induction n generalizing p pool with
  | zero => simp [linkPool, Theory.LinkedList.Path]
  | succ n ih =>
      have tail := ih (p + 1) (Function.update pool p { pool p with next := some (p + 1) })
      have first : (linkPool (n + 1) p pool p).next = some (p + 1) := by
        simp [linkPool, linkPool_of_lt (Nat.lt_succ_self p)]
      rw [List.range'_succ]
      refine ⟨rfl, ?_⟩
      beta_reduce
      rw [first]
      exact tail

/-- The entries are pushed one after the other. -/
theorem schedInitBufs_spec {l spare : List Nat} (nodup : l.Nodup) (apart : ∀ i ∈ l, i ∉ spare)
    (s : ZbBufpool F) (stack : Stacked s.links s.bufFreelist spare) :
    ∃ links list,
      l.foldl (fun s i =>
        let (links, list) := zbStkPush s.links s.bufFreelist i
        { s with links, bufFreelist := list }) s = { s with links, bufFreelist := list } ∧
      Stacked links list (l.reverse ++ spare) := by
  induction l generalizing s spare with
  | nil => exact ⟨s.links, s.bufFreelist, rfl, stack⟩
  | cons i l ih =>
      obtain ⟨fresh, nodup⟩ := List.nodup_cons.1 nodup
      have apart' : ∀ j ∈ l, j ∉ i :: spare := by
        intro j mem both
        rcases List.mem_cons.1 both with rfl | both
        · exact fresh mem
        · exact apart j (List.mem_cons_of_mem i mem) both
      have pushed := stkPush_spec stack (apart i List.mem_cons_self)
      obtain ⟨links, list, is, stack'⟩ := ih nodup apart'
        { s with
          links := (zbStkPush s.links s.bufFreelist i).1
          bufFreelist := (zbStkPush s.links s.bufFreelist i).2 } pushed
      refine ⟨links, list, is, ?_⟩
      rw [List.reverse_cons, List.append_assoc]
      exact stack'

theorem start_ok (null : F) :
    BufpoolOk (Pooled.start null).bufpool (Pooled.start null).allocated ∧
      ∀ k, waits k (Pooled.start null).bufpool = [] := by
  let s := zbInitBuffers (ZbBufpool.zero null)
  have empty : Stacked s.links s.bufFreelist [] := rfl
  obtain ⟨links, list, is, stack⟩ :=
    schedInitBufs_spec (l := List.range zbBufQSize) List.nodup_range (by simp) s empty
  have start : (Pooled.start null).bufpool = { s with links, bufFreelist := list } := is
  have pool : PoolParts { s with links, bufFreelist := list } (List.range zbIobufPoolSize) [] := by
    refine ⟨?_, by simp, fun k => rfl, fun k => Nat.zero_le _⟩
    rw [List.range_eq_range']
    exact linkPool_path (zbIobufPoolSize - 1) 0 _
  have wait : WaitParts { s with links, bufFreelist := list } (fun _ => [])
      (List.range zbBufQSize).reverse := by
    refine ⟨fun k => ?_, by simpa using stack, by simp [List.reverse_perm]⟩
    cases k <;> exact queues_nil
  rw [start]
  exact ⟨⟨⟨_, pool⟩, ⟨_, _, wait⟩, ringOk_init _ (by decide)⟩, fun k => by rw [wait.waits_eq]; rfl⟩

/-! ## The pool over a whole run -/

/-- A freed buffer, unless it is an input buffer the MAC needs, is given to the first
who waits for one of its kind. -/
def GivenToFirst (s : Pooled F) : Prop :=
  ∀ buf ∈ s.allocated, ((s.bufpool.pool buf).isInBuf && s.bufpool.rxNeedBuf) = false →
    ∀ func rest, waits (s.bufpool.pool buf).isInBuf s.bufpool = func :: rest →
      s.bufpool.cbQ.isFull = false →
      ∃ t, zbFreeBuf buf s.bufpool = some t ∧
        t.cbQ.entries = s.bufpool.cbQ.entries ++ [⟨func, UInt8.ofNat buf⟩] ∧
        waits (s.bufpool.pool buf).isInBuf t = rest ∧
        (t.pool buf).isInBuf = (s.bufpool.pool buf).isInBuf

theorem givenToFirst {s : Pooled F} (ok : BufpoolOk s.bufpool s.allocated) : GivenToFirst s := by
  intro buf mem unneeded func rest first roomy
  have room : s.bufpool.cbQ.isFull = true →
      (cutWaiter (s.bufpool.pool buf).isInBuf s.bufpool).1 = none := by
    intro full
    exact absurd full (Bool.eq_false_iff.1 roomy)
  rcases zbFreeBuf_spec ok mem room with
    ⟨t, func', -, is, -, kind, put, served⟩ | ⟨t, nobody, -⟩
  · have head := served (s.bufpool.pool buf).isInBuf
    rw [first, if_pos rfl] at head
    obtain ⟨rfl, rfl⟩ := List.cons.inj head
    exact ⟨t, is, put, rfl, kind⟩
  · rcases nobody with needed | nobody
    · exact absurd needed (Bool.eq_false_iff.1 unneeded)
    · exact absurd (first.symm.trans nobody) (by simp)

/-- **No buffer is lost and waiters are served in turn**, in every run from the start. -/
theorem bufpool_of_run {null : F} {calls : List (BufCall F)} {s : Pooled F}
    (ran : run pooledStep (.start null) calls = some s)
    (allowed : Along pooledStep Allowed (.start null) calls) :
    (∃ free, Path (fun i => (s.bufpool.pool i).next) s.bufpool.head free none ∧
        (free ++ s.allocated).Nodup ∧
        s.bufpool.bufsAllocated false + s.bufpool.bufsAllocated true + free.length =
          zbIobufPoolSize) ∧
      (∀ k, s.bufpool.bufsAllocated k = s.allocated.countP (ofKind s.bufpool.pool k) ∧
        s.bufpool.bufsAllocated k ≤ zbBufsLimit) ∧
      (∀ k, trace pooledStep (enters k) (.start null) calls =
        trace pooledStep (serves k) (.start null) calls ++ waits k s.bufpool) ∧
      GivenToFirst s := by
  obtain ⟨start, empty⟩ := start_ok null
  have keeps : ∀ s call t, BufpoolOk s.bufpool s.allocated → Allowed s call →
      pooledStep s call = some t → BufpoolOk (F := F) t.bufpool t.allocated :=
    fun _ _ _ ok allowed taken => (step_spec ok allowed taken).1
  have ok := run_invariant keeps start allowed ran
  obtain ⟨free, parts⟩ := ok.pool
  refine ⟨⟨free, parts.path, parts.nodup, parts.length⟩,
    fun k => ⟨parts.counted k, parts.limited k⟩, fun k => ?_, givenToFirst ok⟩
  have balances : ∀ s call t, BufpoolOk s.bufpool s.allocated → Allowed s call →
      pooledStep s call = some t →
      waits k s.bufpool ++ enters k s call = serves k s call ++ waits k (F := F) t.bufpool :=
    fun _ _ _ ok allowed taken => (step_spec ok allowed taken).2 k
  have balance := trace_balance keeps balances start allowed ran
  rw [empty, List.nil_append] at balance
  exact balance

/-- All output buffers are out, two ask for one, and three are freed. -/
def outOfBuffers : List (BufCall Nat) :=
  [.getIn] ++ List.replicate 7 .getOut ++
    [.getOutDelayed 1, .fill 3 (some 9), .getOutDelayed 2, .getOutDelayed 3, .done, .free 8,
      .free 4, .rxNeedBuf true, .free 0, .free 5]

theorem bufpool_of_outOfBuffers :
    ∃ s, run pooledStep (.start 0) outOfBuffers = some s ∧
      (∃ free, Path (fun i => (s.bufpool.pool i).next) s.bufpool.head free none ∧
          (free ++ s.allocated).Nodup ∧
          s.bufpool.bufsAllocated false + s.bufpool.bufsAllocated true + free.length =
            zbIobufPoolSize) ∧
        (∀ k, s.bufpool.bufsAllocated k = s.allocated.countP (ofKind s.bufpool.pool k) ∧
          s.bufpool.bufsAllocated k ≤ zbBufsLimit) ∧
        (∀ k, trace pooledStep (enters k) (.start 0) outOfBuffers =
          trace pooledStep (serves k) (.start 0) outOfBuffers ++ waits k s.bufpool) ∧
        GivenToFirst s := by
  have there : (run pooledStep (.start 0) outOfBuffers).isSome = true := by decide +kernel
  obtain ⟨s, ran⟩ := Option.isSome_iff_exists.1 there
  exact ⟨s, ran, bufpool_of_run ran (by decide +kernel)⟩

/-- The second and the third have been given a freed buffer, the first got one at once. -/
example : trace pooledStep (serves false) (.start 0) outOfBuffers = [2, 3] := by decide +kernel

end Zboss.Common.BufpoolRun
