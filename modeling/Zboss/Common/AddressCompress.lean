/-
# Common.AddressCompress -- compressed long addresses over the life of the device

A compressed address means what the manufacturer table says, and that table is
shared: every lookup by long address and every entry of the table for joining
goes through it.  `ZbAddressCtx` is the translation table with the table for
joining, `addressOpStep` one call on them from any part of the stack.  The
manufacturer table is a book of names (`makers`): `zbIeeeAddrCompress` interns
the manufacturer (`compress_interns`) and stops exactly when the book is full
(`compress_eq_none`); nothing else touches the book (`addressOp_turn`).

* `compress_faithful`: while no more makers than places are compressed, the
  result is the address, now and later.
* `assertion_unreached_iff`: the assertion is not reached in a run exactly when
  the makers in it are no more than the places.

Pole: `seventeen_makers_stop`.
-/
import Mathlib
import Zboss.Theory.Intern
import Zboss.Common.AddressBijection

namespace Zboss.Common.AddressCompress

open Zboss.Theory.Run
open Zboss.Theory.Intern
open Zboss.Common.Types
open Zboss.Common.Address
open Zboss.Common.AddressPairs
open Zboss.Common.AddressRun
open Zboss.Common.AddressBijection

set_option autoImplicit false

/-! ## The table for joining -/

/-- An entry's addresses; three bits are kept of `panidRef`. -/
structure ZbExtNeighborTblEnt where
  shortAddr : UInt16
  longAddr : ZbIeeeAddrCompressed
  panidRef : Nat
  deriving DecidableEq

/-- The translation table, and the used part of the table for joining. -/
structure ZbAddressCtx where
  addr : ZbAddrGlobals
  extNeighbor : List ZbExtNeighborTblEnt
  extNeighborSize : Nat

/-- The zero-initialised context. -/
def ZbAddressCtx.init : ZbAddressCtx := ⟨.init, [], 0⟩

def allocNewExtneiboard (panidRef : Nat) (shortAddr : UInt16) (c : ZbAddressCtx) :
    ZbAddressCtx × Except ZbRet Nat :=
  if c.extNeighbor.length = c.extNeighborSize then (c, .error .noMemory)
  else
    ({ c with extNeighbor := c.extNeighbor ++ [⟨shortAddr, .zero, panidRef % 8⟩] },
      .ok c.extNeighbor.length)

def zbNwkExneighborByShort (panidRef : Nat) (shortAddr : UInt16) (c : ZbAddressCtx) :
    ZbAddressCtx × Except ZbRet Nat :=
  match c.extNeighbor.findIdx? fun en => en.shortAddr == shortAddr && en.panidRef == panidRef with
  | some i => (c, .ok i)
  | none => allocNewExtneiboard panidRef shortAddr c

/-- The search by long address goes on behind a match: the last one counts. -/
def exneighborScan (panidRef : Nat) (code : ZbIeeeAddrCompressed) :
    List ZbExtNeighborTblEnt → Nat → Option Nat → Option Nat
  | [], _, found => found
  | en :: ens, i, found =>
      exneighborScan panidRef code ens (i + 1)
        (if en.panidRef = panidRef ∧ en.longAddr = code then some i else found)

/-- Write the compressed form of an address into an entry. -/
def setLongAddr (i : Nat) (longAddr : ZbIeeeAddr) (c : ZbAddressCtx) : Option ZbAddressCtx := do
  let (g, code) ← zbIeeeAddrCompress longAddr c.addr
  return { c with
    addr := g
    extNeighbor := c.extNeighbor.modify i fun en => { en with longAddr := code } }

def zbNwkExneighborByIeee (panidRef : Nat) (longAddr : ZbIeeeAddr) (c : ZbAddressCtx) :
    Option (ZbAddressCtx × Except ZbRet Nat) := do
  let (g, code) ← zbIeeeAddrCompress longAddr c.addr
  let c := { c with addr := g }
  match exneighborScan panidRef code c.extNeighbor 0 none with
  | some i => return (c, .ok i)
  | none =>
      match allocNewExtneiboard panidRef 0xFFFF c with
      | (c, .error ret) => return (c, .error ret)
      | (c, .ok i) => (setLongAddr i longAddr c).map fun c => (c, .ok i)

/-! ## Histories -/

/-- One call on the address tables.  What `zb_nwk_exneighbor_stop` does to the
entries of its own network are calls of the translation table before it;
`parentLong` is the parent found by its short address when the device rejoins. -/
inductive AddressOp where
  | call (call : AddressCall)
  | lock (ref : Nat)
  | unlock (ref : Nat)
  | exneighborStart (size : Nat)
  | exneighborStop
  | exneighborByShort (panidRef : Nat) (shortAddr : UInt16)
  | exneighborByIeee (panidRef : Nat) (longAddr : ZbIeeeAddr)
  | parentLong (i : Nat) (longAddr : ZbIeeeAddr)

def addressOpStep (c : ZbAddressCtx) : AddressOp → Option ZbAddressCtx
  | .call call => (addressStep c.addr call).map fun g => { c with addr := g }
  | .lock ref => (zbAddressLock ref c.addr).map fun g => { c with addr := g }
  | .unlock ref => (zbAddressUnlock ref c.addr).map fun g => { c with addr := g }
  | .exneighborStart size => if size > 0 then some { c with extNeighborSize := size } else none
  | .exneighborStop => some { c with extNeighbor := [], extNeighborSize := 0 }
  | .exneighborByShort panidRef shortAddr => some (zbNwkExneighborByShort panidRef shortAddr c).1
  | .exneighborByIeee panidRef longAddr =>
      (zbNwkExneighborByIeee panidRef longAddr c).map Prod.fst
  | .parentLong i longAddr => setLongAddr i longAddr c

/-- The long address an operation compresses, before anything else it does. -/
def AddressOp.ieee : AddressOp → Option ZbIeeeAddr
  | .call (.byIeee ieee _ _) => some ieee
  | .call (.update ieee _ _) => some ieee
  | .exneighborByIeee _ longAddr => some longAddr
  | .parentLong _ longAddr => some longAddr
  | _ => none

/-- Its first three bytes. -/
def AddressOp.maker (op : AddressOp) : Option (Vector UInt8 3) :=
  op.ieee.map ZbIeeeAddr.manufacturer

/-- The operation reaches the assertion of `zb_ieee_addr_compress`. -/
def AssertReached (c : ZbAddressCtx) (op : AddressOp) : Prop :=
  ∃ ieee ∈ op.ieee, zbIeeeAddrCompress ieee c.addr = none

instance (c : ZbAddressCtx) (op : AddressOp) : Decidable (AssertReached c op) :=
  inferInstanceAs (Decidable (∃ ieee ∈ op.ieee, zbIeeeAddrCompress ieee c.addr = none))

/-! ## The manufacturer table as a book -/

/-- The manufacturer in each place in use. -/
def makers (g : ZbAddrGlobals) : Book (Vector UInt8 3) := fun i =>
  if g.usedManufacturer i then some (g.devManufacturer i) else none

section Makers

variable {g g' : ZbAddrGlobals} {ieee : ZbIeeeAddr} {code : ZbIeeeAddrCompressed} {i : Nat}
  {m : Vector UInt8 3}

theorem makers_eq_some :
    makers g i = some m ↔ g.usedManufacturer i = true ∧ g.devManufacturer i = m := by
  unfold makers
  split
  · rename_i used
    simp [used]
  · rename_i free
    simp [free]

theorem makers_eq_none : makers g i = none ↔ g.usedManufacturer i = false := by
  unfold makers
  cases g.usedManufacturer i <;> simp

theorem makers_congr (same : manufacturers g' = manufacturers g) : makers g' = makers g := by
  simp only [manufacturers, Prod.mk.injEq] at same
  funext i
  simp only [makers, same.1, same.2]

theorem makers_table (same : table g' = table g) : makers g' = makers g :=
  makers_congr (table_congr manufacturers (fun _ => rfl) same)

/-- **Compressing interns the manufacturer.** -/
theorem compress_interns (taken : zbIeeeAddrCompress ieee g = some (g', code)) :
    Interns zbDevManufactorerTableSize (makers g) (ZbIeeeAddr.manufacturer ieee)
      code.devManufacturer (makers g') := by
  obtain ⟨-, inside, ⟨used, same, rfl⟩ | ⟨free, absent, rfl⟩⟩ := zbIeeeAddrCompress_cases taken
  · exact .known inside (makers_eq_some.2 ⟨used, same⟩)
  · have written : makers { g with
          usedManufacturer := Function.update g.usedManufacturer code.devManufacturer true
          devManufacturer := Function.update g.devManufacturer code.devManufacturer
            (ZbIeeeAddr.manufacturer ieee) } =
        Function.update (makers g) code.devManufacturer
          (some (ZbIeeeAddr.manufacturer ieee)) := by
      funext i
      by_cases here : i = code.devManufacturer
      · rw [here, Function.update_self]
        simp [makers]
      · rw [Function.update_of_ne here]
        simp only [makers, Function.update_of_ne here]
    rw [written]
    refine .fresh inside (makers_eq_none.2 free) fun j hj there => ?_
    obtain ⟨used, same⟩ := makers_eq_some.1 there
    exact absent j hj used same

/-- A scan that ends without a place has passed other manufacturers only. -/
theorem manufacturerScan_full {cnt freeI : Nat} (bound : i + cnt = zbDevManufactorerTableSize)
    (passed : (manufacturerScan g m cnt i freeI).1 = zbDevManufactorerTableSize)
    (nowhere : (manufacturerScan g m cnt i freeI).2 = zbDevManufactorerTableSize) :
    ∀ k, i ≤ k → k < zbDevManufactorerTableSize →
      g.usedManufacturer k = true ∧ g.devManufacturer k ≠ m := by
  induction cnt generalizing i freeI with
  | zero =>
      intro k lo hi
      omega
  | succ cnt ih =>
      by_cases used : g.usedManufacturer i = true
      · by_cases same : g.devManufacturer i = m
        · rw [manufacturerScan, if_pos used, if_pos same] at passed
          dsimp only at passed
          omega
        · rw [manufacturerScan, if_pos used, if_neg same] at passed nowhere
          intro k lo hi
          rcases Nat.eq_or_lt_of_le lo with rfl | above
          · exact ⟨used, same⟩
          · exact ih (by omega) passed nowhere k above hi
      · -- a free place that was passed is reported, or a later one
        rw [manufacturerScan, if_neg used] at passed nowhere
        obtain ⟨-, here | ⟨later, -⟩⟩ := manufacturerScan_spec g m cnt (i + 1) i (by omega)
        · omega
        · omega

/-- **The assertion is reached when the book is full.** -/
theorem compress_eq_none : zbIeeeAddrCompress ieee g = none ↔
    Full zbDevManufactorerTableSize (makers g) (ZbIeeeAddr.manufacturer ieee) := by
  obtain ⟨stop, free⟩ := manufacturerScan_spec g (ZbIeeeAddr.manufacturer ieee)
    zbDevManufactorerTableSize 0 zbDevManufactorerTableSize (Nat.zero_add _)
  constructor
  · intro stopped
    simp only [zbIeeeAddrCompress] at stopped
    rcases stop with ⟨inside, -, -⟩ | ⟨all, -⟩
    · rw [if_neg (Nat.ne_of_lt inside), if_pos (Nat.ne_of_lt inside)] at stopped
      cases stopped
    · rw [if_pos all] at stopped
      split at stopped
      · cases stopped
      · rename_i nowhere
        intro i inside
        obtain ⟨used, other⟩ :=
          manufacturerScan_full (Nat.zero_add _) all (not_not.1 nowhere) i (Nat.zero_le i) inside
        exact ⟨_, makers_eq_some.2 ⟨used, rfl⟩, other⟩
  · intro full
    cases taken : zbIeeeAddrCompress ieee g with
    | none => rfl
    | some result =>
        obtain ⟨g', code⟩ := result
        exact (full.stuck (compress_interns taken)).elim

/-- Decompressing reads the book. -/
theorem decompress_of_makers (there : makers g code.devManufacturer = some m) :
    zbIeeeAddrDecompress g code = ZbIeeeAddr.make m code.deviceId := by
  rw [zbIeeeAddrDecompress, (makers_eq_some.1 there).2]

end Makers

/-! ## The other calls leave the book alone -/

section Frame

variable {g g' : ZbAddrGlobals} {res : Except ZbRet Nat} {ref : Nat} {a : UInt16}

theorem makers_zbAddressDelete (ref : Nat) (g : ZbAddrGlobals) :
    makers (zbAddressDelete ref g) = makers g := rfl

theorem makers_addShortSorted (added : addShortSorted ref a g = some g') :
    makers g' = makers g := by
  simp only [addShortSorted] at added
  split at added
  · cases added
    rfl
  · cases added

theorem makers_listEnt {i : Nat} (listed : listEnt i a g = some g') : makers g' = makers g := by
  unfold listEnt at listed
  split at listed
  · have kept := makers_addShortSorted listed
    split at kept
    · exact kept
    · exact kept
  · cases listed
    rfl

theorem makers_addrAdd {ieee : Option ZbIeeeAddrCompressed}
    (added : addrAdd ieee a g = some (g', res)) : makers g' = makers g := by
  simp only [addrAdd] at added
  split at added
  · cases added
    rfl
  · rename_i i free
    simp only [Option.bind_eq_bind, Option.bind_eq_some_iff] at added
    obtain ⟨g₁, listed, done⟩ := added
    cases done
    calc makers (useEnt i g₁) = makers g₁ := rfl
      _ = makers (writeEnt i ieee a (clockTick g)) := makers_listEnt listed
      _ = makers (clockTick g) := rfl
      _ = makers g := makers_table (clockTick_table g)

theorem makers_relist (moved : relist ref a g = some g') : makers g' = makers g := by
  simp only [relist] at moved
  split at moved
  · have kept := makers_addShortSorted moved
    split at kept
    · exact kept
    · exact kept
  · cases moved
    rfl

theorem makers_setPair {code : ZbIeeeAddrCompressed} (written : setPair ref code a g = some g') :
    makers g' = makers g := by
  simp only [setPair, Option.bind_eq_bind, Option.bind_eq_some_iff] at written
  obtain ⟨g₁, moved, done⟩ := written
  cases done
  have kept := makers_relist moved
  exact kept

theorem makers_resolveRef {fs fl found : Option Nat}
    (resolved : resolveRef fs fl g = some (g', found)) : makers g' = makers g := by
  obtain ⟨-, -, -, rfl⟩ | ⟨ref, -, rfl, -⟩ | ⟨ref, refLong, -, -, -, which⟩ :=
    resolveRef_cases resolved
  · rfl
  · rfl
  · rcases which with ⟨-, -, rfl⟩ | ⟨-, -, -, rfl⟩
    · exact makers_zbAddressDelete ref g
    · exact makers_zbAddressDelete refLong g

theorem makers_lockIf {lock : Bool} {r r' : ZbAddrGlobals × Except ZbRet Nat}
    (locked : lockIf lock r = some r') : makers r'.1 = makers r.1 :=
  makers_table (lockIf_table locked).1

theorem makers_zbAddressUnlock (unlocked : zbAddressUnlock ref g = some g') :
    makers g' = makers g := by
  unfold zbAddressUnlock at unlocked
  split at unlocked
  · cases unlocked
    rfl
  · cases unlocked

end Frame

/-! ## What one operation does to the book -/

section Turns

variable {g g' : ZbAddrGlobals} {c c' : ZbAddressCtx}

theorem byShort_makers {a : UInt16} {create lock : Bool} {res : Except ZbRet Nat}
    (taken : zbAddressByShort a create lock g = some (g', res)) : makers g' = makers g := by
  obtain ⟨r, locked, looked⟩ := zbAddressByShort_split taken
  have last := makers_lockIf locked
  rcases looked with ⟨ref, -, rfl⟩ | ⟨-, -, rfl⟩ | ⟨-, -, added⟩
  · exact last
  · exact last
  · exact last.trans (makers_addrAdd added)

theorem byIeee_makers {ieee : ZbIeeeAddr} {create lock : Bool} {res : Except ZbRet Nat}
    (taken : zbAddressByIeee ieee create lock g = some (g', res)) :
    ∃ g₁ code, zbIeeeAddrCompress ieee g = some (g₁, code) ∧ makers g' = makers g₁ := by
  obtain ⟨g₁, code, r, compressed, locked, looked⟩ := zbAddressByIeee_split taken
  have last := makers_lockIf locked
  refine ⟨g₁, code, compressed, ?_⟩
  rcases looked with ⟨ref, -, rfl⟩ | ⟨-, -, rfl⟩ | ⟨-, -, added⟩
  · exact last
  · exact last
  · exact last.trans (makers_addrAdd added)

theorem update_makers {ieee : ZbIeeeAddr} {a : UInt16} {lock : Bool} {res : Except ZbRet Nat}
    (taken : zbAddressUpdate ieee a lock g = some (g', res)) :
    ∃ g₁ code, zbIeeeAddrCompress ieee g = some (g₁, code) ∧ makers g' = makers g₁ := by
  obtain ⟨g₁, code, g₂, found, r, compressed, resolved, locked, written⟩ :=
    zbAddressUpdate_split taken
  have last := makers_lockIf locked
  have middle := makers_resolveRef resolved
  refine ⟨g₁, code, compressed, last.trans ?_⟩
  rcases written with ⟨ref, g₃, -, set, rfl⟩ | ⟨-, added⟩
  · exact (makers_setPair set).trans middle
  · exact (makers_addrAdd added).trans middle

/-- A compression, after which the book stays as it is, is one turn. -/
theorem turn_of_compress {ieee : ZbIeeeAddr} {code : ZbIeeeAddrCompressed}
    (compressed : zbIeeeAddrCompress ieee g = some (g', code)) {b : Book (Vector UInt8 3)}
    (same : b = makers g') :
    Turn zbDevManufactorerTableSize (makers g) (some (ZbIeeeAddr.manufacturer ieee)) b :=
  ⟨_, same ▸ compress_interns compressed⟩

theorem addressStep_turn {call : AddressCall} (taken : addressStep g call = some g') :
    Turn zbDevManufactorerTableSize (makers g) (AddressOp.call call).maker (makers g') := by
  cases call with
  | byIeee ieee create lock =>
      obtain ⟨⟨_, res⟩, looked, rfl⟩ := Option.map_eq_some_iff.1 taken
      obtain ⟨g₁, code, compressed, same⟩ := byIeee_makers looked
      exact turn_of_compress compressed same
  | byShort shortAddress create lock =>
      obtain ⟨⟨_, res⟩, looked, rfl⟩ := Option.map_eq_some_iff.1 taken
      exact byShort_makers looked
  | update ieee shortAddress lock =>
      obtain ⟨⟨_, res⟩, looked, rfl⟩ := Option.map_eq_some_iff.1 taken
      obtain ⟨g₁, code, compressed, same⟩ := update_makers looked
      exact turn_of_compress compressed same
  | delete ref =>
      cases taken
      exact makers_zbAddressDelete ref g

theorem setLongAddr_compress {i : Nat} {longAddr : ZbIeeeAddr}
    (taken : setLongAddr i longAddr c = some c') :
    ∃ code, zbIeeeAddrCompress longAddr c.addr = some (c'.addr, code) := by
  simp only [setLongAddr, Option.bind_eq_bind, Option.bind_eq_some_iff] at taken
  obtain ⟨⟨g, code⟩, compressed, done⟩ := taken
  cases done
  exact ⟨code, compressed⟩

theorem allocNewExtneiboard_addr (panidRef : Nat) (shortAddr : UInt16) (c : ZbAddressCtx) :
    (allocNewExtneiboard panidRef shortAddr c).1.addr = c.addr := by
  unfold allocNewExtneiboard
  split <;> rfl

/-- The second compression of an address that has just been compressed. -/
theorem compress_twice {ieee : ZbIeeeAddr} {code : ZbIeeeAddrCompressed}
    (compressed : zbIeeeAddrCompress ieee g = some (g', code)) :
    zbIeeeAddrCompress ieee g' ≠ none ∧
      ∀ g'' code', zbIeeeAddrCompress ieee g' = some (g'', code') → makers g'' = makers g' := by
  obtain ⟨inside, there⟩ := (compress_interns compressed).named
  constructor
  · intro stopped
    obtain ⟨m, held, other⟩ := compress_eq_none.1 stopped _ inside
    rw [there] at held
    cases held
    exact other rfl
  · intro g'' code' again
    exact (compress_interns again).same_book inside there

theorem exneighborByIeee_makers {panidRef : Nat} {longAddr : ZbIeeeAddr} {res : Except ZbRet Nat}
    (taken : zbNwkExneighborByIeee panidRef longAddr c = some (c', res)) :
    ∃ g code, zbIeeeAddrCompress longAddr c.addr = some (g, code) ∧ makers c'.addr = makers g := by
  simp only [zbNwkExneighborByIeee, Option.bind_eq_bind, Option.bind_eq_some_iff] at taken
  obtain ⟨⟨g, code⟩, compressed, looked⟩ := taken
  refine ⟨g, code, compressed, ?_⟩
  dsimp only at looked
  split at looked
  · cases looked
    rfl
  · have same := allocNewExtneiboard_addr panidRef 0xFFFF { c with addr := g }
    split at looked
    · rename_i grown ret allocated
      cases looked
      rw [allocated] at same
      exact congrArg makers same
    · rename_i grown i allocated
      rw [allocated] at same
      dsimp only at same
      obtain ⟨c₂, written, done⟩ := Option.map_eq_some_iff.1 looked
      cases done
      obtain ⟨code', again⟩ := setLongAddr_compress written
      rw [same] at again
      exact (compress_twice compressed).2 _ _ again

/-- **One operation interns the manufacturer it compresses, and no other.** -/
theorem addressOp_turn (c : ZbAddressCtx) (op : AddressOp) (c' : ZbAddressCtx)
    (taken : addressOpStep c op = some c') :
    Turn zbDevManufactorerTableSize (makers c.addr) op.maker (makers c'.addr) := by
  cases op with
  | call call =>
      obtain ⟨g, stepped, rfl⟩ := Option.map_eq_some_iff.1 taken
      exact addressStep_turn stepped
  | lock ref =>
      obtain ⟨g, locked, rfl⟩ := Option.map_eq_some_iff.1 taken
      exact makers_table (zbAddressLock_table locked)
  | unlock ref =>
      obtain ⟨g, unlocked, rfl⟩ := Option.map_eq_some_iff.1 taken
      exact makers_zbAddressUnlock unlocked
  | exneighborStart size =>
      simp only [addressOpStep] at taken
      split at taken
      · cases taken
        rfl
      · cases taken
  | exneighborStop =>
      cases taken
      rfl
  | exneighborByShort panidRef shortAddr =>
      cases taken
      have kept : (zbNwkExneighborByShort panidRef shortAddr c).1.addr = c.addr := by
        unfold zbNwkExneighborByShort
        split
        · rfl
        · exact allocNewExtneiboard_addr panidRef shortAddr c
      exact congrArg makers kept
  | exneighborByIeee panidRef longAddr =>
      obtain ⟨⟨_, res⟩, looked, rfl⟩ := Option.map_eq_some_iff.1 taken
      obtain ⟨g, code, compressed, same⟩ := exneighborByIeee_makers looked
      exact turn_of_compress compressed same
  | parentLong i longAddr =>
      obtain ⟨code, compressed⟩ := setLongAddr_compress taken
      exact turn_of_compress compressed rfl

theorem assertReached_iff {op : AddressOp} :
    AssertReached c op ↔ Lacks zbDevManufactorerTableSize (makers c.addr) op.maker := by
  unfold AssertReached AddressOp.maker
  cases op.ieee with
  | none => simp [Lacks]
  | some ieee => simp [Lacks, compress_eq_none]

end Turns

/-! ## Histories -/

theorem keeps_init : Keeps zbDevManufactorerTableSize (makers ZbAddressCtx.init.addr) [] :=
  keeps_empty

section Faithful

variable {g g' : ZbAddrGlobals} {ieee : ZbIeeeAddr} {code : ZbIeeeAddrCompressed}

/-- What is decompressed right after it was compressed. -/
theorem decompress_compress (compressed : zbIeeeAddrCompress ieee g = some (g', code)) :
    zbIeeeAddrDecompress g' code = ieee := by
  obtain ⟨device, -, -⟩ := zbIeeeAddrCompress_cases compressed
  rw [decompress_of_makers (compress_interns compressed).named.2, device, ZbIeeeAddr.make_parts]

/-- **A stored compressed address keeps its meaning** for as long as it is stored. -/
theorem decompress_extends {m : Vector UInt8 3} (more : Extends (makers g) (makers g'))
    (coded : makers g code.devManufacturer = some m) :
    zbIeeeAddrDecompress g' code = zbIeeeAddrDecompress g code := by
  rw [decompress_of_makers (more _ _ coded), decompress_of_makers coded]

/-- In a book without doubles, a coded address gets its code again. -/
theorem compress_again (once : Once zbDevManufactorerTableSize (makers g))
    (inside : code.devManufacturer < zbDevManufactorerTableSize)
    (coded : makers g code.devManufacturer = some (ZbIeeeAddr.manufacturer ieee))
    (device : code.deviceId = ZbIeeeAddr.deviceId ieee) :
    zbIeeeAddrCompress ieee g = some (g, code) := by
  obtain ⟨used, same⟩ := makers_eq_some.1 coded
  refine zbIeeeAddrCompress_unique device inside used same fun i lt usedI sameI => ?_
  exact once i code.devManufacturer _ lt inside (makers_eq_some.2 ⟨usedI, sameI⟩) coded

end Faithful

/-- The manufacturers a history compresses. -/
def makersOf (ops : List AddressOp) : List (Vector UInt8 3) := ops.filterMap AddressOp.maker

/-- **Address compression is faithful.**  In a history that compresses no more
manufacturers than the table has places for, an address is compressed without a
stop, its compressed form is decompressed to it then and after all later
operations, it gets the same one again, and no other address gets it. -/
theorem compress_faithful (before later : List AddressOp) (ieee : ZbIeeeAddr) (c : ZbAddressCtx)
    (few : (makersOf before ++ ZbIeeeAddr.manufacturer ieee :: makersOf later).toFinset.card ≤
      zbDevManufactorerTableSize)
    (ran : run addressOpStep .init before = some c) :
    ∃ g code, zbIeeeAddrCompress ieee c.addr = some (g, code) ∧
      zbIeeeAddrDecompress g code = ieee ∧
      ∀ d, run addressOpStep { c with addr := g } later = some d →
        zbIeeeAddrDecompress d.addr code = ieee ∧
        zbIeeeAddrCompress ieee d.addr = some (d.addr, code) ∧
        ∀ other g' code', zbIeeeAddrCompress other d.addr = some (g', code') →
          (code' = code ↔ other = ieee) := by
  have kept := keeps_of_run addressOp_turn keeps_init ran
  rw [List.nil_append] at kept
  cases compressed : zbIeeeAddrCompress ieee c.addr with
  | none =>
      have many := kept.full_iff.1 (compress_eq_none.1 compressed)
      have le : (makersOf before ++ [ZbIeeeAddr.manufacturer ieee]).toFinset.card ≤
          (makersOf before ++ ZbIeeeAddr.manufacturer ieee :: makersOf later).toFinset.card := by
        apply Finset.card_le_card
        intro m mem
        simp only [List.mem_toFinset, List.mem_append, List.mem_cons, List.not_mem_nil,
          or_false] at mem ⊢
        exact mem.imp_right Or.inl
      exact absurd (many.trans_le (le.trans few)) (Nat.lt_irrefl _)
  | some result =>
      obtain ⟨g, code⟩ := result
      refine ⟨g, code, rfl, decompress_compress compressed, fun d later_ => ?_⟩
      have interned := compress_interns compressed
      obtain ⟨inside, coded⟩ := interned.named
      obtain ⟨device, -, -⟩ := zbIeeeAddrCompress_cases compressed
      have more := extends_of_run addressOp_turn later_
      have still := more _ _ coded
      have once := (keeps_of_run addressOp_turn (kept.interns interned) later_).once
      have again := compress_again once inside still device
      have meaning : zbIeeeAddrDecompress d.addr code = ieee :=
        (decompress_extends more coded).trans (decompress_compress compressed)
      refine ⟨meaning, again, fun other g' code' taken => ⟨?_, ?_⟩⟩
      · rintro rfl
        have extended := (compress_interns taken).extends
        calc other = zbIeeeAddrDecompress g' code' := (decompress_compress taken).symm
          _ = zbIeeeAddrDecompress d.addr code' := decompress_extends extended still
          _ = ieee := meaning
      · rintro rfl
        rw [again] at taken
        cases taken
        rfl

/-- The long address of a device of the `k`-th maker. -/
def deviceOf (k : UInt8) : ZbIeeeAddr := #v[k, 0, 0, 1, 2, 3, 4, 5]

/-- An entry for a beacon, then a frame from a second maker's device, which keeps its
compressed form when a third device is looked up. -/
theorem faithful_behind_a_beacon :
    ∃ c, run addressOpStep .init [.exneighborStart 8, .exneighborByIeee 0 (deviceOf 1)] = some c ∧
      ∃ g code, zbIeeeAddrCompress (deviceOf 2) c.addr = some (g, code) ∧
        zbIeeeAddrDecompress g code = deviceOf 2 ∧
        ∀ d, run addressOpStep { c with addr := g } [.call (.byIeee (deviceOf 3) true false)] =
            some d → zbIeeeAddrDecompress d.addr code = deviceOf 2 := by
  have started := (Option.some_get (x := run addressOpStep .init
    [.exneighborStart 8, .exneighborByIeee 0 (deviceOf 1)]) (by decide)).symm
  obtain ⟨g, code, compressed, same, later⟩ := compress_faithful _
    [.call (.byIeee (deviceOf 3) true false)] (deviceOf 2) _ (by decide) started
  exact ⟨_, started, g, code, compressed, same, fun d ran => (later d ran).1⟩

/-- **When the assertion of `zb_ieee_addr_compress` is not reached.**  In a run
from the zero-initialised context no operation reaches it exactly when the
addresses of the run are of no more manufacturers than the table has places. -/
theorem assertion_unreached_iff (ops : List AddressOp) :
    Along addressOpStep (fun c op => ¬ AssertReached c op) .init ops ↔
      (trace addressOpStep (fun _ op => op.maker.toList) .init ops).toFinset.card ≤
        zbDevManufactorerTableSize := by
  have room : Along addressOpStep
      (fun c op => ¬ Lacks zbDevManufactorerTableSize (makers c.addr) op.maker) .init ops ↔ _ :=
    along_room_iff addressOp_turn keeps_init
  rw [List.nil_append] at room
  rw [← room]
  have keeps : ∀ c op c', True → ¬ AssertReached c op → addressOpStep c op = some c' → True :=
    fun _ _ _ _ _ _ => trivial
  exact along_congr keeps (fun c op _ => not_congr assertReached_iff) trivial

/-- Look up a device of each maker. -/
def lookups (ks : List UInt8) : List AddressOp :=
  ks.map fun k => .call (.byIeee (deviceOf k) false false)

/-- Looking an address up stops at the assertion only. -/
theorem run_lookups (c : ZbAddressCtx) (ks : List UInt8)
    (along : Along addressOpStep (fun c op => ¬ AssertReached c op) c (lookups ks)) :
    ∃ d, run addressOpStep c (lookups ks) = some d := by
  induction ks generalizing c with
  | nil => exact ⟨c, rfl⟩
  | cons k ks ih =>
      have taken : ∃ c', addressOpStep c (.call (.byIeee (deviceOf k) false false)) = some c' := by
        cases compressed : zbIeeeAddrCompress (deviceOf k) c.addr with
        | none => exact absurd ⟨_, rfl, compressed⟩ along.1
        | some result =>
            simp only [addressOpStep, addressStep, zbAddressByIeee, compressed,
              Option.bind_eq_bind, Option.bind_some]
            cases ieeeSearch result.1 result.2 <;> exact ⟨_, rfl⟩
      obtain ⟨c', taken⟩ := taken
      obtain ⟨d, ran⟩ := ih c' (along.2 c' taken)
      exact ⟨d, run_cons_eq_some.2 ⟨c', taken, ran⟩⟩

/-- **Frames of seventeen makers' devices stop the device**, though each of them
is only looked up. -/
theorem seventeen_makers_stop :
    ¬ ∀ ops : List AddressOp, Along addressOpStep (fun c op => ¬ AssertReached c op) .init ops := by
  intro never
  obtain ⟨d, ran⟩ := run_lookups .init ((List.range 17).map UInt8.ofNat) (never _)
  have few := (keeps_of_run addressOp_turn keeps_init ran).card_le
  revert few
  decide

end Zboss.Common.AddressCompress
