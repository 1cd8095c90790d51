/-
# Secur.Replay -- the counters of the frames a receiver lets in

A receiver takes one secured frame after another through `zb_nwk_unsecure_frame` and
notes the auxiliary header of each that it lets in.  Against replay it keeps one
counter and one key number in the entry of each neighbour.  A frame passes unless its
counter is below the one in the entry, and a frame with another key number, held or
not, forged or not, starts the counter again.

* `unsecureFrame_effect`: what one frame does to the receiver, whatever becomes of it;
* `update_placed`: what noting its address pair does to the entries of the address
  table;
* `Fits`: the condition on a frame and the receiver before it, that the comparison is
  not met with equality and that the entry is still the sender's;
* `ordered_of_run`: over every run of frames that fit, the counters of one source and
  key number go up.

Pole: `replayed`, one frame that is let in twice.
-/
import Mathlib
import Zboss.Common.Constants
import Zboss.Theory.Run
import Zboss.Common.AddressHolds
import Zboss.Nwk.NeighborIndex
import Zboss.Secur.NwkRoundTrip

namespace Zboss.Secur.Replay

open Zboss.Common.Constants
open Zboss.Theory.Run
open Zboss.Theory.Table
open Zboss.Common.Types
open Zboss.Common.Address
open Zboss.Common.AddressIndex
open Zboss.Common.AddressPairs
open Zboss.Common.AddressRun
open Zboss.Common.AddressBijection
open Zboss.Common.AddressHolds
open Zboss.Common.PacketBuf
open Zboss.Mac.Header
open Zboss.Nwk.Neighbor
open Zboss.Nwk.Forget
open Zboss.Nwk.NeighborIndex
open Zboss.Zdo.DeviceInfo
open Zboss.Nwk.Header
open Zboss.Theory.CcmStar
open Zboss.Secur.KeyMaterial
open Zboss.Secur.NwkSecure
open Zboss.Secur.Ccm
open Zboss.Secur.NwkFrame
open Zboss.Secur.NwkRoundTrip

set_option autoImplicit false

/-! ## Where a pair goes -/

section Place

variable {g g₁ g' : ZbAddrGlobals} {code : ZbIeeeAddrCompressed} {a : UInt16} {res : Except ZbRet Nat}
  {ieee : ZbIeeeAddr}

/-- The pair went to the entry that is returned; the other entries only go. -/
structure Placed (g g' : ZbAddrGlobals) (code : ZbIeeeAddrCompressed) (res : Except ZbRet Nat) : Prop where
  slots : manufacturers g' = manufacturers g
  others : ∀ q p, res ≠ .ok q → pairs g' q = some p → pairs g q = some p
  here : ∀ r p, res = .ok r → pairs g' r = some p → p.1 = code

theorem Placed.congr {g₂ : ZbAddrGlobals} (placed : Placed g g₁ code res) (same : table g₂ = table g₁) :
    Placed g g₂ code res where
  slots := (table_congr manufacturers (fun _ => rfl) same).trans placed.slots
  others q p ne there := placed.others q p ne (pairs_congr same ▸ there)
  here r p is there := placed.here r p is (pairs_congr same ▸ there)

theorem placed_setPair {ref : Nat} (taken : setPair ref code a g = some g') : Placed g g' code (.ok ref) := by
  obtain ⟨others, here, manu⟩ := setPair_ent taken
  refine ⟨manu, ?_, ?_⟩
  · intro q p ne there
    have apart : q ≠ ref := fun same => ne (by rw [same])
    simpa only [pairs, others q apart] using there
  · rintro _ p ⟨⟩ there
    rw [← (pairs_eq_some.1 there).2.2.1, here]

/-- Another entry is deleted before. -/
theorem Placed.after_delete {ref : Nat} (placed : Placed (zbAddressDelete ref g) g' code res) :
    Placed g g' code res where
  slots := placed.slots
  others q p ne there := by
    have before := placed.others q p ne there
    have apart : q ≠ ref := by
      rintro rfl
      rw [pairs_of_free (by rw [zbAddressDelete_self])] at before
      cases before
    simpa only [pairs, zbAddressDelete_of_ne apart] using before
  here := placed.here

/-- Listing an entry does not touch the entries. -/
theorem listEnt_ents {i : Nat} (taken : listEnt i a g = some g') :
    g'.addrMap = g.addrMap ∧ manufacturers g' = manufacturers g := by
  rw [listEnt] at taken
  split at taken
  · obtain ⟨-, ⟨sorted, rfl⟩, -⟩ := addShortSorted_insert taken
    split
    · exact ⟨rfl, rfl⟩
    · exact ⟨rfl, rfl⟩
  · cases taken
    exact ⟨rfl, rfl⟩

theorem placed_addrAdd (taken : addrAdd (some code) a g = some (g', res)) : Placed g g' code res := by
  simp only [addrAdd] at taken
  split at taken
  · cases taken
    exact ⟨rfl, fun _ _ _ there => there, by simp⟩
  · rename_i i found
    simp only [Option.bind_eq_bind, Option.bind_eq_some_iff] at taken
    obtain ⟨g₁, listed, done⟩ := taken
    cases done
    obtain ⟨ents, manu⟩ := listEnt_ents listed
    have ticked : table (clockTick g) = table g := clockTick_table g
    refine ⟨?_, ?_, ?_⟩
    · have same : manufacturers (clockTick g) = manufacturers g := table_congr manufacturers (fun _ => rfl) ticked
      exact manu.trans same
    · intro q p ne there
      have apart : q ≠ i := fun same => ne (by rw [same])
      have same : (useEnt i g₁).addrMap q = (clockTick g).addrMap q := by
        rw [useEnt, setEnt_of_ne _ _ _ apart]
        show g₁.addrMap q = _
        rw [ents, writeEnt, setEnt_of_ne _ _ _ apart]
      rw [← pairs_congr ticked]
      simpa only [pairs, same] using there
    · rintro _ p ⟨⟩ there
      have wrote : ((useEnt i g₁).addrMap i).ieeeAddr = code := by
        rw [useEnt, setEnt_self]
        show (g₁.addrMap i).ieeeAddr = _
        rw [ents, writeEnt, setEnt_self]
        rfl
      rw [← (pairs_eq_some.1 there).2.2.1, wrote]

/-- The entry of a source is the only one with its long address. -/
def Single (g : ZbAddrGlobals) (code : ZbIeeeAddrCompressed) : Prop :=
  ∀ q < zbIeeeAddrTableSize, (g.addrMap q).used = true → (g.addrMap q).ieeeAddr = code →
    ieeeSearch g code = some q

theorem Single.found (single : Single g code) {q : Nat} {p : Pair} (there : pairs g q = some p)
    (is : p.1 = code) : ieeeSearch g code = some q := by
  obtain ⟨inside, used, named, -⟩ := pairs_eq_some.1 there
  exact single q inside used (named.trans is)

/-- **Where an update puts its pair**: nothing else comes in; a source that had one
entry has one; and it is the one it had, unless the short address is held by another
that is locked. -/
theorem update_placed {lock : Bool} (taken : zbAddressUpdate ieee a lock g = some (g', res)) :
    ∃ g₁ code, zbIeeeAddrCompress ieee g = some (g₁, code) ∧ Placed g₁ g' code res ∧
      (Single g₁ code → ∀ r q p, res = .ok r → pairs g' q = some p → p.1 = code → q = r) ∧
      ∀ r r₀, res = .ok r → ieeeSearch g₁ code = some r₀ →
        (∀ q ∈ shortSearch g₁ a, q = r₀ ∨ (g₁.addrMap q).lockCnt = 0) → r = r₀ := by
  obtain ⟨g₁, code, g₂, found, compressed, resolved, written⟩ := zbAddressUpdate_cases taken
  refine ⟨g₁, code, compressed, ?_⟩
  have placed : Placed g₂ g' code res := by
    rcases written with ⟨ref, g₃, -, set, same, rfl⟩ | ⟨-, g₃, added, same⟩
    · exact (placed_setPair set).congr same
    · exact (placed_addrAdd added).congr same
  have target : ∀ r, found = some r → ∀ r', res = .ok r' → r' = r := by
    rintro r hit r' is
    rcases written with ⟨ref, g₃, hit', -, -, rfl⟩ | ⟨missed, -⟩
    · cases hit
      cases hit'
      cases is
      rfl
    · rw [hit] at missed
      cases missed
  -- an entry that is not the one returned held the pair before, so the search finds it
  have other : Placed g₁ g' code res → Single g₁ code → ∀ r q p, res = .ok r → pairs g' q = some p →
      p.1 = code → q ≠ r → ieeeSearch g₁ code = some q := by
    intro placed single r q p is there named ne
    apply single.found (placed.others q p ?_ there) named
    intro same
    rw [is] at same
    exact ne (Except.ok.inj same).symm
  rcases resolveRef_cases resolved with ⟨-, fl, -, rfl⟩ | ⟨ref, hit, rfl, which⟩ |
    ⟨ref, refLong, fs, fl, ne, ⟨free, hit, rfl⟩ | ⟨held, -, hit, rfl⟩⟩
  · refine ⟨placed, ?_, ?_⟩
    · intro single r q p is there named
      by_contra ne
      have found := other placed single r q p is there named ne
      rw [fl] at found
      cases found
    · intro r r₀ _ longFound
      rw [fl] at longFound
      cases longFound
  · refine ⟨placed, ?_, ?_⟩
    · intro single r q p is there named
      obtain rfl := target ref hit r is
      by_contra ne
      have found := other placed single r q p is there named ne
      rcases which with ⟨-, fl⟩ | ⟨-, fl⟩ | ⟨-, fl⟩ <;> rw [fl] at found <;> cases found
      · exact ne rfl
      · exact ne rfl
    · intro r r₀ is longFound _
      obtain rfl := target ref hit r is
      rcases which with ⟨-, fl⟩ | ⟨-, fl⟩ | ⟨-, fl⟩ <;> rw [fl] at longFound <;> cases longFound
      · rfl
      · rfl
  · refine ⟨placed.after_delete, ?_, ?_⟩
    · intro single r q p is there named
      obtain rfl := target refLong hit r is
      by_contra ne
      have found := other placed.after_delete single r q p is there named ne
      rw [fl] at found
      cases found
      exact ne rfl
    · intro r r₀ is longFound _
      obtain rfl := target refLong hit r is
      rw [fl] at longFound
      cases longFound
      rfl
  · refine ⟨placed.after_delete, ?_, ?_⟩
    · intro single r q p is there named
      obtain rfl := target ref hit r is
      by_contra ne'
      have found := other placed.after_delete single r q p is there named ne'
      rw [fl] at found
      cases found
      -- what was deleted is not there any more
      have kept := placed.others refLong p (by rw [is]; simpa using ne) there
      rw [pairs_of_free (by rw [zbAddressDelete_self])] at kept
      cases kept
    · intro r r₀ is longFound unlocked
      obtain rfl := target ref hit r is
      rw [fl] at longFound
      cases longFound
      rcases unlocked r fs with same | free
      · exact same
      · exact absurd free held

end Place

/-! ## The entry of the sender -/

/-- The neighbour that an address leads to. -/
def entryOf (t : ZbNeighborTbl) (ref : Nat) : Option ZbNeighborTblEnt :=
  (indexOf t.addrToNeighbor ref).map t.baseNeighbor

/-- The table while frames arrive. -/
structure TableOk (t : ZbNeighborTbl) : Prop where
  tidy : Tidy t t.baseNeighborSize
  room : t.baseNeighborUsed ≤ t.baseNeighborSize
  small : t.baseNeighborSize ≤ 32

section Sender

variable {s s₁ : RecvContext} {t t' : ZbNeighborTbl} {g g' : ZbAddrGlobals} {n ref : Nat}
  {found : Except ZbRet Nat} {stackRef : Nat} {mhr : ZbMacMhr} {ieee : ZbIeeeAddr} {srcAddr : UInt16}
  {direct : Bool} {depth : UInt8}

/-- The entry is found, or made in a table that has room; otherwise nothing moves. -/
structure Got (ref : Nat) (t t' : ZbNeighborTbl) (found : Except ZbRet Nat) : Prop where
  ok : TableOk t'
  failed : ∀ status, found = .error status → t' = t ∧ t.addrToNeighbor ref = 255
  there : ∀ n, found = .ok n → indexOf t'.addrToNeighbor ref = some n ∧
    (t' = t ∨ t.addrToNeighbor ref = 255)
  others : ∀ q ≠ ref, entryOf t' q = entryOf t q

theorem neighborGet_got (ok : TableOk t)
    (room : direct = true → t.addrToNeighbor ref = 255 → t.baseNeighborUsed ≠ t.baseNeighborSize)
    (taken : zbNwkNeighborGet ref direct depth g t = some (g', t', found)) :
    table g' = table g ∧ Got ref t t' found := by
  unfold zbNwkNeighborGet at taken
  dsimp only at taken
  split at taken
  · rename_i absent
    split at taken
    · rename_i creating
      split at taken
      · cases taken
        exact ⟨rfl, ok, fun _ _ => ⟨rfl, absent⟩, nofun, fun _ _ => rfl⟩
      · rename_i notLast
        simp only [Option.bind_eq_bind, Option.bind_eq_some_iff] at taken
        obtain ⟨g₁, locked, done⟩ := taken
        cases done
        have space : t.baseNeighborUsed < t.baseNeighborSize := by
          have := room creating absent
          have := ok.room
          omega
        have index : t.baseNeighborUsed < 255 := by
          have := ok.small
          omega
        have tidy : Tidy (appendNeighbor ref (newNeighbor ref depth) t) t.baseNeighborSize :=
          ok.tidy.append space ok.small absent rfl rfl
        refine ⟨zbAddressLock_table locked, ⟨tidy, space, ok.small⟩, nofun, ?_, ?_⟩
        · rintro _ ⟨⟩
          dsimp only
          rw [indexOf_enter index, Function.update_self]
          exact ⟨rfl, .inr absent⟩
        · intro q ne
          rw [entryOf, entryOf]
          dsimp only
          rw [indexOf_enter index, Function.update_of_ne ne]
          cases at_ : indexOf t.addrToNeighbor q with
          | none => rfl
          | some i =>
              -- what is in the index is in the used part
              obtain ⟨inside, on, -⟩ := ok.tidy.indexed.found q i at_
              have below := ok.tidy.below i inside on
              exact congrArg some (Function.update_of_ne (by omega) ..)
    · cases taken
      exact ⟨rfl, ok, fun _ _ => ⟨rfl, absent⟩, nofun, fun _ _ => rfl⟩
  · rename_i present
    cases taken
    refine ⟨rfl, ok, nofun, ?_, fun _ _ => rfl⟩
    rintro _ ⟨⟩
    exact ⟨indexOf_eq_some.2 ⟨present, rfl⟩, .inl rfl⟩

/-- **The sender of a frame with a short address**: an update of the address table,
and the entry of the reference it returns. -/
theorem unsecureNeighborGet_split
    (short : fcfGetSrcAddressingMode mhr.frameControl = zbAddr16bitDevOrBroadcast)
    (got : unsecureNeighborGet stackRef mhr ieee srcAddr s = some (s₁, found)) :
    ∃ addr res, zbAddressUpdate ieee (addrShort mhr.srcAddr) false s.secur.addr = some (addr, res) ∧
      ((∃ status, res = .error status ∧ found = .error status ∧
          s₁ = { s with secur := { s.secur with addr } }) ∨
        ∃ ref addr' neighbor, res = .ok ref ∧
          zbNwkNeighborGet ref (srcAddr == addrShort mhr.srcAddr) s.depth addr s.neighbor =
            some (addr', neighbor, found) ∧
          s₁ = { s with secur := { s.secur with addr := addr' }, neighbor }) := by
  simp only [unsecureNeighborGet, if_pos short, Option.bind_eq_bind, Option.bind_eq_some_iff] at got
  obtain ⟨⟨addr, res⟩, updated, got⟩ := got
  refine ⟨addr, res, updated, ?_⟩
  cases res with
  | error status =>
      cases got
      exact .inl ⟨status, rfl, rfl, rfl⟩
  | ok ref =>
      simp only [Option.bind_eq_some_iff] at got
      obtain ⟨⟨addr', neighbor, nbe⟩, looked, got⟩ := got
      cases got
      exact .inr ⟨ref, addr', neighbor, rfl, looked, rfl⟩

end Sender

/-! ## What one frame does -/

section Effect

variable {aes128 : ZbKey → Block → Block} {stack : Vector UInt8 zbIoBufSize} {random : ZbKey}
  {mhr : ZbMacMhr} {mhrLen stackRef n hdrSize auxPos : Nat} {key : ZbKey} {s s₁ s' : RecvContext}
  {nsdu : ZbBuf} {outcome : UnsecureOutcome} {k : UInt8} {c : UInt32}

/-- Where the frame says who sent it. -/
def frameAux (nsdu : ZbBuf) : Option (UInt16 × ZbNwkAuxFrameHdr) := do
  let nwkHdr ← peek nsdu.buf nsdu.begin_ 8
  let aux ← peek nsdu.buf (nsdu.begin_ + zbNwkHdrSize nwkHdr - auxFrameHdrSize) auxFrameHdrSize
  return (nwhdrSrcAddr nwkHdr, auxAt aux)

/-- What a frame with key number `k` and counter `c` makes of its sender's entry: it
has that key number, and the counter it had, started again for another key number,
or that of the frame when it is not below. -/
structure Marked (k : UInt8) (c : UInt32) (accepted : Bool) (old new : ZbNeighborTblEnt) : Prop where
  name : new.addrRef = old.addrRef
  flag : new.used = old.used
  key : new.keySeqNumber = k
  counter : new.incomingFrameCounter = (switchPeerKey k old).incomingFrameCounter ∨
    staleCounter c (switchPeerKey k old) = false ∧ new.incomingFrameCounter = c
  fresh : accepted = true →
    staleCounter c (switchPeerKey k old) = false ∧ new.incomingFrameCounter = c

theorem demoteChild_fields (nbe : ZbNeighborTblEnt) :
    (demoteChild nbe).addrRef = nbe.addrRef ∧ (demoteChild nbe).used = nbe.used ∧
      (demoteChild nbe).keySeqNumber = nbe.keySeqNumber ∧
      (demoteChild nbe).incomingFrameCounter = nbe.incomingFrameCounter := by
  rw [demoteChild]
  split <;> exact ⟨rfl, rfl, rfl, rfl⟩

theorem promoteChild_fields (nbe : ZbNeighborTblEnt) :
    (promoteChild nbe).addrRef = nbe.addrRef ∧ (promoteChild nbe).used = nbe.used ∧
      (promoteChild nbe).keySeqNumber = nbe.keySeqNumber ∧
      (promoteChild nbe).incomingFrameCounter = nbe.incomingFrameCounter := by
  rw [promoteChild]
  split <;> exact ⟨rfl, rfl, rfl, rfl⟩

/-- Another entry, or another table, is not touched. -/
structure Rewrites (n : Nat) (t t' : ZbNeighborTbl) : Prop where
  index : t'.addrToNeighbor = t.addrToNeighbor
  handed : t'.baseNeighborUsed = t.baseNeighborUsed
  size : t'.baseNeighborSize = t.baseNeighborSize
  others : ∀ m ≠ n, t'.baseNeighbor m = t.baseNeighbor m

theorem Rewrites.trans {t t₁ t' : ZbNeighborTbl} (first : Rewrites n t t₁) (second : Rewrites n t₁ t') :
    Rewrites n t t' where
  index := second.index.trans first.index
  handed := second.handed.trans first.handed
  size := second.size.trans first.size
  others m ne := (second.others m ne).trans (first.others m ne)

theorem rewrites_setNbe (s : RecvContext) (n : Nat) (f : ZbNeighborTblEnt → ZbNeighborTblEnt) :
    Rewrites n s.neighbor (s.setNbe n f).neighbor :=
  ⟨rfl, rfl, rfl, fun _ ne => Function.update_of_ne ne ..⟩

/-- The entry after the key number of the frame was noted. -/
theorem marked_switch (k : UInt8) (c : UInt32) (nbe : ZbNeighborTblEnt) :
    Marked k c false nbe (switchPeerKey k (demoteChild nbe)) := by
  obtain ⟨name, flag, key, counter⟩ := demoteChild_fields nbe
  simp only [switchPeerKey, key]
  split
  · rename_i other
    refine ⟨name, flag, rfl, .inl ?_, by simp⟩
    rw [switchPeerKey, if_pos other]
  · rename_i same
    refine ⟨name, flag, key.trans (not_not.1 same), .inl ?_, by simp⟩
    rw [switchPeerKey, if_neg same, counter]

theorem checkFreshness_effect (n : Nat) (k : UInt8) (c : UInt32) (s : RecvContext) :
    (checkFreshness n k c s).1.secur = s.secur ∧
      Rewrites n s.neighbor (checkFreshness n k c s).1.neighbor ∧
      ∀ accepted, (accepted = true → ∃ key, (checkFreshness n k c s).2 = .ok key) →
        Marked k c accepted (s.neighbor.baseNeighbor n)
          ((checkFreshness n k c s).1.neighbor.baseNeighbor n) := by
  have switched := rewrites_setNbe s n fun nbe => switchPeerKey k (demoteChild nbe)
  obtain ⟨name, flag, key, counter, -⟩ := marked_switch k c (s.neighbor.baseNeighbor n)
  simp only [checkFreshness]
  split
  · refine ⟨rfl, switched, ?_⟩
    intro accepted ok
    rw [setNbe_self]
    exact ⟨name, flag, key, counter, fun yes => by cases (ok yes).choose_spec⟩
  · split
    · refine ⟨rfl, switched, ?_⟩
      intro accepted ok
      rw [setNbe_self]
      exact ⟨name, flag, key, counter, fun yes => by cases (ok yes).choose_spec⟩
    · rename_i notStale
      rw [setNbe_self, staleCounter_demoteChild, Bool.not_eq_true] at notStale
      refine ⟨rfl, switched.trans (rewrites_setNbe ..), ?_⟩
      intro accepted _
      rw [setNbe_self, setNbe_self]
      exact ⟨name, flag, key, .inr ⟨notStale, rfl⟩, fun _ => ⟨notStale, rfl⟩⟩

theorem implicitKeySwitch_addr (k : UInt8) (random : ZbKey) (c : SecurContext) :
    (implicitKeySwitch k random c).addr = c.addr := by
  unfold implicitKeySwitch
  split
  · unfold securNwkKeySwitch
    dsimp only
    split
    · split <;> rfl
    · rfl
  · rfl

/-- Decrypting moves nothing in the tables but the relationship of the sender. -/
theorem unsecureDecrypt_effect
    (taken : unsecureDecrypt aes128 stack random mhr mhrLen n hdrSize auxPos key s nsdu = some (s', outcome)) :
    s'.secur.addr = s.secur.addr ∧ Rewrites n s.neighbor s'.neighbor ∧
      (s'.neighbor.baseNeighbor n = s.neighbor.baseNeighbor n ∨
        s'.neighbor.baseNeighbor n = promoteChild (s.neighbor.baseNeighbor n)) := by
  have still : Rewrites n s.neighbor s.neighbor := ⟨rfl, rfl, rfl, fun _ _ => rfl⟩
  unfold unsecureDecrypt at taken
  dsimp only at taken
  split at taken
  · simp only [Option.bind_eq_bind, Option.bind_eq_some_iff] at taken
    obtain ⟨_, -, _, -, done⟩ := taken
    cases done
    exact ⟨rfl, still, .inl rfl⟩
  · simp only [Option.bind_eq_bind, Option.bind_eq_some_iff] at taken
    obtain ⟨_, -, _, -, ⟨_, ret⟩, -, taken⟩ := taken
    cases ret with
    | error _ =>
        simp only [Option.bind_eq_some_iff] at taken
        obtain ⟨_, -, done⟩ := taken
        cases done
        exact ⟨rfl, still, .inl rfl⟩
    | ok _ =>
        simp only [Option.bind_eq_some_iff] at taken
        obtain ⟨_, -, _, -, done⟩ := taken
        cases done
        refine ⟨implicitKeySwitch_addr .., rewrites_setNbe s n promoteChild, .inr ?_⟩
        exact setNbe_self s n promoteChild

/-- **One frame**: it is not looked at; or its sender has no entry; or its sender's
entry is rewritten, and nothing else in the tables, whatever becomes of the frame. -/
theorem unsecureFrame_effect
    (taken : zbNwkUnsecureFrame aes128 stack random mhr mhrLen stackRef s nsdu = some (s', outcome)) :
    (s' = s ∧ outcome.ret.isOk = false) ∨
      ∃ hdr s₁ found, frameAux nsdu = some hdr ∧
        unsecureNeighborGet stackRef mhr hdr.2.sourceAddress hdr.1 s = some (s₁, found) ∧
        s'.secur.addr = s₁.secur.addr ∧
        ((∃ status, found = .error status ∧ s'.neighbor = s₁.neighbor ∧ outcome.ret.isOk = false) ∨
          ∃ n, found = .ok n ∧ Rewrites n s₁.neighbor s'.neighbor ∧
            Marked hdr.2.keySeqNumber hdr.2.frameCounter outcome.ret.isOk (s₁.neighbor.baseNeighbor n)
              (s'.neighbor.baseNeighbor n)) := by
  unfold zbNwkUnsecureFrame at taken
  split at taken
  · cases taken
    exact .inl ⟨rfl, rfl⟩
  · simp only [Option.bind_eq_bind, Option.bind_eq_some_iff] at taken
    obtain ⟨nwkHdr, readHdr, aux, readAux, ⟨s₁, found⟩, got, taken⟩ := taken
    refine .inr ⟨(nwhdrSrcAddr nwkHdr, auxAt aux), s₁, found, ?_, got, ?_⟩
    · simp only [frameAux, readHdr, readAux, Option.bind_eq_bind, Option.bind_some]
      rfl
    cases found with
    | error status =>
        simp only [Option.bind_eq_some_iff] at taken
        obtain ⟨_, -, done⟩ := taken
        cases done
        exact ⟨rfl, .inl ⟨status, rfl, rfl, rfl⟩⟩
    | ok n =>
        obtain ⟨secur, moved, marked⟩ := checkFreshness_effect n (auxAt aux).keySeqNumber
          (auxAt aux).frameCounter s₁
        dsimp only at taken
        split at taken
        · simp only [Option.bind_eq_some_iff] at taken
          obtain ⟨_, -, done⟩ := taken
          cases done
          refine ⟨by rw [secur], .inr ⟨n, rfl, moved, marked _ nofun⟩⟩
        · rename_i key passed
          obtain ⟨addr, rewritten, last⟩ := unsecureDecrypt_effect taken
          refine ⟨addr.trans (by rw [secur]), .inr ⟨n, rfl, moved.trans rewritten, ?_⟩⟩
          have made := marked outcome.ret.isOk fun _ => ⟨key, passed⟩
          rcases last with same | same
          · rw [same]
            exact made
          · obtain ⟨name, flag, isKey, counter⟩ := promoteChild_fields
              ((checkFreshness n (auxAt aux).keySeqNumber (auxAt aux).frameCounter s₁).1.neighbor.baseNeighbor n)
            rw [same]
            exact ⟨name.trans made.name, flag.trans made.flag, isKey.trans made.key,
              by rw [counter]; exact made.counter, by rw [counter]; exact made.fresh⟩

end Effect

/-! ## Runs, and the condition on a frame -/

/-- A secured frame as it arrives: its buffer, the MAC header that was cut off, and
what the stack and the source of random keys hold then. -/
structure Frame where
  mhr : ZbMacMhr
  mhrLen : Nat
  stackRef : Nat
  stack : Vector UInt8 zbIoBufSize
  random : ZbKey
  nsdu : ZbBuf

/-- A receiver, and the auxiliary headers of the frames it let in. -/
structure Receiver where
  recv : RecvContext
  accepted : List ZbNwkAuxFrameHdr

def receive (aes128 : ZbKey → Block → Block) (w : Receiver) (f : Frame) : Option Receiver := do
  let (recv, outcome) ← zbNwkUnsecureFrame aes128 f.stack f.random f.mhr f.mhrLen f.stackRef w.recv f.nsdu
  return { recv, accepted := w.accepted ++
    if outcome.ret.isOk then ((frameAux f.nsdu).map Prod.snd).toList else [] }

/-- **No replay**: of two frames of one source under one key number, the later one
has the larger counter. -/
def Ordered (accepted : List ZbNwkAuxFrameHdr) : Prop :=
  accepted.Pairwise fun a b => a.sourceAddress = b.sourceAddress → a.keySeqNumber = b.keySeqNumber →
    a.frameCounter < b.frameCounter

/-- The pair of the frame leads to an entry of its source, and that entry is so. -/
def SenderEntry (s : RecvContext) (ieee : ZbIeeeAddr) (a : UInt16) (holds : ZbNeighborTblEnt → Prop) : Prop :=
  ∃ r ∈ foundLong s.secur.addr ieee,
    (∀ q ∈ shortSearch s.secur.addr a, q = r ∨ (s.secur.addr.addrMap q).lockCnt = 0) ∧
      ∃ nbe ∈ entryOf s.neighbor r, holds nbe

/-- **When a frame is told from a replay**: it has a short source address, and its
source one entry in the address table; where a frame of this source and key number was
let in before, the entry of the source still has the key number, and another counter
than the frame; and no entry is made in a full table. -/
structure Fits (w : Receiver) (f : Frame) : Prop where
  short : fcfGetSrcAddressingMode f.mhr.frameControl = zbAddr16bitDevOrBroadcast
  single : ∀ hdr ∈ frameAux f.nsdu,
    ∀ code ∈ (zbIeeeAddrCompress hdr.2.sourceAddress w.recv.secur.addr).map Prod.snd,
      Single w.recv.secur.addr code
  current : ∀ hdr ∈ frameAux f.nsdu,
    (∃ a ∈ w.accepted, a.sourceAddress = hdr.2.sourceAddress ∧ a.keySeqNumber = hdr.2.keySeqNumber) →
      SenderEntry w.recv hdr.2.sourceAddress (addrShort f.mhr.srcAddr) fun nbe =>
        nbe.keySeqNumber = hdr.2.keySeqNumber ∧ nbe.incomingFrameCounter ≠ hdr.2.frameCounter
  room : ∀ hdr ∈ frameAux f.nsdu, hdr.1 = addrShort f.mhr.srcAddr →
    w.recv.neighbor.baseNeighborUsed = w.recv.neighbor.baseNeighborSize →
      SenderEntry w.recv hdr.2.sourceAddress (addrShort f.mhr.srcAddr) fun _ => True

/-! ## What a frame that fits does -/

section Step

variable {aes128 : ZbKey → Block → Block} {g g' : ZbAddrGlobals} {code code' : ZbIeeeAddrCompressed}
  {ieee ieee' : ZbIeeeAddr} {w w' : Receiver} {f : Frame} {s s' : RecvContext}

/-- The address compresses to this code, and its manufacturer has a place. -/
structure Known (g : ZbAddrGlobals) (ieee : ZbIeeeAddr) (code : ZbIeeeAddrCompressed) : Prop where
  device : code.deviceId = ZbIeeeAddr.deviceId ieee
  inside : code.devManufacturer < zbDevManufactorerTableSize
  used : g.usedManufacturer code.devManufacturer = true
  same : g.devManufacturer code.devManufacturer = ZbIeeeAddr.manufacturer ieee

theorem Known.source (first : Known g ieee code) (second : Known g ieee' code) : ieee = ieee' := by
  rw [← ZbIeeeAddr.make_parts ieee, ← ZbIeeeAddr.make_parts ieee', ← first.device, ← second.device, ← first.same,
    ← second.same]

theorem Known.code_eq (distinct : ManufacturersDistinct g) (first : Known g ieee code)
    (second : Known g ieee code') : code = code' := by
  have one := zbIeeeAddrCompress_known distinct first.device first.inside first.used first.same
  have two := zbIeeeAddrCompress_known distinct second.device second.inside second.used second.same
  rw [one] at two
  cases two
  rfl

/-- No manufacturer loses its place. -/
def SlotsKept (g g' : ZbAddrGlobals) : Prop :=
  ∀ i, g.usedManufacturer i = true → g'.usedManufacturer i = true ∧ g'.devManufacturer i = g.devManufacturer i

theorem Known.later (known : Known g ieee code) (kept : SlotsKept g g') : Known g' ieee code := by
  obtain ⟨used, same⟩ := kept _ known.used
  exact ⟨known.device, known.inside, used, same.trans known.same⟩

/-- Apart from one reference, what has an entry had it before, under the same pair. -/
def Narrows (but : Option Nat) (s s' : RecvContext) : Prop :=
  ∀ q p nbe, some q ≠ but → pairs s'.secur.addr q = some p → entryOf s'.neighbor q = some nbe →
    pairs s.secur.addr q = some p ∧ entryOf s.neighbor q = some nbe

/-- The reference `r` is that of the source now, with the entry `new`; a source that
had an entry had it there. -/
structure Sent (s s' : RecvContext) (ieee : ZbIeeeAddr) (a : UInt16) (r : Nat) (code : ZbIeeeAddrCompressed)
    (old new : ZbNeighborTblEnt) : Prop where
  known : Known s'.secur.addr ieee code
  narrows : Narrows (some r) s s'
  here : ∀ p, pairs s'.secur.addr r = some p → p.1 = code
  only : ∀ q p, pairs s'.secur.addr q = some p → p.1 = code → q = r
  before : entryOf s.neighbor r = some old ∨ entryOf s.neighbor r = none
  entry : entryOf s'.neighbor r = some new
  stays : ∀ holds, SenderEntry s ieee a holds →
    ∃ b nbe, pairs s.secur.addr r = some (code, b) ∧ entryOf s.neighbor r = some nbe ∧ holds nbe

theorem TableOk.rewrites {t t' : ZbNeighborTbl} {n : Nat} (ok : TableOk t) (moved : Rewrites n t t')
    (name : (t'.baseNeighbor n).addrRef = (t.baseNeighbor n).addrRef)
    (flag : (t'.baseNeighbor n).used = (t.baseNeighbor n).used) : TableOk t' := by
  obtain ⟨index, handed, size, others⟩ := moved
  have same : t' = setNeighbor n (fun _ => t'.baseNeighbor n) t := by
    have slots : t'.baseNeighbor = Function.update t.baseNeighbor n (t'.baseNeighbor n) :=
      Function.eq_update_iff.2 ⟨rfl, others⟩
    cases t
    cases t'
    simp only [setNeighbor, ZbNeighborTbl.mk.injEq]
    exact ⟨slots, index, size, handed⟩
  have tidy : Tidy (setNeighbor n (fun _ => t'.baseNeighbor n) t) t.baseNeighborSize := ok.tidy.rewrite flag name
  rw [← same, ← size] at tidy
  exact ⟨tidy, by rw [handed, size]; exact ok.room, by rw [size]; exact ok.small⟩

/-- The entries after one of them was rewritten. -/
theorem entryOf_rewrites {t t' : ZbNeighborTbl} {n r : Nat} (ok : TableOk t) (moved : Rewrites n t t')
    (leads : indexOf t.addrToNeighbor r = some n) :
    entryOf t' r = some (t'.baseNeighbor n) ∧ ∀ q ≠ r, entryOf t' q = entryOf t q := by
  constructor
  · rw [entryOf, moved.index, leads]
    rfl
  · intro q ne
    rw [entryOf, entryOf, moved.index]
    cases at_ : indexOf t.addrToNeighbor q with
    | none => rfl
    | some m =>
        have apart : m ≠ n := by
          rintro rfl
          obtain ⟨-, -, first⟩ := ok.tidy.indexed.found q m at_
          obtain ⟨-, -, second⟩ := ok.tidy.indexed.found r m leads
          exact ne (first.symm.trans second)
        exact congrArg some (moved.others m apart)

/-- Compressing an address moves no search. -/
theorem searches_compress (compressed : zbIeeeAddrCompress ieee g = some (g', code)) :
    pairs g' = pairs g ∧ (∀ a, shortSearch g' a = shortSearch g a) ∧ ieeeSearch g' code = ieeeSearch g code ∧
      (Single g code → Single g' code) := by
  obtain ⟨-, -, ⟨-, -, rfl⟩ | ⟨-, -, rfl⟩⟩ := zbIeeeAddrCompress_cases compressed
  · exact ⟨rfl, fun _ => rfl, rfl, id⟩
  · exact ⟨rfl, fun _ => rfl, rfl, id⟩

/-- What an update means for the sources of the frames. -/
theorem update_known {a : UInt16} {addr : ZbAddrGlobals} {res : Except ZbRet Nat}
    (distinct : ManufacturersDistinct g)
    (single : ∀ code ∈ (zbIeeeAddrCompress ieee g).map Prod.snd, Single g code)
    (taken : zbAddressUpdate ieee a false g = some (addr, res)) :
    ManufacturersDistinct addr ∧ SlotsKept g addr ∧
      (∀ q p, res ≠ .ok q → pairs addr q = some p → pairs g q = some p) ∧
      ∃ code, Known addr ieee code ∧
        (∀ r p, res = .ok r → pairs addr r = some p → p.1 = code) ∧
        (∀ r q p, res = .ok r → pairs addr q = some p → p.1 = code → q = r) ∧
        ∀ r r₀, res = .ok r → foundLong g ieee = some r₀ →
          (∀ q ∈ shortSearch g a, q = r₀ ∨ (g.addrMap q).lockCnt = 0) →
          r = r₀ ∧ ∃ b, pairs g r₀ = some (code, b) := by
  obtain ⟨g₁, code, compressed, placed, only, stays⟩ := update_placed taken
  obtain ⟨device, inside, used, same⟩ := compress_code compressed
  have calm := calm_compress compressed
  have distinct₁ := manufacturersDistinct_compress distinct compressed
  have slots := placed.slots
  simp only [manufacturers, Prod.mk.injEq] at slots
  obtain ⟨usedSame, devSame⟩ := slots
  obtain ⟨pairs₁, short, -, one⟩ := searches_compress compressed
  have long : foundLong g ieee = ieeeSearch g₁ code := by
    rw [foundLong, compressed]
    rfl
  refine ⟨?_, ?_, ?_, code, ⟨device, inside, ?_, ?_⟩, placed.here, ?_, ?_⟩
  · unfold ManufacturersDistinct
    rw [usedSame, devSame]
    exact distinct₁
  · unfold SlotsKept
    rw [usedSame, devSame]
    exact calm.manufacturers
  · rw [← pairs₁]
    exact placed.others
  · rw [usedSame]
    exact used
  · rw [devSame]
    exact same
  · apply only
    apply one
    apply single
    rw [compressed]
    rfl
  · intro r r₀ is found unlocked
    rw [long] at found
    refine ⟨stays r r₀ is found ?_, pairs₁ ▸ ieeeSearch_eq_some found⟩
    intro q atShort
    rw [short] at atShort
    rw [calm.lockCnt]
    exact unlocked q atShort

/-- The invariants of the tables that the receiver's counters rest on. -/
structure TablesOk (s : RecvContext) : Prop where
  neighbor : TableOk s.neighbor
  distinct : ManufacturersDistinct s.secur.addr

/-- **The entry of the sender** is found or made, or nothing comes into the tables. -/
theorem sender_sent {stackRef : Nat} {mhr : ZbMacMhr} {srcAddr : UInt16} {found : Except ZbRet Nat}
    (ok : TablesOk s) (short : fcfGetSrcAddressingMode mhr.frameControl = zbAddr16bitDevOrBroadcast)
    (single : ∀ code ∈ (zbIeeeAddrCompress ieee s.secur.addr).map Prod.snd, Single s.secur.addr code)
    (room : srcAddr = addrShort mhr.srcAddr → s.neighbor.baseNeighborUsed = s.neighbor.baseNeighborSize →
      SenderEntry s ieee (addrShort mhr.srcAddr) fun _ => True)
    (got : unsecureNeighborGet stackRef mhr ieee srcAddr s = some (s', found)) :
    TablesOk s' ∧ SlotsKept s.secur.addr s'.secur.addr ∧
      ((∃ status, found = .error status ∧ Narrows none s s') ∨
        ∃ n r code, found = .ok n ∧ indexOf s'.neighbor.addrToNeighbor r = some n ∧
          Sent s s' ieee (addrShort mhr.srcAddr) r code (s'.neighbor.baseNeighbor n)
            (s'.neighbor.baseNeighbor n)) := by
  obtain ⟨addr, res, updated, made⟩ := unsecureNeighborGet_split short got
  obtain ⟨distinct, slots, others, code, known, here, only, stays⟩ := update_known ok.distinct single updated
  rcases made with ⟨status, rfl, rfl, rfl⟩ | ⟨ref, addr', neighbor, rfl, looked, rfl⟩
  · -- the address table is full
    exact ⟨⟨ok.neighbor, distinct⟩, slots, .inl ⟨status, rfl, fun q p nbe _ held on =>
      ⟨others q p nofun held, on⟩⟩⟩
  have senderEntry : ∀ holds, SenderEntry s ieee (addrShort mhr.srcAddr) holds →
      ∃ b nbe, pairs s.secur.addr ref = some (code, b) ∧ entryOf s.neighbor ref = some nbe ∧ holds nbe := by
    rintro holds ⟨r₀, longFound, unlocked, nbe, on, is⟩
    obtain ⟨rfl, b, held⟩ := stays ref r₀ rfl longFound unlocked
    exact ⟨b, nbe, held, on, is⟩
  obtain ⟨sameTable, entry⟩ := neighborGet_got ok.neighbor (by
    intro direct absent full
    obtain ⟨-, nbe, -, on, -⟩ := senderEntry _ (room (by simpa using direct) full)
    rw [entryOf, indexOf_eq_none.2 absent] at on
    cases on) looked
  -- locking the address moves neither pairs nor manufacturers
  have samePairs : pairs addr' = pairs addr := pairs_congr sameTable
  have sameSlots : manufacturers addr' = manufacturers addr := table_congr manufacturers (fun _ => rfl) sameTable
  simp only [manufacturers, Prod.mk.injEq] at sameSlots
  obtain ⟨usedSame, devSame⟩ := sameSlots
  refine ⟨⟨entry.ok, ?_⟩, ?_, ?_⟩
  · unfold ManufacturersDistinct
    rw [usedSame, devSame]
    exact distinct
  · unfold SlotsKept
    rw [usedSame, devSame]
    exact slots
  cases found with
  | error status =>
      obtain ⟨unmoved, absent⟩ := entry.failed status rfl
      refine .inl ⟨status, rfl, ?_⟩
      intro q p nbe _ held on
      simp only [samePairs, unmoved] at held on
      by_cases isRef : q = ref
      · rw [isRef, entryOf, indexOf_eq_none.2 absent] at on
        cases on
      · exact ⟨others q p (by simpa using Ne.symm isRef) held, on⟩
  | ok n =>
      obtain ⟨leads, was⟩ := entry.there n rfl
      have on : entryOf neighbor ref = some (neighbor.baseNeighbor n) := by
        rw [entryOf, leads]
        rfl
      refine .inr ⟨n, ref, code, rfl, leads, ?_, ?_, ?_, ?_, ?_, on, senderEntry⟩
      · exact ⟨known.device, known.inside, by rw [usedSame]; exact known.used, by rw [devSame]; exact known.same⟩
      · intro q p nbe ne held on
        have apart : q ≠ ref := fun same => ne (by rw [same])
        simp only [samePairs] at held
        simp only [entry.others q apart] at on
        exact ⟨others q p (by simpa using Ne.symm apart) held, on⟩
      · simp only [samePairs]
        exact fun p => here ref p rfl
      · simp only [samePairs]
        exact fun q p => only ref q p rfl
      · rcases was with same | absent
        · rw [← same]
          exact .inl on
        · rw [entryOf, indexOf_eq_none.2 absent]
          exact .inr rfl

/-- The entry is rewritten after it was found. -/
theorem Sent.rewrites {a : UInt16} {r n : Nat} {old new : ZbNeighborTblEnt} {s₁ : RecvContext}
    (sent : Sent s s₁ ieee a r code old new) (ok : TableOk s₁.neighbor) (addr : s'.secur.addr = s₁.secur.addr)
    (leads : indexOf s₁.neighbor.addrToNeighbor r = some n) (moved : Rewrites n s₁.neighbor s'.neighbor) :
    Sent s s' ieee a r code old (s'.neighbor.baseNeighbor n) := by
  obtain ⟨rewritten, elsewhere⟩ := entryOf_rewrites ok moved leads
  refine ⟨?_, ?_, ?_, ?_, sent.before, rewritten, sent.stays⟩
  · rw [addr]
    exact sent.known
  · intro q p nbe ne held on
    have apart : q ≠ r := fun same => ne (by rw [same])
    rw [addr] at held
    rw [elsewhere q apart] at on
    exact sent.narrows q p nbe ne held on
  · rw [addr]
    exact sent.here
  · rw [addr]
    exact sent.only

/-- **A frame that fits**: nothing comes into the tables, or the entry of its source
does, rewritten for it. -/
theorem frame_sent {outcome : UnsecureOutcome} (ok : TablesOk w.recv) (fits : Fits w f)
    (taken : zbNwkUnsecureFrame aes128 f.stack f.random f.mhr f.mhrLen f.stackRef w.recv f.nsdu =
      some (s', outcome)) :
    TablesOk s' ∧ SlotsKept w.recv.secur.addr s'.secur.addr ∧
      (outcome.ret.isOk = false ∧ Narrows none w.recv s' ∨
        ∃ hdr r code old new, frameAux f.nsdu = some hdr ∧
          Sent w.recv s' hdr.2.sourceAddress (addrShort f.mhr.srcAddr) r code old new ∧
          Marked hdr.2.keySeqNumber hdr.2.frameCounter outcome.ret.isOk old new) := by
  rcases unsecureFrame_effect taken with ⟨rfl, failed⟩ | ⟨hdr, s₁, found, read, got, addr, after⟩
  · exact ⟨ok, fun _ used => ⟨used, rfl⟩, .inl ⟨failed, fun _ _ _ _ held on => ⟨held, on⟩⟩⟩
  obtain ⟨ok₁, slots, sender⟩ := sender_sent ok fits.short (fits.single hdr read) (fits.room hdr read) got
  rw [addr]
  rcases sender with ⟨status, rfl, narrows⟩ | ⟨n, r, code, rfl, leads, sent⟩
  · rcases after with ⟨-, -, same, failed⟩ | ⟨n, impossible, -⟩
    · refine ⟨⟨by rw [same]; exact ok₁.neighbor, by rw [addr]; exact ok₁.distinct⟩, slots, .inl ⟨failed, ?_⟩⟩
      intro q p nbe but held on
      rw [addr] at held
      rw [same] at on
      exact narrows q p nbe but held on
    · cases impossible
  · rcases after with ⟨status, impossible, -⟩ | ⟨n', is, moved, marked⟩
    · cases impossible
    · cases is
      refine ⟨⟨ok₁.neighbor.rewrites moved marked.name marked.flag, by rw [addr]; exact ok₁.distinct⟩, slots,
        .inr ⟨hdr, r, code, _, _, read, sent.rewrites ok₁.neighbor addr leads moved, marked⟩⟩

/-! ## Counters only go up -/

/-- The entry of the source is at the counter of the frame or above, as long as it has
the key number. -/
def Guarded (s : RecvContext) (a : ZbNwkAuxFrameHdr) : Prop :=
  ∃ code, Known s.secur.addr a.sourceAddress code ∧
    ∀ q p nbe, pairs s.secur.addr q = some p → p.1 = code → entryOf s.neighbor q = some nbe →
      nbe.keySeqNumber = a.keySeqNumber → a.frameCounter ≤ nbe.incomingFrameCounter

structure Safe (w : Receiver) : Prop where
  tables : TablesOk w.recv
  guarded : ∀ a ∈ w.accepted, Guarded w.recv a
  ordered : Ordered w.accepted

theorem not_stale {c : UInt32} {nbe : ZbNeighborTblEnt} (fresh : staleCounter c nbe = false) :
    nbe.incomingFrameCounter ≤ c := by
  simp only [staleCounter, Bool.or_eq_false_iff, decide_eq_false_iff_not] at fresh
  exact UInt32.not_lt.1 fresh.1

theorem switchPeerKey_same {k : UInt8} {nbe : ZbNeighborTblEnt} (same : nbe.keySeqNumber = k) :
    switchPeerKey k nbe = nbe :=
  if_neg (not_not.2 same)

/-- Under one key number the counter does not go down. -/
theorem Marked.le {k : UInt8} {c : UInt32} {accepted : Bool} {old new : ZbNeighborTblEnt}
    (marked : Marked k c accepted old new) (same : old.keySeqNumber = k) :
    old.incomingFrameCounter ≤ new.incomingFrameCounter := by
  rcases marked.counter with kept | ⟨fresh, set⟩
  · rw [kept, switchPeerKey_same same]
    exact UInt32.le_refl _
  · rw [switchPeerKey_same same] at fresh
    rw [set]
    exact not_stale fresh

theorem Guarded.narrows {a : ZbNwkAuxFrameHdr} (guarded : Guarded s a)
    (slots : SlotsKept s.secur.addr s'.secur.addr) (narrows : Narrows none s s') : Guarded s' a := by
  obtain ⟨code, known, below⟩ := guarded
  refine ⟨code, known.later slots, ?_⟩
  intro q p nbe held is on
  obtain ⟨held', on'⟩ := narrows q p nbe nofun held on
  exact below q p nbe held' is on'

section Accept

variable {a aux : ZbNwkAuxFrameHdr} {short : UInt16} {r : Nat} {old new : ZbNeighborTblEnt} {accepted : Bool}

/-- What the condition says of a frame whose source and key number were let in. -/
def Current (s : RecvContext) (short : UInt16) (aux a : ZbNwkAuxFrameHdr) : Prop :=
  a.sourceAddress = aux.sourceAddress → a.keySeqNumber = aux.keySeqNumber →
    SenderEntry s aux.sourceAddress short fun nbe =>
      nbe.keySeqNumber = aux.keySeqNumber ∧ nbe.incomingFrameCounter ≠ aux.frameCounter

/-- The entry that is rewritten guards what was let in of its source. -/
theorem Guarded.before (guarded : Guarded s a) (slots : SlotsKept s.secur.addr s'.secur.addr)
    (distinct : ManufacturersDistinct s'.secur.addr)
    (sent : Sent s s' aux.sourceAddress short r code old new) (current : Current s short aux a)
    (source : a.sourceAddress = aux.sourceAddress) (key : a.keySeqNumber = aux.keySeqNumber) :
    old.keySeqNumber = aux.keySeqNumber ∧ old.incomingFrameCounter ≠ aux.frameCounter ∧
      a.frameCounter ≤ old.incomingFrameCounter := by
  obtain ⟨code', known, below⟩ := guarded
  obtain ⟨b, nbe, held, on, sameKey, differs⟩ := sent.stays _ (current source key)
  have is : nbe = old := by
    rcases sent.before with there | absent
    · rw [there] at on
      cases on
      rfl
    · rw [absent] at on
      cases on
  have sameCode : code = code' := by
    have known' := known.later slots
    rw [source] at known'
    exact sent.known.code_eq distinct known'
  rw [is] at on sameKey differs
  exact ⟨sameKey, differs, below r (code, b) old held sameCode on (sameKey.trans key.symm)⟩

theorem Guarded.sent (guarded : Guarded s a) (slots : SlotsKept s.secur.addr s'.secur.addr)
    (distinct : ManufacturersDistinct s'.secur.addr)
    (sent : Sent s s' aux.sourceAddress short r code old new) (current : Current s short aux a)
    (marked : Marked aux.keySeqNumber aux.frameCounter accepted old new) : Guarded s' a := by
  have before := guarded.before slots distinct sent current
  obtain ⟨code', known, below⟩ := guarded
  refine ⟨code', known.later slots, ?_⟩
  intro q p nbe held is on key
  by_cases here : q = r
  · subst here
    rw [sent.entry] at on
    cases on
    have sameCode : code = code' := (sent.here p held).symm.trans is
    rw [← sameCode] at known
    have source := (known.later slots).source sent.known
    obtain ⟨sameKey, -, le⟩ := before source (key.symm.trans marked.key)
    exact UInt32.le_trans le (marked.le sameKey)
  · obtain ⟨held', on'⟩ := sent.narrows q p nbe (by simpa using here) held on
    exact below q p nbe held' is on' key

/-- A frame that is let in is guarded from then on. -/
theorem Sent.guarded (sent : Sent s s' aux.sourceAddress short r code old new)
    (marked : Marked aux.keySeqNumber aux.frameCounter true old new) : Guarded s' aux := by
  refine ⟨code, sent.known, ?_⟩
  intro q p nbe held is on _
  rw [sent.only q p held is, sent.entry] at on
  cases on
  rw [(marked.fresh rfl).2]
  exact UInt32.le_refl _

end Accept

/-- **One frame that fits** keeps the counters of what was let in in order. -/
theorem safe_step (safe : Safe w) (fits : Fits w f) (taken : receive aes128 w f = some w') : Safe w' := by
  simp only [receive, Option.bind_eq_bind, Option.bind_eq_some_iff] at taken
  obtain ⟨⟨s', outcome⟩, ran, done⟩ := taken
  cases done
  obtain ⟨tables, slots, effect⟩ := frame_sent safe.tables fits ran
  rcases effect with ⟨failed, narrows⟩ | ⟨hdr, r, code, old, new, read, sent, marked⟩
  · simp only [failed, Bool.false_eq_true, if_false, List.append_nil]
    exact ⟨tables, fun a mem => (safe.guarded a mem).narrows slots narrows, safe.ordered⟩
  have current : ∀ a ∈ w.accepted, Current w.recv (addrShort f.mhr.srcAddr) hdr.2 a :=
    fun a mem source key => fits.current hdr read ⟨a, mem, source, key⟩
  have kept : ∀ a ∈ w.accepted, Guarded s' a := fun a mem =>
    (safe.guarded a mem).sent slots tables.distinct sent (current a mem) marked
  by_cases letIn : outcome.ret.isOk = true
  · rw [letIn] at marked
    simp only [letIn, if_true, read, Option.map_some, Option.toList_some]
    refine ⟨tables, ?_, List.pairwise_append.2 ⟨safe.ordered, List.pairwise_singleton _ _, ?_⟩⟩
    · intro a mem
      rcases List.mem_append.1 mem with older | newest
      · exact kept a older
      · rw [List.mem_singleton.1 newest]
        exact sent.guarded marked
    · intro a mem b newest source key
      rw [List.mem_singleton.1 newest] at source key ⊢
      obtain ⟨sameKey, differs, le⟩ :=
        (safe.guarded a mem).before slots tables.distinct sent (current a mem) source key
      obtain ⟨fresh, -⟩ := marked.fresh rfl
      rw [switchPeerKey_same sameKey] at fresh
      exact UInt32.lt_of_le_of_lt le (UInt32.lt_of_le_of_ne (not_stale fresh) differs)
  · simp only [letIn, if_false, List.append_nil, Bool.false_eq_true]
    exact ⟨tables, kept, safe.ordered⟩

/-- **No replay in a run of frames that fit.** -/
theorem ordered_of_run (aes128 : ZbKey → Block → Block) (s : RecvContext) (tables : TablesOk s)
    (frames : List Frame) (fits : Along (receive aes128) Fits ⟨s, []⟩ frames) (w : Receiver)
    (ran : run (receive aes128) ⟨s, []⟩ frames = some w) : Ordered w.accepted := by
  have start : Safe ⟨s, []⟩ := ⟨tables, nofun, List.Pairwise.nil⟩
  exact (run_invariant (fun _ _ _ safe fits taken => safe_step safe fits taken) start fits ran).ordered

end Step

/-! ## A receiver that knows nobody -/

section Poles

/-- `newcomer`, its neighbour table cleared. -/
def stranger : RecvContext := { newcomer with neighbor := ZbNeighborTbl.init }

/-- The frame of one byte on the air, under the identity for a block function. -/
def airFrame (frameCounter : UInt32) (keySeqNumber : UInt8) : Frame :=
  let bytes := oneByteFrame.take 8 ++
    auxBytes ⟨zbNwkStdSecurControlZeroedLevel, frameCounter, oneHopSender, keySeqNumber⟩ ++ [43, 96, 21, 13, 7]
  { mhr := (zbParseMhr oneHopMac).1
    mhrLen := 9
    stackRef := 0
    stack := Vector.replicate 148 0
    random := Vector.replicate 16 0
    nsdu := ⟨Vector.ofFn fun i => (List.replicate 40 0 ++ bytes).getD i.val 0, UInt8.ofNat bytes.length, 40⟩ }

/-- The frames that are let in, from the start. -/
def letIn (frames : List Frame) : Option Receiver :=
  run (receive fun _ b => b) ⟨stranger, []⟩ frames

theorem stranger_tables : TablesOk stranger where
  neighbor := ⟨tidy_init, by decide, by decide⟩
  distinct _ _ _ _ used := nomatch used

theorem airFrame_aux : frameAux (airFrame 1 0).nsdu =
    some (1, ⟨zbNwkStdSecurControlZeroedLevel, 1, oneHopSender, 0⟩) := by
  decide +kernel

/-- After a frame: one address, with an entry, of which the next frame is accepted. -/
theorem letIn_first : (letIn [airFrame 0 0]).any (fun w => decide
    ((foundLong w.recv.secur.addr oneHopSender = some 82 ∧ shortSearch w.recv.secur.addr 1 = some 82 ∧
        entryOf w.recv.neighbor 82 = some (newNeighbor 82 0) ∧
        w.recv.neighbor.baseNeighborUsed = 1 ∧ w.recv.neighbor.baseNeighborSize = 32) ∧
      (∀ q < zbIeeeAddrTableSize, (w.recv.secur.addr.addrMap q).used = true → q = 82) ∧
      (w.recv.secur.authenticated = true ∧
        securNwkKeyBySeq w.recv.secur 0 = some (Vector.replicate 16 0) ∧
        (unsecureNeighborGet 0 (airFrame 1 0).mhr oneHopSender 1 w.recv).map (fun r =>
          (r.2.toOption, staleCounter 1 (switchPeerKey 0 (r.1.neighbor.baseNeighbor 0)))) =
            some (some 0, false)) ∧
      w.accepted.map (·.frameCounter) = [0])) = true := by
  decide +kernel

theorem stranger_fits : Fits ⟨stranger, []⟩ (airFrame 0 0) where
  short := by rfl
  single _ _ _ _ _ _ used := nomatch used
  current _ _ before := by
    obtain ⟨a, mem, -⟩ := before
    cases mem
  room _ _ _ full := nomatch full

/-- The next frame fits as well. -/
theorem letIn_first_fits {w : Receiver} (first : letIn [airFrame 0 0] = some w) : Fits w (airFrame 1 0) := by
  have looked := letIn_first
  rw [first, Option.any_some, decide_eq_true_eq] at looked
  obtain ⟨⟨long, short, on, handed, size⟩, alone, -⟩ := looked
  refine ⟨by rfl, ?_, ?_, ?_⟩
  · intro hdr read code compressed q inside used named
    rw [airFrame_aux] at read
    cases read
    obtain ⟨⟨g', code'⟩, made, rfl⟩ := Option.map_eq_some_iff.1 compressed
    obtain ⟨-, -, search, -⟩ := searches_compress made
    rw [foundLong, made, Option.bind_some, search] at long
    rw [alone q inside used]
    exact long
  · intro hdr read _
    rw [airFrame_aux] at read
    cases read
    refine ⟨82, long, ?_, newNeighbor 82 0, on, by decide, by decide⟩
    intro q atShort
    have from_ : addrShort (airFrame 1 0).mhr.srcAddr = 1 := by rfl
    rw [from_, short] at atShort
    cases atShort
    exact .inl rfl
  · intro _ _ _ full
    rw [handed, size] at full
    cases full

/-- And its sender is accepted. -/
theorem letIn_first_accepts {w : Receiver} (first : letIn [airFrame 0 0] = some w) : ∃ s₁ n,
    Accepts 0 (airFrame 1 0).mhr ⟨zbNwkStdSecurControlZeroedLevel, 1, oneHopSender, 0⟩ 1
      (Vector.replicate 16 0) w.recv s₁ n := by
  have read := letIn_first
  rw [first, Option.any_some, decide_eq_true_eq] at read
  obtain ⟨-, -, ⟨authenticated, holdsKey, got⟩, -⟩ := read
  obtain ⟨⟨s₁, found⟩, found_, is⟩ := Option.map_eq_some_iff.1 got
  obtain ⟨entry, fresh⟩ := Prod.mk.inj is
  cases found with
  | error e => cases entry
  | ok n =>
      obtain rfl : n = 0 := Option.some.inj entry
      exact ⟨s₁, 0, authenticated, found_, holdsKey, fresh⟩

theorem letIn_second {w : Receiver} (first : letIn [airFrame 0 0] = some w) : ∃ s',
    receive (fun _ b => b) w (airFrame 1 0) =
      some ⟨s', w.accepted ++ [⟨zbNwkStdSecurControlZeroedLevel, 1, oneHopSender, 0⟩]⟩ := by
  obtain ⟨s₁, n, accepts⟩ := letIn_first_accepts first
  obtain ⟨s', d, macHdrOffset, ran, -⟩ := (@unsecureFrame_spec (fun _ b => b) (airFrame 1 0).stack
    (airFrame 1 0).random (airFrame 1 0).mhr 9 0 n (Vector.replicate 16 0) w.recv s₁ (airFrame 1 0).nsdu
    (oneByteFrame.take 8) [43, 96, 21, 13, 7] ⟨zbNwkStdSecurControlZeroedLevel, 1, oneHopSender, 0⟩
    (by rfl) (by rfl) (by decide) ⟨by decide, by decide, by decide, by decide, by rfl⟩
    accepts).1 (by decide +kernel)
  refine ⟨s', ?_⟩
  change zbNwkUnsecureFrame _ _ _ _ (airFrame 1 0).mhrLen (airFrame 1 0).stackRef _ _ = _ at ran
  simp only [receive, ran, airFrame_aux, Option.bind_eq_bind, Option.bind_some]
  rfl

/-- Two frames of one sender, with counters 0 and 1. -/
theorem ordered_of_run_two : ∃ w, letIn [airFrame 0 0, airFrame 1 0] = some w ∧
    w.accepted.map (·.frameCounter) = [0, 1] ∧ Ordered w.accepted := by
  obtain ⟨w₁, first, looked⟩ := (Option.any_eq_true _ _).1 letIn_first
  obtain ⟨-, -, -, is⟩ := of_decide_eq_true looked
  obtain ⟨s', second⟩ := letIn_second first
  have ran : letIn ([airFrame 0 0] ++ [airFrame 1 0]) =
      some ⟨s', w₁.accepted ++ [⟨zbNwkStdSecurControlZeroedLevel, 1, oneHopSender, 0⟩]⟩ :=
    run_snoc.2 ⟨w₁, first, second⟩
  have fits : Along (receive fun _ b => b) Fits ⟨stranger, []⟩ [airFrame 0 0, airFrame 1 0] := by
    refine ⟨stranger_fits, fun w taken => ⟨letIn_first_fits ?_, fun _ _ => trivial⟩⟩
    rw [letIn, run, taken]
    rfl
  exact ⟨_, ran, by simp [is], ordered_of_run (fun _ b => b) stranger stranger_tables _ fits _ ran⟩

/-- Pole: one frame, on the air twice, is let in twice. -/
theorem replayed : ∃ w, letIn [airFrame 0 0, airFrame 0 0] = some w ∧ ¬ Ordered w.accepted := by
  have letInTwice : (letIn [airFrame 0 0, airFrame 0 0]).map (fun w =>
      w.accepted.map fun a => (a.sourceAddress, a.keySeqNumber, a.frameCounter)) =
      some [(oneHopSender, 0, 0), (oneHopSender, 0, 0)] := by
    decide +kernel
  obtain ⟨w, ran, is⟩ := Option.map_eq_some_iff.1 letInTwice
  refine ⟨w, ran, ?_⟩
  intro ordered
  have pairwise : (w.accepted.map fun a => (a.sourceAddress, a.keySeqNumber, a.frameCounter)).Pairwise
      fun a b => a.1 = b.1 → a.2.1 = b.2.1 → a.2.2 < b.2.2 := List.pairwise_map.2 ordered
  rw [is, List.pairwise_pair] at pairwise
  exact absurd (pairwise rfl rfl) (by decide)

end Poles

end Zboss.Secur.Replay
