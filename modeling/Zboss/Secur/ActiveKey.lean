/-
# Secur.ActiveKey -- which slot holds the active key

`active_secur_material_i` is to be the index of a slot whose number is
`active_key_seq_number`.  Transports keep that (`transportKey_ok`).  A switch
does not: its loop leaves at the first slot that does NOT show the number, and
the index it leaves with is counted from the slot after the active one but used
from slot 0.  A slot that no key was ever stored in shows the number 0, so what was
stored is kept beside the keys (`KeyHistory`): a switch to a number that no stored key
has is to change nothing.  `SwitchIntact` says when the slot a switch takes shows the
number all the same, and when nothing changes; `activeKey_of_run` says that this is
exact over every run.

Pole: `generated_keys_switched_twice`, a Trust Center with keys 0, 1, 2 that
switches to 1 and then to 2.
-/
import Mathlib
import Zboss.Theory.Run
import Zboss.Secur.KeyMaterial

namespace Zboss.Secur.ActiveKey

open Zboss.Theory.Run
open Zboss.Common.Types
open Zboss.Common.Address
open Zboss.Secur.KeyMaterial

set_option autoImplicit false

/-- The number of slot `i`. -/
def seqOf (c : SecurContext) (i : Fin 3) : UInt8 := (c.securMaterialSet i).keySeqNumber

/-- **The invariant claimed of an authenticated device.** -/
def ActiveKeyNamed (c : SecurContext) : Prop :=
  c.authenticated = true → seqOf c c.activeSecurMaterialI = c.activeKeySeqNumber

/-- The active key, its index and the counters. -/
def activeKey (c : SecurContext) : ZbSecurMaterialSet × Fin 3 × UInt8 × UInt32 × UInt32 :=
  (c.securMaterialSet c.activeSecurMaterialI, c.activeSecurMaterialI, c.activeKeySeqNumber,
    c.outgoingFrameCounter, c.prevOutgoingFrameCounter)

/-! ## What was stored -/

/-- A key and its number, and the slot they were stored in. -/
structure Stored where
  slot : Fin 3
  material : ZbSecurMaterialSet

/-- The three slots are numbered by literals. -/
local instance slotsNeZero : NeZero 3 := ⟨by decide⟩

/-- What `secur_generate_keys` stores, the newest first. -/
def generatedStores (random : Fin 3 → ZbKey) : List Stored :=
  [⟨2, random 2, 2⟩, ⟨1, random 1, 1⟩, ⟨0, random 0, 0⟩]

/-- A switch of the Trust Center makes a key when its loop runs through. -/
def switchStores (c : SecurContext) (keyNumber : UInt8) (random : ZbKey) : List Stored :=
  if keySwitchScan c keyNumber (c.activeSecurMaterialI + 1) 3 0 = 3 ∧ c.isTc = true then
    [⟨c.activeSecurMaterialI + 1, random, keyNumber⟩]
  else []

/-- What a call stores. -/
def keyStores (c : SecurContext) : KeyCall → List Stored
  | .transportKey ind =>
      if ind.keyType = zbStandardNetworkKey ∧ carriesNoKey ind = false then
        [⟨transportSlot c ind.keySeqNumber, ind.key, ind.keySeqNumber⟩]
      else []
  | .switchKeyIndication keyNumber random => switchStores c keyNumber random
  | .keySwitch keyNumber random => switchStores c keyNumber random

/-- The keys, and what was stored in their slots so far, the newest first. -/
structure KeyHistory where
  ctx : SecurContext
  stores : List Stored

def KeyHistory.start (trustCenter : Option ZbIeeeAddr) (generated : Option (Fin 3 → ZbKey))
    (addr : ZbAddrGlobals) : KeyHistory where
  ctx := securStart trustCenter generated addr
  stores :=
    match generated with
    | some random => generatedStores random
    | none => []

def keyHistoryStep (h : KeyHistory) (call : KeyCall) : Option KeyHistory :=
  (keyStep h.ctx call).map fun ctx => ⟨ctx, keyStores h.ctx call ++ h.stores⟩

/-- Slot `i` holds a key of the number: it shows the number, and a key was stored in it. -/
def HoldsKey (h : KeyHistory) (i : Fin 3) (keyNumber : UInt8) : Prop :=
  seqOf h.ctx i = keyNumber ∧ ∃ s ∈ h.stores, s.slot = i

/-- No slot holds a key of the number. -/
def Unknown (h : KeyHistory) (keyNumber : UInt8) : Prop := ∀ i, ¬ HoldsKey h i keyNumber

/-! ## What is claimed -/

/-- **The switch claimed of a device that is not the Trust Center**: a number for which no
slot holds a key changes nothing. -/
def UnknownSwitchIdle (h : KeyHistory) (call : KeyCall) (t : SecurContext) : Prop :=
  match call with
  | .transportKey _ => True
  | .switchKeyIndication keyNumber _ | .keySwitch keyNumber _ =>
      h.ctx.isTc = false → Unknown h keyNumber → activeKey t = activeKey h.ctx

/-- Both, of the step a call takes. -/
def KeyStepGood (h : KeyHistory) (call : KeyCall) : Prop :=
  ∀ t, keyHistoryStep h call = some t → ActiveKeyNamed t.ctx ∧ UnknownSwitchIdle h call t.ctx

/-! ## When it holds -/

/-- The slots that have to show the number, by the active slot. -/
@[mk_iff]
structure SlotsLineUp (c : SecurContext) (keyNumber : UInt8) : Prop where
  first : c.activeSecurMaterialI = 0 → seqOf c 0 = keyNumber ∨ seqOf c 1 = keyNumber
  second : c.activeSecurMaterialI = 1 →
    seqOf c 0 = keyNumber ∨ seqOf c 1 = keyNumber ∧ seqOf c 2 = keyNumber
  third : c.activeSecurMaterialI = 2 → ∀ i, seqOf c i = keyNumber

/-- The slot a switch takes, unless all three show the number. -/
def takenSlot (c : SecurContext) (keyNumber : UInt8) : Fin 3 :=
  if seqOf c (c.activeSecurMaterialI + 1) ≠ keyNumber then 0
  else if seqOf c (c.activeSecurMaterialI + 2) ≠ keyNumber then 1
  else 2

/-- The switch that was just made already: its slot and its number are the active ones. -/
structure JustSwitched (c : SecurContext) (keyNumber : UInt8) : Prop where
  active : c.activeSecurMaterialI = takenSlot c keyNumber
  number : c.activeKeySeqNumber = keyNumber
  outgoing : c.outgoingFrameCounter = 0
  previous : c.prevOutgoingFrameCounter = 0

/-- **When a switch does what is claimed of it.** -/
structure SwitchIntact (h : KeyHistory) (keyNumber : UInt8) : Prop where
  linesUp : h.ctx.authenticated = true → SlotsLineUp h.ctx keyNumber
  idle : h.ctx.isTc = false → Unknown h keyNumber →
    (∀ i, seqOf h.ctx i = keyNumber) ∨ JustSwitched h.ctx keyNumber

/-- The condition on the calls of a run: it is about switches only. -/
def SwitchesIntact (h : KeyHistory) : KeyCall → Prop
  | .transportKey _ => True
  | .switchKeyIndication keyNumber _ | .keySwitch keyNumber _ => SwitchIntact h keyNumber

/-- What holds of a device at every step.  One without a key is not the Trust
Center, and its slot 0 still has number 0. -/
structure KeysOk (c : SecurContext) : Prop where
  named : ActiveKeyNamed c
  fresh : c.authenticated = false → c.isTc = false ∧ seqOf c 0 = 0

section Switch

variable {c t : SecurContext} {n : UInt8} {random : ZbKey}

/-! ## The loop of the switch -/

theorem ofNat_add_val (s : Fin 3) (i : Nat) : Fin.ofNat 3 (i + s.val) = s + Fin.ofNat 3 i := by
  apply Fin.ext
  simp [Fin.val_add, Nat.add_comm]

/-- The three looks of the loop, written out. -/
theorem keySwitchScan_eq (s : Fin 3) :
    keySwitchScan c n s 3 0 =
      if seqOf c s = n then
        if seqOf c (s + 1) = n then
          if seqOf c (s + 2) = n then 3 else 2
        else 1
      else 0 := by
  have zero : Fin.ofNat 3 (0 + s.val) = s := by simp
  have one : Fin.ofNat 3 (0 + 1 + s.val) = s + 1 := ofNat_add_val s 1
  have two : Fin.ofNat 3 (0 + 1 + 1 + s.val) = s + 2 := ofNat_add_val s 2
  simp only [keySwitchScan, zero, one, two, seqOf]
  rfl

/-- The loop runs through when every slot holds the number. -/
theorem keySwitchScan_eq_three (s : Fin 3) :
    keySwitchScan c n s 3 0 = 3 ↔ ∀ i, seqOf c i = n := by
  rw [keySwitchScan_eq]
  constructor
  · intro through
    have all : seqOf c s = n ∧ seqOf c (s + 1) = n ∧ seqOf c (s + 2) = n := by
      split at through
      · split at through
        · split at through
          · exact ⟨by assumption, by assumption, by assumption⟩
          · cases through
        · cases through
      · cases through
    intro i
    have around : ∀ s i : Fin 3, i = s ∨ i = s + 1 ∨ i = s + 2 := by decide
    rcases around s i with rfl | rfl | rfl
    · exact all.1
    · exact all.2.1
    · exact all.2.2
  · intro all
    rw [if_pos (all _), if_pos (all _), if_pos (all _)]

/-- Unless it runs through, the loop leaves with the slot of `takenSlot`. -/
theorem keySwitchScan_taken (some_ : ¬ ∀ i, seqOf c i = n) :
    Fin.ofNat 3 (keySwitchScan c n (c.activeSecurMaterialI + 1) 3 0) = takenSlot c n := by
  have short := mt (keySwitchScan_eq_three (c.activeSecurMaterialI + 1)).1 some_
  have next : c.activeSecurMaterialI + 1 + 1 = c.activeSecurMaterialI + 2 := by
    generalize c.activeSecurMaterialI = i
    revert i
    decide
  rw [keySwitchScan_eq, next] at short ⊢
  rw [takenSlot]
  by_cases first : seqOf c (c.activeSecurMaterialI + 1) = n
  · by_cases second : seqOf c (c.activeSecurMaterialI + 2) = n
    · simp only [first, second, if_true] at short ⊢
      split at short
      · exact absurd rfl short
      · rename_i third
        simp [third]
    · simp [first, second]
      rfl
  · simp [first]

/-- `SlotsLineUp` is: the loop runs through, or the index it leaves with, taken
from slot 0, is a slot with the number. -/
theorem slotsLineUp_iff_scan :
    SlotsLineUp c n ↔
      keySwitchScan c n (c.activeSecurMaterialI + 1) 3 0 = 3 ∨
        seqOf c (Fin.ofNat 3 (keySwitchScan c n (c.activeSecurMaterialI + 1) 3 0)) = n := by
  rw [keySwitchScan_eq, slotsLineUp_iff]
  have slots : ∀ i : Fin 3, i = 0 ∨ i = 1 ∨ i = 2 := by decide
  have one_ : Fin.ofNat 3 1 = 1 := rfl
  have two_ : Fin.ofNat 3 2 = 2 := rfl
  rcases slots c.activeSecurMaterialI with active | active | active
  all_goals
    simp only [active, Fin.forall_fin_succ, Fin.isValue]
    by_cases zero : seqOf c 0 = n <;> by_cases one : seqOf c 1 = n <;>
      by_cases two : seqOf c 2 = n <;>
        simp [zero, one, two, one_, two_, -Fin.ofNat_eq_cast]

/-! ## What a switch does -/

/-- **The three ways a switch ends.** -/
theorem securNwkKeySwitch_cases (c : SecurContext) (n : UInt8) (random : ZbKey) :
    ((∀ i, seqOf c i = n) ∧ c.isTc = true ∧
      securNwkKeySwitch n random c =
        switchTo (c.activeSecurMaterialI + 1) n
          (securGenerateKey (c.activeSecurMaterialI + 1) n random c)) ∨
    ((∀ i, seqOf c i = n) ∧ c.isTc = false ∧ securNwkKeySwitch n random c = c) ∨
    (¬ (∀ i, seqOf c i = n) ∧
      securNwkKeySwitch n random c =
        switchTo (Fin.ofNat 3 (keySwitchScan c n (c.activeSecurMaterialI + 1) 3 0)) n c) := by
  by_cases through : keySwitchScan c n (c.activeSecurMaterialI + 1) 3 0 = 3
  · have all := (keySwitchScan_eq_three _).1 through
    cases tc : c.isTc with
    | true => exact Or.inl ⟨all, rfl, by simp [securNwkKeySwitch, through, tc]⟩
    | false => exact Or.inr (Or.inl ⟨all, rfl, by simp [securNwkKeySwitch, through, tc]⟩)
  · have not_all := fun all => through ((keySwitchScan_eq_three _).2 all)
    exact Or.inr (Or.inr ⟨not_all, by simp [securNwkKeySwitch, through]⟩)

/-- **A switch names its slot** exactly when the slots line up. -/
theorem switch_named_iff (named : ActiveKeyNamed c) :
    ActiveKeyNamed (securNwkKeySwitch n random c) ↔ (c.authenticated = true → SlotsLineUp c n) := by
  rw [slotsLineUp_iff_scan, keySwitchScan_eq_three]
  rcases securNwkKeySwitch_cases c n random with ⟨all, -, eq⟩ | ⟨all, -, eq⟩ | ⟨some_, eq⟩
  · rw [eq]
    refine iff_of_true (fun _ => ?_) fun _ => Or.inl all
    simp [switchTo, securGenerateKey, seqOf]
  · rw [eq]
    exact iff_of_true named fun _ => Or.inl all
  · rw [eq, or_iff_right some_]
    exact Iff.rfl

/-- A switch of a device that is not the Trust Center changes nothing where all slots show
the number, and where it was just made. -/
theorem switch_idle_iff (tc : c.isTc = false) :
    activeKey (securNwkKeySwitch n random c) = activeKey c ↔
      (∀ i, seqOf c i = n) ∨ JustSwitched c n := by
  rcases securNwkKeySwitch_cases c n random with ⟨-, on, -⟩ | ⟨all, -, eq⟩ | ⟨some_, eq⟩
  · exact absurd (tc.symm.trans on) Bool.false_ne_true
  · rw [eq]
    exact iff_of_true rfl (.inl all)
  · rw [eq, keySwitchScan_taken some_, or_iff_right some_]
    constructor
    · intro same
      simp only [activeKey, switchTo, Prod.mk.injEq] at same
      obtain ⟨-, active, number, outgoing, previous⟩ := same
      exact ⟨active.symm, number.symm, outgoing.symm, previous.symm.trans outgoing.symm⟩
    · rintro ⟨active, number, outgoing, previous⟩
      simp [activeKey, switchTo, ← active, number, outgoing, previous]

/-- What a switch leaves alone. -/
theorem switch_frame (c : SecurContext) (n : UInt8) (random : ZbKey) :
    (securNwkKeySwitch n random c).authenticated = c.authenticated ∧
      (securNwkKeySwitch n random c).isTc = c.isTc ∧
      ∀ i, seqOf (securNwkKeySwitch n random c) i = seqOf c i := by
  rcases securNwkKeySwitch_cases c n random with ⟨all, -, eq⟩ | ⟨-, -, eq⟩ | ⟨-, eq⟩
  · rw [eq]
    refine ⟨rfl, rfl, fun i => ?_⟩
    by_cases here : i = c.activeSecurMaterialI + 1
    · -- the new key gets the number all slots had
      subst here
      simp [seqOf, switchTo, securGenerateKey, ← all (c.activeSecurMaterialI + 1)]
    · simp [seqOf, switchTo, securGenerateKey, Function.update_of_ne here]
  · rw [eq]
    exact ⟨rfl, rfl, fun _ => rfl⟩
  · rw [eq]
    exact ⟨rfl, rfl, fun _ => rfl⟩

theorem switch_ok (ok : KeysOk c) (linesUp : c.authenticated = true → SlotsLineUp c n) :
    KeysOk (securNwkKeySwitch n random c) := by
  obtain ⟨authenticated, tc, seqs⟩ := switch_frame c n random
  refine ⟨(switch_named_iff ok.named).2 linesUp, fun none_ => ?_⟩
  rw [tc, seqs]
  exact ok.fresh (authenticated ▸ none_)

end Switch

section Transport

variable {c t : SecurContext} {ind : TransportKeyInd}

/-! ## What a transport does -/

theorem learnTrustCenter_frame {src : ZbIeeeAddr} (learnt : learnTrustCenter src c = some t) :
    ∃ trustCenterAddress addr, t = { c with trustCenterAddress, addr } := by
  unfold learnTrustCenter at learnt
  split at learnt
  · obtain ⟨⟨addr, r⟩, -, rest⟩ := Option.bind_eq_some_iff.1 learnt
    cases rest
    exact ⟨src, addr, rfl⟩
  · cases learnt
    exact ⟨c.trustCenterAddress, c.addr, rfl⟩

theorem learnTrustCenter_ok {src : ZbIeeeAddr} (ok : KeysOk c)
    (learnt : learnTrustCenter src c = some t) : KeysOk t := by
  obtain ⟨trustCenterAddress, addr, rfl⟩ := learnTrustCenter_frame learnt
  exact ⟨ok.named, ok.fresh⟩

/-- The slot a key is stored in has its number. -/
theorem storeKey_slot (ind : TransportKeyInd) (c : SecurContext) :
    seqOf (storeKey ind c) (transportSlot c ind.keySeqNumber) = ind.keySeqNumber := by
  simp only [storeKey]
  split <;> simp [seqOf]

theorem storeKey_frame (ind : TransportKeyInd) (c : SecurContext) :
    (storeKey ind c).authenticated = c.authenticated ∧
      (storeKey ind c).activeSecurMaterialI = c.activeSecurMaterialI := by
  simp only [storeKey]
  split <;> exact ⟨rfl, rfl⟩

/-- The active number follows a key stored in the active slot. -/
theorem storeKey_number (ind : TransportKeyInd) (c : SecurContext) :
    (storeKey ind c).activeKeySeqNumber =
      if transportSlot c ind.keySeqNumber = c.activeSecurMaterialI then ind.keySeqNumber
      else c.activeKeySeqNumber := by
  by_cases here : transportSlot c ind.keySeqNumber = c.activeSecurMaterialI <;>
    by_cases same : ind.keySeqNumber = c.activeKeySeqNumber <;> simp [storeKey, here, same]

theorem storeKey_other (ind : TransportKeyInd) (c : SecurContext) {i : Fin 3}
    (other : transportSlot c ind.keySeqNumber ≠ i) :
    (storeKey ind c).securMaterialSet i = c.securMaterialSet i := by
  simp only [storeKey]
  split <;> exact Function.update_of_ne (Ne.symm other) ..

/-- A stored key names the active slot if that was named. -/
theorem storeKey_named (ind : TransportKeyInd)
    (named : seqOf c c.activeSecurMaterialI = c.activeKeySeqNumber) :
    seqOf (storeKey ind c) (storeKey ind c).activeSecurMaterialI =
      (storeKey ind c).activeKeySeqNumber := by
  rw [(storeKey_frame ind c).2, storeKey_number]
  by_cases here : transportSlot c ind.keySeqNumber = c.activeSecurMaterialI
  · rw [if_pos here, ← here]
    exact storeKey_slot ind c
  · rw [if_neg here, seqOf, storeKey_other ind c here]
    exact named

theorem authenticate_named {i : Fin 3} {seq : UInt8} (slot : c.authenticated = false → seqOf c i = seq)
    (named : ActiveKeyNamed c) :
    (authenticate i seq c).authenticated = true ∧ ActiveKeyNamed (authenticate i seq c) := by
  cases known : c.authenticated with
  | true => simpa [authenticate, known] using named
  | false => simpa [authenticate, known, ActiveKeyNamed, seqOf] using slot known

/-- **A transport keeps the active slot named**, and the device has a key after it
or is as it was. -/
theorem transportKey_ok (ok : KeysOk c) (taken : zbApsmeTransportKeyIndication ind c = some t) :
    KeysOk t := by
  unfold zbApsmeTransportKeyIndication at taken
  split at taken
  · obtain ⟨d, learnt, taken⟩ := Option.bind_eq_some_iff.1 taken
    have ok : KeysOk d := learnTrustCenter_ok ok learnt
    split at taken
    · next empty =>
        cases taken
        have zero : ind.keySeqNumber = 0 := by
          simp only [carriesNoKey, Bool.and_eq_true, decide_eq_true_eq] at empty
          exact empty.2
        have slot : d.authenticated = false → seqOf d 0 = ind.keySeqNumber :=
          fun none_ => zero ▸ (ok.fresh none_).2
        obtain ⟨known, named⟩ := authenticate_named slot ok.named
        exact ⟨named, fun none_ => by simp [known] at none_⟩
    · cases taken
      obtain ⟨known, named⟩ := authenticate_named (fun _ => storeKey_slot ind d)
        fun known => storeKey_named ind (ok.named ((storeKey_frame ind d).1 ▸ known))
      exact ⟨named, fun none_ => by simp [known] at none_⟩
  · cases taken
    exact ok

end Transport

/-! ## Runs -/

section Runs

variable {h t : KeyHistory} {call : KeyCall}

theorem securStart_ok (trustCenter : Option ZbIeeeAddr) (generated : Option (Fin 3 → ZbKey))
    (addr : ZbAddrGlobals) : KeysOk (securStart trustCenter generated addr) := by
  cases trustCenter <;> cases generated <;>
    exact ⟨fun _ => rfl, fun none_ => by first | exact ⟨rfl, rfl⟩ | cases none_⟩

theorem keyStep_ok (ok : KeysOk h.ctx) (intact : SwitchesIntact h call)
    (taken : keyHistoryStep h call = some t) : KeysOk t.ctx := by
  obtain ⟨ctx, stepped, rfl⟩ := Option.map_eq_some_iff.1 taken
  cases call with
  | transportKey ind => exact transportKey_ok ok stepped
  | switchKeyIndication n random =>
      cases stepped
      exact switch_ok ok intact.linesUp
  | keySwitch n random =>
      cases stepped
      exact switch_ok ok intact.linesUp

/-- For one switch: good is intact. -/
theorem switch_good_iff {n : UInt8} {random : ZbKey} (ok : KeysOk h.ctx) :
    SwitchIntact h n ↔
      ActiveKeyNamed (securNwkKeySwitch n random h.ctx) ∧
        (h.ctx.isTc = false → Unknown h n →
          activeKey (securNwkKeySwitch n random h.ctx) = activeKey h.ctx) := by
  rw [switch_named_iff ok.named]
  constructor
  · rintro ⟨linesUp, idle⟩
    exact ⟨linesUp, fun other unknown => (switch_idle_iff other).2 (idle other unknown)⟩
  · rintro ⟨linesUp, idle⟩
    exact ⟨linesUp, fun other unknown => (switch_idle_iff other).1 (idle other unknown)⟩

theorem keyStepGood_iff (ok : KeysOk h.ctx) : SwitchesIntact h call ↔ KeyStepGood h call := by
  have steps : KeyStepGood h call ↔ ∀ ctx, keyStep h.ctx call = some ctx →
      ActiveKeyNamed ctx ∧ UnknownSwitchIdle h call ctx := by
    simp [KeyStepGood, keyHistoryStep]
  rw [steps]
  cases call with
  | transportKey ind =>
      exact iff_of_true trivial fun t taken => ⟨(transportKey_ok ok taken).named, trivial⟩
  | switchKeyIndication n random =>
      simp only [keyStep, Option.some.injEq, forall_eq']
      exact switch_good_iff ok
  | keySwitch n random =>
      simp only [keyStep, Option.some.injEq, forall_eq']
      exact switch_good_iff ok

/-- **The active key over every run**: the device starts with its active slot
named, and every step it takes leaves the slot named and treats unknown numbers
as claimed if and only if every switch is intact. -/
theorem activeKey_of_run (trustCenter : Option ZbIeeeAddr) (generated : Option (Fin 3 → ZbKey))
    (addr : ZbAddrGlobals) (calls : List KeyCall) :
    ActiveKeyNamed (securStart trustCenter generated addr) ∧
      (Along keyHistoryStep KeyStepGood (.start trustCenter generated addr) calls ↔
        Along keyHistoryStep SwitchesIntact (.start trustCenter generated addr) calls) := by
  have ok : KeysOk (KeyHistory.start trustCenter generated addr).ctx :=
    securStart_ok trustCenter generated addr
  have keeps : ∀ (h : KeyHistory) (call : KeyCall) (t : KeyHistory), KeysOk h.ctx →
      SwitchesIntact h call → keyHistoryStep h call = some t → KeysOk t.ctx :=
    fun _ _ _ ok intact taken => keyStep_ok ok intact taken
  exact ⟨ok.named, (along_congr keeps (fun _ _ ok => keyStepGood_iff ok) ok).symm⟩

/-- **Pole.**  With keys 0, 1 and 2 in their slots, the switch to 1 leaves slot 1
active, and so does the switch to 2 after it. -/
theorem generated_keys_switched_twice :
    ¬ ∀ (trustCenter : Option ZbIeeeAddr) (generated : Option (Fin 3 → ZbKey))
        (addr : ZbAddrGlobals) (calls : List KeyCall) (c : SecurContext),
      run keyStep (securStart trustCenter generated addr) calls = some c → ActiveKeyNamed c := by
  intro claim
  have named := claim (some (Vector.replicate 8 1)) (some fun _ => Vector.replicate 16 7)
    ZbAddrGlobals.init
    [.keySwitch 1 (Vector.replicate 16 9), .keySwitch 2 (Vector.replicate 16 9)] _ rfl
  exact absurd (named rfl) (by decide)

end Runs

end Zboss.Secur.ActiveKey
