/-
# Secur.KeyLookup -- the key a sequence number stands for

`secur_nwk_key_by_seq` takes the first slot, from the active one on and around, that shows the
number it is asked for.  A slot that no key was ever stored in shows the number 0.  What was
stored in which slot is kept beside the keys (`KeyHistory`); `latestKey` is the newest key of a
number, as long as some slot holds it.

* `findsLatest_iff`: after every history, the search for a number finds that key, and no slot
  without a key, exactly when it meets a slot that holds the key before every other slot that
  shows the number, never stored ones included.
* `blank_only_zero`: a slot without a key is found for the number 0 alone.

Pole: `blank_slot_found`, a preconfigured key 1 and a search for key 0.
-/
import Mathlib
import Zboss.Theory.Run
import Zboss.Secur.KeyMaterial
import Zboss.Secur.ActiveKey

namespace Zboss.Secur.KeyLookup

open Zboss.Theory.Run
open Zboss.Common.Types
open Zboss.Common.Address
open Zboss.Secur.KeyMaterial
open Zboss.Secur.ActiveKey

set_option autoImplicit false

/-! ## Provisioning -/

/-- A number that is too big is reported, and nothing is stored. -/
def zbSecurSetupPreconfiguredKey (key : ZbKey) (i : UInt8) (c : SecurContext) : SecurContext :=
  if inside : i.toNat < 3 then
    { c with securMaterialSet := Function.update c.securMaterialSet ⟨i.toNat, inside⟩ ⟨key, i⟩ }
  else c

inductive ProvisionCall where
  | tcInit (extendedAddress : ZbIeeeAddr)
  | generateKeys (random : Fin 3 → ZbKey)
  | setupPreconfiguredKey (key : ZbKey) (i : UInt8)
  | key (call : KeyCall)

def provisionStep (c : SecurContext) : ProvisionCall → Option SecurContext
  | .tcInit extendedAddress => some (securTcInit extendedAddress c)
  | .generateKeys random => some (securGenerateKeys random c)
  | .setupPreconfiguredKey key i => some (zbSecurSetupPreconfiguredKey key i c)
  | .key call => keyStep c call

/-! ## What was stored -/

/-- What a call stores, the newest first. -/
def callStores (c : SecurContext) : ProvisionCall → List Stored
  | .tcInit _ => []
  | .generateKeys random => generatedStores random
  | .setupPreconfiguredKey key i =>
      if inside : i.toNat < 3 then [⟨⟨i.toNat, inside⟩, key, i⟩] else []
  | .key call => keyStores c call

/-- The zero-initialised NIB. -/
def historyInit (addr : ZbAddrGlobals) : KeyHistory := ⟨.init addr, []⟩

def historyStep (h : KeyHistory) (call : ProvisionCall) : Option KeyHistory :=
  (provisionStep h.ctx call).map fun ctx => ⟨ctx, callStores h.ctx call ++ h.stores⟩

/-- The newest key stored in a slot. -/
def lastStored (stores : List Stored) (i : Fin 3) : Option ZbSecurMaterialSet :=
  (stores.find? fun s => s.slot == i).map Stored.material

/-- What a slot shows after the stores: zeros when there was none. -/
def shown (stores : List Stored) (i : Fin 3) : ZbSecurMaterialSet :=
  (lastStored stores i).getD ⟨Vector.replicate 16 0, 0⟩

/-- The key most recently stored under a number. -/
def newest (stores : List Stored) (n : UInt8) : Option ZbSecurMaterialSet :=
  (stores.find? fun s => s.material.keySeqNumber == n).map Stored.material

/-- A slot holds the key most recently stored under the number. -/
def HoldsLatest (stores : List Stored) (n : UInt8) (i : Fin 3) : Prop :=
  (newest stores n).isSome ∧ lastStored stores i = newest stores n

instance (stores : List Stored) (n : UInt8) (i : Fin 3) : Decidable (HoldsLatest stores n i) :=
  inferInstanceAs (Decidable (_ ∧ _))

/-- The key most recently stored under a number, if a slot still holds it. -/
def latestKey (stores : List Stored) (n : UInt8) : Option ZbKey :=
  if ∃ i, HoldsLatest stores n i then (newest stores n).map ZbSecurMaterialSet.key else none

/-- **What is claimed of the search for a number.** -/
structure FindsLatest (h : KeyHistory) (n : UInt8) : Prop where
  key : securNwkKeyBySeq h.ctx n = latestKey h.stores n
  stored : ∀ i, keySlotBySeq h.ctx n = some i → ∃ s ∈ h.stores, s.slot = i

/-- How many slots the search passes before it gets to this one. -/
def searchPlace (c : SecurContext) (i : Fin 3) : Nat := (i - c.activeSecurMaterialI).val

/-- A slot that holds the newest key is met before every other slot that shows the number. -/
def MetFirst (h : KeyHistory) (n : UInt8) : Prop :=
  ∀ i, seqOf h.ctx i = n → ∃ j, HoldsLatest h.stores n j ∧
    searchPlace h.ctx j ≤ searchPlace h.ctx i

instance (h : KeyHistory) (n : UInt8) : Decidable (MetFirst h n) :=
  inferInstanceAs (Decidable (∀ i, seqOf h.ctx i = n → ∃ j, HoldsLatest h.stores n j ∧
    searchPlace h.ctx j ≤ searchPlace h.ctx i))

/-! ## The search -/

section Search

variable {c : SecurContext} {n : UInt8} {i : Fin 3}

theorem slots_around (a : Fin 3) (p : Fin 3 → Prop) :
    (∀ i, p i) ↔ p a ∧ p (a + 1) ∧ p (a + 1 + 1) := by
  constructor
  · intro all
    exact ⟨all _, all _, all _⟩
  · rintro ⟨first, second, third⟩ i
    have around : ∀ a i : Fin 3, i = a ∨ i = a + 1 ∨ i = a + 1 + 1 := by decide
    rcases around a i with rfl | rfl | rfl
    · exact first
    · exact second
    · exact third

theorem places_around (a : Fin 3) :
    (a - a).val = 0 ∧ (a + 1 - a).val = 1 ∧ (a + 1 + 1 - a).val = 2 := by
  revert a
  decide

/-- The search finds the first slot with the number. -/
theorem keySlotBySeq_some (found : keySlotBySeq c n = some i) :
    seqOf c i = n ∧ ∀ j, seqOf c j = n → searchPlace c i ≤ searchPlace c j := by
  obtain ⟨zero, one, two⟩ := places_around c.activeSecurMaterialI
  rw [slots_around c.activeSecurMaterialI]
  unfold keySlotBySeq at found
  simp only [keyBySeqScan] at found
  simp only [searchPlace, seqOf]
  split at found
  · rename_i here
    cases found
    exact ⟨here, by omega, by omega, by omega⟩
  · rename_i first
    split at found
    · rename_i here
      cases found
      exact ⟨here, fun there => absurd there first, by omega, by omega⟩
    · rename_i second
      split at found
      · rename_i here
        cases found
        exact ⟨here, fun there => absurd there first, fun there => absurd there second, by omega⟩
      · cases found

theorem keySlotBySeq_none (missed : keySlotBySeq c n = none) (i : Fin 3) : seqOf c i ≠ n := by
  revert i
  rw [slots_around c.activeSecurMaterialI]
  unfold keySlotBySeq at missed
  simp only [keyBySeqScan] at missed
  split at missed
  · cases missed
  · rename_i first
    split at missed
    · cases missed
    · rename_i second
      split at missed
      · cases missed
      · rename_i third
        exact ⟨first, second, third⟩

theorem searchPlace_inj {j : Fin 3} (same : searchPlace c i = searchPlace c j) : i = j := by
  have cancel : ∀ a i j : Fin 3, (i - a).val = (j - a).val → i = j := by decide
  exact cancel _ i j same

end Search

/-! ## The slots show what was stored -/

section Shown

variable {stores : List Stored} {n : UInt8} {i j : Fin 3}

theorem shown_cons (s : Stored) (stores : List Stored) :
    shown (s :: stores) = Function.update (shown stores) s.slot s.material := by
  funext i
  by_cases here : i = s.slot
  · subst here
    simp [shown, lastStored]
  · rw [Function.update_of_ne here]
    simp [shown, lastStored, Ne.symm here]

theorem shown_eq {m : ZbSecurMaterialSet} (last : lastStored stores i = some m) :
    shown stores i = m := by
  rw [shown, last, Option.getD_some]

theorem lastStored_isSome : (lastStored stores i).isSome ↔ ∃ s ∈ stores, s.slot = i := by
  simp [lastStored]

theorem newest_seq {m : ZbSecurMaterialSet} (new : newest stores n = some m) :
    m.keySeqNumber = n := by
  obtain ⟨s, found, rfl⟩ := Option.map_eq_some_iff.1 new
  simpa using List.find?_some found

/-- What a slot with the newest key shows, and that this is the key to be found. -/
theorem HoldsLatest.spec (holds : HoldsLatest stores n j) :
    (shown stores j).keySeqNumber = n ∧ latestKey stores n = some (shown stores j).key := by
  obtain ⟨m, new⟩ := Option.isSome_iff_exists.1 holds.1
  have last := holds.2.trans new
  rw [shown_eq last, latestKey, if_pos ⟨j, holds⟩, new]
  exact ⟨newest_seq new, rfl⟩

/-- A slot a key was stored in, with the number and the bytes of the key to be found, holds it. -/
theorem holdsLatest_of_key (stored : ∃ s ∈ stores, s.slot = j)
    (seq : (shown stores j).keySeqNumber = n)
    (key : latestKey stores n = some (shown stores j).key) : HoldsLatest stores n j := by
  obtain ⟨last, is⟩ := Option.isSome_iff_exists.1 (lastStored_isSome.2 stored)
  rw [shown_eq is] at seq key
  rw [latestKey] at key
  split at key
  · obtain ⟨m, new, same⟩ := Option.map_eq_some_iff.1 key
    have number := newest_seq new
    have one : last = m := by
      cases last
      cases m
      simp only [ZbSecurMaterialSet.mk.injEq] at seq number same ⊢
      exact ⟨same.symm, seq.trans number.symm⟩
    exact ⟨by rw [new]; rfl, by rw [is, new, one]⟩
  · cases key

end Shown

section History

variable {h h' : KeyHistory} {call : ProvisionCall} {n : UInt8}

/-- The slots show what was stored in them last. -/
def SlotsTold (h : KeyHistory) : Prop := h.ctx.securMaterialSet = shown h.stores

theorem slotsTold_init (addr : ZbAddrGlobals) : SlotsTold (historyInit addr) := rfl

/-- What a switch stores. -/
theorem switch_told {c : SecurContext} {stores : List Stored} {random : ZbKey}
    (told : c.securMaterialSet = shown stores) :
    (securNwkKeySwitch n random c).securMaterialSet = shown (switchStores c n random ++ stores) := by
  unfold securNwkKeySwitch switchStores
  by_cases through : keySwitchScan c n (c.activeSecurMaterialI + 1) 3 0 = 3
  · by_cases tc : c.isTc = true
    · simp [through, tc, switchTo, securGenerateKey, shown_cons, told]
    · simp [through, tc, told]
  · simp [through, switchTo, told]

theorem storeKey_told {c : SecurContext} {stores : List Stored} {ind : TransportKeyInd}
    (told : c.securMaterialSet = shown stores) :
    (storeKey ind c).securMaterialSet =
      shown (⟨transportSlot c ind.keySeqNumber, ind.key, ind.keySeqNumber⟩ :: stores) := by
  rw [shown_cons, ← told]
  simp only [storeKey]
  split <;> rfl

theorem authenticate_material (i : Fin 3) (seq : UInt8) (c : SecurContext) :
    (authenticate i seq c).securMaterialSet = c.securMaterialSet := by
  unfold authenticate
  split <;> rfl

theorem transport_told {c c' : SecurContext} {stores : List Stored} {ind : TransportKeyInd}
    (told : c.securMaterialSet = shown stores)
    (taken : zbApsmeTransportKeyIndication ind c = some c') :
    c'.securMaterialSet = shown (keyStores c (.transportKey ind) ++ stores) := by
  unfold zbApsmeTransportKeyIndication at taken
  split at taken
  · rename_i standard
    obtain ⟨d, learnt, taken⟩ := Option.bind_eq_some_iff.1 taken
    obtain ⟨trustCenterAddress, addr, rfl⟩ := learnTrustCenter_frame learnt
    split at taken
    · rename_i empty
      cases taken
      rw [authenticate_material]
      simpa [keyStores, empty] using told
    · rename_i carries
      cases taken
      have stored : carriesNoKey ind = false := by simpa using carries
      rw [authenticate_material, keyStores, if_pos ⟨standard, stored⟩]
      exact storeKey_told told
  · rename_i other
    cases taken
    simpa [keyStores, other] using told

/-- **The slots show what was stored in them**, after every call. -/
theorem slotsTold_step (told : SlotsTold h) (taken : historyStep h call = some h') :
    SlotsTold h' := by
  obtain ⟨ctx, stepped, rfl⟩ := Option.map_eq_some_iff.1 taken
  show ctx.securMaterialSet = shown (callStores h.ctx call ++ h.stores)
  cases call with
  | tcInit extendedAddress =>
      cases stepped
      exact told
  | generateKeys random =>
      cases stepped
      have told : h.ctx.securMaterialSet = shown h.stores := told
      simp [callStores, generatedStores, shown_cons, securGenerateKeys, securGenerateKey, told]
  | setupPreconfiguredKey key i =>
      cases stepped
      have told : h.ctx.securMaterialSet = shown h.stores := told
      by_cases inside : i.toNat < 3
      · simp [zbSecurSetupPreconfiguredKey, callStores, inside, shown_cons, told]
      · simp [zbSecurSetupPreconfiguredKey, callStores, inside, told]
  | key call =>
      cases call with
      | transportKey ind => exact transport_told told stepped
      | switchKeyIndication keyNumber random =>
          cases stepped
          exact switch_told told
      | keySwitch keyNumber random =>
          cases stepped
          exact switch_told told

/-! ## What the search finds -/

/-- The slots are searched by what they show. -/
theorem seqOf_shown (told : SlotsTold h) (i : Fin 3) :
    seqOf h.ctx i = (shown h.stores i).keySeqNumber := by
  unfold seqOf
  rw [told]

theorem keyBySeq_shown (told : SlotsTold h) {i : Fin 3} (found : keySlotBySeq h.ctx n = some i) :
    securNwkKeyBySeq h.ctx n = some (shown h.stores i).key := by
  rw [securNwkKeyBySeq, found, ← told]
  rfl

theorem findsLatest_iff_of_told (told : SlotsTold h) : FindsLatest h n ↔ MetFirst h n := by
  constructor
  · rintro ⟨key, stored⟩ i shows_
    cases found : keySlotBySeq h.ctx n with
    | none => exact absurd shows_ (keySlotBySeq_none found i)
    | some j =>
        obtain ⟨seq, before⟩ := keySlotBySeq_some found
        rw [seqOf_shown told] at seq
        rw [keyBySeq_shown told found] at key
        exact ⟨j, holdsLatest_of_key (stored j found) seq key.symm, before i shows_⟩
  · intro first
    cases found : keySlotBySeq h.ctx n with
    | none =>
        -- a slot that holds the newest key would show the number
        have nowhere : ¬ ∃ i, HoldsLatest h.stores n i := by
          rintro ⟨i, holds⟩
          exact keySlotBySeq_none found i ((seqOf_shown told i).trans holds.spec.1)
        refine ⟨?_, by simp [found]⟩
        rw [securNwkKeyBySeq, found, latestKey, if_neg nowhere]
        rfl
    | some i =>
        obtain ⟨shows_, before⟩ := keySlotBySeq_some found
        obtain ⟨j, holds, le⟩ := first i shows_
        have here := (seqOf_shown told j).trans holds.spec.1
        obtain rfl := searchPlace_inj (Nat.le_antisymm (before j here) le)
        refine ⟨(keyBySeq_shown told found).trans holds.spec.2.symm, ?_⟩
        rintro k same
        cases found.symm.trans same
        exact lastStored_isSome.1 (holds.2 ▸ holds.1)

/-- A slot no key was stored in is found for the number 0 alone. -/
theorem blank_only_zero {i : Fin 3} (told : SlotsTold h) (found : keySlotBySeq h.ctx n = some i)
    (blank : ∀ s ∈ h.stores, s.slot ≠ i) : n = 0 := by
  have none_ : lastStored h.stores i = none := by
    rw [← Option.not_isSome_iff_eq_none, lastStored_isSome]
    rintro ⟨s, mem, here⟩
    exact blank s mem here
  have shows_ := (keySlotBySeq_some found).1
  rw [seqOf_shown told, shown, none_] at shows_
  exact shows_.symm

end History

/-- **When a search finds the newest key of its number**, after every history of keys from a
zero-initialised NIB. -/
theorem findsLatest_iff {addr : ZbAddrGlobals} {calls : List ProvisionCall} {h : KeyHistory}
    (ran : run historyStep (historyInit addr) calls = some h) (n : UInt8) :
    FindsLatest h n ↔ MetFirst h n :=
  findsLatest_iff_of_told (run_invariant_of_step (fun _ _ _ told taken => slotsTold_step told taken)
    (slotsTold_init addr) ran)

/-- A preconfigured key 1, found by its number. -/
theorem preconfigured_found :
    ∃ h, run historyStep (historyInit .init)
        [.setupPreconfiguredKey (Vector.replicate 16 7) 1] = some h ∧ FindsLatest h 1 := by
  have ran : run historyStep (historyInit .init)
      [.setupPreconfiguredKey (Vector.replicate 16 7) 1] = some ⟨zbSecurSetupPreconfiguredKey (Vector.replicate 16 7) 1 (.init .init),
        [⟨1, Vector.replicate 16 7, 1⟩]⟩ := rfl
  exact ⟨_, ran, (findsLatest_iff ran 1).2 (by decide +kernel)⟩

/-- **A slot without a key is found**: with a preconfigured key 1 and no other, the search for
key 0 finds the zeros of slot 0. -/
theorem blank_slot_found :
    ¬ ∀ (addr : ZbAddrGlobals) (calls : List ProvisionCall) (h : KeyHistory),
      run historyStep (historyInit addr) calls = some h → ∀ n, FindsLatest h n := by
  intro claim
  have found := claim .init [.setupPreconfiguredKey (Vector.replicate 16 7) 1] _ rfl 0
  exact absurd found.key (by decide +kernel)

end Zboss.Secur.KeyLookup
