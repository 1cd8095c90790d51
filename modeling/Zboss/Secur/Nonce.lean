/-
# Secur.Nonce -- no nonce twice under one key

A session logs the key and the nonce of every frame it secures.  Both frame
counters are set back as keys come and go, so the session also keeps a ledger of
the counters' lives (`Theory.CounterLives`): a switch hands the life of the
outgoing counter to the previous one and begins another, a transport that changes
the key in use begins one as well.

The source sets a counter back without a look at the key that is in use
afterwards.  A key that stays in use while its counter starts again repeats its
nonces (`switch_to_the_same_key_repeats`).  `nonce_unique_of_run`: as long as each
key draws in one life only, and no counter comes to its end, no nonce repeats.
-/
import Mathlib
import Zboss.Theory.Run
import Zboss.Theory.CounterLives
import Zboss.Secur.ActiveKey
import Zboss.Secur.NwkSecure

namespace Zboss.Secur.Nonce

open Zboss.Theory.Run
open Zboss.Theory.CounterLives
open Zboss.Common.Types
open Zboss.Common.Address
open Zboss.Secur.KeyMaterial
open Zboss.Secur.NwkSecure
open Zboss.Secur.ActiveKey

set_option autoImplicit false

inductive NonceCall where
  | secureFrame (useSameKey : Bool) (aux : ZbNwkAuxFrameHdr)
  | key (call : KeyCall)

/-- A device, the frames it has passed to CCM* (the last one first), and the lives
of its counters. -/
structure Session where
  dev : SecurContext
  frames : List (ZbKey × ZbSecurCcmNonce)
  ledger : Ledger ZbKey Nat

/-- A device that has secured nothing yet. -/
def Session.start (dev : SecurContext) : Session := ⟨dev, [], Ledger.start⟩

/-! ## When the counters are set back -/

/-- A transport that authenticates the device, or that changes the number of the
active key. -/
def transportRestarts (c : SecurContext) (ind : TransportKeyInd) : Prop :=
  ind.keyType = zbStandardNetworkKey ∧
    (c.authenticated = false ∨
      carriesNoKey ind = false ∧ transportSlot c ind.keySeqNumber = c.activeSecurMaterialI ∧
        ind.keySeqNumber ≠ c.activeKeySeqNumber)

/-- A switch that is carried out. -/
def switchTakes (c : SecurContext) (keyNumber : UInt8) : Prop :=
  c.isTc = true ∨ ¬ ∀ i, seqOf c i = keyNumber

instance (c : SecurContext) (ind : TransportKeyInd) : Decidable (transportRestarts c ind) :=
  inferInstanceAs (Decidable (_ ∧ (_ ∨ _ ∧ _ ∧ _)))

instance (c : SecurContext) (keyNumber : UInt8) : Decidable (switchTakes c keyNumber) :=
  inferInstanceAs (Decidable (_ ∨ ¬ ∀ i, seqOf c i = keyNumber))

def ledgerStep (c : SecurContext) (l : Ledger ZbKey Nat) : KeyCall → Ledger ZbKey Nat
  | .transportKey ind => if transportRestarts c ind then l.restart else l
  | .switchKeyIndication keyNumber _ | .keySwitch keyNumber _ =>
      if switchTakes c keyNumber then l.rotate else l

/-- The life a frame draws from. -/
def lifeInUse (useSameKey : Bool) (aux : ZbNwkAuxFrameHdr) (s : Session) : Nat :=
  if keepsKey useSameKey aux s.dev then s.ledger.previous else s.ledger.current

/-- The counter a frame draws from. -/
def counterInUse (useSameKey : Bool) (aux : ZbNwkAuxFrameHdr) (c : SecurContext) : UInt32 :=
  if keepsKey useSameKey aux c then c.prevOutgoingFrameCounter else c.outgoingFrameCounter

/-- The number of the key a frame is secured with. -/
def numberInUse (useSameKey : Bool) (aux : ZbNwkAuxFrameHdr) (c : SecurContext) : UInt8 :=
  if keepsKey useSameKey aux c then aux.keySeqNumber else c.activeKeySeqNumber

/-- One call, with the log and the ledger kept along. -/
def nonceStep (extendedAddress : ZbIeeeAddr) (s : Session) : NonceCall → Option Session
  | .secureFrame useSameKey aux =>
      let (dev, _, passed) := zbNwkSecureFrame extendedAddress useSameKey aux s.dev
      match passed with
      | none => some { s with dev }
      | some (key, nonce) =>
          some ⟨dev, (key, nonce) :: s.frames,
            s.ledger.draw (lifeInUse useSameKey aux s) key nonce.frameCounter.toNat⟩
  | .key call => do
      let dev ← keyStep s.dev call
      return { s with dev, ledger := ledgerStep s.dev s.ledger call }

def isSecureFrame : NonceCall → Bool
  | .secureFrame _ _ => true
  | .key _ => false

/-! ## The condition -/

/-- The counter a frame takes is not at its end. -/
def CounterLeft (s : Session) : NonceCall → Prop
  | .secureFrame useSameKey aux => counterInUse useSameKey aux s.dev ≠ 0xFFFFFFFF
  | .key _ => True

/-- The key a frame is secured with has been used in this life of the counter only. -/
def KeyInOneLife (s : Session) : NonceCall → Prop
  | .secureFrame useSameKey aux =>
      ∀ key ∈ securNwkKeyBySeq s.dev (numberInUse useSameKey aux s.dev),
        s.ledger.OneLife (lifeInUse useSameKey aux s) key
  | .key _ => True

/-- **When a frame gets a nonce of its own.** -/
def SecureIntact (s : Session) (call : NonceCall) : Prop := CounterLeft s call ∧ KeyInOneLife s call

instance (s : Session) (call : NonceCall) : Decidable (CounterLeft s call) :=
  match call with
  | .secureFrame useSameKey aux =>
      inferInstanceAs (Decidable (counterInUse useSameKey aux s.dev ≠ 0xFFFFFFFF))
  | .key _ => inferInstanceAs (Decidable True)

instance (s : Session) (call : NonceCall) : Decidable (KeyInOneLife s call) :=
  match call with
  | .secureFrame useSameKey aux =>
      -- over the one key found, not over all keys
      @Option.decidableForallMem _ (s.ledger.OneLife (lifeInUse useSameKey aux s)) inferInstance
        (securNwkKeyBySeq s.dev (numberInUse useSameKey aux s.dev))
  | .key _ => inferInstanceAs (Decidable True)

instance (s : Session) (call : NonceCall) : Decidable (SecureIntact s call) :=
  inferInstanceAs (Decidable (CounterLeft s call ∧ KeyInOneLife s call))

/-- **The invariant**: the ledger is that of the log and of the two counters. -/
structure SessionOk (s : Session) : Prop where
  ledger : s.ledger.Ok s.dev.outgoingFrameCounter.toNat s.dev.prevOutgoingFrameCounter.toNat
  logged : s.ledger.drawn = s.frames.map fun f => (f.1, f.2.frameCounter.toNat)

section Steps

variable {extendedAddress : ZbIeeeAddr} {s t : Session} {c d : SecurContext}

/-! ## What the calls do to the counters -/

theorem storeKey_counters (ind : TransportKeyInd) (c : SecurContext) :
    ((storeKey ind c).outgoingFrameCounter =
        if transportSlot c ind.keySeqNumber = c.activeSecurMaterialI ∧
            ind.keySeqNumber ≠ c.activeKeySeqNumber then 0
        else c.outgoingFrameCounter) ∧
      (storeKey ind c).prevOutgoingFrameCounter = c.prevOutgoingFrameCounter := by
  simp only [storeKey]
  split <;> exact ⟨rfl, rfl⟩

theorem authenticate_counters (i : Fin 3) (n : UInt8) (c : SecurContext) :
    ((authenticate i n c).outgoingFrameCounter =
        if c.authenticated = false then 0 else c.outgoingFrameCounter) ∧
      (authenticate i n c).prevOutgoingFrameCounter = c.prevOutgoingFrameCounter := by
  cases known : c.authenticated <;> simp [authenticate, known]

theorem transport_counters {ind : TransportKeyInd}
    (taken : zbApsmeTransportKeyIndication ind c = some d) :
    d.outgoingFrameCounter = (if transportRestarts c ind then 0 else c.outgoingFrameCounter) ∧
      d.prevOutgoingFrameCounter = c.prevOutgoingFrameCounter := by
  unfold zbApsmeTransportKeyIndication at taken
  split at taken
  · next standard =>
      obtain ⟨e, learnt, taken⟩ := Option.bind_eq_some_iff.1 taken
      obtain ⟨trustCenterAddress, addr, rfl⟩ := learnTrustCenter_frame learnt
      split at taken
      · next empty =>
          cases taken
          obtain ⟨outgoing, previous⟩ :=
            authenticate_counters 0 ind.keySeqNumber { c with trustCenterAddress, addr }
          rw [outgoing, previous]
          simp [transportRestarts, standard, empty]
      · next key =>
          cases taken
          have slot : transportSlot { c with trustCenterAddress, addr } ind.keySeqNumber =
            transportSlot c ind.keySeqNumber := rfl
          obtain ⟨outgoing, previous⟩ := authenticate_counters (transportSlot c ind.keySeqNumber)
            ind.keySeqNumber (storeKey ind { c with trustCenterAddress, addr })
          obtain ⟨stored, storedPrevious⟩ := storeKey_counters ind { c with trustCenterAddress, addr }
          rw [slot, outgoing, previous, stored, storedPrevious, (storeKey_frame ind _).1, slot]
          refine ⟨?_, rfl⟩
          cases known : c.authenticated <;> simp [transportRestarts, standard, key, known]
  · next other =>
      cases taken
      exact ⟨(if_neg fun restarts => other restarts.1).symm, rfl⟩

theorem switch_counters (c : SecurContext) (n : UInt8) (random : ZbKey) :
    ((securNwkKeySwitch n random c).outgoingFrameCounter =
        if switchTakes c n then 0 else c.outgoingFrameCounter) ∧
      (securNwkKeySwitch n random c).prevOutgoingFrameCounter =
        if switchTakes c n then c.outgoingFrameCounter else c.prevOutgoingFrameCounter := by
  rcases securNwkKeySwitch_cases c n random with ⟨-, tc, eq⟩ | ⟨all, tc, eq⟩ | ⟨some_, eq⟩
  · have takes : switchTakes c n := Or.inl tc
    rw [eq, if_pos takes, if_pos takes]
    exact ⟨rfl, rfl⟩
  · have idle : ¬ switchTakes c n := by simp [switchTakes, tc, all]
    rw [eq, if_neg idle, if_neg idle]
    exact ⟨rfl, rfl⟩
  · have takes : switchTakes c n := Or.inr some_
    rw [eq, if_pos takes, if_pos takes]
    exact ⟨rfl, rfl⟩

/-- A key call makes no new counter values. -/
theorem keyStep_counters {call : KeyCall} (taken : keyStep c call = some d) :
    (d.outgoingFrameCounter = 0 ∨ d.outgoingFrameCounter = c.outgoingFrameCounter) ∧
      (d.prevOutgoingFrameCounter = c.outgoingFrameCounter ∨
        d.prevOutgoingFrameCounter = c.prevOutgoingFrameCounter) := by
  have switched : ∀ n random,
      ((securNwkKeySwitch n random c).outgoingFrameCounter = 0 ∨
          (securNwkKeySwitch n random c).outgoingFrameCounter = c.outgoingFrameCounter) ∧
        ((securNwkKeySwitch n random c).prevOutgoingFrameCounter = c.outgoingFrameCounter ∨
          (securNwkKeySwitch n random c).prevOutgoingFrameCounter = c.prevOutgoingFrameCounter) := by
    intro n random
    obtain ⟨outgoing, previous⟩ := switch_counters c n random
    rw [outgoing, previous]
    exact ⟨ite_eq_or_eq .., ite_eq_or_eq ..⟩
  cases call with
  | transportKey ind =>
      obtain ⟨outgoing, previous⟩ := transport_counters taken
      rw [outgoing]
      exact ⟨ite_eq_or_eq .., Or.inr previous⟩
  | switchKeyIndication n random =>
      cases taken
      exact switched n random
  | keySwitch n random =>
      cases taken
      exact switched n random

/-- **The ledger follows the counters** over a key call. -/
theorem ledgerStep_ok {call : KeyCall} {l : Ledger ZbKey Nat}
    (ok : l.Ok c.outgoingFrameCounter.toNat c.prevOutgoingFrameCounter.toNat)
    (taken : keyStep c call = some d) :
    (ledgerStep c l call).Ok d.outgoingFrameCounter.toNat d.prevOutgoingFrameCounter.toNat := by
  have switched : ∀ n random,
      (if switchTakes c n then l.rotate else l).Ok
        (securNwkKeySwitch n random c).outgoingFrameCounter.toNat
        (securNwkKeySwitch n random c).prevOutgoingFrameCounter.toNat := by
    intro n random
    obtain ⟨outgoing, previous⟩ := switch_counters c n random
    rw [outgoing, previous]
    by_cases takes : switchTakes c n
    · simp only [if_pos takes]
      exact ok.rotate _
    · simp only [if_neg takes]
      exact ok
  cases call with
  | transportKey ind =>
      obtain ⟨outgoing, previous⟩ := transport_counters taken
      rw [outgoing, previous, ledgerStep]
      by_cases restarts : transportRestarts c ind
      · simp only [if_pos restarts]
        exact ok.restart _
      · simp only [if_neg restarts]
        exact ok
  | switchKeyIndication n random =>
      cases taken
      exact switched n random
  | keySwitch n random =>
      cases taken
      exact switched n random

theorem ledgerStep_drawn (c : SecurContext) (l : Ledger ZbKey Nat) (call : KeyCall) :
    (ledgerStep c l call).drawn = l.drawn := by
  cases call <;> (simp only [ledgerStep]; split <;> rfl)

/-! ## Securing a frame -/

/-- A counter that is not at its end goes up by one. -/
theorem counter_succ {n : UInt32} (left : n ≠ 0xFFFFFFFF) : (n + 1).toNat = n.toNat + 1 := by
  have bound := n.toNat_lt_size
  have below : n.toNat ≠ 0xFFFFFFFF := fun same => left (UInt32.toNat_inj.1 same)
  have one : (1 : UInt32).toNat = 1 := rfl
  simp only [UInt32.size] at bound
  rw [UInt32.toNat_add]
  omega

theorem fillAux_keyBySeq (useSameKey : Bool) (aux : ZbNwkAuxFrameHdr) (c : SecurContext) (n : UInt8) :
    securNwkKeyBySeq (fillAux extendedAddress useSameKey aux c).2 n = securNwkKeyBySeq c n := by
  simp only [fillAux]
  split <;> rfl

/-- What `zb_nwk_secure_frame` hands to CCM*. -/
theorem zbNwkSecureFrame_passed (useSameKey : Bool) (aux : ZbNwkAuxFrameHdr) (c : SecurContext) :
    (zbNwkSecureFrame extendedAddress useSameKey aux c).2.2 =
      (securNwkKeyBySeq c (numberInUse useSameKey aux c)).map fun key =>
        (key, ⟨extendedAddress, counterInUse useSameKey aux c, zbNwkStdSecurControl⟩) := by
  simp only [zbNwkSecureFrame, fillAux_keyBySeq]
  by_cases keeps : keepsKey useSameKey aux c = true
  · simp only [fillAux, fillNonce, numberInUse, counterInUse, if_pos keeps]
  · simp only [fillAux, fillNonce, numberInUse, counterInUse, if_neg keeps]

/-- The step of a frame that is secured, and of one that is refused. -/
theorem secureFrame_cases (useSameKey : Bool) (aux : ZbNwkAuxFrameHdr)
    (taken : nonceStep extendedAddress s (.secureFrame useSameKey aux) = some t) :
    t.dev = (fillAux extendedAddress useSameKey aux s.dev).2 ∧
      ((t.frames = s.frames ∧ t.ledger = s.ledger) ∨
        ∃ key ∈ securNwkKeyBySeq s.dev (numberInUse useSameKey aux s.dev),
          t.frames = (key, ⟨extendedAddress, counterInUse useSameKey aux s.dev,
              zbNwkStdSecurControl⟩) :: s.frames ∧
            t.ledger = s.ledger.draw (lifeInUse useSameKey aux s) key
              (counterInUse useSameKey aux s.dev).toNat) := by
  have passed := @zbNwkSecureFrame_passed extendedAddress useSameKey aux s.dev
  simp only [nonceStep] at taken
  cases found : securNwkKeyBySeq s.dev (numberInUse useSameKey aux s.dev) with
  | none =>
      rw [found] at passed
      simp only [passed, Option.map_none] at taken
      cases taken
      exact ⟨rfl, Or.inl ⟨rfl, rfl⟩⟩
  | some key =>
      rw [found] at passed
      simp only [passed, Option.map_some] at taken
      cases taken
      exact ⟨rfl, Or.inr ⟨key, rfl, rfl, rfl⟩⟩

/-- **A frame draws a new number** for its key. -/
theorem secureFrame_ok {useSameKey : Bool} {aux : ZbNwkAuxFrameHdr} (ok : SessionOk s)
    (intact : SecureIntact s (.secureFrame useSameKey aux))
    (taken : nonceStep extendedAddress s (.secureFrame useSameKey aux) = some t) : SessionOk t := by
  obtain ⟨left, oneLife⟩ := intact
  obtain ⟨dev, effect⟩ := secureFrame_cases useSameKey aux taken
  by_cases keeps : keepsKey useSameKey aux s.dev = true
  · -- from the previous counter
    simp only [CounterLeft, KeyInOneLife, counterInUse, lifeInUse, if_pos keeps] at left oneLife effect
    have outgoing : t.dev.outgoingFrameCounter = s.dev.outgoingFrameCounter := by
      rw [dev, fillAux, if_pos keeps]
    have previous : t.dev.prevOutgoingFrameCounter.toNat = s.dev.prevOutgoingFrameCounter.toNat + 1 := by
      rw [dev, fillAux, if_pos keeps]
      exact counter_succ left
    rcases effect with ⟨frames, ledger⟩ | ⟨key, found, frames, ledger⟩
    · refine ⟨?_, by rw [frames, ledger, ok.logged]⟩
      rw [ledger, outgoing, previous]
      exact ok.ledger.skip (le_refl _) (Nat.le_succ _)
    · refine ⟨?_, by rw [frames, ledger, List.map_cons, ← ok.logged]; rfl⟩
      rw [ledger, outgoing, previous]
      exact ok.ledger.previous (oneLife key found) (Nat.lt_succ_self _)
  · -- from the current one
    simp only [CounterLeft, KeyInOneLife, counterInUse, lifeInUse, if_neg keeps] at left oneLife effect
    have previous : t.dev.prevOutgoingFrameCounter = s.dev.prevOutgoingFrameCounter := by
      rw [dev, fillAux, if_neg keeps]
    have outgoing : t.dev.outgoingFrameCounter.toNat = s.dev.outgoingFrameCounter.toNat + 1 := by
      rw [dev, fillAux, if_neg keeps]
      exact counter_succ left
    rcases effect with ⟨frames, ledger⟩ | ⟨key, found, frames, ledger⟩
    · refine ⟨?_, by rw [frames, ledger, ok.logged]⟩
      rw [ledger, outgoing, previous]
      exact ok.ledger.skip (Nat.le_succ _) (le_refl _)
    · refine ⟨?_, by rw [frames, ledger, List.map_cons, ← ok.logged]; rfl⟩
      rw [ledger, outgoing, previous]
      exact ok.ledger.current (oneLife key found) (Nat.lt_succ_self _)

end Steps

/-! ## Runs -/

section Runs

variable {extendedAddress : ZbIeeeAddr} {s t : Session}

theorem start_ok (dev : SecurContext) : SessionOk (Session.start dev) :=
  ⟨Ledger.ok_start _ _, rfl⟩

theorem nonceStep_ok {call : NonceCall} (ok : SessionOk s) (intact : SecureIntact s call)
    (taken : nonceStep extendedAddress s call = some t) : SessionOk t := by
  cases call with
  | secureFrame useSameKey aux => exact secureFrame_ok ok intact taken
  | key call =>
      obtain ⟨dev, stepped, rest⟩ := Option.bind_eq_some_iff.1 taken
      cases rest
      exact ⟨ledgerStep_ok ok.ledger stepped, (ledgerStep_drawn ..).trans ok.logged⟩

/-- **Nonce uniqueness over every run**: a device whose frames are all intact never
passes the same key with the same nonce to CCM* twice. -/
theorem nonce_unique_of_run (extendedAddress : ZbIeeeAddr) (dev : SecurContext)
    (calls : List NonceCall) (s : Session)
    (intact : Along (nonceStep extendedAddress) SecureIntact (Session.start dev) calls)
    (ran : run (nonceStep extendedAddress) (Session.start dev) calls = some s) :
    s.frames.Nodup := by
  have ok : SessionOk s :=
    run_invariant (fun _ _ _ ok intact taken => nonceStep_ok ok intact taken) (start_ok dev) intact ran
  have nodup := ok.ledger.nodup
  rw [ok.logged] at nodup
  exact nodup.of_map _

/-- A run with fewer than 2^32 frames, secured or refused, never exhausts a counter
that starts at 0. -/
theorem counterLeft_of_few {calls : List NonceCall}
    (few : s.dev.outgoingFrameCounter.toNat + calls.countP isSecureFrame < UInt32.size)
    (fewPrevious : s.dev.prevOutgoingFrameCounter.toNat + calls.countP isSecureFrame < UInt32.size) :
    Along (nonceStep extendedAddress) CounterLeft s calls := by
  induction calls generalizing s with
  | nil => trivial
  | cons call calls ih =>
      cases call with
      | secureFrame useSameKey aux =>
          simp only [List.countP_cons, isSecureFrame, if_true] at few fewPrevious
          have left : CounterLeft s (.secureFrame useSameKey aux) := by
            have below : ∀ n : UInt32, n.toNat + 1 < UInt32.size → n ≠ 0xFFFFFFFF := by
              rintro n lt rfl
              exact absurd lt (by decide)
            simp only [CounterLeft, counterInUse]
            split
            · exact below _ (by omega)
            · exact below _ (by omega)
          refine ⟨left, fun t taken => ?_⟩
          obtain ⟨dev, -⟩ := secureFrame_cases useSameKey aux taken
          simp only [CounterLeft, counterInUse] at left
          by_cases keeps : keepsKey useSameKey aux s.dev = true
          · rw [if_pos keeps] at left
            refine ih ?_ ?_ <;> rw [dev, fillAux, if_pos keeps]
            · exact Nat.lt_of_le_of_lt (Nat.add_le_add_left (Nat.le_succ _) _) few
            · rw [counter_succ left]
              omega
          · rw [if_neg keeps] at left
            refine ih ?_ ?_ <;> rw [dev, fillAux, if_neg keeps]
            · rw [counter_succ left]
              omega
            · exact Nat.lt_of_le_of_lt (Nat.add_le_add_left (Nat.le_succ _) _) fewPrevious
      | key call =>
          simp only [List.countP_cons, isSecureFrame] at few fewPrevious
          refine ⟨trivial, fun t taken => ?_⟩
          obtain ⟨dev, stepped, rest⟩ := Option.bind_eq_some_iff.1 taken
          cases rest
          obtain ⟨outgoing, previous⟩ := keyStep_counters stepped
          have zero : (0 : UInt32).toNat = 0 := rfl
          refine ih ?_ ?_
          · rcases outgoing with eq | eq <;> rw [eq] <;> omega
          · rcases previous with eq | eq <;> rw [eq] <;> omega

/-- A header with key number 0. -/
def someAux : ZbNwkAuxFrameHdr := ⟨0, 0, Vector.replicate 8 0, 0⟩

/-- A Trust Center with three keys. -/
def withKeys : SecurContext :=
  securStart (some (Vector.replicate 8 5))
    (some fun i => Vector.replicate 16 (UInt8.ofNat (i.val + 7)))
    ZbAddrGlobals.init

/-- Two keys in turn, and a frame forwarded under the first after the switch. -/
def forwarding : List NonceCall :=
  [.secureFrame false someAux, .key (.switchKeyIndication 1 (Vector.replicate 16 0)),
    .secureFrame false someAux, .secureFrame true someAux]

/-- One key, and a switch to it between two frames. -/
def sameSwitch : List NonceCall :=
  [.key (.transportKey ⟨1, Vector.replicate 8 2, Vector.replicate 16 1, 1⟩),
    .secureFrame false someAux,
    .key (.switchKeyIndication 1 (Vector.replicate 16 0)),
    .secureFrame false someAux]

/-- Pole of the condition: two keys in turn, and a frame forwarded under the first
of them after the switch. -/
theorem nonce_unique_of_forwarding :
    ∃ s, run (nonceStep (Vector.replicate 8 5)) (Session.start withKeys) forwarding = some s ∧
      s.frames.Nodup ∧ s.frames.length = 3 :=
  ⟨_, (Option.some_get (x := run (nonceStep (Vector.replicate 8 5)) (Session.start withKeys)
      forwarding) (by decide)).symm,
    nonce_unique_of_run _ _ forwarding _ (by decide) (Option.some_get (by decide)).symm, by decide⟩

/-- **Pole.**  The switch to the number that is active already sets the counter
back and leaves the key. -/
theorem switch_to_the_same_key_repeats :
    ¬ ∀ (extendedAddress : ZbIeeeAddr) (addr : ZbAddrGlobals) (calls : List NonceCall) (s : Session),
      calls.countP isSecureFrame < UInt32.size →
      run (nonceStep extendedAddress) (Session.start (securStart none none addr)) calls = some s →
      s.frames.Nodup := by
  intro claim
  have repeats : (run (nonceStep (Vector.replicate 8 5))
      (Session.start (securStart none none ZbAddrGlobals.init)) sameSwitch).map (·.frames) =
        some [(Vector.replicate 16 1, ⟨Vector.replicate 8 5, 0, 0x2D⟩),
          (Vector.replicate 16 1, ⟨Vector.replicate 8 5, 0, 0x2D⟩)] := by decide
  obtain ⟨s, ran, frames⟩ := Option.map_eq_some_iff.1 repeats
  have nodup := claim _ _ _ s (by decide) ran
  rw [frames] at nodup
  exact absurd nodup (by decide)

end Runs

end Zboss.Secur.Nonce
