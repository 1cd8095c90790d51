/-
# Nwk.FormationDraws -- whether the draw of a PAN identifier ends

`nwk_formation_select_channel` draws identifiers until no network on the channel has the draw.
`zb_random` sets its state from an address before each step: it returns one value, the same at
every call.  So the loop ends at the first draw or never.

* `zbRandomDraws_const`: the generator repeats itself;
* `draws_end_iff`: the loop ends iff its flag is set before it, or no network recorded on the
  channel has the one value;
* `selectChannel_ends_iff`: so does the selection.

Pole: `draws_do_not_end`, one network on the channel.
-/
import Mathlib
import Zboss.Theory.Retry
import Zboss.Nwk.Formation

namespace Zboss.Nwk.FormationDraws

open Zboss.Theory.Retry
open Zboss.Nwk.Formation

set_option autoImplicit false

/-! ## The generator -/

/-- `v` is the static variable, and `rndBase` the address of `g_izb`: the new state and the value. -/
def zbRandom (rndBase _v : UInt32) : UInt32 × UInt16 :=
  let v := rndBase
  let v := 1103515245 * v + 12345
  (v, (v &&& 0xffff).toUInt16)

/-- The state after some calls. -/
def zbRandomState (rndBase : UInt32) : Nat → UInt32
  | 0 => 0
  | k + 1 => (zbRandom rndBase (zbRandomState rndBase k)).1

/-- The values, in the order of the calls. -/
def zbRandomDraws (rndBase : UInt32) (k : Nat) : UInt16 :=
  (zbRandom rndBase (zbRandomState rndBase k)).2

/-- The state is not used. -/
theorem zbRandom_forgets (rndBase v v' : UInt32) : zbRandom rndBase v = zbRandom rndBase v' := rfl

/-- **The generator returns one value.** -/
theorem zbRandomDraws_const (rndBase : UInt32) (k : Nat) :
    zbRandomDraws rndBase k = zbRandomDraws rndBase 0 := by
  rw [zbRandomDraws, zbRandomDraws, zbRandom_forgets rndBase _ (zbRandomState rndBase 0)]

/-! ## The loop -/

section Loop

variable {env : FormEnv} {s : FormState} {sel : Selection} {fuel : Nat}

/-- The loop is a draw until no network on the channel has the identifier. -/
theorem drawPanId_eq (notYet : sel.uniquePanId = false) :
    drawPanId env s fuel sel =
      (retry (fun panId => !panIdOnChannel s sel.channel panId) env.random fuel sel.drawn).map
        fun (panId, drawn) => { sel with panId, drawn, uniquePanId := true } := by
  induction fuel generalizing sel with
  | zero =>
      rw [drawPanId, if_neg (Bool.eq_false_iff.1 notYet)]
      rfl
  | succ fuel ih =>
      rw [drawPanId, if_neg (Bool.eq_false_iff.1 notYet), retry]
      dsimp only
      cases taken : panIdOnChannel s sel.channel (env.random sel.drawn) with
      | false =>
          rw [if_pos (by rfl)]
          cases fuel <;> rfl
      | true =>
          rw [if_neg (by decide)]
          exact ih rfl

/-- The flag is set before the loop, or a draw is on no network of the channel. -/
theorem drawPanId_ends_iff :
    (∃ fuel, (drawPanId env s fuel sel).isSome) ↔
      sel.uniquePanId = true ∨ ∃ n, panIdOnChannel s sel.channel (env.random (sel.drawn + n)) = false := by
  cases unique : sel.uniquePanId with
  | true =>
      constructor
      · intro _
        exact .inl rfl
      · intro _
        refine ⟨0, ?_⟩
        rw [drawPanId, if_pos unique]
        rfl
  | false =>
      have ends : (∃ fuel, (drawPanId env s fuel sel).isSome) ↔
          ∃ fuel, (retry (fun panId => !panIdOnChannel s sel.channel panId) env.random fuel
            sel.drawn).isSome := by
        simp only [drawPanId_eq unique, Option.isSome_map]
      rw [ends, retry_returns_iff]
      simp

end Loop

/-- **The loop ends iff** it is not entered, or no network recorded on the channel has the one value
of the generator. -/
theorem draws_end_iff (env : FormEnv) (rndBase : UInt32) (s : FormState) (sel : Selection) :
    (∃ fuel, (drawPanId { env with random := zbRandomDraws rndBase } s fuel sel).isSome) ↔
      sel.uniquePanId = true ∨ panIdOnChannel s sel.channel (zbRandomDraws rndBase 0) = false := by
  rw [drawPanId_ends_iff]
  dsimp only
  simp only [zbRandomDraws_const rndBase (sel.drawn + _), exists_const]

/-- The variables at the loop. -/
def selected (env : FormEnv) (s : FormState) : Selection :=
  searchChannel env s.scanChannels (countNetworks s.extNeighbor s.tmp)
    (List.range' zbMacStartChannelNumber zbMacSupportedChannels) (startSelection env)

/-- **The selection ends iff** the loop is passed by, or ends. -/
theorem selectChannel_ends_iff (env : FormEnv) (s : FormState) :
    (∃ fuel, (nwkFormationSelectChannel env fuel s).isSome) ↔
      (selected env s).channel = zbMacStartChannelNumber ∨
        ∃ fuel, (drawPanId env s fuel (selected env s)).isSome := by
  by_cases first : (selected env s).channel = zbMacStartChannelNumber
  · constructor
    · intro _
      exact .inl first
    · intro _
      refine ⟨0, ?_⟩
      rw [nwkFormationSelectChannel, ← selected, if_neg (not_not.2 first)]
      rfl
  · have ends : ∀ fuel, (nwkFormationSelectChannel env fuel s).isSome =
        (drawPanId env s fuel (selected env s)).isSome := by
      intro fuel
      rw [nwkFormationSelectChannel, ← selected, if_pos first, Option.isSome_map]
    simp only [ends, first, false_or]

/-! ## Poles -/

/-- One network is recorded, on channel 12, with the identifier that is drawn. -/
def oneNetwork : FormState :=
  { FormState.init with
    extNeighbor := [⟨⟨1, 0, 0⟩, 12⟩]
    extNeighborSize := 1
    panMap := fun i => if i = 0 then some ⟨1, zbRandomDraws 0x20000000 0⟩ else none }

/-- **The loop does not end**, with one network on the channel. -/
theorem draws_do_not_end :
    ¬ ∀ (env : FormEnv) (rndBase : UInt32) (s : FormState) (sel : Selection),
      s.extNeighbor.length < 2 ^ 16 →
        ∃ fuel, (drawPanId { env with random := zbRandomDraws rndBase } s fuel sel).isSome := by
  intro all
  have ends := all
    { macPanId := 0, random := fun _ => 0, panIdHash := fun _ => 0, extRoom := 1,
      rejoinExtPanId := 0, nibPanId := 0, nibExtPanId := 0, isManager := false }
    0x20000000 oneNetwork ⟨12, 1, 0, 0, false, 0⟩ (by decide)
  rcases drawPanId_ends_iff.1 ends with unique | ⟨n, other⟩
  · cases unique
  · dsimp only at other
    rw [zbRandomDraws_const] at other
    revert other
    decide

end Zboss.Nwk.FormationDraws
