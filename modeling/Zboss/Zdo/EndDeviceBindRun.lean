/-
# Zdo.EndDeviceBindRun -- the rendezvous and the walk, along whole runs

Two requests that match are to end with every link they ask for in the tables, or with
none of them, as the probe has found; with each request answered once; and with the two
fields free for the next pair.  The coordinator does not look at what could prevent it: how
many matches there is room for, whether the alarm was taken, whether the probe's status
means what it should, whether a device did what it was asked, and whether an answer comes
at all.

* `good_of_kept`: along a run whose steps meet the condition on each of these (`kept`),
  every state reached is `Good`, no step writes behind `cluster_list`, and the walk ends.

Pole: `lost_leaves_fields`.
-/
import Mathlib
import Zboss.Common.Constants
import Zboss.Theory.Run
import Zboss.Zdo.EndDeviceBindWalk

namespace Zboss.Zdo.EndDeviceBind

open Zboss.Common.Constants
open Zboss.Theory.Run

set_option autoImplicit false

/-! ## What is to hold -/

/-- The answers to a request. -/
def EdBind.answered (s : EdBind) (number : Nat) : Nat :=
  s.answers.countP fun answer => answer.1.number == number

/-- The request waits for a second one. -/
def EdBind.waiting (s : EdBind) (number : Nat) : Bool :=
  s.waits && (s.bufs s.ctx.dev1.endDeviceBindParam).number == number

/-- **What holds between the steps**: each request is answered once, but for one that waits and has
its alarm; without an operation pending the fields are free, and the links of the pair are all
there when the probe has found none, and all gone when it has found one. -/
structure Good (s : EdBind) : Prop where
  answered : ∀ number < s.requests, s.answered number = if s.waiting number then 0 else 1
  alarm : s.waits = true → s.ctx.dev1.endDeviceBindParam ∈ s.timers
  free : s.pending = [] → s.ctx.dev2.endDeviceBindParam = zbUndefinedBuffer ∧
    (s.ctx.dev1.endDeviceBindParam = zbUndefinedBuffer ∨ s.waits = true)
  walked : s.pending = [] → ∀ pair, s.pair = some pair → ∀ link ∈ pair.wanted,
    s.links link = !s.existed

/-- The answers and callbacks until nothing is pending. -/
def EdBind.remaining (s : EdBind) : Nat := (s.pending.map (taskAhead s.ctx)).sum

/-- An answer comes, or a callback runs. -/
def BindCall.goesOn : BindCall → Bool
  | .run _ => true
  | .respond _ _ _ => true
  | _ => false

section Conditions

variable (ieeeByShort : UInt16 → UInt64)

/-- **What a step shall do**: no request writes behind the end of `cluster_list`, and an answer or a
callback brings the walk nearer to its end. -/
structure StepGood (s : EdBind) (call : BindCall) : Prop where
  inside : ∀ param srcAddr tsn req room, call = .request param srcAddr tsn req room →
    s.fresh param = true → (bindStep ieeeByShort s call).isSome = true
  nearer : ∀ t, call.goesOn = true → bindStep ieeeByShort s call = some t → t.remaining < s.remaining

/-- **The condition**: an alarm that is set has room, the lists of a pair fit, the probe's status is
`NO_ENTRY` exactly when there was no link, after an answer the link is as it was asked for, and
every request is answered. -/
def EdBind.kept (s : EdBind) : BindCall → Bool
  | .request _ _ _ req room =>
      if ¬ validEndpoint req then true
      else if s.ctx.dev1.endDeviceBindParam = zbUndefinedBuffer then room
      else if s.ctx.dev2.endDeviceBindParam ≠ zbUndefinedBuffer then true
      else
        let req1 := (s.bufs s.ctx.dev1.endDeviceBindParam).req
        req1.profileId != req.profileId || pairKept ieeeByShort req1 req
  | .respond i status performed =>
      match s.pending[i]? with
      | some (.request .check _ link) => (status == zbZdpStatusNoEntry) == !s.links link
      | some (.request _ bind link) => performed || s.links link == bind
      | _ => true
  | .lost _ _ => false
  | _ => true

end Conditions

/-! ## The machine -/

section Machine

variable (ieeeByShort : UInt16 → UInt64)

/-- **Where the coordinator is**: no pair is processed and the last one is done with, or there is one
operation pending, and both fields are set. -/
def Mode (s : EdBind) : List BindTask → Prop
  | [] => s.ctx.dev2.endDeviceBindParam = zbUndefinedBuffer ∧
      ∀ pair, s.pair = some pair → ∀ link ∈ pair.wanted, s.links link = !s.existed
  | [task] => s.ctx.dev1.endDeviceBindParam ≠ zbUndefinedBuffer ∧
      s.ctx.dev2.endDeviceBindParam ≠ zbUndefinedBuffer ∧
      (∀ pair, s.pair = some pair → Covers ieeeByShort s.ctx pair) ∧
      Phase ieeeByShort s.links s.existed s.ctx task
  | _ => False

/-- **The invariant.** -/
structure BindOk (s : EdBind) : Prop where
  answered : ∀ number, s.answered number = if number < s.requests ∧ s.waiting number = false then 1 else 0
  known : s.waits = true → (s.bufs s.ctx.dev1.endDeviceBindParam).number < s.requests
  timers : s.timers = if s.waits then [s.ctx.dev1.endDeviceBindParam] else []
  mode : Mode ieeeByShort s s.pending

end Machine

section Steps

variable {ieeeByShort : UInt16 → UInt64} {s t : EdBind}

theorem waits_iff : s.waits = true ↔ s.ctx.dev1.endDeviceBindParam ≠ zbUndefinedBuffer ∧
    s.ctx.dev2.endDeviceBindParam = zbUndefinedBuffer := by
  simp [EdBind.waits]

theorem not_waits_of_first (none_ : s.ctx.dev1.endDeviceBindParam = zbUndefinedBuffer) :
    s.waits = false :=
  Bool.eq_false_iff.2 fun yes => (waits_iff.1 yes).1 none_

theorem not_waits_of_second (some_ : s.ctx.dev2.endDeviceBindParam ≠ zbUndefinedBuffer) :
    s.waits = false :=
  Bool.eq_false_iff.2 fun yes => some_ (waits_iff.1 yes).2

/-- With one of the fields free nothing is pending. -/
theorem Mode.idle {tasks : List BindTask} (mode : Mode ieeeByShort s tasks)
    (free : s.ctx.dev1.endDeviceBindParam = zbUndefinedBuffer ∨
      s.ctx.dev2.endDeviceBindParam = zbUndefinedBuffer) : tasks = [] := by
  match tasks with
  | [] => rfl
  | [_] =>
      obtain ⟨some1, some2, -⟩ := mode
      exact absurd free (not_or.2 ⟨some1, some2⟩)
  | _ :: _ :: _ => exact mode.elim

theorem BindOk.good (ok : BindOk ieeeByShort s) : Good s := by
  refine ⟨fun number less => ?_, fun waits => ?_, fun none_ => ?_, fun none_ => ?_⟩
  · rw [ok.answered]
    cases s.waiting number with
    | false => rw [if_pos ⟨less, rfl⟩]; rfl
    | true => rw [if_neg (by simp)]; rfl
  · rw [ok.timers, if_pos waits]
    exact List.mem_singleton_self _
  · have mode := ok.mode
    rw [none_] at mode
    refine ⟨mode.1, ?_⟩
    by_cases first : s.ctx.dev1.endDeviceBindParam = zbUndefinedBuffer
    · exact .inl first
    · exact .inr (waits_iff.2 ⟨first, mode.1⟩)
  · have mode := ok.mode
    rw [none_] at mode
    exact mode.2

theorem start_ok (links : BindLink → Bool) : BindOk ieeeByShort (EdBind.start links) := by
  refine ⟨fun number => ?_, fun waits => ?_, rfl, rfl, ?_⟩
  · rw [if_neg fun all => absurd all.1 (Nat.not_lt_zero number)]
    rfl
  · exact absurd ((not_waits_of_first rfl).symm.trans waits) Bool.false_ne_true
  · rintro pair ⟨⟩

theorem answered_resp (param status : UInt8) (s : EdBind) (number : Nat) :
    (zbZdoEndDeviceBindResp param status s).answered number =
      s.answered number + if (s.bufs param).number = number then 1 else 0 := by
  simp [EdBind.answered, zbZdoEndDeviceBindResp, List.countP_append, List.countP_singleton]

theorem waiting_eq_false (none_ : s.waits = false) (number : Nat) : s.waiting number = false := by
  rw [EdBind.waiting, none_, Bool.false_and]

theorem waiting_iff (waits : s.waits = true) {number : Nat} :
    s.waiting number = false ↔ (s.bufs s.ctx.dev1.endDeviceBindParam).number ≠ number := by
  rw [EdBind.waiting, waits, Bool.true_and, beq_eq_false_iff_ne]

/-- Where no request waits. -/
theorem bindOk_of_not_waits (none_ : s.waits = false)
    (answered : ∀ number, s.answered number = if number < s.requests then 1 else 0)
    (timers : s.timers = []) (mode : Mode ieeeByShort s s.pending) : BindOk ieeeByShort s := by
  refine ⟨fun number => ?_, fun yes => ?_, ?_, mode⟩
  · simp only [answered, waiting_eq_false none_, and_true]
  · exact absurd (none_.symm.trans yes) Bool.false_ne_true
  · rw [none_, timers, if_neg Bool.false_ne_true]

theorem BindOk.of_not_waits (ok : BindOk ieeeByShort s) (none_ : s.waits = false) :
    s.timers = [] ∧ ∀ number, s.answered number = if number < s.requests then 1 else 0 := by
  refine ⟨?_, fun number => ?_⟩
  · rw [ok.timers, none_, if_neg Bool.false_ne_true]
  · simp only [ok.answered, waiting_eq_false none_, and_true]

/-- A request has come, and is the only one that neither waits nor is answered. -/
structure Received (ieeeByShort : UInt16 → UInt64) (param : UInt8) (s : EdBind) : Prop where
  buffer : param ≠ zbUndefinedBuffer
  number : s.requests = (s.bufs param).number + 1
  answered : ∀ number, s.answered number =
    if number < (s.bufs param).number ∧ s.waiting number = false then 1 else 0
  known : s.waits = true →
    (s.bufs s.ctx.dev1.endDeviceBindParam).number < (s.bufs param).number
  timers : s.timers = if s.waits then [s.ctx.dev1.endDeviceBindParam] else []
  mode : Mode ieeeByShort s s.pending

section Received

variable {param tsn : UInt8} {srcAddr : UInt16} {req : EndDeviceBindReq}

/-- The buffer of the request that waits is not written. -/
theorem bufs_receive (fresh : s.fresh param = true) (waits : s.waits = true) :
    (s.receive param srcAddr tsn req).bufs s.ctx.dev1.endDeviceBindParam =
      s.bufs s.ctx.dev1.endDeviceBindParam := by
  simp only [EdBind.fresh, waits, Bool.true_and, Bool.and_eq_true, Bool.not_eq_true',
    beq_eq_false_iff_ne] at fresh
  exact Function.update_of_ne (Ne.symm fresh.2) _ _

theorem bufs_receive_self :
    (s.receive param srcAddr tsn req).bufs param = ⟨s.requests, srcAddr, tsn, req⟩ :=
  Function.update_self _ _ _

theorem waiting_receive (fresh : s.fresh param = true) (number : Nat) :
    (s.receive param srcAddr tsn req).waiting number = s.waiting number := by
  have same : (s.receive param srcAddr tsn req).waits = s.waits := rfl
  cases waits : s.waits with
  | false => rw [waiting_eq_false waits, waiting_eq_false (same.trans waits)]
  | true =>
      show (s.waits && ((s.receive param srcAddr tsn req).bufs
        s.ctx.dev1.endDeviceBindParam).number == number) = _
      rw [bufs_receive fresh waits, EdBind.waiting]

theorem received_of_fresh (ok : BindOk ieeeByShort s) (fresh : s.fresh param = true) :
    Received ieeeByShort param (s.receive param srcAddr tsn req) := by
  refine ⟨?_, ?_, fun number => ?_, fun waits => ?_, ok.timers, ok.mode⟩
  · simp only [EdBind.fresh, Bool.and_eq_true, bne_iff_ne] at fresh
    exact fresh.1
  · rw [bufs_receive_self]
    rfl
  · rw [waiting_receive fresh, bufs_receive_self]
    exact ok.answered number
  · have waits : s.waits = true := waits
    show ((s.receive param srcAddr tsn req).bufs s.ctx.dev1.endDeviceBindParam).number < _
    rw [bufs_receive fresh waits, bufs_receive_self]
    exact ok.known waits

/-- A request that is refused is answered at once. -/
theorem Received.refuse (received : Received ieeeByShort param s) (status : UInt8) :
    BindOk ieeeByShort (zbZdoEndDeviceBindResp param status s) := by
  have mine : s.waiting (s.bufs param).number = false := by
    cases waits : s.waits with
    | false => exact waiting_eq_false waits _
    | true => exact (waiting_iff waits).2 (Nat.ne_of_lt (received.known waits))
  refine ⟨fun number => ?_, fun waits => ?_, received.timers, received.mode⟩
  · rw [answered_resp, received.answered]
    show _ = if number < s.requests ∧ s.waiting number = false then 1 else 0
    rw [received.number]
    by_cases same : (s.bufs param).number = number
    · subst same
      simp [mine]
    · have order : number < (s.bufs param).number + 1 ↔ number < (s.bufs param).number := by omega
      simp only [if_neg same, order, Nat.add_zero]
  · show _ < s.requests
    rw [received.number]
    exact Nat.lt_succ_of_lt (received.known waits)

/-- The first request waits, and has its alarm. -/
theorem Received.wait (received : Received ieeeByShort param s)
    (none_ : s.ctx.dev1.endDeviceBindParam = zbUndefinedBuffer) :
    BindOk ieeeByShort (s.keepFirst param true) := by
  have before := not_waits_of_first none_
  have mode := received.mode
  have timers := received.timers
  rw [before, if_neg Bool.false_ne_true] at timers
  have pending := mode.idle (.inl none_)
  rw [pending] at mode
  have waits : (s.keepFirst param true).waits = true := waits_iff.2 ⟨received.buffer, mode.1⟩
  refine ⟨fun number => ?_, fun _ => ?_, ?_, ?_⟩
  · have answered : (s.keepFirst param true).answered number = s.answered number := rfl
    have requests : (s.keepFirst param true).requests = s.requests := rfl
    have kept : (s.keepFirst param true).bufs (s.keepFirst param true).ctx.dev1.endDeviceBindParam =
        s.bufs param := rfl
    have order : number < (s.bufs param).number + 1 ∧ (s.bufs param).number ≠ number ↔
        number < (s.bufs param).number := by omega
    simp only [answered, requests, waiting_iff waits, kept, received.answered, received.number,
      waiting_eq_false before, order, and_true]
  · show (s.bufs param).number < s.requests
    rw [received.number]
    exact Nat.lt_succ_self _
  · rw [if_pos waits]
    show s.timers ++ [param] = [param]
    rw [timers, List.nil_append]
  · show Mode ieeeByShort _ s.pending
    rw [pending]
    exact mode

theorem answerCount_two (mine other number : Nat) (less : other < mine) :
    (if number < mine ∧ other ≠ number then 1 else 0) + (if mine = number then 1 else 0) +
      (if other = number then 1 else 0) = if number < mine + 1 then 1 else 0 := by
  split_ifs <;> omega

/-- **The match of two requests** whose lists fit. -/
theorem matchRequests_spec {req1 req2 : EndDeviceBindReq} (ctx : EndDeviceBindCtx)
    (kept : req1.profileId = req2.profileId → pairKept ieeeByShort req1 req2 = true) :
    ∃ ctx' status, matchRequests req1 req2 ctx = some (ctx', status) ∧
      ctx'.dev1.endDeviceBindParam = ctx.dev1.endDeviceBindParam ∧
      ctx'.dev2.endDeviceBindParam = ctx.dev2.endDeviceBindParam ∧
      (status = zbZdpStatusSuccess → Whole ctx' ∧ ∀ param,
        Covers ieeeByShort (ctx'.saveDevices req1 req2 param) ⟨req1, req2⟩) := by
  unfold matchRequests
  split
  · exact ⟨ctx, _, rfl, rfl, rfl, fun success => absurd success (by decide)⟩
  · rename_i profiles
    have kept := kept (Classical.not_not.1 profiles)
    simp only [pairKept, Bool.and_eq_true, Bool.or_eq_true, List.isEmpty_iff] at kept
    obtain ⟨⟨fits1, fits2⟩, devices⟩ := kept
    rw [← checkClusterList_isSome] at fits1 fits2
    obtain ⟨list1, is1⟩ := Option.isSome_iff_exists.1 fits1
    obtain ⟨list2, is2⟩ := Option.isSome_iff_exists.1 fits2
    rw [is1, is2]
    refine ⟨_, _, rfl, rfl, rfl, fun _ => ⟨⟨rfl, rfl⟩, fun param link mem => ?_⟩⟩
    rcases devices with none_ | ⟨known1, known2⟩
    · rw [none_] at mem
      exact absurd mem List.not_mem_nil
    · have known1 : ieeeByShort req1.bindingTarget = req1.srcIeeeAddr := beq_iff_eq.1 known1
      have known2 : ieeeByShort req2.bindingTarget = req2.srcIeeeAddr := beq_iff_eq.1 known2
      rcases List.mem_append.1 mem with mem | mem
      · obtain ⟨c, both, rfl⟩ := List.mem_map.1 mem
        simp only [matched, List.mem_filter, decide_eq_true_eq] at both
        refine .inl (List.mem_map.2 ⟨c, (mem_checkClusterList is1 c).2 both, ?_⟩)
        rw [← known1, ← known2]
        rfl
      · obtain ⟨c, both, rfl⟩ := List.mem_map.1 mem
        simp only [matched, List.mem_filter, decide_eq_true_eq] at both
        refine .inr (List.mem_map.2 ⟨c, (mem_checkClusterList is2 c).2 both.symm, ?_⟩)
        rw [← known1, ← known2]
        rfl

/-- A match answers both requests. -/
theorem answered_endMatch (param status : UInt8) (s : EdBind) (number : Nat) :
    (endMatch param status s).answered number = s.answered number +
      (if (s.bufs param).number = number then 1 else 0) +
      if (s.bufs s.ctx.dev1.endDeviceBindParam).number = number then 1 else 0 := by
  unfold endMatch
  dsimp only
  split
  · rw [answered_resp, answered_resp]
    rfl
  · show (zbZdoEndDeviceBindResp _ status (zbZdoEndDeviceBindResp param status s)).answered number = _
    rw [answered_resp, answered_resp]
    rfl

theorem requests_endMatch (param status : UInt8) (s : EdBind) :
    (endMatch param status s).requests = s.requests := by
  unfold endMatch
  dsimp only
  split <;> rfl

/-- Behind a match no request waits. -/
theorem waits_endMatch {status : UInt8} (buffer : param ≠ zbUndefinedBuffer) (s : EdBind) :
    (endMatch param status s).waits = false := by
  unfold endMatch
  dsimp only
  split
  · exact not_waits_of_second buffer
  · exact not_waits_of_first rfl

theorem timers_endMatch {param status : UInt8} {s : EdBind} (none_ : s.timers = []) :
    (endMatch param status s).timers = [] := by
  unfold endMatch
  dsimp only
  split
  · exact none_
  · exact none_

/-- **The end of a match**: the walk begins, or the fields are free. -/
theorem Received.match_ok (received : Received ieeeByShort param s) (waits : s.waits = true)
    {ctx : EndDeviceBindCtx} {status : UInt8}
    (param1 : ctx.dev1.endDeviceBindParam = s.ctx.dev1.endDeviceBindParam)
    (walks : status = zbZdpStatusSuccess → Whole ctx ∧
      Covers ieeeByShort
        (ctx.saveDevices (s.bufs s.ctx.dev1.endDeviceBindParam).req (s.bufs param).req param)
        ⟨(s.bufs s.ctx.dev1.endDeviceBindParam).req, (s.bufs param).req⟩) :
    BindOk ieeeByShort (endMatch param status { s with ctx, timers := [] }) := by
  obtain ⟨some_, none_⟩ := waits_iff.1 waits
  have mode := received.mode
  refine bindOk_of_not_waits (waits_endMatch received.buffer _) (fun number => ?_)
    (timers_endMatch rfl) ?_
  · have before : EdBind.answered { s with ctx, timers := [] } number = s.answered number := rfl
    rw [answered_endMatch, before, received.answered, param1, requests_endMatch]
    simp only [waiting_iff waits, received.number]
    exact answerCount_two _ _ number (received.known waits)
  · have pending := mode.idle (.inr none_)
    rw [pending] at mode
    unfold endMatch
    dsimp only
    split
    · rename_i success
      obtain ⟨whole, covers⟩ := walks success
      show Mode ieeeByShort _ (s.pending ++ [.sendCheck])
      rw [pending]
      refine ⟨?_, received.buffer, fun pair is => ?_, whole⟩
      · show ctx.dev1.endDeviceBindParam ≠ _
        rw [param1]
        exact some_
      · obtain rfl := Option.some.inj is
        rw [← param1] at covers
        exact covers
    · show Mode ieeeByShort _ s.pending
      rw [pending]
      exact ⟨rfl, mode.2⟩

/-- **The handler** of a request that keeps the condition. -/
theorem Received.handler_ok (received : Received ieeeByShort param s) {room : Bool}
    (alarm : validEndpoint (s.bufs param).req = true →
      s.ctx.dev1.endDeviceBindParam = zbUndefinedBuffer → room = true)
    (kept : validEndpoint (s.bufs param).req = true → s.waits = true →
      (s.bufs s.ctx.dev1.endDeviceBindParam).req.profileId = (s.bufs param).req.profileId →
      pairKept ieeeByShort (s.bufs s.ctx.dev1.endDeviceBindParam).req (s.bufs param).req = true) :
    ∃ t, zbZdoEndDeviceBindHandler param room s = some t ∧ BindOk ieeeByShort t := by
  unfold zbZdoEndDeviceBindHandler
  dsimp only
  split
  · exact ⟨_, rfl, received.refuse _⟩
  · rename_i valid
    have valid := Classical.not_not.1 valid
    split
    · rename_i none_
      rw [alarm valid none_]
      exact ⟨_, rfl, received.wait none_⟩
    · rename_i some_
      split
      · exact ⟨_, rfl, received.refuse _⟩
      · rename_i second
        have waits := waits_iff.2 ⟨some_, Classical.not_not.1 second⟩
        obtain ⟨ctx, status, is, param1, -, walks⟩ := matchRequests_spec s.ctx (kept valid waits)
        rw [is]
        exact ⟨_, rfl, received.match_ok waits param1 fun success =>
          ⟨(walks success).1, (walks success).2 param⟩⟩

end Received

theorem getElem?_one {α : Type} {a b : α} {i : Nat} (is : [a][i]? = some b) : i = 0 ∧ a = b := by
  rw [List.getElem?_singleton] at is
  split at is
  · exact ⟨‹_›, Option.some.inj is⟩
  · cases is

/-- There is one operation pending at most. -/
theorem BindOk.only (ok : BindOk ieeeByShort s) {i : Nat} {task : BindTask}
    (is : s.pending[i]? = some task) : i = 0 ∧ s.pending = [task] := by
  have mode := ok.mode
  cases pending : s.pending with
  | nil =>
      rw [pending] at is
      exact absurd is (by simp)
  | cons first rest =>
      rw [pending] at mode is
      cases rest with
      | nil =>
          obtain ⟨rfl, rfl⟩ := getElem?_one is
          exact ⟨rfl, rfl⟩
      | cons _ _ => exact mode.elim

theorem BindOk.mode_of_pending (ok : BindOk ieeeByShort s) {task : BindTask}
    (pending : s.pending = [task]) : Mode ieeeByShort s [task] := by
  rw [← pending]
  exact ok.mode

/-- What goes on with the walk keeps the invariant. -/
theorem BindOk.next (ok : BindOk ieeeByShort s) {task : BindTask} (pending : s.pending = [task])
    {links : BindLink → Bool} {existed : Bool} {next : EndDeviceBindCtx × Option BindTask}
    (walk : WalkNext ieeeByShort links existed s.ctx next) :
    BindOk ieeeByShort { s with
      ctx := next.1
      pending := next.2.toList
      links
      existed } := by
  obtain ⟨some1, some2, covers, -⟩ := ok.mode_of_pending pending
  obtain ⟨timers, answered⟩ := ok.of_not_waits (not_waits_of_second some2)
  obtain ⟨ctx, task'⟩ := next
  have after : EdBind.waits { s with ctx, pending := task'.toList, links, existed } = false := by
    cases task' with
    | none => exact not_waits_of_first walk.1
    | some task' =>
        obtain ⟨-, -, same, -⟩ := walk
        exact not_waits_of_second (same ▸ some2)
  refine bindOk_of_not_waits after answered timers ?_
  cases task' with
  | none =>
      obtain ⟨-, none2, done⟩ := walk
      exact ⟨none2, fun pair is link mem => done link (covers pair is link mem)⟩
  | some task' =>
      obtain ⟨phase, same1, same2, entries1, entries2⟩ := walk
      refine ⟨same1 ▸ some1, same2 ▸ some2, fun pair is link mem => ?_, phase⟩
      show link ∈ entries ieeeByShort ctx 0 ∨ link ∈ entries ieeeByShort ctx 1
      rw [entries1, entries2]
      exact covers pair is link mem

theorem answerCount_one (requests other number : Nat) (less : other < requests) :
    (if number < requests ∧ other ≠ number then 1 else 0) + (if other = number then 1 else 0) =
      if number < requests then 1 else 0 := by
  split_ifs <;> omega

/-- **The timeout** answers the request that waits. -/
theorem BindOk.timeout (ok : BindOk ieeeByShort s) {i : Nat} {param : UInt8}
    (is : s.timers[i]? = some param) :
    BindOk ieeeByShort (zbZdoEndDeviceBindTimer param { s with timers := s.timers.eraseIdx i }) := by
  have timers := ok.timers
  cases waits : s.waits with
  | false =>
      rw [waits, if_neg Bool.false_ne_true] at timers
      rw [timers] at is
      exact absurd is (by simp)
  | true =>
      rw [waits, if_pos rfl] at timers
      rw [timers] at is
      obtain ⟨rfl, rfl⟩ := getElem?_one is
      obtain ⟨some1, none2⟩ := waits_iff.1 waits
      refine bindOk_of_not_waits (not_waits_of_first rfl) (fun number => ?_) ?_ ?_
      · have before : EdBind.answered { s with
            ctx := s.ctx.release
            timers := s.timers.eraseIdx 0 } number = s.answered number := rfl
        rw [zbZdoEndDeviceBindTimer, answered_resp, before, ok.answered]
        simp only [waiting_iff waits]
        exact answerCount_one _ _ number (ok.known waits)
      · show s.timers.eraseIdx 0 = []
        rw [timers]
        rfl
      · have mode := ok.mode
        show Mode ieeeByShort _ s.pending
        have pending := mode.idle (.inr none2)
        rw [pending] at mode ⊢
        exact ⟨rfl, mode.2⟩

/-- **A request** that keeps the condition is handled. -/
theorem BindOk.request (ok : BindOk ieeeByShort s) {param : UInt8} {srcAddr : UInt16} {tsn : UInt8}
    {req : EndDeviceBindReq} {room : Bool} (fresh : s.fresh param = true)
    (kept : s.kept ieeeByShort (.request param srcAddr tsn req room) = true) :
    ∃ t, bindStep ieeeByShort s (.request param srcAddr tsn req room) = some t ∧
      BindOk ieeeByShort t := by
  have received : Received ieeeByShort param (s.receive param srcAddr tsn req) :=
    received_of_fresh ok fresh
  rw [bindStep, if_pos fresh]
  refine received.handler_ok (fun valid none_ => ?_) (fun valid waits profiles => ?_)
  · rw [bufs_receive_self] at valid
    simpa [EdBind.kept, valid, show s.ctx.dev1.endDeviceBindParam = _ from none_] using kept
  · have waits : s.waits = true := waits
    obtain ⟨some1, none2⟩ := waits_iff.1 waits
    have first : (s.receive param srcAddr tsn req).bufs s.ctx.dev1.endDeviceBindParam = _ :=
      bufs_receive fresh waits
    rw [bufs_receive_self] at valid profiles ⊢
    rw [show (s.receive param srcAddr tsn req).ctx = s.ctx from rfl, first] at profiles ⊢
    simpa [EdBind.kept, valid, some1, none2, profiles] using kept

/-- **A step** that keeps the condition keeps the invariant. -/
theorem bindStep_ok {call : BindCall} (ok : BindOk ieeeByShort s)
    (kept : s.kept ieeeByShort call = true) (taken : bindStep ieeeByShort s call = some t) :
    BindOk ieeeByShort t := by
  cases call with
  | request param srcAddr tsn req room =>
      by_cases fresh : s.fresh param = true
      · obtain ⟨t', is, ok'⟩ := ok.request fresh kept
        obtain rfl := Option.some.inj (taken.symm.trans is)
        exact ok'
      · rw [bindStep, if_neg fresh] at taken
        cases taken
  | timeout i =>
      obtain ⟨param, is, rfl⟩ := Option.map_eq_some_iff.1 taken
      exact ok.timeout is
  | run i =>
      simp only [bindStep] at taken
      split at taken
      · rename_i is
        obtain ⟨rfl, pending⟩ := ok.only is
        cases taken
        have walk : WalkNext ieeeByShort s.links s.existed s.ctx _ :=
          sendCheck_next (ok.mode_of_pending pending).2.2.2
        have next := ok.next pending walk
        rw [pending]
        exact next
      · rename_i cb is
        obtain ⟨rfl, pending⟩ := ok.only is
        cases taken
        have next := ok.next pending
          (callback_next (ok.mode_of_pending pending).2.2.2 zbZdpStatusSuccess)
        rw [pending]
        exact next
      · cases taken
  | respond i status performed =>
      simp only [bindStep] at taken
      split at taken
      · rename_i cb bind link is
        obtain ⟨rfl, pending⟩ := ok.only is
        cases taken
        have next := ok.next pending (respond_next status performed
          (ok.mode_of_pending pending).2.2.2 (fun check => ?_) fun walk => ?_)
        · rw [pending]
          exact next
        · subst check
          simpa [EdBind.kept, is] using kept
        · simpa only [EdBind.kept, is] using kept
      · cases taken
  | lost i performed => exact absurd kept Bool.false_ne_true

/-- The walk comes to its end. -/
theorem bindStep_good {call : BindCall} (ok : BindOk ieeeByShort s)
    (kept : s.kept ieeeByShort call = true) : StepGood ieeeByShort s call := by
  refine ⟨?_, fun t goesOn taken => ?_⟩
  · rintro param srcAddr tsn req room rfl fresh
    obtain ⟨t, is, -⟩ := ok.request fresh kept
    rw [is, Option.isSome_some]
  · cases call with
    | request param srcAddr tsn req room => cases goesOn
    | timeout i => cases goesOn
    | lost i performed => cases goesOn
    | run i =>
        simp only [bindStep] at taken
        split at taken
        · rename_i is
          obtain ⟨rfl, pending⟩ := ok.only is
          cases taken
          simp only [EdBind.remaining, pending]
          simpa using sendCheck_ahead
        · rename_i cb is
          obtain ⟨rfl, pending⟩ := ok.only is
          cases taken
          have phase := (ok.mode_of_pending pending).2.2.2
          simp only [EdBind.remaining, pending]
          simpa [taskAhead] using runBindCb_ahead (phase.device (by simp))
        · cases taken
    | respond i status performed =>
        simp only [bindStep] at taken
        split at taken
        · rename_i cb bind link is
          obtain ⟨rfl, pending⟩ := ok.only is
          cases taken
          have phase := (ok.mode_of_pending pending).2.2.2
          simp only [EdBind.remaining, pending]
          simpa [taskAhead] using runBindCb_ahead (phase.device (by simp))
        · cases taken

end Steps

/-! ## Runs -/

/-- **The condition is enough**: along a run whose steps keep it, no write goes behind the end of a
list, the walk comes nearer to its end, and every state reached is good. -/
theorem good_of_kept (ieeeByShort : UInt16 → UInt64) (links : BindLink → Bool) (calls : List BindCall)
    (kept : Along (bindStep ieeeByShort) (fun s call => s.kept ieeeByShort call = true)
      (EdBind.start links) calls) :
    Along (bindStep ieeeByShort) (StepGood ieeeByShort) (EdBind.start links) calls ∧
      ∀ s, run (bindStep ieeeByShort) (EdBind.start links) calls = some s → Good s :=
  ⟨along_of_invariant (fun _ _ _ ok meets taken => bindStep_ok ok meets taken)
      (fun _ _ ok meets => bindStep_good ok meets) (start_ok links) kept,
    fun _ ran => (run_invariant (fun _ _ _ ok meets taken => bindStep_ok ok meets taken)
      (start_ok links) kept ran).good⟩

/-- A lamp and its switch, and two clusters both ways. -/
def lamp : EndDeviceBindReq := ⟨1, 11, 1, 260, [6, 8], [0x500]⟩

def lampSwitch : EndDeviceBindReq := ⟨2, 12, 3, 260, [0x500], [6, 8]⟩

def shortToIeee (addr : UInt16) : UInt64 := addr.toUInt64 + 10

/-- The lamp asks, then the switch; the three links are made. -/
def lampRun : List BindCall :=
  [.request 1 1 40 lamp true, .request 2 2 41 lampSwitch true, .run 0,
    .respond 0 zbZdpStatusNoEntry false, .respond 0 zbZdpStatusSuccess true, .run 0,
    .respond 0 zbZdpStatusSuccess true, .respond 0 zbZdpStatusSuccess true]

theorem good_lampRun : ∃ s, run (bindStep shortToIeee) (EdBind.start fun _ => false) lampRun = some s ∧
    s.pending = [] ∧ s.pair = some ⟨lamp, lampSwitch⟩ ∧ s.existed = false ∧ Good s := by
  have runs : ((run (bindStep shortToIeee) (EdBind.start fun _ => false) lampRun).any fun s =>
      decide (s.pending = [] ∧ s.pair = some ⟨lamp, lampSwitch⟩ ∧ s.existed = false)) = true := by
    decide +kernel
  obtain ⟨s, ran, is⟩ := (Option.any_eq_true _ _).1 runs
  obtain ⟨none_, pair, existed⟩ := of_decide_eq_true is
  exact ⟨s, ran, none_, pair, existed,
    (good_of_kept shortToIeee (fun _ => false) lampRun (by decide +kernel)).2 s ran⟩

/-! ## What goes wrong -/

/-- Sixteen clusters of a lamp that is a switch as well. -/
def manyClusters : List UInt16 :=
  [1, 2, 3, 4, 5, 6, 7, 8, 9, 10, 11, 12, 13, 14, 15, 16]

/-- **Two requests with sixteen clusters in common write behind the end of `cluster_list`; and one
response that is lost leaves both fields set with nothing pending.** -/
theorem lost_leaves_fields :
    (∃ s, run (bindStep shortToIeee) (EdBind.start fun _ => false)
        [.request 1 1 40 { lamp with inClusters := manyClusters } true] = some s ∧
      s.fresh 2 = true ∧
      bindStep shortToIeee s
        (.request 2 2 41 { lampSwitch with outClusters := manyClusters } true) = none) ∧
    ∃ s, run (bindStep shortToIeee) (EdBind.start fun _ => false)
        [.request 1 1 40 lamp true, .request 2 2 41 lampSwitch true, .run 0, .lost 0 false] = some s ∧
      s.pending = [] ∧ s.timers = [] ∧ s.ctx.dev1.endDeviceBindParam ≠ zbUndefinedBuffer ∧
      s.ctx.dev2.endDeviceBindParam ≠ zbUndefinedBuffer := by
  constructor
  · have runs : ((run (bindStep shortToIeee) (EdBind.start fun _ => false)
        [.request 1 1 40 { lamp with inClusters := manyClusters } true]).any fun s =>
        s.fresh 2 && (bindStep shortToIeee s
          (.request 2 2 41 { lampSwitch with outClusters := manyClusters } true)).isNone) = true := by
      decide +kernel
    obtain ⟨s, ran, is⟩ := (Option.any_eq_true _ _).1 runs
    obtain ⟨fresh, none_⟩ := Bool.and_eq_true_iff.1 is
    exact ⟨s, ran, fresh, Option.isNone_iff_eq_none.1 none_⟩
  · have runs : ((run (bindStep shortToIeee) (EdBind.start fun _ => false)
        [.request 1 1 40 lamp true, .request 2 2 41 lampSwitch true, .run 0, .lost 0 false]).any fun s =>
        decide (s.pending = [] ∧ s.timers = [] ∧ s.ctx.dev1.endDeviceBindParam ≠ zbUndefinedBuffer ∧
          s.ctx.dev2.endDeviceBindParam ≠ zbUndefinedBuffer)) = true := by
      decide +kernel
    obtain ⟨s, ran, is⟩ := (Option.any_eq_true _ _).1 runs
    exact ⟨s, ran, of_decide_eq_true is⟩

end Zboss.Zdo.EndDeviceBind
