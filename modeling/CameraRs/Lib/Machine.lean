/-
Labelled machines with a partial step function.

A run lists the actions that were taken, in order. An admission predicate says
which action may be taken in which state, so that one machine serves both for
every interleaving and for the interleavings that avoid a named overlap. The
rules carry a fact from the first state of a run to its last, one step at a
time. Nothing here mentions a program.
-/

import Mathlib.Data.Option.Basic
import Mathlib.Data.List.Basic

namespace CameraRs.Lib

universe u v

/-- States, the actions tried in them, and what an enabled action leads to. -/
structure Machine (State : Type u) (Action : Type v) where
  initial : State → Prop
  step : State → Action → Option State

namespace Machine

variable {State : Type u} {Action : Type v} (machine : Machine State Action)

/-- Take every action of the list in turn; `none` if one of them is disabled or
not allowed. -/
def exec (allows : State → Action → Bool) : State → List Action → Option State
  | state, [] => some state
  | state, action :: rest =>
      if allows state action then
        match machine.step state action with
        | none => none
        | some next => exec allows next rest
      else none

/-- Runs whose every action is admitted in the state it is taken in. The last
action is peeled first, so that facts about the history grow with the run. -/
inductive Run (admits : State → Action → Prop) (start : State) :
    List Action → State → Prop
  | nil : Run admits start [] start
  | snoc {middle finish : State} {actions : List Action} {action : Action}
      (before : Run admits start actions middle)
      (admitted : admits middle action)
      (taken : machine.step middle action = some finish) :
      Run admits start (actions ++ [action]) finish

/-- Every action is admitted: all interleavings. -/
def anything : State → Action → Prop := fun _ _ => True

/-- States at the end of an admitted run from an initial state. -/
def Reachable (admits : State → Action → Prop) (state : State) : Prop :=
  ∃ start actions, machine.initial start ∧ machine.Run admits start actions state

variable {machine}

namespace Run

variable {admits : State → Action → Prop} {start middle finish : State}
  {actions later : List Action}

theorem preserves {P : State → Prop}
    (step : ∀ state action next, admits state action →
      machine.step state action = some next → P state → P next)
    (run : machine.Run admits start actions finish) (holds : P start) : P finish := by
  induction run with
  | nil => exact holds
  | snoc before admitted taken ih => exact step _ _ _ admitted taken ih

theorem trans (first : machine.Run admits start actions middle)
    (second : machine.Run admits middle later finish) :
    machine.Run admits start (actions ++ later) finish := by
  induction second with
  | nil => simpa using first
  | snoc before admitted taken ih =>
      rw [← List.append_assoc]
      exact .snoc ih admitted taken

theorem mono {weaker : State → Action → Prop}
    (implies : ∀ state action, admits state action → weaker state action)
    (run : machine.Run admits start actions finish) :
    machine.Run weaker start actions finish := by
  induction run with
  | nil => exact .nil
  | snoc before admitted taken ih => exact .snoc ih (implies _ _ admitted) taken

theorem single {action : Action} (admitted : admits start action)
    (taken : machine.step start action = some finish) :
    machine.Run admits start [action] finish :=
  .snoc .nil admitted taken

end Run

private theorem run_of_exec {allows : State → Action → Bool} {start finish : State}
    {actions : List Action} (executed : machine.exec allows start actions = some finish) :
    machine.Run (fun state action => allows state action = true) start actions finish := by
  induction actions generalizing start with
  | nil =>
      cases Option.some.inj executed
      exact .nil
  | cons action rest ih =>
      simp only [exec] at executed
      split at executed
      · next allowed =>
          cases taken : machine.step start action with
          | none => simp [taken] at executed
          | some next =>
              rw [taken] at executed
              have first : machine.Run (fun state action => allows state action = true)
                  start [action] next := .single allowed taken
              exact first.trans (ih executed)
      · contradiction

theorem run_of_passed {allows : State → Action → Bool} {start : State} {actions : List Action}
    {test : State → Bool} (passed : (machine.exec allows start actions).any test = true) :
    ∃ finish, machine.Run (fun state action => allows state action = true) start actions finish ∧
      test finish = true := by
  cases executed : machine.exec allows start actions with
  | none => simp [executed] at passed
  | some finish =>
      rw [executed] at passed
      exact ⟨finish, run_of_exec executed, passed⟩

namespace Reachable

variable {admits : State → Action → Prop} {state : State}

theorem of_initial (start : machine.initial state) : machine.Reachable admits state :=
  ⟨state, [], start, .nil⟩

theorem of_exec {allows : State → Action → Bool} {start : State} {actions : List Action}
    {test : State → Bool} (initial : machine.initial start)
    (passed : (machine.exec allows start actions).any test = true) :
    ∃ state, machine.Reachable (fun state action => allows state action = true) state ∧
      test state = true := by
  obtain ⟨finish, run, holds⟩ := run_of_passed passed
  exact ⟨finish, ⟨start, actions, initial, run⟩, holds⟩

theorem mono {weaker : State → Action → Prop}
    (implies : ∀ state action, admits state action → weaker state action)
    (reached : machine.Reachable admits state) : machine.Reachable weaker state := by
  obtain ⟨start, actions, initial, run⟩ := reached
  exact ⟨start, actions, initial, run.mono implies⟩

theorem extend {actions : List Action} {next : State}
    (reached : machine.Reachable admits state)
    (run : machine.Run admits state actions next) : machine.Reachable admits next := by
  obtain ⟨start, earlier, initial, before⟩ := reached
  exact ⟨start, earlier ++ actions, initial, before.trans run⟩

theorem invariant {P : State → Prop}
    (initially : ∀ state, machine.initial state → P state)
    (step : ∀ state action next, admits state action →
      machine.step state action = some next → P state → P next)
    (reached : machine.Reachable admits state) : P state := by
  obtain ⟨start, _, initial, run⟩ := reached
  exact run.preserves step (initially start initial)

theorem invariant_under {P Q : State → Prop}
    (known : ∀ state, machine.Reachable admits state → P state)
    (initially : ∀ state, machine.initial state → Q state)
    (step : ∀ state action next, admits state action → P state → P next →
      machine.step state action = some next → Q state → Q next)
    (reached : machine.Reachable admits state) : Q state := by
  obtain ⟨start, actions, initial, run⟩ := reached
  induction run with
  | nil => exact initially _ initial
  | @snoc middle finish actions action before admitted taken ih =>
      have here : machine.Reachable admits middle := ⟨start, actions, initial, before⟩
      have there := here.extend (Run.single admitted taken)
      exact step _ _ _ admitted (known _ here) (known _ there) taken ih

end Reachable

/-! ### Histories -/

section History

universe w

variable {Event : Type w} {observe : State → Action → State → List Event}

/-- The machine with a history of what its steps were observed to do. -/
def logged (machine : Machine State Action) (observe : State → Action → State → List Event) :
    Machine (State × List Event) Action where
  initial start := machine.initial start.1 ∧ start.2 = []
  step before action :=
    (machine.step before.1 action).map fun next =>
      (next, before.2 ++ observe before.1 action next)

theorem logged_step {before after : State × List Event} {action : Action}
    (taken : (machine.logged observe).step before action = some after) :
    machine.step before.1 action = some after.1 ∧
      after.2 = before.2 ++ observe before.1 action after.1 := by
  obtain ⟨next, step, rfl⟩ := Option.map_eq_some_iff.mp taken
  exact ⟨step, rfl⟩

theorem Run.logged {admits : State → Action → Prop} {start finish : State}
    {actions : List Action} (run : machine.Run admits start actions finish)
    (earlier : List Event) : ∃ log, (machine.logged observe).Run (fun state => admits state.1)
      (start, earlier) actions (finish, log) := by
  induction run with
  | nil => exact ⟨earlier, .nil⟩
  | @snoc middle finish actions action before admitted taken ih =>
      obtain ⟨log, run⟩ := ih
      refine ⟨log ++ observe middle action finish, .snoc run admitted ?_⟩
      exact Option.map_eq_some_iff.mpr ⟨finish, taken, rfl⟩

end History

end Machine

end CameraRs.Lib
