/-
The recovery flags.

`start` reads the two flags and later replaces the whole snapshot. The setters do not
take the pool lock, so one that comes in between is lost. If none does, the flags are
what the setters make of them one after another.
-/

import CameraRs.Frame.Access

namespace CameraRs.Frame

def Snapshot.flags (state : Snapshot) : Bool × Bool :=
  (state.recovering, state.reconnectEnabled)

def FlagCall.set : Bool × Bool → FlagCall → Bool × Bool
  | (_, reconnectEnabled), .beginRecovery => (true, reconnectEnabled)
  | (_, reconnectEnabled), .endRecovery => (false, reconnectEnabled)
  | (recovering, _), .enableRecovery => (recovering, true)
  | _, .disableRecovery => (false, false)

private theorem FlagCall.flags_apply (state : Snapshot) (call : FlagCall) :
    (call.apply state).flags = call.set state.flags := by
  cases call <;> rfl

/-- The setters among the actions of a run; `start` sets no flag. -/
def Action.setter : Action → Option FlagCall
  | .flag change => some change
  | _ => none

def Pc.replacing : Pc → Option (Bool × Bool)
  | .startReplace _ recovering reconnectEnabled => some (recovering, reconnectEnabled)
  | _ => none

/-- No setter changes a flag while a `start` is about to write back what it has read. -/
def flagsApart (s : FrameHub) : Action → Bool
  | .flag call =>
      (call.apply s.state).flags == s.state.flags || s.ops.all fun pc => pc.replacing.isNone
  | _ => true

variable {s t : FrameHub} {i : OpId} {pc after : Pc} {a : Action}

/-- What a `start` will write back is what the flags are. -/
def FrameHub.Mirrored (s : FrameHub) : Prop :=
  ∀ pc ∈ s.ops, ∀ flags, pc.replacing = some flags → flags = s.state.flags

theorem Access.flags (access : Access s pc t after) :
    t.state.flags = s.state.flags ∨ pc.replacing = some t.state.flags := by
  cases access with
  | reserved raced unlocked current =>
      left
      unfold FrameHub.reserve
      split <;> rfl
  | startReplace => exact .inr rfl
  | _ => exact .inl rfl

theorem Access.replacing {flags : Bool × Bool} (access : Access s pc t after)
    (next : after.replacing = some flags) : flags = t.state.flags := by
  cases access with
  | @lookRefused job stale =>
      obtain ⟨answer, same⟩ := exhausted_answers job
      rw [same] at next
      contradiction
  | @poolRefused job length stale =>
      obtain ⟨answer, same⟩ := exhausted_answers job
      rw [same] at next
      contradiction
  | @reserved job length raced unlocked current =>
      unfold FrameHub.reserve at next
      split at next
      · contradiction
      · obtain ⟨answer, same⟩ := exhausted_answers job
        rw [same] at next
        contradiction
  | @recordRefused session activity failed => cases failed <;> contradiction
  | @woken failed => cases failed <;> contradiction
  | @charged session activity failed after unlocked goes =>
      rcases goes with rfl | rfl
      · contradiction
      · cases failed <;> contradiction
  | budgetRead goes => rcases goes with rfl | ⟨error, rfl⟩ <;> contradiction
  | startRead => exact (Option.some.inj next).symm
  | _ => contradiction

namespace FrameHub

theorem Mirrored.access (mirrored : s.Mirrored) (at_pc : s.ops[i]? = some pc)
    (access : Access s pc t after) :
    Mirrored { t with ops := s.ops.set i after } ∧ t.state.flags = s.state.flags := by
  have same : t.state.flags = s.state.flags := by
    rcases access.flags with same | replaced
    · exact same
    · exact mirrored pc (List.mem_of_getElem? at_pc) _ replaced
  refine ⟨fun other member flags read => ?_, same⟩
  rcases List.mem_or_eq_of_mem_set member with old | rfl
  · exact (mirrored other old flags read).trans same.symm
  · exact access.replacing read

theorem Mirrored.called (mirrored : s.Mirrored) (entry : pc.Entry) :
    Mirrored { s with ops := s.ops ++ [pc] } := by
  intro other member flags read
  rcases List.mem_append.mp member with old | new
  · exact mirrored other old flags read
  · rw [← List.mem_singleton.mp new] at entry
    cases entry <;> contradiction

theorem Mirrored.consumed (mirrored : s.Mirrored) (consumed : Consumed s t) :
    t.Mirrored ∧ t.state.flags = s.state.flags := by
  rw [consumed.keeps]
  exact ⟨mirrored, rfl⟩

theorem Mirrored.step (mirrored : s.Mirrored) (taken : s.step a = some t)
    (apart : flagsApart s a = true) :
    t.Mirrored ∧ t.state.flags = a.setter.toList.foldl FlagCall.set s.state.flags := by
  cases a with
  | flag call =>
      cases taken
      refine ⟨fun pc member flags read => ?_, FlagCall.flags_apply s.state call⟩
      rcases Bool.or_eq_true_iff.mp apart with kept | idle
      · exact (mirrored pc member flags read).trans (beq_iff_eq.mp kept).symm
      · have none := List.all_eq_true.mp idle pc member
        rw [read] at none
        contradiction
  | run i env =>
      obtain ⟨pc, u, after, at_pc, access, rfl⟩ := step_run taken
      exact mirrored.access at_pc access
  | call call =>
      cases taken
      exact ⟨mirrored.called (Call.entry_entry s.clock call), rfl⟩
  | raise flag =>
      cases taken
      exact ⟨mirrored, rfl⟩
  | otherHub =>
      cases taken
      exact ⟨mirrored, rfl⟩
  | tick ns =>
      cases taken
      exact ⟨mirrored, rfl⟩
  | _ =>
      simp only [FrameHub.step] at taken
      exact mirrored.consumed (consumerStep_consumed taken)

theorem mirrored_reachable (reached : machine.Reachable (fun s a => flagsApart s a = true) s) :
    s.Mirrored := by
  refine reached.invariant ?_ fun _ _ _ apart taken mirrored => (mirrored.step taken apart).1
  rintro s ⟨capacity, drawn, rfl⟩ pc member
  contradiction

theorem Mirrored.run {actions : List Action} (mirrored : s.Mirrored)
    (run : machine.Run (fun s a => flagsApart s a = true) s actions t) :
    t.Mirrored ∧
      t.state.flags = (actions.filterMap Action.setter).foldl FlagCall.set s.state.flags := by
  induction run with
  | nil => exact ⟨mirrored, rfl⟩
  | @snoc middle finish actions action before apart taken ih =>
      obtain ⟨kept, flags⟩ := ih.1.step taken apart
      refine ⟨kept, ?_⟩
      rw [flags, ih.2, List.filterMap_append, List.foldl_append]
      cases setter : action.setter <;> simp [setter]

end FrameHub

def FlagCall.disables : FlagCall → Bool
  | .endRecovery | .disableRecovery => true
  | .beginRecovery | .enableRecovery => false

theorem foldl_disabled {calls : List FlagCall} (disabling : ∀ call ∈ calls, call.disables = true) :
    calls.foldl FlagCall.set (false, false) = (false, false) := by
  induction calls with
  | nil => rfl
  | cons call rest ih =>
      obtain ⟨here, later⟩ := List.forall_mem_cons.mp disabling
      have same : call.set (false, false) = (false, false) := by cases call <;> trivial
      rw [List.foldl_cons, same]
      exact ih later

/-- In every run in which no setter changes a flag between the read and the write of a
`start`: the flags are those of the setters in their order, and a `disable_recovery`
after which recovery is not begun or enabled again holds. -/
theorem flags_sequential {actions : List Action}
    (reached : machine.Reachable (fun s a => flagsApart s a = true) s)
    (run : machine.Run (fun s a => flagsApart s a = true) s actions t) :
    t.state.flags = (actions.filterMap Action.setter).foldl FlagCall.set s.state.flags ∧
    ∀ before later, actions = before ++ .flag .disableRecovery :: later →
      (∀ call ∈ later.filterMap Action.setter, call.disables = true) →
      t.state.flags = (false, false) := by
  have flags := ((FrameHub.mirrored_reachable reached).run run).2
  refine ⟨flags, ?_⟩
  rintro before later rfl disabling
  rw [flags, List.filterMap_append, List.foldl_append]
  exact foldl_disabled disabling

theorem flags_sequential_disabled :
    ∃ s t, (machine.Reachable (fun s a => flagsApart s a = true) s ∧
        machine.Run (fun s a => flagsApart s a = true) s [.flag .disableRecovery] t ∧
        s.state.flags = (false, true)) ∧
      t.state.flags = (false, false) := by
  have passed : ((machine.exec flagsApart (FrameHub.new 2)
      ([Action.flag .enableRecovery, .call .start] ++
      List.replicate 4 (Action.run 0 {}))).any fun s => decide (s.state.flags = (false, true)) &&
        (machine.exec flagsApart s [.flag .disableRecovery]).any fun _ => true) = true := by
    decide +kernel
  obtain ⟨s, reached, passed⟩ := Lib.Machine.Reachable.of_exec (machine_new 2) passed
  obtain ⟨enabled, passed⟩ := Bool.and_eq_true_iff.mp passed
  obtain ⟨t, run, _⟩ := Lib.Machine.run_of_passed passed
  exact ⟨s, t, ⟨reached, run, of_decide_eq_true enabled⟩, (flags_sequential reached run).1⟩

/-! ### What goes wrong otherwise -/

def Pc.done : Pc → Bool
  | .returned _ => true
  | _ => false

def enabled : List Action := [.flag .enableRecovery]

/-- `start` reads the flags, `disable_recovery` clears them, `start` writes them back. -/
def undone : List Action :=
  [.call .start, .run 0 {}, .run 0 {}, .run 0 {}, .flag .disableRecovery, .run 0 {}]

private theorem undone_enables :
    ((machine.exec (fun _ _ => true) (FrameHub.new 2) enabled).any fun s =>
      s.ops.all Pc.done && s.state.flags == (false, true) &&
      (machine.exec (fun _ _ => true) s undone).any fun t =>
        t.ops.all Pc.done && t.state.flags == (false, true)) = true := by
  decide +kernel

/-- No order of the setters explains the flags that are left. -/
theorem not_always_sequential :
    ¬ ∀ s t actions, machine.Reachable Lib.Machine.anything s → s.ops.all Pc.done = true →
      machine.Run Lib.Machine.anything s actions t → t.ops.all Pc.done = true →
      ∃ order : List FlagCall, order.Perm (actions.filterMap Action.setter) ∧
        t.state.flags = order.foldl FlagCall.set s.state.flags := by
  intro always
  obtain ⟨s, reached, passed⟩ := Lib.Machine.Reachable.of_exec (machine_new 2) undone_enables
  obtain ⟨before, passed⟩ := Bool.and_eq_true_iff.mp passed
  obtain ⟨idle, enabled⟩ := Bool.and_eq_true_iff.mp before
  obtain ⟨t, run, passed⟩ := Lib.Machine.run_of_passed passed
  obtain ⟨done, left⟩ := Bool.and_eq_true_iff.mp passed
  obtain ⟨order, perm, flags⟩ := always s t undone (reached.mono fun _ _ _ => trivial) idle
    (run.mono fun _ _ _ => trivial) done
  have single : order = [.disableRecovery] := List.perm_singleton.mp perm
  rw [single, beq_iff_eq.mp left] at flags
  cases flags

end CameraRs.Frame
