/-
Tasks and sessions are numbered as they are created, and what one step of the
device can do to the sessions and tasks that exist.
-/

import CameraRs.Session.Program

namespace CameraRs.Session

namespace Device

variable {d : Device} {i j : TaskId} {s r : SessionId} {pc : Pc}

theorem setTask_eq_on {task : Task}
    (found : (d.setTask i task).tasks j = .on s pc) :
    j = i ∧ task = .on s pc ∨ j ≠ i ∧ d.tasks j = .on s pc := by
  by_cases same : j = i
  · subst same
    exact .inl ⟨rfl, by simpa [Device.setTask] using found⟩
  · exact .inr ⟨same, by simpa [Device.setTask, same] using found⟩

theorem spawn_eq_on {task : Task}
    (found : (d.spawn task).tasks j = .on s pc) :
    j = d.spawned ∧ task = .on s pc ∨ j ≠ d.spawned ∧ d.tasks j = .on s pc := by
  by_cases same : j = d.spawned
  · subst same
    exact .inl ⟨rfl, by simpa [Device.spawn] using found⟩
  · exact .inr ⟨same, by simpa [Device.spawn, same] using found⟩

theorem apply_sessions (d : Device) (i : TaskId) (s : SessionId) (effect : Effect) :
    (d.apply i s effect).sessions =
      Function.update d.sessions s (effect.onInner i d.spawned d.hub (d.sessions s)) := by
  cases effect <;> rfl

theorem apply_created (d : Device) (i : TaskId) (s : SessionId) (effect : Effect) :
    (d.apply i s effect).created = d.created := by
  cases effect <;> rfl

theorem apply_eq_on {effect : Effect}
    (found : (d.apply i s effect).tasks j = .on r pc) :
    d.tasks j = .on r pc ∨ j = d.spawned ∧ r = s ∧ effect = .spawn pc := by
  cases effect with
  | spawn started =>
      rcases spawn_eq_on found with ⟨same, task⟩ | ⟨_, found⟩
      · injection task with session pc
        exact .inr ⟨same, session.symm, by rw [pc]⟩
      · exact .inl found
  | _ => exact .inl found

theorem present_setTask {task : Task} (mine : d.tasks i ≠ .absent)
    (found : (d.setTask i task).tasks j ≠ .absent) : d.tasks j ≠ .absent := by
  by_cases same : j = i
  · subst same
    exact mine
  · simpa [setTask, same] using found

private theorem present_spawn {task : Task} (found : (d.spawn task).tasks j ≠ .absent) :
    j = d.spawned ∨ d.tasks j ≠ .absent := by
  by_cases same : j = d.spawned
  · exact .inl same
  · exact .inr (by simpa [spawn, same] using found)

private theorem tasks_apply {effect : Effect} (mine : d.tasks i ≠ .absent) :
    (d.apply i s effect).tasks i ≠ .absent := by
  cases effect with
  | spawn started =>
      change Function.update d.tasks d.spawned (.on s started) i ≠ .absent
      by_cases same : i = d.spawned
      · rw [same, Function.update_self]
        exact Task.noConfusion
      · rw [Function.update_of_ne same]
        exact mine
  | _ => exact mine

/-- Tasks and sessions are numbered in the order of their creation. -/
structure Numbered (d : Device) : Prop where
  present : ∀ i, d.tasks i ≠ .absent → i < d.spawned
  ahead : ∀ s, d.created ≤ s → d.sessions s = .fresh 0
  known : ∀ i s pc, d.tasks i = .on s pc → s < d.created

namespace Numbered

variable {d' : Device}

theorem of_same (numbered : d.Numbered) (created : d'.created = d.created)
    (sessions : d'.sessions = d.sessions) (spawned : d'.spawned = d.spawned)
    (tasks : d'.tasks = d.tasks) : d'.Numbered := by
  constructor
  · rw [spawned, tasks]
    exact numbered.present
  · rw [sessions, created]
    exact numbered.ahead
  · rw [created, tasks]
    exact numbered.known

theorem handled (numbered : d.Numbered) (handle : (d.sessions s).handle = true) :
    s < d.created := by
  by_contra outside
  rw [numbered.ahead s (Nat.le_of_not_lt outside)] at handle
  contradiction

theorem spawn (numbered : d.Numbered) {task : Task}
    (known : ∀ s pc, task = .on s pc → s < d.created) : (d.spawn task).Numbered := by
  refine ⟨?_, numbered.ahead, ?_⟩
  · intro j found
    rcases present_spawn found with same | earlier
    · rw [same]
      exact Nat.lt_succ_self _
    · exact Nat.lt_succ_of_lt (numbered.present j earlier)
  intro j s pc found
  rcases spawn_eq_on found with ⟨_, same⟩ | ⟨_, found⟩
  · exact known s pc same
  · exact numbered.known j s pc found

theorem setTask (numbered : d.Numbered) {task : Task} (mine : d.tasks i ≠ .absent)
    (known : ∀ s pc, task = .on s pc → s < d.created) : (d.setTask i task).Numbered := by
  refine ⟨fun j found => numbered.present j (present_setTask mine found), numbered.ahead, ?_⟩
  intro j s pc found
  rcases setTask_eq_on found with ⟨_, same⟩ | ⟨_, found⟩
  · exact known s pc same
  · exact numbered.known j s pc found

theorem setInner (numbered : d.Numbered) {inner : SessionInner} (inRange : s < d.created) :
    (d.setInner s inner).Numbered := by
  refine ⟨numbered.present, ?_, numbered.known⟩
  intro r ahead
  change Function.update d.sessions s inner r = _
  rw [Function.update_of_ne (Nat.ne_of_gt (Nat.lt_of_lt_of_le inRange ahead))]
  exact numbered.ahead r ahead

theorem apply (numbered : d.Numbered) {effect : Effect} (inRange : s < d.created) :
    (d.apply i s effect).Numbered := by
  have updated : ((d.setInner s (effect.onInner i d.spawned d.hub (d.sessions s))).setHub
      (effect.onHub d.hub)).setBusy (effect.onBusy d.busy) |>.Numbered :=
    (numbered.setInner inRange).of_same rfl rfl rfl rfl
  cases effect with
  | spawn started =>
      refine updated.spawn fun r pc same => ?_
      injection same with session
      rw [← session]
      exact inRange
  | _ => exact updated

theorem create (numbered : d.Numbered) (mine : d.tasks i ≠ .absent) :
    ((d.create i).setTask i (.on d.created pc)).Numbered := by
  constructor
  · intro j found
    have earlier : (d.create i).tasks j ≠ .absent := present_setTask mine found
    exact numbered.present j earlier
  · intro s ahead
    change Function.update d.sessions d.created (.fresh i) s = _
    rw [Function.update_of_ne (Nat.ne_of_gt ahead)]
    exact numbered.ahead s (Nat.le_of_lt ahead)
  · intro j s pending found
    rcases setTask_eq_on found with ⟨_, same⟩ | ⟨_, found⟩
    · injection same with session
      rw [← session]
      exact Nat.lt_succ_self _
    · exact Nat.lt_succ_of_lt (numbered.known j s pending found)

theorem stepDevice (numbered : d.Numbered) {env : Env} (mine : d.tasks i ≠ .absent)
    (pc : DevicePc) : (d.stepDevice i env pc).Numbered := by
  have moved : ∀ task, (∀ s pc, task ≠ .on s pc) → (d.setTask i task).Numbered :=
    fun task never => numbered.setTask mine fun s pc same => absurd same (never s pc)
  cases pc with
  | swapBusy candidates policy =>
      simp only [Device.stepDevice]
      split
      · exact moved .done (by simp)
      · exact (moved (.device (.configure candidates policy)) (by simp)).of_same rfl rfl rfl rfl
  | configure candidates policy =>
      simp only [Device.stepDevice]
      split
      · exact numbered.create mine
      · exact moved (.device .configureFailed) (by simp)
  | configureFailed => exact (moved .done (by simp)).of_same rfl rfl rfl rfl
  | closeLoadBusy =>
      simp only [Device.stepDevice]
      split
      · exact moved .done (by simp)
      · exact moved (.device .closeStore) (by simp)
  | closeStore => exact (moved (.device .closeRelease) (by simp)).of_same rfl rfl rfl rfl
  | closeRelease => exact (moved .done (by simp)).of_same rfl rfl rfl rfl

theorem step (numbered : d.Numbered) {a : Action} (taken : d.step a = some d') :
    d'.Numbered := by
  cases a with
  | start candidates policy =>
      simp only [Device.step] at taken
      split at taken
      · cases taken
        have borrowed : { d with borrower := some d.spawned }.Numbered :=
          numbered.of_same rfl rfl rfl rfl
        exact borrowed.spawn (by simp)
      · contradiction
  | closeCamera =>
      simp only [Device.step] at taken
      split at taken
      · cases taken
        have borrowed : { d with borrower := some d.spawned }.Numbered :=
          numbered.of_same rfl rfl rfl rfl
        exact borrowed.spawn (by simp)
      · contradiction
  | close s =>
      simp only [Device.step] at taken
      split at taken
      · next handle =>
          cases taken
          refine numbered.spawn fun r pc same => ?_
          injection same with session
          rw [← session]
          exact numbered.handled handle
      · contradiction
  | drop s =>
      simp only [Device.step] at taken
      split at taken
      · next handle =>
          cases taken
          have inRange := numbered.handled handle
          refine (numbered.setInner inRange).spawn fun r pc same => ?_
          injection same with session
          rw [← session]
          exact inRange
      · contradiction
  | backendStop =>
      cases taken
      exact numbered.of_same rfl rfl rfl rfl
  | traffic metrics stats =>
      cases taken
      exact numbered.of_same rfl rfl rfl rfl
  | run i env =>
      cases at_pc : d.tasks i with
      | absent => simp [Device.step, at_pc] at taken
      | done => simp [Device.step, at_pc] at taken
      | device pc =>
          simp only [Device.step, at_pc, Option.some.injEq] at taken
          subst taken
          exact numbered.stepDevice (by simp [at_pc]) pc
      | on s pc =>
          simp only [Device.step, at_pc, Option.map_eq_some_iff] at taken
          obtain ⟨⟨after, effect⟩, _, rfl⟩ := taken
          have inRange := numbered.known i s pc at_pc
          refine (numbered.apply inRange).setTask (tasks_apply (by simp [at_pc])) fun r pc same => ?_
          injection same with session
          rw [← session, apply_created]
          exact inRange

theorem reachable {admits : Device → Action → Prop}
    (reached : machine.Reachable admits d) : d.Numbered := by
  refine Lib.Machine.Reachable.invariant ?_ ?_ reached
  · rintro d ⟨native, rfl⟩
    exact ⟨fun _ found => absurd rfl found, fun _ _ => rfl, fun _ _ _ found => nomatch found⟩
  · intro d a d' _ taken numbered
    exact numbered.step taken

end Numbered

variable {d' : Device}

private theorem stepDevice_sessions {env : Env} (pc : DevicePc) (inRange : s < d.created) :
    (d.stepDevice i env pc).sessions s = d.sessions s := by
  cases pc with
  | configure candidates policy =>
      simp only [Device.stepDevice]
      split
      · exact Function.update_of_ne (Nat.ne_of_lt inRange) ..
      · rfl
  | swapBusy candidates policy =>
      simp only [Device.stepDevice]
      split <;> rfl
  | closeLoadBusy =>
      simp only [Device.stepDevice]
      split <;> rfl
  | _ => rfl

theorem step_inner {a : Action} (taken : d.step a = some d')
    (inRange : s < d.created) :
    d'.sessions s = d.sessions s ∨
    d'.sessions s = { d.sessions s with handle := false } ∨
    ∃ i env pc after effect, a = .run i env ∧ d.tasks i = .on s pc ∧
      next d.native d.hub (d.sessions s) env pc = some (after, effect) ∧
      d'.sessions s = effect.onInner i d.spawned d.hub (d.sessions s) := by
  cases a with
  | start candidates policy =>
      simp only [Device.step] at taken
      split at taken
      · cases taken
        exact .inl rfl
      · contradiction
  | closeCamera =>
      simp only [Device.step] at taken
      split at taken
      · cases taken
        exact .inl rfl
      · contradiction
  | close r =>
      simp only [Device.step] at taken
      split at taken
      · cases taken
        exact .inl rfl
      · contradiction
  | drop r =>
      simp only [Device.step] at taken
      split at taken
      · cases taken
        by_cases same : s = r
        · subst same
          exact .inr (.inl (Function.update_self ..))
        · exact .inl (Function.update_of_ne same ..)
      · contradiction
  | backendStop =>
      cases taken
      exact .inl rfl
  | traffic metrics stats =>
      cases taken
      exact .inl rfl
  | run i env =>
      cases at_pc : d.tasks i with
      | absent => simp [Device.step, at_pc] at taken
      | done => simp [Device.step, at_pc] at taken
      | device pc =>
          simp only [Device.step, at_pc, Option.some.injEq] at taken
          subst taken
          exact .inl (stepDevice_sessions pc inRange)
      | on r pc =>
          simp only [Device.step, at_pc, Option.map_eq_some_iff] at taken
          obtain ⟨⟨after, effect⟩, access, rfl⟩ := taken
          change (d.apply i r effect).sessions s = _ ∨ (d.apply i r effect).sessions s = _ ∨ _
          by_cases same : s = r
          · subst same
            refine .inr (.inr ⟨i, env, pc, after, effect, rfl, at_pc, access, ?_⟩)
            change (d.apply i s effect).sessions s = _
            rw [apply_sessions, Function.update_self]
          · rw [apply_sessions, Function.update_of_ne same]
            exact .inl rfl

theorem step_on {env : Env} (at_pc : d.tasks i = .on s pc)
    (taken : d.step (.run i env) = some d') :
    ∃ after effect, next d.native d.hub (d.sessions s) env pc = some (after, effect) ∧
      d' = (d.apply i s effect).setTask i (.on s after) := by
  simp only [step, at_pc, Option.map_eq_some_iff] at taken
  obtain ⟨⟨after, effect⟩, made, rfl⟩ := taken
  exact ⟨after, effect, made, rfl⟩

private theorem apply_native (d : Device) (i : TaskId) (s : SessionId) (effect : Effect) :
    (d.apply i s effect).native = d.native := by
  cases effect <;> rfl

private theorem stepDevice_native {env : Env} (device : DevicePc) :
    (d.stepDevice i env device).native = d.native := by
  cases device with
  | swapBusy candidates policy =>
      simp only [stepDevice]
      split <;> rfl
  | configure candidates policy =>
      simp only [stepDevice]
      split <;> rfl
  | closeLoadBusy =>
      simp only [stepDevice]
      split <;> rfl
  | _ => rfl

theorem step_native {a : Action} (taken : d.step a = some d') : d'.native = d.native := by
  cases a with
  | run i env =>
      cases at_pc : d.tasks i with
      | absent => simp [step, at_pc] at taken
      | done => simp [step, at_pc] at taken
      | device device =>
          simp only [step, at_pc, Option.some.injEq] at taken
          rw [← taken]
          exact stepDevice_native device
      | on s pc =>
          obtain ⟨after, effect, _, rfl⟩ := step_on at_pc taken
          exact apply_native d i s effect
  | backendStop =>
      cases taken
      rfl
  | traffic metrics stats =>
      cases taken
      rfl
  | _ =>
      simp only [step] at taken
      split at taken
      · cases taken
        rfl
      · contradiction

theorem setTask_rests {task : Task} (different : j ≠ i) :
    (d.setTask i task).tasks j = d.tasks j :=
  Function.update_of_ne different ..

private theorem spawn_rests {task : Task} (present : j < d.spawned) :
    (d.spawn task).tasks j = d.tasks j :=
  Function.update_of_ne (Nat.ne_of_lt present) ..

private theorem apply_rests {effect : Effect} (present : j < d.spawned) :
    (d.apply i s effect).tasks j = d.tasks j := by
  cases effect with
  | spawn started => exact Function.update_of_ne (Nat.ne_of_lt present) ..
  | _ => rfl

private theorem stepDevice_rests {env : Env} {device : DevicePc} (different : j ≠ i) :
    (d.stepDevice i env device).tasks j = d.tasks j := by
  cases device with
  | swapBusy candidates policy =>
      simp only [stepDevice]
      split <;> exact setTask_rests different
  | configure candidates policy =>
      simp only [stepDevice]
      split <;> exact setTask_rests different
  | closeLoadBusy =>
      simp only [stepDevice]
      split <;> exact setTask_rests different
  | _ => exact setTask_rests different

theorem step_rests {a : Action} (taken : d.step a = some d') (present : j < d.spawned)
    (rests : ∀ env, a ≠ .run j env) : d'.tasks j = d.tasks j := by
  cases a with
  | run i env =>
      have different : j ≠ i := by
        intro same
        exact rests env (by rw [same])
      cases at_pc : d.tasks i with
      | absent => simp [step, at_pc] at taken
      | done => simp [step, at_pc] at taken
      | device device =>
          simp only [step, at_pc, Option.some.injEq] at taken
          rw [← taken]
          exact stepDevice_rests different
      | on s pc =>
          obtain ⟨after, effect, _, rfl⟩ := step_on at_pc taken
          rw [setTask_rests different]
          exact apply_rests present
  | backendStop =>
      cases taken
      rfl
  | traffic metrics stats =>
      cases taken
      rfl
  | _ =>
      simp only [step] at taken
      split at taken
      · cases taken
        exact spawn_rests present
      · contradiction

inductive Arises (d : Device) (a : Action) (j : TaskId) (s : SessionId) : Pc → Prop
  | kept {pending : Pc} (rests : ∀ env, a ≠ .run j env) (before : d.tasks j = .on s pending) :
      Arises d a j s pending
  | moved {env : Env} {pc pending : Pc} {effect : Effect} (ran : a = .run j env)
      (at_pc : d.tasks j = .on s pc)
      (made : next d.native d.hub (d.sessions s) env pc = some (pending, effect)) :
      Arises d a j s pending
  | spawned {i : TaskId} {env : Env} {pc after pending : Pc} (ran : a = .run i env)
      (at_pc : d.tasks i = .on s pc) (new : j = d.spawned)
      (made : next d.native d.hub (d.sessions s) env pc = some (after, .spawn pending)) :
      Arises d a j s pending
  | closing (ran : a = .close s) (handle : (d.sessions s).handle = true) :
      Arises d a j s (.requestStop true .swapStopping)
  | dropping (ran : a = .drop s) (handle : (d.sessions s).handle = true) :
      Arises d a j s .dropSession
  | created {env : Env} {candidates : Nat} {policy : Option ReconnectPolicy}
      (ran : a = .run j env) (new : s = d.created) :
      Arises d a j s (.start (.applyOptions candidates policy))

theorem stepDevice_arises {env : Env} {device : DevicePc} (at_pc : d.tasks i = .device device)
    (found : (d.stepDevice i env device).tasks j = .on s pc) :
    Arises d (.run i env) j s pc := by
  have kept {after : Device} {task : Task} (never : ∀ s pc, task ≠ .on s pc)
      (same : after.tasks = d.tasks) (found : (after.setTask i task).tasks j = .on s pc) :
      Arises d (.run i env) j s pc := by
    rcases setTask_eq_on found with ⟨rfl, same⟩ | ⟨different, before⟩
    · exact absurd same (never s pc)
    · rw [same] at before
      exact .kept (by simpa using Ne.symm different) before
  cases device with
  | swapBusy candidates policy =>
      simp only [stepDevice] at found
      split at found
      · exact kept (by simp) rfl found
      · exact kept (by simp) rfl found
  | configure candidates policy =>
      simp only [stepDevice] at found
      split at found
      · rcases setTask_eq_on found with ⟨rfl, same⟩ | ⟨different, before⟩
        · injection same with session pc
          subst session pc
          exact .created rfl rfl
        · exact .kept (by simpa using Ne.symm different) before
      · exact kept (by simp) rfl found
  | configureFailed => exact @kept (d.setBusy false) .done (by simp) rfl found
  | closeLoadBusy =>
      simp only [stepDevice] at found
      split at found
      · exact kept (by simp) rfl found
      · exact kept (by simp) rfl found
  | closeStore => exact @kept { d with closed := true } (.device .closeRelease) (by simp) rfl found
  | closeRelease =>
      exact @kept (d.setHub ((Effect.sourceStop env.reaches).onHub d.hub)) .done (by simp) rfl
        found

theorem step_task {a : Action} (taken : d.step a = some d')
    (found : d'.tasks j = .on s pc) : Arises d a j s pc := by
  cases a with
  | start candidates policy =>
      simp only [step] at taken
      split at taken
      · cases taken
        rcases spawn_eq_on found with ⟨_, same⟩ | ⟨_, before⟩
        · contradiction
        · exact .kept (by simp) before
      · contradiction
  | closeCamera =>
      simp only [step] at taken
      split at taken
      · cases taken
        rcases spawn_eq_on found with ⟨_, same⟩ | ⟨_, before⟩
        · contradiction
        · exact .kept (by simp) before
      · contradiction
  | close r =>
      simp only [step] at taken
      split at taken
      · next handle =>
          cases taken
          rcases spawn_eq_on found with ⟨_, same⟩ | ⟨_, before⟩
          · injection same with session pc
            subst session pc
            exact .closing rfl handle
          · exact .kept (by simp) before
      · contradiction
  | drop r =>
      simp only [step] at taken
      split at taken
      · next handle =>
          cases taken
          rcases spawn_eq_on found with ⟨_, same⟩ | ⟨_, before⟩
          · injection same with session pc
            subst session pc
            exact .dropping rfl handle
          · exact .kept (by simp) before
      · contradiction
  | backendStop =>
      cases taken
      exact .kept (by simp) found
  | traffic metrics stats =>
      cases taken
      exact .kept (by simp) found
  | run i env =>
      cases at_pc : d.tasks i with
      | absent => simp [step, at_pc] at taken
      | done => simp [step, at_pc] at taken
      | device device =>
          simp only [step, at_pc, Option.some.injEq] at taken
          subst taken
          exact stepDevice_arises at_pc found
      | on r here =>
          simp only [step, at_pc, Option.map_eq_some_iff] at taken
          obtain ⟨⟨after, effect⟩, made, rfl⟩ := taken
          rcases setTask_eq_on found with ⟨rfl, same⟩ | ⟨different, found⟩
          · injection same with session pc
            subst session pc
            exact .moved rfl at_pc made
          · rcases apply_eq_on found with before | ⟨new, rfl, rfl⟩
            · exact .kept (by simpa using Ne.symm different) before
            · exact .spawned rfl at_pc new made

end Device

end CameraRs.Session
