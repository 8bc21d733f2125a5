/-
Assertions about sessions and about the tasks that work for them.

Each task may rely on an assertion that belongs to its program counter. An
assertion holds in every run once it survives the accesses of the task itself
and is not disturbed by the accesses of the other tasks of the same session;
accesses for other sessions cannot disturb it. A `Discipline` restricts the
interleavings for which this has to be shown.
-/

import CameraRs.Session.Numbered

namespace CameraRs.Session

/-- What may be relied on: about a session at any time, and about the session a
task works for while the task is at a program counter. -/
structure Assertion where
  session : SessionInner → Prop
  task : TaskId → SessionInner → Pc → Prop

/-- Which overlaps are excluded: `own` restricts an access by what it finds,
`beside` by where the other tasks of its session are. -/
structure Discipline where
  own : SessionInner → Pc → Effect → Bool
  beside : Effect → Pc → Bool

namespace Discipline

def free : Discipline := ⟨fun _ _ _ => true, fun _ _ => true⟩

def allows (rule : Discipline) (d : Device) : Action → Bool
  | .run i env =>
      match d.tasks i with
      | .on s pc =>
          match next d.native d.hub (d.sessions s) env pc with
          | some (_, effect) =>
              rule.own (d.sessions s) pc effect && (List.range d.spawned).all fun j =>
                match d.tasks j with
                | .on r other => j == i || r != s || rule.beside effect other
                | _ => true
          | none => true
      | _ => true
  | _ => true

def admits (rule : Discipline) (d : Device) (a : Action) : Prop :=
  rule.allows d a = true

private theorem admits_run {rule : Discipline} {d : Device} {i : TaskId} {env : Env}
    (admitted : rule.admits d (.run i env)) {s : SessionId} {pc after : Pc} {effect : Effect}
    (at_pc : d.tasks i = .on s pc)
    (taken : next d.native d.hub (d.sessions s) env pc = some (after, effect)) :
    rule.own (d.sessions s) pc effect = true ∧ ∀ j other, j < d.spawned → j ≠ i →
      d.tasks j = .on s other → rule.beside effect other = true := by
  simp only [admits, allows, at_pc, taken, Bool.and_eq_true, List.all_eq_true,
    List.mem_range] at admitted
  refine ⟨admitted.1, ?_⟩
  intro j other present different found
  have chosen := admitted.2 j present
  simpa [found, different] using chosen

theorem free_admits (d : Device) (a : Action) : free.admits d a := by
  unfold admits allows
  split
  · split
    · split
      · simp only [free, Bool.true_and, List.all_eq_true]
        intro j _
        split <;> simp
      · rfl
    · rfl
  · rfl

theorem free_reachable {admitted : Device → Action → Prop} {d : Device}
    (reached : machine.Reachable admitted d) : machine.Reachable free.admits d :=
  reached.mono fun d a _ => free_admits d a

end Discipline

namespace Assertion

def top : Assertion := ⟨fun _ => True, fun _ _ _ => True⟩

def both (A B : Assertion) : Assertion where
  session inner := A.session inner ∧ B.session inner
  task i inner pc := A.task i inner pc ∧ B.task i inner pc

structure Holds (A : Assertion) (d : Device) : Prop where
  session : ∀ s, A.session (d.sessions s)
  task : ∀ i s pc, d.tasks i = .on s pc → A.task i (d.sessions s) pc

/-- `A` is kept by every access that `rule` admits, for the task that makes it,
for the task it spawns and for the other tasks of the session. -/
structure Stable (rule : Discipline) (known A : Assertion) : Prop where
  fresh : ∀ i, A.session (.fresh i)
  starting : ∀ i candidates policy,
    A.task i (.fresh i) (.start (.applyOptions candidates policy))
  closeCall : ∀ i inner, inner.handle = true → known.session inner → A.session inner →
    A.task i inner (.requestStop true .swapStopping)
  dropCall : ∀ i inner, inner.handle = true → known.session inner → A.session inner →
    A.task i { inner with handle := false } .dropSession
  dropped : ∀ inner, A.session inner → A.session { inner with handle := false }
  droppedTask : ∀ i inner pc, A.task i inner pc → A.task i { inner with handle := false } pc
  session : ∀ {i new native hub inner env pc after effect},
    known.session inner → known.task i inner pc → A.session inner → A.task i inner pc →
    rule.own inner pc effect = true → next native hub inner env pc = some (after, effect) →
    A.session (effect.onInner i new hub inner)
  task : ∀ {i new native hub inner env pc after effect},
    known.session inner → known.task i inner pc → A.session inner → A.task i inner pc →
    rule.own inner pc effect = true → next native hub inner env pc = some (after, effect) →
    A.task i (effect.onInner i new hub inner) after
  spawned : ∀ {i new native hub inner env pc after started},
    known.session inner → known.task i inner pc → A.session inner → A.task i inner pc →
    next native hub inner env pc = some (after, .spawn started) →
    A.task new ((Effect.spawn started).onInner i new hub inner) started
  other : ∀ {i j new native hub inner env pc after effect pending}, j ≠ i →
    known.session inner → known.task i inner pc → A.session inner → A.task i inner pc →
    rule.own inner pc effect = true → next native hub inner env pc = some (after, effect) →
    known.task j inner pending → A.task j inner pending → rule.beside effect pending = true →
    A.task j (effect.onInner i new hub inner) pending

variable {rule : Discipline} {known A : Assertion} {d d' : Device}

theorem Holds.of_same (holds : A.Holds d) (sessions : d'.sessions = d.sessions)
    (tasks : d'.tasks = d.tasks) : A.Holds d' := by
  constructor
  · rw [sessions]
    exact holds.session
  · rw [sessions, tasks]
    exact holds.task

theorem Holds.spawn (holds : A.Holds d) {task : Task}
    (fits : ∀ s pc, task = .on s pc → A.task d.spawned (d.sessions s) pc) :
    A.Holds (d.spawn task) := by
  refine ⟨holds.session, ?_⟩
  intro j s pc found
  rcases Device.spawn_eq_on found with ⟨rfl, same⟩ | ⟨_, found⟩
  · exact fits s pc same
  · exact holds.task j s pc found

theorem Holds.setTask (holds : A.Holds d) {i : TaskId} {task : Task}
    (fits : ∀ s pc, task = .on s pc → A.task i (d.sessions s) pc) :
    A.Holds (d.setTask i task) := by
  refine ⟨holds.session, ?_⟩
  intro j s pc found
  rcases Device.setTask_eq_on found with ⟨rfl, same⟩ | ⟨_, found⟩
  · exact fits s pc same
  · exact holds.task j s pc found

theorem Holds.forget (stable : Stable rule known A) (holds : A.Holds d) (s : SessionId) :
    A.Holds (d.setInner s { d.sessions s with handle := false }) := by
  constructor
  · intro r
    change A.session (Function.update d.sessions s _ r)
    by_cases same : r = s
    · subst same
      rw [Function.update_self]
      exact stable.dropped _ (holds.session r)
    · rw [Function.update_of_ne same]
      exact holds.session r
  · intro i r pc found
    change A.task i (Function.update d.sessions s _ r) pc
    by_cases same : r = s
    · subst same
      rw [Function.update_self]
      exact stable.droppedTask i _ pc (holds.task i r pc found)
    · rw [Function.update_of_ne same]
      exact holds.task i r pc found

theorem Holds.run (stable : Stable rule known A) (numbered : d.Numbered)
    (before : known.Holds d) (holds : A.Holds d) {i : TaskId} {env : Env}
    (admitted : rule.admits d (.run i env)) {s : SessionId} {pc after : Pc} {effect : Effect}
    (at_pc : d.tasks i = .on s pc)
    (taken : next d.native d.hub (d.sessions s) env pc = some (after, effect)) :
    A.Holds ((d.apply i s effect).setTask i (.on s after)) := by
  obtain ⟨own, beside⟩ := rule.admits_run admitted at_pc taken
  have knownHere := before.task i s pc at_pc
  have here := holds.task i s pc at_pc
  have knownInner := before.session s
  have inner := holds.session s
  constructor
  · intro r
    change A.session ((d.apply i s effect).sessions r)
    rw [Device.apply_sessions]
    by_cases same : r = s
    · subst same
      rw [Function.update_self]
      exact stable.session knownInner knownHere inner here own taken
    · rw [Function.update_of_ne same]
      exact holds.session r
  · intro j r pending found
    change A.task j ((d.apply i s effect).sessions r) pending
    rw [Device.apply_sessions]
    rcases Device.setTask_eq_on found with ⟨rfl, same⟩ | ⟨different, found⟩
    · injection same with session pc
      subst session pc
      rw [Function.update_self]
      exact stable.task knownInner knownHere inner here own taken
    · rcases Device.apply_eq_on found with earlier | ⟨rfl, rfl, rfl⟩
      · have waiting := holds.task j r pending earlier
        by_cases same : r = s
        · subst same
          rw [Function.update_self]
          have present := numbered.present j (by simp [earlier])
          exact stable.other different knownInner knownHere inner here own taken
            (before.task j r pending earlier) waiting
            (beside j pending present different earlier)
        · rw [Function.update_of_ne same]
          exact waiting
      · rw [Function.update_self]
        exact stable.spawned knownInner knownHere inner here taken

theorem Holds.stepDevice (stable : Stable rule known A) (numbered : d.Numbered)
    (holds : A.Holds d) {i : TaskId} {env : Env} (pc : DevicePc) :
    A.Holds (d.stepDevice i env pc) := by
  have moved : ∀ task, (∀ s pc, task ≠ .on s pc) → A.Holds (d.setTask i task) :=
    fun task never => holds.setTask fun s pc same => absurd same (never s pc)
  cases pc with
  | swapBusy candidates policy =>
      simp only [Device.stepDevice]
      split
      · exact moved .done (by simp)
      · exact (moved (.device (.configure candidates policy)) (by simp)).of_same rfl rfl
  | configure candidates policy =>
      simp only [Device.stepDevice]
      split
      · constructor
        · intro r
          change A.session (Function.update d.sessions d.created (.fresh i) r)
          by_cases same : r = d.created
          · subst same
            rw [Function.update_self]
            exact stable.fresh i
          · rw [Function.update_of_ne same]
            exact holds.session r
        · intro j r pending found
          change A.task j (Function.update d.sessions d.created (.fresh i) r) pending
          rcases Device.setTask_eq_on found with ⟨rfl, same⟩ | ⟨_, found⟩
          · injection same with session pc
            subst session pc
            rw [Function.update_self]
            exact stable.starting _ _ _
          · rw [Function.update_of_ne (Nat.ne_of_lt (numbered.known j r pending found))]
            exact holds.task j r pending found
      · exact moved (.device .configureFailed) (by simp)
  | configureFailed => exact (moved .done (by simp)).of_same rfl rfl
  | closeLoadBusy =>
      simp only [Device.stepDevice]
      split
      · exact moved .done (by simp)
      · exact moved (.device .closeStore) (by simp)
  | closeStore => exact (moved (.device .closeRelease) (by simp)).of_same rfl rfl
  | closeRelease => exact (moved .done (by simp)).of_same rfl rfl

theorem Holds.step (stable : Stable rule known A) (numbered : d.Numbered)
    (before : known.Holds d) (holds : A.Holds d) {a : Action} (admitted : rule.admits d a)
    (taken : d.step a = some d') : A.Holds d' := by
  cases a with
  | start candidates policy =>
      simp only [Device.step] at taken
      split at taken
      · cases taken
        have borrowed : A.Holds { d with borrower := some d.spawned } := holds.of_same rfl rfl
        exact borrowed.spawn (by simp)
      · contradiction
  | closeCamera =>
      simp only [Device.step] at taken
      split at taken
      · cases taken
        have borrowed : A.Holds { d with borrower := some d.spawned } := holds.of_same rfl rfl
        exact borrowed.spawn (by simp)
      · contradiction
  | close s =>
      simp only [Device.step] at taken
      split at taken
      · next handle =>
          cases taken
          refine holds.spawn fun r pc same => ?_
          injection same with session pc
          subst session pc
          exact stable.closeCall _ _ handle (before.session s) (holds.session s)
      · contradiction
  | drop s =>
      simp only [Device.step] at taken
      split at taken
      · next handle =>
          cases taken
          refine (holds.forget stable s).spawn fun r pc same => ?_
          injection same with session pc
          subst session pc
          change A.task _ (Function.update d.sessions s _ s) _
          rw [Function.update_self]
          exact stable.dropCall _ _ handle (before.session s) (holds.session s)
      · contradiction
  | backendStop =>
      cases taken
      exact holds.of_same rfl rfl
  | traffic metrics stats =>
      cases taken
      exact holds.of_same rfl rfl
  | run i env =>
      cases at_pc : d.tasks i with
      | absent => simp [Device.step, at_pc] at taken
      | done => simp [Device.step, at_pc] at taken
      | device pc =>
          simp only [Device.step, at_pc, Option.some.injEq] at taken
          subst taken
          exact holds.stepDevice stable numbered pc
      | on s pc =>
          simp only [Device.step, at_pc, Option.map_eq_some_iff] at taken
          obtain ⟨⟨after, effect⟩, access, rfl⟩ := taken
          exact Holds.run stable numbered before holds admitted at_pc access

theorem Stable.initially (stable : Stable rule known A) (native : Bool) :
    A.Holds { native := native } :=
  ⟨fun _ => stable.fresh 0, fun _ _ _ found => nomatch found⟩

theorem Stable.reachable (stable : Stable rule known A)
    (before : ∀ d, machine.Reachable rule.admits d → known.Holds d)
    (reached : machine.Reachable rule.admits d) : A.Holds d := by
  have known : ∀ d, machine.Reachable rule.admits d → d.Numbered ∧ known.Holds d :=
    fun d reached => ⟨Device.Numbered.reachable reached, before d reached⟩
  refine Lib.Machine.Reachable.invariant_under known ?_ ?_ reached
  · rintro d ⟨native, rfl⟩
    exact stable.initially native
  · intro d a d' admitted ⟨numbered, before⟩ _ taken holds
    exact Holds.step stable numbered before holds admitted taken

theorem Holds.both {B : Assertion} (first : A.Holds d) (second : B.Holds d) :
    (both A B).Holds d :=
  ⟨fun s => ⟨first.session s, second.session s⟩,
    fun i s pc found => ⟨first.task i s pc found, second.task i s pc found⟩⟩

theorem Holds.top : top.Holds d := ⟨fun _ => trivial, fun _ _ _ _ => trivial⟩

end Assertion

end CameraRs.Session
