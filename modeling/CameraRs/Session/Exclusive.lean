/-
One live session per device.

The start task stores `closed` and clears `busy` on its failure branch without
asking whether `stop` has done so before. When every start task gets the lock
while its session is open, `busy` has exactly one owner at a time: the call that
is configuring the hub, or the session that has not given `busy` back yet.
-/

import CameraRs.Session.Locks

namespace CameraRs.Session

/-- A start task enters its `lifecycle` section before the session is closed. -/
def startsWhileOpen : Discipline where
  own inner pc effect :=
    match pc, effect with
    | .startTask (.lock _), .lock => !inner.closed
    | _, _ => true
  beside _ _ := true

/-- At most one session is live, and `busy` is set while one is. -/
def Device.Exclusive (d : Device) : Prop :=
  (∀ s r, d.Live s → d.Live r → s = r) ∧ ∀ s, d.Live s → d.busy = true

/-! ### The start task under this discipline -/

def trying : Assertion where
  session _ := True
  task _ inner pc := pc.trying = true → inner.closed = false

private theorem trying_stable : Assertion.Stable startsWhileOpen locks trying where
  fresh _ := trivial
  starting _ _ _ := nofun
  closeCall _ _ _ _ _ := nofun
  dropCall _ _ _ _ _ := nofun
  dropped _ _ := trivial
  droppedTask _ _ _ opened := opened
  session _ _ _ _ _ _ := trivial
  task {i new _ hub inner _ pc after effect} _ _ _ opened own taken := by
    intro later
    obtain ⟨notClosing, why⟩ := (next_edge taken).trying later
    rw [Effect.closed_unless notClosing]
    rcases why with before | ⟨rfl, candidates, rfl⟩
    · exact opened before
    · simpa [startsWhileOpen] using own
  spawned _ _ _ _ taken := by
    rcases Pc.entry_cases ((next_edge taken).spawning _ rfl) with
      rfl | ⟨_, rfl⟩ | ⟨_, rfl⟩ | rfl <;>
      exact nofun
  other different _ facts _ _ _ taken waits opened _ := by
    intro later
    rw [Effect.closed_unless]
    · exact opened later
    · rintro rfl
      have mine := facts.held ((next_edge taken).closing rfl).2.1
      rw [waits.held (Pc.trying_holdsLock later)] at mine
      exact different (Option.some.inj mine)

private theorem trying_holds {d : Device} (reached : machine.Reachable startsWhileOpen.admits d) :
    trying.Holds d :=
  trying_stable.reachable (fun _ reached => locks_hold reached) reached

/-! ### The owner of `busy` -/

/-- `start_inner` has set `busy` and not created a session yet. -/
def DevicePc.reserves : DevicePc → Bool
  | .configure _ _ | .configureFailed => true
  | _ => false

inductive Owner
  | caller (i : TaskId)
  | session (s : SessionId)

namespace Device

def Owns (d : Device) : Owner → Prop
  | .caller i => ∃ pc, d.tasks i = .device pc ∧ pc.reserves = true
  | .session s => s < d.created ∧
      ((d.sessions s).closed = false ∨ ∃ i pc, d.tasks i = .on s pc ∧ pc.tail = true)

structure Owned (d : Device) : Prop where
  busy : ∀ owner, d.Owns owner → d.busy = true
  unique : ∀ owner other, d.Owns owner → d.Owns other → owner = other

variable {d d' : Device} {i : TaskId} {s : SessionId} {pc after : Pc} {effect : Effect}

theorem Owned.of_fewer (owned : d.Owned) (busy : d'.busy = d.busy)
    (fewer : ∀ owner, d'.Owns owner → d.Owns owner) : d'.Owned := by
  constructor
  · intro owner owns
    rw [busy]
    exact owned.busy owner (fewer owner owns)
  · intro owner other owns otherOwns
    exact owned.unique owner other (fewer owner owns) (fewer other otherOwns)

theorem Owned.of_none (free : ∀ owner, ¬ d.Owns owner) : d.Owned :=
  ⟨fun owner owns => absurd owns (free owner), fun owner _ owns => absurd owns (free owner)⟩

theorem Owned.exclusive (owned : d.Owned) : d.Exclusive := by
  constructor
  · intro s r live other
    have same := owned.unique (.session s) (.session r) ⟨live.1, .inl live.2⟩
      ⟨other.1, .inl other.2⟩
    injection same
  · intro s live
    exact owned.busy (.session s) ⟨live.1, .inl live.2⟩

/-! ### Accesses of tasks on sessions -/

theorem spawn_eq_device {task : Task} {j : TaskId} {pc : DevicePc}
    (found : (d.spawn task).tasks j = .device pc) :
    task = .device pc ∨ d.tasks j = .device pc := by
  by_cases same : j = d.spawned
  · subst same
    exact .inl (by simpa [spawn] using found)
  · exact .inr (by simpa [spawn, same] using found)

theorem setTask_eq_device {task : Task} {j : TaskId} {pc : DevicePc}
    (found : (d.setTask i task).tasks j = .device pc) :
    j = i ∧ task = .device pc ∨ j ≠ i ∧ d.tasks j = .device pc := by
  by_cases same : j = i
  · subst same
    exact .inl ⟨rfl, by simpa [setTask] using found⟩
  · exact .inr ⟨same, by simpa [setTask, same] using found⟩

private theorem apply_eq_device {j : TaskId} {pc : DevicePc}
    (found : (d.apply i s effect).tasks j = .device pc) : d.tasks j = .device pc := by
  cases effect with
  | spawn started =>
      rcases spawn_eq_device found with impossible | earlier
      · contradiction
      · exact earlier
  | _ => exact found

private theorem apply_busy (d : Device) (i : TaskId) (s : SessionId) (effect : Effect) :
    (d.apply i s effect).busy = effect.onBusy d.busy := by
  cases effect <;> rfl

/-- Who owns `busy` after an access owned it before, or is the session that the
access is made for and is still on its way to give `busy` back. -/
theorem owns_run (edge : Edge (d.sessions s) pc effect after) (at_pc : d.tasks i = .on s pc)
    {owner : Owner} (owns : ((d.apply i s effect).setTask i (.on s after)).Owns owner) :
    d.Owns owner ∨ owner = .session s ∧ s < d.created ∧ effect = .storeClosed := by
  cases owner with
  | caller j =>
      obtain ⟨pc, found, reserves⟩ := owns
      rcases setTask_eq_device found with ⟨_, impossible⟩ | ⟨_, found⟩
      · contradiction
      · exact .inl ⟨pc, apply_eq_device found, reserves⟩
  | session r =>
      obtain ⟨inRange, why⟩ := owns
      change r < (d.apply i s effect).created at inRange
      rw [apply_created] at inRange
      rcases why with opened | ⟨j, pending, found, tail⟩
      · change ((d.apply i s effect).sessions r).closed = false at opened
        refine .inl ⟨inRange, .inl ?_⟩
        rw [apply_sessions] at opened
        by_cases same : r = s
        · subst same
          rw [Function.update_self] at opened
          by_contra closed
          rw [Effect.closed_stays _ (Bool.eq_true_of_not_eq_false closed)] at opened
          contradiction
        · rwa [Function.update_of_ne same] at opened
      · rcases setTask_eq_on found with ⟨_, same⟩ | ⟨_, found⟩
        · injection same with session pc
          subst session pc
          rcases edge.tailing tail with closing | before
          · exact .inr ⟨rfl, inRange, closing⟩
          · exact .inl ⟨inRange, .inr ⟨i, _, at_pc, before⟩⟩
        · rcases apply_eq_on found with found | ⟨_, _, rfl⟩
          · exact .inl ⟨inRange, .inr ⟨j, pending, found, tail⟩⟩
          · rcases Pc.entry_cases (edge.spawning pending rfl) with
              rfl | ⟨_, rfl⟩ | ⟨_, rfl⟩ | rfl <;>
              contradiction

private theorem owns_release (facts : locks.Holds d) (owned : d.Owned) (numbered : d.Numbered)
    (edge : Edge (d.sessions s) pc .releaseBusy after) (at_pc : d.tasks i = .on s pc)
    (owner : Owner) : ¬ ((d.apply i s .releaseBusy).setTask i (.on s after)).Owns owner := by
  intro owns
  have inRange := numbered.known i s pc at_pc
  obtain ⟨tail, tailDone⟩ := edge.releasing rfl
  have mine : d.Owns (.session s) := ⟨inRange, .inr ⟨i, pc, at_pc, tail⟩⟩
  have before : d.Owns owner := by
    rcases owns_run edge at_pc owns with before | ⟨_, _, impossible⟩
    · exact before
    · contradiction
  have same := owned.unique owner (.session s) before mine
  subst same
  rcases owns.2 with opened | ⟨j, pending, found, pendingTail⟩
  · change ((d.apply i s .releaseBusy).sessions s).closed = false at opened
    rw [apply_sessions, Function.update_self,
      Effect.closed_stays _ ((facts.task i s pc at_pc).ended tail)] at opened
    contradiction
  · rcases setTask_eq_on found with ⟨_, same⟩ | ⟨different, found⟩
    · injection same with _ pc
      rw [← pc, tailDone] at pendingTail
      contradiction
    · -- a second task on its way out would hold the same lock
      have holder := (facts.task i s pc at_pc).held (Pc.tail_holdsLock tail)
      rw [(facts.task j s pending found).held (Pc.tail_holdsLock pendingTail)] at holder
      exact different (Option.some.inj holder)

theorem Owned.run (owned : d.Owned) (facts : locks.Holds d) (starts : trying.Holds d)
    (numbered : d.Numbered) (edge : Edge (d.sessions s) pc effect after)
    (at_pc : d.tasks i = .on s pc) :
    ((d.apply i s effect).setTask i (.on s after)).Owned := by
  by_cases release : effect = .releaseBusy
  · subst release
    exact .of_none (owns_release facts owned numbered edge at_pc)
  · apply owned.of_fewer
    · change (d.apply i s effect).busy = d.busy
      rw [apply_busy]
      cases effect <;> first | rfl | contradiction
    · intro owner owns
      rcases owns_run edge at_pc owns with before | ⟨rfl, inRange, rfl⟩
      · exact before
      · refine ⟨inRange, .inl ?_⟩
        rcases (edge.closing rfl).2.2.1 with guarded | starting
        · exact (facts.task i s pc at_pc).opened guarded
        · exact starts.task i s pc at_pc starting

/-! ### Calls and device steps -/

theorem Owned.of_idle (owned : d.Owned) (busy : d'.busy = d.busy)
    (created : d'.created = d.created)
    (closed : ∀ s, (d'.sessions s).closed = (d.sessions s).closed)
    (onDevice : ∀ j, d'.Owns (.caller j) → d.Owns (.caller j))
    (onSession : ∀ j s pc, d'.tasks j = .on s pc → pc.tail = true → d.tasks j = .on s pc) :
    d'.Owned := by
  apply owned.of_fewer busy
  intro owner owns
  cases owner with
  | caller j => exact onDevice j owns
  | session s =>
      obtain ⟨inRange, why⟩ := owns
      rw [created] at inRange
      refine ⟨inRange, ?_⟩
      rcases why with opened | ⟨j, pc, found, tail⟩
      · rw [closed s] at opened
        exact .inl opened
      · exact .inr ⟨j, pc, onSession j s pc found tail, tail⟩

theorem Owned.of_same (owned : d.Owned) (busy : d'.busy = d.busy)
    (created : d'.created = d.created) (sessions : d'.sessions = d.sessions)
    (tasks : d'.tasks = d.tasks) : d'.Owned := by
  refine owned.of_idle busy created (fun s => by rw [sessions]) ?_ ?_
  · rintro j ⟨pc, found, reserves⟩
    rw [tasks] at found
    exact ⟨pc, found, reserves⟩
  · intro j s pc found _
    rwa [tasks] at found

theorem Owned.spawn (owned : d.Owned) {task : Task}
    (onDevice : ∀ pc, task = .device pc → pc.reserves = false)
    (onSession : ∀ s pc, task = .on s pc → pc.tail = false) : (d.spawn task).Owned := by
  refine owned.of_idle rfl rfl (fun _ => rfl) ?_ ?_
  · rintro j ⟨pc, found, reserves⟩
    rcases spawn_eq_device found with same | earlier
    · rw [onDevice pc same] at reserves
      contradiction
    · exact ⟨pc, earlier, reserves⟩
  · intro j s pc found tail
    rcases spawn_eq_on found with ⟨_, same⟩ | ⟨_, earlier⟩
    · rw [onSession s pc same] at tail
      contradiction
    · exact earlier

theorem Owned.move (owned : d.Owned) {task : Task}
    (onDevice : ∀ pc, task = .device pc → pc.reserves = true → d.Owns (.caller i))
    (onSession : ∀ s pc, task ≠ .on s pc) : (d.setTask i task).Owned := by
  refine owned.of_idle rfl rfl (fun _ => rfl) ?_ ?_
  · rintro j ⟨pc, found, reserves⟩
    rcases setTask_eq_device found with ⟨rfl, same⟩ | ⟨_, earlier⟩
    · exact onDevice pc same reserves
    · exact ⟨pc, earlier, reserves⟩
  · intro j s pc found tail
    rcases setTask_eq_on found with ⟨_, same⟩ | ⟨_, earlier⟩
    · exact absurd same (onSession s pc)
    · exact earlier

theorem Owned.reserve (owned : d.Owned) (free : d.busy = false) {pc : DevicePc} :
    ((d.setBusy true).setTask i (.device pc)).Owned := by
  have none : ∀ owner, ¬ d.Owns owner := by
    intro owner owns
    rw [owned.busy owner owns] at free
    contradiction
  have only : ∀ owner, ((d.setBusy true).setTask i (.device pc)).Owns owner →
      owner = .caller i := by
    intro owner owns
    cases owner with
    | caller j =>
        obtain ⟨pc, found, reserves⟩ := owns
        rcases setTask_eq_device found with ⟨rfl, _⟩ | ⟨_, earlier⟩
        · rfl
        · exact absurd ⟨pc, earlier, reserves⟩ (none (.caller j))
    | session s =>
        obtain ⟨inRange, opened | ⟨j, pc, found, tail⟩⟩ := owns
        · exact absurd ⟨inRange, .inl opened⟩ (none (.session s))
        · rcases setTask_eq_on found with ⟨_, impossible⟩ | ⟨_, earlier⟩
          · contradiction
          · exact absurd ⟨inRange, .inr ⟨j, pc, earlier, tail⟩⟩ (none (.session s))
  exact ⟨fun _ _ => rfl, fun owner other owns others => (only owner owns).trans
    (only other others).symm⟩

private theorem Owned.handOver (owned : d.Owned) {pc : DevicePc}
    (at_pc : d.tasks i = .device pc) (reserves : pc.reserves = true) {first : Pc} :
    ((d.create i).setTask i (.on d.created first)).Owned := by
  have mine : d.Owns (.caller i) := ⟨pc, at_pc, reserves⟩
  have only : ∀ owner, ((d.create i).setTask i (.on d.created first)).Owns owner →
      owner = .session d.created := by
    intro owner owns
    cases owner with
    | caller j =>
        obtain ⟨other, found, otherReserves⟩ := owns
        rcases setTask_eq_device found with ⟨_, impossible⟩ | ⟨different, earlier⟩
        · contradiction
        · have same := owned.unique (.caller j) (.caller i) ⟨other, earlier, otherReserves⟩ mine
          injection same with same
          exact absurd same different
    | session s =>
        by_cases new : s = d.created
        · rw [new]
        · have impossible : d.Owns (.session s) := by
            obtain ⟨inRange, why⟩ := owns
            change s < d.created + 1 at inRange
            change (Function.update d.sessions d.created (.fresh i) s).closed = false ∨ _ at why
            rw [Function.update_of_ne new] at why
            refine ⟨by unfold SessionId at *; omega, ?_⟩
            rcases why with opened | ⟨j, pending, found, tail⟩
            · exact .inl opened
            · rcases setTask_eq_on found with ⟨_, same⟩ | ⟨_, earlier⟩
              · injection same with same
                exact absurd same.symm new
              · exact .inr ⟨j, pending, earlier, tail⟩
          have same := owned.unique _ _ impossible mine
          contradiction
  exact ⟨fun _ _ => owned.busy _ mine, fun owner other owns others =>
    (only owner owns).trans (only other others).symm⟩

private theorem Owned.giveBack (owned : d.Owned) {pc : DevicePc} (at_pc : d.tasks i = .device pc)
    (reserves : pc.reserves = true) : ((d.setBusy false).setTask i .done).Owned := by
  have mine : d.Owns (.caller i) := ⟨pc, at_pc, reserves⟩
  refine .of_none fun owner owns => ?_
  cases owner with
  | caller j =>
      obtain ⟨other, found, otherReserves⟩ := owns
      rcases setTask_eq_device found with ⟨_, impossible⟩ | ⟨different, earlier⟩
      · contradiction
      · have same := owned.unique (.caller j) (.caller i) ⟨other, earlier, otherReserves⟩ mine
        injection same with same
        exact different same
  | session s =>
      have impossible : d.Owns (.session s) := by
        obtain ⟨inRange, opened | ⟨j, pending, found, tail⟩⟩ := owns
        · exact ⟨inRange, .inl opened⟩
        · rcases setTask_eq_on found with ⟨_, impossible⟩ | ⟨_, earlier⟩
          · contradiction
          · exact ⟨inRange, .inr ⟨j, pending, earlier, tail⟩⟩
      have same := owned.unique _ _ impossible mine
      contradiction

theorem Owned.stepDevice (owned : d.Owned) {env : Env} {pc : DevicePc}
    (at_pc : d.tasks i = .device pc) : (d.stepDevice i env pc).Owned := by
  have finish : (d.setTask i .done).Owned := owned.move (by simp) (by simp)
  cases pc with
  | swapBusy candidates policy =>
      simp only [Device.stepDevice]
      split
      · exact finish
      · next free =>
          exact owned.reserve (by simp_all)
  | configure candidates policy =>
      simp only [Device.stepDevice]
      split
      · exact owned.handOver at_pc rfl
      · exact owned.move (fun _ _ _ => ⟨_, at_pc, rfl⟩) (by simp)
  | configureFailed => exact owned.giveBack at_pc rfl
  | closeLoadBusy =>
      simp only [Device.stepDevice]
      split
      · exact finish
      · exact owned.move (by simp [DevicePc.reserves]) (by simp)
  | closeStore =>
      have moved : (d.setTask i (.device .closeRelease)).Owned :=
        owned.move (by simp [DevicePc.reserves]) (by simp)
      exact moved.of_same rfl rfl rfl rfl
  | closeRelease =>
      exact finish.of_same rfl rfl rfl rfl

theorem Owned.step (owned : d.Owned) (facts : locks.Holds d) (starts : trying.Holds d)
    (numbered : d.Numbered) {a : Action} (taken : d.step a = some d') : d'.Owned := by
  cases a with
  | start candidates policy =>
      simp only [Device.step] at taken
      split at taken
      · cases taken
        have called : (d.spawn (.device (.swapBusy candidates policy))).Owned :=
          owned.spawn (by simp [DevicePc.reserves]) (by simp)
        exact called.of_same rfl rfl rfl rfl
      · contradiction
  | closeCamera =>
      simp only [Device.step] at taken
      split at taken
      · cases taken
        have called : (d.spawn (.device .closeLoadBusy)).Owned :=
          owned.spawn (by simp [DevicePc.reserves]) (by simp)
        exact called.of_same rfl rfl rfl rfl
      · contradiction
  | close s =>
      simp only [Device.step] at taken
      split at taken
      · cases taken
        exact owned.spawn (by simp) (by simp [Pc.tail])
      · contradiction
  | drop s =>
      simp only [Device.step] at taken
      split at taken
      · cases taken
        have dropped : (d.setInner s { d.sessions s with handle := false }).Owned := by
          refine owned.of_idle rfl rfl ?_ (fun _ owns => owns) fun _ _ _ found _ => found
          intro r
          change (Function.update d.sessions s _ r).closed = _
          by_cases same : r = s
          · rw [same, Function.update_self]
          · rw [Function.update_of_ne same]
        exact dropped.spawn (by simp) (by simp [Pc.tail])
      · contradiction
  | backendStop =>
      cases taken
      exact owned.of_same rfl rfl rfl rfl
  | traffic metrics stats =>
      cases taken
      exact owned.of_same rfl rfl rfl rfl
  | run i env =>
      cases at_pc : d.tasks i with
      | absent => simp [Device.step, at_pc] at taken
      | done => simp [Device.step, at_pc] at taken
      | device pc =>
          simp only [Device.step, at_pc, Option.some.injEq] at taken
          subst taken
          exact owned.stepDevice at_pc
      | on s pc =>
          simp only [Device.step, at_pc, Option.map_eq_some_iff] at taken
          obtain ⟨⟨after, effect⟩, access, rfl⟩ := taken
          exact owned.run facts starts numbered (next_edge access) at_pc

end Device

private theorem owned_holds {d : Device} (reached : machine.Reachable startsWhileOpen.admits d) :
    d.Owned := by
  have known : ∀ d, machine.Reachable startsWhileOpen.admits d →
      d.Numbered ∧ locks.Holds d ∧ trying.Holds d :=
    fun d reached => ⟨.reachable reached, locks_hold reached, trying_holds reached⟩
  refine Lib.Machine.Reachable.invariant_under known ?_ ?_ reached
  · rintro d ⟨native, rfl⟩
    refine .of_none fun owner owns => ?_
    cases owner with
    | caller i =>
        obtain ⟨_, found, _⟩ := owns
        contradiction
    | session s => exact absurd owns.1 (Nat.not_lt_zero s)
  · intro d a d' _ ⟨numbered, facts, starts⟩ _ taken owned
    exact owned.step facts starts numbered taken

/-- Device exclusivity in every run in which no start task finds its session
closed when it gets the lock. -/
theorem exclusive_while_open {d : Device}
    (reached : machine.Reachable startsWhileOpen.admits d) : d.Exclusive :=
  (owned_holds reached).exclusive

theorem exclusive_while_open_started :
    ∃ d, machine.Reachable startsWhileOpen.admits d ∧ d.Live 0 ∧ d.Exclusive := by
  have passed : ((machine.exec startsWhileOpen.allows {} ([Action.start 1 none] ++
      List.replicate 4 (Action.run 0 {}) ++ [Action.run 1 {}])).any fun d =>
        decide (d.Live 0)) = true := by
    decide +kernel
  obtain ⟨d, reached, live⟩ := Lib.Machine.Reachable.of_exec machine_opened passed
  exact ⟨d, reached, of_decide_eq_true live, exclusive_while_open reached⟩

/-! ### What goes wrong otherwise -/

/-- The first start is cancelled after it spawned its start task; the stop task
of its guard closes session 0 and gives `busy` back before the start task gets
the lock; session 1 starts; then the start task of session 0 runs its failure
branch and clears `busy`, so that a third start succeeds. -/
def overtakenStart : List Action :=
  [Action.start 1 none, .run 0 {}, .run 0 {}, .run 0 {}, .run 0 {}, .run 0 { cancelled := true }] ++
  List.replicate 8 (Action.run 0 {}) ++ List.replicate 12 (Action.run 2 {}) ++
  [Action.start 1 none, .run 3 {}, .run 3 {}] ++ List.replicate 8 (Action.run 1 {}) ++
  [Action.run 3 { cancelled := true }] ++ List.replicate 7 (Action.run 3 {}) ++
  [Action.start 1 none, .run 5 {}, .run 5 {}]

private theorem overtakenStart_two_live :
    ((machine.exec (fun _ _ => true) {} overtakenStart).any fun d =>
      decide (d.Live 1 ∧ d.Live 2)) = true := by
  decide +kernel

theorem not_always_exclusive :
    ¬ ∀ d, machine.Reachable Lib.Machine.anything d → d.Exclusive := by
  intro always
  obtain ⟨d, reached, live⟩ :=
    Lib.Machine.Reachable.of_exec machine_opened overtakenStart_two_live
  obtain ⟨first, second⟩ := of_decide_eq_true live
  have same := (always d (reached.mono fun _ _ _ => trivial)).1 1 2 first second
  contradiction

end CameraRs.Session
