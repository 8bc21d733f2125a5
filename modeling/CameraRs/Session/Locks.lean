/-
The `lifecycle` lock and the flags `stopping` and `closed`.

`Edge` lists what one access can do to them. From it follows, for every
interleaving, that a task inside a `lifecycle` section holds the lock, that the
session is open while `stop` or the recovery loop works on it, and that `closed`
is never stored before `stopping`.
-/

import CameraRs.Session.Interference

namespace CameraRs.Session

def Pc.holdsLock : Pc → Bool
  | .startTask (.lock _) => false
  | .startTask _ => true
  | .stop .lock | .stop (.returned _) => false
  | .stop .blockingHubStop | .stop .blockingDeviceStop => false
  | .stop _ => true
  | .recovery _ .upgrade | .recovery _ .wait | .recovery _ (.loadStopping _)
  | .recovery _ (.lock _) => false
  | .recovery _ _ => true
  | _ => false

/-- `stop` or the recovery loop has seen the session open under the lock and has
not stored `closed` since. -/
def Pc.guarded : Pc → Bool
  | .stop .storeStopping | .stop .disableRecovery | .stop .endRecovery | .stop .hubStop
  | .stop .sourceStop | .stop (.terminalMetrics _) | .stop (.storeClosed _) => true
  | .recovery _ (.loadStoppingLocked _) | .recovery _ .storeBusy
  | .recovery _ .unlockContinue | .recovery _ .unlockBreak => false
  | .recovery vars pc => (Pc.recovery vars pc).holdsLock
  | _ => false

def Pc.trying : Pc → Bool
  | .startTask (.lock _) | .startTask (.setStopped _) | .startTask (.storeBusy _)
  | .startTask (.send _) | .startTask .unlock => false
  | .startTask _ => true
  | _ => false

def Pc.armed : Pc → Bool
  | .stop .storeStopping => false
  | .stop pc => (Pc.stop pc).guarded
  | .startTask (.storeClosed _) => true
  | .recovery _ .disableRecovery | .recovery _ .endRecoveryFailed | .recovery _ .hubStop
  | .recovery _ .finalStop | .recovery _ .terminalMetrics | .recovery _ .storeClosed => true
  | _ => false

/-- The task has stored `closed` and has not released `busy`. -/
def Pc.tail : Pc → Bool
  | .stop (.setState _) | .stop (.storeBusy _) => true
  | .startTask (.setStopped _) | .startTask (.storeBusy _) => true
  | .recovery _ .storeBusy => true
  | _ => false

def Pc.entry : Pc → Bool
  | .stop .lock | .startTask (.lock _) | .recovery _ .upgrade => true
  | .stop .blockingHubStop => true
  | _ => false

theorem Pc.entry_cases {pc : Pc} (entry : pc.entry = true) :
    pc = .stop .lock ∨ (∃ candidates, pc = .startTask (.lock candidates)) ∨
      (∃ vars, pc = .recovery vars .upgrade) ∨ pc = .stop .blockingHubStop := by
  unfold Pc.entry at entry
  split at entry
  · exact .inl rfl
  · exact .inr (.inl ⟨_, rfl⟩)
  · exact .inr (.inr (.inl ⟨_, rfl⟩))
  · exact .inr (.inr (.inr rfl))
  · contradiction

theorem Pc.tail_holdsLock {pc : Pc} (tail : pc.tail = true) : pc.holdsLock = true := by
  unfold Pc.tail at tail
  split at tail <;> first | rfl | contradiction

theorem Pc.guarded_holdsLock {pc : Pc} (guarded : pc.guarded = true) :
    pc.holdsLock = true := by
  unfold Pc.guarded at guarded
  split at guarded <;> first | rfl | contradiction | exact guarded

theorem Pc.trying_holdsLock {pc : Pc} (trying : pc.trying = true) :
    pc.holdsLock = true := by
  cases pc with
  | startTask pc => cases pc <;> first | rfl | contradiction
  | _ => contradiction

def Effect.holds (before : Bool) : Effect → Bool
  | .lock => true
  | .unlock => false
  | _ => before

/-- What an access that leads from `pc` to `after` can be, as far as the lock and
the flags go. -/
structure Edge (inner : SessionInner) (pc : Pc) (effect : Effect) (after : Pc) : Prop where
  holding : after.holdsLock = effect.holds pc.holdsLock
  locking : effect = .lock → inner.lifecycle = none
  unlocking : effect = .unlock → pc.holdsLock = true
  guarding : after.guarded = true → effect ≠ .storeClosed ∧
    (pc.guarded = true ∨ inner.closed = false ∨ inner.stopping = false)
  trying : after.trying = true → effect ≠ .storeClosed ∧
    (pc.trying = true ∨ effect = .lock ∧ ∃ candidates, pc = .startTask (.lock candidates))
  arming : after.armed = true → effect = .storeStopping ∨ pc.armed = true
  closing : effect = .storeClosed → pc.armed = true ∧ pc.holdsLock = true ∧
    (pc.guarded = true ∨ pc.trying = true) ∧ after.tail = true
  tailing : after.tail = true → effect = .storeClosed ∨ pc.tail = true
  releasing : effect = .releaseBusy → pc.tail = true ∧ after.tail = false
  staying : pc.tail = true → after.tail = true ∨ effect = .releaseBusy
  spawning : ∀ started, effect = .spawn started → started.entry = true

section

attribute [local simp] Pc.holdsLock Pc.guarded Pc.trying Pc.armed Pc.tail Pc.entry
  Effect.holds

variable {native : Bool} {hub : HubView} {inner : SessionInner} {env : Env} {after : Pc}
  {effect : Effect}

private theorem start_edge {pc : StartPc}
    (taken : startNext inner env pc = some (after, effect)) :
    Edge inner (.start pc) effect after := by
  cases pc <;> simp only [startNext] at taken <;> (repeat' split at taken) <;>
    first
    | contradiction
    | (obtain ⟨rfl, rfl⟩ := taken
       constructor <;> simp_all)

private theorem startTask_edge {pc : StartTaskPc}
    (taken : startTaskNext hub inner env pc = some (after, effect)) :
    Edge inner (.startTask pc) effect after := by
  rcases pc with _ | ⟨_ | _⟩ <;> simp only [startTaskNext] at taken <;>
    (repeat' split at taken) <;>
    first
    | contradiction
    | (obtain ⟨rfl, rfl⟩ := taken
       constructor <;> simp_all)

private theorem requestStop_edge {thenStop : Bool} {pc : RequestStopPc}
    (taken : some (requestStopNext inner thenStop pc) = some (after, effect)) :
    Edge inner (.requestStop thenStop pc) effect after := by
  cases pc <;> cases thenStop <;> simp only [requestStopNext] at taken <;>
    (repeat' split at taken) <;>
    (obtain ⟨rfl, rfl⟩ := taken
     constructor <;> simp_all)

private theorem stop_edge {pc : StopPc}
    (taken : stopNext inner env pc = some (after, effect)) :
    Edge inner (.stop pc) effect after := by
  cases pc <;> simp only [stopNext] at taken <;> (repeat' split at taken) <;>
    first
    | contradiction
    | (obtain ⟨rfl, rfl⟩ := taken
       constructor <;> simp_all)

private theorem recovery_edge {vars : RecoveryVars} {pc : RecoveryPc}
    (taken : recoveryNext native hub inner vars env pc = some (after, effect)) :
    Edge inner (.recovery vars pc) effect after := by
  cases pc <;> simp only [recoveryNext] at taken <;> (repeat' split at taken) <;>
    first
    | contradiction
    | (obtain ⟨rfl, rfl⟩ := taken
       constructor <;> simp_all)

theorem next_edge {pc : Pc} (taken : next native hub inner env pc = some (after, effect)) :
    Edge inner pc effect after := by
  cases pc with
  | start pc => exact start_edge taken
  | startTask pc => exact startTask_edge taken
  | dropSession =>
      simp only [next] at taken
      split at taken <;> (obtain ⟨rfl, rfl⟩ := taken; constructor <;> simp)
  | requestStop thenStop pc => exact requestStop_edge taken
  | stop pc => exact stop_edge taken
  | recovery vars pc => exact recovery_edge taken
  | finished => contradiction

end

/-! ### What every interleaving respects -/

structure LockFacts (i : TaskId) (inner : SessionInner) (pc : Pc) : Prop where
  held : pc.holdsLock = true → inner.lifecycle = some i
  opened : pc.guarded = true → inner.closed = false
  ended : pc.tail = true → inner.closed = true
  stopping : pc.armed = true → inner.stopping = true

def locks : Assertion where
  session inner := inner.closed = true → inner.stopping = true
  task := LockFacts

variable {native : Bool} {hub : HubView} {inner : SessionInner} {env : Env} {pc after : Pc}
  {effect : Effect} {i j new : TaskId}

namespace Effect

theorem lifecycle_onInner (effect : Effect) :
    (effect.onInner i new hub inner).lifecycle =
      match effect with
      | .lock => some i
      | .unlock => none
      | _ => inner.lifecycle := by
  cases effect with
  | spawn pc => cases pc <;> rfl
  | _ => rfl

theorem closed_onInner (effect : Effect) :
    (effect.onInner i new hub inner).closed =
      match effect with
      | .storeClosed => true
      | _ => inner.closed := by
  cases effect with
  | spawn pc => cases pc <;> rfl
  | _ => rfl

theorem stopping_onInner (effect : Effect) :
    (effect.onInner i new hub inner).stopping =
      match effect with
      | .storeStopping => true
      | _ => inner.stopping := by
  cases effect with
  | spawn pc => cases pc <;> rfl
  | _ => rfl

theorem closed_stays (effect : Effect) (closed : inner.closed = true) :
    (effect.onInner i new hub inner).closed = true := by
  rw [closed_onInner]
  split
  · rfl
  · exact closed

theorem stopping_stays (effect : Effect) (stopping : inner.stopping = true) :
    (effect.onInner i new hub inner).stopping = true := by
  rw [stopping_onInner]
  split
  · rfl
  · exact stopping

theorem closed_unless (different : effect ≠ .storeClosed) :
    (effect.onInner i new hub inner).closed = inner.closed := by
  rw [closed_onInner]
  split
  · contradiction
  · rfl

end Effect

private theorem Edge.held_beside (edge : Edge inner pc effect after) (facts : LockFacts i inner pc)
    (different : j ≠ i) (held : inner.lifecycle = some j) :
    (effect.onInner i new hub inner).lifecycle = some j := by
  rw [Effect.lifecycle_onInner]
  split
  · rw [edge.locking rfl] at held
    contradiction
  · rw [facts.held (edge.unlocking rfl)] at held
    exact absurd (Option.some.inj held).symm different
  · exact held

private theorem locks_stable {rule : Discipline} : Assertion.Stable rule .top locks where
  fresh _ closed := closed
  starting _ _ _ := ⟨nofun, nofun, nofun, nofun⟩
  closeCall _ _ _ _ _ := ⟨nofun, nofun, nofun, nofun⟩
  dropCall _ _ _ _ _ := ⟨nofun, nofun, nofun, nofun⟩
  dropped _ holds := holds
  droppedTask _ _ _ facts := ⟨facts.held, facts.opened, facts.ended, facts.stopping⟩
  session {i new _ hub inner _ _ _ effect} _ _ holds facts _ taken := by
    have edge := next_edge taken
    intro closed
    rw [Effect.closed_onInner] at closed
    split at closed
    · exact Effect.stopping_stays _ (facts.stopping (edge.closing rfl).1)
    · exact Effect.stopping_stays _ (holds closed)
  task {i new _ hub inner _ pc after effect} _ _ holds facts _ taken := by
    have edge := next_edge taken
    constructor
    · intro held
      rw [edge.holding] at held
      rw [Effect.lifecycle_onInner]
      cases effect with
      | lock => rfl
      | unlock => contradiction
      | _ => exact facts.held held
    · intro guarded
      obtain ⟨notClosing, why⟩ := edge.guarding guarded
      rw [Effect.closed_unless notClosing]
      rcases why with before | opened | running
      · exact facts.opened before
      · exact opened
      · by_contra closed
        rw [holds (Bool.eq_true_of_not_eq_false closed)] at running
        contradiction
    · intro tail
      rcases edge.tailing tail with rfl | before
      · rfl
      · exact Effect.closed_stays _ (facts.ended before)
    · intro armed
      rcases edge.arming armed with rfl | before
      · rfl
      · exact Effect.stopping_stays _ (facts.stopping before)
  spawned _ _ _ _ taken := by
    rcases Pc.entry_cases ((next_edge taken).spawning _ rfl) with
      rfl | ⟨_, rfl⟩ | ⟨_, rfl⟩ | rfl <;>
      exact ⟨nofun, nofun, nofun, nofun⟩
  other different _ _ _ facts _ taken _ waiting _ := by
    have edge := next_edge taken
    constructor
    · intro held
      exact edge.held_beside facts different (waiting.held held)
    · intro guarded
      rw [Effect.closed_unless]
      · exact waiting.opened guarded
      · -- only the holder of the lock stores `closed`
        rintro rfl
        have mine := facts.held (edge.closing rfl).2.1
        rw [waiting.held (Pc.guarded_holdsLock guarded)] at mine
        exact different (Option.some.inj mine)
    · intro tail
      exact Effect.closed_stays _ (waiting.ended tail)
    · intro armed
      exact Effect.stopping_stays _ (waiting.stopping armed)

theorem locks_hold {rule : Discipline} {d : Device}
    (reached : machine.Reachable rule.admits d) : locks.Holds d :=
  locks_stable.reachable (fun _ _ => Assertion.Holds.top) reached

end CameraRs.Session
