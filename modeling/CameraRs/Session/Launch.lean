/-
How `start_inner` hands a session over.

Only the future that created a session spawns its start task, waits for its
answer and sets the state to `Streaming`. Nobody stops a session before that
unless the future has dropped the receiving end of the answer first. So a
session that was launched has a start task with nothing left to do but to give
the lock back.
-/

import CameraRs.Session.Locks

namespace CameraRs.Session

namespace Pc

def isStart : Pc → Bool
  | .start _ => true
  | _ => false

def isStartTask : Pc → Bool
  | .startTask _ => true
  | _ => false

def isRecovery : Pc → Bool
  | .recovery _ _ => true
  | _ => false

def early : Pc → Bool
  | .start (.applyOptions _ _) | .start (.spawnTask _ _) => true
  | _ => false

def beforeLaunch : Pc → Bool
  | .start (.applyOptions _ _) | .start (.spawnTask _ _) | .start (.awaitResult _)
  | .start (.setStreaming _) => true
  | _ => false

def answered : Pc → Bool
  | .start (.setStreaming _) | .start (.captureMode _) | .start (.enableRecovery _)
  | .start (.spawnRecovery _) | .start .disarm => true
  | _ => false

def committed : Pc → Bool
  | .start (.captureMode _) | .start (.enableRecovery _) | .start (.spawnRecovery _)
  | .start .disarm => true
  | _ => false

def presend : Pc → Bool
  | .startTask .unlock => false
  | .startTask _ => true
  | _ => false

def closer : Pc → Bool
  | .dropSession | .requestStop _ _ | .stop _ => true
  | _ => false

theorem early_isStart {pc : Pc} (early : pc.early = true) : pc.isStart = true := by
  unfold Pc.early at early
  split at early <;> first | rfl | contradiction

theorem beforeLaunch_isStart {pc : Pc} (before : pc.beforeLaunch = true) :
    pc.isStart = true := by
  unfold Pc.beforeLaunch at before
  split at before <;> first | rfl | contradiction

private theorem answered_isStart {pc : Pc} (answered : pc.answered = true) : pc.isStart = true := by
  unfold Pc.answered at answered
  split at answered <;> first | rfl | contradiction

theorem committed_isStart {pc : Pc} (committed : pc.committed = true) :
    pc.isStart = true := by
  unfold Pc.committed at committed
  split at committed <;> first | rfl | contradiction

theorem presend_isStartTask {pc : Pc} (presend : pc.presend = true) :
    pc.isStartTask = true := by
  unfold Pc.presend at presend
  split at presend <;> first | rfl | contradiction

end Pc

/-- What an access can be, as far as the launch protocol goes. -/
structure LaunchEdge (inner : SessionInner) (pc : Pc) (effect : Effect) (after : Pc) :
    Prop where
  caller : after.isStart = true → pc.isStart = true
  starter : after.isStartTask = true → pc.isStartTask = true
  recovery : after.isRecovery = true → pc.isRecovery = true
  early : after.early = true → pc.early = true ∧ ∀ started, effect ≠ .spawn started
  before : after.beforeLaunch = true →
    pc.beforeLaunch = true ∧ effect ≠ .launch ∧ effect ≠ .dropReceiver
  answered : after.answered = true → pc.answered = true ∨ inner.outcome = some (.ok ())
  committed : after.committed = true → pc.committed = true ∨ effect = .launch
  presend : after.presend = true → pc.presend = true ∧ ∀ result, effect ≠ .send result
  closer : after.closer = true → pc.closer = true ∨ effect = .dropReceiver
  launching : effect = .launch → pc.beforeLaunch = true ∧ pc.answered = true
  dropping : effect = .dropReceiver → pc.isStart = true
  sending : ∀ result, effect = .send result → pc.presend = true
  handing : effect = .handOut → pc.committed = true
  spawning : ∀ started, effect = .spawn started →
    started.isStart = false ∧
    (started.isStartTask = true → pc.early = true) ∧
    (started.isRecovery = true → pc.committed = true) ∧
    (started.closer = true → pc.closer = true)

section

attribute [local simp] Pc.isStart Pc.isStartTask Pc.isRecovery Pc.early Pc.beforeLaunch
  Pc.answered Pc.committed Pc.presend Pc.closer

variable {native : Bool} {hub : HubView} {inner : SessionInner} {env : Env} {after : Pc}
  {effect : Effect}

private theorem start_launchEdge {pc : StartPc}
    (taken : startNext inner env pc = some (after, effect)) :
    LaunchEdge inner (.start pc) effect after := by
  cases pc <;> simp only [startNext] at taken <;> (repeat' split at taken) <;>
    first
    | contradiction
    | (obtain ⟨rfl, rfl⟩ := taken
       constructor <;> simp_all)

private theorem startTask_launchEdge {pc : StartTaskPc}
    (taken : startTaskNext hub inner env pc = some (after, effect)) :
    LaunchEdge inner (.startTask pc) effect after := by
  rcases pc with _ | ⟨_ | _⟩ <;> simp only [startTaskNext] at taken <;>
    (repeat' split at taken) <;>
    first
    | contradiction
    | (obtain ⟨rfl, rfl⟩ := taken
       constructor <;> simp)

private theorem requestStop_launchEdge {thenStop : Bool} {pc : RequestStopPc}
    (taken : some (requestStopNext inner thenStop pc) = some (after, effect)) :
    LaunchEdge inner (.requestStop thenStop pc) effect after := by
  cases pc <;> cases thenStop <;> simp only [requestStopNext] at taken <;>
    (repeat' split at taken) <;>
    (obtain ⟨rfl, rfl⟩ := taken
     constructor <;> simp)

private theorem stop_launchEdge {pc : StopPc}
    (taken : stopNext inner env pc = some (after, effect)) :
    LaunchEdge inner (.stop pc) effect after := by
  cases pc <;> simp only [stopNext] at taken <;> (repeat' split at taken) <;>
    first
    | contradiction
    | (obtain ⟨rfl, rfl⟩ := taken
       constructor <;> simp)

private theorem recovery_launchEdge {vars : RecoveryVars} {pc : RecoveryPc}
    (taken : recoveryNext native hub inner vars env pc = some (after, effect)) :
    LaunchEdge inner (.recovery vars pc) effect after := by
  cases pc <;> simp only [recoveryNext] at taken <;> (repeat' split at taken) <;>
    first
    | contradiction
    | (obtain ⟨rfl, rfl⟩ := taken
       constructor <;> simp)

theorem next_launchEdge {pc : Pc}
    (taken : next native hub inner env pc = some (after, effect)) :
    LaunchEdge inner pc effect after := by
  cases pc with
  | start pc => exact start_launchEdge taken
  | startTask pc => exact startTask_launchEdge taken
  | dropSession =>
      simp only [next] at taken
      split at taken <;> (obtain ⟨rfl, rfl⟩ := taken; constructor <;> simp)
  | requestStop thenStop pc => exact requestStop_launchEdge taken
  | stop pc => exact stop_launchEdge taken
  | recovery vars pc => exact recovery_launchEdge taken
  | finished => contradiction

end

/-! ### The protocol -/

structure LaunchFacts (i : TaskId) (inner : SessionInner) (pc : Pc) : Prop where
  caller : pc.isStart = true → inner.caller = i
  starter : pc.isStartTask = true → inner.starter = some i
  recovery : pc.isRecovery = true → inner.launched = true
  early : pc.early = true → inner.starter = none ∧ inner.outcome = none
  before : pc.beforeLaunch = true → inner.launched = false ∧ inner.receiver = true
  answered : pc.answered = true → inner.outcome = some (.ok ())
  committed : pc.committed = true → inner.launched = true
  presend : pc.presend = true → inner.outcome = none
  closer : pc.closer = true → inner.launched = true ∨ inner.receiver = false

def launch : Assertion where
  session inner :=
    (inner.handle = true → inner.launched = true) ∧
    (inner.launched = true → inner.outcome = some (.ok ()))
  task := LaunchFacts

variable {hub : HubView} {inner : SessionInner} {pc after : Pc} {effect : Effect}
  {i j new : TaskId}

namespace Effect

theorem caller_onInner (effect : Effect) :
    (effect.onInner i new hub inner).caller = inner.caller := by
  cases effect with
  | spawn pc => cases pc <;> rfl
  | _ => rfl

theorem starter_onInner (effect : Effect) :
    (effect.onInner i new hub inner).starter =
      match effect with
      | .spawn (.startTask _) => some new
      | _ => inner.starter := by
  cases effect with
  | spawn pc => cases pc <;> rfl
  | _ => rfl

theorem outcome_onInner (effect : Effect) :
    (effect.onInner i new hub inner).outcome =
      match effect with
      | .send result => some result
      | _ => inner.outcome := by
  cases effect with
  | spawn pc => cases pc <;> rfl
  | _ => rfl

theorem launched_onInner (effect : Effect) :
    (effect.onInner i new hub inner).launched =
      match effect with
      | .launch => true
      | _ => inner.launched := by
  cases effect with
  | spawn pc => cases pc <;> rfl
  | _ => rfl

theorem receiver_onInner (effect : Effect) :
    (effect.onInner i new hub inner).receiver =
      match effect with
      | .dropReceiver => false
      | _ => inner.receiver := by
  cases effect with
  | spawn pc => cases pc <;> rfl
  | _ => rfl

theorem handle_onInner (effect : Effect) :
    (effect.onInner i new hub inner).handle =
      match effect with
      | .handOut => true
      | _ => inner.handle := by
  cases effect with
  | spawn pc => cases pc <;> rfl
  | _ => rfl

theorem launched_stays (effect : Effect) (launched : inner.launched = true) :
    (effect.onInner i new hub inner).launched = true := by
  rw [launched_onInner]
  split
  · rfl
  · exact launched

theorem receiver_stays (effect : Effect) (dropped : inner.receiver = false) :
    (effect.onInner i new hub inner).receiver = false := by
  rw [receiver_onInner]
  split
  · rfl
  · exact dropped

end Effect

theorem LaunchFacts.outcome_stays (edge : LaunchEdge inner pc effect after)
    (facts : LaunchFacts i inner pc) {result : CameraResult Unit}
    (sent : inner.outcome = some result) :
    (effect.onInner i new hub inner).outcome = some result := by
  rw [Effect.outcome_onInner]
  split
  · rw [facts.presend (edge.sending _ rfl)] at sent
    contradiction
  · exact sent

theorem LaunchFacts.closing_stays (effect : Effect)
    (facts : inner.launched = true ∨ inner.receiver = false) :
    (effect.onInner i new hub inner).launched = true ∨
      (effect.onInner i new hub inner).receiver = false := by
  rcases facts with launched | dropped
  · exact .inl (effect.launched_stays launched)
  · exact .inr (effect.receiver_stays dropped)

private theorem launch_session (edge : LaunchEdge inner pc effect after)
    (holds : launch.session inner) (facts : LaunchFacts i inner pc) :
    launch.session (effect.onInner i new hub inner) := by
  constructor
  · intro handle
    rw [Effect.handle_onInner] at handle
    split at handle
    · exact Effect.launched_stays _ (facts.committed (edge.handing rfl))
    · exact Effect.launched_stays _ (holds.1 handle)
  · intro launched
    rw [Effect.launched_onInner] at launched
    split at launched
    · exact facts.outcome_stays edge (facts.answered (edge.launching rfl).2)
    · exact facts.outcome_stays edge (holds.2 launched)

theorem launch_task (edge : LaunchEdge inner pc effect after) (facts : LaunchFacts i inner pc) :
    LaunchFacts i (effect.onInner i new hub inner) after where
  caller later := by
    rw [Effect.caller_onInner]
    exact facts.caller (edge.caller later)
  starter later := by
    have mine := facts.starter (edge.starter later)
    rw [Effect.starter_onInner]
    split
    · next started =>
        -- a start task does not spawn another one
        have early := (edge.spawning (.startTask started) rfl).2.1 rfl
        rw [(facts.early early).1] at mine
        contradiction
    · exact mine
  recovery later := Effect.launched_stays _ (facts.recovery (edge.recovery later))
  early later := by
    obtain ⟨early, silent⟩ := edge.early later
    obtain ⟨noStarter, noOutcome⟩ := facts.early early
    rw [Effect.starter_onInner, Effect.outcome_onInner]
    constructor
    · split
      · exact absurd rfl (silent _)
      · exact noStarter
    · split
      · next result =>
          have starting := Pc.presend_isStartTask (edge.sending result rfl)
          rw [facts.starter starting] at noStarter
          contradiction
      · exact noOutcome
  before later := by
    obtain ⟨before, notLaunching, notDropping⟩ := edge.before later
    obtain ⟨waiting, receiving⟩ := facts.before before
    rw [Effect.launched_onInner, Effect.receiver_onInner]
    cases effect <;> first | exact ⟨waiting, receiving⟩ | contradiction
  answered later := by
    rcases edge.answered later with before | sent
    · exact facts.outcome_stays edge (facts.answered before)
    · exact facts.outcome_stays edge sent
  committed later := by
    rcases edge.committed later with before | rfl
    · exact Effect.launched_stays _ (facts.committed before)
    · rfl
  presend later := by
    obtain ⟨before, silent⟩ := edge.presend later
    rw [Effect.outcome_onInner]
    split
    · exact absurd rfl (silent _)
    · exact facts.presend before
  closer later := by
    rcases edge.closer later with before | rfl
    · exact LaunchFacts.closing_stays _ (facts.closer before)
    · exact .inr rfl

private theorem launch_spawned {started : Pc}
    (edge : LaunchEdge inner pc (.spawn started) after) (facts : LaunchFacts i inner pc) :
    LaunchFacts new ((Effect.spawn started).onInner i new hub inner) started := by
  obtain ⟨notStart, fromEarly, fromCommitted, fromCloser⟩ := edge.spawning started rfl
  have never : started.isStart ≠ true := by simp [notStart]
  constructor
  · intro now
    exact absurd now never
  · intro now
    cases started with
    | startTask pc => rfl
    | _ => contradiction
  · intro now
    exact Effect.launched_stays _ (facts.committed (fromCommitted now))
  · intro now
    exact absurd (Pc.early_isStart now) never
  · intro now
    exact absurd (Pc.beforeLaunch_isStart now) never
  · intro now
    exact absurd (Pc.answered_isStart now) never
  · intro now
    exact absurd (Pc.committed_isStart now) never
  · intro now
    rw [Effect.outcome_onInner]
    exact (facts.early (fromEarly (Pc.presend_isStartTask now))).2
  · intro now
    exact LaunchFacts.closing_stays _ (facts.closer (fromCloser now))

/-- The accesses of other tasks: those that the protocol forbids now would need a
second caller or a second start task. -/
theorem launch_other (edge : LaunchEdge inner pc effect after) (facts : LaunchFacts i inner pc)
    (different : j ≠ i) {pending : Pc} (waits : LaunchFacts j inner pending) :
    LaunchFacts j (effect.onInner i new hub inner) pending where
  caller now := by
    rw [Effect.caller_onInner]
    exact waits.caller now
  starter now := by
    have mine := waits.starter now
    rw [Effect.starter_onInner]
    split
    · next started =>
        have early := (edge.spawning (.startTask started) rfl).2.1 rfl
        rw [(facts.early early).1] at mine
        contradiction
    · exact mine
  recovery now := Effect.launched_stays _ (waits.recovery now)
  early now := by
    obtain ⟨noStarter, noOutcome⟩ := waits.early now
    rw [Effect.starter_onInner, Effect.outcome_onInner]
    constructor
    · split
      · next started =>
          have early := (edge.spawning (.startTask started) rfl).2.1 rfl
          have mine := facts.caller (Pc.early_isStart early)
          rw [waits.caller (Pc.early_isStart now)] at mine
          contradiction
      · exact noStarter
    · split
      · next result =>
          have mine := facts.starter (Pc.presend_isStartTask (edge.sending result rfl))
          rw [noStarter] at mine
          contradiction
      · exact noOutcome
  before now := by
    obtain ⟨waiting, receiving⟩ := waits.before now
    have theirs := waits.caller (Pc.beforeLaunch_isStart now)
    rw [Effect.launched_onInner, Effect.receiver_onInner]
    constructor
    · split
      · have mine := facts.caller (Pc.beforeLaunch_isStart (edge.launching rfl).1)
        rw [theirs] at mine
        contradiction
      · exact waiting
    · split
      · have mine := facts.caller (edge.dropping rfl)
        rw [theirs] at mine
        contradiction
      · exact receiving
  answered now := facts.outcome_stays edge (waits.answered now)
  committed now := Effect.launched_stays _ (waits.committed now)
  presend now := by
    rw [Effect.outcome_onInner]
    split
    · next result =>
        have mine := facts.starter (Pc.presend_isStartTask (edge.sending result rfl))
        rw [waits.starter (Pc.presend_isStartTask now)] at mine
        exact absurd (Option.some.inj mine) different
    · exact waits.presend now
  closer now := LaunchFacts.closing_stays _ (waits.closer now)

private theorem launch_stable {rule : Discipline} : Assertion.Stable rule .top launch where
  fresh _ := ⟨nofun, nofun⟩
  starting _ _ _ := by
    constructor <;> simp [SessionInner.fresh, Pc.isStart, Pc.isStartTask, Pc.isRecovery,
      Pc.answered, Pc.committed, Pc.presend, Pc.closer]
  closeCall _ _ handle _ holds := by
    constructor <;> simp [Pc.isStart, Pc.isStartTask, Pc.isRecovery, Pc.early, Pc.beforeLaunch,
      Pc.answered, Pc.committed, Pc.presend, holds.1 handle]
  dropCall _ _ handle _ holds := by
    constructor <;> simp [Pc.isStart, Pc.isStartTask, Pc.isRecovery, Pc.early, Pc.beforeLaunch,
      Pc.answered, Pc.committed, Pc.presend, holds.1 handle]
  dropped _ holds := ⟨nofun, holds.2⟩
  droppedTask _ _ _ facts := ⟨facts.caller, facts.starter, facts.recovery, facts.early,
    facts.before, facts.answered, facts.committed, facts.presend, facts.closer⟩
  session _ _ holds facts _ taken := launch_session (next_launchEdge taken) holds facts
  task _ _ _ facts _ taken := launch_task (next_launchEdge taken) facts
  spawned _ _ _ facts taken := launch_spawned (next_launchEdge taken) facts
  other different _ _ _ facts _ taken _ waits _ :=
    launch_other (next_launchEdge taken) facts different waits

theorem launch_holds {rule : Discipline} {d : Device}
    (reached : machine.Reachable rule.admits d) : launch.Holds d :=
  launch_stable.reachable (fun _ _ => Assertion.Holds.top) reached

namespace Device

variable {d d' : Device} {s : SessionId}

theorem closed_step {a : Action} (taken : d.step a = some d') (inRange : s < d.created)
    (closed : (d.sessions s).closed = true) : (d'.sessions s).closed = true := by
  rcases step_inner taken inRange with same | same | ⟨_, _, _, _, effect, _, _, _, same⟩
  · rw [same]
    exact closed
  · rw [same]
    exact closed
  · rw [same]
    exact effect.closed_stays closed

theorem launched_step {a : Action} (taken : d.step a = some d') (inRange : s < d.created)
    (launched : (d.sessions s).launched = true) : (d'.sessions s).launched = true := by
  rcases step_inner taken inRange with same | same | ⟨_, _, _, _, effect, _, _, _, same⟩
  · rw [same]
    exact launched
  · rw [same]
    exact launched
  · rw [same]
    exact effect.launched_stays launched

theorem Numbered.launched (numbered : d.Numbered) (launched : (d.sessions s).launched = true) :
    s < d.created := by
  by_contra outside
  rw [numbered.ahead s (Nat.le_of_not_lt outside)] at launched
  contradiction

end Device

/-! ### A session is open when it is launched -/

namespace Pc

/-- The start task has not decided yet whether its attempt has failed. -/
def hopeful : Pc → Bool
  | .startTask (.sourceStop _) | .startTask (.storeStopping _) | .startTask (.storeClosed _)
  | .startTask (.setStopped _) | .startTask (.storeBusy _) | .startTask (.send _)
  | .startTask .unlock => false
  | .startTask _ => true
  | _ => false

def failing : Pc → Option (CameraResult Unit)
  | .startTask (.sourceStop result) | .startTask (.storeStopping result)
  | .startTask (.storeClosed result) | .startTask (.setStopped result)
  | .startTask (.storeBusy result) => some result
  | _ => none

def sends : Pc → Option (CameraResult Unit)
  | .startTask (.send result) => some result
  | _ => none

theorem hopeful_isStartTask {pc : Pc} (hopeful : pc.hopeful = true) :
    pc.isStartTask = true := by
  cases pc <;> first | rfl | contradiction

theorem failing_presend {pc : Pc} {result : CameraResult Unit}
    (failing : pc.failing = some result) : pc.presend = true := by
  unfold Pc.failing at failing
  split at failing <;> first | rfl | contradiction

end Pc

structure CalmEdge (inner : SessionInner) (pc : Pc) (effect : Effect) (after : Pc) :
    Prop where
  storing : effect = .storeStopping ∨ effect = .storeClosed →
    pc.closer = true ∨ pc.isRecovery = true ∨ ∃ result, pc.failing = some result
  hopeful : after.hopeful = true →
    pc.hopeful = true ∧ effect ≠ .storeStopping ∧ effect ≠ .storeClosed
  failing : ∀ result, after.failing = some result → pc.failing = some result ∨
    pc.hopeful = true ∧ (inner.receiver = true → inner.stopping = false → result ≠ .ok ())
  sends : ∀ result, after.sends = some result → pc.failing = some result ∨
    pc.hopeful = true ∧ effect = .read
  sending : ∀ result, effect = .send result → pc.sends = some result

section

attribute [local simp] Pc.closer Pc.isRecovery Pc.hopeful Pc.failing Pc.sends

variable {native : Bool} {env : Env}

private theorem startTask_calmEdge {pc : StartTaskPc}
    (taken : startTaskNext hub inner env pc = some (after, effect)) :
    CalmEdge inner (.startTask pc) effect after := by
  rcases pc with _ | ⟨_ | _⟩ <;> simp only [startTaskNext] at taken <;>
    (repeat' split at taken) <;>
    first
    | contradiction
    | (obtain ⟨rfl, rfl⟩ := taken
       constructor <;> simp_all)

private theorem calmEdge_of_launchEdge (edge : LaunchEdge inner pc effect after)
    (other : pc.isStartTask = false)
    (storing : effect = .storeStopping ∨ effect = .storeClosed →
      pc.closer = true ∨ pc.isRecovery = true) : CalmEdge inner pc effect after := by
  have notStartTask : after.isStartTask ≠ true := by
    intro later
    rw [edge.starter later] at other
    contradiction
  constructor
  · intro stores
    rcases storing stores with closer | recovery
    · exact .inl closer
    · exact .inr (.inl recovery)
  · intro later
    exact absurd (Pc.hopeful_isStartTask later) notStartTask
  · intro result later
    exact absurd (Pc.presend_isStartTask (Pc.failing_presend later)) notStartTask
  · intro result later
    cases after <;> contradiction
  · intro result sends
    rw [Pc.presend_isStartTask (edge.sending result sends)] at other
    contradiction

theorem next_calmEdge (taken : next native hub inner env pc = some (after, effect)) :
    CalmEdge inner pc effect after := by
  have edge := next_launchEdge taken
  cases pc with
  | startTask pc => exact startTask_calmEdge taken
  | start pc =>
      refine calmEdge_of_launchEdge edge rfl ?_
      cases pc <;> simp only [next, startNext] at taken <;> (repeat' split at taken) <;>
        first
        | contradiction
        | (obtain ⟨rfl, rfl⟩ := taken; simp)
  | finished => contradiction
  | _ => exact calmEdge_of_launchEdge edge rfl fun _ => by simp

end

/-- Nobody but the start task acts for the session. -/
def SessionInner.quiet (inner : SessionInner) : Prop :=
  inner.launched = false ∧ inner.receiver = true

structure CalmFacts (inner : SessionInner) (pc : Pc) : Prop where
  hopeful : inner.quiet → pc.hopeful = true → inner.stopping = false ∧ inner.closed = false
  failing : inner.quiet → pc.failing ≠ some (.ok ())
  sends : inner.quiet → pc.sends = some (.ok ()) → inner.stopping = false ∧ inner.closed = false

def calm : Assertion where
  session inner := inner.quiet →
    (inner.starter = none → inner.stopping = false ∧ inner.closed = false) ∧
    (inner.outcome = some (.ok ()) → inner.stopping = false ∧ inner.closed = false)
  task _ := CalmFacts

theorem Effect.quiet_before (quiet : (effect.onInner i new hub inner).quiet) : inner.quiet := by
  obtain ⟨waiting, receiving⟩ := quiet
  constructor
  · by_contra launched
    rw [effect.launched_stays (Bool.eq_true_of_not_eq_false launched)] at waiting
    contradiction
  · by_contra dropped
    rw [effect.receiver_stays (Bool.eq_false_of_not_eq_true dropped)] at receiving
    contradiction

theorem Effect.stopping_unless (different : effect ≠ .storeStopping) :
    (effect.onInner i new hub inner).stopping = inner.stopping := by
  rw [stopping_onInner]
  split
  · contradiction
  · rfl

private theorem LaunchFacts.quiet_storing (facts : LaunchFacts i inner pc)
    (edge : CalmEdge inner pc effect after) (quiet : inner.quiet)
    (storing : effect = .storeStopping ∨ effect = .storeClosed) : pc.presend = true := by
  obtain ⟨waiting, receiving⟩ := quiet
  rcases edge.storing storing with closer | recovery | ⟨result, failing⟩
  · rcases facts.closer closer with launched | dropped
    · rw [launched] at waiting
      contradiction
    · rw [dropped] at receiving
      contradiction
  · rw [facts.recovery recovery] at waiting
    contradiction
  · exact Pc.failing_presend failing

theorem calm_flags (facts : LaunchFacts i inner pc) (edge : CalmEdge inner pc effect after)
    (quiet : inner.quiet) (notMine : pc.presend = false) :
    (effect.onInner i new hub inner).stopping = inner.stopping ∧
      (effect.onInner i new hub inner).closed = inner.closed := by
  have silent : ¬ (effect = .storeStopping ∨ effect = .storeClosed) := by
    intro storing
    rw [facts.quiet_storing edge quiet storing] at notMine
    contradiction
  exact ⟨Effect.stopping_unless fun same => silent (.inl same),
    Effect.closed_unless fun same => silent (.inr same)⟩

private theorem calm_stable {rule : Discipline} : Assertion.Stable rule launch calm where
  fresh _ _ := ⟨fun _ => ⟨rfl, rfl⟩, nofun⟩
  starting _ _ _ := ⟨nofun, nofun, nofun⟩
  closeCall _ _ _ _ _ := ⟨nofun, nofun, nofun⟩
  dropCall _ _ _ _ _ := ⟨nofun, nofun, nofun⟩
  dropped _ holds := holds
  droppedTask _ _ _ facts := ⟨facts.hopeful, facts.failing, facts.sends⟩
  session {i new _ hub inner _ pc after effect} _ facts holds calm _ taken := by
    have edge := next_calmEdge taken
    intro later
    have quiet := Effect.quiet_before later
    obtain ⟨unstarted, answered⟩ := holds quiet
    constructor
    · intro noStarter
      rw [Effect.starter_onInner] at noStarter
      split at noStarter
      · contradiction
      · have notMine : pc.presend = false := by
          by_contra presend
          rw [facts.starter (Pc.presend_isStartTask (Bool.eq_true_of_not_eq_false presend))]
            at noStarter
          contradiction
        obtain ⟨stopping, closed⟩ := calm_flags facts edge quiet notMine
        rw [stopping, closed]
        exact unstarted noStarter
    · intro sent
      rw [Effect.outcome_onInner] at sent
      split at sent
      · have sends := edge.sending _ rfl
        injection sent with result
        rw [result] at sends
        exact calm.sends quiet sends
      · have notMine : pc.presend = false := by
          by_contra presend
          rw [facts.presend (Bool.eq_true_of_not_eq_false presend)] at sent
          contradiction
        obtain ⟨stopping, closed⟩ := calm_flags facts edge quiet notMine
        rw [stopping, closed]
        exact answered sent
  task {i new _ hub inner _ pc after effect} _ facts _ calm _ taken := by
    have edge := next_calmEdge taken
    constructor
    · intro later hopeful
      obtain ⟨before, notStopping, notClosing⟩ := edge.hopeful hopeful
      rw [Effect.stopping_unless notStopping, Effect.closed_unless notClosing]
      exact calm.hopeful (Effect.quiet_before later) before
    · intro later failing
      have quiet := Effect.quiet_before later
      rcases edge.failing _ failing with before | ⟨hopeful, notOk⟩
      · exact calm.failing quiet before
      · exact notOk quiet.2 (calm.hopeful quiet hopeful).1 rfl
    · intro later sends
      have quiet := Effect.quiet_before later
      rcases edge.sends _ sends with before | ⟨hopeful, rfl⟩
      · exact absurd before (calm.failing quiet)
      · exact calm.hopeful quiet hopeful
  spawned {i new _ hub inner _ pc after started} _ facts holds _ taken := by
    have edge := next_launchEdge taken
    rcases Pc.entry_cases ((next_edge taken).spawning _ rfl) with
      rfl | ⟨_, rfl⟩ | ⟨_, rfl⟩ | rfl
    · exact ⟨nofun, nofun, nofun⟩
    · refine ⟨fun quiet _ => ?_, nofun, nofun⟩
      have early := facts.early ((edge.spawning _ rfl).2.1 rfl)
      exact (holds quiet).1 early.1
    · exact ⟨nofun, nofun, nofun⟩
    · exact ⟨nofun, nofun, nofun⟩
  other {i j new _ hub inner _ pc after effect pending} different _ facts _ _ _ taken waits
      calm _ := by
    have edge := next_calmEdge taken
    have untouched : inner.quiet → pending.isStartTask = true →
        (effect.onInner i new hub inner).stopping = inner.stopping ∧
          (effect.onInner i new hub inner).closed = inner.closed := by
      intro quiet starting
      refine calm_flags facts edge quiet ?_
      by_contra presend
      have mine := facts.starter (Pc.presend_isStartTask (Bool.eq_true_of_not_eq_false presend))
      rw [waits.starter starting] at mine
      exact different (Option.some.inj mine)
    constructor
    · intro later hopeful
      have quiet := Effect.quiet_before later
      obtain ⟨stopping, closed⟩ := untouched quiet (Pc.hopeful_isStartTask hopeful)
      rw [stopping, closed]
      exact calm.hopeful quiet hopeful
    · intro later
      exact calm.failing (Effect.quiet_before later)
    · intro later sends
      have quiet := Effect.quiet_before later
      have starting : pending.isStartTask = true := by
        cases pending <;> first | rfl | contradiction
      obtain ⟨stopping, closed⟩ := untouched quiet starting
      rw [stopping, closed]
      exact calm.sends quiet sends

theorem calm_holds {rule : Discipline} {d : Device}
    (reached : machine.Reachable rule.admits d) : calm.Holds d :=
  calm_stable.reachable (fun _ reached => launch_holds reached) reached

end CameraRs.Session
