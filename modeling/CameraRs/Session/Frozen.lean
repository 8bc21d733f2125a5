/-
Views of a session that is closed.

`metrics` and `stats` read the hub until a terminal snapshot is stored. Whoever closes
a session that was handed out stores the snapshot first, under the `lifecycle` lock
and only if the session is open, so there is one snapshot and it stays.
-/

import CameraRs.Session.Terminal

namespace CameraRs.Session

/-! ### The views of a `CaptureSession` -/

namespace SessionInner

def metrics (inner : SessionInner) (hub : HubView) : FrameMetrics :=
  match inner.terminalMetrics with
  | some (metrics, _) => metrics
  | none => hub.metrics

def stats (inner : SessionInner) (hub : HubView) : StreamStats :=
  match inner.terminalMetrics with
  | some (_, stats) => stats
  | none => hub.stats

/-- `CaptureSession::latest`, where the hub answers `published`. -/
def latest {Frame : Type} (inner : SessionInner) (published : Option Frame) : Option Frame :=
  if inner.stopping then none else published

def isStreaming (inner : SessionInner) (hub : HubView) : Bool := !inner.stopping && hub.active

end SessionInner

/-! ### The terminal snapshot -/

namespace Pc

/-- The snapshot is stored and `closed` is next. -/
def snapped : Pc → Bool
  | .stop (.storeClosed _) | .recovery _ .storeClosed => true
  | _ => false

/-- `stop` has found the session closed, or has closed it. -/
def concluded : Pc → Bool
  | .stop (.setState _) | .stop (.storeBusy _) | .stop (.unlock _) | .stop (.returned _) => true
  | _ => false

end Pc

/-- What an access can be, as far as the snapshot goes. -/
structure SnapshotEdge (inner : SessionInner) (pc : Pc) (effect : Effect) (after : Pc) :
    Prop where
  snapping : after.snapped = true → effect = .storeTerminalMetrics
  measuring : effect = .storeTerminalMetrics → pc.guarded = true ∧ pc.snapped = false ∧
    after.snapped = true
  closing : effect = .storeClosed → pc.snapped = true ∨ pc.presend = true
  leaving : pc.snapped = true → effect = .storeClosed
  concluding : after.concluded = true →
    pc.concluded = true ∨ effect = .storeClosed ∨ effect = .read ∧ inner.closed = true

section

attribute [local simp] Pc.snapped Pc.concluded Pc.guarded Pc.presend Pc.holdsLock

variable {native : Bool} {hub : HubView} {inner : SessionInner} {env : Env} {after : Pc}
  {effect : Effect}

private theorem start_snapshotEdge {pc : StartPc}
    (taken : startNext inner env pc = some (after, effect)) :
    SnapshotEdge inner (.start pc) effect after := by
  cases pc <;> simp only [startNext] at taken <;> (repeat' split at taken) <;>
    first
    | contradiction
    | (obtain ⟨rfl, rfl⟩ := taken
       constructor <;> simp)

private theorem startTask_snapshotEdge {pc : StartTaskPc}
    (taken : startTaskNext hub inner env pc = some (after, effect)) :
    SnapshotEdge inner (.startTask pc) effect after := by
  rcases pc with _ | ⟨_ | _⟩ <;> simp only [startTaskNext] at taken <;>
    (repeat' split at taken) <;>
    first
    | contradiction
    | (obtain ⟨rfl, rfl⟩ := taken
       constructor <;> simp)

private theorem requestStop_snapshotEdge {thenStop : Bool} {pc : RequestStopPc}
    (taken : some (requestStopNext inner thenStop pc) = some (after, effect)) :
    SnapshotEdge inner (.requestStop thenStop pc) effect after := by
  cases pc <;> cases thenStop <;> simp only [requestStopNext] at taken <;>
    (repeat' split at taken) <;>
    (obtain ⟨rfl, rfl⟩ := taken
     constructor <;> simp)

private theorem stop_snapshotEdge {pc : StopPc}
    (taken : stopNext inner env pc = some (after, effect)) :
    SnapshotEdge inner (.stop pc) effect after := by
  cases pc <;> simp only [stopNext] at taken <;> (repeat' split at taken) <;>
    first
    | contradiction
    | (obtain ⟨rfl, rfl⟩ := taken
       constructor <;> simp_all)

private theorem recovery_snapshotEdge {vars : RecoveryVars} {pc : RecoveryPc}
    (taken : recoveryNext native hub inner vars env pc = some (after, effect)) :
    SnapshotEdge inner (.recovery vars pc) effect after := by
  cases pc <;> simp only [recoveryNext] at taken <;> (repeat' split at taken) <;>
    first
    | contradiction
    | (obtain ⟨rfl, rfl⟩ := taken
       constructor <;> simp)

theorem next_snapshotEdge {pc : Pc}
    (taken : next native hub inner env pc = some (after, effect)) :
    SnapshotEdge inner pc effect after := by
  cases pc with
  | start pc => exact start_snapshotEdge taken
  | startTask pc => exact startTask_snapshotEdge taken
  | dropSession =>
      simp only [next] at taken
      split at taken <;> (obtain ⟨rfl, rfl⟩ := taken; constructor <;> simp)
  | requestStop thenStop pc => exact requestStop_snapshotEdge taken
  | stop pc => exact stop_snapshotEdge taken
  | recovery vars pc => exact recovery_snapshotEdge taken
  | finished => contradiction

end

structure SnapshotFacts (inner : SessionInner) (pc : Pc) : Prop where
  snapped : pc.snapped = true → inner.terminalMetrics.isSome = true
  unsnapped : pc.holdsLock = true → pc.snapped = false →
    inner.terminalMetrics.isSome = true → inner.closed = true
  concluded : pc.concluded = true → inner.closed = true

/-- A session that was handed out is closed with a snapshot, and between the sections
of the lock a snapshot means that the session is closed. -/
def snapshot : Assertion where
  session inner :=
    (inner.launched = true → inner.closed = true → inner.terminalMetrics.isSome = true) ∧
    (inner.lifecycle = none → inner.terminalMetrics.isSome = true → inner.closed = true)
  task _ := SnapshotFacts

variable {hub : HubView} {inner : SessionInner} {pc after pending : Pc} {effect : Effect}
  {i j new : TaskId}

theorem Effect.terminalMetrics_onInner (effect : Effect) :
    (effect.onInner i new hub inner).terminalMetrics =
      match effect with
      | .storeTerminalMetrics => some (hub.metrics, hub.stats)
      | _ => inner.terminalMetrics := by
  cases effect with
  | spawn pc => cases pc <;> rfl
  | _ => rfl

theorem Effect.snapshot_stays (effect : Effect) (taken : inner.terminalMetrics.isSome = true) :
    (effect.onInner i new hub inner).terminalMetrics.isSome = true := by
  rw [Effect.terminalMetrics_onInner]
  split
  · rfl
  · exact taken

theorem snapshot_session (known : groundwork.session inner) (facts : groundwork.task i inner pc)
    (session : snapshot.session inner) (mine : SnapshotFacts inner pc)
    (lockEdge : Edge inner pc effect after) (launchEdge : LaunchEdge inner pc effect after)
    (edge : SnapshotEdge inner pc effect after) :
    snapshot.session (effect.onInner i new hub inner) := by
  constructor
  · intro launched closed
    rw [Effect.launched_onInner] at launched
    rw [Effect.closed_onInner] at closed
    cases effect with
    | launch =>
        rw [(launching_open known facts launchEdge).2] at closed
        contradiction
    | storeClosed =>
        rcases edge.closing rfl with snapped | presend
        · exact Effect.snapshot_stays _ (mine.snapped snapped)
        · rw [launched_sent known.2.1 facts.2.1 launched] at presend
          contradiction
    | _ => exact Effect.snapshot_stays _ (session.1 launched closed)
  · intro released taken
    rw [Effect.lifecycle_onInner] at released
    rw [Effect.terminalMetrics_onInner] at taken
    rw [Effect.closed_onInner]
    cases effect with
    | lock => contradiction
    | unlock =>
        by_cases snapped : pc.snapped = true
        · have impossible := edge.leaving snapped
          contradiction
        · exact mine.unsnapped (lockEdge.unlocking rfl) (by simpa using snapped) taken
    | storeTerminalMetrics =>
        have held := facts.1.held (Pc.guarded_holdsLock (edge.measuring rfl).1)
        rw [held] at released
        contradiction
    | storeClosed => rfl
    | _ => exact session.2 released taken

private theorem snapshot_task (session : snapshot.session inner) (mine : SnapshotFacts inner pc)
    (lockEdge : Edge inner pc effect after) (edge : SnapshotEdge inner pc effect after) :
    SnapshotFacts (effect.onInner i new hub inner) after := by
  constructor
  · intro snapped
    obtain rfl := edge.snapping snapped
    rfl
  · intro held unsnapped taken
    have holding := lockEdge.holding
    rw [held] at holding
    rw [Effect.terminalMetrics_onInner] at taken
    rw [Effect.closed_onInner]
    have still (different : effect ≠ .storeClosed) : pc.snapped = false := by
      by_contra snapped
      exact different (edge.leaving (Bool.eq_true_of_not_eq_false snapped))
    cases effect with
    | lock => exact session.2 (lockEdge.locking rfl) taken
    | unlock => contradiction
    | storeTerminalMetrics =>
        rw [(edge.measuring rfl).2.2] at unsnapped
        contradiction
    | storeClosed => rfl
    | _ => exact mine.unsnapped holding.symm (still (by simp)) taken
  · intro concluded
    rcases edge.concluding concluded with before | rfl | ⟨rfl, closed⟩
    · exact Effect.closed_stays _ (mine.concluded before)
    · rfl
    · exact closed

private theorem snapshot_other (facts : groundwork.task i inner pc) (different : j ≠ i)
    (theirs : groundwork.task j inner pending) (waits : SnapshotFacts inner pending)
    (edge : SnapshotEdge inner pc effect after) :
    SnapshotFacts (effect.onInner i new hub inner) pending := by
  constructor
  · intro snapped
    exact Effect.snapshot_stays _ (waits.snapped snapped)
  · intro held unsnapped taken
    rw [Effect.terminalMetrics_onInner] at taken
    cases effect with
    | storeTerminalMetrics =>
        have holder := facts.1.held (Pc.guarded_holdsLock (edge.measuring rfl).1)
        rw [theirs.1.held held] at holder
        exact absurd (Option.some.inj holder) different
    | _ => exact Effect.closed_stays _ (waits.unsnapped held unsnapped taken)
  · intro concluded
    exact Effect.closed_stays _ (waits.concluded concluded)

theorem snapshot_stable {rule : Discipline} : Assertion.Stable rule groundwork snapshot where
  fresh _ := ⟨nofun, nofun⟩
  starting _ _ _ := ⟨nofun, nofun, nofun⟩
  closeCall _ _ _ _ _ := ⟨nofun, nofun, nofun⟩
  dropCall _ _ _ _ _ := ⟨nofun, nofun, nofun⟩
  dropped _ holds := holds
  droppedTask _ _ _ facts := ⟨facts.snapped, facts.unsnapped, facts.concluded⟩
  session known facts session mine _ taken :=
    snapshot_session known facts session mine (next_edge taken) (next_launchEdge taken)
      (next_snapshotEdge taken)
  task _ _ session mine _ taken :=
    snapshot_task session mine (next_edge taken) (next_snapshotEdge taken)
  spawned _ _ _ _ taken := by
    rcases Pc.entry_cases ((next_edge taken).spawning _ rfl) with
      rfl | ⟨_, rfl⟩ | ⟨_, rfl⟩ | rfl <;>
      exact ⟨nofun, nofun, nofun⟩
  other different _ facts _ _ _ taken theirs waits _ :=
    snapshot_other facts different theirs waits (next_snapshotEdge taken)

theorem snapshot_holds {rule : Discipline} {d : Device}
    (reached : machine.Reachable rule.admits d) : snapshot.Holds d :=
  snapshot_stable.reachable (fun _ reached => groundwork_holds reached) reached

/-! ### Views that no later step changes -/

variable {d d' : Device} {s : SessionId}

private theorem snapshot_once (reached : machine.Reachable Lib.Machine.anything d) {a : Action}
    (inRange : s < d.created) {stored : FrameMetrics × StreamStats}
    (once : (d.sessions s).terminalMetrics = some stored) (taken : d.step a = some d') :
    (d'.sessions s).terminalMetrics = some stored := by
  have free := Discipline.free_reachable reached
  rcases Device.step_inner taken inRange with
    same | same | ⟨i, env, pc, after, effect, rfl, at_pc, made, same⟩
  · rw [same, once]
  · rw [same]
    exact once
  · rw [same, Effect.terminalMetrics_onInner]
    cases effect with
    | storeTerminalMetrics =>
        obtain ⟨guarded, unsnapped, _⟩ := (next_snapshotEdge made).measuring rfl
        have opened := ((locks_hold free).task i s pc at_pc).opened guarded
        have closed := ((snapshot_holds free).task i s pc at_pc).unsnapped
          (Pc.guarded_holdsLock guarded) unsnapped (by rw [once]; rfl)
        rw [opened] at closed
        contradiction
    | _ => exact once

structure Device.Frozen (d : Device) (s : SessionId) (stored : FrameMetrics × StreamStats) :
    Prop where
  launched : (d.sessions s).launched = true
  stopping : (d.sessions s).stopping = true
  stored : (d.sessions s).terminalMetrics = some stored

namespace Device.Frozen

variable {stored : FrameMetrics × StreamStats}

theorem step (reached : machine.Reachable Lib.Machine.anything d) (frozen : d.Frozen s stored)
    {a : Action} (taken : d.step a = some d') : d'.Frozen s stored := by
  have inRange := (Device.Numbered.reachable reached).launched frozen.launched
  refine ⟨Device.launched_step taken inRange frozen.launched, ?_,
    snapshot_once reached inRange frozen.stored taken⟩
  rcases Device.step_inner taken inRange with
    same | same | ⟨i, env, pc, after, effect, rfl, at_pc, made, same⟩
  · rw [same]
    exact frozen.stopping
  · rw [same]
    exact frozen.stopping
  · rw [same]
    exact Effect.stopping_stays _ frozen.stopping

theorem run (reached : machine.Reachable Lib.Machine.anything d) (frozen : d.Frozen s stored)
    {actions : List Action} (run : machine.Run Lib.Machine.anything d actions d') :
    d'.Frozen s stored := by
  induction run with
  | nil => exact frozen
  | snoc before admitted taken ih => exact ih.step (reached.extend before) taken

end Device.Frozen

private theorem launched_run (reached : machine.Reachable Lib.Machine.anything d)
    (launched : (d.sessions s).launched = true) {actions : List Action}
    (run : machine.Run Lib.Machine.anything d actions d') :
    (d'.sessions s).launched = true := by
  induction run with
  | nil => exact launched
  | snoc before admitted taken ih =>
      have inRange := (Device.Numbered.reachable (reached.extend before)).launched ih
      exact Device.launched_step taken inRange ih

private theorem frozen_of_returned (reached : machine.Reachable Lib.Machine.anything d) {i : TaskId}
    {result : CameraResult Unit} (returned : d.returned i = some (s, result))
    (launched : (d.sessions s).launched = true) : ∃ stored, d.Frozen s stored := by
  have free := Discipline.free_reachable reached
  simp only [Device.returned] at returned
  split at returned
  · next r answer at_pc =>
      injection returned with same
      injection same with session same
      subst session same
      have closed := ((snapshot_holds free).task i r _ at_pc).concluded rfl
      obtain ⟨stored, held⟩ := Option.isSome_iff_exists.mp
        (((snapshot_holds free).session r).1 launched closed)
      exact ⟨stored, launched, (locks_hold free).session r closed, held⟩
  · contradiction

/-- After `close` has returned, what the session shows is what it showed then. -/
theorem closed_views_frozen {called ended : Device} {actions later : List Action}
    {result : CameraResult Unit} (reached : machine.Reachable Lib.Machine.anything d)
    (closes : d.step (.close s) = some called)
    (run : machine.Run Lib.Machine.anything called actions ended)
    (returned : ended.returned d.spawned = some (s, result))
    (after : machine.Run Lib.Machine.anything ended later d') :
    (d'.sessions s).metrics d'.hub = (ended.sessions s).metrics ended.hub ∧
    (d'.sessions s).stats d'.hub = (ended.sessions s).stats ended.hub ∧
    (∀ (Frame : Type) (published : Option Frame), (d'.sessions s).latest published = none) ∧
    (d'.sessions s).isStreaming d'.hub = false := by
  have handle : (d.sessions s).handle = true := by
    simp only [Device.step] at closes
    split at closes
    · next handle => exact handle
    · contradiction
  have free := Discipline.free_reachable reached
  have launched := ((launch_holds free).session s).1 handle
  have first : machine.Run Lib.Machine.anything d [.close s] called := .single trivial closes
  have there := (reached.extend first).extend run
  have stays := launched_run reached launched (first.trans run)
  obtain ⟨stored, frozen⟩ := frozen_of_returned there returned stays
  have still := frozen.run there after
  refine ⟨?_, ?_, ?_, ?_⟩
  · rw [SessionInner.metrics, still.stored, SessionInner.metrics, frozen.stored]
  · rw [SessionInner.stats, still.stored, SessionInner.stats, frozen.stored]
  · intro Frame published
    rw [SessionInner.latest, if_pos still.stopping]
  · rw [SessionInner.isStreaming, still.stopping]
    rfl

/-- A later session on the device counts frames of its own. -/
theorem closed_views_frozen_later :
    ∃ d called ended d' : Device,
      machine.Reachable Lib.Machine.anything d ∧ d.step (.close 0) = some called ∧
      machine.Run Lib.Machine.anything called (List.replicate 19 (.run d.spawned {})) ended ∧
      ended.returned d.spawned = some (0, .ok ()) ∧
      machine.Run Lib.Machine.anything ended
        [.start 1 none, .traffic { published := 9 } {}, .backendStop] d' ∧
      (d'.hub.metrics.published = 9 ∧ ((ended.sessions 0).metrics ended.hub).published = 5) ∧
      (d'.sessions 0).metrics d'.hub = (ended.sessions 0).metrics ended.hub ∧
      (d'.sessions 0).stats d'.hub = (ended.sessions 0).stats ended.hub ∧
      (∀ (Frame : Type) (published : Option Frame), (d'.sessions 0).latest published = none) ∧
      (d'.sessions 0).isStreaming d'.hub = false := by
  have passed : ((machine.exec (fun _ _ => true) {}
      (startedOnce ++ [.traffic { published := 5 } {}])).any fun d =>
        (d.step (.close 0)).any fun called =>
          (machine.exec (fun _ _ => true) called (List.replicate 19 (.run d.spawned {}))).any
            fun ended => decide (ended.returned d.spawned = some (0, .ok ()) ∧
              ((ended.sessions 0).metrics ended.hub).published = 5) &&
              (machine.exec (fun _ _ => true) ended
                [.start 1 none, .traffic { published := 9 } {}, .backendStop]).any
                  fun d' => decide (d'.hub.metrics.published = 9)) = true := by
    decide +kernel
  obtain ⟨d, reached, passed⟩ := Lib.Machine.Reachable.of_exec machine_opened passed
  obtain ⟨called, closes, passed⟩ := (Option.any_eq_true _ _).mp passed
  obtain ⟨ended, run, passed⟩ := Lib.Machine.run_of_passed passed
  obtain ⟨answers, passed⟩ := Bool.and_eq_true_iff.mp passed
  obtain ⟨returned, five⟩ := of_decide_eq_true answers
  obtain ⟨d', later, nine⟩ := Lib.Machine.run_of_passed passed
  have anyhow := reached.mono fun _ _ _ => (trivial : Lib.Machine.anything _ _)
  have ran := run.mono fun _ _ _ => (trivial : Lib.Machine.anything _ _)
  have followed := later.mono fun _ _ _ => (trivial : Lib.Machine.anything _ _)
  exact ⟨d, called, ended, d', anyhow, closes, ran, returned, followed,
    ⟨of_decide_eq_true nine, five⟩, closed_views_frozen anyhow closes ran returned followed⟩

end CameraRs.Session
