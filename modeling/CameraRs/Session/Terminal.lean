/-
Terminal session states.

`request_stop` sets `Stopping` outside the `lifecycle` lock, `stop` and the
recovery loop write `Stopped` and `Failed` under it. When no `request_stop` is
between its checks and that write while a terminal state is set, a terminal
state stays and every `close` that returns has returned what the state says.
-/

import CameraRs.Session.Launch

namespace CameraRs.Session

namespace Pc

def asked : Pc → Bool
  | .requestStop _ .setStopping => true
  | _ => false

def closing : Pc → Bool
  | .stop (.setState _) => true
  | _ => false

/-- Terminal state and `closed` disagree: `stop` is about to write the state, or
the recovery loop has written `Failed` and has not stored `closed`. -/
def gap : Pc → Bool
  | .stop (.setState _) => true
  | .recovery _ .storeStopping | .recovery _ .disableRecovery
  | .recovery _ .endRecoveryFailed | .recovery _ .hubStop | .recovery _ .finalStop
  | .recovery _ .terminalMetrics | .recovery _ .storeClosed => true
  | _ => false

/-- What `stop` is about to return, once the terminal state is written. -/
def result : Pc → Option (CameraResult Unit)
  | .stop (.storeBusy result) | .stop (.unlock result) | .stop (.returned result) =>
      some result
  | _ => none

end Pc

def settlesUndisturbed : Discipline where
  own inner pc _ :=
    match pc with
    | .requestStop _ .loadClosed => inner.closed || !inner.state.isTerminal
    | _ => true
  beside effect other :=
    match effect with
    | .setState state => !(state.isTerminal && other.asked)
    | _ => true

structure StateEdge (inner : SessionInner) (pc : Pc) (effect : Effect) (after : Pc) :
    Prop where
  gapping : after.holdsLock = true →
    match effect with
    | .lock => after.gap = false
    | .storeClosed => pc.presend = true ∨ after.gap = !pc.gap
    | .setState state => pc.presend = true ∨
        pc.tail = true ∧ state.isTerminal = true ∧ after.gap = false ∨
        pc.guarded = true ∧ state.isTerminal = after.gap
    | .launch => False
    | _ => after.gap = pc.gap
  leaving : effect = .unlock → pc.gap = false
  writing : ∀ state, effect = .setState state → pc.presend = true ∨
    pc.asked = true ∧ state.isTerminal = false ∨
    pc.closing = true ∨ pc.guarded = true ∧ pc.gap = false
  asking : after.asked = true →
    effect = .read ∧ inner.closed = false ∧ ∃ thenStop, pc = .requestStop thenStop .loadClosed
  resulting : ∀ result, after.result = some result →
    pc.result = some result ∧ (∀ state, effect ≠ .setState state) ∧ effect ≠ .launch ∨
    effect = .read ∧ pc.holdsLock = true ∧ pc.gap = false ∧ inner.closed = true ∧
      inner.state.closeResult = result ∨
    ∃ state, effect = .setState state ∧ state.isTerminal = true ∧ state.closeResult = result

section

attribute [local simp] Pc.asked Pc.closing Pc.gap Pc.result Pc.holdsLock Pc.tail Pc.guarded
  Pc.presend SessionState.isTerminal SessionState.closeResult

variable {native : Bool} {hub : HubView} {inner : SessionInner} {env : Env} {after : Pc}
  {effect : Effect}

private theorem start_stateEdge {pc : StartPc}
    (taken : startNext inner env pc = some (after, effect)) :
    StateEdge inner (.start pc) effect after := by
  cases pc <;> simp only [startNext] at taken <;> (repeat' split at taken) <;>
    first
    | contradiction
    | (obtain ⟨rfl, rfl⟩ := taken
       constructor <;> simp)

private theorem startTask_stateEdge {pc : StartTaskPc}
    (taken : startTaskNext hub inner env pc = some (after, effect)) :
    StateEdge inner (.startTask pc) effect after := by
  rcases pc with _ | ⟨_ | _⟩ <;> simp only [startTaskNext] at taken <;>
    (repeat' split at taken) <;>
    first
    | contradiction
    | (obtain ⟨rfl, rfl⟩ := taken
       constructor <;> simp)

private theorem requestStop_stateEdge {thenStop : Bool} {pc : RequestStopPc}
    (taken : some (requestStopNext inner thenStop pc) = some (after, effect)) :
    StateEdge inner (.requestStop thenStop pc) effect after := by
  cases pc <;> cases thenStop <;> simp only [requestStopNext] at taken <;>
    (repeat' split at taken) <;>
    (obtain ⟨rfl, rfl⟩ := taken
     constructor <;> simp_all)

private theorem stop_stateEdge {pc : StopPc}
    (taken : stopNext inner env pc = some (after, effect)) :
    StateEdge inner (.stop pc) effect after := by
  cases pc with
  | setState result =>
      obtain ⟨rfl, rfl⟩ := taken
      cases result <;> constructor <;> simp
  | _ =>
      simp only [stopNext] at taken
      (repeat' split at taken) <;>
        first
        | contradiction
        | (obtain ⟨rfl, rfl⟩ := taken
           constructor <;> simp_all)

private theorem recovery_stateEdge {vars : RecoveryVars} {pc : RecoveryPc}
    (taken : recoveryNext native hub inner vars env pc = some (after, effect)) :
    StateEdge inner (.recovery vars pc) effect after := by
  cases pc <;> simp only [recoveryNext] at taken <;> (repeat' split at taken) <;>
    first
    | contradiction
    | (obtain ⟨rfl, rfl⟩ := taken
       constructor <;> simp)

theorem next_stateEdge {pc : Pc} (taken : next native hub inner env pc = some (after, effect)) :
    StateEdge inner pc effect after := by
  cases pc with
  | start pc => exact start_stateEdge taken
  | startTask pc => exact startTask_stateEdge taken
  | dropSession =>
      simp only [next] at taken
      split at taken <;> (obtain ⟨rfl, rfl⟩ := taken; constructor <;> simp)
  | requestStop thenStop pc => exact requestStop_stateEdge taken
  | stop pc => exact stop_stateEdge taken
  | recovery vars pc => exact recovery_stateEdge taken
  | finished => contradiction

end

/-! ### Agreement of state and `closed` -/

structure SettledFacts (inner : SessionInner) (pc : Pc) : Prop where
  agreeing : inner.launched = true → pc.holdsLock = true →
    inner.state.isTerminal = (inner.closed != pc.gap)
  asked : inner.launched = true → pc.asked = true → inner.state.isTerminal = false
  result : inner.launched = true → ∀ result, pc.result = some result →
    inner.state.isTerminal = true ∧ inner.state.closeResult = result

def settled : Assertion where
  session inner := inner.launched = true → inner.lifecycle = none →
    inner.state.isTerminal = inner.closed
  task _ := SettledFacts

/-- What the earlier modules say about every run. -/
def groundwork : Assertion := .both locks (.both launch calm)

variable {hub : HubView} {inner : SessionInner} {pc after pending : Pc} {effect : Effect}
  {i j new : TaskId}

theorem Effect.state_onInner (effect : Effect) :
    (effect.onInner i new hub inner).state =
      match effect with
      | .setState state => state
      | .launch => .streaming
      | _ => inner.state := by
  cases effect with
  | spawn pc => cases pc <;> rfl
  | _ => rfl

theorem Pc.closing_tail {pc : Pc} (closing : pc.closing = true) :
    pc.tail = true ∧ pc.gap = true := by
  unfold Pc.closing at closing
  split at closing
  · exact ⟨rfl, rfl⟩
  · contradiction

private theorem Pc.trying_presend {pc : Pc} (trying : pc.trying = true) : pc.presend = true := by
  cases pc with
  | startTask pc => cases pc <;> first | rfl | contradiction
  | _ => contradiction

private theorem Pc.result_closer {pc : Pc} {result : CameraResult Unit}
    (returning : pc.result = some result) : pc.closer = true := by
  cases pc <;> first | rfl | contradiction

theorem launched_sent (session : launch.session inner) (facts : LaunchFacts i inner pc)
    (launched : inner.launched = true) : pc.presend = false := by
  by_contra presend
  have unsent := facts.presend (Bool.eq_true_of_not_eq_false presend)
  rw [session.2 launched] at unsent
  contradiction

theorem writable (known : groundwork.session inner) (facts : groundwork.task i inner pc)
    (settled : SettledFacts inner pc) (edge : StateEdge inner pc effect after)
    (launched : inner.launched = true) {state : SessionState}
    (writes : effect = .setState state) : inner.state.isTerminal = false := by
  rcases edge.writing state writes with presend | ⟨asked, _⟩ | closing | ⟨guarded, gap⟩
  · rw [launched_sent known.2.1 facts.2.1 launched] at presend
    contradiction
  · exact settled.asked launched asked
  · obtain ⟨tail, gap⟩ := Pc.closing_tail closing
    have agreeing := settled.agreeing launched (Pc.tail_holdsLock tail)
    rw [facts.1.ended tail, gap] at agreeing
    exact agreeing
  · have agreeing := settled.agreeing launched (Pc.guarded_holdsLock guarded)
    rw [facts.1.opened guarded, gap] at agreeing
    exact agreeing

theorem writer_holds (known : groundwork.session inner) (facts : groundwork.task i inner pc)
    (edge : StateEdge inner pc effect after) (launched : inner.launched = true)
    {state : SessionState} (writes : effect = .setState state) :
    inner.lifecycle = some i ∨ state.isTerminal = false := by
  rcases edge.writing state writes with presend | ⟨_, running⟩ | closing | ⟨guarded, _⟩
  · rw [launched_sent known.2.1 facts.2.1 launched] at presend
    contradiction
  · exact .inr running
  · exact .inl (facts.1.held (Pc.tail_holdsLock (Pc.closing_tail closing).1))
  · exact .inl (facts.1.held (Pc.guarded_holdsLock guarded))

theorem launching_open (known : groundwork.session inner) (facts : groundwork.task i inner pc)
    (edge : LaunchEdge inner pc .launch after) : inner.quiet ∧ inner.closed = false := by
  obtain ⟨before, answered⟩ := edge.launching rfl
  have quiet : inner.quiet := facts.2.1.before before
  exact ⟨quiet, ((known.2.2 quiet).2 (facts.2.1.answered answered)).2⟩

theorem launching_running (known : groundwork.session inner)
    (facts : groundwork.task i inner pc) (edge : LaunchEdge inner pc .launch after) :
    inner.stopping = false :=
  ((known.2.2 (launching_open known facts edge).1).2
    (facts.2.1.answered (edge.launching rfl).2)).1

theorem quiet_no_closer (facts : LaunchFacts j inner pending) (quiet : inner.quiet) :
    pending.closer = false := by
  by_contra closer
  rcases facts.closer (Bool.eq_true_of_not_eq_false closer) with launched | dropped
  · rw [quiet.1] at launched
    contradiction
  · rw [quiet.2] at dropped
    contradiction

private theorem settled_session (known : groundwork.session inner)
    (facts : groundwork.task i inner pc) (session : settled.session inner)
    (mine : SettledFacts inner pc) (lockEdge : Edge inner pc effect after)
    (launchEdge : LaunchEdge inner pc effect after)
    (edge : StateEdge inner pc effect after) :
    settled.session (effect.onInner i new hub inner) := by
  intro launched released
  rw [Effect.launched_onInner] at launched
  rw [Effect.lifecycle_onInner] at released
  rw [Effect.state_onInner, Effect.closed_onInner]
  cases effect with
  | launch => exact (launching_open known facts launchEdge).2.symm
  | lock => contradiction
  | unlock =>
      have agreeing := mine.agreeing launched (lockEdge.unlocking rfl)
      rw [edge.leaving rfl] at agreeing
      simpa using agreeing
  | storeClosed =>
      rw [facts.1.held (lockEdge.closing rfl).2.1] at released
      contradiction
  | setState state =>
      rcases writer_holds known facts edge launched rfl with held | running
      · rw [held] at released
        contradiction
      · have before := writable known facts mine edge launched rfl
        rw [session launched released] at before
        exact running.trans before.symm
  | _ => exact session launched released

private theorem settled_agreeing (known : groundwork.session inner)
    (facts : groundwork.task i inner pc) (session : settled.session inner)
    (mine : SettledFacts inner pc) (lockEdge : Edge inner pc effect after)
    (edge : StateEdge inner pc effect after)
    (launched : (effect.onInner i new hub inner).launched = true)
    (held : after.holdsLock = true) :
    (effect.onInner i new hub inner).state.isTerminal =
      ((effect.onInner i new hub inner).closed != after.gap) := by
  have gapping := edge.gapping held
  have holding := lockEdge.holding
  rw [held] at holding
  rw [Effect.launched_onInner] at launched
  rw [Effect.state_onInner, Effect.closed_onInner]
  cases effect with
  | launch => exact gapping.elim
  | lock =>
      have gap : after.gap = false := gapping
      rw [gap, Bool.bne_false]
      exact session launched (lockEdge.locking rfl)
  | unlock => contradiction
  | storeClosed =>
      have sent := launched_sent known.2.1 facts.2.1 launched
      have turns : after.gap = !pc.gap := by
        rcases gapping with presend | turns
        · rw [sent] at presend
          contradiction
        · exact turns
      obtain ⟨_, held, working, _⟩ := lockEdge.closing rfl
      have opened : inner.closed = false := by
        rcases working with guarded | starting
        · exact facts.1.opened guarded
        · rw [Pc.trying_presend starting] at sent
          contradiction
      have agreeing := mine.agreeing launched held
      rw [opened] at agreeing
      rw [turns]
      simpa using agreeing
  | setState state =>
      rcases gapping with presend | ⟨tail, terminal, gap⟩ | ⟨guarded, terminal⟩
      · rw [launched_sent known.2.1 facts.2.1 launched] at presend
        contradiction
      · have ended := facts.1.ended tail
        simp [terminal, ended, gap]
      · have opened := facts.1.opened guarded
        simp [terminal, opened]
  | _ =>
      have same : after.gap = pc.gap := gapping
      rw [same]
      exact mine.agreeing launched holding.symm

private theorem settled_task (known : groundwork.session inner)
    (facts : groundwork.task i inner pc) (session : settled.session inner)
    (mine : SettledFacts inner pc)
    (own : settlesUndisturbed.own inner pc effect = true) (lockEdge : Edge inner pc effect after)
    (launchEdge : LaunchEdge inner pc effect after)
    (edge : StateEdge inner pc effect after) :
    SettledFacts (effect.onInner i new hub inner) after := by
  refine ⟨settled_agreeing known facts session mine lockEdge edge, ?_, ?_⟩
  · intro launched asked
    obtain ⟨rfl, opened, thenStop, rfl⟩ := edge.asking asked
    rw [Effect.state_onInner]
    simpa [settlesUndisturbed, opened] using own
  · intro launched result returning
    rw [Effect.launched_onInner] at launched
    rw [Effect.state_onInner]
    rcases edge.resulting result returning with
      ⟨before, silent, notLaunching⟩ | ⟨rfl, held, gap, closed, answer⟩ | ⟨state, rfl, answer⟩
    · cases effect with
      | setState state => exact absurd rfl (silent state)
      | launch => contradiction
      | _ => exact mine.result launched result before
    · have agreeing := mine.agreeing launched held
      rw [closed, gap] at agreeing
      exact ⟨agreeing, answer⟩
    · exact answer

private theorem settled_other (known : groundwork.session inner)
    (facts : groundwork.task i inner pc) (mine : SettledFacts inner pc)
    (lockEdge : Edge inner pc effect after) (launchEdge : LaunchEdge inner pc effect after)
    (edge : StateEdge inner pc effect after) (different : j ≠ i)
    (theirs : groundwork.task j inner pending) (waits : SettledFacts inner pending)
    (beside : settlesUndisturbed.beside effect pending = true) :
    SettledFacts (effect.onInner i new hub inner) pending := by
  constructor
  · intro launched held
    rw [Effect.launched_onInner] at launched
    rw [Effect.state_onInner, Effect.closed_onInner]
    have holder := theirs.1.held held
    cases effect with
    | launch =>
        obtain ⟨quiet, opened⟩ := launching_open known facts launchEdge
        have gap : pending.gap = false := by
          have idle := quiet_no_closer theirs.2.1 quiet
          cases pending with
          | stop pc => contradiction
          | recovery vars pc =>
              have launched := theirs.2.1.recovery rfl
              rw [quiet.1] at launched
              contradiction
          | _ => rfl
        rw [opened, gap]
        rfl
    | storeClosed =>
        have held := facts.1.held (lockEdge.closing rfl).2.1
        rw [holder] at held
        exact absurd (Option.some.inj held) different
    | setState state =>
        rcases writer_holds known facts edge launched rfl with held | running
        · rw [holder] at held
          exact absurd (Option.some.inj held) different
        · have before := writable known facts mine edge launched rfl
          rw [waits.agreeing launched held] at before
          exact running.trans before.symm
    | _ => exact waits.agreeing launched held
  · intro launched asked
    rw [Effect.launched_onInner] at launched
    rw [Effect.state_onInner]
    cases effect with
    | launch => rfl
    | setState state => simpa [settlesUndisturbed, asked] using beside
    | _ => exact waits.asked launched asked
  · intro launched result returning
    rw [Effect.launched_onInner] at launched
    rw [Effect.state_onInner]
    cases effect with
    | launch =>
        have idle := quiet_no_closer theirs.2.1 (launching_open known facts launchEdge).1
        rw [Pc.result_closer returning] at idle
        contradiction
    | setState state =>
        have before := writable known facts mine edge launched rfl
        rw [(waits.result launched result returning).1] at before
        contradiction
    | _ => exact waits.result launched result returning

private theorem settled_stable : Assertion.Stable settlesUndisturbed groundwork settled where
  fresh _ := nofun
  starting _ _ _ := ⟨nofun, nofun, nofun⟩
  closeCall _ _ _ _ _ := ⟨nofun, nofun, nofun⟩
  dropCall _ _ _ _ _ := ⟨nofun, nofun, nofun⟩
  dropped _ holds := holds
  droppedTask _ _ _ facts := ⟨facts.agreeing, facts.asked, facts.result⟩
  session known facts session mine _ taken :=
    settled_session known facts session mine (next_edge taken) (next_launchEdge taken)
      (next_stateEdge taken)
  task known facts session mine own taken :=
    settled_task known facts session mine own (next_edge taken) (next_launchEdge taken)
      (next_stateEdge taken)
  spawned _ _ _ _ taken := by
    rcases Pc.entry_cases ((next_edge taken).spawning _ rfl) with
      rfl | ⟨_, rfl⟩ | ⟨_, rfl⟩ | rfl <;>
      exact ⟨nofun, nofun, nofun⟩
  other different known facts _ mine _ taken theirs waits beside :=
    settled_other known facts mine (next_edge taken) (next_launchEdge taken)
      (next_stateEdge taken) different theirs waits beside

theorem groundwork_holds {rule : Discipline} {d : Device}
    (reached : machine.Reachable rule.admits d) : groundwork.Holds d :=
  (locks_hold reached).both ((launch_holds reached).both (calm_holds reached))

theorem settled_holds {d : Device} (reached : machine.Reachable settlesUndisturbed.admits d) :
    settled.Holds d :=
  settled_stable.reachable (fun _ reached => groundwork_holds reached) reached

/-! ### Terminal states absorb -/

variable {d d' : Device} {s : SessionId}

private theorem terminal_step (reached : machine.Reachable settlesUndisturbed.admits d)
    (launched : (d.sessions s).launched = true)
    (terminal : (d.sessions s).state.isTerminal = true) {a : Action}
    (taken : d.step a = some d') : (d'.sessions s).state = (d.sessions s).state := by
  have inRange := (Device.Numbered.reachable reached).launched launched
  rcases Device.step_inner taken inRange with
    same | same | ⟨i, env, pc, after, effect, rfl, at_pc, made, same⟩
  · rw [same]
  · rw [same]
  · rw [same, Effect.state_onInner]
    have known := (groundwork_holds reached).session s
    have facts := (groundwork_holds reached).task i s pc at_pc
    cases effect with
    | launch =>
        have quiet := (launching_open known facts (next_launchEdge made)).1
        rw [quiet.1] at launched
        contradiction
    | setState state =>
        have mine := (settled_holds reached).task i s pc at_pc
        rw [writable known facts mine (next_stateEdge made) launched rfl] at terminal
        contradiction
    | _ => rfl

private theorem terminal_run (reached : machine.Reachable settlesUndisturbed.admits d)
    (launched : (d.sessions s).launched = true)
    (terminal : (d.sessions s).state.isTerminal = true) {actions : List Action}
    (run : machine.Run settlesUndisturbed.admits d actions d') :
    (d'.sessions s).state = (d.sessions s).state := by
  have kept : machine.Reachable settlesUndisturbed.admits d' ∧
      (d'.sessions s).launched = true ∧ (d'.sessions s).state = (d.sessions s).state := by
    induction run with
    | nil => exact ⟨reached, launched, rfl⟩
    | @snoc middle finish actions action _ admitted taken ih =>
        obtain ⟨here, launched, same⟩ := ih
        have inRange := (Device.Numbered.reachable here).launched launched
        have taken : middle.step action = some finish := taken
        rw [← same] at terminal
        exact ⟨here.extend (.single admitted taken), Device.launched_step taken inRange launched,
          (terminal_step here launched terminal taken).trans same⟩
  exact kept.2.2

/-- What task `i` returned from `SessionInner::stop`, and for which session. -/
def Device.returned (d : Device) (i : TaskId) : Option (SessionId × CameraResult Unit) :=
  match d.tasks i with
  | .on s (.stop (.returned result)) => some (s, result)
  | _ => none

/-- A `close` that returned `result` left the state terminal and in accord. -/
def Device.ClosesSettled (d : Device) : Prop :=
  ∀ i s result, d.returned i = some (s, result) → (d.sessions s).launched = true →
    (d.sessions s).state.isTerminal = true ∧ (d.sessions s).state.closeResult = result

/-- No admitted run changes the terminal state of a session that was handed out. -/
def Device.TerminalAbsorbs (admits : Device → Action → Prop) (d : Device) : Prop :=
  ∀ s d' actions, (d.sessions s).launched = true →
    (d.sessions s).state.isTerminal = true → machine.Run admits d actions d' →
      (d'.sessions s).state = (d.sessions s).state

theorem settles_undisturbed (reached : machine.Reachable settlesUndisturbed.admits d) :
    d.TerminalAbsorbs settlesUndisturbed.admits ∧ d.ClosesSettled := by
  constructor
  · intro s d' actions launched terminal run
    exact terminal_run reached launched terminal run
  · intro i s result returned launched
    simp only [Device.returned] at returned
    split at returned
    · next r answer at_pc =>
        injection returned with same
        injection same with session same
        subst session same
        exact ((settled_holds reached).task i r _ at_pc).result launched answer rfl
    · contradiction

theorem settles_undisturbed_once :
    ∃ d, machine.Reachable settlesUndisturbed.admits d ∧
      d.returned 2 = some (0, .ok ()) ∧ (d.sessions 0).launched = true ∧
      d.TerminalAbsorbs settlesUndisturbed.admits ∧ d.ClosesSettled := by
  have passed : ((machine.exec settlesUndisturbed.allows {} (startedOnce ++ [Action.close 0] ++
      List.replicate 19 (Action.run 2 {}))).any fun d =>
        decide (d.returned 2 = some (0, .ok ())) && (d.sessions 0).launched) = true := by
    decide +kernel
  obtain ⟨d, reached, ended⟩ := Lib.Machine.Reachable.of_exec machine_opened passed
  obtain ⟨returned, launched⟩ := Bool.and_eq_true_iff.mp ended
  exact ⟨d, reached, of_decide_eq_true returned, launched, settles_undisturbed reached⟩

/-! ### What goes wrong otherwise -/

/-- Two `close` calls. The first is past its checks when the second shuts the
session down and returns; then the first sets `Stopping`. -/
def lateStopping : List Action :=
  startedOnce ++ [Action.close 0, .close 0, .run 2 {}, .run 2 {}] ++
  List.replicate 13 (Action.run 3 {}) ++ [Action.run 2 {}]

/-- The recovery loop has used up its attempts and has written `Failed` when a
`close` call passes its checks. -/
def lateFailure : List Action :=
  [Action.start 1 (some ⟨some 1⟩)] ++ List.replicate 4 (Action.run 0 {}) ++
  List.replicate 11 (Action.run 1 {}) ++ List.replicate 6 (Action.run 0 {}) ++
  List.replicate 11 (Action.run 2 { trigger := some .sourceStalled }) ++
  [Action.run 2 { result := .error .streamStopped }] ++ List.replicate 4 (Action.run 2 {}) ++
  [Action.close 0, .run 3 {}, .run 3 {}]

private theorem lateStopping_returned :
    ((machine.exec (fun _ _ => true) {} lateStopping).any fun d =>
      decide (d.returned 3 = some (0, .ok ())) && (d.sessions 0).launched &&
      !(d.sessions 0).state.isTerminal) = true := by
  decide +kernel

private theorem lateFailure_overwritten :
    ((machine.exec (fun _ _ => true) {} lateFailure).any fun d =>
      (d.sessions 0).launched && (d.sessions 0).state.isTerminal &&
      (d.step (.run 3 {})).any fun d' => !(d'.sessions 0).state.isTerminal) = true := by
  decide +kernel

theorem not_always_settled :
    (¬ ∀ d, machine.Reachable Lib.Machine.anything d →
      d.TerminalAbsorbs Lib.Machine.anything) ∧
    ¬ ∀ d, machine.Reachable Lib.Machine.anything d → d.ClosesSettled := by
  constructor
  · intro always
    obtain ⟨d, reached, late⟩ :=
      Lib.Machine.Reachable.of_exec machine_opened lateFailure_overwritten
    simp only [Bool.and_eq_true] at late
    obtain ⟨⟨launched, terminal⟩, overwritten⟩ := late
    cases taken : d.step (.run 3 {}) with
    | none => simp [taken] at overwritten
    | some d' =>
        simp only [taken, Option.any_some, Bool.not_eq_true'] at overwritten
        have run : machine.Run Lib.Machine.anything d [.run 3 {}] d' := .single trivial taken
        have same := always d (reached.mono fun _ _ _ => trivial) 0 d' _ launched terminal run
        rw [same, terminal] at overwritten
        contradiction
  · intro always
    obtain ⟨d, reached, late⟩ :=
      Lib.Machine.Reachable.of_exec machine_opened lateStopping_returned
    simp only [Bool.and_eq_true, decide_eq_true_eq, Bool.not_eq_true'] at late
    obtain ⟨⟨returned, launched⟩, running⟩ := late
    have settled := (always d (reached.mono fun _ _ _ => trivial) 3 0 _ returned launched).1
    rw [running] at settled
    contradiction

end CameraRs.Session
