/-
The future of `start_inner` is alone with the start task.

Nobody has the session handle before the future returns it, so nobody asks the session
to stop meanwhile, and until the future spawns the recovery task the session has no
other task than the start task.
-/

import CameraRs.Session.Terminal

namespace CameraRs.Session

def StartPc.handsOut : StartPc → Bool
  | .captureMode _ | .enableRecovery _ | .spawnRecovery _ => true
  | _ => false

/-- What an access of `start_inner` can be. -/
structure StartEdge (pc : StartPc) (effect : Effect) (after : Pc) : Prop where
  handing : effect = .handOut → after = .finished
  disarming : pc = .disarm → after = .finished
  spawning : ∀ started, effect = .spawn started →
    started.isStartTask = true ∨ after = .start .disarm
  flags : effect ≠ .storeStopping ∧ effect ≠ .storeClosed
  entering : ∀ later, after = .start later → later.handsOut = true →
    pc.handsOut = true ∨ effect = .launch

section

attribute [local simp] StartPc.handsOut Pc.isStartTask

variable {hub : HubView} {inner : SessionInner} {env : Env} {after : Pc} {effect : Effect}

theorem startNext_edge {pc : StartPc} (taken : startNext inner env pc = some (after, effect)) :
    StartEdge pc effect after := by
  cases pc <;> simp only [startNext] at taken <;> (repeat' split at taken) <;>
    first
    | contradiction
    | (obtain ⟨rfl, rfl⟩ := taken
       constructor <;> simp)

theorem startTaskNext_alone {pc : StartTaskPc}
    (taken : startTaskNext hub inner env pc = some (after, effect)) :
    (after.isStartTask = true ∨ after = .finished) ∧ ∀ started, effect ≠ .spawn started := by
  rcases pc with _ | ⟨_ | _⟩ <;> simp only [startTaskNext] at taken <;>
    (repeat' split at taken) <;>
    first
    | contradiction
    | (obtain ⟨rfl, rfl⟩ := taken
       constructor <;> simp)

end

/-- What holds of a session while `start_inner` runs for it. -/
structure Attended (d : Device) : Prop where
  handle : ∀ c s pc, d.tasks c = .on s (.start pc) → (d.sessions s).handle = false
  alone : ∀ c s pc j pending, d.tasks c = .on s (.start pc) → pc ≠ .disarm → j ≠ c →
    d.tasks j = .on s pending → pending.isStartTask = true ∨ pending = .finished
  opened : ∀ c s pc, d.tasks c = .on s (.start pc) → pc.handsOut = true →
    (d.sessions s).stopping = false ∧ (d.sessions s).closed = false

variable {d d' : Device} {a : Action} {c j : TaskId} {s : SessionId} {pc : StartPc}

theorem Device.start_arises (arises : Device.Arises d a c s (.start pc)) :
    (d.tasks c = .on s (.start pc) ∧ ∀ env, a ≠ .run c env) ∨
    (∃ env before effect, a = .run c env ∧ d.tasks c = .on s (.start before) ∧
      startNext (d.sessions s) env before = some (.start pc, effect)) ∨
    s = d.created ∧ (pc.handsOut = false ∧ (Pc.start pc).beforeLaunch = true) ∧
      ∃ env, a = .run c env := by
  cases arises with
  | kept rests before => exact .inl ⟨before, rests⟩
  | @moved env here _ effect ran at_pc made =>
      have from_start := (next_launchEdge made).caller rfl
      cases here with
      | start before => exact .inr (.inl ⟨env, before, effect, ran, at_pc, made⟩)
      | _ => contradiction
  | spawned ran at_pc new made =>
      have never := ((next_launchEdge made).spawning _ rfl).1
      contradiction
  | created ran new => exact .inr (.inr ⟨new, ⟨rfl, rfl⟩, _, ran⟩)

namespace Attended

theorem nobody (numbered : d.Numbered) {pending : Pc}
    (arises : Device.Arises d a j d.created pending) (other : ∀ env, a ≠ .run j env) : False := by
  cases arises with
  | kept rests before => exact Nat.lt_irrefl _ (numbered.known _ _ _ before)
  | moved ran at_pc made => exact other _ ran
  | spawned ran at_pc new made => exact Nat.lt_irrefl _ (numbered.known _ _ _ at_pc)
  | closing ran handle => exact Nat.lt_irrefl _ (numbered.handled handle)
  | dropping ran handle => exact Nat.lt_irrefl _ (numbered.handled handle)
  | created ran new => exact other _ ran

theorem alone_step (attended : Attended d) (numbered : d.Numbered)
    (taken : d.step a = some d') {pending : Pc} (at_start : d'.tasks c = .on s (.start pc))
    (running : pc ≠ .disarm) (different : j ≠ c) (found : d'.tasks j = .on s pending) :
    pending.isStartTask = true ∨ pending = .finished := by
  have arises := Device.step_task taken found
  rcases Device.start_arises (Device.step_task taken at_start) with
    ⟨before, rests⟩ | ⟨env, first, effect, rfl, before, made⟩ | ⟨rfl, _, env, rfl⟩
  · have alone := fun k other => attended.alone c s pc k other before running
    cases arises with
    | kept _ still => exact alone j _ different still
    | @moved env here _ effect ran at_pc made =>
        rcases alone j here different at_pc with task | finished
        · cases here with
          | startTask task => exact (startTaskNext_alone made).1
          | _ => contradiction
        · rw [finished] at made
          contradiction
    | @spawned i env here after _ ran at_pc new made =>
        have apart : i ≠ c := by
          rintro rfl
          exact rests env ran
        rcases alone i here apart at_pc with task | finished
        · cases here with
          | startTask task => exact absurd rfl ((startTaskNext_alone made).2 _)
          | _ => contradiction
        · rw [finished] at made
          contradiction
    | closing ran handle =>
        rw [attended.handle c s pc before] at handle
        contradiction
    | dropping ran handle =>
        rw [attended.handle c s pc before] at handle
        contradiction
    | created ran new =>
        rw [new] at before
        exact absurd (numbered.known _ _ _ before) (Nat.lt_irrefl _)
  · have moving : first ≠ .disarm := by
      rintro rfl
      have finished := (startNext_edge made).disarming rfl
      contradiction
    cases arises with
    | kept _ still => exact attended.alone c s first j _ before moving different still
    | moved ran at_pc made =>
        injection ran with same
        exact absurd same.symm different
    | @spawned i other here after _ ran at_pc new spawning =>
        obtain ⟨rfl, rfl⟩ := Action.run.inj ran
        obtain ⟨_, same⟩ := Task.on.inj (before.symm.trans at_pc)
        subst same
        have made' : startNext (d.sessions s) env first = some (after, .spawn pending) := spawning
        obtain ⟨rfl, rfl⟩ := Prod.mk.inj (Option.some.inj (made.symm.trans made'))
        rcases (startNext_edge made).spawning pending rfl with task | finished
        · exact .inl task
        · exact absurd (Pc.start.inj finished) running
    | closing ran handle => contradiction
    | dropping ran handle => contradiction
    | created ran new =>
        injection ran with same
        exact absurd same.symm different
  · exact (nobody numbered arises fun env same => different (Action.run.inj same).1.symm).elim

theorem own_inner {env : Env} {first : StartPc} {after : Pc}
    {effect : Effect} (taken : d.step (.run c env) = some d')
    (before : d.tasks c = .on s (.start first))
    (made : startNext (d.sessions s) env first = some (after, effect)) :
    d'.sessions s = effect.onInner c d.spawned d.hub (d.sessions s) := by
  have access : next d.native d.hub (d.sessions s) env (.start first) = some (after, effect) := made
  simp only [Device.step, before, access, Option.map_some, Option.some.injEq] at taken
  rw [← taken]
  change (d.apply c s effect).sessions s = _
  rw [Device.apply_sessions, Function.update_self]

theorem handle_step (attended : Attended d) (numbered : d.Numbered) (launches : launch.Holds d)
    (later : launch.Holds d') (taken : d.step a = some d') (at_start : d'.tasks c = .on s (.start pc)) :
    (d'.sessions s).handle = false := by
  rcases Device.start_arises (Device.step_task taken at_start) with
    ⟨before, rests⟩ | ⟨env, first, effect, rfl, before, made⟩ | ⟨rfl, ⟨_, waiting⟩, env, rfl⟩
  · have off := attended.handle c s pc before
    rcases Device.step_inner taken (numbered.known _ _ _ before) with
      same | same | ⟨k, env, here, after, effect, rfl, at_pc, made, same⟩
    · rw [same, off]
    · rw [same]
    · rw [same, Effect.handle_onInner]
      split
      · -- nobody else is the caller
        have handing := (next_launchEdge made).handing rfl
        have mine := (launches.task k s here at_pc).caller (Pc.committed_isStart handing)
        rw [(launches.task c s _ before).caller rfl] at mine
        exact absurd (by rw [mine]) (rests env)
      · exact off
  · rw [own_inner taken before made, Effect.handle_onInner]
    split
    · have finished := (startNext_edge made).handing rfl
      contradiction
    · exact attended.handle c s first before
  · have fresh := ((later.task c _ _ at_start).before waiting).1
    by_contra handle
    rw [(later.session _).1 (Bool.eq_true_of_not_eq_false handle)] at fresh
    contradiction

private theorem opened_step (attended : Attended d) (numbered : d.Numbered)
    (known : groundwork.Holds d) (taken : d.step a = some d')
    (at_start : d'.tasks c = .on s (.start pc)) (hands : pc.handsOut = true) :
    (d'.sessions s).stopping = false ∧ (d'.sessions s).closed = false := by
  rcases Device.start_arises (Device.step_task taken at_start) with
    ⟨before, rests⟩ | ⟨env, first, effect, rfl, before, made⟩ | ⟨_, ⟨early, _⟩, _⟩
  · have flags := attended.opened c s pc before hands
    have running : pc ≠ .disarm := by
      rintro rfl
      contradiction
    have launched : (d.sessions s).launched = true := by
      have facts := (known.task c s _ before).2.1
      cases pc <;> first | exact facts.committed rfl | contradiction
    rcases Device.step_inner taken (numbered.known _ _ _ before) with
      same | same | ⟨k, env, here, after, effect, rfl, at_pc, made, same⟩
    · rw [same]
      exact flags
    · rw [same]
      exact flags
    · have apart : k ≠ c := by
        rintro rfl
        exact rests env rfl
      have sent := launched_sent (known.session s).2.1 (known.task k s here at_pc).2.1 launched
      rcases attended.alone c s pc k here before running apart at_pc with task | finished
      · -- the start task can only give the lock back
        cases here with
        | startTask counter =>
            cases counter with
            | unlock =>
                obtain ⟨rfl, rfl⟩ := made
                rw [same]
                exact flags
            | _ => contradiction
        | _ => contradiction
      · rw [finished] at made
        contradiction
  · have edge := startNext_edge made
    rw [own_inner taken before made, Effect.stopping_unless edge.flags.1,
      Effect.closed_unless edge.flags.2]
    rcases edge.entering pc rfl hands with earlier | rfl
    · exact attended.opened c s first before earlier
    · have access : next d.native d.hub (d.sessions s) env (.start first) =
          some (.start pc, .launch) := made
      have launching := next_launchEdge access
      have facts := known.task c s _ before
      exact ⟨launching_running (known.session s) facts launching,
        (launching_open (known.session s) facts launching).2⟩
  · rw [early] at hands
    contradiction

theorem reachable (reached : machine.Reachable Discipline.free.admits d) : Attended d := by
  have known : ∀ d, machine.Reachable Discipline.free.admits d →
      d.Numbered ∧ groundwork.Holds d :=
    fun d reached => ⟨Device.Numbered.reachable reached, groundwork_holds reached⟩
  refine Lib.Machine.Reachable.invariant_under known ?_ ?_ reached
  · rintro d ⟨native, rfl⟩
    constructor
    · intro c s pc found
      contradiction
    · intro c s pc j pending found
      contradiction
    · intro c s pc found
      contradiction
  · intro d a d' _ ⟨numbered, here⟩ ⟨_, later⟩ taken attended
    constructor
    · intro c s pc at_start
      exact attended.handle_step numbered ⟨fun s => (here.session s).2.1,
        fun i s pc found => (here.task i s pc found).2.1⟩ ⟨fun s => (later.session s).2.1,
        fun i s pc found => (later.task i s pc found).2.1⟩ taken at_start
    · intro c s pc j pending at_start running different found
      exact attended.alone_step numbered taken at_start running different found
    · intro c s pc at_start hands
      exact attended.opened_step numbered here taken at_start hands

end Attended

end CameraRs.Session
