/-
Recovery over a whole run.

The task that `start_inner` spawned is followed from its first access on. Nobody closes
or drops the session, so its log is the log of the loop alone.
-/

import CameraRs.Session.Recovery

namespace CameraRs.Session

/-! ### What a log still owes -/

/-- Accesses the loop makes before a log that waits for something has it. -/
def RecoveryPc.left : RecoveryPc → Nat
  | .loadStoppingOutcome _ _ => 12
  | .retryStop _ _ => 11
  | .retryHubStop _ _ => 10
  | .setFailed _ => 9
  | .storeStopping => 8
  | .disableRecovery => 7
  | .endRecoveryFailed => 6
  | .hubStop => 5
  | .finalStop => 4
  | .terminalMetrics => 3
  | .storeClosed | .endRecovery => 2
  | .storeBusy | .setStreaming => 1
  | _ => 0

section

variable {native : Bool} {policy : ReconnectPolicy} {o : Outage} {hub : HubView}
  {inner : SessionInner} {env : Env} {vars : RecoveryVars} {pc : RecoveryPc} {after : Pc}
  {effect : Effect}

theorem Loop.settled (loop : Loop native policy o vars pc) (none : pc.left = 0) :
    owed policy o = [] := by
  cases pc with
  | upgrade => exact loop.2.owed
  | wait => exact loop.2.owed
  | loadStopping trigger => exact loop.2.owed
  | lock trigger => exact loop.2.owed
  | loadStoppingLocked trigger => exact loop.2.owed
  | recheckTrigger trigger => exact loop.2.owed
  | unlockContinue => exact loop.2.owed
  | setRecovering trigger => exact loop.2.owed
  | beginRecovery trigger =>
      obtain ⟨_, number, trigger, last⟩ := loop
      simp [owed, last]
  | sourceStop trigger =>
      obtain ⟨_, number, trigger, last⟩ := loop
      simp [owed, last]
  | reopen trigger result =>
      obtain ⟨_, number, trigger, last⟩ := loop
      simp [owed, last]
  | loadStoppingStart trigger =>
      obtain ⟨_, ⟨number, trigger, last⟩ | last, _⟩ := loop <;> simp [owed, last]
  | sourceStart trigger =>
      obtain ⟨_, ⟨number, trigger, last⟩ | last, _⟩ := loop <;> simp [owed, last]
  | firstFrame trigger => simp [owed, loop.2]
  | abandonStop => exact loop.elim
  | unlockBreak => simp [owed, loop.1]
  | _ => simp [RecoveryPc.left] at none

theorem Loop.released (loop : Loop native policy o vars pc) (last : o.last = some .released) :
    ∃ error, o.failedWith error := by
  cases pc with
  | upgrade => exact absurd last loop.2.unreleased
  | wait => exact absurd last loop.2.unreleased
  | loadStopping trigger => exact absurd last loop.2.unreleased
  | lock trigger => exact absurd last loop.2.unreleased
  | loadStoppingLocked trigger => exact absurd last loop.2.unreleased
  | recheckTrigger trigger => exact absurd last loop.2.unreleased
  | unlockContinue => exact absurd last loop.2.unreleased
  | setRecovering trigger => exact absurd last loop.2.unreleased
  | storeBusy => exact loop.2
  | unlockBreak => exact loop.2
  | abandonStop => exact loop.elim
  | loadStoppingStart trigger =>
      obtain ⟨_, ⟨number, trigger, other⟩ | other, _⟩ := loop <;> simp [other] at last
  | sourceStart trigger =>
      obtain ⟨_, ⟨number, trigger, other⟩ | other, _⟩ := loop <;> simp [other] at last
  | endRecovery =>
      have other : o.last = some (.outcome (.ok ())) := loop
      simp [other] at last
  | setStreaming =>
      have other : o.last = some (.outcome (.ok ())) := loop
      simp [other] at last
  | beginRecovery trigger =>
      obtain ⟨_, number, trigger, other⟩ := loop
      simp [other] at last
  | sourceStop trigger =>
      obtain ⟨_, number, trigger, other⟩ := loop
      simp [other] at last
  | reopen trigger result =>
      obtain ⟨_, number, trigger, other⟩ := loop
      simp [other] at last
  | firstFrame trigger => simp [loop.2] at last
  | loadStoppingOutcome trigger result => simp [loop.2] at last
  | retryStop trigger error => simp [loop.2] at last
  | retryHubStop trigger error => simp [loop.2] at last
  | setFailed error => simp [loop.2] at last
  | _ =>
      obtain ⟨error, other, _⟩ := loop
      simp [other] at last

private theorem recoveryNext_working (working : 0 < pc.left) :
    (recoveryNext native hub inner vars env pc).isSome = true := by
  cases pc with
  | loadStoppingOutcome trigger result =>
      simp only [recoveryNext]
      split
      · rfl
      · cases result <;> rfl
  | retryHubStop trigger error =>
      simp only [recoveryNext]
      split <;> rfl
  | _ =>
      first
      | rfl
      | (simp [RecoveryPc.left] at working)

private theorem owed_advance (follows : (Pc.recovery vars pc).Follows native policy inner o)
    (working : 0 < pc.left)
    (taken : recoveryNext native hub inner vars env pc = some (after, effect)) :
    ∃ later next, after = .recovery later next ∧ next.left < pc.left ∧
      effect.events (.recovery vars pc) after ++
        owed policy ((effect.events (.recovery vars pc) after).foldl Outage.add o) =
      owed policy o := by
  obtain ⟨policies, loop, running⟩ := follows
  cases pc with
  | loadStoppingOutcome trigger result =>
      simp only [recoveryNext, running rfl] at taken
      cases result with
      | ok value =>
          obtain ⟨rfl, rfl⟩ := taken
          exact ⟨_, _, rfl, by simp [RecoveryPc.left], rfl⟩
      | error error =>
          obtain ⟨rfl, rfl⟩ := taken
          exact ⟨_, _, rfl, by simp [RecoveryPc.left], rfl⟩
  | endRecovery =>
      obtain ⟨rfl, rfl⟩ := taken
      exact ⟨_, _, rfl, by simp [RecoveryPc.left], rfl⟩
  | setStreaming =>
      obtain ⟨rfl, rfl⟩ := taken
      refine ⟨_, _, rfl, by simp [RecoveryPc.left], ?_⟩
      have last : o.last = some (.outcome (.ok ())) := loop
      simp [Effect.events, owed, last]
  | retryStop trigger error =>
      obtain ⟨rfl, rfl⟩ := taken
      exact ⟨_, _, rfl, by simp [RecoveryPc.left], rfl⟩
  | retryHubStop trigger error =>
      simp only [recoveryNext] at taken
      split at taken
      · obtain ⟨rfl, rfl⟩ := taken
        exact ⟨_, _, rfl, by simp [RecoveryPc.left], rfl⟩
      · obtain ⟨rfl, rfl⟩ := taken
        exact ⟨_, _, rfl, by simp [RecoveryPc.left], rfl⟩
  | setFailed error =>
      obtain ⟨rfl, rfl⟩ := taken
      refine ⟨_, _, rfl, by simp [RecoveryPc.left], ?_⟩
      simp [Effect.events, owed, loop.1, loop.2]
  | storeClosed =>
      obtain ⟨rfl, rfl⟩ := taken
      refine ⟨_, _, rfl, by simp [RecoveryPc.left], ?_⟩
      obtain ⟨error, last, failed⟩ := loop
      simp [Effect.events, owed, last]
  | storeBusy =>
      obtain ⟨rfl, rfl⟩ := taken
      refine ⟨_, _, rfl, by simp [RecoveryPc.left], ?_⟩
      simp [Effect.events, owed, loop.1]
  | storeStopping =>
      obtain ⟨rfl, rfl⟩ := taken
      exact ⟨_, _, rfl, by simp [RecoveryPc.left], rfl⟩
  | disableRecovery =>
      obtain ⟨rfl, rfl⟩ := taken
      exact ⟨_, _, rfl, by simp [RecoveryPc.left], rfl⟩
  | endRecoveryFailed =>
      obtain ⟨rfl, rfl⟩ := taken
      exact ⟨_, _, rfl, by simp [RecoveryPc.left], rfl⟩
  | hubStop =>
      obtain ⟨rfl, rfl⟩ := taken
      exact ⟨_, _, rfl, by simp [RecoveryPc.left], rfl⟩
  | finalStop =>
      obtain ⟨rfl, rfl⟩ := taken
      exact ⟨_, _, rfl, by simp [RecoveryPc.left], rfl⟩
  | terminalMetrics =>
      obtain ⟨rfl, rfl⟩ := taken
      exact ⟨_, _, rfl, by simp [RecoveryPc.left], rfl⟩
  | _ => simp [RecoveryPc.left] at working

end

/-! ### The rest of the session is over -/

/-- A task of the session with nothing left to do there but to end. -/
def Pc.spent : Pc → Bool
  | .finished | .start .disarm | .startTask .unlock => true
  | _ => false

variable {native : Bool} {policy : ReconnectPolicy} {o : Outage} {hub : HubView}
  {inner : SessionInner} {env : Env} {pc after : Pc} {effect : Effect} {i j new : TaskId}

theorem spent_next (spent : pc.spent = true)
    (taken : next native hub inner env pc = some (after, effect)) :
    after = .finished ∧ (effect = .handOut ∨ effect = .unlock) := by
  unfold Pc.spent at spent
  split at spent
  · contradiction
  · obtain ⟨rfl, rfl⟩ := taken
    exact ⟨rfl, .inl rfl⟩
  · obtain ⟨rfl, rfl⟩ := taken
    exact ⟨rfl, .inr rfl⟩
  · contradiction

private theorem announced_onInner
    (agrees : ∀ state, o.announced = some state → inner.state = state) {state : SessionState}
    (announced : ((effect.events pc after).foldl Outage.add o).announced = some state) :
    (effect.onInner i new hub inner).state = state := by
  have kept (o : Outage) : (after.outcome.foldl Outage.add o).announced = o.announced := by
    unfold Pc.outcome
    split <;> rfl
  rw [Effect.state_onInner]
  cases effect with
  | setState said =>
      simp only [Effect.events] at announced
      split at announced
      · exact Option.some.inj announced
      · exact Option.some.inj announced
  | launch => exact Option.some.inj announced
  | sourceStart reaches =>
      simp only [Effect.events, List.foldl_cons] at announced
      rw [kept] at announced
      exact agrees state announced
  | reopen reaches =>
      simp only [Effect.events] at announced
      split at announced
      · exact agrees state announced
      · rw [kept] at announced
        exact agrees state announced
  | storeClosed => exact agrees state announced
  | releaseBusy => exact agrees state announced
  | _ =>
      rw [← kept] at agrees
      exact agrees state announced

private theorem closed_onInner_of_last
    (agrees : o.last = some .closed ∨ o.last = some .released → inner.closed = true)
    (allowed : AllowedAll native policy o (effect.events pc after))
    (last : ((effect.events pc after).foldl Outage.add o).last = some .closed ∨
      ((effect.events pc after).foldl Outage.add o).last = some .released) :
    (effect.onInner i new hub inner).closed = true := by
  have kept : (after.outcome.foldl Outage.add o).last = some .closed ∨
      (after.outcome.foldl Outage.add o).last = some .released → inner.closed = true := by
    unfold Pc.outcome
    split
    · simp
    · exact agrees
  rw [Effect.closed_onInner]
  cases effect with
  | storeClosed => rfl
  | releaseBusy =>
      cases allowed.1 with
      | released after => exact agrees (.inl after)
  | setState said =>
      simp only [Effect.events] at last
      split at last <;> simp at last
  | launch => simp [Effect.events] at last
  | sourceStart reaches =>
      simp only [Effect.events, List.foldl_cons] at last
      unfold Pc.outcome at last
      split at last <;> simp at last
  | reopen reaches =>
      simp only [Effect.events] at last
      split at last
      · simp at last
      · exact kept last
  | _ => exact kept last

/-- What a step is seen to do to session `s`. -/
def Device.observed (s : SessionId) (d : Device) (a : Action) (_ : Device) :
    List RecoveryEvent :=
  match a with
  | .run i env =>
      match d.tasks i with
      | .on r pc =>
          match next d.native d.hub (d.sessions r) env pc with
          | some (after, effect) => if r = s then effect.events pc after else []
          | none => []
      | _ => []
  | _ => []

def undisturbed (s : SessionId) (_ : Device) (a : Action) : Prop := a ≠ .close s ∧ a ≠ .drop s

structure Device.Recovers (native : Bool) (policy : ReconnectPolicy) (i : TaskId) (s : SessionId)
    (d : Device) (log : List RecoveryEvent) : Prop where
  source : d.native = native
  lone : ∀ j pending, j ≠ i → d.tasks j = .on s pending → pending.spent = true
  follows : ∃ pc, d.tasks i = .on s pc ∧ pc.Follows native policy (d.sessions s) (outage log)
  lawful : Lawful native policy log
  announced : ∀ state, (outage log).announced = some state → (d.sessions s).state = state
  closed : (outage log).last = some .closed ∨ (outage log).last = some .released →
    (d.sessions s).closed = true

variable {d d' : Device} {s : SessionId} {log : List RecoveryEvent} {a : Action}

theorem observed_run (at_pc : d.tasks i = .on s pc)
    (made : next d.native d.hub (d.sessions s) env pc = some (after, effect)) :
    Device.observed s d (.run i env) d' = effect.events pc after := by
  simp [Device.observed, at_pc, made]

namespace Device.Recovers

theorem lone_step (recovers : d.Recovers native policy i s log) (numbered : d.Numbered)
    (admitted : undisturbed s d a) (taken : d.step a = some d') {pending : Pc}
    (different : j ≠ i) (found : d'.tasks j = .on s pending) : pending.spent = true := by
  have spent_done {k : TaskId} {env : Env} {here after : Pc} {effect : Effect} (other : k ≠ i)
      (at_pc : d.tasks k = .on s here)
      (made : next d.native d.hub (d.sessions s) env here = some (after, effect)) :=
    spent_next (recovers.lone k here other at_pc) made
  cases Device.step_task taken found with
  | kept rests before => exact recovers.lone j pending different before
  | moved ran at_pc made =>
      rw [(spent_done different at_pc made).1]
      rfl
  | @spawned k env here after _ ran at_pc new made =>
      by_cases same : k = i
      · subst same
        obtain ⟨pc, own, follows⟩ := recovers.follows
        rw [own] at at_pc
        obtain ⟨_, rfl⟩ := Task.on.inj at_pc
        cases pc with
        | recovery vars pc =>
            have edge := (next_launchEdge made).spawning pending rfl
            have entry := (next_edge made).spawning pending rfl
            rcases Pc.entry_cases entry with
              rfl | ⟨candidates, rfl⟩ | ⟨vars, rfl⟩ | rfl
            · exact absurd (edge.2.2.2 rfl) Bool.false_ne_true
            · exact absurd (edge.2.1 rfl) Bool.false_ne_true
            · exact absurd (edge.2.2.1 rfl) Bool.false_ne_true
            · exact absurd (edge.2.2.2 rfl) Bool.false_ne_true
        | finished => contradiction
        | _ => exact follows.elim
      · rcases (spent_done same at_pc made).2 with impossible | impossible <;> contradiction
  | closing ran handle => exact absurd ran admitted.1
  | dropping ran handle => exact absurd ran admitted.2
  | created ran new =>
      obtain ⟨pc, own, _⟩ := recovers.follows
      have known := numbered.known i s pc own
      exact absurd new (Nat.ne_of_lt known)

theorem other_quiet (recovers : d.Recovers native policy i s log) (numbered : d.Numbered)
    (taken : d.step a = some d') (rests : ∀ env, a ≠ .run i env) :
    Device.observed s d a d' = [] ∧ (d'.sessions s).stopping = (d.sessions s).stopping ∧
      (d'.sessions s).state = (d.sessions s).state ∧
      (d'.sessions s).closed = (d.sessions s).closed := by
  obtain ⟨pc, own, _⟩ := recovers.follows
  have inner : (d'.sessions s).stopping = (d.sessions s).stopping ∧
      (d'.sessions s).state = (d.sessions s).state ∧
      (d'.sessions s).closed = (d.sessions s).closed := by
    rcases Device.step_inner taken (numbered.known i s pc own) with
      same | same | ⟨k, env, here, after, effect, rfl, at_pc, made, same⟩
    · rw [same]
      exact ⟨rfl, rfl, rfl⟩
    · rw [same]
      exact ⟨rfl, rfl, rfl⟩
    · have other : k ≠ i := by
        intro equal
        exact rests env (by rw [equal])
      obtain ⟨_, rfl | rfl⟩ := spent_next (recovers.lone k here other at_pc) made <;>
        rw [same] <;> exact ⟨rfl, rfl, rfl⟩
  refine ⟨?_, inner⟩
  simp only [Device.observed]
  split
  · next k env =>
      have other : k ≠ i := by
        intro equal
        exact rests env (by rw [equal])
      split
      · next r here at_pc =>
          split
          · next after effect made =>
              split
              · next same =>
                  subst same
                  obtain ⟨rfl, rfl | rfl⟩ := spent_next (recovers.lone k here other at_pc) made <;>
                    rfl
              · rfl
          · rfl
      · rfl
  · rfl

private theorem other_step (recovers : d.Recovers native policy i s log) (numbered : d.Numbered)
    (admitted : undisturbed s d a) (taken : d.step a = some d') (rests : ∀ env, a ≠ .run i env) :
    d'.Recovers native policy i s (log ++ Device.observed s d a d') := by
  obtain ⟨pc, own, follows⟩ := recovers.follows
  obtain ⟨quiet, stopping, state, closed⟩ := recovers.other_quiet numbered taken rests
  rw [quiet, List.append_nil]
  refine ⟨(Device.step_native taken).trans recovers.source, ?_, ?_, recovers.lawful, ?_, ?_⟩
  · intro j pending different found
    exact recovers.lone_step numbered admitted taken different found
  · refine ⟨pc, ?_, ?_⟩
    · rw [Device.step_rests taken (numbered.present i (by simp [own])) rests, own]
    · cases pc with
      | recovery vars pc =>
          obtain ⟨policies, loop, running⟩ := follows
          exact ⟨policies, loop, fun leaving => stopping.trans (running leaving)⟩
      | finished => exact follows
      | _ => exact follows.elim
  · rw [state]
    exact recovers.announced
  · rw [closed]
    exact recovers.closed

private theorem own_step (recovers : d.Recovers native policy i s log) (numbered : d.Numbered)
    (valid : policy.maxAttempts ≠ some 0) (taken : d.step (.run i env) = some d') :
    d'.Recovers native policy i s (log ++ Device.observed s d (.run i env) d') := by
  obtain ⟨pc, own, follows⟩ := recovers.follows
  obtain ⟨after, effect, made, rfl⟩ := Device.step_on own taken
  have inner : ((d.apply i s effect).setTask i (.on s after)).sessions s =
      effect.onInner i d.spawned d.hub (d.sessions s) := by
    change (d.apply i s effect).sessions s = _
    rw [Device.apply_sessions, Function.update_self]
  rw [observed_run own made]
  have advance : Advance native policy i d.spawned d.hub (d.sessions s) (outage log) pc effect
      after := by
    cases pc with
    | recovery vars pc =>
        have access : recoveryNext d.native d.hub (d.sessions s) vars env pc =
          some (after, effect) := made
        rw [recovers.source] at access
        exact recovery_advance valid follows access
    | finished => contradiction
    | _ => exact follows.elim
  refine ⟨(Device.step_native taken).trans recovers.source, ?_, ?_, ?_, ?_, ?_⟩
  · intro j pending different found
    exact recovers.lone_step numbered ⟨by simp, by simp⟩ taken different found
  · refine ⟨after, Function.update_self .., ?_⟩
    rw [inner, outage_append]
    exact advance.follows
  · exact recovers.lawful.append advance.allowed
  · intro state announced
    rw [inner]
    rw [outage_append] at announced
    exact announced_onInner recovers.announced announced
  · intro last
    rw [inner]
    rw [outage_append] at last
    exact closed_onInner_of_last recovers.closed advance.allowed last

theorem step (recovers : d.Recovers native policy i s log) (numbered : d.Numbered)
    (valid : policy.maxAttempts ≠ some 0) (admitted : undisturbed s d a)
    (taken : d.step a = some d') :
    d'.Recovers native policy i s (log ++ Device.observed s d a d') := by
  by_cases own : ∃ env, a = .run i env
  · obtain ⟨env, rfl⟩ := own
    exact recovers.own_step numbered valid taken
  · exact recovers.other_step numbered admitted taken fun env same => own ⟨env, same⟩

end Device.Recovers

/-! ### From the spawn on -/

private theorem recovers_spawned {c : TaskId} (reached : machine.Reachable Lib.Machine.anything d)
    (valid : policy.maxAttempts ≠ some 0)
    (at_start : d.tasks c = .on s (.start (.spawnRecovery policy)))
    (taken : d.step (.run c env) = some d') :
    d'.Recovers d.native policy d.spawned s [] := by
  have free := Discipline.free_reachable reached
  have attended := Attended.reachable free
  have numbered := Device.Numbered.reachable reached
  have flags := attended.opened c s _ at_start rfl
  have different : c ≠ d.spawned := Nat.ne_of_lt (numbered.present c (by simp [at_start]))
  have launched : (d.sessions s).launched = true :=
    ((launch_holds free).task c s _ at_start).committed rfl
  obtain ⟨after, effect, made, rfl⟩ := Device.step_on at_start taken
  obtain ⟨rfl, rfl⟩ := made
  have spawned : ((d.apply c s (.spawn (.recovery { policy := policy } .upgrade))).setTask c
      (.on s (.start .disarm))).tasks d.spawned =
        .on s (.recovery { policy := policy } .upgrade) := by
    rw [Device.setTask_rests different.symm]
    exact Function.update_self ..
  have inner : ((d.apply c s (.spawn (.recovery { policy := policy } .upgrade))).setTask c
      (.on s (.start .disarm))).sessions s = d.sessions s := by
    change (d.apply c s (.spawn (.recovery { policy := policy } .upgrade))).sessions s = _
    rw [Device.apply_sessions, Function.update_self]
    rfl
  refine ⟨Device.step_native taken, ?_, ⟨_, spawned, rfl, ⟨rfl, ?_, .inl rfl⟩, ?_⟩, lawful_nil, ?_,
    ?_⟩
  · intro j pending other found
    cases Device.step_task taken found with
    | kept rests before =>
        have apart : j ≠ c := by
          intro same
          exact rests env (by rw [same])
        rcases attended.alone c s _ j pending at_start (by simp) apart before with task | rfl
        · have sent := launched_sent ((launch_holds free).session s)
            ((launch_holds free).task j s pending before) launched
          cases pending with
          | startTask counter => cases counter <;> first | rfl | contradiction
          | _ => contradiction
        · rfl
    | moved ran at_pc made =>
        obtain ⟨rfl, rfl⟩ := Action.run.inj ran
        rw [at_start] at at_pc
        obtain ⟨_, rfl⟩ := Task.on.inj at_pc
        obtain ⟨rfl, rfl⟩ := made
        rfl
    | spawned ran at_pc new made => exact absurd new other
    | closing ran handle => contradiction
    | dropping ran handle => contradiction
    | created ran new =>
        have known := numbered.known c s _ at_start
        exact absurd new (Nat.ne_of_lt known)
  · intro n most
    rcases Nat.eq_zero_or_pos n with rfl | positive
    · exact absurd most valid
    · exact positive
  · intro _
    rw [inner]
    exact flags.1
  · simp
  · simp

section

variable {actions : List Action} {log' : List RecoveryEvent}

theorem recovers_run (numbered : d.Numbered) (recovers : d.Recovers native policy i s log)
    (valid : policy.maxAttempts ≠ some 0)
    (run : (machine.logged (Device.observed s)).Run (fun state => undisturbed s state.1) (d, log)
      actions (d', log')) :
    d'.Numbered ∧ d'.Recovers native policy i s log' := by
  generalize last : (d', log') = finish at run
  induction run generalizing d' log' with
  | nil =>
      obtain ⟨rfl, rfl⟩ := Prod.mk.inj last
      exact ⟨numbered, recovers⟩
  | @snoc middle finish actions action before admitted taken ih =>
      obtain ⟨here, follows⟩ := ih rfl
      obtain ⟨step, seen⟩ := Lib.Machine.logged_step taken
      rw [← last] at step seen
      have step : middle.1.step action = some d' := step
      refine ⟨here.step step, ?_⟩
      have later := follows.step here valid admitted step
      rwa [← seen] at later

def Action.runs (i : TaskId) : Action → Bool
  | .run j _ => decide (j = i)
  | _ => false

private theorem RecoveryPc.left_le (pc : RecoveryPc) : pc.left ≤ 12 := by
  cases pc <;> simp [RecoveryPc.left]

theorem working_of_owed (recovers : d.Recovers native policy i s log)
    (waiting : owed policy (outage log) ≠ []) :
    ∃ vars pc, d.tasks i = .on s (.recovery vars pc) ∧ 0 < pc.left := by
  obtain ⟨pc, own, follows⟩ := recovers.follows
  cases pc with
  | recovery vars pc =>
      refine ⟨vars, pc, own, Nat.pos_of_ne_zero fun none => ?_⟩
      exact waiting (follows.2.1.settled none)
  | finished => exact absurd follows.1 waiting
  | _ => exact follows.elim

private theorem owed_enabled (recovers : d.Recovers native policy i s log)
    (waiting : owed policy (outage log) ≠ []) (env : Env) :
    (d.step (.run i env)).isSome = true := by
  obtain ⟨vars, pc, own, working⟩ := working_of_owed recovers waiting
  have enabled : (next d.native d.hub (d.sessions s) env (.recovery vars pc)).isSome = true :=
    recoveryNext_working working
  simp only [Device.step, own, Option.isSome_map, enabled]

private theorem owed_step {vars : RecoveryVars} {pc : RecoveryPc}
    (recovers : d.Recovers native policy i s log) (taken : d.step (.run i env) = some d')
    (own : d.tasks i = .on s (.recovery vars pc)) (working : 0 < pc.left) :
    ∃ later next, d'.tasks i = .on s (.recovery later next) ∧ next.left < pc.left ∧
      log ++ Device.observed s d (.run i env) d' ++
        owed policy (outage (log ++ Device.observed s d (.run i env) d')) =
      log ++ owed policy (outage log) := by
  obtain ⟨pc', at_pc, follows⟩ := recovers.follows
  rw [own] at at_pc
  obtain ⟨_, rfl⟩ := Task.on.inj at_pc
  obtain ⟨after, effect, made, rfl⟩ := Device.step_on own taken
  rw [observed_run own made, outage_append]
  have access : recoveryNext d.native d.hub (d.sessions s) vars env pc =
    some (after, effect) := made
  rw [recovers.source] at access
  obtain ⟨later, next, rfl, closer, same⟩ := owed_advance follows working access
  refine ⟨later, next, Function.update_self .., closer, ?_⟩
  rw [List.append_assoc, same]

private theorem owed_run (numbered : d.Numbered) (recovers : d.Recovers native policy i s log)
    (valid : policy.maxAttempts ≠ some 0)
    (run : (machine.logged (Device.observed s)).Run (fun state => undisturbed s state.1) (d, log)
      actions (d', log')) (enough : 12 ≤ actions.countP (Action.runs i)) :
    log ++ owed policy (outage log) <+: log' := by
  have progress : log ++ owed policy (outage log) <+: log' ∨
      ∃ vars pc, d'.tasks i = .on s (.recovery vars pc) ∧ 0 < pc.left ∧
        pc.left + actions.countP (Action.runs i) ≤ 12 ∧
        log' ++ owed policy (outage log') = log ++ owed policy (outage log) := by
    clear enough
    generalize last : (d', log') = finish at run
    induction run generalizing d' log' with
    | nil =>
        obtain ⟨rfl, rfl⟩ := Prod.mk.inj last
        by_cases waiting : owed policy (outage log') = []
        · exact .inl (by rw [waiting, List.append_nil])
        · obtain ⟨vars, pc, own, working⟩ := working_of_owed recovers waiting
          exact .inr ⟨vars, pc, own, working, pc.left_le, rfl⟩
    | @snoc middle finish actions action before admitted taken ih =>
        have here := recovers_run numbered recovers valid before
        obtain ⟨step, seen⟩ := Lib.Machine.logged_step taken
        rw [← last] at step seen
        have step : middle.1.step action = some d' := step
        have seen : log' = middle.2 ++ Device.observed s middle.1 action d' := seen
        rcases ih rfl with done | ⟨vars, pc, own, working, counted, same⟩
        · refine .inl (done.trans ?_)
          rw [seen]
          exact List.prefix_append ..
        · by_cases mine : ∃ env, action = .run i env
          · obtain ⟨env, rfl⟩ := mine
            obtain ⟨later, next, at_next, closer, owes⟩ :=
              owed_step here.2 step own working
            rw [← seen] at owes
            by_cases none : next.left = 0
            · refine .inl ?_
              have settled := (here.2.step here.1 valid admitted step)
              rw [← seen] at settled
              obtain ⟨pc', found, follows⟩ := settled.follows
              rw [at_next] at found
              obtain ⟨_, rfl⟩ := Task.on.inj found
              rw [← same, ← owes, follows.2.1.settled none, List.append_nil]
            · refine .inr ⟨later, next, at_next, Nat.pos_of_ne_zero none, ?_, owes.trans same⟩
              simp only [List.countP_append, List.countP_singleton, Action.runs, decide_true,
                if_true]
              omega
          · have rests : ∀ env, action ≠ .run i env := fun env same => mine ⟨env, same⟩
            refine .inr ⟨vars, pc, ?_, working, ?_, ?_⟩
            · rw [Device.step_rests step (here.1.present i (by simp [own])) rests, own]
            · have idle : Action.runs i action = false := by
                cases action with
                | run j env =>
                    refine decide_eq_false fun equal => rests env ?_
                    rw [equal]
                | _ => rfl
              simp [List.countP_append, idle, counted]
            · rw [seen, (here.2.other_quiet here.1 step rests).1, List.append_nil]
              exact same
  rcases progress with done | ⟨vars, pc, _, working, counted, _⟩
  · exact done
  · omega

end

/-- The contract of the recovery of session `s`, run by task `i`, at a state of a run. -/
structure Device.KeepsContract (policy : ReconnectPolicy) (i : TaskId) (s : SessionId)
    (d : Device) (log : List RecoveryEvent) : Prop where
  contract : RecoveryContract d.native policy log
  state : ∀ state, (outage log).announced = some state → (d.sessions s).state = state
  ended : (outage log).last = some .released →
    ∃ error, (d.sessions s).state = .failed error ∧ (d.sessions s).closed = true
  freed : ∀ a d', d.step a = some d' → .released ∈ Device.observed s d a d' → d'.busy = false
  enabled : owed policy (outage log) ≠ [] → ∀ env, (d.step (.run i env)).isSome = true
  comes : ∀ later d' log', (machine.logged (Device.observed s)).Run
    (fun state => undisturbed s state.1) (d, log) later (d', log') →
    12 ≤ later.countP (Action.runs i) → log ++ owed policy (outage log) <+: log'

theorem released_event (seen : .released ∈ effect.events pc after) : effect = .releaseBusy := by
  have never : .released ∉ after.outcome := by
    unfold Pc.outcome
    split <;> simp
  cases effect with
  | releaseBusy => rfl
  | setState said =>
      simp only [Effect.events] at seen
      split at seen <;> simp at seen
  | launch => simp [Effect.events] at seen
  | storeClosed => simp [Effect.events] at seen
  | sourceStart reaches =>
      simp only [Effect.events, List.mem_cons] at seen
      rcases seen with impossible | seen
      · contradiction
      · exact absurd seen never
  | reopen reaches =>
      simp only [Effect.events] at seen
      split at seen
      · simp at seen
      · exact absurd seen never
  | _ => exact absurd seen never

private theorem released_step (taken : d.step a = some d')
    (seen : .released ∈ Device.observed s d a d') : d'.busy = false := by
  cases a with
  | run k env =>
      simp only [Device.observed] at seen
      split at seen
      · next r here at_pc =>
          obtain ⟨after, effect, made, rfl⟩ := Device.step_on at_pc taken
          rw [made] at seen
          split at seen
          · obtain ⟨rfl, rfl⟩ := ‹some (after, effect) = some _›
            split at seen
            · rw [released_event seen]
              rfl
            · contradiction
          · contradiction
      · contradiction
  | _ => contradiction

/-- Recovery keeps its contract as long as nobody stops the session. The builder of the
request has rejected a bound of zero attempts. -/
theorem recovery_contract {c : TaskId} {started : Device} {actions : List Action}
    (reached : machine.Reachable Lib.Machine.anything d)
    (at_start : d.tasks c = .on s (.start (.spawnRecovery policy)))
    (valid : policy.maxAttempts ≠ some 0) (spawning : d.step (.run c env) = some started)
    (run : (machine.logged (Device.observed s)).Run (fun state => undisturbed s state.1)
      (started, []) actions (d', log)) :
    d'.KeepsContract policy d.spawned s log := by
  have first : machine.Run Lib.Machine.anything d [.run c env] started := .single trivial spawning
  have numbered := Device.Numbered.reachable (reached.extend first)
  have begun := recovers_spawned reached valid at_start spawning
  obtain ⟨here, recovers⟩ := recovers_run numbered begun valid run
  constructor
  · rw [recovers.source]
    exact recovers.lawful.contract
  · exact recovers.announced
  · intro last
    have failed : ∃ error, (outage log).failedWith error := by
      obtain ⟨pc, _, follows⟩ := recovers.follows
      cases pc with
      | recovery vars pc => exact follows.2.1.released last
      | finished => exact follows.2 last
      | _ => exact follows.elim
    obtain ⟨error, announced⟩ := failed
    exact ⟨error, recovers.announced _ announced, recovers.closed (.inr last)⟩
  · intro a d' taken seen
    exact released_step taken seen
  · intro waiting env
    exact owed_enabled recovers waiting env
  · intro later d' log' after enough
    exact owed_run here recovers valid after enough

/-- A start with a bound of one attempt, up to the spawn of its recovery. -/
def aboutToRecover : List Action :=
  [Action.start 1 (some ⟨some 1⟩)] ++ List.replicate 4 (Action.run 0 {}) ++
  List.replicate 11 (Action.run 1 {}) ++
  List.replicate 4 (Action.run 0 {})

/-- The source stalls and does not start again. -/
def failsOnce : List Action :=
  List.replicate 11 (Action.run 2 { trigger := some .sourceStalled }) ++
  [Action.run 2 { result := .error .streamStopped }] ++ List.replicate 12 (Action.run 2 {})

def Device.recoverySpawning (d : Device) : Option ReconnectPolicy :=
  match d.tasks 0 with
  | .on 0 (.start (.spawnRecovery policy)) => some policy
  | _ => none

private theorem recoverySpawning_at (found : d.recoverySpawning = some policy) :
    d.tasks 0 = .on 0 (.start (.spawnRecovery policy)) := by
  unfold Device.recoverySpawning at found
  split at found
  · next at_start =>
      rw [at_start, Option.some.inj found]
  · contradiction

theorem recovery_contract_failed_once :
    ∃ d started d' log, machine.Reachable Lib.Machine.anything d ∧
      d.tasks 0 = .on 0 (.start (.spawnRecovery ⟨some 1⟩)) ∧
      d.step (.run 0 {}) = some started ∧
      (machine.logged (Device.observed 0)).Run (fun state => undisturbed 0 state.1) (started, [])
        failsOnce (d', log) ∧
      (outage log).last = some .released ∧ d'.KeepsContract ⟨some 1⟩ d.spawned 0 log := by
  have passed : ((machine.exec (fun _ _ => true) {} aboutToRecover).any fun d =>
      decide (d.recoverySpawning = some ⟨some 1⟩) && (d.step (.run 0 {})).any fun started =>
        ((machine.logged (Device.observed 0)).exec (fun _ a => Action.runs 2 a) (started, [])
          failsOnce).any fun ended => decide ((outage ended.2).last = some .released)) = true := by
    decide +kernel
  obtain ⟨d, reached, passed⟩ := Lib.Machine.Reachable.of_exec machine_opened passed
  obtain ⟨spawning, passed⟩ := Bool.and_eq_true_iff.mp passed
  obtain ⟨started, taken, passed⟩ := (Option.any_eq_true _ _).mp passed
  obtain ⟨⟨d', log⟩, run, last⟩ := Lib.Machine.run_of_passed passed
  have anyhow := reached.mono fun _ _ _ => (trivial : Lib.Machine.anything _ _)
  have at_start := recoverySpawning_at (of_decide_eq_true spawning)
  have alone := run.mono fun state a ran => (show undisturbed 0 state.1 a by
    constructor
    · rintro rfl
      contradiction
    · rintro rfl
      contradiction)
  exact ⟨d, started, d', log, anyhow, at_start, taken, alone, of_decide_eq_true last,
    recovery_contract anyhow at_start (by simp) taken alone⟩

end CameraRs.Session
