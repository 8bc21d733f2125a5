/-
A replaced camera and its successor.

A camera is out of the way when nobody has it or will get it and its worker cannot call
`fail` any more. It stays out of the way, and nothing stops the hub on its behalf.
-/

import CameraRs.MediaFoundation.Source
import CameraRs.MediaFoundation.Calls

namespace CameraRs.MediaFoundation

/-! ### Cameras that are out of the way -/

/-- It waits for events, and no event will come by itself. -/
structure Worker.Resting (w : Worker) : Prop where
  idle : w.pc = .idle
  empty : w.queue = []
  unread : w.outstanding = []
  unflushed : w.flushing = false

instance (w : Worker) : Decidable w.Resting :=
  decidable_of_iff (w.pc = .idle ∧ w.queue = [] ∧ w.outstanding = [] ∧ w.flushing = false)
    ⟨fun ⟨idle, empty, unread, unflushed⟩ => ⟨idle, empty, unread, unflushed⟩,
      fun resting => ⟨resting.idle, resting.empty, resting.unread, resting.unflushed⟩⟩

namespace Worker.Resting

variable {w : Worker} {cancelled : CallId → Bool} {native : Native}

private theorem run_none (resting : w.Resting) : w.run cancelled native = none := by
  simp [Worker.run, Worker.take, resting.idle, resting.empty]

private theorem fails_none (resting : w.Resting) : w.fails cancelled native = false := by
  simp [Worker.fails, resting.idle, resting.empty]

theorem onReadSample_none (resting : w.Resting) (epoch : Nat) : w.onReadSample epoch = none := by
  simp [Worker.onReadSample, resting.unread]

private theorem onFlush_none (resting : w.Resting) : w.onFlush = none := by
  simp [Worker.onFlush, resting.unflushed]

end Worker.Resting

namespace NativeSource

/-- Nobody has the camera or will get it, and its worker is at its end or was announced to
a caller that had given up. -/
structure Settled (v : NativeSource) (c : CameraId) : Prop where
  out : v.camera ≠ some c
  unheld : ∀ thread ∈ v.threads, thread.holds c = false
  unawaited : Thread.await c ∈ v.threads → (v.cameras c).ready = some false
  worker : (v.cameras c).thread = .gone ∨
    (v.cameras c).thread = .running ∧ (v.cameras c).state.worker.Resting

instance (v : NativeSource) (c : CameraId) : Decidable (v.Settled c) :=
  decidable_of_iff (v.camera ≠ some c ∧ (∀ thread ∈ v.threads, thread.holds c = false) ∧
      (Thread.await c ∈ v.threads → (v.cameras c).ready = some false) ∧
      ((v.cameras c).thread = .gone ∨
        (v.cameras c).thread = .running ∧ (v.cameras c).state.worker.Resting))
    ⟨fun ⟨out, unheld, unawaited, worker⟩ => ⟨out, unheld, unawaited, worker⟩,
      fun settled => ⟨settled.out, settled.unheld, settled.unawaited, settled.worker⟩⟩

/-- The hub is started for a camera only when every camera opened before it is out of the
way. -/
def startsAlone (v : NativeSource) (a : SourceAction) : Bool :=
  (v.starts a).all fun d => (List.range d).all fun c => decide (v.Settled c)

def alone (v : NativeSource) (a : SourceAction) : Prop := v.startsAlone a = true

variable {v v' : NativeSource} {c d : CameraId} {t : ThreadId} {thread : Thread}

theorem setOpened_other {o : Opened} (different : c ≠ d) :
    (v.setOpened d o).cameras c = v.cameras c :=
  Function.update_of_ne different ..

private theorem adopt_other {s : State} (different : c ≠ d) :
    (v.adopt d s).cameras c = v.cameras c :=
  setOpened_other different

namespace Settled

theorem keeps (settled : v.Settled c) (out : v'.camera ≠ some c)
    (threads : ∀ thread ∈ v'.threads,
      thread ∈ v.threads ∨ thread.holds c = false ∧ thread ≠ .await c)
    (thread : (v'.cameras c).thread = (v.cameras c).thread)
    (ready : (v'.cameras c).ready = (v.cameras c).ready)
    (state : (v'.cameras c).state = (v.cameras c).state) : v'.Settled c where
  out := out
  unheld := by
    intro thread member
    rcases threads thread member with old | ⟨unheld, _⟩
    · exact settled.unheld thread old
    · exact unheld
  unawaited := by
    intro member
    rw [ready]
    rcases threads _ member with old | ⟨_, other⟩
    · exact settled.unawaited old
    · exact absurd rfl other
  worker := by
    rw [thread, state]
    exact settled.worker

theorem moved (settled : v.Settled c) (out : v'.camera ≠ some c)
    (threads : v'.threads = v.threads.set t thread) (unheld : thread.holds c = false)
    (other : thread ≠ .await c) (same : v'.cameras c = v.cameras c) : v'.Settled c := by
  refine settled.keeps out ?_ (by rw [same]) (by rw [same]) (by rw [same])
  intro pending member
  rw [threads] at member
  rcases List.mem_or_eq_of_mem_set member with old | rfl
  · exact .inl old
  · exact .inr ⟨unheld, other⟩

theorem spawned (settled : v.Settled c) (unheld : thread.holds c = false)
    (other : thread ≠ .await c) : (v.spawn thread).Settled c := by
  refine settled.keeps settled.out ?_ rfl rfl rfl
  intro pending member
  rcases List.mem_append.mp member with old | new
  · exact .inl old
  · rw [List.mem_singleton.mp new]
    exact .inr ⟨unheld, other⟩

theorem adopted (settled : v.Settled c) (different : c ≠ d) (s : State) :
    (v.adopt d s).Settled c := by
  refine settled.keeps settled.out (fun _ old => .inl old) ?_ ?_ ?_ <;>
    rw [adopt_other different]

theorem opened (settled : v.Settled c) (different : c ≠ d) (o : Opened) :
    (v.setOpened d o).Settled c := by
  refine settled.keeps settled.out (fun _ old => .inl old) ?_ ?_ ?_ <;>
    rw [setOpened_other different]

end Settled

theorem following_holds (reopens : Bool) : (Thread.following reopens).holds c = false := by
  cases reopens <;> rfl

theorem following_await (reopens : Bool) : Thread.following reopens ≠ .await c := by
  cases reopens <;> simp [Thread.following]

theorem Settled.awaited (settled : v.Settled c) (member : .await d ∈ v.threads) {ok gaveUp : Bool}
    (taken : v.runThread t ok gaveUp (.await d) = some v') : v'.Settled c := by
  simp only [runThread] at taken
  split at taken
  · obtain rfl := Option.some.inj taken
    refine Settled.moved (v := v.setOpened d _) ?_ settled.out rfl rfl (by simp) rfl
    by_cases same : c = d
    · subst same
      refine settled.keeps settled.out (fun _ old => .inl old) ?_ ?_ ?_ <;>
        simp [setOpened]
    · exact settled.opened same _
  · split at taken
    · next ready =>
        obtain rfl := Option.some.inj taken
        have different : d ≠ c := by
          rintro rfl
          rw [settled.unawaited member] at ready
          contradiction
        exact settled.moved settled.out rfl (by simpa [Thread.holds] using different)
          (by simp) rfl
    · obtain rfl := Option.some.inj taken
      exact settled.moved settled.out rfl rfl (by simp) rfl
    · contradiction

theorem Settled.runThread (settled : v.Settled c) (inRange : c < v.opened)
    (member : thread ∈ v.threads) {ok gaveUp : Bool}
    (taken : v.runThread t ok gaveUp thread = some v') : v'.Settled c := by
  have unheld := settled.unheld thread member
  cases thread with
  | take reopens =>
      simp only [runThread, Option.some.injEq] at taken
      subst taken
      cases at_source : v.camera with
      | none =>
          exact settled.moved (by simp [setThread]) rfl (following_holds reopens)
            (following_await reopens) rfl
      | some d =>
          have different : d ≠ c := fun same => settled.out (same ▸ at_source)
          exact settled.moved (by simp [setThread]) rfl (by simpa [Thread.holds] using different)
            (by simp) rfl
  | release d reopens =>
      have different : c ≠ d := fun same => by simp [Thread.holds, same] at unheld
      simp only [runThread] at taken
      split at taken
      · obtain rfl := Option.some.inj taken
        exact (settled.adopted different _).moved settled.out rfl rfl (by simp) rfl
      · obtain rfl := Option.some.inj taken
        exact settled.moved settled.out rfl (following_holds reopens) (following_await reopens) rfl
  | join d reopens =>
      simp only [runThread] at taken
      split at taken
      · obtain rfl := Option.some.inj taken
        exact settled.moved settled.out rfl (following_holds reopens) (following_await reopens) rfl
      · contradiction
  | create =>
      simp only [runThread] at taken
      split at taken
      · obtain rfl := Option.some.inj taken
        have different : c ≠ v.opened := Nat.ne_of_lt inRange
        refine (settled.opened different {}).moved settled.out rfl rfl ?_ rfl
        intro same
        injection same with same
        exact different same.symm
      · obtain rfl := Option.some.inj taken
        exact settled.moved settled.out rfl rfl (by simp) rfl
  | await d => exact settled.awaited member taken
  | joinFailed d =>
      simp only [runThread] at taken
      split at taken
      · obtain rfl := Option.some.inj taken
        exact settled.moved settled.out rfl rfl (by simp) rfl
      · contradiction
  | store d =>
      have different : d ≠ c := by simpa [Thread.holds] using unheld
      simp only [runThread, Option.some.injEq] at taken
      subst taken
      have out : some d ≠ some c := fun same => different (Option.some.inj same)
      cases at_source : v.camera with
      | none => exact settled.moved out rfl rfl (by simp) rfl
      | some old =>
          have older : old ≠ c := fun same => settled.out (same ▸ at_source)
          exact settled.moved out rfl (by simpa [Thread.holds] using older) (by simp) rfl
  | control d =>
      have different : c ≠ d := fun same => by simp [Thread.holds, same] at unheld
      obtain ⟨s, _, rfl⟩ := Option.map_eq_some_iff.mp taken
      exact (settled.adopted different s).moved settled.out rfl
        (by simpa [Thread.holds] using different.symm) (by simp) rfl
  | call d k =>
      have different : c ≠ d := fun same => by simp [Thread.holds, same] at unheld
      simp only [runThread] at taken
      split at taken
      · contradiction
      · split at taken
        · obtain rfl := Option.some.inj taken
          exact settled.moved settled.out rfl (by simpa [Thread.holds] using different.symm)
            (by simp) rfl
        · obtain ⟨s, _, rfl⟩ := Option.map_eq_some_iff.mp taken
          exact settled.adopted different s
  | done => contradiction

theorem view_resting (resting : (v.cameras c).state.worker.Resting) : (v.view c).worker.Resting :=
  ⟨resting.idle, resting.empty, resting.unread, resting.unflushed⟩

theorem Settled.runWorker (settled : v.Settled c) {native : Native}
    (taken : v.runWorker d native = some v') : v'.Settled c := by
  have different : c ≠ d := by
    rintro rfl
    rcases settled.worker with gone | ⟨running, resting⟩
    · simp [NativeSource.runWorker, gone] at taken
    · have idle := resting.idle
      have still : (v.view c).step (.worker native) = none := by
        simp [State.step, (view_resting resting).run_none]
      simp [NativeSource.runWorker, running, idle, still] at taken
  simp only [NativeSource.runWorker] at taken
  split at taken
  · split at taken <;>
      (obtain rfl := Option.some.inj taken; exact settled.opened different _)
  · split at taken <;>
      (obtain rfl := Option.some.inj taken; exact settled.opened different _)
  · split at taken
    · obtain rfl := Option.some.inj taken
      exact settled.opened different _
    · obtain ⟨s, _, rfl⟩ := Option.map_eq_some_iff.mp taken
      exact settled.adopted different s
  · obtain rfl := Option.some.inj taken
    have moved := settled.opened different { v.cameras d with thread := .gone }
    exact ⟨moved.out, moved.unheld, moved.unawaited, moved.worker⟩
  · contradiction

theorem Settled.unresting (settled : v.Settled c) (running : (v.cameras d).thread = .running)
    (working : ¬ (v.cameras d).state.worker.Resting) : c ≠ d := by
  rintro rfl
  rcases settled.worker with gone | ⟨_, resting⟩
  · rw [gone] at running
    contradiction
  · exact working resting

theorem Settled.act (settled : v.Settled c) (inRange : c < v.opened) {a : SourceAction}
    (taken : v.act a = some v') : v'.Settled c := by
  have cloned : ∀ {d}, v.camera = some d → d ≠ c :=
    fun at_source same => settled.out (same ▸ at_source)
  cases a with
  | reopen =>
      cases taken
      exact settled.spawned rfl (by simp)
  | release =>
      cases taken
      exact settled.spawned rfl (by simp)
  | capabilities =>
      obtain ⟨d, at_source, rfl⟩ := Option.map_eq_some_iff.mp taken
      exact settled.spawned (by simpa [Thread.holds] using cloned at_source) (by simp)
  | control =>
      obtain ⟨d, at_source, rfl⟩ := Option.map_eq_some_iff.mp taken
      exact settled.spawned (by simpa [Thread.holds] using cloned at_source) (by simp)
  | call start =>
      obtain ⟨d, at_source, made⟩ := Option.bind_eq_some_iff.mp taken
      obtain ⟨s, _, rfl⟩ := Option.map_eq_some_iff.mp made
      have different := cloned at_source
      exact (settled.adopted different.symm s).spawned
        (by simpa [Thread.holds] using different) (by simp)
  | run t ok gaveUp =>
      obtain ⟨thread, here, made⟩ := Option.bind_eq_some_iff.mp taken
      exact settled.runThread inRange (List.mem_of_getElem? here) made
  | worker d native =>
      simp only [NativeSource.act] at taken
      split at taken
      · exact settled.runWorker taken
      · contradiction
  | onReadSample d epoch =>
      simp only [NativeSource.act] at taken
      split at taken
      · next allowed =>
          obtain ⟨s, arrived, rfl⟩ := Option.map_eq_some_iff.mp taken
          refine settled.adopted (settled.unresting allowed.2 fun resting => ?_) s
          simp [State.step, (view_resting resting).onReadSample_none] at arrived
      · contradiction
  | onFlush d =>
      simp only [NativeSource.act] at taken
      split at taken
      · next allowed =>
          obtain ⟨s, arrived, rfl⟩ := Option.map_eq_some_iff.mp taken
          refine settled.adopted (settled.unresting allowed.2 fun resting => ?_) s
          simp [State.step, (view_resting resting).onFlush_none] at arrived
      · contradiction
  | hubStop =>
      cases taken
      exact ⟨settled.out, settled.unheld, settled.unawaited, settled.worker⟩

theorem Settled.stops (settled : v.Settled c) (a : SourceAction) : v.stops a ≠ some c := by
  intro stopped
  cases a with
  | run t ok gaveUp =>
      simp only [NativeSource.stops] at stopped
      split at stopped
      · next d reopens here =>
          have unheld := settled.unheld _ (List.mem_of_getElem? here)
          split at stopped
          · obtain rfl := Option.some.inj stopped
            simp [Thread.holds] at unheld
          · contradiction
      · next d k here =>
          have unheld := settled.unheld _ (List.mem_of_getElem? here)
          split at stopped
          · obtain rfl := Option.some.inj stopped
            simp [Thread.holds] at unheld
          · contradiction
      · contradiction
  | worker d native =>
      simp only [NativeSource.stops] at stopped
      split at stopped
      · next dropping =>
          obtain rfl := Option.some.inj stopped
          rcases settled.worker with gone | ⟨running, _⟩ <;> simp_all
      · next running =>
          split at stopped
          · next fails =>
              obtain rfl := Option.some.inj stopped
              rcases settled.worker with gone | ⟨_, resting⟩
              · rw [gone] at running
                contradiction
              · rw [resting.fails_none] at fails
                contradiction
          · contradiction
      · contradiction
  | _ => contradiction

/-! ### Along a run -/

theorem runThread_opened {ok gaveUp : Bool} (taken : v.runThread t ok gaveUp thread = some v') :
    v.opened ≤ v'.opened := by
  cases thread with
  | create =>
      simp only [NativeSource.runThread] at taken
      split at taken
      · obtain rfl := Option.some.inj taken
        exact Nat.le_succ _
      · obtain rfl := Option.some.inj taken
        exact Nat.le_refl _
  | control d =>
      obtain ⟨s, _, rfl⟩ := Option.map_eq_some_iff.mp taken
      exact Nat.le_refl _
  | call d k =>
      simp only [NativeSource.runThread] at taken
      split at taken
      · contradiction
      · split at taken
        · obtain rfl := Option.some.inj taken
          exact Nat.le_refl _
        · obtain ⟨s, _, rfl⟩ := Option.map_eq_some_iff.mp taken
          exact Nat.le_refl _
  | _ =>
      simp only [NativeSource.runThread] at taken
      (repeat' split at taken) <;>
        first
        | contradiction
        | (obtain rfl := Option.some.inj taken; exact Nat.le_refl _)

private theorem runWorker_opened {native : Native} (taken : v.runWorker d native = some v') :
    v.opened ≤ v'.opened := by
  simp only [NativeSource.runWorker] at taken
  (repeat' split at taken) <;>
    first
    | contradiction
    | (obtain rfl := Option.some.inj taken; exact Nat.le_refl _)
    | (obtain ⟨s, _, rfl⟩ := Option.map_eq_some_iff.mp taken; exact Nat.le_refl _)

theorem act_opened {a : SourceAction} (taken : v.act a = some v') : v.opened ≤ v'.opened := by
  cases a with
  | reopen =>
      cases taken
      exact Nat.le_refl _
  | release =>
      cases taken
      exact Nat.le_refl _
  | capabilities =>
      obtain ⟨d, _, rfl⟩ := Option.map_eq_some_iff.mp taken
      exact Nat.le_refl _
  | control =>
      obtain ⟨d, _, rfl⟩ := Option.map_eq_some_iff.mp taken
      exact Nat.le_refl _
  | call start =>
      obtain ⟨d, _, made⟩ := Option.bind_eq_some_iff.mp taken
      obtain ⟨s, _, rfl⟩ := Option.map_eq_some_iff.mp made
      exact Nat.le_refl _
  | run t ok gaveUp =>
      obtain ⟨thread, _, made⟩ := Option.bind_eq_some_iff.mp taken
      exact runThread_opened made
  | worker d native =>
      simp only [NativeSource.act] at taken
      split at taken
      · exact runWorker_opened taken
      · contradiction
  | onReadSample d epoch =>
      simp only [NativeSource.act] at taken
      split at taken
      · obtain ⟨s, _, rfl⟩ := Option.map_eq_some_iff.mp taken
        exact Nat.le_refl _
      · contradiction
  | onFlush d =>
      simp only [NativeSource.act] at taken
      split at taken
      · obtain ⟨s, _, rfl⟩ := Option.map_eq_some_iff.mp taken
        exact Nat.le_refl _
      · contradiction
  | hubStop =>
      cases taken
      exact Nat.le_refl _

private theorem starts_opened {a : SourceAction} (taken : v.act a = some v')
    (started : v.starts a = some d) : d < v.opened := by
  cases a with
  | worker c native =>
      simp only [NativeSource.starts] at started
      split at started
      · obtain rfl := Option.some.inj started
        simp only [NativeSource.act] at taken
        split at taken
        · assumption
        · contradiction
      · contradiction
  | _ => contradiction

/-- Every camera opened before one that has started the hub is out of the way. -/
structure Cleared (v : NativeSource) : Prop where
  known : ∀ d ∈ v.begun, d < v.opened
  settled : ∀ d ∈ v.begun, ∀ c, c < d → v.Settled c

theorem Cleared.step (cleared : v.Cleared) {a : SourceAction} (admitted : v.alone a)
    (taken : v.step a = some v') : v'.Cleared := by
  obtain ⟨u, made, rfl⟩ := Option.map_eq_some_iff.mp taken
  have known : ∀ d ∈ v.begun ++ (v.starts a).toList, d < v.opened := by
    intro d member
    rcases List.mem_append.mp member with old | new
    · exact cleared.known d old
    · exact starts_opened made (Option.mem_toList.mp new)
  have settled : ∀ d ∈ v.begun ++ (v.starts a).toList, ∀ c, c < d → v.Settled c := by
    intro d member c earlier
    rcases List.mem_append.mp member with old | new
    · exact cleared.settled d old c earlier
    · have started : v.starts a = some d := Option.mem_toList.mp new
      simp only [NativeSource.alone, startsAlone, started, Option.all_some, List.all_eq_true,
        List.mem_range, decide_eq_true_eq] at admitted
      exact admitted c earlier
  constructor
  · intro d member
    have kept : v.opened ≤ u.opened := act_opened made
    exact Nat.lt_of_lt_of_le (known d member) kept
  · intro d member c earlier
    have inRange := Nat.lt_trans earlier (known d member)
    have later := (settled d member c earlier).act inRange made
    exact ⟨later.out, later.unheld, later.unawaited, later.worker⟩

theorem cleared_holds (reached : sourceMachine.Reachable NativeSource.alone v) : v.Cleared := by
  refine reached.invariant (P := Cleared) ?_ fun v a v' admitted taken cleared =>
    cleared.step admitted taken
  rintro v rfl
  exact ⟨by simp, by simp⟩

end NativeSource

/-! ### Every stop of the hub is made for somebody -/

namespace Worker

variable {w w' : Worker} {cancelled : CallId → Bool} {native : Native}

theorem push_streaming (event : Event) : (w.push event).streaming = w.streaming := by
  unfold push
  split <;> rfl

private theorem run_streaming (taken : w.run cancelled native = some w') (on : w.streaming = true)
    (off : w'.streaming = false) : w.fails cancelled native = true := by
  unfold run at taken
  split at taken
  · next idle =>
      unfold take at taken
      split at taken
      · contradiction
      · next event rest queue =>
          cases event with
          | stop k => simp [fails, idle, queue]
          | quit => simp [fails, idle, queue]
          | sample epoch =>
              obtain rfl := Option.some.inj taken
              by_cases running : w.running = true <;> simp_all
          | flushed =>
              simp only at taken
              split at taken <;> (obtain rfl := Option.some.inj taken; simp_all)
          | _ => (obtain rfl := Option.some.inj taken; simp_all)
  · obtain rfl := Option.some.inj taken
    simp_all
  · obtain rfl := Option.some.inj taken
    simp_all
  · obtain rfl := Option.some.inj taken
    simp_all
  · next here =>
      split at taken
      · obtain rfl := Option.some.inj taken
        simp_all
      · simp_all [fails]
  · next here =>
      split at taken
      · simp_all [fails]
      · obtain rfl := Option.some.inj taken
        simp_all
  · obtain rfl := Option.some.inj taken
    simp_all
  · split at taken <;> (obtain rfl := Option.some.inj taken; simp_all)
  · next here =>
      split at taken
      · simp_all [fails]
      · obtain rfl := Option.some.inj taken
        simp_all
      · obtain rfl := Option.some.inj taken
        simp_all
  · next here =>
      split at taken
      · obtain rfl := Option.some.inj taken
        simp_all
      · simp_all [fails]
  · contradiction

end Worker

theorem State.Calls.streaming {s s' : State} {k : CallId} {call : Call} (step : s.Calls k call s')
    (on : s.worker.streaming = true) (off : s'.worker.streaming = false) :
    call.pc = .hubStop := by
  have kept : s'.worker.streaming = s.worker.streaming ∨ call.pc = .hubStop := by
    cases step with
    | hubStop here => exact .inr here
    | sendStop here => exact .inl (Worker.push_streaming (.stop k))
    | _ => exact .inl rfl
  rcases kept with same | here
  · rw [same, on] at off
    contradiction
  · exact here

namespace NativeSource

variable {v v' : NativeSource} {a : SourceAction}

private theorem runThread_streaming {t : ThreadId} {thread : Thread} {ok gaveUp : Bool}
    (here : v.threads[t]? = some thread) (made : v.runThread t ok gaveUp thread = some v')
    (on : v.streaming = true) (off : v'.streaming = false) :
    ∃ c, v.stops (.run t ok gaveUp) = some c := by
  have same : ∀ {P : Prop}, v'.streaming = v.streaming → P := by
    intro P same
    rw [same, on] at off
    contradiction
  cases thread with
  | release d reopens =>
      simp only [runThread] at made
      split at made
      · next last => exact ⟨d, by simp [stops, here, last]⟩
      · obtain rfl := Option.some.inj made
        exact same rfl
  | control d =>
      obtain ⟨s, sent, rfl⟩ := Option.map_eq_some_iff.mp made
      simp only [State.step] at sent
      split at sent
      · contradiction
      · obtain rfl := Option.some.inj sent
        exact same (Worker.push_streaming .other)
  | call d k =>
      simp only [runThread] at made
      split at made
      · contradiction
      · next call found =>
          split at made
          · obtain rfl := Option.some.inj made
            exact same rfl
          · obtain ⟨s, ran, rfl⟩ := Option.map_eq_some_iff.mp made
            have known : (v.view d).calls k = some call := found
            simp only [State.step, known] at ran
            have stopping := (State.calls_of_runCall ran).streaming on off
            exact ⟨d, by simp [stops, here, found, stopping]⟩
  | _ =>
      simp only [runThread] at made
      (repeat' split at made) <;>
        first
        | contradiction
        | (obtain rfl := Option.some.inj made; exact same rfl)

private theorem runWorker_streaming {d : CameraId} {native : Native}
    (taken : v.runWorker d native = some v') (on : v.streaming = true)
    (off : v'.streaming = false) : v.stops (.worker d native) = some d := by
  have same : ∀ {P : Prop}, v'.streaming = v.streaming → P := by
    intro P same
    rw [same, on] at off
    contradiction
  simp only [runWorker] at taken
  split at taken
  · split at taken <;> (obtain rfl := Option.some.inj taken; exact same rfl)
  · split at taken <;> (obtain rfl := Option.some.inj taken; exact same rfl)
  · next running =>
      split at taken
      · obtain rfl := Option.some.inj taken
        exact same rfl
      · obtain ⟨s, ran, rfl⟩ := Option.map_eq_some_iff.mp taken
        obtain ⟨w, moved, rfl⟩ := Option.map_eq_some_iff.mp ran
        have fails := Worker.run_streaming moved on off
        have same : (v.view d).worker.fails (v.view d).cancelled native =
            (v.cameras d).state.worker.fails (v.cameras d).state.cancelled native := rfl
        rw [same] at fails
        simp [stops, running, fails]
  · next dropping => simp [stops, dropping]
  · contradiction

private theorem onReadSample_streaming {w w' : Worker} {epoch : Nat}
    (read : w.onReadSample epoch = some w') : w'.streaming = w.streaming := by
  simp only [Worker.onReadSample] at read
  split at read
  · obtain rfl := Option.some.inj read
    exact Worker.push_streaming (.sample epoch)
  · contradiction

private theorem onFlush_streaming {w w' : Worker} (flushed : w.onFlush = some w') :
    w'.streaming = w.streaming := by
  simp only [Worker.onFlush] at flushed
  split at flushed
  · obtain rfl := Option.some.inj flushed
    exact Worker.push_streaming .flushed
  · contradiction

private theorem act_streaming (taken : v.act a = some v') (on : v.streaming = true)
    (off : v'.streaming = false) : a = .hubStop ∨ ∃ c, v.stops a = some c := by
  have same : ∀ {P : Prop}, v'.streaming = v.streaming → P := by
    intro P same
    rw [same, on] at off
    contradiction
  cases a with
  | hubStop => exact .inl rfl
  | reopen =>
      cases taken
      exact same rfl
  | release =>
      cases taken
      exact same rfl
  | capabilities =>
      obtain ⟨d, _, rfl⟩ := Option.map_eq_some_iff.mp taken
      exact same rfl
  | control =>
      obtain ⟨d, _, rfl⟩ := Option.map_eq_some_iff.mp taken
      exact same rfl
  | call start =>
      obtain ⟨d, _, made⟩ := Option.bind_eq_some_iff.mp taken
      obtain ⟨s, issued, rfl⟩ := Option.map_eq_some_iff.mp made
      simp only [State.step] at issued
      split at issued
      · contradiction
      · obtain rfl := Option.some.inj issued
        exact same rfl
  | run t ok gaveUp =>
      obtain ⟨thread, here, made⟩ := Option.bind_eq_some_iff.mp taken
      exact .inr (runThread_streaming here made on off)
  | worker d native =>
      simp only [act] at taken
      split at taken
      · exact .inr ⟨d, runWorker_streaming taken on off⟩
      · contradiction
  | onReadSample d epoch =>
      simp only [act] at taken
      split at taken
      · obtain ⟨s, arrived, rfl⟩ := Option.map_eq_some_iff.mp taken
        obtain ⟨w, read, rfl⟩ := Option.map_eq_some_iff.mp arrived
        exact same (onReadSample_streaming read)
      · contradiction
  | onFlush d =>
      simp only [act] at taken
      split at taken
      · obtain ⟨s, arrived, rfl⟩ := Option.map_eq_some_iff.mp taken
        obtain ⟨w, flushed, rfl⟩ := Option.map_eq_some_iff.mp arrived
        exact same (onFlush_streaming flushed)
      · contradiction

/-- No stop of the hub is made for a camera once a camera that was opened later has begun
an epoch; and a hub that goes silent was stopped by its session or for some camera. -/
structure SparesSuccessors (v : NativeSource) : Prop where
  stops : ∀ a c, v.stops a = some c → ∀ d ∈ v.begun, d ≤ c
  made : ∀ a v', v.step a = some v' → v.streaming = true → v'.streaming = false →
    a = .hubStop ∨ ∃ c, v.stops a = some c

/-- In runs in which the hub is started for a camera only when every camera opened before
it is out of the way, no camera and no worker stops the hub after a successor of it has
started. -/
theorem replaced_spares_successors (reached : sourceMachine.Reachable NativeSource.alone v) :
    v.SparesSuccessors where
  stops a c stopped d begun := by
    by_contra later
    exact ((cleared_holds reached).settled d begun c (Nat.lt_of_not_le later)).stops a stopped
  made a v' taken on off := by
    obtain ⟨u, acted, rfl⟩ := Option.map_eq_some_iff.mp taken
    exact act_streaming acted on off

def working : Native := ⟨true, .frame⟩

/-- Thread `t` calls `new_selected`, which opens camera `c`, and stores it. -/
def opening (t : ThreadId) (c : CameraId) : List SourceAction :=
  [.run t true false, .worker c working, .worker c working, .run t true false, .run t true false]

def starting (t : ThreadId) (c : CameraId) : List SourceAction :=
  [SourceAction.call true] ++ List.replicate 3 (SourceAction.run t true false) ++
  List.replicate 4 (SourceAction.worker c working)

/-- `reopen` drops the last clone of camera 0 and waits for its worker to end. -/
def replacing : List SourceAction :=
  [.reopen, .run 0 true false, .run 0 true false, .worker 0 working, .worker 0 working,
    .worker 0 working, .run 0 true false]

theorem replaced_spares_successors_once :
    ∃ v, sourceMachine.Reachable NativeSource.alone v ∧ 1 ∈ v.begun ∧ v.streaming = true ∧
      v.SparesSuccessors := by
  have passed : ((sourceMachine.exec startsAlone {} (replacing ++ opening 0 1 ++
      starting 1 1)).any fun v => decide (1 ∈ v.begun) && v.streaming) = true := by
    decide +kernel
  obtain ⟨v, reached, ended⟩ := Lib.Machine.Reachable.of_exec rfl passed
  simp only [Bool.and_eq_true, decide_eq_true_eq] at ended
  exact ⟨v, reached, ended.1, ended.2, replaced_spares_successors reached⟩

/-! ### What goes wrong otherwise -/

/-- A capability query still has camera 0 when `reopen` takes it out; the query ends after
the new camera has begun an epoch. -/
def cloneOutlives : List SourceAction :=
  [SourceAction.capabilities, .reopen, .run 1 true false, .run 1 true false] ++ opening 1 1 ++
  starting 2 1

example :
    ((sourceMachine.exec (fun _ _ => true) {} cloneOutlives).any fun v =>
      decide (1 ∈ v.begun) && v.streaming &&
      decide (v.stops (.run 0 true false) = some 0) &&
      (v.step (.run 0 true false)).any fun v' => !v'.streaming) = true := by
  decide +kernel

/-- `new_selected` gives up on camera 1; its worker is ready after the next attempt has
opened camera 2 and started it, and drops the `Worker` nobody wants. -/
def openOutlives : List SourceAction :=
  replacing ++ [SourceAction.run 0 true false, .run 0 true true, .reopen, .run 1 true false] ++
    opening 1 2 ++ starting 2 2 ++ [SourceAction.worker 1 working, .worker 1 working]

private theorem openOutlives_stops_successor :
    ((sourceMachine.exec (fun _ _ => true) {} openOutlives).any fun v =>
      decide (2 ∈ v.begun) && v.streaming &&
      decide (v.stops (.worker 1 working) = some 1) &&
      (v.step (.worker 1 working)).any fun v' => !v'.streaming) = true := by
  decide +kernel

theorem not_always_spares_successors :
    ¬ ∀ v, sourceMachine.Reachable Lib.Machine.anything v → v.SparesSuccessors := by
  intro always
  obtain ⟨v, reached, late⟩ := Lib.Machine.Reachable.of_exec rfl openOutlives_stops_successor
  simp only [Bool.and_eq_true, decide_eq_true_eq] at late
  have spares := always v (reached.mono fun _ _ _ => trivial)
  have older := spares.stops _ 1 late.1.2 2 late.1.1.1
  exact absurd older (by decide)

end NativeSource

end CameraRs.MediaFoundation
