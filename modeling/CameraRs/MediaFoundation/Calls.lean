/-
Callers of the worker.

Only the holder of the `lifecycle` lock sends starts and stops, and a start that gives up
waiting sends a `Stop` before it lets another caller in.
-/

import CameraRs.MediaFoundation.Order

namespace CameraRs.MediaFoundation

variable {s s' : State} {k j : CallId} {call other : Call} {native : Native} {w : Worker}

def CallPc.sent : CallPc → Bool
  | .lock | .check | .send => false
  | _ => true

def CallPc.waits : CallPc → Bool
  | .wait | .cancel | .hubStop | .sendStop => true
  | _ => false

/-- Where a start that gave up may be once it has raised its flag. -/
def CallPc.late : CallPc → Bool
  | .hubStop | .sendStop | .unlock | .returned => true
  | _ => false

def CallPc.done : CallPc → Bool
  | .unlock | .returned => true
  | _ => false

def CallPc.stopSent : CallPc → Bool
  | .awaitStop | .unlock | .returned => true
  | _ => false

namespace State

/-- The steps of a caller, one by one. -/
inductive Calls (s : State) (k : CallId) (call : Call) : State → Prop
  | lock (here : call.pc = .lock) (free : s.lifecycle = none) :
      Calls s k call { s.setCall k { call with pc := if call.start then .check else .hubStop } with
        lifecycle := some k }
  | checked (here : call.pc = .check) (next : CallPc) (either : next = .unlock ∨ next = .send) :
      Calls s k call (s.setCall k { call with pc := next })
  | unsent (here : call.pc = .send) (ended : s.worker.pc = .ended) :
      Calls s k call (s.setCall k { call with pc := .unlock })
  | send (here : call.pc = .send) (receiving : s.worker.pc ≠ .ended) :
      Calls s k call { s.setCall k { call with pc := .wait } with
        worker := { s.worker with queue := s.worker.queue ++ [.start k] }
        lastStart := some k }
  | giveUp (here : call.pc = .wait) : Calls s k call (s.setCall k { call with pc := .cancel })
  | answered (here : call.pc = .wait) (given : k ∈ s.worker.answers.map Prod.fst) :
      Calls s k call (s.setCall k { call with pc := .unlock })
  | cancel (here : call.pc = .cancel) :
      Calls s k call (s.setCall k { call with pc := .hubStop, cancelled := true })
  | hubStop (here : call.pc = .hubStop) :
      Calls s k call { s.setCall k { call with pc := .sendStop } with worker := s.worker.hubStop }
  | sendStop (here : call.pc = .sendStop) :
      Calls s k call { s.setCall k { call with
          pc := if call.start then .unlock else .awaitStop
          timedOut := call.start } with
        worker := s.worker.push (.stop k) }
  | awaited (here : call.pc = .awaitStop) :
      Calls s k call (s.setCall k { call with pc := .unlock })
  | unlock (here : call.pc = .unlock) :
      Calls s k call { s.setCall k { call with pc := .returned } with lifecycle := none }

private theorem answered_mem {answer : Answer} (found : s.answered k = some answer) :
    k ∈ s.worker.answers.map Prod.fst := by
  obtain ⟨entry, first, _⟩ := Option.map_eq_some_iff.mp found
  have same : entry.1 = k := by simpa using List.find?_some first
  exact List.mem_map.mpr ⟨entry, List.mem_of_find?_eq_some first, same⟩

theorem calls_of_runCall {gaveUp : Bool} (taken : s.runCall k call gaveUp = some s') :
    s.Calls k call s' := by
  unfold runCall at taken
  split at taken
  · next here =>
      split at taken
      · next free =>
          obtain rfl := Option.some.inj taken
          exact .lock here (Option.isNone_iff_eq_none.mp free)
      · contradiction
  · next here =>
      obtain rfl := Option.some.inj taken
      refine .checked here _ ?_
      split
      · exact .inl rfl
      · exact .inr rfl
  · next here =>
      split at taken
      · next ended =>
          obtain rfl := Option.some.inj taken
          exact .unsent here ended
      · next receiving =>
          obtain rfl := Option.some.inj taken
          rw [Worker.push_receiving receiving]
          exact .send here receiving
  · next here =>
      split at taken
      · obtain rfl := Option.some.inj taken
        exact .giveUp here
      · split at taken
        · obtain rfl := Option.some.inj taken
          exact .giveUp here
        · next found =>
            obtain rfl := Option.some.inj taken
            exact .answered here (answered_mem found)
        · contradiction
  · next here =>
      obtain rfl := Option.some.inj taken
      exact .cancel here
  · next here =>
      obtain rfl := Option.some.inj taken
      exact .hubStop here
  · next here =>
      obtain rfl := Option.some.inj taken
      exact .sendStop here
  · next here =>
      split at taken
      · obtain rfl := Option.some.inj taken
        exact .awaited here
      · contradiction
  · next here =>
      obtain rfl := Option.some.inj taken
      exact .unlock here
  · contradiction

theorem setCall_self : (s.setCall k call).calls k = some call := Function.update_self ..

theorem setCall_other (different : j ≠ k) : (s.setCall k call).calls j = s.calls j :=
  Function.update_of_ne different ..

theorem setCall_cases {later : Call} (there : (s.setCall k later).calls j = some other) :
    (j = k ∧ other = later) ∨ j ≠ k ∧ s.calls j = some other := by
  by_cases same : j = k
  · rw [same, setCall_self] at there
    exact .inl ⟨same, (Option.some.inj there).symm⟩
  · rw [setCall_other same] at there
    exact .inr ⟨same, there⟩

/-- The state of a call says what its flags may be. -/
structure Shape (call : Call) : Prop where
  cancelled : call.cancelled = true → call.start = true ∧ call.pc.late = true
  timedOut : call.timedOut = true → call.pc.done = true
  starts : call.pc = .check ∨ call.pc = .send ∨ call.pc = .wait ∨ call.pc = .cancel →
    call.start = true

structure Held (s : State) : Prop where
  lock : ∀ k call, s.calls k = some call → call.pc ≠ .lock → call.pc ≠ .returned →
    s.lifecycle = some k
  issued : ∀ k call, s.calls k = some call → k < s.issued
  shape : ∀ k call, s.calls k = some call → Shape call

theorem Held.update (held : s.Held) (found : s.calls k = some call) {later : Call}
    {lifecycle : Option CallId} (shape : Shape later)
    (mine : later.pc ≠ .lock → later.pc ≠ .returned → lifecycle = some k)
    (others : ∀ j, j ≠ k → s.lifecycle = some j → lifecycle = some j) {w : Worker}
    {lastStart : Option CallId} :
    { s.setCall k later with
      lifecycle := lifecycle, worker := w, lastStart := lastStart }.Held := by
  constructor
  · intro j other there unlocked running
    rcases setCall_cases there with ⟨rfl, rfl⟩ | ⟨different, there⟩
    · exact mine unlocked running
    · exact others j different (held.lock j other there unlocked running)
  · intro j other there
    rcases setCall_cases there with ⟨rfl, rfl⟩ | ⟨_, there⟩
    · exact held.issued j call found
    · exact held.issued j other there
  · intro j other there
    rcases setCall_cases there with ⟨rfl, rfl⟩ | ⟨_, there⟩
    · exact shape
    · exact held.shape j other there

theorem Held.move (held : s.Held) (found : s.calls k = some call) (unlocked : call.pc ≠ .lock)
    (running : call.pc ≠ .returned) {later : Call} (shape : Shape later) {w : Worker}
    {lastStart : Option CallId} :
    { s.setCall k later with worker := w, lastStart := lastStart }.Held :=
  held.update found shape (fun _ _ => held.lock k call found unlocked running) fun _ _ same => same

theorem Shape.early (shape : Shape call) (early : call.pc.late = false)
    (undone : call.pc.done = false) (start : call.start = true) {pc : CallPc} :
    Shape { call with pc := pc } := by
  refine ⟨fun cancelled => ?_, fun timedOut => ?_, fun _ => start⟩
  · have late := (shape.cancelled cancelled).2
    rw [early] at late
    contradiction
  · have done := shape.timedOut timedOut
    rw [undone] at done
    contradiction

theorem Held.calls (held : s.Held) (found : s.calls k = some call) (step : s.Calls k call s') :
    s'.Held := by
  have shape := held.shape k call found
  have gaveUp : call.pc.done = false → call.timedOut ≠ true := fun undone timedOut => by
    rw [shape.timedOut timedOut] at undone
    contradiction
  cases step with
  | lock here free =>
      refine held.update found ⟨fun cancelled => ?_, fun timedOut => ?_, fun either => ?_⟩
        (fun _ _ => rfl) ?_
      · have late := (shape.cancelled cancelled).2
        rw [here] at late
        contradiction
      · exact absurd timedOut (gaveUp (by rw [here]; rfl))
      · cases start : call.start with
        | true => rfl
        | false => simp [start] at either
      · intro j _ holds
        rw [free] at holds
        contradiction
  | checked here next either =>
      exact held.move found (by rw [here]; simp) (by rw [here]; simp)
        (shape.early (by rw [here]; rfl) (by rw [here]; rfl) (shape.starts (.inl here)))
  | unsent here ended =>
      exact held.move found (by rw [here]; simp) (by rw [here]; simp)
        (shape.early (by rw [here]; rfl) (by rw [here]; rfl) (shape.starts (.inr (.inl here))))
  | send here receiving =>
      exact held.move found (by rw [here]; simp) (by rw [here]; simp)
        (shape.early (by rw [here]; rfl) (by rw [here]; rfl) (shape.starts (.inr (.inl here))))
  | giveUp here =>
      exact held.move found (by rw [here]; simp) (by rw [here]; simp)
        (shape.early (by rw [here]; rfl) (by rw [here]; rfl)
          (shape.starts (.inr (.inr (.inl here)))))
  | answered here given =>
      exact held.move found (by rw [here]; simp) (by rw [here]; simp)
        (shape.early (by rw [here]; rfl) (by rw [here]; rfl)
          (shape.starts (.inr (.inr (.inl here)))))
  | cancel here =>
      have start := shape.starts (.inr (.inr (.inr here)))
      refine held.move found (by rw [here]; simp) (by rw [here]; simp) ?_
      refine ⟨fun _ => ⟨start, rfl⟩, fun timedOut => ?_, fun _ => start⟩
      exact absurd timedOut (gaveUp (by rw [here]; rfl))
  | hubStop here =>
      refine held.move found (by rw [here]; simp) (by rw [here]; simp) ?_
      refine ⟨fun cancelled => ⟨(shape.cancelled cancelled).1, rfl⟩, fun timedOut => ?_, by simp⟩
      exact absurd timedOut (gaveUp (by rw [here]; rfl))
  | sendStop here =>
      refine held.move found (by rw [here]; simp) (by rw [here]; simp)
        ⟨fun cancelled => ?_, fun timedOut => ?_, fun either => ?_⟩
      · have start := (shape.cancelled cancelled).1
        exact ⟨start, by simp [start, CallPc.late]⟩
      · have start : call.start = true := timedOut
        simp [start, CallPc.done]
      · cases start : call.start with
        | true => rfl
        | false => simp [start] at either
  | awaited here =>
      refine held.move found (by rw [here]; simp) (by rw [here]; simp) ?_
      exact ⟨fun cancelled => ⟨(shape.cancelled cancelled).1, rfl⟩, fun _ => rfl, by simp⟩
  | unlock here =>
      refine held.update found ?_ (fun _ running => ?_) ?_
      · exact ⟨fun cancelled => ⟨(shape.cancelled cancelled).1, rfl⟩, fun _ => rfl, by simp⟩
      · exact absurd rfl running
      · intro j different holds
        have own := held.lock k call found (by rw [here]; simp) (by rw [here]; simp)
        rw [holds] at own
        exact absurd (Option.some.inj own) different

theorem Held.step {action : Action} (held : s.Held) (taken : s.step action = some s') :
    s'.Held := by
  cases action with
  | call start =>
      simp only [State.step] at taken
      split at taken
      · contradiction
      · obtain rfl := Option.some.inj taken
        constructor
        · intro j other there unlocked running
          rcases setCall_cases there with ⟨rfl, rfl⟩ | ⟨_, there⟩
          · exact absurd rfl unlocked
          · exact held.lock j other there unlocked running
        · intro j other there
          rcases setCall_cases there with ⟨rfl, rfl⟩ | ⟨_, there⟩
          · exact Nat.lt_succ_self _
          · exact Nat.lt_succ_of_lt (held.issued j other there)
        · intro j other there
          rcases setCall_cases there with ⟨rfl, rfl⟩ | ⟨_, there⟩
          · exact ⟨fun cancelled => by contradiction, fun timedOut => by contradiction, by simp⟩
          · exact held.shape j other there
  | other =>
      simp only [State.step] at taken
      split at taken
      · contradiction
      · obtain rfl := Option.some.inj taken
        exact ⟨held.lock, held.issued, held.shape⟩
  | run k gaveUp =>
      cases found : s.calls k with
      | none => simp [State.step, found] at taken
      | some call =>
          simp only [State.step, found] at taken
          exact held.calls found (calls_of_runCall taken)
  | worker native =>
      obtain ⟨w, _, rfl⟩ := Option.map_eq_some_iff.mp taken
      exact ⟨held.lock, held.issued, held.shape⟩
  | onReadSample epoch =>
      obtain ⟨w, _, rfl⟩ := Option.map_eq_some_iff.mp taken
      exact ⟨held.lock, held.issued, held.shape⟩
  | onFlush =>
      obtain ⟨w, _, rfl⟩ := Option.map_eq_some_iff.mp taken
      exact ⟨held.lock, held.issued, held.shape⟩
  | drop =>
      simp only [State.step] at taken
      split at taken
      · obtain rfl := Option.some.inj taken
        exact ⟨held.lock, held.issued, held.shape⟩
      · contradiction

theorem Held.initial : ({} : State).Held :=
  ⟨fun k call found => by contradiction, fun k call found => by contradiction,
    fun k call found => by contradiction⟩

end State

end CameraRs.MediaFoundation
