/-
One read in flight.

The worker asks for the next sample only when it has taken the last one. That holds along
every run in which no start is let in after a `Flush` has failed and left a read behind.
-/

import CameraRs.MediaFoundation.Calls

namespace CameraRs.MediaFoundation

variable {s s' : State} {k j : CallId} {call other : Call} {w : Worker}

namespace State

/-! ### What a step of a caller leaves as it is -/

theorem Calls.keeps (found : s.calls k = some call) (step : s.Calls k call s')
    (there : s.calls j = some other) : ∃ later, s'.calls j = some later ∧
      later.start = other.start ∧ (other.pc.sent = true → later.pc.sent = true) ∧
      (other.pc.stopSent = true → later.pc.stopSent = true) := by
  by_cases mine : j = k
  · subst mine
    rw [found] at there
    obtain rfl := Option.some.inj there
    cases step with
    | lock here free =>
        exact ⟨_, setCall_self, rfl, by simp [here, CallPc.sent], by simp [here, CallPc.stopSent]⟩
    | checked here next either =>
        exact ⟨_, setCall_self, rfl, by simp [here, CallPc.sent], by simp [here, CallPc.stopSent]⟩
    | unsent here ended => exact ⟨_, setCall_self, rfl, fun _ => rfl, fun _ => rfl⟩
    | send here receiving => exact ⟨_, setCall_self, rfl, fun _ => rfl, by simp [here, CallPc.stopSent]⟩
    | giveUp here => exact ⟨_, setCall_self, rfl, fun _ => rfl, by simp [here, CallPc.stopSent]⟩
    | answered here given => exact ⟨_, setCall_self, rfl, fun _ => rfl, fun _ => rfl⟩
    | cancel here => exact ⟨_, setCall_self, rfl, fun _ => rfl, by simp [here, CallPc.stopSent]⟩
    | hubStop here => exact ⟨_, setCall_self, rfl, fun _ => rfl, by simp [here, CallPc.stopSent]⟩
    | sendStop here =>
        refine ⟨_, setCall_self, rfl, fun _ => ?_, by simp [here, CallPc.stopSent]⟩
        cases call.start <;> rfl
    | awaited here => exact ⟨_, setCall_self, rfl, fun _ => rfl, fun _ => rfl⟩
    | unlock here => exact ⟨_, setCall_self, rfl, fun _ => rfl, fun _ => rfl⟩
  · have same : s'.calls j = s.calls j := by
      cases step <;> exact setCall_other mine
    exact ⟨other, same.trans there, rfl, id, id⟩

/-! ### Messages are sent once -/

structure Sent (s : State) : Prop where
  starts : ∀ k ∈ s.worker.starts, ∃ call, s.calls k = some call ∧ call.start = true ∧
    call.pc.sent = true
  startsOnce : s.worker.starts.Nodup
  stops : ∀ k ∈ s.worker.stops, ∃ call, s.calls k = some call ∧ call.pc.stopSent = true
  stopsOnce : s.worker.stops.Nodup

theorem Sent.perm (sent : s.Sent) (starts : w.starts.Perm s.worker.starts)
    (stops : w.stops.Perm s.worker.stops) : { s with worker := w }.Sent where
  starts := fun k there => sent.starts k (starts.subset there)
  startsOnce := starts.nodup_iff.mpr sent.startsOnce
  stops := fun k there => sent.stops k (stops.subset there)
  stopsOnce := stops.nodup_iff.mpr sent.stopsOnce

end State

namespace Worker

theorem push_plain {event : Event} (plain : event.mark? = none) :
    marks (w.push event).queue = marks w.queue := by
  by_cases ended : w.pc = .ended
  · rw [push_ended ended]
  · rw [push_receiving ended, marks_push, plain]
    exact List.append_nil _

theorem starts_push {event : Event} (plain : event.mark? = none) :
    (w.push event).starts = w.starts ∧ (w.push event).stops = w.stops := by
  have same := push_plain (w := w) plain
  by_cases ended : w.pc = .ended
  · rw [push_ended ended]
    exact ⟨rfl, rfl⟩
  · rw [push_receiving ended] at same ⊢
    simp only [starts, stops, same, and_self]

theorem onReadSample_messages {w' : Worker} {epoch : Nat} (taken : w.onReadSample epoch = some w') :
    marks w'.queue = marks w.queue ∧ w'.starts = w.starts ∧ w'.stops = w.stops := by
  obtain ⟨_, ⟨_, rfl⟩ | ⟨_, rfl⟩⟩ := onReadSample_cases taken
  · exact ⟨rfl, rfl, rfl⟩
  · have same : marks (w.queue ++ [.sample epoch]) = marks w.queue := by simp [marks_push, Event.mark?]
    simp only [starts, stops, same, and_self]

theorem onFlush_messages {w' : Worker} (taken : w.onFlush = some w') :
    marks w'.queue = marks w.queue ∧ w'.starts = w.starts ∧ w'.stops = w.stops := by
  obtain ⟨_, ⟨_, rfl⟩ | ⟨_, rfl⟩⟩ := onFlush_cases taken
  · exact ⟨rfl, rfl, rfl⟩
  · have same : marks (w.queue ++ [.flushed]) = marks w.queue := by simp [marks_push, Event.mark?]
    simp only [starts, stops, same, and_self]

private theorem starts_push_start :
    ({ w with queue := w.queue ++ [.start k] } : Worker).starts.Perm (k :: w.starts) ∧
    ({ w with queue := w.queue ++ [.start k] } : Worker).stops = w.stops := by
  have pushed : marks (w.queue ++ [.start k]) = marks w.queue ++ [.start k] := marks_push ..
  constructor
  · simp only [starts, pushed, startIds, List.filterMap_append, List.filterMap_cons,
      List.filterMap_nil, List.append_assoc, List.singleton_append]
    exact List.perm_middle
  · simp [stops, pushed, stopIds]

private theorem stops_push_stop :
    ({ w with queue := w.queue ++ [.stop k] } : Worker).stops.Perm (k :: w.stops) ∧
    ({ w with queue := w.queue ++ [.stop k] } : Worker).starts = w.starts := by
  have pushed : marks (w.queue ++ [.stop k]) = marks w.queue ++ [.stop k] := marks_push ..
  constructor
  · simp only [stops, pushed, stopIds, List.filterMap_append, List.filterMap_cons,
      List.filterMap_nil, List.append_assoc, List.singleton_append]
    exact List.perm_middle
  · simp [starts, pushed, startIds]

end Worker

namespace State

theorem Sent.unsent (sent : s.Sent) (found : s.calls k = some call) (step : s.Calls k call s')
    (starts : s'.worker.starts = s.worker.starts) (stops : s'.worker.stops = s.worker.stops) :
    s'.Sent where
  starts := by
    rw [starts]
    intro j there
    obtain ⟨other, known, start, gone⟩ := sent.starts j there
    obtain ⟨later, after, same, keeps, _⟩ := step.keeps found known
    exact ⟨later, after, same.trans start, keeps gone⟩
  startsOnce := starts ▸ sent.startsOnce
  stops := by
    rw [stops]
    intro j there
    obtain ⟨other, known, gone⟩ := sent.stops j there
    obtain ⟨later, after, _, _, keeps⟩ := step.keeps found known
    exact ⟨later, after, keeps gone⟩
  stopsOnce := stops ▸ sent.stopsOnce

theorem Sent.calls (sent : s.Sent) (held : s.Held) (found : s.calls k = some call)
    (step : s.Calls k call s') : s'.Sent := by
  have shape := held.shape k call found
  have all := step
  cases step with
  | lock here free => exact sent.unsent found all rfl rfl
  | checked here next either => exact sent.unsent found all rfl rfl
  | unsent here ended => exact sent.unsent found all rfl rfl
  | giveUp here => exact sent.unsent found all rfl rfl
  | answered here given => exact sent.unsent found all rfl rfl
  | cancel here => exact sent.unsent found all rfl rfl
  | hubStop here => exact sent.unsent found all rfl rfl
  | awaited here => exact sent.unsent found all rfl rfl
  | unlock here => exact sent.unsent found all rfl rfl
  | send here receiving =>
      obtain ⟨starts, stops⟩ := @Worker.starts_push_start k s.worker
      have fresh : k ∉ s.worker.starts := fun there => by
        obtain ⟨other, known, _, gone⟩ := sent.starts k there
        rw [found] at known
        obtain rfl := Option.some.inj known
        rw [here] at gone
        contradiction
      constructor
      · intro j there
        rcases List.mem_cons.mp (starts.subset there) with rfl | earlier
        · exact ⟨_, setCall_self, shape.starts (.inr (.inl here)), rfl⟩
        · obtain ⟨other, known, start, gone⟩ := sent.starts j earlier
          obtain ⟨later, after, same, keeps, _⟩ := all.keeps found known
          exact ⟨later, after, same.trans start, keeps gone⟩
      · exact starts.nodup_iff.mpr (List.nodup_cons.mpr ⟨fresh, sent.startsOnce⟩)
      · intro j there
        obtain ⟨other, known, gone⟩ := sent.stops j (stops ▸ there)
        obtain ⟨later, after, _, _, keeps⟩ := all.keeps found known
        exact ⟨later, after, keeps gone⟩
      · exact stops.symm ▸ sent.stopsOnce
  | sendStop here =>
      by_cases ended : s.worker.pc = .ended
      · have same : s.worker.push (.stop k) = s.worker := Worker.push_ended ended
        exact sent.unsent found all (congrArg Worker.starts same) (congrArg Worker.stops same)
      · obtain ⟨stops, starts⟩ := @Worker.stops_push_stop k s.worker
        rw [← Worker.push_receiving ended] at stops starts
        have fresh : k ∉ s.worker.stops := fun there => by
          obtain ⟨other, known, gone⟩ := sent.stops k there
          rw [found] at known
          obtain rfl := Option.some.inj known
          rw [here] at gone
          contradiction
        constructor
        · intro j there
          obtain ⟨other, known, start, gone⟩ := sent.starts j (starts ▸ there)
          obtain ⟨later, after, same, keeps, _⟩ := all.keeps found known
          exact ⟨later, after, same.trans start, keeps gone⟩
        · exact starts.symm ▸ sent.startsOnce
        · intro j there
          rcases List.mem_cons.mp (stops.subset there) with rfl | earlier
          · refine ⟨_, setCall_self, ?_⟩
            cases call.start <;> rfl
          · obtain ⟨other, known, gone⟩ := sent.stops j earlier
            obtain ⟨later, after, _, _, keeps⟩ := all.keeps found known
            exact ⟨later, after, keeps gone⟩
        · exact stops.nodup_iff.mpr (List.nodup_cons.mpr ⟨fresh, sent.stopsOnce⟩)

theorem Sent.step {action : Action} (sent : s.Sent) (held : s.Held) (sound : s.worker.Sound)
    (taken : s.step action = some s') : s'.Sent := by
  cases action with
  | call start =>
      simp only [State.step] at taken
      split at taken
      · contradiction
      · obtain rfl := Option.some.inj taken
        have known : ∀ {j other}, s.calls j = some other →
            (s.setCall s.issued { start := start }).calls j = some other := fun there =>
          (setCall_other (Nat.ne_of_lt (held.issued _ _ there))).trans there
        constructor
        · intro j there
          obtain ⟨other, before, rest⟩ := sent.starts j there
          exact ⟨other, known before, rest⟩
        · exact sent.startsOnce
        · intro j there
          obtain ⟨other, before, rest⟩ := sent.stops j there
          exact ⟨other, known before, rest⟩
        · exact sent.stopsOnce
  | other =>
      simp only [State.step] at taken
      split at taken
      · contradiction
      · obtain rfl := Option.some.inj taken
        obtain ⟨starts, stops⟩ := @Worker.starts_push s.worker .other rfl
        exact sent.perm (.of_eq starts) (.of_eq stops)
  | run k gaveUp =>
      cases found : s.calls k with
      | none => simp [State.step, found] at taken
      | some call =>
          simp only [State.step, found] at taken
          exact sent.calls held found (calls_of_runCall taken)
  | worker native =>
      obtain ⟨w, ran, rfl⟩ := Option.map_eq_some_iff.mp taken
      have step := Worker.runs_of_run ran
      exact sent.perm step.starts (step.stops sound)
  | onReadSample epoch =>
      obtain ⟨w, arrived, rfl⟩ := Option.map_eq_some_iff.mp taken
      obtain ⟨_, starts, stops⟩ := Worker.onReadSample_messages arrived
      exact sent.perm (.of_eq starts) (.of_eq stops)
  | onFlush =>
      obtain ⟨w, arrived, rfl⟩ := Option.map_eq_some_iff.mp taken
      obtain ⟨_, starts, stops⟩ := Worker.onFlush_messages arrived
      exact sent.perm (.of_eq starts) (.of_eq stops)
  | drop =>
      simp only [State.step] at taken
      split at taken
      · obtain rfl := Option.some.inj taken
        obtain ⟨starts, stops⟩ := @Worker.starts_push s.worker.hubStop .quit rfl
        exact ⟨fun k there => sent.starts k (starts ▸ there), starts.symm ▸ sent.startsOnce,
          fun k there => sent.stops k (stops ▸ there), stops.symm ▸ sent.stopsOnce⟩
      · contradiction

/-! ### A `Stop` follows what was left behind -/

def Waits (s : State) (k : CallId) : Prop :=
  ∃ call, s.calls k = some call ∧ call.start = true ∧ call.pc.waits = true

/-- A start that has given up and is about to send its `Stop`. -/
def Owing (s : State) : Prop :=
  ∃ k call, s.calls k = some call ∧ call.start = true ∧
    (call.pc = .hubStop ∨ call.pc = .sendStop)

structure Orderly (s : State) : Prop where
  queued : s.worker.pc ≠ .ended → s.worker.Queued s.Waits
  settling : s.worker.Settling s.Owing
  settled : ∀ k call, s.lastStart = some k → s.calls k = some call → call.timedOut = true →
    s.worker.pc = .ended ∨ s.worker.Settled
  ended : s.worker.pc = .ended → s.worker.running = false ∧ s.worker.streaming = false

end State

namespace Worker

variable {waits waits' : CallId → Prop} {owing owing' : Prop}

theorem Queued.mono (queued : w.Queued waits)
    (still : ∀ k, k ∈ startIds (marks w.queue) ++ w.pc.current.toList → waits k → waits' k) :
    w.Queued waits' where
  between := queued.between
  cover := covered_mono queued.cover fun k there => still k (List.mem_append_left _ there)
  first := queued.first
  currentCover := fun k current => (queued.currentCover k current).imp_left (still k (by
    simp [current]))

theorem Settling.mono (settling : w.Settling owing) (still : owing → owing') :
    w.Settling owing' := fun stranded =>
  (settling stranded).imp_right fun later => later.imp_right fun ⟨outside, first, either⟩ =>
    ⟨outside, first, either.imp_left still⟩

end Worker

namespace State

theorem Orderly.hubStop (orderly : s.Orderly) :
    { s with worker := s.worker.hubStop }.Orderly where
  queued := fun receiving => { orderly.queued receiving with }
  settling := fun stranded => orderly.settling { stranded with }
  settled := fun k call last found timedOut =>
    (orderly.settled k call last found timedOut).imp_right fun settled =>
      settled.imp_right fun ⟨clear, unstarted, halted, _⟩ => ⟨clear, unstarted, halted, rfl⟩
  ended := fun ended => ⟨(orderly.ended ended).1, rfl⟩

theorem Orderly.move (orderly : s.Orderly) (found : s.calls k = some call) {later : Call}
    {lifecycle : Option CallId} (start : later.start = call.start)
    (timedOut : later.timedOut = call.timedOut)
    (waits : k ∉ s.worker.answers.map Prod.fst → call.pc.waits = true → later.pc.waits = true)
    (once : s.worker.starts.Nodup)
    (owing : call.start = true → call.pc = .hubStop ∨ call.pc = .sendStop →
      later.pc = .hubStop ∨ later.pc = .sendStop) :
    { s.setCall k later with lifecycle := lifecycle }.Orderly where
  queued := fun receiving => by
    refine (orderly.queued receiving).mono fun j there => ?_
    rintro ⟨other, known, started, waiting⟩
    by_cases mine : j = k
    · subst mine
      rw [found] at known
      obtain rfl := Option.some.inj known
      have unanswered := (List.nodup_append.mp once).2.2 j there
      refine ⟨later, setCall_self, start.trans started, waits (fun given => ?_) waiting⟩
      exact unanswered j given rfl
    · exact ⟨other, (setCall_other mine).trans known, started, waiting⟩
  settling := by
    refine orderly.settling.mono ?_
    rintro ⟨j, other, known, started, about⟩
    by_cases mine : j = k
    · subst mine
      rw [found] at known
      obtain rfl := Option.some.inj known
      exact ⟨j, later, setCall_self, start.trans started, owing started about⟩
    · exact ⟨j, other, (setCall_other mine).trans known, started, about⟩
  settled := fun j other last known gaveUp => by
    rcases setCall_cases known with ⟨rfl, rfl⟩ | ⟨_, before⟩
    · exact orderly.settled j call last found (timedOut ▸ gaveUp)
    · exact orderly.settled j other last before gaveUp
  ended := orderly.ended

theorem Held.nobody (held : s.Held) (found : s.calls k = some call) (here : call.pc = .send) :
    ∀ j, ¬ s.Waits j := by
  rintro j ⟨other, known, _, waiting⟩
  have mine := held.lock k call found (by rw [here]; simp) (by rw [here]; simp)
  have theirs := held.lock j other known (fun at_pc => by rw [at_pc] at waiting; contradiction)
    (fun at_pc => by rw [at_pc] at waiting; contradiction)
  rw [mine] at theirs
  obtain rfl := Option.some.inj theirs
  rw [found] at known
  obtain rfl := Option.some.inj known
  rw [here] at waiting
  contradiction

theorem Orderly.send (orderly : s.Orderly) (held : s.Held) (found : s.calls k = some call)
    (here : call.pc = .send) (receiving : s.worker.pc ≠ .ended) :
    { s.setCall k { call with pc := .wait } with
      worker := { s.worker with queue := s.worker.queue ++ [Event.start k] }
      lastStart := some k }.Orderly := by
  have nobody := held.nobody found here
  have shape := held.shape k call found
  obtain ⟨between, cover, first, currentCover⟩ := orderly.queued receiving
  have pushed : marks (s.worker.queue ++ [Event.start k]) =
      marks s.worker.queue ++ [Mark.start k] := marks_push ..
  have closed : covered (fun _ => False) (marks s.worker.queue) :=
    covered_mono cover fun j _ waiting => nobody j waiting
  constructor
  · intro _
    constructor
    · exact pushed ▸ spaced_push_start between closed
    · rw [pushed]
      refine covered_push_start (covered_mono closed fun _ _ => False.elim) ?_
      exact ⟨_, setCall_self, shape.starts (.inr (.inl here)), rfl⟩
    · intro j current
      rw [pushed]
      have stops := (currentCover j current).resolve_left (nobody j)
      exact stopFirst_push_start (first j current) stops
    · intro j current
      rw [pushed]
      exact .inr (hasStop_push ((currentCover j current).resolve_left (nobody j)))
  · intro stranded
    have before : s.worker.Stranded := { stranded with
      inFlight := fun none => stranded.inFlight (by
        change s.worker.outstanding ++ samples (s.worker.queue ++ [Event.start k]) = []
        rw [samples_append]
        exact (List.append_nil _).symm ▸ none) }
    refine (orderly.settling before).imp_right fun later => ?_
    refine later.imp_right fun ⟨outside, first, either⟩ => ?_
    have stops : HasStop (marks s.worker.queue) := by
      refine either.resolve_left ?_
      rintro ⟨j, other, known, started, about⟩
      refine nobody j ⟨other, known, started, ?_⟩
      rcases about with at_pc | at_pc <;> rw [at_pc] <;> rfl
    rw [pushed]
    exact ⟨outside, stopFirst_push_start first stops, .inr (hasStop_push stops)⟩
  · intro j other last known gaveUp
    obtain rfl := Option.some.inj last
    obtain rfl : { call with pc := .wait } = other := Option.some.inj (setCall_self.symm.trans known)
    have done := shape.timedOut gaveUp
    rw [here] at done
    contradiction
  · exact fun ended => absurd ended receiving

theorem Orderly.sendStop (orderly : s.Orderly) {later : Call} :
    { s.setCall k later with worker := s.worker.push (.stop k) }.Orderly := by
  by_cases ended : s.worker.pc = .ended
  · rw [Worker.push_ended ended]
    exact ⟨fun receiving => absurd ended receiving, fun _ => .inl ended, fun _ _ _ _ _ => .inl ended,
      orderly.ended⟩
  · rw [Worker.push_receiving ended]
    have pushed : marks (s.worker.queue ++ [Event.stop k]) =
        marks s.worker.queue ++ [Mark.stop k] := marks_push ..
    obtain ⟨between, cover, first, currentCover⟩ := orderly.queued ended
    constructor
    · intro _
      constructor
      · exact pushed ▸ spaced_push_stop between
      · exact pushed ▸ covered_push_stop
      · exact fun j current => pushed ▸ stopFirst_push_stop (first j current)
      · exact fun j current => .inr (pushed ▸ hasStop_pushed)
    · intro stranded
      have before : s.worker.Stranded := { stranded with
        inFlight := fun none => stranded.inFlight (by
          change s.worker.outstanding ++ samples (s.worker.queue ++ [Event.stop k]) = []
          rw [samples_append]
          exact (List.append_nil _).symm ▸ none) }
      refine (orderly.settling before).imp_right fun later => ?_
      refine later.imp_right fun ⟨outside, first, _⟩ => ?_
      rw [pushed]
      exact ⟨outside, stopFirst_push_stop first, .inr hasStop_pushed⟩
    · exact fun _ _ _ _ _ => .inr (.inl (pushed ▸ settles_push_stop))
    · exact fun at_end => absurd at_end ended

theorem Orderly.calls (orderly : s.Orderly) (held : s.Held) (sent : s.Sent)
    (found : s.calls k = some call) (step : s.Calls k call s') : s'.Orderly := by
  cases step with
  | lock here free =>
      exact orderly.move found rfl rfl (fun _ waiting => by rw [here] at waiting; contradiction)
        sent.startsOnce fun _ about => by rw [here] at about; simp at about
  | checked here next either =>
      exact orderly.move found rfl rfl (fun _ waiting => by rw [here] at waiting; contradiction)
        sent.startsOnce fun _ about => by rw [here] at about; simp at about
  | unsent here ended =>
      exact orderly.move found rfl rfl (fun _ waiting => by rw [here] at waiting; contradiction)
        sent.startsOnce fun _ about => by rw [here] at about; simp at about
  | send here receiving => exact orderly.send held found here receiving
  | giveUp here =>
      exact orderly.move found rfl rfl (fun _ _ => rfl) sent.startsOnce
        fun _ about => by rw [here] at about; simp at about
  | answered here given =>
      exact orderly.move found rfl rfl (fun unanswered _ => absurd given unanswered)
        sent.startsOnce fun _ about => by rw [here] at about; simp at about
  | cancel here =>
      exact orderly.move found rfl rfl (fun _ _ => rfl) sent.startsOnce
        fun _ about => by rw [here] at about; simp at about
  | hubStop here =>
      have moved := @Orderly.move s k call orderly found { call with pc := .sendStop }
        s.lifecycle rfl rfl (fun _ _ => rfl) sent.startsOnce fun _ _ => .inr rfl
      exact moved.hubStop
  | sendStop here => exact orderly.sendStop
  | awaited here =>
      exact orderly.move found rfl rfl (fun _ waiting => by rw [here] at waiting; contradiction)
        sent.startsOnce fun _ about => by rw [here] at about; simp at about
  | unlock here =>
      exact orderly.move found rfl rfl (fun _ waiting => by rw [here] at waiting; contradiction)
        sent.startsOnce fun _ about => by rw [here] at about; simp at about

theorem Orderly.frame (orderly : s.Orderly) (order : marks w.queue = marks s.worker.queue)
    (pc : w.pc = s.worker.pc) (running : w.running = s.worker.running)
    (streaming : w.streaming = s.worker.streaming) (stranded : w.Stranded → s.worker.Stranded) :
    { s with worker := w }.Orderly where
  queued := fun receiving => by
    obtain ⟨between, cover, first, currentCover⟩ := orderly.queued (pc ▸ receiving)
    exact ⟨order ▸ between, order ▸ cover, fun k current => order ▸ first k (pc ▸ current),
      fun k current => order ▸ currentCover k (pc ▸ current)⟩
  settling := fun left => by
    have before := orderly.settling (stranded left)
    rw [← order, ← pc] at before
    exact before
  settled := fun k call last found timedOut => by
    have before := orderly.settled k call last found timedOut
    unfold Worker.Settled at before
    rw [← order, ← pc, ← running, ← streaming] at before
    exact before
  ended := fun ended => by
    have before := orderly.ended (pc ▸ ended)
    rw [← running, ← streaming] at before
    exact before

private theorem stranded_push {event : Event} (plain : event.epoch? = none)
    (stranded : (w.push event).Stranded) : w.Stranded := by
  by_cases ended : w.pc = .ended
  · rw [Worker.push_ended ended] at stranded
    exact stranded
  · rw [Worker.push_receiving ended] at stranded
    refine { stranded with inFlight := fun none => stranded.inFlight ?_ }
    have same : samples (w.queue ++ [event]) = samples w.queue := by simp [samples, plain]
    change w.outstanding ++ samples (w.queue ++ [event]) = []
    rw [same]
    exact none

theorem Orderly.push (orderly : s.Orderly) {event : Event} (plain : event.mark? = none)
    (silent : event.epoch? = none) : { s with worker := s.worker.push event }.Orderly := by
  refine orderly.frame (Worker.push_plain plain) ?_ ?_ ?_ (stranded_push silent)
  all_goals
    by_cases ended : s.worker.pc = .ended
    · rw [Worker.push_ended ended]
    · rw [Worker.push_receiving ended]

theorem fresh_call (held : s.Held) {later : Call} (there : s.calls j = some other) :
    (s.setCall s.issued later).calls j = some other :=
  (setCall_other (Nat.ne_of_lt (held.issued j other there))).trans there

private theorem Orderly.issue (orderly : s.Orderly) (held : s.Held) (start : Bool) :
    { s.setCall s.issued { start := start } with issued := s.issued + 1 }.Orderly where
  queued := fun receiving => by
    refine (orderly.queued receiving).mono fun j _ => ?_
    rintro ⟨other, known, started, waiting⟩
    exact ⟨other, fresh_call held known, started, waiting⟩
  settling := by
    refine orderly.settling.mono ?_
    rintro ⟨j, other, known, started, about⟩
    exact ⟨j, other, fresh_call held known, started, about⟩
  settled := fun j other last known gaveUp => by
    rcases setCall_cases known with ⟨_, rfl⟩ | ⟨_, before⟩
    · contradiction
    · exact orderly.settled j other last before gaveUp
  ended := orderly.ended

theorem Calls.sound (step : s.Calls k call s') (sound : s.worker.Sound) : s'.worker.Sound := by
  cases step with
  | send here receiving =>
      rw [← Worker.push_receiving receiving]
      exact sound.push rfl (by simp)
  | hubStop here => exact sound.hubStop
  | sendStop here => exact sound.push rfl (by simp)
  | _ => exact sound

theorem Orderly.onReadSample (orderly : s.Orderly) {epoch : Nat}
    (arrived : s.worker.onReadSample epoch = some w) : { s with worker := w }.Orderly := by
  have order := (Worker.onReadSample_messages arrived).1
  obtain ⟨requested, arrives⟩ := Worker.onReadSample_cases arrived
  have flight : s.worker.inFlight ≠ [] := fun none => by
    rw [(List.append_eq_nil_iff.mp none).1] at requested
    contradiction
  rcases arrives with ⟨_, rfl⟩ | ⟨_, rfl⟩
  · exact orderly.frame order rfl rfl rfl fun stranded => { stranded with inFlight := flight }
  · exact orderly.frame order rfl rfl rfl fun stranded => { stranded with inFlight := flight }

theorem Orderly.onFlush (orderly : s.Orderly) (sound : s.worker.Sound)
    (arrived : s.worker.onFlush = some w) : { s with worker := w }.Orderly := by
  have order := (Worker.onFlush_messages arrived).1
  obtain ⟨flushing, arrives⟩ := Worker.onFlush_cases arrived
  have stopping := sound.pending (.inl flushing)
  have pending : s.worker.stopping ≠ none := fun none => by
    rw [none] at stopping
    contradiction
  rcases arrives with ⟨_, rfl⟩ | ⟨_, rfl⟩
  · exact orderly.frame order rfl rfl rfl fun stranded => absurd stranded.unflushed pending
  · exact orderly.frame order rfl rfl rfl fun stranded => absurd stranded.unflushed pending

theorem cancels (held : s.Held) (sent : s.Sent) (orderly : s.Orderly)
    (current : s.worker.pc.current = some k) (raised : s.cancelled k = true) :
    s.Owing ∨ HasStop (marks s.worker.queue) := by
  obtain ⟨call, found, start, _⟩ := sent.starts k (by simp [Worker.starts, current])
  have cancelled : call.cancelled = true := by simpa [cancelled, found] using raised
  have late := ((held.shape k call found).cancelled cancelled).2
  have receiving : s.worker.pc ≠ .ended := fun ended => by
    rw [ended] at current
    contradiction
  have closes : call.pc.waits = false → HasStop (marks s.worker.queue) := fun gone => by
    refine ((orderly.queued receiving).currentCover k current).resolve_left ?_
    rintro ⟨other, known, _, waiting⟩
    rw [found] at known
    obtain rfl := Option.some.inj known
    rw [gone] at waiting
    contradiction
  cases here : call.pc with
  | hubStop => exact .inl ⟨k, call, found, start, .inl here⟩
  | sendStop => exact .inl ⟨k, call, found, start, .inr here⟩
  | unlock => exact .inr (closes (by rw [here]; rfl))
  | returned => exact .inr (closes (by rw [here]; rfl))
  | _ =>
      rw [here] at late
      contradiction

/-- A start is not let in after a failed `Flush` while a read from before is in flight. -/
def Flushes (s : State) : Action → Prop
  | .worker native => ∀ k, s.worker.pc = .guard k → s.worker.letIn native = true →
      s.worker.flushFailed = true → s.worker.inFlight = []
  | _ => True

theorem letsIn (orderly : s.Orderly) {native : Native} (flushes : Flushes s (.worker native))
    (ran : s.worker.run s.cancelled native = some w) : s.worker.LetsIn w := by
  intro k here begins
  have passes : s.worker.letIn native = true := by
    simp only [Worker.run, here] at ran
    obtain rfl := Option.some.inj ran
    by_contra refused
    simp [refused] at begins
  by_contra inFlight
  have unfailed : s.worker.flushFailed = false := by
    apply eq_false_of_ne_true
    exact fun failed => inFlight (flushes k here passes failed)
  simp only [Worker.letIn, Bool.and_eq_true, Bool.not_eq_true', Option.isNone_iff_eq_none]
    at passes
  have stranded : s.worker.Stranded := ⟨unfailed, passes.1.1, passes.1.2, inFlight⟩
  have outside := (orderly.settling.resolve stranded (by rw [here]; simp) (by rw [here]; rfl)).1
  rw [here] at outside
  contradiction

/-- Everything that a reachable state is known to satisfy. -/
structure Good (s : State) : Prop where
  held : s.Held
  sent : s.Sent
  sound : s.worker.Sound
  orderly : s.Orderly

theorem Good.worker (good : s.Good) {native : Native} (flushes : Flushes s (.worker native))
    (ran : s.worker.run s.cancelled native = some w) :
    w.Sound ∧ { s with worker := w }.Orderly := by
  obtain ⟨held, sent, sound, orderly⟩ := good
  have step := Worker.runs_of_run ran
  have receiving : s.worker.pc ≠ .ended := fun ended => by simp [Worker.run, ended] at ran
  have queued := orderly.queued receiving
  refine ⟨sound.runs (letsIn orderly flushes ran) step, ?_⟩
  constructor
  · exact fun _ => queued.runs step
  · exact orderly.settling.runs sound queued
      (fun k current raised => cancels held sent orderly current raised) step
  · intro k call last found timedOut
    have settled := (orderly.settled k call last found timedOut).resolve_left receiving
    exact .inr (settled.runs step)
  · exact step.ended

theorem Good.step {action : Action} (good : s.Good) (flushes : Flushes s action)
    (taken : s.step action = some s') : s'.Good := by
  have held := good.held.step taken
  have sent := good.sent.step good.held good.sound taken
  suffices both : s'.worker.Sound ∧ s'.Orderly from ⟨held, sent, both.1, both.2⟩
  obtain ⟨before, known, sound, orderly⟩ := good
  cases action with
  | call start =>
      simp only [State.step] at taken
      split at taken
      · contradiction
      · obtain rfl := Option.some.inj taken
        exact ⟨sound, orderly.issue before start⟩
  | other =>
      simp only [State.step] at taken
      split at taken
      · contradiction
      · obtain rfl := Option.some.inj taken
        exact ⟨sound.push rfl (by simp), orderly.push rfl rfl⟩
  | run k gaveUp =>
      cases found : s.calls k with
      | none => simp [State.step, found] at taken
      | some call =>
          simp only [State.step, found] at taken
          have step := calls_of_runCall taken
          exact ⟨step.sound sound, orderly.calls before known found step⟩
  | worker native =>
      obtain ⟨w, ran, rfl⟩ := Option.map_eq_some_iff.mp taken
      exact Good.worker ⟨before, known, sound, orderly⟩ flushes ran
  | onReadSample epoch =>
      obtain ⟨w, arrived, rfl⟩ := Option.map_eq_some_iff.mp taken
      exact ⟨sound.onReadSample arrived, orderly.onReadSample arrived⟩
  | onFlush =>
      obtain ⟨w, arrived, rfl⟩ := Option.map_eq_some_iff.mp taken
      exact ⟨sound.onFlush arrived, orderly.onFlush sound arrived⟩
  | drop =>
      simp only [State.step] at taken
      split at taken
      · obtain rfl := Option.some.inj taken
        have pushed := @Orderly.push _ orderly.hubStop .quit rfl rfl
        refine ⟨sound.hubStop.push rfl (by simp), ?_⟩
        exact ⟨pushed.queued, pushed.settling, pushed.settled, pushed.ended⟩
      · contradiction

theorem Good.initial : ({} : State).Good where
  held := Held.initial
  sent := {
    starts := fun k there => by contradiction
    startsOnce := List.nodup_nil
    stops := fun k there => by contradiction
    stopsOnce := List.nodup_nil }
  sound := Worker.Sound.initial
  orderly := {
    queued := fun _ => ⟨trivial, trivial, fun k current => by contradiction,
      fun k current => by contradiction⟩
    settling := fun stranded => absurd rfl stranded.inFlight
    settled := fun k call last => by contradiction
    ended := fun ended => by contradiction }

/-! ### What the reader and the callers see -/

structure OneRead (s : State) : Prop where
  single : s.worker.outstanding.length ≤ 1
  epochs : ∀ p ∈ s.worker.published, p.1 = p.2
  refused : s.worker.FlushPending → ∀ k native w, s.worker.pc = .guard k →
    s.worker.run s.cancelled native = some w → w = { s.worker with pc := .recheck k .error }
  replies : s.worker.replies.Nodup
  drained : ∀ k call, s.lastStart = some k → s.calls k = some call → call.timedOut = true →
    s.worker.queue = [] ∨ s.worker.pc = .ended →
    s.worker.running = false ∧ s.worker.streaming = false

private theorem Good.oneRead (good : s.Good) : s.OneRead where
  single := by
    have short := good.sound.short
    rw [Worker.inFlight, List.length_append] at short
    omega
  epochs := good.sound.logged
  refused := fun pending k native w here ran => by
    have some := good.sound.pending pending
    obtain ⟨first, stopping⟩ := Option.isSome_iff_exists.mp some
    have refuses : s.worker.letIn native = false := by simp [Worker.letIn, stopping]
    simp only [Worker.run, here, refuses] at ran
    exact (Option.some.inj ran).symm
  replies := (List.nodup_append.mp good.sent.stopsOnce).2.1
  drained := fun k call last found timedOut empty => by
    rcases good.orderly.settled k call last found timedOut with ended | settled
    · exact good.orderly.ended ended
    · rcases empty with none | ended
      · rw [Worker.Settled, none] at settled
        exact (settled.resolve_left id).2.2
      · exact good.orderly.ended ended

end State

open State in
/-- Along every run in which no start is let in next to a read that a failed `Flush` has left
behind. -/
theorem reads_once (reached : machine.Reachable Flushes s) : s.OneRead := by
  have good : s.Good := by
    refine reached.invariant ?_ ?_
    · intro state start
      rw [show state = {} from start]
      exact Good.initial
    · exact fun _ _ _ flushes taken good => good.step flushes taken
  exact good.oneRead

/-- Every `Flush` so far has succeeded. -/
def flushing (s : State) (_ : Action) : Bool := !s.worker.flushFailed

private theorem flushes_of_flushing {action : Action} (allowed : flushing s action = true) :
    s.Flushes action := by
  cases action with
  | worker native =>
      intro k _ _ failed
      simp [flushing, failed] at allowed
  | _ => trivial

section Runs

def worked (n : Nat) : List Action := List.replicate n (.worker ⟨true, .frame⟩)

def started (k : CallId) : List Action :=
  .call true :: List.replicate 3 (Action.run k false) ++ worked 7 ++
  List.replicate 2 (Action.run k false)

/-- A stop whose `Flush` does what it is told. -/
def stopped (k : CallId) (flush : Bool) : List Action :=
  .call false :: List.replicate 3 (Action.run k false) ++
    [Action.worker ⟨true, .frame⟩, .worker ⟨flush, .frame⟩]

/-- A sample, a stop that is flushed, and a start that gives up while it is processed. -/
def flushedBetween : List Action :=
  started 0 ++ .onReadSample 1 :: worked 3 ++ stopped 1 true ++
  .onFlush :: worked 1 ++ List.replicate 2 (Action.run 1 false) ++
  .call true :: List.replicate 3 (Action.run 2 false) ++ worked 4 ++ .run 2 true ::
  List.replicate 4 (Action.run 2 false) ++ worked 5 ++ .onFlush :: worked 1

end Runs

theorem reads_once_flushedBetween :
    ∃ s, machine.Reachable State.Flushes s ∧ s.worker.published = [(1, 1)] ∧ s.OneRead := by
  have passed : ((machine.exec flushing {} flushedBetween).any fun s =>
      decide (s.worker.published = [(1, 1)])) = true := by decide +kernel
  obtain ⟨s, reached, holds⟩ := Lib.Machine.Reachable.of_exec rfl passed
  have flushes := reached.mono fun _ _ => flushes_of_flushing
  exact ⟨s, flushes, of_decide_eq_true holds, reads_once flushes⟩

/-- A failed `Flush` leaves the read of the first epoch behind, and a start is let in. -/
def flushFailedBetween : List Action :=
  started 0 ++ stopped 1 false ++ List.replicate 2 (Action.run 1 false) ++ started 2

theorem not_always_once :
    (∃ s, machine.Run Lib.Machine.anything {} flushFailedBetween s ∧
      s.worker.outstanding = [1, 2] ∧ ¬ s.OneRead) ∧
    ∃ s, machine.Run Lib.Machine.anything {}
      (flushFailedBetween ++ .onReadSample 1 :: worked 2) s ∧
      s.worker.published = [(1, 2)] ∧ ¬ s.OneRead := by
  constructor
  · have passed : ((machine.exec (fun _ _ => true) {} flushFailedBetween).any fun s =>
        decide (s.worker.outstanding = [1, 2])) = true := by decide +kernel
    obtain ⟨s, run, holds⟩ := Lib.Machine.run_of_passed passed
    have twice := of_decide_eq_true holds
    refine ⟨s, run.mono fun _ _ _ => trivial, twice, fun once => ?_⟩
    have single := once.single
    rw [twice] at single
    contradiction
  · have passed : ((machine.exec (fun _ _ => true) {}
        (flushFailedBetween ++ .onReadSample 1 :: worked 2)).any fun s =>
        decide (s.worker.published = [(1, 2)])) = true := by decide +kernel
    obtain ⟨s, run, holds⟩ := Lib.Machine.run_of_passed passed
    have crossed := of_decide_eq_true holds
    refine ⟨s, run.mono fun _ _ _ => trivial, crossed, fun once => ?_⟩
    have same := once.epochs (1, 2) (by simp [crossed])
    contradiction

end CameraRs.MediaFoundation
