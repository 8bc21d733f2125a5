/-
What the hand-off of MJPEG frames conserves.

One relation says what a step of an epoch can do and what is seen of it. From it follow, field by
field, the invariant of the hand-off and that the calls it makes are booked with the hub.
-/

import CameraRs.Uvc.Handoff

namespace CameraRs.Uvc

open CameraRs.Frame (OpId)

namespace Handoff

/-! ### One step -/

inductive Moves (s : Handoff) : Handoff → List Seen → Prop
  | hub {action : Frame.Action} {hub : Frame.FrameHub} (taken : s.hub.step action = some hub) :
      Moves s { s with hub := hub } ((Frame.events s.hub action hub).map .hub)
  | ignored : Moves s s []
  | called (call : Frame.Call) (idle : s.callback = .idle) :
      Moves s { s.call call with callback := .calling s.next } [.hub (.called s.next call)]
  | arrived (frame : UvcFrame) (idle : s.callback = .idle) :
      Moves s { s with callback := .popping frame } [.arrived frame]
  | popped {frame : UvcFrame} {buffer : Buffer} {rest : List Buffer}
      (here : s.callback = .popping frame) (there : s.buffers = rest ++ [buffer]) :
      Moves s { s with buffers := rest, callback := .sending frame (frame.job buffer) } []
  | starved {frame : UvcFrame} (here : s.callback = .popping frame) :
      Moves s { s with callback := .dropping frame } []
  | handed {frame : UvcFrame} {job : MjpegJob} (here : s.callback = .sending frame job)
      (space : s.channel = none) :
      Moves s { s with channel := some job, callback := .idle } [.handed frame]
  | full {frame : UvcFrame} {job : MjpegJob} (here : s.callback = .sending frame job) :
      Moves s { s with callback := .returning frame job.data } []
  | putBack {frame : UvcFrame} {data : Buffer} (here : s.callback = .returning frame data) :
      Moves s { s with buffers := s.buffers ++ [data], callback := .dropping frame } []
  | dropped {frame : UvcFrame} (here : s.callback = .dropping frame) :
      Moves s { s.call (.recordInputDrop s.session) with callback := .calling s.next }
        [.hub (.called s.next (.recordInputDrop s.session)), .dropped frame s.next]
  | answered {i : OpId} (here : s.callback = .calling i) (done : s.returned i = true) :
      Moves s { s with callback := .idle } []
  | received {job : MjpegJob} (here : s.worker = .receiving) (there : s.channel = some job) :
      Moves s { s with channel := none, worker := .decoding job } [.received job]
  | offered {job : MjpegJob} (here : s.worker = .decoding job) :
      Moves s { s.call (job.call s.session) with worker := .publishing job s.next }
        [.hub (.called s.next (job.call s.session)), .offered job s.next]
  | published {job : MjpegJob} {i : OpId} (here : s.worker = .publishing job i)
      (done : s.returned i = true) : Moves s { s with worker := .returning job.data } []
  | gaveBack {data : Buffer} (here : s.worker = .returning data) :
      Moves s { s with
        buffers := s.buffers ++ [{ data with bytes := [] }], worker := .receiving } []

variable {validate} {s t : Handoff} {a : Action} {log new : List Seen}

private theorem frameCallback_dispatched (validate : List UInt8 → CameraResult Unit)
    (within : s.inEpoch = true) (frame : UvcFrame) :
    s.frameCallback validate frame = .dispatched ↔ frame.validated validate = true := by
  have rgb : s.hub.nativeOutput = false := by simp_all [inEpoch]
  unfold frameCallback UvcFrame.validated
  by_cases empty : frame.data = [] <;> by_cases mjpeg : frame.frameFormat = .mjpeg <;>
    cases valid : (validate frame.data).isOk <;> simp [empty, mjpeg, rgb]

theorem arrive_moves (within : s.inEpoch = true) (idle : s.callback = .idle) (frame : UvcFrame) :
    Moves s (s.arrive validate frame) (s.seenArrive validate frame) := by
  have dispatched := frameCallback_dispatched validate within frame
  unfold arrive seenArrive
  cases arrival : s.frameCallback validate frame with
  | ignored =>
      rw [arrival] at dispatched
      rw [if_neg (fun valid => by simpa using dispatched.mpr valid)]
      exact .ignored
  | calls call =>
      rw [arrival] at dispatched
      rw [if_neg (fun valid => by simpa using dispatched.mpr valid)]
      exact .called call idle
  | dispatched =>
      rw [if_pos (dispatched.mp arrival)]
      exact .arrived frame idle

private theorem callback_moves (taken : s.callbackStep = some t) : Moves s t s.seenCallback := by
  unfold callbackStep at taken
  unfold seenCallback
  split at taken
  · cases taken
  · next frame here =>
      rw [here]
      split at taken
      · obtain rfl := Option.some.inj taken
        exact .starved here
      · next buffer last =>
          obtain rfl := Option.some.inj taken
          exact .popped here (List.dropLast_append_getLast? buffer last).symm
  · next frame job here =>
      rw [here]
      split at taken
      · next space =>
          obtain rfl := Option.some.inj taken
          dsimp only
          rw [if_pos space]
          exact .handed here space
      · next other there =>
          obtain rfl := Option.some.inj taken
          dsimp only
          rw [if_neg (by simp [there])]
          exact .full here
  · next frame data here =>
      rw [here]
      obtain rfl := Option.some.inj taken
      exact .putBack here
  · next frame here =>
      rw [here]
      obtain rfl := Option.some.inj taken
      exact .dropped here
  · next i here =>
      rw [here]
      split at taken
      · next done =>
          obtain rfl := Option.some.inj taken
          exact .answered here done
      · cases taken

private theorem worker_moves (taken : s.workerStep = some t) : Moves s t s.seenWorker := by
  unfold workerStep at taken
  unfold seenWorker
  split at taken
  · next here =>
      obtain ⟨job, there, rfl⟩ := Option.map_eq_some_iff.mp taken
      rw [here, there]
      exact .received here there
  · next job here =>
      rw [here]
      obtain rfl := Option.some.inj taken
      exact .offered here
  · next job i here =>
      rw [here]
      split at taken
      · next done =>
          obtain rfl := Option.some.inj taken
          exact .published here done
      · cases taken
  · next data here =>
      rw [here]
      obtain rfl := Option.some.inj taken
      exact .gaveBack here

theorem step_moves (within : s.inEpoch = true) (taken : s.step validate a = some t) :
    Moves s t (seen validate s a t) := by
  cases a with
  | hub action =>
      obtain ⟨hub, made, rfl⟩ := Option.map_eq_some_iff.mp taken
      exact .hub made
  | arrive frame =>
      simp only [step] at taken
      split at taken
      · next idle =>
          obtain rfl := Option.some.inj taken
          exact arrive_moves within idle frame
      · cases taken
  | callback => exact callback_moves taken
  | worker => exact worker_moves taken

/-! ### What a step keeps -/

theorem Moves.owned (moves : Moves s t new) :
    (t.owned.map (·.id)).Perm (s.owned.map (·.id)) := by
  rw [List.perm_iff_count]
  intro id
  cases moves with
  | hub taken => rfl
  | ignored => rfl
  | popped here there =>
      simp [Handoff.owned, here, there, CallbackPc.buffer, UvcFrame.job, List.count_cons]
      omega
  | handed here space =>
      simp [Handoff.owned, here, space, CallbackPc.buffer, List.count_cons]
  | received here there =>
      simp [Handoff.owned, here, there, WorkerPc.buffer, List.count_cons]
  | putBack here =>
      simp [Handoff.owned, here, CallbackPc.buffer, List.count_cons]
      omega
  | gaveBack here =>
      simp [Handoff.owned, here, WorkerPc.buffer, List.count_cons]
      omega
  | called made here => simp [Handoff.owned, here, call, CallbackPc.buffer]
  | arrived frame here => simp [Handoff.owned, here, CallbackPc.buffer]
  | starved here => simp [Handoff.owned, here, CallbackPc.buffer]
  | full here => simp [Handoff.owned, here, CallbackPc.buffer]
  | dropped here => simp [Handoff.owned, here, call, CallbackPc.buffer]
  | answered here done => simp [Handoff.owned, here, CallbackPc.buffer]
  | offered here => simp [Handoff.owned, here, call, WorkerPc.buffer]
  | published here done => simp [Handoff.owned, here, WorkerPc.buffer]

theorem Moves.copied (moves : Moves s t new)
    (copied : ∀ frame job, s.callback = .sending frame job → job.payload = frame.payload) :
    ∀ frame job, t.callback = .sending frame job → job.payload = frame.payload := by
  intro frame job sending
  cases moves with
  | popped here there =>
      cases sending
      rfl
  | _ => first | exact copied frame job sending | cases sending

theorem filterMap_hub {β : Type} (f : Seen → Option β) (none : ∀ event, f (.hub event) = none)
    (events : List Frame.Event) : (events.map Seen.hub).filterMap f = [] := by
  simp [List.filterMap_map, none]

private theorem Moves.arrived_order (moves : Moves s t new)
    (order : log.filterMap Seen.arrived? =
      (log.filterMap Seen.fate?).map (·.1) ++ s.callback.frame.toList) :
    (log ++ new).filterMap Seen.arrived? =
      ((log ++ new).filterMap Seen.fate?).map (·.1) ++ t.callback.frame.toList := by
  rw [List.filterMap_append, List.filterMap_append, order]
  cases moves with
  | hub taken =>
      rw [filterMap_hub _ (fun _ => rfl), filterMap_hub _ (fun _ => rfl)]
      simp
  | received here there => simp [List.filterMap_cons, Seen.arrived?, Seen.fate?]
  | offered here => simp [List.filterMap_cons, Seen.arrived?, Seen.fate?, call]
  | ignored => simp
  | published here done => simp
  | gaveBack here => simp
  | _ => simp_all [List.filterMap_cons, Seen.arrived?, Seen.fate?, CallbackPc.frame]

private theorem Moves.handed_order (moves : Moves s t new)
    (copied : ∀ frame job, s.callback = .sending frame job → job.payload = frame.payload)
    (order : (log.filterMap Seen.handed?).map (·.payload) =
      (log.filterMap Seen.received?).map (·.payload) ++ s.channel.toList.map (·.payload)) :
    ((log ++ new).filterMap Seen.handed?).map (·.payload) =
      ((log ++ new).filterMap Seen.received?).map (·.payload) ++
        t.channel.toList.map (·.payload) := by
  rw [List.filterMap_append, List.filterMap_append, List.map_append, List.map_append, order]
  cases moves with
  | hub taken =>
      rw [filterMap_hub _ (fun _ => rfl), filterMap_hub _ (fun _ => rfl)]
      simp
  | handed here space =>
      simp [List.filterMap_cons, Seen.handed?, Seen.received?, space, copied _ _ here]
  | received here there =>
      simp [List.filterMap_cons, Seen.handed?, Seen.received?, there]
  | _ => simp [List.filterMap_cons, Seen.handed?, Seen.received?, call]

private theorem Moves.received_order (moves : Moves s t new)
    (order : log.filterMap Seen.received? =
      (log.filterMap Seen.offered?).map (·.1) ++ s.worker.pending.toList) :
    (log ++ new).filterMap Seen.received? =
      ((log ++ new).filterMap Seen.offered?).map (·.1) ++ t.worker.pending.toList := by
  rw [List.filterMap_append, List.filterMap_append, order]
  cases moves with
  | hub taken =>
      rw [filterMap_hub _ (fun _ => rfl), filterMap_hub _ (fun _ => rfl)]
      simp
  | received here there =>
      simp [List.filterMap_cons, Seen.received?, Seen.offered?, here, WorkerPc.pending]
  | offered here =>
      simp [List.filterMap_cons, Seen.received?, Seen.offered?, here, WorkerPc.pending]
  | published here done => simp [here, WorkerPc.pending]
  | gaveBack here => simp [here, WorkerPc.pending]
  | _ => simp [List.filterMap_cons, Seen.received?, Seen.offered?, call]

/-! ### The calls of the hand-off -/

@[simp] theorem hubLog_append : hubLog (log ++ new) = hubLog log ++ hubLog new :=
  List.filterMap_append

theorem returned_iff {i : OpId} :
    s.returned i = true ↔ ∃ answer, s.hub.ops[i]? = some (.returned answer) := by
  unfold returned
  split
  · next answer there => simp [there]
  · next other =>
      simp only [Bool.false_eq_true, false_iff, not_exists]
      intro answer there
      exact other answer there

theorem next_call (made : Frame.Call) : (s.call made).next = s.next + 1 := by
  simp [next, call]

theorem Moves.hub_steps (moves : Moves s t new) :
    (∃ action, s.hub.step action = some t.hub ∧ hubLog new = Frame.events s.hub action t.hub) ∨
    t.hub = s.hub ∧ hubLog new = [] := by
  cases moves with
  | @hub action hub taken =>
      refine .inl ⟨action, taken, ?_⟩
      simp [hubLog, List.filterMap_map, Function.comp_def, Seen.hub?]
  | called made idle => exact .inl ⟨.call made, rfl, rfl⟩
  | dropped here => exact .inl ⟨.call (.recordInputDrop s.session), rfl, rfl⟩
  | @offered job here => exact .inl ⟨.call (job.call s.session), rfl, rfl⟩
  | _ => exact .inr ⟨rfl, rfl⟩

theorem Moves.session (moves : Moves s t new) : t.session = s.session := by
  cases moves <;> rfl

theorem Moves.returned_stays {i : OpId} (moves : Moves s t new) (done : s.returned i = true) :
    t.returned i = true := by
  obtain ⟨answer, there⟩ := returned_iff.mp done
  obtain ⟨action, taken, _⟩ | ⟨same, _⟩ := moves.hub_steps
  · exact returned_iff.mpr ⟨answer, Frame.step_stays_returned taken there⟩
  · exact returned_iff.mpr ⟨answer, by rw [same, there]⟩

theorem Moves.calling {i : OpId} (moves : Moves s t new)
    (waits : s.callback = .calling i ∨ s.returned i = true) :
    t.callback = .calling i ∨ t.returned i = true := by
  obtain calling | done := waits
  · cases moves with
    | answered here done =>
        obtain rfl := CallbackPc.calling.inj (here.symm.trans calling)
        exact .inr done
    | _ => first | exact .inl calling | simp_all
  · exact .inr (moves.returned_stays done)

theorem Moves.publishing {job : MjpegJob} {i : OpId} (moves : Moves s t new)
    (waits : s.worker = .publishing job i ∨ s.returned i = true) :
    t.worker = .publishing job i ∨ t.returned i = true := by
  obtain publishing | done := waits
  · cases moves with
    | published here done =>
        obtain ⟨rfl, rfl⟩ := WorkerPc.publishing.inj (here.symm.trans publishing)
        exact .inr done
    | _ => first | exact .inl publishing | simp_all
  · exact .inr (moves.returned_stays done)

/-- What the invariant of the hand-off says of the calls it made. -/
structure Calls (s : Handoff) (log : List Seen) : Prop where
  distinct : (log.filterMap Seen.op?).Nodup
  made : ∀ i ∈ log.filterMap Seen.op?, i < s.next
  dropped : ∀ frame i, .dropped frame i ∈ log →
    .called i (.recordInputDrop s.session) ∈ hubLog log ∧
      (s.callback = .calling i ∨ s.returned i = true)
  offered : ∀ job i, .offered job i ∈ log →
    .called i (job.call s.session) ∈ hubLog log ∧
      (s.worker = .publishing job i ∨ s.returned i = true)
  ledgers : Frame.Ledgers s.session s.hub (hubLog log)

theorem Moves.next (moves : Moves s t new) : s.next ≤ t.next := by
  obtain ⟨action, taken, _⟩ | ⟨same, _⟩ := moves.hub_steps
  · exact Frame.step_ops_length taken
  · rw [Handoff.next, Handoff.next, same]

theorem Moves.ops (moves : Moves s t new) : new.filterMap Seen.op? = [] ∨
    new.filterMap Seen.op? = [s.next] ∧ s.next < t.next := by
  cases moves with
  | hub taken => exact .inl (filterMap_hub _ (fun _ => rfl) _)
  | @dropped frame here =>
      refine .inr ⟨rfl, ?_⟩
      exact Nat.lt_of_lt_of_eq (Nat.lt_succ_self _) (next_call _).symm
  | @offered job here =>
      refine .inr ⟨rfl, ?_⟩
      exact Nat.lt_of_lt_of_eq (Nat.lt_succ_self _) (next_call _).symm
  | _ => exact .inl rfl

private theorem Moves.dropped_new {frame : UvcFrame} {i : OpId} (moves : Moves s t new)
    (there : .dropped frame i ∈ new) :
    .called i (.recordInputDrop s.session) ∈ hubLog new ∧ t.callback = .calling i := by
  cases moves with
  | hub taken => simp at there
  | dropped here =>
      obtain ⟨rfl, rfl⟩ : frame = _ ∧ i = s.next := by simpa using there
      exact ⟨List.mem_singleton_self _, rfl⟩
  | _ => simp at there

private theorem Moves.offered_new {job : MjpegJob} {i : OpId} (moves : Moves s t new)
    (there : .offered job i ∈ new) :
    .called i (job.call s.session) ∈ hubLog new ∧ t.worker = .publishing job i := by
  cases moves with
  | hub taken => simp at there
  | offered here =>
      obtain ⟨rfl, rfl⟩ : job = _ ∧ i = s.next := by simpa using there
      exact ⟨List.mem_singleton_self _, rfl⟩
  | _ => simp at there

theorem Calls.step (calls : Calls s log) (within : s.inEpoch = true) (moves : Moves s t new) :
    Calls t (log ++ new) where
  distinct := by
    rw [List.filterMap_append]
    obtain none | ⟨one, _⟩ := moves.ops
    · rw [none, List.append_nil]
      exact calls.distinct
    · rw [one]
      apply List.nodup_append.mpr ⟨calls.distinct, List.nodup_singleton _, ?_⟩
      rintro i earlier j later rfl
      have before := calls.made i earlier
      rw [List.mem_singleton.mp later] at before
      exact Nat.lt_irrefl _ before
  made i there := by
    rw [List.filterMap_append] at there
    obtain earlier | later := List.mem_append.mp there
    · exact Nat.lt_of_lt_of_le (calls.made i earlier) moves.next
    · obtain none | ⟨one, grows⟩ := moves.ops
      · simp [none] at later
      · rw [one] at later
        exact List.mem_singleton.mp later ▸ grows
  dropped frame i there := by
    rw [hubLog_append, moves.session]
    obtain earlier | later := List.mem_append.mp there
    · obtain ⟨made, waits⟩ := calls.dropped frame i earlier
      exact ⟨List.mem_append_left _ made, moves.calling waits⟩
    · obtain ⟨made, waits⟩ := moves.dropped_new later
      exact ⟨List.mem_append_right _ made, .inl waits⟩
  offered job i there := by
    rw [hubLog_append, moves.session]
    obtain earlier | later := List.mem_append.mp there
    · obtain ⟨made, waits⟩ := calls.offered job i earlier
      exact ⟨List.mem_append_left _ made, moves.publishing waits⟩
    · obtain ⟨made, waits⟩ := moves.offered_new later
      exact ⟨List.mem_append_right _ made, .inl waits⟩
  ledgers := by
    have current : s.hub.isCurrent s.session = true := (Bool.and_eq_true_iff.mp within).1
    rw [hubLog_append, moves.session]
    obtain ⟨action, taken, events⟩ | ⟨same, none⟩ := moves.hub_steps
    · rw [events]
      exact calls.ledgers.step current taken
    · rw [none, List.append_nil, same]
      exact calls.ledgers

/-! ### Over whole runs -/

structure Sound (s : Handoff) (log : List Seen) : Prop where
  owned : (s.owned.map (·.id)).Perm [0, 1]
  copied : ∀ frame job, s.callback = .sending frame job → job.payload = frame.payload
  arrived : log.filterMap Seen.arrived? =
    (log.filterMap Seen.fate?).map (·.1) ++ s.callback.frame.toList
  handed : (log.filterMap Seen.handed?).map (·.payload) =
    (log.filterMap Seen.received?).map (·.payload) ++ s.channel.toList.map (·.payload)
  received : log.filterMap Seen.received? =
    (log.filterMap Seen.offered?).map (·.1) ++ s.worker.pending.toList
  calls : Calls s log

theorem Sound.step (sound : Sound s log) (within : s.inEpoch = true) (moves : Moves s t new) :
    Sound t (log ++ new) where
  owned := moves.owned.trans sound.owned
  copied := moves.copied sound.copied
  arrived := moves.arrived_order sound.arrived
  handed := moves.handed_order sound.copied sound.handed
  received := moves.received_order sound.received
  calls := sound.calls.step within moves

theorem Sound.initial (hub : Frame.FrameHub) (session : Nat) :
    Sound { hub := hub, session := session } [] where
  owned := List.Perm.refl _
  copied _ _ sending := by cases sending
  arrived := rfl
  handed := rfl
  received := rfl
  calls :=
    { distinct := List.nodup_nil
      made := by simp
      dropped := by simp
      offered := by simp
      ledgers := .nil }

theorem sound_reachable
    (reached : ((machine validate).logged (seen validate)).Reachable
      (fun state _ => state.1.inEpoch = true) (s, log)) : Sound s log := by
  apply reached.invariant (P := fun state => Sound state.1 state.2)
  · rintro ⟨s, log⟩ ⟨start, rfl⟩
    rw [start]
    exact .initial _ _
  · intro before a after within taken sound
    obtain ⟨step, logged⟩ := Lib.Machine.logged_step taken
    rw [logged]
    exact sound.step within (step_moves within step)

theorem Sound.carries (sound : Sound s log) : Carries s log where
  buffers := sound.owned
  arrived := sound.arrived
  handed := sound.handed
  received := sound.received
  calls := sound.calls.distinct
  dropped frame i there done := by
    obtain ⟨made, waits⟩ := sound.calls.dropped frame i there
    obtain ⟨answer, returned⟩ := returned_iff.mp (waits.resolve_left done)
    exact sound.calls.ledgers.dropped made returned

theorem Sound.settled (sound : Sound s log) {job : MjpegJob} {i : OpId}
    (there : .offered job i ∈ log) (done : s.worker ≠ .publishing job i) :
    (Frame.ledger i (hubLog log)).settled = job.fits := by
  obtain ⟨made, waits⟩ := sound.calls.offered job i there
  obtain ⟨answer, returned⟩ := returned_iff.mp (waits.resolve_left done)
  exact sound.calls.ledgers.published rfl made returned

/-- Everything is conserved if and only if the hub takes frames of the sizes that come. -/
theorem conserves_iff
    (reached : ((machine validate).logged (seen validate)).Reachable
      (fun state _ => state.1.inEpoch = true) (s, log)) :
    Conserves s log ↔ ∀ job i, .offered job i ∈ log → s.worker ≠ .publishing job i →
      job.fits = true := by
  have sound := sound_reachable reached
  constructor
  · intro conserves job i there done
    rw [← sound.settled there done]
    exact conserves.settled job i there done
  · intro fits
    refine ⟨sound.carries, fun job i there done => ?_⟩
    rw [sound.settled there done]
    exact fits job i there done

/-- Buffers, frames and their order are conserved, every drop is counted once, and every frame
of a size that the hub takes is counted as one thing when the worker is done with it. -/
theorem carries_and_settles
    (reached : ((machine validate).logged (seen validate)).Reachable
      (fun state _ => state.1.inEpoch = true) (s, log)) :
    Carries s log ∧ ∀ job i, .offered job i ∈ log → s.worker ≠ .publishing job i →
      job.fits = true → (Frame.ledger i (hubLog log)).settled = true := by
  have sound := sound_reachable reached
  refine ⟨sound.carries, fun job i there done fits => ?_⟩
  rw [sound.settled there done, fits]

private theorem mem_of_offered {job : MjpegJob} {i : OpId}
    (there : (job, i) ∈ log.filterMap Seen.offered?) : .offered job i ∈ log := by
  obtain ⟨event, offered, same⟩ := List.mem_filterMap.mp there
  cases event <;> simp_all [Seen.offered?]

def begun : Handoff where
  hub := { Frame.FrameHub.new 6 with state := { session := 1, active := true }, nextSession := 2 }
  session := 1

theorem begun_initial : ((machine validate).logged (seen validate)).initial (begun, []) :=
  ⟨rfl, rfl⟩

/-- A frame comes in, is handed over and offered to the hub. -/
def handing (width height : UInt32) : List Action :=
  [.arrive ⟨.mjpeg, [0xff, 0xd8, 0xff, 0xd9], width, height, 7, 0⟩, .callback, .callback,
    .worker, .worker]

/-- The publication of call 0, access by access. -/
def publishing : List Action :=
  [Action.hub (.run 0 {}), .hub (.run 0 {}), .hub (.run 0 { choice := .finish 1 })] ++
    List.replicate 3 (Action.hub (.run 0 {})) ++ [Action.worker, .worker]

theorem carries_and_settles_small :
    ∃ s log job, ((machine fun _ => .ok ()).logged (seen fun _ => .ok ())).Reachable
        (fun state _ => state.1.inEpoch = true) (s, log) ∧
      .offered job 0 ∈ log ∧ Carries s log ∧ (Frame.ledger 0 (hubLog log)).settled = true := by
  have passed : (((machine fun _ => .ok ()).logged (seen fun _ => .ok ())).exec
      (fun state _ => state.1.inEpoch) (begun, []) (handing 2 2 ++ publishing)).any
      (fun state => decide (state.1.worker = .receiving) &&
        (state.2.filterMap Seen.offered?).any fun offer => decide (offer.2 = 0) && offer.1.fits) =
      true := by
    decide +kernel
  obtain ⟨⟨s, log⟩, reached, passed⟩ := Lib.Machine.Reachable.of_exec begun_initial passed
  obtain ⟨idle, offered⟩ := Bool.and_eq_true_iff.mp passed
  obtain ⟨⟨job, i⟩, there, fits⟩ := List.any_eq_true.mp offered
  obtain ⟨first, fits⟩ := Bool.and_eq_true_iff.mp fits
  obtain rfl : i = 0 := of_decide_eq_true first
  have made := mem_of_offered there
  obtain ⟨carries, settles⟩ := carries_and_settles reached
  refine ⟨s, log, job, reached, made, carries, settles job 0 made ?_ fits⟩
  rw [of_decide_eq_true idle]
  simp

/-- A frame of 12000 × 9000 pixels is decoded into more than the hub takes; the publication is
refused and counted as nothing. -/
theorem not_always_conserved :
    ¬ ∀ (validate : List UInt8 → CameraResult Unit) (s : Handoff) (log : List Seen),
      ((machine validate).logged (seen validate)).Reachable
        (fun state _ => state.1.inEpoch = true) (s, log) → Conserves s log := by
  intro conserves
  have passed : (((machine fun _ => .ok ()).logged (seen fun _ => .ok ())).exec
      (fun state _ => state.1.inEpoch) (begun, [])
      (handing 12000 9000 ++ [Action.hub (.run 0 {}), .worker, .worker])).any
      (fun state => decide (state.1.worker = .receiving) &&
        (state.2.filterMap Seen.offered?).any fun offer =>
          !(Frame.ledger offer.2 (hubLog state.2)).settled) = true := by
    decide +kernel
  obtain ⟨⟨s, log⟩, reached, passed⟩ := Lib.Machine.Reachable.of_exec begun_initial passed
  obtain ⟨idle, refused⟩ := Bool.and_eq_true_iff.mp passed
  obtain ⟨⟨job, i⟩, there, uncounted⟩ := List.any_eq_true.mp refused
  have settled := (conserves (fun _ => .ok ()) s log reached).settled job i (mem_of_offered there)
    (by rw [of_decide_eq_true idle]; simp)
  rw [settled] at uncounted
  cases uncounted

end Handoff

end CameraRs.Uvc
