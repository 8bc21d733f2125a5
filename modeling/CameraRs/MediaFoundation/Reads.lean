/-
What one step of the worker does, and the reads it has in flight.

A read is in flight from the request until its sample is taken from the queue. There is at
most one, and it belongs to the running epoch.
-/

import CameraRs.MediaFoundation.Worker

namespace CameraRs.MediaFoundation

variable {w w' : Worker} {cancelled : CallId → Bool} {native : Native} {rest : List Event}
  {epoch : Nat}

namespace Worker

inductive Runs (cancelled : CallId → Bool) (w : Worker) : Worker → Prop
  | takeStart (idle : w.pc = .idle) (k : CallId) (rest) (head : w.queue = .start k :: rest) :
      Runs cancelled w { w with queue := rest, pc := .check k }
  | takeOther (idle : w.pc = .idle) (rest) (head : w.queue = .other :: rest) :
      Runs cancelled w { w with queue := rest }
  | takeStopPending (idle : w.pc = .idle) (k : CallId) (rest) (head : w.queue = .stop k :: rest)
      (first : CallId) (pending : w.stopping = some first) :
      Runs cancelled w { w with
        queue := rest, running := false, streaming := false, replies := w.replies ++ [k] }
  | takeStop (idle : w.pc = .idle) (k : CallId) (rest) (head : w.queue = .stop k :: rest)
      (pending : w.stopping = none) :
      Runs cancelled w { w with
        queue := rest, running := false, streaming := false, pc := .flush k }
  | takeFlushed (idle : w.pc = .idle) (rest) (head : w.queue = .flushed :: rest) (k : CallId)
      (pending : w.stopping = some k) :
      Runs cancelled w { w with queue := rest, stopping := none, replies := w.replies ++ [k] }
  | takeFlushedLate (idle : w.pc = .idle) (rest) (head : w.queue = .flushed :: rest)
      (pending : w.stopping = none) : Runs cancelled w { w with queue := rest }
  | takeSample (idle : w.pc = .idle) (epoch : Nat) (rest) (head : w.queue = .sample epoch :: rest)
      (running : w.running = true) :
      Runs cancelled w { w with queue := rest, pc := .process epoch }
  | takeStale (idle : w.pc = .idle) (epoch : Nat) (rest) (head : w.queue = .sample epoch :: rest)
      (stopped : w.running = false) : Runs cancelled w { w with queue := rest }
  | takeQuit (idle : w.pc = .idle) (rest) (head : w.queue = .quit :: rest) :
      Runs cancelled w { w with
        queue := rest, running := false, streaming := false, pc := .ended }
  | checkCancelled (k : CallId) (here : w.pc = .check k) (given : cancelled k = true) :
      Runs cancelled w { w with pc := .answer k .timeout }
  | checkGo (k : CallId) (here : w.pc = .check k) (given : cancelled k = false) :
      Runs cancelled w { w with pc := .guard k }
  | guardRefused (k : CallId) (here : w.pc = .guard k) :
      Runs cancelled w { w with pc := .recheck k .error }
  | guardPassed (k : CallId) (here : w.pc = .guard k) (stopped : w.running = false)
      (flushed : w.stopping = none) : Runs cancelled w { w with pc := .begin k }
  | begin (k : CallId) (here : w.pc = .begin k) :
      Runs cancelled w { w with
        hubSession := w.hubSession + 1, streaming := true, session := w.hubSession + 1
        running := true, pc := .read k }
  | readOk (k : CallId) (here : w.pc = .read k) :
      Runs cancelled w { w with
        outstanding := w.outstanding ++ [w.session], pc := .recheck k .ok }
  | readFailed (k : CallId) (here : w.pc = .read k) :
      Runs cancelled w { w with running := false, streaming := false, pc := .recheck k .error }
  | recheckCancelled (k : CallId) (answer : Answer) (here : w.pc = .recheck k answer)
      (given : cancelled k = true) :
      Runs cancelled w { w with running := false, streaming := false, pc := .answer k .timeout }
  | recheckGo (k : CallId) (answer : Answer) (here : w.pc = .recheck k answer)
      (given : cancelled k = false) : Runs cancelled w { w with pc := .answer k answer }
  | answer (k : CallId) (answer : Answer) (here : w.pc = .answer k answer) :
      Runs cancelled w { w with answers := w.answers ++ [(k, answer)], pc := .idle }
  | flushOk (k : CallId) (here : w.pc = .flush k) :
      Runs cancelled w { w with stopping := some k, flushing := true, pc := .idle }
  | flushFailed (k : CallId) (here : w.pc = .flush k) :
      Runs cancelled w { w with
        replies := w.replies ++ [k], flushFailed := true, pc := .idle }
  | processFailed (epoch : Nat) (here : w.pc = .process epoch) :
      Runs cancelled w { w with running := false, streaming := false, pc := .idle }
  | processEmpty (epoch : Nat) (here : w.pc = .process epoch) :
      Runs cancelled w { w with pc := .reread }
  | processFrame (epoch : Nat) (here : w.pc = .process epoch) :
      Runs cancelled w { w with
        published := w.published ++ [(epoch, w.session)], pc := .reread }
  | rereadOk (here : w.pc = .reread) :
      Runs cancelled w { w with outstanding := w.outstanding ++ [w.session], pc := .idle }
  | rereadFailed (here : w.pc = .reread) :
      Runs cancelled w { w with running := false, streaming := false, pc := .idle }

private theorem runs_of_take (idle : w.pc = .idle) (taken : w.take = some w') :
    w.Runs cancelled w' := by
  unfold take at taken
  split at taken
  · contradiction
  · next event rest head =>
      cases event with
      | start k =>
          obtain rfl := Option.some.inj taken
          exact .takeStart idle k rest head
      | other =>
          obtain rfl := Option.some.inj taken
          exact .takeOther idle rest head
      | stop k =>
          simp only at taken
          split at taken
          · next first pending =>
              obtain rfl := Option.some.inj taken
              exact .takeStopPending idle k rest head first pending
          · next pending =>
              obtain rfl := Option.some.inj taken
              exact .takeStop idle k rest head pending
      | flushed =>
          simp only at taken
          split at taken
          · next first pending =>
              obtain rfl := Option.some.inj taken
              exact .takeFlushed idle rest head first pending
          · next pending =>
              obtain rfl := Option.some.inj taken
              exact .takeFlushedLate idle rest head pending
      | sample epoch =>
          simp only [Option.some.injEq] at taken
          split at taken
          · next running =>
              subst taken
              exact .takeSample idle epoch rest head running
          · next stopped =>
              subst taken
              exact .takeStale idle epoch rest head (eq_false_of_ne_true stopped)
      | quit =>
          obtain rfl := Option.some.inj taken
          exact .takeQuit idle rest head

theorem runs_of_run (taken : w.run cancelled native = some w') : w.Runs cancelled w' := by
  unfold run at taken
  split at taken
  · next idle => exact runs_of_take idle taken
  · next k here =>
      obtain rfl := Option.some.inj taken
      cases given : cancelled k with
      | true => exact .checkCancelled k here given
      | false => exact .checkGo k here given
  · next k here =>
      obtain rfl := Option.some.inj taken
      cases passes : w.letIn native with
      | true =>
          simp only [letIn, Bool.and_eq_true, Bool.not_eq_true', Option.isNone_iff_eq_none] at passes
          exact .guardPassed k here passes.1.1 passes.1.2
      | false => exact .guardRefused k here
  · next k here =>
      obtain rfl := Option.some.inj taken
      exact .begin k here
  · next k here =>
      split at taken
      · obtain rfl := Option.some.inj taken
        exact .readOk k here
      · obtain rfl := Option.some.inj taken
        exact .readFailed k here
  · next k answer here =>
      split at taken
      · next given =>
          obtain rfl := Option.some.inj taken
          exact .recheckCancelled k answer here given
      · next given =>
          obtain rfl := Option.some.inj taken
          exact .recheckGo k answer here (eq_false_of_ne_true given)
  · next k answer here =>
      obtain rfl := Option.some.inj taken
      exact .answer k answer here
  · next k here =>
      split at taken
      · obtain rfl := Option.some.inj taken
        exact .flushOk k here
      · obtain rfl := Option.some.inj taken
        exact .flushFailed k here
  · next epoch here =>
      split at taken
      · obtain rfl := Option.some.inj taken
        exact .processFailed epoch here
      · obtain rfl := Option.some.inj taken
        exact .processEmpty epoch here
      · obtain rfl := Option.some.inj taken
        exact .processFrame epoch here
  · next here =>
      split at taken
      · obtain rfl := Option.some.inj taken
        exact .rereadOk here
      · obtain rfl := Option.some.inj taken
        exact .rereadFailed here
  · contradiction

end Worker

/-! ### Reads in flight -/

def Event.epoch? : Event → Option Nat
  | .sample epoch => some epoch
  | _ => none

def samples (queue : List Event) : List Nat := queue.filterMap Event.epoch?

/-- No sample and no second message after that of a completed flush. -/
def flushedLast : List Event → Prop
  | [] => True
  | .flushed :: rest => samples rest = [] ∧ .flushed ∉ rest
  | _ :: rest => flushedLast rest

/-- Past its guard and before its request, or between a sample and the next request. -/
def WorkerPc.reading : WorkerPc → Bool
  | .begin _ | .read _ | .process _ | .reread => true
  | _ => false

def WorkerPc.active : WorkerPc → Bool
  | .read _ | .process _ | .reread => true
  | _ => false

/-- Where a flush may be under way. -/
def WorkerPc.calm : WorkerPc → Bool
  | .begin _ | .flush _ => false
  | _ => true

namespace Worker

def inFlight (w : Worker) : List Nat := w.outstanding ++ samples w.queue

/-- From a successful `Flush` until the worker has seen its `OnFlush`. -/
def FlushPending (w : Worker) : Prop := w.flushing = true ∨ .flushed ∈ w.queue

structure Sound (w : Worker) : Prop where
  short : w.inFlight.length ≤ 1
  busy : w.pc.reading = true → w.inFlight = []
  active : w.pc.active = true → w.running = true
  epochs : w.running = true → ∀ e ∈ w.inFlight, e = w.session
  current : ∀ e, w.pc = .process e → e = w.session
  halted : ∀ k, w.pc = .flush k → w.running = false
  stopped : w.stopping.isSome = true → w.running = false ∧ w.pc.calm = true
  pending : w.FlushPending → w.stopping.isSome = true
  discarded : .flushed ∈ w.queue → w.outstanding = [] ∧ w.flushing = false
  last : flushedLast w.queue
  logged : ∀ p ∈ w.published, p.1 = p.2

end Worker

@[simp] theorem samples_append (a b : List Event) : samples (a ++ b) = samples a ++ samples b :=
  List.filterMap_append

theorem flushedLast_tail {event : Event} {rest : List Event} (last : flushedLast (event :: rest))
    (different : event ≠ .flushed) : flushedLast rest := by
  cases event with
  | flushed => exact absurd rfl different
  | start k => exact last
  | other => exact last
  | stop k => exact last
  | sample epoch => exact last
  | quit => exact last

private theorem flushedLast_of_fresh {queue : List Event} (fresh : .flushed ∉ queue) :
    flushedLast queue := by
  induction queue with
  | nil => trivial
  | cons event rest ih =>
      have later : .flushed ∉ rest := fun there => fresh (List.mem_cons_of_mem event there)
      cases event with
      | flushed => exact absurd List.mem_cons_self fresh
      | start k => exact ih later
      | other => exact ih later
      | stop k => exact ih later
      | sample epoch => exact ih later
      | quit => exact ih later

theorem flushedLast_append {queue : List Event} {event : Event} (last : flushedLast queue)
    (unsampled : .flushed ∈ queue → event.epoch? = none ∧ event ≠ .flushed) :
    flushedLast (queue ++ [event]) := by
  induction queue with
  | nil =>
      cases event with
      | flushed => exact ⟨rfl, List.not_mem_nil⟩
      | start k => trivial
      | other => trivial
      | stop k => trivial
      | sample epoch => trivial
      | quit => trivial
  | cons first rest ih =>
      by_cases same : first = .flushed
      · subst same
        obtain ⟨plain, different⟩ := unsampled List.mem_cons_self
        refine ⟨?_, ?_⟩
        · change samples (rest ++ [event]) = []
          rw [samples_append, last.1]
          simp [samples, plain]
        · change .flushed ∉ rest ++ [event]
          simp [last.2, different.symm]
      · have later := ih (flushedLast_tail last same) fun there =>
          unsampled (List.mem_cons_of_mem first there)
        cases first with
        | flushed => exact absurd rfl same
        | start k => exact later
        | other => exact later
        | stop k => exact later
        | sample epoch => exact later
        | quit => exact later

namespace Worker

theorem Sound.local (sound : w.Sound) {pc : WorkerPc}
    (busy : pc.reading = true → w.inFlight = []) (active : pc.active = true → w.running = true)
    (current : ∀ e, pc = .process e → e = w.session) (unflushed : ∀ k, pc ≠ .flush k)
    (calm : w.stopping.isSome = true → pc.calm = true) : { w with pc := pc }.Sound :=
  { sound with
    busy := busy
    active := active
    current := current
    halted := fun k here => absurd here (unflushed k)
    stopped := fun some => ⟨(sound.stopped some).1, calm some⟩ }

theorem Sound.fail (sound : w.Sound) {pc : WorkerPc} (quiet : pc.reading = false)
    (inactive : pc.active = false) (calm : w.stopping.isSome = true → pc.calm = true)
    (unprocessed : ∀ e, pc ≠ .process e) :
    { w with running := false, streaming := false, pc := pc }.Sound :=
  { sound with
    busy := fun reading => by rw [quiet] at reading; contradiction
    active := fun active => by rw [inactive] at active; contradiction
    epochs := fun running => by contradiction
    current := fun e here => absurd here (unprocessed e)
    halted := fun _ _ => rfl
    stopped := fun some => ⟨rfl, calm some⟩ }

theorem Sound.tail (sound : w.Sound) {event : Event} (head : w.queue = event :: rest)
    (different : event ≠ .flushed) (idle : w.pc = .idle) : { w with queue := rest }.Sound := by
  have fewer : (samples rest).Sublist (samples w.queue) := by
    rw [head]
    exact (List.sublist_cons_self event rest).filterMap _
  have flight : ({ w with queue := rest } : Worker).inFlight.Sublist w.inFlight :=
    (List.Sublist.refl w.outstanding).append fewer
  have still : .flushed ∈ rest → .flushed ∈ w.queue := fun there => by
    rw [head]
    exact List.mem_cons_of_mem event there
  exact {
    short := Nat.le_trans flight.length_le sound.short
    busy := fun reading => by
      change w.pc.reading = true at reading
      rw [idle] at reading
      contradiction
    active := sound.active
    epochs := fun running e there => sound.epochs running e (flight.subset there)
    current := sound.current
    halted := sound.halted
    stopped := sound.stopped
    pending := fun pending => sound.pending (pending.imp_right still)
    discarded := fun there => sound.discarded (still there)
    last := flushedLast_tail (head ▸ sound.last) different
    logged := sound.logged }

theorem Sound.request (sound : w.Sound) {pc : WorkerPc} (active : w.pc.active = true)
    (reading : w.pc.reading = true) (quiet : pc.reading = false) (inactive : pc.active = false)
    (unprocessed : ∀ e, pc ≠ .process e) (unflushed : ∀ k, pc ≠ .flush k) :
    { w with outstanding := w.outstanding ++ [w.session], pc := pc }.Sound := by
  have running := sound.active active
  have unstopped : w.stopping.isSome = false := by
    apply eq_false_of_ne_true
    intro some
    rw [(sound.stopped some).1] at running
    contradiction
  have unpending : ¬ w.FlushPending := fun pending => by
    rw [sound.pending pending] at unstopped
    contradiction
  obtain ⟨none, clear⟩ := List.append_eq_nil_iff.mp (sound.busy reading)
  have flight : { w with outstanding := w.outstanding ++ [w.session], pc := pc }.inFlight =
      [w.session] := by
    simp [inFlight, none, clear]
  exact {
    short := by simp [flight]
    busy := fun reading => by rw [quiet] at reading; contradiction
    active := fun active => by rw [inactive] at active; contradiction
    epochs := fun _ e there => by
      rw [flight] at there
      exact List.mem_singleton.mp there
    current := fun e here => absurd here (unprocessed e)
    halted := fun k here => absurd here (unflushed k)
    stopped := fun some => by rw [unstopped] at some; contradiction
    pending := fun pending => absurd pending unpending
    discarded := fun there => absurd (.inr there) unpending
    last := sound.last
    logged := sound.logged }

theorem Sound.settle (sound : w.Sound) {pc : WorkerPc} (quiet : pc.reading = false)
    (inactive : pc.active = false) (calm : pc.calm = true) (unprocessed : ∀ e, pc ≠ .process e)
    (unflushed : ∀ k, pc ≠ .flush k) : { w with pc := pc }.Sound :=
  sound.local (fun reading => by rw [quiet] at reading; contradiction)
    (fun active => by rw [inactive] at active; contradiction)
    (fun e here => absurd here (unprocessed e)) unflushed fun _ => calm

theorem Sound.takeFlushed (sound : w.Sound) (head : w.queue = .flushed :: rest)
    {replies : List CallId} :
    { w with queue := rest, stopping := none, replies := replies }.Sound := by
  have there : .flushed ∈ w.queue := by
    rw [head]
    exact List.mem_cons_self
  have fresh : samples rest = [] ∧ .flushed ∉ rest := by
    have last := sound.last
    rw [head] at last
    exact last
  obtain ⟨none, unflushed⟩ := sound.discarded there
  have flight : w.outstanding ++ samples rest = [] := by rw [none, fresh.1]; rfl
  exact {
    short := by change (w.outstanding ++ samples rest).length ≤ 1; rw [flight]; simp
    busy := fun _ => flight
    active := sound.active
    epochs := fun _ e there => by
      change e ∈ w.outstanding ++ samples rest at there
      rw [flight] at there
      contradiction
    current := sound.current
    halted := sound.halted
    stopped := fun some => by contradiction
    pending := fun pending => by
      rcases pending with flushing | again
      · change w.flushing = true at flushing
        rw [unflushed] at flushing
        contradiction
      · exact absurd again fresh.2
    discarded := fun again => absurd again fresh.2
    last := flushedLast_of_fresh fresh.2
    logged := sound.logged }

theorem Sound.takeSample (sound : w.Sound) (idle : w.pc = .idle) {epoch : Nat}
    (head : w.queue = .sample epoch :: rest) (running : w.running = true) :
    { w with queue := rest, pc := .process epoch }.Sound := by
  have flight : w.inFlight = w.outstanding ++ epoch :: samples rest := by
    rw [inFlight, head]
    rfl
  have short := sound.short
  rw [flight] at short
  have alone : w.outstanding ++ samples rest = [] := by
    rw [← List.length_eq_zero_iff]
    simp only [List.length_append, List.length_cons] at short ⊢
    omega
  have own : epoch = w.session := by
    apply sound.epochs running
    rw [flight]
    simp
  refine (sound.tail head (by simp) idle).local (fun _ => alone) (fun _ => running) ?_ (by simp)
    fun _ => rfl
  intro e here
  rw [← WorkerPc.process.inj here]
  exact own

theorem Sound.begin (sound : w.Sound) {k : CallId} (here : w.pc = .begin k) :
    { w with
      hubSession := w.hubSession + 1, streaming := true, session := w.hubSession + 1
      running := true, pc := .read k }.Sound := by
  have none := sound.busy (by rw [here]; rfl)
  have unstopped : w.stopping.isSome = false := by
    apply eq_false_of_ne_true
    intro some
    have calm := (sound.stopped some).2
    rw [here] at calm
    contradiction
  exact {
    short := sound.short
    busy := fun _ => none
    active := fun _ => rfl
    epochs := fun _ e there => by
      change e ∈ w.inFlight at there
      rw [none] at there
      contradiction
    current := by simp
    halted := by simp
    stopped := fun some => by
      change w.stopping.isSome = true at some
      rw [unstopped] at some
      contradiction
    pending := sound.pending
    discarded := sound.discarded
    last := sound.last
    logged := sound.logged }

theorem Sound.flushOk (sound : w.Sound) {k : CallId} (here : w.pc = .flush k) :
    { w with stopping := some k, flushing := true, pc := .idle }.Sound := by
  have unpending : ¬ w.FlushPending := fun pending => by
    have calm := (sound.stopped (sound.pending pending)).2
    rw [here] at calm
    contradiction
  exact {
    short := sound.short
    busy := by simp [WorkerPc.reading]
    active := by simp [WorkerPc.active]
    epochs := sound.epochs
    current := by simp
    halted := by simp
    stopped := fun _ => ⟨sound.halted k here, rfl⟩
    pending := fun _ => rfl
    discarded := fun there => absurd (.inr there) unpending
    last := sound.last
    logged := sound.logged }

theorem Sound.processFrame (sound : w.Sound) {epoch : Nat} (here : w.pc = .process epoch) :
    { w with published := w.published ++ [(epoch, w.session)], pc := .reread }.Sound := by
  have moved := @Sound.local w sound .reread (fun _ => sound.busy (by rw [here]; rfl))
    (fun _ => sound.active (by rw [here]; rfl)) (by simp) (by simp) fun some => rfl
  refine { moved with logged := ?_ }
  intro p there
  rcases List.mem_append.mp there with earlier | now
  · exact sound.logged p earlier
  · rw [List.mem_singleton.mp now]
    exact sound.current epoch here

def LetsIn (w w' : Worker) : Prop := ∀ k, w.pc = .guard k → w'.pc = .begin k → w.inFlight = []

theorem Sound.runs (sound : w.Sound) (clear : w.LetsIn w') (step : w.Runs cancelled w') :
    w'.Sound := by
  have silent : ∀ {event : Event} {rest}, w.pc = .idle → w.queue = event :: rest →
      event ≠ .flushed → { w with queue := rest }.Sound := fun idle head different =>
    sound.tail head different idle
  cases step with
  | takeStart idle k rest head =>
      exact (silent idle head (by simp)).settle rfl rfl rfl (by simp) (by simp)
  | takeOther idle rest head => exact silent idle head (by simp)
  | takeStopPending idle k rest head first pending =>
      have failed := (silent idle head (by simp)).fail (congrArg WorkerPc.reading idle)
        (congrArg WorkerPc.active idle) (fun _ => congrArg WorkerPc.calm idle)
        (fun e => by rw [idle]; simp)
      exact { failed with }
  | takeStop idle k rest head pending =>
      refine (silent idle head (by simp)).fail rfl rfl ?_ (by simp)
      intro some
      rw [show w.stopping = none from pending] at some
      contradiction
  | takeFlushed idle rest head k pending => exact sound.takeFlushed head
  | takeFlushedLate idle rest head pending =>
      have some := sound.pending (.inr (by rw [head]; exact List.mem_cons_self))
      rw [pending] at some
      contradiction
  | takeSample idle epoch rest head running => exact sound.takeSample idle head running
  | takeStale idle epoch rest head stopped => exact silent idle head (by simp)
  | takeQuit idle rest head =>
      exact (silent idle head (by simp)).fail rfl rfl (fun _ => rfl) (by simp)
  | checkCancelled k here given =>
      exact sound.settle rfl rfl rfl (by simp) (by simp)
  | checkGo k here given =>
      exact sound.settle rfl rfl rfl (by simp) (by simp)
  | guardRefused k here =>
      exact sound.settle rfl rfl rfl (by simp) (by simp)
  | guardPassed k here stopped flushed =>
      refine sound.local (fun _ => clear k here rfl) (by simp [WorkerPc.active])
        (by simp) (by simp) ?_
      intro some
      rw [flushed] at some
      contradiction
  | begin k here => exact sound.begin here
  | readOk k here =>
      exact sound.request (by rw [here]; rfl) (by rw [here]; rfl) rfl rfl (by simp) (by simp)
  | readFailed k here => exact sound.fail rfl rfl (fun _ => rfl) (by simp)
  | recheckCancelled k answer here given => exact sound.fail rfl rfl (fun _ => rfl) (by simp)
  | recheckGo k answer here given =>
      exact sound.settle rfl rfl rfl (by simp) (by simp)
  | answer k answer here =>
      exact { @Sound.settle w sound .idle rfl rfl rfl (by simp) (by simp) with }
  | flushOk k here => exact sound.flushOk here
  | flushFailed k here =>
      exact { @Sound.settle w sound .idle rfl rfl rfl (by simp) (by simp) with }
  | processFailed epoch here => exact sound.fail rfl rfl (fun _ => rfl) (by simp)
  | processEmpty epoch here =>
      refine sound.local (fun _ => sound.busy (by rw [here]; rfl))
        (fun _ => sound.active (by rw [here]; rfl)) (by simp) (by simp) fun some => rfl
  | processFrame epoch here => exact sound.processFrame here
  | rereadOk here => exact sound.request (by rw [here]; rfl) (by rw [here]; rfl) rfl rfl (by simp) (by simp)
  | rereadFailed here => exact sound.fail rfl rfl (fun _ => rfl) (by simp)

theorem push_ended {event : Event} (ended : w.pc = .ended) : w.push event = w := by
  simp [push, ended]

theorem push_receiving {event : Event} (receiving : w.pc ≠ .ended) :
    w.push event = { w with queue := w.queue ++ [event] } := by
  unfold push
  split
  · contradiction
  · rfl

theorem Sound.hubStop (sound : w.Sound) : w.hubStop.Sound := { sound with }

theorem Sound.push (sound : w.Sound) {event : Event} (plain : event.epoch? = none)
    (different : event ≠ .flushed) : (w.push event).Sound := by
  by_cases ended : w.pc = .ended
  · rw [push_ended ended]
    exact sound
  · rw [push_receiving ended]
    have flight : ({ w with queue := w.queue ++ [event] } : Worker).inFlight = w.inFlight := by
      simp [inFlight, samples, plain]
    have before : .flushed ∈ w.queue ++ [event] → .flushed ∈ w.queue := fun there => by
      simpa [different.symm] using there
    exact {
      short := flight ▸ sound.short
      busy := fun reading => flight.trans (sound.busy reading)
      active := sound.active
      epochs := fun running e there => sound.epochs running e (flight ▸ there)
      current := sound.current
      halted := sound.halted
      stopped := sound.stopped
      pending := fun pending => sound.pending (pending.imp_right before)
      discarded := fun there => sound.discarded (before there)
      last := flushedLast_append sound.last fun _ => ⟨plain, different⟩
      logged := sound.logged }

theorem onReadSample_cases (taken : w.onReadSample epoch = some w') : epoch ∈ w.outstanding ∧
    (w.pc = .ended ∧ w' = { w with outstanding := w.outstanding.erase epoch } ∨
      w.pc ≠ .ended ∧ w' = { w with
        outstanding := w.outstanding.erase epoch
        queue := w.queue ++ [.sample epoch] }) := by
  unfold Worker.onReadSample at taken
  split at taken
  · next requested =>
      obtain rfl := Option.some.inj taken
      refine ⟨requested, ?_⟩
      by_cases ended : w.pc = .ended
      · exact .inl ⟨ended, push_ended ended⟩
      · exact .inr ⟨ended, push_receiving ended⟩
  · contradiction

theorem onFlush_cases (taken : w.onFlush = some w') : w.flushing = true ∧
    (w.pc = .ended ∧ w' = { w with flushing := false, outstanding := [] } ∨
      w.pc ≠ .ended ∧ w' = { w with
        flushing := false
        outstanding := []
        queue := w.queue ++ [.flushed] }) := by
  unfold Worker.onFlush at taken
  split at taken
  · next flushing =>
      obtain rfl := Option.some.inj taken
      refine ⟨flushing, ?_⟩
      by_cases ended : w.pc = .ended
      · exact .inl ⟨ended, push_ended ended⟩
      · exact .inr ⟨ended, push_receiving ended⟩
  · contradiction

theorem Sound.forget (sound : w.Sound) {outstanding : List Nat} {flushing : Bool}
    (fewer : outstanding.Sublist w.outstanding) (unflushed : flushing = true → w.flushing = true)
    (fresh : .flushed ∉ w.queue) :
    { w with outstanding := outstanding, flushing := flushing }.Sound := by
  have flight : (outstanding ++ samples w.queue).Sublist w.inFlight :=
    fewer.append (List.Sublist.refl _)
  exact { sound with
    short := Nat.le_trans flight.length_le sound.short
    busy := fun reading => List.sublist_nil.mp (sound.busy reading ▸ flight)
    epochs := fun running e there => sound.epochs running e (flight.subset there)
    pending := fun pending => sound.pending (pending.imp_left unflushed)
    discarded := fun there => absurd there fresh }

theorem Sound.onReadSample (sound : w.Sound) (taken : w.onReadSample epoch = some w') :
    w'.Sound := by
  obtain ⟨requested, arrives⟩ := onReadSample_cases taken
  have fresh : .flushed ∉ w.queue := fun there => by
    rw [(sound.discarded there).1] at requested
    contradiction
  rcases arrives with ⟨_, rfl⟩ | ⟨_, rfl⟩
  · exact sound.forget List.erase_sublist id fresh
  · have flight : (w.outstanding.erase epoch ++ samples (w.queue ++ [.sample epoch])).Perm
        w.inFlight := by
      have front : w.outstanding.erase epoch ++ samples (w.queue ++ [.sample epoch]) =
          (w.outstanding.erase epoch ++ samples w.queue) ++ [epoch] := by
        simp [samples, Event.epoch?]
      rw [front]
      exact (List.perm_append_singleton ..).trans
        ((List.perm_cons_erase requested).symm.append_right _)
    have before : .flushed ∈ w.queue ++ [.sample epoch] → .flushed ∈ w.queue := fun there => by
      simpa using there
    exact { sound with
      short := Nat.le_trans (Nat.le_of_eq flight.length_eq) sound.short
      busy := fun reading => by
        have none := (List.append_eq_nil_iff.mp (sound.busy reading)).1
        rw [none] at requested
        contradiction
      epochs := fun running e there => sound.epochs running e (flight.subset there)
      pending := fun pending => sound.pending (pending.imp_right before)
      discarded := fun there => absurd (before there) fresh
      last := flushedLast_append sound.last fun there => absurd there fresh }

theorem Sound.onFlush (sound : w.Sound) (taken : w.onFlush = some w') : w'.Sound := by
  obtain ⟨flushing, arrives⟩ := onFlush_cases taken
  have fresh : .flushed ∉ w.queue := fun there => by
    rw [(sound.discarded there).2] at flushing
    contradiction
  have discarded : ({ w with outstanding := [], flushing := false } : Worker).Sound :=
    sound.forget (List.nil_sublist _) (fun flushing => by contradiction) fresh
  rcases arrives with ⟨_, rfl⟩ | ⟨_, rfl⟩
  · exact discarded
  · have flight : samples (w.queue ++ [.flushed]) = samples w.queue := by
      simp [samples, Event.epoch?]
    exact { discarded with
      short := by
        change (samples (w.queue ++ [.flushed])).length ≤ 1
        rw [flight]
        exact discarded.short
      busy := fun reading => flight.trans (discarded.busy reading)
      epochs := fun running e there => by
        change e ∈ samples (w.queue ++ [.flushed]) at there
        rw [flight] at there
        exact discarded.epochs running e there
      pending := fun _ => sound.pending (.inl flushing)
      discarded := fun _ => ⟨rfl, rfl⟩
      last := flushedLast_append sound.last fun there => absurd there fresh }

theorem Sound.initial : ({} : Worker).Sound where
  short := by simp [inFlight, samples]
  busy := fun reading => by contradiction
  active := fun active => by contradiction
  epochs := fun running => by contradiction
  current := fun e here => by contradiction
  halted := fun k here => by contradiction
  stopped := fun some => by contradiction
  pending := fun pending => by simp [FlushPending] at pending
  discarded := fun there => by contradiction
  last := trivial
  logged := fun p there => by contradiction

end Worker

end CameraRs.MediaFoundation
