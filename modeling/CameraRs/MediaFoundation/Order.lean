/-
The order of starts and stops in the queue of the worker.

Between two starts there is a `Stop`, and a start whose caller has gone is followed by one.
A read that was left without a flush is therefore flushed before the next start is let in.
-/

import CameraRs.MediaFoundation.Reads

namespace CameraRs.MediaFoundation

inductive Mark
  | start (k : CallId)
  | stop (k : CallId)
deriving DecidableEq

def Event.mark? : Event → Option Mark
  | .start k => some (.start k)
  | .stop k => some (.stop k)
  | _ => none

def marks (queue : List Event) : List Mark := queue.filterMap Event.mark?

variable {w w' : Worker} {cancelled : CallId → Bool} {order rest : List Mark} {mark : Mark}
  {event : Event} {k : CallId} {waits waits' : CallId → Prop}

def HasStop (order : List Mark) : Prop := ∃ k, .stop k ∈ order

def noStart : List Mark → Prop
  | [] => True
  | .start _ :: _ => False
  | .stop _ :: rest => noStart rest

def stopFirst : List Mark → Prop
  | .start _ :: _ => False
  | _ => True

def spaced : List Mark → Prop
  | [] => True
  | .start _ :: rest => stopFirst rest ∧ spaced rest
  | .stop _ :: rest => spaced rest

/-- A `Stop` after every start whose caller no longer waits. -/
def covered (waits : CallId → Prop) : List Mark → Prop
  | [] => True
  | .start k :: rest => (waits k ∨ HasStop rest) ∧ covered waits rest
  | .stop _ :: rest => covered waits rest

/-- At least one `Stop`, and no start after the last one. -/
def settles : List Mark → Prop
  | [] => False
  | .start _ :: rest => settles rest
  | .stop _ :: rest => noStart rest ∨ settles rest

def startIds (order : List Mark) : List CallId :=
  order.filterMap fun | .start k => some k | .stop _ => none

def stopIds (order : List Mark) : List CallId :=
  order.filterMap fun | .start _ => none | .stop k => some k

section Simp

variable (queue : List Event) (k : CallId) (epoch : Nat) (rest : List Mark)

@[simp] theorem marks_nil : marks [] = [] := rfl
@[simp] theorem marks_start : marks (.start k :: queue) = .start k :: marks queue := rfl
@[simp] theorem marks_stop : marks (.stop k :: queue) = .stop k :: marks queue := rfl
@[simp] theorem marks_other : marks (.other :: queue) = marks queue := rfl
@[simp] theorem marks_flushed : marks (.flushed :: queue) = marks queue := rfl
@[simp] theorem marks_sample : marks (.sample epoch :: queue) = marks queue := rfl
@[simp] theorem marks_quit : marks (.quit :: queue) = marks queue := rfl

@[simp] theorem startIds_start : startIds (.start k :: rest) = k :: startIds rest := rfl
@[simp] theorem startIds_stop : startIds (.stop k :: rest) = startIds rest := rfl
@[simp] theorem stopIds_start : stopIds (.start k :: rest) = stopIds rest := rfl
@[simp] theorem stopIds_stop : stopIds (.stop k :: rest) = k :: stopIds rest := rfl

end Simp

theorem marks_push (queue : List Event) (event : Event) :
    marks (queue ++ [event]) = marks queue ++ event.mark?.toList := by
  cases here : event.mark? <;> simp [marks, here]

theorem hasStop_push (has : HasStop order) : HasStop (order ++ [mark]) := by
  obtain ⟨k, there⟩ := has
  exact ⟨k, List.mem_append_left _ there⟩

theorem hasStop_pushed : HasStop (order ++ [.stop k]) := ⟨k, by simp⟩

theorem stopFirst_push_stop (first : stopFirst order) : stopFirst (order ++ [.stop k]) := by
  cases order with
  | nil => trivial
  | cons head rest =>
      cases head with
      | start j => exact first
      | stop j => trivial

theorem stopFirst_push_start (first : stopFirst order) (has : HasStop order) :
    stopFirst (order ++ [.start k]) := by
  cases order with
  | nil =>
      obtain ⟨_, there⟩ := has
      contradiction
  | cons head rest =>
      cases head with
      | start j => exact first
      | stop j => trivial

theorem spaced_push_stop (between : spaced order) : spaced (order ++ [.stop k]) := by
  induction order with
  | nil => trivial
  | cons head rest ih =>
      cases head with
      | start j => exact ⟨stopFirst_push_stop between.1, ih between.2⟩
      | stop j => exact ih between

theorem spaced_push_start (between : spaced order) (closed : covered (fun _ => False) order) :
    spaced (order ++ [.start k]) := by
  induction order with
  | nil => exact ⟨trivial, trivial⟩
  | cons head rest ih =>
      cases head with
      | start j =>
          have stops : HasStop rest := closed.1.resolve_left id
          exact ⟨stopFirst_push_start between.1 stops, ih between.2 closed.2⟩
      | stop j => exact ih between closed

theorem covered_push_start (cover : covered waits order) (waiting : waits k) :
    covered waits (order ++ [.start k]) := by
  induction order with
  | nil => exact ⟨.inl waiting, trivial⟩
  | cons head rest ih =>
      cases head with
      | start j => exact ⟨cover.1.imp_right hasStop_push, ih cover.2⟩
      | stop j => exact ih cover

theorem covered_push_stop : covered waits (order ++ [.stop k]) := by
  induction order with
  | nil => trivial
  | cons head rest ih =>
      cases head with
      | start j => exact ⟨.inr hasStop_pushed, ih⟩
      | stop j => exact ih

theorem covered_mono (cover : covered waits order)
    (still : ∀ k, k ∈ startIds order → waits k → waits' k) : covered waits' order := by
  induction order with
  | nil => trivial
  | cons head rest ih =>
      cases head with
      | start j =>
          refine ⟨cover.1.imp_left (still j List.mem_cons_self), ih cover.2 fun k there => ?_⟩
          exact still k (List.mem_cons_of_mem j there)
      | stop j => exact ih cover still

theorem settles_push_stop : settles (order ++ [.stop k]) := by
  induction order with
  | nil => exact .inl trivial
  | cons head rest ih =>
      cases head with
      | start j => exact ih
      | stop j => exact .inr ih

/-! ### The worker takes from the queue -/

def WorkerPc.current : WorkerPc → Option CallId
  | .check k | .guard k | .begin k | .read k | .recheck k _ | .answer k _ => some k
  | _ => none

def WorkerPc.flushes : WorkerPc → Option CallId
  | .flush k => some k
  | _ => none

/-- Not yet past the guard of `Worker::start`. -/
def WorkerPc.entering : WorkerPc → Bool
  | .check _ | .guard _ => true
  | _ => false

namespace Worker

/-- Every start so far: waiting in the queue, being processed, or answered. -/
def starts (w : Worker) : List CallId :=
  startIds (marks w.queue) ++ w.pc.current.toList ++ w.answers.map Prod.fst

/-- Every `Stop` so far, by the reply it carries. -/
def stops (w : Worker) : List CallId :=
  stopIds (marks w.queue) ++ w.pc.flushes.toList ++ w.stopping.toList ++ w.replies

structure Queued (waits : CallId → Prop) (w : Worker) : Prop where
  between : spaced (marks w.queue)
  cover : covered waits (marks w.queue)
  first : ∀ k, w.pc.current = some k → stopFirst (marks w.queue)
  currentCover : ∀ k, w.pc.current = some k → waits k ∨ HasStop (marks w.queue)

/-- Reads were left behind by a stream that has ended without a flush. -/
structure Stranded (w : Worker) : Prop where
  unfailed : w.flushFailed = false
  halted : w.running = false
  unflushed : w.stopping = none
  inFlight : w.inFlight ≠ []

/-- They are flushed before the next start: a `Stop` is being processed, is the first message
of its kind in the queue, or is about to be sent by a caller. -/
def Settling (owing : Prop) (w : Worker) : Prop :=
  w.Stranded → w.pc = .ended ∨ w.pc.flushes.isSome = true ∨
    w.pc.entering = false ∧ stopFirst (marks w.queue) ∧ (owing ∨ HasStop (marks w.queue))

/-- After a start that timed out: its `Stop` is to come, or everything has been undone. -/
def Settled (w : Worker) : Prop :=
  settles (marks w.queue) ∨ noStart (marks w.queue) ∧ w.pc.current = none ∧
    w.running = false ∧ w.streaming = false

/-- Starts and stops are taken one at a time by an idle worker. A worker that processes no
start does not bring the stream back. -/
theorem Runs.marked (step : w.Runs cancelled w') :
    (marks w'.queue = marks w.queue ∧
        (w'.pc.current = none ∨ w'.pc.current = w.pc.current) ∧
        (w.pc.current = none → w.running = false → w.streaming = false →
          w'.running = false ∧ w'.streaming = false)) ∨
      (∃ k, w.pc = .idle ∧ marks w.queue = .start k :: marks w'.queue ∧ w'.pc = .check k ∧
        w'.running = w.running ∧ w'.stopping = w.stopping) ∨
      ∃ k, w.pc = .idle ∧ marks w.queue = .stop k :: marks w'.queue ∧
        w'.pc.current = none ∧ w'.running = false ∧ w'.streaming = false := by
  have plain : ∀ {event : Event} {rest : List Event}, w.queue = event :: rest →
      event.mark? = none → marks rest = marks w.queue := fun head unmarked => by
    rw [head]
    exact (List.filterMap_cons_none unmarked).symm
  cases step with
  | takeStart idle k rest head => exact .inr (.inl ⟨k, idle, by rw [head]; rfl, rfl, rfl, rfl⟩)
  | takeOther idle rest head => exact .inl ⟨plain head rfl, .inr rfl, fun _ a b => ⟨a, b⟩⟩
  | takeStopPending idle k rest head first pending =>
      exact .inr (.inr ⟨k, idle, by rw [head]; rfl, congrArg WorkerPc.current idle, rfl, rfl⟩)
  | takeStop idle k rest head pending =>
      exact .inr (.inr ⟨k, idle, by rw [head]; rfl, rfl, rfl, rfl⟩)
  | takeFlushed idle rest head k pending =>
      exact .inl ⟨plain head rfl, .inr rfl, fun _ a b => ⟨a, b⟩⟩
  | takeFlushedLate idle rest head pending =>
      exact .inl ⟨plain head rfl, .inr rfl, fun _ a b => ⟨a, b⟩⟩
  | takeSample idle epoch rest head running =>
      exact .inl ⟨plain head rfl, .inl rfl, fun _ a b => ⟨a, b⟩⟩
  | takeStale idle epoch rest head stopped =>
      exact .inl ⟨plain head rfl, .inr rfl, fun _ a b => ⟨a, b⟩⟩
  | takeQuit idle rest head => exact .inl ⟨plain head rfl, .inl rfl, fun _ _ _ => ⟨rfl, rfl⟩⟩
  | checkCancelled k here given =>
      exact .inl ⟨rfl, .inr (congrArg WorkerPc.current here).symm, fun _ a b => ⟨a, b⟩⟩
  | checkGo k here given =>
      exact .inl ⟨rfl, .inr (congrArg WorkerPc.current here).symm, fun _ a b => ⟨a, b⟩⟩
  | guardRefused k here =>
      exact .inl ⟨rfl, .inr (congrArg WorkerPc.current here).symm, fun _ a b => ⟨a, b⟩⟩
  | guardPassed k here stopped flushed =>
      exact .inl ⟨rfl, .inr (congrArg WorkerPc.current here).symm, fun _ a b => ⟨a, b⟩⟩
  | begin k here =>
      refine .inl ⟨rfl, .inr (congrArg WorkerPc.current here).symm, fun none => ?_⟩
      rw [here] at none
      contradiction
  | readOk k here =>
      exact .inl ⟨rfl, .inr (congrArg WorkerPc.current here).symm, fun _ a b => ⟨a, b⟩⟩
  | readFailed k here =>
      exact .inl ⟨rfl, .inr (congrArg WorkerPc.current here).symm, fun _ _ _ => ⟨rfl, rfl⟩⟩
  | recheckCancelled k answer here given =>
      exact .inl ⟨rfl, .inr (congrArg WorkerPc.current here).symm, fun _ _ _ => ⟨rfl, rfl⟩⟩
  | recheckGo k answer here given =>
      exact .inl ⟨rfl, .inr (congrArg WorkerPc.current here).symm, fun _ a b => ⟨a, b⟩⟩
  | answer k answer here => exact .inl ⟨rfl, .inl rfl, fun _ a b => ⟨a, b⟩⟩
  | flushOk k here => exact .inl ⟨rfl, .inl rfl, fun _ a b => ⟨a, b⟩⟩
  | flushFailed k here => exact .inl ⟨rfl, .inl rfl, fun _ a b => ⟨a, b⟩⟩
  | processFailed epoch here => exact .inl ⟨rfl, .inl rfl, fun _ _ _ => ⟨rfl, rfl⟩⟩
  | processEmpty epoch here => exact .inl ⟨rfl, .inl rfl, fun _ a b => ⟨a, b⟩⟩
  | processFrame epoch here => exact .inl ⟨rfl, .inl rfl, fun _ a b => ⟨a, b⟩⟩
  | rereadOk here => exact .inl ⟨rfl, .inl rfl, fun _ a b => ⟨a, b⟩⟩
  | rereadFailed here => exact .inl ⟨rfl, .inl rfl, fun _ _ _ => ⟨rfl, rfl⟩⟩

theorem Queued.runs (queued : w.Queued waits) (step : w.Runs cancelled w') :
    w'.Queued waits := by
  obtain ⟨between, cover, first, currentCover⟩ := queued
  rcases step.marked with ⟨same, current, _⟩ | ⟨k, idle, head, here, _⟩ | ⟨k, idle, head, none, _⟩
  · have before : ∀ k, w'.pc.current = some k → w.pc.current = some k := by
      intro k now
      rcases current with none | still
      · rw [none] at now
        contradiction
      · exact still ▸ now
    exact {
      between := same ▸ between
      cover := same ▸ cover
      first := fun k now => same ▸ first k (before k now)
      currentCover := fun k now => same ▸ currentCover k (before k now) }
  · rw [head] at between cover
    refine ⟨between.2, cover.2, fun _ _ => between.1, fun j now => ?_⟩
    rw [here] at now
    exact Option.some.inj now ▸ cover.1
  · rw [head] at between cover
    refine ⟨between, cover, fun j now => ?_, fun j now => ?_⟩
    · rw [none] at now
      contradiction
    · rw [none] at now
      contradiction

theorem Settled.runs (settled : w.Settled) (step : w.Runs cancelled w') : w'.Settled := by
  rcases step.marked with ⟨same, current, keeps⟩ | ⟨k, idle, head, here, _⟩ |
    ⟨k, idle, head, none, halted, stopped⟩
  · unfold Settled
    rw [same]
    refine settled.imp_right fun ⟨clear, unstarted, halted, stopped⟩ => ?_
    refine ⟨clear, ?_, keeps unstarted halted stopped⟩
    exact current.elim id fun still => still.trans unstarted
  · rcases settled with settling | ⟨clear, _⟩
    · rw [head] at settling
      exact .inl settling
    · rw [head] at clear
      contradiction
  · have later : noStart (marks w'.queue) ∨ settles (marks w'.queue) := by
      rcases settled with settling | ⟨clear, _⟩
      · rw [head] at settling
        exact settling
      · rw [head] at clear
        exact .inl clear
    rcases later with clear | settling
    · exact .inr ⟨clear, none, halted, stopped⟩
    · exact .inl settling

theorem Runs.ended (step : w.Runs cancelled w') (ended : w'.pc = .ended) :
    w'.running = false ∧ w'.streaming = false := by
  cases step with
  | takeQuit idle rest head => exact ⟨rfl, rfl⟩
  | takeOther idle rest head => rw [idle] at ended; contradiction
  | takeStopPending idle k rest head first pending => exact ⟨rfl, rfl⟩
  | takeFlushed idle rest head k pending => rw [idle] at ended; contradiction
  | takeFlushedLate idle rest head pending => rw [idle] at ended; contradiction
  | takeStale idle epoch rest head stopped => rw [idle] at ended; contradiction
  | _ => contradiction

theorem Runs.starts (step : w.Runs cancelled w') : w'.starts.Perm w.starts := by
  cases step with
  | takeStart idle k rest head =>
      have before : w.starts = k :: (startIds (marks rest) ++ w.answers.map Prod.fst) := by
        simp [Worker.starts, head, idle, WorkerPc.current]
      rw [before]
      change (startIds (marks rest) ++ [k] ++ w.answers.map Prod.fst).Perm _
      rw [List.append_assoc]
      exact List.perm_middle
  | answer k answer here =>
      have before : w.starts = startIds (marks w.queue) ++ k :: w.answers.map Prod.fst := by
        simp [Worker.starts, here, WorkerPc.current]
      rw [before]
      simp only [Worker.starts, WorkerPc.current, Option.toList_none, List.append_nil,
        List.map_append, List.map_cons, List.map_nil]
      exact (List.perm_append_singleton ..).append_left _
  | _ => exact .of_eq (by simp_all [Worker.starts, WorkerPc.current])

theorem Sound.unstopped (sound : w.Sound) (here : w.pc = .flush k) : w.stopping = none := by
  cases pending : w.stopping with
  | none => rfl
  | some first =>
      have calm := (sound.stopped (by rw [pending]; rfl)).2
      rw [here] at calm
      contradiction

theorem Runs.stops (sound : w.Sound) (step : w.Runs cancelled w') : w'.stops.Perm w.stops := by
  cases step with
  | takeStopPending idle k rest head first pending =>
      have before : w.stops = k :: (stopIds (marks rest) ++ first :: w.replies) := by
        simp [Worker.stops, head, idle, pending, WorkerPc.flushes]
      have after : stopIds (marks rest) ++ w.pc.flushes.toList ++ w.stopping.toList ++
          (w.replies ++ [k]) = (stopIds (marks rest) ++ first :: w.replies) ++ [k] := by
        simp [idle, pending, WorkerPc.flushes]
      rw [before]
      change (stopIds (marks rest) ++ w.pc.flushes.toList ++ w.stopping.toList ++
        (w.replies ++ [k])).Perm _
      rw [after]
      exact List.perm_append_singleton ..
  | takeStop idle k rest head pending =>
      have before : w.stops = k :: (stopIds (marks rest) ++ w.replies) := by
        simp [Worker.stops, head, idle, pending, WorkerPc.flushes]
      have after : stopIds (marks rest) ++ [k] ++ w.stopping.toList ++ w.replies =
          stopIds (marks rest) ++ k :: w.replies := by
        simp [pending]
      rw [before]
      change (stopIds (marks rest) ++ [k] ++ w.stopping.toList ++ w.replies).Perm _
      rw [after]
      exact List.perm_middle
  | takeFlushed idle rest head k pending =>
      have before : w.stops = stopIds (marks rest) ++ k :: w.replies := by
        simp [Worker.stops, head, idle, pending, WorkerPc.flushes]
      have after : stopIds (marks rest) ++ w.pc.flushes.toList ++ [] ++ (w.replies ++ [k]) =
          stopIds (marks rest) ++ (w.replies ++ [k]) := by
        simp [idle, WorkerPc.flushes]
      rw [before]
      change (stopIds (marks rest) ++ w.pc.flushes.toList ++ [] ++ (w.replies ++ [k])).Perm _
      rw [after]
      exact (List.perm_append_singleton ..).append_left _
  | flushOk k here =>
      have unstopped := sound.unstopped here
      exact .of_eq (by simp [Worker.stops, WorkerPc.flushes, here, unstopped])
  | flushFailed k here =>
      have unstopped := sound.unstopped here
      have before : w.stops = stopIds (marks w.queue) ++ k :: w.replies := by
        simp [Worker.stops, here, unstopped, WorkerPc.flushes]
      have after : stopIds (marks w.queue) ++ [] ++ w.stopping.toList ++ (w.replies ++ [k]) =
          stopIds (marks w.queue) ++ (w.replies ++ [k]) := by
        simp [unstopped]
      rw [before]
      change (stopIds (marks w.queue) ++ [] ++ w.stopping.toList ++ (w.replies ++ [k])).Perm _
      rw [after]
      exact (List.perm_append_singleton ..).append_left _
  | _ => exact .of_eq (by simp_all [Worker.stops, WorkerPc.flushes])

theorem Settling.resolve {owing : Prop} (settling : w.Settling owing) (stranded : w.Stranded)
    (receiving : w.pc ≠ .ended) (unflushing : w.pc.flushes = none) :
    w.pc.entering = false ∧ stopFirst (marks w.queue) ∧ (owing ∨ HasStop (marks w.queue)) := by
  refine ((settling stranded).resolve_left receiving).resolve_left ?_
  rw [unflushing]
  simp

/-- A read is stranded by a start that was cancelled, whose caller sends a `Stop`; any other
end of the stream leaves no read or flushes it. -/
theorem Settling.runs {owing : Prop} (settling : w.Settling owing) (sound : w.Sound)
    (queued : w.Queued waits)
    (cancels : ∀ k, w.pc.current = some k → cancelled k = true → owing ∨ HasStop (marks w.queue))
    (step : w.Runs cancelled w') : w'.Settling owing := by
  have entered : w.pc.entering = true → w.pc.flushes = none → ¬ w.Stranded := by
    intro entering unflushing stranded
    have receiving : w.pc ≠ .ended := fun ended => by rw [ended] at entering; contradiction
    have outside := (settling.resolve stranded receiving unflushing).1
    rw [entering] at outside
    contradiction
  have kept : w.pc.flushes = none → w.pc ≠ .ended → marks w'.queue = marks w.queue →
      w'.pc.entering = false → w.Stranded → w'.pc = .ended ∨ w'.pc.flushes.isSome = true ∨
        w'.pc.entering = false ∧ stopFirst (marks w'.queue) ∧ (owing ∨ HasStop (marks w'.queue)) := by
    intro unflushing receiving order outside stranded
    rw [order]
    exact .inr (.inr ⟨outside, (settling.resolve stranded receiving unflushing).2⟩)
  have at_work : w.pc.active = true → w.running ≠ false := fun active =>
    ne_false_of_eq_true (sound.active active)
  intro stranded
  obtain ⟨unfailed, halted, unflushed, inFlight⟩ := stranded
  cases step with
  | takeStart idle k rest head =>
      have before : w.Stranded := ⟨unfailed, halted, unflushed, by
        rw [Worker.inFlight, head]
        exact inFlight⟩
      obtain ⟨_, first, _⟩ := settling.resolve before (by rw [idle]; simp) (by rw [idle]; rfl)
      rw [head] at first
      contradiction
  | takeOther idle rest head =>
      refine kept (by rw [idle]; rfl) (by rw [idle]; simp) (by rw [head]; rfl) (by rw [idle]; rfl)
        ⟨unfailed, halted, unflushed, ?_⟩
      rw [Worker.inFlight, head]
      exact inFlight
  | takeStopPending idle k rest head first pending =>
      change w.stopping = none at unflushed
      rw [pending] at unflushed
      contradiction
  | takeStop idle k rest head pending => exact .inr (.inl rfl)
  | takeFlushed idle rest head k pending =>
      have last := sound.last
      rw [head] at last
      have gone : w.outstanding = [] := (sound.discarded (by rw [head]; exact List.mem_cons_self)).1
      refine absurd ?_ inFlight
      change w.outstanding ++ samples rest = []
      rw [gone, last.1]
      rfl
  | takeFlushedLate idle rest head pending =>
      have stopping := sound.pending (.inr (by rw [head]; exact List.mem_cons_self))
      rw [pending] at stopping
      contradiction
  | takeSample idle epoch rest head running =>
      change w.running = false at halted
      rw [running] at halted
      contradiction
  | takeStale idle epoch rest head stopped =>
      refine kept (by rw [idle]; rfl) (by rw [idle]; simp) (by rw [head]; rfl) (by rw [idle]; rfl)
        ⟨unfailed, halted, unflushed, ?_⟩
      rw [Worker.inFlight, head]
      simp [samples, Event.epoch?]
  | takeQuit idle rest head => exact .inl rfl
  | checkCancelled k here given =>
      exact absurd ⟨unfailed, halted, unflushed, inFlight⟩
        (entered (by rw [here]; rfl) (by rw [here]; rfl))
  | checkGo k here given =>
      exact absurd ⟨unfailed, halted, unflushed, inFlight⟩
        (entered (by rw [here]; rfl) (by rw [here]; rfl))
  | guardRefused k here =>
      exact absurd ⟨unfailed, halted, unflushed, inFlight⟩
        (entered (by rw [here]; rfl) (by rw [here]; rfl))
  | guardPassed k here stopped flushed =>
      exact absurd ⟨unfailed, halted, unflushed, inFlight⟩
        (entered (by rw [here]; rfl) (by rw [here]; rfl))
  | begin k here => contradiction
  | readOk k here =>
      exact absurd halted (at_work (by rw [here]; rfl))
  | readFailed k here => exact absurd (sound.busy (by rw [here]; rfl)) inFlight
  | recheckCancelled k answer here given =>
      have current : w.pc.current = some k := congrArg WorkerPc.current here
      exact .inr (.inr ⟨rfl, queued.first k current, cancels k current given⟩)
  | recheckGo k answer here given =>
      exact kept (by rw [here]; rfl) (by rw [here]; simp) rfl rfl
        ⟨unfailed, halted, unflushed, inFlight⟩
  | answer k answer here =>
      exact kept (by rw [here]; rfl) (by rw [here]; simp) rfl rfl
        ⟨unfailed, halted, unflushed, inFlight⟩
  | flushOk k here => contradiction
  | flushFailed k here => contradiction
  | processFailed epoch here => exact absurd (sound.busy (by rw [here]; rfl)) inFlight
  | processEmpty epoch here =>
      exact absurd halted (at_work (by rw [here]; rfl))
  | processFrame epoch here =>
      exact absurd halted (at_work (by rw [here]; rfl))
  | rereadOk here =>
      exact absurd halted (at_work (by rw [here]; rfl))
  | rereadFailed here => exact absurd (sound.busy (by rw [here]; rfl)) inFlight

end Worker

end CameraRs.MediaFoundation
