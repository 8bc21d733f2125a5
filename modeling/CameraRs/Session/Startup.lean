/-
The task that starts a session: one configuration after the other, until one delivers.

An attempt starts the source and then looks for a new frame session, a first frame, the
configuration that was negotiated and the constraints of the request. Whatever fails, the
source is stopped before the next attempt; when nothing is left the session is closed. What
the device answers, and the texts of frame rates, are parameters.
-/

import CameraRs.Negotiation.Device
import CameraRs.Negotiation.Validation
import CameraRs.Session.State

namespace CameraRs.Session

/-- A native camera is away while it is opened again, a custom device once it was released. -/
inductive Source
  | native (camera : Bool)
  | custom (device : Bool) (actual : Option CameraConfig)
  | synthetic
deriving DecidableEq

def Source.idle : Source → Source
  | .custom device _ => .custom device none
  | source => source

private theorem Source.idle_native_iff {source : Source} {camera : Bool} :
    source.idle = .native camera ↔ source = .native camera := by
  cases source with
  | native other => rfl
  | custom device actual => simp [idle]
  | synthetic => rfl

/-- The answers to one attempt. A native start may begin a frame session or not, and the
camera reports the configuration it has. `cancelled` is what the loop finds before it. -/
structure Answers where
  start : CameraResult Unit := .ok ()
  begins : Bool := true
  firstFrame : CameraResult FrameLayout
  config : Option CameraConfig := none
  stop : CameraResult Unit := .ok ()
  cancelled : Bool := false

inductive Call
  | start (config : CameraConfig)
  | stop
deriving DecidableEq

/-- What the task works on, and the calls of `Source::start` and `Source::stop` it has made. -/
structure Startup where
  source : Source
  hub : HubView
  stopping : Bool
  closed : Bool
  busy : Bool
  state : SessionState
  calls : List Call

/-- `FrameHub::start`. -/
def HubView.begin (hub : HubView) : HubView :=
  { hub with session := hub.session + 1, active := true }

namespace Startup

def sourceStart (s : Startup) (config : CameraConfig) (answers : Answers) :
    CameraResult Unit × Startup :=
  let s := { s with calls := s.calls ++ [Call.start config] }
  match s.source with
  | .native false => (.error (.disconnected "Device is reconnecting"), s)
  | .native true =>
      (answers.start, if answers.begins then { s with hub := s.hub.begin } else s)
  | .custom device _ =>
      let s := { s with hub := s.hub.begin }
      match CaptureMode.fromConfig config with
      | .error e => (.error e, s)
      | .ok _ =>
          if device then
            match answers.start with
            | .error e => (.error e, s)
            | .ok _ => (.ok (), { s with source := .custom device (some config) })
          else (.error Negotiation.closedDevice, s)
  | .synthetic =>
      let s := { s with hub := s.hub.begin }
      match config.frameRate with
      | .error e => (.error e, s)
      | .ok _ => (.ok (), s)

/-- `Source::stop`. Every native `stop_stream` stops the frame hub first. -/
def sourceStop (s : Startup) (stop : CameraResult Unit) : CameraResult Unit × Startup :=
  let s := { s with calls := s.calls ++ [Call.stop] }
  match s.source with
  | .native false => (.ok (), s)
  | .native true => (stop, { s with hub := { s.hub with active := false } })
  | .custom device _ =>
      (if device then stop else .ok (),
        { s with hub := { s.hub with active := false }, source := .custom device none })
  | .synthetic => (.ok (), { s with hub := { s.hub with active := false } })

def actual (s : Startup) (fallback : CameraConfig) (answers : Answers) :
    CameraResult CameraConfig :=
  match s.source with
  | .native camera =>
      match if camera then answers.config else none with
      | some config => .ok config
      | none => .error (.invalidState "Backend did not report negotiated configuration")
  | .synthetic => .ok fallback
  | .custom _ actual =>
      match actual with
      | some config => .ok config
      | none => .error (.invalidState "External backend did not start a capture")

variable (display : FrameRate → String) (intent : CaptureRequest)

/-- What is left of an attempt once the source has started. -/
def checkStarted (s : Startup) (previousSession : Nat) (config : CameraConfig)
    (answers : Answers) : CameraResult (CameraConfig × FrameLayout) := do
  if s.hub.session = previousSession then
    .error (.invalidState "Backend did not begin a new frame session")
  else
    let frame ← answers.firstFrame
    let actual ← s.actual config answers
    validateRequestedCapture display intent actual frame
    return (actual, frame)

def attempt (s : Startup) (config : CameraConfig) (answers : Answers) :
    CameraResult (CameraConfig × FrameLayout) × Startup :=
  let previousSession := s.hub.session
  match s.sourceStart config answers with
  | (.error e, s) => (.error e, s)
  | (.ok _, s) => (s.checkStarted display intent previousSession config answers, s)

def tryEach (s : Startup) (result : CameraResult (CameraConfig × FrameLayout)) :
    List (CameraConfig × Answers) → CameraResult (CameraConfig × FrameLayout) × Startup
  | [] => (result, s)
  | (config, answers) :: rest =>
      if s.stopping || answers.cancelled then (result, s)
      else
        match s.attempt display intent config answers with
        | (.ok ok, s) => (.ok ok, s)
        | (.error e, s) => (s.sourceStop answers.stop).2.tryEach (.error e) rest

/-- After the loop. `cancelled` and `stop` are what the task finds then. -/
def finish (s : Startup) (result : CameraResult (CameraConfig × FrameLayout))
    (cancelled : Bool) (stop : CameraResult Unit) : Startup :=
  if s.stopping || cancelled || !result.isOk then
    { (s.sourceStop stop).2 with
      stopping := true
      closed := true
      state := .stopped
      busy := false }
  else s

/-- The task that `start_inner` spawns: what it sends, and how it leaves the session. -/
def startTask (s : Startup) (rounds : List (CameraConfig × Answers)) (cancelled : Bool)
    (stop : CameraResult Unit) : CameraResult (CameraConfig × FrameLayout) × Startup :=
  let (result, s) := s.tryEach display intent
    (.error (.unsupportedFormat "No usable capture configuration")) rounds
  (result, s.finish result cancelled stop)

/-! ### One attempt -/

/-- A candidate delivers: the source starts, a frame session begins and has a first frame,
and the configuration that was negotiated meets the request. -/
structure Succeeds (s : Startup) (config : CameraConfig) (answers : Answers)
    (ok : CameraConfig × FrameLayout) : Prop where
  started : (s.sourceStart config answers).1 = .ok ()
  begun : (s.sourceStart config answers).2.hub.session ≠ s.hub.session
  frame : answers.firstFrame = .ok ok.2
  negotiated : (s.sourceStart config answers).2.actual config answers = .ok ok.1
  meets : intent.Acceptable ok.1
  sized : ok.2.width = ok.1.width ∧ ok.2.height = ok.1.height

variable {display} {intent}

private theorem checkStarted_ok_iff {s : Startup} {previousSession : Nat} {config : CameraConfig}
    {answers : Answers} {ok : CameraConfig × FrameLayout} :
    s.checkStarted display intent previousSession config answers = .ok ok ↔
      s.hub.session ≠ previousSession ∧ answers.firstFrame = .ok ok.2 ∧
        s.actual config answers = .ok ok.1 ∧ intent.Acceptable ok.1 ∧
        ok.2.width = ok.1.width ∧ ok.2.height = ok.1.height := by
  unfold checkStarted
  split
  · next same => simp [same]
  · next begun =>
    cases frame : answers.firstFrame with
    | error e => simp [bind, Except.bind]
    | ok layout =>
        cases reported : s.actual config answers with
        | error e => simp [bind, Except.bind]
        | ok actual =>
            rw [← @validateRequestedCapture_ok_iff intent ok.1 display ok.2]
            simp only [bind, Except.bind, pure, Except.pure, Except.ok.injEq]
            cases valid : validateRequestedCapture display intent actual layout with
            | error e =>
                simp only [reduceCtorEq, false_iff, not_and]
                rintro - rfl rfl
                simp [valid]
            | ok _ =>
                simp only [Except.ok.injEq]
                constructor
                · rintro rfl
                  exact ⟨begun, rfl, rfl, valid⟩
                · rintro ⟨-, rfl, rfl, -⟩
                  rfl

theorem attempt_refused {s : Startup} {config : CameraConfig} {answers : Answers}
    {e : CameraError} (refused : (s.sourceStart config answers).1 = .error e) :
    s.attempt display intent config answers = (.error e, (s.sourceStart config answers).2) := by
  unfold attempt
  generalize s.sourceStart config answers = started at refused
  obtain ⟨first, later⟩ := started
  obtain rfl : first = .error e := refused
  rfl

theorem attempt_started {s : Startup} {config : CameraConfig} {answers : Answers}
    (started : (s.sourceStart config answers).1 = .ok ()) :
    s.attempt display intent config answers =
      ((s.sourceStart config answers).2.checkStarted display intent s.hub.session config answers,
        (s.sourceStart config answers).2) := by
  unfold attempt
  generalize s.sourceStart config answers = start at started
  obtain ⟨first, later⟩ := start
  obtain rfl : first = .ok () := started
  rfl

theorem attempt_ok_iff {s : Startup} {config : CameraConfig} {answers : Answers}
    {ok : CameraConfig × FrameLayout} :
    (s.attempt display intent config answers).1 = .ok ok ↔
      s.Succeeds intent config answers ok := by
  cases start : (s.sourceStart config answers).1 with
  | error e =>
      rw [attempt_refused start]
      simp only [reduceCtorEq, false_iff]
      intro succeeds
      simp [succeeds.started] at start
  | ok _ =>
      rw [attempt_started start, checkStarted_ok_iff]
      constructor
      · rintro ⟨begun, frame, negotiated, meets, sized⟩
        exact
          { started := start
            begun := begun
            frame := frame
            negotiated := negotiated
            meets := meets
            sized := sized }
      · intro succeeds
        exact ⟨succeeds.begun, succeeds.frame, succeeds.negotiated, succeeds.meets,
          succeeds.sized⟩

theorem attempt_state {s : Startup} {config : CameraConfig} {answers : Answers} :
    (s.attempt display intent config answers).2 = (s.sourceStart config answers).2 := by
  cases start : (s.sourceStart config answers).1 with
  | error e => rw [attempt_refused start]
  | ok _ => rw [attempt_started start]

/-- The session itself is as it was, and the source is the same one. -/
structure Alike (s s' : Startup) : Prop where
  source : s'.source.idle = s.source.idle
  stopping : s'.stopping = s.stopping
  closed : s'.closed = s.closed
  busy : s'.busy = s.busy
  state : s'.state = s.state

theorem Alike.refl (s : Startup) : Alike s s := ⟨rfl, rfl, rfl, rfl, rfl⟩

theorem Alike.trans {s s' s'' : Startup} (first : Alike s s') (second : Alike s' s'') :
    Alike s s'' where
  source := second.source.trans first.source
  stopping := second.stopping.trans first.stopping
  closed := second.closed.trans first.closed
  busy := second.busy.trans first.busy
  state := second.state.trans first.state

theorem sourceStart_alike (s : Startup) (config : CameraConfig) (answers : Answers) :
    Alike s (s.sourceStart config answers).2 ∧
      (s.sourceStart config answers).2.calls = s.calls ++ [.start config] := by
  obtain ⟨source, hub, stopping, closed, busy, state, calls⟩ := s
  unfold sourceStart
  cases source with
  | native camera =>
      cases camera with
      | false => exact ⟨⟨rfl, rfl, rfl, rfl, rfl⟩, rfl⟩
      | true =>
          dsimp only
          split
          · exact ⟨⟨rfl, rfl, rfl, rfl, rfl⟩, rfl⟩
          · exact ⟨⟨rfl, rfl, rfl, rfl, rfl⟩, rfl⟩
  | synthetic =>
      dsimp only
      split
      · exact ⟨⟨rfl, rfl, rfl, rfl, rfl⟩, rfl⟩
      · exact ⟨⟨rfl, rfl, rfl, rfl, rfl⟩, rfl⟩
  | custom device actual =>
      dsimp only
      split
      · exact ⟨⟨rfl, rfl, rfl, rfl, rfl⟩, rfl⟩
      · split
        · split
          · exact ⟨⟨rfl, rfl, rfl, rfl, rfl⟩, rfl⟩
          · exact ⟨⟨rfl, rfl, rfl, rfl, rfl⟩, rfl⟩
        · exact ⟨⟨rfl, rfl, rfl, rfl, rfl⟩, rfl⟩

/-- What `Source::stop` does. A native camera that is away is left as it is. -/
structure StopEffect (s s' : Startup) : Prop where
  alike : Alike s s'
  calls : s'.calls = s.calls ++ [.stop]
  idle : s'.source = s.source.idle
  hub : s.source ≠ .native false → s'.hub.active = false

theorem sourceStop_effect (s : Startup) (stop : CameraResult Unit) :
    StopEffect s (s.sourceStop stop).2 := by
  obtain ⟨source, hub, stopping, closed, busy, state, calls⟩ := s
  cases source with
  | native camera =>
      cases camera with
      | false => exact ⟨⟨rfl, rfl, rfl, rfl, rfl⟩, rfl, rfl, fun there => absurd rfl there⟩
      | true => exact ⟨⟨rfl, rfl, rfl, rfl, rfl⟩, rfl, rfl, fun _ => rfl⟩
  | custom device actual => exact ⟨⟨rfl, rfl, rfl, rfl, rfl⟩, rfl, rfl, fun _ => rfl⟩
  | synthetic => exact ⟨⟨rfl, rfl, rfl, rfl, rfl⟩, rfl, rfl, fun _ => rfl⟩

/-- How a source starts does not depend on its frame session or on what it did before. -/
structure StartsAlike (s s' : Startup) (config : CameraConfig) (answers : Answers) : Prop where
  result : (s'.sourceStart config answers).1 = (s.sourceStart config answers).1
  begun : (s'.sourceStart config answers).2.hub.session = s'.hub.session ↔
    (s.sourceStart config answers).2.hub.session = s.hub.session
  negotiated : (s.sourceStart config answers).1 = .ok () →
    (s'.sourceStart config answers).2.actual config answers =
      (s.sourceStart config answers).2.actual config answers

private theorem startsAlike_native {s s' : Startup} {camera : Bool} {config : CameraConfig}
    {answers : Answers} (source : s.source = .native camera) (source' : s'.source = .native camera) :
    StartsAlike s s' config answers := by
  obtain ⟨_, hub, stopping, closed, busy, state, calls⟩ := s
  obtain ⟨_, hub', stopping', closed', busy', state', calls'⟩ := s'
  subst source source'
  cases camera with
  | false => exact ⟨rfl, by simp [sourceStart], fun _ => rfl⟩
  | true =>
      cases begins : answers.begins with
      | false => exact ⟨rfl, by simp [sourceStart, begins], fun _ => by simp [sourceStart, begins, actual]⟩
      | true =>
          exact ⟨rfl, by simp [sourceStart, begins, HubView.begin],
            fun _ => by simp [sourceStart, begins, actual]⟩

private theorem startsAlike_synthetic {s s' : Startup} {config : CameraConfig} {answers : Answers}
    (source : s.source = .synthetic) (source' : s'.source = .synthetic) :
    StartsAlike s s' config answers := by
  obtain ⟨_, hub, stopping, closed, busy, state, calls⟩ := s
  obtain ⟨_, hub', stopping', closed', busy', state', calls'⟩ := s'
  subst source source'
  cases rate : config.frameRate with
  | error e =>
      exact ⟨by simp [sourceStart, rate], by simp [sourceStart, rate, HubView.begin],
        fun _ => by simp [sourceStart, rate, actual]⟩
  | ok rate' =>
      exact ⟨by simp [sourceStart, rate], by simp [sourceStart, rate, HubView.begin],
        fun _ => by simp [sourceStart, rate, actual]⟩

theorem startsAlike_custom {s s' : Startup} {device : Bool} {before before' : Option CameraConfig}
    {config : CameraConfig} {answers : Answers} (source : s.source = .custom device before)
    (source' : s'.source = .custom device before') : StartsAlike s s' config answers := by
  obtain ⟨_, hub, stopping, closed, busy, state, calls⟩ := s
  obtain ⟨_, hub', stopping', closed', busy', state', calls'⟩ := s'
  subst source source'
  cases mode : CaptureMode.fromConfig config with
  | error e =>
      exact ⟨by simp [sourceStart, mode], by simp [sourceStart, mode, HubView.begin],
        fun started => by simp [sourceStart, mode] at started⟩
  | ok mode' =>
      cases device with
      | false =>
          exact ⟨by simp [sourceStart, mode], by simp [sourceStart, mode, HubView.begin],
            fun started => by simp [sourceStart, mode] at started⟩
      | true =>
          cases start : answers.start with
          | error e =>
              exact ⟨by simp [sourceStart, mode, start],
                by simp [sourceStart, mode, start, HubView.begin],
                fun started => by simp [sourceStart, mode, start] at started⟩
          | ok _ =>
              exact ⟨by simp [sourceStart, mode, start],
                by simp [sourceStart, mode, start, HubView.begin],
                fun _ => by simp [sourceStart, mode, start, actual]⟩

private theorem startsAlike {s s' : Startup} (same : s'.source.idle = s.source.idle)
    (config : CameraConfig) (answers : Answers) : StartsAlike s s' config answers := by
  cases source : s.source with
  | native camera =>
      cases source' : s'.source with
      | native camera' =>
          rw [source, source'] at same
          obtain rfl := Source.native.inj same
          exact startsAlike_native source source'
      | custom device' before' => simp [source, source', Source.idle] at same
      | synthetic => simp [source, source', Source.idle] at same
  | custom device before =>
      cases source' : s'.source with
      | native camera' => simp [source, source', Source.idle] at same
      | custom device' before' =>
          rw [source, source'] at same
          obtain rfl := (Source.custom.inj same).1
          exact startsAlike_custom source source'
      | synthetic => simp [source, source', Source.idle] at same
  | synthetic =>
      cases source' : s'.source with
      | native camera' => simp [source, source', Source.idle] at same
      | custom device' before' => simp [source, source', Source.idle] at same
      | synthetic => exact startsAlike_synthetic source source'

theorem attempt_alike {s s' : Startup} (same : s'.source.idle = s.source.idle)
    (config : CameraConfig) (answers : Answers) :
    (s'.attempt display intent config answers).1 = (s.attempt display intent config answers).1 := by
  have starts := startsAlike same config answers
  cases start : (s.sourceStart config answers).1 with
  | error e => rw [attempt_refused start, attempt_refused (starts.result.trans start)]
  | ok _ =>
      rw [attempt_started start, attempt_started (starts.result.trans start)]
      simp only [checkStarted, starts.begun, starts.negotiated start]

/-! ### The loop -/

def tried (round : CameraConfig × Answers) : List Call := [.start round.1, .stop]

def NoneSucceeds (intent : CaptureRequest) (s : Startup) (rounds : List (CameraConfig × Answers)) :
    Prop :=
  ∀ round ∈ rounds, ∀ ok, ¬ s.Succeeds intent round.1 round.2 ok

def lastResult (display : FrameRate → String) (intent : CaptureRequest) (s : Startup)
    (result : CameraResult (CameraConfig × FrameLayout)) (rounds : List (CameraConfig × Answers)) :
    CameraResult (CameraConfig × FrameLayout) :=
  rounds.foldl (fun _ round => (s.attempt display intent round.1 round.2).1) result

theorem NoneSucceeds.alike {s s' : Startup} {rounds : List (CameraConfig × Answers)}
    (none : NoneSucceeds intent s rounds) (same : s'.source.idle = s.source.idle)
    (display : FrameRate → String) : NoneSucceeds intent s' rounds := by
  intro round there ok succeeds
  rw [← @attempt_ok_iff display, attempt_alike same, attempt_ok_iff] at succeeds
  exact none round there ok succeeds

private theorem lastResult_alike {s s' : Startup} (same : s'.source.idle = s.source.idle)
    (result : CameraResult (CameraConfig × FrameLayout))
    (rounds : List (CameraConfig × Answers)) :
    lastResult display intent s' result rounds = lastResult display intent s result rounds := by
  simp only [lastResult, attempt_alike same]

theorem tryEach_step {s : Startup} {result : CameraResult (CameraConfig × FrameLayout)}
    {config : CameraConfig} {answers : Answers} {rest : List (CameraConfig × Answers)}
    (ready : s.stopping = false) (quiet : answers.cancelled = false)
    (fails : ∀ ok, ¬ s.Succeeds intent config answers ok) :
    ∃ s', Alike s s' ∧ s'.calls = s.calls ++ tried (config, answers) ∧
      s.tryEach display intent result ((config, answers) :: rest) =
        s'.tryEach display intent (s.attempt display intent config answers).1 rest := by
  cases failed : (s.attempt display intent config answers).1 with
  | ok ok => exact absurd (attempt_ok_iff.mp failed) (fails ok)
  | error e =>
      obtain ⟨started, call⟩ := sourceStart_alike s config answers
      have stopped := sourceStop_effect (s.sourceStart config answers).2 answers.stop
      have whole : s.attempt display intent config answers =
          (.error e, (s.sourceStart config answers).2) := Prod.ext failed attempt_state
      refine ⟨_, started.trans stopped.alike, ?_, ?_⟩
      · rw [stopped.calls, call, List.append_assoc]
        rfl
      · rw [tryEach, ready, quiet, if_neg (by simp), whole]

theorem tryEach_failing {s : Startup} {result : CameraResult (CameraConfig × FrameLayout)}
    {before rest : List (CameraConfig × Answers)} (ready : s.stopping = false)
    (quiet : ∀ round ∈ before, round.2.cancelled = false)
    (none : NoneSucceeds intent s before) :
    ∃ s', Alike s s' ∧ s'.calls = s.calls ++ before.flatMap tried ∧
      s.tryEach display intent result (before ++ rest) =
        s'.tryEach display intent (lastResult display intent s result before) rest := by
  induction before generalizing s result with
  | nil => exact ⟨s, .refl s, (List.append_nil _).symm, rfl⟩
  | cons round before ih =>
      obtain ⟨next, alike, calls, step⟩ := @tryEach_step display intent s result round.1 round.2
        (before ++ rest) ready (quiet round List.mem_cons_self) (none round List.mem_cons_self)
      have later : NoneSucceeds intent s before := fun other there =>
        none other (List.mem_cons_of_mem round there)
      obtain ⟨s', alike', calls', run⟩ := @ih next (s.attempt display intent round.1 round.2).1
        (alike.stopping.trans ready) (fun other there => quiet other (List.mem_cons_of_mem _ there))
        (later.alike alike.source display)
      refine ⟨s', alike.trans alike', ?_, ?_⟩
      · rw [calls', calls, List.append_assoc, List.flatMap_cons]
      · rw [lastResult_alike alike.source] at run
        exact step.trans run

theorem tryEach_succeeding {s : Startup} {result : CameraResult (CameraConfig × FrameLayout)}
    {config : CameraConfig} {answers : Answers} {rest : List (CameraConfig × Answers)}
    {ok : CameraConfig × FrameLayout} (ready : s.stopping = false)
    (quiet : answers.cancelled = false) (succeeds : s.Succeeds intent config answers ok) :
    s.tryEach display intent result ((config, answers) :: rest) =
      (.ok ok, (s.sourceStart config answers).2) := by
  have whole : s.attempt display intent config answers =
      (.ok ok, (s.sourceStart config answers).2) :=
    Prod.ext (attempt_ok_iff.mpr succeeds) attempt_state
  rw [tryEach, ready, quiet, if_neg (by simp), whole]

def Call.started : Call → Option CameraConfig
  | .start config => some config
  | .stop => none

/-- The configurations that the source is started with are those of `attempted`. -/
theorem tryEach_attempted {s : Startup} {result : CameraResult (CameraConfig × FrameLayout)}
    {rounds : List (CameraConfig × Answers)} (ready : s.stopping = false)
    (quiet : ∀ round ∈ rounds, round.2.cancelled = false) :
    (s.tryEach display intent result rounds).2.calls.filterMap Call.started =
      s.calls.filterMap Call.started ++ attempted (rounds.map Prod.fst)
        (rounds.map fun round => (s.attempt display intent round.1 round.2).1.isOk) := by
  induction rounds generalizing s result with
  | nil => exact (List.append_nil _).symm
  | cons round rest ih =>
      obtain ⟨config, answers⟩ := round
      have calm := quiet (config, answers) List.mem_cons_self
      have later : ∀ round ∈ rest, round.2.cancelled = false := fun round there =>
        quiet round (List.mem_cons_of_mem _ there)
      rw [List.map_cons, List.map_cons, attempted]
      cases outcome : (s.attempt display intent config answers).1 with
      | ok ok =>
          rw [tryEach_succeeding ready calm (attempt_ok_iff.mp outcome),
            (sourceStart_alike s config answers).2, List.filterMap_append]
          rfl
      | error e =>
          obtain ⟨s', alike, calls, step⟩ := @tryEach_step display intent s result config answers
            rest ready calm fun ok succeeds => by
              rw [attempt_ok_iff.mpr succeeds] at outcome
              cases outcome
          rw [step, ih (alike.stopping.trans ready) later, calls, List.filterMap_append,
            List.append_assoc]
          simp only [attempt_alike alike.source]
          rfl

/-! ### The task -/

/-- How the task may end. Either the first candidate that delivers is returned, none of those
before it is left running and none after it is tried; or the last error is, and the session
is closed. -/
structure FallsBack (display : FrameRate → String) (intent : CaptureRequest) (s : Startup)
    (rounds : List (CameraConfig × Answers))
    (result : CameraResult (CameraConfig × FrameLayout)) (s' : Startup) : Prop where
  served : ∀ before config answers after ok, rounds = before ++ (config, answers) :: after →
    NoneSucceeds intent s before → s.Succeeds intent config answers ok →
      result = .ok ok ∧ s'.calls = s.calls ++ before.flatMap tried ++ [.start config] ∧
        Alike s s'
  exhausted : NoneSucceeds intent s rounds →
    (∃ e, result = .error e) ∧
      (rounds = [] → result = .error (.unsupportedFormat "No usable capture configuration")) ∧
      (∀ before config answers, rounds = before ++ [(config, answers)] →
        result = (s.attempt display intent config answers).1) ∧
      s'.calls = s.calls ++ rounds.flatMap tried ++ [.stop] ∧
      (s.source ≠ .native false → s'.hub.active = false) ∧ s'.source = s.source.idle ∧
      s'.stopping = true ∧ s'.closed = true ∧ s'.state = .stopped ∧ s'.busy = false

private theorem finish_failed {s : Startup} {e : CameraError} {cancelled : Bool}
    {stop : CameraResult Unit} :
    s.finish (.error e) cancelled stop =
      { (s.sourceStop stop).2 with
        stopping := true
        closed := true
        state := .stopped
        busy := false } := by
  rw [finish, if_pos]
  exact Bool.or_true _

theorem lastResult_error {s : Startup} {e : CameraError} {rounds : List (CameraConfig × Answers)}
    (none : NoneSucceeds intent s rounds) :
    ∃ e', lastResult display intent s (.error e) rounds = .error e' := by
  induction rounds using List.reverseRecOn with
  | nil => exact ⟨e, rfl⟩
  | append_singleton before round _ =>
      rw [lastResult, List.foldl_append]
      cases failed : (s.attempt display intent round.1 round.2).1 with
      | error e' => exact ⟨e', failed⟩
      | ok ok =>
          exact absurd (attempt_ok_iff.mp failed) (none round (by simp) ok)

theorem startTask_falls_back {s : Startup} {rounds : List (CameraConfig × Answers)}
    (ready : s.stopping = false) (quiet : ∀ round ∈ rounds, round.2.cancelled = false)
    (stop : CameraResult Unit) :
    FallsBack display intent s rounds (s.startTask display intent rounds false stop).1
      (s.startTask display intent rounds false stop).2 where
  served := by
    rintro before config answers after ok rfl none succeeds
    obtain ⟨next, alike, calls, run⟩ := @tryEach_failing display intent s
      (.error (.unsupportedFormat "No usable capture configuration")) before
      ((config, answers) :: after) ready (fun round there => quiet round (by simp [there])) none
    have again : next.Succeeds intent config answers ok := by
      rw [← @attempt_ok_iff display, attempt_alike alike.source, attempt_ok_iff]
      exact succeeds
    rw [tryEach_succeeding (alike.stopping.trans ready) (quiet (config, answers) (by simp)) again]
      at run
    obtain ⟨started, call⟩ := sourceStart_alike next config answers
    have kept : (next.sourceStart config answers).2.finish (.ok ok) false stop =
        (next.sourceStart config answers).2 := by
      rw [finish, started.stopping, alike.stopping, ready, if_neg]
      simp [Except.isOk, Except.toBool]
    rw [startTask, run]
    refine ⟨rfl, ?_, ?_⟩
    · dsimp only
      rw [kept, call, calls]
    · dsimp only
      rw [kept]
      exact alike.trans started
  exhausted := by
    intro none
    obtain ⟨next, alike, calls, run⟩ := @tryEach_failing display intent s
      (.error (.unsupportedFormat "No usable capture configuration")) rounds [] ready quiet none
    rw [List.append_nil, tryEach] at run
    obtain ⟨e, failed⟩ := @lastResult_error display intent s
      (.unsupportedFormat "No usable capture configuration") rounds none
    have stopped := sourceStop_effect next stop
    rw [startTask, run, failed]
    dsimp only
    rw [finish_failed]
    refine ⟨⟨e, rfl⟩, ?_, ?_, ?_, ?_, ?_, rfl, rfl, rfl, rfl⟩
    · rintro rfl
      exact failed.symm
    · rintro before config answers rfl
      rw [← failed, lastResult, List.foldl_append]
      rfl
    · rw [stopped.calls, calls]
    · intro present
      refine stopped.hub fun away => present ?_
      rw [← Source.idle_native_iff, ← alike.source, away]
      rfl
    · exact stopped.idle.trans alike.source

/-! A custom device that refuses MJPEG and delivers YUYV. -/

def smallConfig (format : VideoFormat) : CameraConfig :=
  { format := format, width := 4, height := 2, fps := 30 }

def firstRounds : List (CameraConfig × Answers) :=
  [(smallConfig .mjpeg,
      { start := .error (.unsupportedFormat "MJPEG")
        firstFrame := .error .streamStopped }),
    (smallConfig .yuyv,
      { firstFrame := .ok { width := 4, height := 2, format := .yuyv, planes := [] } })]

def starting : Startup where
  source := .custom true none
  hub := {}
  stopping := false
  closed := false
  busy := true
  state := .starting
  calls := []

theorem startTask_falls_back_yuyv :
    FallsBack (fun _ => "30") {} starting firstRounds
      (starting.startTask (fun _ => "30") {} firstRounds false (.ok ())).1
      (starting.startTask (fun _ => "30") {} firstRounds false (.ok ())).2 :=
  startTask_falls_back rfl (by simp [firstRounds]) (.ok ())

example : (starting.startTask (fun _ => "30") {} firstRounds false (.ok ())).2.calls =
    [.start (smallConfig .mjpeg), .stop, .start (smallConfig .yuyv)] := by
  decide +kernel

end Startup

end CameraRs.Session
