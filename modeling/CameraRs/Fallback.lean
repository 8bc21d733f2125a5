/-
Starting a capture on the first of the preferred backends that works.

What opening a device, starting a session on it and subscribing come to is up to the host,
which may change the world whatever the outcome. The loop over the preferences is the
source's.
-/

import CameraRs.Contract
import CameraRs.Frame.State
import CameraRs.Negotiation.Modes
import Mathlib.Data.List.MinMax

namespace CameraRs.Fallback

structure BackendAttempt (ε : Type) where
  backend : BackendId
  error : ε

/-- `CameraError` with its hint, its source and the attempts that it reports. -/
structure Failure where
  error : CameraError
  recoveryHint : RecoveryHint
  source : Option Failure
  attempts : List (BackendAttempt Failure)

/-- The key of `max_by_key`. No two hints have one key. -/
def priority : RecoveryHint → Nat
  | .none => 0
  | .dropFrame => 1
  | .enableBackend => 2
  | .changeConfiguration => 3
  | .reduceResourceUsage => 4
  | .retry => 5
  | .reenumerateDevice => 6
  | .requestPermission => 7

def aggregateRecoveryHint (hints : List RecoveryHint) : RecoveryHint :=
  (hints.argmax priority).getD .none

private theorem aggregateRecoveryHint_mem {hints : List RecoveryHint} (some_hint : hints ≠ []) :
    aggregateRecoveryHint hints ∈ hints := by
  cases found : hints.argmax priority with
  | none => exact absurd (List.argmax_eq_none.mp found) some_hint
  | some hint =>
      rw [aggregateRecoveryHint, found]
      exact List.argmax_mem found

private theorem le_aggregateRecoveryHint {hints : List RecoveryHint} {hint : RecoveryHint}
    (there : hint ∈ hints) : priority hint ≤ priority (aggregateRecoveryHint hints) := by
  cases found : hints.argmax priority with
  | none =>
      rw [List.argmax_eq_none.mp found] at there
      contradiction
  | some greatest =>
      rw [aggregateRecoveryHint, found]
      exact List.le_of_mem_argmax there found

namespace Failure

def new (error : CameraError) : Failure :=
  { error := error, recoveryHint := defaultRecoveryHint error.kind, source := none, attempts := [] }

def allBackendsFailed (attempts : List (BackendAttempt Failure)) : Failure :=
  let details := "; ".intercalate
    (attempts.map fun attempt => attempt.backend.asStr ++ ": " ++ attempt.error.error.message)
  { error := ⟨.multipleBackendsFailed, "All preferred backends failed: " ++ details⟩
    recoveryHint := aggregateRecoveryHint (attempts.map fun attempt => attempt.error.recoveryHint)
    source := attempts.head?.map BackendAttempt.error
    attempts := attempts }

/-- A report on these backends, whose attempts all failed. -/
structure Reports (report : Failure) (backends : List BackendId)
    (attempts : List (BackendAttempt Failure)) : Prop where
  kind : report.error.kind = .multipleBackendsFailed
  lists : report.attempts = attempts
  backends : attempts.map BackendAttempt.backend = backends
  source : report.source = attempts.head?.map BackendAttempt.error
  hint : ∃ attempt ∈ attempts, attempt.error.recoveryHint = report.recoveryHint
  highest : ∀ attempt ∈ attempts,
    priority attempt.error.recoveryHint ≤ priority report.recoveryHint

private theorem reports_allBackendsFailed {backends : List BackendId}
    {attempts : List (BackendAttempt Failure)}
    (each : attempts.map BackendAttempt.backend = backends) (preference : backends ≠ []) :
    (allBackendsFailed attempts).Reports backends attempts where
  kind := rfl
  lists := rfl
  backends := each
  source := rfl
  hint := by
    have some_hint : (attempts.map fun attempt => attempt.error.recoveryHint) ≠ [] := by
      intro empty
      rw [List.map_eq_nil_iff.mp empty, List.map_nil] at each
      exact preference each.symm
    exact List.mem_map.mp (aggregateRecoveryHint_mem some_hint)
  highest := by
    intro attempt there
    exact le_aggregateRecoveryHint (List.mem_map_of_mem there)

/-- The error ends the search for a backend. -/
def stops (failure : Failure) : Bool :=
  failure.error.kind == .permissionDenied || failure.error.kind == .permissionRequired

end Failure

structure V4l2Options where
  mmapBuffers : Option Nat := none

inductive Camera2RequestTemplate
  | preview
  | stillCapture
  | record

structure Camera2Options where
  maxImages : Option UInt32 := none
  requestTemplate : Option Camera2RequestTemplate := none

inductive LateFramePolicy
  | drop
  | deliver

structure AvFoundationOptions where
  lateFrames : LateFramePolicy := .drop

inductive BackendOptions
  | v4l2 (options : V4l2Options)
  | camera2 (options : Camera2Options)
  | avFoundation (options : AvFoundationOptions)

namespace BackendOptions

def backend : BackendOptions → BackendId
  | v4l2 _ => .v4l2
  | camera2 _ => .camera2
  | avFoundation _ => .avFoundation

def validate : BackendOptions → CameraResult Unit
  | v4l2 options =>
      if options.mmapBuffers.any fun n => decide (n < 2 ∨ 32 < n) then
        .error (.invalidConfig "V4L2 MMAP buffer count must be 2..=32")
      else .ok ()
  | camera2 options =>
      if options.maxImages.any fun n => decide (n < 2 ∨ 16 < n) then
        .error (.invalidConfig "Camera2 max_images must be 2..=16")
      else .ok ()
  | avFoundation _ => .ok ()

end BackendOptions

inductive BackendPolicy
  | platformDefault
  | require (backend : BackendId)
  | prefer (backends : List BackendId)
deriving DecidableEq

/-- A system is built with some preference and, where one backend is required, with options
of no other. `Provider` is what an application registers. -/
structure CameraSystem (Provider : Type) where
  policy : BackendPolicy
  synthetic : Bool
  registered : List (BackendId × Provider)
  backendOptions : List BackendOptions
  preference : policy ≠ .prefer []
  own : ∀ backend, policy = .require backend →
    ∀ options ∈ backendOptions, options.backend = backend

structure SystemBuilder (Provider : Type) where
  policy : BackendPolicy := .platformDefault
  registered : List (BackendId × Provider) := []
  backendOptions : List BackendOptions := []

variable {Provider : Type}

/-- The first of the options that a required backend does not take. -/
def SystemBuilder.mismatch (builder : SystemBuilder Provider) : Option (BackendId × BackendId) :=
  match builder.policy with
  | .require selected =>
      (builder.backendOptions.find? fun options => decide (options.backend ≠ selected)).map
        fun options => (options.backend, selected)
  | _ => none

private theorem SystemBuilder.own_of_mismatch {builder : SystemBuilder Provider}
    (matched : builder.mismatch = none) {backend : BackendId}
    (required : builder.policy = .require backend) :
    ∀ options ∈ builder.backendOptions, options.backend = backend := by
  intro options there
  simp only [mismatch, required, Option.map_eq_none_iff, List.find?_eq_none] at matched
  simpa using matched options there

def SystemBuilder.build (builder : SystemBuilder Provider) :
    CameraResult (CameraSystem Provider) := do
  builder.backendOptions.forM BackendOptions.validate
  if matched : builder.mismatch = none then
    if preference : builder.policy ≠ .prefer [] then
      return {
        policy := builder.policy
        synthetic := false
        registered := builder.registered
        backendOptions := builder.backendOptions
        preference := preference
        own := fun _ required => builder.own_of_mismatch matched required }
    else throw (.invalidConfig "Backend preference list cannot be empty")
  else
    let (option, selected) := builder.mismatch.get (Option.isSome_iff_ne_none.mpr matched)
    throw (.backendOptionMismatch option.asStr selected.asStr)

namespace CameraSystem

/-- The system for one of the preferred backends. -/
def requiring (system : CameraSystem Provider) (backend : BackendId) : CameraSystem Provider where
  policy := .require backend
  synthetic := system.synthetic
  registered := system.registered
  backendOptions :=
    system.backendOptions.filter fun options => decide (options.backend = backend)
  preference := BackendPolicy.noConfusion
  own := by
    intro required same options there
    obtain rfl := BackendPolicy.require.inj same
    exact of_decide_eq_true (List.mem_filter.mp there).2

/-- `alone` has the options of `backend` and no others. -/
structure Confines (system : CameraSystem Provider) (backend : BackendId)
    (alone : CameraSystem Provider) : Prop where
  requires : alone.policy = .require backend
  options : ∀ options, options ∈ alone.backendOptions ↔
    options ∈ system.backendOptions ∧ options.backend = backend

private theorem confines_requiring (system : CameraSystem Provider) (backend : BackendId) :
    system.Confines backend (system.requiring backend) where
  requires := rfl
  options := by
    intro options
    rw [requiring, List.mem_filter, decide_eq_true_iff]

end CameraSystem

inductive CameraFacing
  | front
  | back
  | external
  | unknown
deriving DecidableEq

inductive DeviceSelector
  | default
  | id (id : DeviceId)
  | facing (facing : CameraFacing)
  | usb (vendorId productId : UInt16) (serialNumber : Option String)
  | name (name : String)

structure ReconnectPolicy where
  maxAttempts : Option UInt32 := some 10
  delay : Nat := 10 ^ 9
  stallTimeout : Nat := 5 * 10 ^ 9

/-- The request of an application. Durations are nanoseconds. -/
structure CaptureRequest extends CameraRs.CaptureRequest where
  memory : MemoryBudget := {}
  startupTimeout : Nat := 3 * 10 ^ 9
  reconnect : Option ReconnectPolicy := none

inductive OutputFormat
  | rgb8
  | native
deriving DecidableEq

inductive SelectionPolicy
  | exact
  | closest

structure StreamRequest where
  width : UInt32 := 640
  height : UInt32 := 480
  fps : FrameRate := .standard
  format : Option VideoFormat := none
  output : OutputFormat := .native
  selection : SelectionPolicy := .closest
  memory : MemoryBudget := {}
  startupTimeout : Nat := 3 * 10 ^ 9
  driverBuffers : Option Nat := none
  reconnect : Option ReconnectPolicy := none

def StreamRequest.build (r : StreamRequest) : CameraResult StreamRequest := do
  r.memory.validate
  let rgb := (checkedMul r.width.toNat r.height.toNat).bind (checkedMul · 3)
  if r.width = 0 ∨ r.height = 0 ∨ rgb = none ∨ r.startupTimeout = 0 then
    throw (.invalidConfig "Invalid resolution/startup deadline")
  if r.output = .rgb8 ∧ r.memory.bytes / r.memory.buffers < rgb.getD 0 then
    throw (.invalidConfig "RGB buffers exceed memory budget")
  if r.driverBuffers.any fun n => decide (n < 2 ∨ 32 < n) then
    throw (.invalidConfig "Driver buffer count must be 2..=32")
  if r.reconnect.any fun p =>
      decide (p.delay = 0 ∨ p.stallTimeout = 0 ∨ p.maxAttempts = some 0) then
    throw (.invalidConfig "Invalid reconnect policy")
  return r

def CaptureRequest.toStreamRequest (request : CaptureRequest) : CameraResult StreamRequest :=
  StreamRequest.build
    { width := request.width
      height := request.height
      fps := request.preferredFps
      memory := request.memory
      startupTimeout := request.startupTimeout
      format := request.preferredFormats.head?
      reconnect := request.reconnect }

/-- An operation that may fail, and that changes the world either way. -/
abbrev Async (World α : Type) := ExceptT Failure (StateM World) α

/-- What the operations of a capture come to. -/
structure Host (Provider World Deadline Device Session Receiver : Type) where
  deadline : World → Nat → Deadline
  openUntil : CameraSystem Provider → DeviceSelector → Deadline → Async World Device
  startUntil : Device → CaptureRequest → Deadline → Async World Session
  subscribe : Session → Frame.SubscriptionOptions → Async World Receiver

structure Capture (Session Receiver : Type) where
  session : Session
  receiver : Receiver

structure CaptureBuilder (Provider : Type) where
  system : CameraSystem Provider
  selector : DeviceSelector
  request : CaptureRequest

variable {World Deadline Device Session Receiver : Type}

namespace Host

variable (host : Host Provider World Deadline Device Session Receiver)

/-- Opening, starting and subscribing, in one of the preferred backends or directly. -/
def attempt (system : CameraSystem Provider) (selector : DeviceSelector)
    (request : CaptureRequest) (deadline : Deadline) : Async World (Capture Session Receiver) := do
  let device ← host.openUntil system selector deadline
  let session ← host.startUntil device request deadline
  let receiver ← host.subscribe session {}
  return { session := session, receiver := receiver }

variable (system : CameraSystem Provider) (request : CaptureRequest) (deadline : Deadline)

def tryPreferred (attempts : List (BackendAttempt Failure)) :
    List BackendId → World → Except Failure (Capture Session Receiver) × World
  | [], world => (.error (.allBackendsFailed attempts), world)
  | backend :: later, world =>
      match (host.attempt (system.requiring backend) .default request deadline).run world with
      | (.ok capture, world) => (.ok capture, world)
      | (.error failure, world) =>
          if failure.stops then (.error failure, world)
          else tryPreferred (attempts ++ [⟨backend, failure⟩]) later world

def start (builder : CaptureBuilder Provider) (world : World) :
    Except Failure (Capture Session Receiver) × World :=
  match builder.request.toStreamRequest with
  | .error error => (.error (.new error), world)
  | .ok _ =>
      let deadline := host.deadline world builder.request.startupTimeout
      match builder.selector, builder.system.policy with
      | .default, .prefer backends =>
          host.tryPreferred builder.system builder.request deadline [] backends world
      | selector, _ =>
          (host.attempt builder.system selector builder.request deadline).run world

/-- The attempts for these backends all fail, and none of the errors ends the search. -/
inductive FailsFor : List BackendId → World → List (BackendAttempt Failure) → World → Prop
  | none {world : World} : FailsFor [] world [] world
  | next {backend : BackendId} {later : List BackendId} {world between after : World}
      {failure : Failure} {attempts : List (BackendAttempt Failure)}
      (failed : (host.attempt (system.requiring backend) .default request deadline).run world =
        (.error failure, between))
      (goes : failure.stops = false) (rest : FailsFor later between attempts after) :
      FailsFor (backend :: later) world (⟨backend, failure⟩ :: attempts) after

/-- The first of these backends that does not just fail decides. -/
inductive Decides : List BackendId → World →
    Except Failure (Capture Session Receiver) × World → Prop
  | works {tried later : List BackendId} {backend : BackendId} {world between after : World}
      {attempts : List (BackendAttempt Failure)} {capture : Capture Session Receiver}
      (failed : FailsFor host system request deadline tried world attempts between)
      (started : (host.attempt (system.requiring backend) .default request deadline).run between =
        (.ok capture, after)) : Decides (tried ++ backend :: later) world (.ok capture, after)
  | stops {tried later : List BackendId} {backend : BackendId} {world between after : World}
      {attempts : List (BackendAttempt Failure)} {failure : Failure}
      (failed : FailsFor host system request deadline tried world attempts between)
      (refused : (host.attempt (system.requiring backend) .default request deadline).run between =
        (.error failure, after))
      (stopping : failure.stops = true) :
      Decides (tried ++ backend :: later) world (.error failure, after)

variable {host system request deadline} {preferred : List BackendId} {world : World}

theorem FailsFor.backends {attempts : List (BackendAttempt Failure)} {after : World}
    (failed : FailsFor host system request deadline preferred world attempts after) :
    attempts.map BackendAttempt.backend = preferred := by
  induction failed with
  | none => rfl
  | next _ _ _ ih => rw [List.map_cons, ih]

theorem Decides.next {backend : BackendId} {failure : Failure} {between : World}
    {result : Except Failure (Capture Session Receiver) × World}
    (decides : Decides host system request deadline preferred between result)
    (failed : (host.attempt (system.requiring backend) .default request deadline).run world =
      (.error failure, between))
    (goes : failure.stops = false) :
    Decides host system request deadline (backend :: preferred) world result := by
  cases decides with
  | works before started => exact .works (.next failed goes before) started
  | stops before refused stopping => exact .stops (.next failed goes before) refused stopping

private theorem tryPreferred_cases (before : List (BackendAttempt Failure)) :
    Decides host system request deadline preferred world
        (host.tryPreferred system request deadline before preferred world) ∨
      ∃ attempts after, FailsFor host system request deadline preferred world attempts after ∧
        host.tryPreferred system request deadline before preferred world =
          (.error (.allBackendsFailed (before ++ attempts)), after) := by
  induction preferred generalizing before world with
  | nil => exact .inr ⟨[], world, .none, by rw [tryPreferred, List.append_nil]⟩
  | cons backend later ih =>
      rcases outcome : (host.attempt (system.requiring backend) .default request deadline).run world
        with ⟨failure | capture, after⟩
      · cases stopping : failure.stops with
        | true =>
            have ended : host.tryPreferred system request deadline before (backend :: later) world =
                (.error failure, after) := by
              simp only [tryPreferred, outcome, stopping, if_true]
            have first : Decides host system request deadline ([] ++ backend :: later) world
                (.error failure, after) := .stops .none outcome stopping
            rw [ended]
            exact .inl first
        | false =>
            have goes : host.tryPreferred system request deadline before (backend :: later) world =
                host.tryPreferred system request deadline (before ++ [⟨backend, failure⟩]) later
                  after := by
              simp only [tryPreferred, outcome, stopping, Bool.false_eq_true, if_false]
            rw [goes]
            rcases @ih after (before ++ [⟨backend, failure⟩]) with
              decides | ⟨attempts, final, failed, same⟩
            · exact .inl (decides.next outcome stopping)
            · refine .inr ⟨⟨backend, failure⟩ :: attempts, final,
                .next outcome stopping failed, ?_⟩
              rw [same, List.append_assoc, List.singleton_append]
      · have ended : host.tryPreferred system request deadline before (backend :: later) world =
            (.ok capture, after) := by
          simp only [tryPreferred, outcome]
        have first : Decides host system request deadline ([] ++ backend :: later) world
            (.ok capture, after) := .works .none outcome
        rw [ended]
        exact .inl first

/-- A request that is not accepted is refused before any backend is tried. Otherwise the
preferred backends are tried in order, each with its own options, until one of them decides;
if none does, the report lists them all. -/
theorem start_preferring (host : Host Provider World Deadline Device Session Receiver)
    (request : CaptureRequest) (world : World) (prefers : system.policy = .prefer preferred) :
    (∀ error, request.toStreamRequest = .error error →
      host.start ⟨system, .default, request⟩ world = (.error (.new error), world)) ∧
    (∀ accepted, request.toStreamRequest = .ok accepted →
      ∃ deadline, deadline = host.deadline world request.startupTimeout ∧
        (Decides host system request deadline preferred world
            (host.start ⟨system, .default, request⟩ world) ∨
          ∃ attempts after report,
            FailsFor host system request deadline preferred world attempts after ∧
            host.start ⟨system, .default, request⟩ world = (.error report, after) ∧
            report.Reports preferred attempts)) ∧
    ∀ backend, system.Confines backend (system.requiring backend) := by
  refine ⟨?_, ?_, system.confines_requiring⟩
  · intro error rejected
    simp only [start, rejected]
  · intro accepted passes
    have looped : host.start ⟨system, .default, request⟩ world =
        host.tryPreferred system request (host.deadline world request.startupTimeout) []
          preferred world := by
      simp only [start, passes, prefers]
    refine ⟨_, rfl, ?_⟩
    rw [looped]
    rcases tryPreferred_cases [] with decides | ⟨attempts, after, failed, same⟩
    · exact .inl decides
    · have preference : preferred ≠ [] := by
        rintro rfl
        exact system.preference prefers
      rw [List.nil_append] at same
      exact .inr ⟨attempts, after, _, failed, same,
        Failure.reports_allBackendsFailed failed.backends preference⟩

end Host

/-- A host that finds a device in one backend only. -/
def onlyV4l2 : Host Unit Unit Unit Unit Unit Unit where
  deadline _ _ := ()
  openUntil system _ _ :=
    if system.policy = .require .v4l2 then pure ()
    else throw (.new (.deviceNotFound "0"))
  startUntil _ _ _ := pure ()
  subscribe _ _ := pure ()

def preferring (backends : List BackendId) (preference : backends ≠ []) : CameraSystem Unit where
  policy := .prefer backends
  synthetic := false
  registered := []
  backendOptions := []
  preference := by
    intro same
    exact preference (BackendPolicy.prefer.inj same)
  own _ impossible := BackendPolicy.noConfusion impossible

def usbThenV4l2 : CameraSystem Unit :=
  preferring [.uvc, .v4l2] (List.cons_ne_nil _ _)

theorem start_preferring_second :
    (onlyV4l2.start ⟨usbThenV4l2, .default, {}⟩ ()).1 = .ok ⟨(), ()⟩ ∧
      Host.Decides onlyV4l2 usbThenV4l2 {} () [.uvc, .v4l2] ()
        (onlyV4l2.start ⟨usbThenV4l2, .default, {}⟩ ()) := by
  have works : (onlyV4l2.start ⟨usbThenV4l2, .default, {}⟩ ()).1 = .ok ⟨(), ()⟩ := rfl
  have prefers : usbThenV4l2.policy = .prefer [.uvc, .v4l2] := rfl
  obtain ⟨_, accepted, _⟩ := Host.start_preferring onlyV4l2 {} () prefers
  obtain ⟨_, rfl, decides | ⟨attempts, after, report, _, fails, _⟩⟩ := accepted _ rfl
  · exact ⟨works, decides⟩
  · rw [fails] at works
    contradiction

def ReportsOnce (backends : List BackendId) (result : Except Failure (Capture Unit Unit)) : Prop :=
  ∀ failure, result = .error failure → failure.stops = false →
    ∀ backend ∈ backends, (failure.attempts.map BackendAttempt.backend).count backend = 1

/-- A backend that is preferred twice is tried and listed twice; a request for an empty image
is refused without a report. -/
theorem not_always_reported_once :
    ¬ ReportsOnce [.uvc, .uvc]
        (onlyV4l2.start ⟨preferring [.uvc, .uvc] (List.cons_ne_nil _ _), .default, {}⟩ ()).1 ∧
      ¬ ReportsOnce [.uvc]
        (onlyV4l2.start ⟨preferring [.uvc] (List.cons_ne_nil _ _), .default,
          { width := 0 }⟩ ()).1 := by
  constructor
  · intro once
    have counted := once _ rfl rfl .uvc List.mem_cons_self
    have twice : [BackendId.uvc, BackendId.uvc].count .uvc = 2 := by decide
    exact absurd (twice.symm.trans counted) (by decide)
  · intro once
    have counted := once _ rfl rfl .uvc List.mem_cons_self
    exact absurd counted (by decide)

end CameraRs.Fallback
