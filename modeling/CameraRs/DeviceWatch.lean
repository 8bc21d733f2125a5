/-
Watching the cameras of a system.

A scan sends a new snapshot only where it differs from the latest one. Lists of devices are
compared by their lengths and by inclusion one way, which for lists without repeats compares
them as sets. An error leaves the devices of the latest snapshot as they are.
-/

import CameraRs.Lib.Machine
import CameraRs.Negotiation.Identity
import Mathlib.Data.List.Perm.Subperm

namespace CameraRs.DeviceWatch

open Negotiation (DeviceInfo)

inductive OperationStage
  | enumeration
  | open
  | capabilities
  | startup
  | firstFrame
  | frameWait
  | backendCommand
  | worker
  | close
deriving DecidableEq, Repr

/-- The details of an error that name its place. -/
structure ErrorContext where
  backend : Option BackendId := none
  device : Option DeviceId := none
  stage : Option OperationStage := none
  operation : Option String := none
  nativeCode : Option Int := none
deriving DecidableEq

inductive DetailedError (Source : Type)
  | mk (error : CameraError) (recoveryHint : RecoveryHint) (source : Option Source)
      (context : ErrorContext) (backendAttempts : List (BackendId × DetailedError Source))
      (causes : List (DetailedError Source))

namespace DetailedError

variable {Source : Type}

mutual

/-- `CameraError::eq`: sources are not compared. -/
def eq : DetailedError Source → DetailedError Source → Bool
  | .mk error hint _ context attempts causes, .mk error' hint' _ context' attempts' causes' =>
      decide (error = error') && decide (hint = hint') && decide (context = context') &&
        eqAttempts attempts attempts' && eqCauses causes causes'

def eqAttempts : List (BackendId × DetailedError Source) →
    List (BackendId × DetailedError Source) → Bool
  | [], [] => true
  | (backend, error) :: rest, (backend', error') :: rest' =>
      decide (backend = backend') && error.eq error' && eqAttempts rest rest'
  | _, _ => false

def eqCauses : List (DetailedError Source) → List (DetailedError Source) → Bool
  | [], [] => true
  | error :: rest, error' :: rest' => error.eq error' && eqCauses rest rest'
  | _, _ => false

end

mutual

theorem eq_self (error : DetailedError Source) : error.eq error = true := by
  cases error with
  | mk error hint source context attempts causes =>
      rw [eq, eqAttempts_self attempts, eqCauses_self causes]
      simp

theorem eqAttempts_self (attempts : List (BackendId × DetailedError Source)) :
    eqAttempts attempts attempts = true := by
  cases attempts with
  | nil => rfl
  | cons attempt rest =>
      rw [eqAttempts, eq_self attempt.2, eqAttempts_self rest]
      simp

theorem eqCauses_self (causes : List (DetailedError Source)) : eqCauses causes causes = true := by
  cases causes with
  | nil => rfl
  | cons error rest =>
      rw [eqCauses, eq_self error, eqCauses_self rest]
      rfl

end

def new (error : CameraError) : DetailedError Source :=
  .mk error (defaultRecoveryHint error.kind) none {} [] []

/-- Whether two errors, or two scans without one, are the same. -/
def eqOption : Option (DetailedError Source) → Option (DetailedError Source) → Bool
  | none, none => true
  | some error, some error' => error.eq error'
  | _, _ => false

theorem eqOption_self (error : Option (DetailedError Source)) : eqOption error error = true := by
  cases error with
  | none => rfl
  | some error => exact error.eq_self

end DetailedError

/-- What the comparison of devices looks at. -/
def identity (device : DeviceInfo) : DeviceId × String × Nat :=
  (device.id, device.name, device.index)

def Distinct (devices : List DeviceInfo) : Prop := (devices.map identity).Nodup

def SameSet (devices other : List DeviceInfo) : Prop :=
  ∀ key, key ∈ devices.map identity ↔ key ∈ other.map identity

variable {Source : Type}

structure DeviceSnapshot (Source : Type) where
  generation : UInt64
  devices : List DeviceInfo
  error : Option (DetailedError Source)

/-- `system.devices()`. -/
abbrev Enumeration (Source : Type) := Except (DetailedError Source) (List DeviceInfo)

namespace DeviceSnapshot

def next (previous : DeviceSnapshot Source) : Enumeration Source → DeviceSnapshot Source
  | .ok devices => { generation := previous.generation + 1, devices := devices, error := none }
  | .error e =>
      { generation := previous.generation + 1, devices := previous.devices, error := some e }

def same (next previous : DeviceSnapshot Source) : Bool :=
  DetailedError.eqOption next.error previous.error &&
    decide (next.devices.length = previous.devices.length) &&
    next.devices.all fun d => previous.devices.any fun p =>
      decide (p.id = d.id ∧ p.name = d.name ∧ p.index = d.index)

def sent (previous : DeviceSnapshot Source) (result : Enumeration Source) :
    Option (DeviceSnapshot Source) :=
  if (previous.next result).same previous then none else some (previous.next result)

end DeviceSnapshot

/-- Where the task is: in `sleep`, in `devices`, or past its loop. -/
inductive Phase
  | sleeping
  | scanning
  | ended
deriving DecidableEq

structure Watcher (Source : Type) where
  snapshot : DeviceSnapshot Source
  cancelled : Bool := false
  phase : Phase := .sleeping

/-- The rest of `watch_devices`, given what its own enumeration came to. -/
def watchDevices (interval : Nat) (result : Enumeration Source) :
    Except (DetailedError Source) (Watcher Source) := do
  if interval = 0 then
    throw (.new (.invalidConfig "Device scan interval must be positive"))
  let devices ← result
  return { snapshot := { generation := 0, devices := devices, error := none } }

/-- `cancel` is `stop` or `drop`. `abandon` is the end of a scan that has not answered yet. -/
inductive Action (Source : Type)
  | wake
  | answer (result : Enumeration Source)
  | abandon
  | cancel

def Watcher.step (w : Watcher Source) (a : Action Source) : Option (Watcher Source) :=
  match w.phase, a with
  | _, .cancel => some { w with cancelled := true }
  | .sleeping, .wake => some { w with phase := if w.cancelled then .ended else .scanning }
  | .scanning, .abandon => if w.cancelled then some { w with phase := .ended } else none
  | .scanning, .answer result =>
      if w.cancelled then some { w with phase := .ended }
      else some { w with
        snapshot := (w.snapshot.sent result).getD w.snapshot
        phase := .sleeping }
  | _, _ => none

def watching : Lib.Machine (Watcher Source) (Action Source) where
  initial w := ∃ interval result, watchDevices interval result = .ok w
  step := Watcher.step

structure Scan (Source : Type) where
  previous : DeviceSnapshot Source
  result : Enumeration Source
  sent : Option (DeviceSnapshot Source)

def scans (w : Watcher Source) (a : Action Source) (_ : Watcher Source) : List (Scan Source) :=
  match w.phase, a with
  | .scanning, .answer result =>
      if w.cancelled then [] else [⟨w.snapshot, result, w.snapshot.sent result⟩]
  | _, _ => []

def listsOnce (_ : Watcher Source × List (Scan Source)) (a : Action Source) : Prop :=
  ∀ devices, a = .answer (.ok devices) → Distinct devices

namespace Scan

def devices (scan : Scan Source) : List DeviceInfo :=
  scan.result.toOption.getD scan.previous.devices

def error (scan : Scan Source) : Option (DetailedError Source) :=
  match scan.result with
  | .ok _ => none
  | .error e => some e

/-- A snapshot is sent exactly when the devices or the error are not those of the one before. -/
structure Reports (scan : Scan Source) : Prop where
  sent : scan.sent.isSome = true ↔ ¬SameSet scan.devices scan.previous.devices ∨
    DetailedError.eqOption scan.error scan.previous.error = false
  generation : ∀ next, scan.sent = some next → next.generation = scan.previous.generation + 1

end Scan

/-- What the latest enumeration that succeeded listed. -/
def inventory (devices : List DeviceInfo) (log : List (Scan Source)) : List DeviceInfo :=
  (log.filterMap fun scan => scan.result.toOption).getLast?.getD devices

/-- The error of the latest enumeration, if it failed. -/
def lastError (log : List (Scan Source)) : Option (DetailedError Source) :=
  log.getLast?.bind Scan.error

/-- The snapshot of a watcher that began with `devices`, after these scans. -/
structure Exact (devices : List DeviceInfo) (log : List (Scan Source))
    (snapshot : DeviceSnapshot Source) : Prop where
  devices : SameSet snapshot.devices (inventory devices log)
  error : DetailedError.eqOption (lastError log) snapshot.error = true
  scans : ∀ scan ∈ log, scan.Reports
  generation : snapshot.generation = UInt64.ofNat (log.countP fun scan => scan.sent.isSome)

/-! ### Comparing two lists -/

variable {previous : DeviceSnapshot Source} {result : Enumeration Source}
  {devices other : List DeviceInfo} {log : List (Scan Source)}

theorem SameSet.refl (devices : List DeviceInfo) : SameSet devices devices :=
  fun _ => Iff.rfl

theorem SameSet.symm (same : SameSet devices other) : SameSet other devices :=
  fun key => (same key).symm

private theorem perm_of_inclusion {α : Type} {items others : List α} (distinct : items.Nodup)
    (included : ∀ item ∈ items, item ∈ others) (count : items.length = others.length) :
    items.Perm others :=
  (distinct.subperm included).perm_of_length_le count.ge

theorem same_iff (distinct : Distinct devices) (kept : Distinct previous.devices)
    (next : DeviceSnapshot Source) (lists : next.devices = devices) :
    next.same previous = true ↔
      DetailedError.eqOption next.error previous.error = true ∧
        SameSet devices previous.devices := by
  have included : (next.devices.all fun d => previous.devices.any fun p =>
      decide (p.id = d.id ∧ p.name = d.name ∧ p.index = d.index)) = true ↔
      ∀ key ∈ devices.map identity, key ∈ previous.devices.map identity := by
    simp only [lists, List.all_eq_true, List.any_eq_true, decide_eq_true_iff, List.mem_map,
      identity, forall_exists_index, and_imp, forall_apply_eq_imp_iff₂, Prod.mk.injEq]
  rw [DeviceSnapshot.same, Bool.and_eq_true, Bool.and_eq_true, decide_eq_true_iff, included, lists,
    and_assoc]
  refine and_congr_right fun _ => ?_
  constructor
  · rintro ⟨count, within⟩ key
    have count : (devices.map identity).length = (previous.devices.map identity).length := by
      rw [List.length_map, List.length_map, count]
    exact (perm_of_inclusion distinct within count).mem_iff
  · intro same
    have perm := (List.perm_ext_iff_of_nodup distinct kept).mpr same
    have count := perm.length_eq
    rw [List.length_map, List.length_map] at count
    exact ⟨count, fun key there => (same key).mp there⟩

/-! ### One scan -/

def scanOf (previous : DeviceSnapshot Source) (result : Enumeration Source) : Scan Source :=
  ⟨previous, result, previous.sent result⟩

theorem next_devices : (previous.next result).devices = (scanOf previous result).devices := by
  cases result <;> rfl

theorem next_error : (previous.next result).error = (scanOf previous result).error := by
  cases result <;> rfl

theorem next_generation : (previous.next result).generation = previous.generation + 1 := by
  cases result <;> rfl

theorem distinct_next (kept : Distinct previous.devices)
    (once : ∀ devices, result = .ok devices → Distinct devices) :
    Distinct (previous.next result).devices := by
  cases result with
  | ok devices => exact once devices rfl
  | error e => exact kept

theorem sent_cases (previous : DeviceSnapshot Source) (result : Enumeration Source) :
    previous.sent result = none ∧ (previous.next result).same previous = true ∨
      previous.sent result = some (previous.next result) ∧
        (previous.next result).same previous = false := by
  unfold DeviceSnapshot.sent
  split
  · next same => exact .inl ⟨rfl, same⟩
  · next differs => exact .inr ⟨rfl, eq_false_of_ne_true differs⟩

private theorem reports_scanOf (kept : Distinct previous.devices)
    (once : ∀ devices, result = .ok devices → Distinct devices) :
    (scanOf previous result).Reports := by
  have compared := same_iff (distinct_next kept once) kept (previous.next result) rfl
  rw [next_devices, next_error] at compared
  have differs : (previous.next result).same previous = false ↔
      ¬SameSet (scanOf previous result).devices previous.devices ∨
        DetailedError.eqOption (scanOf previous result).error previous.error = false := by
    rw [← Bool.not_eq_true, compared, not_and_or, Bool.not_eq_true, or_comm]
  constructor
  · change (previous.sent result).isSome = true ↔ _
    refine Iff.trans ?_ differs
    rcases sent_cases previous result with ⟨none, same⟩ | ⟨some, differ⟩
    · simp [none, same]
    · simp [some, differ]
  · intro next sent
    change previous.sent result = some next at sent
    rcases sent_cases previous result with ⟨none, -⟩ | ⟨some, -⟩
    · rw [none] at sent
      contradiction
    · rw [some] at sent
      obtain rfl := Option.some.inj sent
      exact next_generation

theorem scan_leaves (kept : Distinct previous.devices)
    (once : ∀ devices, result = .ok devices → Distinct devices) :
    Distinct ((previous.sent result).getD previous).devices ∧
      SameSet ((previous.sent result).getD previous).devices (scanOf previous result).devices ∧
      DetailedError.eqOption (scanOf previous result).error
        ((previous.sent result).getD previous).error = true := by
  rcases sent_cases previous result with ⟨none, same⟩ | ⟨some, -⟩
  · rw [none, Option.getD_none]
    obtain ⟨error, devices⟩ :=
      (same_iff (distinct_next kept once) kept (previous.next result) rfl).mp same
    rw [next_error] at error
    rw [next_devices] at devices
    exact ⟨kept, devices.symm, error⟩
  · rw [some, Option.getD_some, next_devices, next_error]
    refine ⟨?_, SameSet.refl _, DetailedError.eqOption_self _⟩
    rw [← next_devices]
    exact distinct_next kept once

/-! ### Runs -/

theorem inventory_snoc (devices : List DeviceInfo) (log : List (Scan Source)) (scan : Scan Source) :
    inventory devices (log ++ [scan]) = scan.result.toOption.getD (inventory devices log) := by
  rw [inventory, List.filterMap_append, List.getLast?_append, List.filterMap_cons]
  cases scan.result with
  | ok listed => rfl
  | error e => rfl

private theorem lastError_snoc (log : List (Scan Source)) (scan : Scan Source) :
    lastError (log ++ [scan]) = scan.error := by
  rw [lastError, List.getLast?_append]
  rfl

theorem Exact.snoc {snapshot : DeviceSnapshot Source} (before : Exact devices log snapshot)
    (kept : Distinct snapshot.devices) (once : ∀ listed, result = .ok listed → Distinct listed) :
    Exact devices (log ++ [scanOf snapshot result])
      ((snapshot.sent result).getD snapshot) := by
  obtain ⟨-, same, error⟩ := scan_leaves kept once
  have reports := reports_scanOf kept once
  constructor
  · rw [inventory_snoc]
    cases result with
    | ok listed => exact same
    | error e => exact fun key => (same key).trans (before.devices key)
  · rw [lastError_snoc]
    exact error
  · intro scan there
    rcases List.mem_append.mp there with earlier | latest
    · exact before.scans scan earlier
    · rw [List.mem_singleton.mp latest]
      exact reports
  · rw [List.countP_append, List.countP_singleton]
    change _ = UInt64.ofNat (_ + if (snapshot.sent result).isSome = true then 1 else 0)
    rcases sent_cases snapshot result with ⟨none, -⟩ | ⟨some, -⟩
    · rw [none]
      exact before.generation
    · rw [some, Option.getD_some, next_generation, before.generation]
      exact (UInt64.ofNat_add _ 1).symm

private theorem step_cases {s t : Watcher Source} {a : Action Source} (taken : s.step a = some t) :
    scans s a t = [] ∧ t.snapshot = s.snapshot ∨
      ∃ result, a = .answer result ∧ scans s a t = [scanOf s.snapshot result] ∧
        t.snapshot = (s.snapshot.sent result).getD s.snapshot := by
  unfold Watcher.step at taken
  split at taken
  · next phase =>
      obtain rfl := Option.some.inj taken
      exact .inl ⟨by unfold scans; split <;> simp_all, rfl⟩
  · next phase =>
      obtain rfl := Option.some.inj taken
      exact .inl ⟨by simp [scans, phase], rfl⟩
  · next phase =>
      split at taken
      · obtain rfl := Option.some.inj taken
        exact .inl ⟨by simp [scans, phase], rfl⟩
      · contradiction
  · next result phase =>
      split at taken
      · next cancelled =>
          obtain rfl := Option.some.inj taken
          exact .inl ⟨by simp [scans, phase, cancelled], rfl⟩
      · next going =>
          obtain rfl := Option.some.inj taken
          exact .inr ⟨result, rfl, by simp [scans, scanOf, phase, going], rfl⟩
  · contradiction

private theorem watchDevices_ok {interval : Nat} {w : Watcher Source}
    (opened : watchDevices interval (.ok devices) = .ok w) :
    w.snapshot = { generation := 0, devices := devices, error := none } := by
  by_cases zero : interval = 0
  · simp [watchDevices, zero, bind, Except.bind, throw, throwThe, MonadExceptOf.throw] at opened
  · simp only [watchDevices, zero, bind, Except.bind, pure, Except.pure, if_false,
      Except.ok.injEq] at opened
    rw [← opened]

/-- After any run, the latest snapshot is exact. -/
theorem watch_exact {interval : Nat} {w s : Watcher Source} {actions : List (Action Source)}
    (opened : watchDevices interval (.ok devices) = .ok w) (once : Distinct devices)
    (run : (watching.logged scans).Run listsOnce (w, []) actions (s, log)) :
    Exact devices log s.snapshot := by
  have start : Distinct w.snapshot.devices ∧ Exact devices [] w.snapshot := by
    rw [watchDevices_ok opened]
    exact ⟨once, SameSet.refl devices, rfl, fun scan there => absurd there List.not_mem_nil, rfl⟩
  refine (run.preserves (P := fun state =>
    Distinct state.1.snapshot.devices ∧ Exact devices state.2 state.1.snapshot) ?_ start).2
  rintro ⟨s, log⟩ a ⟨t, later⟩ lists taken ⟨kept, before⟩
  obtain ⟨step, logged⟩ := Lib.Machine.logged_step taken
  dsimp only at step logged ⊢
  rcases step_cases step with ⟨silent, same⟩ | ⟨result, rfl, scanned, latest⟩
  · rw [logged, silent, List.append_nil, same]
    exact ⟨kept, before⟩
  · have listed : ∀ listed, result = .ok listed → Distinct listed := by
      rintro listed rfl
      exact lists listed rfl
    rw [logged, scanned, latest]
    exact ⟨(scan_leaves kept listed).1, before.snoc kept listed⟩

def webcam : DeviceInfo where
  id := { backend := .uvc, native := "046d:0825:1" }
  name := "Webcam"
  description := ""
  stability := .native
  index := 0
  facing := .external
  usb := none

def failingScans : List (Action Unit) :=
  [.wake, .answer (.error (.new (.invalidConfig "Device is busy"))), .wake,
    .answer (.error (.new (.invalidConfig "Device is busy")))]

/-- The failure is sent once, and the camera stays listed. -/
theorem watch_exact_failing :
    ∃ (s : Watcher Unit) (log : List (Scan Unit)), log.length = 2 ∧
      s.snapshot.generation = 1 ∧ Exact [webcam] log s.snapshot := by
  have passed : ((watching.logged scans).exec
      (fun _ a => match a with
        | .answer result => !result.isOk
        | _ => true)
      ({ snapshot := { generation := 0, devices := [webcam], error := none } }, [])
      failingScans).any (fun state : Watcher Unit × List (Scan Unit) =>
        decide (state.2.length = 2 ∧ state.1.snapshot.generation = 1)) = true := by
    decide +kernel
  obtain ⟨⟨s, log⟩, run, counted⟩ := Lib.Machine.run_of_passed passed
  obtain ⟨two, one⟩ := of_decide_eq_true counted
  have opened : watchDevices 1 (.ok [webcam]) = .ok
      ({ snapshot := { generation := 0, devices := [webcam], error := none } } : Watcher Unit) :=
    rfl
  refine ⟨s, log, two, one, watch_exact opened (List.nodup_singleton _) (run.mono ?_)⟩
  rintro state a failing devices rfl
  contradiction

end CameraRs.DeviceWatch
