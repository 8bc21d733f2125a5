/-
Starting and stopping a UVC stream.

`start_sync` opens the device, negotiates, begins an epoch of the hub, and only then makes the
decode worker and starts libuvc. What is undone depends on the step that fails: the failure of
libuvc is rolled back, the two refusals in between are not.
-/

import CameraRs.Frame.State
import CameraRs.Lib.Machine
import CameraRs.Negotiation.Device
import CameraRs.Uvc.Intervals

namespace CameraRs.Uvc

open Negotiation (CameraDeviceInfo)

/-- What the calls of libuvc and of the system answer during one start. `devices` are what
`to_device_info` makes of the listed devices; a probe may change the interval it is given. -/
structure Native where
  newContext : CameraResult Unit
  deviceList : CameraResult (List (Option CameraDeviceInfo))
  openDevice : CameraResult Unit
  getStreamCtrl : CameraResult Unit
  probe : UInt32 → CameraResult UInt32
  spawn : CameraResult Unit
  startStreaming : CameraResult Unit

/-- `callback` is the session of the context that is installed, `workers` are the sessions
whose decode workers run. A worker ends when its context is dropped. -/
structure UvcCamera where
  deviceIndex : Nat
  expectedId : Option String := none
  context : Bool := false
  deviceHandle : Bool := false
  streamCtrl : Option UInt32 := none
  currentConfig : Option CameraConfig := none
  hub : Frame.Snapshot := {}
  nativeOutput : Bool := false
  nextSession : Nat := 1
  callback : Option Nat := none
  mjpegWorker : Option Nat := none
  workers : List Nat := []

namespace UvcCamera

variable (native : Native) (decodeMjpeg : Bool)

def select (c : UvcCamera) (devices : List (Option CameraDeviceInfo)) : CameraResult Unit :=
  match c.expectedId with
  | some expected =>
      match devices.filter fun info => info.any fun info => info.uniqueId == expected with
      | [] => .error (.deviceNotFound expected)
      | [_] => .ok ()
      | _ => .error (.ambiguousDevice expected)
  | none =>
      if c.deviceIndex < devices.length then .ok ()
      else .error (.deviceNotFound
        ("Device index " ++ toString c.deviceIndex ++ " does not exist"))

def openContext (c : UvcCamera) : CameraResult UvcCamera :=
  if c.context then .ok c
  else do
    native.newContext
    let devices ← native.deviceList
    c.select devices
    native.openDevice
    return { c with context := true, deviceHandle := true }

def startHub (c : UvcCamera) : UvcCamera :=
  { c with
    nextSession := c.nextSession + 1
    hub :=
      { session := c.nextSession
        active := true
        recovering := c.hub.recovering
        reconnectEnabled := c.hub.reconnectEnabled
        latest := none } }

def stopHub (c : UvcCamera) : UvcCamera :=
  { c with hub := { c.hub with active := false, latest := none } }

/-- A callback context is dropped, and its dispatch with it. -/
def dropContext (c : UvcCamera) (session : Option Nat) : UvcCamera :=
  { c with workers := c.workers.filter fun worker => decide (some worker ≠ session) }

def decodes (c : UvcCamera) (config : CameraConfig) : Bool :=
  decide (config.format = .mjpeg) && !c.nativeOutput

/-- The decode worker of an epoch, if its frames have to be decoded. -/
def makeWorker (c : UvcCamera) (config : CameraConfig) (session : Nat) :
    CameraResult (Option Nat) :=
  if !c.decodes config then .ok none
  else if !decodeMjpeg then
    .error (.unsupportedFormat "MJPEG decoding requires the decode-mjpeg feature")
  else native.spawn.map fun _ => some session

/-- libuvc is started with the callback context of an epoch. -/
def stream (c : UvcCamera) (session : Nat) (worker : Option Nat) (config : CameraConfig)
    (interval : UInt32) : UvcCamera × CameraResult Unit :=
  match native.startStreaming with
  | .error error => (c.stopHub.dropContext (some session), .error error)
  | .ok _ =>
      ({ c.dropContext c.callback with
          callback := some session
          mjpegWorker := worker
          streamCtrl := some interval
          currentConfig := some config }, .ok ())

/-- `start_sync` from `hub.start()` on, for the negotiated configuration. -/
def launch (c : UvcCamera) (config : CameraConfig) (interval : UInt32) :
    UvcCamera × CameraResult Unit :=
  let begun := c.startHub
  match begun.makeWorker native decodeMjpeg config c.nextSession with
  | .error error => (begun, .error error)
  | .ok worker =>
      { begun with workers := begun.workers ++ worker.toList }.stream native c.nextSession worker
        config interval

/-- The stream control with the interval, as probed; `none` is a panic. -/
def negotiate (config : CameraConfig) : Option (CameraResult (CameraConfig × UInt32)) :=
  match native.getStreamCtrl with
  | .error error => some (.error error)
  | .ok _ =>
      (frameInterval config).map fun interval => do
        let probed ← native.probe (← interval)
        let rate ← FrameRate.new 10000000 probed
        return (config.withFrameRate rate, probed)

/-- `start_sync`; `none` is a panic. -/
def startSync (c : UvcCamera) (config : CameraConfig) :
    UvcCamera × Option (CameraResult Unit) :=
  match config.validate with
  | .error error => (c, some (.error error))
  | .ok _ =>
      if c.hub.active then (c, some (.error (.streamError "Stream already running")))
      else
        match c.openContext native with
        | .error error => (c, some (.error error))
        | .ok c =>
            if !c.deviceHandle then (c, some (.error (.deviceOpenFailed "Device not open")))
            else
              match negotiate native config with
              | none => (c, none)
              | some (.error error) => (c, some (.error error))
              | some (.ok (config, interval)) =>
                  ((c.launch native decodeMjpeg config interval).1,
                    some (c.launch native decodeMjpeg config interval).2)

def stopLocked (c : UvcCamera) : UvcCamera :=
  { c.stopHub.dropContext c.callback with
    callback := none
    mjpegWorker := none
    streamCtrl := none }

def cleanup (c : UvcCamera) : UvcCamera :=
  { c.stopLocked with context := false, deviceHandle := false }

structure Idle (c : UvcCamera) : Prop where
  hub : c.hub.active = false
  callback : c.callback = none
  workers : c.workers = []

structure Begins (c : UvcCamera) (config : CameraConfig) : Prop where
  accepted : config.validate = .ok ()
  opened : c.context = false → native.newContext = .ok () ∧
    (∃ devices, native.deviceList = .ok devices ∧ c.select devices = .ok ()) ∧
    native.openDevice = .ok ()
  handle : c.context = true → c.deviceHandle = true
  control : native.getStreamCtrl = .ok ()
  probed : ∃ interval probed, frameInterval config = some (.ok interval) ∧
    native.probe interval = .ok probed ∧ probed ≠ 0

/-- The epoch is begun and its frames would have to be decoded, but they cannot be. -/
structure Abandons (c : UvcCamera) (config : CameraConfig) : Prop where
  begins : c.Begins native config
  decodes : c.decodes config = true
  unserved : decodeMjpeg = false ∨ ∃ error, native.spawn = .error error

end UvcCamera

/-- `observe` is what publications and recovery do to the state of the hub. -/
inductive Action
  | start (native : Native) (config : CameraConfig)
  | stopStream
  | cleanup
  | configure (nativeOutput : Bool)
  | observe (state : Frame.Snapshot)

def step (decodeMjpeg : Bool) (c : UvcCamera) : Action → Option UvcCamera
  | .start native config => some (c.startSync native decodeMjpeg config).1
  | .stopStream => some c.stopLocked
  | .cleanup => some c.cleanup
  | .configure nativeOutput =>
      some (if c.hub.active then c else { c with nativeOutput := nativeOutput })
  | .observe state =>
      if state.active = c.hub.active ∧ state.session = c.hub.session then
        some { c with hub := state }
      else none

/-- A camera made by `new_selected`, or by `from_fd` with its device open. -/
def machine (decodeMjpeg : Bool) : Lib.Machine UvcCamera Action where
  initial c := ∃ deviceIndex expectedId opened,
    c = { deviceIndex := deviceIndex, expectedId := expectedId, context := opened,
          deviceHandle := opened }
  step := step decodeMjpeg

namespace UvcCamera

variable {native : Native} {decodeMjpeg : Bool} {c d : UvcCamera} {config : CameraConfig}
  {interval : UInt32}

/-- A camera without an epoch has no callback context, and every worker serves the one that is
installed. -/
structure Coherent (c : UvcCamera) : Prop where
  callback : c.hub.active = false → c.callback = none
  workers : ∀ worker ∈ c.workers, c.callback = some worker

/-- The steps before the epoch leave its parts alone. -/
structure SameEpoch (c d : UvcCamera) : Prop where
  hub : d.hub = c.hub
  nativeOutput : d.nativeOutput = c.nativeOutput
  callback : d.callback = c.callback
  workers : d.workers = c.workers

theorem SameEpoch.refl : SameEpoch c c := ⟨rfl, rfl, rfl, rfl⟩

theorem SameEpoch.idle (same : SameEpoch c d) (idle : c.Idle) : d.Idle where
  hub := by rw [same.hub, idle.hub]
  callback := by rw [same.callback, idle.callback]
  workers := by rw [same.workers, idle.workers]

/-! ### Before the epoch -/

theorem bind_ok {α β : Type} {first : CameraResult α} {next : α → CameraResult β} {result : β} :
    (first >>= next) = .ok result ↔ ∃ value, first = .ok value ∧ next value = .ok result := by
  cases first with
  | error e => simp [bind, Except.bind]
  | ok value => simp [bind, Except.bind]

private theorem openContext_ok (opened : c.openContext native = .ok d) : SameEpoch c d ∧
    (c.context = false → (native.newContext = .ok () ∧
      (∃ devices, native.deviceList = .ok devices ∧ c.select devices = .ok ()) ∧
      native.openDevice = .ok ()) ∧ d.deviceHandle = true) ∧
    (c.context = true → d.deviceHandle = c.deviceHandle) := by
  unfold openContext at opened
  split at opened
  · next there =>
      obtain rfl := Except.ok.inj opened
      exact ⟨⟨rfl, rfl, rfl, rfl⟩, fun missing => by simp [there] at missing, fun _ => rfl⟩
  · next missing =>
      obtain ⟨_, made, opened⟩ := bind_ok.mp opened
      obtain ⟨devices, listed, opened⟩ := bind_ok.mp opened
      obtain ⟨_, selected, opened⟩ := bind_ok.mp opened
      obtain ⟨_, usable, opened⟩ := bind_ok.mp opened
      obtain rfl := Except.ok.inj opened
      exact ⟨⟨rfl, rfl, rfl, rfl⟩, fun _ => ⟨⟨made, ⟨devices, listed, selected⟩, usable⟩, rfl⟩,
        fun there => absurd there missing⟩

theorem openContext_begins (begins : c.Begins native config) :
    ∃ d, c.openContext native = .ok d ∧ d.deviceHandle = true := by
  unfold openContext
  cases there : c.context with
  | true => exact ⟨c, rfl, begins.handle there⟩
  | false =>
      obtain ⟨made, ⟨devices, listed, selected⟩, usable⟩ := begins.opened there
      rw [made, listed, usable]
      simp only [bind, Except.bind, selected]
      exact ⟨_, rfl, rfl⟩

private theorem negotiate_iff : (∃ rated, negotiate native config = some (.ok rated)) ↔
    native.getStreamCtrl = .ok () ∧ ∃ interval probed, frameInterval config = some (.ok interval) ∧
      native.probe interval = .ok probed ∧ probed ≠ 0 := by
  unfold negotiate
  cases control : native.getStreamCtrl with
  | error e => simp
  | ok _ =>
      rw [and_iff_right rfl]
      constructor
      · rintro ⟨rated, negotiated⟩
        obtain ⟨answer, found, negotiated⟩ := Option.map_eq_some_iff.mp negotiated
        obtain ⟨interval, same, rest⟩ := bind_ok.mp negotiated
        obtain ⟨probed, answered, rest⟩ := bind_ok.mp rest
        obtain ⟨rate, made, _⟩ := bind_ok.mp rest
        refine ⟨interval, probed, by rw [found, same], answered, ?_⟩
        rintro rfl
        cases made
      · rintro ⟨interval, probed, found, answered, positive⟩
        obtain ⟨rate, made⟩ := FrameRate.new_ok (by decide : (10000000 : UInt32) ≠ 0) positive
        rw [found, Option.map_some]
        simp only [bind, Except.bind, answered, made]
        exact ⟨_, rfl⟩

private theorem negotiate_format {rated : CameraConfig}
    (negotiated : negotiate native config = some (.ok (rated, interval))) :
    rated.format = config.format := by
  unfold negotiate at negotiated
  split at negotiated
  · cases negotiated
  · obtain ⟨answer, _, negotiated⟩ := Option.map_eq_some_iff.mp negotiated
    obtain ⟨_, _, negotiated⟩ := bind_ok.mp negotiated
    obtain ⟨_, _, negotiated⟩ := bind_ok.mp negotiated
    obtain ⟨rate, _, negotiated⟩ := bind_ok.mp negotiated
    obtain ⟨rfl, _⟩ := Prod.mk.inj (Except.ok.inj negotiated)
    rfl

theorem startSync_cases (native : Native) (decodeMjpeg : Bool) (config : CameraConfig)
    (stopped : c.hub.active = false) :
    (¬c.Begins native config ∧ SameEpoch c (c.startSync native decodeMjpeg config).1) ∨
    (c.Begins native config ∧ ∃ d rated interval, SameEpoch c d ∧
      rated.format = config.format ∧ c.startSync native decodeMjpeg config =
        ((d.launch native decodeMjpeg rated interval).1,
          some (d.launch native decodeMjpeg rated interval).2)) := by
  unfold startSync
  cases accepted : config.validate with
  | error e => exact .inl ⟨fun begins => by simpa [accepted] using begins.accepted, .refl⟩
  | ok _ =>
      rw [stopped]
      cases opened : c.openContext native with
      | error e =>
          refine .inl ⟨fun begins => ?_, .refl⟩
          obtain ⟨d, made, _⟩ := openContext_begins begins
          simp [opened] at made
      | ok d =>
          obtain ⟨same, fresh, kept⟩ := openContext_ok opened
          cases handle : d.deviceHandle with
          | false =>
              refine .inl ⟨fun begins => ?_, by simpa [handle] using same⟩
              obtain ⟨other, made, usable⟩ := openContext_begins begins
              obtain rfl := Except.ok.inj (opened.symm.trans made)
              simp [handle] at usable
          | true =>
              have begins_iff : (∃ rated, negotiate native config = some (.ok rated)) ↔
                  c.Begins native config := by
                rw [negotiate_iff]
                constructor
                · rintro ⟨control, probed⟩
                  exact ⟨accepted, fun missing => (fresh missing).1,
                    fun there => (kept there).symm.trans handle, control, probed⟩
                · exact fun begins => ⟨begins.control, begins.probed⟩
              rw [← begins_iff]
              cases negotiated : negotiate native config with
              | none => exact .inl ⟨by simp, by simpa [handle] using same⟩
              | some answer =>
                  cases answer with
                  | error e => exact .inl ⟨by simp, by simpa [handle] using same⟩
                  | ok found =>
                      obtain ⟨rated, interval⟩ := found
                      exact .inr ⟨⟨_, rfl⟩, d, rated, interval, same,
                        negotiate_format negotiated, by simp [handle]⟩

/-! ### From the epoch on -/

theorem Idle.dropContext {session : Option Nat} (idle : c.Idle) : (c.dropContext session).Idle where
  hub := idle.hub
  callback := idle.callback
  workers := by simp [UvcCamera.dropContext, idle.workers]

theorem Idle.coherent (idle : c.Idle) : c.Coherent where
  callback _ := idle.callback
  workers := by simp [idle.workers]

theorem Coherent.idle (coherent : c.Coherent) (stopped : c.hub.active = false) : c.Idle where
  hub := stopped
  callback := coherent.callback stopped
  workers := by
    apply List.eq_nil_iff_forall_not_mem.mpr
    intro worker listed
    have served := coherent.workers worker listed
    rw [coherent.callback stopped] at served
    cases served

private theorem makeWorker_error_iff {session : Nat} :
    (∃ error, c.makeWorker native decodeMjpeg config session = .error error) ↔
      c.decodes config = true ∧ (decodeMjpeg = false ∨ ∃ error, native.spawn = .error error) := by
  unfold makeWorker
  cases c.decodes config with
  | false => simp
  | true =>
      cases decodeMjpeg with
      | false => simp
      | true => cases native.spawn <;> simp [Except.map]

private theorem makeWorker_session {session : Nat} {worker : Option Nat}
    (made : c.makeWorker native decodeMjpeg config session = .ok worker) :
    ∀ served ∈ worker.toList, served = session := by
  unfold makeWorker at made
  split at made
  · obtain rfl := Except.ok.inj made
    simp
  · split at made
    · cases made
    · cases spawned : native.spawn with
      | error e => simp [spawned, Except.map] at made
      | ok _ =>
          rw [spawned] at made
          obtain rfl := Except.ok.inj made
          simp

private theorem stream_cases {session : Nat} {worker : Option Nat} (alone : c.callback = none)
    (served : ∀ worker ∈ c.workers, worker = session) (begun : c.hub.active = true) :
    let result := c.stream native session worker config interval
    (∃ error, result.2 = .error error) ∧ result.1.Idle ∨
      result.2 = .ok () ∧ result.1.Coherent := by
  intro result
  cases started : native.startStreaming with
  | error e =>
      have rolled : result = (c.stopHub.dropContext (some session), .error e) := by
        simp only [result, stream, started]
      rw [rolled]
      refine .inl ⟨⟨e, rfl⟩, rfl, alone, List.filter_eq_nil_iff.mpr fun worker listed => ?_⟩
      simp [served worker listed]
  | ok _ =>
      have streaming : result = ({ c.dropContext c.callback with
          callback := some session
          mjpegWorker := worker
          streamCtrl := some interval
          currentConfig := some config }, .ok ()) := by
        simp only [result, stream, started]
      rw [streaming]
      refine .inr ⟨rfl, fun stopped => absurd begun (by simp_all [dropContext]), ?_⟩
      intro worker listed
      rw [served worker (List.mem_of_mem_filter listed)]

theorem launch_cases (native : Native) (decodeMjpeg : Bool) (config : CameraConfig)
    (interval : UInt32) (idle : d.Idle) :
    let result := d.launch native decodeMjpeg config interval
    let abandoned := d.decodes config = true ∧
      (decodeMjpeg = false ∨ ∃ error, native.spawn = .error error)
    abandoned ∧ (∃ error, result.2 = .error error) ∧ result.1.hub.active = true ∧
        result.1.Coherent ∨
      ¬abandoned ∧ ((∃ error, result.2 = .error error) ∧ result.1.Idle ∨
        result.2 = .ok () ∧ result.1.Coherent) := by
  intro result abandoned
  have failed : (∃ error, d.startHub.makeWorker native decodeMjpeg config d.nextSession =
      .error error) ↔ abandoned := makeWorker_error_iff
  cases made : d.startHub.makeWorker native decodeMjpeg config d.nextSession with
  | error e =>
      have left : result = (d.startHub, .error e) := by simp only [result, launch, made]
      refine .inl ⟨failed.mp ⟨e, made⟩, ?_⟩
      rw [left]
      exact ⟨⟨e, rfl⟩, rfl, fun stopped => by simp [startHub] at stopped,
        by simp [startHub, idle.workers]⟩
  | ok worker =>
      refine .inr ⟨fun gone => ?_, ?_⟩
      · obtain ⟨e, lost⟩ := failed.mpr gone
        simp [made] at lost
      · have served : ∀ other ∈ d.startHub.workers ++ worker.toList, other = d.nextSession := by
          simpa [startHub, idle.workers] using makeWorker_session made
        simp only [result, launch, made]
        exact stream_cases (c := { d.startHub with
          workers := d.startHub.workers ++ worker.toList }) idle.callback served rfl

/-! ### Over whole runs -/

theorem startSync_active (native : Native) (decodeMjpeg : Bool) (config : CameraConfig)
    (active : c.hub.active = true) :
    ∃ error, c.startSync native decodeMjpeg config = (c, some (.error error)) := by
  unfold startSync
  cases config.validate with
  | error e => exact ⟨e, rfl⟩
  | ok _ => exact ⟨_, by rw [active]; rfl⟩

theorem Coherent.stopLocked (coherent : c.Coherent) : c.stopLocked.Idle where
  hub := rfl
  callback := rfl
  workers := by
    apply List.filter_eq_nil_iff.mpr
    intro worker listed
    simp [coherent.workers worker listed]

private theorem coherent_step {action : Action} {next : UvcCamera}
    (taken : step decodeMjpeg c action = some next) (coherent : c.Coherent) : next.Coherent := by
  cases action with
  | start native config =>
      obtain rfl := Option.some.inj taken
      cases active : c.hub.active with
      | true =>
          obtain ⟨error, refused⟩ := startSync_active native decodeMjpeg config active
          rw [refused]
          exact coherent
      | false =>
          have idle := coherent.idle active
          obtain ⟨_, same⟩ | ⟨_, d, rated, interval, same, _, launched⟩ :=
            startSync_cases native decodeMjpeg config active
          · exact (same.idle idle).coherent
          · rw [launched]
            obtain ⟨_, _, _, kept⟩ | ⟨_, ⟨_, rolled⟩ | ⟨_, kept⟩⟩ :=
              launch_cases native decodeMjpeg rated interval (same.idle idle)
            · exact kept
            · exact rolled.coherent
            · exact kept
  | stopStream =>
      obtain rfl := Option.some.inj taken
      exact coherent.stopLocked.coherent
  | cleanup =>
      obtain rfl := Option.some.inj taken
      obtain ⟨hub, callback, workers⟩ := coherent.stopLocked
      exact Idle.coherent ⟨hub, callback, workers⟩
  | configure nativeOutput =>
      obtain rfl := Option.some.inj taken
      split
      · exact coherent
      · exact ⟨coherent.callback, coherent.workers⟩
  | observe state =>
      simp only [step] at taken
      split at taken
      · next kept =>
          obtain rfl := Option.some.inj taken
          exact ⟨fun stopped => coherent.callback (kept.1.symm.trans stopped), coherent.workers⟩
      · cases taken

private theorem coherent_reachable
    (reached : (machine decodeMjpeg).Reachable Lib.Machine.anything c) : c.Coherent := by
  apply reached.invariant
  · rintro c ⟨deviceIndex, expectedId, opened, rfl⟩
    exact ⟨fun _ => rfl, by simp⟩
  · intro c action next _ taken coherent
    exact coherent_step taken coherent

/-- A start that fails leaves nothing of an epoch, unless an epoch was active already or the
new one has been begun for frames that nothing will decode. -/
theorem failed_start_idle_iff
    (reached : (machine decodeMjpeg).Reachable Lib.Machine.anything c) :
    (∀ error, (c.startSync native decodeMjpeg config).2 = some (.error error) →
      (c.startSync native decodeMjpeg config).1.Idle) ↔
    c.hub.active = false ∧ ¬c.Abandons native decodeMjpeg config := by
  cases active : c.hub.active with
  | true =>
      obtain ⟨error, refused⟩ := startSync_active native decodeMjpeg config active
      rw [refused]
      constructor
      · intro idle
        have stopped := (idle error rfl).hub
        rw [active] at stopped
        cases stopped
      · rintro ⟨stopped, _⟩
        cases stopped
  | false =>
      rw [and_iff_right rfl]
      have idle := (coherent_reachable reached).idle active
      obtain ⟨early, same⟩ | ⟨begins, d, rated, interval, same, format, launched⟩ :=
        startSync_cases native decodeMjpeg config active
      · exact iff_of_true (fun _ _ => same.idle idle) fun abandons => early abandons.begins
      · have decodes : d.decodes rated = c.decodes config := by
          rw [UvcCamera.decodes, UvcCamera.decodes, format, same.nativeOutput]
        rw [launched]
        obtain ⟨⟨decoded, unserved⟩, ⟨e, failed⟩, streaming, _⟩ | ⟨served, ⟨_, rolled⟩ | ⟨ok, _⟩⟩ :=
          launch_cases native decodeMjpeg rated interval (same.idle idle)
        · apply iff_of_false
          · intro holds
            have stopped := (holds e (by rw [failed])).hub
            rw [streaming] at stopped
            cases stopped
          · exact fun kept => kept ⟨begins, decodes ▸ decoded, unserved⟩
        · exact iff_of_true (fun _ _ => rolled) fun abandons =>
            served ⟨decodes ▸ abandons.decodes, abandons.unserved⟩
        · refine iff_of_true (fun e failed => ?_) fun abandons =>
            served ⟨decodes ▸ abandons.decodes, abandons.unserved⟩
          rw [ok] at failed
          cases failed

/-- A start fails on a camera that streams and changes nothing of it. On a stopped camera a start
that fails leaves nothing of an epoch, unless frames have to be decoded that nothing can decode. -/
theorem failed_start_leaves
    (reached : (machine decodeMjpeg).Reachable Lib.Machine.anything c) :
    (c.hub.active = true →
      ∃ error, c.startSync native decodeMjpeg config = (c, some (.error error))) ∧
    (c.hub.active = false → ¬c.Abandons native decodeMjpeg config →
      ∀ error, (c.startSync native decodeMjpeg config).2 = some (.error error) →
        (c.startSync native decodeMjpeg config).1.Idle) := by
  constructor
  · exact startSync_active native decodeMjpeg config
  · intro stopped served
    exact (failed_start_idle_iff reached).mpr ⟨stopped, served⟩

private theorem not_abandons_of_native (asIs : c.nativeOutput = true) :
    ¬c.Abandons native decodeMjpeg config := by
  intro abandons
  have decodes := abandons.decodes
  simp [UvcCamera.decodes, asIs] at decodes

def accepting : Native where
  newContext := .ok ()
  deviceList := .ok [none]
  openDevice := .ok ()
  getStreamCtrl := .ok ()
  probe := .ok
  spawn := .ok ()
  startStreaming := .ok ()

def configured : UvcCamera := { deviceIndex := 0, nativeOutput := true }

theorem configured_reachable :
    (machine decodeMjpeg).Reachable Lib.Machine.anything configured := by
  have made : (machine decodeMjpeg).initial { deviceIndex := 0 } := ⟨0, none, false, rfl⟩
  have taken : (machine decodeMjpeg).step { deviceIndex := 0 } (.configure true) =
      some configured := rfl
  exact (Lib.Machine.Reachable.of_initial made).extend (.single trivial taken)

theorem failed_start_leaves_refused :
    (configured.startSync { accepting with startStreaming := .error .streamStopped } true
        ⟨.mjpeg, 640, 480, 30, 1⟩).2 = some (.error .streamStopped) ∧
      (configured.startSync { accepting with startStreaming := .error .streamStopped } true
        ⟨.mjpeg, 640, 480, 30, 1⟩).1.Idle :=
  ⟨rfl, (failed_start_leaves configured_reachable).2 rfl (not_abandons_of_native rfl) _ rfl⟩

/-- A camera that streams is asked to start again. -/
theorem failed_start_not_idle :
    ¬ ∀ (native : Native) (decodeMjpeg : Bool) (c : UvcCamera) (config : CameraConfig),
      (machine decodeMjpeg).Reachable Lib.Machine.anything c →
        ∀ error, (c.startSync native decodeMjpeg config).2 = some (.error error) →
          (c.startSync native decodeMjpeg config).1.Idle := by
  intro idle
  have taken : (machine true).step configured (.start accepting ⟨.mjpeg, 640, 480, 30, 1⟩) =
      some (configured.startSync accepting true ⟨.mjpeg, 640, 480, 30, 1⟩).1 := rfl
  have streaming := configured_reachable.extend (.single trivial taken)
  have left := idle accepting true _ ⟨.mjpeg, 640, 480, 30, 1⟩ streaming _ rfl
  exact absurd left.hub (by decide)

end UvcCamera

end CameraRs.Uvc
