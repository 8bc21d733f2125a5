/-
A lost device is reported once.

The callbacks of the device look at `streaming`, which a start sets as its last step. A device
that is lost before that step is reported to nobody, and the start still succeeds.
-/

import CameraRs.Camera2.Bridge
import Mathlib.Data.List.Nodup

namespace CameraRs.Camera2

/-! ### Where a start is -/

namespace Section

/-- A start that has not set its callback yet. -/
def begun : Section → Option StartId
  | .check k | .setCallback k => some k
  | .cleanup (.begin k) | .clearCallback (.begin k) | .closeDevice (.begin k)
  | .deleteReader (.begin k) => some k
  | _ => none

def start? : Section → Option StartId
  | .check k | .setCallback k | .newReader k | .getWindow k | .openCamera k | .captureRequest k
  | .createSession k | .setRepeating k | .store k | .answer k _ => some k
  | .cleanup (.begin k) | .clearCallback (.begin k) | .closeDevice (.begin k)
  | .deleteReader (.begin k) => some k
  | .cleanup (.fail k _) | .clearCallback (.fail k _) | .closeDevice (.fail k _)
  | .deleteReader (.fail k _) => some k
  | _ => none

def failing : Section → Option Status
  | .cleanup (.fail _ status) | .clearCallback (.fail _ status) | .closeDevice (.fail _ status)
  | .deleteReader (.fail _ status) => some status
  | _ => none

/-- From `streaming.store(false)` to `streaming.store(true)`. -/
def quiet : Section → Bool
  | .check _ | .answer _ _ | .stop _ | .cleanup .stop => false
  | _ => true

/-- From `ACameraDevice_close` to `ACameraManager_openCamera`. -/
def closed : Section → Bool
  | .deleteReader _ | .setCallback _ | .newReader _ | .getWindow _ | .openCamera _ => true
  | _ => false

def armed : Section → Option StartId
  | .newReader k | .getWindow k | .openCamera k | .captureRequest k | .createSession k
  | .setRepeating k | .store k => some k
  | _ => none

def opened : Section → Option StartId
  | .captureRequest k | .createSession k | .setRepeating k | .store k => some k
  | _ => none

def stops : Section → Bool
  | .stop _ | .cleanup .stop => true
  | _ => false

private theorem begun_start {x : Section} {k : StartId} (begun : x.begun = some k) :
    x.start? = some k := by
  cases x with
  | check k => exact begun
  | setCallback k => exact begun
  | cleanup next => cases next <;> first | exact begun | contradiction
  | clearCallback next => cases next <;> first | exact begun | contradiction
  | closeDevice next => cases next <;> first | exact begun | contradiction
  | deleteReader next => cases next <;> first | exact begun | contradiction
  | _ => contradiction

theorem armed_quiet {x : Section} {k : StartId} (armed : x.armed = some k) : x.quiet = true := by
  cases x <;> first | rfl | contradiction

end Section

namespace State

variable {s s' : State} {x : Section} {k j : StartId} {ok : Bool} {status : Status}

/-- Nothing has been done under this number. -/
structure New (s : State) (k : StartId) : Prop where
  callback : s.frameCb ≠ some k
  device : s.cameraDevice ≠ some k
  unsent : k ∉ s.nullFrames
  uncleared : k ∉ s.cleared
  unlost : k ∉ s.lost
  unreturned : ∀ status, (k, status) ∉ s.returned

structure Fits (s : State) (x : Section) : Prop where
  issued : ∀ k, x.start? = some k → k < s.issued
  new : ∀ k, x.begun = some k → s.New k
  quiet : x.quiet = true → s.streaming = false
  closed : x.closed = true → s.cameraDevice = none
  armed : ∀ k, x.armed = some k → s.frameCb = some k ∧ k ∉ s.nullFrames
  opened : ∀ k, x.opened = some k → s.cameraDevice = some k
  unreturned : ∀ k, x.start? = some k → ∀ status, (k, status) ∉ s.returned
  failing : ∀ status, x.failing = some status → status ≠ .ok
  stops : x.stops = true → s.stopping = true

/-- The start has succeeded, or is about to say so. -/
def Streams (s : State) (k : StartId) : Prop :=
  (k, .ok) ∈ s.returned ∨ s.sessionMutex = some (.answer k .ok)

structure Sound (s : State) : Prop where
  fits : ∀ x, s.sessionMutex = some x → s.Fits x
  future : ∀ k, s.issued ≤ k → s.New k
  once : s.nullFrames.Nodup
  live : s.streaming = true → ∃ k, s.cameraDevice = some k ∧ s.frameCb = some k ∧
    k ∉ s.nullFrames
  missed : ∀ k, s.cameraDevice = some k → s.Streams k → s.streaming = false →
    s.stopping = false → k ∈ s.nullFrames
  uncleared : ∀ k, s.frameCb = some k → k ∉ s.cleared

theorem Sound.goto (sound : s.Sound) (fits : s.Fits x) (unanswered : ∀ k, x ≠ .answer k .ok) :
    (s.goto x).Sound := by
  have streams : ∀ k, (s.goto x).Streams k → s.Streams k := fun k streams =>
    .inl (streams.resolve_right fun here => unanswered k (Option.some.inj here))
  exact {
    fits := fun y here => by
      obtain rfl := Option.some.inj here
      exact { fits with
        new := fun k begun => { fits.new k begun with } }
    future := fun k late => { sound.future k late with }
    once := sound.once
    live := sound.live
    missed := fun k device given => sound.missed k device (streams k given)
    uncleared := sound.uncleared }

theorem Sound.release (sound : s.Sound) : { s with sessionMutex := none }.Sound where
  fits := fun _ here => by contradiction
  future := fun k late => { sound.future k late with }
  once := sound.once
  live := sound.live
  missed := fun k device given => sound.missed k device (.inl (given.resolve_right (by simp)))
  uncleared := sound.uncleared

theorem Streams.of_returned (streams : s'.Streams k) (same : s'.returned = s.returned)
    (elsewhere : s'.sessionMutex ≠ some (.answer k .ok)) : s.Streams k :=
  .inl (same ▸ streams.resolve_right elsewhere)

theorem Sound.cleanup (sound : s.Sound) {next : Cleanup}
    (here : s.sessionMutex = some (.cleanup next)) :
    { s.goto (.clearCallback next) with streaming := false }.Sound := by
  have fits := sound.fits _ here
  have before : s.stopping = false → s.streaming = false := fun running => by
    cases next with
    | begin k => exact fits.quiet rfl
    | fail k status => exact fits.quiet rfl
    | stop =>
        have stopping := fits.stops rfl
        rw [running] at stopping
        contradiction
  exact {
    fits := fun y there => by
      obtain rfl := Option.some.inj there
      cases next with
      | begin k =>
          exact { fits with
            new := fun j begun => { fits.new j begun with }
            quiet := fun _ => rfl }
      | fail k status =>
          exact { fits with
            new := fun j begun => by contradiction
            quiet := fun _ => rfl }
      | stop =>
          exact { fits with
            new := fun j begun => by contradiction
            quiet := fun _ => rfl
            stops := fun stops => by contradiction }
    future := fun k late => { sound.future k late with }
    once := sound.once
    live := fun streaming => by contradiction
    missed := fun k device given _ running =>
      sound.missed k device (given.of_returned rfl (by simp [State.goto])) (before running) running
    uncleared := sound.uncleared }

theorem Sound.clearCallback (sound : s.Sound) {next : Cleanup}
    (here : s.sessionMutex = some (.clearCallback next)) :
    { s.goto (.closeDevice next) with
      frameCb := none, cleared := s.cleared ++ s.frameCb.toList }.Sound := by
  have fits := sound.fits _ here
  have quiet : s.streaming = false := fits.quiet rfl
  have kept : ∀ k, s.New k → { s.goto (.closeDevice next) with
      frameCb := none, cleared := s.cleared ++ s.frameCb.toList }.New k := fun k new =>
    { new with
      callback := by simp
      uncleared := by
        have other := new.callback
        simpa [new.uncleared] using other }
  exact {
    fits := fun y there => by
      obtain rfl := Option.some.inj there
      cases next with
      | begin k => exact { fits with
          new := fun j begun => kept j (fits.new j begun)
          armed := fun j armed => by contradiction }
      | fail k status => exact { fits with
          new := fun j begun => by contradiction
          armed := fun j armed => by contradiction }
      | stop => exact { fits with
          new := fun j begun => by contradiction
          armed := fun j armed => by contradiction }
    future := fun k late => kept k (sound.future k late)
    once := sound.once
    live := fun streaming => by
      change s.streaming = true at streaming
      rw [quiet] at streaming
      contradiction
    missed := fun k device given =>
      sound.missed k device (given.of_returned rfl (by simp [State.goto]))
    uncleared := fun k callback => by contradiction }

theorem Sound.closeDevice (sound : s.Sound) {next : Cleanup}
    (here : s.sessionMutex = some (.closeDevice next)) :
    { s.goto (.deleteReader next) with cameraDevice := none }.Sound := by
  have fits := sound.fits _ here
  have quiet : s.streaming = false := fits.quiet rfl
  have kept : ∀ k, s.New k → { s.goto (.deleteReader next) with cameraDevice := none }.New k :=
    fun k new => { new with device := by simp }
  exact {
    fits := fun y there => by
      obtain rfl := Option.some.inj there
      cases next with
      | begin k => exact { fits with
          new := fun j begun => kept j (fits.new j begun)
          closed := fun _ => rfl
          opened := fun j opened => by contradiction }
      | fail k status => exact { fits with
          new := fun j begun => by contradiction
          closed := fun _ => rfl
          opened := fun j opened => by contradiction }
      | stop => exact { fits with
          new := fun j begun => by contradiction
          closed := fun _ => rfl
          opened := fun j opened => by contradiction }
    future := fun k late => kept k (sound.future k late)
    once := sound.once
    live := fun streaming => by
      change s.streaming = true at streaming
      rw [quiet] at streaming
      contradiction
    missed := fun k device => by contradiction
    uncleared := sound.uncleared }

theorem Sound.reader (sound : s.Sound) {imageReader : Bool} :
    { s with imageReader := imageReader }.Sound :=
  { sound with
    fits := fun y here => { sound.fits y here with
      new := fun k begun => { (sound.fits y here).new k begun with } }
    future := fun k late => { sound.future k late with } }

theorem Sound.deleteReader (sound : s.Sound) {next : Cleanup}
    (here : s.sessionMutex = some (.deleteReader next)) :
    { s with sessionMutex := next.after, imageReader := false }.Sound := by
  have fits := sound.fits _ here
  cases next with
  | begin k =>
      have fits' : s.Fits (.setCallback k) := { fits with }
      have moved := sound.goto fits' (by simp)
      exact @Sound.reader (s.goto (.setCallback k)) moved false
  | fail k status =>
      have failed : status ≠ .ok := fits.failing status rfl
      have fits' : s.Fits (.answer k status) := { fits with
        quiet := fun quiet => by contradiction
        closed := fun closed => by contradiction
        failing := fun _ failing => by contradiction }
      have moved := sound.goto fits' (by simp [failed])
      exact @Sound.reader (s.goto (.answer k status)) moved false
  | stop => exact @Sound.reader { s with sessionMutex := none } sound.release false

theorem Sound.setCallback (sound : s.Sound) (here : s.sessionMutex = some (.setCallback k)) :
    { s.goto (.newReader k) with frameCb := some k }.Sound := by
  have fits := sound.fits _ here
  have new := fits.new k rfl
  have issued := fits.issued k rfl
  have quiet : s.streaming = false := fits.quiet rfl
  exact {
    fits := fun y there => by
      obtain rfl := Option.some.inj there
      exact { fits with
        new := fun j begun => by contradiction
        armed := fun j armed => by
          obtain rfl := Option.some.inj armed
          exact ⟨rfl, new.unsent⟩ }
    future := fun j late => { sound.future j late with
      callback := by
        simp only [ne_eq, Option.some.injEq]
        rintro rfl
        exact absurd issued (Nat.not_lt.mpr late) }
    once := sound.once
    live := fun streaming => by
      change s.streaming = true at streaming
      rw [quiet] at streaming
      contradiction
    missed := fun j device given =>
      sound.missed j device (given.of_returned rfl (by simp [State.goto]))
    uncleared := fun j callback => Option.some.inj callback ▸ new.uncleared }

theorem Sound.openCamera (sound : s.Sound) (here : s.sessionMutex = some (.openCamera k)) :
    { s.goto (.captureRequest k) with cameraDevice := some k, stopping := false }.Sound := by
  have fits := sound.fits _ here
  have issued := fits.issued k rfl
  have quiet : s.streaming = false := fits.quiet rfl
  exact {
    fits := fun y there => by
      obtain rfl := Option.some.inj there
      exact { fits with
        new := fun j begun => by contradiction
        closed := fun closed => by contradiction
        opened := fun _ opened => opened
        stops := fun stops => by contradiction }
    future := fun j late => { sound.future j late with
      device := by
        simp only [ne_eq, Option.some.injEq]
        rintro rfl
        exact absurd issued (Nat.not_lt.mpr late) }
    once := sound.once
    live := fun streaming => by
      change s.streaming = true at streaming
      rw [quiet] at streaming
      contradiction
    missed := fun j device given => by
      obtain rfl := Option.some.inj device
      have streams : s.Streams k := given.of_returned rfl (by simp [State.goto])
      rcases streams with returned | there
      · exact absurd returned (fits.unreturned k rfl .ok)
      · have different := Option.some.inj (here.symm.trans there)
        contradiction
    uncleared := sound.uncleared }

theorem Sound.store (sound : s.Sound) (here : s.sessionMutex = some (.store k)) :
    { s.goto (.answer k .ok) with streaming := true }.Sound := by
  have fits := sound.fits _ here
  obtain ⟨callback, unsent⟩ := fits.armed k rfl
  exact {
    fits := fun y there => by
      obtain rfl := Option.some.inj there
      exact { fits with
        new := fun j begun => by contradiction
        quiet := fun quiet => by contradiction
        armed := fun j armed => by contradiction
        opened := fun j opened => by contradiction }
    future := fun j late => { sound.future j late with }
    once := sound.once
    live := fun _ => ⟨k, fits.opened k rfl, callback, unsent⟩
    missed := fun j _ _ silent => by contradiction
    uncleared := sound.uncleared }

theorem Sound.answer (sound : s.Sound) (here : s.sessionMutex = some (.answer k status)) :
    { s with sessionMutex := none, returned := s.returned ++ [(k, status)] }.Sound := by
  have fits := sound.fits _ here
  have issued := fits.issued k rfl
  have streams : ∀ j, { s with
      sessionMutex := none, returned := s.returned ++ [(k, status)] }.Streams j → s.Streams j := by
    intro j given
    rcases given with returned | there
    · rcases List.mem_append.mp returned with earlier | now
      · exact .inl earlier
      · obtain ⟨rfl, rfl⟩ := Prod.mk.inj (List.mem_singleton.mp now)
        exact .inr here
    · contradiction
  exact {
    fits := fun y there => by contradiction
    future := fun j late => { sound.future j late with
      unreturned := fun answer there => by
        rcases List.mem_append.mp there with earlier | now
        · exact (sound.future j late).unreturned answer earlier
        · obtain ⟨rfl, _⟩ := Prod.mk.inj (List.mem_singleton.mp now)
          exact absurd issued (Nat.not_lt.mpr late) }
    once := sound.once
    live := sound.live
    missed := fun j device given => sound.missed j device (streams j given)
    uncleared := sound.uncleared }

theorem Sound.fail (sound : s.Sound) (here : s.sessionMutex = some x) (start : x.start? = some k)
    (quiet : x.quiet = true) (status : Status) (failed : status ≠ .ok) :
    (s.goto (.cleanup (.fail k status))).Sound := by
  have fits := sound.fits x here
  refine sound.goto { fits with
    issued := fun j there => fits.issued j (start.trans there)
    new := fun j begun => by contradiction
    quiet := fun _ => fits.quiet quiet
    closed := fun closed => by contradiction
    armed := fun j armed => by contradiction
    opened := fun j opened => by contradiction
    unreturned := fun j there => fits.unreturned j (start.trans there)
    failing := fun other there => Option.some.inj there ▸ failed
    stops := fun stops => by contradiction } (by simp)

theorem Sound.runSection (sound : s.Sound) (here : s.sessionMutex = some x) :
    (s.runSection ok x).Sound := by
  have fits := sound.fits x here
  cases x with
  | check k =>
      simp only [State.runSection]
      split
      · refine sound.goto { fits with
          new := fun j begun => by contradiction
          quiet := fun quiet => by contradiction } (by simp)
      · next silent =>
          refine sound.goto { fits with quiet := fun _ => eq_false_of_ne_true silent } (by simp)
  | cleanup next => exact sound.cleanup here
  | clearCallback next => exact sound.clearCallback here
  | closeDevice next => exact sound.closeDevice here
  | deleteReader next => exact sound.deleteReader here
  | setCallback k => exact sound.setCallback here
  | newReader k =>
      cases ok with
      | true =>
          have fits' : s.Fits (.getWindow k) := { fits with }
          have moved := sound.goto fits' (by simp)
          exact @Sound.reader (s.goto (.getWindow k)) moved true
      | false => exact sound.fail here rfl rfl .internal (by simp)
  | getWindow k =>
      cases ok with
      | true => exact sound.goto { fits with } (by simp)
      | false => exact sound.fail here rfl rfl .internal (by simp)
  | openCamera k =>
      cases ok with
      | true => exact sound.openCamera here
      | false => exact sound.fail here rfl rfl .openFailed (by simp)
  | captureRequest k =>
      cases ok with
      | true => exact sound.goto { fits with } (by simp)
      | false => exact sound.fail here rfl rfl .invalidParam (by simp)
  | createSession k =>
      cases ok with
      | true => exact sound.goto { fits with } (by simp)
      | false => exact sound.fail here rfl rfl .sessionFailed (by simp)
  | setRepeating k =>
      cases ok with
      | true => exact sound.goto { fits with } (by simp)
      | false => exact sound.fail here rfl rfl .sessionFailed (by simp)
  | store k => exact sound.store here
  | answer k status => exact sound.answer here
  | stop wasStreaming =>
      simp only [State.runSection]
      split
      · exact sound.release
      · exact sound.goto { fits with } (by simp)

theorem Sound.sendNull (sound : s.Sound) (streaming : s.streaming = true) :
    s.sendNull.Sound := by
  obtain ⟨k, device, callback, unsent⟩ := sound.live streaming
  have sent : s.sendNull.nullFrames = s.nullFrames ++ [k] := by
    simp [State.sendNull, callback]
  have kept : ∀ j, s.New j → s.sendNull.New j := fun j new => { new with
    unsent := by
      have other : j ≠ k := fun same => new.device (same ▸ device)
      simp [sent, new.unsent, other] }
  constructor
  · intro y here
    have fits := sound.fits y here
    have loud : y.quiet = false := eq_false_of_ne_true fun quiet => by
      rw [fits.quiet quiet] at streaming
      contradiction
    exact { fits with
      new := fun j begun => kept j (fits.new j begun)
      quiet := fun _ => rfl
      armed := fun j armed => by
        rw [Section.armed_quiet armed] at loud
        contradiction }
  · exact fun j late => kept j (sound.future j late)
  · rw [sent]
    exact List.nodup_append.mpr ⟨sound.once, List.nodup_singleton k, fun i there j now => by
      obtain rfl := List.mem_singleton.mp now
      exact fun same => unsent (same ▸ there)⟩
  · exact fun streaming => by contradiction
  · intro j same _ _ _
    obtain rfl := Option.some.inj (device.symm.trans same)
    rw [sent]
    exact List.mem_append_right _ List.mem_cons_self
  · exact sound.uncleared

theorem mem_reportLost (there : j ∈ (s.reportLost k).lost) :
    j ∈ s.lost ∨ j = k ∧ s.stopping = false := by
  simp only [State.reportLost] at there
  split at there
  · exact .inl there
  · next running =>
      rcases List.mem_append.mp there with earlier | now
      · exact .inl earlier
      · exact .inr ⟨List.mem_singleton.mp now, eq_false_of_ne_true running⟩

theorem Sound.reportLost (sound : s.Sound) (device : s.cameraDevice = some k) :
    (s.reportLost k).Sound := by
  have kept : ∀ j, s.New j → (s.reportLost k).New j := fun j new => { new with
    unlost := fun there => by
      rcases mem_reportLost there with earlier | ⟨rfl, _⟩
      · exact new.unlost earlier
      · exact new.device device }
  exact { sound with
    fits := fun y here => { sound.fits y here with
      new := fun j begun => kept j ((sound.fits y here).new j begun) }
    future := fun j late => kept j (sound.future j late) }

theorem Sound.onDeviceLost (sound : s.Sound) (taken : s.onDeviceLost = some s') : s'.Sound := by
  obtain ⟨k, device, rfl⟩ := Option.map_eq_some_iff.mp taken
  cases streaming : s.streaming with
  | true => exact (sound.sendNull streaming).reportLost device
  | false => exact sound.reportLost device

theorem Sound.onImageAvailable (sound : s.Sound) {acquired : Bool}
    (taken : s.onImageAvailable acquired = some s') : s'.Sound := by
  unfold State.onImageAvailable at taken
  split at taken
  · split at taken
    · obtain rfl := Option.some.inj taken
      exact { sound with
        fits := fun y here => { sound.fits y here with
          new := fun k begun => { (sound.fits y here).new k begun with } }
        future := fun k late => { sound.future k late with } }
    · obtain rfl := Option.some.inj taken
      exact sound
  · contradiction

theorem Sound.refuse (sound : s.Sound) (failed : status ≠ .ok) : (s.refuse status).Sound := by
  have returned : ∀ {j answer}, (j, answer) ∈ (s.refuse status).returned → j ≠ s.issued →
      (j, answer) ∈ s.returned := fun there different => by
    rcases List.mem_append.mp there with earlier | now
    · exact earlier
    · exact absurd (Prod.mk.inj (List.mem_singleton.mp now)).1 different
  have kept : ∀ j, j ≠ s.issued → s.New j → (s.refuse status).New j := fun j different new =>
    { new with unreturned := fun answer there => new.unreturned answer (returned there different) }
  have streams : ∀ k, (s.refuse status).Streams k → s.Streams k := by
    rintro k (given | here)
    · rcases List.mem_append.mp given with earlier | now
      · exact .inl earlier
      · exact absurd (Prod.mk.inj (List.mem_singleton.mp now)).2.symm failed
    · exact .inr here
  exact {
    fits := fun y here => by
      have fits := sound.fits y here
      have other : ∀ k, y.start? = some k → k ≠ s.issued := fun k start =>
        Nat.ne_of_lt (fits.issued k start)
      exact { fits with
        issued := fun k start => Nat.lt_succ_of_lt (fits.issued k start)
        new := fun k begun => kept k (other k (Section.begun_start begun)) (fits.new k begun)
        unreturned := fun k start answer there =>
          fits.unreturned k start answer (returned there (other k start)) }
    future := fun k late => kept k (Nat.ne_of_gt late) (sound.future k (Nat.le_of_lt late))
    once := sound.once
    live := sound.live
    missed := fun k device given => sound.missed k device (streams k given)
    uncleared := sound.uncleared }

theorem Sound.lock (sound : s.Sound) :
    { s.goto (.check s.issued) with issued := s.issued + 1 }.Sound := by
  have new := sound.future s.issued (Nat.le_refl _)
  have fits : { s with issued := s.issued + 1 }.Fits (.check s.issued) := {
    issued := fun k start => Option.some.inj start ▸ Nat.lt_succ_self _
    new := fun k begun => Option.some.inj begun ▸ { new with }
    quiet := fun quiet => by contradiction
    closed := fun closed => by contradiction
    armed := fun k armed => by contradiction
    opened := fun k opened => by contradiction
    unreturned := fun k start => Option.some.inj start ▸ new.unreturned
    failing := fun status failing => by contradiction
    stops := fun stops => by contradiction }
  have numbered : { s with issued := s.issued + 1 }.Sound := { sound with
    fits := fun y here => { sound.fits y here with
      issued := fun k start => Nat.lt_succ_of_lt ((sound.fits y here).issued k start)
      new := fun k begun => { (sound.fits y here).new k begun with } }
    future := fun k late => { sound.future k (Nat.le_of_lt late) with } }
  exact numbered.goto fits (by simp)

theorem Sound.stopping (sound : s.Sound) {stops : List Bool} :
    { s with stops := stops, stopping := true }.Sound :=
  { sound with
    fits := fun y here => { sound.fits y here with
      new := fun k begun => { (sound.fits y here).new k begun with }
      stops := fun _ => rfl }
    future := fun k late => { sound.future k late with }
    missed := fun k _ _ _ running => by contradiction }

private theorem Sound.silence (sound : s.Sound) (stopping : s.stopping = true) :
    { s with streaming := false }.Sound :=
  { sound with
    fits := fun y here => { sound.fits y here with
      new := fun k begun => { (sound.fits y here).new k begun with }
      quiet := fun _ => rfl }
    future := fun k late => { sound.future k late with }
    live := fun streaming => by contradiction
    missed := fun k _ _ _ running => by
      change s.stopping = false at running
      rw [stopping] at running
      contradiction }

theorem Sound.lockStop (sound : s.Sound) {wasStreaming : Bool} {stops : List Bool} :
    { s.goto (.stop wasStreaming) with stops := stops, stopping := true }.Sound := by
  have stopping := @Sound.stopping s sound stops
  have fits : { s with stops := stops, stopping := true }.Fits (.stop wasStreaming) := {
    issued := fun k start => by contradiction
    new := fun k begun => by contradiction
    quiet := fun quiet => by contradiction
    closed := fun closed => by contradiction
    armed := fun k armed => by contradiction
    opened := fun k opened => by contradiction
    unreturned := fun k start => by contradiction
    failing := fun status failing => by contradiction
    stops := fun _ => rfl }
  exact stopping.goto fits (by simp)

theorem Sound.step {action : Action} (sound : s.Sound)
    (taken : s.step action = some s') : s'.Sound := by
  cases action with
  | startStreaming deviceIndex given =>
      simp only [State.step] at taken
      split at taken
      · obtain rfl := Option.some.inj taken
        exact sound.refuse (by simp)
      · split at taken
        · obtain rfl := Option.some.inj taken
          exact sound.refuse (by simp)
        · split at taken
          · contradiction
          · obtain rfl := Option.some.inj taken
            exact sound.lock
  | stopStreaming =>
      obtain rfl := Option.some.inj taken
      exact (@Sound.stopping s sound (s.stops ++ [s.streaming])).silence rfl
  | lockStop i =>
      simp only [State.step] at taken
      split at taken
      · contradiction
      · obtain ⟨wasStreaming, _, rfl⟩ := Option.map_eq_some_iff.mp taken
        exact sound.lockStop
  | run ok =>
      obtain ⟨x, here, rfl⟩ := Option.map_eq_some_iff.mp taken
      exact sound.runSection here
  | onImageAvailable acquired => exact sound.onImageAvailable taken
  | onDeviceDisconnected => exact sound.onDeviceLost taken
  | onDeviceError => exact sound.onDeviceLost taken

theorem Sound.initial (devices : Nat) : ({ devices := devices } : State).Sound where
  fits := fun x here => by contradiction
  future := fun k _ => ⟨by simp, by simp, by simp, by simp, by simp, by simp⟩
  once := List.nodup_nil
  live := fun streaming => by contradiction
  missed := fun k device => by contradiction
  uncleared := fun k callback => by contradiction

/-! ### Reports -/

theorem runSection_sends : (s.runSection ok x).lost = s.lost ∧
    (s.runSection ok x).nullFrames = s.nullFrames ∧ (s.runSection ok x).frames = s.frames ∧
    ∀ k ∈ s.cleared, k ∈ (s.runSection ok x).cleared := by
  cases x with
  | check k =>
      simp only [State.runSection]
      split <;> exact ⟨rfl, rfl, rfl, fun _ there => there⟩
  | clearCallback next => exact ⟨rfl, rfl, rfl, fun _ there => List.mem_append_left _ there⟩
  | newReader k => cases ok <;> exact ⟨rfl, rfl, rfl, fun _ there => there⟩
  | openCamera k => cases ok <;> exact ⟨rfl, rfl, rfl, fun _ there => there⟩
  | stop wasStreaming =>
      simp only [State.runSection]
      split <;> exact ⟨rfl, rfl, rfl, fun _ there => there⟩
  | _ => exact ⟨rfl, rfl, rfl, fun _ there => there⟩

private theorem runSection_returned {answer : StartId × Status}
    (there : answer ∈ (s.runSection ok x).returned) :
    answer ∈ s.returned ∨ x = .answer answer.1 answer.2 := by
  cases x with
  | check k =>
      simp only [State.runSection] at there
      split at there <;> exact .inl there
  | newReader k => cases ok <;> exact .inl there
  | openCamera k => cases ok <;> exact .inl there
  | stop wasStreaming =>
      simp only [State.runSection] at there
      split at there <;> exact .inl there
  | answer k status =>
      rcases List.mem_append.mp there with earlier | now
      · exact .inl earlier
      · rw [List.mem_singleton.mp now]
        exact .inr rfl
  | _ => exact .inl there

theorem Fits.answers (fits : s.Fits x) (there : (s.runSection ok x).sessionMutex =
    some (.answer k .ok)) : x = .store k := by
  cases x with
  | check j =>
      simp only [State.runSection] at there
      split at there <;> simp [State.goto] at there
  | deleteReader next =>
      cases next with
      | begin j => simp [State.runSection, Cleanup.after] at there
      | fail j status =>
          have failed := fits.failing status rfl
          simp [State.runSection, Cleanup.after, failed] at there
      | stop => simp [State.runSection, Cleanup.after] at there
  | store j => simpa [State.runSection, State.goto] using there
  | stop wasStreaming =>
      simp only [State.runSection] at there
      split at there <;> simp [State.goto] at there
  | _ => cases ok <;> simp [State.runSection, State.goto] at there

def Told (s : State) : Prop := ∀ k ∈ s.lost, s.Streams k → k ∈ s.nullFrames

theorem Told.runSection (told : s.Told) (sound : s.Sound) (here : s.sessionMutex = some x)
    (held : ∀ k, x = .store k → k ∉ s.lost) : (s.runSection ok x).Told := by
  obtain ⟨lost, sent, _⟩ := @runSection_sends s x ok
  intro k reported streams
  rw [lost] at reported
  rw [sent]
  rcases streams with returned | there
  · rcases runSection_returned returned with earlier | rfl
    · exact told k reported (.inl earlier)
    · exact told k reported (.inr here)
  · exact absurd reported (held k ((sound.fits x here).answers there))

theorem Told.onDeviceLost (told : s.Told) (sound : s.Sound) (taken : s.onDeviceLost = some s') :
    s'.Told := by
  obtain ⟨k, device, rfl⟩ := Option.map_eq_some_iff.mp taken
  cases streaming : s.streaming with
  | true =>
      obtain ⟨own, same, callback, _⟩ := sound.live streaming
      obtain rfl := Option.some.inj (device.symm.trans same)
      intro j reported streams
      change j ∈ s.nullFrames ++ s.frameCb.toList
      rcases mem_reportLost reported with earlier | ⟨rfl, _⟩
      · exact List.mem_append_left _ (told j earlier streams)
      · simp [callback]
  | false =>
      intro j reported streams
      rcases mem_reportLost reported with earlier | ⟨rfl, running⟩
      · exact told j earlier streams
      · exact sound.missed j device streams streaming running

/-- No start gets as far as `streaming.store(true)` once its device has been lost. -/
def Noticed (s : State) : Action → Prop
  | .run _ => ∀ k, s.sessionMutex = some (.store k) → k ∉ s.lost
  | _ => True

theorem Told.step {action : Action} (told : s.Told) (sound : s.Sound) (noticed : s.Noticed action)
    (taken : s.step action = some s') : s'.Told := by
  have refused : ∀ status, status ≠ .ok → (s.refuse status).Told := by
    intro status failed k reported streams
    rcases streams with returned | here
    · rcases List.mem_append.mp returned with earlier | now
      · exact told k reported (.inl earlier)
      · exact absurd (Prod.mk.inj (List.mem_singleton.mp now)).2.symm failed
    · exact told k reported (.inr here)
  cases action with
  | startStreaming deviceIndex given =>
      simp only [State.step] at taken
      split at taken
      · obtain rfl := Option.some.inj taken
        exact refused .notFound (by simp)
      · split at taken
        · obtain rfl := Option.some.inj taken
          exact refused .invalidParam (by simp)
        · split at taken
          · contradiction
          · obtain rfl := Option.some.inj taken
            exact fun k reported streams =>
              told k reported (streams.of_returned rfl (by simp [State.goto]))
  | stopStreaming =>
      obtain rfl := Option.some.inj taken
      exact told
  | lockStop i =>
      simp only [State.step] at taken
      split at taken
      · contradiction
      · obtain ⟨wasStreaming, _, rfl⟩ := Option.map_eq_some_iff.mp taken
        exact fun k reported streams =>
          told k reported (streams.of_returned rfl (by simp [State.goto]))
  | run ok =>
      obtain ⟨x, here, rfl⟩ := Option.map_eq_some_iff.mp taken
      exact told.runSection sound here fun k store => noticed k (store ▸ here)
  | onImageAvailable acquired =>
      simp only [State.step, State.onImageAvailable] at taken
      split at taken
      · split at taken
        · obtain rfl := Option.some.inj taken
          exact told
        · obtain rfl := Option.some.inj taken
          exact told
      · contradiction
  | onDeviceDisconnected => exact told.onDeviceLost sound taken
  | onDeviceError => exact told.onDeviceLost sound taken

/-! ### A callback that has been cleared -/

def calls (s : State) (k : StartId) : Nat × Nat := (s.frames.count k, s.nullFrames.count k)

theorem Sound.uncalled (sound : s.Sound) (cleared : k ∈ s.cleared) :
    s.frameCb.toList.count k = 0 := by
  apply List.count_eq_zero_of_not_mem
  intro callback
  exact sound.uncleared k (Option.mem_toList.mp callback) cleared

theorem Sound.lost_silent (sound : s.Sound) (taken : s.onDeviceLost = some s')
    (cleared : k ∈ s.cleared) : k ∈ s'.cleared ∧ s'.calls k = s.calls k := by
  obtain ⟨j, _, rfl⟩ := Option.map_eq_some_iff.mp taken
  cases streaming : s.streaming with
  | true => exact ⟨cleared, by
      simp [State.calls, State.reportLost, State.sendNull, sound.uncalled cleared]⟩
  | false => exact ⟨cleared, rfl⟩

theorem Sound.silent {action : Action} (sound : s.Sound) (taken : s.step action = some s')
    (cleared : k ∈ s.cleared) : k ∈ s'.cleared ∧ s'.calls k = s.calls k := by
  have uncalled := sound.uncalled cleared
  cases action with
  | startStreaming deviceIndex given =>
      simp only [State.step] at taken
      split at taken
      · obtain rfl := Option.some.inj taken
        exact ⟨cleared, rfl⟩
      · split at taken
        · obtain rfl := Option.some.inj taken
          exact ⟨cleared, rfl⟩
        · split at taken
          · contradiction
          · obtain rfl := Option.some.inj taken
            exact ⟨cleared, rfl⟩
  | stopStreaming =>
      obtain rfl := Option.some.inj taken
      exact ⟨cleared, rfl⟩
  | lockStop i =>
      simp only [State.step] at taken
      split at taken
      · contradiction
      · obtain ⟨wasStreaming, _, rfl⟩ := Option.map_eq_some_iff.mp taken
        exact ⟨cleared, rfl⟩
  | run ok =>
      obtain ⟨x, here, rfl⟩ := Option.map_eq_some_iff.mp taken
      obtain ⟨_, nullFrames, frames, still⟩ := @runSection_sends s x ok
      exact ⟨still k cleared, by simp only [State.calls, nullFrames, frames]⟩
  | onImageAvailable acquired =>
      simp only [State.step, State.onImageAvailable] at taken
      split at taken
      · split at taken
        · obtain rfl := Option.some.inj taken
          exact ⟨cleared, by simp [State.calls, uncalled]⟩
        · obtain rfl := Option.some.inj taken
          exact ⟨cleared, rfl⟩
      · contradiction
  | onDeviceDisconnected => exact sound.lost_silent taken cleared
  | onDeviceError => exact sound.lost_silent taken cleared

private theorem Sound.silent_run {actions : List Action} (sound : s.Sound)
    (run : machine.Run Lib.Machine.anything s actions s') (cleared : k ∈ s.cleared) :
    s'.Sound ∧ k ∈ s'.cleared ∧ s'.calls k = s.calls k := by
  induction run with
  | nil => exact ⟨sound, cleared, rfl⟩
  | snoc before _ taken ih =>
      obtain ⟨middle, still, same⟩ := ih
      obtain ⟨later, again⟩ := middle.silent taken still
      exact ⟨middle.step taken, later, again.trans same⟩

theorem reachable_sound {admits : State → Action → Prop} (reached : machine.Reachable admits s) :
    s.Sound := by
  refine reached.invariant ?_ ?_
  · intro state start
    rw [show state = { devices := state.devices } from start]
    exact Sound.initial state.devices
  · exact fun _ _ _ _ taken sound => sound.step taken

/-- A device that was lost between its opening and a stop, and whose start succeeded, was
reported by one null frame. A callback that has been cleared is not called again, whatever
happens. -/
structure Reported (s : State) : Prop where
  told : ∀ k ∈ s.lost, (k, .ok) ∈ s.returned → s.nullFrames.count k = 1
  once : ∀ k, s.nullFrames.count k ≤ 1
  silent : ∀ actions s', machine.Run Lib.Machine.anything s actions s' →
    ∀ k ∈ s.cleared, s'.calls k = s.calls k

end State

open State in
/-- Along every run in which no start overlooks the loss of its device. -/
theorem loss_reported {s : State} (reached : machine.Reachable Noticed s) : s.Reported := by
  have sound := reachable_sound reached
  have told : s.Told := by
    refine Lib.Machine.Reachable.invariant_under (fun _ => reachable_sound) ?_ ?_ reached
    · intro state start
      rw [show state = { devices := state.devices } from start]
      exact fun k lost => by contradiction
    · exact fun _ _ _ noticed sound _ taken told => told.step sound noticed taken
  constructor
  · intro k lost ok
    exact List.count_eq_one_of_mem sound.once (told k lost (.inl ok))
  · exact fun k => List.nodup_iff_count_le_one.mp sound.once k
  · exact fun _ _ run k cleared => (sound.silent_run run cleared).2.2

/-- No start is about to succeed with a lost device. -/
def noticing (s : State) : Action → Bool
  | .run _ =>
      match s.sessionMutex with
      | some (.store k) => decide (k ∉ s.lost)
      | _ => true
  | _ => true

theorem noticed_of_noticing {s : State} {action : Action} (allowed : noticing s action = true) :
    s.Noticed action := by
  cases action with
  | run ok =>
      intro k here
      simpa [noticing, here] using allowed
  | _ => trivial

/-- A start whose native calls all succeed, as far as `streaming.store(true)`. -/
def startedUpToStore : List Action :=
  .startStreaming 0 true :: List.replicate 12 (.run true)

/-- An image, a lost device that is reported, a second report of it, and a stop. -/
def lostWhileStreaming : List Action :=
  startedUpToStore ++ [Action.run true, .run true, .onImageAvailable true, .onDeviceDisconnected,
    .onDeviceError, .stopStreaming, .lockStop 0] ++ List.replicate 5 (Action.run true)

theorem loss_reported_lostWhileStreaming : ∃ s, machine.Reachable State.Noticed s ∧
    0 ∈ s.lost ∧ (0, .ok) ∈ s.returned ∧ s.Reported := by
  have passed : ((machine.exec noticing { devices := 1 } lostWhileStreaming).any fun s =>
      decide (0 ∈ s.lost ∧ (0, .ok) ∈ s.returned)) = true := by decide +kernel
  obtain ⟨s, reached, holds⟩ := Lib.Machine.Reachable.of_exec rfl passed
  obtain ⟨lost, ok⟩ := of_decide_eq_true holds
  have noticed := reached.mono fun _ _ => noticed_of_noticing
  exact ⟨s, noticed, lost, ok, loss_reported noticed⟩

/-- The device is lost after it was opened and before `streaming.store(true)`. -/
def lostWhileStarting : List Action :=
  startedUpToStore ++ [Action.onDeviceDisconnected, .run true, .run true]

theorem not_always_reported : ∃ s,
    machine.Run Lib.Machine.anything { devices := 1 } lostWhileStarting s ∧
    s.lost = [0] ∧ s.returned = [(0, .ok)] ∧ s.nullFrames = [] ∧ ¬ s.Reported := by
  have passed : ((machine.exec (fun _ _ => true) { devices := 1 } lostWhileStarting).any fun s =>
      decide (s.lost = [0] ∧ s.returned = [(0, .ok)] ∧ s.nullFrames = [])) = true := by
    decide +kernel
  obtain ⟨s, run, holds⟩ := Lib.Machine.run_of_passed passed
  obtain ⟨lost, ok, unsent⟩ := of_decide_eq_true holds
  refine ⟨s, run.mono fun _ _ _ => trivial, lost, ok, unsent, fun reported => ?_⟩
  have one := reported.told 0 (by simp [lost]) (by simp [ok])
  simp [unsent] at one

end CameraRs.Camera2
