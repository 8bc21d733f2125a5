/-
The output mode of a frame.

A session does not know the mode it was started in: the handle keeps the mode of the last
start beside the session, and a `nativeNextFrame` reads the two separately.
-/

import CameraRs.Android.Lifecycle

namespace CameraRs.Android

def Handle.Mode (h : Handle) (s : SessionId) (native : Bool) : Prop :=
  s < h.created ∧ (h.sessions s).native = native

/-- A call has the output mode of the session or frame it has. -/
def Handle.Fits (h : Handle) : Call → Prop
  | .start native (.storeOutput s) => h.Mode s native
  | .start _ (.storeSession s) => h.Mode s h.nativeOutput
  | .nextFrame _ (.loadOutput s) => h.Mode s h.nativeOutput
  | .nextFrame _ (.reader s native) => h.Mode s native
  | .nextFrame _ (.returned (some (frame, encoding))) => h.Mode frame.session encoding.isNative
  | _ => True

structure Handle.Encoded (h : Handle) : Prop where
  shown : ∀ s, h.session = some s → h.Mode s h.nativeOutput
  calls : ∀ c call, h.calls c = some call → h.Fits call
  reader : ∀ reader, h.reader = some reader →
    ∀ frame, reader.pending = some frame → frame.session = reader.session

variable {h h' : Handle} {env : Env} {call after other : Call} {effect : Effect} {c j : CallId}
  {s : SessionId} {native : Bool}

namespace Handle

theorem native_stopSession : ((h.stopSession s).sessions j).native = (h.sessions j).native := by
  unfold stopSession
  split
  · rfl
  · by_cases same : j = s
    · subst same
      simp [setSession]
    · simp [setSession, same]

theorem native_requestStop {stopping : Bool} :
    ((h.setSession s { h.sessions s with stopping := stopping }).sessions j).native =
      (h.sessions j).native := by
  by_cases same : j = s
  · subst same
    simp [setSession]
  · simp [setSession, same]

theorem Mode.apply (mode : h.Mode s native) : (h.apply c effect).Mode s native := by
  obtain ⟨known, rfl⟩ := mode
  refine ⟨Nat.lt_of_lt_of_le known (Handle.created_le effect), ?_⟩
  cases effect with
  | stop r => exact native_stopSession
  | requestStop r => exact native_requestStop
  | startSession mode =>
      simp only [Handle.apply, setSession, Function.update_of_ne (Nat.ne_of_lt known)]
  | _ => rfl

private theorem apply_nativeOutput (effect : Effect) :
    (h.apply c effect).nativeOutput =
      match effect with
      | .storeOutput native => native
      | _ => h.nativeOutput := by
  cases effect with
  | stop r => exact (h.stopSession_rest r).2.2.2.2.2.2.2.1
  | _ => rfl

private theorem apply_reader (effect : Effect) :
    (h.apply c effect).reader =
      match effect with
      | .storeReader reader => some reader
      | _ => h.reader := by
  cases effect with
  | stop r => exact (h.stopSession_rest r).2.2.2.2.2.2.2.2
  | _ => rfl

theorem Fits.keep {later : Handle} (fits : h.Fits other)
    (modes : ∀ s native, h.Mode s native → later.Mode s native)
    (output : later.nativeOutput = h.nativeOutput ∨
      other.reading = false ∧ ∀ native s, other ≠ .start native (.storeSession s)) :
    later.Fits other := by
  unfold Fits at fits ⊢
  split at fits
  · exact modes _ _ fits
  · next native s =>
      rcases output with same | ⟨_, never⟩
      · rw [same]
        exact modes _ _ fits
      · exact absurd rfl (never native s)
  · rcases output with same | ⟨never, _⟩
    · rw [same]
      exact modes _ _ fits
    · contradiction
  · exact modes _ _ fits
  · exact modes _ _ fits
  · trivial

end Handle

namespace Handle.Encoded

theorem readerOf_session (h : Handle) (s : SessionId) : (h.readerOf s).session = s := by
  unfold readerOf
  split
  · split
    · next same => exact same
    · rfl
  · rfl

theorem readerOf_pending (encoded : h.Encoded) {frame : Frame}
    (pending : (h.readerOf s).pending = some frame) : frame.session = s := by
  unfold readerOf at pending
  split at pending
  · next reader found =>
      split at pending
      · next same =>
          rw [encoded.reader reader found frame pending, same]
      · contradiction
  · contradiction

theorem readFrame_session (encoded : h.Encoded) (native argb : Bool) :
    (∀ frame encoding, (h.readFrame s native argb env).1 = some (frame, encoding) →
      frame.session = s ∧ encoding.isNative = native) ∧
    (h.readFrame s native argb env).2.session = s ∧
    ∀ frame, (h.readFrame s native argb env).2.pending = some frame → frame.session = s := by
  simp only [readFrame]
  split
  · next nothing =>
      refine ⟨by simp, readerOf_session h s, ?_⟩
      intro frame pending
      exact encoded.readerOf_pending pending
  · next frame received =>
      have mine : frame.session = s := by
        split at received
        · next pending =>
            obtain rfl := Option.some.inj received
            exact encoded.readerOf_pending pending
        · split at received
          · rw [← Option.some.inj received]
          · contradiction
      split
      · refine ⟨?_, readerOf_session h s, by simp⟩
        intro given encoding same
        obtain ⟨rfl, rfl⟩ := Prod.mk.inj (Option.some.inj same)
        refine ⟨mine, ?_⟩
        cases native <;> cases argb <;> rfl
      · refine ⟨by simp, readerOf_session h s, ?_⟩
        intro kept same
        rw [← Option.some.inj same, mine]

private theorem start_fits (encoded : h.Encoded) {pc : StartPc}
    (at_call : h.calls c = some (.start native pc))
    (made : h.startNext native env pc = some (after, effect)) :
    (h.apply c effect).Fits after := by
  have fits := encoded.calls c _ at_call
  cases pc with
  | cameraStart =>
      simp only [startNext] at made
      split at made
      · obtain ⟨rfl, rfl⟩ := made
        trivial
      · obtain ⟨rfl, rfl⟩ := made
        exact ⟨Nat.lt_succ_self _, by simp [Handle.apply, setSession]⟩
  | storeOutput s =>
      obtain ⟨rfl, rfl⟩ := made
      exact Mode.apply fits
  | gate =>
      simp only [startNext] at made
      split at made
      · obtain ⟨rfl, rfl⟩ := made
        trivial
      · contradiction
  | returned => contradiction
  | lookup =>
      obtain ⟨rfl, rfl⟩ := made
      split <;> trivial
  | loadClosed =>
      obtain ⟨rfl, rfl⟩ := made
      split <;> trivial
  | _ =>
      obtain ⟨rfl, rfl⟩ := made
      trivial

private theorem nextFrame_fits (encoded : h.Encoded) {argb : Bool} {pc : NextFramePc}
    (at_call : h.calls c = some (.nextFrame argb pc))
    (made : h.nextFrameNext argb env pc = some (after, effect)) :
    (h.apply c effect).Fits after := by
  have fits := encoded.calls c _ at_call
  cases pc with
  | lookup =>
      obtain ⟨rfl, rfl⟩ := made
      split <;> trivial
  | session =>
      simp only [nextFrameNext] at made
      split at made
      · next s shown =>
          obtain ⟨rfl, rfl⟩ := made
          exact encoded.shown s shown
      · obtain ⟨rfl, rfl⟩ := made
        trivial
  | loadOutput s =>
      simp only [nextFrameNext] at made
      split at made
      · obtain ⟨rfl, rfl⟩ := made
        trivial
      · obtain ⟨rfl, rfl⟩ := made
        exact fits
  | reader s native =>
      simp only [nextFrameNext, Option.some.injEq, Prod.mk.injEq] at made
      obtain ⟨rfl, rfl⟩ := made
      obtain ⟨given, _⟩ := @readFrame_session h env s encoded native argb
      cases found : (h.readFrame s native argb env).1 with
      | none => trivial
      | some result =>
          obtain ⟨mine, mode⟩ := given result.1 result.2 found
          change h.Mode result.1.session result.2.isNative
          rw [mine, mode]
          exact fits
  | returned frame => contradiction

private theorem own_fits (encoded : h.Encoded) (at_call : h.calls c = some call)
    (made : h.next env call = some (after, effect)) : (h.apply c effect).Fits after := by
  cases call with
  | start native pc => exact encoded.start_fits at_call made
  | nextFrame argb pc => exact encoded.nextFrame_fits at_call made
  | shutdown closing pc =>
      cases pc <;> simp only [Handle.next, shutdownNext] at made <;> (repeat' split at made) <;>
        first
        | contradiction
        | (obtain ⟨rfl, rfl⟩ := made
           trivial)
  | query metrics pc =>
      cases pc <;> simp only [Handle.next, queryNext] at made <;>
        first
        | contradiction
        | (obtain ⟨rfl, rfl⟩ := made
           trivial)
  | stopLookup =>
      obtain ⟨rfl, rfl⟩ := made
      split <;> trivial
  | closeRemove =>
      obtain ⟨rfl, rfl⟩ := made
      split <;> trivial
  | closeStore =>
      obtain ⟨rfl, rfl⟩ := made
      trivial
  | stopAbsent => contradiction
  | closeAbsent => contradiction

end Handle.Encoded

/-- Where the stores of output mode, session and reader come from. -/
structure OutputEdge (h : Handle) (env : Env) (call : Call) (effect : Effect) : Prop where
  output : ∀ native, effect = .storeOutput native → ∃ s, call = .start native (.storeOutput s)
  session : ∀ s, effect = .storeSession s → ∃ native, call = .start native (.storeSession s)
  reader : ∀ reader, effect = .storeReader reader → ∃ argb s native,
    call = .nextFrame argb (.reader s native) ∧ reader = (h.readFrame s native argb env).2

theorem next_outputEdge (made : h.next env call = some (after, effect)) :
    OutputEdge h env call effect := by
  cases call with
  | start native pc =>
      cases pc <;> simp only [Handle.next, Handle.startNext] at made <;>
        (repeat' split at made) <;>
        first
        | contradiction
        | (obtain ⟨rfl, rfl⟩ := made
           constructor <;> simp)
  | shutdown closing pc =>
      cases pc <;> simp only [Handle.next, Handle.shutdownNext] at made <;>
        (repeat' split at made) <;>
        first
        | contradiction
        | (obtain ⟨rfl, rfl⟩ := made
           constructor <;> simp)
  | nextFrame argb pc =>
      cases pc with
      | reader s native =>
          simp only [Handle.next, Handle.nextFrameNext, Option.some.injEq, Prod.mk.injEq] at made
          obtain ⟨rfl, rfl⟩ := made
          refine ⟨by simp, by simp, ?_⟩
          intro reader same
          exact ⟨argb, s, native, rfl, (Effect.storeReader.inj same).symm⟩
      | _ =>
          simp only [Handle.next, Handle.nextFrameNext] at made
          (repeat' split at made) <;>
            first
            | contradiction
            | (obtain ⟨rfl, rfl⟩ := made
               constructor <;> simp)
  | query metrics pc =>
      cases pc <;> simp only [Handle.next, Handle.queryNext] at made <;>
        first
        | contradiction
        | (obtain ⟨rfl, rfl⟩ := made
           constructor <;> simp)
  | stopAbsent => contradiction
  | closeAbsent => contradiction
  | _ =>
      obtain ⟨rfl, rfl⟩ := made
      constructor <;> simp

namespace Handle.Encoded

theorem output_undisturbed (sound : h.Sound) (admitted : Orderly h (.run c env))
    (at_call : h.calls c = some call) (made : h.next env call = some (after, effect)) :
    (h.apply c effect).nativeOutput = h.nativeOutput ∨
      h.session = none ∧ ∀ j other, j ≠ c → h.calls j = some other →
        other.reading = false ∧ ∀ native s, other ≠ .start native (.storeSession s) := by
  rw [apply_nativeOutput]
  cases effect with
  | storeOutput native =>
      obtain ⟨s, rfl⟩ := (next_outputEdge made).output native rfl
      simp only [Orderly, orderly, at_call, Bool.or_eq_true, Bool.and_eq_true, beq_iff_eq,
        Option.isNone_iff_eq_none] at admitted
      rcases admitted with same | ⟨empty, quiet⟩
      · exact .inl same
      · refine .inr ⟨empty, ?_⟩
        intro j other different found
        simp only [Handle.everyCall, List.all_eq_true, List.mem_range] at quiet
        have calm := quiet j (sound.issued j other found)
        refine ⟨by simpa [found] using calm, ?_⟩
        rintro native s rfl
        exact different (sound.in_gate at_call rfl found rfl)
  | _ => exact .inl rfl

theorem access (encoded : h.Encoded) (sound : h.Sound) (admitted : Orderly h (.run c env))
    (at_call : h.calls c = some call) (made : h.next env call = some (after, effect)) :
    ((h.apply c effect).setCall c after).Encoded where
  shown s shown := by
    change (h.apply c effect).Mode s (h.apply c effect).nativeOutput
    change (h.apply c effect).session = some s at shown
    rw [apply_session] at shown
    have kept : h.session = some s → (h.apply c effect).Mode s (h.apply c effect).nativeOutput := by
      intro before
      rcases output_undisturbed sound admitted at_call made with same | ⟨empty, _⟩
      · rw [same]
        exact Mode.apply (encoded.shown s before)
      · rw [empty] at before
        contradiction
    cases effect with
    | storeSession r =>
        obtain rfl := Option.some.inj shown
        obtain ⟨native, rfl⟩ := (next_outputEdge made).session r rfl
        exact encoded.calls c _ at_call
    | takeSession => contradiction
    | _ => exact kept shown
  calls j other found := by
    change (h.apply c effect).Fits other
    rcases setCall_some found with ⟨rfl, rfl⟩ | ⟨different, found⟩
    · exact encoded.own_fits at_call made
    · rw [apply_calls] at found
      refine Fits.keep (encoded.calls j other found) (fun s native mode => Mode.apply mode) ?_
      rcases output_undisturbed sound admitted at_call made with same | ⟨_, quiet⟩
      · exact .inl same
      · exact .inr (quiet j other different found)
  reader reader found := by
    change (h.apply c effect).reader = some reader at found
    rw [apply_reader] at found
    cases effect with
    | storeReader stored =>
        obtain rfl := Option.some.inj found
        obtain ⟨argb, s, native, rfl, rfl⟩ := (next_outputEdge made).reader stored rfl
        obtain ⟨_, same, mine⟩ := @readFrame_session h env s encoded native argb
        intro frame pending
        rw [same]
        exact mine frame pending
    | _ => exact encoded.reader reader found

theorem step (encoded : h.Encoded) (sound : h.Sound) {a : Action} (admitted : Orderly h a)
    (taken : h.step a = some h') : h'.Encoded := by
  cases step_stepped taken with
  | access at_call made => exact encoded.access sound admitted at_call made
  | @giveUp s known =>
      have modes : ∀ r native, h.Mode r native →
          (h.setSession s { h.sessions s with stopping := true }).Mode r native :=
        fun r native mode => ⟨mode.1, native_requestStop.trans mode.2⟩
      refine ⟨fun r shown => modes r _ (encoded.shown r shown), ?_, encoded.reader⟩
      intro c call found
      exact Fits.keep (encoded.calls c call found) modes (.inl rfl)
  | @settle s known =>
      obtain ⟨calls, _, _, session, _, _, created, output, reader⟩ := h.stopSession_rest s
      have modes : ∀ r native, h.Mode r native → (h.stopSession s).Mode r native := by
        intro r native mode
        refine ⟨?_, native_stopSession.trans mode.2⟩
        rw [created]
        exact mode.1
      refine ⟨?_, ?_, ?_⟩
      · intro r shown
        rw [output]
        rw [session] at shown
        exact modes r _ (encoded.shown r shown)
      · intro c call found
        rw [calls] at found
        exact Fits.keep (encoded.calls c call found) modes (.inl output)
      · rw [reader]
        exact encoded.reader
  | @entry a call entry =>
      refine ⟨encoded.shown, ?_, encoded.reader⟩
      intro c other found
      rcases setCall_some found with ⟨_, rfl⟩ | ⟨_, before⟩
      · cases a <;> first | contradiction | (obtain rfl := Option.some.inj entry; trivial)
      · exact Fits.keep (encoded.calls c other before) (fun _ _ mode => mode) (.inl rfl)

theorem reachable (reached : machine.Reachable Orderly h) : h.Encoded := by
  refine Lib.Machine.Reachable.invariant_under (fun _ => Handle.Sound.reachable) ?_ ?_ reached
  · rintro h rfl
    constructor <;> simp
  · intro h a h' admitted sound _ taken encoded
    exact encoded.step sound admitted taken

end Handle.Encoded

/-! ### The lifecycle of a handle -/

/-- What may be relied on of a handle that is used in the manner of `admits`. -/
structure Handle.Kept (admits : Handle → Action → Prop) (h : Handle) : Prop where
  idle : h.Idle → ∀ s, h.Live s → h.session = some s
  closed : ∀ c call, h.calls c = some call → call.closed = true →
    ∀ h' actions, machine.Run admits h actions h' → ∀ s, ¬ h'.Live s
  encoded : ∀ c argb frame encoding,
    h.calls c = some (.nextFrame argb (.returned (some (frame, encoding)))) →
    encoding.isNative = (h.sessions frame.session).native

theorem closed_run {actions : List Action} (sound : h.Sound) (at_call : h.calls c = some call)
    (closed : call.closed = true) (run : machine.Run Orderly h actions h') :
    h'.Sound ∧ h'.calls c = some call := by
  induction run with
  | nil => exact ⟨sound, at_call⟩
  | @snoc middle finish actions a before admitted taken ih =>
      obtain ⟨here, found⟩ := ih
      refine ⟨here.step admitted taken, ?_⟩
      cases step_stepped taken with
      | @access j env other after effect at_other made =>
          have different : c ≠ j := by
            rintro rfl
            rw [found] at at_other
            obtain rfl := Option.some.inj at_other
            unfold Call.closed at closed
            split at closed <;> contradiction
          rw [Handle.setCall_other different, Handle.apply_calls, found]
      | giveUp known => exact found
      | @settle s known =>
          rw [(middle.stopSession_rest s).1]
          exact found
      | entry entry =>
          change (middle.setCall middle.issued _).calls c = _
          rw [Handle.setCall_other (Nat.ne_of_lt (here.issued c call found)), found]

theorem handle_kept (reached : machine.Reachable Orderly h) : h.Kept Orderly := by
  have sound := Handle.Sound.reachable reached
  constructor
  · intro idle s live
    exact sound.idle idle live
  · intro c call found closed h' actions run
    obtain ⟨there, still⟩ := closed_run sound found closed run
    exact (there.drained c call still (Call.closed_finished closed)).dead
  · intro c argb frame encoding found
    exact ((Handle.Encoded.reachable reached).calls c _ found).2.symm

def Call.given : Call → Option (Frame × Encoding)
  | .nextFrame _ (.returned given) => given
  | _ => none

private theorem given_returned {frame : Frame} {encoding : Encoding}
    (given : (h.calls c).bind Call.given = some (frame, encoding)) :
    ∃ argb, h.calls c = some (.nextFrame argb (.returned (some (frame, encoding)))) := by
  obtain ⟨call, found, returned⟩ := Option.bind_eq_some_iff.mp given
  unfold Call.given at returned
  split at returned
  · next argb result =>
      exact ⟨argb, by rw [found, returned]⟩
  · contradiction

instance (h : Handle) (s : SessionId) : Decidable (h.Live s) :=
  inferInstanceAs (Decidable (s < h.created ∧ (h.sessions s).closed = false))

def Action.steps (c : CallId) (count : Nat) : List Action := List.replicate count (.run c {})

/-- A start, a frame and a close, one after the other. -/
def used : List Action :=
  .nativeStart true :: Action.steps 0 7 ++ .nativeNextFrame false :: Action.steps 1 4 ++
  .nativeClose :: Action.steps 2 7

theorem handle_kept_used :
    ∃ h, machine.Reachable Orderly h ∧ (h.calls 1).bind Call.given = some (⟨0⟩, .native) ∧
      (h.calls 2).any Call.closed = true ∧ h.Kept Orderly := by
  have passed : ((machine.exec orderly {} used).any fun h =>
      decide ((h.calls 1).bind Call.given = some (⟨0⟩, .native)) &&
        (h.calls 2).any Call.closed) = true := by
    decide +kernel
  have initial : machine.initial {} := rfl
  obtain ⟨h, reached, shown⟩ := Lib.Machine.Reachable.of_exec initial passed
  obtain ⟨given, closed⟩ := Bool.and_eq_true_iff.mp shown
  exact ⟨h, reached, of_decide_eq_true given, closed, handle_kept reached⟩

/-! ### What goes wrong otherwise -/

/-- A start has the handle when two calls close it. The second finds it gone and returns;
the first has not stored `closed` when the start looks. -/
def closedTwice : List Action :=
  .nativeStart true :: Action.steps 0 1 ++ .nativeClose :: Action.steps 1 1 ++
  .nativeClose :: Action.steps 2 1 ++ Action.steps 0 3

/-- A small buffer leaves a frame of a native session pending. The next call has read the
session when it is stopped and one is started for RGB. -/
def restarted : List Action :=
  .nativeStart true :: Action.steps 0 7 ++ .nativeNextFrame false :: Action.steps 1 3 ++
  .run 1 { copied := false } :: .nativeNextFrame false :: Action.steps 2 2 ++
  .nativeStop :: Action.steps 3 6 ++ .nativeStart false :: Action.steps 4 7 ++ Action.steps 2 2

private theorem closedTwice_live :
    ((machine.exec (fun _ _ => true) {} closedTwice).any fun h =>
      (h.calls 2).any Call.closed && decide (h.Live 0)) = true := by
  decide +kernel

private theorem restarted_rgb :
    ((machine.exec (fun _ _ => true) {} restarted).any fun h =>
      decide ((h.calls 2).bind Call.given = some (⟨0⟩, .rgb8)) && (h.sessions 0).native) = true := by
  decide +kernel

theorem not_always_kept :
    (¬ ∀ h, machine.Reachable Lib.Machine.anything h → ∀ c call, h.calls c = some call →
      call.closed = true → ∀ s, ¬ h.Live s) ∧
    ¬ ∀ h, machine.Reachable Lib.Machine.anything h → ∀ c argb frame encoding,
      h.calls c = some (.nextFrame argb (.returned (some (frame, encoding)))) →
      encoding.isNative = (h.sessions frame.session).native := by
  have initial : machine.initial {} := rfl
  constructor
  · intro always
    obtain ⟨h, reached, shown⟩ := Lib.Machine.Reachable.of_exec initial closedTwice_live
    obtain ⟨closed, live⟩ := Bool.and_eq_true_iff.mp shown
    obtain ⟨call, found, closed⟩ := (Option.any_eq_true _ _).mp closed
    exact always h (reached.mono fun _ _ _ => trivial) 2 call found closed 0
      (of_decide_eq_true live)
  · intro always
    obtain ⟨h, reached, shown⟩ := Lib.Machine.Reachable.of_exec initial restarted_rgb
    obtain ⟨given, native⟩ := Bool.and_eq_true_iff.mp shown
    obtain ⟨argb, found⟩ := given_returned (of_decide_eq_true given)
    have mode := always h (reached.mono fun _ _ _ => trivial) 2 argb ⟨0⟩ .rgb8 found
    rw [native] at mode
    contradiction

end CameraRs.Android
