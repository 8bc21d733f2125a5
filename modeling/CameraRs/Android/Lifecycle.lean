/-
What the calls on one handle keep.

The lifecycle gate makes starts and shutdowns take turns, and `busy` lets one session
live at a time. The gate does not cover `nativeNextFrame`: it reads the session and the
output mode one after the other. Nor does a `nativeClose` that finds the handle gone wait
for the one that took it.
-/

import CameraRs.Android.Handle

namespace CameraRs.Android

namespace Call

/-- The call is inside the lifecycle gate. -/
def holds : Call → Bool
  | .start _ .loadClosed | .start _ .cameraStart | .start _ (.storeOutput _)
  | .start _ (.storeSession _) | .start _ .unlock => true
  | .shutdown _ .takeSession | .shutdown _ (.requestStop _) | .shutdown _ (.stop _)
  | .shutdown _ .unlock => true
  | _ => false

def carries : Call → Option SessionId
  | .start _ (.storeOutput s) | .start _ (.storeSession s) => some s
  | .shutdown _ (.requestStop s) | .shutdown _ (.stop s) => some s
  | _ => none

def launching : Call → Bool
  | .start _ .cameraStart | .start _ (.storeOutput _) | .start _ (.storeSession _) => true
  | _ => false

/-- A `nativeClose` that has taken the handle out of the registry and goes on. -/
def closing : Call → Bool
  | .closeStore => true
  | .shutdown true .returned => false
  | .shutdown true _ => true
  | _ => false

/-- A `nativeClose` that has stored `closed`. -/
def marked : Call → Bool
  | .shutdown true _ => true
  | _ => false

/-- A `nativeClose` with nothing left to shut down. -/
def finished : Call → Bool
  | .shutdown true .unlock | .shutdown true .returned | .closeAbsent => true
  | _ => false

def closed : Call → Bool
  | .shutdown true .returned | .closeAbsent => true
  | _ => false

def changes : Call → Bool
  | .start _ .returned | .shutdown _ .returned | .stopAbsent | .closeAbsent => false
  | .nextFrame _ _ | .query _ _ => false
  | _ => true

/-- A `nativeNextFrame` that has its session and not its output mode. -/
def reading : Call → Bool
  | .nextFrame _ (.loadOutput _) => true
  | _ => false

end Call

namespace Handle

/-- Started through the handle and not ended. -/
def Live (h : Handle) (s : SessionId) : Prop := s < h.created ∧ (h.sessions s).closed = false

/-- No start, stop or close is in progress. -/
def Idle (h : Handle) : Prop := ∀ c call, h.calls c = some call → call.changes = false

def everyCall (h : Handle) (p : Call → Bool) : Bool :=
  (List.range h.issued).all fun c => (h.calls c).all p

end Handle

/-- The handle is gone before another `nativeClose` looks for it only once the one that
took it has returned. A start that changes the output mode finds no session in the handle
and no `nativeNextFrame` between its two reads. -/
def orderly (h : Handle) : Action → Bool
  | .run c _ =>
      match h.calls c with
      | some .closeRemove => h.registered || h.everyCall fun other => !other.closing
      | some (.start native (.storeOutput _)) =>
          native == h.nativeOutput ||
            (h.session.isNone && h.everyCall fun other => !other.reading)
      | _ => true
  | _ => true

def Orderly (h : Handle) (a : Action) : Prop := orderly h a = true

/-! ### One step -/

/-- What an access can be, as far as the gate goes. -/
structure GateEdge (h : Handle) (call : Call) (effect : Effect) (after : Call) : Prop where
  holding : after.holds = match effect with
    | .lock => true
    | .unlock => false
    | _ => call.holds
  locking : effect = .lock → h.lifecycle = none
  unlocking : effect = .unlock → call.holds = true
  launching : after.launching = true → call.launching = true ∨
    effect = .read ∧ call.holds = true ∧ h.closed = false

variable {h h' : Handle} {env : Env} {call after : Call} {effect : Effect} {c : CallId}
  {s : SessionId}

section

attribute [local simp] Call.holds Call.launching

private theorem start_gateEdge {native : Bool} {pc : StartPc}
    (made : h.startNext native env pc = some (after, effect)) :
    GateEdge h (.start native pc) effect after := by
  cases pc <;> simp only [Handle.startNext] at made <;> (repeat' split at made) <;>
    first
    | contradiction
    | (obtain ⟨rfl, rfl⟩ := made
       constructor <;> simp_all)

private theorem shutdown_gateEdge {closing : Bool} {pc : ShutdownPc}
    (made : h.shutdownNext closing pc = some (after, effect)) :
    GateEdge h (.shutdown closing pc) effect after := by
  cases pc <;> simp only [Handle.shutdownNext] at made <;> (repeat' split at made) <;>
    first
    | contradiction
    | (obtain ⟨rfl, rfl⟩ := made
       constructor <;> simp_all)

private theorem nextFrame_gateEdge {argb : Bool} {pc : NextFramePc}
    (made : h.nextFrameNext argb env pc = some (after, effect)) :
    GateEdge h (.nextFrame argb pc) effect after := by
  cases pc <;> simp only [Handle.nextFrameNext] at made <;> (repeat' split at made) <;>
    first
    | contradiction
    | (obtain ⟨rfl, rfl⟩ := made
       constructor <;> simp)

private theorem query_gateEdge {metrics : Bool} {pc : QueryPc}
    (made : h.queryNext metrics pc = some (after, effect)) :
    GateEdge h (.query metrics pc) effect after := by
  cases pc <;> simp only [Handle.queryNext] at made <;>
    first
    | contradiction
    | (obtain ⟨rfl, rfl⟩ := made
       constructor <;> simp)

theorem next_gateEdge (made : h.next env call = some (after, effect)) :
    GateEdge h call effect after := by
  cases call with
  | start native pc => exact start_gateEdge made
  | shutdown closing pc => exact shutdown_gateEdge made
  | nextFrame argb pc => exact nextFrame_gateEdge made
  | query metrics pc => exact query_gateEdge made
  | stopLookup =>
      obtain ⟨rfl, rfl⟩ := made
      constructor <;> (try split) <;> simp
  | closeRemove =>
      obtain ⟨rfl, rfl⟩ := made
      constructor <;> (try split) <;> simp
  | closeStore =>
      obtain ⟨rfl, rfl⟩ := made
      constructor <;> simp
  | stopAbsent => contradiction
  | closeAbsent => contradiction

end

/-- What an access can be, as far as sessions and their end go. -/
structure SessionEdge (h : Handle) (call : Call) (effect : Effect) (after : Call) : Prop where
  starting : ∀ native, effect = .startSession native → h.busy = false ∧ call.launching = true ∧
    call.carries = none ∧ after = .start native (.storeOutput h.created)
  storing : ∀ s, effect = .storeSession s → call.carries = some s
  taking : effect = .takeSession →
    call.holds = true ∧ call.carries = none ∧ after.carries = h.session
  stopping : ∀ s, effect = .stop s → call.carries = some s
  carrying : ∀ s, call.carries = some s → call.holds = true ∧
    (after.carries = some s ∨ effect = .storeSession s ∨ effect = .stop s)
  carried : ∀ s, after.carries = some s → call.carries = some s ∨
    effect = .takeSession ∧ h.session = some s ∨
    ∃ native, effect = .startSession native ∧ s = h.created
  marking : after.marked = true → call.marked = true ∨ effect = .storeClosed
  keeping : call = .closeStore ∨ call.marked = true → after.marked = true
  removing : effect = .remove → call = .closeRemove ∧
    (h.registered = true ∧ after = .closeStore ∨ h.registered = false ∧ after = .closeAbsent)
  ending : after.finished = true → call.finished = true ∨
    call = .shutdown true .takeSession ∧ effect = .takeSession ∧ h.session = none ∨
    (∃ s, call = .shutdown true (.stop s) ∧ effect = .stop s) ∨
    call = .closeRemove ∧ effect = .remove ∧ h.registered = false

section

attribute [local simp] Call.holds Call.launching Call.carries Call.marked Call.finished

private theorem start_sessionEdge {native : Bool} {pc : StartPc}
    (made : h.startNext native env pc = some (after, effect)) :
    SessionEdge h (.start native pc) effect after := by
  cases pc <;> simp only [Handle.startNext] at made <;> (repeat' split at made) <;>
    first
    | contradiction
    | (obtain ⟨rfl, rfl⟩ := made
       constructor <;> simp_all)

private theorem shutdown_sessionEdge {closing : Bool} {pc : ShutdownPc}
    (made : h.shutdownNext closing pc = some (after, effect)) :
    SessionEdge h (.shutdown closing pc) effect after := by
  cases pc <;> cases closing <;> simp only [Handle.shutdownNext] at made <;>
    (repeat' split at made) <;>
    first
    | contradiction
    | (obtain ⟨rfl, rfl⟩ := made
       constructor <;> simp_all)

private theorem nextFrame_sessionEdge {argb : Bool} {pc : NextFramePc}
    (made : h.nextFrameNext argb env pc = some (after, effect)) :
    SessionEdge h (.nextFrame argb pc) effect after := by
  cases pc <;> simp only [Handle.nextFrameNext] at made <;> (repeat' split at made) <;>
    first
    | contradiction
    | (obtain ⟨rfl, rfl⟩ := made
       constructor <;> simp)

private theorem query_sessionEdge {metrics : Bool} {pc : QueryPc}
    (made : h.queryNext metrics pc = some (after, effect)) :
    SessionEdge h (.query metrics pc) effect after := by
  cases pc <;> simp only [Handle.queryNext] at made <;>
    first
    | contradiction
    | (obtain ⟨rfl, rfl⟩ := made
       constructor <;> simp)

theorem next_sessionEdge (made : h.next env call = some (after, effect)) :
    SessionEdge h call effect after := by
  cases call with
  | start native pc => exact start_sessionEdge made
  | shutdown closing pc => exact shutdown_sessionEdge made
  | nextFrame argb pc => exact nextFrame_sessionEdge made
  | query metrics pc => exact query_sessionEdge made
  | stopLookup =>
      obtain ⟨rfl, rfl⟩ := made
      constructor <;> (try split) <;> simp
  | closeRemove =>
      obtain ⟨rfl, rfl⟩ := made
      cases found : h.registered <;> constructor <;> simp [found]
  | closeStore =>
      obtain ⟨rfl, rfl⟩ := made
      constructor <;> simp
  | stopAbsent => contradiction
  | closeAbsent => contradiction

end

inductive Stepped (h : Handle) : Action → Handle → Prop
  | access {c : CallId} {env : Env} {call after : Call} {effect : Effect}
      (at_call : h.calls c = some call) (made : h.next env call = some (after, effect)) :
      Stepped h (.run c env) ((h.apply c effect).setCall c after)
  | giveUp {s : SessionId} (known : s < h.created) :
      Stepped h (.giveUp s) (h.setSession s { h.sessions s with stopping := true })
  | settle {s : SessionId} (known : s < h.created) : Stepped h (.settle s) (h.stopSession s)
  | entry {a : Action} {call : Call} (entry : a.call = some call) :
      Stepped h a { h.setCall h.issued call with issued := h.issued + 1 }

theorem step_stepped {a : Action} (taken : h.step a = some h') : Stepped h a h' := by
  cases a with
  | run c env =>
      simp only [Handle.step] at taken
      split at taken
      · contradiction
      · next call at_call =>
          obtain ⟨⟨after, effect⟩, made, rfl⟩ := Option.map_eq_some_iff.mp taken
          exact .access at_call made
  | giveUp s =>
      simp only [Handle.step] at taken
      split at taken
      · next known =>
          obtain rfl := Option.some.inj taken
          exact .giveUp known
      · contradiction
  | settle s =>
      simp only [Handle.step] at taken
      split at taken
      · next known =>
          obtain rfl := Option.some.inj taken
          exact .settle known.1
      · contradiction
  | _ =>
      obtain rfl := Option.some.inj taken
      exact .entry rfl

namespace Handle

variable {j : CallId} {r : SessionId} {other : Call}

theorem setCall_self : (h.setCall c after).calls c = some after := Function.update_self ..

theorem setCall_other (different : j ≠ c) : (h.setCall c after).calls j = h.calls j :=
  Function.update_of_ne different ..

theorem setCall_some (found : (h.setCall c after).calls j = some other) :
    j = c ∧ other = after ∨ j ≠ c ∧ h.calls j = some other := by
  by_cases same : j = c
  · subst same
    rw [setCall_self] at found
    exact .inl ⟨rfl, (Option.some.inj found).symm⟩
  · rw [setCall_other same] at found
    exact .inr ⟨same, found⟩

theorem stopSession_rest (h : Handle) (s : SessionId) :
    (h.stopSession s).calls = h.calls ∧ (h.stopSession s).issued = h.issued ∧
    (h.stopSession s).lifecycle = h.lifecycle ∧ (h.stopSession s).session = h.session ∧
    (h.stopSession s).closed = h.closed ∧ (h.stopSession s).registered = h.registered ∧
    (h.stopSession s).created = h.created ∧ (h.stopSession s).nativeOutput = h.nativeOutput ∧
    (h.stopSession s).reader = h.reader := by
  unfold stopSession
  split <;> exact ⟨rfl, rfl, rfl, rfl, rfl, rfl, rfl, rfl, rfl⟩

theorem apply_calls (effect : Effect) : (h.apply c effect).calls = h.calls := by
  cases effect with
  | stop s => exact (h.stopSession_rest s).1
  | _ => rfl

private theorem apply_issued (effect : Effect) : (h.apply c effect).issued = h.issued := by
  cases effect with
  | stop s => exact (h.stopSession_rest s).2.1
  | _ => rfl

private theorem apply_lifecycle (effect : Effect) :
    (h.apply c effect).lifecycle =
      match effect with
      | .lock => some c
      | .unlock => none
      | _ => h.lifecycle := by
  cases effect with
  | stop s => exact (h.stopSession_rest s).2.2.1
  | _ => rfl

theorem apply_session (effect : Effect) :
    (h.apply c effect).session =
      match effect with
      | .storeSession s => some s
      | .takeSession => none
      | _ => h.session := by
  cases effect with
  | stop s => exact (h.stopSession_rest s).2.2.2.1
  | _ => rfl

private theorem apply_closed (effect : Effect) :
    (h.apply c effect).closed =
      match effect with
      | .storeClosed => true
      | _ => h.closed := by
  cases effect with
  | stop s => exact (h.stopSession_rest s).2.2.2.2.1
  | _ => rfl

private theorem apply_registered (effect : Effect) :
    (h.apply c effect).registered =
      match effect with
      | .remove => false
      | _ => h.registered := by
  cases effect with
  | stop s => exact (h.stopSession_rest s).2.2.2.2.2.1
  | _ => rfl

theorem closed_stays (effect : Effect) (closed : h.closed = true) :
    (h.apply c effect).closed = true := by
  rw [apply_closed]
  split
  · rfl
  · exact closed

theorem apply_created (effect : Effect) :
    (h.apply c effect).created =
      match effect with
      | .startSession _ => h.created + 1
      | _ => h.created := by
  cases effect with
  | stop s => exact (h.stopSession_rest s).2.2.2.2.2.2.1
  | _ => rfl

theorem created_le (effect : Effect) : h.created ≤ (h.apply c effect).created := by
  rw [apply_created]
  split
  · exact Nat.le_succ _
  · exact Nat.le_refl _

/-! ### Live sessions -/

theorem live_stopSession (live : (h.stopSession s).Live r) : h.Live r ∧ r ≠ s := by
  unfold stopSession at live
  split at live
  · next ended =>
      refine ⟨live, ?_⟩
      rintro rfl
      rw [live.2] at ended
      contradiction
  · obtain ⟨known, opened⟩ := live
    by_cases same : r = s
    · subst same
      simp [setSession] at opened
    · refine ⟨⟨known, ?_⟩, same⟩
      simpa [setSession, same] using opened

theorem live_requestStop {stopping : Bool} :
    (h.setSession s { h.sessions s with stopping := stopping }).Live r ↔ h.Live r := by
  unfold Live
  by_cases same : r = s
  · subst same
    simp [setSession]
  · simp [setSession, same]

theorem live_apply (live : (h.apply c effect).Live s) :
    h.Live s ∨ s = h.created ∧ ∃ native, effect = .startSession native := by
  cases effect with
  | stop r => exact .inl (live_stopSession live).1
  | requestStop r => exact .inl (live_requestStop.mp live)
  | startSession native =>
      by_cases new : s = h.created
      · exact .inr ⟨new, native, rfl⟩
      · obtain ⟨known, opened⟩ := live
        have known : s < h.created + 1 := known
        refine .inl ⟨Nat.lt_of_le_of_ne (Nat.le_of_lt_succ known) new, ?_⟩
        simpa [apply, setSession, new] using opened
  | _ => exact .inl live

theorem busy_stopSession (busy : ∀ s, h.Live s → h.busy = true)
    (unique : ∀ s r, h.Live s → h.Live r → s = r) (known : s < h.created)
    (live : (h.stopSession s).Live r) : (h.stopSession s).busy = true := by
  obtain ⟨before, different⟩ := live_stopSession live
  unfold stopSession
  split
  · exact busy r before
  · next opened =>
      have same := unique r s before ⟨known, eq_false_of_ne_true opened⟩
      exact absurd same different

end Handle

/-! ### Turns -/

/-- A closed handle has nothing live, and no start on its way past the check. -/
structure Handle.Drained (h : Handle) : Prop where
  closed : h.closed = true
  dead : ∀ s, ¬ h.Live s
  barred : ∀ c call, h.calls c = some call → call.launching = false

structure Handle.Sound (h : Handle) : Prop where
  issued : ∀ c call, h.calls c = some call → c < h.issued
  gate : ∀ c call, h.calls c = some call → call.holds = true → h.lifecycle = some c
  known : ∀ c call s, h.calls c = some call → call.carries = some s → s < h.created
  shown : ∀ s, h.session = some s → s < h.created
  busy : ∀ s, h.Live s → h.busy = true
  unique : ∀ s r, h.Live s → h.Live r → s = r
  placed : ∀ s, h.Live s → h.session = some s ∨
    ∃ c call, h.calls c = some call ∧ call.carries = some s
  alone : ∀ c call s r, h.calls c = some call → call.carries = some r → h.Live s → s = r
  marked : ∀ c call, h.calls c = some call → call.marked = true → h.closed = true
  removed : h.registered = false → ∃ c call, h.calls c = some call ∧
    (call = .closeStore ∨ call.marked = true)
  drained : ∀ c call, h.calls c = some call → call.finished = true → h.Drained

theorem Call.carries_holds {call : Call} {s : SessionId} (carries : call.carries = some s) :
    call.holds = true := by
  unfold Call.carries at carries
  split at carries <;> first | rfl | contradiction

theorem Call.launching_holds {call : Call} (launching : call.launching = true) :
    call.holds = true := by
  unfold Call.launching at launching
  split at launching <;> first | rfl | contradiction

private theorem Call.finished_launching {call : Call} (finished : call.finished = true) :
    call.launching = false := by
  unfold Call.finished at finished
  split at finished <;> first | rfl | contradiction

namespace Handle.Sound

variable {j : CallId} {r : SessionId} {other : Call}

private theorem gate_step (sound : h.Sound) (at_call : h.calls c = some call)
    (made : h.next env call = some (after, effect))
    (found : ((h.apply c effect).setCall c after).calls j = some other)
    (holds : other.holds = true) :
    ((h.apply c effect).setCall c after).lifecycle = some j := by
  have edge := next_gateEdge made
  change (h.apply c effect).lifecycle = some j
  rw [Handle.apply_lifecycle]
  rcases Handle.setCall_some found with ⟨rfl, rfl⟩ | ⟨different, found⟩
  · have holding := edge.holding
    rw [holds] at holding
    cases effect <;>
      first
      | rfl
      | contradiction
      | exact sound.gate j call at_call holding.symm
  · rw [Handle.apply_calls] at found
    have theirs := sound.gate j other found holds
    cases effect with
    | lock =>
        rw [edge.locking rfl] at theirs
        contradiction
    | unlock =>
        rw [sound.gate c call at_call (edge.unlocking rfl)] at theirs
        exact absurd (Option.some.inj theirs).symm different
    | _ => exact theirs

theorem in_gate (sound : h.Sound) (at_call : h.calls c = some call) (holds : call.holds = true)
    (found : h.calls j = some other) (theirs : other.holds = true) : j = c := by
  have mine := sound.gate c call at_call holds
  rw [sound.gate j other found theirs] at mine
  exact Option.some.inj mine

theorem placed_here (sound : h.Sound) (at_call : h.calls c = some call) (holds : call.holds = true)
    (live : h.Live s) : h.session = some s ∨ call.carries = some s := by
  rcases sound.placed s live with shown | ⟨j, other, found, carries⟩
  · exact .inl shown
  · obtain rfl := sound.in_gate at_call holds found (Call.carries_holds carries)
    rw [at_call] at found
    obtain rfl := Option.some.inj found
    exact .inr carries

theorem starting_none (sound : h.Sound) (made : h.next env call = some (after, effect))
    {native : Bool}
    (starting : effect = .startSession native) (live : h.Live s) : False := by
  have free := ((next_sessionEdge made).starting native starting).1
  rw [sound.busy s live] at free
  contradiction

private theorem known_step (sound : h.Sound) (at_call : h.calls c = some call)
    (made : h.next env call = some (after, effect))
    (found : ((h.apply c effect).setCall c after).calls j = some other)
    (carries : other.carries = some s) :
    s < ((h.apply c effect).setCall c after).created := by
  have grows : h.created ≤ ((h.apply c effect).setCall c after).created := Handle.created_le effect
  rcases Handle.setCall_some found with ⟨rfl, rfl⟩ | ⟨_, found⟩
  · rcases (next_sessionEdge made).carried s carries with before | ⟨_, shown⟩ | ⟨native, rfl, rfl⟩
    · exact Nat.lt_of_lt_of_le (sound.known j call s at_call before) grows
    · exact Nat.lt_of_lt_of_le (sound.shown s shown) grows
    · exact Nat.lt_succ_self _
  · rw [Handle.apply_calls] at found
    exact Nat.lt_of_lt_of_le (sound.known j other s found carries) grows

private theorem shown_step (sound : h.Sound) (at_call : h.calls c = some call)
    (made : h.next env call = some (after, effect))
    (shown : ((h.apply c effect).setCall c after).session = some s) :
    s < ((h.apply c effect).setCall c after).created := by
  have grows : h.created ≤ ((h.apply c effect).setCall c after).created := Handle.created_le effect
  change (h.apply c effect).session = some s at shown
  rw [Handle.apply_session] at shown
  refine Nat.lt_of_lt_of_le ?_ grows
  cases effect with
  | storeSession r =>
      obtain rfl := Option.some.inj shown
      exact sound.known c call r at_call ((next_sessionEdge made).storing r rfl)
  | takeSession => contradiction
  | _ => exact sound.shown s shown

private theorem busy_step (sound : h.Sound) (at_call : h.calls c = some call)
    (made : h.next env call = some (after, effect)) (live : (h.apply c effect).Live s) :
    (h.apply c effect).busy = true := by
  cases effect with
  | stop r =>
      have known := sound.known c call r at_call ((next_sessionEdge made).stopping r rfl)
      exact Handle.busy_stopSession sound.busy sound.unique known live
  | startSession native => rfl
  | requestStop r => exact sound.busy s (Handle.live_requestStop.mp live)
  | _ => exact sound.busy s live

private theorem unique_step (sound : h.Sound) (made : h.next env call = some (after, effect))
    (live : (h.apply c effect).Live s) (also : (h.apply c effect).Live r) : s = r := by
  rcases Handle.live_apply live with before | ⟨new, native, starting⟩
  · rcases Handle.live_apply also with beside | ⟨_, native, starting⟩
    · exact sound.unique s r before beside
    · exact (sound.starting_none made starting before).elim
  · rcases Handle.live_apply also with beside | ⟨newer, _⟩
    · exact (sound.starting_none made starting beside).elim
    · rw [new, newer]

private theorem placed_step (sound : h.Sound) (at_call : h.calls c = some call)
    (made : h.next env call = some (after, effect)) (live : (h.apply c effect).Live s) :
    ((h.apply c effect).setCall c after).session = some s ∨
      ∃ j other, ((h.apply c effect).setCall c after).calls j = some other ∧
        other.carries = some s := by
  have edge := next_sessionEdge made
  change (h.apply c effect).session = some s ∨ _
  rw [Handle.apply_session]
  rcases Handle.live_apply live with before | ⟨rfl, native, starting⟩
  · have inside : call.holds = true → h.session = some s ∨ call.carries = some s :=
      fun holds => sound.placed_here at_call holds before
    have outside : (∀ r, effect ≠ .storeSession r) → (∀ r, effect ≠ .stop r) →
        h.session = some s ∨ ∃ j other, ((h.apply c effect).setCall c after).calls j = some other ∧
          other.carries = some s := by
      intro unstored unstopped
      rcases sound.placed s before with shown | ⟨j, other, found, carries⟩
      · exact .inl shown
      · by_cases same : j = c
        · subst same
          rw [at_call] at found
          obtain rfl := Option.some.inj found
          rcases (edge.carrying s carries).2 with kept | stored | stopped
          · exact .inr ⟨j, after, Handle.setCall_self, kept⟩
          · exact absurd stored (unstored s)
          · exact absurd stopped (unstopped s)
        · refine .inr ⟨j, other, ?_, carries⟩
          rw [Handle.setCall_other same, Handle.apply_calls, found]
    cases effect with
    | takeSession =>
        obtain ⟨holds, empty, taken⟩ := edge.taking rfl
        rcases inside holds with shown | carries
        · exact .inr ⟨c, after, Handle.setCall_self, taken.trans shown⟩
        · rw [empty] at carries
          contradiction
    | storeSession r =>
        have carries := edge.storing r rfl
        rw [sound.alone c call s r at_call carries before]
        exact .inl rfl
    | stop r =>
        have carries := edge.stopping r rfl
        obtain ⟨_, different⟩ := Handle.live_stopSession live
        exact absurd (sound.alone c call s r at_call carries before) different
    | _ => exact outside (by simp) (by simp)
  · obtain ⟨_, _, _, rfl⟩ := edge.starting native starting
    exact .inr ⟨c, _, Handle.setCall_self, rfl⟩

theorem alone_step (sound : h.Sound) (at_call : h.calls c = some call)
    (made : h.next env call = some (after, effect))
    (found : ((h.apply c effect).setCall c after).calls j = some other)
    (carries : other.carries = some r) (live : (h.apply c effect).Live s) : s = r := by
  have edge := next_sessionEdge made
  rcases Handle.setCall_some found with ⟨rfl, rfl⟩ | ⟨different, found⟩
  · rcases edge.carried r carries with before | ⟨rfl, shown⟩ | ⟨native, starting, new⟩
    · rcases Handle.live_apply live with earlier | ⟨_, native, starting⟩
      · exact sound.alone j call s r at_call before earlier
      · rw [(edge.starting native starting).2.2.1] at before
        contradiction
    · rcases Handle.live_apply live with earlier | ⟨_, native, starting⟩
      · obtain ⟨holds, empty, _⟩ := edge.taking rfl
        rcases sound.placed_here at_call holds earlier with here | carried
        · rw [shown] at here
          exact (Option.some.inj here).symm
        · rw [empty] at carried
          contradiction
      · contradiction
    · rcases Handle.live_apply live with earlier | ⟨newer, _⟩
      · exact (sound.starting_none made starting earlier).elim
      · rw [new, newer]
  · rw [Handle.apply_calls] at found
    rcases Handle.live_apply live with earlier | ⟨_, native, starting⟩
    · exact sound.alone j other s r found carries earlier
    · have holds := Call.launching_holds (edge.starting native starting).2.1
      exact absurd (sound.in_gate at_call holds found (Call.carries_holds carries)) different

private theorem marked_step (sound : h.Sound) (at_call : h.calls c = some call)
    (made : h.next env call = some (after, effect))
    (found : ((h.apply c effect).setCall c after).calls j = some other)
    (marked : other.marked = true) : (h.apply c effect).closed = true := by
  rcases Handle.setCall_some found with ⟨rfl, rfl⟩ | ⟨_, found⟩
  · rcases (next_sessionEdge made).marking marked with before | rfl
    · exact Handle.closed_stays _ (sound.marked j call at_call before)
    · rfl
  · rw [Handle.apply_calls] at found
    exact Handle.closed_stays _ (sound.marked j other found marked)

private theorem removed_step (sound : h.Sound) (at_call : h.calls c = some call)
    (made : h.next env call = some (after, effect))
    (gone : (h.apply c effect).registered = false) :
    ∃ j other, ((h.apply c effect).setCall c after).calls j = some other ∧
      (other = .closeStore ∨ other.marked = true) := by
  have edge := next_sessionEdge made
  have kept : h.registered = false → ∃ j other,
      ((h.apply c effect).setCall c after).calls j = some other ∧
        (other = .closeStore ∨ other.marked = true) := by
    intro before
    obtain ⟨j, other, found, removes⟩ := sound.removed before
    by_cases same : j = c
    · subst same
      rw [at_call] at found
      obtain rfl := Option.some.inj found
      exact ⟨j, after, Handle.setCall_self, .inr (edge.keeping removes)⟩
    · refine ⟨j, other, ?_, removes⟩
      rw [Handle.setCall_other same, Handle.apply_calls, found]
  rw [Handle.apply_registered] at gone
  cases effect with
  | remove =>
      rcases (edge.removing rfl).2 with ⟨_, rfl⟩ | ⟨before, _⟩
      · exact ⟨c, _, Handle.setCall_self, .inl rfl⟩
      · exact kept before
  | _ => exact kept gone

theorem drained_stays (at_call : h.calls c = some call)
    (made : h.next env call = some (after, effect)) (drained : h.Drained) :
    ((h.apply c effect).setCall c after).Drained where
  closed := Handle.closed_stays _ drained.closed
  dead s live := by
    rcases Handle.live_apply live with before | ⟨_, native, starting⟩
    · exact drained.dead s before
    · have launching := ((next_sessionEdge made).starting native starting).2.1
      rw [drained.barred c call at_call] at launching
      contradiction
  barred j other found := by
    rcases Handle.setCall_some found with ⟨rfl, rfl⟩ | ⟨_, found⟩
    · by_contra launching
      rcases (next_gateEdge made).launching (eq_true_of_ne_false launching) with
        before | ⟨_, _, opened⟩
      · rw [drained.barred j call at_call] at before
        contradiction
      · rw [drained.closed] at opened
        contradiction
    · rw [Handle.apply_calls] at found
      exact drained.barred j other found

theorem drained_here (sound : h.Sound) (at_call : h.calls c = some call)
    (made : h.next env call = some (after, effect)) (finished : after.finished = true)
    (marked : call.marked = true) (holds : call.holds = true)
    (dead : ∀ s, (h.apply c effect).Live s → False) :
    ((h.apply c effect).setCall c after).Drained where
  closed := Handle.closed_stays _ (sound.marked c call at_call marked)
  dead := dead
  barred j other found := by
    rcases Handle.setCall_some found with ⟨rfl, rfl⟩ | ⟨different, found⟩
    · exact Call.finished_launching finished
    · rw [Handle.apply_calls] at found
      by_contra launching
      have inside := Call.launching_holds (eq_true_of_ne_false launching)
      exact different (sound.in_gate at_call holds found inside)

private theorem drained_step (sound : h.Sound) (admitted : Orderly h (.run c env))
    (at_call : h.calls c = some call) (made : h.next env call = some (after, effect))
    (found : ((h.apply c effect).setCall c after).calls j = some other)
    (finished : other.finished = true) : ((h.apply c effect).setCall c after).Drained := by
  have edge := next_sessionEdge made
  rcases Handle.setCall_some found with ⟨rfl, rfl⟩ | ⟨_, found⟩
  · rcases edge.ending finished with before | ⟨rfl, rfl, empty⟩ | ⟨s, rfl, rfl⟩ | ⟨rfl, rfl, gone⟩
    · exact drained_stays at_call made (sound.drained j call at_call before)
    · refine sound.drained_here at_call made finished rfl rfl fun s live => ?_
      rcases sound.placed_here at_call rfl (show h.Live s from live) with shown | carries
      · rw [empty] at shown
        contradiction
      · contradiction
    · refine sound.drained_here at_call made finished rfl rfl fun r live => ?_
      obtain ⟨before, different⟩ := Handle.live_stopSession live
      exact different (sound.alone j _ r s at_call rfl before)
    · obtain ⟨k, remover, there, removes⟩ := sound.removed gone
      have quiet : remover.closing = false := by
        simp only [Orderly, orderly, at_call, gone, Bool.false_or, Handle.everyCall,
          List.all_eq_true, List.mem_range] at admitted
        have here := admitted k (sound.issued k remover there)
        simpa [there] using here
      have ended : remover.finished = true := by
        rcases removes with rfl | marked
        · contradiction
        · unfold Call.marked at marked
          split at marked
          · next pc => cases pc <;> first | rfl | contradiction
          · contradiction
      exact drained_stays at_call made (sound.drained k remover there ended)
  · rw [Handle.apply_calls] at found
    exact drained_stays at_call made (sound.drained j other found finished)

theorem access (sound : h.Sound) (admitted : Orderly h (.run c env))
    (at_call : h.calls c = some call) (made : h.next env call = some (after, effect)) :
    ((h.apply c effect).setCall c after).Sound where
  issued j other found := by
    change j < (h.apply c effect).issued
    rw [Handle.apply_issued]
    rcases Handle.setCall_some found with ⟨rfl, _⟩ | ⟨_, found⟩
    · exact sound.issued j call at_call
    · rw [Handle.apply_calls] at found
      exact sound.issued j other found
  gate j other found holds := sound.gate_step at_call made found holds
  known j other s found carries := sound.known_step at_call made found carries
  shown s shown := sound.shown_step at_call made shown
  busy s live := sound.busy_step at_call made live
  unique s r live also := sound.unique_step made live also
  placed s live := sound.placed_step at_call made live
  alone j other s r found carries live := sound.alone_step at_call made found carries live
  marked j other found marked := sound.marked_step at_call made found marked
  removed gone := sound.removed_step at_call made gone
  drained j other found finished := sound.drained_step admitted at_call made found finished

theorem settle (sound : h.Sound) (known : s < h.created) : (h.stopSession s).Sound := by
  obtain ⟨calls, issued, lifecycle, session, closed, registered, created, _, _⟩ :=
    h.stopSession_rest s
  constructor
  · rw [calls, issued]
    exact sound.issued
  · rw [calls, lifecycle]
    exact sound.gate
  · rw [calls, created]
    exact sound.known
  · rw [session, created]
    exact sound.shown
  · intro r live
    exact Handle.busy_stopSession sound.busy sound.unique known live
  · intro r q live also
    exact sound.unique r q (Handle.live_stopSession live).1 (Handle.live_stopSession also).1
  · intro r live
    rw [calls, session]
    exact sound.placed r (Handle.live_stopSession live).1
  · intro c call r q found carries live
    rw [calls] at found
    exact sound.alone c call r q found carries (Handle.live_stopSession live).1
  · rw [calls, closed]
    exact sound.marked
  · rw [calls, registered]
    exact sound.removed
  · intro c call found finished
    rw [calls] at found
    have drained := sound.drained c call found finished
    refine ⟨closed.trans drained.closed, ?_, ?_⟩
    · intro r live
      exact drained.dead r (Handle.live_stopSession live).1
    · rw [calls]
      exact drained.barred

theorem giveUp (sound : h.Sound) :
    (h.setSession s { h.sessions s with stopping := true }).Sound where
  issued := sound.issued
  gate := sound.gate
  known := sound.known
  shown := sound.shown
  busy r live := sound.busy r (Handle.live_requestStop.mp live)
  unique r q live also :=
    sound.unique r q (Handle.live_requestStop.mp live) (Handle.live_requestStop.mp also)
  placed r live := sound.placed r (Handle.live_requestStop.mp live)
  alone c call r q found carries live :=
    sound.alone c call r q found carries (Handle.live_requestStop.mp live)
  marked := sound.marked
  removed := sound.removed
  drained c call found finished := by
    have drained := sound.drained c call found finished
    refine ⟨drained.closed, ?_, drained.barred⟩
    intro r live
    exact drained.dead r (Handle.live_requestStop.mp live)

theorem entry (sound : h.Sound) {a : Action} (entry : a.call = some call) :
    { h.setCall h.issued call with issued := h.issued + 1 }.Sound := by
  have idle : call.holds = false ∧ call.carries = none ∧ call.marked = false ∧
      call.finished = false ∧ call.launching = false := by
    cases a <;> first | contradiction | (obtain rfl := Option.some.inj entry; simp [Call.holds,
      Call.carries, Call.marked, Call.finished, Call.launching])
  obtain ⟨holds, carries, marked, finished, launching⟩ := idle
  have earlier : ∀ {j other}, (h.setCall h.issued call).calls j = some other →
      other = call ∨ h.calls j = some other := by
    intro j other found
    rcases Handle.setCall_some found with ⟨_, same⟩ | ⟨_, before⟩
    · exact .inl same
    · exact .inr before
  have later : ∀ {j other}, h.calls j = some other →
      (h.setCall h.issued call).calls j = some other := by
    intro j other found
    rw [Handle.setCall_other (Nat.ne_of_lt (sound.issued j other found)), found]
  constructor
  · intro j other found
    change j < h.issued + 1
    rcases Handle.setCall_some found with ⟨rfl, _⟩ | ⟨_, before⟩
    · exact Nat.lt_succ_self _
    · exact Nat.lt_succ_of_lt (sound.issued j other before)
  · intro j other found inside
    rcases earlier found with rfl | before
    · rw [holds] at inside
      contradiction
    · exact sound.gate j other before inside
  · intro j other s found has
    rcases earlier found with rfl | before
    · rw [carries] at has
      contradiction
    · exact sound.known j other s before has
  · exact sound.shown
  · exact sound.busy
  · exact sound.unique
  · intro s live
    rcases sound.placed s live with shown | ⟨j, other, found, has⟩
    · exact .inl shown
    · exact .inr ⟨j, other, later found, has⟩
  · intro j other s r found has live
    rcases earlier found with rfl | before
    · rw [carries] at has
      contradiction
    · exact sound.alone j other s r before has live
  · intro j other found stored
    rcases earlier found with rfl | before
    · rw [marked] at stored
      contradiction
    · exact sound.marked j other before stored
  · intro gone
    obtain ⟨j, other, found, removes⟩ := sound.removed gone
    exact ⟨j, other, later found, removes⟩
  · intro j other found ended
    rcases earlier found with rfl | before
    · rw [finished] at ended
      contradiction
    · have drained := sound.drained j other before ended
      refine ⟨drained.closed, drained.dead, ?_⟩
      intro k next there
      rcases earlier there with rfl | before
      · exact launching
      · exact drained.barred k next before

theorem step (sound : h.Sound) {a : Action} (admitted : Orderly h a)
    (taken : h.step a = some h') : h'.Sound := by
  cases step_stepped taken with
  | access at_call made => exact sound.access admitted at_call made
  | giveUp known => exact sound.giveUp
  | settle known => exact sound.settle known
  | entry entry => exact sound.entry entry

theorem initially : Handle.Sound {} := by
  constructor <;> simp [Handle.Live]

theorem reachable (reached : machine.Reachable Orderly h) : h.Sound := by
  refine Lib.Machine.Reachable.invariant ?_ ?_ reached
  · rintro h rfl
    exact initially
  · intro h a h' admitted taken sound
    exact sound.step admitted taken

end Handle.Sound

theorem Handle.Sound.idle (sound : h.Sound) (idle : h.Idle) (live : h.Live s) :
    h.session = some s := by
  rcases sound.placed s live with shown | ⟨c, call, found, carries⟩
  · exact shown
  · have quiet := idle c call found
    unfold Call.carries at carries
    split at carries <;> contradiction

theorem Call.closed_finished {call : Call} (closed : call.closed = true) : call.finished = true := by
  unfold Call.closed at closed
  split at closed <;> first | rfl | contradiction

end CameraRs.Android
