/-
Requested control values.

The native call of `set_control` holds the `lifecycle` lock of its session. Its value is
recorded after the lock has been given back, so that records come in any order, and the
recovery loop may have replaced the camera in between. `applied` and `setter` follow what
the open camera was last told; the code has no such table.
-/

import CameraRs.Lib.Machine
import Mathlib.Logic.Function.Basic

namespace CameraRs.Session.Controls

abbrev CallId := Nat

/-- `set_control` and the task that `with_native` spawns for it. `unlock` and `record`
come after a native call, which has succeeded if the flag says so. -/
inductive SetControlPc
  | lock
  | operate
  | unlock (succeeded : Bool)
  | record
  | returned
deriving DecidableEq

def SetControlPc.holds : SetControlPc → Bool
  | .operate | .unlock _ => true
  | _ => false

/-- A dropped future leaves its spawned task running. -/
structure SetControl (Id Value : Type) where
  id : Id
  value : Value
  pc : SetControlPc := .lock
  dropped : Bool := false

/-- The recovery loop, as far as it holds the lock; `applyOptions` and `clear` follow a
reopen. -/
inductive RecoveryPc
  | idle
  | locked
  | applyOptions
  | clear
  | unlock
deriving DecidableEq

inductive Holder
  | call (k : CallId)
  | recovery
deriving DecidableEq

/-- How an attempt treats the camera: it is kept, it is closed and not opened again, or it
is opened again. -/
inductive Reopen
  | kept
  | failed
  | reopened

structure State (Id Value : Type) where
  lifecycle : Option Holder := none
  stopping : Bool := false
  current : Bool := true
  requested : Id → Option Value := fun _ => none
  applied : Id → Option Value := fun _ => none
  setter : Id → Option CallId := fun _ => none
  recovery : RecoveryPc := .idle
  issued : Nat := 0
  calls : CallId → Option (SetControl Id Value) := fun _ => none

/-- `accepted` is the answer of the native call, or of the backend options. -/
inductive Action (Id Value : Type)
  | setControl (id : Id) (value : Value)
  | run (k : CallId) (accepted : Bool)
  | drop (k : CallId)
  | recover (reopen : Reopen) (accepted : Bool)
  | requestStop

variable {Id Value : Type}

namespace State

def setCall (s : State Id Value) (k : CallId) (call : SetControl Id Value) : State Id Value :=
  { s with calls := Function.update s.calls k (some call) }

/-- The native call, which fails without a camera or once the session is stopping. -/
def operate [DecidableEq Id] (s : State Id Value) (k : CallId) (call : SetControl Id Value)
    (accepted : Bool) : State Id Value :=
  if s.stopping = false ∧ s.current ∧ accepted then
    { s.setCall k { call with pc := .unlock true } with
      applied := Function.update s.applied call.id (some call.value)
      setter := Function.update s.setter call.id (some k) }
  else s.setCall k { call with pc := .unlock false }

def setControlStep [DecidableEq Id] (s : State Id Value) (k : CallId) (call : SetControl Id Value)
    (accepted : Bool) : Option (State Id Value) :=
  match call.pc with
  | .lock =>
      if s.lifecycle.isNone then
        some { s.setCall k { call with pc := .operate } with lifecycle := some (.call k) }
      else none
  | .operate => some (s.operate k call accepted)
  | .unlock succeeded =>
      let pc := if succeeded ∧ call.dropped = false then .record else .returned
      some { s.setCall k { call with pc := pc } with lifecycle := none }
  | .record =>
      some { s.setCall k { call with pc := .returned } with
        requested := Function.update s.requested call.id (some call.value) }
  | .returned => none

def drop (s : State Id Value) (k : CallId) (call : SetControl Id Value) : State Id Value :=
  match call.pc with
  | .record => s.setCall k { call with pc := .returned, dropped := true }
  | _ => s.setCall k { call with dropped := true }

/-- `NativeSource::reopen` replaces the camera. The recorded values go only after its
backend options have been applied. -/
def reopen (s : State Id Value) : Reopen → State Id Value
  | .kept => { s with recovery := .unlock }
  | .failed => { s with current := false, recovery := .unlock }
  | .reopened =>
      { s with
        current := true
        applied := fun _ => none
        setter := fun _ => none
        recovery := .applyOptions }

def recoverStep (s : State Id Value) (outcome : Reopen) (accepted : Bool) :
    Option (State Id Value) :=
  match s.recovery with
  | .idle =>
      if s.stopping = false ∧ s.lifecycle.isNone then
        some { s with recovery := .locked, lifecycle := some .recovery }
      else none
  | .locked =>
      if s.stopping then some { s with recovery := .unlock }
      else some (s.reopen outcome)
  | .applyOptions => some { s with recovery := if accepted then .clear else .unlock }
  | .clear => some { s with requested := fun _ => none, recovery := .unlock }
  | .unlock => some { s with recovery := .idle, lifecycle := none }

def step [DecidableEq Id] (s : State Id Value) : Action Id Value → Option (State Id Value)
  | .setControl id value =>
      some { s.setCall s.issued { id := id, value := value } with issued := s.issued + 1 }
  | .run k accepted =>
      match s.calls k with
      | none => none
      | some call => s.setControlStep k call accepted
  | .drop k => (s.calls k).map fun call => s.drop k call
  | .recover outcome accepted => s.recoverStep outcome accepted
  | .requestStop => some { s with stopping := true }

end State

def machine (Id Value : Type) [DecidableEq Id] :
    Lib.Machine (State Id Value) (Action Id Value) where
  initial s := s = {}
  step := State.step

/-! ### Values on their way to the table -/

/-- Past its native call and yet to record. -/
def SetControl.between (call : SetControl Id Value) : Bool :=
  !call.dropped && (decide (call.pc = .unlock true) || decide (call.pc = .record))

/-- Whoever made the last native call for `id` has yet to record. -/
def State.lastBetween (s : State Id Value) (id : Id) : Bool :=
  match s.setter id with
  | some k => (s.calls k).any SetControl.between
  | none => false

/-- The camera has been replaced and the values of the old one are still in the table. -/
def State.replacing (s : State Id Value) : Bool :=
  decide (s.recovery = .applyOptions) || decide (s.recovery = .clear)

/-- A value is recorded by the call that the camera heard last for its control, or while
that call has yet to record, or while the table is about to be cleared; no future is
dropped once its value is the last; and options are refused only while nothing is
recorded. -/
def Ordered (s : State Id Value) : Action Id Value → Prop
  | .run k accepted => ∀ call, s.calls k = some call →
      (call.pc = .record → s.replacing = true ∨ s.setter call.id = some k ∨
        s.lastBetween call.id = true) ∧
      (call.pc = .operate → call.dropped = true → s.stopping = false → s.current = true →
        accepted = false)
  | .drop k => ∀ call, s.calls k = some call → call.between = true → s.setter call.id ≠ some k
  | .recover _ accepted =>
      s.recovery = .applyOptions → accepted = false → ∀ id, s.requested id = none
  | _ => True

variable {s s' : State Id Value} {k j : CallId} {call other : SetControl Id Value} {id : Id}

namespace State

theorem setCall_self : (s.setCall k call).calls k = some call := Function.update_self ..

theorem setCall_other (different : j ≠ k) : (s.setCall k call).calls j = s.calls j :=
  Function.update_of_ne different ..

/-- Who was heard last is a call for that control, and the camera has its value. -/
def Owned (s : State Id Value) : Prop :=
  ∀ id k, s.setter id = some k → ∃ call, s.calls k = some call ∧ call.id = id ∧
    s.applied id = some call.value

/-- The table shows what the camera was last told, or is about to. -/
def Agrees (s : State Id Value) : Prop :=
  ∀ id, s.lastBetween id = true ∨ s.requested id = s.applied id

structure Sound (s : State Id Value) : Prop where
  owned : s.Owned
  agrees : s.replacing = false → s.Agrees
  untold : s.replacing = true → ∀ id, s.applied id = none

def Issued (s : State Id Value) : Prop := ∀ k call, s.calls k = some call → k < s.issued

theorem Issued.move (issued : s.Issued) (found : s.calls k = some call)
    {later : SetControl Id Value} : (s.setCall k later).Issued := by
  intro j other there
  by_cases mine : j = k
  · rw [mine]
    exact issued k call found
  · rw [setCall_other mine] at there
    exact issued j other there

theorem Issued.setControlStep [DecidableEq Id] (issued : s.Issued)
    (found : s.calls k = some call) {accepted : Bool}
    (taken : s.setControlStep k call accepted = some s') : s'.Issued := by
  unfold State.setControlStep at taken
  split at taken
  · split at taken
    · obtain rfl := Option.some.inj taken
      exact issued.move found
    · contradiction
  · obtain rfl := Option.some.inj taken
    unfold State.operate
    split
    · exact @Issued.move _ _ s k call issued found { call with pc := .unlock true }
    · exact issued.move found
  · obtain rfl := Option.some.inj taken
    exact issued.move found
  · obtain rfl := Option.some.inj taken
    exact issued.move found
  · contradiction

theorem Issued.recover (issued : s.Issued) {outcome : Reopen} {accepted : Bool}
    (taken : s.recoverStep outcome accepted = some s') : s'.Issued := by
  unfold recoverStep at taken
  split at taken
  · split at taken
    · obtain rfl := Option.some.inj taken
      exact issued
    · contradiction
  · split at taken
    · obtain rfl := Option.some.inj taken
      exact issued
    · obtain rfl := Option.some.inj taken
      cases outcome with
      | kept => exact issued
      | failed => exact issued
      | reopened => exact issued
  · obtain rfl := Option.some.inj taken
    exact issued
  · obtain rfl := Option.some.inj taken
    exact issued
  · obtain rfl := Option.some.inj taken
    exact issued

theorem Issued.step [DecidableEq Id] {action : Action Id Value} (issued : s.Issued)
    (taken : s.step action = some s') : s'.Issued := by
  cases action with
  | setControl id value =>
      obtain rfl := Option.some.inj taken
      intro j other there
      change (s.setCall s.issued _).calls j = some other at there
      by_cases mine : j = s.issued
      · exact mine ▸ Nat.lt_succ_self _
      · rw [setCall_other mine] at there
        exact Nat.lt_succ_of_lt (issued j other there)
  | run k accepted =>
      cases found : s.calls k with
      | none => simp [State.step, found] at taken
      | some call =>
          simp only [State.step, found] at taken
          exact issued.setControlStep found taken
  | drop k =>
      cases found : s.calls k with
      | none => simp [State.step, found] at taken
      | some call =>
          simp only [State.step, found, Option.map_some] at taken
          obtain rfl := Option.some.inj taken
          unfold State.drop
          split
          · exact issued.move found
          · exact issued.move found
  | recover outcome accepted => exact issued.recover taken
  | requestStop =>
      obtain rfl := Option.some.inj taken
      exact issued

theorem reachable_issued [DecidableEq Id] {admits : State Id Value → Action Id Value → Prop}
    (reached : (machine Id Value).Reachable admits s) : s.Issued :=
  reached.invariant
    (fun state start k call found => by
      rw [show state = {} from start] at found
      contradiction)
    fun state action next _ taken issued => issued.step taken

structure Locked (s : State Id Value) : Prop where
  call : ∀ k call, s.calls k = some call → call.pc.holds = true → s.lifecycle = some (.call k)
  recovery : s.recovery ≠ .idle → s.lifecycle = some .recovery

theorem Locked.move (locked : s.Locked) (found : s.calls k = some call)
    {later : SetControl Id Value} (holds : later.pc.holds = true → call.pc.holds = true) :
    (s.setCall k later).Locked := by
  refine ⟨fun j other there held => ?_, locked.recovery⟩
  by_cases mine : j = k
  · subst mine
    rw [setCall_self] at there
    obtain rfl := Option.some.inj there
    exact locked.call j call found (holds held)
  · rw [setCall_other mine] at there
    exact locked.call j other there held

theorem Locked.settled (locked : s.Locked) (found : s.calls k = some call)
    (holds : call.pc.holds = true) : s.replacing = false := by
  by_contra window
  have held := locked.call k call found holds
  rw [locked.recovery (by rintro idle; simp [replacing, idle] at window)] at held
  cases held

theorem Locked.setControlStep [DecidableEq Id] (locked : s.Locked)
    (found : s.calls k = some call) {accepted : Bool}
    (taken : s.setControlStep k call accepted = some s') : s'.Locked := by
  unfold State.setControlStep at taken
  cases at_pc : call.pc with
  | lock =>
      simp only [at_pc] at taken
      split at taken
      · next free =>
          obtain rfl := Option.some.inj taken
          constructor
          · intro j other there held
            change (s.setCall k _).calls j = some other at there
            by_cases mine : j = k
            · rw [mine]
            · rw [setCall_other mine] at there
              rw [locked.call j other there held] at free
              contradiction
          · intro busy
            rw [locked.recovery busy] at free
            contradiction
      · contradiction
  | operate =>
      have holds : call.pc.holds = true := by simp [at_pc, SetControlPc.holds]
      simp only [at_pc] at taken
      obtain rfl := Option.some.inj taken
      unfold State.operate
      split
      · have moved := @Locked.move _ _ s k call locked found
          { call with pc := .unlock true } fun _ => holds
        exact ⟨moved.call, moved.recovery⟩
      · exact locked.move found fun _ => holds
  | unlock succeeded =>
      have mine := locked.call k call found (by simp [at_pc, SetControlPc.holds])
      simp only [at_pc] at taken
      obtain rfl := Option.some.inj taken
      constructor
      · intro j other there held
        change (s.setCall k _).calls j = some other at there
        by_cases same : j = k
        · subst same
          rw [setCall_self] at there
          obtain rfl := Option.some.inj there
          change SetControlPc.holds (if _ then _ else _) = true at held
          split at held <;> contradiction
        · rw [setCall_other same] at there
          rw [locked.call j other there held] at mine
          exact absurd (Holder.call.inj (Option.some.inj mine)) same
      · intro busy
        rw [locked.recovery busy] at mine
        cases mine
  | record =>
      simp only [at_pc] at taken
      obtain rfl := Option.some.inj taken
      have moved := @Locked.move _ _ s k call locked found { call with pc := .returned } nofun
      exact ⟨moved.call, moved.recovery⟩
  | returned => simp [at_pc] at taken

theorem Locked.recover (locked : s.Locked) {outcome : Reopen} {accepted : Bool}
    (taken : s.recoverStep outcome accepted = some s') : s'.Locked := by
  unfold recoverStep at taken
  cases at_pc : s.recovery with
  | idle =>
      simp only [at_pc] at taken
      split at taken
      · next free =>
          obtain rfl := Option.some.inj taken
          refine ⟨fun j other there held => ?_, fun _ => rfl⟩
          rw [locked.call j other there held] at free
          exact absurd free.2 Bool.false_ne_true
      · contradiction
  | locked =>
      have held := locked.recovery (by simp [at_pc])
      simp only [at_pc] at taken
      split at taken
      · obtain rfl := Option.some.inj taken
        exact ⟨locked.call, fun _ => held⟩
      · obtain rfl := Option.some.inj taken
        cases outcome with
        | kept => exact ⟨locked.call, fun _ => held⟩
        | failed => exact ⟨locked.call, fun _ => held⟩
        | reopened => exact ⟨locked.call, fun _ => held⟩
  | applyOptions =>
      have held := locked.recovery (by simp [at_pc])
      simp only [at_pc] at taken
      obtain rfl := Option.some.inj taken
      exact ⟨locked.call, fun _ => held⟩
  | clear =>
      have held := locked.recovery (by simp [at_pc])
      simp only [at_pc] at taken
      obtain rfl := Option.some.inj taken
      exact ⟨locked.call, fun _ => held⟩
  | unlock =>
      have mine := locked.recovery (by simp [at_pc])
      simp only [at_pc] at taken
      obtain rfl := Option.some.inj taken
      refine ⟨fun j other there held => ?_, fun busy => absurd rfl busy⟩
      rw [locked.call j other there held] at mine
      cases mine

theorem Locked.step [DecidableEq Id] {action : Action Id Value} (locked : s.Locked)
    (taken : s.step action = some s') : s'.Locked := by
  cases action with
  | setControl id value =>
      obtain rfl := Option.some.inj taken
      refine ⟨fun j other there held => ?_, locked.recovery⟩
      change (s.setCall s.issued _).calls j = some other at there
      by_cases mine : j = s.issued
      · rw [mine, setCall_self] at there
        obtain rfl := Option.some.inj there
        contradiction
      · rw [setCall_other mine] at there
        exact locked.call j other there held
  | run k accepted =>
      cases found : s.calls k with
      | none => simp [State.step, found] at taken
      | some call =>
          simp only [State.step, found] at taken
          exact locked.setControlStep found taken
  | drop k =>
      cases found : s.calls k with
      | none => simp [State.step, found] at taken
      | some call =>
          simp only [State.step, found, Option.map_some] at taken
          obtain rfl := Option.some.inj taken
          unfold State.drop
          split
          · exact locked.move found nofun
          · exact locked.move found id
  | recover outcome accepted => exact locked.recover taken
  | requestStop =>
      obtain rfl := Option.some.inj taken
      exact ⟨locked.call, locked.recovery⟩

private theorem reachable_locked [DecidableEq Id] {admits : State Id Value → Action Id Value → Prop}
    (reached : (machine Id Value).Reachable admits s) : s.Locked :=
  reached.invariant
    (fun state start => by
      rw [show state = {} from start]
      exact ⟨fun _ _ found => by contradiction, fun busy => absurd rfl busy⟩)
    fun state action next _ taken locked => locked.step taken

theorem lastBetween_some (last : s.lastBetween id = true) :
    ∃ k call, s.setter id = some k ∧ s.calls k = some call ∧ call.between = true := by
  unfold lastBetween at last
  split at last
  · next k heard =>
      obtain ⟨call, found, between⟩ := (Option.any_eq_true _ _).mp last
      exact ⟨k, call, heard, found, between⟩
  · contradiction

theorem lastBetween_of (heard : s.setter id = some k) (found : s.calls k = some call)
    (between : call.between = true) : s.lastBetween id = true := by
  simp [lastBetween, heard, found, between]

theorem Sound.move (sound : s.Sound) (found : s.calls k = some call) {later : SetControl Id Value}
    {lifecycle : Option Holder} (same : later.id = call.id ∧ later.value = call.value)
    (between : call.between = true → later.between = true ∨ s.setter call.id ≠ some k) :
    { s.setCall k later with lifecycle := lifecycle }.Sound := by
  refine ⟨?_, ?_, sound.untold⟩
  · intro id j heard
    obtain ⟨other, there, named, applied⟩ := sound.owned id j heard
    by_cases mine : j = k
    · subst mine
      rw [found] at there
      obtain rfl := Option.some.inj there
      exact ⟨later, setCall_self, same.1.trans named, applied.trans (by rw [same.2])⟩
    · refine ⟨other, ?_, named, applied⟩
      change (s.setCall k later).calls j = some other
      rw [setCall_other mine, there]
  · intro settled id
    rcases sound.agrees settled id with last | agree
    · obtain ⟨j, other, heard, there, yet⟩ := lastBetween_some last
      refine .inl ?_
      by_cases mine : j = k
      · subst mine
        rw [found] at there
        obtain rfl := Option.some.inj there
        obtain ⟨owner, owned, named, _⟩ := sound.owned id j heard
        rw [found] at owned
        obtain rfl := Option.some.inj owned
        rcases between yet with still | different
        · exact lastBetween_of heard setCall_self still
        · rw [named] at different
          exact absurd heard different
      · refine @lastBetween_of _ _ { s.setCall k later with lifecycle := lifecycle } j other id
          heard ?_ yet
        change (s.setCall k later).calls j = some other
        rw [setCall_other mine, there]
    · exact .inr agree

theorem Sound.reopen (sound : s.Sound) (settled : s.replacing = false) (outcome : Reopen) :
    (s.reopen outcome).Sound := by
  cases outcome with
  | kept => exact ⟨sound.owned, fun _ => sound.agrees settled, nofun⟩
  | failed => exact ⟨sound.owned, fun _ => sound.agrees settled, nofun⟩
  | reopened => exact ⟨fun _ _ heard => by contradiction, nofun, fun _ _ => rfl⟩

theorem Sound.recover (sound : s.Sound) {outcome : Reopen} {accepted : Bool}
    (admitted : Ordered s (.recover outcome accepted))
    (taken : s.recoverStep outcome accepted = some s') : s'.Sound := by
  unfold recoverStep at taken
  cases at_pc : s.recovery with
  | idle =>
      simp only [at_pc] at taken
      split at taken
      · obtain rfl := Option.some.inj taken
        exact ⟨sound.owned, fun _ => sound.agrees (by simp [replacing, at_pc]), nofun⟩
      · contradiction
  | locked =>
      have settled : s.replacing = false := by simp [replacing, at_pc]
      simp only [at_pc] at taken
      split at taken
      · obtain rfl := Option.some.inj taken
        exact ⟨sound.owned, fun _ => sound.agrees settled, nofun⟩
      · obtain rfl := Option.some.inj taken
        exact sound.reopen settled outcome
  | applyOptions =>
      have untold := sound.untold (by simp [replacing, at_pc])
      simp only [at_pc] at taken
      obtain rfl := Option.some.inj taken
      cases accepted with
      | true => exact ⟨sound.owned, nofun, fun _ => untold⟩
      | false =>
          -- the table keeps what it has, which is nothing
          refine ⟨sound.owned, fun _ id => .inr ?_, nofun⟩
          exact (admitted at_pc rfl id).trans (untold id).symm
  | clear =>
      have untold := sound.untold (by simp [replacing, at_pc])
      simp only [at_pc] at taken
      obtain rfl := Option.some.inj taken
      exact ⟨sound.owned, fun _ id => .inr (untold id).symm, nofun⟩
  | unlock =>
      simp only [at_pc] at taken
      obtain rfl := Option.some.inj taken
      exact ⟨sound.owned, fun _ => sound.agrees (by simp [replacing, at_pc]), nofun⟩

theorem Sound.drop (sound : s.Sound) (found : s.calls k = some call)
    (admitted : Ordered s (.drop k)) : (s.drop k call).Sound := by
  unfold State.drop
  split
  · exact sound.move found ⟨rfl, rfl⟩ fun between => .inr (admitted call found between)
  · exact sound.move found ⟨rfl, rfl⟩ fun between => .inr (admitted call found between)

theorem Sound.operate [DecidableEq Id] (sound : s.Sound) (settled : s.replacing = false)
    (found : s.calls k = some call) (at_pc : call.pc = .operate) {accepted : Bool}
    (admitted : Ordered s (.run k accepted)) : (s.operate k call accepted).Sound := by
  unfold State.operate
  split
  · next succeeds =>
      have undropped : call.dropped = false := by
        by_contra dropped
        have refused := (admitted call found).2 at_pc (eq_true_of_ne_false dropped)
          succeeds.1 succeeds.2.1
        rw [refused] at succeeds
        exact absurd succeeds.2.2 Bool.false_ne_true
      have moved := @Sound.move _ _ s k call sound found { call with pc := .unlock true }
        s.lifecycle ⟨rfl, rfl⟩ fun _ => .inl (by simp [SetControl.between, undropped])
      refine ⟨?_, ?_, fun window => ?_⟩
      · intro id j heard
        change Function.update s.setter call.id (some k) id = some j at heard
        change ∃ other, (s.setCall k { call with pc := .unlock true }).calls j = some other ∧
          other.id = id ∧ Function.update s.applied call.id (some call.value) id = some other.value
        by_cases same : id = call.id
        · subst same
          rw [Function.update_self] at heard
          obtain rfl := Option.some.inj heard
          exact ⟨_, setCall_self, rfl, Function.update_self ..⟩
        · rw [Function.update_of_ne same] at heard
          rw [Function.update_of_ne same]
          exact moved.owned id j heard
      · intro _ id
        change lastBetween _ id = true ∨
          s.requested id = Function.update s.applied call.id (some call.value) id
        by_cases same : id = call.id
        · subst same
          refine .inl (lastBetween_of (Function.update_self ..) setCall_self ?_)
          simp [SetControl.between, undropped]
        · rw [Function.update_of_ne same]
          rcases moved.agrees settled id with last | agree
          · obtain ⟨j, other, heard, there, yet⟩ := lastBetween_some last
            refine .inl (lastBetween_of ?_ there yet)
            exact (Function.update_of_ne same ..).trans heard
          · exact .inr agree
      · change s.replacing = true at window
        rw [settled] at window
        contradiction
  · exact @Sound.move _ _ s k call sound found { call with pc := .unlock false } s.lifecycle
      ⟨rfl, rfl⟩ fun between => by simp [SetControl.between, at_pc] at between

theorem Owned.same (owned : s.Owned) (found : s.calls k = some call)
    (heard : s.setter id = some k) : call.id = id ∧ s.applied id = some call.value := by
  obtain ⟨other, there, named, applied⟩ := owned id k heard
  rw [found] at there
  obtain rfl := Option.some.inj there
  exact ⟨named, applied⟩

theorem Sound.record [DecidableEq Id] (sound : s.Sound) (found : s.calls k = some call)
    (last : s.replacing = true ∨ s.setter call.id = some k ∨ s.lastBetween call.id = true) :
    { s.setCall k { call with pc := .returned } with
      requested := Function.update s.requested call.id (some call.value) }.Sound := by
  have kept : ∀ id, s.lastBetween id = true → s.setter id = some k ∨
      (s.setCall k { call with pc := .returned }).lastBetween id = true := by
    intro id yet
    obtain ⟨j, other, heard, there, between⟩ := lastBetween_some yet
    by_cases mine : j = k
    · exact .inl (heard.trans (by rw [mine]))
    · exact .inr (lastBetween_of heard ((setCall_other mine).trans there) between)
  refine ⟨?_, ?_, sound.untold⟩
  · intro id j heard
    by_cases mine : j = k
    · rw [mine] at heard ⊢
      obtain ⟨named, applied⟩ := sound.owned.same found heard
      exact ⟨_, setCall_self, named, applied⟩
    · obtain ⟨other, there, named, applied⟩ := sound.owned id j heard
      exact ⟨other, (setCall_other mine).trans there, named, applied⟩
  · intro settled id
    change s.replacing = false at settled
    have agrees := sound.agrees settled
    change _ ∨ Function.update s.requested call.id (some call.value) id = s.applied id
    by_cases same : id = call.id
    · subst same
      rw [Function.update_self]
      rcases last with window | mine | yet
      · rw [settled] at window
        contradiction
      · exact .inr (sound.owned.same found mine).2.symm
      · rcases kept call.id yet with mine | still
        · exact .inr (sound.owned.same found mine).2.symm
        · exact .inl still
    · rw [Function.update_of_ne same]
      rcases agrees id with yet | agree
      · rcases kept id yet with mine | still
        · exact absurd (sound.owned.same found mine).1.symm same
        · exact .inl still
      · exact .inr agree

theorem Sound.setControlStep [DecidableEq Id] (sound : s.Sound) (locked : s.Locked)
    (found : s.calls k = some call) {accepted : Bool} (admitted : Ordered s (.run k accepted))
    (taken : s.setControlStep k call accepted = some s') : s'.Sound := by
  unfold State.setControlStep at taken
  cases at_pc : call.pc with
  | lock =>
      simp only [at_pc] at taken
      split at taken
      · obtain rfl := Option.some.inj taken
        exact sound.move found ⟨rfl, rfl⟩ fun between => by
          simp [SetControl.between, at_pc] at between
      · contradiction
  | operate =>
      simp only [at_pc] at taken
      obtain rfl := Option.some.inj taken
      exact sound.operate (locked.settled found (by simp [at_pc, SetControlPc.holds])) found
        at_pc admitted
  | unlock succeeded =>
      simp only [at_pc] at taken
      obtain rfl := Option.some.inj taken
      refine sound.move found ⟨rfl, rfl⟩ fun between => .inl ?_
      cases succeeded with
      | false => simp [SetControl.between, at_pc] at between
      | true =>
          have undropped : call.dropped = false := by
            simpa [SetControl.between, at_pc] using between
          simp [SetControl.between, undropped]
  | record =>
      simp only [at_pc] at taken
      obtain rfl := Option.some.inj taken
      exact sound.record found ((admitted call found).1 at_pc)
  | returned => simp [at_pc] at taken

theorem Sound.setControl (sound : s.Sound) (issued : s.Issued) {value : Value} :
    { s.setCall s.issued { id := id, value := value } with issued := s.issued + 1 }.Sound := by
  have fresh : ∀ {j other}, s.calls j = some other → j ≠ s.issued := fun there =>
    Nat.ne_of_lt (issued _ _ there)
  refine ⟨?_, ?_, sound.untold⟩
  · intro id j heard
    obtain ⟨other, there, named, applied⟩ := sound.owned id j heard
    exact ⟨other, (setCall_other (fresh there)).trans there, named, applied⟩
  · intro settled id
    refine (sound.agrees settled id).imp_left fun yet => ?_
    obtain ⟨j, other, heard, there, between⟩ := lastBetween_some yet
    exact @lastBetween_of _ _ { s.setCall s.issued _ with issued := s.issued + 1 } j other id
      heard ((setCall_other (fresh there)).trans there) between

theorem Sound.step [DecidableEq Id] {action : Action Id Value} (sound : s.Sound)
    (issued : s.Issued) (locked : s.Locked) (admitted : Ordered s action)
    (taken : s.step action = some s') : s'.Sound := by
  cases action with
  | setControl id value =>
      obtain rfl := Option.some.inj taken
      exact sound.setControl issued
  | run k accepted =>
      cases found : s.calls k with
      | none => simp [State.step, found] at taken
      | some call =>
          simp only [State.step, found] at taken
          exact sound.setControlStep locked found admitted taken
  | drop k =>
      cases found : s.calls k with
      | none => simp [State.step, found] at taken
      | some call =>
          simp only [State.step, found, Option.map_some] at taken
          obtain rfl := Option.some.inj taken
          exact sound.drop found admitted
  | recover outcome accepted => exact sound.recover admitted taken
  | requestStop =>
      obtain rfl := Option.some.inj taken
      exact ⟨sound.owned, sound.agrees, sound.untold⟩

theorem Sound.initial : ({} : State Id Value).Sound :=
  ⟨fun id k heard => by contradiction, fun _ id => .inr rfl, nofun⟩

theorem reachable_sound [DecidableEq Id] (reached : (machine Id Value).Reachable Ordered s) :
    s.Sound := by
  have known : ∀ state, (machine Id Value).Reachable Ordered state →
      state.Issued ∧ state.Locked := fun state reached =>
    ⟨reachable_issued reached, reachable_locked reached⟩
  refine Lib.Machine.Reachable.invariant_under known ?_ ?_ reached
  · intro state start
    rw [show state = {} from start]
    exact Sound.initial
  · intro state action next admitted known _ taken sound
    exact sound.step known.1 known.2 admitted taken

end State

/-- While every step is ordered and no value is on its way to the table, the table shows for
each control what the open camera was last told; between a reopen and the clearing of the
table, when the camera has been told nothing, it does so just in case it is empty. -/
theorem readback_agrees [DecidableEq Id] (reached : (machine Id Value).Reachable Ordered s)
    (quiet : ∀ k call, s.calls k = some call → call.between = false) :
    (∀ id, s.requested id = s.applied id) ↔
      s.replacing = false ∨ ∀ id, s.requested id = none := by
  have sound := State.reachable_sound reached
  cases window : s.replacing with
  | true =>
      have untold := sound.untold window
      constructor
      · intro agrees
        exact .inr fun id => (agrees id).trans (untold id)
      · intro empty id
        exact (empty.resolve_left nofun id).trans (untold id).symm
  | false =>
      refine ⟨fun _ => .inl rfl, fun _ id => ?_⟩
      rcases sound.agrees window id with yet | agree
      · obtain ⟨k, call, -, found, between⟩ := State.lastBetween_some yet
        rw [quiet k call found] at between
        contradiction
      · exact agree

/-- No recorded value is overtaken, no future dropped, no option refused. -/
def inTurn (s : State Nat Nat) : Action Nat Nat → Bool
  | .run k _ => (s.calls k).all fun call =>
      !call.dropped && (decide (call.pc ≠ .record) || decide (s.setter call.id = some k))
  | .drop _ => false
  | .recover _ accepted => accepted
  | _ => true

private theorem ordered_of_inTurn {s : State Nat Nat} {action : Action Nat Nat}
    (allowed : inTurn s action = true) : Ordered s action := by
  cases action with
  | run k accepted =>
      intro call found
      simp only [inTurn, found, Option.all_some, Bool.and_eq_true, Bool.not_eq_true',
        Bool.or_eq_true, decide_eq_true_eq] at allowed
      constructor
      · intro at_pc
        exact .inr (.inl (allowed.2.resolve_left (not_not_intro at_pc)))
      · intro _ dropped
        rw [allowed.1] at dropped
        contradiction
  | drop k => contradiction
  | recover outcome accepted =>
      intro _ refused
      rw [refused] at allowed
      contradiction
  | setControl id value => trivial
  | requestStop => trivial

/-- No call issued so far has a value on its way. -/
def State.quiet (s : State Id Value) : Bool :=
  (List.range s.issued).all fun k => !(s.calls k).any SetControl.between

theorem State.Issued.quiet (issued : s.Issued) (quiet : s.quiet = true) (k : CallId)
    (call : SetControl Id Value) (found : s.calls k = some call) : call.between = false := by
  have none_between := List.all_eq_true.mp quiet k (List.mem_range.mpr (issued k call found))
  simpa [found] using none_between

/-- Tell the camera one value, let it be replaced, and tell it another one. -/
def toldTwice : List (Action Nat Nat) :=
  .setControl 0 5 :: List.replicate 4 (Action.run 0 true) ++
  List.replicate 5 (Action.recover .reopened true) ++
  .setControl 0 7 :: List.replicate 4 (Action.run 1 true)

theorem readback_agrees_toldTwice :
    ∃ s, (machine Nat Nat).Reachable Ordered s ∧ s.requested 0 = some 7 ∧
      ∀ id, s.requested id = s.applied id := by
  have passed : (((machine Nat Nat).exec inTurn {} toldTwice).any fun s =>
      s.quiet && !s.replacing && decide (s.requested 0 = some 7)) = true := by decide +kernel
  obtain ⟨s, reached, holds⟩ := Lib.Machine.Reachable.of_exec rfl passed
  simp only [Bool.and_eq_true, Bool.not_eq_true'] at holds
  obtain ⟨⟨quiet, settled⟩, seven⟩ := holds
  have ordered := reached.mono fun _ _ => ordered_of_inTurn
  have agrees := readback_agrees ordered ((State.reachable_issued reached).quiet quiet)
  exact ⟨s, ordered, of_decide_eq_true seven, agrees.mpr (.inl settled)⟩

/-! ### What goes wrong otherwise -/

/-- Two values of one control, recorded the other way round. -/
def overtaken : List (Action Nat Nat) :=
  [Action.setControl 0 5, .setControl 0 7] ++ List.replicate 3 (Action.run 0 true) ++
  List.replicate 4 (Action.run 1 true) ++ [Action.run 0 true]

def replacedBetween : List (Action Nat Nat) :=
  .setControl 0 5 :: List.replicate 3 (Action.run 0 true) ++
  List.replicate 5 (Action.recover .reopened true) ++ [Action.run 0 true]

/-- The camera has been replaced, and the table is not cleared yet. -/
def uncleared : List (Action Nat Nat) :=
  .setControl 0 5 :: List.replicate 4 (Action.run 0 true) ++
  List.replicate 2 (Action.recover .reopened true)

def optionsRefused : List (Action Nat Nat) :=
  .setControl 0 5 :: List.replicate 4 (Action.run 0 true) ++
  List.replicate 4 (Action.recover .reopened false)

/-- The future of `set_control` is dropped while its task runs. -/
def droppedBetween : List (Action Nat Nat) :=
  .setControl 0 5 :: List.replicate 2 (Action.run 0 true) ++ [Action.drop 0, .run 0 true]

private theorem readback_stale :
    ([overtaken, replacedBetween, uncleared, optionsRefused, droppedBetween].all fun actions =>
      ((machine Nat Nat).exec (fun _ _ => true) {} actions).any fun s =>
        s.quiet && decide (s.requested 0 ≠ s.applied 0)) = true := by
  decide +kernel

/-- The run of `actions` ends with every call returned and a record that the camera does
not have. -/
def EndsStale (actions : List (Action Nat Nat)) : Prop :=
  ∃ s, (machine Nat Nat).Run Lib.Machine.anything {} actions s ∧
    (∀ k call, s.calls k = some call → call.between = false) ∧ s.requested 0 ≠ s.applied 0

theorem ends_stale {actions : List (Action Nat Nat)} (listed : actions ∈
    [overtaken, replacedBetween, uncleared, optionsRefused, droppedBetween]) :
    EndsStale actions := by
  obtain ⟨s, run, holds⟩ := Lib.Machine.run_of_passed (List.all_eq_true.mp readback_stale _ listed)
  obtain ⟨quiet, differs⟩ := Bool.and_eq_true_iff.mp holds
  have reached : (machine Nat Nat).Reachable _ s := ⟨{}, actions, rfl, run⟩
  exact ⟨s, run.mono fun _ _ _ => trivial, (State.reachable_issued reached).quiet quiet,
    of_decide_eq_true differs⟩

theorem not_always_agrees :
    EndsStale overtaken ∧ EndsStale replacedBetween ∧ EndsStale uncleared ∧
      EndsStale optionsRefused ∧ EndsStale droppedBetween :=
  ⟨ends_stale (by simp), ends_stale (by simp), ends_stale (by simp), ends_stale (by simp),
    ends_stale (by simp)⟩

end CameraRs.Session.Controls
