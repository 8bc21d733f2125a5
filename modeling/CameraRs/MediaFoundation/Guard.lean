/-
`MFGuard`: Media Foundation is started for the first guard of the process and shut down with the
last, and each guard undoes the COM initialization of its own thread.

A guard never leaves its thread. `MF_USERS` is held from its test to the answer of the native
calls that depend on it; what a thread does outside of it interleaves with all others.
-/

import CameraRs.Lib.Machine
import Mathlib.Data.List.Nodup
import Mathlib.Logic.Function.Basic

namespace CameraRs.MediaFoundation.Com

abbrev ThreadId := Nat

/-- Whose a guard is: that of the caller of `MFGuard::new`, or of the slot of `initialize_mf`. -/
inductive Slot
  | caller
  | legacy
deriving DecidableEq

/-- A guard that is counted in `MF_USERS`. -/
structure Guard where
  id : Nat
  thread : ThreadId
  slot : Slot
  ownsCom : Bool
deriving DecidableEq

/-- A thread before the access that is named; from `starting` and `discounting` on it holds
`MF_USERS`. -/
inductive Pc
  | idle
  | entering (slot : Slot)
  | locking (slot : Slot) (ownsCom : Bool)
  | starting (slot : Slot) (ownsCom : Bool)
  | counting (slot : Slot) (ownsCom : Bool)
  | failing (ownsCom : Bool)
  | leaving (guard : Guard)
  | discounting (guard : Guard)
  | shutting (guard : Guard)
  | closing (guard : Guard)
deriving DecidableEq

/-- `started` counts `MFStartup` less `MFShutdown`, and `com` what `CoInitializeEx` owes to each
thread; `fault` is an underflow of either or of `MF_USERS`. -/
structure Process where
  lock : Option ThreadId := none
  users : Nat := 0
  started : Nat := 0
  com : ThreadId → Nat := fun _ => 0
  guards : List Guard := []
  nextGuard : Nat := 0
  pcs : ThreadId → Pc := fun _ => .idle
  fault : Bool := false

/-- The answer of `CoInitializeEx`. -/
inductive Apartment
  | joined
  | changedMode
  | failed

structure Answer where
  apartment : Apartment
  startup : Bool

/-- `create` is `MFGuard::new` or `initialize_mf`, `drop` the drop of a guard, `uninitialize_mf` or
the exit of its thread; `run` is the next access of a thread. -/
inductive Action
  | create (t : ThreadId) (slot : Slot)
  | drop (t : ThreadId) (id : Nat)
  | run (t : ThreadId) (answer : Answer)

namespace Process

variable (s : Process)

def goto (t : ThreadId) (pc : Pc) : Process :=
  { s with pcs := Function.update s.pcs t pc }

/-- `CoUninitialize`, for the thread that owes it. -/
def leaveCom (t : ThreadId) (ownsCom : Bool) : Process :=
  if ownsCom then
    { s with
      com := Function.update s.com t (s.com t - 1)
      fault := s.fault || s.com t == 0 }
  else s

def run (t : ThreadId) (answer : Answer) : Option Process :=
  match s.pcs t with
  | .idle => none
  | .entering slot =>
      match answer.apartment with
      | .joined =>
          some ({ s with com := Function.update s.com t (s.com t + 1) }.goto t
            (.locking slot true))
      | .changedMode => some (s.goto t (.locking slot false))
      | .failed => some (s.goto t .idle)
  | .locking slot ownsCom =>
      match s.lock with
      | some _ => none
      | none => some ({ s with lock := some t }.goto t (.starting slot ownsCom))
  | .starting slot ownsCom =>
      if s.users = 0 then
        if answer.startup then
          some ({ s with started := s.started + 1 }.goto t (.counting slot ownsCom))
        else some (s.goto t (.failing ownsCom))
      else some (s.goto t (.counting slot ownsCom))
  | .counting slot ownsCom =>
      some ({ s with
        lock := none
        users := s.users + 1
        guards := s.guards ++ [Guard.mk s.nextGuard t slot ownsCom]
        nextGuard := s.nextGuard + 1 }.goto t .idle)
  | .failing ownsCom => some ({ s.leaveCom t ownsCom with lock := none }.goto t .idle)
  | .leaving guard =>
      match s.lock with
      | some _ => none
      | none => some ({ s with lock := some t }.goto t (.discounting guard))
  | .discounting guard =>
      some ({ s with
        users := s.users - 1
        guards := s.guards.erase guard
        fault := s.fault || s.users == 0 }.goto t
          (if s.users - 1 = 0 then .shutting guard else .closing guard))
  | .shutting guard =>
      some ({ s with
        started := s.started - 1
        fault := s.fault || s.started == 0 }.goto t (.closing guard))
  | .closing guard => some ({ s.leaveCom t guard.ownsCom with lock := none }.goto t .idle)

def step : Action → Option Process
  | .create t slot =>
      match s.pcs t with
      | .idle =>
          if slot = .legacy ∧ s.guards.any fun g => g.thread == t && g.slot == .legacy then some s
          else some (s.goto t (.entering slot))
      | _ => none
  | .drop t id =>
      match s.pcs t, s.guards.find? fun g => g.id == id && g.thread == t with
      | .idle, some guard => some (s.goto t (.leaving guard))
      | _, _ => none
  | .run t answer => s.run t answer

end Process

def guardMachine : Lib.Machine Process Action where
  initial s := s = {}
  step := Process.step

/-! ### The invariant -/

namespace Pc

def holds : Pc → Bool
  | .starting _ _ | .counting _ _ | .failing _ | .discounting _ | .shutting _ | .closing _ => true
  | _ => false

/-- Media Foundation runs for this thread, whatever `MF_USERS` says. -/
def keeps : Pc → Bool
  | .counting _ _ | .shutting _ => true
  | _ => false

def drops : Pc → Option Guard
  | .leaving guard | .discounting guard => some guard
  | _ => none

def com : Pc → Nat
  | .locking _ ownsCom | .starting _ ownsCom | .counting _ ownsCom | .failing ownsCom =>
      ownsCom.toNat
  | .shutting guard | .closing guard => guard.ownsCom.toNat
  | _ => 0

end Pc

/-- A guard that owes its thread a `CoUninitialize`. -/
def Guard.owes (t : ThreadId) (guard : Guard) : Bool := guard.thread == t && guard.ownsCom

/-- Media Foundation runs for the holder of `MF_USERS`. -/
def Process.kept (s : Process) : Bool := s.lock.any fun t => (s.pcs t).keeps

structure Process.Sound (s : Process) : Prop where
  calm : s.fault = false
  counted : s.users = s.guards.length
  fresh : ∀ guard ∈ s.guards, guard.id < s.nextGuard
  distinct : (s.guards.map Guard.id).Nodup
  locks : ∀ t, (s.pcs t).holds = true ↔ s.lock = some t
  dropped : ∀ t guard, (s.pcs t).drops = some guard → guard ∈ s.guards ∧ guard.thread = t
  last : ∀ t guard, s.pcs t = .shutting guard → s.users = 0
  platform : s.started = if s.users = 0 ∧ s.kept = false then 0 else 1
  balance : ∀ t, s.com t = s.guards.countP (Guard.owes t) + (s.pcs t).com

namespace Process

variable {s s' : Process} {t : ThreadId}

theorem Sound.turn (sound : s.Sound) {pc : Pc} (moved : s'.pcs = Function.update s.pcs t pc)
    (calm : s'.fault = false) (counted : s'.users = s'.guards.length)
    (fresh : ∀ guard ∈ s'.guards, guard.id < s'.nextGuard)
    (distinct : (s'.guards.map Guard.id).Nodup)
    (locked : s'.lock = if pc.holds then some t else if (s.pcs t).holds then none else s.lock)
    (free : pc.holds = true → (s.pcs t).holds = true ∨ s.lock = none)
    (others : ∀ guard ∈ s.guards, guard.thread ≠ t → guard ∈ s'.guards)
    (drops : ∀ guard, pc.drops = some guard → guard ∈ s'.guards ∧ guard.thread = t)
    (alone : (s.pcs t).holds = false → pc.holds = false →
      s'.users = s.users ∧ s'.started = s.started)
    (last : ∀ guard, pc = .shutting guard → s'.users = 0)
    (holding : pc.holds = true →
      s'.started = if s'.users = 0 ∧ pc.keeps = false then 0 else 1)
    (released : (s.pcs t).holds = true → pc.holds = false →
      s'.started = if s'.users = 0 then 0 else 1)
    (own : s'.com t = s'.guards.countP (Guard.owes t) + pc.com)
    (rest : ∀ v, v ≠ t → s'.com v = s.com v ∧
      s'.guards.countP (Guard.owes v) = s.guards.countP (Guard.owes v)) : s'.Sound := by
  have self : s'.pcs t = pc := by rw [moved, Function.update_self]
  have other {v : ThreadId} (different : v ≠ t) : s'.pcs v = s.pcs v := by
    rw [moved, Function.update_of_ne different]
  refine ⟨calm, counted, fresh, distinct, fun v => ?_, fun v guard found => ?_,
    fun v guard found => ?_, ?_, fun v => ?_⟩
  · by_cases same : v = t
    · subst same
      rw [self, locked]
      by_cases held : pc.holds = true
      · simp [held]
      · have before := sound.locks v
        simp only [held, Bool.false_eq_true, if_false, false_iff]
        split
        · exact fun found => nomatch found
        · next unheld => exact fun found => unheld (before.mpr found)
    · rw [other same, sound.locks v, locked]
      by_cases held : pc.holds = true
      · simp only [held, if_true, Option.some.injEq]
        refine ⟨fun found => ?_, fun same' => absurd same'.symm same⟩
        rcases free held with mine | free
        · have mine := (sound.locks t).mp mine
          exact Option.some.inj (mine.symm.trans found)
        · rw [free] at found
          cases found
      · simp only [held, Bool.false_eq_true, if_false]
        split
        · next mine =>
          have mine := (sound.locks t).mp mine
          refine ⟨fun found => ?_, fun found => nomatch found⟩
          exact absurd (Option.some.inj (mine.symm.trans found)).symm same
        · exact Iff.rfl
  · by_cases same : v = t
    · subst same
      rw [self] at found
      exact drops guard found
    · rw [other same] at found
      obtain ⟨member, thread⟩ := sound.dropped v guard found
      exact ⟨others guard member (by rw [thread]; exact same), thread⟩
  · by_cases same : v = t
    · subst same
      rw [self] at found
      exact last guard found
    · rw [other same] at found
      have held := (sound.locks v).mp (by rw [found]; rfl)
      have unheld : (s.pcs t).holds = false := by
        rw [Bool.eq_false_iff]
        intro mine
        exact same (Option.some.inj (held.symm.trans ((sound.locks t).mp mine)))
      have stays : pc.holds = false := by
        rw [Bool.eq_false_iff]
        intro holds
        rcases free holds with mine | free
        · rw [mine] at unheld
          cases unheld
        · rw [free] at held
          cases held
      rw [(alone unheld stays).1]
      exact sound.last v guard found
  · cases held : pc.holds with
    | true =>
        have kept : s'.kept = pc.keeps := by
          rw [kept, locked, held, if_pos rfl, Option.any_some, self]
        rw [kept]
        exact holding held
    | false =>
        cases mine : (s.pcs t).holds with
        | true =>
            have kept : s'.kept = false := by
              rw [kept, locked, held, mine]
              rfl
            rw [released mine held, kept]
            simp only [and_true]
        | false =>
            have same : s'.lock = s.lock := by
              rw [locked, held, mine]
              rfl
            have kept : s'.kept = s.kept := by
              rw [kept, kept, same]
              cases owner : s.lock with
              | none => rfl
              | some v =>
                  have different : v ≠ t := by
                    rintro rfl
                    have holds := (sound.locks v).mpr owner
                    rw [holds] at mine
                    cases mine
                  rw [Option.any_some, Option.any_some, other different]
            obtain ⟨users, started⟩ := alone mine held
            rw [started, users, kept]
            exact sound.platform
  · by_cases same : v = t
    · subst same
      rw [self]
      exact own
    · obtain ⟨com, count⟩ := rest v same
      rw [other same, com, count]
      exact sound.balance v

theorem Sound.walk (sound : s.Sound) {pc : Pc} (out : (s.pcs t).holds = false)
    (stays : pc.holds = false)
    (drops : ∀ guard, pc.drops = some guard → guard ∈ s.guards ∧ guard.thread = t)
    (com : pc.com = (s.pcs t).com) : (s.goto t pc).Sound := by
  refine sound.turn rfl sound.calm sound.counted sound.fresh sound.distinct ?_ ?_
    (fun _ member _ => member) drops (fun _ _ => ⟨rfl, rfl⟩) ?_ ?_ ?_ ?_ fun _ _ => ⟨rfl, rfl⟩
  · rw [stays, out]
    rfl
  · rw [stays]
    exact fun impossible => nomatch impossible
  · rintro guard rfl
    cases stays
  · rw [stays]
    exact fun impossible => nomatch impossible
  · rw [out]
    exact fun impossible => nomatch impossible
  · rw [com]
    exact sound.balance t

theorem Sound.take (sound : s.Sound) {pc : Pc} (free : s.lock = none) (holds : pc.holds = true)
    (keeps : pc.keeps = false)
    (drops : ∀ guard, pc.drops = some guard → guard ∈ s.guards ∧ guard.thread = t)
    (com : pc.com = (s.pcs t).com) : ({ s with lock := some t }.goto t pc).Sound := by
  refine sound.turn rfl sound.calm sound.counted sound.fresh sound.distinct ?_
    (fun _ => .inr free) (fun _ member _ => member) drops ?_ ?_ ?_ ?_ ?_ fun _ _ => ⟨rfl, rfl⟩
  · rw [holds]
    rfl
  · rw [holds]
    exact fun _ impossible => nomatch impossible
  · rintro guard rfl
    cases keeps
  · intro _
    have kept : s.kept = false := by
      rw [kept, free]
      rfl
    have platform := sound.platform
    rw [kept] at platform
    rw [keeps]
    exact platform
  · rw [holds]
    exact fun _ impossible => nomatch impossible
  · rw [com]
    exact sound.balance t

theorem Sound.keep (sound : s.Sound) {pc : Pc} (mine : (s.pcs t).holds = true)
    (holds : pc.holds = true) (started : Nat)
    (platform : started = if s.users = 0 ∧ pc.keeps = false then 0 else 1)
    (drops : pc.drops = none) (last : ∀ guard, pc = .shutting guard → s.users = 0)
    (com : pc.com = (s.pcs t).com) (fault : s.fault = false) :
    ({ s with started := started }.goto t pc).Sound := by
  refine sound.turn rfl fault sound.counted sound.fresh sound.distinct ?_ (fun _ => .inl mine)
    (fun _ member _ => member) ?_ ?_ last (fun _ => platform) ?_ ?_ fun _ _ => ⟨rfl, rfl⟩
  · rw [holds]
    exact (sound.locks t).mp mine
  · rw [drops]
    exact fun _ impossible => nomatch impossible
  · rw [holds]
    exact fun _ impossible => nomatch impossible
  · rw [holds]
    exact fun _ impossible => nomatch impossible
  · rw [com]
    exact sound.balance t

theorem Sound.enter (sound : s.Sound) {slot : Slot} (pc : s.pcs t = .entering slot) :
    ({ s with com := Function.update s.com t (s.com t + 1) }.goto t
      (.locking slot true)).Sound := by
  refine sound.turn rfl sound.calm sound.counted sound.fresh sound.distinct ?_ ?_
    (fun _ member _ => member) ?_ (fun _ _ => ⟨rfl, rfl⟩) ?_ ?_ ?_ ?_ fun v other => ⟨?_, rfl⟩
  · rw [pc]
    rfl
  · exact fun impossible => nomatch impossible
  · exact fun _ impossible => nomatch impossible
  · exact fun _ impossible => nomatch impossible
  · exact fun impossible => nomatch impossible
  · rw [pc]
    exact fun impossible => nomatch impossible
  · have balance := sound.balance t
    rw [pc] at balance
    change Function.update s.com t (s.com t + 1) t = _
    rw [Function.update_self, balance]
    rfl
  · exact Function.update_of_ne other _ _

theorem Sound.count (sound : s.Sound) {slot : Slot} {ownsCom : Bool}
    (pc : s.pcs t = .counting slot ownsCom) :
    ({ s with
      lock := none
      users := s.users + 1
      guards := s.guards ++ [Guard.mk s.nextGuard t slot ownsCom]
      nextGuard := s.nextGuard + 1 }.goto t .idle).Sound := by
  have mine : (s.pcs t).holds = true := by rw [pc]; rfl
  have kept : s.kept = true := by
    rw [kept, (sound.locks t).mp mine, Option.any_some, pc]
    rfl
  refine sound.turn rfl sound.calm ?_ ?_ ?_ ?_ ?_ ?_ ?_ ?_ ?_ ?_ ?_ ?_ fun v other => ⟨rfl, ?_⟩
  · change s.users + 1 = (s.guards ++ [_]).length
    rw [List.length_append, sound.counted, List.length_singleton]
  · intro guard member
    rcases List.mem_append.mp member with old | new
    · exact Nat.lt_succ_of_lt (sound.fresh guard old)
    · rw [List.mem_singleton.mp new]
      exact Nat.lt_succ_self _
  · change ((s.guards ++ [_]).map Guard.id).Nodup
    rw [List.map_append, List.nodup_append]
    refine ⟨sound.distinct, List.nodup_singleton _, ?_⟩
    rintro id old _ new rfl
    obtain ⟨guard, member, rfl⟩ := List.mem_map.mp old
    exact absurd (List.mem_singleton.mp new) (Nat.ne_of_lt (sound.fresh guard member))
  · rw [mine]
    rfl
  · exact fun impossible => nomatch impossible
  · exact fun guard member _ => List.mem_append_left _ member
  · exact fun _ impossible => nomatch impossible
  · rw [mine]
    exact fun impossible => nomatch impossible
  · exact fun _ impossible => nomatch impossible
  · exact fun impossible => nomatch impossible
  · intro _ _
    have platform := sound.platform
    rw [kept] at platform
    change s.started = if s.users + 1 = 0 then 0 else 1
    rw [platform, if_neg (fun both => nomatch both.2), if_neg (Nat.succ_ne_zero _)]
  · have balance := sound.balance t
    rw [pc] at balance
    change s.com t = (s.guards ++ [_]).countP (Guard.owes t) + 0
    rw [List.countP_append, balance, List.countP_singleton, Guard.owes, beq_self_eq_true]
    cases ownsCom <;> rfl
  · change (s.guards ++ [_]).countP (Guard.owes v) = _
    have foreign : (Guard.mk s.nextGuard t slot ownsCom).owes v = false := by
      rw [Guard.owes, beq_eq_false_iff_ne.mpr fun same => other same.symm]
      rfl
    rw [List.countP_append, List.countP_singleton, foreign]
    rfl

theorem countP_erase {guard : Guard} (member : guard ∈ s.guards) (v : ThreadId) :
    s.guards.countP (Guard.owes v) =
      (s.guards.erase guard).countP (Guard.owes v) + (guard.owes v).toNat := by
  rw [(List.perm_cons_erase member).countP_eq, List.countP_cons]
  cases guard.owes v <;> rfl

theorem Sound.discount (sound : s.Sound) {guard : Guard} (pc : s.pcs t = .discounting guard) :
    ({ s with
      users := s.users - 1
      guards := s.guards.erase guard
      fault := s.fault || s.users == 0 }.goto t
        (if s.users - 1 = 0 then .shutting guard else .closing guard)).Sound := by
  obtain ⟨member, thread⟩ := sound.dropped t guard (by rw [pc]; rfl)
  have mine : (s.pcs t).holds = true := by rw [pc]; rfl
  have some : s.users ≠ 0 := by
    rw [sound.counted]
    exact Nat.ne_of_gt (List.length_pos_of_mem member)
  have holds : (if s.users - 1 = 0 then Pc.shutting guard else .closing guard).holds = true := by
    split <;> rfl
  refine sound.turn rfl ?_ ?_ ?_ ?_ ?_ (fun _ => .inl mine) ?_ ?_ ?_ ?_ ?_ ?_ ?_
    fun v other => ⟨rfl, ?_⟩
  · change (s.fault || s.users == 0) = false
    rw [sound.calm, beq_eq_false_iff_ne.mpr some]
    rfl
  · change s.users - 1 = (s.guards.erase guard).length
    rw [List.length_erase_of_mem member, sound.counted]
  · exact fun other found => sound.fresh other (List.mem_of_mem_erase found)
  · exact sound.distinct.sublist (List.erase_sublist.map Guard.id)
  · rw [holds]
    exact (sound.locks t).mp mine
  · intro other found different
    refine (List.mem_erase_of_ne fun same => different ?_).mpr found
    rw [same]
    exact thread
  · intro other found
    split at found <;> cases found
  · rw [mine]
    exact fun impossible => nomatch impossible
  · intro other found
    split at found
    · next none => exact none
    · cases found
  · intro _
    have platform := sound.platform
    rw [if_neg fun both => some both.1] at platform
    by_cases none : s.users - 1 = 0
    · rw [if_pos none]
      exact platform.trans (if_neg fun both => Bool.noConfusion both.2).symm
    · rw [if_neg none]
      exact platform.trans (if_neg fun both => none both.1).symm
  · rw [holds]
    exact fun _ impossible => nomatch impossible
  · have balance := sound.balance t
    rw [pc, countP_erase member t, Guard.owes, thread, beq_self_eq_true] at balance
    change s.com t = (s.guards.erase guard).countP (Guard.owes t) + _
    rw [balance]
    split <;> rfl
  · have foreign : guard.owes v = false := by
      rw [Guard.owes, thread, beq_eq_false_iff_ne.mpr fun same => other same.symm]
      rfl
    change (s.guards.erase guard).countP (Guard.owes v) = _
    rw [countP_erase member v, foreign]
    rfl

theorem Sound.release (sound : s.Sound) {ownsCom : Bool} (mine : (s.pcs t).holds = true)
    (owed : (s.pcs t).com = ownsCom.toNat) (unkept : (s.pcs t).keeps = false) :
    ({ s.leaveCom t ownsCom with lock := none }.goto t .idle).Sound := by
  have kept : s.kept = false := by
    rw [kept, (sound.locks t).mp mine, Option.any_some]
    exact unkept
  have platform := sound.platform
  rw [kept] at platform
  simp only [and_true] at platform
  have balance := sound.balance t
  rw [owed] at balance
  cases ownsCom with
  | false =>
      refine sound.turn rfl sound.calm sound.counted sound.fresh sound.distinct ?_ ?_
        (fun _ member _ => member) ?_ (fun _ _ => ⟨rfl, rfl⟩) ?_ ?_ (fun _ _ => platform) balance
        fun _ _ => ⟨rfl, rfl⟩
      · rw [mine]
        rfl
      · exact fun impossible => nomatch impossible
      · exact fun _ impossible => nomatch impossible
      · exact fun _ impossible => nomatch impossible
      · exact fun impossible => nomatch impossible
  | true =>
      refine sound.turn rfl ?_ sound.counted sound.fresh sound.distinct ?_ ?_
        (fun _ member _ => member) ?_ (fun _ _ => ⟨rfl, rfl⟩) ?_ ?_ (fun _ _ => platform) ?_
        fun v other => ⟨Function.update_of_ne other _ _, rfl⟩
      · change (s.fault || s.com t == 0) = false
        rw [sound.calm, balance]
        rfl
      · rw [mine]
        rfl
      · exact fun impossible => nomatch impossible
      · exact fun _ impossible => nomatch impossible
      · exact fun _ impossible => nomatch impossible
      · exact fun impossible => nomatch impossible
      · change Function.update s.com t (s.com t - 1) t = _
        rw [Function.update_self, balance]
        rfl

theorem run_sound (sound : s.Sound) {answer : Answer} (taken : s.run t answer = some s') :
    s'.Sound := by
  unfold run at taken
  cases pc : s.pcs t with
  | idle =>
      rw [pc] at taken
      cases taken
  | entering slot =>
      simp only [pc] at taken
      split at taken <;> cases taken
      · exact sound.enter pc
      · exact sound.walk (by rw [pc]; rfl) rfl (fun _ found => nomatch found) (by rw [pc]; rfl)
      · exact sound.walk (by rw [pc]; rfl) rfl (fun _ found => nomatch found) (by rw [pc]; rfl)
  | locking slot ownsCom =>
      simp only [pc] at taken
      split at taken
      · cases taken
      · next free =>
        cases taken
        exact sound.take free rfl rfl (fun _ found => nomatch found) (by rw [pc]; rfl)
  | starting slot ownsCom =>
      have mine : (s.pcs t).holds = true := by rw [pc]; rfl
      have platform := sound.platform
      rw [kept, (sound.locks t).mp mine, Option.any_some, pc] at platform
      simp only [pc] at taken
      split at taken
      · next none =>
        rw [if_pos ⟨none, rfl⟩] at platform
        split at taken <;> cases taken
        · refine sound.keep mine rfl _ ?_ rfl (fun _ found => nomatch found) (by rw [pc]; rfl)
            sound.calm
          rw [platform, if_neg fun both => Bool.noConfusion both.2]
        · refine sound.keep mine rfl s.started ?_ rfl (fun _ found => nomatch found)
            (by rw [pc]; rfl) sound.calm
          rw [platform, if_pos ⟨none, rfl⟩]
      · next some =>
        cases taken
        rw [if_neg fun both => some both.1] at platform
        refine sound.keep mine rfl s.started ?_ rfl (fun _ found => nomatch found)
          (by rw [pc]; rfl) sound.calm
        rw [platform, if_neg fun both => some both.1]
  | counting slot ownsCom =>
      simp only [pc] at taken
      cases taken
      exact sound.count pc
  | failing ownsCom =>
      simp only [pc] at taken
      cases taken
      exact sound.release (by rw [pc]; rfl) (by rw [pc]; rfl) (by rw [pc]; rfl)
  | leaving guard =>
      simp only [pc] at taken
      split at taken
      · cases taken
      · next free =>
        cases taken
        refine sound.take free rfl rfl (fun other found => ?_) ?_
        · cases found
          exact sound.dropped t guard (by rw [pc]; rfl)
        · rw [pc]
          rfl
  | discounting guard =>
      simp only [pc] at taken
      cases taken
      exact sound.discount pc
  | shutting guard =>
      have mine : (s.pcs t).holds = true := by rw [pc]; rfl
      have none := sound.last t guard pc
      have platform := sound.platform
      rw [kept, (sound.locks t).mp mine, Option.any_some, pc,
        if_neg fun both => Bool.noConfusion both.2] at platform
      simp only [pc] at taken
      cases taken
      have calm : (s.fault || s.started == 0) = s.fault := by
        rw [platform]
        exact Bool.or_false _
      rw [calm]
      refine sound.keep mine rfl _ ?_ rfl (fun _ found => nomatch found) (by rw [pc]; rfl)
        sound.calm
      rw [platform, if_pos ⟨none, rfl⟩]
  | closing guard =>
      simp only [pc] at taken
      cases taken
      exact sound.release (by rw [pc]; rfl) (by rw [pc]; rfl) (by rw [pc]; rfl)

theorem step_sound (sound : s.Sound) {action : Action} (taken : s.step action = some s') :
    s'.Sound := by
  cases action with
  | create t slot =>
      simp only [step] at taken
      split at taken
      · next idle =>
        split at taken <;> cases taken
        · exact sound
        · exact sound.walk (by rw [idle]; rfl) rfl (fun _ found => nomatch found)
            (by rw [idle]; rfl)
      · cases taken
  | drop t id =>
      simp only [step] at taken
      split at taken
      · next guard idle found =>
        cases taken
        refine sound.walk (by rw [idle]; rfl) rfl (fun other same => ?_) (by rw [idle]; rfl)
        cases same
        have named := List.find?_some found
        rw [Bool.and_eq_true, beq_iff_eq, beq_iff_eq] at named
        exact ⟨List.mem_of_find?_eq_some found, named.2⟩
      · cases taken
  | run t answer => exact run_sound sound taken

theorem reachable_sound (reached : guardMachine.Reachable Lib.Machine.anything s) : s.Sound := by
  refine reached.invariant ?_ fun state action next _ taken sound => step_sound sound taken
  rintro state rfl
  refine ⟨rfl, rfl, fun _ none => (nomatch none), List.nodup_nil, fun t => ?_,
    fun _ _ none => (nomatch none), fun _ _ none => (nomatch none), rfl, fun _ => rfl⟩
  exact Iff.intro (fun none => nomatch none) fun none => nomatch none

/-- In every interleaving of threads that create and drop guards, whatever COM and Media
Foundation answer: no counter underflows; while a guard lives Media Foundation is started, once,
and COM is initialized on the thread of every guard that owes it; with `MF_USERS` free it is
started just when some guard lives; and a thread that is not within a call owes COM what its guards
will undo. -/
theorem guards_balanced (reached : guardMachine.Reachable Lib.Machine.anything s) :
    s.fault = false ∧ s.users = s.guards.length ∧ s.started ≤ 1 ∧
      (∀ guard ∈ s.guards, s.started = 1 ∧ (guard.ownsCom = true → 0 < s.com guard.thread)) ∧
      (s.lock = none → (s.started = 1 ↔ s.guards ≠ [])) ∧
      ∀ t, s.pcs t = .idle → s.com t = s.guards.countP (Guard.owes t) := by
  have sound := reachable_sound reached
  refine ⟨sound.calm, sound.counted, ?_, fun guard member => ⟨?_, fun owns => ?_⟩, fun free => ?_,
    fun t idle => ?_⟩
  · rw [sound.platform]
    split
    · exact Nat.zero_le _
    · exact Nat.le_refl _
  · have some : s.users ≠ 0 := by
      rw [sound.counted]
      exact Nat.ne_of_gt (List.length_pos_of_mem member)
    rw [sound.platform, if_neg fun both => some both.1]
  · have owes : guard.owes guard.thread = true := by
      rw [Guard.owes, beq_self_eq_true, owns]
      rfl
    rw [sound.balance]
    exact Nat.add_pos_left (List.countP_pos_iff.mpr ⟨guard, member, owes⟩) _
  · have unkept : s.kept = false := by
      rw [kept, free]
      rfl
    have platform := sound.platform
    rw [unkept, sound.counted] at platform
    simp only [and_true, List.length_eq_zero_iff] at platform
    rw [platform]
    split
    · next none => exact Iff.intro (fun one => nomatch one) fun some => absurd none some
    · next some => exact Iff.intro (fun _ => some) fun _ => rfl
  · rw [sound.balance, idle]
    rfl

end Process

/-- Two threads with a guard each, of which the first has been dropped again. -/
theorem guards_balanced_two : ∃ s, guardMachine.Reachable Lib.Machine.anything s ∧
    s.users = 1 ∧ s.started ≤ 1 ∧ ∀ guard ∈ s.guards, s.started = 1 ∧
      (guard.ownsCom = true → 0 < s.com guard.thread) := by
  let fine : Answer := ⟨.joined, true⟩
  have passed : ((guardMachine.exec (fun _ _ => true) {}
      [.create 1 .caller, .run 1 fine, .create 2 .legacy, .run 2 fine, .run 1 fine, .run 1 fine,
        .run 1 fine, .run 2 fine, .run 2 fine, .run 2 fine, .drop 1 0, .run 1 fine, .run 1 fine,
        .run 1 fine]).any fun s => s.users == 1) = true := by
    decide
  obtain ⟨s, reached, users⟩ := Lib.Machine.Reachable.of_exec rfl passed
  have reached : guardMachine.Reachable Lib.Machine.anything s :=
    reached.mono fun _ _ _ => trivial
  obtain ⟨-, -, once, running, -⟩ := Process.guards_balanced reached
  exact ⟨s, reached, beq_iff_eq.mp users, once, running⟩

end CameraRs.MediaFoundation.Com
