/-
Readers that wait for a newer version.

A shared value carries a version. A reader that finds nothing to do parks with the version
it has looked at. If whatever gives a parked reader something to do also raises the version,
then no parked reader with something to do has seen the current version. Nothing here
mentions a program.
-/

import CameraRs.Lib.Machine

namespace CameraRs.Lib

universe u v w

/-- `parked` is the version a waiting reader has seen; `ready` says it has something to do. -/
structure Watch (State : Type u) (Reader : Type w) where
  version : State → Nat
  ready : State → Reader → Prop
  parked : State → Reader → Option Nat

namespace Watch

variable {State : Type u} {Action : Type v} {Reader : Type w}

structure Disciplined (watch : Watch State Reader) (machine : Machine State Action)
    (admits : State → Action → Prop) : Prop where
  unparked : ∀ s reader, machine.initial s → watch.parked s reader = none
  grows : ∀ s a t, machine.step s a = some t → watch.version s ≤ watch.version t
  parks : ∀ s a t reader seen, admits s a → machine.step s a = some t →
    watch.parked t reader = some seen →
    watch.parked s reader = some seen ∨ seen = watch.version t ∧ ¬watch.ready t reader
  announces : ∀ s a t reader seen, admits s a → machine.step s a = some t →
    watch.parked s reader = some seen → ¬watch.ready s reader → watch.ready t reader →
    watch.version s < watch.version t

variable {watch : Watch State Reader} {machine : Machine State Action}
  {admits : State → Action → Prop} {s t : State} {a : Action} {reader : Reader} {seen : Nat}

/-- A parked reader that has seen the current version has nothing to do. -/
def Settled (watch : Watch State Reader) (s : State) : Prop :=
  ∀ reader seen, watch.parked s reader = some seen →
    seen ≤ watch.version s ∧ (seen = watch.version s → ¬watch.ready s reader)

private theorem Disciplined.settled_step (disciplined : watch.Disciplined machine admits)
    (admitted : admits s a) (taken : machine.step s a = some t) (settled : watch.Settled s) :
    watch.Settled t := by
  intro reader seen parked
  have grows := disciplined.grows s a t taken
  rcases disciplined.parks s a t reader seen admitted taken parked with before | ⟨now, idle⟩
  · obtain ⟨bound, quiet⟩ := settled reader seen before
    refine ⟨Nat.le_trans bound grows, fun current ready => ?_⟩
    -- the version has not grown since the reader looked
    have same : seen = watch.version s := by omega
    have newer := disciplined.announces s a t reader seen admitted taken before (quiet same) ready
    omega
  · exact ⟨Nat.le_of_eq now, fun _ => idle⟩

theorem Disciplined.settled (disciplined : watch.Disciplined machine admits)
    (reached : machine.Reachable admits s) : watch.Settled s := by
  refine reached.invariant ?_ ?_
  · intro s initial reader seen parked
    rw [disciplined.unparked s reader initial] at parked
    contradiction
  · intro s a t admitted taken settled
    exact disciplined.settled_step admitted taken settled

theorem Disciplined.wakes (disciplined : watch.Disciplined machine admits)
    (reached : machine.Reachable admits s) (parked : watch.parked s reader = some seen)
    (ready : watch.ready s reader) : seen < watch.version s := by
  obtain ⟨bound, quiet⟩ := disciplined.settled reached reader seen parked
  rcases Nat.lt_or_eq_of_le bound with newer | current
  · exact newer
  · exact absurd ready (quiet current)

end Watch

end CameraRs.Lib
