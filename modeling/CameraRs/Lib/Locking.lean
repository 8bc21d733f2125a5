/-
Threads that take locks in a fixed order.

A thread runs code whose locks are released in the opposite order of their acquisition. To ask
for a lock, to get it and to release it are separate steps. A lock may be shared by readers,
and a reader waits behind a waiting writer. If every operation takes its locks in increasing
order, then no threads wait for each other in a circle. Nothing here mentions a program.
-/

import CameraRs.Lib.Machine
import Mathlib.Data.Fintype.Card
import Mathlib.Data.Fintype.EquivFin
import Mathlib.Logic.Relation
import Mathlib.Order.Defs.PartialOrder
import Mathlib.Order.WellFounded

namespace CameraRs.Lib.Locking

inductive Mode
  | read
  | write
deriving DecidableEq

/-- The locking of a piece of code. Every branch on data is a choice; `call` stands for code of
the caller, which may run any operations. -/
inductive Code (κ ι : Type)
  | skip
  | call
  | hold (lock : κ) (mode : Mode) (body : Code κ ι)
  | seq (first second : Code κ ι)
  | either (first second : Code κ ι)
  | pick (branch : ι → Code κ ι)
  | loop (body : Code κ ι)

/-- What a thread has yet to do. -/
inductive Item (κ ι : Type)
  | run (code : Code κ ι)
  | acquire (lock : κ) (mode : Mode) (body : Code κ ι)
  | release (lock : κ) (mode : Mode)

abbrev Thread (κ ι : Type) := List (Item κ ι)

/-- How a choice is made; `finish` leaves a loop or the code of the caller. -/
inductive Choice (ι ο : Type)
  | go
  | left
  | right
  | again
  | finish
  | index (i : ι)
  | operation (o : ο)

variable {κ ι ο : Type}

namespace Code

def all : List (Code κ ι) → Code κ ι
  | [] => skip
  | code :: rest => seq code (all rest)

@[simp]
def Locks : Code κ ι → κ → Prop
  | skip, _ => False
  | call, _ => True
  | hold lock _ body, k => k = lock ∨ body.Locks k
  | seq first second, k => first.Locks k ∨ second.Locks k
  | either first second, k => first.Locks k ∨ second.Locks k
  | pick branch, k => ∃ i, (branch i).Locks k
  | loop body, k => body.Locks k

@[simp]
def Ordered {ρ : Type} [Preorder ρ] (rank : κ → ρ) : Code κ ι → Prop
  | skip => True
  | call => True
  | hold lock _ body => (∀ k, body.Locks k → rank lock < rank k) ∧ body.Ordered rank
  | seq first second => first.Ordered rank ∧ second.Ordered rank
  | either first second => first.Ordered rank ∧ second.Ordered rank
  | pick branch => ∀ i, (branch i).Ordered rank
  | loop body => body.Ordered rank

end Code

namespace Thread

def held : Thread κ ι → List (κ × Mode)
  | [] => []
  | .release lock mode :: rest => (lock, mode) :: held rest
  | _ :: rest => held rest

def wants : Thread κ ι → Option (κ × Mode)
  | .acquire lock mode _ :: _ => some (lock, mode)
  | _ => none

/-- The next step of a thread, where `free` says whether a lock can be had. -/
def advance (operations : ο → Code κ ι) (free : κ → Mode → Bool) (thread : Thread κ ι)
    (choice : Choice ι ο) : Option (Thread κ ι) :=
  match thread with
  | [] => none
  | .release _ _ :: rest => some rest
  | .acquire lock mode body :: rest =>
      if free lock mode then some (.run body :: .release lock mode :: rest) else none
  | .run code :: rest =>
      match code, choice with
      | .skip, _ => some rest
      | .call, .finish => some rest
      | .call, .operation o => some (.run (operations o) :: .run .call :: rest)
      | .call, _ => none
      | .hold lock mode body, _ => some (.acquire lock mode body :: rest)
      | .seq first second, _ => some (.run first :: .run second :: rest)
      | .either first _, .left => some (.run first :: rest)
      | .either _ second, .right => some (.run second :: rest)
      | .either _ _, _ => none
      | .pick branch, .index i => some (.run (branch i) :: rest)
      | .pick _, _ => none
      | .loop body, .again => some (.run body :: .run (.loop body) :: rest)
      | .loop _, .finish => some rest
      | .loop _, _ => none

end Thread

private theorem advance_unless_waiting [Nonempty ι] {operations : ο → Code κ ι}
    {free : κ → Mode → Bool} {thread : Thread κ ι} (pending : thread ≠ [])
    (waitless : thread.wants = none) :
    ∃ choice thread', thread.advance operations free choice = some thread' := by
  cases thread with
  | nil => exact absurd rfl pending
  | cons item rest =>
      cases item with
      | release lock mode => exact ⟨.go, _, rfl⟩
      | acquire lock mode body => contradiction
      | run code =>
          cases code with
          | skip => exact ⟨.go, _, rfl⟩
          | call => exact ⟨.finish, _, rfl⟩
          | hold lock mode body => exact ⟨.go, _, rfl⟩
          | seq first second => exact ⟨.go, _, rfl⟩
          | either first second => exact ⟨.left, _, rfl⟩
          | pick branch =>
              obtain ⟨i⟩ := ‹Nonempty ι›
              exact ⟨.index i, _, rfl⟩
          | loop body => exact ⟨.finish, _, rfl⟩

private theorem advance_waiting {operations : ο → Code κ ι} {free : κ → Mode → Bool}
    {thread : Thread κ ι} {lock : κ} {mode : Mode} (wanted : thread.wants = some (lock, mode))
    (had : free lock mode = true) :
    ∃ thread', thread.advance operations free .go = some thread' := by
  cases thread with
  | nil => contradiction
  | cons item rest =>
      cases item with
      | acquire other other_mode body =>
          obtain ⟨rfl, rfl⟩ := Prod.mk.inj (Option.some.inj wanted)
          exact ⟨_, if_pos had⟩
      | run code => contradiction
      | release other _ => contradiction

section Machine

variable [DecidableEq κ] {n : Nat}

/-- A writer has the lock alone, and readers wait behind a writer that waits. -/
def free (s : Fin n → Thread κ ι) (lock : κ) : Mode → Bool
  | .write => decide (∀ u, ∀ h ∈ (s u).held, h.1 ≠ lock)
  | .read => decide (∀ u, (lock, Mode.write) ∉ (s u).held ∧ (s u).wants ≠ some (lock, .write))

def machine (operations : ο → Code κ ι) (n : Nat) :
    Machine (Fin n → Thread κ ι) (Fin n × Choice ι ο) where
  initial s := ∀ t, s t = [.run .call]
  step s action :=
    ((s action.1).advance operations (free s) action.2).map (Function.update s action.1)

end Machine

/-! ### Threads in order -/

section Order

variable {ρ : Type} [Preorder ρ] {rank : κ → ρ}

/-- What a thread holds is of a lower rank than all that it may still ask for. -/
def Sorted (rank : κ → ρ) : Thread κ ι → Prop
  | [] => True
  | .run code :: rest => code.Ordered rank ∧
      (∀ k, code.Locks k → ∀ h ∈ Thread.held rest, rank h.1 < rank k) ∧ Sorted rank rest
  | .acquire lock _ body :: rest => (∀ k, body.Locks k → rank lock < rank k) ∧
      body.Ordered rank ∧ (∀ h ∈ Thread.held rest, rank h.1 < rank lock) ∧ Sorted rank rest
  | .release lock _ :: rest => (∀ h ∈ Thread.held rest, rank h.1 < rank lock) ∧ Sorted rank rest

theorem Sorted.advance {operations : ο → Code κ ι} {free : κ → Mode → Bool}
    {thread thread' : Thread κ ι} {choice : Choice ι ο}
    (ordered : ∀ o, (operations o).Ordered rank) (sorted : Sorted rank thread)
    (taken : thread.advance operations free choice = some thread') : Sorted rank thread' := by
  cases thread with
  | nil => contradiction
  | cons item rest =>
      cases item with
      | release lock mode =>
          obtain rfl := Option.some.inj taken
          exact sorted.2
      | acquire lock mode body =>
          obtain ⟨inner, body_ordered, outer, later⟩ := sorted
          simp only [Thread.advance] at taken
          split at taken
          · obtain rfl := Option.some.inj taken
            refine ⟨body_ordered, ?_, outer, later⟩
            intro k locks h there
            rcases List.mem_cons.mp there with rfl | earlier
            · exact inner k locks
            · exact lt_trans (outer h earlier) (inner k locks)
          · contradiction
      | run code =>
          obtain ⟨code_ordered, outer, later⟩ := sorted
          cases code with
          | skip =>
              obtain rfl := Option.some.inj taken
              exact later
          | call =>
              cases choice with
              | finish =>
                  obtain rfl := Option.some.inj taken
                  exact later
              | operation o =>
                  obtain rfl := Option.some.inj taken
                  exact ⟨ordered o, fun k _ => outer k trivial, trivial, outer, later⟩
              | _ => contradiction
          | hold lock mode body =>
              obtain rfl := Option.some.inj taken
              exact ⟨code_ordered.1, code_ordered.2, outer lock (.inl rfl), later⟩
          | seq first second =>
              obtain rfl := Option.some.inj taken
              exact ⟨code_ordered.1, fun k locks => outer k (.inl locks), code_ordered.2,
                fun k locks => outer k (.inr locks), later⟩
          | either first second =>
              cases choice with
              | left =>
                  obtain rfl := Option.some.inj taken
                  exact ⟨code_ordered.1, fun k locks => outer k (.inl locks), later⟩
              | right =>
                  obtain rfl := Option.some.inj taken
                  exact ⟨code_ordered.2, fun k locks => outer k (.inr locks), later⟩
              | _ => contradiction
          | pick branch =>
              cases choice with
              | index i =>
                  obtain rfl := Option.some.inj taken
                  exact ⟨code_ordered i, fun k locks => outer k ⟨i, locks⟩, later⟩
              | _ => contradiction
          | loop body =>
              cases choice with
              | again =>
                  obtain rfl := Option.some.inj taken
                  exact ⟨code_ordered, outer, code_ordered, outer, later⟩
              | finish =>
                  obtain rfl := Option.some.inj taken
                  exact later
              | _ => contradiction

theorem Sorted.wants {thread : Thread κ ι} {lock : κ} {mode : Mode} (sorted : Sorted rank thread)
    (wanted : thread.wants = some (lock, mode)) : ∀ h ∈ thread.held, rank h.1 < rank lock := by
  cases thread with
  | nil => contradiction
  | cons item rest =>
      cases item with
      | acquire other _ body =>
          obtain ⟨rfl, _⟩ := Prod.mk.inj (Option.some.inj wanted)
          exact sorted.2.2.1
      | run code => contradiction
      | release other _ => contradiction

section Chain

variable {n : Nat} {s : Fin n → Thread κ ι} {lock lock' : κ} {mode mode' : Mode}

/-- `t` has asked for a lock that `u` holds. -/
def WaitsFor (s : Fin n → Thread κ ι) (t u : Fin n) : Prop :=
  ∃ lock mode, (s t).wants = some (lock, mode) ∧ ∃ h ∈ (s u).held, h.1 = lock

private theorem rank_grows (sorted : ∀ t, Sorted rank (s t)) {t u : Fin n}
    (chain : Relation.TransGen (WaitsFor s) t u) (wanted : (s t).wants = some (lock, mode))
    (wanted' : (s u).wants = some (lock', mode')) : rank lock < rank lock' := by
  induction chain generalizing lock' mode' with
  | single waits =>
      obtain ⟨asked, _, same, h, holds, rfl⟩ := waits
      obtain ⟨rfl, _⟩ := Prod.mk.inj (Option.some.inj (wanted.symm.trans same))
      exact (sorted _).wants wanted' h holds
  | tail _ waits ih =>
      obtain ⟨asked, _, middle, h, holds, rfl⟩ := waits
      exact lt_trans (ih middle) ((sorted _).wants wanted' h holds)

end Chain

variable [DecidableEq κ] {n : Nat} {operations : ο → Code κ ι}
  {admits : (Fin n → Thread κ ι) → Fin n × Choice ι ο → Prop} {s : Fin n → Thread κ ι}

theorem reachable_sorted (ordered : ∀ o, (operations o).Ordered rank)
    (reached : (machine operations n).Reachable admits s) : ∀ t, Sorted rank (s t) := by
  refine @Machine.Reachable.invariant _ _ _ _ _ (fun s => ∀ t, Sorted rank (s t)) ?_ ?_ reached
  · intro state start t
    rw [start t]
    exact ⟨trivial, fun _ _ _ none => by contradiction, trivial⟩
  · intro state action next _ taken sorted t
    obtain ⟨thread, advanced, rfl⟩ := Option.map_eq_some_iff.mp taken
    by_cases mine : t = action.1
    · subst mine
      rw [Function.update_self]
      exact (sorted action.1).advance ordered advanced
    · rw [Function.update_of_ne mine]
      exact sorted t

theorem no_circle (ordered : ∀ o, (operations o).Ordered rank)
    (reached : (machine operations n).Reachable admits s) (t : Fin n) :
    ¬ Relation.TransGen (WaitsFor s) t t := by
  intro circle
  obtain ⟨u, ⟨lock, mode, wanted, _⟩, _⟩ := Relation.TransGen.head'_iff.mp circle
  exact lt_irrefl _ (rank_grows (reachable_sorted ordered reached) circle wanted wanted)

theorem no_reentry (ordered : ∀ o, (operations o).Ordered rank)
    (reached : (machine operations n).Reachable admits s) {t : Fin n} {lock : κ} {mode : Mode}
    (wanted : (s t).wants = some (lock, mode)) : ∀ h ∈ (s t).held, h.1 ≠ lock := by
  intro h holds same
  have below := (reachable_sorted ordered reached t).wants wanted h holds
  rw [same] at below
  exact lt_irrefl _ below

theorem waits_of_stuck (stuck : ∀ action, (machine operations n).step s action = none) {t : Fin n}
    {lock : κ} {mode : Mode} (wanted : (s t).wants = some (lock, mode)) :
    ∃ u, WaitsFor s t u := by
  have taken : ∀ {u mode}, (s u).wants = some (lock, mode) → free s lock mode ≠ true := by
    intro u mode asked had
    obtain ⟨thread, advanced⟩ : ∃ thread, (s u).advance operations (free s) .go = some thread :=
      advance_waiting asked had
    have none := stuck (u, .go)
    simp [machine, advanced] at none
  have written : ∀ {u}, (s u).wants = some (lock, .write) → ∃ v, WaitsFor s t v := by
    intro u asked
    have held := taken asked
    simp only [free, ne_eq, decide_eq_true_eq, not_forall, not_not] at held
    obtain ⟨v, h, there, same⟩ := held
    exact ⟨v, lock, mode, wanted, h, there, same⟩
  cases mode with
  | write => exact written wanted
  | read =>
      have held := taken wanted
      simp only [free, ne_eq, decide_eq_true_eq, not_forall] at held
      obtain ⟨u, either⟩ := held
      rcases not_and_or.mp either with holds | waits
      · exact ⟨u, lock, .read, wanted, (lock, .write), not_not.mp holds, rfl⟩
      · exact written (not_not.mp waits)

theorem can_proceed [Nonempty ι] (ordered : ∀ o, (operations o).Ordered rank)
    (reached : (machine operations n).Reachable admits s) (pending : ∃ t, s t ≠ []) :
    ∃ action s', (machine operations n).step s action = some s' := by
  by_contra none
  have stuck : ∀ action, (machine operations n).step s action = .none := fun action =>
    Option.eq_none_iff_forall_ne_some.mpr fun s' taken => none ⟨action, s', taken⟩
  have waiting : ∀ t, s t ≠ [] → ∃ u, WaitsFor s t u ∧ s u ≠ [] := by
    intro t pending
    cases wanted : (s t).wants with
    | none =>
        obtain ⟨choice, thread, advanced⟩ : ∃ choice thread,
            (s t).advance operations (free s) choice = some thread :=
          advance_unless_waiting pending wanted
        have never := stuck (t, choice)
        simp [machine, advanced] at never
    | some lock =>
        obtain ⟨u, waits⟩ := waits_of_stuck stuck wanted
        refine ⟨u, waits, fun empty => ?_⟩
        obtain ⟨_, _, _, h, holds, _⟩ := waits
        rw [empty] at holds
        contradiction
  let later : Fin n → Fin n → Prop := fun u t => Relation.TransGen (WaitsFor s) t u
  have trans : IsTrans (Fin n) later := ⟨fun _ _ _ first second => second.trans first⟩
  have irrefl : Std.Irrefl later := ⟨fun t => no_circle ordered reached t⟩
  obtain ⟨t, busy, last⟩ := (Finite.wellFounded_of_trans_of_irrefl later).has_min
    {t | s t ≠ []} pending
  obtain ⟨u, waits, too⟩ := waiting t busy
  exact last u too (.single waits)

end Order

end CameraRs.Lib.Locking
