/-
Queues of bounded length.

A policy says which of the items stay when there are more than the queue has room
for. What was put in has been taken out, is still inside or was lost, and nothing
else; a queue gives its items in the order in which they were put in.
-/

import Mathlib.Data.List.Induction

namespace CameraRs.Lib

universe u

inductive Overflow
  | keepNewest
  | keepFirst
deriving DecidableEq, Repr

structure QueuePolicy where
  capacity : Nat
  overflow : Overflow
deriving DecidableEq, Repr

def QueuePolicy.keep {α : Type u} (policy : QueuePolicy) (items : List α) : List α :=
  match policy.overflow with
  | .keepNewest => items.drop (items.length - policy.capacity)
  | .keepFirst => items.take policy.capacity

/-- `taken` has the items that were given out, the oldest first. -/
structure BoundedQueue (α : Type u) (policy : QueuePolicy) where
  items : List α
  taken : List α
  lost : Nat
  bounded : items.length ≤ policy.capacity

inductive QueueCall (α : Type u)
  | put (item : α)
  | take

namespace QueueCall

variable {α : Type u}

def puts : List (QueueCall α) → List α
  | [] => []
  | .put item :: rest => item :: puts rest
  | .take :: rest => puts rest

theorem puts_append (calls later : List (QueueCall α)) :
    puts (calls ++ later) = puts calls ++ puts later := by
  induction calls with
  | nil => rfl
  | cons call rest ih =>
      cases call with
      | put item => exact congrArg (item :: ·) ih
      | take => exact ih

end QueueCall

variable {α : Type u} {policy : QueuePolicy}

theorem QueuePolicy.keep_length (policy : QueuePolicy) (items : List α) :
    (policy.keep items).length = min items.length policy.capacity := by
  unfold keep
  split
  · rw [List.length_drop]
    omega
  · rw [List.length_take]
    omega

theorem QueuePolicy.keep_sublist (policy : QueuePolicy) (items : List α) :
    (policy.keep items).Sublist items := by
  unfold keep
  split
  · exact List.drop_sublist _ _
  · exact List.take_sublist _ _

namespace BoundedQueue

def empty : BoundedQueue α policy := ⟨[], [], 0, Nat.zero_le _⟩

def put (queue : BoundedQueue α policy) (item : α) : BoundedQueue α policy where
  items := policy.keep (queue.items ++ [item])
  taken := queue.taken
  lost := queue.lost + (queue.items.length + 1 - policy.capacity)
  bounded := by
    rw [policy.keep_length]
    exact Nat.min_le_right _ _

def take (queue : BoundedQueue α policy) : BoundedQueue α policy :=
  match inside : queue.items with
  | [] => queue
  | item :: rest =>
      { queue with
        items := rest
        taken := queue.taken ++ [item]
        bounded := by
          have fits := queue.bounded
          rw [inside, List.length_cons] at fits
          exact Nat.le_of_succ_le fits }

def call (queue : BoundedQueue α policy) : QueueCall α → BoundedQueue α policy
  | .put item => queue.put item
  | .take => queue.take

def run (policy : QueuePolicy) (calls : List (QueueCall α)) : BoundedQueue α policy :=
  calls.foldl call empty

theorem run_snoc (policy : QueuePolicy) (calls : List (QueueCall α)) (last : QueueCall α) :
    run policy (calls ++ [last]) = (run policy calls).call last := by
  rw [run, List.foldl_append]
  rfl

variable (queue : BoundedQueue α policy)

theorem take_nil (inside : queue.items = []) : queue.take = queue := by
  unfold take
  split
  · rfl
  · next item rest same =>
      rw [same] at inside
      contradiction

theorem take_cons {item : α} {rest : List α} (inside : queue.items = item :: rest) :
    queue.take.items = rest ∧ queue.take.taken = queue.taken ++ [item] ∧
      queue.take.lost = queue.lost := by
  unfold take
  split
  · next same =>
      rw [same] at inside
      contradiction
  · next first others same =>
      rw [same] at inside
      obtain ⟨rfl, rfl⟩ := List.cons.inj inside
      exact ⟨rfl, rfl, rfl⟩

theorem run_accounts (policy : QueuePolicy) (calls : List (QueueCall α)) :
    (run policy calls).taken.length + (run policy calls).items.length +
      (run policy calls).lost = (QueueCall.puts calls).length := by
  induction calls using List.reverseRecOn with
  | nil => rfl
  | append_singleton calls last ih =>
      rw [run_snoc, QueueCall.puts_append, List.length_append]
      cases last with
      | put item =>
          have kept : (policy.keep ((run policy calls).items ++ [item])).length =
              min ((run policy calls).items.length + 1) policy.capacity := by
            rw [policy.keep_length, List.length_append, List.length_singleton]
          simp only [call, put, QueueCall.puts, List.length_singleton, kept]
          omega
      | take =>
          simp only [call, QueueCall.puts, List.length_nil, Nat.add_zero]
          rw [← ih]
          cases inside : (run policy calls).items with
          | nil => rw [take_nil _ inside, inside]
          | cons item rest =>
              obtain ⟨items, taken, lost⟩ := take_cons _ inside
              rw [items, taken, lost, List.length_append]
              simp only [List.length_cons, List.length_nil]
              omega

theorem run_sublist (policy : QueuePolicy) (calls : List (QueueCall α)) :
    ((run policy calls).taken ++ (run policy calls).items).Sublist (QueueCall.puts calls) := by
  induction calls using List.reverseRecOn with
  | nil => exact .slnil
  | append_singleton calls last ih =>
      rw [run_snoc, QueueCall.puts_append]
      cases last with
      | put item =>
          have kept := policy.keep_sublist ((run policy calls).items ++ [item])
          have widened := kept.append_left (run policy calls).taken
          refine widened.trans ?_
          rw [← List.append_assoc]
          exact ih.append (List.Sublist.refl [item])
      | take =>
          simp only [call, QueueCall.puts, List.append_nil]
          cases inside : (run policy calls).items with
          | nil => rwa [take_nil _ inside]
          | cons item rest =>
              obtain ⟨items, taken, _⟩ := take_cons _ inside
              rw [items, taken, List.append_assoc]
              rwa [inside] at ih

end BoundedQueue

end CameraRs.Lib
