/-
The limiter that thins out frames by their native time stamps.

It accepts a frame that reaches the deadline up to a twentieth of an interval early and
moves the deadline on by whole intervals, so that early and late frames do not shift the
phase; after a gap the phase starts anew.
-/

import CameraRs.Lib.Spacing

namespace CameraRs

open Lib (Follows Spaced)

def saturatingAdd (a b : Nat) : Nat := min (a + b) (2 ^ 64 - 1)

structure FrameRateLimiter where
  nextNs : Option Nat := none
  lastNs : Nat := 0
deriving DecidableEq, Repr

namespace FrameRateLimiter

def accept (limiter : FrameRateLimiter) (timestampNs intervalNs : Nat) :
    FrameRateLimiter × Bool :=
  if intervalNs = 0 ∨ timestampNs = 0 then (limiter, true)
  else
    let limiter :=
      if timestampNs < limiter.lastNs then { limiter with nextNs := none } else limiter
    let limiter := { limiter with lastNs := timestampNs }
    let tolerance := intervalNs / 20
    match limiter.nextNs with
    | some next =>
        if saturatingAdd timestampNs tolerance < next then (limiter, false)
        else
          ({ limiter with
            nextNs :=
              if timestampNs > saturatingAdd next intervalNs then
                some (saturatingAdd timestampNs intervalNs)
              else some (saturatingAdd next intervalNs) }, true)
    | none => ({ limiter with nextNs := some (saturatingAdd timestampNs intervalNs) }, true)

/-- The limiter after frames with these time stamps. -/
def run (limiter : FrameRateLimiter) (intervalNs : Nat) (times : List Nat) : FrameRateLimiter :=
  times.foldl (fun limiter t => (limiter.accept t intervalNs).1) limiter

/-- The time stamps of the frames that are accepted. -/
def accepted (limiter : FrameRateLimiter) (intervalNs : Nat) : List Nat → List Nat
  | [] => []
  | t :: later =>
      let rest := accepted (limiter.accept t intervalNs).1 intervalNs later
      if (limiter.accept t intervalNs).2 then t :: rest else rest

variable {limiter : FrameRateLimiter} {interval t next : Nat} {times : List Nat}

/-- Time stamps in order that are far enough from the end of the clock. -/
structure Steady (interval : Nat) (times : List Nat) : Prop where
  sorted : times.Pairwise (· ≤ ·)
  stamped : ∀ t ∈ times, 0 < t
  below : ∀ t ∈ times, t + 2 * interval + interval / 20 < 2 ^ 64

structure Paced (interval next : Nat) (limiter : FrameRateLimiter) : Prop where
  deadline : limiter.nextNs = some next
  near : next ≤ limiter.lastNs + interval + interval / 20

private theorem accept_first (positive : 0 < interval) (stamped : 0 < t)
    (below : t + 2 * interval + interval / 20 < 2 ^ 64) :
    accept {} t interval = ({ nextNs := some (t + interval), lastNs := t }, true) := by
  have running : ¬(interval = 0 ∨ t = 0) := by omega
  have exact_sum : saturatingAdd t interval = t + interval := Nat.min_eq_left (by omega)
  simp only [accept, if_neg running, Nat.not_lt_zero, if_false, exact_sum]

namespace Paced

theorem reject (paced : Paced interval next limiter) (positive : 0 < interval) (stamped : 0 < t)
    (ordered : limiter.lastNs ≤ t) (below : t + 2 * interval + interval / 20 < 2 ^ 64)
    (early : t + interval / 20 < next) :
    limiter.accept t interval = ({ nextNs := some next, lastNs := t }, false) := by
  have running : ¬(interval = 0 ∨ t = 0) := by omega
  have exact_sum : saturatingAdd t (interval / 20) = t + interval / 20 :=
    Nat.min_eq_left (by omega)
  simp only [accept, if_neg running, if_neg (Nat.not_lt.mpr ordered), paced.deadline, exact_sum,
    if_pos early]

theorem take (paced : Paced interval next limiter) (positive : 0 < interval) (stamped : 0 < t)
    (ordered : limiter.lastNs ≤ t) (below : t + 2 * interval + interval / 20 < 2 ^ 64)
    (due : next ≤ t + interval / 20) :
    ∃ later, limiter.accept t interval = ({ nextNs := some later, lastNs := t }, true) ∧
      next + interval ≤ later ∧ t ≤ later ∧ later ≤ t + interval + interval / 20 := by
  have running : ¬(interval = 0 ∨ t = 0) := by omega
  have tolerated : saturatingAdd t (interval / 20) = t + interval / 20 :=
    Nat.min_eq_left (by omega)
  have moved : saturatingAdd next interval = next + interval := Nat.min_eq_left (by omega)
  have restarted : saturatingAdd t interval = t + interval := Nat.min_eq_left (by omega)
  simp only [accept, if_neg running, if_neg (Nat.not_lt.mpr ordered), paced.deadline, tolerated,
    if_neg (Nat.not_lt.mpr due), moved, restarted]
  by_cases gap : next + interval < t
  · refine ⟨t + interval, ?_, ?_, ?_, ?_⟩
    · rw [if_pos gap]
    · omega
    · omega
    · omega
  · refine ⟨next + interval, ?_, ?_, ?_, ?_⟩
    · rw [if_neg gap]
    · exact Nat.le_refl _
    · exact Nat.not_lt.mp gap
    · omega

theorem goes (paced : Paced interval next limiter) (positive : 0 < interval) (stamped : 0 < t)
    (ordered : limiter.lastNs ≤ t) (below : t + 2 * interval + interval / 20 < 2 ^ 64) :
    ∃ later, Paced interval later (limiter.accept t interval).1 ∧
      (limiter.accept t interval).1.lastNs = t := by
  by_cases due : next ≤ t + interval / 20
  · obtain ⟨later, taken, _, _, near⟩ := paced.take positive stamped ordered below due
    rw [taken]
    exact ⟨later, ⟨rfl, near⟩, rfl⟩
  · have near : next ≤ t + interval + interval / 20 := paced.near.trans (by omega)
    rw [paced.reject positive stamped ordered below (Nat.not_le.mp due)]
    exact ⟨next, ⟨rfl, near⟩, rfl⟩

end Paced

namespace Steady

theorem sublist {some_times : List Nat} (steady : Steady interval times)
    (kept : some_times.Sublist times) : Steady interval some_times where
  sorted := steady.sorted.sublist kept
  stamped t member := steady.stamped t (kept.subset member)
  below t member := steady.below t (kept.subset member)

theorem follows {first : Nat} {later : List Nat} (steady : Steady interval (first :: later)) :
    ∀ t ∈ later, first ≤ t :=
  (List.pairwise_cons.mp steady.sorted).1

variable (positive : 0 < interval)
include positive

theorem spaced (steady : Steady interval times) (paced : Paced interval next limiter)
    (ordered : ∀ t ∈ times, limiter.lastNs ≤ t) :
    Follows interval (interval / 20) next (limiter.accepted interval times) ∧
      Spaced interval (interval / 20) (limiter.accepted interval times) := by
  induction times generalizing limiter next with
  | nil => exact ⟨fun k t at_k => by simp [accepted] at at_k, trivial⟩
  | cons t later ih =>
      have rest := steady.sublist (List.sublist_cons_self t later)
      have stamped := steady.stamped t List.mem_cons_self
      have below := steady.below t List.mem_cons_self
      have after := ordered t List.mem_cons_self
      by_cases due : next ≤ t + interval / 20
      · obtain ⟨deadline, taken, moved, ahead, near⟩ :=
          paced.take positive stamped after below due
        have waits : Paced interval deadline ⟨some deadline, t⟩ := ⟨rfl, near⟩
        have goes := ih rest waits steady.follows
        have accepts : limiter.accepted interval (t :: later) =
            t :: accepted ⟨some deadline, t⟩ interval later := by
          simp only [accepted, taken, if_true]
        rw [accepts]
        exact ⟨.cons due (goes.1.earlier moved), goes.1.earlier ahead, goes.2⟩
      · have near : next ≤ t + interval + interval / 20 := paced.near.trans (by omega)
        have waits : Paced interval next ⟨some next, t⟩ := ⟨rfl, near⟩
        have goes := ih rest waits steady.follows
        have rejects : limiter.accepted interval (t :: later) =
            accepted ⟨some next, t⟩ interval later := by
          simp only [accepted, paced.reject positive stamped after below (Nat.not_le.mp due),
            Bool.false_eq_true, if_false]
        rwa [rejects]

private theorem run_paced (steady : Steady interval times) (paced : Paced interval next limiter)
    (ordered : ∀ t ∈ times, limiter.lastNs ≤ t) :
    (∃ later, Paced interval later (limiter.run interval times)) ∧
      (limiter.run interval times).lastNs = times.getLast?.getD limiter.lastNs := by
  induction times generalizing limiter next with
  | nil => exact ⟨⟨next, paced⟩, rfl⟩
  | cons t later ih =>
      obtain ⟨deadline, waits, last⟩ := paced.goes positive (steady.stamped t List.mem_cons_self)
        (ordered t List.mem_cons_self) (steady.below t List.mem_cons_self)
      have after : ∀ u ∈ later, (limiter.accept t interval).1.lastNs ≤ u := by
        rw [last]
        exact steady.follows
      have rest := ih (steady.sublist (List.sublist_cons_self t later)) waits after
      refine ⟨rest.1, ?_⟩
      have moved : limiter.run interval (t :: later) =
          (limiter.accept t interval).1.run interval later := rfl
      rw [moved, rest.2, last, List.getLast?_cons, Option.getD_some]

theorem first {later : List Nat} (steady : Steady interval (t :: later)) :
    accept {} t interval = ({ nextNs := some (t + interval), lastNs := t }, true) ∧
      Paced interval (t + interval) { nextNs := some (t + interval), lastNs := t } :=
  ⟨accept_first positive (steady.stamped t List.mem_cons_self)
    (steady.below t List.mem_cons_self), rfl, Nat.le_add_right _ _⟩

theorem accepted_cons {later : List Nat} (steady : Steady interval (t :: later)) :
    ∃ rest, accepted {} interval (t :: later) = t :: rest ∧
      Follows interval (interval / 20) (t + interval) rest ∧ Spaced interval (interval / 20) rest := by
  obtain ⟨taken, waits⟩ := steady.first positive
  refine ⟨accepted ⟨some (t + interval), t⟩ interval later, ?_, ?_⟩
  · simp only [accepted, taken, if_true]
  · exact (steady.sublist (List.sublist_cons_self t later)).spaced positive waits steady.follows

private theorem accept_after {earlier : List Nat} {previous : Nat}
    (steady : Steady interval (earlier ++ [previous, t])) (apart : previous + interval ≤ t) :
    ((run {} interval (earlier ++ [previous])).accept t interval).2 = true := by
  have before : Steady interval (earlier ++ [previous]) :=
    steady.sublist (List.Sublist.append_left (by simp) earlier)
  have member : t ∈ earlier ++ [previous, t] := by simp
  have stamped := steady.stamped t member
  have below := steady.below t member
  cases same : earlier ++ [previous] with
  | nil => simp at same
  | cons first later =>
      have last : later.getLast?.getD first = previous := by
        have ends := congrArg List.getLast? same
        rw [List.getLast?_concat, List.getLast?_cons] at ends
        exact (Option.some.inj ends).symm
      rw [same] at before
      obtain ⟨taken, waits⟩ := before.first positive
      have goes := (before.sublist (List.sublist_cons_self first later)).run_paced positive waits
        before.follows
      obtain ⟨⟨next, paced⟩, seen⟩ := goes
      have moved : run {} interval (first :: later) =
          (accept {} first interval).1.run interval later := rfl
      rw [moved, taken]
      rw [last] at seen
      have near := paced.near
      rw [seen] at near
      have due : next ≤ t + interval / 20 := by omega
      obtain ⟨_, accepts, _⟩ := paced.take positive stamped (by rw [seen]; omega) below due
      rw [accepts]

end Steady

/-- The rate of the accepted frames from both sides: a frame is accepted when it comes an
interval after the one before it, after `k` acceptances the next is due `k` intervals behind
the first, and a window has room for little more than the intervals that fit into it. -/
structure KeepsRate (interval : Nat) (times : List Nat) : Prop where
  accepts : ∀ earlier previous t later, times = earlier ++ previous :: t :: later →
    previous + interval ≤ t →
      ((run {} interval (earlier ++ [previous])).accept t interval).2 = true
  due : ∀ first k t, (accepted {} interval times).head? = some first →
    (accepted {} interval times)[k]? = some t → k * interval ≤ t - first + interval / 20
  window : ∀ start width, ((accepted {} interval times).filter fun t =>
    start ≤ t && t ≤ start + width).length ≤ (width + interval / 20) / interval + 2

theorem keeps_rate (positive : 0 < interval) (steady : Steady interval times) :
    KeepsRate interval times where
  accepts earlier previous t later same apart := by
    refine (steady.sublist ?_).accept_after positive apart
    rw [same]
    exact List.Sublist.append_left (by simp) earlier
  due first k t starts at_k := by
    cases times with
    | nil => simp [accepted] at starts
    | cons u later =>
        obtain ⟨rest, same, follows, _⟩ := steady.accepted_cons positive
        rw [same] at starts at_k
        cases starts
        cases k with
        | zero => simp
        | succ k =>
            have far := follows k t at_k
            rw [Nat.succ_mul]
            omega
  window start width := by
    cases times with
    | nil => exact Nat.zero_le _
    | cons u later =>
        obtain ⟨rest, same, follows, spaced⟩ := steady.accepted_cons positive
        rw [same]
        have all : Spaced interval (interval / 20) (u :: rest) :=
          ⟨follows.earlier (Nat.le_add_right _ _), spaced⟩
        apply (all.sublist List.filter_sublist).length_le positive
        intro t member
        simpa using (List.mem_filter.mp member).2

/-- A stream at sixty frames that is limited to thirty, after a gap. -/
theorem keeps_rate_halving : KeepsRate 33333333 [16666667, 33333334, 50000001, 900000000] :=
  keeps_rate (by decide) ⟨by decide, by decide, by decide⟩

example : accepted {} 33333333 [16666667, 33333334, 50000001, 900000000] =
    [16666667, 50000001, 900000000] := by
  decide

end FrameRateLimiter

end CameraRs
