/-
Conversion times of published frames.

The pool keeps those of the latest 256 frames since the last start, and the largest since then.
What `metrics` reports of them are percentiles by nearest rank.
-/

import CameraRs.Frame.Epoch
import CameraRs.Lib.Rank
import Mathlib.Data.List.Sort

namespace CameraRs.Frame

namespace FrameHub

def retained (s : FrameHub) (data : Storage) : Bool := decide (1 < s.strongCount data.arc)

def metrics (s : FrameHub) : FrameMetrics :=
  let samples := s.pool.conversionSamples.insertionSort (· ≤ ·)
  let quantile (percent : Nat) := samples[(samples.length * percent + 99) / 100 - 1]?.getD 0
  { s.pool.metrics with
    conversionP50Ns := quantile 50
    conversionP95Ns := quantile 95
    allocatedBuffers := s.pool.slots.length
    allocatedBytes := s.pool.used
    retainedBuffers := s.pool.slots.countP fun slot => slot.data.all s.retained }

end FrameHub

/-- What an access did to the conversion times. -/
inductive Sampled
  | reset
  | recorded (ns : Nat)
deriving DecidableEq, Repr

/-- A published frame is measured as long as its session is the one of the hub. -/
def Pc.sampled (session : Nat) : Pc → List Sampled
  | .startReset => [.reset]
  | .measuring job _ elapsed => if session = job.session then [.recorded elapsed] else []
  | _ => []

def sampled (s : FrameHub) (a : Action) (_ : FrameHub) : List Sampled :=
  match a with
  | .run i _ => s.ops[i]?.elim [] (Pc.sampled s.state.session)
  | _ => []

/-- One more duration, or none any more. -/
def Sampled.add (durations : List Nat) : Sampled → List Nat
  | .reset => []
  | .recorded ns => durations ++ [ns]

/-- The durations of the frames published since the last start. -/
def durations (log : List Sampled) : List Nat := log.foldl Sampled.add []

/-- `percent` is reported as `v`: a percentile of the window, or zero without one. -/
def Reports (percent : Nat) (window : List Nat) (v : Nat) : Prop :=
  if window = [] then v = 0 else Lib.Percentile percent window v

/-- What a hub with this history holds and reports. -/
structure FrameHub.Quantiles (s : FrameHub) (log : List Sampled) : Prop where
  window : s.pool.conversionSamples = (durations log).rtake 256
  size : s.pool.conversionSamples.length = min (durations log).length 256
  p50 : Reports 50 s.pool.conversionSamples s.metrics.conversionP50Ns
  p95 : Reports 95 s.pool.conversionSamples s.metrics.conversionP95Ns
  ordered : s.metrics.conversionP50Ns ≤ s.metrics.conversionP95Ns ∧
    s.metrics.conversionP95Ns ≤ s.metrics.conversionMaxNs

/-! ### One access -/

structure Timing where
  window : List Nat
  largest : Nat

def Timing.add (timing : Timing) : Sampled → Timing
  | .reset => ⟨[], 0⟩
  | .recorded ns => ⟨Lib.pushRecent 256 timing.window ns, max timing.largest ns⟩

def Pool.timing (pool : Pool) : Timing := ⟨pool.conversionSamples, pool.metrics.conversionMaxNs⟩

variable {s t : FrameHub} {a : Action} {i : OpId} {pc after : Pc} {log : List Sampled}

private theorem Pool.choose_timing {pool later : Pool} {unique : Storage → Bool} {index : Nat}
    (chosen : pool.choose unique = some (later, index)) : later.timing = pool.timing := by
  unfold Pool.choose at chosen
  split at chosen
  · obtain ⟨rfl, _⟩ := Prod.mk.inj (Option.some.inj chosen)
    rfl
  · split at chosen
    · obtain ⟨rfl, _⟩ := Prod.mk.inj (Option.some.inj chosen)
      rfl
    · contradiction

private theorem Pool.take_timing (pool : Pool) (heap : Heap) (index : Nat) (layout : FrameLayout)
    (rgb : Bool) (length : Nat) :
    (pool.take heap index layout rgb length).1.timing = pool.timing := by
  unfold Pool.take
  dsimp only
  split
  · split <;> rfl
  · split <;> rfl

theorem Pool.configure_timing (pool : Pool) (unique : Storage → Bool) (memory : MemoryBudget) :
    (pool.configure unique memory).2.timing = pool.timing := by
  unfold Pool.configure
  split
  · rfl
  · dsimp only
    split <;> rfl

theorem Pool.reserve_timing (pool : Pool) (heap : Heap) (unique : Storage → Bool)
    (layout : FrameLayout) (rgb : Bool) (length now : Nat) :
    (pool.reserve heap unique layout rgb length now).1.timing = pool.timing := by
  unfold Pool.reserve
  dsimp only
  split
  · rfl
  · next middle index chosen =>
      rw [middle.take_timing, Pool.choose_timing chosen]
      rfl

theorem FrameHub.reserve_timing (s : FrameHub) (raced : List ArcId) (job : Job) (length : Nat) :
    (s.reserve raced job length).1.pool.timing = s.pool.timing := by
  have kept := s.pool.reserve_timing s.heap (s.unique raced) job.layout job.rgb length s.clock
  unfold FrameHub.reserve
  split
  · next reserved =>
      rw [reserved] at kept
      exact kept
  · next refused =>
      rw [refused] at kept
      exact kept

private theorem access_timing (access : Access s pc t after) :
    t.pool.timing = (pc.sampled s.state.session).foldl Timing.add s.pool.timing := by
  cases access with
  | reserved raced unlocked current => exact s.reserve_timing raced _ _
  | @measured job lease elapsed unlocked same =>
      rw [Pc.sampled, if_pos same]
      rfl
  | unmeasured different =>
      rw [Pc.sampled, if_neg different]
      rfl
  | @charged session activity failed _ unlocked goes =>
      cases activity <;> rfl
  | configured raced native answer unlocked => exact Pool.configure_timing _ _ _
  | _ => rfl

private theorem outside_timing (stepped : Stepped s a t) (other : ∀ i env, a ≠ .run i env) :
    t.pool.timing = s.pool.timing := by
  cases stepped with
  | @ran i env => exact absurd rfl (other i env)
  | consumed consumed =>
      rw [consumed.keeps]
  | _ => rfl

private theorem step_timing (taken : s.step a = some t) :
    t.pool.timing = (sampled s a t).foldl Timing.add s.pool.timing := by
  cases a with
  | run i env =>
      obtain ⟨pc, u, after, at_pc, access, rfl⟩ := step_run taken
      have moved := access_timing access
      rw [sampled, at_pc]
      exact moved
  | _ => exact outside_timing (step_stepped taken) (by simp)

/-! ### Runs -/

def timing (log : List Sampled) : Timing :=
  ⟨(durations log).rtake 256, (durations log).foldl max 0⟩

theorem timing_window (log : List Sampled) :
    (timing log).window = (durations log).rtake 256 := by
  rw [timing]

private theorem timing_snoc (log : List Sampled) (event : Sampled) :
    timing (log ++ [event]) = (timing log).add event := by
  have later : durations (log ++ [event]) = Sampled.add (durations log) event := by
    rw [durations, List.foldl_append]
    rfl
  rw [timing, later]
  cases event with
  | reset =>
      rw [Sampled.add, Timing.add, List.rtake_nil, List.foldl_nil]
  | recorded ns =>
      rw [Sampled.add, Timing.add, List.foldl_append, List.foldl_cons, List.foldl_nil, timing,
        Lib.pushRecent_rtake (by decide)]

private theorem timing_append (log later : List Sampled) :
    timing (log ++ later) = later.foldl Timing.add (timing log) := by
  induction later generalizing log with
  | nil => rw [List.append_nil, List.foldl_nil]
  | cons event rest ih =>
      rw [List.foldl_cons, ← timing_snoc, ← ih, List.append_assoc, List.singleton_append]

private theorem timing_tracked
    (reached : (machine.logged sampled).Reachable Lib.Machine.anything (s, log)) :
    s.pool.timing = timing log := by
  refine reached.invariant (P := fun state => state.1.pool.timing = timing state.2) ?_ ?_
  · rintro ⟨s, log⟩ ⟨⟨capacity, drawn, rfl⟩, rfl⟩
    rw [timing, durations, List.foldl_nil, List.rtake_nil, List.foldl_nil]
    rfl
  · intro before a after _ taken tracked
    obtain ⟨step, logged⟩ := Lib.Machine.logged_step taken
    rw [logged, timing_append, ← tracked]
    exact step_timing step

private theorem le_largest {log : List Sampled} {ns : Nat} (there : ns ∈ (timing log).window) :
    ns ≤ (timing log).largest := by
  rw [timing_window, List.rtake] at there
  have published : ns ∈ durations log := List.mem_of_mem_drop there
  rw [timing, List.foldl_max_eq_max (List.ne_nil_of_mem published)]
  exact Nat.le_trans (List.le_max_of_mem published) (Nat.le_max_right 0 _)

/-! ### What is reported -/

variable {percent : Nat}

theorem reports_quantile (window : List Nat) (positive : 0 < percent) (whole : percent ≤ 100) :
    Reports percent window
      ((window.insertionSort (· ≤ ·))[((window.insertionSort (· ≤ ·)).length * percent + 99) / 100
        - 1]?.getD 0) := by
  unfold Reports
  split
  · next empty =>
      rw [empty]
      rfl
  · next nonempty =>
      have same := List.perm_insertionSort (· ≤ ·) window
      obtain ⟨v, found, ranked⟩ := Lib.percentile_exists
        (List.pairwise_insertionSort (· ≤ ·) window)
        (fun empty => nonempty (List.perm_nil.mp (empty ▸ same.symm))) positive whole
      change (window.insertionSort (· ≤ ·))[((window.insertionSort (· ≤ ·)).length * percent + 99)
        / 100 - 1]? = some v at found
      rw [found]
      exact ranked.of_perm same

theorem Reports.mono {larger v w : Nat} {window : List Nat} (first : Reports percent window v)
    (second : Reports larger window w) (above : percent ≤ larger) : v ≤ w := by
  unfold Reports at first second
  split at first
  · rw [first]
    exact Nat.zero_le w
  · next nonempty =>
      rw [if_neg nonempty] at second
      exact first.mono second above

theorem Reports.le {window : List Nat} {v bound : Nat} (reported : Reports percent window v)
    (below : ∀ ns ∈ window, ns ≤ bound) : v ≤ bound := by
  unfold Reports at reported
  split at reported
  · rw [reported]
    exact Nat.zero_le bound
  · exact below v reported.member

/-- In every reachable state the conversion times are those of the latest frames published since
the last start, and their percentiles are what `metrics` reports. -/
theorem quantiles_ranked
    (reached : (machine.logged sampled).Reachable Lib.Machine.anything (s, log)) :
    s.Quantiles log := by
  have tracked := timing_tracked reached
  have window : s.pool.conversionSamples = (timing log).window :=
    congrArg Timing.window tracked
  have largest : s.metrics.conversionMaxNs = (timing log).largest :=
    congrArg Timing.largest tracked
  have p50 : Reports 50 s.pool.conversionSamples s.metrics.conversionP50Ns :=
    reports_quantile _ (by decide) (by decide)
  have p95 : Reports 95 s.pool.conversionSamples s.metrics.conversionP95Ns :=
    reports_quantile _ (by decide) (by decide)
  constructor
  · rw [window, timing_window]
  · rw [window, timing_window]
    exact Lib.length_rtake 256 (durations log)
  · exact p50
  · exact p95
  · refine ⟨p50.mono p95 (by decide), p95.le ?_⟩
    rw [window, largest]
    exact fun ns there => le_largest there

theorem quantiles_ranked_two :
    ∃ (s : FrameHub) (log : List Sampled), durations log = [7, 3] ∧ s.Quantiles log := by
  have new : (machine.logged sampled).initial (FrameHub.new 4, []) := ⟨machine_new 4, rfl⟩
  have passed : (((machine.logged sampled).exec (fun _ _ => true) (FrameHub.new 4, [])
      ([Action.call .start] ++ List.replicate 4 (Action.run 0 {}) ++
        [Action.call (.publishRgb 1 1 1 none), .run 1 {}, .run 1 {},
          .run 1 { choice := .finish 7 }, .run 1 {}, .run 1 {}, .run 1 {},
          .call (.publishRgb 1 1 1 none), .run 2 {}, .run 2 {},
          .run 2 { choice := .finish 3 }, .run 2 {}, .run 2 {}])).any fun state =>
      decide (durations state.2 = [7, 3])) = true := by
    decide +kernel
  obtain ⟨⟨s, log⟩, reached, published⟩ :=
    Lib.Machine.Reachable.of_exec new passed
  exact ⟨s, log, of_decide_eq_true published,
    quantiles_ranked (reached.mono fun _ _ _ => trivial)⟩

end CameraRs.Frame
