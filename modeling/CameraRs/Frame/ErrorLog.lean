/-
The reports of rejected frames.

A hub reports an error at once, or counts it if it has reported one within the last second; the
next report says how many were counted. Threads read the clock before they take the pool lock, so
that the times of the errors come in any order.
-/

import CameraRs.Frame.Pool
import CameraRs.Lib.Spacing

namespace CameraRs.Frame

/-- A message, with the number of errors that it says were suppressed. -/
structure Report where
  time : Nat
  suppressed : Nat
deriving DecidableEq

def Report.text (report : Report) (backend error : String) : String :=
  if report.suppressed = 0 then backend ++ " frame rejected: " ++ error
  else backend ++ " frame rejected: " ++ error ++ " (" ++ toString report.suppressed ++
    " similar errors suppressed)"

def reportInterval : Nat := 1000000000

def Pool.logFrameError (pool : Pool) (now : Nat) : Pool × Option Report :=
  if pool.lastErrorReport.any fun previous => decide (now - previous < reportInterval) then
    ({ pool with suppressedErrorReports := pool.suppressedErrorReports + 1 }, none)
  else
    ({ pool with suppressedErrorReports := 0, lastErrorReport := some now },
      some ⟨now, pool.suppressedErrorReports⟩)

inductive PoolSection
  | reserve (heap : Heap) (unique : Storage → Bool) (layout : FrameLayout) (rgb : Bool)
      (length now : Nat)
  | inputDrop (now : Nat)
  | configure (unique : Storage → Bool) (memory : MemoryBudget)
  | start (now : Nat)
  | stop (now : Nat)
  | release (lease : Lease)
  | conversionError (activity : Bool) (now : Nat)
  | published (capturedAt elapsed : Nat)
  | frameError (now : Nat)

/-- A pool with the number of errors since the last start and the reports of them. -/
structure ErrorLog where
  pool : Pool
  errors : Nat := 0
  reports : List Report := []

namespace ErrorLog

def run (log : ErrorLog) : PoolSection → ErrorLog
  | .reserve heap unique layout rgb length now =>
      { log with pool := (log.pool.reserve heap unique layout rgb length now).1 }
  | .inputDrop now => { log with pool := (log.pool.receive now).dropFrame }
  | .configure unique memory => { log with pool := (log.pool.configure unique memory).2 }
  | .start now => { pool := log.pool.reset now }
  | .stop now => { log with pool := { log.pool with stopped := some now } }
  | .release lease => { log with pool := log.pool.release lease }
  | .conversionError activity now => { log with pool := log.pool.chargeError activity now }
  | .published capturedAt elapsed => { log with pool := log.pool.measure capturedAt elapsed }
  | .frameError now =>
      { pool := (log.pool.logFrameError now).1
        errors := log.errors + 1
        reports := log.reports ++ (log.pool.logFrameError now).2.toList }

/-- The pool knows when the last report was, and every error is reported or counted. -/
structure Sound (log : ErrorLog) : Prop where
  last : (log.reports.map Report.time).getLast? = log.pool.lastErrorReport
  apart : Lib.Apart reportInterval (log.reports.map Report.time)
  counted : (log.reports.map Report.suppressed).sum + log.reports.length +
    log.pool.suppressedErrorReports = log.errors

theorem Sound.keep {log : ErrorLog} (sound : log.Sound) {pool : Pool}
    (last : pool.lastErrorReport = log.pool.lastErrorReport)
    (suppressed : pool.suppressedErrorReports = log.pool.suppressedErrorReports) :
    ({ log with pool := pool } : ErrorLog).Sound :=
  ⟨sound.last.trans last.symm, sound.apart, by rw [suppressed]; exact sound.counted⟩

theorem reserve_keeps (pool : Pool) (heap : Heap) (unique : Storage → Bool)
    (layout : FrameLayout) (rgb : Bool) (length now : Nat) :
    (pool.reserve heap unique layout rgb length now).1.lastErrorReport = pool.lastErrorReport ∧
      (pool.reserve heap unique layout rgb length now).1.suppressedErrorReports =
        pool.suppressedErrorReports := by
  have chosen {found : Pool} {index : Nat} (choice : (pool.receive now).choose unique =
      some (found, index)) : found.lastErrorReport = pool.lastErrorReport ∧
        found.suppressedErrorReports = pool.suppressedErrorReports := by
    unfold Pool.choose at choice
    split at choice
    · cases choice
      exact ⟨rfl, rfl⟩
    · split at choice
      · cases choice
        exact ⟨rfl, rfl⟩
      · cases choice
  unfold Pool.reserve
  dsimp only
  split
  · exact ⟨rfl, rfl⟩
  · next found index choice =>
    obtain ⟨last, suppressed⟩ := chosen choice
    unfold Pool.take
    dsimp only
    split
    · split
      · exact ⟨last, suppressed⟩
      · exact ⟨last, suppressed⟩
    · split
      · exact ⟨last, suppressed⟩
      · exact ⟨last, suppressed⟩

private theorem configure_keeps (pool : Pool) (unique : Storage → Bool) (memory : MemoryBudget) :
    (pool.configure unique memory).2.lastErrorReport = pool.lastErrorReport ∧
      (pool.configure unique memory).2.suppressedErrorReports = pool.suppressedErrorReports := by
  unfold Pool.configure
  split
  · exact ⟨rfl, rfl⟩
  · dsimp only
    split
    · exact ⟨rfl, rfl⟩
    · exact ⟨rfl, rfl⟩

private theorem chargeError_keeps (pool : Pool) (activity : Bool) (now : Nat) :
    (pool.chargeError activity now).lastErrorReport = pool.lastErrorReport ∧
      (pool.chargeError activity now).suppressedErrorReports = pool.suppressedErrorReports := by
  cases activity <;> exact ⟨rfl, rfl⟩

theorem Sound.frameError {log : ErrorLog} (sound : log.Sound) (now : Nat) :
    (log.run (.frameError now)).Sound := by
  by_cases recent : (log.pool.lastErrorReport.any fun previous =>
      decide (now - previous < reportInterval)) = true
  · have counted : log.run (.frameError now) =
        { log with
          pool := { log.pool with suppressedErrorReports := log.pool.suppressedErrorReports + 1 }
          errors := log.errors + 1 } := by
      simp only [run, Pool.logFrameError, recent, if_true, Option.toList_none, List.append_nil]
    rw [counted]
    refine ⟨sound.last, sound.apart, ?_⟩
    exact congrArg Nat.succ sound.counted
  · have reported : log.run (.frameError now) =
        { pool := { log.pool with suppressedErrorReports := 0, lastErrorReport := some now }
          errors := log.errors + 1
          reports := log.reports ++ [⟨now, log.pool.suppressedErrorReports⟩] } := by
      simp only [run, Pool.logFrameError, recent, Bool.false_eq_true, if_false,
        Option.toList_some]
    have behind (t : Nat) (found : (log.reports.map Report.time).getLast? = some t) :
        t + reportInterval ≤ now := by
      rw [← sound.last, found, Option.any_some, decide_eq_true_eq, Nat.not_lt] at recent
      unfold reportInterval at recent ⊢
      omega
    rw [reported]
    refine ⟨?_, ?_, ?_⟩
    · simp only [List.map_append, List.map_cons, List.map_nil, List.getLast?_append,
        List.getLast?_singleton, Option.some_or]
    · simp only [List.map_append, List.map_cons, List.map_nil]
      exact sound.apart.snoc behind
    · have counted := sound.counted
      simp only [List.map_append, List.map_cons, List.map_nil, List.sum_append,
        List.sum_singleton, List.length_append, List.length_singleton]
      omega

theorem run_sound {log : ErrorLog} (sound : log.Sound) (taken : PoolSection) :
    (log.run taken).Sound := by
  cases taken with
  | reserve heap unique layout rgb length now =>
      obtain ⟨last, suppressed⟩ := reserve_keeps log.pool heap unique layout rgb length now
      exact sound.keep last suppressed
  | inputDrop now => exact sound.keep rfl rfl
  | configure unique memory =>
      obtain ⟨last, suppressed⟩ := configure_keeps log.pool unique memory
      exact sound.keep last suppressed
  | start now => exact ⟨rfl, List.isChain_nil, rfl⟩
  | stop now => exact sound.keep rfl rfl
  | release lease => exact sound.keep rfl rfl
  | conversionError activity now =>
      obtain ⟨last, suppressed⟩ := chargeError_keeps log.pool activity now
      exact sound.keep last suppressed
  | published capturedAt elapsed => exact sound.keep rfl rfl
  | frameError now => exact sound.frameError now

end ErrorLog

end CameraRs.Frame
