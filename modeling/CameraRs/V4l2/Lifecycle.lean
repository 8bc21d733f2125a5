/-
What holds while callers and workers interleave: at most one worker runs, it belongs to the session
of the hub, and whoever finds the camera streaming finds the configuration that the worker reported.
-/

import CameraRs.V4l2.Worker

namespace CameraRs.V4l2

open Lib

def ClientPc.holds : ClientPc → Bool
  | .idle => false
  | .locking _ => false
  | _ => true

/-- Its `StopHub` is not dropped yet. -/
def Thread.live (t : Thread) : Bool :=
  match t.pc with
  | .ended _ => false
  | _ => true

/-- A worker sends once, and captures what it sent. -/
def Thread.Told (t : Thread) : Prop :=
  match t.pc with
  | .setup => t.message = none
  | .reporting _ => t.message = none
  | .capturing actual => t.message = some (.ok actual)
  | _ => True

namespace Inner

variable {s s' : Inner} {k : ClientId} {w : ThreadId} {t t' : Thread} {outcome : Outcome}

/-! ### The invariant -/

def OnlyLive (s : Inner) (owner : Option ThreadId) : Prop :=
  ∀ w t, s.threads w = some t → t.live = true → owner = some w

structure Blank (s : Inner) : Prop where
  worker : s.worker = none
  wake : s.wake = none
  config : s.config = none
  only : s.OnlyLive none

/-- A worker can be woken and joined. -/
structure Kept (s : Inner) : Prop where
  only : s.OnlyLive s.worker
  wake : s.wake = s.worker
  known : ∀ w, s.worker = some w → ∃ t, s.threads w = some t

structure Runs (s : Inner) (w : ThreadId) (t : Thread) (actual : CameraConfig) : Prop where
  worker : s.worker = some w
  thread : s.threads w = some t
  live : t.live = true
  reported : t.message = some (.ok actual)
  config : s.config = some actual
  buffers : t.buffers = s.buffers

structure Rest (s : Inner) : Prop extends Kept s where
  running : s.active = true → ∃ w t actual, s.Runs w t actual

/-- A worker that `start` waits for. -/
structure Awaited (s : Inner) (w : ThreadId) (t : Thread) : Prop where
  worker : s.worker = some w
  wake : s.wake = some w
  config : s.config = none
  only : s.OnlyLive (some w)
  thread : s.threads w = some t
  listening : t.listening = true
  buffers : t.buffers = s.buffers
  live : s.active = true → t.live = true

structure Joined (s : Inner) (w : ThreadId) (t : Thread) : Prop where
  worker : s.worker = none
  wake : s.wake = none
  config : s.config = none
  only : s.OnlyLive (some w)
  inactive : s.active = false
  thread : s.threads w = some t
  woken : t.woken = true

/-- What the holder of the mutex relies on. -/
def Fits (s : Inner) : ClientPc → Prop
  | .idle => True
  | .locking _ => True
  | .checking _ => s.Rest
  | .stopping _ => s.Kept
  | .waking _ => s.Kept ∧ s.active = false
  | .joining w _ => ∃ t, s.Joined w t
  | .pairing _ => s.Blank ∧ s.active = false
  | .beginning _ => s.Blank ∧ s.active = false
  | .spawning _ => s.Blank ∧ ∀ w t, s.threads w = some t → t.session < s.session
  | .unwinding _ => s.Blank
  | .receiving w => ∃ t, s.Awaited w t

def Locks (s : Inner) : Prop := ∀ k, (s.clients k).holds = true ↔ s.lock = some k

/-- The sessions of the workers, and what was published under them. -/
structure Threads (s : Inner) : Prop where
  fresh : ∀ w t, s.threads w = some t → w < s.spawned
  earlier : ∀ w t, s.threads w = some t → t.session ≤ s.session
  current : ∀ w t, s.threads w = some t → t.live = true → t.session = s.session
  numbered : s.session < s.nextSession
  unique : ∀ v w t t', s.threads v = some t → s.threads w = some t' → t.session = t'.session →
    v = w
  told : ∀ w t, s.threads w = some t → t.Told
  published : ∀ p ∈ s.published, ∃ t, s.threads p.1 = some t ∧ t.session = p.2

structure Sound (s : Inner) : Prop where
  locks : s.Locks
  threads : s.Threads
  fits : ∀ k, s.lock = some k → s.Fits (s.clients k)
  rest : s.lock = none → s.Rest

/-! ### Steps of a worker -/

/-- What a step of worker `w` may change. -/
structure Turn (s : Inner) (w : ThreadId) (t t' : Thread) (s' : Inner) : Prop where
  before : s.threads w = some t
  threads : s'.threads = Function.update s.threads w (some t')
  live : t.live = true
  session : t'.session = t.session
  buffers : t'.buffers = t.buffers
  woken : t'.woken = t.woken
  listening : t'.listening = t.listening
  told : t.Told → t'.Told
  message : t.Told → ∀ result, t.message = some result → t'.message = some result
  active : s'.active = true → s.active = true ∧ t'.live = true
  published : s'.published = s.published ∨
    t.session = s.session ∧ s'.published = s.published ++ [(w, s.session)]
  same : s'.lock = s.lock ∧ s'.worker = s.worker ∧ s'.wake = s.wake ∧ s'.config = s.config ∧
    s'.buffers = s.buffers ∧ s'.session = s.session ∧ s'.nextSession = s.nextSession ∧
    s'.spawned = s.spawned ∧ s'.clients = s.clients

theorem turn_setThread (before : s.threads w = some t) (live : t.live = true)
    (still : t'.live = true) (session : t'.session = t.session) (buffers : t'.buffers = t.buffers)
    (woken : t'.woken = t.woken) (listening : t'.listening = t.listening)
    (told : t.Told → t'.Told)
    (message : t.Told → ∀ result, t.message = some result → t'.message = some result) :
    s.Turn w t t' (s.setThread w t') :=
  { before := before
    threads := rfl
    live := live
    session := session
    buffers := buffers
    woken := woken
    listening := listening
    told := told
    message := message
    active := fun active => ⟨active, still⟩
    published := Or.inl rfl
    same := ⟨rfl, rfl, rfl, rfl, rfl, rfl, rfl, rfl, rfl⟩ }

theorem turn_dropping (before : s.threads w = some t) (live : t.live = true)
    (result : Option (CameraResult Unit)) :
    s.Turn w t { t with pc := .dropping result }
      (s.setThread w { t with pc := .dropping result }) :=
  turn_setThread before live rfl rfl rfl rfl rfl (fun _ => trivial) fun _ _ known => known

theorem turn_same (before : s.threads w = some t) (live : t.live = true) : s.Turn w t t s :=
  { before := before
    threads := (Function.update_eq_self_iff.mpr before.symm).symm
    live := live
    session := rfl
    buffers := rfl
    woken := rfl
    listening := rfl
    told := id
    message := fun _ _ known => known
    active := fun active => ⟨active, live⟩
    published := Or.inl rfl
    same := ⟨rfl, rfl, rfl, rfl, rfl, rfl, rfl, rfl, rfl⟩ }

private theorem capture_turn (before : s.threads w = some t) (live : t.live = true) :
    ∃ t', s.Turn w t t' (s.capture w t outcome) := by
  unfold capture
  split
  · exact ⟨_, turn_dropping before live _⟩
  · split
    · exact ⟨_, turn_dropping before live _⟩
    · split
      · split
        · rename_i open_session
          exact ⟨t, { turn_same before live with
            published := Or.inr ⟨open_session.2, rfl⟩ }⟩
        · exact ⟨t, turn_same before live⟩
      · exact ⟨_, turn_dropping before live _⟩
      · exact ⟨_, turn_dropping before live _⟩
      · exact ⟨t, turn_same before live⟩

theorem thread_turn (taken : s.thread w outcome = some s') : ∃ t t', s.Turn w t t' s' := by
  unfold thread at taken
  cases before : s.threads w with
  | none =>
      rw [before] at taken
      cases taken
  | some t =>
      simp only [before] at taken
      refine ⟨t, ?_⟩
      cases pc : t.pc with
      | setup =>
          have live : t.live = true := by rw [Thread.live, pc]
          simp only [pc] at taken
          split at taken
          · cases taken
            refine ⟨_, turn_setThread before live rfl rfl rfl rfl rfl (fun told => ?_)
              fun _ _ known => known⟩
            rw [Thread.Told, pc] at told
            exact told
          · cases taken
            exact ⟨_, turn_dropping before live _⟩
      | reporting result =>
          have live : t.live = true := by rw [Thread.live, pc]
          have silent (told : t.Told) : t.message = none := by
            rwa [Thread.Told, pc] at told
          simp only [pc] at taken
          have first (told : t.Told) (sent : CameraResult CameraConfig)
              (known : t.message = some sent) : False := by
            rw [silent told] at known
            cases known
          split at taken
          · split at taken
            · cases taken
              exact ⟨_, turn_setThread before live rfl rfl rfl rfl rfl (fun _ => rfl)
                fun told sent known => (first told sent known).elim⟩
            · cases taken
              exact ⟨_, turn_setThread before live rfl rfl rfl rfl rfl (fun _ => trivial)
                fun told sent known => (first told sent known).elim⟩
          · cases taken
            exact ⟨_, turn_setThread before live rfl rfl rfl rfl rfl (fun _ => trivial)
              fun told sent known => (first told sent known).elim⟩
      | capturing actual =>
          have live : t.live = true := by rw [Thread.live, pc]
          simp only [pc, Option.some.injEq] at taken
          subst taken
          exact capture_turn before live
      | dropping result =>
          have live : t.live = true := by rw [Thread.live, pc]
          simp only [pc, Option.some.injEq] at taken
          subst taken
          exact ⟨{ t with pc := .ended result },
            { before := before
              threads := rfl
              live := live
              session := rfl
              buffers := rfl
              woken := rfl
              listening := rfl
              told := fun _ => trivial
              message := fun _ _ known => known
              active := fun active => absurd active Bool.false_ne_true
              published := Or.inl rfl
              same := ⟨rfl, rfl, rfl, rfl, rfl, rfl, rfl, rfl, rfl⟩ }⟩
      | ended result =>
          simp only [pc] at taken
          cases taken

/-- A worker before and after a step of any worker. -/
structure Follows (s' : Inner) (u u' : Thread) : Prop where
  session : u'.session = u.session
  buffers : u'.buffers = u.buffers
  woken : u'.woken = u.woken
  listening : u'.listening = u.listening
  told : u.Told → u'.Told
  message : u.Told → ∀ result, u.message = some result → u'.message = some result
  live : s'.active = true → u.live = true → u'.live = true

variable {v : ThreadId} {u u' : Thread} {owner : Option ThreadId}

theorem Turn.follow (turn : s.Turn w t t' s') (known : s.threads v = some u) :
    ∃ u', s'.threads v = some u' ∧ Follows s' u u' := by
  rw [turn.threads]
  by_cases same : v = w
  · subst same
    obtain rfl : t = u := Option.some.inj (turn.before.symm.trans known)
    exact ⟨t', Function.update_self _ _ _,
      { session := turn.session
        buffers := turn.buffers
        woken := turn.woken
        listening := turn.listening
        told := turn.told
        message := turn.message
        live := fun active _ => (turn.active active).2 }⟩
  · refine ⟨u, by rw [Function.update_of_ne same, known], ?_⟩
    exact ⟨rfl, rfl, rfl, rfl, id, fun _ _ known => known, fun _ live => live⟩

theorem Turn.back (turn : s.Turn w t t' s') (known : s'.threads v = some u') :
    ∃ u, s.threads v = some u ∧ Follows s' u u' ∧ (u'.live = true → u.live = true) := by
  obtain ⟨u, before⟩ : ∃ u, s.threads v = some u := by
    rw [turn.threads] at known
    by_cases same : v = w
    · exact ⟨t, same ▸ turn.before⟩
    · rw [Function.update_of_ne same] at known
      exact ⟨u', known⟩
  obtain ⟨u'', after, follows⟩ := turn.follow before
  obtain rfl : u'' = u' := Option.some.inj (after.symm.trans known)
  refine ⟨u, before, follows, fun live => ?_⟩
  by_cases same : v = w
  · subst same
    obtain rfl : t = u := Option.some.inj (turn.before.symm.trans before)
    exact turn.live
  · rw [turn.threads, Function.update_of_ne same, before] at after
    exact Option.some.inj after ▸ live

theorem Turn.only (turn : s.Turn w t t' s') (only : s.OnlyLive owner) : s'.OnlyLive owner := by
  intro v u' known live
  obtain ⟨u, before, -, alive⟩ := turn.back known
  exact only v u before (alive live)

theorem Turn.kept (turn : s.Turn w t t' s') (kept : s.Kept) : s'.Kept := by
  obtain ⟨-, worker, wake, -⟩ := turn.same
  refine ⟨worker ▸ turn.only kept.only, by rw [wake, worker, kept.wake], fun v found => ?_⟩
  obtain ⟨u, known⟩ := kept.known v (worker ▸ found)
  obtain ⟨u', after, -⟩ := turn.follow known
  exact ⟨u', after⟩

theorem Turn.inactive (turn : s.Turn w t t' s') (inactive : s.active = false) :
    s'.active = false := by
  cases active : s'.active with
  | false => rfl
  | true => exact absurd ((turn.active active).1.symm.trans inactive) (by decide)

theorem Turn.rest (turn : s.Turn w t t' s') (threads : s.Threads) (rest : s.Rest) : s'.Rest := by
  refine ⟨turn.kept rest.toKept, fun active => ?_⟩
  obtain ⟨-, worker, -, config, buffers, -⟩ := turn.same
  obtain ⟨v, u, actual, runs⟩ := rest.running (turn.active active).1
  obtain ⟨u', after, follows⟩ := turn.follow runs.thread
  exact ⟨v, u', actual,
    { worker := worker.trans runs.worker
      thread := after
      live := follows.live active runs.live
      reported := follows.message (threads.told v u runs.thread) _ runs.reported
      config := config.trans runs.config
      buffers := by rw [follows.buffers, runs.buffers, buffers] }⟩

theorem Turn.blank (turn : s.Turn w t t' s') (blank : s.Blank) : s'.Blank := by
  obtain ⟨-, worker, wake, config, -⟩ := turn.same
  exact ⟨worker.trans blank.worker, wake.trans blank.wake, config.trans blank.config,
    turn.only blank.only⟩

theorem Turn.fits (turn : s.Turn w t t' s') (threads : s.Threads) {pc : ClientPc}
    (fits : s.Fits pc) : s'.Fits pc := by
  obtain ⟨-, worker, wake, config, buffers, session, -⟩ := turn.same
  cases pc with
  | idle => trivial
  | locking => trivial
  | checking => exact turn.rest threads fits
  | stopping => exact turn.kept fits
  | waking => exact ⟨turn.kept fits.1, turn.inactive fits.2⟩
  | pairing => exact ⟨turn.blank fits.1, turn.inactive fits.2⟩
  | beginning => exact ⟨turn.blank fits.1, turn.inactive fits.2⟩
  | unwinding => exact turn.blank fits
  | spawning =>
      refine ⟨turn.blank fits.1, fun v u' known => ?_⟩
      obtain ⟨u, before, follows, -⟩ := turn.back known
      rw [follows.session, session]
      exact fits.2 v u before
  | joining v after =>
      obtain ⟨u, joined⟩ := fits
      obtain ⟨u', known, follows⟩ := turn.follow joined.thread
      exact ⟨u',
        { worker := worker.trans joined.worker
          wake := wake.trans joined.wake
          config := config.trans joined.config
          only := turn.only joined.only
          inactive := turn.inactive joined.inactive
          thread := known
          woken := follows.woken.trans joined.woken }⟩
  | receiving v =>
      obtain ⟨u, awaited⟩ := fits
      obtain ⟨u', known, follows⟩ := turn.follow awaited.thread
      exact ⟨u',
        { worker := worker.trans awaited.worker
          wake := wake.trans awaited.wake
          config := config.trans awaited.config
          only := turn.only awaited.only
          thread := known
          listening := follows.listening.trans awaited.listening
          buffers := by rw [follows.buffers, awaited.buffers, buffers]
          live := fun active => follows.live active (awaited.live (turn.active active).1) }⟩

private theorem Turn.threads_kept (turn : s.Turn w t t' s') (threads : s.Threads) : s'.Threads := by
  obtain ⟨-, -, -, -, -, session, nextSession, spawned, -⟩ := turn.same
  refine ⟨fun v u' known => ?_, fun v u' known => ?_, fun v u' known live => ?_, ?_,
    fun v x u' x' known other same => ?_, fun v u' known => ?_, fun p member => ?_⟩
  · obtain ⟨u, before, -, -⟩ := turn.back known
    rw [spawned]
    exact threads.fresh v u before
  · obtain ⟨u, before, follows, -⟩ := turn.back known
    rw [follows.session, session]
    exact threads.earlier v u before
  · obtain ⟨u, before, follows, alive⟩ := turn.back known
    rw [follows.session, session]
    exact threads.current v u before (alive live)
  · rw [session, nextSession]
    exact threads.numbered
  · obtain ⟨u, before, follows, -⟩ := turn.back known
    obtain ⟨y, beforeOther, followsOther, -⟩ := turn.back other
    rw [follows.session, followsOther.session] at same
    exact threads.unique v x u y before beforeOther same
  · obtain ⟨u, before, follows, -⟩ := turn.back known
    exact follows.told (threads.told v u before)
  · have earlier (old : p ∈ s.published) : ∃ u, s'.threads p.1 = some u ∧ u.session = p.2 := by
      obtain ⟨u, before, same⟩ := threads.published p old
      obtain ⟨u', after, follows⟩ := turn.follow before
      exact ⟨u', after, follows.session.trans same⟩
    rcases turn.published with same | ⟨current, more⟩
    · exact earlier (same ▸ member)
    · rw [more, List.mem_append, List.mem_singleton] at member
      rcases member with old | rfl
      · exact earlier old
      · obtain ⟨u', after, follows⟩ := turn.follow turn.before
        exact ⟨u', after, follows.session.trans current⟩

theorem Turn.sound (turn : s.Turn w t t' s') (sound : s.Sound) : s'.Sound := by
  obtain ⟨lock, -, -, -, -, -, -, -, clients⟩ := turn.same
  refine ⟨fun k => ?_, turn.threads_kept sound.threads, fun k held => ?_, fun free => ?_⟩
  · rw [lock, clients]
    exact sound.locks k
  · rw [clients]
    exact turn.fits sound.threads (sound.fits k (lock ▸ held))
  · exact turn.rest sound.threads (sound.rest (lock ▸ free))

/-! ### Steps of a caller -/

variable {p : ClientPc}

theorem Locks.moves (locks : s.Locks) (alone : ∀ j, s.lock = some j → j = k)
    (clients : s'.clients = Function.update s.clients k p)
    (lock : s'.lock = if p.holds then some k else none) : s'.Locks := by
  intro j
  rw [clients, lock]
  by_cases same : j = k
  · subst same
    rw [Function.update_self]
    cases p.holds <;> simp
  · rw [Function.update_of_ne same, locks j]
    constructor
    · exact fun held => absurd (alone j held) same
    · split
      · exact fun held => absurd (Option.some.inj held).symm same
      · exact fun held => nomatch held

theorem Sound.kept (locks : s'.Locks) (threads : s'.Threads) (held : s'.lock = some k)
    (here : s'.clients k = p) (fits : s'.Fits p) : s'.Sound :=
  { locks := locks
    threads := threads
    fits := fun j other => by
      obtain rfl : k = j := Option.some.inj (held.symm.trans other)
      exact here ▸ fits
    rest := fun free => nomatch held.symm.trans free }

theorem Sound.released (locks : s'.Locks) (threads : s'.Threads) (free : s'.lock = none)
    (rest : s'.Rest) : s'.Sound :=
  ⟨locks, threads, fun _ held => (nomatch free.symm.trans held), fun _ => rest⟩

theorem Threads.same (threads : s.Threads) (eq : s'.threads = s.threads)
    (session : s'.session = s.session) (nextSession : s.nextSession ≤ s'.nextSession)
    (spawned : s'.spawned = s.spawned) (published : s'.published = s.published) : s'.Threads := by
  have numbered := threads.numbered
  refine ⟨?_, ?_, ?_, by omega, ?_, ?_, ?_⟩ <;> simp only [eq, session, spawned, published]
  · exact threads.fresh
  · exact threads.earlier
  · exact threads.current
  · exact threads.unique
  · exact threads.told
  · exact threads.published

theorem Kept.congr (kept : s.Kept) (threads : s'.threads = s.threads)
    (worker : s'.worker = s.worker) (wake : s'.wake = s.wake) : s'.Kept := by
  refine ⟨?_, by rw [wake, worker, kept.wake], ?_⟩
  · rw [OnlyLive, threads, worker]
    exact kept.only
  · rw [threads, worker]
    exact kept.known

theorem Rest.congr (rest : s.Rest) (threads : s'.threads = s.threads)
    (worker : s'.worker = s.worker) (wake : s'.wake = s.wake) (config : s'.config = s.config)
    (active : s'.active = s.active) (buffers : s'.active = true → s'.buffers = s.buffers) :
    s'.Rest := by
  refine ⟨rest.toKept.congr threads worker wake, fun streaming => ?_⟩
  obtain ⟨w, t, actual, runs⟩ := rest.running (active ▸ streaming)
  exact ⟨w, t, actual,
    { worker := worker.trans runs.worker
      thread := threads ▸ runs.thread
      live := runs.live
      reported := runs.reported
      config := config.trans runs.config
      buffers := runs.buffers.trans (buffers streaming).symm }⟩

theorem Blank.congr (blank : s.Blank) (threads : s'.threads = s.threads)
    (worker : s'.worker = s.worker) (wake : s'.wake = s.wake) (config : s'.config = s.config) :
    s'.Blank := by
  refine ⟨worker.trans blank.worker, wake.trans blank.wake, config.trans blank.config, ?_⟩
  rw [OnlyLive, threads]
  exact blank.only

theorem OnlyLive.congr (only : s.OnlyLive owner) (threads : s'.threads = s.threads) :
    s'.OnlyLive owner := by
  rw [OnlyLive, threads]
  exact only

theorem Fits.congr (fits : s.Fits p) (threads : s'.threads = s.threads)
    (worker : s'.worker = s.worker) (wake : s'.wake = s.wake) (config : s'.config = s.config)
    (active : s'.active = s.active) (buffers : s'.buffers = s.buffers)
    (session : s'.session = s.session) : s'.Fits p := by
  cases p with
  | idle => trivial
  | locking => trivial
  | checking => exact Rest.congr fits threads worker wake config active fun _ => buffers
  | stopping => exact Kept.congr fits threads worker wake
  | waking => exact ⟨Kept.congr fits.1 threads worker wake, active.trans fits.2⟩
  | pairing => exact ⟨Blank.congr fits.1 threads worker wake config, active.trans fits.2⟩
  | beginning => exact ⟨Blank.congr fits.1 threads worker wake config, active.trans fits.2⟩
  | unwinding => exact Blank.congr fits threads worker wake config
  | spawning =>
      refine ⟨Blank.congr fits.1 threads worker wake config, ?_⟩
      rw [threads, session]
      exact fits.2
  | joining w after =>
      obtain ⟨t, joined⟩ := fits
      exact ⟨t,
        { worker := worker.trans joined.worker
          wake := wake.trans joined.wake
          config := config.trans joined.config
          only := joined.only.congr threads
          inactive := active.trans joined.inactive
          thread := threads ▸ joined.thread
          woken := joined.woken }⟩
  | receiving w =>
      obtain ⟨t, awaited⟩ := fits
      exact ⟨t,
        { worker := worker.trans awaited.worker
          wake := wake.trans awaited.wake
          config := config.trans awaited.config
          only := awaited.only.congr threads
          thread := threads ▸ awaited.thread
          listening := awaited.listening
          buffers := awaited.buffers.trans buffers.symm
          live := fun streaming => awaited.live (active ▸ streaming) }⟩

theorem Blank.rest (blank : s.Blank) (inactive : s.active = false) : s.Rest where
  only := by
    rw [blank.worker]
    exact blank.only
  wake := by rw [blank.wake, blank.worker]
  known w found := nomatch blank.worker.symm.trans found
  running active := nomatch inactive.symm.trans active

theorem reply_sound (locks : s.Locks) (threads : s.Threads) (alone : ∀ j, s.lock = some j → j = k)
    (rest : s.Rest) (reply : Reply) : (s.reply k reply).Sound :=
  .released (locks.moves alone rfl rfl) (threads.same rfl rfl (Nat.le_refl _) rfl rfl) rfl
    (rest.congr rfl rfl rfl rfl rfl fun _ => rfl)

theorem at_sound (locks : s.Locks) (threads : s.Threads) (held : s.lock = some k)
    (holds : p.holds = true) (fits : (s.at' k p).Fits p) : (s.at' k p).Sound :=
  .kept (locks.moves (k := k) (p := p)
      (fun _ other => Option.some.inj (other.symm.trans held)) rfl (by rw [holds]; exact held))
    (threads.same rfl rfl (Nat.le_refl _) rfl rfl) held (Function.update_self _ _ _) fits

private theorem check_sound (locks : s.Locks) (threads : s.Threads) (held : s.lock = some k)
    (rest : s.Rest) (request : Request) : (s.check k request).Sound := by
  have alone (j : ClientId) (other : s.lock = some j) : j = k :=
    Option.some.inj (other.symm.trans held)
  have stopping (after : Continuation) : (s.at' k (.stopping after)).Sound :=
    at_sound locks threads held rfl (rest.toKept.congr rfl rfl rfl)
  cases request with
  | start config =>
      rw [check]
      split
      · exact reply_sound locks threads alone rest _
      · exact stopping _
  | stop => exact stopping _
  | getConfig => exact reply_sound locks threads alone rest _
  | setBufferSize size =>
      rw [check]
      split
      · exact reply_sound locks threads alone rest _
      · rename_i inactive
        exact @reply_sound { s with buffers := size } k locks
          (threads.same rfl rfl (Nat.le_refl _) rfl rfl) alone
          (rest.congr rfl rfl rfl rfl rfl fun active => absurd active inactive) _

theorem proceed_sound (locks : s.Locks) (threads : s.Threads) (held : s.lock = some k)
    (blank : s.Blank) (inactive : s.active = false) (result : CameraResult Unit)
    (after : Continuation) : (s.proceed k result after).Sound := by
  have alone (j : ClientId) (other : s.lock = some j) : j = k :=
    Option.some.inj (other.symm.trans held)
  cases after with
  | answer => exact reply_sound locks threads alone (blank.rest inactive) _
  | refuse e => exact reply_sound locks threads alone (blank.rest inactive) _
  | launch config =>
      exact at_sound locks threads held rfl ⟨blank.congr rfl rfl rfl rfl, inactive⟩

theorem Threads.mark (threads : s.Threads) (known : s.threads w = some t)
    (session : t'.session = t.session) (live : t'.live = t.live) (told : t.Told → t'.Told) :
    (s.setThread w t').Threads := by
  have back {v : ThreadId} {u' : Thread} (after : (s.setThread w t').threads v = some u') :
      ∃ u, s.threads v = some u ∧ u'.session = u.session ∧ u'.live = u.live ∧
        (u.Told → u'.Told) := by
    by_cases same : v = w
    · subst same
      obtain rfl : t' = u' := Option.some.inj ((setThread_self s).symm.trans after)
      exact ⟨t, known, session, live, told⟩
    · exact ⟨u', (setThread_other s same).symm.trans after, rfl, rfl, id⟩
  refine ⟨fun v u' after => ?_, fun v u' after => ?_, fun v u' after alive => ?_,
    threads.numbered, fun v x u' x' after other same => ?_, fun v u' after => ?_,
    fun p member => ?_⟩
  · obtain ⟨u, before, -⟩ := back after
    exact threads.fresh v u before
  · obtain ⟨u, before, eq, -⟩ := back after
    exact eq ▸ threads.earlier v u before
  · obtain ⟨u, before, eq, alike, -⟩ := back after
    exact eq ▸ threads.current v u before (alike ▸ alive)
  · obtain ⟨u, before, eq, -⟩ := back after
    obtain ⟨y, beforeOther, eqOther, -⟩ := back other
    exact threads.unique v x u y before beforeOther (eq ▸ eqOther ▸ same)
  · obtain ⟨u, before, -, -, tells⟩ := back after
    exact tells (threads.told v u before)
  · obtain ⟨u, before, eq⟩ := threads.published p member
    by_cases same : p.1 = w
    · refine ⟨t', ?_, ?_⟩
      · rw [same, setThread_self]
      · rw [same] at before
        obtain rfl : t = u := Option.some.inj (known.symm.trans before)
        exact session.trans eq
    · exact ⟨u, (setThread_other s same).trans before, eq⟩

theorem OnlyLive.mark (only : s.OnlyLive owner) (known : s.threads w = some t)
    (live : t'.live = t.live) : (s.setThread w t').OnlyLive owner := by
  intro v u after alive
  by_cases same : v = w
  · subst same
    obtain rfl : t' = u := Option.some.inj ((setThread_self s).symm.trans after)
    exact only v t known (live ▸ alive)
  · exact only v u ((setThread_other s same).symm.trans after) alive

private theorem takeWorker_sound (locks : s.Locks) (threads : s.Threads) (held : s.lock = some k)
    (kept : s.Kept) (inactive : s.active = false) (after : Continuation) :
    (s.takeWorker k after).Sound := by
  unfold takeWorker
  cases found : s.worker with
  | none =>
      have none_woken : s.wakeWorker = { s with wake := none, config := none } := by
        rw [wakeWorker, kept.wake, found]
        rfl
      have only := kept.only
      rw [found] at only
      dsimp only
      rw [none_woken]
      exact @proceed_sound { s with wake := none, config := none } k locks
        (threads.same rfl rfl (Nat.le_refl _) rfl rfl) held ⟨found, rfl, rfl, only⟩ inactive
        (.ok ()) after
  | some w =>
      obtain ⟨t, known⟩ := kept.known w found
      have woken : s.wakeWorker =
          { s.setThread w { t with woken := true } with wake := none, config := none } := by
        rw [wakeWorker, kept.wake, found, Option.bind_some, known]
        rfl
      have only := kept.only
      rw [found] at only
      have marked := @Threads.mark s w t { t with woken := true } threads known rfl rfl id
      dsimp only
      rw [woken]
      exact @at_sound { s.setThread w { t with woken := true } with
          wake := none, config := none, worker := none } k (.joining w after) locks
        (marked.same rfl rfl (Nat.le_refl _) rfl rfl) held rfl ⟨{ t with woken := true },
          { worker := rfl
            wake := rfl
            config := rfl
            only := only.mark known rfl
            inactive := inactive
            thread := setThread_self s
            woken := rfl }⟩

theorem Joined.blank {result : Option (CameraResult Unit)} (joined : s.Joined w t)
    (ended : t.pc = .ended result) : s.Blank := by
  refine ⟨joined.worker, joined.wake, joined.config, fun v u known alive => ?_⟩
  obtain rfl := Option.some.inj (joined.only v u known alive)
  obtain rfl : t = u := Option.some.inj (joined.thread.symm.trans known)
  rw [Thread.live, ended] at alive
  cases alive

private theorem spawn_threads (threads : s.Threads) (only : s.OnlyLive none)
    (newest : ∀ w t, s.threads w = some t → t.session < s.session) (config : CameraConfig) :
    (s.spawn k config).Threads := by
  have cases_new {v : ThreadId} {u : Thread} (after : (s.spawn k config).threads v = some u) :
      v = s.spawned ∧ u = { config := config, buffers := s.buffers, session := s.session } ∨
        s.threads v = some u := by
    by_cases same : v = s.spawned
    · subst same
      exact Or.inl ⟨rfl, (Option.some.inj ((spawn_self s).symm.trans after)).symm⟩
    · exact Or.inr ((spawn_other s same).symm.trans after)
  have dead {v : ThreadId} {u : Thread} (before : s.threads v = some u) : u.live ≠ true :=
    fun alive => nomatch only v u before alive
  refine ⟨fun v u after => ?_, fun v u after => ?_, fun v u after alive => ?_,
    threads.numbered, fun v x u y after other same => ?_, fun v u after => ?_,
    fun p member => ?_⟩
  · rcases cases_new after with ⟨rfl, -⟩ | before
    · exact Nat.lt_succ_self _
    · exact Nat.lt_succ_of_lt (threads.fresh v u before)
  · rcases cases_new after with ⟨-, rfl⟩ | before
    · exact Nat.le_refl _
    · exact threads.earlier v u before
  · rcases cases_new after with ⟨-, rfl⟩ | before
    · rfl
    · exact absurd alive (dead before)
  · rcases cases_new after with ⟨rfl, rfl⟩ | before <;>
      rcases cases_new other with ⟨rfl, rfl⟩ | beforeOther
    · rfl
    · exact absurd same (Nat.ne_of_gt (newest x y beforeOther))
    · exact absurd same (Nat.ne_of_lt (newest v u before))
    · exact threads.unique v x u y before beforeOther same
  · rcases cases_new after with ⟨-, rfl⟩ | before
    · rfl
    · exact threads.told v u before
  · obtain ⟨u, before, eq⟩ := threads.published p member
    have old : p.1 ≠ s.spawned := Nat.ne_of_lt (threads.fresh _ _ before)
    exact ⟨u, (spawn_other s old).trans before, eq⟩

private theorem spawn_sound (locks : s.Locks) (threads : s.Threads) (held : s.lock = some k)
    (blank : s.Blank) (newest : ∀ w t, s.threads w = some t → t.session < s.session)
    (config : CameraConfig) : (s.spawn k config).Sound := by
  have alone (j : ClientId) (other : s.lock = some j) : j = k :=
    Option.some.inj (other.symm.trans held)
  refine .kept (k := k) (p := .receiving s.spawned) (locks.moves alone rfl held)
    (spawn_threads threads blank.only newest config) held (Function.update_self _ _ _)
    ⟨{ config := config, buffers := s.buffers, session := s.session }, ?_⟩
  exact
    { worker := rfl
      wake := rfl
      config := blank.config
      only := fun v u after alive => by
        by_cases same : v = s.spawned
        · rw [same]
        · exact nomatch blank.only v u ((spawn_other s same).symm.trans after) alive
      thread := spawn_self s
      listening := rfl
      buffers := rfl
      live := fun _ => rfl }

private theorem receive_sound (locks : s.Locks) (threads : s.Threads) (held : s.lock = some k)
    (awaited : s.Awaited w t) (taken : s.receive k w t = some s') : s'.Sound := by
  have alone (j : ClientId) (other : s.lock = some j) : j = k :=
    Option.some.inj (other.symm.trans held)
  have marked : (s.setThread w { t with listening := false }).Threads :=
    threads.mark awaited.thread rfl rfl id
  have only : (s.setThread w { t with listening := false }).OnlyLive (some w) :=
    awaited.only.mark awaited.thread rfl
  have kept : (s.setThread w { t with listening := false }).Kept :=
    { only := by
        change OnlyLive _ s.worker
        rw [awaited.worker]
        exact only
      wake := awaited.wake.trans awaited.worker.symm
      known := fun v found => by
        obtain rfl : w = v := Option.some.inj (awaited.worker.symm.trans found)
        exact ⟨_, setThread_self s⟩ }
  have refused (e : CameraError) :
      ((s.setThread w { t with listening := false }).at' k (.stopping (.refuse e))).Sound :=
    at_sound locks marked held rfl (kept.congr rfl rfl rfl)
  unfold receive at taken
  dsimp only at taken
  split at taken
  · rename_i actual told
    cases taken
    refine @reply_sound { s.setThread w { t with listening := false } with
      config := some actual } k locks (marked.same rfl rfl (Nat.le_refl _) rfl rfl) alone
        ⟨kept.congr rfl rfl rfl, fun active => ⟨w, { t with listening := false }, actual, ?_⟩⟩ _
    exact
      { worker := awaited.worker
        thread := setThread_self s
        live := awaited.live active
        reported := told
        config := rfl
        buffers := awaited.buffers }
  · cases taken
    exact refused _
  · split at taken
    · cases taken
      exact refused _
    · cases taken

theorem client_sound (sound : s.Sound) (taken : s.client k outcome = some s') : s'.Sound := by
  have holder (held : (s.clients k).holds = true) : s.lock = some k := (sound.locks k).mp held
  have fits (held : (s.clients k).holds = true) : s.Fits (s.clients k) :=
    sound.fits k (holder held)
  unfold client at taken
  cases pc : s.clients k with
  | idle =>
      simp only [pc] at taken
      cases taken
  | locking request =>
      simp only [pc] at taken
      split at taken
      · cases taken
      · rename_i free
        cases taken
        exact .kept (k := k) (p := .checking request)
          (sound.locks.moves (fun _ other => nomatch free.symm.trans other) rfl rfl)
          (sound.threads.same rfl rfl (Nat.le_refl _) rfl rfl) rfl (Function.update_self _ _ _)
          ((sound.rest free).congr rfl rfl rfl rfl rfl fun _ => rfl)
  | checking request =>
      rw [pc] at holder fits
      simp only [pc] at taken
      cases taken
      exact check_sound sound.locks sound.threads (holder rfl) (fits rfl) request
  | stopping after =>
      rw [pc] at holder fits
      simp only [pc] at taken
      cases taken
      have kept : s.Kept := fits rfl
      exact @at_sound { s with active := false } k (.waking after) sound.locks
        (sound.threads.same rfl rfl (Nat.le_refl _) rfl rfl) (holder rfl) rfl
        ⟨kept.congr rfl rfl rfl, rfl⟩
  | waking after =>
      rw [pc] at holder fits
      simp only [pc] at taken
      cases taken
      obtain ⟨kept, inactive⟩ := fits rfl
      exact takeWorker_sound sound.locks sound.threads (holder rfl) kept inactive after
  | joining w after =>
      rw [pc] at holder fits
      obtain ⟨t, joined⟩ := fits rfl
      simp only [pc, joined.thread, Option.map_some] at taken
      split at taken
      · rename_i result ended
        cases taken
        exact proceed_sound sound.locks sound.threads (holder rfl)
          (joined.blank (Option.some.inj ended)) joined.inactive _ after
      · cases taken
  | pairing config =>
      rw [pc] at holder fits
      obtain ⟨blank, inactive⟩ := fits rfl
      simp only [pc] at taken
      split at taken
      · cases taken
        exact reply_sound sound.locks sound.threads
          (fun _ other => Option.some.inj (other.symm.trans (holder rfl)))
          (blank.rest inactive) _
      · cases taken
        exact at_sound sound.locks sound.threads (holder rfl) rfl
          ⟨blank.congr rfl rfl rfl rfl, inactive⟩
  | beginning config =>
      rw [pc] at holder fits
      obtain ⟨blank, inactive⟩ := fits rfl
      simp only [pc] at taken
      cases taken
      have numbered := sound.threads.numbered
      have earlier (w : ThreadId) (t : Thread) (known : s.threads w = some t) :
          t.session < s.nextSession :=
        Nat.lt_of_le_of_lt (sound.threads.earlier w t known) numbered
      refine @at_sound { s with
        active := true, session := s.nextSession, nextSession := s.nextSession + 1 } k
        (.spawning config) sound.locks ?_ (holder rfl) rfl
        ⟨blank.congr rfl rfl rfl rfl, earlier⟩
      exact
        { fresh := sound.threads.fresh
          earlier := fun w t known => Nat.le_of_lt (earlier w t known)
          current := fun w t known live => nomatch blank.only w t known live
          numbered := Nat.lt_succ_self _
          unique := sound.threads.unique
          told := sound.threads.told
          published := sound.threads.published }
  | spawning config =>
      rw [pc] at holder fits
      obtain ⟨blank, newest⟩ := fits rfl
      simp only [pc] at taken
      split at taken
      · cases taken
        exact at_sound sound.locks sound.threads (holder rfl) rfl (blank.congr rfl rfl rfl rfl)
      · cases taken
        exact spawn_sound sound.locks sound.threads (holder rfl) blank newest config
  | unwinding e =>
      rw [pc] at holder fits
      have blank : s.Blank := fits rfl
      simp only [pc] at taken
      cases taken
      exact @reply_sound { s with active := false } k sound.locks
        (sound.threads.same rfl rfl (Nat.le_refl _) rfl rfl)
        (fun _ other => Option.some.inj (other.symm.trans (holder rfl)))
        (Blank.rest (blank.congr rfl rfl rfl rfl) rfl) _
  | receiving w =>
      rw [pc] at holder fits
      obtain ⟨t, awaited⟩ := fits rfl
      simp only [pc, awaited.thread] at taken
      exact receive_sound sound.locks sound.threads (holder rfl) awaited taken

theorem step_sound {action : WorkerAction} (sound : s.Sound) (taken : s.step action = some s') :
    s'.Sound := by
  cases action with
  | elsewhere =>
      cases taken
      exact ⟨sound.locks, sound.threads.same rfl rfl (Nat.le_succ _) rfl rfl,
        fun k held => (sound.fits k held).congr rfl rfl rfl rfl rfl rfl rfl,
        fun free => (sound.rest free).congr rfl rfl rfl rfl rfl fun _ => rfl⟩
  | client k outcome => exact client_sound sound taken
  | thread w outcome =>
      obtain ⟨t, t', turn⟩ := thread_turn taken
      exact turn.sound sound
  | request k request =>
      unfold step at taken
      dsimp only at taken
      split at taken
      · rename_i idle
        have outside (j : ClientId) (held : s.lock = some j) : j ≠ k := by
          rintro rfl
          have holds := (sound.locks j).mpr held
          rw [idle] at holds
          cases holds
        split at taken
        · cases taken
          exact ⟨sound.locks, sound.threads.same rfl rfl (Nat.le_refl _) rfl rfl,
            fun j held => (sound.fits j held).congr rfl rfl rfl rfl rfl rfl rfl,
            fun free => (sound.rest free).congr rfl rfl rfl rfl rfl fun _ => rfl⟩
        · cases taken
          refine ⟨fun j => ?_, sound.threads.same rfl rfl (Nat.le_refl _) rfl rfl,
            fun j held => ?_, fun free => (sound.rest free).congr rfl rfl rfl rfl rfl fun _ => rfl⟩
          · change (Function.update s.clients k _ j).holds = true ↔ s.lock = some j
            by_cases same : j = k
            · subst same
              rw [Function.update_self]
              exact ⟨fun holds => (nomatch holds), fun held => absurd rfl (outside j held)⟩
            · rw [Function.update_of_ne same]
              exact sound.locks j
          · change Fits _ (Function.update s.clients k _ j)
            rw [Function.update_of_ne (outside j held)]
            exact (sound.fits j held).congr rfl rfl rfl rfl rfl rfl rfl
      · cases taken

private theorem initial_sound (buffers : Nat) : ({ buffers := buffers } : Inner).Sound where
  locks _ := ⟨fun holds => (nomatch holds), fun held => (nomatch held)⟩
  threads :=
    { fresh := fun _ _ known => nomatch known
      earlier := fun _ _ known => nomatch known
      current := fun _ _ known => nomatch known
      numbered := Nat.one_pos
      unique := fun _ _ _ _ known => nomatch known
      told := fun _ _ known => nomatch known
      published := fun _ member => nomatch member }
  fits _ held := nomatch held
  rest _ := Blank.rest ⟨rfl, rfl, rfl, fun _ _ known => nomatch known⟩ rfl

theorem reachable_sound (reached : workerMachine.Reachable Machine.anything s) : s.Sound := by
  refine reached.invariant (P := Sound) ?_ ?_
  · rintro _ ⟨buffers, rfl⟩
    exact initial_sound buffers
  · exact fun _ _ _ _ taken sound => step_sound sound taken

/-! ### What callers may rely on -/

/-- The session of a worker that is not over yet. -/
def sessionOf (s : Inner) (w : ThreadId) : Option Nat :=
  ((s.threads w).filter Thread.live).map Thread.session

theorem sessionOf_some {n : Nat} (found : s.sessionOf w = some n) :
    ∃ t, s.threads w = some t ∧ t.live = true ∧ t.session = n := by
  obtain ⟨t, kept, same⟩ := Option.map_eq_some_iff.mp found
  obtain ⟨known, live⟩ := Option.filter_eq_some_iff.mp kept
  exact ⟨t, known, live, same⟩

theorem Sound.owned (sound : s.Sound) : ∃ owner, s.OnlyLive owner := by
  cases held : s.lock with
  | none => exact ⟨_, (sound.rest held).only⟩
  | some k =>
      have fits := sound.fits k held
      have holds := (sound.locks k).mpr held
      cases pc : s.clients k with
      | idle | locking =>
          rw [pc] at holds
          cases holds
      | checking | stopping =>
          rw [pc] at fits
          exact ⟨_, fits.only⟩
      | waking =>
          rw [pc] at fits
          exact ⟨_, fits.1.only⟩
      | joining =>
          rw [pc] at fits
          obtain ⟨t, joined⟩ := fits
          exact ⟨_, joined.only⟩
      | pairing | beginning | spawning =>
          rw [pc] at fits
          exact ⟨_, fits.1.only⟩
      | unwinding =>
          rw [pc] at fits
          exact ⟨_, fits.only⟩
      | receiving =>
          rw [pc] at fits
          obtain ⟨t, awaited⟩ := fits
          exact ⟨_, awaited.only⟩

/-- In every interleaving of callers and workers at most one worker is left, and it belongs to the
session of the hub, so that neither its frames nor its `StopHub` reach another session; the frames
of a session come from one worker; and with the mutex free a camera that streams has a worker that
runs with the configuration and the buffers that the state shows, and has reported them. -/
theorem one_worker_per_session (reached : workerMachine.Reachable Machine.anything s) :
    (∀ v w m n, s.sessionOf v = some m → s.sessionOf w = some n → v = w ∧ m = s.session) ∧
    (∀ v w n, (v, n) ∈ s.published → (w, n) ∈ s.published → v = w) ∧
    (∀ w, s.lock = none → (s.sessionOf w).isSome = true → s.worker = some w) ∧
    (s.lock = none → s.active = true → ∃ w t actual, s.worker = some w ∧ s.threads w = some t ∧
      t.session = s.session ∧ t.buffers = s.buffers ∧ t.message = some (.ok actual) ∧
      s.config = some actual) := by
  have sound := reachable_sound reached
  refine ⟨fun v w m n first second => ?_, fun v w n first second => ?_, fun w free found => ?_,
    fun free active => ?_⟩
  · obtain ⟨owner, only⟩ := sound.owned
    obtain ⟨t, known, live, rfl⟩ := sessionOf_some first
    obtain ⟨t', known', live', -⟩ := sessionOf_some second
    have same := (only v t known live).symm.trans (only w t' known' live')
    exact ⟨Option.some.inj same, sound.threads.current v t known live⟩
  · obtain ⟨t, known, same⟩ := sound.threads.published _ first
    obtain ⟨t', known', same'⟩ := sound.threads.published _ second
    exact sound.threads.unique v w t t' known known' (same.trans same'.symm)
  · obtain ⟨n, found⟩ := Option.isSome_iff_exists.mp found
    obtain ⟨t, known, live, -⟩ := sessionOf_some found
    exact (sound.rest free).only w t known live
  · obtain ⟨w, t, actual, runs⟩ := (sound.rest free).running active
    exact ⟨w, t, actual, runs.worker, runs.thread,
      sound.threads.current w t runs.thread runs.live, runs.buffers, runs.reported, runs.config⟩

def accepting (actual : CameraConfig) : Outcome :=
  { setup := some (.ok actual), next := .frame, stop := .ok (), failure := none }

def vga : CameraConfig := { format := .yuyv, width := 640, height := 480, fps := 30 }

def startedOnce : List WorkerAction :=
  .request 0 (.start vga) :: List.replicate 7 (.client 0 (accepting vga)) ++
    [.thread 0 (accepting vga), .thread 0 (accepting vga), .client 0 (accepting vga),
      .thread 0 (accepting vga)]

theorem one_worker_per_session_started : ∃ s, workerMachine.Reachable Machine.anything s ∧
    (∀ v w n, (v, n) ∈ s.published → (w, n) ∈ s.published → v = w) ∧
    s.published = [(0, 1)] := by
  have passed : ((workerMachine.exec (fun _ _ => true) { buffers := 4 } startedOnce).any fun s =>
      decide (s.published = [(0, 1)])) = true := by decide +kernel
  have opened : workerMachine.initial { buffers := 4 } := ⟨4, rfl⟩
  obtain ⟨s, reached, holds⟩ := Machine.Reachable.of_exec opened passed
  have anything := reached.mono fun _ _ _ => trivial
  exact ⟨s, anything, (one_worker_per_session anything).2.1, of_decide_eq_true holds⟩

end Inner

/-! ### The mutex is released -/

inductive Actor
  | client (k : ClientId)
  | thread (w : ThreadId)

def Actor.act : Actor → Outcome → WorkerAction
  | .client k, outcome => .client k outcome
  | .thread w, outcome => .thread w outcome

/-- The steps that a worker still takes once it was woken. -/
def Thread.rank (t : Thread) : Nat :=
  match t.pc with
  | .setup => 4
  | .reporting _ => 3
  | .capturing _ => 2
  | .dropping _ => 1
  | .ended _ => 0

/-- The steps after `stop_locked`. -/
def Continuation.rank : Continuation → Nat
  | .answer => 1
  | .launch _ => 20
  | .refuse _ => 1

theorem Thread.rank_le (t : Thread) : t.rank ≤ 4 := by
  unfold rank
  split <;> decide

theorem Thread.ended_of_not_live {t : Thread} (stopped : t.live = false) :
    ∃ result, t.pc = .ended result := by
  cases pc : t.pc with
  | ended result => exact ⟨result, rfl⟩
  | setup | reporting | capturing | dropping =>
      rw [Thread.live, pc] at stopped
      cases stopped

namespace Inner

variable {s s' : Inner} {k : ClientId} {w : ThreadId} {t t' : Thread} {outcome : Outcome}

/-- The worker that a caller waits for. -/
def awaits (s : Inner) (k : ClientId) : Option ThreadId :=
  match s.clients k with
  | .joining w _ | .receiving w => some w
  | _ => none

def Serves (s : Inner) (k : ClientId) : Actor → Prop
  | .client j => j = k
  | .thread w => s.awaits k = some w

/-- The holder of the mutex or the worker that it waits for can always go on, and after `n` such
steps the mutex is free whatever the driver answered. -/
def Releases : Nat → Inner → Prop
  | 0, s => s.lock = none
  | n + 1, s => s.lock = none ∨ ∃ k actor, s.lock = some k ∧ s.Serves k actor ∧
      ∀ outcome, ∃ s', s.step (actor.act outcome) = some s' ∧ Releases n s'

/-- The steps up to the release of the mutex. -/
def rank (s : Inner) : ClientPc → Nat
  | .idle => 0
  | .locking _ => 0
  | .checking _ => 28
  | .stopping after => after.rank + 6
  | .waking after => after.rank + 5
  | .joining w after => after.rank + ((s.threads w).map Thread.rank).getD 0
  | .pairing _ => 19
  | .beginning _ => 18
  | .spawning _ => 17
  | .unwinding _ => 1
  | .receiving w =>
      8 + (((s.threads w).filter fun t => t.message.isNone).map Thread.rank).getD 0

/-- The mutex is free, or its holder is closer to its release. -/
def Closer (s s' : Inner) (k : ClientId) : Prop :=
  s'.lock = none ∨ s'.lock = some k ∧ s'.rank (s'.clients k) < s.rank (s.clients k)

/-- Someone whom the holder waits for goes on, whatever the driver answers. -/
def Advances (s : Inner) (k : ClientId) : Prop :=
  ∃ actor, s.Serves k actor ∧
    ∀ outcome, ∃ s', s.step (actor.act outcome) = some s' ∧ Closer s s' k

theorem closer_at {p : ClientPc} (held : s'.lock = some k)
    (less : s'.rank p < s.rank (s.clients k)) : Closer s (s'.at' k p) k := by
  refine Or.inr ⟨held, ?_⟩
  change Inner.rank _ (Function.update s'.clients k p k) < _
  rw [Function.update_self]
  cases p <;> exact less

theorem closer_proceed (held : s'.lock = some k) {after : Continuation}
    (less : after.rank ≤ s.rank (s.clients k)) {result : CameraResult Unit} :
    Closer s (s'.proceed k result after) k := by
  cases after with
  | answer => exact Or.inl rfl
  | refuse e => exact Or.inl rfl
  | launch config => exact closer_at held less

theorem thread_total (known : s.threads w = some t) (live : t.live = true) (outcome : Outcome) :
    ∃ s', s.thread w outcome = some s' := by
  rw [thread, known]
  dsimp only
  cases pc : t.pc with
  | setup => cases outcome.setup <;> exact ⟨_, rfl⟩
  | reporting result =>
      cases result with
      | error e => exact ⟨_, rfl⟩
      | ok actual =>
          dsimp only
          split <;> exact ⟨_, rfl⟩
  | capturing actual => exact ⟨_, rfl⟩
  | dropping result => exact ⟨_, rfl⟩
  | ended result =>
      rw [Thread.live, pc] at live
      cases live

private theorem thread_rank (taken : s.thread w outcome = some s') (known : s.threads w = some t)
    (after : s'.threads w = some t') (moves : t.woken = true ∨ ∀ actual, t.pc ≠ .capturing actual) :
    t'.rank < t.rank := by
  have set {u : Thread} (after : (s.setThread w u).threads w = some t') : t' = u :=
    (Option.some.inj ((setThread_self s).symm.trans after)).symm
  rw [thread, known] at taken
  dsimp only at taken
  cases pc : t.pc with
  | setup =>
      rw [pc] at taken
      dsimp only at taken
      rw [show t.rank = 4 by rw [Thread.rank, pc]]
      split at taken <;> cases taken <;> rw [set after] <;> simp only [Thread.rank] <;> omega
  | reporting result =>
      rw [pc] at taken
      dsimp only at taken
      rw [show t.rank = 3 by rw [Thread.rank, pc]]
      split at taken
      · split at taken <;> cases taken <;> rw [set after] <;> simp only [Thread.rank] <;> omega
      · cases taken
        rw [set after]
        exact (by decide : 1 < 3)
  | capturing actual =>
      have woken : t.woken = true := moves.resolve_right fun other => other actual pc
      rw [pc] at taken
      cases taken
      rw [show t.rank = 2 by rw [Thread.rank, pc]]
      unfold capture at after
      split at after
      · rw [set after]
        exact (by decide : 1 < 2)
      · rw [if_pos woken] at after
        rw [set after]
        exact (by decide : 1 < 2)
  | dropping result =>
      rw [pc] at taken
      cases taken
      rw [show t.rank = 1 by rw [Thread.rank, pc], set after]
      exact (by decide : 0 < 1)
  | ended result =>
      rw [pc] at taken
      cases taken

theorem thread_closer {p : ClientPc} (held : s.lock = some k) (pc : s.clients k = p)
    (waits : s.awaits k = some w) (known : s.threads w = some t) (live : t.live = true)
    (moves : t.woken = true ∨ ∀ actual, t.pc ≠ .capturing actual)
    (less : ∀ (s' : Inner) (t' : Thread), s'.threads w = some t' → t'.rank < t.rank →
      s'.rank p < s.rank p) : s.Advances k := by
  refine ⟨.thread w, waits, fun outcome => ?_⟩
  obtain ⟨s', taken⟩ := thread_total known live outcome
  obtain ⟨_, t', turn⟩ := thread_turn taken
  obtain ⟨lock, -, -, -, -, -, -, -, clients⟩ := turn.same
  have after : s'.threads w = some t' := by rw [turn.threads, Function.update_self]
  refine ⟨s', taken, Or.inr ⟨lock.trans held, ?_⟩⟩
  rw [clients, pc]
  exact less s' t' after (thread_rank taken known after moves)

private theorem joining_advances {after : Continuation} (held : s.lock = some k)
    (pc : s.clients k = .joining w after) (joined : s.Joined w t) : s.Advances k := by
  have waits : s.awaits k = some w := by rw [awaits, pc]
  cases live : t.live with
  | true =>
      refine thread_closer held pc waits joined.thread live (Or.inl joined.woken)
        fun s' t' known less => ?_
      simp only [rank, known, joined.thread, Option.map_some, Option.getD_some]
      omega
  | false =>
      obtain ⟨result, ended⟩ := Thread.ended_of_not_live live
      refine ⟨.client k, rfl, fun outcome => ?_⟩
      change ∃ s', s.client k outcome = some s' ∧ Closer s s' k
      rw [client, pc]
      simp only [joined.thread, Option.map_some, ended]
      exact ⟨_, rfl, closer_proceed held (by rw [pc]; simp only [rank]; omega)⟩

/-- A caller that waits for the report: it takes it, or the worker goes on, or the worker is over
without one and the caller is told so. -/
private theorem receiving_advances (sound : s.Sound) (held : s.lock = some k)
    (pc : s.clients k = .receiving w) (awaited : s.Awaited w t) : s.Advances k := by
  have waits : s.awaits k = some w := by rw [awaits, pc]
  have refused (u : Thread) (e : CameraError) :
      Closer s ((s.setThread w u).at' k (.stopping (.refuse e))) k :=
    closer_at held (by rw [pc]; simp only [rank, Continuation.rank]; omega)
  cases told : t.message with
  | some result =>
      refine ⟨.client k, rfl, fun outcome => ?_⟩
      change ∃ s', s.client k outcome = some s' ∧ Closer s s' k
      rw [client, pc]
      simp only [awaited.thread, receive, told]
      cases result with
      | ok actual => exact ⟨_, rfl, Or.inl rfl⟩
      | error e => exact ⟨_, rfl, refused _ e⟩
  | none =>
      cases live : t.live with
      | true =>
          have silent (actual : CameraConfig) : t.pc ≠ .capturing actual := by
            intro capturing
            have tells := sound.threads.told w t awaited.thread
            rw [Thread.Told, capturing] at tells
            cases told.symm.trans tells
          refine thread_closer held pc waits awaited.thread live (Or.inr silent)
            fun s' t' known less => ?_
          have here : ((s.threads w).filter fun t => t.message.isNone) = some t := by
            rw [awaited.thread, Option.filter_some, if_pos (by simp [told])]
          simp only [rank, here, known, Option.map_some, Option.getD_some]
          rw [Option.filter_some]
          by_cases unread : t'.message.isNone = true
          · rw [if_pos unread, Option.map_some, Option.getD_some]
            omega
          · rw [if_neg unread, Option.map_none, Option.getD_none]
            omega
      | false =>
          obtain ⟨result, ended⟩ := Thread.ended_of_not_live live
          refine ⟨.client k, rfl, fun outcome => ?_⟩
          change ∃ s', s.client k outcome = some s' ∧ Closer s s' k
          rw [client, pc]
          simp only [awaited.thread, receive, told, ended]
          exact ⟨_, rfl, refused _ _⟩

private theorem advances (sound : s.Sound) (held : s.lock = some k) : s.Advances k := by
  have fits := sound.fits k held
  have holds := (sound.locks k).mpr held
  have mine (goes : ∀ outcome, ∃ s', s.client k outcome = some s' ∧ Closer s s' k) :
      s.Advances k :=
    ⟨.client k, rfl, goes⟩
  cases pc : s.clients k with
  | idle | locking =>
      rw [pc] at holds
      cases holds
  | checking request =>
      refine mine fun outcome => ⟨_, by rw [client, pc], ?_⟩
      have stopping (after : Continuation) : Closer s (s.at' k (.stopping after)) k :=
        closer_at held (by rw [pc]; cases after <;> simp [rank, Continuation.rank])
      cases request with
      | start config =>
          rw [check]
          split
          · exact Or.inl rfl
          · exact stopping _
      | stop => exact stopping _
      | getConfig => exact Or.inl rfl
      | setBufferSize size =>
          rw [check]
          split <;> exact Or.inl rfl
  | stopping after =>
      refine mine fun outcome => ⟨_, by rw [client, pc], ?_⟩
      exact @closer_at s { s with active := false } k (.waking after) held
        (by rw [pc]; exact Nat.lt_succ_self _)
  | waking after =>
      refine mine fun outcome => ⟨_, by rw [client, pc], ?_⟩
      have lock : s.wakeWorker.lock = some k := by
        rw [wakeWorker]
        split <;> exact held
      rw [takeWorker]
      split
      · refine @closer_at s { s.wakeWorker with worker := none } k _ lock ?_
        rw [pc]
        simp only [rank]
        cases (s.wakeWorker.threads _) with
        | none => simp only [Option.map_none, Option.getD_none]; omega
        | some t =>
            have bound := t.rank_le
            simp only [Option.map_some, Option.getD_some]
            omega
      · exact closer_proceed lock (by rw [pc]; simp only [rank]; omega)
  | joining w after =>
      rw [pc] at fits
      obtain ⟨t, joined⟩ := fits
      exact joining_advances held pc joined
  | pairing config =>
      refine mine fun outcome => ?_
      rw [client, pc]
      dsimp only
      split
      · exact ⟨_, rfl, Or.inl rfl⟩
      · exact ⟨_, rfl, closer_at held (by rw [pc]; simp [rank])⟩
  | beginning config =>
      refine mine fun outcome => ⟨_, by rw [client, pc], ?_⟩
      exact @closer_at s { s with
        active := true, session := s.nextSession, nextSession := s.nextSession + 1 } k
        (.spawning config) held (by rw [pc]; simp [rank])
  | spawning config =>
      refine mine fun outcome => ?_
      rw [client, pc]
      dsimp only
      split
      · exact ⟨_, rfl, closer_at held (by rw [pc]; simp [rank])⟩
      · refine ⟨_, rfl, Or.inr ⟨held, ?_⟩⟩
        rw [pc, show (s.spawn k config).clients k = .receiving s.spawned from
          Function.update_self _ _ _]
        simp only [rank, spawn_self]
        exact (by decide : 8 + 4 < 17)
  | unwinding e => exact mine fun outcome => ⟨_, by rw [client, pc], Or.inl rfl⟩
  | receiving w =>
      rw [pc] at fits
      obtain ⟨t, awaited⟩ := fits
      exact receiving_advances sound held pc awaited

private theorem rank_pos {p : ClientPc} (holds : p.holds = true) : 0 < s.rank p := by
  cases p with
  | idle | locking => cases holds
  | stopping after | waking after => exact Nat.succ_pos _
  | joining w after =>
      have positive : 0 < after.rank := by cases after <;> exact Nat.succ_pos _
      exact Nat.add_pos_left positive _
  | receiving w => exact Nat.add_pos_left (by decide) _
  | checking | pairing | beginning | spawning | unwinding => exact Nat.succ_pos _

theorem rank_le (p : ClientPc) : s.rank p ≤ 28 := by
  have most (found : Option Thread) : (found.map Thread.rank).getD 0 ≤ 4 := by
    cases found with
    | none => exact Nat.zero_le _
    | some t => exact t.rank_le
  cases p with
  | idle | locking | checking | pairing | beginning | spawning | unwinding =>
      simp only [rank]
      omega
  | stopping after | waking after =>
      cases after <;> simp only [rank, Continuation.rank] <;> omega
  | joining w after =>
      have bound := most (s.threads w)
      cases after <;> simp only [rank, Continuation.rank] <;> omega
  | receiving w =>
      have bound := most ((s.threads w).filter fun t => t.message.isNone)
      simp only [rank]
      omega

/-- Whoever holds the mutex has released it after 28 steps of its own and of the worker it waits
for, whatever the driver answers. -/
theorem mutex_released (reached : workerMachine.Reachable Machine.anything s) : s.Releases 28 := by
  have sooner (n : Nat) (s : Inner) (sound : s.Sound)
      (soon : s.lock = none ∨ ∃ k, s.lock = some k ∧ s.rank (s.clients k) ≤ n) :
      s.Releases n := by
    induction n generalizing s with
    | zero =>
        rcases soon with free | ⟨k, held, none_left⟩
        · exact free
        · have positive := @rank_pos s _ ((sound.locks k).mpr held)
          omega
    | succ n ih =>
        rcases soon with free | ⟨k, held, more⟩
        · exact Or.inl free
        · obtain ⟨actor, serves, goes⟩ := advances sound held
          refine Or.inr ⟨k, actor, held, serves, fun outcome => ?_⟩
          obtain ⟨s', taken, closer⟩ := goes outcome
          refine ⟨s', taken, ih s' (step_sound sound taken) ?_⟩
          rcases closer with free | ⟨held, less⟩
          · exact Or.inl free
          · exact Or.inr ⟨k, held, by omega⟩
  refine sooner 28 s (reachable_sound reached) ?_
  cases held : s.lock with
  | none => exact Or.inl rfl
  | some k => exact Or.inr ⟨k, rfl, rank_le _⟩

theorem mutex_released_stopping : ∃ s, workerMachine.Reachable Machine.anything s ∧
    s.Releases 28 ∧ s.lock = some 1 := by
  have passed : ((workerMachine.exec (fun _ _ => true) { buffers := 4 }
      (startedOnce ++ [.request 1 .stop, .client 1 (accepting vga)])).any fun s =>
        decide (s.lock = some 1)) = true := by decide +kernel
  have opened : workerMachine.initial { buffers := 4 } := ⟨4, rfl⟩
  obtain ⟨s, reached, holds⟩ := Machine.Reachable.of_exec opened passed
  have anything := reached.mono fun _ _ _ => trivial
  exact ⟨s, anything, mutex_released anything, of_decide_eq_true holds⟩

end Inner

end CameraRs.V4l2
