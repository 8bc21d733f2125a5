/-
Epochs of the metrics.

A frame that `reserve` has counted as received holds a ticket until it is counted as
published or as a conversion error, or is given up. `start` resets the metrics while
it holds the pool lock. The recorders check the session before they take that lock,
so the books balance if no `start` comes between the check and the charge.
-/

import CameraRs.Frame.Epoch

namespace CameraRs.Frame

/-- Received frames of which it is known what became of them. -/
def accounted (metrics : FrameMetrics) : Nat :=
  metrics.published + metrics.poolDrops + metrics.conversionErrors

namespace Pc

/-- The session that an operation carries, as long as it still looks at it. -/
def session : Pc → Option Nat
  | .reserveLook job | .reservePool job _ | .converting job _ | .finishing job _ _
  | .measuring job _ _ => some job.session
  | .recordLook session _ _ | .recordCharge session _ _
  | .dropLook session | .dropCharge session => some session
  | _ => none

/-- A frame of session `k` that is counted as received and not accounted for yet. -/
def ticket (k : Nat) : Pc → Bool
  | .converting job _ | .finishing job _ _ | .measuring job _ _ => job.session == k
  | .recordLook session activity _ | .recordCharge session activity _ =>
      !activity && session == k
  | _ => false

/-- A recorder that has passed its session check and waits for the pool lock. -/
def charging : Pc → Option Nat
  | .recordCharge session _ _ | .dropCharge session => some session
  | _ => none

end Pc

/-- No `start` holds the pool lock while a recorder is between its check and its
charge. -/
def recordsApart (s : FrameHub) : Action → Bool
  | .run i _ =>
      match s.ops[i]? with
      | some .startReset => s.ops.all fun pc => pc.charging.isNone
      | some (.recordLook session _ _) => !(s.poolLock && s.isCurrent session)
      | some (.dropLook session) => !(s.poolLock && s.state.session == session)
      | _ => true
  | _ => true

variable {s t : FrameHub} {i : OpId} {pc after : Pc} {a : Action} {k : Nat}

/-! ### The ledger of one access -/

/-- What an access adds to the frames accounted for and to the tickets of session `k` is
covered by what it adds to the received frames. -/
def Pays (k : Nat) (before : FrameMetrics) (pc : Pc) (now : FrameMetrics) (after : Pc) : Prop :=
  accounted now + (if after.ticket k then 1 else 0) + before.received ≤
    accounted before + (if pc.ticket k then 1 else 0) + now.received

theorem pays_same {metrics : FrameMetrics} (tickets : after.ticket k = true → pc.ticket k = true) :
    Pays k metrics pc metrics after := by
  unfold Pays
  split
  · next held => simp [tickets held]
  · omega

theorem Pool.choose_metrics {pool later : Pool} {unique : Storage → Bool} {index : Nat}
    (chosen : pool.choose unique = some (later, index)) : later.metrics = pool.metrics := by
  unfold Pool.choose at chosen
  split at chosen
  · obtain ⟨rfl, _⟩ := Prod.mk.inj (Option.some.inj chosen)
    rfl
  · split at chosen
    · obtain ⟨rfl, _⟩ := Prod.mk.inj (Option.some.inj chosen)
      rfl
    · contradiction

theorem Pool.take_metrics (pool : Pool) (heap : Heap) (index : Nat) (layout : FrameLayout)
    (rgb : Bool) (length : Nat) :
    (pool.take heap index layout rgb length).1.metrics =
      match (pool.take heap index layout rgb length).2.2 with
      | some _ => pool.metrics
      | none => pool.dropFrame.metrics := by
  unfold Pool.take
  dsimp only
  split
  · split <;> rfl
  · split <;> rfl

theorem FrameHub.reserve_metrics (s : FrameHub) (raced : List ArcId) (job : Job)
    (length : Nat) :
    (∃ lease, (s.reserve raced job length).2 = .converting job lease ∧
      (s.reserve raced job length).1.pool.metrics = (s.pool.receive s.clock).metrics) ∨
    (s.reserve raced job length).2 = job.exhausted ∧
      (s.reserve raced job length).1.pool.metrics =
        (s.pool.receive s.clock).dropFrame.metrics := by
  unfold FrameHub.reserve Pool.reserve
  dsimp only
  split
  · next pool heap lease outcome =>
      left
      refine ⟨lease, rfl, ?_⟩
      split at outcome
      · cases outcome
      · next middle index chosen =>
          have metrics := middle.take_metrics s.heap index job.layout job.rgb length
          rw [outcome] at metrics
          dsimp only at metrics ⊢
          rw [metrics, Pool.choose_metrics chosen]
  · next pool heap outcome =>
      right
      refine ⟨rfl, ?_⟩
      split at outcome
      · obtain ⟨rfl, _⟩ := Prod.mk.inj outcome
        rfl
      · next middle index chosen =>
          have metrics := middle.take_metrics s.heap index job.layout job.rgb length
          rw [outcome] at metrics
          dsimp only at metrics
          rw [metrics, Pool.dropFrame, Pool.choose_metrics chosen]
          rfl

theorem Pool.configure_metrics (pool : Pool) (unique : Storage → Bool)
    (memory : MemoryBudget) : (pool.configure unique memory).2.metrics = pool.metrics := by
  unfold Pool.configure
  split
  · rfl
  · dsimp only
    split <;> rfl

theorem exhausted_ticket (job : Job) : job.exhausted.ticket k = false := by
  obtain ⟨answer, same⟩ := exhausted_answers job
  rw [same]
  rfl

theorem recorded_ticket (failed : Option (Lease × CameraError)) :
    (FrameHub.recorded failed).ticket k = false := by
  cases failed <;> rfl

theorem exhausted_charging (job : Job) : job.exhausted.charging = none := by
  obtain ⟨answer, same⟩ := exhausted_answers job
  rw [same]
  rfl

theorem recorded_charging (failed : Option (Lease × CameraError)) :
    (FrameHub.recorded failed).charging = none := by
  cases failed <;> rfl

theorem Access.pays (access : Access s pc t after) (reset : pc ≠ .startReset)
    (current : ∀ session, pc.charging = some session → session = s.state.session) :
    Pays s.state.session s.pool.metrics pc t.pool.metrics after := by
  cases access with
  | @lookRefused job stale => exact pays_same (by simp [exhausted_ticket])
  | @poolRefused job length stale => exact pays_same (by simp [exhausted_ticket])
  | @reserved job length raced unlocked current =>
      rcases s.reserve_metrics raced job length with ⟨lease, goes, metrics⟩ | ⟨goes, metrics⟩
      · rw [goes, metrics]
        simp only [Pays, Pool.receive, accounted]
        split <;> omega
      · rw [goes, metrics]
        simp only [Pays, Pool.receive, Pool.dropFrame, accounted, exhausted_ticket,
          Bool.false_eq_true, if_false]
        omega
  | stamped timestamp => exact pays_same id
  | wrote bytes size => exact pays_same id
  | filled fill => exact pays_same id
  | converted => exact pays_same id
  | failed => exact pays_same (by simp [Pc.ticket])
  | delivered ns current => exact pays_same id
  | @measured job lease elapsed unlocked same =>
      simp [Pays, Pool.measure, FrameHub.setPool, accounted, Pc.ticket, same]
      omega
  | recordPassed current => exact pays_same id
  | @recordRefused session activity failed => exact pays_same (by simp [recorded_ticket])
  | @charged session activity failed after unlocked goes =>
      have same := current session rfl
      have none : after.ticket s.state.session = false := by
        rcases goes with rfl | rfl
        · rfl
        · exact recorded_ticket failed
      cases activity with
      | false =>
          have mine : (Pc.recordCharge session false failed).ticket s.state.session = true := by
            simp [Pc.ticket, same]
          simp [Pays, Pool.chargeError, FrameHub.setPool, accounted, none, mine]
          omega
      | true =>
          simp [Pays, Pool.chargeError, Pool.receive, FrameHub.setPool, accounted, none]
          omega
  | @woken failed => exact pays_same (by simp [recorded_ticket])
  | dropCharged unlocked =>
      simp [Pays, Pool.receive, Pool.dropFrame, FrameHub.setPool, accounted, Pc.ticket]
      omega
  | startReset unlocked => contradiction
  | @configured request raced native answer unlocked =>
      simp only [Pool.configure_metrics]
      exact pays_same (by simp [Pc.ticket])
  | budgetRead goes =>
      rcases goes with rfl | ⟨error, rfl⟩
      · exact pays_same id
      · exact pays_same id
  | _ => exact pays_same (by simp [Pc.ticket])

/-! ### The books of an epoch -/

/-- The call in progress at `i` is before `pc`. -/
abbrev FrameHub.At (s : FrameHub) (i : OpId) (pc : Pc) : Prop := s.ops[i]? = some pc

structure Counted (s : FrameHub) : Prop where
  numbered : s.state.session < s.nextSession
  drawn : ∀ i pc session, s.At i pc → pc.starting = some session →
    s.poolLock = true ∧ s.state.session < session ∧ session < s.nextSession
  single : ∀ i j pc other, s.At i pc → s.At j other →
    pc.starting ≠ none → other.starting ≠ none → i = j
  tickets : ∀ i pc k, s.At i pc → pc.ticket k = true → k ≤ s.state.session
  charging : ∀ i pc k, s.At i pc → pc.charging = some k →
    k = s.state.session ∧ s.poolLock = false
  locked : s.poolLock = true → accounted s.pool.metrics = 0
  balanced : s.poolLock = false →
    accounted s.pool.metrics + s.ops.countP (Pc.ticket s.state.session) ≤ s.pool.metrics.received

namespace Counted

theorem kept (counted : Counted s) (at_pc : s.ops[i]? = some pc)
    (session : t.state.session = s.state.session)
    (lock : t.poolLock = s.poolLock) (next : t.nextSession = s.nextSession)
    (starting : after.starting = none ∨ after.starting = pc.starting)
    (tickets : ∀ k, after.ticket k = true → pc.ticket k = true ∨ k = s.state.session)
    (charging : ∀ k, after.charging = some k → k = s.state.session ∧ s.poolLock = false)
    (metrics : s.poolLock = true → t.pool.metrics = s.pool.metrics)
    (pays : Pays s.state.session s.pool.metrics pc t.pool.metrics after) :
    Counted { t with ops := s.ops.set i after } := by
  have began : ∀ (j : OpId) (other : Pc), (s.ops.set i after)[j]? = some other →
      other.starting ≠ none → ∃ earlier, s.At j earlier ∧ earlier.starting = other.starting := by
    intro j other at_j begins
    rw [FrameHub.getElem?_set_ops at_pc] at at_j
    split at at_j
    · next here =>
        obtain rfl := Option.some.inj at_j
        rcases starting with none | same
        · exact absurd none begins
        · exact ⟨pc, by rwa [here], same.symm⟩
    · exact ⟨other, at_j, rfl⟩
  constructor
  · rw [session, next]
    exact counted.numbered
  · intro j other drawn at_j begins
    obtain ⟨earlier, before, same⟩ := began j other at_j (by simp [begins])
    rw [lock, session, next]
    exact counted.drawn j earlier drawn before (by rw [same, begins])
  · intro j l other another at_j at_l begins alsoBegins
    obtain ⟨earlier, before, same⟩ := began j other at_j begins
    obtain ⟨second, before', same'⟩ := began l another at_l alsoBegins
    exact counted.single j l earlier second before before' (by rwa [same]) (by rwa [same'])
  · intro j other k at_j ticket
    rw [session]
    rw [FrameHub.At, FrameHub.getElem?_set_ops at_pc] at at_j
    split at at_j
    · obtain rfl := Option.some.inj at_j
      rcases tickets k ticket with old | rfl
      · exact counted.tickets i pc k at_pc old
      · exact Nat.le_refl _
    · exact counted.tickets j other k at_j ticket
  · intro j other k at_j charges
    rw [session, lock]
    rw [FrameHub.At, FrameHub.getElem?_set_ops at_pc] at at_j
    split at at_j
    · obtain rfl := Option.some.inj at_j
      exact charging k charges
    · exact counted.charging j other k at_j charges
  · intro held
    rw [lock] at held
    rw [metrics held]
    exact counted.locked held
  · intro free
    rw [lock] at free
    rw [session]
    have books := counted.balanced free
    have moved := countP_set_add (p := Pc.ticket s.state.session) at_pc after
    unfold Pays at pays
    dsimp only
    omega

theorem reset (counted : Counted s) (at_pc : s.At i .startReset) (unlocked : s.poolLock = false)
    (apart : ∀ pc ∈ s.ops, pc.charging = none) (session : t.state.session = s.state.session)
    (lock : t.poolLock = true) (next : t.nextSession = s.nextSession + 1)
    (metrics : accounted t.pool.metrics = 0)
    (ops : t.ops = s.ops.set i (.startClear s.nextSession)) : Counted t := by
  have numbered := counted.numbered
  have only : ∀ j pc, t.At j pc → pc.starting ≠ none →
      j = i ∧ pc = .startClear s.nextSession := by
    intro j pc at_j begins
    rw [FrameHub.At, ops, FrameHub.getElem?_set_ops at_pc] at at_j
    split at at_j
    · next here => exact ⟨here, (Option.some.inj at_j).symm⟩
    · -- the lock is free, so no other `start` is past its reset
      obtain ⟨drawn, begun⟩ := Option.ne_none_iff_exists'.mp begins
      rw [(counted.drawn j pc drawn at_j begun).1] at unlocked
      contradiction
  constructor
  · rw [session, next]
    exact Nat.lt_succ_of_lt numbered
  · intro j pc drawn at_j begun
    obtain ⟨_, rfl⟩ := only j pc at_j (by simp [begun])
    obtain rfl := Option.some.inj begun
    rw [session, next]
    exact ⟨lock, numbered, Nat.lt_succ_self _⟩
  · intro j l pc other at_j at_l begins alsoBegins
    rw [(only j pc at_j begins).1, (only l other at_l alsoBegins).1]
  · intro j pc k at_j ticket
    rw [session]
    rw [FrameHub.At, ops, FrameHub.getElem?_set_ops at_pc] at at_j
    split at at_j
    · rw [← Option.some.inj at_j] at ticket
      contradiction
    · exact counted.tickets j pc k at_j ticket
  · intro j pc k at_j charges
    rw [FrameHub.At, ops, FrameHub.getElem?_set_ops at_pc] at at_j
    split at at_j
    · rw [← Option.some.inj at_j] at charges
      contradiction
    · rw [apart pc (List.mem_of_getElem? at_j)] at charges
      contradiction
  · exact fun _ => metrics
  · rw [lock]
    intro free
    contradiction

theorem replaced (counted : Counted s) {session : Nat} {recovering reconnectEnabled : Bool}
    (at_pc : s.At i (.startReplace session recovering reconnectEnabled))
    (state : t.state.session = session) (lock : t.poolLock = false)
    (next : t.nextSession = s.nextSession) (metrics : t.pool.metrics = s.pool.metrics)
    {answer : Answer} (ops : t.ops = s.ops.set i (.returned answer)) : Counted t := by
  obtain ⟨locked, after, below⟩ := counted.drawn i _ session at_pc rfl
  have old : ∀ j pc, t.At j pc → pc = .returned answer ∨ s.At j pc ∧ j ≠ i := by
    intro j pc at_j
    rw [FrameHub.At, ops, FrameHub.getElem?_set_ops at_pc] at at_j
    split at at_j
    · exact .inl (Option.some.inj at_j).symm
    · next different => exact .inr ⟨at_j, different⟩
  have idle : ∀ j pc, t.At j pc → pc.starting = none := by
    intro j pc at_j
    by_contra begins
    rcases old j pc at_j with rfl | ⟨before, different⟩
    · exact begins rfl
    · exact different (counted.single j i pc _ before at_pc begins (by simp [Pc.starting]))
  have noTicket : ∀ pc ∈ s.ops.set i (.returned answer), ¬ pc.ticket session = true := by
    intro pc member ticket
    rw [← ops] at member
    obtain ⟨j, at_j⟩ := List.mem_iff_getElem?.mp member
    rcases old j pc at_j with rfl | ⟨before, _⟩
    · contradiction
    · exact absurd (counted.tickets j pc session before ticket) (Nat.not_le.mpr after)
  constructor
  · rwa [state, next]
  · intro j pc drawn at_j begun
    rw [idle j pc at_j] at begun
    contradiction
  · intro j l pc other at_j _ begins
    exact absurd (idle j pc at_j) begins
  · intro j pc k at_j ticket
    rw [state]
    rcases old j pc at_j with rfl | ⟨before, _⟩
    · contradiction
    · exact Nat.le_trans (counted.tickets j pc k before ticket) (Nat.le_of_lt after)
  · intro j pc k at_j charges
    rcases old j pc at_j with rfl | ⟨before, _⟩
    · contradiction
    · -- a recorder that waits for the lock passed its check before the lock was taken
      rw [(counted.charging j pc k before charges).2] at locked
      contradiction
  · rw [lock]
    intro held
    contradiction
  · intro _
    rw [metrics, counted.locked locked, state, ops, List.countP_eq_zero.mpr noTicket]
    exact Nat.zero_le _

theorem access (counted : Counted s) {env : Env} (at_pc : s.ops[i]? = some pc)
    (access : Access s pc t after) (apart : recordsApart s (.run i env) = true) :
    Counted { t with ops := s.ops.set i after } := by
  simp only [recordsApart, at_pc] at apart
  have pays : pc ≠ .startReset → Pays s.state.session s.pool.metrics pc t.pool.metrics after :=
    fun reset => access.pays reset fun k charges => (counted.charging i pc k at_pc charges).1
  have locked : s.poolLock = false → s.poolLock = true → t.pool.metrics = s.pool.metrics := by
    intro unlocked held
    rw [unlocked] at held
    contradiction
  cases access with
  | startReset unlocked =>
      refine counted.reset at_pc unlocked ?_ rfl rfl rfl rfl rfl
      simpa using apart
  | startReplace => exact counted.replaced at_pc rfl rfl rfl rfl rfl
  | startClear =>
      exact counted.kept at_pc rfl rfl rfl (.inr rfl) (by simp [Pc.ticket])
        (by simp [Pc.charging]) (fun _ => rfl) (pays (by simp))
  | startRead =>
      exact counted.kept at_pc rfl rfl rfl (.inr rfl) (by simp [Pc.ticket])
        (by simp [Pc.charging]) (fun _ => rfl) (pays (by simp))
  | @lookRefused job stale =>
      exact counted.kept at_pc rfl rfl rfl (.inl (exhausted_starting job))
        (by simp [exhausted_ticket]) (by simp [exhausted_charging]) (fun _ => rfl) (pays (by simp))
  | @poolRefused job length stale =>
      exact counted.kept at_pc rfl rfl rfl (.inl (exhausted_starting job))
        (by simp [exhausted_ticket]) (by simp [exhausted_charging]) (fun _ => rfl) (pays (by simp))
  | @reserved job length raced unlocked current =>
      have session : job.session = s.state.session := by
        simp only [FrameHub.isCurrent, Bool.and_eq_true, beq_iff_eq] at current
        exact current.2.symm
      have keeps := s.reserve_keeps raced job length
      refine counted.kept at_pc (by rw [keeps]) (by rw [keeps]) (by rw [keeps]) ?_ ?_ ?_
        (locked unlocked) (pays (by simp))
      all_goals
        rcases s.reserve_metrics raced job length with ⟨lease, goes, _⟩ | ⟨goes, _⟩
        all_goals rw [goes]
      · exact .inl rfl
      · exact .inl (exhausted_starting job)
      · simp [Pc.ticket, session]
      · simp [exhausted_ticket]
      · simp [Pc.charging]
      · simp [exhausted_charging]
  | @recordPassed session activity failed current =>
      refine counted.kept at_pc rfl rfl rfl (.inl rfl) (fun _ => .inl) ?_ (fun _ => rfl)
        (pays (by simp))
      simp only [current, Bool.and_true, Bool.not_eq_true'] at apart
      simp only [FrameHub.isCurrent, Bool.and_eq_true, beq_iff_eq] at current
      rintro k ⟨⟩
      exact ⟨current.2.symm, apart⟩
  | @dropPassed session same =>
      refine counted.kept at_pc rfl rfl rfl (.inl rfl) (by simp [Pc.ticket]) ?_
        (fun _ => rfl) (pays (by simp))
      simp only [same, beq_self_eq_true, Bool.and_true, Bool.not_eq_true'] at apart
      rintro k ⟨⟩
      exact ⟨same.symm, apart⟩
  | @recordRefused session activity failed =>
      exact counted.kept at_pc rfl rfl rfl (.inl (recorded_starting failed))
        (by simp [recorded_ticket]) (by simp [recorded_charging]) (fun _ => rfl) (pays (by simp))
  | @woken failed =>
      exact counted.kept at_pc rfl rfl rfl (.inl (recorded_starting failed))
        (by simp [recorded_ticket]) (by simp [recorded_charging]) (fun _ => rfl) (pays (by simp))
  | @charged session activity failed after unlocked goes =>
      rcases goes with rfl | rfl
      · exact counted.kept at_pc rfl rfl rfl (.inl rfl) (by simp [Pc.ticket])
          (by simp [Pc.charging]) (locked unlocked) (pays (by simp))
      · exact counted.kept at_pc rfl rfl rfl (.inl (recorded_starting failed))
          (by simp [recorded_ticket]) (by simp [recorded_charging]) (locked unlocked)
          (pays (by simp))
  | dropCharged unlocked =>
      exact counted.kept at_pc rfl rfl rfl (.inl rfl) (by simp [Pc.ticket])
        (by simp [Pc.charging]) (locked unlocked) (pays (by simp))
  | measured unlocked same =>
      exact counted.kept at_pc rfl rfl rfl (.inl rfl) (by simp [Pc.ticket])
        (by simp [Pc.charging]) (locked unlocked) (pays (by simp))
  | @configured request raced native answer unlocked =>
      exact counted.kept at_pc rfl rfl rfl (.inl rfl) (by simp [Pc.ticket])
        (by simp [Pc.charging]) (locked unlocked) (pays (by simp))
  | budgetRead goes =>
      rcases goes with rfl | ⟨error, rfl⟩
      · exact counted.kept at_pc rfl rfl rfl (.inl rfl) (by simp [Pc.ticket])
          (by simp [Pc.charging]) (fun _ => rfl) (pays (by simp))
      · exact counted.kept at_pc rfl rfl rfl (.inl rfl) (by simp [Pc.ticket])
          (by simp [Pc.charging]) (fun _ => rfl) (pays (by simp))
  | _ =>
      exact counted.kept at_pc rfl rfl rfl (.inl rfl) (by simp [Pc.ticket])
        (by simp [Pc.charging]) (fun _ => rfl) (pays (by simp))

theorem outside (counted : Counted s) (session : t.state.session = s.state.session)
    (lock : t.poolLock = s.poolLock) (next : s.nextSession ≤ t.nextSession)
    (metrics : t.pool.metrics = s.pool.metrics) (ops : t.ops = s.ops) : Counted t := by
  have same : ∀ i pc, t.At i pc → s.At i pc := by
    intro i pc at_pc
    rwa [FrameHub.At, ops] at at_pc
  constructor
  · rw [session]
    exact Nat.lt_of_lt_of_le counted.numbered next
  · intro i pc drawn at_pc begun
    rw [lock, session]
    obtain ⟨held, after, below⟩ := counted.drawn i pc drawn (same i pc at_pc) begun
    exact ⟨held, after, Nat.lt_of_lt_of_le below next⟩
  · intro i j pc other at_pc at_other
    exact counted.single i j pc other (same i pc at_pc) (same j other at_other)
  · intro i pc k at_pc
    rw [session]
    exact counted.tickets i pc k (same i pc at_pc)
  · intro i pc k at_pc
    rw [session, lock]
    exact counted.charging i pc k (same i pc at_pc)
  · rw [lock, metrics]
    exact counted.locked
  · rw [lock, metrics, ops, session]
    exact counted.balanced

theorem called (counted : Counted s) (entry : pc.Entry) :
    Counted { s with ops := s.ops ++ [pc] } := by
  have idle : pc.starting = none ∧ pc.charging = none ∧ ∀ k, pc.ticket k = false := by
    cases entry <;> simp [Pc.starting, Pc.charging, Pc.ticket]
  obtain ⟨noStart, noCharge, noTicket⟩ := idle
  have old : ∀ i other, FrameHub.At { s with ops := s.ops ++ [pc] } i other →
      other = pc ∨ s.At i other := by
    intro i other at_other
    rw [FrameHub.At, FrameHub.getElem?_append_ops] at at_other
    split at at_other
    · exact .inl (Option.some.inj at_other).symm
    · exact .inr at_other
  constructor
  · exact counted.numbered
  · intro i other drawn at_other begun
    rcases old i other at_other with rfl | before
    · rw [noStart] at begun
      contradiction
    · exact counted.drawn i other drawn before begun
  · intro i j other another at_other at_another begins alsoBegins
    rcases old i other at_other with rfl | before
    · exact absurd noStart begins
    · rcases old j another at_another with rfl | before'
      · exact absurd noStart alsoBegins
      · exact counted.single i j other another before before' begins alsoBegins
  · intro i other k at_other ticket
    rcases old i other at_other with rfl | before
    · rw [noTicket] at ticket
      contradiction
    · exact counted.tickets i other k before ticket
  · intro i other k at_other charges
    rcases old i other at_other with rfl | before
    · rw [noCharge] at charges
      contradiction
    · exact counted.charging i other k before charges
  · exact counted.locked
  · intro free
    have books := counted.balanced free
    dsimp only
    rw [List.countP_append, List.countP_singleton, noTicket, if_neg Bool.false_ne_true]
    exact books

theorem step (counted : Counted s) (taken : s.step a = some t)
    (apart : recordsApart s a = true) : Counted t := by
  cases step_stepped taken with
  | called call => exact counted.called (Call.entry_entry s.clock call)
  | ran at_pc access => exact counted.access at_pc access apart
  | flagged call =>
      cases call <;> exact counted.outside rfl rfl (Nat.le_refl _) rfl rfl
  | otherHub => exact counted.outside rfl rfl (Nat.le_succ _) rfl rfl
  | consumed consumed =>
      have keeps := consumed.keeps
      exact counted.outside (by rw [keeps]) (by rw [keeps]) (Nat.le_of_eq (by rw [keeps]))
        (by rw [keeps]) (by rw [keeps])
  | _ => exact counted.outside rfl rfl (Nat.le_refl _) rfl rfl

theorem initially (start : machine.initial s) : Counted s := by
  obtain ⟨capacity, drawn, rfl⟩ := start
  constructor <;> simp [FrameHub.new, FrameHub.At, accounted]

theorem reachable (reached : machine.Reachable (fun s a => recordsApart s a = true) s) :
    Counted s :=
  reached.invariant (fun _ start => initially start)
    fun _ _ _ apart taken counted => counted.step taken apart

private theorem charges_current (counted : Counted s) {env : Env} (at_pc : s.At i pc)
    (carried : pc.session = some k) (taken : s.step (.run i env) = some t)
    (changed : t.pool.metrics ≠ s.pool.metrics) : s.state.session = k := by
  obtain ⟨here, u, after, at_here, access, rfl⟩ := step_run taken
  obtain rfl := Option.some.inj (at_pc.symm.trans at_here)
  cases access with
  | @reserved job length raced unlocked current =>
      obtain rfl := Option.some.inj carried
      simp only [FrameHub.isCurrent, Bool.and_eq_true, beq_iff_eq] at current
      exact current.2
  | measured unlocked same =>
      obtain rfl := Option.some.inj carried
      exact same
  | charged unlocked goes =>
      obtain rfl := Option.some.inj carried
      exact (counted.charging i _ _ at_pc rfl).1.symm
  | dropCharged unlocked =>
      obtain rfl := Option.some.inj carried
      exact (counted.charging i _ _ at_pc rfl).1.symm
  | _ => contradiction

end Counted

/-- A call changes the metrics only while its session is current, and no more frames
are published, dropped and failed than were received. -/
structure FrameHub.Audited (s : FrameHub) : Prop where
  current : ∀ i pc env t k, s.ops[i]? = some pc → pc.session = some k →
    s.step (.run i env) = some t → t.pool.metrics ≠ s.pool.metrics → s.state.session = k
  balanced : s.pool.metrics.published + s.pool.metrics.poolDrops +
    s.pool.metrics.conversionErrors ≤ s.pool.metrics.received

/-- In every run in which no `start` overlaps a recorder's way from its session check to
its charge. -/
theorem metrics_audited (reached : machine.Reachable (fun s a => recordsApart s a = true) s) :
    s.Audited := by
  have counted := Counted.reachable reached
  constructor
  · intro i pc env t k at_pc carried taken changed
    exact counted.charges_current at_pc carried taken changed
  · cases lock : s.poolLock with
    | true =>
        have none := counted.locked lock
        unfold accounted at none
        omega
    | false =>
        have books := counted.balanced lock
        unfold accounted at books
        omega

theorem metrics_audited_failed_once :
    ∃ s, machine.Reachable (fun s a => recordsApart s a = true) s ∧
      s.pool.metrics.conversionErrors = 1 ∧ s.Audited := by
  have passed : ((machine.exec recordsApart (FrameHub.new 2) ([Action.call .start] ++
      List.replicate 4 (Action.run 0 {}) ++
      [Action.call (.publishRgb 1 1 1 none), .run 1 {}, .run 1 {},
        .run 1 { choice := .fail .streamStopped }, .run 1 {}, .run 1 {}])).any fun s =>
      decide (s.pool.metrics.conversionErrors = 1)) = true := by
    decide +kernel
  obtain ⟨s, reached, failed⟩ := Lib.Machine.Reachable.of_exec (machine_new 2) passed
  exact ⟨s, reached, of_decide_eq_true failed, metrics_audited reached⟩

/-! ### What goes wrong otherwise -/

/-- A conversion of session 1 fails and passes the session check; `start` resets the
metrics for session 2; then the error is charged. -/
def mischarged : List Action :=
  [Action.call .start] ++ List.replicate 4 (Action.run 0 {}) ++
  [Action.call (.publishRgb 1 1 1 none), .run 1 {}, .run 1 {},
    .run 1 { choice := .fail .streamStopped }, .run 1 {}] ++
  [Action.call .start] ++ List.replicate 4 (Action.run 2 {}) ++ [Action.run 1 {}]

private theorem mischarged_unreceived :
    ((machine.exec (fun _ _ => true) (FrameHub.new 2) mischarged).any fun s =>
      decide (s.pool.metrics.received < s.pool.metrics.conversionErrors)) = true := by
  decide +kernel

theorem not_always_audited :
    ¬ ∀ s, machine.Reachable Lib.Machine.anything s → s.Audited := by
  intro always
  obtain ⟨s, reached, more⟩ :=
    Lib.Machine.Reachable.of_exec (machine_new 2) mischarged_unreceived
  have audited := always s (reached.mono fun _ _ _ => trivial)
  have unreceived := of_decide_eq_true more
  have balanced := audited.balanced
  omega

end CameraRs.Frame
