/-
Computations that fill a caller-owned buffer through mutable sub-slices.

A computation ends in a panic, in an error that leaves the buffer as it was when
the computation stopped, or in a value. The rules say when a computation returns
and what the buffer then holds; a loop advances along the buffer it is meant to
produce, whatever the buffer held before. Nothing here mentions a program.
-/

import Mathlib.Data.List.Basic
import Mathlib.Tactic.Linarith

namespace CameraRs.Lib

variable {α β ι ε σ τ : Type}

/-! ### Slices -/

def slice (xs : List α) (start stop : Nat) : List α :=
  (xs.drop start).take (stop - start)

theorem length_slice {xs : List α} {start stop : Nat} (within : stop ≤ xs.length) :
    (slice xs start stop).length = stop - start := by
  simp only [slice, List.length_take, List.length_drop]
  omega

theorem length_slice_add {xs : List α} {start size : Nat} (within : start + size ≤ xs.length) :
    (slice xs start (start + size)).length = size := by
  rw [length_slice within, Nat.add_sub_cancel_left]

theorem length_slice_le {xs : List α} {start stop : Nat} :
    (slice xs start stop).length ≤ stop - start := by
  simp only [slice, List.length_take]
  omega

theorem getD_slice {xs : List α} {start stop i : Nat} {d : α} (bound : i < stop - start) :
    (slice xs start stop).getD i d = xs.getD (start + i) d := by
  simp [slice, List.getD_eq_getElem?_getD, List.getElem?_take_of_lt bound]

theorem getD_drop {xs : List α} {start i : Nat} {d : α} :
    (xs.drop start).getD i d = xs.getD (start + i) d := by
  simp [List.getD_eq_getElem?_getD]

theorem slice_slice {xs : List α} {start stop a b : Nat} (bound : b ≤ stop - start) :
    slice (slice xs start stop) a b = slice xs (start + a) (start + b) := by
  apply List.ext_getElem?
  intro i
  by_cases inside : i < b - a
  · rw [slice, List.getElem?_take_of_lt inside, List.getElem?_drop, slice,
      List.getElem?_take_of_lt (by omega), List.getElem?_drop, slice,
      List.getElem?_take_of_lt (by omega), List.getElem?_drop]
    congr 1
    omega
  · rw [List.getElem?_eq_none (by simp only [slice, List.length_take]; omega),
      List.getElem?_eq_none (by simp only [slice, List.length_take]; omega)]

@[simp] theorem slice_all {xs : List α} : slice xs 0 xs.length = xs := by
  simp [slice]

theorem take_append_slice {xs : List α} {start stop : Nat} (ordered : start ≤ stop) :
    xs.take start ++ slice xs start stop = xs.take stop := by
  rw [slice, ← List.take_add, Nat.add_sub_cancel' ordered]

def overlay (want : List α) (k : Nat) (old : List α) : List α :=
  want.take k ++ old.drop k

@[simp] theorem overlay_zero {want old : List α} : overlay want 0 old = old := by
  simp [overlay]

theorem overlay_length {want old : List α} :
    overlay want want.length old = want ++ old.drop want.length := by
  simp [overlay]

theorem overlay_full {want old : List α} (same : old.length = want.length) :
    overlay want want.length old = want := by
  rw [overlay_length, List.drop_eq_nil_of_le (by omega), List.append_nil]

theorem length_overlay {want old : List α} {k : Nat} (known : k ≤ want.length)
    (fits : want.length ≤ old.length) : (overlay want k old).length = old.length := by
  simp only [overlay, List.length_append, List.length_take, List.length_drop]
  omega

theorem drop_overlay {want old : List α} {k stop : Nat} (known : k ≤ want.length)
    (later : k ≤ stop) : (overlay want k old).drop stop = old.drop stop := by
  have size : (want.take k).length = k := by simpa using known
  rw [overlay, List.drop_append, List.drop_eq_nil_of_le (by omega), List.nil_append, size,
    List.drop_drop]
  congr 1
  omega

theorem slice_overlay {want old : List α} {start stop : Nat} (known : start ≤ want.length) :
    slice (overlay want start old) start stop = slice old start stop := by
  rw [slice, drop_overlay known (Nat.le_refl start), slice]

theorem take_overlay {want old : List α} {k : Nat} (known : k ≤ want.length) :
    (overlay want k old).take k = want.take k := by
  have size : (want.take k).length = k := by simpa using known
  rw [overlay, List.take_append, List.take_of_length_le (by omega), size, Nat.sub_self,
    List.take_zero, List.append_nil]

/-! ### Computations -/

/-- `none` is a panic; an error keeps the state reached. -/
def Fill (σ ε α : Type) := σ → Option (Except ε α × σ)

namespace Fill

def andThen (m : Fill σ ε α) (f : α → Fill σ ε β) : Fill σ ε β := fun s =>
  match m s with
  | none => none
  | some (.error e, s') => some (.error e, s')
  | some (.ok a, s') => f a s'

instance : Monad (Fill σ ε) where
  pure a := fun s => some (.ok a, s)
  bind := andThen

def fail (e : ε) : Fill σ ε α := fun s => some (.error e, s)

def crash : Fill σ ε α := fun _ => none

/-- `debug_assert!`, and the panics of calls with a forbidden argument. -/
def assertThat (p : Prop) [Decidable p] : Fill σ ε Unit :=
  if p then pure () else crash

def ofExcept : Except ε α → Fill σ ε α
  | .ok a => pure a
  | .error e => fail e

/-- `ok_or_else(..)?`. -/
def orFail (value : Option α) (e : ε) : Fill σ ε α :=
  match value with
  | some a => pure a
  | none => fail e

def failIf (p : Prop) [Decidable p] (e : ε) : Fill σ ε Unit :=
  if p then fail e else pure ()

def getState : Fill σ ε σ := fun s => some (.ok s, s)

def read (xs : List β) (i : Nat) : Fill σ ε β := fun s =>
  match xs[i]? with
  | some b => some (.ok b, s)
  | none => none

def view (xs : List β) (start stop : Nat) : Fill σ ε (List β) := fun s =>
  if start ≤ stop ∧ stop ≤ xs.length then some (.ok (slice xs start stop), s) else none

def viewFrom (xs : List β) (start : Nat) : Fill σ ε (List β) := fun s =>
  if start ≤ xs.length then some (.ok (xs.drop start), s) else none

def store (i : Nat) (value : β) : Fill (List β) ε Unit := fun s =>
  if i < s.length then some (.ok (), s.set i value) else none

def copyFromSlice (values : List β) : Fill (List β) ε Unit := fun s =>
  if values.length = s.length then some (.ok (), values) else none

def fillWith (value : β) : Fill (List β) ε Unit := fun s =>
  some (.ok (), List.replicate s.length value)

/-- Run on `&mut buffer[start..stop]`. -/
def within (start stop : Nat) (m : Fill (List β) ε α) : Fill (List β) ε α := fun s =>
  if start ≤ stop ∧ stop ≤ s.length then
    match m (slice s start stop) with
    | none => none
    | some (result, part) => some (result, s.take start ++ part ++ s.drop stop)
  else none

/-- Run on the two adjacent slices of `size` elements that `split_at_mut(start + size)`
separates. -/
def withinPair (start size : Nat) (m : Fill (List β × List β) ε α) : Fill (List β) ε α :=
  fun s =>
    if start + size + size ≤ s.length then
      match m (slice s start (start + size), slice s (start + size) (start + size + size)) with
      | none => none
      | some (result, first, second) =>
          some (result, s.take start ++ first ++ second ++ s.drop (start + size + size))
    else none

/-- Run on one part of the state. -/
def zoom (get : σ → τ) (put : τ → σ → σ) (m : Fill τ ε α) : Fill σ ε α := fun s =>
  match m (get s) with
  | none => none
  | some (result, part) => some (result, put part s)

def onFst (m : Fill σ ε α) : Fill (σ × τ) ε α := zoom Prod.fst (fun part s => (part, s.2)) m

def onSnd (m : Fill τ ε α) : Fill (σ × τ) ε α := zoom Prod.snd (fun part s => (s.1, part)) m

def forRange (start stop : Nat) (f : Nat → Fill σ ε Unit) : Fill σ ε Unit :=
  (List.range' start (stop - start)).forM f

/-- `for i in (start..stop).step_by(2)`. -/
def forStep2 (start stop : Nat) (f : Nat → Fill σ ε Unit) : Fill σ ε Unit :=
  (List.range' start ((stop - start + 1) / 2) 2).forM f

def forStepBy (step start stop : Nat) (f : Nat → Fill σ ε Unit) : Fill σ ε Unit :=
  (List.range' start ((stop - start + (step - 1)) / step) step).forM f

/-- `for (chunk, &item) in buffer.chunks_exact_mut(size).zip(items)`. -/
def forChunks (size : Nat) (items : List ι) (f : ι → Fill (List β) ε Unit) :
    Fill (List β) ε Unit := do
  assertThat (size ≠ 0)
  let buffer ← getState
  forRange 0 (min (buffer.length / size) items.length) fun k => do
    let item ← read items k
    within (k * size) (k * size + size) (f item)

/-! ### Returning -/

/-- From `s` the computation returns `a` and leaves `s'`. -/
def Returns (m : Fill σ ε α) (s : σ) (a : α) (s' : σ) : Prop :=
  m s = some (.ok a, s')

namespace Returns

variable {s s' s'' : σ} {a : α} {b : β}

theorem pure : Returns (Pure.pure a : Fill σ ε α) s a s := rfl

theorem bind {m : Fill σ ε α} {f : α → Fill σ ε β} (first : Returns m s a s')
    (rest : Returns (f a) s' b s'') : Returns (m >>= f) s b s'' := by
  change andThen m f s = _
  rw [andThen, show m s = some (.ok a, s') from first]
  exact rest

theorem then_eq {m : Fill σ ε α} {f : α → Fill σ ε β} (first : Returns m s a s') :
    (m >>= f) s = f a s' := by
  change andThen m f s = _
  rw [andThen, show m s = some (.ok a, s') from first]

theorem ofExcept {result : Except ε α} (known : result = .ok a) :
    Returns (Fill.ofExcept result : Fill σ ε α) s a s := by
  rw [known]
  rfl

theorem orFail {value : Option α} {e : ε} (known : value = some a) :
    Returns (Fill.orFail value e : Fill σ ε α) s a s := by
  rw [known]
  rfl

theorem failIf {p : Prop} [Decidable p] {e : ε} (fine : ¬p) :
    Returns (Fill.failIf p e : Fill σ ε Unit) s () s := by
  rw [Fill.failIf, if_neg fine]
  rfl

theorem assertThat {p : Prop} [Decidable p] (holds : p) :
    Returns (Fill.assertThat p : Fill σ ε Unit) s () s := by
  rw [Fill.assertThat, if_pos holds]
  rfl

theorem getState : Returns (Fill.getState : Fill σ ε σ) s s s := rfl

theorem read {xs : List β} {i : Nat} {d : β} (bound : i < xs.length) :
    Returns (Fill.read xs i : Fill σ ε β) s (xs.getD i d) s := by
  simp [Returns, Fill.read, List.getElem?_eq_getElem bound, List.getD_eq_getElem?_getD]

theorem readSome {xs : List β} {i : Nat} (found : xs[i]? = some b) :
    Returns (Fill.read xs i : Fill σ ε β) s b s := by
  rw [Returns, Fill.read, found]

theorem view {xs : List β} {start stop : Nat} (ordered : start ≤ stop)
    (bound : stop ≤ xs.length) :
    Returns (Fill.view xs start stop : Fill σ ε (List β)) s (slice xs start stop) s := by
  rw [Returns, Fill.view, if_pos ⟨ordered, bound⟩]

theorem viewFrom {xs : List β} {start : Nat} (bound : start ≤ xs.length) :
    Returns (Fill.viewFrom xs start : Fill σ ε (List β)) s (xs.drop start) s := by
  rw [Returns, Fill.viewFrom, if_pos bound]

theorem store {buffer : List β} {i : Nat} {value : β} (bound : i < buffer.length) :
    Returns (Fill.store i value : Fill (List β) ε Unit) buffer () (buffer.set i value) := by
  rw [Returns, Fill.store, if_pos bound]

theorem copyFromSlice {values buffer : List β} (same : values.length = buffer.length) :
    Returns (Fill.copyFromSlice values : Fill (List β) ε Unit) buffer () values := by
  rw [Returns, Fill.copyFromSlice, if_pos same]

theorem fillWith {buffer filled : List β} {value : β}
    (same : List.replicate buffer.length value = filled) :
    Returns (Fill.fillWith value : Fill (List β) ε Unit) buffer () filled := by
  rw [← same]
  rfl

theorem zoom {get : σ → τ} {put : τ → σ → σ} {m : Fill τ ε α} {part : τ}
    (inner : Returns m (get s) a part) : Returns (Fill.zoom get put m) s a (put part s) := by
  rw [Returns, Fill.zoom, show m (get s) = some (.ok a, part) from inner]

theorem zoom_eq {get : σ → τ} {put : τ → σ → σ} {m : Fill τ ε α} {part : τ}
    (inner : Returns m (get s) a part) (whole : put part s = s') :
    Returns (Fill.zoom get put m) s a s' :=
  whole ▸ zoom inner

theorem onFst {m : Fill σ ε α} {t : τ} (inner : Returns m s a s') :
    Returns (Fill.onFst m) (s, t) a (s', t) :=
  zoom inner

theorem onSnd {m : Fill σ ε α} {t : τ} (inner : Returns m s a s') :
    Returns (Fill.onSnd m) (t, s) a (t, s') :=
  zoom inner

theorem within {buffer part : List β} {start stop : Nat} {m : Fill (List β) ε α}
    (ordered : start ≤ stop) (bound : stop ≤ buffer.length)
    (inner : Returns m (slice buffer start stop) a part) :
    Returns (Fill.within start stop m) buffer a
      (buffer.take start ++ part ++ buffer.drop stop) := by
  rw [Returns, Fill.within, if_pos ⟨ordered, bound⟩,
    show m (slice buffer start stop) = some (.ok a, part) from inner]

theorem advancePart {want old : List β} {start stop k : Nat} {m : Fill (List β) ε α}
    (part : k ≤ stop - start) (ordered : start ≤ stop) (inside : stop ≤ want.length)
    (fits : want.length ≤ old.length)
    (inner : Returns m (slice old start stop) a
      (overlay (slice want start stop) k (slice old start stop))) :
    Returns (Fill.within start stop m) (overlay want start old) a
      (overlay want (start + k) old) := by
  have known : start ≤ want.length := by omega
  have ran := @within _ _ _ a (overlay want start old)
    (overlay (slice want start stop) k (slice old start stop)) start stop m ordered
    (by rw [length_overlay known fits]; omega) (by rw [slice_overlay known]; exact inner)
  have front : (slice want start stop).take k = slice want start (start + k) := by
    rw [slice, slice, List.take_take, Nat.min_eq_left part, Nat.add_sub_cancel_left]
  have back : (slice old start stop).drop k ++ old.drop stop = old.drop (start + k) := by
    rw [slice, List.drop_take, List.drop_drop]
    conv_rhs => rw [← List.take_append_drop (stop - start - k) (old.drop (start + k))]
    rw [List.drop_drop]
    congr 2
    omega
  have joined : want.take start ++ overlay (slice want start stop) k (slice old start stop) ++
      old.drop stop = overlay want (start + k) old := by
    rw [overlay, overlay, front, ← List.append_assoc, take_append_slice (by omega),
      List.append_assoc, back]
  rwa [take_overlay known, drop_overlay known ordered, joined] at ran

theorem storeNext {want old : List β} {i k : Nat} {value : β} (at_next : i = k)
    (known : want[k]? = some value) (fits : want.length ≤ old.length) :
    Returns (Fill.store i value : Fill (List β) ε Unit) (overlay want k old) ()
      (overlay want (k + 1) old) := by
  subst at_next
  obtain ⟨bound, rfl⟩ := List.getElem?_eq_some_iff.mp known
  have front : (want.take i).length = i := by simpa using Nat.le_of_lt bound
  have back : old.drop i = old[i] :: old.drop (i + 1) := List.drop_eq_getElem_cons (by omega)
  have stored : (overlay want i old).set i want[i] = overlay want (i + 1) old := by
    rw [overlay, overlay, List.set_append_right _ _ (by omega), front, Nat.sub_self, back,
      List.set_cons_zero, List.take_add_one, known, List.append_assoc]
    rfl
  rw [← stored]
  exact store (by rw [length_overlay (by omega) fits]; omega)

theorem advance {want old : List β} {start stop : Nat} {m : Fill (List β) ε α}
    (ordered : start ≤ stop) (inside : stop ≤ want.length) (fits : want.length ≤ old.length)
    (inner : Returns m (slice old start stop) a (slice want start stop)) :
    Returns (Fill.within start stop m) (overlay want start old) a (overlay want stop old) := by
  have same : (slice old start stop).length = (slice want start stop).length := by
    rw [length_slice (by omega), length_slice inside]
  have ran := advancePart (Nat.le_refl _) ordered inside fits (a := a) (m := m) <| by
    rw [← length_slice inside, overlay_full same]
    exact inner
  rwa [Nat.add_sub_cancel' ordered] at ran

private theorem advancePair {want old : List β} {start size : Nat}
    {m : Fill (List β × List β) ε α}
    (inside : start + size + size ≤ want.length) (fits : want.length ≤ old.length)
    (inner : Returns m
      (slice old start (start + size), slice old (start + size) (start + size + size)) a
      (slice want start (start + size), slice want (start + size) (start + size + size))) :
    Returns (Fill.withinPair start size m) (overlay want start old) a
      (overlay want (start + size + size) old) := by
  have known : start ≤ want.length := by omega
  have later : slice (overlay want start old) (start + size) (start + size + size) =
      slice old (start + size) (start + size + size) := by
    rw [slice, slice, drop_overlay known (by omega)]
  rw [Returns, Fill.withinPair, if_pos (by rw [length_overlay known fits]; omega),
    slice_overlay known, later, show m _ = _ from inner]
  simp only
  rw [take_overlay known, drop_overlay known (by omega), take_append_slice (by omega),
    take_append_slice (by omega)]
  rfl

/-! ### Loops -/

theorem forM {items : List ι} {f : ι → Fill σ ε Unit} {state : Nat → σ}
    (round : ∀ k (h : k < items.length), Returns (f items[k]) (state k) () (state (k + 1))) :
    Returns (items.forM f) (state 0) () (state items.length) := by
  induction items generalizing state with
  | nil => exact pure
  | cons head tail ih =>
      refine bind (round 0 (by simp)) ?_
      have rest := @ih (fun k => state (k + 1)) fun k h => round (k + 1) (by simpa using h)
      simpa using rest

theorem forRange {start stop : Nat} {f : Nat → Fill σ ε Unit} {state : Nat → σ}
    (ordered : start ≤ stop)
    (round : ∀ i, start ≤ i → i < stop → Returns (f i) (state i) () (state (i + 1))) :
    Returns (Fill.forRange start stop f) (state start) () (state stop) := by
  have ran := @forM _ _ _ (List.range' start (stop - start)) f (fun k => state (start + k))
    fun k h => by
      rw [List.length_range'] at h
      rw [List.getElem_range', Nat.one_mul]
      exact round (start + k) (by omega) (by omega)
  rw [List.length_range', Nat.add_zero, Nat.add_sub_cancel' ordered] at ran
  exact ran

theorem forStep2 {start stop : Nat} {f : Nat → Fill σ ε Unit} {state : Nat → σ}
    (ordered : start ≤ stop)
    (round : ∀ i, start ≤ i → i < stop → (i - start) % 2 = 0 →
      Returns (f i) (state i) () (state (min (i + 2) stop))) :
    Returns (Fill.forStep2 start stop f) (state start) () (state stop) := by
  have ran := @forM _ _ _ (List.range' start ((stop - start + 1) / 2) 2) f
    (fun k => state (min (start + 2 * k) stop)) fun k h => by
      rw [List.length_range'] at h
      rw [List.getElem_range', Nat.min_eq_left (show start + 2 * k ≤ stop by omega),
        show start + 2 * (k + 1) = start + 2 * k + 2 by omega]
      exact round (start + 2 * k) (by omega) (by omega) (by omega)
  have first : min (start + 2 * 0) stop = start := by omega
  have last : min (start + 2 * ((stop - start + 1) / 2)) stop = stop := by omega
  rwa [List.length_range', first, last] at ran

theorem forStepBy {step count : Nat} {f : Nat → Fill σ ε Unit} {state : Nat → σ}
    (positive : 0 < step) (begins : state 0 = s)
    (round : ∀ k, k < count →
      Returns (f (k * step)) (state (k * step)) () (state (k * step + step))) :
    Returns (Fill.forStepBy step 0 (count * step) f) s () (state (count * step)) := by
  have rounds : (count * step - 0 + (step - 1)) / step = count := by
    rw [Nat.sub_zero, Nat.mul_comm, Nat.mul_add_div positive, Nat.div_eq_of_lt (by omega),
      Nat.add_zero]
  have ran := @forM _ _ _ (List.range' 0 count step) f (fun k => state (k * step)) fun k h => by
    rw [List.length_range'] at h
    rw [List.getElem_range', Nat.zero_add, Nat.mul_comm step, Nat.succ_mul]
    exact round k h
  rw [List.length_range', Nat.zero_mul, begins] at ran
  rwa [Fill.forStepBy, rounds]

end Returns

/-! ### Refusing -/

/-- From `s` the computation ends in the error `e` and leaves `s` as it was. -/
def Refuses (m : Fill σ ε α) (s : σ) (e : ε) : Prop :=
  m s = some (.error e, s)

namespace Refuses

variable {s : σ} {e : ε}

theorem fail : Refuses (Fill.fail e : Fill σ ε α) s e := rfl

theorem ofExcept {result : Except ε α} (known : result = .error e) :
    Refuses (Fill.ofExcept result : Fill σ ε α) s e := by
  rw [known]
  rfl

theorem orFail {value : Option α} (missing : value = none) :
    Refuses (Fill.orFail value e : Fill σ ε α) s e := by
  rw [missing]
  rfl

theorem failIf {p : Prop} [Decidable p] (holds : p) :
    Refuses (Fill.failIf p e : Fill σ ε Unit) s e := by
  rw [Fill.failIf, if_pos holds]
  rfl

theorem here {m : Fill σ ε α} {f : α → Fill σ ε β} (first : Refuses m s e) :
    Refuses (m >>= f) s e := by
  change andThen m f s = _
  rw [andThen, show m s = some (.error e, s) from first]

theorem later {m : Fill σ ε α} {f : α → Fill σ ε β} {a : α} (first : Returns m s a s)
    (rest : Refuses (f a) s e) : Refuses (m >>= f) s e := by
  change andThen m f s = _
  rw [andThen, show m s = some (.ok a, s) from first]
  exact rest

end Refuses

/-! ### Failing -/

/-- From `s` the computation ends in an error, whatever it has changed by then. -/
def Fails (m : Fill σ ε α) (s : σ) : Prop :=
  ∃ e s', m s = some (.error e, s')

namespace Fails

variable {s s' : σ} {a : α}

theorem refused {m : Fill σ ε α} {e : ε} (refuses : Refuses m s e) : Fails m s :=
  ⟨e, s, refuses⟩

theorem here {m : Fill σ ε α} {f : α → Fill σ ε β} (first : Fails m s) : Fails (m >>= f) s := by
  obtain ⟨e, reached, failed⟩ := first
  refine ⟨e, reached, ?_⟩
  change andThen m f s = _
  rw [andThen, failed]

theorem later {m : Fill σ ε α} {f : α → Fill σ ε β} (first : Returns m s a s')
    (rest : Fails (f a) s') : Fails (m >>= f) s := by
  obtain ⟨e, reached, failed⟩ := rest
  exact ⟨e, reached, (Returns.then_eq first).trans failed⟩

theorem failIf {p : Prop} [Decidable p] {e : ε} (holds : p) :
    Fails (Fill.failIf p e : Fill σ ε Unit) s :=
  refused (.failIf holds)

theorem unlessNone {value : Option α} {e : ε} {f : α → Fill σ ε β}
    (rest : ∀ a, value = some a → Fails (f a) s) : Fails (Fill.orFail value e >>= f) s := by
  cases known : value with
  | none => exact refused (.here (.orFail rfl))
  | some a => exact later (.orFail rfl) (rest a known)

theorem unlessIf {p : Prop} [Decidable p] {e : ε} {f : Unit → Fill σ ε β}
    (rest : ¬p → Fails (f ()) s) : Fails (Fill.failIf p e >>= f) s := by
  by_cases holds : p
  · exact refused (.here (.failIf holds))
  · exact later (.failIf holds) (rest holds)

theorem unlessError {result : Except ε α} {f : α → Fill σ ε β}
    (rest : ∀ a, result = .ok a → Fails (f a) s) : Fails (Fill.ofExcept result >>= f) s := by
  cases known : result with
  | error e => exact refused (.here (.ofExcept rfl))
  | ok a => exact later (.ofExcept rfl) (rest a known)

theorem onSnd {m : Fill τ ε α} {t : τ} {s : σ} (inner : Fails m t) :
    Fails (Fill.onSnd m) (s, t) := by
  obtain ⟨e, reached, failed⟩ := inner
  refine ⟨e, (s, reached), ?_⟩
  rw [Fill.onSnd, Fill.zoom, show m (s, t).2 = _ from failed]

theorem within {buffer : List β} {start stop : Nat} {m : Fill (List β) ε α}
    (ordered : start ≤ stop) (bound : stop ≤ buffer.length)
    (inner : Fails m (slice buffer start stop)) : Fails (Fill.within start stop m) buffer := by
  obtain ⟨e, part, failed⟩ := inner
  refine ⟨e, buffer.take start ++ part ++ buffer.drop stop, ?_⟩
  rw [Fill.within, if_pos ⟨ordered, bound⟩, failed]

theorem forRange {start stop k : Nat} {f : Nat → Fill σ ε Unit} {P : σ → Prop}
    (inside : start ≤ k ∧ k < stop) (holds : P s)
    (before : ∀ i, start ≤ i → i < k → ∀ s, P s → ∃ s', Returns (f i) s () s' ∧ P s')
    (round : ∀ s, P s → Fails (f k) s) : Fails (Fill.forRange start stop f) s := by
  obtain ⟨count, rfl⟩ : ∃ count, k = start + count := ⟨k - start, by omega⟩
  obtain ⟨more, rfl⟩ : ∃ more, stop = start + count + more + 1 :=
    ⟨stop - (start + count + 1), by omega⟩
  clear inside
  unfold Fill.forRange
  induction count generalizing start s with
  | zero =>
      rw [show start + 0 + more + 1 - start = more + 1 by omega, List.range'_succ]
      exact here (round s holds)
  | succ count ih =>
      obtain ⟨next, ran, kept⟩ := before start (Nat.le_refl _) (by omega) s holds
      rw [show start + (count + 1) + more + 1 - start = (count + 1 + more) + 1 by omega,
        List.range'_succ]
      refine later ran ?_
      have rest := @ih next (start + 1) kept
        (fun i low high => before i (by omega) (by omega))
        (by rwa [show start + 1 + count = start + (count + 1) by omega])
      rwa [show start + 1 + count + more + 1 - (start + 1) = count + 1 + more by omega] at rest

end Fails

/-! ### Filling a buffer -/

/-- A buffer of the length of `want` holds `want` afterwards, whatever it held. -/
def Writes (m : Fill (List β) ε Unit) (want : List β) : Prop :=
  ∀ old, old.length = want.length → Returns m old () want

/-- A buffer that may be longer holds `want` at its front; the rest is untouched. -/
def Fills (m : Fill (List β) ε Unit) (want : List β) : Prop :=
  ∀ old, want.length ≤ old.length → Returns m old () (overlay want want.length old)

theorem Fills.writes {m : Fill (List β) ε Unit} {want : List β} (fills : Fills m want) :
    Writes m want := by
  intro old same
  have ran := fills old (by omega)
  rwa [overlay_full same] at ran

theorem Writes.advance {m : Fill (List β) ε Unit} {want old : List β} {start stop : Nat}
    (ordered : start ≤ stop) (inside : stop ≤ want.length) (fits : want.length ≤ old.length)
    (writes : Writes m (slice want start stop)) :
    Returns (Fill.within start stop m) (overlay want start old) () (overlay want stop old) :=
  .advance ordered inside fits <| writes _ <| by
    rw [length_slice (by omega), length_slice (by omega)]

theorem Writes.copyFromSlice {values : List β} :
    Writes (Fill.copyFromSlice values : Fill (List β) ε Unit) values :=
  fun _ same => .copyFromSlice same.symm

theorem Writes.advanceTwo {a b : Fill (List β) ε Unit} {want old front back : List β}
    {start middle stop : Nat} (at_middle : middle = start + front.length)
    (at_stop : stop = middle + back.length) (inside : stop ≤ want.length)
    (fits : want.length ≤ old.length) (part : slice want start stop = front ++ back)
    (first : Writes a front) (second : Writes b back) :
    Returns (do
      Fill.within start middle a
      Fill.within middle stop b) (overlay want start old) () (overlay want stop old) := by
  have left : slice want start middle = front := by
    rw [← Nat.add_zero start, at_middle,
      ← @slice_slice _ want start stop 0 front.length (by omega), part]
    simp [slice]
  have right : slice want middle stop = back := by
    rw [at_middle, show stop = start + (front.length + back.length) by omega,
      ← @slice_slice _ want start stop front.length (front.length + back.length) (by omega), part]
    simp [slice]
  exact .bind (Writes.advance (by omega) (by omega) fits (by rwa [left]))
    (Writes.advance (by omega) inside fits (by rwa [right]))

theorem Writes.append {a b : Fill (List β) ε Unit} {front back : List β} {middle stop : Nat}
    (at_middle : middle = front.length) (at_stop : stop = front.length + back.length)
    (first : Writes a front) (second : Writes b back) :
    Writes (do
      Fill.within 0 middle a
      Fill.within middle stop b) (front ++ back) := by
  intro old same
  have size : (front ++ back).length = stop := by rw [List.length_append, at_stop]
  have ran := @Writes.advanceTwo _ _ a b (front ++ back) old front back 0 middle stop (by omega)
    (by omega) (by omega) (by omega) (by rw [← size, slice_all]) first second
  rw [← size] at ran ⊢
  rwa [overlay_zero, overlay_full same] at ran

/-! ### Kept properties -/

/-- Whatever the computation returns short of a panic, the property is kept. -/
def Keeps (P : σ → Prop) (m : Fill σ ε α) : Prop :=
  ∀ s result s', P s → m s = some (result, s') → P s'

namespace Keeps

variable {P : σ → Prop} {Q : τ → Prop}

theorem pure {a : α} : Keeps P (Pure.pure a : Fill σ ε α) := by
  intro s result s' holds ran
  cases ran
  exact holds

theorem fail {e : ε} : Keeps P (Fill.fail e : Fill σ ε α) := by
  intro s result s' holds ran
  cases ran
  exact holds

theorem crash : Keeps P (Fill.crash : Fill σ ε α) := by
  intro s result s' holds ran
  cases ran

theorem bind {m : Fill σ ε α} {f : α → Fill σ ε β} (first : Keeps P m)
    (rest : ∀ a, Keeps P (f a)) : Keeps P (m >>= f) := by
  intro s result s' holds ran
  change andThen m f s = _ at ran
  unfold andThen at ran
  cases head : m s with
  | none =>
      rw [head] at ran
      cases ran
  | some reached =>
      obtain ⟨outcome, middle⟩ := reached
      have between := first s outcome middle holds head
      rw [head] at ran
      cases outcome with
      | error e =>
          cases ran
          exact between
      | ok a => exact rest a middle result s' between ran

theorem ofExcept {result : Except ε α} : Keeps P (Fill.ofExcept result : Fill σ ε α) := by
  cases result with
  | ok a => exact pure
  | error e => exact fail

theorem orFail {value : Option α} {e : ε} : Keeps P (Fill.orFail value e : Fill σ ε α) := by
  cases value with
  | some a => exact pure
  | none => exact fail

theorem failIf {p : Prop} [Decidable p] {e : ε} :
    Keeps P (Fill.failIf p e : Fill σ ε Unit) := by
  unfold Fill.failIf
  split
  · exact fail
  · exact pure

theorem getState : Keeps P (Fill.getState : Fill σ ε σ) := by
  intro s result s' holds ran
  cases ran
  exact holds

theorem read {xs : List β} {i : Nat} : Keeps P (Fill.read xs i : Fill σ ε β) := by
  intro s result s' holds ran
  unfold Fill.read at ran
  split at ran
  · cases ran
    exact holds
  · cases ran

theorem view {xs : List β} {start stop : Nat} :
    Keeps P (Fill.view xs start stop : Fill σ ε (List β)) := by
  intro s result s' holds ran
  unfold Fill.view at ran
  split at ran
  · cases ran
    exact holds
  · cases ran

theorem zoom {get : σ → τ} {put : τ → σ → σ} {m : Fill τ ε α} (down : ∀ s, P s → Q (get s))
    (up : ∀ part s, P s → Q part → P (put part s)) (inner : Keeps Q m) :
    Keeps P (Fill.zoom get put m) := by
  intro s result s' holds ran
  unfold Fill.zoom at ran
  split at ran
  · cases ran
  · rename_i outcome part reached
    cases ran
    exact up part s holds (inner _ _ _ (down s holds) reached)

theorem onSnd {P : σ → Prop} {m : Fill τ ε α} :
    Keeps (fun s : σ × τ => P s.1) (Fill.onSnd m) :=
  zoom (Q := fun _ => True) (fun _ _ => trivial) (fun _ _ holds _ => holds)
    (fun _ _ _ _ _ => trivial)

end Keeps

end Fill

/-! ### Images made of equal blocks -/

def blocks (f : Nat → List β) (n : Nat) : List β := (List.range n).flatMap f

section Blocks

variable {f : Nat → List β} {size n : Nat}

theorem blocks_succ : blocks f (n + 1) = blocks f n ++ f n := by
  simp [blocks, List.range_succ]

theorem length_blocks (even : ∀ k, (f k).length = size) : (blocks f n).length = n * size := by
  induction n with
  | zero => simp [blocks]
  | succ n ih => rw [blocks_succ, List.length_append, ih, even, Nat.succ_mul]

theorem slice_blocks (even : ∀ k, (f k).length = size) {k : Nat} (bound : k < n) :
    slice (blocks f n) (k * size) (k * size + size) = f k := by
  induction n with
  | zero => omega
  | succ n ih =>
      have front : (blocks f n).length = n * size := length_blocks even
      rw [blocks_succ, slice]
      rcases Nat.lt_succ_iff_lt_or_eq.mp bound with earlier | rfl
      · have room : k * size + size ≤ n * size := by
          rw [← Nat.succ_mul]
          exact Nat.mul_le_mul_right size earlier
        rw [List.drop_append_of_le_length (by omega),
          List.take_append_of_le_length (by rw [List.length_drop]; omega)]
        exact ih earlier
      · rw [List.drop_append, front, Nat.sub_self, List.drop_zero,
          List.drop_eq_nil_of_le (by omega), List.nil_append, Nat.add_sub_cancel_left,
          List.take_of_length_le (by rw [even])]

theorem getElem?_blocks (even : ∀ k, (f k).length = size) {k i : Nat} (bound : k < n)
    (inside : i < size) : (blocks f n)[k * size + i]? = (f k)[i]? := by
  rw [← slice_blocks even bound, slice, List.getElem?_take_of_lt (by omega),
    List.getElem?_drop]

theorem blocks_congr {g : Nat → List β} (same : ∀ k, k < n → f k = g k) :
    blocks f n = blocks g n := by
  induction n with
  | zero => rfl
  | succ n ih =>
      rw [blocks_succ, blocks_succ, same n (Nat.lt_succ_self n),
        ih fun k earlier => same k (Nat.lt_succ_of_lt earlier)]

theorem blocks_add {count : Nat} :
    blocks f (n + count) = blocks f n ++ blocks (fun k => f (n + k)) count := by
  induction count with
  | zero => simp [blocks]
  | succ count ih => rw [← Nat.add_assoc, blocks_succ, ih, blocks_succ, List.append_assoc]

theorem slice_blocks_run (even : ∀ k, (f k).length = size) {k count : Nat}
    (bound : k + count ≤ n) :
    slice (blocks f n) (k * size) ((k + count) * size) =
      blocks (fun i => f (k + i)) count := by
  obtain ⟨rest, rfl⟩ := Nat.exists_eq_add_of_le bound
  have front : (blocks f k).length = k * size := length_blocks even
  have middle : (blocks (fun i => f (k + i)) count).length = count * size :=
    length_blocks fun i => even (k + i)
  rw [blocks_add, blocks_add, slice, List.append_assoc, List.drop_append, front, Nat.sub_self,
    List.drop_zero, List.drop_eq_nil_of_le (by omega), List.nil_append, Nat.add_mul,
    Nat.add_sub_cancel_left, ← middle, List.take_left]

theorem blocks_mul {count : Nat} :
    blocks (fun k => blocks (fun i => f (k * count + i)) count) n = blocks f (n * count) := by
  induction n with
  | zero => simp [blocks]
  | succ n ih => rw [blocks_succ, ih, Nat.succ_mul, blocks_add]

theorem blocks_slices {xs : List β} {start : Nat} :
    blocks (fun k => slice xs (start + k * size) (start + k * size + size)) n =
      slice xs start (start + n * size) := by
  induction n with
  | zero => simp [blocks, slice]
  | succ n ih =>
      rw [blocks_succ, ih]
      unfold slice
      rw [Nat.succ_mul, Nat.add_sub_cancel_left, Nat.add_sub_cancel_left, Nat.add_sub_cancel_left,
        List.take_add, List.drop_drop]

theorem Fill.Fills.rounds {round : Nat → Fill (List β) ε Unit}
    (even : ∀ k, (f k).length = size)
    (rounds : ∀ k old, k < n → (blocks f n).length ≤ old.length →
      Returns (round k) (overlay (blocks f n) (k * size) old) ()
        (overlay (blocks f n) (k * size + size) old)) :
    Fills (forRange 0 n round) (blocks f n) := by
  intro old fits
  have ran := @Returns.forRange _ _ 0 n round (fun k => overlay (blocks f n) (k * size) old)
    (Nat.zero_le n) fun k _ bound => by
      rw [Nat.succ_mul]
      exact rounds k old bound fits
  rw [Nat.zero_mul, overlay_zero] at ran
  rwa [length_blocks even]

theorem Fill.Writes.block {m : Fill (List β) ε Unit} {old : List β} {k : Nat}
    (even : ∀ k, (f k).length = size) (bound : k < n)
    (fits : (blocks f n).length ≤ old.length) (writes : Writes m (f k)) :
    Returns (within (k * size) (k * size + size) m) (overlay (blocks f n) (k * size) old) ()
      (overlay (blocks f n) (k * size + size) old) := by
  have room : k * size + size ≤ (blocks f n).length := by
    rw [length_blocks even, ← Nat.succ_mul]
    exact Nat.mul_le_mul_right size bound
  refine Writes.advance (Nat.le_add_right _ _) room fits ?_
  rwa [slice_blocks even bound]

theorem Fill.Returns.blockPair {m : Fill (List β × List β) ε Unit} {old : List β} {k : Nat}
    (even : ∀ k, (f k).length = size) (bound : k + 1 < n)
    (fits : (blocks f n).length ≤ old.length)
    (writes : ∀ old0 old1, old0.length = size → old1.length = size →
      Returns m (old0, old1) () (f k, f (k + 1))) :
    Returns (withinPair (k * size) size m) (overlay (blocks f n) (k * size) old) ()
      (overlay (blocks f n) ((k + 2) * size) old) := by
  have total : (blocks f n).length = n * size := length_blocks even
  have last : (k + 2) * size = k * size + size + size := by
    rw [Nat.add_mul, Nat.two_mul, Nat.add_assoc]
  have room : (k + 2) * size ≤ n * size := Nat.mul_le_mul_right size bound
  rw [last]
  refine Returns.advancePair (by omega) fits ?_
  rw [slice_blocks even (show k < n by omega), ← Nat.succ_mul, slice_blocks even bound]
  exact writes _ _ (by rw [length_slice (by rw [Nat.succ_mul]; omega), Nat.succ_mul]; omega)
    (by rw [length_slice (by rw [Nat.succ_mul]; omega)]; omega)

theorem Fill.Fills.paired {pair : Nat → Fill (List β) ε Unit} {last : Fill (List β) ε Unit}
    (even : ∀ k, (f k).length = size)
    (pairs : ∀ k old, k + 1 < n → k % 2 = 0 → (blocks f n).length ≤ old.length →
      Returns (pair k) (overlay (blocks f n) (k * size) old) ()
        (overlay (blocks f n) ((k + 2) * size) old))
    (single : ∀ old, n / 2 * 2 + 1 = n → (blocks f n).length ≤ old.length →
      Returns last (overlay (blocks f n) (n / 2 * 2 * size) old) ()
        (overlay (blocks f n) ((n / 2 * 2 + 1) * size) old)) :
    Fills (do
      forStep2 0 (n / 2 * 2) pair
      if n / 2 * 2 ≠ n then last else pure ()) (blocks f n) := by
  intro old fits
  have ran := @Returns.forStep2 _ _ 0 (n / 2 * 2) pair
    (fun k => overlay (blocks f n) (k * size) old) (Nat.zero_le _) fun k _ bound parity => by
      rw [Nat.min_eq_left (by omega)]
      exact pairs k old (by omega) (by omega) fits
  rw [Nat.zero_mul, overlay_zero] at ran
  rw [length_blocks even]
  refine .bind ran ?_
  split
  · have final := single old (by omega) fits
    rwa [show n / 2 * 2 + 1 = n by omega] at final
  · rename_i whole
    rw [not_not.mp whole]
    exact .pure

theorem Fill.Fills.chunks {items : List ι} {body : ι → Fill (List β) ε Unit}
    (even : ∀ k, (f k).length = size) (positive : 0 < size)
    (bodies : ∀ k (h : k < items.length), Writes (body items[k]) (f k)) :
    Fills (forChunks size items body) (blocks f items.length) := by
  intro old fits
  have enough : min (old.length / size) items.length = items.length := by
    refine Nat.min_eq_right ((Nat.le_div_iff_mul_le positive).mpr ?_)
    rwa [length_blocks even] at fits
  refine .bind (.assertThat (by omega)) (.bind .getState ?_)
  rw [enough]
  refine Fills.rounds even (fun k old bound fits => ?_) old fits
  exact .bind (.readSome (List.getElem?_eq_getElem bound))
    (Writes.block even bound fits (bodies k bound))

end Blocks

end CameraRs.Lib
