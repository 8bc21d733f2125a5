/-
What the ranking of configurations keeps, and in which order.

A configuration is kept exactly when it is valid and meets every constraint of the request.
The sort is stable and its key holds neither the format nor the size, so configurations that
the key does not tell apart keep their order. Only neighbours are compared for repeats: a
configuration listed twice stays twice when one with the same key stands in between.
-/

import CameraRs.FrameRate
import CameraRs.Lib.StableSort
import CameraRs.Negotiation.Modes

namespace CameraRs

open Lib.StableSort

/-! ### Frame rates -/

theorem FrameRate.atLeast_iff {numerator denominator : UInt32} {rate minimum : FrameRate}
    (made : FrameRate.new numerator denominator = .ok rate) :
    rate.atLeast minimum = true ↔
      minimum.numerator.toNat * denominator.toNat ≤
        numerator.toNat * minimum.denominator.toNat := by
  obtain ⟨divisor, positive, n, d⟩ := new_reduced made
  rw [atLeast, decide_eq_true_iff, ← n, ← d, ← Nat.mul_assoc,
    Nat.mul_right_comm rate.numerator.toNat]
  exact (Nat.mul_le_mul_right_iff positive).symm

/-! ### What a request accepts -/

namespace CaptureRequest

/-- The constraints, each on its own. -/
structure Acceptable (request : CaptureRequest) (config : CameraConfig) : Prop where
  dimensions : config.width ≠ 0 ∧ config.height ≠ 0
  rate : config.fps ≠ 0 ∧ config.fpsDenominator ≠ 0
  representable : config.format.isCompressed = false → config.frameSize ≠ none
  format : request.preferredFormats = [] ∨ config.format ∈ request.preferredFormats
  minimum : ∀ minimum, request.minimumFps = some minimum →
    minimum.numerator.toNat * config.fpsDenominator.toNat ≤
      config.fps.toNat * minimum.denominator.toNat
  resolution : request.exactResolution = true →
    config.width = request.width ∧ config.height = request.height
  aspect : ∀ width height, request.requiredAspectRatio = some (width, height) →
    config.width.toNat * height.toNat = config.height.toNat * width.toNat

end CaptureRequest

theorem CameraConfig.validate_ok_iff {config : CameraConfig} :
    config.validate = .ok () ↔
      (config.width ≠ 0 ∧ config.height ≠ 0) ∧
        (config.fps ≠ 0 ∧ config.fpsDenominator ≠ 0) ∧
        (config.format.isCompressed = false → config.frameSize ≠ none) := by
  unfold validate
  split
  · next zero =>
    simp only [reduceCtorEq, false_iff]
    rintro ⟨⟨width, height⟩, -⟩
    exact zero.elim width height
  · next dimensions =>
    split
    · next zero =>
      simp only [reduceCtorEq, false_iff]
      rintro ⟨-, ⟨fps, denominator⟩, -⟩
      exact zero.elim fps denominator
    · next rate =>
      split
      · next unsized =>
        simp only [reduceCtorEq, false_iff]
        rintro ⟨-, -, sized⟩
        exact sized unsized.1 unsized.2
      · next sized =>
        simp only [true_iff]
        exact ⟨not_or.mp dimensions, not_or.mp rate, fun raw none => sized ⟨raw, none⟩⟩

namespace CaptureRequest

variable {request : CaptureRequest} {config : CameraConfig}

private theorem format_iff :
    (request.preferredFormats.isEmpty || request.preferredFormats.contains config.format) = true ↔
      request.preferredFormats = [] ∨ config.format ∈ request.preferredFormats := by
  rw [Bool.or_eq_true, List.isEmpty_iff, List.contains_iff_mem]

theorem minimum_iff (n : config.fps ≠ 0) (d : config.fpsDenominator ≠ 0) :
    (request.minimumFps.all fun minimum =>
        config.frameRate.toOption.any fun rate => rate.atLeast minimum) = true ↔
      ∀ minimum, request.minimumFps = some minimum →
        minimum.numerator.toNat * config.fpsDenominator.toNat ≤
          config.fps.toNat * minimum.denominator.toNat := by
  obtain ⟨rate, made⟩ := FrameRate.new_ok n d
  have known : config.frameRate = .ok rate := made
  rw [Option.all_eq_true]
  simp only [known, Except.toOption, Option.any_some, FrameRate.atLeast_iff made]

private theorem resolution_iff :
    (!request.exactResolution ||
        decide (config.width = request.width ∧ config.height = request.height)) = true ↔
      (request.exactResolution = true →
        config.width = request.width ∧ config.height = request.height) := by
  cases request.exactResolution with
  | false => simp
  | true => simp

theorem aspect_iff {check : UInt32 × UInt32 → Bool} :
    request.requiredAspectRatio.all check = true ↔
      ∀ width height, request.requiredAspectRatio = some (width, height) →
        check (width, height) = true := by
  rw [Option.all_eq_true, Prod.forall]

theorem accepts_iff : request.accepts config = true ↔ request.Acceptable config := by
  have valid : config.validate.isOk = true ↔ config.validate = .ok () := by
    cases config.validate with
    | error e => simp [Except.isOk, Except.toBool]
    | ok value => simp [Except.isOk, Except.toBool]
  rw [accepts, Bool.and_eq_true, Bool.and_eq_true, Bool.and_eq_true, Bool.and_eq_true, valid,
    CameraConfig.validate_ok_iff, format_iff, resolution_iff, aspect_iff]
  simp only [decide_eq_true_iff]
  constructor
  · rintro ⟨⟨⟨⟨⟨dimensions, rate, representable⟩, format⟩, minimum⟩, resolution⟩, aspect⟩
    exact
      { dimensions := dimensions
        rate := rate
        representable := representable
        format := format
        minimum := (minimum_iff rate.1 rate.2).mp minimum
        resolution := resolution
        aspect := aspect }
  · intro accepted
    exact ⟨⟨⟨⟨⟨accepted.dimensions, accepted.rate, accepted.representable⟩, accepted.format⟩,
      (minimum_iff accepted.rate.1 accepted.rate.2).mpr accepted.minimum⟩,
      accepted.resolution⟩, accepted.aspect⟩

/-! ### The order -/

variable {rateDelta : FrameRate → FrameRate → Nat}

/-- `u64::MAX` stands for a rate that is no rate; no configuration kept has one. -/
def rateDistance (rateDelta : FrameRate → FrameRate → Nat) (request : CaptureRequest)
    (config : CameraConfig) : Nat :=
  match config.frameRate with
  | .ok rate => rateDelta rate request.preferredFps
  | .error _ => 2 ^ 64 - 1

/-- By preference, then cost, then size, then rate. -/
def NoLater (rateDelta : FrameRate → FrameRate → Nat) (request : CaptureRequest)
    (a b : CameraConfig) : Prop :=
  request.preference a.format < request.preference b.format ∨
    request.preference a.format = request.preference b.format ∧
      (request.cost a.format < request.cost b.format ∨
        request.cost a.format = request.cost b.format ∧
          (request.resolutionDelta a < request.resolutionDelta b ∨
            request.resolutionDelta a = request.resolutionDelta b ∧
              request.rateDistance rateDelta a ≤ request.rateDistance rateDelta b))

private theorem rankKey_le_iff {a b : CameraConfig} :
    request.rankKey rateDelta a ≤ request.rankKey rateDelta b ↔ request.NoLater rateDelta a b := by
  have unfolded (config : CameraConfig) : request.rankKey rateDelta config =
      [request.preference config.format, request.cost config.format,
        request.resolutionDelta config, request.rateDistance rateDelta config] := rfl
  rw [unfolded, unfolded, ← not_lt, List.cons_lt_cons_iff, List.cons_lt_cons_iff,
    List.cons_lt_cons_iff, List.cons_lt_cons_iff, NoLater]
  simp only [List.not_lt_nil, and_false, or_false]
  omega

end CaptureRequest

theorem mem_dedup {α : Type} [DecidableEq α] {items : List α} {item : α} :
    item ∈ dedup items ↔ item ∈ items :=
  mem_destutter_ne

theorem mem_sortByKey {α : Type} {key : α → List Nat} {items : List α} {item : α} :
    item ∈ sortByKey key items ↔ item ∈ items :=
  List.mem_insertionSort _

theorem pairwise_sortByKey {α : Type} (key : α → List Nat) (items : List α) :
    (sortByKey key items).Pairwise fun a b => key a ≤ key b := by
  have : Std.Total fun a b : α => key a ≤ key b := ⟨fun a b => le_total (key a) (key b)⟩
  have : IsTrans α fun a b => key a ≤ key b := ⟨fun _ _ _ => le_trans⟩
  exact List.pairwise_insertionSort _ items

theorem filter_sortByKey {α : Type} (key : α → List Nat) (value : List Nat) (items : List α) :
    ((sortByKey key items).filter fun item => decide (key item = value)) =
      items.filter fun item => decide (key item = value) := by
  refine filter_insertionSort (fun a b left right => ?_) items
  rw [of_decide_eq_true left, of_decide_eq_true right]

namespace CaptureRequest

variable {rateDelta : FrameRate → FrameRate → Nat} {request : CaptureRequest}

/-- What `retain`, the sort and `dedup` leave. -/
def ranked (rateDelta : FrameRate → FrameRate → Nat) (request : CaptureRequest)
    (configurations : List CameraConfig) : List CameraConfig :=
  dedup (sortByKey (request.rankKey rateDelta) (configurations.filter request.accepts))

theorem mem_ranked {configurations : List CameraConfig} {config : CameraConfig} :
    config ∈ request.ranked rateDelta configurations ↔
      config ∈ configurations ∧ request.accepts config = true := by
  rw [ranked, mem_dedup, mem_sortByKey, List.mem_filter]

theorem rank_ok_iff {configurations result : List CameraConfig} :
    request.rankCaptureConfigurations rateDelta configurations = .ok result ↔
      result = request.ranked rateDelta configurations ∧ result ≠ [] := by
  change (if (request.ranked rateDelta configurations).isEmpty then _ else _) = _ ↔ _
  split
  · next none =>
    rw [List.isEmpty_iff] at none
    simp only [reduceCtorEq, false_iff, none]
    exact fun both => both.2 both.1
  · next some =>
    rw [List.isEmpty_iff] at some
    constructor
    · intro same
      obtain rfl := Except.ok.inj same
      exact ⟨rfl, some⟩
    · rintro ⟨rfl, -⟩
      rfl

private theorem rank_error_iff {configurations : List CameraConfig} :
    (∃ e, request.rankCaptureConfigurations rateDelta configurations = .error e) ↔
      request.ranked rateDelta configurations = [] := by
  cases rank : request.rankCaptureConfigurations rateDelta configurations with
  | error e =>
      simp only [Except.error.injEq, exists_eq', true_iff]
      by_contra some
      rw [rank_ok_iff.mpr ⟨rfl, some⟩] at rank
      cases rank
  | ok result =>
      simp only [reduceCtorEq, exists_false, false_iff]
      obtain ⟨rfl, some⟩ := rank_ok_iff.mp rank
      exact some

theorem rank_singleton {config : CameraConfig} (accepted : request.Acceptable config) :
    request.rankCaptureConfigurations rateDelta [config] = .ok [config] := by
  have kept : [config].filter request.accepts = [config] := by
    rw [List.filter_singleton, accepts_iff.mpr accepted, Bool.cond_true]
  refine rank_ok_iff.mpr ⟨?_, List.cons_ne_nil _ _⟩
  rw [ranked, kept]
  rfl

/-- The result of ranking a list. Configurations with one key come in the order in which
they were listed. -/
structure Ranks (rateDelta : FrameRate → FrameRate → Nat) (request : CaptureRequest)
    (configurations result : List CameraConfig) : Prop where
  kept : ∀ config, config ∈ result ↔ config ∈ configurations ∧ request.Acceptable config
  ordered : result.Pairwise (request.NoLater rateDelta)
  stable : ∀ key, (result.filter fun config =>
    decide (request.rankKey rateDelta config = key)).Sublist configurations

private theorem ranks_ranked (configurations : List CameraConfig) :
    Ranks rateDelta request configurations (request.ranked rateDelta configurations) where
  kept config := by rw [mem_ranked, accepts_iff]
  ordered :=
    ((pairwise_sortByKey (request.rankKey rateDelta) _).sublist
      (List.destutter_sublist _ _)).imp fun noLater => rankKey_le_iff.mp noLater
  stable key := by
    have sorted := (List.destutter_sublist (· ≠ ·) (sortByKey (request.rankKey rateDelta)
      (configurations.filter request.accepts))).filter
        fun config => decide (request.rankKey rateDelta config = key)
    rw [filter_sortByKey] at sorted
    exact sorted.trans (List.filter_sublist.trans List.filter_sublist)

theorem rank_none_iff {configurations : List CameraConfig} :
    (∃ e, request.rankCaptureConfigurations rateDelta configurations = .error e) ↔
      ∀ config ∈ configurations, ¬ request.Acceptable config := by
  rw [rank_error_iff, List.eq_nil_iff_forall_not_mem]
  simp only [mem_ranked, accepts_iff, not_and]

theorem ranking_exact (rateDelta : FrameRate → FrameRate → Nat) (request : CaptureRequest)
    (configurations : List CameraConfig) :
    (∀ result, request.rankCaptureConfigurations rateDelta configurations = .ok result →
      Ranks rateDelta request configurations result ∧ result ≠ []) ∧
    ((∃ e, request.rankCaptureConfigurations rateDelta configurations = .error e) ↔
      ∀ config ∈ configurations, ¬ request.Acceptable config) := by
  refine ⟨fun result ranked => ?_, rank_none_iff⟩
  obtain ⟨rfl, some⟩ := rank_ok_iff.mp ranked
  exact ⟨ranks_ranked configurations, some⟩

/-! ### Repeats -/

/-- No accepted configuration is listed again after another one with the same key. -/
def Unsplit (rateDelta : FrameRate → FrameRate → Nat) (request : CaptureRequest)
    (configurations : List CameraConfig) : Prop :=
  ∀ a b, [a, b, a].Sublist (configurations.filter request.accepts) →
    request.rankKey rateDelta a = request.rankKey rateDelta b → a = b

/-- Every accepted configuration once; none is tried twice, the first is not among the rest. -/
structure Once (request : CaptureRequest) (configurations result : List CameraConfig) :
    Prop where
  each : ∀ config ∈ configurations, request.accepts config = true → result.count config = 1
  tried : ∀ results, (attempted result results).Nodup
  alternatives : ∀ selected rest, result = selected :: rest → selected ∉ rest

end CaptureRequest

theorem triple_sortByKey {α : Type} {key : α → List Nat} {items : List α} {a b : α}
    (same : key a = key b) :
    [a, b, a].Sublist (sortByKey key items) ↔ [a, b, a].Sublist items := by
  have through (list : List α) : [a, b, a].Sublist list ↔
      [a, b, a].Sublist (list.filter fun item => decide (key item = key a)) := by
    constructor
    · intro inside
      simpa [same] using inside.filter fun item => decide (key item = key a)
    · exact fun inside => inside.trans List.filter_sublist
  rw [through, filter_sortByKey, ← through]

theorem key_eq_of_triple {α : Type} {key : α → List Nat} {items : List α} {a b : α}
    (inside : [a, b, a].Sublist (sortByKey key items)) : key a = key b := by
  have sorted := (pairwise_sortByKey key items).sublist inside
  simp only [List.pairwise_cons, List.mem_cons, List.not_mem_nil, or_false] at sorted
  exact le_antisymm (sorted.1 b (.inl rfl)) (sorted.2.1 a rfl)

theorem VideoFormat.toByte_inj {a b : VideoFormat} (same : a.toByte = b.toByte) : a = b := by
  cases a <;> cases b <;> first | rfl | contradiction

theorem VideoFormat.eq_of_byte (a b : VideoFormat) (same : [a.toByte] = [b.toByte]) : a = b :=
  toByte_inj (List.singleton_inj.mp same)

theorem nodup_dedup_sortByKey {α : Type} [DecidableEq α] {key : α → List Nat}
    (apart : ∀ a b, key a = key b → a = b) (items : List α) :
    (dedup (sortByKey key items)).Nodup := by
  refine nodup_destutter_ne_iff.mpr ?_
  intro a b inside
  exact apart a b (key_eq_of_triple inside)

theorem length_dedup_iff {α : Type} [DecidableEq α] {key : α → List Nat}
    (apart : ∀ a b, key a = key b → a = b) (items : List α) :
    (dedup (sortByKey key items)).length = items.length ↔ items.Nodup := by
  have same : (sortByKey key items).Perm items := List.perm_insertionSort _ items
  rw [← same.length_eq, ← same.nodup_iff]
  constructor
  · intro full
    rw [← (List.destutter_sublist (· ≠ ·) (sortByKey key items)).eq_of_length full]
    exact nodup_dedup_sortByKey apart items
  · intro distinct
    rw [dedup, List.destutter_of_isChain _ _ distinct.isChain]

private theorem attempted_sublist (candidates : List CameraConfig) (results : List Bool) :
    (attempted candidates results).Sublist candidates := by
  induction candidates generalizing results with
  | nil => cases results <;> exact List.Sublist.refl _
  | cons first rest ih =>
      cases results with
      | nil => exact List.nil_sublist _
      | cons succeeded later =>
          cases succeeded with
          | true => exact List.singleton_sublist.mpr List.mem_cons_self
          | false => exact (ih later).cons_cons first

namespace CaptureRequest

variable {rateDelta : FrameRate → FrameRate → Nat} {request : CaptureRequest}

private theorem nodup_ranked_iff {configurations : List CameraConfig} :
    (request.ranked rateDelta configurations).Nodup ↔
      request.Unsplit rateDelta configurations := by
  refine nodup_destutter_ne_iff.trans ?_
  constructor
  · intro clean a b inside same
    exact clean a b ((triple_sortByKey same).mpr inside)
  · intro unsplit a b inside
    have same := key_eq_of_triple inside
    exact unsplit a b ((triple_sortByKey same).mp inside) same

private theorem once_iff_nodup {configurations : List CameraConfig} :
    Once request configurations (request.ranked rateDelta configurations) ↔
      (request.ranked rateDelta configurations).Nodup := by
  constructor
  · intro once
    refine List.nodup_iff_count_eq_one.mpr fun config there => ?_
    obtain ⟨listed, accepted⟩ := mem_ranked.mp there
    exact once.each config listed accepted
  · intro distinct
    exact
      { each := fun config listed accepted =>
          List.count_eq_one_of_mem distinct (mem_ranked.mpr ⟨listed, accepted⟩)
        tried := fun results => distinct.sublist (attempted_sublist _ results)
        alternatives := fun selected rest same =>
          (List.nodup_cons.mp (same ▸ distinct)).1 }

theorem ranked_once_iff {configurations result : List CameraConfig}
    (ranked : request.rankCaptureConfigurations rateDelta configurations = .ok result) :
    Once request configurations result ↔ request.Unsplit rateDelta configurations := by
  obtain ⟨rfl, -⟩ := rank_ok_iff.mp ranked
  exact once_iff_nodup.trans nodup_ranked_iff

/-! A device that lists NV12 before YUYV, and is asked for both as they come in the order of
the formats. -/

def nv12At30 : CameraConfig := { format := .nv12, width := 640, height := 480, fps := 30 }

def yuyvAt30 : CameraConfig := { format := .yuyv, width := 640, height := 480, fps := 30 }

theorem ranked_once_iff_advertised : Once {} [nv12At30, yuyvAt30] [nv12At30, yuyvAt30] := by
  refine (@ranked_once_iff (fun _ _ => 0) {} _ _
    (rank_ok_iff.mpr ⟨by decide +kernel, by simp⟩)).mpr fun a b inside _ => ?_
  have long := (inside.trans List.filter_sublist).length_le
  simp at long

theorem not_always_ranked_once :
    ¬ ∀ (rateDelta : FrameRate → FrameRate → Nat) (request : CaptureRequest)
      (configurations result : List CameraConfig),
      request.rankCaptureConfigurations rateDelta configurations = .ok result →
        Once request configurations result := by
  intro always
  have once := always (fun _ _ => 0) {} ([nv12At30, yuyvAt30] ++ [yuyvAt30, nv12At30])
    [nv12At30, yuyvAt30, nv12At30] (rank_ok_iff.mpr ⟨by decide +kernel, by simp⟩)
  have twice := once.each nv12At30 (by simp) (by decide)
  exact absurd twice (by decide)

end CaptureRequest

end CameraRs
