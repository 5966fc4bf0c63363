import LivepeerTranscode.Shared.Binary64
import LivepeerTranscode.Shared.Checked

/-!
# Funding and usage of an ABR job

`engine/service/vodUsage.ts`: the units an encoding is estimated to take and may at most
take, and the reconciliation of the units a broker signed. Frame counts come from products
in double precision; pixels are counted in `BigInt`.
-/

namespace LivepeerTranscode.Gateway
open Checked Binary64
set_option autoImplicit false

def abrWorkUnit : String := "video-frame-megapixel"
def abrEstimatorId : String := "abr-output-frame-megapixels/v1"
def abrEstimatorRounding : String := "ceil-total"
def abrEstimatorExactness : String := "ceiling"
def fundingFrameSlackSeconds : ℚ := 2
def maxSafeInteger : ℤ := 2 ^ 53 - 1

inductive Resolution where
  | p240 | p360 | p480 | p720 | p1080 | p2160
  deriving DecidableEq, Repr

def Resolution.text : Resolution → String
  | .p240 => "240p"
  | .p360 => "360p"
  | .p480 => "480p"
  | .p720 => "720p"
  | .p1080 => "1080p"
  | .p2160 => "2160p"

/-- `DIMENSIONS`: width and height. -/
def Resolution.dimensions : Resolution → ℤ × ℤ
  | .p240 => (426, 240)
  | .p360 => (640, 360)
  | .p480 => (854, 480)
  | .p720 => (1280, 720)
  | .p1080 => (1920, 1080)
  | .p2160 => (3840, 2160)

structure WorkUnitEstimator where
  id : String
  rounding : String
  exactness : String
  package : Option String
  fixtures : Option String

structure AbrFundingTarget where
  resolution : Resolution
  frameRate : Option Number

structure AbrFundingEstimate where
  estimatedUnits : ℤ
  maxTotalUnits : ℤ
  estimatedFramesByTarget : List ℤ
  maximumFramesByTarget : List ℤ

structure AbrDeliveredVideo where
  actualFrames : ℚ
  width : ℚ
  height : ℚ

structure AbrDeliveredRendition where
  name : String
  video : Option AbrDeliveredVideo

structure AbrUsageReconciliation where
  observedUnits : ℤ
  signedUnits : ℤ
  maximumUnits : ℤ
  deltaUnits : ℤ

inductive AbrUsageError where
  | estimatorUnsupported
  | fundingInputInvalid
  | usageInputInvalid
  | usageExceedsFunding
  | usageClaimMismatch
  deriving DecidableEq, Repr

def AbrUsageError.code : AbrUsageError → String
  | .estimatorUnsupported => "abr_estimator_unsupported"
  | .fundingInputInvalid => "abr_funding_input_invalid"
  | .usageInputInvalid => "abr_usage_input_invalid"
  | .usageExceedsFunding => "abr_usage_exceeds_funding"
  | .usageClaimMismatch => "abr_usage_claim_mismatch"

/-! ## Pixels and units -/

/-- A number of at least one that `Number.isSafeInteger` accepts. -/
def positiveInteger (x : ℚ) : Except AbrUsageError ℤ :=
  match safeInteger x with
  | some n => if n < 1 then .error .usageInputInvalid else .ok n
  | none => .error .usageInputInvalid

def pixelsOf (rendition : AbrDeliveredRendition) : Except AbrUsageError ℤ :=
  match rendition.video with
  | none => .ok 0
  | some video => do
    let actualFrames ← positiveInteger video.actualFrames
    let width ← positiveInteger video.width
    let height ← positiveInteger video.height
    return actualFrames * width * height

def addPixels : ℤ → List AbrDeliveredRendition → Except AbrUsageError ℤ
  | pixels, [] => .ok pixels
  | pixels, rendition :: rest => do
    let more ← pixelsOf rendition
    addPixels (pixels + more) rest

def calculateAbrFrameMegapixelUnits (renditions : List AbrDeliveredRendition) :
    Except AbrUsageError ℤ := do
  let pixels ← addPixels 0 renditions
  let units := (pixels + 999999) / 1000000
  failWhen (maxSafeInteger < units) .usageInputInvalid
  return units

/-! ## Funding -/

def requireEstimator (estimator : Option WorkUnitEstimator) : Except AbrUsageError Unit :=
  failWhen (¬ estimator.any fun e => e.id == abrEstimatorId && e.rounding == abrEstimatorRounding &&
    e.exactness == abrEstimatorExactness) .estimatorUnsupported

def finitePositive (x : Number) : Except AbrUsageError ℚ :=
  match x.value with
  | some q => if 0 < q then .ok q else .error .fundingInputInvalid
  | none => .error .fundingInputInvalid

/-- `Math.ceil` of a product; none when the product is infinite. -/
def ceilProduct (x y : ℚ) : Option ℤ := (mul x y).map Int.ceil

/-- The frames of one target: estimated, and with the slack that is funded. The sum of the
two is exact whenever it is safe. -/
def targetFrames (durationSeconds frameRate : ℚ) : Except AbrUsageError (ℤ × ℤ) :=
  match ceilProduct durationSeconds frameRate, ceilProduct frameRate fundingFrameSlackSeconds with
  | some estimatedFrames, some slack =>
    if |estimatedFrames| ≤ maxSafeInteger ∧ |estimatedFrames + slack| ≤ maxSafeInteger then
      .ok (estimatedFrames, estimatedFrames + slack)
    else .error .fundingInputInvalid
  | _, _ => .error .fundingInputInvalid

def delivered (name : String) (frames : ℤ) (resolution : Resolution) : AbrDeliveredRendition :=
  ⟨name, some ⟨frames, resolution.dimensions.1, resolution.dimensions.2⟩⟩

def fundTargets (durationSeconds : ℚ) (sourceFrameRate : Number) :
    List AbrFundingTarget → Except AbrUsageError (List (Resolution × ℤ × ℤ))
  | [] => .ok []
  | target :: rest => do
    let frameRate ← finitePositive (target.frameRate.getD sourceFrameRate)
    let frames ← targetFrames durationSeconds frameRate
    let others ← fundTargets durationSeconds sourceFrameRate rest
    return (target.resolution, frames) :: others

def estimateRenditions (frames : List (Resolution × ℤ × ℤ)) : List AbrDeliveredRendition :=
  frames.mapIdx fun index target => delivered ("estimate-" ++ toString index) target.2.1 target.1

def maximumRenditions (frames : List (Resolution × ℤ × ℤ)) : List AbrDeliveredRendition :=
  frames.mapIdx fun index target => delivered ("maximum-" ++ toString index) target.2.2 target.1

def estimateAbrFunding (durationSeconds sourceFrameRate : Number) (targets : List AbrFundingTarget)
    (estimator : Option WorkUnitEstimator) : Except AbrUsageError AbrFundingEstimate := do
  requireEstimator estimator
  let duration ← finitePositive durationSeconds
  let _ ← finitePositive sourceFrameRate
  failWhen (targets = []) .fundingInputInvalid
  let frames ← fundTargets duration sourceFrameRate targets
  let estimatedUnits ← calculateAbrFrameMegapixelUnits (estimateRenditions frames)
  let maxTotalUnits ← calculateAbrFrameMegapixelUnits (maximumRenditions frames)
  return ⟨estimatedUnits, maxTotalUnits, frames.map fun f => f.2.1, frames.map fun f => f.2.2⟩

/-! ## Reconciliation -/

def reconcileAbrUsage (renditions : List AbrDeliveredRendition) (signedUnit : String)
    (signedUnits maximumUnits : ℚ) : Except AbrUsageError AbrUsageReconciliation :=
  match safeInteger signedUnits, safeInteger maximumUnits with
  | some signed, some maximum => do
    failWhen (signedUnit ≠ abrWorkUnit ∨ signed < 0 ∨ maximum < 1) .usageInputInvalid
    let observed ← calculateAbrFrameMegapixelUnits renditions
    failWhen (maximum < signed) .usageExceedsFunding
    failWhen (signed - observed ≠ 0) .usageClaimMismatch
    return ⟨observed, signed, maximum, signed - observed⟩
  | _, _ => .error .usageInputInvalid

/-! ## What funding grants -/

theorem safeInteger_intCast {n m : ℤ} (h : safeInteger n = some m) : m = n := by
  unfold safeInteger at h
  split at h
  · simpa using (Option.some.inj h).symm
  · cases h

theorem positiveInteger_intCast {n m : ℤ} (h : positiveInteger n = .ok m) : m = n := by
  unfold positiveInteger at h
  split at h
  · rename_i k hk
    split at h
    · cases h
    · cases h
      exact safeInteger_intCast hk
  · cases h

def Resolution.pixels (resolution : Resolution) : ℤ := resolution.dimensions.1 * resolution.dimensions.2

theorem Resolution.pixels_pos (resolution : Resolution) : 0 < resolution.pixels := by
  cases resolution <;> decide

theorem pixelsOf_delivered {name : String} {frames pixels : ℤ} {resolution : Resolution}
    (h : pixelsOf (delivered name frames resolution) = .ok pixels) :
    pixels = frames * resolution.pixels := by
  simp only [pixelsOf, delivered, ok_bind_iff, pure, Except.pure, Except.ok.injEq] at h
  obtain ⟨f, hf, w, hw, t, ht, rfl⟩ := h
  rw [positiveInteger_intCast hf, positiveInteger_intCast hw, positiveInteger_intCast ht,
    Resolution.pixels, mul_assoc]

variable {frames : List (Resolution × ℤ × ℤ)}

theorem addPixels_delivered {count : Resolution × ℤ × ℤ → ℤ} {f : Nat → String} {start pixels : ℤ}
    (h : addPixels start (frames.mapIdx fun index target =>
      delivered (f index) (count target) target.1) = .ok pixels) :
    pixels = start + (frames.map fun target => count target * target.1.pixels).sum := by
  induction frames generalizing start f with
  | nil =>
    cases h
    simp
  | cons target rest ih =>
    rw [List.mapIdx_cons] at h
    obtain ⟨more, hmore, hrest⟩ := ok_bind_iff.mp h
    rw [ih (f := fun index => f (index + 1)) hrest, pixelsOf_delivered hmore]
    simp only [List.map_cons, List.sum_cons]
    ring

theorem units_delivered {count : Resolution × ℤ × ℤ → ℤ} {f : Nat → String} {units : ℤ}
    (h : calculateAbrFrameMegapixelUnits (frames.mapIdx fun index target =>
      delivered (f index) (count target) target.1) = .ok units) :
    units = ((frames.map fun target => count target * target.1.pixels).sum + 999999) / 1000000 ∧
      units ≤ maxSafeInteger := by
  simp only [calculateAbrFrameMegapixelUnits, ok_bind_iff, failWhen_ok_iff, not_lt, pure, Except.pure,
    Except.ok.injEq] at h
  obtain ⟨pixels, hpixels, _, hsafe, rfl⟩ := h
  rw [addPixels_delivered hpixels, zero_add] at hsafe ⊢
  exact ⟨rfl, hsafe⟩

theorem finitePositive_ok {x : Number} {q : ℚ} (h : finitePositive x = .ok q) :
    Representable q ∧ 0 < q := by
  unfold finitePositive at h
  split at h
  · rename_i value hvalue
    split at h
    · rename_i hpos
      cases h
      exact ⟨x.representable q hvalue, hpos⟩
    · cases h
  · cases h

theorem targetFrames_slack {durationSeconds frameRate : ℚ} {frames : ℤ × ℤ}
    (hrate : Representable frameRate) (hpos : 0 < frameRate)
    (h : targetFrames durationSeconds frameRate = .ok frames) : frames.1 + 1 ≤ frames.2 := by
  unfold targetFrames at h
  split at h
  · rename_i estimatedFrames slack hestimated hslack
    split at h
    · cases h
      obtain ⟨product, hproduct, rfl⟩ := Option.map_eq_some_iff.mp hslack
      have hone : 0 < ⌈product⌉ := Int.ceil_pos.mpr (mul_two_pos hrate hpos hproduct)
      simp only
      omega
    · cases h
  · cases h

theorem fundTargets_ok {durationSeconds : ℚ} {sourceFrameRate : Number}
    {targets : List AbrFundingTarget}
    (h : fundTargets durationSeconds sourceFrameRate targets = .ok frames) :
    frames.map Prod.fst = targets.map AbrFundingTarget.resolution ∧
      ∀ target ∈ frames, target.2.1 + 1 ≤ target.2.2 := by
  induction targets generalizing frames with
  | nil =>
    cases h
    simp
  | cons target rest ih =>
    simp only [fundTargets, ok_bind_iff, pure, Except.pure, Except.ok.injEq] at h
    obtain ⟨rate, hrate, both, hboth, others, hothers, rfl⟩ := h
    obtain ⟨hnames, hslack⟩ := ih hothers
    obtain ⟨hrepresentable, hpos⟩ := finitePositive_ok hrate
    constructor
    · simp [hnames]
    · intro entry hentry
      rcases List.mem_cons.mp hentry with rfl | hrest
      · exact targetFrames_slack hrepresentable hpos hboth
      · exact hslack entry hrest

theorem pixels_slack (h : ∀ target ∈ frames, target.2.1 + 1 ≤ target.2.2) :
    (frames.map fun target => target.2.1 * target.1.pixels).sum +
        ((frames.map Prod.fst).map Resolution.pixels).sum ≤
      (frames.map fun target => target.2.2 * target.1.pixels).sum := by
  induction frames with
  | nil => simp
  | cons target rest ih =>
    have hrest := ih fun entry hentry => h entry (List.mem_cons_of_mem _ hentry)
    have hframes : (target.2.1 + 1) * target.1.pixels ≤ target.2.2 * target.1.pixels :=
      mul_le_mul_of_nonneg_right (h target List.mem_cons_self) target.1.pixels_pos.le
    simp only [List.map_cons, List.sum_cons]
    rw [add_mul, one_mul] at hframes
    omega

theorem estimatedUnits_lt {durationSeconds sourceFrameRate : Number} {targets : List AbrFundingTarget}
    {estimator : Option WorkUnitEstimator} {funding : AbrFundingEstimate}
    (h : estimateAbrFunding durationSeconds sourceFrameRate targets estimator = .ok funding)
    (hpixels : 1000000 ≤ ((targets.map AbrFundingTarget.resolution).map Resolution.pixels).sum) :
    funding.estimatedUnits < funding.maxTotalUnits ∧ funding.maxTotalUnits ≤ maxSafeInteger := by
  simp only [estimateAbrFunding, ok_bind_iff, pure, Except.pure, Except.ok.injEq] at h
  obtain ⟨_, _, duration, _, _, _, _, _, frames, hframes, estimated, hestimated, maximum, hmaximum,
    rfl⟩ := h
  obtain ⟨hnames, hslack⟩ := fundTargets_ok hframes
  have hmore := pixels_slack hslack
  obtain ⟨hunits, -⟩ := units_delivered hestimated
  obtain ⟨hmax, hsafe⟩ := units_delivered hmaximum
  rw [hnames] at hmore
  refine ⟨?_, hsafe⟩
  simp only
  omega

end LivepeerTranscode.Gateway
