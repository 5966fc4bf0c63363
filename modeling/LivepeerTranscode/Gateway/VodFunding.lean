import LivepeerTranscode.Gateway.VodUsage

/-!
# Funding covers what may be delivered

The bound of a funding estimate is a ceiling over the maximal frames of all targets. Whatever
part of the plan is delivered, in whatever order, its own ceiling stays below that bound, so the
reconciliation of the delivered units against it succeeds.
-/

namespace LivepeerTranscode.Gateway
open Checked Binary64
set_option autoImplicit false

/-- Some of the frames of a target, at least one and at most its maximum. -/
def DeliversTarget (plan : AbrFundingTarget × ℤ) (rendition : AbrDeliveredRendition) : Prop :=
  ∃ name frames, 1 ≤ frames ∧ frames ≤ plan.2 ∧ rendition = delivered name frames plan.1.resolution

/-- A part of the plan, in any order, each target with frames of its own. -/
def DeliversPlan (plan : List (AbrFundingTarget × ℤ)) (renditions : List AbrDeliveredRendition) : Prop :=
  ∃ chosen, List.Subperm chosen plan ∧ List.Forall₂ DeliversTarget chosen renditions

def plannedPixels (plan : List (AbrFundingTarget × ℤ)) : ℤ :=
  (plan.map fun target => target.2 * target.1.resolution.pixels).sum

/-! ## Frames and pixels -/

theorem safeInteger_of_le {n : ℤ} (h : |n| ≤ maxSafeInteger) : safeInteger (n : ℚ) = some n := by
  unfold safeInteger
  unfold maxSafeInteger at h
  rw [if_pos]
  · simp
  · constructor
    · simp
    · simpa using h

theorem positiveInteger_of_le {n : ℤ} (hpos : 1 ≤ n) (hsafe : n ≤ maxSafeInteger) :
    positiveInteger (n : ℚ) = .ok n := by
  have habs : |n| ≤ maxSafeInteger := by
    rw [abs_of_pos (by omega)]
    exact hsafe
  unfold positiveInteger
  rw [safeInteger_of_le habs]
  simp only
  rw [if_neg (by omega)]

theorem Resolution.dimensions_safe (resolution : Resolution) :
    (1 ≤ resolution.dimensions.1 ∧ resolution.dimensions.1 ≤ maxSafeInteger) ∧
      (1 ≤ resolution.dimensions.2 ∧ resolution.dimensions.2 ≤ maxSafeInteger) := by
  cases resolution <;> decide

theorem pixelsOf_of_frames {name : String} {frames : ℤ} {resolution : Resolution} (hpos : 1 ≤ frames)
    (hsafe : frames ≤ maxSafeInteger) :
    pixelsOf (delivered name frames resolution) = .ok (frames * resolution.pixels) := by
  obtain ⟨hwidth, hheight⟩ := resolution.dimensions_safe
  simp only [pixelsOf, delivered, positiveInteger_of_le hpos hsafe,
    positiveInteger_of_le hwidth.1 hwidth.2, positiveInteger_of_le hheight.1 hheight.2]
  simp [Resolution.pixels, mul_assoc, bind, Except.bind, pure, Except.pure]

variable {renditions : List AbrDeliveredRendition} {targets : List AbrFundingTarget}
  {frames : List (Resolution × ℤ × ℤ)}

theorem addPixels_delivers {chosen : List (AbrFundingTarget × ℤ)}
    (h : List.Forall₂ DeliversTarget chosen renditions)
    (hsafe : ∀ target ∈ chosen, target.2 ≤ maxSafeInteger) (start : ℤ) :
    ∃ pixels, addPixels start renditions = .ok pixels ∧ start ≤ pixels ∧
      pixels ≤ start + plannedPixels chosen := by
  induction h generalizing start with
  | nil => exact ⟨start, rfl, le_refl _, by simp [plannedPixels]⟩
  | @cons target rendition chosen renditions hfirst _ ih =>
    obtain ⟨name, frames, hpos, hmax, rfl⟩ := hfirst
    have hpixels := target.1.resolution.pixels_pos
    have hframes : pixelsOf (delivered name frames target.1.resolution) =
        .ok (frames * target.1.resolution.pixels) :=
      pixelsOf_of_frames hpos (hmax.trans (hsafe target List.mem_cons_self))
    obtain ⟨pixels, hadd, hlow, hhigh⟩ := ih (fun other hother => hsafe other (List.mem_cons_of_mem _ hother))
      (start + frames * target.1.resolution.pixels)
    refine ⟨pixels, ?_, ?_, ?_⟩
    · simp only [addPixels, hframes]
      exact hadd
    · have hnonneg : 0 ≤ frames * target.1.resolution.pixels := by positivity
      omega
    · have hbound : frames * target.1.resolution.pixels ≤ target.2 * target.1.resolution.pixels :=
        mul_le_mul_of_nonneg_right hmax hpixels.le
      simp only [plannedPixels, List.map_cons, List.sum_cons] at hhigh ⊢
      omega

theorem plannedPixels_le {chosen plan : List (AbrFundingTarget × ℤ)} (h : List.Subperm chosen plan)
    (hpos : ∀ target ∈ plan, 0 ≤ target.2) : plannedPixels chosen ≤ plannedPixels plan := by
  obtain ⟨sub, hperm, hsub⟩ := h
  unfold plannedPixels
  rw [← (hperm.map _).sum_eq]
  refine (hsub.map _).sum_le_sum ?_
  intro pixels hpixels
  obtain ⟨target, htarget, rfl⟩ := List.mem_map.mp hpixels
  exact mul_nonneg (hpos target htarget) target.1.resolution.pixels_pos.le

/-! ## What an estimate says of its targets -/

theorem targetFrames_safe {durationSeconds frameRate : ℚ} {frames : ℤ × ℤ}
    (h : targetFrames durationSeconds frameRate = .ok frames) : |frames.2| ≤ maxSafeInteger := by
  unfold targetFrames at h
  split at h
  · split at h
    · rename_i hsafe
      cases h
      exact hsafe.2
    · cases h
  · cases h

theorem fundTargets_safe {durationSeconds : ℚ} {sourceFrameRate : Number}
    (h : fundTargets durationSeconds sourceFrameRate targets = .ok frames) :
    ∀ target ∈ frames, target.2.2 ≤ maxSafeInteger := by
  induction targets generalizing frames with
  | nil =>
    cases h
    simp
  | cons target rest ih =>
    simp only [fundTargets, ok_bind_iff, pure, Except.pure, Except.ok.injEq] at h
    obtain ⟨rate, _, both, hboth, others, hothers, rfl⟩ := h
    intro entry hentry
    rcases List.mem_cons.mp hentry with rfl | hrest
    · exact (le_abs_self _).trans (targetFrames_safe hboth)
    · exact ih hothers entry hrest

theorem plannedPixels_zip (h : frames.map Prod.fst = targets.map AbrFundingTarget.resolution) :
    plannedPixels (targets.zip (frames.map fun f => f.2.2)) =
      (frames.map fun target => target.2.2 * target.1.pixels).sum := by
  induction frames generalizing targets with
  | nil => simp [plannedPixels]
  | cons frame rest ih =>
    cases targets with
    | nil => simp at h
    | cons target targets =>
      simp only [List.map_cons, List.cons.injEq] at h
      have hrest := ih h.2
      simp only [plannedPixels, List.map_cons, List.zip_cons_cons, List.sum_cons] at hrest ⊢
      rw [hrest, h.1]

theorem addPixels_positive {count : Resolution × ℤ × ℤ → ℤ} {f : Nat → String} {start pixels : ℤ}
    (h : addPixels start (frames.mapIdx fun index target =>
      delivered (f index) (count target) target.1) = .ok pixels) :
    ∀ target ∈ frames, 1 ≤ count target := by
  induction frames generalizing start f with
  | nil => simp
  | cons target rest ih =>
    rw [List.mapIdx_cons] at h
    obtain ⟨more, hmore, hrest⟩ := ok_bind_iff.mp h
    intro entry hentry
    rcases List.mem_cons.mp hentry with rfl | hentry
    · simp only [pixelsOf, delivered, ok_bind_iff] at hmore
      obtain ⟨counted, hcounted, _⟩ := hmore
      have hvalue := positiveInteger_intCast hcounted
      unfold positiveInteger at hcounted
      split at hcounted
      · split at hcounted
        · cases hcounted
        · cases hcounted
          omega
      · cases hcounted
    · exact ih (f := fun index => f (index + 1)) hrest entry hentry

theorem units_positive {count : Resolution × ℤ × ℤ → ℤ} {f : Nat → String} {units : ℤ}
    (h : calculateAbrFrameMegapixelUnits (frames.mapIdx fun index target =>
      delivered (f index) (count target) target.1) = .ok units) :
    ∀ target ∈ frames, 1 ≤ count target := by
  obtain ⟨pixels, hpixels, _⟩ := ok_bind_iff.mp h
  exact addPixels_positive hpixels

/-- What an estimate rests on: the frames of its targets, in their order. -/
structure Planned (targets : List AbrFundingTarget) (funding : AbrFundingEstimate)
    (frames : List (Resolution × ℤ × ℤ)) : Prop where
  nonempty : targets ≠ []
  resolutions : frames.map Prod.fst = targets.map AbrFundingTarget.resolution
  slack : ∀ target ∈ frames, target.2.1 + 1 ≤ target.2.2
  positive : ∀ target ∈ frames, 1 ≤ target.2.1
  safe : ∀ target ∈ frames, target.2.2 ≤ maxSafeInteger
  estimated : funding.estimatedUnits =
    ((frames.map fun target => target.2.1 * target.1.pixels).sum + 999999) / 1000000
  maximum : funding.maxTotalUnits =
    ((frames.map fun target => target.2.2 * target.1.pixels).sum + 999999) / 1000000
  bounded : funding.maxTotalUnits ≤ maxSafeInteger
  maxima : funding.maximumFramesByTarget = frames.map fun f => f.2.2

theorem planned_of_estimate {durationSeconds sourceFrameRate : Number}
    {estimator : Option WorkUnitEstimator} {funding : AbrFundingEstimate}
    (h : estimateAbrFunding durationSeconds sourceFrameRate targets estimator = .ok funding) :
    ∃ frames, Planned targets funding frames := by
  simp only [estimateAbrFunding, ok_bind_iff, failWhen_ok_iff, pure, Except.pure, Except.ok.injEq] at h
  obtain ⟨_, _, duration, _, _, _, _, hnonempty, frames, hframes, estimated, hestimated, maximum,
    hmaximum, rfl⟩ := h
  obtain ⟨hnames, hslack⟩ := fundTargets_ok hframes
  obtain ⟨hmax, hsafe⟩ := units_delivered hmaximum
  exact ⟨frames, hnonempty, hnames, hslack, units_positive hestimated, fundTargets_safe hframes,
    (units_delivered hestimated).1, hmax, hsafe, rfl⟩

section
variable {targets : List AbrFundingTarget} {funding : AbrFundingEstimate}
  {frames : List (Resolution × ℤ × ℤ)}

theorem Planned.estimatedUnits_pos (h : Planned targets funding frames) : 1 ≤ funding.estimatedUnits := by
  have hframes : frames ≠ [] := by
    rintro rfl
    exact h.nonempty (List.map_eq_nil_iff.mp h.resolutions.symm)
  obtain ⟨target, rest, hcons⟩ := List.exists_cons_of_ne_nil hframes
  have hpixels : 0 < (frames.map fun target => target.2.1 * target.1.pixels).sum := by
    apply List.sum_pos
    · intro pixels hmem
      obtain ⟨entry, hentry, rfl⟩ := List.mem_map.mp hmem
      exact mul_pos (h.positive entry hentry) entry.1.pixels_pos
    · simpa using hframes
  rw [h.estimated]
  omega

theorem Planned.estimatedUnits_le (h : Planned targets funding frames) :
    funding.estimatedUnits ≤ funding.maxTotalUnits := by
  have hmore := pixels_slack h.slack
  have hnonneg : 0 ≤ ((frames.map Prod.fst).map Resolution.pixels).sum := by
    apply List.sum_nonneg
    intro pixels hmem
    obtain ⟨resolution, _, rfl⟩ := List.mem_map.mp hmem
    exact resolution.pixels_pos.le
  rw [h.estimated, h.maximum]
  omega

theorem Planned.entries (h : Planned targets funding frames) :
    ∀ entry ∈ targets.zip funding.maximumFramesByTarget, 0 ≤ entry.2 ∧ entry.2 ≤ maxSafeInteger := by
  intro entry hentry
  rw [h.maxima] at hentry
  obtain ⟨frame, hframe, heq⟩ := List.mem_map.mp (List.of_mem_zip hentry).2
  have hslack := h.slack frame hframe
  have hpositive := h.positive frame hframe
  rw [← heq]
  exact ⟨by omega, h.safe frame hframe⟩

theorem Planned.delivered_units (h : Planned targets funding frames)
    (hdelivers : DeliversPlan (targets.zip funding.maximumFramesByTarget) renditions) :
    ∃ units, calculateAbrFrameMegapixelUnits renditions = .ok units ∧ 0 ≤ units ∧
      units ≤ funding.maxTotalUnits := by
  obtain ⟨chosen, hsub, hrenditions⟩ := hdelivers
  obtain ⟨pixels, hpixels, hlow, hhigh⟩ := addPixels_delivers hrenditions
    (fun target htarget => (h.entries target (hsub.subset htarget)).2) 0
  have hplan : plannedPixels chosen ≤ (frames.map fun target => target.2.2 * target.1.pixels).sum := by
    rw [← plannedPixels_zip h.resolutions, ← h.maxima]
    exact plannedPixels_le hsub fun target htarget => (h.entries target htarget).1
  have hunits : (pixels + 999999) / 1000000 ≤ funding.maxTotalUnits := by
    rw [h.maximum]
    omega
  refine ⟨(pixels + 999999) / 1000000, ?_, by omega, hunits⟩
  have hsafe : ¬ maxSafeInteger < (pixels + 999999) / 1000000 := not_lt.mpr (hunits.trans h.bounded)
  simp only [calculateAbrFrameMegapixelUnits, ok_bind_iff, failWhen_ok_iff]
  exact ⟨pixels, hpixels, (), hsafe, rfl⟩

end

theorem reconcileAbrUsage_of_units {units maximum : ℤ}
    (hunits : calculateAbrFrameMegapixelUnits renditions = .ok units) (hpos : 0 ≤ units)
    (hle : units ≤ maximum) (hone : 1 ≤ maximum) (hsafe : maximum ≤ maxSafeInteger) :
    reconcileAbrUsage renditions abrWorkUnit units maximum = .ok ⟨units, units, maximum, 0⟩ := by
  have hsigned : |units| ≤ maxSafeInteger := by
    rw [abs_of_nonneg hpos]
    exact hle.trans hsafe
  have hmaximum : |maximum| ≤ maxSafeInteger := by
    rw [abs_of_pos (by omega)]
    exact hsafe
  unfold reconcileAbrUsage
  rw [safeInteger_of_le hsigned, safeInteger_of_le hmaximum]
  simp only [ok_bind_iff, failWhen_ok_iff, hunits, Except.ok.injEq, exists_eq_left', sub_self,
    exists_const, pure, Except.pure]
  refine ⟨?_, not_lt.mpr hle, not_not.mpr rfl, trivial⟩
  rintro (h | h | h)
  · exact h rfl
  · omega
  · omega

/-- An estimate covers whatever is delivered of its plan: the delivered units exist, and signed for
exactly these they are accepted against the estimate's maximum. -/
theorem funding_covers_delivery {durationSeconds sourceFrameRate : Number}
    {targets : List AbrFundingTarget} {estimator : Option WorkUnitEstimator} {funding : AbrFundingEstimate}
    (h : estimateAbrFunding durationSeconds sourceFrameRate targets estimator = .ok funding) :
    (1 ≤ funding.estimatedUnits ∧ funding.estimatedUnits ≤ funding.maxTotalUnits) ∧
      ∀ renditions, DeliversPlan (targets.zip funding.maximumFramesByTarget) renditions →
        ∃ units, calculateAbrFrameMegapixelUnits renditions = .ok units ∧
          reconcileAbrUsage renditions abrWorkUnit units funding.maxTotalUnits =
            .ok ⟨units, units, funding.maxTotalUnits, 0⟩ := by
  obtain ⟨frames, hplanned⟩ := planned_of_estimate h
  refine ⟨⟨hplanned.estimatedUnits_pos, hplanned.estimatedUnits_le⟩, ?_⟩
  intro renditions hdelivers
  obtain ⟨units, hunits, hpos, hle⟩ := hplanned.delivered_units hdelivers
  exact ⟨units, hunits, reconcileAbrUsage_of_units hunits hpos hle
    (hplanned.estimatedUnits_pos.trans hplanned.estimatedUnits_le) hplanned.bounded⟩

/-! ## A second of video -/

def oneSecond : Number := ⟨some 1, by
  intro x hx
  cases hx
  simpa [Representable] using round_two_pow (n := 0) (by norm_num)⟩

theorem mul_one_one : mul 1 1 = some 1 := by
  simpa [mul] using round_two_pow (n := 0) (by norm_num)

theorem mul_one_slack : mul 1 fundingFrameSlackSeconds = some 2 := by
  simpa [mul, fundingFrameSlackSeconds] using round_two_pow (n := 1) (by norm_num)

theorem targetFrames_one : targetFrames 1 1 = .ok (1, 3) := by
  have hestimated : ceilProduct 1 1 = some 1 := by
    simp [ceilProduct, mul_one_one]
  have hslack : ceilProduct 1 fundingFrameSlackSeconds = some 2 := by
    simp [ceilProduct, mul_one_slack]
  have hsafe : |(1 : ℤ)| ≤ maxSafeInteger ∧ |(1 : ℤ) + 2| ≤ maxSafeInteger := by
    norm_num [maxSafeInteger]
  unfold targetFrames
  rw [hestimated, hslack]
  exact if_pos hsafe

def sampleTargets : List AbrFundingTarget := [⟨.p240, none⟩, ⟨.p720, none⟩]

def sampleEstimator : WorkUnitEstimator :=
  ⟨abrEstimatorId, abrEstimatorRounding, abrEstimatorExactness, none, none⟩

theorem sample_estimated : estimateAbrFunding oneSecond oneSecond sampleTargets (some sampleEstimator) =
    .ok ⟨2, 4, [1, 1], [3, 3]⟩ := by
  have hestimator : requireEstimator (some sampleEstimator) = .ok () := by decide
  have hsome : finitePositive oneSecond = .ok 1 := by simp [finitePositive, oneSecond]
  have htargets : fundTargets 1 oneSecond sampleTargets = .ok [(.p240, 1, 3), (.p720, 1, 3)] := by
    simp [sampleTargets, fundTargets, hsome, targetFrames_one, bind, Except.bind, pure, Except.pure]
  have hestimated : calculateAbrFrameMegapixelUnits (estimateRenditions [(.p240, 1, 3), (.p720, 1, 3)]) =
      .ok 2 := by
    decide +kernel
  have hmaximum : calculateAbrFrameMegapixelUnits (maximumRenditions [(.p240, 1, 3), (.p720, 1, 3)]) =
      .ok 4 := by
    decide +kernel
  simp only [estimateAbrFunding, hestimator, hsome, htargets, hestimated, hmaximum, bind, Except.bind,
    pure, Except.pure]
  rfl

/-- Two frames of the larger target only. -/
theorem funding_covers_delivery_sample :
    reconcileAbrUsage [delivered "720p" 2 .p720] abrWorkUnit 2 4 = .ok ⟨2, 2, 4, 0⟩ := by
  obtain ⟨_, hcovers⟩ := funding_covers_delivery sample_estimated
  have hdelivers : DeliversPlan (sampleTargets.zip [3, 3]) [delivered "720p" 2 .p720] := by
    refine ⟨[(⟨.p720, none⟩, 3)], List.Sublist.subperm (.cons _ (.refl _)), .cons ?_ .nil⟩
    exact ⟨"720p", 2, by decide, by decide, rfl⟩
  obtain ⟨units, hunits, hreconciled⟩ := hcovers _ hdelivers
  have htwo : calculateAbrFrameMegapixelUnits [delivered "720p" 2 .p720] = .ok 2 := by decide +kernel
  cases htwo.symm.trans hunits
  exact hreconciled

end LivepeerTranscode.Gateway
