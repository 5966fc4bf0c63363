import LivepeerTranscode.AbrRunner.JournalMoves
import LivepeerTranscode.Gateway.VodUsage
import LivepeerTranscode.TranscodeRunner.Contract

/-!
# Units of delivered frames

The gateway, the ABR runner and the VOD runner each count the megapixels of delivered video.
The gateway counts in `BigInt` and takes numbers that are safe integers; the runners count in
`uint64` and check every product and the sum for overflow.
-/

namespace LivepeerTranscode.Exchange
open AbrRunner Checked
set_option autoImplicit false

def frameMegapixels (renditions : List RenditionResultV2) : Nat :=
  ⌈((renditions.map RenditionResultV2.pixels).sum : ℚ) / 1000000⌉₊

def vodVideo (video : DeliveredVideoV2) : TranscodeRunner.VODVideoV2 :=
  ⟨video.actualFrames, video.width, video.height⟩

def deliveredRendition (rendition : RenditionResultV2) : Gateway.AbrDeliveredRendition where
  name := rendition.name
  video := rendition.video.map fun video => ⟨video.actualFrames, video.width, video.height⟩

def Positive (video : DeliveredVideoV2) : Prop :=
  0 < video.actualFrames ∧ 0 < video.width ∧ 0 < video.height

/-- The numbers are integers that `Number` holds exactly with their neighbours. -/
def Safe (video : DeliveredVideoV2) : Prop :=
  video.actualFrames ≤ 2 ^ 53 - 1 ∧ video.width ≤ 2 ^ 53 - 1 ∧ video.height ≤ 2 ^ 53 - 1

theorem ceil_megapixels (pixels : Nat) : ⌈(pixels : ℚ) / 1000000⌉₊ = (pixels + 999999) / 1000000 := by
  apply eq_of_forall_ge_iff
  intro units
  rw [Nat.ceil_le, div_le_iff₀ (by norm_num)]
  have hcast : (pixels : ℚ) ≤ units * 1000000 ↔ pixels ≤ units * 1000000 := by exact_mod_cast Iff.rfl
  rw [hcast]
  omega

theorem frameMegapixels_eq (renditions : List RenditionResultV2) :
    frameMegapixels renditions = ((renditions.map RenditionResultV2.pixels).sum + 999999) / 1000000 :=
  ceil_megapixels _

/-! ## The runners -/

theorem Positive.le_pixels {video : DeliveredVideoV2} (h : Positive video) :
    video.actualFrames * video.width ≤ video.actualFrames * video.width * video.height :=
  Nat.le_mul_of_pos_right _ h.2.2

variable {renditions : List RenditionResultV2}

theorem counted_of_total
    (hpositive : ∀ rendition ∈ renditions, ∀ video ∈ rendition.video, Positive video)
    (htotal : (renditions.map RenditionResultV2.pixels).sum < 2 ^ 64) :
    ∀ rendition ∈ renditions, rendition.Counted := by
  intro rendition hrendition video hvideo
  have hle : rendition.pixels ≤ (renditions.map RenditionResultV2.pixels).sum :=
    List.single_le_sum (fun _ _ => Nat.zero_le _) _ (List.mem_map_of_mem hrendition)
  have hpixels : rendition.pixels = video.actualFrames * video.width * video.height := by
    rw [RenditionResultV2.pixels, Option.mem_def.mp hvideo]
  have hproduct := (hpositive rendition hrendition video hvideo).le_pixels
  omega

theorem calculateFrameMegapixelUnitsV2_ok_iff (P : Platform)
    (hpositive : ∀ rendition ∈ renditions, ∀ video ∈ rendition.video, Positive video) (units : Nat) :
    calculateFrameMegapixelUnitsV2 P renditions = .ok units ↔
      (renditions.map RenditionResultV2.pixels).sum < 2 ^ 64 ∧ units = frameMegapixels renditions := by
  unfold calculateFrameMegapixelUnitsV2
  rw [ok_bind_iff, frameMegapixels_eq]
  constructor
  · rintro ⟨pixels, hsum, hunits⟩
    obtain ⟨-, htotal, hlt⟩ := (sumPixels_ok_iff P renditions (by omega)).mp hsum
    rw [Nat.zero_add] at htotal
    cases hunits
    refine ⟨by omega, ?_⟩
    rw [← htotal]
    split <;> omega
  · rintro ⟨hlt, rfl⟩
    refine ⟨_, (sumPixels_ok_iff P renditions (by omega)).mpr
      ⟨counted_of_total hpositive hlt, (Nat.zero_add _).symm, hlt⟩, congrArg Except.ok ?_⟩
    split <;> omega

theorem vodUnitsV2_singleton (rendition : RenditionResultV2)
    (hpositive : ∀ video ∈ rendition.video, Positive video) (units : Nat) :
    TranscodeRunner.vodUnitsV2 (rendition.video.map vodVideo) = .ok units ↔
      rendition.pixels < 2 ^ 64 ∧ units = frameMegapixels [rendition] := by
  rw [frameMegapixels_eq]
  simp only [List.map_cons, List.map_nil, List.sum_cons, List.sum_nil, Nat.add_zero, RenditionResultV2.pixels]
  cases hvideo : rendition.video with
  | none =>
    simp only [Option.map_none, TranscodeRunner.vodUnitsV2, Except.ok.injEq]
    omega
  | some video =>
    have hproduct := (hpositive video hvideo).le_pixels
    rw [Option.map_some, TranscodeRunner.vodUnitsV2_ok_iff]
    simp only [vodVideo]
    constructor
    · rintro ⟨-, hpixels, rfl⟩
      exact ⟨hpixels, rfl⟩
    · rintro ⟨hpixels, rfl⟩
      exact ⟨by omega, hpixels, rfl⟩

/-! ## The gateway -/

theorem positiveInteger_natCast {n : Nat} (hpos : 0 < n) (hsafe : n ≤ 2 ^ 53 - 1) :
    Gateway.positiveInteger n = .ok n := by
  have hsafeInteger : Binary64.safeInteger n = some (n : ℤ) := by
    have hnum : |(n : ℤ)| ≤ 2 ^ 53 - 1 := by
      rw [Nat.abs_cast]
      omega
    rw [Binary64.safeInteger, if_pos ⟨Rat.den_natCast n, by rwa [Rat.num_natCast]⟩, Rat.num_natCast]
  rw [Gateway.positiveInteger, hsafeInteger]
  simp only [if_neg (by omega : ¬ (n : ℤ) < 1)]

theorem pixelsOf_delivered {rendition : RenditionResultV2}
    (hpositive : ∀ video ∈ rendition.video, Positive video) (hsafe : ∀ video ∈ rendition.video, Safe video) :
    Gateway.pixelsOf (deliveredRendition rendition) = .ok rendition.pixels := by
  unfold Gateway.pixelsOf deliveredRendition RenditionResultV2.pixels
  cases hvideo : rendition.video with
  | none => rfl
  | some video =>
    obtain ⟨hframes, hwidth, hheight⟩ := hpositive video hvideo
    obtain ⟨hframes', hwidth', hheight'⟩ := hsafe video hvideo
    simp only [Option.map_some, positiveInteger_natCast hframes hframes', positiveInteger_natCast hwidth hwidth',
      positiveInteger_natCast hheight hheight']
    exact congrArg Except.ok (by push_cast; rfl)

theorem addPixels_delivered
    (hpositive : ∀ rendition ∈ renditions, ∀ video ∈ rendition.video, Positive video)
    (hsafe : ∀ rendition ∈ renditions, ∀ video ∈ rendition.video, Safe video) (start : ℤ) :
    Gateway.addPixels start (renditions.map deliveredRendition) =
      .ok (start + (renditions.map RenditionResultV2.pixels).sum) := by
  induction renditions generalizing start with
  | nil => simp [Gateway.addPixels]
  | cons rendition renditions ih =>
    rw [List.forall_mem_cons] at hpositive hsafe
    rw [List.map_cons, Gateway.addPixels, pixelsOf_delivered hpositive.1 hsafe.1]
    have hrest := ih hpositive.2 hsafe.2 (start + rendition.pixels)
    rw [List.map_cons, List.sum_cons, Nat.cast_add, ← Int.add_assoc]
    exact hrest

theorem calculateAbrFrameMegapixelUnits_delivered
    (hpositive : ∀ rendition ∈ renditions, ∀ video ∈ rendition.video, Positive video)
    (hsafe : ∀ rendition ∈ renditions, ∀ video ∈ rendition.video, Safe video)
    (htotal : (renditions.map RenditionResultV2.pixels).sum < 2 ^ 64) :
    Gateway.calculateAbrFrameMegapixelUnits (renditions.map deliveredRendition) =
      .ok (frameMegapixels renditions) := by
  rw [frameMegapixels_eq, Gateway.calculateAbrFrameMegapixelUnits,
    addPixels_delivered hpositive hsafe, Int.zero_add]
  generalize (renditions.map RenditionResultV2.pixels).sum = total at htotal
  have hbound : ¬ Gateway.maxSafeInteger < ((total : ℤ) + 999999) / 1000000 := by
    unfold Gateway.maxSafeInteger
    omega
  refine ok_bind_iff.mpr ⟨_, rfl, ok_bind_iff.mpr ⟨(), failWhen_ok_iff.mpr hbound, congrArg Except.ok ?_⟩⟩
  omega

/-! ## Agreement -/

/-- For positive numbers the runners have the rounded total exactly when it fits, and the
gateway has it whenever its numbers are safe integers. -/
theorem frame_units_agree (P : Platform) (renditions : List RenditionResultV2)
    (hpositive : ∀ rendition ∈ renditions, ∀ video ∈ rendition.video, Positive video) :
    ((renditions.map RenditionResultV2.pixels).sum < 2 ^ 64 →
      calculateFrameMegapixelUnitsV2 P renditions = .ok (frameMegapixels renditions) ∧
      (∀ rendition, renditions = [rendition] →
        TranscodeRunner.vodUnitsV2 (rendition.video.map vodVideo) = .ok (frameMegapixels renditions)) ∧
      ((∀ rendition ∈ renditions, ∀ video ∈ rendition.video, Safe video) →
        Gateway.calculateAbrFrameMegapixelUnits (renditions.map deliveredRendition) =
          .ok (frameMegapixels renditions))) ∧
    ((∃ message, calculateFrameMegapixelUnitsV2 P renditions = .error message) ↔
      2 ^ 64 ≤ (renditions.map RenditionResultV2.pixels).sum) ∧
    ∀ rendition, renditions = [rendition] →
      ((∃ message, TranscodeRunner.vodUnitsV2 (rendition.video.map vodVideo) = .error message) ↔
        2 ^ 64 ≤ (renditions.map RenditionResultV2.pixels).sum) := by
  have hruns := calculateFrameMegapixelUnitsV2_ok_iff P hpositive
  have hsingle : ∀ rendition, renditions = [rendition] → ∀ units,
      TranscodeRunner.vodUnitsV2 (rendition.video.map vodVideo) = .ok units ↔
        (renditions.map RenditionResultV2.pixels).sum < 2 ^ 64 ∧ units = frameMegapixels renditions := by
    rintro rendition rfl units
    rw [vodUnitsV2_singleton rendition (hpositive rendition (List.mem_singleton_self _)), List.map_singleton,
      List.sum_singleton]
  refine ⟨?_, ?_, ?_⟩
  · intro htotal
    refine ⟨(hruns _).mpr ⟨htotal, rfl⟩, ?_, ?_⟩
    · intro rendition hrendition
      exact (hsingle rendition hrendition _).mpr ⟨htotal, rfl⟩
    · intro hsafe
      exact calculateAbrFrameMegapixelUnits_delivered hpositive hsafe htotal
  · rw [exists_error_iff hruns, Nat.not_lt]
  · intro rendition hrendition
    rw [exists_error_iff (hsingle rendition hrendition), Nat.not_lt]

def rendition (actualFrames width height : Nat) : RenditionResultV2 :=
  ⟨"main", "main.m3u8", "main.mp4", some ⟨actualFrames, width, height⟩, 0⟩

theorem rendition_positive {actualFrames width height : Nat} (h : Positive ⟨actualFrames, width, height⟩) :
    ∀ found ∈ [rendition actualFrames width height], ∀ video ∈ found.video, Positive video := by
  intro found hfound video hvideo
  cases List.mem_singleton.mp hfound
  cases hvideo
  exact h

def plainPlatform : Platform := ⟨fun _ => none, id⟩

/-- Ten seconds of full HD, for the three at once. -/
theorem frame_units_agree_sample :
    Positive ⟨250, 1920, 1080⟩ ∧ Safe ⟨250, 1920, 1080⟩ ∧
      calculateFrameMegapixelUnitsV2 plainPlatform [rendition 250 1920 1080] =
        .ok (frameMegapixels [rendition 250 1920 1080]) ∧
      TranscodeRunner.vodUnitsV2 (some ⟨250, 1920, 1080⟩) = .ok (frameMegapixels [rendition 250 1920 1080]) ∧
      Gateway.calculateAbrFrameMegapixelUnits ([rendition 250 1920 1080].map deliveredRendition) =
        .ok (frameMegapixels [rendition 250 1920 1080]) := by
  have hpositive : Positive ⟨250, 1920, 1080⟩ := by unfold Positive; decide
  have hsafe : Safe ⟨250, 1920, 1080⟩ := by unfold Safe; decide
  obtain ⟨hagree, -, -⟩ := frame_units_agree plainPlatform [rendition 250 1920 1080] (rendition_positive hpositive)
  obtain ⟨habr, hvod, hgateway⟩ := hagree (by decide)
  refine ⟨hpositive, hsafe, habr, hvod _ rfl, hgateway ?_⟩
  intro found hfound video hvideo
  cases List.mem_singleton.mp hfound
  cases hvideo
  exact hsafe

/-- A frame count that fits the runners and is no safe integer. -/
theorem unsafe_frames_refused :
    Positive ⟨2 ^ 53, 1, 1⟩ ∧ ([rendition (2 ^ 53) 1 1].map RenditionResultV2.pixels).sum < 2 ^ 64 ∧
      frameMegapixels [rendition (2 ^ 53) 1 1] ≤ 2 ^ 53 - 1 ∧
      Gateway.calculateAbrFrameMegapixelUnits ([rendition (2 ^ 53) 1 1].map deliveredRendition) =
        .error .usageInputInvalid := by
  refine ⟨by unfold Positive; decide, by decide, ?_, ?_⟩
  · rw [frameMegapixels_eq]
    decide
  · have hframes : Binary64.safeInteger (2 ^ 53 : Nat) = none := by
      rw [Binary64.safeInteger, if_neg]
      rw [Rat.num_natCast]
      rintro ⟨-, hle⟩
      exact absurd hle (by decide)
    have hrefused : Gateway.positiveInteger (2 ^ 53 : Nat) = .error .usageInputInvalid := by
      rw [Gateway.positiveInteger, hframes]
    have hpixels : Gateway.pixelsOf (deliveredRendition (rendition (2 ^ 53) 1 1)) =
        .error .usageInputInvalid :=
      error_bind_iff.mpr (.inl hrefused)
    exact error_bind_iff.mpr (.inl (error_bind_iff.mpr (.inl hpixels)))

end LivepeerTranscode.Exchange
