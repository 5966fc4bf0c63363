import LivepeerTranscode.Shared.Checked

/-!
# The VOD runner's usage

`vodUnitsV2` of `transcode-runner/vod_v2.go`: the units of the one rendition a VOD workload
has, with the overflow checks of `bits.Mul64`.
-/

namespace LivepeerTranscode.TranscodeRunner
open Checked
set_option autoImplicit false

structure VODVideoV2 where
  actualFrames : Nat
  width : Nat
  height : Nat
  deriving DecidableEq

def vodUnitsV2 : Option VODVideoV2 → Except String Nat
  | none => .ok 0
  | some video => do
    let frameWidth := video.actualFrames * video.width
    failWhen (2 ^ 64 ≤ frameWidth) "usage overflow"
    let pixels := frameWidth * video.height
    failWhen (2 ^ 64 ≤ pixels) "usage overflow"
    .ok (pixels / 1000000 + if pixels % 1000000 ≠ 0 then 1 else 0)

theorem vodUnitsV2_ok_iff (video : VODVideoV2) (units : Nat) : vodUnitsV2 (some video) = .ok units ↔
    video.actualFrames * video.width < 2 ^ 64 ∧ video.actualFrames * video.width * video.height < 2 ^ 64 ∧
      units = (video.actualFrames * video.width * video.height + 999999) / 1000000 := by
  have hceil : ∀ pixels : Nat, (pixels / 1000000 + if pixels % 1000000 ≠ 0 then 1 else 0) =
      (pixels + 999999) / 1000000 := by
    intro pixels
    split <;> omega
  simp only [vodUnitsV2, ok_bind_iff, failWhen_ok_iff, Nat.not_le, Except.ok.injEq, exists_and_left,
    exists_const, hceil]
  constructor
  · rintro ⟨hwidth, hpixels, rfl⟩
    exact ⟨hwidth, hpixels, rfl⟩
  · rintro ⟨hwidth, hpixels, rfl⟩
    exact ⟨hwidth, hpixels, rfl⟩

end LivepeerTranscode.TranscodeRunner
