/-
L4AudioMixer.Source.AudioSource — the model of `src/audio_source.cpp`:
the volume every source applies to the frames it gives out.

`AudioFrameOperations::ScaleWithSat` is WebRTC's; it is a parameter of
the model, as the header says no more than its signature.
-/
import L4AudioMixer.WebRtc.AudioFrame

namespace L4AudioMixer.Source

open L4AudioMixer.WebRtc

/-- `AudioFrameOperations::ScaleWithSat(scale, frame)`: the frame after
the call. -/
abbrev ScaleWithSat := Float32 → AudioFrame → AudioFrame

/-- `AudioSource::ApplyVolume`. -/
def applyVolume (scaleWithSat : ScaleWithSat) (volume : Float32) (frame : AudioFrame) :
    AudioFrame :=
  if volume < 0.99 ∨ 1.01 < volume then scaleWithSat volume frame else frame

/-- What the constructor of a source of either kind is called with,
besides its volume and its file. -/
structure SourceSettings where
  ssrc : Int32
  outputSampleRate : Int
  outputChannelNum : Int
  frameDurationMs : Int

/-- Frames of one to ten milliseconds come a hundred to a thousand times a
second. -/
theorem framesPerSecond_bounds {frameDurationMs : Int} (hlow : 1 ≤ frameDurationMs)
    (hhigh : frameDurationMs ≤ 10) :
    100 ≤ (1000 : Int).tdiv frameDurationMs ∧ (1000 : Int).tdiv frameDurationMs ≤ 1000 := by
  rw [Int.tdiv_eq_ediv_of_nonneg (by omega)]
  exact ⟨(Int.le_ediv_iff_mul_le (by omega)).mpr (by omega), Int.ediv_le_self _ (by omega)⟩

end L4AudioMixer.Source
