/-
L4AudioMixer.Mixer.RecordFrameTheorems — the frames a record source of a
mixer gives out, against the blocks it removes.

Three counts meet in one call. The buffer must hold
`real_buffer_num_elements_` elements and loses as many; `UpdateFrame`
copies the elements of a 10 ms frame; and `Mix` copies
`output_channel_num_ * real_output_samples_` elements out. Each is
computed by divisions of its own. The two results say for which
configurations the first covers the second, and for which it is the third.
-/
import L4AudioMixer.Mixer.RegistryTheorems
import L4AudioMixer.Source.RecordRunTheorems

namespace L4AudioMixer.Mixer

open L4AudioMixer.Lib
open L4AudioMixer.WebRtc
open L4AudioMixer.Source

variable {σ ρ α γ : Type}

/-- The number of elements of a 10 ms frame. -/
def MixerConfig.tenMsElements (config : MixerConfig) : Int :=
  config.outputSampleRate.toInt.tdiv 100 * config.outputChannelNum.toInt

/-- The number of elements a record source of the configuration removes
for a frame. -/
def MixerConfig.blockElements (config : MixerConfig) : Int :=
  (config.outputChannelNum.toInt * config.outputSampleRate.toInt).tdiv
    ((1000 : Int).tdiv config.frameDurationMs.toInt)

/-! ## Frames hold recorded data only -/

/-- A `kNormal` frame of a source in state `s`, before volume, is built
from recorded data: what is copied lies in the buffer, what follows the
removed elements is zero, and nothing that is copied stays in the buffer
for a second frame. -/
structure FromRecording (abi : Abi) (s : AudioRecordSource) (taken : AudioFrame) : Prop where
  inBuffer : s.copied abi ≤ s.buffer.size
  tailZero : ∀ i, s.removed abi ≤ i → i < s.frameElements abi → taken.data i = 0
  once : s.copied abi ≤ s.removed abi

section Frames

variable {abi : Abi} {scaleWithSat : ScaleWithSat} {config : MixerConfig} {ssrc : Int32}
  {s src : AudioRecordSource}

/-- A 10 ms frame has at most a hundredth of the elements of a second. -/
theorem natAbs_tenMsElements_le (config : MixerConfig) :
    config.tenMsElements.natAbs
      ≤ (config.outputChannelNum.toInt * config.outputSampleRate.toInt).natAbs := by
  rw [MixerConfig.tenMsElements, Int.natAbs_mul, Int.natAbs_mul, Nat.mul_comm]
  exact Nat.mul_le_mul_left _ (natAbs_tdiv_le _ _)

/-- On an accepted configuration a frame is no longer than a block exactly
when the two numbers say so, or the block is negative and never available. -/
theorem frameElements_le_removed_iff (haccepted : Accepted abi config)
    (hs : BuiltRecord ((Numbers.ofConfig config).settings ssrc) s) :
    s.frameElements abi ≤ s.removed abi ↔
      config.tenMsElements ≤ config.blockElements ∨ config.blockElements < 0 := by
  have hframe : s.frameElements abi = toSizeT abi config.tenMsElements := by
    rw [AudioRecordSource.frameElements, hs.reportOutputSamples, hs.channelNum, toSizeT_mul]
    rfl
  have hremoved : s.removed abi = toSizeT abi config.blockElements := by
    rw [AudioRecordSource.removed, hs.realBufferNumElements]
    rfl
  have hfits := haccepted.frameFits
  rw [toSizeT_mul] at hfits
  change toSizeT abi config.tenMsElements ≤ 3840 at hfits
  have hproduct : (config.outputChannelNum.toInt * config.outputSampleRate.toInt).natAbs
      ≤ 2147483648 := by
    obtain ⟨hlow, hhigh⟩ := hs.productFits
    change -2147483648 ≤ config.outputChannelNum.toInt * config.outputSampleRate.toInt at hlow
    change config.outputChannelNum.toInt * config.outputSampleRate.toInt ≤ 2147483647 at hhigh
    omega
  have hten := toSizeT_cases abi (Nat.le_trans (natAbs_tenMsElements_le config) hproduct)
  have hblock := toSizeT_cases abi (x := config.blockElements)
    (Nat.le_trans (natAbs_tdiv_le _ _) hproduct)
  rw [hframe, hremoved]
  omega

/-- If a frame is no longer than a block, frames hold recorded data only. -/
theorem fromRecording_of_le (hle : s.frameElements abi ≤ s.removed abi) {hz : Int}
    {frame taken final : AudioFrame} {uninit : Nat → Int16} {s' : AudioRecordSource}
    (hstep : (recordMachine abi scaleWithSat).step s (.getAudioFrameWithInfo hz frame uninit)
      = .ok (s', .answered .kNormal taken final)) : FromRecording abi s taken := by
  have hcopied : s.copied abi ≤ s.frameElements abi := by
    unfold AudioRecordSource.copied
    split
    · exact Nat.le_refl _
    · exact Nat.zero_le _
  cases recordStep_of_step hstep with
  | refused _ _ _ _ _ _ hinfo => exact absurd rfl hinfo
  | normal _ _ _ _ _ hsize =>
      exact ⟨by omega, fun i hi hlt => by omega, by omega⟩

/-- A longer frame shows, behind the removed elements, what was recorded
there: it is enough to record one frame of elements that are not zero. -/
theorem not_tailZero_of_lt (scaleWithSat : ScaleWithSat) (hempty : src.buffer.contents = [])
    (hfits : src.frameElements abi ≤ kMaxDataSizeSamples)
    (hlt : src.removed abi < src.frameElements abi) :
    ∃ ops s replies s' frame taken final uninit,
      (recordMachine abi scaleWithSat).run src ops = .ok (s, replies) ∧
      (recordMachine abi scaleWithSat).step s (.getAudioFrameWithInfo s.sampleRate frame uninit)
        = .ok (s', .answered .kNormal taken final) ∧
      s.removed abi < s.frameElements abi ∧ taken.data (s.removed abi) ≠ 0 := by
  have hbytes : (Int32.ofInt (2 * src.frameElements abi)).toInt = 2 * src.frameElements abi := by
    have hsmall : src.frameElements abi ≤ 3840 := hfits
    exact Int32.toInt_ofInt_of_le (by omega) (by omega)
  obtain ⟨buffer, hrec, hcontents⟩ := onAudioRecorded_of_nonneg abi src (fun _ => 1)
    (by rw [hbytes]; omega) (isInt32_toInt (Int32.ofInt (2 * src.frameElements abi))) (fun _ => 0)
  rw [hempty, List.nil_append, hbytes] at hcontents
  have hsize : buffer.size = src.frameElements abi := by
    rw [← BufferT.length_contents, hcontents, length_firstN]
    omega
  have hcap : buffer.capacity ≠ 0 := by
    have hconsistent := buffer.consistent
    omega
  have hcopied : ({ src with buffer } : AudioRecordSource).copied abi = src.frameElements abi := by
    simp only [AudioRecordSource.copied, BufferT.data, if_neg hcap, Option.isSome_some, if_true]
    rfl
  have hwhole : ({ src with buffer } : AudioRecordSource).removed abi ≤ buffer.size := by
    rw [hsize]
    exact Nat.le_of_lt hlt
  obtain ⟨s', taken, final, hstep, hdata⟩ := step_normal (s := { src with buffer })
    scaleWithSat { dataArray := fun _ => 0 } (fun _ => 0) hwhole hfits
  refine ⟨[.onAudioRecorded (fun _ => 1) (Int32.ofInt (2 * src.frameElements abi)) (fun _ => 0)],
    { src with buffer }, [.recorded], s', _, taken, final, _, ?_, hstep, hlt, ?_⟩
  · simp only [Machine.run, recordMachine, hrec, bind, Except.bind]
    rfl
  · have hread : taken.data (src.removed abi) = buffer.array (src.removed abi) :=
      hdata _ (by rw [hcopied]; exact hlt)
    have hin : src.removed abi < buffer.contents.length := by
      rw [BufferT.length_contents, hsize]
      exact hlt
    have helement : buffer.contents[src.removed abi] = 257 := by
      simp only [hcontents, getElem_firstN, AudioRecordSource.asInt16]
      decide
    rw [BufferT.getElem_contents] at helement
    show taken.data (src.removed abi) ≠ 0
    rw [hread, helement]
    decide

/-- **When record frames hold recorded data only**: on every accepted
configuration, in every run of a record source, exactly when a 10 ms frame
has no more elements than a block, or the block size is negative. -/
theorem record_frame_from_recording_iff (P : Platform σ ρ α γ) (config : MixerConfig)
    (memory : Nat → Int16) (m : AudioMixer σ ρ α γ)
    (hcreate : AudioMixer.create P config memory = .ok m) (ssrc : Int32) (volume : Float32)
    (uninit : Nat → Int16) (src : AudioRecordSource)
    (hsrc : AudioRecordSource.create ssrc config.outputSampleRate.toInt
      config.outputChannelNum.toInt config.frameDurationMs.toInt volume uninit = .ok src) :
    (∀ ops s replies, (recordMachine P.abi P.scaleWithSat).run src ops = .ok (s, replies) →
      ∀ hz frame uninit' s' taken final,
        (recordMachine P.abi P.scaleWithSat).step s (.getAudioFrameWithInfo hz frame uninit')
          = .ok (s', .answered .kNormal taken final) → FromRecording P.abi s taken) ↔
      config.tenMsElements ≤ config.blockElements ∨ config.blockElements < 0 := by
  obtain ⟨-, -, haccepted, -⟩ := create_spec hcreate
  obtain ⟨hbuilt, -, hbuffer⟩ :=
    builtRecord_of_create (c := (Numbers.ofConfig config).settings ssrc) hsrc
  constructor
  · intro hall
    rw [← frameElements_le_removed_iff haccepted hbuilt]
    by_contra hnot
    have hfits : src.frameElements P.abi ≤ kMaxDataSizeSamples := by
      rw [AudioRecordSource.frameElements, hbuilt.reportOutputSamples, hbuilt.channelNum]
      exact haccepted.frameFits
    obtain ⟨ops, s, replies, s', frame, taken, final, uninit', hrun, hstep, hlt, hne⟩ :=
      not_tailZero_of_lt P.scaleWithSat (by rw [hbuffer]; rfl) hfits
        (Nat.lt_of_not_le hnot)
    have hfrom := hall ops s replies hrun s.sampleRate frame uninit' s' taken final hstep
    exact hne (hfrom.tailZero _ (Nat.le_refl _) hlt)
  · intro hcondition ops s replies hrun hz frame uninit' s' taken final hstep
    have hs : BuiltRecord ((Numbers.ofConfig config).settings ssrc) s := hbuilt.run hrun
    exact fromRecording_of_le ((frameElements_le_removed_iff haccepted hs).mpr hcondition) hstep

end Frames

/-- Mono at 48000 Hz in frames of 5 ms: a block has 240 elements and a
frame 480. -/
def mono48kShort : MixerConfig where
  sources := []
  outputSampleRate := 48000
  outputChannelNum := 1
  frameDurationMs := 5

/-- With one block recorded, the frame is copied from twice as many
elements as the buffer has. -/
theorem record_frame_reads_past_buffer :
    ∃ m src s replies s' taken final,
      AudioMixer.create smallPlatform mono48kShort (fun _ => 0) = .ok m ∧
      AudioRecordSource.create 7 48000 1 5 1 (fun _ => 0) = .ok src ∧
      (recordMachine .lp64 (fun _ frame => frame)).run src
        [.onAudioRecorded (fun _ => 1) 480 (fun _ => 0)] = .ok (s, replies) ∧
      (recordMachine .lp64 (fun _ frame => frame)).step s
          (.getAudioFrameWithInfo 48000 { dataArray := fun _ => 0 } (fun _ => 0))
        = .ok (s', .answered .kNormal taken final) ∧
      s.buffer.size = 240 ∧ s.copied .lp64 = 480 ∧ ¬ FromRecording .lp64 s taken := by
  obtain ⟨m, src, s, replies, s', taken, final, hm, hsrc, hrun, hstep, hsize, hcopied⟩ :
      ∃ m src s replies s' taken final,
        AudioMixer.create smallPlatform mono48kShort (fun _ => 0) = .ok m ∧
        AudioRecordSource.create 7 48000 1 5 1 (fun _ => 0) = .ok src ∧
        (recordMachine .lp64 (fun _ frame => frame)).run src
          [.onAudioRecorded (fun _ => 1) 480 (fun _ => 0)] = .ok (s, replies) ∧
        (recordMachine .lp64 (fun _ frame => frame)).step s
            (.getAudioFrameWithInfo 48000 { dataArray := fun _ => 0 } (fun _ => 0))
          = .ok (s', .answered .kNormal taken final) ∧
        s.buffer.size = 240 ∧ s.copied .lp64 = 480 :=
    ⟨_, _, _, _, _, _, _, rfl, rfl, rfl, rfl, rfl, rfl⟩
  refine ⟨m, src, s, replies, s', taken, final, hm, hsrc, hrun, hstep, hsize, hcopied, ?_⟩
  intro hfrom
  have hin := hfrom.inBuffer
  omega

theorem record_frame_from_recording_mono8k :
    ∃ m src, AudioMixer.create smallPlatform (mono8kConfig []) (fun _ => 0) = .ok m ∧
      AudioRecordSource.create 7 8000 1 10 1 (fun _ => 0) = .ok src ∧
      ∀ ops s replies, (recordMachine .lp64 (fun _ frame => frame)).run src ops
          = .ok (s, replies) →
        ∀ hz frame uninit s' taken final, (recordMachine .lp64 (fun _ frame => frame)).step s
            (.getAudioFrameWithInfo hz frame uninit) = .ok (s', .answered .kNormal taken final) →
          FromRecording .lp64 s taken := by
  obtain ⟨m, src, hm, hsrc⟩ :
      ∃ m src, AudioMixer.create smallPlatform (mono8kConfig []) (fun _ => 0) = .ok m ∧
        AudioRecordSource.create 7 8000 1 10 1 (fun _ => 0) = .ok src :=
    ⟨_, _, rfl, rfl⟩
  refine ⟨m, src, hm, hsrc, ?_⟩
  exact (record_frame_from_recording_iff smallPlatform (mono8kConfig []) (fun _ => 0) m hm 7 1
    (fun _ => 0) src hsrc).mpr (.inl (by decide))

/-! ## Blocks and output steps -/

/-- Recording and output move in the same step: the block is what `Mix`
copies out, in whole samples, and in every run every `kNormal` frame
starts at a whole sample of the recorded stream and has all that the call
removes among the elements `Mix` copies out. -/
structure SameStep (abi : Abi) (scaleWithSat : ScaleWithSat) (config : MixerConfig)
    (src : AudioRecordSource) : Prop where
  elements : src.realBufferNumElements
    = config.outputChannelNum.toInt * (Numbers.ofConfig config).realOutputSamples
  wholeSamples : config.outputChannelNum.toInt ∣ src.realBufferNumElements
  aligned : ∀ ops s replies, (recordMachine abi scaleWithSat).run src ops = .ok (s, replies) →
    ∃ front, recorded ops = front ++ s.buffer.contents ∧
      config.outputChannelNum.toInt ∣ front.length
  emitted : ∀ ops s replies, (recordMachine abi scaleWithSat).run src ops = .ok (s, replies) →
    ∀ hz frame uninit s' taken final,
      (recordMachine abi scaleWithSat).step s (.getAudioFrameWithInfo hz frame uninit)
        = .ok (s', .answered .kNormal taken final) →
      s.buffer.contents
        = leading taken (config.outputChannelNum.toInt
            * (Numbers.ofConfig config).realOutputSamples).toNat ++ s'.buffer.contents

section Steps

variable {abi : Abi} {scaleWithSat : ScaleWithSat} {config : MixerConfig} {ssrc : Int32}
  {s src : AudioRecordSource}

/-- Multiplying before a division keeps what multiplying after it loses. -/
theorem mul_ediv_eq_add (c r : Int) {q : Int} (hq : 0 < q) :
    c * r / q = c * (r / q) + c * (r % q) / q := by
  have hsplit : c * r = c * (r % q) + c * (r / q) * q := by
    rw [Int.mul_assoc, ← Int.mul_add, Int.add_comm, Int.mul_comm (r / q) q, Int.mul_ediv_add_emod]
  rw [hsplit, Int.add_mul_ediv_right _ _ (by omega), Int.add_comm]

/-- The two divisions agree exactly when the remainders of all channels
together are less than one more sample. -/
theorem mul_tdiv_eq_iff {c r q : Int} (hc : 0 < c) (hr : 0 < r) (hq : 0 < q) :
    (c * r).tdiv q = c * r.tdiv q ↔ c * (r % q) < q := by
  have hnonneg : 0 ≤ c * (r % q) :=
    Int.mul_nonneg (Int.le_of_lt hc) (Int.emod_nonneg r (by omega))
  have hrest : 0 ≤ c * (r % q) / q := Int.ediv_nonneg hnonneg (Int.le_of_lt hq)
  have hone : c * (r % q) / q < 1 ↔ c * (r % q) < 1 * q := Int.ediv_lt_iff_lt_mul hq
  rw [Int.tdiv_eq_ediv_of_nonneg (Int.mul_nonneg (Int.le_of_lt hc) (Int.le_of_lt hr)),
    Int.tdiv_eq_ediv_of_nonneg (Int.le_of_lt hr), mul_ediv_eq_add c r hq]
  omega

/-- A record source of positive settings can be built. -/
theorem record_create_ok (ssrc : Int32) (hduration : 1 ≤ config.frameDurationMs.toInt)
    (hduration' : config.frameDurationMs.toInt ≤ 10)
    (hproduct : IsInt32 (config.outputChannelNum.toInt * config.outputSampleRate.toInt))
    (volume : Float32) (uninit : Nat → Int16) :
    ∃ src, AudioRecordSource.create ssrc config.outputSampleRate.toInt
      config.outputChannelNum.toInt config.frameDurationMs.toInt volume uninit = .ok src := by
  have hq : 0 < (1000 : Int).tdiv config.frameDurationMs.toInt :=
    tdiv_pos_of_le (by omega) (by omega)
  simp only [AudioRecordSource.create]
  rw [divInt32_of_pos (by omega), mulInt32_of_fits hproduct, divInt32_of_pos (by omega)]
  simp only [bind, Except.bind]
  rw [divInt32_of_pos hq]
  exact ⟨_, rfl⟩

/-- What `Mix` copies out is part of a 10 ms frame. -/
theorem mixElements_le_tenMsElements (hrate : 0 < config.outputSampleRate.toInt)
    (hchannels : 0 < config.outputChannelNum.toInt)
    (hduration : 1 ≤ config.frameDurationMs.toInt)
    (hduration' : config.frameDurationMs.toInt ≤ 10) :
    config.outputChannelNum.toInt * (Numbers.ofConfig config).realOutputSamples
      ≤ config.tenMsElements := by
  obtain ⟨hq, -⟩ := framesPerSecond_bounds hduration hduration'
  have hle : (Numbers.ofConfig config).realOutputSamples
      ≤ config.outputSampleRate.toInt.tdiv 100 :=
    tdiv_le_tdiv_of_le (Int.le_of_lt hrate) (by omega) hq
  rw [MixerConfig.tenMsElements, Int.mul_comm (config.outputSampleRate.toInt.tdiv 100)]
  exact Int.mul_le_mul_of_nonneg_left hle (Int.le_of_lt hchannels)

/-- A `kNormal` call removes from the buffer what the frame starts with,
as far as the frame goes. -/
theorem contents_of_normal {hz : Int} {frame taken final : AudioFrame} {uninit : Nat → Int16}
    {s' : AudioRecordSource} (hle : s.removed abi ≤ s.frameElements abi)
    (hstep : (recordMachine abi scaleWithSat).step s (.getAudioFrameWithInfo hz frame uninit)
      = .ok (s', .answered .kNormal taken final)) :
    s.buffer.contents = leading taken (s.removed abi) ++ s'.buffer.contents := by
  cases recordStep_of_step hstep with
  | refused _ _ _ _ _ _ hinfo => exact absurd rfl hinfo
  | normal _ _ _ _ _ hsize hs hframe =>
      subst hs
      have hrest : (shifted abi s uninit).contents = s.buffer.contents.drop (s.removed abi) :=
        BufferT.contents_moveToFront_setSize _ _
      have hfront : leading taken (s.removed abi) = s.buffer.contents.take (s.removed abi) := by
        rw [BufferT.contents, take_firstN _ hsize, leading]
        apply firstN_congr
        intro i hi
        have hcap : s.buffer.capacity ≠ 0 := by
          have hconsistent := s.buffer.consistent
          omega
        rw [BufferT.data, if_neg hcap] at hframe
        exact AudioFrame.data_of_updateFrame hframe (Nat.lt_of_lt_of_le hi hle)
      show s.buffer.contents = leading taken (s.removed abi) ++ (shifted abi s uninit).contents
      rw [hrest, hfront, List.take_append_drop]

/-- The elements of a 10 ms frame are an `int`. -/
theorem isInt32_tenMsElements (hrate : 0 < config.outputSampleRate.toInt)
    (hchannels : 0 < config.outputChannelNum.toInt)
    (hs : BuiltRecord ((Numbers.ofConfig config).settings ssrc) s) :
    0 ≤ config.tenMsElements ∧ IsInt32 config.tenMsElements := by
  have hproduct : IsInt32 (config.outputChannelNum.toInt * config.outputSampleRate.toInt) :=
    hs.productFits
  have hten := natAbs_tenMsElements_le config
  have hpositive := Int.mul_pos hchannels hrate
  have hnonneg : 0 ≤ config.tenMsElements :=
    Int.mul_nonneg (Int.tdiv_nonneg (Int.le_of_lt hrate) (by omega)) (Int.le_of_lt hchannels)
  exact ⟨hnonneg, hproduct.of_le hnonneg (by omega)⟩

/-- The number of elements of the frame is not changed by its conversions. -/
theorem frameElements_of_pos (hrate : 0 < config.outputSampleRate.toInt)
    (hchannels : 0 < config.outputChannelNum.toInt)
    (hs : BuiltRecord ((Numbers.ofConfig config).settings ssrc) s) :
    s.frameElements abi = config.tenMsElements.toNat := by
  obtain ⟨hnonneg, h32⟩ := isInt32_tenMsElements hrate hchannels hs
  rw [AudioRecordSource.frameElements, hs.reportOutputSamples, hs.channelNum, toSizeT_mul]
  exact toSizeT_of_nonneg abi hnonneg h32

/-- Nor is that of a block, if it is what `Mix` copies out. -/
theorem removed_of_elements (abi : Abi) (hrate : 0 < config.outputSampleRate.toInt)
    (hchannels : 0 < config.outputChannelNum.toInt)
    (hduration : 1 ≤ config.frameDurationMs.toInt)
    (hduration' : config.frameDurationMs.toInt ≤ 10)
    (hs : BuiltRecord ((Numbers.ofConfig config).settings ssrc) s)
    (helements : s.realBufferNumElements
      = config.outputChannelNum.toInt * (Numbers.ofConfig config).realOutputSamples) :
    0 ≤ s.realBufferNumElements ∧ s.removed abi = s.realBufferNumElements.toNat := by
  have hle := mixElements_le_tenMsElements hrate hchannels hduration hduration'
  obtain ⟨-, h32⟩ := isInt32_tenMsElements hrate hchannels hs
  have hnonneg : 0 ≤ s.realBufferNumElements := by
    rw [hs.realBufferNumElements]
    obtain ⟨hq, -⟩ := framesPerSecond_bounds hduration hduration'
    exact Int.tdiv_nonneg (Int.le_of_lt (Int.mul_pos hchannels hrate)) (Int.le_trans (by decide) hq)
  exact ⟨hnonneg, toSizeT_of_nonneg abi hnonneg (h32.of_le hnonneg (by omega))⟩

/-- If the block is what `Mix` copies out, the rest follows. -/
theorem sameStep_of_elements (hrate : 0 < config.outputSampleRate.toInt)
    (hchannels : 0 < config.outputChannelNum.toInt)
    (hduration : 1 ≤ config.frameDurationMs.toInt)
    (hduration' : config.frameDurationMs.toInt ≤ 10)
    (hbuilt : BuiltRecord ((Numbers.ofConfig config).settings ssrc) src)
    (hempty : src.buffer.contents = [])
    (helements : src.realBufferNumElements
      = config.outputChannelNum.toInt * (Numbers.ofConfig config).realOutputSamples) :
    SameStep abi scaleWithSat config src := by
  have hle := mixElements_le_tenMsElements hrate hchannels hduration hduration'
  obtain ⟨hnonneg, hremoved⟩ := removed_of_elements abi hrate hchannels hduration
    hduration' hbuilt helements
  refine ⟨helements, ⟨_, helements⟩, ?_, ?_⟩
  · intro ops s replies hrun
    obtain ⟨front, hfront, hlength⟩ := run_position hempty hrun
    refine ⟨front, hfront, ?_⟩
    rw [hlength, hremoved, Int.natCast_mul, Int.toNat_of_nonneg hnonneg, helements]
    exact Dvd.dvd.mul_left (Int.dvd_mul_right _ _) _
  · intro ops s replies hrun hz frame uninit s' taken final hstep
    have hs : BuiltRecord ((Numbers.ofConfig config).settings ssrc) s := hbuilt.run hrun
    have hsame : s.realBufferNumElements = src.realBufferNumElements :=
      hs.realBufferNumElements.trans hbuilt.realBufferNumElements.symm
    obtain ⟨-, hremoved'⟩ := removed_of_elements abi hrate hchannels hduration
      hduration' hs (hsame.trans helements)
    rw [hsame, helements] at hremoved'
    rw [← hremoved']
    refine contents_of_normal ?_ hstep
    rw [hremoved', frameElements_of_pos hrate hchannels hs]
    omega

/-- **When recording and output move in the same step**: for every
positive rate and channel count and every duration of one to ten
milliseconds, exactly when the samples lost by the truncating division,
taken over all channels, are fewer than one element. -/
theorem record_step_matches_mix_iff (abi : Abi) (scaleWithSat : ScaleWithSat)
    (config : MixerConfig) (hrate : 0 < config.outputSampleRate.toInt)
    (hchannels : 0 < config.outputChannelNum.toInt)
    (hproduct : IsInt32 (config.outputChannelNum.toInt * config.outputSampleRate.toInt))
    (hduration : 1 ≤ config.frameDurationMs.toInt)
    (hduration' : config.frameDurationMs.toInt ≤ 10) (ssrc : Int32) (volume : Float32)
    (uninit : Nat → Int16) :
    ∃ src, AudioRecordSource.create ssrc config.outputSampleRate.toInt
        config.outputChannelNum.toInt config.frameDurationMs.toInt volume uninit = .ok src ∧
      (SameStep abi scaleWithSat config src ↔
        config.outputChannelNum.toInt
            * (config.outputSampleRate.toInt % (1000 : Int).tdiv config.frameDurationMs.toInt)
          < (1000 : Int).tdiv config.frameDurationMs.toInt) := by
  obtain ⟨src, hsrc⟩ :=
    record_create_ok ssrc hduration hduration' hproduct volume uninit
  refine ⟨src, hsrc, ?_⟩
  obtain ⟨hbuilt, -, hbuffer⟩ :=
    builtRecord_of_create (c := (Numbers.ofConfig config).settings ssrc) hsrc
  have hq : 0 < (1000 : Int).tdiv config.frameDurationMs.toInt :=
    tdiv_pos_of_le (by omega) (by omega)
  rw [← mul_tdiv_eq_iff hchannels hrate hq]
  constructor
  · intro hsame
    exact hbuilt.realBufferNumElements.symm.trans hsame.elements
  · intro hequal
    have helements : src.realBufferNumElements
        = config.outputChannelNum.toInt * (Numbers.ofConfig config).realOutputSamples :=
      hbuilt.realBufferNumElements.trans hequal
    exact sameStep_of_elements hrate hchannels hduration hduration' hbuilt (by rw [hbuffer]; rfl)
      helements

end Steps

/-- Stereo at 16000 Hz. -/
def stereo16k (frameDurationMs : Int32) : MixerConfig where
  sources := []
  outputSampleRate := 16000
  outputChannelNum := 2
  frameDurationMs := frameDurationMs

/-- Of a second in 142 frames of 7 ms a block has 225 elements, an odd
number, and `Mix` copies 224 out. -/
theorem record_step_splits_a_sample :
    ∃ src, AudioRecordSource.create 7 16000 2 7 1 (fun _ => 0) = .ok src ∧
      src.realBufferNumElements = 225 ∧
      (stereo16k 7).outputChannelNum.toInt * (Numbers.ofConfig (stereo16k 7)).realOutputSamples
        = 224 ∧
      ¬ (2 : Int) ∣ src.realBufferNumElements ∧
      ¬ SameStep .lp64 (fun _ frame => frame) (stereo16k 7) src := by
  obtain ⟨src, hsrc, helements⟩ :
      ∃ src, AudioRecordSource.create 7 16000 2 7 1 (fun _ => 0) = .ok src ∧
        src.realBufferNumElements = 225 :=
    ⟨_, rfl, rfl⟩
  refine ⟨src, hsrc, helements, by decide, by rw [helements]; decide, ?_⟩
  intro hsame
  have hsplit := hsame.wholeSamples
  rw [helements] at hsplit
  exact absurd hsplit (by decide)

/-- In frames of 10 ms both are 320 elements. -/
theorem record_step_matches_mix_stereo16k :
    ∃ src, AudioRecordSource.create 7 16000 2 10 1 (fun _ => 0) = .ok src ∧
      SameStep .lp64 (fun _ frame => frame) (stereo16k 10) src := by
  obtain ⟨src, hsrc, hiff⟩ := record_step_matches_mix_iff .lp64 (fun _ frame => frame)
    (stereo16k 10) (by decide) (by decide) (by decide) (by decide) (by decide) 7 1 (fun _ => 0)
  exact ⟨src, hsrc, hiff.mpr (by decide)⟩

end L4AudioMixer.Mixer
