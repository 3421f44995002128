/-
L4AudioMixer.Mixer.Alike — sources that differ only in memory nobody
wrote.

The buffer of a record source is an array whose elements past the size,
and past what was recorded, are whatever the allocator left there. Two
record sources are alike when they agree on everything else; two file
sources when they are equal. Every operation on alike sources gives alike
sources, whatever the fresh memory holds on either side.
-/
import L4AudioMixer.Mixer.Effects

namespace L4AudioMixer.Mixer

open L4AudioMixer.Lib
open L4AudioMixer.Libav
open L4AudioMixer.WebRtc
open L4AudioMixer.Source

variable {σ ρ α γ : Type} {P : Platform σ ρ α γ}

/-- Two buffers with the same elements and the same room. -/
structure SameElements (a b : BufferT Int16) : Prop where
  contents : b.contents = a.contents
  capacity : b.capacity = a.capacity

theorem SameElements.refl (a : BufferT Int16) : SameElements a a := ⟨rfl, rfl⟩

theorem SameElements.size {a b : BufferT Int16} (h : SameElements a b) : b.size = a.size := by
  rw [← BufferT.length_contents, ← BufferT.length_contents, h.contents]

/-- Sources that differ only in memory nobody wrote. -/
inductive Alike : AudioSource σ ρ α → AudioSource σ ρ α → Prop where
  | file (s : AudioFileSource σ ρ α) : Alike (.file s) (.file s)
  | record (s : AudioRecordSource) (buffer : BufferT Int16)
      (h : SameElements s.buffer buffer) : Alike (.record s) (.record { s with buffer })

theorem Alike.refl (a : AudioSource σ ρ α) : Alike a a := by
  cases a with
  | file s => exact .file s
  | record s => exact .record s s.buffer (SameElements.refl _)

theorem Alike.ssrc {a b : AudioSource σ ρ α} (h : Alike a b) : b.ssrc = a.ssrc := by
  cases h <;> rfl

theorem Alike.volume {a b : AudioSource σ ρ α} (h : Alike a b) : b.volume = a.volume := by
  cases h <;> rfl

/-- `UpdateVolume` on alike sources. -/
theorem Alike.updateVolume {a b : AudioSource σ ρ α} (h : Alike a b) (volume : Float32) :
    Alike (a.updateVolume volume) (b.updateVolume volume) := by
  cases h with
  | file s => exact .file { s with volume }
  | record s buffer hb => exact .record { s with volume } buffer hb

/-- What `DoAddSource` makes does not depend on fresh memory. -/
theorem alike_makeSource {m m' : AudioMixer σ ρ α γ} {source : MixerSource}
    {uninit : Nat → Int16} {a : AudioSource σ ρ α} (hnumbers : m'.numbers = m.numbers)
    (h : m.makeSource P source uninit = .ok a) (uninit' : Nat → Int16) :
    ∃ b, m'.makeSource P source uninit' = .ok b ∧ Alike a b := by
  rw [makeSource_congr hnumbers]
  unfold AudioMixer.makeSource at h ⊢
  split at h
  · rename_i htype
    rw [if_pos htype]
    simp only [bind_eq_ok] at h
    obtain ⟨u₁, hr₁, u₂, hr₂, record, hrecord, hret⟩ := h
    have hcreate := create_ok_of_ok (c := m.numbers.settings source.ssrc) hrecord uninit'
    have hbuffer := (builtRecord_of_create (c := m.numbers.settings source.ssrc) hrecord).2.2
    cases hret
    refine ⟨.record { record with buffer := BufferT.empty uninit' }, ?_, ?_⟩
    · simp only [bind_eq_ok]
      exact ⟨u₁, hr₁, u₂, hr₂, _, hcreate, rfl⟩
    · refine .record record _ ?_
      rw [hbuffer]
      exact ⟨rfl, rfl⟩
  · rename_i htype
    rw [if_neg htype]
    exact ⟨a, h, Alike.refl a⟩

/-- `AppendData` on buffers with the same elements. -/
theorem sameElements_appendData {abi : Abi} {a a' b : BufferT Int16} {data : Nat → Int16}
    {size : Nat} {uninit : Nat → Int16} (hab : SameElements a b)
    (h : a.appendData abi 2 data size uninit = .ok a') (uninit' : Nat → Int16) :
    ∃ b', b.appendData abi 2 data size uninit' = .ok b' ∧ SameElements a' b' := by
  have hcontents := BufferT.contents_appendData h
  unfold BufferT.appendData at h
  split at h
  · cases h
  · rename_i hfits
    obtain ⟨b', hb', hcontents'⟩ : ∃ b', b.appendData abi 2 data size uninit' = .ok b' ∧
        b'.contents = b.contents ++ firstN data size :=
      b.appendData_of_le data uninit' (Nat.not_lt.mp hfits)
    refine ⟨b', hb', ?_, ?_⟩
    · rw [hcontents', hcontents, hab.contents]
    · unfold BufferT.appendData at hb'
      rw [if_neg hfits] at hb'
      cases h
      cases hb'
      simp only [BufferT.ensureCapacityWithHeadroom, hab.size, hab.capacity]
      split
      · exact hab.capacity
      · rfl

/-- `OnAudioRecorded` on alike record sources. -/
theorem alike_onAudioRecorded {s s' : AudioRecordSource} {buffer : BufferT Int16}
    {data : Nat → UInt8} {size : Int} {uninit : Nat → Int16}
    (hb : SameElements s.buffer buffer)
    (h : s.onAudioRecorded P.abi data size uninit = .ok s') (uninit' : Nat → Int16) :
    ∃ t', AudioRecordSource.onAudioRecorded P.abi { s with buffer } data size uninit' = .ok t' ∧
      Alike (σ := σ) (ρ := ρ) (α := α) (.record s') (.record t') := by
  obtain ⟨grown, hgrown, rfl⟩ := onAudioRecorded_cases h
  obtain ⟨grown', hgrown', hsame⟩ := sameElements_appendData hb hgrown uninit'
  refine ⟨{ s with buffer := grown' }, ?_, ?_⟩
  · simp only [AudioRecordSource.onAudioRecorded, hgrown']
    rfl
  · exact .record { s with buffer := grown } grown' hsame

end L4AudioMixer.Mixer
