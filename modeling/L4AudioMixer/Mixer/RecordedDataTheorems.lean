/-
L4AudioMixer.Mixer.RecordedDataTheorems — when `AddRecordedData` is
confined to record sources.

The call finds a source under an ssrc and treats it as a record source,
whatever it is; the size goes through `size_t` before it is halved.
`addRecordedData_confined_iff` says which calls are harmless: those with
an unknown ssrc, and those with a record source and a size that is not
negative. A file source under the ssrc is undefined behaviour, and a
negative size asks for an array no object can have.
-/
import L4AudioMixer.Mixer.RateTheorems

namespace L4AudioMixer.Mixer

open L4AudioMixer.Lib
open L4AudioMixer.Libav
open L4AudioMixer.WebRtc
open L4AudioMixer.Source

variable {σ ρ α γ : Type} {P : Platform σ ρ α γ} {m m' : AudioMixer σ ρ α γ}

/-- `m'` is `m` but for the record source under `ssrc`, whose buffer has
grown by the first `count` elements of `data`. -/
def OnlyBufferGrew (m m' : AudioMixer σ ρ α γ) (ssrc : Int32) (s : AudioRecordSource)
    (data : Nat → UInt8) (count : Nat) : Prop :=
  ∃ p buffer, m.sources[ssrc]? = some p ∧
    m' = { m with heap := m.heap.modify p (fun _ => .record { s with buffer }) } ∧
    buffer.contents = s.buffer.contents ++ firstN (AudioRecordSource.asInt16 data) count

/-- What is expected of `AddRecordedData(ssrc, data, size)`: it returns; a
record source under the ssrc gets the first `max(0, size) / 2` elements,
and nothing else changes. -/
def Confined (P : Platform σ ρ α γ) (m : AudioMixer σ ρ α γ) (ssrc : Int32)
    (data : Nat → UInt8) (size : Int32) (uninit : Nat → Int16) : Prop :=
  ∃ m', m.addRecordedData P ssrc data size uninit = .ok m' ∧
    match m.stored ssrc with
    | some (.record s) =>
        if 0 ≤ size.toInt then OnlyBufferGrew m m' ssrc s data (size.toInt.toNat / 2) else m' = m
    | _ => m' = m

/-- The ssrcs under which nothing is stored. -/
theorem stored_eq_none (hm : WellFormed P m) {ssrc : Int32} :
    m.stored ssrc = none ↔ m.sources[ssrc]? = none := by
  cases hp : m.sources[ssrc]? with
  | none => simp [AudioMixer.stored, hp]
  | some p =>
      obtain ⟨object, hobject, -⟩ := (hm.owned ssrc p).mp hp
      simp [AudioMixer.stored, hp, hobject]

/-- **When `AddRecordedData` is confined**: in every reachable state, for
every ssrc, all data and every size, exactly when nothing is stored under
the ssrc, or a record source is and the size is not negative. -/
theorem addRecordedData_confined_iff (P : Platform σ ρ α γ) (m : AudioMixer σ ρ α γ)
    (hm : Reachable P m) (ssrc : Int32) (data : Nat → UInt8) (size : Int32)
    (uninit : Nat → Int16) :
    Confined P m ssrc data size uninit ↔
      m.stored ssrc = none ∨ ((∃ s, m.stored ssrc = some (.record s)) ∧ 0 ≤ size.toInt) := by
  obtain ⟨hwell, -⟩ := reachable_wellFormed hm
  cases hstored : m.stored ssrc with
  | none =>
      -- unknown: the call does nothing
      have hnone := (stored_eq_none hwell).mp hstored
      have hcall : m.addRecordedData P ssrc data size uninit = .ok m := by
        simp only [AudioMixer.addRecordedData, hnone]
      simp only [Confined, hstored, hcall, true_or, iff_true]
      exact ⟨m, rfl, rfl⟩
  | some object =>
      obtain ⟨p, hp, hobject⟩ := WellFormed.stored_eq_some.mp hstored
      cases object with
      | file s =>
          have hcall : m.addRecordedData P ssrc data size uninit = .error .invalidCast := by
            simp only [AudioMixer.addRecordedData, hp, hobject]
          simp [Confined, hcall]
      | record s =>
          have hcall : m.addRecordedData P ssrc data size uninit = (do
              let s ← s.onAudioRecorded P.abi data size.toInt uninit
              return { m with heap := m.heap.modify p (fun _ => .record s) }) := by
            simp only [AudioMixer.addRecordedData, hp, hobject]
          by_cases hsize : 0 ≤ size.toInt
          · obtain ⟨buffer, hrec, hcontents⟩ := onAudioRecorded_of_nonneg P.abi s data hsize
              (isInt32_toInt size) uninit
            have hconfined : Confined P m ssrc data size uninit := by
              refine ⟨{ m with heap := m.heap.modify p (fun _ => .record { s with buffer }) },
                ?_, ?_⟩
              · rw [hcall, hrec]
                rfl
              · simp only [hstored, if_pos hsize]
                exact ⟨p, buffer, hp, rfl, hcontents⟩
            exact ⟨fun _ => .inr ⟨⟨s, rfl⟩, hsize⟩, fun _ => hconfined⟩
          · have hneg : size.toInt < 0 := by omega
            have hrec := onAudioRecorded_of_neg P.abi s data hneg (isInt32_toInt size) uninit
            rw [hrec] at hcall
            constructor
            · rintro ⟨m', hok, -⟩
              rw [hcall] at hok
              cases hok
            · rintro (hnone | ⟨-, hnonneg⟩)
              · cases hnone
              · exact absurd hnonneg hsize

/-- A negative size, as `AudioRecord.read` returns on an error, ends the
call in `std::bad_alloc`; with a file source under the ssrc the call is
undefined behaviour. -/
theorem addRecordedData_not_confined :
    ∃ m, Reachable smallPlatform m ∧
      (∃ s, m.stored 1 = some (.record s)) ∧ (∃ s, m.stored 2 = some (.file s)) ∧
      ¬ Confined smallPlatform m 1 (fun _ => 0) (-3) (fun _ => 0) ∧
      ¬ Confined smallPlatform m 2 (fun _ => 0) 4 (fun _ => 0) ∧
      m.addRecordedData smallPlatform 1 (fun _ => 0) (-3) (fun _ => 0) = .error .badAlloc ∧
      m.addRecordedData smallPlatform 2 (fun _ => 0) 4 (fun _ => 0) = .error .invalidCast := by
  obtain ⟨m, hcreate, hrecord, hfile, hneg, hcast⟩ :
      ∃ m, AudioMixer.create smallPlatform (mono8kConfig [recordSource 1, fileSource 2 ""])
          (fun _ => 0) = .ok m ∧
        (∃ s, m.stored 1 = some (.record s)) ∧ (∃ s, m.stored 2 = some (.file s)) ∧
        m.addRecordedData smallPlatform 1 (fun _ => 0) (-3) (fun _ => 0) = .error .badAlloc ∧
        m.addRecordedData smallPlatform 2 (fun _ => 0) 4 (fun _ => 0) = .error .invalidCast :=
    ⟨_, rfl, ⟨_, rfl⟩, ⟨_, rfl⟩, rfl, rfl⟩
  refine ⟨m, ⟨_, _, m, [], [], hcreate, rfl⟩, hrecord, hfile, ?_, ?_, hneg, hcast⟩
  · rintro ⟨m', hok, -⟩
    rw [hneg] at hok
    cases hok
  · rintro ⟨m', hok, -⟩
    rw [hcast] at hok
    cases hok

theorem addRecordedData_confined_iff_record :
    ∃ m, Reachable smallPlatform m ∧ (∃ s, m.stored 1 = some (.record s)) ∧
      Confined smallPlatform m 1 (fun _ => 0) 4 (fun _ => 0) := by
  obtain ⟨m, hcreate, hrecord⟩ :
      ∃ m, AudioMixer.create smallPlatform (mono8kConfig [recordSource 1]) (fun _ => 0) = .ok m ∧
        ∃ s, m.stored 1 = some (.record s) :=
    ⟨_, rfl, _, rfl⟩
  have hreach : Reachable smallPlatform m := ⟨_, _, m, [], [], hcreate, rfl⟩
  exact ⟨m, hreach, hrecord,
    (addRecordedData_confined_iff smallPlatform m hreach 1 (fun _ => 0) 4 (fun _ => 0)).mpr
      (.inr ⟨hrecord, by decide⟩)⟩

end L4AudioMixer.Mixer
