/-
L4AudioMixer.Libav.CodecContract — the send/receive state machine of
`libavcodec/avcodec.h` ("send/receive encoding and decoding API
overview"), as a property of a codec.

Before the flush packet a codec takes a packet or says `EAGAIN`, gives a
frame or says `EAGAIN`, and never says `EAGAIN` on both sides. How the
caller interleaves the two kinds of call is up to it: `Yields` is the
relation between a codec state, the packets to come and the samples that
some interleaving, closed by the flush packet, brings out. The decoded
stream is the one list all of them bring out (`DecodesTo`). `Exchanged`
looks back instead: the calls that were made, and how they were answered.
-/
import L4AudioMixer.Libav.Api

namespace L4AudioMixer.Libav

variable {σ α : Type}

/-- After the flush packet: frames until `AVERROR_EOF`. -/
inductive Drains (k : Codec σ α) : σ → List α → Prop where
  | eof {c c' : σ} (hr : k.receiveFrame c = (.eof, c')) : Drains k c []
  | frame {c c' : σ} {xs T : List α} (hr : k.receiveFrame c = (.frame xs, c'))
      (h : Drains k c' T) : Drains k c (xs ++ T)

/-- Some interleaving of sends and receives brings `T` out of the codec
for the packets `ps` and a flush packet. -/
inductive Yields (k : Codec σ α) : σ → List AVPacket → List α → Prop where
  | frame {c c' : σ} {ps : List AVPacket} {xs T : List α}
      (hr : k.receiveFrame c = (.frame xs, c')) (h : Yields k c' ps T) : Yields k c ps (xs ++ T)
  | nothing {c c' : σ} {ps : List AVPacket} {T : List α}
      (hr : k.receiveFrame c = (.eagain, c')) (h : Yields k c' ps T) : Yields k c ps T
  | accepted {c c' : σ} {p : AVPacket} {ps : List AVPacket} {T : List α}
      (hs : k.sendPacket c (some p) = (.ok, c')) (h : Yields k c' ps T) : Yields k c (p :: ps) T
  | refused {c c' : σ} {p : AVPacket} {ps : List AVPacket} {T : List α}
      (hs : k.sendPacket c (some p) = (.eagain, c')) (h : Yields k c' (p :: ps) T) :
      Yields k c (p :: ps) T
  | flushed {c c' : σ} {T : List α}
      (hs : k.sendPacket c none = (.ok, c')) (h : Drains k c' T) : Yields k c [] T

/-- `S` is the decoded stream of the packets `ps`: what every
interleaving brings out. -/
def DecodesTo (k : Codec σ α) (c : σ) (ps : List AVPacket) (S : List α) : Prop :=
  ∀ T, Yields k c ps T ↔ T = S

/-- A record of calls to a codec that was in state `c₀`, in any order:
the packets it took, the frames it gave, and the state it is in now. The
packet of a call may be the flush packet, which is no packet of the file. -/
inductive Exchanged (k : Codec σ α) (c₀ : σ) :
    List AVPacket → List (List α) → σ → Prop where
  | start : Exchanged k c₀ [] [] c₀
  | accepted {c c' : σ} {ps : List AVPacket} {frames : List (List α)} {p : Option AVPacket}
      (h : Exchanged k c₀ ps frames c) (hs : k.sendPacket c p = (.ok, c')) :
      Exchanged k c₀ (ps ++ p.toList) frames c'
  | refused {c c' : σ} {ps : List AVPacket} {frames : List (List α)} {p : Option AVPacket}
      {answer : SendPacket} (h : Exchanged k c₀ ps frames c)
      (hs : k.sendPacket c p = (answer, c')) (ha : answer ≠ .ok) : Exchanged k c₀ ps frames c'
  | frame {c c' : σ} {ps : List AVPacket} {frames : List (List α)} {xs : List α}
      (h : Exchanged k c₀ ps frames c) (hr : k.receiveFrame c = (.frame xs, c')) :
      Exchanged k c₀ ps (frames ++ [xs]) c'
  | noFrame {c c' : σ} {ps : List AVPacket} {frames : List (List α)} {answer : ReceiveFrame α}
      (h : Exchanged k c₀ ps frames c) (hr : k.receiveFrame c = (answer, c'))
      (ha : ∀ xs, answer ≠ .frame xs) : Exchanged k c₀ ps frames c'

/-- The codec answers `n` `avcodec_receive_frame` calls in a row, made
from state `c`, with frames. -/
def YieldsFrames (codec : Codec σ α) : Nat → σ → Prop
  | 0, _ => True
  | n + 1, c => ∃ samples c', codec.receiveFrame c = (.frame samples, c') ∧
      YieldsFrames codec n c'

/-- The documented state machine, in the states `feeding` a codec passes
through before its flush packet. -/
structure ObeysContract (k : Codec σ α) (feeding : σ → Prop) : Prop where
  /-- A packet is taken or refused with `EAGAIN`. -/
  send : ∀ c p, feeding c → ∃ c', feeding c' ∧
    (k.sendPacket c (some p) = (.ok, c') ∨ k.sendPacket c (some p) = (.eagain, c'))
  /-- A frame has at least one sample; without one the answer is `EAGAIN`. -/
  receive : ∀ c, feeding c → ∃ c', feeding c' ∧
    ((∃ xs, xs ≠ [] ∧ k.receiveFrame c = (.frame xs, c')) ∨ k.receiveFrame c = (.eagain, c'))
  /-- A codec that refuses a packet has a frame. -/
  frameAfterRefusal : ∀ c c' p, feeding c → k.sendPacket c (some p) = (.eagain, c') →
    ∃ xs c'', k.receiveFrame c' = (.frame xs, c'')
  /-- A codec that has no frame takes a packet. -/
  roomWithoutFrame : ∀ c c' p, feeding c → k.receiveFrame c = (.eagain, c') →
    ∃ c'', k.sendPacket c' (some p) = (.ok, c'')
  /-- Output is not buffered without limit. -/
  finite : ∀ c, feeding c → ∃ n, ¬ YieldsFrames k n c
  /-- The flush packet is taken, and the codec drains. -/
  flush : ∀ c, feeding c → ∃ c' T, k.sendPacket c none = (.ok, c') ∧ Drains k c' T

namespace ObeysContract

variable {k : Codec σ α} {feeding : σ → Prop} (hk : ObeysContract k feeding)
include hk

theorem feeding_of_send {c c' : σ} {p : AVPacket} {answer : SendPacket} (hc : feeding c)
    (h : k.sendPacket c (some p) = (answer, c')) : feeding c' := by
  obtain ⟨c'', hc'', h' | h'⟩ := hk.send c p hc
  · rw [h] at h'
    cases h'
    exact hc''
  · rw [h] at h'
    cases h'
    exact hc''

theorem feeding_of_receive {c c' : σ} {answer : ReceiveFrame α} (hc : feeding c)
    (h : k.receiveFrame c = (answer, c')) : feeding c' := by
  obtain ⟨c'', hc'', ⟨xs, _, h'⟩ | h'⟩ := hk.receive c hc
  · rw [h] at h'
    cases h'
    exact hc''
  · rw [h] at h'
    cases h'
    exact hc''

/-- A codec can always be brought to the point where it has no frame. -/
theorem yields_of_runOut {n : Nat} {c : σ} {ps : List AVPacket} (hc : feeding c)
    (hn : ¬ YieldsFrames k n c)
    (h : ∀ c₁ c₂, feeding c₁ → k.receiveFrame c₁ = (.eagain, c₂) → ∃ T, Yields k c₂ ps T) :
    ∃ T, Yields k c ps T := by
  -- induction on the number of frames the codec cannot give in a row
  induction n generalizing c with
  | zero => exact absurd trivial hn
  | succ n ih =>
      obtain ⟨c', hc', ⟨xs, _, hr⟩ | hr⟩ := hk.receive c hc
      · obtain ⟨T, hT⟩ := ih hc' (fun hy => hn ⟨xs, c', hr, hy⟩)
        exact ⟨xs ++ T, .frame hr hT⟩
      · obtain ⟨T, hT⟩ := h c c' hc hr
        exact ⟨T, .nothing hr hT⟩

/-- **Every state can be decoded to the end.** -/
theorem exists_yields {c : σ} (ps : List AVPacket) (hc : feeding c) : ∃ T, Yields k c ps T := by
  induction ps generalizing c with
  | nil =>
      obtain ⟨c', T, hs, hT⟩ := hk.flush c hc
      exact ⟨T, .flushed hs hT⟩
  | cons p ps ih =>
      obtain ⟨n, hn⟩ := hk.finite c hc
      refine hk.yields_of_runOut hc hn fun c₁ c₂ hc₁ hr => ?_
      obtain ⟨c₃, hs⟩ := hk.roomWithoutFrame c₁ c₂ p hc₁ hr
      have hc₂ : feeding c₂ := hk.feeding_of_receive hc₁ hr
      obtain ⟨T, hT⟩ := ih (hk.feeding_of_send hc₂ hs)
      exact ⟨T, .accepted hs hT⟩

end ObeysContract

end L4AudioMixer.Libav
