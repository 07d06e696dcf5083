import Mathlib.Data.List.Forall2
import WatchLink.Proofs.Frame.RoundTrip
import WatchLink.Proofs.Reassembler.Accounting

/-!
# Noise in front of frames

Noise may hold first octets of a preamble, and it may end in the first two. Each of these stops the
search for the next frame, which then goes on right behind it. No preamble begins in the noise and
ends in the frame behind it, because only its first octet is the one that starts it; so as long as
no preamble stands whole in the noise the search ends where the frame starts, and neither octets of
the noise are left over nor octets of the frame lost.
-/

namespace WatchLink

namespace Segment

/-- In front of a preamble noise is no start of one. -/
theorem not_preamble_prefix_append {noise rest : Bytes} (hne : noise ≠ [])
    (hfree : ¬ Frame.preamble <:+: noise) (hrest : Frame.preamble <+: rest) :
    ¬ Frame.preamble <+: noise ++ rest := by
  obtain ⟨rest, rfl⟩ := hrest
  match noise, hne with
  | [b], _ => simp [Frame.preamble]
  | [b, c], _ => simp [Frame.preamble]
  | b :: c :: d :: noise, _ =>
      intro hstarts
      refine hfree (List.IsPrefix.isInfix ?_)
      rw [← Frame.take_preamble_eq_iff] at hstarts ⊢
      exact hstarts

/-- The search goes no further than to the next preamble. -/
theorem beforeCandidate_append_le (noise : Bytes) {rest : Bytes} (hrest : Frame.preamble <+: rest) :
    beforeCandidate (noise ++ rest) ≤ noise.length := by
  have hlen : 3 ≤ rest.length := hrest.length_le
  induction noise with
  | nil =>
      obtain ⟨rest, rfl⟩ := hrest
      exact Nat.le_refl 0
  | cons b noise ih =>
      have hlong : 2 ≤ (noise ++ rest).length := by
        rw [List.length_append]
        omega
      rw [List.cons_append, beforeCandidate_cons_of_le b hlong, List.length_cons]
      split
      · exact Nat.zero_le _
      · exact Nat.succ_le_succ ih

/-- What is cut off noise in front of a frame is noise. -/
theorem cut?_noise_append {noise rest : Bytes} (hne : noise ≠ [])
    (hfree : ¬ Frame.preamble <:+: noise) (hrest : Frame.preamble <+: rest)
    (hlen : Frame.overhead ≤ rest.length) :
    ∃ head tail, head ≠ [] ∧ noise = head ++ tail ∧
      cut? (noise ++ rest) = some (.noise head, tail ++ rest) := by
  have hlong : Frame.overhead ≤ (noise ++ rest).length := by
    rw [List.length_append]
    omega
  have hstart : (noise ++ rest).take 3 ≠ Frame.preamble := by
    rw [ne_eq, Frame.take_preamble_eq_iff]
    exact not_preamble_prefix_append hne hfree hrest
  have hcut := cut?_of_not_preamble hlong hstart
  obtain ⟨b, noise, rfl⟩ := List.exists_cons_of_ne_nil hne
  have hsize : beforeCandidate (noise ++ rest) + 1 ≤ (b :: noise).length :=
    Nat.succ_le_succ (beforeCandidate_append_le noise hrest)
  rw [List.cons_append, List.tail_cons, ← List.cons_append,
    List.take_append_of_le_length hsize, List.drop_append_of_le_length hsize] at hcut
  refine ⟨_, _, ?_, (List.take_append_drop _ _).symm, hcut⟩
  exact List.cons_ne_nil b _

/-- Noise in front of a frame is cut off, in however many segments, and nothing of the frame with
it. -/
theorem cutAll_noise_append (noise : Bytes) {rest : Bytes} (hfree : ¬ Frame.preamble <:+: noise)
    (hrest : Frame.preamble <+: rest) (hlen : Frame.overhead ≤ rest.length) :
    ∃ cuts : List Bytes, cuts.flatten = noise ∧
      cutAll (noise ++ rest) = (cuts.map .noise ++ (cutAll rest).1, (cutAll rest).2) := by
  -- On the length of the noise: every cut takes some of it.
  induction hn : noise.length using Nat.strongRecOn generalizing noise with
  | ind n ih =>
      by_cases hne : noise = []
      · subst hne
        exact ⟨[], rfl, rfl⟩
      · obtain ⟨head, tail, hhead, rfl, hcut⟩ := cut?_noise_append hne hfree hrest hlen
        have hshorter : tail.length < n := by
          have := List.length_pos_iff.2 hhead
          rw [← hn, List.length_append]
          omega
        have htail : ¬ Frame.preamble <:+: tail :=
          fun hwhole => hfree (hwhole.trans (List.suffix_append head tail).isInfix)
        obtain ⟨cuts, rfl, hcuts⟩ := ih tail.length hshorter tail htail rfl
        refine ⟨head :: cuts, rfl, ?_⟩
        rw [cutAll_of_some hcut, hcuts]
        rfl

theorem noiseIn_map_noise (cuts : List Bytes) :
    noiseIn (cuts.map .noise) = cuts.flatten.length := by
  induction cuts with
  | nil => rfl
  | cons cut cuts ih =>
      rw [List.map_cons, noiseIn, ih, List.flatten_cons, List.length_append]
      rfl

theorem countP_isBroken_map_noise (cuts : List Bytes) :
    (cuts.map noise).countP isBroken = 0 := by
  rw [List.countP_map]
  exact List.countP_eq_zero.2 fun _ _ => Bool.false_ne_true

theorem filterMap_decoded?_map_noise (cuts : List Bytes) :
    (cuts.map noise).filterMap decoded? = [] := by
  rw [List.filterMap_map]
  exact List.filterMap_eq_nil_iff.2 fun _ _ => rfl

end Segment

namespace Reassembler

/-- What a read does to an empty reassembler, by the segments that it is cut into. -/
theorem push_of_cutAll {data left : Bytes} {segments : List Segment}
    (h : Segment.cutAll data = (segments, left)) (discarded dropped : Nat) :
    push { discarded, dropped } data =
      ({ buffer := left
         discarded := discarded + Segment.noiseIn segments
         dropped := dropped + segments.countP Segment.isBroken },
        segments.filterMap Segment.decoded?) := by
  simp only [push, List.nil_append, h, Segment.foldl_noiseSize]

/-- Noise in front of a frame is discarded, and the frame is read. -/
theorem push_noise_octets_append (discarded dropped : Nat) {noise : Bytes} {frame : Frame}
    (hfree : ¬ Frame.preamble <:+: noise) (hroom : frame.payload.length ≤ Frame.maxPayload)
    (rest : Bytes) :
    push { discarded, dropped } (noise ++ (frame.octets ++ rest)) =
      ((push { discarded := discarded + noise.length, dropped } rest).1,
        frame.received :: (push { discarded := discarded + noise.length, dropped } rest).2) := by
  have hstart : Frame.preamble <+: frame.octets ++ rest := by
    obtain ⟨first, tail, -, hoctets⟩ := Frame.octets_append_eq_cons frame rest
    rw [hoctets, ← Frame.take_preamble_eq_iff]
    rfl
  have hlen : Frame.overhead ≤ (frame.octets ++ rest).length := by
    rw [List.length_append, Frame.length_octets]
    omega
  obtain ⟨cuts, hcuts, hcutAll⟩ := Segment.cutAll_noise_append noise hfree hstart hlen
  obtain ⟨segments, left, hrest⟩ : ∃ segments left, Segment.cutAll rest = (segments, left) :=
    ⟨_, _, rfl⟩
  rw [Segment.cutAll_of_some (Segment.cut?_octets_append frame rest hroom), hrest] at hcutAll
  have hdecode := Frame.decode_octets frame hroom
  have hread : (Segment.frame frame.octets).decoded? = some frame.received := by
    rw [Segment.decoded?, hdecode]
    rfl
  have hwhole : ¬ (Segment.frame frame.octets).isBroken = true := by
    rw [Segment.isBroken, hdecode]
    exact Bool.false_ne_true
  have hsize : Segment.noiseIn (.frame frame.octets :: segments) = Segment.noiseIn segments :=
    Nat.zero_add _
  rw [push_of_cutAll hcutAll, push_of_cutAll hrest, Segment.noiseIn_append,
    Segment.noiseIn_map_noise, hcuts, hsize, List.countP_append,
    Segment.countP_isBroken_map_noise, List.countP_cons_of_neg hwhole, Nat.zero_add,
    List.filterMap_append, Segment.filterMap_decoded?_map_noise, List.nil_append,
    List.filterMap_cons_some hread, Nat.add_assoc]

/-! ## Frames between noise -/

/-- Noise in which no preamble stands whole, and behind it what was written of a frame. -/
structure Stretch where
  noise : Bytes
  sent : Frame
  cipher : PacketCipher
  counter : UInt16
  octets : Bytes
  next : UInt16
  free : ¬ Frame.preamble <:+: noise
  written : sent.encode cipher counter = (next, .ok octets)
  room : octets.length ≤ Frame.overhead + Frame.maxPayload

namespace Stretch

def bytes (stretch : Stretch) : Bytes := stretch.noise ++ stretch.octets

/-- The frame that was written, as it is read: sealed if it was sealed, and but for a channel or a
data type that has no octet of its own, otherwise as it was. -/
structure ReadAs (stretch : Stretch) (frame : Frame) : Prop where
  decoded : Frame.decode stretch.octets = .ok frame
  carried : stretch.sent.Named → ∃ wire,
    stretch.sent.Carries stretch.cipher stretch.counter wire stretch.next ∧
      frame = { stretch.sent with payload := wire }

/-- What was written is the octets of a frame that is read as it. -/
theorem exists_readAs (stretch : Stretch) :
    ∃ frame : Frame, stretch.octets = frame.octets ∧ frame.payload.length ≤ Frame.maxPayload ∧
      stretch.ReadAs frame.received := by
  obtain ⟨wire, hcarries, hoctets⟩ := Frame.carries_of_encode stretch.written
  have hroom : wire.length ≤ Frame.maxPayload := by
    have hlen := stretch.room
    rw [hoctets, Frame.length_octets] at hlen
    exact Nat.le_of_add_le_add_left hlen
  refine ⟨{ stretch.sent with payload := wire }, hoctets, hroom, ?_, fun hnamed => ?_⟩
  · rw [hoctets]
    exact Frame.decode_octets _ hroom
  · have hwire : Frame.Named { stretch.sent with payload := wire } :=
      ⟨hnamed.channel, hnamed.dataType⟩
    exact ⟨wire, hcarries, hwire.received_eq⟩

end Stretch

/-- Of noise and frames in turn the frames are read, each of them and in order, and the noise is
discarded to the octet, whatever the frames hold. No frame is dropped and nothing is left. -/
theorem push_stretches (discarded dropped : Nat) (stretches : List Stretch) :
    ∃ frames, List.Forall₂ Stretch.ReadAs stretches frames ∧
      push { buffer := [], discarded, dropped } (stretches.flatMap Stretch.bytes) =
        ({ buffer := []
           discarded := discarded + (stretches.flatMap Stretch.noise).length
           dropped }, frames) := by
  induction stretches generalizing discarded with
  | nil => exact ⟨[], .nil, rfl⟩
  | cons stretch stretches ih =>
      obtain ⟨frame, hoctets, hroom, hread⟩ := stretch.exists_readAs
      obtain ⟨frames, hreads, hpush⟩ := ih (discarded + stretch.noise.length)
      refine ⟨frame.received :: frames, .cons hread hreads, ?_⟩
      rw [List.flatMap_cons, Stretch.bytes, hoctets, List.append_assoc,
        push_noise_octets_append discarded dropped stretch.free hroom, hpush, List.flatMap_cons,
        List.length_append, Nat.add_assoc]

/-- A frame that holds a preamble and its own end. -/
def nestedFrame : Frame where
  channel := .protoRx
  flag := true
  needsResponse := false
  opcode := 2
  serial := 7
  dataType := .plain
  payload := [0xBA, 0xDC, 0xFE, 0xEF]

/-- Noise that ends in a first octet and in two first octets of a preamble. -/
theorem push_stretches_partialPreambles :
    push { discarded := 3, dropped := 1 }
      ([0xBA, 0xDC, 0xBA] ++ nestedFrame.octets ++
        ([0xFE, 0xBA, 0x00, 0xBA, 0xDC] ++ nestedFrame.octets)) =
      ({ discarded := 11, dropped := 1 }, [nestedFrame, nestedFrame]) := by
  have hread {stretch : Stretch} {frame : Frame} (hoctets : stretch.octets = nestedFrame.octets)
      (h : stretch.ReadAs frame) : nestedFrame = frame := by
    have hdecoded := h.decoded
    rw [hoctets] at hdecoded
    exact Except.ok.inj hdecoded
  obtain ⟨frames, hreads, hpush⟩ := push_stretches 3 1
    [⟨[0xBA, 0xDC, 0xBA], nestedFrame, .refusing, 0, nestedFrame.octets, 0, by decide, rfl,
        by decide⟩,
      ⟨[0xFE, 0xBA, 0x00, 0xBA, 0xDC], nestedFrame, .refusing, 0, nestedFrame.octets, 0, by decide,
        rfl, by decide⟩]
  cases hreads with
  | cons hfirst hreads =>
      cases hreads with
      | cons hsecond hreads =>
          cases hreads
          rw [← hread rfl hfirst, ← hread rfl hsecond] at hpush
          exact hpush

end Reassembler

end WatchLink
