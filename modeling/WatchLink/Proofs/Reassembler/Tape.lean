import WatchLink.Proofs.Reassembler.Accounting

/-!
# What was offered, as a tape

A tape holds what a stream was offered, octet by octet and in order; a place where input was lost
holds none. Segments lie on a tape when each of them has places of its own there, one octet beside
the next, in the order of the segments. A reassembler follows a tape when what it has cut lies on
the part it has passed and what it holds stands right behind that part: then no segment is put
together across a place where input was lost, because none can lie there.
-/

namespace WatchLink

/-- What a stream was offered, octet by octet, with `none` where input was lost. -/
abbrev Tape := List (Option UInt8)

namespace Tape

def ofBytes (bytes : Bytes) : Tape := bytes.map some

@[simp] theorem ofBytes_nil : ofBytes [] = [] := rfl

@[simp] theorem ofBytes_append (bytes more : Bytes) :
    ofBytes (bytes ++ more) = ofBytes bytes ++ ofBytes more := List.map_append

/-- Each segment has places of its own, one octet beside the next, and in this order. -/
inductive Lies : List Segment → Tape → Prop
  | nil : Lies [] []
  | skip {segments : List Segment} {tape : Tape} (place : Option UInt8) (h : Lies segments tape) :
      Lies segments (place :: tape)
  | segment {segments : List Segment} {tape : Tape} (segment : Segment) (h : Lies segments tape) :
      Lies (segment :: segments) (ofBytes segment.bytes ++ tape)

theorem Lies.none (tape : Tape) : Lies [] tape := by
  induction tape with
  | nil => exact .nil
  | cons place tape ih => exact ih.skip place

theorem Lies.append {segments more : List Segment} {tape next : Tape} (h : Lies segments tape)
    (hmore : Lies more next) : Lies (segments ++ more) (tape ++ next) := by
  induction h with
  | nil => exact hmore
  | skip place _ ih => exact ih.skip place
  | segment segment _ ih =>
      rw [List.append_assoc]
      exact ih.segment segment

/-- What lies on the front of a tape lies on the tape. -/
theorem Lies.front {segments : List Segment} {tape : Tape} (h : Lies segments tape) (next : Tape) :
    Lies segments (tape ++ next) := by
  have happend := h.append (.none next)
  rwa [List.append_nil] at happend

theorem lies_flatMap (segments : List Segment) :
    Lies segments (ofBytes (segments.flatMap Segment.bytes)) := by
  induction segments with
  | nil => exact .nil
  | cons segment segments ih =>
      rw [List.flatMap_cons, ofBytes_append]
      exact ih.segment segment

/-- A segment on the tape is a run of it in which nothing was lost. -/
theorem Lies.isInfix {segments : List Segment} {tape : Tape} (h : Lies segments tape)
    {segment : Segment} (hmem : segment ∈ segments) : ofBytes segment.bytes <:+: tape := by
  induction h with
  | nil => cases hmem
  | skip place _ ih => exact (ih hmem).trans (List.suffix_cons _ _).isInfix
  | segment first _ ih =>
      rcases List.mem_cons.1 hmem with rfl | hrest
      · exact (List.prefix_append _ _).isInfix
      · exact (ih hrest).trans (List.suffix_append _ _).isInfix

end Tape

namespace Reassembler

/-- A reassembler that has cut these segments stands on the tape, with so much of it still ahead:
what it holds is what stands right before that. -/
structure Follows (r : Reassembler) (tape ahead : Tape) (cuts : List Segment) : Prop where
  placed : ∃ past, tape = past ++ (Tape.ofBytes r.buffer ++ ahead) ∧ Tape.Lies cuts past
  dropped : r.dropped = cuts.countP Segment.isBroken
  discarded : r.discarded = Segment.noiseIn cuts

variable {r : Reassembler} {tape ahead : Tape} {cuts : List Segment}

theorem follows_new : Follows {} [] [] [] where
  placed := ⟨[], rfl, .nil⟩
  dropped := rfl
  discarded := rfl

/-- What is cut lies on the tape, whatever is held and ahead. -/
theorem Follows.lies (h : r.Follows tape ahead cuts) : Tape.Lies cuts tape := by
  obtain ⟨past, rfl, hlies⟩ := h.placed
  exact hlies.front _

/-- The tape goes on. -/
theorem Follows.append (h : r.Follows tape ahead cuts) (more : Tape) :
    r.Follows (tape ++ more) (ahead ++ more) cuts where
  placed := by
    obtain ⟨past, rfl, hlies⟩ := h.placed
    exact ⟨past, by simp only [List.append_assoc], hlies⟩
  dropped := h.dropped
  discarded := h.discarded

/-- With what is held given up, any part of the tape may be passed over. -/
theorem Follows.reset {gap : Tape} (h : r.Follows tape (gap ++ ahead) cuts) :
    r.reset.Follows tape ahead cuts where
  placed := by
    obtain ⟨past, rfl, hlies⟩ := h.placed
    refine ⟨past ++ (Tape.ofBytes r.buffer ++ gap), ?_, hlies.front _⟩
    simp only [Reassembler.reset, Tape.ofBytes_nil, List.nil_append, List.append_assoc]
  dropped := h.dropped
  discarded := h.discarded

/-- A read is the next piece of the tape. -/
theorem Follows.push {data : Bytes} (h : r.Follows tape (Tape.ofBytes data ++ ahead) cuts) :
    (r.push data).1.Follows tape ahead (cuts ++ (Segment.cutAll (r.buffer ++ data)).1) where
  placed := by
    obtain ⟨past, rfl, hlies⟩ := h.placed
    refine ⟨_, ?_, hlies.append (Tape.lies_flatMap (Segment.cutAll (r.buffer ++ data)).1)⟩
    have hbytes := congrArg Tape.ofBytes (accounts_push r data).bytes
    simp only [Tape.ofBytes_append] at hbytes
    rw [List.append_assoc, ← List.append_assoc (Tape.ofBytes (List.flatMap _ _)), hbytes,
      List.append_assoc]
  dropped := by rw [(accounts_push r data).dropped, h.dropped, List.countP_append]
  discarded := by rw [(accounts_push r data).discarded, h.discarded, Segment.noiseIn_append]

end Reassembler

end WatchLink
