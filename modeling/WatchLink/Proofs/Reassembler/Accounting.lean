import WatchLink.Proofs.Reassembler.Cutting

/-!
# Every byte is accounted for

Whatever comes in is cut into segments, in order, and what is left is still in the buffer. A segment
is one of three things: a frame that was read, bytes as many as a header declares that are no frame,
or noise, in which no preamble stands whole. The totals of a reassembler count the latter two. What
is in the buffer waits for more: it is too short for a header, or it starts with one that declares
more than is there.
-/

namespace WatchLink

namespace Segment

/-- The bytes of noise in segments. -/
def noiseIn : List Segment → Nat
  | [] => 0
  | segment :: segments => segment.noiseSize + noiseIn segments

/-- What became of a segment. -/
inductive Accounted : Segment → Prop
  | delivered {bytes : Bytes} {frame : Frame} (read : Frame.decode bytes = .ok frame)
      (size : bytes.length = Frame.overhead + frame.payload.length) : Accounted (.frame bytes)
  | dropped {bytes : Bytes} {error : FrameError} (unread : Frame.decode bytes = .error error)
      (start : Frame.preamble <+: bytes) (size : bytes.length = declaredSize bytes) :
      Accounted (.frame bytes)
  | discarded {bytes : Bytes} (free : ¬ Frame.preamble <:+: bytes) : Accounted (.noise bytes)

/-- A buffer at whose front no segment has ended. -/
def Waits (buffer : Bytes) : Prop :=
  buffer.length < Frame.overhead ∨
    Frame.preamble <+: buffer ∧ buffer.length < declaredSize buffer

theorem noiseIn_append (segments more : List Segment) :
    noiseIn (segments ++ more) = noiseIn segments + noiseIn more := by
  induction segments with
  | nil => exact (Nat.zero_add _).symm
  | cons segment segments ih => rw [List.cons_append, noiseIn, noiseIn, ih, Nat.add_assoc]

theorem foldl_noiseSize (segments : List Segment) (size : Nat) :
    segments.foldl (fun size segment => size + segment.noiseSize) size =
      size + noiseIn segments := by
  induction segments generalizing size with
  | nil => rfl
  | cons segment segments ih => rw [List.foldl_cons, ih, noiseIn, Nat.add_assoc]

theorem declaredSize_le (buffer : Bytes) : declaredSize buffer ≤ 65543 := by
  have := (Bytes.word16 (buffer.getD 5 0) (buffer.getD 6 0)).toNat_lt
  rw [declaredSize, Frame.lengthOffset]
  omega

/-- A buffer that waits is bounded by what a header can declare. -/
theorem Waits.length_le {buffer : Bytes} (h : Waits buffer) : buffer.length ≤ 65542 := by
  rcases h with hshort | ⟨-, hdeclared⟩
  · rw [Frame.overhead] at hshort
    omega
  · have := declaredSize_le buffer
    omega

/-- The declared size is read off the first octets alone. -/
theorem declaredSize_take {buffer : Bytes} {size : Nat} (h : Frame.lengthOffset ≤ size) :
    declaredSize (buffer.take size) = declaredSize buffer := by
  rw [Frame.lengthOffset] at h
  have hget {i : Nat} (hi : i < 8) : (buffer.take size).getD i 0 = buffer.getD i 0 := by
    rw [List.getD_eq_getElem?_getD, List.getElem?_take, if_pos (by omega),
      ← List.getD_eq_getElem?_getD]
  rw [declaredSize, hget (by omega), hget (by omega), declaredSize]

/-- Bytes that a frame is read from declare its size. -/
theorem declaredSize_of_decode {bytes : Bytes} {frame : Frame}
    (h : Frame.decode bytes = .ok frame) :
    declaredSize bytes = Frame.overhead + frame.payload.length := by
  obtain ⟨channel, flags, low, high, rest, rfl, hdeclared, -⟩ := Frame.exists_of_decode h
  change (Bytes.word16 low high).toNat + Frame.lengthOffset = _
  rw [hdeclared, Frame.headerCounted, Frame.lengthOffset, Frame.overhead]
  omega

/-! ## Noise -/

theorem beforeCandidate_cons_of_length_lt (b : UInt8) {rest : Bytes} (h : rest.length < 2) :
    beforeCandidate (b :: rest) = beforeCandidate rest + 1 := by
  rcases rest with - | ⟨c, - | ⟨d, rest⟩⟩
  · rfl
  · rfl
  · simp only [List.length_cons] at h
    omega

theorem beforeCandidate_cons_of_le (b : UInt8) {rest : Bytes} (h : 2 ≤ rest.length) :
    beforeCandidate (b :: rest) = if b = 0xBA then 0 else beforeCandidate rest + 1 := by
  rcases rest with - | ⟨c, - | ⟨d, rest⟩⟩
  · cases h
  · simp only [List.length_cons, List.length_nil] at h
    omega
  · rfl

/-- Before the next candidate no preamble stands whole. -/
theorem not_preamble_infix_beforeCandidate (bytes : Bytes) :
    ¬ Frame.preamble <:+: bytes.take (beforeCandidate bytes) := by
  induction bytes with
  | nil => simp [beforeCandidate, Frame.preamble]
  | cons b rest ih =>
      have hcons (hfirst : ¬ Frame.preamble <+: b :: rest.take (beforeCandidate rest)) :
          ¬ Frame.preamble <:+: (b :: rest).take (beforeCandidate rest + 1) := by
        rw [List.take_succ_cons, List.infix_cons_iff]
        exact not_or.2 ⟨hfirst, ih⟩
      -- A first preamble octet ends the noise only when two more octets stand behind it.
      rcases Nat.lt_or_ge rest.length 2 with hshort | hlong
      · rw [beforeCandidate_cons_of_length_lt b hshort]
        refine hcons fun hstarts => ?_
        have hlen := hstarts.length_le
        simp only [Frame.preamble, List.length_cons, List.length_nil, List.length_take] at hlen
        omega
      · rw [beforeCandidate_cons_of_le b hlong]
        split
        · simp [Frame.preamble]
        · rename_i hb
          exact hcons fun hstarts => hb (List.cons_prefix_cons.1 hstarts).1.symm

/-! ## Segments -/

theorem accounted_of_cut? {buffer rest : Bytes} {segment : Segment}
    (h : cut? buffer = some (segment, rest)) : segment.Accounted := by
  have hlen := overhead_le_of_cut? h
  by_cases hpre : buffer.take 3 = Frame.preamble
  · rw [cut?_of_preamble hlen hpre] at h
    split at h
    · cases h
    · rename_i hsize
      cases h
      have hoffset : Frame.lengthOffset ≤ declaredSize buffer := Nat.le_add_left _ _
      have hlength : (buffer.take (declaredSize buffer)).length =
          declaredSize (buffer.take (declaredSize buffer)) := by
        rw [declaredSize_take hoffset, List.length_take]
        omega
      cases hread : Frame.decode (buffer.take (declaredSize buffer)) with
      | ok frame => exact .delivered hread (hlength.trans (declaredSize_of_decode hread))
      | error error =>
          refine .dropped hread ?_ hlength
          rw [← Frame.take_preamble_eq_iff, List.take_take, ← hpre]
          rw [Frame.lengthOffset] at hoffset
          congr 1
  · rw [cut?_of_not_preamble hlen hpre] at h
    cases h
    cases buffer with
    | nil => cases hlen
    | cons b buffer =>
        refine .discarded ?_
        rw [List.tail_cons, List.take_succ_cons, List.infix_cons_iff]
        refine not_or.2 ⟨fun hstarts => hpre ?_, not_preamble_infix_beforeCandidate buffer⟩
        rw [Frame.take_preamble_eq_iff]
        exact hstarts.trans (List.take_succ_cons ▸ List.take_prefix _ (b :: buffer))

theorem waits_of_cut? {buffer : Bytes} (h : cut? buffer = none) : Waits buffer := by
  rcases Nat.lt_or_ge buffer.length Frame.overhead with hshort | hlen
  · exact .inl hshort
  · by_cases hpre : buffer.take 3 = Frame.preamble
    · rw [cut?_of_preamble hlen hpre] at h
      split at h
      · rename_i hdeclared
        exact .inr ⟨(Frame.take_preamble_eq_iff buffer).1 hpre, hdeclared⟩
      · cases h
    · rw [cut?_of_not_preamble hlen hpre] at h
      cases h

/-- The segments of a buffer and what is left are the buffer. -/
theorem cutAll_accounted (buffer : Bytes) :
    (cutAll buffer).1.flatMap bytes ++ (cutAll buffer).2 = buffer ∧
      (∀ segment ∈ (cutAll buffer).1, segment.Accounted) ∧ Waits (cutAll buffer).2 := by
  induction hn : buffer.length using Nat.strongRecOn generalizing buffer with
  | ind n ih =>
      cases hcut : cut? buffer with
      | none =>
          rw [cutAll_of_none hcut]
          exact ⟨rfl, nofun, waits_of_cut? hcut⟩
      | some cut =>
          obtain ⟨segment, rest⟩ := cut
          have hrest := length_lt_of_cut? hcut
          obtain ⟨hbytes, hsegments, hwaits⟩ := ih rest.length (by omega) rest rfl
          rw [cutAll_of_some hcut]
          refine ⟨?_, List.forall_mem_cons.2 ⟨accounted_of_cut? hcut, hsegments⟩, hwaits⟩
          rw [List.flatMap_cons, List.append_assoc, hbytes]
          exact (bytes_append_of_cut? hcut).1

end Segment

namespace Reassembler

/-- From one state to another the input was cut into these segments, and these frames were read. -/
structure Accounts (r t : Reassembler) (input : Bytes) (frames : List Frame)
    (segments : List Segment) : Prop where
  bytes : segments.flatMap Segment.bytes ++ t.buffer = r.buffer ++ input
  frames : segments.filterMap Segment.decoded? = frames
  dropped : t.dropped = r.dropped + segments.countP Segment.isBroken
  discarded : t.discarded = r.discarded + Segment.noiseIn segments
  accounted : ∀ segment ∈ segments, segment.Accounted

theorem Accounts.nothing (r : Reassembler) : Accounts r r [] [] [] where
  bytes := (List.append_nil _).symm
  frames := rfl
  dropped := rfl
  discarded := rfl
  accounted := nofun

theorem Accounts.trans {r t u : Reassembler} {input more : Bytes} {frames later : List Frame}
    {segments last : List Segment} (h : Accounts r t input frames segments)
    (hlast : Accounts t u more later last) :
    Accounts r u (input ++ more) (frames ++ later) (segments ++ last) where
  bytes := by
    rw [List.flatMap_append, List.append_assoc, hlast.bytes, ← List.append_assoc, h.bytes,
      List.append_assoc]
  frames := by rw [List.filterMap_append, h.frames, hlast.frames]
  dropped := by rw [hlast.dropped, h.dropped, List.countP_append, Nat.add_assoc]
  discarded := by rw [hlast.discarded, h.discarded, Segment.noiseIn_append, Nat.add_assoc]
  accounted := List.forall_mem_append.2 ⟨h.accounted, hlast.accounted⟩

theorem accounts_push (r : Reassembler) (data : Bytes) :
    Accounts r (r.push data).1 data (r.push data).2 (Segment.cutAll (r.buffer ++ data)).1 where
  bytes := (Segment.cutAll_accounted _).1
  frames := rfl
  dropped := rfl
  discarded := Segment.foldl_noiseSize _ _
  accounted := (Segment.cutAll_accounted _).2.1

theorem exists_accounts_pushAll (r : Reassembler) (reads : List Bytes) :
    ∃ segments, Accounts r (r.pushAll reads).1 reads.flatten (r.pushAll reads).2 segments := by
  induction reads generalizing r with
  | nil => exact ⟨[], .nothing r⟩
  | cons data reads ih =>
      obtain ⟨segments, haccounts⟩ := ih (r.push data).1
      exact ⟨_, (accounts_push r data).trans haccounts⟩

theorem waits_pushAll {r : Reassembler} (h : Segment.Waits r.buffer) (reads : List Bytes) :
    Segment.Waits (r.pushAll reads).1.buffer := by
  induction reads generalizing r with
  | nil => exact h
  | cons data reads ih => exact ih (Segment.cutAll_accounted _).2.2

/-- Whatever a new reassembler takes in, and in whatever reads, it is the segments that were cut off
and what is in the buffer, in order. The frames are read from the segments, the totals count what
was dropped and discarded, and the buffer waits and stays bounded. -/
theorem pushAll_accounts (reads : List Bytes) :
    ∃ segments : List Segment,
      segments.flatMap Segment.bytes ++ (pushAll {} reads).1.buffer = reads.flatten ∧
      segments.filterMap Segment.decoded? = (pushAll {} reads).2 ∧
      segments.countP Segment.isBroken = (pushAll {} reads).1.dropped ∧
      Segment.noiseIn segments = (pushAll {} reads).1.discarded ∧
      (∀ segment ∈ segments, segment.Accounted) ∧
      Segment.Waits (pushAll {} reads).1.buffer ∧
      (pushAll {} reads).1.buffer.length ≤ 65542 := by
  obtain ⟨segments, haccounts⟩ := exists_accounts_pushAll {} reads
  have hempty : Segment.Waits ({} : Reassembler).buffer := .inl (by decide)
  have hwaits := waits_pushAll hempty reads
  refine ⟨segments, haccounts.bytes, haccounts.frames, ?_, ?_, haccounts.accounted, hwaits,
    hwaits.length_le⟩
  · rw [haccounts.dropped]
    exact (Nat.zero_add _).symm
  · rw [haccounts.discarded]
    exact (Nat.zero_add _).symm

end Reassembler

end WatchLink
