import Mathlib.Data.List.ReduceOption
import WatchLink.Proofs.Frame.Verdicts
import WatchLink.Proofs.Reassembler.Resyncing

/-!
# After corruption

A stale header takes what it declares of the frames that come behind it, and that is never more
than a header can declare. Where it ends the search may stand anywhere inside a frame. Where no
first preamble octet stands inside frames, the rest of that frame is noise up to the next frame, and
from there on every frame is cut where it starts. So whatever the buffer holds, at most so many
octets are lost as one header can declare.

What is read of a frame is what its own header says of it. A frame with more payload than the length
field can declare is written all the same, and then its header says less than there is: it is not
read as itself, but the frames behind it are not lost with it.
-/

namespace WatchLink

namespace Segment

/-- The frames that are read of a buffer. -/
def framesIn (buffer : Bytes) : List Frame := (cutAll buffer).1.filterMap decoded?

/-- Octets under a header that declares no more than is there, and in which no other frame seems to
start. -/
structure Lone (bytes : Bytes) : Prop where
  start : Frame.preamble <+: bytes
  header : Frame.overhead ≤ bytes.length
  declared : declaredSize bytes ≤ bytes.length
  sole : 0xBA ∉ bytes.tail

/-- What is read of a frame's octets by themselves. -/
def read? (bytes : Bytes) : Option Frame := (Frame.decode bytes).toOption

theorem framesIn_of_some {buffer rest : Bytes} {segment : Segment}
    (h : cut? buffer = some (segment, rest)) :
    framesIn buffer = segment.decoded?.toList ++ framesIn rest := by
  rw [framesIn, cutAll_of_some h, List.filterMap_cons]
  cases segment.decoded? <;> rfl

/-! ## Noise -/

theorem mem_of_read? {bytes : Bytes} {frame : Frame} (h : read? bytes = some frame) :
    0xBA ∈ bytes := by
  cases hdecode : Frame.decode bytes with
  | error e =>
      rw [read?, hdecode] at h
      cases h
  | ok read =>
      obtain ⟨_, _, _, _, _, rfl, -⟩ := Frame.exists_of_decode hdecode
      exact List.mem_cons_self

/-- No frame is read where no first preamble octet is. -/
theorem framesIn_eq_nil {buffer : Bytes} (h : 0xBA ∉ buffer) : framesIn buffer = [] := by
  refine List.filterMap_eq_nil_iff.2 fun segment hmem => ?_
  cases segment with
  | noise bytes => rfl
  | frame bytes =>
      refine Option.eq_none_iff_forall_not_mem.2 fun frame hread => h ?_
      have hbytes : 0xBA ∈ (Segment.frame bytes).bytes := mem_of_read? hread
      rw [← (cutAll_accounted buffer).1]
      exact List.mem_append_left _ (List.mem_flatMap.2 ⟨_, hmem, hbytes⟩)

/-- In front of frames, and at the end, octets other than first preamble octets are noise. -/
theorem framesIn_noise_append {noise rest : Bytes} (hfree : 0xBA ∉ noise)
    (hrest : rest = [] ∨ Frame.preamble <+: rest ∧ Frame.overhead ≤ rest.length) :
    framesIn (noise ++ rest) = framesIn rest := by
  rcases hrest with rfl | ⟨hstart, hheader⟩
  · rw [List.append_nil, framesIn_eq_nil hfree]
    rfl
  · have hpreamble : ¬ Frame.preamble <:+: noise :=
      fun hwhole => hfree (hwhole.subset List.mem_cons_self)
    obtain ⟨cuts, -, hcuts⟩ := cutAll_noise_append noise hpreamble hstart hheader
    rw [framesIn, hcuts, List.filterMap_append, filterMap_decoded?_map_noise]
    rfl

/-! ## Frames behind each other -/

variable {bytes : Bytes} {frames : List Bytes}

/-- Of a frame as long as its header says the same is read as of all its octets. -/
theorem Lone.read?_take (h : Lone bytes) :
    read? (bytes.take (declaredSize bytes)) = read? bytes := by
  have hsize : declaredSize bytes = Frame.declared bytes + Frame.lengthOffset := rfl
  have hlength : (bytes.take (declaredSize bytes)).length = declaredSize bytes :=
    List.length_take_of_le h.declared
  have hsplit (hread : Frame.decode (bytes.take (declaredSize bytes)) ≠ .error .incomplete) :=
    Frame.decode_append_of_ne hread (bytes.drop (declaredSize bytes))
  rw [List.take_append_drop] at hsplit
  rw [read?, read?]
  by_cases hread : Frame.decode (bytes.take (declaredSize bytes)) = .error .incomplete
  · -- Then the header declares less than itself, and that is no header of a frame.
    have hshort : declaredSize bytes < Frame.overhead := by
      rcases (Frame.decode_eq_incomplete_iff _).1 hread with hshort | ⟨-, hmore⟩
      · rwa [hlength] at hshort
      · have hsame : declaredSize (bytes.take (declaredSize bytes)) = declaredSize bytes :=
          declaredSize_take (Nat.le_add_left _ _)
        rw [hlength] at hmore
        exact absurd hmore (Nat.not_lt_of_le (Nat.le_of_eq hsame))
    have hheaded : ¬ Frame.Headed bytes := by
      rintro ⟨-, hcounted⟩
      rw [hsize, Frame.overhead, Frame.lengthOffset] at hshort
      rw [Frame.headerCounted] at hcounted
      omega
    rw [hread, Frame.decode_of_overhead_le h.header, if_neg hheaded]
    rfl
  · rw [hsplit hread]

theorem flatten_cases (h : ∀ bytes ∈ frames, Lone bytes) :
    frames.flatten = [] ∨
      Frame.preamble <+: frames.flatten ∧ Frame.overhead ≤ frames.flatten.length := by
  cases frames with
  | nil => exact .inl rfl
  | cons bytes frames =>
      have hfirst := h bytes List.mem_cons_self
      have hfront : bytes <+: (bytes :: frames).flatten := List.prefix_append _ _
      exact .inr ⟨hfirst.start.trans hfront, Nat.le_trans hfirst.header hfront.length_le⟩

/-- A frame is cut off where it starts, and what its header left of it is noise. -/
theorem framesIn_cons (hbytes : Lone bytes) (h : ∀ bytes ∈ frames, Lone bytes) :
    framesIn (bytes ++ frames.flatten) = (read? bytes).toList ++ framesIn frames.flatten := by
  have hlength : Frame.overhead ≤ (bytes ++ frames.flatten).length := by
    rw [List.length_append]
    exact Nat.le_add_right_of_le hbytes.header
  have hstart : (bytes ++ frames.flatten).take 3 = Frame.preamble :=
    (Frame.take_preamble_eq_iff _).2 (hbytes.start.trans (List.prefix_append _ _))
  have hcut := cut?_of_preamble hlength hstart
  have hdeclared : ¬ (bytes ++ frames.flatten).length < declaredSize bytes := by
    rw [List.length_append]
    exact Nat.not_lt_of_le (Nat.le_add_right_of_le hbytes.declared)
  rw [declaredSize_append hbytes.header, if_neg hdeclared,
    List.take_append_of_le_length hbytes.declared,
    List.drop_append_of_le_length hbytes.declared] at hcut
  have hrest : 0xBA ∉ bytes.drop (declaredSize bytes) := by
    obtain ⟨n, hn⟩ : ∃ n, declaredSize bytes = n + 1 := ⟨_, rfl⟩
    rw [hn, ← List.drop_tail]
    exact fun hmem => hbytes.sole (List.mem_of_mem_drop hmem)
  rw [framesIn_of_some hcut, framesIn_noise_append hrest (flatten_cases h)]
  exact congrArg (fun read : Option Frame => read.toList ++ _) hbytes.read?_take

/-- From the start of a frame on, of every frame is read what it says by itself. -/
theorem framesIn_flatten (h : ∀ bytes ∈ frames, Lone bytes) :
    framesIn frames.flatten = frames.filterMap read? := by
  induction frames with
  | nil => rfl
  | cons bytes frames ih =>
      obtain ⟨hbytes, hframes⟩ := List.forall_mem_cons.1 h
      rw [List.flatten_cons, framesIn_cons hbytes hframes, ih hframes, List.filterMap_cons]
      cases read? bytes <;> rfl

/-! ## From anywhere -/

variable {before late : List Bytes}

/-- From anywhere in the frames on, all that start behind are read. -/
theorem framesIn_drop (h : ∀ bytes ∈ before ++ late, Lone bytes) {place : Nat}
    (hplace : place ≤ before.flatten.length) :
    ∃ earlier, framesIn ((before ++ late).flatten.drop place) =
      earlier ++ late.filterMap read? := by
  induction before generalizing place with
  | nil =>
      obtain rfl : place = 0 := Nat.le_zero.1 hplace
      exact ⟨[], framesIn_flatten h⟩
  | cons bytes before ih =>
      obtain ⟨hbytes, hrest⟩ : Lone bytes ∧ ∀ bytes ∈ before ++ late, Lone bytes :=
        List.forall_mem_cons.1 h
      rw [List.flatten_cons, List.length_append] at hplace
      rw [List.cons_append, List.flatten_cons]
      rcases Nat.lt_or_ge bytes.length place with hbehind | hwithin
      · rw [List.drop_append, List.drop_of_length_le (Nat.le_of_lt hbehind), List.nil_append]
        exact ih hrest (by omega)
      · have hread := framesIn_flatten hrest
        rw [List.filterMap_append] at hread
        rw [List.drop_append_of_le_length hwithin]
        cases place with
        | zero =>
            rw [List.drop_zero, framesIn_cons hbytes hrest, hread, ← List.append_assoc]
            exact ⟨_, rfl⟩
        | succ place =>
            have htail : 0xBA ∉ bytes.drop (place + 1) := by
              rw [← List.drop_tail]
              exact fun hmem => hbytes.sole (List.mem_of_mem_drop hmem)
            rw [framesIn_noise_append htail (flatten_cases hrest), hread]
            exact ⟨_, rfl⟩

/-- A cut that starts in the buffer ends in it, or no further behind it than a header declares. -/
theorem exists_cut?_append {buffer rest : Bytes} (hne : buffer ≠ [])
    (hstart : Frame.preamble <+: rest) (hfar : 65543 ≤ rest.length) :
    ∃ segment size, cut? (buffer ++ rest) = some (segment, (buffer ++ rest).drop size) ∧
      0 < size ∧ size ≤ buffer.length + 65542 := by
  have hpos := List.length_pos_iff.2 hne
  have hlength : Frame.overhead ≤ (buffer ++ rest).length := by
    rw [List.length_append, Frame.overhead]
    omega
  by_cases hheader : (buffer ++ rest).take 3 = Frame.preamble
  · have hdeclared := declaredSize_le (buffer ++ rest)
    have hcut := cut?_of_preamble hlength hheader
    rw [if_neg (by rw [List.length_append]; omega)] at hcut
    exact ⟨_, _, hcut, Nat.succ_pos _, by omega⟩
  · refine ⟨_, _, cut?_of_not_preamble hlength hheader, Nat.succ_pos _, ?_⟩
    have hnoise := beforeCandidate_append_le buffer.tail hstart
    rw [List.length_tail] at hnoise
    rw [List.tail_append_of_ne_nil hne]
    omega

/-- Whatever stands in front of the frames, all that start so far behind as one header can declare
are read. -/
theorem framesIn_append (buffer : Bytes) (h : ∀ bytes ∈ before ++ late, Lone bytes)
    (hfar : 65543 ≤ before.flatten.length) :
    ∃ earlier, framesIn (buffer ++ (before ++ late).flatten) =
      earlier ++ late.filterMap read? := by
  have hlong : 65543 ≤ (before ++ late).flatten.length := by
    rw [List.flatten_append, List.length_append]
    omega
  have hstart : Frame.preamble <+: (before ++ late).flatten := by
    rcases flatten_cases h with hnone | ⟨hstart, -⟩
    · rw [hnone] at hlong
      cases hlong
    · exact hstart
  -- On the length of the buffer: every cut takes some of it, until one ends in the frames.
  induction hn : buffer.length using Nat.strongRecOn generalizing buffer with
  | ind n ih =>
      by_cases hne : buffer = []
      · subst hne
        exact framesIn_drop h (Nat.zero_le _)
      · obtain ⟨segment, size, hcut, hpos, hsize⟩ := exists_cut?_append hne hstart hlong
        have hrest : ∃ earlier, framesIn ((buffer ++ (before ++ late).flatten).drop size) =
            earlier ++ late.filterMap read? := by
          rcases Nat.lt_or_ge buffer.length size with hbehind | hwithin
          · rw [List.drop_append, List.drop_of_length_le (Nat.le_of_lt hbehind), List.nil_append]
            exact framesIn_drop h (by omega)
          · have hshorter : (buffer.drop size).length < n := by
              have := List.length_pos_iff.2 hne
              rw [List.length_drop]
              omega
            rw [List.drop_append_of_le_length hwithin]
            exact ih _ hshorter _ rfl
        obtain ⟨earlier, hearlier⟩ := hrest
        rw [framesIn_of_some hcut, hearlier, ← List.append_assoc]
        exact ⟨_, rfl⟩

end Segment

namespace Reassembler

/-- What was written of a frame, in which the first preamble octet stands at the start only. -/
structure Sent where
  frame : Frame
  cipher : PacketCipher
  counter : UInt16
  octets : Bytes
  next : UInt16
  written : frame.encode cipher counter = (next, .ok octets)
  sole : 0xBA ∉ octets.tail

namespace Sent

/-- The frame alone, where its header has room to declare it. -/
def stretch (s : Sent) (room : s.octets.length ≤ Frame.overhead + Frame.maxPayload) : Stretch where
  noise := []
  sent := s.frame
  cipher := s.cipher
  counter := s.counter
  octets := s.octets
  next := s.next
  free := by simp [Frame.preamble]
  written := s.written
  room := room

/-- What the reading end may make of a frame: the frame itself if its header has room for it, and
otherwise what its header says. -/
inductive Returned (s : Sent) : Option Frame → Prop
  | whole {frame : Frame} (room : s.octets.length ≤ Frame.overhead + Frame.maxPayload)
      (read : (s.stretch room).ReadAs frame) : Returned s (some frame)
  | oversized (excess : Frame.overhead + Frame.maxPayload < s.octets.length) :
      Returned s (Segment.read? s.octets)

/-- Of what was sent, the frames whose first octet stands at a place or behind it. -/
def startingFrom : Nat → List Sent → List Sent
  | 0, sent => sent
  | _ + 1, [] => []
  | place + 1, s :: sent => startingFrom (place + 1 - s.octets.length) sent

theorem lone (s : Sent) : Segment.Lone s.octets := by
  obtain ⟨wire, -, hoctets⟩ := Frame.carries_of_encode s.written
  obtain ⟨first, tail, -, hcons⟩ := Frame.octets_append_eq_cons { s.frame with payload := wire } []
  rw [List.append_nil, ← hoctets] at hcons
  have hlength : s.octets.length = Frame.overhead + wire.length := by
    rw [hoctets, Frame.length_octets]
  have hdeclared : Segment.declaredSize s.octets =
      (UInt16.ofNat (wire.length + Frame.headerCounted)).toNat + Frame.lengthOffset := by
    rw [hcons]
    simp only [Segment.declaredSize, List.getD_cons_succ, List.getD_cons_zero, Bytes.word16_le16]
  refine ⟨?_, ?_, ?_, s.sole⟩
  · rw [← Frame.take_preamble_eq_iff, hcons]
    rfl
  · rw [hlength]
    exact Nat.le_add_right _ _
  · -- The length field keeps sixteen bits, so it says no more than there is.
    have hfield := Nat.mod_le (wire.length + Frame.headerCounted) UInt16.size
    rw [hdeclared, hlength, UInt16.toNat_ofNat', Frame.lengthOffset, Frame.overhead]
    rw [Frame.headerCounted] at hfield ⊢
    change _ % UInt16.size + 8 ≤ _
    omega

theorem returned (s : Sent) : s.Returned (Segment.read? s.octets) := by
  rcases Nat.lt_or_ge (Frame.overhead + Frame.maxPayload) s.octets.length with hover | hroom
  · exact .oversized hover
  · obtain ⟨frame, -, -, hread⟩ := (s.stretch hroom).exists_readAs
    have hdecoded : Frame.decode s.octets = .ok frame.received := hread.decoded
    have hsome : Segment.read? s.octets = some frame.received := by
      rw [Segment.read?, hdecoded]
      rfl
    rw [hsome]
    exact .whole hroom hread

theorem startingFrom_eq (place : Nat) (sent : List Sent) :
    startingFrom place sent = [] ∨
      ∃ before, sent = before ++ startingFrom place sent ∧
        place ≤ (before.map octets).flatten.length := by
  induction sent generalizing place with
  | nil => cases place <;> exact .inl rfl
  | cons s sent ih =>
      cases place with
      | zero => exact .inr ⟨[], rfl, Nat.zero_le _⟩
      | succ place =>
          refine (ih (place + 1 - s.octets.length)).imp id ?_
          rintro ⟨before, hsent, hfar⟩
          refine ⟨s :: before, congrArg (s :: ·) hsent, ?_⟩
          rw [List.map_cons, List.flatten_cons, List.length_append]
          omega

end Sent

/-- With nothing in the buffer of every frame is read what it says by itself. -/
theorem frames_push_sent (discarded dropped : Nat) (sent : List Sent) :
    (push { buffer := [], discarded, dropped } (sent.flatMap Sent.octets)).2 =
      sent.filterMap fun s => Segment.read? s.octets := by
  have hlone : ∀ bytes ∈ sent.map Sent.octets, Segment.Lone bytes :=
    List.forall_mem_map.2 fun s _ => s.lone
  have hread := Segment.framesIn_flatten hlone
  rwa [List.filterMap_map] at hread

/-- Whatever the buffer holds, one read of frames in which the first preamble octet stands at the
start only returns, as its last frames and in order, every frame that starts behind what one header
can declare. Only a frame that is too long for its own header is not returned as itself, and it
takes no other with it. -/
theorem push_recovers (r : Reassembler) (sent : List Sent) :
    ∃ earlier outcomes, List.Forall₂ Sent.Returned (Sent.startingFrom 65543 sent) outcomes ∧
      (r.push (sent.flatMap Sent.octets)).2 = earlier ++ outcomes.reduceOption := by
  have hreturned : List.Forall₂ Sent.Returned (Sent.startingFrom 65543 sent)
      ((Sent.startingFrom 65543 sent).map fun s => Segment.read? s.octets) :=
    List.forall₂_map_right_iff.2 (List.forall₂_same.2 fun s _ => s.returned)
  rcases Sent.startingFrom_eq 65543 sent with hnone | ⟨before, hsent, hfar⟩
  · rw [hnone] at hreturned ⊢
    exact ⟨_, _, .nil, (List.append_nil _).symm⟩
  · refine (?_ : ∃ earlier, _).imp fun earlier hread => ⟨_, hreturned, hread⟩
    have hlone : ∀ bytes ∈ before.map Sent.octets ++
        (Sent.startingFrom 65543 sent).map Sent.octets, Segment.Lone bytes := by
      rw [← List.map_append]
      exact List.forall_mem_map.2 fun s _ => s.lone
    have hread := Segment.framesIn_append r.buffer hlone hfar
    rw [← List.map_append, ← hsent, List.filterMap_map] at hread
    rwa [List.reduceOption, List.filterMap_map, List.flatMap]

/-! ## As long as a header can declare -/

/-- A frame that carries so many zeros. -/
def zeros (size : Nat) : Frame where
  channel := .fitness
  flag := true
  needsResponse := false
  opcode := 2
  serial := 0
  dataType := .plain
  payload := List.replicate size 0

/-- So many zeros as they are sent, where the length field has no first preamble octet. -/
def sentZeros (size : Nat) (field : 0xBA ∉ Bytes.le16 (UInt16.ofNat (size + 3))) : Sent where
  frame := zeros size
  cipher := .refusing
  counter := 0
  octets := (zeros size).octets
  next := 0
  written := rfl
  sole := by
    have hchannel : Channel.fitness.id &&& 0x0F = 3 := by decide
    simpa [zeros, Frame.octets, Frame.layout, Frame.preamble, Frame.headerCounted, Frame.flags,
      Frame.flagBit, DataType.id, Frame.epilogue, hchannel] using field

theorem length_zeros (size : Nat) : (zeros size).payload.length = size := List.length_replicate

theorem zeros_injective {m n : Nat} (h : zeros m = zeros n) : m = n := by
  have hlength := congrArg (fun frame => frame.payload.length) h
  rwa [length_zeros, length_zeros] at hlength

theorem length_sentZeros {size : Nat} {field} : (sentZeros size field).octets.length = 11 + size :=
  (Frame.length_octets _).trans (congrArg _ (length_zeros size))

theorem named_zeros (size : Nat) : (zeros size).Named := ⟨⟨3, by decide, rfl⟩, ⟨0, rfl⟩⟩

theorem decode_sentZeros {size : Nat} {field} (h : size ≤ Frame.maxPayload) :
    Frame.decode (sentZeros size field).octets = .ok (zeros size) := by
  have hread := Frame.decode_octets (zeros size) (by rwa [length_zeros])
  rwa [(named_zeros size).received_eq] at hread

/-- Zeros whose length field says nothing are not read. -/
theorem decode_sentZeros_of_field {size : Nat} {field} (h : UInt16.ofNat (size + 3) = 0) :
    Frame.decode (sentZeros size field).octets = .error .malformed := by
  have hdeclared : Frame.declared (sentZeros size field).octets = 0 := by
    obtain ⟨first, tail, -, hoctets⟩ := Frame.octets_append_eq_cons (zeros size) []
    rw [List.append_nil, length_zeros, Frame.headerCounted, h] at hoctets
    change Frame.declared (zeros size).octets = 0
    rw [hoctets]
    rfl
  have hheaded : ¬ Frame.Headed (sentZeros size field).octets := by
    rintro ⟨-, hcounted⟩
    rw [hdeclared] at hcounted
    cases hcounted
  rw [Frame.decode_of_overhead_le (sentZeros size field).lone.header, if_neg hheaded]

/-- The most zeros that a header can declare, and one more. -/
def fittingZeros : Sent := sentZeros 65532 (by decide)

def excessZeros : Sent := sentZeros 65533 (by decide)

theorem read?_fittingZeros : Segment.read? fittingZeros.octets = some (zeros 65532) := by
  rw [Segment.read?, fittingZeros, decode_sentZeros (by decide)]
  rfl

theorem read?_excessZeros : Segment.read? excessZeros.octets = none := by
  rw [Segment.read?, excessZeros, decode_sentZeros_of_field rfl]
  rfl

/-- What comes behind so many zeros is far enough from whatever was read before. -/
theorem startingFrom_fittingZeros (s : Sent) :
    Sent.startingFrom 65543 [fittingZeros, s] = [s] := by
  rw [Sent.startingFrom, fittingZeros, length_sentZeros, Sent.startingFrom]

/-- A stale header that declares as much as a header can. -/
def staleReader : Reassembler := { buffer := [0xBA, 0xDC, 0xFE, 0x03, 0x00, 0xFF, 0xFF] }

theorem push_recovers_stale :
    ∃ earlier, (staleReader.push ([fittingZeros, fittingZeros].flatMap Sent.octets)).2 =
      earlier ++ [zeros 65532] := by
  obtain ⟨earlier, outcomes, hreturned, hpush⟩ :=
    push_recovers staleReader [fittingZeros, fittingZeros]
  rw [startingFrom_fittingZeros] at hreturned
  cases hreturned with
  | cons hfirst hrest =>
      cases hrest
      cases hfirst with
      | whole room hread =>
          have hsame : Segment.read? fittingZeros.octets = some _ :=
            congrArg Except.toOption hread.decoded
          rw [read?_fittingZeros] at hsame
          cases hsame
          exact ⟨earlier, hpush⟩
      | oversized excess =>
          rw [fittingZeros, length_sentZeros] at excess
          exact absurd excess (by decide)

/-- A frame with one octet more than its header can declare is not returned, late as it starts. -/
theorem push_oversized :
    Sent.startingFrom 65543 [fittingZeros, excessZeros] = [excessZeros] ∧
      (push {} ([fittingZeros, excessZeros].flatMap Sent.octets)).2 = [zeros 65532] ∧
      excessZeros.frame ≠ zeros 65532 := by
  refine ⟨startingFrom_fittingZeros excessZeros, ?_, fun hsame => ?_⟩
  · have hexcess : [excessZeros].filterMap (fun s => Segment.read? s.octets) = [] :=
      List.filterMap_cons_none read?_excessZeros
    have hboth := List.filterMap_cons_some (f := fun s : Sent => Segment.read? s.octets)
      (l := [excessZeros]) read?_fittingZeros
    rw [frames_push_sent, hboth, hexcess]
  · exact absurd (zeros_injective hsame) (by decide)

end Reassembler

end WatchLink
