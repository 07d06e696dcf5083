import WatchLink.Reassembler
import WatchLink.Proofs.Frame.Reading

/-!
# Cutting a buffer

What `cut?` does depends on the first octets only: too few of them and nothing is cut, a preamble
and the declared size is cut, anything else and the noise in front goes. From these three readings
follow the two facts that everything about reads rests on. A segment is cut off the front of the
buffer and is not empty, so `cutAll` is a recursion on what is left. And a frame that is complete
stays so when more octets arrive behind it, while noise stays noise; so as long as the whole of the
input has no noise, it does not matter in which pieces it comes.
-/

namespace WatchLink

namespace Segment

/-- How long the frame at the front of the buffer is, by its header. -/
def declaredSize (buffer : Bytes) : Nat :=
  (Bytes.word16 (buffer.getD 5 0) (buffer.getD 6 0)).toNat + Frame.lengthOffset

theorem cut?_of_length_lt {buffer : Bytes} (h : buffer.length < Frame.overhead) :
    cut? buffer = none := by
  unfold cut?
  split
  · simp only [Frame.overhead, List.length_cons] at h
    omega
  · rfl

/-- Behind a preamble the declared size is cut, once it is there. -/
theorem cut?_of_preamble {buffer : Bytes} (hlen : Frame.overhead ≤ buffer.length)
    (hpre : buffer.take 3 = Frame.preamble) :
    cut? buffer =
      if buffer.length < declaredSize buffer then none
      else some (.frame (buffer.take (declaredSize buffer)),
        buffer.drop (declaredSize buffer)) := by
  obtain ⟨p0, p1, p2, c, f, l, u, o, s, d, x, rest, rfl⟩ := Frame.exists_eq_cons hlen
  have hp : [p0, p1, p2] = Frame.preamble := hpre
  have hsize : declaredSize (p0 :: p1 :: p2 :: c :: f :: l :: u :: o :: s :: d :: x :: rest) =
      (Bytes.word16 l u).toNat + Frame.lengthOffset := rfl
  rw [hsize]
  simp only [cut?, hp, if_true, List.length_take]
  by_cases hshort : (p0 :: p1 :: p2 :: c :: f :: l :: u :: o :: s :: d :: x :: rest).length <
      (Bytes.word16 l u).toNat + Frame.lengthOffset
  · rw [if_pos (by omega), if_pos hshort]
  · rw [if_neg (by omega), if_neg hshort]

/-- Without a preamble the octets before the next candidate are cut. -/
theorem cut?_of_not_preamble {buffer : Bytes} (hlen : Frame.overhead ≤ buffer.length)
    (hpre : buffer.take 3 ≠ Frame.preamble) :
    cut? buffer =
      some (.noise (buffer.take (beforeCandidate buffer.tail + 1)),
        buffer.drop (beforeCandidate buffer.tail + 1)) := by
  obtain ⟨p0, p1, p2, c, f, l, u, o, s, d, x, rest, rfl⟩ := Frame.exists_eq_cons hlen
  have hp : [p0, p1, p2] ≠ Frame.preamble := hpre
  simp only [cut?, hp, if_false, List.tail_cons]

theorem overhead_le_of_cut? {buffer : Bytes} {cut : Segment × Bytes}
    (h : cut? buffer = some cut) : Frame.overhead ≤ buffer.length := by
  rcases Nat.lt_or_ge buffer.length Frame.overhead with hlt | hge
  · rw [cut?_of_length_lt hlt] at h
    cases h
  · exact hge

/-- A segment is not empty, and with what is left it is the buffer. -/
theorem bytes_append_of_cut? {buffer rest : Bytes} {segment : Segment}
    (h : cut? buffer = some (segment, rest)) :
    segment.bytes ++ rest = buffer ∧ segment.bytes ≠ [] := by
  have hlen := overhead_le_of_cut? h
  have hne : ∀ n, buffer.take (n + 1) ≠ [] := by
    intro n hnil
    have := congrArg List.length hnil
    rw [List.length_take, List.length_nil, Frame.overhead] at *
    omega
  by_cases hpre : buffer.take 3 = Frame.preamble
  · rw [cut?_of_preamble hlen hpre] at h
    split at h
    · cases h
    · cases h
      exact ⟨List.take_append_drop _ _, hne _⟩
  · rw [cut?_of_not_preamble hlen hpre] at h
    cases h
    exact ⟨List.take_append_drop _ _, hne _⟩

theorem length_lt_of_cut? {buffer rest : Bytes} {segment : Segment}
    (h : cut? buffer = some (segment, rest)) : rest.length < buffer.length := by
  obtain ⟨rfl, hne⟩ := bytes_append_of_cut? h
  have := List.length_pos_iff.2 hne
  rw [List.length_append]
  omega

/-! ## More octets behind the buffer -/

theorem take_append_of_overhead_le {a b : Bytes} (h : Frame.overhead ≤ a.length) :
    (a ++ b).take 3 = a.take 3 :=
  List.take_append_of_le_length (by rw [Frame.overhead] at h; omega)

theorem declaredSize_append {a b : Bytes} (h : Frame.overhead ≤ a.length) :
    declaredSize (a ++ b) = declaredSize a := by
  obtain ⟨p0, p1, p2, c, f, l, u, o, s, d, x, rest, rfl⟩ := Frame.exists_eq_cons h
  rfl

/-- A frame that is complete stays the same. -/
theorem cut?_append_of_frame {a b rest bytes : Bytes} (h : cut? a = some (.frame bytes, rest)) :
    cut? (a ++ b) = some (.frame bytes, rest ++ b) := by
  have hlen := overhead_le_of_cut? h
  have hlen' : Frame.overhead ≤ (a ++ b).length := by
    rw [List.length_append]
    omega
  by_cases hpre : a.take 3 = Frame.preamble
  · rw [cut?_of_preamble hlen hpre] at h
    split at h
    · cases h
    · rename_i hsize
      cases h
      rw [cut?_of_preamble hlen' (by rw [take_append_of_overhead_le hlen, hpre]),
        declaredSize_append hlen, if_neg (by rw [List.length_append]; omega),
        List.take_append_of_le_length (by omega), List.drop_append_of_le_length (by omega)]
  · rw [cut?_of_not_preamble hlen hpre] at h
    cases h

/-- Noise stays noise, perhaps more of it. -/
theorem cut?_append_of_noise {a b rest bytes : Bytes} (h : cut? a = some (.noise bytes, rest)) :
    ∃ bytes' rest', cut? (a ++ b) = some (.noise bytes', rest') := by
  have hlen := overhead_le_of_cut? h
  by_cases hpre : a.take 3 = Frame.preamble
  · rw [cut?_of_preamble hlen hpre] at h
    split at h <;> cases h
  · refine ⟨_, _, cut?_of_not_preamble ?_ ?_⟩
    · rw [List.length_append]
      omega
    · rwa [take_append_of_overhead_le hlen]

/-! ## Everything at the front of the buffer -/

/-- Segments cut before stand in front, and the bound on their number does not matter. -/
theorem cutAll_go (k : Nat) (buffer : Bytes) (segments : List Segment) (h : buffer.length ≤ k) :
    cutAll.go k buffer segments =
      (segments.reverse ++ (cutAll buffer).1, (cutAll buffer).2) := by
  -- On the bound: a smaller one is enough for what a cut leaves.
  induction k using Nat.strongRecOn generalizing buffer segments with
  | ind k ih =>
      cases hcut : cut? buffer with
      | none =>
          have hgo : ∀ n segments, cutAll.go n buffer segments = (segments.reverse, buffer) := by
            intro n segments
            cases n with
            | zero => rfl
            | succ n => rw [cutAll.go, hcut]
          rw [cutAll, hgo, hgo, List.reverse_nil, List.append_nil]
      | some cut =>
          obtain ⟨segment, rest⟩ := cut
          have hrest := length_lt_of_cut? hcut
          obtain ⟨k, rfl⟩ : ∃ j, k = j + 1 := ⟨k - 1, by omega⟩
          obtain ⟨m, hm⟩ : ∃ j, buffer.length = j + 1 := ⟨buffer.length - 1, by omega⟩
          rw [cutAll, hm, cutAll.go, cutAll.go, hcut]
          simp only
          rw [ih k (by omega) rest _ (by omega), ih m (by omega) rest _ (by omega)]
          simp

theorem cutAll_of_none {buffer : Bytes} (h : cut? buffer = none) :
    cutAll buffer = ([], buffer) := by
  rw [cutAll]
  cases buffer with
  | nil => rfl
  | cons b buffer => rw [List.length_cons, cutAll.go, h, List.reverse_nil]

theorem cutAll_of_some {buffer rest : Bytes} {segment : Segment}
    (h : cut? buffer = some (segment, rest)) :
    cutAll buffer = (segment :: (cutAll rest).1, (cutAll rest).2) := by
  have hrest := length_lt_of_cut? h
  obtain ⟨m, hm⟩ : ∃ j, buffer.length = j + 1 := ⟨buffer.length - 1, by omega⟩
  rw [cutAll, hm, cutAll.go, h]
  simp only
  rw [cutAll_go m rest _ (by omega)]
  rfl

/-- While there is no noise, octets that come behind change nothing of what was cut before. -/
theorem cutAll_append {a b : Bytes} (h : ∀ bytes, .noise bytes ∉ (cutAll (a ++ b)).1) :
    cutAll (a ++ b) =
      ((cutAll a).1 ++ (cutAll ((cutAll a).2 ++ b)).1, (cutAll ((cutAll a).2 ++ b)).2) := by
  induction hn : a.length using Nat.strongRecOn generalizing a with
  | ind n ih =>
      cases hcut : cut? a with
      | none =>
          rw [cutAll_of_none hcut]
          rfl
      | some cut =>
          obtain ⟨segment, rest⟩ := cut
          have hrest := length_lt_of_cut? hcut
          cases segment with
          | noise bytes =>
              obtain ⟨bytes', rest', hcut'⟩ := cut?_append_of_noise (b := b) hcut
              rw [cutAll_of_some hcut'] at h
              exact absurd List.mem_cons_self (h bytes')
          | frame bytes =>
              rw [cutAll_of_some (cut?_append_of_frame hcut)] at h ⊢
              have htail : ∀ bytes, .noise bytes ∉ (cutAll (rest ++ b)).1 :=
                fun bytes hmem => h bytes (List.mem_cons_of_mem _ hmem)
              rw [cutAll_of_some hcut, ih rest.length (by omega) htail rfl]
              rfl

/-! ## Whole frames -/

theorem cut?_octets_append (frame : Frame) (rest : Bytes)
    (h : frame.payload.length ≤ Frame.maxPayload) :
    cut? (frame.octets ++ rest) = some (.frame frame.octets, rest) := by
  obtain ⟨first, tail, -, hoctets⟩ := Frame.octets_append_eq_cons frame rest
  have hlen : Frame.overhead ≤ (frame.octets ++ rest).length := by
    rw [List.length_append, Frame.length_octets]
    omega
  have hpre : (frame.octets ++ rest).take 3 = Frame.preamble := by
    rw [hoctets]
    rfl
  have hsize : declaredSize (frame.octets ++ rest) = frame.octets.length := by
    rw [hoctets, Frame.length_octets]
    simp only [declaredSize, List.getD_cons_succ, List.getD_cons_zero, Bytes.word16_le16]
    rw [Frame.toNat_declared h, Frame.headerCounted, Frame.lengthOffset, Frame.overhead]
    omega
  rw [cut?_of_preamble hlen hpre, hsize,
    if_neg (by rw [List.length_append]; omega), List.take_left, List.drop_left]

/-- The octets of frames are as many segments, and nothing is left. -/
theorem cutAll_flatMap_octets (frames : List Frame)
    (h : ∀ frame ∈ frames, frame.payload.length ≤ Frame.maxPayload) :
    cutAll (frames.flatMap Frame.octets) =
      (frames.map fun frame => .frame frame.octets, []) := by
  induction frames with
  | nil => rfl
  | cons frame frames ih =>
      obtain ⟨hframe, hframes⟩ := List.forall_mem_cons.1 h
      rw [List.flatMap_cons, cutAll_of_some (cut?_octets_append frame _ hframe), ih hframes]
      rfl

theorem filterMap_decoded?_octets (frames : List Frame)
    (h : ∀ frame ∈ frames, frame.payload.length ≤ Frame.maxPayload) :
    (frames.map fun frame => Segment.frame frame.octets).filterMap decoded? =
      frames.map Frame.received := by
  induction frames with
  | nil => rfl
  | cons frame frames ih =>
      obtain ⟨hframe, hframes⟩ := List.forall_mem_cons.1 h
      have hread : (Segment.frame frame.octets).decoded? = some frame.received := by
        rw [decoded?, Frame.decode_octets frame hframe]
        rfl
      rw [List.map_cons, List.filterMap_cons_some hread, ih hframes, List.map_cons]

end Segment

namespace Reassembler

/-- Take in one read after the other; the frames they complete, in order. -/
def pushAll : Reassembler → List Bytes → Reassembler × List Frame
  | r, [] => (r, [])
  | r, data :: reads =>
    let (next, frames) := r.push data
    let (last, more) := pushAll next reads
    (last, frames ++ more)

theorem pushAll_cons (r : Reassembler) (data : Bytes) (reads : List Bytes) :
    r.pushAll (data :: reads) =
      (((r.push data).1.pushAll reads).1, (r.push data).2 ++ ((r.push data).1.pushAll reads).2) :=
  rfl

/-- A read of noise-free input may be cut in two. -/
theorem push_append (r : Reassembler) (a b : Bytes)
    (h : ∀ bytes, .noise bytes ∉ (Segment.cutAll (r.buffer ++ (a ++ b))).1) :
    r.push (a ++ b) =
      (((r.push a).1.push b).1, (r.push a).2 ++ ((r.push a).1.push b).2) := by
  rw [← List.append_assoc] at h
  simp only [push]
  rw [← List.append_assoc, Segment.cutAll_append h]
  simp only [List.foldl_append, List.countP_append, List.filterMap_append, Nat.add_assoc]

theorem buffer_push (r : Reassembler) (data : Bytes) :
    (r.push data).1.buffer = (Segment.cutAll (r.buffer ++ data)).2 := rfl

/-- Input without noise may be cut into reads anywhere. -/
theorem pushAll_eq_push (r : Reassembler) (data : Bytes) (reads : List Bytes)
    (h : ∀ bytes, .noise bytes ∉ (Segment.cutAll (r.buffer ++ (data ++ reads.flatten))).1) :
    r.pushAll (data :: reads) = r.push (data ++ reads.flatten) := by
  induction reads generalizing r data with
  | nil => simp [pushAll]
  | cons next reads ih =>
      rw [List.flatten_cons] at h ⊢
      have hrest : ∀ bytes, .noise bytes ∉ (Segment.cutAll
          ((r.push data).1.buffer ++ (next ++ reads.flatten))).1 := by
        intro bytes hmem
        rw [← List.append_assoc] at h
        rw [Segment.cutAll_append h, ← buffer_push] at h
        exact h bytes (List.mem_append_right _ hmem)
      rw [pushAll_cons, ih _ next hrest, push_append r data _ h]

/-- Frames that stand behind each other are read one by one, and the reassembler is as before. -/
theorem push_flatMap_octets (r : Reassembler) (frames : List Frame) (hbuffer : r.buffer = [])
    (h : ∀ frame ∈ frames, frame.payload.length ≤ Frame.maxPayload) :
    r.push (frames.flatMap Frame.octets) = (r, frames.map Frame.received) := by
  have hsize : ∀ size, (frames.map fun frame => Segment.frame frame.octets).foldl
      (fun size segment => size + segment.noiseSize) size = size := by
    intro size
    rw [List.foldl_map]
    exact (List.foldl_add_const (a := 0)).trans (by rw [Nat.zero_mul, Nat.add_zero])
  have hbroken : (frames.map fun frame => Segment.frame frame.octets).countP
      Segment.isBroken = 0 := by
    rw [List.countP_eq_zero]
    intro segment hmem
    obtain ⟨frame, hframe, rfl⟩ := List.mem_map.1 hmem
    rw [Segment.isBroken, Frame.decode_octets frame (h frame hframe)]
    exact Bool.false_ne_true
  obtain ⟨buffer, discarded, dropped⟩ := r
  obtain rfl : buffer = [] := hbuffer
  simp only [push, List.nil_append, Segment.cutAll_flatMap_octets frames h, hsize, hbroken,
    Segment.filterMap_decoded?_octets frames h, Nat.add_zero]

/-- However the octets of frames are cut into reads, the frames are read and nothing is left. -/
theorem pushAll_of_flatten_eq (r : Reassembler) (frames : List Frame) (reads : List Bytes)
    (hbuffer : r.buffer = []) (h : ∀ frame ∈ frames, frame.payload.length ≤ Frame.maxPayload)
    (hreads : reads.flatten = frames.flatMap Frame.octets) :
    r.pushAll reads = (r, frames.map Frame.received) := by
  have hempty : r.push [] = (r, []) := push_flatMap_octets r [] hbuffer (by simp)
  have hnoise : ∀ bytes,
      .noise bytes ∉ (Segment.cutAll (r.buffer ++ ([] ++ reads.flatten))).1 := by
    intro bytes hmem
    rw [hbuffer, List.nil_append, List.nil_append, hreads,
      Segment.cutAll_flatMap_octets frames h] at hmem
    obtain ⟨frame, -, hframe⟩ := List.mem_map.1 hmem
    cases hframe
  have hall := pushAll_eq_push r [] reads hnoise
  rw [pushAll_cons, hempty, List.nil_append, List.nil_append, hreads,
    push_flatMap_octets r frames hbuffer h] at hall
  exact hall

end Reassembler

end WatchLink
