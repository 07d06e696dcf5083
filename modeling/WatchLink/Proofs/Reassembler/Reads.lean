import WatchLink.Proofs.Reassembler.Accounting

/-!
# Reads may be cut anywhere

Noise is never empty, so input of which no byte is discarded has no noise in it, and input without
noise may be cut into reads anywhere. What is half-read when the input begins is part of it. An
input that comes in no read at all is the one case apart: there the buffer has to wait for more, as
it does in every reassembler that reads have filled.
-/

namespace WatchLink

namespace Segment

theorem waits_nil : Waits [] := .inl (by decide)

/-- Nothing is cut off a buffer that waits. -/
theorem cut?_of_waits {buffer : Bytes} (h : Waits buffer) : cut? buffer = none := by
  by_cases hlen : buffer.length < Frame.overhead
  · exact cut?_of_length_lt hlen
  · rcases h with hshort | ⟨hpre, hdeclared⟩
    · exact absurd hshort hlen
    · rw [cut?_of_preamble (Nat.not_lt.1 hlen) ((Frame.take_preamble_eq_iff buffer).2 hpre),
        if_pos hdeclared]

theorem ne_nil_of_mem_cutAll {buffer : Bytes} {segment : Segment}
    (h : segment ∈ (cutAll buffer).1) : segment.bytes ≠ [] := by
  induction hn : buffer.length using Nat.strongRecOn generalizing buffer with
  | ind n ih =>
      cases hcut : cut? buffer with
      | none =>
          rw [cutAll_of_none hcut] at h
          cases h
      | some cut =>
          obtain ⟨first, rest⟩ := cut
          rw [cutAll_of_some hcut] at h
          rcases List.mem_cons.1 h with rfl | hmem
          · exact (bytes_append_of_cut? hcut).2
          · exact ih rest.length (hn ▸ length_lt_of_cut? hcut) hmem rfl

theorem noiseSize_le_noiseIn {segment : Segment} {segments : List Segment}
    (h : segment ∈ segments) : segment.noiseSize ≤ noiseIn segments := by
  induction segments with
  | nil => cases h
  | cons first segments ih =>
      rw [noiseIn]
      rcases List.mem_cons.1 h with rfl | hmem
      · exact Nat.le_add_right _ _
      · exact Nat.le_trans (ih hmem) (Nat.le_add_left _ _)

/-- Where no byte is noise no segment is. -/
theorem noise_not_mem_cutAll {buffer : Bytes} (h : noiseIn (cutAll buffer).1 = 0) (bytes : Bytes) :
    .noise bytes ∉ (cutAll buffer).1 := by
  intro hmem
  have hsize : bytes.length ≤ 0 := h ▸ noiseSize_le_noiseIn hmem
  exact ne_nil_of_mem_cutAll hmem (List.length_eq_zero_iff.1 (Nat.le_zero.1 hsize))

end Segment

namespace Reassembler

/-- A reassembler that reads and giving up what is half-read can come to. -/
inductive Reachable : Reassembler → Prop
  | new : Reachable {}
  | push {r : Reassembler} (h : Reachable r) (data : Bytes) : Reachable (r.push data).1
  | reset {r : Reassembler} (h : Reachable r) : Reachable r.reset

theorem Reachable.waits {r : Reassembler} (h : r.Reachable) : Segment.Waits r.buffer := by
  cases h with
  | new => exact Segment.waits_nil
  | push => exact (Segment.cutAll_accounted _).2.2
  | reset => exact Segment.waits_nil

/-- An empty read completes nothing. -/
theorem Reachable.push_nil {r : Reassembler} (h : r.Reachable) : r.push [] = (r, []) := by
  have hcut := Segment.cutAll_of_none (Segment.cut?_of_waits h.waits)
  rw [Reassembler.push, List.append_nil, hcut]
  rfl

theorem discarded_push (r : Reassembler) (data : Bytes) :
    (r.push data).1.discarded =
      r.discarded + Segment.noiseIn (Segment.cutAll (r.buffer ++ data)).1 :=
  (accounts_push r data).discarded

/-- Input of which one read discards nothing is read the same in whatever reads it comes: the same
frames in the same order, and the same reassembler afterwards, down to what is half-read. -/
theorem pushAll_eq_push_of_discarded_eq {r : Reassembler} (h : r.Reachable) {data : Bytes}
    (hkept : (r.push data).1.discarded = r.discarded) {reads : List Bytes}
    (hcut : reads.flatten = data) : r.pushAll reads = r.push data := by
  subst hcut
  cases reads with
  | nil => exact h.push_nil.symm
  | cons first reads =>
      rw [List.flatten_cons] at hkept ⊢
      rw [discarded_push, Nat.add_eq_left] at hkept
      exact pushAll_eq_push r first reads (Segment.noise_not_mem_cutAll hkept)

/-- Reads that go on with a preamble of which two octets are there: a frame that declares less than
its header, one that does not end as a frame does, a whole one, and the start of another. -/
def brokenReads : List Bytes := [
  [0xFE, 0x02, 0x80], [], [0x02, 0x00, 0x02, 0x00, 0x00, 0xBA],
  [0xDC, 0xFE, 0x02, 0x80, 0x04, 0x00, 0x02, 0x01, 0x00, 0xAA, 0x00, 0xBA, 0xDC, 0xFE, 0x02],
  [0x80, 0x04, 0x00, 0x02, 0x02, 0x00, 0xAB], [0xEF, 0xBA, 0xDC, 0xFE, 0x02], []]

theorem pushAll_eq_push_brokenReads :
    ((push {} [0xBA, 0xDC]).1.push brokenReads.flatten).1 =
      { buffer := [0xBA, 0xDC, 0xFE, 0x02], dropped := 2 } ∧
    (push {} [0xBA, 0xDC]).1.pushAll brokenReads =
      (push {} [0xBA, 0xDC]).1.push brokenReads.flatten :=
  ⟨by decide, pushAll_eq_push_of_discarded_eq (.push .new _) (by decide) rfl⟩

/-- Noise is another matter: a preamble that is cut in two behind it is lost. -/
example : pushAll {} [List.replicate 9 0 ++ [0xBA, 0xDC], [0xFE]] ≠
    push {} (List.replicate 9 0 ++ [0xBA, 0xDC, 0xFE]) := by decide

end Reassembler

end WatchLink
