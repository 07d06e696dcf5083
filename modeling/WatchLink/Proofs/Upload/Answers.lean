import WatchLink.Upload

/-!
# What an answer does to an upload

The watch answers the request of an upload once, and then each part that is out. `Started` lists
what an upload command can do, `Acknowledged` what an acknowledgement can, each with what the upload
was waiting for and what the answer said; whatever else comes in is ignored. The parts that a
running upload has sent are the first so many of its blob, `firstParts`, and there are as many in
all as the pieces of the blob.
-/

namespace WatchLink.Upload

/-- The acknowledgement of a part, with the status of one that has arrived. -/
def Accepts (ack : Bytes) (index : UInt16) : Prop :=
  ∃ low high rest, ack = 0 :: low :: high :: rest ∧ Bytes.word16 low high = index

def sending (upload : Upload) (job : UploadJob) (size : Nat) (total sent : UInt16) : Upload :=
  { upload with job := some { job with phase := .sending size total sent } }

/-- What an upload command can do. -/
inductive Started (upload : Upload) (command : Command) (maxPayload : Nat) :
    Upload × Output → Prop
  | ignored : Started upload command maxPayload (upload, {})
  | refused {job : UploadJob} (running : upload.job = some job)
      (waiting : job.phase = .awaitingAck) : Started upload command maxPayload upload.failed
  | started {job : UploadJob} {chunk : UInt32} {size : Nat} (running : upload.job = some job)
      (waiting : job.phase = .awaitingAck) (subtype : command.subtype = startSubtype)
      (body : command.body = .upload (.ack 0 chunk)) (sized : size = partSize chunk maxPayload)
      (room : size ≠ 0) (count : partCount job.blob.length size ≤ 65535) :
      Started upload command maxPayload
        (upload.sending job size (.ofNat (partCount job.blob.length size)) 1,
          { parts := [part job.blob size (.ofNat (partCount job.blob.length size)) 1] })

/-- What an acknowledgement can do. -/
inductive Acknowledged (upload : Upload) (ack : Bytes) : Upload × Output → Prop
  | ignored (other : ∀ job size total sent, upload.job = some job →
      job.phase = .sending size total sent → ¬ Accepts ack sent) :
      Acknowledged upload ack (upload, {})
  | rejected {job : UploadJob} {size : Nat} {total sent : UInt16} (running : upload.job = some job)
      (out : job.phase = .sending size total sent) (other : ¬ Accepts ack sent) :
      Acknowledged upload ack upload.failed
  | completed {job : UploadJob} {size : Nat} {total : UInt16} (running : upload.job = some job)
      (out : job.phase = .sending size total total) (accepts : Accepts ack total) :
      Acknowledged upload ack
        ({ upload with job := none }, { notices := [.progress (percent total total), .completed] })
  | advanced {job : UploadJob} {size : Nat} {total sent : UInt16} (running : upload.job = some job)
      (out : job.phase = .sending size total sent) (accepts : Accepts ack sent)
      (more : sent ≠ total) :
      Acknowledged upload ack
        (upload.sending job size total (sent + 1),
          { parts := [part job.blob size total (sent + 1)]
            notices := [.progress (percent sent total)] })

/-- The list is complete. -/
theorem started {upload : Upload} {command : Command} {maxPayload : Nat} {result : Upload × Output}
    (h : upload.handleCommand command maxPayload = .ok result) :
    Started upload command maxPayload result := by
  rw [handleCommand] at h
  split at h
  · rename_i hsubtype
    split at h
    · rename_i status chunk job hbody hjob
      split at h
      · rename_i hphase
        split at h
        · rename_i hstatus
          obtain rfl := Except.ok.inj h
          rw [startSending]
          simp only
          split
          · exact .refused hjob hphase
          · rename_i hsizes
            rw [not_or, Nat.not_lt] at hsizes
            subst hstatus
            exact .started hjob hphase hsubtype hbody rfl hsizes.1 hsizes.2
        · obtain rfl := Except.ok.inj h
          exact .refused hjob hphase
      · obtain rfl := Except.ok.inj h
        exact .ignored
    · obtain rfl := Except.ok.inj h
      exact .ignored
  · cases h

/-- The list is complete. -/
theorem acknowledged (upload : Upload) (ack : Bytes) :
    Acknowledged upload ack (upload.handleAck ack) := by
  unfold handleAck
  split
  · rename_i job status low high rest hjob
    split
    · rename_i size total sent hphase
      split
      · rename_i hindex
        refine .ignored ?_
        rintro job' size' total' sent' hjob' hphase' ⟨low', high', rest', hack, hword⟩
        rw [hjob] at hjob'
        obtain rfl := Option.some.inj hjob'
        rw [hphase] at hphase'
        cases hphase'
        cases hack
        exact hindex hword
      · rename_i hindex
        rw [Classical.not_not] at hindex
        split
        · rename_i hstatus
          refine .rejected hjob hphase ?_
          rintro ⟨low', high', rest', hack, -⟩
          cases hack
          exact hstatus rfl
        · rename_i hstatus
          rw [Classical.not_not] at hstatus
          have haccepts : Accepts (status :: low :: high :: rest) sent :=
            ⟨low, high, rest, by rw [hstatus], hindex⟩
          split
          · rename_i hlast
            subst hlast
            exact .completed hjob hphase haccepts
          · rename_i hmore
            exact .advanced hjob hphase haccepts hmore
    · rename_i hphase
      refine .ignored ?_
      intro job' size total sent hjob' hphase'
      rw [hjob] at hjob'
      obtain rfl := Option.some.inj hjob'
      rw [hphase] at hphase'
      cases hphase'
  · rename_i hother
    refine .ignored ?_
    rintro job size total sent hjob - ⟨low, high, rest, rfl, -⟩
    exact hother job 0 low high rest hjob rfl

/-! ## The parts of a blob -/

/-- The first so many parts of a blob. -/
def firstParts (blob : Bytes) (size : Nat) (total : UInt16) (count : Nat) : List Bytes :=
  (List.range count).map fun i => part blob size total (.ofNat (i + 1))

@[simp] theorem length_firstParts (blob : Bytes) (size : Nat) (total : UInt16) (count : Nat) :
    (firstParts blob size total count).length = count := by
  rw [firstParts, List.length_map, List.length_range]

theorem length_part_le (blob : Bytes) (size : Nat) (total index : UInt16) :
    (part blob size total index).length ≤ size + partHeader := by
  have hdata := List.length_take_le size (blob.drop ((index.toNat - 1) * size))
  simp only [part, List.length_append, Bytes.length_le16, partHeader]
  omega

theorem firstParts_succ (blob : Bytes) (size : Nat) (total : UInt16) (count : Nat) :
    firstParts blob size total (count + 1) =
      firstParts blob size total count ++ [part blob size total (.ofNat (count + 1))] := by
  rw [firstParts, List.range_succ, List.map_append]
  rfl

/-- A part has data exactly when its number is within the count. -/
theorem lt_partCount_iff {blobSize size i : Nat} (hsize : size ≠ 0) :
    i < partCount blobSize size ↔ i * size < blobSize := by
  have hpos := Nat.pos_of_ne_zero hsize
  rw [partCount, ← Nat.succ_le_iff, Nat.le_div_iff_mul_le hpos, Nat.succ_mul]
  omega

theorem partCount_pos {blob : Bytes} {size : Nat} (hblob : blob ≠ []) (hsize : size ≠ 0) :
    0 < partCount blob.length size := by
  rw [lt_partCount_iff hsize, Nat.zero_mul]
  exact List.length_pos_iff.2 hblob

/-- Parts that have numbers can be counted. -/
theorem toNat_ofNat_partCount {blobSize size : Nat} (h : partCount blobSize size ≤ 65535) :
    (UInt16.ofNat (partCount blobSize size)).toNat = partCount blobSize size := by
  rw [UInt16.toNat_ofNat']
  exact Nat.mod_eq_of_lt (Nat.lt_succ_of_le h)

/-- Another part does not overflow the count. -/
theorem toNat_add_one {sent total : UInt16} (h : sent.toNat < total.toNat) :
    (sent + 1).toNat = sent.toNat + 1 := by
  have := total.toNat_lt
  rw [UInt16.toNat_add]
  exact Nat.mod_eq_of_lt (by simp; omega)

/-- The data of the first so many parts are the front of the blob. -/
theorem flatMap_range_take_drop (blob : Bytes) (size count : Nat) :
    (List.range count).flatMap (fun i => (blob.drop (i * size)).take size) =
      blob.take (count * size) := by
  induction count with
  | zero => simp
  | succ count ih =>
      rw [List.range_succ, List.flatMap_append, ih, Nat.succ_mul, List.take_add]
      simp

/-- Parts of a blob: numbered from one on under one total, each with data and none with more than
there is room for, the data a front of the blob and all of it when the total is reached. -/
def PartsOf (blob : Bytes) (room : Nat) (total : UInt16) (parts : List Bytes) : Prop :=
  ∃ slices : List Bytes,
    parts = slices.mapIdx (fun i slice =>
      Bytes.le16 total ++ Bytes.le16 (.ofNat (i + 1)) ++ slice) ∧
    slices.length ≤ total.toNat ∧
    (∀ slice ∈ slices, slice ≠ [] ∧ slice.length ≤ room) ∧
    slices.flatten <+: blob ∧
    (slices.length = total.toNat → slices.flatten = blob)

theorem partsOf_firstParts {blob : Bytes} {size count : Nat} {total : UInt16} (hsize : size ≠ 0)
    (htotal : total.toNat = partCount blob.length size) (hcount : count ≤ total.toNat) :
    PartsOf blob size total (firstParts blob size total count) := by
  have hflatten : ((List.range count).map fun i => (blob.drop (i * size)).take size).flatten =
      blob.take (count * size) := by
    rw [← List.flatMap_def]
    exact flatMap_range_take_drop blob size count
  refine ⟨(List.range count).map fun i => (blob.drop (i * size)).take size, ?_, ?_, ?_, ?_, ?_⟩
  · refine List.ext_getElem (by simp) ?_
    intro i hi _
    have hlt : i + 1 < 65536 := by
      rw [length_firstParts] at hi
      have := total.toNat_lt
      omega
    have hindex : (UInt16.ofNat (i + 1)).toNat = i + 1 := by
      rw [UInt16.toNat_ofNat']
      omega
    simp only [firstParts, List.getElem_map, List.getElem_range, List.getElem_mapIdx, part, hindex,
      Nat.add_sub_cancel]
  · rw [List.length_map, List.length_range]
    exact hcount
  · intro slice hmem
    obtain ⟨i, hi, rfl⟩ := List.mem_map.1 hmem
    have hdata : i * size < blob.length :=
      (lt_partCount_iff hsize).1 (htotal ▸ Nat.lt_of_lt_of_le (List.mem_range.1 hi) hcount)
    constructor
    · intro hnil
      have hlen := congrArg List.length hnil
      rw [List.length_take, List.length_drop, List.length_nil] at hlen
      omega
    · exact List.length_take_le _ _
  · rw [hflatten]
    exact List.take_prefix _ _
  · intro hall
    rw [List.length_map, List.length_range] at hall
    have hend : ¬ total.toNat * size < blob.length :=
      mt (lt_partCount_iff hsize).2 (by rw [htotal]; exact Nat.lt_irrefl _)
    rw [hflatten, hall, List.take_of_length_le (Nat.le_of_not_lt hend)]

end WatchLink.Upload
