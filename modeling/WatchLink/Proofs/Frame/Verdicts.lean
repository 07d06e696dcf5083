import WatchLink.Proofs.Frame.Reading
import WatchLink.Proofs.Octets.Places

/-!
# Verdicts on frames

Bytes are judged by their length, by what their header says and by the octet that the header makes
the last one. More bytes behind them can only add to the length, so a verdict is final unless the
bytes are too few: too few for a header, or too few for what a header declares that may be one of a
frame. Then, and only then, is it worth waiting.
-/

namespace WatchLink.Frame

/-- What the length field says; an octet of it that is not there counts as zero. -/
def declared (bytes : Bytes) : Nat := (Bytes.word16 (bytes.getD 5 0) (bytes.getD 6 0)).toNat

/-- A header that a frame may have: the preamble, and a length that counts what it must. -/
def Headed (bytes : Bytes) : Prop := preamble <+: bytes ∧ headerCounted ≤ declared bytes

instance (bytes : Bytes) : Decidable (Headed bytes) := inferInstanceAs (Decidable (_ ∧ _))

/-- The fields of a frame by their places. -/
def fields (bytes : Bytes) : Frame where
  channel := channelOfOctet (bytes.getD 3 0)
  flag := bytes.getD 4 0 &&& flagBit ≠ 0
  needsResponse := bytes.getD 4 0 &&& responseBit ≠ 0
  opcode := bytes.getD 7 0
  serial := bytes.getD 8 0
  dataType := .ofId (bytes.getD 9 0)
  payload := (bytes.drop 10).take (declared bytes - headerCounted)

theorem decode_of_length_lt {bytes : Bytes} (h : bytes.length < overhead) :
    decode bytes = .error .incomplete := by
  unfold decode
  split
  · simp only [overhead, List.length_cons] at h
    omega
  · rfl

/-- Bytes that hold a header are judged by it and by the octet that it makes the last one. -/
theorem decode_of_overhead_le {bytes : Bytes} (h : overhead ≤ bytes.length) :
    decode bytes =
      if Headed bytes then
        match bytes[declared bytes + 7]? with
        | none => .error .incomplete
        | some last => if last = epilogue then .ok (fields bytes) else .error .malformed
      else .error .malformed := by
  obtain ⟨p0, p1, p2, channel, flags, low, high, opcode, serial, dataType, first, rest, hbytes⟩ :=
    exists_eq_cons h
  have hdeclared : declared bytes = (Bytes.word16 low high).toNat := by rw [hbytes]; rfl
  have hstart : preamble <+: bytes ↔ [p0, p1, p2] = preamble := by
    rw [← take_preamble_eq_iff, hbytes]
    rfl
  by_cases hheaded : Headed bytes
  · obtain ⟨hpreamble, hcounted⟩ := hheaded
    rw [if_pos ⟨hpreamble, hcounted⟩]
    rw [hdeclared] at hcounted
    -- The last octet stands as far behind the header as the payload is long.
    have hlast : bytes[declared bytes + 7]? =
        ((first :: rest).drop ((Bytes.word16 low high).toNat - headerCounted)).head? := by
      have hplace : declared bytes + 7 =
          (Bytes.word16 low high).toNat - headerCounted + 10 := by
        rw [hdeclared, headerCounted] at *
        omega
      rw [List.head?_drop, hplace, hbytes]
      rfl
    have hfields : fields bytes =
        { channel := channelOfOctet channel
          flag := flags &&& flagBit ≠ 0
          needsResponse := flags &&& responseBit ≠ 0
          opcode := opcode
          serial := serial
          dataType := DataType.ofId dataType
          payload := (first :: rest).take ((Bytes.word16 low high).toNat - headerCounted) } := by
      rw [hbytes]
      rfl
    rw [hlast, hfields, hbytes]
    simp only [decode, hstart.1 hpreamble, ne_eq, not_true_eq_false, if_false,
      Nat.not_lt.2 hcounted]
    cases (first :: rest).drop ((Bytes.word16 low high).toNat - headerCounted) <;> rfl
  · rw [if_neg hheaded, hbytes]
    simp only [decode]
    split
    · rfl
    · rename_i hpreamble
      rw [ne_eq, Decidable.not_not] at hpreamble
      refine if_pos (Nat.lt_of_not_le fun hcounted => hheaded ⟨hstart.2 hpreamble, ?_⟩)
      rwa [hdeclared]

/-! ## More bytes behind -/

theorem declared_append {bytes : Bytes} (h : overhead ≤ bytes.length) (more : Bytes) :
    declared (bytes ++ more) = declared bytes := by
  obtain ⟨_, _, _, _, _, _, _, _, _, _, _, _, rfl⟩ := exists_eq_cons h
  rfl

theorem headed_append_iff {bytes : Bytes} (h : overhead ≤ bytes.length) (more : Bytes) :
    Headed (bytes ++ more) ↔ Headed bytes := by
  have htake : (bytes ++ more).take 3 = bytes.take 3 :=
    List.take_append_of_le_length (Nat.le_trans (by decide) h)
  rw [Headed, Headed, declared_append h, ← take_preamble_eq_iff, htake, take_preamble_eq_iff]

/-- The fields of a frame that has ended are there. -/
theorem fields_append {bytes : Bytes} (h : overhead ≤ bytes.length)
    (hended : declared bytes + 7 < bytes.length) (more : Bytes) :
    fields (bytes ++ more) = fields bytes := by
  have hdeclared := declared_append h more
  obtain ⟨p0, p1, p2, channel, flags, low, high, opcode, serial, dataType, first, rest, hbytes⟩ :=
    exists_eq_cons h
  have hpayload : ((bytes ++ more).drop 10).take (declared bytes - headerCounted) =
      (bytes.drop 10).take (declared bytes - headerCounted) := by
    rw [List.drop_append_of_le_length (Nat.le_trans (by decide) h),
      List.take_append_of_le_length]
    rw [List.length_drop, headerCounted]
    omega
  rw [fields, fields, hdeclared, hpayload, hbytes]
  rfl

/-- A verdict other than to wait is final. -/
theorem decode_append_of_ne {bytes : Bytes} (h : decode bytes ≠ .error .incomplete)
    (more : Bytes) : decode (bytes ++ more) = decode bytes := by
  rcases Nat.lt_or_ge bytes.length overhead with hshort | hlong
  · exact absurd (decode_of_length_lt hshort) h
  · have hmore : overhead ≤ (bytes ++ more).length := by
      rw [List.length_append]
      omega
    rw [decode_of_overhead_le hlong] at h ⊢
    rw [decode_of_overhead_le hmore, declared_append hlong]
    simp only [headed_append_iff hlong]
    by_cases hheaded : Headed bytes
    · rw [if_pos hheaded] at h
      rw [if_pos hheaded, if_pos hheaded]
      rcases Nat.lt_or_ge (declared bytes + 7) bytes.length with hended | hwaits
      · rw [List.getElem?_append_left hended, fields_append hlong hended]
      · rw [List.getElem?_eq_none hwaits] at h
        exact absurd rfl h
    · rw [if_neg hheaded, if_neg hheaded]

/-! ## What each verdict says -/

theorem decode_eq_incomplete_iff (bytes : Bytes) :
    decode bytes = .error .incomplete ↔
      bytes.length < overhead ∨
        Headed bytes ∧ bytes.length < declared bytes + lengthOffset := by
  rcases Nat.lt_or_ge bytes.length overhead with hshort | hlong
  · exact iff_of_true (decode_of_length_lt hshort) (.inl hshort)
  · rw [decode_of_overhead_le hlong, or_iff_right (Nat.not_lt.2 hlong)]
    by_cases hheaded : Headed bytes
    · rw [if_pos hheaded, and_iff_right hheaded]
      rcases Nat.lt_or_ge (declared bytes + 7) bytes.length with hended | hwaits
      · rw [List.getElem?_eq_getElem hended]
        have hverdict : ∀ last, (if last = epilogue then Except.ok (fields bytes)
            else .error FrameError.malformed) ≠ .error .incomplete := by
          intro last
          split <;> nofun
        exact iff_of_false (hverdict _) (Nat.not_lt.2 hended)
      · rw [List.getElem?_eq_none hwaits]
        exact iff_of_true rfl (Nat.lt_succ_of_le hwaits)
    · rw [if_neg hheaded]
      exact iff_of_false nofun fun h => hheaded h.1

theorem decode_eq_ok_iff (bytes : Bytes) (frame : Frame) :
    decode bytes = .ok frame ↔
      Headed bytes ∧ bytes[declared bytes + 7]? = some epilogue ∧ frame = fields bytes := by
  constructor
  · intro h
    rcases Nat.lt_or_ge bytes.length overhead with hshort | hlong
    · rw [decode_of_length_lt hshort] at h
      cases h
    · rw [decode_of_overhead_le hlong] at h
      split at h
      · rename_i hheaded
        split at h
        · cases h
        · rename_i last hlast
          split at h
          · rename_i hepilogue
            cases h
            exact ⟨hheaded, hepilogue ▸ hlast, rfl⟩
          · cases h
      · cases h
  · rintro ⟨hheaded, hlast, rfl⟩
    obtain ⟨hended, -⟩ := List.getElem?_eq_some_iff.1 hlast
    have hlong : overhead ≤ bytes.length := by
      have hcounted := hheaded.2
      rw [headerCounted] at hcounted
      rw [overhead]
      omega
    rw [decode_of_overhead_le hlong, if_pos hheaded, hlast]
    rfl

/-! ## Reading by places -/

/-- The frame at the start of the bytes, with every octet asked for by its place; `none` when one of
them is not there. -/
def decodeAt? (bytes : Bytes) : Option (Except FrameError Frame) :=
  if bytes.length < overhead then some (.error .incomplete)
  else do
    let start ← Bytes.slice? bytes 0 3
    if start ≠ preamble then some (.error .malformed)
    else do
      let channel ← bytes[3]?
      let flags ← bytes[4]?
      let low ← bytes[5]?
      let high ← bytes[6]?
      let declared := (Bytes.word16 low high).toNat
      let stop := 10 + (declared - headerCounted)
      if declared < headerCounted then some (.error .malformed)
      else if bytes.length < declared - headerCounted + overhead then some (.error .incomplete)
      else do
        let last ← bytes[stop]?
        if last ≠ epilogue then some (.error .malformed)
        else do
          let opcode ← bytes[7]?
          let serial ← bytes[8]?
          let dataType ← bytes[9]?
          let payload ← Bytes.slice? bytes 10 stop
          some (.ok
            { channel := channelOfOctet channel
              flag := flags &&& flagBit ≠ 0
              needsResponse := flags &&& responseBit ≠ 0
              opcode := opcode
              serial := serial
              dataType := .ofId dataType
              payload := payload })

/-- The octets of a header are there once there are enough for a frame. -/
theorem getElem?_of_overhead_le {bytes : Bytes} (h : overhead ≤ bytes.length) {i : Nat}
    (hi : i < overhead) : bytes[i]? = some (bytes.getD i 0) := by
  have hlt : i < bytes.length := Nat.lt_of_lt_of_le hi h
  rw [List.getD_eq_getElem?_getD, List.getElem?_eq_getElem hlt]
  rfl

/-- So are those of the payload once the last octet is. -/
theorem slice?_payload {bytes : Bytes} (hcounted : headerCounted ≤ declared bytes)
    (hended : declared bytes + 7 < bytes.length) :
    Bytes.slice? bytes 10 (declared bytes + 7) = some (fields bytes).payload := by
  rw [headerCounted] at hcounted
  have hsize : declared bytes + 7 - 10 = declared bytes - headerCounted := by
    rw [headerCounted]
    omega
  rw [Bytes.slice?_of_le (by omega) (Nat.le_of_lt hended), List.drop_take, hsize]
  rfl

/-- Every octet that reading asks for is there. -/
theorem decodeAt?_eq_some (bytes : Bytes) : decodeAt? bytes = some (decode bytes) := by
  rcases Nat.lt_or_ge bytes.length overhead with hshort | hlong
  · rw [decode_of_length_lt hshort]
    exact if_pos hshort
  · have hoctet {i : Nat} (hi : i < overhead) := getElem?_of_overhead_le hlong hi
    have hstart : Bytes.slice? bytes 0 3 = some (bytes.take 3) :=
      Bytes.slice?_of_le (Nat.zero_le _) (Nat.le_trans (by decide) hlong)
    have hdeclared : (Bytes.word16 (bytes.getD 5 0) (bytes.getD 6 0)).toNat = declared bytes := rfl
    rw [decode_of_overhead_le hlong, decodeAt?, if_neg (Nat.not_lt.2 hlong)]
    simp only [hstart, hoctet (by decide : 3 < overhead), hoctet (by decide : 4 < overhead),
      hoctet (by decide : 5 < overhead), hoctet (by decide : 6 < overhead),
      hoctet (by decide : 7 < overhead), hoctet (by decide : 8 < overhead),
      hoctet (by decide : 9 < overhead), Option.bind_eq_bind, Option.bind_some, hdeclared]
    -- What is left are the tests on the header and the two octets that it leads to.
    by_cases hpreamble : bytes.take 3 = preamble
    · rw [if_neg (not_not_intro hpreamble)]
      by_cases hcounted : headerCounted ≤ declared bytes
      · have hheaded : Headed bytes := ⟨(take_preamble_eq_iff bytes).1 hpreamble, hcounted⟩
        have hstop : 10 + (declared bytes - headerCounted) = declared bytes + 7 := by
          rw [headerCounted] at *
          omega
        rw [if_neg (Nat.not_lt.2 hcounted), if_pos hheaded, hstop]
        rcases Nat.lt_or_ge (declared bytes + 7) bytes.length with hended | hwaits
        · rw [if_neg (by rw [overhead]; omega), List.getElem?_eq_getElem hended]
          simp only [Option.bind_some, slice?_payload hcounted hended]
          by_cases hlast : bytes[declared bytes + 7] = epilogue
          · rw [if_neg (not_not_intro hlast), if_pos hlast]
            rfl
          · rw [if_pos hlast, if_neg hlast]
        · rw [if_pos (by rw [overhead]; omega), List.getElem?_eq_none hwaits]
      · rw [if_pos (Nat.lt_of_not_le hcounted), if_neg fun hheaded => hcounted hheaded.2]
    · rw [if_pos hpreamble,
        if_neg fun hheaded => hpreamble ((take_preamble_eq_iff bytes).2 hheaded.1)]

/-! ## Verdicts -/

/-- A frame and malformed bytes stay what they are whatever comes behind them. Bytes are incomplete
when they are too few for a header, or for what a header declares that starts with the preamble and
counts its three octets. They hold a frame when all that is declared is there and ends as a frame
does, and it is the frame of the fields by their places. No octet is asked for that is not there. -/
theorem decode_verdict (bytes : Bytes) :
    (decode bytes ≠ .error .incomplete → ∀ more, decode (bytes ++ more) = decode bytes) ∧
    (decode bytes = .error .incomplete ↔
      bytes.length < 11 ∨
        preamble <+: bytes ∧ 3 ≤ declared bytes ∧ bytes.length < declared bytes + 8) ∧
    (∀ frame, decode bytes = .ok frame ↔
      preamble <+: bytes ∧ 3 ≤ declared bytes ∧ declared bytes + 8 ≤ bytes.length ∧
        bytes[declared bytes + 7]? = some 0xEF ∧ frame = fields bytes) ∧
    decodeAt? bytes = some (decode bytes) := by
  refine ⟨decode_append_of_ne, ?_, fun frame => ?_, decodeAt?_eq_some bytes⟩
  · rw [decode_eq_incomplete_iff, Headed, and_assoc]
    rfl
  · rw [decode_eq_ok_iff, Headed, and_assoc]
    refine and_congr_right' (and_congr_right' ⟨fun h => ⟨?_, h⟩, fun h => h.2⟩)
    obtain ⟨hended, -⟩ := List.getElem?_eq_some_iff.1 h.1
    exact hended

/-- A frame, and bytes that declare less than a header counts, with a preamble behind them. -/
theorem decode_verdict_followed :
    decode [0xBA, 0xDC, 0xFE, 0x02, 0x80, 4, 0, 5, 1, 0, 0xAB, 0xEF] ≠ .error .incomplete ∧
    decode ([0xBA, 0xDC, 0xFE, 0x02, 0x80, 4, 0, 5, 1, 0, 0xAB, 0xEF] ++ [0xBA, 0xDC, 0xFE]) =
      decode [0xBA, 0xDC, 0xFE, 0x02, 0x80, 4, 0, 5, 1, 0, 0xAB, 0xEF] ∧
    decode ([0xBA, 0xDC, 0xFE, 0x02, 0x80, 2, 0, 5, 1, 0, 0xEF] ++ [0xBA, 0xDC, 0xFE]) =
      .error .malformed := by
  have hframe : decode [0xBA, 0xDC, 0xFE, 0x02, 0x80, 4, 0, 5, 1, 0, 0xAB, 0xEF] ≠
      .error .incomplete := nofun
  have hmalformed : decode [0xBA, 0xDC, 0xFE, 0x02, 0x80, 2, 0, 5, 1, 0, 0xEF] ≠
      .error .incomplete := nofun
  exact ⟨hframe, (decode_verdict _).1 hframe _, (decode_verdict _).1 hmalformed _⟩

end WatchLink.Frame
