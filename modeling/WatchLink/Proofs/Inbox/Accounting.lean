import Mathlib.Data.List.Forall2
import WatchLink.Proofs.Inbox.Waiting

/-!
# What became of every read

An inbox is put through any calls, by one who delivers and one who takes. What it holds then, behind
what was taken from it, are the reads it accepted since it was last cleared, in their order and each
in its pieces; a read that was refused has left nothing. The first piece of a read, and no other,
says whether input was lost, and it does just when something was lost after the read before it: a
loss was noted or a read found no room, and nobody has taken the mark since.
-/

namespace WatchLink

/-! ## Pieces -/

theorem length_pieces_go {α : Type} {n : Nat} (hn : 0 < n) :
    ∀ (k : Nat) (xs : List α), xs.length ≤ k →
      (pieces.go n k xs).length = (xs.length + (n - 1)) / n
  | 0, xs, h => by
      obtain rfl := List.length_eq_zero_iff.1 (Nat.le_zero.1 h)
      exact (Nat.div_eq_of_lt (by simp only [List.length_nil]; omega)).symm
  | _ + 1, [], _ => (Nat.div_eq_of_lt (by simp only [List.length_nil]; omega)).symm
  | k + 1, x :: xs, h => by
      have hlength : ((x :: xs).drop n).length ≤ k := by
        simp only [List.length_drop, List.length_cons] at *
        omega
      rw [pieces.go, List.length_cons, length_pieces_go hn k _ hlength, List.length_drop]
      rcases Nat.lt_or_ge (x :: xs).length n with hlast | hmore
      · rw [Nat.sub_eq_zero_of_le (Nat.le_of_lt hlast), Nat.div_eq_of_lt (by omega)]
        have hone : (x :: xs).length + (n - 1) = xs.length + n := by
          rw [List.length_cons]
          omega
        rw [List.length_cons] at hlast
        rw [hone, Nat.add_div_right _ hn, Nat.div_eq_of_lt (by omega)]
      · rw [← Nat.add_div_right _ hn]
        congr 1
        omega

/-- There are as many pieces as are needed, all full but the last. -/
theorem length_pieces {α : Type} {n : Nat} (hn : 0 < n) (xs : List α) :
    (pieces n xs).length = (xs.length + (n - 1)) / n :=
  length_pieces_go hn _ xs (Nat.le_refl _)

theorem length_of_mem_pieces {α : Type} {n : Nat} (hn : 0 < n) {xs piece : List α}
    (hmem : piece ∈ pieces n xs) : 1 ≤ piece.length ∧ piece.length ≤ n := by
  have hgo : ∀ (k : Nat) (ys : List α), piece ∈ pieces.go n k ys →
      1 ≤ piece.length ∧ piece.length ≤ n := by
    intro k
    induction k with
    | zero => exact fun _ h => absurd h List.not_mem_nil
    | succ k ih =>
        intro ys h
        cases ys with
        | nil => exact absurd h List.not_mem_nil
        | cons y ys =>
            rcases List.mem_cons.1 h with rfl | hrest
            · simp only [List.length_take, List.length_cons]
              omega
            · exact ih _ hrest
  exact hgo _ _ hmem

namespace Inbox

/-! ## One read -/

/-- A read that can be taken in at all: a value of a characteristic is never cut. -/
def Fits (endpoint : Endpoint) (data : Bytes) : Prop :=
  endpoint = .stream ∨ data.length ≤ chunkCapacity

/-- How many chunks a read is cut into. -/
def chunkCount (data : Bytes) : Nat := (data.length + (chunkCapacity - 1)) / chunkCapacity

/-- The chunks are a read in its pieces, the first of which tells whether input was lost. -/
structure Cut (endpoint : Endpoint) (data : Bytes) (missed : Prop) (chunks : List Chunk) :
    Prop where
  endpoint : ∀ chunk ∈ chunks, chunk.endpoint = endpoint
  sizes : ∀ chunk ∈ chunks, 1 ≤ chunk.data.length ∧ chunk.data.length ≤ chunkCapacity
  whole : (chunks.map Chunk.data).flatten = data
  marked : ∃ first rest, chunks = first :: rest ∧ (first.resync = true ↔ missed) ∧
    ∀ chunk ∈ rest, chunk.resync = false

theorem length_chunksOf (endpoint : Endpoint) (data : Bytes) (resync : Bool) :
    (chunksOf endpoint data resync).length = chunkCount data := by
  rw [chunkCount, ← length_pieces (by decide), chunksOf]
  cases pieces chunkCapacity data with
  | nil => rfl
  | cons first rest => rw [List.length_cons, List.length_map, List.length_cons]

theorem data_chunksOf (endpoint : Endpoint) (data : Bytes) (resync : Bool) :
    (chunksOf endpoint data resync).map Chunk.data = pieces chunkCapacity data := by
  rw [chunksOf]
  cases pieces chunkCapacity data with
  | nil => rfl
  | cons first rest =>
      rw [List.map_cons, List.map_map]
      exact congrArg (first :: ·) (List.map_id rest)

theorem cut_chunksOf (endpoint : Endpoint) {data : Bytes} (hdata : data ≠ []) (resync : Bool) :
    Cut endpoint data (resync = true) (chunksOf endpoint data resync) where
  endpoint chunk hmem := by
    rw [chunksOf] at hmem
    cases hpieces : pieces chunkCapacity data with
    | nil => rw [hpieces] at hmem; exact absurd hmem List.not_mem_nil
    | cons first rest =>
        rw [hpieces] at hmem
        rcases List.mem_cons.1 hmem with rfl | hrest
        · rfl
        · obtain ⟨piece, -, rfl⟩ := List.mem_map.1 hrest
          rfl
  sizes chunk hmem := by
    have hpiece : chunk.data ∈ pieces chunkCapacity data :=
      data_chunksOf endpoint data resync ▸ List.mem_map_of_mem hmem
    exact length_of_mem_pieces (by decide) hpiece
  whole := by
    rw [data_chunksOf]
    exact pieces_flatten (by decide) data
  marked := by
    rw [chunksOf]
    cases hpieces : pieces chunkCapacity data with
    | nil =>
        have hflatten := pieces_flatten (by decide : 0 < chunkCapacity) data
        rw [hpieces] at hflatten
        exact absurd hflatten.symm hdata
    | cons first rest =>
        refine ⟨_, _, rfl, Iff.rfl, fun chunk hmem => ?_⟩
        obtain ⟨piece, -, rfl⟩ := List.mem_map.1 hmem
        rfl

/-- What becomes of a read. -/
inductive Delivered (inbox : Inbox) (endpoint : Endpoint) (data : Bytes) : Inbox × Bool → Prop
  | oversized (h : ¬ Fits endpoint data) : Delivered inbox endpoint data (inbox, false)
  | empty (h : data = []) : Delivered inbox endpoint data (inbox, true)
  | noRoom (hfits : Fits endpoint data) (hroom : inbox.free < chunkCount data) :
      Delivered inbox endpoint data ({ inbox with lost := true }, false)
  | taken (hdata : data ≠ []) (hfits : Fits endpoint data) (hroom : chunkCount data ≤ inbox.free) :
      Delivered inbox endpoint data
        ({ chunks := inbox.chunks ++ chunksOf endpoint data inbox.lost, lost := false }, true)

theorem delivered (inbox : Inbox) (endpoint : Endpoint) (data : Bytes) :
    Delivered inbox endpoint data (inbox.deliver endpoint data) := by
  have hfits : Fits endpoint data ↔ ¬ (endpoint ≠ .stream ∧ chunkCapacity < data.length) := by
    rw [Fits, Classical.not_and_iff_not_or_not, Classical.not_not, Nat.not_lt]
  rw [deliver, length_chunksOf]
  split
  · rename_i hsize
    exact .oversized fun h => hfits.1 h hsize
  · rename_i hsize
    split
    · rename_i hdata
      exact .empty hdata
    · rename_i hdata
      split
      · rename_i hroom
        exact .noRoom (hfits.2 hsize) hroom
      · rename_i hroom
        exact .taken hdata (hfits.2 hsize) (Nat.not_lt.1 hroom)

theorem deliver_accepts_iff (inbox : Inbox) (endpoint : Endpoint) {data : Bytes}
    (hdata : data ≠ []) : (inbox.deliver endpoint data).2 = true ↔
      Fits endpoint data ∧ chunkCount data ≤ inbox.free := by
  have hread := inbox.delivered endpoint data
  generalize inbox.deliver endpoint data = answer at hread
  cases hread with
  | oversized h => simp [h]
  | empty h => exact absurd h hdata
  | noRoom hfits hroom => simp [Nat.not_le.2 hroom]
  | taken _ hfits hroom => simp [hfits, hroom]

theorem chunks_deliver_of_taken {inbox : Inbox} {endpoint : Endpoint} {data : Bytes}
    (hdata : data ≠ []) (h : (inbox.deliver endpoint data).2 = true) :
    (inbox.deliver endpoint data).1.chunks =
      inbox.chunks ++ chunksOf endpoint data inbox.lost := by
  have hread := inbox.delivered endpoint data
  generalize inbox.deliver endpoint data = answer at hread h
  cases hread with
  | oversized => exact Bool.noConfusion h
  | empty hnone => exact absurd hnone hdata
  | noRoom => exact Bool.noConfusion h
  | taken => rfl

/-- A read that is refused leaves the chunks as they were, as one that is empty does. -/
theorem chunks_deliver_of_not_taken {inbox : Inbox} {endpoint : Endpoint} {data : Bytes}
    (h : ¬ (data ≠ [] ∧ (inbox.deliver endpoint data).2 = true)) :
    (inbox.deliver endpoint data).1.chunks = inbox.chunks := by
  have hread := inbox.delivered endpoint data
  generalize inbox.deliver endpoint data = answer at hread h
  cases hread with
  | oversized => rfl
  | empty => rfl
  | noRoom => rfl
  | taken hdata => exact absurd ⟨hdata, rfl⟩ h

/-! ## Many calls -/

/-- What is done with an inbox. -/
inductive Call where
  | deliver (endpoint : Endpoint) (data : Bytes)
  | next
  | markLost
  | takeLost
  | clear
  deriving DecidableEq, Repr

def perform (inbox : Inbox) : Call → Inbox
  | .deliver endpoint data => (inbox.deliver endpoint data).1
  | .next => (inbox.next?.map Prod.snd).getD inbox
  | .markLost => inbox.markLost
  | .takeLost => inbox.takeLost.1
  | .clear => empty

/-- A new inbox after some calls, of which the latest stands first. -/
def after : List Call → Inbox
  | [] => empty
  | call :: earlier => (after earlier).perform call

/-- The call loses input. -/
def Loses (inbox : Inbox) : Call → Prop
  | .deliver endpoint data => Fits endpoint data ∧ inbox.free < chunkCount data
  | .markLost => True
  | _ => False

/-- After the call nothing counts that was lost before it. -/
def Settles (inbox : Inbox) : Call → Prop
  | .deliver endpoint data => data ≠ [] ∧ (inbox.deliver endpoint data).2 = true
  | .takeLost => True
  | .clear => True
  | _ => False

/-- Input was lost, and no later call has settled that. -/
inductive Missed : List Call → Prop
  | lost {call : Call} {earlier : List Call} (h : (after earlier).Loses call) :
      Missed (call :: earlier)
  | still {call : Call} {earlier : List Call} (h : Missed earlier)
      (hcall : ¬ (after earlier).Settles call) : Missed (call :: earlier)

/-- A read that was taken in, with the calls before it. -/
structure Read where
  endpoint : Endpoint
  data : Bytes
  earlier : List Call
  deriving DecidableEq, Repr

/-- The reads that were taken in since the inbox was last cleared, in order. -/
def reads : List Call → List Read
  | [] => []
  | .clear :: _ => []
  | .deliver endpoint data :: earlier =>
    if data ≠ [] ∧ ((after earlier).deliver endpoint data).2 = true then
      reads earlier ++ [⟨endpoint, data, earlier⟩]
    else reads earlier
  | _ :: earlier => reads earlier

/-- The chunks that were taken out since the inbox was last cleared, in order. -/
def takenOut : List Call → List Chunk
  | [] => []
  | .clear :: _ => []
  | .next :: earlier => takenOut earlier ++ ((after earlier).next?.map Prod.fst).toList
  | _ :: earlier => takenOut earlier

variable (calls : List Call)

theorem missed_cons {call : Call} {earlier : List Call} : Missed (call :: earlier) ↔
    (after earlier).Loses call ∨ Missed earlier ∧ ¬ (after earlier).Settles call := by
  constructor
  · rintro (h | ⟨h, hcall⟩)
    · exact .inl h
    · exact .inr ⟨h, hcall⟩
  · rintro (h | ⟨h, hcall⟩)
    · exact .lost h
    · exact .still h hcall

/-- The oldest chunk goes out, and nothing else changes. -/
theorem perform_next (inbox : Inbox) :
    inbox.perform .next = { inbox with chunks := inbox.chunks.tail } ∧
      inbox.next?.map Prod.fst = inbox.chunks.head? := by
  obtain ⟨chunks, lost⟩ := inbox
  cases chunks <;> exact ⟨rfl, rfl⟩

/-- A call leaves a mark just when it loses input, or finds a mark and does not settle it. -/
theorem lost_perform (inbox : Inbox) (call : Call) : (inbox.perform call).lost = true ↔
    inbox.Loses call ∨ inbox.lost = true ∧ ¬ inbox.Settles call := by
  cases call with
  | deliver endpoint data =>
      rw [perform, Loses, Settles]
      have hread := inbox.delivered endpoint data
      generalize inbox.deliver endpoint data = answer at hread
      cases hread with
      | oversized h => simp [h]
      | empty h => simp [h, chunkCount, chunkCapacity]
      | noRoom hfits hroom => simp [hfits, hroom]
      | taken hdata hfits hroom => simp [hdata, Nat.not_lt.2 hroom]
  | next => simp [perform_next, Loses, Settles]
  | markLost => simp [perform, markLost, Loses]
  | takeLost => simp [perform, takeLost, Loses, Settles]
  | clear => simp [perform, empty, Loses, Settles]

/-- The mark is there just when input was lost and that was not settled. -/
theorem lost_after : (after calls).lost = true ↔ Missed calls := by
  induction calls with
  | nil => exact ⟨fun h => Bool.noConfusion h, fun h => by cases h⟩
  | cons call earlier ih => rw [missed_cons, ← ih, after, lost_perform]

theorem length_chunks_perform {inbox : Inbox} (h : inbox.chunks.length ≤ depth) (call : Call) :
    (inbox.perform call).chunks.length ≤ depth := by
  cases call with
  | deliver endpoint data =>
      rw [perform]
      have hread := inbox.delivered endpoint data
      generalize inbox.deliver endpoint data = answer at hread
      cases hread with
      | oversized => exact h
      | empty => exact h
      | noRoom => exact h
      | taken hdata hfits hroom =>
          rw [free] at hroom
          rw [List.length_append, length_chunksOf]
          omega
  | next =>
      rw [inbox.perform_next.1, List.length_tail]
      omega
  | markLost => exact h
  | takeLost => exact h
  | clear => exact Nat.zero_le _

theorem length_chunks_after : (after calls).chunks.length ≤ depth := by
  induction calls with
  | nil => exact Nat.zero_le _
  | cons call earlier ih => exact length_chunks_perform ih call

/-- What was taken out, and behind it what is still there, are the reads in their pieces. -/
theorem takenOut_append_chunks :
    ∃ groups, List.Forall₂ (fun read => Cut read.endpoint read.data (Missed read.earlier))
      (reads calls) groups ∧ groups.flatten = takenOut calls ++ (after calls).chunks := by
  induction calls with
  | nil => exact ⟨[], .nil, rfl⟩
  | cons call earlier ih =>
      obtain ⟨groups, hgroups, hflatten⟩ := ih
      cases call with
      | deliver endpoint data =>
          simp only [reads, takenOut, after, perform]
          split
          · rename_i haccepted
            have hcut := cut_chunksOf endpoint haccepted.1 (after earlier).lost
            rw [lost_after] at hcut
            refine ⟨groups ++ [chunksOf endpoint data (after earlier).lost], ?_, ?_⟩
            · exact List.rel_append hgroups (.cons hcut .nil)
            · rw [List.flatten_append, hflatten, List.flatten_singleton, List.append_assoc,
                chunks_deliver_of_taken haccepted.1 haccepted.2]
          · rename_i hnot
            refine ⟨groups, hgroups, ?_⟩
            rw [hflatten, chunks_deliver_of_not_taken hnot]
      | next =>
          refine ⟨groups, hgroups, ?_⟩
          rw [hflatten, takenOut, after, (perform_next _).1, (perform_next _).2, List.append_assoc]
          cases (after earlier).chunks <;> rfl
      | markLost => exact ⟨groups, hgroups, hflatten⟩
      | takeLost => exact ⟨groups, hgroups, hflatten⟩
      | clear => exact ⟨[], .nil, rfl⟩

/-- What holds of an inbox after some calls. -/
structure Accounted (calls : List Call) : Prop where
  room : (after calls).chunks.length ≤ depth
  sizes : ∀ chunk ∈ (after calls).chunks,
    1 ≤ chunk.data.length ∧ chunk.data.length ≤ chunkCapacity
  /-- What was taken out, and behind it what is still there, are the reads that were taken in. -/
  inOrder : ∃ groups, List.Forall₂ (fun read => Cut read.endpoint read.data (Missed read.earlier))
    (reads calls) groups ∧ groups.flatten = takenOut calls ++ (after calls).chunks
  /-- What is taken out is the oldest chunk. -/
  oldest : (after calls).next?.map Prod.fst = (after calls).chunks.head? ∧
    (after (.next :: calls)).chunks = (after calls).chunks.tail
  accepts : ∀ endpoint data, data ≠ [] →
    (((after calls).deliver endpoint data).2 = true ↔
      Fits endpoint data ∧ chunkCount data ≤ (after calls).free)
  appends : ∀ endpoint data, data ≠ [] → ((after calls).deliver endpoint data).2 = true →
    ∃ chunks, Cut endpoint data (Missed calls) chunks ∧
      (after (.deliver endpoint data :: calls)).chunks = (after calls).chunks ++ chunks
  refuses : ∀ endpoint data, ((after calls).deliver endpoint data).2 = false →
    (after (.deliver endpoint data :: calls)).chunks = (after calls).chunks
  mark : (after calls).takeLost.2 = true ↔ Missed calls

theorem accounted_after : Accounted calls where
  room := length_chunks_after calls
  sizes chunk hmem := by
    obtain ⟨groups, hgroups, hflatten⟩ := takenOut_append_chunks calls
    have hall : chunk ∈ groups.flatten := hflatten ▸ List.mem_append_right _ hmem
    obtain ⟨group, hgroup, hchunk⟩ := List.mem_flatten.1 hall
    obtain ⟨i, hi, rfl⟩ := List.getElem_of_mem hgroup
    exact (hgroups.get (hgroups.length_eq ▸ hi) hi).sizes chunk hchunk
  inOrder := takenOut_append_chunks calls
  oldest := ⟨(perform_next _).2, congrArg chunks (perform_next _).1⟩
  accepts endpoint _ hdata := (after calls).deliver_accepts_iff endpoint hdata
  appends endpoint data hdata haccepted := by
    have hcut := cut_chunksOf endpoint hdata (after calls).lost
    rw [lost_after] at hcut
    exact ⟨_, hcut, chunks_deliver_of_taken hdata haccepted⟩
  refuses _ _ hrefused :=
    chunks_deliver_of_not_taken fun h => Bool.noConfusion (hrefused.symm.trans h.2)
  mark := lost_after calls

/-- An empty read leaves the mark to the next one, whose first chunk alone carries it. -/
example : (after [.deliver .stream (List.replicate 600 0), .deliver .stream [],
    .markLost]).chunks.map Chunk.resync = [true, false] := by decide +kernel

end Inbox

end WatchLink
