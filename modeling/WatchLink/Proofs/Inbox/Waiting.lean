import WatchLink.Inbox
import WatchLink.Proofs.Reassembler.Tape

/-!
# What waits in the inbox, as a tape

Every read that the inbox takes goes on the tape as it is, and one of the stream that it refuses as
a gap. What waits is then the last part of the tape: its chunks in order, with a gap only in front
of a chunk that is marked and at the end only where the mark has not been carried yet.
-/

namespace WatchLink

/-- What a read adds to what the stream was offered. -/
def Tape.heard : Endpoint → Bytes → Tape
  | .stream, data => ofBytes data
  | .resource _, _ => []

theorem Tape.heard_nil (endpoint : Endpoint) : heard endpoint [] = [] := by
  cases endpoint <;> rfl

theorem Tape.heard_append (endpoint : Endpoint) (data more : Bytes) :
    heard endpoint (data ++ more) = heard endpoint data ++ heard endpoint more := by
  cases endpoint with
  | stream => exact ofBytes_append data more
  | resource => rfl

namespace Inbox

theorem eq_of_next? {inbox rest : Inbox} {chunk : Chunk} (h : inbox.next? = some (chunk, rest)) :
    inbox = { rest with chunks := chunk :: rest.chunks } := by
  obtain ⟨chunks, lost⟩ := inbox
  cases chunks with
  | nil => cases h
  | cons =>
      cases h
      rfl

theorem chunks_of_next? {inbox : Inbox} (h : inbox.next? = none) : inbox.chunks = [] := by
  obtain ⟨chunks, lost⟩ := inbox
  cases chunks with
  | nil => rfl
  | cons => cases h

/-- What a read that is put into the inbox adds to the tape. -/
def offered (inbox : Inbox) (endpoint : Endpoint) (data : Bytes) : Tape :=
  if (inbox.deliver endpoint data).2 then Tape.heard endpoint data
  else (Tape.heard endpoint data).map fun _ => none

/-- The chunks are what there is of the tape, and wherever it has a gap there is a mark. -/
inductive Waits (lost : Bool) : List Chunk → Tape → Prop
  | nothing (gap : Tape) (marked : lost = false → gap = []) : Waits lost [] gap
  | chunk {chunk : Chunk} {chunks : List Chunk} (gap : Tape) {rest : Tape}
      (marked : chunk.resync = false → gap = []) (h : Waits lost chunks rest) :
      Waits lost (chunk :: chunks) (gap ++ (Tape.heard chunk.endpoint chunk.data ++ rest))

/-- Any gap at the end is covered by the mark. -/
theorem Waits.lose {lost : Bool} {chunks : List Chunk} {tape : Tape} (h : Waits lost chunks tape)
    (gap : Tape) : Waits true chunks (tape ++ gap) := by
  induction h with
  | nothing => exact .nothing _ nofun
  | chunk before marked _ ih =>
      simp only [List.append_assoc]
      exact .chunk before marked ih

/-- Chunks without a mark are contiguous. -/
theorem waits_unmarked (endpoint : Endpoint) (data : List Bytes) :
    Waits false (data.map fun piece => ⟨endpoint, piece, false⟩)
      (Tape.heard endpoint data.flatten) := by
  induction data with
  | nil => exact .nothing _ fun _ => Tape.heard_nil endpoint
  | cons piece data ih =>
      rw [List.flatten_cons, Tape.heard_append]
      exact .chunk [] (fun _ => rfl) ih

/-- A read as chunks carries the mark for the gap before it. -/
theorem waits_chunksOf (endpoint : Endpoint) {data : Bytes} (hdata : data ≠ []) {lost : Bool}
    {gap : Tape} (marked : lost = false → gap = []) :
    Waits false (chunksOf endpoint data lost) (gap ++ Tape.heard endpoint data) := by
  have hflatten := pieces_flatten (by decide : 0 < chunkCapacity) data
  cases hpieces : pieces chunkCapacity data with
  | nil =>
      rw [hpieces] at hflatten
      exact absurd hflatten.symm hdata
  | cons first rest =>
      rw [hpieces, List.flatten_cons] at hflatten
      rw [chunksOf, hpieces, ← hflatten, Tape.heard_append]
      exact .chunk gap marked (waits_unmarked endpoint rest)

theorem Waits.read {lost : Bool} {chunks : List Chunk} {tape : Tape} (h : Waits lost chunks tape)
    (endpoint : Endpoint) {data : Bytes} (hdata : data ≠ []) :
    Waits false (chunks ++ chunksOf endpoint data lost) (tape ++ Tape.heard endpoint data) := by
  induction h with
  | nothing before marked => exact waits_chunksOf endpoint hdata marked
  | chunk before marked _ ih =>
      simp only [List.append_assoc]
      exact .chunk before marked ih

/-- What waits after a read was put in, or refused. -/
theorem Waits.deliver {inbox : Inbox} {tape : Tape} (h : Waits inbox.lost inbox.chunks tape)
    (endpoint : Endpoint) (data : Bytes) :
    Waits (inbox.deliver endpoint data).1.lost (inbox.deliver endpoint data).1.chunks
      (tape ++ inbox.offered endpoint data) := by
  by_cases hsize : endpoint ≠ .stream ∧ chunkCapacity < data.length
  · have hdeliver : inbox.deliver endpoint data = (inbox, false) := if_pos hsize
    rw [offered, hdeliver]
    cases endpoint with
    | stream => exact absurd rfl hsize.1
    | resource => rwa [Tape.heard, List.map_nil, ite_self, List.append_nil]
  by_cases hdata : data = []
  · have hdeliver : inbox.deliver endpoint data = (inbox, true) :=
      (if_neg hsize).trans (if_pos hdata)
    rw [offered, hdeliver, hdata, Tape.heard_nil]
    rwa [List.map_nil, ite_self, List.append_nil]
  by_cases hroom : inbox.free < (chunksOf endpoint data inbox.lost).length
  · have hdeliver : inbox.deliver endpoint data = ({ inbox with lost := true }, false) :=
      (if_neg hsize).trans ((if_neg hdata).trans (if_pos hroom))
    rw [offered, hdeliver]
    exact h.lose _
  · have hdeliver : inbox.deliver endpoint data =
        ({ chunks := inbox.chunks ++ chunksOf endpoint data inbox.lost, lost := false }, true) :=
      (if_neg hsize).trans ((if_neg hdata).trans (if_neg hroom))
    rw [offered, hdeliver]
    exact h.read endpoint hdata

end Inbox

end WatchLink
