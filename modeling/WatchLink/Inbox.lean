import WatchLink.Transport

/-!
# The inbox

Between the radio's callback and the session stands a bounded queue of chunks. A read goes in
whole, cut into chunks, or not at all. When a read had to be refused, what is put together across
it would be nonsense; the first chunk of the next read that goes in says so, and the session then
gives up what it holds half-read. A mark that no chunk has carried yet can also be taken directly.
-/

namespace WatchLink

/-- A piece of a read. -/
structure Chunk where
  endpoint : Endpoint
  data : Bytes
  /-- Input was lost just before this chunk. -/
  resync : Bool
  deriving DecidableEq, Repr

/-- Chunks waiting to be processed, the oldest first. -/
structure Inbox where
  chunks : List Chunk := []
  /-- Input was lost since the last accepted read. -/
  lost : Bool := false
  deriving DecidableEq, Repr

namespace Inbox

/-- The octets one chunk can hold. -/
def chunkCapacity : Nat := 512

/-- The chunks the inbox can hold. -/
def depth : Nat := 32

/-- How many more chunks go in. -/
def free (inbox : Inbox) : Nat := depth - inbox.chunks.length

/-- A read as chunks, the first of which may carry the mark of lost input. -/
def chunksOf (endpoint : Endpoint) (data : Bytes) (resync : Bool) : List Chunk :=
  match pieces chunkCapacity data with
  | [] => []
  | first :: rest => ⟨endpoint, first, resync⟩ :: rest.map fun piece => ⟨endpoint, piece, false⟩

/-- Take a read in, and whether it was taken. A value of a characteristic is never cut, so one
that exceeds a chunk is refused without a mark. -/
def deliver (inbox : Inbox) (endpoint : Endpoint) (data : Bytes) : Inbox × Bool :=
  let chunks := chunksOf endpoint data inbox.lost
  if endpoint ≠ .stream ∧ chunkCapacity < data.length then (inbox, false)
  else if data = [] then (inbox, true)
  else if inbox.free < chunks.length then ({ inbox with lost := true }, false)
  else ({ chunks := inbox.chunks ++ chunks, lost := false }, true)

/-- The oldest chunk, and the rest. -/
def next? (inbox : Inbox) : Option (Chunk × Inbox) :=
  match inbox.chunks with
  | [] => none
  | chunk :: chunks => some (chunk, { inbox with chunks := chunks })

/-- Note that input was lost. -/
def markLost (inbox : Inbox) : Inbox := { inbox with lost := true }

/-- Take the mark of lost input, if it is there. -/
def takeLost (inbox : Inbox) : Inbox × Bool := ({ inbox with lost := false }, inbox.lost)

/-- Nothing waiting, nothing lost. -/
def empty : Inbox := {}

end Inbox

end WatchLink
