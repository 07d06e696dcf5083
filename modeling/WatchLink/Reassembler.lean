import WatchLink.Frame.Octets

/-!
# Frames out of a stream

Reads of a stream stop anywhere: inside a header, after a frame and a half. The reassembler keeps
what has not been cut yet and cuts segments off its front: `Segment.frame` is as long as its own
header declares, `Segment.noise` is what stands before the next place a frame may start. Segments
keep their bytes, so together with what stays buffered they are the input again.

When the buffer does not start with a preamble, everything before the next first preamble octet
goes, and everything when that octet has fewer than two after it. A preamble cut in two by such a
moment is lost.
-/

namespace WatchLink

/-- What is cut off the front of the buffer. -/
inductive Segment where
  /-- Bytes before a place where a frame may start. -/
  | noise (bytes : Bytes)
  /-- A header and as many bytes as it declares. -/
  | frame (bytes : Bytes)
  deriving DecidableEq, Repr

namespace Segment

def bytes : Segment → Bytes
  | noise bytes => bytes
  | frame bytes => bytes

def decoded? : Segment → Option Frame
  | noise _ => none
  | frame bytes => (Frame.decode bytes).toOption

def noiseSize : Segment → Nat
  | noise bytes => bytes.length
  | frame _ => 0

/-- Whether a segment was as long as a frame and yet none. -/
def isBroken : Segment → Bool
  | noise _ => false
  | frame bytes => (Frame.decode bytes).toOption.isNone

/-- How many bytes stand before the next first preamble octet with two more after it; all of
them when there is none. -/
def beforeCandidate : Bytes → Nat
  | [] => 0
  | b :: rest =>
    match rest with
    | _ :: _ :: _ => if b = 0xBA then 0 else beforeCandidate rest + 1
    | _ => beforeCandidate rest + 1

/-- The segment at the front of the buffer and what is left; `none` while its end has not come. -/
def cut? (buffer : Bytes) : Option (Segment × Bytes) :=
  match buffer with
  | p0 :: p1 :: p2 :: channel :: flags :: low :: high :: opcode :: serial :: dataType ::
      first :: rest =>
    if [p0, p1, p2] = Frame.preamble then
      let size := (Bytes.word16 low high).toNat + Frame.lengthOffset
      let head := buffer.take size
      if head.length < size then none else some (.frame head, buffer.drop size)
    else
      let size := beforeCandidate (p1 :: p2 :: channel :: flags :: low :: high :: opcode ::
        serial :: dataType :: first :: rest) + 1
      some (.noise (buffer.take size), buffer.drop size)
  | _ => none

/-- All segments at the front of the buffer, in order, and what is left. -/
def cutAll (buffer : Bytes) : List Segment × Bytes :=
  go buffer.length buffer []
where
  /-- No segment is empty, so there are no more of them than bytes. -/
  go : Nat → Bytes → List Segment → List Segment × Bytes
    | 0, buffer, segments => (segments.reverse, buffer)
    | k + 1, buffer, segments =>
      match cut? buffer with
      | none => (segments.reverse, buffer)
      | some (segment, rest) => go k rest (segment :: segments)

end Segment

/-- The state of a stream's reading end. -/
structure Reassembler where
  /-- What has not been cut yet. -/
  buffer : Bytes := []
  /-- Bytes given up as noise so far. -/
  discarded : Nat := 0
  /-- Segments given up as broken frames so far. -/
  dropped : Nat := 0
  deriving DecidableEq, Repr

namespace Reassembler

/-- Take in a read; the frames it completes, in order. -/
def push (r : Reassembler) (data : Bytes) : Reassembler × List Frame :=
  let (segments, rest) := Segment.cutAll (r.buffer ++ data)
  ({ buffer := rest
     discarded := segments.foldl (fun size segment => size + segment.noiseSize) r.discarded
     dropped := r.dropped + segments.countP Segment.isBroken },
   segments.filterMap Segment.decoded?)

/-- Give up what has not been cut. The totals stay. -/
def reset (r : Reassembler) : Reassembler := { r with buffer := [] }

end Reassembler

end WatchLink
