import WatchLink.Octets

/-!
# CRC-32

The checksum at the end of an uploaded file: the reflected polynomial `EDB88320`, the register
starts at all ones and is inverted at the end. An octet goes through the register with the word
that `table` keeps for the register's low octet.
-/

namespace WatchLink.Digest.Crc32

/-- One bit through the register. -/
def shift (register : UInt32) : UInt32 :=
  if register &&& 1 = 1 then (register >>> 1) ^^^ 0xEDB88320 else register >>> 1

/-- Eight bits through the register. -/
def shiftOctet (register : UInt32) : UInt32 :=
  (List.range 8).foldl (fun r _ => shift r) register

/-- Eight shifts of every octet. -/
def table : Array UInt32 := (Array.range 256).map fun i => shiftOctet (UInt32.ofNat i)

def step (register : UInt32) (octet : UInt8) : UInt32 :=
  table.getD ((register ^^^ octet.toUInt32) &&& 0xFF).toNat 0 ^^^ (register >>> 8)

def checksum (message : Bytes) : UInt32 :=
  message.foldl step 0xFFFFFFFF ^^^ 0xFFFFFFFF

end WatchLink.Digest.Crc32
