/-
The murmur2 hash.

The hash mixes four bytes at a time into a 32-bit word, then what is left of
them, and stirs the result.
-/

import TraceForward.Bytes

namespace TraceForward
namespace Murmur

def factor : UInt32 := 0x5BD1E995

def stir (block : UInt32) : UInt32 :=
  let block := block * factor
  (block ^^^ (block >>> 24)) * factor

/-- Mixes the bytes into the hash so far, four at a time; the last one to three
are mixed in as one short block. -/
def mix (hash : UInt32) : Bytes → UInt32
  | a :: b :: c :: d :: rest =>
      let block := UInt32.ofNat (Bytes.littleEndian [a, b, c, d])
      mix ((hash * factor) ^^^ stir block) rest
  | [] => hash
  | rest => (hash ^^^ UInt32.ofNat (Bytes.littleEndian rest)) * factor

def hash (seed : UInt32) (bytes : Bytes) : UInt32 :=
  let mixed := mix (seed ^^^ UInt32.ofNat bytes.length) bytes
  let stirred := (mixed ^^^ (mixed >>> 13)) * factor
  stirred ^^^ (stirred >>> 15)

/-- The seed that broker clients use to spread message keys. -/
def partitionSeed : UInt32 := 0x9747B28C

end Murmur
end TraceForward
