/-
Lines of a byte stream.

A line ends at a line feed, which is not part of it, and neither is a carriage
return right in front of that.  What follows the last line feed is a line of
its own at the end of the stream, unless it is empty.
-/

import TraceForward.Bytes

namespace TraceForward

def lineFeed : UInt8 := 0x0A

/-- The byte that is dropped in front of a line feed. -/
def carriageReturn : UInt8 := 0x0D

namespace Lines

def chomp (line : Bytes) : Bytes :=
  if line.getLast? = some carriageReturn then line.dropLast else line

/-- Splits a stream at its line feeds: the finished lines, and the bytes after
the last line feed. -/
def split : Bytes → List Bytes × Bytes
  | [] => ([], [])
  | byte :: rest =>
      let (lines, remainder) := split rest
      if byte = lineFeed then
        ([] :: lines, remainder)
      else
        match lines with
        | [] => ([], byte :: remainder)
        | line :: lines => ((byte :: line) :: lines, remainder)

end Lines

structure LineReader where
  remainder : Bytes := []
deriving DecidableEq, Repr

namespace LineReader

def feed (reader : LineReader) (piece : Bytes) : List Bytes × LineReader :=
  let (lines, remainder) := Lines.split (reader.remainder ++ piece)
  (lines.map Lines.chomp, { remainder })

def finish (reader : LineReader) : List Bytes :=
  if reader.remainder.isEmpty then [] else [reader.remainder]

end LineReader

end TraceForward
