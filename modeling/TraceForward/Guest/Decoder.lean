/-
Length-prefixed buffers.

A guest sends each buffer behind its length, a 64-bit word.  A length above
the limit ends the stream with a fault; so does an end in the middle of a
buffer.
-/

import TraceForward.Bytes

namespace TraceForward

structure BufferDecoder where
  limit : Nat
  /-- The length of the buffer under way, once its length is read. -/
  expected : Option Nat := none
  unread : Bytes := []
deriving DecidableEq, Repr

inductive Decoded where
  | buffer (payload : Bytes)
  | incomplete
  | tooLong
deriving DecidableEq, Repr

namespace BufferDecoder

def lengthSize : Nat := 8

def encode (payload : Bytes) : Bytes :=
  Bytes.ofLittleEndian lengthSize payload.length ++ payload

def takePayload (decoder : BufferDecoder) (length : Nat) : Decoded × BufferDecoder :=
  if decoder.unread.length < length then
    (.incomplete, { decoder with expected := some length })
  else
    (.buffer (decoder.unread.take length),
      { decoder with expected := none, unread := decoder.unread.drop length })

def next (decoder : BufferDecoder) : Decoded × BufferDecoder :=
  match decoder.expected with
  | some length => decoder.takePayload length
  | none =>
      match decoder.unread.word? lengthSize with
      | none => (.incomplete, decoder)
      | some length =>
          if decoder.limit < length then
            (.tooLong, decoder)
          else
            { decoder with unread := decoder.unread.drop lengthSize }.takePayload length

def feed (decoder : BufferDecoder) (piece : Bytes) : BufferDecoder :=
  { decoder with unread := decoder.unread ++ piece }

end BufferDecoder

end TraceForward
