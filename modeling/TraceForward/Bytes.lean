/-
Byte strings and the little-endian words inside them.

A record header is one 32-bit word, a guest buffer is preceded by one 64-bit
word, and session handles are hashed by their eight bytes.  All of them are
little-endian, so one pair of functions serves every width.
-/

namespace TraceForward

abbrev Bytes := List UInt8

namespace Bytes

def ofText (text : String) : Bytes :=
  text.toUTF8.toList

def ofChars (chars : List Char) : Bytes :=
  chars.map fun char => UInt8.ofNat char.toNat

def chars (bytes : Bytes) : List Char :=
  bytes.map fun byte => Char.ofNat byte.toNat

/-- A text with one character for each byte. -/
def latin (bytes : Bytes) : String :=
  String.ofList bytes.chars

def wordLimit : Nat → Nat
  | 0 => 1
  | width + 1 => 256 * wordLimit width

def littleEndian : Bytes → Nat
  | [] => 0
  | byte :: rest => byte.toNat + 256 * littleEndian rest

def ofLittleEndian : (width value : Nat) → Bytes
  | 0, _ => []
  | width + 1, value => UInt8.ofNat value :: ofLittleEndian width (value / 256)

def word? (width : Nat) (bytes : Bytes) : Option Nat :=
  let head := bytes.take width
  if head.length = width then some (littleEndian head) else none

@[simp]
theorem length_ofLittleEndian (width value : Nat) :
    (ofLittleEndian width value).length = width := by
  induction width generalizing value with
  | zero =>
      rfl
  | succ width ih =>
      simp [ofLittleEndian, ih]

/-- Writing a number in `width` bytes and reading it back keeps it as far as
these can tell. -/
theorem littleEndian_ofLittleEndian (width value : Nat) :
    littleEndian (ofLittleEndian width value) = value % wordLimit width := by
  induction width generalizing value with
  | zero =>
      simp [ofLittleEndian, littleEndian, wordLimit, Nat.mod_one]
  | succ width ih =>
      have digit : (UInt8.ofNat value).toNat = value % 256 := by simp
      rw [ofLittleEndian, littleEndian, ih, digit, wordLimit, Nat.mod_mul]

/-- A word that was written in front of anything is read back. -/
theorem word?_ofLittleEndian_append (width value : Nat) (rest : Bytes)
    (fits : value < wordLimit width) :
    word? width (ofLittleEndian width value ++ rest) = some value := by
  have head :
      (ofLittleEndian width value ++ rest).take width = ofLittleEndian width value := by
    rw [List.take_append_of_le_length (by simp)]
    rw [List.take_of_length_le (by simp)]
  simp [word?, head, littleEndian_ofLittleEndian, Nat.mod_eq_of_lt fits]

end Bytes

end TraceForward
