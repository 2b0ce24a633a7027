/-
Words at the head of some bytes.
-/

import Mathlib.Data.List.Basic
import TraceForward.Bytes

namespace TraceForward
namespace Bytes

theorem littleEndian_lt (bytes : Bytes) : littleEndian bytes < wordLimit bytes.length := by
  induction bytes with
  | nil => decide
  | cons byte rest ih =>
      have digit := byte.toNat_lt
      simp only [littleEndian, List.length_cons, wordLimit]
      omega

theorem ofLittleEndian_littleEndian (bytes : Bytes) :
    ofLittleEndian bytes.length (littleEndian bytes) = bytes := by
  induction bytes with
  | nil => rfl
  | cons byte rest ih =>
      have digit := byte.toNat_lt
      have low : UInt8.ofNat (littleEndian (byte :: rest)) = byte := by
        apply UInt8.toNat_inj.mp
        simp only [littleEndian, UInt8.toNat_ofNat']
        omega
      have high : littleEndian (byte :: rest) / 256 = littleEndian rest := by
        simp only [littleEndian]
        omega
      rw [List.length_cons, ofLittleEndian, low, high, ih]

theorem word?_eq_none_iff {width : Nat} {bytes : Bytes} :
    word? width bytes = none ↔ bytes.length < width := by
  simp only [word?, List.length_take]
  constructor
  · intro absent
    split at absent
    · cases absent
    · omega
  · intro short
    rw [if_neg (by omega)]

theorem word?_append_of_le {width : Nat} {bytes : Bytes} (inside : width ≤ bytes.length)
    (more : Bytes) : word? width (bytes ++ more) = word? width bytes := by
  simp only [word?, List.take_append_of_le_length inside]

theorem eq_ofLittleEndian_of_word? {width word : Nat} {bytes : Bytes}
    (read : word? width bytes = some word) :
    word < wordLimit width ∧ bytes = ofLittleEndian width word ++ bytes.drop width := by
  simp only [word?] at read
  split at read
  next long =>
    have same : littleEndian (bytes.take width) = word := Option.some.inj read
    have small := littleEndian_lt (bytes.take width)
    have written := ofLittleEndian_littleEndian (bytes.take width)
    rw [long, same] at small written
    refine ⟨small, ?_⟩
    rw [written, List.take_append_drop]
  next => cases read

end Bytes

end TraceForward
