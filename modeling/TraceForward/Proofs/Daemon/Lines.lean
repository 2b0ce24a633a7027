/-
The lines of a stream do not depend on how it is read.

A stream is its finished lines, each with its line feed, and an unfinished rest, in
one way only.  Whoever reads it in pieces and puts the unfinished rest in front of the
next piece finds the lines that the whole stream has.
-/

import Mathlib.Data.List.Basic
import TraceForward.Daemon.Lines

namespace TraceForward
namespace Lines

/-! ### Cutting at line feeds -/

structure Cut (bytes : Bytes) (lines : List Bytes) (remainder : Bytes) : Prop where
  joined : lines.flatMap (· ++ [lineFeed]) ++ remainder = bytes
  unbroken : ∀ line ∈ lines, lineFeed ∉ line
  unfinished : lineFeed ∉ remainder

theorem Cut.cons {line bytes remainder : Bytes} {lines : List Bytes}
    (whole : lineFeed ∉ line) (cut : Cut bytes lines remainder) :
    Cut (line ++ lineFeed :: bytes) (line :: lines) remainder := by
  obtain ⟨rfl, unbroken, unfinished⟩ := cut
  refine ⟨?_, ?_, unfinished⟩
  · simp
  · intro other member
    rcases List.mem_cons.mp member with rfl | later
    · exact whole
    · exact unbroken other later

theorem split_cut (bytes : Bytes) : Cut bytes (split bytes).1 (split bytes).2 := by
  induction bytes with
  | nil => exact ⟨rfl, nofun, nofun⟩
  | cons byte rest ih =>
      unfold split
      generalize split rest = parts at ih
      obtain ⟨lines, remainder⟩ := parts
      by_cases breaks : byte = lineFeed
      · subst breaks
        exact ih.cons List.not_mem_nil
      · obtain ⟨rfl, unbroken, unfinished⟩ := ih
        have other : lineFeed ≠ byte := Ne.symm breaks
        cases lines with
        | nil =>
            simp only [if_neg breaks]
            exact ⟨rfl, nofun, by simp [other, unfinished]⟩
        | cons line lines =>
            simp only [if_neg breaks]
            refine ⟨rfl, ?_, unfinished⟩
            simpa [other] using unbroken

/-- A line feed that is in neither front ends both at the same place. -/
theorem eq_of_append_lineFeed {front front' back back' : Bytes} (whole : lineFeed ∉ front)
    (whole' : lineFeed ∉ front') (same : front ++ lineFeed :: back = front' ++ lineFeed :: back') :
    front = front' ∧ back = back' := by
  rcases List.append_eq_append_iff.mp same with ⟨between, rfl, rest⟩ | ⟨between, rfl, rest⟩
  all_goals
    cases between with
    | nil => simp_all
    | cons byte between =>
        obtain ⟨rfl, _⟩ := List.cons.inj rest
        simp at whole whole'

theorem Cut.exists_cons {line bytes remainder : Bytes} {lines : List Bytes}
    (cut : Cut bytes (line :: lines) remainder) :
    ∃ rest, bytes = line ++ lineFeed :: rest ∧ lineFeed ∉ line ∧ Cut rest lines remainder := by
  obtain ⟨rfl, unbroken, unfinished⟩ := cut
  refine ⟨lines.flatMap (· ++ [lineFeed]) ++ remainder, by simp, ?_, rfl, ?_, unfinished⟩
  · exact unbroken line List.mem_cons_self
  · exact fun other later => unbroken other (List.mem_cons_of_mem line later)

theorem Cut.nil_iff {bytes remainder : Bytes} {lines : List Bytes}
    (cut : Cut bytes lines remainder) : lines = [] ↔ lineFeed ∉ bytes := by
  cases lines with
  | nil =>
      obtain ⟨rfl, _, unfinished⟩ := cut
      exact ⟨fun _ => unfinished, fun _ => rfl⟩
  | cons line lines =>
      obtain ⟨rest, rfl, _⟩ := cut.exists_cons
      simp

theorem Cut.unique {bytes remainder remainder' : Bytes} {lines lines' : List Bytes}
    (cut : Cut bytes lines remainder) (cut' : Cut bytes lines' remainder') :
    lines = lines' ∧ remainder = remainder' := by
  induction lines generalizing bytes lines' with
  | nil =>
      obtain rfl : lines' = [] := cut'.nil_iff.mpr (cut.nil_iff.mp rfl)
      exact ⟨rfl, cut.joined.trans cut'.joined.symm⟩
  | cons line lines ih =>
      obtain ⟨rest, rfl, whole, later⟩ := cut.exists_cons
      cases lines' with
      | nil => exact absurd (by simp) (cut'.nil_iff.mp rfl)
      | cons line' lines' =>
          obtain ⟨rest', same, whole', later'⟩ := cut'.exists_cons
          obtain ⟨rfl, rfl⟩ := eq_of_append_lineFeed whole whole' same
          obtain ⟨rfl, rfl⟩ := ih later later'
          exact ⟨rfl, rfl⟩

theorem Cut.split_eq {bytes remainder : Bytes} {lines : List Bytes}
    (cut : Cut bytes lines remainder) : split bytes = (lines, remainder) := by
  obtain ⟨lines, remainder⟩ := (split_cut bytes).unique cut
  exact Prod.ext lines remainder

theorem Cut.append {first second middle remainder : Bytes} {lines lines' : List Bytes}
    (before : Cut first lines middle) (behind : Cut (middle ++ second) lines' remainder) :
    Cut (first ++ second) (lines ++ lines') remainder := by
  obtain ⟨rfl, unbroken, _⟩ := before
  refine ⟨?_, ?_, behind.unfinished⟩
  · rw [List.flatMap_append, List.append_assoc, behind.joined, List.append_assoc]
  · intro line member
    rcases List.mem_append.mp member with earlier | later
    · exact unbroken line earlier
    · exact behind.unbroken line later

theorem split_append (first second : Bytes) :
    split (first ++ second) =
      ((split first).1 ++ (split ((split first).2 ++ second)).1,
        (split ((split first).2 ++ second)).2) :=
  ((split_cut first).append (split_cut _)).split_eq

/-! ### Lines -/

/-- The lines of a whole stream, the unfinished one at its end included. -/
def all (bytes : Bytes) : List Bytes :=
  (split bytes).1.map chomp ++ LineReader.finish { remainder := (split bytes).2 }

theorem all_append (first second : Bytes) :
    all (first ++ second) = (split first).1.map chomp ++ all ((split first).2 ++ second) := by
  rw [all, split_append, List.map_append, List.append_assoc]
  rfl

theorem all_of_cut {bytes remainder : Bytes} {lines : List Bytes}
    (cut : Cut bytes lines remainder) :
    all bytes = lines.map chomp ++ (if remainder.isEmpty then [] else [remainder]) := by
  rw [all, cut.split_eq]
  rfl

theorem all_of_unfinished {remainder : Bytes} (unfinished : lineFeed ∉ remainder) :
    all remainder = LineReader.finish { remainder } := by
  have cut : Cut remainder [] remainder := ⟨rfl, nofun, unfinished⟩
  exact all_of_cut cut

end Lines

namespace LineReader

theorem feed_all (reader : LineReader) (piece rest : Bytes) :
    Lines.all (reader.remainder ++ (piece ++ rest)) =
      (reader.feed piece).1 ++ Lines.all ((reader.feed piece).2.remainder ++ rest) := by
  rw [← List.append_assoc, Lines.all_append]
  rfl

theorem feed_unfinished (reader : LineReader) (piece : Bytes) :
    lineFeed ∉ (reader.feed piece).2.remainder :=
  (Lines.split_cut (reader.remainder ++ piece)).unfinished

end LineReader
end TraceForward
