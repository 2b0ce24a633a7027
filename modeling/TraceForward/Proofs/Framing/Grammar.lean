/-
Which fragments make up which message.

A message reaches from a fragment that begins with an opening marker to one that begins
with a closing marker, and no fragment between them begins with a marker.  This is said
of the row of fragments alone.  A source gives out these messages in their order however
it is drained, and what it throws away and what it has begun are read off the same row,
in which every fragment has one place.
-/

import Mathlib.Data.Nat.Count
import TraceForward.Proofs.Framing.Messages
import TraceForward.Proofs.Framing.Sources

namespace TraceForward
namespace Fragments

variable {fragments : List Bytes} {fragment : Bytes} {i j k : Nat}

/-! ### Markers -/

def marks (fragments : List Bytes) (marker : UInt8) (k : Nat) : Bool :=
  fragments[k]?.any (beginsWith marker)

def Unmarked (fragments : List Bytes) (k : Nat) : Prop :=
  marks fragments openMarker k = false ∧ marks fragments closeMarker k = false

instance : Decidable (Unmarked fragments k) :=
  inferInstanceAs (Decidable (_ ∧ _))

theorem marks_lt {marker : UInt8} (marked : marks fragments marker k = true) :
    k < fragments.length := by
  by_contra beyond
  rw [marks, List.getElem?_eq_none (Nat.le_of_not_lt beyond)] at marked
  cases marked

theorem beginsWith_one (opening : beginsWith openMarker fragment = true) :
    beginsWith closeMarker fragment = false := by
  rw [beginsWith, beq_iff_eq] at opening
  rw [beginsWith, opening]
  rfl

theorem beginsWith_other (closing : beginsWith closeMarker fragment = true) :
    beginsWith openMarker fragment = false := by
  by_contra opening
  have other := beginsWith_one (Bool.eq_true_of_not_eq_false opening)
  cases closing.symm.trans other

theorem marks_one (opening : marks fragments openMarker k = true) :
    marks fragments closeMarker k = false := by
  cases found : fragments[k]? with
  | none => simp [marks, found]
  | some fragment =>
      simp only [marks, found, Option.any_some] at opening ⊢
      exact beginsWith_one opening

theorem marks_concat {marker : UInt8} (within : k < fragments.length) :
    marks (fragments ++ [fragment]) marker k = marks fragments marker k := by
  rw [marks, List.getElem?_append_left within, marks]

theorem marks_last {marker : UInt8} :
    marks (fragments ++ [fragment]) marker fragments.length = beginsWith marker fragment := by
  rw [marks, List.getElem?_concat_length, Option.any_some]

/-! ### Messages -/

/-- In front of fragment `j`, the message that fragment `i` begins is open. -/
def Open (fragments : List Bytes) (i j : Nat) : Prop :=
  i < j ∧ marks fragments openMarker i = true ∧ ∀ k < j, i < k → Unmarked fragments k

instance : Decidable (Open fragments i j) :=
  inferInstanceAs (Decidable (_ ∧ _ ∧ ∀ k < j, i < k → Unmarked fragments k))

/-- Fragments `i` to `j` are a message. -/
def Message (fragments : List Bytes) (i j : Nat) : Prop :=
  Open fragments i j ∧ marks fragments closeMarker j = true

def Busy (fragments : List Bytes) (k : Nat) : Prop :=
  ∃ i < k, Open fragments i k

instance : DecidablePred (Busy fragments) := fun k =>
  inferInstanceAs (Decidable (∃ i < k, Open fragments i k))

/-- A fragment that belongs to no message. -/
def Stray (fragments : List Bytes) (k : Nat) : Prop :=
  marks fragments openMarker k = false ∧ ¬ Busy fragments k

instance : DecidablePred (Stray fragments) := fun _ =>
  inferInstanceAs (Decidable (_ ∧ _))

/-- A fragment that begins a message while another is open. -/
def Reopens (fragments : List Bytes) (k : Nat) : Prop :=
  marks fragments openMarker k = true ∧ Busy fragments k

instance : DecidablePred (Reopens fragments) := fun _ =>
  inferInstanceAs (Decidable (_ ∧ _))

def slice (fragments : List Bytes) (i j : Nat) : List Bytes :=
  (fragments.take (j + 1)).drop i

theorem Open.busy (opened : Open fragments i k) : Busy fragments k :=
  ⟨i, opened.1, opened⟩

theorem Open.unique {i' : Nat} (opened : Open fragments i k) (opened' : Open fragments i' k) :
    i = i' := by
  obtain ⟨before, opening, clear⟩ := opened
  obtain ⟨before', opening', clear'⟩ := opened'
  rcases Nat.lt_trichotomy i i' with less | same | more
  · exact absurd opening' (Bool.eq_false_iff.mp (clear i' before' less).1)
  · exact same
  · exact absurd opening (Bool.eq_false_iff.mp (clear' i before more).1)

theorem open_succ :
    Open fragments i (k + 1) ↔
      (i = k ∧ marks fragments openMarker k = true) ∨
        (Open fragments i k ∧ Unmarked fragments k) := by
  constructor
  · rintro ⟨before, opening, clear⟩
    rcases Nat.lt_or_eq_of_le (Nat.le_of_lt_succ before) with earlier | rfl
    · refine .inr ⟨⟨earlier, opening, ?_⟩, clear k (Nat.lt_succ_self k) earlier⟩
      exact fun other less => clear other (Nat.lt_succ_of_lt less)
    · exact .inl ⟨rfl, opening⟩
  · rintro (⟨rfl, opening⟩ | ⟨⟨before, opening, clear⟩, plain⟩)
    · refine ⟨Nat.lt_succ_self i, opening, ?_⟩
      intro other less more
      omega
    · refine ⟨Nat.lt_succ_of_lt before, opening, ?_⟩
      intro other less more
      rcases Nat.lt_or_eq_of_le (Nat.le_of_lt_succ less) with earlier | rfl
      · exact clear other earlier more
      · exact plain

theorem open_concat (within : k ≤ fragments.length) :
    Open (fragments ++ [fragment]) i k ↔ Open fragments i k := by
  have same (other : Nat) (less : other < k) (marker : UInt8) :
      marks (fragments ++ [fragment]) marker other = marks fragments marker other :=
    marks_concat (Nat.lt_of_lt_of_le less within)
  constructor
  · rintro ⟨before, opening, clear⟩
    refine ⟨before, (same i before _).symm.trans opening, ?_⟩
    intro other less more
    have plain := clear other less more
    rwa [Unmarked, same other less, same other less] at plain
  · rintro ⟨before, opening, clear⟩
    refine ⟨before, (same i before _).trans opening, ?_⟩
    intro other less more
    have plain := clear other less more
    rwa [Unmarked, ← same other less, ← same other less] at plain

theorem open_last :
    Open (fragments ++ [fragment]) i (fragments ++ [fragment]).length ↔
      (i = fragments.length ∧ beginsWith openMarker fragment = true) ∨
        (Open fragments i fragments.length ∧ beginsWith openMarker fragment = false ∧
          beginsWith closeMarker fragment = false) := by
  rw [List.length_append, List.length_singleton, open_succ, Unmarked, marks_last, marks_last,
    open_concat (Nat.le_refl _)]

theorem busy_concat (within : k ≤ fragments.length) :
    Busy (fragments ++ [fragment]) k ↔ Busy fragments k := by
  simp only [Busy, open_concat within]

theorem message_concat :
    Message (fragments ++ [fragment]) i j ↔
      Message fragments i j ∨
        (j = fragments.length ∧ Open fragments i j ∧ beginsWith closeMarker fragment = true) := by
  constructor
  · rintro ⟨opened, closing⟩
    have within := marks_lt closing
    rw [List.length_append, List.length_singleton] at within
    rw [open_concat (Nat.le_of_lt_succ within)] at opened
    rcases Nat.lt_or_eq_of_le (Nat.le_of_lt_succ within) with earlier | rfl
    · exact .inl ⟨opened, (marks_concat earlier).symm.trans closing⟩
    · exact .inr ⟨rfl, opened, marks_last.symm.trans closing⟩
  · rintro (⟨opened, closing⟩ | ⟨rfl, opened, closing⟩)
    · have within := marks_lt closing
      exact ⟨(open_concat (Nat.le_of_lt within)).mpr opened, (marks_concat within).trans closing⟩
    · exact ⟨(open_concat (Nat.le_refl _)).mpr opened, marks_last.trans closing⟩

theorem message_plain (plain : beginsWith closeMarker fragment = false) :
    Message (fragments ++ [fragment]) i j ↔ Message fragments i j := by
  simp only [message_concat, plain, Bool.false_eq_true, and_false, or_false]

theorem slice_concat (within : j < fragments.length) :
    slice (fragments ++ [fragment]) i j = slice fragments i j := by
  rw [slice, List.take_append_of_le_length within, slice]

theorem slice_last (within : i ≤ fragments.length) :
    slice (fragments ++ [fragment]) i fragments.length = fragments.drop i ++ [fragment] := by
  rw [slice, List.take_of_length_le (by simp), List.drop_append_of_le_length within]

/-! ### What is counted -/

theorem count_concat (Holds : List Bytes → Nat → Prop) [∀ row, DecidablePred (Holds row)]
    (kept : ∀ k < fragments.length, Holds (fragments ++ [fragment]) k ↔ Holds fragments k) :
    Nat.count (Holds (fragments ++ [fragment])) (fragments ++ [fragment]).length =
      Nat.count (Holds fragments) fragments.length +
        if Holds (fragments ++ [fragment]) fragments.length then 1 else 0 := by
  have same : Nat.count (Holds (fragments ++ [fragment])) fragments.length =
      Nat.count (Holds fragments) fragments.length := by
    apply Nat.le_antisymm
    · exact Nat.count_mono_left fun k within => (kept k within).mp
    · exact Nat.count_mono_left fun k within => (kept k within).mpr
  rw [List.length_append, List.length_singleton, Nat.count_succ, same]

theorem stray_concat (within : k < fragments.length) :
    Stray (fragments ++ [fragment]) k ↔ Stray fragments k := by
  rw [Stray, marks_concat within, busy_concat (Nat.le_of_lt within), Stray]

theorem reopens_concat (within : k < fragments.length) :
    Reopens (fragments ++ [fragment]) k ↔ Reopens fragments k := by
  rw [Reopens, marks_concat within, busy_concat (Nat.le_of_lt within), Reopens]

theorem stray_last :
    Stray (fragments ++ [fragment]) fragments.length ↔
      beginsWith openMarker fragment = false ∧ ¬ Busy fragments fragments.length := by
  rw [Stray, marks_last, busy_concat (Nat.le_refl _)]

theorem reopens_last :
    Reopens (fragments ++ [fragment]) fragments.length ↔
      beginsWith openMarker fragment = true ∧ Busy fragments fragments.length := by
  rw [Reopens, marks_last, busy_concat (Nat.le_refl _)]

/-- The strays, and the messages that another one begins in. -/
def lost (fragments : List Bytes) : Nat :=
  Nat.count (Stray fragments) fragments.length + Nat.count (Reopens fragments) fragments.length

theorem lost_concat :
    lost (fragments ++ [fragment]) =
      lost fragments +
        if (beginsWith openMarker fragment = true ↔ Busy fragments fragments.length) then 1
        else 0 := by
  rw [lost, count_concat Stray fun k => stray_concat,
    count_concat Reopens fun k => reopens_concat, lost]
  simp only [stray_last, reopens_last]
  cases beginsWith openMarker fragment <;>
    by_cases busy : Busy fragments fragments.length <;> simp [busy] <;> omega

end Fragments

/-! ### The framer -/

namespace TextFramer

variable {framer : TextFramer} {fragment message : Bytes}

theorem push_opening (opening : beginsWith openMarker fragment = true) :
    framer.push fragment =
      (none,
        { message := some fragment
          discarded := framer.discarded + if framer.isOpen then 1 else 0 }) := by
  have other := Fragments.beginsWith_one opening
  simp only [push, opened, opening, other, if_true, Bool.false_eq_true, if_false,
    List.nil_append]

theorem push_stray (plain : beginsWith openMarker fragment = false)
    (idle : framer.message = none) :
    framer.push fragment = (none, { framer with discarded := framer.discarded + 1 }) := by
  simp only [push, opened, plain, Bool.false_eq_true, if_false, idle]

theorem push_closing (closing : beginsWith closeMarker fragment = true)
    (begun : framer.message = some message) :
    framer.push fragment = (some (message ++ fragment), { framer with message := none }) := by
  have plain := Fragments.beginsWith_other closing
  simp only [push, opened, plain, Bool.false_eq_true, if_false, begun, closing, if_true]

theorem push_within (plain : beginsWith openMarker fragment = false)
    (goesOn : beginsWith closeMarker fragment = false) (begun : framer.message = some message) :
    framer.push fragment = (none, { framer with message := some (message ++ fragment) }) := by
  simp only [push, opened, plain, goesOn, Bool.false_eq_true, if_false, begun]

end TextFramer

namespace Fragments

variable {fragments : List Bytes} {fragment : Bytes} {spans : List (Nat × Nat)}
  {messages : List Bytes} {framer : TextFramer}

/-- The spans of the messages in a row of fragments, from left to right. -/
structure Spans (fragments : List Bytes) (spans : List (Nat × Nat)) : Prop where
  apart : spans.Pairwise fun first second => first.2 < second.1
  complete : ∀ i j, (i, j) ∈ spans ↔ Message fragments i j

def payload (fragments : List Bytes) (span : Nat × Nat) : Bytes :=
  (slice fragments span.1 span.2).flatten

theorem Spans.plain (known : Spans fragments spans)
    (goesOn : beginsWith closeMarker fragment = false) :
    Spans (fragments ++ [fragment]) spans :=
  ⟨known.apart, fun i j => (known.complete i j).trans (message_plain goesOn).symm⟩

theorem Spans.idle (known : Spans fragments spans) (idle : ¬ Busy fragments fragments.length) :
    Spans (fragments ++ [fragment]) spans := by
  refine ⟨known.apart, ?_⟩
  intro i j
  rw [known.complete, message_concat, or_iff_left]
  rintro ⟨rfl, opened, _⟩
  exact idle opened.busy

theorem Spans.close (known : Spans fragments spans) {i : Nat}
    (opened : Open fragments i fragments.length)
    (closing : beginsWith closeMarker fragment = true) :
    Spans (fragments ++ [fragment]) (spans ++ [(i, fragments.length)]) := by
  constructor
  · rw [List.pairwise_append]
    refine ⟨known.apart, List.pairwise_singleton _ _, ?_⟩
    rintro ⟨i', j'⟩ member last found
    obtain rfl := List.mem_singleton.mp found
    obtain ⟨_, ends⟩ := (known.complete i' j').mp member
    -- An end of a message neither begins one nor stands inside the one that is open.
    by_contra overlaps
    rcases Nat.lt_or_eq_of_le (Nat.le_of_not_lt overlaps) with inside | rfl
    · exact absurd ends (Bool.eq_false_iff.mp (opened.2.2 j' (marks_lt ends) inside).2)
    · exact absurd ends (Bool.eq_false_iff.mp (marks_one opened.2.1))
  · intro i' j'
    rw [List.mem_append, known.complete, message_concat, List.mem_singleton, Prod.mk.injEq]
    refine or_congr_right ?_
    constructor
    · rintro ⟨rfl, rfl⟩
      exact ⟨rfl, opened, closing⟩
    · rintro ⟨rfl, opened', _⟩
      exact ⟨opened'.unique opened, rfl⟩

theorem Spans.payload_concat (known : Spans fragments spans) :
    spans.map (payload (fragments ++ [fragment])) = spans.map (payload fragments) := by
  apply List.map_congr_left
  rintro ⟨i, j⟩ member
  have ends := ((known.complete i j).mp member).2
  rw [payload, slice_concat (marks_lt ends), payload]

structure Scanned (fragments : List Bytes) (spans : List (Nat × Nat)) (messages : List Bytes)
    (framer : TextFramer) : Prop where
  known : Spans fragments spans
  payloads : messages = spans.map (payload fragments)
  opened : ∀ i, Open fragments i fragments.length →
    framer.message = some (fragments.drop i).flatten
  idle : ¬ Busy fragments fragments.length → framer.message = none
  lost : framer.discarded = lost fragments

theorem Scanned.isOpen_iff (scanned : Scanned fragments spans messages framer) :
    framer.isOpen = true ↔ Busy fragments fragments.length := by
  constructor
  · intro isOpen
    by_contra idle
    rw [TextFramer.isOpen, scanned.idle idle] at isOpen
    cases isOpen
  · rintro ⟨i, _, opened⟩
    rw [TextFramer.isOpen, scanned.opened i opened]
    rfl

theorem Scanned.begin (scanned : Scanned fragments spans messages framer)
    (opening : beginsWith openMarker fragment = true) :
    Scanned (fragments ++ [fragment]) spans (messages ++ (framer.push fragment).1.toList)
      (framer.push fragment).2 := by
  have begun : Open (fragments ++ [fragment]) fragments.length
      (fragments ++ [fragment]).length := open_last.mpr (.inl ⟨rfl, opening⟩)
  rw [TextFramer.push_opening opening]
  refine ⟨scanned.known.plain (beginsWith_one opening), ?_, ?_, ?_, ?_⟩
  · rw [Option.toList_none, List.append_nil, scanned.known.payload_concat]
    exact scanned.payloads
  · intro i opened
    obtain rfl := opened.unique begun
    simp
  · exact fun idle => absurd begun.busy idle
  · rw [lost_concat, opening, scanned.lost]
    simp only [scanned.isOpen_iff, true_iff]

theorem Scanned.pass (scanned : Scanned fragments spans messages framer)
    (plain : beginsWith openMarker fragment = false)
    (idle : ¬ Busy fragments fragments.length) :
    Scanned (fragments ++ [fragment]) spans (messages ++ (framer.push fragment).1.toList)
      (framer.push fragment).2 := by
  rw [TextFramer.push_stray plain (scanned.idle idle)]
  refine ⟨scanned.known.idle idle, ?_, ?_, fun _ => scanned.idle idle, ?_⟩
  · rw [Option.toList_none, List.append_nil, scanned.known.payload_concat]
    exact scanned.payloads
  · intro i opened
    rcases open_last.mp opened with ⟨_, opening⟩ | ⟨before, _⟩
    · cases plain.symm.trans opening
    · exact absurd before.busy idle
  · rw [lost_concat, plain, scanned.lost]
    simp only [Bool.false_eq_true, idle, if_true]

theorem Scanned.close (scanned : Scanned fragments spans messages framer) {i : Nat}
    (opened : Open fragments i fragments.length)
    (closing : beginsWith closeMarker fragment = true) :
    Scanned (fragments ++ [fragment]) (spans ++ [(i, fragments.length)])
      (messages ++ (framer.push fragment).1.toList) (framer.push fragment).2 := by
  have plain : beginsWith openMarker fragment = false := beginsWith_other closing
  rw [TextFramer.push_closing closing (scanned.opened i opened)]
  refine ⟨scanned.known.close opened closing, ?_, ?_, fun _ => rfl, ?_⟩
  · rw [List.map_append, scanned.known.payload_concat, ← scanned.payloads, List.map_singleton,
      payload, slice_last (Nat.le_of_lt opened.1), List.flatten_append, List.flatten_singleton]
    rfl
  · intro other later
    rcases open_last.mp later with ⟨_, opening⟩ | ⟨_, _, goesOn⟩
    · cases plain.symm.trans opening
    · cases goesOn.symm.trans closing
  · rw [lost_concat, plain]
    simp only [Bool.false_eq_true, false_iff, opened.busy, not_true_eq_false, if_false]
    exact scanned.lost

theorem Scanned.grow (scanned : Scanned fragments spans messages framer) {i : Nat}
    (opened : Open fragments i fragments.length)
    (plain : beginsWith openMarker fragment = false)
    (goesOn : beginsWith closeMarker fragment = false) :
    Scanned (fragments ++ [fragment]) spans (messages ++ (framer.push fragment).1.toList)
      (framer.push fragment).2 := by
  have still : Open (fragments ++ [fragment]) i (fragments ++ [fragment]).length :=
    open_last.mpr (.inr ⟨opened, plain, goesOn⟩)
  rw [TextFramer.push_within plain goesOn (scanned.opened i opened)]
  refine ⟨scanned.known.plain goesOn, ?_, ?_, ?_, ?_⟩
  · rw [Option.toList_none, List.append_nil, scanned.known.payload_concat]
    exact scanned.payloads
  · intro other later
    obtain rfl := later.unique still
    simp [List.drop_append_of_le_length (Nat.le_of_lt opened.1)]
  · exact fun idle => absurd still.busy idle
  · rw [lost_concat, plain]
    simp only [Bool.false_eq_true, false_iff, opened.busy, not_true_eq_false, if_false]
    exact scanned.lost

theorem Scanned.push (scanned : Scanned fragments spans messages framer) (fragment : Bytes) :
    ∃ spans', Scanned (fragments ++ [fragment]) spans'
      (messages ++ (framer.push fragment).1.toList) (framer.push fragment).2 := by
  cases opening : beginsWith openMarker fragment with
  | true => exact ⟨spans, scanned.begin opening⟩
  | false =>
      by_cases busy : Busy fragments fragments.length
      · obtain ⟨i, _, opened⟩ := busy
        cases closing : beginsWith closeMarker fragment with
        | true => exact ⟨_, scanned.close opened closing⟩
        | false => exact ⟨spans, scanned.grow opened opening closing⟩
      · exact ⟨spans, scanned.pass opening busy⟩

theorem scanned_pushAll (fragments : List Bytes) :
    ∃ spans, Scanned fragments spans (TextFramer.pushAll {} fragments).1
      (TextFramer.pushAll {} fragments).2 := by
  induction fragments using List.reverseRecOn with
  | nil =>
      refine ⟨[], ⟨List.Pairwise.nil, ?_⟩, rfl, ?_, fun _ => rfl, rfl⟩
      · intro i j
        constructor
        · exact fun member => absurd member List.not_mem_nil
        · exact fun message => absurd (marks_lt message.2) (Nat.not_lt_zero j)
      · exact fun i opened => absurd opened.1 (Nat.not_lt_zero i)
  | append_singleton fragments fragment ih =>
      obtain ⟨spans, scanned⟩ := ih
      rw [TextFramer.pushAll_concat]
      exact scanned.push fragment

/-! ### Every fragment has one place -/

inductive Place where
  | message (first last : Nat)
  | discarded (first next : Nat)
  | unfinished (first : Nat)
  | stray
deriving DecidableEq, Repr

def Place.Holds (fragments : List Bytes) (k : Nat) : Place → Prop
  | .message i j => Message fragments i j ∧ i ≤ k ∧ k ≤ j
  | .discarded i j => Open fragments i j ∧ marks fragments openMarker j = true ∧ i ≤ k ∧ k < j
  | .unfinished i => Open fragments i fragments.length ∧ i ≤ k
  | .stray => Stray fragments k

/-- Fragment `k` stands in what fragment `i` begins and what is over at `j`. -/
structure Stretch (fragments : List Bytes) (i j k : Nat) : Prop where
  opened : Open fragments i j
  stopped : j = fragments.length ∨ ¬ Unmarked fragments j
  first : i ≤ k
  last : k < j ∨ (k = j ∧ marks fragments closeMarker j = true)

variable {i j i' j' k : Nat}

theorem Stretch.first_le (stretch : Stretch fragments i j k)
    (stretch' : Stretch fragments i' j' k) : i' ≤ i := by
  by_contra behind
  have opening := stretch'.opened.2.1
  have inside := stretch'.first
  rcases stretch.last with before | ⟨rfl, closing⟩
  · have plain := stretch.opened.2.2 i' (by omega) (by omega)
    exact absurd opening (Bool.eq_false_iff.mp plain.1)
  · rcases Nat.lt_or_eq_of_le inside with earlier | rfl
    · have plain := stretch.opened.2.2 i' earlier (by omega)
      exact absurd opening (Bool.eq_false_iff.mp plain.1)
    · exact absurd closing (Bool.eq_false_iff.mp (marks_one opening))

theorem Stretch.le_length (stretch : Stretch fragments i j k) : j ≤ fragments.length := by
  rcases stretch.stopped with rfl | marked
  · exact Nat.le_refl _
  · by_contra beyond
    have none' (marker : UInt8) : marks fragments marker j = false :=
      Bool.eq_false_iff.mpr fun marked => beyond (Nat.le_of_lt (marks_lt marked))
    exact marked ⟨none' _, none' _⟩

theorem Stretch.over_le (stretch : Stretch fragments i j k)
    (stretch' : Stretch fragments i j' k) : j' ≤ j := by
  by_contra behind
  have within := stretch'.le_length
  rcases stretch.stopped with rfl | marked
  · omega
  · exact marked (stretch'.opened.2.2 j (by omega) stretch.opened.1)

theorem Stretch.unique (stretch : Stretch fragments i j k)
    (stretch' : Stretch fragments i' j' k) : i = i' ∧ j = j' := by
  obtain rfl : i = i' :=
    Nat.le_antisymm (stretch'.first_le stretch) (stretch.first_le stretch')
  exact ⟨rfl, Nat.le_antisymm (stretch'.over_le stretch) (stretch.over_le stretch')⟩

theorem Stretch.not_stray (stretch : Stretch fragments i j k) : ¬ Stray fragments k := by
  rintro ⟨plain, idle⟩
  rcases Nat.lt_or_eq_of_le stretch.first with behind | rfl
  · refine idle ⟨i, behind, behind, stretch.opened.2.1, ?_⟩
    have within : k ≤ j := by
      rcases stretch.last with before | ⟨same, _⟩ <;> omega
    exact fun other less => stretch.opened.2.2 other (by omega)
  · cases plain.symm.trans stretch.opened.2.1

/-- A message that is open behind a fragment is over there where the next marker stands, or
where the row ends. -/
theorem exists_stretch (within : k < fragments.length) (opened : Open fragments i (k + 1)) :
    ∃ j, k < j ∧ Stretch fragments i j k := by
  have first : i ≤ k := Nat.le_of_lt_succ opened.1
  have goesOn (m : Nat) (behind : k + 1 ≤ m) :
      Open fragments i m ∨
        ∃ j, k < j ∧ Open fragments i j ∧ ¬ Unmarked fragments j := by
    induction m, behind using Nat.le_induction with
    | base => exact .inl opened
    | succ m behind ih =>
        rcases ih with opened | found
        · by_cases plain : Unmarked fragments m
          · exact .inl (open_succ.mpr (.inr ⟨opened, plain⟩))
          · exact .inr ⟨m, behind, opened, plain⟩
        · exact .inr found
  rcases goesOn fragments.length within with opened | ⟨j, behind, opened, marked⟩
  · exact ⟨fragments.length, within, opened, .inl rfl, first, .inl within⟩
  · exact ⟨j, behind, opened, .inr marked, first, .inl behind⟩

theorem Stretch.exists_place (stretch : Stretch fragments i j k) (before : k < j) :
    ∃ place : Place, place.Holds fragments k := by
  rcases stretch.stopped with rfl | marked
  · exact ⟨.unfinished i, stretch.opened, stretch.first⟩
  · by_cases opening : marks fragments openMarker j = true
    · exact ⟨.discarded i j, stretch.opened, opening, stretch.first, before⟩
    · have closing : marks fragments closeMarker j = true := by
        by_contra plain
        exact marked ⟨Bool.eq_false_iff.mpr opening, Bool.eq_false_iff.mpr plain⟩
      exact ⟨.message i j, ⟨stretch.opened, closing⟩, stretch.first, Nat.le_of_lt before⟩

theorem exists_place (within : k < fragments.length) :
    ∃ place : Place, place.Holds fragments k := by
  by_cases opening : marks fragments openMarker k = true
  · obtain ⟨j, before, stretch⟩ := exists_stretch within (open_succ.mpr (.inl ⟨rfl, opening⟩))
    exact stretch.exists_place before
  · have plain := Bool.eq_false_iff.mpr opening
    by_cases busy : Busy fragments k
    · obtain ⟨i, behind, opened⟩ := busy
      by_cases closing : marks fragments closeMarker k = true
      · exact ⟨.message i k, ⟨opened, closing⟩, Nat.le_of_lt behind, Nat.le_refl k⟩
      · have goesOn : Unmarked fragments k := ⟨plain, Bool.eq_false_iff.mpr closing⟩
        obtain ⟨j, before, stretch⟩ := exists_stretch within (open_succ.mpr (.inr ⟨opened, goesOn⟩))
        exact stretch.exists_place before
    · exact ⟨.stray, plain, busy⟩

theorem Place.Holds.cases {place : Place} (holds : place.Holds fragments k)
    (within : k < fragments.length) :
    (place = .stray ∧ Stray fragments k) ∨
      ∃ i j, Stretch fragments i j k ∧
        ((place = .message i j ∧ marks fragments closeMarker j = true) ∨
          (place = .discarded i j ∧ marks fragments openMarker j = true) ∨
          (place = .unfinished i ∧ j = fragments.length)) := by
  cases place with
  | message i j =>
      obtain ⟨⟨opened, closing⟩, first, last⟩ := holds
      have marked : ¬ Unmarked fragments j :=
        fun plain => absurd closing (Bool.eq_false_iff.mp plain.2)
      refine .inr ⟨i, j, ⟨opened, .inr marked, first, ?_⟩, .inl ⟨rfl, closing⟩⟩
      exact (Nat.lt_or_eq_of_le last).imp_right fun same => ⟨same, closing⟩
  | discarded i j =>
      obtain ⟨opened, opening, first, before⟩ := holds
      have marked : ¬ Unmarked fragments j :=
        fun plain => absurd opening (Bool.eq_false_iff.mp plain.1)
      exact .inr ⟨i, j, ⟨opened, .inr marked, first, .inl before⟩, .inr (.inl ⟨rfl, opening⟩)⟩
  | unfinished i =>
      obtain ⟨opened, first⟩ := holds
      exact .inr ⟨i, _, ⟨opened, .inl rfl, first, .inl within⟩, .inr (.inr ⟨rfl, rfl⟩)⟩
  | stray => exact .inl ⟨rfl, holds⟩

theorem not_marks_length {marker : UInt8} : marks fragments marker fragments.length = false :=
  Bool.eq_false_iff.mpr fun marked => absurd (marks_lt marked) (Nat.lt_irrefl _)

theorem Place.Holds.unique {place place' : Place} (holds : place.Holds fragments k)
    (holds' : place'.Holds fragments k) (within : k < fragments.length) : place = place' := by
  rcases holds.cases within with ⟨rfl, stray⟩ | ⟨i, j, stretch, how⟩
  · rcases holds'.cases within with ⟨rfl, _⟩ | ⟨_, _, stretch', _⟩
    · rfl
    · exact absurd stray stretch'.not_stray
  · rcases holds'.cases within with ⟨_, stray⟩ | ⟨i', j', stretch', how'⟩
    · exact absurd stray stretch.not_stray
    · obtain ⟨rfl, rfl⟩ := stretch.unique stretch'
      rcases how with ⟨rfl, closing⟩ | ⟨rfl, opening⟩ | ⟨rfl, rfl⟩
      · rcases how' with ⟨rfl, _⟩ | ⟨_, opening⟩ | ⟨_, rfl⟩
        · rfl
        · cases closing.symm.trans (marks_one opening)
        · cases closing.symm.trans not_marks_length
      · rcases how' with ⟨_, closing⟩ | ⟨rfl, _⟩ | ⟨_, rfl⟩
        · cases closing.symm.trans (marks_one opening)
        · rfl
        · cases opening.symm.trans not_marks_length
      · rcases how' with ⟨_, closing⟩ | ⟨_, opening⟩ | ⟨rfl, _⟩
        · cases closing.symm.trans not_marks_length
        · cases opening.symm.trans not_marks_length
        · rfl

end Fragments

/-! ### The source -/

namespace FragmentSource

def Use.fragment? : Use → Option Bytes
  | .feed fragment => some fragment
  | .drain => none

def afterUses (source : FragmentSource) : List Use → FragmentSource
  | [] => source
  | .feed fragment :: rest => (source.feed fragment).afterUses rest
  | .drain :: rest => source.drain.2.afterUses rest

theorem emitted_append (source : FragmentSource) (uses more : List Use) :
    source.emitted (uses ++ more) = source.emitted uses ++ (source.afterUses uses).emitted more := by
  induction uses generalizing source with
  | nil => rfl
  | cons use rest ih =>
      cases use with
      | feed fragment => exact ih (source.feed fragment)
      | drain =>
          rw [List.cons_append, emitted, emitted, ih, List.append_assoc]
          rfl

theorem uses_push (source : FragmentSource) (uses : List Use) :
    source.emitted uses ++ (source.afterUses uses).ready =
        source.ready ++
          (source.framer.pushAll (uses.filterMap Use.fragment?)).1.map Frame.trace ∧
      (source.afterUses uses).framer =
        (source.framer.pushAll (uses.filterMap Use.fragment?)).2 ∧
      (source.afterUses uses).fragments =
        source.fragments + (uses.filterMap Use.fragment?).length := by
  induction uses generalizing source with
  | nil => exact ⟨(List.append_nil _).symm, rfl, rfl⟩
  | cons use rest ih =>
      cases use with
      | feed fragment =>
          obtain ⟨frames, framer, count⟩ := ih (source.feed fragment)
          refine ⟨frames.trans ?_, framer, count.trans ?_⟩
          · simp [feed, Use.fragment?, TextFramer.pushAll, Option.toList_map]
          · simp [feed, Use.fragment?]
            omega
      | drain =>
          obtain ⟨frames, framer, count⟩ := ih source.drain.2
          refine ⟨?_, framer, count⟩
          rw [emitted, List.append_assoc]
          exact congrArg (source.ready ++ ·) frames

/-- What a source has given out, holds and has lost, read off the row of fragments.  The
next drain gives every message that is complete and was not drained before. -/
structure Parsed (fragments : List Bytes) (drained : List Frame) (source : FragmentSource) :
    Prop where
  messages : ∃ spans : List (Nat × Nat),
    (spans.Pairwise fun first second => first.2 < second.1) ∧
      (∀ i j, (i, j) ∈ spans ↔ Fragments.Message fragments i j) ∧
      drained ++ source.drain.1 =
        spans.map (fun span => Frame.trace (Fragments.slice fragments span.1 span.2).flatten) ∧
      source.pending = spans.length - drained.length
  noneLeft : source.drain.2.pending = 0
  received : source.fragments = fragments.length
  discarded : source.discarded =
    Nat.count (Fragments.Stray fragments) fragments.length +
      Nat.count (Fragments.Reopens fragments) fragments.length
  inMessage : source.inMessage = true ↔ ∃ i, Fragments.Open fragments i fragments.length
  begun : ∀ i, Fragments.Open fragments i fragments.length →
    source.framer.message = some (fragments.drop i).flatten
  places : ∀ k < fragments.length, ∃! place : Fragments.Place, place.Holds fragments k

theorem parsed_of_uses (uses : List Use) :
    Parsed (uses.filterMap Use.fragment?) (emitted {} uses) (afterUses {} uses) := by
  obtain ⟨frames, framer, received⟩ := uses_push {} uses
  generalize uses.filterMap Use.fragment? = fragments at frames framer received ⊢
  obtain ⟨spans, scanned⟩ := Fragments.scanned_pushAll fragments
  rw [← framer] at scanned
  have given : emitted {} uses ++ (afterUses {} uses).ready =
      spans.map (fun span => Frame.trace (Fragments.payload fragments span)) := by
    rw [frames, List.nil_append, scanned.payloads, List.map_map]
    rfl
  refine ⟨⟨spans, scanned.known.apart, scanned.known.complete, given, ?_⟩, rfl, ?_,
    scanned.lost, ?_, scanned.opened, ?_⟩
  · have length := congrArg List.length given
    rw [List.length_append, List.length_map] at length
    rw [pending]
    omega
  · rw [received]
    exact Nat.zero_add _
  · rw [inMessage, scanned.isOpen_iff]
    constructor
    · rintro ⟨i, _, opened⟩
      exact ⟨i, opened⟩
    · rintro ⟨i, opened⟩
      exact opened.busy
  · intro k within
    obtain ⟨place, holds⟩ := Fragments.exists_place within
    exact ⟨place, holds, fun other holds' => holds'.unique holds within⟩

/-- However it is fed and drained, a source gives out the messages of its fragments, and
each of its drains gives all that are complete by then. -/
theorem parsed_afterUses (uses : List Use) :
    Parsed (uses.filterMap Use.fragment?) (emitted {} uses) (afterUses {} uses) ∧
      ∀ before after, uses = before ++ .drain :: after →
        Parsed (before.filterMap Use.fragment?) (emitted {} before) (afterUses {} before) ∧
          emitted {} uses =
            emitted {} before ++ (afterUses {} before).drain.1 ++
              emitted (afterUses {} before).drain.2 after := by
  refine ⟨parsed_of_uses uses, ?_⟩
  rintro before after rfl
  refine ⟨parsed_of_uses before, ?_⟩
  rw [emitted_append, emitted, List.append_assoc]

end FragmentSource
end TraceForward
