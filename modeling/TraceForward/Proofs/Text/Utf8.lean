/-
Texts that are cut at ASCII characters.

The machine that reads UTF-8 owes nothing in front of an ASCII character, nor behind it,
so the parts on both sides of one are texts.
-/

import Mathlib.Data.List.Basic
import TraceForward.Text.Utf8

namespace TraceForward
namespace Utf8

variable {state final next : State} {byte : Nat}

def State.run? (state : State) (bytes : Bytes) : Option State :=
  bytes.foldlM (fun state byte => state.next? byte.toNat) state

theorem State.run?_cons (state : State) (byte : UInt8) (rest : Bytes) :
    state.run? (byte :: rest) = (state.next? byte.toNat).bind fun next => next.run? rest := by
  rw [run?, List.foldlM_cons]
  rfl

/-- A text has no break if the machine reads it to its end and owes nothing there. -/
theorem scan_eq_none_iff (bytes : Bytes) (state : State) (offset taken : Nat)
    (owing : taken = 0 ↔ state.owed = 0) :
    scan state offset taken bytes = none ↔
      ∃ final, state.run? bytes = some final ∧ final.owed = 0 := by
  induction bytes generalizing state offset taken with
  | nil =>
      have ends : (∃ final, state.run? [] = some final ∧ final.owed = 0) ↔ state.owed = 0 := by
        constructor
        · rintro ⟨final, same, owed⟩
          cases same
          exact owed
        · exact fun owed => ⟨state, rfl, owed⟩
      rw [ends, ← owing, scan]
      simp
  | cons byte rest ih =>
      rw [State.run?_cons, scan]
      cases state.next? byte.toNat with
      | none => simp
      | some next =>
          simp only [Option.bind_some]
          by_cases whole : next.owed = 0
          · rw [if_pos whole]
            exact ih next _ 0 (iff_of_true rfl whole)
          · rw [if_neg whole]
            exact ih next _ _ (iff_of_false (Nat.succ_ne_zero taken) whole)

theorem isValid_iff (bytes : Bytes) :
    isValid bytes = true ↔ ∃ final, State.run? {} bytes = some final ∧ final.owed = 0 := by
  rw [isValid, Option.isNone_iff_eq_none, firstBreak]
  exact scan_eq_none_iff bytes {} 0 0 (iff_of_true rfl rfl)

/-! ### ASCII characters -/

theorem State.announced_low (happens : State.announced byte = some next) : 0x80 ≤ next.low := by
  unfold State.announced at happens
  repeat' split at happens
  all_goals cases happens
  all_goals decide

theorem State.next?_low (happens : state.next? byte = some next) : 0x80 ≤ next.low := by
  unfold State.next? at happens
  split at happens
  · exact announced_low happens
  · obtain ⟨_, happens⟩ := Option.ite_none_right_eq_some.mp happens
    cases happens
    exact Nat.le_refl _

theorem State.run?_low (low : 0x80 ≤ state.low) {bytes : Bytes}
    (reached : state.run? bytes = some final) : 0x80 ≤ final.low := by
  induction bytes generalizing state with
  | nil =>
      cases reached
      exact low
  | cons byte rest ih =>
      rw [run?_cons] at reached
      obtain ⟨next, happens, later⟩ := Option.bind_eq_some_iff.mp reached
      exact ih (next?_low happens) later

theorem State.next?_ascii (low : 0x80 ≤ state.low) (ascii : byte < 0x80)
    (happens : state.next? byte = some next) : state.owed = 0 ∧ next = {} := by
  unfold State.next? at happens
  split at happens
  next whole =>
    rw [announced, if_pos (by omega)] at happens
    cases happens
    exact ⟨whole, rfl⟩
  next =>
    obtain ⟨range, _⟩ := Option.ite_none_right_eq_some.mp happens
    omega

/-- A text that is cut at an ASCII character is a text on both sides. -/
theorem isValid_cut {front back : Bytes} {mark : UInt8} (ascii : mark.toNat < 0x80)
    (valid : isValid (front ++ mark :: back) = true) :
    isValid front = true ∧ isValid back = true := by
  obtain ⟨final, reached, owed⟩ := (isValid_iff _).mp valid
  rw [State.run?, List.foldlM_append] at reached
  obtain ⟨middle, before, behind⟩ := Option.bind_eq_some_iff.mp reached
  rw [List.foldlM_cons] at behind
  obtain ⟨next, happens, later⟩ := Option.bind_eq_some_iff.mp behind
  have low : 0x80 ≤ middle.low := State.run?_low (Nat.le_refl _) before
  obtain ⟨whole, rfl⟩ := State.next?_ascii low ascii happens
  constructor
  · exact (isValid_iff front).mpr ⟨middle, before, whole⟩
  · exact (isValid_iff back).mpr ⟨final, later, owed⟩

end Utf8
end TraceForward
