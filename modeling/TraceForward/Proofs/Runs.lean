/-
Runs of a system whose moves may be refused.
-/

import Mathlib.Data.List.Basic

namespace TraceForward

variable {State Move : Type}

/-- The state after a row of moves, if each of them can be made. -/
def runMoves? (after? : State → Move → Option State) (state : State) (moves : List Move) :
    Option State :=
  moves.foldlM after? state

variable {after? : State → Move → Option State} {state final : State}

theorem runMoves?_cons {move : Move} {rest : List Move}
    (reached : runMoves? after? state (move :: rest) = some final) :
    ∃ next, after? state move = some next ∧ runMoves? after? next rest = some final := by
  rw [runMoves?, List.foldlM_cons] at reached
  exact Option.bind_eq_some_iff.mp reached

theorem runMoves?_append {first second : List Move} {middle : State}
    (reached : runMoves? after? state first = some middle) :
    runMoves? after? state (first ++ second) = runMoves? after? middle second := by
  rw [runMoves?] at reached
  rw [runMoves?, List.foldlM_append, reached]
  rfl

theorem runMoves?_induction_of (Holds : State → Prop) (Allowed : Move → Prop)
    (keeps : ∀ state move next,
      Holds state → Allowed move → after? state move = some next → Holds next)
    {moves : List Move} (start : Holds state) (allowed : ∀ move ∈ moves, Allowed move)
    (reached : runMoves? after? state moves = some final) : Holds final := by
  induction moves generalizing state with
  | nil =>
      cases reached
      exact start
  | cons move rest ih =>
      obtain ⟨next, happens, later⟩ := runMoves?_cons reached
      obtain ⟨first, allowed⟩ := List.forall_mem_cons.mp allowed
      exact ih (keeps state move next start first happens) allowed later

theorem runMoves?_induction (Holds : State → Prop)
    (keeps : ∀ state move next, Holds state → after? state move = some next → Holds next)
    {moves : List Move} (start : Holds state)
    (reached : runMoves? after? state moves = some final) : Holds final :=
  runMoves?_induction_of Holds (fun _ => True)
    (fun state move next holds _ happens => keeps state move next holds happens)
    start (fun _ _ => trivial) reached

/-- What does not hold at the start of a run and holds at its end comes about in one move. -/
theorem runMoves?_comesAbout (Holds : State → Prop) {moves : List Move} (start : ¬ Holds state)
    (reached : runMoves? after? state moves = some final) (holds : Holds final) :
    ∃ earlier move later middle next,
      moves = earlier ++ move :: later ∧
        runMoves? after? state earlier = some middle ∧ ¬ Holds middle ∧
        after? middle move = some next ∧ Holds next ∧
        runMoves? after? next later = some final := by
  induction moves generalizing state with
  | nil =>
      cases reached
      exact absurd holds start
  | cons move rest ih =>
      obtain ⟨next, happens, later⟩ := runMoves?_cons reached
      by_cases already : Holds next
      · exact ⟨[], move, rest, state, next, rfl, rfl, start, happens, already, later⟩
      · obtain ⟨earlier, last, behind, middle, after, rfl, led, tail⟩ := ih already later
        refine ⟨move :: earlier, last, behind, middle, after, rfl, ?_, tail⟩
        rw [runMoves?, List.foldlM_cons, happens]
        exact led

end TraceForward
