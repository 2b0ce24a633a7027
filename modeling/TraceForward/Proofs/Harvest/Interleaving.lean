/-
Visits in whose course producers act.

Between two steps of a visit producers may write to the unit.  What they do then
could as well have been done before the visit or after it, so a run in which
visits are single steps leaves out nothing.
-/

import TraceForward.Harvest

namespace TraceForward

/-- What producers may do to a unit between two steps of a visit. -/
inductive ProducerAct where
  | write (record : Bytes)
  | recordError
  | armFailedSwitch

namespace ProducerAct

def apply : ProducerAct → BufferPair → BufferPair
  | .write record, pair => (pair.write record).2
  | .recordError, pair => pair.recordError
  | .armFailedSwitch, pair => pair.armFailedSwitch

def applyAll (acts : List ProducerAct) (pair : BufferPair) : BufferPair :=
  acts.foldl (fun pair act => act.apply pair) pair

theorem apply_active (act : ProducerAct) (pair : BufferPair) :
    (act.apply pair).active = pair.active := by
  cases act with
  | write record =>
      simp only [apply, BufferPair.write]
      split <;> rfl
  | recordError => rfl
  | armFailedSwitch => rfl

theorem apply_drain (act : ProducerAct) (pair : BufferPair) :
    (act.apply pair).drain = (pair.drain.1, act.apply pair.drain.2) := by
  cases act with
  | write record =>
      by_cases full : pair.capacity < pair.front.data.length + record.length
      · simp [apply, BufferPair.write, BufferPair.drain, full]
      · simp [apply, BufferPair.write, BufferPair.drain, full]
  | recordError => rfl
  | armFailedSwitch => rfl

theorem applyAll_active (acts : List ProducerAct) (pair : BufferPair) :
    (applyAll acts pair).active = pair.active := by
  induction acts generalizing pair with
  | nil => rfl
  | cons act rest ih => exact (ih _).trans (apply_active act pair)

theorem applyAll_drain (acts : List ProducerAct) (pair : BufferPair) :
    (applyAll acts pair).drain = (pair.drain.1, applyAll acts pair.drain.2) := by
  induction acts generalizing pair with
  | nil => rfl
  | cons act rest ih =>
      change (applyAll rest (act.apply pair)).drain = _
      rw [ih, apply_drain]
      rfl

theorem applyAll_append (earlier later : List ProducerAct) (pair : BufferPair) :
    applyAll (earlier ++ later) pair = applyAll later (applyAll earlier pair) :=
  List.foldl_append

end ProducerAct

namespace Harvester

open ProducerAct

/-- A visit in whose course producers act: between the look at the active region
and the switch, between the switch and the second look, and before the drain. -/
def visitAmid (first second third : List ProducerAct) (unit : BufferPair) :
    Visit × BufferPair :=
  match unit.active with
  | none => (.absent, applyAll (first ++ second ++ third) unit)
  | some before =>
      let switched := applyAll second (applyAll first unit).switch
      let later := applyAll third switched
      if switched.active = some before then
        (.failedSwap, later)
      else
        let (drained, unit) := later.drain
        if drained.region = before then (.drained drained, unit) else (.inconsistent, unit)

/-- Producers that act amid a visit could as well have acted before it, as far as
they come before the switch, and after it otherwise. -/
theorem visitAmid_eq (first second third : List ProducerAct) (unit : BufferPair) :
    visitAmid first second third unit =
      ((visit (applyAll first unit)).1,
        applyAll (second ++ third) (visit (applyAll first unit)).2) := by
  unfold visitAmid visit
  rw [applyAll_active first]
  cases known : unit.active with
  | none => simp only [List.append_assoc, applyAll_append]
  | some before =>
      simp only [applyAll_active, applyAll_drain, applyAll_append]
      split
      · rfl
      · split
        · rfl
        · rfl

end Harvester
end TraceForward
