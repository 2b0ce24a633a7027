/-
The messages in a row of fragments.
-/

import Mathlib.Data.List.Basic
import TraceForward.Framing.Text

namespace TraceForward
namespace TextFramer

/-- The messages that a row of fragments completes, and the framer behind it. -/
def pushAll : TextFramer → List Bytes → List Bytes × TextFramer
  | framer, [] => ([], framer)
  | framer, fragment :: rest =>
      let (message, framer) := framer.push fragment
      let (messages, framer) := framer.pushAll rest
      (message.toList ++ messages, framer)

theorem pushAll_append (framer : TextFramer) (first second : List Bytes) :
    framer.pushAll (first ++ second) =
      ((framer.pushAll first).1 ++ ((framer.pushAll first).2.pushAll second).1,
        ((framer.pushAll first).2.pushAll second).2) := by
  induction first generalizing framer with
  | nil => rfl
  | cons fragment rest ih => simp only [List.cons_append, pushAll, ih, List.append_assoc]

theorem pushAll_concat (framer : TextFramer) (before : List Bytes) (fragment : Bytes) :
    framer.pushAll (before ++ [fragment]) =
      ((framer.pushAll before).1 ++ ((framer.pushAll before).2.push fragment).1.toList,
        ((framer.pushAll before).2.push fragment).2) := by
  rw [pushAll_append]
  simp only [pushAll, List.append_nil]

end TextFramer

namespace FragmentSource

/-- A source whose frames are all taken gives at most one frame for a fragment. -/
theorem drain_feed {source : FragmentSource} (taken : source.ready = []) (fragment : Bytes) :
    (source.feed fragment).drain =
      (((source.framer.push fragment).1.map Frame.trace).toList,
        { framer := (source.framer.push fragment).2, fragments := source.fragments + 1 }) := by
  simp only [feed, drain, taken, List.nil_append]

end FragmentSource
end TraceForward
