/-
Settings that change while sessions run.

Readers take the current settings as a value, so what they hold is not
affected by a later change.  A change is made to a copy, which becomes current
only if it keeps its bounds.
-/

import TraceForward.Settings.Basic

namespace TraceForward

structure LiveSettings where
  current : Settings := {}
deriving DecidableEq, Repr

def LiveSettings.update (live : LiveSettings) (change : Settings → Settings) :
    Except Fault LiveSettings :=
  let next := change live.current
  match next.validate with
  | .ok () => .ok { current := next }
  | .error fault => .error fault

end TraceForward
