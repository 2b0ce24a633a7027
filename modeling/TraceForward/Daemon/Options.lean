/-
What the daemon is started with.
-/

import TraceForward.Settings.Basic
import TraceForward.Topic

namespace TraceForward

structure DaemonOptions where
  settings : Settings := {}
  input : Topic
  output : Option Topic := none
  interpreter : String := Limits.defaultInterpreter
  script : String
  scriptArguments : List String := []
  consumerPollUs : Nat := Limits.defaultConsumerPollUs
  pidFile : String := Limits.defaultPidFile
  guestSocket : Option String := none

end TraceForward
