/-
The programs of the system, by their names.

The daemon starts whatever is named for its interpreter, and nothing about it depends on
which programs there are.  With these, a run of it can be carried out to its end.
-/

import TraceForward.Posix.Machine
import TraceForward.Shell.Start
import TraceForward.Tools.Copy
import TraceForward.Tools.Edit
import TraceForward.Tools.Expression
import TraceForward.Tools.Names
import TraceForward.Tools.Order
import TraceForward.Tools.Running
import TraceForward.Tools.Search
import TraceForward.Tools.Translate
import TraceForward.Tools.Values

namespace TraceForward

def tools : List (String × Tool) :=
  [("cat", Tool.cat), ("head", Tool.head), ("tail", Tool.tail), ("tee", Tool.tee),
    ("yes", Tool.yes), ("echo", Tool.echo), ("printf", Tool.printf), ("true", Tool.always 0),
    ("false", Tool.always 1), ("test", Tool.test), ("[", Tool.bracket), ("seq", Tool.seq),
    ("sleep", Tool.sleep), ("printenv", Tool.printenv), ("pwd", Tool.pwd),
    ("uname", Tool.constant "Linux"), ("whoami", Tool.constant "root"), ("wc", Tool.wc),
    ("tac", Tool.tac), ("rev", Tool.rev), ("nl", Tool.nl), ("fold", Tool.fold),
    ("cut", Tool.cut), ("paste", Tool.paste), ("sort", Tool.sort), ("uniq", Tool.uniq),
    ("tr", Tool.translate), ("basename", Tool.basename), ("dirname", Tool.dirname),
    ("ls", Tool.ls), ("mkdir", Tool.mkdir), ("rmdir", Tool.rmdir), ("rm", Tool.rm),
    ("touch", Tool.touch), ("chmod", Tool.chmod), ("mv", Tool.mv), ("cp", Tool.cp),
    ("mktemp", Tool.mktemp), ("env", Tool.env), ("nohup", Tool.nohup), ("nice", Tool.nice),
    ("stdbuf", Tool.stdbuf), ("timeout", Tool.timeout Tool.nanoseconds?),
    ("xargs", Tool.xargs), ("which", Tool.which), ("grep", Tool.grep ""),
    ("egrep", Tool.grep "E"), ("fgrep", Tool.grep "F"), ("sed", Tool.sedInPlace),
    ("expr", Tool.expr), ("dd", Tool.dd)]

def shellNames : List String :=
  ["sh", "dash", "bash"]

def startCall (call : Call) : Activity :=
  match tools.lookup call.program with
  | some tool => tool call.invocation fun code => .exit (Shell.exitCode code)
  | none => Shell.main call.invocation nofun

def programs : Programs :=
  { names := tools.map Prod.fst ++ shellNames, start := startCall }

end TraceForward
