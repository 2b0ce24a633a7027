/-
Sizes, names, defaults and bounds that the other modules share.
-/

namespace TraceForward
namespace Limits

/-! ### The program -/

def programVersion : String := "trace-relay 0.1.0"

/-! ### Records and messages -/

def headerSize : Nat := 4

/-- The clause id of filler, which is its header and nothing else. -/
def fillerClause : Nat := 0

def traceKey : String := "trace"

def formatKey : String := "format"

def probeKey : String := "probe"

def clauseKey : String := "eprobe"

/-! ### Harvest cycles -/

def defaultPollPeriodMs : Nat := 1000

def minPollPeriodMs : Nat := 1

def maxPollPeriodMs : Nat := 60000

def defaultMtu : Nat := 1048576

def minMtu : Nat := 64

/-! ### Sessions -/

def defaultStopTimeoutMs : Nat := 60000

def minStopTimeoutMs : Nat := 100

def defaultFinalFlushMs : Nat := 10000

def defaultRegistryBuckets : Nat := 16

/-! ### Broker -/

def defaultServers : String := ""

def defaultClientId : String := "trace-relay"

def defaultQueueFullPumpMs : Nat := 1000

def defaultFlushMs : Nat := 10000

def defaultCompression : String := "gzip"

def defaultLingerMs : Nat := 10

def autoCommitIntervalMs : Nat := 1000

def inputPartition : Nat := 0

/-- Room added to the largest frame for its key and the protocol. -/
def messageHeadroom : Nat := 512

def maxTopicLength : Nat := 249

/-! ### Daemon -/

def defaultPidFile : String := "/var/run/trace-relay.pid"

def defaultConsumerPollUs : Nat := 100000

def defaultInterpreter : String := "dtrace"

/-- How long the interpreter may take to exit once it was asked to. -/
def decommissionMs : Nat := 5000

def defaultGuestSocket : String := "/var/ddtrace/sub.sock"

/-- Inbound frames held between the consumer and the interpreter. -/
def inboundCapacity : Nat := 64

/-- The number of values a machine word has. -/
def wordCount : Nat := 0x10000000000000000

end Limits

/-- Arithmetic that leaves the machine words.  Nothing handles it: the program ends. -/
inductive Overflow where
  | addition
deriving DecidableEq, Repr

def Overflow.message : Overflow → String
  | .addition => "attempt to add with overflow"

def addWords (left right : Nat) : Except Overflow Nat :=
  if left + right < Limits.wordCount then .ok (left + right) else .error .addition

@[simp]
theorem addWords_eq_ok {left right : Nat} (below : left + right < Limits.wordCount) :
    addWords left right = .ok (left + right) :=
  if_pos below

@[simp]
theorem addWords_eq_error {left right : Nat} (past : Limits.wordCount ≤ left + right) :
    addWords left right = .error .addition :=
  if_neg (Nat.not_lt_of_le past)

end TraceForward
