/-
How the brokers are reached.

The settings of one broker connection, and the client properties they stand
for on the producing and on the consuming side.
-/

import TraceForward.Limits
import TraceForward.Text.Quoted

namespace TraceForward

structure TlsMaterial where
  authority : String
  certificate : String
  key : String
  password : String
deriving DecidableEq, Repr

inductive Security where
  | plaintext
  | tls (material : TlsMaterial)
deriving DecidableEq, Repr

namespace Security

def ofParts (authority certificate key password : Option String) : Security :=
  match authority, certificate, key, password with
  | some authority, some certificate, some key, some password =>
      .tls { authority, certificate, key, password }
  | _, _, _, _ => .plaintext

def name : Security → String
  | .plaintext => "plaintext"
  | .tls _ => "ssl"

/-- The security as diagnostics show it; the password is never part of it. -/
def display : Security → String
  | .plaintext => "Plaintext"
  | .tls material =>
      Quoted.wrapped "Tls" <| Quoted.record "TlsMaterial"
        [("ca_location", Quoted.text material.authority),
          ("certificate_location", Quoted.text material.certificate),
          ("key_location", Quoted.text material.key),
          ("key_password", Quoted.text "[REDACTED]")]

def properties : Security → List (String × String)
  | .plaintext => []
  | .tls material =>
      [("security.protocol", "ssl"),
        ("ssl.ca.location", material.authority),
        ("ssl.certificate.location", material.certificate),
        ("ssl.key.location", material.key),
        ("ssl.key.password", material.password)]

end Security

/-- What a consumer does when its group has no stored offset. -/
inductive OffsetReset where
  | earliest
  /-- The client library decides. -/
  | stored
deriving DecidableEq, Repr

inductive StartOffset where
  | beginning
  | stored
deriving DecidableEq, Repr

def StartOffset.display : StartOffset → String
  | .beginning => "Beginning"
  | .stored => "Stored"

structure BrokerSettings where
  servers : String := Limits.defaultServers
  clientId : String := Limits.defaultClientId
  security : Security := .plaintext
  compression : String := Limits.defaultCompression
  lingerMs : Nat := Limits.defaultLingerMs
  /-- The consumer group, the client id when none is given. -/
  group : Option String := none
  offsetReset : OffsetReset := .earliest
  startOffset : StartOffset := .stored
  mtu : Nat := Limits.defaultMtu
deriving DecidableEq, Repr

namespace BrokerSettings

def isConfigured (settings : BrokerSettings) : Bool :=
  !settings.servers.isEmpty

def effectiveGroup (settings : BrokerSettings) : String :=
  settings.group.getD settings.clientId

/-- The size limit of the producer's messages: the largest frame and room for its key. -/
def messageMaxBytes (settings : BrokerSettings) : Except Overflow Nat :=
  addWords settings.mtu Limits.messageHeadroom

/-- The properties of a producer with this size limit. -/
def propertiesFor (settings : BrokerSettings) (largest : Nat) : List (String × String) :=
  [("bootstrap.servers", settings.servers),
    ("client.id", settings.clientId),
    ("compression.codec", settings.compression),
    ("socket.nagle.disable", "true"),
    ("linger.ms", toString settings.lingerMs),
    ("message.max.bytes", toString largest)]
    ++ settings.security.properties

def producerProperties (settings : BrokerSettings) :
    Except Overflow (List (String × String)) :=
  settings.messageMaxBytes.map settings.propertiesFor

def consumerProperties (settings : BrokerSettings) : List (String × String) :=
  [("bootstrap.servers", settings.servers),
    ("client.id", settings.clientId),
    ("group.id", settings.effectiveGroup),
    ("socket.nagle.disable", "true"),
    ("enable.auto.commit", "true"),
    ("auto.commit.interval.ms", toString Limits.autoCommitIntervalMs),
    ("enable.auto.offset.store", "true"),
    ("enable.partition.eof", "true"),
    ("check.crcs", "true")]
    ++ (match settings.offsetReset with
        | .earliest => [("auto.offset.reset", "earliest")]
        | .stored => [])
    ++ settings.security.properties

end BrokerSettings

end TraceForward
