/-
The switches of the command line.
-/

import TraceForward.Limits

namespace TraceForward

inductive Switch where
  | brokers
  | input
  | output
  | authority
  | certificate
  | key
  | password
  | poll
  | debug
  | fromBeginning
  | script
  | interpreter
  | pidFile
  | guestSocket
  | help
  | version
deriving DecidableEq, Repr

inductive Arity where
  | flag
  | one
  | optional (missing : String)
deriving DecidableEq, Repr

inductive ValueKind where
  | text
  | path
  | number
deriving DecidableEq, Repr

namespace Switch

def all : List Switch :=
  [.brokers, .input, .output, .authority, .certificate, .key, .password, .poll, .debug,
    .fromBeginning, .script, .interpreter, .pidFile, .guestSocket, .help, .version]

def short? : Switch → Option Char
  | .brokers => some 'b'
  | .input => some 'i'
  | .output => some 'o'
  | .authority => some 'a'
  | .certificate => some 'c'
  | .key => some 'k'
  | .password => some 'p'
  | .poll => some 'q'
  | .debug => some 'd'
  | .fromBeginning => some 'f'
  | .script => some 's'
  | .interpreter | .pidFile | .guestSocket => none
  | .help => some 'h'
  | .version => some 'V'

def long : Switch → String
  | .brokers => "brokers"
  | .input => "intopic"
  | .output => "outtopic"
  | .authority => "cacert"
  | .certificate => "clientcert"
  | .key => "privkey"
  | .password => "password"
  | .poll => "poll"
  | .debug => "debug"
  | .fromBeginning => "frombeginning"
  | .script => "script"
  | .interpreter => "interpreter"
  | .pidFile => "pidfile"
  | .guestSocket => "guest-socket"
  | .help => "help"
  | .version => "version"

def arity : Switch → Arity
  | .debug | .fromBeginning | .help | .version => .flag
  | .guestSocket => .optional Limits.defaultGuestSocket
  | _ => .one

def kind : Switch → ValueKind
  | .poll => .number
  | .script | .pidFile | .guestSocket => .path
  | _ => .text

def required : List Switch :=
  [.brokers, .input, .script]

def ofShort? (letter : Char) : Option Switch :=
  all.find? fun candidate => candidate.short? == some letter

def ofLong? (name : String) : Option Switch :=
  all.find? fun candidate => candidate.long == name

end Switch

end TraceForward
