/-
Compact JSON text: strings, and objects with their fields in a given order.

Descriptor messages are written without blanks.  A string escapes the quote,
the backslash and the control characters below the blank, the last with a
two-character form where JSON has one.
-/

namespace TraceForward
namespace Json

def hexDigit (value : Nat) : Char :=
  if value < 10 then Char.ofNat (48 + value) else Char.ofNat (87 + value)

def escapeChar (char : Char) : List Char :=
  match char with
  | '"' => ['\\', '"']
  | '\\' => ['\\', '\\']
  | '\n' => ['\\', 'n']
  | '\r' => ['\\', 'r']
  | '\t' => ['\\', 't']
  | _ =>
      let code := char.toNat
      if code = 8 then ['\\', 'b']
      else if code = 12 then ['\\', 'f']
      else if code < 32 then
        ['\\', 'u', '0', '0', hexDigit (code / 16), hexDigit (code % 16)]
      else [char]

def quoted (text : String) : String :=
  String.ofList ('"' :: text.toList.flatMap escapeChar ++ ['"'])

def object (fields : List (String × String)) : String :=
  "\x7b" ++ String.intercalate "," (fields.map fun field => quoted field.1 ++ ":" ++ field.2)
    ++ "\x7d"

def array (elements : List String) : String :=
  "[" ++ String.intercalate "," elements ++ "]"

end Json
end TraceForward
