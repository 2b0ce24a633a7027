/-
Texts in double quotes, as diagnostics show them.

A quote, a backslash and the usual control characters are written with a
backslash; any other character that does not print is written by its code
point in braces.  A single quote stands for itself.
-/

import TraceForward.Text.Printable

namespace TraceForward
namespace Quoted

def codePoint (char : Char) : List Char :=
  ['\\', 'u', '\x7b'] ++ Nat.toDigits 16 char.toNat ++ ['\x7d']

def escapeChar (char : Char) : List Char :=
  match char with
  | '"' => ['\\', '"']
  | '\\' => ['\\', '\\']
  | '\n' => ['\\', 'n']
  | '\r' => ['\\', 'r']
  | '\t' => ['\\', 't']
  | _ =>
      if char.toNat = 0 then ['\\', '0']
      else if Printable.prints char then [char]
      else codePoint char

def text (value : String) : String :=
  String.ofList ('"' :: value.toList.flatMap escapeChar ++ ['"'])

def record (name : String) (fields : List (String × String)) : String :=
  match fields with
  | [] => name
  | _ =>
      name ++ " \x7b " ++
        String.intercalate ", " (fields.map fun field => field.1 ++ ": " ++ field.2) ++ " \x7d"

def totals (name : String) (fields : List (String × Nat)) : String :=
  record name (fields.map fun field => (field.1, toString field.2))

def wrapped (name value : String) : String :=
  name ++ "(" ++ value ++ ")"

end Quoted
end TraceForward
