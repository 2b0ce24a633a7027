/-
Permission bits as words name them.

A word is a number in octal digits, or a row of changes to the bits of the
owner, the group and the others, each of which adds, takes away or sets bits.
-/

namespace TraceForward
namespace Mode

def all : Nat := 0o7777

def without (mode removed : Nat) : Nat :=
  mode - (mode &&& removed)

def octal? (chars : List Char) : Option Nat :=
  if chars.isEmpty || !chars.all fun char => '0' ≤ char && char ≤ '7' then none
  else some (chars.foldl (fun value char => value * 8 + (char.toNat - 48)) 0)

def holders (letter : Char) : Nat :=
  match letter with
  | 'u' => 0o4700
  | 'g' => 0o2070
  | 'o' => 0o1007
  | _ => all

def permission (isDirectory : Bool) (mode : Nat) (letter : Char) : Nat :=
  match letter with
  | 'r' => 0o444
  | 'w' => 0o222
  | 'x' => 0o111
  | 'X' => if isDirectory || mode &&& 0o111 != 0 then 0o111 else 0
  | 's' => 0o6000
  | 't' => 0o1000
  | 'u' => (mode >>> 6 &&& 7) * 0o111
  | 'g' => (mode >>> 3 &&& 7) * 0o111
  | _ => (mode &&& 7) * 0o111

structure Change where
  letters : List Char
  sign : Char
  permissions : List Char
deriving DecidableEq, Repr

/-- Makes a change.  Where nobody is named it is to everybody's bits, those of
`mask` excepted. -/
def Change.apply (change : Change) (mask : Nat) (isDirectory : Bool) (mode : Nat) : Nat :=
  let named := change.letters.foldl (fun bits letter => bits ||| holders letter) 0
  let affected := if change.letters.isEmpty then all else named
  let reach := if change.letters.isEmpty then without all mask else named
  let wanted := change.permissions.foldl
    (fun bits letter => bits ||| permission isDirectory mode letter) 0 &&& reach
  match change.sign with
  | '+' => mode ||| wanted
  | '-' => without mode wanted
  | _ => without mode affected ||| wanted

def takeChanges (letters : List Char) : Nat → List Char → Option (List Change)
  | 0, _ => none
  | fuel + 1, chars =>
      match chars with
      | [] => some []
      | sign :: rest =>
          if !(['+', '-', '='].contains sign) then none
          else
            let permissions := rest.takeWhile ("rwxXstugo".toList.contains ·)
            (takeChanges letters fuel (rest.drop permissions.length)).map
              ({ letters, sign, permissions } :: ·)

def clause? (chars : List Char) : Option (List Change) :=
  let letters := chars.takeWhile ("ugoa".toList.contains ·)
  let rest := chars.drop letters.length
  if rest.isEmpty then none else takeChanges letters (rest.length + 1) rest

def parse? (text : String) (mask : Nat) (isDirectory : Bool) : Option (Nat → Nat) :=
  match octal? text.toList with
  | some mode => if mode ≤ all then some fun _ => mode else none
  | none =>
      ((text.splitOn ",").mapM fun part => clause? part.toList).map fun clauses mode =>
        clauses.flatten.foldl (fun mode change => change.apply mask isDirectory mode) mode

def letters (bits : Nat) : String :=
  String.ofList ([(4, 'r'), (2, 'w'), (1, 'x')].filterMap fun (bit, letter) =>
    if bits &&& bit != 0 then some letter else none)

def display (mode : Nat) : String :=
  s!"u={letters (mode >>> 6)},g={letters (mode >>> 3)},o={letters mode}"

def octal (width value : Nat) : String :=
  let digits := Nat.toDigits 8 value
  String.ofList (List.replicate (width - digits.length) '0' ++ digits)

end Mode
end TraceForward
