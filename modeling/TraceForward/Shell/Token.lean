/-
The tokens of a command script.

A script is read byte by byte.  Blanks part the tokens; a word is a row of
parts, each of them either text or something to be put in its place when the
word is expanded.  Quoting is a property of a part, since it decides whether
what the part expands to is split into fields.  What stands inside an
expansion is kept as it is written and is read when the word is expanded.
-/

import TraceForward.Bytes

namespace TraceForward
namespace Shell

/-- What takes the place of a parameter that is not set, or of one that is. -/
inductive Fallback where
  | use
  | assign
  | refuse
  | replace
deriving DecidableEq, Repr

inductive Operation where
  | plain
  | length
  | fallback (kind : Fallback) (emptyToo : Bool) (operand : List Char)
  | trim (atEnd : Bool) (longest : Bool) (pattern : List Char)
  | unknown
deriving DecidableEq, Repr

inductive WordPart where
  | text (bytes : Bytes) (quoted : Bool)
  | parameter (name : String) (operation : Operation) (quoted : Bool)
  | sum (source : List Char) (quoted : Bool)
  | output (source : List Char) (quoted : Bool)
deriving DecidableEq, Repr

abbrev Word := List WordPart

inductive RedirectKind where
  | read
  | write
  | overwrite
  | append
  | readWrite
  | duplicate
  | document
deriving DecidableEq, Repr

inductive Token where
  | word (word : Word)
  | operator (text : String)
  | redirect (descriptor : Nat) (kind : RedirectKind)
  | document (descriptor : Nat) (delimiter : List Char) (literal strip : Bool)
deriving DecidableEq, Repr

def isBlank (char : Char) : Bool :=
  char == ' ' || char == '\t'

def endsWord (char : Char) : Bool :=
  isBlank char || "\n;&|<>()".toList.contains char

def isNameChar (char : Char) : Bool :=
  char.isAlphanum || char == '_'

def isName (chars : List Char) : Bool :=
  chars.all isNameChar && chars.head?.any fun char => !char.isDigit

/-! ### Finding the end of an expansion -/

inductive Opening where
  | bracket
  | brace
  | quotedBrace
  | single
  | double
  | backquote
  | arms
deriving DecidableEq, Repr

def Opening.holdsCommands (opening : Opening) : Bool :=
  opening == .bracket || opening == .arms

/-- What is open after a character that no backslash quotes; `none` where the
character changes nothing. -/
def Opening.next (opening : Opening) (outer : List Opening) (previous char : Char) :
    Option (List Opening) :=
  let nested (inner : Opening) : Option (List Opening) := some (inner :: opening :: outer)
  let inQuotes := opening == .double || opening == .quotedBrace
  match char with
  | '\'' =>
      if opening == .single then some outer else if inQuotes then none else nested .single
  | '"' => if opening == .double then some outer else nested .double
  | '\x60' => if opening == .backquote then some outer else nested .backquote
  | '(' => if opening.holdsCommands || previous == '$' then nested .bracket else none
  | '{' =>
      if previous != '$' then none
      else if inQuotes then nested .quotedBrace
      else nested .brace
  | ')' => if opening == .bracket then some outer else none
  | '}' => if opening == .brace || opening == .quotedBrace then some outer else none
  | _ => none

def beforeCommand : List String :=
  ["if", "then", "else", "elif", "while", "until", "do", "!"]

def startsAfter (starts : Bool) (char : Char) : Bool :=
  "\n;&|()\x7b".toList.contains char || (isBlank char && starts)

/-- The text up to where everything that is open is closed, and what follows
the closing character.  `starts` says whether a command may begin here. -/
def enclosedWithin :
    Nat → List Opening → Bool → Char → List Char → Option (List Char × List Char)
  | 0, _, _, _, _ => none
  | _ + 1, [], _, _, chars => some ([], chars)
  | _ + 1, _, _, _, [] => none
  | fuel + 1, opening :: outer, starts, previous, char :: rest =>
      let keep (taken : List Char) (stack : List Opening) (starts : Bool) (rest : List Char) :
          Option (List Char × List Char) :=
        (enclosedWithin fuel stack starts (taken.getLast?.getD ' ') rest).map
          fun (body, rest) => (taken ++ body, rest)
      let word := (char :: rest).takeWhile isNameChar
      if opening = .single then
        keep [char] (if char = '\'' then outer else .single :: outer) false rest
      else if char = '\\' then keep (char :: rest.take 1) (opening :: outer) false (rest.drop 1)
      else if opening.holdsCommands && endsWord previous && char = '#' then
        let comment := (char :: rest).takeWhile (· != '\n')
        keep comment (opening :: outer) true ((char :: rest).drop comment.length)
      else if opening.holdsCommands && endsWord previous && !word.isEmpty then
        let text := String.ofList word
        let stack :=
          if starts && text = "case" then .arms :: opening :: outer
          else if starts && text = "esac" && opening = .arms then outer
          else opening :: outer
        keep word stack (starts && beforeCommand.contains text)
          ((char :: rest).drop word.length)
      else
        match opening.next outer previous char with
        | none => keep [char] (opening :: outer) (startsAfter starts char) rest
        | some [] => some ([], rest)
        | some stack => keep [char] stack (startsAfter starts char) rest

def enclosed (opening : Opening) (chars : List Char) : Option (List Char × List Char) :=
  enclosedWithin (chars.length + 1) [opening] true '(' chars

def unquoteBack (inQuotes : Bool) : List Char → List Char
  | [] => []
  | '\\' :: next :: rest =>
      if "$\x60\\".toList.contains next || (inQuotes && next = '"') then
        next :: unquoteBack inQuotes rest
      else '\\' :: next :: unquoteBack inQuotes rest
  | char :: rest => char :: unquoteBack inQuotes rest

/-! ### Words -/

def isSpecialName (char : Char) : Bool :=
  "@*#?$!-".toList.contains char

def Operation.ofChars : List Char → Operation
  | [] => .plain
  | ':' :: '-' :: operand => .fallback .use true operand
  | ':' :: '=' :: operand => .fallback .assign true operand
  | ':' :: '?' :: operand => .fallback .refuse true operand
  | ':' :: '+' :: operand => .fallback .replace true operand
  | '-' :: operand => .fallback .use false operand
  | '=' :: operand => .fallback .assign false operand
  | '?' :: operand => .fallback .refuse false operand
  | '+' :: operand => .fallback .replace false operand
  | '%' :: '%' :: pattern => .trim true true pattern
  | '%' :: pattern => .trim true false pattern
  | '#' :: '#' :: pattern => .trim false true pattern
  | '#' :: pattern => .trim false false pattern
  | _ => .unknown

def takeName (chars : List Char) : List Char × List Char :=
  match chars with
  | char :: rest =>
      if isSpecialName char then ([char], rest)
      else if char.isDigit then
        let digits := chars.takeWhile Char.isDigit
        (digits, chars.drop digits.length)
      else
        let name := chars.takeWhile isNameChar
        (name, chars.drop name.length)
  | [] => ([], [])

def braced (quoted : Bool) (body : List Char) : WordPart :=
  let named (chars : List Char) : WordPart :=
    match takeName chars with
    | ([], _) => .parameter "" .unknown quoted
    | (name, rest) => .parameter (String.ofList name) (Operation.ofChars rest) quoted
  match body with
  | '#' :: rest =>
      match takeName rest with
      | (first :: name, []) => .parameter (String.ofList (first :: name)) .length quoted
      | _ => named body
  | _ => named body

def isBalanced : Nat → List Char → Bool
  | depth, [] => depth == 0
  | depth, '(' :: rest => isBalanced (depth + 1) rest
  | 0, ')' :: _ => false
  | depth + 1, ')' :: rest => isBalanced depth rest
  | depth, _ :: rest => isBalanced depth rest

def bracketed (quoted : Bool) (body : List Char) : WordPart :=
  match body, body.getLast? with
  | '(' :: inner, some ')' =>
      if isBalanced 0 inner.dropLast then .sum inner.dropLast quoted else .output body quoted
  | _, _ => .output body quoted

def dollar (quoted : Bool) (chars : List Char) : Option (WordPart × List Char) :=
  match chars with
  | '(' :: rest =>
      (enclosed .bracket rest).map fun (body, rest) => (bracketed quoted body, rest)
  | '{' :: rest =>
      (enclosed (if quoted then .quotedBrace else .brace) rest).map fun (body, rest) =>
        (braced quoted body, rest)
  | char :: rest =>
      if isSpecialName char || char.isDigit then
        some (.parameter char.toString .plain quoted, rest)
      else
        let name := chars.takeWhile isNameChar
        if name.isEmpty then some (.text [0x24] quoted, chars)
        else some (.parameter (String.ofList name) .plain quoted, chars.drop name.length)
  | [] => some (.text [0x24] quoted, [])

/-- Where a word stands, which decides what ends it and what quotes in it. -/
inductive Place where
  | command
  | operand
  | document
deriving DecidableEq, Repr

def Place.quotable : Place → List Char
  | .command => "$\x60\"\\".toList
  | .operand => "$\x60\"\\\x7d".toList
  | .document => "$\x60\\".toList

def consPart : WordPart → Word → Word
  | .text bytes true, .text more true :: rest => .text (bytes ++ more) true :: rest
  | .text bytes false, .text more false :: rest => .text (bytes ++ more) false :: rest
  | part, word => part :: word

def takeBackquoted : List Char → Option (List Char × List Char)
  | [] => none
  | '\x60' :: rest => some ([], rest)
  | '\\' :: next :: rest =>
      (takeBackquoted rest).map fun (body, rest) => ('\\' :: next :: body, rest)
  | char :: rest => (takeBackquoted rest).map fun (body, rest) => (char :: body, rest)

/-- The parts of a word, and what follows it; none if the characters end
inside it. -/
def scanWithin (place : Place) : Nat → Bool → List Char → Option (Word × List Char)
  | 0, _, _ => none
  | fuel + 1, inQuotes, chars =>
      let go (inQuotes : Bool) (part : WordPart) (rest : List Char) :
          Option (Word × List Char) :=
        (scanWithin place fuel inQuotes rest).map fun (word, rest) =>
          (consPart part word, rest)
      let text (quoted : Bool) (chars : List Char) : WordPart :=
        .text (Bytes.ofChars chars) quoted
      match chars with
      | [] => if inQuotes && place = .command then none else some ([], [])
      | '\\' :: '\n' :: rest => scanWithin place fuel inQuotes rest
      | '\\' :: char :: rest =>
          if !inQuotes || place.quotable.contains char then
            go inQuotes (text true [char]) rest
          else go inQuotes (text true ['\\', char]) rest
      | ['\\'] => go inQuotes (text true ['\\']) []
      | '"' :: rest =>
          if place = .document then go inQuotes (text true ['"']) rest
          else if inQuotes then scanWithin place fuel false rest
          else
            match rest with
            | '"' :: rest => go false (.text [] true) rest
            | rest => scanWithin place fuel true rest
      | '\x60' :: rest =>
          match takeBackquoted rest with
          | none => none
          | some (body, rest) => go inQuotes (.output (unquoteBack inQuotes body) inQuotes) rest
      | '$' :: rest =>
          match dollar inQuotes rest with
          | none => none
          | some (part, rest) => go inQuotes part rest
      | '\'' :: rest =>
          if inQuotes then go inQuotes (text true ['\'']) rest
          else
            let body := rest.takeWhile (· != '\'')
            match rest.drop body.length with
            | _ :: rest => go false (text true body) rest
            | [] => none
      | char :: rest =>
          if !inQuotes && place = .command && endsWord char then some ([], chars)
          else go inQuotes (text inQuotes [char]) rest

def scanWord (chars : List Char) : Option (Word × List Char) :=
  scanWithin .command (chars.length + 1) false chars

def operandParts (inQuotes : Bool) (chars : List Char) : Word :=
  ((scanWithin .operand (chars.length + 1) inQuotes chars).map Prod.fst).getD []

def documentParts (chars : List Char) : Word :=
  ((scanWithin .document (chars.length + 1) true chars).map Prod.fst).getD []

/-! ### Lines -/

def takeOperator : List Char → Option (String × List Char)
  | '\n' :: rest => some ("\n", rest)
  | ';' :: ';' :: rest => some (";;", rest)
  | ';' :: rest => some (";", rest)
  | '&' :: '&' :: rest => some ("&&", rest)
  | '&' :: rest => some ("&", rest)
  | '|' :: '|' :: rest => some ("||", rest)
  | '|' :: rest => some ("|", rest)
  | '(' :: rest => some ("(", rest)
  | ')' :: rest => some (")", rest)
  | _ => none

def takeRedirect : List Char → Option (Nat × RedirectKind × List Char)
  | '<' :: '&' :: rest => some (0, .duplicate, rest)
  | '<' :: '>' :: rest => some (0, .readWrite, rest)
  | '<' :: rest => some (0, .read, rest)
  | '>' :: '&' :: rest => some (1, .duplicate, rest)
  | '>' :: '>' :: rest => some (1, .append, rest)
  | '>' :: '|' :: rest => some (1, .overwrite, rest)
  | '>' :: rest => some (1, .write, rest)
  | _ => none

def plainText : Word → List Char × Bool
  | [] => ([], false)
  | .text bytes quoted :: rest =>
      let (chars, anyQuoted) := plainText rest
      (bytes.chars ++ chars, quoted || anyQuoted)
  | _ :: rest => plainText rest

/-- The token of a text in the script, from what follows its sign; a mere sign
if no word follows. -/
def takeDocumentSign (descriptor : Nat) (chars : List Char) : Option (Token × List Char) :=
  let (strip, chars) :=
    match chars with
    | '-' :: rest => (true, rest)
    | chars => (false, chars)
  match scanWord (chars.dropWhile isBlank) with
  | none => none
  | some ([], rest) => some (.operator "<<", rest)
  | some (word, rest) =>
      let (delimiter, quoted) := plainText word
      some (.document descriptor delimiter quoted strip, rest)

def takeToken (chars : List Char) : Option (Token × List Char) :=
  let signed (descriptor? : Option Nat) (chars : List Char) : Option (Token × List Char) :=
    match chars with
    | '<' :: '<' :: rest => takeDocumentSign (descriptor?.getD 0) rest
    | chars =>
        (takeRedirect chars).map fun (usual, kind, rest) =>
          (.redirect (descriptor?.getD usual) kind, rest)
  match takeOperator chars with
  | some (text, rest) => some (.operator text, rest)
  | none =>
      match chars with
      | '<' :: _ | '>' :: _ => signed none chars
      | digit :: '<' :: _ | digit :: '>' :: _ =>
          if digit.isDigit then signed (some (digit.toNat - 48)) chars.tail
          else (scanWord chars).map fun (word, rest) => (.word word, rest)
      | chars => (scanWord chars).map fun (word, rest) => (.word word, rest)

def scanLineWithin : Nat → List Char → Option (List Token × List Char)
  | 0, _ => none
  | fuel + 1, chars =>
      match chars with
      | [] => some ([], [])
      | '\\' :: '\n' :: rest => scanLineWithin fuel rest
      | '#' :: rest => scanLineWithin fuel (rest.dropWhile (· != '\n'))
      | char :: rest =>
          if isBlank char then scanLineWithin fuel rest
          else
            match takeToken (char :: rest) with
            | none => none
            | some (.operator "\n", rest) => some ([.operator "\n"], rest)
            | some (token, rest) =>
                (scanLineWithin fuel rest).map fun (tokens, rest) => (token :: tokens, rest)

/-- The lines in front of one that is the delimiter, and what follows that;
none if there is no such line.  At the end of the script the delimiter may be
missing. -/
def takeDocument (delimiter : List Char) (strip atEnd : Bool) :
    Nat → List Char → Option (List Char × List Char)
  | 0, _ => none
  | _ + 1, [] => if atEnd then some ([], []) else none
  | fuel + 1, chars =>
      let line := chars.takeWhile (· != '\n')
      let rest := chars.drop line.length
      let shown := if strip then line.dropWhile (· == '\t') else line
      if shown = delimiter && (atEnd || !rest.isEmpty) then some ([], rest.tail)
      else
        (takeDocument delimiter strip atEnd fuel rest.tail).map fun (body, behind) =>
          (shown ++ rest.take 1 ++ body, behind)

def fillDocuments (atEnd : Bool) : List Token → List Char → Option (List Token × List Char)
  | [], chars => some ([], chars)
  | .document descriptor delimiter literal strip :: tokens, chars =>
      match takeDocument delimiter strip atEnd (chars.length + 1) chars with
      | none => none
      | some (body, chars) =>
          let word := if literal then [.text (Bytes.ofChars body) true] else documentParts body
          (fillDocuments atEnd tokens chars).map fun (tokens, chars) =>
            (.redirect descriptor .document :: .word word :: tokens, chars)
  | token :: tokens, chars =>
      (fillDocuments atEnd tokens chars).map fun (tokens, chars) => (token :: tokens, chars)

/-- The tokens of the first line of a script, and what follows the line and
its texts; none if the script ends inside them. -/
def scanLine (atEnd : Bool) (chars : List Char) : Option (List Token × List Char) :=
  match scanLineWithin (chars.length + 1) chars with
  | none => none
  | some (tokens, rest) => fillDocuments atEnd tokens rest

end Shell
end TraceForward
