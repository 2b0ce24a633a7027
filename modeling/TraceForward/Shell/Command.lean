/-
The commands of a script.

A script is carried out line by line: a line, with those that it needs to be
whole, is read before any of it is carried out, and what is wrong with a later
line matters only once that line is reached.
-/

import TraceForward.Shell.Token

namespace TraceForward
namespace Shell

/-- A descriptor, what is done with it, and the word that says to what. -/
structure Redirection where
  descriptor : Nat
  kind : RedirectKind
  target : Word
deriving DecidableEq, Repr

inductive Command where
  | simple (line : Nat) (assignments : List (String × Word)) (words : List Word)
      (redirections : List Redirection)
  | chain (onSuccess : Bool) (first second : Command)
  | negation (command : Command)
  | pipe (commands : List Command)
  | group (commands : List Command)
  | subshell (commands : List Command)
  | background (command : Command)
  | choice (test body otherwise : List Command)
  | loop (whileSuccess : Bool) (test body : List Command)
  | each (name : String) (items : Option (List Word)) (body : List Command)
  | cases (subject : Word) (arms : List (List Word × List Command))
  | define (name : String) (body : Command)
  | redirected (command : Command) (redirections : List Redirection)
  | script (line : Nat) (source : List Char)

def bareText? : Word → Option (List Char)
  | [] => some []
  | .text bytes false :: rest => (bareText? rest).map (bytes.chars ++ ·)
  | _ => none

def Token.keyword? : Token → Option String
  | .word (part :: parts) => (bareText? (part :: parts)).map String.ofList
  | _ => none

def assignment? (word : Word) : Option (String × Word) :=
  match word with
  | .text bytes false :: parts =>
      let name := bytes.chars.takeWhile (· != '=')
      match bytes.drop name.length with
      | _ :: value =>
          if !isName name then none
          else if value.isEmpty then some (String.ofList name, parts)
          else some (String.ofList name, .text value false :: parts)
      | [] => none
  | _ => none

def skipLines : List Token → List Token
  | .operator "\n" :: rest => skipLines rest
  | tokens => tokens

def takeWords : List Token → List Word × List Token
  | .word word :: rest =>
      let (words, rest) := takeWords rest
      (word :: words, rest)
  | tokens => ([], tokens)

def takeRedirections : List Token → List Redirection × List Token
  | .redirect descriptor kind :: .word target :: rest =>
      let (redirections, rest) := takeRedirections rest
      ({ descriptor, kind, target } :: redirections, rest)
  | tokens => ([], tokens)

def takeSimple (line : Nat) :
    List (String × Word) → List Word → List Redirection → List Token →
      Option (Command × List Token)
  | assignments, words, redirections, .word word :: rest =>
      match words, assignment? word with
      | [], some assignment => takeSimple line (assignments ++ [assignment]) [] redirections rest
      | words, _ => takeSimple line assignments (words ++ [word]) redirections rest
  | assignments, words, redirections, .redirect descriptor kind :: .word target :: rest =>
      takeSimple line assignments words (redirections ++ [{ descriptor, kind, target }]) rest
  | [], [], [], _ => none
  | _, _, _, .redirect _ _ :: _ => none
  | assignments, words, redirections, tokens =>
      some (.simple line assignments words redirections, tokens)

def expect (keyword : String) : List Token → Option (List Token)
  | token :: rest => if token.keyword? = some keyword then some rest else none
  | [] => none

def someList (found : Option (List Command × List Token)) :
    Option (List Command × List Token) :=
  found.filter (!·.1.isEmpty)

def closers : List String :=
  ["then", "else", "elif", "fi", "do", "done", "esac", "\x7d"]

def atListEnd : List Token → Bool
  | [] | .operator ")" :: _ | .operator ";;" :: _ => true
  | token :: _ => token.keyword?.any closers.contains

def takePatterns : List Token → Option (List Word × List Token)
  | .word word :: .operator "|" :: rest =>
      (takePatterns rest).map fun (words, rest) => (word :: words, rest)
  | .word word :: .operator ")" :: rest => some ([word], rest)
  | _ => none

def lineEnds (tokens : List Token) : Nat :=
  tokens.countP fun token => token == .operator "\n"

abbrev Aliases := List (String × List Token)

/-- Puts the text of an alias in place of the word in front.  In its own text an
alias is an ordinary word. -/
def withAliases (aliases : Aliases) : Nat → List String → List Token → List Token
  | 0, _, tokens => tokens
  | _ + 1, _, [] => []
  | fuel + 1, used, token :: rest =>
      match token.keyword?.filter (!used.contains ·) with
      | none => token :: rest
      | some name =>
          match aliases.lookup name with
          | none => token :: rest
          | some text => withAliases aliases fuel (name :: used) (text ++ rest)

section Parsing

variable (aliases : Aliases)

-- One more than the line that the tokens end on.
variable (last : Nat)

mutual

def parseCommand : Nat → List Token → Option (Command × List Token)
  | 0, _ => none
  | fuel + 1, tokens =>
      let bracketed (found : Option (Command × List Token)) : Option (Command × List Token) := do
        let (command, rest) ← found
        let (redirections, rest) := takeRedirections rest
        if redirections.isEmpty then return (command, rest)
        else return (.redirected command redirections, rest)
      match withAliases aliases (aliases.length + 1) [] tokens with
      | [] => none
      | .operator "(" :: rest =>
          bracketed do
            let (commands, rest) ← someList (parseList fuel false rest)
            match rest with
            | .operator ")" :: rest => some (.subshell commands, rest)
            | _ => none
      | token :: rest =>
          let other (name? : Option String) : Option (Command × List Token) :=
            match name?, rest with
            | some name, .operator "(" :: .operator ")" :: rest =>
                if isName name.toList then
                  (parseCommand fuel (skipLines rest)).map fun (body, rest) =>
                    (.define name body, rest)
                else none
            | _, .operator "(" :: _ => none
            | _, _ => takeSimple (last - lineEnds tokens) [] [] [] (token :: rest)
          match token.keyword? with
          | some "\x7b" =>
              bracketed do
                let (commands, rest) ← someList (parseList fuel false rest)
                return (.group commands, ← expect "\x7d" rest)
          | some "if" => bracketed (parseChoice fuel rest)
          | some "while" => bracketed (parseLoop fuel true rest)
          | some "until" => bracketed (parseLoop fuel false rest)
          | some "for" => bracketed (parseEach fuel rest)
          | some "case" => bracketed (parseCases fuel rest)
          | some "!" => none
          | some keyword => if closers.contains keyword then none else other (some keyword)
          | none => other none

def parseChoice : Nat → List Token → Option (Command × List Token)
  | 0, _ => none
  | fuel + 1, tokens => do
      let (test, rest) ← someList (parseList fuel false tokens)
      let (body, rest) ← someList (parseList fuel false (← expect "then" rest))
      match rest with
      | token :: rest =>
          match token.keyword? with
          | some "fi" => some (.choice test body [], rest)
          | some "elif" =>
              let (otherwise, rest) ← parseChoice fuel rest
              return (.choice test body [otherwise], rest)
          | some "else" =>
              let (otherwise, rest) ← someList (parseList fuel false rest)
              return (.choice test body otherwise, ← expect "fi" rest)
          | _ => none
      | [] => none

def parseBody : Nat → List Token → Option (List Command × List Token)
  | 0, _ => none
  | fuel + 1, tokens => do
      let (body, rest) ← someList (parseList fuel false (← expect "do" (skipLines tokens)))
      return (body, ← expect "done" rest)

def parseLoop : Nat → Bool → List Token → Option (Command × List Token)
  | 0, _, _ => none
  | fuel + 1, whileSuccess, tokens => do
      let (test, rest) ← someList (parseList fuel false tokens)
      let (body, rest) ← parseBody fuel rest
      return (.loop whileSuccess test body, rest)

def parseEach : Nat → List Token → Option (Command × List Token)
  | 0, _ => none
  | fuel + 1, tokens =>
      match tokens with
      | token :: rest => do
          let name ← token.keyword?
          let (items, rest) :=
            match expect "in" (skipLines rest) with
            | some rest =>
                let (words, rest) := takeWords rest
                (some words, rest)
            | none => (none, rest)
          let rest :=
            match rest with
            | .operator ";" :: rest => rest
            | rest => rest
          let (body, rest) ← parseBody fuel rest
          if isName name.toList then return (.each name items body, rest) else none
      | [] => none

def parseCases : Nat → List Token → Option (Command × List Token)
  | 0, _ => none
  | fuel + 1, tokens =>
      match tokens with
      | .word subject :: rest => do
          let rest ← expect "in" (skipLines rest)
          let (arms, rest) ← parseArms fuel (skipLines rest)
          return (.cases subject arms, rest)
      | _ => none

def parseArms : Nat → List Token → Option (List (List Word × List Command) × List Token)
  | 0, _ => none
  | fuel + 1, tokens =>
      match expect "esac" tokens with
      | some rest => some ([], rest)
      | none => do
          let opened :=
            match tokens with
            | .operator "(" :: rest => rest
            | tokens => tokens
          let (patterns, rest) ← takePatterns opened
          let (body, rest) ← parseList fuel false rest
          match rest with
          | .operator ";;" :: rest =>
              let (arms, rest) ← parseArms fuel (skipLines rest)
              return ((patterns, body) :: arms, rest)
          | rest => return ([(patterns, body)], ← expect "esac" rest)

def parsePipe : Nat → List Token → Option (List Command × List Token)
  | 0, _ => none
  | fuel + 1, tokens => do
      let (first, rest) ← parseCommand fuel tokens
      match rest with
      | .operator "|" :: rest =>
          let (others, rest) ← parsePipe fuel (skipLines rest)
          return (first :: others, rest)
      | rest => return ([first], rest)

def parseTerm : Nat → List Token → Option (Command × List Token)
  | 0, _ => none
  | fuel + 1, tokens =>
      let (isNegated, start) :=
        match expect "!" tokens with
        | some rest => (true, rest)
        | none => (false, tokens)
      match parsePipe fuel start with
      | none => none
      | some (commands, rest) =>
          let command :=
            match commands with
            | [command] => command
            | commands => .pipe commands
          some (if isNegated then .negation command else command, rest)

def parseChain : Nat → Command → List Token → Option (Command × List Token)
  | 0, _, _ => none
  | fuel + 1, first, tokens =>
      match tokens with
      | .operator "&&" :: rest => do
          let (second, rest) ← parseTerm fuel (skipLines rest)
          parseChain fuel (.chain true first second) rest
      | .operator "||" :: rest => do
          let (second, rest) ← parseTerm fuel (skipLines rest)
          parseChain fuel (.chain false first second) rest
      | tokens => some (first, tokens)

/-- A list of commands; a single line of them, or all up to the end of the
list. -/
def parseList : Nat → Bool → List Token → Option (List Command × List Token)
  | 0, _, _ => none
  | fuel + 1, oneLine, tokens =>
      let tokens := if oneLine then tokens else skipLines tokens
      if atListEnd tokens then some ([], tokens)
      else do
        let (first, rest) ← parseTerm fuel tokens
        let (command, rest) ← parseChain fuel first rest
        let more (command : Command) (rest : List Token) : Option (List Command × List Token) :=
          match rest with
          | .operator "\n" :: behind =>
              if oneLine then some ([command], behind)
              else (parseList fuel oneLine behind).map fun (commands, rest) =>
                (command :: commands, rest)
          | rest =>
              (parseList fuel oneLine rest).map fun (commands, rest) =>
                (command :: commands, rest)
        match rest with
        | .operator ";" :: rest => more command rest
        | .operator "&" :: rest => more (.background command) rest
        | .operator "\n" :: _ => more command rest
        | rest => if atListEnd rest then some ([command], rest) else none

end

end Parsing

/-- The commands that tokens make up as one line, if they do; `line` is the
number of their first line. -/
def parseLine? (aliases : Aliases) (line : Nat) (tokens : List Token) :
    Option (List Command) :=
  match tokens with
  | [.operator "\n"] | [] => some []
  | tokens =>
      let last := line + lineEnds tokens
      let extent := tokens.length * (1 + (aliases.flatMap fun entry => entry.2).length)
      match parseList aliases last (8 * extent + 16) true tokens with
      | some (commands, []) => if commands.isEmpty then none else some commands
      | _ => none

inductive Reading where
  | commands (commands : List Command) (rest : List Char)
  | open
deriving Inhabited

def readWithin (aliases : Aliases) (line : Nat) (atEnd : Bool) :
    Nat → List Token → List Char → Reading
  | 0, _, _ => .open
  | fuel + 1, tokens, chars =>
      match scanLine atEnd chars with
      | none => .open
      | some (more, rest) =>
          let isWhole := atEnd || more.getLast? == some (.operator "\n")
          match parseLine? aliases line (tokens ++ more) with
          | some commands =>
              if isWhole then .commands commands rest else .open
          | none =>
              if rest.isEmpty then .open
              else readWithin aliases line atEnd fuel (tokens ++ more) rest

/-- Reads the first commands of a script, which may go on behind its end or
ends there; `line` is the number of its first line. -/
def readScript (aliases : Aliases) (line : Nat) (atEnd : Bool) (chars : List Char) : Reading :=
  if chars.isEmpty then .open
  else readWithin aliases line atEnd (chars.length + 1) [] chars

end Shell
end TraceForward
