import MountKeeper.Text.Numeral

/-! # Scripts of a small shell

A script is a list of simple commands with words, redirections and what joins them: `;` or a line
end, `&&`, `||`. Words have quotes, backslashes and variables. Pipes, loops and substitutions are
not part of it.

* `Shell.tokens` cuts a text into tokens; `Shell.script` puts them together. -/

namespace MountKeeper.Rehearsal.Shell

/-! ## Tokens -/

/-- A piece of a word. -/
inductive Piece where
  | char (c : Char)
  /-- Quotes, which make a word even when nothing is between them. -/
  | quotes
  /-- The value of a variable, which is cut at blanks unless it is quoted. -/
  | variable (name : String) (quoted : Bool)
  deriving DecidableEq, Repr

/-- A word. -/
abbrev Word := List Piece

/-- The number that a word of digits is. -/
def number? (w : Word) : Option Nat :=
  let digit? (p : Piece) : Option Char := match p with
    | .char c => if c.isDigit then some c else none
    | _ => none
  match w.mapM digit? with
  | some cs => Numeral.readDigits? 10 cs
  | none => none

/-- A token. -/
inductive Token where
  | word (w : Word)
  | mark (c : Char)
  /-- The redirection of the stream with a number. -/
  | into (stream : Nat)
  deriving DecidableEq, Repr

/-- Where the reader of a text is. -/
inductive Place where
  | outside
  | inSingle
  | inDouble
  | comment
  /-- Behind a backslash. -/
  | escaped (quoted : Bool)
  /-- In a variable, behind the characters of its name. -/
  | inVariable (quoted : Bool) (name : List Char)
  /-- In a variable with braces. -/
  | inBraces (quoted : Bool) (name : List Char)
  deriving DecidableEq, Repr

/-- The state of the reader of a text: the tokens so far, the word that has begun, and the place. -/
structure Lexer where
  tokens : List Token := []
  word : Option Word := none
  place : Place := .outside

namespace Lexer

/-- Adds a piece to the word. -/
def add (l : Lexer) (p : Piece) : Lexer :=
  { l with word := some (l.word.getD [] ++ [p]) }

/-- Ends the word. -/
def close (l : Lexer) : Lexer :=
  match l.word with
  | some w => { l with tokens := l.tokens ++ [.word w], word := none }
  | none => l

/-- The place within quotes or outside of them. -/
def home (quoted : Bool) : Place :=
  if quoted then .inDouble else .outside

/-- The characters that are tokens outside of quotes. -/
def isMark (c : Char) : Bool :=
  [';', '&', '|', '<', '\n'].contains c

/-- Begins a redirection. The number of its stream stands directly in front of it, if it is not that
of the output. -/
def redirect (l : Lexer) : Lexer :=
  match l.word.bind number? with
  | some n => { l with tokens := l.tokens ++ [.into n], word := none }
  | none => { l.close with tokens := l.close.tokens ++ [.into 1] }

/-- Reads a character outside of quotes. -/
def stepOutside (l : Lexer) (c : Char) : Lexer :=
  if c = ' ' ∨ c = '\t' then l.close
  else if c = '>' then l.redirect
  else if isMark c then { l.close with tokens := l.close.tokens ++ [.mark c] }
  else if c = '\'' then { l.add .quotes with place := .inSingle }
  else if c = '"' then { l.add .quotes with place := .inDouble }
  else if c = '\\' then { l with place := .escaped false }
  else if c = '$' then { l with place := .inVariable false [] }
  else if c = '#' ∧ l.word.isNone then { l with place := .comment }
  else l.add (.char c)

/-- Reads a character between double quotes. -/
def stepDouble (l : Lexer) (c : Char) : Lexer :=
  if c = '"' then { l with place := .outside }
  else if c = '\\' then { l with place := .escaped true }
  else if c = '$' then { l with place := .inVariable true [] }
  else l.add (.char c)

/-- Reads a character in the place within quotes or outside of them. -/
def stepHome (l : Lexer) (quoted : Bool) (c : Char) : Lexer :=
  let l := { l with place := home quoted }
  if quoted then l.stepDouble c else l.stepOutside c

/-- Whether a character can be part of the name of a variable. -/
def isNameChar (c : Char) : Bool :=
  c.isAlphanum || c == '_'

/-- Reads a character in a variable. -/
def stepVariable (l : Lexer) (quoted : Bool) (name : List Char) (c : Char) : Lexer :=
  match name with
  | [] =>
    if c = '\x7b' then { l with place := .inBraces quoted [] }
    else if c.isDigit || ['$', '?', '#', '@', '*'].contains c then
      { l.add (.variable (String.singleton c) quoted) with place := home quoted }
    else if isNameChar c then { l with place := .inVariable quoted [c] }
    else (l.add (.char '$')).stepHome quoted c
  | name =>
    if isNameChar c then { l with place := .inVariable quoted (name ++ [c]) }
    else (l.add (.variable (String.ofList name) quoted)).stepHome quoted c

/-- Reads a character. -/
def step (l : Lexer) (c : Char) : Lexer :=
  match l.place with
  | .outside => l.stepOutside c
  | .inSingle => if c = '\'' then { l with place := .outside } else l.add (.char c)
  | .inDouble => l.stepDouble c
  | .comment => if c = '\n' then l.stepHome false c else l
  | .escaped false => { (if c = '\n' then l else l.add (.char c)) with place := .outside }
  | .escaped true =>
    if ['$', '"', '\\', '\x60'].contains c then { l.add (.char c) with place := .inDouble }
    else { (l.add (.char '\\')).add (.char c) with place := .inDouble }
  | .inVariable quoted name => l.stepVariable quoted name c
  | .inBraces quoted name =>
    if c = '\x7d' then { l.add (.variable (String.ofList name) quoted) with place := home quoted }
    else { l with place := .inBraces quoted (name ++ [c]) }

/-- Ends a variable that has begun. -/
def endVariable (l : Lexer) : Lexer :=
  match l.place with
  | .inVariable _ [] => l.add (.char '$')
  | .inVariable quoted name => l.add (.variable (String.ofList name) quoted)
  | _ => l

end Lexer

/-- The tokens of a text. -/
def tokens (text : List Char) : List Token :=
  (text.foldl Lexer.step {}).endVariable.close.tokens

/-! ## Commands -/

/-- Where the output of a command goes. -/
inductive Target where
  /-- Where the other or the same stream goes. -/
  | stream (number : Nat)
  /-- Nowhere. -/
  | away
  deriving DecidableEq, Repr

/-- What joins a command to those before it. -/
inductive Joint where
  | always | ifSucceeded | ifFailed
  deriving DecidableEq, Repr

/-- A simple command. -/
structure Simple where
  joint : Joint := .always
  words : List Word := []
  /-- Where the streams with these numbers go. -/
  redirects : List (Nat × Target) := []
  deriving DecidableEq, Repr

/-- A command with a stream redirected to what a word says. -/
def Simple.redirect (s : Simple) (stream : Nat) (target : Target) : Simple :=
  { s with redirects := s.redirects ++ [(stream, target)] }

/-- The commands of tokens, read on from a command that has begun. -/
def commands (s : Simple) : List Token → List Simple
  | [] => [s]
  | .word w :: rest => commands { s with words := s.words ++ [w] } rest
  | .into n :: .mark '&' :: .word w :: rest =>
    commands (s.redirect n (match number? w with
      | some m => .stream m
      | none => .away)) rest
  | .into n :: .into _ :: .word _ :: rest | .into n :: .word _ :: rest =>
    commands (s.redirect n .away) rest
  | .into _ :: rest => commands s rest
  | .mark '<' :: .word _ :: rest => commands s rest
  | .mark '&' :: .mark '&' :: rest => s :: commands { joint := .ifSucceeded } rest
  | .mark '|' :: .mark '|' :: rest => s :: commands { joint := .ifFailed } rest
  | .mark _ :: rest => s :: commands {} rest

/-- The commands of a text that say something. -/
def script (text : String) : List Simple :=
  (commands {} (tokens text.toList)).filter fun s => !(s.words.isEmpty && s.redirects.isEmpty)

end MountKeeper.Rehearsal.Shell
