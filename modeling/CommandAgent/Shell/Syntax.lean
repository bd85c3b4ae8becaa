/-!
# The syntax of scripts

A script is a list of phrases. The words of a phrase are made of pieces: text that stands for
itself, parameters, and the output of other scripts. Inner scripts, arithmetic and the words inside
a parameter are kept as text and read when they are needed.
-/

namespace CommandAgent.Shell

/-- What is done to the value of a parameter. -/
inductive Treatment where
  | plain
  | length
  /-- Take another text where the parameter is unset, or also where it is empty. -/
  | otherwise (orEmpty : Bool) (text : String)
  /-- The same, and set the parameter. -/
  | assign (orEmpty : Bool) (text : String)
  /-- Give up with a message where the parameter is unset, or also where it is empty. -/
  | demand (orEmpty : Bool) (message : String)
  /-- Take another text where the parameter is set. -/
  | instead (orEmpty : Bool) (text : String)
  /-- Cut off the shortest or longest prefix that matches a pattern. -/
  | dropFront (longest : Bool) (pattern : String)
  | dropBack (longest : Bool) (pattern : String)
deriving DecidableEq, Repr

/-- A part of a word. What stands in quotes is neither split nor expanded further. -/
inductive Piece where
  | text (s : String) (quoted : Bool)
  | parameter (name : String) (treatment : Treatment) (quoted : Bool)
  | output (script : String) (quoted : Bool)
  | arithmetic (expression : String) (quoted : Bool)
deriving DecidableEq, Repr

abbrev Word := List Piece

inductive Redirection where
  | input (word : Word)
  | output (word : Word)
  | append (word : Word)
  /-- The same place as another descriptor has. -/
  | same (word : Word)
  /-- The text of the script's next lines. -/
  | document (text : Word)
deriving DecidableEq, Repr

structure Redirect where
  descriptor : Nat
  action : Redirection
deriving DecidableEq, Repr

inductive Phrase where
  | simple (line : Nat) (settings : List (String × Word)) (words : List Word)
    (redirects : List Redirect)
  | pipeline (negated : Bool) (parts : List Phrase)
  | both (first second : Phrase)
  | either (first second : Phrase)
  | group (body : List Phrase) (redirects : List Redirect) (line : Nat)
  | subshell (body : List Phrase) (redirects : List Redirect) (line : Nat)
  | branch (condition body otherwise : List Phrase) (redirects : List Redirect) (line : Nat)
  /-- Repeat while, or until, the condition holds. -/
  | loop (negated : Bool) (condition body : List Phrase) (redirects : List Redirect) (line : Nat)
  | each (name : String) (words : Option (List Word)) (body : List Phrase)
    (redirects : List Redirect) (line : Nat)
  | select (word : Word) (clauses : List (List Word × List Phrase)) (redirects : List Redirect)
    (line : Nat)
  /-- Give a command a name. -/
  | define (name : String) (body : Phrase)
deriving Repr

abbrev Script := List Phrase

/-- What is wrong with the text of a script, and in which line. -/
structure SyntaxFault where
  line : Nat
  message : String
deriving DecidableEq, Repr

end CommandAgent.Shell
