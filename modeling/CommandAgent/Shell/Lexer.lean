import CommandAgent.Shell.Syntax

/-!
# The tokens of a script

A script is cut into words, operators and line ends. Quotes, parameters and inner scripts are read
as part of the word they stand in; a comment starts at a word's beginning and ends with its line.
-/

namespace CommandAgent.Shell

inductive Token where
  /-- A word, with its text as written. -/
  | word (pieces : Word) (raw : String) (line : Nat)
  /-- An operator, with the descriptor in front of it where it redirects one. -/
  | operator (text : String) (descriptor : Option Nat) (line : Nat)
  | newline (line : Nat)
  /-- The lines that a redirection of the line before has asked for. -/
  | document (text : Word)
deriving Repr

namespace Lexer

def endsWord (c : Char) : Bool := " \t\n;&|()<>".toList.contains c

def inName (c : Char) : Bool := c.isAlphanum || c == '_'

/-- Whether a character is a parameter of its own. -/
def isSpecial (c : Char) : Bool := "@*#?$!-0123456789".toList.contains c

def lineEnds (cs : List Char) : Nat := cs.count '\n'

/-- The text up to a quote, and what follows the quote. -/
def untilQuote (q : Char) : List Char → Option (List Char × List Char)
  | [] => none
  | c :: cs =>
    if c = q then some ([], cs) else (untilQuote q cs).map fun (a, b) => (c :: a, b)

/-- The text up to the bracket that closes `depth` open ones, past quotes and escapes. -/
def untilClosed (opening closing : Char) : (fuel depth : Nat) → List Char →
    Option (List Char × List Char)
  | 0, _, _ => none
  | _, _, [] => none
  | fuel + 1, depth, '\\' :: c :: cs =>
    (untilClosed opening closing fuel depth cs).map fun (a, b) => ('\\' :: c :: a, b)
  | fuel + 1, depth, c :: cs =>
    if c = closing then
      if depth = 0 then some ([], cs)
      else (untilClosed opening closing fuel (depth - 1) cs).map fun (a, b) => (c :: a, b)
    else if c = opening then
      (untilClosed opening closing fuel (depth + 1) cs).map fun (a, b) => (c :: a, b)
    else if c = '\'' || c = '"' then
      match untilQuote c cs with
      | none => none
      | some (inner, rest) =>
        (untilClosed opening closing fuel depth rest).map fun (a, b) => (c :: inner ++ c :: a, b)
    else (untilClosed opening closing fuel depth cs).map fun (a, b) => (c :: a, b)

def untilBackquote : List Char → Option (List Char × List Char)
  | [] => none
  | '`' :: cs => some ([], cs)
  | '\\' :: c :: cs =>
    (untilBackquote cs).map fun (a, b) =>
      (if c = '`' || c = '\\' || c = '$' then c :: a else '\\' :: c :: a, b)
  | c :: cs => (untilBackquote cs).map fun (a, b) => (c :: a, b)

/-- What is done to a parameter, from the text between its name and the closing brace. -/
def treatment? : List Char → Option Treatment
  | [] => some .plain
  | ':' :: '-' :: r => some (.otherwise true (String.ofList r))
  | '-' :: r => some (.otherwise false (String.ofList r))
  | ':' :: '=' :: r => some (.assign true (String.ofList r))
  | '=' :: r => some (.assign false (String.ofList r))
  | ':' :: '?' :: r => some (.demand true (String.ofList r))
  | '?' :: r => some (.demand false (String.ofList r))
  | ':' :: '+' :: r => some (.instead true (String.ofList r))
  | '+' :: r => some (.instead false (String.ofList r))
  | '#' :: '#' :: r => some (.dropFront true (String.ofList r))
  | '#' :: r => some (.dropFront false (String.ofList r))
  | '%' :: '%' :: r => some (.dropBack true (String.ofList r))
  | '%' :: r => some (.dropBack false (String.ofList r))
  | _ => none

def bracedPiece? (quoted : Bool) : List Char → Option Piece
  | '#' :: c :: rest =>
    if (c :: rest).all inName then some (.parameter (String.ofList (c :: rest)) .length quoted)
    else (treatment? (c :: rest)).map fun t => .parameter "#" t quoted
  | c :: rest =>
    if isSpecial c && !c.isDigit then
      (treatment? rest).map fun t => .parameter (String.singleton c) t quoted
    else
      let name := (c :: rest).takeWhile inName
      if name.isEmpty then none
      else (treatment? ((c :: rest).dropWhile inName)).map fun t =>
        .parameter (String.ofList name) t quoted
  | [] => none

/-- The piece after a dollar sign, and what follows it. -/
def dollarPiece (quoted : Bool) (line : Nat) : List Char → Except SyntaxFault (Piece × List Char)
  | '(' :: '(' :: cs =>
    match untilClosed '(' ')' (cs.length + 1) 0 cs with
    | some (inner, ')' :: rest) => .ok (.arithmetic (String.ofList inner) quoted, rest)
    | _ => .error ⟨line, "Missing '))'"⟩
  | '(' :: cs =>
    match untilClosed '(' ')' (cs.length + 1) 0 cs with
    | some (inner, rest) => .ok (.output (String.ofList inner) quoted, rest)
    | none => .error ⟨line, "end of file unexpected (expecting \")\")"⟩
  | '\x7b' :: cs =>
    match untilClosed '\x7b' '\x7d' (cs.length + 1) 0 cs with
    | none => .error ⟨line, "Missing '\x7d'"⟩
    | some (inner, rest) =>
      match bracedPiece? quoted inner with
      | some p => .ok (p, rest)
      | none => .error ⟨line, "Bad substitution"⟩
  | c :: cs =>
    if isSpecial c then .ok (.parameter (String.singleton c) .plain quoted, cs)
    else if inName c then
      .ok (.parameter (String.ofList ((c :: cs).takeWhile inName)) .plain quoted,
        (c :: cs).dropWhile inName)
    else .ok (.text "$" quoted, c :: cs)
  | [] => .ok (.text "$" quoted, [])

/-- The pieces up to a closing double quote. -/
def quotedPieces (line : Nat) : (fuel : Nat) → List Char → Except SyntaxFault (Word × List Char)
  | 0, _ => .error ⟨line, "Unterminated quoted string"⟩
  | _, [] => .error ⟨line, "Unterminated quoted string"⟩
  | fuel + 1, c :: cs =>
    let more (p : Piece) (cs : List Char) := do
      let (ps, rest) ← quotedPieces line fuel cs
      return (p :: ps, rest)
    match c, cs with
    | '"', cs => .ok ([], cs)
    | '\\', '\n' :: cs => quotedPieces line fuel cs
    | '\\', e :: cs =>
      if e = '$' || e = '`' || e = '"' || e = '\\' then more (.text (String.singleton e) true) cs
      else more (.text (String.ofList ['\\', e]) true) cs
    | '$', cs => do
      let (p, cs) ← dollarPiece true line cs
      more p cs
    | '`', cs =>
      match untilBackquote cs with
      | some (inner, cs) => more (.output (String.ofList inner) true) cs
      | none => .error ⟨line, "EOF in backquote substitution"⟩
    | c, cs => more (.text (String.singleton c) true) cs

/-- The pieces of a word up to a character that ends it, and what follows. -/
def wordPieces (ends : Char → Bool) (line : Nat) : (fuel : Nat) → List Char →
    Except SyntaxFault (Word × List Char)
  | 0, cs => .ok ([], cs)
  | _, [] => .ok ([], [])
  | fuel + 1, c :: cs =>
    let more (p : Piece) (cs : List Char) := do
      let (ps, rest) ← wordPieces ends line fuel cs
      return (p :: ps, rest)
    if ends c then .ok ([], c :: cs)
    else
      match c, cs with
      | '\\', '\n' :: cs => wordPieces ends line fuel cs
      | '\\', e :: cs => more (.text (String.singleton e) true) cs
      | '\'', cs =>
        match untilQuote '\'' cs with
        | some (inner, cs) => more (.text (String.ofList inner) true) cs
        | none => .error ⟨line, "Unterminated quoted string"⟩
      | '"', cs => do
        let (ps, cs) ← quotedPieces line (cs.length + 1) cs
        let (qs, rest) ← wordPieces ends line fuel cs
        return (.text "" true :: ps ++ qs, rest)
      | '$', cs => do
        let (p, cs) ← dollarPiece false line cs
        more p cs
      | '`', cs =>
        match untilBackquote cs with
        | some (inner, cs) => more (.output (String.ofList inner) false) cs
        | none => .error ⟨line, "EOF in backquote substitution"⟩
      | c, cs => more (.text (String.singleton c) false) cs

/-- The operators, the longer ones first. -/
def operators : List String :=
  ["&&", "||", ";;", ">>", ">&", "<&", ">|", "<<-", "<<", ";", "&", "|", "(", ")", "<", ">"]

def operator? (cs : List Char) : Option (String × List Char) :=
  (operators.find? fun o => o.toList.isPrefixOf cs).map fun o => (o, cs.drop o.length)

/-- The descriptor that a word in front of a redirection names. -/
def descriptor? (raw : List Char) (next : Option Char) : Option Nat :=
  if !raw.isEmpty && raw.all Char.isDigit && (next == some '<' || next == some '>') then
    (String.ofList raw).toNat?
  else none

/-! ### Documents -/

/-- A document that is asked for: how its lines begin, where it ends, and whether it is taken as it
stands. -/
structure Wanted where
  dropTabs : Bool
  ends : String
  verbatim : Bool

/-- What the word behind the operator says of a document. -/
def Wanted.ofWord (operator : String) (pieces : Word) : Wanted where
  dropTabs := operator == "<<-"
  ends := String.join (pieces.map plain)
  verbatim := pieces.any isQuoted
where
  plain : Piece → String
    | .text s _ => s
    | _ => ""
  isQuoted : Piece → Bool
    | .text _ q => q
    | _ => false

def documentLines (w : Wanted) : (fuel : Nat) → List Char → List (List Char) × List Char
  | 0, cs => ([], cs)
  | _, [] => ([], [])
  | fuel + 1, cs =>
    let whole := cs.takeWhile (· != '\n')
    let rest := cs.drop (whole.length + 1)
    let line := if w.dropTabs then whole.dropWhile (· == '\t') else whole
    if String.ofList line = w.ends then ([], rest)
    else
      let (more, rest) := documentLines w fuel rest
      ((line ++ ['\n']) :: more, rest)

/-- The pieces of a document's text, in which a quote stands for itself. -/
def documentPieces (line : Nat) : (fuel : Nat) → List Char → Except SyntaxFault Word
  | 0, _ => .ok []
  | _, [] => .ok []
  | fuel + 1, c :: cs =>
    let more (p : Piece) (cs : List Char) := do return p :: (← documentPieces line fuel cs)
    match c, cs with
    | '\\', '\n' :: cs => documentPieces line fuel cs
    | '\\', e :: cs =>
      if e = '$' || e = '`' || e = '\\' then more (.text (String.singleton e) true) cs
      else more (.text (String.ofList ['\\', e]) true) cs
    | '$', cs => do
      let (p, cs) ← dollarPiece true line cs
      more p cs
    | '`', cs =>
      match untilBackquote cs with
      | some (inner, cs) => more (.output (String.ofList inner) true) cs
      | none => .error ⟨line, "EOF in backquote substitution"⟩
    | c, cs => more (.text (String.singleton c) true) cs

/-- The documents that are asked for, as tokens, with the number of their lines and what follows. -/
def documents (line : Nat) : List Wanted → List Char →
    Except SyntaxFault (List Token × Nat × List Char)
  | [], cs => .ok ([], 0, cs)
  | w :: ws, cs => do
    let (lines, rest) := documentLines w (cs.length + 1) cs
    let text := lines.flatten
    let word ← if w.verbatim then pure [.text (String.ofList text) true]
      else documentPieces line (text.length + 1) text
    let (more, count, rest) ← documents (line + lines.length + 1) ws rest
    return (.document word :: more, lines.length + 1 + count, rest)

/-- The tokens of a text from a line on. An operator that asks for a document is `asking` until the
word behind it has been read; then the document is `wanted` until the line ends. -/
def tokens : (fuel line : Nat) → (asking : Option String) → (wanted : List Wanted) → List Char →
    Except SyntaxFault (List Token)
  | 0, _, _, _, _ => .ok []
  | _, _, _, _, [] => .ok []
  | fuel + 1, line, asking, wanted, c :: cs =>
    if c = ' ' || c = '\t' then tokens fuel line asking wanted cs
    else if c = '\n' then do
      let (found, count, rest) ← documents (line + 1) wanted cs
      return found ++ .newline line :: (← tokens fuel (line + 1 + count) none [] rest)
    else if c = '#' then tokens fuel line asking wanted (cs.dropWhile (· != '\n'))
    else if c = '\\' && cs.head? = some '\n' then
      tokens fuel (line + 1) asking wanted (cs.drop 1)
    else
      let askingFor (o : String) := if o == "<<" || o == "<<-" then some o else none
      match operator? (c :: cs) with
      | some (o, rest) => do
        return .operator o none line :: (← tokens fuel line (askingFor o) wanted rest)
      | none => do
        let (pieces, rest) ← wordPieces endsWord line (cs.length + 2) (c :: cs)
        let raw := (c :: cs).take (cs.length + 1 - rest.length)
        match descriptor? raw rest.head?, operator? rest with
        | some n, some (o, rest) =>
          return .operator o (some n) line :: (← tokens fuel line (askingFor o) wanted rest)
        | _, _ =>
          let wanted := wanted ++ (asking.map fun o => Wanted.ofWord o pieces).toList
          return .word pieces (String.ofList raw) line
            :: (← tokens fuel (line + lineEnds raw) none wanted rest)

/-- Put each document in place of the word that announced it. -/
def placeDocuments : (documents : List Word) → List Token → List Token
  | d :: ds, .operator "<<" n l :: .word _ raw l' :: ts =>
    .operator "<<" n l :: .word d raw l' :: placeDocuments ds ts
  | d :: ds, .operator "<<-" n l :: .word _ raw l' :: ts =>
    .operator "<<" n l :: .word d raw l' :: placeDocuments ds ts
  | ds, t :: ts => t :: placeDocuments ds ts
  | _, [] => []

end Lexer

namespace Token

def document? : Token → Option Word
  | document w => some w
  | _ => none

end Token

def Word.parse (text : String) : Except SyntaxFault Word :=
  (Lexer.wordPieces (fun _ => false) 1 (text.length + 1) text.toList).map (·.1)

def tokenize (text : String) : Except SyntaxFault (List Token) := do
  let ts ← Lexer.tokens (text.length + 1) 1 none [] text.toList
  return Lexer.placeDocuments (ts.filterMap Token.document?)
    (ts.filter fun t => t.document?.isNone)

end CommandAgent.Shell
