import CommandAgent.Shell.Lexer

/-!
# Reading scripts

Phrases are read from the tokens by recursive descent: lists of phrases up to a closing word, chains
of `&&` and `||`, pipelines, and then the single commands with their redirections. Each unit of fuel
pays for one level; a script never needs more than a few for each of its tokens.
-/

namespace CommandAgent.Shell

/-- The words that have a meaning at the front of a command. -/
def reservedWords : List String :=
  ["if", "then", "elif", "else", "fi", "while", "until", "do", "done", "for", "case", "esac",
    "\x7b", "\x7d", "!"]

namespace Token

def line : Token → Nat
  | .word _ _ l | .operator _ _ l | .newline l => l
  | .document _ => 0

def reserved? : Token → Option String
  | .word _ raw _ => if reservedWords.contains raw then some raw else none
  | _ => none

def isOperator (text : String) : Token → Bool
  | .operator t _ _ => t == text
  | _ => false

def label : Token → String
  | .word _ raw _ => if reservedWords.contains raw then s!"\"{raw}\"" else "word"
  | .operator t _ _ => s!"\"{t}\""
  | .newline _ => "newline"
  | .document _ => "word"

end Token

namespace Parser

/-- The fault of meeting a token, or the end, where it cannot stand. -/
def unexpected (last : Nat) (expecting : Option String) : List Token → SyntaxFault
  | [] => ⟨last, "end of file unexpected" ++ wanted⟩
  | t :: _ => ⟨t.line, t.label ++ " unexpected" ++ wanted⟩
where
  wanted := match expecting with
    | some w => s!" (expecting \"{w}\")"
    | none => ""

def skipLines : List Token → List Token
  | .newline _ :: ts => skipLines ts
  | ts => ts

def expect (last : Nat) (word : String) : List Token → Except SyntaxFault (Unit × List Token)
  | t :: ts =>
    if t.reserved? = some word then .ok ((), ts) else .error (unexpected last (some word) (t :: ts))
  | [] => .error (unexpected last (some word) [])

/-- A list of phrases in which there must be one, unless the script ends here. -/
def nonEmpty (last : Nat) : Script × List Token → Except SyntaxFault (Script × List Token)
  | ([], t :: ts) => .error (unexpected last none (t :: ts))
  | r => .ok r

def redirect? (descriptor : Option Nat) (operator : String) (word : Word) : Option Redirect :=
  match operator with
  | "<" => some ⟨descriptor.getD 0, .input word⟩
  | ">" | ">|" => some ⟨descriptor.getD 1, .output word⟩
  | ">>" => some ⟨descriptor.getD 1, .append word⟩
  | ">&" => some ⟨descriptor.getD 1, .same word⟩
  | "<&" => some ⟨descriptor.getD 0, .same word⟩
  | "<<" => some ⟨descriptor.getD 0, .document word⟩
  | _ => none

def isLine : Token → Bool
  | .newline _ => true
  | _ => false

def closes (t : Token) : Bool :=
  t.isOperator ")" || t.isOperator ";;"
    || ((t.reserved?).any fun w =>
      ["then", "elif", "else", "fi", "do", "done", "esac", "\x7d"].contains w)

def redirects (last : Nat) : List Token → Except SyntaxFault ((List Redirect) × List Token)
  | .operator o d l :: .word w raw l' :: ts =>
    match redirect? d o w with
    | some r => do
      let (rs, ts) ← redirects last ts
      return (r :: rs, ts)
    | none => .ok ([], .operator o d l :: .word w raw l' :: ts)
  | .operator o d l :: ts =>
    if (redirect? d o []).isSome then .error (unexpected last none ts)
    else .ok ([], .operator o d l :: ts)
  | ts => .ok ([], ts)

/-- A word that sets a variable, as its name and value. -/
def setting? (pieces : Word) (raw : String) : Option (String × Word) :=
  let name := raw.toList.takeWhile Lexer.inName
  let rest := raw.toList.drop name.length
  let named := match name with
    | [] => false
    | c :: _ => !c.isDigit
  if named && rest.head? = some '=' then
    some (String.ofList name, dropPieces (name.length + 1) pieces)
  else none
where
  /-- The pieces without their first characters, which all stand for themselves. -/
  dropPieces : Nat → Word → Word
    | 0, ps => ps
    | n + 1, .text s q :: ps =>
      if s.length ≤ n + 1 then dropPieces (n + 1 - s.length) ps
      else .text (String.ofList (s.toList.drop (n + 1))) q :: ps
    | _, ps => ps

structure Parts where
  settings : List (String × Word) := []
  words : List Word := []
  redirects : List Redirect := []

/-- The parts of a simple command; `early` as long as a word may still set a variable. -/
def simple (last : Nat) : (early : Bool) → List Token → Except SyntaxFault (Parts × List Token)
  | early, .word w raw _ :: ts =>
    match early, setting? w raw with
    | true, some s => do
      let (p, rest) ← simple last true ts
      return ({ p with settings := s :: p.settings }, rest)
    | _, _ => do
      let (p, rest) ← simple last false ts
      return ({ p with words := w :: p.words }, rest)
  | early, .operator o d l :: .word w raw l' :: ts =>
    match redirect? d o w with
    | some r => do
      let (p, rest) ← simple last early ts
      return ({ p with redirects := r :: p.redirects }, rest)
    | none => .ok ({}, .operator o d l :: .word w raw l' :: ts)
  | _, .operator o d l :: ts =>
    if (redirect? d o []).isSome then .error (unexpected last none ts)
    else .ok ({}, .operator o d l :: ts)
  | _, ts => .ok ({}, ts)

/-- The words up to the end of a line or a semicolon. -/
def plainWords : List Token → List Word × List Token
  | .word w _ _ :: ts =>
    let (ws, rest) := plainWords ts
    (w :: ws, rest)
  | ts => ([], ts)

/-- The patterns of a clause, up to the closing bracket. -/
def patterns (last : Nat) : List Token → Except SyntaxFault ((List Word) × List Token)
  | .word w _ _ :: t :: ts =>
    if t.isOperator "|" then do
      let (ws, rest) ← patterns last ts
      return (w :: ws, rest)
    else if t.isOperator ")" then .ok ([w], ts)
    else .error (unexpected last (some ")") (t :: ts))
  | ts => .error (unexpected last none ts)

def skipSemicolon : List Token → List Token
  | t :: ts => if t.isOperator ";" then ts else t :: ts
  | [] => []

/-- The name that tokens define, and what follows the empty brackets behind it. -/
def definition? : List Token → Option (String × List Token)
  | .word _ raw _ :: t :: u :: ts =>
    if t.isOperator "(" && u.isOperator ")" && raw.toList.all Lexer.inName then some (raw, ts)
    else none
  | _ => none

mutual

/-- Phrases up to one of the closing words, or a closing bracket, or the end. -/
def phrases (last : Nat) : (fuel : Nat) → List Token → Except SyntaxFault (Script × List Token)
  | 0, ts => .error (unexpected last none ts)
  | fuel + 1, ts => do
    match skipLines ts with
    | [] => return ([], [])
    | t :: ts =>
      if closes t then return ([], t :: ts)
      else
        let (p, ts) ← chain last fuel (t :: ts)
        match ts with
        | [] => return ([p], [])
        | u :: us =>
          if u.isOperator ";" || u.isOperator "&" || isLine u then
            let (ps, rest) ← phrases last fuel us
            return (p :: ps, rest)
          else if closes u then return ([p], u :: us)
          else throw (unexpected last none (u :: us))

def chain (last : Nat) : (fuel : Nat) → List Token → Except SyntaxFault (Phrase × List Token)
  | 0, ts => .error (unexpected last none ts)
  | fuel + 1, ts => do
    let (p, ts) ← pipeline last fuel ts
    chainFrom last fuel p ts

def chainFrom (last : Nat) : (fuel : Nat) → Phrase → List Token →
    Except SyntaxFault (Phrase × List Token)
  | 0, _, ts => .error (unexpected last none ts)
  | fuel + 1, p, t :: ts => do
    if t.isOperator "&&" then
      let (q, rest) ← pipeline last fuel (skipLines ts)
      chainFrom last fuel (.both p q) rest
    else if t.isOperator "||" then
      let (q, rest) ← pipeline last fuel (skipLines ts)
      chainFrom last fuel (.either p q) rest
    else return (p, t :: ts)
  | _, p, [] => .ok (p, [])

/-- Commands joined by `|`, negated by `!`. -/
def pipeline (last : Nat) : (fuel : Nat) → List Token → Except SyntaxFault (Phrase × List Token)
  | 0, ts => .error (unexpected last none ts)
  | fuel + 1, ts => do
    let negated := match ts with
      | t :: _ => t.reserved? == some "!"
      | [] => false
    let (p, rest) ← command last fuel (if negated then ts.drop 1 else ts)
    let (ps, rest) ← pipelineFrom last fuel rest
    match negated, ps with
    | false, [] => return (p, rest)
    | _, _ => return (.pipeline negated (p :: ps), rest)

def pipelineFrom (last : Nat) : (fuel : Nat) → List Token →
    Except SyntaxFault ((List Phrase) × List Token)
  | 0, ts => .error (unexpected last none ts)
  | fuel + 1, t :: ts => do
    if t.isOperator "|" then
      let (p, rest) ← command last fuel (skipLines ts)
      let (ps, rest) ← pipelineFrom last fuel rest
      return (p :: ps, rest)
    else return ([], t :: ts)
  | _, [] => .ok ([], [])

def command (last : Nat) : (fuel : Nat) → List Token → Except SyntaxFault (Phrase × List Token)
  | 0, ts => .error (unexpected last none ts)
  | _, [] => .error (unexpected last none [])
  | fuel + 1, t :: ts =>
    let l := t.line
    match t.reserved? with
    | some "\x7b" => do
      let (body, rest) ← nonEmpty last (← phrases last fuel ts)
      let (_, rest) ← expect last "\x7d" rest
      let (rs, rest) ← redirects last rest
      return (.group body rs l, rest)
    | some "if" => do
      let (p, rest) ← branches last fuel l ts
      return (p, rest)
    | some "while" => do
      let (condition, rest) ← nonEmpty last (← phrases last fuel ts)
      let (_, rest) ← expect last "do" rest
      let (body, rest) ← nonEmpty last (← phrases last fuel rest)
      let (_, rest) ← expect last "done" rest
      let (rs, rest) ← redirects last rest
      return (.loop false condition body rs l, rest)
    | some "until" => do
      let (condition, rest) ← nonEmpty last (← phrases last fuel ts)
      let (_, rest) ← expect last "do" rest
      let (body, rest) ← nonEmpty last (← phrases last fuel rest)
      let (_, rest) ← expect last "done" rest
      let (rs, rest) ← redirects last rest
      return (.loop true condition body rs l, rest)
    | some "for" => do
      match ts with
      | .word _ name _ :: rest =>
        let (words, rest) := match skipLines rest with
          | .word _ "in" _ :: more =>
            let (ws, more) := plainWords more
            (some ws, more)
          | more => (none, more)
        let (_, rest) ← expect last "do" (skipLines (skipSemicolon rest))
        let (body, rest) ← nonEmpty last (← phrases last fuel rest)
        let (_, rest) ← expect last "done" rest
        let (rs, rest) ← redirects last rest
        return (.each name words body rs l, rest)
      | _ => throw ⟨l, "Bad for loop variable"⟩
    | some "case" => do
      match ts with
      | .word w _ _ :: rest =>
        match skipLines rest with
        | .word _ "in" _ :: rest =>
          let (cs, rest) ← clauses last fuel rest
          let (rs, rest) ← redirects last rest
          return (.select w cs rs l, rest)
        | rest => throw (unexpected last (some "in") rest)
      | _ => throw (unexpected last none ts)
    | some _ => throw (unexpected last none (t :: ts))
    | none =>
      if t.isOperator "(" then do
        let (body, rest) ← nonEmpty last (← phrases last fuel ts)
        match rest with
        | u :: rest =>
          if u.isOperator ")" then
            let (rs, rest) ← redirects last rest
            return (.subshell body rs l, rest)
          else throw (unexpected last (some ")") (u :: rest))
        | [] => throw (unexpected last (some ")") [])
      else if let some (name, rest) := definition? (t :: ts) then do
        let (body, rest) ← command last fuel (skipLines rest)
        return (.define name body, rest)
      else do
        let (p, rest) ← simple last true (t :: ts)
        if p.settings.isEmpty && p.words.isEmpty && p.redirects.isEmpty then
          throw (unexpected last none (t :: ts))
        else return (.simple l p.settings p.words p.redirects, rest)

/-- What follows `if` or `elif`. -/
def branches (last : Nat) : (fuel line : Nat) → List Token →
    Except SyntaxFault (Phrase × List Token)
  | 0, _, ts => .error (unexpected last none ts)
  | fuel + 1, l, ts => do
    let (condition, rest) ← nonEmpty last (← phrases last fuel ts)
    let (_, rest) ← expect last "then" rest
    let (body, rest) ← nonEmpty last (← phrases last fuel rest)
    match rest with
    | t :: rest =>
      match t.reserved? with
      | some "elif" =>
        let (p, rest) ← branches last fuel l rest
        return (.branch condition body [p] [] l, rest)
      | some "else" =>
        let (otherwise, rest) ← nonEmpty last (← phrases last fuel rest)
        let (_, rest) ← expect last "fi" rest
        let (rs, rest) ← redirects last rest
        return (.branch condition body otherwise rs l, rest)
      | some "fi" =>
        let (rs, rest) ← redirects last rest
        return (.branch condition body [] rs l, rest)
      | _ => throw (unexpected last (some "fi") (t :: rest))
    | [] => throw (unexpected last (some "fi") [])

def clauses (last : Nat) : (fuel : Nat) → List Token →
    Except SyntaxFault ((List (List Word × Script)) × List Token)
  | 0, ts => .error (unexpected last none ts)
  | fuel + 1, ts => do
    match skipLines ts with
    | [] => throw (unexpected last (some "esac") [])
    | t :: ts =>
      if t.reserved? = some "esac" then return ([], ts)
      else
        let (ws, rest) ← patterns last (if t.isOperator "(" then ts else t :: ts)
        let (body, rest) ← phrases last fuel rest
        match rest with
        | u :: rest =>
          if u.isOperator ";;" then
            let (cs, rest) ← clauses last fuel rest
            return ((ws, body) :: cs, rest)
          else if u.reserved? = some "esac" then return ([(ws, body)], rest)
          else throw (unexpected last (some ";;") (u :: rest))
        | [] => throw (unexpected last (some "esac") [])

end

end Parser

def Script.parse (text : String) : Except SyntaxFault Script := do
  let tokens ← tokenize text
  let last := 1 + Lexer.lineEnds text.toList
  let (script, rest) ← Parser.phrases last (8 * tokens.length + 8) tokens
  match rest with
  | [] => return script
  | ts => throw (Parser.unexpected last none ts)

end CommandAgent.Shell
