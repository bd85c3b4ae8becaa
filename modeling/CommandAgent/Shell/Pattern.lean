/-!
# Patterns

Two kinds of patterns occur in scripts. In the shell's own a star stands for any text, a question
mark for one character and brackets for one of several (`matchesGlob`); in those of the stream
editor a star repeats the character before it and a dot stands for any character (`Regex`).
-/

namespace CommandAgent.Shell

/-! ### Shell patterns -/

inductive Glob where
  | literal (c : Char)
  | anyChar
  | anyText
  | oneOf (negated : Bool) (ranges : List (Char × Char))
deriving DecidableEq, Repr

namespace Glob

def ranges : List Char → List (Char × Char)
  | a :: '-' :: b :: cs => (a, b) :: ranges cs
  | a :: cs => (a, a) :: ranges cs
  | [] => []

/-- The parts of a pattern; a character behind a backslash stands for itself. -/
def parse : (fuel : Nat) → List Char → List Glob
  | 0, _ => []
  | _, [] => []
  | fuel + 1, '\\' :: c :: cs => literal c :: parse fuel cs
  | fuel + 1, '*' :: cs => anyText :: parse fuel cs
  | fuel + 1, '?' :: cs => anyChar :: parse fuel cs
  | fuel + 1, '[' :: cs =>
    let (negated, body) := match cs with
      | '!' :: r => (true, r)
      | r => (false, r)
    let inner := body.take 1 ++ (body.drop 1).takeWhile (· != ']')
    let rest := (body.drop 1).dropWhile (· != ']')
    match rest with
    | ']' :: rest => oneOf negated (ranges inner) :: parse fuel rest
    | _ => literal '[' :: parse fuel cs
  | fuel + 1, c :: cs => literal c :: parse fuel cs

def accepts (c : Char) : Glob → Bool
  | literal d => c == d
  | anyChar | anyText => true
  | oneOf negated rs => (rs.any fun (a, b) => decide (a ≤ c) && decide (c ≤ b)) != negated

/-- Whether the parts stand for a whole text. -/
def matchesAll : List Glob → List Char → Bool
  | [], cs => cs.isEmpty
  | anyText :: gs, [] => matchesAll gs []
  | anyText :: gs, c :: cs => matchesAll gs (c :: cs) || matchesAll (anyText :: gs) cs
  | _ :: _, [] => false
  | g :: gs, c :: cs => g.accepts c && matchesAll gs cs
termination_by gs cs => gs.length + cs.length

end Glob

/-- Whether a pattern stands for a whole text. -/
def matchesGlob (pattern text : List Char) : Bool :=
  Glob.matchesAll (Glob.parse (pattern.length + 1) pattern) text

/-- Cut the shortest or longest prefix that matches off a text. -/
def cutFront (longest : Bool) (pattern text : List Char) : List Char :=
  let lengths := List.range (text.length + 1)
  let lengths := if longest then lengths.reverse else lengths
  match lengths.find? fun n => matchesGlob pattern (text.take n) with
  | some n => text.drop n
  | none => text

/-- Cut the shortest or longest suffix that matches off a text. -/
def cutBack (longest : Bool) (pattern text : List Char) : List Char :=
  let lengths := List.range (text.length + 1)
  let lengths := if longest then lengths else lengths.reverse
  match lengths.find? fun n => matchesGlob pattern (text.drop n) with
  | some n => text.take n
  | none => text

/-! ### Patterns of the stream editor -/

/-- A part of an editor pattern. -/
inductive Regex where
  | one (g : Glob)
  | many (g : Glob)
  | first
  | last
deriving DecidableEq, Repr

namespace Regex

def parse : (fuel : Nat) → (start : Bool) → List Char → List Regex
  | 0, _, _ => []
  | _, _, [] => []
  | fuel + 1, true, '^' :: cs => first :: parse fuel false cs
  | _, _, ['$'] => [last]
  | fuel + 1, _, '\\' :: c :: cs => repeated fuel (.literal c) cs
  | fuel + 1, _, '.' :: cs => repeated fuel .anyChar cs
  | fuel + 1, _, '[' :: cs =>
    let (negated, body) := match cs with
      | '^' :: r => (true, r)
      | r => (false, r)
    let inner := body.take 1 ++ (body.drop 1).takeWhile (· != ']')
    repeated fuel (.oneOf negated (Glob.ranges inner))
      (((body.drop 1).dropWhile (· != ']')).drop 1)
  | fuel + 1, _, c :: cs => repeated fuel (.literal c) cs
where
  /-- A part with the star behind it, if there is one. -/
  repeated (fuel : Nat) (g : Glob) : List Char → List Regex
    | '*' :: cs => many g :: parse fuel false cs
    | cs => one g :: parse fuel false cs

/-- The longest match at the front, as the number of characters. -/
def longest (atStart : Bool) : List Regex → List Char → Option Nat
  | [], _ => some 0
  | first :: rs, cs => if atStart then longest atStart rs cs else none
  | last :: rs, cs => if cs.isEmpty then longest atStart rs cs else none
  | one g :: rs, c :: cs => if g.accepts c then (longest false rs cs).map (· + 1) else none
  | one _ :: _, [] => none
  | many g :: rs, c :: cs =>
    match if g.accepts c then (longest false (many g :: rs) cs).map (· + 1) else none with
    | some n => some n
    | none => longest atStart rs (c :: cs)
  | many _ :: rs, [] => longest atStart rs []
termination_by rs cs => rs.length + cs.length

/-- Replace the first match, or every match, in a line; `&` stands for what was matched. -/
def replace (rs : List Regex) (replacement : List Char) (everywhere : Bool) :
    (fuel : Nat) → (atStart : Bool) → List Char → List Char
  | 0, _, cs => cs
  | fuel + 1, atStart, cs =>
    match longest atStart rs cs with
    | some n =>
      let inserted := fill (cs.take n) replacement
      match n, cs.drop n, everywhere with
      | 0, c :: rest, true => inserted ++ c :: replace rs replacement everywhere fuel false rest
      | _, [], _ => inserted
      | _, rest, true => inserted ++ replace rs replacement everywhere fuel false rest
      | _, rest, false => inserted ++ rest
    | none =>
      match cs with
      | c :: rest => c :: replace rs replacement everywhere fuel false rest
      | [] => []
where
  /-- The replacement with the match filled in. -/
  fill (found : List Char) : List Char → List Char
    | '\\' :: 'n' :: cs => '\n' :: fill found cs
    | '\\' :: c :: cs => c :: fill found cs
    | '&' :: cs => found ++ fill found cs
    | c :: cs => c :: fill found cs
    | [] => []

end Regex
end CommandAgent.Shell
