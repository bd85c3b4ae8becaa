/-!
# White space and letter case

Every text field the agent reads is trimmed before it is judged, and the trimming is that of the
Unicode property *White_Space*: a no-break space counts, a zero-width space does not. Words such as
`true` or `undefined` and the names of sensitive members are compared without regard to case.

`trim` is `trimEnd ∘ trimStart`; `isBlank_of_isWhitespace` says that the class contains the white
space of the core library.
-/

namespace CommandAgent.Text

/-- The characters with the Unicode property White_Space. -/
def isBlank (c : Char) : Bool :=
  let n := c.toNat
  (9 ≤ n && n ≤ 13) || n == 0x20 || n == 0x85 || n == 0xA0 || n == 0x1680
    || (0x2000 ≤ n && n ≤ 0x200A) || n == 0x2028 || n == 0x2029 || n == 0x202F
    || n == 0x205F || n == 0x3000

theorem isBlank_of_isWhitespace {c : Char} (h : c.isWhitespace = true) : isBlank c = true := by
  simp only [Char.isWhitespace, Bool.or_eq_true, decide_eq_true_eq] at h
  rcases h with ((h | h) | h) | h <;> subst h <;> decide

/-! ### Trimming -/

def dropBlanks (cs : List Char) : List Char := cs.dropWhile isBlank

def dropTrailingBlanks (cs : List Char) : List Char := (dropBlanks cs.reverse).reverse

/-- The text without its leading white space. -/
def trimStart (s : String) : String := String.ofList (dropBlanks s.toList)

/-- The text without its trailing white space. -/
def trimEnd (s : String) : String := String.ofList (dropTrailingBlanks s.toList)

def trim (s : String) : String := String.ofList (dropTrailingBlanks (dropBlanks s.toList))

def trimEndSlashes (s : String) : String :=
  String.ofList ((s.toList.reverse.dropWhile (· == '/')).reverse)

/-! ### Case -/

/-- Lower case as far as a comparison with an ASCII word can see it. Besides the ASCII letters only
the Kelvin sign has an ASCII letter as its lower case, so no other character can take part in a
match and each may stay as it is. -/
def foldCase (c : Char) : Char :=
  if c.toNat == 0x212A then 'k' else c.toLower

/-- `s` in lower case, exact for comparison with ASCII words. -/
def lower (s : String) : String := s.map foldCase

/-- The switch words that turn a feature on. -/
def isTruthy (s : String) : Bool :=
  ["1", "true", "yes", "on"].contains (lower (trim s))

end CommandAgent.Text
