import CommandAgent.Unicode.Direction
import CommandAgent.Unicode.Folding
import CommandAgent.Unicode.Joining
import CommandAgent.Url.Fault
import CommandAgent.Url.Percent
import CommandAgent.Url.Punycode

/-!
# Domain names

A domain name is a row of labels with dots between them. Before it is looked up it is brought into
one form (`mapped?`): its characters are folded and put together, and full stops of other scripts
become dots. Then each label is checked: for marks at its start, for joiners where nothing joins,
and for ASCII that no name may have. A label that starts with `xn--` stands for one beyond ASCII,
which must be in that form already and need the spelling. Where letters run from right to left, no
label of the name may be ambiguous about its direction.
-/

namespace CommandAgent.Url

open Unicode

/-! ### The form for looking up -/

/-- Characters that no domain name may have, in any spelling: controls, separators, format
characters, the parts of descriptions of ideographs, and code points for private use or none. -/
def refused : CodeSet := .ofText "
  80-9F 600-605 61C 6DD 70F 890-891 8E2 1680 200E-200F 2028-202E 2066-2069 2FF0-2FFF 31EF E000-F8FF
  FDD0-FDEF FFF9-FFFF 110BD 110CD 13430-1343F 1FFFE-1FFFF 2FFFE-2FFFF 3FFFE-3FFFF 4FFFE-4FFFF
  5FFFE-5FFFF 6FFFE-6FFFF 7FFFE-7FFFF 8FFFE-8FFFF 9FFFE-9FFFF AFFFE-AFFFF BFFFE-BFFFF CFFFE-CFFFF
  DFFFE-DFFFF EFFFE-10FFFF
"

def dot : Nat := 0x2E

/-- Full stops that separate labels as the dot does. -/
def isFullStop (n : Nat) : Bool := n == 0x3002 || n == 0xFF0E || n == 0xFF61

/-- What a character stands for. One that would bring a dot along with other things is refused. -/
def image? (n : Nat) : Option (List Nat) :=
  if n < 0x80 then some (fold n)
  else if isFullStop n then some [dot]
  else if refused.includes n || (fold n).contains dot then none
  else some (fold n)

/-- The form in which a name is looked up. -/
def mapped? (ns : List Nat) : Option (List Nat) :=
  (ns.mapM image?).map fun images => composed images.flatten

/-! ### Labels -/

/-- ASCII that no domain name may have. -/
def forbiddenInDomain (n : Nat) : Bool :=
  n ≤ 0x20 || n == 0x7F
    || "%#/:<>?@[\\]^|".toList.any fun c => c.toNat == n

/-- The character that keeps its neighbours apart. -/
def nonJoiner : Nat := 0x200C

/-- The character that joins its neighbours. -/
def joiner : Nat := 0x200D

/-- Whether the first character that joining does not pass through has a property. -/
def reaches (p : Nat → Bool) (ns : List Nat) : Bool :=
  (ns.dropWhile isTransparent).head?.any p

/-- Whether a joiner or non-joiner has an effect between what is before it, the nearest first, and
what is after it. Both have one behind a sign that takes a vowel off, and the non-joiner has one
between letters that would join. -/
def joinerWorks (n : Nat) (before after : List Nat) : Bool :=
  before.head?.any (combiningClass · == vowelKiller)
    || (n == nonJoiner && reaches joinsAfter before && reaches joinsBefore after)

/-- Whether all joiners of a label have an effect; what is before comes nearest first. -/
def joinersWork : (before : List Nat) → List Nat → Bool
  | _, [] => true
  | before, n :: after =>
    ((n != nonJoiner && n != joiner) || joinerWorks n before after) &&
      joinersWork (n :: before) after

/-- The longest label beyond ASCII. -/
def maxLabel : Nat := 1000

/-- What a label in ASCII starts with if it stands for one beyond ASCII. -/
def codeMark : List Nat := "xn--".toList.map Char.toNat

def isAscii (label : List Nat) : Bool := label.all (· < 0x80)

/-- Whether a label that is in the form for looking up may stand in a name. -/
def labelAllowed (label : List Nat) : Bool :=
  isAscii label
    || (label.length ≤ maxLabel && !codeMark.isPrefixOf label && !label.head?.any isMark
      && joinersWork [] label)

def maxCode : Nat := 2000

/-- The label that a code stands for. It must go beyond ASCII and be in the form for looking up. -/
def decoded? (code : List Nat) : Option (List Nat) := do
  if code.length > maxCode then none
  else
    let label := (← punycodeDecode? (code.map Char.ofNat)).map Char.toNat
    if isAscii label || mapped? label != some label then none else some label

/-- The label that a label of a mapped name stands for, if it is good. -/
def label? (label : List Nat) : Option (List Nat) := do
  if label.any forbiddenInDomain then none
  else
    let label ←
      if isAscii label && codeMark.isPrefixOf label then decoded? (label.drop codeMark.length)
      else some label
    if labelAllowed label then some label else none

/-! ### Directions -/

/-- Whether letters or digits make a label run from right to left. -/
def runsLeft (n : Nat) : Bool :=
  directionOf n == .rightToLeft || directionOf n == .arabicNumber

/-- Whether a label shows its own direction. One that runs from left to right starts with such a
letter and ends in one or a number; one that runs from right to left does so the other way, and
has numbers of one kind only. Marks at the end do not count. -/
def directionClear (label : List Nat) : Bool :=
  let directions := label.map directionOf
  let last := (directions.reverse.dropWhile (· == .mark)).head?
  match directions.head? with
  | none => true
  | some .leftToRight =>
    !label.any runsLeft && (last == some .leftToRight || last == some .europeanNumber)
  | some .rightToLeft =>
    !directions.contains .leftToRight
      && (last == some .rightToLeft || last == some .europeanNumber || last == some .arabicNumber)
      && !(directions.contains .europeanNumber && directions.contains .arabicNumber)
  | some _ => false

/-! ### Names -/

/-- A domain name in the form in which it is looked up. -/
def domainName? (ns : List Nat) : Option (List Nat) := do
  let name ← mapped? ns
  let labels ← (name.splitOn dot).mapM label?
  if labels.any (·.any runsLeft) && !labels.all directionClear then none
  else some name

/-- The domain name that a text in a URL stands for. -/
def domainName (cs : List Char) : Except Fault (List Char) :=
  let name := do
    let cs ← Text.Utf8.strictFrom .start (decodeBytes cs)
    domainName? (cs.map Char.toNat)
  match name with
  | some ns => .ok (ns.map Char.ofNat)
  | none => .error .invalidDomainName

end CommandAgent.Url
