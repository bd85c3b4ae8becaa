/-!
# Tables of code points

What a standard says about characters one by one is written down as text. A set of code points is
written as its ranges, `low-high` or a single `low`, in ascending order. A mapping is written in
rows: `start=image,image,…` gives the images of successive code points, each as numbers between
dots; `low-high=first` maps a range onto another, and `low~high=first` does so with every second
code point of a range. All numbers are hexadecimal.
-/

namespace CommandAgent.Unicode

/-- The value of a hexadecimal digit, whose letters are capital. -/
def digitValue (c : Char) : Nat := if c.isDigit then c.toNat - 48 else c.toNat - 55

def hexValue (cs : List Char) : Nat := cs.foldl (fun n c => 16 * n + digitValue c) 0

def wordsOf (text : String) : List (List Char) :=
  (text.toList.splitOnP fun c => c == ' ' || c == '\n').filter (!·.isEmpty)

/-! ### Sets -/

/-- A set of code points, as closed ranges. -/
abbrev CodeSet := List (Nat × Nat)

/-- The set that a text describes. -/
def CodeSet.ofText (text : String) : CodeSet :=
  (wordsOf text).map fun word =>
    match word.splitOn '-' with
    | [low, high] => (hexValue low, hexValue high)
    | _ => (hexValue word, hexValue word)

def CodeSet.includes (s : CodeSet) (n : Nat) : Bool :=
  s.any fun (low, high) => low ≤ n && n ≤ high

/-! ### Mappings -/

inductive Row where
  /-- The images of the code points from `start` on. -/
  | images (start : Nat) (list : List (List Nat))
  /-- The code points from `low` to `high` in steps go to those from `first` on in such steps. -/
  | shift (low high step first : Nat)
deriving Repr

def Row.ofWord (word : List Char) : Row :=
  let key := word.takeWhile (· != '=')
  let value := (word.dropWhile (· != '=')).drop 1
  match key.splitOn '-', key.splitOn '~' with
  | [low, high], _ => shift (hexValue low) (hexValue high) 1 (hexValue value)
  | _, [low, high] => shift (hexValue low) (hexValue high) 2 (hexValue value)
  | _, _ =>
    images (hexValue key) ((value.splitOn ',').map fun image => (image.splitOn '.').map hexValue)

/-- What a row maps a code point to, if it is in the row. -/
def Row.image? (n : Nat) : Row → Option (List Nat)
  | images start list => if start ≤ n then list[n - start]? else none
  | shift low high step first =>
    if low ≤ n && n ≤ high && (n - low) % step = 0 then some [first + (n - low)] else none

/-- A mapping of code points to sequences of code points. -/
abbrev CodeMap := List Row

def CodeMap.ofText (text : String) : CodeMap := (wordsOf text).map Row.ofWord

def CodeMap.image? (m : CodeMap) (n : Nat) : Option (List Nat) := m.findSome? (Row.image? n)

end CommandAgent.Unicode
