import CommandAgent.Text.Preview

/-!
# Waiting for the prompt

The interpreter's output comes in portions, cut anywhere, and a command's output ends where the
prompt begins. `scan` takes portions one by one until the prompt stands in what has come so far.
After each portion only the tail of the old bytes in which a prompt could have begun is looked at
again.
-/

namespace CommandAgent.Interactive

/-- What came of waiting for the prompt. -/
inductive Scan where
  /-- The prompt came: what stood before it, how many bytes came after it in the same portion, and
  how many portions were taken. -/
  | found (before : Bytes) (trailing taken : Nat)
  /-- The output ended, with all that had come. -/
  | ended (whole : Bytes)
deriving DecidableEq, Repr

namespace Scan

/-- The bytes to return: those before the prompt, or all. -/
def bytes : Scan → Bytes
  | found before .. => before
  | ended whole => whole

end Scan

/-- Where the search goes on after `seen` has been searched in vain: a prompt that ends later begins
at the earliest here. -/
def searchFrom (prompt seen : Bytes) : Nat := seen.length - (prompt.length - 1)

/-- Take portions until the prompt stands in what has come; `seen` came before, in
`taken` portions. -/
def scanFrom (prompt : Bytes) : (seen : Bytes) → (taken : Nat) → List Bytes → Scan
  | seen, _, [] => .ended seen
  | seen, taken, portion :: rest =>
    let start := searchFrom prompt seen
    let all := seen ++ portion
    match Text.find? prompt (all.drop start) with
    | some position =>
      let stop := start + position
      .found (all.take stop) (all.length - stop - prompt.length) (taken + 1)
    | none => scanFrom prompt all (taken + 1) rest

/-- Take portions until the prompt stands in what has come. -/
def scan (prompt : Bytes) (portions : List Bytes) : Scan := scanFrom prompt [] 0 portions

end CommandAgent.Interactive
