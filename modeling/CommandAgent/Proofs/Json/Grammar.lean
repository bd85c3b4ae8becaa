import CommandAgent.Json.Expect

/-!
# The grammar of JSON text

What a JSON text is, said without a reader: the reverse side of the readers, on which blanks,
escapes and the digits of a number may vary freely. A value is a word, a number, a string, or a
frame with entries in it (`Value`). An entry is a value and what leads up to it: blanks in an
array, and in an object the key with its colon (`Lead`). Nothing is said of what a value means,
except of a string: its letters spell bytes (`Spells`), and these are the text that it reads as
(`Quoted`).
-/

namespace CommandAgent.Json.Grammar

open CommandAgent.Json.Stream (Frame)

/-! ### Words and numbers -/

/-- A run of blanks, perhaps none. -/
def Blanks (t : Bytes) : Prop := ∀ b ∈ t, isJsonBlank b = true

def letters (cs : List Char) : Bytes := cs.map code

/-- How a truth value is written. -/
def literal : Bool → Bytes
  | true => letters ['t', 'r', 'u', 'e']
  | false => letters ['f', 'a', 'l', 's', 'e']

/-- A run of digits, at least one. -/
def Digits (t : Bytes) : Prop := t ≠ [] ∧ ∀ b ∈ t, isDigit b = true

/-- The digits before the point: a zero has none behind it. -/
inductive Whole : Bytes → Prop
  | zero : Whole [48]
  | other {b : UInt8} {t : Bytes} : isDigit b = true → b ≠ 48 → (∀ d ∈ t, isDigit d = true) →
      Whole (b :: t)

/-- The point and the digits behind it. -/
inductive Fraction : Bytes → Prop
  | none : Fraction []
  | some {t : Bytes} : Digits t → Fraction (code '.' :: t)

/-- The exponent, with or without a sign. -/
inductive Exponent : Bytes → Prop
  | none : Exponent []
  | some {e : UInt8} {sign t : Bytes} : e = code 'e' ∨ e = code 'E' →
      sign ∈ [[], [code '+'], [code '-']] → Digits t → Exponent (e :: (sign ++ t))

/-- A number without a sign. -/
def Unsigned (t : Bytes) : Prop :=
  ∃ whole fraction exponent, t = whole ++ (fraction ++ exponent) ∧
    Whole whole ∧ Fraction fraction ∧ Exponent exponent

/-! ### Strings -/

/-- What may stand between quotation marks. -/
inductive Inside : Bytes → Prop
  | nil : Inside []
  | plain {b : UInt8} {t : Bytes} : b ≠ code '"' → b ≠ code '\\' → ¬ b < 32 → Inside t →
      Inside (b :: t)
  | escape {e : UInt8} {t : Bytes} : (escaped? e).isSome → Inside t →
      Inside (code '\\' :: e :: t)
  | unicode {a b c d : UInt8} {t : Bytes} : (hex4? a b c d).isSome → Inside t →
      Inside (code '\\' :: code 'u' :: a :: b :: c :: d :: t)

/-- The code point of a surrogate pair. -/
def paired (n m : Nat) : Nat := (n - 0xD800) * 0x400 + (m - 0xDC00) + 0x10000

/-- What stands between quotation marks, and the bytes that it stands for. Surrogates come in pairs,
the leading one first. -/
inductive Spells : Bytes → Bytes → Prop
  | nil : Spells [] []
  | plain {b : UInt8} {t bytes : Bytes} : b ≠ code '"' → b ≠ code '\\' → ¬ b < 32 →
      Spells t bytes → Spells (b :: t) (b :: bytes)
  | escape {e x : UInt8} {t bytes : Bytes} : escaped? e = some x → Spells t bytes →
      Spells (code '\\' :: e :: t) (x :: bytes)
  | unicode {a b c d : UInt8} {n : Nat} {t bytes : Bytes} : hex4? a b c d = some n →
      ¬ (0xD800 ≤ n ∧ n ≤ 0xDFFF) → Spells t bytes →
      Spells (code '\\' :: code 'u' :: a :: b :: c :: d :: t)
        (String.utf8EncodeChar (Char.ofNat n) ++ bytes)
  | pair {a b c d a' b' c' d' : UInt8} {n m : Nat} {t bytes : Bytes} :
      hex4? a b c d = some n → 0xD800 ≤ n ∧ n ≤ 0xDBFF →
      hex4? a' b' c' d' = some m → 0xDC00 ≤ m ∧ m ≤ 0xDFFF → Spells t bytes →
      Spells
        (code '\\' :: code 'u' :: a :: b :: c :: d ::
          code '\\' :: code 'u' :: a' :: b' :: c' :: d' :: t)
        (String.utf8EncodeChar (Char.ofNat (paired n m)) ++ bytes)

/-- What stands between quotation marks reads as a text. -/
def Reads (inside : Bytes) (s : String) : Prop :=
  ∃ bytes, Spells inside bytes ∧ Text.Utf8.decode? bytes = some s

/-- A string that reads as a text. -/
def Quoted (t : Bytes) (s : String) : Prop :=
  ∃ inside, t = code '"' :: (inside ++ [code '"']) ∧ Reads inside s

/-! ### Frames and values -/

def opening : Frame → UInt8
  | .array => code '['
  | .object => code '\x7b'

def closing : Frame → UInt8
  | .array => code ']'
  | .object => code '\x7d'

/-- What follows an entry up to the closing of the frame: the other entries, a comma before each. An
entry is what leads up to a value, and the value. -/
inductive Rest : List (Bytes × Bytes) → Bytes → Prop
  | nil {a : Bytes} : Blanks a → Rest [] a
  | cons {a lead v t : Bytes} {es : List (Bytes × Bytes)} : Blanks a → Rest es t →
      Rest ((lead, v) :: es) (a ++ code ',' :: (lead ++ (v ++ t)))

/-- What stands in a frame that has these entries. -/
inductive Filling : List (Bytes × Bytes) → Bytes → Prop
  | nil {a : Bytes} : Blanks a → Filling [] a
  | cons {lead v t : Bytes} {es : List (Bytes × Bytes)} : Rest es t →
      Filling ((lead, v) :: es) (lead ++ (v ++ t))

/-- A key with its colon, and blanks around both; `P` holds of what stands between the quotation
marks. -/
def Key (P : Bytes → Prop) (lead : Bytes) : Prop :=
  ∃ a inside b c, lead = a ++ code '"' :: (inside ++ code '"' :: (b ++ code ':' :: c)) ∧
    Blanks a ∧ P inside ∧ Blanks b ∧ Blanks c

/-- What leads up to a value in a frame. -/
def Lead : Frame → Bytes → Prop
  | .array => Blanks
  | .object => Key Inside

inductive Value : Bytes → Prop
  | null : Value (letters ['n', 'u', 'l', 'l'])
  | literal (b : Bool) : Value (literal b)
  | unsigned {t : Bytes} : Unsigned t → Value t
  | negative {t : Bytes} : Unsigned t → Value (code '-' :: t)
  | string {t : Bytes} : Inside t → Value (code '"' :: (t ++ [code '"']))
  | frame {f : Frame} {es : List (Bytes × Bytes)} {t : Bytes} : Filling es t →
      (∀ e ∈ es, Lead f e.1) → (∀ e ∈ es, Value e.2) → Value (opening f :: (t ++ [closing f]))

end CommandAgent.Json.Grammar
