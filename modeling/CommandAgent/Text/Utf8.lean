/-!
# UTF-8

Files, pipes and terminals hold bytes; everything the agent judges or reports is text. `encode`
turns text into bytes, `decode?` goes back and refuses what is not UTF-8, and `decodeLossy` goes
back always, writing U+FFFD once for each maximal part of a sequence that cannot be completed.

The state of a decoder between two bytes is how many continuation bytes are still wanted and in
which range the next one must lie (`Shape`): the first continuation byte after `E0`, `ED`, `F0` and
`F4` is restricted, which excludes overlong forms, surrogates and values above U+10FFFF.
-/

namespace CommandAgent

/-- A sequence of bytes, as a file or a terminal holds it. -/
abbrev Bytes := List UInt8

namespace Text.Utf8

def encode (s : String) : Bytes := s.toList.flatMap String.utf8EncodeChar

def size (s : String) : Nat := (encode s).length

/-- What a leading byte announces: the number of continuation bytes, the range of the first of
them, and the payload bits of the leading byte itself. -/
structure Shape where
  more : Nat
  low : UInt8
  high : UInt8
  payload : Nat

/-- The shape a leading byte announces, if it can lead a sequence of two bytes or more. -/
def shape? (b : UInt8) : Option Shape :=
  if 0xC2 ≤ b ∧ b ≤ 0xDF then some ⟨1, 0x80, 0xBF, b.toNat - 0xC0⟩
  else if b = 0xE0 then some ⟨2, 0xA0, 0xBF, 0⟩
  else if b = 0xED then some ⟨2, 0x80, 0x9F, 0xD⟩
  else if 0xE1 ≤ b ∧ b ≤ 0xEF then some ⟨2, 0x80, 0xBF, b.toNat - 0xE0⟩
  else if b = 0xF0 then some ⟨3, 0x90, 0xBF, 0⟩
  else if 0xF1 ≤ b ∧ b ≤ 0xF3 then some ⟨3, 0x80, 0xBF, b.toNat - 0xF0⟩
  else if b = 0xF4 then some ⟨3, 0x80, 0x8F, 4⟩
  else none

/-- The state between two bytes: at a character's start, or inside a sequence. -/
inductive State where
  | start
  | inside (more : Nat) (low high : UInt8) (value : Nat)

/-- What one byte does to a state. `emit` finishes a character, `broken` says that the sequence
before the byte was cut short. -/
inductive Step where
  | emit (c : Char)
  | wait (s : State)
  | refuse
  | broken

/-- A byte met at the start of a character. -/
def startStep (b : UInt8) : Step :=
  if b < 0x80 then .emit (Char.ofNat b.toNat)
  else match shape? b with
    | some sh => .wait (.inside sh.more sh.low sh.high sh.payload)
    | none => .refuse

/-- A byte met inside a sequence. -/
def insideStep (more : Nat) (low high : UInt8) (value : Nat) (b : UInt8) : Step :=
  if low ≤ b ∧ b ≤ high then
    let value := value * 64 + (b.toNat - 0x80)
    if more ≤ 1 then .emit (Char.ofNat value) else .wait (.inside (more - 1) 0x80 0xBF value)
  else .broken

def replacement : Char := '\uFFFD'

/-- Decode from a state; what cannot be decoded becomes U+FFFD, once for each sequence that was
begun and not completed and once for each byte that cannot begin one. -/
def lossyFrom : State → Bytes → List Char
  | .start, [] => []
  | .inside .., [] => [replacement]
  | .start, b :: rest =>
    match startStep b with
    | .emit c => c :: lossyFrom .start rest
    | .wait s => lossyFrom s rest
    | .refuse | .broken => replacement :: lossyFrom .start rest
  | .inside more low high value, b :: rest =>
    match insideStep more low high value b with
    | .emit c => c :: lossyFrom .start rest
    | .wait s => lossyFrom s rest
    | .refuse | .broken =>
      replacement ::
        match startStep b with
        | .emit c => c :: lossyFrom .start rest
        | .wait s => lossyFrom s rest
        | .refuse | .broken => replacement :: lossyFrom .start rest

/-- Decode from a state, refusing anything that is not UTF-8. -/
def strictFrom : State → Bytes → Option (List Char)
  | .start, [] => some []
  | .inside .., [] => none
  | .start, b :: rest =>
    match startStep b with
    | .emit c => (strictFrom .start rest).map (c :: ·)
    | .wait s => strictFrom s rest
    | .refuse | .broken => none
  | .inside more low high value, b :: rest =>
    match insideStep more low high value b with
    | .emit c => (strictFrom .start rest).map (c :: ·)
    | .wait s => strictFrom s rest
    | .refuse | .broken => none

/-- Where the first character that is not UTF-8 begins: `begun` is the offset at which the character
that is being read began, `offset` that of the next byte. -/
def firstInvalidFrom : State → (begun offset : Nat) → Bytes → Option Nat
  | .start, _, _, [] => none
  | .inside .., begun, _, [] => some begun
  | .start, _, offset, b :: rest =>
    match startStep b with
    | .emit _ => firstInvalidFrom .start (offset + 1) (offset + 1) rest
    | .wait s => firstInvalidFrom s offset (offset + 1) rest
    | .refuse | .broken => some offset
  | .inside more low high value, begun, offset, b :: rest =>
    match insideStep more low high value b with
    | .emit _ => firstInvalidFrom .start (offset + 1) (offset + 1) rest
    | .wait s => firstInvalidFrom s begun (offset + 1) rest
    | .refuse | .broken => some begun

/-- The offset of the first byte that begins no character, if the bytes are not UTF-8. -/
def firstInvalid? (bs : Bytes) : Option Nat := firstInvalidFrom .start 0 0 bs

/-- The text of the bytes, with U+FFFD for whatever is not text. -/
def decodeLossy (bs : Bytes) : String := String.ofList (lossyFrom .start bs)

/-- The text of the bytes, if they are UTF-8 throughout. -/
def decode? (bs : Bytes) : Option String := (strictFrom .start bs).map String.ofList

/-- Where the two decoders differ: the lossy one agrees with the strict one on all text. -/
theorem lossyFrom_of_strictFrom {st : State} {bs : Bytes} {cs : List Char}
    (h : strictFrom st bs = some cs) : lossyFrom st bs = cs := by
  induction bs generalizing st cs with
  | nil => cases st <;> simp_all [strictFrom, lossyFrom]
  | cons b rest ih =>
    cases st with
    | start =>
      simp only [strictFrom] at h
      simp only [lossyFrom]
      split at h
      · obtain ⟨u, hu, rfl⟩ := Option.map_eq_some_iff.1 h
        simp [ih hu]
      · simp [ih h]
      all_goals simp at h
    | inside more low high value =>
      simp only [strictFrom] at h
      simp only [lossyFrom]
      split at h
      · obtain ⟨u, hu, rfl⟩ := Option.map_eq_some_iff.1 h
        simp [ih hu]
      · simp [ih h]
      all_goals simp at h

end Text.Utf8
end CommandAgent
