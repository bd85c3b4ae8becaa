import CommandAgent.Proofs.Cipher.Lengths

/-!
# Opening whatever there is

Opening is total: any payload with an initial block is opened, with the right key, a wrong one, or
no seal at all (`opening_of_any_payload`). Its whole blocks alone count, the plaintext of a chain
is said block by block (`plainOf`), and of that the bytes that are well-formed padding are taken
away, if there are any (`stripPadding_of_ends`, `stripPadding_of_not_ends`).

`openWithin?` opens like `openWith` and looks at each difference before it is taken and at each
position before it is used. It never finds one amiss (`openWithin?_eq`).
-/

namespace CommandAgent.Cipher

/-! ### Differences and positions -/

/-- What is left of `a` without `b`, if there is that much. -/
def minus? (a b : Nat) : Option Nat := if b ≤ a then some (a - b) else none

/-- The bytes before a position and those behind it, if it lies within them. -/
def cut? (position : Nat) (bytes : Bytes) : Option (Bytes × Bytes) :=
  if position ≤ bytes.length then some (bytes.take position, bytes.drop position) else none

/-- Take padding away; none if a difference or a position is out of range. -/
def stripWithin? (plain : Bytes) : Option Bytes :=
  match plain.getLast? with
  | none => some plain
  | some last =>
    let n := last.toNat
    if n = 0 ∨ n > blockSize ∨ n > plain.length then some plain
    else do
      let start ← minus? plain.length n
      let (body, tail) ← cut? start plain
      return if tail.all (· == last) then body else plain

/-- Open a payload with a key; none if a difference or a position is out of range. -/
def openWithin? (key payload : Bytes) : Option (Except Failure Bytes) := do
  let usable ← minus? payload.length (payload.length % blockSize)
  if usable < blockSize then
    return .error (.config s!"Encrypted command set is too short ({payload.length} bytes)")
  else
    let (whole, _) ← cut? usable payload
    let (initial, body) ← cut? blockSize whole
    match Decryptor.ofBytes key initial >>= fun decryptor => decryptor.decrypt body with
    | .error f => return .error f
    | .ok plain =>
      let stripped ← stripWithin? plain
      return .ok stripped

theorem minus?_eq {a b : Nat} (h : b ≤ a) : minus? a b = some (a - b) := if_pos h

theorem cut?_eq {position : Nat} {bytes : Bytes} (h : position ≤ bytes.length) :
    cut? position bytes = some (bytes.take position, bytes.drop position) := if_pos h

/-- No difference or position is out of range, so taking padding away within bounds always has a
result. -/
theorem stripWithin?_eq (plain : Bytes) : stripWithin? plain = some (stripPadding plain) := by
  unfold stripWithin? stripPadding
  cases plain.getLast? with
  | none => rfl
  | some last =>
    simp only
    by_cases hsize : last.toNat = 0 ∨ last.toNat > blockSize ∨ last.toNat > plain.length
    · rw [if_pos hsize, if_pos hsize]
    · have hfits : last.toNat ≤ plain.length := by omega
      rw [if_neg hsize, if_neg hsize, minus?_eq hfits]
      simp only [Option.bind_eq_bind, Option.bind_some, cut?_eq (Nat.sub_le _ _)]
      rfl

/-- Whatever the key and the payload, no difference and no position is out of range. -/
theorem openWithin?_eq (key payload : Bytes) :
    openWithin? key payload = some (openWith key payload) := by
  unfold openWithin? openWith
  simp only [Option.bind_eq_bind, minus?_eq (Nat.mod_le payload.length blockSize),
    Option.bind_some]
  by_cases hshort : payload.length - payload.length % blockSize < blockSize
  · rw [if_pos hshort, if_pos hshort]
    rfl
  · have hwhole : (payload.take (payload.length - payload.length % blockSize)).length =
        payload.length - payload.length % blockSize := by
      rw [List.length_take]
      omega
    rw [if_neg hshort, if_neg hshort]
    simp only [cut?_eq (Nat.sub_le payload.length (payload.length % blockSize)), Option.bind_some]
    rw [cut?_eq (by omega)]
    simp only [Option.bind_some, bind, Except.bind]
    cases Decryptor.ofBytes key _ with
    | error f => rfl
    | ok decryptor =>
      simp only
      cases decryptor.decrypt _ with
      | error f => rfl
      | ok plain =>
        simp only [stripWithin?_eq]
        rfl

/-! ### Padding -/

/-- The bytes end in padding: the last byte is `n`, from 1 to the size of a block, and so are the
last `n` bytes. -/
structure EndsInPadding (raw : Bytes) (n : Nat) : Prop where
  last : raw.getLast? = some (UInt8.ofNat n)
  pos : 1 ≤ n
  le : n ≤ blockSize
  all : ∀ b ∈ raw.drop (raw.length - n), b = UInt8.ofNat n

/-- What is left without padding: the bytes before it if there is any, else all. -/
def Unpadded (raw plain : Bytes) : Prop :=
  (∀ n, EndsInPadding raw n → plain = raw.take (raw.length - n)) ∧
    ((∀ n, ¬ EndsInPadding raw n) → plain = raw)

section
variable {raw : Bytes} {n : Nat}

/-- Padding is taken away as far as it goes. -/
theorem stripPadding_of_ends (h : EndsInPadding raw n) (hfits : n ≤ raw.length) :
    stripPadding raw = raw.take (raw.length - n) := by
  have htail : raw.drop (raw.length - n) = List.replicate n (UInt8.ofNat n) := by
    rw [List.eq_replicate_iff]
    refine ⟨?_, h.all⟩
    rw [List.length_drop]
    omega
  have hcut : raw = raw.take (raw.length - n) ++ List.replicate n (UInt8.ofNat n) := by
    rw [← htail, List.take_append_drop]
  conv_lhs => rw [hcut]
  exact stripPadding_append_replicate _ h.pos h.le

/-- Without padding nothing is taken away. -/
theorem stripPadding_of_not_ends (h : ∀ n, ¬ EndsInPadding raw n) : stripPadding raw = raw := by
  unfold stripPadding
  cases hlast : raw.getLast? with
  | none => rfl
  | some last =>
    simp only
    split
    · rfl
    · next hsize =>
      split
      · next hall =>
        refine absurd ⟨?_, by omega, by omega, ?_⟩ (h last.toNat)
        · rw [hlast, UInt8.ofNat_toNat]
        · intro b hb
          rw [UInt8.ofNat_toNat]
          exact eq_of_beq (List.all_eq_true.mp hall b hb)
      · rfl

end

/-! ### Whole blocks -/

/-- The whole blocks of a payload, as bytes. -/
def wholeBlocks (payload : Bytes) : Bytes :=
  payload.take (payload.length - payload.length % blockSize)

/-- The plaintext of a chain of sealed blocks: every block but the first, decrypted and added to the
sealed block before it. -/
def plainOf (s : Schedule) (blocks : List Block) : Bytes :=
  joinBlocks (List.zipWith (fun before y => (decryptBlock s y).add before) blocks blocks.tail)

theorem joinBlocks_ofBytes_payload (payload : Bytes) :
    joinBlocks (Block.ofBytes payload) = wholeBlocks payload := by
  obtain ⟨blocks, junk, rfl, hjunk⟩ := exists_joinBlocks_append payload
  rw [wholeBlocks, usable_eq hjunk, take_joinBlocks, ofBytes_joinBlocks_append blocks junk hjunk]

/-- A payload has the blocks of its whole blocks. -/
theorem ofBytes_wholeBlocks (payload : Bytes) :
    Block.ofBytes (wholeBlocks payload) = Block.ofBytes payload := by
  rw [← joinBlocks_ofBytes_payload, ofBytes_joinBlocks]

theorem unchain_eq_zipWith (s : Schedule) (initial : Block) (body : List Block) :
    unchain s initial body =
      List.zipWith (fun before y => (decryptBlock s y).add before) (initial :: body) body := by
  induction body generalizing initial with
  | nil => rfl
  | cons y ys ih =>
    rw [unchain, ih, List.zipWith_cons_cons]

/-- Opened block by block, a payload gives the plaintext of its chain. -/
theorem unsealed_eq_plainOf (s : Schedule) (payload : Bytes) :
    unsealed s payload = plainOf s (Block.ofBytes payload) := by
  unfold unsealed
  cases Block.ofBytes payload with
  | nil => rfl
  | cons initial body =>
    simp only [unchain_eq_zipWith]
    rfl

/-- Bytes have no whole block exactly if they are shorter than one. -/
theorem ofBytes_eq_nil_iff {payload : Bytes} :
    Block.ofBytes payload = [] ↔ payload.length < blockSize := by
  constructor
  · intro h
    by_contra hlong
    obtain ⟨x, rest, rfl⟩ := Block.exists_eq_toBytes_append payload (by omega)
    cases h
  · exact Block.ofBytes_of_short

/-! ### Opening -/

/-- The failure of a payload without an initial block. -/
def tooShort (length : Nat) : Failure :=
  .config s!"Encrypted command set is too short ({length} bytes)"

theorem openPayload_of_short (s : Schedule) {payload : Bytes} (h : payload.length < blockSize) :
    openPayload s payload = .error (tooShort payload.length) := by
  rw [openPayload, openBytes?, ofBytes_eq_nil_iff.mpr h]
  rfl

theorem openPayload_of_long (s : Schedule) {payload : Bytes} (h : blockSize ≤ payload.length) :
    openPayload s payload = .ok (stripPadding (plainOf s (Block.ofBytes payload))) := by
  rw [openPayload, openBytes?_eq_some s h, unsealed_eq_plainOf]

/-- What is opened depends on the whole blocks alone. -/
theorem openPayload_eq_ok_congr (s : Schedule) {payload other plain : Bytes}
    (h : wholeBlocks other = wholeBlocks payload) (hother : openPayload s other = .ok plain) :
    openPayload s payload = .ok plain := by
  have hblocks : Block.ofBytes other = Block.ofBytes payload := by
    rw [← ofBytes_wholeBlocks other, h, ofBytes_wholeBlocks]
  by_cases hshort : other.length < blockSize
  · rw [openPayload_of_short s hshort] at hother
    cases hother
  · have hlong : ¬ payload.length < blockSize := by
      rwa [← ofBytes_eq_nil_iff, ← hblocks, ofBytes_eq_nil_iff]
    rw [openPayload_of_long s (Nat.not_lt.mp hshort), hblocks] at hother
    rw [openPayload_of_long s (Nat.not_lt.mp hlong), hother]

/-- Padding fits into whole blocks. -/
theorem EndsInPadding.le_length {s : Schedule} {blocks : List Block} {n : Nat}
    (h : EndsInPadding (plainOf s blocks) n) : n ≤ (plainOf s blocks).length := by
  have hle := h.le
  have hlast := h.last
  unfold plainOf at hlast ⊢
  generalize List.zipWith (fun before y => (decryptBlock s y).add before) blocks blocks.tail = xs
    at hlast ⊢
  cases xs with
  | nil => simp at hlast
  | cons x xs =>
    rw [length_joinBlocks, List.length_cons, Nat.mul_succ]
    omega

theorem unpadded_stripPadding (s : Schedule) (blocks : List Block) :
    Unpadded (plainOf s blocks) (stripPadding (plainOf s blocks)) := by
  refine ⟨?_, stripPadding_of_not_ends⟩
  intro n hn
  exact stripPadding_of_ends hn hn.le_length

/-- Opening any payload with any key, of the two blocks `x` and `y`. It fails exactly if the payload
is shorter than a block, and says so. Otherwise it gives the plaintext of the chain of whole blocks,
less its last `n` bytes exactly if they are padding. Payloads with the same whole blocks are opened
to the same bytes. No difference and no position on the way is out of range. -/
theorem opening_of_any_payload (x y : Block) (payload : Bytes) :
    ((∃ f, openPayload (schedule x y) payload = .error f) ↔ payload.length < blockSize) ∧
    (payload.length < blockSize →
      openPayload (schedule x y) payload = .error (tooShort payload.length)) ∧
    (blockSize ≤ payload.length →
      ∃ blocks plain, joinBlocks blocks = wholeBlocks payload ∧
        openPayload (schedule x y) payload = .ok plain ∧
        Unpadded (plainOf (schedule x y) blocks) plain) ∧
    (∀ other, wholeBlocks other = wholeBlocks payload → ∀ plain,
      openPayload (schedule x y) other = .ok plain ↔
        openPayload (schedule x y) payload = .ok plain) ∧
    openWithin? (x.toBytes ++ y.toBytes) payload = some (openPayload (schedule x y) payload) := by
  refine ⟨?_, openPayload_of_short _, ?_, ?_, ?_⟩
  · constructor
    · rintro ⟨f, hf⟩
      by_contra hlong
      rw [openPayload_of_long _ (Nat.not_lt.mp hlong)] at hf
      cases hf
    · intro hshort
      exact ⟨_, openPayload_of_short _ hshort⟩
  · intro hlong
    exact ⟨Block.ofBytes payload, _, joinBlocks_ofBytes_payload payload,
      openPayload_of_long _ hlong, unpadded_stripPadding _ _⟩
  · intro other hother plain
    exact ⟨openPayload_eq_ok_congr _ hother, openPayload_eq_ok_congr _ hother.symm⟩
  · rw [openWithin?_eq, openWith_eq rfl rfl]

/-- A block of a key, or of a payload. -/
def counted (n : UInt8) : Block := ⟨⟨n, 1, 2, 3⟩, ⟨4, 5, 6, 7⟩, ⟨8, 9, 10, 11⟩, ⟨12, 13, 14, 15⟩⟩

/-- Two sealed blocks with different bytes behind them are opened to the same bytes, and three bytes
alone are not opened. -/
theorem opening_of_any_payload_behind :
    (∃ plain, openPayload (schedule (counted 0) (counted 1))
        ((counted 2).toBytes ++ (counted 3).toBytes ++ [9, 9, 9]) = .ok plain ∧
      openPayload (schedule (counted 0) (counted 1))
        ((counted 2).toBytes ++ (counted 3).toBytes ++ [7]) = .ok plain) ∧
      openPayload (schedule (counted 0) (counted 1)) [9, 9, 9] = .error (tooShort 3) := by
  obtain ⟨-, -, hlong, hsame, -⟩ := opening_of_any_payload (counted 0) (counted 1)
    ((counted 2).toBytes ++ (counted 3).toBytes ++ [9, 9, 9])
  obtain ⟨blocks, plain, -, hplain, -⟩ := hlong (by decide)
  refine ⟨⟨plain, hplain, (hsame _ rfl plain).mpr hplain⟩, ?_⟩
  exact (opening_of_any_payload (counted 0) (counted 1) [9, 9, 9]).2.1 (by decide)

end CommandAgent.Cipher
