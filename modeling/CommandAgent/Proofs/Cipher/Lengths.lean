import CommandAgent.Plan.Load
import CommandAgent.Proofs.Cipher.Chaining

/-!
# Opening by lengths

A cipher that takes keys and blocks as bytes has to refuse those of the wrong length.
`openByLengths` opens a payload in this way, one step after another: the key is cut off the token,
the payload is cut to whole blocks, the first is split off, a decryptor is made of key and first
block, and the rest is decrypted. A wrong length in one of the last two steps is a failure of the
agent itself.

There is no such failure. What the earlier steps cut off has the lengths that the later steps ask
for, so opening by lengths is opening by blocks (`openByLengths_eq`).
-/

namespace CommandAgent.Cipher

/-! ### Steps -/

def keyOfToken (token : String) : Except Failure Bytes :=
  let raw := Text.Utf8.encode token
  if raw.length < keySize then
    .error <|
      (Failure.config <| "Token is too short to derive the command-set key " ++
        s!"({raw.length} bytes < {keySize} bytes)").withHint
        "Encrypted command sets require a token of at least 32 bytes."
  else .ok (raw.take keySize)

/-- Round keys and the block that the first sealed block is added to. -/
structure Decryptor where
  keys : Schedule
  initial : Block

namespace Decryptor

/-- The decryptor of a key and an initial block, if both have their lengths. -/
def ofBytes (key initial : Bytes) : Except Failure Decryptor :=
  if key.length = keySize ∧ initial.length = blockSize then
    match Block.ofBytes key, Block.ofBytes initial with
    | [x, y], [z] => .ok ⟨schedule x y, z⟩
    | _, _ => .error (.internal "Invalid AES key or IV length")
  else .error (.internal "Invalid AES key or IV length")

def decrypt (d : Decryptor) (body : Bytes) : Except Failure Bytes :=
  if body.length % blockSize = 0 then
    .ok (joinBlocks (unchain d.keys d.initial (Block.ofBytes body)))
  else .error (.internal "Failed to decrypt command set")

end Decryptor

def openWith (key payload : Bytes) : Except Failure Bytes :=
  let usable := payload.length - payload.length % blockSize
  if usable < blockSize then
    .error (.config s!"Encrypted command set is too short ({payload.length} bytes)")
  else do
    let decryptor ← Decryptor.ofBytes key ((payload.take usable).take blockSize)
    let plain ← decryptor.decrypt ((payload.take usable).drop blockSize)
    return stripPadding plain

def openByLengths (token : String) (payload : Bytes) : Except Failure Bytes := do
  let key ← keyOfToken token
  openWith key payload

/-! ### Lengths -/

/-- Bytes are whole blocks, with less than a block behind them. -/
theorem exists_joinBlocks_append (bytes : Bytes) :
    ∃ xs junk, bytes = joinBlocks xs ++ junk ∧ junk.length < blockSize := by
  have hlt : bytes.length % blockSize < blockSize := Nat.mod_lt _ (by decide)
  have hle : bytes.length % blockSize ≤ bytes.length := Nat.mod_le _ _
  have hwhole : (bytes.take (bytes.length - bytes.length % blockSize)).length % blockSize = 0 := by
    rw [List.length_take, Nat.min_eq_left (Nat.sub_le _ _)]
    exact Nat.sub_mod_eq_zero_of_mod_eq (Nat.mod_mod _ _).symm
  obtain ⟨xs, hxs⟩ := exists_joinBlocks_eq hwhole
  refine ⟨xs, bytes.drop (bytes.length - bytes.length % blockSize), ?_, ?_⟩
  · rw [hxs, List.take_append_drop]
  · rw [List.length_drop]
    omega

theorem usable_eq {xs : List Block} {junk : Bytes} (h : junk.length < blockSize) :
    (joinBlocks xs ++ junk).length - (joinBlocks xs ++ junk).length % blockSize =
      blockSize * xs.length := by
  rw [List.length_append, length_joinBlocks, Nat.mul_add_mod, Nat.mod_eq_of_lt h,
    Nat.add_sub_cancel]

theorem take_joinBlocks (xs : List Block) (junk : Bytes) :
    (joinBlocks xs ++ junk).take (blockSize * xs.length) = joinBlocks xs := by
  rw [← length_joinBlocks, List.take_left]

/-- The bytes of a key are two blocks. -/
theorem exists_key_blocks {key : Bytes} (h : key.length = keySize) :
    ∃ x y, Block.ofBytes key = [x, y] := by
  have hwhole : key.length % blockSize = 0 := by
    rw [h]
    rfl
  obtain ⟨blocks, rfl⟩ := exists_joinBlocks_eq hwhole
  rw [length_joinBlocks] at h
  have htwo : blocks.length = 2 := by
    simp only [blockSize, keySize] at h
    omega
  obtain ⟨x, y, rfl⟩ := List.length_eq_two.mp htwo
  exact ⟨x, y, ofBytes_joinBlocks _⟩

/-! ### No step fails by a length -/

theorem Decryptor.ofBytes_eq_ok {key : Bytes} {x y : Block} (hlength : key.length = keySize)
    (hkey : Block.ofBytes key = [x, y]) (z : Block) :
    ofBytes key z.toBytes = .ok ⟨schedule x y, z⟩ := by
  have hinitial : Block.ofBytes z.toBytes = [z] := by
    have hjoin := ofBytes_joinBlocks [z]
    rwa [joinBlocks_cons, joinBlocks_nil, List.append_nil] at hjoin
  rw [ofBytes, if_pos ⟨hlength, Block.length_toBytes z⟩, hkey, hinitial]

theorem Decryptor.decrypt_joinBlocks (d : Decryptor) (body : List Block) :
    d.decrypt (joinBlocks body) = .ok (joinBlocks (unchain d.keys d.initial body)) := by
  rw [decrypt, length_joinBlocks, if_pos (Nat.mul_mod_right _ _), ofBytes_joinBlocks]

/-- With a key of the right length, a payload is opened as its blocks are. -/
theorem openWith_eq {key : Bytes} {x y : Block} (hlength : key.length = keySize)
    (hkey : Block.ofBytes key = [x, y]) (payload : Bytes) :
    openWith key payload = openPayload (schedule x y) payload := by
  obtain ⟨blocks, junk, rfl, hjunk⟩ := exists_joinBlocks_append payload
  have hblocks := ofBytes_joinBlocks_append blocks junk hjunk
  unfold openWith openPayload openBytes?
  dsimp only
  rw [usable_eq hjunk, take_joinBlocks, hblocks]
  cases blocks with
  | nil => rfl
  | cons z body =>
    have hlong : ¬ blockSize * (z :: body).length < blockSize := by
      rw [List.length_cons, Nat.mul_succ]
      omega
    have hfirst : (joinBlocks (z :: body)).take blockSize = z.toBytes := by
      rw [joinBlocks_cons, ← Block.length_toBytes z, List.take_left]
    have hrest : (joinBlocks (z :: body)).drop blockSize = joinBlocks body := by
      rw [joinBlocks_cons, ← Block.length_toBytes z, List.drop_left]
    rw [if_neg hlong, hfirst, hrest, Decryptor.ofBytes_eq_ok hlength hkey]
    simp only [bind, Except.bind, Decryptor.decrypt_joinBlocks]
    rfl

/-- A token is too short for a key, or its key makes the schedule. -/
theorem keyOfToken_cases (token : String) :
    (∃ message hint, keyOfToken token = .error ((Failure.config message).withHint hint) ∧
      scheduleOfToken token = .error ((Failure.config message).withHint hint)) ∨
    ∃ key x y, keyOfToken token = .ok key ∧ key.length = keySize ∧
      Block.ofBytes key = [x, y] ∧ scheduleOfToken token = .ok (schedule x y) := by
  unfold keyOfToken scheduleOfToken scheduleOfToken?
  dsimp only
  by_cases hshort : (Text.Utf8.encode token).length < keySize
  · left
    rw [if_pos hshort]
    refine ⟨_, _, rfl, ?_⟩
    split
    · next s hs =>
      -- two blocks are no shorter than a key
      split at hs
      · next x y htwo =>
        obtain ⟨blocks, junk, heq, hjunk⟩ :=
          exists_joinBlocks_append ((Text.Utf8.encode token).take keySize)
        rw [heq, ofBytes_joinBlocks_append blocks junk hjunk] at htwo
        have hlength := congrArg List.length heq
        rw [htwo, List.length_append, length_joinBlocks, List.length_take] at hlength
        simp only [blockSize, keySize, List.length_cons, List.length_nil] at hlength hshort
        omega
      · cases hs
    · rfl
  · right
    rw [if_neg hshort]
    have hlength : ((Text.Utf8.encode token).take keySize).length = keySize := by
      rw [List.length_take]
      omega
    obtain ⟨x, y, hkey⟩ := exists_key_blocks hlength
    refine ⟨_, x, y, rfl, hlength, hkey, ?_⟩
    rw [hkey]

/-- Opening by lengths is opening by blocks. -/
theorem openByLengths_eq (token : String) (payload : Bytes) :
    openByLengths token payload = scheduleOfToken token >>= fun s => openPayload s payload := by
  unfold openByLengths
  rcases keyOfToken_cases token with ⟨message, hint, htoken, hschedule⟩ |
    ⟨key, x, y, htoken, hlength, hkey, hschedule⟩
  · rw [htoken, hschedule]
    rfl
  · rw [htoken, hschedule]
    show openWith key payload = openPayload (schedule x y) payload
    exact openWith_eq hlength hkey payload

end CommandAgent.Cipher
