import CommandAgent.Cipher.Chaining
import CommandAgent.Proofs.Cipher.Block

/-!
# Sealing and opening are inverse

Chaining is undone block by block, because a block is added to the same neighbour on the way in and
on the way out (`unchain_chain`, `chain_unchain`). What remains is about lengths. The padding brings
every plaintext to whole blocks and comes off exactly, also behind a plaintext that looks padded
itself (`stripPadding_append_replicate`), and whole blocks can be padded in one way only
(`padding_of_length`).

`unsealed` is the plaintext with its padding. Where it is `WellPadded`, sealing what has been opened
gives the payload again.
-/

namespace CommandAgent.Cipher

/-! ### Chaining -/

@[simp] theorem unchain_chain (s : Schedule) (before : Block) (xs : List Block) :
    unchain s before (chain s before xs) = xs := by
  induction xs generalizing before with
  | nil => rfl
  | cons x xs ih => simp [chain, unchain, ih]

@[simp] theorem chain_unchain (s : Schedule) (before : Block) (ys : List Block) :
    chain s before (unchain s before ys) = ys := by
  induction ys generalizing before with
  | nil => rfl
  | cons y ys ih => simp [chain, unchain, ih]

/-! ### Blocks and bytes -/

namespace Block

@[simp] theorem length_toBytes (x : Block) : x.toBytes.length = blockSize := rfl

@[simp] theorem ofBytes_toBytes_append (x : Block) (rest : Bytes) :
    ofBytes (x.toBytes ++ rest) = x :: ofBytes rest := rfl

theorem toBytes_injective : Function.Injective toBytes := by
  intro x y h
  have hblocks : x :: ofBytes [] = y :: ofBytes [] := by
    rw [← ofBytes_toBytes_append, ← ofBytes_toBytes_append, h]
  exact (List.cons.inj hblocks).1

theorem exists_cons_of_le_length {bytes : Bytes} {n : Nat} (h : n + 1 ≤ bytes.length) :
    ∃ b rest, bytes = b :: rest ∧ n ≤ rest.length := by
  cases bytes with
  | nil => simp at h
  | cons b rest => exact ⟨b, rest, rfl, by simpa using h⟩

/-- A block can be cut off wherever there are enough bytes for one. -/
theorem exists_eq_toBytes_append (bytes : Bytes) (h : blockSize ≤ bytes.length) :
    ∃ (x : Block) (rest : Bytes), bytes = x.toBytes ++ rest := by
  rw [blockSize] at h
  iterate 16
    obtain ⟨_, _, rfl, hrest⟩ := exists_cons_of_le_length h
    clear h
    rename' hrest => h
  exact ⟨⟨⟨_, _, _, _⟩, ⟨_, _, _, _⟩, ⟨_, _, _, _⟩, ⟨_, _, _, _⟩⟩, _, rfl⟩

/-- Fewer bytes than a block make none. -/
theorem ofBytes_of_short {junk : Bytes} (h : junk.length < blockSize) : ofBytes junk = [] := by
  fun_cases ofBytes junk with
  | case1 => simp only [List.length_cons, blockSize] at h; omega
  | case2 => rfl

end Block

@[simp] theorem joinBlocks_nil : joinBlocks [] = [] := rfl

@[simp] theorem joinBlocks_cons (x : Block) (xs : List Block) :
    joinBlocks (x :: xs) = x.toBytes ++ joinBlocks xs := rfl

@[simp] theorem length_joinBlocks (xs : List Block) :
    (joinBlocks xs).length = blockSize * xs.length := by
  induction xs with
  | nil => rfl
  | cons x xs ih =>
    rw [joinBlocks_cons, List.length_append, ih, Block.length_toBytes, List.length_cons,
      Nat.mul_succ, Nat.add_comm]

/-- What follows the last whole block is dropped. -/
theorem ofBytes_joinBlocks_append (xs : List Block) (junk : Bytes) (h : junk.length < blockSize) :
    Block.ofBytes (joinBlocks xs ++ junk) = xs := by
  induction xs with
  | nil => exact Block.ofBytes_of_short h
  | cons x xs ih => simp [ih]

@[simp] theorem ofBytes_joinBlocks (xs : List Block) : Block.ofBytes (joinBlocks xs) = xs := by
  simpa using ofBytes_joinBlocks_append xs [] (by decide)

/-- Whole blocks hold all of their bytes. -/
theorem exists_joinBlocks_eq {bytes : Bytes} (h : bytes.length % blockSize = 0) :
    ∃ xs, joinBlocks xs = bytes := by
  obtain ⟨count, hcount⟩ := Nat.dvd_of_mod_eq_zero h
  induction count generalizing bytes with
  | zero => exact ⟨[], (List.eq_nil_of_length_eq_zero (by simpa using hcount)).symm⟩
  | succ count ih =>
    obtain ⟨x, rest, rfl⟩ := Block.exists_eq_toBytes_append bytes (by
      rw [hcount, Nat.mul_succ]; omega)
    have hrest : rest.length = blockSize * count := by
      rw [List.length_append, Block.length_toBytes, Nat.mul_succ] at hcount
      omega
    obtain ⟨xs, rfl⟩ := ih (by rw [hrest, Nat.mul_mod_right]) hrest
    exact ⟨x :: xs, rfl⟩

theorem joinBlocks_ofBytes {bytes : Bytes} (h : bytes.length % blockSize = 0) :
    joinBlocks (Block.ofBytes bytes) = bytes := by
  obtain ⟨xs, rfl⟩ := exists_joinBlocks_eq h
  rw [ofBytes_joinBlocks]

/-! ### Padding -/

/-- Well-formed padding: `n` bytes of value `n` at the end, for an `n` from 1 to the size of a
block. -/
def WellPadded (raw : Bytes) : Prop :=
  ∃ body n, 0 < n ∧ n ≤ blockSize ∧ raw = body ++ List.replicate n (UInt8.ofNat n)

theorem wellPadded_append_padding (plain : Bytes) : WellPadded (plain ++ padding plain.length) := by
  have hlt : plain.length % blockSize < blockSize := Nat.mod_lt _ (by decide)
  exact ⟨plain, blockSize - plain.length % blockSize, by omega, by omega, rfl⟩

theorem length_append_padding (plain : Bytes) :
    (plain ++ padding plain.length).length % blockSize = 0 := by
  have hlt : plain.length % blockSize < blockSize := Nat.mod_lt _ (by decide)
  simp only [padding, List.length_append, List.length_replicate, blockSize] at hlt ⊢
  omega

/-- Whole blocks that end in padding end in the padding that sealing writes. -/
theorem padding_of_length {body : Bytes} {n : Nat} (hpos : 0 < n) (hle : n ≤ blockSize)
    (h : (body ++ List.replicate n (UInt8.ofNat n)).length % blockSize = 0) :
    padding body.length = List.replicate n (UInt8.ofNat n) := by
  have hn : blockSize - body.length % blockSize = n := by
    simp only [List.length_append, List.length_replicate, blockSize] at h hle ⊢
    omega
  rw [padding, hn]

/-- Well-formed padding comes off exactly, whatever it stands behind. -/
theorem stripPadding_append_replicate (body : Bytes) {n : Nat} (hpos : 0 < n)
    (hle : n ≤ blockSize) :
    stripPadding (body ++ List.replicate n (UInt8.ofNat n)) = body := by
  have hlast : (body ++ List.replicate n (UInt8.ofNat n)).getLast? = some (UInt8.ofNat n) := by
    rw [List.getLast?_append, List.getLast?_replicate, if_neg (by omega), Option.some_or]
  have hvalue : (UInt8.ofNat n).toNat = n := by
    rw [UInt8.toNat_ofNat', Nat.mod_eq_of_lt]
    simp only [blockSize] at hle
    omega
  have hkept : (body ++ List.replicate n (UInt8.ofNat n)).length - n = body.length := by
    rw [List.length_append, List.length_replicate, Nat.add_sub_cancel]
  have hsize : ¬(n = 0 ∨ n > blockSize ∨
      n > (body ++ List.replicate n (UInt8.ofNat n)).length) := by
    rw [List.length_append, List.length_replicate]
    omega
  rw [stripPadding, hlast]
  simp only [hvalue, if_neg hsize, hkept, List.drop_left, List.take_left]
  simp

theorem stripPadding_append_padding (plain : Bytes) :
    stripPadding (plain ++ padding plain.length) = plain := by
  have hlt : plain.length % blockSize < blockSize := Nat.mod_lt _ (by decide)
  exact stripPadding_append_replicate plain (by omega) (by omega)

/-! ### Payloads -/

/-- What a payload decrypts to, with its padding. -/
def unsealed (s : Schedule) (payload : Bytes) : Bytes :=
  match Block.ofBytes payload with
  | [] => []
  | initial :: body => joinBlocks (unchain s initial body)

/-- Whatever is sealed comes out again with its padding; a partial block behind it is ignored. -/
theorem unsealed_sealBytes_append (s : Schedule) (initial : Block) (plain junk : Bytes)
    (h : junk.length < blockSize) :
    unsealed s (sealBytes s initial plain ++ junk) = plain ++ padding plain.length := by
  have hblocks : Block.ofBytes (sealBytes s initial plain ++ junk)
      = initial :: chain s initial (Block.ofBytes (plain ++ padding plain.length)) := by
    rw [sealBytes, List.append_assoc, Block.ofBytes_toBytes_append, ofBytes_joinBlocks_append _ _ h]
  rw [unsealed, hblocks]
  simp only [unchain_chain]
  exact joinBlocks_ofBytes (length_append_padding plain)

/-- What has been sealed is of the form that can be sealed again. -/
theorem wellPadded_unsealed_sealBytes (s : Schedule) (initial : Block) (plain : Bytes) :
    WellPadded (unsealed s (sealBytes s initial plain)) := by
  have hraw := unsealed_sealBytes_append s initial plain [] (by decide)
  rw [List.append_nil] at hraw
  rw [hraw]
  exact wellPadded_append_padding plain

theorem length_sealBytes_mod (s : Schedule) (initial : Block) (plain : Bytes) :
    (sealBytes s initial plain).length % blockSize = 0 := by
  rw [sealBytes, List.length_append, Block.length_toBytes, length_joinBlocks,
    Nat.add_mul_mod_self_left, Nat.mod_self]

theorem openBytes?_eq_some (s : Schedule) {payload : Bytes} (h : blockSize ≤ payload.length) :
    openBytes? s payload = some (stripPadding (unsealed s payload)) := by
  obtain ⟨initial, rest, rfl⟩ := Block.exists_eq_toBytes_append payload h
  rw [openBytes?, unsealed, Block.ofBytes_toBytes_append]

theorem blockSize_le_length_sealBytes (s : Schedule) (initial : Block) (plain : Bytes) :
    blockSize ≤ (sealBytes s initial plain).length := by
  rw [sealBytes, List.length_append, Block.length_toBytes]
  omega

/-- Opening undoes sealing. -/
theorem openBytes?_sealBytes_append (s : Schedule) (initial : Block) (plain junk : Bytes)
    (h : junk.length < blockSize) :
    openBytes? s (sealBytes s initial plain ++ junk) = some plain := by
  have hlong : blockSize ≤ (sealBytes s initial plain ++ junk).length := by
    have := blockSize_le_length_sealBytes s initial plain
    rw [List.length_append]
    omega
  rw [openBytes?_eq_some s hlong, unsealed_sealBytes_append s initial plain junk h,
    stripPadding_append_padding]

/-- Sealing undoes opening, where the payload has whole blocks and well-formed padding. -/
theorem sealBytes_stripPadding {s : Schedule} {payload : Bytes} {initial : Block}
    (hwhole : payload.length % blockSize = 0) (hinitial : initial.toBytes = payload.take blockSize)
    (hpadded : WellPadded (unsealed s payload)) :
    sealBytes s initial (stripPadding (unsealed s payload)) = payload := by
  obtain ⟨blocks, rfl⟩ := exists_joinBlocks_eq hwhole
  obtain ⟨body, n, hpos, hle, hraw⟩ := hpadded
  cases blocks with
  | nil => simp [unsealed, Block.ofBytes] at hraw; omega
  | cons first rest =>
    have hfirst : initial = first := by
      apply Block.toBytes_injective
      rw [hinitial, joinBlocks_cons, ← Block.length_toBytes first, List.take_left]
    have hunsealed :
        unsealed s (joinBlocks (first :: rest)) = joinBlocks (unchain s first rest) := by
      rw [unsealed, ofBytes_joinBlocks]
    have hpadding : padding body.length = List.replicate n (UInt8.ofNat n) := by
      apply padding_of_length hpos hle
      rw [← hraw, hunsealed, length_joinBlocks, Nat.mul_mod_right]
    rw [hraw, stripPadding_append_replicate body hpos hle, sealBytes, hpadding, ← hraw, hunsealed,
      ofBytes_joinBlocks, hfirst, chain_unchain, joinBlocks_cons]

/-! ### Keys -/

/-- Enough bytes for a key make a schedule, and only the key counts. -/
theorem exists_scheduleOfToken? {token : Bytes} (h : keySize ≤ token.length) :
    ∃ s, ∀ other : Bytes, other.take keySize = token.take keySize →
      scheduleOfToken? other = some s := by
  have hkey : (token.take keySize).length = 2 * blockSize := by
    rw [List.length_take]
    simp only [keySize, blockSize] at h ⊢
    omega
  obtain ⟨x, rest, hx⟩ := Block.exists_eq_toBytes_append (token.take keySize) (by omega)
  have hrest : rest.length = blockSize := by
    rw [hx, List.length_append, Block.length_toBytes] at hkey
    omega
  obtain ⟨y, last, rfl⟩ := Block.exists_eq_toBytes_append rest (by omega)
  have hlast : last = [] := by
    rw [List.length_append, Block.length_toBytes] at hrest
    exact List.eq_nil_of_length_eq_zero (by omega)
  refine ⟨schedule x y, fun other hother => ?_⟩
  rw [scheduleOfToken?, hother, hx, hlast]
  rfl

end CommandAgent.Cipher
