import CommandAgent.Cipher.Block
import Mathlib.Data.FinEnum
import Mathlib.Data.Fintype.EquivFin
import Mathlib.Data.LawfulXor.Basic

/-!
# Decryption undoes encryption, block by block

Under one schedule `encryptBlock` and `decryptBlock` are inverse to each other, whatever the round
keys are. Every step of a round has its inverse: the substitution is a table that is looked up in
both directions, the rows are turned there and back, and a round key is added twice.

Only the mixing of a column needs an argument. Mixing and unmixing are additive, because doubling
is (`double_xor`), and neither cares where a column starts, so it is enough to look at columns with
a single byte other than zero (`eq_self_of_singles`). There the products of the two matrices cancel
without any reduction in the field.
-/

namespace CommandAgent.Cipher

/-! ### Substitution -/

/-- Looking the substitutes up backwards, in the order of their table, counts through the bytes. -/
theorem map_unsubstitute_substitutes :
    substitutes.toList.map unsubstitute = (List.range 256).map UInt8.ofNat := by
  have hlookup : unsubstitute = fun c => inverseSubstitutes.toList[c.toNat]?.getD 0 := by
    funext c
    rw [unsubstitute, Array.getElem?_toList]
  rw [hlookup]
  decide +kernel

@[simp] theorem unsubstitute_substitute (b : UInt8) : unsubstitute (substitute b) = b := by
  have hplace : (substitutes.toList.map unsubstitute)[b.toNat]? = some b := by
    simp [map_unsubstitute_substitutes, b.toNat_lt]
  rw [List.getElem?_map, Array.getElem?_toList, Option.map_eq_some_iff] at hplace
  obtain ⟨c, hc, hcb⟩ := hplace
  rw [substitute, hc, Option.getD_some, hcb]

/-- There are as many bytes as there are substitutes, so each is the substitute of its origin. -/
@[simp] theorem substitute_unsubstitute (b : UInt8) : substitute (unsubstitute b) = b := by
  have hinjective : Function.Injective substitute :=
    Function.LeftInverse.injective unsubstitute_substitute
  obtain ⟨a, rfl⟩ := Finite.injective_iff_surjective.mp hinjective b
  rw [unsubstitute_substitute]

/-! ### Doubling -/

theorem and_top (b : UInt8) : b &&& 0x80 = 0 ∨ b &&& 0x80 = 0x80 := by
  revert b
  decide +kernel

theorem xor_and_top (a b : UInt8) : (a ^^^ b) &&& 0x80 = (a &&& 0x80) ^^^ (b &&& 0x80) := by
  apply UInt8.eq_of_toBitVec_eq
  rw [UInt8.toBitVec_and, UInt8.toBitVec_xor, UInt8.toBitVec_xor, UInt8.toBitVec_and,
    UInt8.toBitVec_and]
  ext i
  simp [Bool.and_xor_distrib_right]

theorem xor_left (a b c : UInt8) : a ^^^ (b ^^^ c) = b ^^^ (a ^^^ c) := by
  ac_rfl

theorem double_zero : double 0 = 0 := rfl

/-- Doubling is additive: what is shifted out at the top is added back in at the bottom, once for
each of the two bytes that lose their top bit. -/
theorem double_xor (a b : UInt8) : double (a ^^^ b) = double a ^^^ double b := by
  unfold double
  rw [xor_and_top, UInt8.shiftLeft_xor]
  rcases and_top a with ha | ha <;> rcases and_top b with hb | hb
  · simp [ha, hb]
  · simp [ha, hb, xor_assoc]
  · simp [ha, hb]
    ac_rfl
  -- both bits are lost, and the two corrections cancel
  · simp [ha, hb, xor_assoc]

/-! ### Columns -/

namespace Word

/-- A column with one byte other than zero, in the first place. -/
def single (b : UInt8) : Word := ⟨b, 0, 0, 0⟩

@[simp] theorem add_add_cancel (x k : Word) : (x.add k).add k = x := by
  simp [add]

/-- A column is the sum of its bytes, each of them turned to its place. -/
theorem eq_add_singles (w : Word) :
    w = (single w.b0).add ((single w.b1).rotate.rotate.rotate.add
      ((single w.b2).rotate.rotate.add (single w.b3).rotate)) := by
  simp [add, single, rotate]

theorem map_map_cancel {f g : UInt8 → UInt8} (h : ∀ b, g (f b) = b) (x : Word) :
    (x.map f).map g = x := by
  simp [map, h]

end Word

theorem mixColumn_add (x y : Word) : mixColumn (x.add y) = (mixColumn x).add (mixColumn y) := by
  simp only [mixColumn, Word.add, double_xor, Word.mk.injEq]
  refine ⟨?_, ?_, ?_, ?_⟩ <;> ac_rfl

theorem unmixColumn_add (x y : Word) :
    unmixColumn (x.add y) = (unmixColumn x).add (unmixColumn y) := by
  simp only [unmixColumn, Word.add, double_xor, Word.mk.injEq]
  refine ⟨?_, ?_, ?_, ?_⟩ <;> ac_rfl

/-- A map of columns that is additive and does not care where a column starts leaves every column
alone when it leaves the single bytes alone. -/
theorem eq_self_of_singles {f : Word → Word} (hadd : ∀ x y, f (x.add y) = (f x).add (f y))
    (hrotate : ∀ x, f x.rotate = (f x).rotate) (hsingle : ∀ b, f (.single b) = .single b)
    (w : Word) : f w = w := by
  rw [w.eq_add_singles]
  simp only [hadd, hrotate, hsingle]

theorem unmixColumn_mixColumn_single (b : UInt8) :
    unmixColumn (mixColumn (.single b)) = .single b := by
  simp only [mixColumn, unmixColumn, Word.single, double_zero, UInt8.xor_zero, UInt8.zero_xor,
    double_xor]
  simp [UInt8.xor_assoc, UInt8.xor_comm, xor_left, xor_cancel_left]

theorem mixColumn_unmixColumn_single (b : UInt8) :
    mixColumn (unmixColumn (.single b)) = .single b := by
  simp only [mixColumn, unmixColumn, Word.single, double_zero, UInt8.xor_zero, UInt8.zero_xor,
    double_xor]
  simp [UInt8.xor_assoc, UInt8.xor_comm, xor_left, xor_cancel_left]

@[simp] theorem unmixColumn_mixColumn (w : Word) : unmixColumn (mixColumn w) = w := by
  apply eq_self_of_singles (f := fun w => unmixColumn (mixColumn w))
  · intro x y
    show unmixColumn (mixColumn (x.add y)) = _
    rw [mixColumn_add, unmixColumn_add]
  · intro x
    rfl
  · exact unmixColumn_mixColumn_single

@[simp] theorem mixColumn_unmixColumn (w : Word) : mixColumn (unmixColumn w) = w := by
  apply eq_self_of_singles (f := fun w => mixColumn (unmixColumn w))
  · intro x y
    show mixColumn (unmixColumn (x.add y)) = _
    rw [unmixColumn_add, mixColumn_add]
  · intro x
    rfl
  · exact mixColumn_unmixColumn_single

/-! ### Steps of a round -/

namespace Block

@[simp] theorem add_add_cancel (x k : Block) : (x.add k).add k = x := by
  simp [add]

theorem map_map_cancel {f g : UInt8 → UInt8} (h : ∀ b, g (f b) = b) (x : Block) :
    (x.map f).map g = x := by
  simp [map, Word.map_map_cancel h]

end Block

@[simp] theorem unshiftRows_shiftRows (x : Block) : unshiftRows (shiftRows x) = x := rfl

@[simp] theorem shiftRows_unshiftRows (x : Block) : shiftRows (unshiftRows x) = x := rfl

@[simp] theorem unmixColumns_mixColumns (x : Block) : unmixColumns (mixColumns x) = x := by
  simp [unmixColumns, mixColumns]

@[simp] theorem mixColumns_unmixColumns (x : Block) : mixColumns (unmixColumns x) = x := by
  simp [unmixColumns, mixColumns]

@[simp] theorem unsubstituteAll_substituteAll (x : Block) :
    (x.map substitute).map unsubstitute = x :=
  Block.map_map_cancel unsubstitute_substitute x

@[simp] theorem substituteAll_unsubstituteAll (x : Block) :
    (x.map unsubstitute).map substitute = x :=
  Block.map_map_cancel substitute_unsubstitute x

/-! ### Rounds -/

@[simp] theorem unround_round (k x : Block) : unround k (round x k) = x := by
  simp [unround, round]

@[simp] theorem round_unround (k x : Block) : round (unround k x) k = x := by
  simp [unround, round]

/-- The rounds are undone from the last one to the first. -/
theorem foldr_unround_foldl_round (keys : List Block) (x : Block) :
    keys.foldr unround (keys.foldl round x) = x := by
  induction keys generalizing x with
  | nil => rfl
  | cons k keys ih => rw [List.foldl_cons, List.foldr_cons, ih, unround_round]

theorem foldl_round_foldr_unround (keys : List Block) (x : Block) :
    keys.foldl round (keys.foldr unround x) = x := by
  induction keys with
  | nil => rfl
  | cons k keys ih => rw [List.foldr_cons, List.foldl_cons, round_unround, ih]

/-! ### Blocks -/

@[simp] theorem decryptBlock_encryptBlock (s : Schedule) (x : Block) :
    decryptBlock s (encryptBlock s x) = x := by
  simp [decryptBlock, encryptBlock, foldr_unround_foldl_round]

@[simp] theorem encryptBlock_decryptBlock (s : Schedule) (x : Block) :
    encryptBlock s (decryptBlock s x) = x := by
  simp [decryptBlock, encryptBlock, foldl_round_foldr_unround]

end CommandAgent.Cipher
