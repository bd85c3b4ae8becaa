import CommandAgent.Plan.Load
import CommandAgent.Proofs.Cipher.Chaining

/-!
# Sealed command sets come back exact

Sealing with a token and opening with it are inverse in both directions (`sealing_round_trip`). Only
the first 32 bytes of the token matter, and an incomplete block behind the payload does not.

In the other direction a payload must be one that sealing could have written: whole blocks whose
plaintext ends in well-formed padding. Then it is sealed again to the same bytes.
-/

namespace CommandAgent.Cipher

open Text

/-- A token of at least the size of a key makes a schedule, the same as every token that starts with
the same key. -/
theorem exists_scheduleOfToken {token : String} (h : keySize ≤ (Utf8.encode token).length) :
    ∃ s, ∀ other : String,
      (Utf8.encode other).take keySize = (Utf8.encode token).take keySize →
        scheduleOfToken other = .ok s := by
  obtain ⟨s, hs⟩ := exists_scheduleOfToken? h
  refine ⟨s, fun other hother => ?_⟩
  simp only [scheduleOfToken, hs _ hother]

theorem openPayload_sealBytes_append (s : Schedule) (initial : Block) (plain junk : Bytes)
    (h : junk.length < blockSize) :
    openPayload s (sealBytes s initial plain ++ junk) = .ok plain := by
  rw [openPayload, openBytes?_sealBytes_append s initial plain junk h]

theorem openPayload_sealBytes (s : Schedule) (initial : Block) (plain : Bytes) :
    openPayload s (sealBytes s initial plain) = .ok plain := by
  simpa using openPayload_sealBytes_append s initial plain [] (by decide)

/-- Sealing and opening with one token are inverse to each other: what has been sealed is opened to
the same plaintext, with an incomplete block behind it or not, by every token that starts with the
same key; and a payload of whole blocks with well-formed padding is opened to a plaintext that is
sealed, under the initial block of the payload, to the same payload. -/
theorem sealing_round_trip (token : String) (h : keySize ≤ (Utf8.encode token).length) :
    ∃ s, scheduleOfToken token = .ok s ∧
      (∀ other : String, (Utf8.encode other).take keySize = (Utf8.encode token).take keySize →
        scheduleOfToken other = .ok s) ∧
      (∀ (initial : Block) (plain junk : Bytes), junk.length < blockSize →
        openPayload s (sealBytes s initial plain ++ junk) = .ok plain) ∧
      (∀ (initial : Block) (payload : Bytes), payload.length % blockSize = 0 →
        initial.toBytes = payload.take blockSize → WellPadded (unsealed s payload) →
        ∃ plain, openPayload s payload = .ok plain ∧ sealBytes s initial plain = payload) := by
  obtain ⟨s, hs⟩ := exists_scheduleOfToken h
  refine ⟨s, hs token rfl, hs, fun initial plain junk hjunk => ?_,
    fun initial payload hwhole hinitial hpadded => ?_⟩
  · exact openPayload_sealBytes_append s initial plain junk hjunk
  · have hlong : blockSize ≤ payload.length := by
      have hlength : (payload.take blockSize).length = blockSize := by
        rw [← hinitial, Block.length_toBytes]
      rw [List.length_take] at hlength
      omega
    refine ⟨stripPadding (unsealed s payload), ?_,
      sealBytes_stripPadding hwhole hinitial hpadded⟩
    rw [openPayload, openBytes?_eq_some s hlong]

/-- Two tokens with one key, a plaintext that looks padded itself, and a payload with a few bytes
behind it. -/
theorem sealing_round_trip_padded_plaintext :
    ∃ s, scheduleOfToken "0123456789abcdef0123456789abcdef" = .ok s ∧
      scheduleOfToken "0123456789abcdef0123456789abcdef~rest" = .ok s ∧
      openPayload s (sealBytes s ⟨⟨1, 2, 3, 4⟩, ⟨0, 0, 0, 0⟩, ⟨0, 0, 0, 0⟩, ⟨0, 0, 0, 9⟩⟩
        [7, 2, 2] ++ [255, 0]) = .ok [7, 2, 2] ∧
      ∃ plain, openPayload s (sealBytes s ⟨⟨0, 0, 0, 0⟩, ⟨0, 0, 0, 0⟩, ⟨0, 0, 0, 0⟩, ⟨0, 0, 0, 1⟩⟩
          [2, 2]) = .ok plain ∧
        sealBytes s ⟨⟨0, 0, 0, 0⟩, ⟨0, 0, 0, 0⟩, ⟨0, 0, 0, 0⟩, ⟨0, 0, 0, 1⟩⟩ plain
          = sealBytes s ⟨⟨0, 0, 0, 0⟩, ⟨0, 0, 0, 0⟩, ⟨0, 0, 0, 0⟩, ⟨0, 0, 0, 1⟩⟩ [2, 2] := by
  obtain ⟨s, hs, hother, hopen, hseal⟩ :=
    sealing_round_trip "0123456789abcdef0123456789abcdef" (by decide)
  refine ⟨s, hs, hother _ (by decide), hopen _ _ _ (by decide), hseal _ _ ?_ ?_ ?_⟩
  · exact length_sealBytes_mod s _ _
  · rfl
  · exact wellPadded_unsealed_sealBytes s _ [2, 2]

end CommandAgent.Cipher
