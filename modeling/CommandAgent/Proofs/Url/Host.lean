import CommandAgent.Proofs.Url.Ipv6
import CommandAgent.Proofs.Url.Percent
import CommandAgent.Url.Basic

/-!
# Opaque hosts

The host of a URL whose scheme is not special is a name, or an IPv6 address between brackets. What
the reader gives (`Host.Opaque`) is written so that it is found again where it ends
(`splitHost_text`), and it reads as the same host (`parseOpaqueHost_text`).
-/

namespace CommandAgent.Url

/-- A host as the reader gives it where the scheme is not special. -/
def Host.Opaque : Host → Prop
  | domain name =>
    name.toList ≠ [] ∧ ∀ c ∈ name.toList, forbiddenInHost c = false ∧ isControl c = false
  | ipv4 _ => False
  | ipv6 pieces => IsIpv6 pieces

/-- The host that is read from a text is of this kind. -/
theorem opaque_of_parseOpaqueHost {cs : List Char} {h : Host} (hne : cs ≠ [])
    (hread : parseOpaqueHost cs = .ok h) : h.Opaque := by
  unfold parseOpaqueHost at hread
  split at hread
  · obtain ⟨inner, -, hrest⟩ := Json.bind_eq_ok hread
    obtain ⟨pieces, hpieces, hend⟩ := Json.bind_eq_ok hrest
    cases hend
    exact isIpv6_of_parse hpieces
  · split at hread
    · cases hread
    · next hallowed =>
      cases hread
      have hkept : ∀ c ∈ cs, isControl c = false → forbiddenInHost c = false := by
        intro c hc _
        rw [Bool.not_eq_true, List.any_eq_false] at hallowed
        exact Bool.eq_false_iff.mpr (hallowed c hc)
      rw [Host.Opaque, String.toList_ofList]
      -- encoding brings percent signs and digits, which a host may have
      refine ⟨fun hnil => hne (encodeWith_eq_nil_iff.mp hnil), fun c hc => ⟨?_, ?_⟩⟩
      · exact forall_mem_encodeWith (by decide) (by decide) hkept c hc
      · exact forall_encodeWith spares_isControl cs c hc

theorem toList_text_ipv6 (pieces : List Nat) :
    (Host.ipv6 pieces).text.toList = '[' :: ((ipv6Text pieces).toList ++ [']']) := by
  rw [Host.text, String.toList_append, String.toList_append]
  rfl

/-- A host is read from its text. -/
theorem parseOpaqueHost_text {h : Host} (ho : h.Opaque) :
    parseOpaqueHost h.text.toList = .ok h := by
  cases h with
  | domain name =>
    obtain ⟨hne, hall⟩ := ho
    obtain ⟨c, t, htext⟩ := List.exists_cons_of_ne_nil hne
    have hbracket : c ≠ '[' := by
      rintro rfl
      have hforbidden := (hall '[' (by rw [htext]; exact List.mem_cons_self)).1
      cases hforbidden
    have hunbracket : unbracket? name.toList = none := by
      rw [htext]
      unfold unbracket?
      split
      · next heq =>
        obtain ⟨rfl, -⟩ := List.cons.inj heq
        exact absurd rfl hbracket
      · rfl
    have hallowed : name.toList.any forbiddenInHost = false := by
      rw [List.any_eq_false]
      exact fun c hc => Bool.eq_false_iff.mp (hall c hc).1
    rw [Host.text, parseOpaqueHost, hunbracket]
    simp only [hallowed, Bool.false_eq_true, if_false]
    rw [encodeWith_of_forall fun c hc => (hall c hc).2, String.ofList_toList]
  | ipv4 address => exact absurd ho id
  | ipv6 pieces =>
    have hunbracket : unbracket? ('[' :: ((ipv6Text pieces).toList ++ [']'])) =
        some (.ok (ipv6Text pieces).toList) := by
      rw [unbracket?, List.reverse_append]
      simp
    rw [toList_text_ipv6, parseOpaqueHost, hunbracket]
    simp only [bind, Except.bind, parseIpv6_text ho]
    rfl

theorem Host.Opaque.text_ne_nil {h : Host} (ho : h.Opaque) : h.text.toList ≠ [] := by
  cases h with
  | domain name => exact ho.1
  | ipv4 address => exact absurd ho id
  | ipv6 pieces =>
    rw [toList_text_ipv6]
    exact List.cons_ne_nil _ _

/-! ### Characters -/

theorem ne_of_set {mustEncode : Char → Bool} {c d : Char} (hd : mustEncode d = true)
    (hc : mustEncode c = false) : c ≠ d := by
  rintro rfl
  rw [hd] at hc
  cases hc

/-- A character that is no control and no blank is visible. -/
theorem lt_toNat_of_ne {c : Char} (hcontrol : isControl c = false) (hblank : c ≠ ' ') :
    0x20 < c.toNat := by
  have hne : c.toNat ≠ 0x20 := by
    intro h
    exact hblank (by rw [← Char.ofNat_toNat c, h])
  simp only [isControl, Bool.or_eq_false_iff, decide_eq_false_iff_not] at hcontrol
  omega

theorem endsAuthority_eq_false_iff {c : Char} :
    endsAuthority false c = false ↔ c ≠ '/' ∧ c ≠ '?' ∧ c ≠ '#' := by
  simp [endsAuthority, and_assoc]

/-- A host has visible characters that do not end it and no sign of a user. -/
theorem forall_mem_text {h : Host} (ho : h.Opaque) :
    ∀ c ∈ h.text.toList, endsAuthority false c = false ∧ c ≠ '@' ∧ 0x20 < c.toNat := by
  intro c hc
  cases h with
  | domain name =>
    obtain ⟨hforbidden, hcontrol⟩ := ho.2 c hc
    have hne {d : Char} (hd : forbiddenInHost d = true) : c ≠ d := ne_of_set hd hforbidden
    exact ⟨endsAuthority_eq_false_iff.mpr ⟨hne rfl, hne rfl, hne rfl⟩, hne rfl,
      lt_toNat_of_ne hcontrol (hne rfl)⟩
  | ipv4 address => exact absurd ho id
  | ipv6 pieces =>
    rw [toList_text_ipv6] at hc
    have hdigit : ∀ d < 16, endsAuthority false (Nat.digitChar d) = false ∧
        Nat.digitChar d ≠ '@' ∧ 0x20 < (Nat.digitChar d).toNat := by decide
    rcases List.mem_cons.mp hc with rfl | hc
    · decide
    rcases List.mem_append.mp hc with hc | hc
    · rcases mem_ipv6Text hc with rfl | ⟨d, hd, rfl⟩
      · decide
      · exact hdigit d hd
    · rw [List.mem_singleton.mp hc]
      decide

/-! ### Where a host ends -/

section
variable {r : List Char}

theorem splitHost_of_head? (hr : ∀ c ∈ r.head?, endsAuthority false c ∨ c = ':') :
    splitHost false false r = ([], r) := by
  cases r with
  | nil => rfl
  | cons c r =>
    rw [splitHost, if_pos]
    exact (hr c rfl).imp_right fun hc => ⟨hc, Bool.false_ne_true⟩

/-- A name ends at a colon or at the end of the authority. -/
theorem splitHost_name {cs : List Char}
    (hcs : ∀ c ∈ cs, endsAuthority false c = false ∧ c ≠ ':' ∧ c ≠ '[')
    (hr : ∀ c ∈ r.head?, endsAuthority false c ∨ c = ':') :
    splitHost false false (cs ++ r) = (cs, r) := by
  -- no bracket opens, so the reader stays outside of brackets
  induction cs with
  | nil => exact splitHost_of_head? hr
  | cons c cs ih =>
    obtain ⟨⟨hends, hcolon, hbracket⟩, hcs⟩ := List.forall_mem_cons.mp hcs
    have hnext : (if c = '[' then true else if c = ']' then false else false) = false := by
      simp [hbracket]
    rw [List.cons_append, splitHost, if_neg (by simp [hends, hcolon])]
    simp only [hnext, ih hcs]

/-- A host in brackets ends at its closing bracket, whatever colons it has. -/
theorem splitHost_bracket {cs : List Char}
    (hcs : ∀ c ∈ cs, endsAuthority false c = false ∧ c ≠ ']')
    (hr : ∀ c ∈ r.head?, endsAuthority false c ∨ c = ':') :
    splitHost false true (cs ++ ']' :: r) = (cs ++ [']'], r) := by
  -- inside of brackets colons are passed over, up to the closing bracket
  induction cs with
  | nil =>
    rw [List.nil_append, splitHost, if_neg (by decide)]
    simp [splitHost_of_head? hr]
  | cons c cs ih =>
    obtain ⟨⟨hends, hbracket⟩, hcs⟩ := List.forall_mem_cons.mp hcs
    have hnext : (if c = '[' then true else if c = ']' then false else true) = true := by
      simp [hbracket]
    rw [List.cons_append, splitHost, if_neg (by simp [hends])]
    simp only [hnext, ih hcs]
    rfl

/-- The text of a host ends where it does. -/
theorem splitHost_text {h : Host} (ho : h.Opaque)
    (hr : ∀ c ∈ r.head?, endsAuthority false c ∨ c = ':') :
    splitHost false false (h.text.toList ++ r) = (h.text.toList, r) := by
  have hends := fun c hc => (forall_mem_text ho c hc).1
  cases h with
  | domain name =>
    refine splitHost_name (fun c hc => ⟨hends c hc, ?_, ?_⟩) hr
    · exact ne_of_set rfl (ho.2 c hc).1
    · exact ne_of_set rfl (ho.2 c hc).1
  | ipv4 address => exact absurd ho id
  | ipv6 pieces =>
    have hinner : ∀ c ∈ (ipv6Text pieces).toList, endsAuthority false c = false ∧ c ≠ ']' := by
      have hdigit : ∀ d < 16, endsAuthority false (Nat.digitChar d) = false ∧
          Nat.digitChar d ≠ ']' := by decide
      intro c hc
      rcases mem_ipv6Text hc with rfl | ⟨d, hd, rfl⟩
      · decide
      · exact hdigit d hd
    rw [toList_text_ipv6, List.cons_append, List.append_assoc, List.singleton_append, splitHost,
      if_neg (by decide)]
    simp only [if_true, splitHost_bracket hinner hr]

end

end CommandAgent.Url
