import CommandAgent.Proofs.Url.Authority
import CommandAgent.Proofs.Url.Path

/-!
# URLs are read as they were written

A URL that the reader gives, with a host and a scheme that is not special, is settled
(`Url.Settled`): nothing in its parts is left to be encoded or worked off. Its text reads as the
same URL (`parse_toText`). The reader is followed along the text: it finds each part where the
writer ended it, because no part holds what ends it.
-/

namespace CommandAgent.Url

/-! ### Settled URLs -/

/-- A scheme in small letters. -/
structure IsScheme (s : String) : Prop where
  letter : ∃ c t, s.toList = c :: t ∧ c.isAlpha
  part : ∀ c ∈ s.toList, (c.isAlphanum || c == '+' || c == '-' || c == '.') ∧ c.toLower = c

/-- A URL with a host as the reader gives it where the scheme is not special. -/
structure Settled (u : Url) : Prop where
  scheme : IsScheme u.scheme
  special : isSpecial u.scheme = false
  hierarchical : u.hierarchical = true
  login : IsLogin u.username u.password
  host : ∃ h, u.host = some h ∧ h.Opaque
  port : ∀ n ∈ u.port, n ≤ 65535
  path : IsPath u.path.toList
  query : ∀ q ∈ u.query, ∀ c ∈ q.toList, querySet c = false
  fragment : ∀ f ∈ u.fragment, ∀ c ∈ f.toList, fragmentSet c = false

/-! ### The text in its parts -/

/-- A part with the sign before it, if it is there. -/
def signed (sign : Char) (part : Option String) : List Char :=
  (part.map fun s => sign :: s.toList).getD []

@[simp] theorem signed_none (sign : Char) : signed sign none = [] := rfl

@[simp] theorem signed_some (sign : Char) (s : String) : signed sign (some s) = sign :: s.toList :=
  rfl

theorem head?_signed {sign : Char} {part : Option String} :
    ∀ c ∈ (signed sign part).head?, c = sign := by
  intro c hc
  cases part with
  | none => cases hc
  | some s =>
    cases hc
    rfl

theorem mem_signed {sign c : Char} {part : Option String} (h : c ∈ signed sign part) :
    c = sign ∨ ∃ s, part = some s ∧ c ∈ s.toList := by
  cases part with
  | none => cases h
  | some s => exact (List.mem_cons.mp h).imp_right fun hc => ⟨s, rfl, hc⟩

/-- The user name and password of a URL as they stand before the `@`. -/
def loginText (u : Url) : List Char := u.username.toList ++ signed ':' u.password

/-- The login with its `@`, if there is one. -/
def userText (u : Url) : List Char := if u.loginText = [] then [] else u.loginText ++ ['@']

/-- The path, query and fragment with their signs. -/
def tailText (u : Url) : List Char :=
  u.path.toList ++ (signed '?' u.query ++ signed '#' u.fragment)

section
variable {u : Url}

/-- The login in front of the host, as it is written. -/
theorem userText_eq :
    (match u.username, u.password with
      | "", none => ""
      | name, none => name ++ "@"
      | name, some p => name ++ ":" ++ p ++ "@").toList = u.userText := by
  unfold userText loginText
  split
  · next hname hpassword => simp [hname, hpassword]
  · next name hpassword hempty =>
    have hne : u.username.toList ≠ [] := fun hnil => hempty (String.toList_eq_nil_iff.mp hnil)
    simp [hpassword, hne]
  · next name p hpassword => simp [hpassword]

theorem toList_getD_sign (text : String) (sign : Char) (h : text.toList = [sign])
    (part : Option String) : ((part.map (text ++ ·)).getD "").toList = signed sign part := by
  cases part with
  | none => rfl
  | some s =>
    rw [Option.map_some, Option.getD_some, String.toList_append, h]
    rfl

/-- The text of a URL with a host, part by part. -/
theorem toList_toText {h : Host} (hhost : u.host = some h) :
    u.toText.toList = u.scheme.toList ++ ':' :: '/' :: '/' ::
      (u.userText ++ (h.text.toList ++ (signed ':' (u.port.map toString) ++ u.tailText))) := by
  have hport : ((u.port.map fun n => ":" ++ toString n).getD "").toList =
      signed ':' (u.port.map toString) := by
    rw [← toList_getD_sign ":" ':' rfl, Option.map_map]
    rfl
  unfold toText
  rw [hhost]
  simp only [String.toList_append, hport, toList_getD_sign "?" '?' rfl,
    toList_getD_sign "#" '#' rfl]
  simp only [String.reduceToList, List.cons_append, List.nil_append, List.append_assoc,
    tailText, List.append_cancel_left_eq, List.cons.injEq, List.append_cancel_right_eq, true_and]
  exact userText_eq

end

/-! ### The scheme -/

/-- A scheme is read up to its colon. -/
theorem scheme?_append {s : String} (h : IsScheme s) (rest : List Char) :
    scheme? (s.toList ++ ':' :: rest) = some (s, rest) := by
  obtain ⟨c, t, hs, hletter⟩ := h.letter
  have hpart := fun c hc => (h.part c hc).1
  have hlower : s.toList.map Char.toLower = s.toList :=
    (List.map_congr_left fun c hc => (h.part c hc).2).trans (List.map_id _)
  have hcolon : (':'.isAlphanum || ':' == '+' || ':' == '-' || ':' == '.') = false := by decide
  unfold scheme?
  dsimp only
  split
  · next heq => simp at heq
  · next d t' heq =>
    rw [hs] at heq
    obtain ⟨rfl, -⟩ := List.cons.inj heq
    rw [if_pos hletter, List.dropWhile_append_of_pos hpart, List.dropWhile_cons_of_neg,
      List.takeWhile_append_of_pos hpart, List.takeWhile_cons_of_neg, List.append_nil]
    · simp only [hlower, String.ofList_toList]
    · rw [hcolon]
      decide
    · rw [hcolon]
      decide

/-! ### Characters -/

section
variable {c : Char}

theorem visible_of_fragmentSet (h : fragmentSet c = false) : 0x20 < c.toNat :=
  lt_toNat_of_ne (Bool.or_eq_false_iff.mp h).1 (ne_of_set rfl h)

theorem visible_of_querySet (h : querySet c = false) : 0x20 < c.toNat :=
  lt_toNat_of_ne (Bool.or_eq_false_iff.mp h).1 (ne_of_set rfl h)

theorem visible_of_pathSet (h : pathSet c = false) : 0x20 < c.toNat :=
  visible_of_fragmentSet (Bool.or_eq_false_iff.mp h).1

theorem visible_of_userSet (h : userSet c = false) : 0x20 < c.toNat :=
  visible_of_pathSet (Bool.or_eq_false_iff.mp h).1

theorem not_endsAuthority_of_userSet (h : userSet c = false) : endsAuthority false c = false :=
  endsAuthority_eq_false_iff.mpr ⟨ne_of_set rfl h, ne_of_set rfl h, ne_of_set rfl h⟩

theorem visible_of_part (h : c.isAlphanum || c == '+' || c == '-' || c == '.') :
    0x20 < c.toNat := by
  have hall : ∀ n < 33, ¬ ((Char.ofNat n).isAlphanum || Char.ofNat n == '+' ||
      Char.ofNat n == '-' || Char.ofNat n == '.') := by decide
  by_contra hle
  apply hall c.toNat (by omega)
  rwa [Char.ofNat_toNat]

theorem ne_of_mem_toDigits {n : Nat} {d : Char} (h : c ∈ Nat.toDigits 10 n)
    (hd : d.isDigit = false) : c ≠ d := by
  rintro rfl
  have hdigit := Nat.isDigit_of_mem_toDigits (by decide) (by decide) h
  rw [hd] at hdigit
  cases hdigit

theorem visible_of_mem_toDigits {n : Nat} (h : c ∈ Nat.toDigits 10 n) : 0x20 < c.toNat := by
  have hdigit := Nat.isDigit_of_mem_toDigits (by decide) (by decide) h
  simp only [Char.isDigit, Bool.and_eq_true, decide_eq_true_eq] at hdigit
  have hlow : 48 ≤ c.toNat := UInt32.le_iff_toNat_le.mp hdigit.1
  omega

theorem dropWhile_of_visible {cs : List Char} (h : ∀ c ∈ cs.head?, 0x20 < c.toNat) :
    cs.dropWhile (·.toNat ≤ 0x20) = cs := by
  cases cs with
  | nil => rfl
  | cons c cs =>
    have hc := h c rfl
    rw [List.dropWhile_cons_of_neg (by simpa using hc)]

/-- A text that is visible at both ends is only freed from tabs and line breaks. -/
theorem tidy_of_ends {cs : List Char} (hfirst : ∀ c ∈ cs.head?, 0x20 < c.toNat)
    (hlast : ∀ c ∈ cs.getLast?, 0x20 < c.toNat) : tidy cs = cs.filter (!isDropped ·) := by
  -- the end is trimmed as the start of the text turned round
  rw [← List.head?_reverse] at hlast
  unfold tidy
  dsimp only
  rw [dropWhile_of_visible hfirst, dropWhile_of_visible hlast, List.reverse_reverse]

/-- A text of visible characters is tidy. -/
theorem tidy_of_visible {cs : List Char} (h : ∀ c ∈ cs, 0x20 < c.toNat) : tidy cs = cs := by
  rw [tidy_of_ends (fun c hc => h c (List.mem_of_mem_head? hc))
    (fun c hc => h c (List.mem_of_mem_getLast? hc)), List.filter_eq_self]
  intro c hc
  have hne {d : Char} (hd : d.toNat ≤ 0x20) : c ≠ d := by
    rintro rfl
    exact absurd (h c hc) (Nat.not_lt.mpr hd)
  simp [isDropped, hne (d := '\t') (by decide), hne (d := '\n') (by decide),
    hne (d := '\r') (by decide)]

end

section
variable {u : Url}

/-- A login has no character that ends the authority, and no blank. -/
theorem Settled.forall_mem_loginText (hu : u.Settled) :
    ∀ c ∈ u.loginText, endsAuthority false c = false ∧ 0x20 < c.toNat := by
  have hset {c : Char} (hc : userSet c = false) : endsAuthority false c = false ∧ 0x20 < c.toNat :=
    ⟨not_endsAuthority_of_userSet hc, visible_of_userSet hc⟩
  intro c hc
  rcases List.mem_append.mp hc with hc | hc
  · exact hset (hu.login.name c hc)
  · cases hpassword : u.password with
    | none =>
      rw [hpassword] at hc
      cases hc
    | some p =>
      rw [hpassword] at hc
      rcases List.mem_cons.mp hc with rfl | hc
      · decide
      · exact hset ((hu.login.password p hpassword).2 c hc)

/-- User name and password are read back from the login. -/
theorem Settled.login_parts (hu : u.Settled) :
    String.ofList (encodeWith userSet (u.loginText.takeWhile (· != ':'))) = u.username ∧
      passwordBehind? (u.loginText.dropWhile (· != ':')) = u.password := by
  have hname : ∀ c ∈ u.username.toList, (c != ':') = true := fun c hc =>
    bne_iff_ne.mpr (ne_of_set rfl (hu.login.name c hc))
  unfold loginText
  cases hpassword : u.password with
  | none =>
    have hnil : ∀ c ∈ ([] : List Char).head?, (c != ':') = false := fun c hc => by cases hc
    simp only [signed_none, takeWhile_span hname hnil,
      dropWhile_span hname hnil, encodeWith_of_forall hu.login.name, String.ofList_toList]
    exact ⟨trivial, rfl⟩
  | some p =>
    obtain ⟨hne, hset⟩ := hu.login.password p hpassword
    have hcolon : ∀ c ∈ (':' :: p.toList).head?, (c != ':') = false := fun c hc => by cases hc; rfl
    simp only [signed_some, takeWhile_span hname hcolon,
      dropWhile_span hname hcolon, encodeWith_of_forall hu.login.name, String.ofList_toList]
    rw [passwordBehind?, List.isEmpty_eq_false_iff.mpr hne, encodeWith_of_forall hset,
      String.ofList_toList]
    exact ⟨trivial, rfl⟩

/-- The login is read from what stands before the `@`. -/
theorem Settled.splitUser_text (hu : u.Settled) {rest tail : List Char}
    (hrest : ∀ c ∈ rest, endsAuthority false c = false ∧ c ≠ '@')
    (htail : ∀ c ∈ tail.head?, endsAuthority false c) :
    splitUser false (u.userText ++ (rest ++ tail)) =
      .ok (u.username, u.password, rest ++ tail) := by
  obtain ⟨hname, hpassword⟩ := hu.login_parts
  -- without a login there is no sign at all, for neither host nor port has one
  by_cases hlogin : u.loginText = []
  · rw [hlogin] at hname hpassword
    have hauthority : (rest ++ tail).takeWhile (!endsAuthority false ·) = rest := by
      refine takeWhile_span (fun c hc => ?_) (fun c hc => ?_)
      · rw [(hrest c hc).1]
        rfl
      · rw [htail c hc]
        rfl
    rw [← hname, ← hpassword, userText, if_pos hlogin, List.nil_append, splitUser_of_not_mem]
    · rfl
    · rw [hauthority]
      exact fun hmem => (hrest '@' hmem).2 rfl
  · have hends := fun c hc => (hu.forall_mem_loginText c hc).1
    have hsplit := splitUser_of_sign hlogin hends hrest htail
    rw [userText, if_neg hlogin, List.append_assoc, List.singleton_append, hsplit, hname, hpassword]

end

/-! ### The end -/

section
variable {u : Url}

/-- Path, query and fragment are read back from the end of the text. -/
theorem Settled.tail_ofText (hu : u.Settled) : Tail.ofText u.tailText =
    ⟨u.path.toList, u.query.map String.toList, u.fragment.map String.toList⟩ := by
  have hfragment : ∀ c ∈ (signed '#' u.fragment).head?, (c != '#') = false := by
    intro c hc
    rw [head?_signed c hc]
    rfl
  have hquery : ∀ c ∈ (signed '?' u.query).head?, (c != '?') = false := by
    intro c hc
    rw [head?_signed c hc]
    rfl
  have hpath : ∀ c ∈ u.path.toList, (c != '?') = true := fun c hc =>
    bne_iff_ne.mpr (ne_of_set rfl (hu.path.encoded c hc))
  have hbefore : ∀ c ∈ u.path.toList ++ signed '?' u.query, (c != '#') = true := by
    intro c hc
    rw [bne_iff_ne]
    rcases List.mem_append.mp hc with hc | hc
    · exact ne_of_set rfl (hu.path.encoded c hc)
    · rcases mem_signed hc with rfl | ⟨q, hq, hc⟩
      · decide
      · exact ne_of_set rfl (hu.query q hq c hc)
  -- the reader cuts at the first hash and then at the first question mark
  unfold Tail.ofText tailText
  rw [← List.append_assoc, takeWhile_span hbefore hfragment, dropWhile_span hbefore hfragment]
  simp only [takeWhile_span hpath hquery, dropWhile_span hpath hquery]
  cases u.query <;> cases u.fragment <;> rfl

/-- Behind the authority stands a slash, a question mark or a hash, if anything. -/
theorem Settled.head?_tailText (hu : u.Settled) :
    ∀ c ∈ u.tailText.head?, c = '/' ∨ c = '?' ∨ c = '#' := by
  intro c hc
  rw [tailText, List.head?_append, List.head?_append] at hc
  rcases Option.or_eq_some_iff.mp hc with hc | ⟨-, hc⟩
  · exact .inl (hu.path.head? c hc)
  rcases Option.or_eq_some_iff.mp hc with hc | ⟨-, hc⟩
  · exact .inr (.inl (head?_signed c hc))
  · exact .inr (.inr (head?_signed c hc))

theorem Settled.visible_tailText (hu : u.Settled) : ∀ c ∈ u.tailText, 0x20 < c.toNat := by
  intro c hc
  rcases List.mem_append.mp hc with hc | hc
  · exact visible_of_pathSet (hu.path.encoded c hc)
  rcases List.mem_append.mp hc with hc | hc
  · rcases mem_signed hc with rfl | ⟨q, hq, hc⟩
    · decide
    · exact visible_of_querySet (hu.query q hq c hc)
  · rcases mem_signed hc with rfl | ⟨f, hf, hc⟩
    · decide
    · exact visible_of_fragmentSet (hu.fragment f hf c hc)

/-! ### Whole URLs -/

theorem toList_toString_nat (n : Nat) : (toString n).toList = Nat.toDigits 10 n := by
  rw [Nat.toString_eq_repr, Nat.repr_eq_ofList_toDigits, String.toList_ofList]

/-- A port with its colon is read up to what ends the authority. -/
theorem portBehind_signed {port : Option Nat} (hport : ∀ n ∈ port, n ≤ 65535) {r : List Char}
    (hr : ∀ c ∈ r.head?, c = '/' ∨ c = '?' ∨ c = '#') :
    portBehind (signed ':' (port.map toString) ++ r) = .ok (port, r) := by
  cases port with
  | none =>
    rcases portBehind_cases r with ⟨rest, rfl⟩ | ⟨-, hnone⟩
    · exact absurd (hr ':' rfl) (by decide)
    · exact hnone
  | some n =>
    rw [Option.map_some, signed_some, toList_toString_nat]
    exact readPort_toDigits (hport n rfl) hr

theorem mem_portText {port : Option Nat} {c : Char} (h : c ∈ signed ':' (port.map toString)) :
    endsAuthority false c = false ∧ c ≠ '@' ∧ 0x20 < c.toNat := by
  rcases mem_signed h with rfl | ⟨s, hs, hc⟩
  · decide
  · obtain ⟨n, -, rfl⟩ := Option.map_eq_some_iff.mp hs
    rw [toList_toString_nat] at hc
    have hne {d : Char} (hd : d.isDigit = false) : c ≠ d := ne_of_mem_toDigits hc hd
    exact ⟨endsAuthority_eq_false_iff.mpr ⟨hne rfl, hne rfl, hne rfl⟩, hne rfl,
      visible_of_mem_toDigits hc⟩

theorem defaultPort?_of_not_special {scheme : String} (h : isSpecial scheme = false) :
    defaultPort? scheme = none := by
  have hnone := (Bool.or_eq_false_iff.mp h).2
  rw [List.any_eq_false] at hnone
  rw [defaultPort?, Option.map_eq_none_iff, List.find?_eq_none]
  intro s hs
  simpa using hnone s hs

theorem map_encodeWith_toList {mustEncode : Char → Bool} {part : Option String}
    (h : ∀ s ∈ part, ∀ c ∈ s.toList, mustEncode c = false) :
    (part.map String.toList).map (fun cs => String.ofList (encodeWith mustEncode cs)) = part := by
  cases part with
  | none => rfl
  | some s => simp [encodeWith_of_forall (h s rfl)]

/-- The end of a settled URL gives its parts back. -/
theorem Settled.ending_tailText (hu : u.Settled) :
    ending u.scheme u.username u.password u.host u.port u.tailText = u := by
  have hport : (if u.port = none then none else u.port) = u.port := by
    split
    · next hnone => exact hnone.symm
    · rfl
  rw [ending, hu.tail_ofText, defaultPort?_of_not_special hu.special]
  simp only [map_encodeWith_toList hu.query, map_encodeWith_toList hu.fragment,
    readPath_of_isPath hu.path, String.ofList_toList, hport]
  rw [← hu.hierarchical]

/-- Behind the scheme, the text of a settled URL with an opaque host is read back. -/
theorem Settled.readAuthority_text (hu : u.Settled) {h : Host} (hhost : u.host = some h)
    (ho : h.Opaque) : readAuthority u.scheme (u.userText ++
      (h.text.toList ++ (signed ':' (u.port.map toString) ++ u.tailText))) = .ok u := by
  have hstop : ∀ c ∈ u.tailText.head?, endsAuthority false c := by
    intro c hc
    rcases hu.head?_tailText c hc with rfl | rfl | rfl <;> rfl
  have hauthority : ∀ c ∈ h.text.toList ++ signed ':' (u.port.map toString),
      endsAuthority false c = false ∧ c ≠ '@' := by
    intro c hc
    rcases List.mem_append.mp hc with hc | hc
    · exact ⟨(forall_mem_text ho c hc).1, (forall_mem_text ho c hc).2.1⟩
    · exact ⟨(mem_portText hc).1, (mem_portText hc).2.1⟩
  have hbehind : ∀ c ∈ (signed ':' (u.port.map toString) ++ u.tailText).head?,
      endsAuthority false c ∨ c = ':' := by
    intro c hc
    rw [List.head?_append] at hc
    rcases Option.or_eq_some_iff.mp hc with hc | ⟨-, hc⟩
    · exact .inr (head?_signed c hc)
    · exact .inl (hstop c hc)
  have hsplit := hu.splitUser_text hauthority hstop
  have hport := portBehind_signed hu.port hu.head?_tailText
  have hread : hostBefore h.text.toList (signed ':' (u.port.map toString) ++ u.tailText) =
      .ok (some h) := by
    rw [hostBefore, List.isEmpty_eq_false_iff.mpr ho.text_ne_nil, parseOpaqueHost_text ho]
    rfl
  rw [List.append_assoc] at hsplit
  rw [readAuthority_eq hu.special, hsplit]
  simp only [bind, Except.bind, splitHost_text ho hbehind, hread, hport, Option.isNone_some,
    Bool.false_and, Bool.false_eq_true, if_false]
  rw [← hhost, hu.ending_tailText]
  rfl

/-- The text of a settled URL has no blanks, so that none are trimmed off. -/
theorem Settled.visible_toText (hu : u.Settled) : ∀ c ∈ u.toText.toList, 0x20 < c.toNat := by
  obtain ⟨h, hhost, ho⟩ := hu.host
  rw [toList_toText hhost]
  simp only [List.forall_mem_append, List.forall_mem_cons]
  refine ⟨fun c hc => visible_of_part (hu.scheme.part c hc).1, by decide, by decide, by decide,
    ?_, fun c hc => (forall_mem_text ho c hc).2.2, fun c hc => (mem_portText hc).2.2,
    hu.visible_tailText⟩
  intro c hc
  unfold userText at hc
  split at hc
  · cases hc
  rcases List.mem_append.mp hc with hc | hc
  · exact (hu.forall_mem_loginText c hc).2
  · rw [List.mem_singleton.mp hc]
    decide

/-- A settled URL is read from its text. -/
theorem Settled.parse_toText (hu : u.Settled) : parse u.toText = .ok u := by
  obtain ⟨h, hhost, ho⟩ := hu.host
  have hfile : u.scheme ≠ "file" := by
    intro hfile
    have hspecial := hu.special
    rw [hfile] at hspecial
    cases hspecial
  -- two slashes behind the scheme, which is not special, lead to the authority
  rw [parse, tidy_of_visible hu.visible_toText, toList_toText hhost, scheme?_append hu.scheme]
  simp only [hfile, hu.special, if_false, Bool.false_eq_true]
  exact hu.readAuthority_text hhost ho

end

/-! ### What is read -/

/-- An encoded part has no character that must be encoded. -/
theorem forall_of_map_encodeWith {mustEncode : Char → Bool} (h : Spares mustEncode)
    {part : Option (List Char)} :
    ∀ s ∈ part.map (fun cs => String.ofList (encodeWith mustEncode cs)),
      ∀ c ∈ s.toList, mustEncode c = false := by
  intro s hs
  obtain ⟨cs, -, rfl⟩ := Option.map_eq_some_iff.mp hs
  rw [String.toList_ofList]
  exact forall_encodeWith h cs

/-- What is read is settled, if the scheme is not special and there is a host. -/
theorem settled_of_readAuthority {scheme : String} {cs : List Char} {u : Url}
    (hscheme : IsScheme scheme) (hspecial : isSpecial scheme = false)
    (h : readAuthority scheme cs = .ok u) (hhost : u.host.isSome) : u.Settled := by
  obtain ⟨name, password, rest, host, port, tail, hlogin, hread, hport, rfl⟩ :=
    exists_of_readAuthority hspecial h
  obtain ⟨found, rfl⟩ := Option.isSome_iff_exists.mp hhost
  refine ⟨hscheme, hspecial, rfl, isLogin_of_splitUser hlogin,
    ⟨found, rfl, opaque_of_hostBefore hread⟩, ?_, isPath_readPath _,
    forall_of_map_encodeWith spares_querySet, forall_of_map_encodeWith spares_fragmentSet⟩
  intro n hn
  apply le_of_portBehind hport n
  dsimp only [ending] at hn
  split at hn
  · cases hn
  · exact hn

/-! ### What is changed -/

section
variable {u : Url}

theorem Settled.withLogin (hu : u.Settled) {name : String} {password : Option String}
    (h : IsLogin name password) : Settled { u with username := name, password := password } :=
  { hu with login := h }

theorem Settled.withPath (hu : u.Settled) (path : String) : (u.withPath path).Settled := by
  unfold Url.withPath
  dsimp only
  rw [hu.special]
  split
  · exact { hu with path := .empty }
  · exact { hu with path := isPath_readPath _ }

end

end CommandAgent.Url
