import CommandAgent.Proofs.Url.Host

/-!
# Authorities of URLs

Where the scheme is not special, the part of a URL between its slashes and its path is read in
stages: the login, the host, the port (`readAuthority_eq`). Each stage ends at signs that what it
reads does not hold, so what is read can be told from how a text is put together
(`splitUser_of_sign`, `splitHost_text`, `portBehind_signed`).
-/

namespace CommandAgent.Url

/-! ### Spans -/

section
variable {p : Char → Bool} {cs r : List Char}

theorem takeWhile_span (hcs : ∀ c ∈ cs, p c = true) (hr : ∀ c ∈ r.head?, p c = false) :
    (cs ++ r).takeWhile p = cs := by
  rw [List.takeWhile_append_of_pos hcs]
  cases r with
  | nil => exact List.append_nil cs
  | cons c r => rw [List.takeWhile_cons_of_neg (by rw [hr c rfl]; decide), List.append_nil]

theorem dropWhile_span (hcs : ∀ c ∈ cs, p c = true) (hr : ∀ c ∈ r.head?, p c = false) :
    (cs ++ r).dropWhile p = r := by
  rw [List.dropWhile_append_of_pos hcs]
  cases r with
  | nil => rfl
  | cons c r => rw [List.dropWhile_cons_of_neg (by rw [hr c rfl]; decide)]

end

/-! ### The user -/

theorem splitUser_of_not_mem {cs : List Char} (h : '@' ∉ cs.takeWhile (!endsAuthority false ·)) :
    splitUser false cs = .ok ("", none, cs) := by
  have hnone : (cs.takeWhile (!endsAuthority false ·)).contains '@' = false := by
    rw [List.contains_eq_mem, decide_eq_false_iff_not]
    exact h
  unfold splitUser
  simp only [hnone, Bool.false_eq_true, if_false]

/-- The password behind a colon, unless it is empty. -/
def passwordBehind? : List Char → Option String
  | _ :: p => if p.isEmpty then none else some (String.ofList (encodeWith userSet p))
  | [] => none

section
variable {login rest tail : List Char}

/-- The authority goes on over the `@` of a login, up to the first character that ends it. -/
theorem takeWhile_of_sign (hlogin : ∀ c ∈ login, endsAuthority false c = false)
    (hrest : ∀ c ∈ rest, endsAuthority false c = false ∧ c ≠ '@')
    (htail : ∀ c ∈ tail.head?, endsAuthority false c) :
    (login ++ '@' :: (rest ++ tail)).takeWhile (!endsAuthority false ·) = login ++ '@' :: rest ∧
      (login ++ '@' :: (rest ++ tail)).dropWhile (!endsAuthority false ·) = tail := by
  have hends : ∀ c ∈ login ++ '@' :: rest, (!endsAuthority false c) = true := by
    intro c hc
    rw [Bool.not_eq_true']
    rcases List.mem_append.mp hc with hc | hc
    · exact hlogin c hc
    rcases List.mem_cons.mp hc with rfl | hc
    · rfl
    · exact (hrest c hc).1
  have hstop : ∀ c ∈ tail.head?, (!endsAuthority false c) = false := by
    intro c hc
    rw [htail c hc]
    rfl
  rw [← List.cons_append, ← List.append_assoc]
  exact ⟨takeWhile_span hends hstop, dropWhile_span hends hstop⟩

/-- The last `@` before the host is where the login ends. -/
theorem splitUser_of_sign (hne : login ≠ []) (hlogin : ∀ c ∈ login, endsAuthority false c = false)
    (hrest : ∀ c ∈ rest, endsAuthority false c = false ∧ c ≠ '@')
    (htail : ∀ c ∈ tail.head?, endsAuthority false c) :
    splitUser false (login ++ '@' :: (rest ++ tail)) =
      .ok (String.ofList (encodeWith userSet (login.takeWhile (· != ':'))),
        passwordBehind? (login.dropWhile (· != ':')), rest ++ tail) := by
  obtain ⟨hauthority, hbehind⟩ := takeWhile_of_sign hlogin hrest htail
  have hsign : ∀ c ∈ rest.reverse, (c != '@') = true := fun c hc =>
    bne_iff_ne.mpr (hrest c (List.mem_reverse.mp hc)).2
  have hhead : ∀ c ∈ ('@' :: login.reverse).head?, (c != '@') = false := by
    intro c hc
    cases hc
    rfl
  have hsome : (login ++ '@' :: rest).contains '@' = true := by simp
  -- the reader looks for the last sign, so it turns the text round
  have hreverse : (login ++ '@' :: rest).reverse = rest.reverse ++ '@' :: login.reverse := by simp
  have hempty : login.isEmpty = false := List.isEmpty_eq_false_iff.mpr hne
  unfold splitUser
  rw [hauthority, hbehind]
  simp only [hsome, hreverse, takeWhile_span hsign hhead, dropWhile_span hsign hhead, if_true,
    List.drop_one, List.tail_cons, List.reverse_reverse, hempty, Bool.false_eq_true, if_false]
  cases login.dropWhile (· != ':') <;> rfl

end

/-- A login with nothing left to be encoded and no empty password. -/
structure IsLogin (name : String) (password : Option String) : Prop where
  name : ∀ c ∈ name.toList, userSet c = false
  password : ∀ p ∈ password, p.toList ≠ [] ∧ ∀ c ∈ p.toList, userSet c = false

theorem forall_ofList_encodeWith (cs : List Char) :
    ∀ c ∈ (String.ofList (encodeWith userSet cs)).toList, userSet c = false := by
  rw [String.toList_ofList]
  exact forall_encodeWith spares_userSet cs

theorem isLogin_empty : IsLogin "" none where
  name := fun c hc => absurd hc List.not_mem_nil
  password := fun p hp => by cases hp

/-- What is read as a login is one. -/
theorem isLogin_of_splitUser {cs rest : List Char} {name : String} {password : Option String}
    (h : splitUser false cs = .ok (name, password, rest)) : IsLogin name password := by
  unfold splitUser at h
  dsimp only at h
  split at h
  · split at h
    · split at h
      · cases h
      · cases h
        exact isLogin_empty
    · cases h
      refine ⟨forall_ofList_encodeWith _, fun p hp => ?_⟩
      split at hp
      · split at hp
        · cases hp
        · next hne =>
          cases hp
          refine ⟨fun hnil => hne ?_, forall_ofList_encodeWith _⟩
          rw [String.toList_ofList] at hnil
          rw [encodeWith_eq_nil_iff.mp hnil]
          rfl
      · cases hp
  · cases h
    exact isLogin_empty

/-! ### The port -/

/-- A port is read up to what ends the authority. -/
theorem readPort_toDigits {n : Nat} (hn : n ≤ 65535) {r : List Char}
    (hr : ∀ c ∈ r.head?, c = '/' ∨ c = '?' ∨ c = '#') :
    readPort (Nat.toDigits 10 n ++ r) = .ok (some n, r) := by
  have hdigits : ∀ c ∈ Nat.toDigits 10 n, c.isDigit = true := fun c hc =>
    Nat.isDigit_of_mem_toDigits (by decide) (by decide) hc
  have hstop : ∀ c ∈ r.head?, c.isDigit = false := by
    intro c hc
    rcases hr c hc with rfl | rfl | rfl <;> rfl
  have hvalue : (Nat.toDigits 10 n).foldl (fun n c => n * 10 + (c.toNat - 48)) 0 = n := by
    have hzero : '0'.toNat = 48 := rfl
    have hread := Nat.ofDigitChars_toDigits (b := 10) (n := n) (by decide) (by decide)
    simpa only [Nat.ofDigitChars, Nat.mul_comm, hzero] using hread
  have hempty : (Nat.toDigits 10 n).isEmpty = false :=
    List.isEmpty_eq_false_iff.mpr Nat.toDigits_ne_nil
  unfold readPort
  rw [takeWhile_span hdigits hstop, dropWhile_span hdigits hstop]
  simp only [hvalue, Nat.not_lt.mpr hn, if_false, hempty, Bool.false_eq_true]
  cases r with
  | nil => rfl
  | cons c r =>
    have hc : c = '/' ∨ c = '\\' ∨ c = '?' ∨ c = '#' := by
      rcases hr c rfl with h | h | h
      · exact .inl h
      · exact .inr (.inr (.inl h))
      · exact .inr (.inr (.inr h))
    simp only [hc, if_true]

/-- A port that is read fits into 16 bits. -/
theorem le_of_readPort {cs rest : List Char} {port : Option Nat}
    (h : readPort cs = .ok (port, rest)) : ∀ n ∈ port, n ≤ 65535 := by
  unfold readPort at h
  dsimp only at h
  generalize (cs.takeWhile Char.isDigit).foldl (fun n c => n * 10 + (c.toNat - 48)) 0 = value at h
  split at h
  · cases h
  · next hle =>
    have hport : ∀ n ∈ (if (cs.takeWhile Char.isDigit).isEmpty then none else some value),
        n ≤ 65535 := by
      intro n hn
      split at hn
      · cases hn
      · cases hn
        exact Nat.not_lt.mp hle
    split at h
    · split at h
      · cases h
        exact hport
      · cases h
    · cases h
      exact hport

/-- The port behind a colon, and what follows. -/
def portBehind : List Char → Except Fault (Option Nat × List Char)
  | ':' :: rest => readPort rest
  | cs => .ok (none, cs)

/-- Where there is no colon, there is no port. -/
theorem portBehind_cases (cs : List Char) :
    (∃ rest, cs = ':' :: rest) ∨
      (∀ rest, cs = ':' :: rest → False) ∧ portBehind cs = .ok (none, cs) := by
  unfold portBehind
  split
  · exact .inl ⟨_, rfl⟩
  · next hcolon => exact .inr ⟨hcolon, rfl⟩

theorem le_of_portBehind {cs rest : List Char} {port : Option Nat}
    (h : portBehind cs = .ok (port, rest)) : ∀ n ∈ port, n ≤ 65535 := by
  unfold portBehind at h
  split at h
  · exact le_of_readPort h
  · cases h
    exact fun n hn => by cases hn

/-! ### The stages -/

/-- The host before a text, if there is one. -/
def hostBefore (cs rest : List Char) : Except Fault (Option Host) :=
  if cs.isEmpty then
    if rest.head? == some ':' then .error .emptyHost else .ok none
  else (parseOpaqueHost cs).map some

/-- A host that is read without a special scheme is opaque. -/
theorem opaque_of_hostBefore {cs rest : List Char} {h : Host}
    (hread : hostBefore cs rest = .ok (some h)) : h.Opaque := by
  unfold hostBefore at hread
  split at hread
  · split at hread <;> cases hread
  · next hne =>
    obtain ⟨host, hhost, heq⟩ := Json.map_eq_ok hread
    cases heq
    exact opaque_of_parseOpaqueHost (fun hnil => hne (by rw [hnil]; rfl)) hhost

/-- The URL with these parts before its end. -/
def ending (scheme name : String) (password : Option String) (host : Option Host)
    (port : Option Nat) (cs : List Char) : Url where
  scheme := scheme
  hierarchical := true
  username := name
  password := password
  host := host
  port := if port = defaultPort? scheme then none else port
  path := readPath false (Tail.ofText cs).path
  query := (Tail.ofText cs).query.map fun q => String.ofList (encodeWith querySet q)
  fragment := (Tail.ofText cs).fragment.map fun f => String.ofList (encodeWith fragmentSet f)

/-- Without a special scheme the authority is a login, a host and a port, in this order. -/
theorem readAuthority_eq {scheme : String} (h : isSpecial scheme = false) (cs : List Char) :
    readAuthority scheme cs = do
      let login ← splitUser false cs
      let parts := splitHost false false login.2.2
      let host ← hostBefore parts.1 parts.2
      if host.isNone && (login.1 != "" || login.2.1.isSome) then throw .emptyHost
      else
        let port ← portBehind parts.2
        return ending scheme login.1 login.2.1 host port.1 port.2 := by
  unfold readAuthority
  simp only [h, bind, Except.bind]
  cases splitUser false cs with
  | error e => rfl
  | ok login =>
    obtain ⟨name, password, rest⟩ := login
    simp only
    obtain ⟨hostText, after⟩ := splitHost false false rest
    simp only [hostBefore]
    -- where there is no host text the next character decides, elsewhere the host is read;
    -- behind both the port is read, if there is a colon
    cases hempty : hostText.isEmpty with
    | true =>
      simp only [if_true, Bool.false_or]
      split
      · rfl
      · simp only [pure, Except.pure, Option.isNone_none, Bool.true_and]
        split
        · rfl
        · rcases portBehind_cases after with ⟨rest, rfl⟩ | ⟨hcolon, hport⟩
          · rfl
          · rw [hport]
            split
            · exact (hcolon _ rfl).elim
            · rfl
    | false =>
      simp only [Bool.false_eq_true, if_false]
      cases parseOpaqueHost hostText with
      | error e => rfl
      | ok host =>
        simp only [Except.map, Option.isNone_some, Bool.false_and, Bool.false_eq_true, if_false]
        rcases portBehind_cases after with ⟨rest, rfl⟩ | ⟨hcolon, hport⟩
        · rfl
        · rw [hport]
          split
          · exact (hcolon _ rfl).elim
          · rfl

/-- What is read has come through all stages. -/
theorem exists_of_readAuthority {scheme : String} (hspecial : isSpecial scheme = false)
    {cs : List Char} {u : Url} (h : readAuthority scheme cs = .ok u) :
    ∃ name password rest host port tail, splitUser false cs = .ok (name, password, rest) ∧
      hostBefore (splitHost false false rest).1 (splitHost false false rest).2 = .ok host ∧
      portBehind (splitHost false false rest).2 = .ok (port, tail) ∧
      u = ending scheme name password host port tail := by
  rw [readAuthority_eq hspecial] at h
  obtain ⟨⟨name, password, rest⟩, hlogin, h⟩ := Json.bind_eq_ok h
  obtain ⟨host, hread, h⟩ := Json.bind_eq_ok h
  split at h
  · cases h
  · obtain ⟨⟨port, tail⟩, hport, h⟩ := Json.bind_eq_ok h
    cases h
    exact ⟨name, password, rest, host, port, tail, hlogin, hread, hport, rfl⟩

end CommandAgent.Url
