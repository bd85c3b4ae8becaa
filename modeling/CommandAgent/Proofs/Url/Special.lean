import CommandAgent.Proofs.Url.RoundTrip

/-!
# Authorities before any end

Where the scheme is special, the authority of a URL is read from what stands before the first slash,
question mark or hash, and nothing behind it matters (`readAuthority_append`): with another end, the
same scheme, login, host and port are read, and the path, query and fragment of the new end.

The stages of the reader are followed one by one. Each leaves the end to the next as it found it.
-/

namespace CommandAgent.Url

/-! ### Ends -/

/-- A text that may stand behind an authority: it is empty or starts with what ends one. -/
def IsEnd (special : Bool) (tail : List Char) : Prop := ∀ c ∈ tail.head?, endsAuthority special c

theorem isEnd_nil (special : Bool) : IsEnd special [] := by
  intro c hc
  cases hc

theorem IsEnd.append {special : Bool} {cs tail : List Char} (hcs : IsEnd special cs)
    (htail : IsEnd special tail) : IsEnd special (cs ++ tail) := by
  cases cs with
  | nil => exact htail
  | cons c cs => exact hcs

theorem ends_iff {c : Char} :
    endsAuthority true c ↔ c = '/' ∨ c = '?' ∨ c = '#' ∨ c = '\\' := by
  simp [endsAuthority, or_assoc]

/-- What ends an authority stands in no name, address or port. -/
theorem ne_of_endsAuthority {special : Bool} {c d : Char} (h : endsAuthority special c)
    (hd : endsAuthority special d = false) : c ≠ d := by
  rintro rfl
  rw [hd] at h
  cases h

section
variable {special : Bool} {cs tail : List Char}

/-- The text before an end, and the end. -/
theorem span_end (hcs : ∀ c ∈ cs, endsAuthority special c = false) (htail : IsEnd special tail) :
    (cs ++ tail).takeWhile (!endsAuthority special ·) = cs ∧
      (cs ++ tail).dropWhile (!endsAuthority special ·) = tail := by
  have hkept : ∀ c ∈ cs, (!endsAuthority special c) = true := by
    intro c hc
    rw [hcs c hc]
    rfl
  have hstop : ∀ c ∈ tail.head?, (!endsAuthority special c) = false := by
    intro c hc
    rw [htail c hc]
    rfl
  exact ⟨takeWhile_span hkept hstop, dropWhile_span hkept hstop⟩

/-! ### Stages -/

/-- A text with nothing before its last sign and nothing behind it is that sign. -/
theorem eq_sign_of_empty {cs : List Char} (hsign : '@' ∈ cs)
    (huser : (cs.reverse.dropWhile (· != '@')).drop 1 = [])
    (hhost : cs.reverse.takeWhile (· != '@') = []) : cs = ['@'] := by
  have hwhole := cs.reverse.takeWhile_append_dropWhile (p := (· != '@'))
  rw [hhost, List.nil_append] at hwhole
  rw [hwhole] at huser
  cases hreverse : cs.reverse with
  | nil =>
    rw [List.reverse_eq_nil_iff.mp hreverse] at hsign
    cases hsign
  | cons c rest =>
    rw [hreverse] at huser
    have hrest : rest = [] := huser
    have hmem : '@' ∈ cs.reverse := List.mem_reverse.mpr hsign
    rw [hreverse, hrest, List.mem_singleton] at hmem
    rw [← List.reverse_reverse cs, hreverse, hrest, hmem]
    rfl

/-- The login does not depend on the end. Only where there is nothing before and nothing behind the
`@` it does, but then there is no host either. -/
theorem splitUser_append (hcs : ∀ c ∈ cs, endsAuthority special c = false)
    (htail : IsEnd special tail) (hne : cs ≠ ['@']) :
    splitUser special (cs ++ tail) =
      (splitUser special cs).map fun login => (login.1, login.2.1, login.2.2 ++ tail) := by
  obtain ⟨htake, hdrop⟩ := span_end hcs htail
  obtain ⟨htake', hdrop'⟩ := span_end hcs (isEnd_nil special)
  rw [List.append_nil] at htake' hdrop'
  unfold splitUser
  dsimp only
  rw [htake, hdrop, htake', hdrop']
  split
  · next hsign =>
    have hsign : '@' ∈ cs := by simpa using hsign
    split
    · next huser =>
      have hhost : (cs.reverse.takeWhile (· != '@')).reverse.isEmpty = false := by
        rw [List.isEmpty_eq_false_iff]
        intro hempty
        refine hne (eq_sign_of_empty hsign ?_ (List.reverse_eq_nil_iff.mp hempty))
        exact List.reverse_eq_nil_iff.mp (List.isEmpty_iff.mp huser)
      simp [hhost, Except.map]
    · simp [Except.map]
  · rfl

/-- What follows the authority does not change where the host ends. -/
theorem splitHost_append (hcs : ∀ c ∈ cs, endsAuthority special c = false)
    (htail : IsEnd special tail) (bracket : Bool) :
    splitHost special bracket (cs ++ tail) =
      ((splitHost special bracket cs).1, (splitHost special bracket cs).2 ++ tail) := by
  induction cs generalizing bracket with
  | nil =>
    cases tail with
    | nil => rfl
    | cons c tail =>
      have hc : endsAuthority special c = true := htail c rfl
      have hstop : endsAuthority special c = true ∨ (c = ':' ∧ ¬ bracket = true) := .inl hc
      show splitHost special bracket (c :: tail) = ([], c :: tail)
      rw [splitHost, if_pos hstop]
  | cons c cs ih =>
    obtain ⟨hc, hcs⟩ := List.forall_mem_cons.mp hcs
    rw [List.cons_append, splitHost, splitHost]
    split
    · rfl
    · dsimp only
      rw [ih hcs]

/-- Behind the host stands nothing or a port. -/
theorem splitHost_behind (hcs : ∀ c ∈ cs, endsAuthority special c = false) (bracket : Bool) :
    (splitHost special bracket cs).2 = [] ∨
      ∃ rest, (splitHost special bracket cs).2 = ':' :: rest ∧
        ∀ c ∈ rest, endsAuthority special c = false := by
  induction cs generalizing bracket with
  | nil => exact .inl rfl
  | cons c cs ih =>
    obtain ⟨hc, hrest⟩ := List.forall_mem_cons.mp hcs
    rw [splitHost]
    split
    · next hstop =>
      rcases hstop with hends | ⟨rfl, -⟩
      · rw [hc] at hends
        cases hends
      · exact .inr ⟨cs, rfl, hrest⟩
    · exact ih hrest _

/-- Where a text does not go on as it was, what comes behind it is not looked at. -/
theorem span_append {p : Char → Bool} (cs : List Char) (htail : ∀ c ∈ tail.head?, p c = false) :
    (cs ++ tail).takeWhile p = cs.takeWhile p ∧
      (cs ++ tail).dropWhile p = cs.dropWhile p ++ tail := by
  induction cs with
  | nil => exact ⟨takeWhile_span (fun c hc => by cases hc) htail,
      dropWhile_span (fun c hc => by cases hc) htail⟩
  | cons c cs ih =>
    rw [List.cons_append, List.takeWhile_cons, List.dropWhile_cons, List.takeWhile_cons,
      List.dropWhile_cons]
    split
    · exact ⟨congrArg (c :: ·) ih.1, ih.2⟩
    · exact ⟨rfl, rfl⟩

/-- A port is read up to an end. -/
theorem readPort_append (hcs : ∀ c ∈ cs, endsAuthority true c = false) (htail : IsEnd true tail) :
    readPort (cs ++ tail) = (readPort cs).map fun port => (port.1, tail) := by
  have hdigit : ∀ c ∈ tail.head?, c.isDigit = false := by
    intro c hc
    rcases ends_iff.mp (htail c hc) with rfl | rfl | rfl | rfl <;> rfl
  obtain ⟨htake, hdrop⟩ := span_append cs hdigit
  unfold readPort
  dsimp only
  rw [htake, hdrop]
  split
  · rfl
  cases hrest : cs.dropWhile Char.isDigit with
  | nil =>
    -- the digits go up to the end, which may follow
    cases tail with
    | nil => rfl
    | cons d tail =>
      have hd : d = '/' ∨ d = '\\' ∨ d = '?' ∨ d = '#' := by
        rcases ends_iff.mp (htail d rfl) with h | h | h | h <;> simp [h]
      simp only [List.nil_append, hd, if_true]
      rfl
  | cons c rest =>
    -- what follows the digits ends nothing
    have hmem : c ∈ cs := (List.dropWhile_suffix Char.isDigit).subset (by rw [hrest]; simp)
    have hc : ¬ (c = '/' ∨ c = '\\' ∨ c = '?' ∨ c = '#') := by
      intro h
      have hends : endsAuthority true c := by rcases h with rfl | rfl | rfl | rfl <;> rfl
      rw [hcs c hmem] at hends
      cases hends
    simp only [List.cons_append, hc, if_false]
    rfl

/-- A port and its colon are read up to an end. -/
theorem portBehind_append (hcs : ∀ c ∈ cs, endsAuthority true c = false) (htail : IsEnd true tail)
    (hport : cs = [] ∨ ∃ rest, cs = ':' :: rest) :
    portBehind (cs ++ tail) = (portBehind cs).map fun port => (port.1, tail) := by
  rcases hport with rfl | ⟨rest, rfl⟩
  · rcases portBehind_cases tail with ⟨rest, rfl⟩ | ⟨-, hnone⟩
    · exact absurd (htail ':' rfl) (by decide)
    · rw [List.nil_append, hnone]
      rfl
  · exact readPort_append (List.forall_mem_cons.mp hcs).2 htail

/-- What is left behind a login comes from the text. -/
theorem mem_of_splitUser {c : Char} {name : String} {password : Option String} {rest : List Char}
    (hcs : ∀ c ∈ cs, endsAuthority special c = false)
    (h : splitUser special cs = .ok (name, password, rest)) (hc : c ∈ rest) : c ∈ cs := by
  obtain ⟨htake, hdrop⟩ := span_end hcs (isEnd_nil special)
  rw [List.append_nil] at htake hdrop
  have hhost {d : Char} (hd : d ∈ (cs.reverse.takeWhile (· != '@')).reverse ++ []) : d ∈ cs := by
    rw [List.append_nil, List.mem_reverse] at hd
    exact List.mem_reverse.mp ((List.takeWhile_prefix _).subset hd)
  unfold splitUser at h
  dsimp only at h
  rw [htake, hdrop] at h
  split at h
  · split at h
    · split at h
      · cases h
      · cases h
        exact hhost hc
    · cases h
      exact hhost hc
  · cases h
    exact hc

end

/-! ### The authority -/

/-- The host of a URL with a special scheme; there must be one. -/
def someHost (cs : List Char) : Except Fault Host :=
  if cs.isEmpty then .error .emptyHost else parseHost cs

/-- A URL with nothing behind its authority. -/
def server (scheme name : String) (password : Option String) (host : Host) (port : Option Nat) :
    Url where
  scheme := scheme
  hierarchical := true
  username := name
  password := password
  host := some host
  port := if port = defaultPort? scheme then none else port
  path := ""
  query := none
  fragment := none

/-- The URL with the path, query and fragment of an end. -/
def withEnd (u : Url) (tail : List Char) : Url :=
  { u with
    path := readPath true (Tail.ofText tail).path
    query := (Tail.ofText tail).query.map fun q => String.ofList (encodeWith specialQuerySet q)
    fragment := (Tail.ofText tail).fragment.map fun f => String.ofList (encodeWith fragmentSet f) }

section
variable {scheme : String}

/-- The stages of the reader, where the scheme is special. -/
theorem readAuthority_special (h : isSpecial scheme = true) (cs : List Char) :
    readAuthority scheme cs = do
      let login ← splitUser true cs
      let parts := splitHost true false login.2.2
      let host ← someHost parts.1
      let port ← portBehind parts.2
      return (server scheme login.1 login.2.1 host port.1).withEnd port.2 := by
  unfold readAuthority
  simp only [h, bind, Except.bind]
  cases splitUser true cs with
  | error e => rfl
  | ok login =>
    obtain ⟨name, password, rest⟩ := login
    simp only
    obtain ⟨hostText, after⟩ := splitHost true false rest
    simp only [someHost]
    cases hempty : hostText.isEmpty with
    | true => rfl
    | false =>
      simp only [Bool.false_eq_true, if_false, if_true]
      cases parseHost hostText with
      | error e => rfl
      | ok host =>
        simp only [Except.map, Option.isNone_some, Bool.false_and, Bool.false_eq_true, if_false]
        rcases portBehind_cases after with ⟨rest, rfl⟩ | ⟨hcolon, hport⟩
        · rfl
        · rw [hport]
          split
          · exact (hcolon _ rfl).elim
          · rfl

/-- A URL with a special scheme has a host. -/
theorem isSome_host_of_readAuthority (h : isSpecial scheme = true) {cs : List Char} {u : Url}
    (hread : readAuthority scheme cs = .ok u) : u.host.isSome ∧ u.scheme = scheme := by
  rw [readAuthority_special h] at hread
  obtain ⟨login, -, hread⟩ := Json.bind_eq_ok hread
  obtain ⟨host, -, hread⟩ := Json.bind_eq_ok hread
  obtain ⟨port, -, hread⟩ := Json.bind_eq_ok hread
  cases hread
  exact ⟨rfl, rfl⟩

/-- A sign alone is refused as a login where something stands behind it, and else for want of a
host. -/
theorem readAuthority_sign (h : isSpecial scheme = true) {tail : List Char}
    (htail : IsEnd true tail) : readAuthority scheme ('@' :: tail) = .error .emptyHost := by
  rw [readAuthority_special h]
  cases tail with
  | nil => rfl
  | cons c tail =>
    have hsign : ∀ c ∈ ['@'], endsAuthority true c = false := by
      rw [List.forall_mem_singleton]
      rfl
    obtain ⟨htake, hdrop⟩ := span_end hsign htail
    have hrefused : splitUser true (['@'] ++ c :: tail) = .error .emptyHost := by
      unfold splitUser
      rw [htake, hdrop]
      rfl
    rw [List.singleton_append] at hrefused
    rw [hrefused]
    rfl

/-- Nothing behind the authority matters to it. -/
theorem readAuthority_append (h : isSpecial scheme = true) {cs tail : List Char}
    (hcs : ∀ c ∈ cs, endsAuthority true c = false) (htail : IsEnd true tail) :
    readAuthority scheme (cs ++ tail) = (readAuthority scheme cs).map (withEnd · tail) := by
  by_cases hsign : cs = ['@']
  · rw [hsign, List.singleton_append, readAuthority_sign h htail,
      readAuthority_sign h (isEnd_nil true)]
    rfl
  · rw [readAuthority_special h, readAuthority_special h, splitUser_append hcs htail hsign]
    cases hlogin : splitUser true cs with
    | error e => rfl
    | ok login =>
      obtain ⟨name, password, rest⟩ := login
      have hrest : ∀ c ∈ rest, endsAuthority true c = false := fun c hc =>
        hcs c (mem_of_splitUser hcs hlogin hc)
      have hbehind := splitHost_behind hrest false
      simp only [Except.map, bind, Except.bind, splitHost_append hrest htail]
      generalize splitHost true false rest = parts at hbehind
      cases someHost parts.1 with
      | error e => rfl
      | ok host =>
        have hafter : ∀ c ∈ parts.2, endsAuthority true c = false := by
          rcases hbehind with hnil | ⟨port, hport, hdigits⟩
          · rw [hnil]
            exact fun c hc => absurd hc List.not_mem_nil
          · rw [hport]
            exact List.forall_mem_cons.mpr ⟨rfl, hdigits⟩
        have hcolon : parts.2 = [] ∨ ∃ port, parts.2 = ':' :: port :=
          hbehind.imp_right fun ⟨port, hport, _⟩ => ⟨port, hport⟩
        simp only [portBehind_append hafter htail hcolon]
        cases hport : portBehind parts.2 with
        | error e => rfl
        | ok port => rfl

end

end CommandAgent.Url
