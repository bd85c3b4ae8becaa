import CommandAgent.Proofs.Url.Special

/-!
# Bases of URLs

Addresses are made by writing a path behind a base. Where the base is an http URL that ends in its
path, visibly and without a slash (`IsPlain`), the address has the base's server, and its path is
that of the base with the segments behind it (`readPath_behind`, `exists_parse_behind`).

The reader works off the base's segments first. Its last one is completed by the slash that follows,
unless it is a dot or two and has been worked off (`workOff_append`).
-/

namespace CommandAgent.Url

/-- A base of URLs, taken from a text: the text is an http or https URL, and the base is what is
left of it without the slashes at its end. -/
structure IsBase (base text : String) : Prop where
  nonempty : base ≠ ""
  solid : base.toList.getLast? ≠ some '/'
  slashes : ∃ n, text.toList = base.toList ++ List.replicate n '/'
  url : ∃ u, parse text = .ok u ∧ (u.scheme = "http" ∨ u.scheme = "https")

/-- A text that has no query and no fragment, and does not end in a control or a backslash. -/
structure IsPlain (base : String) : Prop where
  path : ∀ c ∈ base.toList, c ≠ '?' ∧ c ≠ '#'
  visible : ∀ c ∈ base.toList.getLast?, 0x20 < c.toNat ∧ c ≠ '\\'

instance (base : String) : Decidable (IsPlain base) :=
  decidable_of_iff
    (base.toList.all (fun c => c ≠ '?' ∧ c ≠ '#') ∧
      base.toList.getLast?.toList.all fun c => 0x20 < c.toNat ∧ c ≠ '\\')
    ⟨fun h => ⟨by simpa using h.1, by simpa using h.2⟩,
      fun h => ⟨by simpa using h.path, by simpa using h.visible⟩⟩

/-! ### Texts -/

/-- The text ends in a character that is neither blank nor a control. -/
def EndsVisibly (cs : List Char) : Prop := ∃ c ∈ cs.getLast?, 0x20 < c.toNat

section
variable {cs rest tail : List Char}

theorem getLast?_append_of_ne_nil (h : rest ≠ []) : (cs ++ rest).getLast? = rest.getLast? := by
  obtain ⟨init, c, rfl⟩ := (List.eq_nil_or_concat rest).resolve_left h
  simp

theorem getLast?_of_suffix (h : rest <:+ cs) (hne : rest ≠ []) : rest.getLast? = cs.getLast? := by
  obtain ⟨before, rfl⟩ := h
  exact (getLast?_append_of_ne_nil hne).symm

/-- Where a text ends visibly, dropping what is invisible stops before. -/
theorem EndsVisibly.dropWhile_ne_nil (h : EndsVisibly cs) :
    cs.dropWhile (·.toNat ≤ 0x20) ≠ [] := by
  intro hnil
  obtain ⟨c, hc, hvisible⟩ := h
  have hinvisible := List.dropWhile_eq_nil_iff.mp hnil c (List.mem_of_getLast? hc)
  have hinvisible : c.toNat ≤ 0x20 := by simpa using hinvisible
  omega

theorem dropWhile_append_of_ne_nil {p : Char → Bool} (h : cs.dropWhile p ≠ []) (rest : List Char) :
    (cs ++ rest).dropWhile p = cs.dropWhile p ++ rest := by
  rw [List.dropWhile_append, if_neg]
  exact fun hempty => h (List.isEmpty_iff.mp hempty)

/-- Only tabs, line breaks and what is invisible at the start are taken from a text that ends
visibly. -/
theorem EndsVisibly.tidy_eq (h : EndsVisibly cs) :
    tidy cs = (cs.dropWhile (·.toNat ≤ 0x20)).filter (!isDropped ·) := by
  have hlast := getLast?_of_suffix (List.dropWhile_suffix _) h.dropWhile_ne_nil
  obtain ⟨c, hc, hvisible⟩ := h
  have hend : ∀ d ∈ (cs.dropWhile (·.toNat ≤ 0x20)).reverse.head?, 0x20 < d.toNat := by
    intro d hd
    rw [List.head?_reverse, hlast, hc] at hd
    cases hd
    exact hvisible
  unfold tidy
  dsimp only
  rw [dropWhile_of_visible hend, List.reverse_reverse]

theorem EndsVisibly.append (h : EndsVisibly cs) (htail : ∀ c ∈ tail.getLast?, 0x20 < c.toNat) :
    EndsVisibly (cs ++ tail) := by
  obtain ⟨c, hc, hvisible⟩ := h
  rw [EndsVisibly, List.getLast?_append]
  cases hlast : tail.getLast? with
  | none => exact ⟨c, hc, hvisible⟩
  | some d => exact ⟨d, rfl, htail d hlast⟩

/-- Behind a text that ends visibly, tabs and line breaks are left out. -/
theorem EndsVisibly.tidy_append (h : EndsVisibly cs)
    (htail : ∀ c ∈ tail.getLast?, 0x20 < c.toNat) :
    tidy (cs ++ tail) = tidy cs ++ tail.filter (!isDropped ·) := by
  rw [(h.append htail).tidy_eq, h.tidy_eq, dropWhile_append_of_ne_nil h.dropWhile_ne_nil,
    List.filter_append]

/-- A text that ends visibly ends so when it is tidy. -/
theorem EndsVisibly.getLast?_tidy (h : EndsVisibly cs) : (tidy cs).getLast? = cs.getLast? := by
  have hlast := getLast?_of_suffix (List.dropWhile_suffix _) h.dropWhile_ne_nil
  obtain ⟨c, hc, hvisible⟩ := id h
  have hkept : isDropped c = false := by
    rw [Bool.eq_false_iff]
    intro hdropped
    simp only [isDropped, Bool.or_eq_true, beq_iff_eq] at hdropped
    rcases hdropped with (rfl | rfl) | rfl <;> exact absurd hvisible (by decide)
  rw [hc] at hlast
  obtain ⟨init, hinit⟩ := List.getLast?_eq_some_iff.mp hlast
  rw [h.tidy_eq, hinit, List.filter_append, hc]
  simp [hkept]

theorem mem_of_mem_tidy {c : Char} (h : c ∈ tidy cs) : c ∈ cs := by
  have hc := List.mem_reverse.mp (List.mem_filter.mp h).1
  exact (List.dropWhile_suffix _).subset
    (List.mem_reverse.mp ((List.dropWhile_suffix _).subset hc))

/-- A scheme is read before a slash as before nothing. -/
theorem scheme?_append_slash (htail : ∀ c ∈ tail.head?, c = '/') :
    scheme? (cs ++ tail) = (scheme? cs).map fun read => (read.1, read.2 ++ tail) := by
  cases cs with
  | nil =>
    cases tail with
    | nil => rfl
    | cons c tail =>
      cases htail c rfl
      rfl
  | cons c cs =>
    have hpart : ∀ d ∈ tail.head?,
        (d.isAlphanum || d == '+' || d == '-' || d == '.') = false := by
      intro d hd
      rw [htail d hd]
      decide
    obtain ⟨htake, hdrop⟩ := span_append (c :: cs) hpart
    rw [List.cons_append] at htake hdrop
    show scheme? (c :: (cs ++ tail)) = _
    unfold scheme?
    dsimp only
    rw [htake, hdrop]
    cases c.isAlpha with
    | false => rfl
    | true =>
      simp only [if_true]
      cases (c :: cs).dropWhile fun c => c.isAlphanum || c == '+' || c == '-' || c == '.' with
      | nil =>
        cases tail with
        | nil => rfl
        | cons d tail =>
          cases htail d rfl
          rfl
      | cons d rest =>
        by_cases hd : d = ':'
        · rw [hd]
          rfl
        · rw [List.cons_append]
          split
          · next heq => exact absurd (List.cons.inj heq).1 hd
          split
          · next heq => exact absurd (List.cons.inj heq).1 hd
          · rfl

/-- What follows a scheme is an end of the text. -/
theorem suffix_of_scheme? {scheme : String} (h : scheme? cs = some (scheme, rest)) :
    rest <:+ cs := by
  unfold scheme? at h
  dsimp only at h
  split at h
  · cases h
  split at h
  · split at h
    · next heq =>
      cases h
      exact (List.suffix_cons _ _).trans (heq ▸ List.dropWhile_suffix _)
    · cases h
  · cases h

end

/-! ### Addresses behind a base -/

/-- Slashes alone are no URL. -/
theorem parse_slashes {s : String} {n : Nat} (h : s.toList = List.replicate n '/') :
    parse s = .error .noBase := by
  have htidy : tidy (List.replicate n '/') = List.replicate n '/' := by
    apply tidy_of_visible
    intro c hc
    rw [List.eq_of_mem_replicate hc]
    decide
  rw [parse, h, htidy]
  cases n <;> rfl

/-- Whatever is read as the parts of a `file` URL keeps that scheme. -/
theorem scheme_contentOf {cs : List Char} {u : Url} (h : contentOf cs = .ok u) :
    u.scheme = "file" := by
  unfold contentOf at h
  split at h
  · split at h
    · dsimp only at h
      split at h
      · cases h
        rfl
      split at h
      · cases h
        rfl
      · obtain ⟨host, -, hrest⟩ := Json.bind_eq_ok h
        cases hrest
        rfl
    · cases h
      rfl
  · cases h
    rfl

/-- With an http scheme the authority is read behind all slashes. -/
theorem readAuthority_of_parse {text : String} {u : Url} (h : parse text = .ok u)
    (hscheme : u.scheme = "http" ∨ u.scheme = "https") :
    ∃ scheme rest, scheme? (tidy text.toList) = some (scheme, rest) ∧
      (scheme = "http" ∨ scheme = "https") ∧
      readAuthority scheme (rest.dropWhile (isSlash true)) = .ok u := by
  unfold parse at h
  split at h
  · cases h
  next scheme rest hread =>
  split at h
  · rw [scheme_contentOf h] at hscheme
    rcases hscheme with hscheme | hscheme <;> exact absurd hscheme (by decide)
  split at h
  · next hspecial =>
    rw [(isSome_host_of_readAuthority hspecial h).2] at hscheme
    exact ⟨scheme, rest, hread, hscheme, h⟩
  · next hfile hspecial =>
    -- a scheme that is not special is no http
    have hsame : u.scheme = scheme := by
      split at h
      · obtain ⟨-, -, -, -, -, -, -, -, -, rfl⟩ :=
          exists_of_readAuthority (Bool.eq_false_iff.mpr hspecial) h
        rfl
      · cases h
        rfl
    rw [hsame] at hscheme
    rcases hscheme with rfl | rfl <;> exact absurd rfl hspecial

theorem isSpecial_of_http {scheme : String} (h : scheme = "http" ∨ scheme = "https") :
    isSpecial scheme = true ∧ scheme ≠ "file" := by
  rcases h with rfl | rfl <;> decide

/-- With an http scheme, the authority is read behind all slashes, where there is something behind
them. -/
theorem parse_of_scheme? {text : String} {scheme : String} {rest : List Char}
    (hread : scheme? (tidy text.toList) = some (scheme, rest))
    (hscheme : scheme = "http" ∨ scheme = "https") :
    parse text = readAuthority scheme (rest.dropWhile (isSlash true)) := by
  obtain ⟨hspecial, hfile⟩ := isSpecial_of_http hscheme
  rw [parse, hread]
  simp only [hfile, hspecial, if_false, if_true]

/-- The path at the end of a base, as it stands there. -/
structure IsBasePath (path : List Char) : Prop where
  first : ∀ c ∈ path.head?, isSlash true c
  last : ∀ c ∈ path.getLast?, isSlash true c = false
  signs : ∀ c ∈ path, c ≠ '?' ∧ c ≠ '#'

theorem endsVisibly_of_isPlain {base : String} (hne : base ≠ "") (h : IsPlain base) :
    EndsVisibly base.toList := by
  cases hlast : base.toList.getLast? with
  | none => exact absurd (String.toList_eq_nil_iff.mp (List.getLast?_eq_none_iff.mp hlast)) hne
  | some c => exact ⟨c, hlast, (h.visible c hlast).1⟩

/-- What stands at the end of a base, from the first slash, question mark or hash on, is a path. -/
theorem isBasePath_of_suffix {base text : String} (h : IsBase base text) (hplain : IsPlain base)
    {path : List Char} (hsuffix : path <:+ tidy base.toList) (hend : IsEnd true path) :
    IsBasePath path := by
  have hsigns : ∀ c ∈ path, c ≠ '?' ∧ c ≠ '#' := fun c hc =>
    hplain.path c (mem_of_mem_tidy (hsuffix.subset hc))
  refine ⟨?_, ?_, hsigns⟩
  · intro c hc
    have hne := hsigns c (List.mem_of_mem_head? hc)
    rcases ends_iff.mp (hend c hc) with rfl | rfl | rfl | rfl
    · rfl
    · exact absurd rfl hne.1
    · exact absurd rfl hne.2
    · rfl
  · intro c hc
    have hpath : path ≠ [] := by
      rintro rfl
      cases hc
    have hvisible := endsVisibly_of_isPlain h.nonempty hplain
    rw [getLast?_of_suffix hsuffix hpath, hvisible.getLast?_tidy] at hc
    have hslash : c ≠ '/' := by
      rintro rfl
      exact h.solid hc
    simp [isSlash, hslash, (hplain.visible c hc).2]

theorem head?_filter_of_slash {tail : List Char} (htail : ∀ c ∈ tail.head?, c = '/') :
    ∀ c ∈ (tail.filter (!isDropped ·)).head?, c = '/' := by
  cases tail with
  | nil => exact fun c hc => by cases hc
  | cons c tail =>
    cases htail c rfl
    intro d hd
    cases hd
    rfl

/-- Where there is something behind the slashes of a scheme, an authority stands there, and at the
end a path that goes on with what follows. -/
theorem exists_readAuthority_append {scheme : String} (hspecial : isSpecial scheme = true)
    {rest : List Char} (hrest : rest.dropWhile (isSlash true) ≠ []) :
    ∃ before path, path <:+ rest ∧ IsEnd true path ∧
      ∀ tail : List Char, (∀ c ∈ tail.head?, c = '/') →
        readAuthority scheme ((rest ++ tail).dropWhile (isSlash true)) =
          (readAuthority scheme before).map (withEnd · (path ++ tail)) := by
  generalize hbody : rest.dropWhile (isSlash true) = body at hrest
  have hsplit := body.takeWhile_append_dropWhile (p := (!endsAuthority true ·))
  have hbefore : ∀ c ∈ body.takeWhile (!endsAuthority true ·), endsAuthority true c = false := by
    intro c hc
    have hc := List.mem_takeWhile_imp (p := (!endsAuthority true ·)) hc
    simpa using hc
  have hend : IsEnd true (body.dropWhile (!endsAuthority true ·)) := by
    intro c hc
    have hhead := List.head?_dropWhile_not (!endsAuthority true ·) body
    rw [hc] at hhead
    simpa using hhead
  have hsuffix : body.dropWhile (!endsAuthority true ·) <:+ rest :=
    (List.dropWhile_suffix _).trans (hbody ▸ List.dropWhile_suffix _)
  refine ⟨body.takeWhile (!endsAuthority true ·), _, hsuffix, hend, ?_⟩
  intro tail htail
  rw [dropWhile_append_of_ne_nil (hbody ▸ hrest), hbody,
    ← readAuthority_append hspecial hbefore (hend.append fun c hc => by rw [htail c hc]; rfl),
    ← List.append_assoc, hsplit]

/-- With nothing but slashes behind the scheme there is no host. -/
theorem dropWhile_ne_nil_of_readAuthority {scheme : String} {rest slashes : List Char} {u : Url}
    (hspecial : isSpecial scheme = true) (hslashes : ∀ c ∈ slashes, c = '/')
    (h : readAuthority scheme ((rest ++ slashes).dropWhile (isSlash true)) = .ok u) :
    rest.dropWhile (isSlash true) ≠ [] := by
  intro hnil
  have hall : ∀ c ∈ rest ++ slashes, isSlash true c = true := by
    intro c hc
    rcases List.mem_append.mp hc with hc | hc
    · exact List.dropWhile_eq_nil_iff.mp hnil c hc
    · rw [hslashes c hc]
      rfl
  rw [List.dropWhile_eq_nil_iff.mpr hall, readAuthority_special hspecial] at h
  cases h

/-- A base has the scheme of its text, and behind it what the authority of the text is read from,
but for some slashes. -/
theorem exists_authority_of_isBase {base text : String} (h : IsBase base text)
    (hvisible : EndsVisibly base.toList) :
    ∃ scheme rest, scheme? (tidy base.toList) = some (scheme, rest) ∧
      (scheme = "http" ∨ scheme = "https") ∧ ∃ slashes u, (∀ c ∈ slashes, c = '/') ∧
        readAuthority scheme ((rest ++ slashes).dropWhile (isSlash true)) = .ok u := by
  obtain ⟨n, htext⟩ := h.slashes
  obtain ⟨u, hu, hhttp⟩ := h.url
  obtain ⟨scheme, whole, hread, hscheme, hauthority⟩ := readAuthority_of_parse hu hhttp
  have hslashes : ∀ c ∈ List.replicate n '/', c = '/' := fun c hc => List.eq_of_mem_replicate hc
  have hlast : ∀ c ∈ (List.replicate n '/').getLast?, 0x20 < c.toNat := by
    intro c hc
    rw [hslashes c (List.mem_of_getLast? hc)]
    decide
  have hfirst := head?_filter_of_slash fun c hc => hslashes c (List.mem_of_mem_head? hc)
  rw [htext, hvisible.tidy_append hlast, scheme?_append_slash hfirst] at hread
  obtain ⟨⟨given, rest⟩, hbase, heq⟩ := Option.map_eq_some_iff.mp hread
  obtain ⟨rfl, rfl⟩ := Prod.mk.inj heq
  exact ⟨given, rest, hbase, hscheme, _, u, fun c hc => hslashes c (List.mem_filter.mp hc).1,
    hauthority⟩

/-- What is written behind a plain base, from a slash on, goes on with the base's path. -/
theorem exists_parse_append {base text : String} (h : IsBase base text) (hplain : IsPlain base) :
    ∃ (u : Url) (path : List Char), (u.scheme = "http" ∨ u.scheme = "https") ∧ u.host.isSome ∧
      IsBasePath path ∧
      ∀ tail : List Char, (∀ c ∈ tail.head?, c = '/') → (∀ c ∈ tail.getLast?, 0x20 < c.toNat) →
        parse (String.ofList (base.toList ++ tail)) =
          .ok (u.withEnd (path ++ tail.filter (!isDropped ·))) := by
  have hvisible := endsVisibly_of_isPlain h.nonempty hplain
  obtain ⟨scheme, rest, hbase, hscheme, slashes, v, hslashes, hv⟩ :=
    exists_authority_of_isBase h hvisible
  obtain ⟨hspecial, -⟩ := isSpecial_of_http hscheme
  have hbody := dropWhile_ne_nil_of_readAuthority hspecial hslashes hv
  obtain ⟨before, path, hsuffix, hend, hgo⟩ := exists_readAuthority_append hspecial hbody
  rw [hgo slashes fun c hc => hslashes c (List.mem_of_mem_head? hc)] at hv
  obtain ⟨u, hu, -⟩ := Json.map_eq_ok hv
  obtain ⟨hhost, hsame⟩ := isSome_host_of_readAuthority hspecial hu
  have hpath := isBasePath_of_suffix h hplain (hsuffix.trans (suffix_of_scheme? hbase)) hend
  refine ⟨u, path, by rwa [hsame], hhost, hpath, ?_⟩
  intro tail htail hlast
  have hread : scheme? (tidy (String.ofList (base.toList ++ tail)).toList) =
      some (scheme, rest ++ tail.filter (!isDropped ·)) := by
    rw [String.toList_ofList, hvisible.tidy_append hlast,
      scheme?_append_slash (head?_filter_of_slash htail), hbase]
    rfl
  rw [parse_of_scheme? hread hscheme, hgo _ (head?_filter_of_slash htail), hu]
  rfl

/-! ### Paths behind a base -/

/-- The segments of a path once a slash has followed it. An empty last segment is what was left of
dots that have been worked off. -/
def Segments.closed (p : Segments) : List (List Char) :=
  if p.last = [] then p.done else p.done ++ [p.last]

def withoutSlash (path : String) : String :=
  if path.toList.getLast? = some '/' then String.ofList path.toList.dropLast else path

/-- Segments are worked off one after another, and those that follow find what the earlier ones have
come to. -/
theorem workOff_append {raw rest : List (List Char)} (hraw : raw ≠ [])
    (hlast : raw.getLast? ≠ some []) (hrest : rest ≠ []) (done : List (List Char)) :
    workOff done (raw ++ rest) = workOff (workOff done raw).closed rest := by
  induction raw generalizing done with
  | nil => exact absurd rfl hraw
  | cons s raw ih =>
    cases raw with
    | nil =>
      have hs : s ≠ [] := fun hnil => hlast (congrArg some hnil)
      rw [List.singleton_append, workOff, workOff]
      · split
        · rfl
        split
        · rfl
        · rw [Segments.closed, if_neg hs]
      · exact hrest
    | cons t raw =>
      have hlast' : (t :: raw).getLast? ≠ some [] := by
        rwa [List.getLast?_cons_cons] at hlast
      have hgo := ih (List.cons_ne_nil t raw) hlast'
      rw [List.cons_append, workOff, workOff, hgo, hgo, hgo]
      · split
        · rfl
        split <;> rfl
      · exact List.cons_ne_nil t raw
      · simp

/-- A text that does not end in a separator is not split behind its end. -/
theorem getLast?_splitOnP_ne {p : Char → Bool} {cs : List Char} (hne : cs ≠ [])
    (hlast : ∀ c ∈ cs.getLast?, p c = false) : (cs.splitOnP p).getLast? ≠ some [] := by
  induction cs with
  | nil => exact absurd rfl hne
  | cons c cs ih =>
    obtain ⟨s, rest, hsplit⟩ := List.exists_cons_of_ne_nil (List.splitOnP_ne_nil p cs)
    rw [List.splitOnP_cons_eq_if_modifyHead]
    cases cs with
    | nil =>
      rw [hlast c rfl]
      simp
    | cons d cs =>
      have hrest := ih (List.cons_ne_nil d cs) (by rwa [List.getLast?_cons_cons] at hlast)
      rw [hsplit] at hrest ⊢
      split
      · rwa [List.getLast?_cons_cons]
      · rw [List.modifyHead_cons]
        cases rest with
        | nil => simp
        | cons t rest =>
          rw [List.getLast?_cons_cons] at hrest ⊢
          exact hrest

/-- Nor is there an empty segment at the end once the segments are encoded. -/
theorem getLast?_segments_ne {body : List Char} (hne : body ≠ [])
    (hlast : ∀ c ∈ body.getLast?, isSlash true c = false) :
    ((body.splitOnP (isSlash true)).map (encodeWith pathSet)).getLast? ≠ some [] := by
  rw [List.getLast?_map]
  intro heq
  obtain ⟨s, hs, hnil⟩ := Option.map_eq_some_iff.mp heq
  rw [encodeWith_eq_nil_iff.mp hnil] at hs
  exact getLast?_splitOnP_ne hne hlast hs

/-- A slash and segments with a slash behind each end in a slash. -/
theorem exists_concat_slash (done : List (List Char)) :
    ∃ init, '/' :: done.flatMap (fun s => s ++ ['/']) = init ++ ['/'] := by
  rcases List.eq_nil_or_concat done with rfl | ⟨done, s, rfl⟩
  · exact ⟨[], rfl⟩
  · exact ⟨'/' :: done.flatMap (fun s => s ++ ['/']) ++ s, by simp⟩

/-- The text of a path without its last slash, and a slash behind it. -/
theorem withoutSlash_text {p : Segments} (hlast : ∀ c ∈ p.last, c ≠ '/') :
    (withoutSlash (String.ofList p.text)).toList ++ ['/'] =
      '/' :: p.closed.flatMap (fun s => s ++ ['/']) := by
  unfold withoutSlash Segments.closed Segments.text
  rw [String.toList_ofList]
  by_cases hnil : p.last = []
  · -- the text ends in the slash that is taken off
    rw [hnil, List.append_nil, if_pos rfl]
    obtain ⟨init, hinit⟩ := exists_concat_slash p.done
    rw [hinit, if_pos List.getLast?_concat, String.toList_ofList, List.dropLast_concat]
  · have hend : ('/' :: p.done.flatMap (fun s => s ++ ['/']) ++ p.last).getLast? ≠ some '/' := by
      rw [getLast?_append_of_ne_nil hnil]
      exact fun heq => hlast '/' (List.mem_of_getLast? heq) rfl
    rw [if_neg hend, if_neg hnil, String.toList_ofList, List.flatMap_append,
      List.flatMap_singleton, List.cons_append, List.cons_append, List.append_assoc]

/-- The path of a base that is not empty, worked off. -/
theorem readPath_cons {c : Char} (hc : isSlash true c = true) (body : List Char) :
    readPath true (c :: body) = String.ofList
      (workOff [] ((body.splitOnP (isSlash true)).map (encodeWith pathSet))).text := by
  rw [readPath, if_neg (by simp)]
  simp only [hc, if_true]

/-- No segment that is worked off holds a slash. -/
theorem forall_last_workOff (body : List Char) :
    ∀ c ∈ (workOff [] ((body.splitOnP (isSlash true)).map (encodeWith pathSet))).last,
      c ≠ '/' := by
  refine (workOff_forall (P := fun s => ∀ c ∈ s, c ≠ '/') (fun c hc => absurd hc List.not_mem_nil)
    (fun s hs => absurd hs List.not_mem_nil) ?_).2
  intro s hs _ _
  obtain ⟨raw, hraw, rfl⟩ := List.mem_map.mp hs
  refine forall_mem_encodeWith (Q := (· ≠ '/')) (by decide) (by decide) ?_
  rintro c hc - rfl
  exact absurd (forall_of_mem_splitOnP hraw '/' hc) (by decide)

section
variable {path : List Char} {done : List (List Char)}

/-- Segments that are written behind the path of a base are read as such. -/
theorem readPath_behind (hpath : IsBasePath path)
    (hsolid : ∀ s ∈ done, ∀ c ∈ s, isSlash true c = false)
    (hsegment : ∀ s ∈ done, Segment (encodeWith pathSet s)) :
    (readPath true (path ++ '/' :: done.flatMap (fun s => s ++ ['/']))).toList =
      (withoutSlash (readPath true path)).toList ++
        '/' :: (done.map (encodeWith pathSet)).flatMap (fun s => s ++ ['/']) := by
  have hslash : isSlash true '/' = true := rfl
  have hsplit : (done.flatMap (fun s => s ++ ['/'])).splitOnP (isSlash true) = done ++ [[]] := by
    have h := splitOnP_segments hslash hsolid fun c hc => absurd hc List.not_mem_nil
    rwa [List.append_nil] at h
  have hencoded : (done ++ [[]]).map (encodeWith pathSet) =
      done.map (encodeWith pathSet) ++ [[]] := by
    rw [List.map_append]
    rfl
  have hsegments : ∀ s ∈ done.map (encodeWith pathSet), Segment s := by
    intro s hs
    obtain ⟨raw, hraw, rfl⟩ := List.mem_map.mp hs
    exact hsegment raw hraw
  have hworked := workOff_of_segments hsegments segment_nil
  cases path with
  | nil =>
    have hbase : (withoutSlash (readPath true [])).toList = [] := by decide
    rw [List.nil_append, readPath_cons hslash, hsplit, hencoded, hworked, hbase,
      String.toList_ofList, Segments.text, List.nil_append, List.nil_append, List.append_nil]
  | cons c body =>
    have hc : isSlash true c = true := hpath.first c rfl
    have hbody : body ≠ [] := by
      rintro rfl
      have hlast := hpath.last c rfl
      rw [hc] at hlast
      cases hlast
    have hlast : ∀ d ∈ body.getLast?, isSlash true d = false := by
      rw [getLast?_of_suffix (List.suffix_cons c body) hbody]
      exact hpath.last
    have hraw := getLast?_segments_ne hbody hlast
    have hne : (body.splitOnP (isSlash true)).map (encodeWith pathSet) ≠ [] := by
      simp [List.splitOnP_ne_nil]
    have hbase := withoutSlash_text (forall_last_workOff body)
    rw [List.cons_append, readPath_cons hc, readPath_cons hc,
      List.splitOnP_append_cons _ _ hslash, hsplit, List.map_append, hencoded,
      workOff_append hne hraw (by simp), hworked, String.toList_ofList, Segments.text,
      List.append_nil, List.flatMap_append, ← List.cons_append, ← hbase, List.append_assoc]
    rfl

end

/-! ### Addresses -/

/-- A URL at the server of another, with a path and nothing behind it. -/
structure IsAt (v u : Url) (path : List Char) : Prop where
  scheme : v.scheme = u.scheme
  host : v.host = u.host
  port : v.port = u.port
  path : v.path.toList = path
  query : v.query = none

/-- A text without their signs has neither query nor fragment. -/
theorem tail_ofText_of_signs {cs : List Char} (h : ∀ c ∈ cs, c ≠ '?' ∧ c ≠ '#') :
    Tail.ofText cs = ⟨cs, none, none⟩ := by
  have hhash : ∀ c ∈ cs, (c != '#') = true := fun c hc => bne_iff_ne.mpr (h c hc).2
  have hmark : ∀ c ∈ cs, (c != '?') = true := fun c hc => bne_iff_ne.mpr (h c hc).1
  have hnil (d : Char) : ∀ c ∈ ([] : List Char).head?, (c != d) = false := fun c hc => by cases hc
  have hbefore := takeWhile_span hhash (hnil '#')
  have hbehind := dropWhile_span hhash (hnil '#')
  have hpath := takeWhile_span hmark (hnil '?')
  have hrest := dropWhile_span hmark (hnil '?')
  rw [List.append_nil] at hbefore hbehind hpath hrest
  unfold Tail.ofText
  rw [hbefore, hbehind]
  dsimp only
  rw [hpath, hrest]

/-- A character that may stand in a segment of an address: none that ends one, ends the path, or is
left out. -/
def IsSolid (c : Char) : Prop := endsAuthority true c = false ∧ isDropped c = false

theorem isSlash_of_isSolid {c : Char} (h : IsSolid c) : isSlash true c = false := by
  have hslash : c ≠ '/' := (ne_of_endsAuthority rfl h.1).symm
  have hback : c ≠ '\\' := (ne_of_endsAuthority rfl h.1).symm
  simp [isSlash, hslash, hback]

/-- Segments with slashes behind them hold nothing that ends a path or is left out. -/
theorem forall_mem_behind {done : List (List Char)} (h : ∀ s ∈ done, ∀ c ∈ s, IsSolid c) :
    ∀ c ∈ '/' :: done.flatMap (fun s => s ++ ['/']),
      c ≠ '?' ∧ c ≠ '#' ∧ isDropped c = false := by
  rw [List.forall_mem_cons]
  refine ⟨by decide, fun c hc => ?_⟩
  obtain ⟨s, hs, hc⟩ := List.mem_flatMap.mp hc
  rcases List.mem_append.mp hc with hc | hc
  · obtain ⟨hends, hdropped⟩ := h s hs c hc
    exact ⟨(ne_of_endsAuthority rfl hends).symm, (ne_of_endsAuthority rfl hends).symm, hdropped⟩
  · rw [List.mem_singleton.mp hc]
    decide

/-- Segments that are written behind a plain base lead to the base's server, and there to the base's
path with the segments behind it. -/
theorem exists_parse_behind {base text : String} (h : IsBase base text) (hplain : IsPlain base) :
    ∃ u, parse base = .ok u ∧ (u.scheme = "http" ∨ u.scheme = "https") ∧ u.host.isSome ∧
      ∀ done : List (List Char), (∀ s ∈ done, ∀ c ∈ s, IsSolid c) →
        (∀ s ∈ done, Segment (encodeWith pathSet s)) →
        ∃ v, parse (String.ofList
            (base.toList ++ '/' :: done.flatMap (fun s => s ++ ['/']))) = .ok v ∧
          v.IsAt u ((withoutSlash u.path).toList ++
            '/' :: (done.map (encodeWith pathSet)).flatMap (fun s => s ++ ['/'])) := by
  obtain ⟨u, path, hscheme, hhost, hpath, hparse⟩ := exists_parse_append h hplain
  have hbase := hparse [] (fun c hc => by cases hc) (fun c hc => by cases hc)
  rw [List.append_nil, String.ofList_toList, List.filter_nil, List.append_nil] at hbase
  refine ⟨u.withEnd path, hbase, hscheme, hhost, fun done hsolid hsegment => ?_⟩
  have hsigns : ∀ c ∈ '/' :: done.flatMap (fun s => s ++ ['/']), c ≠ '?' ∧ c ≠ '#' := by
    intro c hc
    exact ⟨(forall_mem_behind hsolid c hc).1, (forall_mem_behind hsolid c hc).2.1⟩
  have hkept : ('/' :: done.flatMap (fun s => s ++ ['/'])).filter (!isDropped ·) =
      '/' :: done.flatMap (fun s => s ++ ['/']) := by
    rw [List.filter_eq_self]
    intro c hc
    rw [(forall_mem_behind hsolid c hc).2.2]
    rfl
  have hlast : ∀ c ∈ ('/' :: done.flatMap (fun s => s ++ ['/'])).getLast?, 0x20 < c.toNat := by
    obtain ⟨init, hinit⟩ := exists_concat_slash done
    rw [hinit, List.getLast?_concat]
    intro c hc
    cases hc
    decide
  have hread := hparse ('/' :: done.flatMap (fun s => s ++ ['/'])) (fun c hc => by cases hc; rfl)
    hlast
  rw [hkept] at hread
  refine ⟨_, hread, rfl, rfl, rfl, ?_, ?_⟩
  · show (readPath true (Tail.ofText _).path).toList =
      (withoutSlash (readPath true (Tail.ofText path).path)).toList ++ _
    rw [tail_ofText_of_signs (List.forall_mem_append.mpr ⟨hpath.signs, hsigns⟩),
      tail_ofText_of_signs hpath.signs]
    exact readPath_behind hpath (fun s hs c hc => isSlash_of_isSolid (hsolid s hs c hc)) hsegment
  · show ((Tail.ofText _).query.map _) = none
    rw [tail_ofText_of_signs (List.forall_mem_append.mpr ⟨hpath.signs, hsigns⟩)]
    rfl

end CommandAgent.Url
