import CommandAgent.Failure
import CommandAgent.Log.Logger
import CommandAgent.Proofs.Json.Quoted
import CommandAgent.Proofs.Log.Journal
import CommandAgent.Proofs.Text.Bounds

/-!
# Log lines that keep a secret

A log line keeps a secret if its message and context lack the secret's sign and its metadata is
walled (`Entry.Keeps.not_infix_line`). The metadata of a failure is such if no field of the failure
has the sign: redacting bounds the texts and masks members, and adds no sign of its own
(`Json.Distinct.notMem_redact`).

What is written to the log is part of the world. A property of worlds is *guarded* if a line that
does not show the secret never breaks it, whichever logger writes it. That no line of the log file
shows the secret is such a property (`guarded_fileHides`).
-/

namespace CommandAgent

open Json (Distinct Walled)

variable {sign : Char} {p : List Char}

/-! ### Redacted values -/

/-- Bounding a text adds dots at most. -/
theorem Lacks.bound (hsign : ordinary sign = false) {s : String} (h : Lacks sign s) (limit : Nat) :
    Lacks sign (Redaction.bound limit s) := by
  simp only [Redaction.bound, Text.shorten]
  split
  · exact Ordinary.lacks hsign (by decide)
  · split
    · exact h
    · refine .append ?_ (Ordinary.lacks hsign (by decide))
      rw [Lacks, Text.truncatePrefix, String.toList_ofList]
      exact fun hmem => h ((Text.longest_keepBytes limit s.toList).isPrefix.subset hmem)

namespace Json.Distinct

/-- Printing a text neither brings the sign in nor takes it out. -/
theorem mem_renderString_iff (hp : Distinct sign p) (s : String) :
    sign ∈ renderString s ↔ sign ∈ s.toList := by
  have hquote : sign ≠ '"' := ne_of_ordinary hp.rare (by decide)
  simp only [renderString, List.cons_append, List.mem_cons, hquote, List.mem_append,
    List.not_mem_nil, or_false, false_or]
  constructor
  · exact fun h => (mem_escaped h).resolve_right hp.notMem_escapeSigns
  · intro h
    refine List.mem_flatMap.mpr ⟨sign, h, ?_⟩
    rw [hp.unescaped sign hp.mem]
    exact List.mem_singleton_self sign

theorem notMem_memberMask (hp : Distinct sign p) :
    sign ∉ (Json.string Redaction.memberMask).renderChars := by
  rw [renderChars, hp.mem_renderString_iff]
  exact Ordinary.lacks hp.rare (by decide)

mutual

/-- Redacting a value adds no sign that is not ordinary. -/
theorem notMem_redact (hp : Distinct sign p) (limit : Nat) :
    ∀ {j : Json}, sign ∉ j.renderChars → sign ∉ (Redaction.redact limit j).renderChars
  | .null, h => h
  | .bool _, h => h
  | .number _, h => h
  | .string s, h => by
    rw [renderChars, hp.mem_renderString_iff] at h
    rw [Redaction.redact, renderChars, hp.mem_renderString_iff]
    exact Lacks.bound hp.rare h limit
  | .array items, h => by
    simp only [renderChars, List.cons_append, List.mem_cons, List.mem_append, not_or] at h
    have hitems := notMem_redactItems hp limit h.2.1
    simp only [Redaction.redact, renderChars, List.cons_append, List.mem_cons, List.mem_append,
      not_or]
    exact ⟨h.1, hitems, h.2.2⟩
  | .object ms, h => by
    simp only [renderChars, List.cons_append, List.mem_cons, List.mem_append, not_or] at h
    have hmembers := notMem_redactMembers hp limit h.2.1
    simp only [Redaction.redact, renderChars, List.cons_append, List.mem_cons, List.mem_append,
      not_or]
    exact ⟨h.1, hmembers, h.2.2⟩

theorem notMem_redactItems (hp : Distinct sign p) (limit : Nat) :
    ∀ {items : List Json} {first : Bool}, sign ∉ renderItems first items →
      sign ∉ renderItems first (Redaction.redactItems limit items)
  | [], _, h => h
  | j :: rest, first, h => by
    simp only [renderItems, List.mem_append, not_or] at h
    obtain ⟨⟨hcomma, hj⟩, hrest⟩ := h
    simp only [Redaction.redactItems, renderItems, List.mem_append, not_or]
    exact ⟨⟨hcomma, notMem_redact hp limit hj⟩, notMem_redactItems hp limit hrest⟩

theorem notMem_redactMembers (hp : Distinct sign p) (limit : Nat) :
    ∀ {ms : List (String × Json)} {first : Bool}, sign ∉ renderMembers first ms →
      sign ∉ renderMembers first (Redaction.redactMembers limit ms)
  | [], _, h => h
  | (k, j) :: rest, first, h => by
    simp only [renderMembers, List.mem_append, List.mem_cons, not_or] at h
    obtain ⟨⟨⟨hcomma, hk⟩, hcolon, hj⟩, hrest⟩ := h
    simp only [Redaction.redactMembers, renderMembers, List.mem_append, List.mem_cons, not_or]
    refine ⟨⟨⟨hcomma, hk⟩, hcolon, ?_⟩, notMem_redactMembers hp limit hrest⟩
    split
    · exact hp.notMem_memberMask
    · exact notMem_redact hp limit hj

end

end Json.Distinct

/-! ### Failures -/

/-- No field of the failure has the sign. -/
structure Failure.Lacks (sign : Char) (f : Failure) : Prop where
  code : CommandAgent.Lacks sign f.code
  message : CommandAgent.Lacks sign f.message
  hint : ∀ s ∈ f.hint, CommandAgent.Lacks sign s
  details : ∀ d ∈ f.details, sign ∉ d.renderChars

theorem Failure.ordinary_kind (kind : FailureKind) : Ordinary kind.name := by
  cases kind <;> decide

/-- A redacted member comes from one with the same key, masked if the key is secret. -/
theorem Redaction.exists_of_mem_redactMembers {limit : Nat} {ms : List (String × Json)}
    {m : String × Json} (h : m ∈ redactMembers limit ms) :
    ∃ j, (m.1, j) ∈ ms ∧
      m.2 = if isSecretKey m.1 then .string memberMask else redact limit j := by
  induction ms with
  | nil => cases h
  | cons a rest ih =>
    obtain ⟨k, j⟩ := a
    rw [redactMembers] at h
    rcases List.mem_cons.mp h with rfl | hrest
    · exact ⟨j, List.mem_cons_self, rfl⟩
    · obtain ⟨j', hmem, hj'⟩ := ih hrest
      exact ⟨j', List.mem_cons_of_mem _ hmem, hj'⟩

namespace Json.Distinct

/-- A redacted object made from members without the sign. -/
theorem walled_redact_ofMembers (hp : Distinct sign p) {limit : Nat} {ms : Members}
    (h : ∀ m ∈ ms, Ordinary m.1 ∧ sign ∉ m.2.renderChars) :
    Walled sign p (Redaction.redact limit (ofMembers ms)).renderChars := by
  refine hp.walled_object fun m hm => ?_
  obtain ⟨j, hmem, hvalue⟩ := Redaction.exists_of_mem_redactMembers hm
  obtain ⟨hkey, hj⟩ : Ordinary m.1 ∧ sign ∉ j.renderChars := by
    rcases mem_foldl_insertMember hmem with hms | hnone
    · exact h _ hms
    · cases hnone
  refine ⟨hkey, .bare ?_⟩
  rw [hvalue]
  split
  · exact hp.notMem_memberMask
  · exact notMem_redact hp limit hj

theorem notMem_string (hp : Distinct sign p) {s : String} (h : Lacks sign s) :
    sign ∉ (Json.string s).renderChars := by
  rwa [renderChars, hp.mem_renderString_iff]

theorem notMem_null (hp : Distinct sign p) : sign ∉ Json.null.renderChars :=
  Ordinary.lacks hp.rare (s := "null") (by decide)

/-- The metadata of a failure without the sign. -/
theorem walled_logged (hp : Distinct sign p) {f : Failure} (hf : f.Lacks sign) :
    Walled sign p f.logged.renderChars := by
  have hkind : sign ∉ (Json.string f.kind.name).renderChars :=
    hp.notMem_string ((Failure.ordinary_kind f.kind).lacks hp.rare)
  have hhint : sign ∉ (Json.ofOption f.hint).renderChars := by
    cases h : f.hint with
    | none => exact hp.notMem_null
    | some s => exact hp.notMem_string (hf.hint s h)
  have hdetails : sign ∉ (f.details.getD .null).renderChars := by
    cases h : f.details with
    | none => exact hp.notMem_null
    | some d => exact hf.details d h
  refine hp.walled_redact_ofMembers ?_
  simp only [List.forall_mem_cons]
  exact ⟨⟨by decide, hkind⟩, ⟨by decide, hp.notMem_string hf.code⟩,
    ⟨by decide, hp.notMem_string hf.message⟩, ⟨by decide, hhint⟩, ⟨by decide, hdetails⟩, by simp⟩

end Json.Distinct

/-! ### Lines -/

/-- An entry that does not show the secret. -/
structure Entry.Keeps (sign : Char) (p : List Char) (e : Entry) : Prop where
  message : Lacks sign e.message
  metadata : Walled sign p e.metadata.renderChars

namespace Entry.Keeps

/-- An entry with a fixed message and members that do not show the secret. -/
theorem of_members (hp : Distinct sign p) {level : Level} {message : String} {ms : Members}
    (hmessage : Ordinary message) (h : ∀ m ∈ ms, Json.Hides sign p m) :
    (Entry.mk level message (.ofMembers ms)).Keeps sign p :=
  ⟨hmessage.lacks hp.rare, hp.walled_ofMembers h⟩

theorem ordinary_label (level : Level) : Ordinary level.label := by cases level <;> decide

/-- The line of such an entry does not show the secret either. -/
theorem not_infix_line (hp : Distinct sign p) {e : Entry} (he : e.Keeps sign p) {l : Logger}
    {stamp : String} (hstamp : Lacks sign stamp) (hcontext : Lacks sign l.context) :
    ¬ p <:+: (l.line stamp e).toList := by
  have hfixed {s : String} (h : Ordinary s) : Lacks sign s := h.lacks hp.rare
  have hhead : Lacks sign ("[" ++ stamp ++ "] " ++ e.level.label ++ " [" ++ l.context ++ "] "
      ++ e.message) :=
    .append (.append (.append (.append (.append (.append (.append (hfixed (by decide)) hstamp)
      (hfixed (by decide))) (hfixed (ordinary_label e.level))) (hfixed (by decide))) hcontext)
      (hfixed (by decide))) he.message
  have hmetadata : Walled sign p
      (if e.metadata.isNull then "" else " " ++ e.metadata.render).toList := by
    split
    · exact .bare (hfixed (by decide))
    · have hblank : Lacks sign " " := hfixed (by decide)
      rw [String.toList_append, Json.toList_render]
      exact .bare_append hblank he.metadata
  refine hp.not_infix ?_
  rw [Logger.line, String.toList_append]
  exact .bare_append hhead hmetadata

end Entry.Keeps

/-! ### Guarded properties -/

/-- A property of worlds that a line breaks only if it shows the secret. -/
structure Guarded (sign : Char) (p : List Char) (I : World → Prop) : Prop where
  stamp : ∀ {w}, I w → Lacks sign w.stamp
  log : ∀ {w} (l : Logger) (e : Entry), I w → ¬ p <:+: (l.line w.stamp e).toList → I (l.log e w)

/-- An entry that does not show the secret breaks no guarded property. -/
theorem Guarded.log_of_keeps {I : World → Prop} (hI : Guarded sign p I) (hp : Distinct sign p)
    {l : Logger} (hcontext : Lacks sign l.context) {e : Entry} (he : e.Keeps sign p) {w : World}
    (hw : I w) : I (l.log e w) :=
  hI.log l e hw (he.not_infix_line hp (hI.stamp hw) hcontext)

/-- The file of the log consists of lines that do not show the secret, and the time stamp does not
have its sign. -/
structure FileHides (sign : Char) (p : List Char) (place : Place) (w : World) : Prop where
  stamp : Lacks sign w.stamp
  sink : w.journal.sink = some place
  lines : ∃ (lines : List String) (x : Bool),
    w.files.node? place = some (.file (lines.flatMap Logger.record) x) ∧
      ∀ text ∈ lines, ¬ p <:+: text.toList

theorem FileHides.counted {place : Place} {w : World} (h : FileHides sign p place w)
    (level : Level) : FileHides sign p place (Logger.counted level w) :=
  ⟨h.stamp, h.sink, h.lines⟩

/-- A file goes on to hide a secret when a line without it is written. -/
theorem FileHides.emit {place : Place} {w : World} (h : FileHides sign p place w) {text : String}
    (htext : ¬ p <:+: text.toList) : FileHides sign p place (Logger.emit w text) := by
  obtain ⟨lines, x, hfile, hlines⟩ := h.lines
  have hroot : place ≠ [] := by
    rintro rfl
    rw [FileSystem.node?, if_pos rfl] at hfile
    cases hfile
  simp only [Logger.emit, h.sink, hfile]
  refine ⟨h.stamp, h.sink, lines ++ [text], x, ?_, ?_⟩
  · rw [FileSystem.node?_set, if_neg hroot, if_pos rfl, List.flatMap_append, List.flatMap_singleton]
  · intro line hline
    rcases List.mem_append.mp hline with hold | hnew
    · exact hlines line hold
    · rwa [List.mem_singleton.mp hnew]

theorem guarded_fileHides (place : Place) : Guarded sign p (FileHides sign p place) where
  stamp h := h.stamp
  log l e h hline := by
    rw [Logger.log_eq]
    split
    · exact (h.counted e.level).emit hline
    · exact h

end CommandAgent
