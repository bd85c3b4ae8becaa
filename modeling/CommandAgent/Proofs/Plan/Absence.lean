import CommandAgent.Proofs.Json.Nulls
import CommandAgent.Proofs.Plan.Held

/-!
# Null members are the same as absent members

Two envelopes and two command sets that are equal without their null members, at any depth, load to
the same plan or to the same failure (`load_null_like_absent`).

Nulls are met in three places. The members of the envelope that are looked at before the command set
is read give nothing but their text or truth value, and null has neither (`textOf_stripNulls`,
`saysSealed_stripNulls`). Whether a value is an object does not depend on its members. And the
document is read from the merged value without its nulls, which is what the two values without
theirs merge to (`readDocument_eq`).
-/

namespace CommandAgent

/-! ### Envelopes -/

/-- What is said of a member that gives nothing where it is null may be said without nulls. -/
theorem Json.get?_stripNulls_bind {α : Type} {f : Json → Option α} (hnull : f .null = none)
    (hstrip : ∀ v, f (stripNulls v) = f v) {j : Json} (hj : Canonical j) (key : String) :
    ((stripNulls j).get? key).bind f = (j.get? key).bind f := by
  rw [get?_stripNulls hj]
  cases j.get? key with
  | none => rfl
  | some v =>
    cases v with
    | null => exact hnull.symm
    | _ => exact hstrip _

theorem Json.textOf_stripNulls {envelope : Json} (h : Canonical envelope) (key : String) :
    (stripNulls envelope).textOf key = envelope.textOf key := by
  rw [textOf, textOf, get?_stripNulls_bind rfl _ h]
  intro v
  cases v <;> rfl

theorem Json.saysSealed_stripNulls {envelope : Json} (h : Canonical envelope) :
    (stripNulls envelope).saysSealed = envelope.saysSealed := by
  rw [saysSealed, saysSealed, get?_stripNulls_bind rfl _ h]
  intro v
  cases v <;> rfl

/-- A document may be read from the envelope and the command set without their nulls. -/
theorem readDocument_eq {envelope commandSet : Json} (henvelope : envelope.Canonical)
    (hset : commandSet.Canonical) :
    readDocument envelope commandSet =
      (PlanDocument.ofJson ((Json.stripNulls envelope).merge (Json.stripNulls commandSet))).mapError
        fun e => .config s!"Invalid execution plan: {e}" := by
  rw [readDocument, Json.stripNulls_merge henvelope hset]

/-- An envelope has every property that its parts have as they are read. -/
theorem Json.OfParts.decodeEnvelope {P : Json → Prop} (hP : OfParts P) {encoded : String}
    {envelope : Json} (h : decodeEnvelope encoded = .ok envelope) : P envelope := by
  rw [CommandAgent.decodeEnvelope] at h
  split at h
  · cases h
  split at h
  · cases h
  · next hparse =>
    split at h
    · cases h
      exact hP.parseOrExplain hparse
    · cases h

theorem canonical_of_decodeEnvelope {encoded : String} {envelope : Json}
    (h : decodeEnvelope encoded = .ok envelope) : envelope.Canonical :=
  Json.ofParts_canonical.decodeEnvelope h

/-! ### Command sets -/

/-- A command set that is held where the envelope names a file has been read from it. -/
theorem World.Holds.canonical {w : World} {envelope commandSet : Json} {label path : String}
    (h : w.Holds envelope commandSet)
    (hpath : Check.existingFile w (envelope.textOf "cmd_set_filepath") label = .ok path) :
    commandSet.Canonical := by
  obtain ⟨hwhere, node, hstat, hfile⟩ := Check.existingFile_eq_ok hpath
  obtain ⟨place, hplace, hnode⟩ := exists_place_of_stat hstat
  have hnames : w.Names envelope place := by
    rw [Names, ← hwhere]
    exact hplace
  obtain ⟨data, x, text, -, -, hparse⟩ := h place node hnames hnode hfile
  exact Json.canonical_of_parse hparse

/-! ### Loading -/

section
variable {w w' : World} {envelope envelope' commandSet commandSet' : Json}

/-- The plans behind two envelopes and two command sets that differ in null members. -/
theorem planBehind_congr (hfiles : w.files.Alike w'.files) (hcwd : w.cwd = w'.cwd)
    (henv : w.env = w'.env) (hcanonical : envelope.Canonical) (hcanonical' : envelope'.Canonical)
    (henvelope : Json.stripNulls envelope = Json.stripNulls envelope')
    (hset : Json.stripNulls commandSet = Json.stripNulls commandSet')
    (hholds : w.Holds envelope commandSet) (hholds' : w'.Holds envelope' commandSet') :
    planBehind w envelope commandSet = planBehind w' envelope' commandSet' := by
  have htext (key : String) : envelope.textOf key = envelope'.textOf key := by
    rw [← Json.textOf_stripNulls hcanonical, henvelope, Json.textOf_stripNulls hcanonical']
  have hsealed : envelope.saysSealed = envelope'.saysSealed := by
    rw [← Json.saysSealed_stripNulls hcanonical, henvelope, Json.saysSealed_stripNulls hcanonical']
  have hkeyed : envelope.keyed = envelope'.keyed := by
    rw [Json.keyed, Json.keyed, hsealed, htext]
  have hobject : commandSet.isObject = commandSet'.isObject := by
    rw [← Json.isObject_stripNulls, hset, Json.isObject_stripNulls]
  rw [planBehind_alike hfiles hcwd henv]
  unfold planBehind
  rw [htext, htext, hkeyed, hobject]
  cases hpath : Check.existingFile w' (envelope'.textOf "cmd_set_filepath")
      "Command set file (cmd_set_filepath)" with
  | error f => simp only [bind, Except.bind]
  | ok path =>
    have hpath' := hpath
    rw [← Check.existingFile_alike hfiles hcwd henv, ← htext] at hpath'
    have hdocument : readDocument envelope commandSet = readDocument envelope' commandSet' := by
      rw [readDocument_eq hcanonical (hholds.canonical hpath'),
        readDocument_eq hcanonical' (hholds'.canonical hpath), henvelope, hset]
    rw [hdocument]

end

/-- Null members are the same as absent members. Two envelopes that are equal without their null
members, and two command sets that are so, load to equal results, the same plan or the same failure,
in worlds that hold the one and the other command set, sealed or plain as the envelopes say, and
differ in nothing but the content of files. The log is not written to the command-set file. -/
theorem load_null_like_absent (parent : Logger) {w w' : World} {encoded encoded' : String}
    {envelope envelope' commandSet commandSet' : Json}
    (hdecode : decodeEnvelope encoded = .ok envelope)
    (hdecode' : decodeEnvelope encoded' = .ok envelope')
    (henvelope : Json.stripNulls envelope = Json.stripNulls envelope')
    (hset : Json.stripNulls commandSet = Json.stripNulls commandSet')
    (hholds : w.Holds envelope commandSet) (hholds' : w'.Holds envelope' commandSet')
    (hfiles : w.files.Alike w'.files) (hcwd : w.cwd = w'.cwd) (henv : w.env = w'.env)
    (hsink : ∀ place, w.Names envelope place → w.journal.sink ≠ some place)
    (hsink' : ∀ place, w'.Names envelope' place → w'.journal.sink ≠ some place) :
    (load parent encoded w).1 = (load parent encoded' w').1 := by
  rw [load_fst_of_holds hdecode hholds hsink, load_fst_of_holds hdecode' hholds' hsink']
  exact planBehind_congr hfiles hcwd henv (canonical_of_decodeEnvelope hdecode)
    (canonical_of_decodeEnvelope hdecode') henvelope hset hholds hholds'

/-! ### One envelope -/

/-- The argument for an envelope with a member that is null. -/
def nullArgument : String :=
  String.ofList
    ("eyJjbWRfZmlsZSI6Ii9jIiwiY21kX3NldF9m".toList ++ "aWxlcGF0aCI6Ii9zIiwiZW5jcnlwdGVkX2Rh".toList
      ++ "dGEiOm51bGx9".toList)

/-- The argument for the same envelope without that member. -/
def absentArgument : String :=
  String.ofList ("eyJjbWRfZmlsZSI6Ii9jIiwiY21kX3NldF9m".toList ++ "aWxlcGF0aCI6Ii9zIn0=".toList)

/-- The envelope with the member that is null. -/
def nullEnvelope : Json :=
  .object
    [("cmd_file", .string "/c"), ("cmd_set_filepath", .string "/s"), ("encrypted_data", .null)]

/-- The envelope without it. -/
def bareEnvelope : Json :=
  .object [("cmd_file", .string "/c"), ("cmd_set_filepath", .string "/s")]

theorem decodeEnvelope_nullArgument : decodeEnvelope nullArgument = .ok nullEnvelope :=
  decodeEnvelope_ofList (by decide +kernel)

theorem decodeEnvelope_absentArgument : decodeEnvelope absentArgument = .ok bareEnvelope :=
  decodeEnvelope_ofList (by decide +kernel)

def holdingText (text : String) : World :=
  commandFileOnly.holding ["s"] (Text.Utf8.encode text) false

theorem holds_holdingText {text : String} {envelope commandSet : Json}
    (hnames : (holdingText text).Names envelope ["s"]) (hplain : envelope.saysSealed = false)
    (hparse : Json.parse (Text.Utf8.encode text) = .ok commandSet) :
    (holdingText text).Holds envelope commandSet :=
  World.holds_of_file hnames (World.node?_holding _ (by decide) _ _) (.of_plain hplain _) hparse

/-- A command set for an interpreter in which a category is null. -/
def nullText : String :=
  "\x7b\"command_set\":[\x7b\"category\":null,\"id\":\"1\"\x7d]," ++ scriptEnd

/-- The same command set with the category absent, and the login null instead. -/
def absentText : String :=
  "\x7b\"auth\":null,\"command_set\":[\x7b\"id\":\"1\"\x7d]," ++ scriptEnd

/-- What the two have in common behind their commands. -/
def scriptMembers : Members :=
  [("host", .string "http://[::1]"), ("script", .string "sh"), ("task_id", .string "t")]

def nullSet : Json :=
  .object (("cmd_type", .string "script") ::
    ("command_set", .array [.object [("category", .null), ("id", .string "1")]]) :: scriptMembers)

def absentSet : Json :=
  .object (("auth", .null) :: ("cmd_type", .string "script") ::
    ("command_set", .array [.object [("id", .string "1")]]) :: scriptMembers)

/-- A mark that is null or absent, and a category in a list of commands that is: both plans load. -/
theorem load_null_like_absent_category :
    (load ⟨"agent", .debug⟩ nullArgument (holdingText nullText)).1 =
        (load ⟨"agent", .debug⟩ absentArgument (holdingText absentText)).1 ∧
      (load ⟨"agent", .debug⟩ absentArgument (holdingText absentText)).1 =
        .ok (scriptPlan "") := by
  have hholds : (holdingText nullText).Holds nullEnvelope nullSet :=
    holds_holdingText (by unfold World.Names; decide +kernel) (by decide +kernel)
      (by decide +kernel)
  have hholds' : (holdingText absentText).Holds bareEnvelope absentSet :=
    holds_holdingText (by unfold World.Names; decide +kernel) (by decide +kernel)
      (by decide +kernel)
  have hsink (text : String) (place : Place) : (holdingText text).journal.sink ≠ some place := by
    rw [holdingText, World.journal_holding]
    exact Option.some_ne_none place |>.symm
  constructor
  · apply load_null_like_absent _ decodeEnvelope_nullArgument decodeEnvelope_absentArgument
      (by decide +kernel) (by decide +kernel) hholds hholds' (World.alike_holding _ _ _ _ _)
    · rw [holdingText, holdingText, World.cwd_holding, World.cwd_holding]
    · rw [holdingText, holdingText, World.env_holding, World.env_holding]
    · exact fun place _ => hsink _ place
    · exact fun place _ => hsink _ place
  · rw [load_fst_of_holds decodeEnvelope_absentArgument hholds' fun place _ => hsink _ place]
    decide +kernel

end CommandAgent
