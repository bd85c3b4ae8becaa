import CommandAgent.Proofs.Plan.Stages
import CommandAgent.Proofs.Url.Base

/-!
# Loaded plans are valid

Whatever the argument, the files and the command set are: a plan that is loaded names its task,
reports to a base of http URLs, knows its database or its interpreter, waits for a prompt that can
be found and has a terminal of some size (`load_valid`).

What a check gives back has the form that the check is about (`Check.named_of_identifier`,
`Check.isBase_of_baseUrl`). The checks are made on the document, after the command set has been laid
over the envelope, so it does not matter which of the two a value is from.
-/

namespace CommandAgent

/-! ### Texts -/

namespace Text

/-- A text that names something: it has no blanks around it, is not empty and holds no NUL. -/
structure Named (s : String) : Prop where
  nonempty : s ≠ ""
  trimmed : trim s = s
  solid : '\x00' ∉ s.toList

/-- A character that is not blank outlasts trimming. -/
theorem mem_toList_trim {s : String} {c : Char} (hc : c ∈ s.toList) (hplain : ¬ isBlank c) :
    c ∈ (trim s).toList := by
  have hkept {cs : List Char} (hc : c ∈ cs) : c ∈ dropBlanks cs := by
    rw [← cs.takeWhile_append_dropWhile (p := isBlank)] at hc
    rcases List.mem_append.mp hc with hc | hc
    · exact absurd (List.mem_takeWhile_imp hc) hplain
    · exact hc
  rw [toList_trim, dropTrailingBlanks, List.mem_reverse]
  exact hkept (List.mem_reverse.mpr (hkept hc))

theorem exists_mem_of_trim_ne_empty {s : String} (h : trim s ≠ "") :
    ∃ c ∈ s.toList, ¬ isBlank c := by
  by_contra hblank
  push Not at hblank
  apply h
  rw [← String.toList_inj, toList_trim, dropBlanks, List.dropWhile_eq_nil_iff.mpr hblank]
  rfl

/-- What has been taken off the end of a text are slashes. -/
theorem exists_toList_eq_trimEndSlashes (s : String) :
    ∃ n, s.toList = (trimEndSlashes s).toList ++ List.replicate n '/' := by
  have hslashes : s.toList.reverse.takeWhile (· == '/') =
      List.replicate (s.toList.reverse.takeWhile (· == '/')).length '/' := by
    refine List.eq_replicate_iff.mpr ⟨rfl, fun c hc => ?_⟩
    have hc := List.mem_takeWhile_imp (p := (· == '/')) hc
    exact beq_iff_eq.mp hc
  refine ⟨(s.toList.reverse.takeWhile (· == '/')).length, ?_⟩
  calc s.toList
      = (s.toList.reverse.dropWhile (· == '/')).reverse
          ++ (s.toList.reverse.takeWhile (· == '/')).reverse := by
        rw [← List.reverse_append, List.takeWhile_append_dropWhile, List.reverse_reverse]
    _ = (trimEndSlashes s).toList
          ++ (List.replicate (s.toList.reverse.takeWhile (· == '/')).length '/').reverse := by
        rw [trimEndSlashes, String.toList_ofList, ← hslashes]
    _ = _ := by rw [List.reverse_replicate]

theorem getLast?_trimEndSlashes (s : String) : (trimEndSlashes s).toList.getLast? ≠ some '/' := by
  rw [trimEndSlashes, String.toList_ofList, List.getLast?_reverse]
  intro hlast
  have hhead := List.head?_dropWhile_not (· == '/') s.toList.reverse
  rw [hlast] at hhead
  cases hhead

end Text

/-! ### Checks -/

namespace Check

variable {value label s : String}

theorem named_of_identifier (h : identifier value label = .ok s) : Text.Named s := by
  have htrim := eq_trim_of_identifier h
  simp only [identifier, ← htrim] at h
  split at h
  · cases h
  next hne =>
  split at h
  · cases h
  next hsolid =>
  refine ⟨?_, ?_, ?_⟩
  · rintro rfl
    exact hne rfl
  · rw [htrim, Text.trim_trim]
  · simpa using hsolid

/-- What has been checked has a character that is not blank, and no NUL. -/
theorem forall_of_identifier (h : identifier value label = .ok s) :
    (∃ c ∈ value.toList, ¬ Text.isBlank c) ∧ '\x00' ∉ value.toList := by
  have hnamed := named_of_identifier h
  rw [eq_trim_of_identifier h] at hnamed
  refine ⟨Text.exists_mem_of_trim_ne_empty hnamed.nonempty, fun hnul => ?_⟩
  exact hnamed.solid (Text.mem_toList_trim hnul (by decide))

theorem isBase_of_baseUrl (h : baseUrl value label = .ok s) : Url.IsBase s (Text.trim value) := by
  unfold baseUrl at h
  obtain ⟨raw, hraw, hrest⟩ := Json.bind_eq_ok h
  rw [← eq_trim_of_identifier hraw]
  clear h
  split at hrest
  · cases hrest
  next u hu =>
  split at hrest
  · cases hrest
  next hscheme =>
  cases hrest
  obtain ⟨n, hn⟩ := Text.exists_toList_eq_trimEndSlashes raw
  refine ⟨?_, Text.getLast?_trimEndSlashes raw, ⟨n, hn⟩, u, hu, ?_⟩
  · intro hempty
    rw [hempty] at hn
    rw [Url.parse_slashes hn] at hu
    cases hu
  · by_contra hother
    exact hscheme (not_or.mp hother)

theorem range_of_port {n m : UInt16} (h : port n label = .ok m) :
    minPort ≤ n.toNat ∧ n.toNat ≤ maxPort := by
  have hhigh := n.toNat_lt
  unfold port at h
  split at h
  · cases h
  · next hlow => exact ⟨Nat.not_lt.mp hlow, by unfold maxPort; omega⟩

end Check

/-! ### Plans -/

/-- A plan that can be carried out, whose base of URLs is taken from a text. -/
structure Plan.Valid (p : Plan) (hostText : String) : Prop where
  taskId : Text.Named p.taskId
  host : Url.IsBase p.host hostText
  address : p.backend = .mysql ∨ p.backend = .oracle →
    (∃ c ∈ p.auth.address.toList, ¬ Text.isBlank c) ∧ '\x00' ∉ p.auth.address.toList
  port : p.backend = .mysql ∨ p.backend = .oracle →
    1 ≤ p.auth.port.toNat ∧ p.auth.port.toNat ≤ 65535
  script : p.backend = .script ∨ p.backend = .localScript → Text.Named p.script
  prompt : p.prompt ≠ ""
  columns : 1 ≤ p.columns.toNat
  rows : 1 ≤ p.rows.toNat

/-- A document that has been completed is a valid plan. -/
theorem Plan.Completes.valid {home : String → String} {d : PlanDocument} {p : Plan}
    (h : p.Completes home d) : p.Valid (Text.trim d.host) where
  taskId := Check.named_of_identifier h.taskId
  host := Check.isBase_of_baseUrl h.host
  address := by
    rintro (hbackend | hbackend)
    all_goals
      obtain ⟨a, ha⟩ := h.address (by rw [hbackend]; rfl)
      rw [h.auth]
      exact Check.forall_of_identifier ha
  port := by
    rintro (hbackend | hbackend)
    all_goals
      obtain ⟨n, hn⟩ := h.port (by rw [hbackend]; rfl)
      rw [h.auth]
      exact Check.range_of_port hn
  script := by
    rintro (hbackend | hbackend)
    all_goals
      obtain ⟨s, hs⟩ := h.named (by rw [hbackend]; decide)
      rw [h.script, ← Check.eq_trim_of_identifier hs]
      exact Check.named_of_identifier hs
  prompt := by
    intro hempty
    have hprompt := h.prompt_ne_empty
    rw [hempty] at hprompt
    cases hprompt
  columns := by
    rw [h.columns]
    exact UInt16.lt_iff_toNat_lt.mp (word_pos (by decide))
  rows := by
    rw [h.rows]
    exact UInt16.lt_iff_toNat_lt.mp (word_pos (by decide))

/-- Every loaded plan is valid. It is read from an envelope, which the argument gives, and a command
set, which stands in the file that the envelope names; its base of URLs is taken from the text that
the two give together. -/
theorem load_valid {parent : Logger} {encoded : String} {w : World} {p : Plan}
    (h : (load parent encoded w).1 = .ok p) :
    ∃ envelope commandSet d, decodeEnvelope encoded = .ok envelope ∧
      (announced parent envelope w).Holds envelope commandSet ∧
      readDocument envelope commandSet = .ok d ∧ p.Valid (Text.trim d.host) := by
  obtain ⟨envelope, commandSet, d, hdecode, hstages⟩ := exists_stages_of_load h
  exact ⟨envelope, commandSet, d, hdecode, hstages.held, hstages.document,
    hstages.completes.valid⟩

/-! ### One plan -/

/-- The text of a command set with a record in the form of a list, an empty prompt and a width of
zero. -/
def databaseText : String :=
  "\x7b\"auth\":[\" db \",3306],\"cmd_type\":\" mysql\",\"host\":\" http://[::1]:8080// \","
    ++ "\"prompt\":\"\",\"pty_cols\":0,\"pty_rows\":null,\"task_id\":\" t \"\x7d"

/-- What it reads as. -/
def databaseSet : Json :=
  .object
    [("auth", .array [.string " db ", .int 3306]), ("cmd_type", .string " mysql"),
      ("host", .string " http://[::1]:8080// "), ("prompt", .string ""), ("pty_cols", .int 0),
      ("pty_rows", .null), ("task_id", .string " t ")]

def databasePlan : Plan where
  taskId := "t"
  host := "http://[::1]:8080"
  token := ""
  orgId := ""
  backend := .mysql
  script := ""
  scriptArgs := []
  auth := { address := " db ", port := 3306 }
  cmdFile := "/c"
  cmdSetPath := "/s"
  commands := []
  encrypted := false
  envs := ""
  prompt := "mysql> "
  columns := 80
  rows := 24

/-- A plan for a database, most of whose values are defaults. -/
theorem load_valid_database :
    (load ⟨"agent", .debug⟩ absentArgument (holdingText databaseText)).1 = .ok databasePlan ∧
      ∃ envelope commandSet d, decodeEnvelope absentArgument = .ok envelope ∧
        (announced ⟨"agent", .debug⟩ envelope (holdingText databaseText)).Holds envelope
          commandSet ∧
        readDocument envelope commandSet = .ok d ∧ databasePlan.Valid (Text.trim d.host) := by
  have hload : (load ⟨"agent", .debug⟩ absentArgument (holdingText databaseText)).1 =
      .ok databasePlan := by
    rw [load_holdingText _ databaseSet (by decide +kernel)]
    exact Json.eq_ok_of_toOption (by decide +kernel)
  exact ⟨hload, load_valid hload⟩

end CommandAgent
