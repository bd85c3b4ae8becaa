import CommandAgent.Proofs.Host.Steps
import CommandAgent.Proofs.Plan.Rereading
import CommandAgent.Proofs.Plan.Transparency
import CommandAgent.Proofs.Text.Trimming

/-!
# Completing a document twice

Checking a document trims its texts, puts the home directory in place of a tilde and fills in
defaults. All of this is settled after one time: the document of a plan that was completed is
completed to the same plan (`Plan.ofDocument_document`), provided that the base of the URLs is one
that its check gives back unchanged, and that the home directory is an absolute path without outer
blanks.
-/

namespace CommandAgent

/-! ### Paths -/

namespace Text

theorem EndsPlain.append {cs rest : List Char} (hcs : EndsPlain cs) (hrest : EndsPlain rest) :
    EndsPlain (cs ++ rest) := by
  intro c hc
  rw [List.getLast?_append] at hc
  cases hlast : rest.getLast? with
  | none =>
    rw [hlast] at hc
    exact hcs c hc
  | some d =>
    rw [hlast] at hc
    exact hrest c (hlast.trans hc)

end Text

namespace Path

/-- A joined path ends in no blank if its parts do not. -/
theorem endsPlain_join {p q : String} (hp : Text.EndsPlain p.toList)
    (hq : Text.EndsPlain q.toList) : Text.EndsPlain (join p q).toList := by
  unfold join
  split
  · exact hq
  split
  · exact hq
  split
  · rw [String.toList_append]
    exact hp.append hq
  · rw [String.toList_append, String.toList_append]
    have hslash : Text.EndsPlain "/".toList := by
      intro c hc
      cases hc
      decide
    exact (hp.append hslash).append hq

end Path

namespace Environment

/-- The home directory, where there is one, is an absolute path without outer blanks. -/
def HomeAbsolute (env : Environment) : Prop :=
  ∀ home, env.get? "HOME" = some home → Path.isAbsolute home ∧ Text.trim home = home

variable {env : Environment}

/-- An absolute path that does not end with a blank is left as it is. -/
theorem expandHome_of_isAbsolute {p : String} (h : Path.isAbsolute p)
    (hend : Text.EndsPlain p.toList) : env.expandHome p = p := by
  rw [Path.isAbsolute_iff] at h
  have htrim : Text.trim p = p := by
    refine Text.trim_eq_self_iff.mpr ⟨?_, hend⟩
    intro c hc
    cases h.symm.trans hc
    decide
  unfold expandHome
  dsimp only
  rw [htrim]
  split
  · next heq _ =>
    rw [heq] at h
    cases h
  · next heq _ =>
    rw [heq] at h
    cases h
  · rfl

/-- Where the tilde has been replaced, there is none to replace. -/
theorem expandHome_expandHome (hhome : env.HomeAbsolute) (path : String) :
    env.expandHome (env.expandHome path) = env.expandHome path := by
  have hend := (Text.trim_eq_self_iff.mp (Text.trim_trim path)).2
  generalize hexpanded : env.expandHome path = expanded
  unfold expandHome at hexpanded
  dsimp only at hexpanded
  split at hexpanded
  · next rest home htext hset =>
    obtain ⟨habsolute, htrim⟩ := hhome home hset
    rw [htext] at hend
    have hrest : Text.EndsPlain (String.ofList rest).toList := by
      rw [String.toList_ofList]
      exact hend.of_suffix (List.suffix_append ['~', '/'] rest)
    rw [← hexpanded]
    exact expandHome_of_isAbsolute (Path.isAbsolute_join habsolute _)
      (Path.endsPlain_join (Text.trim_eq_self_iff.mp htrim).2 hrest)
  · next home htext hset =>
    obtain ⟨habsolute, htrim⟩ := hhome home hset
    rw [← hexpanded]
    exact expandHome_of_isAbsolute habsolute (Text.trim_eq_self_iff.mp htrim).2
  · next hslash htilde =>
    -- Nothing was replaced, and the trimmed text is matched a second time.
    rw [← hexpanded]
    unfold expandHome
    rw [Text.trim_trim]
    dsimp only
    split
    · next rest home htext hset => exact absurd hset (hslash rest home htext)
    · next home htext hset => exact absurd hset (htilde home htext)
    · rfl

end Environment

/-! ### Single values -/

theorem Check.identifier_trim (value label : String) :
    identifier (Text.trim value) label = identifier value label := by
  rw [identifier, Text.trim_trim, identifier]

@[simp] theorem Backend.parse_name (b : Backend) : parse b.name = .ok b := by
  cases b <;> rfl

/-! ### Whole documents -/

namespace Plan

/-- The plan is the document, checked and completed. -/
structure Completes (home : String → String) (d : PlanDocument) (p : Plan) : Prop where
  backend : Backend.parse d.cmdType = .ok p.backend
  taskId : Check.identifier d.taskId "task_id" = .ok p.taskId
  host : Check.baseUrl d.host "host" = .ok p.host
  address : p.backend.isNative → ∃ a, Check.identifier d.auth.address "auth.address" = .ok a
  port : p.backend.isNative → ∃ n, Check.port d.auth.port "auth.port" = .ok n
  named : ¬ p.backend.isNative → ∃ s, Check.identifier d.script "script" = .ok s
  token : p.token = d.token
  orgId : p.orgId = d.orgId
  script : p.script = Text.trim d.script
  scriptArgs : p.scriptArgs = d.scriptArgs
  auth : p.auth = d.auth
  cmdFile : p.cmdFile = home d.cmdFile
  cmdSetPath : p.cmdSetPath = home d.cmdSetPath
  commands : p.commands = d.commands
  encrypted : p.encrypted = d.encrypted
  envs : p.envs = d.envs
  prompt : p.prompt = (d.prompt.filter (!·.isEmpty)).getD defaultPrompt
  columns : p.columns = (d.columns.filter (0 < ·)).getD defaultColumns
  rows : p.rows = (d.rows.filter (0 < ·)).getD defaultRows

/-- A document gives a plan exactly if the plan completes it. -/
theorem ofDocument_eq_ok_iff {home : String → String} {d : PlanDocument} {p : Plan} :
    ofDocument home d = .ok p ↔ Completes home d p := by
  constructor
  · intro h
    unfold ofDocument at h
    obtain ⟨backend, hbackend, hrest⟩ := Json.bind_eq_ok h
    obtain ⟨taskId, htask, hrest⟩ := Json.bind_eq_ok hrest
    obtain ⟨host, hhost, hrest⟩ := Json.bind_eq_ok hrest
    clear h
    split at hrest
    · next hnative =>
      obtain ⟨a, haddress, hrest⟩ := Json.bind_eq_ok hrest
      obtain ⟨n, hport, hrest⟩ := Json.bind_eq_ok hrest
      obtain rfl := Except.ok.inj hrest
      exact ⟨hbackend, htask, hhost, fun _ => ⟨a, haddress⟩, fun _ => ⟨n, hport⟩,
        fun hother => absurd hnative hother, rfl, rfl, rfl, rfl, rfl, rfl, rfl, rfl, rfl, rfl, rfl,
        rfl, rfl⟩
    · next hnative =>
      obtain ⟨s, hscript, hrest⟩ := Json.bind_eq_ok hrest
      obtain rfl := Except.ok.inj hrest
      exact ⟨hbackend, htask, hhost, fun hother => absurd hother hnative,
        fun hother => absurd hother hnative, fun _ => ⟨s, hscript⟩, rfl, rfl, rfl, rfl, rfl, rfl,
        rfl, rfl, rfl, rfl, rfl, rfl, rfl⟩
  · intro h
    obtain ⟨taskId, host, token, orgId, backend, script, scriptArgs, auth, cmdFile, cmdSetPath,
      commands, encrypted, envs, prompt, columns, rows⟩ := p
    obtain ⟨hbackend, htask, hhost, haddress, hport, hnamed, rfl, rfl, rfl, rfl, rfl, rfl, rfl, rfl,
      rfl, rfl, rfl, rfl, rfl⟩ := h
    dsimp only at hbackend htask hhost haddress hport hnamed
    unfold ofDocument
    simp only [hbackend, htask, hhost, bind, Except.bind]
    by_cases hnative : backend.isNative
    · obtain ⟨a, ha⟩ := haddress hnative
      obtain ⟨n, hn⟩ := hport hnative
      simp only [hnative, if_true, ha, hn]
      rfl
    · obtain ⟨s, hs⟩ := hnamed hnative
      simp only [hnative, hs]
      rfl

variable {home : String → String} {d : PlanDocument} {p : Plan}

theorem Completes.prompt_ne_empty (h : Completes home d p) : p.prompt.isEmpty = false := by
  rw [h.prompt]
  cases hprompt : d.prompt.filter (!·.isEmpty) with
  | none => decide
  | some s => simpa using (Option.filter_eq_some_iff.mp hprompt).2

theorem word_pos {given : Option UInt16} {default : UInt16} (hdefault : 0 < default) :
    0 < (given.filter (0 < ·)).getD default := by
  cases hgiven : given.filter (0 < ·) with
  | none => exact hdefault
  | some n => simpa using (Option.filter_eq_some_iff.mp hgiven).2

/-- The document of a plan is completed to that plan. -/
theorem Completes.again (h : Completes home d p) (hhome : ∀ path, home (home path) = home path)
    (hhost : Check.baseUrl p.host "host" = .ok p.host) : Completes home p.document p where
  backend := p.backend.parse_name
  taskId := by
    have htask := h.taskId
    rw [← Check.identifier_trim, ← Check.eq_trim_of_identifier h.taskId] at htask
    exact htask
  host := hhost
  address := by rw [document, h.auth]; exact h.address
  port := by rw [document, h.auth]; exact h.port
  named := by rw [document, h.script, Check.identifier_trim]; exact h.named
  token := rfl
  orgId := rfl
  script := by rw [document, h.script, Text.trim_trim]
  scriptArgs := rfl
  auth := rfl
  cmdFile := by rw [document, h.cmdFile, hhome]
  cmdSetPath := by rw [document, h.cmdSetPath, hhome]
  commands := rfl
  encrypted := rfl
  envs := rfl
  prompt := by
    have hkept : (some p.prompt).filter (!·.isEmpty) = some p.prompt := by
      simp [h.prompt_ne_empty]
    rw [document, hkept, Option.getD_some]
  columns := by
    have hpos : 0 < p.columns := by
      rw [h.columns]
      exact word_pos (by decide)
    rw [document, Option.filter_some_pos (by simpa using hpos), Option.getD_some]
  rows := by
    have hpos : 0 < p.rows := by
      rw [h.rows]
      exact word_pos (by decide)
    rw [document, Option.filter_some_pos (by simpa using hpos), Option.getD_some]

/-- Completing a document twice is completing it once. -/
theorem ofDocument_document {w : World} (h : ofDocument w.expandHome d = .ok p)
    (hhome : w.env.HomeAbsolute) (hhost : Check.baseUrl p.host "host" = .ok p.host) :
    ofDocument w.expandHome p.document = .ok p :=
  ofDocument_eq_ok_iff.mpr ((ofDocument_eq_ok_iff.mp h).again
    (Environment.expandHome_expandHome hhome) hhost)

end Plan
end CommandAgent
