import CommandAgent.Agent
import CommandAgent.Proofs.Plan.Validity
import CommandAgent.Proofs.Task.Exchanges
import CommandAgent.Proofs.Text.Masking
import Mathlib.Data.List.Infix

/-!
# Endpoints of a task

A plan's reports go to two addresses behind its base: those on the task to one, those on its
commands to the other. The ids of tasks are put into them as they stand. Where the id is one segment
of an address (`Url.IsName`) and the base a plain one (`Url.IsPlain`), each request of a run reaches
the server of the base, with a path in which one segment stands for the id (`load_endpoints`). So
the tasks of two ids at one base share no endpoint (`Plan.KeepsApart`). An id with a hash cuts both
addresses off to the same one (`job_loses_callbacks`).
-/

namespace CommandAgent

open Http (Exchange Request)

/-! ### Names in addresses -/

namespace Url

instance (c : Char) : Decidable (IsSolid c) := inferInstanceAs (Decidable (_ ∧ _))

instance (cs : List Char) : Decidable (Unescaped cs) :=
  decidable_of_iff (∀ t ∈ cs.tails, t.head? = some '%' → escaped? t.tail = none) <| by
    constructor
    · exact fun h rest hrest => h _ ((List.mem_tails _ _).mpr hrest) rfl
    · intro h t ht hhead
      obtain ⟨rest, rfl⟩ := List.head?_eq_some_iff.mp hhead
      exact h rest ((List.mem_tails _ _).mp ht)

/-- A name that is one segment of an address as it stands: nothing in it ends a segment or is left
out, nothing is an escape, and it is neither one dot nor two. -/
structure IsName (name : String) : Prop where
  solid : ∀ c ∈ name.toList, IsSolid c
  unescaped : Unescaped name.toList
  single : name ≠ "."
  double : name ≠ ".."

instance (name : String) : Decidable (IsName name) :=
  decidable_of_iff
    (name.toList.all (fun c => IsSolid c) ∧ Unescaped name.toList ∧ name ≠ "." ∧ name ≠ "..")
    ⟨fun ⟨hsolid, hplain, hsingle, hdouble⟩ =>
        ⟨by simpa using hsolid, hplain, hsingle, hdouble⟩,
      fun h => ⟨by simpa using h.solid, h.unescaped, h.single, h.double⟩⟩

def segmentOf (name : String) : String := String.ofList (encodeWith pathSet name.toList)

section
variable {name : String}

theorem IsName.decodeBytes_eq (h : IsName name) :
    decodeBytes name.toList = Text.Utf8.encode name := decodeBytes_of_unescaped h.unescaped

/-- A name stands for nothing but itself. -/
theorem IsName.decodeBytes_ne (h : IsName name) {s : String} (hne : name ≠ s) :
    decodeBytes name.toList ≠ Text.Utf8.encode s := by
  intro hbytes
  apply hne
  have htext := congrArg Text.Utf8.decode? (h.decodeBytes_eq.symm.trans hbytes)
  simpa using htext

theorem IsName.segment (h : IsName name) : Segment (encodeWith pathSet name.toList) := by
  apply segment_encodeWith
  · rintro c hc rfl
    exact absurd (h.solid _ hc) (by decide)
  · exact h.decodeBytes_ne h.single
  · exact h.decodeBytes_ne h.double

/-- The segment stands for the name. -/
theorem IsName.decode?_segmentOf (h : IsName name) : decode? (segmentOf name) = some name := by
  rw [decode?, segmentOf, String.toList_ofList, decodeBytes_encodeWith spares_pathSet,
    h.decodeBytes_eq, Text.Utf8.decode?_encode]

theorem IsName.slash_notMem (h : IsName name) : '/' ∉ (segmentOf name).toList := by
  rw [segmentOf, String.toList_ofList]
  exact fun hslash => h.segment.solid '/' hslash rfl

end

/-- A base with names behind it, each closed by a slash. -/
def behind (base : String) (names : List String) : String :=
  String.ofList (base.toList ++ '/' :: names.flatMap fun name => name.toList ++ ['/'])

/-- Names that are written behind a plain base lead to the base's server, and there to the base's
path with the names' segments behind it. -/
theorem exists_parse_names {base text : String} (h : IsBase base text) (hplain : IsPlain base) :
    ∃ u, parse base = .ok u ∧ (u.scheme = "http" ∨ u.scheme = "https") ∧ u.host.isSome ∧
      ∀ names : List String, (∀ name ∈ names, IsName name) →
        ∃ v, parse (behind base names) = .ok v ∧
          v.IsAt u (behind (withoutSlash u.path) (names.map segmentOf)).toList := by
  obtain ⟨u, hbase, hscheme, hhost, hparse⟩ := exists_parse_behind h hplain
  refine ⟨u, hbase, hscheme, hhost, fun names hnames => ?_⟩
  have hsolid : ∀ s ∈ names.map String.toList, ∀ c ∈ s, IsSolid c := by
    intro s hs
    obtain ⟨name, hname, rfl⟩ := List.mem_map.mp hs
    exact (hnames name hname).solid
  have hsegment : ∀ s ∈ names.map String.toList, Segment (encodeWith pathSet s) := by
    intro s hs
    obtain ⟨name, hname, rfl⟩ := List.mem_map.mp hs
    exact (hnames name hname).segment
  obtain ⟨v, hv, hat⟩ := hparse _ hsolid hsegment
  rw [List.flatMap_map] at hv
  refine ⟨v, hv, ?_⟩
  have hpath : (behind (withoutSlash u.path) (names.map segmentOf)).toList =
      (withoutSlash u.path).toList ++ '/' ::
        ((names.map String.toList).map (encodeWith pathSet)).flatMap (fun s => s ++ ['/']) := by
    simp only [behind, segmentOf, String.toList_ofList, List.flatMap_map]
  rwa [hpath]

end Url

/-! ### Requests -/

namespace Http

/-- The request is sent to the server of a URL, and asks it for a target. -/
def Request.Reaches (r : Request) (u : Url) (target : String) : Prop :=
  ∃ v, r.url = .ok v ∧ v.scheme = u.scheme ∧ v.host = u.host ∧ v.port = u.port ∧
    Http.target v = target

variable {r : Request} {u v : Url} {target : String}

/-- A request reaches the target at which its address reads as a URL. -/
theorem Request.reaches_of_parse (hparse : Url.parse r.address = .ok v)
    (hat : v.IsAt u target.toList) (hscheme : u.scheme = "http" ∨ u.scheme = "https")
    (hhost : u.host.isSome) : r.Reaches u target := by
  have hallowed : schemes.contains v.scheme = true := by
    rw [hat.scheme]
    rcases hscheme with h | h <;> rw [h] <;> decide
  have hknown : v.host.isNone = false := by
    rw [hat.host, Option.isNone_eq_false_iff]
    exact hhost
  refine ⟨withoutCredentials v, ?_, hat.scheme, hat.host, hat.port, ?_⟩
  · rw [Request.url, hparse]
    simp only [hknown, hallowed, if_true, Bool.false_eq_true, if_false]
  · show v.path ++ (v.query.map ("?" ++ ·)).getD "" = target
    rw [hat.query, ← String.toList_inj, String.toList_append, hat.path]
    exact List.append_nil _

/-- A request asks for one target. -/
theorem Request.Reaches.target_eq {u' : Url} {target' : String} (h : r.Reaches u target)
    (h' : r.Reaches u' target') : target = target' := by
  obtain ⟨v, hv, -, -, -, rfl⟩ := h
  obtain ⟨v', hv', -, -, -, rfl⟩ := h'
  rw [hv] at hv'
  rw [Except.ok.inj hv']

end Http

/-! ### The two endpoints -/

/-- The path of a task: behind that of the base, with a segment for the id. -/
def Url.taskPath (u : Url) (segment : String) : String :=
  withoutSlash u.path ++ "/api/v1/behemoth/executions/" ++ segment ++ "/"

def Url.commandPath (u : Url) (segment : String) : String := u.taskPath segment ++ "command/"

/-- The names that stand before the id of a task. -/
def Reporter.root : List String := ["api", "v1", "behemoth", "executions"]

theorem behind_task (base name : String) :
    base ++ "/api/v1/behemoth/executions/" ++ name ++ "/" =
      Url.behind base (Reporter.root ++ [name]) := by
  have hroot : "/api/v1/behemoth/executions/".toList =
      '/' :: Reporter.root.flatMap fun name => name.toList ++ ['/'] := by decide +kernel
  have hslash : "/".toList = ['/'] := by decide
  rw [← String.toList_inj]
  simp only [Url.behind, String.toList_append, String.toList_ofList, hroot, hslash,
    List.flatMap_append, List.flatMap_singleton, List.append_assoc, List.cons_append]

theorem behind_command (base name : String) :
    base ++ "/api/v1/behemoth/executions/" ++ name ++ "/" ++ "command/" =
      Url.behind base (Reporter.root ++ [name, "command"]) := by
  have hcommand : "command/".toList = "command".toList ++ ['/'] := by decide +kernel
  rw [behind_task, ← String.toList_inj]
  simp only [Url.behind, String.toList_append, String.toList_ofList, hcommand,
    List.flatMap_append, List.flatMap_cons, List.flatMap_nil, List.append_assoc, List.cons_append,
    List.append_nil]

/-- Requests to the two addresses of a name behind a plain base reach the two endpoints of its
segment. -/
theorem exists_reaches {base text : String} (h : Url.IsBase base text) (hplain : Url.IsPlain base) :
    ∃ u, Url.parse base = .ok u ∧ ∀ name, Url.IsName name → ∀ r : Request,
      (r.address = base ++ "/api/v1/behemoth/executions/" ++ name ++ "/" →
        r.Reaches u (u.taskPath (Url.segmentOf name))) ∧
      (r.address = base ++ "/api/v1/behemoth/executions/" ++ name ++ "/" ++ "command/" →
        r.Reaches u (u.commandPath (Url.segmentOf name))) := by
  obtain ⟨u, hbase, hscheme, hhost, hparse⟩ := Url.exists_parse_names h hplain
  have hfixed : ∀ fixed ∈ Reporter.root ++ ["command"], Url.IsName fixed := by decide +kernel
  have hroot : Reporter.root.map Url.segmentOf = Reporter.root := by decide +kernel
  have hcommand : Url.segmentOf "command" = "command" := by decide +kernel
  obtain ⟨hfixed, hlast⟩ := List.forall_mem_append.mp hfixed
  refine ⟨u, hbase, fun name hname r => ⟨fun haddress => ?_, fun haddress => ?_⟩⟩
  · obtain ⟨v, hv, hat⟩ := hparse (Reporter.root ++ [name])
      (List.forall_mem_append.mpr ⟨hfixed, List.forall_mem_singleton.mpr hname⟩)
    rw [List.map_append, hroot, List.map_singleton, ← behind_task] at hat
    rw [← behind_task, ← haddress] at hv
    exact Request.reaches_of_parse hv hat hscheme hhost
  · obtain ⟨v, hv, hat⟩ := hparse (Reporter.root ++ [name, "command"])
      (List.forall_mem_append.mpr ⟨hfixed, List.forall_mem_cons.mpr ⟨hname, hlast⟩⟩)
    rw [List.map_append, hroot, List.map_cons, List.map_singleton, hcommand,
      ← behind_command] at hat
    rw [← behind_command, ← haddress] at hv
    exact Request.reaches_of_parse hv hat hscheme hhost

/-! ### Different endpoints -/

namespace Url

variable {u : Url} {segment other : String}

/-- What stands behind the path of a task, and the task, are told by the whole. -/
theorem taskPath_append_inj {more more' : String} (h : '/' ∉ segment.toList)
    (h' : '/' ∉ other.toList) (heq : u.taskPath segment ++ more = u.taskPath other ++ more') :
    segment = other ∧ more = more' := by
  have hslash : "/".toList = ['/'] := by decide
  rw [← String.toList_inj] at heq
  simp only [taskPath, String.toList_append, hslash, List.append_assoc] at heq
  have heq := List.append_cancel_left (List.append_cancel_left heq)
  obtain ⟨hsegment, hmore⟩ := Text.eq_and_eq_of_append_cons h h' heq
  exact ⟨String.toList_inj.mp hsegment, String.toList_inj.mp hmore⟩

end Url

/-! ### Tasks -/

/-- A reporter's base is the one of its plan. -/
theorem Reporter.base_ofPlan {parent : Logger} {env : Environment} {p : Plan} {r : Reporter}
    (h : ofPlan parent env p = .ok r) (hsolid : p.host.toList.getLast? ≠ some '/') :
    r.base = p.host := by
  have htrim : trimSlashes p.host = p.host := by
    have hfirst : ∀ c ∈ p.host.toList.reverse.head?, (c == '/') = false := by
      intro c hc
      rw [List.head?_reverse] at hc
      exact beq_eq_false_iff_ne.mpr fun heq => hsolid (heq ▸ hc)
    have hkept : p.host.toList.reverse.dropWhile (· == '/') = p.host.toList.reverse :=
      Url.dropWhile_span (fun c hc => absurd hc List.not_mem_nil) hfirst
    rw [trimSlashes, hkept, List.reverse_reverse, String.ofList_toList]
  unfold ofPlan create at h
  dsimp only at h
  split at h
  · split at h
    · cases h
      exact htrim
    · cases h
  · cases h

namespace Task

variable {σ : Type}

/-- The task is that of carrying out a plan, with a reporter for it. -/
structure CarriesOut (t : Task σ) (p : Plan) : Prop where
  plan : t.plan = p
  reporter : ∃ parent env, Reporter.ofPlan parent env p = .ok t.reporter

/-- The request is a report on the task. -/
def IsStatusReport (t : Task σ) (r : Request) : Prop :=
  ∃ status reason, r = t.statusRequest status reason

/-- The request is a report on a command. -/
def IsCallback (t : Task σ) (r : Request) : Prop :=
  ∃ c o seconds, r = t.commandRequest c o seconds

section
variable {t : Task σ} {p : Plan} {r : Request}

/-- The base of the task's reporter is that of the plan. -/
theorem CarriesOut.base (h : t.CarriesOut p) (hsolid : p.host.toList.getLast? ≠ some '/') :
    t.reporter.base = p.host := by
  obtain ⟨parent, env, hreporter⟩ := h.reporter
  exact Reporter.base_ofPlan hreporter hsolid

theorem CarriesOut.address_status (h : t.CarriesOut p)
    (hsolid : p.host.toList.getLast? ≠ some '/') (hstatus : t.IsStatusReport r) :
    r.address = p.host ++ "/api/v1/behemoth/executions/" ++ p.taskId ++ "/" := by
  obtain ⟨status, reason, rfl⟩ := hstatus
  rw [← h.base hsolid, ← h.plan]
  rfl

theorem CarriesOut.address_callback (h : t.CarriesOut p)
    (hsolid : p.host.toList.getLast? ≠ some '/') (hcallback : t.IsCallback r) :
    r.address =
      p.host ++ "/api/v1/behemoth/executions/" ++ p.taskId ++ "/" ++ "command/" := by
  obtain ⟨c, o, seconds, rfl⟩ := hcallback
  rw [← h.base hsolid, ← h.plan]
  rfl

end

/-- All requests of a course are reports on the task or on a command. -/
theorem Course.isReport {t : Task σ} {commands : List Command} {before : Nat}
    {rounds : List Round} {result : Except Failure Conclusion} {story : List Event}
    (h : t.Course commands before rounds result story) (hreported : ∀ r ∈ rounds, t.Reported r) :
    ∀ e ∈ Event.exchanges story, t.IsStatusReport e.request ∨ t.IsCallback e.request := by
  have hrounds : ∀ e ∈ Event.exchanges (rounds.flatMap Round.events),
      t.IsStatusReport e.request ∨ t.IsCallback e.request := by
    rw [Event.exchanges_rounds, List.forall_mem_map]
    intro r hr
    obtain ⟨seconds, hrequest⟩ := hreported r hr
    exact .inr ⟨_, _, _, hrequest⟩
  cases h with
  | @completed _ e _ _ he =>
    have hending : Event.exchanges [.closed, .exchanged e] = [e] := rfl
    rw [Event.exchanges_append, hending, List.forall_mem_append, List.forall_mem_singleton]
    exact ⟨hrounds, .inl ⟨_, _, he⟩⟩
  | stopped _ _ _ =>
    have hending : Event.exchanges [.closed] = [] := rfl
    rwa [Event.exchanges_append, hending, List.append_nil]

/-- All requests of a run are reports on the task or on a command. -/
theorem isReport_of_mem_run (t : Task σ) (s : σ) (w : World) :
    ∀ e ∈ Event.exchanges (t.run s w).2.events,
      t.IsStatusReport e.request ∨ t.IsCallback e.request := by
  cases h : t.connectResult s w with
  | error f =>
    obtain ⟨e, -, hevents, hrequest⟩ := run_of_connect_error h
    have hreport : Event.exchanges [.connected (some f), .exchanged e] = [e] := rfl
    rw [hevents, hreport, List.forall_mem_singleton]
    exact .inl ⟨_, _, hrequest⟩
  | ok u =>
    obtain ⟨e, rounds, story, hevents, hrequest, hcourse, hreported⟩ := run_of_connect_ok h
    have hopening : Event.exchanges [.connected none, .exchanged e, .pinging] = [e] := rfl
    rw [hevents, Event.exchanges_append, hopening, List.forall_mem_append,
      List.forall_mem_singleton]
    exact ⟨.inl ⟨_, _, hrequest⟩, hcourse.isReport hreported⟩

end Task

/-! ### Plans -/

/-- Some server is asked for the same by the two requests. -/
def Http.Request.SharesTarget (r r' : Request) : Prop :=
  ∃ u u' target, r.Reaches u target ∧ r'.Reaches u' target

/-- The endpoints of a plan are at the server of its base, with a path in which one segment stands
for its id. -/
structure Plan.EndpointsAt (p : Plan) (u : Url) (segment : String) : Prop where
  base : Url.parse p.host = .ok u
  single : '/' ∉ segment.toList
  decoded : Url.decode? segment = some p.taskId
  status : ∀ {σ : Type} {t : Task σ}, t.CarriesOut p → ∀ r, t.IsStatusReport r →
    r.Reaches u (u.taskPath segment)
  callback : ∀ {σ : Type} {t : Task σ}, t.CarriesOut p → ∀ r, t.IsCallback r →
    r.Reaches u (u.commandPath segment)

/-- Where requests in runs of the two plans share a target, the plans have one id, and it is not a
report on a command that meets one on a task. -/
def Plan.KeepsApart (p q : Plan) : Prop :=
  ∀ {σ τ : Type} {t : Task σ} {t' : Task τ}, t.CarriesOut p → t'.CarriesOut q →
    ∀ (s : σ) (s' : τ) (w w' : World), ∀ e ∈ Event.exchanges (t.run s w).2.events,
      ∀ e' ∈ Event.exchanges (t'.run s' w').2.events, e.request.SharesTarget e'.request →
        q.taskId = p.taskId ∧ (t.IsCallback e.request → ¬ t'.IsStatusReport e'.request)

namespace Plan.EndpointsAt

variable {p q : Plan} {u v : Url} {segment other target : String}

section
variable {σ : Type} {t : Task σ} {r : Request}

theorem target_status (h : p.EndpointsAt u segment) (ht : t.CarriesOut p)
    (hstatus : t.IsStatusReport r) (hreaches : r.Reaches v target) :
    target = u.taskPath segment ++ "" := by
  rw [String.append_empty]
  exact hreaches.target_eq (h.status ht r hstatus)

theorem target_callback (h : p.EndpointsAt u segment) (ht : t.CarriesOut p)
    (hcallback : t.IsCallback r) (hreaches : r.Reaches v target) :
    target = u.taskPath segment ++ "command/" :=
  hreaches.target_eq (h.callback ht r hcallback)

/-- All targets of a plan lie behind the path of its task. -/
theorem exists_target (h : p.EndpointsAt u segment) (ht : t.CarriesOut p)
    (hreport : t.IsStatusReport r ∨ t.IsCallback r) (hreaches : r.Reaches v target) :
    ∃ more, target = u.taskPath segment ++ more := by
  rcases hreport with hstatus | hcallback
  · exact ⟨_, h.target_status ht hstatus hreaches⟩
  · exact ⟨_, h.target_callback ht hcallback hreaches⟩

end

/-- Plans whose endpoints are at one server keep apart. -/
theorem keepsApart (hp : p.EndpointsAt u segment) (hq : q.EndpointsAt u other) :
    p.KeepsApart q := by
  intro σ τ t t' ht ht' s s' w w' e he e' he' hshares
  obtain ⟨v, v', target, hreaches, hreaches'⟩ := hshares
  refine ⟨?_, fun hcallback hstatus => ?_⟩
  · obtain ⟨more, hmore⟩ := hp.exists_target ht (t.isReport_of_mem_run s w e he) hreaches
    obtain ⟨more', hmore'⟩ := hq.exists_target ht' (t'.isReport_of_mem_run s' w' e' he') hreaches'
    rw [hmore] at hmore'
    obtain ⟨rfl, -⟩ := Url.taskPath_append_inj hp.single hq.single hmore'
    exact Option.some.inj (hq.decoded.symm.trans hp.decoded)
  · have hcommand := hp.target_callback ht hcallback hreaches
    rw [hq.target_status ht' hstatus hreaches'] at hcommand
    obtain ⟨-, hempty⟩ := Url.taskPath_append_inj hq.single hp.single hcommand
    exact absurd hempty (by decide)

end Plan.EndpointsAt

/-- The endpoints of a loaded plan whose base is plain and whose id is a name: every request of its
runs is a report on the task or on a command, and reaches the endpoint for it. No plan at the same
base with a name for its id meets it there, unless the ids are equal. -/
theorem load_endpoints {parent : Logger} {encoded : String} {w : World} {p : Plan}
    (h : (load parent encoded w).1 = .ok p) (hbase : Url.IsPlain p.host)
    (hid : Url.IsName p.taskId) :
    ∃ u segment, p.EndpointsAt u segment ∧
      (∀ {σ : Type} {t : Task σ}, t.CarriesOut p → ∀ (s : σ) (w : World),
        ∀ e ∈ Event.exchanges (t.run s w).2.events,
          (t.IsStatusReport e.request ∧ e.request.Reaches u (u.taskPath segment)) ∨
            (t.IsCallback e.request ∧ e.request.Reaches u (u.commandPath segment))) ∧
      ∀ q : Plan, q.host = p.host → Url.IsName q.taskId → p.KeepsApart q := by
  obtain ⟨envelope, commandSet, d, -, hstages⟩ := exists_stages_of_load h
  have hhost := Check.isBase_of_baseUrl hstages.completes.host
  obtain ⟨u, hparse, hreaches⟩ := exists_reaches hhost hbase
  have hall (q : Plan) (hsame : q.host = p.host) (hname : Url.IsName q.taskId) :
      q.EndpointsAt u (Url.segmentOf q.taskId) := by
    rw [← hsame] at hhost hparse hreaches
    refine ⟨hparse, hname.slash_notMem, hname.decode?_segmentOf, ?_, ?_⟩
    · intro σ t ht r hstatus
      exact (hreaches q.taskId hname r).1 (ht.address_status hhost.solid hstatus)
    · intro σ t ht r hcallback
      exact (hreaches q.taskId hname r).2 (ht.address_callback hhost.solid hcallback)
  have hp := hall p rfl hid
  refine ⟨u, _, hp, fun ht s w e he => ?_, fun q hsame hname => hp.keepsApart (hall q hsame hname)⟩
  rcases Task.isReport_of_mem_run _ s w e he with hreport | hreport
  · exact .inl ⟨hreport, hp.status ht _ hreport⟩
  · exact .inr ⟨hreport, hp.callback ht _ hreport⟩

/-! ### Two plans -/

/-- The text of a command set that gives an id. -/
def namedText (taskId : String) : String :=
  "\x7b\"cmd_type\":\"local_script\",\"host\":\"http://[::1]:8080/jms/\",\"script\":\"sh\","
    ++ "\"task_id\":\"" ++ taskId ++ "\"\x7d"

def namedPlan (taskId : String) : Plan where
  taskId := taskId
  host := "http://[::1]:8080/jms"
  token := ""
  orgId := ""
  backend := .localScript
  script := "sh"
  scriptArgs := []
  auth := {}
  cmdFile := "/c"
  cmdSetPath := "/s"
  commands := []
  encrypted := false
  envs := ""
  prompt := "mysql> "
  columns := 80
  rows := 24

def namedBase : Url where
  scheme := "http"
  hierarchical := true
  username := ""
  password := none
  host := some (.ipv6 [0, 0, 0, 0, 0, 0, 0, 1])
  port := some 8080
  path := "/jms"
  query := none
  fragment := none

/-- What the text reads as. -/
def namedSet (taskId : String) : Json :=
  .object
    [("cmd_type", .string "local_script"), ("host", .string "http://[::1]:8080/jms/"),
      ("script", .string "sh"), ("task_id", .string taskId)]

/-- The endpoints of an id with a blank, at an address with a port and a path. -/
theorem load_endpoints_blank :
    (load ⟨"agent", .debug⟩ absentArgument (holdingText (namedText "t 1"))).1 =
        .ok (namedPlan "t 1") ∧
      Url.IsPlain (namedPlan "t 1").host ∧ Url.IsName (namedPlan "t 1").taskId ∧
      ∃ u segment, (namedPlan "t 1").EndpointsAt u segment ∧
        (∀ {σ : Type} {t : Task σ}, t.CarriesOut (namedPlan "t 1") → ∀ (s : σ) (w : World),
          ∀ e ∈ Event.exchanges (t.run s w).2.events,
            (t.IsStatusReport e.request ∧ e.request.Reaches u (u.taskPath segment)) ∨
              (t.IsCallback e.request ∧ e.request.Reaches u (u.commandPath segment))) ∧
        ∀ q : Plan, q.host = (namedPlan "t 1").host → Url.IsName q.taskId →
          (namedPlan "t 1").KeepsApart q := by
  have hload : (load ⟨"agent", .debug⟩ absentArgument (holdingText (namedText "t 1"))).1 =
      .ok (namedPlan "t 1") := by
    rw [load_holdingText _ (namedSet "t 1") (by decide +kernel)]
    exact Json.eq_ok_of_toOption (by decide +kernel)
  have hbase : Url.IsPlain (namedPlan "t 1").host := by decide +kernel
  have hid : Url.IsName (namedPlan "t 1").taskId := by decide +kernel
  exact ⟨hload, hbase, hid, load_endpoints hload hbase hid⟩

/-- A hash in an id cuts off what follows it: the plan is loaded, and its reports on commands reach
the same target as those on the task, whose last part does not stand for the id. -/
theorem job_loses_callbacks :
    (load ⟨"agent", .debug⟩ absentArgument (holdingText (namedText "job#7"))).1 =
        .ok (namedPlan "job#7") ∧
      Url.parse (namedPlan "job#7").host = .ok namedBase ∧
      (∃ r, Reporter.ofPlan ⟨"agent", .debug⟩ {} (namedPlan "job#7") = .ok r) ∧
      (∀ {σ : Type} {t : Task σ}, t.CarriesOut (namedPlan "job#7") → ∀ r,
        t.IsStatusReport r ∨ t.IsCallback r →
          r.Reaches namedBase "/jms/api/v1/behemoth/executions/job") ∧
      Url.decode? "job" ≠ some "job#7" := by
  refine ⟨?_, Json.eq_ok_of_toOption (by decide +kernel), ⟨_, rfl⟩, ?_, by decide +kernel⟩
  · rw [load_holdingText _ (namedSet "job#7") (by decide +kernel)]
    exact Json.eq_ok_of_toOption (by decide +kernel)
  · intro σ t ht r hreport
    have hsolid : (namedPlan "job#7").host.toList.getLast? ≠ some '/' := by decide +kernel
    -- the two addresses differ behind the hash only
    have hread : ∃ fragment, Url.parse r.address = .ok { namedBase with
        path := "/jms/api/v1/behemoth/executions/job", fragment := some fragment } := by
      rcases hreport with hstatus | hcallback
      · rw [ht.address_status hsolid hstatus]
        exact ⟨"7/", Json.eq_ok_of_toOption (by decide +kernel)⟩
      · rw [ht.address_callback hsolid hcallback]
        exact ⟨"7/command/", Json.eq_ok_of_toOption (by decide +kernel)⟩
    obtain ⟨fragment, hread⟩ := hread
    exact Request.reaches_of_parse hread ⟨rfl, rfl, rfl, rfl, rfl⟩ (.inl rfl) rfl

end CommandAgent
