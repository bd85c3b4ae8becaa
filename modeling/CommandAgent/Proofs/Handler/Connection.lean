import CommandAgent.Database.Mysql
import CommandAgent.Interactive.Handler
import CommandAgent.Proofs.Batch.Once

/-!
# Connected or not

A handler is connected or it is not, and its calls say so in the same way whatever the backend is: a
connect that fails opens nothing, a close leaves nothing open and can be repeated, and a command
that is submitted to a handler that is not connected fails without anything being sent
(`Handler.Contract`). Each kind of handler has its own state in which that is kept, and keeps the
contract in all of its states.

After every sequence of calls the contract holds, and a handler is connected only if a connect has
succeeded since the last close. A MySQL session is connected exactly then, a connect of it succeeds
exactly if the server answers the login and the ping, and as long as its server answers, each
command is one query (`connections_keep_contract`).
-/

namespace CommandAgent

namespace Handler

variable {σ : Type} {h : Handler σ} {isOpen : σ → Bool} {refusal : Command → σ → Outcome × σ}

/-- What the next call does to a handler's connection. The refusal says what a command is told that
is submitted without a connection, and what is kept of it. -/
structure Contract (h : Handler σ) (isOpen : σ → Bool) (refusal : Command → σ → Outcome × σ)
    (s : σ) : Prop where
  opens : ∀ w, (h.connect s w).1 = .ok () → isOpen (h.connect s w).2.1 = true
  fails : ∀ w f, isOpen s = false → (h.connect s w).1 = .error f →
    isOpen (h.connect s w).2.1 = false
  keeps : ∀ c w, isOpen (h.submit c s w).2.1 = isOpen s
  refuses : ∀ c w, isOpen s = false → h.submit c s w = ((refusal c s).1, (refusal c s).2, w)
  closes : ∀ w, isOpen (h.close s w).1 = false
  rests : ∀ w v, h.close (h.close s w).1 v = ((h.close s w).1, v)

/-- A handler that keeps the contract is connected only if a connect has succeeded and no close has
come since. -/
theorem connected_of_isOpen (hcontract : ∀ s, Contract h isOpen refusal s) (fresh : σ)
    (hfresh : isOpen fresh = false) (script : Script) (w : World)
    (hopen : isOpen (h.live script fresh w).2.1 = true) : Connected (h.live script fresh w).1 := by
  have hnil : isOpen fresh = true → Connected [] := by
    intro hopen
    exact absurd (hfresh.symm.trans hopen) Bool.false_ne_true
  have hstep : ∀ past call s w, (isOpen s = true → Connected past) →
      isOpen (h.answer call s w).2.1 = true → Connected (past ++ [(h.answer call s w).1]) := by
    intro past call s w hpast hopen
    rw [connected_concat]
    cases call with
    | connect =>
      rw [answer_connect] at hopen ⊢
      cases hresult : (h.connect s w).1 with
      | ok _ => exact .inl rfl
      | error f =>
        cases hs : isOpen s with
        | true => exact .inr ⟨Turn.noConfusion, hpast hs⟩
        | false => exact absurd (((hcontract s).fails w f hs hresult).symm.trans hopen) (by decide)
    | submit c =>
      exact .inr ⟨Turn.noConfusion, hpast (((hcontract s).keeps c w).symm.trans hopen)⟩
    | close => exact absurd (((hcontract s).closes w).symm.trans hopen) Bool.false_ne_true
  exact live_keeps h hstep script hnil w hopen

/-- If no failed connect closes it either, it is connected exactly then. -/
theorem isOpen_iff_connected (hcontract : ∀ s, Contract h isOpen refusal s)
    (hfailed : ∀ s w f, (h.connect s w).1 = .error f → isOpen (h.connect s w).2.1 = isOpen s)
    (fresh : σ) (hfresh : isOpen fresh = false) (script : Script) (w : World) :
    isOpen (h.live script fresh w).2.1 = true ↔ Connected (h.live script fresh w).1 := by
  have hnil : Connected [] → isOpen fresh = true := fun hnil => absurd hnil not_connected_nil
  have hstep : ∀ past call s w, (Connected past → isOpen s = true) →
      Connected (past ++ [(h.answer call s w).1]) → isOpen (h.answer call s w).2.1 = true := by
    intro past call s w hkept hpast
    rw [connected_concat] at hpast
    cases call with
    | connect =>
      rw [answer_connect] at hpast ⊢
      cases hresult : (h.connect s w).1 with
      | ok _ => exact (hcontract s).opens w hresult
      | error f =>
        rw [hresult] at hpast
        rcases hpast with hturn | ⟨-, hpast⟩
        · cases hturn
        · exact (hfailed s w f hresult).trans (hkept hpast)
    | submit c =>
      rcases hpast with hturn | ⟨-, hpast⟩
      · cases hturn
      · exact ((hcontract s).keeps c w).trans (hkept hpast)
    | close =>
      rcases hpast with hturn | ⟨hturn, -⟩
      · cases hturn
      · exact absurd rfl hturn
  exact ⟨connected_of_isOpen hcontract fresh hfresh script w, live_keeps h hstep script hnil w⟩

end Handler

open Handler (Contract Connected)

/-! ### MySQL -/

namespace Database

theorem isOk_iff {ε : Type} {result : Except ε Unit} : result.isOk = true ↔ result = .ok () := by
  cases result <;> simp [Except.isOk, Except.toBool]

/-- A session that cannot be entered stays as open as it was. -/
theorem Session.isOpen_enter (s : Session) (server : Server) (login : Call) :
    (s.enter server login).2.isOpen = ((s.enter server login).1.isOk || s.isOpen) := by
  unfold enter ask
  cases server s.calls login with
  | error e => rfl
  | ok n =>
    dsimp only
    cases server (s.calls ++ [login]) .ping <;> rfl

/-- The server lets a session in that it has been asked some calls before: it answers the login, and
then the ping. -/
def Admits (server : Server) (past : List Call) (login : Call) : Prop :=
  (∃ n, server past login = .ok n) ∧ ∃ n, server (past ++ [login]) .ping = .ok n

/-- A session is entered exactly if the server admits the login. -/
theorem Session.enter_eq_ok_iff {s : Session} {server : Server} {login : Call} :
    (s.enter server login).1 = .ok () ↔ Admits server s.calls login := by
  unfold enter ask Admits
  cases hlogin : server s.calls login with
  | error e => simp
  | ok n =>
    dsimp only
    cases server (s.calls ++ [login]) .ping with
    | error e => simp
    | ok m => simp

theorem Session.isOpen_leave (s : Session) (server : Server) :
    (s.leave server).2.isOpen = false := by
  unfold leave ask
  split
  · cases server s.calls .quit <;> rfl
  · simpa using ‹¬ s.isOpen = true›

/-- Every query among the calls has been answered by a number of rows or by an error packet. -/
def Answers (server : Server) (calls : List Call) : Prop :=
  ∀ earlier text later, calls = earlier ++ .query text :: later →
    ∀ reason, server earlier (.query text) ≠ .error (.lost reason)

namespace Mysql

variable {server : Server} {logger : Logger} {c : Command} {s : Session} {w : World}

/-- What a command is told without a session. -/
def refusal (_ : Command) (s : Session) : Outcome × Session :=
  (.failed "MySQL connection is not open", s)

/-- Credentials lead to a login: there is a URL for them, and its options are sound and name no
socket. -/
def LeadsTo (a : Auth) (login : Call) : Prop :=
  ∃ u, url a = .ok u ∧ checkOptions ((u.query.map Url.formPairs).getD []) = .ok () ∧
    lastValue? ((u.query.map Url.formPairs).getD []) "socket" = none ∧
    login = .login u.toText ((Options.ofUrl u).user.getD "") false

/-- Where there is a URL, the login depends on its options. -/
theorem leadsTo_iff {a : Auth} {u : Url} (hurl : url a = .ok u) {login : Call} :
    LeadsTo a login ↔
      checkOptions ((u.query.map Url.formPairs).getD []) = .ok () ∧
        lastValue? ((u.query.map Url.formPairs).getD []) "socket" = none ∧
        login = .login u.toText ((Options.ofUrl u).user.getD "") false := by
  constructor
  · rintro ⟨u', hurl', hlogin⟩
    rw [hurl] at hurl'
    cases hurl'
    exact hlogin
  · exact fun hlogin => ⟨u, hurl, hlogin⟩

/-- Credentials lead to one login at most. -/
theorem LeadsTo.unique {a : Auth} {login login' : Call} (h : LeadsTo a login)
    (h' : LeadsTo a login') : login = login' := by
  obtain ⟨u, hurl, -, -, rfl⟩ := h
  exact ((leadsTo_iff hurl).mp h').2.2.symm

/-- A connect ends before the server is asked anything, if the credentials lead to no login, or it
enters with the login that they lead to. -/
theorem connect_cases (server : Server) (logger : Logger) (a : Auth) (s : Session) (w : World) :
    (∃ f, connect server logger a s w = (.error f, s, w) ∧ ∀ login, ¬ LeadsTo a login) ∨
      ∃ login, LeadsTo a login ∧
        (connect server logger a s w).1.isOk = (s.enter server login).1.isOk ∧
        (connect server logger a s w).2.1 = (s.enter server login).2 := by
  unfold connect
  cases hurl : url a with
  | error f => exact .inl ⟨f, rfl, fun login hlead => by simp [LeadsTo, hurl] at hlead⟩
  | ok u =>
    dsimp only
    cases hoptions : checkOptions ((u.query.map Url.formPairs).getD []) with
    | error e => exact .inl ⟨_, rfl, fun login => by simp [leadsTo_iff hurl, hoptions]⟩
    | ok _ =>
      cases hsocket : lastValue? ((u.query.map Url.formPairs).getD []) "socket" with
      | some path => exact .inl ⟨_, rfl, fun login => by simp [leadsTo_iff hurl, hsocket]⟩
      | none =>
        refine .inr ⟨_, (leadsTo_iff hurl).mpr ⟨hoptions, hsocket, rfl⟩, ?_⟩
        dsimp only
        generalize Call.login u.toText ((Options.ofUrl u).user.getD "") false = login
        rcases s.enter server login with ⟨_ | _, s'⟩ <;> exact ⟨rfl, rfl⟩

/-- A connect succeeds exactly if the credentials lead to a login and the server lets it in. -/
theorem connect_eq_ok_iff {a : Auth} :
    (connect server logger a s w).1 = .ok () ↔
      ∃ login, LeadsTo a login ∧ Admits server s.calls login := by
  rcases connect_cases server logger a s w with ⟨f, hfailed, hnone⟩ | ⟨login, hlead, hok, -⟩
  · rw [hfailed]
    simp [hnone]
  · rw [← isOk_iff, hok, isOk_iff, Session.enter_eq_ok_iff]
    constructor
    · exact fun hadmits => ⟨login, hlead, hadmits⟩
    · rintro ⟨login', hlead', hadmits⟩
      rwa [hlead.unique hlead']

/-- A session is open behind a connect that went well; a refused one leaves it as it was. -/
theorem isOpen_connect (server : Server) (logger : Logger) (a : Auth) (s : Session) (w : World) :
    (connect server logger a s w).2.1.isOpen =
      ((connect server logger a s w).1.isOk || s.isOpen) := by
  rcases connect_cases server logger a s w with ⟨f, hfailed, -⟩ | ⟨login, -, hok, hsession⟩
  · rw [hfailed]
    rfl
  · rw [hok, hsession, Session.isOpen_enter]

/-- What a command comes to whose query has been answered. -/
def replied : Except Fault Nat → Outcome
  | .ok n => .ok (affected n)
  | .error e => .failed (faultText e)

theorem submit_of_isOpen (hs : s.isOpen = true) :
    submit server c s w =
      (replied (server s.calls (.query c.input)),
        { s with calls := s.calls ++ [.query c.input] }, w) := by
  unfold submit Session.ask
  rw [if_pos hs]
  cases server s.calls (.query c.input) <;> rfl

/-- In an open session a command is one more query, and comes to what the server answers: a number
of rows or an error packet. -/
theorem submit_answered (hs : s.isOpen = true)
    (hanswers : Answers server (submit server c s w).2.1.calls) :
    (submit server c s w).2 = ({ s with calls := s.calls ++ [.query c.input] }, w) ∧
      ((∃ n, server s.calls (.query c.input) = .ok n ∧
          (submit server c s w).1 = .ok (affected n)) ∨
        ∃ code state text, server s.calls (.query c.input) = .error (.refused code state text) ∧
          (submit server c s w).1 = .failed (faultText (.refused code state text))) := by
  rw [submit_of_isOpen hs] at hanswers ⊢
  refine ⟨rfl, ?_⟩
  cases hanswer : server s.calls (.query c.input) with
  | ok n => exact .inl ⟨n, rfl, rfl⟩
  | error e =>
    cases e with
    | refused code state text => exact .inr ⟨code, state, text, rfl, rfl⟩
    | lost reason => exact absurd hanswer (hanswers s.calls c.input [] rfl reason)

theorem submit_of_closed (hs : s.isOpen = false) :
    submit server c s w = ((refusal c s).1, (refusal c s).2, w) := by
  simp [submit, refusal, hs]

theorem close_of_closed (hs : s.isOpen = false) : close server logger s w = (s, w) := by
  simp [close, Session.leave, hs]

theorem isOpen_close : (close server logger s w).1.isOpen = false := by
  have hleft := s.isOpen_leave server
  unfold close
  cases hleave : s.leave server with
  | mk fault s' =>
    rw [hleave] at hleft
    cases fault <;> exact hleft

theorem handler_connect (server : Server) (logger : Logger) (a : Auth) :
    (handler server logger a).connect = connect server (logger.child "mysql") a := rfl

theorem isOpen_of_connect_error {server : Server} {logger : Logger} {a : Auth} {f : Failure}
    (hf : ((handler server logger a).connect s w).1 = .error f) :
    ((handler server logger a).connect s w).2.1.isOpen = s.isOpen := by
  rw [handler_connect] at hf ⊢
  rw [isOpen_connect, hf]
  rfl

theorem contract (server : Server) (logger : Logger) (a : Auth) (s : Session) :
    Contract (handler server logger a) Session.isOpen refusal s where
  opens w hok := by
    rw [handler_connect] at hok ⊢
    rw [isOpen_connect, hok]
    rfl
  fails w f hs hf := (isOpen_of_connect_error hf).trans hs
  keeps c w := by
    cases hs : s.isOpen with
    | true => exact (congrArg (fun r => r.2.1.isOpen) (submit_of_isOpen hs)).trans hs
    | false => exact (congrArg (fun r => r.2.1.isOpen) (submit_of_closed hs)).trans hs
  refuses c w hs := submit_of_closed hs
  closes w := isOpen_close
  rests w v := close_of_closed isOpen_close

end Mysql
end Database

/-! ### Interpreters with a prompt -/

namespace Interactive

variable {σ : Type} {k : Terminal.Console σ} {logger : Logger} {o : Options} {c : Command}
  {s : Sessions σ} {w : World}

/-- Whether commands go to a session. -/
def isOpen (s : Sessions σ) : Bool := s.current.isSome

/-- What a command is told without a session. -/
def refusal (_ : Command) (s : Sessions σ) : Outcome × Sessions σ :=
  (.failed "Interactive session is not connected", s)

theorem isOpen_giveUp (k : Terminal.Console σ) (w : World) (s : Sessions σ) :
    isOpen (s.giveUp k w) = false := by
  unfold Sessions.giveUp isOpen
  cases hs : s.current with
  | none => simp [hs]
  | some t => rfl

theorem giveUp_of_closed (hs : isOpen s = false) : s.giveUp k w = s := by
  have hnone : s.current = none := by simpa [isOpen] using hs
  unfold Sessions.giveUp
  rw [hnone]

/-- A connect that succeeds has opened a session, and one that fails has not. -/
theorem isOpen_connect (k : Terminal.Console σ) (logger : Logger) (o : Options) (s : Sessions σ)
    (w : World) :
    ((connect k logger o s w).1 = .ok () → isOpen (connect k logger o s w).2.1 = true) ∧
      ∀ f, (connect k logger o s w).1 = .error f → isOpen s = false →
        isOpen (connect k logger o s w).2.1 = false := by
  unfold connect
  cases k.start o.program o.arguments o.columns o.rows w with
  | error f =>
    refine ⟨fun hok => ?_, fun _ _ hs => hs⟩
    cases hok
  | ok t =>
    dsimp only
    cases readPrompt k logger o t (logger.log (opened o) w) with
    | mk read onward =>
      cases read with
      | ok banner =>
        refine ⟨fun _ => rfl, fun f hf => ?_⟩
        cases hf
      | error output =>
        refine ⟨fun hok => ?_, fun _ _ _ => isOpen_giveUp k _ _⟩
        cases hok

theorem submit_of_closed (hs : isOpen s = false) :
    submit k logger o c s w = ((refusal c s).1, (refusal c s).2, w) := by
  have hnone : s.current = none := by simpa [isOpen] using hs
  unfold submit
  rw [hnone]
  rfl

/-- A submit leaves an open session open. -/
theorem isOpen_submit (hs : isOpen s = true) : isOpen (submit k logger o c s w).2.1 = true := by
  obtain ⟨t, ht⟩ := Option.isSome_iff_exists.mp hs
  unfold submit
  rw [ht]
  dsimp only
  split
  · rfl
  · split <;> rfl

theorem contract (k : Terminal.Console σ) (logger : Logger) (o : Options) (s : Sessions σ) :
    Contract (handler k logger o) isOpen refusal s where
  opens w hok := (isOpen_connect k (logger.child "interactive") o s w).1 hok
  fails w f hs hf := (isOpen_connect k (logger.child "interactive") o s w).2 f hf hs
  keeps c w := by
    cases hs : isOpen s with
    | true => exact isOpen_submit hs
    | false => exact (congrArg (fun r => isOpen r.2.1) (submit_of_closed hs)).trans hs
  refuses c w hs := submit_of_closed hs
  closes w := isOpen_giveUp k w s
  rests w v := congrArg (fun s => (s, v)) (giveUp_of_closed (isOpen_giveUp k w s))

end Interactive

/-! ### Batch runs -/

namespace Batch

variable {m : Machine} {logger : Logger} {o : BatchOptions} {codes : ErrorCodes} {c : Command}
  {s : BatchState} {w : World}

/-- Whether the interpreter is known. -/
def isOpen (s : BatchState) : Bool := s.interpreter.isSome

/-- What a command is told without an interpreter: how the run ended that it was included in, if
there was one. Otherwise it has failed, and every later command was included in its run. -/
def refusal (c : Command) (s : BatchState) : Outcome × BatchState :=
  match s.batch with
  | some b => (b.included, s)
  | none =>
    (.failed "Local interpreter is not connected", { s with batch := some ⟨c.id, false⟩ })

/-- Without a session a command is refused, and the world stays as it is. -/
theorem submit_of_closed (hs : isOpen s = false) :
    submit m logger o codes c s w = ((refusal c s).1, (refusal c s).2, w) := by
  have hnone : s.interpreter = none := by simpa [isOpen] using hs
  unfold refusal
  cases hbatch : s.batch with
  | some b => exact submit_of_some m c hbatch w
  | none =>
    rw [submit_of_none m c hbatch, hnone]
    rfl

/-- A failed search for the interpreter leaves the session as it was. -/
theorem isOpen_of_connect_error {f : Failure}
    (hf : ((handler m logger o codes).connect s w).1 = .error f) :
    isOpen ((handler m logger o codes).connect s w).2.1 = isOpen s := by
  rw [handler_connect] at hf ⊢
  rcases connect_cases (logger.child "local") o codes s w with ⟨g, hg⟩ | ⟨path, w', hpath⟩
  · rw [hg]
  · rw [hpath] at hf
    cases hf

theorem contract (m : Machine) (logger : Logger) (o : BatchOptions) (codes : ErrorCodes)
    (s : BatchState) : Contract (handler m logger o codes) isOpen refusal s where
  opens w hok := by
    rw [handler_connect] at hok ⊢
    rcases connect_cases (logger.child "local") o codes s w with ⟨f, hf⟩ | ⟨path, w', hpath⟩
    · rw [hf] at hok
      cases hok
    · rw [hpath]
      rfl
  fails w f hs hf := (isOpen_of_connect_error hf).trans hs
  keeps c w := by
    rw [handler_submit]
    cases hbatch : s.batch with
    | some b => rw [submit_of_some m c hbatch]
    | none => rw [submit_of_none m c hbatch]; rfl
  refuses c w hs := submit_of_closed hs
  closes w := rfl
  rests w v := rfl

end Batch

/-! ### Every life -/

open Database (Answers Call Fault Server)

/-- Whatever the handlers are called for, in any order, with any backend and any changes to the
world in between, the next call keeps the contract, and a handler is connected only if a connect has
succeeded and no close has come since. For a MySQL session, and for batch runs, this is so exactly
then. A MySQL connect succeeds exactly if the credentials lead to a login and the server answers the
login and the ping; and as long as the server answers every query, a command that is submitted to
such a session is one more query, its text as it stands, and comes to what the server answers. -/
theorem connections_keep_contract (script : Handler.Script) (w : World) :
    (∀ (server : Server) (logger : Logger) (a : Auth),
      let h := Database.Mysql.handler server logger a
      let turns := (h.live script {} w).1
      let s := (h.live script {} w).2.1
      Contract h Database.Session.isOpen Database.Mysql.refusal s ∧
        (s.isOpen = true ↔ Connected turns) ∧
        (∀ v, (h.connect s v).1 = .ok () ↔
          ∃ login, Database.Mysql.LeadsTo a login ∧ Database.Admits server s.calls login) ∧
        ∀ c v, Connected turns → Answers server (h.submit c s v).2.1.calls →
          (h.submit c s v).2 = ({ s with calls := s.calls ++ [.query c.input] }, v) ∧
            ((∃ n, server s.calls (.query c.input) = .ok n ∧
                (h.submit c s v).1 = .ok (Database.affected n)) ∨
              ∃ code state text,
                server s.calls (.query c.input) = .error (.refused code state text) ∧
                  (h.submit c s v).1 =
                    .failed (Database.Mysql.faultText (.refused code state text)))) ∧
    (∀ {σ : Type} (k : Terminal.Console σ) (logger : Logger) (o : Interactive.Options),
      let h := Interactive.handler k logger o
      let turns := (h.live script {} w).1
      let s := (h.live script {} w).2.1
      Contract h Interactive.isOpen Interactive.refusal s ∧
        (Interactive.isOpen s = true → Connected turns)) ∧
    (∀ (m : Machine) (logger : Logger) (o : BatchOptions) (codes : ErrorCodes),
      let h := Batch.handler m logger o codes
      let turns := (h.live script {} w).1
      let s := (h.live script {} w).2.1
      Contract h Batch.isOpen Batch.refusal s ∧ (Batch.isOpen s = true ↔ Connected turns)) := by
  refine ⟨?_, ?_, ?_⟩
  · intro server logger a
    have hkeeps := Database.Mysql.contract server logger a
    have hconnected := Handler.isOpen_iff_connected hkeeps
      (fun _ _ _ hf => Database.Mysql.isOpen_of_connect_error hf) {} rfl script w
    refine ⟨hkeeps _, hconnected, fun v => Database.Mysql.connect_eq_ok_iff, ?_⟩
    intro c v hpast hanswers
    exact Database.Mysql.submit_answered (hconnected.mpr hpast) hanswers
  · intro σ k logger o
    have hkeeps := Interactive.contract k logger o
    exact ⟨hkeeps _, Handler.connected_of_isOpen hkeeps {} rfl script w⟩
  · intro m logger o codes
    have hkeeps := Batch.contract m logger o codes
    exact ⟨hkeeps _, Handler.isOpen_iff_connected hkeeps
      (fun _ _ _ hf => Batch.isOpen_of_connect_error hf) {} rfl script w⟩

/-- A server that refuses one query. -/
def fussy : Server := fun _ call =>
  if call = .query "SELEC 1" then .error (.refused 1064 "42000" "You have an error") else .ok 0

def namedLogin : Auth := ⟨"db.internal", 3306, "agent", "pw", "inventory", false⟩

def blankWorld : World := { files := ⟨[]⟩, cwd := [], env := [] }

/-- A session outlives a query that its server has refused: the next one is sent as well. -/
theorem connections_keep_contract_refused :
    let h := Database.Mysql.handler fussy ⟨"agent", .info⟩ namedLogin
    let life := h.live
      [(id, .connect), (id, .submit { id := "c1", input := "SELEC 1" })] {} blankWorld
    let next := h.submit { id := "c2", input := "SELECT 1" } life.2.1 life.2.2
    Connected life.1 ∧ life.2.1.calls.getLast? = some (.query "SELEC 1") ∧
      Answers fussy next.2.1.calls ∧
      next.2.1.calls = life.2.1.calls ++ [.query "SELECT 1"] := by
  intro h life next
  obtain ⟨-, hconnected, -, hquery⟩ := (connections_keep_contract
    [(id, .connect), (id, .submit { id := "c1", input := "SELEC 1" })] blankWorld).1
    fussy ⟨"agent", .info⟩ namedLogin
  have hpast : Connected life.1 := hconnected.mp (by decide)
  have hanswers : Answers fussy next.2.1.calls := by
    intro earlier text later _ reason
    unfold fussy
    split <;> simp
  obtain ⟨hcalls, -⟩ := hquery { id := "c2", input := "SELECT 1" } life.2.2 hpast hanswers
  refine ⟨hpast, by decide, hanswers, ?_⟩
  exact congrArg (fun r => r.1.calls) hcalls

end CommandAgent
