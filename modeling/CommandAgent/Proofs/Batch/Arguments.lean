import Mathlib.Data.List.TakeDrop
import Mathlib.Data.List.TakeWhile
import CommandAgent.Batch.Handler
import CommandAgent.Proofs.Text.Masking

/-!
# What the log shows of a client's password

Before a client is started its arguments are logged. The client of MySQL has its password in a
variable, so no argument holds it; the client of Oracle has it in a connect string, where a mask is
put in its place. The mask has to find the password first, and it goes by the signs around it: it
takes the user name to end at the first slash and the password to end at the next quotation mark.

What the mask forgets is exactly the secret that it finds
(`eq_or_credentials_of_maskArgument_eq`). So it hides a password without quotation marks behind a
user name that has neither blanks nor slashes and is not empty, and behind any other user name it
hides nothing (`running_conceals_password`).
-/

namespace CommandAgent

namespace Redaction

variable {user secret address : List Char}

/-- A user name that the mask can tell from what is behind it. -/
def IsUser (cs : List Char) : Prop := cs ≠ [] ∧ ∀ c ∈ cs, c ≠ '/' ∧ ¬ Text.isBlank c

instance (cs : List Char) : Decidable (IsUser cs) :=
  decidable_of_iff (cs ≠ [] ∧ cs.all (fun c => c ≠ '/' && !Text.isBlank c) = true)
    (by simp [IsUser])

/-- A text with credentials at its beginning. -/
def credentials (user secret address : List Char) : List Char :=
  user ++ '/' :: '"' :: secret ++ '"' :: '@' :: address

theorem IsUser.slash_notMem (h : IsUser user) : '/' ∉ user := fun hmem => (h.2 '/' hmem).1 rfl

theorem splitUser_of_isUser (h : IsUser user) (rest : List Char) :
    splitUser (user ++ '/' :: rest) = (user, '/' :: rest) := by
  have hkept : ∀ c ∈ user, decide (c ≠ '/' ∧ ¬ Text.isBlank c) = true :=
    fun c hc => decide_eq_true (h.2 c hc)
  rw [splitUser, List.span_eq_takeWhile_dropWhile, List.takeWhile_append_of_pos hkept,
    List.dropWhile_append_of_pos hkept]
  simp

/-- The secret of credentials is masked. -/
theorem maskArgument_of_credentials (huser : IsUser user) (hsecret : '"' ∉ secret) {arg : String}
    (harg : arg.toList = credentials user secret address) :
    maskArgument arg = String.ofList (credentials user memberMask.toList address) := by
  have hkept : ∀ c ∈ secret, decide (c ≠ '"') = true := by
    intro c hc
    exact decide_eq_true fun heq => hsecret (heq ▸ hc)
  have hsplit : splitUser arg.toList = (user, '/' :: '"' :: (secret ++ '"' :: '@' :: address)) := by
    rw [harg, credentials, List.append_assoc]
    exact splitUser_of_isUser huser _
  have hrest : (secret ++ '"' :: '@' :: address).dropWhile (· ≠ '"') = '"' :: '@' :: address := by
    rw [List.dropWhile_append_of_pos hkept]
    simp
  obtain ⟨c, cs, rfl⟩ := List.exists_cons_of_ne_nil huser.1
  rw [maskArgument, hsplit]
  simp only [hrest, credentials]

/-- Any other argument is left as it is. -/
theorem maskArgument_cases (arg : String) :
    (∃ user secret address, IsUser user ∧ '"' ∉ secret ∧
      arg.toList = credentials user secret address) ∨ maskArgument arg = arg := by
  have hsplit : (splitUser arg.toList).1 ++ (splitUser arg.toList).2 = arg.toList := by
    rw [splitUser, List.span_eq_takeWhile_dropWhile, List.takeWhile_append_dropWhile]
  have hkept : ∀ c ∈ (splitUser arg.toList).1, c ≠ '/' ∧ ¬ Text.isBlank c := by
    intro c hc
    rw [splitUser, List.span_eq_takeWhile_dropWhile] at hc
    simpa using List.mem_takeWhile_imp hc
  unfold maskArgument
  split
  · exact .inr rfl
  · next user rest hne heq =>
    rw [heq] at hsplit hkept
    split
    · next address hbehind =>
      refine .inl ⟨user, rest.takeWhile (· ≠ '"'), address, ⟨?_, hkept⟩, ?_, ?_⟩
      · exact hne
      · intro hmem
        simpa using List.mem_takeWhile_imp hmem
      · have hrest := rest.takeWhile_append_dropWhile (p := (· ≠ '"'))
        rw [hbehind] at hrest
        rw [← hsplit, credentials, List.append_assoc]
        simp only [List.cons_append]
        rw [hrest]
    · exact .inr rfl
  · exact .inr rfl

/-! ### What the mask forgets -/

/-- The credentials at the beginning of a text are read back from it: it was made of one user, one
password and one address. -/
theorem credentials_inj {user' address' : List Char} (huser : IsUser user) (huser' : IsUser user')
    {secret' : List Char} (hsecret : '"' ∉ secret) (hsecret' : '"' ∉ secret')
    (h : credentials user secret address = credentials user' secret' address') :
    user = user' ∧ secret = secret' ∧ address = address' := by
  simp only [credentials, List.append_assoc, List.cons_append] at h
  obtain ⟨rfl, hbehind⟩ :=
    Text.eq_and_eq_of_append_cons huser.slash_notMem huser'.slash_notMem h
  obtain ⟨rfl, hrest⟩ := Text.eq_and_eq_of_append_cons hsecret hsecret' (List.cons.inj hbehind).2
  exact ⟨rfl, rfl, (List.cons.inj hrest).2⟩

theorem quote_notMem_memberMask : '"' ∉ memberMask.toList := by decide

/-- Two arguments that look the same once they are masked are the same, or they differ only in the
secret of their credentials. -/
theorem eq_or_credentials_of_maskArgument_eq {x y : String} (h : maskArgument x = maskArgument y) :
    x = y ∨ ∃ user s t address, IsUser user ∧ '"' ∉ s ∧ '"' ∉ t ∧
      x.toList = credentials user s address ∧ y.toList = credentials user t address := by
  rcases maskArgument_cases x with ⟨user, s, address, huser, hs, hx⟩ | hx <;>
    rcases maskArgument_cases y with ⟨user', t, address', huser', ht, hy⟩ | hy
  · rw [maskArgument_of_credentials huser hs hx, maskArgument_of_credentials huser' ht hy,
      String.ofList_inj] at h
    obtain ⟨rfl, -, rfl⟩ :=
      credentials_inj huser huser' quote_notMem_memberMask quote_notMem_memberMask h
    exact .inr ⟨user, s, t, address, huser, hs, ht, hx, hy⟩
  · rw [maskArgument_of_credentials huser hs hx, hy] at h
    have hmask : y.toList = credentials user memberMask.toList address := by
      rw [← h, String.toList_ofList]
    exact .inr ⟨user, s, _, address, huser, hs, quote_notMem_memberMask, hx, hmask⟩
  · rw [maskArgument_of_credentials huser' ht hy, hx] at h
    have hmask : x.toList = credentials user' memberMask.toList address' := by
      rw [h, String.toList_ofList]
    exact .inr ⟨user', _, t, address', huser', quote_notMem_memberMask, ht, hmask, hy⟩
  · rw [hx, hy] at h
    exact .inl h

end Redaction

/-! ### Connect strings -/

namespace Invocation

open Redaction (IsUser credentials maskArgument maskArguments)

/-- What follows the credentials in a connect string. -/
def target (a : Auth) : String :=
  s!"{a.address}:{a.port.toNat}/{a.dbName}" ++ if a.privileged then " as sysdba" else ""

theorem toList_connectString (a : Auth) :
    (connectString a).toList =
      credentials a.username.toList a.password.toList (target a).toList := by
  simp only [connectString, target, credentials, toString, String.toList_append]
  simp

theorem maskArgument_connectString (a : Auth) (huser : IsUser a.username.toList)
    (hpassword : '"' ∉ a.password.toList) :
    maskArgument (connectString a) = connectString { a with password := Redaction.memberMask } := by
  rw [Redaction.maskArgument_of_credentials huser hpassword (toList_connectString a),
    ← String.toList_inj, String.toList_ofList, toList_connectString]
  rfl

/-- With any other user name the masked connect string gives the password away. -/
theorem password_eq_of_maskArgument_eq {a : Auth} (huser : ¬ IsUser a.username.toList)
    {p p' : String}
    (h : maskArgument (connectString { a with password := p }) =
      maskArgument (connectString { a with password := p' })) : p = p' := by
  have hconnect (q : String) :
      (connectString { a with password := q }).toList =
        credentials a.username.toList q.toList (target a).toList := toList_connectString _
  suffices hbehind : p.toList ++ '"' :: '@' :: (target a).toList =
      p'.toList ++ '"' :: '@' :: (target a).toList from
    String.toList_inj.mp (List.append_cancel_right hbehind)
  rcases Redaction.eq_or_credentials_of_maskArgument_eq h with hsame | hform
  · rw [← String.toList_inj, hconnect, hconnect] at hsame
    simpa [credentials] using hsame
  · obtain ⟨user, s, t, address, hform, hs, ht, hx, hy⟩ := hform
    rw [hconnect] at hx hy
    simp only [credentials, List.append_assoc, List.cons_append] at hx hy
    -- the user that is recognized ends at the first slash, so the name goes on behind it
    by_cases hslash : '/' ∈ a.username.toList
    · obtain ⟨first, others, hname, hfirst⟩ := List.eq_append_cons_of_mem hslash
      rw [hname, List.append_assoc, List.cons_append] at hx hy
      obtain ⟨-, hx⟩ := Text.eq_and_eq_of_append_cons hfirst hform.slash_notMem hx
      obtain ⟨-, hy⟩ := Text.eq_and_eq_of_append_cons hfirst hform.slash_notMem hy
      cases others with
      | nil => simp at hx
      | cons c others =>
        have hquote : '"' ∈ others ++ ['/', '"'] := by simp
        refine Text.eq_of_append_eq hquote hs ht (b := '@' :: address) ?_ ?_
        · simpa using (List.cons.inj hx).2
        · simpa using (List.cons.inj hy).2
    · obtain ⟨rfl, -⟩ := Text.eq_and_eq_of_append_cons hslash hform.slash_notMem hx
      exact absurd hform huser

/-! ### The line before a run -/

/-- What the log shows of an invocation that is about to run: its masked arguments, and the line. -/
def shown (e : ScriptEntry) (i : Invocation) : List String × Entry :=
  (maskArguments i.launch.arguments, Batch.running i e)

variable {program : String} {extra : List String} {a : Auth} {e : ScriptEntry}

/-- The control file of the Oracle client, and whether it can be written, have nothing to do with
the password. -/
theorem build_sqlplus (extra : List String) (a : Auth) (e : ScriptEntry) (w : World)
    (hflavor : Flavor.ofProgram program = .sqlplus) :
    (∃ f w', ∀ p, build program extra { a with password := p } e w = (.error f, w')) ∨
      ∃ control w', ∀ p, build program extra { a with password := p } e w =
        (.ok ⟨⟨program, sqlplusArguments extra { a with password := p } control, [], e.directory⟩,
          some control⟩, w') := by
  simp only [build, hflavor]
  generalize hcontrol : Path.join w.drawIdentifier.2.env.temporaryDirectory
    s!"behemoth-entry-{w.drawIdentifier.1}.sql" = control
  cases w.drawIdentifier.2.storeFile control (Text.Utf8.encode (controlText e.entry)) with
  | error f => exact .inl ⟨_, _, fun p => rfl⟩
  | ok w' => exact .inr ⟨control, w', fun p => rfl⟩

theorem maskArguments_sqlplus (control : String) :
    maskArguments (sqlplusArguments extra a control) =
      maskArguments (["-L", "-S"] ++ extra) ++
        [maskArgument (connectString a), maskArgument ("@" ++ control)] := by
  simp only [maskArguments, sqlplusArguments, List.map_append, List.map_cons, List.map_nil]

/-- What is shown of an invocation hangs on its masked arguments, its program and its directory. -/
theorem shown_congr {i i' : Invocation} (hprogram : i.launch.program = i'.launch.program)
    (hdirectory : i.launch.directory = i'.launch.directory)
    (harguments : maskArguments i.launch.arguments = maskArguments i'.launch.arguments) :
    shown e i = shown e i' := by
  simp only [shown, Batch.running, hprogram, hdirectory, harguments]

/-- The log does not tell two passwords apart. For MySQL's client and for any other program that is
so whatever the passwords are; for the Oracle client it is so if the user name can be told from what
is behind it and the passwords have no quotation mark. With any other user name the arguments that
the Oracle client is logged with give the password away. -/
theorem running_conceals_password (program : String) (extra : List String) (a : Auth)
    (e : ScriptEntry) (w : World) :
    (∀ p p', (Flavor.ofProgram program = .sqlplus →
        IsUser a.username.toList ∧ '"' ∉ p.toList ∧ '"' ∉ p'.toList) →
      (build program extra { a with password := p } e w).1.map (shown e) =
        (build program extra { a with password := p' } e w).1.map (shown e)) ∧
    (Flavor.ofProgram program = .sqlplus → ¬ IsUser a.username.toList → ∀ p p' i i',
      (build program extra { a with password := p } e w).1 = .ok i →
      (build program extra { a with password := p' } e w).1 = .ok i' →
      maskArguments i.launch.arguments = maskArguments i'.launch.arguments → p = p') := by
  constructor
  · intro p p' h
    cases hflavor : Flavor.ofProgram program with
    | mysql =>
      simp only [build, hflavor, Except.map]
      exact congrArg Except.ok (shown_congr rfl rfl rfl)
    | generic =>
      simp only [build, hflavor, Except.map]
    | sqlplus =>
      obtain ⟨huser, hp, hp'⟩ := h hflavor
      rcases build_sqlplus extra a e w hflavor with
        ⟨f, w', hbuild⟩ | ⟨control, w', hbuild⟩
      · rw [hbuild p, hbuild p']
      · rw [hbuild p, hbuild p']
        refine congrArg Except.ok (shown_congr rfl rfl ?_)
        rw [maskArguments_sqlplus, maskArguments_sqlplus,
          maskArgument_connectString { a with password := p } huser hp,
          maskArgument_connectString { a with password := p' } huser hp']
  · intro hflavor huser p p' i i' hi hi' hsame
    rcases build_sqlplus extra a e w hflavor with
      ⟨f, w', hbuild⟩ | ⟨control, w', hbuild⟩
    · rw [hbuild p] at hi
      cases hi
    · rw [hbuild p] at hi
      rw [hbuild p'] at hi'
      cases hi
      cases hi'
      rw [maskArguments_sqlplus, maskArguments_sqlplus] at hsame
      have hmasked := (List.cons.inj (List.append_cancel_left hsame)).1
      exact password_eq_of_maskArgument_eq huser hmasked

/-- A world with nothing in it but a directory for temporary files. -/
def tidyWorld : World := { files := ⟨[(["tmp"], .directory)]⟩, cwd := [], env := [] }

def loginOf (user password : String) : Auth := ⟨"db.internal", 1521, user, password, "ORCL", true⟩

/-- The line is the same for two passwords of a user with a name. -/
theorem running_conceals_password_scott :
    Flavor.ofProgram "/opt/sqlplus" = .sqlplus ∧ IsUser "scott".toList ∧
      '"' ∉ "tiger-pw".toList ∧ '"' ∉ "l@on/".toList ∧
      (build "/opt/sqlplus" ["-x"] (loginOf "scott" "tiger-pw") ⟨none, "main.sql"⟩
        tidyWorld).1.isOk ∧
      (build "/opt/sqlplus" ["-x"] (loginOf "scott" "tiger-pw") ⟨none, "main.sql"⟩ tidyWorld).1.map
          (shown ⟨none, "main.sql"⟩) =
        (build "/opt/sqlplus" ["-x"] (loginOf "scott" "l@on/") ⟨none, "main.sql"⟩ tidyWorld).1.map
          (shown ⟨none, "main.sql"⟩) := by
  have huser : IsUser "scott".toList := by decide
  have hp : '"' ∉ "tiger-pw".toList := by decide
  have hp' : '"' ∉ "l@on/".toList := by decide
  refine ⟨by decide, huser, hp, hp', by decide, ?_⟩
  exact (running_conceals_password "/opt/sqlplus" ["-x"] (loginOf "scott" "") ⟨none, "main.sql"⟩
    tidyWorld).1 "tiger-pw" "l@on/" fun _ => ⟨huser, hp, hp'⟩

/-- Without a user name the password is logged. -/
theorem nameless_password_shown :
    let logged (password : String) : Option (List String) :=
      (build "sqlplus" [] (loginOf "" password) ⟨none, "main.sql"⟩ tidyWorld).1.toOption.map
        fun i => maskArguments i.launch.arguments
    logged "tiger-pw" =
        some ["-L", "-S", "/\"tiger-pw\"@db.internal:1521/ORCL as sysdba",
          "@/tmp/behemoth-entry-00000000000000000000000000000000.sql"] ∧
      logged "tiger-pw" ≠ logged "l@on/" := by
  decide

end Invocation
end CommandAgent
