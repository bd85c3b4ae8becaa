import CommandAgent.Cipher.Chaining
import CommandAgent.Encoding.Base64
import CommandAgent.Json.Merge
import CommandAgent.Log.Logger
import CommandAgent.Plan.Check
import CommandAgent.Plan.Document

/-!
# Loading a plan

The envelope comes as one base64 argument. It names the command-set file, which may be sealed with
the envelope's token; the command set is laid over the envelope and the result is read, checked and
completed with defaults. Nothing is contacted, and whatever is wrong is a failure of the
configuration.

The stages are functions of their own: `decodeEnvelope`, `openCommandSet`, `readCommandSet`,
`Plan.ofDocument`. `loadFrom` composes them, `load` adds the two lines that the log gets.
-/

namespace CommandAgent

def decodeEnvelope (encoded : String) : Except Failure Json := do
  match Base64.decode (Text.Utf8.encode (Text.trim encoded)) with
  | .error e => throw (.config s!"Envelope is not valid base64: {e.message}")
  | .ok raw =>
    match Json.parseOrExplain raw with
    | .error e => throw (.config s!"Envelope is not valid JSON: {e}")
    | .ok j => if j.isObject then return j else throw (.config "Envelope must be a JSON object")

/-! ### Sealed command sets -/

namespace Cipher

/-- The round keys of a token. -/
def scheduleOfToken (token : String) : Except Failure Schedule :=
  let raw := Text.Utf8.encode token
  match scheduleOfToken? raw with
  | some s => .ok s
  | none =>
    .error <|
      (Failure.config <| "Token is too short to derive the command-set key " ++
        s!"({raw.length} bytes < {keySize} bytes)").withHint
        "Encrypted command sets require a token of at least 32 bytes."

def openPayload (s : Schedule) (payload : Bytes) : Except Failure Bytes :=
  match openBytes? s payload with
  | some plain => .ok plain
  | none => .error (.config s!"Encrypted command set is too short ({payload.length} bytes)")

end Cipher

/-- The text of a member of the envelope; anything else counts as empty. -/
def Json.textOf (envelope : Json) (key : String) : String :=
  ((envelope.get? key).bind Json.asString?).getD ""

/-- Whether the envelope says that the command set is sealed. -/
def Json.saysSealed (envelope : Json) : Bool :=
  ((envelope.get? "encrypted_data").bind Json.asBool?).getD false

/-- The content of the command set, opened if the envelope says that it is sealed. -/
def openCommandSet (envelope : Json) (payload : Bytes) : Except Failure Bytes := do
  if envelope.saysSealed then
    let s ← Cipher.scheduleOfToken (envelope.textOf "token")
    Cipher.openPayload s payload
  else return payload

/-- What helps when the command set is not JSON. -/
def commandSetHint (isSealed : Bool) : String :=
  if isSealed then
    "The command set was decrypted but is not JSON; "
      ++ "the token may not match the key it was encrypted with."
  else "The command set file must contain a JSON object."

def readCommandSet (isSealed : Bool) (content : Bytes) : Except Failure Json :=
  match Json.parseOrExplain content with
  | .error e =>
    let failure := Failure.config s!"Failed to parse command set: {e}"
    .error (failure.withHint (commandSetHint isSealed))
  | .ok j => if j.isObject then .ok j else .error (.config "Command set must be a JSON object")

/-- The document that the envelope and the command set give together. -/
def readDocument (envelope commandSet : Json) : Except Failure PlanDocument :=
  (PlanDocument.ofJson (Json.stripNulls (envelope.merge commandSet))).mapError fun e =>
    .config s!"Invalid execution plan: {e}"

/-- Check a document and complete it. -/
def Plan.ofDocument (expandHome : String → String) (d : PlanDocument) : Except Failure Plan := do
  let backend ← Backend.parse d.cmdType
  let taskId ← Check.identifier d.taskId "task_id"
  let host ← Check.baseUrl d.host "host"
  if backend.isNative then
    let _ ← Check.identifier d.auth.address "auth.address"
    let _ ← Check.port d.auth.port "auth.port"
  else
    let _ ← Check.identifier d.script "script"
  return {
    taskId := taskId
    host := host
    token := d.token
    orgId := d.orgId
    backend := backend
    script := Text.trim d.script
    scriptArgs := d.scriptArgs
    auth := d.auth
    cmdFile := expandHome d.cmdFile
    cmdSetPath := expandHome d.cmdSetPath
    commands := d.commands
    encrypted := d.encrypted
    envs := d.envs
    prompt := (d.prompt.filter (!·.isEmpty)).getD defaultPrompt
    columns := (d.columns.filter (0 < ·)).getD defaultColumns
    rows := (d.rows.filter (0 < ·)).getD defaultRows }

/-- The plan behind an envelope. -/
def loadFrom (w : World) (envelope : Json) : Except Failure Plan := do
  let path ← Check.existingFile w (envelope.textOf "cmd_set_filepath")
    "Command set file (cmd_set_filepath)"
  let _ ← Check.existingFile w (envelope.textOf "cmd_file") "Command file (cmd_file)"
  let payload ← (w.contentOf path).mapError fun e =>
    Failure.config s!"Failed to read command set file {path}: {e.message}"
  let content ← openCommandSet envelope payload
  let commandSet ← readCommandSet envelope.saysSealed content
  let document ← readDocument envelope commandSet
  Plan.ofDocument w.expandHome document

/-- Texts of the envelope are bounded by this many bytes in the log. -/
def maxLoggedEnvelope : Nat := 256

/-- Load the plan behind the argument, and log what has been found. -/
def load (parent : Logger) (encoded : String) (w : World) : Except Failure Plan × World :=
  let logger := parent.child "plan"
  match decodeEnvelope encoded with
  | .error e => (.error e, w)
  | .ok envelope =>
    let found := Redaction.redact maxLoggedEnvelope envelope
    let w' := logger.log ⟨.debug, "Decoded envelope", found⟩ w
    match loadFrom w' envelope with
    | .error e => (.error e, w')
    | .ok plan => (.ok plan, logger.log ⟨.info, "Execution plan loaded", plan.summary⟩ w')

end CommandAgent
