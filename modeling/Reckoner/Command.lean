import Reckoner.HealthCheck
import Reckoner.Log.Channel
import Reckoner.Options.Request
import Reckoner.Session

/-! The command: from a command line and an input to what is printed, logged and returned. -/

namespace Reckoner.Command
open Options

/-- Why a command breaks off: its result cannot be shown, or an option was given without the value that is needed. -/
inductive Breakage
  | unshown (error : DisplayError)
  | noText
  | noNumber
  deriving DecidableEq, Repr

def Breakage.message : Breakage → String
  | .unshown error => error.message
  | .noText => "'list' object has no attribute 'strip'"
  | .noNumber => "'>=' not supported between instances of 'list' and 'int'"

/-- What a request does once the log is set up. -/
structure Run where
  output : String := ""
  events : List Log.Event := []
  ending : Except Breakage Nat

/-- A negative number of places asks for the usual number. -/
def decimals (request : Request) : Except Breakage (Option Int) :=
  match request.precision with
  | none => .ok none
  | some (.value places) => .ok (if places < 0 then none else some places)
  | some .nothing => .error .noNumber

def format (request : Request) : Format :=
  if request.json || request.format = .value .json then .json else .human

/-- A formula may be pasted together with the prompt of a session. -/
def withoutPrompt (source : String) : String :=
  let trimmed := Text.trim source.toList
  String.ofList (
    match trimmed with
    | '>' :: '>' :: '>' :: rest => Text.trim rest
    | _ => trimmed)

def exitCode (success : Bool) : Nat :=
  if success then 0 else 1

def calculate (settings : Settings) (style : Style) (expression : String) : Run :=
  let source := withoutPrompt expression
  let outcome := Outcome.ofSource settings (some source)
  let events := Formula.journal settings (some source)
  match outcome.print settings style.format style.decimals with
  | .ok output => { output, events, ending := .ok (exitCode outcome.ok) }
  | .error error => { events, ending := .error (.unshown error) }

def printReply (format : Format) (reply : Chat.Reply) : String :=
  match format with
  | .json => Json.renderObject reply.members ++ "\n"
  | .human => (reply.message.map (· ++ "\n")).getD ""

def chat (settings : Settings) (style : Style) (message : String) : Run :=
  let events := Chat.journal settings settings.trigger (some message)
  match Chat.reply settings settings.trigger style.decimals (some message) with
  | .ok reply => { output := printReply style.format reply, events, ending := .ok (exitCode reply.success) }
  | .error error => { events, ending := .error (.unshown error) }

def session (settings : Settings) (style : Style) (input : String) : Run :=
  let transcript := Session.run settings style input
  {
    output := transcript.output, events := transcript.events,
    ending :=
      match transcript.error with
      | some error => .error (.unshown error)
      | none => .ok 0 }

/-- What a request comes to: something that is done at once, or a session. -/
inductive Task
  | done (run : Run)
  | session (style : Style)

/-- The first thing that is asked for is done, and the rest is passed over: version, health check, chat message,
formula. A session is held if nothing is asked for. The number of places is looked at before any of them. -/
def task (settings : Settings) (numerics : String) (request : Request) : Task :=
  match decimals request with
  | .error breakage => .done { ending := .error breakage }
  | .ok decimals =>
    let style : Style := ⟨format request, decimals⟩
    if request.version then .done { output := Reckoner.version ++ "\n", ending := .ok 0 }
    else if request.healthCheck then .done {
      output := HealthCheck.report settings numerics, events := HealthCheck.journal settings,
      ending := .ok (exitCode (HealthCheck.passed settings numerics)) }
    else
      match request.message, request.expression with
      | some (.value message), _ => .done (chat settings style message)
      | some .nothing, _ => .done { ending := .error .noText }
      | none, some (.value expression) => .done (calculate settings style expression)
      | none, some .nothing => .done { ending := .error .noText }
      | none, none => .session style

def perform (settings : Settings) (numerics : String) (request : Request) (input : String) : Run :=
  match task settings numerics request with
  | .done run => run
  | .session style => session settings style input

/-- The level that the log is set up with. -/
def level (settings : Settings) (request : Request) : Except Breakage Int :=
  match request.logLevel with
  | none => .ok (Log.LevelRequest.standard.resolve settings.level)
  | some (.value name) => .ok ((Log.LevelRequest.named name).resolve settings.level)
  | some .nothing => .error .noText

def logFile (request : Request) : Option String :=
  match request.logFile with
  | some (.value path) => some path
  | _ => none

def received (request : Request) : Log.Event :=
  .debug "cli" ("CLI arguments: " ++ request.inspect) {}

/-- Texts for the two outputs, and the exit code, of a command line that makes no request. -/
def stopped : Stop → String × String × Nat
  | .help => (help, "", 0)
  | .faulty message => ("", usage ++ program ++ ": error: " ++ message ++ "\n", 2)

/-- How the command ends: with an exit code, or broken off. -/
inductive Ending
  | exit (code : Nat)
  | broken (breakage : Breakage)
  | noLogFile (obstacle : Log.Obstacle)
  deriving DecidableEq, Repr

structure Report where
  ending : Ending
  output : String
  console : String
  folder : Log.Folder
  deriving DecidableEq, Repr

/-- The whole command in an empty folder. `stamp` stands for the time of every event, and `opening` for what the system
makes of the log file. -/
def report (settings : Settings) (numerics stamp : String) (words : List String) (input : String)
    (opening : Log.Opening := ({} : Log.Folder).locate []) : Report :=
  match Request.parse words with
  | .error stop =>
    let (output, console, code) := stopped stop
    ⟨.exit code, output, console, {}⟩
  | .ok request =>
    match level settings request with
    | .error breakage => ⟨.broken breakage, "", "", {}⟩
    | .ok level =>
      let channel : Log.Channel := {}
      match channel.setUp level (logFile request) opening with
      | .error refusal => ⟨.noLogFile refusal.obstacle, "", refusal.left.console, refusal.left.folder⟩
      | .ok opened =>
        let run := perform settings numerics request input
        let written := opened.recordAll stamp (received request :: run.events)
        let ending :=
          match run.ending with
          | .ok code => .exit code
          | .error breakage => .broken breakage
        ⟨ending, run.output, written.console, written.folder⟩

end Reckoner.Command
