import Reckoner.Options.Flag
import Reckoner.Options.Usage
import Reckoner.Outcome

/-! Requests: command lines that have been understood. The words are told apart first, all of them, and then taken in
order. An option given twice has its last value. -/

namespace Reckoner.Options

/-- What an option was given: a value, or a double dash, which leaves it given but without a value. -/
inductive Argument (α : Type)
  | value (value : α)
  | nothing
  deriving DecidableEq, Repr

structure Request where
  expression : Option (Argument String) := none
  message : Option (Argument String) := none
  json : Bool := false
  format : Argument Format := .value .human
  precision : Option (Argument Int) := none
  version : Bool := false
  logLevel : Option (Argument String) := none
  logFile : Option (Argument String) := none
  healthCheck : Bool := false
  deriving DecidableEq, Repr

def levelNames : List String :=
  ["DEBUG", "INFO", "WARNING", "ERROR"]

/-- Why there is no request: help was asked for, or the command line is faulty. -/
inductive Stop
  | help
  | faulty (message : String)
  deriving DecidableEq, Repr

/-- A fault of one option. -/
def Stop.about (flag : Flag) (message : String) : Stop :=
  .faulty ("argument " ++ flag.title ++ ": " ++ message)

def ignored (flag : Flag) (value : List Char) : Stop :=
  .about flag ("ignored explicit argument " ++ String.ofList (Text.quoteChars value))

def invalidChoice (flag : Flag) (value : String) (choices : List String) : Stop :=
  .about flag (
    "invalid choice: " ++ Text.quote value ++ " (choose from " ++ ", ".intercalate (choices.map Text.quote) ++ ")")

namespace Request

/-- Takes in an option that stands by itself. -/
def switch (request : Request) : Flag → Except Stop Request
  | .help => .error .help
  | .json => .ok { request with json := true }
  | .version => .ok { request with version := true }
  | .healthCheck => .ok { request with healthCheck := true }
  | _ => .ok request

def readFormat (text : String) : Except Stop Format :=
  match Format.all.find? (·.name = text) with
  | some format => .ok format
  | none => .error (invalidChoice .format text (Format.all.map Format.name))

def readPrecision (text : String) : Except Stop Int :=
  match Text.readInteger text with
  | .ok places => .ok places
  | .error _ => .error (.about .precision ("invalid int value: " ++ Text.quote text))

def readLevel (text : String) : Except Stop String :=
  if levelNames.contains text then .ok text else .error (invalidChoice .logLevel text levelNames)

/-- A double dash is never looked at as a value. -/
def readArgument {α : Type} (read : String → Except Stop α) (text : String) : Except Stop (Argument α) :=
  if text = "--" then .ok .nothing else (read text).map .value

/-- Takes in an option with its value. -/
def assign (request : Request) (flag : Flag) (text : String) : Except Stop Request :=
  match flag with
  | .expression => (readArgument .ok text).map fun given => { request with expression := some given }
  | .message => (readArgument .ok text).map fun given => { request with message := some given }
  | .format => (readArgument readFormat text).map fun given => { request with format := given }
  | .precision => (readArgument readPrecision text).map fun given => { request with precision := some given }
  | .logLevel => (readArgument readLevel text).map fun given => { request with logLevel := some given }
  | .logFile => (readArgument .ok text).map fun given => { request with logFile := some given }
  | _ => .ok request

def switchAll (request : Request) : List Flag → Except Stop Request
  | [] => .ok request
  | flag :: rest => do
    let switched ← request.switch flag
    switched.switchAll rest

end Request

/-- The options in one word: some that stand by themselves, and then perhaps one with a value, or one whose value is
the next word. -/
inductive Ending
  | nothing
  | value (flag : Flag) (text : List Char)
  | awaits (flag : Flag)
  deriving DecidableEq, Repr

structure Bundle where
  switches : List Flag
  ending : Ending
  deriving DecidableEq, Repr

namespace Bundle

def alone (flag : Flag) : Bundle :=
  if flag.takesValue then ⟨[], .awaits flag⟩ else ⟨[flag], .nothing⟩

/-- What follows a short name is the value of the option. Where it has none, the letter of another option follows,
and then what follows that. -/
def following (flag : Flag) : List Char → Except Stop Bundle
  | [] => .ok (alone flag)
  | c :: rest =>
    if flag.takesValue then .ok ⟨[], .value flag (c :: rest)⟩
    else
      match Flag.named? (String.ofList ['-', c]) with
      | none => .error (ignored flag (c :: rest))
      | some next => do
        let bundle ← following next rest
        return { bundle with switches := flag :: bundle.switches }

/-- An equals sign after a short name is passed over, but something must follow it. -/
def ofMention (mention : Mention) : Except Stop Bundle :=
  match mention.rest with
  | none => .ok (alone mention.flag)
  | some text =>
    if mention.flag.takesValue then .ok ⟨[], .value mention.flag text⟩
    else if mention.short && !text.isEmpty then following mention.flag text
    else .error (ignored mention.flag text)

end Bundle

def classifyAll : List String → Except Stop (List Word)
  | [] => .ok []
  | word :: rest =>
    if word = "--" then .ok (.dashes :: rest.map .plain)
    else
      match classify word with
      | .error names =>
        .error (.faulty ("ambiguous option: " ++ word ++ " could match " ++ ", ".intercalate names))
      | .ok first => (classifyAll rest).map (first :: ·)

/-- The request that words make, and the words that have no place in it. -/
def gather (request : Request) : List Word → Except Stop (Request × List String)
  | [] => .ok (request, [])
  | .plain text :: rest | .unknown text :: rest => do
    let (made, extras) ← gather request rest
    return (made, text :: extras)
  | .dashes :: rest => do
    let (made, extras) ← gather request rest
    return (made, "--" :: extras)
  | .option mention :: rest => do
    let bundle ← Bundle.ofMention mention
    match bundle.ending with
    | .awaits last =>
      match rest with
      | .plain value :: rest => do
        let switched ← request.switchAll bundle.switches
        let assigned ← switched.assign last value
        gather assigned rest
      | _ => .error (.about last "expected one argument")
    | .value last value => do
      let switched ← request.switchAll bundle.switches
      let assigned ← switched.assign last (String.ofList value)
      gather assigned rest
    | .nothing => do
      let switched ← request.switchAll bundle.switches
      gather switched rest

def Request.parse (words : List String) : Except Stop Request := do
  let classified ← classifyAll words
  let (request, extras) ← gather {} classified
  if extras.isEmpty then return request
  else .error (.faulty ("unrecognized arguments: " ++ " ".intercalate extras))

/-- An argument as a log line shows it. -/
def Argument.inspect {α : Type} (write : α → String) : Argument α → String
  | .value given => write given
  | .nothing => "[]"

namespace Request

def inspectOption {α : Type} (write : α → String) (given : Option (Argument α)) : String :=
  (given.map (Argument.inspect write)).getD "None"

/-- The request as one line of a log shows it. -/
def inspect (request : Request) : String :=
  "\x7b'eval_expr': " ++ inspectOption Text.quote request.expression ++
  ", 'message': " ++ inspectOption Text.quote request.message ++
  ", 'json': " ++ boolText request.json ++
  ", 'format': " ++ request.format.inspect (fun format => Text.quote format.name) ++
  ", 'precision': " ++ inspectOption toString request.precision ++
  ", 'version': " ++ boolText request.version ++
  ", 'log_level': " ++ inspectOption Text.quote request.logLevel ++
  ", 'log_file': " ++ inspectOption Text.quote request.logFile ++
  ", 'health_check': " ++ boolText request.healthCheck ++ "\x7d"

end Request
end Reckoner.Options
