import Reckoner.Outcome
import Reckoner.Text.Lines

/-! Interactive sessions. Each line is answered by itself: what it gets depends on no other line. -/

namespace Reckoner

/-- How a session or a single command prints its results. -/
structure Style where
  format : Format := .human
  decimals : Option Int := none
  deriving DecidableEq, Repr

namespace Session

def banner : String := "calcbot - type 'help' for commands, 'quit' to exit.\n"

def prompt : String := ">>> "

def farewell : String := "Goodbye.\n"

def help : String :=
  "calcbot version " ++ version ++ "

Operators:  +  -  *  /  ^        (^ groups left to right: 2^3^2 = 64)
Functions:  sin cos tan sqrt log ln   (argument must be in parentheses)
Constants:  pi  e

Examples:
  2 + 3 * 4
  (2 + 3) * 4
  sqrt(16) + 2
  log(100) / ln(e)

Commands: help, quit, exit
"

/-- What a line asks for. Commands are known by the whole line, in any case. -/
inductive Input
  | nothing
  | help
  | quit
  | formula (source : String)
  deriving DecidableEq, Repr

def readLine (line : String) : Input :=
  let trimmed := Text.trim line.toList
  if trimmed.isEmpty then .nothing
  else
    match String.ofList (Text.lower trimmed) with
    | "help" => .help
    | "quit" | "exit" => .quit
    | _ => .formula (String.ofList trimmed)

/-- What is printed for a formula. -/
def answer (settings : Settings) (style : Style) (source : String) : Except DisplayError String :=
  (Outcome.ofSource settings (some source)).print settings style.format style.decimals

/-- How a session goes on. -/
inductive Turn
  | onward
  | over
  | broken (error : DisplayError)
  deriving DecidableEq, Repr

/-- What a line brings about: what is printed after its prompt, what is logged, and how the session goes on. -/
structure Reaction where
  output : String := ""
  events : List Log.Event := []
  turn : Turn := .onward

/-- Reacts to a line, or to the end of the input. -/
def react (settings : Settings) (style : Style) : Option String → Reaction
  | none => { output := "\n" ++ farewell, turn := .over }
  | some line =>
    match readLine line with
    | .nothing => {}
    | .help => { output := help }
    | .quit => { output := farewell, turn := .over }
    | .formula source =>
      let events := Formula.journal settings (some source)
      match answer settings style source with
      | .ok text => { output := text, events }
      | .error error => { events, turn := .broken error }

/-- The record of a session: what it printed, what it logged, and the error that broke it off, if one did. -/
structure Transcript where
  output : String
  events : List Log.Event := []
  error : Option DisplayError := none

namespace Transcript

/-- A transcript after some earlier output and events. -/
def after (output : String) (events : List Log.Event) (rest : Transcript) : Transcript :=
  { rest with output := output ++ rest.output, events := events ++ rest.events }

end Transcript

/-- The end of a session that does not go on after a reaction. -/
def Reaction.last (reaction : Reaction) : Transcript where
  output := prompt ++ reaction.output
  events := reaction.events
  error :=
    match reaction.turn with
    | .broken error => some error
    | _ => none

/-- A session over the lines of its input, from the first prompt on. -/
def converse (settings : Settings) (style : Style) : List String → Transcript
  | [] => (react settings style none).last
  | line :: rest =>
    let reaction := react settings style (some line)
    match reaction.turn with
    | .onward => .after (prompt ++ reaction.output) reaction.events (converse settings style rest)
    | _ => reaction.last

theorem converse_nil (settings : Settings) (style : Style) :
    converse settings style [] = { output := prompt ++ ("\n" ++ farewell) } := rfl

theorem converse_cons (settings : Settings) (style : Style) (line : String) (rest : List String) :
    converse settings style (line :: rest) =
      match readLine line with
      | .nothing => .after prompt [] (converse settings style rest)
      | .help => .after (prompt ++ help) [] (converse settings style rest)
      | .quit => { output := prompt ++ farewell }
      | .formula source =>
        let events := Formula.journal settings (some source)
        match answer settings style source with
        | .ok text => .after (prompt ++ text) events (converse settings style rest)
        | .error error => { output := prompt, events, error := some error } := by
  rw [converse, react]
  cases readLine line with
  | nothing => simp
  | help => rfl
  | quit => rfl
  | formula source => cases answered : answer settings style source <;> simp [answered, Reaction.last]

def run (settings : Settings) (style : Style) (input : String) : Transcript :=
  .after banner [] (converse settings style (Text.lines input))

end Session
end Reckoner
