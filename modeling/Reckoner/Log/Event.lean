import Reckoner.Log.Level
import Reckoner.Text.Quoted

/-! Events and the lines that report them. What was evaluated goes into named fields behind the message, where it
is quoted, and so cannot pass for anything else. -/

namespace Reckoner.Log

inductive Field
  | text (value : String)
  | whole (value : Int)
  deriving DecidableEq, Repr

def Field.render : Field → String
  | .text value => Text.quote value
  | .whole value => toString value

/-- The circumstances of an event, in the order in which a line gives them. -/
structure Context where
  code : Option Field := none
  expression : Option Field := none
  tokens : Option Field := none
  trigger : Option Field := none
  deriving DecidableEq, Repr

namespace Context

def fields (context : Context) : List (String × Option Field) :=
  [("code", context.code), ("expression", context.expression), ("tokens", context.tokens),
    ("prefix", context.trigger)]

def parts (context : Context) : List String :=
  context.fields.filterMap fun (name, field) => field.map fun value => name ++ "=" ++ value.render

/-- Each field that is there, after a space. -/
def render (context : Context) : String :=
  context.parts.foldr (fun part rest => " " ++ part ++ rest) ""

end Context

structure Event where
  logger : String
  level : Int
  message : String
  context : Context := {}
  deriving DecidableEq, Repr

/-- An exception that came with an event. -/
structure Cause where
  title : String
  text : String
  deriving DecidableEq, Repr

def Cause.render (cause : Cause) : String :=
  if cause.text.isEmpty then cause.title else cause.title ++ ": " ++ cause.text

/-- The root of all loggers. -/
def root : String := "calcbot"

def loggerName (name : String) : String :=
  root ++ "." ++ name

namespace Event

def debug (name message : String) (context : Context) : Event :=
  ⟨loggerName name, Log.debug, message, context⟩

def info (name message : String) (context : Context) : Event :=
  ⟨loggerName name, Log.info, message, context⟩

/-- The line of an event. A cause follows on a line of its own. -/
def line (event : Event) (stamp : String) (cause : Option Cause) : String :=
  stamp ++ " [" ++ levelName event.level ++ "] " ++ event.logger ++ ": " ++ event.message ++ event.context.render ++
    (match cause with
      | some cause => "\n" ++ cause.render
      | none => "")

end Event
end Reckoner.Log
