import Reckoner.Log.Event

/-! Where events go. A hub has a level and sinks. Before it is set up it has neither, and only what is at least a
warning is heard of, without any circumstances. -/

namespace Reckoner.Log

inductive Sink
  | console
  | file (name : String)
  deriving DecidableEq, Repr

structure Hub where
  level : Int := unset
  sinks : List Sink := []
  deriving DecidableEq, Repr

namespace Hub

def threshold (hub : Hub) : Int :=
  if hub.level = unset then warning else hub.level

/-- Events without a level, or with one below that, are never let through. -/
def accepts (hub : Hub) (event : Event) : Bool :=
  unset < event.level && hub.threshold ≤ event.level

def fileNames (hub : Hub) : List String :=
  hub.sinks.filterMap fun sink =>
    match sink with
    | .file name => some name
    | .console => none

/-- What an event adds to the console. -/
def consoleText (hub : Hub) (stamp : String) (event : Event) : String :=
  if !hub.accepts event then ""
  else if hub.sinks.isEmpty then if warning ≤ event.level then event.message ++ "\n" else ""
  else if hub.sinks.contains .console then event.line stamp none ++ "\n"
  else ""

/-- What an event adds to each file. -/
def fileText (hub : Hub) (stamp : String) (event : Event) : String :=
  if hub.accepts event then event.line stamp none ++ "\n" else ""

/-- A hub at a level, with the console and perhaps a file as its sinks. -/
def setUp (level : Int) (file : Option String) : Hub :=
  ⟨level, .console :: (file.map .file).toList⟩

/-- A hub whose file could not be opened: the level is new, the former sinks are gone. -/
def refused (level : Int) : Hub :=
  ⟨level, []⟩

end Hub
end Reckoner.Log
