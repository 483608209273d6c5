import Reckoner.Text.Blank

/-! Levels of a log: numbers, six of which have names. -/

namespace Reckoner.Log

def critical : Int := 50

def error : Int := 40

def warning : Int := 30

def info : Int := 20

def debug : Int := 10

def unset : Int := 0

def levelName (level : Int) : String :=
  if level = critical then "CRITICAL"
  else if level = error then "ERROR"
  else if level = warning then "WARNING"
  else if level = info then "INFO"
  else if level = debug then "DEBUG"
  else if level = unset then "NOTSET"
  else s!"Level {level}"

/-- The capital of every letter whose capital is an ASCII letter: the small ASCII letters, the dotless i and the
long s. Nothing else can take part in the name of a level. -/
def capital (c : Char) : Char :=
  if c = 'ı' then 'I' else if c = 'ſ' then 'S' else c.toUpper

/-- Levels by name, two of them under a second one. -/
def levelOf? (name : String) : Option Int :=
  match name with
  | "CRITICAL" | "FATAL" => some critical
  | "ERROR" => some error
  | "WARNING" | "WARN" => some warning
  | "INFO" => some info
  | "DEBUG" => some debug
  | "NOTSET" => some unset
  | _ => none

/-- How a level is asked for. -/
inductive LevelRequest
  | named (name : String)
  | numbered (level : Int)
  | standard
  deriving DecidableEq, Repr

def namedLevel (name : String) : Int :=
  (levelOf? (String.ofList ((Text.trim name.toList).map capital))).getD warning

/-- The level that a request stands for, where `standard` names the one that is asked for by asking for none. -/
def LevelRequest.resolve (standard : String) : LevelRequest → Int
  | .named name => namedLevel name
  | .numbered level => level
  | .standard => namedLevel standard

end Reckoner.Log
