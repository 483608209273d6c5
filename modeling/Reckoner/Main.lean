import Reckoner.Command
import Reckoner.Log.Stamp
import Std.Time.DateTime.Timestamp

/-! The program itself: it reads the environment and the command line, and prints what the library answers. -/

namespace Reckoner.Program

/-- The settings of the process. -/
def environment : IO (Except Text.IntegerError Settings) := do
  let names :=
    [Settings.maxLengthName, Settings.placesName, Settings.levelName, Settings.triggerName]
  let values ← names.mapM fun name => return (name, ← IO.getEnv name)
  return Settings.load fun name => (values.find? (·.1 = name)).bind (·.2)

/-- The time of day, as log lines give it. -/
def now : IO String := do
  let time ← Std.Time.Timestamp.now
  match Log.stamp (Float.ofInt time.toNanosecondsSinceUnixEpoch.toInt / 1000000000) with
  | .ok text => return text
  | .error error => return error.message

/-- Writes events to the console and to the open log file. -/
def write (hub : Log.Hub) (file : Option IO.FS.Handle) (events : List Log.Event) : IO Unit := do
  let console ← IO.getStderr
  for event in events do
    let stamp ← now
    console.putStr (hub.consoleText stamp event)
    if let some handle := file then handle.putStr (hub.fileText stamp event)

def breakOff (breakage : Command.Breakage) : IO UInt32 := do
  (← IO.getStderr).putStrLn breakage.message
  return 1

/-- A session that reacts to each line as it comes. -/
partial def converse (settings : Settings) (style : Style) (hub : Log.Hub) (file : Option IO.FS.Handle) :
    IO UInt32 := do
  let output ← IO.getStdout
  output.putStr Session.prompt
  output.flush
  let line ← (← IO.getStdin).getLine
  let reaction := Session.react settings style (if line.isEmpty then none else some line)
  write hub file reaction.events
  output.putStr reaction.output
  match reaction.turn with
  | .onward => converse settings style hub file
  | .over => return 0
  | .broken error => breakOff (.unshown error)

def perform (settings : Settings) (request : Options.Request) (level : Int) : IO UInt32 := do
  let path := (Command.logFile request).filter fun name => !name.isEmpty
  let file ← path.mapM fun name => IO.FS.Handle.mk name .append
  let hub := Log.Hub.setUp level path
  write hub file [Command.received request]
  match Command.task settings version request with
  | .session style =>
    (← IO.getStdout).putStr Session.banner
    converse settings style hub file
  | .done run =>
    write hub file run.events
    (← IO.getStdout).putStr run.output
    match run.ending with
    | .ok code => return code.toUInt32
    | .error breakage => breakOff breakage

def run (words : List String) : IO UInt32 := do
  match ← environment with
  | .error error =>
    (← IO.getStderr).putStrLn error.message
    return 1
  | .ok settings =>
    match Options.Request.parse words with
    | .error stop =>
      let (output, console, code) := Command.stopped stop
      (← IO.getStdout).putStr output
      (← IO.getStderr).putStr console
      return code.toUInt32
    | .ok request =>
      match Command.level settings request with
      | .ok level => perform settings request level
      | .error breakage => breakOff breakage

end Reckoner.Program

def main (words : List String) : IO UInt32 :=
  Reckoner.Program.run words
