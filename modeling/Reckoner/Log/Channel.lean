import Reckoner.Log.Folder
import Reckoner.Log.Hub

/-! A log under way: the hub together with what has been written so far. -/

namespace Reckoner.Log

structure Channel where
  hub : Hub := {}
  console : String := ""
  folder : Folder := {}
  deriving DecidableEq, Repr

/-- A set-up that failed, with the channel that is left, which has no sinks. -/
structure Refusal where
  obstacle : Obstacle
  left : Channel
  deriving DecidableEq, Repr

namespace Channel

/-- Sets up the hub anew. The file is made if it is not there. Without an `opening` from the system, the folder has no
directories. -/
def setUp (channel : Channel) (level : Int) (file : Option String) (opening : Opening := channel.folder.locate []) :
    Except Refusal Channel :=
  match file.filter fun path => !path.isEmpty with
  | none => .ok { channel with hub := .setUp level none }
  | some path =>
    match opening path with
    | .ok name => .ok { channel with hub := .setUp level (some name), folder := channel.folder.create name }
    | .error obstacle => .error ⟨obstacle, { channel with hub := .refused level }⟩

def record (channel : Channel) (stamp : String) (event : Event) : Channel :=
  { channel with
    console := channel.console ++ channel.hub.consoleText stamp event
    folder := channel.hub.fileNames.foldl
      (fun folder name => folder.append name (channel.hub.fileText stamp event)) channel.folder }

def recordAll (channel : Channel) (stamp : String) (events : List Event) : Channel :=
  events.foldl (fun channel event => channel.record stamp event) channel

end Channel
end Reckoner.Log
