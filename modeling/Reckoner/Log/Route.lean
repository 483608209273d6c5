/-! Paths to log files. A path is followed by its names alone: steps in place and steps back are taken out before
anything is looked up, so a name that is stepped back from need not be there. -/

namespace Reckoner.Log

/-- Where a path starts: at the root, or so many steps above the folder in which it is used. -/
inductive Origin
  | root
  | above (steps : Nat)
  deriving DecidableEq, Repr

def Origin.text : Origin → String
  | .root => "/"
  | .above steps => (List.replicate steps "../").foldr (· ++ ·) ""

/-- A path with its last name first. -/
structure Route where
  origin : Origin
  names : List String := []
  deriving DecidableEq, Repr

namespace Route

/-- A step back undoes a name. There is nothing above the root. -/
def back (route : Route) : Route :=
  match route.names, route.origin with
  | _ :: names, _ => { route with names }
  | [], .above steps => ⟨.above (steps + 1), []⟩
  | [], .root => route

def step (route : Route) (part : String) : Route :=
  if part = "" || part = "." then route
  else if part = ".." then route.back
  else { route with names := part :: route.names }

def ofPath (path : String) : Route :=
  (path.splitOn "/").foldl step ⟨if path.startsWith "/" then .root else .above 0, []⟩

def text (route : Route) : String :=
  route.origin.text ++ "/".intercalate route.names.reverse

end Route
end Reckoner.Log
