import Reckoner.Chat

/-! The health check: three small calculations whose answers are known. Settings can make each of them fail. -/

namespace Reckoner.HealthCheck

/-- A check that was made, with the line that reports it. -/
structure Check where
  passed : Bool
  line : String
  deriving DecidableEq, Repr

def check (passed : Bool) (good bad : String) : Check :=
  ⟨passed, if passed then "[OK] " ++ good else "[FAIL] " ++ bad⟩

def evaluationSource : String := "2 + 3 * 4"

def failureSource : String := "1/0"

def chatMessage : String := "@calc sqrt(16) + 2"

/-- The numeric library is at hand wherever the program runs. -/
def library (numerics : String) : Check :=
  check true ("NumPy " ++ numerics ++ " imported successfully") ""

def evaluation (settings : Settings) : Check :=
  let outcome := Outcome.ofSource settings (some evaluationSource)
  check (outcome.ok && outcome.value.any (· == 14)) "Basic evaluation works"
    ("Basic evaluation failed: expected 14, got " ++ outcome.inspect)

def reporting (settings : Settings) : Check :=
  let outcome := Outcome.ofSource settings (some failureSource)
  check (!outcome.ok && outcome.code = some "DIVISION_BY_ZERO") "Error reporting works"
    ("Error reporting check failed: " ++ outcome.inspect)

def chat (settings : Settings) : Check :=
  match Chat.reply settings settings.trigger none (some chatMessage) with
  | .ok reply =>
    check (reply.success && reply.message = some "6") "Chat handling works"
      ("Chat handling check failed: " ++ reply.inspect)
  | .error error => check false "" ("Chat handling check failed: " ++ error.message)

def checks (settings : Settings) (numerics : String) : List Check :=
  [library numerics, evaluation settings, reporting settings, chat settings]

def passed (settings : Settings) (numerics : String) : Bool :=
  (checks settings numerics).all (·.passed)

def rule : String := String.ofList (List.replicate 50 '-')

def report (settings : Settings) (numerics : String) : String :=
  let made := checks settings numerics
  let good := made.filter (·.passed)
  "\n".intercalate (
    ["Running calcbot health check...", rule] ++ made.map (·.line) ++
    [rule, s!"Results: {good.length} passed, {made.length - good.length} failed", "",
      if passed settings numerics then "[OK] All health checks passed!"
      else "[WARN] Some health checks failed. Core functionality may be impaired.", ""])

def journal (settings : Settings) : List Log.Event :=
  Formula.journal settings (some evaluationSource) ++ Formula.journal settings (some failureSource) ++
    Chat.journal settings settings.trigger (some chatMessage)

end Reckoner.HealthCheck
