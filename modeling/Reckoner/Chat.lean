import Reckoner.Outcome

/-! Chat messages. A message that begins with the trigger asks for a calculation, and any other is left alone. -/

namespace Reckoner.Chat

structure Reply where
  success : Bool
  message : Option String := none
  note : Option String := none
  deriving DecidableEq, Repr

namespace Reply

def members (reply : Reply) : List (String × Json) :=
  ("success", .bool reply.success) :: Outcome.textMember "message" reply.message ++
    Outcome.textMember "note" reply.note

def inspect (reply : Reply) : String :=
  "ChatReply(success=" ++ boolText reply.success ++ ", message=" ++ Text.quoteOption reply.message ++ ", note=" ++
    Text.quoteOption reply.note ++ ")"

end Reply

/-- What follows the trigger, if the message begins with it. Blanks do not count at the ends of the message, nor
between the trigger and what follows. -/
def addressed? (trigger message : List Char) : Option (List Char) :=
  let text := Text.trim message
  if trigger.isPrefixOf text then some (Text.trim (text.drop trigger.length)) else none

def expression? (trigger message : String) : Option String :=
  (addressed? trigger.toList message.toList).map String.ofList

def usage (trigger : String) : String :=
  "Usage: " ++ trigger ++ " [expression]\nExample: " ++ trigger ++ " 2 + 2"

/-- The usage text with a marker in the places of the trigger. -/
def usagePattern : String :=
  usage "\x7bprefix\x7d"

def reply (settings : Settings) (trigger : String) (decimals : Option Int) (message : Option String) :
    Except DisplayError Reply :=
  match message with
  | none => .ok { success := false, note := some "No message provided" }
  | some message =>
    match expression? trigger message with
    | none => .ok { success := true }
    | some expression =>
      if expression.isEmpty then
        .ok {
          success := false, message := some (usage trigger),
          note := some "Please provide an expression to calculate" }
      else
        match Formula.value settings (some expression) with
        | .error failure =>
          .ok {
            success := false, message := some ("Error: " ++ Display.failure (some failure.message)),
            note := some failure.message }
        | .ok value =>
          (Display.value settings decimals value).map fun text => { success := true, message := some text }

def rejected (trigger expression : String) (failure : Failure) : Log.Event :=
  .info "chat" ("Rejected expression: " ++ failure.message) {
    code := some (.text failure.code), expression := some (.text expression), trigger := some (.text trigger) }

/-- What a message logs: its evaluation, and the rejection if that failed. -/
def journal (settings : Settings) (trigger : String) (message : Option String) : List Log.Event :=
  match message.bind (expression? trigger) with
  | none => []
  | some expression =>
    if expression.isEmpty then []
    else
      Formula.journal settings (some expression) ++
        (match Formula.value settings (some expression) with
          | .error failure => [rejected trigger expression failure]
          | .ok _ => [])

end Reckoner.Chat
