import Reckoner.Text.Digit

/-! The options of the command line, and what a single word of it can be. -/

namespace Reckoner.Options

inductive Flag
  | help
  | expression
  | message
  | json
  | format
  | precision
  | version
  | logLevel
  | logFile
  | healthCheck
  deriving DecidableEq, Repr

namespace Flag

def all : List Flag :=
  [help, expression, message, json, format, precision, version, logLevel, logFile, healthCheck]

def names : Flag → List String
  | help => ["-h", "--help"]
  | expression => ["-e", "--eval"]
  | message => ["--message"]
  | json => ["-j", "--json"]
  | format => ["--format"]
  | precision => ["-p", "--precision"]
  | version => ["-v", "--version"]
  | logLevel => ["--log-level"]
  | logFile => ["--log-file"]
  | healthCheck => ["--health-check"]

def takesValue : Flag → Bool
  | expression | message | format | precision | logLevel | logFile => true
  | help | json | version | healthCheck => false

/-- All names of an option, as messages give them. -/
def title (flag : Flag) : String :=
  "/".intercalate flag.names

/-- Every name with its option, in the order in which they are listed. -/
def table : List (String × Flag) :=
  all.flatMap fun flag => flag.names.map (·, flag)

def named? (name : String) : Option Flag :=
  (table.find? (·.1 = name)).map (·.2)

end Flag

/-- An option as a word names it, by a short name or a long one, with what follows the name in the same word. -/
structure Mention where
  flag : Flag
  short : Bool
  rest : Option (List Char) := none
  deriving DecidableEq, Repr

/-- A word of the command line. A double dash makes all words after it plain. -/
inductive Word
  | plain (text : String)
  | dashes
  | option (mention : Mention)
  | unknown (text : String)
  deriving DecidableEq, Repr

/-- Digits, or digits with a point before the last of them, after a minus. A line feed at the end does not count. -/
def isNegativeNumber (cs : List Char) : Bool :=
  match cs with
  | '-' :: body =>
    let isDigit (c : Char) : Bool := (Text.digitValue? c).isSome
    let body := if body.getLast? = some '\n' then body.dropLast else body
    match body.dropWhile isDigit with
    | [] => !body.isEmpty
    | '.' :: fraction => !fraction.isEmpty && fraction.all isDigit
    | _ => false
  | _ => false

/-- A long name begins with two dashes, a short one is a dash and a letter. -/
def isShort (name : List Char) : Bool :=
  !(['-', '-'].isPrefixOf name)

/-- What follows the first equals sign, if there is one. -/
def joined? (cs : List Char) : Option (List Char) :=
  match cs.dropWhile (· ≠ '=') with
  | _ :: value => some value
  | [] => none

/-- Long names may be cut short. A short one may be followed by its value or by other short options. -/
def candidates (cs : List Char) : List (String × Mention) :=
  match cs with
  | '-' :: '-' :: _ =>
    let stem := cs.takeWhile (· ≠ '=')
    (Flag.table.filter fun entry => stem.isPrefixOf entry.1.toList).map fun entry =>
      (entry.1, ⟨entry.2, false, joined? cs⟩)
  | '-' :: c :: rest =>
    (Flag.table.filter fun entry => entry.1.toList = ['-', c]).map fun entry => (entry.1, ⟨entry.2, true, some rest⟩)
  | _ => []

/-- The option whose full name is the word, or stands before the first equals sign in it. -/
def mention? (cs : List Char) : Option Mention :=
  match Flag.named? (String.ofList cs) with
  | some flag => some ⟨flag, isShort cs, none⟩
  | none => do
    let value ← joined? cs
    let flag ← Flag.named? (String.ofList (cs.takeWhile (· ≠ '=')))
    return ⟨flag, isShort cs, some value⟩

/-- What a word is, or the names that it could be short for. A word that looks like an option but is none is plain if
it is a negative number or has a space in it. -/
def classify (word : String) : Except (List String) Word :=
  match word.toList with
  | '-' :: body =>
    match mention? word.toList with
    | some mention => .ok (.option mention)
    | none =>
      if body.isEmpty then .ok (.plain word)
      else
        match candidates word.toList with
        | [(_, mention)] => .ok (.option mention)
        | [] =>
          if isNegativeNumber word.toList || word.toList.contains ' ' then .ok (.plain word)
          else .ok (.unknown word)
        | several => .error (several.map (·.1))
  | _ => .ok (.plain word)

end Reckoner.Options
