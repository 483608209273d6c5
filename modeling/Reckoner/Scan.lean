import Reckoner.Failure
import Reckoner.Text.Letter

/-! From compact text to tokens. The text is cut from left to right, each time into the lexeme that stands first,
and the first place where none stands decides the failure. -/

namespace Reckoner

/-- The ratio of a circle to its diameter. -/
def pi : Float := 3.141592653589793

/-- The base of the natural logarithm. -/
def euler : Float := 2.718281828459045

namespace Scan

/-- What stands between the whole part of a number and its fraction. -/
def point : Char := '.'

def digits : List Char :=
  ['0', '1', '2', '3', '4', '5', '6', '7', '8', '9']

def isNumeral (c : Char) : Bool :=
  digits.contains c || c = point

/-- The value of a maximal run of digits and points. Too many points are reported before a point at the end. -/
def numeral (run : List Char) : Except Failure Float :=
  if 1 < run.count point then .error .manyPoints
  else if run.getLast? = some point then .error .trailingPoint
  else .ok (Decimal.ofNumeral run).toFloat

/-- A keyword or a constant at the head of the text, with what follows it. The constant `e` must not be the first
letter of a word. -/
def word? : List Char → Option (Token × List Char)
  | 'p' :: 'i' :: rest => some (.number pi, rest)
  | 'e' :: rest => if rest.head?.any Text.isLetter then none else some (.number euler, rest)
  | 's' :: 'i' :: 'n' :: rest => some (.function .sin, rest)
  | 'c' :: 'o' :: 's' :: rest => some (.function .cos, rest)
  | 't' :: 'a' :: 'n' :: rest => some (.function .tan, rest)
  | 's' :: 'q' :: 'r' :: 't' :: rest => some (.function .sqrt, rest)
  | 'l' :: 'o' :: 'g' :: rest => some (.function .log, rest)
  | 'l' :: 'n' :: rest => some (.function .ln, rest)
  | _ => none

def symbol? : Char → Option Token
  | '+' => some (.operator .add)
  | '-' => some (.operator .sub)
  | '*' => some (.operator .mul)
  | '/' => some (.operator .div)
  | '^' => some (.operator .pow)
  | '(' => some .leftParen
  | ')' => some .rightParen
  | _ => none

/-- The lexeme at the head of `c :: rest`, with what follows it. A minus belongs to the number behind it if it
opens the text or a group, which is what `opening` says. -/
def lexeme (opening : Bool) (c : Char) (rest : List Char) : Except Failure (Token × List Char) :=
  if isNumeral c then do
    let value ← numeral ((c :: rest).takeWhile isNumeral)
    return (.number value, (c :: rest).dropWhile isNumeral)
  else if c = '-' && opening && rest.head?.any isNumeral then do
    let value ← numeral (rest.takeWhile isNumeral)
    return (.number (-value), rest.dropWhile isNumeral)
  else
    match word? (c :: rest) with
    | some found => .ok found
    | none =>
      match symbol? c with
      | some token => .ok (token, rest)
      | none => .error (.invalidCharacter c)

theorem word?_length {cs rest : List Char} {token : Token} (found : word? cs = some (token, rest)) :
    rest.length < cs.length := by
  unfold word? at found
  split at found
  case h_2 =>
    split at found
    · cases found
    · cases found; simp
  all_goals cases found
  all_goals simp only [List.length_cons]; omega

/-- A lexeme is never empty, so that scanning comes to an end. -/
theorem lexeme_length {opening : Bool} {c : Char} {rest after : List Char} {token : Token}
    (found : lexeme opening c rest = .ok (token, after)) : after.length < (c :: rest).length := by
  unfold lexeme at found
  split at found
  next numeric =>
    cases read : numeral ((c :: rest).takeWhile isNumeral) with
    | error failure => simp [read, bind, Except.bind] at found
    | ok value =>
      simp only [read, bind, Except.bind, pure, Except.pure, List.dropWhile_cons, numeric, ↓reduceIte,
        Except.ok.injEq, Prod.mk.injEq] at found
      have shorter := (rest.dropWhile_sublist isNumeral).length_le
      simp only [← found.2, List.length_cons]
      omega
  next =>
    split at found
    next =>
      cases read : numeral (rest.takeWhile isNumeral) with
      | error failure => simp [read, bind, Except.bind] at found
      | ok value =>
        simp only [read, bind, Except.bind, pure, Except.pure, Except.ok.injEq, Prod.mk.injEq] at found
        have shorter := (rest.dropWhile_sublist isNumeral).length_le
        simp only [← found.2, List.length_cons]
        omega
    next =>
      split at found
      next pair word => cases found; exact word?_length word
      next =>
        split at found
        next =>
          simp only [Except.ok.injEq, Prod.mk.injEq] at found
          simp [← found.2]
        next => cases found

/-- A minus opens a group right after its parenthesis. -/
def opens : Token → Bool
  | .leftParen => true
  | _ => false

/-- The tokens of a compact text. -/
def tokens (opening : Bool) : List Char → Except Failure (List Token)
  | [] => .ok []
  | c :: rest =>
    match _found : lexeme opening c rest with
    | .error failure => .error failure
    | .ok (token, after) =>
      match tokens (opens token) after with
      | .error failure => .error failure
      | .ok following => .ok (token :: following)
termination_by cs => cs.length
decreasing_by exact lexeme_length _found

theorem tokens_nil (opening : Bool) : tokens opening [] = .ok [] := by rw [tokens]

/-- Scanning is one lexeme and then the rest, whose own failures come second. -/
theorem tokens_cons (opening : Bool) (c : Char) (rest : List Char) :
    tokens opening (c :: rest) = do
      let (token, after) ← lexeme opening c rest
      let following ← tokens (opens token) after
      return token :: following := by
  rw [tokens]
  split
  next failure found => rw [found]; rfl
  next token after found =>
    rw [found]
    change _ = (tokens (opens token) after).bind fun following => .ok (token :: following)
    cases tokens (opens token) after <;> rfl

end Scan
end Reckoner
