import Mathlib.Algebra.Order.Field.Power
import Mathlib.Data.Rat.Cast.Order

/-! The grammar of JSON documents, with what each of them stands for. A rule says what is read, up to the rest of the
text. -/

namespace Reckoner.Proofs.JsonGrammar

/-- What a document stands for. A number has a sign of its own, since zero may have one. The members of an object are
in the order in which they are written. -/
inductive Value
  | null
  | bool (value : Bool)
  | number (negative : Bool) (size : ℚ)
  | text (value : String)
  | array (items : List Value)
  | object (members : List (String × Value))

def isSpace (c : Char) : Bool :=
  c = ' ' || c = '\t' || c = '\n' || c = '\r'

def Spaces (cs : List Char) : Prop :=
  ∀ c ∈ cs, isSpace c

/-- Digits, of which there is at least one. -/
structure Digits (cs : List Char) : Prop where
  present : cs ≠ []
  all : ∀ c ∈ cs, c.isDigit

/-- Only zero itself begins with a zero. -/
structure Whole (cs : List Char) : Prop extends Digits cs where
  first : cs.head? = some '0' → cs = ['0']

/-- A point with digits behind it, or nothing. -/
inductive Fraction : List Char → List Char → Prop
  | none : Fraction [] []
  | some (digits : Digits ds) : Fraction ('.' :: ds) ds

/-- A whole number that may have either sign. -/
inductive Signed : List Char → ℤ → Prop
  | plain (digits : Digits ds) : Signed ds (Nat.ofDigitChars 10 ds 0)
  | plus (digits : Digits ds) : Signed ('+' :: ds) (Nat.ofDigitChars 10 ds 0)
  | minus (digits : Digits ds) : Signed ('-' :: ds) (-(Nat.ofDigitChars 10 ds 0 : ℕ))

/-- A power of ten behind its letter, or nothing. -/
inductive Power : List Char → ℤ → Prop
  | none : Power [] 0
  | some (letter : e = 'e' ∨ e = 'E') (signed : Signed cs k) : Power (e :: cs) k

def sign (negative : Bool) : List Char :=
  if negative then ['-'] else []

def amount (whole fraction : List Char) (power : ℤ) : ℚ :=
  Nat.ofDigitChars 10 (whole ++ fraction) 0 * 10 ^ (power - fraction.length)

/-- Nothing follows that would belong to a number. -/
def Ends (rest : List Char) : Prop :=
  ¬ rest.head?.any fun c => c.isDigit || c = '.' || c = 'e' || c = 'E'

/-- The letters that stand for characters behind a backslash. -/
def escapes : List (Char × Char) :=
  [('"', '"'), ('\\', '\\'), ('/', '/'), ('b', '\x08'), ('f', '\x0c'), ('n', '\n'), ('r', '\r'), ('t', '\t')]

def hex? (c : Char) : Option ℕ :=
  if c.isDigit then some (c.toNat - '0'.toNat)
  else if 'a' ≤ c ∧ c ≤ 'f' then some (c.toNat - 'a'.toNat + 10)
  else if 'A' ≤ c ∧ c ≤ 'F' then some (c.toNat - 'A'.toNat + 10)
  else none

/-- The number that hexadecimal digits stand for. -/
def unit? (cs : List Char) : Option ℕ :=
  cs.foldl (fun sofar c => sofar.bind fun n => (hex? c).map (16 * n + ·)) (some 0)

/-- The characters of a text up to the mark that closes it. Characters beyond sixteen bits are escaped in two halves,
and a half without the other stands for nothing. -/
inductive Body : List Char → List Char → List Char → Prop
  | close : Body [] ('"' :: rest) rest
  | plain (visible : ' ' ≤ c) (mark : c ≠ '"') (slash : c ≠ '\\') (others : Body meaning cs rest) :
      Body (c :: meaning) (c :: cs) rest
  | escape (known : (letter, c) ∈ escapes) (others : Body meaning cs rest) :
      Body (c :: meaning) ('\\' :: letter :: cs) rest
  | unit (read : unit? [a, b, c, d] = some n) (whole : ¬ (0xD800 ≤ n ∧ n < 0xE000)) (others : Body meaning cs rest) :
      Body (Char.ofNat n :: meaning) ('\\' :: 'u' :: a :: b :: c :: d :: cs) rest
  | pair (high : unit? [a, b, c, d] = some n) (low : unit? [a', b', c', d'] = some m)
      (first : 0xD800 ≤ n ∧ n < 0xDC00) (second : 0xDC00 ≤ m ∧ m < 0xE000) (others : Body meaning cs rest) :
      Body (Char.ofNat (0x10000 + (n - 0xD800) * 0x400 + (m - 0xDC00)) :: meaning)
        ('\\' :: 'u' :: a :: b :: c :: d :: '\\' :: 'u' :: a' :: b' :: c' :: d' :: cs) rest

/-- A value, or what stands between the brackets of one. -/
inductive Phrase
  | value (value : Value)
  | items (items : List Value)
  | members (members : List (String × Value))

inductive Reads : Phrase → List Char → List Char → Prop
  | null : Reads (.value .null) ('n' :: 'u' :: 'l' :: 'l' :: rest) rest
  | true : Reads (.value (.bool true)) ('t' :: 'r' :: 'u' :: 'e' :: rest) rest
  | false : Reads (.value (.bool false)) ('f' :: 'a' :: 'l' :: 's' :: 'e' :: rest) rest
  | number (negative : Bool) (whole : Whole w) (fraction : Fraction f ds) (power : Power p k) (ends : Ends rest) :
      Reads (.value (.number negative (amount w ds k))) (sign negative ++ (w ++ (f ++ (p ++ rest)))) rest
  | text (body : Body meaning cs rest) : Reads (.value (.text (String.ofList meaning))) ('"' :: cs) rest
  | noItems (spaces : Spaces between) : Reads (.value (.array [])) ('[' :: (between ++ ']' :: rest)) rest
  | array (inside : Reads (.items items) cs rest) : Reads (.value (.array items)) ('[' :: cs) rest
  | lastItem (before : Spaces left) (item : Reads (.value v) cs (right ++ ']' :: rest)) (after : Spaces right) :
      Reads (.items [v]) (left ++ cs) rest
  | item (before : Spaces left) (item : Reads (.value v) cs (right ++ ',' :: next)) (after : Spaces right)
      (others : Reads (.items items) next rest) : Reads (.items (v :: items)) (left ++ cs) rest
  | noMembers (spaces : Spaces between) : Reads (.value (.object [])) ('\x7b' :: (between ++ '\x7d' :: rest)) rest
  | object (inside : Reads (.members members) cs rest) : Reads (.value (.object members)) ('\x7b' :: cs) rest
  | lastMember (before : Spaces left) (name : Body meaning cs (gap ++ ':' :: (gap' ++ cs'))) (around : Spaces gap)
      (around' : Spaces gap') (value : Reads (.value v) cs' (right ++ '\x7d' :: rest)) (after : Spaces right) :
      Reads (.members [(String.ofList meaning, v)]) (left ++ '"' :: cs) rest
  | member (before : Spaces left) (name : Body meaning cs (gap ++ ':' :: (gap' ++ cs'))) (around : Spaces gap)
      (around' : Spaces gap') (value : Reads (.value v) cs' (right ++ ',' :: next)) (after : Spaces right)
      (others : Reads (.members members) next rest) :
      Reads (.members ((String.ofList meaning, v) :: members)) (left ++ '"' :: cs) rest

/-- A text that is one value, with nothing but space around it. -/
def Document (text : String) (v : Value) : Prop :=
  ∃ before cs after, Spaces before ∧ Spaces after ∧ text.toList = before ++ cs ∧ Reads (.value v) cs after

end Reckoner.Proofs.JsonGrammar
