import Mathlib.Data.List.Basic
import Reckoner.Log.Stamp
import Reckoner.Proofs.Codes
import Reckoner.Proofs.Compact
import Reckoner.Proofs.Recovery

/-! Texts that do not break the line they are written in. What was typed is quoted where it is a field, and a message
has of it one character at most, which comes from a text without blanks. -/

namespace Reckoner.Proofs.Breaks
open Text Log Quotation Recovery NumberText

/-- The code points at which lines are broken. -/
def breaks : List ℕ :=
  [0xA, 0xB, 0xC, 0xD, 0x1C, 0x1D, 0x1E, 0x85, 0x2028, 0x2029]

def isBreak (c : Char) : Bool :=
  breaks.contains c.toNat

def Unbroken (cs : List Char) : Prop :=
  ∀ c ∈ cs, isBreak c = false

section
variable {cs ds : List Char} {c : Char}

theorem isBreak_blank (broken : isBreak c = true) : isBlank c = true := by
  have all : ∀ n ∈ breaks, blanks.contains n = true := by decide
  exact all _ (List.contains_iff_mem.mp broken)

theorem isBreak_printable (printable : isPrintable c = true) : isBreak c = false := by
  have all : ∀ n ∈ breaks, printables.contains n = false := by decide +kernel
  apply Bool.eq_false_iff.mpr
  intro broken
  have absent := all _ (List.contains_iff_mem.mp broken)
  exact Bool.false_ne_true (absent.symm.trans printable)

namespace Unbroken

theorem nil : Unbroken [] :=
  fun _ => nofun

theorem cons (first : isBreak c = false) (rest : Unbroken cs) : Unbroken (c :: cs) :=
  List.forall_mem_cons.mpr ⟨first, rest⟩

theorem append (first : Unbroken cs) (second : Unbroken ds) : Unbroken (cs ++ ds) :=
  List.forall_mem_append.mpr ⟨first, second⟩

theorem flatMap {α : Type} {items : List α} {f : α → List Char} (each : ∀ item ∈ items, Unbroken (f item)) :
    Unbroken (items.flatMap f) := by
  intro c member
  obtain ⟨item, inside, found⟩ := List.mem_flatMap.mp member
  exact each item inside c found

theorem of_all (all : cs.all (!isBreak ·)) : Unbroken cs :=
  fun c member => by simpa using List.all_eq_true.mp all c member

theorem literal (all : cs.all (!isBreak ·)) : Unbroken (String.ofList cs).toList := by
  rw [String.toList_ofList]
  exact .of_all all

theorem numeric (inside : cs ⊆ NumberText.numeric) : Unbroken cs := by
  have all : Unbroken NumberText.numeric := .of_all rfl
  exact fun c member => all c (inside member)

theorem text {first second : String} (unbroken : Unbroken first.toList) (unbroken' : Unbroken second.toList) :
    Unbroken (first ++ second).toList := by
  rw [String.toList_append]
  exact unbroken.append unbroken'

theorem entry {front value : String} {name : List Char} (unbroken : Unbroken front.toList)
    (plain : name.all (!isBreak ·)) (unbroken' : Unbroken value.toList) :
    Unbroken (front ++ String.ofList name ++ value).toList :=
  (unbroken.text (.literal plain)).text unbroken'

end Unbroken

end

theorem unbroken_numeral {base : ℕ} (few : base ≤ 16) (some : 0 < base) (width n : ℕ) :
    Unbroken (numeral base width n) := by
  have all : ∀ d < 16, isBreak (Nat.digitChar d) = false := by decide
  induction width generalizing n with
  | zero => exact .nil
  | succ width ih =>
    exact (ih _).append (.cons (all _ ((Nat.mod_lt _ some).trans_le few)) .nil)

theorem isBreak_mark {mark : Char} (isMark : IsMark mark) : isBreak mark = false := by
  rcases isMark with rfl | rfl <;> rfl

theorem unbroken_escape {mark : Char} (isMark : IsMark mark) (c : Char) : Unbroken (escape mark c) := by
  have back : isBreak '\\' = false := rfl
  have letter {letter : Char} {rest : List Char} (plain : isBreak letter = false) (unbroken : Unbroken rest) :
      Unbroken ('\\' :: letter :: rest) := .cons back (.cons plain unbroken)
  have number (width : ℕ) : Unbroken (numeral 16 width c.toNat) := unbroken_numeral (by decide) (by decide) width _
  unfold escape
  split_ifs with special newline start tab printable byte short
  · have same : c = mark ∨ c = '\\' := by simpa using special
    rcases same with rfl | rfl
    · exact letter (isBreak_mark isMark) .nil
    · exact letter back .nil
  · exact letter rfl .nil
  · exact letter rfl .nil
  · exact letter rfl .nil
  · exact .cons (isBreak_printable printable) .nil
  · exact letter rfl (number 2)
  · exact letter rfl (number 4)
  · exact letter rfl (number 8)

theorem unbroken_quote (text : String) : Unbroken (quote text).toList := by
  have isMark := isMark_quoteMark text.toList
  have last : Unbroken [quoteMark text.toList] := .cons (isBreak_mark isMark) .nil
  rw [quote, String.toList_ofList, quoteChars]
  exact .cons (isBreak_mark isMark) (.append (.flatMap fun c _ => unbroken_escape isMark c) last)

theorem unbroken_int (n : ℤ) : Unbroken (toString n).toList :=
  .numeric (int_numeric n)

theorem unbroken_floatText (value : Float) : Unbroken (floatText value).toList := by
  unfold floatText Double.text
  split
  · exact .literal rfl
  · exact .literal rfl
  · exact .literal rfl
  · exact .numeric (text_numeric _)

theorem unbroken_render (date : Date) (second microsecond : ℕ) :
    Unbroken (Log.render date second microsecond).toList := by
  have digits (width n : ℕ) : Unbroken (numeral 10 width n) := unbroken_numeral (by decide) (by decide) width n
  have dash : isBreak '-' = false := rfl
  have middle : isBreak 'T' = false := rfl
  have colon : isBreak ':' = false := rfl
  have fraction : Unbroken (if microsecond = 0 then [] else '.' :: numeral 10 6 microsecond) := by
    split
    · exact .nil
    · exact .cons rfl (digits _ _)
  have clock := (digits 2 (second / 60 % 60)).append (.cons colon ((digits 2 (second % 60)).append fraction))
  have day := (digits 2 date.day).append (.cons middle ((digits 2 (second / 3600)).append (.cons colon clock)))
  have month := (digits 2 date.month).append (.cons dash day)
  have whole := (digits 4 date.year.toNat).append (.cons dash month)
  rw [Log.render, String.toList_ofList]
  simpa using whole

theorem unbroken_stamp {seconds : Float} {stamp : String} (timed : Log.stamp seconds = .ok stamp) :
    Unbroken stamp.toList := by
  unfold Log.stamp at timed
  split at timed
  · cases timed
  · cases timed
  · unfold stampOf at timed
    dsimp only at timed
    split at timed
    · cases timed
    · obtain ⟨_, _, checked⟩ := Postfix.bind_ok timed
      obtain ⟨_, _, returned⟩ := Postfix.bind_ok checked
      cases returned
      exact unbroken_render _ _ _

theorem unbroken_field (value : Field) : Unbroken value.render.toList := by
  cases value with
  | text value => exact unbroken_quote value
  | whole value => exact unbroken_int value

theorem unbroken_context (context : Context) : Unbroken context.render.toList := by
  have names : ∀ name ∈ ["code", "expression", "tokens", "prefix"], (label name).all (!isBreak ·) :=
    List.all_eq_true.mp rfl
  rw [shown_fields]
  refine .flatMap fun (name, field) member => ?_
  have known : name ∈ ["code", "expression", "tokens", "prefix"] :=
    List.mem_map_of_mem (f := Prod.fst) member
  cases field with
  | none => exact .nil
  | some value => exact (Unbroken.of_all (names name known)).append (unbroken_field value)

theorem unbroken_levelName (level : ℤ) : Unbroken (levelName level).toList := by
  unfold levelName
  split_ifs
  iterate 6 exact .literal rfl
  exact .text (.literal rfl) (unbroken_int level)

/-- An event whose own words do not break its line. Its context never does. -/
structure Clean (event : Event) : Prop where
  logger : Unbroken event.logger.toList
  message : Unbroken event.message.toList

theorem Clean.line {event : Event} (clean : Clean event) {stamp : String} (unbroken : Unbroken stamp.toList) :
    Unbroken (event.line stamp none).toList := by
  have left : Unbroken " [".toList := .literal rfl
  have right : Unbroken "] ".toList := .literal rfl
  have colon : Unbroken ": ".toList := .literal rfl
  have front := (unbroken.text left).text (unbroken_levelName event.level)
  rw [Event.line, String.append_empty]
  exact ((((front.text right).text clean.logger).text colon).text clean.message).text (unbroken_context event.context)

theorem unbroken_symbol (symbol : Symbol) : Unbroken symbol.text.toList := by
  cases symbol with
  | operator op => cases op <;> exact .literal rfl
  | function f => cases f <;> exact .literal rfl

section
variable {settings : Settings} {failure : Failure}

/-- The character that is reported is one of the text without blanks. -/
theorem offence_unbroken {source : String} {fault : Fault} (offence : Refusal.Offence settings source fault) :
    Unbroken fault.message.toList := by
  cases offence with
  | blank => exact .literal rfl
  | long => exact ((Unbroken.literal rfl).text (unbroken_int settings.maxLength)).text (.literal rfl)
  | unequal => exact .literal rfl
  | stuck _ _ _ _ farthest stuck =>
    cases stuck with
    | points => exact .literal rfl
    | trailing => exact .literal rfl
    | @character c rest _ =>
      have inside : c ∈ Formula.compact source := by
        rw [← farthest.whole]
        exact List.mem_append_right _ List.mem_cons_self
      have solid := (Compact.settled_compact source c inside).solid
      have whole : isBreak c = false := by
        apply Bool.eq_false_iff.mpr
        intro broken
        exact Bool.false_ne_true (solid.symm.trans (isBreak_blank broken))
      refine .text (.literal rfl) ?_
      rw [Char.toString_eq_singleton, String.toList_singleton]
      exact .cons whole .nil

theorem tokens_unbroken {source : Option String} (failed : Formula.tokens settings source = .error failure) :
    Unbroken failure.message.toList := by
  cases source with
  | none =>
    cases failed
    exact .literal rfl
  | some source => exact offence_unbroken (Refusal.tokens_offence failed)

theorem evaluation_unbroken (evaluation : Codes.Evaluation failure) : Unbroken failure.message.toList := by
  have code := evaluation.code
  cases failure with
  | tooLong | invalidCharacter => simp [Failure.code, Codes.undefined] at code
  | missingOperand symbol => exact ((Unbroken.literal rfl).text (unbroken_symbol symbol)).text (.literal rfl)
  | missingArgument f => exact ((Unbroken.literal rfl).text (unbroken_symbol (.function f))).text (.literal rfl)
  | unknownOperator f => exact absurd rfl (evaluation.known f)
  | _ => exact .literal rfl

theorem value_unbroken {source : Option String} (failed : Formula.value settings source = .error failure) :
    Unbroken failure.message.toList := by
  unfold Formula.value at failed
  split at failed
  next read =>
    cases failed
    exact tokens_unbroken read
  next => exact evaluation_unbroken (Codes.reduce_error failed)

end

end Reckoner.Proofs.Breaks
