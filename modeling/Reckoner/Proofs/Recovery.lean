import Mathlib.Data.List.TakeWhile
import Reckoner.Log.Event
import Reckoner.Proofs.NumberText
import Reckoner.Proofs.Quotation

/-! The fields of a line are read back from the text behind its message. A field that is absent leaves no trace, and
the next one begins with a name: no name has the sign `=`, so that a label is never the beginning of another one, and
a field ends where a reader of its value stops, whatever the value holds. -/

namespace Reckoner.Proofs.Recovery
open Text Log Quotation NumberText

def readDigits (cs : List Char) : ℕ × List Char :=
  (Nat.ofDigitChars 10 (cs.takeWhile Char.isDigit) 0, cs.dropWhile Char.isDigit)

/-- A value by its first character, and what follows it. -/
def readField : List Char → Option (Field × List Char)
  | [] => none
  | c :: rest =>
    if c = '\'' ∨ c = '"' then (readText c rest).map fun (cs, rest) => (.text (String.ofList cs), rest)
    else if c = '-' then some (.whole (-(readDigits rest).1), (readDigits rest).2)
    else some (.whole (readDigits (c :: rest)).1, (readDigits (c :: rest)).2)

def label (name : String) : List Char :=
  ' ' :: (name.toList ++ ['='])

/-- The values of the names, in their order. Nothing may be left over. -/
def readFields : List String → List Char → Option (List (Option Field))
  | [], cs => if cs.isEmpty then some [] else none
  | name :: names, cs =>
    if label name <+: cs then
      match readField (cs.drop (label name).length) with
      | some (value, rest) => (readFields names rest).map (some value :: ·)
      | none => none
    else (readFields names cs).map (none :: ·)

def recover (text : String) : Option Context :=
  match readFields ((Context.fields {}).map Prod.fst) text.toList with
  | some [code, expression, tokens, trigger] => some ⟨code, expression, tokens, trigger⟩
  | _ => none

/-- The characters that end a run of digits, and the end of the text. -/
def Stops (rest : List Char) : Prop :=
  ∀ c ∈ rest.head?, c.isDigit = false

theorem Stops.takeWhile {rest : List Char} (stops : Stops rest) : rest.takeWhile Char.isDigit = [] := by
  cases rest with
  | nil => rfl
  | cons c rest => simp [stops c rfl]

theorem Stops.dropWhile {rest : List Char} (stops : Stops rest) : rest.dropWhile Char.isDigit = rest := by
  cases rest with
  | nil => rfl
  | cons c rest => simp [stops c rfl]

theorem readDigits_toDigits (n : ℕ) {rest : List Char} (stops : Stops rest) :
    readDigits (Nat.toDigits 10 n ++ rest) = (n, rest) := by
  have run : (Nat.toDigits 10 n ++ rest).takeWhile Char.isDigit = Nat.toDigits 10 n := by
    rw [List.takeWhile_append_of_pos (toDigits_all n), stops.takeWhile, List.append_nil]
  have after : (Nat.toDigits 10 n ++ rest).dropWhile Char.isDigit = rest := by
    rw [List.dropWhile_append_of_pos (toDigits_all n), stops.dropWhile]
  rw [readDigits, run, after, Nat.ofDigitChars_ten_toDigits]

theorem readField_digits (n : ℕ) {rest : List Char} (stops : Stops rest) :
    readField (Nat.toDigits 10 n ++ rest) = some (.whole n, rest) := by
  have read := readDigits_toDigits n stops
  cases digits : Nat.toDigits 10 n with
  | nil => exact absurd digits Nat.toDigits_ne_nil
  | cons c cs =>
    have digit : c.isDigit := toDigits_all n c (digits ▸ List.mem_cons_self)
    have notMark : ¬(c = '\'' ∨ c = '"') := by
      rintro (rfl | rfl) <;> cases digit
    have notSign : c ≠ '-' := by
      rintro rfl
      cases digit
    rw [digits] at read
    rw [List.cons_append] at read ⊢
    rw [readField, if_neg notMark, if_neg notSign, read]

theorem readField_render (value : Field) {rest : List Char} (stops : Stops rest) :
    readField (value.render.toList ++ rest) = some (value, rest) := by
  cases value with
  | text value =>
    have mark : quoteMark value.toList = '\'' ∨ quoteMark value.toList = '"' := isMark_quoteMark _
    rw [Field.render, quote, String.toList_ofList, quoteChars, List.cons_append, List.append_assoc, List.singleton_append,
      readField, if_pos mark, readText_escape mark, Option.map_some]
    dsimp only
    rw [String.ofList_toList]
  | whole value =>
    rw [Field.render, Int.toString_eq_repr, Int.repr_eq_if, Nat.repr_eq_ofList_toDigits, Nat.repr_eq_ofList_toDigits]
    split
    next whole =>
      rw [String.toList_ofList, readField_digits _ stops, Int.toNat_of_nonneg whole]
    next negative =>
      have signed := readDigits_toDigits (-value).toNat stops
      have back : -((-value).toNat : ℤ) = value := by omega
      rw [String.toList_append, String.toList_ofList, String.toList_ofList, List.append_assoc, List.singleton_append,
        readField, if_neg (by decide), if_pos rfl, signed, back]

theorem label_unique {name other : String} (plain : '=' ∉ name.toList) (plain' : '=' ∉ other.toList) {cs : List Char}
    (first : label name <+: cs) (second : label other <+: cs) : name = other := by
  have before {name : String} (plain : '=' ∉ name.toList) (begins : label name <+: cs) :
      cs.tail.takeWhile (· ≠ '=') = name.toList := by
    obtain ⟨rest, rfl⟩ := begins
    rw [label, List.cons_append, List.tail_cons, List.append_assoc, List.takeWhile_append_of_pos]
    · simp
    · intro c member
      simpa using ne_of_mem_of_not_mem member plain
  exact String.toList_injective ((before plain first).symm.trans (before plain' second))

/-- The fields of a context as characters. -/
def shown (fields : List (String × Option Field)) : List Char :=
  fields.flatMap fun (name, field) => field.elim [] fun value => label name ++ value.render.toList

theorem shown_fields (context : Context) : context.render.toList = shown context.fields := by
  unfold Context.render Context.parts
  induction context.fields with
  | nil => rfl
  | cons entry fields ih =>
    obtain ⟨name, _ | value⟩ := entry
    · exact ih
    · simp only [List.filterMap_cons, Option.map_some, List.foldr_cons, String.toList_append, ih, shown, label,
        List.flatMap_cons, Option.elim_some]
      simp

theorem stops_shown (fields : List (String × Option Field)) : Stops (shown fields) := by
  induction fields with
  | nil => rintro c ⟨⟩
  | cons entry fields ih =>
    obtain ⟨name, _ | value⟩ := entry
    · exact ih
    · rintro c ⟨⟩
      rfl

theorem not_label_shown {name : String} (plain : '=' ∉ name.toList) (fields : List (String × Option Field))
    (others : ∀ other ∈ fields.map Prod.fst, '=' ∉ other.toList ∧ name ≠ other) : ¬label name <+: shown fields := by
  induction fields with
  | nil => simp [shown, label]
  | cons entry fields ih =>
    rw [List.map_cons, List.forall_mem_cons] at others
    obtain ⟨other, _ | value⟩ := entry
    · exact ih others.2
    · intro begins
      have second : label other <+: shown ((other, some value) :: fields) :=
        ⟨value.render.toList ++ shown fields, (List.append_assoc ..).symm⟩
      exact others.1.2 (label_unique plain others.1.1 begins second)

theorem readFields_shown (fields : List (String × Option Field)) (distinct : (fields.map Prod.fst).Nodup)
    (plain : ∀ name ∈ fields.map Prod.fst, '=' ∉ name.toList) :
    readFields (fields.map Prod.fst) (shown fields) = some (fields.map Prod.snd) := by
  induction fields with
  | nil => rfl
  | cons entry fields ih =>
    obtain ⟨name, field⟩ := entry
    obtain ⟨fresh, distinctRest⟩ := List.nodup_cons.mp distinct
    obtain ⟨plainName, plainRest⟩ := List.forall_mem_cons.mp plain
    have read := ih distinctRest plainRest
    rw [List.map_cons, List.map_cons]
    dsimp only at fresh plainName ⊢
    obtain _ | value := field
    · -- Another label may begin the text, but not this one.
      have absent : ¬label name <+: shown fields :=
        not_label_shown plainName fields fun other member =>
          ⟨plainRest other member, fun same => fresh (same ▸ member)⟩
      have same : shown ((name, none) :: fields) = shown fields := rfl
      rw [same, readFields, if_neg absent, read, Option.map_some]
    · have shape : shown ((name, some value) :: fields) = label name ++ (value.render.toList ++ shown fields) :=
        List.append_assoc ..
      rw [shape, readFields, if_pos (List.prefix_append ..), List.drop_left,
        readField_render value (stops_shown fields)]
      dsimp only
      rw [read, Option.map_some]

theorem recover_render (context : Context) : recover context.render = some context := by
  have distinct : (context.fields.map Prod.fst).Nodup := by
    show ["code", "expression", "tokens", "prefix"].Nodup
    decide
  have plain : ∀ name ∈ context.fields.map Prod.fst, '=' ∉ name.toList := by
    show ∀ name ∈ ["code", "expression", "tokens", "prefix"], '=' ∉ name.toList
    decide
  have read := readFields_shown context.fields distinct plain
  rw [← shown_fields] at read
  have names : (Context.fields {}).map Prod.fst = context.fields.map Prod.fst := rfl
  rw [recover, names, read]
  rfl

/-- The text behind the message gives back the fields, so that lines which agree up to there are equal only for equal
fields. -/
theorem context_recovered (event : Event) (stamp : String) :
    (∃ tail, event.line stamp none =
        stamp ++ " [" ++ levelName event.level ++ "] " ++ event.logger ++ ": " ++ event.message ++ tail ∧
      recover tail = some event.context) ∧
    ∀ context, { event with context }.line stamp none = event.line stamp none ↔ context = event.context := by
  refine ⟨⟨event.context.render, String.append_empty, recover_render event.context⟩, fun context => ⟨fun same => ?_, ?_⟩⟩
  · simp only [Event.line, String.append_empty, String.append_right_inj] at same
    have first := recover_render context
    rw [same, recover_render] at first
    exact (Option.some.inj first).symm
  · rintro rfl
    rfl

end Reckoner.Proofs.Recovery
