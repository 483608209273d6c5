import Reckoner.Command
import Reckoner.Proofs.JsonReading
import Reckoner.Proofs.NumberText
import Reckoner.Proofs.Showing

/-! What is printed in JSON is one document, and whoever reads it finds the members that were set and nothing else:
the texts as they were, a finite value as a number that is rounded to the same double, and `null` for any other. -/

namespace Reckoner.Proofs.JsonOutput
open JsonGrammar NumberText Shortest Rounding Magnitude Showing

private theorem control_unit {n : ℕ} (small : n < 0x20) : unit? (Text.numeral 16 4 n) = some n := by
  have all : ∀ n < 0x20, unit? (Text.numeral 16 4 n) = some n := by decide
  exact all n small

theorem escape_body {c : Char} {meaning cs rest : List Char} (others : Body meaning cs rest) :
    Body (c :: meaning) (Json.escape c ++ cs) rest := by
  unfold Json.escape
  split_ifs with marked newline start tab feed back control
  · have known : (c, c) ∈ escapes := by
      rcases (by simpa using marked : c = '"' ∨ c = '\\') with rfl | rfl <;> decide
    exact .escape known others
  · exact newline ▸ .escape (by decide) others
  · exact start ▸ .escape (by decide) others
  · exact tab ▸ .escape (by decide) others
  · exact feed ▸ .escape (by decide) others
  · exact back ▸ .escape (by decide) others
  · have unit := Body.unit (control_unit control) (by omega) others
    rwa [Char.ofNat_toNat] at unit
  · have visible : ' ' ≤ c := not_lt.mp control
    simp only [Bool.or_eq_true, decide_eq_true_eq, not_or] at marked
    exact .plain visible marked.1 marked.2 others

theorem quote_body (meaning rest : List Char) : Body meaning (meaning.flatMap Json.escape ++ '"' :: rest) rest := by
  induction meaning with
  | nil => exact .close
  | cons c meaning ih =>
    rw [List.flatMap_cons, List.append_assoc]
    exact escape_body ih

theorem toList_quote (text : String) (rest : List Char) :
    (Json.quote text).toList ++ rest = '"' :: (text.toList.flatMap Json.escape ++ '"' :: rest) := by
  simp [Json.quote]

/-- What the text of a value says. -/
def meaning : Json → Value
  | .null => .null
  | .bool value => .bool value
  | .number value => .number value.negative (size value.shortest)
  | .text value => .text value

/-- Zero is the only number without a digit but zero. -/
def Plain : Json → Prop
  | .number value => value.shortest.digits = 0 → value.shortest.exponent = 0
  | _ => True

theorem render_reads {json : Json} {rest : List Char} (plain : Plain json) (ends : Ends rest) :
    Reads (.value (meaning json)) (json.render.toList ++ rest) rest := by
  cases json with
  | null => exact .null
  | bool value =>
    cases value with
    | false => exact .false
    | true => exact .true
  | number value =>
    obtain ⟨w, f, ds, p, k, whole, fraction, power, written, amount⟩ := chars_numeral plain
    have reads := Reads.number value.negative whole fraction power ends
    rw [amount] at reads
    have text : (Json.number value).render.toList ++ rest = sign value.negative ++ (w ++ (f ++ (p ++ rest))) := by
      simp [Json.render, Binary.text, sign, written]
    rwa [text]
  | text value =>
    have reads := Reads.text (quote_body value.toList rest)
    rw [String.ofList_toList, ← toList_quote] at reads
    exact reads

/-- What the members of an object say, one by one. -/
inductive Members : List (String × Json) → List (String × Value) → Prop
  | nil : Members [] []
  | cons (plain : Plain json) (others : Members members values) :
      Members ((name, json) :: members) ((name, meaning json) :: values)

theorem Members.append {members members' : List (String × Json)} {values values' : List (String × Value)}
    (first : Members members values) (second : Members members' values') :
    Members (members ++ members') (values ++ values') := by
  induction first with
  | nil => exact second
  | cons plain _ ih => exact .cons plain ih

/-- The members of an object on lines of their own, with the bracket that closes it. -/
def lines (members : List (String × Json)) (rest : List Char) : List Char :=
  '\n' :: ((",\n".intercalate (members.map Json.renderMember)).toList ++ '\n' :: '\x7d' :: rest)

/-- A line begins with its name, a colon and a space, and what follows is its value. -/
private theorem line_text (name : String) (json : Json) (rest : List Char) :
    '\n' :: ((Json.renderMember (name, json)).toList ++ rest) =
      ['\n', ' ', ' '] ++ '"' :: (name.toList.flatMap Json.escape ++ '"' ::
        ([] ++ ':' :: ([' '] ++ (json.render.toList ++ rest)))) := by
  simp [Json.renderMember, Json.quote]

private theorem lines_singleton (member : String × Json) (rest : List Char) :
    lines [member] rest = '\n' :: ((Json.renderMember member).toList ++ (['\n'] ++ '\x7d' :: rest)) := by
  simp [lines]

private theorem lines_cons (member next : String × Json) (others : List (String × Json)) (rest : List Char) :
    lines (member :: next :: others) rest =
      '\n' :: ((Json.renderMember member).toList ++ ([] ++ ',' :: lines (next :: others) rest)) := by
  simp [lines, String.toList_intercalate]

theorem Members.reads {members : List (String × Json)} {values : List (String × Value)} (said : Members members values)
    (some : members ≠ []) (rest : List Char) : Reads (.members values) (lines members rest) rest := by
  have left : Spaces ['\n', ' ', ' '] := by simp [Spaces, isSpace]
  have none : Spaces [] := by simp [Spaces]
  have one : Spaces [' '] := by simp [Spaces, isSpace]
  have last : Spaces ['\n'] := by simp [Spaces, isSpace]
  induction said with
  | nil => contradiction
  | @cons json members values name plain others ih =>
    cases members with
    | nil =>
      cases others
      have value := render_reads plain (show Ends (['\n'] ++ '\x7d' :: rest) by simp [Ends])
      have line := Reads.lastMember left (quote_body name.toList _) none one value last
      rw [String.ofList_toList] at line
      rwa [lines_singleton, line_text]
    | cons next members =>
      have value := render_reads plain (show Ends ([] ++ ',' :: lines (next :: members) rest) by simp [Ends])
      have line := Reads.member left (quote_body name.toList _) none one value none (ih (List.cons_ne_nil _ _))
      rw [String.ofList_toList] at line
      rwa [lines_cons, line_text]

/-- A printed object is read as its members, in their order. -/
theorem Members.document {members : List (String × Json)} {values : List (String × Value)}
    (said : Members members values) : Document (Json.renderObject members ++ "\n") (.object values) := by
  have after : Spaces ['\n'] := by simp [Spaces, isSpace]
  have none : Spaces [] := by simp [Spaces]
  cases members with
  | nil =>
    cases said
    exact ⟨[], _, ['\n'], none, after, rfl, .noMembers none⟩
  | cons first others =>
    refine ⟨[], _, ['\n'], none, after, ?_, .object (said.reads (List.cons_ne_nil _ _) ['\n'])⟩
    simp [Json.renderObject, lines]

/-- The text is a document, and there is nothing else that it could stand for. -/
def Tells (text : String) (members : List (String × Value)) : Prop :=
  ∀ v, Document text v ↔ v = .object members

theorem Members.tells {members : List (String × Json)} {values : List (String × Value)}
    (said : Members members values) : Tells (Json.renderObject members ++ "\n") values := by
  intro v
  constructor
  · exact fun document => document.unique said.document
  · rintro rfl
    exact said.document

/-- What stands for a double: a number with its sign that is rounded to it, or `null` if it is none. -/
inductive Denotes (v : Float) : Value → Prop
  | number {x : ℚ} (finite : v.toBits.toNat % 2 ^ 63 < infinityBits) (rounded : Rounded (v.toBits.toNat % 2 ^ 63) x) :
      Denotes v (.number (decide (2 ^ 63 ≤ v.toBits.toNat)) x)
  | null (beyond : infinityBits ≤ v.toBits.toNat % 2 ^ 63) : Denotes v .null

theorem literal_denotes (v : Float) : Plain (literal v) ∧ Denotes v (meaning (literal v)) := by
  by_cases inside : v.toBits.toNat % 2 ^ 63 < infinityBits
  · obtain ⟨b, finite⟩ := ofBits_finite inside
    have number : literal v = .number b := by simp [literal, Double.ofFloat, finite]
    obtain ⟨decoded, negative⟩ := decoded_ofBits finite
    have shortened := shortest_shortened decoded inside
    rw [number, meaning, negative]
    exact ⟨shortened.plain, .number inside shortened.rounded⟩
  · have none : literal v = .null := by
      unfold literal
      split
      next b finite => exact absurd (finite_inside finite) inside
      next => rfl
    rw [none]
    exact ⟨trivial, .null (not_lt.mp inside)⟩

/-- A member that stands only where there is a text for it. -/
def given (name : String) (text : Option String) : List (String × Value) :=
  text.toList.map fun text => (name, .text text)

private theorem textMember_given (name : String) (text : Option String) :
    Members (Outcome.textMember name text) (given name text) := by
  cases text with
  | none => exact .nil
  | some text => exact .cons trivial .nil

theorem success_tells {settings : Settings} {decimals : Option Int} {v : Float} {shown : String}
    (displayed : Display.value settings decimals v = .ok shown) (error code : Option String) :
    ∃ text, Outcome.print settings .json decimals ⟨true, some v, error, code⟩ = .ok text ∧
      Tells text (("ok", .bool true) :: ("value", meaning (literal v)) :: given "error" error ++ given "code" code ++
        [("result", .text shown)]) := by
  have texts := (textMember_given "error" error).append (textMember_given "code" code)
  have last : Members [("result", .text shown)] [("result", .text shown)] := .cons trivial .nil
  have value : Members (("value", literal v) :: _) _ := .cons (literal_denotes v).1 (texts.append last)
  have said : Members (("ok", .bool true) :: _) _ := .cons trivial value
  exact ⟨_, by rw [Outcome.print, members_success, displayed]; rfl, said.tells⟩

theorem failure_tells (settings : Settings) (decimals : Option Int) (error code : Option String) :
    ∃ text, Outcome.print settings .json decimals ⟨false, none, error, code⟩ = .ok text ∧
      Tells text (("ok", .bool false) :: given "error" error ++ given "code" code) := by
  have texts := (textMember_given "error" error).append (textMember_given "code" code)
  have said : Members (("ok", .bool false) :: _) _ := .cons trivial texts
  exact ⟨_, by rw [Outcome.print, members_failure]; rfl, said.tells⟩

theorem reply_tells (reply : Chat.Reply) :
    Tells (Command.printReply .json reply)
      (("success", .bool reply.success) :: given "message" reply.message ++ given "note" reply.note) := by
  have texts := (textMember_given "message" reply.message).append (textMember_given "note" reply.note)
  have said : Members reply.members _ := .cons trivial texts
  exact said.tells

/-- What is printed for a success, a failure or a reply tells all of its members. The result of a success is what is
printed for people, whenever that can be printed at all. -/
theorem printed_json (settings : Settings) :
    (∀ (decimals : Option Int) (v : Float) (error code : Option String), Fits (decimals.getD settings.places) →
      ∃ text shown number,
      Outcome.print settings .json decimals ⟨true, some v, error, code⟩ = .ok text ∧
      Outcome.print settings .human decimals ⟨true, some v, error, code⟩ = .ok (shown ++ "\n") ∧
      Denotes v number ∧
      Tells text (("ok", .bool true) :: ("value", number) :: given "error" error ++ given "code" code ++
        [("result", .text shown)])) ∧
    (∀ (decimals : Option Int) (error code : Option String), ∃ text,
      Outcome.print settings .json decimals ⟨false, none, error, code⟩ = .ok text ∧
      Tells text (("ok", .bool false) :: given "error" error ++ given "code" code)) ∧
    ∀ reply : Chat.Reply, Tells (Command.printReply .json reply)
      (("success", .bool reply.success) :: given "message" reply.message ++ given "note" reply.note) := by
  refine ⟨fun decimals v error code fits => ?_, failure_tells settings, reply_tells⟩
  obtain ⟨shown, displayed⟩ : ∃ shown, Display.value settings decimals v = .ok shown := value_ok_iff.mpr fun _ => fits
  obtain ⟨text, printed, tells⟩ := success_tells displayed error code
  have human : Outcome.print settings .human decimals ⟨true, some v, error, code⟩ = .ok (shown ++ "\n") := by
    simp [Outcome.print, Outcome.human, displayed, Except.map]
  exact ⟨text, shown, _, printed, human, (literal_denotes v).2, tells⟩

theorem printed_json_third :
    Fits ((some 2).getD ({} : Settings).places) ∧
      Outcome.print {} .json (some 2) ⟨true, some (Float.ofBits 0x3FD5555555555555), none, none⟩ =
        .ok "\x7b\n  \"ok\": true,\n  \"value\": 0.3333333333333333,\n  \"result\": \"0.33\"\n\x7d\n" ∧
      ∃ number, Denotes (Float.ofBits 0x3FD5555555555555) number ∧
        Tells "\x7b\n  \"ok\": true,\n  \"value\": 0.3333333333333333,\n  \"result\": \"0.33\"\n\x7d\n"
          [("ok", .bool true), ("value", number), ("result", .text "0.33")] := by
  have fits : Fits ((some 2).getD ({} : Settings).places) := ⟨by decide, by decide⟩
  have json : Outcome.print {} .json (some 2) ⟨true, some (Float.ofBits 0x3FD5555555555555), none, none⟩ =
      .ok "\x7b\n  \"ok\": true,\n  \"value\": 0.3333333333333333,\n  \"result\": \"0.33\"\n\x7d\n" := by
    decide +kernel
  have human : Outcome.print {} .human (some 2) ⟨true, some (Float.ofBits 0x3FD5555555555555), none, none⟩ =
      .ok ("0.33" ++ "\n") := by
    decide +kernel
  obtain ⟨text, shown, number, printed, line, denotes, tells⟩ := (printed_json {}).1 (some 2) _ none none fits
  obtain rfl := Except.ok.inj (printed.symm.trans json)
  obtain rfl := (String.append_left_inj _).mp (Except.ok.inj (line.symm.trans human))
  exact ⟨fits, json, number, denotes, tells⟩

end Reckoner.Proofs.JsonOutput
