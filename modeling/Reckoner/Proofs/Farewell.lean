import Reckoner.Proofs.FrontEnds
import Reckoner.Proofs.NumberText
import Reckoner.Session

/-! No answer says farewell. The two letters that the farewell begins with stand side by side in no answer, whatever
was typed, and so a session that ends with its farewell has said it once. -/

namespace Reckoner.Proofs.Farewell
open Showing NumberText

/-- The first two letters of the farewell do not meet. -/
def Apart (cs : List Char) : Prop :=
  cs.IsChain fun c d => c = 'G' → d ≠ 'o'

instance (cs : List Char) : Decidable (Apart cs) :=
  inferInstanceAs (Decidable (cs.IsChain _))

/-- They do not meet where the text is continued either. -/
structure Quiet (cs : List Char) : Prop where
  apart : Apart cs
  last : cs.getLast? ≠ some 'G'

theorem apart_append {cs ds : List Char} (first : Apart cs) (second : Apart ds)
    (between : cs.getLast? = some 'G' → ds.head? ≠ some 'o') : Apart (cs ++ ds) := by
  refine List.isChain_append.mpr ⟨first, second, ?_⟩
  rintro c last d head rfl rfl
  exact between last head

namespace Quiet
variable {cs ds : List Char}

theorem append (first : Quiet cs) (second : Quiet ds) : Quiet (cs ++ ds) := by
  refine ⟨apart_append first.apart second.apart fun last => absurd last first.last, ?_⟩
  rw [List.getLast?_append]
  rcases last : ds.getLast? with _ | d
  · exact first.last
  · exact fun same => second.last (last.trans same)

/-- A character of its own closes a text. -/
theorem closed (apart : Apart cs) {c : Char} (quiet : c ≠ 'G') (other : c ≠ 'o') : Quiet (cs ++ [c]) := by
  refine ⟨apart_append apart (.singleton c) fun _ => ?_, ?_⟩
  · simpa using other
  · simpa using quiet

theorem of_plain (plain : 'G' ∉ cs) : Quiet cs := by
  constructor
  · refine List.Pairwise.isChain (List.pairwise_of_forall_mem_list ?_)
    rintro c member d _ rfl
    exact absurd member plain
  · exact fun last => plain (List.mem_of_getLast? last)

theorem flatMap {α : Type} {items : List α} {f : α → List Char} (quiet : ∀ item ∈ items, Quiet (f item)) :
    Quiet (items.flatMap f) := by
  induction items with
  | nil => exact of_plain List.not_mem_nil
  | cons item items ih =>
    rw [List.forall_mem_cons] at quiet
    exact quiet.1.append (ih quiet.2)

end Quiet

/-- A text that is known is looked at as a list of characters, which takes no decoding. -/
theorem plain_literal {cs : List Char} (plain : cs.all (· ≠ 'G')) : 'G' ∉ (String.ofList cs).toList := by
  rw [String.toList_ofList]
  intro member
  simpa using List.all_eq_true.mp plain _ member

theorem plain_append {first second : String} (plain : 'G' ∉ first.toList) (plain' : 'G' ∉ second.toList) :
    'G' ∉ (first ++ second).toList := by
  rw [String.toList_append, List.mem_append, not_or]
  exact ⟨plain, plain'⟩

private theorem apart_literal {cs : List Char} (apart : Apart cs) : Apart (String.ofList cs).toList := by
  rwa [String.toList_ofList]

/-- A text that is quiet before its farewell says it there only. -/
theorem farewell_once {front before after : List Char} (quiet : Quiet front)
    (same : front ++ Session.farewell.toList = before ++ Session.farewell.toList ++ after) : after = [] := by
  by_contra more
  have size := congrArg List.length same
  simp only [List.length_append] at size
  have some : 0 < after.length := List.length_pos_iff.mpr more
  obtain ⟨tail, word⟩ : ∃ tail, Session.farewell.toList = 'G' :: 'o' :: tail := ⟨_, rfl⟩
  -- Both letters would lie before the end of the farewell's first letter.
  have long : front ++ ['G'] <+: front ++ Session.farewell.toList := by
    rw [word]
    exact List.prefix_append_right_inj front |>.mpr ⟨'o' :: tail, rfl⟩
  have early : before ++ ['G', 'o'] <+: front ++ Session.farewell.toList := by
    rw [same, word, List.append_assoc]
    exact List.prefix_append_right_inj before |>.mpr ⟨tail ++ after, rfl⟩
  have inside : before ++ ['G', 'o'] <+: front ++ ['G'] := by
    refine List.prefix_of_prefix_length_le early long ?_
    simp only [List.length_append, List.length_cons, List.length_nil]
    omega
  have apart : Apart (front ++ ['G']) :=
    apart_append quiet.apart (.singleton 'G') fun last => absurd last quiet.last
  obtain ⟨rest, whole⟩ := inside
  rw [← whole, List.append_assoc] at apart
  have meet := (List.isChain_append.mp apart).2.1
  simp at meet

private theorem numeric_plain {cs : List Char} (inside : cs ⊆ numeric) : 'G' ∉ cs :=
  fun member => absurd (inside member) (by decide)

private theorem fixedChars_plain (b : Binary) (places : ℕ) : 'G' ∉ b.fixedChars places := by
  have digits (ds : List (Fin 10)) : 'G' ∉ ds.map Expression.digit := by
    have each : ∀ d : Fin 10, Expression.digit d ≠ 'G' := by decide
    intro member
    obtain ⟨d, _, same⟩ := List.mem_map.mp member
    exact each d same
  obtain ⟨literal, _, chars⟩ := Places.fixedChars_literal b places
  rw [chars, Expression.Literal.chars]
  split_ifs <;> simp [digits, Scan.point]

theorem value_plain {settings : Settings} {decimals : Option Int} {v : Float} {text : String}
    (shown : Display.value settings decimals v = .ok text) : 'G' ∉ text.toList := by
  unfold Display.value at shown
  split at shown
  next =>
    obtain rfl := Except.ok.inj shown
    exact plain_literal rfl
  next negative _ =>
    obtain rfl := Except.ok.inj shown
    cases negative with
    | true => exact plain_append (plain_literal rfl) (plain_literal rfl)
    | false => exact plain_literal rfl
  next b _ =>
    unfold Display.number at shown
    split at shown
    next =>
      obtain rfl := Except.ok.inj shown
      exact numeric_plain (text_numeric b)
    next =>
      split at shown
      next =>
        obtain rfl := Except.ok.inj shown
        simpa using fixedChars_plain b 0
      next =>
        split at shown
        next count _ =>
          obtain rfl := Except.ok.inj shown
          simpa using fixedChars_plain b _
        next => cases shown

private theorem name_plain (f : Func) : 'G' ∉ f.name.toList := by
  cases f <;> exact plain_literal rfl

private theorem symbol_plain (symbol : Symbol) : 'G' ∉ symbol.text.toList := by
  cases symbol with
  | operator op => cases op <;> exact plain_literal rfl
  | function f => exact name_plain f

private theorem memberName_apart (f : Func) : Apart (Failure.memberName f).toList := by
  cases f <;> exact apart_literal (by decide)

private theorem framed_apart {front inner back : String} (first : 'G' ∉ front.toList) (middle : 'G' ∉ inner.toList)
    (last : 'G' ∉ back.toList) : Apart (front ++ inner ++ back).toList :=
  (Quiet.of_plain (plain_append (plain_append first middle) last)).apart

private theorem ended_apart {front back : String} (first : 'G' ∉ front.toList) (last : Apart back.toList) :
    Apart (front ++ back).toList := by
  have quiet := Quiet.of_plain first
  rw [String.toList_append]
  exact apart_append quiet.apart last fun same => absurd same quiet.last

private theorem message_apart (failure : Failure) : Apart failure.message.toList := by
  cases failure with
  | tooLong limit => exact framed_apart (plain_literal rfl) (numeric_plain (int_numeric limit)) (plain_literal rfl)
  | missingOperand symbol => exact framed_apart (plain_literal rfl) (symbol_plain symbol) (plain_literal rfl)
  | missingArgument f => exact framed_apart (plain_literal rfl) (name_plain f) (plain_literal rfl)
  | invalidCharacter c =>
    -- The character may be the first of the letters, but it is the last of the message.
    have last : Apart (String.singleton c).toList := by
      rw [String.toList_singleton]
      exact .singleton c
    exact ended_apart (plain_literal rfl) last
  | unknownOperator f => exact ended_apart (plain_literal rfl) (memberName_apart f)
  | _ => exact (Quiet.of_plain (plain_literal rfl)).apart

private theorem code_apart (failure : Failure) : Apart failure.code.toList := by
  cases failure <;> exact apart_literal (by decide)

/-- What is escaped keeps its place, and no escape is one of the two letters. -/
private theorem escape_ends (c : Char) :
    Apart (Json.escape c) ∧ Json.escape c ≠ [] ∧ ((Json.escape c).getLast? = some 'G' → c = 'G') ∧
      ((Json.escape c).head? = some 'o' → c = 'o') := by
  unfold Json.escape Apart
  split_ifs with marked newline start tab feed back control
  · rcases (by simpa using marked : c = '"' ∨ c = '\\') with rfl | rfl <;> decide
  · exact ⟨by decide, by simp⟩
  · exact ⟨by decide, by simp⟩
  · exact ⟨by decide, by simp⟩
  · exact ⟨by decide, by simp⟩
  · exact ⟨by decide, by simp⟩
  · have all : ∀ n < 0x20, ('\\' :: 'u' :: Text.numeral 16 4 n).IsChain (fun c d => c = 'G' → d ≠ 'o') ∧
        ('\\' :: 'u' :: Text.numeral 16 4 n).getLast? ≠ some 'G' := by decide
    obtain ⟨apart, last⟩ := all _ control
    exact ⟨apart, List.cons_ne_nil _ _, fun same => absurd same last, by simp⟩
  · exact ⟨.singleton c, by simp⟩

private theorem escaped_apart {cs : List Char} (apart : Apart cs) : Apart (cs.flatMap Json.escape) := by
  have some : [] ∉ cs.map Json.escape := by
    intro member
    obtain ⟨c, _, empty⟩ := List.mem_map.mp member
    exact (escape_ends c).2.1 empty
  unfold Apart
  rw [List.flatMap_def, List.isChain_flatten some, List.isChain_map]
  constructor
  · intro escaped member
    obtain ⟨c, _, rfl⟩ := List.mem_map.mp member
    exact (escape_ends c).1
  · refine List.IsChain.imp ?_ apart
    rintro c d other _ last _ head rfl rfl
    exact other ((escape_ends c).2.2.1 last) ((escape_ends d).2.2.2 head)

private theorem quote_quiet {text : String} (apart : Apart text.toList) : Quiet (Json.quote text).toList := by
  have inside : Apart (['"'] ++ text.toList.flatMap Json.escape) :=
    apart_append (.singleton _) (escaped_apart apart) (by simp)
  have whole := Quiet.closed inside (by decide : '"' ≠ 'G') (by decide)
  rw [Json.quote, String.toList_ofList]
  exact whole

/-- A member of an object that does not say farewell. -/
structure Silent (name : String) (json : Json) : Prop where
  name : Apart name.toList
  value : Quiet json.render.toList

private theorem member_quiet {member : String × Json} (silent : Silent member.1 member.2) :
    Quiet (Json.renderMember member).toList := by
  have left : Quiet "  ".toList := .of_plain (plain_literal rfl)
  have colon : Quiet ": ".toList := .of_plain (plain_literal rfl)
  rw [Json.renderMember, String.toList_append, String.toList_append, String.toList_append]
  exact ((left.append (quote_quiet silent.name)).append colon).append silent.value

private theorem lines_quiet {lines : List String} (quiet : ∀ line ∈ lines, Quiet line.toList) :
    Quiet (",\n".intercalate lines).toList := by
  have comma : Quiet ",\n".toList := .of_plain (plain_literal rfl)
  rw [String.toList_intercalate]
  induction lines with
  | nil => exact .of_plain List.not_mem_nil
  | cons line lines ih =>
    rw [List.forall_mem_cons] at quiet
    cases lines with
    | nil => simpa using quiet.1
    | cons next others =>
      rw [List.map_cons, List.map_cons, List.intercalate_cons_cons]
      exact (quiet.1.append comma).append (ih quiet.2)

theorem object_quiet {members : List (String × Json)}
    (silent : ∀ member ∈ members, Silent member.1 member.2) :
    Quiet (Json.renderObject members ++ "\n").toList := by
  have start : Quiet "\x7b\n".toList := .of_plain (plain_literal rfl)
  have stop : Quiet "\n\x7d".toList := .of_plain (plain_literal rfl)
  have feed : Quiet "\n".toList := .of_plain (plain_literal rfl)
  have lines : Quiet (",\n".intercalate (members.map Json.renderMember)).toList := by
    refine lines_quiet fun line member => ?_
    obtain ⟨_, inside, rfl⟩ := List.mem_map.mp member
    exact member_quiet (silent _ inside)
  rw [String.toList_append]
  unfold Json.renderObject
  split
  next =>
    have none : Quiet "\x7b\x7d".toList := .of_plain (plain_literal rfl)
    exact none.append feed
  next => simpa using ((start.append lines).append stop).append feed

private theorem literal_quiet (v : Float) : Quiet (literal v).render.toList := by
  unfold literal
  split
  next b _ => exact .of_plain (numeric_plain (text_numeric b))
  next => exact .of_plain (plain_literal rfl)

private theorem success_quiet {settings : Settings} {format : Format} {decimals : Option Int} {v : Float}
    {text : String}
    (printed : Outcome.print settings format decimals ⟨true, some v, none, none⟩ = .ok text) : Quiet text.toList := by
  have feed : Quiet "\n".toList := .of_plain (plain_literal rfl)
  unfold Outcome.print at printed
  cases shown : Display.value settings decimals v with
  | error error => cases format <;> simp [members_success, Outcome.human, shown, Except.map] at printed
  | ok answer =>
    have quiet := Quiet.of_plain (value_plain shown)
    cases format with
    | human =>
      obtain rfl : answer ++ "\n" = text := by simpa [Outcome.human, shown, Except.map] using printed
      rw [String.toList_append]
      exact quiet.append feed
    | json =>
      rw [members_success, shown] at printed
      obtain rfl := Except.ok.inj printed
      have ok : Silent "ok" (.bool true) := ⟨apart_literal (by decide), .of_plain (plain_literal rfl)⟩
      have value : Silent "value" (literal v) := ⟨apart_literal (by decide), literal_quiet v⟩
      have result : Silent "result" (.text answer) := ⟨apart_literal (by decide), quote_quiet quiet.apart⟩
      refine object_quiet ?_
      change ∀ member ∈ [("ok", _), ("value", _), ("result", _)], Silent member.1 member.2
      simp only [List.forall_mem_cons]
      exact ⟨ok, value, result, List.forall_mem_nil _⟩

private theorem failure_quiet {settings : Settings} {format : Format} {decimals : Option Int} {failure : Failure}
    {text : String}
    (printed : Outcome.print settings format decimals ⟨false, none, some failure.message, some failure.code⟩ =
      .ok text) : Quiet text.toList := by
  unfold Outcome.print at printed
  cases format with
  | human =>
    obtain rfl := Except.ok.inj printed
    simp only [FrontEnds.failure_text]
    have said : Apart ("Error: Invalid expression: " ++ failure.message).toList :=
      ended_apart (plain_literal rfl) (message_apart failure)
    rw [String.toList_append]
    exact Quiet.closed said (by decide) (by decide)
  | json =>
    rw [members_failure] at printed
    obtain rfl := Except.ok.inj printed
    have ok : Silent "ok" (.bool false) := ⟨apart_literal (by decide), .of_plain (plain_literal rfl)⟩
    have error : Silent "error" (.text failure.message) :=
      ⟨apart_literal (by decide), quote_quiet (message_apart failure)⟩
    have code : Silent "code" (.text failure.code) := ⟨apart_literal (by decide), quote_quiet (code_apart failure)⟩
    refine object_quiet ?_
    change ∀ member ∈ [("ok", _), ("error", _), ("code", _)], Silent member.1 member.2
    simp only [List.forall_mem_cons]
    exact ⟨ok, error, code, List.forall_mem_nil _⟩

/-- No answer contains the farewell, or the beginning of one. -/
theorem print_quiet {settings : Settings} {format : Format} {decimals : Option Int} {source text : String}
    (printed : (Outcome.ofSource settings (some source)).print settings format decimals = .ok text) :
    Quiet text.toList := by
  unfold Outcome.ofSource at printed
  cases found : Formula.value settings (some source) with
  | ok v => exact success_quiet (found ▸ printed)
  | error failure => exact failure_quiet (found ▸ printed)

end Reckoner.Proofs.Farewell
