import Reckoner.Chat
import Reckoner.Proofs.Trimming

/-! Which messages ask for a calculation: those that consist of the trigger and an expression, with blanks around and
between them. Blanks are taken off the message before the trigger is looked for. So a trigger that begins with one is
never found, and one that ends in one is found only if an expression keeps its end from being taken off. -/

namespace Reckoner.Proofs.Trigger
open Text Trimming

def BeginsBlank (trigger : List Char) : Prop :=
  trigger.head?.any isBlank

def EndsBlank (trigger : List Char) : Prop :=
  trigger.getLast?.any isBlank

instance (trigger : List Char) : Decidable (BeginsBlank trigger) :=
  inferInstanceAs (Decidable (_ = true))

instance (trigger : List Char) : Decidable (EndsBlank trigger) :=
  inferInstanceAs (Decidable (_ = true))

/-- The message asks for the expression, which may be empty behind a trigger that does not end in a blank. -/
inductive Asks (trigger : List Char) : List Char → List Char → Prop
  | intro {before between expression after : List Char} (left : ∀ c ∈ before, isBlank c)
      (middle : ∀ c ∈ between, isBlank c) (right : ∀ c ∈ after, isBlank c) (trimmed : Trimmed expression)
      (kept : expression ≠ [] ∨ ¬ EndsBlank trigger) :
      Asks trigger (before ++ trigger ++ between ++ expression ++ after) expression

variable {trigger message expression : List Char}

/-- What is left of such a message when it is trimmed still has the whole trigger in front. -/
theorem Asks.trim (asks : Asks trigger message expression) (begins : ¬ BeginsBlank trigger) :
    ∃ gap, (∀ c ∈ gap, isBlank c) ∧ Trimmed expression ∧ Text.trim message = trigger ++ gap ++ expression := by
  obtain ⟨left, middle, right, trimmed, kept⟩ := asks
  rename_i before between after
  rcases eq_or_ne trigger [] with rfl | some
  · -- The blanks behind an empty trigger are blanks before the expression.
    have blank : ∀ c ∈ before ++ between, isBlank c := by
      intro c member
      exact (List.mem_append.mp member).elim (left c) (middle c)
    refine ⟨[], nofun, trimmed, ?_⟩
    rw [List.append_nil]
    exact trim_append blank right trimmed
  · rcases eq_or_ne expression [] with rfl | present
    · have blank : ∀ c ∈ between ++ after, isBlank c := by
        intro c member
        exact (List.mem_append.mp member).elim (middle c) (right c)
      have whole : Trimmed trigger := ⟨begins, kept.resolve_left (· rfl)⟩
      refine ⟨[], nofun, trimmed, ?_⟩
      simpa using trim_append left blank whole
    · have whole : Trimmed (trigger ++ between ++ expression) := by
        constructor
        · rw [List.append_assoc, List.head?_append_of_ne_nil _ some]
          exact begins
        · rw [List.getLast?_append_of_ne_nil _ present]
          exact trimmed.last
      refine ⟨between, middle, trimmed, ?_⟩
      simpa using trim_append left right whole

theorem Asks.addressed (asks : Asks trigger message expression) (begins : ¬ BeginsBlank trigger) :
    Chat.addressed? trigger message = some expression := by
  obtain ⟨gap, blank, trimmed, text⟩ := asks.trim begins
  have starts : trigger.isPrefixOf (trigger ++ gap ++ expression) = true := by simp
  have rest : Text.trim (gap ++ expression) = expression := by
    simpa using @trim_append gap expression [] blank nofun trimmed
  rw [Chat.addressed?, text, if_pos starts, List.append_assoc, List.drop_left, rest]

/-- The trigger ends where the trimmed message ends if nothing but blanks follows it, so its end is no blank. -/
private theorem kept_of_trimmed {tail : List Char} (trimmed : Trimmed (trigger ++ tail)) :
    trim tail ≠ [] ∨ ¬ EndsBlank trigger := by
  rcases eq_or_ne tail [] with rfl | present
  · rw [List.append_nil] at trimmed
    exact .inr trimmed.last
  · refine .inl fun empty => trimmed.last ?_
    rw [List.getLast?_append_of_ne_nil _ present, List.getLast?_eq_some_getLast present]
    exact trim_eq_nil_iff.mp empty _ (List.getLast_mem present)

/-- Nothing but such a message is found to be addressed. -/
theorem asks_of_addressed (found : Chat.addressed? trigger message = some expression) :
    ¬ BeginsBlank trigger ∧ Asks trigger message expression := by
  obtain ⟨before, after, whole, left, right, trimmed⟩ := exists_trim message
  rw [Chat.addressed?] at found
  split at found
  next starts =>
    obtain ⟨tail, text⟩ := List.isPrefixOf_iff_prefix.mp starts
    rw [← text, List.drop_left, Option.some.injEq] at found
    obtain ⟨first, last, parts, blank, blank', inner⟩ := exists_trim tail
    rw [← text] at whole trimmed
    constructor
    · intro begins
      have present : trigger ≠ [] := by
        rintro rfl
        cases begins
      apply trimmed.first
      rwa [List.head?_append_of_ne_nil _ present]
    · have behind : ∀ c ∈ last ++ after, isBlank c := by
        intro c member
        exact (List.mem_append.mp member).elim (blank' c) (right c)
      have shape : message = before ++ trigger ++ first ++ Text.trim tail ++ (last ++ after) := by
        conv_lhs => rw [whole, parts]
        simp
      rw [← found, shape]
      exact .intro left blank behind inner (kept_of_trimmed trimmed)
  next => cases found

theorem addressed_eq_some_iff :
    Chat.addressed? trigger message = some expression ↔ ¬ BeginsBlank trigger ∧ Asks trigger message expression :=
  ⟨asks_of_addressed, fun ⟨begins, asks⟩ => asks.addressed begins⟩

theorem expression_eq_some_iff {trigger message expression : String} :
    Chat.expression? trigger message = some expression ↔
      ¬ BeginsBlank trigger.toList ∧ Asks trigger.toList message.toList expression.toList := by
  rw [← addressed_eq_some_iff, Chat.expression?, Option.map_eq_some_iff]
  constructor
  · rintro ⟨cs, found, rfl⟩
    rwa [String.toList_ofList]
  · intro found
    exact ⟨_, found, String.ofList_toList⟩

/-- A message asks for at most one expression, which is the one that is found. None is found if it asks for none, or if
the trigger begins with a blank. -/
theorem expression_exact (trigger message : String) :
    (¬ BeginsBlank trigger.toList →
      (∀ expression : String, Chat.expression? trigger message = some expression ↔
        Asks trigger.toList message.toList expression.toList) ∧
      (∀ expression other : List Char, Asks trigger.toList message.toList expression →
        Asks trigger.toList message.toList other → expression = other) ∧
      (Chat.expression? trigger message = none ↔
        ∀ expression : List Char, ¬ Asks trigger.toList message.toList expression)) ∧
    (BeginsBlank trigger.toList → Chat.expression? trigger message = none) := by
  constructor
  · intro begins
    refine ⟨fun expression => ?_, fun expression other asks asks' => ?_, ?_⟩
    · rw [expression_eq_some_iff]
      exact and_iff_right begins
    · have found := asks.addressed begins
      rw [asks'.addressed begins] at found
      exact (Option.some.inj found).symm
    · rw [Chat.expression?, Option.map_eq_none_iff, Option.eq_none_iff_forall_ne_some]
      refine forall_congr' fun expression => not_congr ?_
      rw [addressed_eq_some_iff]
      exact and_iff_right begins
  · intro begins
    rw [Option.eq_none_iff_forall_ne_some]
    intro expression found
    exact (expression_eq_some_iff.mp found).1 begins

/-- The end of this trigger is taken off if nothing follows it, and a trigger in the expression is left alone. -/
theorem expression_exact_spaced :
    ¬ BeginsBlank "calc ".toList ∧ Asks "calc ".toList "\tcalc  calc 1\n".toList "calc 1".toList ∧
    Chat.expression? "calc " "\tcalc  calc 1\n" = some "calc 1" ∧
    (∀ expression, ¬ Asks "calc ".toList " calc ".toList expression) ∧
    BeginsBlank " calc".toList ∧ Chat.expression? " calc" " calc 1" = none := by
  have begins : ¬ BeginsBlank "calc ".toList := by decide
  have asks : Asks "calc ".toList "\tcalc  calc 1\n".toList "calc 1".toList :=
    @Asks.intro "calc ".toList ['\t'] [' '] "calc 1".toList ['\n'] (List.all_eq_true.mp rfl)
      (List.all_eq_true.mp rfl) (List.all_eq_true.mp rfl) ⟨by decide, by decide⟩ (.inl (by decide))
  have blank : BeginsBlank " calc".toList := by decide
  have absent : Chat.expression? "calc " " calc " = none := by decide
  refine ⟨begins, asks, ?_, ?_, blank, ?_⟩
  · exact ((expression_exact "calc " "\tcalc  calc 1\n").1 begins).1 "calc 1" |>.mpr asks
  · exact ((expression_exact "calc " " calc ").1 begins).2.2.mp absent
  · exact (expression_exact " calc" " calc 1").2 blank

end Reckoner.Proofs.Trigger
