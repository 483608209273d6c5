import Reckoner.Proofs.CommandLine
import Reckoner.Proofs.Showing
import Reckoner.Proofs.Trigger
import Reckoner.Proofs.Trimming

/-! One formula has one answer. It is the same whether the formula is given on the command line, in a chat message or
as a line of a session, although each of these takes its own way from the text to the answer. -/

namespace Reckoner.Proofs.FrontEnds
open Options CommandLine Showing Trimming

/-- Words that ask for a number of places. Of several such options the last one counts. -/
inductive AsksPlaces : List String → Option Int → Prop
  | nil : AsksPlaces [] none
  | joined (read : Text.readInteger text = .ok places) (rest : AsksPlaces words later) :
    AsksPlaces (("--precision=" ++ text) :: words) (later.or (some places))
  | apart (named : name ∈ Flag.precision.names) (plain : classify text = .ok (.plain text))
    (read : Text.readInteger text = .ok places) (rest : AsksPlaces words later) :
    AsksPlaces (name :: text :: words) (later.or (some places))

/-- What is answered to a formula: its value with a number of places, or why it has none. -/
structure Answers (settings : Settings) (places : Int) (source text : String) : Prop where
  value : ∀ value, Formula.value settings (some source) = .ok value →
    Display.value settings (some places) value = .ok text
  failure : ∀ failure, Formula.value settings (some source) = .error failure →
    text = "Error: Invalid expression: " ++ failure.message

theorem exists_answer (settings : Settings) {places : Int} (fits : Fits places) (source : String) :
    ∃ text, Answers settings places source text := by
  cases found : Formula.value settings (some source) with
  | ok value =>
    obtain ⟨text, shown⟩ : ∃ text, Display.value settings (some places) value = .ok text :=
      value_ok_iff.mpr fun _ => fits
    refine ⟨text, ?_, ?_⟩
    · rintro other same
      obtain rfl := Except.ok.inj (found.symm.trans same)
      exact shown
    · intro failure same
      cases found.symm.trans same
  | error failure =>
    refine ⟨"Error: Invalid expression: " ++ failure.message, ?_, ?_⟩
    · intro value same
      cases found.symm.trans same
    · rintro other same
      obtain rfl := Except.error.inj (found.symm.trans same)
      rfl

private theorem message_ne_empty (failure : Failure) : failure.message ≠ "" := by
  have front {first : String} (second : String) (present : first ≠ "") : first ++ second ≠ "" :=
    fun empty => present (String.append_eq_empty_iff.mp empty).1
  cases failure with
  | tooLong limit => exact front _ (front _ (by decide))
  | invalidCharacter c => exact front _ (by decide)
  | missingOperand symbol => exact front _ (front _ (by decide))
  | missingArgument f => exact front _ (front _ (by decide))
  | unknownOperator f => exact front _ (by decide)
  | _ => decide

theorem failure_text (failure : Failure) :
    "Error: " ++ Display.failure (some failure.message) = "Error: Invalid expression: " ++ failure.message := by
  have present : failure.message.isEmpty = false := by
    rw [← Bool.not_eq_true, String.isEmpty_iff]
    exact message_ne_empty failure
  rw [Display.failure, present, Display.failureLabel]
  simp [← String.append_assoc]

section
variable {settings : Settings} {places : Int} {decimals : Option Int} {source text : String}

theorem Answers.trim (answers : Answers settings places source text) :
    Answers settings places (String.ofList (Text.trim source.toList)) text := by
  constructor
  · rw [value_trim]
    exact answers.value
  · rw [value_trim]
    exact answers.failure

theorem Answers.printed (answers : Answers settings (decimals.getD settings.places) source text) :
    (Outcome.ofSource settings (some source)).print settings .human decimals = .ok (text ++ "\n") := by
  unfold Outcome.ofSource
  cases found : Formula.value settings (some source) with
  | ok value =>
    have shown : Display.value settings decimals value = .ok text := answers.value value found
    simp [Outcome.print, Outcome.human, Outcome.ofResult, shown, Except.map]
  | error failure =>
    have told := answers.failure failure found
    simp [Outcome.print, Outcome.human, Outcome.ofResult, Except.map, failure_text, told]

theorem Answers.reply {trigger message : String}
    (answers : Answers settings (decimals.getD settings.places) source text)
    (addressed : Chat.expression? trigger message = some source) (present : source.isEmpty = false) :
    ∃ note, Chat.reply settings trigger decimals (some message) =
      .ok ⟨(Outcome.ofSource settings (some source)).ok, some text, note⟩ := by
  unfold Chat.reply Outcome.ofSource
  cases found : Formula.value settings (some source) with
  | ok value =>
    have shown : Display.value settings decimals value = .ok text := answers.value value found
    exact ⟨none, by simp [addressed, present, found, shown, Except.map, Outcome.ofResult]⟩
  | error failure =>
    have told := answers.failure failure found
    exact ⟨some failure.message, by simp [addressed, present, found, failure_text, told, Outcome.ofResult]⟩

end

theorem addressed_trigger {trigger cs : List Char} (begins : ¬ trigger.head?.any Text.isBlank)
    (present : Text.trim cs ≠ []) : Chat.addressed? trigger (trigger ++ ' ' :: cs) = some (Text.trim cs) := by
  obtain ⟨before, after, whole, left, right, trimmed⟩ := exists_trim cs
  have blank : ∀ c ∈ ' ' :: before, Text.isBlank c := by
    intro c member
    rcases List.mem_cons.mp member with rfl | member
    · decide
    · exact left c member
  have shape : trigger ++ ' ' :: cs = [] ++ trigger ++ (' ' :: before) ++ Text.trim cs ++ after := by
    conv_lhs => rw [whole]
    simp
  have asks : Trigger.Asks trigger (trigger ++ ' ' :: cs) (Text.trim cs) := by
    rw [shape]
    exact .intro nofun blank right trimmed (.inl present)
  exact asks.addressed begins

theorem trim_present {source : String} (present : Formula.isBlank source = false) : Text.trim source.toList ≠ [] := by
  intro blank
  rw [Formula.isBlank, List.all_eq_false] at present
  obtain ⟨c, member, plain⟩ := present
  exact plain (trim_eq_nil_iff.mp blank c member)

theorem expression_trigger {trigger source : String} (begins : ¬ trigger.toList.head?.any Text.isBlank)
    (present : Text.trim source.toList ≠ []) :
    Chat.expression? trigger (trigger ++ " " ++ source) = some (String.ofList (Text.trim source.toList)) := by
  have message : (trigger ++ " " ++ source).toList = trigger.toList ++ ' ' :: source.toList := by simp
  rw [Chat.expression?, message, addressed_trigger begins present]
  rfl

/-- A message has a blank behind the trigger, so that it is never taken for the end of the options. -/
private theorem message_separate (trigger source : String) : trigger ++ " " ++ source ≠ "--" := by
  intro same
  have blank : ' ' ∈ (trigger ++ " " ++ source).toList := by simp
  rw [same] at blank
  exact absurd blank (by decide)

theorem linesAfter_append {cs : List Char} (plain : '\n' ∉ cs) (line rest : List Char) :
    Text.linesAfter line (cs ++ rest) = Text.linesAfter (cs.reverse ++ line) rest := by
  induction cs generalizing line with
  | nil => rfl
  | cons c cs ih =>
    have first : c ≠ '\n' := Ne.symm (List.ne_of_not_mem_cons plain)
    rw [List.cons_append, Text.linesAfter, if_neg first, ih (List.not_mem_of_not_mem_cons plain)]
    simp

theorem lines_single {line ending : String} (plain : '\n' ∉ line.toList) (present : line.toList ≠ [])
    (ended : ending ∈ ["", "\n"]) : Text.lines (line ++ ending) = [line] := by
  have last : Text.linesAfter line.toList.reverse ending.toList = [line.toList] := by
    rcases List.mem_pair.mp ended with rfl | rfl
    · simpa [Text.linesAfter] using present
    · simp [Text.linesAfter]
  rw [Text.lines, String.toList_append, linesAfter_append plain, List.append_nil, last]
  simp

theorem readLine_formula {line : String} (present : Text.trim line.toList ≠ [])
    (command : String.ofList (Text.lower (Text.trim line.toList)) ∉ ["help", "quit", "exit"]) :
    Session.readLine line = .formula (String.ofList (Text.trim line.toList)) := by
  simp only [List.mem_cons, List.not_mem_nil, or_false, not_or] at command
  unfold Session.readLine
  simp only [List.isEmpty_iff, present, ↓reduceIte]
  split
  next help => exact absurd help command.1
  next quit => exact absurd quit command.2.1
  next exit => exact absurd exit command.2.2
  next => rfl

theorem withoutPrompt_plain {source : String} (prompt : ¬ ['>', '>', '>'] <+: Text.trim source.toList) :
    Command.withoutPrompt source = String.ofList (Text.trim source.toList) := by
  unfold Command.withoutPrompt
  dsimp only
  split
  next rest shape => exact absurd ⟨rest, shape.symm⟩ prompt
  next => rfl

theorem run_single {settings : Settings} {style : Style} {input line source text : String}
    (lines : Text.lines input = [line]) (read : Session.readLine line = .formula source)
    (answered : Session.answer settings style source = .ok text) :
    (Session.run settings style input).output =
        Session.banner ++ Session.prompt ++ text ++ Session.prompt ++ "\n" ++ Session.farewell ∧
      (Session.run settings style input).error = none := by
  simp [Session.run, lines, Session.converse_cons, Session.converse_nil, read, answered, Session.Transcript.after,
    String.append_assoc]

/-- What a command prints, and the code that it ends with. -/
structure Shows (report : Command.Report) (output : String) (code : Nat) : Prop where
  output : report.output = output
  ending : report.ending = .exit code

private theorem assign_precision {request : Request} {text : String} {places : Int}
    (read : Text.readInteger text = .ok places) :
    text ≠ "--" ∧ request.assign .precision text = .ok { request with precision := some (.value places) } := by
  have separate : text ≠ "--" := by
    rintro rfl
    have refused : Text.readInteger "--" = .error (.malformed "--") := by decide +kernel
    rw [refused] at read
    cases read
  refine ⟨separate, ?_⟩
  rw [Request.assign, Request.readArgument, if_neg separate, Request.readPrecision, read]
  rfl

theorem AsksPlaces.makes {words rest : List String} {asked : Option Int} {request made : Request}
    (asks : AsksPlaces words asked)
    (others : Makes { request with precision := (asked.map .value).or request.precision } rest made) :
    Makes request (words ++ rest) made := by
  induction asks generalizing request with
  | nil => exact others
  | @joined text places words later read _ ih =>
    obtain ⟨_, assigned⟩ := assign_precision read
    have word : "--precision=" = "--precision" ++ "=" := by decide
    rw [List.cons_append, word]
    refine Makes.joined (by decide) (by decide) (by decide) rfl assigned (ih ?_)
    cases later <;> exact others
  | @apart name text places words later named plain read _ ih =>
    obtain ⟨separate, assigned⟩ := assign_precision read
    have names : ∀ name ∈ Flag.precision.names,
      Flag.named? name = some .precision ∧ name.toList.head? = some '-' ∧ name ≠ "--" := by decide
    obtain ⟨known, dash, other⟩ := names name named
    refine Makes.apart known dash rfl plain other separate assigned (ih ?_)
    cases later <;> exact others

section
variable {before after : List String} {first last : Option Int}

theorem parse_places (asksBefore : AsksPlaces before first) (asksAfter : AsksPlaces after last) :
    Request.parse (before ++ after) = .ok { precision := (last.or first).map .value } := by
  rw [parse_ok_iff, ← List.append_nil after]
  refine asksBefore.makes (asksAfter.makes ?_)
  cases last <;> cases first <;> exact Makes.nil

/-- An option with its value among those that ask for places. -/
theorem parse_around {flag : Flag} {name value : String} {next : Request} (asksBefore : AsksPlaces before first)
    (asksAfter : AsksPlaces after last)
    (long : Flag.named? name = some flag ∧ name.toList.head? = some '-' ∧ '=' ∉ name.toList ∧ flag.takesValue = true)
    (assigned : Request.assign { precision := first.map .value } flag value = .ok next)
    (kept : next.precision = first.map .value) :
    Request.parse (before ++ (name ++ "=" ++ value) :: after) =
      .ok { next with precision := (last.or first).map .value } := by
  obtain ⟨known, dash, single, takes⟩ := long
  have started : Request.assign { precision := (first.map .value).or none } flag value = .ok next := by
    rwa [Option.or_none]
  rw [parse_ok_iff, ← List.append_nil after]
  refine asksBefore.makes (Makes.joined known dash single takes started (asksAfter.makes ?_))
  rw [kept]
  cases last <;> cases first <;> exact Makes.nil

theorem parse_expression {source : String} (asksBefore : AsksPlaces before first) (asksAfter : AsksPlaces after last)
    (separate : source ≠ "--") :
    Request.parse (before ++ ("--eval=" ++ source) :: after) =
      .ok { expression := some (.value source), precision := (last.or first).map .value } := by
  have assigned : Request.assign { precision := first.map .value } .expression source =
      .ok { precision := first.map .value, expression := some (.value source) } := by
    rw [Request.assign, Request.readArgument, if_neg separate]
    rfl
  have long : Flag.named? "--eval" = some .expression ∧ "--eval".toList.head? = some '-' ∧ '=' ∉ "--eval".toList ∧
    Flag.expression.takesValue = true := by decide
  have word : "--eval=" = "--eval" ++ "=" := by decide
  rw [word]
  exact parse_around asksBefore asksAfter long assigned rfl

theorem parse_message {message : String} (asksBefore : AsksPlaces before first) (asksAfter : AsksPlaces after last)
    (separate : message ≠ "--") :
    Request.parse (before ++ ("--message=" ++ message) :: after) =
      .ok { message := some (.value message), precision := (last.or first).map .value } := by
  have assigned : Request.assign { precision := first.map .value } .message message =
      .ok { precision := first.map .value, message := some (.value message) } := by
    rw [Request.assign, Request.readArgument, if_neg separate]
    rfl
  have long : Flag.named? "--message" = some .message ∧ "--message".toList.head? = some '-' ∧
    '=' ∉ "--message".toList ∧ Flag.message.takesValue = true := by decide
  have word : "--message=" = "--message" ++ "=" := by decide
  rw [word]
  exact parse_around asksBefore asksAfter long assigned rfl

end

section
variable (settings : Settings) (numerics input : String) {asked decimals : Option Int}

theorem perform_expression (source : String) (usual : asked.filter (0 ≤ ·) = decimals) :
    Command.perform settings numerics { expression := some (.value source), precision := asked.map .value } input =
      Command.calculate settings ⟨.human, decimals⟩ source := by
  rw [Command.perform, Command.task, decimals_usual rfl, usual]
  simp [Command.format]

theorem perform_message (message : String) (usual : asked.filter (0 ≤ ·) = decimals) :
    Command.perform settings numerics { message := some (.value message), precision := asked.map .value } input =
      Command.chat settings ⟨.human, decimals⟩ message := by
  rw [Command.perform, Command.task, decimals_usual rfl, usual]
  simp [Command.format]

theorem perform_session (usual : asked.filter (0 ≤ ·) = decimals) :
    Command.perform settings numerics { precision := asked.map .value } input =
      Command.session settings ⟨.human, decimals⟩ input := by
  rw [Command.perform, Command.task, decimals_usual rfl, usual]
  simp [Command.format]

end

/-- A request that sets nothing up about the log. -/
theorem report_unlogged {request : Request} {words : List String} (settings : Settings)
    (numerics stamp input : String) (opening : Log.Opening) (parsed : Request.parse words = .ok request)
    (level : request.logLevel = none) (file : request.logFile = none) :
    Performed (Command.report settings numerics stamp words input opening)
      (Command.perform settings numerics request input) := by
  have known : Command.level settings request = .ok (Log.LevelRequest.standard.resolve settings.level) := by
    rw [Command.level, level]
  have unused : Command.logFile request = none := by
    rw [Command.logFile, file]
  exact report_performed numerics stamp input opening parsed known unused

section
variable {settings : Settings} {decimals : Option Int} {source text : String}

theorem ofSource_trim (settings : Settings) (source : String) :
    Outcome.ofSource settings (some (String.ofList (Text.trim source.toList))) =
      Outcome.ofSource settings (some source) := by
  rw [Outcome.ofSource, value_trim, Outcome.ofSource]

theorem calculate_answers (answers : Answers settings (decimals.getD settings.places) source text)
    (prompt : ¬ ['>', '>', '>'] <+: Text.trim source.toList) :
    (Command.calculate settings ⟨.human, decimals⟩ source).output = text ++ "\n" ∧
      (Command.calculate settings ⟨.human, decimals⟩ source).ending =
        .ok (Command.exitCode (Outcome.ofSource settings (some source)).ok) := by
  rw [Command.calculate, withoutPrompt_plain prompt]
  simp only [ofSource_trim, answers.printed, and_self]

theorem chat_answers {message : String} (answers : Answers settings (decimals.getD settings.places) source text)
    (addressed : Chat.expression? settings.trigger message = some source) (present : source.isEmpty = false) :
    (Command.chat settings ⟨.human, decimals⟩ message).output = text ++ "\n" ∧
      (Command.chat settings ⟨.human, decimals⟩ message).ending =
        .ok (Command.exitCode (Outcome.ofSource settings (some source)).ok) := by
  obtain ⟨note, reply⟩ := answers.reply addressed present
  rw [Command.chat]
  simp only [reply]
  exact ⟨rfl, trivial⟩

theorem session_answers {input line : String} (answers : Answers settings (decimals.getD settings.places) source text)
    (lines : Text.lines input = [line]) (read : Session.readLine line = .formula source) :
    (Command.session settings ⟨.human, decimals⟩ input).output =
        Session.banner ++ Session.prompt ++ (text ++ "\n") ++ Session.prompt ++ "\n" ++ Session.farewell ∧
      (Command.session settings ⟨.human, decimals⟩ input).ending = .ok 0 := by
  have answered : Session.answer settings ⟨.human, decimals⟩ source = .ok (text ++ "\n") := answers.printed
  obtain ⟨output, whole⟩ := run_single lines read answered
  rw [Command.session]
  simp only [output, whole, and_self]

end

theorem Shows.of_performed {report : Command.Report} {run : Command.Run} {output : String} {code : Nat}
    (performed : Performed report run) (ran : run.output = output ∧ run.ending = .ok code) : Shows report output code :=
  ⟨performed.output.trans ran.1, performed.exit code ran.2⟩

/-- However a formula is handed in, it is answered with the same text. Only on the command line a formula that is
nothing but a double dash gets no answer, since it leaves the option without a value. -/
theorem answers_agree (settings : Settings) (numerics stamp input : String) (opening : Log.Opening) {source : String}
    {before after : List String} {first last : Option Int} (present : Formula.isBlank source = false)
    (line : '\n' ∉ source.toList)
    (prompt : ¬ ['>', '>', '>'] <+: Text.trim source.toList)
    (command : String.ofList (Text.lower (Text.trim source.toList)) ∉ ["help", "quit", "exit"])
    (trigger : ¬ settings.trigger.toList.head?.any Text.isBlank)
    (asksBefore : AsksPlaces before first) (asksAfter : AsksPlaces after last)
    (fits : Fits (effective settings (last.or first))) :
    ∃ text, Answers settings (effective settings (last.or first)) source text ∧
      (source ≠ "--" →
        Shows (Command.report settings numerics stamp (before ++ ("--eval=" ++ source) :: after) input opening)
          (text ++ "\n") (Command.exitCode (Outcome.ofSource settings (some source)).ok)) ∧
      Shows (Command.report settings numerics stamp
          (before ++ ("--message=" ++ (settings.trigger ++ " " ++ source)) :: after) input opening) (text ++ "\n")
        (Command.exitCode (Outcome.ofSource settings (some source)).ok) ∧
      (∀ decimals : Option Int, decimals.getD settings.places = effective settings (last.or first) →
        ∃ note, Chat.reply settings settings.trigger decimals (some (settings.trigger ++ " " ++ source)) =
          .ok ⟨(Outcome.ofSource settings (some source)).ok, some text, note⟩) ∧
      ∀ ending ∈ ["", "\n"],
        Shows (Command.report settings numerics stamp (before ++ after) (source ++ ending) opening)
          (Session.banner ++ Session.prompt ++ (text ++ "\n") ++ Session.prompt ++ "\n" ++ Session.farewell) 0 := by
  obtain ⟨text, answers⟩ := exists_answer settings fits source
  obtain ⟨decimals, usual⟩ : ∃ decimals, (last.or first).filter (0 ≤ ·) = decimals := ⟨_, rfl⟩
  rw [effective, usual] at answers
  have core := trim_present present
  have inhabited : (String.ofList (Text.trim source.toList)).isEmpty = false := by
    rw [← Bool.not_eq_true, String.isEmpty_iff]
    simpa using core
  have nonempty : source.toList ≠ [] := by
    intro nothing
    rw [nothing] at core
    exact core rfl
  have addressed := expression_trigger trigger core
  refine ⟨text, ?_, ?_, ?_, ?_, ?_⟩
  · rwa [effective, usual]
  · intro separate
    have parsed := parse_expression asksBefore asksAfter separate
    refine Shows.of_performed (report_unlogged settings numerics stamp input opening parsed rfl rfl) ?_
    rw [perform_expression settings numerics input source usual]
    exact calculate_answers answers prompt
  · have parsed := parse_message asksBefore asksAfter (message_separate settings.trigger source)
    refine Shows.of_performed (report_unlogged settings numerics stamp input opening parsed rfl rfl) ?_
    rw [perform_message settings numerics input _ usual, ← ofSource_trim]
    exact chat_answers answers.trim addressed inhabited
  · intro other same
    rw [effective, usual] at same
    rw [← same] at answers
    rw [← ofSource_trim]
    exact answers.trim.reply addressed inhabited
  · intro ending ended
    have lines := lines_single line nonempty ended
    have parsed := parse_places asksBefore asksAfter
    refine Shows.of_performed (report_unlogged settings numerics stamp _ opening parsed rfl rfl) ?_
    rw [perform_session settings numerics _ usual]
    exact session_answers answers.trim lines (readLine_formula core command)

theorem answers_agree_third :
    AsksPlaces ["-p", "6"] (some 6) ∧ AsksPlaces ["--precision=" ++ "+3"] (some 3) ∧
    Shows (Command.report { trigger := "!" } "" "" ["-p", "6", "--eval=" ++ " 1/3", "--precision=" ++ "+3"] "")
      "0.333\n" 0 ∧
    Shows (Command.report { trigger := "!" } "" "" ["-p", "6", "--message=" ++ "!  1/3", "--precision=" ++ "+3"] "")
      "0.333\n" 0 := by
  have first : AsksPlaces ["-p", "6"] (some 6) := .apart (by decide) (by decide +kernel) (by decide +kernel) .nil
  have read : Text.readInteger "+3" = .ok 3 := by decide +kernel
  have last : AsksPlaces ["--precision=" ++ "+3"] (some 3) := .joined read .nil
  have blank : Formula.isBlank " 1/3" = false := by decide
  have value : Formula.value { trigger := "!" } (some " 1/3") = .ok (1 / 3) := by decide +kernel
  have shown : Display.value { trigger := "!" } (some 3) (1 / 3) = .ok "0.333" := by decide +kernel
  have success : (Outcome.ofSource { trigger := "!" } (some " 1/3")).ok = true := by decide +kernel
  obtain ⟨text, answers, formula, message, -⟩ :=
    answers_agree { trigger := "!" } "" "" "" (({} : Log.Folder).locate []) blank (by decide) (by decide)
      (by decide +kernel) (by decide) first last ⟨by decide, by decide⟩
  obtain rfl : text = "0.333" := Except.ok.inj ((answers.value _ value).symm.trans shown)
  rw [success] at formula message
  exact ⟨first, last, formula (by decide), message⟩

/-- The double dash is a formula like others, but the option that it is the value of is left without one. -/
theorem answer_lost :
    Formula.isBlank "--" = false ∧ '\n' ∉ "--".toList ∧ ¬ ['>', '>', '>'] <+: Text.trim "--".toList ∧
    String.ofList (Text.lower (Text.trim "--".toList)) ∉ ["help", "quit", "exit"] ∧
    Shows (Command.report {} "" "" ["--message=@calc --"] "") "Error: Invalid expression: Missing operand for '-'\n" 1 ∧
    (Command.report {} "" "" ["--eval=--"] "").ending = .broken .noText := by
  refine ⟨by decide, by decide, by decide, by decide +kernel, ⟨?_, ?_⟩, ?_⟩
  · decide +kernel
  · decide +kernel
  · decide +kernel

end Reckoner.Proofs.FrontEnds
