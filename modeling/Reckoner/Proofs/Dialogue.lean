import Reckoner.Proofs.Endings
import Reckoner.Proofs.Farewell

/-! Sessions line by line. What a session prints for a line is what the line gets when it stands alone. This goes on
until a line ends the session, and nothing behind that line is looked at. -/

namespace Reckoner.Proofs.Dialogue
open Options CommandLine Showing Trimming FrontEnds Farewell

/-- A text and its lines. What follows the last line feed is a line too, unless it is empty. -/
inductive Lines : String → List String → Prop
  | none : Lines "" []
  | last (plain : '\n' ∉ line.toList) (present : line ≠ "") : Lines line [line]
  | ended (plain : '\n' ∉ line.toList) (others : Lines rest lines) : Lines (line ++ "\n" ++ rest) (line :: lines)

theorem Lines.unique {text : String} {lines : List String} (cut : Lines text lines) : Text.lines text = lines := by
  induction cut with
  | none => rfl
  | @last line plain present =>
    have whole := lines_single plain (by simpa using present) (List.mem_cons_self (a := "") (l := ["\n"]))
    rwa [String.append_empty] at whole
  | @ended line rest lines plain others ih =>
    rw [Text.lines, String.append_assoc, String.toList_append, linesAfter_append plain, List.append_nil]
    simpa [Text.linesAfter, Text.lines] using ih

private theorem linesAfter_lines (cs line : List Char) (plain : '\n' ∉ line) :
    Lines (String.ofList (line.reverse ++ cs)) ((Text.linesAfter line cs).map String.ofList) := by
  induction cs generalizing line with
  | nil =>
    rw [Text.linesAfter, List.append_nil]
    rcases eq_or_ne line [] with rfl | present
    · exact .none
    · rw [if_neg (by simpa using present)]
      exact .last (by simpa using plain) (by simpa using present)
  | cons c cs ih =>
    rw [Text.linesAfter]
    split
    next feed =>
      have ended : Lines (String.ofList line.reverse ++ "\n" ++ _) _ :=
        .ended (by simpa using plain) (ih [] List.not_mem_nil)
      simpa [feed, String.append_assoc] using ended
    next other =>
      have more := ih (c :: line) (by simp [Ne.symm other, plain])
      simpa using more

theorem lines_lines (text : String) : Lines text (Text.lines text) := by
  have lines := linesAfter_lines text.toList [] List.not_mem_nil
  rwa [List.reverse_nil, List.nil_append, String.ofList_toList] at lines

/-- The line as a command: without the blanks around it, and in lower case. -/
def command (line : String) : String :=
  String.ofList (Text.lower (Text.trim line.toList))

def leaves (line : String) : Bool :=
  command line = "quit" || command line = "exit"

/-- What is printed for a line that does not end the session. -/
def reply (settings : Settings) (style : Style) (line : String) : Except DisplayError String :=
  if Formula.isBlank line then .ok ""
  else if command line = "help" then .ok Session.help
  else (Outcome.ofSource settings (some line)).print settings style.format style.decimals

private theorem trim_isEmpty (line : String) : (Text.trim line.toList).isEmpty = Formula.isBlank line := by
  rw [Bool.eq_iff_iff, List.isEmpty_iff, trim_eq_nil_iff, Formula.isBlank, List.all_eq_true]

theorem readLine_eq (line : String) :
    Session.readLine line =
      if Formula.isBlank line then .nothing
      else if command line = "help" then .help
      else if leaves line then .quit
      else .formula (String.ofList (Text.trim line.toList)) := by
  unfold Session.readLine
  simp only [trim_isEmpty]
  split
  next => rfl
  next =>
    split
    next help =>
      have asked : command line = "help" := help
      rw [if_pos asked]
    next quit =>
      have asked : command line = "quit" := quit
      simp [asked, leaves]
    next exit =>
      have asked : command line = "exit" := exit
      simp [asked, leaves]
    next help quit exit =>
      have other : command line ≠ "help" := help
      have stays : ¬ leaves line := by simpa [leaves] using ⟨quit, exit⟩
      rw [if_neg other, if_neg stays]

theorem leaves_readLine {line : String} (left : leaves line) : Session.readLine line = .quit := by
  have present : Formula.isBlank line = false := by
    rw [← trim_isEmpty, ← Bool.not_eq_true, List.isEmpty_iff]
    intro blank
    simp [leaves, command, blank, Text.lower, Text.lowerAfter] at left
  have other : command line ≠ "help" := by
    intro help
    simp [leaves, help] at left
  simp [readLine_eq, present, other, left]

section
variable {settings : Settings} {style : Style} {line : String} {rest : List String}

theorem converse_leaves (left : leaves line) :
    Session.converse settings style (line :: rest) = { output := Session.prompt ++ Session.farewell } := by
  rw [Session.converse_cons, leaves_readLine left]

/-- What is logged of a line. -/
def noted (settings : Settings) (line : String) : List Log.Event :=
  match Session.readLine line with
  | .formula source => Formula.journal settings (some source)
  | _ => []

theorem converse_stays {text : String} (stays : leaves line = false) (replied : reply settings style line = .ok text) :
    Session.converse settings style (line :: rest) =
      .after (Session.prompt ++ text) (noted settings line) (Session.converse settings style rest) := by
  rw [Session.converse_cons, noted, readLine_eq, stays]
  unfold reply at replied
  split at replied
  next blank =>
    obtain rfl := Except.ok.inj replied
    simp [blank]
  next =>
    split at replied
    next present help =>
      obtain rfl := Except.ok.inj replied
      simp [present, help]
    next present other =>
      have answered : Session.answer settings style (String.ofList (Text.trim line.toList)) = .ok text := by
        rwa [Session.answer, ofSource_trim]
      simp [present, other, answered]

/-- What is printed from the first prompt on, if `answer` is what is printed for each line. -/
def dialogue (answer : String → String) (lines : List String) : String :=
  String.join ((lines.takeWhile (!leaves ·)).map fun line => Session.prompt ++ answer line) ++ Session.prompt ++
    (if lines.any leaves then "" else "\n") ++ Session.farewell

theorem converse_dialogue {answer : String → String}
    (answers : ∀ line, leaves line = false → reply settings style line = .ok (answer line)) (lines : List String) :
    Session.converse settings style lines = {
      output := dialogue answer lines, events := (lines.takeWhile (!leaves ·)).flatMap (noted settings) } := by
  induction lines with
  | nil => rfl
  | cons line rest ih =>
    cases left : leaves line with
    | true => simp [converse_leaves left, dialogue, left]
    | false =>
      rw [converse_stays left (answers line left), ih]
      simp [Session.Transcript.after, dialogue, left, String.append_assoc]

end

/-- Nothing is asked for that would be done instead of a session. -/
structure Conversing (request : Request) : Prop where
  version : request.version = false
  healthCheck : request.healthCheck = false
  message : request.message = none
  expression : request.expression = none

theorem perform_conversing {request : Request} {asked : Option Int} (settings : Settings) (numerics input : String)
    (conversing : Conversing request) (places : request.precision = asked.map .value) :
    Command.perform settings numerics request input =
      Command.session settings ⟨Command.format request, asked.filter (0 ≤ ·)⟩ input := by
  obtain ⟨version, check, message, expression⟩ := conversing
  rw [Command.perform, Command.task, decimals_usual places, message, expression]
  simp [version, check]

theorem exists_reply {settings : Settings} {style : Style} (fits : Fits (style.decimals.getD settings.places))
    (line : String) : ∃ text, reply settings style line = .ok text := by
  unfold reply
  split
  next => exact ⟨_, rfl⟩
  next =>
    split
    next => exact ⟨_, rfl⟩
    next => exact Endings.print_ok_iff.mpr fun _ _ _ => fits

section
variable {settings : Settings} {style : Style}

set_option maxRecDepth 2000 in
private theorem help_plain : 'G' ∉ Session.help.toList :=
  plain_append (plain_append (plain_literal rfl) (plain_literal rfl)) (plain_literal rfl)

private theorem reply_quiet {line text : String} (replied : reply settings style line = .ok text) :
    Quiet text.toList := by
  unfold reply at replied
  split at replied
  next =>
    obtain rfl := Except.ok.inj replied
    exact .of_plain (plain_literal rfl)
  next =>
    split at replied
    next =>
      obtain rfl := Except.ok.inj replied
      exact .of_plain help_plain
    next => exact print_quiet replied

/-- The farewell stands at the end of a session and nowhere else. -/
theorem dialogue_once {answer : String → String}
    (answers : ∀ line, leaves line = false → reply settings style line = .ok (answer line)) {lines : List String}
    {before after : String} (same : Session.banner ++ dialogue answer lines = before ++ Session.farewell ++ after) :
    after = "" := by
  have banner : Quiet Session.banner.toList := .of_plain (plain_literal rfl)
  have prompt : Quiet Session.prompt.toList := .of_plain (plain_literal rfl)
  have turns :
      Quiet (String.join ((lines.takeWhile (!leaves ·)).map fun line => Session.prompt ++ answer line)).toList := by
    rw [String.toList_join]
    refine .flatMap fun turn member => ?_
    obtain ⟨line, said, rfl⟩ := List.mem_map.mp member
    have stays := List.mem_takeWhile_imp said
    rw [String.toList_append]
    exact prompt.append (reply_quiet (answers line (by simpa using stays)))
  have gap : Quiet (if lines.any leaves then "" else "\n").toList := by
    split <;> exact .of_plain (plain_literal rfl)
  have whole := congrArg String.toList same
  simp only [dialogue, String.toList_append, ← List.append_assoc] at whole
  have nothing := farewell_once (((banner.append turns).append prompt).append gap) whole
  simpa using nothing

/-- What stands behind a line that ends the session makes no difference. -/
theorem converse_append {line : String} (left : leaves line) (said rest : List String) :
    Session.converse settings style (said ++ line :: rest) = Session.converse settings style (said ++ [line]) := by
  induction said with
  | nil => rw [List.nil_append, List.nil_append, converse_leaves left, converse_leaves left]
  | cons first said ih => rw [List.cons_append, List.cons_append, Session.converse, Session.converse, ih]

end

/-- A command that asks for nothing else and can open its log holds a session. What is printed for a line depends on
this line alone. -/
theorem report_dialogue (settings : Settings) (numerics stamp : String) (opening : Log.Opening) {words : List String}
    {request : Request} {asked : Option Int} {level : Int} {channel : Log.Channel}
    (parsed : Request.parse words = .ok request) (conversing : Conversing request)
    (places : request.precision = asked.map .value) (fits : Fits (effective settings asked))
    (known : Command.level settings request = .ok level)
    (opened : ({} : Log.Channel).setUp level (Command.logFile request) opening = .ok channel) :
    ∃ answer : String → String,
      (∀ line, leaves line = false →
        reply settings ⟨Command.format request, asked.filter (0 ≤ ·)⟩ line = .ok (answer line)) ∧
      (∀ input, ∃ lines, Lines input lines ∧
        Shows (Command.report settings numerics stamp words input opening) (Session.banner ++ dialogue answer lines)
          0) ∧
      (∀ input before after,
        (Command.report settings numerics stamp words input opening).output = before ++ Session.farewell ++ after →
          after = "") ∧
      ∀ said line rest rest' input other, leaves line → Lines input (said ++ line :: rest) →
        Lines other (said ++ line :: rest') →
        Command.report settings numerics stamp words input opening =
          Command.report settings numerics stamp words other opening := by
  have replied : ∀ line, ∃ text, reply settings ⟨Command.format request, asked.filter (0 ≤ ·)⟩ line = .ok text :=
    exists_reply fits
  choose answer answers using replied
  have shows (input : String) : Shows (Command.report settings numerics stamp words input opening)
      (Session.banner ++ dialogue answer (Text.lines input)) 0 := by
    refine Shows.of_performed (report_opened numerics stamp input opening parsed known opened) ?_
    rw [perform_conversing settings numerics input conversing places, Command.session, Session.run,
      converse_dialogue fun line _ => answers line]
    exact ⟨rfl, rfl⟩
  refine ⟨answer, fun line _ => answers line, fun input => ⟨_, lines_lines input, shows input⟩, ?_, ?_⟩
  · intro input before after same
    exact dialogue_once (fun line _ => answers line) ((shows input).output.symm.trans same)
  · intro said line rest rest' input other left cut cut'
    have same : Command.perform settings numerics request input = Command.perform settings numerics request other := by
      rw [perform_conversing settings numerics input conversing places,
        perform_conversing settings numerics other conversing places, Command.session, Command.session, Session.run,
        Session.run, cut.unique, cut'.unique, converse_append left said rest, converse_append left said rest']
    rw [Command.report, Command.report, parsed]
    simp only [known, opened, same]

theorem report_dialogue_quit :
    Request.parse ["-p", "3"] = .ok { precision := some (.value 3) } ∧
    ∃ answer : String → String, answer "1/3" = "0.333\n" ∧ answer " " = "" ∧
      Shows (Command.report {} "" "" ["-p", "3"] "1/3\n \n Quit\n1/0")
        (Session.banner ++ dialogue answer ["1/3", " ", " Quit", "1/0"]) 0 := by
  have parsed : Request.parse ["-p", "3"] = .ok { precision := some (.value 3) } := by decide +kernel
  have known : Command.level {} { precision := some (.value 3) } = .ok 30 := by decide +kernel
  have places : (some (.value 3) : Option (Argument Int)) = (some 3).map .value := rfl
  obtain ⟨answer, answers, shows, -⟩ :=
    report_dialogue {} "" "" (({} : Log.Folder).locate []) parsed ⟨rfl, rfl, rfl, rfl⟩ places ⟨by decide, by decide⟩
      known rfl
  obtain ⟨lines, cut, shown⟩ := shows "1/3\n \n Quit\n1/0"
  obtain rfl : ["1/3", " ", " Quit", "1/0"] = lines := by
    rw [← cut.unique]
    decide
  have third : reply {} ⟨.human, some 3⟩ "1/3" = .ok "0.333\n" := by decide +kernel
  have blank : reply {} ⟨.human, some 3⟩ " " = .ok "" := by decide +kernel
  refine ⟨parsed, answer, ?_, ?_, shown⟩
  · exact Except.ok.inj ((answers "1/3" (by decide +kernel)).symm.trans third)
  · exact Except.ok.inj ((answers " " (by decide +kernel)).symm.trans blank)

end Reckoner.Proofs.Dialogue
