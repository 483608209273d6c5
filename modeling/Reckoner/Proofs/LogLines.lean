import Reckoner.Command
import Reckoner.Proofs.Breaks

/-! No text from outside makes a line of the log. Whoever breaks the log into lines, at a line feed or at any of the
characters that pass for one, finds the events that were let through and nothing else. -/

namespace Reckoner.Proofs.LogLines
open Text Log Breaks

/-- The lines of a text. Nothing begins behind a break at its end, and two breaks side by side have an empty line
between them. -/
def physical (text : String) : List String :=
  let pieces := (text.toList.splitOnP isBreak).map String.ofList
  if pieces.getLast? = some "" then pieces.dropLast else pieces

theorem unbroken_loggerName {name : String} (unbroken : Unbroken name.toList) : Unbroken (loggerName name).toList :=
  ((Unbroken.literal rfl).text (.literal rfl)).text unbroken

theorem clean_scanned (source : Option String) (tokens : List Token) : Clean (Formula.scanned source tokens) :=
  ⟨unbroken_loggerName (.literal rfl), .literal rfl⟩

theorem clean_reduced (tokens : List Token) (value : Float) : Clean (Formula.reduced tokens value) :=
  ⟨unbroken_loggerName (.literal rfl), .text (.literal rfl) (unbroken_floatText value)⟩

section
variable {failure : Failure} (unbroken : Unbroken failure.message.toList)
include unbroken

theorem clean_failed (source : Option String) : Clean (Formula.failed source failure) :=
  ⟨unbroken_loggerName (.literal rfl), .text (.literal rfl) unbroken⟩

theorem clean_rejected (trigger expression : String) : Clean (Chat.rejected trigger expression failure) :=
  ⟨unbroken_loggerName (.literal rfl), .text (.literal rfl) unbroken⟩

end

/-- What an evaluation logs: whether the formula was read, and if so, what came of its tokens. -/
inductive Told (settings : Settings) (source : Option String) : List Event → Prop
  | unread (failure : Failure) (read : Formula.tokens settings source = .error failure) :
      Told settings source [Formula.failed source failure]
  | failed (tokens : List Token) (failure : Failure) (read : Formula.tokens settings source = .ok tokens)
      (reduced : Stacks.reduce tokens = .error failure) :
      Told settings source [Formula.scanned source tokens, Formula.failed source failure]
  | reduced (tokens : List Token) (value : Float) (read : Formula.tokens settings source = .ok tokens)
      (reduced : Stacks.reduce tokens = .ok value) :
      Told settings source [Formula.scanned source tokens, Formula.reduced tokens value]

theorem told_journal (settings : Settings) (source : Option String) :
    Told settings source (Formula.journal settings source) := by
  unfold Formula.journal
  split
  next failure read => exact .unread failure read
  next tokens read =>
    split
    next value reduced => exact .reduced tokens value read reduced
    next failure reduced => exact .failed tokens failure read reduced

theorem Told.clean {settings : Settings} {source : Option String} {events : List Event}
    (told : Told settings source events) : ∀ event ∈ events, Clean event := by
  cases told with
  | unread failure read => simpa using clean_failed (tokens_unbroken read) source
  | failed tokens failure read reduced =>
    simpa using ⟨clean_scanned source tokens, clean_failed (evaluation_unbroken (Codes.reduce_error reduced)) source⟩
  | reduced tokens value read reduced => simpa using ⟨clean_scanned source tokens, clean_reduced tokens value⟩

theorem clean_formula (settings : Settings) (source : Option String) :
    ∀ event ∈ Formula.journal settings source, Clean event :=
  (told_journal settings source).clean

/-- The formula that a message has evaluated, if it has one. -/
def evaluated? (trigger : String) (message : Option String) : Option String :=
  (message.bind (Chat.expression? trigger)).filter fun expression => !expression.isEmpty

/-- What a message logs: nothing but an evaluation, and the rejection if that failed. -/
inductive Said (settings : Settings) (trigger : String) (message : Option String) : List Event → Prop
  | nothing (unasked : evaluated? trigger message = none) : Said settings trigger message []
  | answered (expression : String) (value : Float) (asked : evaluated? trigger message = some expression)
      (valued : Formula.value settings (some expression) = .ok value) :
      Said settings trigger message (Formula.journal settings (some expression))
  | rejected (expression : String) (failure : Failure) (asked : evaluated? trigger message = some expression)
      (failed : Formula.value settings (some expression) = .error failure) :
      Said settings trigger message
        (Formula.journal settings (some expression) ++ [Chat.rejected trigger expression failure])

theorem said_journal (settings : Settings) (trigger : String) (message : Option String) :
    Said settings trigger message (Chat.journal settings trigger message) := by
  unfold Chat.journal
  cases addressed : message.bind (Chat.expression? trigger) with
  | none => exact .nothing (by rw [evaluated?, addressed]; rfl)
  | some expression =>
    dsimp only
    split
    next empty => exact .nothing (by rw [evaluated?, addressed, Option.filter_some, empty]; rfl)
    next full =>
      have asked : evaluated? trigger message = some expression := by
        rw [evaluated?, addressed, Option.filter_some, Bool.eq_false_iff.mpr full]
        rfl
      split
      next failure failed => exact .rejected expression failure asked failed
      next value valued =>
        rw [List.append_nil]
        exact .answered expression value asked valued

theorem Said.clean {settings : Settings} {trigger : String} {message : Option String} {events : List Event}
    (said : Said settings trigger message events) : ∀ event ∈ events, Clean event := by
  cases said with
  | nothing => exact fun _ => nofun
  | answered expression => exact clean_formula settings (some expression)
  | rejected expression failure _ failed =>
    have last := clean_rejected (value_unbroken failed) trigger expression
    exact List.forall_mem_append.mpr ⟨clean_formula settings (some expression), List.forall_mem_singleton.mpr last⟩

theorem clean_chat (settings : Settings) (trigger : String) (message : Option String) :
    ∀ event ∈ Chat.journal settings trigger message, Clean event :=
  (said_journal settings trigger message).clean

theorem clean_converse (settings : Settings) (style : Style) (lines : List String) :
    ∀ event ∈ (Session.converse settings style lines).events, Clean event := by
  induction lines with
  | nil => exact fun _ => nofun
  | cons line rest ih =>
    rw [Session.converse_cons]
    split
    next => exact ih
    next => exact ih
    next => exact fun _ => nofun
    next source _ =>
      dsimp only
      split
      next => exact List.forall_mem_append.mpr ⟨clean_formula settings _, ih⟩
      next => exact clean_formula settings _

theorem unbroken_boolText (value : Bool) : Unbroken (boolText value).toList := by
  cases value <;> exact .literal rfl

theorem unbroken_inspectOption {α : Type} {write : α → String} (each : ∀ value, Unbroken (write value).toList)
    (given : Option (Options.Argument α)) : Unbroken (Options.Request.inspectOption write given).toList := by
  rcases given with _ | _ | _
  · exact .literal rfl
  · exact each _
  · exact .literal rfl

theorem unbroken_inspect (request : Options.Request) : Unbroken request.inspect.toList := by
  have format : Unbroken (request.format.inspect fun format => quote format.name).toList := by
    cases request.format with
    | value format => exact unbroken_quote _
    | nothing => exact .literal rfl
  have texts := unbroken_inspectOption unbroken_quote
  have numbers (given : Option (Options.Argument ℤ)) :=
    unbroken_inspectOption unbroken_int given
  unfold Options.Request.inspect
  refine .text ?_ (.literal rfl)
  refine .entry ?_ rfl (unbroken_boolText request.healthCheck)
  refine .entry ?_ rfl (texts request.logFile)
  refine .entry ?_ rfl (texts request.logLevel)
  refine .entry ?_ rfl (unbroken_boolText request.version)
  refine .entry ?_ rfl (numbers request.precision)
  refine .entry ?_ rfl format
  refine .entry ?_ rfl (unbroken_boolText request.json)
  refine .entry ?_ rfl (texts request.message)
  exact .text (.literal rfl) (texts request.expression)

theorem clean_received (request : Options.Request) : Clean (Command.received request) :=
  ⟨unbroken_loggerName (.literal rfl), .text (.literal rfl) (unbroken_inspect request)⟩

section
variable (settings : Settings)

theorem clean_healthCheck : ∀ event ∈ HealthCheck.journal settings, Clean event := by
  unfold HealthCheck.journal
  refine List.forall_mem_append.mpr ⟨List.forall_mem_append.mpr ⟨?_, ?_⟩, ?_⟩
  · exact clean_formula settings _
  · exact clean_formula settings _
  · exact clean_chat settings _ _

theorem clean_message (style : Style) (message : String) :
    ∀ event ∈ (Command.chat settings style message).events, Clean event := by
  have clean := clean_chat settings settings.trigger (some message)
  unfold Command.chat
  dsimp only
  split <;> exact clean

theorem clean_calculate (style : Style) (expression : String) :
    ∀ event ∈ (Command.calculate settings style expression).events, Clean event := by
  unfold Command.calculate
  generalize Command.withoutPrompt expression = source
  have clean := clean_formula settings (some source)
  dsimp only
  split <;> exact clean

theorem clean_session (style : Style) (input : String) :
    ∀ event ∈ (Command.session settings style input).events, Clean event := by
  have clean := clean_converse settings style (Text.lines input)
  simp only [Command.session, Session.run, Session.Transcript.after, List.nil_append]
  exact clean

theorem clean_perform (numerics : String) (request : Options.Request) (input : String) :
    ∀ event ∈ (Command.perform settings numerics request input).events, Clean event := by
  unfold Command.perform Command.task
  cases Command.decimals request with
  | error breakage => exact fun _ => nofun
  | ok decimals =>
    dsimp only
    split_ifs
    · exact fun _ => nofun
    · exact clean_healthCheck settings
    · rcases request.message with _ | message | _
      · rcases request.expression with _ | expression | _
        · exact clean_session settings _ _
        · exact clean_calculate settings _ _
        · exact fun _ => nofun
      · exact clean_message settings _ _
      · exact fun _ => nofun

end

/-- Whatever reports events: an evaluation, a message of a chat, or the command. -/
inductive Reporter
  | evaluate (source : Option String)
  | chat (trigger : String) (message : Option String)
  | command (numerics : String) (request : Options.Request) (input : String)

def Reporter.events (settings : Settings) : Reporter → List Event
  | .evaluate source => Formula.journal settings source
  | .chat trigger message => Chat.journal settings trigger message
  | .command numerics request input =>
    Command.received request :: (Command.perform settings numerics request input).events

theorem Reporter.clean (settings : Settings) (reporter : Reporter) : ∀ event ∈ reporter.events settings, Clean event := by
  cases reporter with
  | evaluate source => exact clean_formula settings source
  | chat trigger message => exact clean_chat settings trigger message
  | command numerics request input =>
    exact List.forall_mem_cons.mpr ⟨clean_received request, clean_perform settings numerics request input⟩

/-- An event with the time at which it was made. -/
structure Entry where
  stamp : String
  event : Event

namespace Entry

def line (entry : Entry) : String :=
  entry.event.line entry.stamp none

/-- Events with their times, the first one first. -/
def stamped (clock : ℕ → String) (events : List Event) : List Entry :=
  events.mapIdx fun i event => ⟨clock i, event⟩

end Entry

/-- A log with entries recorded in it. -/
def recordAll (channel : Channel) (entries : List Entry) : Channel :=
  entries.foldl (fun channel entry => channel.record entry.stamp entry.event) channel

/-- What entries add to an output that gets a text of each. -/
def written (text : String → Event → String) (entries : List Entry) : String :=
  entries.foldr (fun entry rest => text entry.stamp entry.event ++ rest) ""

/-- The lines of the entries that a hub lets through. -/
def lines (hub : Hub) (entries : List Entry) : List String :=
  (entries.filter fun entry => hub.accepts entry.event).map Entry.line

theorem console_recordAll (channel : Channel) (entries : List Entry) :
    (recordAll channel entries).console = channel.console ++ written channel.hub.consoleText entries := by
  induction entries generalizing channel with
  | nil => exact String.append_empty.symm
  | cons entry rest ih =>
    have recorded := ih (channel.record entry.stamp entry.event)
    rw [Channel.record, String.append_assoc] at recorded
    exact recorded

section
variable (level : ℤ) (file : Option String)

theorem consoleText_setUp (stamp : String) (event : Event) :
    (Hub.setUp level file).consoleText stamp event =
      if (Hub.setUp level file).accepts event then event.line stamp none ++ "\n" else "" := by
  have console : (Hub.setUp level file).sinks.contains .console = true := by
    simp [Hub.setUp]
  have some : (Hub.setUp level file).sinks.isEmpty = false := by
    simp [Hub.setUp]
  rw [Hub.consoleText, console, some]
  cases (Hub.setUp level file).accepts event <;> rfl

theorem fileText_setUp : (Hub.setUp level file).fileText = (Hub.setUp level file).consoleText := by
  funext stamp event
  rw [consoleText_setUp, Hub.fileText]

/-- Each line ends at the break that is written behind it. -/
theorem splitOnP_written {entries : List Entry} (unbroken : ∀ entry ∈ entries, Unbroken entry.line.toList) :
    (written (Hub.setUp level file).consoleText entries).toList.splitOnP isBreak =
      (lines (.setUp level file) entries).map String.toList ++ [[]] := by
  induction entries with
  | nil => exact List.splitOnP_nil
  | cons entry rest ih =>
    have ⟨first, others⟩ := List.forall_mem_cons.mp unbroken
    have tail := ih others
    have line : entry.event.line entry.stamp none = entry.line := rfl
    have feed : "\n".toList = ['\n'] := rfl
    rw [written, List.foldr_cons, ← written, consoleText_setUp, lines, List.filter_cons, line]
    split
    next accepted =>
      rw [String.toList_append, String.toList_append, feed, List.append_assoc, List.singleton_append,
        List.splitOnP_append_cons_of_forall_mem first '\n' rfl, tail]
      rfl
    next => rwa [String.empty_append]

theorem physical_written {entries : List Entry} (unbroken : ∀ entry ∈ entries, Unbroken entry.line.toList) :
    physical (written (Hub.setUp level file).consoleText entries) = lines (.setUp level file) entries := by
  have back : String.ofList ∘ String.toList = id := funext fun _ => String.ofList_toList
  have pieces := congrArg (List.map String.ofList) (splitOnP_written level file unbroken)
  rw [List.map_append, List.map_map, back, List.map_id, List.map_singleton, String.ofList_nil] at pieces
  rw [physical, pieces, List.getLast?_append, List.getLast?_singleton, Option.some_or, if_pos rfl, List.dropLast_concat]

end

/-- The lines that are found on the console once events were logged. -/
def printed (level : ℤ) (file : Option String) (clock : ℕ → String) (events : List Event) : List String :=
  physical (recordAll { hub := .setUp level file } (Entry.stamped clock events)).console

/-- What a log holds of events: each that is let through stands on a line of its own, and there is no other line. -/
structure Unforged (clock : ℕ → String) (events : List Event) : Prop where
  unbroken : ∀ entry ∈ Entry.stamped clock events, Unbroken entry.line.toList
  console : ∀ level file, printed level file clock events = lines (.setUp level file) (Entry.stamped clock events)
  file : ∀ level file, physical (written (Hub.setUp level file).fileText (Entry.stamped clock events)) =
    lines (.setUp level file) (Entry.stamped clock events)

theorem events_stamped (clock : ℕ → String) (events : List Event) :
    (Entry.stamped clock events).map Entry.event = events := by
  simp [Entry.stamped, List.ext_getElem_iff]

section
variable {clock : ℕ → String} {events : List Event}

theorem unforged_clean (timed : ∀ i, Unbroken (clock i).toList) (clean : ∀ event ∈ events, Clean event) :
    Unforged clock events := by
  have unbroken : ∀ entry ∈ Entry.stamped clock events, Unbroken entry.line.toList := by
    intro entry member
    obtain ⟨i, inside, rfl⟩ := List.mem_mapIdx.mp member
    exact (clean _ (List.getElem_mem inside)).line (timed i)
  refine ⟨unbroken, fun level file => ?_, fun level file => ?_⟩
  · rw [printed, console_recordAll, String.empty_append]
    exact physical_written level file unbroken
  · rw [fileText_setUp]
    exact physical_written level file unbroken

theorem accepts_setUp {level : ℤ} (some : 0 < level) (file : Option String) (event : Event) :
    (Hub.setUp level file).accepts event = decide (level ≤ event.level) := by
  have threshold : (Hub.setUp level file).threshold = level := if_neg some.ne'
  rw [Hub.accepts, threshold, Bool.eq_iff_iff]
  simp only [unset, Bool.and_eq_true, decide_eq_true_eq, and_iff_right_iff_imp]
  exact fun above => decide_eq_true (some.trans_le above)

theorem Unforged.length (unforged : Unforged clock events) {level : ℤ} (some : 0 < level) (file : Option String) :
    (printed level file clock events).length = (events.filter fun event => level ≤ event.level).length := by
  have same := congrArg (List.countP fun event => level ≤ event.level) (events_stamped clock events)
  rw [List.countP_map] at same
  rw [unforged.console, lines, List.length_map, ← List.countP_eq_length_filter, ← List.countP_eq_length_filter, ← same]
  exact List.countP_congr fun entry _ => by simp [accepts_setUp some]

end

/-- The lines of an evaluation. -/
def evaluationLines (settings : Settings) (source : Option String) : ℕ :=
  match Formula.tokens settings source with
  | .error _ => 1
  | .ok _ => 2

/-- The lines that a chat adds to those of an evaluation. -/
def rejectionLines (settings : Settings) (expression : String) : ℕ :=
  match Formula.value settings (some expression) with
  | .error _ => 1
  | .ok _ => 0

section
variable {settings : Settings} {source : Option String} {trigger : String} {message : Option String}
  {events : List Event}

theorem Told.debug_length (told : Told settings source events) :
    (events.filter fun event => debug ≤ event.level).length = evaluationLines settings source := by
  cases told with
  | unread _ read => rw [evaluationLines, read]; rfl
  | failed _ _ read | reduced _ _ read => rw [evaluationLines, read]; rfl

theorem Told.info_length (told : Told settings source events) :
    (events.filter fun event => info ≤ event.level).length = 0 := by
  cases told <;> rfl

/-- A rejection is heard of at every level up to `info`. -/
theorem Said.length (said : Said settings trigger message events) {level : ℤ} (low : level ≤ info) :
    (events.filter fun event => level ≤ event.level).length =
      (evaluated? trigger message).elim 0 fun expression =>
        ((Formula.journal settings (some expression)).filter fun event => level ≤ event.level).length +
          rejectionLines settings expression := by
  cases said with
  | nothing unasked =>
    rw [unasked]
    rfl
  | answered expression value asked valued =>
    rw [asked, Option.elim_some, rejectionLines, valued]
    rfl
  | rejected expression failure asked failed =>
    have heard : level ≤ (Chat.rejected trigger expression failure).level := low
    rw [asked, Option.elim_some, rejectionLines, failed, List.filter_append, List.length_append,
      List.filter_singleton, decide_eq_true heard]
    rfl

theorem Said.debug_length (said : Said settings trigger message events) :
    (events.filter fun event => debug ≤ event.level).length = (evaluated? trigger message).elim 0 fun expression =>
      evaluationLines settings (some expression) + rejectionLines settings expression := by
  rw [said.length (by decide)]
  simp only [(told_journal settings _).debug_length]

theorem Said.info_length (said : Said settings trigger message events) :
    (events.filter fun event => info ≤ event.level).length =
      (evaluated? trigger message).elim 0 (rejectionLines settings) := by
  rw [said.length le_rfl]
  simp only [(told_journal settings _).info_length, Nat.zero_add]

end

/-- Each event has a line of the log to itself, at any level and whatever was typed. From `debug` on, an evaluation has
one line if the formula is not read and two otherwise. A message has those of the evaluation it asks for, and one more
if that fails, which is the only one from `info` on. -/
theorem reports_unforged (settings : Settings) {clock : ℕ → String}
    (timed : ∀ i, ∃ seconds, Log.stamp seconds = .ok (clock i)) :
    (∀ reporter : Reporter, Unforged clock (reporter.events settings)) ∧
    (∀ source file, Told settings source (Formula.journal settings source) ∧
      (printed debug file clock (Formula.journal settings source)).length = evaluationLines settings source) ∧
    ∀ trigger message file, Said settings trigger message (Chat.journal settings trigger message) ∧
      (printed debug file clock (Chat.journal settings trigger message)).length =
        (evaluated? trigger message).elim 0 (fun expression =>
          evaluationLines settings (some expression) + rejectionLines settings expression) ∧
      (printed info file clock (Chat.journal settings trigger message)).length =
        (evaluated? trigger message).elim 0 (rejectionLines settings) := by
  have unbroken (i : ℕ) : Unbroken (clock i).toList := by
    obtain ⟨seconds, stamped⟩ := timed i
    exact unbroken_stamp stamped
  have unforged (reporter : Reporter) : Unforged clock (reporter.events settings) :=
    unforged_clean unbroken (reporter.clean settings)
  refine ⟨unforged, fun source file => ?_, fun trigger message file => ?_⟩
  · have told := told_journal settings source
    exact ⟨told, ((unforged (.evaluate source)).length (by decide) file).trans told.debug_length⟩
  · have said := said_journal settings trigger message
    have length {level : ℤ} (some : 0 < level) := (unforged (.chat trigger message)).length some file
    exact ⟨said, (length (by decide)).trans said.debug_length, (length (by decide)).trans said.info_length⟩

/-- One second after the epoch. -/
def oneSecond : Float :=
  Float.ofBits 0x3FF0000000000000

theorem reports_unforged_feed :
    (∀ _ : ℕ, ∃ seconds, Log.stamp seconds = .ok "1970-01-01T00:00:01") ∧
    Formula.tokens {} (some "1\n$") = .error (.invalidCharacter '$') ∧
    printed debug none (fun _ => "1970-01-01T00:00:01") (Formula.journal {} (some "1\n$")) =
      ["1970-01-01T00:00:01 [DEBUG] calcbot.api: Evaluation failed: Invalid character: $ " ++
        "code='INVALID_CHARACTER' expression='1\\n$'"] := by
  have timed : ∀ _ : ℕ, ∃ seconds, Log.stamp seconds = .ok "1970-01-01T00:00:01" :=
    fun _ => ⟨oneSecond, by decide +kernel⟩
  have read : Formula.tokens {} (some "1\n$") = .error (.invalidCharacter '$') := by decide +kernel
  have console := ((reports_unforged {} timed).1 (.evaluate (some "1\n$"))).console debug none
  have journal : Formula.journal {} (some "1\n$") = [Formula.failed (some "1\n$") (.invalidCharacter '$')] := by
    rw [Formula.journal, read]
  refine ⟨timed, read, console.trans ?_⟩
  rw [Reporter.events, journal]
  decide +kernel

end Reckoner.Proofs.LogLines
