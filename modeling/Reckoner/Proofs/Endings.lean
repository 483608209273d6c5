import Reckoner.Proofs.CommandLine
import Reckoner.Proofs.Showing

/-! How commands end. A command that is understood ends with an exit code unless a value that it has to show needs a
number of places that cannot be had, or an option was left without the value that is looked for. -/

namespace Reckoner.Proofs.Endings
open Options CommandLine Showing

/-- The value of a formula, if it has one, can be shown. -/
def Showable (settings : Settings) (places : Int) (source : String) : Prop :=
  ∀ value, Formula.value settings (some source) = .ok value → Fractional value → Fits places

private theorem exists_map_ok {ε α β : Type} {result : Except ε α} {f : α → β} :
    (∃ b, result.map f = .ok b) ↔ ∃ a, result = .ok a := by
  cases result <;> simp [Except.map]

section
variable {settings : Settings} {format : Format} {decimals : Option Int} {source : String}

/-- Both formats ask for the same. A value that has no literal is no obstacle to a success. -/
theorem print_ok_iff :
    (∃ text, (Outcome.ofSource settings (some source)).print settings format decimals = .ok text) ↔
      Showable settings (decimals.getD settings.places) source := by
  unfold Showable Outcome.ofSource Outcome.print Outcome.ofResult
  cases Formula.value settings (some source) with
  | error failure => cases format <;> simp [members_failure, Outcome.human, exists_map_ok]
  | ok value => cases format <;> simp [members_success, Outcome.human, exists_map_ok, value_ok_iff]

theorem reply_ok_iff {trigger message : String} :
    (∃ reply, Chat.reply settings trigger decimals (some message) = .ok reply) ↔
      ∀ source ∈ Chat.expression? trigger message, source.isEmpty = false →
        Showable settings (decimals.getD settings.places) source := by
  unfold Showable
  rw [Chat.reply]
  cases found : Chat.expression? trigger message with
  | none => simp
  | some source =>
    cases present : source.isEmpty with
    | true => simp [String.isEmpty_iff.mp present]
    | false =>
      simp only [Option.mem_some_iff, forall_eq', present, forall_const, Bool.false_eq_true, ↓reduceIte]
      cases Formula.value settings (some source) with
      | error failure => simp
      | ok value => simp [exists_map_ok, value_ok_iff]

end

/-- The formulas that a session is given before it is left. -/
def typed : List String → List String
  | [] => []
  | line :: rest =>
    match Session.readLine line with
    | .nothing | .help => typed rest
    | .quit => []
    | .formula source => source :: typed rest

theorem converse_whole_iff {settings : Settings} {style : Style} {lines : List String} :
    (Session.converse settings style lines).error = none ↔
      ∀ source ∈ typed lines, Showable settings (style.decimals.getD settings.places) source := by
  induction lines with
  | nil => simp [Session.converse_nil, typed]
  | cons line rest ih =>
    rw [Session.converse_cons, typed]
    cases Session.readLine line with
    | nothing => exact ih
    | help => exact ih
    | quit => simp
    | formula source =>
      have first := @print_ok_iff settings style.format style.decimals source
      rw [List.forall_mem_cons, ← ih, ← first]
      change (Session.Transcript.error _ = none) ↔ (∃ text, Session.answer settings style source = .ok text) ∧ _
      cases answered : Session.answer settings style source <;> simp [answered, Session.Transcript.after]

/-- A run that comes to an exit code, which says whether there was a result. -/
def Finishes (run : Command.Run) : Prop :=
  ∃ code ≤ 1, run.ending = .ok code

theorem not_finishes {run : Command.Run} {breakage : Command.Breakage} (ended : run.ending = .error breakage) :
    ¬ Finishes run := by
  rintro ⟨code, _, other⟩
  cases ended.symm.trans other

private theorem exitCode_le (success : Bool) : Command.exitCode success ≤ 1 := by
  cases success <;> decide

section
variable {settings : Settings} {style : Style}

theorem calculate_finishes_iff {expression : String} :
    Finishes (Command.calculate settings style expression) ↔
      Showable settings (style.decimals.getD settings.places) (Command.withoutPrompt expression) := by
  have shown := @print_ok_iff settings style.format style.decimals (Command.withoutPrompt expression)
  rw [← shown]
  unfold Finishes Command.calculate
  cases printed : (Outcome.ofSource settings (some (Command.withoutPrompt expression))).print settings style.format
    style.decimals <;> simp [printed, exitCode_le]

theorem chat_finishes_iff {message : String} :
    Finishes (Command.chat settings style message) ↔
      ∀ source ∈ Chat.expression? settings.trigger message, source.isEmpty = false →
        Showable settings (style.decimals.getD settings.places) source := by
  rw [← reply_ok_iff]
  unfold Finishes Command.chat
  cases replied : Chat.reply settings settings.trigger style.decimals (some message) <;> simp [exitCode_le]

theorem session_finishes_iff {input : String} :
    Finishes (Command.session settings style input) ↔
      ∀ source ∈ typed (Text.lines input), Showable settings (style.decimals.getD settings.places) source := by
  rw [← converse_whole_iff]
  have whole : (Session.run settings style input).error = (Session.converse settings style (Text.lines input)).error :=
    rfl
  rw [← whole]
  unfold Finishes Command.session
  cases broke : (Session.run settings style input).error <;> simp [broke]

end

/-- The formulas whose values a request shows. The health check shows none, although its calculations are made. -/
def formulas (settings : Settings) (request : Request) (input : String) : List String :=
  if request.version || request.healthCheck then []
  else
    match request.message, request.expression with
    | some (.value message), _ => (Chat.expression? settings.trigger message).toList.filter (!·.isEmpty)
    | none, some (.value expression) => [Command.withoutPrompt expression]
    | none, none => typed (Text.lines input)
    | _, _ => []

/-- The number of places that a request asks for. -/
def places (request : Request) : Option Int :=
  match request.precision with
  | some (.value places) => some places
  | _ => none

/-- Every option that is looked at has its value. -/
structure Complete (request : Request) : Prop where
  level : request.logLevel ≠ some .nothing
  places : request.precision ≠ some .nothing
  message : request.version = false → request.healthCheck = false → request.message ≠ some .nothing
  expression : request.version = false → request.healthCheck = false → request.message = none →
    request.expression ≠ some .nothing

theorem Complete.aside {request : Request} (level : request.logLevel ≠ some .nothing)
    (places : request.precision ≠ some .nothing) (aside : request.version || request.healthCheck) :
    Complete request := by
  refine ⟨level, places, ?_, ?_⟩
  · intro version check
    simp [version, check] at aside
  · intro version check
    simp [version, check] at aside

theorem complete_iff {request : Request} (level : request.logLevel ≠ some .nothing)
    (places : request.precision ≠ some .nothing) (version : request.version = false)
    (check : request.healthCheck = false) :
    Complete request ↔
      request.message ≠ some .nothing ∧ (request.message = none → request.expression ≠ some .nothing) := by
  constructor
  · intro complete
    exact ⟨complete.message version check, complete.expression version check⟩
  · rintro ⟨message, expression⟩
    exact ⟨level, places, fun _ _ => message, fun _ _ => expression⟩

theorem perform_finishes_iff {settings : Settings} {numerics input : String} {request : Request}
    (level : request.logLevel ≠ some .nothing) :
    Finishes (Command.perform settings numerics request input) ↔
      Complete request ∧
        ∀ source ∈ formulas settings request input, Showable settings (effective settings (places request)) source := by
  rcases eq_or_ne request.precision (some .nothing) with missing | known
  · have refused : Command.decimals request = .error .noNumber := by
      rw [Command.decimals, missing]
    rw [Command.perform, Command.task, refused]
    exact iff_of_false (not_finishes rfl) fun both => both.1.places missing
  · have given : request.precision = (places request).map .value := by
      unfold places
      rcases asked : request.precision with _ | _ | _
      · rfl
      · rfl
      · exact absurd asked known
    rw [Command.perform, Command.task, decimals_usual given, effective, formulas]
    by_cases aside : request.version || request.healthCheck
    · rw [if_pos aside]
      refine iff_of_true ?_ ⟨.aside level known aside, List.forall_mem_nil _⟩
      cases version : request.version with
      | true => exact ⟨0, by decide, rfl⟩
      | false =>
        have check : request.healthCheck = true := by simpa [version] using aside
        simp only [check, Bool.false_eq_true, ↓reduceIte]
        exact ⟨_, exitCode_le _, rfl⟩
    · rw [if_neg aside]
      obtain ⟨version, check⟩ : request.version = false ∧ request.healthCheck = false := by simpa using aside
      simp only [version, check, Bool.false_eq_true, ↓reduceIte]
      rw [complete_iff level known version check]
      have lost : ¬ Finishes { ending := .error .noText } := not_finishes rfl
      rcases request.message with _ | message | _
      · rcases request.expression with _ | expression | _
        · simp [session_finishes_iff]
        · simp [calculate_finishes_iff]
        · simp [lost]
      · simp [chat_finishes_iff]
      · simp [lost]

/-- A command that is understood and keeps no log file ends with 0 or 1 unless an option lacks its value, or it has to
show a number that is not whole with a number of places that cannot be had. -/
theorem report_exits_iff {settings : Settings} {request : Request} {words : List String}
    (numerics stamp input : String) (opening : Log.Opening) (parsed : Request.parse words = .ok request)
    (file : request.logFile = none) :
    (∃ code ≤ 1, (Command.report settings numerics stamp words input opening).ending = .exit code) ↔
      Complete request ∧
        ∀ source ∈ formulas settings request input, Showable settings (effective settings (places request)) source := by
  have unused : Command.logFile request = none := by
    rw [Command.logFile, file]
  rcases level : Command.level settings request with missing | known
  · have nothing : request.logLevel = some .nothing := by
      rcases given : request.logLevel with _ | _ | _
      · simp [Command.level, given] at level
      · simp [Command.level, given] at level
      · rfl
    rw [Command.report, parsed]
    simp only [level]
    constructor
    · rintro ⟨code, _, ended⟩
      cases ended
    · rintro ⟨complete, -⟩
      exact absurd nothing complete.level
  · have named : request.logLevel ≠ some .nothing := by
      intro nothing
      rw [Command.level, nothing] at level
      cases level
    have performed := report_performed numerics stamp input opening parsed level unused
    rw [← perform_finishes_iff named]
    constructor
    · rintro ⟨code, small, ended⟩
      cases ran : (Command.perform settings numerics request input).ending with
      | ok other =>
        have same := (performed.exit other ran).symm.trans ended
        exact ⟨code, small, by rw [ran, Command.Ending.exit.inj same]⟩
      | error breakage => cases (performed.broken breakage ran).symm.trans ended
    · rintro ⟨code, small, ended⟩
      exact ⟨code, small, performed.exit code ended⟩

theorem report_exits_most :
    Request.parse ["-p", "2147483647", "--json", "-e", "1/3"] =
      .ok { precision := some (.value 2147483647), json := true, expression := some (.value "1/3") } ∧
    ∃ code ≤ 1, (Command.report { places := -1 } "" "" ["-p", "2147483647", "--json", "-e", "1/3"] "").ending =
      .exit code := by
  have parsed : Request.parse ["-p", "2147483647", "--json", "-e", "1/3"] =
      .ok { precision := some (.value 2147483647), json := true, expression := some (.value "1/3") } := by
    decide +kernel
  refine ⟨parsed, (report_exits_iff "" "" "" _ parsed rfl).mpr ⟨⟨nofun, nofun, nofun, nofun⟩, ?_⟩⟩
  intro source _ value _ _
  exact ⟨by decide, by decide⟩

/-- Numbers of places that cannot be had are let through from the command line and from the environment, and so is an
option without its value. -/
theorem report_breaks :
    Request.parse ["-e", "pi", "-p", "2147483648"] =
      .ok { expression := some (.value "pi"), precision := some (.value 2147483648) } ∧
    (Command.report {} "" "" ["-e", "pi", "-p", "2147483648"] "").ending = .broken (.unshown .tooManyPlaces) ∧
    Request.parse ["-e", "pi"] = .ok { expression := some (.value "pi") } ∧
    (Command.report { places := -1 } "" "" ["-e", "pi"] "").ending = .broken (.unshown .negativePlaces) ∧
    Request.parse ["--message=--"] = .ok { message := some .nothing } ∧
    (Command.report {} "" "" ["--message=--"] "").ending = .broken .noText := by
  refine ⟨?_, ?_, ?_, ?_, ?_, ?_⟩ <;> decide +kernel

end Reckoner.Proofs.Endings
