import Reckoner.Command
import Reckoner.Proofs.Postfix

/-! Command lines that are understood, option by option. A long name may be joined to its value with an equals sign, and
any name may be followed by it, provided that the value does not look like an option. -/

namespace Reckoner.Proofs.CommandLine
open Options

/-- Words that complete a request and leave nothing over. -/
def Makes (request : Request) (words : List String) (made : Request) : Prop :=
  ∃ classified, classifyAll words = .ok classified ∧ gather request classified = .ok (made, [])

theorem parse_ok_iff {words : List String} {request : Request} :
    Request.parse words = .ok request ↔ Makes {} words request := by
  unfold Request.parse Makes
  cases classifyAll words with
  | error stop => simp [bind, Except.bind]
  | ok classified =>
    cases gathered : gather {} classified with
    | error stop => simp [bind, Except.bind, gathered]
    | ok found =>
      obtain ⟨made, extras⟩ := found
      cases extras with
      | nil => simp [bind, Except.bind, gathered, pure, Except.pure]
      | cons extra extras => simp [bind, Except.bind, gathered]

namespace Makes
variable {request next made : Request} {flag : Flag} {name value word : String} {words : List String}

theorem nil : Makes request [] request :=
  ⟨[], rfl, rfl⟩

private theorem classifyAll_cons {first : Word} {others : List Word} (separate : word ≠ "--")
    (known : classify word = .ok first) (rest : classifyAll words = .ok others) :
    classifyAll (word :: words) = .ok (first :: others) := by
  rw [classifyAll, if_neg separate, known]
  simp only [rest]
  rfl

private theorem named_joined (equals : '=' ∈ word.toList) : Flag.named? word = none := by
  have plain : ∀ entry ∈ Flag.table, '=' ∉ entry.1.toList := by decide
  have missing : Flag.table.find? (·.1 = word) = none := by
    apply List.find?_eq_none.mpr
    intro entry member same
    obtain rfl := of_decide_eq_true same
    exact plain entry member equals
  rw [Flag.named?, missing]
  rfl

private theorem classify_joined (value : String) (known : Flag.named? name = some flag)
    (dash : name.toList.head? = some '-') (single : '=' ∉ name.toList) :
    ∃ short, classify (name ++ "=" ++ value) = .ok (.option ⟨flag, short, some value.toList⟩) := by
  have equals : '=' ∈ (name ++ "=" ++ value).toList := by simp
  have plain : ∀ c ∈ name.toList, decide (c ≠ '=') := by
    intro c member
    exact decide_eq_true fun same => single (same ▸ member)
  have front : (name ++ "=" ++ value).toList.takeWhile (· ≠ '=') = name.toList := by
    rw [String.toList_append, String.toList_append, List.append_assoc, List.takeWhile_append_of_pos plain]
    simp
  have back : (name ++ "=" ++ value).toList.dropWhile (· ≠ '=') = '=' :: value.toList := by
    rw [String.toList_append, String.toList_append, List.append_assoc, List.dropWhile_append_of_pos plain]
    simp
  have mention : mention? (name ++ "=" ++ value).toList =
      some ⟨flag, isShort (name ++ "=" ++ value).toList, some value.toList⟩ := by
    rw [mention?, String.ofList_toList, named_joined equals, joined?, back, front, String.ofList_toList, known]
    rfl
  obtain ⟨rest, first⟩ : ∃ rest, (name ++ "=" ++ value).toList = '-' :: rest := by
    obtain ⟨rest, head⟩ := List.head?_eq_some_iff.mp dash
    exact ⟨rest ++ "=".toList ++ value.toList, by rw [String.toList_append, String.toList_append, head]; rfl⟩
  refine ⟨isShort (name ++ "=" ++ value).toList, ?_⟩
  rw [classify, mention]
  simp only [first]

/-- A value after an equals sign. -/
theorem joined (known : Flag.named? name = some flag) (dash : name.toList.head? = some '-')
    (single : '=' ∉ name.toList) (takes : flag.takesValue = true) (assigned : request.assign flag value = .ok next)
    (rest : Makes next words made) : Makes request ((name ++ "=" ++ value) :: words) made := by
  obtain ⟨classified, told, gathered⟩ := rest
  obtain ⟨short, option⟩ := classify_joined value known dash single
  have separate : name ++ "=" ++ value ≠ "--" := by
    intro same
    have equals : '=' ∈ (name ++ "=" ++ value).toList := by simp
    rw [same] at equals
    exact absurd equals (by decide)
  refine ⟨_, classifyAll_cons separate option told, ?_⟩
  have bundle : Bundle.ofMention ⟨flag, short, some value.toList⟩ = .ok ⟨[], .value flag value.toList⟩ := if_pos takes
  rw [gather, bundle]
  change Except.bind (request.assign flag (String.ofList value.toList)) _ = _
  rw [String.ofList_toList, assigned]
  exact gathered

/-- A value in a word of its own. -/
theorem apart (known : Flag.named? name = some flag) (dash : name.toList.head? = some '-')
    (takes : flag.takesValue = true) (plain : classify value = .ok (.plain value)) (name_separate : name ≠ "--")
    (separate : value ≠ "--")
    (assigned : request.assign flag value = .ok next) (rest : Makes next words made) :
    Makes request (name :: value :: words) made := by
  obtain ⟨classified, told, gathered⟩ := rest
  have option : classify name = .ok (.option ⟨flag, isShort name.toList, none⟩) := by
    obtain ⟨rest, first⟩ := List.head?_eq_some_iff.mp dash
    have mention : mention? name.toList = some ⟨flag, isShort name.toList, none⟩ := by
      rw [mention?, String.ofList_toList, known]
    rw [classify, mention]
    simp only [first]
  refine ⟨_, classifyAll_cons name_separate option (classifyAll_cons separate plain told), ?_⟩
  have bundle : Bundle.ofMention ⟨flag, isShort name.toList, none⟩ = .ok ⟨[], .awaits flag⟩ :=
    congrArg Except.ok (if_pos takes)
  rw [gather, bundle]
  change Except.bind (request.assign flag value) _ = _
  rw [assigned]
  exact gathered

end Makes

/-- A negative number of places asks for the usual number, like none at all. -/
def effective (settings : Settings) (asked : Option Int) : Int :=
  (asked.filter (0 ≤ ·)).getD settings.places

theorem decimals_usual {request : Request} {asked : Option Int} (given : request.precision = asked.map .value) :
    Command.decimals request = .ok (asked.filter (0 ≤ ·)) := by
  rw [Command.decimals, given]
  cases asked with
  | none => rfl
  | some places =>
    by_cases nonneg : 0 ≤ places
    · simp [Option.filter, nonneg, Int.not_lt.mpr nonneg]
    · simp [Option.filter, nonneg, Int.not_le.mp nonneg]

/-- With nothing in the way of the log, a command ends as its request does. -/
structure Performed (report : Command.Report) (run : Command.Run) : Prop where
  output : report.output = run.output
  exit : ∀ code, run.ending = .ok code → report.ending = .exit code
  broken : ∀ breakage, run.ending = .error breakage → report.ending = .broken breakage

theorem report_opened {settings : Settings} {request : Request} {words : List String} {level : Int}
    {channel : Log.Channel} (numerics stamp input : String) (opening : Log.Opening)
    (parsed : Request.parse words = .ok request) (known : Command.level settings request = .ok level)
    (opened : ({} : Log.Channel).setUp level (Command.logFile request) opening = .ok channel) :
    Performed (Command.report settings numerics stamp words input opening)
      (Command.perform settings numerics request input) := by
  rw [Command.report, parsed]
  simp only [known, opened]
  constructor
  · rfl
  · intro code ended
    simp only [ended]
  · intro breakage ended
    simp only [ended]

theorem report_performed {settings : Settings} {request : Request} {words : List String} {level : Int}
    (numerics stamp input : String) (opening : Log.Opening) (parsed : Request.parse words = .ok request)
    (known : Command.level settings request = .ok level) (file : Command.logFile request = none) :
    Performed (Command.report settings numerics stamp words input opening)
      (Command.perform settings numerics request input) := by
  have opened :
      ({} : Log.Channel).setUp level (Command.logFile request) opening = .ok { hub := .setUp level none } := by
    rw [file]
    rfl
  exact report_opened numerics stamp input opening parsed known opened

end Reckoner.Proofs.CommandLine
