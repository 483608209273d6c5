import Mathlib.Data.List.Basic
import Mathlib.Data.List.Induction
import Reckoner.Chat
import Reckoner.Log.Channel
import Reckoner.Proofs.Levels

/-! What a log holds after any number of calls that set it up or write to it. Nothing but the last set-up decides
where an event goes, and every event that is let through stands once in each place it goes to, in the order in which
the events were made. What comes of opening a file is left to the system, which may answer otherwise each time. -/

namespace Reckoner.Proofs.LogHistory
open Log Levels

/-- A set-up as it is asked for, with what the system makes of its file. -/
structure SetUp where
  level : LevelRequest
  file : Option String
  opening : Opening

/-- A call that sets up the log, or that something is logged by. -/
inductive Call
  | setUp (made : SetUp)
  | evaluate (source : Option String)
  | chat (trigger : String) (message : Option String)
  | emit (name : String) (level : Int) (message : String) (context : Context)

namespace Call

def setUp? : Call → Option SetUp
  | .setUp made => some made
  | _ => none

def events (settings : Settings) : Call → List Event
  | .setUp _ => []
  | .evaluate source => Formula.journal settings source
  | .chat trigger message => Chat.journal settings trigger message
  | .emit name level message context => [⟨loggerName name, level, message, context⟩]

end Call

/-- A call with the times of its events, the first one first. -/
structure Step where
  call : Call
  clock : ℕ → String

section
variable (settings : Settings)

def SetUp.outcome (made : SetUp) (channel : Channel) : Except Refusal Channel :=
  channel.setUp (made.level.resolve settings.level) made.file made.opening

/-- A set-up leaves a channel behind also if it fails. -/
def SetUp.applied (made : SetUp) (channel : Channel) : Channel :=
  match made.outcome settings channel with
  | .ok opened => opened
  | .error refusal => refusal.left

def Step.stamped (step : Step) : List (String × Event) :=
  (step.call.events settings).mapIdx fun i event => (step.clock i, event)

def Step.perform (channel : Channel) (step : Step) : Channel :=
  match step.call.setUp? with
  | some made => made.applied settings channel
  | none => (step.stamped settings).foldl (fun channel record => channel.record record.1 record.2) channel

def run (steps : List Step) : Channel :=
  steps.foldl (Step.perform settings) {}

/-- The level from which on events are let through after a set-up, if there was one. -/
inductive Least : Option SetUp → Int → Prop
  | never : Least none 30
  | unset {made : SetUp} (stands : Stands settings.level made.level 0) : Least (some made) 30
  | level {made : SetUp} {level : Int} (stands : Stands settings.level made.level level) (set : level ≠ 0) :
    Least (some made) level

end

/-- The file that a set-up logs to, if it succeeds. It need not log to any. -/
def SetUp.target? (made : SetUp) : Option (Option String) :=
  match made.file.filter (!·.isEmpty) with
  | none => some none
  | some path => (made.opening path).toOption.map some

/-- An event with its time and the last set-up before it. -/
structure Entry where
  last : Option SetUp
  stamp : String
  event : Event

def threshold (settings : Settings) : Option SetUp → Int
  | none => 30
  | some made =>
    let level := made.level.resolve settings.level
    if level = 0 then 30 else level

theorem least_iff {settings : Settings} {last : Option SetUp} {level : Int} :
    Least settings last level ↔ threshold settings last = level := by
  cases last with
  | none =>
    constructor
    · rintro ⟨⟩
      rfl
    · rintro rfl
      exact .never
  | some made =>
    simp only [threshold]
    split
    next unset =>
      constructor
      · intro least
        cases least with
        | unset => rfl
        | level stands set => exact absurd ((stands_iff.mp stands).symm.trans unset) set
      · rintro rfl
        exact .unset (stands_iff.mpr unset)
    next set =>
      constructor
      · intro least
        cases least with
        | unset stands => exact absurd (stands_iff.mp stands) set
        | level stands _ => exact stands_iff.mp stands
      · rintro rfl
        exact .level (stands_iff.mpr rfl) set

namespace Entry
variable (settings : Settings) (entry : Entry)

/-- The file that the event may go to, if anything is set up. -/
def target? : Option (Option String) :=
  entry.last.bind SetUp.target?

/-- Whether the event is let through. Levels below one never are. -/
def Heard : Prop :=
  1 ≤ entry.event.level ∧ ∃ least, Least settings entry.last least ∧ least ≤ entry.event.level

theorem heard_iff :
    entry.Heard settings ↔ 1 ≤ entry.event.level ∧ threshold settings entry.last ≤ entry.event.level := by
  simp [Heard, least_iff]

instance : Decidable (entry.Heard settings) :=
  decidable_of_iff _ (entry.heard_iff settings).symm

def line : String :=
  entry.event.line entry.stamp none ++ "\n"

/-- What the console gets of an event. With nothing set up this is the message of a warning or worse. -/
def onConsole : String :=
  if entry.Heard settings then
    if entry.target?.isSome then entry.line
    else if 30 ≤ entry.event.level then entry.event.message ++ "\n"
    else ""
  else ""

/-- What a file gets of an event. -/
def inFile (name : String) : String :=
  if entry.Heard settings ∧ entry.target? = some (some name) then entry.line else ""

end Entry

def setUps (steps : List Step) : List SetUp :=
  steps.filterMap (·.call.setUp?)

def lastSetUp (steps : List Step) : Option SetUp :=
  (setUps steps).getLast?

/-- The events of steps, where `last` was the last set-up before them. -/
def entries (settings : Settings) (last : Option SetUp) : List Step → List Entry
  | [] => []
  | step :: rest =>
    (step.stamped settings).map (fun record => ⟨last, record.1, record.2⟩) ++
      entries settings (step.call.setUp?.or last) rest

/-- The files that were opened, each time that one was. -/
def opened (steps : List Step) : List String :=
  (setUps steps).filterMap fun made => made.target?.join

section
variable {folder : Folder} {name text : String} {names : List String} {content : String → String}

theorem create_files (files : folder.files = names.map fun name => (name, content name))
    (fresh : name ∉ names → content name = "") :
    (folder.create name).files =
      (if name ∈ names then names else names ++ [name]).map fun name => (name, content name) := by
  have holds : folder.holds name = decide (name ∈ names) := by
    rw [Bool.eq_iff_iff]
    simp [Folder.holds, files]
  rw [Folder.create, holds]
  by_cases known : name ∈ names
  · simp [known, files]
  · simp [known, files, fresh]

theorem append_files (files : folder.files = names.map fun name => (name, content name)) :
    (folder.append name text).files =
      names.map fun other => (other, content other ++ if other = name then text else "") := by
  simp only [Folder.append, files, List.map_map]
  apply List.map_congr_left
  intro other _
  by_cases same : other = name <;> simp [same]

end

section
variable (settings : Settings)

/-- The hub that the last set-up leaves. -/
def hubOf : Option SetUp → Hub
  | none => {}
  | some made =>
    match made.target? with
    | some file => .setUp (made.level.resolve settings.level) file
    | none => .refused (made.level.resolve settings.level)

theorem hubOf_sinks (last : Option SetUp) :
    (hubOf settings last).sinks =
      ((last.bind SetUp.target?).map fun file => .console :: (file.map .file).toList).getD [] := by
  cases last with
  | none => rfl
  | some made =>
    cases opens : made.target? with
    | none => simp [hubOf, opens, Hub.refused]
    | some file => simp [hubOf, opens, Hub.setUp]

theorem hubOf_threshold (last : Option SetUp) : (hubOf settings last).threshold = threshold settings last := by
  have given (made : SetUp) : (hubOf settings (some made)).level = made.level.resolve settings.level := by
    cases opens : made.target? <;> simp [hubOf, opens, Hub.setUp, Hub.refused]
  cases last with
  | none => rfl
  | some made =>
    rw [Hub.threshold, given]
    rfl

theorem hubOf_fileNames (last : Option SetUp) :
    (hubOf settings last).fileNames = (last.bind SetUp.target?).join.toList := by
  rw [Hub.fileNames, hubOf_sinks]
  rcases last.bind SetUp.target? with _ | _ | name <;> rfl

namespace Entry
variable (entry : Entry)

theorem accepts_iff : (hubOf settings entry.last).accepts entry.event = true ↔ entry.Heard settings := by
  have unset : unset = 0 := rfl
  simp only [Hub.accepts, hubOf_threshold, heard_iff, Bool.and_eq_true, decide_eq_true_eq]
  omega

theorem consoleText_eq :
    (hubOf settings entry.last).consoleText entry.stamp entry.event = entry.onConsole settings := by
  have heard := entry.accepts_iff settings
  unfold Hub.consoleText Entry.onConsole
  rw [hubOf_sinks]
  change _ = if entry.Heard settings then if (entry.last.bind SetUp.target?).isSome then _ else _ else _
  by_cases let_through : entry.Heard settings
  · cases entry.last.bind SetUp.target? with
    | none =>
      simp only [heard.mpr let_through, let_through]
      rfl
    | some file => simp_all [Entry.line]
  · simp_all

theorem fileText_eq {name : String} (goes : entry.target? = some (some name)) :
    (hubOf settings entry.last).fileText entry.stamp entry.event = entry.inFile settings name := by
  have heard := entry.accepts_iff settings
  unfold Hub.fileText Entry.inFile
  by_cases let_through : entry.Heard settings <;> simp_all [Entry.line]

end Entry

/-- A set-up either fails or has a target, which may be no file. Its hub is new in both cases. -/
theorem outcome_cases (channel : Channel) (made : SetUp) :
    (made.target? = none ∧ ∃ obstacle,
      made.outcome settings channel = .error ⟨obstacle, { channel with hub := hubOf settings (some made) }⟩) ∨
    ∃ file, made.target? = some file ∧
      made.outcome settings channel = .ok { channel with
        hub := hubOf settings (some made), folder := file.elim channel.folder channel.folder.create } := by
  cases given : made.file.filter (!·.isEmpty) with
  | none =>
    have opens : made.target? = some none := by simp only [SetUp.target?, given]
    exact .inr ⟨none, opens, by simp only [SetUp.outcome, Channel.setUp, given, hubOf, opens, Option.elim]⟩
  | some path =>
    cases found : made.opening path with
    | ok name =>
      have opens : made.target? = some (some name) := by
        simp only [SetUp.target?, given, found]
        rfl
      exact .inr ⟨some name, opens,
        by simp only [SetUp.outcome, Channel.setUp, given, found, hubOf, opens, Option.elim]⟩
    | error obstacle =>
      have refused : made.target? = none := by
        simp only [SetUp.target?, given, found]
        rfl
      exact .inl ⟨refused, obstacle, by simp only [SetUp.outcome, Channel.setUp, given, found, hubOf, refused]⟩

end

private theorem join_eq_empty {α : Type} {text : α → String} {items : List α}
    (silent : ∀ item ∈ items, text item = "") : String.join (items.map text) = "" := by
  induction items with
  | nil => rfl
  | cons item rest ih =>
    rw [List.forall_mem_cons] at silent
    rw [List.map_cons, String.join_cons, silent.1, ih silent.2]
    rfl

/-- The hub of a channel is that of the last set-up, and what was made of events is on the console and in the files. -/
structure Holds (settings : Settings) (last : Option SetUp) (opened : List String) (made : List Entry)
    (channel : Channel) : Prop where
  hub : channel.hub = hubOf settings last
  console : channel.console = String.join (made.map (Entry.onConsole settings))
  files : channel.folder.files =
    opened.eraseDups.map fun name => (name, String.join (made.map (Entry.inFile settings · name)))
  current : ∀ name, last.bind SetUp.target? = some (some name) → name ∈ opened
  former : ∀ entry ∈ made, ∀ name, entry.target? = some (some name) → name ∈ opened

namespace Holds
variable {settings : Settings} {last : Option SetUp} {opened : List String} {made : List Entry} {channel : Channel}

theorem start (settings : Settings) : Holds settings none [] [] {} :=
  ⟨rfl, rfl, rfl, by simp, by simp⟩

theorem record (holds : Holds settings last opened made channel) (stamp : String) (event : Event) :
    Holds settings last opened (made ++ [⟨last, stamp, event⟩]) (channel.record stamp event) := by
  obtain ⟨entry, same⟩ : ∃ entry : Entry, entry = ⟨last, stamp, event⟩ := ⟨_, rfl⟩
  have goes : entry.target? = last.bind SetUp.target? := by rw [same]; rfl
  rw [← same]
  constructor
  · exact holds.hub
  · have text := entry.consoleText_eq settings
    rw [same] at text
    rw [Channel.record, holds.hub, holds.console, text, ← same]
    simp
  · have share (name : String) : String.join ((made ++ [entry]).map (Entry.inFile settings · name)) =
        String.join (made.map (Entry.inFile settings · name)) ++ entry.inFile settings name := by simp
    simp only [Channel.record, holds.hub, hubOf_fileNames, ← goes, share]
    -- Only the file of the last set-up can get something.
    have nothing {name : String} (other : entry.target? ≠ some (some name)) : entry.inFile settings name = "" :=
      if_neg fun both => other both.2
    rcases target : entry.target? with _ | _ | name
    · simpa [nothing, target] using holds.files
    · simpa [nothing, target] using holds.files
    · have text := entry.fileText_eq settings target
      rw [same] at text
      rw [Option.join_some, Option.toList_some, List.foldl_cons, List.foldl_nil, append_files holds.files, text, ← same]
      apply List.map_congr_left
      intro other _
      by_cases equal : other = name
      · simp [equal]
      · have apart : entry.target? ≠ some (some other) := by
          rw [target]
          simpa using Ne.symm equal
        simp [equal, nothing apart]
  · exact holds.current
  · intro other member name target
    rcases List.mem_append.mp member with earlier | new
    · exact holds.former other earlier name target
    · rw [List.mem_singleton.mp new, goes] at target
      exact holds.current name target

theorem applied (holds : Holds settings last opened made channel) (next : SetUp) :
    Holds settings (some next) (opened ++ next.target?.join.toList) made (next.applied settings channel) := by
  have former (entry : Entry) (member : entry ∈ made) (name : String) (target : entry.target? = some (some name)) :
      name ∈ opened ++ next.target?.join.toList :=
    List.mem_append_left _ (holds.former entry member name target)
  have current (name : String) (target : next.target? = some (some name)) :
      name ∈ opened ++ next.target?.join.toList := by simp [target]
  rw [SetUp.applied]
  obtain ⟨refused, obstacle, failed⟩ | ⟨file, opens, succeeded⟩ := outcome_cases settings channel next
  · rw [failed]
    exact ⟨rfl, holds.console, by simpa [refused] using holds.files, current, former⟩
  · rw [succeeded]
    refine ⟨rfl, holds.console, ?_, current, former⟩
    cases file with
    | none => simpa [opens] using holds.files
    | some name =>
      have fresh (absent : name ∉ opened.eraseDups) :
          String.join (made.map (Entry.inFile settings · name)) = "" := by
        apply join_eq_empty
        intro entry member
        exact if_neg fun both => absent (List.mem_eraseDups.mpr (holds.former entry member name both.2))
      have names : (opened ++ [name]).eraseDups =
          if name ∈ opened.eraseDups then opened.eraseDups else opened.eraseDups ++ [name] := by
        by_cases known : name ∈ opened <;> simp [List.eraseDups_append, List.eraseDups_cons, List.removeAll, known]
      simp only [opens, Option.join_some, Option.toList_some, Option.elim_some, names]
      exact create_files holds.files fresh

/-- What one step does. -/
theorem perform (holds : Holds settings last opened made channel) (step : Step) :
    Holds settings (step.call.setUp?.or last)
      (opened ++ (step.call.setUp?.bind fun next => next.target?.join).toList)
      (made ++ (step.stamped settings).map fun record => ⟨last, record.1, record.2⟩)
      (step.perform settings channel) := by
  rw [Step.perform]
  cases kind : step.call.setUp? with
  | some next =>
    have silent : step.stamped settings = [] := by
      unfold Step.stamped
      cases called : step.call <;> simp_all [Call.setUp?, Call.events]
    rw [silent]
    simpa using holds.applied next
  | none =>
    simp only [Option.none_or, Option.bind_none, Option.toList_none, List.append_nil]
    generalize step.stamped settings = records
    induction records generalizing made channel with
    | nil => simpa using holds
    | cons record rest ih => simpa using ih (holds.record record.1 record.2)

/-- What a run does. -/
theorem perform_all (holds : Holds settings last opened made channel) (steps : List Step) :
    Holds settings ((lastSetUp steps).or last) (opened ++ LogHistory.opened steps)
      (made ++ entries settings last steps) (steps.foldl (Step.perform settings) channel) := by
  induction steps generalizing last opened made channel with
  | nil => simpa [lastSetUp, setUps, LogHistory.opened, entries] using holds
  | cons step rest ih =>
    have next := ih (holds.perform step)
    rw [List.foldl_cons, entries, ← List.append_assoc]
    convert next using 1
    · cases kind : step.call.setUp? with
      | none => simp [lastSetUp, setUps, kind]
      | some made => simp [lastSetUp, setUps, kind, List.getLast?_cons]
    · cases kind : step.call.setUp? with
      | none => simp [LogHistory.opened, setUps, kind]
      | some made => cases opens : made.target?.join <;> simp [LogHistory.opened, setUps, kind, opens]

end Holds

/-- There are no sinks if nothing was set up or the last set-up failed. Otherwise they are the console and the file of
the last set-up. The console and every file that was ever opened hold what they were given by each event under the
set-up of its time, and there are no other files. -/
theorem run_history (settings : Settings) (steps : List Step) :
    ((run settings steps).hub.sinks = [] ↔ ∀ made ∈ lastSetUp steps, made.target? = none) ∧
    (∀ made ∈ lastSetUp steps, ∀ file, made.target? = some file →
      (run settings steps).hub.sinks = .console :: (file.map .file).toList) ∧
    (∀ next : SetUp, (∃ refusal, next.outcome settings (run settings steps) = .error refusal) ↔
      next.target? = none) ∧
    (run settings steps).console = String.join ((entries settings none steps).map (Entry.onConsole settings)) ∧
    (run settings steps).folder.files = (opened steps).eraseDups.map fun name =>
      (name, String.join ((entries settings none steps).map (Entry.inFile settings · name))) := by
  have holds : Holds settings (lastSetUp steps) (opened steps) (entries settings none steps) (run settings steps) := by
    simpa [run] using (Holds.start settings).perform_all steps
  have sinks := (congrArg Hub.sinks holds.hub).trans (hubOf_sinks settings _)
  refine ⟨?_, ?_, ?_, holds.console, holds.files⟩
  · rw [sinks]
    cases lastSetUp steps with
    | none => simp
    | some made => cases opens : made.target? <;> simp [opens]
  · intro made last file opens
    rw [sinks, Option.mem_def.mp last]
    simp [opens]
  · intro next
    obtain ⟨refused, obstacle, failed⟩ | ⟨file, opens, succeeded⟩ :=
      outcome_cases settings (run settings steps) next
    · simp [refused, failed]
    · simp [opens, succeeded]

/-- A path that could not be opened at first. -/
example :
    (run {} [
      ⟨.setUp ⟨.named " debug", some "a.log", fun _ => .error .missing⟩, fun _ => ""⟩,
      ⟨.emit "api" 40 "lost" {}, fun _ => "t"⟩,
      ⟨.setUp ⟨.named " debug", some "a.log", .ok⟩, fun _ => ""⟩,
      ⟨.emit "api" 10 "kept" {}, fun _ => "t"⟩]).folder.files = [("a.log", "t [DEBUG] calcbot.api: kept\n")] := by
  decide +kernel

end Reckoner.Proofs.LogHistory
