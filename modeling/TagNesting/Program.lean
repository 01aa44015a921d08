import TagNesting.CommandLine.Reading
import TagNesting.Log.Filter
import TagNesting.Nesting.Check
import TagNesting.Report.Format
import TagNesting.Settings.Resolve

/-!
# The program

From a command line, an environment and the files around it to what the program writes and its exit
status: 0 if the tags are balanced, 1 if they are not, 2 if the command line, the settings or the
file to check cannot be read.  The log goes to standard error and changes neither the status nor
what is written to standard output.
-/

namespace TagNesting

open TagNesting.CommandLine TagNesting.Log

/-- What a run of the program leaves behind. -/
structure Outcome where
  /-- The exit status. -/
  code : Nat
  /-- What is written to standard output. -/
  stdout : String := ""
  /-- The events that pass the log filter. -/
  log : List Event := []
  /-- The line on standard error that says why a part of the log filter is left out. -/
  complaint : Option String := none
  /-- The line on standard error that says why the program gave up. -/
  error : Option String := none

/-- The first line on standard error that tells of a fault. -/
def Outcome.errorLine (o : Outcome) : Option String := o.complaint.or o.error

namespace Program

/-- The program gave up. -/
def giveUp (why : String) (log : List Event) : Outcome where
  code := 2
  log := log
  error := some (Text.firstLine ("Error: " ++ why))

/-- Checks the file that the settings name. -/
def check (settings : Settings) (files : Files) : Outcome :=
  let start := (settings.source.map Event.usingSettings).toList
  match files.read settings.path with
  | .error fault => giveUp ("failed to read " ++ settings.path ++ ": " ++ fault.message) start
  | .ok content =>
    let lines := Text.linesOf content
    let done := (Progress.start settings.policy).feedAll 1 lines
    let report := done.checker.finish
    let log := start ++ Event.checking settings.path settings.policy :: done.log.toList ++
      [.checked report.linesScanned report.diagnostics.length report.halted]
    match report.render settings.format (some settings.path) with
    | .error e => giveUp e.message log
    | .ok text => { code := if report.isBalanced then 0 else 1, stdout := text, log := log }

/-- The log filter of a run, as it is written. -/
def filterOf (settings : Settings) (env : Environment) : String :=
  env.logFilter.getD settings.logLevel

/-- What is said about a pattern in the log filter that cannot be read. -/
def complaintAbout (f : Text.Pattern.Fault) : String := "error: " ++ f.message ++ ", ignoring it"

/-- The run for arguments that could be read. -/
def runWith (args : Arguments) (env : Environment) (files : Files) : Outcome :=
  match Settings.resolve args env files with
  | .error e => giveUp (e.message ++ ": " ++ e.reason) []
  | .ok settings =>
    let outcome := check settings files
    let filter := filterOf settings env
    { outcome with
      log := outcome.log.filter (Filter.parse filter).admits
      complaint := (Filter.fault? filter).map complaintAbout }

/-- The paths at which a run looks. -/
def consulted (args : Arguments) (env : Environment) : List String :=
  args.path ::
    match args.config with
    | some path => [path]
    | none => searchPaths env

/-- **A run of the program.** -/
def run (argv : List String) (env : Environment) (files : Files) : Outcome :=
  match parse argv with
  | .error (.mistake m) => { code := Refusal.exitCode (.mistake m), error := some m.message }
  | .error asked => { code := asked.exitCode, stdout := asked.message }
  | .ok args => runWith args env files

/-! ### A run depends only on the paths it looks at -/

variable {args : Arguments} {env : Environment} {files others : Files}

/-- Two views agree at a path. -/
def AgreeAt (files others : Files) (path : String) : Prop :=
  files.isFile path = others.isFile path ∧ files.read path = others.read path

theorem discover_congr {paths : List String} (h : ∀ p ∈ paths, AgreeAt files others p) :
    files.discover paths = others.discover paths := by
  unfold Files.discover
  induction paths with
  | nil => rfl
  | cons p ps ih =>
    have hp := (h p List.mem_cons_self).1
    have hps := ih fun q hq => h q (List.mem_cons_of_mem p hq)
    simp only [List.find?_cons, hp, hps]

theorem sourceOf_congr (h : ∀ p ∈ consulted args env, AgreeAt files others p) :
    sourceOf args env files = sourceOf args env others := by
  unfold sourceOf
  unfold consulted at h
  split
  · rfl
  · next hc =>
    rw [hc] at h
    exact discover_congr fun p hp => h p (List.mem_cons_of_mem _ hp)

/-- The settings file is one of the paths looked at. -/
theorem mem_consulted_of_sourceOf {path : String} (h : sourceOf args env files = some path) :
    path ∈ consulted args env := by
  unfold consulted
  refine List.mem_cons_of_mem _ ?_
  unfold sourceOf at h
  split
  · next q hc =>
    rw [hc] at h
    simpa using h.symm
  · next hc =>
    rw [hc] at h
    exact List.mem_of_find?_eq_some h

theorem resolve_congr (h : ∀ p ∈ consulted args env, AgreeAt files others p) :
    Settings.resolve args env files = Settings.resolve args env others := by
  unfold Settings.resolve
  rw [← sourceOf_congr h]
  split
  · rfl
  · next path hs =>
    have hp := (h path (mem_consulted_of_sourceOf hs)).2
    simp only [FileSettings.load, hp]

/-- The path to check is the one that the arguments name. -/
theorem path_of_resolve {settings : Settings}
    (h : Settings.resolve args env files = .ok settings) : settings.path = args.path := by
  unfold Settings.resolve at h
  split at h
  · cases h
    rfl
  · next path _ =>
    cases hl : FileSettings.load files path with
    | error e => rw [hl] at h; cases h
    | ok s => rw [hl] at h; cases h; rfl

/-- **A run looks nowhere else**: views that agree at the paths consulted lead to the same run. -/
theorem runWith_congr (h : ∀ p ∈ consulted args env, AgreeAt files others p) :
    runWith args env files = runWith args env others := by
  unfold runWith
  rw [← resolve_congr h]
  split
  · rfl
  · next settings hs =>
    have hp := path_of_resolve hs
    have hr := (h args.path List.mem_cons_self).2
    simp only [check, hp, hr]

end Program

end TagNesting
