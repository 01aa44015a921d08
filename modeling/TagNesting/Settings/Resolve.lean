import TagNesting.CommandLine.Arguments
import TagNesting.Files.Basic
import TagNesting.Log.Event
import TagNesting.Settings.FileSettings

/-!
# Resolving the settings

The settings come from the command line, from at most one file, and from defaults, in that order of
precedence.  The file is the one that the command line names, or else the first of the usual places
that holds a regular file.  If that file cannot be read there are no settings: no other file takes
its place.
-/

namespace TagNesting

open TagNesting.CommandLine TagNesting.Log

/-- The part of the environment that the program looks at. -/
structure Environment where
  /-- The user's home directory. -/
  home : Option String := none
  /-- The directory of the user's settings files, if it is given by an absolute path. -/
  configHome : Option String := none
  /-- The log filter that takes the place of the level in the settings. -/
  logFilter : Option String := none
  deriving DecidableEq, Repr

/-- All settings, and the file they come from. -/
structure Settings where
  path : String
  format : Format
  policy : Policy
  logLevel : String
  source : Option String
  deriving DecidableEq, Repr

/-- The log level where none is given. -/
def defaultLogLevel : String := "warn"

/-- The settings file of a project. -/
def projectFile : String := ".tag-balance.toml"

/-! ### Finding the file -/

/-- The directory of the user's settings files. -/
def Environment.configDirectory (env : Environment) : Option String :=
  match env.configHome.filter Files.isAbsolute with
  | some dir => some dir
  | none => (env.home.filter (!·.isEmpty)).map (Files.join · ".config")

/-- The usual places of a settings file: that of the project, then that of the user. -/
def searchPaths (env : Environment) : List String :=
  projectFile :: (env.configDirectory.map fun dir =>
    Files.join (Files.join dir "tag-balance") "config.toml").toList

/-- The settings file, if there is one. -/
def sourceOf (args : Arguments) (env : Environment) (files : Files) : Option String :=
  match args.config with
  | some path => some path
  | none => files.discover (searchPaths env)

/-! ### Reading the file -/

/-- Why a settings file yields no settings. -/
inductive LoadError where
  /-- It cannot be read. -/
  | unreadable (path : String) (fault : ReadFault)
  /-- Its text is no settings file; the defect shows at that line and column. -/
  | defective (path : String) (defect : Defect) (line column : Nat)
  deriving DecidableEq, Repr

namespace LoadError

/-- What failed. -/
def message : LoadError → String
  | .unreadable path _ => "failed to read config " ++ path
  | .defective path .. => "failed to parse config " ++ path

/-- Why, in the first line of it. -/
def reason : LoadError → String
  | .unreadable _ fault => fault.message
  | .defective _ _ line column => s!"TOML parse error at line {line}, column {column}"

end LoadError

/-- Reads a settings file. -/
def FileSettings.load (files : Files) (path : String) : Except LoadError FileSettings :=
  match files.read path with
  | .error fault => .error (.unreadable path fault)
  | .ok text =>
    match FileSettings.parse text with
    | .ok s => .ok s
    | .error d =>
      let (line, column) := Toml.lineAndColumn text d.place
      .error (.defective path d line column)

/-! ### Merging -/

/-- **Merges** what the command line and the file say with the defaults. -/
def Settings.merge (args : Arguments) (file : FileSettings) (source : Option String) :
    Settings where
  path := args.path
  format := (args.format.or file.format).getD .text
  policy := if args.allMismatches then .all else file.policy.getD .divOnly
  logLevel := (args.logLevel.or file.logLevel).getD defaultLogLevel
  source := source

/-- **Resolves the settings.** -/
def Settings.resolve (args : Arguments) (env : Environment) (files : Files) :
    Except LoadError Settings := do
  match sourceOf args env files with
  | none => return Settings.merge args {} none
  | some path => return Settings.merge args (← FileSettings.load files path) (some path)

/-- What resolving the settings writes to the log, whether it succeeds or not. -/
def Settings.resolveLog (args : Arguments) (env : Environment) (files : Files) : List Event :=
  ((sourceOf args env files).map Event.loadingSettings).toList

end TagNesting
