import Mathlib.Control.Monad.Basic
import TagNesting.Settings.Resolve

/-!
# The one file that settings come from

`IsSource` says which file the settings come from, `Loads` what that file says, and
`Settings.Merged` how its values stand between those of the command line and the defaults.  Each is
a relation that does not say how its answer is found, and resolving the settings is the three of
them in a row: it is determined by the source and the text of that one file
(`Settings.resolve_of_source`).
-/

namespace TagNesting

open TagNesting.CommandLine

variable {args : Arguments} {env : Environment} {files others : Files} {f : Option String}
variable {path : String}

/-! ### The source -/

/-- **The file that the settings come from**: the one that the command line names, or else the first
of some places that holds a regular file. -/
inductive IsSource (args : Arguments) (places : List String) (files : Files) :
    Option String → Prop
  | named {path : String} : args.config = some path → IsSource args places files (some path)
  | found {before after : List String} {path : String} : args.config = none →
      places = before ++ path :: after → (∀ earlier ∈ before, files.isFile earlier = false) →
      files.isFile path = true → IsSource args places files (some path)
  | absent : args.config = none → (∀ path ∈ places, files.isFile path = false) →
      IsSource args places files none

/-- There is just one source. -/
theorem isSource_iff : IsSource args (searchPaths env) files f ↔ f = sourceOf args env files := by
  unfold sourceOf Files.discover
  constructor
  · rintro (hc | ⟨hc, hplaces, hbefore, hpath⟩ | ⟨hc, hnone⟩)
    · rw [hc]
    · have hfind := List.find?_eq_some_iff_append.mpr
        ⟨hpath, _, _, hplaces, fun a ha => by simp [hbefore a ha]⟩
      rw [hc, hfind]
    · have hfind : (searchPaths env).find? files.isFile = none :=
        List.find?_eq_none.mpr fun a ha => by simp [hnone a ha]
      rw [hc, hfind]
  · rintro rfl
    rcases hc : args.config with _ | path
    · rcases hfind : (searchPaths env).find? files.isFile with _ | path
      · have hnone := List.find?_eq_none.mp hfind
        exact .absent hc fun a ha => by simpa using hnone a ha
      · obtain ⟨hpath, before, after, hplaces, hbefore⟩ :=
          List.find?_eq_some_iff_append.mp hfind
        exact .found hc hplaces (fun a ha => by simpa using hbefore a ha) hpath
    · exact .named hc

/-! ### What the source says -/

/-- **What a source says.**  No source says nothing; a file has to be read and to be a settings
file. -/
inductive Loads (files : Files) : Option String → FileSettings → Prop
  | absent : Loads files none {}
  | file {path text : String} {file : FileSettings} : files.read path = .ok text →
      FileSettings.parse text = .ok file → Loads files (some path) file

/-- **What is wrong with a source.** -/
inductive Fails (files : Files) (path : String) : LoadError → Prop
  | unreadable {fault : ReadFault} : files.read path = .error fault →
      Fails files path (.unreadable path fault)
  | defective {text : String} {d : Defect} : files.read path = .ok text →
      FileSettings.parse text = .error d →
      Fails files path (.defective path d (Toml.lineAndColumn text d.place).1
        (Toml.lineAndColumn text d.place).2)

variable {file : FileSettings} {e : LoadError}

/-- A file that is loaded says something, and one that is not has a fault. -/
theorem load_cases (files : Files) (path : String) :
    (∃ file, Loads files (some path) file ∧ FileSettings.load files path = .ok file) ∨
    ∃ e, Fails files path e ∧ FileSettings.load files path = .error e := by
  unfold FileSettings.load
  rcases hread : files.read path with fault | text
  · exact .inr ⟨_, .unreadable hread, rfl⟩
  · dsimp only
    rcases hparse : FileSettings.parse text with d | file
    · exact .inr ⟨_, .defective hread hparse, rfl⟩
    · exact .inl ⟨file, .file hread hparse, rfl⟩

theorem Fails.not_loads (h : Fails files path e) : ¬ Loads files (some path) file := by
  rintro (_ | ⟨hread, hparse⟩)
  rcases h with hread' | ⟨hread', hparse'⟩
  · cases hread'.symm.trans hread
  · obtain rfl := Except.ok.inj (hread'.symm.trans hread)
    cases hparse'.symm.trans hparse

theorem load_congr (h : others.read path = files.read path) :
    FileSettings.load others path = FileSettings.load files path := by
  unfold FileSettings.load
  rw [h]

/-! ### Merging -/

/-- **Precedence**: an argument, or else what the file says, or else the standard value. -/
inductive Prevails {α : Type} (argument inFile : Option α) (standard : α) : α → Prop
  | argument {a : α} : argument = some a → Prevails argument inFile standard a
  | file {a : α} : argument = none → inFile = some a → Prevails argument inFile standard a
  | standard : argument = none → inFile = none → Prevails argument inFile standard standard

theorem prevails_getD {α : Type} (argument inFile : Option α) (standard : α) :
    Prevails argument inFile standard ((argument.or inFile).getD standard) := by
  rcases argument with _ | a
  · rcases inFile with _ | a
    · exact .standard rfl rfl
    · exact .file rfl rfl
  · exact .argument rfl

/-- What the command line says does not depend on the file. -/
theorem Prevails.eq_of_argument {α : Type} {argument inFile inFile' : Option α}
    {standard a b : α} (ha : Prevails argument inFile standard a)
    (hb : Prevails argument inFile' standard b) (h : argument ≠ none) : a = b := by
  have hsome {inFile : Option α} {c : α} (hc : Prevails argument inFile standard c) :
      argument = some c := by
    rcases hc with hc | hc | hc
    · exact hc
    · exact absurd hc h
    · exact absurd hc h
  exact Option.some.inj ((hsome ha).symm.trans (hsome hb))

/-- **How settings are put together.** -/
structure Settings.Merged (args : Arguments) (file : FileSettings) (s : Settings) : Prop where
  path : s.path = args.path
  format : Prevails args.format file.format .text s.format
  policy : Prevails (if args.allMismatches then some .all else none) file.policy .divOnly s.policy
  logLevel : Prevails args.logLevel file.logLevel "warn" s.logLevel

namespace Settings

theorem merged_merge (args : Arguments) (file : FileSettings) (source : Option String) :
    (merge args file source).Merged args file where
  path := rfl
  format := prevails_getD ..
  policy := by
    unfold merge
    split
    · exact .argument rfl
    · exact prevails_getD none ..
  logLevel := prevails_getD ..

/-! ### Resolving -/

/-- **Settings are resolved from the source, or the source fails.** -/
theorem resolve_cases (args : Arguments) (env : Environment) (files : Files) :
    (∃ file, Loads files (sourceOf args env files) file ∧
      resolve args env files = .ok (merge args file (sourceOf args env files))) ∨
    ∃ path e, sourceOf args env files = some path ∧ Fails files path e ∧
      resolve args env files = .error e := by
  unfold resolve
  rcases sourceOf args env files with _ | path
  · exact .inl ⟨{}, .absent, rfl⟩
  · dsimp only
    rcases load_cases files path with ⟨file, hfile, hload⟩ | ⟨e, hfails, hload⟩ <;> rw [hload]
    · exact .inl ⟨file, hfile, rfl⟩
    · exact .inr ⟨path, e, rfl, hfails, rfl⟩

/-- Only the text of the source counts. -/
theorem resolve_eq_of_sourceOf {env' : Environment}
    (hsource : sourceOf args env' others = sourceOf args env files)
    (hread : ∀ path, sourceOf args env files = some path → others.read path = files.read path) :
    resolve args env' others = resolve args env files := by
  unfold resolve
  rw [hsource]
  rcases hf : sourceOf args env files with _ | path
  · rfl
  · dsimp only
    rw [load_congr (hread path hf)]

theorem merged_of_resolve {s : Settings} (h : resolve args env files = .ok s) :
    s.source = sourceOf args env files ∧
      ∃ file, Loads files (sourceOf args env files) file ∧ s.Merged args file := by
  rcases resolve_cases args env files with ⟨file, hfile, hok⟩ | ⟨path, e, -, -, herror⟩
  · obtain rfl := Except.ok.inj (hok.symm.trans h)
    exact ⟨rfl, file, hfile, merged_merge ..⟩
  · cases herror.symm.trans h

theorem fails_of_resolve (h : resolve args env files = .error e) :
    ∃ path, sourceOf args env files = some path ∧ Fails files path e := by
  rcases resolve_cases args env files with ⟨file, -, hok⟩ | ⟨path, e', hf, hfails, herror⟩
  · cases hok.symm.trans h
  · obtain rfl := Except.error.inj (herror.symm.trans h)
    exact ⟨path, hf, hfails⟩

theorem exists_resolve_iff : (∃ s, resolve args env files = .ok s) ↔
    ∃ file, Loads files (sourceOf args env files) file := by
  constructor
  · rintro ⟨s, hs⟩
    obtain ⟨-, file, hfile, -⟩ := merged_of_resolve hs
    exact ⟨file, hfile⟩
  · rintro ⟨file, hfile⟩
    rcases resolve_cases args env files with ⟨_, -, hok⟩ | ⟨path, e, hf, hfails, -⟩
    · exact ⟨_, hok⟩
    · rw [hf] at hfile
      exact absurd hfile hfails.not_loads

/-- **Settings come from one file, and nothing takes the place of a file that fails.**  The source
`f` is unique.  There are settings just if it can be loaded; they are then merged from the command
line, `f` and the defaults, and otherwise the error is that of `f`.  So nothing but `f` and its text
counts among all files, and no file counts for what the command line says. -/
theorem resolve_of_source (args : Arguments) (env : Environment) (files : Files) :
    searchPaths env = ".tag-balance.toml" :: (match env.configDirectory with
      | some dir => [Files.join (Files.join dir "tag-balance") "config.toml"]
      | none => []) ∧
    ∃ f, (∀ g, IsSource args (searchPaths env) files g ↔ g = f) ∧
      ((∃ s, resolve args env files = .ok s) ↔ ∃ file, Loads files f file) ∧
      (∀ s, resolve args env files = .ok s →
        s.source = f ∧ ∃ file, Loads files f file ∧ s.Merged args file) ∧
      (∀ e, resolve args env files = .error e → ∃ path, f = some path ∧ Fails files path e) ∧
      (∀ env' others, IsSource args (searchPaths env') others f →
        (∀ path, f = some path → others.read path = files.read path) →
        resolve args env' others = resolve args env files) ∧
      ∀ env' others s s', resolve args env files = .ok s → resolve args env' others = .ok s' →
        s.path = s'.path ∧ (args.format ≠ none → s.format = s'.format) ∧
        (args.allMismatches = true → s.policy = s'.policy) ∧
        (args.logLevel ≠ none → s.logLevel = s'.logLevel) := by
  refine ⟨?_, sourceOf args env files, fun _ => isSource_iff, exists_resolve_iff,
    fun _ => merged_of_resolve, fun _ => fails_of_resolve, ?_, ?_⟩
  · unfold searchPaths
    rcases env.configDirectory with _ | dir <;> rfl
  · intro env' others hsource hread
    exact resolve_eq_of_sourceOf (isSource_iff.mp hsource).symm hread
  · intro env' others s s' hs hs'
    obtain ⟨-, file, -, h⟩ := merged_of_resolve hs
    obtain ⟨-, file', -, h'⟩ := merged_of_resolve hs'
    refine ⟨h.path.trans h'.path.symm, h.format.eq_of_argument h'.format, fun hall => ?_,
      h.logLevel.eq_of_argument h'.logLevel⟩
    exact h.policy.eq_of_argument h'.policy (by rw [if_pos hall]; exact Option.some_ne_none _)

/-- A defective file of the project is an error, though the file of the user would do. -/
example : resolve {} { configHome := some "/c" } ⟨fun _ => true, fun path =>
      if path = ".tag-balance.toml" then .ok "format = \"xml\"" else .ok "format = \"json\""⟩ =
    .error (.defective ".tag-balance.toml"
      (.unfit (.unknownName ["text", "json"] "xml") 9) 1 10) := by
  decide +kernel

end Settings

end TagNesting
