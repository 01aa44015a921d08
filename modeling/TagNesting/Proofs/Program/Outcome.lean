import TagNesting.Program
import TagNesting.Proofs.CommandLine.LogLevel
import TagNesting.Proofs.Report.Decoding

/-!
# What a run writes and how it ends

A run for arguments that could be read ends in one of three ways: the settings cannot be resolved,
or the file to check cannot be read, and then nothing is written and the status is 2
(`Program.code_eq_two_iff`); or the report is written and the status is 0 or 1 by the verdict
(`Program.runWith_of_read`).

* `Program.code_eq_zero_iff_text`, `Program.code_eq_zero_iff_json`: in both formats the output alone
  tells whether the status is 0.  Text needs that no other report has the text of a balanced one.
* `Program.runWith_level`: neither the output nor the status depends on the log.
* `run_outcome` puts these together for a command line, and two command lines that differ in the
  value of the log level only.
-/

namespace TagNesting

open TagNesting.CommandLine TagNesting.Json

/-- With a path at hand every report can be written. -/
theorem Report.exists_render (r : Report) (format : Format) (path : String) :
    ∃ text, r.render format (some path) = .ok text := by
  cases format with
  | text => exact ⟨r.toText, rfl⟩
  | json => exact ⟨r.toJsonText path, rfl⟩

/-- The verdict can be looked up in the JSON form of a report. -/
theorem Report.member?_balanced (r : Report) (path : String) :
    (parse? (r.toJsonText path).toList).bind (Value.member? "balanced") =
      some (.bool r.isBalanced) := by
  rw [parse?_of_isText (r.isText_toJsonText path), Option.bind_some]
  rfl

namespace Program

variable {args : Arguments} {env : Environment} {files : Files} {s : Settings}

/-! ### The three endings -/

theorem runWith_of_error {e : LoadError} (he : Settings.resolve args env files = .error e) :
    (runWith args env files).code = 2 ∧ (runWith args env files).stdout = "" := by
  unfold runWith
  rw [he]
  exact ⟨rfl, rfl⟩

theorem runWith_of_unread (hs : Settings.resolve args env files = .ok s) {fault : ReadFault}
    (hread : files.read s.path = .error fault) :
    (runWith args env files).code = 2 ∧ (runWith args env files).stdout = "" := by
  unfold runWith check
  simp only [hs, hread]
  exact ⟨rfl, rfl⟩

/-- **The report on the file is written**, and the verdict gives the status. -/
theorem runWith_of_read (hs : Settings.resolve args env files = .ok s) {content : String}
    (hread : files.read s.path = .ok content) :
    (checkDocument content s.policy).render s.format (some s.path) =
      .ok (runWith args env files).stdout ∧
    (runWith args env files).code =
      if (checkDocument content s.policy).isBalanced then 0 else 1 := by
  obtain ⟨text, htext⟩ := (checkDocument content s.policy).exists_render s.format s.path
  have hreport : ((Progress.start s.policy).feedAll 1 (Text.linesOf content)).checker.finish =
      checkDocument content s.policy := rfl
  unfold runWith check
  simp only [hs, hread, hreport, htext, and_self]

theorem code_eq_two_iff : (runWith args env files).code = 2 ↔
    (∃ e, Settings.resolve args env files = .error e) ∨
    ∃ s fault, Settings.resolve args env files = .ok s ∧ files.read s.path = .error fault := by
  constructor
  · intro hcode
    rcases hs : Settings.resolve args env files with e | s
    · exact .inl ⟨e, rfl⟩
    rcases hread : files.read s.path with fault | content
    · exact .inr ⟨s, fault, rfl, hread⟩
    · have hverdict := (runWith_of_read hs hread).2
      rw [hcode] at hverdict
      split at hverdict
      · omega
      · omega
  · rintro (⟨e, he⟩ | ⟨s, fault, hs, hread⟩)
    · exact (runWith_of_error he).1
    · exact (runWith_of_unread hs hread).1

theorem stdout_of_code_eq_two (hcode : (runWith args env files).code = 2) :
    (runWith args env files).stdout = "" := by
  rcases code_eq_two_iff.mp hcode with ⟨e, he⟩ | ⟨s, fault, hs, hread⟩
  · exact (runWith_of_error he).2
  · exact (runWith_of_unread hs hread).2

/-! ### The status told by the output -/

section Resolved

variable (hs : Settings.resolve args env files = .ok s)
include hs

/-- Status 0 can be told from the output if that is so for the reports and for no output at all. -/
theorem code_eq_zero_iff_of_render {p : String → Prop} (hempty : ¬ p "")
    (hreport : ∀ content text, (checkDocument content s.policy).render s.format (some s.path) =
      .ok text → (p text ↔ (checkDocument content s.policy).isBalanced = true)) :
    (runWith args env files).code = 0 ↔ p (runWith args env files).stdout := by
  rcases hread : files.read s.path with fault | content
  · obtain ⟨hcode, hout⟩ := runWith_of_unread hs hread
    rw [hcode, hout]
    exact iff_of_false (by decide) hempty
  · obtain ⟨hout, hcode⟩ := runWith_of_read hs hread
    rw [hreport content _ hout, hcode]
    split
    · next hb => exact iff_of_true rfl hb
    · next hb => exact iff_of_false (by decide) hb

/-- **In text, status 0 goes with one line.** -/
theorem code_eq_zero_iff_text (hf : s.format = .text) : (runWith args env files).code = 0 ↔
    (runWith args env files).stdout = "All tags balanced!\n" := by
  refine code_eq_zero_iff_of_render (p := fun out => out = "All tags balanced!\n") hs (by decide)
    fun content text htext => ?_
  rw [hf] at htext
  rw [← Except.ok.inj htext]
  exact (legible_checkLines (Text.linesOf content) s.policy).toText_eq_iff

/-- **In JSON, status 0 goes with the verdict.** -/
theorem code_eq_zero_iff_json (hf : s.format = .json) : (runWith args env files).code = 0 ↔
    (parse? (runWith args env files).stdout.toList).bind (Value.member? "balanced") =
      some (.bool true) := by
  have hnone : parse? "".toList = none := rfl
  have hempty : ¬ (parse? "".toList).bind (Value.member? "balanced") = some (.bool true) := by
    rw [hnone]
    exact nofun
  refine code_eq_zero_iff_of_render (p := fun out =>
    (parse? out.toList).bind (Value.member? "balanced") = some (.bool true)) hs hempty
    fun content text htext => ?_
  rw [hf] at htext
  rw [← Except.ok.inj htext, Report.member?_balanced, Option.some.injEq, Value.bool.injEq]

end Resolved

/-! ### The log -/

theorem resolve_level (args : Arguments) (env : Environment) (files : Files)
    (level filter : Option String) :
    (∃ e, Settings.resolve args env files = .error e ∧
      Settings.resolve { args with logLevel := level } { env with logFilter := filter } files =
        .error e) ∨
    ∃ s l, Settings.resolve args env files = .ok s ∧
      Settings.resolve { args with logLevel := level } { env with logFilter := filter } files =
        .ok { s with logLevel := l } := by
  -- the place of the settings file is found without the log filter
  have hsource : sourceOf { args with logLevel := level } { env with logFilter := filter } files =
      sourceOf args env files := rfl
  unfold Settings.resolve
  rw [hsource]
  rcases sourceOf args env files with _ | path
  · exact .inr ⟨_, _, rfl, rfl⟩
  · rcases hload : FileSettings.load files path with e | file <;> simp only [hload]
    · exact .inl ⟨e, rfl, rfl⟩
    · exact .inr ⟨_, _, rfl, rfl⟩

/-- **The log changes neither the output nor the status.** -/
theorem runWith_level (args : Arguments) (env : Environment) (files : Files)
    (level filter : Option String) :
    let o := runWith args env files
    let o' := runWith { args with logLevel := level } { env with logFilter := filter } files
    o'.stdout = o.stdout ∧ o'.code = o.code := by
  intro o o'
  simp only [o, o', runWith]
  rcases resolve_level args env files level filter with ⟨e, he, he'⟩ | ⟨s, l, hs, hs'⟩
  · rw [he, he']
    exact ⟨rfl, rfl⟩
  · rw [hs, hs']
    exact ⟨rfl, rfl⟩

theorem run_of_parse {argv : List String} (h : parse argv = .ok args) (env : Environment)
    (files : Files) : run argv env files = runWith args env files := by
  unfold run
  rw [h]

end Program

/-- **What the program writes and its exit status**, for a command line that can be read.  The
status is 2 exactly if the settings cannot be resolved or the file they name cannot be read, and then
nothing is written.  Otherwise the report on the file is written, and the status is 0 if it is
balanced and 1 if not.  So the output alone tells in both formats whether the status is 0.  Another
log level on the command line or another log filter in the environment changes neither. -/
theorem run_outcome {argv : List String} {args : Arguments} (h : parse argv = .ok args)
    (env : Environment) (files : Files) :
    let o := Program.run argv env files
    (o.code = 2 ↔ (∃ e, Settings.resolve args env files = .error e) ∨
      ∃ s fault, Settings.resolve args env files = .ok s ∧ files.read s.path = .error fault) ∧
    (o.code = 2 → o.stdout = "") ∧
    (∀ s, Settings.resolve args env files = .ok s →
      (∀ content, files.read s.path = .ok content →
        (checkDocument content s.policy).render s.format (some s.path) = .ok o.stdout ∧
        o.code = if (checkDocument content s.policy).isBalanced then 0 else 1) ∧
      (s.format = .text → (o.code = 0 ↔ o.stdout = "All tags balanced!\n")) ∧
      (s.format = .json → (o.code = 0 ↔
        (parse? o.stdout.toList).bind (Value.member? "balanced") = some (.bool true)))) ∧
    ∀ (argv' : List String) (args' : Arguments) (filter : Option String),
      parse argv' = .ok args' →
      (OtherLevel argv argv' ∨ ∃ level, args' = { args with logLevel := level }) →
      let o' := Program.run argv' { env with logFilter := filter } files
      o'.stdout = o.stdout ∧ o'.code = o.code := by
  intro o
  have ho : o = Program.runWith args env files := Program.run_of_parse h env files
  rw [ho]
  refine ⟨Program.code_eq_two_iff, Program.stdout_of_code_eq_two, fun s hs =>
    ⟨fun content hread => Program.runWith_of_read hs hread, Program.code_eq_zero_iff_text hs,
      Program.code_eq_zero_iff_json hs⟩, fun argv' args' filter h' hlevel => ?_⟩
  obtain ⟨level, rfl⟩ : ∃ level, args' = { args with logLevel := level } := by
    rcases hlevel with hlevel | hlevel
    · exact ⟨args'.logLevel, eq_of_otherLevel hlevel h h'⟩
    · exact hlevel
  intro o'
  have ho' : o' = Program.runWith { args with logLevel := level } { env with logFilter := filter }
      files := Program.run_of_parse h' _ files
  rw [ho']
  exact Program.runWith_level args env files level filter

/-- A mismatch stands above the line that says that no tag is left open.  The status is 1, whatever
is logged. -/
theorem run_outcome_mismatch :
    let argv := ["--log-level", "debug", "a.tsx"]
    let argv' := ["--log-level", "off", "a.tsx"]
    let files : Files := ⟨fun _ => false, fun path =>
      if path = "a.tsx" then .ok "<div>\n</p>" else .error .notFound⟩
    let text := "Line 2: Mismatch! Expected closing div (opened at 1), found p\n" ++
      "All tags balanced!\n"
    OtherLevel argv argv' ∧
    (Program.run argv {} files).stdout = text ∧ (Program.run argv {} files).code = 1 ∧
    (Program.run argv' { logFilter := some "trace" } files).stdout = text ∧
    (Program.run argv' { logFilter := some "trace" } files).code = 1 := by
  intro argv argv' files text
  have h : parse argv = .ok { path := "a.tsx", logLevel := some "debug" } := by decide +kernel
  have h' : parse argv' = .ok { path := "a.tsx", logLevel := some "off" } := by decide +kernel
  have hlevel : OtherLevel argv argv' :=
    @OtherLevel.behind [] List.not_mem_nil "debug" "off" ["a.tsx"]
  have hs : Settings.resolve { path := "a.tsx", logLevel := some "debug" } {} files =
      .ok ⟨"a.tsx", .text, .divOnly, "debug", none⟩ := rfl
  have hread : files.read "a.tsx" = .ok "<div>\n</p>" := rfl
  have htext : (checkDocument "<div>\n</p>" .divOnly).toText = text := by decide +kernel
  have hb : (checkDocument "<div>\n</p>" .divOnly).isBalanced = false := by decide +kernel
  obtain ⟨-, -, hchecked, hlog⟩ := run_outcome h {} files
  obtain ⟨hout, hcode⟩ := (hchecked _ hs).1 _ hread
  obtain ⟨hout', hcode'⟩ := hlog argv' _ (some "trace") h' (.inl hlevel)
  rw [hb] at hcode
  have hout : text = _ := htext.symm.trans (Except.ok.inj hout)
  exact ⟨hlevel, hout.symm, hcode, hout'.trans hout.symm, hcode'.trans hcode⟩

end TagNesting
