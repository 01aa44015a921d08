import TagNesting.CommandLine.Reading

/-!
# The value of the log level on a command line

Two command lines that differ only in the value of `--log-level` (`OtherLevel`) say the same about
everything else, if both can be read: `eq_of_otherLevel`.

The value is made empty wherever a reading holds it (`Reading.blank`).  A function on readings is
*blind* to the value if the blank reading leads to the same result up to the value, refusals
included.  Blind functions compose, and each function of the reader is one (`Reading.blind_step`),
so a difference in the value stays a difference in the value until the end of the line.
-/

namespace TagNesting.CommandLine

/-- **The same command line with another value of the log level**, behind the option or joined to it
by `=`.  After `--` it would be a path. -/
inductive OtherLevel : List String → List String → Prop
  | behind {before : List String} (h : "--" ∉ before) (v v' : String) (after : List String) :
      OtherLevel (before ++ "--log-level" :: v :: after) (before ++ "--log-level" :: v' :: after)
  | joined {before : List String} (h : "--" ∉ before) (v v' : String) (after : List String) :
      OtherLevel (before ++ ("--log-level=" ++ v) :: after)
        (before ++ ("--log-level=" ++ v') :: after)

/-- What two computations in a row have done if they have not failed. -/
theorem exists_of_bind_eq_ok {ε α β : Type} {x : Except ε α} {f : α → Except ε β} {b : β}
    (h : x >>= f = .ok b) : ∃ a, x = .ok a ∧ f a = .ok b := by
  rcases x with e | a
  · cases h
  · exact ⟨a, rfl, h⟩

/-! ### Blank values -/

def Pending.blank : Pending → Pending
  | ⟨.logLevel, value⟩ => ⟨.logLevel, value.map fun _ => ""⟩
  | p => p

theorem Pending.blank_blank (p : Pending) : p.blank.blank = p.blank := by
  rcases p with ⟨_ | _ | _ | _, _ | _⟩ <;> rfl

namespace Reading

/-- The reading with the value of the log level made empty. -/
def blank (r : Reading) : Reading :=
  { r with logLevel := r.logLevel.map fun _ => "", pending := r.pending.map Pending.blank }

/-- **The function is blind to the value of the log level.** -/
def Blind (f : Reading → Except Refusal Reading) : Prop :=
  ∀ r, (f r.blank).map blank = (f r).map blank

variable {f g : Reading → Except Refusal Reading}

theorem Blind.eq_of_blank_eq (hf : Blind f) {r s : Reading} (h : r.blank = s.blank) :
    (f r).map blank = (f s).map blank := by
  rw [← hf r, h, hf s]

theorem Blind.blank_eq (hf : Blind f) {r s r' s' : Reading} (h : r.blank = s.blank)
    (hr : f r = .ok r') (hs : f s = .ok s') : r'.blank = s'.blank := by
  have hmap := hf.eq_of_blank_eq h
  rw [hr, hs] at hmap
  exact Except.ok.inj hmap

theorem Blind.bind (hf : Blind f) (hg : Blind g) : Blind fun r => f r >>= g := by
  intro r
  have h := hf r
  rcases hr : f r with e | s <;> rcases hb : f r.blank with e' | s' <;> rw [hr, hb] at h
  · cases h
    simp only [hr, hb]
  · cases h
  · cases h
  · simp only [hr, hb]
    exact hg.eq_of_blank_eq (Except.ok.inj h)

theorem Blind.ite {p : Reading → Bool} (hp : ∀ r, p r.blank = p r) (hf : Blind f)
    (hg : Blind g) : Blind fun r => if p r then f r else g r := by
  intro r
  simp only [hp]
  split
  · exact hf r
  · exact hg r

theorem blind_ok {update : Reading → Reading}
    (hb : ∀ r, (update r.blank).blank = (update r).blank := by
      intro r; simp [blank, Function.comp_def, Pending.blank_blank]) :
    Blind fun r => .ok (update r) :=
  fun r => congrArg Except.ok (hb r)

/-- The function is blind to the value of the log level and does not turn to paths. -/
structure Steady (f : Reading → Except Refusal Reading) : Prop where
  blind : Blind f
  keeps : ∀ r s, f r = .ok s → s.onlyPaths = r.onlyPaths

theorem steady_error (e : Refusal) : Steady fun _ => .error e :=
  ⟨fun _ => rfl, fun _ _ h => nomatch h⟩

theorem steady_ok {update : Reading → Reading}
    (hb : Blind fun r => .ok (update r) := by exact blind_ok)
    (hk : ∀ r, (update r).onlyPaths = r.onlyPaths := by intro r; rfl) :
    Steady fun r => .ok (update r) := by
  refine ⟨hb, fun r s h => ?_⟩
  rw [← Except.ok.inj h]
  exact hk r

theorem Steady.bind (hf : Steady f) (hg : Steady g) : Steady fun r => f r >>= g := by
  refine ⟨hf.blind.bind hg.blind, fun r t h => ?_⟩
  obtain ⟨s, hs, ht⟩ := exists_of_bind_eq_ok h
  rw [hg.keeps s t ht, hf.keeps r s hs]

theorem Steady.guard {α : Type} {check : Reading → Except Refusal α}
    {f : α → Reading → Except Refusal Reading} (hc : ∀ r, check r.blank = check r)
    (hf : ∀ a, Steady (f a)) : Steady fun r => check r >>= fun a => f a r := by
  refine ⟨fun r => ?_, fun r s h => ?_⟩
  · simp only [hc]
    rcases check r with e | a
    · rfl
    · exact (hf a).blind r
  · obtain ⟨a, -, hs⟩ := exists_of_bind_eq_ok h
    exact (hf a).keeps r s hs

theorem Steady.ite {p : Reading → Bool} (hp : ∀ r, p r.blank = p r) (hf : Steady f)
    (hg : Steady g) : Steady fun r => if p r then f r else g r := by
  refine ⟨Blind.ite hp hf.blind hg.blind, fun r s h => ?_⟩
  split at h
  · exact hf.keeps r s h
  · exact hg.keeps r s h

/-! ### The functions of the reader -/

theorem steady_assign (slot : Slot) (value : String) : Steady fun r => r.assign slot value := by
  cases slot with
  | format =>
    refine Steady.guard (fun _ => rfl) fun _ => Steady.guard (fun _ => rfl) fun value => ?_
    rcases Choice.find? Format.byName value with _ | format
    · exact steady_error _
    · exact steady_ok
  | config =>
    exact Steady.guard (fun _ => rfl) fun _ => Steady.guard (fun _ => rfl) fun _ => steady_ok
  | logLevel =>
    refine Steady.guard (fun r => ?_) fun _ => steady_ok
    simp [once, blank]
  | path => exact Steady.guard (fun _ => rfl) fun _ => steady_ok

theorem assign_logLevel (r : Reading) (v v' : String) :
    (r.assign .logLevel v).map blank = (r.assign .logLevel v').map blank := by
  rcases h : r.logLevel with _ | _ <;> simp only [assign, once, h]
  · rfl
  · rfl

theorem settle_of_none {r : Reading} (h : r.pending = none) : r.settle = .ok r := by
  unfold settle
  rw [h]

theorem settle_of_missing {r : Reading} {slot : Slot} (h : r.pending = some ⟨slot, none⟩) :
    r.settle = .error (.mistake (.valueMissing slot)) := by
  unfold settle
  rw [h]

theorem settle_of_value {r : Reading} {slot : Slot} {value : String}
    (h : r.pending = some ⟨slot, some value⟩) :
    r.settle = { r with pending := none, awaitsValue := false }.assign slot value := by
  unfold settle
  rw [h]

theorem blind_settle : Blind settle := by
  intro r
  have hb : r.blank.pending = r.pending.map Pending.blank := rfl
  rcases hp : r.pending with _ | ⟨slot, _ | value⟩ <;> rw [hp] at hb
  · have hok : Blind .ok := blind_ok
    rw [settle_of_none hp, settle_of_none hb]
    exact hok r
  · have hmissing : r.blank.pending = some ⟨slot, none⟩ := by
      rw [hb]
      cases slot <;> rfl
    rw [settle_of_missing hp, settle_of_missing hmissing]
  · have hassign :=
      (steady_assign slot value).blind { r with pending := none, awaitsValue := false }
    rw [settle_of_value hp]
    cases slot with
    | logLevel =>
      -- the blank reading takes an empty value instead, and any value will do
      rw [settle_of_value hb, assign_logLevel _ "" value]
      exact hassign
    | _ =>
      rw [settle_of_value hb]
      exact hassign

theorem steady_settle : Steady settle := by
  refine ⟨blind_settle, fun r s h => ?_⟩
  rcases hp : r.pending with _ | ⟨slot, _ | value⟩
  · rw [settle_of_none hp] at h
    cases h
    rfl
  · rw [settle_of_missing hp] at h
    cases h
  · rw [settle_of_value hp] at h
    exact (steady_assign slot value).keeps { r with pending := none, awaitsValue := false } s h

theorem steady_raise (flag : Flag) : Steady fun r => r.raise flag := by
  refine steady_settle.bind ?_
  cases flag with
  | help => exact steady_error _
  | version => exact steady_error _
  | allMismatches => exact Steady.ite (fun _ => rfl) (steady_error _) steady_ok

theorem steady_long (name : String) (value : Option String) :
    Steady fun r => r.long name value := by
  unfold long
  rcases slotsByName.lookup name with _ | slot
  · rcases flagsByName.lookup name with _ | flag
    · exact steady_error _
    · rcases value with _ | value
      · exact steady_raise flag
      · exact steady_error _
  · rcases value with _ | value
    · exact steady_settle.bind steady_ok
    · exact steady_settle.bind (steady_assign slot value)

theorem steady_short (cs : List Char) : Steady fun r => r.short cs := by
  induction cs with
  | nil => exact steady_ok
  | cons c cs ih =>
    unfold short
    rcases flagsByLetter.lookup c with _ | flag
    · exact steady_error _
    · exact (steady_raise flag).bind ih

/-- The pending option is given its value. -/
def fill (r : Reading) (value : String) : Reading :=
  { r with pending := r.pending.map fun p => { p with value := some value }, awaitsValue := false }

theorem plain_eq (r : Reading) (arg : String) :
    r.plain arg =
      if r.pending.isSome && (r.awaitsValue && !r.onlyPaths) then .ok (r.fill arg)
      else if r.pathTaken then .error (.mistake (.unexpectedArgument arg))
      else r.settle >>= fun r =>
        .ok { r with pending := some ⟨.path, some arg⟩, pathTaken := true } := by
  unfold plain fill
  rcases r.pending with _ | p
  · rfl
  · rcases r.awaitsValue && !r.onlyPaths with _ | _
    · rfl
    · rfl

theorem steady_plain (arg : String) : Steady fun r => r.plain arg := by
  simp only [plain_eq]
  refine Steady.ite (fun r => ?_) (steady_ok (blind_ok fun r => ?_))
    (Steady.ite (fun _ => rfl) (steady_error _) (steady_settle.bind steady_ok))
  · simp [blank]
  · rcases hp : r.pending with _ | ⟨_ | _ | _ | _, _ | _⟩ <;>
      simp [fill, blank, hp, Pending.blank, Function.comp_def]

theorem steady_step {arg : String} (h : arg ≠ "--") : Steady fun r => r.step arg := by
  refine Steady.ite (fun _ => rfl) (steady_plain arg) ?_
  split
  · next harg => exact absurd (String.toList_inj.mp harg) h
  · exact steady_long _ _
  · exact steady_short _
  · exact steady_plain arg

theorem blind_step (arg : String) : Blind fun r => r.step arg := by
  by_cases h : arg = "--"
  · subst h
    exact Blind.ite (fun _ => rfl) (steady_plain "--").blind blind_ok
  · exact (steady_step h).blind

/-! ### The rest of the line -/

theorem blind_foldlM (args : List String) : Blind fun r => args.foldlM step r := by
  induction args with
  | nil => exact blind_ok
  | cons arg args ih =>
    simp only [List.foldlM_cons]
    exact (blind_step arg).bind ih

theorem onlyPaths_foldlM {args : List String} (h : "--" ∉ args) {r s : Reading}
    (hs : args.foldlM step r = .ok s) : s.onlyPaths = r.onlyPaths := by
  induction args generalizing r with
  | nil =>
    cases hs
    rfl
  | cons arg args ih =>
    rw [List.mem_cons, not_or] at h
    rw [List.foldlM_cons] at hs
    obtain ⟨t, ht, hs⟩ := exists_of_bind_eq_ok hs
    rw [ih h.2 hs, (steady_step (Ne.symm h.1)).keeps r t ht]

/-! ### An option that waits for its value -/

section Awaiting

variable {r s : Reading} {slot : Slot} (hp : r.pending = some ⟨slot, none⟩)
include hp

theorem not_raise_of_missing (flag : Flag) : r.raise flag ≠ .ok s := by
  unfold raise
  rw [settle_of_missing hp]
  exact nofun

theorem not_long_of_missing (name : String) (value : Option String) :
    r.long name value ≠ .ok s := by
  unfold long
  rw [settle_of_missing hp]
  rcases slotsByName.lookup name with _ | slot <;> rcases value with _ | value
  · rcases flagsByName.lookup name with _ | flag
    · exact nofun
    · exact not_raise_of_missing hp flag
  · rcases flagsByName.lookup name with _ | flag
    · exact nofun
    · exact nofun
  · exact nofun
  · exact nofun

theorem not_short_of_missing (c : Char) (cs : List Char) : r.short (c :: cs) ≠ .ok s := by
  unfold short
  rcases flagsByLetter.lookup c with _ | flag
  · exact nofun
  · intro h
    obtain ⟨t, ht, -⟩ := exists_of_bind_eq_ok h
    exact not_raise_of_missing hp flag ht

/-- The next argument is the value, or it is `--` and the value stays missing. -/
theorem step_of_missing (ha : r.awaitsValue = true) (ho : r.onlyPaths = false) {arg : String}
    (h : r.step arg = .ok s) : s = r.fill arg ∨ s = { r with onlyPaths := true } := by
  have hplain : r.plain arg = .ok s → s = r.fill arg := by
    intro h
    rw [plain_eq, hp, ha, ho] at h
    exact (Except.ok.inj h).symm
  unfold step at h
  rw [ho, if_neg Bool.false_ne_true] at h
  split at h
  · exact .inr (Except.ok.inj h).symm
  · exact absurd h (not_long_of_missing hp _ _)
  · exact absurd h (not_short_of_missing hp _ _)
  · exact .inl (hplain h)

/-- A value that is missing at `--` stays missing. -/
theorem not_foldlM_of_missing (ho : r.onlyPaths = true) (args : List String) :
    (args.foldlM step r >>= settle) ≠ .ok s := by
  intro h
  obtain ⟨t, ht, hs⟩ := exists_of_bind_eq_ok h
  rcases args with _ | ⟨arg, args⟩
  · cases ht
    rw [settle_of_missing hp] at hs
    cases hs
  · rw [List.foldlM_cons] at ht
    obtain ⟨u, hu, -⟩ := exists_of_bind_eq_ok ht
    unfold step at hu
    rw [if_pos ho, plain_eq, settle_of_missing hp, ho, Bool.not_true, Bool.and_false,
      Bool.and_false, if_neg Bool.false_ne_true] at hu
    split at hu
    · cases hu
    · cases hu

end Awaiting

/-! ### Two values -/

theorem step_logLevel {r : Reading} (ho : r.onlyPaths = false) :
    r.step "--log-level" = r.settle >>= fun s =>
      .ok { s with pending := some ⟨.logLevel, none⟩, awaitsValue := true } := by
  unfold step
  rw [ho]
  rfl

theorem step_logLevel_append {r : Reading} (ho : r.onlyPaths = false) (v : String) :
    r.step ("--log-level=" ++ v) = r.settle >>= fun s => s.assign .logLevel v := by
  have hlist : ("--log-level=" ++ v).toList = '-' :: '-' :: ("log-level=".toList ++ v.toList) := by
    rw [String.toList_append]
    rfl
  have hname : (splitAtEquals ("log-level=".toList ++ v.toList)).1 = "log-level" := rfl
  have hvalue : (splitAtEquals ("log-level=".toList ++ v.toList)).2 = some v :=
    congrArg some String.ofList_toList
  have hlong : r.step ("--log-level=" ++ v) = r.long
      (splitAtEquals ("log-level=".toList ++ v.toList)).1
      (splitAtEquals ("log-level=".toList ++ v.toList)).2 := by
    unfold step
    rw [ho, hlist]
    rfl
  rw [hlong, hname, hvalue]
  rfl

section TwoValues

variable {r s s' : Reading} (ho : r.onlyPaths = false) {v v' : String} {after : List String}
include ho

/-- A line that can be read to its end has the value right behind the option. -/
theorem exists_of_behind (h : (("--log-level" :: v :: after).foldlM step r >>= settle) = .ok s) :
    ∃ t, r.settle = .ok t ∧ (after.foldlM step
      { t with pending := some ⟨.logLevel, some v⟩, awaitsValue := false } >>= settle) = .ok s := by
  simp only [List.foldlM_cons, step_logLevel ho, bind_assoc] at h
  obtain ⟨t, ht, h⟩ := exists_of_bind_eq_ok h
  obtain ⟨w, hw, h⟩ := exists_of_bind_eq_ok h
  obtain ⟨u, hu, h⟩ := exists_of_bind_eq_ok h
  obtain rfl := Except.ok.inj hw
  have hot : t.onlyPaths = false := by rw [steady_settle.keeps r t ht, ho]
  rcases step_of_missing (by rfl) (by rfl) (by exact hot) hu with rfl | rfl
  · exact ⟨t, ht, h⟩
  · -- `--` in the place of the value: whatever follows, the line is refused
    exact absurd h (not_foldlM_of_missing (by rfl) (by rfl) after)

theorem blank_of_behind (h : (("--log-level" :: v :: after).foldlM step r >>= settle) = .ok s)
    (h' : (("--log-level" :: v' :: after).foldlM step r >>= settle) = .ok s') :
    s.blank = s'.blank := by
  obtain ⟨t, ht, h⟩ := exists_of_behind ho h
  obtain ⟨t', ht', h'⟩ := exists_of_behind ho h'
  rw [ht] at ht'
  cases ht'
  exact ((blind_foldlM after).bind blind_settle).blank_eq (by rfl) h h'

theorem blank_of_joined
    (h : ((("--log-level=" ++ v) :: after).foldlM step r >>= settle) = .ok s)
    (h' : ((("--log-level=" ++ v') :: after).foldlM step r >>= settle) = .ok s') :
    s.blank = s'.blank := by
  rw [List.foldlM_cons, step_logLevel_append ho, bind_assoc] at h h'
  obtain ⟨t, ht, h⟩ := exists_of_bind_eq_ok h
  obtain ⟨t', ht', h'⟩ := exists_of_bind_eq_ok h'
  have hblank : t.blank = t'.blank := by
    obtain ⟨q, hq, ht⟩ := exists_of_bind_eq_ok ht
    obtain ⟨q', hq', ht'⟩ := exists_of_bind_eq_ok ht'
    rw [hq] at hq'
    cases hq'
    have hmap := q.assign_logLevel v v'
    rw [ht, ht'] at hmap
    exact Except.ok.inj hmap
  exact ((blind_foldlM after).bind blind_settle).blank_eq hblank h h'

end TwoValues

theorem arguments_of_blank {r s : Reading} (h : r.blank = s.blank) :
    s.arguments = { r.arguments with logLevel := s.logLevel } := by
  simp only [blank, Reading.mk.injEq] at h
  obtain ⟨hpath, hformat, hall, hconfig, -⟩ := h
  unfold arguments
  rw [hpath, hformat, hall, hconfig]

end Reading

open Reading

theorem exists_of_parse_append {before rest : List String} {args : Arguments}
    (h : parse (before ++ rest) = .ok args) : ∃ r s, before.foldlM step {} = .ok r ∧
      (rest.foldlM step r >>= settle) = .ok s ∧ s.arguments = args := by
  unfold parse at h
  rw [List.foldlM_append, bind_assoc] at h
  obtain ⟨r, hr, h⟩ := exists_of_bind_eq_ok h
  rw [← bind_assoc] at h
  obtain ⟨s, hs, h⟩ := exists_of_bind_eq_ok h
  exact ⟨r, s, hr, hs, Except.ok.inj h⟩

theorem eq_of_parse_append {before rest rest' : List String} (hb : "--" ∉ before)
    (hrest : ∀ {r s s' : Reading}, r.onlyPaths = false → (rest.foldlM step r >>= settle) = .ok s →
      (rest'.foldlM step r >>= settle) = .ok s' → s.blank = s'.blank)
    {args args' : Arguments} (ha : parse (before ++ rest) = .ok args)
    (ha' : parse (before ++ rest') = .ok args') :
    args' = { args with logLevel := args'.logLevel } := by
  obtain ⟨r, s, hr, hs, rfl⟩ := exists_of_parse_append ha
  obtain ⟨r', s', hr', hs', rfl⟩ := exists_of_parse_append ha'
  rw [hr] at hr'
  obtain rfl := Except.ok.inj hr'
  exact arguments_of_blank (hrest (onlyPaths_foldlM hb hr) hs hs')

/-- **The value of the log level changes nothing but the log level.** -/
theorem eq_of_otherLevel {argv argv' : List String} (h : OtherLevel argv argv')
    {args args' : Arguments} (ha : parse argv = .ok args) (ha' : parse argv' = .ok args') :
    args' = { args with logLevel := args'.logLevel } := by
  cases h with
  | behind hb v v' after => exact eq_of_parse_append hb (fun ho => blank_of_behind ho) ha ha'
  | joined hb v v' after => exact eq_of_parse_append hb (fun ho => blank_of_joined ho) ha ha'

end TagNesting.CommandLine
