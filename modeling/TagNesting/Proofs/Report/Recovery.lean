import TagNesting.Proofs.Json.Rendering
import TagNesting.Report.Json

/-!
# A report read back from its JSON text

The JSON form of a report is a JSON text whose value has the path, the verdict, the fields of the
report and an object for each diagnostic (`Report.value`), with no key twice in any object
(`Report.distinct_value`).  The path and the report are found again by looking up their keys
(`Report.ofValue?_value`), so the text holds all of both.
-/

namespace TagNesting

open TagNesting.Json

/-! ### The value of a report -/

/-- The kind of a fault and the fields of that kind. -/
def Fault.entries : Fault → List (String × Value)
  | .unexpectedClosing name => [("kind", .string "unexpected_closing"), ("name", .string name)]
  | .mismatch expected openedAt found =>
    [("kind", .string "mismatch"), ("expected", .string expected), ("opened_at", .number openedAt),
     ("found", .string found)]
  | .unclosed name => [("kind", .string "unclosed_tag"), ("name", .string name)]

/-- The object for a diagnostic. -/
def Diagnostic.value (d : Diagnostic) : Value :=
  .object (("line", .number d.line) :: (d.fault.entries ++ [("message", .string d.message)]))

/-- **The object for a report** on the file of that path. -/
def Report.value (r : Report) (path : String) : Value :=
  .object
    [("path", .string path), ("balanced", .bool r.isBalanced), ("halted", .bool r.halted),
     ("lines_scanned", .number r.linesScanned),
     ("diagnostics", .array (r.diagnostics.map Diagnostic.value))]

theorem Fault.map_value_members (f : Fault) :
    f.members.map (fun m => (m.1, m.2.value)) = f.entries := by
  cases f <;> simp [Fault.members, Fault.entries, Json.value]

theorem Diagnostic.value_toJson (d : Diagnostic) : d.toJson.value = d.value := by
  rw [Diagnostic.toJson, Json.value, List.map_cons, List.map_append, Fault.map_value_members]
  simp [Diagnostic.value, Json.value]

theorem Report.value_toJson (r : Report) (path : String) :
    (r.toJson path).value = r.value path := by
  have hds : (r.diagnostics.map Diagnostic.toJson).map Json.value =
      r.diagnostics.map Diagnostic.value := by
    rw [List.map_map]
    exact List.map_congr_left fun d _ => d.value_toJson
  simp [Report.toJson, Report.value, Json.value, hds]

/-! ### No key occurs twice -/

/-- **In every object of the value all keys are different.** -/
inductive Json.Value.Distinct : Value → Prop
  | null : Distinct .null
  | bool (b : Bool) : Distinct (.bool b)
  | number (q : ℚ) : Distinct (.number q)
  | string (s : String) : Distinct (.string s)
  | array {items : List Value} : (∀ v ∈ items, Distinct v) → Distinct (.array items)
  | object {members : List (String × Value)} : (members.map Prod.fst).Nodup →
      (∀ m ∈ members, Distinct m.2) → Distinct (.object members)

theorem Diagnostic.distinct_value (d : Diagnostic) : d.value.Distinct := by
  rcases d with ⟨line, fault⟩
  refine .object ?_ ?_
  · cases fault <;> simp [Fault.entries]
  · cases fault <;> simp [Fault.entries, Value.Distinct.number, Value.Distinct.string]

theorem Report.distinct_value (r : Report) (path : String) : (r.value path).Distinct := by
  have hds : (Value.array (r.diagnostics.map Diagnostic.value)).Distinct := by
    refine .array fun v hv => ?_
    obtain ⟨d, -, rfl⟩ := List.mem_map.mp hv
    exact d.distinct_value
  refine .object (by simp) ?_
  simp [hds, Value.Distinct.bool, Value.Distinct.number, Value.Distinct.string]

/-! ### Looking things up -/

namespace Json.Value

def member? (key : String) : Value → Option Value
  | .object members => members.lookup key
  | _ => none

def string? : Value → Option String
  | .string s => some s
  | _ => none

def bool? : Value → Option Bool
  | .bool b => some b
  | _ => none

/-- A number that is a natural one. -/
def nat? : Value → Option Nat
  | .number q => if q.den = 1 ∧ 0 ≤ q.num then some q.num.toNat else none
  | _ => none

def items? : Value → Option (List Value)
  | .array items => some items
  | _ => none

theorem nat?_number (n : Nat) : nat? (.number n) = some n := by
  simp [nat?]

end Json.Value

/-- The fault that an object tells of. -/
def Fault.ofValue? (v : Value) : Option Fault := do
  let kind ← (← v.member? "kind").string?
  if kind = "unexpected_closing" then
    return .unexpectedClosing (← (← v.member? "name").string?)
  else if kind = "mismatch" then
    return .mismatch (← (← v.member? "expected").string?) (← (← v.member? "opened_at").nat?)
      (← (← v.member? "found").string?)
  else if kind = "unclosed_tag" then
    return .unclosed (← (← v.member? "name").string?)
  else none

/-- The diagnostic that an object tells of. -/
def Diagnostic.ofValue? (v : Value) : Option Diagnostic := do
  let line ← (← v.member? "line").nat?
  let fault ← Fault.ofValue? v
  return ⟨line, fault⟩

/-- The path and the report that an object tells of. -/
def Report.ofValue? (v : Value) : Option (String × Report) := do
  let path ← (← v.member? "path").string?
  let halted ← (← v.member? "halted").bool?
  let linesScanned ← (← v.member? "lines_scanned").nat?
  let diagnostics ← (← (← v.member? "diagnostics").items?).mapM Diagnostic.ofValue?
  return (path, ⟨diagnostics, halted, linesScanned⟩)

/-- **Reads the path and the report** from a JSON text. -/
def Report.read? (text : String) : Option (String × Report) :=
  (parse? text.toList).bind Report.ofValue?

theorem Diagnostic.ofValue?_value (d : Diagnostic) : Diagnostic.ofValue? d.value = some d := by
  rcases d with ⟨line, fault⟩
  cases fault <;>
    simp [Diagnostic.value, Diagnostic.ofValue?, Fault.entries, Fault.ofValue?, Value.member?,
      Value.string?, Value.nat?_number, List.lookup_cons]

/-- What is decoded one by one is decoded as a list. -/
theorem mapM_map_eq_some {α β : Type} {encode : α → β} {decode : β → Option α} {xs : List α}
    (h : ∀ x ∈ xs, decode (encode x) = some x) : (xs.map encode).mapM decode = some xs := by
  induction xs with
  | nil => rfl
  | cons x xs ih =>
    have hrest := ih fun y hy => h y (List.mem_cons_of_mem x hy)
    rw [List.map_cons, List.mapM_cons, h x List.mem_cons_self, hrest]
    rfl

theorem Diagnostic.mapM_ofValue? (ds : List Diagnostic) :
    (ds.map Diagnostic.value).mapM Diagnostic.ofValue? = some ds :=
  mapM_map_eq_some fun d _ => d.ofValue?_value

/-- **The path and the report are found again in their object.** -/
theorem Report.ofValue?_value (r : Report) (path : String) :
    Report.ofValue? (r.value path) = some (path, r) := by
  simp [Report.value, Report.ofValue?, Value.member?, Value.string?, Value.bool?,
    Value.nat?_number, Value.items?, Diagnostic.mapM_ofValue?, List.lookup_cons, -List.mapM_map]

/-! ### The text -/

theorem Report.isText_pretty (r : Report) (path : String) :
    IsText (r.toJson path).pretty.toList (r.value path) := by
  have h := isText_render (r.toJson path) (w := []) (by simp [Blank])
  rw [List.append_nil, Report.value_toJson] at h
  rw [Json.pretty, String.toList_ofList]
  exact h

theorem Report.isText_toJsonText (r : Report) (path : String) :
    IsText (r.toJsonText path).toList (r.value path) := by
  have h := isText_render (r.toJson path) (w := ['\n']) (by simp [Blank, isBlank])
  rw [Report.value_toJson] at h
  rw [Report.toJsonText, Json.pretty, String.toList_append, String.toList_ofList]
  exact h

theorem Report.read?_toJsonText (r : Report) (path : String) :
    Report.read? (r.toJsonText path) = some (path, r) := by
  unfold Report.read?
  rw [parse?_of_isText (r.isText_toJsonText path), Option.bind_some, Report.ofValue?_value]

/-- Members in another order, other escapes, other numerals and other blanks. -/
example : Report.read? ("\x7b\"diagnostics\":[\x7b\"kind\":\"unclosed_tag\",\"line\":12e1," ++
    "\"name\":\"\\u00e9\\ud83d\\ude00\"\x7d],\r\n \"halted\":false,\"path\" : \"\\/\"," ++
    "\"lines_scanned\":0.5E+1\x7d") =
    some ("/", ⟨[⟨120, .unclosed "é😀"⟩], false, 5⟩) := by
  decide +kernel

/-- **The JSON form of a report holds all of it.**  It is a JSON text and a line feed.  The one value
that the text denotes, and that reading it gives, is an object with the path, the verdict, the halt,
the number of lines and the diagnostics as its members; in no object does a key occur twice.  The
path and the report are read back, so two different paths or reports are never written alike. -/
theorem toJsonText_holds_report :
    (∀ (path : String) (r : Report),
      (∃ text : String, r.toJsonText path = text ++ "\n" ∧
        (∀ v, IsText text.toList v ↔ v = .object
          [("path", .string path), ("balanced", .bool r.isBalanced), ("halted", .bool r.halted),
           ("lines_scanned", .number r.linesScanned),
           ("diagnostics", .array (r.diagnostics.map Diagnostic.value))]) ∧
        parse? text.toList = some (r.value path)) ∧
      (r.value path).Distinct ∧
      Report.read? (r.toJsonText path) = some (path, r)) ∧
    Function.Injective fun x : String × Report => x.2.toJsonText x.1 := by
  constructor
  · intro path r
    have htext := r.isText_pretty path
    refine ⟨⟨(r.toJson path).pretty, rfl, fun v => ⟨fun hv => hv.unique htext, ?_⟩,
      parse?_of_isText htext⟩, r.distinct_value path, r.read?_toJsonText path⟩
    rintro rfl
    exact htext
  · rintro ⟨path, r⟩ ⟨path', r'⟩ h
    have hread := r.read?_toJsonText path
    have hread' := r'.read?_toJsonText path'
    rw [← show r.toJsonText path = r'.toJsonText path' from h, hread] at hread'
    exact Option.some.inj hread'

end TagNesting
