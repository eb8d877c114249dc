import Mathlib.Data.List.Forall2
import Foldmark.Format.Basic
import Foldmark.Proofs.KeyMap

/-! Configurations as records. What reads back as it was written, up to the order of the fields in its
tables, is read as the same configuration: every field is found under its name, absent markers are
absent again, and the languages are put in order. -/
namespace Foldmark

namespace Value

/-- Whether two values are the same up to the order of the fields in tables. -/
def alike : Value → Value → Bool
  | .null, .null => true
  | .bool b, .bool c => b = c
  | .int n, .int m => n = m
  | .other, .other => true
  | .invalid, .invalid => true
  | .plain s, .plain t => s = t
  | .str s, .str t => s = t
  | .list items, .list others => alikeItems items others
  | .table fields, .table others => alikeFields fields others
  | .tagged tag v, .tagged same w => tag = same && alike v w
  | _, _ => false
where
  alikeItems : List Value → List Value → Bool
    | [], [] => true
    | v :: rest, w :: others => alike v w && alikeItems rest others
    | _, _ => false
  /-- Takes every field from among the others, by its name. -/
  alikeFields : List (String × Value) → List (String × Value) → Bool
    | [], others => others.isEmpty
    | (name, v) :: rest, others =>
      match others.lookup name with
      | some w => alike v w && alikeFields rest (others.eraseP (·.1 = name))
      | none => false

/-- Whether a field and what stands for it are both absent, or both there and alike. -/
abbrev SameField (v w : Option Value) : Prop := Option.Rel (fun v w => v.alike w = true) v w

def present (cells : List (String × Option Value)) : List (String × Value) :=
  cells.filterMap fun cell => cell.2.map (cell.1, ·)

end Value

def Dialect.readsBack (d : Dialect) (v : Value) : Bool := (d.read? (d.write v)).any v.alike

section Lists

variable {α β : Type} {f : β → Option α}

theorem bind_of_some {x : Option β} {b : β} {a : α} (first : x = some b) (rest : f b = some a) :
    x >>= f = some a := by
  rw [first]
  exact rest

theorem mapM_of_forall₂ {as : List α} {bs : List β}
    (each : List.Forall₂ (fun a b => f b = some a) as bs) : bs.mapM f = some as := by
  induction each with
  | nil => rfl
  | cons first _ ih => simp [List.mapM_cons, first, ih]

theorem mapM_perm {bs others : List β} (same : bs.Perm others) {as : List α}
    (read : others.mapM f = some as) : ∃ found, bs.mapM f = some found ∧ found.Perm as := by
  induction same generalizing as with
  | nil => exact ⟨as, read, .refl _⟩
  | cons b _ ih =>
    simp only [List.mapM_cons, Option.bind_eq_bind, Option.bind_eq_some_iff, Option.pure_def,
      Option.some.injEq] at read ⊢
    obtain ⟨a, first, rest, read, rfl⟩ := read
    obtain ⟨found, again, same⟩ := ih read
    exact ⟨a :: found, ⟨a, first, found, again, rfl⟩, same.cons a⟩
  | swap b c l =>
    simp only [List.mapM_cons, Option.bind_eq_bind, Option.bind_eq_some_iff, Option.pure_def,
      Option.some.injEq] at read ⊢
    obtain ⟨x, first, _, ⟨y, second, rest, read, rfl⟩, rfl⟩ := read
    exact ⟨y :: x :: rest, ⟨y, second, _, ⟨x, first, rest, read, rfl⟩, rfl⟩, .swap ..⟩
  | trans _ _ first second =>
    obtain ⟨found, again, same⟩ := second read
    obtain ⟨found', again', same'⟩ := first again
    exact ⟨found', again', same'.trans same⟩

end Lists

namespace Value

variable {d : Dialect} {v w : Value} {items others : List Value} {fields found : List (String × Value)}
  {cells : List (String × Option Value)} {name : String}

theorem str_alike {s : String} (same : (Value.str s).alike w = true) : w = .str s := by
  cases w <;> simp_all [alike]

theorem bool_alike {b : Bool} (same : (Value.bool b).alike w = true) : w = .bool b := by
  cases w <;> simp_all [alike]

theorem some_rel {read : Option Value} (rel : SameField (some v) read) :
    ∃ w, read = some w ∧ v.alike w = true := by
  cases rel with
  | some same => exact ⟨_, rfl, same⟩

theorem str_rel {s : String} {read : Option Value} (rel : SameField (some (.str s)) read) :
    read = some (.str s) := by
  obtain ⟨w, rfl, same⟩ := some_rel rel
  rw [str_alike same]

theorem bool_rel {b : Bool} {read : Option Value} (rel : SameField (some (.bool b)) read) :
    read = some (.bool b) := by
  obtain ⟨w, rfl, same⟩ := some_rel rel
  rw [bool_alike same]

theorem list_alike (same : (Value.list items).alike w = true) :
    ∃ others, w = .list others ∧ List.Forall₂ (fun v w => v.alike w = true) items others := by
  cases w with
  | list others =>
    refine ⟨others, rfl, ?_⟩
    simp only [alike] at same
    induction items generalizing others with
    | nil => cases others <;> simp_all [alike.alikeItems]
    | cons v rest ih =>
      cases others with
      | nil => simp [alike.alikeItems] at same
      | cons w others =>
        simp only [alike.alikeItems, Bool.and_eq_true] at same
        exact .cons same.1 (ih others same.2)
  | _ => simp [alike] at same

theorem perm_of_lookup {α : Type} {entries : List (String × α)} {value : α}
    (here : entries.lookup name = some value) :
    entries.Perm ((name, value) :: entries.eraseP (·.1 = name)) := by
  induction entries with
  | nil => simp at here
  | cons first rest ih =>
    obtain ⟨key, value'⟩ := first
    rw [Entries.lookup_cons] at here
    by_cases same : name = key
    · subst same
      rw [if_pos rfl, Option.some.injEq] at here
      subst here
      rw [List.eraseP_cons_of_pos (by simp)]
    · rw [if_neg same] at here
      rw [List.eraseP_cons_of_neg (by simpa using Ne.symm same)]
      exact ((ih here).cons _).trans (.swap ..)

theorem table_alike (same : (Value.table fields).alike w = true) :
    ∃ found ordered, w = .table found ∧ found.Perm ordered ∧
      List.Forall₂ (fun e e' => e'.1 = e.1 ∧ e.2.alike e'.2 = true) fields ordered := by
  cases w with
  | table found =>
    simp only [alike] at same
    suffices ∃ ordered, found.Perm ordered ∧
        List.Forall₂ (fun e e' => e'.1 = e.1 ∧ e.2.alike e'.2 = true) fields ordered by
      obtain ⟨ordered, matched⟩ := this
      exact ⟨found, ordered, rfl, matched⟩
    induction fields generalizing found with
    | nil =>
      rw [alike.alikeFields, List.isEmpty_iff] at same
      exact ⟨[], same ▸ .refl _, .nil⟩
    | cons first rest ih =>
      obtain ⟨name, v⟩ := first
      rw [alike.alikeFields] at same
      split at same
      · rename_i w here
        rw [Bool.and_eq_true] at same
        obtain ⟨ordered, perm, each⟩ := ih _ same.2
        refine ⟨(name, w) :: ordered, ?_, .cons ⟨rfl, same.1⟩ each⟩
        exact (perm_of_lookup here).trans (perm.cons _)
      · cases same
  | _ => simp [alike] at same

section Matched

variable {ordered : List (String × Value)}
  (each : List.Forall₂ (fun e e' => e'.1 = e.1 ∧ e.2.alike e'.2 = true) fields ordered)

include each

theorem names_forall₂ : ordered.map (·.1) = fields.map (·.1) := by
  induction each with
  | nil => rfl
  | cons first _ ih => rw [List.map_cons, List.map_cons, first.1, ih]

theorem lookup_forall₂ (name : String) :
    SameField (fields.lookup name) (ordered.lookup name) := by
  induction each with
  | nil => exact .none
  | @cons e e' _ _ first _ ih =>
    obtain ⟨key, v⟩ := e
    obtain ⟨key', w⟩ := e'
    obtain ⟨rfl, same⟩ := first
    rw [Entries.lookup_cons, Entries.lookup_cons]
    by_cases here : name = key'
    · rw [if_pos here, if_pos here]
      exact .some same
    · rw [if_neg here, if_neg here]
      exact ih

end Matched

theorem names_present : ((present cells).map (·.1)).Sublist (cells.map (·.1)) := by
  induction cells with
  | nil => exact .slnil
  | cons cell rest ih =>
    obtain ⟨name, _ | v⟩ := cell
    · exact ih.cons name
    · exact ih.cons_cons name

theorem lookup_present (distinct : (cells.map (·.1)).Nodup) (name : String) :
    (present cells).lookup name = (cells.lookup name).join := by
  induction cells with
  | nil => rfl
  | cons cell rest ih =>
    rw [List.map_cons, List.nodup_cons] at distinct
    have later := ih distinct.2
    obtain ⟨key, _ | v⟩ := cell
    · have absent : name = key → (present rest).lookup name = none := by
        rintro rfl
        exact Entries.lookup_eq_none_of_notMem fun member => distinct.1 (names_present.subset member)
      rw [Entries.lookup_cons]
      by_cases here : name = key
      · rw [if_pos here]
        exact absent here
      · rw [if_neg here]
        exact later
    · have first : present ((key, some v) :: rest) = (key, v) :: present rest := rfl
      rw [first, Entries.lookup_cons, Entries.lookup_cons, later]
      by_cases here : name = key <;> simp [here]

theorem record?_alike (d : Dialect) (cells : List (String × Option Value)) {names : List String}
    (distinct : names.Nodup) (labels : cells.map (·.1) = names)
    (same : (Value.table (present cells)).alike w = true) :
    ∃ found, w.record? d names = some found ∧ ∀ name,
      SameField ((cells.lookup name).join) (found.lookup name) := by
  subst labels
  obtain ⟨found, ordered, rfl, perm, each⟩ := table_alike same
  have perm' : (found.map (·.1)).Perm ((present cells).map (·.1)) :=
    names_forall₂ each ▸ perm.map (·.1)
  have distinct' : (found.map (·.1)).Nodup := perm'.nodup_iff.mpr (distinct.sublist names_present)
  have known : found.filter (fun field => field.1 ∈ cells.map (·.1)) = found := by
    rw [List.filter_eq_self]
    intro field member
    rw [decide_eq_true_eq]
    exact names_present.subset (perm'.subset (List.mem_map_of_mem member))
  refine ⟨found, ?_, fun name => ?_⟩
  · simp only [record?, known, distinct', if_true]
  · rw [← lookup_present distinct, Entries.lookup_perm distinct' perm]
    exact lookup_forall₂ each name

end Value

namespace Rule

open Value

variable {d : Dialect} {r : Rule} {w : Value}

/-- The fields of a rule, of which the texts may be missing. -/
def cells (r : Rule) : List (String × Option Value) :=
  [("begin", r.opening.text.map .str), ("middle", r.middle.text.map .str),
    ("end", r.closing.text.map .str), ("continuation", r.continuation.text.map .str),
    ("separator", r.separator.text.map .str), ("beginRegex", r.opening.regex.map .str),
    ("middleRegex", r.middle.regex.map .str), ("endRegex", r.closing.regex.map .str),
    ("continuationRegex", r.continuation.regex.map .str),
    ("separatorRegex", r.separator.regex.map .str), ("foldLastLine", some (.bool r.foldLastLine)),
    ("nested", some (.bool r.nested)), ("kind", some (.str r.kind.name))]

theorem present_text (name : String) (t : Option String) (cells : List (String × Option Value)) :
    present ((name, t.map .str) :: cells) = textField name t ++ present cells := by
  cases t <;> rfl

theorem toValue_eq (r : Rule) : r.toValue = .table (present r.cells) := by
  simp only [toValue, cells, present_text, List.append_assoc]
  rfl

def textOf? (d : Dialect) : Option Value → Option (Option String)
  | some v => v.textOrNone? d
  | none => some none

theorem textOf?_alike {t : Option String} {read : Option Value}
    (found : SameField (t.map Value.str) read) :
    textOf? d read = some t := by
  cases t with
  | none =>
    cases found
    rfl
  | some s =>
    cases found with
    | some same =>
      rw [str_alike same]
      rfl

/-- The setting of a switch, which is on where it is missing. -/
def switchOf? : Option Value → Option Bool
  | some v => v.bool?
  | none => some true

theorem switchOf?_alike {b : Bool} {read : Option Value} (found : SameField (some (.bool b)) read) :
    switchOf? read = some b := by
  rw [bool_rel found]
  rfl

theorem ofValue?_alike (d : Dialect) (same : r.toValue.alike w = true) : ofValue? d w = some r := by
  rw [toValue_eq] at same
  have distinct : fieldNames.Nodup := by decide
  obtain ⟨found, read, rel⟩ := record?_alike d r.cells distinct rfl same
  have kind : found.lookup "kind" = some (.str r.kind.name) := str_rel (rel "kind")
  -- The fields are read one after another, each as it was written.
  apply bind_of_some read
  rw [kind]
  apply bind_of_some (Kind.ofName?_name r.kind)
  apply bind_of_some (textOf?_alike (rel "begin"))
  apply bind_of_some (textOf?_alike (rel "beginRegex"))
  apply bind_of_some (textOf?_alike (rel "middle"))
  apply bind_of_some (textOf?_alike (rel "middleRegex"))
  apply bind_of_some (textOf?_alike (rel "end"))
  apply bind_of_some (textOf?_alike (rel "endRegex"))
  apply bind_of_some (textOf?_alike (rel "continuation"))
  apply bind_of_some (textOf?_alike (rel "continuationRegex"))
  apply bind_of_some (textOf?_alike (rel "separator"))
  apply bind_of_some (textOf?_alike (rel "separatorRegex"))
  apply bind_of_some (switchOf?_alike (rel "foldLastLine"))
  apply bind_of_some (switchOf?_alike (rel "nested"))
  rfl

end Rule

namespace Config

open Value

variable {d : Dialect} {w : Value}

theorem settingsOfValue?_alike (d : Dialect) {s : Settings} (same : (settingsValue s).alike w = true) :
    settingsOfValue? d w = some s := by
  have distinct : ["default_language", "output_format", "verbose"].Nodup := by decide
  obtain ⟨found, read, rel⟩ := record?_alike d
    [("default_language", some (.str s.defaultLanguage)),
      ("output_format", some (.str s.outputFormat.name)), ("verbose", some (.bool s.verbose))]
    distinct rfl same
  have language := str_rel (rel "default_language")
  have format := str_rel (rel "output_format")
  have verbose := bool_rel (rel "verbose")
  simp only [settingsOfValue?, read, language, format, verbose, choice?, text?, bool?,
    OutputFormat.ofName?_name, Option.bind_eq_bind, Option.bind_some]
  rfl

def languageOf? (d : Dialect) (field : String × Value) : Option (String × List Rule) := do
  return (field.1, ← (← field.2.items? d).mapM (Rule.ofValue? d))

theorem rulesOfValue?_table (d : Dialect) (fields : List (String × Value)) :
    rulesOfValue? d (.table fields) = (fields.mapM (languageOf? d)).bind fun entries =>
      some (KeyMap.ofList entries) :=
  rfl

theorem rulesOfValue?_alike (d : Dialect) {rules : RuleMap} (same : (rulesValue rules).alike w = true) :
    rulesOfValue? d w = some rules := by
  obtain ⟨found, ordered, rfl, perm, each⟩ := table_alike same
  rw [List.forall₂_map_left_iff] at each
  have entries : ordered.mapM (languageOf? d) = some rules.entries := by
    apply mapM_of_forall₂
    apply each.imp
    rintro ⟨language, declared⟩ ⟨name, value⟩ ⟨rfl, same⟩
    obtain ⟨items, rfl, each⟩ := list_alike same
    rw [List.forall₂_map_left_iff] at each
    have read : items.mapM (Rule.ofValue? d) = some declared :=
      mapM_of_forall₂ (each.imp fun _ _ => Rule.ofValue?_alike d)
    simp [languageOf?, items?, read]
  obtain ⟨read, entries, same⟩ := mapM_perm perm entries
  rw [rulesOfValue?_table, entries, Option.bind_some, KeyMap.ofList_perm same]

theorem ofValue?_alike (d : Dialect) {c : Config} (same : c.toValue.alike w = true) :
    ofValue? d w = some c := by
  have distinct : ["version", "rules", "global_settings"].Nodup := by decide
  obtain ⟨found, read, rel⟩ := record?_alike d
    [("version", some (.str c.version)), ("rules", some (rulesValue c.rules)),
      ("global_settings", some (settingsValue c.settings))]
    distinct rfl same
  have version := str_rel (rel "version")
  obtain ⟨rules, hasRules, sameRules⟩ := some_rel (rel "rules")
  obtain ⟨settings, hasSettings, sameSettings⟩ := some_rel (rel "global_settings")
  simp only [ofValue?, read, version, hasRules, hasSettings, text?, rulesOfValue?_alike d sameRules,
    settingsOfValue?_alike d sameSettings, Option.bind_eq_bind, Option.bind_some]
  rfl

theorem ofValue?_render (c : Config) (d : Dialect) (back : d.readsBack c.toValue = true) :
    (d.read? (c.render d)).bind (ofValue? d) = some c := by
  obtain ⟨w, read, same⟩ := (Option.any_eq_true _ _).mp back
  rw [render, read, Option.bind_some]
  exact ofValue?_alike d same

theorem readFormat_eq (path : String) : readFormat path = formatFor path := rfl

theorem parse?_eq (text path : String) :
    parse? text path = ((formatFor path).read? text).bind (ofValue? (formatFor path)) := by
  rw [parse?, readFormat_eq]
  rfl

/-- A configuration is read back from the text that is written for it, whatever the format that the path
asks for, if that format reads back the value of the configuration. -/
theorem parse?_render (c : Config) (path : String)
    (back : (formatFor path).readsBack c.toValue = true) :
    parse? (c.render (formatFor path)) path = some c := by
  rw [parse?_eq]
  exact ofValue?_render c (formatFor path) back

/-- A configuration with a rule in which most markers are absent, and with a language that has neither a name
nor rules, which TOML moves in front of the others. -/
def scattered : Config :=
  { version := "1"
    rules := KeyMap.ofList
      [("", [{ opening := { text := some "\"" }, nested := false, kind := .comment }]), ("c d", [])]
    settings := { defaultLanguage := "true", outputFormat := .yaml, verbose := true } }

set_option maxRecDepth 100000 in
/-- The configuration is read back from TOML, though its languages stand in another order there. -/
theorem parse?_render_scattered :
    (formatFor "folding").readsBack scattered.toValue = true ∧
    parse? (scattered.render (formatFor "folding")) "folding" = some scattered := by
  have back : (formatFor "folding").readsBack scattered.toValue = true := by decide +kernel
  exact ⟨back, parse?_render scattered "folding" back⟩

end Config

end Foldmark
