import Foldmark.Config.File
import Foldmark.Proofs.Config.Exported
import Foldmark.Proofs.Store

/-! Lists of rules that are written to a file and imported from it. The extension of the file decides twice on its
format, once for what is written there and once for the import. Where both agree, the rules come back as
they were, all for one language; they differ where the extension of YAML is not in lower-case letters, and
then what was written is no JSON. -/
namespace Foldmark

namespace Value

variable {fields : List (String × Value)} {items : List Value} {limit : Nat}

theorem depthItems_le : depth.depthItems items ≤ limit ↔ ∀ item ∈ items, item.depth ≤ limit := by
  induction items with
  | nil => simp [depth.depthItems]
  | cons item rest ih => rw [depth.depthItems, Nat.max_le, ih, List.forall_mem_cons]

theorem depthFields_le : depth.depthFields fields ≤ limit ↔ ∀ e ∈ fields, e.2.depth ≤ limit := by
  induction fields with
  | nil => simp [depth.depthFields]
  | cons e rest ih => rw [depth.depthFields, Nat.max_le, ih, List.forall_mem_cons]

theorem isPlainItems_iff : isPlainData.isPlainItems items = true ↔ ∀ item ∈ items, item.isPlainData = true := by
  induction items with
  | nil => simp [isPlainData.isPlainItems]
  | cons item rest ih => rw [isPlainData.isPlainItems, Bool.and_eq_true, ih, List.forall_mem_cons]

theorem isPlainFields_iff : isPlainData.isPlainFields fields = true ↔ ∀ e ∈ fields, e.2.isPlainData = true := by
  induction fields with
  | nil => simp [isPlainData.isPlainFields]
  | cons e rest ih => rw [isPlainData.isPlainFields, Bool.and_eq_true, ih, List.forall_mem_cons]

end Value

namespace Rule

open Value

variable {r : Rule} {w : Value}

theorem cells_scalar (r : Rule) :
    ∀ e ∈ present r.cells, (∃ s, e.2 = .str s) ∨ ∃ b, e.2 = .bool b := by
  have each : ∀ cell ∈ r.cells, ∀ v ∈ cell.2, (∃ s, v = .str s) ∨ ∃ b, v = .bool b := by simp [cells]
  intro e member
  obtain ⟨cell, isCell, there⟩ := List.mem_filterMap.mp member
  obtain ⟨v, hasValue, rfl⟩ := Option.map_eq_some_iff.mp there
  exact each cell isCell v hasValue

theorem fields_of_alike (same : r.toValue.alike w = true) :
    ∃ found, w = .table found ∧ found.Perm (present r.cells) := by
  rw [toValue_eq] at same
  obtain ⟨found, ordered, rfl, perm, each⟩ := table_alike same
  suffices ordered = present r.cells from ⟨found, rfl, this ▸ perm⟩
  have scalar := r.cells_scalar
  clear perm same
  generalize present r.cells = fields at each scalar
  induction each with
  | nil => rfl
  | @cons e e' _ _ first _ ih =>
    obtain ⟨own, others⟩ := List.forall_mem_cons.mp scalar
    have value : e'.2 = e.2 := by
      rcases own with ⟨s, own⟩ | ⟨b, own⟩
      · exact (str_alike (own ▸ first.2)).trans own.symm
      · exact (bool_alike (own ▸ first.2)).trans own.symm
    rw [ih others, Prod.ext first.1 value]

theorem ofValue?_settle_alike (d : Dialect) (same : r.toValue.alike w = true) :
    ofValue? d w.settle = some r := by
  obtain ⟨found, rfl, perm⟩ := fields_of_alike same
  have names : fieldNames.Nodup := by decide
  have distinct : ((present r.cells).map (·.1)).Nodup := names.sublist names_present
  have distinct' : (found.map (·.1)).Nodup := (perm.map _).nodup_iff.mpr distinct
  have settled : found.map (fun e => (e.1, e.2.settle)) = found := by
    rw [List.map_congr_left (g := id) fun e member => ?_, List.map_id]
    rw [(r.cells_settled e (perm.subset member)).1]
    rfl
  apply ofValue?_alike
  rw [toValue_eq, settle_eq_ofList, settled]
  exact alike_of_perm distinct ((KeyMap.entries_ofList_perm distinct').trans perm)
    fun e member => (r.cells_settled e member).2

theorem plain_of_alike (same : r.toValue.alike w = true) : w.depth ≤ 1 ∧ w.isPlainData = true := by
  obtain ⟨found, rfl, perm⟩ := fields_of_alike same
  have scalar : ∀ e ∈ found, e.2.depth ≤ 0 ∧ e.2.isPlainData = true := by
    intro e member
    rcases r.cells_scalar e (perm.subset member) with ⟨s, own⟩ | ⟨b, own⟩ <;> rw [own] <;>
      exact ⟨Nat.le_refl _, rfl⟩
  rw [depth, isPlainData, isPlainFields_iff]
  exact ⟨Nat.succ_le_succ (depthFields_le.mpr fun e member => (scalar e member).1),
    fun e member => (scalar e member).2⟩

end Rule

namespace Json

theorem read?_hyphen (rest : List Char) : Json.read? (String.ofList ('-' :: ' ' :: rest)) = none := by
  have noNumber : readNumber ('-' :: ' ' :: rest) = none := by simp [readNumber]
  have noValue (fuel : Nat) : readValue (fuel + 1) ('-' :: ' ' :: rest) = none := by
    rw [readValue]
    exact noNumber
  simp [Json.read?, noValue]

end Json

namespace Yaml

theorem write_list (item : Value) (items : List Value) :
    ∃ rest, write (.list (item :: items)) = String.ofList ('-' :: ' ' :: rest) := by
  have begins : ∃ text, write (.list (item :: items)) = "- " ++ text := by
    rw [write, itemTexts, lines]
    cases itemTexts 0 items with
    | nil => exact ⟨_, String.intercalate_singleton⟩
    | cons text more => exact ⟨_, by rw [String.intercalate_cons_cons, String.append_assoc, String.append_assoc]⟩
  obtain ⟨text, begins⟩ := begins
  exact ⟨text.toList, by rw [begins]; simp [← String.toList_inj]⟩

end Yaml

/-- A text that a value is written as in a format. JSON is written on several lines or on one. -/
def Dialect.Writes (d : Dialect) (v : Value) (text : String) : Prop :=
  text = d.write v ∨ d = .json ∧ text = Json.writeLine v

namespace Import

open Value

variable {rules : List Rule} {w : Value} {path : String}

theorem items_of_alike (same : (Value.list (rules.map Rule.toValue)).alike w = true) :
    ∃ items, w = .list items ∧ List.Forall₂ (fun r item => r.toValue.alike item = true) rules items := by
  obtain ⟨items, rfl, each⟩ := list_alike same
  exact ⟨items, rfl, List.forall₂_map_left_iff.mp each⟩

theorem usableAt_alike (shaped : ∀ r ∈ rules, r.shape?.isSome = true)
    (same : (Value.list (rules.map Rule.toValue)).alike w = true) : usableAt w.settle = rules := by
  obtain ⟨items, rfl, each⟩ := items_of_alike same
  rw [settle, settleItems_eq, usableAt, records]
  clear same
  induction each with
  | nil => rfl
  | cons first _ ih =>
    obtain ⟨own, others⟩ := List.forall_mem_cons.mp shaped
    have usable := usable?_eq_some.mpr ⟨Rule.ofValue?_settle_alike .json first, own⟩
    rw [List.map_cons, List.filterMap_cons_some usable, ih others]

theorem plain_of_alike (same : (Value.list (rules.map Rule.toValue)).alike w = true) :
    w.depth ≤ 2 ∧ w.isPlainData = true := by
  obtain ⟨items, rfl, each⟩ := items_of_alike same
  have plain : ∀ item ∈ items, item.depth ≤ 1 ∧ item.isPlainData = true := by
    clear same
    induction each with
    | nil => exact List.forall_mem_nil _
    | cons first _ ih => exact List.forall_mem_cons.mpr ⟨Rule.plain_of_alike first, ih⟩
  rw [depth, isPlainData, isPlainItems_iff]
  exact ⟨Nat.succ_le_succ (depthItems_le.mpr fun item member => (plain item member).1),
    fun item member => (plain item member).2⟩

theorem ofValue_alike (occupied : rules ≠ []) (shaped : ∀ r ∈ rules, r.shape?.isSome = true)
    (same : (Value.list (rules.map Rule.toValue)).alike w = true) (asked : Option String) :
    ofValue asked w = .ok (KeyMap.empty.insert ((asked.map language).getD anyLanguage) rules) := by
  have usable := usableAt_alike shaped same
  have key : language (asked.getD anyLanguage) = (asked.map language).getD anyLanguage := by
    cases asked with
    | none => decide +kernel
    | some asked => rw [Option.map_some, Option.getD_some, Option.getD_some]
  obtain ⟨items, rfl, -⟩ := items_of_alike same
  rw [settle] at usable
  rw [ofValue, settle, ofSettled, rules_eq, usable, add, key, ofSettled.finish]
  -- The map has one entry, which is not left out since there is a rule.
  have kept (key : String) : (KeyMap.empty.alter key fun present => present.getD [] ++ rules).filter
      (fun _ rules => !rules.isEmpty) = KeyMap.empty.insert key rules := by
    apply KeyMap.ext
    cases rules with
    | nil => exact absurd rfl occupied
    | cons r rest => rfl
  rw [kept]
  rfl

theorem formatFor_eq_yaml :
    formatFor path = .yaml ↔ Path.extension? path = some "yaml" ∨ Path.extension? path = some "yml" := by
  rw [formatFor]
  split <;> simp_all

theorem formatFor_ne_toml : formatFor path ≠ .toml := by
  rw [formatFor]
  split <;> simp

theorem formatFor_yaml (yaml : formatFor path = .yaml) : Foldmark.formatFor path = .yaml := by
  rcases formatFor_eq_yaml.mp yaml with extension | extension <;>
    simp [Foldmark.formatFor, Path.lowerExtension?, extension]

/-- What is written for a list of rules is imported as it was where both sides take the same format from
the extension of the file. -/
theorem parse_written {text : String} (occupied : rules ≠ []) (shaped : ∀ r ∈ rules, r.shape?.isSome = true)
    (back : ((formatFor path).read? text).any (Value.list (rules.map Rule.toValue)).alike = true)
    (asked : Option String) :
    parse text path asked = .ok (KeyMap.empty.insert ((asked.map language).getD anyLanguage) rules) := by
  obtain ⟨w, read, same⟩ := (Option.any_eq_true _ _).mp back
  obtain ⟨shallow, plain⟩ := plain_of_alike same
  have limit : 2 ≤ nestLimit (formatFor path) := by cases formatFor path <;> decide
  rw [parse]
  simp only [read, Nat.le_trans shallow limit, plain, decide_true, Bool.and_self, if_true]
  exact ofValue_alike occupied shaped same asked

/-- A list of rules that is written to a file in the format of its path, JSON or YAML, is imported from there:
all its rules come back, for the one language that is asked for or for every language. If the extension
is one of YAML that is not in lower-case letters, the file is refused as JSON instead. -/
theorem fromFile_written {s s' : Store} {text : String} (occupied : rules ≠ [])
    (shaped : ∀ r ∈ rules, r.shape?.isSome = true) (data : Foldmark.formatFor path ≠ .toml)
    (writes : (Foldmark.formatFor path).Writes (.list (rules.map Rule.toValue)) text)
    (back : ((Foldmark.formatFor path).read? text).any (Value.list (rules.map Rule.toValue)).alike = true)
    (written : s.write? path (some text) = some s') (asked : Option String) :
    fromFile s' path asked =
      if Foldmark.formatFor path = .yaml ∧
          Path.extension? path ≠ some "yaml" ∧ Path.extension? path ≠ some "yml" then
        .error (.malformed .json)
      else .ok (KeyMap.empty.insert ((asked.map language).getD anyLanguage) rules) := by
  have read : fromFile s' path asked = parse text path asked := by rw [fromFile, Store.read?_write written]
  have lower : (Path.extension? path ≠ some "yaml" ∧ Path.extension? path ≠ some "yml") ↔
      formatFor path ≠ .yaml := by
    rw [Ne, Ne, Ne, formatFor_eq_yaml, not_or]
  simp only [read, lower]
  by_cases yaml : formatFor path = .yaml
  · rw [if_neg fun slip => slip.2 yaml]
    rw [formatFor_yaml yaml, ← yaml] at back
    exact parse_written occupied shaped back asked
  · have json : formatFor path = .json := by
      cases format : formatFor path with
      | json => rfl
      | yaml => exact absurd format yaml
      | toml => exact absurd format formatFor_ne_toml
    cases format : Foldmark.formatFor path with
    | toml => exact absurd format data
    | json =>
      rw [if_neg fun slip => nomatch slip.1]
      rw [format, ← json] at back
      exact parse_written occupied shaped back asked
    | yaml =>
      rw [if_pos ⟨rfl, yaml⟩]
      obtain ⟨r, rest, rfl⟩ := List.exists_cons_of_ne_nil occupied
      rw [format] at writes
      obtain ⟨text', begins⟩ := Yaml.write_list r.toValue (rest.map Rule.toValue)
      have refused : Dialect.json.read? text = none := by
        rcases writes with rfl | ⟨isJson, -⟩
        · exact (congrArg Json.read? begins).trans (Json.read?_hyphen text')
        · cases isJson
      simp [parse, json, refused]

def divider : Rule := { separator := { text := some "part" } }

/-- Two dividers, one of them a pattern with quotes. -/
def dividers : List Rule :=
  [divider, { separator := { regex := some "^\"\\\"$" }, foldLastLine := false, kind := .comment }]

def blank : Store := { base := "/w" }

set_option maxRecDepth 100000 in
/-- They are written on one line to a file whose extension is in upper-case letters, and imported for a language
in brackets. -/
theorem fromFile_written_on_one_line :
    ∃ s', blank.write? "rules.JSON" (some (Json.writeLine (.list (dividers.map Rule.toValue)))) = some s' ∧
      fromFile s' "rules.JSON" (some " [ go] ") = .ok (KeyMap.empty.insert "go" dividers) := by
  have written : (blank.write? "rules.JSON" (some (Json.writeLine (.list (dividers.map Rule.toValue))))).isSome :=
    Store.write?_isSome.mpr ⟨["rules.JSON"], by decide +kernel⟩
  obtain ⟨s', written⟩ := Option.isSome_iff_exists.mp written
  have json : Foldmark.formatFor "rules.JSON" = .json := by decide +kernel
  have language : language " [ go] " = "go" := by decide +kernel
  have back : (Dialect.json.read? (Json.writeLine (.list (dividers.map Rule.toValue)))).any
      (Value.list (dividers.map Rule.toValue)).alike = true := by decide +kernel
  have imported := fromFile_written (by decide : dividers ≠ []) (by decide +kernel) (by rw [json]; decide)
    (.inr ⟨json, rfl⟩) (by rw [json]; exact back) written (some " [ go] ")
  rw [if_neg (by simp [json]), Option.map_some, Option.getD_some, language] at imported
  exact ⟨s', written, imported⟩

set_option maxRecDepth 100000 in
/-- One that is written as YAML to a file whose extension is in upper-case letters is read back there, but the import
refuses it as JSON. -/
theorem fromFile_refused :
    divider.shape?.isSome = true ∧ Foldmark.formatFor "r.YAML" = .yaml ∧
      Dialect.yaml.readsBack (.list [divider.toValue]) = true ∧
      ∃ s', blank.write? "r.YAML" (some (Yaml.write (.list [divider.toValue]))) = some s' ∧
        fromFile s' "r.YAML" none = .error (.malformed .json) := by
  have written : (blank.write? "r.YAML" (some (Yaml.write (.list [divider.toValue])))).isSome = true :=
    Store.write?_isSome.mpr ⟨["r.YAML"], by decide +kernel⟩
  obtain ⟨s', written⟩ := Option.isSome_iff_exists.mp written
  refine ⟨by decide +kernel, by decide +kernel, by decide +kernel, s', written, ?_⟩
  have json : formatFor "r.YAML" = .json := by decide +kernel
  have refused : Dialect.json.read? (Yaml.write (.list [divider.toValue])) = none := by
    obtain ⟨text, begins⟩ := Yaml.write_list divider.toValue []
    exact (congrArg Json.read? begins).trans (Json.read?_hyphen text)
  simp [fromFile, Store.read?_write written, parse, json, refused]

end Import

end Foldmark
