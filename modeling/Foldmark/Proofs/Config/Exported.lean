import Foldmark.Proofs.Config.Imported
import Foldmark.Proofs.Config.Record

/-! Rules that are written into settings and imported again. Settling puts the fields of every record in order,
which changes nothing in what is read from them, so every rule with a shape comes back, and every language
whose name an import leaves as it is has its own rules again. -/
namespace Foldmark

namespace Value

variable {fields found : List (String × Value)}

theorem settleItems_eq (items : List Value) : settle.settleItems items = items.map settle := by
  induction items with
  | nil => rfl
  | cons item rest ih => rw [settle.settleItems, ih, List.map_cons]

theorem foldl_putField_eq (fields : List (String × Value)) (m : KeyMap Value) :
    fields.foldl (fun sorted e => putField e.1 e.2 sorted) m.entries =
      (fields.foldl (fun m e => m.insert e.1 e.2) m).entries := by
  induction fields generalizing m with
  | nil => rfl
  | cons first rest ih =>
    rw [List.foldl_cons, List.foldl_cons, putField_eq]
    exact ih (m.insert first.1 first.2)

theorem settle_eq_ofList (fields : List (String × Value)) :
    (Value.table fields).settle =
      .table (KeyMap.ofList (fields.map fun e => (e.1, e.2.settle))).entries := by
  rw [settle, settleFields_eq, KeyMap.ofList]
  exact congrArg Value.table (foldl_putField_eq _ .empty)

theorem alike_of_perm (distinct : (fields.map (·.1)).Nodup) (same : found.Perm fields)
    (self : ∀ e ∈ fields, e.2.alike e.2 = true) : (Value.table fields).alike (.table found) = true := by
  rw [alike]
  induction fields generalizing found with
  | nil => rw [same.eq_nil, alike.alikeFields, List.isEmpty_nil]
  | cons first rest ih =>
    obtain ⟨name, v⟩ := first
    obtain ⟨first, further⟩ := List.forall_mem_cons.mp self
    have here : found.lookup name = some v := by
      rw [← Entries.lookup_perm distinct same.symm, Entries.lookup_cons, if_pos rfl]
    have left : (found.eraseP (·.1 = name)).Perm rest :=
      ((perm_of_lookup here).symm.trans same).cons_inv
    rw [List.map_cons, List.nodup_cons] at distinct
    rw [alike.alikeFields, here]
    simp only [first, ih distinct.2 left further, Bool.and_self]

end Value

namespace Rule

open Value

theorem cells_settled (r : Rule) : ∀ e ∈ present r.cells, e.2.settle = e.2 ∧ e.2.alike e.2 = true := by
  have each : ∀ cell ∈ r.cells, ∀ v ∈ cell.2, v.settle = v ∧ v.alike v = true := by
    simp [cells, settle, alike]
  intro e member
  obtain ⟨cell, isCell, there⟩ := List.mem_filterMap.mp member
  obtain ⟨v, hasValue, rfl⟩ := Option.map_eq_some_iff.mp there
  exact each cell isCell v hasValue

theorem ofValue?_settle (d : Dialect) (r : Rule) : ofValue? d r.toValue.settle = some r := by
  have names : fieldNames.Nodup := by decide
  have distinct : ((present r.cells).map (·.1)).Nodup := names.sublist names_present
  have each : ∀ e ∈ present r.cells, (e.1, e.2.settle) = id e := fun e member => by
    rw [(r.cells_settled e member).1]
    rfl
  have settled : (present r.cells).map (fun e => (e.1, e.2.settle)) = present r.cells := by
    rw [List.map_congr_left each, List.map_id]
  apply ofValue?_alike
  rw [toValue_eq, settle_eq_ofList, settled]
  exact alike_of_perm distinct (KeyMap.entries_ofList_perm distinct)
    fun e member => (r.cells_settled e member).2

end Rule

namespace Import

variable {m : RuleMap} {settings : List (String × Value)}

/-- The languages of an entry that rules are written into, settled. -/
def exported (m : RuleMap) : List (String × Value) :=
  m.entries.map fun e => (e.1, .list (e.2.map fun r => r.toValue.settle))

theorem settle_rulesValue (m : RuleMap) : (Config.rulesValue m).settle = .table (exported m) := by
  have ordered : Entries.Ordered (exported m) := List.pairwise_map.mpr m.ordered
  have same : KeyMap.ofList (exported m) = ⟨exported m, ordered⟩ := KeyMap.ofList_perm (.refl _)
  have settled : (m.entries.map fun e => (e.1, Value.list (e.2.map Rule.toValue))).map
      (fun e => (e.1, e.2.settle)) = exported m := by
    simp [exported, Value.settle, Value.settleItems_eq]
  rw [Config.rulesValue, Value.settle_eq_ofList, settled, same]

theorem usableAt_exported {rules : List Rule} (shaped : ∀ r ∈ rules, r.shape?.isSome = true) :
    usableAt (.list (rules.map fun r => r.toValue.settle)) = rules := by
  have usable : ∀ r ∈ rules, usable? r.toValue.settle = some r :=
    fun r member => usable?_eq_some.mpr ⟨Rule.ofValue?_settle .json r, shaped r member⟩
  rw [usableAt, records, List.filterMap_map]
  exact (List.filterMap_congr usable).trans List.filterMap_some

theorem usableOf_exported (named : ∀ e ∈ m.entries, Import.language e.1 = e.1)
    (shaped : ∀ e ∈ m.entries, ∀ r ∈ e.2, r.shape?.isSome = true) (language : String) :
    usableOf language (exported m) = (m.get? language).getD [] := by
  rw [usableOf, exported, List.flatMap_map, KeyMap.get?,
    ← Entries.flatMap_lookup m.ordered.distinct language]
  refine List.flatMap_congr fun e member => ?_
  simp only [named e member, usableAt_exported (shaped e member)]

theorem ofSettled_entry (asked : Option String) {entry : Value}
    (found : settings.lookup Settings.rulesKey = some entry)
    (unsectioned : ∀ e ∈ settings, isSection e.1 = false) :
    ofSettled asked (.table settings) =
      ofSettled.finish (collect .empty (entryPlaces asked entry)) := by
  have nowhere : sectionPlaces settings = [] := by
    rw [sectionPlaces, List.filterMap_eq_nil_iff]
    intro e member
    rw [unsectioned e member]
    rfl
  rw [ofSettled, addSections_eq, nowhere, entry?, found]
  exact congrArg ofSettled.finish (ofEntry_eq asked entry)

theorem lookup_rulesKey (entry : (Settings.rulesKey, Config.rulesValue m) ∈ settings)
    (only : ∀ e ∈ settings, e.1 = Settings.rulesKey → e.2 = Config.rulesValue m) :
    (KeyMap.ofList (settings.map fun e => (e.1, e.2.settle))).entries.lookup Settings.rulesKey =
      some (.table (exported m)) := by
  rw [← settle_rulesValue, ← KeyMap.get?, KeyMap.get?_ofList]
  apply Entries.lookup_of_only
  · rw [List.mem_reverse]
    exact List.mem_map_of_mem (f := fun e : String × Value => (e.1, e.2.settle)) entry
  · intro e member key
    obtain ⟨setting, isSetting, rfl⟩ := List.mem_map.mp (List.mem_reverse.mp member)
    rw [only setting isSetting key]

/-- An import of what was written for the languages of a map is that map, if none of them is without rules. -/
theorem Imports.eq_of_exported {imported : RuleMap} (imports : Imports (exported m) imported)
    (declared : ∀ e ∈ m.entries, e.2 ≠ [])
    (shaped : ∀ e ∈ m.entries, ∀ r ∈ e.2, r.shape?.isSome = true)
    (named : ∀ e ∈ m.entries, language e.1 = e.1) : imported = m := by
  apply KeyMap.ext_get?
  intro language
  rw [imports.listed, usableOf_exported named shaped]
  cases found : m.get? language with
  | none => rfl
  | some rules => exact if_neg (declared _ (KeyMap.mem_entries_iff.mpr found))

/-- Rules that are written into settings are imported as they were, whatever language is asked for and whatever
else is set. The languages have to be named as an import names them, none may be without rules, and the
other settings must not hold rules themselves: none is a section or has the key of the rules. -/
theorem ofValue_rulesValue (entry : (Settings.rulesKey, Config.rulesValue m) ∈ settings)
    (only : ∀ e ∈ settings, e.1 = Settings.rulesKey → e.2 = Config.rulesValue m)
    (unsectioned : ∀ e ∈ settings, isSection e.1 = false) (occupied : m.isEmpty = false)
    (declared : ∀ e ∈ m.entries, e.2 ≠ [])
    (shaped : ∀ e ∈ m.entries, ∀ r ∈ e.2, r.shape?.isSome = true)
    (named : ∀ e ∈ m.entries, language e.1 = e.1) (asked : Option String) :
    ofValue asked (.table settings) = .ok m := by
  have unsectioned' : ∀ e ∈ (KeyMap.ofList (settings.map fun e => (e.1, e.2.settle))).entries,
      isSection e.1 = false := by
    intro e member
    obtain ⟨setting, isSetting, rfl⟩ := List.mem_map.mp (KeyMap.mem_of_mem_ofList member)
    exact unsectioned setting isSetting
  rw [ofValue, Value.settle_eq_ofList, ofSettled_entry asked (lookup_rulesKey entry only) unsectioned']
  rcases finish_cases (exported m) with ⟨nothing, -⟩ | ⟨-, imported, read, imports⟩
  · -- Some language has a rule, and every rule is usable.
    obtain ⟨e, member⟩ := List.exists_mem_of_ne_nil m.entries (by simpa [KeyMap.isEmpty] using occupied)
    refine absurd ?_ (declared e member)
    have here := List.flatMap_eq_nil_iff.mp nothing _ (List.mem_map_of_mem member)
    rwa [usableAt_exported (shaped e member)] at here
  · obtain rfl := imports.eq_of_exported declared shaped named
    exact read

/-- Rules of two languages, one of them with a name in half of the brackets that a section has. -/
def sharedRules : RuleMap :=
  KeyMap.ofList
    [("[c", [.ofTexts "/*" "*/", { separator := { regex := some "^#" }, foldLastLine := false, kind := .comment }]),
      ("*", [.ofPatterns "\"" "\""])]

/-- They stand between a setting of another kind and what looks like a section for a language. -/
def sharedSettings : List (String × Value) :=
  [("tabSize", .int 4), (Settings.rulesKey, Config.rulesValue sharedRules),
    ("b", .table [(Settings.rulesKey, .list [pairRecord "(" ")"])])]

set_option maxRecDepth 100000 in
/-- They are imported as they were, and the language that is asked for has none. -/
theorem ofValue_rulesValue_shared :
    sharedRules.isEmpty = false ∧ sharedRules.get? "b" = none ∧
      ofValue (some "b") (.table sharedSettings) = .ok sharedRules := by
  have occupied : sharedRules.isEmpty = false := by decide +kernel
  have declared : ∀ e ∈ sharedRules.entries, e.2 ≠ [] := by decide +kernel
  have shaped : ∀ e ∈ sharedRules.entries, ∀ r ∈ e.2, r.shape?.isSome = true := by decide +kernel
  have named : ∀ e ∈ sharedRules.entries, language e.1 = e.1 := by decide +kernel
  have unsectioned : ∀ e ∈ sharedSettings, isSection e.1 = false := by
    simp only [sharedSettings, List.forall_mem_cons, List.not_mem_nil, false_implies, implies_true, and_true]
    decide +kernel
  have only : ∀ e ∈ sharedSettings, e.1 = Settings.rulesKey → e.2 = Config.rulesValue sharedRules := by
    simp [sharedSettings, Settings.rulesKey]
  have entry : (Settings.rulesKey, Config.rulesValue sharedRules) ∈ sharedSettings := by
    simp [sharedSettings]
  exact ⟨occupied, by decide +kernel,
    ofValue_rulesValue entry only unsectioned occupied declared shaped named (some "b")⟩

end Import

end Foldmark
