import Foldmark.Config.Import
import Foldmark.Proofs.KeyMap

/-! What an import gives. Settings of every layout are a list of places in which rules are read, each under the
key that names its language, and the rules of a language are those of its places, one place after the other. -/
namespace Foldmark

namespace Entries

variable {α : Type} {key : String} {value : α} {entries : List (String × α)} {e : String × α}

theorem mem_alter_const (member : e ∈ alter key (fun _ => value) entries) :
    e = (key, value) ∨ e ∈ entries := by
  induction entries with
  | nil => exact .inl (List.mem_singleton.mp member)
  | cons first rest ih =>
    obtain ⟨k, v⟩ := first
    simp only [alter] at member
    split at member
    · exact List.mem_cons.mp member
    · split at member
      · rcases List.mem_cons.mp member with here | later
        · exact .inr (List.mem_cons.mpr (.inl here))
        · exact (ih later).imp_right (List.mem_cons_of_mem _)
      · exact (List.mem_cons.mp member).imp_right (List.mem_cons_of_mem _)

theorem flatMap_alter_perm {entries : List (String × List α)} (key : String) (added : List α) :
    ((alter key (fun present => present.getD [] ++ added) entries).flatMap (·.2)).Perm
      (entries.flatMap (·.2) ++ added) := by
  induction entries with
  | nil => simp [alter]
  | cons first rest ih =>
    obtain ⟨k, v⟩ := first
    simp only [alter]
    split
    · simp only [List.flatMap_cons, Option.getD_none, List.nil_append]
      exact List.perm_append_comm
    · split
      · simp only [List.flatMap_cons, List.append_assoc]
        exact ih.append_left v
      · simp only [List.flatMap_cons, Option.getD_some, List.append_assoc]
        exact List.perm_append_comm.append_left v

theorem flatMap_filter_occupied (entries : List (String × List α)) :
    (entries.filter fun e => !e.2.isEmpty).flatMap (·.2) = entries.flatMap (·.2) := by
  induction entries with
  | nil => rfl
  | cons first rest ih =>
    obtain ⟨k, v⟩ := first
    cases v <;> simp [ih]

end Entries

namespace Value

theorem putField_eq (name : String) (value : Value) (fields : List (String × Value)) :
    putField name value fields = Entries.alter name (fun _ => value) fields := by
  induction fields with
  | nil => rfl
  | cons first rest ih =>
    obtain ⟨n, v⟩ := first
    simp only [putField, Entries.alter, ih]

theorem foldl_putField (fields sorted : List (String × Value)) (ordered : Entries.Ordered sorted) :
    Entries.Ordered (fields.foldl (fun sorted e => putField e.1 e.2 sorted) sorted) ∧
      ∀ e ∈ fields.foldl (fun sorted e => putField e.1 e.2 sorted) sorted, e ∈ fields ∨ e ∈ sorted := by
  induction fields generalizing sorted with
  | nil => exact ⟨ordered, fun e member => .inr member⟩
  | cons first rest ih =>
    rw [List.foldl_cons, putField_eq]
    obtain ⟨later, origin⟩ := ih _ (Entries.ordered_alter ordered)
    refine ⟨later, fun e member => ?_⟩
    rcases origin e member with old | put
    · exact .inl (List.mem_cons_of_mem _ old)
    · exact (Entries.mem_alter_const put).imp (fun here => List.mem_cons.mpr (.inl here)) id

theorem settleFields_eq (fields : List (String × Value)) :
    settle.settleFields fields = fields.map fun e => (e.1, e.2.settle) := by
  induction fields with
  | nil => rfl
  | cons first rest ih => rw [settle.settleFields, ih, List.map_cons]

theorem settle_settleFields {fields : List (String × Value)} {e : String × Value}
    (member : e ∈ settle.settleFields fields) : ∃ v, e.2 = settle v := by
  rw [settleFields_eq] at member
  obtain ⟨field, -, rfl⟩ := List.mem_map.mp member
  exact ⟨field.2, rfl⟩

theorem settle_table {fields : List (String × Value)} :
    ∀ {v : Value}, v.settle = .table fields →
      Entries.Ordered fields ∧ ∀ e ∈ fields, ∃ w : Value, e.2 = w.settle
  | .table written, settled => by
    rw [settle] at settled
    obtain ⟨ordered, origin⟩ := foldl_putField (settle.settleFields written) [] .nil
    rw [Value.table.inj settled] at ordered origin
    exact ⟨ordered, fun e member => settle_settleFields ((origin e member).resolve_right List.not_mem_nil)⟩
  | .tagged _ v, settled => settle_table (v := v) settled
  | .plain s, settled => by
    rw [settle] at settled
    split at settled
    · cases settled
    · split at settled
      · cases settled
      · split at settled <;> cases settled

end Value

namespace Import

/-- The places in an entry with rules: one for each language, or one for the language that is asked for. -/
def entryPlaces (asked : Option String) : Value → List (String × Value)
  | .table languages => languages
  | list => [(asked.getD anyLanguage, list)]

/-- The places in sections for one language, which are the tables with an entry under a key in brackets. -/
def sectionPlaces (settings : List (String × Value)) : List (String × Value) :=
  settings.filterMap fun e => if isSection e.1 then Option.map (e.1, ·) <| entry? e.2 else none

/-- The places in settings that rules are read from, each under the key that tells its language. -/
def places (asked : Option String) : Value → List (String × Value)
  | .list records => [(asked.getD anyLanguage, .list records)]
  | .table settings =>
    (Option.map (entryPlaces asked) <| entry? (.table settings)).getD [] ++ sectionPlaces settings
  | _ => []

/-- The records at a place: those of a list, or a single one. -/
def records : Value → List Value
  | .list records => records
  | .table fields => [.table fields]
  | _ => []

def usableAt (place : Value) : List Rule := (records place).filterMap usable?

theorem rules_eq (place : Value) : rules place = usableAt place := by
  cases place with
  | table fields =>
    rw [rules, usableAt, records]
    cases found : usable? (.table fields) <;> simp [found]
  | _ => rfl

def collect (found : RuleMap) (places : List (String × Value)) : RuleMap :=
  places.foldl (fun found place => add found place.1 (usableAt place.2)) found

theorem ofEntry_eq (asked : Option String) (entry : Value) :
    ofEntry asked entry = collect .empty (entryPlaces asked entry) := by
  cases entry with
  | table languages => simp only [ofEntry, entryPlaces, collect, rules_eq]
  | _ => simp only [ofEntry, entryPlaces, collect, rules_eq, List.foldl_cons, List.foldl_nil]

theorem addSections_eq (found : RuleMap) (settings : List (String × Value)) :
    addSections found settings = collect found (sectionPlaces settings) := by
  rw [addSections, collect, sectionPlaces, List.foldl_filterMap]
  congr 1
  funext found e
  cases entry? e.2 <;> by_cases named : isSection e.1 = true <;> simp [named, rules_eq]

theorem ofSettled_eq (asked : Option String) (v : Value) :
    ofSettled asked v = .error .notSettings ∧ places asked v = [] ∨
      ofSettled asked v = ofSettled.finish (collect .empty (places asked v)) := by
  cases v with
  | list records =>
    right
    rw [ofSettled, rules_eq]
    rfl
  | table settings =>
    right
    rw [ofSettled, addSections_eq, places]
    cases entry? (.table settings) with
    | none => rfl
    | some entry =>
      simp only [ofEntry_eq, Option.map_some, Option.getD_some, collect, List.foldl_append]
  | _ => exact .inl ⟨rfl, rfl⟩

def usableIn (read : List (String × Value)) : List Rule := read.flatMap fun place => usableAt place.2

/-- The usable rules of a language, from the places that mean it. -/
def usableOf (language : String) (read : List (String × Value)) : List Rule :=
  read.flatMap fun place => if Import.language place.1 = language then usableAt place.2 else []

theorem get?_collect (found : RuleMap) (read : List (String × Value)) (language : String) :
    ((collect found read).get? language).getD [] =
      (found.get? language).getD [] ++ usableOf language read := by
  induction read generalizing found with
  | nil => exact (List.append_nil _).symm
  | cons place rest ih =>
    have step := ih (add found place.1 (usableAt place.2))
    have split : usableOf language (place :: rest) =
        (if Import.language place.1 = language then usableAt place.2 else []) ++ usableOf language rest := rfl
    rw [split, collect, List.foldl_cons, ← collect, step, add, KeyMap.get?_alter]
    by_cases own : language = Import.language place.1
    · subst own
      simp
    · rw [if_neg own, if_neg (Ne.symm own), List.nil_append]

theorem collect_perm (found : RuleMap) (read : List (String × Value)) :
    ((collect found read).entries.flatMap (·.2)).Perm
      (found.entries.flatMap (·.2) ++ usableIn read) := by
  induction read generalizing found with
  | nil => simp [collect, usableIn]
  | cons place rest ih =>
    have step := ih (add found place.1 (usableAt place.2))
    have split : usableIn (place :: rest) = usableAt place.2 ++ usableIn rest := rfl
    rw [split, collect, List.foldl_cons, ← collect, ← List.append_assoc]
    exact step.trans ((Entries.flatMap_alter_perm _ _).append_right _)

structure Imports (read : List (String × Value)) (m : RuleMap) : Prop where
  /-- A language has the rules at its places, in their order. -/
  listed : ∀ language, m.get? language =
    if usableOf language read = [] then none else some (usableOf language read)
  occupied : ∀ e ∈ m.entries, e.2 ≠ []
  /-- No usable rule is lost, and none is there twice. -/
  once : (m.entries.flatMap (·.2)).Perm (usableIn read)

theorem imports_collect (read : List (String × Value)) :
    Imports read ((collect .empty read).filter fun _ rules => !rules.isEmpty) where
  listed := by
    intro language
    have listed := get?_collect .empty read language
    rw [show (KeyMap.empty : RuleMap).get? language = none from rfl, Option.getD_none, List.nil_append] at listed
    rw [← listed, KeyMap.get?, KeyMap.filter,
      Entries.lookup_filter (collect .empty read).ordered.distinct fun _ rules => !rules.isEmpty, ← KeyMap.get?]
    cases (collect .empty read).get? language with
    | none => rfl
    | some rules => cases rules <;> rfl
  occupied := by
    intro e member
    simpa using (List.mem_filter.mp member).2
  once := by
    rw [KeyMap.filter, Entries.flatMap_filter_occupied]
    exact collect_perm .empty read

theorem finish_cases (read : List (String × Value)) :
    (usableIn read = [] ∧ ofSettled.finish (collect .empty read) = .error .noRules) ∨
      (usableIn read ≠ [] ∧ ∃ m, ofSettled.finish (collect .empty read) = .ok m ∧ Imports read m) := by
  have imports := imports_collect read
  rw [ofSettled.finish]
  by_cases empty : ((collect .empty read).filter fun _ rules => !rules.isEmpty).isEmpty = true
  · have nothing := imports.once
    rw [List.isEmpty_iff.mp empty, List.flatMap_nil] at nothing
    exact .inl ⟨List.nil_perm.mp nothing, if_pos empty⟩
  · refine .inr ⟨fun nothing => empty ?_, _, if_neg empty, imports⟩
    have none := imports.once
    rw [nothing, List.perm_nil, List.flatMap_eq_nil_iff] at none
    rw [KeyMap.isEmpty, List.isEmpty_iff, List.eq_nil_iff_forall_not_mem]
    exact fun e member => imports.occupied e member (none e member)

theorem usable?_eq_some {record : Value} {r : Rule} :
    usable? record = some r ↔ Rule.ofValue? .json record = some r ∧ r.shape?.isSome = true := by
  simp only [usable?, Option.bind_eq_bind, Option.bind_eq_some_iff]
  constructor
  · rintro ⟨other, read, shaped⟩
    split at shaped
    · rename_i isShaped
      cases shaped
      exact ⟨read, isShaped⟩
    · cases shaped
  · rintro ⟨read, shaped⟩
    exact ⟨r, read, if_pos shaped⟩

theorem usableIn_ne_nil {read : List (String × Value)} :
    usableIn read ≠ [] ↔
      ∃ place ∈ read, ∃ record ∈ records place.2, ∃ r,
        Rule.ofValue? .json record = some r ∧ r.shape?.isSome = true := by
  constructor
  · intro occupied
    obtain ⟨r, member⟩ := List.exists_mem_of_ne_nil _ occupied
    obtain ⟨place, here, inside⟩ := List.mem_flatMap.mp member
    obtain ⟨record, listed, usable⟩ := List.mem_filterMap.mp inside
    exact ⟨place, here, record, listed, r, usable?_eq_some.mp usable⟩
  · rintro ⟨place, here, record, listed, r, usable⟩
    have inside : r ∈ usableAt place.2 :=
      List.mem_filterMap.mpr ⟨record, listed, usable?_eq_some.mpr usable⟩
    exact List.ne_nil_of_mem (List.mem_flatMap.mpr ⟨place, here, inside⟩)

/-- The places of a settled table stand in the order of their keys, those of its entry and those of its
sections. -/
theorem places_ordered {settings : List (String × Value)} {v : Value} (settled : v.settle = .table settings) :
    (sectionPlaces settings).Pairwise (fun a b => a.1 < b.1) ∧
      ∀ languages, entry? (.table settings) = some (.table languages) →
        languages.Pairwise fun a b => a.1 < b.1 := by
  obtain ⟨ordered, values⟩ := Value.settle_table settled
  constructor
  · have key : ∀ e place : String × Value,
        (if isSection e.1 then Option.map (e.1, ·) <| entry? e.2 else none) = some place → place.1 = e.1 := by
      intro e place isPlace
      split at isPlace
      · obtain ⟨list, -, rfl⟩ := Option.map_eq_some_iff.mp isPlace
        rfl
      · cases isPlace
    refine List.Pairwise.filterMap _ (fun a b before place isPlace other isOther => ?_) ordered
    rw [key a place isPlace, key b other isOther]
    exact before
  · intro languages entry
    have member : (Settings.rulesKey, Value.table languages) ∈ settings :=
      (Entries.mem_iff_lookup ordered.distinct).mpr entry
    obtain ⟨w, same⟩ := values _ member
    exact (Value.settle_table same.symm).1

/-- Settings are imported just when some record in one of the places for rules is a rule that has a shape. What
is imported are the usable rules of all places, by their languages and in their order, which is that of the
keys. -/
theorem ofValue_imports (asked : Option String) (v : Value) :
    ((∃ m, ofValue asked v = .ok m) ↔ ∃ place ∈ places asked v.settle, ∃ record ∈ records place.2, ∃ r,
      Rule.ofValue? .json record = some r ∧ r.shape?.isSome = true) ∧
    (∀ m, ofValue asked v = .ok m → Imports (places asked v.settle) m) ∧
    ∀ settings, v.settle = .table settings →
      (sectionPlaces settings).Pairwise (fun a b => a.1 < b.1) ∧
        ∀ languages, entry? (.table settings) = some (.table languages) →
          languages.Pairwise fun a b => a.1 < b.1 := by
  rw [← usableIn_ne_nil, ofValue]
  refine ⟨?_, ?_, fun settings => places_ordered⟩
  · rcases ofSettled_eq asked v.settle with ⟨refused, nowhere⟩ | read
    · simp [refused, nowhere, usableIn]
    · rw [read]
      rcases finish_cases (places asked v.settle) with ⟨nothing, refused⟩ | ⟨occupied, m, imported, -⟩
      · simp [refused, nothing]
      · exact ⟨fun _ => occupied, fun _ => ⟨m, imported⟩⟩
  · intro m imported
    rcases ofSettled_eq asked v.settle with ⟨refused, -⟩ | read
    · cases refused.symm.trans imported
    · rw [read] at imported
      rcases finish_cases (places asked v.settle) with ⟨-, refused⟩ | ⟨-, m', imported', imports⟩
      · cases refused.symm.trans imported
      · cases imported'.symm.trans imported
        exact imports

/-- A record with two markers, and one with a marker too few. -/
def pairRecord (opening closing : String) : Value := .table [("begin", .str opening), ("end", .str closing)]

def loneRecord : Value := .table [("begin", .str "(")]

/-- Rules for one language in a section and under two names in the entry, with records that are no rules. -/
def scattered : Value :=
  .table
    [("[b]", .table [(Settings.rulesKey, pairRecord "1" "2")]),
      (Settings.rulesKey, .table
        [(" b ", .list [pairRecord "3" "4", .null, pairRecord "5" "6"]), ("[b]", .list [loneRecord]),
          ("[ b ]", pairRecord "7" "8"), ("c", .list [])])]

set_option maxRecDepth 100000 in
/-- All rules are found, in the order of the keys, and the language without rules is left out. -/
theorem ofValue_imports_scattered :
    ∃ m, ofValue none scattered = .ok m ∧
      m.get? "b" = some [.ofTexts "3" "4", .ofTexts "5" "6", .ofTexts "7" "8", .ofTexts "1" "2"] ∧
      m.get? "c" = none := by
  obtain ⟨succeeds, imports, -⟩ := ofValue_imports none scattered
  have evaluated : usableOf "b" (places none scattered.settle) =
        [.ofTexts "3" "4", .ofTexts "5" "6", .ofTexts "7" "8", .ofTexts "1" "2"] ∧
      usableOf "c" (places none scattered.settle) = [] ∧
      (ofValue none scattered).toOption.isSome = true := by decide +kernel
  obtain ⟨b, c, isOk⟩ := evaluated
  cases imported : ofValue none scattered with
  | error reason =>
    rw [imported] at isOk
    cases isOk
  | ok m =>
    have listed := (imports m imported).listed
    refine ⟨m, rfl, ?_, ?_⟩
    · rw [listed, b]
      rfl
    · rw [listed, c]
      rfl

end Import

end Foldmark
