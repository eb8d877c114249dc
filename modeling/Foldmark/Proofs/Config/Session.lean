import Mathlib.Data.List.Induction
import Mathlib.Data.List.Infix
import Foldmark.Config.File
import Foldmark.Proofs.Action
import Foldmark.Proofs.Config.Record
import Foldmark.Proofs.Pattern.Reader
import Foldmark.Proofs.Store

/-! The configuration file over runs of steps. The file stands for a configuration in memory: a step that
succeeds does to the file what it does to that configuration, and a step that fails does nothing. -/
namespace Foldmark

namespace Config

instance : DecidableEq Config := fun c c' =>
  decidable_of_iff (c.version = c'.version ∧ c.rules = c'.rules ∧ c.settings = c'.settings)
    (by cases c; cases c'; simp)

/-- Whether one configuration comes from another by putting rules in the place of those of a language. -/
def Puts (c c' : Config) (language : String) (rules : Option (List Rule)) : Prop :=
  c'.version = c.version ∧ c'.settings = c.settings ∧
    ∀ other, c'.rules.get? other = if other = language then rules else c.rules.get? other

/-- Whether one configuration comes from another by adding rules behind those of their languages. -/
def Appends (c c' : Config) (added : List (String × List Rule)) : Prop :=
  c'.version = c.version ∧ c'.settings = c.settings ∧
    ∀ language, c'.rules.get? language =
      match added.lookup language with
      | some rules => some ((c.rules.get? language).getD [] ++ rules)
      | none => c.rules.get? language

theorem puts_addRules (c : Config) (language : String) (rules : List Rule) :
    c.Puts (c.addRules language rules) language (some ((c.rules.get? language).getD [] ++ rules)) :=
  ⟨rfl, rfl, KeyMap.get?_alter c.rules language _⟩

theorem appends_foldl (c : Config) (added : List (String × List Rule))
    (distinct : (added.map (·.1)).Nodup) :
    c.Appends (added.foldl (fun c e => c.addRules e.1 e.2) c) added := by
  induction added generalizing c with
  | nil => exact ⟨rfl, rfl, fun _ => rfl⟩
  | cons first rest ih =>
    obtain ⟨key, rules⟩ := first
    rw [List.map_cons, List.nodup_cons] at distinct
    obtain ⟨version, settings, later⟩ := ih (c.addRules key rules) distinct.2
    obtain ⟨version', settings', here⟩ := puts_addRules c key rules
    refine ⟨version.trans version', settings.trans settings', fun language => ?_⟩
    rw [List.foldl_cons, later, here, Entries.lookup_cons]
    by_cases same : language = key
    · subst same
      rw [Entries.lookup_eq_none_of_notMem distinct.1, if_pos rfl, if_pos rfl]
    · rw [if_neg same, if_neg same]

theorem appends_merge (c : Config) (found : RuleMap) : c.Appends (c.merge found) found.entries :=
  appends_foldl c found.entries found.ordered.distinct

end Config

namespace Action

variable {path : String} {files : List String}

theorem runOn_load (path : String) (s : Store) : (load path).runOn s = (ConfigFile.load s path, s) := by
  rw [load, runOn_bind, runOn_get]
  exact runOn_ofExcept _ _

theorem reads_load (path : String) : Reads (load path) := fun s => by rw [runOn_load]

theorem runOn_save_ok {s s' : Store} {c : Config}
    (written : s.write? path (some (c.render (formatFor path))) = some s') :
    (save path c).runOn s = (.ok (), s') := by
  rw [save, runOn_write, written]

theorem write?_of_save {s s' : Store} {c : Config} (saved : (save path c).runOn s = (.ok (), s')) :
    s.write? path (some (c.render (formatFor path))) = some s' := by
  rw [save, runOn_write] at saved
  split at saved
  · rename_i written
    cases saved
    exact written
  · cases saved

theorem runOn_create_of_holds {s : Store} (there : s.holds path = true) : (create path).runOn s = (.ok (), s) := by
  simp only [create, runOn_bind, runOn_get, there]
  rfl

theorem runOn_create_of_absent {s : Store} (absent : s.holds path = false) :
    (create path).runOn s = (save path .initial).runOn s := by
  simp only [create, runOn_bind, runOn_get, absent]
  rfl

theorem atomic_save (member : path ∈ files) (c : Config) : Atomic files (save path c) :=
  atomic_write member _ _

theorem atomic_create (member : path ∈ files) : Atomic files (create path) := by
  refine reads_get.bind_atomic fun s => ?_
  split
  · exact atomic_save member .initial
  · exact atomic_pure ()

theorem atomic_addRule (member : path ∈ files) (language : String) (r : Rule) :
    Atomic files (addRule path language r) := by
  rw [addRule]
  split
  · exact atomic_throw _
  · exact (reads_load path).bind_atomic fun c => atomic_save member _

theorem atomic_removeRule (member : path ∈ files) (language : String) (index : Nat) :
    Atomic files (removeRule path language index) := by
  refine (reads_load path).bind_atomic fun c => ?_
  split
  · exact atomic_throw _
  · split
    · exact atomic_throw _
    · exact (atomic_save member _).map _

theorem atomic_importRules (member : path ∈ files) (file : String) (asked : Option String) :
    Atomic files (importRules path file asked) := by
  refine reads_get.bind_atomic fun s => ?_
  split
  · exact atomic_throw _
  · have changed (found : RuleMap) : Atomic files (do save path ((← load path).merge found)) :=
      (reads_load path).bind_atomic fun c => atomic_save member _
    exact ((changed _).adapt _).map _

theorem atomic_exportTo {file : String} (member : file ∈ files) (d : Dialect) :
    Atomic files (exportTo path file d) :=
  (reads_load path).bind_atomic fun _ => atomic_write member _ _

end Action

namespace ConfigFile

inductive Step
  | create
  | add (language : String) (r : Rule)
  | remove (language : String) (index : Nat)
  | importFrom (file : String) (asked : Option String)
  | save (c : Config)

namespace Step

/-- What a step does, with the configuration file at a path. -/
def run (path : String) : Step → Action Unit
  | .create => Action.create path
  | .add language r => Action.addRule path language r
  | .remove language index => do
    let _ ← Action.removeRule path language index
    return ()
  | .importFrom file asked => do
    let _ ← Action.importRules path file asked
    return ()
  | .save c => Action.save path c

/-- The configuration after a step that is taken in memory. The files only give what is imported. -/
def apply (s : Store) (c : Config) : Step → Except Failure Config
  | .create => .ok c
  | .add language r =>
    match r.compile with
    | .ok _ => .ok (c.addRules language [r])
    | .error reason => .error (.refusedRule language reason)
  | .remove language index =>
    match c.rules.get? language with
    | none => .error (.noRules language)
    | some rules =>
      if index < rules.length then
        .ok { c with
          rules :=
            if rules.length = 1 then c.rules.erase language
            else c.rules.insert language (rules.eraseIdx index) }
      else .error (.noSuchRule language index rules.length)
  | .importFrom file asked =>
    match s.read? file with
    | none => .error (.importFailed file .unreadable)
    | some text =>
      match Import.parse text file asked with
      | .ok found => .ok (c.merge found)
      | .error reason => .error (.importFailed file reason)
  | .save c => .ok c

def Effect (s : Store) (c c' : Config) : Step → Prop
  | .create => c' = c
  | .add language r => c.Puts c' language (some ((c.rules.get? language).getD [] ++ [r]))
  | .remove language index =>
    ∃ rules, c.rules.get? language = some rules ∧ index < rules.length ∧
      c.Puts c' language (if rules.length = 1 then none else some (rules.eraseIdx index))
  | .importFrom file asked =>
    ∃ text found, s.read? file = some text ∧ Import.parse text file asked = .ok found ∧
      c.Appends c' found.entries
  | .save given => c' = given

def tried (path : String) (s : Store) (step : Step) : Store := ((step.run path).runOn s).2

def kept (s : Store) (c : Config) (step : Step) : Config :=
  match step.apply s c with
  | .ok c' => c'
  | .error _ => c

end Step

def after (path : String) : Store → List Step → Store
  | s, [] => s
  | s, step :: rest => after path (step.tried path s) rest

/-- The configuration in memory after some steps were tried. -/
def memory (path : String) : Store → Config → List Step → Config
  | _, c, [] => c
  | s, c, step :: rest => memory path (step.tried path s) (step.kept s c) rest

structure Mirrors (path : String) (s : Store) (c : Config) : Prop where
  loads : load s path = .ok c
  writable : s.Writable path

variable {path : String} {s s' : Store} {c c' : Config}

theorem save_mirrors (writable : s.Writable path) (back : (formatFor path).readsBack c.toValue = true) :
    ∃ s', (Action.save path c).runOn s = (.ok (), s') ∧ Mirrors path s' c := by
  obtain ⟨s', written⟩ := Option.isSome_iff_exists.mp (writable (some (c.render (formatFor path))))
  have parsed : Config.parse? (c.render (formatFor path)) path = some c :=
    (Config.parse?_eq _ path).trans (Config.ofValue?_render c (formatFor path) back)
  refine ⟨s', Action.runOn_save_ok written, ?_, Store.writable_write written⟩
  simp [load, Store.holds_write written, Store.read?_write written, parsed]

section Loaded

variable (loads : load s path = .ok c)

include loads

theorem create_eq (absent : s.holds path = false) :
    (Action.create path).runOn s = (Action.save path c).runOn s := by
  have initial : load s path = .ok .initial := if_pos (by simpa using absent)
  cases loads.symm.trans initial
  exact Action.runOn_create_of_absent absent

theorem addRule_eq (language : String) (r : Rule) :
    (Action.addRule path language r).runOn s =
      (ofExcept (Step.apply s c (.add language r)) >>= Action.save path).runOn s := by
  rw [Action.addRule, Step.apply]
  cases r.compile with
  | error reason => rfl
  | ok _ => simp only [Action.runOn_bind, Action.runOn_load, Action.runOn_ofExcept, loads]

theorem removeRule_eq (language : String) (index : Nat) :
    (Step.run path (.remove language index)).runOn s =
      (ofExcept (Step.apply s c (.remove language index)) >>= Action.save path).runOn s := by
  simp only [Step.run, Action.removeRule, Action.runOn_bind, Action.runOn_load, Step.apply, loads]
  cases c.rules.get? language with
  | none => rfl
  | some rules =>
    by_cases inside : index < rules.length
    · -- Nothing is left of the language just where the rule was its only one.
      have last : (rules.eraseIdx index).isEmpty = true ↔ rules.length = 1 := by
        rw [List.isEmpty_iff_length_eq_zero, List.length_eraseIdx_of_lt inside]
        omega
      simp only [List.getElem?_eq_getElem inside, if_pos inside, last, Action.runOn_bind, Action.runOn_ofExcept]
      rcases (Action.save path _).runOn s with ⟨e | x, left⟩ <;> rfl
    · simp only [List.getElem?_eq_none (Nat.le_of_not_lt inside), if_neg inside]
      rfl

theorem importRules_eq (file : String) (asked : Option String) :
    (Step.run path (.importFrom file asked)).runOn s =
      Action.runOn (ofExcept (Step.apply s c (.importFrom file asked)) >>= fun c =>
        ExceptT.adapt (Failure.importInto file) (Action.save path c)) s := by
  simp only [Step.run, Action.importRules, Import.fromFile, Action.runOn_bind, Action.runOn_get, Step.apply]
  cases s.read? file with
  | none => rfl
  | some text =>
    dsimp only
    cases Import.parse text file asked with
    | error reason => rfl
    | ok found =>
      simp only [Action.runOn_bind, Action.runOn_adapt, Action.runOn_load, Action.runOn_ofExcept, loads]
      rcases (Action.save path (c.merge found)).runOn s with ⟨e | x, left⟩ <;> rfl

end Loaded

namespace Step

theorem atomic_run (path : String) (step : Step) : Action.Atomic [path] (step.run path) := by
  have member : path ∈ [path] := List.mem_singleton_self path
  cases step with
  | create => exact Action.atomic_create member
  | add language r => exact Action.atomic_addRule member language r
  | remove language index => exact (Action.atomic_removeRule member language index).map _
  | importFrom file asked => exact (Action.atomic_importRules member file asked).map _
  | save c => exact Action.atomic_save member c

theorem effect_apply {step : Step} (applied : step.apply s c = .ok c') : step.Effect s c c' := by
  cases step with
  | create =>
    cases applied
    rfl
  | add language r =>
    simp only [apply] at applied
    split at applied
    · cases applied
      exact Config.puts_addRules c language [r]
    · cases applied
  | remove language index =>
    simp only [apply] at applied
    split at applied
    · cases applied
    · rename_i rules present
      split at applied
      · rename_i inside
        cases applied
        refine ⟨rules, present, inside, rfl, rfl, fun other => ?_⟩
        by_cases last : rules.length = 1
        · simp only [if_pos last, KeyMap.get?_erase]
        · simp only [if_neg last, KeyMap.get?_insert]
      · cases applied
  | importFrom file asked =>
    simp only [apply] at applied
    split at applied
    · cases applied
    · rename_i text read
      split at applied
      · rename_i found parsed
        cases applied
        exact ⟨text, found, read, parsed, Config.appends_merge c found⟩
      · cases applied
  | save given =>
    cases applied
    rfl

/-- A step answers for the file what it answers for the configuration that the file stands for. -/
theorem run_mirrors (step : Step) (mirrors : Mirrors path s c)
    (back : (formatFor path).readsBack (step.kept s c).toValue = true) :
    match step.apply s c with
    | .ok c' => ∃ s', (step.run path).runOn s = (.ok (), s') ∧ Mirrors path s' c'
    | .error failure => ((step.run path).runOn s).1 = .error failure := by
  have loads := mirrors.loads
  have saves {c' : Config} (applied : step.apply s c = .ok c') :
      ∃ s', (Action.save path c').runOn s = (.ok (), s') ∧ Mirrors path s' c' := by
    rw [kept, applied] at back
    exact save_mirrors mirrors.writable back
  cases step with
  | create =>
    cases there : s.holds path with
    | true => exact ⟨s, Action.runOn_create_of_holds there, mirrors⟩
    | false =>
      obtain ⟨s', saved, after⟩ := saves rfl
      exact ⟨s', (create_eq loads there).trans saved, after⟩
  | add language r =>
    rw [run, addRule_eq loads, Action.runOn_bind, Action.runOn_ofExcept]
    cases applied : apply s c (.add language r) with
    | error failure => rfl
    | ok c' => exact saves applied
  | remove language index =>
    rw [removeRule_eq loads, Action.runOn_bind, Action.runOn_ofExcept]
    cases applied : apply s c (.remove language index) with
    | error failure => rfl
    | ok c' => exact saves applied
  | importFrom file asked =>
    rw [importRules_eq loads, Action.runOn_bind, Action.runOn_ofExcept]
    cases applied : apply s c (.importFrom file asked) with
    | error failure => rfl
    | ok c' =>
      obtain ⟨s', saved, after⟩ := saves applied
      exact ⟨s', by simp only [Action.runOn_adapt, saved]; rfl, after⟩
  | save given => exact saves rfl

/-- What a step means that was tried: where it succeeds it has its effect on the configuration in memory, and
where it fails, as it does in memory, it leaves the files and the configuration as they were. -/
def Answered (path : String) (s s' : Store) (c c' : Config) (step : Step) : Prop :=
  match (step.run path).runOn s with
  | (.ok _, left) => s' = left ∧ step.apply s c = .ok c' ∧ step.Effect s c c'
  | (.error failure, left) => s' = left ∧ left = s ∧ step.apply s c = .error failure ∧ c' = c

theorem tried_mirrors (step : Step) (mirrors : Mirrors path s c)
    (back : (formatFor path).readsBack (step.kept s c).toValue = true) :
    Mirrors path (step.tried path s) (step.kept s c) ∧
      step.Answered path s (step.tried path s) c (step.kept s c) := by
  have answer := step.run_mirrors mirrors back
  have unchanged := step.atomic_run path s
  rw [Answered, tried, kept]
  cases applied : step.apply s c with
  | ok c' =>
    rw [applied] at answer
    obtain ⟨s', ran, after⟩ := answer
    rw [ran]
    exact ⟨after, rfl, rfl, effect_apply applied⟩
  | error failure =>
    rw [applied] at answer
    rcases ran : (step.run path).runOn s with ⟨e | x, left⟩ <;> rw [ran] at answer unchanged <;> cases answer
    cases unchanged
    exact ⟨mirrors, rfl, rfl, rfl, rfl⟩

end Step

theorem after_concat (path : String) (s : Store) (done : List Step) (step : Step) :
    after path s (done ++ [step]) = step.tried path (after path s done) := by
  induction done generalizing s with
  | nil => rfl
  | cons first rest ih => exact ih (first.tried path s)

theorem memory_concat (path : String) (s : Store) (c : Config) (done : List Step) (step : Step) :
    memory path s c (done ++ [step]) = step.kept (after path s done) (memory path s c done) := by
  induction done generalizing s c with
  | nil => rfl
  | cons first rest ih => exact ih (first.tried path s) (first.kept s c)

theorem after_mirrors (mirrors : Mirrors path s c) (steps : List Step)
    (back : ∀ done, done <+: steps → (formatFor path).readsBack (memory path s c done).toValue = true) :
    Mirrors path (after path s steps) (memory path s c steps) := by
  -- From the right, since the last step is tried on the files that the run has come to.
  induction steps using List.reverseRecOn with
  | nil => exact mirrors
  | append_singleton done step ih =>
    have before := ih fun earlier through => back earlier (through.trans (List.prefix_append ..))
    have last := back (done ++ [step]) (List.prefix_refl _)
    rw [memory_concat] at last
    rw [after_concat, memory_concat]
    exact (step.tried_mirrors before last).1

theorem read?_after (path : String) (s : Store) (steps : List Step) (file : String)
    (apart : s.locate? file ≠ s.locate? path) : (after path s steps).read? file = s.read? file := by
  induction steps generalizing s with
  | nil => rfl
  | cons step rest ih =>
    rw [after]
    rcases (step.atomic_run path).writes s with still | ⟨own, member, text, written⟩
    · rw [Step.tried, still]
      exact ih s apart
    · cases List.mem_singleton.mp member
      have lead (file : String) := Store.locate?_write written file
      have still : (step.tried path s).locate? file ≠ (step.tried path s).locate? path := by
        rwa [Step.tried, lead, lead]
      exact (ih _ still).trans (Store.read?_write_of_ne written apart)

/-- Whatever is asked of a configuration file that is absent or can be loaded, and whatever of it fails,
loading the file gives the configuration in memory at every point of the run. No other file is changed, so
what is imported from elsewhere is what stood there before. -/
theorem load_after (loads : load s path = .ok c) (writable : s.Writable path) (steps : List Step)
    (back : ∀ done, done <+: steps → (formatFor path).readsBack (memory path s c done).toValue = true) :
    (s.holds path = false → c = .initial) ∧
    ∀ done, done <+: steps →
      load (after path s done) path = .ok (memory path s c done) ∧
      (∀ file, s.locate? file ≠ s.locate? path → (after path s done).read? file = s.read? file) ∧
      ∀ step, done ++ [step] <+: steps →
        step.Answered path (after path s done) (after path s (done ++ [step]))
          (memory path s c done) (memory path s c (done ++ [step])) := by
  have mirrors {done : List Step} (through : done <+: steps) :
      Mirrors path (after path s done) (memory path s c done) :=
    after_mirrors ⟨loads, writable⟩ done fun earlier before => back earlier (before.trans through)
  constructor
  · intro absent
    have initial : load s path = .ok .initial := if_pos (by simpa using absent)
    exact Except.ok.inj (loads.symm.trans initial)
  · intro done through
    refine ⟨(mirrors through).loads, read?_after path s done, fun step next => ?_⟩
    have last := back _ next
    rw [memory_concat] at last
    rw [after_concat, memory_concat]
    exact (step.tried_mirrors (mirrors through) last).2

/-- A directory with a configuration file, which gives the version only, and with rules to import. -/
def visited : Store :=
  { base := "/w"
    entries :=
      [(["c"], .file (some "version = \"\"")),
        (["r"], .file (some "[\x7b\"separator\":\"-\"\x7d]"))] }

def blank : Config := { version := "", rules := KeyMap.empty, settings := {} }

def dashed : Config := blank.addRules anyLanguage [{ separator := { text := some "-" } }]

def round : List Step :=
  [.importFrom "r" none, .remove anyLanguage 1, .add "a" {}, .remove anyLanguage 0, .create]

/-- A rule is imported and removed again, with two steps between that fail. -/
theorem load_after_round :
    load visited "c" = .ok blank ∧ visited.Writable "c" ∧
    (∀ done, done <+: round →
      (formatFor "c").readsBack (memory "c" visited blank done).toValue = true) ∧
    load (after "c" visited round) "c" = .ok blank := by
  have loads : load visited "c" = .ok blank := by
    have found : (load visited "c").toOption = some blank := by decide +kernel
    cases read : load visited "c" with
    | error failure =>
      rw [read] at found
      cases found
    | ok c =>
      rw [read] at found
      exact congrArg Except.ok (Option.some.inj found)
  have writable : visited.Writable "c" := by
    have written : (visited.write? "c" none).isSome := by decide +kernel
    exact Store.writable_of_isSome written
  have back : ∀ done, done <+: round →
      (formatFor "c").readsBack (memory "c" visited blank done).toValue = true := by
    have met : ∀ done ∈ round.inits, memory "c" visited blank done ∈ [blank, dashed] := by
      decide +kernel
    have each : ∀ c ∈ [blank, dashed], (formatFor "c").readsBack c.toValue = true := by
      decide +kernel
    intro done through
    exact each _ (met done ((List.mem_inits done round).mpr through))
  have last : memory "c" visited blank round = blank := by decide +kernel
  have run := (load_after loads writable round back).2 round (List.prefix_refl round)
  exact ⟨loads, writable, back, last ▸ run.1⟩

end ConfigFile

end Foldmark
