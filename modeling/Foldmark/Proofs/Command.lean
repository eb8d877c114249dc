import Foldmark.Command
import Foldmark.Proofs.Config.Initialized
import Foldmark.Proofs.Config.Nearest

/-! Commands before and after a configuration file is made. What a command does depends on the files alone, and two
stores that are the same but for the configuration file stay so, command by command. -/
namespace Foldmark

/-- Outcomes with the same answer, and with stores that are the same but for a configuration file. -/
structure Outcome.Same (path : String) (a b : Outcome) : Prop where
  out : b.out = a.out
  failure : b.failure = a.failure
  store : ConfigFile.Initialized path a.store b.store

namespace Command

open ConfigFile (Initialized Alike Innermost inner outer)

variable {path : String} {s t : Store} {colours : Bool}

/-- The file that a command reads besides the configuration file. -/
def reads? : Command → Option String
  | .fold file _ _ => some file
  | .importFrom file _ => some file
  | _ => none

theorem outcome_same {before : String} {a : Action String} (alike : Alike path (a.runOn s) (a.runOn t)) :
    (outcome s before a).Same path (outcome t before a) := by
  rw [outcome, outcome]
  generalize a.runOn s = first, a.runOn t = second at alike
  obtain ⟨answer, left⟩ := second
  obtain ⟨rfl, still⟩ := alike
  rcases first with ⟨e | x, left'⟩ <;> exact ⟨rfl, rfl, still⟩

theorem folding_same {file : String} (same : Initialized path s t) (apart : s.locate? file ≠ s.locate? path)
    (c : Config) (language : Option String) (format : Option OutputFormat) :
    folding colours t c file language format = folding colours s c file language format := by
  rw [folding, folding, same.read? apart]

/-- A command gives the same answer whether or not the initial configuration has been written. -/
theorem runAt_same (same : Initialized path s t) (c : Command)
    (apart : ∀ file ∈ c.reads?, s.locate? file ≠ s.locate? path) :
    (c.runAt colours path s).Same path (c.runAt colours path t) := by
  cases c with
  | init => exact outcome_same (same.create.bind fun _ _ _ both => ⟨rfl, both⟩)
  | fold file language format =>
    refine outcome_same ?_
    rw [Action.runOn_bind, Action.runOn_bind, Action.runOn_get, Action.runOn_get]
    simp only [folding_same same (apart file rfl)]
    refine same.loading fun c _ _ both => ?_
    rw [Action.runOn_ofExcept, Action.runOn_ofExcept]
    exact ⟨rfl, both⟩
  | validate =>
    simp only [runAt, same.load]
    cases ConfigFile.load s path with
    | error e => exact ⟨rfl, rfl, same⟩
    | ok c => exact ⟨rfl, rfl, same⟩
  | list => exact outcome_same (same.loading fun _ _ _ both => ⟨rfl, both⟩)
  | add language r => exact outcome_same ((same.addRule language r).bind fun _ _ _ both => ⟨rfl, both⟩)
  | remove language index => exact outcome_same ((same.removeRule language index).bind fun _ _ _ both => ⟨rfl, both⟩)
  | exportTo file format => exact outcome_same ((same.exportTo file _).bind fun _ _ _ both => ⟨rfl, both⟩)
  | importFrom file language =>
    exact outcome_same ((same.importRules (apart file rfl) language).bind fun _ _ _ both => ⟨rfl, both⟩)

/-- The file that a command writes besides the configuration file. -/
def writes? : Command → Option String
  | .exportTo file _ => some file
  | _ => none

theorem outcome_atomic {files : List String} {a : Action String} (atomic : Action.Atomic files a) (s : Store)
    (before : String) :
    s.Writes files (outcome s before a).store ∧
      ((outcome s before a).failure ≠ none → (outcome s before a).store = s) := by
  have left := atomic s
  rw [outcome]
  rcases found : a.runOn s with ⟨e | x, s'⟩ <;> rw [found] at left
  · exact ⟨.inl left, fun _ => left⟩
  · exact ⟨left, fun failed => absurd rfl failed⟩

/-- A command leaves the files as they are, or writes the configuration file or the file that it names. Where it
fails, it leaves them as they are. -/
theorem runAt_atomic (colours : Bool) (path : String) (s : Store) (c : Command) :
    s.Writes (path :: c.writes?.toList) (c.runAt colours path s).store ∧
      ((c.runAt colours path s).failure ≠ none → (c.runAt colours path s).store = s) := by
  have own {files : List String} : path ∈ path :: files := List.mem_cons_self
  cases c with
  | init => exact outcome_atomic ((Action.atomic_create own).map _) s _
  | fold file language format =>
    refine outcome_atomic (Action.Reads.atomic ?_ _) s _
    exact Action.reads_get.bind fun s => (Action.reads_load path).bind fun c => Action.reads_ofExcept _
  | validate =>
    simp only [runAt]
    cases ConfigFile.load s path <;> exact ⟨.inl rfl, fun _ => rfl⟩
  | list => exact outcome_atomic ((Action.reads_load path).atomic _ |>.map _) s _
  | add language r => exact outcome_atomic ((Action.atomic_addRule own language r).map _) s _
  | remove language index => exact outcome_atomic ((Action.atomic_removeRule own language index).map _) s _
  | exportTo file format => exact outcome_atomic ((Action.atomic_exportTo (by simp [writes?]) _).map _) s _
  | importFrom file language => exact outcome_atomic ((Action.atomic_importRules own file language).map _) s _

theorem Writes.locate? {files : List String} {s' : Store} (writes : s.Writes files s') (file : String) :
    s'.locate? file = s.locate? file := by
  rcases writes with rfl | ⟨_, -, _, written⟩
  · rfl
  · exact Store.locate?_write written file

def after (colours : Bool) (path : String) (s : Store) (commands : List Command) : Store :=
  commands.foldl (fun s c => (c.runAt colours path s).store) s

theorem locate?_after (s : Store) (commands : List Command) (file : String) :
    (after colours path s commands).locate? file = s.locate? file := by
  induction commands generalizing s with
  | nil => rfl
  | cons c rest ih => exact (ih _).trans (Writes.locate? (runAt_atomic colours path s c).1 file)

theorem after_same (same : Initialized path s t) (commands : List Command)
    (apart : ∀ c ∈ commands, ∀ file ∈ c.reads?, s.locate? file ≠ s.locate? path) :
    Initialized path (after colours path s commands) (after colours path t commands) := by
  induction commands generalizing s t with
  | nil => exact same
  | cons c rest ih =>
    obtain ⟨first, others⟩ := List.forall_mem_cons.mp apart
    have still (file : String) : (c.runAt colours path s).store.locate? file = s.locate? file :=
      Writes.locate? (runAt_atomic colours path s c).1 file
    refine ih (runAt_same same c first).store fun d member file reads => ?_
    show (c.runAt colours path s).store.locate? file ≠ (c.runAt colours path s).store.locate? path
    rw [still, still]
    exact others d member file reads

/-- Whether no command writes a file where a configuration file is looked for in outer directories. -/
def SparesOuter (s : Store) (commands : List Command) : Prop :=
  ∀ c ∈ commands, ∀ file ∈ c.writes?, ∀ loc ∈ outer s, s.locate? file ≠ some loc

/-- Whether the configuration file is found in the present directory, where a path leads to, and some commands do not
change that. They could make one in an outer directory as long as there is none here. -/
structure Found (path : String) (s : Store) (commands : List Command) : Prop where
  located : s.locate? path = some (inner s)
  innermost : Innermost s
  elsewhere : (s.entry? (inner s)).isSome = true ∨ SparesOuter s commands

theorem Found.step {c : Command} {rest : List Command} (found : Found path s (c :: rest)) :
    Found path (c.runAt colours path s).store rest ∧
      ConfigFile.path (c.runAt colours path s).store none = ConfigFile.path s none := by
  suffices next : Found path (c.runAt colours path s).store rest ∧
      (c.runAt colours path s).store.pathOf (inner (c.runAt colours path s).store) = s.pathOf (inner s) by
    refine ⟨next.1, ?_⟩
    rw [ConfigFile.path_of_innermost next.1.innermost, next.2, ConfigFile.path_of_innermost found.innermost]
  obtain ⟨located, innermost, elsewhere⟩ := found
  rcases (runAt_atomic colours path s c).1 with still | ⟨file, member, text, written⟩
  · rw [still]
    exact ⟨⟨located, innermost, elsewhere.imp_right fun others => (List.forall_mem_cons.mp others).2⟩, rfl⟩
  · generalize (c.runAt colours path s).store = s' at written
    have same := ConfigFile.inner_write written
    have lead : s'.locate? path = some (inner s') := by rw [Store.locate?_write written, located, same]
    refine ⟨?_, by rw [same, Store.pathOf_write written]⟩
    rcases List.mem_cons.mp member with rfl | named
    · have there := ConfigFile.there_write_inner written located
      exact ⟨lead, .inl there, .inl there⟩
    · rcases elsewhere with there | others
      · have there := same.symm ▸ Store.there_write written there
        exact ⟨lead, .inl there, .inl there⟩
      · obtain ⟨own, others⟩ := List.forall_mem_cons.mp others
        refine ⟨lead, ConfigFile.innermost_write written innermost (own file (Option.mem_toList.mp named)), .inr ?_⟩
        intro d member other writes loc isOuter
        rw [ConfigFile.outer_write written] at isOuter
        rw [Store.locate?_write written]
        exact others d member other writes loc isOuter

theorem Found.after {commands : List Command} (found : Found path s commands) :
    ConfigFile.path (after colours path s commands) none = ConfigFile.path s none := by
  induction commands generalizing s with
  | nil => rfl
  | cons c rest ih =>
    obtain ⟨next, same⟩ := found.step
    exact (ih next).trans same

/-- Before and after it is made where none is found, the configuration file is found in the present directory. -/
theorem found_of_created {s₁ : Store} (absent : s.holds (ConfigFile.path s none) = false)
    (created : (Action.create (ConfigFile.path s none)).runOn s = (.ok (), s₁)) (commands : List Command) :
    ConfigFile.path s₁ none = ConfigFile.path s none ∧ Found (ConfigFile.path s none) s₁ commands ∧
      (SparesOuter s commands → Found (ConfigFile.path s none) s commands) := by
  obtain ⟨located, nowhere⟩ := ConfigFile.inner_of_created absent created
  have written := Action.write?_of_save ((Action.runOn_create_of_absent absent).symm.trans created)
  have there := ConfigFile.there_write_inner written located
  have same := ConfigFile.inner_write written
  refine ⟨?_, ⟨?_, .inl there, .inl there⟩, fun elsewhere => ⟨located, .inr nowhere, .inr elsewhere⟩⟩
  · rw [ConfigFile.path_of_innermost (.inl there), same, Store.pathOf_write written,
      ConfigFile.path_of_innermost (.inr nowhere)]
  · rw [Store.locate?_write written, located, same]

section Created

variable {config : Option String} {s₁ : Store} (found : ConfigFile.path s config = path)
  (absent : s.holds path = false) (created : (Action.create path).runOn s = (.ok (), s₁))

include found absent created

theorem path_of_created (colours : Bool) (commands : List Command) :
    ConfigFile.path (after colours path s₁ commands) config = path := by
  cases config with
  | some given => exact found
  | none =>
    subst found
    obtain ⟨same, still, -⟩ := found_of_created absent created commands
    exact still.after.trans same

/-- Where it is not made first, it is looked for there unless a command writes one into an outer directory. -/
theorem path_of_spares (colours : Bool) (commands : List Command) (spares : config = none → SparesOuter s commands) :
    ConfigFile.path (after colours path s commands) config = path := by
  cases config with
  | some given => exact found
  | none =>
    subst found
    exact ((found_of_created absent created commands).2.2 (spares rfl)).after

omit found

/-- A command gives the same answer whether or not the file was made before the commands in front of it. -/
theorem runAt_same_created (colours : Bool) (done : List Command) (c : Command)
    (apart : ∀ d ∈ done ++ [c], ∀ file ∈ d.reads?, s.locate? file ≠ s.locate? path) :
    (c.runAt colours path (after colours path s done)).Same path
      (c.runAt colours path (after colours path s₁ done)) := by
  obtain ⟨before, now⟩ := List.forall_mem_append.mp apart
  refine runAt_same (after_same (ConfigFile.initialized_create absent created) done before) c fun file reads => ?_
  rw [locate?_after, locate?_after]
  exact now c (List.mem_singleton_self c) file reads

end Created

theorem after_concat (colours : Bool) (path : String) (s : Store) (done : List Command) (c : Command) :
    after colours path s (done ++ [c]) = (c.runAt colours path (after colours path s done)).store := by
  simp [after]

/-- The files after some commands, each of which looks for the configuration file itself. -/
def ran (colours : Bool) (config : Option String) (s : Store) (commands : List Command) : Store :=
  commands.foldl (fun s c => (c.run colours config s).store) s

theorem ran_eq_after {config : Option String} {commands : List Command}
    (stays : ∀ done, done <+: commands → ConfigFile.path (after colours path s done) config = path) :
    ran colours config s commands = after colours path s commands := by
  induction commands generalizing s with
  | nil => rfl
  | cons c rest ih =>
    have here : c.run colours config s = c.runAt colours path s :=
      congrArg (c.runAt colours · s) (stays [] (List.nil_prefix ..))
    have next : ran colours config s (c :: rest) = ran colours config (c.runAt colours path s).store rest :=
      congrArg (fun o : Outcome => ran colours config o.store rest) here
    exact next.trans (ih fun done through => stays (c :: done) (List.cons_prefix_cons.mpr ⟨rfl, through⟩))

theorem created_of_init (made : (init.runAt colours path s).failure = none) :
    (Action.create path).runOn s = (.ok (), (init.runAt colours path s).store) := by
  simp only [runAt, outcome, Action.runOn_bind] at made ⊢
  rcases created : (Action.create path).runOn s with ⟨e | x, left⟩ <;> rw [created] at made
  · cases made
  · rfl

/-- Initializing is not noticed where every command looks for the configuration file itself, as long as the file is
absent and none is written into an outer directory: with and without it, the command that comes next has
the same answer, and the configuration that is found and loaded then is the same. -/
theorem run_initialized {config : Option String} (absent : s.holds (ConfigFile.path s config) = false)
    (made : (init.run colours config s).failure = none) (done : List Command) (c : Command)
    (apart : ∀ d ∈ done ++ [c], ∀ file ∈ d.reads?, s.locate? file ≠ s.locate? (ConfigFile.path s config))
    (spares : config = none → SparesOuter s (done ++ [c])) :
    ∃ a b, c.run colours config (ran colours config s done) = a ∧
      c.run colours config (ran colours config s (init :: done)) = b ∧
      b.out = a.out ∧ b.failure = a.failure ∧
      ConfigFile.load b.store (ConfigFile.path b.store config) =
        ConfigFile.load a.store (ConfigFile.path a.store config) := by
  have begun : ran colours config s (init :: done) = ran colours config (init.run colours config s).store done := rfl
  generalize found : ConfigFile.path s config = path at absent apart
  have created : (Action.create path).runOn s = (.ok (), (init.run colours config s).store) := by
    subst found
    exact created_of_init made
  generalize (init.run colours config s).store = s₁ at begun created
  have first {part : List Command} (through : part <+: done ++ [c]) :
      ConfigFile.path (after colours path s part) config = path :=
    path_of_spares found absent created colours part fun nearest d member =>
      spares nearest d (through.subset member)
  have second := path_of_created found absent created colours
  have before : ran colours config s done = after colours path s done :=
    ran_eq_after fun part through => first (through.trans (List.prefix_append ..))
  have behind : ran colours config s₁ done = after colours path s₁ done := ran_eq_after fun part _ => second part
  have same := runAt_same_created absent created colours done c apart
  refine ⟨_, _, rfl, rfl, ?_⟩
  rw [begun, before, behind, run, run, first (List.prefix_append ..), second done]
  refine ⟨same.out, same.failure, ?_⟩
  rw [← after_concat, ← after_concat, first (List.prefix_refl _), second (done ++ [c]), after_concat, after_concat]
  exact same.store.load

/-- A directory in another one, in which there are rules to import. -/
def nested : Store :=
  { base := "/w"
    entries := [(["a"], .directory), (["r"], .file (some "[\x7b\"separator\":\"-\"\x7d]"))]
    here := ⟨["a"], by decide⟩ }

end Command

end Foldmark
