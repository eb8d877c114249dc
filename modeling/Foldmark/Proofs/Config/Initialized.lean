import Foldmark.Proofs.Config.RuleList
import Foldmark.Proofs.Config.Session
import Foldmark.Proofs.Format.Ascii

/-! The configuration file before and after it is made. Making it writes the initial configuration, which is also what
holds where there is no file, so nothing that is asked of the file tells whether it has been made. -/
namespace Foldmark

namespace ConfigFile

/-- Two stores with the same files, but for a configuration file: where there could be one and is none in the first
store, the second one may have the initial configuration. -/
structure Initialized (path : String) (s t : Store) : Prop where
  base : t.base = s.base
  here : t.here = s.here
  entry : ∀ loc, t.entry? loc = s.entry? loc ∨
    s.locate? path = some loc ∧ s.entry? loc = none ∧ s.isDirectory loc.dropLast = true ∧
      t.entry? loc = some (.file (some (Config.initial.render (formatFor path))))

/-- Outcomes with the same answer, and with stores that are the same but for the configuration file. -/
structure Alike {α : Type} (path : String) (x y : Except Failure α × Store) : Prop where
  answer : y.1 = x.1
  store : Initialized path x.2 y.2

namespace Alike

variable {α β : Type} {path : String} {s t : Store} {a : Action α}

theorem bind {f : α → Action β} (alike : Alike path (a.runOn s) (a.runOn t))
    (each : ∀ x s t, Initialized path s t → Alike path ((f x).runOn s) ((f x).runOn t)) :
    Alike path ((a >>= f).runOn s) ((a >>= f).runOn t) := by
  rw [Action.runOn_bind, Action.runOn_bind]
  generalize a.runOn s = first, a.runOn t = second at alike
  obtain ⟨answer, left⟩ := second
  obtain ⟨rfl, still⟩ := alike
  rcases first with ⟨e | x, left'⟩
  · exact ⟨rfl, still⟩
  · exact each x left' left still

theorem adapt (alike : Alike path (a.runOn s) (a.runOn t)) (change : Failure → Failure) :
    Alike path (Action.runOn (ExceptT.adapt change a) s) (Action.runOn (ExceptT.adapt change a) t) := by
  rw [Action.runOn_adapt, Action.runOn_adapt]
  exact ⟨congrArg (Except.mapError change) alike.answer, alike.store⟩

end Alike

namespace Initialized

variable {path file : String} {s t : Store} (same : Initialized path s t)

include same

theorem isDirectory (loc : Location) : t.isDirectory loc = s.isDirectory loc := by
  rw [Store.isDirectory, Store.isDirectory]
  rcases same.entry loc with same | ⟨-, absent, -, there⟩
  · rw [same]
  · simp [absent, there]

theorem locate? (file : String) : t.locate? file = s.locate? file := by
  have start : t.startOf? file = s.startOf? file := by simp only [Store.startOf?, same.base, same.here]
  simp only [Store.locate?, start, Store.follow_congr same.isDirectory]

theorem read? (apart : s.locate? file ≠ s.locate? path) : t.read? file = s.read? file := by
  simp only [Store.read?, same.locate?]
  cases located : s.locate? file with
  | none => rfl
  | some loc =>
    rcases same.entry loc with here | ⟨there, -⟩
    · simp [here]
    · exact absurd (located.trans there.symm) apart

/-- Without a file the configuration is the initial one, which is also read back from the file. -/
theorem load : ConfigFile.load t path = ConfigFile.load s path := by
  cases located : s.locate? path with
  | none => simp [ConfigFile.load, Store.holds, same.locate?, located]
  | some loc =>
    rcases same.entry loc with here | ⟨-, absent, -, there⟩
    · simp [ConfigFile.load, Store.holds, Store.read?, same.locate?, located, here]
    · have parsed : Config.parse? (Config.initial.render (formatFor path)) path = some .initial :=
        (Config.parse?_eq _ path).trans
          (Config.ofValue?_render .initial (formatFor path) (Config.initial_readsBack _))
      simp [ConfigFile.load, Store.holds, Store.read?, same.locate?, located, absent, there, parsed]

theorem write? (file : String) (text : Option String) :
    Option.Rel (Initialized path) (s.write? file text) (t.write? file text) := by
  have alike : (t.write? file text).isSome = (s.write? file text).isSome := by
    rw [Bool.eq_iff_iff, Store.write?_isSome, Store.write?_isSome]
    simp only [same.locate?, same.isDirectory]
  cases first : s.write? file text with
  | none =>
    have second : t.write? file text = none := by simpa [first] using alike
    rw [second]
    exact .none
  | some s' =>
    obtain ⟨t', second⟩ := Option.isSome_iff_exists.mp (alike.trans (by rw [first]; rfl))
    have directories := Store.isDirectory_write first
    have places := Store.locate?_write first
    obtain ⟨loc, located, file, -, rfl⟩ := Store.write?_eq first
    obtain ⟨loc', located', file', -, rfl⟩ := Store.write?_eq second
    rw [same.locate?, located] at located'
    cases located'
    rw [second]
    refine .some ⟨same.base, same.here, fun other => ?_⟩
    rw [Store.entry?_put file, Store.entry?_put file']
    by_cases written : other = loc
    · simp [written]
    · simp only [if_neg written, places, directories]
      exact same.entry other

theorem write (file text : String) (fault : Failure) :
    Alike path ((Action.write file text fault).runOn s) ((Action.write file text fault).runOn t) := by
  have written := same.write? file (some text)
  rw [Action.runOn_write, Action.runOn_write]
  generalize s.write? file (some text) = first, t.write? file (some text) = second at written
  cases written with
  | none => exact ⟨rfl, same⟩
  | some both => exact ⟨rfl, both⟩

theorem save (c : Config) : Alike path ((Action.save path c).runOn s) ((Action.save path c).runOn t) :=
  same.write path _ _

theorem loading {α : Type} {f : Config → Action α}
    (each : ∀ c s t, Initialized path s t → Alike path ((f c).runOn s) ((f c).runOn t)) :
    Alike path ((Action.load path >>= f).runOn s) ((Action.load path >>= f).runOn t) := by
  refine Alike.bind ?_ each
  rw [Action.runOn_load, Action.runOn_load]
  exact ⟨same.load, same⟩

theorem holds (there : s.holds path = true) : t.holds path = true := by
  rw [Store.holds, Option.isSome_iff_exists] at there ⊢
  obtain ⟨e, found⟩ := there
  obtain ⟨loc, located, found⟩ := Option.bind_eq_some_iff.mp found
  refine ⟨e, Option.bind_eq_some_iff.mpr ⟨loc, (same.locate? path).trans located, ?_⟩⟩
  rcases same.entry loc with here | ⟨-, absent, -⟩
  · exact here.trans found
  · cases found.symm.trans absent

/-- Where only the second store has the file, making it in the first one leaves no difference. -/
theorem save_initial (absent : s.holds path = false) (there : t.holds path = true) :
    ∃ s', (Action.save path .initial).runOn s = (.ok (), s') ∧ Initialized path s' t := by
  obtain ⟨e, found⟩ := Option.isSome_iff_exists.mp there
  obtain ⟨loc, located, found⟩ := Option.bind_eq_some_iff.mp found
  rw [same.locate?] at located
  have missing : s.entry? loc = none := by simpa [Store.holds, located] using absent
  rcases same.entry loc with here | ⟨-, -, parent, initial⟩
  · cases found.symm.trans (here.trans missing)
  · have written : s.write? path (some (Config.initial.render (formatFor path))) =
        some (s.put loc (.file (some (Config.initial.render (formatFor path))))) := by
      simp [Store.write?, located, missing, parent]
    have file : s.entry? loc ≠ some .directory := by simp [missing]
    refine ⟨_, Action.runOn_save_ok written, same.base, same.here, fun other => ?_⟩
    left
    rw [Store.entry?_put file]
    by_cases own : other = loc
    · rw [own, if_pos rfl, initial]
    · rw [if_neg own]
      refine (same.entry other).resolve_right fun elsewhere => own ?_
      exact Option.some.inj (elsewhere.1.symm.trans located)

theorem create : Alike path ((Action.create path).runOn s) ((Action.create path).runOn t) := by
  cases first : s.holds path with
  | true =>
    rw [Action.runOn_create_of_holds first, Action.runOn_create_of_holds (same.holds first)]
    exact ⟨rfl, same⟩
  | false =>
    rw [Action.runOn_create_of_absent first]
    cases second : t.holds path with
    | true =>
      obtain ⟨s', saved, still⟩ := same.save_initial first second
      rw [saved, Action.runOn_create_of_holds second]
      exact ⟨rfl, still⟩
    | false =>
      rw [Action.runOn_create_of_absent second]
      exact same.save .initial

theorem addRule (language : String) (r : Rule) :
    Alike path ((Action.addRule path language r).runOn s) ((Action.addRule path language r).runOn t) := by
  rw [Action.addRule]
  cases r.compile with
  | error reason => exact ⟨rfl, same⟩
  | ok _ => exact same.loading fun c s t still => still.save _

theorem removeRule (language : String) (index : Nat) :
    Alike path ((Action.removeRule path language index).runOn s)
      ((Action.removeRule path language index).runOn t) := by
  refine same.loading fun c s t still => ?_
  cases c.rules.get? language with
  | none => exact ⟨rfl, still⟩
  | some rules =>
    dsimp only
    cases rules[index]? with
    | none => exact ⟨rfl, still⟩
    | some removed => exact (still.save _).bind fun _ s t saved => ⟨rfl, saved⟩

theorem importRules (apart : s.locate? file ≠ s.locate? path) (asked : Option String) :
    Alike path ((Action.importRules path file asked).runOn s) ((Action.importRules path file asked).runOn t) := by
  have found : Import.fromFile t file asked = Import.fromFile s file asked := by
    rw [Import.fromFile, Import.fromFile, same.read? apart]
  rw [Action.importRules, Action.runOn_bind, Action.runOn_bind, Action.runOn_get, Action.runOn_get]
  simp only [found]
  cases Import.fromFile s file asked with
  | error reason => exact ⟨rfl, same⟩
  | ok found =>
    have changed := same.loading fun c s t still => still.save (c.merge found)
    exact (changed.adapt _).bind fun _ s t saved => ⟨rfl, saved⟩

theorem exportTo (file : String) (d : Dialect) :
    Alike path ((Action.exportTo path file d).runOn s) ((Action.exportTo path file d).runOn t) :=
  same.loading fun _ _ _ still => still.write file _ _

end Initialized

theorem initialized_create {path : String} {s s₁ : Store} (absent : s.holds path = false)
    (created : (Action.create path).runOn s = (.ok (), s₁)) : Initialized path s s₁ := by
  have written := Action.write?_of_save ((Action.runOn_create_of_absent absent).symm.trans created)
  obtain ⟨loc, located, file, parent, rfl⟩ := Store.write?_eq written
  have missing : s.entry? loc = none := by simpa [Store.holds, located] using absent
  refine ⟨rfl, rfl, fun other => ?_⟩
  rw [Store.entry?_put file]
  by_cases own : other = loc
  · subst own
    exact .inr ⟨located, missing, parent, if_pos rfl⟩
  · exact .inl (if_neg own)

end ConfigFile

end Foldmark
