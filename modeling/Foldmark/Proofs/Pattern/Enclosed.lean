import Foldmark.Proofs.Pattern.ElementReader

/-! Patterns inside a group. A source that nowhere switches the verbose flag on is read inside a pair of
parentheses just as it is read alone. With the flag on, a comment can take the closing parenthesis in,
which leaves the group open unless more of the source follows. -/
namespace Foldmark.Pattern

/-- Whether changes of flags leave the verbose flag off where it was off. -/
def FlagChange.keepVerboseOff (changes : List FlagChange) : Bool :=
  !(FlagChange.state? changes .verbose).getD false

def GroupKind.verboseFree : GroupKind → Bool
  | .capture _ => true
  | .plain changes => FlagChange.keepVerboseOff changes

def Ast.verboseFree : Ast → Bool
  | .flags changes => FlagChange.keepVerboseOff changes
  | .repetition body _ _ _ => body.verboseFree
  | .group kind body => kind.verboseFree && body.verboseFree
  | .concat items => allFree items
  | .alternation branches => allFree branches
  | _ => true
where
  allFree : List Ast → Bool
    | [] => true
    | item :: rest => item.verboseFree && allFree rest

def AllFree (items : List Ast) : Prop := ∀ item ∈ items, item.verboseFree = true

theorem allFree_iff (items : List Ast) : Ast.verboseFree.allFree items = true ↔ AllFree items := by
  induction items with
  | nil => simp [Ast.verboseFree.allFree, AllFree]
  | cons item rest ih =>
    rw [Ast.verboseFree.allFree, Bool.and_eq_true, ih, AllFree, AllFree, List.forall_mem_cons]

theorem verboseFree_ofItems (items : List Ast) :
    (Ast.ofItems items).verboseFree = true ↔ AllFree items := by
  match items with
  | [] => simp [Ast.ofItems, Ast.verboseFree, AllFree]
  | [item] => simp [Ast.ofItems, AllFree]
  | first :: second :: rest => exact allFree_iff _

theorem verboseFree_ofBranches (branches : List Ast) :
    (Ast.ofBranches branches).verboseFree = true ↔ AllFree branches := by
  match branches with
  | [] => simp [Ast.ofBranches, Ast.verboseFree, AllFree]
  | [branch] => simp [Ast.ofBranches, AllFree]
  | first :: second :: rest => exact allFree_iff _

theorem AllFree.reverse {items : List Ast} : AllFree items.reverse ↔ AllFree items := by
  simp [AllFree]

namespace Builder

/-- What has been read nowhere switches the verbose flag on. -/
structure Free (b : Builder) : Prop where
  branches : AllFree b.branches
  items : AllFree b.items
  kinds : ∀ g ∈ b.outer, g.kind.verboseFree = true
  outerBranches : ∀ g ∈ b.outer, AllFree g.branches
  outerItems : ∀ g ∈ b.outer, AllFree g.items

/-- The verbose flag is off, and will be after every group that is open. -/
structure Calm (b : Builder) : Prop where
  now : b.verbose = false
  later : ∀ g ∈ b.outer, g.verbose = false

theorem verboseFree_body (b : Builder) :
    b.body.verboseFree = true ↔ AllFree b.branches ∧ AllFree b.items := by
  rw [body, verboseFree_ofBranches, AllFree.reverse, AllFree, List.forall_mem_cons,
    verboseFree_ofItems, AllFree.reverse]
  exact And.comm

inductive Next (b : Builder) : Builder → Prop where
  | add (item : Ast) : Next b (b.add item)
  | nextBranch : Next b b.nextBranch
  | enter (kind : GroupKind) : Next b (b.enter kind)
  | setFlags (changes : List FlagChange) : Next b (b.setFlags changes)
  | leave (g : OpenGroup) (outer : List OpenGroup) : b.outer = g :: outer →
      Next b ⟨g.branches, .group g.kind b.body :: g.items, outer, g.verbose⟩
  | repeatLast (item : Ast) (rest : List Ast) (min : Nat) (max : Option Nat) (greedy : Bool) :
      b.items = item :: rest →
      Next b { b with items := .repetition item min max greedy :: rest }

variable {b next : Builder}

theorem leave_next (h : b.leave = .ok next) : Next b next := by
  unfold leave at h
  split at h
  · cases h
  · rename_i g outer inside
    cases h
    exact .leave g outer inside

theorem repeatLast_next {min : Nat} {max : Option Nat} {greedy : Bool}
    (h : b.repeatLast min max greedy = .ok next) : Next b next := by
  unfold repeatLast at h
  split at h
  · cases h
  · cases h
  · cases h
  · rename_i item rest _ _ items
    cases h
    exact .repeatLast item rest min max greedy items

theorem Next.free (move : Next b next) (free : next.Free) : b.Free := by
  obtain ⟨branches, items, kinds, outerBranches, outerItems⟩ := free
  cases move with
  | add item => exact ⟨branches, (List.forall_mem_cons.mp items).2, kinds, outerBranches, outerItems⟩
  | nextBranch =>
    obtain ⟨last, branches⟩ := List.forall_mem_cons.mp branches
    exact ⟨branches, AllFree.reverse.mp ((verboseFree_ofItems _).mp last), kinds, outerBranches,
      outerItems⟩
  | enter kind =>
    obtain ⟨branches, outerBranches⟩ := List.forall_mem_cons.mp outerBranches
    obtain ⟨items, outerItems⟩ := List.forall_mem_cons.mp outerItems
    exact ⟨branches, items, (List.forall_mem_cons.mp kinds).2, outerBranches, outerItems⟩
  | setFlags changes =>
    exact ⟨branches, (List.forall_mem_cons.mp items).2, kinds, outerBranches, outerItems⟩
  | leave g outer inside =>
    obtain ⟨group, items⟩ := List.forall_mem_cons.mp items
    simp only [Ast.verboseFree, Bool.and_eq_true, verboseFree_body] at group
    refine ⟨group.2.1, group.2.2, ?_, ?_, ?_⟩
    · exact inside ▸ List.forall_mem_cons.mpr ⟨group.1, kinds⟩
    · exact inside ▸ List.forall_mem_cons.mpr ⟨branches, outerBranches⟩
    · exact inside ▸ List.forall_mem_cons.mpr ⟨items, outerItems⟩
  | repeatLast item rest min max greedy last =>
    exact ⟨branches, last ▸ List.forall_mem_cons.mpr (List.forall_mem_cons.mp items), kinds,
      outerBranches, outerItems⟩

theorem verbose_unchanged {changes : List FlagChange}
    (h : FlagChange.keepVerboseOff changes = true) :
    (FlagChange.state? changes .verbose).getD false = false := by
  simpa [FlagChange.keepVerboseOff] using h

theorem Next.calm (move : Next b next) (calm : b.Calm) (free : next.Free) : next.Calm := by
  obtain ⟨now, later⟩ := calm
  cases move with
  | add item => exact ⟨now, later⟩
  | nextBranch => exact ⟨now, later⟩
  | enter kind =>
    refine ⟨?_, List.forall_mem_cons.mpr ⟨now, later⟩⟩
    have kept := (List.forall_mem_cons.mp free.kinds).1
    cases kind with
    | capture name => exact now
    | plain changes =>
      simp only [Builder.enter, now]
      exact verbose_unchanged kept
  | setFlags changes =>
    refine ⟨?_, later⟩
    simp only [Builder.setFlags, now]
    exact verbose_unchanged (List.forall_mem_cons.mp free.items).1
  | leave g outer inside =>
    rw [inside] at later
    obtain ⟨own, later⟩ := List.forall_mem_cons.mp later
    exact ⟨own, later⟩
  | repeatLast item rest min max greedy last => exact ⟨now, later⟩

def under (b : Builder) (outside : List OpenGroup) : Builder := { b with outer := b.outer ++ outside }

theorem leave_under (h : b.leave = .ok next) (outside : List OpenGroup) :
    (b.under outside).leave = .ok (next.under outside) := by
  unfold leave at h
  split at h
  · cases h
  · rename_i g outer inside
    cases h
    simp only [leave, under, inside, List.cons_append]
    rfl

theorem repeatLast_under {min : Nat} {max : Option Nat} {greedy : Bool}
    (h : b.repeatLast min max greedy = .ok next) (outside : List OpenGroup) :
    (b.under outside).repeatLast min max greedy = .ok (next.under outside) := by
  unfold repeatLast at h
  split at h
  · cases h
  · cases h
  · cases h
  · rename_i items
    cases h
    simp only [repeatLast, under, items]

end Builder

variable {b next : Builder} {c : Char} {s rest : List Char}

theorem repetition_next {min : Nat} {max : Option Nat} {greedy : Bool} {after : List Char}
    (h : b.repeatLast min max greedy >>= (fun last => .ok (last, after)) = .ok (next, rest)) :
    Builder.Next b next := by
  obtain ⟨last, repeats, same⟩ := ok_of_bind h
  cases same
  exact Builder.repeatLast_next repeats

theorem repetition_under {min : Nat} {max : Option Nat}
    (h : b.repeatLast min max (readGreedy s).1 >>= (fun last => .ok (last, (readGreedy s).2)) =
      .ok (next, rest)) (outside : List OpenGroup) (t : List Char) :
    (b.under outside).repeatLast min max (readGreedy (s ++ ')' :: t)).1 >>=
      (fun last => .ok (last, (readGreedy (s ++ ')' :: t)).2)) =
        .ok (next.under outside, rest ++ ')' :: t) := by
  obtain ⟨last, repeats, same⟩ := ok_of_bind h
  cases same
  rw [readGreedy_append]
  exact bind_of_ok (Builder.repeatLast_under repeats outside) _

theorem step_next (h : step b c s = .ok (next, rest)) : Builder.Next b next := by
  unfold step at h
  split at h
  · obtain ⟨⟨opening, after⟩, -, further⟩ := ok_of_bind h
    cases opening with
    | flags changes =>
      cases further
      exact .setFlags changes
    | group kind =>
      cases further
      exact .enter kind
  · obtain ⟨left, leaves, same⟩ := ok_of_bind h
    cases same
    exact Builder.leave_next leaves
  · cases h
    exact .nextBranch
  · obtain ⟨⟨item, after⟩, -, same⟩ := ok_of_bind h
    cases same
    exact .add item
  · exact repetition_next h
  · exact repetition_next h
  · exact repetition_next h
  · obtain ⟨⟨⟨min, max⟩, after⟩, -, further⟩ := ok_of_bind h
    exact repetition_next further
  · obtain ⟨⟨item, after⟩, -, same⟩ := ok_of_bind h
    cases same
    exact .add item
  all_goals
    cases h
    exact .add _

theorem skip_last {verbose : Bool} (h : skip verbose s = []) :
    (∀ t, skip verbose (s ++ ')' :: t) = ')' :: t) ∨ skip verbose (s ++ [')']) = [] := by
  have comment (s : List Char) :
      (∀ t, dropComment (s ++ t) = dropComment s ++ t) ∨ dropComment (s ++ [')']) = [] := by
    induction s with
    | nil => exact .inr rfl
    | cons c s ih =>
      simp only [List.cons_append, dropComment]
      split
      · exact .inl fun t => rfl
      · exact ih
  cases verbose with
  | false => exact .inl fun t => congrArg (· ++ ')' :: t) h
  | true =>
    show (∀ t, dropLayout _ = _) ∨ dropLayout _ = _
    replace h : dropLayout s = [] := h
    fun_induction dropLayout s with
    | case1 =>
      refine .inl fun t => ?_
      rw [List.nil_append, dropLayout, if_neg (by decide +kernel), if_neg (by decide)]
    | case2 c rest blank ih =>
      simpa only [List.cons_append, dropLayout, blank, if_true] using ih h
    | case3 rest blank ih =>
      simp only [List.cons_append, dropLayout, blank, Bool.false_eq_true, if_false, if_true]
      rcases comment rest with ended | swallowed
      · simpa only [ended] using ih h
      · exact .inr (by rw [swallowed, dropLayout])
    | case4 => cases h

/-- An element is read inside further groups, and in front of a closing parenthesis, as it is read
alone. A comment at the end of a source is the only thing that can take the parenthesis in. -/
theorem step_under (h : step b c s = .ok (next, rest)) (outside : List OpenGroup) :
    (∀ t, step (b.under outside) c (s ++ ')' :: t) = .ok (next.under outside, rest ++ ')' :: t)) ∨
    (b.verbose = true ∧ rest = [] ∧ (next.outer = [] →
      step (b.under outside) c (s ++ [')']) = .ok (next.under outside, []))) := by
  have same : (b.under outside).verbose = b.verbose := rfl
  unfold step at h ⊢
  simp only [same]
  split at h
  · obtain ⟨⟨opening, after⟩, taken, further⟩ := ok_of_bind h
    by_cases left : b.verbose = true → skip b.verbose s ≠ []
    · refine .inl fun t => ?_
      rw [bind_of_ok (readOpening_append taken left t)]
      cases opening with
      | flags changes =>
        cases further
        rfl
      | group kind =>
        cases further
        rfl
    · obtain ⟨flag, nothing⟩ := Classical.not_imp.mp left
      unfold readOpening at taken
      rw [Decidable.not_not.mp nothing] at taken
      cases taken
      cases further
      exact .inr ⟨flag, rfl, fun closed => by cases closed⟩
  · obtain ⟨left, leaves, same⟩ := ok_of_bind h
    cases same
    refine .inl fun t => ?_
    rw [bind_of_ok (Builder.leave_under leaves outside)]
    rfl
  · cases h
    exact .inl fun t => rfl
  · obtain ⟨⟨item, after⟩, taken, same⟩ := ok_of_bind h
    cases same
    refine .inl fun t => ?_
    rw [bind_of_ok (readBracket_local _ _ _ taken t)]
    rfl
  · exact .inl (repetition_under h outside)
  · exact .inl (repetition_under h outside)
  · exact .inl (repetition_under h outside)
  · obtain ⟨⟨⟨min, max⟩, after⟩, taken, further⟩ := ok_of_bind h
    by_cases left : b.verbose = true → skip b.verbose after ≠ []
    · refine .inl fun t => ?_
      rw [bind_of_ok (readBounds_local _ _ _ taken t)]
      dsimp only at further ⊢
      rw [skip_append left]
      exact repetition_under further outside t
    · obtain ⟨flag, nothing⟩ := Classical.not_imp.mp left
      replace nothing := Decidable.not_not.mp nothing
      dsimp only at further
      rw [nothing] at further
      obtain ⟨last, repeats, same⟩ := ok_of_bind further
      cases same
      have repeats := Builder.repeatLast_under repeats outside
      rcases skip_last nothing with kept | swallowed
      · refine .inl fun t => ?_
        rw [bind_of_ok (readBounds_local _ _ _ taken t)]
        simp only [kept]
        exact bind_of_ok repeats _
      · refine .inr ⟨flag, rfl, fun _ => ?_⟩
        rw [bind_of_ok (readBounds_local _ _ _ taken [])]
        simp only [swallowed]
        exact bind_of_ok repeats _
  · obtain ⟨⟨item, after⟩, taken, same⟩ := ok_of_bind h
    cases same
    refine .inl fun t => ?_
    rw [bind_of_ok (readEscape_local _ _ _ taken t)]
    rfl
  all_goals
    cases h
    exact .inl fun t => rfl

theorem run_cases {final : Builder} (h : run b s = .ok final) :
    (skip b.verbose s = [] ∧ final = b) ∨
    ∃ c after next more, skip b.verbose s = c :: after ∧ step b c after = .ok (next, more) ∧
      more.length < s.length ∧ run next more = .ok final := by
  rw [run] at h
  split at h
  · rename_i done
    cases h
    exact .inl ⟨done, rfl⟩
  · rename_i c after front
    split at h
    · cases h
    · rename_i next more stepped
      split at h
      · rename_i shorter
        exact .inr ⟨c, after, next, more, front, stepped, shorter, h⟩
      · cases h

theorem run_done (h : skip b.verbose s = []) : run b s = .ok b := by
  rw [run, h]

theorem run_step {after : List Char} (front : skip b.verbose s = c :: after)
    (stepped : step b c after = .ok (next, rest)) (shorter : rest.length < s.length) :
    run b s = run next rest := by
  rw [run, front]
  simp only [stepped, if_pos shorter]

theorem run_nil (now : b.verbose = false) : run b [] = .ok b :=
  run_done (by rw [now, skip_false])

theorem run_cons (now : b.verbose = false) (stepped : step b c s = .ok (next, rest))
    (shorter : rest.length < s.length + 1) : run b (c :: s) = run next rest :=
  run_step (by rw [now, skip_false]) stepped shorter

theorem run_free {final : Builder} (h : run b s = .ok final) (free : final.Free) : b.Free := by
  induction length : s.length using Nat.strongRecOn generalizing b s with
  | _ count ih =>
    subst length
    rcases run_cases h with ⟨-, rfl⟩ | ⟨c, after, next, more, -, stepped, shorter, further⟩
    · exact free
    · exact (step_next stepped).free (ih _ shorter further rfl)

theorem run_under {final : Builder} (h : run b s = .ok final) (free : final.Free) (calm : b.Calm)
    (outside : List OpenGroup) (t : List Char) :
    final.Calm ∧ run (b.under outside) (s ++ ')' :: t) = run (final.under outside) (')' :: t) := by
  induction length : s.length using Nat.strongRecOn generalizing b s with
  | _ count ih =>
    subst length
    rcases run_cases h with ⟨done, rfl⟩ | ⟨c, after, next, more, front, stepped, shorter, further⟩
    · rw [calm.now] at done
      cases done
      exact ⟨calm, rfl⟩
    · rw [calm.now] at front
      cases front
      have calm' := (step_next stepped).calm calm (run_free further free)
      obtain ⟨last, same⟩ := ih _ shorter further calm' rfl
      refine ⟨last, ?_⟩
      have inside := (step_under stepped outside).resolve_right fun swallowed => by
        simp [calm.now] at swallowed
      rw [List.cons_append,
        run_cons (b := b.under outside) calm.now (inside t)]
      · exact same
      · simp only [List.length_append, List.length_cons] at shorter ⊢
        omega

theorem start_calm : Builder.start.Calm := ⟨rfl, by simp [Builder.start]⟩

theorem run_enclosed {source : List Char} {ast : Ast} (read : parse source = .ok ast)
    (free : ast.verboseFree = true) (now : b.verbose = false) (name : Option String)
    (t : List Char) :
    run (b.enter (.capture name)) (source ++ ')' :: t) = run (b.add (.group (.capture name) ast)) t := by
  unfold parse at read
  obtain ⟨final, ran, whole⟩ := ok_of_bind read
  split at whole
  · rename_i closed
    cases whole
    have closed : final.outer = [] := List.isEmpty_iff.mp closed
    obtain ⟨branches, items⟩ := (Builder.verboseFree_body final).mp free
    have allFree : final.Free := by
      refine ⟨branches, items, ?_, ?_, ?_⟩ <;> simp [closed]
    obtain ⟨calm, same⟩ := run_under ran allFree start_calm (b.enter (.capture name)).outer t
    have entered : b.enter (.capture name) = Builder.start.under (b.enter (.capture name)).outer := by
      simp [Builder.enter, Builder.under, Builder.start, now]
    have left : step (final.under (b.enter (.capture name)).outer) ')' t =
        .ok (b.add (.group (.capture name) final.body), t) := by
      simp only [step, Builder.leave, Builder.under, Builder.enter, closed, List.nil_append]
      rfl
    rw [entered, same]
    exact run_cons (b := final.under _) calm.now left (Nat.lt_succ_self _)
  · cases whole

/-- Whatever flags are on, a closing parenthesis at the very end of a source ends the group around it, or
is taken in by a comment. -/
theorem run_under_last {final : Builder} (h : run b s = .ok final) (closed : final.outer = [])
    (g : OpenGroup) (outer : List OpenGroup) :
    run (b.under (g :: outer)) (s ++ [')']) =
        .ok ⟨g.branches, .group g.kind final.body :: g.items, outer, g.verbose⟩ ∨
      run (b.under (g :: outer)) (s ++ [')']) = .ok (final.under (g :: outer)) := by
  have nothing (verbose : Bool) : skip verbose [] = [] := by
    cases verbose <;> simp [skip, dropLayout]
  induction length : s.length using Nat.strongRecOn generalizing b s with
  | _ count ih =>
    subst length
    rcases run_cases h with ⟨done, rfl⟩ | ⟨c, after, next, more, front, stepped, shorter, further⟩
    · rcases skip_last done with kept | swallowed
      · have left : step (final.under (g :: outer)) ')' [] =
            .ok (⟨g.branches, .group g.kind final.body :: g.items, outer, g.verbose⟩, []) := by
          simp only [step, Builder.leave, Builder.under, closed, List.nil_append]
          rfl
        rw [run_step (b := final.under _) (kept []) left (by simp), run_done (nothing _)]
        exact .inl rfl
      · exact .inr (run_done swallowed)
    · have whole := skip_cons_append front [')']
      rcases step_under stepped (g :: outer) with inside | ⟨-, rfl, swallowed⟩
      · rw [run_step (b := b.under _) whole (inside []) (by simpa using shorter)]
        exact ih _ shorter further rfl
      · rw [run_done (nothing _)] at further
        cases further
        rw [run_step (b := b.under _) whole (swallowed closed) (by simp), run_done (nothing _)]
        exact .inr rfl

end Foldmark.Pattern
