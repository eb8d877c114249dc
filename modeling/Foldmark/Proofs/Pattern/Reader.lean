import Foldmark.Pattern.Escape

/-! Readers look no further than they must. What a reader takes in front of a closing parenthesis it
also takes when that parenthesis and more of the source follow. Where blanks and comments are skipped,
this holds as long as something is left, since a comment has no end but a line break. -/
namespace Foldmark

theorem ok_of_bind {ε α β : Type} {x : Except ε α} {f : α → Except ε β} {b : β}
    (h : x >>= f = .ok b) : ∃ a, x = .ok a ∧ f a = .ok b := by
  cases x with
  | error e => cases h
  | ok a => exact ⟨a, rfl, h⟩

theorem bind_of_ok {ε α β : Type} {x : Except ε α} {a : α} (h : x = .ok a) (f : α → Except ε β) :
    x >>= f = f a := by
  rw [h]
  rfl

namespace Pattern

/-- A reader that takes the same when a closing parenthesis and more of the source follow. -/
def Local {α : Type} (read : List Char → Result (α × List Char)) : Prop :=
  ∀ s a rest, read s = .ok (a, rest) → ∀ t, read (s ++ ')' :: t) = .ok (a, rest ++ ')' :: t)

namespace Local

variable {α β : Type} {first read : List Char → Result (α × List Char)}

theorem pure (a : α) : Local fun s => .ok (a, s) := by
  intro s a rest read t
  cases read
  rfl

theorem bind {next : α → List Char → Result (β × List Char)} (one : Local first)
    (two : ∀ a, Local (next a)) : Local fun s => first s >>= fun (a, rest) => next a rest := by
  intro s b rest read t
  obtain ⟨⟨a, middle⟩, taken, further⟩ := ok_of_bind read
  exact (bind_of_ok (one s a middle taken t) _).trans (two a middle b rest further t)

theorem map (f : α → β) (one : Local first) :
    Local fun s => first s >>= fun (a, rest) => .ok (f a, rest) :=
  one.bind fun a => pure (f a)

theorem of_cons (empty : ∀ a rest, read [] ≠ .ok (a, rest))
    (cons : ∀ c, Local fun s => read (c :: s)) : Local read := by
  intro s a rest taken
  cases s with
  | nil => exact absurd taken (empty a rest)
  | cons c s => exact cons c s a rest taken

end Local

theorem begins_of_append {s t rest : List Char} (p : List Char) (h : s ++ ')' :: t = p ++ rest)
    (paren : ')' ∉ p) : ∃ more, s = p ++ more := by
  rcases List.append_eq_append_iff.mp h with ⟨more, same, tail⟩ | ⟨more, same, -⟩
  · cases more with
    | nil => exact ⟨[], by simp [same]⟩
    | cons c more =>
      simp only [List.cons_append, List.cons.injEq] at tail
      exact absurd (by simp [same, ← tail.1]) paren
  · exact ⟨more, same⟩

theorem not_begins_append {s : List Char} (p : List Char) (h : ∀ tail, s = p ++ tail → False)
    (paren : ')' ∉ p) (t tail : List Char) : s ++ ')' :: t = p ++ tail → False := by
  intro same
  obtain ⟨more, begins⟩ := begins_of_append p same paren
  exact h more begins

@[simp] theorem skip_false (s : List Char) : skip false s = s := rfl

theorem dropComment_append {s : List Char} (h : dropComment s ≠ []) (t : List Char) :
    dropComment (s ++ t) = dropComment s ++ t := by
  induction s with
  | nil => exact absurd rfl h
  | cons c s ih =>
    simp only [dropComment, List.cons_append] at h ⊢
    split
    · rfl
    · rename_i inside
      exact ih (by simpa only [inside, if_false] using h)

theorem dropLayout_append {s : List Char} (h : dropLayout s ≠ []) (t : List Char) :
    dropLayout (s ++ t) = dropLayout s ++ t := by
  fun_induction dropLayout s with
  | case1 => exact absurd rfl h
  | case2 c rest blank ih =>
    rw [List.cons_append, dropLayout, if_pos blank, ih h]
  | case3 rest blank ih =>
    have ended : dropComment rest ≠ [] := by
      intro nothing
      rw [nothing, dropLayout] at h
      exact h rfl
    rw [List.cons_append, dropLayout, if_neg blank, if_pos rfl, dropComment_append ended, ih h]
  | case4 c rest blank comment =>
    rw [List.cons_append, dropLayout, if_neg blank, if_neg comment]

variable {verbose : Bool}

theorem skip_append {s : List Char} (h : verbose = true → skip verbose s ≠ []) (t : List Char) :
    skip verbose (s ++ t) = skip verbose s ++ t := by
  cases verbose with
  | false => rfl
  | true => exact dropLayout_append (h rfl) t

theorem skip_cons_append {c : Char} {s rest : List Char} (h : skip verbose s = c :: rest)
    (t : List Char) : skip verbose (s ++ t) = c :: (rest ++ t) := by
  rw [skip_append (fun _ => by simp [h]), h, List.cons_append]

theorem readDigits_local (count value : Nat) : Local (readDigits verbose count value) := by
  intro s a rest read t
  induction count generalizing value s with
  | zero =>
    cases read
    rfl
  | succ count ih =>
    cases s with
    | nil => cases read
    | cons c s =>
      simp only [readDigits, List.cons_append] at read ⊢
      split at read
      · rename_i digit
        by_cases last : count = 0
        · subst last
          cases read
          rfl
        · rw [if_neg last] at read ⊢
          have more : skip verbose s ≠ [] := by
            intro nothing
            obtain ⟨fewer, rfl⟩ := Nat.exists_eq_succ_of_ne_zero last
            rw [nothing] at read
            cases read
          rw [skip_append fun _ => more]
          exact ih _ _ read
      · cases read

theorem readBraced_nil {s : List Char} (h : skip verbose s = []) :
    readBraced verbose s = malformed := by
  rw [readBraced]
  split
  · rfl
  all_goals
    rename_i other
    cases h.symm.trans other

theorem readBraced_close {s rest : List Char} (h : skip verbose s = '}' :: rest) :
    readBraced verbose s = .ok ([], rest) := by
  rw [readBraced]
  split
  · rename_i other
    cases h.symm.trans other
  · rename_i other
    cases h.symm.trans other
    rfl
  · rename_i open' other
    cases h.symm.trans other
    exact absurd rfl open'

theorem readBraced_cons {c : Char} {s rest : List Char} (h : skip verbose s = c :: rest)
    (open' : c ≠ '}') : readBraced verbose s =
      readBraced verbose rest >>= fun (more, rest) => .ok (c :: more, rest) := by
  rw [readBraced]
  split
  · rename_i other
    cases h.symm.trans other
  · rename_i other
    cases h.symm.trans other
    exact absurd rfl open'
  · rename_i other
    cases h.symm.trans other
    rfl

theorem readBraced_local : Local (readBraced verbose) := by
  intro s a rest read t
  induction length : s.length using Nat.strongRecOn generalizing s a with
  | _ count ih =>
    subst length
    cases front : skip verbose s with
    | nil =>
      rw [readBraced_nil front] at read
      cases read
    | cons c after =>
      have whole := skip_cons_append front (')' :: t)
      by_cases close : c = '}'
      · subst close
        rw [readBraced_close front] at read
        cases read
        exact readBraced_close whole
      · rw [readBraced_cons front close] at read
        obtain ⟨⟨more, after'⟩, inner, same⟩ := ok_of_bind read
        cases same
        have shorter : after.length < s.length := by
          have := skip_length_le verbose s
          rw [front, List.length_cons] at this
          exact this
        rw [readBraced_cons whole close, bind_of_ok (ih _ shorter _ _ inner rfl)]

theorem readHex_local (count : Nat) (byte : Bool) : Local (readHex verbose count byte) := by
  intro s a rest read t
  unfold readHex at read ⊢
  cases front : skip verbose s with
  | nil =>
    rw [front] at read
    cases read
  | cons c after =>
    rw [front] at read
    rw [skip_cons_append front]
    by_cases brace : c = '{'
    · subst brace
      simp only at read ⊢
      obtain ⟨⟨digits, after⟩, taken, further⟩ := ok_of_bind read
      rw [bind_of_ok (readBraced_local _ _ _ taken t)]
      dsimp only at further ⊢
      split at further
      · split at further
        · cases further
          rfl
        · cases further
      · cases further
    · simp only at read ⊢
      obtain ⟨⟨value, after⟩, taken, further⟩ := ok_of_bind read
      rw [← List.cons_append, bind_of_ok (readDigits_local _ _ _ _ _ taken t)]
      dsimp only at further ⊢
      split at further
      · cases further
        rfl
      · cases further

theorem readProperty_local : Local (readProperty verbose) := by
  intro s a rest read t
  unfold readProperty at read ⊢
  cases front : skip verbose s with
  | nil =>
    rw [front] at read
    cases read
  | cons c after =>
    rw [front] at read
    rw [skip_cons_append front]
    by_cases brace : c = '{'
    · subst brace
      exact (readBraced_local.map PropertyQuery.ofChars) after a rest read t
    · by_cases escape : c = '\\'
      · subst escape
        cases read
      · simp only at read ⊢
        cases read
        rfl

theorem readAnchorName_close (s : List Char) : readAnchorName verbose ('}' :: s) = .ok ([], s) := by
  rw [readAnchorName]

theorem readAnchorName_cons {c : Char} (h : c ≠ '}') (s : List Char) :
    readAnchorName verbose (c :: s) =
      if isAnchorLetter c then
        readAnchorName verbose (skip verbose s) >>= fun (more, rest) => .ok (c :: more, rest)
      else malformed := by
  rw [readAnchorName]
  · rfl
  · exact h

theorem readAnchorName_local : Local (readAnchorName verbose) := by
  intro s a rest read t
  induction length : s.length using Nat.strongRecOn generalizing s a with
  | _ count ih =>
    subst length
    cases s with
    | nil =>
      rw [readAnchorName] at read
      cases read
    | cons c s =>
      by_cases close : c = '}'
      · subst close
        rw [readAnchorName_close] at read
        cases read
        exact readAnchorName_close _
      · rw [readAnchorName_cons close] at read
        rw [List.cons_append, readAnchorName_cons close]
        split at read
        · rename_i letter
          obtain ⟨⟨more, after⟩, inner, same⟩ := ok_of_bind read
          cases same
          have further : skip verbose s ≠ [] := by
            intro nothing
            rw [nothing, readAnchorName] at inner
            cases inner
          have shorter : (skip verbose s).length < (c :: s).length :=
            Nat.lt_succ_of_le (skip_length_le verbose s)
          rw [if_pos letter, skip_append fun _ => further, bind_of_ok (ih _ shorter _ _ inner rfl)]
        · cases read

theorem readBoundary_other {s : List Char} (h : s.head? ≠ some '{') :
    readBoundary verbose s = .ok (.wordBoundary, s) := by
  unfold readBoundary
  split
  · simp at h
  · rfl

theorem readBoundary_local : Local (readBoundary verbose) := by
  intro s a rest read t
  by_cases brace : s.head? = some '{'
  · obtain ⟨inner, rfl⟩ := List.head?_eq_some_iff.mp brace
    simp only [readBoundary, List.cons_append] at read ⊢
    cases front : skip verbose inner with
    | nil =>
      rw [front] at read
      cases read
    | cons c after =>
      rw [front] at read
      rw [skip_cons_append front]
      simp only at read ⊢
      split at read
      · rename_i letter
        obtain ⟨⟨name, after⟩, taken, further⟩ := ok_of_bind read
        rw [if_pos letter, ← List.cons_append,
          bind_of_ok (readAnchorName_local _ _ _ taken t)]
        dsimp only at further ⊢
        split at further
        all_goals
          cases further
          try rfl
      · rename_i letter
        rw [if_neg letter]
        cases read
        rfl
  · rw [readBoundary_other brace] at read
    cases read
    apply readBoundary_other
    cases s with
    | nil => simp
    | cons c s => exact brace

theorem readEscape_local : Local (readEscape verbose) := by
  refine .of_cons (fun a rest read => by cases read) fun c s a rest read t => ?_
  dsimp only at read ⊢
  unfold readEscape at read
  dsimp only at read
  split at read
  case h_1 nothing => cases nothing
  -- Hexadecimal escapes, property classes and word boundaries read on.
  case h_2 same =>
    cases same
    exact (readHex_local 2 true).map Ast.literal s a rest read t
  case h_3 same =>
    cases same
    exact (readHex_local 4 false).map Ast.literal s a rest read t
  case h_4 same =>
    cases same
    exact (readHex_local 8 false).map Ast.literal s a rest read t
  case h_5 same =>
    cases same
    exact readProperty_local.map (fun query => Ast.property query false) s a rest read t
  case h_6 same =>
    cases same
    exact readProperty_local.map (fun query => Ast.property query true) s a rest read t
  case h_21 same =>
    cases same
    exact readBoundary_local.map Ast.anchor s a rest read t
  case h_25 same =>
    cases same
    split at read
    · rename_i escapable
      cases read
      simp only [readEscape, if_pos escapable]
      rfl
    · cases read
  all_goals
    rename_i same
    cases same
    cases read
    rfl

end Pattern

end Foldmark
