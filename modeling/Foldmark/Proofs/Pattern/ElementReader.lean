import Foldmark.Pattern.Parser
import Foldmark.Proofs.Pattern.ClassReader

/-! What opens a group and what bounds a repetition, in front of a closing parenthesis. -/
namespace Foldmark.Pattern

variable {verbose : Bool}

theorem readFlags_local (negated dangling : Bool) (changes : List FlagChange) :
    Local (readFlags negated dangling changes) := by
  intro s
  induction s generalizing negated dangling changes with
  | nil =>
    intro a rest read
    cases read
  | cons c s ih =>
    intro a rest read t
    simp only [readFlags, List.cons_append] at read ⊢
    by_cases ends : (decide (c = ':') || decide (c = ')')) = true
    · rw [if_pos ends] at read ⊢
      split at read
      · cases read
      · rename_i complete
        rw [if_neg complete]
        cases read
        rfl
    · rw [if_neg ends] at read ⊢
      by_cases negation : c = '-'
      · rw [if_pos negation] at read ⊢
        split at read
        · cases read
        · rename_i once
          rw [if_neg once]
          exact ih _ _ _ _ _ read t
      · rw [if_neg negation] at read ⊢
        split at read
        · cases read
        · split at read
          · cases read
          · rename_i fresh
            rw [if_neg fresh]
            exact ih _ _ _ _ _ read t

theorem readName_local (first : Bool) : Local (readName first) := by
  intro s
  induction s generalizing first with
  | nil =>
    intro a rest read
    cases read
  | cons c s ih =>
    intro a rest read t
    simp only [readName, List.cons_append] at read ⊢
    by_cases close : c = '>'
    · rw [if_pos close] at read ⊢
      split at read
      · cases read
      · rename_i named
        rw [if_neg named]
        cases read
        rfl
    · rw [if_neg close] at read ⊢
      split at read
      · rename_i valid
        rw [if_pos valid]
        obtain ⟨⟨more, after⟩, taken, same⟩ := ok_of_bind read
        cases same
        exact bind_of_ok (ih false _ _ taken t) _
      · cases read

theorem readGreedy_append (s t : List Char) :
    readGreedy (s ++ ')' :: t) = ((readGreedy s).1, (readGreedy s).2 ++ ')' :: t) := by
  cases s with
  | nil => rfl
  | cons c s =>
    by_cases question : c = '?'
    · subst question
      rfl
    · simp [readGreedy, question]

theorem readDecimalDigits_cons (value : Nat) (c : Char) (s : List Char) :
    readDecimalDigits verbose value (c :: s) =
      if c.isDigit then readDecimalDigits verbose (value * 10 + (c.toNat - 48)) (skip verbose s)
      else (value, c :: s) := by
  rw [readDecimalDigits]

theorem readDecimalDigits_append (value : Nat) {s : List Char}
    (more : verbose = true → (readDecimalDigits verbose value s).2 ≠ []) (t : List Char) :
    readDecimalDigits verbose value (s ++ ')' :: t) =
      ((readDecimalDigits verbose value s).1, (readDecimalDigits verbose value s).2 ++ ')' :: t) := by
  induction length : s.length using Nat.strongRecOn generalizing value s with
  | _ count ih =>
    subst length
    cases s with
    | nil =>
      rw [List.nil_append, readDecimalDigits_cons, readDecimalDigits]
      rfl
    | cons c s =>
      rw [readDecimalDigits_cons] at more
      rw [List.cons_append, readDecimalDigits_cons, readDecimalDigits_cons]
      split
      · rename_i digit
        rw [if_pos digit] at more
        have left : verbose = true → skip verbose s ≠ [] := by
          intro flag nothing
          have := more flag
          rw [nothing, readDecimalDigits] at this
          exact this rfl
        have shorter : (skip verbose s).length < (c :: s).length :=
          Nat.lt_succ_of_le (skip_length_le verbose s)
        rw [skip_append left]
        exact ih _ shorter _ more rfl
      · rfl

theorem dropWhile_isBlank_append (s t : List Char) :
    (s ++ ')' :: t).dropWhile isBlank = s.dropWhile isBlank ++ ')' :: t := by
  have paren : isBlank ')' = false := by decide +kernel
  induction s with
  | nil => simp [paren]
  | cons c s ih =>
    by_cases blank : isBlank c = true
    · rw [List.cons_append, List.dropWhile_cons_of_pos blank, List.dropWhile_cons_of_pos blank, ih]
    · rw [List.cons_append, List.dropWhile_cons_of_neg blank, List.dropWhile_cons_of_neg blank]
      rfl

theorem readCount_append {s rest : List Char} {count : Nat}
    (read : readCount verbose s = .ok (count, rest)) (more : verbose = true → rest ≠ [])
    (t : List Char) : readCount verbose (s ++ ')' :: t) = .ok (count, rest ++ ')' :: t) := by
  unfold readCount at read ⊢
  simp only [dropWhile_isBlank_append] at read ⊢
  have front : (((s.dropWhile isBlank ++ ')' :: t).head?).map Char.isDigit).getD false =
      (((s.dropWhile isBlank).head?).map Char.isDigit).getD false := by
    cases s.dropWhile isBlank <;> rfl
  rw [front]
  split at read
  · rename_i digit
    rw [if_pos digit]
    split at read
    · rename_i bounded
      cases read
      have left : verbose = true →
          (readDecimalDigits verbose 0 (s.dropWhile isBlank)).2 ≠ [] := by
        intro flag nothing
        rw [nothing] at more
        exact more flag rfl
      rw [readDecimalDigits_append 0 left]
      simp only [if_pos bounded, dropWhile_isBlank_append]
    · cases read
  · cases read

theorem readBounds_local : Local (readBounds verbose) := by
  intro s a rest read t
  unfold readBounds at read ⊢
  obtain ⟨⟨min, after⟩, taken, further⟩ := ok_of_bind read
  have front : verbose = true → skip verbose s ≠ [] := by
    intro flag nothing
    rw [nothing] at taken
    cases taken
  have behind : after ≠ [] := by
    rintro rfl
    cases further
  rw [skip_append front, bind_of_ok (readCount_append taken (fun _ => behind) t)]
  dsimp only at further ⊢
  split at further
  · cases further
    rfl
  · rename_i after
    simp only [List.cons_append]
    have inner : verbose = true → skip verbose after ≠ [] := by
      intro flag nothing
      rw [nothing] at further
      cases further
    rw [skip_append inner]
    split at further
    · rename_i close
      cases further
      simp only [close]
      rfl
    · rename_i single
      obtain ⟨⟨max, more⟩, taken, further⟩ := ok_of_bind further
      have last : more ≠ [] := by
        rintro rfl
        cases further
      split
      · rename_i same
        obtain ⟨more, same⟩ := begins_of_append ['}'] same (by decide)
        exact absurd same (single more)
      · rw [bind_of_ok (readCount_append taken (fun _ => last) t)]
        dsimp only at further ⊢
        split at further
        · split at further
          · rename_i ordered
            cases further
            simp only [List.cons_append, if_pos ordered]
            rfl
          · cases further
        · cases further
  · cases further

/-- What an opening parenthesis begins is followed after it, unless nothing but blanks and comments is. -/
theorem readOpening_append {s rest : List Char} {opening : Opening}
    (read : readOpening verbose s = .ok (opening, rest)) (left : verbose = true → skip verbose s ≠ [])
    (t : List Char) : readOpening verbose (s ++ ')' :: t) = .ok (opening, rest ++ ')' :: t) := by
  unfold readOpening at read ⊢
  have named := (readName_local true).map fun name =>
    Opening.group (.capture (some (String.ofList name)))
  have switched := (readFlags_local false false []).map fun changed =>
    if changed.2 = true then Opening.group (.plain changed.1) else Opening.flags changed.1
  rw [skip_append left]
  generalize skip verbose s = front at read
  simp only at read ⊢
  split at read
  case h_5 name => exact named name opening rest read t
  case h_6 name ahead notAhead =>
    have ahead : ∀ tail, name ++ ')' :: t = '=' :: tail → False :=
      not_begins_append ['='] ahead (by decide) t
    have notAhead : ∀ tail, name ++ ')' :: t = '!' :: tail → False :=
      not_begins_append ['!'] notAhead (by decide) t
    have read := named name opening rest read t
    simp only [List.cons_append]
    exact read
  case h_7 flags ahead notAhead behind notBehind capital small =>
    have ahead : ∀ tail, flags ++ ')' :: t = '=' :: tail → False :=
      not_begins_append ['='] ahead (by decide) t
    have notAhead : ∀ tail, flags ++ ')' :: t = '!' :: tail → False :=
      not_begins_append ['!'] notAhead (by decide) t
    have capital : ∀ tail, flags ++ ')' :: t = 'P' :: '<' :: tail → False :=
      not_begins_append ['P', '<'] capital (by decide) t
    have small : ∀ tail, flags ++ ')' :: t = '<' :: tail → False :=
      not_begins_append ['<'] small (by decide) t
    have behind : ∀ tail, flags ++ ')' :: t = '<' :: '=' :: tail → False :=
      fun tail => small ('=' :: tail)
    have notBehind : ∀ tail, flags ++ ')' :: t = '<' :: '!' :: tail → False :=
      fun tail => small ('!' :: tail)
    have read := switched flags opening rest read t
    simp only [List.cons_append]
    exact read
  case h_8 ahead notAhead behind notBehind capital small question =>
    have question : ∀ tail, front ++ ')' :: t = '?' :: tail → False :=
      not_begins_append ['?'] question (by decide) t
    cases read
    split
    case h_8 => rfl
    all_goals
      rename_i same
      exact absurd same (question _)
  all_goals cases read

end Foldmark.Pattern
