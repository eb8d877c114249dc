import Foldmark.Pattern.Bracket
import Foldmark.Proofs.Pattern.Reader

/-! Bracketed classes in front of a closing parenthesis. The parenthesis is a member of a class like any
other, so what matters is that every class that is read was closed before it. -/
namespace Foldmark.Pattern

variable {verbose : Bool}

theorem leadingHyphens_hyphen (s : List Char) :
    leadingHyphens verbose ('-' :: s) =
      (.range ⟨'-', false⟩ ⟨'-', false⟩ :: (leadingHyphens verbose (skip verbose s)).1,
        (leadingHyphens verbose (skip verbose s)).2) := by
  rw [leadingHyphens]

theorem leadingHyphens_other {s : List Char} (h : s.head? ≠ some '-') :
    leadingHyphens verbose s = ([], s) := by
  unfold leadingHyphens
  split
  · simp at h
  · rfl

theorem leadingHyphens_append {s : List Char}
    (more : verbose = true → (leadingHyphens verbose s).2 ≠ []) (t : List Char) :
    leadingHyphens verbose (s ++ ')' :: t) =
      ((leadingHyphens verbose s).1, (leadingHyphens verbose s).2 ++ ')' :: t) := by
  induction length : s.length using Nat.strongRecOn generalizing s with
  | _ count ih =>
    subst length
    cases s with
    | nil => rw [leadingHyphens_other (by simp), leadingHyphens_other (by simp)]
    | cons c s =>
      by_cases hyphen : c = '-'
      · subst hyphen
        rw [leadingHyphens_hyphen] at more ⊢
        have left : verbose = true → skip verbose s ≠ [] := by
          intro flag nothing
          have := more flag
          rw [nothing, leadingHyphens_other (by simp)] at this
          exact this rfl
        have shorter : (skip verbose s).length < ('-' :: s).length :=
          Nat.lt_succ_of_le (skip_length_le verbose s)
        rw [List.cons_append, leadingHyphens_hyphen, skip_append left, ih _ shorter more rfl]
      · rw [leadingHyphens_other (by simpa using hyphen), leadingHyphens_other (by simpa using hyphen)]

theorem readFirst_append (negated : Bool) {s : List Char}
    (more : verbose = true → (readFirst verbose negated s).2 ≠ []) (t : List Char) :
    readFirst verbose negated (s ++ ')' :: t) =
      ((readFirst verbose negated s).1, (readFirst verbose negated s).2 ++ ')' :: t) := by
  unfold readFirst at more ⊢
  rcases hyphens : leadingHyphens verbose s with ⟨_ | ⟨hyphen, others⟩, rest⟩
  · rw [hyphens] at more
    have left : verbose = true → (leadingHyphens verbose s).2 ≠ [] := by
      intro flag nothing
      rw [hyphens] at nothing
      subst nothing
      exact more flag rfl
    rw [leadingHyphens_append left, hyphens]
    cases rest with
    | nil => rfl
    | cons c rest =>
      by_cases close : c = ']'
      · subst close
        simp only [List.cons_append, skip_append more]
      · simp [close]
  · rw [hyphens] at more
    rw [leadingHyphens_append (by rw [hyphens]; exact more), hyphens]

theorem head?_append_paren {s : List Char} {c : Char} (h : s.head? ≠ some c) (paren : c ≠ ')')
    (t : List Char) : (s ++ ')' :: t).head? ≠ some c := by
  cases s with
  | nil => simpa using paren.symm
  | cons d s => exact h

theorem readOpen_caret {s rest : List Char} (h : skip verbose s = '^' :: rest) :
    readOpen verbose s = readFirst verbose true (skip verbose rest) := by
  simp only [readOpen, h]

theorem readOpen_other {s : List Char} (h : (skip verbose s).head? ≠ some '^') :
    readOpen verbose s = readFirst verbose false (skip verbose s) := by
  unfold readOpen
  split
  · rename_i front
    simp [front] at h
  · rfl

theorem readFirst_nil (negated : Bool) : (readFirst verbose negated []).2 = [] := by
  simp only [readFirst, leadingHyphens_other (s := []) (by simp)]

theorem readOpen_append {s : List Char} (more : verbose = true → (readOpen verbose s).2 ≠ [])
    (t : List Char) :
    readOpen verbose (s ++ ')' :: t) =
      ((readOpen verbose s).1, (readOpen verbose s).2 ++ ')' :: t) := by
  by_cases caret : (skip verbose s).head? = some '^'
  · obtain ⟨after, front⟩ := List.head?_eq_some_iff.mp caret
    rw [readOpen_caret front] at more ⊢
    have left : verbose = true → skip verbose after ≠ [] := by
      intro flag nothing
      rw [nothing] at more
      exact more flag (readFirst_nil true)
    rw [readOpen_caret (skip_cons_append front _), skip_append left]
    exact readFirst_append true more t
  · rw [readOpen_other caret] at more ⊢
    have left : verbose = true → skip verbose s ≠ [] := by
      intro flag nothing
      rw [nothing] at more
      exact more flag (readFirst_nil false)
    have whole := skip_append left (')' :: t)
    rw [readOpen_other (by rw [whole]; exact head?_append_paren caret (by decide) t), whole]
    exact readFirst_append false more t

theorem ascii?_some {name : String} {set : CharSet} (h : CharSet.ascii? name = some set) :
    ')' ∉ name.toList := by
  unfold CharSet.ascii? at h
  split at h
  any_goals decide
  cases h

theorem readClassName?_append (negated : Bool) (s t : List Char) :
    readClassName? negated (s ++ ')' :: t) =
      (readClassName? negated s).map fun (member, rest) => (member, rest ++ ')' :: t) := by
  have parts := List.takeWhile_append_dropWhile (p := (· ≠ ':')) (l := s)
  unfold readClassName?
  rw [List.dropWhile_append, List.takeWhile_append]
  cases found : s.dropWhile (· ≠ ':') with
  | nil =>
    -- The name would reach past the closing parenthesis.
    rw [found, List.append_nil] at parts
    have unknown (more : List Char) : CharSet.ascii? (String.ofList (s ++ ')' :: more)) = none := by
      cases known : CharSet.ascii? (String.ofList (s ++ ')' :: more)) with
      | none => rfl
      | some set =>
        have := ascii?_some known
        simp at this
    rw [parts, if_pos rfl, List.takeWhile_cons_of_pos (by decide), unknown]
    split <;> rfl
  | cons c rest =>
    have part : (s.takeWhile (· ≠ ':')).length ≠ s.length := by
      have lengths := congrArg List.length parts
      simp only [found, List.length_append, List.length_cons] at lengths
      omega
    rw [if_neg part]
    match rest with
    | [] => simp
    | d :: rest =>
      by_cases colon : c = ':'
      · by_cases close : d = ']'
        · simp [colon, close, Option.map_map, Function.comp_def]
        · simp [colon, close]
      · simp [colon]

theorem readAsciiClass?_colon {s : List Char} (h : s.head? ≠ some '^') :
    readAsciiClass? (':' :: s) = readClassName? false s := by
  unfold readAsciiClass?
  split
  · rename_i same
    cases same
    simp at h
  · rename_i same
    cases same
    rfl
  · rename_i other
    exact absurd rfl (other s)

theorem readAsciiClass?_other {s : List Char} (h : s.head? ≠ some ':') :
    readAsciiClass? s = none := by
  unfold readAsciiClass?
  split
  · simp at h
  · simp at h
  · rfl

theorem readAsciiClass?_append (s t : List Char) :
    readAsciiClass? (s ++ ')' :: t) =
      (readAsciiClass? s).map fun (member, rest) => (member, rest ++ ')' :: t) := by
  by_cases colon : s.head? = some ':'
  · obtain ⟨s, rfl⟩ := List.head?_eq_some_iff.mp colon
    by_cases caret : s.head? = some '^'
    · obtain ⟨s, rfl⟩ := List.head?_eq_some_iff.mp caret
      exact readClassName?_append true s t
    · rw [readAsciiClass?_colon caret, List.cons_append,
        readAsciiClass?_colon (head?_append_paren caret (by decide) t)]
      exact readClassName?_append false s t
  · rw [readAsciiClass?_other colon,
      readAsciiClass?_other (head?_append_paren colon (by decide) t)]
    rfl

theorem readMemberAst_local : Local (readMemberAst verbose) := by
  refine .of_cons (fun a rest read => by cases read) fun c s a rest read t => ?_
  by_cases escape : c = '\\'
  · subst escape
    exact readEscape_local s a rest read t
  · simp only [readMemberAst] at read ⊢
    cases read
    rfl

theorem dropWhile_dropComment {s : List Char} (h : s.dropWhile isBlank = []) :
    (dropComment s).dropWhile isBlank = [] := by
  induction s with
  | nil => exact h
  | cons c s ih =>
    by_cases blank : isBlank c = true
    · rw [List.dropWhile_cons_of_pos blank] at h
      rw [dropComment]
      split
      · exact h
      · exact ih h
    · rw [List.dropWhile_cons_of_neg blank] at h
      cases h

theorem dropLayout_dropWhile (s : List Char) : dropLayout s = dropLayout (s.dropWhile isBlank) := by
  induction s with
  | nil => rfl
  | cons c s ih =>
    by_cases blank : isBlank c = true
    · rw [List.dropWhile_cons_of_pos blank, dropLayout, if_pos blank, ih]
    · rw [List.dropWhile_cons_of_neg blank]

theorem skip_of_charAfterHyphen {s : List Char} (h : charAfterHyphen verbose s = none) :
    skip verbose s = [] := by
  cases verbose with
  | false => simpa [charAfterHyphen] using h
  | true =>
    show dropLayout s = []
    simp only [charAfterHyphen, if_true] at h
    rw [dropLayout_dropWhile]
    split at h
    · rename_i rest comment
      have blank : isBlank '#' = false := by decide +kernel
      rw [comment, dropLayout, if_neg (by simp [blank]), if_pos rfl, dropLayout_dropWhile,
        dropWhile_dropComment (List.head?_eq_none_iff.mp h), dropLayout]
    · rw [List.head?_eq_none_iff.mp h, dropLayout]

theorem dropWhile_append_left {s : List Char} (h : s.dropWhile isBlank ≠ []) (t : List Char) :
    (s ++ t).dropWhile isBlank = s.dropWhile isBlank ++ t := by
  rw [List.dropWhile_append, if_neg (by simpa using h)]

theorem charAfterHyphen_append {s : List Char} (h : charAfterHyphen verbose s ≠ none) (t : List Char) :
    charAfterHyphen verbose (s ++ t) = charAfterHyphen verbose s := by
  have head {s : List Char} (h : s.head? ≠ none) : (s ++ t).head? = s.head? := by
    cases s with
    | nil => exact absurd rfl h
    | cons c s => rfl
  unfold charAfterHyphen at h ⊢
  cases verbose with
  | false => exact head h
  | true =>
    simp only [if_true] at h ⊢
    have left : s.dropWhile isBlank ≠ [] := by
      intro nothing
      rw [nothing] at h
      exact h rfl
    rw [dropWhile_append_left left]
    generalize s.dropWhile isBlank = front at h left
    cases front with
    | nil => exact absurd rfl left
    | cons c front =>
      by_cases comment : c = '#'
      · subst comment
        have inner : front.dropWhile isBlank ≠ [] := by
          intro nothing
          simp only [nothing] at h
          exact h rfl
        simp only [List.cons_append, dropWhile_append_left inner]
        exact head (by simpa using inner)
      · simp [comment]

theorem readMember_local : Local (readMember verbose) := by
  intro s a rest read t
  unfold readMember at read ⊢
  obtain ⟨⟨first, after⟩, taken, further⟩ := ok_of_bind read
  rw [bind_of_ok (readMemberAst_local _ _ _ taken t)]
  dsimp only at further ⊢
  cases front : skip verbose after with
  | nil =>
    rw [front] at further
    cases further
  | cons c after =>
    rw [front] at further
    rw [skip_cons_append front]
    by_cases hyphen : c = '-'
    · subst hyphen
      simp only at further ⊢
      have follows : charAfterHyphen verbose after ≠ none := by
        intro nothing
        simp [nothing, skip_of_charAfterHyphen nothing, readMemberAst] at further
        cases further
      rw [charAfterHyphen_append follows]
      split at further
      · rename_i single
        rw [if_pos single]
        obtain ⟨member, known, same⟩ := ok_of_bind further
        cases same
        rw [bind_of_ok known]
        rfl
      · rename_i range
        rw [if_neg range]
        have left : skip verbose after ≠ [] := by
          intro nothing
          simp only [nothing, readMemberAst] at further
          cases further
        obtain ⟨⟨last, more⟩, taken, further⟩ := ok_of_bind further
        rw [skip_append fun _ => left, bind_of_ok (readMemberAst_local _ _ _ taken t)]
        dsimp only at further ⊢
        split at further
        · split at further
          · rename_i ordered
            cases further
            rw [if_pos ordered]
            rfl
          · cases further
        · cases further
    · simp [hyphen] at further ⊢
      obtain ⟨member, known, same⟩ := ok_of_bind further
      cases same
      rw [known]
      rfl

theorem readClass_nil (top : OpenClass) (outer : List OpenClass) :
    readClass verbose top outer [] = malformed := by
  rw [readClass]
  cases verbose <;> simp [skip, dropLayout]

theorem readClass_local (top : OpenClass) (outer : List OpenClass) :
    Local (readClass verbose top outer) := by
  intro s a rest read t
  induction length : s.length using Nat.strongRecOn generalizing top outer s with
  | _ count ih =>
    subst length
    have next (top : OpenClass) (outer : List OpenClass) (after : List Char)
        (read : (if after.length < s.length then readClass verbose top outer after else malformed) =
          .ok (a, rest)) :
        (if (after ++ ')' :: t).length < (s ++ ')' :: t).length then
          readClass verbose top outer (after ++ ')' :: t) else malformed) =
            .ok (a, rest ++ ')' :: t) := by
      split at read
      · rename_i shorter
        rw [if_pos (by simpa using shorter)]
        exact ih _ shorter top outer after read rfl
      · cases read
    rw [readClass] at read ⊢
    simp only at read ⊢
    have left : skip verbose s ≠ [] := by
      intro nothing
      rw [nothing] at read
      cases read
    rw [skip_append fun _ => left]
    generalize skip verbose s = chars at read left
    split at read
    case h_1 => cases read
    case h_2 inner =>
      simp only [List.cons_append, readAsciiClass?_append]
      cases named : readAsciiClass? inner with
      | some found =>
        simp only [named] at read
        exact next _ _ _ read
      | none =>
        simp only [named] at read
        have more : (readOpen verbose inner).2 ≠ [] := by
          intro nothing
          rw [nothing, readClass_nil] at read
          split at read <;> cases read
        simp only [Option.map_none, readOpen_append fun _ => more]
        exact next _ _ _ read
    case h_3 =>
      split at read
      · cases read
        rfl
      · exact next _ _ _ read
    case h_4 => exact next _ _ _ read
    case h_5 => exact next _ _ _ read
    case h_6 => exact next _ _ _ read
    case h_7 nothing opens closes both less either =>
      split at read
      · rename_i taken
        have nothing : chars ++ ')' :: t = [] → False := by simp
        have opens : ∀ tail, chars ++ ')' :: t = '[' :: tail → False :=
          not_begins_append ['['] opens (by decide) t
        have closes : ∀ tail, chars ++ ')' :: t = ']' :: tail → False :=
          not_begins_append [']'] closes (by decide) t
        have both : ∀ tail, chars ++ ')' :: t = '&' :: '&' :: tail → False :=
          not_begins_append ['&', '&'] both (by decide) t
        have less : ∀ tail, chars ++ ')' :: t = '-' :: '-' :: tail → False :=
          not_begins_append ['-', '-'] less (by decide) t
        have either : ∀ tail, chars ++ ')' :: t = '~' :: '~' :: tail → False :=
          not_begins_append ['~', '~'] either (by decide) t
        simp only [readMember_local _ _ _ taken t]
        exact next _ _ _ read
      · cases read

theorem readBracket_local : Local (readBracket verbose) := by
  intro s a rest read t
  unfold readBracket at read ⊢
  obtain ⟨⟨⟨negated, body⟩, after⟩, taken, same⟩ := ok_of_bind read
  cases same
  have taken : readClass verbose (readOpen verbose s).1 [] (readOpen verbose s).2 =
    .ok ((negated, body), rest) := taken
  have more : (readOpen verbose s).2 ≠ [] := by
    intro nothing
    rw [nothing, readClass_nil] at taken
    cases taken
  rw [readOpen_append fun _ => more]
  exact bind_of_ok (readClass_local _ _ _ _ _ taken t) _

end Foldmark.Pattern
