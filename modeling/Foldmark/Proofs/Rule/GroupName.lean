import Foldmark.Rule.Master
import Foldmark.Proofs.Pattern.Alternation

/-! The names of the groups that markers stand in. A name is one that a group may have, and tells the
role and the rule that it was made from. -/
namespace Foldmark.MasterGroup

theorem toList_name (role : Role) (rule : Nat) :
    (name role rule).toList =
      namePrefix.toList ++ (role.tag.toList ++ '_' :: Nat.toDigits 10 rule) := by
  simp [name, toString]

theorem splitLast_none {s : List Char} (h : '_' ∉ s) : splitLast s = none := by
  induction s with
  | nil => rfl
  | cons c s ih =>
    obtain ⟨other, rest⟩ := not_or.mp (mt List.mem_cons.mpr h)
    simp only [splitLast, ih rest, if_neg (Ne.symm other)]

theorem splitLast_append (before : List Char) {after : List Char} (h : '_' ∉ after) :
    splitLast (before ++ '_' :: after) = some (before, after) := by
  induction before with
  | nil => simp [splitLast, splitLast_none h]
  | cons c before ih => simp only [List.cons_append, splitLast, ih]

theorem readIndex?_toDigits {n : Nat} (h : n < Range.wordSize) :
    readIndex? (Nat.toDigits 10 n) = some n := by
  have digits : (Nat.toDigits 10 n).all Char.isDigit = true :=
    List.all_eq_true.mpr fun c member =>
      Nat.isDigit_of_mem_toDigits (by decide) (by decide) member
  have value : (Nat.toDigits 10 n).foldl (fun n c => n * 10 + (c.toNat - 48)) 0 = n := by
    have same := Nat.ofDigitChars_toDigits (b := 10) (n := n) (by decide) (by decide)
    rw [Nat.ofDigitChars_eq_foldl] at same
    simp only [Nat.mul_comm 10] at same
    exact same
  simp [readIndex?, digits, value, h, Nat.toDigits_ne_nil]

theorem ofName?_name (role : Role) {rule : Nat} (h : rule < Range.wordSize) :
    ofName? (name role rule) = some (role, rule) := by
  have begins : namePrefix.toList.isPrefixOf (name role rule).toList = true := by
    rw [List.isPrefixOf_iff_prefix, toList_name]
    exact List.prefix_append _ _
  have ends : (name role rule).toList.drop namePrefix.toList.length =
      role.tag.toList ++ '_' :: Nat.toDigits 10 rule := by
    rw [toList_name, List.drop_left]
  simp [ofName?, begins, ends, splitLast_append _ Nat.underscore_not_in_toDigits,
    Role.ofTag?_tag, readIndex?_toDigits h]

def isLetter (c : Char) : Bool := c = '_' || c.isAlphanum

theorem letter_valid {c : Char} (h : isLetter c = true) :
    Pattern.isNameChar false c = true ∧ c ≠ '>' := by
  constructor
  · simp only [isLetter, Bool.or_eq_true, decide_eq_true_eq] at h
    rcases h with rfl | letter
    · rfl
    · simp [Pattern.isNameChar, letter]
  · rintro rfl
    cases h

theorem tag_letters (role : Role) : role.tag.toList.all isLetter = true := by
  cases role <;> decide

theorem validName_of_letters {name : String} {rest : List Char} (begins : name.toList = '_' :: rest)
    (letters : rest.all isLetter = true) : Pattern.ValidName name :=
  ⟨'_', rest, begins, rfl, by decide,
    fun c member => letter_valid (List.all_eq_true.mp letters c member)⟩

theorem validName (role : Role) (rule : Nat) : Pattern.ValidName (name role rule) := by
  have prefixed : "_fold_".toList.all isLetter = true := by decide
  have digits : (Nat.toDigits 10 rule).all isLetter = true := by
    refine List.all_eq_true.mpr fun c member => ?_
    have digit := Nat.isDigit_of_mem_toDigits (by decide) (by decide) member
    simp [isLetter, Char.isAlphanum, digit]
  have begins : (name role rule).toList =
      '_' :: ("_fold_".toList ++ (role.tag.toList ++ '_' :: Nat.toDigits 10 rule)) := by
    rw [toList_name]
    rfl
  refine validName_of_letters begins ?_
  rw [List.all_append, List.all_append, List.all_cons, prefixed, tag_letters, digits]
  rfl

end Foldmark.MasterGroup
