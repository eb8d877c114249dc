import Mathlib.Data.List.Chain
import Foldmark.Proofs.Rule.Literal

/-! How closing markers are divided. A source is read with every backslash and the character behind it as one, and it
is divided at the back-references that are met this way. Nothing is lost: the parts, written one after the other, are
read as the source is. What is widened has no back-references any more. -/
namespace Foldmark

def MirrorPart.written : MirrorPart → List Char
  | .source chars => chars
  | .group number => '\\' :: Nat.toDigits 10 number

namespace Mirror

variable {c d : Char} {number : Nat} {source rest : List Char} {parts : List MirrorPart}

theorem group_mem_push : .group number ∈ push c parts ↔ .group number ∈ parts := by
  unfold push
  split <;> simp

theorem isReferenceStart_iff : isReferenceStart c = true ↔ 49 ≤ c.toNat ∧ c.toNat ≤ 57 := by
  simp only [isReferenceStart, Bool.and_eq_true, decide_eq_true_eq]
  exact Iff.rfl

theorem digitChar_toNat (digit : 48 ≤ c.toNat ∧ c.toNat ≤ 57) : (c.toNat - 48).digitChar = c := by
  apply Char.toNat_inj.mp
  rw [Nat.toNat_digitChar_of_lt_ten (by omega)]
  omega

/-- What a source is divided into, told from its end. A reference takes a second digit if there is one. -/
inductive Divided : List Char → List MirrorPart → Prop
  | nil : Divided [] []
  | reference {number : Nat} {rest : List Char} {parts : List MirrorPart} :
    1 ≤ number → number ≤ 99 → (number < 10 → ∀ d ∈ rest.head?, d.isDigit = false) → Divided rest parts →
    Divided ('\\' :: (Nat.toDigits 10 number ++ rest)) (.group number :: parts)
  | escaped {c : Char} {rest : List Char} {parts : List MirrorPart} :
    isReferenceStart c = false → Divided rest parts → Divided ('\\' :: c :: rest) (push '\\' (push c parts))
  | single {c : Char} {rest : List Char} {parts : List MirrorPart} :
    (c = '\\' → rest = []) → Divided rest parts → Divided (c :: rest) (push c parts)

theorem Divided.short (first : isReferenceStart c = true) (ends : ∀ d ∈ rest.head?, d.isDigit = false)
    (divided : Divided rest parts) : Divided ('\\' :: c :: rest) (.group (c.toNat - 48) :: parts) := by
  have digit := isReferenceStart_iff.mp first
  have written : '\\' :: c :: rest = '\\' :: (Nat.toDigits 10 (c.toNat - 48) ++ rest) := by
    rw [Nat.toDigits_of_lt_base (by omega), digitChar_toNat (by omega)]
    rfl
  rw [written]
  exact .reference (by omega) (by omega) (fun _ => ends) divided

theorem Divided.long (first : isReferenceStart c = true) (second : d.isDigit = true)
    (divided : Divided rest parts) :
    Divided ('\\' :: c :: d :: rest) (.group ((c.toNat - 48) * 10 + (d.toNat - 48)) :: parts) := by
  have tens := isReferenceStart_iff.mp first
  have ones : 48 ≤ d.toNat ∧ d.toNat ≤ 57 := Char.isDigit_iff_toNat.mp second
  have written : '\\' :: c :: d :: rest =
      '\\' :: (Nat.toDigits 10 ((c.toNat - 48) * 10 + (d.toNat - 48)) ++ rest) := by
    have quotient : ((c.toNat - 48) * 10 + (d.toNat - 48)) / 10 = c.toNat - 48 := by omega
    have remainder : ((c.toNat - 48) * 10 + (d.toNat - 48)) % 10 = d.toNat - 48 := by omega
    rw [Nat.toDigits_of_base_le (by decide) (by omega), quotient, remainder, Nat.toDigits_of_lt_base (by omega),
      digitChar_toNat (by omega), digitChar_toNat ones]
    rfl
  rw [written]
  exact .reference (by omega) (by omega) (by omega) divided

theorem divide_divided (source : List Char) : Divided source (divide source) := by
  fun_induction divide source with
  | case1 => exact .nil
  | case2 c first d rest second ih => exact .long first second ih
  | case3 c first d rest second ih =>
    refine .short first (fun _ here => ?_) ih
    cases here
    exact Bool.eq_false_iff.mpr second
  | case4 c first => exact .short first (fun _ here => by cases here) .nil
  | case5 c rest first ih => exact .escaped (Bool.eq_false_iff.mpr first) ih
  | case6 c rest plain ih =>
    refine .single (fun backslash => ?_) ih
    cases rest with
    | nil => rfl
    | cons d rest => exact absurd rfl (plain d rest backslash)

theorem Divided.eq_nil (divided : Divided [] parts) : parts = [] := by
  cases divided
  rfl

theorem toDigits_reference (positive : 1 ≤ number) (short : number ≤ 99) :
    ∃ first more, Nat.toDigits 10 number = first :: more ∧ isReferenceStart first = true ∧ '\\' ∉ more := by
  obtain ⟨first, more, digits⟩ := List.exists_cons_of_ne_nil (Nat.toDigits_ne_nil (b := 10) (n := number))
  refine ⟨first, more, digits, isReferenceStart_iff.mpr ?_, fun backslash => ?_⟩
  · by_cases single : number < 10
    · rw [Nat.toDigits_of_lt_base single] at digits
      cases digits
      rw [Nat.toNat_digitChar_of_lt_ten single]
      omega
    · rw [Nat.toDigits_of_base_le (by decide) (by omega), Nat.toDigits_of_lt_base (by omega)] at digits
      cases digits
      rw [Nat.toNat_digitChar_of_lt_ten (by omega)]
      omega
  · have member : '\\' ∈ Nat.toDigits 10 number := digits ▸ List.mem_cons_of_mem _ backslash
    exact absurd (Nat.isDigit_of_mem_toDigits (by decide) (by decide) member) (by decide)

/-- What is read as one: a backslash together with the character behind it, or any other character. -/
def readings : List Char → List (List Char)
  | [] => []
  | '\\' :: c :: rest => ['\\', c] :: readings rest
  | c :: rest => [c] :: readings rest

theorem flatten_readings (source : List Char) : (readings source).flatten = source := by
  fun_induction readings source with
  | case1 => rfl
  | case2 c rest ih => rw [List.flatten_cons, ih]; rfl
  | case3 c rest _ ih => rw [List.flatten_cons, ih]; rfl

theorem readings_escaped (c : Char) (rest : List Char) : readings ('\\' :: c :: rest) = ['\\', c] :: readings rest := by
  rw [readings]

theorem readings_single (alone : c = '\\' → rest = []) : readings (c :: rest) = [c] :: readings rest := by
  rw [readings]
  intro d behind backslash occupied
  rw [alone backslash] at occupied
  cases occupied

theorem readings_append {chars : List Char} (plain : '\\' ∉ chars) (rest : List Char) :
    readings (chars ++ rest) = chars.map (fun c => [c]) ++ readings rest := by
  induction chars with
  | nil => rfl
  | cons c chars ih =>
    obtain ⟨own, others⟩ := List.ne_and_not_mem_of_not_mem_cons plain
    rw [List.cons_append, readings_single fun backslash => absurd backslash.symm own, ih others]
    rfl

def partReadings (parts : List MirrorPart) : List (List Char) := parts.flatMap fun part => readings part.written

theorem partReadings_push (alone : c = '\\' → parts = []) :
    partReadings (push c parts) = [c] :: partReadings parts := by
  have one : readings [c] = [[c]] := readings_single fun _ => rfl
  cases parts with
  | nil => exact congrArg (· ++ partReadings []) one
  | cons part others =>
    have plain : c ≠ '\\' := fun backslash => by cases alone backslash
    cases part with
    | source chars =>
      have longer : readings (c :: chars) = [c] :: readings chars :=
        readings_single fun backslash => absurd backslash plain
      exact congrArg (· ++ partReadings others) longer
    | group number => exact congrArg (· ++ partReadings (.group number :: others)) one

theorem partReadings_escaped : partReadings (push '\\' (push c parts)) = ['\\', c] :: partReadings parts := by
  cases parts with
  | nil => rfl
  | cons part others => cases part <;> rfl

theorem Divided.readings (divided : Divided source parts) : partReadings parts = readings source := by
  induction divided with
  | nil => rfl
  | @reference number rest parts positive short _ _ ih =>
    obtain ⟨first, more, digits, -, plain⟩ := toDigits_reference positive short
    have own (rest : List Char) : Mirror.readings ('\\' :: (Nat.toDigits 10 number ++ rest)) =
        ['\\', first] :: (more.map fun c => [c]) ++ Mirror.readings rest := by
      rw [digits, List.cons_append, readings_escaped, readings_append plain]
      rfl
    have alone := own []
    rw [List.append_nil, Mirror.readings, List.append_nil] at alone
    rw [own, ← ih, partReadings, List.flatMap_cons, MirrorPart.written, alone]
    rfl
  | escaped plain _ ih => rw [partReadings_escaped, Mirror.readings, ih]
  | single alone divided ih =>
    rw [readings_single alone, partReadings_push fun backslash => ?_, ih]
    rw [alone backslash] at divided
    exact divided.eq_nil

theorem Divided.written (divided : Divided source parts) : parts.flatMap MirrorPart.written = source := by
  calc
    parts.flatMap MirrorPart.written = (partReadings parts).flatten := by
      rw [partReadings, List.flatten_eq_flatMap, List.flatMap_assoc]
      simp [flatten_readings]
    _ = source := by rw [divided.readings, flatten_readings]

def Refers (source : List Char) : Prop := ∃ d, '1' ≤ d ∧ d ≤ '9' ∧ ['\\', d] ∈ readings source

theorem refers_escaped : Refers ('\\' :: c :: rest) ↔ isReferenceStart c = true ∨ Refers rest := by
  simp only [Refers, readings_escaped, List.mem_cons, isReferenceStart, Bool.and_eq_true, decide_eq_true_eq]
  constructor
  · rintro ⟨d, least, most, own | later⟩
    · cases own
      exact .inl ⟨least, most⟩
    · exact .inr ⟨d, least, most, later⟩
  · rintro (⟨least, most⟩ | ⟨d, least, most, later⟩)
    · exact ⟨c, least, most, .inl rfl⟩
    · exact ⟨d, least, most, .inr later⟩

theorem refers_single (alone : c = '\\' → rest = []) : Refers (c :: rest) ↔ Refers rest := by
  simp [Refers, readings_single alone]

theorem Divided.any_isGroup (divided : Divided source parts) : parts.any isGroup = true ↔ Refers source := by
  induction divided with
  | nil => simp [Refers, Mirror.readings]
  | @reference number rest parts positive short _ _ _ =>
    obtain ⟨first, more, digits, start, -⟩ := toDigits_reference positive short
    rw [digits, List.cons_append, refers_escaped]
    simp [start, isGroup]
  | escaped plain _ ih => rw [any_push, any_push, ih, refers_escaped, plain]; simp
  | single alone _ ih => rw [any_push, ih, refers_single alone]

theorem Divided.bounds (divided : Divided source parts) (referred : .group number ∈ parts) :
    1 ≤ number ∧ number ≤ 99 := by
  induction divided with
  | nil => cases referred
  | reference positive short _ _ ih =>
    rcases List.mem_cons.mp referred with own | later
    · cases own
      exact ⟨positive, short⟩
    · exact ih later
  | escaped _ _ ih => exact ih (group_mem_push.mp (group_mem_push.mp referred))
  | single _ _ ih => exact ih (group_mem_push.mp referred)

/-- No piece of source is empty, and none stands next to another one. -/
structure Separated (parts : List MirrorPart) : Prop where
  occupied : .source [] ∉ parts
  apart : parts.IsChain fun part next => isGroup part = true ∨ isGroup next = true

theorem Separated.push (separated : Separated parts) (c : Char) : Separated (push c parts) := by
  cases parts with
  | nil => exact ⟨by simp [Mirror.push], .singleton _⟩
  | cons part others =>
    cases part with
    | source chars =>
      refine ⟨fun empty => ?_, ?_⟩
      · have later : .source [] ∈ others := by simpa [Mirror.push] using empty
        exact separated.occupied (List.mem_cons_of_mem _ later)
      · have behind := List.isChain_cons.mp separated.apart
        exact List.isChain_cons.mpr behind
    | group number =>
      refine ⟨fun empty => ?_, List.isChain_cons_cons.mpr ⟨.inr rfl, separated.apart⟩⟩
      exact separated.occupied (by simpa [Mirror.push] using empty)

theorem Divided.separated (divided : Divided source parts) : Separated parts := by
  induction divided with
  | nil => exact ⟨List.not_mem_nil, .nil⟩
  | reference _ _ _ _ ih => exact ⟨by simpa using ih.occupied, List.isChain_cons.mpr ⟨fun _ _ => .inl rfl, ih.apart⟩⟩
  | escaped _ _ ih => exact (ih.push _).push _
  | single _ _ ih => exact ih.push _

theorem fill_push (c : Char) (parts : List MirrorPart) (group : Nat → List Char) :
    fill ⟨push c parts⟩ group = c :: fill ⟨parts⟩ group := by
  cases parts with
  | nil => rfl
  | cons part others => cases part <;> rfl

theorem refers_append {chars : List Char} (plain : '\\' ∉ chars) (rest : List Char) :
    Refers (chars ++ rest) ↔ Refers rest := by
  simp [Refers, readings_append plain]

/-- Where every reference is filled with the same characters, none of which is a backslash, no reference is left. -/
theorem Divided.not_refers_fill (divided : Divided source parts) {wild : List Char} (plain : '\\' ∉ wild) :
    ¬Refers (fill ⟨parts⟩ fun _ => wild) := by
  induction divided with
  | nil => simp [Refers, fill, Mirror.readings]
  | reference _ _ _ _ ih => exact mt (refers_append plain _).mp ih
  | escaped other _ ih =>
    rw [fill_push, fill_push, refers_escaped, other]
    simpa using ih
  | @single c rest parts alone divided ih =>
    have last : c = '\\' → fill ⟨parts⟩ (fun _ => wild) = [] := by
      intro backslash
      rw [alone backslash] at divided
      rw [divided.eq_nil]
      rfl
    rw [fill_push, refers_single last]
    exact ih

theorem ofSource?_eq_none_iff {source : String} : ofSource? source = none ↔ ¬Refers source.toList := by
  rw [← (divide_divided source.toList).any_isGroup, ofSource?]
  simp

theorem ofSource?_parts {source : String} {m : Mirror} (read : ofSource? source = some m) :
    m.parts = divide source.toList := by
  simp only [ofSource?] at read
  split at read
  · cases read
    rfl
  · cases read

/-- A source has back-references just when reading it, every backslash together with the character behind it, meets a
backslash and a digit that is not zero. Its parts are read as it is, so they are the source again when they are
written, every reference as a backslash and a number. The numbers have two digits at most, no piece between them is
empty or next to another one, and what is widened has no back-references. -/
theorem ofSource?_lossless (source : String) :
    (ofSource? source = none ↔ ∀ d, '1' ≤ d → d ≤ '9' → ['\\', d] ∉ readings source.toList) ∧
    ∀ m ∈ ofSource? source,
      m.parts.flatMap (fun part => readings part.written) = readings source.toList ∧
      String.ofList (m.parts.flatMap MirrorPart.written) = source ∧
      (∀ number, .group number ∈ m.parts → 1 ≤ number ∧ number ≤ 99) ∧
      .source [] ∉ m.parts ∧
      m.parts.IsChain (fun part next => isGroup part = true ∨ isGroup next = true) ∧
      ofSource? m.widened = none := by
  refine ⟨?_, fun m read => ?_⟩
  · rw [ofSource?_eq_none_iff, Refers]
    simp only [not_exists, not_and]
  · have divided : Divided source.toList m.parts := ofSource?_parts read ▸ divide_divided source.toList
    have widened : ofSource? m.widened = none := by
      rw [ofSource?_eq_none_iff, Mirror.widened, String.toList_ofList]
      exact divided.not_refers_fill (by decide)
    exact ⟨divided.readings, by rw [divided.written, String.ofList_toList], fun _ => divided.bounds,
      divided.separated.occupied, divided.separated.apart, widened⟩

/-- Two backslashes in front of a digit are no reference, and a backslash at the end is none. A third digit does not
belong to the reference before it. -/
theorem ofSource?_lossless_mixed :
    ∃ m, ofSource? "\\\\1\\123\\4\\" = some m ∧
      m.parts = [.source ['\\', '\\', '1'], .group 12, .source ['3'], .group 4, .source ['\\']] ∧
      String.ofList (m.parts.flatMap MirrorPart.written) = "\\\\1\\123\\4\\" ∧
      ofSource? m.widened = none := by
  have read : (ofSource? "\\\\1\\123\\4\\").map parts =
      some [.source ['\\', '\\', '1'], .group 12, .source ['3'], .group 4, .source ['\\']] := by decide +kernel
  obtain ⟨m, read, parts⟩ := Option.map_eq_some_iff.mp read
  obtain ⟨-, written, -, -, -, widened⟩ := (ofSource?_lossless "\\\\1\\123\\4\\").2 m read
  exact ⟨m, read, parts, written, widened⟩

end Mirror

end Foldmark
