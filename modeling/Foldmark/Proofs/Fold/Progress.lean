import Foldmark.Proofs.Fold.Reach
import Foldmark.Proofs.Pattern.Extent

/-! Scanning a line moves on. Whatever is searched for or cut out lies between the place that the scan has
come to and the end of the line, and every step goes on to a later place, so that a line takes no more
steps than it has places. -/
namespace Foldmark

namespace ExpectedEnd

theorem matchAt_bounds {e : ExpectedEnd} {line : Line} {start stop : Nat} (inside : start ≤ line.size)
    (h : e.matchAt line start = some stop) : start ≤ stop ∧ stop ≤ line.size := by
  unfold matchAt at h
  split at h
  · split at h
    · rename_i found searched
      obtain ⟨above, valid⟩ := Pattern.Node.search_within searched
      split at h
      · cases h
        exact ⟨Nat.le_trans above valid.ordered, valid.bounded⟩
      · cases h
    · cases h
  · split at h
    · rename_i stands
      cases h
      have := (List.isPrefixOf_iff_prefix.mp stands).length_le
      simp only [List.length_drop, Array.length_toList] at this
      omega
    · cases h

end ExpectedEnd

namespace Fold

variable {g : Grammar} {line place further count : Nat} {text : Line} {s next last : State}

/-- The parts of a line that a step looks at, from the place on where it searches. -/
inductive Touches (g : Grammar) (text : Line) (s : State) (place : Nat) : Pattern.Span → Prop where
  | marker {found : MarkerMatch} : s.mode = .normal → g.master.findAt text place = some found →
      Touches g text s place ⟨found.start, found.stop⟩
  /-- A group of an opening marker, for the closing marker that repeats it. -/
  | group {found : MarkerMatch} {number : Nat} {span : Pattern.Span} : s.mode = .normal →
      g.master.findAt text place = some found → g.master.openingGroup? found number = some span →
      Touches g text s place span
  | unnested {rule : Nat} {r : CompiledRule} {found : UnnestedMatch} : s.mode = .unnested rule →
      g.rules[rule]? = some r → r.findUnnested text place = some found →
      Touches g text s place ⟨found.start, found.stop⟩
  /-- The closing marker that a block expects, where a marker has been found. -/
  | mirrored {b : Block} {span : Pattern.Span} {resume : Nat} : Touches g text s place span →
      State.accepts b text span.start = some (some resume) →
      Touches g text s place ⟨span.start, resume⟩

theorem findAt_within {m : Master} {found : MarkerMatch} (h : m.findAt text place = some found) :
    place ≤ found.start ∧ found.found.Within text.size m.pattern.node.groupCount :=
  Pattern.Node.search_within (Master.findAt_origin h).1

theorem findUnnested_bounds {r : CompiledRule} {found : UnnestedMatch}
    (h : r.findUnnested text place = some found) :
    place ≤ found.start ∧ found.start ≤ found.stop ∧ found.stop ≤ text.size := by
  have covered {p : Pattern} {whole : Pattern.Found} {name : String} {span : Pattern.Span}
      (searched : p.find? text place = some whole) (named : p.namedGroup? whole name = some span) :
      place ≤ span.start ∧ span.start ≤ span.stop ∧ span.stop ≤ text.size := by
    obtain ⟨above, valid⟩ := Pattern.Node.search_within searched
    simp only [Pattern.namedGroup?, Option.bind_eq_bind, Option.bind_eq_some_iff] at named
    obtain ⟨position, -, group⟩ := named
    obtain ⟨inside, ordered, below⟩ := valid.spans _ span group
    exact ⟨Nat.le_trans above inside, ordered, Nat.le_trans below valid.bounded⟩
  unfold CompiledRule.findUnnested at h
  split at h
  · obtain ⟨whole, searched, h⟩ := Option.bind_eq_some_iff.mp h
    split at h
    · rename_i middle
      cases h
      exact covered searched middle
    · obtain ⟨span, closing, h⟩ := Option.bind_eq_some_iff.mp h
      cases h
      exact covered searched closing
  · cases h

theorem accepts_bounds {b : Block} {resume : Nat} (inside : place ≤ text.size)
    (h : State.accepts b text place = some (some resume)) :
    place ≤ resume ∧ resume ≤ text.size := by
  unfold State.accepts at h
  split at h
  · cases h
  · obtain ⟨stop, matched, same⟩ := Option.map_eq_some_iff.mp h
    cases same
    exact ExpectedEnd.matchAt_bounds inside matched

/-- What a step looks at lies between the place that it searches from and the end of the line. -/
theorem Touches.bounds {span : Pattern.Span} (h : Touches g text s place span) :
    place ≤ span.start ∧ span.start ≤ span.stop ∧ span.stop ≤ text.size := by
  induction h with
  | marker mode atPlace =>
    obtain ⟨above, valid⟩ := findAt_within atPlace
    exact ⟨above, valid.ordered, valid.bounded⟩
  | @group found number span mode atPlace group =>
    obtain ⟨above, valid⟩ := findAt_within atPlace
    simp only [Master.openingGroup?, Option.bind_eq_bind, Option.bind_eq_some_iff] at group
    obtain ⟨base, -, group⟩ := group
    obtain ⟨inside, ordered, below⟩ := valid.spans _ span group
    exact ⟨Nat.le_trans above inside, ordered, Nat.le_trans below valid.bounded⟩
  | unnested mode known atPlace => exact findUnnested_bounds atPlace
  | mirrored touched accepted ih =>
    obtain ⟨above, ordered, below⟩ := ih
    obtain ⟨behind, inside⟩ := accepts_bounds (Nat.le_trans ordered below) accepted
    exact ⟨above, behind, inside⟩

theorem Move.resume_origin {found : MarkerMatch} {resume : Nat}
    (move : Move g line text s found next (some resume)) :
    ∃ b, State.accepts b text found.start = some (some resume) := by
  cases move with
  | close owner _ _ reason =>
    rcases reason with ⟨-, nothing⟩ | ⟨-, accepted⟩
    · cases nothing
    · exact ⟨owner, accepted⟩

theorem Inside.resume_origin {found : UnnestedMatch} {resume : Nat}
    (move : Inside g line text s found next (some resume)) :
    ∃ b, State.accepts b text found.start = some (some resume) := by
  cases move with
  | close top _ _ _ _ accepted => exact ⟨top, accepted⟩

theorem nextPlace_bounds {start stop : Nat} (ordered : start ≤ stop) :
    start < nextPlace start stop ∧ stop ≤ nextPlace start stop ∧ nextPlace start stop ≤ stop + 1 := by
  unfold nextPlace
  split <;> omega

theorem step_touches (h : step g line text s place = some (next, further)) :
    ∃ span resume, Touches g text s place span ∧
      (∀ stop, resume = some stop → Touches g text s place ⟨span.start, stop⟩) ∧
      further = Nat.max (nextPlace span.start span.stop) (resume.getD 0) := by
  rcases step_cases h with ⟨found, resume, mode, atPlace, move, rfl⟩ |
    ⟨rule, r, found, resume, mode, known, atPlace, move, rfl⟩
  · have touched := Touches.marker mode atPlace
    refine ⟨_, resume, touched, ?_, rfl⟩
    rintro stop rfl
    obtain ⟨b, accepted⟩ := move.resume_origin
    exact touched.mirrored accepted
  · have touched := Touches.unnested mode known atPlace
    refine ⟨_, resume, touched, ?_, rfl⟩
    rintro stop rfl
    obtain ⟨b, accepted⟩ := move.resume_origin
    exact touched.mirrored accepted

theorem step_forward (h : step g line text s place = some (next, further)) :
    place < further ∧ further ≤ text.size + 1 := by
  obtain ⟨span, resume, touched, resumes, rfl⟩ := step_touches h
  obtain ⟨above, ordered, below⟩ := touched.bounds
  obtain ⟨forward, -, near⟩ := nextPlace_bounds ordered
  cases resume with
  | none =>
    simp only [Option.getD_none, Nat.max_zero]
    omega
  | some stop =>
    obtain ⟨-, -, inside⟩ := (resumes stop rfl).bounds
    exact ⟨Nat.lt_of_lt_of_le (by omega) (Nat.le_max_left _ _),
      Nat.max_le.mpr ⟨by omega, Nat.le_succ_of_le inside⟩⟩

/-- A number of steps in a line, from a state and a place on to others. -/
inductive Scans (g : Grammar) (line : Nat) (text : Line) (s : State) (place : Nat) :
    Nat → State → Nat → Prop where
  | start : Scans g line text s place 0 s place
  | step {count between further : Nat} {middle last : State} :
      Scans g line text s place count middle between → between ≤ text.size →
      step g line text middle between = some (last, further) →
      Scans g line text s place (count + 1) last further

theorem Scans.bounds (scan : Scans g line text s place count last further)
    (inside : place ≤ text.size + 1) : place + count ≤ further ∧ further ≤ text.size + 1 := by
  induction scan with
  | start => exact ⟨Nat.le_refl _, inside⟩
  | step _ _ stepped ih =>
    obtain ⟨forward, below⟩ := step_forward stepped
    omega

theorem Scans.steps_eq (scan : Scans g line text s place count last further) (more : Nat) :
    steps g line text (count + more) s place = steps g line text more last further := by
  induction scan generalizing more with
  | start => rw [Nat.zero_add]
  | step _ within stepped ih =>
    rw [Nat.add_assoc, ih, Nat.add_comm 1 more]
    simp only [steps, if_pos within, stepped]

def Done (g : Grammar) (line : Nat) (text : Line) (s : State) (place : Nat) : Prop :=
  text.size < place ∨ step g line text s place = none

theorem steps_done (done : Done g line text s place) (count : Nat) :
    steps g line text count s place = s := by
  cases count with
  | zero => rfl
  | succ count =>
    rcases done with beyond | nothing
    · rw [steps, if_neg (Nat.not_le_of_lt beyond)]
    · simp only [steps, nothing, ite_self]

/-- Taking steps up to a number comes to an end only where nothing more is found, or when as many steps
have been taken. -/
theorem steps_scans (g : Grammar) (line : Nat) (text : Line) (s : State) (place fuel : Nat) :
    ∃ count last further, Scans g line text s place count last further ∧ count ≤ fuel ∧
      steps g line text fuel s place = last ∧ (count = fuel ∨ Done g line text last further) := by
  induction fuel with
  | zero => exact ⟨0, s, place, .start, Nat.le_refl _, rfl, .inl rfl⟩
  | succ fuel ih =>
    obtain ⟨count, last, further, scan, few, -, reason⟩ := ih
    have taken (more : Nat) (total : fuel + 1 = count + more) :
        steps g line text (fuel + 1) s place = steps g line text more last further := by
      rw [total, scan.steps_eq]
    by_cases done : Done g line text last further
    · refine ⟨count, last, further, scan, Nat.le_succ_of_le few, ?_, .inr done⟩
      rw [taken (fuel + 1 - count) (by omega), steps_done done]
    · obtain rfl := reason.resolve_right done
      obtain ⟨within, found⟩ := not_or.mp done
      obtain ⟨⟨next, place'⟩, stepped⟩ := Option.ne_none_iff_exists'.mp found
      have within := Nat.le_of_not_lt within
      refine ⟨count + 1, next, place', scan.step within stepped, Nat.le_refl _, ?_, .inl rfl⟩
      rw [taken 1 rfl, steps, if_pos within, stepped]
      rfl

end Fold

end Foldmark
