import Foldmark.Proofs.Fold.Progress
import Foldmark.Proofs.Text.Line

/-! The scan of a line in bytes. Searches begin at offsets and texts are cut at them, and an offset inside a
character, or beyond the end, is good for neither. The scan never comes to such an offset: it goes from
boundary to boundary, along the places that `step` goes along. -/
namespace Foldmark

/-- What can go wrong with an offset. -/
inductive Fault
  /-- A search from where no character begins or the line ends. -/
  | search (offset : Nat)
  /-- A text that would begin there. -/
  | slice (offset : Nat)
  /-- More markers than a line has room for. -/
  | endless (offset : Nat)
deriving DecidableEq, Repr

namespace Line

variable {line : Line} {place further : Nat}

def byteSize (line : Line) : Nat := byteCount line.toList

def from? (line : Line) (offset : Nat) : Option (List Char) := (line.place? offset).map line.toList.drop

def searchAt {α : Type} (line : Line) (offset : Nat) (search : Nat → Option α) :
    Except Fault (Option α) :=
  match line.place? offset with
  | none => .error (.search offset)
  | some place => .ok (search place)

/-- The offset of a place, where the place behind the end is one byte behind it. -/
def offset (line : Line) (place : Nat) : Nat :=
  if place ≤ line.size then line.byteOffset place else line.byteSize + 1

theorem offset_of_le (inside : place ≤ line.size) : line.offset place = line.byteOffset place := if_pos inside

theorem byteOffset_size (line : Line) : line.byteOffset line.size = line.byteSize := by
  rw [byteOffset, ← Array.length_toList, List.take_length, byteSize]

theorem byteOffset_mono (later : place ≤ further) : line.byteOffset place ≤ line.byteOffset further := by
  obtain ⟨more, rfl⟩ := Nat.exists_eq_add_of_le later
  rw [byteOffset, byteOffset, List.take_add, byteCount_append]
  exact Nat.le_add_right _ _

theorem byteOffset_le (inside : place ≤ line.size) : line.byteOffset place ≤ line.byteSize := by
  rw [← byteOffset_size]
  exact byteOffset_mono inside

theorem byteOffset_lt_iff (inside : further ≤ line.size) :
    line.byteOffset place < line.byteOffset further ↔ place < further :=
  ⟨fun less => Nat.lt_of_not_le fun later => Nat.not_le_of_lt less (byteOffset_mono later),
    fun later => byteOffset_lt later inside⟩

theorem byteOffset_inj (first : place ≤ line.size) (second : further ≤ line.size) :
    line.byteOffset place = line.byteOffset further ↔ place = further := by
  refine ⟨fun same => ?_, congrArg _⟩
  have before := mt (byteOffset_lt_iff second).mpr (Nat.not_lt_of_le (Nat.le_of_eq same.symm))
  have behind := mt (byteOffset_lt_iff first).mpr (Nat.not_lt_of_le (Nat.le_of_eq same))
  omega

theorem offset_le_iff : line.offset place ≤ line.byteSize ↔ place ≤ line.size := by
  unfold offset
  split
  · exact iff_of_true (byteOffset_le ‹_›) ‹_›
  · exact iff_of_false (Nat.not_succ_le_self _) ‹_›

theorem offset_lt (later : place < further) (inside : further ≤ line.size + 1) :
    line.offset place < line.offset further := by
  have front : place ≤ line.size := Nat.le_of_lt_succ (Nat.lt_of_lt_of_le later inside)
  by_cases last : further ≤ line.size
  · rw [offset_of_le front, offset_of_le last]
    exact byteOffset_lt later last
  · rw [offset_of_le front, offset, if_neg last]
    exact Nat.lt_succ_of_le (byteOffset_le front)

theorem offset_mono (later : place ≤ further) : line.offset place ≤ line.offset further := by
  unfold offset
  split <;> split
  · exact byteOffset_mono later
  · exact Nat.le_succ_of_le (byteOffset_le ‹_›)
  · omega
  · exact Nat.le_refl _

theorem offset_max (first second : Nat) :
    line.offset (Nat.max first second) = Nat.max (line.offset first) (line.offset second) := by
  rcases Nat.le_total first second with le | le
  · exact (congrArg _ (Nat.max_eq_right le)).trans (Nat.max_eq_right (offset_mono le)).symm
  · exact (congrArg _ (Nat.max_eq_left le)).trans (Nat.max_eq_left (offset_mono le)).symm

theorem searchAt_byteOffset {α : Type} (inside : place ≤ line.size) (search : Nat → Option α) :
    line.searchAt (line.byteOffset place) search = .ok (search place) := by
  rw [searchAt, place?_byteOffset inside]

theorem from?_byteOffset (inside : place ≤ line.size) :
    line.from? (line.byteOffset place) = some (line.toList.drop place) := by
  rw [from?, place?_byteOffset inside, Option.map_some]

theorem searchAt_fails_iff {α : Type} {line : Line} {offset : Nat} {search : Nat → Option α} :
    line.searchAt offset search = .error (.search offset) ↔ ¬line.IsBoundary offset := by
  rw [isBoundary_iff, searchAt]
  cases line.place? offset <;> simp

end Line

def ExpectedEnd.matchFrom (e : ExpectedEnd) (line : Line) (offset : Nat) : Except Fault (Option Nat) := do
  match e.node with
  | some node =>
    match ← line.searchAt offset (node.search line) with
    | some found =>
      return if line.byteOffset found.start = offset then some (line.byteOffset found.stop) else none
    | none => return none
  | none =>
    return (line.from? offset).bind fun rest =>
      if e.source.isPrefixOf rest then some (offset + Line.byteCount e.source) else none

theorem ExpectedEnd.matchFrom_byteOffset (e : ExpectedEnd) {line : Line} {start : Nat}
    (inside : start ≤ line.size) :
    e.matchFrom line (line.byteOffset start) = .ok ((e.matchAt line start).map line.byteOffset) := by
  unfold matchFrom matchAt
  cases e.node with
  | some node =>
    simp only [Line.searchAt_byteOffset inside]
    cases searched : node.search line start with
    | none => rfl
    | some found =>
      have valid := (Pattern.Node.search_within searched).2
      have same := Line.byteOffset_inj (Nat.le_trans valid.ordered valid.bounded) inside
      by_cases here : found.start = start
      · simp only [pure, Except.pure, bind, Except.bind, if_pos here, if_pos (same.mpr here), Option.map_some]
      · simp only [pure, Except.pure, bind, Except.bind, if_neg here, if_neg (mt same.mp here), Option.map_none]
  | none =>
    simp only [pure, Except.pure, Line.from?_byteOffset inside, Option.bind_some]
    split
    · rename_i stands
      rw [Option.map_some, Line.byteOffset_add (List.isPrefixOf_iff_prefix.mp stands)]
    · rfl

namespace Fold

variable {g : Grammar} {line place further offset count : Nat} {text : Line} {s next last : State}

/-- Where to go on after a match between two offsets: behind it, and at least one character on. -/
def nextOffset (text : Line) (start stop : Nat) : Except Fault Nat :=
  if start < stop then .ok stop
  else
    match text.from? stop with
    | none => .error (.slice stop)
    | some [] => .ok (text.byteSize + 1)
    | some (c :: _) => .ok (stop + c.utf8Size)

theorem nextOffset_byteOffset (start : Nat) {stop : Nat} (inside : stop ≤ text.size) :
    nextOffset text (text.byteOffset start) (text.byteOffset stop) =
      .ok (text.offset (nextPlace start stop)) := by
  unfold nextOffset nextPlace
  simp only [Line.byteOffset_lt_iff inside]
  split
  · rw [Line.offset_of_le inside]
  · rw [Line.from?_byteOffset inside]
    cases rest : text.toList.drop stop with
    | nil =>
      have atEnd : ¬stop + 1 ≤ text.size := by
        rw [List.drop_eq_nil_iff, Array.length_toList] at rest
        omega
      rw [Line.offset, if_neg atEnd]
    | cons c behind =>
      have more : stop + 1 ≤ text.size := by
        have := congrArg List.length rest
        simp only [List.length_drop, Array.length_toList, List.length_cons] at this
        omega
      have stands : [c] <+: text.toList.drop stop := rest ▸ ⟨behind, rfl⟩
      have passed := Line.byteOffset_add stands
      simp only [List.length_singleton, Line.byteCount, Nat.add_zero] at passed
      rw [Line.offset_of_le more, passed]

/-- Behind a character of three bytes nothing can be cut but there. -/
example : nextOffset (Line.ofString "€") 0 0 = .ok 3 ∧
    nextOffset (Line.ofString "€") 1 1 = .error (.slice 1) := ⟨rfl, rfl⟩

/-- Where a closing marker ends that stands at an offset, if it closes a block. -/
def State.acceptsFrom (b : Block) (text : Line) (offset : Nat) : Except Fault (Option (Option Nat)) := do
  match b.expected with
  | none => return some none
  | some expected => return (← expected.matchFrom text offset).map some

theorem State.acceptsFrom_byteOffset (b : Block) (inside : place ≤ text.size) :
    State.acceptsFrom b text (text.byteOffset place) =
      .ok ((State.accepts b text place).map (·.map text.byteOffset)) := by
  unfold acceptsFrom accepts
  cases b.expected with
  | none => rfl
  | some expected =>
    simp only [expected.matchFrom_byteOffset inside]
    cases expected.matchAt text place <;> rfl

def State.onMarkerFrom (s : State) (g : Grammar) (line : Nat) (text : Line) (found : MarkerMatch) :
    Except Fault (State × Option Nat) := do
  match found.role with
  | .closing =>
    match s.owner? found.rule with
    | none => return (s, none)
    | some b =>
      match ← acceptsFrom b text (text.byteOffset found.start) with
      | none => return (s, none)
      | some resume => return ((s.endSections g line).closeTop g line, resume)
  | _ => return ((s.onMarker g line text found).1, none)

theorem State.onMarkerFrom_eq (s : State) (g : Grammar) (line : Nat) {found : MarkerMatch}
    (inside : found.start ≤ text.size) :
    s.onMarkerFrom g line text found =
      .ok ((s.onMarker g line text found).map id (·.map text.byteOffset)) := by
  unfold onMarkerFrom onMarker
  cases found.role with
  | closing =>
    cases s.owner? found.rule with
    | none => rfl
    | some b =>
      simp only [acceptsFrom_byteOffset b inside]
      cases accepts b text found.start <;> rfl
  | middle | docstring => cases s.owner? found.rule <;> rfl
  | continuation =>
    cases s.stack with
    | nil => rfl
    | cons top below =>
      dsimp only
      split <;> rfl
  | opening | separator => rfl

def State.onUnnestedFrom (s : State) (g : Grammar) (line : Nat) (text : Line) (found : UnnestedMatch) :
    Except Fault (State × Option Nat) := do
  match found.role, s.stack with
  | .middle, _ => return ((s.onUnnested g line text found).1, none)
  | _, [] => return ((s.onUnnested g line text found).1, none)
  | _, top :: _ =>
    match ← acceptsFrom top text (text.byteOffset found.start) with
    | some resume => return ({ s.closeTop g line with mode := .normal }, resume)
    | none => return ({ s with mode := .unnested top.rule }, none)

theorem State.onUnnestedFrom_eq (s : State) (g : Grammar) (line : Nat) {found : UnnestedMatch}
    (inside : found.start ≤ text.size) :
    s.onUnnestedFrom g line text found =
      .ok ((s.onUnnested g line text found).map id (·.map text.byteOffset)) := by
  unfold onUnnestedFrom onUnnested
  cases s.stack with
  | nil => cases found.role <;> rfl
  | cons top below =>
    cases found.role with
    | middle => rfl
    | opening | closing | continuation | docstring | separator =>
      simp only [acceptsFrom_byteOffset top inside]
      cases accepts top text found.start <;> rfl

/-- The next marker from an offset on: the state after it, and the offset at which to go on. -/
def stepFrom (g : Grammar) (line : Nat) (text : Line) (s : State) (offset : Nat) :
    Except Fault (Option (State × Nat)) := do
  match s.mode with
  | .normal =>
    match ← text.searchAt offset (g.master.findAt text) with
    | none => return none
    | some found =>
      let further ← nextOffset text (text.byteOffset found.start) (text.byteOffset found.stop)
      let (s, resume) ← s.onMarkerFrom g line text found
      return some (s, Nat.max further (resume.getD 0))
  | .unnested rule =>
    match g.rules[rule]? with
    | none => return none
    | some r =>
      match ← text.searchAt offset (r.findUnnested text) with
      | none => return none
      | some found =>
        let further ← nextOffset text (text.byteOffset found.start) (text.byteOffset found.stop)
        let (s, resume) ← s.onUnnestedFrom g line text found
        return some (s, Nat.max further (resume.getD 0))

/-- The offset at which the scan goes on after a match, whether or not a closing marker ran past it. -/
theorem offset_further {start stop : Nat} {resume : Option Nat}
    (inside : ∀ r, resume = some r → r ≤ text.size) :
    text.offset (Nat.max (nextPlace start stop) (resume.getD 0)) =
      Nat.max (text.offset (nextPlace start stop)) ((resume.map text.byteOffset).getD 0) := by
  rw [Line.offset_max]
  cases resume with
  | none => rfl
  | some r => rw [Option.getD_some, Option.map_some, Option.getD_some, Line.offset_of_le (inside r rfl)]

theorem onMarker_resume_le {found : MarkerMatch} (inside : found.start ≤ text.size) (resume : Nat)
    (h : (s.onMarker g line text found).2 = some resume) : resume ≤ text.size := by
  have move := onMarker_move g line text s found
  rw [h] at move
  obtain ⟨b, accepted⟩ := move.resume_origin
  exact (accepts_bounds inside accepted).2

theorem onUnnested_resume_le {found : UnnestedMatch} (inside : found.start ≤ text.size) (resume : Nat)
    (h : (s.onUnnested g line text found).2 = some resume) : resume ≤ text.size := by
  have move := onUnnested_inside g line text s found
  rw [h] at move
  obtain ⟨b, accepted⟩ := move.resume_origin
  exact (accepts_bounds inside accepted).2

/-- At a character boundary, a step in bytes goes wrong nowhere and is the step from the place there. -/
theorem stepFrom_byteOffset (g : Grammar) (line : Nat) (s : State) (inside : place ≤ text.size) :
    stepFrom g line text s (text.byteOffset place) =
      .ok ((step g line text s place).map (·.map id text.offset)) := by
  unfold stepFrom step
  cases mode : s.mode with
  | normal =>
    simp only [Line.searchAt_byteOffset inside]
    cases atPlace : g.master.findAt text place with
    | none => rfl
    | some found =>
      have valid := (findAt_within atPlace).2
      have start : found.start ≤ text.size := Nat.le_trans valid.ordered valid.bounded
      have stop : found.stop ≤ text.size := valid.bounded
      simp only [bind, Except.bind, pure, Except.pure, nextOffset_byteOffset found.start stop,
        s.onMarkerFrom_eq g line start, Option.bind_some, Option.map_some, Prod.map, id,
        offset_further (onMarker_resume_le start)]
  | unnested rule =>
    cases known : g.rules[rule]? with
    | none =>
      simp only [known]
      rfl
    | some r =>
      simp only [known, Line.searchAt_byteOffset inside, bind, Except.bind, pure, Except.pure, Option.bind_some]
      cases atPlace : r.findUnnested text place with
      | none => rfl
      | some found =>
        obtain ⟨-, ordered, stop⟩ := findUnnested_bounds atPlace
        have start := Nat.le_trans ordered stop
        simp only [nextOffset_byteOffset found.start stop, s.onUnnestedFrom_eq g line start,
          Option.bind_some, Option.map_some, Prod.map, id, offset_further (onUnnested_resume_le start)]

/-- Takes up to `count` steps in a line. More of them must not be needed. -/
def stepsFrom (g : Grammar) (line : Nat) (text : Line) : Nat → State → Nat → Except Fault State
  | count, s, offset =>
    if offset ≤ text.byteSize then
      match count with
      | 0 => .error (.endless offset)
      | count + 1 => do
        match ← stepFrom g line text s offset with
        | some (s, offset) => stepsFrom g line text count s offset
        | none => return s
    else .ok s

def readLineFrom (g : Grammar) (line : Nat) (text : Line) (s : State) : Except Fault State := do
  return (← stepsFrom g line text (text.size + 1) s 0).endLine g line

def readLinesFrom (g : Grammar) : Nat → Document → State → Except Fault State
  | _, [], s => .ok s
  | line, text :: rest, s => do readLinesFrom g (line + 1) rest (← readLineFrom g line text s)

/-- The ranges of a document, unless the scan of a line goes wrong. -/
def runFrom (g : Grammar) (document : Document) : Except Fault (List Range) := do
  return (← readLinesFrom g 0 document .start).finish g document.length

/-- A number of steps in a line, from a state and an offset on to others. -/
inductive ScansFrom (g : Grammar) (line : Nat) (text : Line) (s : State) (offset : Nat) :
    Nat → State → Nat → Prop where
  | start : ScansFrom g line text s offset 0 s offset
  | step {count between further : Nat} {middle last : State} :
      ScansFrom g line text s offset count middle between → between ≤ text.byteSize →
      stepFrom g line text middle between = .ok (some (last, further)) →
      ScansFrom g line text s offset (count + 1) last further

/-- A scan in bytes comes to the offsets of the places that the scan in characters comes to. -/
theorem scansFrom_iff :
    ScansFrom g line text s (text.offset place) count last offset ↔
      ∃ further, Scans g line text s place count last further ∧ text.offset further = offset := by
  constructor
  · intro scan
    induction scan with
    | start => exact ⟨place, .start, rfl⟩
    | step _ within stepped ih =>
      obtain ⟨between, scan, rfl⟩ := ih
      have within := Line.offset_le_iff.mp within
      rw [Line.offset_of_le within, stepFrom_byteOffset g line _ within, Except.ok.injEq,
        Option.map_eq_some_iff] at stepped
      obtain ⟨⟨next, further⟩, stepped, same⟩ := stepped
      cases same
      exact ⟨further, scan.step within stepped, rfl⟩
  · rintro ⟨further, scan, rfl⟩
    induction scan with
    | start => exact .start
    | step scan within stepped ih =>
      refine ih.step (Line.offset_le_iff.mpr within) ?_
      rw [Line.offset_of_le within, stepFrom_byteOffset g line _ within, stepped]
      rfl

def DoneFrom (g : Grammar) (line : Nat) (text : Line) (s : State) (offset : Nat) : Prop :=
  text.byteSize < offset ∨ stepFrom g line text s offset = .ok none

theorem doneFrom_offset (done : Done g line text s place) : DoneFrom g line text s (text.offset place) := by
  by_cases within : place ≤ text.size
  · have nothing := done.resolve_left (Nat.not_lt_of_le within)
    right
    rw [Line.offset_of_le within, stepFrom_byteOffset g line s within, nothing]
    rfl
  · exact .inl (Nat.lt_of_not_le (mt Line.offset_le_iff.mp within))

/-- As many steps as there are places left are enough. -/
theorem stepsFrom_offset (enough : text.size + 1 ≤ place + count) :
    stepsFrom g line text count s (text.offset place) = .ok (steps g line text count s place) := by
  induction count generalizing s place with
  | zero =>
    have beyond : ¬text.offset place ≤ text.byteSize := mt Line.offset_le_iff.mp (by omega)
    rw [stepsFrom, if_neg beyond, steps]
  | succ count ih =>
    by_cases within : place ≤ text.size
    · rw [stepsFrom, if_pos (Line.offset_le_iff.mpr within), steps, if_pos within, Line.offset_of_le within,
        stepFrom_byteOffset g line s within]
      cases stepped : step g line text s place with
      | none => rfl
      | some found =>
        have later := (step_forward stepped).1
        exact ih (by omega)
    · rw [stepsFrom, if_neg (mt Line.offset_le_iff.mp within), steps, if_neg within]

theorem readLineFrom_eq (g : Grammar) (line : Nat) (text : Line) (s : State) :
    readLineFrom g line text s = .ok (readLine g line text s) := by
  have scanned : stepsFrom g line text (text.size + 1) s (text.offset 0) = _ :=
    stepsFrom_offset (Nat.le_add_left _ _)
  rw [Line.offset_of_le (Nat.zero_le _)] at scanned
  rw [readLineFrom, show (0 : Nat) = text.byteOffset 0 from rfl, scanned]
  rfl

theorem readLinesFrom_eq (g : Grammar) (document : Document) (line : Nat) (s : State) :
    readLinesFrom g line document s = .ok (readLines g line document s) := by
  induction document generalizing line s with
  | nil => rfl
  | cons text rest ih =>
    rw [readLinesFrom, readLineFrom_eq]
    exact ih (line + 1) (readLine g line text s)

theorem runFrom_eq (g : Grammar) (document : Document) : runFrom g document = .ok (run g document) := by
  rw [runFrom, readLinesFrom_eq]
  rfl

/-- What a scan does where it has come to an offset of a line. -/
structure GoesOn (g : Grammar) (line : Nat) (text : Line) (s : State) (offset : Nat) : Prop where
  /-- It searches from a character boundary. -/
  searches : text.IsBoundary offset
  /-- No other search and no slice goes wrong, and it goes on at a later offset. -/
  forward : ∃ found, stepFrom g line text s offset = .ok found ∧
    ∀ next further, found = some (next, further) → offset < further
  /-- What it finds and cuts out stands between that boundary and the end of the line. -/
  touches : ∀ place, text.place? offset = some place → ∀ span, Touches g text s place span →
    place ≤ span.start ∧ span.start ≤ span.stop ∧ span.stop ≤ text.size

theorem goesOn_byteOffset (g : Grammar) (line : Nat) (s : State) (inside : place ≤ text.size) :
    GoesOn g line text s (text.byteOffset place) where
  searches := .byteOffset text place
  forward := by
    refine ⟨_, stepFrom_byteOffset g line s inside, ?_⟩
    intro next further found
    obtain ⟨⟨_, ahead⟩, stepped, same⟩ := Option.map_eq_some_iff.mp found
    cases same
    obtain ⟨later, near⟩ := step_forward stepped
    rw [← Line.offset_of_le inside]
    exact Line.offset_lt later near
  touches := by
    intro other found span touched
    rw [Line.place?_byteOffset inside] at found
    cases found
    exact touched.bounds

/-- From every state, the scan of a line goes on to later and later offsets, all of them boundaries between
characters, and ends after at most one step more than the line has characters, because nothing more is
found. No search or slice goes wrong in any document. -/
theorem scan_goes_on (g : Grammar) :
    (∀ line text s,
      (∀ count last offset, ScansFrom g line text s 0 count last offset →
        count ≤ text.size + 1 ∧ offset ≤ text.byteSize + 1 ∧
          (offset ≤ text.byteSize → GoesOn g line text last offset)) ∧
      ∃ count last offset, ScansFrom g line text s 0 count last offset ∧
        DoneFrom g line text last offset ∧ readLineFrom g line text s = .ok (last.endLine g line)) ∧
    ∀ document, runFrom g document = .ok (run g document) := by
  refine ⟨fun line text s => ?_, runFrom_eq g⟩
  have first : text.offset 0 = 0 := Line.offset_of_le (Nat.zero_le _)
  constructor
  · intro count last offset inBytes
    rw [← first] at inBytes
    obtain ⟨place, scan, rfl⟩ := scansFrom_iff.mp inBytes
    have bounds := scan.bounds (Nat.zero_le _)
    refine ⟨by omega, ?_, fun within => ?_⟩
    · by_cases within : place ≤ text.size
      · exact Nat.le_succ_of_le (Line.offset_le_iff.mpr within)
      · exact Nat.le_of_eq (if_neg within)
    · have within := Line.offset_le_iff.mp within
      rw [Line.offset_of_le within]
      exact goesOn_byteOffset g line last within
  · obtain ⟨count, last, place, scan, -, taken, reason⟩ := steps_scans g line text s 0 (text.size + 1)
    have done : Done g line text last place := by
      rcases reason with all | done
      · -- As many steps as there are places lead behind the line.
        have bounds := scan.bounds (Nat.zero_le _)
        exact .inl (by omega)
      · exact done
    have inBytes : ScansFrom g line text s (text.offset 0) count last (text.offset place) :=
      scansFrom_iff.mpr ⟨place, scan, rfl⟩
    rw [first] at inBytes
    exact ⟨count, last, _, inBytes, doneFrom_offset done, by rw [readLineFrom_eq, readLine, taken]⟩

set_option maxRecDepth 100000 in
/-- A separator that covers no character is found again and again, and the scan still ends. -/
example : (RuleSet.compile [{ separator := { regex := some "(?-u:\\b)" } }]).fold
    (.ofLines ["ab cd", "", "e"]) = [⟨0, 1, .region⟩] := by decide +kernel

end Fold

end Foldmark
