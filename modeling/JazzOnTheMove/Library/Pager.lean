import JazzOnTheMove.Library.Runs
import Mathlib.Algebra.Order.Group.Defs

/-!
# Endless pagers

Three places side by side show the previous, the current and the next page. A scroll that
ends beyond where it started turns to the next page, one that ends before it to the
previous page, and the view jumps back to the place in the middle. Whether the page in
sight stays the same then depends on where the scroll started.
-/

namespace Pager

/-- The three places. -/
inductive Place where
  | first
  | center
  | last
  deriving DecidableEq, Repr

/-- How many pages a place is after the current one. -/
def Place.turn : Place → ℤ
  | .first => -1
  | .center => 0
  | .last => 1

/-- A place is at most one page away. -/
theorem Place.turn_bounds (place : Place) : -1 ≤ place.turn ∧ place.turn ≤ 1 := by
  cases place <;> simp [turn]

/-- What moves a pager. -/
inductive Move (α : Type*) where
  | start
  | scrolled (x : α)
  | stop
  | layout (width : α)
  deriving DecidableEq

/-- A pager. -/
structure State (α : Type*) where
  width : α
  offset : α
  /-- Where the last scroll started. -/
  startedAt : α
  /-- How many pages were turned forward, less those turned back. -/
  page : ℤ
  deriving DecidableEq

section

variable {α : Type*} [LinearOrder α]

/-- The page that a scroll which stops now turns to, seen from the current one. -/
def State.direction (s : State α) : ℤ :=
  if s.startedAt < s.offset then 1 else if s.offset < s.startedAt then -1 else 0

/-- A scroll turns at most one page. -/
theorem State.direction_bounds (s : State α) : -1 ≤ s.direction ∧ s.direction ≤ 1 := by
  unfold direction
  split_ifs <;> simp

/-- A scroll beyond its start turns to the next page. -/
theorem State.direction_eq_one {s : State α} : s.direction = 1 ↔ s.startedAt < s.offset := by
  unfold direction
  split_ifs <;> simp_all

/-- A scroll before its start turns to the previous page. -/
theorem State.direction_eq_neg_one {s : State α} :
    s.direction = -1 ↔ s.offset < s.startedAt := by
  unfold direction
  split_ifs with hbeyond
  · simpa using hbeyond.le
  · simp_all
  · simp_all

/-- A scroll that stops where it started turns to no page. -/
theorem State.direction_eq_zero {s : State α} : s.direction = 0 ↔ s.offset = s.startedAt := by
  unfold direction
  split_ifs with hbeyond hbefore
  · simpa using hbeyond.ne'
  · simpa using hbefore.ne
  · simpa using le_antisymm (not_lt.mp hbeyond) (not_lt.mp hbefore)

end

variable {α : Type*} [AddCommGroup α] [LinearOrder α]

/-- Where the middle place is shown. Before the first layout everything is at zero. -/
def centerOf (width : α) : α := max 0 width

/-- One move. -/
def step (s : State α) : Move α → State α
  | .start => { s with startedAt := s.offset }
  | .scrolled x => { s with offset := x }
  | .stop => {
      s with
      offset := if s.direction = 0 then s.offset else centerOf s.width
      startedAt := s.offset
      page := s.page + s.direction }
  | .layout width => {
      s with
      width := width
      offset := centerOf width
      startedAt := centerOf width }

/-- A pager before its first layout, at a page. -/
def created (page : ℤ) : State α := ⟨0, 0, 0, page⟩

/-- Where a place begins. -/
def Place.position (width : α) : Place → α
  | .first => 0
  | .center => width
  | .last => width + width

/-- A stop at a place keeps its page in sight if it turns to just that page, or to none. -/
def State.KeepsSight (s : State α) : Prop :=
  0 < s.width ∧ ∃ place : Place, s.offset = place.position s.width ∧
    (s.direction = 0 ∨ s.direction = place.turn)

/-- A stop keeps its page in sight if it is in the middle and the scroll started there, or
at another place and the scroll did not start beyond that. -/
theorem State.keepsSight_iff {s : State α} (hwidth : 0 < s.width) :
    s.KeepsSight ↔ s.offset = 0 ∧ 0 ≤ s.startedAt ∨
      s.offset = s.width ∧ s.startedAt = s.width ∨
      s.offset = s.width + s.width ∧ s.startedAt ≤ s.width + s.width := by
  have hplaces : s.KeepsSight ↔
      (s.offset = 0 ∧ (s.direction = 0 ∨ s.direction = -1)) ∨
        (s.offset = s.width ∧ s.direction = 0) ∨
        (s.offset = s.width + s.width ∧ (s.direction = 0 ∨ s.direction = 1)) := by
    constructor
    · rintro ⟨-, place, hplace, hdirection⟩
      cases place with
      | first => exact Or.inl ⟨hplace, hdirection⟩
      | center => exact Or.inr (Or.inl ⟨hplace, or_self_iff.mp hdirection⟩)
      | last => exact Or.inr (Or.inr ⟨hplace, hdirection⟩)
    · rintro (⟨hplace, hdirection⟩ | ⟨hplace, hdirection⟩ | ⟨hplace, hdirection⟩)
      · exact ⟨hwidth, .first, hplace, hdirection⟩
      · exact ⟨hwidth, .center, hplace, Or.inl hdirection⟩
      · exact ⟨hwidth, .last, hplace, hdirection⟩
  rw [hplaces, State.direction_eq_zero, State.direction_eq_one, State.direction_eq_neg_one]
  refine or_congr ?_ (or_congr ?_ ?_)
  · refine and_congr_right fun hplace => ?_
    rw [hplace, or_comm, ← le_iff_lt_or_eq]
  · refine and_congr_right fun hplace => ?_
    rw [hplace, eq_comm]
  · refine and_congr_right fun hplace => ?_
    rw [hplace, or_comm, eq_comm, ← le_iff_lt_or_eq]

/-- Every stop of a run keeps the page in sight. -/
def Steady (s : State α) (moves : List (Move α)) : Prop :=
  Runs.Guarded step (fun s move => move = .stop → s.KeepsSight) s moves

/-- The middle place has been laid out and is in sight. -/
structure State.Resting (s : State α) : Prop where
  width_pos : 0 < s.width
  offset_eq : s.offset = s.width

/-- Where the middle place is once there is some width. -/
theorem centerOf_of_pos {width : α} (hwidth : 0 < width) : centerOf width = width :=
  max_eq_right hwidth.le

/-- The first layout brings the middle place in sight. -/
theorem layout_resting (s : State α) {width : α} (hwidth : 0 < width) :
    (step s (.layout width)).Resting :=
  ⟨hwidth, centerOf_of_pos hwidth⟩

/-! ## Whole scrolls -/

/-- A scroll from its start to the place where it stops, or a layout. -/
inductive Gesture (α : Type*) where
  | scroll (path : List α) (place : Place)
  | layout (width : α)

/-- Only layouts change the width. -/
def Gesture.widthAfter (width : α) : Gesture α → α
  | .scroll _ _ => width
  | .layout width => width

/-- The page a gesture turns to, seen from the current one. -/
def Gesture.turn : Gesture α → ℤ
  | .scroll _ place => place.turn
  | .layout _ => 0

/-- The moves of a gesture at a width. -/
def Gesture.moves (width : α) : Gesture α → List (Move α)
  | .scroll path place =>
      .start :: path.map .scrolled ++ [.scrolled (place.position width), .stop]
  | .layout width => [.layout width]

/-- The moves of gestures one after the other. -/
def movesOf (width : α) : List (Gesture α) → List (Move α)
  | [] => []
  | gesture :: rest => gesture.moves width ++ movesOf (gesture.widthAfter width) rest

/-- The pages that gestures turn altogether. -/
def turnsOf : List (Gesture α) → ℤ
  | [] => 0
  | gesture :: rest => gesture.turn + turnsOf rest

/-- Layouts leave some width. -/
def Gesture.Proper : Gesture α → Prop
  | .scroll _ _ => True
  | .layout width => 0 < width

/-- While the view moves, only its offset changes. -/
theorem foldl_scrolled (s : State α) (path : List α) :
    (path.map Move.scrolled).foldl step s = { s with offset := path.getLastD s.offset } := by
  induction path generalizing s with
  | nil => rfl
  | cons x path ih =>
    rw [List.map_cons, List.foldl_cons, ih]
    cases path <;> rfl

/-- Nothing stops while the view moves. -/
theorem steady_scrolled (s : State α) (path : List α) : Steady s (path.map .scrolled) := by
  induction path generalizing s with
  | nil => exact Runs.guarded_nil
  | cons x path ih => exact Runs.guarded_cons.mpr ⟨by simp, ih _⟩

section

variable [IsOrderedAddMonoid α]

/-- From the middle, the direction of a place is its turn. -/
theorem direction_of_center {s : State α} {place : Place} (hwidth : 0 < s.width)
    (hstart : s.startedAt = s.width) (hplace : s.offset = place.position s.width) :
    s.direction = place.turn := by
  cases place with
  | first =>
    apply State.direction_eq_neg_one.mpr
    rwa [hplace, hstart]
  | center =>
    apply State.direction_eq_zero.mpr
    rw [hplace, hstart]
    rfl
  | last =>
    apply State.direction_eq_one.mpr
    rw [hplace, hstart]
    exact lt_add_of_pos_left s.width hwidth

/-- **Gesture.** A gesture from rest ends at rest. It turns to the page of its place, and
keeps it in sight. -/
theorem gesture_from_rest {s : State α} (hs : s.Resting) {gesture : Gesture α}
    (hproper : gesture.Proper) :
    ((gesture.moves s.width).foldl step s).Resting ∧
      ((gesture.moves s.width).foldl step s).width = gesture.widthAfter s.width ∧
      ((gesture.moves s.width).foldl step s).page = s.page + gesture.turn ∧
      Steady s (gesture.moves s.width) := by
  cases gesture with
  | layout width =>
    refine ⟨layout_resting s hproper, rfl, (Int.add_zero _).symm, ?_⟩
    exact Runs.guarded_cons.mpr ⟨by simp, Runs.guarded_nil⟩
  | scroll path place =>
    let started : State α := { s with startedAt := s.offset }
    let before : State α := { started with offset := place.position s.width }
    have hpath : (path.map Move.scrolled ++ [Move.scrolled (place.position s.width)]).foldl step
        started = before := by
      rw [List.foldl_append, foldl_scrolled]
      rfl
    have hdirection : before.direction = place.turn :=
      direction_of_center hs.width_pos hs.offset_eq rfl
    have hmoves : (Gesture.scroll path place).moves s.width =
        .start :: ((path.map Move.scrolled ++ [Move.scrolled (place.position s.width)]) ++
          [.stop]) := by
      simp [Gesture.moves]
    have hrun : ((Gesture.scroll path place).moves s.width).foldl step s = step before .stop := by
      rw [hmoves, List.foldl_cons, List.foldl_append]
      exact congrArg (step · .stop) hpath
    rw [hrun]
    refine ⟨⟨hs.width_pos, ?_⟩, rfl, congrArg (s.page + ·) hdirection, ?_⟩
    · change (if before.direction = 0 then place.position s.width else centerOf s.width) = s.width
      rw [hdirection, centerOf_of_pos hs.width_pos]
      cases place <;> rfl
    · rw [hmoves]
      refine Runs.guarded_cons.mpr ⟨by simp, Runs.guarded_concat.mpr ⟨?_, fun _ => ?_⟩⟩
      · have hscrolled := steady_scrolled started (path ++ [place.position s.width])
        rwa [List.map_append] at hscrolled
      · change ((path.map Move.scrolled ++ [Move.scrolled (place.position s.width)]).foldl step
          started).KeepsSight
        rw [hpath]
        exact ⟨hs.width_pos, place, rfl, Or.inr hdirection⟩

/-- **Gestures.** Gestures from rest end at rest. The pages that they turn add up, and every
stop keeps the page in sight. -/
theorem gestures_from_rest {gestures : List (Gesture α)} {s : State α} (hs : s.Resting)
    (hproper : ∀ gesture ∈ gestures, gesture.Proper) :
    ((movesOf s.width gestures).foldl step s).Resting ∧
      ((movesOf s.width gestures).foldl step s).page = s.page + turnsOf gestures ∧
      Steady s (movesOf s.width gestures) := by
  induction gestures generalizing s with
  | nil => exact ⟨hs, (Int.add_zero _).symm, Runs.guarded_nil⟩
  | cons gesture gestures ih =>
    obtain ⟨hrest, hwidth, hpage, hsteady⟩ :=
      gesture_from_rest hs (hproper gesture List.mem_cons_self)
    obtain ⟨hrest', hpage', hsteady'⟩ :=
      ih hrest fun gesture hmem => hproper gesture (List.mem_cons_of_mem _ hmem)
    rw [hwidth] at hrest' hpage' hsteady'
    rw [movesOf, List.foldl_append, turnsOf]
    refine ⟨hrest', ?_, Runs.guarded_append.mpr ⟨hsteady, hsteady'⟩⟩
    rw [hpage', hpage, Int.add_assoc]

end

end Pager
