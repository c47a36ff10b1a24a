import JazzOnTheMove.Library.Animations
import JazzOnTheMove.Library.Runs
import Mathlib.Algebra.Order.Field.Rat

/-!
# The floating menu of the home fragment

The button turns and the two entries move up when the menu opens, and all go back when
it closes. Closing animates to fixed values, opening by a difference to the values that
it finds, which are those of a closed menu only if its last animations are over. Lengths
and angles are exact rationals.
-/

namespace JazzOnTheMove.Android

open Animations (Property)

/-- The dimensions that the menu uses, in pixels. -/
structure Dimens where
  standard55 : ℚ
  standard100 : ℚ
  deriving DecidableEq, Repr

/-- The part of `HomeFragment` that shows the floating menu. -/
structure FloatingMenu where
  isFABOpen : Bool
  /-- The rotation of the button. -/
  fab : Property ℚ
  /-- The `translationY` of the entries. -/
  fabLayout2 : Property ℚ
  fabLayout3 : Property ℚ
  /-- Whether the views are `VISIBLE`, and not `GONE`. -/
  fabLayout2Visible : Bool
  fabLayout3Visible : Bool
  fabBGLayoutVisible : Bool
  /-- Whether the animator of `fabLayout3` has its listener. -/
  listener : Bool
  deriving DecidableEq

namespace FloatingMenu

/-- The menu as `onCreateView` leaves it. -/
def created : FloatingMenu where
  isFABOpen := false
  fab := Property.still 0
  fabLayout2 := Property.still 0
  fabLayout3 := Property.still 0
  fabLayout2Visible := false
  fabLayout3Visible := false
  fabBGLayoutVisible := false
  listener := false

/-- `onAnimationEnd(animator)` of the listener. -/
def onAnimationEnd (m : FloatingMenu) : FloatingMenu :=
  if !m.isFABOpen then { m with fabLayout2Visible := false, fabLayout3Visible := false } else m

/-- An animation of `fabLayout3` that is under way ends, which its listener is told. -/
def endFabLayout3 (m : FloatingMenu) : FloatingMenu :=
  if m.fabLayout3.animation.isSome && m.listener then m.onAnimationEnd else m

/-- `fabLayout3.animate().translationY(translationY)` cancels the animation under way. -/
def animateFabLayout3 (m : FloatingMenu) (translationY : ℚ) : FloatingMenu :=
  { m.endFabLayout3 with fabLayout3 := m.fabLayout3.animateTo translationY }

/-- `showFABMenu()`. -/
def showFABMenu (dimens : Dimens) (m : FloatingMenu) : FloatingMenu :=
  let m := {
    m with
    isFABOpen := true
    fabLayout2Visible := true
    fabLayout3Visible := true
    fabBGLayoutVisible := true
    fab := m.fab.animateBy 180 }
  let baseTranslation := m.fabLayout2.value
  let m := {
    m with fabLayout2 := m.fabLayout2.animateTo (-dimens.standard55 + baseTranslation) }
  m.animateFabLayout3 (-dimens.standard100 + baseTranslation)

/-- `closeFABMenu()`, which animates `fabLayout3` twice. -/
def closeFABMenu (m : FloatingMenu) : FloatingMenu :=
  let m := {
    m with
    isFABOpen := false
    fabBGLayoutVisible := false
    fab := m.fab.animateTo 0
    fabLayout2 := m.fabLayout2.animateTo 0 }
  { (m.animateFabLayout3 0).animateFabLayout3 0 with listener := true }

/-- The views that are animated. -/
inductive AnimatedView where
  | fab
  | fabLayout2
  | fabLayout3
  deriving DecidableEq, Repr

/-- What happens to the menu. -/
inductive Event where
  /-- A tap on the main button. -/
  | tapFab
  /-- A tap on the backdrop. -/
  | tapBackdrop
  /-- The animation of a view has done a fraction of its way. -/
  | frame (view : AnimatedView) (fraction : ℚ)
  /-- The animation of a view ends. -/
  | animationEnd (view : AnimatedView)
  deriving DecidableEq, Repr

/-- One event. The backdrop can only be tapped while it is visible. -/
def step (dimens : Dimens) (m : FloatingMenu) : Event → FloatingMenu
  | .tapFab => if !m.isFABOpen then m.showFABMenu dimens else m.closeFABMenu
  | .tapBackdrop => if m.fabBGLayoutVisible then m.closeFABMenu else m
  | .frame .fab fraction => { m with fab := m.fab.frame fraction }
  | .frame .fabLayout2 fraction => { m with fabLayout2 := m.fabLayout2.frame fraction }
  | .frame .fabLayout3 fraction => { m with fabLayout3 := m.fabLayout3.frame fraction }
  | .animationEnd .fab => { m with fab := m.fab.finish }
  | .animationEnd .fabLayout2 => { m with fabLayout2 := m.fabLayout2.finish }
  | .animationEnd .fabLayout3 => { m.endFabLayout3 with fabLayout3 := m.fabLayout3.finish }

/-- A finite run. -/
def run (dimens : Dimens) (m : FloatingMenu) (events : List Event) : FloatingMenu :=
  events.foldl (step dimens) m

/-- One more event in a run. -/
theorem run_concat (dimens : Dimens) (m : FloatingMenu) (events : List Event) (e : Event) :
    m.run dimens (events ++ [e]) = (m.run dimens events).step dimens e := by
  simp [run]

/-- No animation is running. -/
def Idle (m : FloatingMenu) : Prop :=
  m.fab.animation = none ∧ m.fabLayout2.animation = none ∧ m.fabLayout3.animation = none

/-- The layout of an open or a closed menu. -/
structure RestLayout (dimens : Dimens) (m : FloatingMenu) : Prop where
  fabLayout2Visible : m.fabLayout2Visible = m.isFABOpen
  fabLayout3Visible : m.fabLayout3Visible = m.isFABOpen
  fabBGLayoutVisible : m.fabBGLayoutVisible = m.isFABOpen
  fab : m.fab.value = if m.isFABOpen then 180 else 0
  fabLayout2 : m.fabLayout2.value = if m.isFABOpen then -dimens.standard55 else 0
  fabLayout3 : m.fabLayout3.value = if m.isFABOpen then -dimens.standard100 else 0

variable {dimens : Dimens} {m : FloatingMenu} {e : Event} {events : List Event}

/-! ## What the methods change -/

/-- The end of an animation at most hides the entries. -/
theorem endFabLayout3_eq (m : FloatingMenu) :
    m.endFabLayout3 = {
      m with
      fabLayout2Visible := m.endFabLayout3.fabLayout2Visible
      fabLayout3Visible := m.endFabLayout3.fabLayout3Visible } := by
  unfold endFabLayout3 onAnimationEnd
  split_ifs <;> rfl

/-- It hides nothing if no animation is under way. -/
theorem endFabLayout3_of_rest (hrest : m.fabLayout3.animation = none) : m.endFabLayout3 = m := by
  simp [endFabLayout3, hrest]

/-- It hides nothing of an open menu. -/
theorem endFabLayout3_of_open (hopen : m.isFABOpen = true) : m.endFabLayout3 = m := by
  simp [endFabLayout3, onAnimationEnd, hopen]

/-- It hides the entries of a closed menu if the listener is there. -/
theorem endFabLayout3_of_closed (hclosed : m.isFABOpen = false)
    (hrunning : m.fabLayout3.animation ≠ none) (hlistener : m.listener = true) :
    m.endFabLayout3 = { m with fabLayout2Visible := false, fabLayout3Visible := false } := by
  simp [endFabLayout3, onAnimationEnd, hclosed, hlistener, Option.isSome_iff_ne_none, hrunning]

/-- Opening shows all views and animates by what they are away from their places. -/
theorem showFABMenu_eq (dimens : Dimens) (m : FloatingMenu) :
    m.showFABMenu dimens = {
      isFABOpen := true
      fab := m.fab.animateBy 180
      fabLayout2 := m.fabLayout2.animateTo (-dimens.standard55 + m.fabLayout2.value)
      fabLayout3 := m.fabLayout3.animateTo (-dimens.standard100 + m.fabLayout2.value)
      fabLayout2Visible := true
      fabLayout3Visible := true
      fabBGLayoutVisible := true
      listener := m.listener } := by
  simp only [showFABMenu, animateFabLayout3]
  rw [endFabLayout3_of_open rfl]

/-- Closing hides the backdrop, animates to zero, and leaves a listener behind. -/
theorem closeFABMenu_eq (m : FloatingMenu) :
    m.closeFABMenu = {
      m.closeFABMenu with
      isFABOpen := false
      fab := m.fab.animateTo 0
      fabLayout2 := m.fabLayout2.animateTo 0
      fabLayout3 := m.fabLayout3.animateTo 0
      fabBGLayoutVisible := false
      listener := true } := by
  simp only [closeFABMenu, animateFabLayout3, endFabLayout3, onAnimationEnd]
  split_ifs <;> rfl

/-! ## What is visible -/

/-- An open menu shows all views. A closed one has hidden the backdrop, and the entries too
unless the animation whose end hides them is under way. -/
structure Sound (m : FloatingMenu) : Prop where
  backdrop : m.fabBGLayoutVisible = m.isFABOpen
  entries : m.isFABOpen = true → m.fabLayout2Visible = true ∧ m.fabLayout3Visible = true
  hidden : m.isFABOpen = false → m.fabLayout3.animation = none →
    m.fabLayout2Visible = false ∧ m.fabLayout3Visible = false
  listener : m.isFABOpen = false → m.fabLayout3.animation ≠ none → m.listener = true

/-- The menu is closed in the beginning. -/
theorem sound_created : created.Sound where
  backdrop := rfl
  entries hopen := absurd hopen Bool.false_ne_true
  hidden _ _ := ⟨rfl, rfl⟩
  listener _ hrunning := absurd rfl hrunning

/-- An opened menu is sound, whatever it was before. -/
theorem sound_showFABMenu (dimens : Dimens) (m : FloatingMenu) : (m.showFABMenu dimens).Sound := by
  rw [showFABMenu_eq]
  exact ⟨rfl, fun _ => ⟨rfl, rfl⟩, fun hclosed => absurd hclosed.symm Bool.false_ne_true,
    fun hclosed => absurd hclosed.symm Bool.false_ne_true⟩

/-- So is a closed one. -/
theorem sound_closeFABMenu (m : FloatingMenu) : m.closeFABMenu.Sound := by
  rw [closeFABMenu_eq]
  refine ⟨rfl, fun hopen => absurd hopen Bool.false_ne_true, fun _ hrest => ?_, fun _ _ => rfl⟩
  cases hrest

/-- The end of the animation hides the entries of a closed menu. -/
theorem Sound.animationEnd (h : m.Sound) :
    (m.step dimens (.animationEnd .fabLayout3)).Sound := by
  change { m.endFabLayout3 with fabLayout3 := m.fabLayout3.finish }.Sound
  cases hopen : m.isFABOpen with
  | true =>
    rw [endFabLayout3_of_open hopen]
    refine ⟨h.backdrop, h.entries, fun hclosed => ?_, fun hclosed => ?_⟩
    · exact absurd (hopen.symm.trans hclosed).symm Bool.false_ne_true
    · exact absurd (hopen.symm.trans hclosed).symm Bool.false_ne_true
  | false =>
    by_cases hrest : m.fabLayout3.animation = none
    · rw [endFabLayout3_of_rest hrest]
      refine ⟨h.backdrop, h.entries, fun _ _ => h.hidden hopen hrest, fun _ hrunning => ?_⟩
      exact absurd (Property.animation_finish _) hrunning
    · rw [endFabLayout3_of_closed hopen hrest (h.listener hopen hrest)]
      refine ⟨h.backdrop, fun hopened => ?_, fun _ _ => ⟨rfl, rfl⟩, fun _ hrunning => ?_⟩
      · exact absurd (hopen.symm.trans hopened) Bool.false_ne_true
      · exact absurd (Property.animation_finish _) hrunning

/-- **Step.** Every event leaves a sound menu. -/
theorem Sound.step (h : m.Sound) (e : Event) : (m.step dimens e).Sound := by
  cases e with
  | tapFab =>
    simp only [FloatingMenu.step]
    split_ifs
    · exact sound_showFABMenu dimens m
    · exact sound_closeFABMenu m
  | tapBackdrop =>
    simp only [FloatingMenu.step]
    split_ifs
    · exact sound_closeFABMenu m
    · exact h
  | frame view fraction =>
    cases view with
    | fab | fabLayout2 => exact ⟨h.backdrop, h.entries, h.hidden, h.listener⟩
    | fabLayout3 =>
      have hsame := Property.animation_frame m.fabLayout3 fraction
      refine ⟨h.backdrop, h.entries, fun hclosed hrest => ?_, fun hclosed hrunning => ?_⟩
      · exact h.hidden hclosed (hsame.symm.trans hrest)
      · exact h.listener hclosed fun hrest => hrunning (hsame.trans hrest)
  | animationEnd view =>
    cases view with
    | fab | fabLayout2 => exact ⟨h.backdrop, h.entries, h.hidden, h.listener⟩
    | fabLayout3 => exact h.animationEnd

/-- **Run.** So does every run. -/
theorem sound_run (dimens : Dimens) (events : List Event) : (created.run dimens events).Sound := by
  induction events using List.reverseRecOn with
  | nil => exact sound_created
  | append_singleton events e ih =>
    rw [run_concat]
    exact ih.step e

/-! ## Where the views come to rest -/

/-- The views come to rest in the places of an open or a closed menu. -/
@[mk_iff heads_iff]
structure Heads (dimens : Dimens) (m : FloatingMenu) : Prop where
  fab : m.fab.destination = if m.isFABOpen then 180 else 0
  fabLayout2 : m.fabLayout2.destination = if m.isFABOpen then -dimens.standard55 else 0
  fabLayout3 : m.fabLayout3.destination = if m.isFABOpen then -dimens.standard100 else 0

/-- Once no animation runs, a sound menu has the layout that its views headed for. -/
theorem Sound.restLayout_iff_heads (h : m.Sound) (hidle : m.Idle) :
    m.RestLayout dimens ↔ m.Heads dimens := by
  obtain ⟨hfab, hlayout2, hlayout3⟩ := hidle
  constructor
  · intro hlayout
    refine ⟨?_, ?_, ?_⟩
    · rw [← Property.value_of_animation_eq_none hfab, hlayout.fab]
    · rw [← Property.value_of_animation_eq_none hlayout2, hlayout.fabLayout2]
    · rw [← Property.value_of_animation_eq_none hlayout3, hlayout.fabLayout3]
  · intro hheads
    have hentries : m.fabLayout2Visible = m.isFABOpen ∧ m.fabLayout3Visible = m.isFABOpen := by
      cases hopen : m.isFABOpen with
      | true => exact h.entries hopen
      | false => exact h.hidden hopen hlayout3
    refine ⟨hentries.1, hentries.2, h.backdrop, ?_, ?_, ?_⟩
    · rw [Property.value_of_animation_eq_none hfab, hheads.fab]
    · rw [Property.value_of_animation_eq_none hlayout2, hheads.fabLayout2]
    · rw [Property.value_of_animation_eq_none hlayout3, hheads.fabLayout3]

/-- A menu that opens heads for its layout exactly if the button and the first entry are at
zero. -/
theorem heads_showFABMenu_iff (dimens : Dimens) (m : FloatingMenu) :
    (m.showFABMenu dimens).Heads dimens ↔ m.fab.value = 0 ∧ m.fabLayout2.value = 0 := by
  rw [showFABMenu_eq]
  constructor
  · intro hheads
    exact ⟨by simpa using hheads.fab, by simpa using hheads.fabLayout2⟩
  · rintro ⟨hfab, hlayout2⟩
    exact ⟨by simp [hfab], by simp [hlayout2], by simp [hlayout2]⟩

/-- A menu that closes always does. -/
theorem heads_closeFABMenu (dimens : Dimens) (m : FloatingMenu) :
    m.closeFABMenu.Heads dimens := by
  rw [closeFABMenu_eq]
  exact ⟨rfl, rfl, rfl⟩

/-- The taps that open or close a menu. -/
def Toggles (m : FloatingMenu) (e : Event) : Prop :=
  e = .tapFab ∨ e = .tapBackdrop ∧ m.fabBGLayoutVisible = true

/-- No other event changes what the menu heads for. -/
theorem heads_step_iff (htoggles : ¬ m.Toggles e) :
    (m.step dimens e).Heads dimens ↔ m.Heads dimens := by
  cases e with
  | tapFab => exact absurd (Or.inl rfl) htoggles
  | tapBackdrop =>
    have hinvisible : ¬ m.fabBGLayoutVisible = true := fun h => htoggles (Or.inr ⟨rfl, h⟩)
    simp only [step, if_neg hinvisible]
  | frame view fraction =>
    cases view <;> simp [heads_iff, step]
  | animationEnd view =>
    cases view with
    | fab | fabLayout2 => simp [heads_iff, step]
    | fabLayout3 =>
      simp only [step]
      rw [endFabLayout3_eq]
      simp [heads_iff]

/-- A tap that opens or closes a sound menu makes it head for its layout exactly if it closes
the menu or finds the button and the first entry at zero. -/
theorem Sound.heads_toggle_iff (h : m.Sound) (htoggles : m.Toggles e) :
    (m.step dimens e).Heads dimens ↔
      (m.isFABOpen = false → m.fab.value = 0 ∧ m.fabLayout2.value = 0) := by
  cases hopen : m.isFABOpen with
  | true =>
    have hclose : m.step dimens e = m.closeFABMenu := by
      rcases htoggles with rfl | ⟨rfl, hvisible⟩
      · simp [FloatingMenu.step, hopen]
      · simp [FloatingMenu.step, hvisible]
    rw [hclose]
    exact iff_of_true (heads_closeFABMenu dimens m) fun hclosed => absurd hclosed.symm
      Bool.false_ne_true
  | false =>
    have hshow : m.step dimens e = m.showFABMenu dimens := by
      rcases htoggles with rfl | ⟨rfl, hvisible⟩
      · simp [FloatingMenu.step, hopen]
      · exact absurd (hopen.symm.trans (h.backdrop.symm.trans hvisible)) Bool.false_ne_true
    rw [hshow, heads_showFABMenu_iff]
    exact ⟨fun hzero _ => hzero, fun hzero => hzero rfl⟩

/-- The last tap of a run that opened or closed the menu closed it, or found the button and
the first entry at zero. -/
def LastFromZero (dimens : Dimens) (events : List Event) : Prop :=
  Runs.LastSatisfies (fun earlier e => (created.run dimens earlier).Toggles e)
    (fun earlier _ => (created.run dimens earlier).isFABOpen = false →
      (created.run dimens earlier).fab.value = 0 ∧
        (created.run dimens earlier).fabLayout2.value = 0) events

/-- A tap at the end of a run that opens or closes the menu is the last one. -/
theorem lastFromZero_concat_of_toggles (htoggles : (created.run dimens events).Toggles e) :
    LastFromZero dimens (events ++ [e]) ↔ ((created.run dimens events).isFABOpen = false →
      (created.run dimens events).fab.value = 0 ∧
        (created.run dimens events).fabLayout2.value = 0) :=
  Runs.lastSatisfies_concat_of_selects htoggles

/-- Any other event leaves the last one where it is. -/
theorem lastFromZero_concat_of_not_toggles
    (htoggles : ¬ (created.run dimens events).Toggles e) :
    LastFromZero dimens (events ++ [e]) ↔ LastFromZero dimens events :=
  Runs.lastSatisfies_concat_of_not_selects htoggles

/-- **Run.** The menu heads for its layout as long as the last tap that opened or closed it
made it do so. -/
theorem heads_run_iff (dimens : Dimens) (events : List Event) :
    (created.run dimens events).Heads dimens ↔ LastFromZero dimens events := by
  induction events using List.reverseRecOn with
  | nil => exact iff_of_true ⟨rfl, rfl, rfl⟩ Runs.lastSatisfies_nil
  | append_singleton events e ih =>
    rw [run_concat]
    by_cases htoggles : (created.run dimens events).Toggles e
    · rw [lastFromZero_concat_of_toggles htoggles]
      exact (sound_run dimens events).heads_toggle_iff htoggles
    · rw [lastFromZero_concat_of_not_toggles htoggles, heads_step_iff htoggles]
      exact ih

/-- **Rest layout.** Whenever no animation is running, the menu has the layout of an open or a
closed menu exactly if the last tap that opened or closed it closed it, or found the button and
the first entry at zero. -/
theorem restLayout_iff (dimens : Dimens) (events : List Event)
    (hidle : (created.run dimens events).Idle) :
    (created.run dimens events).RestLayout dimens ↔ LastFromZero dimens events := by
  rw [(sound_run dimens events).restLayout_iff_heads hidle]
  exact heads_run_iff dimens events

/-- Once all three animations have ended, none is running. -/
theorem idle_of_ends (dimens : Dimens) (m : FloatingMenu) :
    (m.run dimens
      [.animationEnd .fab, .animationEnd .fabLayout2, .animationEnd .fabLayout3]).Idle := by
  simp only [run, List.foldl_cons, List.foldl_nil, step]
  rw [endFabLayout3_eq]
  exact ⟨Property.animation_finish _, Property.animation_finish _, Property.animation_finish _⟩

/-- The menu opens again after it has closed. -/
theorem restLayout_reopened :
    let dimens : Dimens := ⟨55, 100⟩
    let events : List Event :=
      [.tapFab, .animationEnd .fab, .animationEnd .fabLayout2, .animationEnd .fabLayout3,
        .tapBackdrop, .animationEnd .fab, .animationEnd .fabLayout2, .animationEnd .fabLayout3,
        .tapFab, .animationEnd .fab, .animationEnd .fabLayout2, .animationEnd .fabLayout3]
    (created.run dimens events).Idle ∧ (created.run dimens events).RestLayout dimens := by
  have hlast : LastFromZero ⟨55, 100⟩
      (([.tapFab, .animationEnd .fab, .animationEnd .fabLayout2, .animationEnd .fabLayout3,
        .tapBackdrop, .animationEnd .fab, .animationEnd .fabLayout2,
        .animationEnd .fabLayout3] : List Event) ++ [Event.tapFab] ++
        [Event.animationEnd .fab] ++ [Event.animationEnd .fabLayout2] ++
        [Event.animationEnd .fabLayout3]) := by
    rw [lastFromZero_concat_of_not_toggles (by simp [Toggles]),
      lastFromZero_concat_of_not_toggles (by simp [Toggles]),
      lastFromZero_concat_of_not_toggles (by simp [Toggles]),
      lastFromZero_concat_of_toggles (Or.inl rfl)]
    exact fun _ => by decide +kernel
  intro dimens events
  have hidle : (created.run dimens events).Idle := idle_of_ends _ _
  exact ⟨hidle, (restLayout_iff dimens events hidle).mpr hlast⟩

/-- A menu that is opened while it closes comes to rest with the entries too high and the
button turned too far. -/
theorem reopened_while_closing :
    let dimens : Dimens := ⟨55, 100⟩
    let events : List Event :=
      [.tapFab, .animationEnd .fab, .animationEnd .fabLayout2, .animationEnd .fabLayout3,
        .tapFab, .frame .fab (1 / 2), .frame .fabLayout2 (1 / 2), .frame .fabLayout3 (1 / 2),
        .tapFab, .animationEnd .fab, .animationEnd .fabLayout2, .animationEnd .fabLayout3]
    (created.run dimens events).Idle ∧ ¬ (created.run dimens events).RestLayout dimens := by
  intro dimens events
  refine ⟨idle_of_ends _ _, fun hlayout => ?_⟩
  exact absurd hlayout.fabLayout2 (by decide +kernel)

end FloatingMenu

end JazzOnTheMove.Android
