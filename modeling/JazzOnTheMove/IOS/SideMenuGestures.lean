import JazzOnTheMove.IOS.SideMenuRest
import Mathlib.Tactic.Linarith

/-!
# What a pan does to a resting menu

A gesture that begins at rest is refused, toggles the menu at once, or drags it. In the
first two cases the menu heads for a rest state, and nothing that happens until the
gesture is over changes that.
-/

namespace JazzOnTheMove.IOS

namespace MainViewController

/-- Nothing is dragged, and the menu is shown as it will be once all completions have run. -/
structure Heads (vc : MainViewController) (expanded : Bool) : Prop where
  onTop : vc.revealSideMenuOnTop = true
  gestures : vc.gestureEnabled = true
  dragging : vc.draggingIsEnabled = false
  eventual : vc.expansion.eventual = expanded
  shows : vc.Shows expanded

/-- The menu heads for the state that it is in, and no gesture is under way. -/
structure Rests (vc : MainViewController) (expanded : Bool) : Prop extends Heads vc expanded where
  inactive : vc.panActive = false
  pending : vc.expansion.pending = []

variable {vc : MainViewController} {expanded : Bool}

/-- At rest, `isExpanded` is up to date. -/
theorem Rests.isExpanded_eq (h : vc.Rests expanded) : vc.isExpanded = expanded :=
  (DelayedWrites.Register.current_of_pending_nil h.pending).trans h.eventual

/-- The rest states of undisturbed runs are such states. -/
theorem Sound.rests (h : vc.Sound) (hrest : vc.AtRest) : vc.Rests vc.isExpanded := by
  obtain ⟨hactive, hpending, _⟩ := hrest
  have hdragging := h.not_dragging hactive
  have hcurrent := DelayedWrites.Register.current_of_pending_nil hpending
  have hshows := h.shows hdragging
  rw [← hcurrent] at hshows
  exact ⟨⟨h.onTop, h.gestures, hdragging, hcurrent.symm, hshows⟩, hactive, hpending⟩

/-- The velocities that enable dragging at rest. -/
theorem Rests.enables_iff (h : vc.Rests expanded) (velocity : ℚ) :
    vc.Enables velocity ↔ if expanded then velocity < 0 else 0 < velocity := by
  rw [Enables, h.isExpanded_eq]

/-- What a menu at rest shows. -/
theorem Rests.mem_rest_states (h : vc.Rests expanded) :
    (vc.isExpanded, vc.trailingConstant, vc.shadowAlpha) ∈
      [(true, 0, 6 / 10), (false, -(sideMenuRevealWidth + paddingForRotation), 0)] := by
  obtain ⟨hconstant, halpha⟩ := h.shows
  rw [h.isExpanded_eq, hconstant, halpha]
  cases expanded <;> simp

/-- Whether a gesture is under way does not matter to where the menu heads. -/
theorem Heads.setPanActive (h : vc.Heads expanded) (active : Bool) :
    { vc with panActive := active }.Heads expanded :=
  ⟨h.onTop, h.gestures, h.dragging, h.eventual, h.shows⟩

/-- Where a sound menu heads while nothing is dragged. -/
theorem Sound.heads (h : vc.Sound) (hdragging : vc.draggingIsEnabled = false)
    (heventual : vc.expansion.eventual = expanded) : vc.Heads expanded :=
  ⟨h.onTop, h.gestures, hdragging, heventual, heventual ▸ h.shows hdragging⟩

/-- A menu that heads somewhere is sound. -/
theorem Heads.sound (h : vc.Heads expanded) : vc.Sound where
  onTop := h.onTop
  gestures := h.gestures
  dragging hdrag := absurd (h.dragging.symm.trans hdrag) Bool.false_ne_true
  shows _ := h.eventual.symm ▸ h.shows

/-! ## How a gesture begins -/

/-- A gesture in another direction leaves the menu alone. -/
theorem Rests.began_refused (h : vc.Rests expanded) (translation : ℚ) {velocity : ℚ}
    (henables : ¬ vc.Enables velocity) :
    vc.step (.pan ⟨.began, translation, velocity⟩) =
      { vc with panActive := decide (¬ (0 < velocity ∧ expanded = true)) } := by
  have hbegan : vc.panBegan ⟨.began, translation, velocity⟩ = _ :=
    panBegan_of_not_enables h.dragging henables
  rw [(step_pan h.gestures translation velocity).1 h.inactive, hbegan, h.isExpanded_eq]
  by_cases hcancels : 0 < velocity ∧ expanded = true
  · simp [hcancels]
  · simp [hcancels]

/-- A fast swipe makes the menu head for the other state. -/
theorem Rests.began_fast (h : vc.Rests expanded) (translation : ℚ) {velocity : ℚ}
    (henables : vc.Enables velocity) (hfast : 550 < |velocity|) :
    (vc.step (.pan ⟨.began, translation, velocity⟩)).Heads (!expanded) := by
  obtain ⟨htop, hgestures, -, hshows⟩ :=
    panBegan_sound h.sound h.dragging ⟨.began, translation, velocity⟩ rfl
  have hbegan : vc.panBegan ⟨.began, translation, velocity⟩ = _ := panBegan_fast henables hfast
  have hdragging : (vc.panBegan ⟨.began, translation, velocity⟩).1.draggingIsEnabled = false := by
    rw [hbegan]
  have heventual :
      (vc.panBegan ⟨.began, translation, velocity⟩).1.expansion.eventual = !expanded := by
    rw [hbegan, sideMenuState_expansion, h.isExpanded_eq, DelayedWrites.Register.eventual_write]
  have hheads : (vc.panBegan ⟨.began, translation, velocity⟩).1.Heads (!expanded) :=
    ⟨htop, hgestures, hdragging, heventual, heventual ▸ hshows hdragging⟩
  rw [(step_pan h.gestures translation velocity).1 h.inactive]
  exact hheads.setPanActive _

/-! ## Until the gesture is over -/

/-- What may happen during a pan: the finger moves and completions run. -/
def Event.DuringPan : Event → Prop
  | .completion => True
  | .pan sender => sender.state = .changed
  | _ => False

/-- Landing a completion does not change where the menu heads. -/
theorem Heads.completion (h : vc.Heads expanded) : (vc.step .completion).Heads expanded :=
  ⟨h.onTop, h.gestures, h.dragging,
    (DelayedWrites.Register.eventual_land _).trans h.eventual, h.shows⟩

/-- Without dragging, the finger moves nothing. -/
theorem Heads.changed (h : vc.Heads expanded) (translation velocity : ℚ) :
    vc.step (.pan ⟨.changed, translation, velocity⟩) = vc := by
  cases hactive : vc.panActive with
  | true =>
    rw [(step_pan h.gestures translation velocity).2.1 hactive,
      panChanged_of_not_dragging h.dragging]
  | false => simp [step, hactive]

/-- Neither changes where the menu heads, nor whether the gesture goes on. -/
theorem Heads.duringPan (h : vc.Heads expanded) {e : Event} (he : e.DuringPan) :
    (vc.step e).Heads expanded ∧ (vc.step e).panActive = vc.panActive := by
  cases e with
  | completion => exact ⟨h.completion, rfl⟩
  | pan sender =>
    obtain ⟨state, translation, velocity⟩ := sender
    obtain rfl : state = .changed := he
    rw [h.changed translation velocity]
    exact ⟨h, rfl⟩
  | revealSideMenu | tap | selectRow | collapseBlock | rotate => exact he.elim

/-- So it is for any number of such events. -/
theorem Heads.run_duringPan (h : vc.Heads expanded) {during : List Event}
    (hduring : ∀ e ∈ during, e.DuringPan) :
    (vc.run during).Heads expanded ∧ (vc.run during).panActive = vc.panActive := by
  have hstep : ∀ (next : MainViewController) (e : Event),
      next.Heads expanded ∧ next.panActive = vc.panActive → e.DuringPan →
      (next.step e).Heads expanded ∧ (next.step e).panActive = vc.panActive := by
    rintro next e ⟨hnext, hsame⟩ he
    obtain ⟨hheads, hactive⟩ := hnext.duringPan he
    exact ⟨hheads, hactive.trans hsame⟩
  exact Runs.invariant_of_guarded hstep ⟨h, rfl⟩ (Runs.guarded_of_forall hduring)

/-- The end of a gesture that dragged nothing starts an animation to where the menu heads. -/
theorem Heads.ended (h : vc.Heads expanded) (translation velocity : ℚ) :
    (vc.step (.pan ⟨.ended, translation, velocity⟩)).Heads expanded ∧
      (vc.step (.pan ⟨.ended, translation, velocity⟩)).panActive = false := by
  have hnearer : decide (-(sideMenuRevealWidth * (1 / 2)) < vc.trailingConstant) = expanded := by
    rw [h.shows.1]
    cases expanded <;> decide +kernel
  have hended : vc.panEnded.Heads expanded := by
    obtain ⟨hsound, hdragging⟩ := panEnded_sound h.sound
    refine hsound.heads hdragging ?_
    rw [panEnded_eq h.onTop, hnearer, sideMenuState_expansion,
      DelayedWrites.Register.eventual_write]
  cases hactive : vc.panActive with
  | true =>
    rw [(step_pan h.gestures translation velocity).2.2 hactive]
    exact ⟨hended.setPanActive false, rfl⟩
  | false =>
    have hignored : vc.step (.pan ⟨.ended, translation, velocity⟩) = vc := by simp [step, hactive]
    rw [hignored]
    exact ⟨h, hactive⟩

/-- A gesture that the system ends reaches no case of the handler. -/
theorem step_interrupted (vc : MainViewController) {state : GestureState}
    (hstate : state = .cancelled ∨ state = .failed) (translation velocity : ℚ) :
    vc.step (.pan ⟨state, translation, velocity⟩) = { vc with panActive := false } := by
  cases hactive : vc.panActive with
  | true => rcases hstate with rfl | rfl <;> simp [step, handlePanGesture, hactive]
  | false =>
    have hsame : { vc with panActive := false } = vc := by rw [← hactive]
    rw [hsame]
    rcases hstate with rfl | rfl <;> simp [step, hactive]

/-! ## Swipes -/

/-- Completions are among what may happen during a pan. -/
theorem duringPan_of_completion {after : List Event} (hafter : ∀ e ∈ after, e = .completion) :
    ∀ e ∈ after, e.DuringPan := by
  intro e he
  rw [hafter e he]
  trivial

/-- Once its gesture is over and all completions have run, the menu rests where it headed. -/
theorem Heads.rests_run (h : vc.Heads expanded) (hactive : vc.panActive = false)
    {after : List Event} (hafter : ∀ e ∈ after, e = .completion)
    (hpending : (vc.run after).expansion.pending = []) : (vc.run after).Rests expanded := by
  obtain ⟨hheads, hsame⟩ := h.run_duringPan (duringPan_of_completion hafter)
  exact ⟨hheads, hsame.trans hactive, hpending⟩

/-- So does it after a whole gesture that `.ended` or the handler itself ended. -/
theorem Heads.rests_over (h : vc.Heads expanded) {during ending after : List Event}
    (hduring : ∀ e ∈ during, e.DuringPan)
    (hending : (∃ translation velocity, ending = [.pan ⟨.ended, translation, velocity⟩]) ∨
      ending = [] ∧ vc.panActive = false)
    (hafter : ∀ e ∈ after, e = .completion)
    (hpending : (vc.run (during ++ ending ++ after)).expansion.pending = []) :
    (vc.run (during ++ ending ++ after)).Rests expanded := by
  rw [run_append, run_append] at hpending ⊢
  obtain ⟨hmoved, hsame⟩ := h.run_duringPan hduring
  rcases hending with ⟨translation, velocity, rfl⟩ | ⟨rfl, hactive⟩
  · obtain ⟨hended, hinactive⟩ := hmoved.ended translation velocity
    exact hended.rests_run hinactive hafter hpending
  · exact hmoved.rests_run (hsame.trans hactive) hafter hpending

/-- The velocities of fast swipes enable dragging. -/
theorem Rests.enables_of_fast (h : vc.Rests expanded) {velocity : ℚ}
    (hfast : if expanded then velocity < -550 else 550 < velocity) :
    vc.Enables velocity ∧ 550 < |velocity| := by
  rw [h.enables_iff, lt_abs]
  cases expanded with
  | true =>
    have hleft : velocity < -550 := hfast
    exact ⟨hleft.trans (by norm_num), Or.inr (by linarith)⟩
  | false =>
    have hright : 550 < velocity := hfast
    exact ⟨lt_trans (by norm_num) hright, Or.inl hright⟩

/-- **Fast and refused swipes.** However the finger moves and whenever completions run, a
fast swipe in the direction that enables dragging toggles a resting menu, and a swipe in
another direction leaves it as it is. -/
theorem swipe_rests (h : vc.Rests expanded) (translation velocity : ℚ)
    {during ending after events : List Event} (hduring : ∀ e ∈ during, e.DuringPan)
    (hending : (∃ translation velocity, ending = [.pan ⟨.ended, translation, velocity⟩]) ∨
      ending = [] ∧ 0 < velocity ∧ expanded = true)
    (hafter : ∀ e ∈ after, e = .completion)
    (hevents : events = .pan ⟨.began, translation, velocity⟩ :: (during ++ ending ++ after))
    (hpending : (vc.run events).expansion.pending = []) :
    ((if expanded then velocity < -550 else 550 < velocity) →
        (vc.run events).Rests !expanded) ∧
      ((if expanded then 0 ≤ velocity else velocity ≤ 0) → (vc.run events).Rests expanded) := by
  subst hevents
  change ((vc.step (.pan ⟨.began, translation, velocity⟩)).run
    (during ++ ending ++ after)).expansion.pending = [] at hpending
  constructor
  · intro hfast
    obtain ⟨henables, habs⟩ := h.enables_of_fast hfast
    refine (h.began_fast translation henables habs).rests_over hduring ?_ hafter hpending
    refine hending.imp_right fun ⟨_, hpos, hexpanded⟩ => ?_
    -- the handler only cancels swipes to the right of an expanded menu
    rw [h.enables_iff, if_pos hexpanded] at henables
    exact absurd henables hpos.not_gt
  · intro hrefused
    have henables : ¬ vc.Enables velocity := by
      rw [h.enables_iff]
      cases expanded with
      | true => exact not_lt.mpr hrefused
      | false => exact not_lt.mpr hrefused
    have hbegan := h.began_refused translation henables
    have hheads : (vc.step (.pan ⟨.began, translation, velocity⟩)).Heads expanded := by
      rw [hbegan]
      exact h.toHeads.setPanActive _
    refine hheads.rests_over hduring (hending.imp_right fun ⟨hnone, hcancels⟩ => ⟨hnone, ?_⟩)
      hafter hpending
    rw [hbegan]
    exact decide_eq_false (not_not.mpr hcancels)

/-- A fast swipe whose finger moves back, with a completion before it ends. -/
theorem swipe_expands :
    ((viewDidLoad true true).run [.pan ⟨.began, 0, 600⟩, .pan ⟨.changed, -40, 0⟩, .completion,
      .pan ⟨.ended, -40, 0⟩, .completion]).Rests true := by
  have hstart : (viewDidLoad true true).Rests false := sound_viewDidLoad.rests ⟨rfl, rfl, rfl⟩
  have hduring : ∀ e ∈ [Event.pan ⟨.changed, -40, 0⟩, .completion], e.DuringPan := by
    simp [Event.DuringPan]
  have hafter : ∀ e ∈ [Event.completion], e = .completion := by simp
  exact (swipe_rests hstart 0 600 hduring (Or.inl ⟨-40, 0, rfl⟩) hafter rfl
    (by decide +kernel)).1 (by norm_num)

end MainViewController

end JazzOnTheMove.IOS
