import JazzOnTheMove.IOS.MainViewController
import JazzOnTheMove.Library.Runs

/-!
# Rest states of the side menu

Starting an animation sets the constraint and the shadow at once and `isExpanded`
later, so between inputs the two agree with the value that the last completion will
assign. Only a drag moves them apart, and its end starts an animation again.
-/

namespace JazzOnTheMove.IOS

namespace MainViewController

variable (vc : MainViewController) (expanded : Bool)

/-- The trailing constant and the shadow of an expanded or collapsed menu. -/
def Shows : Prop :=
  vc.trailingConstant = (if expanded then 0 else -(sideMenuRevealWidth + paddingForRotation)) ∧
    vc.shadowAlpha = if expanded then 6 / 10 else 0

/-! ## What the methods change -/

variable {vc expanded}

/-- The animation's target is shown at once. -/
theorem sideMenuState_shows (htop : vc.revealSideMenuOnTop = true) :
    (vc.sideMenuState expanded).Shows expanded := by
  unfold sideMenuState animateSideMenu Shows
  cases expanded
  · rw [neg_add, ← sub_eq_add_neg]
    simp [htop]
  · simp [htop]

/-- Selecting a row leaves the menu alone until its block runs. -/
theorem selectedCell_menu (htop : vc.revealSideMenuOnTop = true) (row : ℕ) :
    (vc.selectedCell row).revealSideMenuOnTop = true ∧
      (vc.selectedCell row).gestureEnabled = vc.gestureEnabled ∧
      (vc.selectedCell row).draggingIsEnabled = vc.draggingIsEnabled ∧
      (vc.selectedCell row).panActive = vc.panActive ∧
      (vc.selectedCell row).expansion = vc.expansion ∧
      (vc.selectedCell row).trailingConstant = vc.trailingConstant ∧
      (vc.selectedCell row).shadowAlpha = vc.shadowAlpha := by
  unfold selectedCell
  cases rowAction row with
  | showScreen storyboardId => simp [showViewController, htop]
  | openSafari address => simp [htop]
  | none => simp [htop]

/-! ## The invariant -/

/-- Unless the menu is being dragged, what is shown is what `isExpanded` will be. -/
structure Sound (vc : MainViewController) : Prop where
  onTop : vc.revealSideMenuOnTop = true
  gestures : vc.gestureEnabled = true
  dragging : vc.draggingIsEnabled = true → vc.panActive = true
  shows : vc.draggingIsEnabled = false → vc.Shows vc.expansion.eventual

/-- Dragging is off while no gesture is under way. -/
theorem Sound.not_dragging (h : vc.Sound) (hactive : vc.panActive = false) :
    vc.draggingIsEnabled = false := by
  by_contra hdrag
  have hstill := h.dragging (by simpa using hdrag)
  exact absurd (hactive.symm.trans hstill) Bool.false_ne_true

/-- The menu is collapsed in the beginning. -/
theorem sound_viewDidLoad : (viewDidLoad true true).Sound where
  onTop := rfl
  gestures := rfl
  dragging h := by cases h
  shows _ := by
    constructor
    · change -sideMenuRevealWidth - paddingForRotation = -(sideMenuRevealWidth + paddingForRotation)
      rw [neg_add, sub_eq_add_neg]
    · rfl

/-- Starting an animation makes the menu sound, whatever it showed before. -/
theorem sound_sideMenuState (htop : vc.revealSideMenuOnTop = true)
    (hgestures : vc.gestureEnabled = true)
    (hdragging : vc.draggingIsEnabled = true → vc.panActive = true) (expanded : Bool) :
    (vc.sideMenuState expanded).Sound where
  onTop := by rwa [sideMenuState_revealSideMenuOnTop]
  gestures := by rwa [sideMenuState_gestureEnabled]
  dragging := by rwa [sideMenuState_draggingIsEnabled, sideMenuState_panActive]
  shows _ := by
    rw [sideMenuState_expansion, DelayedWrites.Register.eventual_write]
    exact sideMenuState_shows htop

/-- The end of a gesture starts an animation to the nearer side. -/
theorem panEnded_eq (htop : vc.revealSideMenuOnTop = true) :
    vc.panEnded = { vc with draggingIsEnabled := false }.sideMenuState
      (decide (-(sideMenuRevealWidth * (1 / 2)) < vc.trailingConstant)) :=
  if_pos htop

/-- Without dragging, a translation does nothing. -/
theorem panChanged_of_not_dragging (hdragging : vc.draggingIsEnabled = false)
    (sender : PanGesture) : vc.panChanged sender = (vc, sender) := by
  unfold panChanged
  rw [hdragging]
  rfl

/-- While dragging, a translation moves the menu unless it passes the reveal width. -/
theorem panChanged_of_dragging (htop : vc.revealSideMenuOnTop = true)
    (hdragging : vc.draggingIsEnabled = true) (sender : PanGesture) :
    vc.panChanged sender = ({ vc with
      shadowAlpha := dragAlpha (vc.panBaseLocation + sender.translation)
      trailingConstant :=
        if vc.panBaseLocation + sender.translation ≤ sideMenuRevealWidth then
          vc.panBaseLocation + sender.translation - sideMenuRevealWidth
        else vc.trailingConstant }, sender) := by
  unfold panChanged
  rw [if_pos hdragging, if_pos htop]
  by_cases hwidth : vc.panBaseLocation + sender.translation ≤ sideMenuRevealWidth
  · simp only [if_pos hwidth]
  · simp only [if_neg hwidth]

/-- Whatever was shown while dragging, the end of the gesture makes the menu sound. -/
theorem panEnded_sound (h : vc.Sound) :
    vc.panEnded.Sound ∧ vc.panEnded.draggingIsEnabled = false := by
  rw [panEnded_eq h.onTop]
  refine ⟨sound_sideMenuState ?_ ?_ ?_ _, by simp⟩
  · exact h.onTop
  · exact h.gestures
  · exact fun h => absurd h Bool.false_ne_true

/-- A drag only goes on while the gesture does. -/
theorem panChanged_sound (h : vc.Sound) (sender : PanGesture) : (vc.panChanged sender).1.Sound := by
  by_cases hdragging : vc.draggingIsEnabled = true
  · rw [panChanged_of_dragging h.onTop hdragging]
    exact ⟨h.onTop, h.gestures, h.dragging,
      fun hnot => absurd (hdragging.symm.trans hnot) (by simp)⟩
  · rw [panChanged_of_not_dragging (by simpa using hdragging)]
    exact h

/-! ## How a gesture begins -/

/-- The velocities that enable dragging: rightwards if collapsed, leftwards if expanded. -/
def Enables (vc : MainViewController) (velocity : ℚ) : Prop :=
  if vc.isExpanded then velocity < 0 else 0 < velocity

/-- A gesture in another direction is ignored, and cancelled if it would expand further. -/
theorem panBegan_of_not_enables (hdragging : vc.draggingIsEnabled = false) {sender : PanGesture}
    (henables : ¬ vc.Enables sender.velocity) :
    vc.panBegan sender = (vc, if 0 < sender.velocity ∧ vc.isExpanded then
      { sender with state := .cancelled } else sender) := by
  unfold Enables at henables
  unfold panBegan
  cases hexpanded : vc.isExpanded with
  | true =>
    have hleft : ¬ sender.velocity < 0 := by simpa [hexpanded] using henables
    simp [hdragging, hleft]
  | false =>
    have hright : ¬ 0 < sender.velocity := by simpa [hexpanded] using henables
    simp [hdragging, hright]

/-- A gesture in the enabling direction enables dragging. -/
theorem panBegan_of_enables {sender : PanGesture} (henables : vc.Enables sender.velocity) :
    vc.panBegan sender =
      ({ vc with draggingIsEnabled := true }.dragBegan sender.velocity, sender) := by
  unfold Enables at henables
  unfold panBegan
  cases hexpanded : vc.isExpanded with
  | true =>
    have hleft : sender.velocity < 0 := by simpa [hexpanded] using henables
    have hright : ¬ 0 < sender.velocity := not_lt.mpr hleft.le
    simp [hleft, hright]
  | false =>
    have hright : 0 < sender.velocity := by simpa [hexpanded] using henables
    simp [hright]

/-- A fast swipe toggles the menu instead of dragging it. -/
theorem panBegan_fast {sender : PanGesture} (henables : vc.Enables sender.velocity)
    (hfast : 550 < |sender.velocity|) :
    vc.panBegan sender =
      ({ { vc with draggingIsEnabled := true }.sideMenuState (!vc.isExpanded) with
        draggingIsEnabled := false }, sender) := by
  have htoggle : (if vc.isExpanded then false else true) = !vc.isExpanded := by
    cases vc.isExpanded <;> rfl
  rw [panBegan_of_enables henables, ← htoggle]
  unfold dragBegan
  rw [if_pos hfast]
  rfl

/-- A slow one remembers where the menu is. -/
theorem panBegan_slow (htop : vc.revealSideMenuOnTop = true) {sender : PanGesture}
    (henables : vc.Enables sender.velocity) (hslow : |sender.velocity| ≤ 550) :
    vc.panBegan sender =
      ({ vc with
        draggingIsEnabled := true
        panBaseLocation := if vc.isExpanded then sideMenuRevealWidth else 0 }, sender) := by
  rw [panBegan_of_enables henables]
  unfold dragBegan
  rw [if_neg (not_lt.mpr hslow), if_pos htop]
  rfl

/-- After `.began` either the gesture goes on with a drag, or the menu is as it should be. -/
theorem panBegan_sound (h : vc.Sound) (hdragging : vc.draggingIsEnabled = false)
    (sender : PanGesture) (hbegan : sender.state = .began) :
    (vc.panBegan sender).1.revealSideMenuOnTop = true ∧
      (vc.panBegan sender).1.gestureEnabled = true ∧
      ((vc.panBegan sender).1.draggingIsEnabled = true →
        (vc.panBegan sender).2.state ≠ .cancelled) ∧
      ((vc.panBegan sender).1.draggingIsEnabled = false →
        (vc.panBegan sender).1.Shows (vc.panBegan sender).1.expansion.eventual) := by
  by_cases henables : vc.Enables sender.velocity
  · have hgoesOn : sender.state ≠ .cancelled := by
      rw [hbegan]
      decide
    by_cases hfast : 550 < |sender.velocity|
    · rw [panBegan_fast henables hfast]
      refine ⟨(sideMenuState_revealSideMenuOnTop _ _).trans h.onTop,
        (sideMenuState_gestureEnabled _ _).trans h.gestures, fun _ => hgoesOn, fun _ => ?_⟩
      rw [sideMenuState_expansion, DelayedWrites.Register.eventual_write]
      refine sideMenuState_shows ?_
      exact h.onTop
    · rw [panBegan_slow h.onTop henables (not_lt.mp hfast)]
      exact ⟨h.onTop, h.gestures, fun _ => hgoesOn, fun hnot => absurd hnot Bool.noConfusion⟩
  · rw [panBegan_of_not_enables hdragging henables]
    exact ⟨h.onTop, h.gestures,
      fun hdrag => absurd (hdragging.symm.trans hdrag) Bool.false_ne_true,
      fun _ => h.shows hdragging⟩

/-! ## Runs -/

/-- Everything but rotations and gestures that the system ends. -/
def Event.Undisturbed : Event → Prop
  | .rotate => False
  | .pan sender => sender.state ≠ .cancelled ∧ sender.state ≠ .failed
  | _ => True

/-- What the recognizer reports reaches the case for its state. -/
theorem step_pan (hgestures : vc.gestureEnabled = true) (translation velocity : ℚ) :
    (vc.panActive = false → vc.step (.pan ⟨.began, translation, velocity⟩) =
        { (vc.panBegan ⟨.began, translation, velocity⟩).1 with
          panActive := decide
            ((vc.panBegan ⟨.began, translation, velocity⟩).2.state ≠ GestureState.cancelled) }) ∧
      (vc.panActive = true → vc.step (.pan ⟨.changed, translation, velocity⟩) =
        (vc.panChanged ⟨.changed, translation, velocity⟩).1) ∧
      (vc.panActive = true → vc.step (.pan ⟨.ended, translation, velocity⟩) =
        { vc.panEnded with panActive := false }) := by
  refine ⟨fun hactive => ?_, fun hactive => ?_, fun hactive => ?_⟩ <;>
    simp [step, handlePanGesture, hgestures, hactive]

/-- What the pan recognizer reports keeps the menu sound. -/
theorem Sound.pan (h : vc.Sound) {sender : PanGesture} (hcancelled : sender.state ≠ .cancelled)
    (hfailed : sender.state ≠ .failed) : (vc.step (.pan sender)).Sound := by
  obtain ⟨state, translation, velocity⟩ := sender
  obtain ⟨hbegan, hchanged, hended⟩ := step_pan h.gestures translation velocity
  cases state with
  | cancelled => exact absurd rfl hcancelled
  | failed => exact absurd rfl hfailed
  | possible => exact h
  | began =>
    cases hactive : vc.panActive with
    | true => simpa [step, hactive] using h
    | false =>
      obtain ⟨htop, hgestures, hgoesOn, hshows⟩ := panBegan_sound h (h.not_dragging hactive)
        ⟨.began, translation, velocity⟩ rfl
      rw [hbegan hactive]
      exact ⟨htop, hgestures, fun hdrag => decide_eq_true (hgoesOn hdrag), hshows⟩
  | changed =>
    cases hactive : vc.panActive with
    | true =>
      rw [hchanged hactive]
      exact panChanged_sound h _
    | false => simpa [step, hactive] using h
  | ended =>
    cases hactive : vc.panActive with
    | true =>
      obtain ⟨hsound, hdrag⟩ := panEnded_sound h
      rw [hended hactive]
      exact ⟨hsound.onTop, hsound.gestures,
        fun hstill => absurd (hdrag.symm.trans hstill) Bool.false_ne_true, hsound.shows⟩
    | false => simpa [step, hactive] using h

/-- **Step.** Every undisturbed event keeps the menu sound. -/
theorem Sound.step (h : vc.Sound) {e : Event} (he : e.Undisturbed) : (vc.step e).Sound := by
  cases e with
  | revealSideMenu => exact sound_sideMenuState h.onTop h.gestures h.dragging _
  | tap =>
    simp only [MainViewController.step, tapGestureRecognizer, if_true]
    by_cases hexpanded : vc.isExpanded = true
    · rw [if_pos hexpanded]
      exact sound_sideMenuState h.onTop h.gestures h.dragging _
    · rw [if_neg hexpanded]
      exact h
  | selectRow row =>
    obtain ⟨htop, hgestures, hdragging, hactive, hexpansion, hconstant, halpha⟩ :=
      selectedCell_menu h.onTop row
    refine ⟨htop, hgestures.trans h.gestures, ?_, ?_⟩
    · simpa only [MainViewController.step, hdragging, hactive] using h.dragging
    · simpa only [MainViewController.step, Shows, hdragging, hexpansion, hconstant, halpha]
        using h.shows
  | collapseBlock =>
    simp only [MainViewController.step]
    cases vc.collapseBlocks with
    | zero => exact h
    | succ n =>
      refine sound_sideMenuState ?_ ?_ ?_ _
      · exact h.onTop
      · exact h.gestures
      · exact h.dragging
  | completion =>
    refine ⟨h.onTop, h.gestures, h.dragging, fun hdragging => ?_⟩
    simpa [MainViewController.step, Shows] using h.shows hdragging
  | pan sender => exact h.pan he.1 he.2
  | rotate => exact he.elim

/-- **Run.** So does every undisturbed run. -/
theorem Sound.run (h : vc.Sound) {events : List Event} (hevents : ∀ e ∈ events, e.Undisturbed) :
    (vc.run events).Sound :=
  Runs.invariant_of_guarded (fun _ _ hsound he => Sound.step hsound he) h
    (Runs.guarded_of_forall hevents)

/-- No gesture is under way, and no completion or block is pending. -/
def AtRest (vc : MainViewController) : Prop :=
  vc.panActive = false ∧ vc.expansion.pending = [] ∧ vc.collapseBlocks = 0

/-- **Side menu rest states.** After every undisturbed run, once the menu is at rest,
dragging is off and the menu is fully expanded or fully collapsed. -/
theorem side_menu_rests (events : List Event) (hevents : ∀ e ∈ events, e.Undisturbed)
    (hrest : ((viewDidLoad true true).run events).AtRest) :
    ((viewDidLoad true true).run events).draggingIsEnabled = false ∧
      (((viewDidLoad true true).run events).isExpanded,
        ((viewDidLoad true true).run events).trailingConstant,
        ((viewDidLoad true true).run events).shadowAlpha) ∈
          [(true, 0, 6 / 10), (false, -(sideMenuRevealWidth + paddingForRotation), 0)] := by
  have hsound := sound_viewDidLoad.run hevents
  generalize (viewDidLoad true true).run events = vc at hrest hsound
  obtain ⟨hactive, hpending, _⟩ := hrest
  have hdragging := hsound.not_dragging hactive
  obtain ⟨hconstant, halpha⟩ := hsound.shows hdragging
  have hcurrent : vc.expansion.eventual = vc.isExpanded :=
    (DelayedWrites.Register.current_of_pending_nil hpending).symm
  rw [hcurrent] at hconstant halpha
  refine ⟨hdragging, ?_⟩
  rw [hconstant, halpha]
  cases vc.isExpanded <;> simp

/-- A drag that ends beyond the middle while a row's collapse is queued. -/
theorem side_menu_rests_after_drag :
    let events : List Event :=
      [.pan ⟨.began, 0, 100⟩, .pan ⟨.changed, 200, 0⟩, .selectRow 2, .pan ⟨.ended, 200, 0⟩,
        .completion, .collapseBlock, .completion]
    let vc := (viewDidLoad true true).run events
    vc.draggingIsEnabled = false ∧
      (vc.isExpanded, vc.trailingConstant, vc.shadowAlpha) ∈
        [(true, 0, 6 / 10), (false, -(sideMenuRevealWidth + paddingForRotation), 0)] := by
  refine side_menu_rests _ ?_ ?_
  · simp [Event.Undisturbed]
  · exact ⟨by decide +kernel, by decide +kernel, by decide +kernel⟩

end MainViewController

end JazzOnTheMove.IOS
