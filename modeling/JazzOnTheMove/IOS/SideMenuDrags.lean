import JazzOnTheMove.IOS.SideMenuGestures

/-!
# Slow drags

A drag moves the trailing edge of the menu to every location of the finger within the
reveal width. A jump past the width leaves the edge behind, and the end of the drag goes
by the edge. Only `.ended` switches dragging off, so a drag that the system interrupts
stays on.
-/

namespace JazzOnTheMove.IOS

namespace MainViewController

/-- `panBaseLocation` in a drag that began at rest. -/
def baseLocation (expanded : Bool) : ℚ :=
  if expanded then sideMenuRevealWidth else 0

/-- The trailing edge of the menu at rest. -/
def restLocation (expanded : Bool) : ℚ :=
  if expanded then sideMenuRevealWidth else -paddingForRotation

/-- The trailing edge after some translations: the last location of the finger within the
reveal width, or where the menu rested. -/
def edgeLocation (expanded : Bool) (translations : List ℚ) : ℚ :=
  ((translations.map fun translation => baseLocation expanded + translation).filter
    fun location => location ≤ sideMenuRevealWidth).getLast?.getD (restLocation expanded)

/-- One more translation moves the edge unless it passes the reveal width. -/
theorem edgeLocation_concat (expanded : Bool) (translations : List ℚ) (translation : ℚ) :
    edgeLocation expanded (translations ++ [translation]) =
      if baseLocation expanded + translation ≤ sideMenuRevealWidth then
        baseLocation expanded + translation
      else edgeLocation expanded translations := by
  unfold edgeLocation
  by_cases hwidth : baseLocation expanded + translation ≤ sideMenuRevealWidth
  · simp [List.filter_append, hwidth]
  · simp [List.filter_append, hwidth]

/-- A slow drag is under way and has moved the trailing edge to a location. -/
structure Drags (vc : MainViewController) (expanded : Bool) (location : ℚ) : Prop where
  onTop : vc.revealSideMenuOnTop = true
  gestures : vc.gestureEnabled = true
  dragging : vc.draggingIsEnabled = true
  active : vc.panActive = true
  pending : vc.expansion.pending = []
  base : vc.panBaseLocation = baseLocation expanded
  moved : vc.trailingConstant + sideMenuRevealWidth = location

/-- A report of the pan recognizer that the finger has moved. -/
def changed (translation velocity : ℚ) : Event :=
  .pan ⟨.changed, translation, velocity⟩

variable {vc : MainViewController} {expanded : Bool} {location : ℚ}

/-- A slow gesture starts a drag from where the menu rests. -/
theorem Rests.began_slow (h : vc.Rests expanded) (translation : ℚ) {velocity : ℚ}
    (henables : vc.Enables velocity) (hslow : |velocity| ≤ 550) :
    (vc.step (.pan ⟨.began, translation, velocity⟩)).Drags expanded (restLocation expanded) := by
  have hmoved : vc.trailingConstant + sideMenuRevealWidth = restLocation expanded := by
    rw [h.shows.1, restLocation]
    cases expanded <;> simp
  have hbegan : vc.panBegan ⟨.began, translation, velocity⟩ = _ :=
    panBegan_slow h.onTop henables hslow
  rw [(step_pan h.gestures translation velocity).1 h.inactive, hbegan, h.isExpanded_eq]
  exact ⟨h.onTop, h.gestures, rfl, rfl, h.pending, rfl, hmoved⟩

/-- **Step.** The finger takes the trailing edge along within the reveal width. -/
theorem Drags.changed (h : vc.Drags expanded location) (translation velocity : ℚ) :
    (vc.step (changed translation velocity)).Drags expanded
      (if baseLocation expanded + translation ≤ sideMenuRevealWidth then
        baseLocation expanded + translation
      else location) := by
  have hmoved : vc.panChanged ⟨.changed, translation, velocity⟩ = _ :=
    panChanged_of_dragging h.onTop h.dragging _
  have hstep : vc.step (MainViewController.changed translation velocity) = _ :=
    (step_pan h.gestures translation velocity).2.1 h.active
  rw [hstep, hmoved, h.base]
  refine ⟨h.onTop, h.gestures, h.dragging, h.active, h.pending, rfl, ?_⟩
  by_cases hwidth : baseLocation expanded + translation ≤ sideMenuRevealWidth
  · simp only [if_pos hwidth, sub_add_cancel]
  · simp only [if_neg hwidth, h.moved]

/-- **Run.** After any movements the edge is at the last location within the width. -/
theorem Drags.run_changed (h : vc.Drags expanded (restLocation expanded))
    (movements : List (ℚ × ℚ)) :
    (vc.run (movements.map fun m => MainViewController.changed m.1 m.2)).Drags expanded
      (edgeLocation expanded (movements.map Prod.fst)) := by
  induction movements using List.reverseRecOn with
  | nil => exact h
  | append_singleton movements m ih =>
    simp only [List.map_append, List.map_cons, List.map_nil, run_concat, edgeLocation_concat]
    exact ih.changed m.1 m.2

/-- The end of a drag starts an animation to the side where the trailing edge is. -/
theorem Drags.ended (h : vc.Drags expanded location) (translation velocity : ℚ) :
    ((vc.run [.pan ⟨.ended, translation, velocity⟩, .completion]).isExpanded = true ↔
        sideMenuRevealWidth / 2 < location) ∧
      (vc.run [.pan ⟨.ended, translation, velocity⟩, .completion]).panBaseLocation =
        baseLocation expanded := by
  have hended := (step_pan h.gestures translation velocity).2.2 h.active
  have hrun : vc.run [.pan ⟨.ended, translation, velocity⟩, .completion] =
      { vc.panEnded with panActive := false }.step .completion := by
    rw [← hended]
    rfl
  have hexpansion : vc.panEnded.expansion =
      vc.expansion.write (decide (-(sideMenuRevealWidth * (1 / 2)) < vc.trailingConstant)) := by
    rw [panEnded_eq h.onTop, sideMenuState_expansion]
  have hbase : vc.panEnded.panBaseLocation = vc.panBaseLocation := by
    rw [panEnded_eq h.onTop, sideMenuState_panBaseLocation]
  rw [hrun]
  constructor
  · change vc.panEnded.expansion.land.current = true ↔ _
    rw [hexpansion, DelayedWrites.Register.current_land_write h.pending, decide_eq_true_iff,
      ← h.moved]
    constructor <;> intro hless <;> linarith
  · exact hbase.trans h.base

/-- **Slow drags.** After a slow drag of a resting menu, the menu is expanded exactly if the
finger ended beyond the middle, provided that it ended within the reveal width or that the
trailing edge was beyond the middle before the finger left it behind; and only then. -/
theorem slow_drag_iff (h : vc.Rests expanded) {velocity : ℚ} (henables : vc.Enables velocity)
    (hslow : |velocity| ≤ 550) (translation : ℚ) (earlier : List (ℚ × ℚ)) (last : ℚ × ℚ)
    (sender : PanGesture) (hended : sender.state = .ended) :
    let rest := vc.run (.pan ⟨.began, translation, velocity⟩ ::
      (earlier ++ [last]).map (fun m => changed m.1 m.2) ++ [.pan sender, .completion])
    (rest.isExpanded = true ↔ sideMenuRevealWidth / 2 < rest.panBaseLocation + last.1) ↔
      baseLocation expanded + last.1 ≤ sideMenuRevealWidth ∨
        sideMenuRevealWidth / 2 < edgeLocation expanded (earlier.map Prod.fst) := by
  intro rest
  obtain ⟨state, translation', velocity'⟩ := sender
  obtain rfl : state = .ended := hended
  have hmoved := (h.began_slow translation henables hslow).run_changed (earlier ++ [last])
  obtain ⟨hexpanded, hbase⟩ := hmoved.ended translation' velocity'
  rw [← run_append] at hexpanded hbase
  have hrest : rest = (vc.step (.pan ⟨.began, translation, velocity⟩)).run
      ((earlier ++ [last]).map (fun m => changed m.1 m.2) ++
        [.pan ⟨.ended, translation', velocity'⟩, .completion]) := rfl
  rw [hrest, hexpanded, hbase, List.map_append, List.map_singleton, edgeLocation_concat]
  by_cases hwidth : baseLocation expanded + last.1 ≤ sideMenuRevealWidth
  · simp [hwidth]
  · have hbeyond : sideMenuRevealWidth / 2 < baseLocation expanded + last.1 := by
      have hpos : (0 : ℚ) < sideMenuRevealWidth := by norm_num [sideMenuRevealWidth]
      linarith
    rw [if_neg hwidth, iff_true_right hbeyond, or_iff_right hwidth]

/-- A drag to the right in two moves, the last one within the width. -/
theorem slow_drag_expands :
    let rest := (viewDidLoad true true).run [.pan ⟨.began, 0, 100⟩, changed 300 0, changed 200 0,
      .pan ⟨.ended, 200, 0⟩, .completion]
    rest.isExpanded = true ↔ sideMenuRevealWidth / 2 < rest.panBaseLocation + 200 := by
  have hstart : (viewDidLoad true true).Rests false := sound_viewDidLoad.rests ⟨rfl, rfl, rfl⟩
  have henables : (viewDidLoad true true).Enables 100 := by
    rw [hstart.enables_iff]
    decide +kernel
  refine (slow_drag_iff hstart henables (by decide +kernel) 0 [(300, 0)] (200, 0)
    ⟨.ended, 200, 0⟩ rfl).mpr (Or.inl ?_)
  norm_num [baseLocation, sideMenuRevealWidth]

/-- The finger jumps past the reveal width: the menu collapses under a full shadow. -/
theorem jump_past_width_collapses :
    ¬ (let rest := (viewDidLoad true true).run [.pan ⟨.began, 0, 100⟩, changed 300 0,
        .pan ⟨.ended, 300, 0⟩, .completion]
      rest.isExpanded = true ↔ sideMenuRevealWidth / 2 < rest.panBaseLocation + 300) := by
  decide +kernel

/-! ## Interrupted drags -/

/-- Nothing that happens during a pan switches dragging on or off. -/
theorem step_duringPan_draggingIsEnabled (vc : MainViewController) {e : Event}
    (he : e.DuringPan) : (vc.step e).draggingIsEnabled = vc.draggingIsEnabled := by
  cases e with
  | completion => rfl
  | pan sender =>
    obtain ⟨state, translation, velocity⟩ := sender
    obtain rfl : state = .changed := he
    cases hactive : vc.panActive with
    | true =>
      simp only [step, hactive, handlePanGesture, panChanged]
      split_ifs <;> rfl
    | false => simp [step, hactive]
  | revealSideMenu | tap | selectRow | collapseBlock | rotate => exact he.elim

/-- So it is for any number of such events. -/
theorem run_duringPan_draggingIsEnabled (vc : MainViewController) {during : List Event}
    (hduring : ∀ e ∈ during, e.DuringPan) :
    (vc.run during).draggingIsEnabled = vc.draggingIsEnabled := by
  have hstep : ∀ (next : MainViewController) (e : Event),
      next.draggingIsEnabled = vc.draggingIsEnabled → e.DuringPan →
      (next.step e).draggingIsEnabled = vc.draggingIsEnabled :=
    fun next e hsame he => (step_duringPan_draggingIsEnabled next he).trans hsame
  exact Runs.invariant_of_guarded hstep rfl (Runs.guarded_of_forall hduring)

/-- A gesture that does not start a drag makes the menu head for a rest state. -/
theorem Rests.heads_of_not_drags (h : vc.Rests expanded) (translation : ℚ) {velocity : ℚ}
    (hdrags : ¬ (vc.Enables velocity ∧ |velocity| ≤ 550)) :
    ∃ target, (vc.step (.pan ⟨.began, translation, velocity⟩)).Heads target := by
  by_cases henables : vc.Enables velocity
  · have hfast : 550 < |velocity| := not_le.mp fun hslow => hdrags ⟨henables, hslow⟩
    exact ⟨_, h.began_fast translation henables hfast⟩
  · rw [h.began_refused translation henables]
    exact ⟨_, h.toHeads.setPanActive _⟩

/-- **Interrupted drags.** A pan of a resting menu that the system cancels, or that fails,
leaves the menu in a rest state with dragging switched off exactly if it never dragged: it
was refused, or it was a fast swipe. -/
theorem interrupted_pan_iff (h : vc.Rests expanded) (translation velocity : ℚ)
    {during after events : List Event} (hduring : ∀ e ∈ during, e.DuringPan)
    (sender : PanGesture) (hstate : sender.state = .cancelled ∨ sender.state = .failed)
    (hafter : ∀ e ∈ after, e = .completion)
    (hevents : events =
      .pan ⟨.began, translation, velocity⟩ :: (during ++ .pan sender :: after))
    (hpending : (vc.run events).expansion.pending = []) :
    (vc.run events).draggingIsEnabled = false ∧
        ((vc.run events).isExpanded, (vc.run events).trailingConstant,
            (vc.run events).shadowAlpha) ∈
          [(true, 0, 6 / 10), (false, -(sideMenuRevealWidth + paddingForRotation), 0)] ↔
      ¬ (vc.Enables velocity ∧ |velocity| ≤ 550) := by
  obtain ⟨state, translation', velocity'⟩ := sender
  have hrun : vc.run events = { (vc.step (.pan ⟨.began, translation, velocity⟩)).run during with
      panActive := false }.run after := by
    rw [hevents, ← step_interrupted _ hstate translation' velocity']
    exact run_append (vc.step (.pan ⟨.began, translation, velocity⟩)) during _
  rw [hrun] at hpending ⊢
  by_cases hdrags : vc.Enables velocity ∧ |velocity| ≤ 550
  · have hstill := (h.began_slow translation hdrags.1 hdrags.2).dragging
    rw [← run_duringPan_draggingIsEnabled _ hduring] at hstill
    have hafterwards := run_duringPan_draggingIsEnabled
      { (vc.step (.pan ⟨.began, translation, velocity⟩)).run during with panActive := false }
      (duringPan_of_completion hafter)
    rw [hafterwards]
    simp [hdrags, hstill]
  · obtain ⟨target, hheads⟩ := h.heads_of_not_drags translation hdrags
    have hrests := ((hheads.run_duringPan hduring).1.setPanActive false).rests_run rfl hafter
      hpending
    exact iff_of_true ⟨hrests.dragging, hrests.mem_rest_states⟩ hdrags

/-- A fast swipe whose gesture is cancelled. -/
theorem interrupted_swipe :
    let vc := (viewDidLoad true true).run
      [.pan ⟨.began, 0, 600⟩, changed 40 0, .pan ⟨.cancelled, 40, 0⟩, .completion]
    vc.draggingIsEnabled = false ∧
      (vc.isExpanded, vc.trailingConstant, vc.shadowAlpha) ∈
        [(true, 0, 6 / 10), (false, -(sideMenuRevealWidth + paddingForRotation), 0)] := by
  have hstart : (viewDidLoad true true).Rests false := sound_viewDidLoad.rests ⟨rfl, rfl, rfl⟩
  have hduring : ∀ e ∈ [changed 40 0], e.DuringPan := by simp [changed, Event.DuringPan]
  have hafter : ∀ e ∈ [Event.completion], e = .completion := by simp
  refine (interrupted_pan_iff hstart 0 600 hduring ⟨.cancelled, 40, 0⟩ (Or.inl rfl) hafter rfl
    (by decide +kernel)).mpr (fun hdrags => ?_)
  exact absurd hdrags.2 (by decide +kernel)

/-- A slow drag is cancelled: dragging stays enabled and the menu where it was dragged. -/
theorem cancelled_drag_stays :
    ¬ (let vc := (viewDidLoad true true).run
        [.pan ⟨.began, 0, 100⟩, changed 200 0, .pan ⟨.cancelled, 200, 0⟩]
      vc.draggingIsEnabled = false ∧
        (vc.isExpanded, vc.trailingConstant, vc.shadowAlpha) ∈
          [(true, 0, 6 / 10), (false, -(sideMenuRevealWidth + paddingForRotation), 0)]) := by
  decide +kernel

end MainViewController

end JazzOnTheMove.IOS
