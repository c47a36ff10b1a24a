import JazzOnTheMove.IOS.SideMenuRest

/-!
# Rotations

A rotation sets the constraint from `isExpanded`, which an animation under way has not
assigned yet. It changes nothing else, so a run with rotations differs from the run
without them at most in the constraint, and there the last event that sets it decides.
-/

namespace JazzOnTheMove.IOS

namespace MainViewController

/-- What is seen of the side menu. -/
def menuState (vc : MainViewController) : Bool × ℚ × ℚ :=
  (vc.isExpanded, vc.trailingConstant, vc.shadowAlpha)

/-- Everything but gestures. -/
def Event.WithoutPan : Event → Prop
  | .pan _ => False
  | _ => True

/-- The events other than gestures that start an animation. -/
def StartsAnimation (vc : MainViewController) : Event → Prop
  | .revealSideMenu => True
  | .tap => vc.isExpanded = true
  | .collapseBlock => vc.collapseBlocks ≠ 0
  | _ => False

/-- The events other than gestures that set the constant of the constraint. -/
def SetsConstant (vc : MainViewController) (e : Event) : Prop :=
  e = .rotate ∨ vc.StartsAnimation e

/-- The same menu up to the constraint. -/
structure SameButConstant (vc vc' : MainViewController) : Prop where
  onTop : vc.revealSideMenuOnTop = true
  onTop' : vc'.revealSideMenuOnTop = true
  expansion : vc.expansion = vc'.expansion
  shadowAlpha : vc.shadowAlpha = vc'.shadowAlpha
  collapseBlocks : vc.collapseBlocks = vc'.collapseBlocks

variable {vc vc' : MainViewController} {e : Event}

/-! ## The run without rotations -/

/-- Selecting a row dispatches one block that collapses the menu. -/
theorem selectedCell_collapseBlocks (vc : MainViewController) (row : ℕ) :
    (vc.selectedCell row).collapseBlocks = vc.collapseBlocks + 1 := by
  unfold selectedCell
  cases rowAction row with
  | showScreen storyboardId =>
    unfold showViewController
    cases vc.revealSideMenuOnTop <;> rfl
  | openSafari address => rfl
  | none => rfl

/-- Starting the same animation keeps the menus the same. -/
theorem SameButConstant.sideMenuState (h : vc.SameButConstant vc') (expanded : Bool) :
    (vc.sideMenuState expanded).SameButConstant (vc'.sideMenuState expanded) where
  onTop := (sideMenuState_revealSideMenuOnTop vc expanded).trans h.onTop
  onTop' := (sideMenuState_revealSideMenuOnTop vc' expanded).trans h.onTop'
  expansion := by rw [sideMenuState_expansion, sideMenuState_expansion, h.expansion]
  shadowAlpha := (sideMenuState_shows h.onTop).2.trans (sideMenuState_shows h.onTop').2.symm
  collapseBlocks := by
    rw [sideMenuState_collapseBlocks, sideMenuState_collapseBlocks, h.collapseBlocks]

/-- **Step.** No event but a gesture looks at the constraint. -/
theorem SameButConstant.step (h : vc.SameButConstant vc') (he : e.WithoutPan)
    (hrotate : e ≠ .rotate) : (vc.step e).SameButConstant (vc'.step e) := by
  have hexpanded : vc.isExpanded = vc'.isExpanded :=
    congrArg DelayedWrites.Register.current h.expansion
  cases e with
  | revealSideMenu =>
    simp only [MainViewController.step, revealSideMenu, hexpanded]
    exact h.sideMenuState _
  | tap =>
    simp only [MainViewController.step, tapGestureRecognizer, if_true, hexpanded]
    split_ifs
    · exact h.sideMenuState false
    · exact h
  | selectRow row =>
    obtain ⟨htop, -, -, -, hexpansion, -, halpha⟩ := selectedCell_menu h.onTop row
    obtain ⟨htop', -, -, -, hexpansion', -, halpha'⟩ := selectedCell_menu h.onTop' row
    refine ⟨htop, htop', ?_, ?_, ?_⟩
    · exact (hexpansion.trans h.expansion).trans hexpansion'.symm
    · exact (halpha.trans h.shadowAlpha).trans halpha'.symm
    · simp only [MainViewController.step, selectedCell_collapseBlocks, h.collapseBlocks]
  | collapseBlock =>
    simp only [MainViewController.step, h.collapseBlocks]
    cases vc'.collapseBlocks with
    | zero => exact h
    | succ n =>
      refine SameButConstant.sideMenuState ?_ false
      exact ⟨h.onTop, h.onTop', h.expansion, h.shadowAlpha, rfl⟩
  | completion =>
    exact ⟨h.onTop, h.onTop', congrArg DelayedWrites.Register.land h.expansion, h.shadowAlpha,
      h.collapseBlocks⟩
  | pan sender => exact he.elim
  | rotate => exact absurd rfl hrotate

/-- A rotation changes nothing but the constraint. -/
theorem SameButConstant.rotate (h : vc.SameButConstant vc') :
    (vc.step .rotate).SameButConstant vc' := by
  have hrotated : vc.step .rotate = _ := if_pos h.onTop
  rw [hrotated]
  exact ⟨h.onTop, h.onTop', h.expansion, h.shadowAlpha, h.collapseBlocks⟩

/-- **Run.** Neither do any number of rotations. -/
theorem SameButConstant.run (h : vc.SameButConstant vc') {events : List Event}
    (hevents : ∀ e ∈ events, e.WithoutPan) :
    (vc.run events).SameButConstant (vc'.run (events.filter fun e => e ≠ .rotate)) := by
  induction events generalizing vc vc' with
  | nil => exact h
  | cons e events ih =>
    have he := hevents e List.mem_cons_self
    have hrest : ∀ d ∈ events, d.WithoutPan := fun d hd => hevents d (List.mem_cons_of_mem e hd)
    by_cases hrotate : e = .rotate
    · rw [List.filter_cons_of_neg (by simpa using hrotate), hrotate]
      exact ih h.rotate hrest
    · rw [List.filter_cons_of_pos (by simpa using hrotate)]
      exact ih (h.step he hrotate) hrest

/-! ## What sets the constraint last -/

/-- The constant of the constraint at rest. -/
def restConstant (expanded : Bool) : ℚ :=
  if expanded then 0 else -(sideMenuRevealWidth + paddingForRotation)

/-- The two constants at rest differ. -/
theorem restConstant_injective : Function.Injective restConstant := by
  intro expanded expanded' h
  cases expanded <;> cases expanded' <;> first | rfl | exact absurd h (by decide +kernel)

/-- What an animation sets the constant to is what `isExpanded` will be. -/
theorem trailingConstant_sideMenuState (htop : vc.revealSideMenuOnTop = true) (expanded : Bool) :
    (vc.sideMenuState expanded).trailingConstant =
      restConstant (vc.sideMenuState expanded).expansion.eventual := by
  rw [sideMenuState_expansion, DelayedWrites.Register.eventual_write]
  exact (sideMenuState_shows htop).1

/-- So it is for every event that starts an animation. -/
theorem trailingConstant_of_startsAnimation (htop : vc.revealSideMenuOnTop = true)
    (hstarts : vc.StartsAnimation e) :
    (vc.step e).trailingConstant = restConstant (vc.step e).expansion.eventual := by
  cases e with
  | revealSideMenu => exact trailingConstant_sideMenuState htop _
  | tap =>
    have hexpanded : vc.isExpanded = true := hstarts
    simp only [step, tapGestureRecognizer, if_true, hexpanded]
    exact trailingConstant_sideMenuState htop false
  | collapseBlock =>
    obtain ⟨n, hn⟩ := Nat.exists_eq_succ_of_ne_zero hstarts
    simp only [step, hn]
    refine trailingConstant_sideMenuState ?_ false
    exact htop
  | selectRow | completion | pan | rotate => exact hstarts.elim

/-- A rotation sets the constant to what `isExpanded` is. -/
theorem step_rotate (htop : vc.revealSideMenuOnTop = true) :
    (vc.step .rotate).trailingConstant = restConstant vc.isExpanded ∧
      (vc.step .rotate).expansion = vc.expansion := by
  have hrotated : vc.step .rotate = _ := if_pos htop
  rw [hrotated, restConstant, neg_add, ← sub_eq_add_neg]
  exact ⟨rfl, rfl⟩

/-- Other events leave the constant, and what `isExpanded` will be. -/
theorem step_of_not_setsConstant (htop : vc.revealSideMenuOnTop = true) (he : e.WithoutPan)
    (hsets : ¬ vc.SetsConstant e) :
    (vc.step e).trailingConstant = vc.trailingConstant ∧
      (vc.step e).expansion.eventual = vc.expansion.eventual := by
  cases e with
  | revealSideMenu => exact absurd (Or.inr trivial) hsets
  | tap =>
    have hcollapsed : ¬ vc.isExpanded = true := fun h => hsets (Or.inr h)
    simp [step, tapGestureRecognizer, hcollapsed]
  | selectRow row =>
    obtain ⟨-, -, -, -, hexpansion, hconstant, -⟩ := selectedCell_menu htop row
    exact ⟨hconstant, congrArg DelayedWrites.Register.eventual hexpansion⟩
  | collapseBlock =>
    have hnone : vc.collapseBlocks = 0 := not_not.mp fun h => hsets (Or.inr h)
    simp [step, hnone]
  | completion => exact ⟨rfl, DelayedWrites.Register.eventual_land _⟩
  | pan sender => exact he.elim
  | rotate => exact absurd (Or.inl rfl) hsets

/-- The last event of a run that sets the constant is not a rotation during an animation. -/
def LastInStep (events : List Event) : Prop :=
  Runs.LastSatisfies (fun earlier e => ((viewDidLoad true true).run earlier).SetsConstant e)
    (fun earlier e => e = .rotate →
      ((viewDidLoad true true).run earlier).isExpanded =
        ((viewDidLoad true true).run earlier).expansion.eventual) events

/-- The beginning of a run with rotations and the run without them. -/
theorem sameButConstant_viewDidLoad :
    (viewDidLoad true true).SameButConstant (viewDidLoad true true) :=
  ⟨rfl, rfl, rfl, rfl, rfl⟩

/-- **Run.** The constant is what `isExpanded` will be as long as the last event that set it
was in step. -/
theorem trailingConstant_run_iff {events : List Event} (hevents : ∀ e ∈ events, e.WithoutPan) :
    ((viewDidLoad true true).run events).trailingConstant =
        restConstant ((viewDidLoad true true).run events).expansion.eventual ↔
      LastInStep events := by
  induction events using List.reverseRecOn with
  | nil => exact iff_of_true (sound_viewDidLoad.shows rfl).1 Runs.lastSatisfies_nil
  | append_singleton events e ih =>
    have hbefore : ∀ d ∈ events, d.WithoutPan := fun d hd =>
      hevents d (List.mem_append_left _ hd)
    have htop := (sameButConstant_viewDidLoad.run hbefore).onTop
    have hold := ih hbefore
    rw [run_concat, LastInStep]
    by_cases hsets : ((viewDidLoad true true).run events).SetsConstant e
    · rw [Runs.lastSatisfies_concat_of_selects hsets]
      rcases hsets with rfl | hstarts
      · obtain ⟨hconstant, hexpansion⟩ := step_rotate htop
        rw [hconstant, hexpansion, restConstant_injective.eq_iff]
        exact ⟨fun h _ => h, fun h => h rfl⟩
      · refine iff_of_true (trailingConstant_of_startsAnimation htop hstarts) fun hrotate => ?_
        rw [hrotate] at hstarts
        exact hstarts.elim
    · obtain ⟨hconstant, heventual⟩ :=
        step_of_not_setsConstant htop (hevents e (by simp)) hsets
      rw [Runs.lastSatisfies_concat_of_not_selects hsets, hconstant, heventual]
      exact hold

/-- Without rotations it always was. -/
theorem lastInStep_filter (events : List Event) :
    LastInStep (events.filter fun e => e ≠ .rotate) := by
  intro earlier e later heq _ _ hrotate
  have hmem : e ∈ events.filter fun e => e ≠ .rotate := by
    rw [heq]
    simp
  simp [hrotate] at hmem

/-- **Transparent rotations.** A run of menu buttons, taps, row selections and rotations shows
the menu as the run without the rotations does, exactly if the last event that sets the
constraint is not a rotation before the completion of an animation that changes `isExpanded`. -/
theorem rotation_transparent_iff (events : List Event) (hevents : ∀ e ∈ events, e.WithoutPan) :
    ((viewDidLoad true true).run events).menuState =
        ((viewDidLoad true true).run (events.filter fun e => e ≠ .rotate)).menuState ↔
      LastInStep events := by
  have hsame := sameButConstant_viewDidLoad.run hevents
  have hfiltered : ∀ e ∈ events.filter fun e => e ≠ .rotate, e.WithoutPan := fun e he =>
    hevents e (List.mem_of_mem_filter he)
  have hconstant := (trailingConstant_run_iff hfiltered).mpr (lastInStep_filter events)
  have hexpanded : ((viewDidLoad true true).run events).isExpanded =
      ((viewDidLoad true true).run (events.filter fun e => e ≠ .rotate)).isExpanded :=
    congrArg DelayedWrites.Register.current hsame.expansion
  rw [← trailingConstant_run_iff hevents, hsame.expansion, ← hconstant]
  unfold menuState
  rw [Prod.mk.injEq, Prod.mk.injEq]
  exact ⟨fun h => h.2.1, fun h => ⟨hexpanded, h, hsame.shadowAlpha⟩⟩

/-- A rotation while the menu expands, and one after it has. -/
theorem rotation_after_expansion :
    let events : List Event :=
      [.revealSideMenu, .rotate, .completion, .rotate]
    ((viewDidLoad true true).run events).menuState =
      ((viewDidLoad true true).run (events.filter fun e => e ≠ .rotate)).menuState := by
  have hlast : LastInStep ([.revealSideMenu, .rotate, .completion] ++ [.rotate]) := by
    unfold LastInStep
    rw [Runs.lastSatisfies_concat_of_selects (Or.inl rfl)]
    exact fun _ => rfl
  exact (rotation_transparent_iff _ (by simp [Event.WithoutPan])).mpr hlast

/-- A rotation while the menu expands leaves it out of sight, although it is expanded. -/
theorem rotation_hides_menu :
    let events : List Event := [.revealSideMenu, .rotate, .completion]
    (∀ e ∈ events, e.WithoutPan) ∧ ((viewDidLoad true true).run events).AtRest ∧
      ((viewDidLoad true true).run events).menuState ≠
        ((viewDidLoad true true).run (events.filter fun e => e ≠ .rotate)).menuState := by
  refine ⟨by simp [Event.WithoutPan], ⟨rfl, rfl, rfl⟩, ?_⟩
  decide +kernel

end MainViewController

end JazzOnTheMove.IOS
