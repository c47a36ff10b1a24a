import JazzOnTheMove.IOS.MainViewController
import JazzOnTheMove.Library.Runs

/-!
# Content controllers that stay contained

Showing a screen removes the previous screen's view and adds the new screen's
controller to the children. The previous controller is not removed, so the view
hierarchy holds the last screen shown and the controller hierarchy all of them.
-/

namespace JazzOnTheMove.IOS

namespace MainViewController

/-- The subviews tagged 99. -/
def tagged (subviews : List Subview) : List Subview :=
  subviews.filter fun subview => subview.tag = 99

/-- Besides the side menu there is one content controller, and its view is the only subview
tagged 99. -/
def OneContent (vc : MainViewController) : Prop :=
  ∃ storyboardId, vc.children.Perm [.sideMenu, .content storyboardId] ∧
    tagged vc.subviews = [.of (.content storyboardId)]

/-- The screen that an event shows. -/
def Event.screen : Event → Option String
  | .selectRow row =>
      match rowAction row with
      | .showScreen storyboardId => some storyboardId
      | _ => none
  | _ => none

/-- The screens shown in a run, the first one by `viewDidLoad`. -/
def screensShown (events : List Event) : List String :=
  "HomeNavID" :: events.filterMap Event.screen

/-- An event adds the screen that it shows. -/
theorem screensShown_concat (events : List Event) (e : Event) :
    screensShown (events ++ [e]) = screensShown events ++ e.screen.toList := by
  cases hscreen : e.screen <;> simp [screensShown, hscreen]

/-- The first six rows show a screen. -/
theorem screen_selectRow_eq_none_iff (row : ℕ) :
    (Event.selectRow row).screen = none ↔ 6 ≤ row := by
  match row with
  | 0 | 1 | 2 | 3 | 4 | 5 => simp [Event.screen, rowAction]
  | n + 6 =>
    have hother : ∀ storyboardId, rowAction (n + 6) ≠ .showScreen storyboardId := by
      intro storyboardId
      unfold rowAction
      split <;> first | omega | simp
    unfold Event.screen
    cases haction : rowAction (n + 6) with
    | showScreen storyboardId => exact absurd haction (hother storyboardId)
    | openSafari | none => simp [haction]

variable {vc : MainViewController}

/-! ## The two hierarchies -/

/-- The end of a gesture adds and removes no views. -/
theorem panEnded_hierarchies (vc : MainViewController) :
    vc.panEnded.children = vc.children ∧ vc.panEnded.subviews = vc.subviews := by
  unfold panEnded
  cases vc.revealSideMenuOnTop <;> simp

/-- A dragged menu only changes its place and its shadow. -/
theorem panChanged_hierarchies (vc : MainViewController) (sender : PanGesture) :
    (vc.panChanged sender).1.children = vc.children ∧
      (vc.panChanged sender).1.subviews = vc.subviews := by
  simp only [panChanged]
  split_ifs <;> exact ⟨rfl, rfl⟩

/-- A drag begins with at most an animation. -/
theorem dragBegan_hierarchies (vc : MainViewController) (velocity : ℚ) :
    (vc.dragBegan velocity).children = vc.children ∧
      (vc.dragBegan velocity).subviews = vc.subviews := by
  simp only [dragBegan]
  split_ifs <;> simp

/-- So does a gesture, which may enable dragging first. -/
theorem panBegan_hierarchies (vc : MainViewController) (sender : PanGesture) :
    (vc.panBegan sender).1.children = vc.children ∧
      (vc.panBegan sender).1.subviews = vc.subviews := by
  have hdrag := dragBegan_hierarchies { vc with draggingIsEnabled := true } sender.velocity
  have hkept := dragBegan_hierarchies vc sender.velocity
  simp only [panBegan]
  split_ifs <;> first | exact hdrag | exact hkept | exact ⟨rfl, rfl⟩

/-- A gesture moves views, and adds or removes none. -/
theorem handlePanGesture_hierarchies (vc : MainViewController) (sender : PanGesture) :
    (vc.handlePanGesture sender).1.children = vc.children ∧
      (vc.handlePanGesture sender).1.subviews = vc.subviews := by
  unfold handlePanGesture
  by_cases hgestures : vc.gestureEnabled = true
  · rw [if_pos hgestures]
    cases sender.state with
    | began => exact panBegan_hierarchies vc sender
    | changed => exact panChanged_hierarchies vc sender
    | ended => exact panEnded_hierarchies vc
    | possible | cancelled | failed => exact ⟨rfl, rfl⟩
  · rw [if_neg hgestures]
    exact ⟨rfl, rfl⟩

/-- A view inserted where no view is tagged is the only one. -/
private theorem tagged_insertSubview {subviews : List Subview} {view : Subview}
    (htag : view.tag = 99) (hnone : tagged subviews = []) (index : ℕ) :
    tagged (insertSubview subviews view index) = [view] := by
  unfold tagged at *
  rw [← List.take_append_drop index subviews, List.filter_append, List.append_eq_nil_iff] at hnone
  simp [insertSubview, hnone, htag]

/-- The shadow view is not tagged. -/
private theorem tagged_filter_ne_shadow (subviews : List Subview) :
    tagged (subviews.filter fun subview => subview ≠ Subview.shadow) = tagged subviews := by
  unfold tagged
  rw [List.filter_filter]
  refine List.filter_congr fun subview _ => ?_
  cases subview <;> simp [Subview.tag]

/-- Showing a screen adds its controller to the children. -/
theorem showViewController_children (vc : MainViewController) (storyboardId : String) :
    (vc.showViewController storyboardId).children = vc.children ++ [.content storyboardId] := by
  unfold showViewController
  cases vc.revealSideMenuOnTop <;> rfl

/-- It replaces the views tagged 99 by the screen's. -/
theorem showViewController_tagged (vc : MainViewController) (storyboardId : String) :
    tagged (vc.showViewController storyboardId).subviews = [.of (.content storyboardId)] := by
  have hremoved : tagged (vc.subviews.filter fun subview => subview.tag ≠ 99) = [] := by
    simp [tagged, List.filter_filter]
  have htag : (Subview.of (.content storyboardId)).tag = 99 := rfl
  have hinserted := tagged_insertSubview htag hremoved
  unfold showViewController
  cases vc.revealSideMenuOnTop with
  | true => exact hinserted 0
  | false => exact (tagged_filter_ne_shadow _).trans (hinserted 1)

/-- A row that shows no screen keeps the children and the subviews. -/
theorem selectedCell_of_screen_eq_none {row : ℕ} (hscreen : (Event.selectRow row).screen = none) :
    (vc.selectedCell row).children = vc.children ∧
      (vc.selectedCell row).subviews = vc.subviews := by
  unfold Event.screen at hscreen
  unfold selectedCell
  cases haction : rowAction row with
  | showScreen storyboardId => simp [haction] at hscreen
  | openSafari address => exact ⟨rfl, rfl⟩
  | none => exact ⟨rfl, rfl⟩

/-- A row that shows a screen adds its controller and replaces the view tagged 99. -/
theorem selectedCell_of_screen_eq_some {row : ℕ} {storyboardId : String}
    (hscreen : (Event.selectRow row).screen = some storyboardId) :
    (vc.selectedCell row).children = vc.children ++ [.content storyboardId] ∧
      tagged (vc.selectedCell row).subviews = [.of (.content storyboardId)] := by
  unfold Event.screen at hscreen
  unfold selectedCell
  cases haction : rowAction row with
  | showScreen shown =>
    obtain rfl : shown = storyboardId := by simpa [haction] using hscreen
    exact ⟨showViewController_children vc shown, showViewController_tagged vc shown⟩
  | openSafari address => simp [haction] at hscreen
  | none => simp [haction] at hscreen

/-- An event that shows no screen keeps the children and the subviews. -/
theorem step_of_screen_eq_none {e : Event} (hscreen : e.screen = none) :
    (vc.step e).children = vc.children ∧ (vc.step e).subviews = vc.subviews := by
  cases e with
  | revealSideMenu => exact ⟨sideMenuState_children _ _, sideMenuState_subviews _ _⟩
  | tap =>
    simp only [step, tapGestureRecognizer, if_true]
    split_ifs <;> simp
  | selectRow row => exact selectedCell_of_screen_eq_none hscreen
  | collapseBlock =>
    simp only [step]
    cases vc.collapseBlocks <;> simp
  | completion => exact ⟨rfl, rfl⟩
  | pan sender =>
    have hgesture := handlePanGesture_hierarchies vc sender
    simp only [step]
    cases sender.state <;> cases vc.panActive <;> first | exact hgesture | exact ⟨rfl, rfl⟩
  | rotate =>
    simp only [step, viewWillTransition]
    split_ifs <;> exact ⟨rfl, rfl⟩

/-- An event that shows a screen adds its controller and replaces the view tagged 99. -/
theorem step_of_screen_eq_some {e : Event} {storyboardId : String}
    (hscreen : e.screen = some storyboardId) :
    (vc.step e).children = vc.children ++ [.content storyboardId] ∧
      tagged (vc.step e).subviews = [.of (.content storyboardId)] := by
  cases e with
  | selectRow row => exact selectedCell_of_screen_eq_some hscreen
  | revealSideMenu | tap | collapseBlock | completion | pan | rotate => cases hscreen

/-! ## Runs -/

variable {revealSideMenuOnTop gestureEnabled : Bool}

/-- **Run.** All screens shown stay contained, and the last one is the only view tagged 99. -/
theorem run_hierarchies (events : List Event) :
    ((viewDidLoad revealSideMenuOnTop gestureEnabled).run events).children =
        .sideMenu :: (screensShown events).map Controller.content ∧
      ∃ storyboardId ∈ (screensShown events).getLast?,
        tagged ((viewDidLoad revealSideMenuOnTop gestureEnabled).run events).subviews =
          [.of (.content storyboardId)] := by
  induction events using List.reverseRecOn with
  | nil =>
    exact ⟨showViewController_children _ _, "HomeNavID", rfl, showViewController_tagged _ _⟩
  | append_singleton events e ih =>
    obtain ⟨hchildren, last, hlast, htagged⟩ := ih
    rw [screensShown_concat, run_concat]
    cases hscreen : e.screen with
    | none =>
      obtain ⟨hsame, hviews⟩ := step_of_screen_eq_none hscreen
      rw [hsame, hviews]
      refine ⟨by simpa using hchildren, last, by simpa using hlast, htagged⟩
    | some storyboardId =>
      obtain ⟨hadded, hview⟩ := step_of_screen_eq_some hscreen
      rw [hadded, hchildren]
      exact ⟨by simp, storyboardId, by simp, hview⟩

/-- There is one content controller as long as no screen was shown but the first. -/
theorem oneContent_run_iff (events : List Event) :
    ((viewDidLoad revealSideMenuOnTop gestureEnabled).run events).OneContent ↔
      events.filterMap Event.screen = [] := by
  obtain ⟨hchildren, last, hlast, htagged⟩ := run_hierarchies events
  unfold OneContent
  rw [hchildren]
  constructor
  · rintro ⟨_, hperm, _⟩
    have hlength := hperm.length_eq
    simpa [screensShown] using hlength
  · intro hnone
    simp only [screensShown, hnone] at hlast ⊢
    obtain rfl : "HomeNavID" = last := by simpa using hlast
    exact ⟨"HomeNavID", List.Perm.refl _, htagged⟩

/-- **One content controller at a time.** After `viewDidLoad` and after every event of a run
there is one content controller, exactly if no row is selected that shows a screen. -/
theorem one_content_iff (revealSideMenuOnTop gestureEnabled : Bool) (events : List Event) :
    (viewDidLoad revealSideMenuOnTop gestureEnabled).OneContent ∧
        Runs.AfterEach step (fun vc _ => vc.OneContent)
          (viewDidLoad revealSideMenuOnTop gestureEnabled) events ↔
      ∀ row, Event.selectRow row ∈ events → 6 ≤ row := by
  have hstart : (viewDidLoad revealSideMenuOnTop gestureEnabled).OneContent :=
    (oneContent_run_iff []).mpr rfl
  rw [and_iff_right hstart]
  constructor
  · intro h row hrow
    obtain ⟨earlier, later, rfl⟩ := List.append_of_mem hrow
    have hone := h earlier (.selectRow row) ⟨later, by simp⟩
    have hnone := (oneContent_run_iff _).mp hone
    rw [List.filterMap_eq_nil_iff] at hnone
    exact (screen_selectRow_eq_none_iff row).mp (hnone _ (by simp))
  · intro h earlier e hpre
    refine (oneContent_run_iff _).mpr (List.filterMap_eq_nil_iff.mpr fun d hd => ?_)
    cases d with
    | selectRow row => exact (screen_selectRow_eq_none_iff row).mpr (h row (hpre.subset hd))
    | revealSideMenu | tap | collapseBlock | completion | pan | rotate => rfl

/-- The coffee screen is selected: the home screen's controller stays. -/
theorem home_stays_contained :
    ¬ ((viewDidLoad true true).OneContent ∧
      Runs.AfterEach step (fun vc _ => vc.OneContent) (viewDidLoad true true) [.selectRow 2]) := by
  rintro ⟨-, h⟩
  obtain ⟨_, hperm, -⟩ := h [] (.selectRow 2) (by simp)
  have hlength : 3 = 2 := hperm.length_eq
  omega

end MainViewController

end JazzOnTheMove.IOS
