import JazzOnTheMove.IOS.ContentControllers

/-!
# The highlighted row of the side menu

The side menu hands every row that is tapped to the main view controller. Its table keeps the
row highlighted, whether it shows a screen, a web page or nothing, except for two rows, one of
which shows a screen. So the row of the screen in sight is highlighted only after some taps.
-/

namespace JazzOnTheMove.IOS

open MainViewController (rowAction tagged)

/-- `SideMenuModel`. -/
structure SideMenuModel where
  icon : String
  title : String
  deriving DecidableEq, Repr

/-- `SideMenuViewController`. -/
structure SideMenuViewController where
  /-- `indexPathForSelectedRow` of the table. -/
  selectedRow : Option ℕ
  deriving DecidableEq, Repr

namespace SideMenuViewController

/-- `defaultHighlightedCell`, which the main view controller sets to the same value. -/
def defaultHighlightedCell : ℕ := 0

/-- `menu`, which is never assigned. -/
def menu : List SideMenuModel := [
  ⟨"ic_home", "Home"⟩, ⟨"ic_wine", "Wine And Whiskey"⟩, ⟨"coffee_beans", "Coffee"⟩,
  ⟨"passport", "Travel"⟩, ⟨"confetti", "Events"⟩, ⟨"balloons", "Lifestyle"⟩, ⟨"ad", "Other"⟩,
  ⟨"onair", "On Air"⟩, ⟨"facebook", "Facebook"⟩, ⟨"twitter", "Twitter"⟩,
  ⟨"instagram", "Instagram"⟩]

/-- `tableView(_:numberOfRowsInSection:)`. -/
def numberOfRowsInSection : ℕ := menu.length

/-- `selectRow(at:animated:scrollPosition:)` of the table, which selects one row at most. -/
def selectRow (vc : SideMenuViewController) (row : ℕ) : SideMenuViewController :=
  { vc with selectedRow := some row }

/-- `deselectRow(at:animated:)` of the table. -/
def deselectRow (vc : SideMenuViewController) (row : ℕ) : SideMenuViewController :=
  if vc.selectedRow = some row then { vc with selectedRow := none } else vc

/-- The controller after `viewDidLoad()` and its block. -/
def viewDidLoad : SideMenuViewController := selectRow ⟨none⟩ defaultHighlightedCell

end SideMenuViewController

/-- The main view controller and its side menu. -/
structure MenuScreen where
  main : MainViewController
  sideMenu : SideMenuViewController

namespace MenuScreen

/-- Both controllers as the user first sees them. -/
def viewDidLoad (revealSideMenuOnTop gestureEnabled : Bool) : MenuScreen :=
  ⟨.viewDidLoad revealSideMenuOnTop gestureEnabled, .viewDidLoad⟩

/-- `tableView(_:didSelectRowAt:)` for a row that was tapped, which the table has selected. -/
def didSelectRowAt (s : MenuScreen) (row : ℕ) : MenuScreen :=
  let s := { s with main := s.main.selectedCell row, sideMenu := s.sideMenu.selectRow row }
  -- meant for the rows "Profile" and "Like us on facebook", which this menu does not have
  if row = 4 || row = 6 then { s with sideMenu := s.sideMenu.deselectRow row } else s

/-- One event, where rows are selected by taps in the table. -/
def step (s : MenuScreen) : MainViewController.Event → MenuScreen
  | .selectRow row =>
      if row < SideMenuViewController.numberOfRowsInSection then s.didSelectRowAt row else s
  | e => { s with main := s.main.step e }

/-- A finite run. -/
def run (s : MenuScreen) (events : List MainViewController.Event) : MenuScreen :=
  events.foldl step s

/-- The row that an event taps. -/
def tappedRow : MainViewController.Event → Option ℕ
  | .selectRow row =>
      if row < SideMenuViewController.numberOfRowsInSection then some row else none
  | _ => none

/-- The highlighted row is that of the screen in sight. -/
def HighlightAgrees (s : MenuScreen) : Prop :=
  ∃ row storyboardId, s.sideMenu.selectedRow = some row ∧
    rowAction row = .showScreen storyboardId ∧
      tagged s.main.subviews = [.of (.content storyboardId)]

variable {s : MenuScreen}

/-- An event that taps no row changes neither the highlighted row nor the screen in sight. -/
theorem step_of_tappedRow_eq_none {e : MainViewController.Event} (he : tappedRow e = none) :
    (s.step e).HighlightAgrees ↔ s.HighlightAgrees := by
  have hother : ∀ {d : MainViewController.Event}, d.screen = none →
      (MenuScreen.HighlightAgrees { s with main := s.main.step d } ↔ s.HighlightAgrees) := by
    intro d hscreen
    unfold HighlightAgrees
    rw [(MainViewController.step_of_screen_eq_none hscreen).2]
  cases e with
  | selectRow row =>
    have hbeyond : ¬ row < SideMenuViewController.numberOfRowsInSection := by
      intro hrow
      simp [tappedRow, hrow] at he
    simp only [step, if_neg hbeyond]
  | revealSideMenu | tap | collapseBlock | completion | pan | rotate => exact hother rfl

/-- A row whose screen is shown is highlighted afterwards, unless it is the one that the table
deselects. -/
theorem highlightAgrees_didSelectRowAt {row : ℕ} :
    (s.didSelectRowAt row).HighlightAgrees ↔ row ∈ [0, 1, 2, 3, 5] := by
  have hscreen := MainViewController.screen_selectRow_eq_none_iff row
  have hselected : (s.didSelectRowAt row).sideMenu.selectedRow =
      if row = 4 ∨ row = 6 then none else some row := by
    unfold didSelectRowAt SideMenuViewController.deselectRow SideMenuViewController.selectRow
    by_cases hdeselected : row = 4 ∨ row = 6 <;> simp [hdeselected]
  have hmain : (s.didSelectRowAt row).main = s.main.selectedCell row := by
    unfold didSelectRowAt
    split_ifs <;> rfl
  unfold HighlightAgrees
  rw [hselected, hmain]
  constructor
  · rintro ⟨shown, storyboardId, hshown, haction, -⟩
    split_ifs at hshown with hdeselected
    obtain rfl := Option.some.inj hshown
    have hsix : row < 6 := by
      by_contra hbeyond
      have hnone := hscreen.mpr (Nat.le_of_not_lt hbeyond)
      simp [MainViewController.Event.screen, haction] at hnone
    simp only [List.mem_cons, List.not_mem_nil, or_false]
    omega
  · intro hrow
    simp only [List.mem_cons, List.not_mem_nil, or_false] at hrow
    have hsome : (MainViewController.Event.selectRow row).screen ≠ none := by
      rw [ne_eq, hscreen]
      omega
    obtain ⟨storyboardId, hstoryboardId⟩ := Option.ne_none_iff_exists'.mp hsome
    refine ⟨row, storyboardId, if_neg (by omega), ?_,
      (MainViewController.selectedCell_of_screen_eq_some hstoryboardId).2⟩
    unfold MainViewController.Event.screen at hstoryboardId
    cases haction : rowAction row with
    | showScreen shown => simpa [haction] using hstoryboardId
    | openSafari address => simp [haction] at hstoryboardId
    | none => simp [haction] at hstoryboardId

/-- **Highlight.** After any run, with the menu dragged, animated and rotated in between, the
highlighted row is that of the screen in sight exactly if the last row that was tapped, if
there is one, is that of a screen other than the events. -/
theorem highlight_agrees_iff (revealSideMenuOnTop gestureEnabled : Bool)
    (events : List MainViewController.Event) :
    ((viewDidLoad revealSideMenuOnTop gestureEnabled).run events).HighlightAgrees ↔
      Runs.AtLast tappedRow (fun _ row => row ∈ [0, 1, 2, 3, 5]) events := by
  induction events using List.reverseRecOn with
  | nil =>
    exact iff_of_true
      ⟨0, "HomeNavID", rfl, rfl, MainViewController.showViewController_tagged _ _⟩ Runs.atLast_nil
  | append_singleton events e ih =>
    have hrun : (viewDidLoad revealSideMenuOnTop gestureEnabled).run (events ++ [e]) =
        ((viewDidLoad revealSideMenuOnTop gestureEnabled).run events).step e :=
      List.foldl_concat ..
    rw [hrun]
    cases htapped : tappedRow e with
    | none => rw [Runs.atLast_concat_of_none htapped, step_of_tappedRow_eq_none htapped, ih]
    | some row =>
      rw [Runs.atLast_concat_of_some htapped]
      cases e with
      | selectRow tapped =>
        obtain ⟨hrow, rfl⟩ : tapped < SideMenuViewController.numberOfRowsInSection ∧
            tapped = row := by simpa [tappedRow] using htapped
        simp only [step, if_pos hrow]
        exact highlightAgrees_didSelectRowAt
      | revealSideMenu | tap | collapseBlock | completion | pan | rotate => cases htapped

end MenuScreen

end JazzOnTheMove.IOS
