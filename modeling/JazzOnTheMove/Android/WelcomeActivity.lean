import JazzOnTheMove.Android.EditProfileActivity

/-!
# The onboarding of the Android app

`WelcomeActivity` shows four pages at the first launch. Its button leads to the next page,
and from the last one to the main screen; a second button skips the pages. At later
launches the activity only forwards to the main screen.
-/

namespace JazzOnTheMove.Android

/-- `layouts`, by their names. -/
def layouts : List String :=
  ["welcome_slide1", "welcome_slide2", "welcome_slide3", "welcome_slide4"]

/-- A page of the view pager. -/
abbrev WelcomePage := Fin layouts.length

/-- There are pages. -/
theorem layouts_length_pos : 0 < layouts.length := by decide

/-- The first page. -/
def firstPage : WelcomePage := ⟨0, layouts_length_pos⟩

/-- `R.array.array_dot_active`. -/
def arrayDotActive : List String := ["#f98da5", "#8cf9eb", "#93c6fd", "#e4b5fc"]

/-- `R.array.array_dot_inactive`. -/
def arrayDotInactive : List String := ["#d1395c", "#14a895", "#2278d4", "#a854d4"]

/-- `WelcomeActivity`. -/
structure WelcomeActivity where
  session : Session
  /-- The current item of the view pager. -/
  currentItem : WelcomePage
  /-- The colors of the dots. -/
  dots : List String
  btnNext : String
  btnSkipVisible : Bool
  /-- How often the main screen was started. -/
  started : ℕ
  finished : Bool
  deriving DecidableEq, Repr

namespace WelcomeActivity

/-- `addBottomDots(currentPage)`. -/
def addBottomDots (a : WelcomeActivity) (currentPage : WelcomePage) : WelcomeActivity :=
  let colorsActive := arrayDotActive.get (currentPage.cast rfl)
  let colorsInactive := arrayDotInactive.get (currentPage.cast rfl)
  { a with dots := (List.replicate layouts.length colorsInactive).set currentPage colorsActive }

/-- `launchHomeScreen()`. -/
def launchHomeScreen (a : WelcomeActivity) : WelcomeActivity := {
  a with
  session.firstTimeLaunch := false
  started := a.started + 1
  finished := true }

/-- `onPageSelected(position)`. -/
def onPageSelected (a : WelcomeActivity) (position : WelcomePage) : WelcomeActivity :=
  let a := a.addBottomDots position
  if position.val = layouts.length - 1 then { a with btnNext := "GOT IT", btnSkipVisible := false }
  else { a with btnNext := "Next", btnSkipVisible := true }

/-- `setCurrentItem(item)`, which tells the listener of a new page. -/
def setCurrentItem (a : WelcomeActivity) (item : WelcomePage) : WelcomeActivity :=
  if item = a.currentItem then a else { a with currentItem := item }.onPageSelected item

/-- `onCreate(savedInstanceState)`, which builds the pages even if it forwards. -/
def onCreate (session : Session) : WelcomeActivity :=
  let a : WelcomeActivity := {
    session := session
    currentItem := firstPage
    dots := []
    btnNext := "Next"
    btnSkipVisible := true
    started := 0
    finished := false }
  let a :=
    if !session.firstTimeLaunch then
      if !session.loggedIn then a.launchHomeScreen
      else { a with session := ⟨false, false⟩, started := a.started + 1, finished := true }
    else a
  a.addBottomDots firstPage

/-- The listener of `btnSkip`. -/
def btnSkipOnClick (a : WelcomeActivity) : WelcomeActivity := a.launchHomeScreen

/-- The listener of `btnNext`. -/
def btnNextOnClick (a : WelcomeActivity) : WelcomeActivity :=
  let current := a.currentItem.val + 1
  if h : current < layouts.length then a.setCurrentItem ⟨current, h⟩ else a.launchHomeScreen

/-- What the user does. -/
inductive Input where
  | next
  | skip
  | swipe (page : WelcomePage)
  deriving DecidableEq, Repr

/-- An input, which a finished activity no longer receives; a hidden button is not clicked. -/
def input (a : WelcomeActivity) (e : Input) : WelcomeActivity :=
  if a.finished then a
  else
    match e with
    | .next => a.btnNextOnClick
    | .skip => if a.btnSkipVisible then a.btnSkipOnClick else a
    | .swipe page => a.setCurrentItem page

/-! ## What the pages show -/

/-- The dots and the buttons are those of the current page. -/
structure Shows (a : WelcomeActivity) : Prop where
  /-- One dot a page, the current one in its active color. -/
  dots (i : WelcomePage) : a.dots[i.val]? = some
    (if i = a.currentItem then arrayDotActive.get (a.currentItem.cast rfl)
    else arrayDotInactive.get (a.currentItem.cast rfl))
  count : a.dots.length = layouts.length
  btnNext : a.btnNext = if a.currentItem.val = layouts.length - 1 then "GOT IT" else "Next"
  btnSkip : a.btnSkipVisible = decide (a.currentItem.val ≠ layouts.length - 1)

/-- The onboarding as the user sees it. -/
structure Running (a : WelcomeActivity) : Prop extends Shows a where
  session : a.session.firstTimeLaunch = true
  started : a.started = 0
  finished : a.finished = false

/-- The activity has started the main screen once, and will not show its pages again. -/
structure Over (a : WelcomeActivity) : Prop where
  session : a.session.firstTimeLaunch = false
  started : a.started = 1
  finished : a.finished = true

variable {a : WelcomeActivity}

/-- The dots of a page. -/
theorem getElem?_addBottomDots (a : WelcomeActivity) (page i : WelcomePage) :
    (a.addBottomDots page).dots[i.val]? = some
      (if i = page then arrayDotActive.get (page.cast rfl)
      else arrayDotInactive.get (page.cast rfl)) := by
  have hi : i.val < layouts.length := i.isLt
  unfold addBottomDots
  simp only [List.getElem?_set, List.length_replicate, List.getElem?_replicate, hi, if_true,
    page.isLt, Fin.ext_iff, eq_comm (a := i.val)]
  split_ifs <;> rfl

/-- Selecting a page shows its dots and buttons. -/
theorem shows_onPageSelected (a : WelcomeActivity) (page : WelcomePage) :
    Shows ({ a with currentItem := page }.onPageSelected page) := by
  have hdots := getElem?_addBottomDots { a with currentItem := page } page
  have hcount : ({ a with currentItem := page }.addBottomDots page).dots.length =
      layouts.length := by simp [addBottomDots]
  unfold onPageSelected
  by_cases hlast : page.val = layouts.length - 1
  · rw [if_pos hlast]
    exact ⟨hdots, hcount, (if_pos hlast).symm, (decide_eq_false (not_not.mpr hlast)).symm⟩
  · rw [if_neg hlast]
    exact ⟨hdots, hcount, (if_neg hlast).symm, (decide_eq_true hlast).symm⟩

/-- Selecting a page leaves the rest of the activity as it is. -/
theorem onPageSelected_rest (a : WelcomeActivity) (page : WelcomePage) :
    (a.onPageSelected page).session = a.session ∧ (a.onPageSelected page).started = a.started ∧
      (a.onPageSelected page).finished = a.finished ∧
      (a.onPageSelected page).currentItem = a.currentItem := by
  unfold onPageSelected
  split_ifs <;> exact ⟨rfl, rfl, rfl, rfl⟩

/-- Moving to a page leaves the flags alone. -/
theorem setCurrentItem_session (a : WelcomeActivity) (page : WelcomePage) :
    (a.setCurrentItem page).session = a.session := by
  unfold setCurrentItem
  split_ifs
  · rfl
  · exact (onPageSelected_rest { a with currentItem := page } page).1

/-- Moving to a page keeps the onboarding running. -/
theorem Running.setCurrentItem (ha : a.Running) (page : WelcomePage) :
    (a.setCurrentItem page).Running := by
  unfold WelcomeActivity.setCurrentItem
  split_ifs
  · exact ha
  · obtain ⟨hsession, hstarted, hfinished, -⟩ :=
      onPageSelected_rest { a with currentItem := page } page
    have hfirst : ({ a with currentItem := page }.onPageSelected page).session.firstTimeLaunch =
        true := (congrArg Session.firstTimeLaunch hsession).trans ha.session
    exact ⟨shows_onPageSelected a page, hfirst, hstarted.trans ha.started,
      hfinished.trans ha.finished⟩

/-- Launching the main screen ends the onboarding. -/
theorem Running.launchHomeScreen (ha : a.Running) : a.launchHomeScreen.Over :=
  ⟨rfl, by rw [WelcomeActivity.launchHomeScreen, ha.started], rfl⟩

/-- **Input.** The button of the last page and the skip button end the onboarding; anything
else keeps it running. -/
theorem Running.input (ha : a.Running) (e : Input) :
    if e = .next ∧ a.currentItem.val = layouts.length - 1 ∨
        e = .skip ∧ a.currentItem.val ≠ layouts.length - 1 then (a.input e).Over
    else (a.input e).Running := by
  have hlt := a.currentItem.isLt
  unfold WelcomeActivity.input
  rw [ha.finished]
  cases e with
  | next =>
    simp only [reduceCtorEq, false_and, or_false, true_and, Bool.false_eq_true, if_false]
    unfold btnNextOnClick
    by_cases hlast : a.currentItem.val = layouts.length - 1
    · rw [if_pos hlast, dif_neg (by omega)]
      exact ha.launchHomeScreen
    · rw [if_neg hlast, dif_pos (by omega)]
      exact ha.setCurrentItem _
  | skip =>
    simp only [reduceCtorEq, false_and, false_or, true_and, Bool.false_eq_true, if_false,
      ha.btnSkip, decide_eq_true_eq]
    by_cases hlast : a.currentItem.val = layouts.length - 1
    · rw [if_neg (not_not.mpr hlast), if_neg (not_not.mpr hlast)]
      exact ha
    · rw [if_pos hlast, if_pos hlast]
      exact ha.launchHomeScreen
  | swipe page =>
    simp only [reduceCtorEq, false_and, or_self, Bool.false_eq_true, if_false]
    exact ha.setCurrentItem page

/-- The activity shows its pages if the app was not launched before, and else forwards. -/
theorem onCreate_running_or_over (session : Session) :
    if session.firstTimeLaunch then (onCreate session).Running else (onCreate session).Over := by
  obtain ⟨firstTimeLaunch, loggedIn⟩ := session
  cases firstTimeLaunch with
  | true =>
    refine ⟨⟨getElem?_addBottomDots _ firstPage, rfl, rfl, rfl⟩, rfl, rfl, rfl⟩
  | false => cases loggedIn <;> exact ⟨rfl, rfl, rfl⟩

/-- The pages start with the first one. -/
theorem onCreate_currentItem (session : Session) :
    (onCreate session).currentItem = firstPage := by
  unfold onCreate
  simp only
  split_ifs <;> rfl

end WelcomeActivity

end JazzOnTheMove.Android
