import JazzOnTheMove.Deals
import JazzOnTheMove.Library.DelayedWrites
import Mathlib.Logic.Function.Basic

/-!
# The main activity of the Android app

`MainActivity` shows one fragment for the section selected in its drawer. Two static
fields remember the section: its index and the tag of its fragment. `loadHomeFragment`
does nothing if a fragment with that tag is attached; otherwise it posts a runnable,
which enqueues a fragment transaction, which the main loop executes later.
-/

namespace JazzOnTheMove.Android

open DelayedWrites (Register)

/-- `R.array.nav_item_activity_titles`. -/
def activityTitles : List String :=
  ["Jazz on the Move", "Liquor", "Coffee", "Travel", "Events", "Lifestyle"]

/-- The values that `navItemIndex` takes: the indices of the titles. -/
abbrev NavIndex := Fin activityTitles.length

/-- `TAG_HOME`. -/
def tagHome : String := "home"

/-- `TAG_LEADER`. -/
def tagLeader : String := "Liquor"

/-- `TAG_NOTIFICATIONS`. -/
def tagNotifications : String := "Coffee"

/-- `TAG_PROFILE`. -/
def tagProfile : String := "Travel"

/-- `TAG_EARN`. -/
def tagEarn : String := "Events"

/-- `TAG_LIFE`. -/
def tagLife : String := "Lifestyle"

/-- The items of the drawer menu: the six of the single-choice group, then those of the
submenu "Other". -/
inductive DrawerItem where
  | navHome
  | navBoard
  | navNotifications
  | navEdit
  | navEarn
  | navLife
  | navAboutUs
  | navFacebook
  | navTwitter
  | navInstagram
  deriving DecidableEq, Repr

/-- The items of the single-choice group, which are the first of the menu. -/
def navGroup : List DrawerItem :=
  [.navHome, .navBoard, .navNotifications, .navEdit, .navEarn, .navLife]

/-- `navigationView.getMenu().getItem(index)`. -/
def getItem (index : NavIndex) : DrawerItem := navGroup.get (index.cast rfl)

/-- `getHomeFragment()`: the section whose fragment is created for an index. -/
def getHomeFragment : ℕ → MenuSection
  | 0 => .home
  | 1 => .wine
  | 2 => .coffee
  | 3 => .travel
  | 4 => .events
  | 5 => .lifestyle
  | _ => .home

/-- A fragment in the frame: the section it shows and the tag it was attached under. -/
structure AttachedFragment where
  fragment : MenuSection
  tag : String
  deriving DecidableEq, Repr

/-- `MainActivity` with its static fields and what it has on the main loop. -/
structure MainActivity where
  /-- The static field `navItemIndex`. -/
  navItemIndex : NavIndex
  /-- The static field `CURRENT_TAG`. -/
  currentTag : String
  /-- The title of the toolbar. -/
  title : String
  /-- The check marks of the drawer's items. -/
  checked : DrawerItem → Bool
  drawerOpen : Bool
  /-- The fragment in `R.id.frame`, with the transactions that wait to be executed. -/
  frame : Register (Option AttachedFragment)
  /-- The runnables of `loadHomeFragment` that wait to run. -/
  posted : ℕ
  /-- The toasts shown. -/
  toasts : List String
  /-- Whether a back press has finished the activity. -/
  finished : Bool

namespace MainActivity

/-- `MenuItem.setChecked`. Checking an item of the single-choice group in either way checks
it and no other of the group. -/
def setChecked (a : MainActivity) (item : DrawerItem) (value : Bool) : MainActivity :=
  if item ∈ navGroup then
    { a with checked := fun other =>
        if other ∈ navGroup then decide (other = item) else a.checked other }
  else { a with checked := Function.update a.checked item value }

/-- `selectNavMenu()`. -/
def selectNavMenu (a : MainActivity) : MainActivity := a.setChecked (getItem a.navItemIndex) true

/-- `setToolbarTitle()`. -/
def setToolbarTitle (a : MainActivity) : MainActivity :=
  { a with title := activityTitles.get a.navItemIndex }

/-- `findFragmentByTag(tag)`, which sees the transactions executed so far. -/
def findFragmentByTag (a : MainActivity) (tag : String) : Option AttachedFragment :=
  a.frame.current.filter fun attached => attached.tag = tag

/-- `loadHomeFragment()`. -/
def loadHomeFragment (a : MainActivity) : MainActivity :=
  let a := a.selectNavMenu.setToolbarTitle
  -- nothing to do if the current item is selected again
  if (a.findFragmentByTag a.currentTag).isSome then { a with drawerOpen := false }
  else { a with posted := a.posted + 1, drawerOpen := false }

/-- The `switch` of `onNavigationItemSelected`, or `none` where it returns. -/
def selectItem (a : MainActivity) : DrawerItem → Option MainActivity
  | .navHome => some { a with navItemIndex := ⟨0, by decide⟩, currentTag := tagHome }
  | .navBoard => some { a with navItemIndex := ⟨1, by decide⟩, currentTag := tagLeader }
  | .navNotifications =>
      some { a with navItemIndex := ⟨2, by decide⟩, currentTag := tagNotifications }
  | .navEdit => some { a with navItemIndex := ⟨3, by decide⟩, currentTag := tagProfile }
  | .navEarn => some { a with navItemIndex := ⟨4, by decide⟩, currentTag := tagEarn }
  | .navLife => some { a with navItemIndex := ⟨5, by decide⟩, currentTag := tagLife }
  | .navAboutUs => none
  | _ => some { a with navItemIndex := ⟨0, by decide⟩ }

/-- `onNavigationItemSelected(menuItem)`. -/
def onNavigationItemSelected (a : MainActivity) (menuItem : DrawerItem) : MainActivity :=
  match a.selectItem menuItem with
  | none => { a with toasts := a.toasts ++ ["Coming Soon"] }
  | some a =>
      let a := if a.checked menuItem then a.setChecked menuItem false
        else a.setChecked menuItem true
      (a.setChecked menuItem true).loadHomeFragment

/-- `onBackPressed()`, where `shouldLoadHomeFragOnBackPress` is always set. -/
def onBackPressed (a : MainActivity) : MainActivity :=
  if a.drawerOpen then { a with drawerOpen := false }
  else if a.navItemIndex.val ≠ 0 then
    loadHomeFragment { a with navItemIndex := ⟨0, by decide⟩, currentTag := tagHome }
  else { a with finished := true }

/-- `onCreate(savedInstanceState)` with the values of the static fields, and with the frame
that the fragment manager restores from a saved state. -/
def onCreate (navItemIndex : NavIndex) (currentTag : String)
    (savedInstanceState : Option (Option AttachedFragment)) : MainActivity :=
  let a : MainActivity := {
    navItemIndex := navItemIndex
    currentTag := currentTag
    title := "Jazz on the Move"
    checked := fun _ => false
    drawerOpen := false
    frame := Register.settled (savedInstanceState.getD none)
    posted := 0
    toasts := []
    finished := false }
  match savedInstanceState with
  | none => loadHomeFragment { a with navItemIndex := ⟨0, by decide⟩, currentTag := tagHome }
  | some _ => a

/-- The activity when the app is started. -/
def fresh : MainActivity := onCreate ⟨0, by decide⟩ tagHome none

/-! ## Inputs and the main loop -/

/-- What the user does. -/
inductive Input where
  | openDrawer
  | select (item : DrawerItem)
  | back
  deriving DecidableEq, Repr

/-- An input, which a finished activity no longer receives. -/
def input (a : MainActivity) (e : Input) : MainActivity :=
  if a.finished then a
  else
    match e with
    | .openDrawer => { a with drawerOpen := true }
    | .select item => a.onNavigationItemSelected item
    | .back => a.onBackPressed

/-- A step of the main loop. -/
inductive LoopStep where
  /-- A posted runnable runs. -/
  | runnable
  /-- The oldest transaction that waits is executed. -/
  | transaction
  deriving DecidableEq, Repr

/-- A step of the main loop, if there is something to do. The runnable reads the static
fields when it runs. -/
def loopStep (a : MainActivity) : LoopStep → MainActivity
  | .runnable =>
      match a.posted with
      | 0 => a
      | n + 1 => { a with
          posted := n
          frame := a.frame.write (some ⟨getHomeFragment a.navItemIndex, a.currentTag⟩) }
  | .transaction => { a with frame := a.frame.land }

/-- Some steps of the main loop. -/
def loop (a : MainActivity) (steps : List LoopStep) : MainActivity := steps.foldl loopStep a

/-- The main loop has nothing to do. -/
def Idle (a : MainActivity) : Prop := a.posted = 0 ∧ a.frame.pending = []

/-! ## What the methods do -/

/-- The section of an item of the single-choice group. -/
def sectionOf : DrawerItem → Option MenuSection
  | .navHome => some .home
  | .navBoard => some .wine
  | .navNotifications => some .coffee
  | .navEdit => some .travel
  | .navEarn => some .events
  | .navLife => some .lifestyle
  | _ => none

/-- The index that the listener gives to a section. -/
def sectionIndex : MenuSection → NavIndex
  | .home => ⟨0, by decide⟩
  | .wine => ⟨1, by decide⟩
  | .coffee => ⟨2, by decide⟩
  | .travel => ⟨3, by decide⟩
  | .events => ⟨4, by decide⟩
  | .lifestyle => ⟨5, by decide⟩

/-- The tag that the listener gives to a section. -/
def sectionTag : MenuSection → String
  | .home => tagHome
  | .wine => tagLeader
  | .coffee => tagNotifications
  | .travel => tagProfile
  | .events => tagEarn
  | .lifestyle => tagLife

/-- The static fields after a section was requested. -/
def request (a : MainActivity) (sec : MenuSection) : MainActivity :=
  { a with navItemIndex := sectionIndex sec, currentTag := sectionTag sec }

@[simp] theorem getHomeFragment_sectionIndex (sec : MenuSection) :
    getHomeFragment (sectionIndex sec) = sec := by
  cases sec <;> rfl

/-- Different sections have different tags. -/
theorem sectionTag_inj {first second : MenuSection} :
    sectionTag first = sectionTag second ↔ first = second := by
  cases first <;> cases second <;> decide

/-- Check marks are set without touching anything else. -/
theorem setChecked_eq (a : MainActivity) (item : DrawerItem) (value : Bool) :
    ∃ checked, a.setChecked item value = { a with checked := checked } := by
  unfold setChecked
  by_cases hgroup : item ∈ navGroup
  · exact ⟨_, if_pos hgroup⟩
  · exact ⟨_, if_neg hgroup⟩

/-- `loadHomeFragment` sets the title, closes the drawer, and posts a runnable unless a
fragment with the current tag is attached. -/
theorem loadHomeFragment_eq (a : MainActivity) :
    ∃ checked, a.loadHomeFragment = { a with
      checked := checked
      title := activityTitles.get a.navItemIndex
      drawerOpen := false
      posted := if (a.findFragmentByTag a.currentTag).isSome then a.posted else a.posted + 1 } := by
  obtain ⟨checked, hchecked⟩ := a.setChecked_eq (getItem a.navItemIndex) true
  refine ⟨checked, ?_⟩
  unfold loadHomeFragment selectNavMenu setToolbarTitle
  rw [hchecked]
  by_cases hattached : (a.findFragmentByTag a.currentTag).isSome = true
  · rw [if_pos hattached]
    exact if_pos hattached
  · rw [if_neg hattached]
    exact if_neg hattached

/-- The listener checks the item it was called for and loads the fragment. -/
theorem onNavigationItemSelected_of_some {a b : MainActivity} {item : DrawerItem}
    (h : a.selectItem item = some b) :
    ∃ checked, a.onNavigationItemSelected item = { b with
      checked := checked
      title := activityTitles.get b.navItemIndex
      drawerOpen := false
      posted := if (b.findFragmentByTag b.currentTag).isSome then b.posted else b.posted + 1 } := by
  have hmarked : ∃ checked, (if b.checked item then b.setChecked item false
      else b.setChecked item true).setChecked item true = { b with checked := checked } := by
    by_cases hitem : b.checked item = true
    · rw [if_pos hitem]
      obtain ⟨first, hfirst⟩ := b.setChecked_eq item false
      rw [hfirst]
      exact setChecked_eq _ item true
    · rw [if_neg hitem]
      obtain ⟨first, hfirst⟩ := b.setChecked_eq item true
      rw [hfirst]
      exact setChecked_eq _ item true
  obtain ⟨marked, hmarked⟩ := hmarked
  unfold onNavigationItemSelected
  rw [h]
  simp only [hmarked]
  exact loadHomeFragment_eq { b with checked := marked }

/-- An item of a section requests that section. -/
theorem selectItem_of_sectionOf (a : MainActivity) {item : DrawerItem} {sec : MenuSection}
    (h : sectionOf item = some sec) : a.selectItem item = some (a.request sec) := by
  cases item <;> cases h <;> rfl

/-- What a request for a section does. -/
structure Requested (a : MainActivity) (sec : MenuSection) (b : MainActivity) : Prop where
  navItemIndex : b.navItemIndex = sectionIndex sec
  currentTag : b.currentTag = sectionTag sec
  title : b.title = activityTitles.get (sectionIndex sec)
  frame : b.frame = a.frame
  posted : b.posted =
    if (a.findFragmentByTag (sectionTag sec)).isSome then a.posted else a.posted + 1
  finished : b.finished = a.finished

/-- Selecting a section requests it. -/
theorem requested_of_select (a : MainActivity) {item : DrawerItem} {sec : MenuSection}
    (h : sectionOf item = some sec) : Requested a sec (a.onNavigationItemSelected item) := by
  obtain ⟨checked, hresult⟩ := onNavigationItemSelected_of_some (a.selectItem_of_sectionOf h)
  rw [hresult]
  exact ⟨rfl, rfl, rfl, rfl, rfl, rfl⟩

/-- A back press outside the home section requests it if the drawer is closed. -/
theorem requested_of_back {a : MainActivity} (hdrawer : a.drawerOpen = false)
    (hindex : a.navItemIndex.val ≠ 0) : Requested a .home a.onBackPressed := by
  have hback : a.onBackPressed = (a.request .home).loadHomeFragment := by
    unfold onBackPressed
    rw [if_neg (by simp [hdrawer]), if_pos hindex]
    rfl
  obtain ⟨checked, hresult⟩ := (a.request .home).loadHomeFragment_eq
  rw [hback, hresult]
  exact ⟨rfl, rfl, rfl, rfl, rfl, rfl⟩

/-! ## Coming to rest -/

/-- The fragment that will be in the frame once the main loop is idle. -/
def eventual (a : MainActivity) : Option AttachedFragment :=
  if a.posted = 0 then a.frame.eventual
  else some ⟨getHomeFragment a.navItemIndex, a.currentTag⟩

/-- The activity once the main loop is idle. -/
def settle (a : MainActivity) : MainActivity :=
  { a with posted := 0, frame := Register.settled a.eventual }

/-- No step of the main loop changes where it will come to rest. -/
theorem settle_loopStep (a : MainActivity) (e : LoopStep) : (a.loopStep e).settle = a.settle := by
  cases e with
  | runnable =>
    cases hposted : a.posted with
    | zero => simp only [loopStep, hposted]
    | succ n =>
      -- the last runnable writes what the others were going to
      simp only [loopStep, hposted, settle, eventual, DelayedWrites.Register.eventual_write]
      simp
  | transaction =>
    simp only [loopStep, settle, eventual, DelayedWrites.Register.eventual_land]

/-- Neither does any number of steps. -/
theorem settle_loop (a : MainActivity) (steps : List LoopStep) :
    (a.loop steps).settle = a.settle := by
  induction steps generalizing a with
  | nil => rfl
  | cons e steps ih => exact (ih (a.loopStep e)).trans (settle_loopStep a e)

/-- An idle activity is settled. -/
theorem settle_of_idle {a : MainActivity} (h : a.Idle) : a.settle = a := by
  obtain ⟨navItemIndex, currentTag, title, checked, drawerOpen, ⟨current, pending⟩, posted, toasts,
    finished⟩ := a
  obtain ⟨hposted, hpending⟩ := h
  change posted = 0 at hposted
  change pending = [] at hpending
  subst hposted
  subst hpending
  rfl

/-- **Main loop.** Whichever steps make the main loop idle, the activity ends up settled. -/
theorem loop_eq_settle {a : MainActivity} {steps : List LoopStep} (h : (a.loop steps).Idle) :
    a.loop steps = a.settle := by
  rw [← settle_of_idle h, settle_loop]

/-- What the main loop still has to do; a runnable is followed by a transaction. -/
def work (a : MainActivity) : ℕ := 2 * a.posted + a.frame.pending.length

/-- The main loop can always become idle. -/
theorem exists_loop_idle (a : MainActivity) : ∃ steps, (a.loop steps).Idle := by
  induction hwork : a.work using Nat.strongRecOn generalizing a with
  | _ work ih =>
    have hnext : ∀ e, (a.loopStep e).work < a.work → ∃ steps, (a.loop steps).Idle := by
      intro e hless
      obtain ⟨steps, hidle⟩ := ih (a.loopStep e).work (hwork ▸ hless) (a.loopStep e) rfl
      exact ⟨e :: steps, hidle⟩
    cases hposted : a.posted with
    | succ n =>
      refine hnext .runnable ?_
      simp only [MainActivity.work, loopStep, hposted, Register.write, List.length_append,
        List.length_singleton]
      omega
    | zero =>
      cases hpending : a.frame.pending with
      | nil => exact ⟨[], hposted, hpending⟩
      | cons attached rest =>
        refine hnext .transaction ?_
        simp only [MainActivity.work, loopStep, Register.land, hpending, List.length_cons]
        omega

end MainActivity

end JazzOnTheMove.Android
