import JazzOnTheMove.IOS.SwiftRuntime
import Mathlib.Data.Nat.Notation

/-!
# The onboarding screen

Every tap starts two animations, one after the other. The completion of the first
shows the next image, and the completion of the second turns the page. Nothing
blocks taps in between, so the completions of several taps can be under way at once.
-/

namespace JazzOnTheMove.IOS

/-- `struct OnBoardingItem`. -/
structure OnBoardingItem (Image : Type) where
  title : String
  desc : String
  cover : Option Image
  deriving DecidableEq, Repr

/-- `OnBoardingItem.placeholderItems`, where `named` is `UIImage.init(named:)`. -/
def OnBoardingItem.placeholderItems {Image : Type} (named : String → Option Image) :
    List (OnBoardingItem Image) := [
  ⟨"Liqour", "Tickle your taste buds with fine wine and feel the chill of a great Whiskey.",
    named "liqour"⟩,
  ⟨"Travel", "From the ends of the world all the way, to nature's beauty.", named "travel"⟩,
  ⟨"Events", "Get to know what's hot on the streets, Where's that plot at?.", named "events"⟩,
  ⟨"Entertainment", "Looking for the top watched shows on Tv, settle in we've got you covered.",
    named "entertainment"⟩]

/-- `IntroVC`, with the animation completions that are pending. -/
structure IntroVC (Image : Type) where
  items : List (OnBoardingItem Image)
  currentPage : ℕ
  titleLabel : Option String
  descLabel : Option String
  coverImg : Option Image
  /-- `pageC.numberOfPages`. -/
  numberOfPages : ℕ
  /-- `pageC.currentPage`. -/
  shownPage : ℕ
  /-- The taps whose first completion is pending. -/
  firstStages : ℕ
  /-- The taps whose second completion is pending. -/
  secondStages : ℕ
  /-- How often the main screen was made the root. -/
  mainAppShown : ℕ

namespace IntroVC

variable {Image : Type}

/-- `setupScreen(index:)`. -/
def setupScreen (vc : IntroVC Image) (index : ℕ) : Except Trap (IntroVC Image) := do
  let item ← subscript vc.items index
  return { vc with
    titleLabel := item.title
    descLabel := item.desc
    coverImg := item.cover
    shownPage := index }

/-- `updateImage(index:)`. -/
def updateImage (vc : IntroVC Image) (index : ℕ) : Except Trap (IntroVC Image) := do
  let item ← subscript vc.items index
  return { vc with coverImg := item.cover }

/-- `viewDidLoad()` for a list of items. -/
def viewDidLoad (items : List (OnBoardingItem Image)) : Except Trap (IntroVC Image) := do
  let vc : IntroVC Image := {
    items := items
    currentPage := 0
    titleLabel := none
    descLabel := none
    coverImg := none
    numberOfPages := items.length
    shownPage := 0
    firstStages := 0
    secondStages := 0
    mainAppShown := 0 }
  let vc ← vc.setupScreen vc.currentPage
  vc.updateImage vc.currentPage

/-- `handleTapAnimation()` starts the first animation. -/
def handleTapAnimation (vc : IntroVC Image) : IntroVC Image :=
  { vc with firstStages := vc.firstStages + 1 }

/-- `lastItem()`. -/
def lastItem (vc : IntroVC Image) : Bool := vc.currentPage = vc.items.length

/-- `showMainApp()`. -/
def showMainApp (vc : IntroVC Image) : IntroVC Image :=
  { vc with mainAppShown := vc.mainAppShown + 1 }

/-- The first completion of a tap, which starts the second animation. -/
def firstStage (vc : IntroVC Image) : Except Trap (IntroVC Image) := do
  let vc := { vc with firstStages := vc.firstStages - 1 }
  let vc ←
    if vc.currentPage < vc.items.length - 1 then vc.updateImage (vc.currentPage + 1)
    else .ok vc
  return { vc with secondStages := vc.secondStages + 1 }

/-- The second completion of a tap. -/
def secondStage (vc : IntroVC Image) : Except Trap (IntroVC Image) :=
  let vc := { vc with secondStages := vc.secondStages - 1, currentPage := vc.currentPage + 1 }
  if vc.lastItem then .ok vc.showMainApp else vc.setupScreen vc.currentPage

/-- What happens to the screen. -/
inductive Event where
  | tap
  | firstStage
  | secondStage
  deriving DecidableEq, Repr

/-- One event. Once the main screen is the root, taps no longer reach this one. -/
def step (vc : IntroVC Image) : Event → Except Trap (IntroVC Image)
  | .tap => .ok (if vc.mainAppShown = 0 then vc.handleTapAnimation else vc)
  | .firstStage => if vc.firstStages = 0 then .ok vc else vc.firstStage
  | .secondStage => if vc.secondStages = 0 then .ok vc else vc.secondStage

/-- A finite run of the screen. -/
def run (items : List (OnBoardingItem Image)) (events : List Event) :
    Except Trap (IntroVC Image) := do
  let vc ← viewDidLoad items
  events.foldlM step vc

/-- The events that can come next when there are `n` items: taps while the main screen was
not shown, and completions of taps that got that far. -/
def CanHappen (n : ℕ) (earlier : List Event) : Event → Prop
  | .tap => earlier.count .secondStage < n
  | .firstStage => earlier.count .firstStage < earlier.count .tap
  | .secondStage => earlier.count .secondStage < earlier.count .firstStage

/-- No subscript traps, and the main screen is shown at most once. -/
def Survives (items : List (OnBoardingItem Image)) (events : List Event) : Prop :=
  ∃ vc, run items events = .ok vc ∧ vc.mainAppShown ≤ 1

end IntroVC

end JazzOnTheMove.IOS
