import JazzOnTheMove.Deals
import JazzOnTheMove.IOS.HomeSliderVM

/-!
# The carousels of the deals screens

Every deals screen loads sliders and shows their images in a carousel. The handler of
`loadSlider()` keeps the list and dispatches a block, which fills the screen's model one
address after the other and, for each of them, shows a carousel of the addresses so far.
-/

namespace JazzOnTheMove.IOS

/-! ## `KSImageCarousel` -/

/-- `UIActivityIndicatorView.Style`, as far as it is used. -/
inductive ActivityIndicatorStyle where
  | gray
  | white
  deriving DecidableEq, Repr

/-- `KSICAutoScrollDirection`. -/
inductive KSICAutoScrollDirection where
  | left
  | right
  deriving DecidableEq, Repr

/-- `CoordinatorError`. -/
inductive CoordinatorError where
  | pageOutOfRange
  | emptyModel
  deriving DecidableEq, Repr

/-- `KSICInfiniteCoordinator`, which keeps the model that it was created with. -/
structure KSICInfiniteCoordinator (URL : Type) where
  model : List URL
  currentPage : ℕ
  shouldShowActivityIndicator : Bool
  activityIndicatorStyle : ActivityIndicatorStyle
  /-- The direction and the interval of the auto-scroll timer. -/
  autoScrollTimer : Option (KSICAutoScrollDirection × ℕ)
  /-- Whether the screen is its delegate. -/
  delegate : Bool
  deriving DecidableEq

namespace KSICInfiniteCoordinator

variable {URL : Type}

/-- `init(with:placeholderImage:initialPage:)`. -/
def create (model : List URL) (initialPage : ℕ) :
    Except CoordinatorError (KSICInfiniteCoordinator URL) :=
  if model.length = 0 then .error .emptyModel
  else if initialPage < model.length then
    .ok {
      model := model
      currentPage := initialPage
      shouldShowActivityIndicator := true
      activityIndicatorStyle := .gray
      autoScrollTimer := none
      delegate := false }
  else .error .pageOutOfRange

/-- `startAutoScroll(withDirection:interval:)`. -/
def startAutoScroll (coord : KSICInfiniteCoordinator URL) (direction : KSICAutoScrollDirection)
    (interval : ℕ) : KSICInfiniteCoordinator URL :=
  { coord with autoScrollTimer := some (direction, interval) }

end KSICInfiniteCoordinator

/-! ## The screens -/

/-- A screen with a carousel. -/
structure CarouselVC (URL : Type) where
  sliderList : List Slider
  model : List URL
  /-- The coordinators shown inside the carousel view, the last one on top. -/
  carousels : List (KSICInfiniteCoordinator URL)
  /-- The blocks of the handler on the main queue, each with the list it captured. -/
  blocks : List (List Slider)
  /-- The titles and messages of the indicators presented. -/
  indicators : List (String × String)
  deriving DecidableEq

namespace Constants

/-- The sliders of the home and the wine screen. -/
def liqourURL : String := "https://empirivumatea.com/jazz/liqour.json"

/-- The sliders of the travel screen. -/
def travelURL : String := "https://empirivumatea.com/jazz/travel.json"

/-- The sliders of the events screen. -/
def eventsURL : String := "https://empirivumatea.com/jazz/events.json"

/-- The sliders of the lifestyle screen. -/
def lifestyleURL : String := "https://empirivumatea.com/jazz/lifestyle.json"

/-- The sliders of the coffee screen. -/
def coffeeURL : String := "https://empirivumatea.com/jazz/coffee.json"

end Constants

/-- What the `loadSlider()` of a screen requests, and whether it presents errors. -/
structure LoadSlider where
  url : String
  presentsErrors : Bool
  deriving DecidableEq, Repr

/-- `HomeVC.loadSlider()`, the only one without an `else` branch. -/
def HomeVC.loadSlider : LoadSlider := ⟨Constants.liqourURL, false⟩

/-- `WineVC.loadSlider()`. -/
def WineVC.loadSlider : LoadSlider := ⟨Constants.liqourURL, true⟩

/-- `CoffeeVC.loadSlider()`. -/
def CoffeeVC.loadSlider : LoadSlider := ⟨Constants.coffeeURL, true⟩

/-- `TravelVC.loadSlider()`. -/
def TravelVC.loadSlider : LoadSlider := ⟨Constants.travelURL, true⟩

/-- `EventsVC.loadSlider()`. -/
def EventsVC.loadSlider : LoadSlider := ⟨Constants.eventsURL, true⟩

/-- `LifestyleVC.loadSlider()`. -/
def LifestyleVC.loadSlider : LoadSlider := ⟨Constants.lifestyleURL, true⟩

/-- The `loadSlider()` of the screen of a section. -/
def loadSlider : MenuSection → LoadSlider
  | .home => HomeVC.loadSlider
  | .wine => WineVC.loadSlider
  | .coffee => CoffeeVC.loadSlider
  | .travel => TravelVC.loadSlider
  | .events => EventsVC.loadSlider
  | .lifestyle => LifestyleVC.loadSlider

namespace CarouselVC

variable {URL : Type}

/-- A screen as it is created, with the placeholder's address as its model. -/
def created (placeholder : URL) : CarouselVC URL := ⟨[], [placeholder], [], [], []⟩

/-- The handler that `loadSlider()` gives to its view model. -/
def handler (screen : LoadSlider) (vc : CarouselVC URL) (call : SliderCall) : CarouselVC URL :=
  if call.status then { vc with sliderList := call.deal, blocks := vc.blocks ++ [call.deal] }
  else if screen.presentsErrors then
    { vc with indicators := vc.indicators ++ [("Error", call.message)] }
  else vc

/-- `showCarousel(inside:of:)` adds a carousel over those in the carousel view. -/
def showCarousel (vc : CarouselVC URL) (coord : KSICInfiniteCoordinator URL) : CarouselVC URL :=
  { vc with carousels := vc.carousels ++ [coord] }

variable (urlOf : String → Option URL)

/-- One pass of the block's loop, where `urlOf` is `URL(string:)`. -/
def showSlider (vc : CarouselVC URL) (i : ℕ) : Except Trap (CarouselVC URL) := do
  let slider ← subscript vc.sliderList i
  let image ← unwrap slider.image
  let url ← unwrap (urlOf image)
  let vc := { vc with model := vc.model ++ [url] }
  match KSICInfiniteCoordinator.create vc.model 0 with
  | .error _ => return vc
  | .ok coord =>
      let coord := {
        coord with
        shouldShowActivityIndicator := true
        activityIndicatorStyle := .white }
      return vc.showCarousel { coord.startAutoScroll .left 7 with delegate := true }

/-- A block that the handler has dispatched for a list. -/
def showSliders (vc : CarouselVC URL) (deal : List Slider) : Except Trap (CarouselVC URL) :=
  (List.range deal.length).foldlM (showSlider urlOf) { vc with model := [] }

/-- The main queue runs the blocks of the handler. -/
def runBlocks (vc : CarouselVC URL) : Except Trap (CarouselVC URL) :=
  vc.blocks.foldlM (showSliders urlOf) { vc with blocks := [] }

/-- A screen after its handler was called once with a list. -/
def deliverSliders (placeholder : URL) (screen : LoadSlider) (deal : List Slider)
    (message : String) : Except Trap (CarouselVC URL) :=
  ((created placeholder).handler screen ⟨true, deal, message⟩).runBlocks urlOf

/-- A screen after its request was answered with status 200 and a value: the response
handler, the hand-over and the blocks of the screen's handler run one after the other. -/
def deliverFile (placeholder : URL) (screen : LoadSlider) (value : Json) :
    Except Trap (CarouselVC URL) := do
  let s ← (SliderSession.start screen.url).run (fun _ => ⟨some 200, .success value⟩)
    [.respond, .turn, .turn]
  (s.vm.calls.foldl (handler screen) (created placeholder)).runBlocks urlOf

end CarouselVC

end JazzOnTheMove.IOS
