import JazzOnTheMove.IOS.CarouselScreens
import Mathlib.Algebra.Order.Ring.Rat
import Mathlib.Logic.Function.Basic

/-!
# The carousel on the screen

A shown carousel has three image views side by side in a scroll view: the previous, the
current and the next picture. A scroll that ends further right or left turns the page: the
view model moves on, all three views load again, and the scroll view jumps back to its
center. The pictures come from a cache or from downloads that end at any later time.
-/

namespace JazzOnTheMove.IOS

/-- What ends the app inside the carousel. -/
inductive CarouselCrash where
  | trap (trap : Trap)
  /-- A `try!` whose expression throws. -/
  | thrown (error : CoordinatorError)
  | fatalError (message : String)
  deriving DecidableEq, Repr

instance : MonadLift (Except Trap) (Except CarouselCrash) where
  monadLift := Except.mapError .trap

/-! ## The views -/

/-- `KSICImageView`. -/
structure KSICImageView (Image : Type) where
  image : Image
  /-- Whether the activity indicator is animating. -/
  isLoading : Bool
  /-- The left edge of the frame. -/
  frameX : ℚ
  deriving DecidableEq

namespace KSICImageView

variable {Image : Type}

/-- `startLoading()`. -/
def startLoading (view : KSICImageView Image) : KSICImageView Image :=
  { view with isLoading := true }

/-- `stopLoading()`. -/
def stopLoading (view : KSICImageView Image) : KSICImageView Image :=
  { view with isLoading := false }

end KSICImageView

/-- `UIScrollView`, along its horizontal axis. -/
structure UIScrollView where
  width : ℚ
  contentWidth : ℚ
  contentOffset : ℚ
  deriving DecidableEq

/-- `scrollRectToVisible(_:animated:)` for a rectangle as wide as the view. The offset stays
within the content, and an animation moves it only later. -/
def UIScrollView.scrollRectToVisible (view : UIScrollView) (x : ℚ) (animated : Bool) :
    UIScrollView :=
  if animated then view
  else { view with contentOffset := max 0 (min x (view.contentWidth - view.width)) }

/-- `KSICScrollerViewController`. -/
structure KSICScrollerViewController (URL Image : Type) where
  viewModel : List URL
  imageViews : List (KSICImageView Image)
  placeholderImage : Image
  scrollView : UIScrollView
  /-- Where the scroll view was when the scroll began. -/
  contentOffsetX : ℚ
  deriving DecidableEq

namespace KSICScrollerViewController

variable {URL Image : Type}

/-- `imageViewCount`. -/
def imageViewCount (vc : KSICScrollerViewController URL Image) : ℕ := vc.viewModel.length

/-- `init(withViewModel:placeholderImage:delegate:)`. -/
def create (vm : List URL) (placeholderImage : Image) : KSICScrollerViewController URL Image where
  viewModel := vm
  imageViews := vm.map fun _ => ⟨placeholderImage, true, 0⟩
  placeholderImage := placeholderImage
  scrollView := ⟨0, 0, 0⟩
  contentOffsetX := 0

/-- What the three `scrollTo…Subview` do after their check. -/
def scrollToSubview (vc : KSICScrollerViewController URL Image) (index : ℕ) (animated : Bool) :
    KSICScrollerViewController URL Image :=
  let scrollView := vc.scrollView.scrollRectToVisible (vc.scrollView.width * index) animated
  { vc with scrollView := scrollView, contentOffsetX := scrollView.contentOffset }

/-- `scrollToCenterSubview(_:)`. -/
def scrollToCenterSubview (vc : KSICScrollerViewController URL Image) (animated : Bool) :
    Except CarouselCrash (KSICScrollerViewController URL Image) :=
  if vc.imageViewCount < 3 then
    .error (.fatalError ("scrollToCenterSubview() should only be called when viewModel have " ++
      "at least 3 elements."))
  else .ok (vc.scrollToSubview 1 animated)

/-- `scrollToFirstSubview(_:)`. -/
def scrollToFirstSubview (vc : KSICScrollerViewController URL Image) (animated : Bool) :
    Except CarouselCrash (KSICScrollerViewController URL Image) :=
  if vc.imageViewCount < 1 then
    .error (.fatalError ("scrollToFirstSubview() should only be called when viewModel have " ++
      "at least 1 element."))
  else .ok (vc.scrollToSubview 0 animated)

/-- `scrollToLastSubview(_:)`. -/
def scrollToLastSubview (vc : KSICScrollerViewController URL Image) (animated : Bool) :
    Except CarouselCrash (KSICScrollerViewController URL Image) :=
  if vc.imageViewCount < 1 then
    .error (.fatalError ("scrollToLastSubview() should only be called when viewModel have " ++
      "at least 1 element."))
  else .ok (vc.scrollToSubview (vc.imageViewCount - 1) animated)

/-- `scrollViewWillBeginDragging(_:)`. -/
def scrollViewWillBeginDragging (vc : KSICScrollerViewController URL Image) :
    KSICScrollerViewController URL Image :=
  { vc with contentOffsetX := vc.scrollView.contentOffset }

/-- The loop of `viewDidLayoutSubviews()` that sets the frame of an image view. -/
def layoutImageView (vc : KSICScrollerViewController URL Image) (i : ℕ) :
    Except Trap (KSICScrollerViewController URL Image) := do
  let imageView ← subscript vc.imageViews i
  return {
    vc with
    imageViews := vc.imageViews.set i { imageView with frameX := vc.scrollView.width * i } }

end KSICScrollerViewController

/-! ## The coordinator -/

namespace KSICInfiniteCoordinator

variable {URL : Type} (coord : KSICInfiniteCoordinator URL)

/-- `firstPage`. -/
def firstPage (_ : KSICInfiniteCoordinator URL) : ℕ := 0

/-- `lastPage`, for a model that is not empty. -/
def lastPage : ℕ := coord.model.length - 1

/-- `isFirstPage`. -/
def isFirstPage : Bool := coord.currentPage == coord.firstPage

/-- `isLastPage`. -/
def isLastPage : Bool := coord.currentPage == coord.lastPage

/-- `isPageInRange(_:)`. -/
def isPageInRange (page : ℕ) : Bool := coord.firstPage ≤ page && page ≤ coord.lastPage

/-- `carouselViewModel`. -/
def carouselViewModel : Except Trap (List URL) := do
  if coord.model.length = 1 then
    return [← subscript coord.model coord.currentPage, ← subscript coord.model coord.currentPage,
      ← subscript coord.model coord.currentPage]
  else if coord.isFirstPage then
    return [← subscript coord.model coord.lastPage, ← subscript coord.model coord.currentPage,
      ← subscript coord.model (coord.currentPage + 1)]
  else if coord.isLastPage then
    return [← subscript coord.model (coord.currentPage - 1),
      ← subscript coord.model coord.currentPage, ← subscript coord.model coord.firstPage]
  else
    return [← subscript coord.model (coord.currentPage - 1),
      ← subscript coord.model coord.currentPage, ← subscript coord.model (coord.currentPage + 1)]

end KSICInfiniteCoordinator

/-! ## The carousel and its downloads -/

/-- A call of `createCarouselImage(completion:)`: the address, and the index of the image
view that its completion handler sets. -/
structure CarouselFetch (URL : Type) where
  url : URL
  index : ℕ
  deriving DecidableEq, Repr

/-- What `URLSession` reports at the end of a download. -/
inductive DownloadResult (Image : Type) where
  | image (image : Image)
  /-- Data of which no `UIImage` can be made. -/
  | notAnImage
  | failure
  deriving DecidableEq, Repr

/-- A coordinator whose carousel is shown. -/
structure Carousel (URL Image : Type) where
  coord : KSICInfiniteCoordinator URL
  carousel : KSICScrollerViewController URL Image
  /-- The cache of `KSICImageCache`, shared by all carousels. -/
  cache : URL → Option Image
  /-- The downloads under way. -/
  downloads : List (CarouselFetch URL)
  /-- The handlers of downloads that are about to dispatch their image to the main queue. -/
  handlers : List (CarouselFetch URL × Option Image)
  /-- The blocks on the main queue. -/
  blocks : List (CarouselFetch URL × Option Image)

namespace Carousel

variable {URL Image : Type} [DecidableEq URL]

/-- The completion handler that `setViewModelToScrollView()` gives to a fetch. -/
def completion (c : Carousel URL Image) (fetch : CarouselFetch URL) :
    Option Image → Except Trap (Carousel URL Image)
  | none => .ok c
  | some img => do
      if fetch.url = (← subscript c.carousel.viewModel fetch.index) then
        return {
          c with
          carousel.imageViews := c.carousel.imageViews.modify fetch.index fun view =>
            { view.stopLoading with image := img } }
      else return c

/-- `fetchImage(from:completion:)`. -/
def fetchImage (c : Carousel URL Image) (fetch : CarouselFetch URL) :
    Except Trap (Carousel URL Image) :=
  match c.cache fetch.url with
  | some cachedImage => c.completion fetch (some cachedImage)
  | none => .ok { c with downloads := c.downloads ++ [fetch] }

/-- One pass of the loop of `setViewModelToScrollView()`. -/
def setImageView (c : Carousel URL Image) (index : ℕ) : Except Trap (Carousel URL Image) := do
  let c := {
    c with
    carousel.imageViews := c.carousel.imageViews.modify index fun view =>
      { view with image := c.carousel.placeholderImage }.startLoading }
  c.fetchImage ⟨← subscript c.carousel.viewModel index, index⟩

/-- `setViewModelToScrollView()`. -/
def setViewModelToScrollView (c : Carousel URL Image) : Except Trap (Carousel URL Image) :=
  (List.range c.carousel.imageViews.length).foldlM setImageView c

/-- `showCarousel(inside:of:)`, whose `add` loads the view of the new carousel. -/
def showCarousel (coord : KSICInfiniteCoordinator URL) (placeholderImage : Image)
    (cache : URL → Option Image) : Except CarouselCrash (Carousel URL Image) := do
  let vm ← coord.carouselViewModel
  (setViewModelToScrollView
    ⟨coord, .create vm placeholderImage, cache, [], [], []⟩ : Except Trap (Carousel URL Image))

/-- `swapCarouselSubview()`. -/
def swapCarouselSubview (c : Carousel URL Image) : Except CarouselCrash (Carousel URL Image) := do
  return { c with carousel := ← c.carousel.scrollToCenterSubview false }

/-- `try! setPage(_:)`, with the `didSet` of `currentPage` and that of `viewModel`. -/
def setPage (c : Carousel URL Image) (p : ℕ) : Except CarouselCrash (Carousel URL Image) := do
  if c.coord.isPageInRange p then
    let coord := { c.coord with currentPage := p }
    let vm ← coord.carouselViewModel
    let c ← { c with coord := coord, carousel.viewModel := vm }.setViewModelToScrollView
    c.swapCarouselSubview
  else throw (.thrown .pageOutOfRange)

/-- `increasePageByOne()`. -/
def increasePageByOne (c : Carousel URL Image) : Except CarouselCrash (Carousel URL Image) :=
  if c.coord.currentPage = c.coord.lastPage then c.setPage c.coord.firstPage
  else c.setPage (c.coord.currentPage + 1)

/-- `reducePageByOne()`. -/
def reducePageByOne (c : Carousel URL Image) : Except CarouselCrash (Carousel URL Image) :=
  if c.coord.currentPage = c.coord.firstPage then c.setPage c.coord.lastPage
  else c.setPage (c.coord.currentPage - 1)

/-- `scrollViewDidEndScrolling(withNewContentOffsetX:oldContentOffsetX:)`. -/
def scrollViewDidEndScrolling (c : Carousel URL Image) (newX oldX : ℚ) :
    Except CarouselCrash (Carousel URL Image) := do
  let c ←
    if newX > oldX then c.increasePageByOne
    else if newX < oldX then c.reducePageByOne
    else pure c
  return { c with carousel.contentOffsetX := newX }

/-- `viewDidLayoutSubviews()` at a width of the scroll view. -/
def viewDidLayoutSubviews (c : Carousel URL Image) (width : ℚ) :
    Except CarouselCrash (Carousel URL Image) := do
  let vc := {
    c.carousel with
    scrollView.width := width
    scrollView.contentWidth := width * c.carousel.imageViewCount }
  let vc ← ((List.range vc.imageViewCount).foldlM KSICScrollerViewController.layoutImageView vc :
    Except Trap (KSICScrollerViewController URL Image))
  { c with carousel := vc }.swapCarouselSubview

/-- The block of the auto-scroll timer. -/
def autoScroll (c : Carousel URL Image) : Except CarouselCrash (Carousel URL Image) := do
  match c.coord.autoScrollTimer with
  | some (.left, _) => return { c with carousel := ← c.carousel.scrollToLastSubview true }
  | some (.right, _) => return { c with carousel := ← c.carousel.scrollToFirstSubview true }
  | none => return c

/-- The handler of a download, which runs in the background. -/
def downloaded (c : Carousel URL Image) (i : ℕ) (result : DownloadResult Image) :
    Carousel URL Image :=
  match c.downloads[i]? with
  | none => c
  | some fetch =>
      let c := { c with downloads := c.downloads.eraseIdx i }
      match result with
      | .image image => {
          c with
          cache := Function.update c.cache fetch.url (some image)
          handlers := c.handlers ++ [(fetch, some image)] }
      | .notAnImage => c
      | .failure => { c with handlers := c.handlers ++ [(fetch, none)] }

/-- A handler dispatches its image to the main queue. -/
def dispatched (c : Carousel URL Image) (i : ℕ) : Carousel URL Image :=
  match c.handlers[i]? with
  | none => c
  | some block => { c with handlers := c.handlers.eraseIdx i, blocks := c.blocks ++ [block] }

/-- The main queue runs its next block. -/
def turn (c : Carousel URL Image) : Except Trap (Carousel URL Image) :=
  match c.blocks with
  | [] => .ok c
  | (fetch, image) :: rest => { c with blocks := rest }.completion fetch image

end Carousel

/-- What can happen to a shown carousel. -/
inductive CarouselEvent (URL Image : Type) where
  /-- The auto-scroll timer fires. -/
  | timer
  /-- The scroll view moves, under a finger, while it decelerates or in an animation. -/
  | scrolled (x : ℚ)
  | willBeginDragging
  | didEndDecelerating
  | didEndScrollingAnimation
  | didLayoutSubviews (width : ℚ)
  | downloaded (i : ℕ) (result : DownloadResult Image)
  | dispatched (i : ℕ)
  | turn
  /-- The cache drops an image, or another carousel stores one. -/
  | cached (url : URL) (entry : Option Image)
  deriving DecidableEq

namespace Carousel

variable {URL Image : Type} [DecidableEq URL]

/-- One event. -/
def step (c : Carousel URL Image) :
    CarouselEvent URL Image → Except CarouselCrash (Carousel URL Image)
  | .timer => c.autoScroll
  | .scrolled x => .ok { c with carousel.scrollView.contentOffset := x }
  | .willBeginDragging => .ok { c with carousel := c.carousel.scrollViewWillBeginDragging }
  | .didEndDecelerating | .didEndScrollingAnimation =>
      c.scrollViewDidEndScrolling c.carousel.scrollView.contentOffset c.carousel.contentOffsetX
  | .didLayoutSubviews width => c.viewDidLayoutSubviews width
  | .downloaded i result => .ok (c.downloaded i result)
  | .dispatched i => .ok (c.dispatched i)
  | .turn => c.turn
  | .cached url entry => .ok { c with cache := Function.update c.cache url entry }

/-- A coordinator shows its carousel, and a run of events follows. -/
def run (coord : KSICInfiniteCoordinator URL) (placeholderImage : Image)
    (cache : URL → Option Image) (events : List (CarouselEvent URL Image)) :
    Except CarouselCrash (Carousel URL Image) := do
  events.foldlM step (← showCarousel coord placeholderImage cache)

end Carousel

end JazzOnTheMove.IOS
