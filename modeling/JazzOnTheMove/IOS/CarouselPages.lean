import JazzOnTheMove.IOS.CarouselRuns
import JazzOnTheMove.IOS.Carousels
import JazzOnTheMove.Library.Pager
import Mathlib.Tactic.Linarith

/-!
# Which page a carousel shows

The scroll view and the current page of a carousel follow an endless pager, whatever the
downloads do meanwhile. So its page is a sum of the pages turned, and a scroll keeps the
picture in sight exactly if it does not stop against the direction of its place.
-/

namespace JazzOnTheMove.IOS

variable {URL Image : Type}

/-- How an event moves the pager. -/
def CarouselEvent.move (autoScrolls : Bool) : CarouselEvent URL Image → Option (Pager.Move ℚ)
  | .timer => if autoScrolls then some .start else none
  | .scrolled x => some (.scrolled x)
  | .willBeginDragging => some .start
  | .didEndDecelerating | .didEndScrollingAnimation => some .stop
  | .didLayoutSubviews width => some (.layout width)
  | .downloaded _ _ | .dispatched _ | .turn | .cached _ _ => none

namespace Carousel

/-- The pager of a coordinator after some events. -/
def pager (coord : KSICInfiniteCoordinator URL) (events : List (CarouselEvent URL Image)) :
    Pager.State ℚ :=
  (events.filterMap (CarouselEvent.move coord.autoScrollTimer.isSome)).foldl Pager.step
    (Pager.created coord.currentPage)

/-- A carousel is where the pager is. -/
structure Follows (coord : KSICInfiniteCoordinator URL) (s : Pager.State ℚ)
    (c : Carousel URL Image) : Prop where
  sound : c.Sound
  coordinator : c.coord = { coord with currentPage := c.coord.currentPage }
  page : (c.coord.currentPage : ℤ) = s.page % coord.model.length
  width : c.carousel.scrollView.width = s.width
  contentWidth : c.carousel.scrollView.contentWidth = s.width * 3
  offset : c.carousel.scrollView.contentOffset = s.offset
  startedAt : c.carousel.contentOffsetX = s.startedAt
  frames : c.carousel.imageViews.map KSICImageView.frameX = [0, s.width, s.width + s.width]

variable {coord : KSICInfiniteCoordinator URL} {s : Pager.State ℚ} {c : Carousel URL Image}

/-- The center of three places, as the scroll view finds it. -/
theorem scroll_center (width : ℚ) :
    max 0 (min (width * (1 : ℕ)) (width * 3 - width)) = Pager.centerOf width := by
  unfold Pager.centerOf
  rcases le_total 0 width with hwidth | hwidth
  · rw [Nat.cast_one, mul_one, min_eq_left (by linarith)]
  · rw [Nat.cast_one, mul_one, min_eq_right (by linarith), max_eq_left (by linarith),
      max_eq_left hwidth]

/-- One page on. -/
theorem pageAfter_cast {count page : ℕ} {turned : ℤ} (hpage : (page : ℤ) = turned % count) :
    (KSICInfiniteCoordinator.pageAfter count page : ℤ) = (turned + 1) % count := by
  unfold KSICInfiniteCoordinator.pageAfter
  rw [Int.natCast_mod, Nat.cast_add, hpage, Nat.cast_one, Int.emod_add_emod]

/-- One page back. -/
theorem pageBefore_cast {count page : ℕ} {turned : ℤ} (hcount : 0 < count)
    (hpage : (page : ℤ) = turned % count) :
    (KSICInfiniteCoordinator.pageBefore count page : ℤ) = (turned + -1) % count := by
  unfold KSICInfiniteCoordinator.pageBefore
  have hsub : ((page + count - 1 : ℕ) : ℤ) = page + -1 + count := by omega
  rw [Int.natCast_mod, hsub, hpage, Int.add_emod_right, Int.emod_add_emod]

/-- A fetch leaves an image view where it is. -/
@[simp] theorem frameX_fetching (view : KSICImageView Image) (placeholderImage : Image)
    (entry : Option Image) : (view.fetching placeholderImage entry).frameX = view.frameX := by
  cases entry <;> rfl

/-- Reloading leaves the image views where they are. -/
theorem frames_reloaded (c : Carousel URL Image) (k : ℕ) :
    (c.reloaded k).carousel.imageViews.map KSICImageView.frameX =
      c.carousel.imageViews.map KSICImageView.frameX := by
  apply List.ext_getElem?
  intro i
  simp only [reloaded, List.getElem?_map, List.getElem?_mapIdx, Option.map_map]
  congr 1
  funext view
  by_cases hi : i < k <;> simp [hi]

/-- Turning to a page moves the pager to its center. -/
theorem Follows.turnedTo (hc : Follows coord s c) {page : ℕ} {turned : ℤ}
    (hpage : page < coord.model.length) (hturned : (page : ℤ) = turned % coord.model.length)
    (startedAt : ℚ) :
    Follows coord { s with
      offset := Pager.centerOf s.width, startedAt := startedAt, page := turned }
      { c.turnedTo page with carousel.contentOffsetX := startedAt } := by
  have hmodel : c.coord.model.length = coord.model.length := by rw [hc.coordinator]
  have hsound := hc.sound.turnedTo (hmodel ▸ hpage)
  refine ⟨⟨hsound.page, hsound.viewModel, hsound.imageViews, hsound.fetches⟩, ?_, hturned,
    hc.width, hc.contentWidth, ?_, rfl, ?_⟩
  · change { c.coord with currentPage := page } = { coord with currentPage := page }
    rw [hc.coordinator]
  · change max 0 (min (c.carousel.scrollView.width * (1 : ℕ))
      (c.carousel.scrollView.contentWidth - c.carousel.scrollView.width)) = _
    rw [hc.width, hc.contentWidth, scroll_center]
  · rw [← hc.frames]
    exact frames_reloaded _ 3

/-- The end of a scroll moves the pager by its direction. -/
theorem Follows.ended (hc : Follows coord s c) :
    Follows coord (Pager.step s .stop) c.ended := by
  have hmodel : c.coord.model.length = coord.model.length := by rw [hc.coordinator]
  have hcount : 0 < coord.model.length := by
    have hpage := hc.sound.page
    omega
  unfold Carousel.ended Pager.step Pager.State.direction
  simp only [hc.offset, hc.startedAt, hmodel]
  by_cases hnext : s.startedAt < s.offset
  · simp only [hnext, if_true]
    exact hc.turnedTo (KSICInfiniteCoordinator.pageAfter_lt hcount _) (pageAfter_cast hc.page)
      s.offset
  · by_cases hprevious : s.offset < s.startedAt
    · simp only [hnext, hprevious, if_true, if_false]
      exact hc.turnedTo (KSICInfiniteCoordinator.pageBefore_lt hcount _)
        (pageBefore_cast hcount hc.page) s.offset
    · simp only [hnext, hprevious, if_false, if_true, add_zero]
      exact ⟨⟨hc.sound.page, hc.sound.viewModel, hc.sound.imageViews, hc.sound.fetches⟩,
        hc.coordinator, hc.page, hc.width, hc.contentWidth, hc.offset, rfl, hc.frames⟩

/-- A carousel whose views and pages are the same is where the pager is. -/
theorem Follows.congr (hc : Follows coord s c) {d : Carousel URL Image} (hd : d.Sound)
    (hcoord : d.coord = c.coord) (hscroll : d.carousel.scrollView = c.carousel.scrollView)
    (hstart : d.carousel.contentOffsetX = c.carousel.contentOffsetX)
    (hframes : d.carousel.imageViews.map KSICImageView.frameX =
      c.carousel.imageViews.map KSICImageView.frameX) : Follows coord s d where
  sound := hd
  coordinator := by rw [hcoord]; exact hc.coordinator
  page := by rw [hcoord]; exact hc.page
  width := by rw [hscroll]; exact hc.width
  contentWidth := by rw [hscroll]; exact hc.contentWidth
  offset := by rw [hscroll]; exact hc.offset
  startedAt := by rw [hstart]; exact hc.startedAt
  frames := by rw [hframes]; exact hc.frames

/-- What changes neither the page nor the views leaves the carousel where the pager is. -/
theorem Follows.of_same (hc : Follows coord s c) {d : Carousel URL Image} (hd : d.Sound)
    (hsame : d.coord = c.coord ∧ d.carousel = c.carousel) : Follows coord s d := by
  obtain ⟨hcoord, hcarousel⟩ := hsame
  have hscroll : d.carousel.scrollView = c.carousel.scrollView := by rw [hcarousel]
  have hstart : d.carousel.contentOffsetX = c.carousel.contentOffsetX := by rw [hcarousel]
  exact hc.congr hd hcoord hscroll hstart (by rw [hcarousel])

/-- The pager of one more event. -/
theorem pager_concat (coord : KSICInfiniteCoordinator URL)
    (events : List (CarouselEvent URL Image)) (e : CarouselEvent URL Image) :
    pager coord (events ++ [e]) =
      (e.move coord.autoScrollTimer.isSome).elim (pager coord events)
        (Pager.step (pager coord events)) := by
  unfold pager
  rw [List.filterMap_append, List.foldl_append]
  cases hmove : e.move coord.autoScrollTimer.isSome <;> simp [hmove]

/-- A carousel is created where the pager is. -/
theorem follows_created (hpage : coord.currentPage < coord.model.length) (placeholderImage : Image)
    (cache : URL → Option Image) :
    Follows coord (Pager.created coord.currentPage)
      ((created coord placeholderImage cache).reloaded 3) where
  sound := (Sound.created hpage placeholderImage cache).reloaded
  coordinator := rfl
  page := (Int.emod_eq_of_lt (by simp) (by exact_mod_cast hpage)).symm
  width := rfl
  contentWidth := (zero_mul 3).symm
  offset := rfl
  startedAt := rfl
  frames := by
    obtain ⟨first, second, third, hwindow⟩ :=
      List.length_eq_three.mp (KSICInfiniteCoordinator.length_window hpage)
    rw [frames_reloaded]
    simp [created, KSICScrollerViewController.create, hwindow, Pager.created]

variable [DecidableEq URL]

/-- A layout lays the three image views out and moves the pager to its center. -/
theorem Follows.laidOut (hc : Follows coord s c) (width : ℚ) :
    Follows coord (Pager.step s (.layout width)) (c.laidOut width) := by
  obtain ⟨first, second, third, hviews⟩ := List.length_eq_three.mp hc.sound.imageViews
  have hcontent : width * (c.carousel.imageViewCount : ℕ) = width * 3 := by
    rw [KSICScrollerViewController.imageViewCount, hc.sound.length_viewModel]
    norm_num
  have hcenter : max 0 (min (width * (1 : ℕ)) (width * (c.carousel.imageViewCount : ℕ) - width)) =
      Pager.centerOf width := by
    rw [hcontent, scroll_center]
  refine ⟨hc.sound.next (.didLayoutSubviews width), hc.coordinator, hc.page, rfl, hcontent,
    hcenter, hcenter, ?_⟩
  change (c.carousel.imageViews.mapIdx fun i view =>
    if i < 3 then { view with frameX := width * (i : ℕ) } else view).map KSICImageView.frameX =
      [0, width, width + width]
  rw [hviews]
  simp [← two_mul, mul_comm width]

/-- A completion handler leaves the image views where they are. -/
theorem frames_completed (c : Carousel URL Image) (fetch : CarouselFetch URL)
    (image : Option Image) :
    (c.completed fetch image).carousel.imageViews.map KSICImageView.frameX =
      c.carousel.imageViews.map KSICImageView.frameX := by
  cases image with
  | none => rfl
  | some img =>
    unfold completed
    simp only
    split_ifs
    · apply List.ext_getElem?
      intro i
      simp only [List.getElem?_map, List.getElem?_modify, Functor.map, Option.map_map]
      congr 1
      funext view
      by_cases hi : fetch.index = i <;> simp [hi, KSICImageView.stopLoading]
    · rfl

/-- **Step.** Every event moves the carousel as it moves the pager. -/
theorem Follows.next (hc : Follows coord s c) (e : CarouselEvent URL Image) :
    Follows coord ((e.move coord.autoScrollTimer.isSome).elim s (Pager.step s)) (c.next e) := by
  have hsound := hc.sound.next e
  have htimer : c.coord.autoScrollTimer = coord.autoScrollTimer := by rw [hc.coordinator]
  have hstart : Follows coord (Pager.step s .start)
      { c with carousel := c.carousel.scrollViewWillBeginDragging } :=
    ⟨⟨hc.sound.page, hc.sound.viewModel, hc.sound.imageViews, hc.sound.fetches⟩,
      hc.coordinator, hc.page, hc.width, hc.contentWidth, hc.offset, hc.offset, hc.frames⟩
  cases e with
  | timer =>
    cases hscrolls : coord.autoScrollTimer with
    | none => simpa [Carousel.next, CarouselEvent.move, htimer, hscrolls] using hc
    | some timer => simpa [Carousel.next, CarouselEvent.move, htimer, hscrolls] using hstart
  | scrolled x =>
    exact ⟨hsound, hc.coordinator, hc.page, hc.width, hc.contentWidth, rfl, hc.startedAt,
      hc.frames⟩
  | willBeginDragging => exact hstart
  | didEndDecelerating => exact hc.ended
  | didEndScrollingAnimation => exact hc.ended
  | didLayoutSubviews width => exact hc.laidOut width
  | downloaded i result => exact hc.of_same hsound (c.downloaded_same i result)
  | dispatched i => exact hc.of_same hsound (c.dispatched_same i)
  | turn =>
    change Follows coord s _
    cases hblocks : c.blocks with
    | nil =>
      simp only [Carousel.next, hblocks]
      exact hc
    | cons block rest =>
      obtain ⟨fetch, image⟩ := block
      have hsame := completed_same ({ c with blocks := rest } : Carousel URL Image) fetch image
      have hframes := frames_completed ({ c with blocks := rest } : Carousel URL Image) fetch image
      simp only [Carousel.next, hblocks] at hsound ⊢
      rw [hsame] at hsound ⊢
      exact hc.congr hsound rfl rfl rfl hframes
  | cached url entry => exact hc.of_same hsound ⟨rfl, rfl⟩

/-- **Run.** Every run of a carousel follows the pager. -/
theorem follows_run (hpage : coord.currentPage < coord.model.length) (placeholderImage : Image)
    (cache : URL → Option Image) (events : List (CarouselEvent URL Image)) :
    ∃ c, run coord placeholderImage cache events = .ok c ∧
      Follows coord (pager coord events) c := by
  refine ⟨_, (run_eq hpage placeholderImage cache events).1, ?_⟩
  induction events using List.reverseRecOn with
  | nil => exact follows_created hpage placeholderImage cache
  | append_singleton events e ih =>
    rw [List.foldl_append, pager_concat]
    exact ih.next e

end Carousel

/-- The coordinators that a screen shows start at the first page of a model that is not empty. -/
theorem CarouselVC.currentPage_lt {urlOf : String → Option URL} {placeholder : URL}
    {screen : LoadSlider} {deal : List Slider} {message : String} {vc : CarouselVC URL}
    (hvc : deliverSliders urlOf placeholder screen deal message = .ok vc)
    {coord : KSICInfiniteCoordinator URL} (hcoord : coord ∈ vc.carousels) :
    coord.currentPage < coord.model.length := by
  rw [deliverSliders_eq] at hvc
  split at hvc
  · obtain rfl := Except.ok.inj hvc
    simp only [showing, carouselsOf, List.nil_append, List.mem_map, List.mem_range] at hcoord
    obtain ⟨i, hi, rfl⟩ := hcoord
    change 0 < (List.take (i + 1) _).length
    rw [List.length_take]
    omega
  · cases hvc

/-- **Screens.** No carousel that a screen shows ever crashes. Its view model is always the
picture of its page between those of the neighbouring pages, and its page is the sum of the
pages turned by the moves of its scroll view, modulo the number of its pictures. -/
theorem screen_carousels_run [DecidableEq URL] (urlOf : String → Option URL) (placeholder : URL)
    (sec : MenuSection) (deal : List Slider) (message : String) {vc : CarouselVC URL}
    (hvc : CarouselVC.deliverSliders urlOf placeholder (loadSlider sec) deal message = .ok vc)
    {coord : KSICInfiniteCoordinator URL} (hcoord : coord ∈ vc.carousels)
    (placeholderImage : Image) (cache : URL → Option Image)
    (events : List (CarouselEvent URL Image)) :
    ∃ c, Carousel.run coord placeholderImage cache events = .ok c ∧
      c.carousel.viewModel = c.coord.window ∧ c.coord.model = coord.model ∧
      (c.coord.currentPage : ℤ) = (Carousel.pager coord events).page % coord.model.length := by
  obtain ⟨c, hrun, hc⟩ := Carousel.follows_run (CarouselVC.currentPage_lt hvc hcoord)
    placeholderImage cache events
  exact ⟨c, hrun, hc.sound.viewModel, by rw [hc.coordinator], hc.page⟩

/-- The timer scrolls to the next picture. -/
def timerScroll : List (CarouselEvent String ℕ) :=
  [.didLayoutSubviews 100, .timer, .scrolled 200, .didEndScrollingAnimation]

/-- The last carousel of a screen with two sliders. -/
theorem screen_carousel_of_two_sliders :
    ∃ c, Carousel.run (CarouselVC.carouselOf ["https://x/1", "https://x/2"]) 0 (fun _ => none)
        timerScroll = .ok c ∧
      c.carousel.viewModel = c.coord.window ∧ c.coord.model = ["https://x/1", "https://x/2"] ∧
      (c.coord.currentPage : ℤ) =
        (Carousel.pager (CarouselVC.carouselOf ["https://x/1", "https://x/2"])
          timerScroll).page % 2 :=
  screen_carousels_run some "placeholder" .coffee
    [⟨some "1", some "https://x/1", none⟩, ⟨some "2", some "https://x/2", none⟩] "Suceessful" rfl
    (List.mem_of_getElem? (i := 1) rfl) 0 (fun _ => none) timerScroll

end JazzOnTheMove.IOS
