import JazzOnTheMove.IOS.CarouselSteps

/-!
# Runs of a carousel

In a sound carousel the page is in range and every fetch is for one of the three image
views. No event crashes it, and every event keeps it sound, so no run ever crashes.
-/

namespace JazzOnTheMove.IOS

variable {URL Image : Type}

namespace Carousel

variable {c : Carousel URL Image}

variable (c) in
/-- The fetches whose completion handler may still be called. -/
def fetches : List (CarouselFetch URL) :=
  c.downloads ++ c.handlers.map Prod.fst ++ c.blocks.map Prod.fst

variable (c) in
/-- A carousel in which every subscript is in range. -/
structure Sound : Prop where
  page : c.coord.currentPage < c.coord.model.length
  viewModel : c.carousel.viewModel = c.coord.window
  imageViews : c.carousel.imageViews.length = 3
  fetches : ∀ fetch ∈ c.fetches, fetch.index < 3

/-- A sound carousel shows three pictures. -/
theorem Sound.length_viewModel (hc : c.Sound) : c.carousel.viewModel.length = 3 := by
  rw [hc.viewModel]
  exact KSICInfiniteCoordinator.length_window hc.page

/-- What changes neither the page nor the views, and starts no fetch, keeps a carousel sound. -/
theorem Sound.of_same (hc : c.Sound) {d : Carousel URL Image}
    (hsame : d.coord = c.coord ∧ d.carousel = c.carousel)
    (hfetches : ∀ fetch ∈ d.fetches, fetch ∈ c.fetches) : d.Sound where
  page := by rw [hsame.1]; exact hc.page
  viewModel := by rw [hsame.1, hsame.2]; exact hc.viewModel
  imageViews := by rw [hsame.2]; exact hc.imageViews
  fetches fetch hfetch := hc.fetches fetch (hfetches fetch hfetch)

/-- Reloading three image views keeps a carousel sound. -/
theorem Sound.reloaded (hc : c.Sound) : (c.reloaded 3).Sound where
  page := hc.page
  viewModel := hc.viewModel
  imageViews := by simp [Carousel.reloaded, hc.imageViews]
  fetches := by
    intro fetch hfetch
    simp only [Carousel.fetches, Carousel.reloaded, List.mem_append, List.mem_filterMap,
      List.mem_range] at hfetch
    rcases hfetch with ((hold | ⟨i, hi, hmissing⟩) | hhandler) | hblock
    · exact hc.fetches fetch (by simp [Carousel.fetches, hold])
    · obtain ⟨url, -, hurl⟩ := Option.bind_eq_some_iff.mp hmissing
      split at hurl
      · obtain rfl := Option.some.inj hurl
        exact hi
      · cases hurl
    · exact hc.fetches fetch (by simp [Carousel.fetches, hhandler])
    · exact hc.fetches fetch (by simp [Carousel.fetches, hblock])

/-- Turning to a page in range keeps a carousel sound. -/
theorem Sound.turnedTo (hc : c.Sound) {page : ℕ} (hpage : page < c.coord.model.length) :
    (c.turnedTo page).Sound := by
  let coord := { c.coord with currentPage := page }
  have hmoved : ({ c with coord := coord, carousel.viewModel := coord.window } :
      Carousel URL Image).Sound := ⟨hpage, rfl, hc.imageViews, hc.fetches⟩
  have hloaded := hmoved.reloaded
  exact ⟨hloaded.page, hloaded.viewModel, hloaded.imageViews, hloaded.fetches⟩

variable (c) in
/-- A dispatch changes no view. -/
theorem dispatched_same (i : ℕ) :
    (c.dispatched i).coord = c.coord ∧ (c.dispatched i).carousel = c.carousel := by
  unfold Carousel.dispatched
  cases c.handlers[i]? <;> exact ⟨rfl, rfl⟩

/-- A dispatch starts no fetch. -/
theorem mem_fetches_of_dispatched {i : ℕ} {fetch : CarouselFetch URL}
    (hfetch : fetch ∈ (c.dispatched i).fetches) : fetch ∈ c.fetches := by
  unfold Carousel.dispatched at hfetch
  cases hhandler : c.handlers[i]? with
  | none =>
    rw [hhandler] at hfetch
    exact hfetch
  | some ended =>
    have hended := List.mem_map_of_mem (f := Prod.fst) (List.mem_of_getElem? hhandler)
    rw [hhandler] at hfetch
    simp only [fetches, List.map_append, List.map_singleton, List.mem_append,
      List.mem_singleton] at hfetch ⊢
    rcases hfetch with (hdownload | hother) | hblock | rfl
    · exact Or.inl (Or.inl hdownload)
    · exact Or.inl (Or.inr (((c.handlers.eraseIdx_sublist i).map Prod.fst).subset hother))
    · exact Or.inr hblock
    · exact Or.inl (Or.inr hended)

variable [DecidableEq URL]

/-- The carousel after a scroll has ended. -/
def ended (c : Carousel URL Image) : Carousel URL Image :=
  let newX := c.carousel.scrollView.contentOffset
  let oldX := c.carousel.contentOffsetX
  let count := c.coord.model.length
  let turned :=
    if newX > oldX then
      c.turnedTo (KSICInfiniteCoordinator.pageAfter count c.coord.currentPage)
    else if newX < oldX then
      c.turnedTo (KSICInfiniteCoordinator.pageBefore count c.coord.currentPage)
    else c
  { turned with carousel.contentOffsetX := newX }

/-- The carousel after a completion handler was called in it. -/
def completed (c : Carousel URL Image) (fetch : CarouselFetch URL) :
    Option Image → Carousel URL Image
  | none => c
  | some img =>
      if c.carousel.viewModel[fetch.index]? = some fetch.url then {
        c with
        carousel.imageViews := c.carousel.imageViews.modify fetch.index fun view =>
          { view.stopLoading with image := img } }
      else c

/-- The carousel after an event that does not crash it. -/
def next (c : Carousel URL Image) : CarouselEvent URL Image → Carousel URL Image
  | .timer =>
      if c.coord.autoScrollTimer = none then c
      else { c with carousel := c.carousel.scrollViewWillBeginDragging }
  | .scrolled x => { c with carousel.scrollView.contentOffset := x }
  | .willBeginDragging => { c with carousel := c.carousel.scrollViewWillBeginDragging }
  | .didEndDecelerating | .didEndScrollingAnimation => c.ended
  | .didLayoutSubviews width => c.laidOut width
  | .downloaded i result => c.downloaded i result
  | .dispatched i => c.dispatched i
  | .turn =>
      match c.blocks with
      | [] => c
      | (fetch, image) :: rest => { c with blocks := rest }.completed fetch image
  | .cached url entry => { c with cache := Function.update c.cache url entry }

/-- A completion handler whose index is in range returns. -/
theorem completion_eq {fetch : CarouselFetch URL}
    (hindex : fetch.index < c.carousel.viewModel.length) (image : Option Image) :
    c.completion fetch image = .ok (c.completed fetch image) := by
  cases image with
  | none => rfl
  | some img =>
    unfold completion completed
    rw [subscript_of_lt hindex, List.getElem?_eq_getElem hindex]
    simp only [bind, Except.bind, Option.some.injEq, eq_comm (a := fetch.url)]
    split <;> rfl

/-- A scroll of a sound carousel ends. -/
theorem scrollViewDidEndScrolling_eq (hc : c.Sound) :
    c.scrollViewDidEndScrolling c.carousel.scrollView.contentOffset c.carousel.contentOffsetX =
      .ok c.ended := by
  unfold scrollViewDidEndScrolling ended
  by_cases hnext : c.carousel.scrollView.contentOffset > c.carousel.contentOffsetX
  · simp only [hnext, if_true, increasePageByOne_eq hc.imageViews hc.page]
    rfl
  · by_cases hprevious : c.carousel.scrollView.contentOffset < c.carousel.contentOffsetX
    · simp only [hnext, hprevious, if_true, if_false, reducePageByOne_eq hc.imageViews hc.page]
      rfl
    · simp only [hnext, hprevious, if_false]
      rfl

/-- **Events.** No event crashes a sound carousel. -/
theorem step_eq (hc : c.Sound) (e : CarouselEvent URL Image) : c.step e = .ok (c.next e) := by
  have hcount := hc.length_viewModel
  cases e with
  | timer =>
    unfold step next autoScroll KSICScrollerViewController.scrollToLastSubview
      KSICScrollerViewController.scrollToFirstSubview KSICScrollerViewController.imageViewCount
    rw [hcount]
    cases htimer : c.coord.autoScrollTimer with
    | none => rfl
    | some timer =>
      obtain ⟨direction, interval⟩ := timer
      cases direction <;> rfl
  | didEndDecelerating => exact scrollViewDidEndScrolling_eq hc
  | didEndScrollingAnimation => exact scrollViewDidEndScrolling_eq hc
  | didLayoutSubviews width => exact viewDidLayoutSubviews_eq hc.imageViews hcount width
  | turn =>
    unfold step next turn
    cases hblocks : c.blocks with
    | nil => rfl
    | cons block rest =>
      obtain ⟨fetch, image⟩ := block
      have hindex : fetch.index < 3 :=
        hc.fetches fetch (by simp [fetches, hblocks])
      simp only
      rw [completion_eq (by simpa [hcount] using hindex), liftM_ok]
  | scrolled _ => rfl
  | willBeginDragging => rfl
  | downloaded _ _ => rfl
  | dispatched _ => rfl
  | cached _ _ => rfl

/-- A completion handler keeps a carousel sound. -/
theorem Sound.completed (hc : c.Sound) (fetch : CarouselFetch URL) (image : Option Image) :
    (c.completed fetch image).Sound := by
  cases image with
  | none => exact hc
  | some img =>
    unfold Carousel.completed
    simp only
    split_ifs
    · exact ⟨hc.page, hc.viewModel, by simp [hc.imageViews], hc.fetches⟩
    · exact hc

variable (c) in
/-- A completion handler changes at most the image views. -/
theorem completed_same (fetch : CarouselFetch URL) (image : Option Image) :
    c.completed fetch image = {
      c with carousel.imageViews := (c.completed fetch image).carousel.imageViews } := by
  cases image with
  | none => rfl
  | some img =>
    unfold Carousel.completed
    simp only
    split_ifs <;> rfl

variable (c) in
/-- The end of a download changes no view. -/
theorem downloaded_same (i : ℕ) (result : DownloadResult Image) :
    (c.downloaded i result).coord = c.coord ∧ (c.downloaded i result).carousel = c.carousel := by
  unfold Carousel.downloaded
  cases c.downloads[i]? <;> cases result <;> exact ⟨rfl, rfl⟩

/-- The end of a download starts no fetch. -/
theorem mem_fetches_of_downloaded {i : ℕ} {result : DownloadResult Image}
    {fetch : CarouselFetch URL} (hfetch : fetch ∈ (c.downloaded i result).fetches) :
    fetch ∈ c.fetches := by
  unfold Carousel.downloaded at hfetch
  cases hdownload : c.downloads[i]? with
  | none =>
    rw [hdownload] at hfetch
    exact hfetch
  | some ended =>
    have hended := List.mem_of_getElem? hdownload
    rw [hdownload] at hfetch
    cases result <;>
      simp only [fetches, List.map_append, List.map_singleton, List.mem_append,
        List.mem_singleton] at hfetch ⊢ <;>
      grind [List.mem_of_mem_eraseIdx]

/-- **Step.** Every event keeps a carousel sound. -/
theorem Sound.next (hc : c.Sound) (e : CarouselEvent URL Image) : (c.next e).Sound := by
  have hcount : 0 < c.coord.model.length := Nat.lt_of_le_of_lt (Nat.zero_le _) hc.page
  have hended : c.ended.Sound := by
    have hafter := hc.turnedTo
      (KSICInfiniteCoordinator.pageAfter_lt hcount c.coord.currentPage)
    have hbefore := hc.turnedTo
      (KSICInfiniteCoordinator.pageBefore_lt hcount c.coord.currentPage)
    unfold ended
    simp only
    split_ifs
    · exact ⟨hafter.page, hafter.viewModel, hafter.imageViews, hafter.fetches⟩
    · exact ⟨hbefore.page, hbefore.viewModel, hbefore.imageViews, hbefore.fetches⟩
    · exact ⟨hc.page, hc.viewModel, hc.imageViews, hc.fetches⟩
  cases e with
  | timer =>
    change (if c.coord.autoScrollTimer = none then c
      else { c with carousel := c.carousel.scrollViewWillBeginDragging }).Sound
    split_ifs
    · exact hc
    · exact ⟨hc.page, hc.viewModel, hc.imageViews, hc.fetches⟩
  | scrolled x => exact ⟨hc.page, hc.viewModel, hc.imageViews, hc.fetches⟩
  | willBeginDragging => exact ⟨hc.page, hc.viewModel, hc.imageViews, hc.fetches⟩
  | didEndDecelerating => exact hended
  | didEndScrollingAnimation => exact hended
  | didLayoutSubviews width =>
    refine ⟨hc.page, hc.viewModel, ?_, hc.fetches⟩
    simp [Carousel.next, laidOut, KSICScrollerViewController.laidOut,
      KSICScrollerViewController.scrollToSubview, hc.imageViews]
  | downloaded i result =>
    exact hc.of_same (c.downloaded_same i result) fun fetch => mem_fetches_of_downloaded
  | dispatched i =>
    exact hc.of_same (c.dispatched_same i) fun fetch => mem_fetches_of_dispatched
  | turn =>
    unfold Carousel.next
    cases hblocks : c.blocks with
    | nil => exact hc
    | cons block rest =>
      obtain ⟨fetch, image⟩ := block
      have hrest : ({ c with blocks := rest } : Carousel URL Image).Sound := by
        refine hc.of_same ⟨rfl, rfl⟩ fun other hother => ?_
        simp only [Carousel.fetches, List.mem_append] at hother ⊢
        rw [hblocks]
        exact hother.imp_right (List.mem_cons_of_mem _)
      exact hrest.completed fetch image
  | cached url entry => exact ⟨hc.page, hc.viewModel, hc.imageViews, hc.fetches⟩

variable {coord : KSICInfiniteCoordinator URL}

/-- A carousel before its first load. -/
def created (coord : KSICInfiniteCoordinator URL) (placeholderImage : Image)
    (cache : URL → Option Image) : Carousel URL Image :=
  ⟨coord, .create coord.window placeholderImage, cache, [], [], []⟩

omit [DecidableEq URL] in
/-- A carousel is created sound. -/
theorem Sound.created (hpage : coord.currentPage < coord.model.length) (placeholderImage : Image)
    (cache : URL → Option Image) : (Carousel.created coord placeholderImage cache).Sound where
  page := hpage
  viewModel := rfl
  imageViews := by
    simp [Carousel.created, KSICScrollerViewController.create,
      KSICInfiniteCoordinator.length_window hpage]
  fetches := by simp [Carousel.created, Carousel.fetches]

/-- A coordinator whose page is in range shows a carousel. -/
theorem showCarousel_eq (hpage : coord.currentPage < coord.model.length) (placeholderImage : Image)
    (cache : URL → Option Image) :
    showCarousel coord placeholderImage cache =
      .ok ((created coord placeholderImage cache).reloaded 3) := by
  have hsound : (created coord placeholderImage cache).Sound :=
    Sound.created hpage placeholderImage cache
  unfold showCarousel
  rw [KSICInfiniteCoordinator.carouselViewModel_eq hpage, liftM_ok]
  change (liftM (setViewModelToScrollView (created coord placeholderImage cache)) :
    Except CarouselCrash (Carousel URL Image)) = _
  rw [setViewModelToScrollView_eq (by rw [hsound.imageViews, hsound.length_viewModel]),
    hsound.imageViews, liftM_ok]

/-- **Run.** A run from a page in range returns, and ends in a sound carousel. -/
theorem run_eq (hpage : coord.currentPage < coord.model.length) (placeholderImage : Image)
    (cache : URL → Option Image) (events : List (CarouselEvent URL Image)) :
    run coord placeholderImage cache events =
        .ok (events.foldl next ((created coord placeholderImage cache).reloaded 3)) ∧
      (events.foldl next ((created coord placeholderImage cache).reloaded 3)).Sound := by
  have hloop : ∀ {c : Carousel URL Image}, c.Sound →
      events.foldlM step c = .ok (events.foldl next c) ∧ (events.foldl next c).Sound := by
    intro c hc
    induction events generalizing c with
    | nil => exact ⟨rfl, hc⟩
    | cons e events ih =>
      rw [List.foldlM_cons, step_eq hc]
      exact ih (hc.next e)
  unfold run
  rw [showCarousel_eq hpage]
  exact hloop (Sound.created hpage placeholderImage cache).reloaded

end Carousel

end JazzOnTheMove.IOS
