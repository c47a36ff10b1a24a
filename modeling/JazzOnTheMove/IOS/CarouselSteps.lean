import JazzOnTheMove.IOS.CarouselScroller
import JazzOnTheMove.Library.Fallible

/-!
# What the carousel's operations return

A coordinator whose current page is in range never crashes. These lemmas say what each of
its operations returns: a page is shown as its picture between those of its neighbours,
taken cyclically, and all three image views load again.
-/

namespace JazzOnTheMove.IOS

/-! ## The view model -/

namespace KSICInfiniteCoordinator

variable {URL : Type} {coord : KSICInfiniteCoordinator URL}

/-- The page before a page, cyclically. -/
def pageBefore (count page : ℕ) : ℕ := (page + count - 1) % count

/-- The page after a page, cyclically. -/
def pageAfter (count page : ℕ) : ℕ := (page + 1) % count

/-- Before the first page comes the last one. -/
theorem pageBefore_zero {count : ℕ} (hcount : 0 < count) : pageBefore count 0 = count - 1 := by
  unfold pageBefore
  rw [Nat.zero_add, Nat.mod_eq_of_lt (by omega)]

/-- Before any other page comes the one with the number before. -/
theorem pageBefore_of_pos {count page : ℕ} (hpos : 0 < page) (hpage : page < count) :
    pageBefore count page = page - 1 := by
  unfold pageBefore
  have hsplit : page + count - 1 = page - 1 + count := by omega
  rw [hsplit, Nat.add_mod_right, Nat.mod_eq_of_lt (by omega)]

/-- After the last page comes the first one. -/
theorem pageAfter_last {count : ℕ} (hcount : 0 < count) : pageAfter count (count - 1) = 0 := by
  unfold pageAfter
  rw [Nat.sub_add_cancel hcount, Nat.mod_self]

/-- After any other page comes the one with the number after. -/
theorem pageAfter_of_lt {count page : ℕ} (hpage : page + 1 < count) :
    pageAfter count page = page + 1 :=
  Nat.mod_eq_of_lt hpage

/-- The page before is a page. -/
theorem pageBefore_lt {count : ℕ} (hcount : 0 < count) (page : ℕ) : pageBefore count page < count :=
  Nat.mod_lt _ hcount

/-- The page after is a page. -/
theorem pageAfter_lt {count : ℕ} (hcount : 0 < count) (page : ℕ) : pageAfter count page < count :=
  Nat.mod_lt _ hcount

variable (coord) in
/-- The pictures of the current page and its neighbours. -/
def window : List URL :=
  [pageBefore coord.model.length coord.currentPage, coord.currentPage,
    pageAfter coord.model.length coord.currentPage].filterMap fun page => coord.model[page]?

/-- Three subscripts in range. -/
private theorem subscripts_eq {model : List URL} {i j k : ℕ} (hi : i < model.length)
    (hj : j < model.length) (hk : k < model.length) :
    (do return [← subscript model i, ← subscript model j, ← subscript model k] :
      Except Trap (List URL)) = .ok ([i, j, k].filterMap fun page => model[page]?) := by
  rw [subscript_of_lt hi, subscript_of_lt hj, subscript_of_lt hk]
  simp only [List.filterMap_cons, List.filterMap_nil, List.getElem?_eq_getElem hi,
    List.getElem?_eq_getElem hj, List.getElem?_eq_getElem hk]
  rfl

/-- A page in range has its picture and those of its neighbours as view model. -/
theorem carouselViewModel_eq (hpage : coord.currentPage < coord.model.length) :
    coord.carouselViewModel = .ok coord.window := by
  unfold carouselViewModel window isFirstPage isLastPage firstPage lastPage
  have hcount : 0 < coord.model.length := by omega
  by_cases hone : coord.model.length = 1
  · have hzero : coord.currentPage = 0 := by omega
    rw [if_pos hone, subscripts_eq hpage hpage hpage, hone, hzero]
    rfl
  rw [if_neg hone]
  by_cases hfirst : coord.currentPage = 0
  · rw [if_pos (by simp [hfirst]), hfirst, pageBefore_zero hcount, pageAfter_of_lt (by omega)]
    exact subscripts_eq (by omega) hcount (by omega)
  rw [if_neg (by simp [hfirst]), pageBefore_of_pos (by omega) hpage]
  by_cases hlast : coord.currentPage = coord.model.length - 1
  · rw [if_pos (by simp [hlast]), hlast, pageAfter_last hcount]
    exact subscripts_eq (by omega) (by omega) hcount
  · rw [if_neg (by simp [hlast]), pageAfter_of_lt (by omega)]
    exact subscripts_eq (by omega) hpage (by omega)

/-- The pictures of the window, one by one. -/
theorem getElem?_window (hpage : coord.currentPage < coord.model.length) :
    coord.window[0]? = coord.model[pageBefore coord.model.length coord.currentPage]? ∧
      coord.window[1]? = coord.model[coord.currentPage]? ∧
      coord.window[2]? = coord.model[pageAfter coord.model.length coord.currentPage]? := by
  have hcount : 0 < coord.model.length := by omega
  have hbefore := pageBefore_lt hcount coord.currentPage
  have hafter := pageAfter_lt hcount coord.currentPage
  unfold window
  simp [List.getElem?_eq_getElem hpage, List.getElem?_eq_getElem hbefore,
    List.getElem?_eq_getElem hafter]

/-- There are always three pictures, which may be the same. -/
theorem length_window (hpage : coord.currentPage < coord.model.length) :
    coord.window.length = 3 := by
  have hcount : 0 < coord.model.length := by omega
  have hbefore := pageBefore_lt hcount coord.currentPage
  have hafter := pageAfter_lt hcount coord.currentPage
  unfold window
  simp only [List.filterMap_cons, List.filterMap_nil, List.getElem?_eq_getElem hpage,
    List.getElem?_eq_getElem hbefore, List.getElem?_eq_getElem hafter, List.length_cons,
    List.length_nil]

end KSICInfiniteCoordinator

/-! ## The image views -/

/-- One more pass of a loop over the image views. -/
private theorem modify_mapIdx {α : Type} (views : List α) (update : ℕ → α → α) (k : ℕ) :
    (views.mapIdx fun i view => if i < k then update i view else view).modify k (update k) =
      views.mapIdx fun i view => if i < k + 1 then update i view else view := by
  apply List.ext_getElem?
  intro i
  simp only [List.getElem?_modify, List.getElem?_mapIdx]
  rcases lt_trichotomy i k with hlt | rfl | hgt
  · simp [hlt, hlt.ne', Nat.lt_succ_of_lt hlt]
  · simp
  · simp [hgt.ne, hgt.not_gt, Nat.not_lt.mpr (Nat.succ_le_of_lt hgt)]

/-- A loop over the image views before its first pass. -/
private theorem mapIdx_self {α : Type} (views : List α) :
    views.mapIdx (fun _ view => view) = views :=
  List.ext_getElem? (by simp)

variable {URL Image : Type}

/-- An image view after a fetch was started for it, which may find its image in the cache. -/
def KSICImageView.fetching (view : KSICImageView Image) (placeholderImage : Image) :
    Option Image → KSICImageView Image
  | some cachedImage => { view with image := cachedImage, isLoading := false }
  | none => { view with image := placeholderImage, isLoading := true }

namespace Carousel

variable {c : Carousel URL Image}

/-- With three pictures, the scroll view can jump back to its center. -/
theorem swapCarouselSubview_eq (hcount : c.carousel.viewModel.length = 3) :
    c.swapCarouselSubview = .ok { c with carousel := c.carousel.scrollToSubview 1 false } := by
  unfold swapCarouselSubview KSICScrollerViewController.scrollToCenterSubview
  rw [if_neg (by rw [KSICScrollerViewController.imageViewCount, hcount]; omega)]
  rfl

variable [DecidableEq URL]

variable (c) in
/-- The fetch for an image view, if its image has to be downloaded. -/
def missing (i : ℕ) : Option (CarouselFetch URL) :=
  c.carousel.viewModel[i]?.bind fun url =>
    if c.cache url = none then some ⟨url, i⟩ else none

variable (c) in
/-- The carousel after the first passes of the loop of `setViewModelToScrollView()`. -/
def reloaded (k : ℕ) : Carousel URL Image := {
  c with
  carousel.imageViews := c.carousel.imageViews.mapIdx fun i view =>
    if i < k then
      view.fetching c.carousel.placeholderImage (c.carousel.viewModel[i]?.bind c.cache)
    else view
  downloads := c.downloads ++ (List.range k).filterMap c.missing }

/-- A fetch returns at once if its index is in range. -/
theorem fetchImage_eq {fetch : CarouselFetch URL}
    (hurl : c.carousel.viewModel[fetch.index]? = some fetch.url) :
    c.fetchImage fetch = .ok (match c.cache fetch.url with
      | some cachedImage => {
          c with
          carousel.imageViews := c.carousel.imageViews.modify fetch.index fun view =>
            { view.stopLoading with image := cachedImage } }
      | none => { c with downloads := c.downloads ++ [fetch] }) := by
  unfold fetchImage
  cases c.cache fetch.url with
  | none => rfl
  | some cachedImage =>
    unfold completion subscript
    simp only [hurl, bind, Except.bind, if_true]
    rfl

/-- **Pass.** One more pass of the loop. -/
theorem setImageView_reloaded {k : ℕ} (hk : k < c.carousel.viewModel.length) :
    (c.reloaded k).setImageView k = .ok (c.reloaded (k + 1)) := by
  have hurl : c.carousel.viewModel[k]? = some c.carousel.viewModel[k] :=
    List.getElem?_eq_getElem hk
  have hviews := modify_mapIdx c.carousel.imageViews (fun i view =>
    view.fetching c.carousel.placeholderImage (c.carousel.viewModel[i]?.bind c.cache)) k
  simp only [hurl, Option.bind_some] at hviews
  have hdownloads : (List.range (k + 1)).filterMap c.missing =
      (List.range k).filterMap c.missing ++ (c.missing k).toList := by
    rw [List.range_succ, List.filterMap_append]
    cases hmissing : c.missing k <;> simp [hmissing]
  unfold setImageView
  simp only [reloaded, subscript, hurl, bind, Except.bind]
  rw [fetchImage_eq (by exact hurl)]
  simp only [hdownloads, missing, hurl, Option.bind_some, ← hviews]
  cases hcache : c.cache c.carousel.viewModel[k] with
  | none =>
    simp only [if_true, Option.toList_some, List.append_assoc]
    rfl
  | some cachedImage =>
    simp only [List.modify_modify_eq, reduceCtorEq, if_false, Option.toList_none, List.append_nil]
    rfl

/-- Setting the view model again reloads all image views. -/
theorem setViewModelToScrollView_eq
    (hviews : c.carousel.imageViews.length ≤ c.carousel.viewModel.length) :
    c.setViewModelToScrollView = .ok (c.reloaded c.carousel.imageViews.length) := by
  have hloop : ∀ k ≤ c.carousel.imageViews.length,
      (List.range k).foldlM setImageView c = .ok (c.reloaded k) := by
    intro k hk
    induction k with
    | zero =>
      have hnone : c.reloaded 0 = c := by simp [reloaded, mapIdx_self]
      rw [hnone]
      rfl
    | succ k ih =>
      rw [List.range_succ, List.foldlM_append, ih (by omega)]
      change setImageView _ k >>= pure = _
      rw [setImageView_reloaded (by omega)]
      rfl
  exact hloop _ (Nat.le_refl _)

variable (c) in
/-- The carousel after it has turned to a page. -/
def turnedTo (page : ℕ) : Carousel URL Image :=
  let coord := { c.coord with currentPage := page }
  let loaded := { c with coord := coord, carousel.viewModel := coord.window }.reloaded 3
  { loaded with carousel := loaded.carousel.scrollToSubview 1 false }

/-- What returns in `Except Trap` returns the same when it is lifted. -/
@[simp] theorem liftM_ok {α : Type} (a : α) :
    (liftM (Except.ok a : Except Trap α) : Except CarouselCrash α) = .ok a := rfl

/-- A page in range can be turned to. -/
theorem setPage_eq (hviews : c.carousel.imageViews.length = 3) {page : ℕ}
    (hpage : page < c.coord.model.length) : c.setPage page = .ok (c.turnedTo page) := by
  have hrange : c.coord.isPageInRange page := by
    have hlast : page ≤ c.coord.model.length - 1 := by omega
    simp [KSICInfiniteCoordinator.isPageInRange, KSICInfiniteCoordinator.firstPage,
      KSICInfiniteCoordinator.lastPage, hlast]
  let coord := { c.coord with currentPage := page }
  have hwindow : coord.window.length = 3 := KSICInfiniteCoordinator.length_window hpage
  have hmodel : coord.carouselViewModel = .ok coord.window :=
    KSICInfiniteCoordinator.carouselViewModel_eq hpage
  unfold setPage
  simp only [hrange, if_true]
  change (do
    let vm ← coord.carouselViewModel
    let c ← { c with coord := coord, carousel.viewModel := vm }.setViewModelToScrollView
    c.swapCarouselSubview : Except CarouselCrash (Carousel URL Image)) = _
  rw [hmodel, liftM_ok]
  simp only [bind, Except.bind]
  rw [setViewModelToScrollView_eq (by simp [hviews, hwindow]), liftM_ok]
  change swapCarouselSubview _ = _
  rw [swapCarouselSubview_eq (by exact hwindow), turnedTo, hviews]

/-- The next page is one page on, cyclically. -/
theorem increasePageByOne_eq (hviews : c.carousel.imageViews.length = 3)
    (hpage : c.coord.currentPage < c.coord.model.length) :
    c.increasePageByOne = .ok (c.turnedTo
      (KSICInfiniteCoordinator.pageAfter c.coord.model.length c.coord.currentPage)) := by
  unfold increasePageByOne KSICInfiniteCoordinator.lastPage KSICInfiniteCoordinator.firstPage
  have hcount : 0 < c.coord.model.length := by omega
  by_cases hlast : c.coord.currentPage = c.coord.model.length - 1
  · rw [if_pos hlast, hlast, KSICInfiniteCoordinator.pageAfter_last hcount]
    exact setPage_eq hviews hcount
  · rw [if_neg hlast, KSICInfiniteCoordinator.pageAfter_of_lt (by omega)]
    exact setPage_eq hviews (by omega)

/-- The previous page is one page back, cyclically. -/
theorem reducePageByOne_eq (hviews : c.carousel.imageViews.length = 3)
    (hpage : c.coord.currentPage < c.coord.model.length) :
    c.reducePageByOne = .ok (c.turnedTo
      (KSICInfiniteCoordinator.pageBefore c.coord.model.length c.coord.currentPage)) := by
  unfold reducePageByOne KSICInfiniteCoordinator.lastPage KSICInfiniteCoordinator.firstPage
  have hcount : 0 < c.coord.model.length := by omega
  by_cases hfirst : c.coord.currentPage = 0
  · rw [if_pos hfirst, hfirst, KSICInfiniteCoordinator.pageBefore_zero hcount]
    exact setPage_eq hviews (by omega)
  · rw [if_neg hfirst, KSICInfiniteCoordinator.pageBefore_of_pos (by omega) hpage]
    exact setPage_eq hviews (by omega)

end Carousel

/-! ## Layout -/

namespace KSICScrollerViewController

variable {vc : KSICScrollerViewController URL Image}

variable (vc) in
/-- The carousel after the first passes of the loop of `viewDidLayoutSubviews()`. -/
def laidOut (k : ℕ) : KSICScrollerViewController URL Image := {
  vc with
  imageViews := vc.imageViews.mapIdx fun i view =>
    if i < k then { view with frameX := vc.scrollView.width * i } else view }

/-- One more pass of the loop. -/
theorem layoutImageView_laidOut {k : ℕ} (hk : k < vc.imageViews.length) :
    (vc.laidOut k).layoutImageView k = .ok (vc.laidOut (k + 1)) := by
  have hview : (vc.laidOut k).imageViews[k]? = some vc.imageViews[k] := by
    simp [laidOut, List.getElem?_mapIdx, List.getElem?_eq_getElem hk]
  have hset : (vc.laidOut k).imageViews.set k
      { vc.imageViews[k] with frameX := vc.scrollView.width * k } =
        (vc.laidOut (k + 1)).imageViews := by
    rw [laidOut, laidOut, ← modify_mapIdx]
    apply List.ext_getElem?
    intro i
    rcases eq_or_ne k i with rfl | hne
    · simp [hk]
    · simp [hne]
  unfold layoutImageView subscript
  simp only [hview, bind, Except.bind]
  exact congrArg (fun views => Except.ok { vc with imageViews := views }) hset

/-- The loop lays all image views out. -/
theorem foldlM_layoutImageView {k : ℕ} (hk : k ≤ vc.imageViews.length) :
    (List.range k).foldlM layoutImageView vc = .ok (vc.laidOut k) := by
  induction k with
  | zero =>
    have hnone : vc.laidOut 0 = vc := by simp [laidOut, mapIdx_self]
    rw [hnone]
    rfl
  | succ k ih =>
    rw [List.range_succ, List.foldlM_append, ih (by omega)]
    change layoutImageView _ k >>= pure = _
    rw [layoutImageView_laidOut (by omega)]
    rfl

end KSICScrollerViewController

namespace Carousel

variable {c : Carousel URL Image}

variable (c) in
/-- The carousel after a layout at a width. -/
def laidOut (width : ℚ) : Carousel URL Image :=
  let vc := {
    c.carousel with
    scrollView.width := width
    scrollView.contentWidth := width * c.carousel.imageViewCount }
  { c with carousel := (vc.laidOut 3).scrollToSubview 1 false }

/-- A layout of three image views. -/
theorem viewDidLayoutSubviews_eq (hviews : c.carousel.imageViews.length = 3)
    (hcount : c.carousel.viewModel.length = 3) (width : ℚ) :
    c.viewDidLayoutSubviews width = .ok (c.laidOut width) := by
  unfold viewDidLayoutSubviews
  simp only [KSICScrollerViewController.imageViewCount, hcount]
  rw [KSICScrollerViewController.foldlM_layoutImageView (by simp [hviews]), liftM_ok]
  change swapCarouselSubview _ = _
  rw [swapCarouselSubview_eq (by exact hcount), laidOut]
  simp only [KSICScrollerViewController.imageViewCount, hcount]

end Carousel

end JazzOnTheMove.IOS
