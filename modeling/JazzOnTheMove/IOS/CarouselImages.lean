import JazzOnTheMove.IOS.CarouselRuns
import Mathlib.Data.List.Induction

/-!
# Which images a carousel shows

Fetches end in any order, some after the page has been turned several times, some never. An
image view nevertheless shows only images of the address at its place, and as long as it
shows the placeholder, a fetch of that address is under way or has failed.
-/

namespace JazzOnTheMove.IOS

variable {URL Image : Type}

namespace Carousel

/-! ## What the events bring -/

/-- An event brings an image of an address, by a download or into the shared cache. -/
def Brings (c : Carousel URL Image) : CarouselEvent URL Image → URL → Image → Prop
  | .downloaded i (.image image), url, shown =>
      ∃ fetch, c.downloads[i]? = some fetch ∧ fetch.url = url ∧ image = shown
  | .cached cachedURL (some image), url, shown => cachedURL = url ∧ image = shown
  | _, _, _ => False

/-- An event ends a fetch without an image. -/
def Fails (c : Carousel URL Image) : CarouselEvent URL Image → CarouselFetch URL → Prop
  | .downloaded i .notAnImage, fetch => c.downloads[i]? = some fetch
  | .downloaded i .failure, fetch => c.downloads[i]? = some fetch
  | _, _ => False

/-- An image view at a place with an address shows one of the `brought` images of that
address, or the placeholder while its fetch is under way or has `failed`. -/
def ShowsOrLoads (brought : URL → Image → Prop) (failed : CarouselFetch URL → Prop)
    (placeholderImage : Image) (c : Carousel URL Image) (i : ℕ) (url : URL)
    (view : KSICImageView Image) : Prop :=
  view.isLoading = true ∧ view.image = placeholderImage ∧
      ((⟨url, i⟩ : CarouselFetch URL) ∈ c.fetches ∨ failed ⟨url, i⟩) ∨
    view.isLoading = false ∧ brought url view.image

/-- A fetch was answered with one of the `brought` images of its address, or it has `failed`. -/
def Answered (brought : URL → Image → Prop) (failed : CarouselFetch URL → Prop) :
    CarouselFetch URL × Option Image → Prop
  | (fetch, some image) => brought fetch.url image
  | (fetch, none) => failed fetch

/-- The images that were brought so far are in the cache, under way or shown, each for its
address. -/
structure Loads (brought : URL → Image → Prop) (failed : CarouselFetch URL → Prop)
    (placeholderImage : Image) (c : Carousel URL Image) : Prop where
  placeholder : c.carousel.placeholderImage = placeholderImage
  cached : ∀ url image, c.cache url = some image → brought url image
  answers : ∀ answer ∈ c.handlers ++ c.blocks, Answered brought failed answer
  views : ∀ i url view, c.carousel.viewModel[i]? = some url →
    c.carousel.imageViews[i]? = some view →
      ShowsOrLoads brought failed placeholderImage c i url view

variable {brought brought' : URL → Image → Prop} {failed failed' : CarouselFetch URL → Prop}
  {placeholderImage : Image} {c d : Carousel URL Image}

/-- Whatever was brought and has failed, more may have. -/
theorem Loads.mono (hc : Loads brought failed placeholderImage c)
    (hbrought : ∀ url image, brought url image → brought' url image)
    (hfailed : ∀ fetch, failed fetch → failed' fetch) :
    Loads brought' failed' placeholderImage c where
  placeholder := hc.placeholder
  cached url image hcached := hbrought url image (hc.cached url image hcached)
  answers := by
    rintro ⟨fetch, entry⟩ hanswer
    have hold := hc.answers _ hanswer
    cases entry with
    | none => exact hfailed fetch hold
    | some image => exact hbrought fetch.url image hold
  views i url view hurl hview := by
    rcases hc.views i url view hurl hview with ⟨hloading, hplaceholder, hfetch⟩ | ⟨hshown, himage⟩
    · exact Or.inl ⟨hloading, hplaceholder, hfetch.imp_right (hfailed _)⟩
    · exact Or.inr ⟨hshown, hbrought _ _ himage⟩

/-- Events that change neither the images nor the fetches. -/
theorem Loads.congr (hc : Loads brought failed placeholderImage c)
    (hplaceholder : d.carousel.placeholderImage = c.carousel.placeholderImage)
    (hcache : d.cache = c.cache) (hdownloads : d.downloads = c.downloads)
    (hhandlers : d.handlers = c.handlers) (hblocks : d.blocks = c.blocks)
    (hmodel : d.carousel.viewModel = c.carousel.viewModel)
    (hviews : ∀ (i : ℕ) (view : KSICImageView Image), d.carousel.imageViews[i]? = some view →
      ∃ old : KSICImageView Image, c.carousel.imageViews[i]? = some old ∧
        view.image = old.image ∧ view.isLoading = old.isLoading) :
    Loads brought failed placeholderImage d where
  placeholder := by rw [hplaceholder, hc.placeholder]
  cached := by rw [hcache]; exact hc.cached
  answers := by rw [hhandlers, hblocks]; exact hc.answers
  views := by
    intro i url view hurl hview
    obtain ⟨old, hold, himage, hloading⟩ := hviews i view hview
    have hshows := hc.views i url old (hmodel ▸ hurl) hold
    unfold ShowsOrLoads fetches at hshows ⊢
    rwa [himage, hloading, hdownloads, hhandlers, hblocks]

/-- Events that change only the cache and the fetches. -/
theorem Loads.refetch (hc : Loads brought failed placeholderImage c)
    {cache : URL → Option Image} {downloads : List (CarouselFetch URL)}
    {handlers blocks : List (CarouselFetch URL × Option Image)}
    (hcached : ∀ url image, cache url = some image → brought url image)
    (hanswers : ∀ answer ∈ handlers ++ blocks, Answered brought failed answer)
    (hfetches : ∀ fetch ∈ c.fetches, c.carousel.viewModel[fetch.index]? = some fetch.url →
      fetch ∈ downloads ++ handlers.map Prod.fst ++ blocks.map Prod.fst ∨ failed fetch) :
    Loads brought failed placeholderImage { c with
      cache := cache, downloads := downloads, handlers := handlers, blocks := blocks } where
  placeholder := hc.placeholder
  cached := hcached
  answers := hanswers
  views i url view hurl hview := by
    rcases hc.views i url view hurl hview with ⟨hloading, hplaceholder, hfetch⟩ | hshown
    · exact Or.inl ⟨hloading, hplaceholder, hfetch.elim (hfetches ⟨url, i⟩ · hurl) Or.inr⟩
    · exact Or.inr hshown

/-- **Reload.** Reloading shows what the cache has and fetches the rest. -/
theorem loads_reloaded (hplaceholder : c.carousel.placeholderImage = placeholderImage)
    (hcached : ∀ url image, c.cache url = some image → brought url image)
    (hanswers : ∀ answer ∈ c.handlers ++ c.blocks, Answered brought failed answer)
    (hviews : c.carousel.imageViews.length = 3) :
    Loads brought failed placeholderImage (c.reloaded 3) where
  placeholder := hplaceholder
  cached := hcached
  answers := hanswers
  views := by
    intro i url view hurl hview
    have hi : i < 3 := by
      have hlt := (List.getElem?_eq_some_iff.mp hview).1
      simpa [reloaded, hviews] using hlt
    simp only [reloaded, List.getElem?_mapIdx, Option.map_eq_some_iff] at hview hurl
    obtain ⟨old, hold, rfl⟩ := hview
    rw [if_pos hi, hurl, Option.bind_some]
    cases hentry : c.cache url with
    | some image => exact Or.inr ⟨rfl, hcached url image hentry⟩
    | none =>
      refine Or.inl ⟨rfl, hplaceholder, Or.inl ?_⟩
      have hmissing : c.missing i = some ⟨url, i⟩ := by
        rw [missing, hurl, Option.bind_some, if_pos hentry]
      simp only [fetches, reloaded, List.mem_append, List.mem_filterMap, List.mem_range]
      exact Or.inl (Or.inl (Or.inr ⟨i, hi, hmissing⟩))

/-- An element of a list is still there after another one was removed. -/
private theorem mem_eraseIdx_or_eq {α : Type} {xs : List α} {i : ℕ} {x removed : α}
    (hremoved : xs[i]? = some removed) (hx : x ∈ xs) : x ∈ xs.eraseIdx i ∨ x = removed := by
  obtain ⟨j, hj⟩ := List.mem_iff_getElem?.mp hx
  by_cases hij : j = i
  · right
    rw [hij, hremoved] at hj
    exact (Option.some.inj hj).symm
  · left
    exact List.mem_eraseIdx_iff_getElem?.mpr ⟨j, hij, hj⟩

/-- A dispatch. -/
theorem Loads.dispatched (hc : Loads brought failed placeholderImage c) (i : ℕ) :
    Loads brought failed placeholderImage (c.dispatched i) := by
  unfold Carousel.dispatched
  cases hhandler : c.handlers[i]? with
  | none => exact hc
  | some moved =>
    have hmoved := List.mem_of_getElem? hhandler
    refine hc.refetch hc.cached (fun answer hanswer => hc.answers answer ?_)
      fun fetch hfetch _ => Or.inl ?_
    · simp only [List.mem_append, List.mem_singleton] at hanswer ⊢
      rcases hanswer with hhandler | hblock | rfl
      · exact Or.inl (List.mem_of_mem_eraseIdx hhandler)
      · exact Or.inr hblock
      · exact Or.inl hmoved
    · simp only [fetches, List.map_append, List.map_singleton, List.mem_append,
        List.mem_singleton] at hfetch ⊢
      rcases hfetch with (hdownload | hother) | hblock
      · exact Or.inl (Or.inl hdownload)
      · obtain ⟨answer, hanswer, rfl⟩ := List.mem_map.mp hother
        rcases mem_eraseIdx_or_eq hhandler hanswer with hleft | rfl
        · exact Or.inl (Or.inr (List.mem_map_of_mem hleft))
        · exact Or.inr (Or.inr rfl)
      · exact Or.inr (Or.inl hblock)

variable [DecidableEq URL]

/-- An image that was brought may be put into the cache. -/
theorem Loads.cached_update (hc : Loads brought failed placeholderImage c) {url : URL}
    {entry : Option Image} (hentry : ∀ image, entry = some image → brought url image) :
    ∀ other image, Function.update c.cache url entry other = some image → brought other image := by
  intro other image hcached
  rcases eq_or_ne other url with rfl | hne
  · rw [Function.update_self] at hcached
    exact hentry image hcached
  · rw [Function.update_of_ne hne] at hcached
    exact hc.cached other image hcached

/-- The end of a download. -/
theorem Loads.downloaded (hc : Loads brought failed placeholderImage c) (i : ℕ)
    (result : DownloadResult Image)
    (hbrings : ∀ url image, c.Brings (.downloaded i result) url image → brought url image)
    (hfails : ∀ fetch, c.Fails (.downloaded i result) fetch → failed fetch) :
    Loads brought failed placeholderImage (c.downloaded i result) := by
  unfold Carousel.downloaded
  cases hdownload : c.downloads[i]? with
  | none => exact hc
  | some ended =>
    -- The fetch that has ended goes to the handlers, or it has failed.
    have hfetches : ∀ handlers, (ended ∈ handlers ∨ failed ended) →
        c.handlers.map Prod.fst ⊆ handlers → ∀ fetch ∈ c.fetches,
          c.carousel.viewModel[fetch.index]? = some fetch.url →
            fetch ∈ c.downloads.eraseIdx i ++ handlers ++ c.blocks.map Prod.fst ∨ failed fetch := by
      intro handlers hended hsub fetch hfetch _
      simp only [fetches, List.mem_append] at hfetch ⊢
      rcases hfetch with (hdown | hhandler) | hblock
      · rcases mem_eraseIdx_or_eq hdownload hdown with hleft | rfl
        · exact Or.inl (Or.inl (Or.inl hleft))
        · exact hended.imp_left fun hmem => Or.inl (Or.inr hmem)
      · exact Or.inl (Or.inl (Or.inr (hsub hhandler)))
      · exact Or.inl (Or.inr hblock)
    have hanswers : ∀ new, Answered brought failed new →
        ∀ answer ∈ (c.handlers ++ [new]) ++ c.blocks, Answered brought failed answer := by
      intro new hnew answer hanswer
      simp only [List.mem_append, List.mem_singleton] at hanswer
      rcases hanswer with (hhandler | rfl) | hblock
      · exact hc.answers answer (List.mem_append_left _ hhandler)
      · exact hnew
      · exact hc.answers answer (List.mem_append_right _ hblock)
    cases result with
    | image image =>
      have hbrought : brought ended.url image := hbrings _ _ ⟨ended, hdownload, rfl, rfl⟩
      refine hc.refetch (hc.cached_update fun shown hshown => ?_) (hanswers _ hbrought)
        (hfetches _ (Or.inl (by simp)) (by simp))
      rwa [← Option.some.inj hshown]
    | notAnImage =>
      exact hc.refetch hc.cached hc.answers
        (hfetches _ (Or.inr (hfails ended hdownload)) (List.Subset.refl _))
    | failure =>
      exact hc.refetch hc.cached (hanswers _ (hfails ended hdownload))
        (hfetches _ (Or.inl (by simp)) (by simp))

/-- The main queue runs a block. -/
theorem Loads.turn (hc : Loads brought failed placeholderImage c) {fetch : CarouselFetch URL}
    {image : Option Image} {rest : List (CarouselFetch URL × Option Image)}
    (hblocks : c.blocks = (fetch, image) :: rest) :
    Loads brought failed placeholderImage
      (({ c with blocks := rest } : Carousel URL Image).completed fetch image) := by
  have hanswer := hc.answers (fetch, image) (by simp [hblocks])
  have hanswers : ∀ answer ∈ c.handlers ++ rest, Answered brought failed answer := by
    intro answer hmem
    refine hc.answers answer ?_
    rw [hblocks]
    simp only [List.mem_append, List.mem_cons] at hmem ⊢
    exact hmem.imp_right Or.inr
  have hfetches : ∀ other ∈ c.fetches, other ≠ fetch →
      other ∈ c.downloads ++ c.handlers.map Prod.fst ++ rest.map Prod.fst := by
    intro other hother hne
    simp only [fetches, hblocks, List.map_cons, List.mem_append, List.mem_cons] at hother ⊢
    exact hother.imp_right fun hblock => hblock.resolve_left hne
  cases image with
  | none =>
    refine hc.refetch hc.cached hanswers fun other hother _ => ?_
    by_cases hsame : other = fetch
    · exact Or.inr (hsame ▸ hanswer)
    · exact Or.inl (hfetches other hother hsame)
  | some img =>
    unfold completed
    simp only
    by_cases hcurrent : c.carousel.viewModel[fetch.index]? = some fetch.url
    · rw [if_pos hcurrent]
      refine ⟨hc.placeholder, hc.cached, hanswers, fun i url view hurl hview => ?_⟩
      rw [List.getElem?_modify] at hview
      obtain ⟨old, hold, hview⟩ := Option.map_eq_some_iff.mp hview
      by_cases hindex : fetch.index = i
      · -- The block shows its image, which is of the address at this place.
        rw [if_pos hindex] at hview
        have hsame : fetch.url = url := by
          rw [hindex] at hcurrent
          exact Option.some.inj (hcurrent.symm.trans hurl)
        exact Or.inr ⟨hview ▸ rfl, hview ▸ hsame ▸ hanswer⟩
      · rw [if_neg hindex] at hview
        obtain rfl : old = view := hview
        refine (hc.views i url old hurl hold).imp_left ?_
        rintro ⟨hloading, hplaceholder, hfetch⟩
        refine ⟨hloading, hplaceholder, hfetch.imp_left fun hmem => hfetches _ hmem ?_⟩
        rintro rfl
        exact hindex rfl
    · rw [if_neg hcurrent]
      refine hc.refetch hc.cached hanswers fun other hother hurl => Or.inl ?_
      refine hfetches other hother ?_
      rintro rfl
      exact hcurrent hurl

/-- **Step.** Every event keeps the images in order, if what it brings counts as brought and
what it fails as failed. -/
theorem Loads.next (hc : Loads brought failed placeholderImage c) (hsound : c.Sound)
    (e : CarouselEvent URL Image) (hbrings : ∀ url image, c.Brings e url image → brought url image)
    (hfails : ∀ fetch, c.Fails e fetch → failed fetch) :
    Loads brought failed placeholderImage (c.next e) := by
  have hturned : ∀ page, Loads brought failed placeholderImage (c.turnedTo page) := by
    intro page
    let coord := { c.coord with currentPage := page }
    have hloaded := loads_reloaded
      (c := { c with coord := coord, carousel.viewModel := coord.window })
      hc.placeholder hc.cached hc.answers hsound.imageViews
    exact hloaded.congr rfl rfl rfl rfl rfl rfl fun i view hview => ⟨view, hview, rfl, rfl⟩
  have hended : Loads brought failed placeholderImage c.ended := by
    unfold ended
    simp only
    split_ifs
    · exact (hturned _).congr rfl rfl rfl rfl rfl rfl fun i view hview => ⟨view, hview, rfl, rfl⟩
    · exact (hturned _).congr rfl rfl rfl rfl rfl rfl fun i view hview => ⟨view, hview, rfl, rfl⟩
    · exact hc.congr rfl rfl rfl rfl rfl rfl fun i view hview => ⟨view, hview, rfl, rfl⟩
  have hmoved : ∀ vc : KSICScrollerViewController URL Image,
      vc.placeholderImage = c.carousel.placeholderImage →
      vc.viewModel = c.carousel.viewModel → vc.imageViews = c.carousel.imageViews →
      Loads brought failed placeholderImage { c with carousel := vc } :=
    fun vc hplaceholder hmodel hviews => hc.congr hplaceholder rfl rfl rfl rfl hmodel
      fun i view hview => ⟨view, hviews ▸ hview, rfl, rfl⟩
  cases e with
  | timer =>
    change Loads brought failed placeholderImage (if c.coord.autoScrollTimer = none then c
      else { c with carousel := c.carousel.scrollViewWillBeginDragging })
    split_ifs
    · exact hc
    · exact hmoved _ rfl rfl rfl
  | scrolled x => exact hmoved _ rfl rfl rfl
  | willBeginDragging => exact hmoved _ rfl rfl rfl
  | didEndDecelerating => exact hended
  | didEndScrollingAnimation => exact hended
  | didLayoutSubviews width =>
    refine hc.congr rfl rfl rfl rfl rfl rfl fun i view hview => ?_
    simp only [Carousel.next, laidOut, KSICScrollerViewController.laidOut,
      KSICScrollerViewController.scrollToSubview, List.getElem?_mapIdx,
      Option.map_eq_some_iff] at hview
    obtain ⟨old, hold, rfl⟩ := hview
    refine ⟨old, hold, ?_⟩
    split_ifs <;> exact ⟨rfl, rfl⟩
  | downloaded i result => exact hc.downloaded i result hbrings hfails
  | dispatched i => exact hc.dispatched i
  | turn =>
    unfold Carousel.next
    cases hblocks : c.blocks with
    | nil => exact hc
    | cons block rest => exact hc.turn hblocks
  | cached url entry =>
    exact hc.refetch (hc.cached_update fun image hentry => hbrings url image (by
      subst hentry
      exact ⟨rfl, rfl⟩)) hc.answers fun fetch hfetch _ => Or.inl hfetch

/-! ## Runs -/

/-- An image of an address was in the cache, or an event of the run brought it. -/
def Brought (coord : KSICInfiniteCoordinator URL) (placeholderImage : Image)
    (cache : URL → Option Image) (events : List (CarouselEvent URL Image)) (url : URL)
    (image : Image) : Prop :=
  cache url = some image ∨ ∃ earlier e c, earlier ++ [e] <+: events ∧
    run coord placeholderImage cache earlier = .ok c ∧ c.Brings e url image

/-- An event of the run ended a fetch without an image. -/
def Failed (coord : KSICInfiniteCoordinator URL) (placeholderImage : Image)
    (cache : URL → Option Image) (events : List (CarouselEvent URL Image))
    (fetch : CarouselFetch URL) : Prop :=
  ∃ earlier e c, earlier ++ [e] <+: events ∧
    run coord placeholderImage cache earlier = .ok c ∧ c.Fails e fetch

/-- **Run.** Every run keeps the images in order. -/
theorem loads_run {coord : KSICInfiniteCoordinator URL}
    (hpage : coord.currentPage < coord.model.length) (placeholderImage : Image)
    (cache : URL → Option Image) (events : List (CarouselEvent URL Image)) :
    ∃ c, run coord placeholderImage cache events = .ok c ∧ c.Sound ∧
      Loads (Brought coord placeholderImage cache events)
        (Failed coord placeholderImage cache events) placeholderImage c := by
  obtain ⟨hrun, hsound⟩ := run_eq hpage placeholderImage cache events
  refine ⟨_, hrun, hsound, ?_⟩
  clear hrun hsound
  induction events using List.reverseRecOn with
  | nil =>
    exact loads_reloaded rfl (fun url image hcached => Or.inl hcached) (by simp [created])
      (Sound.created hpage placeholderImage cache).imageViews
  | append_singleton events e ih =>
    obtain ⟨hrun, hsound⟩ := run_eq hpage placeholderImage cache events
    rw [List.foldl_append]
    refine (ih.mono (fun url image => ?_) (fun fetch => ?_)).next hsound e
      (fun url image hbrings => ?_) (fun fetch hfails => ?_)
    · rintro (hcached | ⟨earlier, d, c, hpre, hbrings⟩)
      · exact Or.inl hcached
      · exact Or.inr ⟨earlier, d, c, hpre.trans (List.prefix_append _ _), hbrings⟩
    · rintro ⟨earlier, d, c, hpre, hfails⟩
      exact ⟨earlier, d, c, hpre.trans (List.prefix_append _ _), hfails⟩
    · exact Or.inr ⟨events, e, _, List.prefix_refl _, hrun, hbrings⟩
    · exact ⟨events, e, _, List.prefix_refl _, hrun, hfails⟩

/-- **Images.** However fetches and scrolls interleave, an image view shows one of the images
brought for the address at its place, or the placeholder under an activity indicator. It
shows the placeholder only while a fetch of that address is under way or after one failed. -/
theorem carousel_images_in_place {coord : KSICInfiniteCoordinator URL}
    (hpage : coord.currentPage < coord.model.length) (placeholderImage : Image)
    (cache : URL → Option Image) (events : List (CarouselEvent URL Image)) :
    ∃ c, run coord placeholderImage cache events = .ok c ∧
      c.carousel.imageViews.length = 3 ∧ c.carousel.viewModel.length = 3 ∧
      ∀ i url view, c.carousel.viewModel[i]? = some url →
        c.carousel.imageViews[i]? = some view →
        view.isLoading = true ∧ view.image = placeholderImage ∧
            (⟨url, i⟩ ∈ c.fetches ∨ Failed coord placeholderImage cache events ⟨url, i⟩) ∨
          view.isLoading = false ∧ Brought coord placeholderImage cache events url view.image := by
  obtain ⟨c, hrun, hsound, hloads⟩ := loads_run hpage placeholderImage cache events
  exact ⟨c, hrun, hsound.imageViews, hsound.length_viewModel, hloads.views⟩

/-- One picture, whose first fetch fails. -/
theorem carousel_image_after_failure :
    ∃ c, run ⟨["https://x/1"], 0, true, .white, none, true⟩ 0 (fun _ => none)
        [.downloaded 0 .failure, .dispatched 0, .turn] = .ok c ∧
      c.carousel.imageViews.length = 3 ∧ c.carousel.viewModel.length = 3 ∧
      ∀ i url view, c.carousel.viewModel[i]? = some url →
        c.carousel.imageViews[i]? = some view →
        view.isLoading = true ∧ view.image = 0 ∧
            (⟨url, i⟩ ∈ c.fetches ∨
              Failed ⟨["https://x/1"], 0, true, .white, none, true⟩ 0 (fun _ => none)
                [.downloaded 0 .failure, .dispatched 0, .turn] ⟨url, i⟩) ∨
          view.isLoading = false ∧
            Brought ⟨["https://x/1"], 0, true, .white, none, true⟩ 0 (fun _ => none)
              [.downloaded 0 .failure, .dispatched 0, .turn] url view.image :=
  carousel_images_in_place (by decide) 0 (fun _ => none) _

end Carousel

end JazzOnTheMove.IOS
