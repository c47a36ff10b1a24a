import JazzOnTheMove.IOS.CarouselScreens

/-!
# How many carousels a screen shows

Every pass of the block's loop extends the model and shows one more carousel. A list of
sliders thus leaves as many carousels as it has sliders, one over the other, and only
the last one has all addresses.
-/

namespace JazzOnTheMove.IOS

/-- The address of a slider's image. -/
def Slider.imageURL {URL : Type} (urlOf : String → Option URL) (slider : Slider) : Option URL :=
  slider.image.bind urlOf

namespace CarouselVC

variable {URL : Type} {urlOf : String → Option URL} {vc next : CarouselVC URL}

/-- A coordinator as the screens set it up. -/
def carouselOf (model : List URL) : KSICInfiniteCoordinator URL where
  model := model
  currentPage := 0
  shouldShowActivityIndicator := true
  activityIndicatorStyle := .white
  autoScrollTimer := some (.left, 7)
  delegate := true

/-- The carousels shown while addresses are added to an empty model. -/
def carouselsOf (urls : List URL) : List (KSICInfiniteCoordinator URL) :=
  (List.range urls.length).map fun i => carouselOf (urls.take (i + 1))

/-- One more address shows one more carousel. -/
theorem carouselsOf_concat (urls : List URL) (url : URL) :
    carouselsOf (urls ++ [url]) = carouselsOf urls ++ [carouselOf (urls ++ [url])] := by
  unfold carouselsOf
  rw [List.length_append, List.length_singleton, List.range_succ, List.map_append,
    List.map_singleton]
  congr 1
  · refine List.map_congr_left fun i hi => ?_
    have hlt := List.mem_range.mp hi
    rw [List.take_append_of_le_length (by omega)]
  · rw [List.take_of_length_le (by simp)]

/-- A screen that has some addresses in its model, and has shown them one after the other. -/
def showing (vc : CarouselVC URL) (urls : List URL) : CarouselVC URL :=
  { vc with model := urls, carousels := vc.carousels ++ carouselsOf urls }

/-- A pass whose slider has an address adds it to the model and shows a carousel. -/
theorem showSlider_of_some {urls : List URL} {i : ℕ} {slider : Slider} {url : URL}
    (hslider : vc.sliderList[i]? = some slider) (hurl : slider.imageURL urlOf = some url) :
    showSlider urlOf (vc.showing urls) i = .ok (vc.showing (urls ++ [url])) := by
  obtain ⟨image, himage, hparsed⟩ := Option.bind_eq_some_iff.mp hurl
  have hcreate : KSICInfiniteCoordinator.create (urls ++ [url]) 0 =
      .ok ⟨urls ++ [url], 0, true, .gray, none, false⟩ := by
    simp [KSICInfiniteCoordinator.create]
  unfold showSlider subscript showing
  rw [hslider]
  simp only [himage, unwrap, hparsed, bind, Except.bind, hcreate, carouselsOf_concat,
    ← List.append_assoc]
  rfl

/-- A pass whose slider has no address traps. -/
theorem showSlider_of_none {urls : List URL} {i : ℕ} {slider : Slider}
    (hslider : vc.sliderList[i]? = some slider) (hurl : slider.imageURL urlOf = none) :
    showSlider urlOf (vc.showing urls) i = .error .foundNil := by
  unfold showSlider subscript showing
  rw [hslider]
  unfold Slider.imageURL at hurl
  cases himage : slider.image with
  | none => simp only [himage, unwrap, bind, Except.bind]
  | some image =>
    rw [himage, Option.bind_some] at hurl
    simp only [himage, unwrap, hurl, bind, Except.bind]

/-- **Run.** The first passes return exactly if their sliders have addresses, which have then
been shown one after the other. -/
theorem foldlM_showSlider {k : ℕ} (hk : k ≤ vc.sliderList.length) :
    (List.range k).foldlM (showSlider urlOf) (vc.showing []) =
      if ∀ slider ∈ vc.sliderList.take k, (slider.imageURL urlOf).isSome then
        .ok (vc.showing ((vc.sliderList.take k).filterMap (Slider.imageURL urlOf)))
      else .error .foundNil := by
  induction k with
  | zero =>
    rw [if_pos (by simp)]
    rfl
  | succ k ih =>
    have hslider : vc.sliderList[k]? = some vc.sliderList[k] := List.getElem?_eq_getElem hk
    rw [List.range_succ, List.foldlM_append, ih (by omega), List.take_succ_eq_append_getElem hk]
    by_cases hall : ∀ slider ∈ vc.sliderList.take k, (slider.imageURL urlOf).isSome
    · rw [if_pos hall]
      change showSlider urlOf (vc.showing _) k >>= pure = _
      cases hurl : vc.sliderList[k].imageURL urlOf with
      | none =>
        have htrap : ¬ ∀ slider ∈ vc.sliderList.take k ++ [vc.sliderList[k]],
            (slider.imageURL urlOf).isSome := by
          intro h
          have hlast := h vc.sliderList[k] (List.mem_append_right _ (List.mem_singleton_self _))
          rw [hurl] at hlast
          cases hlast
        rw [if_neg htrap, showSlider_of_none hslider hurl]
        rfl
      | some url =>
        have hreturns : ∀ slider ∈ vc.sliderList.take k ++ [vc.sliderList[k]],
            (slider.imageURL urlOf).isSome := by
          intro slider hmem
          rcases List.mem_append.mp hmem with hold | hlast
          · exact hall slider hold
          · rw [List.mem_singleton.mp hlast, hurl]
            rfl
        have hurls : (vc.sliderList.take k ++ [vc.sliderList[k]]).filterMap
            (Slider.imageURL urlOf) =
              (vc.sliderList.take k).filterMap (Slider.imageURL urlOf) ++ [url] := by
          rw [List.filterMap_append, List.filterMap_cons_some hurl, List.filterMap_nil]
        rw [if_pos hreturns, hurls, showSlider_of_some hslider hurl]
        rfl
    · have hstill : ¬ ∀ slider ∈ vc.sliderList.take k ++ [vc.sliderList[k]],
          (slider.imageURL urlOf).isSome :=
        fun h => hall fun slider hmem => h slider (List.mem_append_left _ hmem)
      rw [if_neg hall, if_neg hstill]
      rfl

/-- One delivery of a list, whose addresses are shown if all of them parse. -/
theorem deliverSliders_eq (urlOf : String → Option URL) (placeholder : URL) (screen : LoadSlider)
    (deal : List Slider) (message : String) :
    deliverSliders urlOf placeholder screen deal message =
      if ∀ slider ∈ deal, (slider.imageURL urlOf).isSome then
        .ok (CarouselVC.showing ⟨deal, [placeholder], [], [], []⟩
          (deal.filterMap (Slider.imageURL urlOf)))
      else .error .foundNil := by
  have hrun : (List.range deal.length).foldlM (showSlider urlOf)
      (CarouselVC.showing ⟨deal, [placeholder], [], [], []⟩ []) = _ :=
    foldlM_showSlider (Nat.le_refl deal.length)
  rw [List.take_length] at hrun
  rw [← hrun]
  change (List.range deal.length).foldlM (showSlider urlOf) _ >>= pure = _
  exact bind_pure _

/-- **One carousel.** After one delivery of sliders whose images have addresses, there is
exactly one carousel, which scrolls and has all addresses, exactly if there is one slider. -/
theorem one_carousel_iff (urlOf : String → Option URL) (placeholder : URL) (sec : MenuSection)
    (deal : List Slider) (hvalid : ∀ slider ∈ deal, (slider.imageURL urlOf).isSome)
    (message : String) :
    (∃ vc, deliverSliders urlOf placeholder (loadSlider sec) deal message = .ok vc ∧
        ∃ coord, vc.carousels = [coord] ∧ coord.autoScrollTimer ≠ none ∧
          coord.model = deal.filterMap (Slider.imageURL urlOf)) ↔
      deal.length = 1 := by
  have hlength : (deal.filterMap (Slider.imageURL urlOf)).length = deal.length :=
    List.filterMap_length_eq_length.mpr hvalid
  rw [deliverSliders_eq, if_pos hvalid]
  constructor
  · rintro ⟨vc, hvc, coord, hone, -⟩
    obtain rfl := Except.ok.inj hvc
    have hcount := congrArg List.length hone
    simp only [showing, carouselsOf, List.nil_append, List.length_map, List.length_range,
      List.length_singleton] at hcount
    omega
  · intro hsingle
    refine ⟨_, rfl, carouselOf (deal.filterMap (Slider.imageURL urlOf)), ?_, by simp [carouselOf],
      rfl⟩
    simp only [showing, carouselsOf, List.nil_append, hlength, hsingle, List.range_one,
      List.map_singleton]
    rw [List.take_of_length_le (by omega)]

/-- A list of one slider. -/
theorem one_slider_one_carousel :
    ∃ vc, deliverSliders some "placeholder" (loadSlider .coffee)
        [⟨some "1", some "https://x/1", none⟩] "Suceessful" = .ok vc ∧
      ∃ coord, vc.carousels = [coord] ∧ coord.autoScrollTimer ≠ none ∧
        coord.model = ["https://x/1"] :=
  (one_carousel_iff some "placeholder" .coffee [⟨some "1", some "https://x/1", none⟩]
    (by simp [Slider.imageURL]) "Suceessful").mpr rfl

/-- Two sliders leave two carousels that scroll, the first one without the second address. -/
theorem two_sliders_two_carousels :
    let deal : List Slider := [⟨some "1", some "https://x/1", none⟩,
      ⟨some "2", some "https://x/2", none⟩]
    ¬ (∃ vc, deliverSliders some "placeholder" (loadSlider .coffee) deal "Suceessful" = .ok vc ∧
        ∃ coord, vc.carousels = [coord] ∧ coord.autoScrollTimer ≠ none ∧
          coord.model = ["https://x/1", "https://x/2"]) ∧
      ∃ vc, deliverSliders some "placeholder" (loadSlider .coffee) deal "Suceessful" = .ok vc ∧
        vc.carousels = [carouselOf ["https://x/1"], carouselOf ["https://x/1", "https://x/2"]] := by
  refine ⟨?_, _, rfl, rfl⟩
  rintro ⟨vc, hvc, coord, hone, -⟩
  obtain rfl := Except.ok.inj hvc
  have hcount : 2 = 1 := congrArg List.length hone
  omega

end CarouselVC

end JazzOnTheMove.IOS
