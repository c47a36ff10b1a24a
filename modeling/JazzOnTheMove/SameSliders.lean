import JazzOnTheMove.Android.SliderFragments
import JazzOnTheMove.IOS.SliderFiles

/-!
# The sliders of the two apps side by side

Outside the home section both apps request the same file of sliders. iOS takes every element
of the file and traps on one without an address. Android leaves out the elements that lack an
id, an image or a name, and takes values for texts that are none.
-/

namespace JazzOnTheMove

open IOS (Json)

variable {URL : Type} {urlOf : String → Option URL} {valueOf : Json → String}

/-- The address of the image that a slider has. -/
def Android.Slider.pageUrl (urlOf : String → Option URL) (slider : Android.Slider) : Option URL :=
  slider.image.bind urlOf

/-- The pages that an Android fragment shows after the response with a file of sliders, by the
addresses of their images. A page that throws has none. -/
def androidPages (urlOf : String → Option URL) (valueOf : Json → String) (response : List Json) :
    List (Option URL) :=
  (Android.SliderFragment.created.onSuccess valueOf 200 response).pages.map
    fun page => page.bind fun image => image.bind urlOf

/-- Home is the section whose file depends on the app. -/
theorem sliderUrl_eq_iff (sec : MenuSection) :
    Android.sliderUrl sec = (IOS.loadSlider sec).url ↔ sec ≠ .home := by
  cases sec <;> decide

/-- The pages are those of the sliders that the elements give. -/
theorem androidPages_eq (response : List Json) :
    androidPages urlOf valueOf response =
      (response.filterMap (Android.SliderFragment.sliderOf valueOf)).map
        (Android.Slider.pageUrl urlOf) := by
  rw [androidPages, Android.SliderFragment.pages_of_onSuccess, List.map_map]
  rfl

/-- The slider of an element that iOS has an address for has that address. -/
theorem pageUrl_eq {element : Json} {slider : Android.Slider}
    (hslider : Android.SliderFragment.sliderOf valueOf element = some slider)
    (hurl : (element.imageURL urlOf).isSome) :
    slider.pageUrl urlOf = element.imageURL urlOf := by
  obtain ⟨obj, id, image, name, rfl, hid, himage, hname, rfl⟩ :=
    Android.SliderFragment.makeSlider_eq_ok.mp (Android.SliderFragment.sliderOf_eq_some.mp hslider)
  simp only [Json.imageURL, himage] at hurl ⊢
  cases image with
  | string value => rfl
  | _ => cases hurl

/-- If all elements have a value, a map is a filter. -/
theorem map_some_filterMap {α β : Type*} {f : α → Option β} {l : List α}
    (hall : ∀ a ∈ l, (f a).isSome) : (l.filterMap f).map some = l.map f := by
  rw [List.map_filterMap_some_eq_filter_map_isSome, List.filter_eq_self]
  intro b hb
  obtain ⟨a, ha, rfl⟩ := List.mem_map.mp hb
  exact hall a ha

/-- An iOS screen that gets through an array has the addresses of all elements. -/
theorem iosModel_eq {placeholder : URL} {screen : IOS.LoadSlider} {elements : List Json}
    {vc : IOS.CarouselVC URL}
    (hfile : IOS.CarouselVC.deliverFile urlOf placeholder screen (.array elements) = .ok vc) :
    (∀ element ∈ elements, (element.imageURL urlOf).isSome) ∧
      vc.model.map some = elements.map (Json.imageURL urlOf) := by
  obtain ⟨_, sliders, hvalue, hurls, hdelivered⟩ := IOS.CarouselVC.deliverFile_of_ok hfile
  obtain rfl := Json.array.inj hvalue
  rw [IOS.CarouselVC.deliverSliders_eq] at hdelivered
  by_cases hall : ∀ slider ∈ sliders, (slider.imageURL urlOf).isSome
  · rw [if_pos hall] at hdelivered
    obtain rfl := Except.ok.inj hdelivered
    constructor
    · intro element hmem
      have hurl : element.imageURL urlOf ∈ sliders.map (IOS.Slider.imageURL urlOf) :=
        hurls ▸ List.mem_map_of_mem hmem
      obtain ⟨slider, hslider, heq⟩ := List.mem_map.mp hurl
      exact heq ▸ hall slider hslider
    · exact (map_some_filterMap hall).trans hurls
  · rw [if_neg hall] at hdelivered
    cases hdelivered

/-- It gets through if all elements have addresses. -/
theorem exists_deliverFile (placeholder : URL) (screen : IOS.LoadSlider) {elements : List Json}
    (hall : ∀ element ∈ elements, (element.imageURL urlOf).isSome) :
    ∃ vc, IOS.CarouselVC.deliverFile urlOf placeholder screen (.array elements) = .ok vc := by
  obtain ⟨rows, rfl⟩ := Json.exists_rows hall
  have hloop := IOS.HomeSliderVM.foldlM_appendSlider (IOS.SliderSession.start screen.url).vm rows
  have hsliders : ∀ slider ∈ rows.map IOS.Slider.ofMembers, (slider.imageURL urlOf).isSome := by
    intro slider hmem
    obtain ⟨row, hrow, rfl⟩ := List.mem_map.mp hmem
    exact hall (.object row) (List.mem_map_of_mem hrow)
  exact ⟨_, (IOS.CarouselVC.deliverFile_of_loop hloop).trans
    ((IOS.CarouselVC.deliverSliders_eq urlOf placeholder screen _ _).trans (if_pos hsliders))⟩

/-- Android has pages for the elements with the names, and only for them. -/
theorem androidPages_eq_map_iff {elements : List Json}
    (hall : ∀ element ∈ elements, (element.imageURL urlOf).isSome) :
    androidPages urlOf valueOf elements = elements.map (Json.imageURL urlOf) ↔
      ∀ element ∈ elements, Android.SliderFragment.HasNames element := by
  have hnames : (∀ element ∈ elements, Android.SliderFragment.HasNames element) ↔
      ∀ element ∈ elements, (Android.SliderFragment.sliderOf valueOf element).isSome :=
    forall₂_congr fun element _ => (Android.SliderFragment.isSome_sliderOf_iff element).symm
  rw [androidPages_eq, hnames]
  constructor
  · intro hpages
    have hlength := congrArg List.length hpages
    rw [List.length_map, List.length_map] at hlength
    exact List.filterMap_length_eq_length.mp hlength
  · intro hsome
    calc (elements.filterMap (Android.SliderFragment.sliderOf valueOf)).map
          (Android.Slider.pageUrl urlOf)
        = ((elements.filterMap (Android.SliderFragment.sliderOf valueOf)).map some).map
            fun slider => slider.bind (Android.Slider.pageUrl urlOf) := by
          rw [List.map_map]
          rfl
      _ = (elements.map (Android.SliderFragment.sliderOf valueOf)).map
            fun slider => slider.bind (Android.Slider.pageUrl urlOf) := by
          rw [map_some_filterMap hsome]
      _ = elements.map (Json.imageURL urlOf) := by
          rw [List.map_map]
          refine List.map_congr_left fun element hmem => ?_
          obtain ⟨slider, hslider⟩ := Option.isSome_iff_exists.mp (hsome element hmem)
          rw [Function.comp_apply, hslider]
          exact pageUrl_eq hslider (hall element hmem)

/-- **The two apps show the same sliders.** Let `files` be what the addresses lead to, with one
array for both apps in the home section. The iOS screen of a section gets through its array
without a trap, and the Android fragment has a page for each of its addresses, exactly if every
element is an object that has an address for its image, and an id and a name. -/
theorem same_sliders_iff (urlOf : String → Option URL) (valueOf : Json → String)
    (placeholder : URL) (sec : MenuSection) (files : String → List Json)
    (hhome : sec = .home → files (Android.sliderUrl sec) = files (IOS.loadSlider sec).url) :
    (∃ vc, IOS.CarouselVC.deliverFile urlOf placeholder (IOS.loadSlider sec)
        (.array (files (IOS.loadSlider sec).url)) = .ok vc ∧
        androidPages urlOf valueOf (files (Android.sliderUrl sec)) = vc.model.map some) ↔
      ∀ element ∈ files (Android.sliderUrl sec), (element.imageURL urlOf).isSome ∧
        Android.SliderFragment.HasNames element := by
  have hfile : files (IOS.loadSlider sec).url = files (Android.sliderUrl sec) := by
    by_cases hsec : sec = .home
    · exact (hhome hsec).symm
    · rw [(sliderUrl_eq_iff sec).mpr hsec]
  rw [hfile, forall₂_and]
  constructor
  · rintro ⟨vc, hdelivered, hpages⟩
    obtain ⟨hall, hmodel⟩ := iosModel_eq hdelivered
    exact ⟨hall, (androidPages_eq_map_iff hall).mp (hpages.trans hmodel)⟩
  · rintro ⟨hall, hnames⟩
    obtain ⟨vc, hdelivered⟩ := exists_deliverFile placeholder (IOS.loadSlider sec) hall
    exact ⟨vc, hdelivered,
      ((androidPages_eq_map_iff hall).mpr hnames).trans (iosModel_eq hdelivered).2.symm⟩

/-- A slider in the file of wine deals is on both apps. -/
theorem same_wine_slider :
    let files (_ : String) : List Json :=
      [.object [("id", .string "1"), ("image", .string "cellar.jpg"), ("name", .string "Cellar")]]
    ∃ vc, IOS.CarouselVC.deliverFile some "placeholder" (IOS.loadSlider .wine)
        (.array (files (IOS.loadSlider .wine).url)) = .ok vc ∧
        androidPages some (fun _ => "") (files (Android.sliderUrl .wine)) = vc.model.map some := by
  intro files
  refine (same_sliders_iff some (fun _ => "") "placeholder" .wine files nofun).mpr ?_
  intro element helement
  rw [List.mem_singleton.mp helement]
  refine ⟨rfl, fun name hname => ?_⟩
  simp only [List.mem_cons, List.not_mem_nil, or_false] at hname
  rcases hname with rfl | rfl | rfl <;> rfl

end JazzOnTheMove
