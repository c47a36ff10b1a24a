import JazzOnTheMove.IOS.Carousels
import JazzOnTheMove.IOS.SliderRetries
import JazzOnTheMove.Library.Fallible

/-!
# Slider files

The view model casts a file to an array and looks up the keys of its elements, and the
screen unwraps the images and their addresses. Only an array whose elements all are
objects with the address of an image passes through, and then nothing of it is lost.
-/

namespace JazzOnTheMove.IOS

open Fallible (bind_eq_ok)

variable {URL : Type} {urlOf : String → Option URL}

namespace Json

/-- The address of an element's image, which only an object has. -/
def imageURL (urlOf : String → Option URL) : Json → Option URL
  | .object members => ((members.lookup "image").bind asString).bind urlOf
  | _ => none

/-- The addresses of a file, in the order of its elements. -/
def imageURLs (urlOf : String → Option URL) (value : Json) : List URL :=
  value.elements.filterMap (imageURL urlOf)

/-- An array never answers a key with a string. -/
theorem stringForKey_array {key : String} {elements : List Json} {answer : Option String}
    (hanswer : stringForKey key (.array elements) = .ok answer) : answer = none := by
  unfold stringForKey at hanswer
  obtain ⟨value, hvalue, hcast⟩ := bind_eq_ok.mp hanswer
  unfold valueForKey at hvalue
  obtain ⟨values, -, hvalues⟩ := bind_eq_ok.mp hvalue
  obtain rfl := Except.ok.inj hvalues
  exact (Except.ok.inj hcast).symm

/-- The cast to `NSArray` only returns an array's elements. -/
theorem eq_array_of_asNSArray {value : Json} {elements : List Json}
    (hcast : value.asNSArray = .ok elements) : value = .array elements := by
  cases value with
  | array elements' => exact congrArg array (Except.ok.inj hcast)
  | _ => cases hcast

/-- An element with an address is an object. -/
theorem eq_object_of_imageURL {element : Json} (hurl : (element.imageURL urlOf).isSome) :
    element = .object element.members := by
  cases element with
  | object members => rfl
  | _ => cases hurl

/-- Elements that all have addresses are the objects of their members. -/
theorem exists_rows {elements : List Json}
    (hall : ∀ element ∈ elements, (element.imageURL urlOf).isSome) :
    ∃ rows : List (List (String × Json)), elements = rows.map .object := by
  refine ⟨elements.map members, ?_⟩
  rw [List.map_map]
  exact (List.map_id'' (fun _ => rfl) elements).symm.trans
    (List.map_congr_left fun element hmem => eq_object_of_imageURL (hall element hmem))

end Json

namespace Slider

/-- The slider of an element has the address of the element. -/
theorem imageURL_of_ofElement {element : Json} {slider : Slider}
    (hslider : ofElement element = .ok slider) :
    slider.imageURL urlOf = element.imageURL urlOf := by
  unfold ofElement at hslider
  obtain ⟨id, hid, hrest⟩ := bind_eq_ok.mp hslider
  obtain ⟨image, himage, hrest⟩ := bind_eq_ok.mp hrest
  obtain ⟨name, -, hrest⟩ := bind_eq_ok.mp hrest
  obtain rfl := Except.ok.inj hrest
  cases element with
  | object members =>
    rw [Json.stringForKey_object] at himage
    rw [imageURL, ← Except.ok.inj himage]
    rfl
  | array elements =>
    rw [imageURL, Json.stringForKey_array himage]
    rfl
  | _ => cases hid

end Slider

namespace HomeSliderVM

/-- **Run.** A loop over any elements that returns has appended one slider for each, with
the address of its element. -/
theorem imageURL_of_foldlM_appendSlider (urlOf : String → Option URL) {vm next : HomeSliderVM}
    {elements : List Json} (hrun : elements.foldlM appendSlider vm = .ok next) :
    ∃ sliders, next = { vm with sliderList := vm.sliderList ++ sliders } ∧
      sliders.map (Slider.imageURL urlOf) = elements.map (Json.imageURL urlOf) := by
  induction elements generalizing vm with
  | nil =>
    refine ⟨[], ?_, rfl⟩
    rw [List.append_nil]
    exact (Except.ok.inj hrun).symm
  | cons element elements ih =>
    rw [List.foldlM_cons] at hrun
    obtain ⟨passed, hpass, hrun⟩ := bind_eq_ok.mp hrun
    unfold appendSlider at hpass
    obtain ⟨slider, hslider, hpassed⟩ := bind_eq_ok.mp hpass
    obtain rfl := Except.ok.inj hpassed
    obtain ⟨sliders, rfl, hurls⟩ := ih hrun
    refine ⟨slider :: sliders, ?_, ?_⟩
    · simp only [List.append_assoc, List.singleton_append]
    · rw [List.map_cons, List.map_cons, hurls, Slider.imageURL_of_ofElement hslider]

end HomeSliderVM

namespace CarouselVC

variable {placeholder : URL} {screen : LoadSlider} {value : Json}

/-- A file is cast, its elements are turned into sliders, and these are handed over. -/
theorem deliverFile_eq (urlOf : String → Option URL) (placeholder : URL) (screen : LoadSlider)
    (value : Json) :
    deliverFile urlOf placeholder screen value = (do
      let elements ← value.asNSArray
      let vm ← elements.foldlM HomeSliderVM.appendSlider (SliderSession.start screen.url).vm
      let vc := (vm.callDataCB true "Suceessful").calls.foldl (handler screen)
        (created placeholder)
      vc.runBlocks urlOf) := by
  have hcompletion : (SliderSession.start screen.url).vm.completion screen.url
      ⟨some 200, .success value⟩ = value.asNSArray >>= fun elements =>
        elements.foldlM HomeSliderVM.appendSlider (SliderSession.start screen.url).vm >>=
          fun vm => .ok (vm, [.success]) := rfl
  simp only [deliverFile, SliderSession.run, List.foldlM_cons]
  change ((SliderSession.start screen.url).vm.completion screen.url _ >>= _) >>= _ >>= _ = _
  rw [hcompletion]
  cases value.asNSArray with
  | error trap => rfl
  | ok elements =>
    change (elements.foldlM HomeSliderVM.appendSlider _ >>= _) >>= _ >>= _ >>= _ =
      elements.foldlM HomeSliderVM.appendSlider _ >>= _
    cases elements.foldlM HomeSliderVM.appendSlider (SliderSession.start screen.url).vm with
    | error trap => rfl
    | ok vm => rfl

/-- A loop that returns has its list handed over to the screen. -/
theorem deliverFile_of_loop {elements : List Json} {sliders : List Slider}
    (hloop : elements.foldlM HomeSliderVM.appendSlider (SliderSession.start screen.url).vm =
      .ok { (SliderSession.start screen.url).vm with sliderList := sliders }) :
    deliverFile urlOf placeholder screen (.array elements) =
      deliverSliders urlOf placeholder screen sliders "Suceessful" := by
  rw [deliverFile_eq]
  change elements.foldlM HomeSliderVM.appendSlider _ >>= _ = _
  rw [hloop]
  rfl

/-- A file that does not trap is an array, and its list has the addresses of its elements. -/
theorem deliverFile_of_ok {vc : CarouselVC URL}
    (hfile : deliverFile urlOf placeholder screen value = .ok vc) :
    ∃ elements sliders, value = .array elements ∧
      sliders.map (Slider.imageURL urlOf) = elements.map (Json.imageURL urlOf) ∧
      deliverSliders urlOf placeholder screen sliders "Suceessful" = .ok vc := by
  rw [deliverFile_eq] at hfile
  obtain ⟨elements, hcast, hfile⟩ := bind_eq_ok.mp hfile
  obtain ⟨vm, hloop, hfile⟩ := bind_eq_ok.mp hfile
  obtain ⟨sliders, rfl, hurls⟩ := HomeSliderVM.imageURL_of_foldlM_appendSlider urlOf hloop
  exact ⟨elements, sliders, Json.eq_array_of_asNSArray hcast, hurls, hfile⟩

/-- **Slider files.** A file passes through without a trap, and the model ends as the
addresses of its elements that have one, exactly if it is an array all of whose elements are
objects with a string for their image that parses as an address. -/
theorem file_loads_iff (urlOf : String → Option URL) (placeholder : URL) (sec : MenuSection)
    (value : Json) :
    (∃ vc, deliverFile urlOf placeholder (loadSlider sec) value = .ok vc ∧
        vc.model = value.imageURLs urlOf) ↔
      ∃ elements, value = .array elements ∧
        ∀ element ∈ elements, (element.imageURL urlOf).isSome := by
  constructor
  · rintro ⟨vc, hfile, -⟩
    obtain ⟨elements, sliders, hvalue, hurls, hdelivered⟩ := deliverFile_of_ok hfile
    refine ⟨elements, hvalue, ?_⟩
    rw [deliverSliders_eq] at hdelivered
    by_cases hall : ∀ slider ∈ sliders, (slider.imageURL urlOf).isSome
    · intro element hmem
      have hurl : element.imageURL urlOf ∈ sliders.map (Slider.imageURL urlOf) :=
        hurls ▸ List.mem_map_of_mem hmem
      obtain ⟨slider, hslider, heq⟩ := List.mem_map.mp hurl
      exact heq ▸ hall slider hslider
    · rw [if_neg hall] at hdelivered
      cases hdelivered
  · rintro ⟨elements, rfl, hall⟩
    obtain ⟨rows, rfl⟩ := Json.exists_rows hall
    have hloop := HomeSliderVM.foldlM_appendSlider
      (SliderSession.start (loadSlider sec).url).vm rows
    have hsliders : ∀ slider ∈ rows.map Slider.ofMembers, (slider.imageURL urlOf).isSome := by
      intro slider hmem
      obtain ⟨row, hrow, rfl⟩ := List.mem_map.mp hmem
      exact hall (.object row) (List.mem_map_of_mem hrow)
    have hshown : deliverSliders urlOf placeholder (loadSlider sec) (rows.map Slider.ofMembers)
        "Suceessful" = .ok _ :=
      (deliverSliders_eq urlOf placeholder _ _ _).trans (if_pos hsliders)
    refine ⟨_, (deliverFile_of_loop hloop).trans hshown, ?_⟩
    change (rows.map Slider.ofMembers).filterMap (Slider.imageURL urlOf) =
      (rows.map Json.object).filterMap (Json.imageURL urlOf)
    rw [List.filterMap_map, List.filterMap_map]
    rfl

/-- One element without an image takes the others and the app down. -/
theorem malformed_element_traps :
    let value : Json :=
      .array [.object [("image", .string "https://x/1")], .object [("id", .string "2")]]
    ¬ ∃ vc, deliverFile some "placeholder" (loadSlider .coffee) value = .ok vc ∧
      vc.model = value.imageURLs some := by
  rintro value ⟨vc, hfile, -⟩
  cases hfile

end CarouselVC

end JazzOnTheMove.IOS
