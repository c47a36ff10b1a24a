import JazzOnTheMove.Deals
import JazzOnTheMove.IOS.FoundationJson
import JazzOnTheMove.Library.Fallible

/-!
# The sliders of the Android fragments

Each fragment requests a JSON array and makes a slider of every element that is an object
with an id, an image and a name. An element that is not is left out, as the exceptions are
caught for each element. The carousel then gets a page for every slider.
-/

namespace JazzOnTheMove.Android

open Fallible (bind_eq_ok)
open IOS (Json)

/-- `JSONException`, by its causes. -/
inductive JSONException where
  /-- `getJSONObject` on an element that is no object. -/
  | typeMismatch
  /-- `getString` for a name that an object does not have. -/
  | noValue (name : String)
  deriving DecidableEq, Repr

/-- `getJSONObject(index)` for the element at the index. -/
def getJSONObject : Json → Except JSONException (List (String × Json))
  | .object obj => .ok obj
  | _ => .error .typeMismatch

/-- `getString(name)` of an object, where `valueOf` is `String.valueOf` for what is not a
string. -/
def getJSONString (valueOf : Json → String) (obj : List (String × Json)) (name : String) :
    Except JSONException String :=
  match obj.lookup name with
  | none => .error (.noValue name)
  | some (.string value) => .ok value
  | some value => .ok (valueOf value)

/-- `class Slider`. -/
structure Slider where
  id : Option String
  image : Option String
  url : Option String
  name : Option String
  deriving DecidableEq, Repr

/-- The part of a fragment that shows sliders. -/
structure SliderFragment where
  sliders : List Slider
  /-- The page count of the carousel view. -/
  pageCount : ℕ
  /-- The interval in which it slides, once it is set. -/
  slideInterval : Option ℕ
  deriving DecidableEq, Repr

namespace SliderFragment

/-- The fragment as `onCreateView` leaves it. -/
def created : SliderFragment := ⟨[], 0, none⟩

/-- `setViewForPosition(position)`: the image that a page shows, if there is no exception. -/
def setViewForPosition (f : SliderFragment) (position : ℕ) : Option (Option String) :=
  f.sliders[position]?.map Slider.image

variable (valueOf : Json → String)

/-- The slider made in a pass of the loop over the response. -/
def makeSlider (element : Json) : Except JSONException Slider := do
  let obj ← getJSONObject element
  let slider : Slider := ⟨none, none, none, none⟩
  let slider := { slider with id := some (← getJSONString valueOf obj "id") }
  let slider := { slider with image := some (← getJSONString valueOf obj "image") }
  return { slider with name := some (← getJSONString valueOf obj "name") }

/-- A pass of the loop, which catches `JSONException`. -/
def addSlider (f : SliderFragment) (element : Json) : SliderFragment :=
  match makeSlider valueOf element with
  | .ok slider => { f with sliders := f.sliders ++ [slider] }
  | .error _ => f

/-- `onSuccess(statusCode, headers, response)` of the request, for a response that is an
array; other responses have handlers that do nothing. -/
def onSuccess (f : SliderFragment) (statusCode : ℕ) (response : List Json) : SliderFragment :=
  if statusCode = 200 then
    let f := response.foldl (addSlider valueOf) f
    { f with pageCount := f.sliders.length, slideInterval := some 5000 }
  else f

end SliderFragment

/-- What `loadSlider` of the section's fragment requests. -/
def sliderUrl : MenuSection → String
  | .home => "http://myhouseug.com/jazz/slider.json"
  | .wine => "https://empirivumatea.com/jazz/liqour.json"
  | .coffee => "https://empirivumatea.com/jazz/coffee.json"
  | .travel => "https://empirivumatea.com/jazz/travel.json"
  | .events => "https://empirivumatea.com/jazz/events.json"
  | .lifestyle => "https://empirivumatea.com/jazz/lifestyle.json"

/-! ## What is shown -/

variable {valueOf : Json → String}

/-- The text of a value. -/
def textOf (valueOf : Json → String) : Json → String
  | .string value => value
  | value => valueOf value

/-- A name gives the text of its value. -/
theorem getJSONString_eq_ok {obj : List (String × Json)} {name text : String} :
    getJSONString valueOf obj name = .ok text ↔
      ∃ value, obj.lookup name = some value ∧ text = textOf valueOf value := by
  unfold getJSONString
  cases obj.lookup name with
  | none => simp
  | some value => cases value <;> simp [textOf, eq_comm]

namespace SliderFragment

/-- The names that the loop asks for, which an object has to have. -/
def HasNames : Json → Prop
  | .object obj => ∀ name ∈ ["id", "image", "name"], (obj.lookup name).isSome
  | _ => False

/-- The slider that an element gives, if it gives one. -/
def sliderOf (valueOf : Json → String) (element : Json) : Option Slider :=
  (makeSlider valueOf element).toOption

/-- It is the one made in the loop. -/
theorem sliderOf_eq_some {element : Json} {slider : Slider} :
    sliderOf valueOf element = some slider ↔ makeSlider valueOf element = .ok slider := by
  unfold sliderOf
  cases makeSlider valueOf element <;> simp [Except.toOption]

/-- A slider has the texts of an object. -/
theorem makeSlider_eq_ok {element : Json} {slider : Slider} :
    makeSlider valueOf element = .ok slider ↔
      ∃ obj id image name, element = .object obj ∧ obj.lookup "id" = some id ∧
        obj.lookup "image" = some image ∧ obj.lookup "name" = some name ∧
        slider = ⟨some (textOf valueOf id), some (textOf valueOf image), none,
          some (textOf valueOf name)⟩ := by
  constructor
  · intro hslider
    obtain ⟨obj, hobj, hslider⟩ := bind_eq_ok.mp hslider
    obtain ⟨_, hgetId, hslider⟩ := bind_eq_ok.mp hslider
    obtain ⟨_, hgetImage, hslider⟩ := bind_eq_ok.mp hslider
    obtain ⟨_, hgetName, hslider⟩ := bind_eq_ok.mp hslider
    obtain ⟨id, hid, rfl⟩ := getJSONString_eq_ok.mp hgetId
    obtain ⟨image, himage, rfl⟩ := getJSONString_eq_ok.mp hgetImage
    obtain ⟨name, hname, rfl⟩ := getJSONString_eq_ok.mp hgetName
    obtain rfl := Except.ok.inj hslider
    cases element with
    | object members =>
      obtain rfl := Except.ok.inj hobj
      exact ⟨members, id, image, name, rfl, hid, himage, hname, rfl⟩
    | _ => cases hobj
  · rintro ⟨obj, id, image, name, rfl, hid, himage, hname, rfl⟩
    refine bind_eq_ok.mpr ⟨obj, rfl, ?_⟩
    refine bind_eq_ok.mpr ⟨_, getJSONString_eq_ok.mpr ⟨id, hid, rfl⟩, ?_⟩
    refine bind_eq_ok.mpr ⟨_, getJSONString_eq_ok.mpr ⟨image, himage, rfl⟩, ?_⟩
    exact bind_eq_ok.mpr ⟨_, getJSONString_eq_ok.mpr ⟨name, hname, rfl⟩, rfl⟩

/-- An element gives a slider if it is an object with the names. -/
theorem isSome_sliderOf_iff (element : Json) :
    (sliderOf valueOf element).isSome ↔ HasNames element := by
  unfold sliderOf
  constructor
  · intro hsome
    cases hslider : makeSlider valueOf element with
    | error thrown => rw [hslider] at hsome; cases hsome
    | ok slider =>
      obtain ⟨obj, id, image, name, rfl, hid, himage, hname, -⟩ := makeSlider_eq_ok.mp hslider
      intro key hkey
      simp only [List.mem_cons, List.not_mem_nil, or_false] at hkey
      rcases hkey with rfl | rfl | rfl
      · exact Option.isSome_of_eq_some hid
      · exact Option.isSome_of_eq_some himage
      · exact Option.isSome_of_eq_some hname
  · intro hnames
    cases element with
    | object obj =>
      obtain ⟨id, hid⟩ := Option.isSome_iff_exists.mp (hnames "id" (by simp))
      obtain ⟨image, himage⟩ := Option.isSome_iff_exists.mp (hnames "image" (by simp))
      obtain ⟨name, hname⟩ := Option.isSome_iff_exists.mp (hnames "name" (by simp))
      rw [makeSlider_eq_ok.mpr ⟨obj, id, image, name, rfl, hid, himage, hname, rfl⟩]
      rfl
    | _ => exact hnames.elim

/-- The loop adds the sliders of the elements that give one, in order. -/
theorem foldl_addSlider (f : SliderFragment) (response : List Json) :
    response.foldl (addSlider valueOf) f =
      { f with
        sliders := f.sliders ++ response.filterMap (sliderOf valueOf) } := by
  induction response generalizing f with
  | nil => simp
  | cons element response ih =>
    rw [List.foldl_cons, ih, List.filterMap_cons]
    unfold addSlider sliderOf
    cases makeSlider valueOf element with
    | error thrown => rfl
    | ok slider => simp [Except.toOption]

/-- What the pages of the carousel show, one for each position below the page count. -/
def pages (f : SliderFragment) : List (Option (Option String)) :=
  (List.range f.pageCount).map f.setViewForPosition

/-- A fragment that has as many pages as sliders shows the image of each. -/
theorem pages_eq {f : SliderFragment} (hcount : f.pageCount = f.sliders.length) :
    f.pages = f.sliders.map fun slider => some slider.image := by
  rw [pages, hcount]
  refine List.ext_getElem (by simp) fun position hpage hslider => ?_
  rw [List.length_map] at hslider
  simp [setViewForPosition, List.getElem?_eq_getElem hslider]

/-- **Pages.** After a response there is a page for every slider that an element gives, and it
shows the image of that slider. -/
theorem pages_of_onSuccess (valueOf : Json → String) (response : List Json) :
    (created.onSuccess valueOf 200 response).pages =
      (response.filterMap (sliderOf valueOf)).map fun slider => some slider.image := by
  have hcount : (created.onSuccess valueOf 200 response).pageCount =
      (created.onSuccess valueOf 200 response).sliders.length := by
    simp only [onSuccess, if_true]
  rw [pages_eq hcount, onSuccess, if_pos rfl, foldl_addSlider]
  rfl

end SliderFragment

end JazzOnTheMove.Android
