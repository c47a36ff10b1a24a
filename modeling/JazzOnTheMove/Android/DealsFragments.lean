import JazzOnTheMove.Deals

/-!
# The deals fragments of the Android app

Six fragments load deals with a one-shot query. The complete listener builds one
`Items` for every document returned, null where a field is absent, and hands the
list to a new adapter; the failure listener shows a toast. Both listeners run
when the query fails.
-/

namespace JazzOnTheMove.Android

/-- What the listeners of the fragments can throw. -/
inductive Thrown where
  /-- `getString` on a field that holds no string. -/
  | notAString (field : String)
  /-- `getResult` on a failed task. -/
  | failedTask
  /-- A method call on null. -/
  | nullPointer
  deriving DecidableEq, Repr

/-- The model class `Items`: seven nullable strings. -/
structure Items where
  id : Option String
  name : Option String
  poster : Option String
  banner : Option String
  link : Option String
  type : Option String
  desc : Option String
  deriving DecidableEq, Repr

/-- `DocumentSnapshot.getString`: null for an absent field, an exception for another type. -/
def getString (doc : Document) (field : String) : Except Thrown (Option String) :=
  match doc.data field with
  | none => .ok none
  | some (.string s) => .ok (some s)
  | some _ => .error (.notAString field)

/-- The `Items` that the complete listener builds from a document. -/
def Items.ofDocument (doc : Document) : Except Thrown Items := do
  let id ← getString doc "id"
  let name ← getString doc "name"
  let poster ← getString doc "poster"
  let banner ← getString doc "banner"
  let link ← getString doc "link"
  let type ← getString doc "type"
  let desc ← getString doc "desc"
  return ⟨id, name, poster, banner, link, type, desc⟩

/-- An `ItemsAdapter`: whether its context is non-null, and its list. -/
structure ItemsAdapter where
  mContext : Bool
  dealsList : List Items
  deriving DecidableEq, Repr

/-- The part of a fragment that shows deals. -/
structure DealsFragment where
  /-- Whether `getContext()` is non-null, that is, the fragment is attached. -/
  attached : Bool
  /-- The list of deals. -/
  deals : List Items
  /-- The adapter of the recycler view. -/
  itemsAdapter : ItemsAdapter
  /-- Whether the recycler view is visible. -/
  recyclerVisible : Bool
  /-- Whether the shimmer placeholder is visible. -/
  shimmerVisible : Bool
  /-- The toasts shown. -/
  toasts : List String
  deriving DecidableEq

/-- The fragment as `onCreateView` leaves it. -/
def DealsFragment.created : DealsFragment where
  attached := true
  deals := []
  itemsAdapter := ⟨true, []⟩
  recyclerVisible := false
  shimmerVisible := true
  toasts := []

/-- A finished query task. -/
inductive QueryTask where
  | success (result : List Document)
  | failure

/-- The loop of the complete listener. The first adapter shares the list of deals. -/
def addDeals : List Document → DealsFragment → DealsFragment × Option Thrown
  | [], f => (f, none)
  | doc :: rest, f =>
      match Items.ofDocument doc with
      | .error e => (f, some e)
      | .ok model =>
          addDeals rest
            { f with
              deals := f.deals ++ [model]
              itemsAdapter := { f.itemsAdapter with dealsList := f.deals ++ [model] } }

/-- The complete listener, with the exception it ends in, if any. -/
def onComplete (task : QueryTask) (f : DealsFragment) : DealsFragment × Option Thrown :=
  match task with
  | .failure => (f, some .failedTask)
  | .success result =>
      match addDeals result f with
      | (f, some e) => (f, some e)
      | (f, none) =>
          ({ f with
              itemsAdapter := ⟨f.attached, f.deals⟩
              recyclerVisible := true
              shimmerVisible := false }, none)

/-- The failure listener: a toast on the application context. -/
def onFailure (f : DealsFragment) : DealsFragment × Option Thrown :=
  if f.attached then ({ f with toasts := f.toasts ++ ["Failed"] }, none)
  else (f, some .nullPointer)

/-- What a fragment's `loadDeals` starts: a query with its two listeners. -/
structure DealsLoad where
  query : Query
  onComplete : QueryTask → DealsFragment → DealsFragment × Option Thrown
  onFailure : DealsFragment → DealsFragment × Option Thrown

/-- `HomeFragment.loadDeals`. -/
def HomeFragment.loadDeals : DealsLoad where
  query :=
    { collection := "deals"
      whereEqualTo := none
      orderBy := "timestamp"
      descending := true
      limit := 4 }
  onComplete := onComplete
  onFailure := onFailure

/-- The body shared by the `loadDeals` of the five category fragments. -/
def loadDealsOfType (type : String) : DealsLoad where
  query :=
    { collection := "deals"
      whereEqualTo := some ("type", type)
      orderBy := "timestamp"
      descending := true
      limit := 100 }
  onComplete := onComplete
  onFailure := onFailure

/-- `LiquorFragment.loadDeals`. -/
def LiquorFragment.loadDeals : DealsLoad := loadDealsOfType "liqour"

/-- `CoffeeFragment.loadDeals`. -/
def CoffeeFragment.loadDeals : DealsLoad := loadDealsOfType "coffee"

/-- `TravelFragment.loadDeals`. -/
def TravelFragment.loadDeals : DealsLoad := loadDealsOfType "travel"

/-- `EventsFragment.loadDeals`. -/
def EventsFragment.loadDeals : DealsLoad := loadDealsOfType "events"

/-- `LifestyleFragment.loadDeals`. -/
def LifestyleFragment.loadDeals : DealsLoad := loadDealsOfType "lifestyle"

/-- `loadDeals` of the fragment that a section of the drawer shows. -/
def loadDeals : MenuSection → DealsLoad
  | .home => HomeFragment.loadDeals
  | .wine => LiquorFragment.loadDeals
  | .coffee => CoffeeFragment.loadDeals
  | .travel => TravelFragment.loadDeals
  | .events => EventsFragment.loadDeals
  | .lifestyle => LifestyleFragment.loadDeals

/-! ## Loading well-typed documents -/

/-- The seven fields the fragments read. -/
def dealFields : List String := ["id", "name", "poster", "banner", "link", "type", "desc"]

/-- Every deal field of the document is a string or absent. -/
def Document.StringFields (doc : Document) : Prop :=
  ∀ field ∈ dealFields, doc.data field = none ∨ ∃ s, doc.data field = some (.string s)

/-- The `Items` of a document all of whose deal fields are strings or absent. -/
def Items.ofStrings (doc : Document) : Items where
  id := Value.asString (doc.data "id")
  name := Value.asString (doc.data "name")
  poster := Value.asString (doc.data "poster")
  banner := Value.asString (doc.data "banner")
  link := Value.asString (doc.data "link")
  type := Value.asString (doc.data "type")
  desc := Value.asString (doc.data "desc")

/-- On a string or an absent field `getString` returns. -/
theorem getString_of_stringFields {doc : Document} (h : Document.StringFields doc)
    {field : String} (hfield : field ∈ dealFields) :
    getString doc field = .ok (Value.asString (doc.data field)) := by
  unfold getString
  rcases h field hfield with hnone | ⟨s, hs⟩
  · rw [hnone]
    rfl
  · rw [hs]
    rfl

/-- The complete listener builds the `Items` of such a document. -/
theorem Items.ofDocument_of_stringFields {doc : Document} (h : Document.StringFields doc) :
    Items.ofDocument doc = .ok (Items.ofStrings doc) := by
  have hget (field : String) (hfield : field ∈ dealFields) := getString_of_stringFields h hfield
  unfold Items.ofDocument
  rw [hget "id" (by decide), hget "name" (by decide), hget "poster" (by decide),
    hget "banner" (by decide), hget "link" (by decide), hget "type" (by decide),
    hget "desc" (by decide)]
  rfl

/-- The loop adds one entry for every document, in order. -/
theorem addDeals_of_stringFields {docs : List Document} (f : DealsFragment)
    (h : ∀ doc ∈ docs, Document.StringFields doc) :
    (addDeals docs f).2 = none ∧
      (addDeals docs f).1.deals = f.deals ++ docs.map Items.ofStrings := by
  induction docs generalizing f with
  | nil => simp [addDeals]
  | cons doc docs ih =>
    have hdoc := Items.ofDocument_of_stringFields (h doc List.mem_cons_self)
    simp only [addDeals, hdoc]
    obtain ⟨hnone, hdeals⟩ := ih _ fun d hd => h d (List.mem_cons_of_mem doc hd)
    refine ⟨hnone, ?_⟩
    rw [hdeals]
    simp

/-- A successful query of such documents lists them all, in query order. -/
theorem onComplete_of_stringFields {docs : List Document} (f : DealsFragment)
    (h : ∀ doc ∈ docs, Document.StringFields doc) :
    (onComplete (.success docs) f).2 = none ∧
      (onComplete (.success docs) f).1.deals = f.deals ++ docs.map Items.ofStrings := by
  obtain ⟨hnone, hdeals⟩ := addDeals_of_stringFields f h
  simp only [onComplete]
  rcases hrun : addDeals docs f with ⟨g, thrown⟩
  rw [hrun] at hnone hdeals
  obtain rfl : thrown = none := hnone
  exact ⟨rfl, hdeals⟩

end JazzOnTheMove.Android
