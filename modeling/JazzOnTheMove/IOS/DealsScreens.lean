import JazzOnTheMove.Deals
import JazzOnTheMove.Library.EventLoop

/-!
# The deals screens of the iOS app

Six screens show deals. Each owns a view model that listens to a query and fills
`itemList` through blocks on the main queue: one block per document, one per
callback of an appended document, and one per list handed to the collection
view. `HomeVM` and `DataVM` register the same listener block on different queries.
-/

namespace JazzOnTheMove.IOS

/-! ## Constants and models -/

namespace Constants.FireBase

/-- The key of the document's own identifier. -/
def id : String := "id"

/-- The key of the deal's name. -/
def name : String := "name"

/-- The key of the poster's address. -/
def poster : String := "poster"

/-- The key of the banner's address. -/
def banner : String := "banner"

/-- The key of the deal's link. -/
def link : String := "link"

/-- The key of the deal's type, the field the queries filter by. -/
def type : String := "type"

/-- The key of the description. -/
def desc : String := "desc"

/-- The collection of deals. -/
def deals : String := "deals"

/-- The key of the ordering field. -/
def time : String := "timestamp"

/-- The type of lifestyle deals. -/
def lifestyle : String := "lifestyle"

/-- The type of events. -/
def events : String := "events"

/-- The type of coffee deals. -/
def coffee : String := "coffee"

/-- The type of wine and whiskey deals, spelled as in the database. -/
def liqour : String := "liqour"

/-- The type of travel deals. -/
def travel : String := "travel"

end Constants.FireBase

open Constants

/-- `struct Item`: every field is an optional string. -/
structure Item where
  id : Option String
  name : Option String
  poster : Option String
  banner : Option String
  link : Option String
  type : Option String
  desc : Option String
  deriving DecidableEq, Repr

/-- The seven casts of the document block: an item if all seven fields are strings. -/
def Item.ofData (data : String → Option Value) : Option Item := do
  let id ← Value.asString (data FireBase.id)
  let name ← Value.asString (data FireBase.name)
  let poster ← Value.asString (data FireBase.poster)
  let banner ← Value.asString (data FireBase.banner)
  let link ← Value.asString (data FireBase.link)
  let type ← Value.asString (data FireBase.type)
  let desc ← Value.asString (data FireBase.desc)
  return ⟨id, name, poster, banner, link, type, desc⟩

/-! ## Complete documents -/

/-- The item that lists a document, each field under its own key. -/
def Item.ofFields (doc : Document) : Item where
  id := doc.text "id"
  name := doc.text "name"
  poster := doc.text "poster"
  banner := doc.text "banner"
  link := doc.text "link"
  type := doc.text "type"
  desc := doc.text "desc"

/-- What a snapshot should list: its complete documents, in query order. -/
def completeItems (docs : List Document) : List Item :=
  (docs.filter fun doc => doc.Complete).map Item.ofFields

/-- **Casts.** The casts of the document block succeed exactly on complete documents, and
then give the item that lists the document. -/
theorem Item.ofData_eq (doc : Document) :
    Item.ofData doc.data = if doc.Complete then some (Item.ofFields doc) else none := by
  unfold Item.ofData Item.ofFields
  simp only [FireBase.id, FireBase.name, FireBase.poster, FireBase.banner, FireBase.link,
    FireBase.type, FireBase.desc, doc.asString_data, doc.complete_iff, List.forall_mem_cons]
  -- the casts are tried in the order of the fields, and the first failing one decides
  cases doc.text "id" with
  | none => simp
  | some id =>
    cases doc.text "name" with
    | none => simp
    | some name =>
      cases doc.text "poster" with
      | none => simp
      | some poster =>
        cases doc.text "banner" with
        | none => simp
        | some banner =>
          cases doc.text "link" with
          | none => simp
          | some link =>
            cases doc.text "type" with
            | none => simp
            | some type => cases doc.text "desc" <;> simp

/-- The casts fail on a document that is not complete. -/
theorem Item.ofData_eq_none {doc : Document} : Item.ofData doc.data = none ↔ ¬ doc.Complete := by
  rw [Item.ofData_eq]
  split_ifs with hcomplete <;> simp [hcomplete]

/-- What the casts give lists a complete document. -/
theorem Item.ofData_eq_some {doc : Document} {item : Item} :
    Item.ofData doc.data = some item ↔ doc.Complete ∧ Item.ofFields doc = item := by
  rw [Item.ofData_eq]
  split_ifs with hcomplete <;> simp [hcomplete]

@[simp] theorem completeItems_nil : completeItems [] = [] := rfl

@[simp] theorem completeItems_cons (doc : Document) (docs : List Document) :
    completeItems (doc :: docs) = (Item.ofData doc.data).toList ++ completeItems docs := by
  rw [Item.ofData_eq, completeItems, List.filter_cons]
  by_cases hcomplete : doc.Complete
  · simp [completeItems, hcomplete]
  · simp [completeItems, hcomplete]

@[simp] theorem completeItems_append (left right : List Document) :
    completeItems (left ++ right) = completeItems left ++ completeItems right := by
  rw [completeItems, List.filter_append, List.map_append, completeItems, completeItems]

/-- An item is listed for a complete document. -/
theorem mem_completeItems {docs : List Document} {item : Item} :
    item ∈ completeItems docs ↔ ∃ doc ∈ docs, doc.Complete ∧ Item.ofFields doc = item := by
  simp only [completeItems, List.mem_map, List.mem_filter, decide_eq_true_eq, and_assoc]

/-- Nothing is listed if no document is complete. -/
theorem completeItems_eq_nil_iff {docs : List Document} :
    completeItems docs = [] ↔ ∀ doc ∈ docs, ¬ doc.Complete := by
  simp [completeItems]

/-- Something is listed if some document is complete. -/
theorem completeItems_ne_nil_iff {docs : List Document} :
    completeItems docs ≠ [] ↔ ∃ doc ∈ docs, doc.Complete := by
  rw [ne_eq, completeItems_eq_nil_iff]
  simp only [not_forall, not_not, exists_prop]

/-- One item is listed for each complete document. -/
theorem length_completeItems (docs : List Document) :
    (completeItems docs).length = docs.countP fun doc => doc.Complete := by
  rw [completeItems, List.length_map, List.countP_eq_length_filter]

/-! ## The view model and its screen -/

/-- One call of `dataCB`. -/
structure DataCall where
  status : Bool
  items : List Item
  message : String
  deriving DecidableEq, Repr

/-- The arguments of one `SPIndicator.present`. -/
structure Indicator where
  title : String
  message : String
  deriving DecidableEq, Repr

/-- A deals screen: the state of its view model and of the view controller. -/
structure DealsScreen where
  /-- `itemList` of the view model. -/
  vmItemList : List Item
  /-- Whether the completion handler of `loadDeals` has been stored in `dataCB`. -/
  dataCB : Bool
  /-- The calls made to `dataCB`, in order. -/
  calls : List DataCall
  /-- `itemList` of the view controller, which the collection view reads. -/
  itemList : List Item
  /-- How often `menuView.reloadData()` has run. -/
  reloads : ℕ
  /-- The error indicators shown. -/
  indicators : List Indicator
  deriving DecidableEq

/-- The blocks a deals screen puts on the main queue. -/
inductive Block where
  /-- The snapshot listener with its two arguments. -/
  | listener (querySnapshot : Option (List Document)) (err : Option String)
  /-- The block dispatched for one document. -/
  | document (data : String → Option Value)
  /-- The block that calls `dataCB` after an append. -/
  | callback
  /-- The block of the completion handler, which captured `items`. -/
  | reload (items : List Item)

/-- `dataCB?(status, items, message)`, where `dataCB` is the handler of `loadDeals`. -/
def DealsScreen.callDataCB (s : DealsScreen) (status : Bool) (items : List Item)
    (message : String) : DealsScreen × List Block :=
  if s.dataCB then
    let s := { s with calls := s.calls ++ [⟨status, items, message⟩] }
    if status then (s, [.reload items])
    else ({ s with indicators := s.indicators ++ [⟨"Error", message⟩] }, [])
  else (s, [])

/-- Calling `dataCB` leaves the view model's list alone. -/
@[simp] theorem DealsScreen.callDataCB_vmItemList (s : DealsScreen) (status : Bool)
    (items : List Item) (message : String) :
    (s.callDataCB status items message).1.vmItemList = s.vmItemList := by
  unfold DealsScreen.callDataCB
  split
  · split <;> rfl
  · rfl

/-- Calling `dataCB` leaves the screen's list alone. -/
@[simp] theorem DealsScreen.callDataCB_itemList (s : DealsScreen) (status : Bool)
    (items : List Item) (message : String) :
    (s.callDataCB status items message).1.itemList = s.itemList := by
  unfold DealsScreen.callDataCB
  split
  · split <;> rfl
  · rfl

/-- A successful call of the stored handler is recorded and dispatches the show block. -/
theorem DealsScreen.callDataCB_of_set {s : DealsScreen} (hs : s.dataCB = true)
    (items : List Item) (message : String) :
    s.callDataCB true items message =
      ({ s with calls := s.calls ++ [⟨true, items, message⟩] }, [.reload items]) := by
  simp [DealsScreen.callDataCB, hs]

/-- Calling `dataCB` dispatches at most the block that shows the list. -/
theorem DealsScreen.callDataCB_blocks (s : DealsScreen) (status : Bool)
    (items : List Item) (message : String) :
    (s.callDataCB status items message).2 = [] ∨
      (s.callDataCB status items message).2 = [.reload items] := by
  unfold DealsScreen.callDataCB
  split
  · cases status
    · exact Or.inl rfl
    · exact Or.inr rfl
  · exact Or.inl rfl

/-- The listener block that `getItems` and `getDeals` register. -/
def replaceItems (querySnapshot : Option (List Document)) (err : Option String)
    (s : DealsScreen) : DealsScreen × List Block :=
  let s := { s with vmItemList := [] }
  match err with
  | some err => s.callDataCB false s.vmItemList ("Error getting documents: " ++ err)
  | none => (s, (querySnapshot.getD []).map fun document => .document document.data)

/-- The block of one document: append the item and dispatch the callback. -/
def appendItem (data : String → Option Value) (s : DealsScreen) : DealsScreen × List Block :=
  match Item.ofData data with
  | some newList => ({ s with vmItemList := s.vmItemList ++ [newList] }, [.callback])
  | none => (s, [])

/-- What a view model registers with Firestore. -/
structure SnapshotListener where
  /-- The query listened to. -/
  query : Query
  /-- The block run for every snapshot or error. -/
  block : Option (List Document) → Option String → DealsScreen → DealsScreen × List Block

/-- `DataVM.getItems`. -/
def DataVM.getItems (type : String) : SnapshotListener where
  query :=
    { collection := FireBase.deals
      whereEqualTo := some (FireBase.type, type)
      orderBy := FireBase.time
      descending := true
      limit := 100 }
  block := replaceItems

/-- `HomeVM.getDeals`. -/
def HomeVM.getDeals : SnapshotListener where
  query :=
    { collection := FireBase.deals
      whereEqualTo := none
      orderBy := FireBase.time
      descending := true
      limit := 4 }
  block := replaceItems

/-- The body shared by every `loadDeals`: store the handler, then start listening. -/
def loadDealsOf (listener : SnapshotListener) (s : DealsScreen) :
    DealsScreen × SnapshotListener :=
  ({ s with dataCB := true }, listener)

/-- `HomeVC.loadDeals`. -/
def HomeVC.loadDeals : DealsScreen → DealsScreen × SnapshotListener :=
  loadDealsOf HomeVM.getDeals

/-- `WineVC.loadDeals`. -/
def WineVC.loadDeals : DealsScreen → DealsScreen × SnapshotListener :=
  loadDealsOf (DataVM.getItems FireBase.liqour)

/-- `CoffeeVC.loadDeals`. -/
def CoffeeVC.loadDeals : DealsScreen → DealsScreen × SnapshotListener :=
  loadDealsOf (DataVM.getItems FireBase.coffee)

/-- `TravelVC.loadDeals`. -/
def TravelVC.loadDeals : DealsScreen → DealsScreen × SnapshotListener :=
  loadDealsOf (DataVM.getItems FireBase.travel)

/-- `EventsVC.loadDeals`. -/
def EventsVC.loadDeals : DealsScreen → DealsScreen × SnapshotListener :=
  loadDealsOf (DataVM.getItems FireBase.events)

/-- `LifestyleVC.loadDeals`, which asks for the type of `WineVC`. -/
def LifestyleVC.loadDeals : DealsScreen → DealsScreen × SnapshotListener :=
  loadDealsOf (DataVM.getItems FireBase.liqour)

/-- `loadDeals` of the screen that a section of the side menu shows. -/
def loadDeals : MenuSection → DealsScreen → DealsScreen × SnapshotListener
  | .home => HomeVC.loadDeals
  | .wine => WineVC.loadDeals
  | .coffee => CoffeeVC.loadDeals
  | .travel => TravelVC.loadDeals
  | .events => EventsVC.loadDeals
  | .lifestyle => LifestyleVC.loadDeals

/-- A screen before `viewDidLoad`. -/
def DealsScreen.fresh : DealsScreen := ⟨[], false, [], [], 0, []⟩

/-- The listener of the screen that a section shows. -/
def listenerOf (sec : MenuSection) : SnapshotListener := (loadDeals sec DealsScreen.fresh).2

/-- Whatever the section, `loadDeals` only stores the handler. -/
theorem loadDeals_fst (sec : MenuSection) (s : DealsScreen) :
    (loadDeals sec s).1 = { s with dataCB := true } := by
  cases sec <;> rfl

/-! ## The main queue -/

/-- Run one block of a screen. -/
def exec (listener : SnapshotListener) (s : DealsScreen) : Block → DealsScreen × List Block
  | .listener querySnapshot err => listener.block querySnapshot err s
  | .document data => appendItem data s
  | .callback => s.callDataCB true s.vmItemList "Suceessful"
  | .reload items => ({ s with itemList := items, reloads := s.reloads + 1 }, [])

/-- A deals screen with the blocks it has put on the main queue. -/
abbrev ScreenLoop := EventLoop.Loop DealsScreen Block

/-- The main queue right after a section's screen has called `loadDeals`. -/
def opened (sec : MenuSection) (s : DealsScreen) : ScreenLoop := ⟨(loadDeals sec s).1, []⟩

/-- One turn of the main queue of a section's screen. -/
def turn (sec : MenuSection) : ScreenLoop → ScreenLoop :=
  EventLoop.turn (exec (listenerOf sec))

/-- What can happen next: Firestore delivers on the main queue, or the queue moves on. -/
inductive Move where
  | deliver (querySnapshot : Option (List Document)) (err : Option String)
  | turn

/-- One move of the screen of a section. -/
def move (sec : MenuSection) (l : ScreenLoop) : Move → ScreenLoop
  | .deliver querySnapshot err => l.post (.listener querySnapshot err)
  | .turn => turn sec l

/-- A finite interleaving of deliveries and main-queue turns. -/
def play (sec : MenuSection) (l : ScreenLoop) (moves : List Move) : ScreenLoop :=
  moves.foldl (move sec) l

/-- All six listeners run the same block. -/
theorem exec_listenerOf (sec : MenuSection) :
    exec (listenerOf sec) = exec HomeVM.getDeals := by
  funext s b
  cases sec <;> cases b <;> rfl

end JazzOnTheMove.IOS
