import JazzOnTheMove.IOS.DealsScreens
import JazzOnTheMove.IOS.SwiftRuntime
import JazzOnTheMove.Library.LateWrites
import Mathlib.Logic.Function.Basic

/-!
# Posters of recycled cells

Binding a cell starts a poster request whose handler captured the cell. A cell
that is bound again before the response arrives is written by both handlers, in
the order in which the responses arrive. Every deals screen has the same
`collectionView(_:cellForItemAt:)`.
-/

namespace JazzOnTheMove.IOS

open LateWrites (jobs unfinished Schedule lastStart lastFinish)

variable {Data Image : Type}

/-- The result of a poster request; a response without a body has no data. -/
inductive PosterResult (Data : Type) where
  | success (responseData : Option Data)
  | failure
  deriving DecidableEq

/-- `MenuViewCell`, as far as it is written. -/
structure MenuViewCell (Image : Type) where
  dealsImg : Option Image
  dealsName : Option String
  dealsType : Option String
  deriving DecidableEq

/-- What the cells use of UIKit and of Swift's strings. -/
structure Toolkit (Data Image : Type) where
  /-- `UIImage(data:)`. -/
  image : Data → Option Image
  /-- The placeholder image. -/
  placeholder : Image
  /-- `String.uppercased()`. -/
  uppercased : String → String
  /-- A cell as the storyboard creates it. -/
  prototype : MenuViewCell Image

/-- A poster request whose response has not arrived. -/
structure PosterRequest where
  id : ℕ
  /-- The address it asks for. -/
  url : String
  /-- The cell that its handler captured. -/
  cell : ℕ
  deriving DecidableEq

/-- The collection view of a deals screen: its cells and the requests under way. -/
structure DealsGrid (Image : Type) where
  /-- The cells created so far. -/
  cells : ℕ → Option (MenuViewCell Image)
  /-- The number of requests started, which numbers the next one. -/
  started : ℕ
  /-- The requests not answered yet. -/
  requests : List PosterRequest

/-- A collection view before any cell is bound. -/
def DealsGrid.empty : DealsGrid Image := ⟨fun _ => none, 0, []⟩

/-- `MenuViewCell.prepareForReuse`. -/
def MenuViewCell.prepareForReuse (kit : Toolkit Data Image) (view : MenuViewCell Image) :
    MenuViewCell Image :=
  { view with dealsImg := some kit.placeholder }

/-- `dequeueReusableCell`: a new cell, or an old one prepared for reuse. -/
def dequeueReusableCell (kit : Toolkit Data Image) (g : DealsGrid Image) (cell : ℕ) :
    MenuViewCell Image :=
  match g.cells cell with
  | none => kit.prototype
  | some view => view.prepareForReuse kit

/-- `collectionView(_:cellForItemAt:)`, where the collection view hands out `cell`. -/
def cellForItemAt (kit : Toolkit Data Image) (itemList : List Item) (row cell : ℕ)
    (g : DealsGrid Image) : Except Trap (DealsGrid Image) := do
  let view := dequeueReusableCell kit g cell
  let item ← subscript itemList row
  let type ← unwrap item.type
  let poster ← unwrap item.poster
  return {
    cells := Function.update g.cells cell
      (some { view with dealsName := item.name, dealsType := some (kit.uppercased type) })
    started := g.started + 1
    requests := g.requests ++ [⟨g.started, poster, cell⟩] }

/-- `cell.dealsImg.image = image`. -/
def DealsGrid.setImage (g : DealsGrid Image) (cell : ℕ) (image : Option Image) :
    DealsGrid Image :=
  { g with
    cells := Function.update g.cells cell
      ((g.cells cell).map fun view => { view with dealsImg := image }) }

/-- The response handler of a poster request. -/
def onPosterResponse (kit : Toolkit Data Image) (cell : ℕ) (result : PosterResult Data)
    (g : DealsGrid Image) : Except Trap (DealsGrid Image) :=
  match result with
  | .success responseData => do
      let data ← unwrap responseData
      return g.setImage cell (kit.image data)
  | .failure => .ok (g.setImage cell (some kit.placeholder))

/-- The image a response leaves in its cell. -/
def PosterResult.shown (kit : Toolkit Data Image) : PosterResult Data → Option Image
  | .success responseData => responseData.bind kit.image
  | .failure => some kit.placeholder

/-- What happens to the collection view: a cell is bound, or a response arrives. -/
inductive CellEvent where
  | bind (itemList : List Item) (row cell : ℕ)
  | respond (id : ℕ)
  deriving DecidableEq

/-- One event, where the network answers request number `id` for an address `url` with
`outcome url id`. -/
def stepCell (kit : Toolkit Data Image) (outcome : String → ℕ → PosterResult Data)
    (g : DealsGrid Image) : CellEvent → Except Trap (DealsGrid Image)
  | .bind itemList row cell => cellForItemAt kit itemList row cell g
  | .respond id =>
      match g.requests.find? fun request => request.id = id with
      | none => .ok g
      | some request =>
          onPosterResponse kit request.cell (outcome request.url id)
            { g with requests := g.requests.filter fun other => other.id ≠ id }

/-- A finite sequence of events on a new collection view. -/
def runCells (kit : Toolkit Data Image) (outcome : String → ℕ → PosterResult Data)
    (events : List CellEvent) : Except Trap (DealsGrid Image) :=
  events.foldlM (stepCell kit outcome) DealsGrid.empty

/-- Bindings start jobs for their cells, and responses finish them. -/
def CellEvent.log : CellEvent → LateWrites.Event ℕ
  | .bind _ _ cell => .start cell
  | .respond id => .finish id

/-- A binding is for a row of the list, and the item there has its type and poster, as all
items the view models list do. -/
def CellEvent.Listed : CellEvent → Prop
  | .bind itemList row _ => ∃ item ∈ itemList[row]?, item.type.isSome ∧ item.poster.isSome
  | .respond _ => True

/-- The item of a complete document has its type and poster. -/
theorem Item.isSome_of_complete {doc : Document} (h : doc.Complete) :
    (Item.ofFields doc).type.isSome ∧ (Item.ofFields doc).poster.isSome :=
  ⟨doc.complete_iff.mp h "type" (by simp), doc.complete_iff.mp h "poster" (by simp)⟩

/-- Every row of a list of complete documents can be bound. -/
theorem CellEvent.listed_of_complete {docs : List Document} {row : ℕ}
    (hrow : row < (completeItems docs).length) (cell : ℕ) :
    CellEvent.Listed (.bind (completeItems docs) row cell) := by
  refine ⟨(completeItems docs)[row], List.getElem?_eq_getElem hrow, ?_⟩
  obtain ⟨doc, -, hcomplete, hitem⟩ := mem_completeItems.mp (List.getElem_mem hrow)
  rw [← hitem]
  exact Item.isSome_of_complete hcomplete

/-! ## The posters of the items bound -/

/-- The list and the row that a binding is for. -/
def CellEvent.binding : CellEvent → Option (List Item × ℕ)
  | .bind itemList row _ => some (itemList, row)
  | .respond _ => none

/-- The item of the binding with a number. -/
def boundItem (events : List CellEvent) (id : ℕ) : Option Item :=
  (events.filterMap CellEvent.binding)[id]?.bind fun (itemList, row) => itemList[row]?

/-- What the network has for the poster of that item, when the binding asks for it. -/
def posterResult (outcome : String → ℕ → PosterResult Data) (events : List CellEvent) (id : ℕ) :
    Option (PosterResult Data) :=
  ((boundItem events id).bind Item.poster).map fun url => outcome url id

variable {outcome : String → ℕ → PosterResult Data} {events : List CellEvent} {id : ℕ}

/-- Bindings are numbered as the jobs that they start. -/
theorem length_bindings (events : List CellEvent) :
    (events.filterMap CellEvent.binding).length = (jobs (events.map CellEvent.log)).length := by
  induction events with
  | nil => rfl
  | cons e events ih =>
    cases e with
    | bind itemList row cell => exact congrArg (· + 1) ih
    | respond id => exact ih

/-- A binding is for the row of the list that it names. -/
theorem boundItem_bind (events : List CellEvent) (itemList : List Item) (row cell : ℕ) :
    boundItem (events ++ [.bind itemList row cell]) (jobs (events.map CellEvent.log)).length =
      itemList[row]? := by
  rw [boundItem, List.filterMap_append, ← length_bindings]
  simp [CellEvent.binding]

/-- The poster is what the network has under the address of the item. -/
theorem posterResult_eq {item : Item} {url : String} (hitem : boundItem events id = some item)
    (hurl : item.poster = some url) :
    posterResult outcome events id = some (outcome url id) := by
  rw [posterResult, hitem, Option.bind_some, hurl, Option.map_some]

/-- Only bindings have posters. -/
theorem lt_of_posterResult {result : PosterResult Data}
    (h : posterResult outcome events id = some result) :
    id < (jobs (events.map CellEvent.log)).length := by
  rw [← length_bindings]
  by_contra hbeyond
  rw [posterResult, boundItem, List.getElem?_eq_none (Nat.le_of_not_lt hbeyond)] at h
  cases h

/-- Later events do not change what the poster of a binding is. -/
theorem posterResult_append {result : PosterResult Data}
    (h : posterResult outcome events id = some result) (later : List CellEvent) :
    posterResult outcome (events ++ later) id = some result := by
  have hlt := lt_of_posterResult h
  rw [← length_bindings] at hlt
  rw [posterResult, boundItem, List.filterMap_append, List.getElem?_append_left hlt]
  exact h

/-- If every binding is for a listed item, every binding has a poster. -/
theorem exists_boundItem (hlisted : ∀ e ∈ events, e.Listed)
    (hid : id < (jobs (events.map CellEvent.log)).length) :
    ∃ item url, boundItem events id = some item ∧ item.poster = some url := by
  rw [← length_bindings] at hid
  obtain ⟨e, he, hbinding⟩ := List.mem_filterMap.mp (List.getElem_mem hid)
  cases e with
  | respond other => cases hbinding
  | bind itemList row cell =>
    obtain ⟨item, hitem, -, hposter⟩ := hlisted _ he
    obtain ⟨url, hurl⟩ := Option.isSome_iff_exists.mp hposter
    refine ⟨item, url, ?_, hurl⟩
    rw [boundItem, List.getElem?_eq_getElem hid, ← Option.some.inj hbinding]
    exact hitem

end JazzOnTheMove.IOS
