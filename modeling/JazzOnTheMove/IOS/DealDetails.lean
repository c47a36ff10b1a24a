import JazzOnTheMove.IOS.DealsInterleavings
import JazzOnTheMove.IOS.SwiftRuntime
import JazzOnTheMove.Library.Fallible

/-!
# The details of a deal

A tap on the collection view of a deals screen unwraps the place that was tapped and then
six fields of the item there, and presents them. The list only ever has items of complete
documents, however deliveries and the main queue interleave, so of these only the place can
be missing, and the details are those of the document that the row lists.
-/

namespace JazzOnTheMove.IOS

open EventLoop (Carries)
open Fallible (bind_eq_ok)

/-- `DetailsVC`, as far as it is set by the screen that presents it. -/
structure DetailsVC where
  itemID : String
  nameE : String
  bannerF : String
  descE : String
  linkF : String
  typeF : String
  deriving DecidableEq, Repr

/-- `Tapped(_:)` with the list of the screen, where `indexPath` is the row that
`indexPathForItem(at:)` finds. -/
def Tapped (itemList : List Item) (indexPath : Option ℕ) : Except Trap DetailsVC := do
  let row ← unwrap indexPath
  let cellIndex ← subscript itemList row
  let itemID ← unwrap cellIndex.id
  let nameE ← unwrap cellIndex.name
  let bannerF ← unwrap cellIndex.banner
  let linkF ← unwrap cellIndex.link
  let typeF ← unwrap cellIndex.type
  let descE ← unwrap cellIndex.desc
  return { itemID, nameE, bannerF, descE, linkF, typeF }

namespace DetailsVC

/-- The details are those of a document. -/
structure Shows (vc : DetailsVC) (doc : Document) : Prop where
  id : doc.data "id" = some (.string vc.itemID)
  name : doc.data "name" = some (.string vc.nameE)
  banner : doc.data "banner" = some (.string vc.bannerF)
  desc : doc.data "desc" = some (.string vc.descE)
  link : doc.data "link" = some (.string vc.linkF)
  type : doc.data "type" = some (.string vc.typeF)

end DetailsVC

/-! ## What is listed -/

/-- The documents that a move delivers. -/
def Move.documents : Move → List Document
  | .deliver querySnapshot err => deliveredDocuments querySnapshot err
  | .turn => []

/-- The documents that were delivered. -/
def delivered (moves : List Move) : List Document := moves.flatMap Move.documents

/-- A screen lists complete documents only. -/
def ListsFrom (docs : List Document) (s : DealsScreen) : Prop :=
  (∀ item ∈ s.vmItemList, item ∈ completeItems docs) ∧
    ∀ item ∈ s.itemList, item ∈ completeItems docs

/-- A block carries such documents, or items of complete ones. -/
def Block.From (docs : List Document) : Block → Prop
  | .listener querySnapshot err => ∀ doc ∈ deliveredDocuments querySnapshot err, doc ∈ docs
  | .document data => ∃ doc ∈ docs, doc.data = data
  | .callback => True
  | .reload items => ∀ item ∈ items, item ∈ completeItems docs

variable {docs : List Document} {sec : MenuSection} {l : ScreenLoop}

/-- Calling the handler keeps what is listed, and shows such a list. -/
theorem ListsFrom.callDataCB {s : DealsScreen} (hs : ListsFrom docs s) (status : Bool)
    {items : List Item} (hitems : ∀ item ∈ items, item ∈ completeItems docs) (message : String) :
    ListsFrom docs (s.callDataCB status items message).1 ∧
      ∀ b ∈ (s.callDataCB status items message).2, b.From docs := by
  refine ⟨?_, fun b hb => ?_⟩
  · unfold ListsFrom
    rw [DealsScreen.callDataCB_vmItemList, DealsScreen.callDataCB_itemList]
    exact hs
  · rcases s.callDataCB_blocks status items message with hnone | hreload
    · rw [hnone] at hb
      cases hb
    · rw [hreload, List.mem_singleton] at hb
      rw [hb]
      exact hitems

/-- **Block.** Every block keeps the lists to items of complete documents. -/
theorem listsFrom_exec (s : DealsScreen) (b : Block) (hs : ListsFrom docs s) (hb : b.From docs) :
    ListsFrom docs (exec HomeVM.getDeals s b).1 ∧
      ∀ c ∈ (exec HomeVM.getDeals s b).2, c.From docs := by
  cases b with
  | listener querySnapshot err =>
    have hcleared : ListsFrom docs { s with vmItemList := [] } :=
      ⟨fun item hitem => absurd hitem List.not_mem_nil, hs.2⟩
    cases err with
    | some err =>
      exact hcleared.callDataCB false (fun item hitem => absurd hitem List.not_mem_nil) _
    | none =>
      refine ⟨hcleared, fun c hc => ?_⟩
      obtain ⟨doc, hdoc, rfl⟩ := List.mem_map.mp hc
      exact ⟨doc, hb doc hdoc, rfl⟩
  | document data =>
    obtain ⟨doc, hdoc, rfl⟩ := hb
    simp only [exec, appendItem]
    cases hdata : Item.ofData doc.data with
    | none => exact ⟨hs, fun c hc => absurd hc List.not_mem_nil⟩
    | some newList =>
      refine ⟨⟨fun item hitem => ?_, hs.2⟩, fun c hc => ?_⟩
      · rcases List.mem_append.mp hitem with hitem | hitem
        · exact hs.1 item hitem
        · rw [List.mem_singleton.mp hitem]
          exact mem_completeItems.mpr ⟨doc, hdoc, Item.ofData_eq_some.mp hdata⟩
      · rw [List.mem_singleton.mp hc]
        trivial
  | callback => exact hs.callDataCB true hs.1 _
  | reload items => exact ⟨⟨hs.1, hb⟩, fun c hc => absurd hc List.not_mem_nil⟩

/-- A move that delivers such documents, or none, keeps the lists to such items. -/
theorem carries_move (h : Carries (ListsFrom docs) (Block.From docs) l) {e : Move}
    (he : ∀ doc ∈ e.documents, doc ∈ docs) :
    Carries (ListsFrom docs) (Block.From docs) (move sec l e) := by
  cases e with
  | deliver querySnapshot err => exact h.post he
  | turn =>
    change Carries _ _ (turn sec l)
    unfold turn
    rw [exec_listenerOf]
    exact h.turn listsFrom_exec

/-- So does a run of such moves. -/
theorem carries_play (h : Carries (ListsFrom docs) (Block.From docs) l) {moves : List Move}
    (hmoves : ∀ e ∈ moves, ∀ doc ∈ e.documents, doc ∈ docs) :
    Carries (ListsFrom docs) (Block.From docs) (play sec l moves) := by
  induction moves generalizing l with
  | nil => exact h
  | cons e moves ih =>
    exact ih (carries_move h (hmoves e List.mem_cons_self)) fun d hd =>
      hmoves d (List.mem_cons_of_mem e hd)

/-- **Run.** Whatever was delivered in whichever order with the main queue, the screen lists
items of complete documents that were delivered. -/
theorem listsFrom_play (sec : MenuSection) (moves : List Move) :
    ListsFrom (delivered moves) (play sec (opened sec DealsScreen.fresh) moves).state := by
  have hopened : Carries (ListsFrom (delivered moves)) (Block.From (delivered moves))
      (opened sec DealsScreen.fresh) := by
    refine ⟨?_, fun b hb => absurd hb List.not_mem_nil⟩
    change ListsFrom _ (loadDeals sec DealsScreen.fresh).1
    rw [loadDeals_fst]
    exact ⟨fun item hitem => absurd hitem List.not_mem_nil,
      fun item hitem => absurd hitem List.not_mem_nil⟩
  exact (carries_play hopened fun e he doc hdoc => List.mem_flatMap.mpr ⟨e, he, hdoc⟩).state

/-- What the collection view of a section's screen lists after some moves. -/
def listedAfter (sec : MenuSection) (moves : List Move) : List Item :=
  (play sec (opened sec DealsScreen.fresh) moves).state.itemList

/-- Every row lists a complete document that was delivered. -/
theorem exists_listed {moves : List Move} {row : ℕ} {item : Item}
    (hrow : (listedAfter sec moves)[row]? = some item) :
    ∃ doc ∈ delivered moves, doc.Complete ∧ Item.ofFields doc = item :=
  mem_completeItems.mp ((listsFrom_play sec moves).2 item (List.mem_of_getElem? hrow))

/-! ## Taps -/

/-- A tap beside the rows traps. -/
theorem tapped_none (itemList : List Item) : Tapped itemList none = .error .foundNil := rfl

/-- A tap on a row that lists a complete document presents its details. -/
theorem tapped_of_complete {itemList : List Item} {row : ℕ} {doc : Document}
    (hrow : itemList[row]? = some (Item.ofFields doc)) (hcomplete : doc.Complete) :
    ∃ vc, Tapped itemList (some row) = .ok vc ∧ vc.Shows doc := by
  obtain ⟨id, hid⟩ := hcomplete "id" (by simp)
  obtain ⟨name, hname⟩ := hcomplete "name" (by simp)
  obtain ⟨banner, hbanner⟩ := hcomplete "banner" (by simp)
  obtain ⟨link, hlink⟩ := hcomplete "link" (by simp)
  obtain ⟨type, htype⟩ := hcomplete "type" (by simp)
  obtain ⟨desc, hdesc⟩ := hcomplete "desc" (by simp)
  refine ⟨⟨id, name, banner, desc, link, type⟩, ?_, ⟨hid, hname, hbanner, hdesc, hlink, htype⟩⟩
  have hsubscript : subscript itemList row = .ok (Item.ofFields doc) := by
    rw [subscript, hrow]
  unfold Tapped
  simp only [unwrap, hsubscript, bind, Except.bind, Item.ofFields,
    Document.text_eq_some.mpr hid, Document.text_eq_some.mpr hname,
    Document.text_eq_some.mpr hbanner, Document.text_eq_some.mpr hlink,
    Document.text_eq_some.mpr htype, Document.text_eq_some.mpr hdesc]
  rfl

/-- A tap that presents details has hit a row. -/
theorem row_of_tapped {itemList : List Item} {indexPath : Option ℕ} {vc : DetailsVC}
    (hvc : Tapped itemList indexPath = .ok vc) :
    ∃ row < itemList.length, indexPath = some row := by
  obtain ⟨row, hindexPath, hvc⟩ := bind_eq_ok.mp hvc
  obtain ⟨item, hitem, -⟩ := bind_eq_ok.mp hvc
  cases indexPath with
  | none => cases hindexPath
  | some found =>
    obtain rfl := Except.ok.inj hindexPath
    refine ⟨found, ?_, rfl⟩
    by_contra hbeyond
    rw [subscript_of_le (Nat.le_of_not_lt hbeyond)] at hitem
    cases hitem

/-- A tap on a row presents the details of the complete document that the row lists. -/
theorem exists_tapped (sec : MenuSection) (moves : List Move) {row : ℕ}
    (hrow : row < (listedAfter sec moves).length) :
    ∃ vc, Tapped (listedAfter sec moves) (some row) = .ok vc ∧
      ∃ doc ∈ delivered moves, doc.Complete ∧
        (listedAfter sec moves)[row]? = some (Item.ofFields doc) ∧ vc.Shows doc := by
  have hitem := List.getElem?_eq_getElem hrow
  obtain ⟨doc, hdoc, hcomplete, hlisted⟩ := exists_listed hitem
  rw [← hlisted] at hitem
  obtain ⟨vc, hvc, hshows⟩ := tapped_of_complete hitem hcomplete
  exact ⟨vc, hvc, doc, hdoc, hcomplete, hitem, hshows⟩

/-- **Taps.** On a screen of any section, at any time, a tap beside the rows traps, and any
other presents details exactly if it hits a row: those of a complete document that was
delivered and that this row lists. -/
theorem tap_presents_iff (sec : MenuSection) (moves : List Move) (indexPath : Option ℕ) :
    Tapped (listedAfter sec moves) none = .error .foundNil ∧
      ((∃ vc, Tapped (listedAfter sec moves) indexPath = .ok vc) ↔
        ∃ row < (listedAfter sec moves).length, indexPath = some row) ∧
      ∀ row vc, Tapped (listedAfter sec moves) (some row) = .ok vc →
        ∃ doc ∈ delivered moves, doc.Complete ∧
          (listedAfter sec moves)[row]? = some (Item.ofFields doc) ∧ vc.Shows doc := by
  refine ⟨tapped_none _, ⟨?_, ?_⟩, fun row vc hvc => ?_⟩
  · rintro ⟨vc, hvc⟩
    exact row_of_tapped hvc
  · rintro ⟨row, hrow, rfl⟩
    obtain ⟨vc, hvc, -⟩ := exists_tapped sec moves hrow
    exact ⟨vc, hvc⟩
  · obtain ⟨found, hrow, hfound⟩ := row_of_tapped hvc
    obtain rfl := Option.some.inj hfound
    obtain ⟨vc', hvc', hdetails⟩ := exists_tapped sec moves hrow
    obtain rfl := Except.ok.inj (hvc.symm.trans hvc')
    exact hdetails

end JazzOnTheMove.IOS
