import JazzOnTheMove.Android.DealsFragments
import JazzOnTheMove.Library.Fallible

/-!
# The rows of the deals list

The complete listener reads seven fields of every document, and each of them must be a
string or absent. The adapter of the list then binds a row for every document, and each
row needs the type of its deal. One document that lacks what it needs takes all others
down with it.
-/

namespace JazzOnTheMove.Android

open Fallible (bind_eq_ok)

/-- A method call on a reference that may be null. -/
def deref {α : Type} : Option α → Except Thrown α
  | some a => .ok a
  | none => .error .nullPointer

/-- What a row shows once it is bound, and what a click hands to `DetailsActivity`. -/
structure ViewHolder where
  name : Option String
  oldprice : String
  /-- What Glide loads into the image, where null leaves the placeholder. -/
  image : Option String
  /-- The extras of the intent. -/
  extras : List (String × Option String)
  deriving DecidableEq, Repr

namespace ItemsAdapter

/-- `getItemCount()`. -/
def getItemCount (adapter : ItemsAdapter) : ℕ := adapter.dealsList.length

/-- `onCreateViewHolder(parent, viewType)` inflates a row with the adapter's context. -/
def onCreateViewHolder (adapter : ItemsAdapter) : Except Thrown ViewHolder :=
  if adapter.mContext then .ok ⟨some "Book Shelf", "1347", none, []⟩ else .error .nullPointer

/-- `onBindViewHolder(holder, position)`, which sets all that a holder shows; `toUpperCase`
is `String.toUpperCase(Locale.ROOT)`. -/
def onBindViewHolder (toUpperCase : String → String) (adapter : ItemsAdapter) (holder : ViewHolder)
    (position : Fin adapter.getItemCount) : Except Thrown ViewHolder := do
  let deals := adapter.dealsList.get position
  let holder := { holder with name := deals.name }
  let type ← deref deals.type
  let holder := { holder with oldprice := toUpperCase type }
  -- Glide needs a context
  if adapter.mContext then
    return { holder with
      image := deals.poster
      extras := [("ID", deals.id), ("NAME", deals.name), ("BANNER", deals.banner),
        ("DESC", deals.desc), ("LINK", deals.link), ("TYPE", deals.type),
        ("POSTER", deals.poster)] }
  else .error .nullPointer

/-- A row of the list in a holder of its own. -/
def row (toUpperCase : String → String) (adapter : ItemsAdapter)
    (position : Fin adapter.getItemCount) : Except Thrown ViewHolder := do
  let holder ← adapter.onCreateViewHolder
  adapter.onBindViewHolder toUpperCase holder position

/-- An adapter with a context binds a row if its deal has a type. -/
theorem exists_row_iff {toUpperCase : String → String} {adapter : ItemsAdapter}
    (hcontext : adapter.mContext = true) (position : Fin adapter.getItemCount) :
    (∃ holder, adapter.row toUpperCase position = .ok holder) ↔
      (adapter.dealsList.get position).type ≠ none := by
  simp only [row, onCreateViewHolder, if_pos hcontext]
  change (∃ holder, adapter.onBindViewHolder toUpperCase _ position = .ok holder) ↔ _
  unfold onBindViewHolder
  cases htype : (adapter.dealsList.get position).type with
  | none => simp [deref, htype, bind, Except.bind]
  | some type => simp [deref, htype, hcontext, bind, Except.bind, pure, Except.pure]

/-- It binds all rows if all deals have types. -/
theorem exists_rows_iff {toUpperCase : String → String} {adapter : ItemsAdapter}
    (hcontext : adapter.mContext = true) :
    (∀ position, ∃ holder, adapter.row toUpperCase position = .ok holder) ↔
      ∀ deals ∈ adapter.dealsList, deals.type ≠ none := by
  constructor
  · intro hrows deals hdeals
    obtain ⟨position, rfl⟩ := List.mem_iff_get.mp hdeals
    exact (exists_row_iff hcontext position).mp (hrows position)
  · intro htypes position
    exact (exists_row_iff hcontext position).mpr (htypes _ (List.get_mem _ position))

end ItemsAdapter

/-! ## Loading -/

variable {doc : Document} {docs : List Document}

/-- A field that `getString` returned is a string or absent. -/
theorem string_of_getString {field : String} {answer : Option String}
    (hanswer : getString doc field = .ok answer) :
    doc.data field = none ∨ ∃ s, doc.data field = some (.string s) := by
  unfold getString at hanswer
  cases hvalue : doc.data field with
  | none => exact Or.inl rfl
  | some value =>
    rw [hvalue] at hanswer
    cases value with
    | string s => exact Or.inr ⟨s, rfl⟩
    | timestamp | other => cases hanswer

/-- All fields of a document that became an entry are strings or absent. -/
theorem stringFields_of_ofDocument {model : Items} (hmodel : Items.ofDocument doc = .ok model) :
    Document.StringFields doc := by
  unfold Items.ofDocument at hmodel
  obtain ⟨id, hid, hmodel⟩ := bind_eq_ok.mp hmodel
  obtain ⟨name, hname, hmodel⟩ := bind_eq_ok.mp hmodel
  obtain ⟨poster, hposter, hmodel⟩ := bind_eq_ok.mp hmodel
  obtain ⟨banner, hbanner, hmodel⟩ := bind_eq_ok.mp hmodel
  obtain ⟨link, hlink, hmodel⟩ := bind_eq_ok.mp hmodel
  obtain ⟨type, htype, hmodel⟩ := bind_eq_ok.mp hmodel
  obtain ⟨desc, hdesc, -⟩ := bind_eq_ok.mp hmodel
  intro field hfield
  simp only [dealFields, List.mem_cons, List.not_mem_nil, or_false] at hfield
  rcases hfield with rfl | rfl | rfl | rfl | rfl | rfl | rfl
  · exact string_of_getString hid
  · exact string_of_getString hname
  · exact string_of_getString hposter
  · exact string_of_getString hbanner
  · exact string_of_getString hlink
  · exact string_of_getString htype
  · exact string_of_getString hdesc

/-- The loop returns only if all documents are such. -/
theorem stringFields_of_addDeals {f : DealsFragment} (hreturned : (addDeals docs f).2 = none) :
    ∀ doc ∈ docs, Document.StringFields doc := by
  induction docs generalizing f with
  | nil => exact fun doc hdoc => absurd hdoc List.not_mem_nil
  | cons doc docs ih =>
    unfold addDeals at hreturned
    cases hmodel : Items.ofDocument doc with
    | error thrown =>
      rw [hmodel] at hreturned
      cases hreturned
    | ok model =>
      rw [hmodel] at hreturned
      exact List.forall_mem_cons.mpr ⟨stringFields_of_ofDocument hmodel, ih hreturned⟩

/-- The loop does not touch the fragment's context. -/
theorem addDeals_attached (docs : List Document) (f : DealsFragment) :
    (addDeals docs f).1.attached = f.attached := by
  induction docs generalizing f with
  | nil => rfl
  | cons doc docs ih =>
    unfold addDeals
    cases Items.ofDocument doc with
    | error thrown => rfl
    | ok model => exact ih _

/-- The complete listener throws what its loop throws. -/
theorem onComplete_thrown (docs : List Document) (f : DealsFragment) :
    (onComplete (.success docs) f).2 = (addDeals docs f).2 := by
  simp only [onComplete]
  rcases addDeals docs f with ⟨g, thrown⟩
  cases thrown <;> rfl

/-- If all fields are strings or absent, the adapter has an entry for every document. -/
theorem onComplete_itemsAdapter (f : DealsFragment)
    (hstrings : ∀ doc ∈ docs, Document.StringFields doc) :
    (onComplete (.success docs) f).1.itemsAdapter =
      ⟨f.attached, f.deals ++ docs.map Items.ofStrings⟩ := by
  obtain ⟨hnone, hdeals⟩ := addDeals_of_stringFields f hstrings
  have hattached := addDeals_attached docs f
  simp only [onComplete]
  rcases hrun : addDeals docs f with ⟨g, thrown⟩
  rw [hrun] at hnone hdeals hattached
  obtain rfl : thrown = none := hnone
  exact congrArg₂ ItemsAdapter.mk hattached hdeals

/-! ## The list and its rows -/

/-- All fields of a document are strings. -/
def Document.hasAllFields (doc : Document) : Bool :=
  dealFields.all fun field => (Value.asString (doc.data field)).isSome

/-- The deals were loaded without an exception, all rows of the list can be bound, and the
list has every document with all its fields, in the order of the query. -/
structure DealsShown (toUpperCase : String → String) (docs : List Document)
    (loaded : DealsFragment × Option Thrown) : Prop where
  returned : loaded.2 = none
  bound : ∀ position, ∃ holder, loaded.1.itemsAdapter.row toUpperCase position = .ok holder
  listed : ((docs.filter Document.hasAllFields).map Items.ofStrings).Sublist
    loaded.1.itemsAdapter.dealsList

/-- **One bad deal.** The deals that a query returns are shown exactly if every field of
every document is a string or absent and no document lacks its type. -/
theorem deals_shown_iff (toUpperCase : String → String) (sec : MenuSection)
    (docs : List Document) :
    DealsShown toUpperCase docs ((loadDeals sec).onComplete (.success docs) .created) ↔
      ∀ doc ∈ docs, Document.StringFields doc ∧ doc.data "type" ≠ none := by
  have hload : (loadDeals sec).onComplete = onComplete := by cases sec <;> rfl
  rw [hload]
  constructor
  · intro hshown
    have hstrings : ∀ doc ∈ docs, Document.StringFields doc :=
      stringFields_of_addDeals ((onComplete_thrown docs _).symm.trans hshown.returned)
    have hrows := hshown.bound
    rw [onComplete_itemsAdapter _ hstrings] at hrows
    have htypes := (ItemsAdapter.exists_rows_iff rfl).mp hrows
    refine fun doc hdoc => ⟨hstrings doc hdoc, fun habsent => ?_⟩
    refine htypes (Items.ofStrings doc) (List.mem_map_of_mem hdoc) ?_
    simp only [Items.ofStrings, habsent, Value.asString]
  · intro hdocs
    have hstrings : ∀ doc ∈ docs, Document.StringFields doc := fun doc hdoc => (hdocs doc hdoc).1
    have hadapter := onComplete_itemsAdapter .created hstrings
    refine ⟨?_, ?_, ?_⟩
    · exact (onComplete_thrown docs _).trans (addDeals_of_stringFields _ hstrings).1
    · rw [hadapter]
      refine (ItemsAdapter.exists_rows_iff rfl).mpr fun deals hdeals => ?_
      obtain ⟨doc, hdoc, rfl⟩ := List.mem_map.mp hdeals
      have hstring := (hdocs doc hdoc).1 "type" (by decide)
      obtain ⟨type, htype⟩ := hstring.resolve_left (hdocs doc hdoc).2
      simp [Items.ofStrings, htype, Value.asString]
    · rw [hadapter]
      exact List.filter_sublist.map Items.ofStrings

/-- A deal without a type takes the complete one before it off the home screen. -/
theorem untyped_deal_hides_others :
    let database : Database := fun _ => [.deal "spa" "coffee" 2,
      ⟨fun key => if key = "timestamp" then some (.timestamp 1) else none⟩]
    let docs := HomeFragment.loadDeals.query.run database
    ¬ DealsShown (String.map Char.toUpper) docs
      ((loadDeals .home).onComplete (.success docs) .created) := by
  intro database docs hshown
  obtain ⟨holder, hrow⟩ := hshown.bound ⟨1, by decide⟩
  cases hrow

end JazzOnTheMove.Android
