import JazzOnTheMove.Android.DealsFragments
import JazzOnTheMove.IOS.DealsDelivery

/-!
# The two apps side by side

For a section, both apps run a query on the deals collection. The iOS screen
keeps the complete documents of the snapshot, the Android fragment lists every
document and leaves gaps. Restricted to complete documents the two lists agree
wherever both loaders ask for the same type.
-/

namespace JazzOnTheMove

/-- The deals collection: its documents carry distinct timestamps, and each of the
seven deal fields is a string or absent. -/
structure DealsCollection where
  docs : List Document
  timestamps : ∀ doc ∈ docs, ∃ t, doc.data "timestamp" = some (.timestamp t)
  distinct : docs.Pairwise fun a b => a.time "timestamp" ≠ b.time "timestamp"
  stringFields : ∀ doc ∈ docs, Android.Document.StringFields doc

/-- A database with a deals collection and nothing else. -/
def DealsCollection.database (c : DealsCollection) : Database :=
  fun collection => if collection = "deals" then c.docs else []

/-- An Android entry has all seven fields. -/
def Android.Items.complete (model : Android.Items) : Bool :=
  model.id.isSome && model.name.isSome && model.poster.isSome && model.banner.isSome &&
    model.link.isSome && model.type.isSome && model.desc.isSome

/-- The same record as the iOS app has it. -/
def Android.Items.toItem (model : Android.Items) : IOS.Item :=
  ⟨model.id, model.name, model.poster, model.banner, model.link, model.type, model.desc⟩

/-- The list the iOS screen of a section ends with after one snapshot of its query. -/
def iosDeals (c : DealsCollection) (sec : MenuSection) : List IOS.Item :=
  (IOS.processSnapshot sec (IOS.loadDeals sec IOS.DealsScreen.fresh).1
    ((IOS.listenerOf sec).query.run c.database)).itemList

/-- The list the Android fragment of a section builds when its query succeeds. -/
def androidDeals (c : DealsCollection) (sec : MenuSection) : List Android.Items :=
  ((Android.loadDeals sec).onComplete
    (.success ((Android.loadDeals sec).query.run c.database))
    Android.DealsFragment.created).1.deals

/-- Android has the texts of a document. -/
theorem toItem_ofStrings (doc : Document) :
    (Android.Items.ofStrings doc).toItem = IOS.Item.ofFields doc := by
  simp only [Android.Items.toItem, Android.Items.ofStrings, IOS.Item.ofFields,
    doc.asString_data]

/-- An entry that Android has in full is that of a complete document. -/
theorem complete_ofStrings (doc : Document) :
    (Android.Items.ofStrings doc).complete = true ↔ doc.Complete := by
  simp only [Android.Items.complete, Android.Items.ofStrings, doc.asString_data,
    doc.complete_iff, Bool.and_eq_true, List.forall_mem_cons, List.not_mem_nil,
    false_implies, implies_true, and_true, and_assoc]

/-- Restricting Android's entries to the complete ones gives iOS's items. -/
theorem filter_complete_map_toItem (docs : List Document) :
    ((docs.map Android.Items.ofStrings).filter Android.Items.complete).map
        Android.Items.toItem = IOS.completeItems docs := by
  have hcomplete : Android.Items.complete ∘ Android.Items.ofStrings =
      fun doc => decide doc.Complete := by
    funext doc
    rw [Function.comp_apply, Bool.eq_iff_iff, complete_ofStrings, decide_eq_true_eq]
  rw [List.filter_map, hcomplete, List.map_map, IOS.completeItems]
  exact List.map_congr_left fun doc _ => toItem_ofStrings doc

/-- A fresh iOS screen shows the complete documents of its first snapshot. -/
theorem iosDeals_eq (c : DealsCollection) (sec : MenuSection) :
    iosDeals c sec = IOS.completeItems ((IOS.listenerOf sec).query.run c.database) := by
  rw [iosDeals, IOS.loadDeals_fst, IOS.processSnapshot_eq sec rfl]
  simp only [IOS.DealsScreen.afterSnapshot]
  split
  · rename_i hnone
    rw [hnone]
    rfl
  · rfl

/-- An Android fragment lists every document its query returns. -/
theorem androidDeals_eq (c : DealsCollection) (sec : MenuSection) :
    androidDeals c sec =
      ((Android.loadDeals sec).query.run c.database).map Android.Items.ofStrings := by
  have hstrings : ∀ doc ∈ (Android.loadDeals sec).query.run c.database,
      Android.Document.StringFields doc := by
    intro doc hdoc
    have hmem := (Query.mem_run hdoc).1
    have hdeals : (Android.loadDeals sec).query.collection = "deals" := by cases sec <;> rfl
    rw [hdeals] at hmem
    exact c.stringFields doc hmem
  have hload : (Android.loadDeals sec).onComplete = Android.onComplete := by cases sec <;> rfl
  rw [androidDeals, hload, (Android.onComplete_of_stringFields _ hstrings).2]
  rfl

/-- Android's complete entries, as iOS would have them. -/
theorem androidDeals_complete (c : DealsCollection) (sec : MenuSection) :
    ((androidDeals c sec).filter Android.Items.complete).map Android.Items.toItem =
      IOS.completeItems ((Android.loadDeals sec).query.run c.database) := by
  rw [androidDeals_eq, filter_complete_map_toItem]

/-- Outside the lifestyle section both apps ask Firestore the same question. -/
theorem query_eq_of_ne_lifestyle {sec : MenuSection} (h : sec ≠ .lifestyle) :
    (IOS.listenerOf sec).query = (Android.loadDeals sec).query := by
  cases sec <;> first | rfl | exact absurd rfl h

/-- Every item read from a query for a type has that type. -/
theorem type_of_mem_completeItems {q : Query} {c : DealsCollection} {type : String}
    (hq : q.whereEqualTo = some ("type", type)) {item : IOS.Item}
    (h : item ∈ IOS.completeItems (q.run c.database)) : item.type = some type := by
  obtain ⟨doc, hdoc, -, hitem⟩ := IOS.mem_completeItems.mp h
  rw [← hitem]
  exact Document.text_eq_some.mpr (Query.data_of_mem_run hq hdoc)

/-- **The two apps list the same deals** for a section, restricted to complete documents,
if and only if it is not the lifestyle section or neither the newest wine deals, which iOS
asks for there, nor the newest lifestyle deals contain a complete document. -/
theorem same_deals_iff (c : DealsCollection) (sec : MenuSection) :
    iosDeals c sec =
        ((androidDeals c sec).filter Android.Items.complete).map Android.Items.toItem ↔
      (sec = .lifestyle →
        (∀ doc ∈ (IOS.DataVM.getItems "liqour").query.run c.database,
          IOS.Item.ofData doc.data = none) ∧
        ∀ doc ∈ Android.LifestyleFragment.loadDeals.query.run c.database,
          IOS.Item.ofData doc.data = none) := by
  rw [androidDeals_complete, iosDeals_eq]
  by_cases hsec : sec = .lifestyle
  · subst hsec
    have hnil (docs : List Document) : (∀ doc ∈ docs, IOS.Item.ofData doc.data = none) ↔
        IOS.completeItems docs = [] := by
      simp only [IOS.Item.ofData_eq_none, IOS.completeItems_eq_nil_iff]
    rw [hnil, hnil]
    constructor
    · intro heq _
      -- the two lists hold different types, so a common item is impossible
      have hempty : IOS.completeItems
          ((IOS.DataVM.getItems "liqour").query.run c.database) = [] := by
        refine List.eq_nil_iff_forall_not_mem.mpr fun item hitem => ?_
        have hios := type_of_mem_completeItems rfl hitem
        have hmem : item ∈ IOS.completeItems
            (Android.LifestyleFragment.loadDeals.query.run c.database) := heq ▸ hitem
        have handroid := type_of_mem_completeItems rfl hmem
        rw [hios] at handroid
        revert handroid
        decide
      exact ⟨hempty, heq ▸ hempty⟩
    · intro h
      exact (h rfl).1.trans (h rfl).2.symm
  · rw [query_eq_of_ne_lifestyle hsec]
    simp [hsec]

/-- The collection of a single deal. -/
def DealsCollection.single (name type : String) (t : ℤ) : DealsCollection where
  docs := [.deal name type t]
  timestamps := by
    intro doc hdoc
    rw [List.mem_singleton.mp hdoc]
    exact ⟨t, rfl⟩
  distinct := List.pairwise_singleton _ _
  stringFields := by
    intro doc hdoc field hfield
    rw [List.mem_singleton.mp hdoc]
    simp only [Android.dealFields, List.mem_cons, List.not_mem_nil, or_false] at hfield
    rcases hfield with rfl | rfl | rfl | rfl | rfl | rfl | rfl <;> exact Or.inr ⟨_, rfl⟩

/-- A lifestyle deal reaches the Android section and not the iOS one. -/
theorem lifestyle_deal_missing_on_ios :
    iosDeals (.single "spa" "lifestyle" 1) .lifestyle = [] ∧
      ((androidDeals (.single "spa" "lifestyle" 1) .lifestyle).filter
          Android.Items.complete).map Android.Items.toItem =
        [⟨some "spa", some "spa", some "spa", some "spa", some "spa", some "lifestyle",
          some "spa"⟩] := by
  decide

end JazzOnTheMove
