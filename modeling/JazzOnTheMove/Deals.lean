import JazzOnTheMove.Library.Ranking

/-!
# The deals collection as Firestore serves it

Both apps have the same six sections and read the same collection through
ordered, limited queries. This file states what a document and a query are and
what a query returns: the matching documents that carry the ordering field,
ordered by it, cut off at the limit.
-/

namespace JazzOnTheMove

/-- The six sections of the side menu and of the drawer, in menu order. -/
inductive MenuSection where
  | home
  | wine
  | coffee
  | travel
  | events
  | lifestyle
  deriving DecidableEq, Repr

/-- A field value. The apps tell strings from the rest and order by timestamps. -/
inductive Value where
  | string (s : String)
  | timestamp (t : ℤ)
  | other
  deriving DecidableEq, Repr

/-- The Swift cast `as? String` of an optional field value. -/
def Value.asString : Option Value → Option String
  | some (.string s) => some s
  | _ => none

/-- A document: its field values under their keys. -/
structure Document where
  /-- The value stored under a key, if there is one. -/
  data : String → Option Value

/-- The string that a document has under a key, if it has one there. -/
def Document.text (doc : Document) (key : String) : Option String :=
  match doc.data key with
  | some (.string s) => some s
  | some (.timestamp _) => none
  | some .other => none
  | none => none

/-- A complete document: all seven fields of a deal are present as strings. -/
def Document.Complete (doc : Document) : Prop :=
  ∀ key ∈ ["id", "name", "poster", "banner", "link", "type", "desc"],
    ∃ s, doc.data key = some (.string s)

/-- The text under a key is the string stored there. -/
theorem Document.text_eq_some {doc : Document} {key s : String} :
    doc.text key = some s ↔ doc.data key = some (.string s) := by
  unfold Document.text
  cases doc.data key with
  | none => simp
  | some value => cases value <;> simp

/-- A document is complete if it has all seven texts. -/
theorem Document.complete_iff (doc : Document) :
    doc.Complete ↔
      ∀ key ∈ ["id", "name", "poster", "banner", "link", "type", "desc"],
        (doc.text key).isSome := by
  simp only [Document.Complete, Option.isSome_iff_exists, Document.text_eq_some]

instance : DecidablePred Document.Complete := fun doc =>
  decidable_of_iff _ doc.complete_iff.symm

/-- The cast to a string gives the text. -/
theorem Document.asString_data (doc : Document) (key : String) :
    Value.asString (doc.data key) = doc.text key := by
  unfold Document.text
  cases doc.data key with
  | none => rfl
  | some value => cases value <;> rfl

/-- The document an editor enters for a deal of a type, with all its fields filled in. -/
def Document.deal (name type : String) (t : ℤ) : Document where
  data
    | "id" => some (.string name)
    | "name" => some (.string name)
    | "poster" => some (.string name)
    | "banner" => some (.string name)
    | "link" => some (.string name)
    | "type" => some (.string type)
    | "desc" => some (.string name)
    | "timestamp" => some (.timestamp t)
    | _ => none

/-- The documents of every collection. -/
abbrev Database := String → List Document

/-- A collection query with at most one equality filter, one ordering field and a limit. -/
structure Query where
  /-- The collection read. -/
  collection : String
  /-- The field compared and the string it must hold. -/
  whereEqualTo : Option (String × String)
  /-- The ordering field. -/
  orderBy : String
  /-- Whether the largest value comes first. -/
  descending : Bool
  /-- The largest number of documents returned. -/
  limit : ℕ
  deriving DecidableEq

/-- The instant under a key. Ordering fields of the collection hold timestamps. -/
def Document.time (doc : Document) (key : String) : ℤ :=
  match doc.data key with
  | some (.timestamp t) => t
  | _ => 0

/-- A query selects the documents passing its filter that have its ordering field. -/
def Query.selects (q : Query) (doc : Document) : Bool :=
  (doc.data q.orderBy).isSome &&
    q.whereEqualTo.all fun (key, s) => doc.data key == some (.string s)

/-- The order in which a query returns documents. -/
def Query.precedes (q : Query) (a b : Document) : Prop :=
  if q.descending then b.time q.orderBy ≤ a.time q.orderBy
  else a.time q.orderBy ≤ b.time q.orderBy

instance (q : Query) : DecidableRel q.precedes := fun a b => by
  unfold Query.precedes
  infer_instance

instance (q : Query) : Std.Total q.precedes where
  total a b := by
    unfold Query.precedes
    split
    · exact Int.le_total _ _
    · exact Int.le_total _ _

instance (q : Query) : IsTrans Document q.precedes where
  trans a b c := by
    unfold Query.precedes
    split
    · exact fun hab hbc => hbc.trans hab
    · exact fun hab hbc => hab.trans hbc

/-- The documents a query returns. -/
def Query.run (q : Query) (db : Database) : List Document :=
  Ranking.top q.precedes q.limit ((db q.collection).filter q.selects)

/-- A query returns documents of its collection that it selects. -/
theorem Query.mem_run {q : Query} {db : Database} {doc : Document} (h : doc ∈ q.run db) :
    doc ∈ db q.collection ∧ q.selects doc = true :=
  List.mem_filter.mp (Ranking.mem_of_mem_top h)

/-- Every document a filtered query returns holds the string asked for. -/
theorem Query.data_of_mem_run {q : Query} {db : Database} {doc : Document} {key s : String}
    (hwhere : q.whereEqualTo = some (key, s)) (h : doc ∈ q.run db) :
    doc.data key = some (.string s) := by
  have hselects := (Query.mem_run h).2
  simp only [Query.selects, hwhere, Option.all_some, Bool.and_eq_true, beq_iff_eq] at hselects
  exact hselects.2

/-- The limit bounds the number of documents returned. -/
theorem Query.length_run_le (q : Query) (db : Database) : (q.run db).length ≤ q.limit := by
  rw [Query.run, Ranking.length_top]
  exact Nat.min_le_left _ _

/-- Documents come in the order the query asks for. -/
theorem Query.run_pairwise (q : Query) (db : Database) : (q.run db).Pairwise q.precedes :=
  Ranking.top_pairwise

/-- The limit cuts off documents that come last in the order, never others. -/
theorem Query.precedes_of_not_mem_run {q : Query} {db : Database} {kept cut : Document}
    (hkept : kept ∈ q.run db) (hmem : cut ∈ db q.collection) (hselects : q.selects cut = true)
    (hcut : cut ∉ q.run db) : q.precedes kept cut :=
  Ranking.rel_of_not_mem_top hkept (List.mem_filter.mpr ⟨hmem, hselects⟩) hcut

/-- With distinct instants in the ordering field, what a query returns depends on
the contents of the collection only. -/
theorem Query.run_eq_of_perm {q : Query} {db other : Database}
    (hperm : (db q.collection).Perm (other q.collection))
    (hdistinct : ∀ a ∈ db q.collection, ∀ b ∈ db q.collection,
      a.time q.orderBy = b.time q.orderBy → a = b) :
    q.run db = q.run other := by
  refine Ranking.top_eq_of_perm (hperm.filter _) ?_
  intro a ha b hb hab hba
  refine hdistinct a (List.mem_of_mem_filter ha) b (List.mem_of_mem_filter hb) ?_
  unfold Query.precedes at hab hba
  split at hab
  · rw [if_pos ‹_›] at hba
    omega
  · rw [if_neg ‹_›] at hba
    omega

end JazzOnTheMove
