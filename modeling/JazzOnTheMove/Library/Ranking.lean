import Mathlib.Data.List.Sort

/-!
# The first entries of a ranking

A query that orders its matches and keeps only so many of them computes the top
of a ranking. The ranking relation is any total, transitive one; ties are the
only freedom the listing order of the entries has.
-/

namespace Ranking

variable {α : Type*} (r : α → α → Prop) [DecidableRel r]

/-- The first `n` entries of a list once it is ranked by `r`. -/
def top (n : ℕ) (entries : List α) : List α := (entries.insertionSort r).take n

variable {r} {n : ℕ} {entries : List α}

/-- Ranking invents no entries. -/
theorem mem_of_mem_top {a : α} (h : a ∈ top r n entries) : a ∈ entries :=
  (List.mem_insertionSort r).mp (List.mem_of_mem_take h)

/-- The top of a ranking is as long as asked for, unless entries run out. -/
@[simp] theorem length_top : (top r n entries).length = min n entries.length := by
  rw [top, List.length_take, List.length_insertionSort]

section

variable [Std.Total r] [IsTrans α r]

/-- The top of a ranking is itself ranked. -/
theorem top_pairwise : (top r n entries).Pairwise r :=
  (List.pairwise_insertionSort r entries).sublist (List.take_sublist n _)

/-- An entry left out never ranks before one that was kept. -/
theorem rel_of_not_mem_top {a b : α} (ha : a ∈ top r n entries) (hb : b ∈ entries)
    (hout : b ∉ top r n entries) : r a b := by
  have hsorted := List.pairwise_insertionSort r entries
  rw [← List.take_append_drop n (entries.insertionSort r), List.pairwise_append] at hsorted
  have hdrop : b ∈ (entries.insertionSort r).drop n := by
    have hmem := (List.mem_insertionSort r).mpr hb
    rw [← List.take_append_drop n (entries.insertionSort r), List.mem_append] at hmem
    exact hmem.resolve_left hout
  exact hsorted.2.2 a ha b hdrop

/-- Without ties the top depends on the entries only, not on how they are listed. -/
theorem top_eq_of_perm {other : List α} (hperm : entries.Perm other)
    (hties : ∀ a ∈ entries, ∀ b ∈ entries, r a b → r b a → a = b) :
    top r n entries = top r n other := by
  have hsort : entries.insertionSort r = other.insertionSort r := by
    refine List.Perm.eq_of_pairwise ?_ (List.pairwise_insertionSort r entries)
      (List.pairwise_insertionSort r other) ?_
    · intro a b ha hb
      rw [List.mem_insertionSort] at ha hb
      exact hties a ha b (hperm.mem_iff.mpr hb)
    · exact (List.perm_insertionSort r entries).trans
        (hperm.trans (List.perm_insertionSort r other).symm)
  rw [top, top, hsort]

end

end Ranking
