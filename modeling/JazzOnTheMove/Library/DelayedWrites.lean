import Mathlib.Data.List.Basic

/-!
# Registers with delayed writes

A write to such a register takes effect later, and writes take effect in the order
in which they were issued. What the register will hold once nothing is pending is
known at once: the value written last.
-/

namespace DelayedWrites

/-- A register with the values that were written to it and have not landed. -/
structure Register (α : Type*) where
  current : α
  pending : List α
  deriving DecidableEq, Repr

namespace Register

variable {α : Type*}

/-- A register to which nothing was written. -/
def settled (value : α) : Register α := ⟨value, []⟩

/-- A write waits behind the earlier ones. -/
def write (r : Register α) (value : α) : Register α :=
  { r with pending := r.pending ++ [value] }

/-- The oldest write lands. -/
def land (r : Register α) : Register α :=
  match r.pending with
  | [] => r
  | value :: rest => ⟨value, rest⟩

/-- The oldest write is lost. -/
def drop (r : Register α) : Register α := { r with pending := r.pending.tail }

/-- The values that the register holds, or is going to hold. -/
def values (r : Register α) : List α := r.current :: r.pending

/-- What the register will hold once nothing is pending. -/
def eventual (r : Register α) : α := r.pending.getLast?.getD r.current

@[simp] theorem eventual_write (r : Register α) (value : α) :
    (r.write value).eventual = value := by
  simp [eventual, write]

/-- Landing a write does not change what the register will hold. -/
@[simp] theorem eventual_land (r : Register α) : r.land.eventual = r.eventual := by
  obtain ⟨current, pending⟩ := r
  cases pending with
  | nil => rfl
  | cons value rest =>
    cases rest with
    | nil => rfl
    | cons next rest => simp [land, eventual, List.getLast?_cons]

/-- A register without pending writes holds its value for good. -/
theorem current_of_pending_nil {r : Register α} (h : r.pending = []) :
    r.current = r.eventual := by
  rw [eventual, h]
  rfl

/-- Without pending writes, none can land. -/
theorem land_of_pending_nil {r : Register α} (h : r.pending = []) : r.land = r := by
  simp [land, h]

/-- Without pending writes, none can be lost. -/
theorem drop_of_pending_nil {r : Register α} (h : r.pending = []) : r.drop = r := by
  obtain ⟨current, pending⟩ := r
  obtain rfl : pending = [] := h
  rfl

/-- A register eventually holds one of its values. -/
theorem eventual_mem_values (r : Register α) : r.eventual ∈ r.values := by
  unfold eventual values
  cases hlast : r.pending.getLast? with
  | none => simp
  | some value => exact List.mem_cons_of_mem _ (List.mem_of_getLast? hlast)

/-- A write adds its value. -/
theorem mem_values_write {r : Register α} {value written : α} :
    value ∈ (r.write written).values ↔ value ∈ r.values ∨ value = written := by
  simp [write, values, or_assoc]

/-- Landing adds no value. -/
theorem values_land_subset (r : Register α) : r.land.values ⊆ r.values := by
  obtain ⟨current, pending⟩ := r
  cases pending with
  | nil => exact List.Subset.refl _
  | cons value rest => exact List.subset_cons_self current (value :: rest)

/-- Losing a write adds none either. -/
theorem values_drop_subset (r : Register α) : r.drop.values ⊆ r.values :=
  List.cons_subset_cons r.current fun _ => List.mem_of_mem_tail

/-- The only pending write lands at once. -/
theorem current_land_write {r : Register α} (h : r.pending = []) (value : α) :
    (r.write value).land.current = value := by
  simp [write, land, h]

end Register

end DelayedWrites
