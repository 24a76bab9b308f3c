import Mathlib.Data.List.Induction
import EntitySql.Query.Condition

/-!
# First occurrences

A list that is read from the left keeps each name where it stands first. What is kept grows at its
end only, so the part that was read before decides the places of its names.

## Main definitions

* `KeepsFirst` : the names that are kept when a list is read from the left.

## Main results

* `firstOccurrences_append` : the first occurrences in a list that goes on.
* `idxOf_firstOccurrences_append` : a name keeps its place.
* `keepsFirst_iff` : the first occurrences in a list are what is kept of it, and nothing else is.
-/

namespace EntitySql

/-! ### Lists that go on -/

/-- A list that goes on adds the names that it did not have. -/
theorem firstOccurrences_append (xs ys : List String) :
    firstOccurrences (xs ++ ys) =
      firstOccurrences xs ++ (firstOccurrences ys).filter (· ∉ xs) := by
  induction xs with
  | nil => exact (List.filter_eq_self.mpr fun _ _ => by simp).symm
  | cons x xs ih =>
      rw [List.cons_append, firstOccurrences, ih, firstOccurrences, List.filter_append,
        List.filter_filter, List.cons_append]
      congr 3
      funext y
      by_cases hy : y = x <;> simp [hy]

theorem firstOccurrences_eq_self {xs : List String} (h : xs.Nodup) : firstOccurrences xs = xs := by
  induction xs with
  | nil => rfl
  | cons x xs ih =>
      rw [List.nodup_cons] at h
      rw [firstOccurrences, ih h.2, List.filter_eq_self.mpr]
      intro y hy
      exact decide_eq_true fun hyx => h.1 (hyx ▸ hy)

theorem firstOccurrences_concat_of_mem {xs : List String} {x : String} (h : x ∈ xs) :
    firstOccurrences (xs ++ [x]) = firstOccurrences xs := by
  simp [firstOccurrences_append, firstOccurrences, h]

theorem firstOccurrences_concat_of_not_mem {xs : List String} {x : String} (h : x ∉ xs) :
    firstOccurrences (xs ++ [x]) = firstOccurrences xs ++ [x] := by
  simp [firstOccurrences_append, firstOccurrences, h]

theorem firstOccurrences_eq_nil_iff {xs : List String} : firstOccurrences xs = [] ↔ xs = [] := by
  simp only [List.eq_nil_iff_forall_not_mem, mem_firstOccurrences]

/-- The place of a name among all names is its place among the ones seen so far, once it has been
seen. -/
theorem idxOf_firstOccurrences_append {xs : List String} {x : String} (h : x ∈ xs)
    (ys : List String) :
    (firstOccurrences (xs ++ ys)).idxOf x = (firstOccurrences xs).idxOf x := by
  rw [firstOccurrences_append, List.idxOf_append, if_pos ((mem_firstOccurrences xs).mpr h)]

/-! ### Reading from the left -/

/-- What is kept of a list of names that is read from the left: a name is kept at the end, unless
it has been read before. -/
inductive KeepsFirst : List String → List String → Prop
  | nil : KeepsFirst [] []
  | again {xs kept x} (h : KeepsFirst xs kept) (hx : x ∈ xs) : KeepsFirst (xs ++ [x]) kept
  | first {xs kept x} (h : KeepsFirst xs kept) (hx : x ∉ xs) : KeepsFirst (xs ++ [x]) (kept ++ [x])

/-- The first occurrences in a list are what is kept of it, and nothing else is. -/
theorem keepsFirst_iff {xs kept : List String} :
    KeepsFirst xs kept ↔ kept = firstOccurrences xs := by
  constructor
  · intro h
    induction h with
    | nil => rfl
    | again _ hx ih => rw [firstOccurrences_concat_of_mem hx, ih]
    | first _ hx ih => rw [firstOccurrences_concat_of_not_mem hx, ih]
  · rintro rfl
    induction xs using List.reverseRecOn with
    | nil => exact .nil
    | append_singleton xs x ih =>
        by_cases hx : x ∈ xs
        · rw [firstOccurrences_concat_of_mem hx]
          exact .again ih hx
        · rw [firstOccurrences_concat_of_not_mem hx]
          exact .first ih hx

end EntitySql
