/-!
# Lists sorted by name

Members of JSON objects and variables of captured environments are kept in a list sorted by name,
each name once.

## Main definitions

* `insertByName` : an entry put into a sorted list; an entry of the same name is replaced.

## Main results

* `lookup_insertByName` : what is found after an insertion, for every name.
-/

namespace EntitySql

variable {α : Type}

/-- An entry put into a list that is sorted by name.  An entry of the same name is replaced. -/
def insertByName (name : String) (value : α) : List (String × α) → List (String × α)
  | [] => [(name, value)]
  | (other, old) :: rest =>
      if name = other then (name, value) :: rest
      else if name < other then (name, value) :: (other, old) :: rest
      else (other, old) :: insertByName name value rest

theorem lookup_cons_of_ne {name key : String} (h : key ≠ name) (value : α)
    (rest : List (String × α)) : ((name, value) :: rest).lookup key = rest.lookup key := by
  simp [List.lookup_cons, beq_eq_false_iff_ne.mpr h]

theorem lookup_insertByName (name key : String) (value : α) (entries : List (String × α)) :
    (insertByName name value entries).lookup key =
      if key = name then some value else entries.lookup key := by
  induction entries with
  | nil =>
      by_cases h : key = name
      · simp [insertByName, h]
      · rw [insertByName, lookup_cons_of_ne h, if_neg h]
  | cons entry rest ih =>
      obtain ⟨other, old⟩ := entry
      unfold insertByName
      by_cases hk : key = name
      · subst hk
        split
        · simp
        · split
          · simp
          · next h _ => rw [lookup_cons_of_ne h, ih, if_pos rfl, if_pos rfl]
      · rw [if_neg hk]
        split
        · next h =>
            subst h
            rw [lookup_cons_of_ne hk, lookup_cons_of_ne hk]
        · split
          · rw [lookup_cons_of_ne hk]
          · by_cases ho : key = other
            · subst ho
              rw [List.lookup_cons_self, List.lookup_cons_self]
            · rw [lookup_cons_of_ne ho, lookup_cons_of_ne ho, ih, if_neg hk]

end EntitySql
