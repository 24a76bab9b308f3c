import Mathlib.Data.List.Forall2
import EntitySql.Proofs.Result

/-!
# Lists gone through in order

A list is searched for its first item with a property. If a step that may fail is taken for each
item, then all steps have to succeed, or else the error is that of the first item whose step fails.

## Main definitions

* `IsFirstAt` : the first item of a list that has a property.
* `IsFirstError` : the error of the first item of a list whose step fails.

## Main results

* `findIdx?_eq_some_iff_isFirstAt`, `find?_eq_some_iff_isFirstAt` : the first item is the one that a
  search finds.
* `mapM_eq_ok_iff`, `mapM_eq_error_iff` : when the steps for all items succeed, and with which error
  they fail.
-/

namespace EntitySql

/-! ### First items -/

section First

variable {α : Type} {p : α → Prop} {xs : List α} {i j : Nat} {x y a : α}

/-- The first item of a list that has a property, and its place. -/
structure IsFirstAt (p : α → Prop) (xs : List α) (i : Nat) (x : α) : Prop where
  found : xs[i]? = some x
  holds : p x
  before : ∀ y ∈ xs.take i, ¬ p y

namespace IsFirstAt

theorem mem (h : IsFirstAt p xs i x) : x ∈ xs :=
  List.mem_of_getElem? h.found

theorem head (h : p a) : IsFirstAt p (a :: xs) 0 a :=
  ⟨rfl, h, by simp⟩

theorem tail (ha : ¬ p a) (h : IsFirstAt p xs i x) : IsFirstAt p (a :: xs) (i + 1) x :=
  ⟨h.found, h.holds, by simpa [ha] using h.before⟩

theorem le (h : IsFirstAt p xs i x) (h' : IsFirstAt p xs j y) : i ≤ j := by
  refine Nat.le_of_not_lt fun hlt => h.before y ?_ h'.holds
  have hy : (xs.take i)[j]? = some y := (List.getElem?_take_of_lt hlt).trans h'.found
  exact List.mem_of_getElem? hy

/-- There is one first item at most. -/
theorem unique (h : IsFirstAt p xs i x) (h' : IsFirstAt p xs j y) : i = j ∧ x = y := by
  obtain rfl : i = j := Nat.le_antisymm (h.le h') (h'.le h)
  exact ⟨rfl, Option.some.inj (h.found.symm.trans h'.found)⟩

end IsFirstAt

/-- The first item is the head, or the head lacks the property and the item is the first one behind
it. -/
theorem isFirstAt_cons_iff : IsFirstAt p (a :: xs) i x ↔
    p a ∧ i = 0 ∧ x = a ∨ ¬ p a ∧ ∃ j, i = j + 1 ∧ IsFirstAt p xs j x := by
  constructor
  · intro h
    by_cases ha : p a
    · exact .inl ⟨ha, h.unique (.head ha)⟩
    · cases i with
      | zero =>
          have hax : a = x := Option.some.inj h.found
          exact absurd (hax ▸ h.holds) ha
      | succ j =>
          have hbefore : ∀ y ∈ xs.take j, ¬ p y := fun y hy =>
            h.before y (List.mem_cons_of_mem a hy)
          exact .inr ⟨ha, j, rfl, h.found, h.holds, hbefore⟩
  · rintro (⟨ha, rfl, rfl⟩ | ⟨ha, j, rfl, h⟩)
    · exact .head ha
    · exact h.tail ha

theorem findIdx?_eq_some_iff_isFirstAt {q : α → Bool} :
    xs.findIdx? q = some i ↔ ∃ x, IsFirstAt (q · = true) xs i x := by
  induction xs generalizing i with
  | nil => simpa using fun x h => List.not_mem_nil (IsFirstAt.mem h)
  | cons a xs ih =>
      rw [List.findIdx?_cons]
      cases hq : q a with
      | true => simp [isFirstAt_cons_iff, hq, eq_comm (b := i)]
      | false =>
          simp only [isFirstAt_cons_iff, hq, Bool.false_eq_true, if_false, false_and, false_or,
            not_false_eq_true, true_and, Option.map_eq_some_iff, ih]
          grind

theorem find?_eq_some_iff_isFirstAt {q : α → Bool} :
    xs.find? q = some x ↔ ∃ i, IsFirstAt (q · = true) xs i x := by
  induction xs with
  | nil => simpa using fun i h => List.not_mem_nil (IsFirstAt.mem h)
  | cons a xs ih =>
      rw [List.find?_cons]
      cases hq : q a with
      | true => simp [isFirstAt_cons_iff, hq, eq_comm (b := x)]
      | false =>
          simp only [isFirstAt_cons_iff, hq, Bool.false_eq_true, false_and, false_or,
            not_false_eq_true, true_and, ih]
          grind

end First

/-! ### Steps that may fail -/

section Steps

variable {ε α β : Type} {f : α → Except ε β} {x : α} {xs : List α} {ys : List β} {e : ε}

/-- The error of the first item of a list whose step fails. -/
def IsFirstError (f : α → Except ε β) (xs : List α) (e : ε) : Prop :=
  ∃ i x, IsFirstAt (fun x => ∃ e, f x = .error e) xs i x ∧ f x = .error e

theorem not_isFirstError_nil : ¬ IsFirstError f [] e := by
  rintro ⟨i, x, hfirst, -⟩
  exact List.not_mem_nil hfirst.mem

theorem isFirstError_cons_iff :
    IsFirstError f (x :: xs) e ↔ f x = .error e ∨ ∃ y, f x = .ok y ∧ IsFirstError f xs e := by
  constructor
  · rintro ⟨i, x', hfirst, he⟩
    obtain ⟨-, -, rfl⟩ | ⟨hx, j, -, hfirst⟩ := isFirstAt_cons_iff.mp hfirst
    · exact .inl he
    · cases hy : f x with
      | error e' => exact absurd ⟨e', hy⟩ hx
      | ok y => exact .inr ⟨y, rfl, j, x', hfirst, he⟩
  · rintro (he | ⟨y, hy, i, x', hfirst, he⟩)
    · exact ⟨0, x, .head ⟨e, he⟩, he⟩
    · exact ⟨i + 1, x', hfirst.tail (by simp [hy]), he⟩

/-- The steps for all items succeed if each of them does. -/
theorem mapM_eq_ok_iff :
    xs.mapM f = .ok ys ↔ List.Forall₂ (fun x y => f x = .ok y) xs ys := by
  induction xs generalizing ys with
  | nil =>
      rw [List.forall₂_nil_left_iff, List.mapM_nil]
      exact ⟨fun h => (Except.ok.inj h).symm, fun h => congrArg Except.ok h.symm⟩
  | cons x xs ih =>
      rw [List.forall₂_cons_left_iff, List.mapM_cons]
      simp only [bind_eq_ok_iff, ih]
      constructor
      · rintro ⟨y, hy, rest, hrest, h⟩
        cases h
        exact ⟨y, rest, hy, hrest, rfl⟩
      · rintro ⟨y, rest, hy, hrest, rfl⟩
        exact ⟨y, hy, rest, hrest, rfl⟩

/-- The steps for all items fail with the error of the first one that fails. -/
theorem mapM_eq_error_iff : xs.mapM f = .error e ↔ IsFirstError f xs e := by
  induction xs with
  | nil => exact iff_of_false (fun h => nomatch h) not_isFirstError_nil
  | cons x xs ih =>
      rw [isFirstError_cons_iff, List.mapM_cons, bind_eq_error_iff]
      refine or_congr_right (exists_congr fun y => and_congr_right fun _ => ?_)
      rw [bind_eq_error_iff, ih]
      exact or_iff_left fun ⟨_, _, h⟩ => nomatch h

theorem exists_mapM_eq_ok_iff : (∃ ys, xs.mapM f = .ok ys) ↔ ∀ x ∈ xs, ∃ y, f x = .ok y := by
  induction xs with
  | nil => exact iff_of_true ⟨[], rfl⟩ fun _ h => nomatch h
  | cons x xs ih =>
      rw [List.forall_mem_cons, ← ih]
      simp only [mapM_eq_ok_iff, List.forall₂_cons_left_iff]
      constructor
      · rintro ⟨_, y, rest, hy, hrest, -⟩
        exact ⟨⟨y, hy⟩, rest, hrest⟩
      · rintro ⟨⟨y, hy⟩, rest, hrest⟩
        exact ⟨_, y, rest, hy, hrest, rfl⟩

end Steps

end EntitySql
