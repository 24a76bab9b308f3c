import Mathlib.Data.List.Basic
import Mathlib.Data.List.TakeWhile
import EntitySql.Text.Blank

/-!
# Trimming

Blanks around a text are lost when the text is trimmed, and a text that neither starts nor ends with
a blank is left alone.

## Main definitions

* `AreBlank` : texts of blanks only.
* `IsTrimmed` : texts that neither start nor end with a blank.

## Main results

* `trim_append` : blanks around a text are lost.
* `IsTrimmed.trim_eq` : a trimmed text is left alone.
-/

namespace EntitySql.Text

/-- A text of blanks only. -/
def AreBlank (cs : List Char) : Prop :=
  ∀ c ∈ cs, isBlank c = true

instance (cs : List Char) : Decidable (AreBlank cs) :=
  List.decidableBAll _ cs

/-- A text that neither starts nor ends with a blank. -/
def IsTrimmed (cs : List Char) : Prop :=
  (∀ c ∈ cs.head?, isBlank c = false) ∧ ∀ c ∈ cs.getLast?, isBlank c = false

variable {cs ds before after : List Char}

theorem AreBlank.reverse (h : AreBlank cs) : AreBlank cs.reverse :=
  fun c hc => h c (List.mem_reverse.mp hc)

theorem trimLeft_eq_nil_iff : trimLeft cs = [] ↔ AreBlank cs :=
  List.dropWhile_eq_nil_iff

theorem trimLeft_append_of_areBlank (h : AreBlank before) :
    trimLeft (before ++ cs) = trimLeft cs :=
  List.dropWhile_append_of_pos h

theorem trimLeft_append_of_not_areBlank (h : ¬ AreBlank cs) :
    trimLeft (cs ++ after) = trimLeft cs ++ after := by
  have hne : trimLeft cs ≠ [] := fun hnil => h (trimLeft_eq_nil_iff.mp hnil)
  rw [trimLeft, List.dropWhile_append, if_neg (by simpa [trimLeft] using hne)]
  rfl

theorem trimRight_append_of_areBlank (h : AreBlank after) :
    trimRight (cs ++ after) = trimRight cs := by
  rw [trimRight, List.reverse_append, List.dropWhile_append_of_pos h.reverse, trimRight]

/-- Blanks around a text are lost. -/
theorem trim_append (hbefore : AreBlank before) (hafter : AreBlank after) :
    trim (before ++ cs ++ after) = trim cs := by
  rw [trim, List.append_assoc, trimLeft_append_of_areBlank hbefore]
  by_cases h : AreBlank cs
  · rw [trimLeft_append_of_areBlank h, trimLeft_eq_nil_iff.mpr hafter, trim,
      trimLeft_eq_nil_iff.mpr h]
  · rw [trimLeft_append_of_not_areBlank h, trimRight_append_of_areBlank hafter, trim]

theorem dropWhile_isBlank_eq_self (h : ∀ c ∈ cs.head?, isBlank c = false) :
    cs.dropWhile isBlank = cs := by
  cases cs with
  | nil => rfl
  | cons c cs =>
      have hc : isBlank c = false := h c rfl
      simp [hc]

/-- A trimmed text is left alone. -/
theorem IsTrimmed.trim_eq (h : IsTrimmed cs) : trim cs = cs := by
  have hlast : ∀ c ∈ cs.reverse.head?, isBlank c = false := by
    rw [List.head?_reverse]
    exact h.2
  rw [trim, trimLeft, dropWhile_isBlank_eq_self h.1, trimRight, dropWhile_isBlank_eq_self hlast,
    List.reverse_reverse]

/-- What starts a text and what ends it decide whether the text is trimmed. -/
theorem IsTrimmed.append (hcs : IsTrimmed cs) (hds : IsTrimmed ds) (hne : cs ≠ [])
    (hne' : ds ≠ []) (between : List Char) : IsTrimmed (cs ++ between ++ ds) := by
  constructor
  · rw [List.append_assoc, List.head?_append_of_ne_nil cs hne]
    exact hcs.1
  · rw [List.getLast?_append_of_ne_nil _ hne']
    exact hds.2

theorem isTrimmed_of_forall (h : ∀ c ∈ cs, isBlank c = false) : IsTrimmed cs :=
  ⟨fun c hc => h c (List.mem_of_mem_head? hc), fun c hc => h c (List.mem_of_mem_getLast? hc)⟩

theorem isBlank_of_isDigit {c : Char} (h : c.isDigit = true) : isBlank c = false := by
  have hdigits : 48 ≤ c.toNat ∧ c.toNat ≤ 57 := by
    unfold Char.isDigit at h
    simp only [Bool.and_eq_true, decide_eq_true_eq, ge_iff_le, UInt32.le_iff_toNat_le] at h
    exact h
  have hranges : ∀ r ∈ blankRanges, r.2 < 48 ∨ 57 < r.1 := by decide
  rw [← Bool.not_eq_true, isBlank, inRanges_eq_true_iff]
  rintro ⟨r, hr, hlow, hhigh⟩
  rcases hranges r hr with hbelow | habove <;> omega

end EntitySql.Text
