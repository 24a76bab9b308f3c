import EntitySql.Proofs.Placeholder.Numbering

/-!
# Slots of placeholders

Slots are given in the order of first use. If the names are listed in that order as well, then every
name gets the slot that is its place in the list, and only the placeholders of the text change.

## Main results

* `Fragment.filterMap_known?_pieces`, `Fragment.flatMap_numbered_pieces` : what is numbered in a
  fragment.
* `numberPlaceholders_textOf` : placeholders are numbered by the places of their names.
* `not_mem_pieces_number` : no placeholder is left.
-/

namespace EntitySql.Postgres

open Text

/-! ### Fragments -/

theorem exists_literal_of_mem_literalPieces {seen t : List Char} {piece : Piece}
    (h : piece ∈ literalPieces seen t) : ∃ text, piece = .literal text := by
  induction t generalizing seen with
  | nil => exact ⟨_, List.mem_singleton.mp h⟩
  | cons c t ih =>
      rw [literalPieces] at h
      split at h
      · rcases List.mem_cons.mp h with rfl | h
        · exact ⟨_, rfl⟩
        · exact ih h
      · exact ih h

theorem flatMap_text_literalPieces (seen t : List Char) :
    (literalPieces seen t).flatMap Piece.text = '\'' :: (seen ++ (doubleQuotes t ++ ['\''])) := by
  induction t generalizing seen with
  | nil => simp [literalPieces, doubleQuotes, Piece.text]
  | cons c t ih =>
      rw [literalPieces, doubleQuotes]
      split
      · simp [Piece.text, ih]
      · simp [ih]

namespace Fragment

theorem flatMap_text_pieces (f : Fragment) : f.pieces.flatMap Piece.text = f.text := by
  cases f with
  | plain t => simp [pieces, text, List.flatMap_map, Piece.text]
  | quoted t => exact flatMap_text_literalPieces [] t
  | placeholder name => simp [pieces, text, Piece.text]

theorem not_mem_pieces {f : Fragment} (h : f.placeholder? = none) (name : List Char) :
    .placeholder name ∉ f.pieces := by
  intro hm
  cases f with
  | plain t =>
      obtain ⟨c, -, hc⟩ := List.mem_map.mp hm
      cases hc
  | quoted t =>
      obtain ⟨text, ht⟩ := exists_literal_of_mem_literalPieces hm
      cases ht
  | placeholder => cases h

theorem known?_of_mem_pieces {f : Fragment} (h : f.placeholder? = none) {p : Piece}
    (hp : p ∈ f.pieces) (names : List String) : p.known? names = none := by
  cases p with
  | literal | other => rfl
  | placeholder name => exact absurd hp (not_mem_pieces h name)

section Known

variable {f : Fragment} {names : List String}
  (hf : ∀ name ∈ f.placeholder?, name ≠ "" ∧ name ∈ names)

include hf in
/-- The known placeholder of a fragment is the one that it has. -/
theorem filterMap_known?_pieces :
    f.pieces.filterMap (Piece.known? names) = f.placeholder?.toList := by
  cases hplaceholder : f.placeholder? with
  | none =>
      exact List.filterMap_eq_nil_iff.mpr fun p hp => known?_of_mem_pieces hplaceholder hp names
  | some name =>
      obtain rfl : f = .placeholder name := by cases f <;> cases hplaceholder; rfl
      obtain ⟨hne, hname⟩ := hf name rfl
      exact List.filterMap_cons_some (Piece.known?_placeholder hne hname)

include hf in
theorem flatMap_numbered_pieces (slots : List String) :
    f.pieces.flatMap (Piece.numbered names slots) = (f.number slots).text := by
  cases hplaceholder : f.placeholder? with
  | none =>
      have hkeep : f.number slots = f := by cases f <;> first | rfl | cases hplaceholder
      rw [hkeep, ← f.flatMap_text_pieces]
      exact List.flatMap_congr fun p hp =>
        Piece.numbered_of_known?_eq_none (known?_of_mem_pieces hplaceholder hp names)
  | some name =>
      obtain rfl : f = .placeholder name := by cases f <;> cases hplaceholder; rfl
      obtain ⟨hne, hname⟩ := hf name rfl
      rw [pieces, List.flatMap_singleton,
        Piece.numbered_of_known? (Piece.known?_placeholder hne hname)]
      rfl

end Known

end Fragment

section Fragments

variable {fs : List Fragment} {names : List String}
  (hfs : ∀ name ∈ namesOf fs, name ≠ "" ∧ name ∈ names)

include hfs in
theorem forall_mem_placeholder? {f : Fragment} (hf : f ∈ fs) :
    ∀ name ∈ f.placeholder?, name ≠ "" ∧ name ∈ names := fun name hname =>
  hfs name (List.mem_filterMap.mpr ⟨f, hf, hname⟩)

include hfs in
theorem filterMap_known?_flatMap_pieces :
    (fs.flatMap Fragment.pieces).filterMap (Piece.known? names) = namesOf fs := by
  have hpieces : ∀ f ∈ fs, f.pieces.filterMap (Piece.known? names) = f.placeholder?.toList :=
    fun f hf => Fragment.filterMap_known?_pieces (forall_mem_placeholder? hfs hf)
  rw [List.filterMap_flatMap, namesOf, List.filterMap_eq_flatMap_toList]
  exact List.flatMap_congr hpieces

include hfs in
theorem flatMap_numbered_flatMap_pieces (slots : List String) :
    (fs.flatMap Fragment.pieces).flatMap (Piece.numbered names slots) =
      textOf (fs.map (Fragment.number slots)) := by
  have hpieces : ∀ f ∈ fs,
      f.pieces.flatMap (Piece.numbered names slots) = (f.number slots).text :=
    fun f hf => Fragment.flatMap_numbered_pieces (forall_mem_placeholder? hfs hf) slots
  rw [List.flatMap_assoc, textOf, List.flatMap_map]
  exact List.flatMap_congr hpieces

end Fragments

theorem IsScannable.ne_empty {fs : List Fragment} (h : IsScannable fs) :
    ∀ name ∈ namesOf fs, name ≠ "" := by
  induction fs with
  | nil => exact fun name hname => nomatch hname
  | cons f fs ih =>
      cases f with
      | plain t => exact ih h.2
      | quoted t => exact ih h
      | placeholder name => exact List.forall_mem_cons.mpr ⟨h.1.1, ih h.2.2⟩

theorem IsScannable.areInert_of_mem {fs : List Fragment} (h : IsScannable fs) {t : List Char}
    (ht : .plain t ∈ fs) : AreInert t := by
  induction fs with
  | nil => cases ht
  | cons f fs ih =>
      cases f with
      | plain u =>
          rcases List.mem_cons.mp ht with hu | ht
          · cases hu
            exact h.1
          · exact ih h.2 ht
      | quoted u => exact ih h ((List.mem_cons.mp ht).resolve_left (by simp))
      | placeholder name => exact ih h.2.2 ((List.mem_cons.mp ht).resolve_left (by simp))

/-- The placeholders of a text of fragments are numbered by the places of their names, all slots are
used in their order, and nothing else changes. -/
theorem numberPlaceholders_textOf {sql : String} {fs : List Fragment} (h : IsScannable fs)
    (hsql : sql.toList = textOf fs) {names : List String}
    (hnames : names = firstOccurrences (namesOf fs)) :
    numberPlaceholders sql names =
      ⟨textOf (fs.map (Fragment.number names)), List.range names.length⟩ := by
  have hfs : ∀ name ∈ namesOf fs, name ≠ "" ∧ name ∈ names := fun name hname =>
    ⟨h.ne_empty name hname, hnames ▸ (mem_firstOccurrences _).mpr hname⟩
  have hnodup : names.Nodup := hnames ▸ nodup_firstOccurrences _
  have hnumber :=
    numberPieces_map_idxOf (fs.flatMap Fragment.pieces) (List.forall_mem_nil (· ∈ names))
  simp only [List.nil_append, filterMap_known?_flatMap_pieces hfs, ← hnames,
    flatMap_numbered_flatMap_pieces hfs, map_idxOf_self hnodup] at hnumber
  rw [numberPlaceholders, hsql, pieces_textOf h]
  exact hnumber

example : numberPlaceholders "a = @x AND b = 'x''s @x' AND c = @y" ["x", "y"] =
    ⟨"a = $1 AND b = 'x''s @x' AND c = $2".toList, [0, 1]⟩ := by cbv

/-! ### Numbered fragments -/

theorem isScannable_number {fs : List Fragment} (h : IsScannable fs) (names : List String) :
    IsScannable (fs.map (Fragment.number names)) := by
  induction fs with
  | nil => exact h
  | cons f fs ih =>
      cases f with
      | plain t => exact ⟨h.1, ih h.2⟩
      | quoted t => exact ih h
      | placeholder name =>
          exact ⟨areInert_number _, ih h.2.2⟩

/-- No placeholder is left outside the literals. -/
theorem not_mem_pieces_number {fs : List Fragment} (h : IsScannable fs) (names : List String)
    (name : List Char) :
    .placeholder name ∉ pieces (textOf (fs.map (Fragment.number names))) := by
  rw [pieces_textOf (isScannable_number h names), List.mem_flatMap]
  rintro ⟨g, hg, hname⟩
  obtain ⟨f, -, rfl⟩ := List.mem_map.mp hg
  have hnone : (f.number names).placeholder? = none := by cases f <;> rfl
  exact Fragment.not_mem_pieces hnone name hname

end EntitySql.Postgres
