import Mathlib.Data.List.TakeWhile
import EntitySql.Proofs.Placeholder.Fragment

/-!
# Cuts of texts

What the pieces of a text are can be said without a scanner: a literal runs from a quote to the next
one, or to the end of the text, a placeholder has the longest name that it can have, and any other
character is a piece of its own. Every text has exactly one such cut, and the scanner finds it.

## Main definitions

* `IsCut` : the pieces of a text.

## Main results

* `isCut_pieces` : the scanner finds a cut.
* `IsCut.unique` : there is no other.
* `IsCut.append` : the pieces of two texts one after the other.
* `IsCut.endsName` : the name of a placeholder ends where the placeholder ends.
-/

namespace EntitySql.Postgres

open Text

/-- The pieces of a text, from left to right. -/
inductive IsCut : List Char → List Piece → Prop
  | nil : IsCut [] []
  /-- A literal that is closed by the next quote. -/
  | closed {body rest : List Char} {ps : List Piece} (hbody : '\'' ∉ body) (h : IsCut rest ps) :
      IsCut ('\'' :: (body ++ '\'' :: rest)) (.literal ('\'' :: (body ++ ['\''])) :: ps)
  /-- A literal that is not closed. -/
  | unclosed {body : List Char} (hbody : '\'' ∉ body) :
      IsCut ('\'' :: body) [.literal ('\'' :: body)]
  /-- A placeholder, whose name may be empty. -/
  | placeholder {name rest : List Char} {ps : List Piece}
      (hname : ∀ c ∈ name, isWordChar c = true) (hend : EndsName rest) (h : IsCut rest ps) :
      IsCut ('@' :: (name ++ rest)) (.placeholder name :: ps)
  | other {c : Char} {rest : List Char} {ps : List Piece} (hc : IsInert c) (h : IsCut rest ps) :
      IsCut (c :: rest) (.other c :: ps)

/-! ### Existence -/

theorem endsName_dropWhile (cs : List Char) : EndsName (cs.dropWhile isWordChar) := by
  intro c hc
  have hnot := List.head?_dropWhile_not isWordChar cs
  rw [hc] at hnot
  simpa using hnot

theorem quote_not_mem_takeWhile (cs : List Char) : '\'' ∉ cs.takeWhile (· ≠ '\'') := by
  intro h
  simpa using List.mem_takeWhile_imp h

/-- The scanner finds a cut of every text. -/
theorem isCut_pieces (cs : List Char) : IsCut cs (pieces cs) := by
  fun_induction pieces cs with
  | case1 => exact .nil
  | case2 cs h =>
      rw [List.dropWhile_eq_nil_iff] at h
      exact .unclosed fun hm => by simpa using h _ hm
  | case3 cs quote rest h _ ih =>
      have hquote : quote = '\'' := by
        have hnot := List.head?_dropWhile_not (· ≠ '\'') cs
        rw [h] at hnot
        simpa using hnot
      have hsplit := List.takeWhile_append_dropWhile (p := (· ≠ '\'')) (l := cs)
      rw [h, hquote] at hsplit
      have hcut := IsCut.closed (quote_not_mem_takeWhile cs) ih
      rw [hsplit] at hcut
      rw [hquote]
      exact hcut
  | case4 cs _ _ ih =>
      have hname : ∀ c ∈ cs.takeWhile isWordChar, isWordChar c = true := fun c hc =>
        List.mem_takeWhile_imp hc
      have hcut := IsCut.placeholder hname (endsName_dropWhile cs) ih
      rwa [List.takeWhile_append_dropWhile] at hcut
  | case5 c cs hquote hmark ih => exact .other ⟨hquote, hmark⟩ ih

/-! ### Uniqueness -/

/-- A text is divided in one way only into a part without a character and what follows the first
one. -/
theorem append_cons_inj_of_not_mem {x : Char} {body body' rest rest' : List Char}
    (hbody : x ∉ body) (hbody' : x ∉ body') (h : body ++ x :: rest = body' ++ x :: rest') :
    body = body' ∧ rest = rest' := by
  induction body generalizing body' with
  | nil =>
      cases body' with
      | nil => exact ⟨rfl, (List.cons.inj h).2⟩
      | cons c body' => exact absurd ((List.cons.inj h).1 ▸ List.mem_cons_self) hbody'
  | cons c body ih =>
      cases body' with
      | nil => exact absurd ((List.cons.inj h).1 ▸ List.mem_cons_self) hbody
      | cons c' body' =>
          obtain ⟨rfl, htail⟩ := List.cons.inj h
          obtain ⟨rfl, hrest⟩ := ih (fun hm => hbody (List.mem_cons_of_mem c hm))
            (fun hm => hbody' (List.mem_cons_of_mem c hm)) htail
          exact ⟨rfl, hrest⟩

/-- A text is divided in one way only into a name and what ends it. -/
theorem append_inj_of_endsName {name name' rest rest' : List Char}
    (hname : ∀ c ∈ name, isWordChar c = true) (hname' : ∀ c ∈ name', isWordChar c = true)
    (hend : EndsName rest) (hend' : EndsName rest') (h : name ++ rest = name' ++ rest') :
    name = name' ∧ rest = rest' := by
  have hcut : pieces ('@' :: (name ++ rest)) = pieces ('@' :: (name' ++ rest')) := by rw [h]
  rw [pieces_placeholder hname hend, pieces_placeholder hname' hend'] at hcut
  obtain rfl := Piece.placeholder.inj (List.cons.inj hcut).1
  exact ⟨rfl, List.append_cancel_left h⟩

/-- A text has one cut only. -/
theorem IsCut.unique {cs : List Char} {ps qs : List Piece} (h : IsCut cs ps) (h' : IsCut cs qs) :
    ps = qs := by
  induction h generalizing qs with
  | nil =>
      cases h' with
      | nil => rfl
  | @closed body rest ps hbody _ ih =>
      generalize hcs : '\'' :: (body ++ '\'' :: rest) = cs at h'
      cases h' with
      | nil => cases hcs
      | closed hbody' h' =>
          obtain ⟨rfl, rfl⟩ := append_cons_inj_of_not_mem hbody hbody' (List.cons.inj hcs).2
          rw [ih h']
      | unclosed hbody' =>
          obtain rfl := (List.cons.inj hcs).2
          simp at hbody'
      | placeholder => cases hcs
      | other hc =>
          obtain rfl := (List.cons.inj hcs).1
          exact absurd rfl hc.1
  | @unclosed body hbody =>
      generalize hcs : '\'' :: body = cs at h'
      cases h' with
      | nil => cases hcs
      | closed =>
          obtain rfl := (List.cons.inj hcs).2
          simp at hbody
      | unclosed =>
          obtain rfl := (List.cons.inj hcs).2
          rfl
      | placeholder => cases hcs
      | other hc =>
          obtain rfl := (List.cons.inj hcs).1
          exact absurd rfl hc.1
  | @placeholder name rest ps hname hend _ ih =>
      generalize hcs : '@' :: (name ++ rest) = cs at h'
      cases h' with
      | nil => cases hcs
      | closed => cases hcs
      | unclosed => cases hcs
      | placeholder hname' hend' h' =>
          obtain ⟨rfl, rfl⟩ := append_inj_of_endsName hname hname' hend hend' (List.cons.inj hcs).2
          rw [ih h']
      | other hc =>
          obtain rfl := (List.cons.inj hcs).1
          exact absurd rfl hc.2
  | @other c rest ps hc _ ih =>
      generalize hcs : c :: rest = cs at h'
      cases h' with
      | nil => cases hcs
      | closed | unclosed => exact absurd (List.cons.inj hcs).1 hc.1
      | placeholder => exact absurd (List.cons.inj hcs).1 hc.2
      | other _ h' =>
          obtain ⟨rfl, rfl⟩ := List.cons.inj hcs
          rw [ih h']

/-! ### Parts -/

/-- Behind a text without quotes, the pieces of another one follow if no name runs on into it. -/
theorem IsCut.append {cs ds : List Char} {ps qs : List Piece} (h : IsCut cs ps)
    (hcs : '\'' ∉ cs) (hend : EndsName ds) (h' : IsCut ds qs) : IsCut (cs ++ ds) (ps ++ qs) := by
  induction h with
  | nil => exact h'
  | closed | unclosed => exact absurd List.mem_cons_self hcs
  | @placeholder name rest ps hname hrest _ ih =>
      have hquote : '\'' ∉ rest := fun hm => hcs (by simp [hm])
      have hcut := IsCut.placeholder hname (hrest.append hend) (ih hquote)
      rwa [← List.append_assoc] at hcut
  | other hc _ ih => exact .other hc (ih fun hm => hcs (List.mem_cons_of_mem _ hm))

/-- Inert characters before a text are pieces of their own. -/
theorem IsCut.inert_append {t cs : List Char} {ps : List Piece} (ht : AreInert t)
    (h : IsCut cs ps) : IsCut (t ++ cs) (t.map .other ++ ps) := by
  rw [h.unique (isCut_pieces cs), ← pieces_plain ht]
  exact isCut_pieces _

theorem IsCut.isInert_of_mem {cs : List Char} {ps : List Piece} (h : IsCut cs ps) {c : Char}
    (hc : .other c ∈ ps) : IsInert c := by
  induction h with
  | nil => cases hc
  | closed _ _ ih | placeholder _ _ _ ih => exact ih ((List.mem_cons.mp hc).resolve_left nofun)
  | unclosed => exact absurd (List.mem_singleton.mp hc) nofun
  | other hinert _ ih =>
      rcases List.mem_cons.mp hc with heq | hc
      · cases heq
        exact hinert
      · exact ih hc

theorem IsCut.quote_mem_of_mem {cs text : List Char} {ps : List Piece} (h : IsCut cs ps)
    (ht : .literal text ∈ ps) : '\'' ∈ cs := by
  induction h with
  | nil => cases ht
  | closed | unclosed => exact List.mem_cons_self
  | placeholder _ _ _ ih =>
      have hrest := ih ((List.mem_cons.mp ht).resolve_left nofun)
      simp [hrest]
  | other _ _ ih =>
      exact List.mem_cons_of_mem _ (ih ((List.mem_cons.mp ht).resolve_left nofun))

/-- The pieces one after the other are the text. -/
theorem IsCut.flatMap_text {cs : List Char} {ps : List Piece} (h : IsCut cs ps) :
    ps.flatMap Piece.text = cs := by
  rw [h.unique (isCut_pieces cs), flatMap_text_pieces]

/-- The pieces behind some others are those of the rest of the text. -/
theorem IsCut.of_append {cs : List Char} {before after : List Piece}
    (h : IsCut cs (before ++ after)) : IsCut (after.flatMap Piece.text) after := by
  induction before generalizing cs with
  | nil =>
      rw [List.nil_append] at h
      rwa [h.flatMap_text]
  | cons p before ih =>
      generalize hps : p :: before ++ after = ps at h
      cases h with
      | nil => cases hps
      | closed _ h | placeholder _ _ h | other _ h => exact ih ((List.cons.inj hps).2 ▸ h)
      | unclosed =>
          obtain ⟨-, rfl⟩ := List.append_eq_nil_iff.mp (List.cons.inj hps).2
          exact .nil

/-- The name of a placeholder ends where the placeholder ends. -/
theorem IsCut.endsName {cs name : List Char} {before after : List Piece}
    (h : IsCut cs (before ++ .placeholder name :: after)) :
    EndsName (after.flatMap Piece.text) := by
  have hrest := h.of_append
  generalize hcs : (Piece.placeholder name :: after).flatMap Piece.text = cs at hrest
  cases hrest with
  | placeholder _ hend h => rwa [h.flatMap_text]

end EntitySql.Postgres
