import EntitySql.Literal
import EntitySql.Postgres.Placeholder
import EntitySql.Proofs.Text.Token

/-!
# Fragments of statements

A compiled statement is a row of fragments: names and keywords, quoted texts, and placeholders. The
scanner that numbers the placeholders knows nothing of fragments, and where a quoted text has a
quote it even sees two literals. It never loses a border between fragments, though: the pieces of
the whole are the pieces of the parts.

## Main definitions

* `Fragment` : the parts that a statement is composed of.
* `Fragment.number` : a fragment with its placeholder numbered.
* `textOf` : the text of fragments.
* `IsScannable` : fragments whose borders the scanner finds.

## Main results

* `pieces_textOf` : the pieces of fragments are those of each of them.
* `IsScannable.append` : fragments one after the other, if no name runs on.
-/

namespace EntitySql.Postgres

open Text

/-- A part of a statement. -/
inductive Fragment where
  /-- Names, keywords and bare literals. -/
  | plain (text : List Char)
  /-- A quoted literal, given by the text between its quotes. -/
  | quoted (text : List Char)
  | placeholder (name : String)
deriving DecidableEq

namespace Fragment

/-- How a fragment is written by the compiler. -/
def text : Fragment → List Char
  | plain t => t
  | quoted t => '\'' :: (doubleQuotes t ++ ['\''])
  | placeholder name => '@' :: name.toList

/-- A fragment in which the place of a placeholder among the names, counted from one, stands for
it. -/
def number (names : List String) : Fragment → Fragment
  | placeholder name => plain ('$' :: numeral (names.idxOf name + 1))
  | f => f

/-- The placeholder of a fragment, if it is one. -/
def placeholder? : Fragment → Option String
  | placeholder name => some name
  | _ => none

/-- Whether a fragment is a quoted literal or a placeholder. -/
def isMarked : Fragment → Bool
  | plain _ => false
  | _ => true

end Fragment

/-- The text of fragments. -/
def textOf (fs : List Fragment) : List Char :=
  fs.flatMap Fragment.text

/-- The placeholders of fragments, from left to right. -/
def namesOf (fs : List Fragment) : List String :=
  fs.filterMap Fragment.placeholder?

namespace Fragment

@[simp]
theorem text_plain (t : List Char) : (plain t).text = t := rfl

@[simp]
theorem text_quoted (t : List Char) : (quoted t).text = '\'' :: (doubleQuotes t ++ ['\'']) := rfl

@[simp]
theorem text_placeholder (name : String) : (placeholder name).text = '@' :: name.toList := rfl

end Fragment

@[simp]
theorem textOf_nil : textOf [] = [] := rfl

@[simp]
theorem textOf_cons (f : Fragment) (fs : List Fragment) : textOf (f :: fs) = f.text ++ textOf fs :=
  List.flatMap_cons

@[simp]
theorem textOf_append (fs gs : List Fragment) : textOf (fs ++ gs) = textOf fs ++ textOf gs :=
  List.flatMap_append

@[simp]
theorem namesOf_nil : namesOf [] = [] := rfl

@[simp]
theorem namesOf_cons_placeholder (name : String) (fs : List Fragment) :
    namesOf (.placeholder name :: fs) = name :: namesOf fs := rfl

@[simp]
theorem namesOf_cons_of_none {f : Fragment} (h : f.placeholder? = none) (fs : List Fragment) :
    namesOf (f :: fs) = namesOf fs :=
  List.filterMap_cons_none h

@[simp]
theorem namesOf_cons_plain (t : List Char) (fs : List Fragment) :
    namesOf (.plain t :: fs) = namesOf fs := rfl

@[simp]
theorem namesOf_append (fs gs : List Fragment) : namesOf (fs ++ gs) = namesOf fs ++ namesOf gs :=
  List.filterMap_append

/-! ### Borders -/

/-- The text of a number holds neither quotes nor marks. -/
theorem areInert_number (n : Nat) : AreInert ('$' :: numeral n) :=
  areInert_cons.mpr ⟨by decide, (isToken_numeral n).areInert⟩

/-- A text that no name runs on into. -/
def EndsName (cs : List Char) : Prop :=
  ∀ c ∈ cs.head?, isWordChar c = false

/-- Fragments whose borders the scanner finds: neither quotes nor marks stand in the plain ones, and
every placeholder is a word that ends where it should. -/
def IsScannable : List Fragment → Prop
  | [] => True
  | .plain t :: rest => AreInert t ∧ IsScannable rest
  | .quoted _ :: rest => IsScannable rest
  | .placeholder name :: rest => IsWord name ∧ EndsName (textOf rest) ∧ IsScannable rest

theorem endsName_nil : EndsName [] := nofun

theorem endsName_cons {c : Char} (h : isWordChar c = false) (cs : List Char) :
    EndsName (c :: cs) := by
  rintro d ⟨⟩
  exact h

theorem EndsName.append {cs ds : List Char} (h : EndsName cs) (h' : EndsName ds) :
    EndsName (cs ++ ds) := by
  cases cs with
  | nil => exact h'
  | cons c cs => exact endsName_cons (h c rfl) _

theorem IsScannable.append {fs gs : List Fragment} (hf : IsScannable fs) (hg : IsScannable gs)
    (hend : EndsName (textOf gs)) : IsScannable (fs ++ gs) := by
  induction fs with
  | nil => exact hg
  | cons f fs ih =>
      cases f with
      | plain t => exact ⟨hf.1, ih hf.2⟩
      | quoted t => exact ih hf
      | placeholder name =>
          have hend' : EndsName (textOf (fs ++ gs)) := by
            rw [textOf_append]
            exact hf.2.1.append hend
          exact ⟨hf.1, hend', ih hf.2.2⟩

/-! ### Pieces -/

/-- The literals that the scanner sees in a quoted text, after some characters of the first. -/
def literalPieces : List Char → List Char → List Piece
  | seen, [] => [.literal ('\'' :: seen ++ ['\''])]
  | seen, c :: cs =>
      if c = '\'' then .literal ('\'' :: seen ++ ['\'']) :: literalPieces [] cs
      else literalPieces (seen ++ [c]) cs

/-- The pieces of a fragment. -/
def Fragment.pieces : Fragment → List Piece
  | plain t => t.map .other
  | quoted t => literalPieces [] t
  | placeholder name => [.placeholder name.toList]

private theorem pieces_literal {seen : List Char} (hseen : ∀ c ∈ seen, c ≠ '\'')
    (rest : List Char) : pieces ('\'' :: (seen ++ '\'' :: rest)) =
      .literal ('\'' :: seen ++ ['\'']) :: pieces rest := by
  have htrue : ∀ c ∈ seen, decide (c ≠ '\'') = true := fun c hc => decide_eq_true (hseen c hc)
  have hdrop : (seen ++ '\'' :: rest).dropWhile (· ≠ '\'') = '\'' :: rest := by
    rw [List.dropWhile_append_of_pos htrue]
    simp
  have htake : (seen ++ '\'' :: rest).takeWhile (· ≠ '\'') = seen := by
    rw [List.takeWhile_append_of_pos htrue]
    simp
  rw [pieces, if_pos rfl]
  split
  · next h =>
      rw [hdrop] at h
      cases h
  · next quote after h =>
      rw [hdrop] at h
      cases h
      rw [htake]

/-- A quoted text ends at its last quote for the scanner, too: the doubled ones come in pairs. -/
theorem pieces_quoted (t seen : List Char) (hseen : ∀ c ∈ seen, c ≠ '\'')
    (rest : List Char) : pieces ('\'' :: (seen ++ (doubleQuotes t ++ '\'' :: rest))) =
      literalPieces seen t ++ pieces rest := by
  induction t generalizing seen with
  | nil => exact pieces_literal hseen rest
  | cons c t ih =>
      rw [doubleQuotes, literalPieces]
      split
      · have hpair := ih [] (by simp)
        rw [List.nil_append] at hpair
        rw [List.cons_append, List.cons_append, pieces_literal hseen, hpair]
        rfl
      · next hc =>
          have hseen' : ∀ d ∈ seen ++ [c], d ≠ '\'' := by
            rw [List.forall_mem_append]
            exact ⟨hseen, by simpa using hc⟩
          rw [← ih _ hseen', List.append_assoc]
          rfl

theorem pieces_placeholder {name rest : List Char} (hname : ∀ c ∈ name, isWordChar c = true)
    (hend : EndsName rest) : pieces ('@' :: (name ++ rest)) = .placeholder name :: pieces rest := by
  have hdrop : rest.dropWhile isWordChar = rest := by
    cases rest with
    | nil => rfl
    | cons c rest => rw [List.dropWhile_cons, hend c rfl]; rfl
  have htake : rest.takeWhile isWordChar = [] := by
    cases rest with
    | nil => rfl
    | cons c rest => rw [List.takeWhile_cons, hend c rfl]; rfl
  rw [pieces, if_neg (by decide), if_pos rfl, List.takeWhile_append_of_pos hname,
    List.dropWhile_append_of_pos hname, hdrop, htake, List.append_nil]

theorem pieces_plain {t : List Char} (ht : AreInert t) (rest : List Char) :
    pieces (t ++ rest) = t.map .other ++ pieces rest := by
  induction t with
  | nil => rfl
  | cons c t ih =>
      rw [areInert_cons] at ht
      rw [List.cons_append, pieces, if_neg ht.1.1, if_neg ht.1.2, ih ht.2]
      rfl

/-- The pieces of fragments are the pieces of each of them. -/
theorem pieces_textOf {fs : List Fragment} (h : IsScannable fs) :
    pieces (textOf fs) = fs.flatMap Fragment.pieces := by
  induction fs with
  | nil => rw [textOf, List.flatMap_nil, pieces]; rfl
  | cons f fs ih =>
      rw [textOf_cons, List.flatMap_cons]
      cases f with
      | plain t => rw [Fragment.text, pieces_plain h.1, ih h.2]; rfl
      | quoted t =>
          have hquoted := pieces_quoted t [] (by simp) (textOf fs)
          rw [← ih h]
          simpa [Fragment.text, Fragment.pieces] using hquoted
      | placeholder name =>
          rw [Fragment.text, List.cons_append, pieces_placeholder h.1.2 h.2.1, ih h.2.2]
          rfl

end EntitySql.Postgres
