import Mathlib.Data.List.TakeWhile
import EntitySql.Entity.Declaration
import EntitySql.Proofs.Text.Token

/-!
# Words of declarations

A text of the declaration language holds words in the spelling of identifiers: a character that
starts a word and further word characters, with or without the mark of raw ones before them. So
every name of an accepted declaration is an identifier, and neither a quote nor an `@` stands in it.

## Main definitions

* `IsIdentifier`, `IsSpelled` : identifiers without and with the mark of raw ones.
* `AreSpelled`, `HoldIdentifiers` : lexemes and tokens whose words are identifiers.

## Main results

* `holdIdentifiers_of_tokens?` : the words of a text are identifiers.
* `isSpelled_of_isName` : names are identifiers.
* `IsSpelled.areInert` : identifiers hold no quotes and no marks of placeholders.
-/

namespace EntitySql.Source

open Text

/-! ### Identifiers -/

/-- A character that starts a word, and further characters of a word. -/
def IsIdentifier (cs : List Char) : Prop :=
  ∃ c rest, cs = c :: rest ∧ isIdentifierStart c = true ∧ ∀ d ∈ rest, isIdentifierPart d = true

/-- An identifier, which may be raw. -/
inductive IsSpelled : List Char → Prop where
  | plain {cs : List Char} (h : IsIdentifier cs) : IsSpelled cs
  | raw {cs : List Char} (h : IsIdentifier cs) : IsSpelled ('r' :: '#' :: cs)

theorem isInert_of_isIdentifierPart {c : Char} (h : isIdentifierPart c = true) : IsInert c := by
  have ne_of_not_part {d : Char} (hd : isIdentifierPart d = false) : c ≠ d := by
    rintro rfl
    rw [h] at hd
    cases hd
  exact ⟨ne_of_not_part (by decide), ne_of_not_part (by decide)⟩

theorem IsIdentifier.areInert {cs : List Char} (h : IsIdentifier cs) : AreInert cs := by
  obtain ⟨c, rest, rfl, hc, hrest⟩ := h
  exact areInert_cons.mpr ⟨isInert_of_isIdentifierPart (isIdentifierPart_of_start hc),
    fun d hd => isInert_of_isIdentifierPart (hrest d hd)⟩

/-- Neither quotes nor marks of placeholders stand in identifiers. -/
theorem IsSpelled.areInert {cs : List Char} (h : IsSpelled cs) : AreInert cs := by
  cases h with
  | plain h => exact h.areInert
  | raw h => exact areInert_cons.mpr ⟨by decide, areInert_cons.mpr ⟨by decide, h.areInert⟩⟩

/-! ### Words -/

section Words

variable {cs rest : List Char} {w : String}

theorem exists_of_afterWord? (h : afterWord? cs = some rest) :
    ∃ word, cs = word ++ rest ∧ IsIdentifier word := by
  cases cs with
  | nil => cases h
  | cons c cs =>
      rw [afterWord?] at h
      split at h
      · next hc =>
          cases h
          refine ⟨c :: cs.takeWhile isIdentifierPart, ?_, c, _, rfl, hc, fun d hd => ?_⟩
          · rw [List.cons_append, List.takeWhile_append_dropWhile]
          · exact List.mem_takeWhile_imp hd
      · cases h

theorem exists_of_afterName? (h : afterName? cs = some rest) :
    ∃ word, cs = word ++ rest ∧ IsSpelled word := by
  unfold afterName? at h
  split at h
  · next cs =>
      obtain ⟨rest', hrest', h⟩ := Option.bind_eq_some_iff.mp h
      dsimp only at h
      split at h
      · cases h
      · cases h
        obtain ⟨word, rfl, hword⟩ := exists_of_afterWord? hrest'
        exact ⟨'r' :: '#' :: word, rfl, .raw hword⟩
  · obtain ⟨word, hcs, hword⟩ := exists_of_afterWord? h
    exact ⟨word, hcs, .plain hword⟩

theorem mark?_ne_word : mark? cs ≠ some (.word w, rest) := by
  unfold mark?
  split
  · split <;> exact fun h => nomatch h
  · split <;> exact fun h => nomatch h
  · exact fun h => nomatch h

theorem isSpelled_of_token? (h : token? cs = some (.word w, rest)) : IsSpelled w.toList := by
  unfold token? at h
  dsimp only at h
  split at h
  · cases h
  · next found hmark =>
      cases h
      exact absurd hmark mark?_ne_word
  · split at h
    · cases h
    · obtain ⟨rest', hrest', hword⟩ := Option.map_eq_some_iff.mp h
      obtain ⟨word, rfl, hspelled⟩ := exists_of_afterName? hrest'
      cases hword
      simpa using hspelled

end Words

/-! ### Lexemes -/

/-- Lexemes whose words are identifiers. -/
def AreSpelled (ls : List Lexeme) : Prop :=
  ∀ w, .token (.word w) ∈ ls → IsSpelled w.toList

section Lexemes

variable {cs rest : List Char} {found : List Lexeme}

theorem areSpelled_nil : AreSpelled [] := fun _ h => nomatch h

theorem AreSpelled.append {ls ls' : List Lexeme} (h : AreSpelled ls) (h' : AreSpelled ls') :
    AreSpelled (ls ++ ls') := fun w hw => (List.mem_append.mp hw).elim (h w) (h' w)

theorem areSpelled_of_documentation? {inner : Bool} (h : documentation? inner cs = some found) :
    AreSpelled found := by
  unfold documentation? at h
  split at h
  · cases h
    intro w hw
    have hdoc : w = "doc" := by cases inner <;> simpa using hw
    have hrest : ∀ d ∈ ['o', 'c'], isIdentifierPart d = true :=
      List.forall_mem_cons.mpr ⟨by decide, List.forall_mem_singleton.mpr (by decide)⟩
    rw [hdoc]
    exact .plain ⟨'d', ['o', 'c'], rfl, by decide, hrest⟩
  · cases h

theorem areSpelled_of_lineComment? (h : lineComment? cs = some (found, rest)) :
    AreSpelled found := by
  unfold lineComment? at h
  dsimp only at h
  split at h
  · cases h
    exact areSpelled_nil
  · obtain ⟨ls, hls, h⟩ := Option.map_eq_some_iff.mp h
    cases h
    exact areSpelled_of_documentation? hls
  · obtain ⟨ls, hls, h⟩ := Option.map_eq_some_iff.mp h
    cases h
    exact areSpelled_of_documentation? hls
  · cases h
    exact areSpelled_nil

theorem areSpelled_of_blockComment? (h : blockComment? cs = some (found, rest)) :
    AreSpelled found := by
  unfold blockComment? at h
  dsimp only at h
  split at h
  · cases h
    exact areSpelled_nil
  · obtain ⟨_, -, h⟩ := Option.map_eq_some_iff.mp h
    cases h
    exact areSpelled_nil
  · obtain ⟨_, -, h⟩ := Option.bind_eq_some_iff.mp h
    obtain ⟨ls, hls, h⟩ := Option.bind_eq_some_iff.mp h
    cases h
    exact areSpelled_of_documentation? hls
  · obtain ⟨_, -, h⟩ := Option.bind_eq_some_iff.mp h
    obtain ⟨ls, hls, h⟩ := Option.bind_eq_some_iff.mp h
    cases h
    exact areSpelled_of_documentation? hls
  · obtain ⟨_, -, h⟩ := Option.map_eq_some_iff.mp h
    cases h
    exact areSpelled_nil

theorem areSpelled_bracket {l : Lexeme} (h : ∀ w, l ≠ .token (.word w)) : AreSpelled [l] :=
  fun w hw => absurd (List.mem_singleton.mp hw).symm (h w)

theorem areSpelled_of_lexemesAt? (h : lexemesAt? cs = some (found, rest)) : AreSpelled found := by
  unfold lexemesAt? at h
  split at h
  case h_1 => cases h
  case h_2 => exact areSpelled_of_lineComment? h
  case h_3 => exact areSpelled_of_blockComment? h
  case h_10 =>
    split at h
    · cases h
      exact areSpelled_nil
    · obtain ⟨⟨t, rest'⟩, ht, h⟩ := Option.map_eq_some_iff.mp h
      cases h
      intro w hw
      cases List.mem_singleton.mp hw
      exact isSpelled_of_token? ht
  -- the six marks of brackets
  all_goals
    cases h
    exact areSpelled_bracket nofun

theorem areSpelled_of_lexemes? {n : Nat} (h : lexemes? n cs = some found) : AreSpelled found := by
  fun_induction lexemes? n cs generalizing found with
  | case1 =>
      cases h
      exact areSpelled_nil
  | case2 => cases h
  | case3 n cs hne ih =>
      obtain ⟨⟨ls, rest⟩, hls, h⟩ := Option.bind_eq_some_iff.mp h
      obtain ⟨more, hmore, h⟩ := Option.bind_eq_some_iff.mp h
      cases h
      exact (areSpelled_of_lexemesAt? hls).append (ih _ hmore)

end Lexemes

/-! ### Tokens -/

/-- Tokens whose words are identifiers, but for those in brackets. -/
def HoldIdentifiers (ts : List Token) : Prop :=
  ∀ w, .word w ∈ ts → IsSpelled w.toList

theorem holdIdentifiers_nil : HoldIdentifiers [] := fun _ h => nomatch h

theorem AreSpelled.tail {l : Lexeme} {ls : List Lexeme} (h : AreSpelled (l :: ls)) :
    AreSpelled ls := fun w hw => h w (List.mem_cons_of_mem l hw)

theorem HoldIdentifiers.cons {t : Token} {ts : List Token}
    (ht : ∀ w, t = .word w → IsSpelled w.toList) (h : HoldIdentifiers ts) :
    HoldIdentifiers (t :: ts) := fun w hw =>
  (List.mem_cons.mp hw).elim (fun heq => ht w heq.symm) (h w)

/-- Lexemes make tokens of the words that they have, and of those of the tokens before them. -/
theorem holdIdentifiers_of_nest {outer : List (Delimiter × List Token)} {tokens ts : List Token}
    {ls : List Lexeme} (h : nest outer tokens ls = some ts) (hls : AreSpelled ls)
    (htokens : HoldIdentifiers tokens) (houter : ∀ p ∈ outer, HoldIdentifiers p.2) :
    HoldIdentifiers ts := by
  fun_induction nest outer tokens ls with
  | case1 tokens =>
      cases h
      exact fun w hw => htokens w (List.mem_reverse.mp hw)
  | case2 | case5 | case7 => cases h
  | case3 outer tokens t rest ih =>
      have ht : ∀ w, t = .word w → IsSpelled w.toList := fun w hw =>
        hls w (hw ▸ List.mem_cons_self)
      exact ih h hls.tail (htokens.cons ht) houter
  | case4 outer tokens d rest ih =>
      exact ih h hls.tail holdIdentifiers_nil (List.forall_mem_cons.mpr ⟨htokens, houter⟩)
  | case6 before outer tokens e rest ih =>
      -- the tokens in brackets are no words of the sequence that the brackets stand in
      rw [List.forall_mem_cons] at houter
      exact ih h hls.tail (houter.1.cons nofun) houter.2

/-- The words of a text are identifiers. -/
theorem holdIdentifiers_of_tokens? {text : String} {ts : List Token} (h : tokens? text = some ts) :
    HoldIdentifiers ts := by
  obtain ⟨ls, hls, hnest⟩ := Option.bind_eq_some_iff.mp h
  exact holdIdentifiers_of_nest hnest (areSpelled_of_lexemes? hls) holdIdentifiers_nil nofun

end EntitySql.Source

namespace EntitySql

/-- Names are identifiers. -/
theorem isSpelled_of_isName {name : String} (h : isName name = true) :
    Source.IsSpelled name.toList := by
  have hname : nameOf? name = some name := of_decide_eq_true h
  unfold nameOf? at hname
  split at hname
  · next htokens =>
      split at hname
      · cases hname
        exact Source.holdIdentifiers_of_tokens? htokens _ List.mem_cons_self
      · cases hname
  · cases hname

end EntitySql
