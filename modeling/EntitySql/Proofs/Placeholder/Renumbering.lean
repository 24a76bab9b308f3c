import EntitySql.Proofs.Placeholder.Numbering

/-!
# Texts that are numbered again

A numbered text can be cut and numbered like any other text. A number joins no name: its sign ends
the name before it, and it stands where a name has ended. It holds no quote either, so that literals
begin and end where they did. The pieces of a numbered text are therefore those of the text, with
the characters of a number for each placeholder that is replaced. No known placeholder is left among
them, and such texts are left alone.

## Main definitions

* `Piece.replaced` : the pieces of a numbered text that a piece turns into.

## Main results

* `numberPlaceholders_eq_self_iff` : the texts that are left alone.
* `IsCut.numbered` : the pieces of a numbered text.
* `numberPlaceholders_idempotent` : a numbered text is left alone.
-/

namespace EntitySql.Postgres

open Text

variable {names slots : List String} {p q : Piece} {ps : List Piece} {cs : List Char}

/-! ### Texts that are left alone -/

theorem slotNames_eq_nil_iff : slotNames names ps = [] ↔ ∀ p ∈ ps, p.known? names = none := by
  rw [slotNames, firstOccurrences_eq_nil_iff, List.filterMap_eq_nil_iff]

theorem flatMap_numbered_eq_text (h : ∀ p ∈ ps, p.known? names = none) :
    ps.flatMap (Piece.numbered names slots) = ps.flatMap Piece.text :=
  List.flatMap_congr fun p hp => Piece.numbered_of_known?_eq_none (h p hp)

/-- A text is left alone, without any slot, if and only if none of its placeholders is known. -/
theorem numberPlaceholders_eq_self_iff {sql : String} :
    numberPlaceholders sql names = ⟨sql.toList, []⟩ ↔
      ∀ p ∈ pieces sql.toList, p.known? names = none := by
  rw [numberPlaceholders_eq]
  constructor
  · intro h
    have horder := (Numbered.mk.inj h).2
    exact slotNames_eq_nil_iff.mp (List.map_eq_nil_iff.mp horder)
  · intro h
    rw [flatMap_numbered_eq_text h, flatMap_text_pieces, slotNames_eq_nil_iff.mpr h, List.map_nil]

/-! ### Pieces of numbered texts -/

/-- The pieces of a numbered text that a piece turns into: single characters for a placeholder that
is replaced, and otherwise the piece itself. -/
def Piece.replaced (names slots : List String) (p : Piece) : List Piece :=
  match p.known? names with
  | some _ => (p.numbered names slots).map .other
  | none => [p]

theorem Piece.replaced_of_known? {name : String} (h : p.known? names = some name) :
    p.replaced names slots = ('$' :: numeral (slots.idxOf name + 1)).map .other := by
  rw [replaced, h, numbered_of_known? h]

theorem Piece.replaced_of_known?_eq_none (h : p.known? names = none) :
    p.replaced names slots = [p] := by
  rw [replaced, h]

/-- No known placeholder is left in the place of a piece. -/
theorem Piece.known?_of_mem_replaced (h : q ∈ p.replaced names slots) : q.known? names = none := by
  cases hp : p.known? names with
  | none =>
      rw [replaced_of_known?_eq_none hp, List.mem_singleton] at h
      rw [h, hp]
  | some name =>
      rw [replaced_of_known? hp] at h
      obtain ⟨c, -, rfl⟩ := List.mem_map.mp h
      rfl

/-- The pieces of a numbered text are what the pieces of the text turn into. -/
theorem IsCut.numbered (h : IsCut cs ps) (names slots : List String) :
    IsCut (ps.flatMap (Piece.numbered names slots)) (ps.flatMap (Piece.replaced names slots)) := by
  induction h with
  | nil => exact .nil
  -- The text between the quotes is kept as it is, so the literal ends at the same quote.
  | closed hbody _ ih =>
      simpa [Piece.numbered, Piece.replaced, Piece.known?, Piece.text] using IsCut.closed hbody ih
  | unclosed hbody =>
      simpa [Piece.numbered, Piece.replaced, Piece.known?, Piece.text] using IsCut.unclosed hbody
  | @placeholder name rest ps hname hend hrest ih =>
      rw [List.flatMap_cons, List.flatMap_cons]
      cases hp : (Piece.placeholder name).known? names with
      | none =>
          rw [Piece.numbered_of_known?_eq_none hp, Piece.replaced_of_known?_eq_none hp]
          -- A number that follows starts with its sign, which ends the name as well.
          have hend' := endsName_flatMap_numbered (hrest.flatMap_text.symm ▸ hend) names slots
          exact .placeholder hname hend' ih
      | some known =>
          rw [Piece.numbered_of_known? hp, Piece.replaced_of_known? hp]
          exact ih.inert_append (areInert_number _)
  | other hc _ ih => exact .other hc ih

/-- A numbered text is left alone when it is numbered again for the same names: its text stays as it
is, and no slot is given. Each of the two texts has one cut. The second one has the characters of a
number for each known placeholder of the first, and the same piece for every other, so that nothing
enters or leaves a literal. -/
theorem numberPlaceholders_idempotent (sql : String) (names : List String) :
    let r := numberPlaceholders sql names
    numberPlaceholders (String.ofList r.sql) names = ⟨r.sql, []⟩ ∧
    ∃ ps, (∀ qs, IsCut sql.toList qs ↔ qs = ps) ∧
      ∀ qs, IsCut r.sql qs ↔ qs = ps.flatMap (Piece.replaced names (slotNames names ps)) := by
  intro r
  have hcut := isCut_pieces sql.toList
  have hsql : r.sql = (pieces sql.toList).flatMap
      (Piece.numbered names (slotNames names (pieces sql.toList))) :=
    congrArg Numbered.sql (numberPlaceholders_eq sql names)
  have hcut' := hcut.numbered names (slotNames names (pieces sql.toList))
  rw [← hsql] at hcut'
  refine ⟨?_, pieces sql.toList, fun qs => ⟨fun h => h.unique hcut, fun h => h ▸ hcut⟩,
    fun qs => ⟨fun h => h.unique hcut', fun h => h ▸ hcut'⟩⟩
  have hself : ∀ q ∈ pieces (String.ofList r.sql).toList, q.known? names = none := by
    rw [String.toList_ofList, ← hcut'.unique (isCut_pieces r.sql)]
    intro q hq
    obtain ⟨p, -, hqp⟩ := List.mem_flatMap.mp hq
    exact Piece.known?_of_mem_replaced hqp
  rw [numberPlaceholders_eq_self_iff.mpr hself, String.toList_ofList]

/-- A number does not join the mark before it, even if it is one of the names. -/
example : numberPlaceholders "@@1" ["1"] = ⟨"@$1".toList, [0]⟩ := by cbv

end EntitySql.Postgres
