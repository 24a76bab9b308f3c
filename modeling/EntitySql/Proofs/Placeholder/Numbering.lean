import Mathlib.Data.List.Nodup
import EntitySql.Postgres.Server
import EntitySql.Proofs.Condition.FirstOccurrences
import EntitySql.Proofs.Placeholder.Cut

/-!
# Numbered texts

Any text, well-formed or not, can be numbered for any list of names. Known placeholders are replaced
by the numbers of their slots and every other piece of the text stays as it is. A slot stands for a
name and not for a placeholder: the slots are the known names in the order of their first use.

## Main definitions

* `Piece.known?` : the name of a placeholder that is replaced.
* `slotNames` : the names of the slots.
* `Piece.numbered` : a piece with its placeholder replaced.

## Main results

* `numberPieces_map_idxOf` : what is done to pieces, after some names have been used.
* `numberPlaceholders_eq`, `nodup_order` : what is done to a text, and that no name gets two slots.
* `endsName_flatMap_numbered` : a text ends a name after its placeholders are replaced if it did
  before.
* `numberPlaceholders_cut` : what is done to a text, and which values are sent with it.
-/

namespace EntitySql.Postgres

open Text

/-! ### Known placeholders -/

/-- The name of a placeholder that is one of the names. The empty name is none. -/
def Piece.known? (names : List String) : Piece → Option String
  | placeholder name =>
      if name ≠ [] ∧ String.ofList name ∈ names then some (String.ofList name) else none
  | literal _ | other _ => none

/-- The names of the known placeholders, in the order of their first use. -/
def slotNames (names : List String) (ps : List Piece) : List String :=
  firstOccurrences (ps.filterMap (Piece.known? names))

/-- The text of a piece. For a known placeholder that is the number of its slot, counted from
one. -/
def Piece.numbered (names slots : List String) (p : Piece) : List Char :=
  match p.known? names with
  | some name => '$' :: numeral (slots.idxOf name + 1)
  | none => p.text

section Known

variable {names slots : List String} {p : Piece} {name : String}

theorem Piece.eq_placeholder_of_known? (h : p.known? names = some name) :
    p = .placeholder name.toList ∧ name ∈ names := by
  cases p with
  | literal | other => cases h
  | placeholder cs =>
      rw [known?] at h
      split at h
      · next hcs =>
          obtain rfl := Option.some.inj h
          exact ⟨by rw [String.toList_ofList], hcs.2⟩
      · cases h

theorem Piece.known?_placeholder (hne : name ≠ "") (hname : name ∈ names) :
    (placeholder name.toList).known? names = some name := by
  simp [known?, hne, hname]

theorem Piece.known?_eq_some_iff :
    p.known? names = some name ↔ p = .placeholder name.toList ∧ name ≠ "" ∧ name ∈ names := by
  constructor
  · intro h
    obtain ⟨rfl, hname⟩ := Piece.eq_placeholder_of_known? h
    refine ⟨rfl, ?_, hname⟩
    rintro rfl
    simp [known?] at h
  · rintro ⟨rfl, hne, hname⟩
    exact Piece.known?_placeholder hne hname

theorem Piece.numbered_of_known? (h : p.known? names = some name) :
    p.numbered names slots = '$' :: numeral (slots.idxOf name + 1) := by
  simp [numbered, h]

theorem Piece.numbered_of_known?_eq_none (h : p.known? names = none) :
    p.numbered names slots = p.text := by
  simp [numbered, h]

theorem mem_slotNames {ps : List Piece} (h : p.known? names = some name) (hp : p ∈ ps) :
    name ∈ slotNames names ps :=
  (mem_firstOccurrences _).mpr (List.mem_filterMap.mpr ⟨p, hp, h⟩)

theorem mem_names_of_mem_slotNames {ps : List Piece} (h : name ∈ slotNames names ps) :
    name ∈ names := by
  obtain ⟨p, -, hp⟩ := List.mem_filterMap.mp ((mem_firstOccurrences _).mp h)
  exact (Piece.eq_placeholder_of_known? hp).2

end Known

/-! ### Places of names -/

section Places

variable {names xs : List String}

theorem map_idxOf_inj (hxs : ∀ x ∈ xs, x ∈ names) (hnodup : xs.Nodup) :
    (xs.map (names.idxOf ·)).Nodup :=
  List.Nodup.map_on (fun x hx _ _ h => (List.idxOf_inj (hxs x hx)).mp h) hnodup

/-- Names without duplicates stand at the first places in turn. -/
theorem map_idxOf_self (h : names.Nodup) :
    names.map (names.idxOf ·) = List.range names.length := by
  refine List.ext_getElem (by simp) fun i hi _ => ?_
  rw [List.getElem_map, List.getElem_range]
  exact h.idxOf_getElem i (by simpa using hi)

theorem mem_map_idxOf_iff (hxs : ∀ x ∈ xs, x ∈ names) {name : String} :
    names.idxOf name ∈ xs.map (names.idxOf ·) ↔ name ∈ xs := by
  constructor
  · intro h
    obtain ⟨x, hx, hxn⟩ := List.mem_map.mp h
    exact (List.idxOf_inj (hxs x hx)).mp hxn ▸ hx
  · exact fun h => List.mem_map_of_mem h

/-- A name stands among the places where it stands among the names. -/
theorem idxOf_map_idxOf (hxs : ∀ x ∈ xs, x ∈ names) {name : String} :
    (xs.map (names.idxOf ·)).idxOf (names.idxOf name) = xs.idxOf name := by
  induction xs with
  | nil => rfl
  | cons x xs ih =>
      rw [List.forall_mem_cons] at hxs
      rw [List.map_cons]
      by_cases hx : x = name
      · rw [hx, List.idxOf_cons_self, List.idxOf_cons_self]
      · have hne : names.idxOf x ≠ names.idxOf name := fun h => hx ((List.idxOf_inj hxs.1).mp h)
        rw [List.idxOf_cons_ne _ hne, List.idxOf_cons_ne _ hx, ih hxs.2]

/-- A name takes a new slot on its first use only. -/
theorem withSlot_map_idxOf {done : List String} (hdone : ∀ x ∈ done, x ∈ names) (name : String) :
    withSlot ((firstOccurrences done).map (names.idxOf ·)) (names.idxOf name) =
      (firstOccurrences (done ++ [name])).map (names.idxOf ·) := by
  have hmem : ∀ x ∈ firstOccurrences done, x ∈ names := fun x hx =>
    hdone x ((mem_firstOccurrences done).mp hx)
  have hiff : names.idxOf name ∈ (firstOccurrences done).map (names.idxOf ·) ↔ name ∈ done := by
    rw [mem_map_idxOf_iff hmem, mem_firstOccurrences]
  unfold withSlot
  by_cases h : name ∈ done
  · rw [if_pos (hiff.mpr h), firstOccurrences_concat_of_mem h]
  · rw [if_neg fun hm => h (hiff.mp hm), firstOccurrences_concat_of_not_mem h, List.map_append]
    rfl

theorem placeOf?_eq_none {cs : List Char} (h : (Piece.placeholder cs).known? names = none) :
    placeOf? names cs = none := by
  unfold placeOf?
  split
  · rfl
  · next hcs =>
      have hnot : String.ofList cs ∉ names := by simpa [Piece.known?, hcs] using h
      rw [List.findIdx?_eq_none_iff]
      intro name hname
      exact decide_eq_false fun hc => hnot (by rwa [← hc, String.ofList_toList])

theorem placeOf?_of_known? {name : String}
    (h : (Piece.placeholder name.toList).known? names = some name) :
    placeOf? names name.toList = some (names.idxOf name) := by
  have hne : name.toList ≠ [] := fun hnil => by simp [Piece.known?, hnil] at h
  have hlt := List.idxOf_lt_length_of_mem (Piece.eq_placeholder_of_known? h).2
  rw [placeOf?, if_neg hne, List.findIdx?_eq_some_iff_getElem]
  refine ⟨hlt, by simp, fun j hj => ?_⟩
  have hne' : (names[j] == name) = false := List.not_of_lt_findIdx hj
  simpa [String.toList_inj] using hne'

end Places

/-! ### Numbering -/

/-- After some names have been used, a piece gets the slot of its name, and every use of a name
gives it the slot that it has. The induction carries the names that were used before. -/
theorem numberPieces_map_idxOf {names : List String} (ps : List Piece) {done : List String}
    (hdone : ∀ x ∈ done, x ∈ names) :
    let slots := firstOccurrences (done ++ ps.filterMap (Piece.known? names))
    numberPieces names ((firstOccurrences done).map (names.idxOf ·)) ps =
      ⟨ps.flatMap (Piece.numbered names slots), slots.map (names.idxOf ·)⟩ := by
  induction ps generalizing done with
  | nil => simp [numberPieces]
  | cons p ps ih =>
      intro slots
      rw [List.flatMap_cons]
      cases hp : p.known? names with
      | none =>
          have hslots : slots = firstOccurrences (done ++ ps.filterMap (Piece.known? names)) := by
            rw [← List.filterMap_cons_none hp]
          rw [Piece.numbered_of_known?_eq_none hp, hslots]
          cases p with
          | literal | other => simp only [numberPieces, ih hdone]
          | placeholder cs => simp only [numberPieces, placeOf?_eq_none hp, ih hdone]
      | some name =>
          obtain ⟨rfl, hname⟩ := Piece.eq_placeholder_of_known? hp
          have hdone' : ∀ x ∈ done ++ [name], x ∈ names := by
            rw [List.forall_mem_append]
            exact ⟨hdone, by simpa using hname⟩
          have hslots : slots =
              firstOccurrences ((done ++ [name]) ++ ps.filterMap (Piece.known? names)) := by
            rw [List.append_assoc, List.singleton_append, ← List.filterMap_cons_some hp]
          have hmem : ∀ x ∈ firstOccurrences (done ++ [name]), x ∈ names := fun x hx =>
            hdone' x ((mem_firstOccurrences _).mp hx)
          have hseen : name ∈ done ++ [name] := by simp
          have hplace : ((firstOccurrences (done ++ [name])).map (names.idxOf ·)).idxOf
              (names.idxOf name) = slots.idxOf name := by
            rw [idxOf_map_idxOf hmem, hslots, idxOf_firstOccurrences_append hseen]
          rw [Piece.numbered_of_known? hp, numberPieces]
          simp only [placeOf?_of_known? hp, withSlot_map_idxOf hdone, hplace, ih hdone']
          rw [← hslots]

theorem numberPlaceholders_eq (sql : String) (names : List String) :
    numberPlaceholders sql names =
      ⟨(pieces sql.toList).flatMap (Piece.numbered names (slotNames names (pieces sql.toList))),
        (slotNames names (pieces sql.toList)).map (names.idxOf ·)⟩ :=
  numberPieces_map_idxOf (pieces sql.toList) (List.forall_mem_nil _)

/-- No name gets two slots. -/
theorem nodup_order (sql : String) (names : List String) :
    (numberPlaceholders sql names).order.Nodup := by
  rw [numberPlaceholders_eq]
  exact map_idxOf_inj (fun _ h => mem_names_of_mem_slotNames h) (nodup_firstOccurrences _)

/-- Replacing placeholders does not put a word character where there was none. -/
theorem endsName_flatMap_numbered {ps : List Piece} (h : EndsName (ps.flatMap Piece.text))
    (names slots : List String) : EndsName (ps.flatMap (Piece.numbered names slots)) := by
  induction ps with
  | nil => exact endsName_nil
  | cons p ps ih =>
      rw [List.flatMap_cons] at h ⊢
      cases hp : p.known? names with
      | some name =>
          rw [Piece.numbered_of_known? hp]
          exact endsName_cons (by decide) _
      | none =>
          rw [Piece.numbered_of_known?_eq_none hp]
          cases hcs : p.text with
          | nil => exact ih (by rwa [hcs] at h)
          | cons c cs => exact endsName_cons (h c (by rw [hcs]; rfl)) _

/-! ### Values -/

section Values

variable {params : List Param}

/-- The first parameter of a name stands where the name first stands among the names. -/
theorem getElem?_idxOf_map_name (params : List Param) (name : String) :
    params[(params.map (·.name)).idxOf name]? = params.find? (·.name = name) := by
  induction params with
  | nil => rfl
  | cons p params ih =>
      rw [List.map_cons]
      by_cases hp : p.name = name
      · rw [hp, List.idxOf_cons_self, List.find?_cons_of_pos (by simpa using hp)]
        rfl
      · rw [List.idxOf_cons_ne _ hp, List.find?_cons_of_neg (by simpa using hp), ← ih]
        rfl

theorem map_some_filterMap {α β : Type} {f : α → Option β} {xs : List α}
    (h : ∀ x ∈ xs, (f x).isSome) : (xs.filterMap f).map some = xs.map f := by
  induction xs with
  | nil => rfl
  | cons x xs ih =>
      rw [List.forall_mem_cons] at h
      obtain ⟨b, hb⟩ := Option.isSome_iff_exists.mp h.1
      rw [List.filterMap_cons_some hb, List.map_cons, List.map_cons, ih h.2, hb]

/-- One value is sent for each slot: that of the first parameter of its name. -/
theorem map_some_positional {sql : String} {slots : List String}
    (horder : (numberPlaceholders sql (params.map (·.name))).order =
      slots.map ((params.map (·.name)).idxOf ·))
    (hslots : ∀ name ∈ slots, name ∈ params.map (·.name)) :
    (positional sql params).2.map some =
      slots.map fun name => (params.find? (·.name = name)).map (·.value) := by
  have hvalue (name : String) : (params[(params.map (·.name)).idxOf name]?).map (·.value) =
      (params.find? (·.name = name)).map (·.value) := by
    rw [getElem?_idxOf_map_name]
  have hfound : ∀ name ∈ slots, ((params.find? (·.name = name)).map (·.value)).isSome := by
    intro name hname
    obtain ⟨p, hp, rfl⟩ := List.mem_map.mp (hslots name hname)
    rw [Option.isSome_map, List.find?_isSome]
    exact ⟨p, hp, by simp⟩
  rw [positional, horder, List.filterMap_map, ← map_some_filterMap hfound]
  exact congrArg (List.map some) (List.filterMap_congr fun name _ => hvalue name)

end Values

/-! ### Numbered texts -/

/-- The cut of a text is unique. Its known placeholders are replaced by the numbers of their slots,
its other pieces are kept, and the slots are the known names in the order of their first use, each
with the first place of its name among the names. A number ends where its placeholder ended. With
the text one value is sent for each slot, which is that of the first parameter of its name. -/
theorem numberPlaceholders_cut (sql : String) (names : List String) :
    ∃ ps, (∀ qs, IsCut sql.toList qs ↔ qs = ps) ∧
      let slots := slotNames names ps
      let r := numberPlaceholders sql names
      r.sql = ps.flatMap (Piece.numbered names slots) ∧
      r.order = slots.map (names.idxOf ·) ∧
      r.order.Nodup ∧
      (∀ i ∈ r.order, ∃ name ∈ slots, names[i]? = some name ∧ names.idxOf name = i) ∧
      (∀ before p after name, ps = before ++ p :: after → p.known? names = some name →
        r.order[slots.idxOf name]? = some (names.idxOf name) ∧
          EndsName (after.flatMap (Piece.numbered names slots))) ∧
      ∀ params : List Param, params.map (·.name) = names →
        (positional sql params).1 = String.ofList r.sql ∧
          (positional sql params).2.map some =
            slots.map fun name => (params.find? (·.name = name)).map (·.value) := by
  have hcut := isCut_pieces sql.toList
  refine ⟨pieces sql.toList, fun qs => ⟨fun h => h.unique hcut, fun h => h ▸ hcut⟩, ?_⟩
  intro slots r
  have hr : r = ⟨(pieces sql.toList).flatMap (Piece.numbered names slots),
      slots.map (names.idxOf ·)⟩ :=
    numberPieces_map_idxOf (pieces sql.toList) (List.forall_mem_nil _)
  have hslots : ∀ name ∈ slots, name ∈ names := fun name h => mem_names_of_mem_slotNames h
  have hnodup : slots.Nodup := nodup_firstOccurrences _
  rw [hr]
  refine ⟨rfl, rfl, map_idxOf_inj hslots hnodup, ?_, ?_, ?_⟩
  · intro i hi
    obtain ⟨name, hname, rfl⟩ := List.mem_map.mp hi
    exact ⟨name, hname, List.getElem?_idxOf (hslots name hname), rfl⟩
  · intro before p after name hps hp
    have hmem : name ∈ slots := mem_slotNames hp (by simp [hps])
    obtain ⟨rfl, -⟩ := Piece.eq_placeholder_of_known? hp
    rw [hps] at hcut
    refine ⟨?_, endsName_flatMap_numbered hcut.endsName names slots⟩
    rw [List.getElem?_map, List.getElem?_idxOf hmem]
    rfl
  · rintro params rfl
    exact ⟨congrArg (fun x : Numbered => String.ofList x.sql) hr,
      map_some_positional (congrArg Numbered.order hr) hslots⟩

/-- Of two equal names the first counts; an unknown name, a mark alone and what stands behind an
open quote are kept. -/
example : numberPlaceholders "@b@a@@b @c '@a''@b' @a '@a" ["a", "b", "a"] =
    ⟨"$1$2@$1 @c '@a''@b' $2 '@a".toList, [1, 0]⟩ := by cbv

end EntitySql.Postgres
