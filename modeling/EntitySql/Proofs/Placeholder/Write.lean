import EntitySql.Query.Write
import EntitySql.Proofs.Placeholder.Slots

/-!
# Columns and their slots

A statement that writes an entity lists columns, and for each column a placeholder of its name. When
the placeholders are numbered, each column stands beside the slot of its own place.

## Main definitions

* `joinedFragments` : fragments with commas between them.
* `insertFragments`, `updateFragments`, `deleteFragments` : the fragments of the statements.
* `insertText`, `updateText`, `deleteText` : the numbered texts.

## Main results

* `textOf_insertFragments`, `textOf_updateFragments`, `textOf_deleteFragments` : the fragments are
  the compiled texts.
* `textOf_number_insertFragments`, `textOf_number_updateFragments`,
  `textOf_number_deleteFragments` : numbering them gives the numbered texts.
-/

namespace EntitySql

open Text Postgres

/-! ### Joined fragments -/

/-- Fragments with a comma and a blank between each two parts. -/
def joinedFragments (fss : List (List Fragment)) : List Fragment :=
  [.plain ", ".toList].intercalate fss

theorem joinedFragments_cons_cons (fs gs : List Fragment) (rest : List (List Fragment)) :
    joinedFragments (fs :: gs :: rest) =
      fs ++ .plain ", ".toList :: joinedFragments (gs :: rest) := by
  rw [joinedFragments, List.intercalate_cons_cons, List.append_assoc]
  rfl

@[simp]
theorem joinedFragments_singleton (fs : List Fragment) : joinedFragments [fs] = fs :=
  List.intercalate_singleton

theorem textOf_joinedFragments : (fss : List (List Fragment)) →
    textOf (joinedFragments fss) =
      (", ".intercalate (fss.map fun fs => String.ofList (textOf fs))).toList
  | [] => rfl
  | [fs] => by simp
  | fs :: gs :: rest => by
      have ih := textOf_joinedFragments (gs :: rest)
      rw [List.map_cons] at ih
      simp [joinedFragments_cons_cons, ih, -String.toList_intercalate]

theorem namesOf_joinedFragments : (fss : List (List Fragment)) →
    namesOf (joinedFragments fss) = fss.flatMap namesOf
  | [] => rfl
  | [fs] => by simp
  | fs :: gs :: rest => by
      simp [joinedFragments_cons_cons, namesOf_joinedFragments (gs :: rest)]

theorem map_number_joinedFragments (names : List String) : (fss : List (List Fragment)) →
    (joinedFragments fss).map (Fragment.number names) =
      joinedFragments (fss.map fun fs => fs.map (Fragment.number names))
  | [] => rfl
  | [fs] => by simp
  | fs :: gs :: rest => by
      simp [joinedFragments_cons_cons, map_number_joinedFragments names (gs :: rest),
        Fragment.number]

theorem isScannable_joinedFragments : {fss : List (List Fragment)} →
    (∀ fs ∈ fss, IsScannable fs) → IsScannable (joinedFragments fss)
  | [], _ => trivial
  | [fs], h => (joinedFragments_singleton fs).symm ▸ h fs List.mem_cons_self
  | fs :: gs :: rest, h => by
      rw [List.forall_mem_cons] at h
      have hrest : IsScannable (.plain ", ".toList :: joinedFragments (gs :: rest)) :=
        ⟨by decide, isScannable_joinedFragments h.2⟩
      rw [joinedFragments_cons_cons]
      exact h.1.append hrest (endsName_cons (by decide) _)

/-! ### Texts -/

/-- The text of a parameter; parameters are counted from one. -/
def slotText (i : Nat) : String :=
  String.ofList ('$' :: numeral (i + 1))

/-- A column with a parameter on the right. -/
def slotAssignment (column : String) (i : Nat) : String :=
  column ++ " = " ++ slotText i

/-- The text that inserts columns into a table: each column has the slot of its place. -/
def insertText (table : String) (columns : List String) : String :=
  "INSERT INTO " ++ table ++ " (" ++ ", ".intercalate columns ++ ") VALUES ("
    ++ ", ".intercalate (columns.mapIdx fun i _ => slotText i) ++ ")"

/-- The text that sets columns: each column has the slot of its place, and the key the one behind
them. -/
def updateText (table : String) (columns : List String) (key : String) : String :=
  "UPDATE " ++ table ++ " SET " ++ ", ".intercalate (columns.mapIdx fun i c => slotAssignment c i)
    ++ " WHERE " ++ slotAssignment key columns.length

/-- The text that deletes by the key. -/
def deleteText (table key : String) : String :=
  "DELETE FROM " ++ table ++ " WHERE " ++ slotAssignment key 0

/-- The fragments of a column with its placeholder on the right. -/
def assignmentFragments (column : String) : List Fragment :=
  [.plain (column ++ " = ").toList, .placeholder column]

@[simp]
theorem textOf_assignmentFragments (column : String) :
    textOf (assignmentFragments column) = (assignment column).toList := by
  simp [assignmentFragments, assignment, placeholderText]

@[simp]
theorem namesOf_assignmentFragments (column : String) :
    namesOf (assignmentFragments column) = [column] := rfl

theorem isScannable_assignmentFragments {column : String} (h : IsWord column) :
    IsScannable (assignmentFragments column) := by
  refine ⟨?_, h, endsName_nil, trivial⟩
  rw [String.toList_append, areInert_append]
  exact ⟨h.isDotted.areInert, by decide⟩

theorem textOf_number_assignmentFragments (names : List String) (column : String) :
    textOf ((assignmentFragments column).map (Fragment.number names)) =
      (slotAssignment column (names.idxOf column)).toList := by
  simp [assignmentFragments, Fragment.number, slotAssignment, slotText]

/-! ### Columns beside their slots -/

/-- The fragments of an insert statement. -/
def insertFragments (table : String) (columns : List String) : List Fragment :=
  .plain ("INSERT INTO " ++ table ++ " (" ++ ", ".intercalate columns ++ ") VALUES (").toList ::
    (joinedFragments (columns.map fun column => [.placeholder column]) ++ [.plain ")".toList])

/-- The fragments of an update statement. -/
def updateFragments (table : String) (columns : List String) (key : String) : List Fragment :=
  .plain ("UPDATE " ++ table ++ " SET ").toList ::
    (joinedFragments (columns.map assignmentFragments) ++
      .plain " WHERE ".toList :: assignmentFragments key)

/-- The fragments of a delete statement. -/
def deleteFragments (table key : String) : List Fragment :=
  .plain ("DELETE FROM " ++ table ++ " WHERE ").toList :: assignmentFragments key

section Columns

variable {table key : String} {columns : List String}

theorem namesOf_insertFragments : namesOf (insertFragments table columns) = columns := by
  simp [insertFragments, namesOf_joinedFragments, List.flatMap_map]

theorem namesOf_updateFragments :
    namesOf (updateFragments table columns key) = columns ++ [key] := by
  simp [updateFragments, namesOf_joinedFragments, List.flatMap_map]

theorem namesOf_deleteFragments : namesOf (deleteFragments table key) = [key] := rfl

theorem isScannable_insertFragments (htable : IsWord table)
    (hcolumns : ∀ column ∈ columns, IsWord column) :
    IsScannable (insertFragments table columns) := by
  have hplaceholders : IsScannable (joinedFragments (columns.map fun c => [.placeholder c])) := by
    refine isScannable_joinedFragments fun fs hfs => ?_
    obtain ⟨column, hcolumn, rfl⟩ := List.mem_map.mp hfs
    exact ⟨hcolumns column hcolumn, endsName_nil, trivial⟩
  refine ⟨?_, hplaceholders.append ⟨by decide, trivial⟩ (endsName_cons (by decide) _)⟩
  simp only [String.toList_append, areInert_append, and_assoc]
  exact ⟨by decide, htable.isDotted.areInert, by decide,
    AreInert.intercalate (by decide) fun c hc => (hcolumns c hc).isDotted.areInert, by decide⟩

theorem isScannable_updateFragments (htable : IsWord table)
    (hcolumns : ∀ column ∈ columns, IsWord column) (hkey : IsWord key) :
    IsScannable (updateFragments table columns key) := by
  have hassignments : IsScannable (joinedFragments (columns.map assignmentFragments)) := by
    refine isScannable_joinedFragments fun fs hfs => ?_
    obtain ⟨column, hcolumn, rfl⟩ := List.mem_map.mp hfs
    exact isScannable_assignmentFragments (hcolumns column hcolumn)
  have hwhere : IsScannable (.plain " WHERE ".toList :: assignmentFragments key) :=
    ⟨by decide, isScannable_assignmentFragments hkey⟩
  refine ⟨?_, hassignments.append hwhere (endsName_cons (by decide) _)⟩
  simp only [String.toList_append, areInert_append, and_assoc]
  exact ⟨by decide, htable.isDotted.areInert, by decide⟩

theorem isScannable_deleteFragments (htable : IsWord table) (hkey : IsWord key) :
    IsScannable (deleteFragments table key) := by
  refine ⟨?_, isScannable_assignmentFragments hkey⟩
  simp only [String.toList_append, areInert_append, and_assoc]
  exact ⟨by decide, htable.isDotted.areInert, by decide⟩

/-- Without repetition, the place of a name is where it stands. -/
theorem map_idxOf_eq_mapIdx {β : Type} {names : List String} (h : names.Nodup)
    (others : List String) (f : String → Nat → β) :
    names.map (fun n => f n ((names ++ others).idxOf n)) = names.mapIdx fun i n => f n i := by
  refine List.ext_getElem (by simp) fun i hi hi' => ?_
  have hlt : i < names.length := by simpa using hi
  have hidx : (names ++ others).idxOf names[i] = i := by
    rw [List.idxOf_append, if_pos (List.getElem_mem hlt), h.idxOf_getElem]
  rw [List.getElem_map, List.getElem_mapIdx, hidx]

theorem textOf_plain_cons (t : String) (fs : List Fragment) :
    textOf (.plain t.toList :: fs) = t.toList ++ textOf fs := rfl

theorem textOf_insertFragments : textOf (insertFragments table columns) =
    ("INSERT INTO " ++ table ++ " (" ++ ", ".intercalate columns ++ ") VALUES ("
      ++ ", ".intercalate (columns.map placeholderText) ++ ")").toList := by
  have hjoined : textOf (joinedFragments (columns.map fun c => [.placeholder c])) =
      (", ".intercalate (columns.map placeholderText)).toList := by
    have htext : ((fun fs => String.ofList (textOf fs)) ∘ fun c => [.placeholder c]) =
        placeholderText := by
      funext c
      simp [placeholderText, String.ofList_cons]
    rw [textOf_joinedFragments, List.map_map, htext]
  rw [insertFragments, textOf_plain_cons, textOf_append, hjoined, textOf_plain_cons, textOf_nil,
    List.append_nil]
  simp only [String.toList_append, List.append_assoc]

theorem textOf_updateFragments : textOf (updateFragments table columns key) =
    ("UPDATE " ++ table ++ " SET " ++ ", ".intercalate (columns.map assignment) ++ " WHERE "
      ++ assignment key).toList := by
  have hjoined : textOf (joinedFragments (columns.map assignmentFragments)) =
      (", ".intercalate (columns.map assignment)).toList := by
    rw [textOf_joinedFragments, List.map_map]
    simp only [Function.comp_def, textOf_assignmentFragments, String.ofList_toList]
  rw [updateFragments, textOf_plain_cons, textOf_append, hjoined, textOf_plain_cons,
    textOf_assignmentFragments]
  simp only [String.toList_append, List.append_assoc]

theorem textOf_deleteFragments : textOf (deleteFragments table key) =
    ("DELETE FROM " ++ table ++ " WHERE " ++ assignment key).toList := by
  rw [deleteFragments, textOf_plain_cons, textOf_assignmentFragments, ← String.toList_append]

theorem textOf_number_plain_cons (names : List String) (t : String) (fs : List Fragment) :
    textOf ((.plain t.toList :: fs).map (Fragment.number names)) =
      t.toList ++ textOf (fs.map (Fragment.number names)) := rfl

/-- In an insert statement each column gets the slot of its place. -/
theorem textOf_number_insertFragments (h : columns.Nodup) :
    textOf ((insertFragments table columns).map (Fragment.number columns)) =
      (insertText table columns).toList := by
  have hslots : columns.map (fun c => slotText (columns.idxOf c)) =
      columns.mapIdx fun i _ => slotText i := by
    simpa using map_idxOf_eq_mapIdx h [] fun _ i => slotText i
  have hjoined : textOf ((joinedFragments (columns.map fun c => [.placeholder c])).map
      (Fragment.number columns)) =
        (", ".intercalate (columns.mapIdx fun i _ => slotText i)).toList := by
    rw [map_number_joinedFragments, textOf_joinedFragments, List.map_map, List.map_map, ← hslots]
    simp [Function.comp_def, Fragment.number, slotText]
  rw [insertFragments, textOf_number_plain_cons, List.map_append, textOf_append, hjoined,
    textOf_number_plain_cons, List.map_nil, textOf_nil, List.append_nil]
  unfold insertText
  simp only [String.toList_append, List.append_assoc]

/-- In an update statement each column gets the slot of its place, and the key the last one. -/
theorem textOf_number_updateFragments (h : (columns ++ [key]).Nodup) :
    textOf ((updateFragments table columns key).map (Fragment.number (columns ++ [key]))) =
      (updateText table columns key).toList := by
  obtain ⟨hcolumns, -, hkey⟩ := List.nodup_append.mp h
  have hslots : columns.map (fun c => slotAssignment c ((columns ++ [key]).idxOf c)) =
      columns.mapIdx fun i c => slotAssignment c i :=
    map_idxOf_eq_mapIdx hcolumns [key] slotAssignment
  have hjoined : textOf ((joinedFragments (columns.map assignmentFragments)).map
      (Fragment.number (columns ++ [key]))) =
        (", ".intercalate (columns.mapIdx fun i c => slotAssignment c i)).toList := by
    rw [map_number_joinedFragments, textOf_joinedFragments, List.map_map, List.map_map, ← hslots]
    simp only [Function.comp_def, textOf_number_assignmentFragments, String.ofList_toList]
  have hlast : (columns ++ [key]).idxOf key = columns.length := by
    have hfresh : key ∉ columns := fun hmem => hkey key hmem key List.mem_cons_self rfl
    rw [List.idxOf_append, if_neg hfresh]
    simp
  rw [updateFragments, textOf_number_plain_cons, List.map_append, textOf_append, hjoined,
    textOf_number_plain_cons, textOf_number_assignmentFragments, hlast]
  unfold updateText
  simp only [String.toList_append, List.append_assoc]

example : updateText "people" ["name", "home_id"] "id" =
    "UPDATE people SET name = $1, home_id = $2 WHERE id = $3" := by cbv

theorem textOf_number_deleteFragments :
    textOf ((deleteFragments table key).map (Fragment.number [key])) =
      (deleteText table key).toList := by
  have hslot : [key].idxOf key = 0 := List.idxOf_cons_self
  rw [deleteFragments, textOf_number_plain_cons, textOf_number_assignmentFragments, hslot,
    ← String.toList_append]
  rfl

end Columns

end EntitySql
