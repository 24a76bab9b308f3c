import EntitySql.Proofs.Entity.Declared
import EntitySql.Proofs.Placeholder.Sent
import EntitySql.Proofs.Source.Word

/-!
# Placeholders of default columns

The placeholder of a column is scanned for the longest run of word characters behind its mark. So a
column has a placeholder of its own exactly if it is a word; of any other name only the leading word
is read, which may be no name or that of another column. Columns that are named after their fields
are identifiers, and these are no words if they are raw or hold other marks than letters and
numbers.

## Main definitions

* `marks` : the names behind the marks of a text, as they are scanned.
* `leadingWord` : the word that a name starts with.
* `IsMarked` : a text in which the leading words of given names are scanned.
* `IsKnown` : a scanned word that is one of the names.

## Main results

* `isMarked_insert`, `isMarked_update` : the names that are scanned in statements.
* `IsMarked.mem_order_iff`, `IsMarked.mark_mem_sql_iff` : which names get slots, and when a mark is
  left.
* `numberPlaceholders_defaults` : the placeholders of default columns.
-/

namespace EntitySql.Postgres

open Text

/-! ### Marks of texts -/

/-- The name of a placeholder. -/
def Piece.name? : Piece → Option (List Char)
  | placeholder name => some name
  | literal _ | other _ => none

/-- The names behind the marks of a text, as they are scanned. -/
def marks (cs : List Char) : List (List Char) :=
  (pieces cs).filterMap Piece.name?

/-- The word that a name starts with. -/
def leadingWord (name : String) : List Char :=
  name.toList.takeWhile isWordChar

section Marks

variable {cs ds : List Char} {name : String}

theorem mem_marks_iff : cs ∈ marks ds ↔ .placeholder cs ∈ pieces ds := by
  rw [marks, List.mem_filterMap]
  constructor
  · rintro ⟨p, hp, hname⟩
    cases p with
    | placeholder name =>
        cases hname
        exact hp
    | literal | other => cases hname
  · exact fun h => ⟨_, h, rfl⟩

theorem marks_append (hcs : '\'' ∉ cs) (hend : EndsName ds) :
    marks (cs ++ ds) = marks cs ++ marks ds := by
  have hcut := (isCut_pieces cs).append hcs hend (isCut_pieces ds)
  rw [marks, (isCut_pieces (cs ++ ds)).unique hcut, List.filterMap_append]
  rfl

theorem marks_append_of_areInert (hcs : AreInert cs) : marks (cs ++ ds) = marks ds := by
  have hnone : (cs.map Piece.other).filterMap Piece.name? = [] := by
    rw [List.filterMap_map]
    exact List.filterMap_eq_nil_iff.mpr fun _ _ => rfl
  rw [marks, pieces_plain hcs, List.filterMap_append, hnone]
  rfl

theorem marks_of_areInert (hcs : AreInert cs) : marks cs = [] := by
  have hnil : marks [] = [] := by
    rw [marks, pieces]
    rfl
  rw [← List.append_nil cs, marks_append_of_areInert hcs, hnil]

end Marks

/-! ### Statements that write entities -/

/-- A text without quotes in which the leading words of some names are scanned behind the marks. -/
structure IsMarked (cs : List Char) (names : List String) : Prop where
  quote : '\'' ∉ cs
  marks : marks cs = names.map leadingWord

section Statements

variable {cs ds : List Char} {name table key : String} {names others : List String}

theorem quote_not_mem_of_areInert (h : AreInert cs) : '\'' ∉ cs := fun hm => (h _ hm).1 rfl

theorem isMarked_of_areInert (h : AreInert cs) : IsMarked cs [] :=
  ⟨quote_not_mem_of_areInert h, marks_of_areInert h⟩

theorem IsMarked.append (h : IsMarked cs names) (hend : EndsName ds) (h' : IsMarked ds others) :
    IsMarked (cs ++ ds) (names ++ others) := by
  refine ⟨fun hm => (List.mem_append.mp hm).elim h.quote h'.quote, ?_⟩
  rw [marks_append h.quote hend, h.marks, h'.marks, List.map_append]

theorem IsMarked.inert_append (hcs : AreInert cs) (h : IsMarked ds names) :
    IsMarked (cs ++ ds) names := by
  refine ⟨fun hm => (List.mem_append.mp hm).elim (quote_not_mem_of_areInert hcs) h.quote, ?_⟩
  rw [marks_append_of_areInert hcs, h.marks]

/-- Behind a mark only the leading word of a name is scanned. -/
theorem isMarked_placeholderText (h : AreInert name.toList) :
    IsMarked (placeholderText name).toList [name] := by
  have htext : (placeholderText name).toList = '@' :: name.toList := by
    simp [placeholderText]
  have hrest : AreInert (name.toList.dropWhile isWordChar) := fun c hc =>
    h c ((List.dropWhile_suffix isWordChar).subset hc)
  refine ⟨?_, ?_⟩
  · rw [htext]
    exact List.not_mem_cons_of_ne_of_not_mem (by decide) (quote_not_mem_of_areInert h)
  · rw [htext, marks, pieces, if_neg (by decide), if_pos rfl]
    exact congrArg (leadingWord name :: ·) (marks_of_areInert hrest)

theorem isMarked_assignment (h : AreInert name.toList) :
    IsMarked (assignment name).toList [name] := by
  have hcolumn : AreInert (name ++ " = ").toList := by
    rw [String.toList_append, areInert_append]
    exact ⟨h, by decide⟩
  rw [assignment, String.toList_append]
  exact (isMarked_placeholderText h).inert_append hcolumn

theorem isMarked_intercalate {f : String → String} : (names : List String) →
    (∀ name ∈ names, IsMarked (f name).toList [name]) →
      IsMarked (", ".intercalate (names.map f)).toList names
  | [], _ => isMarked_of_areInert fun _ h => nomatch h
  | [name], h => h name List.mem_cons_self
  | name :: other :: rest, h => by
      rw [List.forall_mem_cons] at h
      have htext : (", ".intercalate ((name :: other :: rest).map f)).toList = (f name).toList ++
          (", ".toList ++ (", ".intercalate ((other :: rest).map f)).toList) := by
        simp [-String.toList_intercalate]
      have hrest := (isMarked_intercalate (other :: rest) h.2).inert_append
        (show AreInert ", ".toList by decide)
      rw [htext]
      exact h.1.append (endsName_cons (by decide) _) hrest

/-- In an insert statement the leading words of the columns are scanned. -/
theorem isMarked_insert (htable : IsWord table) (hnames : ∀ name ∈ names, AreInert name.toList) :
    IsMarked ("INSERT INTO " ++ table ++ " (" ++ ", ".intercalate names ++ ") VALUES (" ++
      ", ".intercalate (names.map placeholderText) ++ ")").toList names := by
  have hcolumns : AreInert ("INSERT INTO " ++ table ++ " (" ++ ", ".intercalate names ++
      ") VALUES (").toList := by
    simp only [String.toList_append, areInert_append, and_assoc]
    exact ⟨by decide, htable.isDotted.areInert, by decide, AreInert.intercalate (by decide) hnames,
      by decide⟩
  have hvalues := isMarked_intercalate names fun name h => isMarked_placeholderText (hnames name h)
  have hend : EndsName ")".toList := endsName_cons (by decide) _
  have htail := hvalues.append hend (isMarked_of_areInert (by decide))
  rw [List.append_nil] at htail
  rw [String.toList_append, String.toList_append, List.append_assoc]
  exact htail.inert_append hcolumns

/-- In an update statement the leading words of the columns and of the key are scanned. -/
theorem isMarked_update (htable : IsWord table)
    (hnames : ∀ name ∈ names ++ [key], AreInert name.toList) :
    IsMarked ("UPDATE " ++ table ++ " SET " ++ ", ".intercalate (names.map assignment) ++
      " WHERE " ++ assignment key).toList (names ++ [key]) := by
  rw [List.forall_mem_append, List.forall_mem_singleton] at hnames
  have htableText : AreInert ("UPDATE " ++ table ++ " SET ").toList := by
    simp only [String.toList_append, areInert_append, and_assoc]
    exact ⟨by decide, htable.isDotted.areInert, by decide⟩
  have hsettings := isMarked_intercalate names fun name h => isMarked_assignment (hnames.1 name h)
  have hwhere := (isMarked_assignment hnames.2).inert_append
    (show AreInert " WHERE ".toList by decide)
  have hend : EndsName (" WHERE ".toList ++ (assignment key).toList) := endsName_cons (by decide) _
  rw [String.toList_append, String.toList_append, String.toList_append, List.append_assoc,
    List.append_assoc]
  exact (hsettings.append hend hwhere).inert_append htableText

end Statements

/-! ### Numbered names -/

/-- Whether a word that is scanned behind a mark is one of the names. -/
def IsKnown (names : List String) (word : List Char) : Prop :=
  word ≠ [] ∧ String.ofList word ∈ names

section Numbered

variable {sql : String} {names : List String} {name : String} {i : Nat}

theorem leadingWord_of_isWord (h : IsWord name) : leadingWord name = name.toList :=
  List.takeWhile_eq_self_iff.mpr h.2

theorem isWord_ofList_leadingWord (h : leadingWord name ≠ []) :
    IsWord (String.ofList (leadingWord name)) := by
  refine ⟨fun hempty => h (by simpa using hempty), fun c hc => ?_⟩
  rw [String.toList_ofList] at hc
  exact List.mem_takeWhile_imp hc

theorem isKnown_of_isWord (h : IsWord name) (hname : name ∈ names) :
    IsKnown names (leadingWord name) := by
  rw [IsKnown, leadingWord_of_isWord h, String.ofList_toList]
  exact ⟨fun hnil => h.1 (by simpa using hnil), hname⟩

theorem filterMap_known?_pieces (cs : List Char) : (pieces cs).filterMap (Piece.known? names) =
    (marks cs).filterMap fun word => (Piece.placeholder word).known? names := by
  rw [marks, List.filterMap_filterMap]
  refine List.filterMap_congr fun p _ => ?_
  cases p <;> rfl

/-- In a text without quotes, the marks that are left are those of words that are not known. -/
theorem mark_mem_numbered_iff {cs : List Char} (hquote : '\'' ∉ cs) {p : Piece} (hp : p ∈ pieces cs)
    (slots : List String) : '@' ∈ p.numbered names slots ↔
      ∃ word, p = .placeholder word ∧ ¬ IsKnown names word := by
  cases p with
  | literal text => exact absurd ((isCut_pieces cs).quote_mem_of_mem hp) hquote
  | other c =>
      have hc := (isCut_pieces cs).isInert_of_mem hp
      have hne : ¬ '@' = c := fun heq => hc.2 heq.symm
      simp [Piece.numbered, Piece.known?, Piece.text, hne]
  | placeholder word =>
      by_cases hknown : IsKnown names word
      · have hword : (Piece.placeholder word).known? names = some (String.ofList word) :=
          if_pos hknown
        rw [Piece.numbered_of_known? hword]
        constructor
        · intro hmark
          exact absurd rfl (areInert_number _ _ hmark).2
        · rintro ⟨_, hsame, hunknown⟩
          cases hsame
          exact absurd hknown hunknown
      · have hnone : (Piece.placeholder word).known? names = none := if_neg hknown
        rw [Piece.numbered_of_known?_eq_none hnone]
        exact ⟨fun _ => ⟨word, rfl, hknown⟩, fun _ => List.mem_cons_self⟩

variable (h : IsMarked sql.toList names)

include h

/-- Exactly the names that are words get slots. -/
theorem IsMarked.mem_slotNames_iff :
    name ∈ slotNames names (pieces sql.toList) ↔ name ∈ names ∧ IsWord name := by
  rw [slotNames, mem_firstOccurrences, List.mem_filterMap]
  simp only [Piece.known?_eq_some_iff]
  constructor
  · rintro ⟨_, hp, rfl, hne, hname⟩
    rw [← mem_marks_iff, h.marks] at hp
    obtain ⟨other, -, hother⟩ := List.mem_map.mp hp
    have hword : IsWord (String.ofList (leadingWord other)) :=
      isWord_ofList_leadingWord (by simpa [hother] using hne)
    rw [hother, String.ofList_toList] at hword
    exact ⟨hname, hword⟩
  · rintro ⟨hname, hword⟩
    refine ⟨_, ?_, rfl, hword.1, hname⟩
    rw [← mem_marks_iff, h.marks]
    exact List.mem_map.mpr ⟨name, hname, leadingWord_of_isWord hword⟩

theorem IsMarked.mem_order_iff (hnodup : names.Nodup) :
    i ∈ (numberPlaceholders sql names).order ↔ ∃ name, names[i]? = some name ∧ IsWord name := by
  rw [numberPlaceholders_eq, List.mem_map]
  simp only [h.mem_slotNames_iff]
  constructor
  · rintro ⟨name, ⟨hname, hword⟩, rfl⟩
    exact ⟨name, List.getElem?_idxOf hname, hword⟩
  · rintro ⟨name, hi, hword⟩
    obtain ⟨hlt, rfl⟩ := List.getElem?_eq_some_iff.mp hi
    exact ⟨names[i], ⟨List.getElem_mem hlt, hword⟩, hnodup.idxOf_getElem i hlt⟩

/-- A mark is left exactly if some name has a leading word that is no name. -/
theorem IsMarked.mark_mem_sql_iff : '@' ∈ (numberPlaceholders sql names).sql ↔
    ∃ name ∈ names, ¬ IsKnown names (leadingWord name) := by
  rw [numberPlaceholders_eq, List.mem_flatMap]
  constructor
  · rintro ⟨p, hp, hmark⟩
    obtain ⟨word, rfl, hword⟩ := (mark_mem_numbered_iff h.quote hp _).mp hmark
    rw [← mem_marks_iff, h.marks] at hp
    obtain ⟨name, hname, rfl⟩ := List.mem_map.mp hp
    exact ⟨name, hname, hword⟩
  · rintro ⟨name, hname, hword⟩
    have hp : .placeholder (leadingWord name) ∈ pieces sql.toList := by
      rw [← mem_marks_iff, h.marks]
      exact List.mem_map_of_mem hname
    exact ⟨_, hp, (mark_mem_numbered_iff h.quote hp _).mpr ⟨_, rfl, hword⟩⟩

/-- If all names are words, then they get slots in their order. -/
theorem IsMarked.order_eq_range (hnodup : names.Nodup) (hwords : ∀ name ∈ names, IsWord name) :
    (numberPlaceholders sql names).order = List.range names.length := by
  have hknown : ∀ name ∈ names,
      (Piece.placeholder (leadingWord name)).known? names = some name := fun name hname => by
    rw [leadingWord_of_isWord (hwords name hname)]
    exact Piece.known?_placeholder (hwords name hname).1 hname
  have hall : (names.map leadingWord).filterMap
      (fun word => (Piece.placeholder word).known? names) = names := by
    rw [List.filterMap_map]
    exact (List.filterMap_congr hknown).trans List.filterMap_some
  have hslots : slotNames names (pieces sql.toList) = names := by
    rw [slotNames, filterMap_known?_pieces, h.marks, hall, firstOccurrences_eq_self hnodup]
  rw [numberPlaceholders_eq, hslots, map_idxOf_self hnodup]

end Numbered

/-- The leading word of a raw name may be the name of another column, which is numbered instead. -/
example : numberPlaceholders "(@r, @r#type)" ["r", "r#type"] = ⟨"($1, $1#type)".toList, [0]⟩ := by
  cbv

end EntitySql.Postgres

namespace EntitySql

open Text Postgres

/-! ### Default columns -/

section Defaults

variable {d : Declaration} {x : Expansion} {s : Statement}

theorem column_eq_name {f : FieldDeclaration} (h : ∀ item ∈ f.items, item.column? = none) :
    f.column = f.name := by
  rw [FieldDeclaration.column, List.filterMap_eq_nil_iff.mpr h]
  rfl

/-- Columns that are not given are the names of their fields, which are identifiers. -/
theorem columns_of_expand (hd : d.expand = .ok x)
    (hdefault : ∀ f ∈ d.fields, ∀ item ∈ f.items, item.column? = none) :
    ∀ column ∈ x.mapping.columns,
      column ∈ d.fields.map (·.name) ∧ Source.IsSpelled column.toList := by
  intro column hcolumn
  obtain ⟨m, hm, rfl⟩ := List.mem_map.mp hcolumn
  rw [fields_of_expand hd] at hm
  obtain ⟨f, hf, rfl⟩ := List.mem_map.mp hm
  have hmem := (List.mem_filter.mp hf).1
  rw [FieldDeclaration.declared, column_eq_name (hdefault f hmem)]
  exact ⟨List.mem_map_of_mem hmem, isSpelled_of_isName (isName_of_expand hd f hmem)⟩

/-- The statements that write the columns of a descriptor. -/
theorem isMarked_of_compiled {entity : Descriptor} (htable : IsWord entity.table)
    (hfields : ∀ f ∈ entity.fields, AreInert f.name.toList)
    (hnodup : (entity.fields.map (·.name)).Nodup)
    (hs : compileInsert entity = .ok s ∨ compileUpdate entity = .ok s) :
    IsMarked s.sql.toList s.names ∧ s.names.Nodup ∧
      ∀ name ∈ s.names, name ∈ entity.fields.map (·.name) := by
  have hsublist : (entity.nonKeyFields.map (·.name)).Sublist (entity.fields.map (·.name)) :=
    List.filter_sublist.map _
  have hinert : ∀ name ∈ entity.fields.map (·.name), AreInert name.toList := by
    intro name hname
    obtain ⟨f, hf, rfl⟩ := List.mem_map.mp hname
    exact hfields f hf
  rcases hs with hs | hs
  · obtain ⟨-, hbindings, hsql⟩ := compileInsert_eq_ok hs
    rw [hsql, Statement.names, hbindings, Binding.map_name_map_deferred]
    exact ⟨isMarked_insert htable fun name h => hinert name (hsublist.subset h),
      hnodup.sublist hsublist, fun name h => hsublist.subset h⟩
  · obtain ⟨key, hkey, hbindings, hsql⟩ := compileUpdate_eq_ok hs
    have hperm := entity.perm_names_of_keyField hkey
    rw [hsql, Statement.names, hbindings, Binding.map_name_map_deferred]
    exact ⟨isMarked_update htable fun name h => hinert name (hperm.subset h),
      hperm.nodup_iff.mpr hnodup, fun name h => hperm.subset h⟩

/-- Default columns are the names of fields, which are identifiers. In a statement that inserts or
updates them, exactly those that are words get slots, each one slot, and a mark is left exactly if
the leading word of a column is none of the columns. So if all of them are words, then they get
their slots in order and no mark is left. -/
theorem numberPlaceholders_defaults (hd : d.expand = .ok x)
    (hdefault : ∀ f ∈ d.fields, ∀ item ∈ f.items, item.column? = none)
    (htable : IsWord x.mapping.table)
    (hs : compileInsert x.mapping.descriptor = .ok s ∨
      compileUpdate x.mapping.descriptor = .ok s) :
    let r := numberPlaceholders s.sql s.names
    (∀ name ∈ s.names, name ∈ d.fields.map (·.name) ∧ Source.IsSpelled name.toList) ∧
    s.names.Nodup ∧ r.order.Nodup ∧
    (∀ i, i ∈ r.order ↔ ∃ name, s.names[i]? = some name ∧ IsWord name) ∧
    ('@' ∈ r.sql ↔ ∃ name ∈ s.names, ¬ IsKnown s.names (leadingWord name)) ∧
    ((∀ name ∈ s.names, IsWord name) → r.order = List.range s.names.length ∧ '@' ∉ r.sql) := by
  have hcolumns := columns_of_expand hd hdefault
  have hnames := x.mapping.map_name_descriptor
  have hfields : ∀ f ∈ x.mapping.descriptor.fields, AreInert f.name.toList := fun f hf =>
    (hcolumns f.name (hnames ▸ List.mem_map_of_mem hf)).2.areInert
  have hnodup : (x.mapping.descriptor.fields.map (·.name)).Nodup :=
    hnames ▸ (isMappingOf_expand hd).columns
  obtain ⟨hmarked, hnodup, hmem⟩ := isMarked_of_compiled htable hfields hnodup hs
  refine ⟨fun name hname => hcolumns name (hnames ▸ hmem name hname), hnodup,
    nodup_order _ _, fun i => hmarked.mem_order_iff hnodup, hmarked.mark_mem_sql_iff,
    fun hwords => ⟨hmarked.order_eq_range hnodup hwords, ?_⟩⟩
  rw [hmarked.mark_mem_sql_iff]
  rintro ⟨name, hname, hunknown⟩
  exact hunknown (isKnown_of_isWord (hwords name hname) hname)

/-- A declaration with default columns. -/
def articleDeclaration : Declaration :=
  ⟨.struct, "Article", [], [⟨"id", [.mapping [.bare "key"]]⟩, ⟨"title", []⟩, ⟨"über", []⟩]⟩

theorem numberPlaceholders_defaults_article :
    ∃ x s, articleDeclaration.expand = .ok x ∧
      (∀ f ∈ articleDeclaration.fields, ∀ item ∈ f.items, item.column? = none) ∧
      IsWord x.mapping.table ∧ compileUpdate x.mapping.descriptor = .ok s ∧
      s.names = ["title", "über", "id"] ∧ (∀ name ∈ s.names, IsWord name) ∧
      (numberPlaceholders s.sql s.names).order = List.range s.names.length ∧
      '@' ∉ (numberPlaceholders s.sql s.names).sql := by
  have hd : articleDeclaration.expand = .ok ⟨⟨"Article",
      [⟨"id", "id", true⟩, ⟨"title", "title", false⟩, ⟨"über", "über", false⟩]⟩, none⟩ := by
    decide +kernel
  have hdefault : ∀ f ∈ articleDeclaration.fields, ∀ item ∈ f.items, item.column? = none := by
    decide +kernel
  have htable : IsWord "Article" := by decide +kernel
  have hwords : ∀ name ∈ ["title", "über", "id"], IsWord name := by decide +kernel
  obtain ⟨-, -, -, -, -, hslots⟩ := numberPlaceholders_defaults hd hdefault htable (.inr rfl)
  exact ⟨_, _, hd, hdefault, htable, rfl, rfl, hwords, hslots hwords⟩

/-- A declaration with a raw field. -/
def rawDeclaration : Declaration :=
  ⟨.struct, "Thing", [], [⟨"r#type", []⟩]⟩

/-- The default column of a raw field is no word: it gets no slot, and its mark is left. -/
theorem numberPlaceholders_defaults_raw :
    ∃ x s, rawDeclaration.expand = .ok x ∧
      (∀ f ∈ rawDeclaration.fields, ∀ item ∈ f.items, item.column? = none) ∧
      IsWord x.mapping.table ∧ compileInsert x.mapping.descriptor = .ok s ∧
      s.names = ["r#type"] ∧
      numberPlaceholders s.sql s.names =
        ⟨"INSERT INTO Thing (r#type) VALUES (@r#type)".toList, []⟩ := by
  have hd : rawDeclaration.expand = .ok ⟨⟨"Thing", [⟨"r#type", "r#type", false⟩]⟩, none⟩ := by
    decide +kernel
  exact ⟨_, _, hd, by decide +kernel, by decide +kernel, rfl, rfl, by decide +kernel⟩

end Defaults

end EntitySql
