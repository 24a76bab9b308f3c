import EntitySql.Query.Select
import EntitySql.Proofs.Condition.Comparison
import EntitySql.Proofs.Literal
import EntitySql.Proofs.Placeholder.Slots
import EntitySql.Proofs.Query.Projection

/-!
# Select statements on a server

A select statement lists its bindings in the order in which its placeholders first appear, and the
scanner gives out slots in the order in which it meets them. The two walks agree: the values are
sent in the order of the bindings, every deferred operand gets the number of its own binding, and no
literal is touched, whatever it looks like.

## Main definitions

* `Condition.fragments` : the fragments of a condition.
* `Expr.operandFragments` : the operands of a predicate that are deferred or quoted.
* `AreNames` : all names of a selection are names.

## Main results

* `Condition.textOf_fragments` : the fragments of a condition are its text.
* `Condition.isScannable_fragments` : the scanner finds their borders.
* `numberPlaceholders_compileSelect` : how a select statement is numbered.
-/

namespace EntitySql

open Text Postgres

/-! ### Fragments of conditions -/

/-- A literal, quoted or bare. -/
def Value.fragment (dialect : Dialect) (v : Value) : Fragment :=
  match v.quotedText? with
  | some t => .quoted t
  | none => .plain (v.literal dialect).toList

/-- The fragments of a comparison behind its column. -/
def Operand.fragments (dialect : Dialect) : Comparison → Operand → List Fragment
  | .equal, .literal .null => [.plain "IS NULL".toList]
  | .notEqual, .literal .null => [.plain "IS NOT NULL".toList]
  | c, .literal v => [.plain (c.sql ++ " ").toList, v.fragment dialect]
  | c, .placeholder name => [.plain (c.sql ++ " ").toList, .placeholder name]

/-- The fragments of two conditions with a connective between them. -/
def groupFragments (connective : String) (left right : List Fragment) : List Fragment :=
  .plain ['('] :: (left ++ .plain connective.toList :: (right ++ [.plain [')']]))

/-- The fragments of a condition. -/
def Condition.fragments (dialect : Dialect) : Condition → List Fragment
  | .and left right =>
      groupFragments " AND " (left.fragments dialect) (right.fragments dialect)
  | .or left right =>
      groupFragments " OR " (left.fragments dialect) (right.fragments dialect)
  | .compare column comparison operand =>
      .plain ("(" ++ columnText column ++ " ").toList ::
        (operand.fragments dialect comparison ++ [.plain [')']])

@[simp]
theorem Value.text_fragment (dialect : Dialect) (v : Value) :
    (v.fragment dialect).text = (v.literal dialect).toList := by
  unfold Value.fragment
  split
  · next t h => simp [literal_eq_sqlQuoted h, sqlQuoted]
  · rfl

@[simp]
theorem Value.placeholder?_fragment (dialect : Dialect) (v : Value) :
    (v.fragment dialect).placeholder? = none := by
  unfold Value.fragment
  split <;> rfl

theorem Operand.textOf_fragments (dialect : Dialect) (c : Comparison) (operand : Operand) :
    textOf (operand.fragments dialect c) = (operand.test dialect c).toList := by
  unfold Operand.fragments Operand.test
  split <;> simp

theorem Operand.namesOf_fragments (dialect : Dialect) (c : Comparison) (operand : Operand) :
    namesOf (operand.fragments dialect c) = operand.placeholders := by
  unfold Operand.fragments
  split <;> simp [Operand.placeholders]

/-- The fragments of a condition are its text. -/
theorem Condition.textOf_fragments (dialect : Dialect) (c : Condition) :
    textOf (c.fragments dialect) = (c.sql dialect).toList := by
  induction c with
  | and left right ihl ihr | or left right ihl ihr =>
      simp [fragments, groupFragments, sql, ihl, ihr]
  | compare column comparison operand =>
      simp [fragments, sql, Operand.textOf_fragments]

theorem Condition.namesOf_fragments (dialect : Dialect) (c : Condition) :
    namesOf (c.fragments dialect) = c.occurrences := by
  induction c with
  | and left right ihl ihr | or left right ihl ihr =>
      simp [fragments, groupFragments, occurrences, ihl, ihr]
  | compare column comparison operand =>
      simp [fragments, occurrences, Operand.namesOf_fragments]

/-! ### Operands -/

/-- The fragment of a right side that is deferred or quoted. -/
def Expr.operandFragment? (e : Expr) : Option Fragment :=
  match e.deferred? with
  | some name => some (.placeholder name)
  | none => (e.literal?.bind Value.quotedText?).map Fragment.quoted

/-- The operands of a predicate that are deferred or quoted, from left to right. -/
def Expr.operandFragments : Expr → List Fragment :=
  collect fun _ rhs => rhs.unconverted.operandFragment?.toList

/-- The fragment of an operand, if it is a placeholder or quoted. -/
def Operand.marked : Operand → List Fragment
  | .placeholder name => [.placeholder name]
  | .literal v => (v.quotedText?.map Fragment.quoted).toList

theorem Operand.marked_ofExpr (operand : Operand) {e : Expr} (h : ofExpr e = .ok operand) :
    e.unconverted.operandFragment?.toList = operand.marked := by
  cases operand with
  | placeholder name =>
      rw [Expr.operandFragment?, ofExpr_eq_placeholder_iff.mp h]
      rfl
  | literal v =>
      have hnone : e.unconverted.deferred? = none := by
        have hnames := (Operand.literal v).placeholders_ofExpr h
        cases hd : e.unconverted.deferred? with
        | none => rfl
        | some name =>
            rw [hd] at hnames
            cases hnames
      rw [Expr.operandFragment?, hnone, ofExpr_eq_literal_iff.mp h]
      rfl

theorem Value.filter_fragment (dialect : Dialect) (v : Value) :
    [v.fragment dialect].filter Fragment.isMarked = (Operand.literal v).marked := by
  unfold Value.fragment Operand.marked
  split <;> simp_all [Fragment.isMarked]

theorem Operand.filter_fragments (dialect : Dialect) (c : Comparison) (operand : Operand) :
    (operand.fragments dialect c).filter Fragment.isMarked = operand.marked := by
  unfold Operand.fragments
  split
  · rfl
  · rfl
  · next v _ _ => rw [List.filter_cons_of_neg (by simp [Fragment.isMarked]), v.filter_fragment]
  · rfl

/-- What the compiler marks are the operands of the predicate. -/
theorem Condition.filter_fragments (dialect : Dialect) {p : Expr} {c : Condition}
    (h : ofExpr p = .ok c) :
    (c.fragments dialect).filter Fragment.isMarked = p.operandFragments := by
  refine ofExpr_induction
    (motive := fun p c => (c.fragments dialect).filter Fragment.isMarked = p.operandFragments)
    ?and ?or ?compare h
  case and | or =>
    intro lhs rhs left right ihl ihr
    simp [fragments, groupFragments, Fragment.isMarked, ihl, ihr, Expr.operandFragments,
      Expr.collect]
  case compare =>
    intro op comparison lhs rhs path operand hop hl hr
    rw [Expr.operandFragments, Expr.collect_compare _ hop, operand.marked_ofExpr hr]
    simp [fragments, Fragment.isMarked, Operand.filter_fragments]

/-! ### Borders in conditions -/

theorem Value.isScannable_fragment (dialect : Dialect) (v : Value) {rest : List Fragment}
    (h : IsScannable rest) : IsScannable (v.fragment dialect :: rest) := by
  unfold Value.fragment
  split
  · exact h
  · next hq => exact ⟨(isToken_literal hq dialect).areInert, h⟩

theorem Operand.isScannable_fragments (dialect : Dialect) (c : Comparison) {operand : Operand}
    (h : ∀ name ∈ operand.placeholders, IsWord name) {rest : List Fragment}
    (hrest : IsScannable rest) (hend : EndsName (textOf rest)) :
    IsScannable (operand.fragments dialect c ++ rest) := by
  have hsign : AreInert (c.sql ++ " ").toList := by
    rw [String.toList_append, areInert_append]
    exact ⟨c.isToken_sql.areInert, by decide⟩
  unfold Operand.fragments
  split
  · exact ⟨by decide, hrest⟩
  · exact ⟨by decide, hrest⟩
  · next v _ _ => exact ⟨hsign, v.isScannable_fragment dialect hrest⟩
  · next name => exact ⟨hsign, h name List.mem_cons_self, hend, hrest⟩

private theorem isScannable_close : IsScannable [.plain [')']] := ⟨by decide, trivial⟩

private theorem endsName_close : EndsName (textOf [.plain [')']]) := endsName_cons (by decide) []

theorem isScannable_groupFragments {connective : String} {left right : List Fragment}
    (hconnective : AreInert connective.toList) (hblank : connective.toList.head? = some ' ')
    (hl : IsScannable left) (hr : IsScannable right) :
    IsScannable (groupFragments connective left right) := by
  have hright : IsScannable (right ++ [.plain [')']]) := hr.append isScannable_close endsName_close
  refine ⟨by decide, hl.append ⟨hconnective, hright⟩ ?_⟩
  rw [textOf_cons]
  obtain ⟨cs, hcs⟩ := List.head?_eq_some_iff.mp hblank
  rw [Fragment.text_plain, hcs]
  exact endsName_cons (by decide) _

/-- The scanner finds the borders of the fragments of a condition. -/
theorem Condition.isScannable_fragments (dialect : Dialect) {p : Expr} {c : Condition}
    (h : ofExpr p = .ok c) :
    (∀ name ∈ p.columnNames, IsDotted name) → (∀ name ∈ p.deferredNames, IsWord name) →
      IsScannable (c.fragments dialect) := by
  refine ofExpr_induction (motive := fun p c => (∀ name ∈ p.columnNames, IsDotted name) →
    (∀ name ∈ p.deferredNames, IsWord name) → IsScannable (c.fragments dialect)) ?and ?or ?compare h
  case and | or =>
    intro lhs rhs left right ihl ihr hcolumns hdeferred
    obtain ⟨hcl, hcr⟩ := List.forall_mem_append.mp hcolumns
    obtain ⟨hdl, hdr⟩ := List.forall_mem_append.mp hdeferred
    exact isScannable_groupFragments (by decide) (by decide) (ihl hcl hdl) (ihr hcr hdr)
  case compare =>
    intro op comparison lhs rhs path operand hop hl hr hcolumns hdeferred
    rw [Expr.columnNames, Expr.collect_compare _ hop, hl.unchained_eq] at hcolumns
    rw [Expr.deferredNames, Expr.collect_compare _ hop, operand.placeholders_ofExpr hr] at hdeferred
    have hcolumn : AreInert ("(" ++ columnText path ++ " ").toList := by
      simp only [String.toList_append, areInert_append]
      exact ⟨⟨by decide, (isToken_columnText hcolumns).areInert⟩, by decide⟩
    exact ⟨hcolumn, Operand.isScannable_fragments dialect comparison hdeferred isScannable_close
      endsName_close⟩

/-! ### Select statements -/

/-- The names in the columns of a projection, item by item. -/
def Expr.projectedNames (e : Expr) : List String :=
  e.items.flatMap fun item => item.unconverted.unchained.2

/-- The names in a join. -/
def JoinClause.names (j : JoinClause) : List String :=
  [j.primaryTable, j.secondaryTable, j.primaryKey, j.foreignKey]

/-- All names of a selection are names: those of placeholders are words, and only the others may
have dots. -/
structure AreNames (entity : Descriptor) (projection predicate : Option Expr)
    (joins : List JoinClause) : Prop where
  table : IsDotted entity.table
  projected : ∀ e ∈ projection, ∀ name ∈ e.projectedNames, IsDotted name
  joined : ∀ j ∈ joins, ∀ name ∈ j.names, IsDotted name
  compared : ∀ p ∈ predicate, ∀ name ∈ p.columnNames, IsDotted name
  deferred : ∀ p ∈ predicate, ∀ name ∈ p.deferredNames, IsWord name

theorem Expr.IsItem.isColumnOf {e : Expr} {path : ColumnPath} (h : e.IsItem path) :
    e.IsColumnOf path := by
  cases h with
  | chain hne | converted hne => exact ⟨hne, unconverted_chain hne⟩

theorem Expr.projectedNames_eq_flatten {e : Expr} {paths : List ColumnPath}
    (h : e.projectedColumns = .ok paths) : e.projectedNames = paths.flatten := by
  rw [projectedColumns_eq_mapM, mapM_eq_ok_iff] at h
  rw [projectedNames]
  generalize e.items = items at h
  induction h with
  | nil => rfl
  | cons hitem _ ih =>
      have hcolumn := (projectedColumn_eq_ok_iff.mp hitem).isColumnOf
      rw [List.flatMap_cons, List.flatten_cons, hcolumn.unchained_eq, ih]

theorem areInert_columnList {projection : Option Expr} {columns : String}
    (h : columnList projection = .ok columns)
    (hnames : ∀ e ∈ projection, ∀ name ∈ e.projectedNames, IsDotted name) :
    AreInert columns.toList := by
  cases projection with
  | none =>
      cases h
      decide
  | some e =>
      obtain ⟨paths, hpaths, rfl⟩ := map_eq_ok_iff.mp h
      have hpath : ∀ path ∈ paths, ∀ name ∈ path, IsDotted name := by
        intro path hpath name hname
        refine hnames e rfl name ?_
        rw [Expr.projectedNames_eq_flatten hpaths]
        exact List.mem_flatten_of_mem hpath hname
      refine AreInert.intercalate (by decide) fun s hs => ?_
      obtain ⟨path, hmem, rfl⟩ := List.mem_map.mp hs
      exact (isToken_columnText (hpath path hmem)).areInert

theorem JoinKind.areInert_keyword (k : JoinKind) : AreInert k.keyword.toList := by
  cases k <;> decide

theorem JoinClause.areInert_text {j : JoinClause} (h : ∀ name ∈ j.names, IsDotted name) :
    AreInert j.text.toList := by
  obtain ⟨hp, hs, hpk, hfk⟩ : IsDotted j.primaryTable ∧ IsDotted j.secondaryTable ∧
      IsDotted j.primaryKey ∧ IsDotted j.foreignKey := by simpa [names] using h
  have hblank : AreInert " ".toList := by decide
  have hdot : AreInert ".".toList := by decide
  simp only [text, String.toList_append, areInert_append, and_assoc]
  exact ⟨j.kind.areInert_keyword, hblank, hs.areInert, by decide, hp.areInert, hdot,
    hpk.areInert, by decide, hs.areInert, hdot, hfk.areInert⟩

theorem areInert_joinsSql {joins : List JoinClause} {text : String}
    (h : joinsSql joins = .ok text) (hnames : ∀ j ∈ joins, ∀ name ∈ j.names, IsDotted name) :
    AreInert text.toList := by
  induction joins generalizing text with
  | nil =>
      cases h
      decide
  | cons j joins ih =>
      obtain ⟨first, hfirst, h⟩ := bind_eq_ok_iff.mp h
      obtain ⟨rest, hrest, h⟩ := bind_eq_ok_iff.mp h
      cases h
      rw [List.forall_mem_cons] at hnames
      have htext : first = j.text := by
        unfold JoinClause.sql at hfirst
        split at hfirst <;> cases hfirst
        rfl
      simp only [String.toList_append, areInert_append]
      exact ⟨⟨by decide, htext ▸ JoinClause.areInert_text hnames.1⟩, ih hrest hnames.2⟩

/-- The fragments of a statement that selects: what stands before the condition, and the
condition. -/
def selectFragments (dialect : Dialect) (head : String) : Option Condition → List Fragment
  | none => [.plain head.toList]
  | some c => .plain (head ++ " WHERE ").toList :: c.fragments dialect

theorem textOf_selectFragments (dialect : Dialect) (head : String) (condition : Option Condition) :
    textOf (selectFragments dialect head condition) =
      (head ++ whereClause dialect condition).toList := by
  cases condition with
  | none => simp [selectFragments, whereClause]
  | some c => simp [selectFragments, whereClause, Condition.textOf_fragments]

section Select

variable (dialect : Dialect) {head : String} {predicate : Option Expr}
  {condition : Option Condition}

theorem isScannable_selectFragments (hhead : AreInert head.toList)
    (h : conditionOf? predicate = .ok condition)
    (hcompared : ∀ p ∈ predicate, ∀ name ∈ p.columnNames, IsDotted name)
    (hdeferred : ∀ p ∈ predicate, ∀ name ∈ p.deferredNames, IsWord name) :
    IsScannable (selectFragments dialect head condition) := by
  cases predicate with
  | none =>
      cases h
      exact ⟨hhead, trivial⟩
  | some p =>
      obtain ⟨c, hc, rfl⟩ := map_eq_ok_iff.mp h
      refine ⟨?_, Condition.isScannable_fragments dialect hc (hcompared p rfl) (hdeferred p rfl)⟩
      rw [String.toList_append, areInert_append]
      exact ⟨hhead, by decide⟩

theorem namesOf_selectFragments :
    (conditionBindings condition).map (·.name) =
      firstOccurrences (namesOf (selectFragments dialect head condition)) := by
  cases condition with
  | none => rfl
  | some c =>
      rw [conditionBindings, Binding.map_name_map_deferred, Condition.placeholders, selectFragments,
        namesOf_cons_plain, Condition.namesOf_fragments]

theorem filter_selectFragments (h : conditionOf? predicate = .ok condition) :
    (selectFragments dialect head condition).filter Fragment.isMarked =
      (predicate.map Expr.operandFragments).getD [] := by
  cases predicate with
  | none =>
      cases h
      rfl
  | some p =>
      obtain ⟨c, hc, rfl⟩ := map_eq_ok_iff.mp h
      exact Condition.filter_fragments dialect hc

omit dialect in
/-- A deferred name stands among the bindings at the place of its name. -/
theorem getElem?_conditionBindings (h : conditionOf? predicate = .ok condition) {p : Expr}
    (hp : p ∈ predicate) {name : String} (hname : name ∈ p.deferredNames) :
    (conditionBindings condition)[((conditionBindings condition).map (·.name)).idxOf name]? =
      some (.deferred name) := by
  obtain rfl : predicate = some p := hp
  obtain ⟨c, hc, rfl⟩ := map_eq_ok_iff.mp h
  have hnames : (conditionBindings (some c)).map (·.name) = c.placeholders :=
    Binding.map_name_map_deferred _
  have hmem : name ∈ c.placeholders := by
    rw [Condition.placeholders, mem_firstOccurrences, Condition.occurrences_ofExpr hc]
    exact hname
  have hlt := List.idxOf_lt_length_of_mem hmem
  rw [hnames, conditionBindings, List.getElem?_map, List.getElem?_eq_getElem hlt,
    List.getElem_idxOf hlt, Option.map_some]

end Select

/-- The scanner and the compiler agree on every select statement. -/
theorem numberPlaceholders_compileSelect (dialect : Dialect) (entity : Descriptor)
    (projection predicate : Option Expr) (joins : List JoinClause) {s : Statement}
    (h : compileSelect dialect entity projection predicate joins = .ok s)
    (hnames : AreNames entity projection predicate joins) :
    (numberPlaceholders s.sql s.names).order = List.range s.bindings.length ∧
      (∀ name, .placeholder name ∉ pieces (numberPlaceholders s.sql s.names).sql) ∧
      (∀ p ∈ predicate, ∀ name ∈ p.deferredNames,
        s.bindings[s.names.idxOf name]? = some (.deferred name)) ∧
      ∃ fs : List Fragment, s.sql.toList = textOf fs ∧
        (numberPlaceholders s.sql s.names).sql = textOf (fs.map (Fragment.number s.names)) ∧
        fs.filter Fragment.isMarked = (predicate.map Expr.operandFragments).getD [] ∧
        ∀ t, .plain t ∈ fs → AreInert t := by
  obtain ⟨columns, hprojection, h⟩ := bind_eq_ok_iff.mp h
  obtain ⟨joinText, hjoins, h⟩ := bind_eq_ok_iff.mp h
  obtain ⟨condition, hcondition, h⟩ := bind_eq_ok_iff.mp h
  cases h
  have hhead : AreInert ("SELECT " ++ columns ++ " FROM " ++ entity.table ++ joinText).toList := by
    simp only [String.toList_append, areInert_append, and_assoc]
    exact ⟨by decide, areInert_columnList hprojection hnames.projected, by decide,
      hnames.table.areInert, areInert_joinsSql hjoins hnames.joined⟩
  have hscan := isScannable_selectFragments dialect hhead hcondition hnames.compared
    hnames.deferred
  have hnumber := numberPlaceholders_textOf hscan (textOf_selectFragments dialect _ _).symm
    (namesOf_selectFragments dialect)
  refine ⟨?_, fun name => ?_, fun p hp name => getElem?_conditionBindings hcondition hp,
    _, (textOf_selectFragments dialect _ _).symm, congrArg Numbered.sql hnumber,
    filter_selectFragments dialect hcondition, fun t ht => hscan.areInert_of_mem ht⟩
  · exact (congrArg Numbered.order hnumber).trans (by rw [List.length_map]; rfl)
  · exact congrArg Numbered.sql hnumber ▸ not_mem_pieces_number hscan _ name

/-- A predicate that defers a name twice, behind a literal that looks like a placeholder. -/
def repeatedPredicate : Expr :=
  .binary .orElse
    (.binary .andAlso
      (.binary .equal (.member .row "name") (.constant (.text "it's @owner")))
      (.binary .greaterThan (.member (.member .row "home") "id") (.convert (.param "owner"))))
    (.binary .andAlso
      (.binary .equal (.member .row "age") (.member .row "age"))
      (.binary .notEqual (.member .row "id") (.param "owner")))

theorem numberPlaceholders_compileSelect_repeatedPredicate :
    ∃ s, compileSelect .tSql ⟨"town.people", []⟩ (some (.member .row "name"))
        (some repeatedPredicate) [⟨.left, "people", "homes", "home", "id"⟩] = .ok s ∧
      (numberPlaceholders s.sql s.names).order = List.range s.bindings.length ∧
      (∀ name, .placeholder name ∉ pieces (numberPlaceholders s.sql s.names).sql) ∧
      (∀ p ∈ some repeatedPredicate, ∀ name ∈ p.deferredNames,
        s.bindings[s.names.idxOf name]? = some (.deferred name)) ∧
      ∃ fs : List Fragment, s.sql.toList = textOf fs ∧
        (numberPlaceholders s.sql s.names).sql = textOf (fs.map (Fragment.number s.names)) ∧
        fs.filter Fragment.isMarked =
          ((some repeatedPredicate).map Expr.operandFragments).getD [] ∧
        ∀ t, .plain t ∈ fs → AreInert t :=
  ⟨_, rfl, numberPlaceholders_compileSelect .tSql ⟨"town.people", []⟩ (some (.member .row "name"))
    (some repeatedPredicate) [⟨.left, "people", "homes", "home", "id"⟩] rfl
    ⟨by decide, by decide, by decide, by decide, by decide⟩⟩

end EntitySql
