import EntitySql.Proofs.Condition.Clause
import EntitySql.Proofs.Condition.Comparison
import EntitySql.Proofs.Literal
import EntitySql.Query.Select

/-!
# Conditions are read back

The text of a compiled condition is read back as the predicate that it was compiled from: the same
tree of connectives, and in each comparison the same column, the sign of the same operator, and the
same right side. Nothing that a literal holds can end it early, so no literal changes the reading of
anything but itself.

## Main definitions

* `Clause.Describes` : a clause says what a predicate says.

## Main results

* `Clause.Describes.unique` : a predicate is described by at most one clause.
* `isReadBack_of_ofExpr` : the text of an accepted predicate is read as a clause that describes it.
* `ofText?_compileSelect` : the same for the condition of a select statement.
-/

namespace EntitySql

open Text

/-! ### What a clause says -/

/-- How SQL spells the operators that compare. -/
def BinaryOp.sign? : BinaryOp → Option String
  | equal => some "="
  | notEqual => some "<>"
  | lessThan => some "<"
  | lessThanOrEqual => some "<="
  | greaterThan => some ">"
  | greaterThanOrEqual => some ">="
  | _ => none

/-- The names between the dots of a column. -/
def columnParts (path : ColumnPath) : List (List Char) :=
  path.flatMap fun name => List.splitOn '.' name.toList

/-- The literal of a value as it is read: the text between its quotes, or its token. -/
def Value.clauseOperand (dialect : Dialect) (v : Value) : ClauseOperand :=
  match v.quotedText? with
  | some t => .quoted t
  | none => .bare (v.literal dialect).toList

/-- A clause says what a predicate says: connective by connective and comparison by comparison. Only
equality with null has a form of its own. -/
inductive Clause.Describes (dialect : Dialect) : Clause → Expr → Prop
  | and {left right lhs rhs} (hl : Describes dialect left lhs) (hr : Describes dialect right rhs) :
      Describes dialect (.and left right) (.binary .andAlso lhs rhs)
  | or {left right lhs rhs} (hl : Describes dialect left lhs) (hr : Describes dialect right rhs) :
      Describes dialect (.or left right) (.binary .orElse lhs rhs)
  | isNull {lhs rhs path} (hl : lhs.IsColumnOf path)
      (hr : rhs.unconverted.literal? = some .null) :
      Describes dialect (.isNull (columnParts path)) (.binary .equal lhs rhs)
  | isNotNull {lhs rhs path} (hl : lhs.IsColumnOf path)
      (hr : rhs.unconverted.literal? = some .null) :
      Describes dialect (.isNotNull (columnParts path)) (.binary .notEqual lhs rhs)
  | literal {op sign lhs rhs path v} (hop : op.sign? = some sign) (hl : lhs.IsColumnOf path)
      (hr : rhs.unconverted.literal? = some v)
      (hnull : v = .null → op ≠ .equal ∧ op ≠ .notEqual) :
      Describes dialect (.compare (columnParts path) sign.toList (v.clauseOperand dialect))
        (.binary op lhs rhs)
  | placeholder {op sign lhs rhs path name} (hop : op.sign? = some sign)
      (hl : lhs.IsColumnOf path) (hr : rhs.unconverted.deferred? = some name) :
      Describes dialect (.compare (columnParts path) sign.toList (.placeholder name.toList))
        (.binary op lhs rhs)

theorem BinaryOp.sign?_eq_some {op : BinaryOp} {c : Comparison} (h : op.comparison? = some c) :
    op.sign? = some c.sql := by
  cases op <;> cases h <;> rfl

theorem Expr.literal?_eq_none_of_deferred? {e : Expr} {name : String}
    (h : e.deferred? = some name) : e.literal? = none := by
  cases e with
  | member target =>
      cases target with
      | row => rfl
      | _ => cases h
  | param => rfl
  | _ => cases h

/-- A predicate is described by at most one clause. -/
theorem Clause.Describes.unique {dialect : Dialect} {clause other : Clause} {p : Expr}
    (h : clause.Describes dialect p) (h' : other.Describes dialect p) : other = clause := by
  induction h generalizing other with
  | and _ _ ihl ihr =>
      cases h' with
      | and hl' hr' => rw [ihl hl', ihr hr']
      | literal hop | placeholder hop => cases hop
  | or _ _ ihl ihr =>
      cases h' with
      | or hl' hr' => rw [ihl hl', ihr hr']
      | literal hop | placeholder hop => cases hop
  | isNull hl hr =>
      cases h' with
      | isNull hl' => rw [hl.unique hl']
      | literal _ _ hr' hnull =>
          cases hr.symm.trans hr'
          exact absurd rfl (hnull rfl).1
      | placeholder _ _ hr' => cases hr.symm.trans (Expr.literal?_eq_none_of_deferred? hr')
  | isNotNull hl hr =>
      cases h' with
      | isNotNull hl' => rw [hl.unique hl']
      | literal _ _ hr' hnull =>
          cases hr.symm.trans hr'
          exact absurd rfl (hnull rfl).2
      | placeholder _ _ hr' => cases hr.symm.trans (Expr.literal?_eq_none_of_deferred? hr')
  | literal hop hl hr hnull =>
      cases h' with
      | and | or => cases hop
      | isNull _ hr' =>
          cases hr.symm.trans hr'
          exact absurd rfl (hnull rfl).1
      | isNotNull _ hr' =>
          cases hr.symm.trans hr'
          exact absurd rfl (hnull rfl).2
      | literal hop' hl' hr' =>
          cases hop.symm.trans hop'
          cases hr.symm.trans hr'
          rw [hl.unique hl']
      | placeholder _ _ hr' => cases hr.symm.trans (Expr.literal?_eq_none_of_deferred? hr')
  | placeholder hop hl hr =>
      have hnone := Expr.literal?_eq_none_of_deferred? hr
      cases h' with
      | and | or => cases hop
      | isNull _ hr' | isNotNull _ hr' | literal _ _ hr' => cases hnone.symm.trans hr'
      | placeholder hop' hl' hr' =>
          cases hop.symm.trans hop'
          cases hr.symm.trans hr'
          rw [hl.unique hl']

/-! ### Reading comparisons -/

theorem splitOn_columnText {path : ColumnPath} (h : path ≠ []) :
    List.splitOn '.' (columnText path).toList = columnParts path :=
  splitOn_toList_intercalate path h

theorem readOperand_placeholder {name : List Char} (h : IsToken name)
    (rest : List Char) :
    readOperand ('@' :: name ++ ')' :: rest) = some (.placeholder name, rest) := by
  rw [List.cons_append, readOperand, readUpTo_append fun c hc => (h c hc).2.2.2]
  rfl

theorem readOperand_bare {token : List Char} (h : IsToken token)
    (rest : List Char) : readOperand (token ++ ')' :: rest) = some (.bare token, rest) := by
  have hread := readUpTo_append (fun c hc => (h c hc).2.2.2) rest
  rw [readOperand]
  · rw [hread]
    rfl
  · intro cs hcs
    cases token with
    | nil => cases hcs
    | cons c token =>
        cases hcs
        exact absurd rfl (h '@' List.mem_cons_self).1.2
  · intro cs hcs
    cases token with
    | nil => cases hcs
    | cons c token =>
        cases hcs
        exact absurd rfl (h '\'' List.mem_cons_self).1.1

theorem readOperand_literal (v : Value) (dialect : Dialect) (rest : List Char) :
    readOperand ((v.literal dialect).toList ++ ')' :: rest) =
      some (v.clauseOperand dialect, rest) := by
  cases hq : v.quotedText? with
  | none =>
      rw [Value.clauseOperand, hq]
      exact readOperand_bare (Value.isToken_literal hq dialect) rest
  | some text =>
      have hquoted : (v.literal dialect).toList ++ ')' :: rest =
          '\'' :: (doubleQuotes text ++ '\'' :: ')' :: rest) := by
        simp [Value.literal_eq_sqlQuoted hq, sqlQuoted]
      have hclose : ∀ cs, ')' :: rest ≠ '\'' :: cs := by simp
      rw [hquoted, readOperand, readQuoted_doubleQuotes text hclose, Value.clauseOperand, hq]
      rfl

section Comparison

variable {path : ColumnPath} (hpath : path ≠ []) (hdotted : ∀ name ∈ path, IsDotted name)

include hpath hdotted

theorem readComparison_operator {operator text : List Char} {operand : ClauseOperand}
    (hop : ∀ c ∈ operator, c ≠ ' ') (his : operator ≠ ['I', 'S']) {rest : List Char}
    (h : readOperand text = some (operand, rest)) :
    readComparison ((columnText path).toList ++ ' ' :: (operator ++ ' ' :: text)) =
      some (.compare (columnParts path) operator operand, rest) := by
  have hcolumn (cs : List Char) :=
    readUpTo_append (fun c hc => (isToken_columnText hdotted c hc).2.1) cs
  simp only [readComparison, hcolumn, readUpTo_append hop, Option.bind_eq_bind, Option.bind_some,
    if_neg his, h, splitOn_columnText hpath]

theorem readComparison_null {test : List Char} (htest : ∀ c ∈ test, c ≠ ')') {clause : Clause}
    (h : nullTest? (columnParts path) test = some clause) (rest : List Char) :
    readComparison ((columnText path).toList ++ ' ' :: 'I' :: 'S' :: ' ' :: (test ++ ')' :: rest)) =
      some (clause, rest) := by
  have hcolumn (cs : List Char) :=
    readUpTo_append (fun c hc => (isToken_columnText hdotted c hc).2.1) cs
  have his (cs : List Char) : readUpTo ' ' ('I' :: 'S' :: ' ' :: cs) = some (['I', 'S'], cs) := by
    simp [readUpTo]
  simp only [readComparison, hcolumn, his, readUpTo_append htest, Option.bind_eq_bind,
    Option.bind_some, if_true, splitOn_columnText hpath, h, Option.map_some]

end Comparison

/-! ### Reading groups -/

/-- A text is read as a clause, whatever follows it. -/
def ReadsAs (text : List Char) (clause : Clause) : Prop :=
  ∀ n rest, text.length ≤ n → readGroup n (text ++ rest) = some (clause, rest)

/-- What is read as a clause starts with a parenthesis. -/
theorem ReadsAs.exists_eq_cons {text : List Char} {clause : Clause} (h : ReadsAs text clause) :
    ∃ cs, text = '(' :: cs := by
  have hread := h text.length [] (Nat.le_refl _)
  rw [List.append_nil] at hread
  cases text with
  | nil => cases hread
  | cons c cs =>
      by_cases hc : c = '('
      · exact ⟨cs, by rw [hc]⟩
      · rw [readGroup] at hread
        · cases hread
        · exact fun _ _ _ hcs => hc (List.cons.inj hcs).1
        · exact fun _ _ _ hcs => hc (List.cons.inj hcs).1

/-- Two groups with a connective between them are one group. -/
theorem ReadsAs.group {left right : List Char} {l r : Clause} (hl : ReadsAs left l)
    (hr : ReadsAs right r) {word : List Char} {connect : Clause → Clause → Clause}
    (hword : ∀ cs, readConnective (word ++ cs) = some (connect, cs)) :
    ReadsAs ('(' :: (left ++ (word ++ (right ++ [')'])))) (connect l r) := by
  intro n rest hn
  simp only [List.length_cons, List.length_append] at hn
  obtain ⟨cs, hcs⟩ := hl.exists_eq_cons
  obtain ⟨depth, rfl⟩ : ∃ depth, n = depth + 1 := ⟨n - 1, by omega⟩
  have htext : '(' :: (left ++ (word ++ (right ++ [')']))) ++ rest =
      '(' :: '(' :: (cs ++ (word ++ (right ++ ')' :: rest))) := by simp [hcs]
  have hleft : readGroup depth ('(' :: (cs ++ (word ++ (right ++ ')' :: rest)))) =
      some (l, word ++ (right ++ ')' :: rest)) := by
    rw [← List.cons_append, ← hcs]
    exact hl depth _ (by omega)
  have hright : readGroup depth (right ++ ')' :: rest) = some (r, ')' :: rest) :=
    hr depth _ (by omega)
  rw [htext, readGroup]
  simp only [hleft, hword, hright, Option.bind_eq_bind, Option.bind_some]

/-- A comparison in parentheses is a group, unless its column starts with a parenthesis. -/
theorem readsAs_comparison {text : List Char} {clause : Clause} (hne : ∀ cs, text ≠ '(' :: cs)
    (h : ∀ rest, readComparison (text ++ rest) = some (clause, rest)) :
    ReadsAs ('(' :: text) clause := by
  intro n rest hn
  rw [List.length_cons] at hn
  obtain ⟨depth, rfl⟩ : ∃ depth, n = depth + 1 := ⟨n - 1, by omega⟩
  rw [List.cons_append, readGroup]
  · exact h rest
  · intro cs hcs
    cases text with
    | nil =>
        have hnone : readComparison ([] ++ []) = none := rfl
        rw [h []] at hnone
        cases hnone
    | cons c text =>
        obtain ⟨rfl, -⟩ := List.cons.inj hcs
        exact hne text rfl

/-! ### Compiled conditions -/

/-- The sign of a comparison is not the word that begins a test for null. -/
theorem Comparison.sql_ne_is (c : Comparison) : c.sql.toList ≠ ['I', 'S'] := by
  cases c <;> decide

theorem columnText_ne_cons {path : ColumnPath} (hdotted : ∀ name ∈ path, IsDotted name)
    (text cs : List Char) : (columnText path).toList ++ ' ' :: text ≠ '(' :: cs := by
  intro h
  cases hc : (columnText path).toList with
  | nil =>
      rw [hc] at h
      cases h
  | cons c column =>
      rw [hc] at h
      obtain ⟨rfl, -⟩ := List.cons.inj h
      have htoken := isToken_columnText hdotted '(' (hc ▸ List.mem_cons_self)
      exact htoken.2.2.1 rfl

section Compare

variable {dialect : Dialect} {c : Comparison} {path : ColumnPath} (hpath : path ≠ [])
  (hdotted : ∀ name ∈ path, IsDotted name)

include hpath hdotted

/-- A comparison whose right side is written as an operand is read back. -/
theorem readsAs_operator {text : List Char} {operand : ClauseOperand}
    (h : ∀ rest, readOperand (text ++ ')' :: rest) = some (operand, rest)) :
    ReadsAs ('(' :: ((columnText path).toList ++ ' ' :: (c.sql.toList ++ ' ' :: (text ++ [')']))))
      (.compare (columnParts path) c.sql.toList operand) := by
  have hblank : ∀ x ∈ c.sql.toList, x ≠ ' ' := fun x hx => (c.isToken_sql x hx).2.1
  refine readsAs_comparison (columnText_ne_cons hdotted _) fun rest => ?_
  have hread := readComparison_operator hpath hdotted hblank c.sql_ne_is (h rest)
  simpa using hread

/-- A test for null is read back. -/
theorem readsAs_null {test : List Char} {clause : Clause} (htest : ∀ x ∈ test, x ≠ ')')
    (h : nullTest? (columnParts path) test = some clause) :
    ReadsAs ('(' :: ((columnText path).toList ++ ' ' :: 'I' :: 'S' :: ' ' :: (test ++ [')'])))
      clause := by
  refine readsAs_comparison (columnText_ne_cons hdotted _) fun rest => ?_
  have hread := readComparison_null hpath hdotted htest h rest
  simpa using hread

theorem readsAs_literal (v : Value) (h : v = .null → c ≠ .equal ∧ c ≠ .notEqual) :
    ReadsAs ((Condition.compare path c (.literal v)).sql dialect).toList
      (.compare (columnParts path) c.sql.toList (v.clauseOperand dialect)) := by
  have htest : Operand.test dialect c (.literal v) = c.sql ++ " " ++ v.literal dialect := by
    unfold Operand.test
    split
    · next hv => exact absurd rfl (h (by cases hv; rfl)).1
    · next hv => exact absurd rfl (h (by cases hv; rfl)).2
    · next hv => cases hv; rfl
    · next hv => cases hv
  have htext : ((Condition.compare path c (.literal v)).sql dialect).toList =
      '(' :: ((columnText path).toList ++
        ' ' :: (c.sql.toList ++ ' ' :: ((v.literal dialect).toList ++ [')']))) := by
    simp [Condition.sql, htest]
  rw [htext]
  exact readsAs_operator hpath hdotted fun rest => readOperand_literal v dialect rest

theorem readsAs_placeholder {name : String} (hname : IsDotted name) :
    ReadsAs ((Condition.compare path c (.placeholder name)).sql dialect).toList
      (.compare (columnParts path) c.sql.toList (.placeholder name.toList)) := by
  have htext : ((Condition.compare path c (.placeholder name)).sql dialect).toList =
      '(' :: ((columnText path).toList ++
        ' ' :: (c.sql.toList ++ ' ' :: ('@' :: name.toList ++ [')']))) := by
    simp [Condition.sql, Operand.test]
  rw [htext]
  exact readsAs_operator hpath hdotted fun rest => by
    simpa using readOperand_placeholder hname.isToken rest

end Compare

/-- An accepted comparison is read back. -/
theorem exists_readsAs_compare (dialect : Dialect) {op : BinaryOp} {c : Comparison}
    {lhs rhs : Expr} {path : ColumnPath} {operand : Operand} (hop : op.comparison? = some c)
    (hl : lhs.IsColumnOf path) (hr : Operand.ofExpr rhs = .ok operand)
    (hcolumns : ∀ name ∈ path, IsDotted name)
    (hdeferred : ∀ name ∈ operand.placeholders, IsDotted name) :
    ∃ clause, ReadsAs ((Condition.compare path c operand).sql dialect).toList clause ∧
      clause.Describes dialect (.binary op lhs rhs) := by
  have hpath := hl.1
  have hsign := BinaryOp.sign?_eq_some hop
  cases operand with
  | placeholder name =>
      have hname := hdeferred name List.mem_cons_self
      exact ⟨_, readsAs_placeholder hpath hcolumns hname,
        .placeholder hsign hl (Operand.ofExpr_eq_placeholder_iff.mp hr)⟩
  | literal v =>
      have hv := Operand.ofExpr_eq_literal_iff.mp hr
      by_cases hnull : v = .null ∧ (c = .equal ∨ c = .notEqual)
      · obtain ⟨rfl, rfl | rfl⟩ := hnull
        · have htext : ((Condition.compare path .equal (.literal .null)).sql dialect).toList =
              '(' :: ((columnText path).toList ++
                ' ' :: 'I' :: 'S' :: ' ' :: ("NULL".toList ++ [')'])) := by
            simp [Condition.sql, Operand.test]
          obtain rfl : op = .equal := by cases op <;> cases hop; rfl
          exact ⟨_, htext ▸ readsAs_null hpath hcolumns (by simp) rfl, .isNull hl hv⟩
        · have htext : ((Condition.compare path .notEqual (.literal .null)).sql dialect).toList =
              '(' :: ((columnText path).toList ++
                ' ' :: 'I' :: 'S' :: ' ' :: ("NOT NULL".toList ++ [')'])) := by
            simp [Condition.sql, Operand.test]
          obtain rfl : op = .notEqual := by cases op <;> cases hop; rfl
          exact ⟨_, htext ▸ readsAs_null hpath hcolumns (by simp) rfl, .isNotNull hl hv⟩
      · refine ⟨_, readsAs_literal hpath hcolumns v fun h => ?_, .literal hsign hl hv fun h => ?_⟩
        · exact not_or.mp fun hc => hnull ⟨h, hc⟩
        · refine not_or.mp fun hc => hnull ⟨h, ?_⟩
          rcases hc with rfl | rfl
          · exact Or.inl (Option.some.inj hop).symm
          · exact Or.inr (Option.some.inj hop).symm

/-- The text of a condition is read as a clause that describes its predicate, provided that all
names are read as a whole. -/
def IsReadBack (dialect : Dialect) (p : Expr) (c : Condition) : Prop :=
  (∀ name ∈ p.columnNames, IsDotted name) → (∀ name ∈ p.deferredNames, IsDotted name) →
    ∃ clause, ReadsAs (c.sql dialect).toList clause ∧ clause.Describes dialect p

/-- Two conditions that are read back can stand on both sides of a connective. -/
theorem IsReadBack.exists_group {dialect : Dialect} {lhs rhs : Expr} {left right : Condition}
    (hl : IsReadBack dialect lhs left) (hr : IsReadBack dialect rhs right)
    (hcolumns : ∀ name ∈ lhs.columnNames ++ rhs.columnNames, IsDotted name)
    (hdeferred : ∀ name ∈ lhs.deferredNames ++ rhs.deferredNames, IsDotted name)
    (word : String) {connect : Clause → Clause → Clause}
    (hword : ∀ cs, readConnective (word.toList ++ cs) = some (connect, cs)) :
    ∃ l r, ReadsAs ("(" ++ left.sql dialect ++ word ++ right.sql dialect ++ ")").toList
        (connect l r) ∧
      l.Describes dialect lhs ∧ r.Describes dialect rhs := by
  obtain ⟨hcl, hcr⟩ := List.forall_mem_append.mp hcolumns
  obtain ⟨hdl, hdr⟩ := List.forall_mem_append.mp hdeferred
  obtain ⟨l, hreadl, hdescl⟩ := hl hcl hdl
  obtain ⟨r, hreadr, hdescr⟩ := hr hcr hdr
  refine ⟨l, r, ?_, hdescl, hdescr⟩
  have hgroup := hreadl.group hreadr hword
  simpa using hgroup

/-- The text of an accepted predicate is read as a clause that describes it. -/
theorem isReadBack_of_ofExpr (dialect : Dialect) {p : Expr} {c : Condition}
    (h : Condition.ofExpr p = .ok c) : IsReadBack dialect p c := by
  refine Condition.ofExpr_induction (motive := IsReadBack dialect) ?and ?or ?compare h
  case and =>
    intro lhs rhs left right ihl ihr hcolumns hdeferred
    obtain ⟨l, r, hread, hl, hr⟩ :=
      ihl.exists_group ihr hcolumns hdeferred " AND " fun _ => rfl
    exact ⟨.and l r, hread, .and hl hr⟩
  case or =>
    intro lhs rhs left right ihl ihr hcolumns hdeferred
    obtain ⟨l, r, hread, hl, hr⟩ :=
      ihl.exists_group ihr hcolumns hdeferred " OR " fun _ => rfl
    exact ⟨.or l r, hread, .or hl hr⟩
  case compare =>
    intro op c lhs rhs path operand hop hl hr hcolumns hdeferred
    have hcolumnNames : Expr.columnNames (.binary op lhs rhs) = path := by
      rw [Expr.columnNames, Expr.collect_compare _ hop, hl.unchained_eq]
    have hdeferredNames : Expr.deferredNames (.binary op lhs rhs) = operand.placeholders := by
      rw [Expr.deferredNames, Expr.collect_compare _ hop, operand.placeholders_ofExpr hr]
    exact exists_readsAs_compare dialect hop hl hr (hcolumnNames ▸ hcolumns)
      (hdeferredNames ▸ hdeferred)

/-! ### Select statements -/

/-- The text of a compiled condition denotes the clause that describes its predicate, and the rest
of the statement is that of the statement without the predicate. -/
theorem ofText?_compileSelect (dialect : Dialect) (entity : Descriptor) (projection : Option Expr)
    (p : Expr) (joins : List JoinClause) {s : Statement}
    (h : compileSelect dialect entity projection (some p) joins = .ok s)
    (hcolumns : ∀ name ∈ p.columnNames, IsDotted name)
    (hdeferred : ∀ name ∈ p.deferredNames, IsDotted name) :
    ∃ bare text clause, compileSelect dialect entity projection none joins = .ok bare ∧
      s.sql = bare.sql ++ " WHERE " ++ text ∧ Clause.ofText? text.toList = some clause ∧
      clause.Describes dialect p ∧
      ∀ other : Clause, other.Describes dialect p → other = clause := by
  obtain ⟨columns, hprojection, h⟩ := bind_eq_ok_iff.mp h
  obtain ⟨joinText, hjoins, h⟩ := bind_eq_ok_iff.mp h
  obtain ⟨condition, hcondition, h⟩ := bind_eq_ok_iff.mp h
  obtain ⟨c, hc, rfl⟩ := map_eq_ok_iff.mp hcondition
  obtain ⟨clause, hread, hdescribes⟩ :=
    isReadBack_of_ofExpr dialect hc hcolumns hdeferred
  have hbare : compileSelect dialect entity projection none joins = .ok (.compiled .select
      ("SELECT " ++ columns ++ " FROM " ++ entity.table ++ joinText ++ "") []) := by
    rw [compileSelect, hprojection, hjoins]
    rfl
  refine ⟨_, c.sql dialect, clause, hbare, ?_, ?_, hdescribes, fun other hother => ?_⟩
  · rw [← Except.ok.inj h]
    simp [Statement.compiled, whereClause, String.append_assoc]
  · have hgroup := hread _ [] (Nat.le_refl _)
    rw [List.append_nil] at hgroup
    rw [Clause.ofText?, hgroup]
  · exact hdescribes.unique hother

example : Clause.ofText? "((a.b = 'x'') OR (') AND (c IS NULL))".toList =
    some (.and (.compare [['a'], ['b']] ['='] (.quoted "x') OR (".toList)) (.isNull [['c']])) := by
  decide

/-- A predicate whose literals look like the text around them. -/
def hostilePredicate : Expr :=
  .binary .orElse
    (.binary .andAlso
      (.binary .equal (.member .row "name") (.constant (.text "x' OR (id = @id) AND ''='")))
      (.binary .notEqual (.convert (.member (.member .row "home") "city")) (.constant .null)))
    (.binary .greaterThan (.member .row "id") (.convert (.param "id")))

theorem ofText?_compileSelect_hostilePredicate :
    ∃ s, compileSelect .postgres ⟨"people", []⟩ none (some hostilePredicate) [] = .ok s ∧
      ∃ bare text clause, compileSelect .postgres ⟨"people", []⟩ none none [] = .ok bare ∧
        s.sql = bare.sql ++ " WHERE " ++ text ∧ Clause.ofText? text.toList = some clause ∧
        clause.Describes .postgres hostilePredicate ∧
        ∀ other : Clause, other.Describes .postgres hostilePredicate → other = clause :=
  ⟨_, rfl, ofText?_compileSelect .postgres ⟨"people", []⟩ none hostilePredicate [] rfl
    (by decide) (by decide)⟩

end EntitySql
