import EntitySql.Proofs.Query.Bindings
import EntitySql.Proofs.Text.Token
import EntitySql.Proofs.Traversal

/-!
# Parts of selections

A selection consists of a projection, of clauses that join tables, and of filters that are connected
from the left. Each part is accepted or refused on its own. The projection is looked at first, then
the clauses, then the filters, and the first part that is refused gives the error.

## Main definitions

* `connected?` : the members of a list connected from the left.
* `JoinClause.IsComplete`, `JoinClause.Lacks` : clauses whose parts all have names, and the error of
  other clauses.
* `Selection.Lists` : the columns that a projection stands for.
* `Selection.Compiles` : the statement of a selection, or its error, told by its parts.

## Main results

* `joinsSql_eq_ok_iff`, `joinsSql_eq_error_iff` : the texts of clauses.
* `conditionOf?_connected` : the condition of connected filters.
* `Selection.compiles_iff` : a selection is compiled as its parts say.
-/

namespace EntitySql

open Text

/-! ### Lists connected from the left -/

section Connected

variable {α β : Type} {connect : α → α → α}

/-- The members of a list connected from the left, as in `((a ∧ b) ∧ c) ∧ d`, if there are any. -/
def connected? (connect : α → α → α) : List α → Option α
  | [] => none
  | a :: as => some (as.foldl connect a)

theorem connected?_concat (as : List α) (a : α) :
    connected? connect (as ++ [a]) = some ((connected? connect as).elim a (connect · a)) := by
  cases as with
  | nil => rfl
  | cons b as => exact congrArg some (List.foldl_concat ..)

theorem map_connected? {f : α → β} {connect' : β → β → β}
    (h : ∀ a b, f (connect a b) = connect' (f a) (f b)) (as : List α) :
    (connected? connect as).map f = connected? connect' (as.map f) := by
  cases as with
  | nil => rfl
  | cons a as =>
      rw [connected?, Option.map_some, List.map_cons, connected?, List.foldl_map]
      exact congrArg some (List.foldl_hom f fun b c => (h b c).symm).symm

end Connected

/-! ### Clauses -/

namespace JoinClause

variable {j : JoinClause} {error : Error} {text : String}

/-- The parts of a clause that must have a name, in the order in which they are looked at. -/
def parts (j : JoinClause) : List (String × String) :=
  [("primary table", j.primaryTable), ("secondary table", j.secondaryTable),
    ("primary key", j.primaryKey), ("foreign key", j.foreignKey)]

/-- A clause whose parts all have names. -/
def IsComplete (j : JoinClause) : Prop :=
  ∀ part ∈ j.parts, part.2 ≠ ""

/-- The error of a clause that is not complete: it is told of the first part without a name. -/
def Lacks (j : JoinClause) (error : Error) : Prop :=
  ∃ i part, IsFirstAt (·.2 = "") j.parts i part ∧
    error = .validation ("join clause is missing its " ++ part.1)

theorem missingPart?_eq_find? (j : JoinClause) :
    j.missingPart? = (j.parts.find? (·.2 = "")).map Prod.fst := by
  simp only [missingPart?, parts, List.find?_cons, List.find?_nil]
  split_ifs <;> simp_all

theorem missingPart?_eq_none_iff : j.missingPart? = none ↔ j.IsComplete := by
  simp [missingPart?_eq_find?, IsComplete]

theorem missingPart?_eq_some_iff {name : String} :
    j.missingPart? = some name ↔
      ∃ i part, IsFirstAt (·.2 = "") j.parts i part ∧ part.1 = name := by
  rw [missingPart?_eq_find?, Option.map_eq_some_iff]
  simp only [find?_eq_some_iff_isFirstAt, decide_eq_true_eq]
  exact ⟨fun ⟨part, ⟨i, h⟩, hname⟩ => ⟨i, part, h, hname⟩,
    fun ⟨i, part, h, hname⟩ => ⟨part, ⟨i, h⟩, hname⟩⟩

theorem sql_eq_ok_iff : j.sql = .ok text ↔ j.IsComplete ∧ j.text = text := by
  rw [← missingPart?_eq_none_iff, sql]
  cases j.missingPart? <;> simp

theorem sql_eq_error_iff : j.sql = .error error ↔ j.Lacks error := by
  have hlacks : j.Lacks error ↔ ∃ name, j.missingPart? = some name ∧
      error = .validation ("join clause is missing its " ++ name) := by
    simp only [missingPart?_eq_some_iff]
    exact ⟨fun ⟨i, part, h, he⟩ => ⟨part.1, ⟨i, part, h, rfl⟩, he⟩,
      fun ⟨_, ⟨i, part, h, rfl⟩, he⟩ => ⟨i, part, h, he⟩⟩
  rw [hlacks, sql]
  cases j.missingPart? <;> simp [eq_comm]

theorem exists_lacks_iff : (∃ error, j.Lacks error) ↔ ¬ j.IsComplete := by
  simp only [← sql_eq_error_iff, ← missingPart?_eq_none_iff, sql]
  cases j.missingPart? <;> simp

end JoinClause

section Clauses

variable {js : List JoinClause} {text : String} {error : Error}

theorem joinsSql_eq_mapM (js : List JoinClause) :
    joinsSql js =
      (js.mapM JoinClause.sql).map fun texts => String.join (texts.map (" " ++ ·)) := by
  induction js with
  | nil => rfl
  | cons j js ih =>
      rw [joinsSql, ih, List.mapM_cons]
      cases j.sql with
      | error e => rfl
      | ok text =>
          cases js.mapM JoinClause.sql with
          | error e => rfl
          | ok texts => exact congrArg Except.ok (String.join_cons ..).symm

/-- Clauses are written one behind the other if all of them are complete. -/
theorem joinsSql_eq_ok_iff : joinsSql js = .ok text ↔
    (∀ j ∈ js, j.IsComplete) ∧ text = String.join (js.map fun j => " " ++ j.text) := by
  have htexts (texts : List String) : js.mapM JoinClause.sql = .ok texts ↔
      (∀ j ∈ js, j.IsComplete) ∧ js.map JoinClause.text = texts := by
    rw [mapM_eq_ok_iff]
    simp only [JoinClause.sql_eq_ok_iff]
    rw [List.forall₂_and_left, ← List.forall₂_map_left_iff, List.forall₂_eq_eq_eq]
  rw [joinsSql_eq_mapM, map_eq_ok_iff]
  simp only [htexts, and_assoc, exists_and_left, exists_eq_left', List.map_map, eq_comm (b := text)]
  rfl

/-- Clauses are refused for the first one that is not complete. -/
theorem joinsSql_eq_error_iff : joinsSql js = .error error ↔
    ∃ i j, IsFirstAt (¬ ·.IsComplete) js i j ∧ j.Lacks error := by
  rw [joinsSql_eq_mapM, map_eq_error_iff, mapM_eq_error_iff, IsFirstError]
  simp only [JoinClause.sql_eq_error_iff, JoinClause.exists_lacks_iff]

end Clauses

/-! ### Filters -/

/-- The connection of the texts of two conditions. -/
def conjunctionText (left right : String) : String :=
  "(" ++ left ++ " AND " ++ right ++ ")"

theorem Condition.ofExpr_foldl (e : Expr) (es : List Expr) :
    Condition.ofExpr (es.foldl (.binary .andAlso) e) =
      (do let c ← Condition.ofExpr e
          let cs ← es.mapM Condition.ofExpr
          return cs.foldl .and c) := by
  induction es generalizing e with
  | nil =>
      rw [List.foldl_nil, List.mapM_nil]
      cases Condition.ofExpr e <;> rfl
  | cons e' es ih =>
      rw [List.foldl_cons, ih, Condition.ofExpr, List.mapM_cons]
      cases Condition.ofExpr e with
      | error error => rfl
      | ok c =>
          cases Condition.ofExpr e' with
          | error error => rfl
          | ok c' => cases es.mapM Condition.ofExpr <;> rfl

/-- The condition of connected filters is the connection of their conditions. -/
theorem conditionOf?_connected (es : List Expr) :
    conditionOf? (connected? (.binary .andAlso) es) =
      (es.mapM Condition.ofExpr).map (connected? .and) := by
  cases es with
  | nil => rfl
  | cons e es =>
      rw [connected?, conditionOf?, Condition.ofExpr_foldl, List.mapM_cons]
      cases Condition.ofExpr e with
      | error error => rfl
      | ok c => cases es.mapM Condition.ofExpr <;> rfl

theorem whereClause_connected (dialect : Dialect) (cs : List Condition) :
    whereClause dialect (connected? .and cs) =
      (connected? conjunctionText (cs.map (·.sql dialect))).elim "" (" WHERE " ++ ·) := by
  have hsql (left right : Condition) : (left.and right).sql dialect =
      conjunctionText (left.sql dialect) (right.sql dialect) := rfl
  rw [← map_connected? hsql]
  cases connected? Condition.and cs <;> rfl

theorem Condition.occurrences_foldl (c : Condition) (cs : List Condition) :
    (cs.foldl .and c).occurrences = c.occurrences ++ cs.flatMap Condition.occurrences := by
  induction cs generalizing c with
  | nil => simp
  | cons c' cs ih =>
      rw [List.foldl_cons, ih, Condition.occurrences, List.flatMap_cons, List.append_assoc]

theorem conditionBindings_connected (cs : List Condition) :
    conditionBindings (connected? .and cs) =
      (firstOccurrences (cs.flatMap Condition.occurrences)).map .deferred := by
  cases cs with
  | nil => rfl
  | cons c cs =>
      rw [connected?, conditionBindings, Condition.placeholders, Condition.occurrences_foldl,
        List.flatMap_cons]

/-! ### Selections -/

section Select

variable {dialect : Dialect} {entity : Descriptor} {projection predicate : Option Expr}
  {joins : List JoinClause} {error : Error}

theorem compileSelect_eq_error_iff :
    compileSelect dialect entity projection predicate joins = .error error ↔
      columnList projection = .error error ∨ ∃ columns, columnList projection = .ok columns ∧
        (joinsSql joins = .error error ∨ ∃ joinText, joinsSql joins = .ok joinText ∧
          conditionOf? predicate = .error error) := by
  simp only [compileSelect, bind_eq_error_iff]
  simp

end Select

namespace Selection

variable {dialect : Dialect} {entity : Descriptor} {projection : Option Expr}
  {joins : List JoinClause} {filters : List Expr} {error : Error}

/-- The columns that a projection stands for; without a projection all of them. -/
inductive Lists : Option Expr → String → Prop
  | all : Lists none "*"
  | projected {p paths} (h : p.projectedColumns = .ok paths) :
      Lists (some p) (", ".intercalate (paths.map columnText))

theorem columnList_eq_ok_iff {columns : String} :
    columnList projection = .ok columns ↔ Lists projection columns := by
  cases projection with
  | none =>
      constructor
      · rintro ⟨⟩
        exact .all
      · rintro ⟨⟩
        rfl
  | some p =>
      rw [columnList, map_eq_ok_iff]
      constructor
      · rintro ⟨paths, h, rfl⟩
        exact .projected h
      · rintro ⟨⟩
        exact ⟨_, ‹_›, rfl⟩

theorem columnList_eq_error_iff :
    columnList projection = .error error ↔ ∃ p ∈ projection, p.projectedColumns = .error error := by
  cases projection <;> simp [columnList, map_eq_error_iff]

/-- The statement of a projection, clauses and filters that are accepted. The value of every
placeholder comes from the argument. -/
def statement (dialect : Dialect) (entity : Descriptor) (columns : String)
    (joins : List JoinClause) (conditions : List Condition) : Statement where
  kind := .select
  sql := "SELECT " ++ columns ++ " FROM " ++ entity.table ++
    String.join (joins.map fun j => " " ++ j.text) ++
    (connected? conjunctionText (conditions.map (·.sql dialect))).elim "" (" WHERE " ++ ·)
  bindings := (firstOccurrences (conditions.flatMap Condition.occurrences)).map fun name =>
    ⟨name, none⟩
  raw := false

/-- What a selection with a projection, clauses and filters is compiled to: a statement if each of
them is accepted, or the error of the projection, of the first clause that is not complete, or of
the first filter that is refused, whichever comes first. -/
inductive Compiles (dialect : Dialect) (entity : Descriptor) (projection : Option Expr)
    (joins : List JoinClause) (filters : List Expr) : Except Error Statement → Prop
  | accepted {columns conditions} (hprojection : Lists projection columns)
      (hjoins : ∀ j ∈ joins, j.IsComplete)
      (hfilters : List.Forall₂ (fun e c => Condition.ofExpr e = .ok c) filters conditions) :
      Compiles dialect entity projection joins filters
        (.ok (statement dialect entity columns joins conditions))
  | projection {p error} (hp : p ∈ projection) (h : p.projectedColumns = .error error) :
      Compiles dialect entity projection joins filters (.error error)
  | clause {columns i j error} (hprojection : Lists projection columns)
      (hfirst : IsFirstAt (¬ ·.IsComplete) joins i j) (h : j.Lacks error) :
      Compiles dialect entity projection joins filters (.error error)
  | filter {columns error} (hprojection : Lists projection columns)
      (hjoins : ∀ j ∈ joins, j.IsComplete) (h : IsFirstError Condition.ofExpr filters error) :
      Compiles dialect entity projection joins filters (.error error)

theorem compileSelect_connected_eq_ok_iff {s : Statement} :
    compileSelect dialect entity projection (connected? (.binary .andAlso) filters) joins = .ok s ↔
      ∃ columns conditions, Lists projection columns ∧ (∀ j ∈ joins, j.IsComplete) ∧
        filters.mapM Condition.ofExpr = .ok conditions ∧
        s = statement dialect entity columns joins conditions := by
  simp only [compileSelect_eq_ok_iff, columnList_eq_ok_iff, joinsSql_eq_ok_iff,
    conditionOf?_connected, map_eq_ok_iff]
  constructor
  · rintro ⟨columns, _, _, hcolumns, ⟨hjoins, rfl⟩, ⟨conditions, hfilters, rfl⟩, rfl⟩
    refine ⟨columns, conditions, hcolumns, hjoins, hfilters, ?_⟩
    rw [whereClause_connected, conditionBindings_connected]
    rfl
  · rintro ⟨columns, conditions, hcolumns, hjoins, hfilters, rfl⟩
    refine ⟨columns, _, _, hcolumns, ⟨hjoins, rfl⟩, ⟨conditions, hfilters, rfl⟩, ?_⟩
    rw [whereClause_connected, conditionBindings_connected]
    rfl

theorem compileSelect_connected_eq_error_iff :
    compileSelect dialect entity projection (connected? (.binary .andAlso) filters) joins =
        .error error ↔
      (∃ p ∈ projection, p.projectedColumns = .error error) ∨
      ∃ columns, Lists projection columns ∧
        ((∃ i j, IsFirstAt (¬ ·.IsComplete) joins i j ∧ j.Lacks error) ∨
          (∀ j ∈ joins, j.IsComplete) ∧ IsFirstError Condition.ofExpr filters error) := by
  rw [compileSelect_eq_error_iff, columnList_eq_error_iff, conditionOf?_connected,
    map_eq_error_iff, mapM_eq_error_iff]
  simp only [columnList_eq_ok_iff, joinsSql_eq_error_iff, joinsSql_eq_ok_iff, and_assoc,
    exists_and_left, exists_eq_left]

theorem exists_lists_iff :
    (∃ columns, Lists projection columns) ↔
      ∀ p ∈ projection, ∃ paths, p.projectedColumns = .ok paths := by
  constructor
  · rintro ⟨columns, _ | h⟩ p ⟨⟩
    exact ⟨_, h⟩
  · intro h
    cases projection with
    | none => exact ⟨_, .all⟩
    | some p =>
        obtain ⟨paths, hpaths⟩ := h p rfl
        exact ⟨_, .projected hpaths⟩

/-- A selection is accepted if each of its parts is. -/
theorem exists_compileSelect_connected_iff :
    (∃ s, compileSelect dialect entity projection (connected? (.binary .andAlso) filters) joins =
      .ok s) ↔
      (∀ p ∈ projection, ∃ paths, p.projectedColumns = .ok paths) ∧
        (∀ j ∈ joins, ∃ text, j.sql = .ok text) ∧
        ∀ e ∈ filters, ∃ c, Condition.ofExpr e = .ok c := by
  simp only [compileSelect_connected_eq_ok_iff, ← exists_lists_iff, ← exists_mapM_eq_ok_iff,
    JoinClause.sql_eq_ok_iff, exists_and_left, exists_eq', and_true]
  constructor
  · rintro ⟨_, columns, hprojection, hjoins, conditions, hfilters, -⟩
    exact ⟨⟨columns, hprojection⟩, hjoins, conditions, hfilters⟩
  · rintro ⟨⟨columns, hprojection⟩, hjoins, conditions, hfilters⟩
    exact ⟨_, columns, hprojection, hjoins, conditions, hfilters, rfl⟩

/-- With a further filter a selection is accepted only if it is accepted without it, and the
placeholders of that filter are bound behind those that are there. -/
theorem exists_bindings_prefix_of_concat {e : Expr} {s' : Statement}
    (h : compileSelect dialect entity projection
      (connected? (.binary .andAlso) (filters ++ [e])) joins = .ok s') :
    ∃ s, compileSelect dialect entity projection (connected? (.binary .andAlso) filters) joins =
      .ok s ∧ s.bindings <+: s'.bindings := by
  obtain ⟨columns, _, hprojection, hjoins, hfilters, rfl⟩ := compileSelect_connected_eq_ok_iff.mp h
  -- the filters that were there are accepted before the last one is looked at
  rw [List.mapM_append] at hfilters
  obtain ⟨conditions, hconditions, hfilters⟩ := bind_eq_ok_iff.mp hfilters
  obtain ⟨last, -, hfilters⟩ := bind_eq_ok_iff.mp hfilters
  cases hfilters
  refine ⟨_, compileSelect_connected_eq_ok_iff.mpr
    ⟨columns, conditions, hprojection, hjoins, hconditions, rfl⟩, ?_⟩
  simp only [statement, List.flatMap_append, firstOccurrences_append, List.map_append]
  exact List.prefix_append ..

/-- A selection is compiled as its parts say. -/
theorem compiles_iff {result : Except Error Statement} :
    compileSelect dialect entity projection (connected? (.binary .andAlso) filters) joins = result ↔
      Compiles dialect entity projection joins filters result := by
  cases result with
  | ok s =>
      rw [compileSelect_connected_eq_ok_iff]
      simp only [mapM_eq_ok_iff]
      constructor
      · rintro ⟨columns, conditions, hprojection, hjoins, hfilters, rfl⟩
        exact .accepted hprojection hjoins hfilters
      · rintro ⟨hprojection, hjoins, hfilters⟩
        exact ⟨_, _, hprojection, hjoins, hfilters, rfl⟩
  | error error =>
      rw [compileSelect_connected_eq_error_iff]
      constructor
      · rintro (⟨p, hp, h⟩ | ⟨columns, hprojection, ⟨i, j, hfirst, h⟩ | ⟨hjoins, h⟩⟩)
        · exact .projection hp h
        · exact .clause hprojection hfirst h
        · exact .filter hprojection hjoins h
      · intro h
        cases h with
        | projection hp h => exact .inl ⟨_, hp, h⟩
        | clause hprojection hfirst h => exact .inr ⟨_, hprojection, .inl ⟨_, _, hfirst, h⟩⟩
        | filter hprojection hjoins h => exact .inr ⟨_, hprojection, .inr ⟨hjoins, h⟩⟩

end Selection

end EntitySql
