import EntitySql.Proofs.Query.Projection
import EntitySql.Proofs.Text.Token
import EntitySql.Query.Condition

/-!
# Dotted names of columns

A dotted name is split at its dots into a chain of members, which grows from the row on. The
compiler takes a chain apart from its last member, and writes the names with dots between them.
Nothing is read into the names, so a column is written as it was named, also if parts of its name
are empty. A chain that starts elsewhere is refused and shown in the same way, behind its root.

## Main results

* `Expr.path_eq_chain` : the chain of a dotted name.
* `Expr.display_chain` : how a chain is shown.
* `Expr.memberPath_joins_or_reports` : the columns of chains on the row, and the errors of others.
-/

namespace EntitySql

open Text

namespace Expr

variable {root : Expr} {names : List String}

/-- A dotted name is a chain of its parts on the row. -/
theorem path_eq_chain (dotted : String) :
    path dotted = chain .row ((List.splitOn '.' dotted.toList).map String.ofList) := by
  rw [path, chain, List.foldl_map]

/-- A chain is shown as its root and its names with dots between them. -/
theorem display_chain (root : Expr) (names : List String) :
    (chain root names).display = ".".intercalate (root.display :: names) := by
  induction names generalizing root with
  | nil => rfl
  | cons name names ih =>
      rw [chain_cons, ih, display]
      cases names with
      | nil => rw [String.intercalate_cons_cons, String.intercalate_singleton,
          String.intercalate_singleton]
      | cons next names => simp only [String.intercalate_cons_cons, String.append_assoc]

/-- A chain with names is written in comparisons and projections as the column that it names. -/
theorem column_chain (root : Expr) (h : names ≠ []) :
    (chain root names).column = (chain root names).memberPath ∧
      (chain root names).projectedColumns =
        (chain root names).memberPath.map fun column => [column] := by
  obtain ⟨target, name, hmember⟩ := exists_eq_member root h
  rw [hmember]
  exact ⟨rfl, rfl⟩

theorem memberPath_chain_row (h : names ≠ []) : (chain .row names).memberPath = .ok names :=
  memberPath_eq_ok_iff.mpr ⟨h, rfl⟩

theorem memberPath_chain_of_isRoot (hroot : root.IsRoot) (h : root ≠ .row ∨ names = []) :
    (chain root names).memberPath = .error (.unsupportedMember (chain root names).display) := by
  rw [memberPath, memberPath?_chain_eq_none hroot h]

/-- A dotted name is written as it is, also as the left side of a comparison and as a projection.
So are the names of a chain on the row, with dots between them. A chain on any other root is refused
with its text, which is that of the root and the names behind it, and so is the row alone. -/
theorem memberPath_joins_or_reports :
    (∀ dotted : String,
      (path dotted).memberPath.map columnText = .ok dotted ∧
      (path dotted).column.map columnText = .ok dotted ∧
      (path dotted).projectedColumns.map (·.map columnText) = .ok [dotted]) ∧
    (∀ names, names ≠ [] →
      (chain .row names).memberPath.map columnText = .ok (".".intercalate names)) ∧
    ∀ root names, root.IsRoot → root ≠ .row ∨ names = [] →
      (chain root names).memberPath.map columnText =
        .error (.unsupportedMember (chain root names).display) ∧
      (chain root names).display = ".".intercalate (root.display :: names) := by
  refine ⟨fun dotted => ?_, fun names hne => ?_, fun root names hroot h => ⟨?_, ?_⟩⟩
  · have hne : (List.splitOn '.' dotted.toList).map String.ofList ≠ [] := fun hnil =>
      List.splitOn_ne_nil '.' dotted.toList (List.map_eq_nil_iff.mp hnil)
    have hcolumn : columnText ((List.splitOn '.' dotted.toList).map String.ofList) = dotted :=
      intercalate_map_splitOn dotted
    obtain ⟨hcompared, hprojected⟩ := column_chain .row hne
    rw [path_eq_chain, hcompared, hprojected, memberPath_chain_row hne]
    simp only [Except.map, List.map_cons, List.map_nil, hcolumn, and_self]
  · rw [memberPath_chain_row hne]
    rfl
  · rw [memberPath_chain_of_isRoot hroot h]
    rfl
  · exact display_chain root names

/-- Empty parts are kept. -/
example : (path ".a..b").memberPath.map columnText = .ok ".a..b" := by cbv

end Expr

end EntitySql
