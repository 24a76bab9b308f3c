import EntitySql.Proofs.Condition.Comparison
import EntitySql.Proofs.Condition.FirstOccurrences
import EntitySql.Query.Select

/-!
# Bindings of selections

A selection is bound by the names that its predicate defers. They are met from left to right, and
each is bound where it is met first; neither the projection nor the joins bind anything.

## Main results

* `compileSelect_eq_ok_iff` : when a selection is accepted, and as what.
* `conditionBindings_of_conditionOf?` : the bindings of a condition.
* `conditionBindings_of_occurrences` : those of two conditions with a connective between them.
* `bindings_compileSelect` : the bindings of a selection.
-/

namespace EntitySql

variable {dialect : Dialect} {entity : Descriptor} {projection predicate : Option Expr}
  {joins : List JoinClause} {s : Statement}

/-- A selection is accepted if its three parts are. -/
theorem compileSelect_eq_ok_iff :
    compileSelect dialect entity projection predicate joins = .ok s ↔
      ∃ columns joinText condition, columnList projection = .ok columns ∧
        joinsSql joins = .ok joinText ∧ conditionOf? predicate = .ok condition ∧
        s = .compiled .select ("SELECT " ++ columns ++ " FROM " ++ entity.table ++ joinText ++
          whereClause dialect condition) (conditionBindings condition) := by
  constructor
  · intro h
    obtain ⟨columns, hcolumns, h⟩ := bind_eq_ok_iff.mp h
    obtain ⟨joinText, hjoins, h⟩ := bind_eq_ok_iff.mp h
    obtain ⟨condition, hcondition, h⟩ := bind_eq_ok_iff.mp h
    exact ⟨columns, joinText, condition, hcolumns, hjoins, hcondition, (Except.ok.inj h).symm⟩
  · rintro ⟨columns, joinText, condition, hcolumns, hjoins, hcondition, rfl⟩
    rw [compileSelect, hcolumns, hjoins, hcondition]
    rfl

/-! ### Conditions -/

/-- Two accepted predicates with a connective between them are accepted, and their placeholders
follow one another. -/
theorem Condition.exists_ofExpr_connective {p q : Expr} {left right : Condition}
    (hp : ofExpr p = .ok left) (hq : ofExpr q = .ok right) {op : BinaryOp}
    (hop : op = .andAlso ∨ op = .orElse) :
    ∃ c, ofExpr (.binary op p q) = .ok c ∧
      c.occurrences = left.occurrences ++ right.occurrences := by
  rcases hop with rfl | rfl
  · exact ⟨.and left right, by rw [ofExpr, hp, hq]; rfl, rfl⟩
  · exact ⟨.or left right, by rw [ofExpr, hp, hq]; rfl, rfl⟩

/-- A condition binds the first occurrences of the names that its predicate defers. -/
theorem conditionBindings_of_conditionOf? {condition : Option Condition}
    (h : conditionOf? predicate = .ok condition) :
    conditionBindings condition =
      (firstOccurrences ((predicate.map Expr.deferredNames).getD [])).map .deferred := by
  cases predicate with
  | none =>
      cases h
      rfl
  | some p =>
      obtain ⟨c, hc, rfl⟩ := map_eq_ok_iff.mp h
      rw [conditionBindings, Condition.placeholders, Condition.occurrences_ofExpr hc]
      rfl

/-- Where the placeholders of one condition follow those of another one, the bindings of the second
are added but for those that the first has. -/
theorem conditionBindings_of_occurrences {c left right : Condition}
    (h : c.occurrences = left.occurrences ++ right.occurrences) :
    conditionBindings (some c) = conditionBindings (some left) ++
      (conditionBindings (some right)).filter
        (·.name ∉ (conditionBindings (some left)).map (·.name)) := by
  have hmem (name : String) : name ∈ left.placeholders ↔ name ∈ left.occurrences :=
    mem_firstOccurrences left.occurrences
  simp only [conditionBindings, Binding.map_name_map_deferred, hmem]
  rw [Condition.placeholders, h, firstOccurrences_append, List.map_append, List.filter_map]
  rfl

/-! ### Selections -/

/-- The bindings of a selection are the names that its predicate defers, each kept where it is met
first, and all of them are deferred. Two accepted predicates with a connective between them are
accepted, and have the bindings of the left one and then those that only the right one has. -/
theorem bindings_compileSelect
    (h : compileSelect dialect entity projection predicate joins = .ok s) :
    (∀ kept, KeepsFirst ((predicate.map Expr.deferredNames).getD []) kept ↔ kept = s.names) ∧
      s.bindings = s.names.map .deferred ∧
      ∀ p ∈ predicate, ∀ dialect' entity' projection' q joins' s',
        compileSelect dialect' entity' projection' (some q) joins' = .ok s' →
        ∀ op, op = .andAlso ∨ op = .orElse →
          ∃ both, compileSelect dialect entity projection (some (.binary op p q)) joins = .ok both ∧
            both.bindings = s.bindings ++ s'.bindings.filter (·.name ∉ s.names) := by
  obtain ⟨columns, joinText, condition, hcolumns, hjoins, hcondition, hs⟩ :=
    compileSelect_eq_ok_iff.mp h
  have hbindings : s.bindings = conditionBindings condition := congrArg Statement.bindings hs
  have hdeferred := hbindings.trans (conditionBindings_of_conditionOf? hcondition)
  have hnames : s.names = firstOccurrences ((predicate.map Expr.deferredNames).getD []) := by
    rw [Statement.names, hdeferred, Binding.map_name_map_deferred]
  refine ⟨fun kept => by rw [hnames, keepsFirst_iff], by rw [hnames, hdeferred], ?_⟩
  intro p hp dialect' entity' projection' q joins' s' h' op hop
  obtain rfl : predicate = some p := hp
  obtain ⟨_, _, condition', -, -, hcondition', hs'⟩ := compileSelect_eq_ok_iff.mp h'
  obtain ⟨left, hleft, rfl⟩ := map_eq_ok_iff.mp hcondition
  obtain ⟨right, hright, rfl⟩ := map_eq_ok_iff.mp hcondition'
  obtain ⟨c, hc, hoccurrences⟩ := Condition.exists_ofExpr_connective hleft hright hop
  refine ⟨_, compileSelect_eq_ok_iff.mpr ⟨columns, joinText, some c, hcolumns, hjoins, ?_, rfl⟩, ?_⟩
  · rw [conditionOf?, hc]
    rfl
  · have hbindings' : s'.bindings = conditionBindings (some right) :=
      congrArg Statement.bindings hs'
    rw [Statement.names, hbindings, hbindings']
    exact conditionBindings_of_occurrences hoccurrences

/-- A predicate in which a parameter and a member of the row have one name. -/
def ownedPredicate : Expr :=
  .binary .andAlso
    (.binary .greaterThan (.member (.member .row "home") "id") (.convert (.param "owner")))
    (.binary .orElse
      (.binary .equal (.member .row "age") (.member .row "limit"))
      (.binary .notEqual (.convert (.member .row "id")) (.member .row "owner")))

/-- A predicate that shares one of its two names with the other one. -/
def rankedPredicate : Expr :=
  .binary .andAlso
    (.binary .lessThan (.member .row "rank") (.param "rank"))
    (.binary .equal (.member .row "limit") (.param "limit"))

theorem bindings_compileSelect_owned :
    ∃ s both, compileSelect .tSql ⟨"people", []⟩ (some (.member .row "age")) (some ownedPredicate)
        [] = .ok s ∧
      (∀ kept, KeepsFirst ["owner", "limit", "owner"] kept ↔ kept = s.names) ∧
      s.bindings = [.deferred "owner", .deferred "limit"] ∧
      compileSelect .tSql ⟨"people", []⟩ (some (.member .row "age"))
        (some (.binary .orElse ownedPredicate rankedPredicate)) [] = .ok both ∧
      both.bindings = [.deferred "owner", .deferred "limit", .deferred "rank"] := by
  have howned : compileSelect .tSql ⟨"people", []⟩ (some (.member .row "age"))
      (some ownedPredicate) [] = .ok _ := rfl
  obtain ⟨hkept, hbindings, hconnected⟩ := bindings_compileSelect howned
  obtain ⟨both, hboth, hall⟩ := hconnected ownedPredicate rfl .postgres ⟨"homes", []⟩ none
    rankedPredicate [] _ rfl .orElse (.inr rfl)
  exact ⟨_, both, rfl, hkept, hbindings, hboth, hall⟩

end EntitySql
