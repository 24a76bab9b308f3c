import EntitySql.Execution.Binding

/-!
# Parameters of statements

## Main results

* `Statement.map_name_bind` : the parameters have the names of the bindings.
* `Statement.bind_ofEntity` : deferred bindings get the columns of an entity, whether there is one
  or there are several.
-/

namespace EntitySql

namespace Statement

variable {s : Statement}

/-- The parameters of a statement have the names of its bindings, in the same order. -/
theorem map_name_bind {arg : Option Argument} {params : List Param}
    (h : s.bind arg = .ok params) : params.map (·.name) = s.names := by
  unfold bind at h
  split at h
  · cases h
  · split at h <;> cases h
    rw [List.map_map]
    rfl

/-- Deferred bindings get the columns of an entity. -/
theorem bind_ofEntity {α : Type} {names : List String} (hs : s.bindings = names.map .deferred)
    (hne : names ≠ []) (E : EntityType α) (a : α) :
    s.bind (some (.ofEntity E a)) = .ok (names.map fun n => ⟨n, (E.get? a n).getD .null⟩) := by
  have hbindings : s.bindings ≠ [] := by simpa [hs] using hne
  rw [bind, if_neg hbindings, if_neg (by simp), hs, List.map_map]
  refine congrArg Except.ok (List.map_congr_left fun n _ => ?_)
  have halone : (Argument.ofEntity E a).alone n = (E.get? a n).getD .null := by
    rw [Argument.alone, Argument.ofEntity, Option.none_or]
  have hamong : (Argument.ofEntity E a).among n = (E.get? a n).getD .null := rfl
  simp only [Function.comp_apply, Binding.resolve, Binding.deferred, halone, hamong, ite_self]

/-- A known value stays, whatever the argument. -/
theorem bind_literal {name : String} {v : Value} (hs : s.bindings = [.literal name v])
    (arg : Option Argument) : s.bind arg = .ok [⟨name, v⟩] := by
  rw [bind, hs, if_neg (by simp), if_neg (by simp [Binding.isDeferred, Binding.literal])]
  rfl

end Statement

end EntitySql
