import Mathlib.Data.List.Forall2
import EntitySql.Execution.Binding
import EntitySql.Proofs.Row.Lookup

/-!
# How bindings are resolved

Each binding of a statement is resolved in its own place. A known value stays. A binding whose value
comes from the argument gets the value that the argument is, if it is the only binding, and else the
field of its name, or null. Nothing is bound if there are no bindings, or if a value should come
from an argument that is not there.

## Main definitions

* `ArgumentSource` : what an argument is made from.
* `ArgumentSource.HasField` : the field of a name, for each kind of argument.
* `Binding.Resolves`, `Statement.Binds` : the value of a binding, and what binding answers.

## Main results

* `ArgumentSource.field?_eq_some_iff` : the fields of an argument.
* `Binding.resolve_eq_iff` : the value of a binding.
* `Statement.bind_eq_iff` : what binding answers.
-/

namespace EntitySql

/-! ### Arguments -/

/-- What an argument is made from. -/
inductive ArgumentSource : Type 1 where
  | value (v : Value)
  | record (r : Record)
  | params (ps : List Param)
  | entity {α : Type} (E : EntityType α) (a : α)

namespace ArgumentSource

/-- The argument that is made from a source. -/
def argument : ArgumentSource → Argument
  | value v => .ofValue v
  | record r => .ofRecord r
  | params ps => .ofParams ps
  | entity E a => .ofEntity E a

/-- The field of a name. A record has the column of the name, a list of parameters the first one
with exactly this name, and an entity what it has under the name; a single value has no fields. -/
inductive HasField : ArgumentSource → String → Value → Prop where
  | column {r : Record} {name : String} {i : Nat} {cell : String × Value}
      (hplace : IsColumnAt r.columns name (some i)) (hcell : r.cells[i]? = some cell) :
      HasField (record r) name cell.2
  | param {ps : List Param} {name : String} {i : Nat} {p : Param}
      (hfirst : IsFirstAt (·.name = name) ps i p) : HasField (params ps) name p.value
  | entity {α : Type} {E : EntityType α} {a : α} {name : String} {v : Value}
      (hget : E.get? a name = some v) : HasField (entity E a) name v

variable {source : ArgumentSource} {name : String} {v : Value}

theorem field?_record_eq_some_iff {r : Record} :
    r.field? name = some v ↔ (record r).HasField name v := by
  constructor
  · intro h
    obtain ⟨i, hplace, hvalue⟩ := Option.bind_eq_some_iff.mp h
    obtain ⟨cell, hcell, rfl⟩ := Option.map_eq_some_iff.mp hvalue
    exact .column (ordinalIn?_eq_iff.mp hplace) hcell
  · intro h
    cases h with
    | column hplace hcell =>
        rw [Record.field?, ordinalIn?_eq_iff.mpr hplace, Option.bind_some, hcell, Option.map_some]

theorem field?_params_eq_some_iff {ps : List Param} :
    (ps.find? (·.name = name)).map (·.value) = some v ↔ (params ps).HasField name v := by
  have hfirst {p : Param} : ps.find? (·.name = name) = some p ↔
      ∃ i, IsFirstAt (·.name = name) ps i p := by
    simpa only [decide_eq_true_eq] using
      find?_eq_some_iff_isFirstAt (q := fun p : Param => decide (p.name = name))
  constructor
  · intro h
    obtain ⟨p, hp, rfl⟩ := Option.map_eq_some_iff.mp h
    obtain ⟨i, hi⟩ := hfirst.mp hp
    exact .param hi
  · intro h
    cases h with
    | param hp => rw [hfirst.mpr ⟨_, hp⟩, Option.map_some]

/-- The fields of an argument are those of its source. -/
theorem field?_eq_some_iff : source.argument.field? name = some v ↔ source.HasField name v := by
  cases source with
  | value => exact ⟨fun h => (nomatch h), fun h => (nomatch h)⟩
  | record r => exact field?_record_eq_some_iff
  | params ps => exact field?_params_eq_some_iff
  | entity E a =>
      refine ⟨fun h => .entity h, fun h => ?_⟩
      cases h with
      | entity h => exact h

theorem scalar?_eq_some_iff : source.argument.scalar? = some v ↔ source = value v := by
  cases source <;> simp [argument, Argument.ofValue, Argument.ofRecord, Argument.ofParams,
    Argument.ofEntity]

end ArgumentSource

/-! ### Values of bindings -/

/-- The value of a binding: a known one stays. If the value comes from the argument, then the only
binding of a statement gets the value that the argument is, if it is one; otherwise a binding gets
the field of its name, or null. -/
inductive Binding.Resolves (single : Prop) (source : Option ArgumentSource) (b : Binding) :
    Value → Prop where
  | known {v : Value} (h : b.known = some v) : Resolves single source b v
  | scalar {v : Value} (hb : b.known = none) (hsource : source = some (.value v))
      (hsingle : single) : Resolves single source b v
  | field {a : ArgumentSource} {v : Value} (hb : b.known = none) (hsource : source = some a)
      (hfield : a.HasField b.name v) : Resolves single source b v
  | absent {a : ArgumentSource} (hb : b.known = none) (hsource : source = some a)
      (hscalar : single → ∀ v, a ≠ .value v) (hfield : ∀ v, ¬ a.HasField b.name v) :
      Resolves single source b .null

/-- What binding answers. The parameters have the length, the order and the names of the
bindings. -/
inductive Statement.Binds (s : Statement) (source : Option ArgumentSource) :
    Except Error (List Param) → Prop where
  | noBindings (h : s.bindings = []) : Binds s source (.error (.nullArgument "properties"))
  | noArgument (hdeferred : ∃ b ∈ s.bindings, b.known = none) (hnone : source = none) :
      Binds s source (.error (.nullArgument "entity"))
  | bound {params : List Param} (hne : s.bindings ≠ [])
      (hdeferred : source = none → ∀ b ∈ s.bindings, b.known ≠ none)
      (hparams : List.Forall₂
        (fun b p => p.name = b.name ∧ b.Resolves (s.bindings.length = 1) source p.value)
        s.bindings params) : Binds s source (.ok params)

theorem ArgumentSource.among_eq_iff {a : ArgumentSource} {name : String} {v : Value} :
    a.argument.among name = v ↔
      a.HasField name v ∨ v = .null ∧ ∀ w, ¬ a.HasField name w := by
  simp only [Argument.among, ← field?_eq_some_iff]
  cases a.argument.field? name with
  | some w => simp
  | none => simp [eq_comm]

theorem ArgumentSource.alone_value (w : Value) (name : String) :
    (value w).argument.alone name = w := rfl

/-- What is no single value is asked for its field, also by the only binding. -/
theorem ArgumentSource.alone_eq_among {a : ArgumentSource} (h : ∀ w, a ≠ .value w) (name : String) :
    a.argument.alone name = a.argument.among name := by
  have hnone : a.argument.scalar? = none :=
    Option.eq_none_iff_forall_ne_some.mpr fun w hw => h w (scalar?_eq_some_iff.mp hw)
  rw [Argument.alone, hnone, Option.none_or]
  rfl

section Resolution

variable {b : Binding} {source : Option ArgumentSource} {single : Bool} {v : Value}

theorem Binding.resolve_known {w : Value} (hb : b.known = some w) (arg : Option Argument) :
    b.resolve single arg = w := by
  simp [resolve, hb]

theorem Binding.resolve_deferred (hb : b.known = none) (a : ArgumentSource) :
    b.resolve single (some a.argument) =
      if single then a.argument.alone b.name else a.argument.among b.name := by
  simp [resolve, hb]

theorem Binding.resolves_value_iff {w : Value} (hb : b.known = none) :
    b.Resolves (true = true) (some (.value w)) v ↔ w = v := by
  constructor
  · rintro (h | ⟨-, hsource, -⟩ | ⟨-, hsource, hfield⟩ | ⟨-, hsource, hscalar, -⟩)
    · rw [hb] at h
      cases h
    · cases hsource
      rfl
    · cases hsource
      cases hfield
    · cases hsource
      exact absurd rfl (hscalar rfl w)
  · rintro rfl
    exact .scalar hb rfl rfl

theorem Binding.resolves_field_iff {a : ArgumentSource} (hb : b.known = none)
    (hscalar : single = true → ∀ w, a ≠ .value w) : b.Resolves (single = true) (some a) v ↔
      a.HasField b.name v ∨ v = .null ∧ ∀ w, ¬ a.HasField b.name w := by
  constructor
  · rintro (h | ⟨-, hsource, hsingle⟩ | ⟨-, hsource, hfield⟩ | ⟨-, hsource, -, hfield⟩)
    · rw [hb] at h
      cases h
    · cases hsource
      exact absurd rfl (hscalar hsingle v)
    · cases hsource
      exact .inl hfield
    · cases hsource
      exact .inr ⟨rfl, hfield⟩
  · rintro (hfield | ⟨rfl, hfield⟩)
    · exact .field hb rfl hfield
    · exact .absent hb rfl hscalar hfield

/-- A binding is resolved to its value and to nothing else. -/
theorem Binding.resolve_eq_iff (h : source = none → b.known ≠ none) :
    b.resolve single (source.map (·.argument)) = v ↔ b.Resolves (single = true) source v := by
  cases hb : b.known with
  | some w =>
      rw [resolve_known hb]
      constructor
      · rintro rfl
        exact .known hb
      · rintro (h | h | h | h)
        · exact Option.some.inj (hb.symm.trans h)
        all_goals
          rw [hb] at h
          cases h
  | none =>
      cases source with
      | none => exact absurd hb (h rfl)
      | some a =>
          rw [Option.map_some, resolve_deferred hb]
          by_cases hvalue : single = true ∧ ∃ w, a = .value w
          · obtain ⟨rfl, w, rfl⟩ := hvalue
            rw [if_pos rfl, ArgumentSource.alone_value, resolves_value_iff hb]
          · have hscalar : single = true → ∀ w, a ≠ .value w := fun hsingle w hw =>
              hvalue ⟨hsingle, w, hw⟩
            rw [resolves_field_iff hb hscalar, ← ArgumentSource.among_eq_iff]
            cases single with
            | false => rfl
            | true => rw [if_pos rfl, ArgumentSource.alone_eq_among (hscalar rfl)]

end Resolution

/-! ### Statements -/

theorem map_eq_iff_forall₂ {α β : Type} {f : α → β} {R : α → β → Prop} {xs : List α}
    {ys : List β} (h : ∀ x ∈ xs, ∀ y, f x = y ↔ R x y) : xs.map f = ys ↔ List.Forall₂ R xs ys := by
  induction xs generalizing ys with
  | nil => simp [eq_comm]
  | cons x xs ih =>
      rw [List.forall_mem_cons] at h
      cases ys with
      | nil => simp
      | cons y ys => rw [List.map_cons, List.cons.injEq, List.forall₂_cons, h.1, ih h.2]

namespace Statement

variable {s : Statement} {source : Option ArgumentSource} {params : List Param}

theorem any_isDeferred_iff :
    s.bindings.any (·.isDeferred) = true ↔ ∃ b ∈ s.bindings, b.known = none := by
  simp [Binding.isDeferred]

theorem bind_of_noBindings (h : s.bindings = []) (arg : Option Argument) :
    s.bind arg = .error (.nullArgument "properties") :=
  if_pos h

theorem bind_of_noArgument (h : ∃ b ∈ s.bindings, b.known = none) :
    s.bind none = .error (.nullArgument "entity") := by
  have hne : s.bindings ≠ [] := by
    obtain ⟨b, hb, -⟩ := h
    exact List.ne_nil_of_mem hb
  rw [bind, if_neg hne, any_isDeferred_iff.mpr h]
  rfl

theorem bind_of_bound (hne : s.bindings ≠ [])
    (hdeferred : source = none → ∀ b ∈ s.bindings, b.known ≠ none) :
    s.bind (source.map (·.argument)) = .ok (s.bindings.map fun b =>
      ⟨b.name, b.resolve (s.bindings.length = 1) (source.map (·.argument))⟩) := by
  have hargument :
      ¬ (s.bindings.any (·.isDeferred) && (source.map (·.argument)).isNone) = true := by
    rw [Bool.and_eq_true, any_isDeferred_iff, Option.isNone_iff_eq_none, Option.map_eq_none_iff]
    rintro ⟨⟨b, hb, hknown⟩, hnone⟩
    exact hdeferred hnone b hb hknown
  rw [bind, if_neg hne, if_neg hargument]

theorem bind_eq_ok_iff (hne : s.bindings ≠ [])
    (hdeferred : source = none → ∀ b ∈ s.bindings, b.known ≠ none) :
    s.bind (source.map (·.argument)) = .ok params ↔ List.Forall₂
      (fun b p => p.name = b.name ∧ b.Resolves (s.bindings.length = 1) source p.value)
      s.bindings params := by
  rw [bind_of_bound hne hdeferred, Except.ok.injEq]
  refine map_eq_iff_forall₂ fun b hb p => ?_
  have hresolve : b.resolve (s.bindings.length = 1) (source.map (·.argument)) = p.value ↔
      b.Resolves (decide (s.bindings.length = 1) = true) source p.value :=
    Binding.resolve_eq_iff fun hnone => hdeferred hnone b hb
  rw [decide_eq_true_eq] at hresolve
  rw [← hresolve]
  constructor
  · rintro rfl
    exact ⟨rfl, rfl⟩
  · rintro ⟨hname, hvalue⟩
    rw [← hname, hvalue]

/-- Every statement is bound, or refused for want of bindings or of an argument. -/
theorem binds_bind (s : Statement) (source : Option ArgumentSource) :
    s.Binds source (s.bind (source.map (·.argument))) := by
  by_cases hempty : s.bindings = []
  · rw [bind_of_noBindings hempty]
    exact .noBindings hempty
  · by_cases hargument : source = none ∧ ∃ b ∈ s.bindings, b.known = none
    · obtain ⟨rfl, hdeferred⟩ := hargument
      rw [Option.map_none, bind_of_noArgument hdeferred]
      exact .noArgument hdeferred rfl
    · have hdeferred : source = none → ∀ b ∈ s.bindings, b.known ≠ none :=
        fun hnone b hb hknown => hargument ⟨hnone, b, hb, hknown⟩
      have hbound := bind_of_bound hempty hdeferred
      rw [hbound]
      exact .bound hempty hdeferred ((bind_eq_ok_iff hempty hdeferred).mp hbound)

/-- Binding answers what it has to, and nothing else. -/
theorem bind_eq_iff {result : Except Error (List Param)} :
    s.bind (source.map (·.argument)) = result ↔ s.Binds source result := by
  refine ⟨fun h => h ▸ s.binds_bind source, fun h => ?_⟩
  cases h with
  | noBindings h => exact bind_of_noBindings h _
  | noArgument hdeferred hnone =>
      rw [hnone, Option.map_none, bind_of_noArgument hdeferred]
  | bound hne hdeferred hparams => exact (bind_eq_ok_iff hne hdeferred).mpr hparams

end Statement

end EntitySql
