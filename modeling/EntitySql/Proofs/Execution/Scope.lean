import EntitySql.Execution.Provider

/-!
# Steps of scopes

What a scope does follows from what its steps do: opening, asking for the connection, the work, and
closing. A property that all steps preserve is preserved by the scope, and two providers with the
same steps have the same scopes.

## Main definitions

* `Provider.IsImage` : two providers with the same steps on related states.

## Main results

* `Provider.inScope_of_ok`, `Provider.inScope_of_error` : a scope whose connection is open, and one
  whose connection is not.
* `Provider.inScope_induction` : what holds after every scope.
* `Provider.IsImage.inScope` : scopes of providers with the same steps.
-/

namespace EntitySql

variable {σ σ' ρ α : Type}

/-- What an action leaves, with its state mapped. -/
def Outcome.map (f : σ → σ') (o : Outcome σ α) : Outcome σ' α :=
  ⟨o.result, f o.state, o.events⟩

namespace Provider

/-! ### Steps of a scope -/

section Steps

variable {p : Provider σ ρ} {s s' : σ} {work : Action σ α} {events : List Event}

theorem ensureOpen_of_isOpen (h : p.isOpen s = true) : p.ensureOpen s = ⟨.ok (), s, []⟩ :=
  if_pos h

theorem ensureOpen_of_openUp_ok (h : p.isOpen s = false) (hup : p.openUp s = (.ok (), s')) :
    p.ensureOpen s = ⟨.ok (), s', [.opened]⟩ := by
  simp [ensureOpen, h, hup]

theorem ensureOpen_of_openUp_error (h : p.isOpen s = false) {e : Error}
    (hup : p.openUp s = (.error e, s')) :
    p.ensureOpen s = ⟨.error (e.ofLifecycle openingText), s', []⟩ := by
  simp [ensureOpen, h, hup]

theorem inScope_of_error {e : Error} (h : p.ensureOpen s = ⟨.error e, s', events⟩) :
    p.inScope work s = ⟨.error e, s', events⟩ := by
  simp [inScope, h]

theorem inScope_of_ok (h : p.ensureOpen s = ⟨.ok (), s', events⟩) :
    p.inScope work s = ⟨(p.closeAfter (p.reached work s')).result,
      (p.closeAfter (p.reached work s')).state,
      events ++ (p.closeAfter (p.reached work s')).events⟩ := by
  simp [inScope, h]

end Steps

/-! ### Properties of scopes -/

/-- A property that every step preserves holds throughout a scope. What closing and a failed opening
leave is what the scope leaves. -/
theorem inScope_induction {p : Provider σ ρ} {work : Action σ α} (Holds Left : σ → Prop)
    (hopenUp : ∀ s, Holds s → Holds (p.openUp s).2)
    (hfailed : ∀ s e, Holds s → (p.openUp s).1 = .error e → Left (p.openUp s).2)
    (hasked : ∀ s, Holds s → Holds (p.asked s)) (hwork : ∀ s, Holds s → Holds (work s).state)
    (hclose : ∀ s, Holds s → Left (p.close s).2) {s : σ} (h : Holds s) :
    Left (p.inScope work s).state := by
  have hreached {s : σ} (h : Holds s) : Holds (p.reached work s).state := by
    unfold reached
    split
    · exact hwork _ (hasked s h)
    · exact hasked s h
  cases hopen : p.isOpen s with
  | true =>
      rw [inScope_of_ok (ensureOpen_of_isOpen hopen)]
      exact hclose _ (hreached h)
  | false =>
      have hs := hopenUp s h
      have hfail := fun e => hfailed s e h
      obtain ⟨opening, s', hup⟩ : ∃ opening s', p.openUp s = (opening, s') := ⟨_, _, rfl⟩
      rw [hup] at hs hfail
      cases opening with
      | ok =>
          rw [inScope_of_ok (ensureOpen_of_openUp_ok hopen hup)]
          exact hclose _ (hreached hs)
      | error e =>
          rw [inScope_of_error (ensureOpen_of_openUp_error hopen hup)]
          exact hfail e rfl

/-! ### Providers with the same steps -/

/-- A provider takes the same steps as another one, on states that are mapped to it. -/
structure IsImage (p : Provider σ ρ) (f : σ → σ') (p' : Provider σ' ρ) : Prop where
  isOpen : ∀ s, p'.isOpen (f s) = p.isOpen s
  openUp : ∀ s, p'.openUp (f s) = ((p.openUp s).1, f (p.openUp s).2)
  close : ∀ s, p'.close (f s) = ((p.close s).1, f (p.close s).2)
  reach : ∀ s, p'.reach (f s) = p.reach s
  asked : ∀ s, p'.asked (f s) = f (p.asked s)

namespace IsImage

variable {f : σ → σ'} {p : Provider σ ρ} {p' : Provider σ' ρ}

theorem reached (h : p.IsImage f p') {work : Action σ α} {work' : Action σ' α}
    (hwork : ∀ s, work' (f s) = (work s).map f) (s : σ) :
    p'.reached work' (f s) = (p.reached work s).map f := by
  rw [Provider.reached, Provider.reached, h.reach, h.asked]
  cases p.reach s with
  | ok => exact hwork _
  | error e => rfl

theorem closeAfter (h : p.IsImage f p') (o : Outcome σ α) :
    p'.closeAfter (o.map f) = (p.closeAfter o).map f := by
  simp only [Provider.closeAfter, Outcome.map, h.close]

theorem ensureOpen (h : p.IsImage f p') (s : σ) :
    p'.ensureOpen (f s) = (p.ensureOpen s).map f := by
  rw [Provider.ensureOpen, Provider.ensureOpen, h.isOpen, h.openUp]
  split
  · rfl
  · obtain ⟨opening, s'⟩ := p.openUp s
    cases opening <;> rfl

/-- A scope of a provider with the same steps leaves the same. -/
theorem inScope (h : p.IsImage f p') {work : Action σ α} {work' : Action σ' α}
    (hwork : ∀ s, work' (f s) = (work s).map f) (s : σ) :
    p'.inScope work' (f s) = (p.inScope work s).map f := by
  rw [Provider.inScope, Provider.inScope, h.ensureOpen]
  obtain ⟨opening, s', events⟩ := p.ensureOpen s
  cases opening with
  | error e => rfl
  | ok =>
      have hclosed := h.closeAfter (p.reached work s')
      rw [← h.reached hwork] at hclosed
      simp only [Outcome.map, hclosed]

end IsImage

end Provider

end EntitySql
