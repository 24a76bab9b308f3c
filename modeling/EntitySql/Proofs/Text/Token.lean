import EntitySql.Text.Decimal
import EntitySql.Text.Word

/-!
# Names and tokens

A reader of a statement stops at quotes, at the mark of a placeholder, at blanks and at
parentheses. Names and numerals hold none of these characters, so they are read as a whole.

## Main definitions

* `IsWord`, `IsDotted` : names of word characters, and names that may also have dots.
* `IsInert`, `AreInert` : characters that neither delimit a string nor mark a placeholder.
* `IsTokenChar`, `IsToken` : inert characters that end no token either.

## Main results

* `IsDotted.isToken` : a dotted name is a token.
* `IsToken.intercalate`, `AreInert.intercalate` : joined parts are what the parts and the separator
  are.
* `splitOn_toList_intercalate`, `intercalate_map_splitOn` : joined parts are split into the parts of
  each of them, and the parts of a text are joined to the text.
* `isToken_numeral` : a numeral is a token.
-/

namespace EntitySql.Text

/-! ### Characters -/

/-- A character that neither delimits a string nor marks a placeholder. -/
def IsInert (c : Char) : Prop :=
  c ≠ '\'' ∧ c ≠ '@'

instance (c : Char) : Decidable (IsInert c) :=
  inferInstanceAs (Decidable (_ ∧ _))

/-- An inert character that is no blank and no parenthesis. -/
def IsTokenChar (c : Char) : Prop :=
  IsInert c ∧ c ≠ ' ' ∧ c ≠ '(' ∧ c ≠ ')'

instance (c : Char) : Decidable (IsTokenChar c) :=
  inferInstanceAs (Decidable (_ ∧ _))

/-- Inert characters. -/
def AreInert (cs : List Char) : Prop :=
  ∀ c ∈ cs, IsInert c

instance (cs : List Char) : Decidable (AreInert cs) :=
  List.decidableBAll IsInert cs

/-- Characters of a token. -/
def IsToken (cs : List Char) : Prop :=
  ∀ c ∈ cs, IsTokenChar c

instance (cs : List Char) : Decidable (IsToken cs) :=
  List.decidableBAll IsTokenChar cs

theorem IsToken.areInert {cs : List Char} (h : IsToken cs) : AreInert cs :=
  fun c hc => (h c hc).1

theorem areInert_cons {c : Char} {cs : List Char} :
    AreInert (c :: cs) ↔ IsInert c ∧ AreInert cs :=
  List.forall_mem_cons

theorem areInert_append {cs ds : List Char} :
    AreInert (cs ++ ds) ↔ AreInert cs ∧ AreInert ds :=
  List.forall_mem_append

theorem isToken_cons {c : Char} {cs : List Char} :
    IsToken (c :: cs) ↔ IsTokenChar c ∧ IsToken cs :=
  List.forall_mem_cons

theorem isToken_append {cs ds : List Char} : IsToken (cs ++ ds) ↔ IsToken cs ∧ IsToken ds :=
  List.forall_mem_append

theorem isTokenChar_of_isWordChar {c : Char} (h : isWordChar c = true) : IsTokenChar c := by
  have ne_of_not_word {d : Char} (hd : isWordChar d = false) : c ≠ d := by
    rintro rfl
    rw [h] at hd
    cases hd
  exact ⟨⟨ne_of_not_word (by decide), ne_of_not_word (by decide)⟩, ne_of_not_word (by decide),
    ne_of_not_word (by decide), ne_of_not_word (by decide)⟩

/-! ### Names -/

/-- A name that is a non-empty run of word characters. -/
def IsWord (s : String) : Prop :=
  s ≠ "" ∧ ∀ c ∈ s.toList, isWordChar c = true

instance (s : String) : Decidable (IsWord s) :=
  @instDecidableAnd _ _ inferInstance (List.decidableBAll _ s.toList)

/-- A name that is a non-empty run of word characters and dots. -/
def IsDotted (s : String) : Prop :=
  s ≠ "" ∧ ∀ c ∈ s.toList, isWordChar c = true ∨ c = '.'

instance (s : String) : Decidable (IsDotted s) :=
  @instDecidableAnd _ _ inferInstance (List.decidableBAll _ s.toList)

theorem IsWord.isDotted {s : String} (h : IsWord s) : IsDotted s :=
  ⟨h.1, fun c hc => Or.inl (h.2 c hc)⟩

theorem IsDotted.isToken {s : String} (h : IsDotted s) : IsToken s.toList := by
  intro c hc
  rcases h.2 c hc with hw | rfl
  · exact isTokenChar_of_isWordChar hw
  · decide

theorem IsDotted.areInert {s : String} (h : IsDotted s) : AreInert s.toList :=
  h.isToken.areInert

/-! ### Joined texts -/

private theorem forall_mem_intercalate {P : Char → Prop} {separator : String}
    (hsep : ∀ c ∈ separator.toList, P c) :
    (parts : List String) → (∀ s ∈ parts, ∀ c ∈ s.toList, P c) →
      ∀ c ∈ (separator.intercalate parts).toList, P c
  | [], _ => by simp
  | [s], h => by simpa using h
  | s :: t :: rest, h => by
      have htail := forall_mem_intercalate hsep (t :: rest) fun u hu =>
        h u (List.mem_cons_of_mem _ hu)
      simp only [String.intercalate_cons_cons, String.toList_append, List.forall_mem_append]
      exact ⟨⟨h s List.mem_cons_self, hsep⟩, htail⟩

theorem AreInert.intercalate {separator : String} (hsep : AreInert separator.toList)
    {parts : List String} (h : ∀ s ∈ parts, AreInert s.toList) :
    AreInert (separator.intercalate parts).toList :=
  forall_mem_intercalate hsep parts h

theorem IsToken.intercalate {separator : String} (hsep : IsToken separator.toList)
    {parts : List String} (h : ∀ s ∈ parts, IsToken s.toList) :
    IsToken (separator.intercalate parts).toList :=
  forall_mem_intercalate hsep parts h

/-- Parts with dots between them are split into the parts of each of them. -/
theorem splitOn_toList_intercalate : (parts : List String) → parts ≠ [] →
    List.splitOn '.' (".".intercalate parts).toList =
      parts.flatMap fun s => List.splitOn '.' s.toList
  | [], h => absurd rfl h
  | [s], _ => by simp
  | s :: t :: rest, _ => by
      have hdot : (".".intercalate (s :: t :: rest)).toList =
          s.toList ++ '.' :: (".".intercalate (t :: rest)).toList := by
        simp [-String.toList_intercalate]
      rw [hdot, List.splitOn_append_cons_self,
        splitOn_toList_intercalate (t :: rest) (List.cons_ne_nil t rest)]
      rfl

/-- The parts of a text between its dots, with dots between them, are the text. -/
theorem intercalate_map_splitOn (s : String) :
    ".".intercalate ((List.splitOn '.' s.toList).map String.ofList) = s := by
  have hlists : String.toList ∘ String.ofList = id := funext fun _ => String.toList_ofList
  rw [← String.toList_inj, String.toList_intercalate, List.map_map, hlists, List.map_id]
  exact List.intercalate_splitOn '.'

/-! ### Numerals -/

theorem isDigit_digitChar {d : Nat} (h : d < 10) : (digitChar d).isDigit = true := by
  revert d
  decide

theorem isDigit_of_mem_numeral (n : Nat) : ∀ c ∈ numeral n, c.isDigit = true := by
  fun_induction numeral n with
  | case1 n h => simpa using isDigit_digitChar h
  | case2 n h ih =>
      rw [List.forall_mem_append]
      exact ⟨ih, by simpa using isDigit_digitChar (Nat.mod_lt n (by decide))⟩

theorem isWordChar_of_isDigit {c : Char} (h : c.isDigit = true) : isWordChar c = true :=
  isWordChar_of_isAlphanum (by simp [Char.isAlphanum, h])

theorem isToken_numeral (n : Nat) : IsToken (numeral n) :=
  fun c hc => isTokenChar_of_isWordChar (isWordChar_of_isDigit (isDigit_of_mem_numeral n c hc))

theorem isToken_signedNumeral (n : Int) : IsToken (signedNumeral n) := by
  unfold signedNumeral
  split
  · exact isToken_cons.mpr ⟨by decide, isToken_numeral _⟩
  · exact isToken_numeral _

end EntitySql.Text
