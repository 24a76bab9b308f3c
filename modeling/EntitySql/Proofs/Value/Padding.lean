import EntitySql.Proofs.Result
import EntitySql.Proofs.Text.Trim
import EntitySql.Value.Conversion

/-!
# Texts with blanks around them

A column of fixed width delivers its texts filled up with blanks. Types of numbers, UUIDs, dates and
timestamps take from a text what its trimmed form says, so the blanks do not matter to them. Flags
take four words only as they stand: blanks around a word are refused.

## Main definitions

* `FieldType.IsTrimming` : the types that trim the texts that they read.
* `FieldType.IsFlag` : the types of flags.

## Main results

* `FieldType.exists_reader` : what a trimming type takes depends on the trimmed text only.
* `FieldType.ofValue_flag_padded_iff` : flags are read only without blanks around them.
* `FieldType.ofValue_text_padded` : all types together.
* `FieldType.ofValue_text_padded_flag` : a flag that is refused for the blank before it.
-/

namespace EntitySql

open Numeric Calendar Text

/-! ### Words and blanks -/

theorem toLower_of_isBlank {c : Char} (h : isBlank c = true) : c.toLower = c := by
  have hranges : ∀ r ∈ blankRanges, r.2 < 'A'.toNat ∨ 'Z'.toNat < r.1 := by decide
  rw [isBlank, inRanges_eq_true_iff] at h
  obtain ⟨r, hr, hlow, hhigh⟩ := h
  have hupper : ¬ (c.val ≥ 'A'.val ∧ c.val ≤ 'Z'.val) := by
    rintro ⟨hA, hZ⟩
    rw [ge_iff_le, UInt32.le_iff_toNat_le] at hA
    rw [UInt32.le_iff_toNat_le] at hZ
    have hA : 'A'.toNat ≤ c.toNat := hA
    have hZ : c.toNat ≤ 'Z'.toNat := hZ
    rcases hranges r hr with hbelow | habove <;> omega
  -- only capitals change in lower case
  exact dif_neg hupper

/-- A text has no blank if it has none in lower case. -/
theorem isBlank_of_toLower {s word : String} (hword : ∀ c ∈ word.toList, isBlank c = false)
    (h : s.toLower = word) : ∀ c ∈ s.toList, isBlank c = false := by
  intro c hc
  rw [← Bool.not_eq_true]
  intro hblank
  have hmem : c ∈ word.toList := by
    have hlower : s.toLower = s.map Char.toLower := rfl
    rw [← h, hlower, String.toList_map]
    exact List.mem_map.mpr ⟨c, hc, toLower_of_isBlank hblank⟩
  rw [hword c hmem] at hblank
  cases hblank

theorem AreBlank.eq_empty {s : String} (h : AreBlank s.toList)
    (hnone : ∀ c ∈ s.toList, isBlank c = false) : s = "" := by
  rw [← String.toList_eq_nil_iff, List.eq_nil_iff_forall_not_mem]
  intro c hc
  have hboth := h c hc
  rw [hnone c hc] at hboth
  cases hboth

namespace FieldType

/-- The types that trim a text before they read it: those of numbers, UUIDs, dates and timestamps,
and the optional types of these. -/
def IsTrimming : FieldType → Prop
  | integer _ | single | double | uuid | date | timestamp | timestampTz => True
  | optional t => t.IsTrimming
  | bool | text | json | value => False

/-- The types of flags, which may be optional. -/
def IsFlag : FieldType → Prop
  | bool => True
  | optional t => t.IsFlag
  | _ => False

variable {t : FieldType} {s before after : String}

theorem orMismatch_eq_ok_iff {α : Type} {v : Value} {target : FieldType} {reading : Option α}
    {a : α} : orMismatch v target reading = .ok a ↔ reading = some a := by
  cases reading <;> simp [orMismatch]

theorem ofValue_optional_text (t : FieldType) (s : String) :
    ofValue (.optional t) (.text s) = (ofValue t (.text s)).map some := rfl

/-! ### Types that trim -/

/-- What a trimming type takes from a text depends on the trimmed text only. -/
theorem exists_reader (ht : t.IsTrimming) : ∃ read : List Char → Option t.Carrier,
    ∀ s x, t.ofValue (.text s) = .ok x ↔ read (trim s.toList) = some x := by
  induction t with
  | integer t =>
      refine ⟨fun cs => (integer? t.signed cs).bind t.ofInt?, fun s x => ?_⟩
      show readInteger t (.text s) = .ok x ↔ (integer? t.signed (trim s.toList)).bind t.ofInt? = _
      rw [readInteger]
      cases (integer? t.signed (trim s.toList)).bind t.ofInt? with
      | none => exact iff_of_false (nomatch ·) (nomatch ·)
      | some m =>
          exact ⟨fun h => congrArg some (Except.ok.inj h),
            fun h => congrArg Except.ok (Option.some.inj h)⟩
  | single =>
      exact ⟨fun cs => (Double.ofText? cs).map Double.toSingle, fun s x => orMismatch_eq_ok_iff⟩
  | double => exact ⟨Double.ofText?, fun s x => orMismatch_eq_ok_iff⟩
  | uuid => exact ⟨Uuid.ofText?, fun s x => orMismatch_eq_ok_iff⟩
  | date => exact ⟨Date.ofText?, fun s x => orMismatch_eq_ok_iff⟩
  | timestamp => exact ⟨Timestamp.ofText?, fun s x => orMismatch_eq_ok_iff⟩
  | timestampTz => exact ⟨Timestamp.ofRfc3339?, fun s x => orMismatch_eq_ok_iff⟩
  | optional t ih =>
      obtain ⟨read, hread⟩ := ih ht
      refine ⟨fun cs => (read cs).map some, fun s x => ?_⟩
      refine Iff.trans map_eq_ok_iff (Iff.trans ?_ Option.map_eq_some_iff.symm)
      simp only [hread]
  | bool | text | json | value => exact ht.elim

/-- A trimming type takes the same from two texts with one trimmed form. -/
theorem ofValue_text_iff_of_trim_eq (ht : t.IsTrimming) {s' : String}
    (h : trim s'.toList = trim s.toList) (x : t.Carrier) :
    t.ofValue (.text s') = .ok x ↔ t.ofValue (.text s) = .ok x := by
  obtain ⟨read, hread⟩ := exists_reader ht
  rw [hread, hread, h]

/-! ### Flags -/

theorem readBool_text_eq_some {b : Bool} (h : readBool (.text s) = some b) :
    s.toLower ∈ ["true", "1", "false", "0"] := by
  rw [readBool] at h
  split at h
  · next hword => rcases hword with hword | hword <;> simp [hword]
  · split at h
    · next hword => rcases hword with hword | hword <;> simp [hword]
    · cases h

/-- A flag is read from a text without blanks only. -/
theorem isBlank_of_ofValue_flag (ht : t.IsFlag) {x : t.Carrier} (h : t.ofValue (.text s) = .ok x) :
    ∀ c ∈ s.toList, isBlank c = false := by
  induction t with
  | bool =>
      have hwords : ∀ word ∈ ["true", "1", "false", "0"],
          (word.toList.all fun c => !isBlank c) = true := by decide
      have hread : readBool (.text s) = some x := orMismatch_eq_ok_iff.mp h
      have hword := hwords _ (readBool_text_eq_some hread)
      rw [List.all_eq_true] at hword
      exact isBlank_of_toLower (fun c hc => by simpa using hword c hc) rfl
  | optional t ih =>
      rw [ofValue_optional_text] at h
      obtain ⟨y, hy, -⟩ := map_eq_ok_iff.mp h
      exact ih ht hy
  | _ => exact ht.elim

/-- Blanks around a flag are refused. -/
theorem ofValue_flag_padded_iff (ht : t.IsFlag) (hbefore : AreBlank before.toList)
    (hafter : AreBlank after.toList) (x : t.Carrier) :
    t.ofValue (.text (before ++ s ++ after)) = .ok x ↔
      before = "" ∧ after = "" ∧ t.ofValue (.text s) = .ok x := by
  constructor
  · intro h
    have hnone := isBlank_of_ofValue_flag ht h
    simp only [String.toList_append, List.forall_mem_append] at hnone
    obtain rfl := AreBlank.eq_empty hbefore hnone.1.1
    obtain rfl := AreBlank.eq_empty hafter hnone.2
    exact ⟨rfl, rfl, by rwa [String.empty_append, String.append_empty] at h⟩
  · rintro ⟨rfl, rfl, h⟩
    rwa [String.empty_append, String.append_empty]

/-! ### All types -/

/-- Blanks around a text do not matter to the types that trim it, but flags are read only from texts
without them. -/
theorem ofValue_text_padded (s : String) {before after : String} (hbefore : AreBlank before.toList)
    (hafter : AreBlank after.toList) :
    (∀ t : FieldType, t.IsTrimming → ∀ x : t.Carrier,
      t.ofValue (.text (before ++ s ++ after)) = .ok x ↔ t.ofValue (.text s) = .ok x) ∧
    ∀ t : FieldType, t.IsFlag → ∀ x : t.Carrier,
      t.ofValue (.text (before ++ s ++ after)) = .ok x ↔
        before = "" ∧ after = "" ∧ t.ofValue (.text s) = .ok x := by
  refine ⟨fun t ht => ?_, fun t ht => ofValue_flag_padded_iff ht hbefore hafter⟩
  apply ofValue_text_iff_of_trim_eq ht
  rw [String.toList_append, String.toList_append, trim_append hbefore hafter]

/-- A day is read from a text between two kinds of blanks, a flag is not. -/
theorem ofValue_text_padded_leapDay :
    AreBlank "\u2003".toList ∧ AreBlank " \n".toList ∧
      IsTrimming (.optional .date) ∧ IsFlag (.optional .bool) ∧
      ofValue (.optional .date) (.text ("\u2003" ++ "2024-02-29" ++ " \n")) =
        .ok (some ⟨2024, 2, 29, by decide⟩) ∧
      ∀ x, ofValue (.optional .bool) (.text ("\u2003" ++ "1" ++ " \n")) ≠ .ok x := by
  have hbefore : AreBlank "\u2003".toList := by decide
  have hafter : AreBlank " \n".toList := by decide
  obtain ⟨htrimming, -⟩ := ofValue_text_padded "2024-02-29" hbefore hafter
  obtain ⟨-, hflag⟩ := ofValue_text_padded "1" hbefore hafter
  refine ⟨hbefore, hafter, trivial, trivial, (htrimming (.optional .date) trivial _).mpr ?_, ?_⟩
  · rfl
  · intro x h
    have hempty := ((hflag (.optional .bool) trivial x).mp h).1
    exact absurd hempty (by decide)

/-- A flag that is read, and refused with a blank before it. -/
theorem ofValue_text_padded_flag :
    AreBlank " ".toList ∧ ofValue .bool (.text "true") = .ok true ∧
      ∀ x, ofValue .bool (.text (" " ++ "true" ++ "")) ≠ .ok x := by
  have hread : readBool (.text "true") = some true := by decide +kernel
  refine ⟨by decide, orMismatch_eq_ok_iff.mpr hread, fun x h => ?_⟩
  have hempty := ((ofValue_flag_padded_iff (t := .bool) trivial (by decide) (by decide) x).mp h).1
  exact absurd hempty (by decide)

end FieldType

end EntitySql
