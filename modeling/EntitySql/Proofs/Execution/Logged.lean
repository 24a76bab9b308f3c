import Mathlib.Order.Bounds.Basic
import EntitySql.Execution.Config

/-!
# Logged statements

A statement that is longer than the configured limit is logged in part. The limit counts bytes and
may fall into a character. The cut then goes back to where the character starts, so that what is
logged is a text again, and the longest one that fits.

## Main definitions

* `Text.IsLongestStart` : the longest start of a text that has at most a number of bytes.

## Main results

* `Text.isGreatest_cutPos` : a text is cut at the last place that is not behind the limit.
* `Text.le_cutPos_add_three` : a cut goes back three bytes at most.
* `Config.loggedSql_cut` : what is logged of a statement.
-/

namespace EntitySql

open Text

namespace Text

variable {s start rest : String} {limit : Nat}

/-- The longest start of a text that has at most a number of bytes: every other start with so few
bytes is a start of it. -/
structure IsLongestStart (limit : Nat) (s start : String) : Prop where
  isStart : ∃ rest, s = start ++ rest
  utf8ByteSize_le : start.utf8ByteSize ≤ limit
  longest : ∀ t after, s = t ++ after → t.utf8ByteSize ≤ limit → ∃ more, start = t ++ more

/-- A text is cut at the last place between characters that is not behind the limit. -/
theorem isGreatest_cutPos (s : String) (limit : Nat) :
    IsGreatest {k | k ≤ limit ∧ String.Pos.Raw.IsValid s ⟨k⟩} (cutPos s limit).offset.byteIdx := by
  induction limit with
  | zero => exact ⟨⟨le_rfl, String.Pos.Raw.isValid_zero⟩, fun k hk => hk.1⟩
  | succ limit ih =>
      by_cases h : String.Pos.Raw.IsValid s ⟨limit + 1⟩
      · rw [cutPos, dif_pos h]
        exact ⟨⟨le_rfl, h⟩, fun k hk => hk.1⟩
      · rw [cutPos, dif_neg h]
        -- No place is at the limit itself, so the last one is that of the byte before.
        refine ⟨⟨Nat.le_succ_of_le ih.1.1, ih.1.2⟩, fun k hk => ih.2 ⟨?_, hk.2⟩⟩
        have hne : k ≠ limit + 1 := by
          rintro rfl
          exact h hk.2
        exact Nat.le_of_lt_succ (lt_of_le_of_ne hk.1 hne)

theorem cutPos_le (s : String) (limit : Nat) : (cutPos s limit).offset.byteIdx ≤ limit :=
  (isGreatest_cutPos s limit).1.1

theorem le_cutPos {k : Nat} (hk : k ≤ limit) (h : String.Pos.Raw.IsValid s ⟨k⟩) :
    k ≤ (cutPos s limit).offset.byteIdx :=
  (isGreatest_cutPos s limit).2 ⟨hk, h⟩

/-- The text before the place of a cut is the longest one that fits. -/
theorem isLongestStart_of_splits (h : (cutPos s limit).Splits start rest) :
    IsLongestStart limit s start where
  isStart := ⟨rest, h.eq_append⟩
  utf8ByteSize_le := by
    have hle := cutPos_le s limit
    rwa [h.offset_eq_rawEndPos, String.byteIdx_rawEndPos] at hle
  longest := by
    intro t after ht hlimit
    have hvalid : String.Pos.Raw.IsValid s t.rawEndPos :=
      String.Pos.Raw.isValid_iff_exists_append.mpr ⟨t, after, ht, rfl⟩
    have hsplits : (s.pos t.rawEndPos hvalid).Splits t after := ⟨ht, rfl⟩
    have hle : s.pos t.rawEndPos hvalid ≤ cutPos s limit := le_cutPos hlimit hvalid
    obtain ⟨more, hmore, -⟩ := (hsplits.le_iff_exists_eq_append h).mp hle
    exact ⟨more, hmore⟩

theorem cutPos_ne_endPos (h : limit < s.utf8ByteSize) : cutPos s limit ≠ s.endPos := by
  intro heq
  have hle := cutPos_le s limit
  rw [heq, String.offset_endPos, String.byteIdx_rawEndPos] at hle
  exact absurd h (Nat.not_lt.mpr hle)

/-- A cut goes back three bytes at most: the character behind it ends behind the limit, and has four
bytes at most. -/
theorem le_cutPos_add_three (h : limit < s.utf8ByteSize) :
    limit ≤ (cutPos s limit).offset.byteIdx + 3 := by
  have hne := cutPos_ne_endPos h
  have hnext := (cutPos s limit).byteIdx_offset_next hne
  have hbehind : limit < ((cutPos s limit).next hne).offset.byteIdx := by
    by_contra hnot
    have hle := le_cutPos (Nat.not_lt.mp hnot) ((cutPos s limit).next hne).isValid
    have hpos := ((cutPos s limit).get hne).utf8Size_pos
    omega
  have hfour := ((cutPos s limit).get hne).utf8Size_le_four
  omega

/-- A text that does not fit is cut, and an ellipsis stands for the rest. -/
theorem truncated_of_splits (h : (cutPos s limit).Splits start rest)
    (hlimit : limit < s.utf8ByteSize) : truncated (some limit) s = start ++ "..." := by
  rw [truncated, if_neg (Nat.not_le.mpr hlimit), h.copy_sliceTo_eq]

end Text

/-- Without a limit, or within it, a statement is logged as it is. Otherwise its longest start that
fits is logged, with an ellipsis. The cut lies between two characters; it is found from the limit in
three steps at most, each from a byte at which a character would be cut to the byte before. -/
theorem Config.loggedSql_cut (c : Config) (sql : String) :
    (c.maxSqlLength = none → c.loggedSql sql = sql) ∧
    ∀ limit, c.maxSqlLength = some limit →
      (sql.utf8ByteSize ≤ limit → c.loggedSql sql = sql) ∧
      (limit < sql.utf8ByteSize → ∃ start rest steps,
        (cutPos sql limit).Splits start rest ∧ c.loggedSql sql = start ++ "..." ∧
        IsLongestStart limit sql start ∧
        start.utf8ByteSize + steps = limit ∧ steps ≤ 3 ∧
        ∀ k < steps, ¬ String.Pos.Raw.IsValid sql ⟨limit - k⟩) := by
  unfold loggedSql
  refine ⟨fun h => by rw [h, truncated], fun limit h => ?_⟩
  rw [h]
  refine ⟨fun hfits => if_pos hfits, fun hlong => ?_⟩
  have hsplits := (cutPos sql limit).splits
  have hsize : (cutPos sql limit).offset.byteIdx =
      (sql.sliceTo (cutPos sql limit)).copy.utf8ByteSize := by
    rw [hsplits.offset_eq_rawEndPos, String.byteIdx_rawEndPos]
  have hback := le_cutPos_add_three hlong
  have hle := cutPos_le sql limit
  refine ⟨_, _, limit - (cutPos sql limit).offset.byteIdx, hsplits,
    truncated_of_splits hsplits hlong, isLongestStart_of_splits hsplits, ?_, ?_, ?_⟩
  · omega
  · omega
  · intro k hk hvalid
    have hnot := le_cutPos (Nat.sub_le limit k) hvalid
    omega

/-- A limit inside a character gives back the bytes of the character before it. -/
example : truncated (some 5) "abcdé" = "abcd..." := by decide

end EntitySql
