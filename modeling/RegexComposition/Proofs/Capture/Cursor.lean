import Mathlib.Tactic.Common
import RegexComposition.Capture.Cursor

/-!
# Offsets in characters

A cursor gives the number of characters in front of every byte offset that lies between two
characters, in whatever order it is asked for them.

Main results:

- `CharCursor.IsAt`: a cursor stands between two characters.
- `CharCursor.IsAt.eq_of_chars`: where it stands is known from the characters that it has passed.
- `CharCursor.offsetOf_byteOffset`: it finds every position of the text from its byte offset.
-/

namespace RegexComposition

namespace Text

/-- The bytes in front of a position are those of the characters in front of it. -/
theorem byteOffset_eq (t : Text) (i : Nat) :
    t.byteOffset i = utf8Length (t.chars.toList.take i) := by
  rw [byteOffset, charsOf, Array.toList_extract]
  simp [List.extract]

/-- Further right there are more bytes in front. -/
theorem utf8Length_take_lt {chars : List Char} {i j : Nat} (hij : i < j) (hj : j ≤ chars.length) :
    utf8Length (chars.take i) < utf8Length (chars.take j) := by
  induction chars generalizing i j with
  | nil =>
      rw [List.length_nil] at hj
      omega
  | cons c chars ih =>
      cases j with
      | zero => omega
      | succ j =>
          have hsize : 0 < c.utf8Size := c.utf8Size_pos
          rw [List.take_succ_cons, utf8Length]
          cases i with
          | zero =>
              rw [List.take_zero, utf8Length]
              omega
          | succ i =>
              have hlt := ih (Nat.lt_of_succ_lt_succ hij) (Nat.le_of_succ_le_succ hj)
              rw [List.take_succ_cons, utf8Length]
              omega

end Text

namespace CharCursor

open Text

/-- Counting up to the bytes of some characters counts these characters. -/
theorem countTo_utf8Length {chars : List Char} {i : Nat} (hi : i ≤ chars.length) :
    countTo (utf8Length (chars.take i)) chars = i := by
  induction chars generalizing i with
  | nil =>
      obtain rfl : i = 0 := Nat.le_zero.1 hi
      rfl
  | cons c chars ih =>
      have hsize : 0 < c.utf8Size := c.utf8Size_pos
      cases i with
      | zero =>
          rw [List.take_zero, utf8Length, countTo, if_neg (by omega)]
      | succ i =>
          rw [List.take_succ_cons, utf8Length, countTo, if_pos (Nat.le_add_right _ _),
            Nat.add_sub_cancel_left, ih (Nat.le_of_succ_le_succ hi)]

/-- The cursor stands in the text in front of the characters that it has left. -/
structure IsAt (c : CharCursor) (t : Text) : Prop where
  text : c.text = t.chars.toList
  inside : c.chars ≤ t.size
  rest : c.rest = t.chars.toList.drop c.chars
  bytes : c.bytes = t.byteOffset c.chars

/-- At first the cursor stands at the begin. -/
theorem isAt_start (t : Text) : (start t.chars.toList).IsAt t :=
  ⟨rfl, Nat.zero_le _, rfl, by rw [byteOffset_eq]; rfl⟩

/-- An offset behind the cursor does not move it. -/
theorem offsetOf_of_lt {c : CharCursor} {byte : Nat} (h : byte < c.bytes) :
    c.offsetOf byte = (countTo byte c.text, c) := if_pos h

/-- At any other offset the cursor has passed as many characters as it answers. -/
theorem chars_offsetOf {c : CharCursor} {byte : Nat} (h : ¬ byte < c.bytes) :
    (c.offsetOf byte).2.chars = (c.offsetOf byte).1 := by
  rw [offsetOf, if_neg h]

/-- Where the cursor stands is known from the characters that it has passed. -/
theorem IsAt.eq_of_chars {c c' : CharCursor} {t : Text} (hc : c.IsAt t) (hc' : c'.IsAt t)
    (hchars : c.chars = c'.chars) : c = c' := by
  rcases c with ⟨text, rest, bytes, chars⟩
  rcases c' with ⟨text', rest', bytes', chars'⟩
  rcases hc with ⟨htext, -, hrest, hbytes⟩
  rcases hc' with ⟨htext', -, hrest', hbytes'⟩
  dsimp only at *
  rw [htext, htext', hrest, hrest', hbytes, hbytes', hchars]

/-- The cursor finds every position from its byte offset. -/
theorem offsetOf_byteOffset {c : CharCursor} {t : Text} (hc : c.IsAt t) {i : Nat}
    (hi : i ≤ t.size) :
    (c.offsetOf (t.byteOffset i)).1 = i ∧ (c.offsetOf (t.byteOffset i)).2.IsAt t := by
  have hlength : t.chars.toList.length = t.size := by simp [size]
  unfold offsetOf
  by_cases hbehind : t.byteOffset i < c.bytes
  · rw [if_pos hbehind, hc.text, byteOffset_eq]
    exact ⟨countTo_utf8Length (hlength ▸ hi), hc⟩
  · have hle : c.chars ≤ i := by
      by_contra hlt
      have hbytes := utf8Length_take_lt (Nat.lt_of_not_le hlt) (hlength ▸ hc.inside)
      rw [hc.bytes, byteOffset_eq, byteOffset_eq] at hbehind
      exact hbehind hbytes
    have hsplit : t.byteOffset i - c.bytes =
        utf8Length ((t.chars.toList.drop c.chars).take (i - c.chars)) := by
      have htake : t.chars.toList.take i = t.chars.toList.take c.chars ++
          (t.chars.toList.drop c.chars).take (i - c.chars) := by
        rw [← List.take_add, Nat.add_sub_cancel' hle]
      rw [hc.bytes, byteOffset_eq, byteOffset_eq, htake, utf8Length_append,
        Nat.add_sub_cancel_left]
    have hpassed : countTo (t.byteOffset i - c.bytes) c.rest = i - c.chars := by
      rw [hsplit, hc.rest]
      apply countTo_utf8Length
      rw [List.length_drop, hlength]
      omega
    have hnext : c.chars + (i - c.chars) = i := Nat.add_sub_cancel' hle
    rw [if_neg hbehind]
    dsimp only
    rw [hpassed, hnext]
    refine ⟨rfl, hc.text, hi, ?_, rfl⟩
    rw [hc.rest, List.drop_drop, hnext]

end CharCursor

end RegexComposition
