import RegexComposition.Proofs.Regex.Enumeration

/-!
# Cursors at boundaries

A cursor is asked for one byte offset after the other, in any order.  Beside the cursor that walks
over the characters it has left stands one that cuts a slice out of the text for each answer, and is
refused a slice that ends inside of a character or behind the end of the text.  Both stand at the
furthest boundary that they were asked for, so nothing that lies behind it moves them.

Main definitions:

- `Boundary.charsBefore` and `Boundary.bytesBefore`: what stands in front of a boundary of a text.
- `CharCursor.answers`: the answers to byte offsets that are asked for one after the other.
- `SliceCursor` and `SliceCursor.answers?`: the cursor that slices, whose answers can be refused.

Main results:

- `CharCursor.countsBoundaries` and `SliceCursor.countsBoundaries`: one answer, and where it leaves
  the cursor.
- `CountsBoundaries.mapM` and `CountsBoundaries.mapM_behind`: many answers, and one among them that
  lies behind the cursor.
- `SliceCursor.answers?_eq`: slices are refused just at offsets that are no boundaries, and without
  a refusal both cursors answer alike.
- `SliceCursor.answers?_ends`: no slice is refused at the ends of matches and their groups.
- `CharCursor.answers_boundaries`: every boundary is answered with the characters in front of it.
-/

namespace RegexComposition

/-! ## Boundaries of a text -/

namespace Boundary

variable {text : String} {p q : text.Pos}

/-- The number of characters in front of a boundary. -/
@[irreducible]
def charsBefore (p : text.Pos) : Nat := (text.sliceTo p).copy.length

/-- The number of bytes in front of a boundary. -/
def bytesBefore (p : text.Pos) : Nat := p.offset.byteIdx

/-- A later boundary has the slice in between in front of it. -/
theorem sliceTo_append_slice (h : p ≤ q) :
    (text.sliceTo p).copy ++ (text.slice p q h).copy = (text.sliceTo q).copy := by
  rcases String.copy_slice_eq_iff_splits.1 ⟨h, rfl⟩ with ⟨before, after, hp, hq⟩
  rw [hp.copy_sliceTo_eq, hq.copy_sliceTo_eq]

/-- Up to a later boundary the characters in between are counted as well. -/
theorem charsBefore_add (h : p ≤ q) :
    charsBefore p + (text.slice p q h).copy.length = charsBefore q := by
  rw [charsBefore, charsBefore, ← sliceTo_append_slice h, String.length_append]

/-- The bytes in front of a boundary are those of the text in front of it. -/
theorem bytesBefore_eq (p : text.Pos) : bytesBefore p = (text.sliceTo p).copy.utf8ByteSize := by
  rw [bytesBefore, p.splits.offset_eq_rawEndPos, String.byteIdx_rawEndPos]

/-- The text is what lies in front of a boundary and then what lies behind it. -/
theorem toList_ofString (p : text.Pos) : (Text.ofString text).chars.toList =
    (text.sliceTo p).copy.toList ++ (text.sliceFrom p).copy.toList := by
  rw [← String.toList_append, String.sliceTo_append_sliceFrom]
  rfl

/-- A boundary is a position of the text. -/
theorem charsBefore_le (p : text.Pos) : charsBefore p ≤ (Text.ofString text).size := by
  rw [charsBefore, Text.size, ← Array.length_toList, toList_ofString p, List.length_append,
    String.length_toList]
  exact Nat.le_add_right _ _

/-- The bytes in front of this position are those in front of the boundary. -/
theorem byteOffset_charsBefore (p : text.Pos) :
    (Text.ofString text).byteOffset (charsBefore p) = bytesBefore p := by
  rw [Text.byteOffset_eq, toList_ofString p, charsBefore, ← String.length_toList, List.take_left,
    ← Text.utf8ByteSize_ofList, String.ofList_toList, bytesBefore_eq]

/-- The characters behind this position are those behind the boundary. -/
theorem drop_charsBefore (p : text.Pos) :
    (Text.ofString text).chars.toList.drop (charsBefore p) = (text.sliceFrom p).copy.toList := by
  rw [toList_ofString p, charsBefore, ← String.length_toList, List.drop_left]

/-- Boundaries are in the order of their bytes. -/
theorem bytesBefore_lt_iff : bytesBefore q < bytesBefore p ↔ q < p := Iff.rfl

/-- The further one of two boundaries is the second one, unless it lies behind the first one. -/
theorem max_of_le (h : p ≤ q) : max p q = q := by
  rw [Std.max_eq_if]
  split
  · exact Std.le_antisymm h ‹q ≤ p›
  · rfl

/-- The further one of two boundaries is the first one if the second one lies behind it. -/
theorem max_of_lt (h : q < p) : max p q = p := by
  rw [Std.max_eq_if, if_pos (Std.le_of_lt h)]

/-- None of some boundaries is further than the furthest one. -/
theorem le_furthest {asked : List text.Pos} (hp : p ≤ q ∨ p ∈ asked) : p ≤ asked.foldl max q := by
  induction asked generalizing q with
  | nil => exact hp.resolve_right List.not_mem_nil
  | cons r asked ih =>
      apply ih
      rcases hp with hle | hmem
      · exact Or.inl (Std.le_trans hle Std.left_le_max)
      · rcases List.mem_cons.1 hmem with rfl | hmem
        · exact Or.inl Std.right_le_max
        · exact Or.inr hmem

/-- Byte offsets are boundaries up to the first one that is none. -/
theorem exists_boundaries (text : String) (bytes : List Nat) :
    ∃ (asked : List text.Pos) (later : List Nat), bytes = asked.map bytesBefore ++ later ∧
      ∀ byte ∈ later.head?, ¬ String.Pos.Raw.IsValid text ⟨byte⟩ := by
  induction bytes with
  | nil => exact ⟨[], [], rfl, by simp⟩
  | cons byte bytes ih =>
      by_cases hvalid : String.Pos.Raw.IsValid text ⟨byte⟩
      · rcases ih with ⟨asked, later, hbytes, hlater⟩
        exact ⟨⟨⟨byte⟩, hvalid⟩ :: asked, later, congrArg (byte :: ·) hbytes, hlater⟩
      · exact ⟨[], byte :: bytes, rfl, by simpa using hvalid⟩

end Boundary

open Boundary

/-! ## Asking for boundaries -/

section Asking

variable {m : Type → Type} [Monad m] {κ : Type} {text : String}

/-- A cursor at a boundary answers another boundary with the number of characters in front of it,
and is at the further one of the two afterwards. -/
def CountsBoundaries (call : Nat → StateT κ m Nat) (place : text.Pos → κ) : Prop :=
  ∀ p q : text.Pos, (call (bytesBefore q)).run (place p) = pure (charsBefore q, place (max p q))

namespace CountsBoundaries

variable [LawfulMonad m] {call : Nat → StateT κ m Nat} {place : text.Pos → κ}

/-- Boundaries that are asked for one after the other are all answered, and what comes behind them
is answered from the furthest one. -/
theorem mapM (h : CountsBoundaries call place) (p : text.Pos) (asked : List text.Pos)
    (later : List Nat) :
    ((asked.map bytesBefore ++ later).mapM call).run' (place p) =
      (asked.map charsBefore ++ ·) <$> (later.mapM call).run' (place (asked.foldl max p)) := by
  -- On the boundaries asked for, from every boundary at which the cursor may be.
  induction asked generalizing p with
  | nil => simp
  | cons q asked ih =>
      have hcons : ((bytesBefore q :: (asked.map bytesBefore ++ later)).mapM call).run' (place p) =
          (charsBefore q :: ·) <$>
            ((asked.map bytesBefore ++ later).mapM call).run' (place (max p q)) := by
        simp only [List.mapM_cons, StateT.run'_eq, StateT.run_bind, h p q, pure_bind,
          StateT.run_pure, map_eq_pure_bind, bind_assoc]
      rw [List.map_cons, List.cons_append, hcons, ih]
      simp

/-- Without a boundary that lies behind the cursor all others are answered in the same way. -/
theorem mapM_behind (h : CountsBoundaries call place) (p : text.Pos) {asked : List text.Pos}
    {back : text.Pos} (hback : back < asked.foldl max p) (later : List Nat) :
    (·.eraseIdx asked.length) <$>
        ((asked.map bytesBefore ++ bytesBefore back :: later).mapM call).run' (place p) =
      ((asked.map bytesBefore ++ later).mapM call).run' (place p) := by
  have hstays : ((bytesBefore back :: later).mapM call).run' (place (asked.foldl max p)) =
      (charsBefore back :: ·) <$> (later.mapM call).run' (place (asked.foldl max p)) := by
    have hback' := h.mapM (asked.foldl max p) [back] later
    rwa [List.foldl_cons, List.foldl_nil, max_of_lt hback] at hback'
  have herase (answers : List Nat) :
      (asked.map charsBefore ++ charsBefore back :: answers).eraseIdx asked.length =
        asked.map charsBefore ++ answers := by
    rw [List.eraseIdx_append_of_length_le (by simp)]
    simp
  rw [h.mapM, h.mapM, hstays, Functor.map_map, Functor.map_map]
  simp only [herase]

end CountsBoundaries

end Asking

/-! ## The cursor that walks -/

namespace CharCursor

variable {text : String}

/-- The answer to a byte offset, which moves the cursor. -/
def ask (byte : Nat) : StateM CharCursor Nat := fun c => c.offsetOf byte

/-- The answers to byte offsets that are asked for one after the other. -/
def answers (c : CharCursor) (bytes : List Nat) : List Nat := ((bytes.mapM ask).run c).1

@[simp]
theorem answers_nil (c : CharCursor) : c.answers [] = [] := rfl

/-- The cursor at a boundary. -/
def ofPos (p : text.Pos) : CharCursor :=
  ⟨text.toList, (text.sliceFrom p).copy.toList, bytesBefore p, charsBefore p⟩

/-- At first the cursor is at the first boundary. -/
theorem start_eq_ofPos (text : String) : start text.toList = ofPos text.startPos := by
  rw [start, ofPos, charsBefore, String.sliceFrom_startPos, String.copy_toSlice,
    String.copy_sliceTo_startPos]
  rfl

/-- The cursor at a boundary stands in the text. -/
theorem isAt_ofPos (p : text.Pos) : (ofPos p).IsAt (Text.ofString text) where
  text := rfl
  inside := charsBefore_le p
  rest := by rw [ofPos, drop_charsBefore]
  bytes := (byteOffset_charsBefore p).symm

/-- The cursor that walks counts boundaries. -/
theorem countsBoundaries (text : String) : CountsBoundaries ask (@ofPos text) := by
  intro p q
  rcases offsetOf_byteOffset (isAt_ofPos p) (charsBefore_le q) with ⟨hanswer, hnext⟩
  rw [byteOffset_charsBefore] at hanswer hnext
  change (ofPos p).offsetOf (bytesBefore q) = (charsBefore q, ofPos (max p q))
  refine Prod.ext hanswer ?_
  by_cases hbehind : q < p
  · rw [max_of_lt hbehind, offsetOf_of_lt (bytesBefore_lt_iff.2 hbehind)]
  · have hbytes : ¬ bytesBefore q < (ofPos p).bytes := mt bytesBefore_lt_iff.1 hbehind
    rw [max_of_le (Std.not_lt.1 hbehind)]
    exact hnext.eq_of_chars (isAt_ofPos q) ((chars_offsetOf hbytes).trans hanswer)

/-- From the begin of the text all boundaries are answered, and then what comes behind them. -/
theorem answers_append (asked : List text.Pos) (later : List Nat) :
    (start text.toList).answers (asked.map bytesBefore ++ later) =
      asked.map charsBefore ++ (ofPos (asked.foldl max text.startPos)).answers later := by
  rw [start_eq_ofPos]
  exact (countsBoundaries text).mapM text.startPos asked later

end CharCursor

/-! ## The cursor that slices -/

namespace Boundary

variable {text : String}

/-- The slice of a text between two byte offsets.  It is refused unless both are boundaries of the
text, the second one not behind the first one. -/
def slice? (text : String) (start stop : Nat) : Option String.Slice := do
  let first ← text.pos? ⟨start⟩
  let last ← text.pos? ⟨stop⟩
  text.slice? first last

/-- A boundary is found from its bytes. -/
theorem pos?_bytesBefore (p : text.Pos) : text.pos? ⟨bytesBefore p⟩ = some p := by
  have hvalid : String.Pos.Raw.isValidForSlice text.toSlice p.offset = true :=
    String.Pos.Raw.isValidForSlice_eq_true_iff.2
      (String.Pos.Raw.isValidForSlice_toSlice_iff.2 p.isValid)
  exact congrArg (Option.map String.Pos.ofToSlice) (dif_pos hvalid)

/-- Nothing else is found. -/
theorem pos?_eq_none {byte : Nat} (h : ¬ String.Pos.Raw.IsValid text ⟨byte⟩) :
    text.pos? ⟨byte⟩ = none := by
  have hvalid : ¬ String.Pos.Raw.isValidForSlice text.toSlice ⟨byte⟩ = true := fun htrue =>
    h (String.Pos.Raw.isValidForSlice_toSlice_iff.1
      (String.Pos.Raw.isValidForSlice_eq_true_iff.1 htrue))
  exact congrArg (Option.map String.Pos.ofToSlice) (dif_neg hvalid)

/-- The slice between two boundaries in their order is not refused. -/
theorem slice?_of_le {p q : text.Pos} (h : p ≤ q) :
    slice? text (bytesBefore p) (bytesBefore q) = some (text.slice p q h) := by
  rw [slice?, pos?_bytesBefore, pos?_bytesBefore]
  exact dif_pos h

/-- A slice up to anything else than a boundary is refused. -/
theorem slice?_eq_none {start stop : Nat} (h : ¬ String.Pos.Raw.IsValid text ⟨stop⟩) :
    slice? text start stop = none := by
  rw [slice?, pos?_eq_none h]
  cases text.pos? ⟨start⟩ <;> rfl

end Boundary

/-- A match begins at a boundary. -/
theorem Match.IsPartOf.isValid_start {m : Match} {text : String} (h : m.IsPartOf text) :
    String.Pos.Raw.IsValid text ⟨m.start⟩ := by
  rcases h.value with ⟨before, after, htext, hstart, -⟩
  rw [String.append_assoc] at htext
  exact String.Pos.Raw.isValid_iff_exists_append.2
    ⟨before, m.value ++ after, htext, String.Pos.Raw.ext hstart⟩

/-- A match ends at a boundary. -/
theorem Match.IsPartOf.isValid_stop {m : Match} {text : String} (h : m.IsPartOf text) :
    String.Pos.Raw.IsValid text ⟨m.stop⟩ := by
  rcases h.value with ⟨before, after, htext, -, hstop⟩
  exact String.Pos.Raw.isValid_iff_exists_append.2
    ⟨before ++ m.value, after, htext, String.Pos.Raw.ext hstop⟩

/-- A place in a text, by the bytes and the characters in front of it. -/
structure SliceCursor where
  text : String
  bytes : Nat
  chars : Nat
  deriving Repr, DecidableEq

namespace SliceCursor

variable {text : String}

/-- A cursor at the begin of a text. -/
def start (text : String) : SliceCursor := ⟨text, 0, 0⟩

/-- The number of characters in front of a byte offset, and the cursor there, unless the slice is
refused whose characters are counted.  For an offset behind the cursor this is the slice from the
begin, and the cursor stays. -/
def offsetOf? (c : SliceCursor) (byte : Nat) : Option (Nat × SliceCursor) :=
  if byte < c.bytes then do
    let slice ← slice? c.text 0 byte
    return (slice.copy.length, c)
  else do
    let slice ← slice? c.text c.bytes byte
    let next := c.chars + slice.copy.length
    return (next, { c with bytes := byte, chars := next })

/-- The answer to a byte offset, which moves the cursor. -/
def ask? (byte : Nat) : StateT SliceCursor Option Nat := fun c => c.offsetOf? byte

/-- The answers to byte offsets that are asked for one after the other, unless one is refused. -/
def answers? (c : SliceCursor) (bytes : List Nat) : Option (List Nat) :=
  ((bytes.mapM ask?).run c).map Prod.fst

@[simp]
theorem answers?_nil (c : SliceCursor) : c.answers? [] = some [] := rfl

/-- The cursor at a boundary. -/
def ofPos (p : text.Pos) : SliceCursor := ⟨text, bytesBefore p, charsBefore p⟩

/-- At first the cursor is at the first boundary. -/
theorem start_eq_ofPos (text : String) : start text = ofPos text.startPos := by
  rw [start, ofPos, charsBefore, String.copy_sliceTo_startPos]
  rfl

/-- The cursor that slices counts boundaries, and is not refused the slices. -/
theorem countsBoundaries (text : String) : CountsBoundaries ask? (@ofPos text) := by
  intro p q
  change (ofPos p).offsetOf? (bytesBefore q) = some (charsBefore q, ofPos (max p q))
  by_cases hbehind : q < p
  · have hbytes : bytesBefore q < (ofPos p).bytes := bytesBefore_lt_iff.2 hbehind
    have hslice : slice? (ofPos p).text 0 (bytesBefore q) = some (text.sliceTo q) := by
      rw [← String.slice_startPos]
      exact slice?_of_le (String.Pos.startPos_le q)
    rw [max_of_lt hbehind, offsetOf?, if_pos hbytes, hslice, charsBefore]
    rfl
  · have hbytes : ¬ bytesBefore q < (ofPos p).bytes := mt bytesBefore_lt_iff.1 hbehind
    have hle : p ≤ q := Std.not_lt.1 hbehind
    have hslice : slice? (ofPos p).text (ofPos p).bytes (bytesBefore q) =
        some (text.slice p q hle) := slice?_of_le hle
    rw [max_of_le hle, offsetOf?, if_neg hbytes, hslice, ofPos, ofPos, ← charsBefore_add hle]
    rfl

/-- From the begin of the text all boundaries are answered, and then what comes behind them. -/
theorem answers?_append (asked : List text.Pos) (later : List Nat) :
    (start text).answers? (asked.map bytesBefore ++ later) =
      ((ofPos (asked.foldl max text.startPos)).answers? later).map
        (asked.map charsBefore ++ ·) := by
  rw [start_eq_ofPos]
  exact (countsBoundaries text).mapM text.startPos asked later

/-- The answer to anything else than a boundary is refused, and so are all later ones. -/
theorem answers?_cons_eq_none (c : SliceCursor) {byte : Nat}
    (h : ¬ String.Pos.Raw.IsValid c.text ⟨byte⟩) (later : List Nat) :
    c.answers? (byte :: later) = none := by
  have hrefused : (ask? byte).run c = none := by
    change c.offsetOf? byte = none
    rw [offsetOf?, slice?_eq_none h, slice?_eq_none h]
    exact ite_self none
  rw [answers?, List.mapM_cons, StateT.run_bind, hrefused]
  rfl

/-- All slices are cut if all offsets are boundaries, and then both cursors answer alike. -/
theorem answers?_eq (text : String) (bytes : List Nat) :
    (start text).answers? bytes =
      if ∀ byte ∈ bytes, String.Pos.Raw.IsValid text ⟨byte⟩ then
        some ((CharCursor.start text.toList).answers bytes)
      else none := by
  -- Up to the first offset that is no boundary both answer alike, and there the slice is refused.
  rcases exists_boundaries text bytes with ⟨asked, later, rfl, hlater⟩
  rw [answers?_append, CharCursor.answers_append]
  cases later with
  | nil =>
      have hvalid : ∀ byte ∈ asked.map bytesBefore ++ [],
          String.Pos.Raw.IsValid text ⟨byte⟩ := by
        intro byte hbyte
        rw [List.append_nil] at hbyte
        rcases List.mem_map.1 hbyte with ⟨p, -, rfl⟩
        exact p.isValid
      rw [if_pos hvalid]
      rfl
  | cons byte later =>
      have hbyte : ¬ String.Pos.Raw.IsValid text ⟨byte⟩ := hlater byte rfl
      have hrefused := answers?_cons_eq_none (ofPos (asked.foldl max text.startPos)) hbyte later
      rw [hrefused, if_neg fun hvalid => hbyte (hvalid byte (by simp))]
      rfl

/-- At the ends of matches and of groups that have taken part no slice is refused. -/
theorem answers?_ends (r : Regex) (text : String) {bytes : List Nat}
    (h : ∀ byte ∈ bytes, ∃ groups ∈ r.capturesIn text, ∃ m, some m ∈ groups.groups ∧
      (byte = m.start ∨ byte = m.stop)) :
    (start text).answers? bytes = some ((CharCursor.start text.toList).answers bytes) := by
  rw [answers?_eq, if_pos]
  intro byte hbyte
  rcases h byte hbyte with ⟨groups, hgroups, m, hm, hend⟩
  rcases List.mem_map.1 hgroups with ⟨o, ho, rfl⟩
  have hpart := Regex.isPartOf_of_mem_groups (Regex.isMatchOf_of_mem_occurrences ho) hm
  rcases hend with rfl | rfl
  · exact hpart.isValid_start
  · exact hpart.isValid_stop

end SliceCursor

/-! ## Answers in any order -/

namespace CharCursor

/-- Boundaries of a text that a new cursor is asked for, in any order, are all answered with the
number of characters in front of them, and no slice that is cut for them is refused, as one would be
at any other offset.  A boundary that lies behind the cursor can be left out, and all others are
answered as before, whatever offsets are asked for later and whether or not they are refused. -/
theorem answers_boundaries (text : String) (asked : List text.Pos) :
    (start text.toList).answers (asked.map bytesBefore) = asked.map charsBefore ∧
    (SliceCursor.start text).answers? (asked.map bytesBefore) = some (asked.map charsBefore) ∧
    (∀ bytes : List Nat, (SliceCursor.start text).answers? bytes ≠ none ↔
      ∀ byte ∈ bytes, String.Pos.Raw.IsValid text ⟨byte⟩) ∧
    ∀ back : text.Pos, (∃ p ∈ asked, back < p) → ∀ later : List Nat,
      ((start text.toList).answers
          (asked.map bytesBefore ++ bytesBefore back :: later)).eraseIdx asked.length =
        (start text.toList).answers (asked.map bytesBefore ++ later) ∧
      ((SliceCursor.start text).answers?
          (asked.map bytesBefore ++ bytesBefore back :: later)).map (·.eraseIdx asked.length) =
        (SliceCursor.start text).answers? (asked.map bytesBefore ++ later) := by
  refine ⟨?_, ?_, ?_, ?_⟩
  · simpa using answers_append asked []
  · simpa using SliceCursor.answers?_append asked []
  · intro bytes
    rw [SliceCursor.answers?_eq]
    simp
  · intro back ⟨p, hp, hbehind⟩ later
    have hback : back < asked.foldl max text.startPos :=
      Std.lt_of_lt_of_le hbehind (le_furthest (Or.inr hp))
    rw [start_eq_ofPos, SliceCursor.start_eq_ofPos]
    exact ⟨(countsBoundaries text).mapM_behind text.startPos hback later,
      (SliceCursor.countsBoundaries text).mapM_behind text.startPos hback later⟩

/-- In a text of characters of all sizes the cursor goes back and forth, and one offset lies inside
of a character. -/
theorem answers_boundaries_jumps :
    ∃ (asked : List "aß€😀".Pos) (back : "aß€😀".Pos),
      asked.map bytesBefore = [6, 1, 10] ∧ bytesBefore back = 3 ∧ (∃ p ∈ asked, back < p) ∧
      (start "aß€😀".toList).answers [6, 1, 10] = [3, 1, 4] ∧
      (SliceCursor.start "aß€😀").answers? [6, 1, 10] = some [3, 1, 4] ∧
      (SliceCursor.start "aß€😀").answers? [6, 2] = none ∧
      ((start "aß€😀".toList).answers [6, 1, 10, 3, 6]).eraseIdx 3 =
        (start "aß€😀".toList).answers [6, 1, 10, 6] ∧
      ((SliceCursor.start "aß€😀").answers? [6, 1, 10, 3, 6]).map (·.eraseIdx 3) =
        (SliceCursor.start "aß€😀").answers? [6, 1, 10, 6] := by
  let p6 : "aß€😀".Pos := ⟨⟨6⟩, by decide⟩
  let p1 : "aß€😀".Pos := ⟨⟨1⟩, by decide⟩
  let p10 : "aß€😀".Pos := ⟨⟨10⟩, by decide⟩
  let back : "aß€😀".Pos := ⟨⟨3⟩, by decide⟩
  have hbehind : ∃ p ∈ [p6, p1, p10], back < p := ⟨p6, List.mem_cons_self, by decide⟩
  have hcount : [p6, p1, p10].map charsBefore = [3, 1, 4] := by decide +kernel
  rcases answers_boundaries "aß€😀" [p6, p1, p10] with ⟨hwalks, hslices, hrefused, hlater⟩
  rw [hcount] at hwalks hslices
  have hinside : ¬ ∀ byte ∈ [6, 2], String.Pos.Raw.IsValid "aß€😀" ⟨byte⟩ := by decide
  exact ⟨_, _, rfl, rfl, hbehind, hwalks, hslices, not_ne_iff.1 (mt (hrefused [6, 2]).1 hinside),
    hlater back hbehind [6]⟩

end CharCursor

end RegexComposition
