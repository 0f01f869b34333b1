import RegexComposition.Proofs.Fragment.Denotation

/-!
# Reading an escaped text

An escaped text is read from left to right: a backslash and the character behind it stand for that
character, and every other character stands for itself.

Main results:

- `EscapedPiece.ofText`: the pieces of a text that is read in this way.
- `Escapes.ofText_eq`: the pieces of an escaped text.
- `unpaired_eq_self_iff`: which texts have a pair of backslashes.
- `escapeLiteral_decodes`: what can be read out of the source of a literal.
-/

namespace RegexComposition

/-! ## Pieces -/

/-- A piece of a text in which a backslash escapes the character behind it. -/
inductive EscapedPiece where
  | plain (c : Char)
  | escaped (c : Char)
  /-- A backslash at the end, which escapes nothing. -/
  | dangling
  deriving Repr, DecidableEq

namespace EscapedPiece

/-- The pieces of a text, from left to right. -/
def ofText : List Char → List EscapedPiece
  | '\\' :: c :: rest => escaped c :: ofText rest
  | ['\\'] => [dangling]
  | c :: rest => plain c :: ofText rest
  | [] => []

/-- The characters that a piece is written with. -/
def spelling : EscapedPiece → List Char
  | plain c => [c]
  | escaped c => ['\\', c]
  | dangling => ['\\']

/-- The character that a piece stands for. -/
def char : EscapedPiece → Char
  | plain c => c
  | escaped c => c
  | dangling => '\\'

/-- The piece that stands for a character and can be read in a pattern. -/
def ofChar (c : Char) : EscapedPiece := if isMetaCharacter c then escaped c else plain c

@[simp]
theorem char_ofChar (c : Char) : (ofChar c).char = c := by
  unfold ofChar
  split <;> rfl

/-- The pieces of a text make up the text. -/
theorem flatMap_spelling_ofText (text : List Char) : (ofText text).flatMap spelling = text := by
  induction text using ofText.induct with
  | case1 c rest ih => simp [ofText, spelling, ih]
  | case2 => rfl
  | case3 c rest hescape hend ih =>
      rw [ofText, List.flatMap_cons, ih, spelling, List.singleton_append]
      · exact hescape
      · exact hend
  | case4 => rfl

/-- Without a backslash in front a character is a piece of its own. -/
theorem ofText_cons {c : Char} (hc : c ≠ '\\') (rest : List Char) :
    ofText (c :: rest) = plain c :: ofText rest := by
  rw [ofText]
  · rintro d rest' rfl
    exact absurd rfl hc
  · rintro rfl
    exact absurd rfl hc

end EscapedPiece

/-- The text that is left when every backslash is taken away from the character that it escapes. -/
def unescape (text : String) : String :=
  String.ofList ((EscapedPiece.ofText text.toList).map EscapedPiece.char)

/-! ## Escaped texts -/

namespace Escapes

variable {text text' source source' : List Char}

/-- Exactly the meta characters of the text are escaped. -/
theorem ofText_eq (h : Escapes text source) :
    EscapedPiece.ofText source = text.map EscapedPiece.ofChar := by
  induction h with
  | nil => rfl
  | @plain c text source hc _ ih =>
      have hne : c ≠ '\\' := by
        rintro rfl
        cases hc
      rw [EscapedPiece.ofText_cons hne, ih, List.map_cons, EscapedPiece.ofChar, hc]
      rfl
  | @escaped c text source hc _ ih =>
      rw [EscapedPiece.ofText, ih, List.map_cons, EscapedPiece.ofChar, if_pos hc]

/-- The text can be read out of its source. -/
theorem map_char_ofText (h : Escapes text source) :
    (EscapedPiece.ofText source).map EscapedPiece.char = text := by
  rw [h.ofText_eq, List.map_map]
  exact List.map_id'' EscapedPiece.char_ofChar text

/-- There is one source for every text and one text for every source. -/
theorem eq_iff (h : Escapes text source) (h' : Escapes text' source') :
    source = source' ↔ text = text' := by
  constructor
  · rintro rfl
    rw [← h.map_char_ofText, h'.map_char_ofText]
  · rintro rfl
    rw [← EscapedPiece.flatMap_spelling_ofText source, h.ofText_eq, ← h'.ofText_eq,
      EscapedPiece.flatMap_spelling_ofText]

end Escapes

/-! ## Pairs of backslashes -/

theorem length_unpaired_le (text : List Char) : (unpaired text).length ≤ text.length := by
  induction text using unpaired.induct with
  | case1 rest ih =>
      simp only [unpaired, List.length_cons]
      omega
  | case2 c rest hpair ih =>
      rw [unpaired, List.length_cons, List.length_cons]
      · omega
      · exact hpair
  | case3 => rfl

/-- A text without two backslashes next to each other stays as it is, and no other text does. -/
theorem unpaired_eq_self_iff {text : List Char} :
    unpaired text = text ↔ ¬ ['\\', '\\'] <:+: text := by
  induction text using unpaired.induct with
  | case1 rest ih =>
      refine iff_of_false (fun heq => ?_) (not_not.2 ⟨[], rest, rfl⟩)
      have hlength := congrArg List.length heq
      have hle := length_unpaired_le rest
      simp only [unpaired, List.length_cons] at hlength
      omega
  | case2 c rest hpair ih =>
      have hstart : ¬ ['\\', '\\'] <+: c :: rest := by
        rintro ⟨after, hafter⟩
        obtain ⟨rfl, rfl⟩ := List.cons.inj hafter
        exact hpair after rfl rfl
      rw [unpaired, List.cons_inj_right, ih, List.infix_cons_iff]
      · simp only [hstart, false_or]
      · exact hpair
  | case3 => simp [unpaired]

/-- The source of a text is read without a backslash being left over.  In it exactly the meta
characters are escaped, and what it stands for is the text with each pair of backslashes, from left
to right, read as one.  So this is the text itself exactly if that has no two backslashes next to
each other, and two texts have one source exactly if they agree in this reading. -/
theorem escapeLiteral_decodes (text other : String) :
    (.dangling ∉ EscapedPiece.ofText (escapeLiteral text).toList ∧
      ∀ c, (.plain c ∈ EscapedPiece.ofText (escapeLiteral text).toList →
          isMetaCharacter c = false) ∧
        (.escaped c ∈ EscapedPiece.ofText (escapeLiteral text).toList →
          isMetaCharacter c = true)) ∧
    unescape (escapeLiteral text) = String.ofList (unpaired text.toList) ∧
    (unescape (escapeLiteral text) = text ↔ ¬ ['\\', '\\'] <:+: text.toList) ∧
    (escapeLiteral text = escapeLiteral other ↔
      unpaired text.toList = unpaired other.toList) := by
  have hescapes : ∀ text : String, Escapes (unpaired text.toList) (escapeLiteral text).toList := by
    intro text
    rw [escapeLiteral, String.toList_ofList]
    exact escapes_escapeChars text.toList
  have hunescape : unescape (escapeLiteral text) = String.ofList (unpaired text.toList) := by
    rw [unescape, (hescapes text).map_char_ofText]
  refine ⟨?_, hunescape, ?_, ?_⟩
  · simp only [(hescapes text).ofText_eq, List.mem_map, EscapedPiece.ofChar]
    refine ⟨?_, fun c => ⟨?_, ?_⟩⟩
    all_goals
      rintro ⟨d, -, hd⟩
      split at hd
    all_goals cases hd
    · exact Bool.eq_false_iff.2 ‹_›
    · assumption
  · rw [hunescape, ← unpaired_eq_self_iff, ← String.toList_inj, String.toList_ofList]
  · rw [← String.toList_inj, (hescapes text).eq_iff (hescapes other)]

/-- Of three backslashes the first two are a pair, and the third one and the dot are escaped. -/
example : escapeLiteral "\\\\\\." = "\\\\\\\\\\." ∧ unescape "\\\\\\\\\\." = "\\\\." := by
  decide +kernel

end RegexComposition
