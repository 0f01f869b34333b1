import Mathlib.Tactic.Common
import RegexComposition.Pattern.Escape

/-!
# Neutral texts

A scan over a pattern source that knows of backslashes, brackets and parentheses only passes
over most characters without noticing.  This module finds such characters: digits, numerals,
the names of properties and what spells an escape.

Main results:

- `NeutralText`, `ClassText`: texts that open and close nothing, and the rest of a class.
- `Numeral.neutralFor_unicodeNumeral?`: the code point after `\u` is neutral.
- `Escape.neutralFor_readAt`: an escape is neutral, except for the backslash of an incomplete
  `\c`.
-/

namespace RegexComposition

/-- If a character occurs in a text, the first occurrence stands behind what was passed over. -/
theorem takeWhile_ne_append {x : Char} {l : List Char}
    (h : (l.takeWhile (· != x)).length < l.length) :
    ∃ rest, l = l.takeWhile (· != x) ++ x :: rest := by
  have hl := List.takeWhile_append_dropWhile (p := (· != x)) (l := l)
  cases hrest : l.dropWhile (· != x) with
  | nil =>
      rw [hrest, List.append_nil] at hl
      rw [hl] at h
      exact absurd h (Nat.lt_irrefl _)
  | cons d rest =>
      have hd : d = x := by
        have := List.head?_dropWhile_not (· != x) l
        simpa [hrest] using this
      rw [hrest, hd] at hl
      exact ⟨rest, hl.symm⟩

/-- The text in front of the first occurrence of a character. -/
theorem takeWhile_ne_of_notMem {x : Char} {l rest : List Char} (h : x ∉ l) :
    (l ++ x :: rest).takeWhile (· != x) = l := by
  rw [List.takeWhile_append_of_pos, List.takeWhile_cons_of_neg (by simp), List.append_nil]
  intro c hc
  rw [bne_iff_ne]
  rintro rfl
  exact h hc

/-- A character of a text stands before, at or behind the first `x`. -/
theorem mem_takeWhile_ne_or {x c : Char} {l : List Char} (hc : c ∈ l) :
    c ∈ l.takeWhile (· != x) ∨
      x ∈ l ∧ (c = x ∨ c ∈ l.drop ((l.takeWhile (· != x)).length + 1)) := by
  by_cases hlength : (l.takeWhile (· != x)).length < l.length
  · rcases takeWhile_ne_append hlength with ⟨rest, hl⟩
    have hx : x ∈ l := by
      rw [hl]
      simp
    have hdrop : l.drop ((l.takeWhile (· != x)).length + 1) = rest := by
      nth_rewrite 2 [hl]
      rw [← List.drop_drop, List.drop_left]
      rfl
    rw [hdrop]
    rw [hl, List.mem_append, List.mem_cons] at hc
    exact hc.imp_right fun h => ⟨hx, h⟩
  · have hwhole : l.takeWhile (· != x) = l :=
      (List.takeWhile_prefix _).eq_of_length_le (Nat.le_of_not_lt hlength)
    exact Or.inl (hwhole.symm ▸ hc)

/-! ## Inert characters -/

/-- A character that neither escapes, opens nor closes anything, and ends no group name. -/
def IsInert (c : Char) : Prop := c ∉ ['\\', '[', ']', '(', ')', '>']

instance : DecidablePred IsInert := fun c => inferInstanceAs (Decidable (c ∉ _))

/-- A list of characters that has been tested for inert characters. -/
theorem isInert_of_all {l : List Char} (h : l.all (fun c => decide (IsInert c)) = true) :
    ∀ c ∈ l, IsInert c := by
  simpa using h

/-- Whether no byte of a text spells a character that is not inert. -/
def hasInertBytes (s : String) : Bool :=
  s.toUTF8.data.toList.all fun b => decide (IsInert (Char.ofNat b.toNat))

/-- The byte that a character of ASCII is spelled by. -/
theorem utf8EncodeChar_of_lt {c : Char} (h : c.toNat < 128) :
    String.utf8EncodeChar c = [UInt8.ofNat c.toNat] := by
  have hle : c.toNat ≤ 127 := Nat.le_of_lt_succ h
  simp [String.utf8EncodeChar, hle]

/-- The bytes of a character of a text are bytes of the text. -/
theorem utf8EncodeChar_subset {s : String} {c : Char} (hc : c ∈ s.toList) :
    String.utf8EncodeChar c ⊆ s.toUTF8.data.toList := by
  have hbytes : s.toUTF8 = s.toList.utf8Encode := by simp
  rw [hbytes, List.utf8Encode, List.data_toByteArray]
  exact fun b hb => List.mem_flatMap.2 ⟨c, hc, hb⟩

/-- A text with inert bytes is inert.  On long tables this is tested faster than the characters,
which would have to be decoded first. -/
theorem isInert_of_bytes {s : String} (h : hasInertBytes s = true) :
    ∀ c ∈ s.toList, IsInert c := by
  intro c hc hspecial
  have hascii : c.toNat < 128 := by
    simp only [List.mem_cons, List.not_mem_nil, or_false] at hspecial
    rcases hspecial with rfl | rfl | rfl | rfl | rfl | rfl <;> decide
  have hmem : UInt8.ofNat c.toNat ∈ s.toUTF8.data.toList :=
    utf8EncodeChar_subset hc (by simp [utf8EncodeChar_of_lt hascii])
  have hinert : IsInert (Char.ofNat (UInt8.ofNat c.toNat).toNat) := by
    simpa using List.all_eq_true.1 h _ hmem
  rw [UInt8.toNat_ofNat_of_lt' (Nat.lt_trans hascii (by decide)), Char.ofNat_toNat] at hinert
  exact hinert hspecial

/-! ## Neutral texts and the rest of a class -/

/-- A text outside of classes that opens and closes nothing. -/
inductive NeutralText : List Char → Prop
  | nil : NeutralText []
  | inert {c : Char} {l : List Char} : IsInert c → NeutralText l → NeutralText (c :: l)
  | nameEnd {l : List Char} : NeutralText l → NeutralText ('>' :: l)
  | escaped (c : Char) {l : List Char} : NeutralText l → NeutralText ('\\' :: c :: l)

/-- The characters of a class from some place inside it, the closing bracket included. -/
inductive ClassText : List Char → Prop
  | closing : ClassText [']']
  | plain {c : Char} {l : List Char} :
      c ≠ ']' → c ≠ '\\' → ClassText l → ClassText (c :: l)
  | escaped (c : Char) {l : List Char} : ClassText l → ClassText ('\\' :: c :: l)

namespace NeutralText

/-- Neutral texts can be joined. -/
theorem append {l r : List Char} (hl : NeutralText l) (hr : NeutralText r) :
    NeutralText (l ++ r) := by
  induction hl with
  | nil => exact hr
  | inert hc _ ih => exact inert hc ih
  | nameEnd _ ih => exact nameEnd ih
  | escaped c _ ih => exact escaped c ih

/-- A neutral text can stand inside a class. -/
theorem append_classText {l r : List Char} (hl : NeutralText l) (hr : ClassText r) :
    ClassText (l ++ r) := by
  induction hl with
  | nil => exact hr
  | @inert c l hc _ ih =>
      refine ClassText.plain ?_ ?_ ih
      · rintro rfl
        exact hc (by simp)
      · rintro rfl
        exact hc (by simp)
  | nameEnd _ ih => exact ClassText.plain (by decide) (by decide) ih
  | escaped c _ ih => exact ClassText.escaped c ih

/-- A text of inert characters is neutral. -/
theorem of_forall {l : List Char} (h : ∀ c ∈ l, IsInert c) : NeutralText l := by
  induction l with
  | nil => exact nil
  | cons c l ih =>
      exact inert (h c (by simp)) (ih fun d hd => h d (by simp [hd]))

end NeutralText

/-- The text has at least `n` characters, and the first `n` of them are neutral and end no group
name. -/
def NeutralFor (n : Nat) (text : List Char) : Prop :=
  n ≤ text.length ∧ NeutralText (text.take n) ∧ '>' ∉ text.take n

namespace NeutralFor

@[simp]
theorem zero (text : List Char) : NeutralFor 0 text :=
  ⟨Nat.zero_le _, NeutralText.nil, by simp⟩

/-- Inert characters that the text starts with. -/
theorem of_prefix {l text : List Char} (h : l <+: text) (hl : ∀ c ∈ l, IsInert c) :
    NeutralFor l.length text := by
  have htake := List.prefix_iff_eq_take.1 h
  refine ⟨h.length_le, ?_, ?_⟩
  · rw [← htake]
    exact NeutralText.of_forall hl
  · rw [← htake]
    intro hmem
    exact hl '>' hmem (by simp)

/-- One inert character in front. -/
theorem cons {n : Nat} {c : Char} {text : List Char} (hc : IsInert c)
    (h : NeutralFor n text) : NeutralFor (n + 1) (c :: text) := by
  rcases h with ⟨hlength, hneutral, hname⟩
  refine ⟨by simpa using hlength, ?_, ?_⟩
  · rw [List.take_succ_cons]
    exact NeutralText.inert hc hneutral
  · rw [List.take_succ_cons, List.mem_cons, not_or]
    refine ⟨?_, hname⟩
    rintro rfl
    exact hc (by simp)

/-- One escaped character in front. -/
theorem escaped {n : Nat} {c : Char} {text : List Char} (hc : c ≠ '>') (h : NeutralFor n text) :
    NeutralFor (n + 2) ('\\' :: c :: text) := by
  rcases h with ⟨hlength, hneutral, hname⟩
  refine ⟨by simpa using hlength, ?_, ?_⟩
  · rw [List.take_succ_cons, List.take_succ_cons]
    exact NeutralText.escaped c hneutral
  · rw [List.take_succ_cons, List.take_succ_cons, List.mem_cons, List.mem_cons]
    rintro (h | h | h)
    · exact absurd h (by decide)
    · exact hc h.symm
    · exact hname h

/-- Neutral beginnings follow one another. -/
theorem add {m n : Nat} {text : List Char} (hm : NeutralFor m text)
    (hn : NeutralFor n (text.drop m)) : NeutralFor (m + n) text := by
  rcases hm with ⟨hlength, hneutral, hname⟩
  rcases hn with ⟨hlength', hneutral', hname'⟩
  rw [List.length_drop] at hlength'
  refine ⟨by omega, ?_, ?_⟩
  · rw [List.take_add]
    exact hneutral.append hneutral'
  · rw [List.take_add, List.mem_append]
    exact not_or.2 ⟨hname, hname'⟩

/-- A text that starts with an inert character. -/
theorem one {c : Char} {text : List Char} (h : text.head? = some c) (hc : IsInert c) :
    NeutralFor 1 text := by
  cases text with
  | nil => simp at h
  | cons d rest =>
      obtain rfl : d = c := by simpa using h
      exact cons hc (zero rest)

/-- A character that is no backslash can be taken off. -/
theorem tail {n : Nat} {c : Char} {text : List Char} (h : NeutralFor (n + 1) (c :: text))
    (hc : c ≠ '\\') : NeutralFor n text := by
  rcases h with ⟨hlength, hneutral, hname⟩
  rw [List.take_succ_cons] at hneutral hname
  refine ⟨by simpa using hlength, ?_, fun h => hname (List.mem_cons_of_mem _ h)⟩
  generalize text.take n = taken at hneutral ⊢
  cases hneutral with
  | inert _ h => exact h
  | nameEnd h => exact h
  | escaped d _ => exact absurd rfl hc

end NeutralFor

/-! ## Numerals -/

namespace Numeral

/-- A digit or letter of any base is inert. -/
theorem isInert_of_digitValue? {base d : Nat} {c : Char} (h : digitValue? base c = some d) :
    IsInert c := by
  intro hc
  simp only [List.mem_cons, List.not_mem_nil, or_false] at hc
  rcases hc with rfl | rfl | rfl | rfl | rfl | rfl <;> simp [digitValue?] at h

/-- Every decimal digit is a digit of base ten. -/
theorem digitValue?_of_decimal {c : Char} (h : '0' ≤ c ∧ c ≤ '9') :
    digitValue? 10 c = some (c.toNat - '0'.toNat) := by
  have hlast : c.toNat ≤ '9'.toNat := h.2
  have hlt : c.toNat - '0'.toNat < 10 := by
    have : '0'.toNat = 48 := rfl
    have : '9'.toNat = 57 := rfl
    omega
  simpa [digitValue?, h] using hlt

/-- The digits that a text starts with are neutral. -/
theorem neutralFor_leadingDigits (base limit : Nat) (text : List Char) :
    NeutralFor (leadingDigits base limit text).length text := by
  induction text generalizing limit with
  | nil => cases limit <;> simp [leadingDigits]
  | cons c rest ih =>
      cases limit with
      | zero => simp [leadingDigits]
      | succ limit =>
          rw [leadingDigits]
          split
          · next d hd =>
              rw [List.length_cons]
              exact NeutralFor.cons (isInert_of_digitValue? hd) (ih limit)
          · simp

/-- The number that a text starts with is spelled neutrally. -/
theorem neutralFor_leadingNumber (base limit : Nat) (text : List Char) :
    NeutralFor (leadingNumber base limit text).2 text :=
  neutralFor_leadingDigits base limit text

/-- A hexadecimal number of fixed width is spelled neutrally. -/
theorem neutralFor_hexOfWidth? {width value : Nat} {text : List Char}
    (h : hexOfWidth? width text = some value) : NeutralFor width text := by
  simp only [hexOfWidth?] at h
  split at h
  · next hwidth =>
      rw [← hwidth]
      exact neutralFor_leadingNumber 16 width text
  · simp at h

/-- The code point after `\u` is spelled neutrally. -/
theorem neutralFor_unicodeNumeral? {braces : Bool} {text : List Char} {value count : Nat}
    (h : unicodeNumeral? braces text = some (value, count)) : NeutralFor count text := by
  unfold unicodeNumeral? at h
  split at h
  · next inside =>
      simp only [Option.ite_none_right_eq_some, Option.some.injEq, Prod.mk.injEq,
        Bool.and_eq_true, beq_iff_eq] at h
      rcases h with ⟨⟨_, hbrace⟩, _, rfl⟩
      have hdigits := neutralFor_leadingNumber 16 inside.length inside
      exact NeutralFor.cons (by decide) (hdigits.add (NeutralFor.one hbrace (by decide)))
  · rcases Option.map_eq_some_iff.1 h with ⟨lead, hlead, hrest⟩
    have hfirst : NeutralFor 4 text := neutralFor_hexOfWidth? hlead
    split at hrest
    · next next hdrop =>
        split at hrest
        · next pair hpair =>
            rcases Option.bind_eq_some_iff.1 hpair with ⟨trail, htrail, _⟩
            rcases Prod.mk.inj hrest with ⟨_, rfl⟩
            refine hfirst.add (n := 6) ?_
            rw [hdrop]
            exact NeutralFor.escaped (by decide) (neutralFor_hexOfWidth? htrail)
        · rcases Prod.mk.inj hrest with ⟨_, rfl⟩
          exact hfirst
    · rcases Prod.mk.inj hrest with ⟨_, rfl⟩
      exact hfirst

end Numeral

/-! ## Escapes -/

namespace UnicodeProperty

/-- A name that is looked up in a table of inert names is inert. -/
theorem isInert_of_find?_names {α : Type} {table : List α} {names : α → List String}
    {name : String} {a : α} (htable : (table.all fun a => (names a).all hasInertBytes) = true)
    (h : table.find? (fun a => (names a).contains name) = some a) :
    ∀ c ∈ name.toList, IsInert c := by
  have hmem : a ∈ table := List.mem_of_find?_eq_some h
  have hname : name ∈ names a := by simpa using List.find?_some h
  exact isInert_of_bytes (List.all_eq_true.1 (List.all_eq_true.1 htable a hmem) name hname)

/-- The names of general categories are inert. -/
theorem isInert_of_ofCategoryName? {name : String} {p : UnicodeProperty}
    (h : ofCategoryName? name = some p) : ∀ c ∈ name.toList, IsInert c := by
  rcases Option.map_eq_some_iff.1 h with ⟨entry, hentry, _⟩
  exact isInert_of_find?_names (by decide +kernel) hentry

/-- The names of scripts are inert. -/
theorem isInert_of_ofScriptName? {property : String → UnicodeProperty} {name : String}
    {p : UnicodeProperty} (h : ofScriptName? property name = some p) :
    ∀ c ∈ name.toList, IsInert c := by
  rcases Option.map_eq_some_iff.1 h with ⟨entry, hentry, _⟩
  exact isInert_of_find?_names (by decide +kernel) hentry

/-- The names of properties and of their values are inert. -/
theorem isInert_of_ofName? {name : String} {value : Option String} {p : UnicodeProperty}
    (h : ofName? name value = some p) :
    (∀ c ∈ name.toList, IsInert c) ∧ ∀ v ∈ value, ∀ c ∈ v.toList, IsInert c := by
  unfold ofName? at h
  split at h
  case h_12 => exact ⟨isInert_of_ofCategoryName? h, by simp⟩
  case h_13 | h_14 =>
      exact ⟨isInert_of_all (by decide), by simpa using isInert_of_ofCategoryName? h⟩
  case h_15 | h_16 | h_17 | h_18 =>
      exact ⟨isInert_of_all (by decide), by simpa using isInert_of_ofScriptName? h⟩
  case h_19 => cases h
  all_goals exact ⟨isInert_of_all (by decide), by simp⟩

end UnicodeProperty

namespace Escape

/-- What stands between the braces of a property is inert. -/
theorem isInert_of_propertyBody {body : List Char} {p : UnicodeProperty}
    (h : UnicodeProperty.ofName? (String.ofList (body.takeWhile (· != '=')))
      ((if body.contains '=' then some (body.drop ((body.takeWhile (· != '=')).length + 1))
        else none).map String.ofList) = some p) :
    ∀ c ∈ body, IsInert c := by
  rcases UnicodeProperty.isInert_of_ofName? h with ⟨hname, hvalue⟩
  rw [String.toList_ofList] at hname
  intro c hc
  rcases mem_takeWhile_ne_or (x := '=') hc with hc | ⟨hmem, rfl | hc⟩
  · exact hname c hc
  · decide
  · rw [if_pos (List.contains_iff_mem.2 hmem)] at hvalue
    exact hvalue _ rfl c (by simpa using hc)

/-- A property between braces is spelled neutrally. -/
theorem neutralFor_readProperty {negated : Bool} {text : List Char} {e : Escape} {n : Nat}
    (h : readProperty negated text = (e, n)) (he : ∀ cause, e ≠ fault cause) :
    NeutralFor n text := by
  unfold readProperty at h
  split at h
  · next inside =>
      dsimp only at h
      split at h
      · next p hp =>
          split at h
          · next hlength =>
              rcases Prod.mk.inj h with ⟨_, rfl⟩
              rcases takeWhile_ne_append hlength with ⟨rest, hinside⟩
              have hbody := NeutralFor.of_prefix (List.takeWhile_prefix (l := inside) _)
                (isInert_of_propertyBody hp)
              refine NeutralFor.cons (by decide) (hbody.add ?_)
              · nth_rewrite 2 [hinside]
                rw [List.drop_left]
                exact NeutralFor.one rfl (by decide)
          · exact absurd (Prod.mk.inj h).1.symm (he _)
      · exact absurd (Prod.mk.inj h).1.symm (he _)
  · exact absurd (Prod.mk.inj h).1.symm (he _)

/-- The escape after `\c` is the backslash alone, or one neutral character follows. -/
theorem neutralFor_readControl {g : Grammar} {inClass : Bool} {text : List Char} {e : Escape}
    {n : Nat} (h : readControl g inClass text = (e, n)) (he : ∀ cause, e ≠ fault cause) :
    n = 0 ∨ n = 2 ∧ NeutralFor 1 text := by
  unfold readControl at h
  split at h
  · next c _ =>
      split at h
      · next hc =>
          rcases Prod.mk.inj h with ⟨_, rfl⟩
          refine Or.inr ⟨rfl, NeutralFor.one rfl ?_⟩
          intro hmem
          simp only [List.mem_cons, List.not_mem_nil, or_false] at hmem
          rcases hmem with rfl | rfl | rfl | rfl | rfl | rfl <;>
            simp [isAsciiLetter, isControlDigit] at hc
      · split at h
        · exact absurd (Prod.mk.inj h).1.symm (he _)
        · exact Or.inl (Prod.mk.inj h).2.symm
  · split at h
    · exact absurd (Prod.mk.inj h).1.symm (he _)
    · exact Or.inl (Prod.mk.inj h).2.symm

/-- A digit is inert, and so are the digits that belong to it. -/
theorem neutralFor_readDigit {g : Grammar} {first : Char} {text : List Char} {e : Escape}
    {n : Nat} (h : readDigit g first text = (e, n)) (he : ∀ cause, e ≠ fault cause)
    (hfirst : first ≠ '\\') : ∃ m, n = m + 1 ∧ NeutralFor m text := by
  unfold readDigit at h
  split at h
  · split at h
    · exact ⟨0, (Prod.mk.inj h).2.symm, NeutralFor.zero text⟩
    · exact absurd (Prod.mk.inj h).1.symm (he _)
  · dsimp only at h
    split at h
    · exact ⟨0, (Prod.mk.inj h).2.symm, NeutralFor.zero text⟩
    · next hcount =>
        rcases Nat.exists_eq_succ_of_ne_zero hcount with ⟨m, hm⟩
        refine ⟨m, by rw [← (Prod.mk.inj h).2, hm], ?_⟩
        have hdigits := Numeral.neutralFor_leadingNumber 8 (octalWidth first) (first :: text)
        rw [hm] at hdigits
        exact hdigits.tail hfirst

/-- An escape is spelled neutrally behind its first character, except that the backslash of an
incomplete `\c` stands alone. -/
theorem neutralFor_readAt {g : Grammar} {inClass : Bool} {c : Char} {text : List Char}
    {e : Escape} {n : Nat} (h : readAt g inClass c text = (e, n))
    (he : ∀ cause, e ≠ fault cause) :
    (n = 0 ∧ c = 'c') ∨ ∃ m, n = m + 1 ∧ NeutralFor m text := by
  have single : ∀ {e' : Escape}, (e', 1) = (e, n) → ∃ m, n = m + 1 ∧ NeutralFor m text :=
    fun h => ⟨0, (Prod.mk.inj h).2.symm, NeutralFor.zero text⟩
  unfold readAt at h
  split at h
  · exact Or.inr (single h)
  · exact Or.inr (single h)
  split at h
  · exact Or.inr (single h)
  split at h
  · exact Or.inr (single h)
  split at h
  · next hc =>
      rcases neutralFor_readControl h he with hn | ⟨hn, hnext⟩
      · exact Or.inl ⟨hn, hc⟩
      · exact Or.inr ⟨1, hn, hnext⟩
  right
  split at h
  · next hdigit =>
      refine neutralFor_readDigit h he ?_
      rintro rfl
      revert hdigit
      decide
  split at h
  · split at h
    · next value hvalue =>
        exact ⟨2, (Prod.mk.inj h).2.symm, Numeral.neutralFor_hexOfWidth? hvalue⟩
    · split at h
      · exact absurd (Prod.mk.inj h).1.symm (he _)
      · exact single h
  split at h
  · split at h
    · next value count hvalue =>
        exact ⟨count, (Prod.mk.inj h).2.symm, Numeral.neutralFor_unicodeNumeral? hvalue⟩
    · split at h
      · exact absurd (Prod.mk.inj h).1.symm (he _)
      · exact single h
  split at h
  · next hp =>
      rcases Prod.mk.inj h with ⟨hescape, rfl⟩
      exact ⟨_, rfl, neutralFor_readProperty (Prod.ext hescape rfl) he⟩
  split at h
  · exact single h
  split at h
  · exact absurd (Prod.mk.inj h).1.symm (he _)
  · exact single h

end Escape

end RegexComposition
