import RegexComposition.Proofs.Pattern.Spelling

/-!
# Looking ahead

The readers of a pattern source look at some of the characters behind what they take up.  None of
them reads on when a parenthesis, a bar, a dollar sign or the end of a name follows.  So what is
read at the end of a text does not change when such a text is appended.

Main results:

- `Stops`: a text in front of which every reader stops.
- `Numeral.unicodeNumeral?_append`, `Escape.readAt_append`: numerals and escapes.
- `GroupName.read?_append`: a name can be cut out of a source with the sign that ends it.
- `Grammar.CarriesTo`: what is no reference is read in the second grammar as in the first one.
- `Token.readAt_append`: the tokens of a text in front of another text, also in another grammar.
-/

namespace RegexComposition

/-- A text that is empty or starts with a sign at which every reader stops. -/
def Stops (s : List Char) : Prop := ∀ c ∈ s.head?, c ∈ ['(', ')', '$', '|', '>', ']']

namespace Stops

theorem nil : Stops [] := by simp [Stops]

variable {s : List Char}

/-- A text that stops every reader does not start with another sign. -/
theorem head?_ne (hs : Stops s) {c : Char} (hc : c ∉ ['(', ')', '$', '|', '>', ']']) :
    s.head? ≠ some c :=
  fun h => hc (hs c h)

/-- A text that stops every reader is empty or starts with the sign. -/
theorem eq_nil_or (hs : Stops s) :
    s = [] ∨ ∃ c rest, s = c :: rest ∧ c ∈ ['(', ')', '$', '|', '>', ']'] := by
  cases s with
  | nil => exact Or.inl rfl
  | cons c rest => exact Or.inr ⟨c, rest, rfl, hs c rfl⟩

/-- A sign that stops no reader does not come to the front by appending. -/
theorem head?_append_ne (hs : Stops s) {l : List Char} {c : Char}
    (hc : c ∉ ['(', ')', '$', '|', '>', ']']) (hl : l.head? ≠ some c) : (l ++ s).head? ≠ some c := by
  cases l with
  | nil => exact hs.head?_ne hc
  | cons d l => exact hl

end Stops

/-! ## Numerals -/

namespace Numeral

variable {l s : List Char}

/-- A sign at which every reader stops is no digit. -/
theorem digitValue?_of_stops (base : Nat) {c : Char} (hc : c ∈ ['(', ')', '$', '|', '>', ']']) :
    digitValue? base c = none := by
  simp only [List.mem_cons, List.not_mem_nil, or_false] at hc
  rcases hc with rfl | rfl | rfl | rfl | rfl | rfl <;> rfl

/-- The digits at the end of a text. -/
theorem leadingDigits_append (base limit : Nat) (l : List Char) (hs : Stops s) :
    leadingDigits base limit (l ++ s) = leadingDigits base limit l := by
  induction l generalizing limit with
  | nil =>
      rcases hs.eq_nil_or with rfl | ⟨c, rest, rfl, hc⟩
      · rfl
      · cases limit <;> simp [leadingDigits, digitValue?_of_stops base hc]
  | cons c l ih =>
      cases limit with
      | zero => rfl
      | succ limit => simp only [List.cons_append, leadingDigits, ih]

/-- No more digits are found than there are characters. -/
theorem leadingDigits_of_length_le {base limit : Nat} {text : List Char}
    (h : text.length ≤ limit) :
    leadingDigits base limit text = leadingDigits base text.length text := by
  induction text generalizing limit with
  | nil => cases limit <;> rfl
  | cons c rest ih =>
      cases limit with
      | zero => simp at h
      | succ limit =>
          have hrest : rest.length ≤ limit := by simpa using h
          simp only [List.length_cons, leadingDigits, ih hrest]

/-- The number at the end of a text. -/
theorem leadingNumber_append (base limit : Nat) (l : List Char) (hs : Stops s) :
    leadingNumber base limit (l ++ s) = leadingNumber base limit l := by
  simp only [leadingNumber, leadingDigits_append base limit l hs]

/-- The number at the end of a text, of any length. -/
theorem leadingNumber_length_append (base : Nat) (l : List Char) (hs : Stops s) :
    leadingNumber base (l ++ s).length (l ++ s) = leadingNumber base l.length l := by
  rw [leadingNumber_append base _ l hs]
  simp only [leadingNumber]
  rw [leadingDigits_of_length_le (by simp)]

/-- The number at the end of a text has no more digits than the text has characters. -/
theorem leadingNumber_le_length {base limit value count : Nat} {text : List Char}
    (h : leadingNumber base limit text = (value, count)) : count ≤ text.length := by
  obtain rfl := (Prod.mk.inj h).2
  exact length_leadingDigits_le base limit text

/-- A hexadecimal number of fixed width at the end of a text. -/
theorem hexOfWidth?_append (width : Nat) (l : List Char) (hs : Stops s) :
    hexOfWidth? width (l ++ s) = hexOfWidth? width l := by
  simp only [hexOfWidth?, leadingNumber_append 16 width l hs]

/-- Whether a character that stops no reader stands at some place of a text. -/
theorem head?_drop_append {c : Char} {n : Nat} (hs : Stops s) (hn : n ≤ l.length)
    (hc : c ∉ ['(', ')', '$', '|', '>', ']']) :
    ((l ++ s).drop n).head? = some c ↔ (l.drop n).head? = some c := by
  rw [List.drop_append_of_le_length hn]
  cases hdrop : l.drop n with
  | nil => simpa using hs.head?_ne hc
  | cons d rest => rfl

/-- The code point after `\u`, given what four digits stand for and the text behind them: these
can be followed by the other half of a pair of surrogates. -/
def withTrail (lead : Nat) (text : List Char) : Nat × Nat :=
  match text with
  | '\\' :: 'u' :: next =>
    match (hexOfWidth? 4 next).bind (ofSurrogates? lead) with
    | some pair => (pair, 10)
    | none => (lead, 4)
  | _ => (lead, 4)

/-- Without braces the code point after `\u` has four digits and what follows them. -/
theorem unicodeNumeral?_of_head?_ne (braces : Bool) {text : List Char}
    (h : text.head? ≠ some '\x7b') :
    unicodeNumeral? braces text =
      (hexOfWidth? 4 text).map fun lead => withTrail lead (text.drop 4) := by
  unfold unicodeNumeral?
  split
  · exact absurd rfl h
  · rfl

/-- The other half of a pair of surrogates at the end of a text. -/
theorem withTrail_append (lead : Nat) (l : List Char) (hs : Stops s) :
    withTrail lead (l ++ s) = withTrail lead l := by
  match l with
  | [] =>
      rcases hs.eq_nil_or with rfl | ⟨c, rest, rfl, hc⟩
      · rfl
      · simp only [List.mem_cons, List.not_mem_nil, or_false] at hc
        rcases hc with rfl | rfl | rfl | rfl | rfl | rfl <;> rfl
  | [c] =>
      by_cases hc : c = '\\'
      · subst hc
        rcases hs.eq_nil_or with rfl | ⟨d, rest, rfl, hd⟩
        · rfl
        · simp only [List.mem_cons, List.not_mem_nil, or_false] at hd
          rcases hd with rfl | rfl | rfl | rfl | rfl | rfl <;> rfl
      · simp [withTrail, hc]
  | c :: d :: next =>
      by_cases hcd : c = '\\' ∧ d = 'u'
      · rcases hcd with ⟨rfl, rfl⟩
        simp only [List.cons_append, withTrail, hexOfWidth?_append 4 next hs]
      · have hplain : ∀ t, withTrail lead (c :: d :: t) = (lead, 4) := by
          intro t
          unfold withTrail
          split
          · next heq =>
              rcases List.cons.inj heq with ⟨hlead, hrest⟩
              exact absurd ⟨hlead, (List.cons.inj hrest).1⟩ hcd
          · rfl
        rw [List.cons_append, List.cons_append, hplain, hplain]

/-- The code point after `\u` at the end of a text. -/
theorem unicodeNumeral?_append (braces : Bool) (l : List Char) (hs : Stops s) :
    unicodeNumeral? braces (l ++ s) = unicodeNumeral? braces l := by
  by_cases hbrace : l.head? = some '\x7b'
  · rcases List.head?_eq_some_iff.1 hbrace with ⟨inside, rfl⟩
    simp only [List.cons_append, unicodeNumeral?, leadingNumber_length_append 16 inside hs]
    rcases hnumber : leadingNumber 16 inside.length inside with ⟨value, count⟩
    have hend := head?_drop_append (c := '\x7d') hs (leadingNumber_le_length hnumber) (by decide)
    simp only [Bool.and_eq_true, beq_iff_eq, hend]
  · have hbrace' := hs.head?_append_ne (by decide) hbrace
    rw [unicodeNumeral?_of_head?_ne braces hbrace, unicodeNumeral?_of_head?_ne braces hbrace',
      hexOfWidth?_append 4 l hs]
    cases hlead : hexOfWidth? 4 l with
    | none => rfl
    | some lead =>
        have hlength : 4 ≤ l.length := (neutralFor_hexOfWidth? hlead).1
        rw [Option.map_some, Option.map_some, List.drop_append_of_le_length hlength,
          withTrail_append lead _ hs]

/-- A decimal digit is a digit of base ten, and the other way round. -/
theorem decimal_of_digitValue? {c : Char} {d : Nat} (h : digitValue? 10 c = some d) :
    '0' ≤ c ∧ c ≤ '9' := by
  simp only [digitValue?, Option.filter_eq_some_iff] at h
  rcases h with ⟨hvalue, hlt⟩
  split at hvalue
  · next hc => exact hc
  · split at hvalue
    · have := Option.some.inj hvalue
      simp only [decide_eq_true_eq] at hlt
      omega
    · split at hvalue
      · have := Option.some.inj hvalue
        simp only [decide_eq_true_eq] at hlt
        omega
      · cases hvalue

/-- The digits of a decimal number are decimal digits. -/
theorem decimal_of_mem_take {limit : Nat} {text : List Char} {c : Char}
    (h : c ∈ text.take (leadingDigits 10 limit text).length) : '0' ≤ c ∧ c ≤ '9' := by
  induction text generalizing limit with
  | nil => simp at h
  | cons d rest ih =>
      cases limit with
      | zero => simp [leadingDigits] at h
      | succ limit =>
          rw [leadingDigits] at h
          split at h
          · next value hvalue =>
              rw [List.length_cons, List.take_succ_cons, List.mem_cons] at h
              rcases h with rfl | h
              · exact decimal_of_digitValue? hvalue
              · exact ih h
          · simp at h

/-- An octal number has no more digits than the decimal number that starts with it. -/
theorem length_leadingDigits_octal_le (limit : Nat) (text : List Char) :
    (leadingDigits 8 limit text).length ≤ (leadingDigits 10 text.length text).length := by
  induction text generalizing limit with
  | nil => cases limit <;> simp [leadingDigits]
  | cons c rest ih =>
      cases limit with
      | zero => simp [leadingDigits]
      | succ limit =>
          rw [List.length_cons, leadingDigits, leadingDigits]
          cases hoctal : digitValue? 8 c with
          | none => simp
          | some d =>
              have hdecimal : digitValue? 10 c = some d := by
                simp only [digitValue?, Option.filter_eq_some_iff, decide_eq_true_eq] at hoctal ⊢
                exact ⟨hoctal.1, by omega⟩
              simp only [hdecimal, List.length_cons]
              exact Nat.succ_le_succ (ih limit)

end Numeral

/-! ## Group names -/

namespace GroupName

/-- What spells a character of a name does not depend on the text behind the sign that ends the
name. -/
theorem spelledCode?_congr (c : Char) (spelled rest rest' : List Char) :
    spelledCode? c (spelled ++ '>' :: rest) = spelledCode? c (spelled ++ '>' :: rest') := by
  have hstops : ∀ t, Stops ('>' :: t) := fun t => by simp [Stops]
  cases spelled with
  | nil => simp [spelledCode?]
  | cons d spelled =>
      simp only [List.cons_append, spelledCode?, List.head?_cons, List.tail_cons,
        Numeral.unicodeNumeral?_append true spelled (hstops rest),
        Numeral.unicodeNumeral?_append true spelled (hstops rest')]

/-- What spells a character of a name stands in front of the sign that ends the name. -/
theorem extra_le_of_spelledCode? {c : Char} {spelled rest : List Char} {code extra : Nat}
    (h : spelledCode? c (spelled ++ '>' :: rest) = some (code, extra)) :
    extra ≤ spelled.length := by
  have hstops : Stops ('>' :: rest) := by simp [Stops]
  unfold spelledCode? at h
  split at h
  · split at h
    · next hu =>
        rcases Option.map_eq_some_iff.1 h with ⟨⟨code', k⟩, hnumeral, heq⟩
        rcases Prod.mk.inj heq with ⟨_, rfl⟩
        cases spelled with
        | nil => simp at hu
        | cons d spelled =>
            rw [List.cons_append, List.tail_cons,
              Numeral.unicodeNumeral?_append true spelled hstops] at hnumeral
            simpa using (Numeral.neutralFor_unicodeNumeral? hnumeral).1
    · cases h
  · rcases Prod.mk.inj (Option.some.inj h) with ⟨_, rfl⟩
    exact Nat.zero_le _

/-- How a group name is read does not depend on the text behind the sign that ends it. -/
theorem readFrom_congr {atStart : Bool} {spelled : List Char} (rest rest' : List Char)
    {skip : Nat} (hskip : skip ≤ spelled.length) :
    readFrom atStart (spelled ++ '>' :: rest) skip =
      readFrom atStart (spelled ++ '>' :: rest') skip := by
  induction spelled generalizing atStart skip with
  | nil =>
      obtain rfl : skip = 0 := Nat.le_zero.1 hskip
      rfl
  | cons c spelled ih =>
      cases skip with
      | succ skip =>
          have hskip' : skip ≤ spelled.length := by simpa using hskip
          simp only [List.cons_append, readFrom, ih hskip']
      | zero =>
          rw [List.cons_append, List.cons_append, readFrom_cons, readFrom_cons,
            spelledCode?_congr c spelled rest rest']
          cases hspelled : spelledCode? c (spelled ++ '>' :: rest') with
          | none => rfl
          | some read =>
              rcases read with ⟨code, extra⟩
              dsimp only
              rw [ih (extra_le_of_spelledCode? hspelled)]

/-- A group name can be read in front of any text. -/
theorem read?_append {text : List Char} {name : String} {n : Nat}
    (h : read? text = some (name, n)) (rest : List Char) :
    read? (text.take n ++ rest) = some (name, n) := by
  rcases spelling_read? h with ⟨spelled, after, rfl, rfl, _⟩
  rw [take_spelling, List.append_assoc]
  rw [read?, readFrom_congr after ([] ++ rest) (Nat.zero_le _)] at h
  exact h

end GroupName

/-! ## Escapes -/

namespace Grammar

/-- What is no reference is read in the second grammar as it is in the first one: the flag `u` is the
same, and only a grammar with named groups has others with them. -/
structure CarriesTo (g g' : Grammar) : Prop where
  unicode : g'.unicode = g.unicode
  named : g'.hasGroupNames = true → g.hasGroupNames = true

/-- Both grammars read an escape alike: the flag `u` is the same, and there are no named groups. -/
structure Agrees (g g' : Grammar) : Prop where
  unicode : g'.unicode = g.unicode
  unnamed : g.hasGroupNames = false
  unnamed' : g'.hasGroupNames = false

theorem CarriesTo.refl (g : Grammar) : g.CarriesTo g := ⟨rfl, id⟩

/-- A letter that has to have a meaning after a backslash has to have one in the first grammar. -/
theorem CarriesTo.strict {g g' : Grammar} (h : g.CarriesTo g') {c : Char}
    (hstrict : (g.unicode || (c == 'k' && g'.hasGroupNames)) = true) :
    (g.unicode || (c == 'k' && g.hasGroupNames)) = true := by
  simp only [Bool.or_eq_true, Bool.and_eq_true] at hstrict ⊢
  exact hstrict.imp_right fun hk => ⟨hk.1, h.named hk.2⟩

theorem Agrees.carriesTo {g g' : Grammar} (h : g.Agrees g') : g.CarriesTo g' := by
  refine ⟨h.unicode, fun hnamed => ?_⟩
  rw [h.unnamed'] at hnamed
  cases hnamed

/-- A grammar in which a name is found has named groups. -/
theorem hasGroupNames_of_groupIndex? {g : Grammar} {name : String} {i : Nat}
    (h : g.groupIndex? name = some i) : g.hasGroupNames = true := by
  rw [groupIndex?, Option.map_eq_some_iff] at h
  rcases h with ⟨k, hk, -⟩
  rcases List.findIdx?_eq_some_iff_getElem.1 hk with ⟨hlength, hgroup, -⟩
  rw [hasGroupNames, List.any_eq_true]
  refine ⟨_, List.getElem_mem hlength, ?_⟩
  rw [eq_of_beq hgroup]
  rfl

end Grammar

namespace Escape

variable {g g' : Grammar} {l s : List Char} {e : Escape} {n : Nat}

/-- A property at the end of a text. -/
theorem readProperty_append {negated : Bool} (h : readProperty negated l = (e, n))
    (he : ∀ cause, e ≠ fault cause) : readProperty negated (l ++ s) = (e, n) := by
  unfold readProperty at h
  split at h
  · next inside =>
      dsimp only at h
      split at h
      · next p hp =>
          split at h
          · next hlength =>
              have hbody : (inside ++ s).takeWhile (· != '\x7d') =
                  inside.takeWhile (· != '\x7d') := by
                rw [List.takeWhile_append, if_neg (Nat.ne_of_lt hlength)]
              simp only [List.cons_append, readProperty, hbody, hp]
              rw [if_pos (by rw [List.length_append]; omega)]
              exact h
          · exact absurd (Prod.mk.inj h).1.symm (he _)
      · exact absurd (Prod.mk.inj h).1.symm (he _)
  · exact absurd (Prod.mk.inj h).1.symm (he _)

/-- The control character after `\c` at the end of a text. -/
theorem readControl_append (hg : g.CarriesTo g') {inClass : Bool} (hs : Stops s)
    (h : readControl g inClass l = (e, n)) : readControl g' inClass (l ++ s) = (e, n) := by
  rw [← h]
  cases l with
  | nil =>
      rcases hs.eq_nil_or with rfl | ⟨c, rest, rfl, hc⟩
      · simp [readControl, hg.unicode]
      · have hletter : isAsciiLetter c = false ∧ isControlDigit c = false := by
          simp only [List.mem_cons, List.not_mem_nil, or_false] at hc
          rcases hc with rfl | rfl | rfl | rfl | rfl | rfl <;> decide
        simp [readControl, hg.unicode, hletter]
  | cons c l => simp [readControl, hg.unicode]

/-- An escape that starts with a digit, at the end of a text. -/
theorem readDigit_append (hg : g.CarriesTo g') {first : Char} (hs : Stops s)
    (h : readDigit g first l = (e, n)) : readDigit g' first (l ++ s) = (e, n) := by
  have hnext : ((l ++ s).head?.bind (Numeral.digitValue? 10)).isNone =
      (l.head?.bind (Numeral.digitValue? 10)).isNone := by
    cases l with
    | nil =>
        rcases hs.eq_nil_or with rfl | ⟨c, rest, rfl, hc⟩
        · rfl
        · simp [Numeral.digitValue?_of_stops 10 hc]
    | cons c l => rfl
  have hnumber := Numeral.leadingNumber_append 8 (octalWidth first) (first :: l) hs
  rw [List.cons_append] at hnumber
  rw [← h]
  simp only [readDigit, hg.unicode, hnext, hnumber]

/-- An escape at the end of a text. -/
theorem readAt_append (hg : g.CarriesTo g') {inClass : Bool} {c : Char} (hs : Stops s)
    (h : readAt g inClass c l = (e, n)) (he : ∀ cause, e ≠ fault cause) :
    readAt g' inClass c (l ++ s) = (e, n) := by
  unfold readAt at h ⊢
  split at h
  · exact h
  · exact h
  · rw [hg.unicode, Numeral.hexOfWidth?_append 2 l hs,
      Numeral.unicodeNumeral?_append g.unicode l hs]
    by_cases hbackspace : (inClass && c == 'b') = true
    · rw [if_pos hbackspace] at h ⊢
      exact h
    rw [if_neg hbackspace] at h ⊢
    by_cases hhyphen : (inClass && g.unicode && c == '-') = true
    · rw [if_pos hhyphen] at h ⊢
      exact h
    rw [if_neg hhyphen] at h ⊢
    by_cases hcontrol : c = 'c'
    · rw [if_pos hcontrol] at h ⊢
      exact readControl_append hg hs h
    rw [if_neg hcontrol] at h ⊢
    by_cases hdigit : '0' ≤ c ∧ c ≤ '9'
    · rw [if_pos hdigit] at h ⊢
      exact readDigit_append hg hs h
    rw [if_neg hdigit] at h ⊢
    by_cases hx : c = 'x'
    · rw [if_pos hx] at h ⊢
      exact h
    rw [if_neg hx] at h ⊢
    by_cases hu : c = 'u'
    · rw [if_pos hu] at h ⊢
      exact h
    rw [if_neg hu] at h ⊢
    by_cases hproperty : (g.unicode && (c == 'p' || c == 'P')) = true
    · rw [if_pos hproperty] at h ⊢
      rcases hread : readProperty (c == 'P') l with ⟨e', k⟩
      rw [hread] at h
      rcases Prod.mk.inj h with ⟨rfl, rfl⟩
      rw [readProperty_append hread he]
    rw [if_neg hproperty] at h ⊢
    by_cases hsyntax : isSyntaxCharacter c = true
    · rw [if_pos hsyntax] at h ⊢
      exact h
    rw [if_neg hsyntax] at h ⊢
    by_cases hstrict : (g.unicode || (c == 'k' && g.hasGroupNames)) = true
    · rw [if_pos hstrict] at h
      exact absurd (Prod.mk.inj h).1.symm (he _)
    · rw [if_neg hstrict] at h
      rw [if_neg fun hstrict' => hstrict (hg.strict hstrict')]
      exact h

/-- An escape that starts with a digit is read as a number. -/
theorem readAt_of_digit {inClass : Bool} {c : Char} (hc : '0' ≤ c ∧ c ≤ '9') (text : List Char) :
    readAt g inClass c text = readDigit g c text := by
  have hcategory : category? c = none := by
    unfold category?
    split
    case h_7 => rfl
    all_goals exact absurd hc (by decide)
  have hcontrol : control? c = none := by
    unfold control?
    split
    case h_6 => rfl
    all_goals exact absurd hc (by decide)
  have hne : c ≠ 'b' ∧ c ≠ '-' ∧ c ≠ 'c' := by
    refine ⟨?_, ?_, ?_⟩ <;> · rintro rfl; exact absurd hc (by decide)
  unfold readAt
  rw [hcategory, hcontrol]
  simp [hne, hc]

/-- An escape that starts with a digit takes up no more than the decimal number there. -/
theorem readAt_digit_le {inClass : Bool} {c : Char} {text : List Char} (hc : '1' ≤ c ∧ c ≤ '9')
    (hg : g.unicode = false) :
    (readAt g inClass c text).2 ≤
      (Numeral.leadingDigits 10 (text.length + 1) (c :: text)).length := by
  have hdigit : '0' ≤ c ∧ c ≤ '9' := ⟨Char.le_trans (by decide) hc.1, hc.2⟩
  have hvalue := Numeral.digitValue?_of_decimal hdigit
  have hfirst : 1 ≤ (Numeral.leadingDigits 10 (text.length + 1) (c :: text)).length := by
    simp [Numeral.leadingDigits, hvalue]
  have hoctal := Numeral.length_leadingDigits_octal_le (octalWidth c) (c :: text)
  rw [readAt_of_digit hdigit]
  unfold readDigit
  rw [if_neg (by simp [hg])]
  dsimp only [Numeral.leadingNumber]
  by_cases hzero : (Numeral.leadingDigits 8 (octalWidth c) (c :: text)).length = 0
  · rw [if_pos hzero]
    exact hfirst
  · rw [if_neg hzero]
    exact hoctal

end Escape

/-! ## Classes -/

namespace ClassAtom

variable {g g' : Grammar} {s : List Char}

/-- An atom of a class at the end of a text. -/
theorem readAt_append (hg : g.CarriesTo g') {c : Char} {l : List Char} {atom : ClassAtom} {n : Nat}
    (hs : Stops s) (h : readAt g c l = (atom, n)) (ha : ∀ cause, atom ≠ fault cause) :
    readAt g' c (l ++ s) = (atom, n) := by
  unfold readAt at h ⊢
  by_cases hhyphen : c = '-'
  · rw [if_pos hhyphen] at h ⊢
    exact h
  rw [if_neg hhyphen] at h ⊢
  by_cases hescape : c = '\\'
  · rw [if_pos hescape] at h ⊢
    cases l with
    | nil => exact absurd (Prod.mk.inj h).1.symm (ha _)
    | cons next rest =>
        rcases hread : Escape.readAt g true next rest with ⟨e, k⟩
        have he : ∀ cause, e ≠ Escape.fault cause := by
          rintro cause rfl
          simp only [hread] at h
          exact ha cause (Prod.mk.inj h).1.symm
        simp only [List.cons_append, Escape.readAt_append hg hs hread he]
        simpa only [hread] using h
  · rw [if_neg hescape] at h ⊢
    exact h

/-- The atoms of a class that is closed in a text, in front of another text. -/
theorem readAll_append (hg : g.CarriesTo g') {l : List Char} {skip : Nat} {atoms : List ClassAtom}
    {n : Nat} (hs : Stops s) (h : readAll g l skip = (atoms, n))
    (ha : ∀ cause, fault cause ∉ atoms) : readAll g' (l ++ s) skip = (atoms, n) := by
  induction l generalizing skip atoms n with
  | nil =>
      rcases Prod.mk.inj h with ⟨rfl, _⟩
      exact absurd (by simp) (ha .unbalancedBracket)
  | cons c l ih =>
      cases skip with
      | succ skip =>
          rcases Prod.mk.inj h with ⟨rfl, rfl⟩
          have hrest : readAll g l skip = _ := rfl
          simp only [List.cons_append, readAll, ih hrest ha]
      | zero =>
          rw [readAll] at h
          rw [List.cons_append, readAll]
          by_cases hc : c = ']'
          · rw [if_pos hc] at h ⊢
            exact h
          rw [if_neg hc] at h ⊢
          rcases hatom : readAt g c l with ⟨atom, extra⟩
          rw [hatom] at h
          dsimp only at h
          rcases hrest : readAll g l extra with ⟨others, m⟩
          rw [hrest] at h
          rcases Prod.mk.inj h with ⟨rfl, rfl⟩
          simp only [List.mem_cons, not_or] at ha
          simp only [readAt_append hg hs hatom fun cause heq => (ha cause).1 heq.symm,
            ih hrest fun cause => (ha cause).2]

end ClassAtom

/-! ## Tokens -/

namespace Token

variable {g g' : Grammar} {l s : List Char} {token : Token} {n : Nat}

/-- The class that is made of the atoms at the front of a text. -/
def classOf (g : Grammar) (negated : Bool) (inside : List Char) : Token × Nat :=
  match ClassAtom.items g.unicode (ClassAtom.readAll g inside 0).1 with
  | .ok items =>
    (set items negated,
      if negated then (ClassAtom.readAll g inside 0).2 + 1 else (ClassAtom.readAll g inside 0).2)
  | .error e => (fault e, (ClassAtom.readAll g inside 0).2)

/-- A class that does not start with a circumflex is no complement. -/
theorem readClass_of_head?_ne {text : List Char} (h : text.head? ≠ some '^') :
    readClass g text = classOf g false text := by
  unfold readClass
  split
  next negated inside hinside =>
  split at hinside
  · exact absurd rfl h
  · rcases Prod.mk.inj hinside with ⟨rfl, rfl⟩
    rfl

/-- The atoms of a class in front of another text. -/
theorem classOf_append (hg : g.CarriesTo g') {negated : Bool} (hs : Stops s)
    (h : classOf g negated l = (token, n)) (ht : ∀ cause, token ≠ fault cause) :
    classOf g' negated (l ++ s) = (token, n) := by
  unfold classOf at h
  split at h
  · next items hitems =>
      have hread : ClassAtom.readAll g' (l ++ s) 0 = ClassAtom.readAll g l 0 :=
        ClassAtom.readAll_append hg hs rfl (ClassAtom.fault_notMem_of_items hitems)
      simp only [classOf, hread, hg.unicode, hitems]
      exact h
  · exact absurd (Prod.mk.inj h).1.symm (ht _)

/-- What follows a token can be followed by a text at which every reader stops. -/
theorem Spelling.append {l r : List Char} (h : token.Spelling l r) (hs : Stops s) :
    token.Spelling l (r ++ s) := by
  cases token with
  | opening kind =>
      cases kind with
      | capturing name =>
          cases name with
          | none => exact ⟨h.1, hs.head?_append_ne (by decide) h.2⟩
          | some name =>
              rcases h with ⟨spelled, hl, hspelled, hname, hstarts⟩
              refine ⟨spelled, hl, hspelled, hname, ?_⟩
              cases spelled with
              | nil => exact hstarts
              | cons c spelled => exact hstarts
      | plain | modified | look => exact h
  | set items negated =>
      rcases h with h | h | ⟨hl, hnext⟩ | h
      · exact Or.inl h
      · exact Or.inr (Or.inl h)
      · rcases List.head?_eq_some_iff.1 hnext with ⟨rest, rfl⟩
        exact Or.inr (Or.inr (Or.inl ⟨hl, rfl⟩))
      · exact Or.inr (Or.inr (Or.inr h))
  | closing | dot | lineStart | lineEnd | wordBoundary | backreference | bar | quantifier
  | looseBrace | fault => exact h

/-- A class that is closed in a text, in front of another text. -/
theorem readClass_append (hg : g.CarriesTo g') (hs : Stops s) (h : readClass g l = (token, n))
    (ht : ∀ cause, token ≠ fault cause) : readClass g' (l ++ s) = (token, n) := by
  by_cases hcaret : l.head? = some '^'
  · rcases List.head?_eq_some_iff.1 hcaret with ⟨inside, rfl⟩
    have hclass : classOf g true inside = (token, n) := h
    exact classOf_append hg hs hclass ht
  · rw [readClass_of_head?_ne hcaret] at h
    rw [readClass_of_head?_ne (hs.head?_append_ne (by decide) hcaret)]
    exact classOf_append hg hs h ht

/-- Flags that a group switches are named in a text, in front of another text. -/
theorem readModifiers?_append {kind : GroupKind} (h : readModifiers? l = some (kind, n)) :
    readModifiers? (l ++ s) = some (kind, n) := by
  unfold readModifiers? at h
  dsimp only at h
  split at h
  · next on off hon hoff =>
      split at h
      · next hcond =>
          have hbody : (l ++ s).takeWhile (· != ':') = l.takeWhile (· != ':') := by
            rw [List.takeWhile_append, if_neg (Nat.ne_of_lt hcond.1)]
          unfold readModifiers?
          simp only [hbody, hon, hoff]
          rw [if_pos ⟨by rw [List.length_append]; omega, hcond.2⟩]
          exact h
      · cases h
  · cases h

/-- A group name can be read in a text in front of another text. -/
theorem read?_append_of_eq_some {name : String} (h : GroupName.read? l = some (name, n)) :
    GroupName.read? (l ++ s) = some (name, n) := by
  have hread := GroupName.read?_append h (l.drop n ++ s)
  rwa [← List.append_assoc, List.take_append_drop] at hread

/-- A parenthesis opens a plain capturing group unless a question mark follows. -/
theorem readOpening_of_head?_ne {text : List Char} (h : text.head? ≠ some '?') :
    readOpening text = (opening (.capturing none), 0) := by
  unfold readOpening
  split
  case h_8 => rfl
  all_goals exact absurd List.head?_cons h

/-- What is read behind a parenthesis opens a group. -/
theorem eq_opening_of_readOpening {text : List Char} {token : Token} {n : Nat}
    (h : readOpening text = (token, n)) (ht : ∀ cause, token ≠ fault cause) :
    ∃ kind, token = .opening kind := by
  unfold readOpening at h
  split at h
  case h_6 | h_7 =>
    split at h
    · exact ⟨_, (Prod.mk.inj h).1.symm⟩
    · exact absurd (Prod.mk.inj h).1.symm (ht _)
  all_goals exact ⟨_, (Prod.mk.inj h).1.symm⟩

/-- A parenthesis opens a named group if a name can be read. -/
theorem readOpening_of_read? {text : List Char} {name : String}
    (h : GroupName.read? text = some (name, n)) :
    readOpening ('?' :: '<' :: text) = (opening (.capturing (some name)), n + 2) := by
  cases text with
  | nil => cases h
  | cons c rest =>
      have hc : ¬ (c = '=' ∨ c = '!') := by
        intro hc
        rw [GroupName.read?_of_lookbehind hc rest] at h
        cases h
      rw [not_or] at hc
      unfold readOpening
      split
      case h_6 inside _ _ heq =>
          obtain rfl := (List.cons.inj (List.cons.inj heq).2).2
          rw [h]
      case h_7 hlook heq => exact absurd (List.cons.inj heq).2.symm (hlook _)
      case h_8 hplain => exact absurd rfl (hplain _)
      all_goals simp_all

/-- A parenthesis opens a group that switches flags if their letters can be read. -/
theorem readOpening_of_readModifiers? {text : List Char} {kind : GroupKind}
    (h : readModifiers? text = some (kind, n)) :
    readOpening ('?' :: text) = (opening kind, n + 1) := by
  rcases neutralFor_readModifiers? h with ⟨_, _, _, hhead⟩
  unfold readOpening
  split
  case h_7 heq =>
      obtain rfl := (List.cons.inj heq).2
      rw [h]
  case h_8 hplain => exact absurd rfl (hplain _)
  all_goals
    next heq =>
      obtain rfl := (List.cons.inj heq).2
      exact absurd (hhead _ List.head?_cons) (by decide)

/-- The opening of a group at the end of a text. -/
theorem readOpening_append (hs : Stops s) (h : readOpening l = (token, n))
    (ht : ∀ cause, token ≠ fault cause) : readOpening (l ++ s) = (token, n) := by
  unfold readOpening at h
  split at h
  · exact h
  · exact h
  · exact h
  · exact h
  · exact h
  · split at h
    · next name k hread =>
        rw [← h]
        exact readOpening_of_read? (read?_append_of_eq_some hread)
    · exact absurd (Prod.mk.inj h).1.symm (ht _)
  · split at h
    · next kind k hread =>
        rw [← h]
        exact readOpening_of_readModifiers? (readModifiers?_append hread)
    · exact absurd (Prod.mk.inj h).1.symm (ht _)
  · next hplain =>
      have hl : l.head? ≠ some '?' := by
        intro hl
        rcases List.head?_eq_some_iff.1 hl with ⟨rest, rfl⟩
        exact hplain rest rfl
      rw [← h]
      exact readOpening_of_head?_ne (hs.head?_append_ne (by decide) hl)

/-- The counts that follow the least one. -/
def countsFrom? (min n : Nat) (text : List Char) : Option (Nat × Option Nat × Nat) :=
  match text with
  | '\x7d' :: _ => some (min, some min, n + 1)
  | ',' :: '\x7d' :: _ => some (min, none, n + 2)
  | ',' :: rest =>
    match Numeral.leadingNumber 10 rest.length rest with
    | (_, 0) => none
    | (max, m) =>
      if (rest.drop m).head? = some '\x7d' then some (min, some max, n + m + 2) else none
  | _ => none

/-- The counts of a quantifier start with the least one. -/
theorem readCounts?_eq (text : List Char) :
    readCounts? text =
      match Numeral.leadingNumber 10 text.length text with
      | (_, 0) => none
      | (min, n) => countsFrom? min n (text.drop n) := rfl

/-- A greatest count, or none at all, follows the comma. -/
theorem countsFrom?_comma (min n : Nat) {rest : List Char} (h : rest.head? ≠ some '\x7d') :
    countsFrom? min n (',' :: rest) =
      match Numeral.leadingNumber 10 rest.length rest with
      | (_, 0) => none
      | (max, m) =>
        if (rest.drop m).head? = some '\x7d' then some (min, some max, n + m + 2) else none := by
  unfold countsFrom?
  split
  · next heq => cases heq
  · next heq =>
      rw [(List.cons.inj heq).2] at h
      exact absurd List.head?_cons h
  · next heq =>
      obtain rfl := (List.cons.inj heq).2
      rfl
  · next hcomma => exact absurd rfl (hcomma _)

/-- There are no counts without a brace or a comma behind the least one. -/
theorem countsFrom?_of_head?_ne (min n : Nat) {text : List Char}
    (hbrace : text.head? ≠ some '\x7d') (hcomma : text.head? ≠ some ',') :
    countsFrom? min n text = none := by
  unfold countsFrom?
  split
  · exact absurd List.head?_cons hbrace
  · exact absurd List.head?_cons hcomma
  · exact absurd List.head?_cons hcomma
  · rfl

/-- The counts that follow the least one, at the end of a text. -/
theorem countsFrom?_append (min n : Nat) (l : List Char) (hs : Stops s) :
    countsFrom? min n (l ++ s) = countsFrom? min n l := by
  by_cases hcomma : l.head? = some ','
  · rcases List.head?_eq_some_iff.1 hcomma with ⟨rest, rfl⟩
    by_cases hbrace : rest.head? = some '\x7d'
    · rcases List.head?_eq_some_iff.1 hbrace with ⟨rest, rfl⟩
      rfl
    · have hbrace' := hs.head?_append_ne (by decide) hbrace
      rw [List.cons_append, countsFrom?_comma min n hbrace, countsFrom?_comma min n hbrace',
        Numeral.leadingNumber_length_append 10 rest hs]
      rcases hnumber : Numeral.leadingNumber 10 rest.length rest with ⟨max, count⟩
      have hend := Numeral.head?_drop_append (c := '\x7d') hs
        (Numeral.leadingNumber_le_length hnumber) (by decide)
      cases count with
      | zero => rfl
      | succ count => simp only [hend]
  by_cases hbrace : l.head? = some '\x7d'
  · rcases List.head?_eq_some_iff.1 hbrace with ⟨rest, rfl⟩
    rfl
  rw [countsFrom?_of_head?_ne min n hbrace hcomma,
    countsFrom?_of_head?_ne min n (hs.head?_append_ne (by decide) hbrace)
      (hs.head?_append_ne (by decide) hcomma)]

/-- The counts of a quantifier at the end of a text. -/
theorem readCounts?_append (l : List Char) (hs : Stops s) :
    readCounts? (l ++ s) = readCounts? l := by
  rw [readCounts?_eq, readCounts?_eq, Numeral.leadingNumber_length_append 10 l hs]
  rcases hnumber : Numeral.leadingNumber 10 l.length l with ⟨min, count⟩
  cases count with
  | zero => rfl
  | succ count =>
  simp only
  rw [List.drop_append_of_le_length (Numeral.leadingNumber_le_length hnumber),
    countsFrom?_append min (count + 1) _ hs]

/-- A quantifier is greedy unless a question mark follows. -/
theorem withLaziness_of_head?_ne {min : Nat} {max : Option Nat} {braced : Bool} {used : Nat}
    {text : List Char} (h : text.head? ≠ some '?') :
    withLaziness min max braced used text = (quantifier ⟨min, max, true⟩ braced, used) := by
  unfold withLaziness
  split
  · exact absurd List.head?_cons h
  · rfl

/-- Laziness at the end of a text. -/
theorem withLaziness_append {min : Nat} {max : Option Nat} {braced : Bool} {used : Nat}
    (l : List Char) (hs : Stops s) :
    withLaziness min max braced used (l ++ s) = withLaziness min max braced used l := by
  cases l with
  | nil =>
      rw [List.nil_append, withLaziness_of_head?_ne (hs.head?_ne (by decide)),
        withLaziness_of_head?_ne (by simp)]
  | cons c l =>
      by_cases hc : c = '?'
      · subst hc
        rfl
      · simp [withLaziness, hc]

/-- A brace at the end of a text. -/
theorem readBraces_append (hg : g.CarriesTo g') (l : List Char) (hs : Stops s) :
    readBraces g' (l ++ s) = readBraces g l := by
  unfold readBraces
  rw [readCounts?_append l hs, hg.unicode]
  split
  · next min max k hcounts =>
      rw [List.drop_append_of_le_length (neutralFor_readCounts? hcounts).1,
        withLaziness_append _ hs]
  · rfl

/-- An escape that starts with a digit is a reference if there are as many groups. -/
theorem readEscape_digit (g : Grammar) {c : Char} (hc : '1' ≤ c ∧ c ≤ '9') (text : List Char) :
    readEscape g c text =
      if (Numeral.leadingNumber 10 (text.length + 1) (c :: text)).1 ≤ g.groups.length then
        (backreference (Numeral.leadingNumber 10 (text.length + 1) (c :: text)).1,
          (Numeral.leadingNumber 10 (text.length + 1) (c :: text)).2)
      else if g.unicode then (fault .invalidEscape, 0)
      else
        (ofEscape (Escape.readAt g false c text).1, (Escape.readAt g false c text).2) := by
  have hne : c ≠ 'b' ∧ c ≠ 'B' ∧ c ≠ 'k' := by
    refine ⟨?_, ?_, ?_⟩ <;> · rintro rfl; exact absurd hc (by decide)
  unfold readEscape
  rw [if_neg hne.1, if_neg hne.2.1, if_neg (by simp [hne.2.2]), if_pos hc]

/-- An escape that starts with a digit, at the end of a text: it has to be a reference to a group in
both grammars or in none. -/
theorem readEscape_digit_append (hg : g.CarriesTo g') {c : Char} (hc : '1' ≤ c ∧ c ≤ '9')
    (hs : Stops s) (h : readEscape g c l = (token, n)) (ht : ∀ cause, token ≠ fault cause)
    (hgroup : (Numeral.leadingNumber 10 (l.length + 1) (c :: l)).1 ≤ g'.groups.length ↔
      (Numeral.leadingNumber 10 (l.length + 1) (c :: l)).1 ≤ g.groups.length) :
    readEscape g' c (l ++ s) = (token, n) := by
  have hnumber : Numeral.leadingNumber 10 ((l ++ s).length + 1) (c :: (l ++ s)) =
      Numeral.leadingNumber 10 (l.length + 1) (c :: l) :=
    Numeral.leadingNumber_length_append 10 (c :: l) hs
  rw [readEscape_digit g hc] at h
  rw [readEscape_digit g' hc, hnumber]
  by_cases href : (Numeral.leadingNumber 10 (l.length + 1) (c :: l)).1 ≤ g.groups.length
  · rw [if_pos href] at h
    rw [if_pos (hgroup.2 href)]
    exact h
  rw [if_neg href] at h
  rw [if_neg fun href' => href (hgroup.1 href'), hg.unicode]
  by_cases hunicode : g.unicode = true
  · rw [if_pos hunicode] at h
    exact absurd (Prod.mk.inj h).1.symm (ht _)
  rw [if_neg hunicode] at h ⊢
  rcases Prod.mk.inj h with ⟨rfl, rfl⟩
  have hescape : Escape.readAt g' false c (l ++ s) = Escape.readAt g false c l :=
    Escape.readAt_append hg hs rfl (ofEscape_spelling ht).1
  rw [hescape]

/-- The text goes on with a decimal number. -/
def StartsNumber (text : List Char) : Prop :=
  ∃ c rest, text = c :: rest ∧ '1' ≤ c ∧ c ≤ '9'

/-- The text goes on with the name of a group, and the token is the reference to it. -/
def RefersByName (g : Grammar) (text : List Char) (token : Token) (n : Nat) : Prop :=
  ∃ inside name m i, text = 'k' :: '<' :: inside ∧ GroupName.read? inside = some (name, m) ∧
    g.groupIndex? name = some i ∧ token = backreference i ∧ n = m + 2

/-- A name after a backslash refers to a group. -/
theorem refersByName_of_readNamedReference (h : readNamedReference g l = (token, n))
    (ht : ∀ cause, token ≠ fault cause) : RefersByName g ('k' :: l) token (n + 1) := by
  unfold readNamedReference at h
  split at h
  · next inside =>
      split at h
      · next name m hname =>
          split at h
          · next i hindex =>
              rcases Prod.mk.inj h with ⟨rfl, rfl⟩
              exact ⟨inside, name, m, i, rfl, hname, hindex, rfl, rfl⟩
          · exact absurd (Prod.mk.inj h).1.symm (ht _)
      · exact absurd (Prod.mk.inj h).1.symm (ht _)
  · exact absurd (Prod.mk.inj h).1.symm (ht _)

/-- A reference by name finds its group in every grammar that has one with this name. -/
theorem RefersByName.exists_readAt (h : RefersByName g l token n) :
    ∃ name i, g.groupIndex? name = some i ∧ token = backreference i ∧
      ∀ (g' : Grammar) (s : List Char) (j : Nat), g'.groupIndex? name = some j →
        readAt g' '\\' (l ++ s) = (backreference j, n) := by
  rcases h with ⟨inside, name, m, i, rfl, hname, hindex, rfl, rfl⟩
  refine ⟨name, i, hindex, rfl, fun g' s j hj => ?_⟩
  have hread : readNamedReference g' ('<' :: (inside ++ s)) = (backreference j, m + 1) := by
    simp only [readNamedReference, read?_append_of_eq_some hname, hj]
  show readEscape g' 'k' ('<' :: (inside ++ s)) = _
  unfold readEscape
  rw [if_neg (by decide), if_neg (by decide),
    if_pos (by simp [Grammar.hasGroupNames_of_groupIndex? hj]), hread]

/-- An escape at the end of a text, unless it refers to a group or could do so. -/
theorem readEscape_append (hg : g.CarriesTo g') {c : Char} (hs : Stops s)
    (h : readEscape g c l = (token, n)) (ht : ∀ cause, token ≠ fault cause) :
    readEscape g' c (l ++ s) = (token, n) ∨ StartsNumber (c :: l) ∨
      RefersByName g (c :: l) token n := by
  by_cases hdigit : '1' ≤ c ∧ c ≤ '9'
  · exact Or.inr (Or.inl ⟨c, l, rfl, hdigit⟩)
  by_cases hb : c = 'b'
  · subst hb
    exact Or.inl h
  by_cases hB : c = 'B'
  · subst hB
    exact Or.inl h
  unfold readEscape at h
  rw [if_neg hb, if_neg hB] at h
  by_cases hk : (c == 'k' && (g.unicode || g.hasGroupNames)) = true
  · rw [if_pos hk] at h
    obtain rfl : c = 'k' := by simpa using (Bool.and_eq_true_iff.1 hk).1
    rcases Prod.mk.inj h with ⟨rfl, rfl⟩
    exact Or.inr (Or.inr (refersByName_of_readNamedReference rfl ht))
  · left
    have hk' : ¬ (c == 'k' && (g'.unicode || g'.hasGroupNames)) = true := by
      simp only [Bool.and_eq_true, Bool.or_eq_true, hg.unicode] at hk ⊢
      exact fun hk' => hk ⟨hk'.1, hk'.2.imp_right hg.named⟩
    rw [if_neg hk, if_neg hdigit] at h
    unfold readEscape
    rw [if_neg hb, if_neg hB, if_neg hk', if_neg hdigit]
    rcases hescape : Escape.readAt g false c l with ⟨e, k⟩
    rw [hescape] at h
    rcases Prod.mk.inj h with ⟨rfl, rfl⟩
    rw [Escape.readAt_append hg hs hescape (ofEscape_spelling ht).1]

/-- A token at the end of a text, unless it refers to a group or could do so. -/
theorem readAt_append (hg : g.CarriesTo g') {c : Char} (hs : Stops s)
    (h : readAt g c l = (token, n)) (ht : ∀ cause, token ≠ fault cause) :
    readAt g' c (l ++ s) = (token, n) ∨
      c = '\\' ∧ (StartsNumber l ∨ RefersByName g l token n) := by
  unfold readAt at h
  split at h
  · split at h
    · exact absurd (Prod.mk.inj h).1.symm (ht _)
    · exact (readEscape_append hg hs h ht).imp id fun h => ⟨rfl, h⟩
  · exact Or.inl (readClass_append hg hs h ht)
  · exact Or.inl (readOpening_append hs h ht)
  · exact Or.inl h
  · exact Or.inl h
  · exact Or.inl h
  · exact Or.inl h
  · exact Or.inl h
  · exact Or.inl ((withLaziness_append l hs).trans h)
  · exact Or.inl ((withLaziness_append l hs).trans h)
  · exact Or.inl ((withLaziness_append l hs).trans h)
  · exact Or.inl ((readBraces_append hg l hs).trans h)
  · rw [← hg.unicode] at h
    exact Or.inl h
  · rw [← hg.unicode] at h
    exact Or.inl h
  · left
    rw [← h]
    unfold readAt
    split <;> first | rfl | contradiction

/-- A token at the end of a text, in one grammar. -/
theorem readAt_append_self {c : Char} (hs : Stops s) (h : readAt g c l = (token, n))
    (ht : ∀ cause, token ≠ fault cause) : readAt g c (l ++ s) = (token, n) := by
  rcases readAt_append (Grammar.CarriesTo.refl g) hs h ht with
    hread | ⟨rfl, ⟨d, rest, rfl, hd⟩ | href⟩
  · exact hread
  · exact readEscape_digit_append (Grammar.CarriesTo.refl g) hd hs h ht Iff.rfl
  · rcases href.exists_readAt with ⟨name, i, hindex, rfl, hread⟩
    exact hread g s i hindex

end Token

end RegexComposition
