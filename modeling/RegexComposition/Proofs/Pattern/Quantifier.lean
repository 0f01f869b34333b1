import RegexComposition.Proofs.Pattern.Context

/-!
# Quantifiers

How quantifiers are spelled, and that they are read as such wherever they stand.

Main results:

- `CountSpelling` and `QuantifierSpelling`: the spelled quantifiers.
- `QuantifierSpelling.readsAs`: they are read as quantifiers.
-/

namespace RegexComposition

/-- The value of a decimal numeral. -/
def numeralValue (digits : List Char) : Nat :=
  Numeral.ofDigits 10 (digits.map fun c => c.toNat - '0'.toNat)

/-- A decimal numeral: at least one digit. -/
def IsNumeral (digits : List Char) : Prop := digits ≠ [] ∧ ∀ c ∈ digits, '0' ≤ c ∧ c ≤ '9'

/-- A text that says how often something is repeated. -/
inductive CountSpelling : List Char → Nat → Option Nat → Prop
  | star : CountSpelling ['*'] 0 none
  | plus : CountSpelling ['+'] 1 none
  | optional : CountSpelling ['?'] 0 (some 1)
  | exactly {d : List Char} : IsNumeral d →
      CountSpelling ('\x7b' :: (d ++ ['\x7d'])) (numeralValue d) (some (numeralValue d))
  | atLeast {d : List Char} : IsNumeral d →
      CountSpelling ('\x7b' :: (d ++ [',', '\x7d'])) (numeralValue d) none
  | between {d e : List Char} : IsNumeral d → IsNumeral e → numeralValue d ≤ numeralValue e →
      CountSpelling ('\x7b' :: (d ++ ',' :: (e ++ ['\x7d']))) (numeralValue d)
        (some (numeralValue e))

/-- A text that is a quantifier; a question mark at its end makes it lazy. -/
inductive QuantifierSpelling : List Char → Quantifier → Prop
  | greedy {text : List Char} {min : Nat} {max : Option Nat} :
      CountSpelling text min max → QuantifierSpelling text ⟨min, max, true⟩
  | lazy {text : List Char} {min : Nat} {max : Option Nat} :
      CountSpelling text min max → QuantifierSpelling (text ++ ['?']) ⟨min, max, false⟩

/-- The digits of a numeral are read to its end. -/
theorem Numeral.leadingNumber_numeral {digits rest : List Char} {limit : Nat}
    (hdigits : ∀ c ∈ digits, '0' ≤ c ∧ c ≤ '9') (hlimit : digits.length ≤ limit)
    (hrest : ∀ c ∈ rest.head?, digitValue? 10 c = none) :
    leadingNumber 10 limit (digits ++ rest) = (numeralValue digits, digits.length) := by
  have hread : leadingDigits 10 limit (digits ++ rest) =
      digits.map fun c => c.toNat - '0'.toNat := by
    induction digits generalizing limit with
    | nil =>
        cases rest with
        | nil => cases limit <;> rfl
        | cons c rest => cases limit <;> simp [leadingDigits, hrest c rfl]
    | cons c digits ih =>
        cases limit with
        | zero => simp at hlimit
        | succ limit =>
            have hc := digitValue?_of_decimal (hdigits c List.mem_cons_self)
            rw [List.cons_append, leadingDigits, hc, List.map_cons]
            exact congrArg _ (ih (fun d hd => hdigits d (List.mem_cons_of_mem _ hd))
              (Nat.le_of_succ_le_succ hlimit))
  simp [leadingNumber, hread, numeralValue]

/-- The least count of a quantifier is read to its end. -/
theorem Token.readCounts?_numeral {digits rest : List Char} (hdigits : IsNumeral digits)
    (hrest : ∀ c ∈ rest.head?, Numeral.digitValue? 10 c = none) :
    readCounts? (digits ++ rest) = countsFrom? (numeralValue digits) digits.length rest := by
  have hnumber : Numeral.leadingNumber 10 (digits ++ rest).length (digits ++ rest) =
      (numeralValue digits, digits.length) :=
    Numeral.leadingNumber_numeral hdigits.2 (by simp) hrest
  rw [readCounts?_eq, hnumber]
  split
  · next heq => exact absurd (List.eq_nil_of_length_eq_zero (Prod.mk.inj heq).2) hdigits.1
  · next heq =>
      rcases Prod.mk.inj heq with ⟨rfl, rfl⟩
      rw [List.drop_left]

namespace CountSpelling

variable {text : List Char} {min : Nat} {max : Option Nat}

/-- The greatest count is not below the least one. -/
theorem isPossible (h : CountSpelling text min max) (greedy : Bool) :
    Quantifier.isPossible ⟨min, max, greedy⟩ = true := by
  cases h with
  | star | plus | optional | atLeast => rfl
  | exactly => simp [Quantifier.isPossible]
  | between _ _ hle => simpa [Quantifier.isPossible] using hle

/-- Counts in braces are read to the closing brace. -/
theorem readCounts?_eq {body : List Char} (h : CountSpelling ('\x7b' :: body) min max)
    (rest : List Char) :
    Token.readCounts? (body ++ rest) = some (min, max, body.length) := by
  have hbrace : Numeral.digitValue? 10 '\x7d' = none := rfl
  have hcomma : Numeral.digitValue? 10 ',' = none := rfl
  cases h with
  | exactly hd =>
      rw [List.append_assoc, Token.readCounts?_numeral hd (by simp [hbrace]), List.length_append]
      rfl
  | atLeast hd =>
      rw [List.append_assoc, Token.readCounts?_numeral hd (by simp [hcomma]), List.length_append]
      rfl
  | @between d e hd he hle =>
      have htext : d ++ ',' :: (e ++ ['\x7d']) ++ rest = d ++ ',' :: (e ++ '\x7d' :: rest) := by
        simp
      have hhead : (e ++ '\x7d' :: rest).head? ≠ some '\x7d' := by
        cases e with
        | nil => exact absurd rfl he.1
        | cons c e =>
            intro hc
            obtain rfl : c = '\x7d' := by simpa using hc
            exact absurd (he.2 _ List.mem_cons_self) (by decide)
      have hnumber : Numeral.leadingNumber 10 (e ++ '\x7d' :: rest).length (e ++ '\x7d' :: rest) =
          (numeralValue e, e.length) :=
        Numeral.leadingNumber_numeral he.2 (by simp) (by simp [hbrace])
      rw [htext, Token.readCounts?_numeral hd (by simp [hcomma]),
        Token.countsFrom?_comma _ _ hhead, hnumber]
      split
      · next heq => exact absurd (List.eq_nil_of_length_eq_zero (Prod.mk.inj heq).2) he.1
      · next heq =>
          rcases Prod.mk.inj heq with ⟨rfl, rfl⟩
          rw [List.drop_left, List.head?_cons, if_pos rfl]
          simp
          omega

/-- Counts are read with the question mark behind them, if there is one. -/
theorem readAt_eq (h : CountSpelling text min max) :
    ∃ c l braced, text = c :: l ∧ ∀ (g : Grammar) (rest : List Char),
      Token.readAt g c (l ++ rest) = Token.withLaziness min max braced l.length rest := by
  have braces : ∀ {body : List Char}, CountSpelling ('\x7b' :: body) min max →
      ∀ (g : Grammar) (rest : List Char), Token.readAt g '\x7b' (body ++ rest) =
        Token.withLaziness min max true body.length rest := by
    intro body hbody g rest
    have hread : Token.readAt g '\x7b' (body ++ rest) = Token.readBraces g (body ++ rest) := rfl
    rw [hread, Token.readBraces, hbody.readCounts?_eq rest]
    dsimp only
    rw [List.drop_left]
  cases h with
  | star => exact ⟨'*', [], false, rfl, fun g rest => rfl⟩
  | plus => exact ⟨'+', [], false, rfl, fun g rest => rfl⟩
  | optional => exact ⟨'?', [], false, rfl, fun g rest => rfl⟩
  | exactly hd => exact ⟨'\x7b', _, true, rfl, braces (exactly hd)⟩
  | atLeast hd => exact ⟨'\x7b', _, true, rfl, braces (atLeast hd)⟩
  | between hd he hle => exact ⟨'\x7b', _, true, rfl, braces (between hd he hle)⟩

end CountSpelling

/-- A quantifier is read as such. -/
theorem QuantifierSpelling.readsAs {text : List Char} {q : Quantifier}
    (h : QuantifierSpelling text q) : ReadsAs text q ∧ q.isPossible = true := by
  cases h with
  | greedy h =>
      rcases h.readAt_eq with ⟨c, l, braced, rfl, hread⟩
      refine ⟨⟨c, l, braced, rfl, fun g after hs => ?_⟩, h.isPossible true⟩
      rw [hread, Token.withLaziness_of_head?_ne (hs.head?_ne (by decide))]
  | lazy h =>
      rcases h.readAt_eq with ⟨c, l, braced, rfl, hread⟩
      refine ⟨⟨c, l ++ ['?'], braced, rfl, fun g after hs => ?_⟩, h.isPossible false⟩
      rw [List.append_assoc, hread, List.length_append]
      rfl

end RegexComposition
