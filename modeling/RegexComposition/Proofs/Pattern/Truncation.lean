import RegexComposition.Proofs.Pattern.Reading
import RegexComposition.Proofs.Pattern.Lookahead

/-!
# Cutting off what follows

What is read in front of a text at which every reader stops is also read without it.  This is the
converse of reading at the end of a text: a token that ends in a text depends on nothing behind it.

Main results:

- `Escape.readAt_truncate`, `ClassAtom.readAll_truncate`: escapes and classes.
- `Token.readAt_truncate`: a token that ends in front of such a text.
- `Assembly.Reads.truncate`: a text that is read in front of another one is read alone.
-/

namespace RegexComposition

/-- Characters that end in front of a text are taken without it. -/
theorem takeWhile_append_of_length_lt {p : Char → Bool} {l s : List Char}
    (h : ((l ++ s).takeWhile p).length < l.length) : (l ++ s).takeWhile p = l.takeWhile p := by
  rw [List.takeWhile_append] at h ⊢
  split_ifs at h ⊢ with hall
  · rw [List.length_append] at h
    omega
  · rfl

/-! ## Escapes -/

namespace Escape

variable {g : Grammar} {l s : List Char} {e : Escape} {n : Nat}

/-- A property whose closing brace stands in a text. -/
theorem readProperty_truncate {negated : Bool} (hs : Stops s)
    (h : readProperty negated (l ++ s) = (e, n)) (hn : n ≤ l.length)
    (he : ∀ cause, e ≠ fault cause) : readProperty negated l = (e, n) := by
  cases l with
  | nil =>
      unfold readProperty at h
      split at h
      · next inside heq =>
          have hbrace : s.head? = some '\x7b' := by rw [← List.nil_append s, heq]; rfl
          exact absurd hbrace (hs.head?_ne (by decide))
      · exact absurd (Prod.mk.inj h).1.symm (he _)
  | cons c inside =>
      by_cases hc : c = '\x7b'
      · subst hc
        simp only [List.cons_append, readProperty] at h
        split at h
        · next p hp =>
            split at h
            · rcases Prod.mk.inj h with ⟨rfl, rfl⟩
              have hshort : ((inside ++ s).takeWhile (· != '\x7d')).length < inside.length := by
                rw [List.length_cons] at hn
                omega
              have hbody := takeWhile_append_of_length_lt hshort
              rw [hbody] at hp hshort ⊢
              simp only [readProperty, hp]
              rw [if_pos hshort]
            · exact absurd (Prod.mk.inj h).1.symm (he _)
        · exact absurd (Prod.mk.inj h).1.symm (he _)
      · unfold readProperty at h
        split at h
        · next heq => exact absurd (List.cons.inj heq).1 hc
        · exact absurd (Prod.mk.inj h).1.symm (he _)

/-- An escape takes up at least its first character, unless the backslash stands for itself. -/
theorem pos_of_readAt {inClass : Bool} {c : Char} (h : readAt g inClass c l = (e, n))
    (he : ∀ cause, e ≠ fault cause) (hc : c ≠ 'c') : 0 < n := by
  rcases neutralFor_readAt h he with ⟨_, hc'⟩ | ⟨m, rfl, _⟩
  · exact absurd hc' hc
  · exact Nat.succ_pos m

/-- The escape of a property. -/
theorem readAt_property (inClass : Bool) {c : Char}
    (hproperty : (g.unicode && (c == 'p' || c == 'P')) = true) (l : List Char) :
    readAt g inClass c l =
      ((readProperty (c == 'P') l).1, (readProperty (c == 'P') l).2 + 1) := by
  simp only [Bool.and_eq_true, Bool.or_eq_true, beq_iff_eq] at hproperty
  rcases hproperty with ⟨hunicode, rfl | rfl⟩ <;> simp [readAt, category?, control?, hunicode]

/-- Every other escape is the same in front of a text that stops its reader. -/
theorem readAt_append_self {inClass : Bool} {c : Char} (hs : Stops s)
    (hproperty : (g.unicode && (c == 'p' || c == 'P')) = false) :
    readAt g inClass c (l ++ s) = readAt g inClass c l := by
  have hcontrol : readControl g inClass (l ++ s) = readControl g inClass l :=
    readControl_append (Grammar.CarriesTo.refl g) hs rfl
  have hdigit : readDigit g c (l ++ s) = readDigit g c l :=
    readDigit_append (Grammar.CarriesTo.refl g) hs rfl
  unfold readAt
  simp only [hcontrol, hdigit, Numeral.hexOfWidth?_append 2 l hs,
    Numeral.unicodeNumeral?_append g.unicode l hs, hproperty, Bool.false_eq_true, if_false]

/-- An escape that ends in a text. -/
theorem readAt_truncate {inClass : Bool} {c : Char} (hs : Stops s)
    (h : readAt g inClass c (l ++ s) = (e, n)) (hn : n ≤ l.length + 1)
    (he : ∀ cause, e ≠ fault cause) : readAt g inClass c l = (e, n) := by
  cases hproperty : g.unicode && (c == 'p' || c == 'P') with
  | true =>
      rw [readAt_property inClass hproperty] at h ⊢
      rcases hread : readProperty (c == 'P') (l ++ s) with ⟨e', k⟩
      rw [hread] at h
      rcases Prod.mk.inj h with ⟨rfl, rfl⟩
      rw [readProperty_truncate hs hread (by omega) he]
  | false =>
      rwa [readAt_append_self hs hproperty] at h

end Escape

/-! ## Classes -/

namespace ClassAtom

variable {g : Grammar} {l s : List Char}

/-- An atom behind a backslash is as long as the escape, which has no fault if the atom has none. -/
theorem of_readAt_escape {next : Char} {rest : List Char} {atom : ClassAtom} {n : Nat}
    (h : readAt g '\\' (next :: rest) = (atom, n)) (ha : ∀ cause, atom ≠ fault cause) :
    (∀ cause, (Escape.readAt g true next rest).1 ≠ .fault cause) ∧
      (Escape.readAt g true next rest).2 = n := by
  unfold readAt at h
  rcases hread : Escape.readAt g true next rest with ⟨e, k⟩
  rw [if_neg (by decide), if_pos rfl] at h
  dsimp only at h
  rw [hread] at h
  cases e with
  | code c => exact ⟨by rintro _ ⟨⟩, (Prod.mk.inj h).2⟩
  | category k negated => exact ⟨by rintro _ ⟨⟩, (Prod.mk.inj h).2⟩
  | fault cause => exact absurd (Prod.mk.inj h).1.symm (ha cause)

/-- An atom that ends in a text. -/
theorem readAt_truncate {c : Char} {atom : ClassAtom} {n : Nat} (hs : Stops s)
    (h : readAt g c (l ++ s) = (atom, n)) (hn : n ≤ l.length)
    (ha : ∀ cause, atom ≠ fault cause) : readAt g c l = (atom, n) := by
  by_cases hescape : c = '\\'
  · subst hescape
    cases l with
    | nil =>
        rcases hs.eq_nil_or with rfl | ⟨d, rest, rfl, hd⟩
        · exact h
        · rcases of_readAt_escape h ha with ⟨he, rfl⟩
          have hpos := Escape.pos_of_readAt rfl he (by rintro rfl; simp at hd)
          exact absurd (Nat.le_zero.1 hn) (Nat.ne_of_gt hpos)
    | cons next rest =>
        rcases of_readAt_escape h ha with ⟨he, rfl⟩
        have hread : Escape.readAt g true next rest = Escape.readAt g true next (rest ++ s) :=
          Escape.readAt_truncate hs rfl hn he
        have hsame : readAt g '\\' (next :: rest) = readAt g '\\' (next :: (rest ++ s)) := by
          unfold readAt
          dsimp only
          rw [hread]
        exact hsame.trans h
  · unfold readAt at h ⊢
    rw [if_neg hescape] at h ⊢
    exact h

/-- The atoms of a closed class take up more than what is passed over. -/
theorem lt_of_readAll {skip : Nat} {atoms : List ClassAtom} {n : Nat}
    (h : readAll g l skip = (atoms, n)) (ha : ∀ cause, fault cause ∉ atoms) : skip < n := by
  induction l generalizing skip atoms n with
  | nil =>
      rcases Prod.mk.inj h with ⟨rfl, _⟩
      exact absurd (by simp) (ha .unbalancedBracket)
  | cons c l ih =>
      cases skip with
      | succ skip =>
          rcases Prod.mk.inj h with ⟨rfl, rfl⟩
          exact Nat.succ_lt_succ (ih rfl ha)
      | zero =>
          rw [readAll] at h
          split_ifs at h
          · rw [← (Prod.mk.inj h).2]
            exact Nat.one_pos
          · rw [← (Prod.mk.inj h).2]
            exact Nat.succ_pos _

/-- The atoms of a class whose closing bracket stands in a text. -/
theorem readAll_truncate {skip : Nat} {atoms : List ClassAtom} {n : Nat} (hs : Stops s)
    (h : readAll g (l ++ s) skip = (atoms, n)) (hn : n ≤ l.length)
    (ha : ∀ cause, fault cause ∉ atoms) : readAll g l skip = (atoms, n) := by
  induction l generalizing skip atoms n with
  | nil =>
      have hlt := lt_of_readAll h ha
      rw [List.length_nil] at hn
      omega
  | cons c l ih =>
      rw [List.length_cons] at hn
      cases skip with
      | succ skip =>
          rcases hrest : readAll g (l ++ s) skip with ⟨others, m⟩
          rw [List.cons_append, readAll, hrest] at h
          rcases Prod.mk.inj h with ⟨rfl, rfl⟩
          simp only [readAll, ih hrest (Nat.le_of_succ_le_succ hn) ha]
      | zero =>
          rw [List.cons_append, readAll] at h
          rw [readAll]
          by_cases hc : c = ']'
          · rw [if_pos hc] at h ⊢
            exact h
          rw [if_neg hc] at h ⊢
          rcases hatom : readAt g c (l ++ s) with ⟨atom, extra⟩
          rw [hatom] at h
          dsimp only at h
          rcases hrest : readAll g (l ++ s) extra with ⟨others, m⟩
          rw [hrest] at h
          rcases Prod.mk.inj h with ⟨rfl, rfl⟩
          simp only [List.mem_cons, not_or] at ha
          have hlt := lt_of_readAll hrest fun cause => (ha cause).2
          simp only [readAt_truncate hs hatom (by omega) fun cause heq => (ha cause).1 heq.symm,
            ih hrest (by omega) fun cause => (ha cause).2]

end ClassAtom

/-! ## Tokens -/

namespace Token

variable {g : Grammar} {l s : List Char} {token : Token} {n : Nat}

/-- A class whose closing bracket stands in a text, behind a circumflex if it is a complement. -/
theorem classOf_truncate {negated : Bool} (hs : Stops s)
    (h : classOf g negated (l ++ s) = (token, n))
    (hn : n ≤ if negated then l.length + 1 else l.length) (ht : ∀ cause, token ≠ fault cause) :
    classOf g negated l = (token, n) := by
  unfold classOf at h
  split at h
  · next items hitems =>
      rcases Prod.mk.inj h with ⟨rfl, rfl⟩
      have hread : ClassAtom.readAll g l 0 = ClassAtom.readAll g (l ++ s) 0 := by
        refine ClassAtom.readAll_truncate hs rfl ?_ (ClassAtom.fault_notMem_of_items hitems)
        split at hn <;> omega
      simp only [classOf, hread, hitems]
  · exact absurd (Prod.mk.inj h).1.symm (ht _)

/-- A class whose closing bracket stands in a text. -/
theorem readClass_truncate (hs : Stops s) (h : readClass g (l ++ s) = (token, n))
    (hn : n ≤ l.length) (ht : ∀ cause, token ≠ fault cause) : readClass g l = (token, n) := by
  by_cases hcaret : l.head? = some '^'
  · rcases List.head?_eq_some_iff.1 hcaret with ⟨inside, rfl⟩
    have hclass : classOf g true (inside ++ s) = (token, n) := h
    exact classOf_truncate hs hclass hn ht
  · rw [readClass_of_head?_ne (hs.head?_append_ne (by decide) hcaret)] at h
    rw [readClass_of_head?_ne hcaret]
    exact classOf_truncate hs h hn ht

/-- A group name whose end stands in a text. -/
theorem read?_truncate {name : String} (h : GroupName.read? (l ++ s) = some (name, n))
    (hn : n ≤ l.length) : GroupName.read? l = some (name, n) := by
  have hread := GroupName.read?_append h (l.drop n)
  rwa [List.take_append_of_le_length hn, List.take_append_drop] at hread

/-- Flags that a group switches and that are named in a text with the colon behind them. -/
theorem readModifiers?_truncate {kind : GroupKind} (h : readModifiers? (l ++ s) = some (kind, n))
    (hn : n ≤ l.length) : readModifiers? l = some (kind, n) := by
  unfold readModifiers? at h
  dsimp only at h
  split at h
  · next on off hon hoff =>
      split at h
      · next hcond =>
          rcases Prod.mk.inj (Option.some.inj h) with ⟨rfl, rfl⟩
          have hshort : ((l ++ s).takeWhile (· != ':')).length < l.length := hn
          have hbody := takeWhile_append_of_length_lt hshort
          rw [hbody] at hon hoff hshort ⊢
          simp only [readModifiers?, hon, hoff]
          rw [if_pos ⟨hshort, hcond.2⟩]
      · cases h
  · cases h

/-- The opening of a group in a text. -/
theorem readOpening_truncate (hs : Stops s) (h : readOpening (l ++ s) = (token, n))
    (hn : n ≤ l.length) (ht : ∀ cause, token ≠ fault cause) : readOpening l = (token, n) := by
  by_cases hl : l.head? = some '?'
  · rcases List.head?_eq_some_iff.1 hl with ⟨m, rfl⟩
    rw [List.length_cons] at hn
    -- What decides on the kind of the group stands in the text.
    have mark : ∀ {c : Char} {rest : List Char}, m ++ s = c :: rest → 0 < m.length →
        ∃ m', m = c :: m' ∧ rest = m' ++ s := by
      intro c rest heq hm
      cases m with
      | nil => exact absurd hm (Nat.lt_irrefl 0)
      | cons d m' =>
          rcases List.cons.inj heq with ⟨rfl, rfl⟩
          exact ⟨m', rfl, rfl⟩
    unfold readOpening at h
    split at h
    case h_1 heq | h_2 heq | h_3 heq =>
        rcases Prod.mk.inj h with ⟨rfl, rfl⟩
        rcases mark (List.cons.inj heq).2 (by omega) with ⟨m', rfl, -⟩
        rfl
    case h_4 heq | h_5 heq =>
        rcases Prod.mk.inj h with ⟨rfl, rfl⟩
        rcases mark (List.cons.inj heq).2 (by omega) with ⟨m', rfl, hrest⟩
        cases m' with
        | nil => simp at hn
        | cons d m'' =>
            obtain rfl := (List.cons.inj hrest).1
            rfl
    case h_6 inside _ _ heq =>
        split at h
        · next name k hread =>
            rcases Prod.mk.inj h with ⟨rfl, rfl⟩
            rcases mark (List.cons.inj heq).2 (by omega) with ⟨m', rfl, rfl⟩
            rw [List.length_cons] at hn
            exact readOpening_of_read? (read?_truncate hread (by omega))
        · exact absurd (Prod.mk.inj h).1.symm (ht _)
    case h_7 heq =>
        split at h
        · next kind k hread =>
            rcases Prod.mk.inj h with ⟨rfl, rfl⟩
            obtain rfl := (List.cons.inj heq).2
            exact readOpening_of_readModifiers? (readModifiers?_truncate hread (by omega))
        · exact absurd (Prod.mk.inj h).1.symm (ht _)
    case h_8 hplain => exact absurd rfl (hplain _)
  · rw [readOpening_of_head?_ne (hs.head?_append_ne (by decide) hl)] at h
    rw [readOpening_of_head?_ne hl]
    exact h

/-- A reference by name in a text. -/
theorem readNamedReference_truncate (h : readNamedReference g (l ++ s) = (token, n))
    (hn : n ≤ l.length) (ht : ∀ cause, token ≠ fault cause) :
    readNamedReference g l = (token, n) := by
  unfold readNamedReference at h
  split at h
  · next inside heq =>
      split at h
      · next name m hname =>
          split at h
          · next i hindex =>
              rcases Prod.mk.inj h with ⟨rfl, rfl⟩
              cases l with
              | nil => simp at hn
              | cons c l =>
                  rcases List.cons.inj heq with ⟨rfl, rfl⟩
                  have hread := read?_truncate hname (Nat.le_of_succ_le_succ hn)
                  simp only [readNamedReference, hread, hindex]
          · exact absurd (Prod.mk.inj h).1.symm (ht _)
      · exact absurd (Prod.mk.inj h).1.symm (ht _)
  · exact absurd (Prod.mk.inj h).1.symm (ht _)

/-- An escape that ends in a text. -/
theorem readEscape_truncate {c : Char} (hs : Stops s) (h : readEscape g c (l ++ s) = (token, n))
    (hn : n ≤ l.length + 1) (ht : ∀ cause, token ≠ fault cause) :
    readEscape g c l = (token, n) := by
  have escaped : (ofEscape (Escape.readAt g false c (l ++ s)).1,
        (Escape.readAt g false c (l ++ s)).2) = (token, n) →
      (ofEscape (Escape.readAt g false c l).1, (Escape.readAt g false c l).2) = (token, n) := by
    intro heq
    rcases Prod.mk.inj heq with ⟨rfl, rfl⟩
    have hread : Escape.readAt g false c l = Escape.readAt g false c (l ++ s) :=
      Escape.readAt_truncate hs rfl hn (ofEscape_spelling ht).1
    rw [hread]
  by_cases hdigit : '1' ≤ c ∧ c ≤ '9'
  · have hnumber : Numeral.leadingNumber 10 ((l ++ s).length + 1) (c :: (l ++ s)) =
        Numeral.leadingNumber 10 (l.length + 1) (c :: l) :=
      Numeral.leadingNumber_length_append 10 (c :: l) hs
    rw [readEscape_digit g hdigit, hnumber] at h
    rw [readEscape_digit g hdigit]
    split_ifs at h ⊢
    · exact h
    · exact h
    · exact escaped h
  · unfold readEscape at h ⊢
    split_ifs at h ⊢ with hb hB hk
    · exact h
    · exact h
    · rcases hname : readNamedReference g (l ++ s) with ⟨token', k⟩
      rw [hname] at h
      rcases Prod.mk.inj h with ⟨rfl, rfl⟩
      rw [readNamedReference_truncate hname (Nat.le_of_succ_le_succ hn) ht]
    · exact escaped h

/-- The escape of a sign that stops readers takes it up. -/
theorem pos_of_readEscape {c : Char} (hc : c ∈ ['(', ')', '$', '|', '>', ']'])
    (h : readEscape g c l = (token, n)) (ht : ∀ cause, token ≠ fault cause) : 0 < n := by
  have hne : c ≠ 'b' ∧ c ≠ 'B' ∧ c ≠ 'k' ∧ c ≠ 'c' ∧ ¬ ('1' ≤ c ∧ c ≤ '9') := by
    simp only [List.mem_cons, List.not_mem_nil, or_false] at hc
    rcases hc with rfl | rfl | rfl | rfl | rfl | rfl <;> decide
  unfold readEscape at h
  rw [if_neg hne.1, if_neg hne.2.1, if_neg (by simp [hne.2.2.1]), if_neg hne.2.2.2.2] at h
  rcases Prod.mk.inj h with ⟨rfl, rfl⟩
  exact Escape.pos_of_readAt rfl (ofEscape_spelling ht).1 hne.2.2.2.1

/-- A token that ends in a text. -/
theorem readAt_truncate {c : Char} (hs : Stops s) (h : readAt g c (l ++ s) = (token, n))
    (hn : n ≤ l.length) (ht : ∀ cause, token ≠ fault cause) : readAt g c l = (token, n) := by
  unfold readAt at h
  split at h
  · cases l with
    | nil =>
        rcases hs.eq_nil_or with rfl | ⟨d, rest, rfl, hd⟩
        · exact h
        · exact absurd (Nat.le_zero.1 hn) (Nat.ne_of_gt (pos_of_readEscape hd h ht))
    | cons d l => exact readEscape_truncate hs h hn ht
  · exact readClass_truncate hs h hn ht
  · exact readOpening_truncate hs h hn ht
  · exact h
  · exact h
  · exact h
  · exact h
  · exact h
  · exact (withLaziness_append l hs).symm.trans h
  · exact (withLaziness_append l hs).symm.trans h
  · exact (withLaziness_append l hs).symm.trans h
  · exact (readBraces_append (Grammar.CarriesTo.refl g) l hs).symm.trans h
  · exact h
  · exact h
  · rw [← h]
    unfold readAt
    split <;> first | rfl | contradiction

end Token

/-! ## Whole texts -/

/-- A text that is read in front of another one, at which every reader stops, is read alone. -/
theorem Assembly.Reads.truncate {g : Grammar} {a b : Assembly} {l s : List Char}
    (h : Reads g a (l ++ s) b s) (hs : Stops s) : Reads g a l b [] := by
  generalize htext : l ++ s = text at h
  generalize hend : s = remaining at h
  induction h generalizing l with
  | done a text =>
      obtain rfl : l = [] := by
        rw [hend] at htext
        simpa using htext
      exact Reads.done a []
  | @token a b d c rest remaining token extra hread hstep hrest ih =>
      subst hend
      have ht := ne_fault_of_step hstep
      rcases Token.spelling_readAt hread ht with ⟨hextra, _⟩
      rcases hrest.exists_append with ⟨middle, hmiddle⟩
      have hlength := congrArg List.length hmiddle
      rw [List.length_drop, List.length_append] at hlength
      cases l with
      | nil =>
          have hcons := congrArg List.length htext
          simp only [List.nil_append, List.length_cons] at hcons
          omega
      | cons e l =>
          obtain ⟨rfl, rfl⟩ : e = c ∧ l ++ s = rest := List.cons.inj htext
          rw [List.length_append] at hlength hextra
          have hinside : extra ≤ l.length := by omega
          rw [List.drop_append_of_le_length hinside] at ih hrest
          exact Reads.token (Token.readAt_truncate hs hread hinside ht) hstep (ih rfl rfl)

end RegexComposition
