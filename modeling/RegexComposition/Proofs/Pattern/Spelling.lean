import RegexComposition.Pattern.SpelledName
import RegexComposition.Pattern.Token
import RegexComposition.Proofs.Pattern.NeutralText

/-!
# The spelling of tokens

A scan over a pattern source that knows of backslashes, brackets and parentheses only has to
agree with the token reader.  This module says which characters a token can be spelled with,
as far as such a scan can tell.

Main results:

- `Token.Spelling`: the form of the characters of a token.
- `Token.spelling_readAt`: every token that is no fault is spelled in this form.
-/

namespace RegexComposition

/-! ## Classes -/

namespace ClassAtom

/-- An atom is a single character or an escape; the backslash of an incomplete `\c` is a
character. -/
theorem spelling_readAt {g : Grammar} {c : Char} {rest : List Char} {atom : ClassAtom}
    {extra : Nat} (h : readAt g c rest = (atom, extra)) (ha : ∀ cause, atom ≠ fault cause) :
    (extra = 0 ∧ (c = '\\' → rest.head? = some 'c')) ∨
      ∃ next after m, c = '\\' ∧ rest = next :: after ∧ extra = m + 1 ∧ NeutralFor m after := by
  unfold readAt at h
  split at h
  · next hc =>
      refine Or.inl ⟨(Prod.mk.inj h).2.symm, fun hb => ?_⟩
      rw [hc] at hb
      exact absurd hb (by decide)
  split at h
  · next hc =>
      split at h
      · exact absurd (Prod.mk.inj h).1.symm (ha _)
      · next next after =>
          have hescape : ∃ e, (∀ cause, e ≠ Escape.fault cause) ∧
              Escape.readAt g true next after = (e, extra) := by
            split at h
            · next code n hread => exact ⟨.code code, by simp, by rw [hread, (Prod.mk.inj h).2]⟩
            · next k negated n hread =>
                exact ⟨.category k negated, by simp, by rw [hread, (Prod.mk.inj h).2]⟩
            · exact absurd (Prod.mk.inj h).1.symm (ha _)
          rcases hescape with ⟨e, he, hread⟩
          rcases Escape.neutralFor_readAt hread he with ⟨hn, hnext⟩ | ⟨m, hm, hneutral⟩
          · exact Or.inl ⟨hn, fun _ => by rw [hnext]; rfl⟩
          · exact Or.inr ⟨next, after, m, hc, rfl, hm, hneutral⟩
  · next hc => exact Or.inl ⟨(Prod.mk.inj h).2.symm, fun hb => absurd hb hc⟩

/-- An atom in front of the rest of a class. -/
theorem classText_cons {c : Char} {rest : List Char} {extra n : Nat} (hc : c ≠ ']')
    (hatom : (extra = 0 ∧ (c = '\\' → rest.head? = some 'c')) ∨
      ∃ next after m, c = '\\' ∧ rest = next :: after ∧ extra = m + 1 ∧ NeutralFor m after)
    (hextra : extra ≤ n) (hclass : ClassText ((rest.take n).drop extra)) :
    ClassText (c :: rest.take n) := by
  rcases hatom with ⟨rfl, hnext⟩ | ⟨next, after, m, rfl, rfl, rfl, hneutral⟩
  · rw [List.drop_zero] at hclass
    by_cases hb : c = '\\'
    · -- The letter after a lone backslash cannot close the class.
      rcases List.head?_eq_some_iff.1 (hnext hb) with ⟨after, rfl⟩
      subst hb
      cases n with
      | zero => cases hclass
      | succ n =>
          rw [List.take_succ_cons] at hclass ⊢
          cases hclass with
          | plain _ _ hclass => exact ClassText.escaped 'c' hclass
    · exact ClassText.plain hc hb hclass
  · rcases Nat.exists_eq_add_of_le hextra with ⟨n, rfl⟩
    rw [Nat.add_right_comm, List.take_succ_cons, List.drop_succ_cons] at hclass
    rw [Nat.add_right_comm, List.take_succ_cons]
    refine ClassText.escaped next ?_
    rw [List.take_add]
    have hsplit := hneutral.2.1.append_classText hclass
    rwa [List.take_add, List.drop_left' (by simp [hneutral.1])] at hsplit

/-- A text of atoms without a fault is a class up to its closing bracket. -/
theorem classText_readAll {g : Grammar} {text : List Char} {skip : Nat} {atoms : List ClassAtom}
    {n : Nat} (h : readAll g text skip = (atoms, n)) (ha : ∀ cause, fault cause ∉ atoms) :
    skip ≤ n ∧ n ≤ text.length ∧ ClassText ((text.take n).drop skip) := by
  induction text generalizing skip atoms n with
  | nil =>
      rcases Prod.mk.inj h with ⟨rfl, _⟩
      exact absurd (by simp) (ha .unbalancedBracket)
  | cons c rest ih =>
      cases skip with
      | succ skip =>
          rcases Prod.mk.inj h with ⟨rfl, rfl⟩
          rcases ih (show readAll g rest skip = _ from rfl) ha with ⟨hskip, hn, hclass⟩
          exact ⟨by omega, by simpa using hn, by simpa using hclass⟩
      | zero =>
          rw [readAll] at h
          split at h
          · next hc =>
              rcases Prod.mk.inj h with ⟨_, rfl⟩
              subst hc
              exact ⟨by omega, by simp, by simpa using ClassText.closing⟩
          · next hc =>
              generalize hatom : readAt g c rest = read at h
              rcases read with ⟨atom, extra⟩
              dsimp only at h
              generalize hrest : readAll g rest extra = read at h
              rcases read with ⟨others, m⟩
              rcases Prod.mk.inj h with ⟨rfl, rfl⟩
              simp only [List.mem_cons, not_or] at ha
              rcases ih hrest fun cause => (ha cause).2 with ⟨hextra, hm, hclass⟩
              refine ⟨Nat.zero_le _, by simpa using hm, ?_⟩
              rw [List.drop_zero, List.take_succ_cons]
              exact classText_cons hc (spelling_readAt hatom fun cause h => (ha cause).1 h.symm)
                hextra hclass

/-- An atom that becomes an item is no fault. -/
theorem ne_fault_of_item {atom : ClassAtom} {i : ClassItem} (h : atom.item = .ok i) :
    ∀ cause, atom ≠ fault cause := by
  rintro cause rfl
  simp [item] at h

/-- The ends of a range are no faults. -/
theorem ne_fault_of_rangeItems {unicode : Bool} {first last : ClassAtom} {is : List ClassItem}
    (h : rangeItems unicode first last = .ok is) :
    ∀ cause, first ≠ fault cause ∧ last ≠ fault cause := by
  intro cause
  constructor
  · rintro rfl
    simp [rangeItems, code?, item, bind, Except.bind] at h
  · rintro rfl
    cases first <;> simp [rangeItems, code?, item, bind, Except.bind] at h

/-- A class that can be read has no faulty atom. -/
theorem fault_notMem_of_items {unicode : Bool} {atoms : List ClassAtom} {is : List ClassItem}
    (h : items unicode atoms = .ok is) : ∀ cause, fault cause ∉ atoms := by
  fun_induction items unicode atoms generalizing is with
  | case1 first last rest ih =>
      cases hrange : rangeItems unicode first last with
      | error e => simp [hrange, bind, Except.bind] at h
      | ok range =>
          cases hrest : items unicode rest with
          | error e => simp [hrange, hrest, bind, Except.bind] at h
          | ok others =>
              intro cause hmem
              rcases ne_fault_of_rangeItems hrange cause with ⟨hfirst, hlast⟩
              simp only [List.mem_cons] at hmem
              rcases hmem with hmem | hmem | hmem | hmem
              · exact hfirst hmem.symm
              · cases hmem
              · exact hlast hmem.symm
              · exact ih hrest cause hmem
  | case2 atom rest hne ih =>
      cases hitem : atom.item with
      | error e => simp [hitem, bind, Except.bind] at h
      | ok i =>
          cases hrest : items unicode rest with
          | error e => simp [hitem, hrest, bind, Except.bind] at h
          | ok others =>
              intro cause hmem
              rcases List.mem_cons.1 hmem with hmem | hmem
              · exact ne_fault_of_item hitem cause hmem.symm
              · exact ih hrest cause hmem
  | case3 => simp

end ClassAtom

/-! ## Group names -/

namespace GroupName

/-- A character that may stand in a group name is inert. -/
theorem isInert_of_mayStand {atStart : Bool} {c : Char} (h : mayStand atStart c.toNat = true) :
    IsInert c := by
  intro hc
  simp only [List.mem_cons, List.not_mem_nil, or_false] at hc
  rcases hc with rfl | rfl | rfl | rfl | rfl | rfl <;> cases atStart <;> revert h <;> decide

/-- A code point escape inside a group name. -/
theorem neutralText_escape {spelled after : List Char} {k : Nat}
    (hu : (spelled ++ '>' :: after).head? = some 'u')
    (hnumeral : NeutralFor k (spelled ++ '>' :: after).tail) (hk : k + 1 ≤ spelled.length)
    (hneutral : NeutralText (spelled.drop (k + 1))) (hname : '>' ∉ spelled.drop (k + 1)) :
    NeutralText ('\\' :: spelled) ∧ '>' ∉ spelled := by
  cases spelled with
  | nil => simp at hk
  | cons d l =>
      obtain rfl : d = 'u' := by simpa using hu
      rcases hnumeral with ⟨_, hnumeral, hfree⟩
      have hkl : k ≤ l.length := by simpa using hk
      rw [List.cons_append, List.tail_cons, List.take_append_of_le_length hkl] at hnumeral hfree
      rw [List.drop_succ_cons] at hneutral hname
      have hl := hnumeral.append hneutral
      rw [List.take_append_drop] at hl
      have hlfree : '>' ∉ l := by
        rw [← List.take_append_drop k l, List.mem_append]
        exact not_or.2 ⟨hfree, hname⟩
      exact ⟨NeutralText.escaped 'u' hl, by simpa using hlfree⟩

/-- The code point that is spelled by a character and the text behind it, and how many characters
of that text belong to it. -/
def spelledCode? (c : Char) (rest : List Char) : Option (Nat × Nat) :=
  if c = '\\' then
    if rest.head? = some 'u' then
      (Numeral.unicodeNumeral? true rest.tail).map fun (code, n) => (code, n + 1)
    else none
  else some (c.toNat, 0)

/-- A name ends, or it goes on with a character that may stand in it. -/
theorem readFrom_cons (atStart : Bool) (c : Char) (rest : List Char) :
    readFrom atStart (c :: rest) 0 =
      if c = '>' then if atStart then none else some ([], 1)
      else
        match spelledCode? c rest with
        | none => none
        | some (code, extra) =>
          if mayStand atStart code then
            (readFrom false rest extra).map fun (name, n) => (Char.ofNat code :: name, n + 1)
          else none := rfl

/-- A character that may stand in a group name, in front of the rest of the name. -/
theorem neutralText_spelledCode? {atStart : Bool} {c : Char} {spelled after : List Char}
    {code extra : Nat} (h : spelledCode? c (spelled ++ '>' :: after) = some (code, extra))
    (hstand : mayStand atStart code = true) (hextra : extra ≤ spelled.length)
    (hneutral : NeutralText (spelled.drop extra)) (hname : '>' ∉ spelled.drop extra) :
    NeutralText (c :: spelled) ∧ '>' ∉ spelled := by
  unfold spelledCode? at h
  split at h
  · next hb =>
      split at h
      · next hu =>
          rcases Option.map_eq_some_iff.1 h with ⟨⟨code', k⟩, hnumeral, heq⟩
          rcases Prod.mk.inj heq with ⟨_, rfl⟩
          rw [hb]
          exact neutralText_escape hu (Numeral.neutralFor_unicodeNumeral? hnumeral) hextra
            hneutral hname
      · cases h
  · rcases Prod.mk.inj (Option.some.inj h) with ⟨rfl, rfl⟩
    exact ⟨NeutralText.inert (isInert_of_mayStand hstand) hneutral, hname⟩

/-- The characters of a group name, up to the sign that ends it. -/
theorem spelling_readFrom {atStart : Bool} {text : List Char} {skip n : Nat} {name : List Char}
    (h : readFrom atStart text skip = some (name, n)) :
    ∃ spelled rest, text = spelled ++ '>' :: rest ∧ n = spelled.length + 1 ∧
      skip ≤ spelled.length ∧ NeutralText (spelled.drop skip) ∧ '>' ∉ spelled.drop skip := by
  induction text generalizing atStart skip name n with
  | nil => simp [readFrom] at h
  | cons c rest ih =>
      cases skip with
      | succ skip =>
          rw [readFrom] at h
          rcases Option.map_eq_some_iff.1 h with ⟨⟨name', n'⟩, hrest, heq⟩
          rcases Prod.mk.inj heq with ⟨rfl, rfl⟩
          rcases ih hrest with ⟨spelled, after, rfl, rfl, hskip, hneutral, hname⟩
          exact ⟨c :: spelled, after, rfl, rfl, by simpa using hskip, hneutral, hname⟩
      | zero =>
          rw [readFrom_cons] at h
          split at h
          · next hc =>
              split at h
              · cases h
              · rcases Prod.mk.inj (Option.some.inj h) with ⟨_, rfl⟩
                exact ⟨[], rest, by rw [hc]; rfl, rfl, Nat.le_refl _, NeutralText.nil, by simp⟩
          · next hc =>
              split at h
              · cases h
              · next code extra hspelled =>
                  split at h
                  · next hstand =>
                      rcases Option.map_eq_some_iff.1 h with ⟨⟨name', n'⟩, hrest, heq⟩
                      rcases Prod.mk.inj heq with ⟨rfl, rfl⟩
                      rcases ih hrest with ⟨spelled, after, rfl, rfl, hextra, hneutral, hname⟩
                      rcases neutralText_spelledCode? hspelled hstand hextra hneutral hname with
                        ⟨htext, hfree⟩
                      refine ⟨c :: spelled, after, rfl, rfl, Nat.zero_le _, htext, ?_⟩
                      rw [List.drop_zero, List.mem_cons, not_or]
                      exact ⟨fun h => hc h.symm, hfree⟩
                  · cases h

/-- No name goes on with a character that may not stand there. -/
theorem readFrom_eq_none {atStart : Bool} {c : Char} {rest : List Char}
    (hc : mayStand atStart c.toNat = false) (hend : c ≠ '>') (hescape : c ≠ '\\') :
    readFrom atStart (c :: rest) 0 = none := by
  rw [readFrom, if_neg hend, if_neg hescape]
  dsimp only
  rw [if_neg (by simp [hc])]

/-- What follows the opening of a lookbehind is no group name. -/
theorem read?_of_lookbehind {c : Char} (hc : c = '=' ∨ c = '!') (text : List Char) :
    read? (c :: text) = none := by
  rw [read?, Option.map_eq_none_iff]
  rcases hc with rfl | rfl
  · exact readFrom_eq_none (by decide) (by decide) (by decide)
  · exact readFrom_eq_none (by decide) (by decide) (by decide)

/-- A group name does not start with a sign that makes a lookbehind. -/
theorem startsName_of_readFrom {text : List Char} {n : Nat} {name : List Char}
    (h : readFrom true text 0 = some (name, n)) :
    SpelledName.startsName ('?' :: '<' :: text) = true := by
  cases text with
  | nil => simp [readFrom] at h
  | cons c rest =>
      have hc : ¬ (c = '=' ∨ c = '!') := by
        intro hc
        have hnone := read?_of_lookbehind hc rest
        rw [read?, h] at hnone
        cases hnone
      rw [not_or] at hc
      simp [SpelledName.startsName, hc]

/-- What spells a name, with the sign that ends it. -/
theorem take_spelling (spelled after : List Char) :
    (spelled ++ '>' :: after).take (spelled.length + 1) = spelled ++ ['>'] := by
  simp [List.take_append, List.take_of_length_le (Nat.le_succ spelled.length)]

/-- The spelling of a group name that can be read. -/
theorem spelling_read? {text : List Char} {name : String} {n : Nat}
    (h : read? text = some (name, n)) :
    ∃ spelled rest, text = spelled ++ '>' :: rest ∧ n = spelled.length + 1 ∧
      NeutralText spelled ∧ '>' ∉ spelled ∧ SpelledName.startsName ('?' :: '<' :: text) = true := by
  rcases Option.map_eq_some_iff.1 h with ⟨⟨chars, n'⟩, hread, heq⟩
  rcases Prod.mk.inj heq with ⟨_, rfl⟩
  rcases spelling_readFrom hread with ⟨spelled, rest, htext, hn, _, hneutral, hname⟩
  exact ⟨spelled, rest, htext, hn, hneutral, hname, startsName_of_readFrom hread⟩

end GroupName

/-! ## Tokens -/

namespace Token

/-- The form of the characters of a token, as far as a scan for groups can tell, and of what
follows them.  The backslash of an incomplete `\c` is a token of its own. -/
def Spelling (token : Token) (spelling after : List Char) : Prop :=
  match token with
  | opening (.capturing none) => spelling = ['('] ∧ after.head? ≠ some '?'
  | opening (.capturing (some _)) =>
      ∃ name, spelling = '(' :: '?' :: '<' :: (name ++ ['>']) ∧ NeutralText name ∧ '>' ∉ name ∧
        SpelledName.startsName ('?' :: '<' :: (name ++ '>' :: after)) = true
  | opening _ =>
      ∃ mark, spelling = '(' :: '?' :: mark ∧ NeutralText mark ∧ mark ≠ [] ∧
        (mark.head? = some '<' → mark = ['<', '='] ∨ mark = ['<', '!'])
  | closing => spelling = [')']
  | set _ _ =>
      NeutralText spelling ∨ spelling = [']'] ∨ (spelling = ['\\'] ∧ after.head? = some 'c') ∨
        ∃ body, spelling = '[' :: body ∧ ClassText body
  | _ => NeutralText spelling

/-- A reference by name is spelled neutrally. -/
theorem neutralText_readNamedReference {g : Grammar} {text : List Char} {token : Token} {n : Nat}
    (h : readNamedReference g text = (token, n)) (ht : ∀ cause, token ≠ fault cause) :
    (∃ i, token = backreference i) ∧ n ≤ text.length ∧ NeutralText (text.take n) := by
  unfold readNamedReference at h
  split at h
  · split at h
    · next name k hread =>
        split at h
        · next i _ =>
            rcases Prod.mk.inj h with ⟨rfl, rfl⟩
            rcases GroupName.spelling_read? hread with ⟨spelled, rest, rfl, rfl, hneutral, _⟩
            have htext : '<' :: (spelled ++ '>' :: rest) = ('<' :: (spelled ++ ['>'])) ++ rest := by
              simp
            refine ⟨⟨i, rfl⟩, by simp, ?_⟩
            rw [htext, List.take_left' (by simp)]
            exact NeutralText.inert (by decide)
              (hneutral.append (NeutralText.nameEnd NeutralText.nil))
        · exact absurd (Prod.mk.inj h).1.symm (ht _)
    · exact absurd (Prod.mk.inj h).1.symm (ht _)
  · exact absurd (Prod.mk.inj h).1.symm (ht _)

/-- The token of an escape that is no fault is a set. -/
theorem ofEscape_spelling {e : Escape} (he : ∀ cause, ofEscape e ≠ fault cause) :
    (∀ cause, e ≠ Escape.fault cause) ∧ ∃ items negated, ofEscape e = set items negated := by
  cases e with
  | code c => exact ⟨by simp, _, _, rfl⟩
  | category k negated => exact ⟨by simp, _, _, rfl⟩
  | fault cause => exact absurd rfl (he cause)

/-- An escape is spelled neutrally, or its backslash is a token of its own. -/
theorem spelling_readEscape {g : Grammar} {c : Char} {text : List Char} {token : Token} {n : Nat}
    (h : readEscape g c text = (token, n)) (ht : ∀ cause, token ≠ fault cause) :
    n ≤ (c :: text).length ∧
      token.Spelling ('\\' :: (c :: text).take n) ((c :: text).drop n) := by
  have plain : ∀ {e : Escape} {k : Nat}, (ofEscape e, k) = (token, n) →
      Escape.readAt g false c text = (e, k) → n ≤ (c :: text).length ∧
        token.Spelling ('\\' :: (c :: text).take n) ((c :: text).drop n) := by
    intro e k heq hread
    rcases Prod.mk.inj heq with ⟨rfl, rfl⟩
    rcases ofEscape_spelling ht with ⟨he, items, negated, hset⟩
    rw [hset]
    rcases Escape.neutralFor_readAt hread he with ⟨rfl, rfl⟩ | ⟨m, rfl, hlength, hneutral, _⟩
    · exact ⟨Nat.zero_le _, Or.inr (Or.inr (Or.inl ⟨rfl, rfl⟩))⟩
    · exact ⟨by simpa using hlength, Or.inl (NeutralText.escaped c hneutral)⟩
  unfold readEscape at h
  split at h
  · next hb =>
      rcases Prod.mk.inj h with ⟨rfl, rfl⟩
      exact ⟨by simp, NeutralText.escaped c NeutralText.nil⟩
  split at h
  · next hb =>
      rcases Prod.mk.inj h with ⟨rfl, rfl⟩
      exact ⟨by simp, NeutralText.escaped c NeutralText.nil⟩
  split at h
  · rcases Prod.mk.inj h with ⟨rfl, rfl⟩
    rcases neutralText_readNamedReference rfl ht with ⟨⟨i, hi⟩, hlength, hneutral⟩
    rw [hi]
    exact ⟨by simpa using hlength, NeutralText.escaped c hneutral⟩
  split at h
  · next hdigit =>
      dsimp only at h
      split at h
      · rcases Prod.mk.inj h with ⟨rfl, rfl⟩
        have hvalue := Numeral.digitValue?_of_decimal ⟨Char.le_trans (by decide) hdigit.1, hdigit.2⟩
        have hdigits := Numeral.neutralFor_leadingNumber 10 (text.length + 1) (c :: text)
        have hcount : (Numeral.leadingNumber 10 (text.length + 1) (c :: text)).2 =
            (Numeral.leadingDigits 10 text.length text).length + 1 := by
          simp [Numeral.leadingNumber, Numeral.leadingDigits, hvalue]
        rw [hcount] at hdigits ⊢
        rcases hdigits.tail (by
          rintro rfl
          revert hdigit
          decide) with ⟨hlength, hneutral, _⟩
        exact ⟨by simpa using hlength, NeutralText.escaped c hneutral⟩
      · split at h
        · exact absurd (Prod.mk.inj h).1.symm (ht _)
        · exact plain h rfl
  · exact plain h rfl

/-- The atoms of a class without a fault are spelled up to the closing bracket. -/
theorem classText_of_items {g : Grammar} {inside : List Char} {is : List ClassItem}
    (h : ClassAtom.items g.unicode (ClassAtom.readAll g inside 0).1 = .ok is) :
    (ClassAtom.readAll g inside 0).2 ≤ inside.length ∧
      ClassText (inside.take (ClassAtom.readAll g inside 0).2) := by
  have hread : ClassAtom.readAll g inside 0 = _ := rfl
  rcases ClassAtom.classText_readAll hread (ClassAtom.fault_notMem_of_items h) with
    ⟨_, hlength, hclass⟩
  exact ⟨hlength, hclass⟩

/-- A class is spelled from its opening to its closing bracket. -/
theorem spelling_readClass {g : Grammar} {text : List Char} {token : Token} {n : Nat}
    (h : readClass g text = (token, n)) (ht : ∀ cause, token ≠ fault cause) :
    n ≤ text.length ∧ token.Spelling ('[' :: text.take n) (text.drop n) := by
  unfold readClass at h
  split at h
  next negated inside hinside =>
  dsimp only at h
  split at h
  · next items hitems =>
      rcases classText_of_items hitems with ⟨hlength, hclass⟩
      split at hinside
      · next inside' =>
          rcases Prod.mk.inj hinside with ⟨rfl, rfl⟩
          rcases Prod.mk.inj h with ⟨rfl, rfl⟩
          refine ⟨by simpa using hlength, ?_⟩
          exact Or.inr (Or.inr (Or.inr ⟨_, rfl,
            ClassText.plain (by decide) (by decide) hclass⟩))
      · rcases Prod.mk.inj hinside with ⟨rfl, rfl⟩
        rcases Prod.mk.inj h with ⟨rfl, rfl⟩
        exact ⟨hlength, Or.inr (Or.inr (Or.inr ⟨_, rfl, hclass⟩))⟩
  · exact absurd (Prod.mk.inj h).1.symm (ht _)

/-- Letters that stand for flags one by one. -/
theorem modifierFlag?_of_mapM {letters : List Char} {flags : List Flag}
    (h : letters.mapM modifierFlag? = some flags) {c : Char} (hc : c ∈ letters) :
    c = 'i' ∨ c = 'm' ∨ c = 's' := by
  induction letters generalizing flags with
  | nil => cases hc
  | cons d rest ih =>
      rw [List.mapM_cons] at h
      cases hd : modifierFlag? d with
      | none => simp [hd] at h
      | some f =>
          cases hrest : rest.mapM modifierFlag? with
          | none => simp [hd, hrest] at h
          | some fs =>
              rcases List.mem_cons.1 hc with rfl | hc
              · unfold modifierFlag? at hd
                split at hd <;> simp_all
              · exact ih hrest hc

/-- The flags that a group switches are named by inert letters. -/
theorem neutralFor_readModifiers? {text : List Char} {kind : GroupKind} {n : Nat}
    (h : readModifiers? text = some (kind, n)) :
    (∃ on off, kind = .modified on off) ∧ NeutralFor n text ∧ n ≠ 0 ∧
      ∀ c ∈ text.head?, c ∈ ['i', 'm', 's', '-'] := by
  unfold readModifiers? at h
  dsimp only at h
  split at h
  · next on off hon hoff =>
      split at h
      · next hcond =>
          rcases Prod.mk.inj (Option.some.inj h) with ⟨rfl, rfl⟩
          rcases hcond with ⟨hlength, hsome, _⟩
          have hletters : ∀ c ∈ text.takeWhile (· != ':'), c ∈ ['i', 'm', 's', '-'] := by
            intro c hc
            rcases mem_takeWhile_ne_or (x := '-') hc with hc | ⟨_, rfl | hc⟩
            · rcases modifierFlag?_of_mapM hon hc with rfl | rfl | rfl <;> decide
            · decide
            · rcases modifierFlag?_of_mapM hoff hc with rfl | rfl | rfl <;> decide
          have hinert : ∀ c ∈ ['i', 'm', 's', '-'], IsInert c := isInert_of_all (by decide)
          rcases takeWhile_ne_append hlength with ⟨rest, htext⟩
          have hbody := NeutralFor.of_prefix (List.takeWhile_prefix (l := text) _)
            fun c hc => hinert c (hletters c hc)
          refine ⟨⟨on, off, rfl⟩, hbody.add ?_, Nat.succ_ne_zero _, ?_⟩
          · nth_rewrite 2 [htext]
            rw [List.drop_left]
            exact NeutralFor.one rfl (by decide)
          · intro c hhead
            rcases List.head?_eq_some_iff.1 hhead with ⟨tail, rfl⟩
            by_cases hc : c = ':'
            · subst hc
              obtain rfl : [] = on := Option.some.inj hon
              obtain rfl : [] = off := Option.some.inj hoff
              exact absurd rfl hsome
            · exact hletters c (by simp [hc])
      · cases h
  · cases h

/-- The opening of a group is spelled with a mark that opens nothing else. -/
theorem spelling_readOpening {text : List Char} {token : Token} {n : Nat}
    (h : readOpening text = (token, n)) (ht : ∀ cause, token ≠ fault cause) :
    n ≤ text.length ∧ token.Spelling ('(' :: text.take n) (text.drop n) := by
  unfold readOpening at h
  split at h
  · rcases Prod.mk.inj h with ⟨rfl, rfl⟩
    have hmark := NeutralText.of_forall (isInert_of_all (l := [':']) (by decide))
    exact ⟨by simp, _, rfl, hmark, by simp, by simp⟩
  · rcases Prod.mk.inj h with ⟨rfl, rfl⟩
    have hmark := NeutralText.of_forall (isInert_of_all (l := ['=']) (by decide))
    exact ⟨by simp, _, rfl, hmark, by simp, by simp⟩
  · rcases Prod.mk.inj h with ⟨rfl, rfl⟩
    have hmark := NeutralText.of_forall (isInert_of_all (l := ['!']) (by decide))
    exact ⟨by simp, _, rfl, hmark, by simp, by simp⟩
  · rcases Prod.mk.inj h with ⟨rfl, rfl⟩
    have hmark := NeutralText.of_forall (isInert_of_all (l := ['<', '=']) (by decide))
    exact ⟨by simp, _, rfl, hmark, by simp, by simp⟩
  · rcases Prod.mk.inj h with ⟨rfl, rfl⟩
    have hmark := NeutralText.of_forall (isInert_of_all (l := ['<', '!']) (by decide))
    exact ⟨by simp, _, rfl, hmark, by simp, by simp⟩
  · split at h
    · next inside _ _ name k hread =>
        rcases Prod.mk.inj h with ⟨rfl, rfl⟩
        rcases GroupName.spelling_read? hread with
          ⟨spelled, rest, rfl, rfl, hneutral, hname, hstarts⟩
        have htext : '?' :: '<' :: (spelled ++ '>' :: rest) =
            ('?' :: '<' :: (spelled ++ ['>'])) ++ rest := by simp
        refine ⟨by simp, spelled, ?_, hneutral, hname, ?_⟩
        · rw [htext, List.take_left' (by simp)]
        · rw [htext, List.drop_left' (by simp)]
          exact hstarts
    · exact absurd (Prod.mk.inj h).1.symm (ht _)
  · split at h
    · next kind k hread =>
        rcases Prod.mk.inj h with ⟨rfl, rfl⟩
        rcases neutralFor_readModifiers? hread with
          ⟨⟨on, off, rfl⟩, ⟨hlength, hneutral, _⟩, hpositive, hhead⟩
        refine ⟨by simpa using hlength, _, rfl, hneutral, fun hmark => ?_, fun hmark => ?_⟩
        · rcases List.take_eq_nil_iff.1 hmark with hk | rfl
          · exact hpositive hk
          · exact hpositive (Nat.le_zero.1 hlength)
        · rw [List.head?_take, if_neg hpositive] at hmark
          exact absurd (hhead '<' hmark) (by decide)
    · exact absurd (Prod.mk.inj h).1.symm (ht _)
  · next hmark =>
      rcases Prod.mk.inj h with ⟨rfl, rfl⟩
      refine ⟨Nat.zero_le _, rfl, fun hhead => ?_⟩
      rcases List.head?_eq_some_iff.1 hhead with ⟨rest, rfl⟩
      exact hmark rest rfl

/-- The counts of a quantifier are spelled neutrally. -/
theorem neutralFor_readCounts? {text : List Char} {min n : Nat} {max : Option Nat}
    (h : readCounts? text = some (min, max, n)) : NeutralFor n text := by
  unfold readCounts? at h
  split at h
  · cases h
  · next min' n' hmin =>
      have hfirst := Numeral.neutralFor_leadingNumber 10 text.length text
      rw [hmin] at hfirst
      split at h
      · next rest hdrop =>
          rcases Option.some.inj h with ⟨_, _, rfl⟩
          refine hfirst.add ?_
          rw [hdrop]
          exact NeutralFor.one rfl (by decide)
      · next rest hdrop =>
          rcases Option.some.inj h with ⟨_, _, rfl⟩
          refine hfirst.add ?_
          rw [hdrop]
          exact NeutralFor.cons (by decide) (NeutralFor.one rfl (by decide))
      · next rest _ hdrop =>
          split at h
          · cases h
          · next max' m hmax =>
              split at h
              · next hbrace =>
                  rcases Option.some.inj h with ⟨_, _, rfl⟩
                  have hsecond := Numeral.neutralFor_leadingNumber 10 rest.length rest
                  rw [hmax] at hsecond
                  rw [Nat.add_assoc]
                  refine hfirst.add ?_
                  rw [hdrop]
                  exact NeutralFor.cons (by decide)
                    (hsecond.add (NeutralFor.one hbrace (by decide)))
              · cases h
      · cases h

/-- A quantifier is spelled neutrally to its end. -/
theorem neutralFor_withLaziness {min used n : Nat} {max : Option Nat} {braced : Bool}
    {text : List Char} {token : Token} (hused : NeutralFor used text)
    (h : withLaziness min max braced used (text.drop used) = (token, n)) :
    (∃ q, token = quantifier q braced) ∧ NeutralFor n text := by
  unfold withLaziness at h
  split at h
  · next rest hdrop =>
      rcases Prod.mk.inj h with ⟨rfl, rfl⟩
      refine ⟨⟨_, rfl⟩, hused.add ?_⟩
      rw [hdrop]
      exact NeutralFor.one rfl (by decide)
  · rcases Prod.mk.inj h with ⟨rfl, rfl⟩
    exact ⟨⟨_, rfl⟩, hused⟩

/-- A quantifier in braces, or a brace that stands for itself. -/
theorem neutralFor_readBraces {g : Grammar} {text : List Char} {token : Token} {n : Nat}
    (h : readBraces g text = (token, n)) :
    NeutralFor n text ∧ ((∃ q, token = quantifier q true) ∨ token = looseBrace ∨
      token = literal '\x7b'.toNat) := by
  unfold readBraces at h
  split at h
  · next min max k hcounts =>
      rcases neutralFor_withLaziness (neutralFor_readCounts? hcounts) h with ⟨hq, hn⟩
      exact ⟨hn, Or.inl hq⟩
  · rcases Prod.mk.inj h with ⟨rfl, rfl⟩
    refine ⟨NeutralFor.zero text, ?_⟩
    split
    · exact Or.inr (Or.inl rfl)
    · exact Or.inr (Or.inr rfl)

/-- Every token that is no fault is spelled in its form. -/
theorem spelling_readAt {g : Grammar} {c : Char} {rest : List Char} {token : Token} {extra : Nat}
    (h : readAt g c rest = (token, extra)) (ht : ∀ cause, token ≠ fault cause) :
    extra ≤ rest.length ∧ token.Spelling (c :: rest.take extra) (rest.drop extra) := by
  -- The signs of the repetitions only differ in what they count.
  have lazy : ∀ {min : Nat} {max : Option Nat}, IsInert c →
      withLaziness min max false 0 rest = (token, extra) →
        extra ≤ rest.length ∧ token.Spelling (c :: rest.take extra) (rest.drop extra) := by
    intro min max hc h
    rcases neutralFor_withLaziness (NeutralFor.zero rest) h with ⟨⟨q, rfl⟩, hlength, hneutral, _⟩
    exact ⟨hlength, NeutralText.inert hc hneutral⟩
  unfold readAt at h
  split at h
  · split at h
    · exact absurd (Prod.mk.inj h).1.symm (ht _)
    · exact spelling_readEscape h ht
  · exact spelling_readClass h ht
  · exact spelling_readOpening h ht
  · rcases Prod.mk.inj h with ⟨rfl, rfl⟩
    exact ⟨Nat.zero_le _, rfl⟩
  · rcases Prod.mk.inj h with ⟨rfl, rfl⟩
    exact ⟨Nat.zero_le _, NeutralText.inert (by decide) NeutralText.nil⟩
  · rcases Prod.mk.inj h with ⟨rfl, rfl⟩
    exact ⟨Nat.zero_le _, NeutralText.inert (by decide) NeutralText.nil⟩
  · rcases Prod.mk.inj h with ⟨rfl, rfl⟩
    exact ⟨Nat.zero_le _, NeutralText.inert (by decide) NeutralText.nil⟩
  · rcases Prod.mk.inj h with ⟨rfl, rfl⟩
    exact ⟨Nat.zero_le _, NeutralText.inert (by decide) NeutralText.nil⟩
  · exact lazy (by decide) h
  · exact lazy (by decide) h
  · exact lazy (by decide) h
  · rcases neutralFor_readBraces h with ⟨⟨hlength, hneutral, _⟩, htoken⟩
    have hspelling := NeutralText.inert (c := '\x7b') (by decide) hneutral
    rcases htoken with ⟨q, rfl⟩ | rfl | rfl
    · exact ⟨hlength, hspelling⟩
    · exact ⟨hlength, hspelling⟩
    · exact ⟨hlength, Or.inl hspelling⟩
  · split at h
    · exact absurd (Prod.mk.inj h).1.symm (ht _)
    · rcases Prod.mk.inj h with ⟨rfl, rfl⟩
      exact ⟨Nat.zero_le _, Or.inl (NeutralText.inert (by decide) NeutralText.nil)⟩
  · split at h
    · exact absurd (Prod.mk.inj h).1.symm (ht _)
    · rcases Prod.mk.inj h with ⟨rfl, rfl⟩
      exact ⟨Nat.zero_le _, Or.inr (Or.inl rfl)⟩
  · -- The cases before leave characters without a meaning, and a name can end in one of them.
    next hescape hbracket hopening hclosing _ _ _ _ _ _ _ _ _ hend =>
      rcases Prod.mk.inj h with ⟨rfl, rfl⟩
      refine ⟨Nat.zero_le _, Or.inl ?_⟩
      by_cases hname : c = '>'
      · rw [hname]
        exact NeutralText.nameEnd NeutralText.nil
      · refine NeutralText.inert (fun hc => ?_) NeutralText.nil
        simp only [List.mem_cons, List.not_mem_nil, or_false] at hc
        rcases hc with hc | hc | hc | hc | hc | hc
        · exact hescape hc
        · exact hbracket hc
        · exact hend hc
        · exact hopening hc
        · exact hclosing hc
        · exact hname hc

end Token

end RegexComposition
