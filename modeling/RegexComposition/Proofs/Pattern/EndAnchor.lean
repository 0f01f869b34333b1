import RegexComposition.Proofs.Pattern.Nesting
import RegexComposition.Proofs.Pattern.Truncation

/-!
# Sources without their end anchor

The mark for the end of an expression becomes an end anchor if nothing but closing parentheses
follow it.  A text that can be read with the anchor can be read without it.  Since the anchor ends
no escape by name or number, no group name and no class, a token that is read in front of it ends
in front of it; only a backslash could take it up, and then the parentheses would not match up.

Main results:

- `Token.readAt_cut`: a token in front of an end anchor does not go on behind it.
- `Assembly.Reads.exists_closings`: closing parentheses only look at how many groups are open.
- `Assembly.Reads.without_anchor`: a text can be read without its end anchor, and declares the same
  groups.
-/

namespace RegexComposition

/-- The text consists of end anchors and closing parentheses. -/
def IsTail (s : List Char) : Prop := ∀ c ∈ s, c ∈ ['$', ')']

namespace IsTail

variable {s l : List Char} {c : Char}

theorem stops (h : IsTail s) : Stops s := by
  intro c hc
  have hmem := h c (List.mem_of_mem_head? hc)
  simp only [List.mem_cons, List.not_mem_nil, or_false] at hmem
  rcases hmem with rfl | rfl <;> simp

/-- Any other character of a text in front stands in this text. -/
theorem lt_length (h : IsTail s) {i : Nat} (hget : (l ++ s)[i]? = some c) (hc : c ∉ ['$', ')']) :
    i < l.length := by
  by_contra hlt
  rw [List.getElem?_append_right (Nat.le_of_not_lt hlt)] at hget
  exact hc (h c (List.mem_of_getElem? hget))

/-- The end of an expression with open groups: the anchor and what closes them. -/
theorem anchor_closings (k : Nat) : IsTail ('$' :: List.replicate k ')') := by
  intro c hc
  rcases List.mem_cons.1 hc with rfl | hc
  · simp
  · simp [List.eq_of_mem_replicate hc]

end IsTail

/-- The character behind a start of a text. -/
theorem getElem?_append_cons {l r : List Char} {c : Char} : (l ++ c :: r)[l.length]? = some c := by
  simp

/-! ## Where a token ends -/

namespace Escape

variable {g : Grammar} {l s : List Char} {e : Escape} {n : Nat}

/-- The braces of a property end in front of the tail. -/
theorem readProperty_cut {negated : Bool} (hs : IsTail s)
    (h : readProperty negated (l ++ s) = (e, n)) (he : ∀ cause, e ≠ fault cause) :
    n ≤ l.length := by
  unfold readProperty at h
  split at h
  · next inside heq =>
      dsimp only at h
      split at h
      · split at h
        · next hshort =>
            obtain ⟨-, rfl⟩ := Prod.mk.inj h
            rcases takeWhile_ne_append hshort with ⟨rest, hinside⟩
            generalize inside.takeWhile (· != '\x7d') = body at hinside
            have hget : (l ++ s)[body.length + 1]? = some '\x7d' := by
              rw [heq, hinside, List.getElem?_cons_succ, getElem?_append_cons]
            exact hs.lt_length hget (by decide)
        · exact absurd (Prod.mk.inj h).1.symm (he _)
      · exact absurd (Prod.mk.inj h).1.symm (he _)
  · exact absurd (Prod.mk.inj h).1.symm (he _)

/-- An escape ends in front of the tail. -/
theorem readAt_cut {inClass : Bool} {c : Char} (hs : IsTail s)
    (h : readAt g inClass c (l ++ s) = (e, n)) (he : ∀ cause, e ≠ fault cause) :
    n ≤ l.length + 1 := by
  cases hproperty : g.unicode && (c == 'p' || c == 'P') with
  | true =>
      rw [readAt_property inClass hproperty] at h
      rcases hread : readProperty (c == 'P') (l ++ s) with ⟨e', k⟩
      rw [hread] at h
      rcases Prod.mk.inj h with ⟨rfl, rfl⟩
      exact Nat.succ_le_succ (readProperty_cut hs hread he)
  | false =>
      rw [readAt_append_self hs.stops hproperty] at h
      rcases neutralFor_readAt h he with ⟨rfl, _⟩ | ⟨m, rfl, hm⟩
      · exact Nat.zero_le _
      · exact Nat.succ_le_succ hm.1

end Escape

/-- A class ends with its closing bracket. -/
theorem ClassText.exists_append {body : List Char} (h : ClassText body) :
    ∃ inside, body = inside ++ [']'] := by
  induction h with
  | closing => exact ⟨[], rfl⟩
  | @plain c body _ _ _ ih =>
      rcases ih with ⟨inside, rfl⟩
      exact ⟨c :: inside, rfl⟩
  | @escaped c body _ ih =>
      rcases ih with ⟨inside, rfl⟩
      exact ⟨'\\' :: c :: inside, rfl⟩

/-- The last character of the name of a group. -/
theorem GroupName.getElem?_of_read? {text : List Char} {name : String} {n : Nat}
    (h : read? text = some (name, n)) : ∃ k, n = k + 1 ∧ text[k]? = some '>' := by
  rcases spelling_read? h with ⟨spelled, rest, rfl, rfl, -⟩
  exact ⟨spelled.length, rfl, getElem?_append_cons⟩

namespace Token

variable {g : Grammar} {l s : List Char} {token : Token} {n : Nat}

/-- A reference by name ends in front of the tail. -/
theorem readNamedReference_cut (hs : IsTail s) (h : readNamedReference g (l ++ s) = (token, n))
    (ht : ∀ cause, token ≠ fault cause) : n ≤ l.length := by
  unfold readNamedReference at h
  split at h
  · next inside heq =>
      split at h
      · next name m hname =>
          split at h
          · obtain ⟨-, rfl⟩ := Prod.mk.inj h
            rcases GroupName.getElem?_of_read? hname with ⟨k, rfl, hget⟩
            have hget' : (l ++ s)[k + 1]? = some '>' := by
              rw [heq, List.getElem?_cons_succ, hget]
            exact hs.lt_length hget' (by decide)
          · exact absurd (Prod.mk.inj h).1.symm (ht _)
      · exact absurd (Prod.mk.inj h).1.symm (ht _)
  · exact absurd (Prod.mk.inj h).1.symm (ht _)

/-- What follows a backslash ends in front of the tail if it starts there. -/
theorem readEscape_cut {c : Char} (hs : IsTail s) (h : readEscape g c (l ++ s) = (token, n))
    (ht : ∀ cause, token ≠ fault cause) : n ≤ l.length + 1 := by
  have escaped : (ofEscape (Escape.readAt g false c (l ++ s)).1,
      (Escape.readAt g false c (l ++ s)).2) = (token, n) → n ≤ l.length + 1 := by
    intro heq
    rcases Prod.mk.inj heq with ⟨rfl, rfl⟩
    exact Escape.readAt_cut hs rfl (ofEscape_spelling ht).1
  by_cases hdigit : '1' ≤ c ∧ c ≤ '9'
  · have hnumber : Numeral.leadingNumber 10 ((l ++ s).length + 1) (c :: (l ++ s)) =
        Numeral.leadingNumber 10 (l.length + 1) (c :: l) :=
      Numeral.leadingNumber_length_append 10 (c :: l) hs.stops
    rw [readEscape_digit g hdigit, hnumber] at h
    split_ifs at h
    · obtain ⟨-, rfl⟩ := Prod.mk.inj h
      exact numberLength_le
    · exact absurd (Prod.mk.inj h).1.symm (ht _)
    · exact escaped h
  · unfold readEscape at h
    split_ifs at h with hb hB hk
    · obtain ⟨-, rfl⟩ := Prod.mk.inj h
      omega
    · obtain ⟨-, rfl⟩ := Prod.mk.inj h
      omega
    · rcases hname : readNamedReference g (l ++ s) with ⟨token', k⟩
      rw [hname] at h
      rcases Prod.mk.inj h with ⟨rfl, rfl⟩
      exact Nat.succ_le_succ (readNamedReference_cut hs hname ht)
    · exact escaped h

/-- A class ends in front of the tail. -/
theorem readClass_cut (hs : IsTail s) (h : readClass g (l ++ s) = (token, n))
    (ht : ∀ cause, token ≠ fault cause) : n ≤ l.length := by
  rcases spelling_readClass h ht with ⟨hlength, hspelling⟩
  have hclass : ClassText ((l ++ s).take n) := by
    unfold readClass at h
    dsimp only at h
    split at h
    · obtain ⟨rfl, -⟩ := Prod.mk.inj h
      rcases hspelling with hneutral | hend | ⟨hescape, -⟩ | ⟨body, hbody, hclass⟩
      · cases hneutral with
        | inert hinert _ => exact absurd hinert (by decide)
      · cases hend
      · cases hescape
      · rwa [(List.cons.inj hbody).2]
    · exact absurd (Prod.mk.inj h).1.symm (ht _)
  rcases hclass.exists_append with ⟨inside, hinside⟩
  have hn : n = inside.length + 1 := by
    have hcount := congrArg List.length hinside
    rwa [List.length_take_of_le hlength, List.length_append] at hcount
  have hget : (l ++ s)[inside.length]? = some ']' := by
    rw [← List.take_append_drop n (l ++ s), hinside]
    simp
  rw [hn]
  exact hs.lt_length hget (by decide)

/-- The opening of a group ends in front of the tail. -/
theorem readOpening_cut (hs : IsTail s) (h : readOpening (l ++ s) = (token, n))
    (ht : ∀ cause, token ≠ fault cause) : n ≤ l.length := by
  unfold readOpening at h
  split at h
  case h_1 heq | h_2 heq | h_3 heq =>
    obtain ⟨-, rfl⟩ := Prod.mk.inj h
    exact hs.lt_length (i := 1) (by rw [heq]; rfl) (by decide)
  case h_4 heq | h_5 heq =>
    obtain ⟨-, rfl⟩ := Prod.mk.inj h
    exact hs.lt_length (i := 2) (by rw [heq]; rfl) (by decide)
  case h_6 inside _ _ heq =>
    split at h
    · next name k hread =>
        obtain ⟨-, rfl⟩ := Prod.mk.inj h
        rcases GroupName.getElem?_of_read? hread with ⟨i, rfl, hget⟩
        have hget' : (l ++ s)[i + 2]? = some '>' := by
          rw [heq, List.getElem?_cons_succ, List.getElem?_cons_succ, hget]
        exact hs.lt_length hget' (by decide)
    · exact absurd (Prod.mk.inj h).1.symm (ht _)
  case h_7 modifiers _ _ _ _ _ _ heq =>
    split at h
    · next kind k hread =>
        obtain ⟨-, rfl⟩ := Prod.mk.inj h
        unfold readModifiers? at hread
        dsimp only at hread
        split at hread
        · split at hread
          · next hcond =>
              obtain ⟨-, rfl⟩ := Prod.mk.inj (Option.some.inj hread)
              rcases takeWhile_ne_append hcond.1 with ⟨rest, hmodifiers⟩
              generalize modifiers.takeWhile (· != ':') = body at hmodifiers
              have hget : (l ++ s)[body.length + 1]? = some ':' := by
                rw [heq, hmodifiers, List.getElem?_cons_succ, getElem?_append_cons]
              exact hs.lt_length hget (by decide)
          · cases hread
        · cases hread
    · exact absurd (Prod.mk.inj h).1.symm (ht _)
  case h_8 =>
    obtain ⟨-, rfl⟩ := Prod.mk.inj h
    exact Nat.zero_le _

/-- A token ends in front of the tail, unless it is a backslash right there. -/
theorem readAt_cut {c : Char} (hs : IsTail s) (h : readAt g c (l ++ s) = (token, n))
    (ht : ∀ cause, token ≠ fault cause) : n ≤ l.length ∨ c = '\\' ∧ l = [] := by
  have repeats : ∀ {d : Char}, readAt g d l = (token, n) → n ≤ l.length :=
    fun hread => (spelling_readAt hread ht).1
  have single : ∀ {t : Token}, (t, 0) = (token, n) → n ≤ l.length := by
    rintro t heq
    obtain ⟨-, rfl⟩ := Prod.mk.inj heq
    exact Nat.zero_le _
  unfold readAt at h
  split at h
  · cases l with
    | nil => exact Or.inr ⟨rfl, rfl⟩
    | cons d l => exact Or.inl (readEscape_cut hs h ht)
  · exact Or.inl (readClass_cut hs h ht)
  · exact Or.inl (readOpening_cut hs h ht)
  · exact Or.inl (single h)
  · exact Or.inl (single h)
  · exact Or.inl (single h)
  · exact Or.inl (single h)
  · exact Or.inl (single h)
  · exact Or.inl (repeats (d := '*') ((withLaziness_append l hs.stops).symm.trans h))
  · exact Or.inl (repeats (d := '+') ((withLaziness_append l hs.stops).symm.trans h))
  · exact Or.inl (repeats (d := '?') ((withLaziness_append l hs.stops).symm.trans h))
  · exact Or.inl (repeats (d := '\x7b')
      ((readBraces_append (Grammar.CarriesTo.refl g) l hs.stops).symm.trans h))
  · exact Or.inl (single h)
  · exact Or.inl (single h)
  · exact Or.inl (single h)

/-- Behind a backslash the end anchor stands for itself. -/
theorem readAt_escaped_anchor (g : Grammar) (text : List Char) :
    readAt g '\\' ('$' :: text) = (literal '$'.toNat, 1) := by
  simp [readAt, readEscape, Escape.readAt, Escape.category?, Escape.control?,
    Escape.isSyntaxCharacter, ofEscape]

end Token

/-! ## Closing parentheses -/

/-- As many closing parentheses as there are open groups do not close the one around these. -/
theorem Enclosure.closingFrom_replicate {k n : Nat} (h : k < n) :
    closingFrom n false false (List.replicate k ')') = none := by
  induction k generalizing n with
  | zero => rfl
  | succ k ih =>
      have hlevel : ¬ n ≤ 1 := by omega
      rw [List.replicate_succ, closingFrom]
      simp [hlevel, ih (show k < n - 1 by omega)]

namespace Assembly.Reads

variable {g : Grammar} {a b : Assembly} {k : Nat}

/-- Closing parentheses close as many frames as they are, whatever is in them. -/
theorem exists_closings (h : Reads g a (List.replicate k ')') b []) :
    a.enclosing.length = b.enclosing.length + k ∧
      ∀ a' : Assembly, a'.enclosing = a.enclosing →
        ∃ b', Reads g a' (List.replicate k ')') b' [] ∧ b'.enclosing = b.enclosing := by
  induction k generalizing a with
  | zero =>
      cases h
      exact ⟨rfl, fun a' ha' => ⟨a', Reads.done a' [], ha'⟩⟩
  | succ k ih =>
      rw [List.replicate_succ] at h
      rcases h.exists_of_cons rfl (Nat.zero_le _) with ⟨d, hstep, hrest⟩
      rcases exists_of_step_closing hstep with ⟨o, others, henclosing, rfl⟩
      rcases ih hrest with ⟨hlength, hothers⟩
      refine ⟨?_, fun a' ha' => ?_⟩
      · rw [henclosing, List.length_cons]
        dsimp only at hlength
        omega
      · rcases hothers ⟨o.push a'.current.close a'.current.closeFollows, others, a'.groups⟩ rfl with
          ⟨b', hreads, hb'⟩
        exact ⟨b', (Reads.closing (ha'.trans henclosing) _).trans hreads, hb'⟩

/-- If the parentheses behind an escaped anchor close all groups, one more does not close the group
around them without the anchor: the backslash takes up the first one. -/
theorem closingFrom_escaped_anchor (h : Reads g a ('\\' :: '$' :: List.replicate k ')') b [])
    (hb : b.enclosing = []) :
    Enclosure.closingFrom (a.enclosing.length + 1) false false
      ('\\' :: List.replicate (k + 1) ')') = none := by
  rcases h.exists_of_cons (Token.readAt_escaped_anchor g _) (Nat.zero_le _) with
    ⟨d, hstep, hrest⟩
  obtain rfl := Except.ok.inj hstep
  have hlength : a.enclosing.length = b.enclosing.length + k := hrest.exists_closings.1
  rw [hlength, hb, List.length_nil, Nat.zero_add, List.replicate_succ]
  simp [Enclosure.closingFrom, Enclosure.closingFrom_replicate (Nat.lt_succ_self k)]

/-! ## The end anchor -/

/-- A text that can be read with an end anchor behind everything but closing parentheses can be read
without it, if the scan for the end of a group passes over it then. -/
theorem without_anchor {l : List Char} (h : Reads g a (l ++ '$' :: List.replicate k ')') b [])
    (hb : b.enclosing = [])
    (hscan : Enclosure.closingFrom (a.enclosing.length + 1) false false
      (l ++ List.replicate (k + 1) ')') = some (l.length + k)) :
    (∃ b', Reads g a (l ++ List.replicate k ')') b' [] ∧ b'.enclosing = []) ∧
      GroupName.declaredFrom false (l ++ '$' :: List.replicate k ')') 0 =
        GroupName.declaredFrom false (l ++ List.replicate k ')') 0 := by
  have htail : IsTail ('$' :: List.replicate k ')') := .anchor_closings k
  have hstops : Stops (List.replicate k ')') := IsTail.stops fun c hc =>
    htail c (List.mem_cons_of_mem _ hc)
  generalize htext : l ++ '$' :: List.replicate k ')' = text at h ⊢
  generalize hend : ([] : List Char) = remaining at h
  induction h generalizing l with
  | done a text =>
      rw [← hend] at htext
      simp at htext
  | @token a b' d c rest remaining t extra hread hstep hrest ih =>
      subst hend
      have ht := ne_fault_of_step hstep
      cases l with
      | nil =>
          obtain ⟨rfl, rfl⟩ : '$' = c ∧ List.replicate k ')' = rest := List.cons.inj htext
          obtain ⟨rfl, rfl⟩ := Prod.mk.inj (show (Token.lineEnd, 0) = (t, extra) from hread)
          obtain rfl := Except.ok.inj hstep
          rcases hrest.exists_closings.2 a rfl with ⟨b₁, hreads, hb₁⟩
          exact ⟨⟨b₁, hreads, hb₁.trans hb⟩, by simp [GroupName.declaredFrom]⟩
      | cons e l =>
          obtain ⟨rfl, rfl⟩ : e = c ∧ l ++ '$' :: List.replicate k ')' = rest := List.cons.inj htext
          rcases Token.readAt_cut htail hread ht with hinside | ⟨rfl, rfl⟩
          · have htruncated := Token.readAt_truncate htail.stops hread hinside ht
            have hread' := Token.readAt_append_self hstops htruncated ht
            have hspelling : t.Spelling (e :: l.take extra)
                (l.drop extra ++ List.replicate (k + 1) ')') :=
              (Token.spelling_readAt htruncated ht).2.append (stops_closing _)
            have hrescan := closingFrom_drop_of_step hstep hinside hspelling hscan
            rw [List.drop_append_of_le_length hinside] at ih
            rcases ih hb hrescan rfl rfl with ⟨⟨b₁, hreads, hb₁⟩, hdeclared⟩
            refine ⟨⟨b₁, ?_, hb₁⟩, ?_⟩
            · rw [List.cons_append]
              refine Reads.token hread' hstep ?_
              rw [List.drop_append_of_le_length hinside]
              exact hreads
            · rw [List.cons_append, GroupName.declaredFrom_readAt hread ht,
                GroupName.declaredFrom_readAt hread' ht, List.drop_append_of_le_length hinside,
                List.drop_append_of_le_length hinside, hdeclared]
          · -- An anchor behind a backslash would leave one more parenthesis to close.
            have hclosed := closingFrom_escaped_anchor (Reads.token hread hstep hrest) hb
            cases hclosed.symm.trans hscan

end Assembly.Reads

end RegexComposition
