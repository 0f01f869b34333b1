import RegexComposition.Proofs.Pattern.Context

/-!
# Grammars with other names

The names of the groups decide only how the escape `\k` is read.  Without this escape a text is read in
the same way in all grammars that have equally many groups, so a source without named groups can be
read between groups that have names.

Main results:

- `mentionsName`: a scan for the escape `\k`.
- `Token.readAt_renamed`: a token without the escape.
- `ReadsIn.renamed`: a text without the escape.
- `FitsNamed`, `Fits.named`: texts that can be read between groups with names.
- `FitsNamed.compile`: they are accepted if no two names are the same.
-/

namespace RegexComposition

open Assembly

/-! ## The escape -/

/-- Whether the escape `\k` occurs in the text.  The first argument says whether a backslash stands in
front of the text that escapes its first character. -/
def mentionsName (escaped : Bool) : List Char → Bool
  | [] => false
  | c :: rest => (escaped && c == 'k') || mentionsName (!escaped && c == '\\') rest

section Scan

variable {c : Char} {l r s : List Char} {escaped : Bool}

theorem mentionsName_plain (hc : c ≠ '\\') (l : List Char) :
    mentionsName false (c :: l) = mentionsName false l := by
  simp [mentionsName, beq_eq_false_iff_ne.2 hc]

theorem mentionsName_escape (c : Char) (l : List Char) :
    mentionsName false ('\\' :: c :: l) = (c == 'k' || mentionsName false l) := by
  simp [mentionsName]

/-- What does not occur in a text does not occur in front of its end. -/
theorem mentionsName_of_append (h : mentionsName escaped (l ++ r) = false) :
    mentionsName escaped l = false := by
  induction l generalizing escaped with
  | nil => rfl
  | cons c l ih =>
      rw [List.cons_append, mentionsName, Bool.or_eq_false_iff] at h
      rw [mentionsName, h.1, ih h.2]
      rfl

/-- The scan passes over a neutral text. -/
theorem mentionsName_of_neutral (hl : NeutralText l) (h : mentionsName false (l ++ r) = false) :
    mentionsName false r = false := by
  induction hl with
  | nil => exact h
  | @inert c l hc _ ih =>
      have hescape : c ≠ '\\' := fun heq => hc (heq ▸ List.mem_cons_self)
      rw [List.cons_append, mentionsName_plain hescape] at h
      exact ih h
  | nameEnd _ ih => exact ih h
  | escaped c _ ih =>
      rw [List.cons_append, List.cons_append, mentionsName_escape, Bool.or_eq_false_iff] at h
      exact ih h.2

/-- The scan passes over the rest of a class. -/
theorem mentionsName_of_class (hl : ClassText l) (h : mentionsName false (l ++ r) = false) :
    mentionsName false r = false := by
  induction hl with
  | closing => exact h
  | @plain c l _ hescape _ ih =>
      rw [List.cons_append, mentionsName_plain hescape] at h
      exact ih h
  | escaped c _ ih =>
      rw [List.cons_append, List.cons_append, mentionsName_escape, Bool.or_eq_false_iff] at h
      exact ih h.2

/-- The scan passes over a lone backslash in front of the letter of an incomplete escape. -/
theorem mentionsName_of_lone (hnext : (r ++ s).head? = some 'c')
    (h : mentionsName false ('\\' :: r) = false) : mentionsName false r = false := by
  cases r with
  | nil => rfl
  | cons c r =>
      obtain rfl : c = 'c' := Option.some.inj hnext
      exact h

/-- The scan passes over a token. -/
theorem mentionsName_of_spelling {token : Token} (hl : token.Spelling l (r ++ s))
    (h : mentionsName false (l ++ r) = false) : mentionsName false r = false := by
  cases token with
  | opening kind =>
      rcases Token.eq_cons_of_opening hl with ⟨tail, rfl, htail⟩
      exact mentionsName_of_neutral htail h
  | closing =>
      obtain rfl : l = [')'] := hl
      exact h
  | set items negated =>
      rcases hl with hl | rfl | ⟨rfl, hnext⟩ | ⟨body, rfl, hbody⟩
      · exact mentionsName_of_neutral hl h
      · exact h
      · exact mentionsName_of_lone hnext h
      · exact mentionsName_of_class hbody h
  | dot | lineStart | lineEnd | wordBoundary | backreference | bar | quantifier | looseBrace
  | fault => exact mentionsName_of_neutral hl h

end Scan

/-! ## Readers -/

section Renamed

variable {g g' : Grammar}

/-- The flag `u` is the same, and so is the number of groups. -/
structure Grammar.Renames (g g' : Grammar) : Prop where
  unicode : g'.unicode = g.unicode
  length : g'.groups.length = g.groups.length

namespace Escape

/-- An escape of another letter. -/
theorem readAt_renamed (hg : g.Renames g') {c : Char} (hc : c ≠ 'k') (inClass : Bool)
    (text : List Char) : readAt g' inClass c text = readAt g inClass c text := by
  simp [readAt, readControl, readDigit, hg.unicode, hc]

end Escape

namespace ClassAtom

variable {c : Char} {l rest : List Char} {atoms : List ClassAtom} {skip n : Nat}

/-- An atom of a class that is not the escape. -/
theorem readAt_renamed (hg : g.Renames g') (h : c = '\\' → rest.head? ≠ some 'k') :
    readAt g' c rest = readAt g c rest := by
  unfold readAt
  by_cases hescape : c = '\\'
  · cases rest with
    | nil => rfl
    | cons next after =>
        have hnext : next ≠ 'k' := fun heq => h hescape (by rw [heq]; rfl)
        simp only [Escape.readAt_renamed hg hnext]
  · rw [if_neg hescape, if_neg hescape]

/-- The scan passes over an atom. -/
theorem mentionsName_of_atom {extra : Nat}
    (hatom : (extra = 0 ∧ (c = '\\' → rest.head? = some 'c')) ∨
      ∃ next after m, c = '\\' ∧ rest = next :: after ∧ extra = m + 1 ∧ NeutralFor m after)
    (hextra : extra ≤ n) (h : mentionsName false (c :: rest.take n) = false) :
    mentionsName false ((rest.take n).drop extra) = false := by
  rcases hatom with ⟨rfl, hnext⟩ | ⟨next, after, m, rfl, rfl, rfl, hneutral⟩
  · rw [List.drop_zero]
    by_cases hescape : c = '\\'
    · rw [hescape] at h
      refine mentionsName_of_lone (s := rest.drop n) ?_ h
      rw [List.take_append_drop]
      exact hnext hescape
    · rwa [mentionsName_plain hescape] at h
  · rcases Nat.exists_eq_add_of_le' hextra with ⟨k, rfl⟩
    rw [← Nat.add_assoc, List.take_succ_cons, mentionsName_escape, Bool.or_eq_false_iff] at h
    rw [← Nat.add_assoc, List.take_succ_cons, List.drop_succ_cons]
    refine mentionsName_of_neutral hneutral.2.1 ?_
    rw [Nat.add_comm k m, ← List.take_append_drop m (after.take (m + k)), List.take_take,
      Nat.min_eq_left (Nat.le_add_right m k)] at h
    rw [Nat.add_comm k m]
    exact h.2

/-- An atom that is not mentioned is not the escape. -/
theorem next_ne_of_atom {extra : Nat}
    (hatom : (extra = 0 ∧ (c = '\\' → rest.head? = some 'c')) ∨
      ∃ next after m, c = '\\' ∧ rest = next :: after ∧ extra = m + 1 ∧ NeutralFor m after)
    (hextra : extra ≤ n) (h : mentionsName false (c :: rest.take n) = false) (hc : c = '\\') :
    rest.head? ≠ some 'k' := by
  rcases hatom with ⟨-, hnext⟩ | ⟨next, after, m, rfl, rfl, rfl, -⟩
  · simp [hnext hc]
  · rcases Nat.exists_eq_add_of_le' hextra with ⟨k, rfl⟩
    rw [← Nat.add_assoc, List.take_succ_cons, mentionsName_escape, Bool.or_eq_false_iff] at h
    simpa using h.1

/-- The atoms of a class that are read without the escape. -/
theorem readAll_renamed (hg : g.Renames g') (h : readAll g l skip = (atoms, n))
    (ha : ∀ cause, fault cause ∉ atoms)
    (hk : mentionsName false ((l.take n).drop skip) = false) : readAll g' l skip = (atoms, n) := by
  induction l generalizing skip atoms n with
  | nil => exact h
  | cons c rest ih =>
      cases skip with
      | succ skip =>
          rcases Prod.mk.inj h with ⟨rfl, rfl⟩
          have hrest : readAll g rest skip = _ := rfl
          simp only [readAll, ih hrest ha (by simpa using hk)]
      | zero =>
          rw [readAll] at h ⊢
          by_cases hc : c = ']'
          · rw [if_pos hc] at h ⊢
            exact h
          rw [if_neg hc] at h ⊢
          rcases hatom : readAt g c rest with ⟨atom, extra⟩
          rw [hatom] at h
          dsimp only at h
          rcases hrest : readAll g rest extra with ⟨others, m⟩
          rw [hrest] at h
          rcases Prod.mk.inj h with ⟨rfl, rfl⟩
          simp only [List.mem_cons, not_or] at ha
          rw [List.drop_zero, List.take_succ_cons] at hk
          have hspelling := spelling_readAt hatom fun cause heq => (ha cause).1 heq.symm
          have hextra := (classText_readAll hrest fun cause => (ha cause).2).1
          have hsame : readAt g' c rest = (atom, extra) :=
            (readAt_renamed hg (next_ne_of_atom hspelling hextra hk)).trans hatom
          simp only [hsame, ih hrest (fun cause => (ha cause).2)
            (mentionsName_of_atom hspelling hextra hk)]

end ClassAtom

namespace Token

variable {c : Char} {l rest : List Char} {token : Token} {n : Nat}

/-- The atoms of a class that are read without the escape. -/
theorem classOf_renamed (hg : g.Renames g') {negated : Bool} (h : classOf g negated l = (token, n))
    (ht : ∀ cause, token ≠ fault cause)
    (hk : ∀ m, n = (if negated then m + 1 else m) → mentionsName false (l.take m) = false) :
    classOf g' negated l = (token, n) := by
  have hclass := h
  unfold classOf at hclass
  split at hclass
  · next items hitems =>
      have hread : ClassAtom.readAll g' l 0 = ClassAtom.readAll g l 0 :=
        ClassAtom.readAll_renamed hg rfl (ClassAtom.fault_notMem_of_items hitems)
          (hk _ (Prod.mk.inj hclass).2.symm)
      rw [← h]
      simp only [classOf, hread, hg.unicode]
  · exact absurd (Prod.mk.inj hclass).1.symm (ht _)

/-- A class that is read without the escape. -/
theorem readClass_renamed (hg : g.Renames g') (h : readClass g rest = (token, n))
    (ht : ∀ cause, token ≠ fault cause) (hk : mentionsName false (rest.take n) = false) :
    readClass g' rest = (token, n) := by
  by_cases hcaret : rest.head? = some '^'
  · rcases List.head?_eq_some_iff.1 hcaret with ⟨inside, rfl⟩
    have hclass : classOf g true inside = (token, n) := h
    refine classOf_renamed hg hclass ht fun m hm => ?_
    rw [hm] at hk
    exact hk
  · rw [readClass_of_head?_ne hcaret] at h ⊢
    refine classOf_renamed hg h ht fun m hm => ?_
    rw [hm] at hk
    exact hk

/-- A backslash is a token of its own only in front of the letter of an incomplete escape. -/
theorem head?_of_spelling_lone {r : List Char} (h : token.Spelling ['\\'] r) :
    r.head? = some 'c' := by
  have hneutral : ¬ NeutralText ['\\'] := by
    intro hneutral
    cases hneutral with
    | inert hc _ => exact hc (by simp)
  cases token with
  | opening kind =>
      rcases eq_cons_of_opening h with ⟨tail, hl, -⟩
      cases hl
  | closing => cases h
  | set items negated =>
      rcases h with h | h | h | ⟨body, h, -⟩
      · exact absurd h hneutral
      · cases h
      · exact h.2
      · cases h
  | dot | lineStart | lineEnd | wordBoundary | backreference | bar | quantifier | looseBrace
  | fault => exact absurd h hneutral

/-- An escape of another letter. -/
theorem readEscape_renamed (hg : g.Renames g') (hc : c ≠ 'k') :
    readEscape g' c rest = readEscape g c rest := by
  simp [readEscape, Escape.readAt_renamed hg hc, hg.unicode, hg.length, hc]

/-- A token that is read without the escape. -/
theorem readAt_renamed (hg : g.Renames g') (h : readAt g c rest = (token, n))
    (ht : ∀ cause, token ≠ fault cause) (hk : mentionsName false (c :: rest.take n) = false) :
    readAt g' c rest = (token, n) := by
  unfold readAt at h
  split at h
  · split at h
    · exact absurd (Prod.mk.inj h).1.symm (ht _)
    · next next after =>
        have hnext : next ≠ 'k' := by
          rintro rfl
          cases n with
          | zero => cases head?_of_spelling_lone (spelling_readEscape h ht).2
          | succ n =>
              rw [List.take_succ_cons, mentionsName_escape] at hk
              cases hk
        exact (readEscape_renamed hg hnext).trans h
  · exact readClass_renamed hg h ht hk
  · exact h
  · exact h
  · exact h
  · exact h
  · exact h
  · exact h
  · exact h
  · exact h
  · exact h
  · rw [← h]
    show readBraces g' rest = readBraces g rest
    simp [readBraces, hg.unicode]
  · rw [← hg.unicode] at h
    exact h
  · rw [← hg.unicode] at h
    exact h
  · rw [← h]
    unfold readAt
    split <;> first | rfl | contradiction

end Token

end Renamed

/-! ## Texts -/

/-- A text is read in the same way in a grammar with other names. -/
theorem Assembly.Reads.renamed {g g' : Grammar} {a b : Assembly} {text remaining : List Char}
    (hg : g.Renames g') (h : Reads g a text b remaining)
    (hk : ∀ l, text = l ++ remaining → mentionsName false l = false) :
    Reads g' a text b remaining := by
  induction h with
  | done a text => exact Reads.done a text
  | @token a b d c rest remaining token extra hread hstep hrest ih =>
      have ht := ne_fault_of_step hstep
      rcases hrest.exists_append with ⟨l, hl⟩
      rcases Token.spelling_readAt hread ht with ⟨-, hspelling⟩
      rw [hl] at hspelling
      have hwhole : c :: rest = (c :: rest.take extra ++ l) ++ remaining := by
        rw [List.append_assoc, ← hl, List.cons_append, List.take_append_drop]
      have hscan := hk _ hwhole
      refine Reads.token (Token.readAt_renamed hg hread ht (mentionsName_of_append hscan)) hstep
        (ih fun l' hl' => ?_)
      rw [← List.append_cancel_right (hl.symm.trans hl')]
      exact mentionsName_of_spelling hspelling hscan

/-- A text that can be read in every context of one grammar can be read in every context of a grammar
with other names. -/
theorem ReadsIn.renamed {g g' : Grammar} {modes : Modes} {n : Nat} {R : Frame → Frame → Prop}
    {text : List Char} (hg : g.Renames g') (h : ReadsIn g modes n R text)
    (hk : mentionsName false text = false) : ReadsIn g' modes n R text := by
  intro a after hm hs
  rcases h a after hm hs with ⟨frame, hreads, hframe⟩
  refine ⟨frame, hreads.renamed hg fun l hl => ?_, hframe⟩
  rw [← List.append_cancel_right hl]
  exact hk

/-! ## Named groups -/

/-- A text with the given groups that can be read wherever the modes are the given ones and something
follows at which every reader stops, whatever the names of the groups around it are. -/
structure FitsNamed (modes : Modes) (names : List (Option String)) (text : List Char) : Prop where
  declared : ∀ after, Stops after → GroupName.declaredFrom false (text ++ after) 0 =
    names ++ GroupName.declaredFrom false after 0
  reads : ∀ g : Grammar, g.unicode = modes.unicode → names.length ≤ g.groups.length →
    ReadsIn g modes names.length (fun _ _ => True) text

/-- A text that fits between groups without names fits between others if the escape does not occur in
it. -/
theorem Fits.named {modes : Modes} {n : Nat} {R : Frame → Frame → Prop} {text : List Char}
    (h : Fits modes n R text) (hk : mentionsName false text = false) :
    FitsNamed modes (List.replicate n none) text := by
  refine ⟨h.declared, fun g hu hcount => ?_⟩
  rw [List.length_replicate] at hcount ⊢
  have hunnamed : ReadsIn ⟨g.unicode, List.replicate g.groups.length none⟩ modes n R text :=
    h.readsIn hu (by simp [Grammar.hasGroupNames]) (by simpa using hcount)
  have hrenames : Grammar.Renames ⟨g.unicode, List.replicate g.groups.length none⟩ g :=
    ⟨rfl, by simp⟩
  exact (hunnamed.mono fun _ _ _ => trivial).renamed hrenames hk

namespace FitsNamed

variable {modes : Modes} {names names' : List (Option String)} {text l r mark : List Char}
variable {kind : GroupKind} {flags : Flags}

theorem nil : FitsNamed modes [] [] :=
  ⟨fun _ _ => rfl, fun _ _ _ => ReadsIn.nil fun _ => trivial⟩

/-- Two texts can stand one behind the other if the second one stops the readers of the first. -/
theorem append (hl : FitsNamed modes names l) (hr : FitsNamed modes names' r) (hstops : Stops r) :
    FitsNamed modes (names ++ names') (l ++ r) := by
  refine ⟨fun after hs => ?_, fun g hu hcount => ?_⟩
  · rw [List.append_assoc, hl.declared _ (hstops.append hs), hr.declared _ hs, List.append_assoc]
  · rw [List.length_append] at hcount ⊢
    exact (hl.reads g hu (by omega)).append (hr.reads g hu (by omega)) hstops fun _ _ _ _ _ => trivial

/-- Many texts that all stop readers. -/
theorem flatMap {ι : Type} {items : List ι} {names : ι → List (Option String)} {text : ι → List Char}
    (h : ∀ i ∈ items, FitsNamed modes (names i) (text i)) (hstops : ∀ i ∈ items, Stops (text i)) :
    FitsNamed modes (items.flatMap names) (items.flatMap text) ∧ Stops (items.flatMap text) := by
  induction items with
  | nil => exact ⟨nil, Stops.nil⟩
  | cons i items ih =>
      rcases ih (fun j hj => h j (List.mem_cons_of_mem i hj))
        (fun j hj => hstops j (List.mem_cons_of_mem i hj)) with ⟨hrest, hstopped⟩
      exact ⟨(h i List.mem_cons_self).append hrest hstopped,
        (hstops i List.mem_cons_self).append hstopped⟩

/-- A text can be put in a group. -/
theorem grouped (h : FitsNamed modes names text) (hhead : text.head? ≠ some '?')
    (ho : Opens kind mark) :
    FitsNamed modes (kind.names ++ names) ('(' :: (mark ++ (text ++ [')']))) := by
  refine ⟨fun after _ => ?_, fun g hu hcount => ?_⟩
  · have hopening : Token.readAt ⟨false, []⟩ '(' (mark ++ (text ++ ')' :: after)) =
        (.opening kind, mark.length) := ho.reads _ (head?_closed_ne hhead after)
    have hassoc : '(' :: (mark ++ (text ++ [')'])) ++ after =
        '(' :: (mark ++ (text ++ ')' :: after)) := by simp
    rw [hassoc, GroupName.declaredFrom_readAt hopening (by simp), List.drop_left,
      h.declared _ (stops_closing after), List.append_assoc]
    rfl
  · rw [List.length_append] at hcount ⊢
    exact ((h.reads g hu (by omega)).grouped hhead ho).mono fun _ _ _ => trivial

/-- The groups of the text are the given ones. -/
theorem declared_eq (h : FitsNamed modes names text) : GroupName.declared text = names := by
  have hnil := h.declared [] Stops.nil
  rwa [List.append_nil, GroupName.declaredFrom, List.append_nil] at hnil

/-- A text whose groups have different names is the source of a regular expression. -/
theorem compile (h : FitsNamed (Modes.ofFlags flags) names text)
    (hnodup : (names.filterMap id).Nodup) :
    ∃ r, Regex.compile (String.ofList text) flags = .ok r ∧ r.program.groups = names := by
  have hgrammar : (Program.grammar (String.ofList text) flags).groups = names := by
    rw [Program.grammar, String.toList_ofList, h.declared_eq]
  rcases (h.reads (Program.grammar (String.ofList text) flags) rfl
    (Nat.le_of_eq (congrArg List.length hgrammar.symm))).compile_of_nodup
    (h.declared_eq ▸ hnodup) with ⟨r, -, hcompile, hgroups, -⟩
  exact ⟨r, hcompile, hgroups.trans h.declared_eq⟩

end FitsNamed

end RegexComposition
