import RegexComposition.Proofs.Pattern.Embedding
import RegexComposition.Proofs.Pattern.Scanning

/-!
# Where a group ends

A source that is accepted on its own is the inside of a group that ends right behind it, wherever
the group stands and whatever else its tokens mean there.  Escapes, classes and parentheses are
the same in all grammars, so a scan that only knows of them stands between the two readings.

Main results:

- `Assembly.closingFrom_of_reads`: the scan passes over a text that can be read.
- `Assembly.lift`: an assembly inside of further frames.
- `Assembly.exists_reads_of_closed`: a text that the scan passes over is read to its end, whatever
  else is read with it.
- `Assembly.exists_reads_group`: a group is closed where the scan finds its parenthesis.
-/

namespace RegexComposition

open Enclosure

namespace Assembly

variable {g : Grammar} {a b : Assembly} {text : List Char} {outer : List Frame}
variable {n : Nat}

/-- The scan passes over a token and is then as deep as the frames that are open. -/
theorem closingFrom_of_step {token : Token} {l r : List Char} (hstep : a.step token = .ok b)
    (hspelling : token.Spelling l r) (hn : 0 < n) :
    closingFrom (a.enclosing.length + n) false false (l ++ r) =
      (closingFrom (b.enclosing.length + n) false false r).map (· + l.length) := by
  rcases step_cases hstep with ⟨kind, rfl, rfl⟩ | ⟨rfl, o, others, henclosing, rfl⟩ |
    ⟨hopening, hclosing, _, frame, rfl, _, _⟩
  · rw [closingFrom_opening _ hspelling]
    simp [openGroup, Nat.add_right_comm]
  · have hlevel : o :: others = a.enclosing := henclosing.symm
    rw [closingFrom_closing _ hspelling, ← hlevel, if_neg (by simp; omega)]
    simp [Nat.add_right_comm]
  · exact closingFrom_append _ hspelling hopening hclosing

/-- A scan that ends behind a text ends at the same place if it starts behind a token of the text. -/
theorem closingFrom_drop_of_step {token : Token} {c : Char} {l r : List Char} {extra k : Nat}
    (hstep : a.step token = .ok b) (hinside : extra ≤ l.length)
    (hspelling : token.Spelling (c :: l.take extra) (l.drop extra ++ r))
    (hscan : closingFrom (a.enclosing.length + 1) false false (c :: l ++ r) =
      some ((c :: l).length + k)) :
    closingFrom (b.enclosing.length + 1) false false (l.drop extra ++ r) =
      some ((l.drop extra).length + k) := by
  have hsplit : c :: l ++ r = c :: l.take extra ++ (l.drop extra ++ r) := by
    rw [List.cons_append, List.cons_append, ← List.append_assoc, List.take_append_drop]
  rw [hsplit, closingFrom_of_step hstep hspelling Nat.one_pos, List.length_cons,
    List.length_take_of_le hinside] at hscan
  rcases Option.map_eq_some_iff.1 hscan with ⟨m, hm, hsum⟩
  rw [hm, List.length_drop]
  rw [List.length_cons] at hsum
  congr 1
  omega

/-- The scan for the closing parenthesis goes as deep as the frames that are open. -/
theorem closingFrom_of_reads {after : List Char} (h : Reads g a text b []) (hs : Stops after)
    (hn : 0 < n) :
    closingFrom (a.enclosing.length + n) false false (text ++ after) =
      (closingFrom (b.enclosing.length + n) false false after).map (· + text.length) := by
  generalize hend : ([] : List Char) = remaining at h
  induction h with
  | done a text =>
      subst hend
      simp
  | @token a b d c rest remaining t extra hread hstep _ ih =>
      rcases Token.spelling_readAt hread (ne_fault_of_step hstep) with ⟨hextra, hspelling⟩
      have htext : c :: rest = c :: rest.take extra ++ rest.drop extra := by simp
      have hmap : ∀ found : Option Nat, found.map (· + (c :: rest).length) =
          (found.map (· + (rest.drop extra).length)).map (· + (c :: rest.take extra).length) := by
        intro found
        rw [htext, Option.map_map]
        simp only [Function.comp_def, List.length_append, Nat.add_assoc, Nat.add_comm]
      rw [hmap, ← ih hend, htext, List.append_assoc]
      exact closingFrom_of_step hstep (hspelling.append hs) hn

/-- A source that is accepted on its own is the inside of a group. -/
theorem closingFrom_of_closed {after : List Char} (h : Reads g a text b [])
    (ha : a.enclosing = []) (hb : b.enclosing = []) :
    closingFrom 1 false false (text ++ ')' :: after) = some text.length := by
  have hstops : Stops (')' :: after) := by simp [Stops]
  have hscan := closingFrom_of_reads h hstops Nat.one_pos
  rw [ha, hb] at hscan
  have hclosing : closingFrom 1 false false (')' :: after) = some 0 := rfl
  rw [List.length_nil, Nat.zero_add, hclosing] at hscan
  rw [hscan, Option.map_some, Nat.zero_add]

/-! ## Inside other frames -/

/-- The assembly inside of further frames. -/
def lift (outer : List Frame) (a : Assembly) : Assembly := { a with enclosing := a.enclosing ++ outer }

/-- A token that can stand in an assembly can stand there inside of further frames. -/
theorem lift_step {token : Token} (h : a.step token = .ok b) :
    (a.lift outer).step token = .ok (b.lift outer) := by
  cases token with
  | closing =>
      rcases exists_of_step_closing h with ⟨o, rest, henclosing, rfl⟩
      simp only [step, closeGroup, lift, henclosing, List.cons_append]
  | quantifier q braced =>
      rcases of_step_quantifier h with ⟨hfollows, hpossible, rfl⟩
      simp [step, Assembly.quantify, lift, hfollows, hpossible]
  | looseBrace => cases h
  | fault cause => cases h
  | _ =>
      obtain rfl := Except.ok.inj h
      rfl

/-- A token that can stand inside of further frames and closes none of them does not need them. -/
theorem of_lift_step {token : Token} (h : (a.lift outer).step token = .ok b)
    (hclosing : token = .closing → a.enclosing ≠ []) :
    ∃ d, a.step token = .ok d ∧ b = d.lift outer := by
  cases token with
  | closing =>
      rcases List.exists_cons_of_ne_nil (hclosing rfl) with ⟨o, rest, henclosing⟩
      refine ⟨⟨o.push a.current.close a.current.closeFollows, rest, a.groups⟩, ?_, ?_⟩
      · simp only [step, closeGroup, henclosing]
      · simp only [step, closeGroup, lift, henclosing, List.cons_append] at h
        exact (Except.ok.inj h).symm
  | quantifier q braced =>
      rcases of_step_quantifier h with ⟨hfollows, hpossible, rfl⟩
      have hcurrent : a.current.follows = .allowed := hfollows
      refine ⟨{ a with current := a.current.quantify q }, ?_, rfl⟩
      simp [step, Assembly.quantify, hcurrent, hpossible]
  | looseBrace => cases h
  | fault cause => cases h
  | _ =>
      obtain rfl := Except.ok.inj h
      exact ⟨_, rfl, rfl⟩

/-- What can be read can be read inside of further frames. -/
theorem Reads.lift {remaining : List Char} (h : Reads g a text b remaining) (outer : List Frame) :
    Reads g (a.lift outer) text (b.lift outer) remaining := by
  induction h with
  | done a text => exact Reads.done _ _
  | token hread hstep _ ih => exact Reads.token hread (lift_step hstep) ih

end Assembly

/-! ## Where a text ends -/

/-- After a text that a scan passes over, a neutral text does not go on with a parenthesis. -/
theorem NeutralText.closingFrom_ne (level : Nat) {l tail : List Char} {d : Char}
    (h : NeutralText (l ++ d :: tail)) (hd : d ∈ ['(', ')']) :
    closingFrom level false false (l ++ [')']) ≠ some l.length := by
  have hne : d ≠ '>' ∧ d ≠ '\\' ∧ ¬ IsInert d := by
    simp only [List.mem_cons, List.not_mem_nil, or_false] at hd
    rcases hd with rfl | rfl <;> decide
  generalize htext : l ++ d :: tail = text at h
  induction h generalizing l with
  | nil => simp at htext
  | @inert c text hc _ ih =>
      cases l with
      | nil =>
          obtain rfl := (List.cons.inj htext).1
          exact absurd hc hne.2.2
      | cons e l =>
          obtain ⟨rfl, hrest⟩ : e = c ∧ l ++ d :: tail = text := List.cons.inj htext
          simp only [IsInert, List.mem_cons, List.not_mem_nil, or_false, not_or] at hc
          rw [List.cons_append, closingFrom]
          simpa [hc] using ih hrest
  | @nameEnd text _ ih =>
      cases l with
      | nil =>
          obtain rfl := (List.cons.inj htext).1
          exact absurd rfl hne.1
      | cons e l =>
          obtain ⟨rfl, hrest⟩ : e = '>' ∧ l ++ d :: tail = text := List.cons.inj htext
          rw [List.cons_append, closingFrom]
          simpa using ih hrest
  | @escaped c text _ ih =>
      cases l with
      | nil =>
          obtain rfl := (List.cons.inj htext).1
          exact absurd rfl hne.2.1
      | cons e l =>
          obtain ⟨rfl, hrest⟩ : e = '\\' ∧ l ++ d :: tail = c :: text := List.cons.inj htext
          cases l with
          | nil => simp [closingFrom]
          | cons e l =>
              obtain ⟨rfl, htail⟩ : e = c ∧ l ++ d :: tail = text := List.cons.inj hrest
              rw [List.cons_append, List.cons_append, closingFrom]
              simpa [closingFrom] using ih htail

/-- A class is not closed before its last character. -/
theorem ClassText.closingFrom_ne (level : Nat) {l tail : List Char} {d : Char}
    (h : ClassText (l ++ d :: tail)) :
    closingFrom level false true (l ++ [')']) ≠ some l.length := by
  generalize htext : l ++ d :: tail = text at h
  induction h generalizing l with
  | closing =>
      cases l with
      | nil => simp [closingFrom]
      | cons e l => simp at htext
  | @plain c text hend hescape _ ih =>
      cases l with
      | nil => simp [closingFrom]
      | cons e l =>
          obtain ⟨rfl, hrest⟩ : e = c ∧ l ++ d :: tail = text := List.cons.inj htext
          rw [List.cons_append, closingFrom]
          simpa [hend, hescape] using ih hrest
  | @escaped c text _ ih =>
      cases l with
      | nil => simp [closingFrom]
      | cons e l =>
          obtain ⟨rfl, hrest⟩ : e = '\\' ∧ l ++ d :: tail = c :: text := List.cons.inj htext
          cases l with
          | nil => simp [closingFrom]
          | cons e l =>
              obtain ⟨rfl, htail⟩ : e = c ∧ l ++ d :: tail = text := List.cons.inj hrest
              rw [List.cons_append, List.cons_append, closingFrom]
              simpa [closingFrom] using ih htail

namespace Token

variable {token : Token} {l r m tail : List Char} {d : Char} {level : Nat}

/-- Behind the first characters of a token a scan is not where it is behind a closed text. -/
theorem Spelling.closingFrom_ne {c : Char} (h : token.Spelling (c :: l ++ d :: tail) r)
    (hd : d ∈ ['(', ')']) :
    closingFrom level false false (c :: l ++ [')']) ≠ some (c :: l).length := by
  cases token with
  | opening kind =>
      rcases eq_cons_of_opening h with ⟨mark, htext, hmark⟩
      obtain ⟨rfl, rfl⟩ : c = '(' ∧ l ++ d :: tail = mark := List.cons.inj htext
      rw [List.cons_append, closingFrom]
      simpa using hmark.closingFrom_ne (level + 1) hd
  | closing =>
      have hlength := congrArg List.length (show c :: l ++ d :: tail = [')'] from h)
      simp at hlength
  | set items negated =>
      rcases h with h | h | ⟨h, _⟩ | ⟨body, h, hbody⟩
      · exact h.closingFrom_ne level hd
      · simp at h
      · simp at h
      · obtain ⟨rfl, rfl⟩ : c = '[' ∧ l ++ d :: tail = body := List.cons.inj h
        rw [List.cons_append, closingFrom]
        simpa using hbody.closingFrom_ne level
  | dot | lineStart | lineEnd | wordBoundary | backreference | bar | quantifier | looseBrace
  | fault => exact NeutralText.closingFrom_ne level h hd

/-- What follows a token can be cut off in front of a parenthesis. -/
theorem Spelling.cut (h : token.Spelling l (m ++ d :: r)) (hd : d ∈ ['(', ')']) :
    token.Spelling l (m ++ [')']) := by
  have hne : d ≠ 'c' := by
    rintro rfl
    simp at hd
  cases token with
  | opening kind =>
      cases kind with
      | capturing name =>
          cases name with
          | none =>
              refine ⟨h.1, ?_⟩
              cases m with
              | nil => simp
              | cons c m => exact h.2
          | some name =>
              rcases h with ⟨spelled, hl, hspelled, hname, hstarts⟩
              refine ⟨spelled, hl, hspelled, hname, ?_⟩
              cases spelled with
              | nil => exact hstarts
              | cons c spelled => exact hstarts
      | plain | modified | look => exact h
  | set items negated =>
      rcases h with h | h | ⟨hl, hnext⟩ | h
      · exact Or.inl h
      · exact Or.inr (Or.inl h)
      · refine Or.inr (Or.inr (Or.inl ⟨hl, ?_⟩))
        cases m with
        | nil => exact absurd (Option.some.inj hnext) hne
        | cons c m => exact hnext
      · exact Or.inr (Or.inr (Or.inr h))
  | closing | dot | lineStart | lineEnd | wordBoundary | backreference | bar | quantifier
  | looseBrace | fault => exact h

end Token

namespace Assembly

/-- A text that a scan passes over is read to its end if a parenthesis follows, without the frames
around it.  The scan goes as deep as there are open frames. -/
theorem exists_reads_of_closed {l r : List Char} {d : Char}
    (h : Reads g (a.lift outer) (l ++ d :: r) b []) (hd : d ∈ ['(', ')'])
    (hscan : closingFrom (a.enclosing.length + 1) false false (l ++ [')']) = some l.length) :
    ∃ frame count, a.outermost.Continues frame ∧
      Reads g a (l ++ d :: r) ⟨frame, [], count⟩ (d :: r) := by
  -- Along the reading the scan stays as deep as the frames that the text itself has opened.
  generalize hstart : a.lift outer = a' at h
  generalize htext : l ++ d :: r = text at h
  generalize hend : ([] : List Char) = remaining at h
  induction h generalizing a l with
  | done a' text =>
      rw [← hend] at htext
      simp at htext
  | @token a' b' _ c rest remaining t extra hread hstep hrest ih =>
      subst hend
      subst hstart
      rcases Token.spelling_readAt hread (ne_fault_of_step hstep) with ⟨hextra, hspelling⟩
      cases l with
      | nil =>
          cases henclosing : a.enclosing with
          | nil =>
              refine ⟨a.current, a.groups, ?_, ?_⟩
              · have houtermost : a.outermost = a.current := by simp [outermost, henclosing]
                rw [houtermost]
                exact Frame.Continues.refl _
              · rw [← htext, ← henclosing]
                exact Reads.done _ _
          | cons o others => simp [henclosing, closingFrom] at hscan
      | cons e l =>
          obtain ⟨rfl, rfl⟩ : e = c ∧ l ++ d :: r = rest := List.cons.inj htext
          by_cases hinside : extra ≤ l.length
          · rw [List.take_append_of_le_length hinside, List.drop_append_of_le_length hinside]
              at hspelling
            rw [List.drop_append_of_le_length hinside] at hrest ih
            have hcut := hspelling.cut hd
            have hclosed : t = .closing → a.enclosing ≠ [] := by
              rintro rfl henclosing
              obtain rfl : e = ')' := (List.cons.inj (show e :: l.take extra = [')'] from hcut)).1
              rw [henclosing] at hscan
              simp [closingFrom] at hscan
            rcases of_lift_step hstep hclosed with ⟨a₁, hstep₁, rfl⟩
            have hrescan := closingFrom_drop_of_step (k := 0) hstep₁ hinside hcut hscan
            rcases ih hrescan rfl rfl rfl with ⟨frame, count, hframe, hreads⟩
            refine ⟨frame, count, (outermost_of_step hstep₁).trans hframe, ?_⟩
            refine Reads.token hread hstep₁ ?_
            rw [List.drop_append_of_le_length hinside]
            exact hreads
          · -- The token would go on behind the parenthesis.
            have htake : e :: (l ++ d :: r).take extra =
                e :: l ++ d :: r.take (extra - l.length - 1) := by
              rw [List.take_append, List.take_of_length_le (by omega),
                List.take_cons (by omega), List.cons_append]
            rw [htake] at hspelling
            exact absurd hscan (hspelling.closingFrom_ne hd)

/-- A group whose inside is a source of its own is closed behind this source. -/
theorem exists_reads_group {kind : GroupKind} {mark source after : List Char}
    (hread : Token.readAt g '(' (mark ++ (source ++ ')' :: after)) = (.opening kind, mark.length))
    (hscan : closingFrom 1 false false (source ++ [')']) = some source.length)
    (h : Reads g a ('(' :: (mark ++ (source ++ ')' :: after))) b []) :
    ∃ inner count, (a.openGroup kind).current.Continues inner ∧
      Reads g a ('(' :: (mark ++ (source ++ ')' :: after)))
        ⟨a.current.push inner.close inner.closeFollows, a.enclosing, count⟩ after := by
  rcases h.exists_of_cons hread (Nat.zero_le _) with ⟨d, hstep, hreads⟩
  obtain rfl : a.openGroup kind = d := Except.ok.inj hstep
  rw [List.drop_left] at hreads
  -- Read on its own, the inside leaves the frames around the group alone.
  have halone : Reads g (lift (a.current :: a.enclosing)
      ⟨(a.openGroup kind).current, [], (a.openGroup kind).groups⟩) (source ++ ')' :: after) b [] :=
    hreads
  rcases exists_reads_of_closed halone (by simp) hscan with ⟨inner, count, hinner, hinside⟩
  have hclose := Reads.closing (g := g) (a := ⟨inner, a.current :: a.enclosing, count⟩) rfl after
  exact ⟨inner, count, hinner,
    Reads.cons hread rfl ((hinside.lift (a.current :: a.enclosing)).trans hclose)⟩

end Assembly

end RegexComposition
