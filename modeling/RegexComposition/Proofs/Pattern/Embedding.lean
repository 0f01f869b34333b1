import RegexComposition.Proofs.Pattern.Context

/-!
# Embedding a source

A text that can be read in one context can be read in another one, also if the groups around it
are others.  The two readings differ in what is around the text: in the frame that is open at the
beginning, in the frames around it, and in the groups, by whose number an escaped number can become
a reference or cease to be one.  The second reading is kept in step with the first one.

Main results:

- `Grammar.Supports`: what can be read in the first grammar can be read in the second one.
- `Grammar.Precedes`: the second grammar has further groups in front.
- `Assembly.Reads.exists_number`: an escaped number adds terms, whether it is a reference or not.
- `Assembly.InStep`: two readings of one text.
- `Assembly.InStep.of_step`: a token that can stand in the first reading can stand in the second.
- `Assembly.InStep.of_reads`: so can a whole text.
- `Fits.of_compile`: an accepted source without named groups fits everywhere.
-/

namespace RegexComposition

open Assembly

/-- A digit stands for itself. -/
theorem Token.readAt_of_digit {g : Grammar} {c : Char} (hc : '0' ≤ c ∧ c ≤ '9')
    (text : List Char) : readAt g c text = (literal c.toNat, 0) := by
  unfold readAt
  split
  case h_15 => rfl
  all_goals exact absurd hc (by decide)

/-! ## Grammars -/

namespace Grammar

/-- Whatever can be read in the first grammar can be read in the second one: names refer to groups
there as well, and so do numbers where they have to. -/
structure Supports (g g' : Grammar) : Prop extends g.CarriesTo g' where
  names : ∀ name i, g.groupIndex? name = some i → ∃ j, g'.groupIndex? name = some j
  numbers : g.unicode = true → g.groups.length ≤ g'.groups.length

theorem Supports.refl (g : Grammar) : g.Supports g :=
  ⟨CarriesTo.refl g, fun _ i hi => ⟨i, hi⟩, fun _ => Nat.le_refl _⟩

/-- Grammars without named groups support each other, if the groups are not fewer. -/
theorem Agrees.supports {g g' : Grammar} (h : g.Agrees g')
    (hcount : g.groups.length ≤ g'.groups.length) : g.Supports g' := by
  refine ⟨h.carriesTo, fun name i hi => ?_, fun _ => hcount⟩
  have hnamed := hasGroupNames_of_groupIndex? hi
  rw [h.unnamed] at hnamed
  cases hnamed

/-- The second grammar has `k` further groups in front, all without a name. -/
structure Precedes (k : Nat) (g g' : Grammar) : Prop where
  unicode : g'.unicode = g.unicode
  groups : g'.groups = List.replicate k none ++ g.groups

namespace Precedes

variable {k : Nat} {g g' : Grammar}

theorem carriesTo (h : g.Precedes k g') : g.CarriesTo g' := by
  refine ⟨h.unicode, fun hnamed => ?_⟩
  simpa [hasGroupNames, h.groups, List.any_append] using hnamed

/-- A name refers to the same group, which is counted further on. -/
theorem groupIndex? (h : g.Precedes k g') {name : String} {i : Nat}
    (hi : g.groupIndex? name = some i) : g'.groupIndex? name = some (i + k) := by
  have hskip : (List.replicate k (none : Option String)).findIdx? (· == some name) = none := by
    rw [List.findIdx?_eq_none_iff]
    intro x hx
    rw [List.eq_of_mem_replicate hx]
    rfl
  rw [Grammar.groupIndex?, Option.map_eq_some_iff] at hi
  rcases hi with ⟨j, hj, rfl⟩
  rw [Grammar.groupIndex?, h.groups, List.findIdx?_append, hskip, hj]
  simp [Nat.add_right_comm]

/-- Whatever can be read without the further groups can be read with them. -/
theorem supports (h : g.Precedes k g') : g.Supports g' := by
  refine ⟨h.carriesTo, fun name i hi => ⟨i + k, h.groupIndex? hi⟩, fun _ => ?_⟩
  rw [h.groups, List.length_append]
  exact Nat.le_add_left _ _

end Precedes

end Grammar

/-! ## Numbers -/

/-- The length of the decimal number after a backslash. -/
def Token.numberLength (c : Char) (rest : List Char) : Nat :=
  (Numeral.leadingNumber 10 (rest.length + 1) (c :: rest)).2

namespace Token

variable {g : Grammar} {c : Char} {rest : List Char} {token : Token} {n : Nat}

theorem numberLength_append {after : List Char} (hs : Stops after) :
    numberLength c (rest ++ after) = numberLength c rest :=
  congrArg Prod.snd (Numeral.leadingNumber_length_append 10 (c :: rest) hs)

theorem numberLength_le : numberLength c rest ≤ (c :: rest).length :=
  Numeral.leadingNumber_le_length rfl

/-- An escaped number is a reference or a character, unless it has to be a reference, and takes up
no more than its digits. -/
theorem exists_readAt_number (hc : '1' ≤ c ∧ c ≤ '9') (hu : g.unicode = true →
      (Numeral.leadingNumber 10 (rest.length + 1) (c :: rest)).1 ≤ g.groups.length) :
    ∃ token n, readAt g '\\' (c :: rest) = (token, n) ∧ n ≤ numberLength c rest ∧
      ((∃ i, token = backreference i) ∨ ∃ items negated, token = set items negated) := by
  have hread : readAt g '\\' (c :: rest) = readEscape g c rest := rfl
  rw [hread, readEscape_digit g hc]
  split_ifs with hgroup hunicode
  · exact ⟨_, _, rfl, Nat.le_refl _, Or.inl ⟨_, rfl⟩⟩
  · exact absurd (hu hunicode) hgroup
  · refine ⟨_, _, rfl, Escape.readAt_digit_le hc (by simpa using hunicode), Or.inr ?_⟩
    rw [Escape.readAt_of_digit ⟨Char.le_trans (by decide) hc.1, hc.2⟩, Escape.readDigit,
      if_neg hunicode]
    dsimp only
    split <;> exact ⟨_, _, rfl⟩

/-- With the flag `u` an escaped number that can be read is a reference. -/
theorem number_le_of_readAt (hc : '1' ≤ c ∧ c ≤ '9') (h : readAt g '\\' (c :: rest) = (token, n))
    (ht : ∀ cause, token ≠ fault cause) (hu : g.unicode = true) :
    (Numeral.leadingNumber 10 (rest.length + 1) (c :: rest)).1 ≤ g.groups.length := by
  have hescape : readEscape g c rest = (token, n) := h
  rw [readEscape_digit g hc] at hescape
  split_ifs at hescape with hgroup
  · exact hgroup
  · exact absurd (Prod.mk.inj hescape).1.symm (ht _)

end Token

namespace Assembly.Reads

variable {g : Grammar} {a : Assembly}

/-- Digits are read as characters. -/
theorem exists_digits {digits : List Char} (hdigits : ∀ d ∈ digits, '0' ≤ d ∧ d ≤ '9')
    (hterms : a.current.terms ≠ []) (hfollows : a.current.follows = .allowed) (text : List Char) :
    ∃ frame, Reads g a (digits ++ text) { a with current := frame } text ∧
      a.current.Continues frame ∧ frame.terms ≠ [] ∧ frame.follows = .allowed := by
  induction digits generalizing a with
  | nil => exact ⟨a.current, Reads.done a text, Frame.Continues.refl _, hterms, hfollows⟩
  | cons d digits ih =>
      have hread := Token.readAt_of_digit (g := g) (hdigits d List.mem_cons_self) (digits ++ text)
      rcases ih (a := a.push (.char ⟨a.current.modes.caseMode, [.single d.toNat], false⟩) .allowed)
        (fun e he => hdigits e (List.mem_cons_of_mem d he)) (List.cons_ne_nil _ _) rfl with
        ⟨frame, hreads, hframe, hterms', hfollows'⟩
      exact ⟨frame, Reads.single hread rfl hreads, hframe, hterms', hfollows'⟩

/-- An escaped number adds terms, of which the last one can be repeated, whether it is read as a
reference or as characters. -/
theorem exists_number {c : Char} {rest : List Char} (hc : '1' ≤ c ∧ c ≤ '9')
    (hu : g.unicode = true →
      (Numeral.leadingNumber 10 (rest.length + 1) (c :: rest)).1 ≤ g.groups.length) :
    ∃ frame, Reads g a ('\\' :: c :: rest) { a with current := frame }
        ((c :: rest).drop (Token.numberLength c rest)) ∧
      a.current.Continues frame ∧ frame.terms ≠ [] ∧ frame.follows = .allowed := by
  rcases Token.exists_readAt_number hc hu with ⟨token, n, hread, hn, htoken⟩
  have hsplit : (c :: rest).drop n = ((c :: rest).take (Token.numberLength c rest)).drop n ++
      (c :: rest).drop (Token.numberLength c rest) := by
    rw [← List.drop_append_of_le_length, List.take_append_drop]
    rw [List.length_take, Nat.min_eq_left Token.numberLength_le]
    exact hn
  have hdigits : ∀ d ∈ ((c :: rest).take (Token.numberLength c rest)).drop n,
      '0' ≤ d ∧ d ≤ '9' := fun d hd => Numeral.decimal_of_mem_take (List.mem_of_mem_drop hd)
  have pushed : ∀ p : Pattern, a.step token = .ok (a.push p .allowed) →
      ∃ frame, Reads g a ('\\' :: c :: rest) { a with current := frame }
          ((c :: rest).drop (Token.numberLength c rest)) ∧
        a.current.Continues frame ∧ frame.terms ≠ [] ∧ frame.follows = .allowed := by
    intro p hstep
    rcases exists_digits (g := g) (a := a.push p .allowed) hdigits (List.cons_ne_nil _ _) rfl
      ((c :: rest).drop (Token.numberLength c rest)) with ⟨frame, hreads, hframe⟩
    rw [← hsplit] at hreads
    exact ⟨frame, Reads.token hread hstep hreads, hframe⟩
  rcases htoken with ⟨i, rfl⟩ | ⟨items, negated, rfl⟩
  · exact pushed _ rfl
  · exact pushed _ rfl

/-- What is left at a place where every reader stops does not start inside an escaped number. -/
theorem length_le_of_number {b : Assembly} {c : Char} {rest remaining : List Char} {extra : Nat}
    (h : Reads g a ((c :: rest).drop extra) b remaining) (hr : Stops remaining) :
    remaining.length ≤ ((c :: rest).drop (Token.numberLength c rest)).length := by
  by_contra hlong
  rcases h.exists_append with ⟨l, hl⟩
  have htext : c :: rest = ((c :: rest).take extra ++ l) ++ remaining := by
    rw [List.append_assoc, ← hl, List.take_append_drop]
  generalize (c :: rest).take extra ++ l = pre at htext
  have hle : Token.numberLength c rest ≤ (c :: rest).length := Token.numberLength_le
  have hshort : pre.length < Token.numberLength c rest := by
    rw [List.length_drop] at hlong
    rw [htext, List.length_append] at hlong hle
    omega
  cases remaining with
  | nil => simp at hlong
  | cons d remaining =>
      have hmem : d ∈ (c :: rest).take (Token.numberLength c rest) := by
        rw [htext, List.mem_take_iff_getElem]
        refine ⟨pre.length, ?_, by simp⟩
        simp only [List.length_append, List.length_cons]
        omega
      have hdigit := Numeral.decimal_of_mem_take hmem
      have hstop := hr d rfl
      simp only [List.mem_cons, List.not_mem_nil, or_false] at hstop
      rcases hstop with rfl | rfl | rfl | rfl | rfl | rfl <;> exact absurd hdigit (by decide)

end Assembly.Reads

/-! ## Frames in step -/

namespace Frame

/-- The second frame is in the same modes as the first one, and can be repeated wherever the first
one can be. -/
structure Follows (f f' : Frame) : Prop where
  modes : f'.modes = f.modes
  terms : f.follows = .allowed → f.terms ≠ []
  follows : f.follows = .allowed → f'.follows = .allowed

namespace Follows

variable {f f' : Frame}

/-- Nothing that can be repeated has been read yet. -/
theorem of_nothing (hmodes : f'.modes = f.modes) (h : f.follows = .nothing) : f.Follows f' := by
  refine ⟨hmodes, fun hfollows => ?_, fun hfollows => ?_⟩
  · rw [h] at hfollows
    cases hfollows
  · rw [h] at hfollows
    cases hfollows

/-- Both frames get a term. -/
theorem push (hmodes : f'.modes = f.modes) (p p' : Pattern) (follows : Quantifiable) :
    (f.push p follows).Follows (f'.push p' follows) :=
  ⟨hmodes, fun _ => List.cons_ne_nil _ _, fun hfollows => hfollows⟩

/-- Both frames get an alternative. -/
theorem split (h : f.Follows f') : f.split.Follows f'.split := of_nothing h.modes rfl

/-- Both frames repeat a term. -/
theorem quantify (h : f.Follows f') (q : Quantifier) (hterms : f.terms ≠ []) :
    (f.quantify q).Follows (f'.quantify q) := by
  rcases List.exists_cons_of_ne_nil hterms with ⟨p, rest, hcons⟩
  have hmodes : (f'.quantify q).modes = f'.modes := (f'.continues_quantify q).2.2
  have hf : f.quantify q = { f with terms := .repeated q p :: rest, follows := .nothing } := by
    rw [Frame.quantify, hcons]
  rw [hf]
  exact of_nothing (hmodes.trans h.modes) rfl

end Follows

end Frame

/-- The open frames of the first reading, and those of the second one.  The second one has the
frames `outer` and, innermost, the frame `base`, in which the text stands. -/
inductive Mirrors (base : Frame) (outer : List Frame) : List Frame → List Frame → Prop
  | bottom {f f' : Frame} : f'.modes = f.modes → base.Continues f' →
      Mirrors base outer [f] (f' :: outer)
  | inner {f f' : Frame} {rest rest' : List Frame} : f'.modes = f.modes → f'.kind = f.kind →
      Mirrors base outer rest rest' → Mirrors base outer (f :: rest) (f' :: rest')

namespace Mirrors

variable {base : Frame} {outer : List Frame} {f f' : Frame} {rest rest' : List Frame}

/-- The innermost frames can go on in step. -/
theorem update {e e' : Frame} (h : Mirrors base outer (f :: rest) (f' :: rest'))
    (hmodes : e'.modes = e.modes) (hkind : e.kind = f.kind) (hf' : f'.Continues e') :
    Mirrors base outer (e :: rest) (e' :: rest') := by
  cases h with
  | bottom _ hbase => exact bottom hmodes (hbase.trans hf')
  | inner _ hkinds hrest => exact inner hmodes (hf'.1.trans (hkinds.trans hkind.symm)) hrest

/-- In the second reading the innermost frame is there, and so are the frames around it. -/
theorem exists_cons (h : Mirrors base outer (f :: rest) (f' :: rest')) (hrest : rest ≠ []) :
    Mirrors base outer rest rest' ∧ f'.kind = f.kind := by
  cases h with
  | bottom _ _ => exact absurd rfl hrest
  | inner _ hkind hinner => exact ⟨hinner, hkind⟩

/-- The frames of the second reading are never fewer than those of the first one. -/
theorem eq_cons {frames : List Frame} (h : Mirrors base outer (f :: rest) frames) :
    ∃ f' rest', frames = f' :: rest' ∧ f'.modes = f.modes := by
  cases h with
  | bottom hmodes _ => exact ⟨_, _, rfl, hmodes⟩
  | inner hmodes _ _ => exact ⟨_, _, rfl, hmodes⟩

end Mirrors

namespace Assembly

/-- The open frames, the innermost first. -/
def frames (a : Assembly) : List Frame := a.current :: a.enclosing

/-- Two readings of a text are in step: the frames are, and what can be repeated in the first one
can be repeated in the second one. -/
structure InStep (base : Frame) (outer : List Frame) (a a' : Assembly) : Prop where
  mirrors : Mirrors base outer a.frames a'.frames
  follows : a.current.Follows a'.current

/-- Opening a group adds as many groups to one reading as to the other. -/
theorem groups_openGroup_add (a a' : Assembly) (kind : GroupKind) :
    (a'.openGroup kind).groups + a.groups = a'.groups + (a.openGroup kind).groups := by
  rw [groups_openGroup, groups_openGroup, Nat.add_right_comm, Nat.add_assoc]

namespace InStep

variable {base : Frame} {outer : List Frame} {a b a' : Assembly}

/-- Nothing has been read yet. -/
theorem start (hmodes : a'.current.modes = a.current.modes) (ha : a.enclosing = [])
    (hfollows : a.current.follows = .nothing) : InStep a'.current a'.enclosing a a' := by
  refine ⟨?_, Frame.Follows.of_nothing hmodes hfollows⟩
  rw [frames, ha]
  exact Mirrors.bottom hmodes (Frame.Continues.refl _)

/-- The innermost frames can go on in step. -/
theorem update {e e' : Frame} (h : InStep base outer a a') (hfollows : e.Follows e')
    (hkind : e.kind = a.current.kind) (he' : a'.current.Continues e') :
    InStep base outer { a with current := e } { a' with current := e' } :=
  ⟨h.mirrors.update hfollows.modes hkind he', hfollows⟩

/-- Both readings open a group. -/
theorem opening (h : Mirrors base outer a.frames a'.frames)
    (hmodes : a'.current.modes = a.current.modes) (kind : GroupKind) :
    InStep base outer (a.openGroup kind) (a'.openGroup kind) := by
  have hinside : a'.current.modes.inside kind = a.current.modes.inside kind := by rw [hmodes]
  exact ⟨Mirrors.inner hinside rfl h, Frame.Follows.of_nothing hinside rfl⟩

/-- Where the first reading is at the end of the text, the second one has gone on with the frame in
which the text stands. -/
theorem exists_frame (h : InStep base outer b a') (hb : b.enclosing = []) :
    ∃ frame, a' = ⟨frame, outer, a'.groups⟩ ∧ base.Continues frame := by
  rcases h with ⟨hmirrors, -⟩
  rcases a' with ⟨frame, enclosing, count⟩
  rw [frames, hb] at hmirrors
  cases hmirrors with
  | bottom _ hframe => exact ⟨frame, rfl, hframe⟩
  | inner _ _ hrest => cases hrest

/-- A token that can stand in the first reading can stand in the second one. -/
theorem of_step {token : Token} (h : InStep base outer a a') (hstep : a.step token = .ok b) :
    ∃ b', a'.step token = .ok b' ∧ InStep base outer b b' ∧
      b'.groups + a.groups = a'.groups + b.groups := by
  -- Most tokens push a pattern; which one it is does not decide on what may follow.
  have pushed : ∀ (p p' : Pattern) (follows : Quantifiable),
      Except.ok (a.push p follows) = Except.ok (ε := PatternError) b →
        a'.step token = .ok (a'.push p' follows) → ∃ b', a'.step token = .ok b' ∧
          InStep base outer b b' ∧ b'.groups + a.groups = a'.groups + b.groups := by
    intro p p' follows hb hstep'
    obtain rfl := Except.ok.inj hb
    exact ⟨_, hstep', h.update (Frame.Follows.push h.follows.modes p p' follows) rfl
      ⟨rfl, rfl, rfl⟩, rfl⟩
  cases token with
  | set items negated => exact pushed _ _ _ hstep rfl
  | dot => exact pushed _ _ _ hstep rfl
  | lineStart => exact pushed _ _ _ hstep rfl
  | lineEnd => exact pushed _ _ _ hstep rfl
  | wordBoundary negated => exact pushed _ _ _ hstep rfl
  | backreference i => exact pushed _ _ _ hstep rfl
  | opening kind =>
      obtain rfl := Except.ok.inj hstep
      exact ⟨_, rfl, opening h.mirrors h.follows.modes kind, groups_openGroup_add a a' kind⟩
  | closing =>
      rcases exists_of_step_closing hstep with ⟨o, rest, henclosing, rfl⟩
      have hmirrors := h.mirrors
      rw [frames, frames, henclosing] at hmirrors
      rcases hmirrors.exists_cons (List.cons_ne_nil o rest) with ⟨hrest, hkind⟩
      rcases hrest.eq_cons with ⟨o', rest', henclosing', hmodes⟩
      rw [henclosing'] at hrest
      have hclose : a'.current.closeFollows = a.current.closeFollows := by
        simp only [Frame.closeFollows, hkind, h.follows.modes]
      refine ⟨⟨o'.push a'.current.close a'.current.closeFollows, rest', a'.groups⟩, ?_,
        ⟨?_, ?_⟩, rfl⟩
      · simp only [step, closeGroup, henclosing']
      · exact hrest.update hmodes rfl ⟨rfl, rfl, rfl⟩
      · rw [hclose]
        exact Frame.Follows.push hmodes _ _ _
  | bar =>
      obtain rfl := Except.ok.inj hstep
      exact ⟨_, rfl, h.update h.follows.split rfl ⟨rfl, rfl, rfl⟩, rfl⟩
  | quantifier q braced =>
      rcases of_step_quantifier hstep with ⟨hfollows, hpossible, rfl⟩
      refine ⟨{ a' with current := a'.current.quantify q }, ?_, ?_, rfl⟩
      · simp [step, Assembly.quantify, h.follows.follows hfollows, hpossible]
      · exact h.update (h.follows.quantify q (h.follows.terms hfollows))
          (a.current.continues_quantify q).1 (a'.current.continues_quantify q)
  | looseBrace => cases hstep
  | fault cause => cases hstep

/-- A text that can be read in a grammar can be read in every grammar that supports it. -/
theorem of_reads {g g' : Grammar} {text remaining after : List Char} (hg : g.Supports g')
    (hs : Stops after) (hr : Stops remaining) (h : Reads g a text b remaining)
    (hin : InStep base outer a a') :
    ∃ b', Reads g' a' (text ++ after) b' (remaining ++ after) ∧ InStep base outer b b' ∧
      b'.groups + a.groups = a'.groups + b.groups := by
  induction hlength : text.length using Nat.strongRecOn generalizing a a' text with
  | ind length ih =>
      cases h with
      | done => exact ⟨a', Reads.done a' _, hin, rfl⟩
      | @token _ d _ c rest _ token extra hread hstep hrest =>
          have ht := ne_fault_of_step hstep
          rcases Token.spelling_readAt hread ht with ⟨hextra, _⟩
          -- The same characters make up a token that can stand in the second reading.
          have go_on : ∀ token' d', Token.readAt g' c (rest ++ after) = (token', extra) →
              a'.step token' = .ok d' → InStep base outer d d' →
              d'.groups + a.groups = a'.groups + d.groups →
                ∃ b', Reads g' a' (c :: rest ++ after) b' (remaining ++ after) ∧
                  InStep base outer b b' ∧ b'.groups + a.groups = a'.groups + b.groups := by
            intro token' d' hread' hstep' hin' hgroups
            rcases ih _ (by simp at hlength ⊢; omega) hrest hin' rfl with
              ⟨b', hreads', hin'', hgroups'⟩
            refine ⟨b', ?_, hin'', by omega⟩
            rw [List.cons_append]
            refine Reads.token hread' hstep' ?_
            rw [List.drop_append_of_le_length hextra]
            exact hreads'
          rcases Token.readAt_append hg.toCarriesTo hs hread ht with
            hread' | ⟨rfl, ⟨e, digits, rfl, he⟩ | hname⟩
          · rcases hin.of_step hstep with ⟨d', hstep', hin', hgroups⟩
            exact go_on token d' hread' hstep' hin' hgroups
          · have hnumber := Token.number_le_of_readAt he hread ht
            have hsame : Numeral.leadingNumber 10 ((digits ++ after).length + 1)
                (e :: (digits ++ after)) =
                  Numeral.leadingNumber 10 (digits.length + 1) (e :: digits) :=
              Numeral.leadingNumber_length_append 10 (e :: digits) hs
            rcases Reads.exists_number (g := g) (a := a) he hnumber with
              ⟨frame, hreads, hframe, hterms, -⟩
            have hnumber' : g'.unicode = true → (Numeral.leadingNumber 10
                ((digits ++ after).length + 1) (e :: (digits ++ after))).1 ≤ g'.groups.length := by
              intro hu
              rw [hg.unicode] at hu
              rw [hsame]
              exact Nat.le_trans (hnumber hu) (hg.numbers hu)
            rcases Reads.exists_number (a := a') he hnumber' with
              ⟨frame', hreads', hframe', -, hfollows'⟩
            rw [Token.numberLength_append hs, ← List.cons_append,
              List.drop_append_of_le_length Token.numberLength_le] at hreads'
            have hleft := hreads.cancel (Reads.token hread hstep hrest)
              (hrest.length_le_of_number hr)
            have hfollowed : frame.Follows frame' :=
              ⟨hframe'.2.2.trans (hin.follows.modes.trans hframe.2.2.symm), fun _ => hterms,
                fun _ => hfollows'⟩
            have hin' : InStep base outer { a with current := frame } { a' with current := frame' } :=
              hin.update hfollowed hframe.1 hframe'
            rcases ih _ (by simp at hlength ⊢; omega) hleft hin' rfl with
              ⟨b', hrest', hin'', hgroups⟩
            exact ⟨b', hreads'.trans hrest', hin'', hgroups⟩
          · rcases hname.exists_readAt with ⟨name, i, hi, rfl, href⟩
            rcases hg.names name i hi with ⟨j, hj⟩
            obtain rfl := Except.ok.inj hstep
            exact go_on _ _ (href g' after j hj) rfl (hin.update
              (Frame.Follows.push hin.follows.modes _ _ .allowed) rfl ⟨rfl, rfl, rfl⟩) rfl

end InStep

end Assembly

/-! ## Accepted sources -/

namespace Fits

/-- Where nothing has been read yet, a text does not start with a question mark. -/
theorem head?_ne_of_reads {g : Grammar} {a b : Assembly} {text : List Char}
    (h : Reads g a text b []) (ha : a.current.follows = .nothing) : text.head? ≠ some '?' := by
  intro hhead
  rcases List.head?_eq_some_iff.1 hhead with ⟨rest, rfl⟩
  cases h with
  | token hread hstep _ =>
      have hlazy : Token.withLaziness 0 (some 1) false 0 (rest.drop 0) = _ := hread
      rcases Token.neutralFor_withLaziness (NeutralFor.zero rest) hlazy with ⟨⟨q, rfl⟩, _⟩
      rw [(of_step_quantifier hstep).1] at ha
      cases ha

/-- The scan for names in a source in front of another text. -/
theorem declared_of_reads {g : Grammar} {a b : Assembly} {text after : List Char}
    (h : Reads g a text b []) (hs : Stops after) :
    GroupName.declaredFrom false (text ++ after) 0 =
      GroupName.declaredFrom false text 0 ++ GroupName.declaredFrom false after 0 := by
  generalize hend : ([] : List Char) = remaining at h
  induction h with
  | done a text =>
      subst hend
      rfl
  | @token a b d c rest remaining t extra hread hstep _ ih =>
      have ht := ne_fault_of_step hstep
      rcases Token.spelling_readAt hread ht with ⟨hextra, hspelling⟩
      rw [GroupName.declaredFrom_readAt hread ht, List.append_assoc, ← ih hend]
      cases t with
      | opening kind =>
          rcases Token.eq_cons_of_opening hspelling with ⟨tail, hl, _⟩
          obtain rfl := (List.cons.inj hl).1
          have hread' : Token.readAt g '(' (rest ++ after) = (.opening kind, extra) :=
            Token.readOpening_append hs hread ht
          rw [List.cons_append, GroupName.declaredFrom_readAt hread' ht,
            List.drop_append_of_le_length hextra]
      | closing | set | dot | lineStart | lineEnd | wordBoundary | backreference | bar | quantifier
      | looseBrace | fault =>
          have hscan : groupScan GroupName.entry false
              (c :: rest.take extra ++ (rest.drop extra ++ after)) 0 =
                groupScan GroupName.entry false (rest.drop extra ++ after) 0 :=
            Token.groupScan_append (hspelling.append hs) fun kind => by simp
          rw [← List.append_assoc, List.cons_append, List.take_append_drop] at hscan
          rw [GroupName.declaredFrom_eq_groupScan, GroupName.declaredFrom_eq_groupScan, hscan]
          rfl

/-- The groups of a text in a group. -/
theorem declared_grouped_of_reads {g : Grammar} {a b : Assembly} {text mark : List Char}
    {kind : GroupKind} (h : Reads g a text b []) (hhead : text.head? ≠ some '?')
    (ho : Opens kind mark) :
    GroupName.declared ('(' :: (mark ++ (text ++ [')']))) =
      kind.names ++ GroupName.declared text := by
  have hread : Token.readAt g '(' (mark ++ (text ++ [')'])) = (.opening kind, mark.length) :=
    ho.reads _ (head?_closed_ne hhead [])
  have hfault : ∀ cause, Token.opening kind ≠ Token.fault cause := by rintro _ ⟨⟩
  rw [GroupName.declared, GroupName.declaredFrom_readAt hread hfault, List.drop_left,
    declared_of_reads h (stops_closing [])]
  simp [GroupName.declared, GroupName.declaredFrom, GroupKind.names]

/-- The groups of a text in a group without a name. -/
theorem declared_enclosed_of_reads {g : Grammar} {a b : Assembly} {text mark : List Char}
    {kind : GroupKind} {k : Nat} (h : Reads g a text b []) (hhead : text.head? ≠ some '?')
    (ho : OpensWith kind mark k) :
    GroupName.declared ('(' :: (mark ++ (text ++ [')']))) =
      List.replicate k none ++ GroupName.declared text := by
  rw [declared_grouped_of_reads h hhead ho.opens, GroupKind.names, ho.groups]

end Fits

/-- The reading of a source that is accepted on its own and has no named groups. -/
theorem Regex.exists_reads_of_compile {source : String} {flags : Flags} {r : Regex}
    (h : compile source flags = .ok r) (hnames : ∀ name ∈ r.program.groups, name = none) :
    (Program.grammar source flags).groups = List.replicate r.program.groups.length none ∧
      ∃ b, Reads (Program.grammar source flags) (Assembly.start (Modes.ofFlags flags))
          source.toList b [] ∧
        b.enclosing = [] ∧ b.groups = r.program.groups.length ∧
        r.program.pattern = b.current.body := by
  rcases Program.read_eq_ok_iff.1 (Regex.of_compile h).1 with
    ⟨hgroups, _, b, hreads, henclosing, hpattern⟩
  have hdeclared : GroupName.declared source.toList =
      List.replicate r.program.groups.length none := by
    rw [← hgroups]
    exact List.eq_replicate_iff.2 ⟨rfl, hnames⟩
  refine ⟨hdeclared, b, hreads, henclosing, ?_, hpattern⟩
  rcases hreads.declared with ⟨names, hscan, hcount⟩
  have hlength := congrArg List.length hdeclared
  rw [GroupName.declared, hscan, List.length_append, List.length_replicate] at hlength
  simpa [GroupName.declaredFrom, Assembly.start, hcount] using hlength

/-- Without named groups the grammar of a source agrees with every grammar without them. -/
theorem Grammar.agrees_of_unnamed {source : String} {flags : Flags} {g : Grammar} {n : Nat}
    (hgroups : (Program.grammar source flags).groups = List.replicate n none)
    (hu : g.unicode = flags.contains .unicode) (hn : g.hasGroupNames = false) :
    (Program.grammar source flags).Agrees g :=
  ⟨hu, by simp [hasGroupNames, hgroups], hn⟩

/-- A text that is read alone in a grammar can be read in every context of a grammar that supports
it. -/
theorem ReadsIn.of_reads {g g' : Grammar} {a b : Assembly} {n : Nat} {text : List Char}
    (hg : g.Supports g') (h : Reads g a text b []) (ha : a.enclosing = [])
    (hfollows : a.current.follows = .nothing) (hb : b.enclosing = [])
    (hgroups : b.groups = a.groups + n) :
    ReadsIn g' a.current.modes n (fun _ _ => True) text := by
  intro a' after hm hs
  rcases InStep.of_reads hg hs Stops.nil h (InStep.start hm ha hfollows) with
    ⟨b', hreads, hin, hsum⟩
  rcases hin.exists_frame hb with ⟨frame, hb', hframe⟩
  have hcount : b'.groups = a'.groups + n := by omega
  rw [hb', hcount] at hreads
  exact ⟨frame, hreads, hframe, trivial⟩

/-- A source that is accepted on its own and has no named groups fits everywhere. -/
theorem Fits.of_compile {source : String} {flags : Flags} {r : Regex}
    (h : Regex.compile source flags = .ok r) (hnames : ∀ name ∈ r.program.groups, name = none) :
    Fits (Modes.ofFlags flags) r.program.groups.length (fun _ _ => True) source.toList := by
  rcases Regex.exists_reads_of_compile h hnames with
    ⟨hgroups, b, hreads, henclosing, hcount, _⟩
  have hdeclared : GroupName.declared source.toList =
      List.replicate r.program.groups.length none := hgroups
  refine ⟨head?_ne_of_reads hreads rfl, fun after hs => ?_, fun g a after hu hn hc hm hs => ?_⟩
  · rw [declared_of_reads hreads hs]
    congr 1
  · have hsupports := (Grammar.agrees_of_unnamed hgroups hu hn).supports
      (by simpa [hgroups] using hc)
    exact ReadsIn.of_reads hsupports hreads rfl rfl henclosing
      (by rw [hcount]; exact (Nat.zero_add _).symm) a after hm hs

end RegexComposition
