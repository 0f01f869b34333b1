import Mathlib.Data.List.Basic
import RegexComposition.Proofs.Pattern.Passage
import RegexComposition.Proofs.Pattern.Stripping
import RegexComposition.Proofs.Regex.Ranges

/-!
# Groups with other numbers

A pattern whose groups get other numbers, together with all that refers to them, matches in the same
way.  So does a source behind further groups, as long as it refers to groups by their names only: a
number in a source stays what it is, and then counts the further groups as well.

Main results:

- `Pattern.renumber`, `Pattern.relates_run_renumber`: the pattern with other numbers, and how it
  matches.
- `Assembly.Renumbers`, `Assembly.Renumbers.of_step`: two readings whose groups differ in their
  numbers.
- `Grammar.RefersByNames`: a text that refers to groups by their names only.
- `Assembly.Renumbers.of_reads`: such a text is read behind further groups as it is without them.
- `Regex.exists_compile_captured`: in a capturing group such a source matches as it does alone.
- `Regex.exists_compile_optional`: an optional group around it is accepted, with its pattern as
  the body.
-/

namespace RegexComposition

/-! ## Patterns -/

namespace Pattern

/-- The pattern with other numbers for its groups and in what refers to them. -/
def renumber (f : Nat → Nat) : Pattern → Pattern
  | empty => empty
  | char set => char set
  | seq first second => seq (first.renumber f) (second.renumber f)
  | either first second => either (first.renumber f) (second.renumber f)
  | group i body => group (f i) (body.renumber f)
  | repeated q body => repeated q (body.renumber f)
  | look direction negated body => look direction negated (body.renumber f)
  | assertion a => assertion a
  | backreference mode i => backreference mode (f i)

variable {f : Nat → Nat}

@[simp]
theorem groups_renumber (f : Nat → Nat) (p : Pattern) : (p.renumber f).groups = p.groups.map f := by
  induction p <;> simp_all [renumber, groups]

@[simp]
theorem renumber_sequence (f : Nat → Nat) (ps : List Pattern) :
    (sequence ps).renumber f = sequence (ps.map (renumber f)) := by
  induction ps with
  | nil => rfl
  | cons p ps ih => simpa [sequence, renumber] using ih

@[simp]
theorem renumber_alternation (f : Nat → Nat) (ps : List Pattern) (last : Pattern) :
    (alternation ps last).renumber f = alternation (ps.map (renumber f)) (last.renumber f) := by
  induction ps with
  | nil => rfl
  | cons p ps ih => simpa [alternation, renumber] using ih

end Pattern

/-! ## Matching -/

/-- At the second place the groups have recorded the same as at the first one, under their other
numbers. -/
structure Place.Renumbers (f : Nat → Nat) (p p' : Place) : Prop where
  position : p.position = p'.position
  captures : ∀ i, p'.captures.get? (f i) = p.captures.get? i

namespace Place.Renumbers

variable {f : Nat → Nat} {p p' q q' : Place} {d : Direction}

theorem empty (f : Nat → Nat) (i : Nat) :
    Renumbers f ⟨i, Captures.empty⟩ ⟨i, Captures.empty⟩ := ⟨rfl, fun _ => rfl⟩

/-- Both groups record the same span. -/
theorem record (hf : Function.Injective f) (h : q.Renumbers f q') (hp : p.position = p'.position)
    (i : Nat) : (q.record d i p).Renumbers f (q'.record d (f i) p') := by
  refine ⟨h.position, fun j => ?_⟩
  have hspan : Span.between d p'.position q'.position = Span.between d p.position q.position := by
    rw [hp, h.position]
  by_cases hji : j = i
  · subst hji
    rw [Place.record, Place.record, hspan, Captures.get?_record_self, Captures.get?_record_self]
  · rw [Place.record, Place.record, Captures.get?_record_of_ne hji,
      Captures.get?_record_of_ne fun heq => hji (hf heq)]
    exact h.captures j

/-- The same groups are forgotten. -/
theorem forget (hf : Function.Injective f) (h : p.Renumbers f p') (groups : List Nat) :
    (p.forget groups).Renumbers f (p'.forget (groups.map f)) := by
  refine ⟨h.position, fun j => ?_⟩
  have hmem : f j ∈ groups.map f ↔ j ∈ groups := List.mem_map_of_injective hf
  by_cases hj : j ∈ groups
  · rw [Place.forget, Place.forget, Captures.get?_forget_of_mem hj,
      Captures.get?_forget_of_mem (hmem.2 hj)]
  · rw [Place.forget, Place.forget, Captures.get?_forget_of_notMem hj,
      Captures.get?_forget_of_notMem (mt hmem.1 hj)]
    exact h.captures j

/-- Both places move in the same way. -/
theorem move (h : p.Renumbers f p') (i : Nat) :
    Renumbers f { p with position := i } { p' with position := i } := ⟨rfl, h.captures⟩

end Place.Renumbers

/-- With other numbers the matcher finds ways to related places. -/
theorem Pattern.relates_run_renumber {f : Nat → Nat} (hf : Function.Injective f) (p : Pattern)
    (t : Text) {d : Direction} {S : Place → Place → Prop} {k k' : Continuation}
    (hk : k.Relates (Place.Renumbers f) S k') :
    Continuation.Relates (Place.Renumbers f) S (p.run t d k) ((p.renumber f).run t d k') := by
  induction p generalizing d S k k' with
  | empty => exact hk
  | char set =>
      intro q q' hq
      simp only [run, renumber, ← hq.position]
      cases t.next? d q.position with
      | none => exact .none
      | some c =>
          dsimp only
          split
          · rw [Place.move, Place.move, ← hq.position]
            exact hk _ _ (hq.move _)
          · exact .none
  | seq first second ihfirst ihsecond =>
      cases d with
      | forward => exact ihfirst (ihsecond hk)
      | backward => exact ihsecond (ihfirst hk)
  | either first second ihfirst ihsecond =>
      intro q q' hq
      exact rel_or (ihfirst hk q q' hq) (ihsecond hk q q' hq)
  | group i body ih =>
      intro q q' hq
      exact ih (fun r r' hr => hk _ _ (hr.record hf hq.position i)) q q' hq
  | repeated quantifier body ih =>
      intro q q' hq
      -- Before each round the groups of the body are forgotten, on either side under their numbers.
      have hround : ∀ k k', Continuation.Relates (Place.Renumbers f) S k k' →
          Continuation.Relates (Place.Renumbers f) S
            (fun q => body.run t d k (q.forget body.groups))
            (fun q => (body.renumber f).run t d k' (q.forget (body.renumber f).groups)) := by
        intro k k' hk q q' hq
        rw [groups_renumber]
        exact ih hk _ _ (hq.forget hf body.groups)
      refine relates_requiredRounds hround (fun q q' hq => ?_) quantifier.min q q' hq
      rw [← hq.position]
      exact relates_optionalRounds (fun _ _ hp => hp.position) hround hk quantifier.greedy _ q q' hq
  | look direction negated body ih =>
      intro q q' hq
      -- The body is run on its own, so the places where it ends are what is compared.
      have hstop : Continuation.Relates (Place.Renumbers f) (Place.Renumbers f) some some :=
        fun _ _ hr => .some hr
      have hbody := ih (d := direction) hstop q q' hq
      simp only [run, renumber]
      generalize body.run t direction some q = found at hbody ⊢
      generalize (body.renumber f).run t direction some q' = found' at hbody ⊢
      cases hbody with
      | none =>
          dsimp only
          split
          · exact hk q q' hq
          · exact .none
      | some hr =>
          dsimp only
          split
          · exact .none
          · exact hk _ _ ⟨hq.position, hr.captures⟩
  | assertion a =>
      intro q q' hq
      simp only [run, renumber, ← hq.position]
      split
      · exact hk q q' hq
      · exact .none
  | backreference mode i =>
      intro q q' hq
      simp only [run, renumber, hq.captures, ← hq.position]
      cases q.captures.get? i with
      | none => exact hk q q' hq
      | some span =>
          dsimp only
          cases t.follow mode d _ q.position with
          | none => exact .none
          | some position => exact hk _ _ (hq.move position)

/-- A group that records something more at the end changes nothing. -/
theorem Pattern.endsAlike_group_renumber {f : Nat → Nat} (hf : Function.Injective f) (p : Pattern)
    (i : Nat) : EndsAlike p (.sequence [.group i (p.renumber f)]) := by
  intro t j
  have hk : Continuation.Relates (Place.Renumbers f) Place.SamePosition some
      (fun q => some (q.record .forward i ⟨j, Captures.empty⟩)) :=
    fun _ _ hq => .some hq.position
  exact rel_samePosition_iff.1 (relates_run_renumber hf p t hk _ _ (Place.Renumbers.empty f j))

/-! ## Readings -/

namespace Token

/-- The token with a reference to a group further on. -/
def shift (k : Nat) : Token → Token
  | backreference i => backreference (i + k)
  | token => token

end Token

/-- The second frame is the first one with groups that are counted from further on.  It can be a
frame of another kind. -/
structure Frame.Renumbers (k : Nat) (f f' : Frame) : Prop where
  index : f'.index = f.index + k
  modes : f'.modes = f.modes
  branches : f'.branches = f.branches.map (Pattern.renumber (· + k))
  terms : f'.terms = f.terms.map (Pattern.renumber (· + k))
  follows : f'.follows = f.follows

namespace Frame.Renumbers

variable {k : Nat} {f f' : Frame} {p p' : Pattern}

/-- Nothing has been read yet. -/
theorem start (kind kind' : GroupKind) (index k : Nat) (modes : Modes) :
    (Frame.start kind index modes).Renumbers k (Frame.start kind' (index + k) modes) :=
  ⟨rfl, rfl, rfl, rfl, rfl⟩

/-- Both frames get a term. -/
theorem push (h : f.Renumbers k f') (p : Pattern) (follows : Quantifiable) :
    (f.push p follows).Renumbers k (f'.push (p.renumber (· + k)) follows) :=
  ⟨h.index, h.modes, h.branches, congrArg (_ :: ·) h.terms, rfl⟩

/-- Both frames get an alternative. -/
theorem split (h : f.Renumbers k f') : f.split.Renumbers k f'.split := by
  refine ⟨h.index, h.modes, ?_, rfl, rfl⟩
  simp [Frame.split, h.branches, h.terms]

/-- Both frames repeat a term. -/
theorem quantify (h : f.Renumbers k f') (q : Quantifier) :
    (f.quantify q).Renumbers k (f'.quantify q) := by
  have hterms := h.terms
  unfold Frame.quantify
  cases hf : f.terms with
  | nil =>
      rw [hf] at hterms
      rw [hterms]
      exact h
  | cons p rest =>
      rw [hf] at hterms
      rw [hterms]
      exact ⟨h.index, h.modes, h.branches, rfl, rfl⟩

theorem body (h : f.Renumbers k f') : f'.body = f.body.renumber (· + k) := by
  simp [Frame.body, h.branches, h.terms]

/-- Closed frames of one kind are patterns with other numbers. -/
theorem close (h : f.Renumbers k f') (hkind : f'.kind = f.kind) :
    f'.close = f.close.renumber (· + k) := by
  unfold Frame.close
  rw [hkind, h.body, h.index]
  cases f.kind <;> rfl

theorem closeFollows (h : f.Renumbers k f') (hkind : f'.kind = f.kind) :
    f'.closeFollows = f.closeFollows := by
  simp only [Frame.closeFollows, hkind, h.modes]

end Frame.Renumbers

/-- The open frames of two readings.  The second one has the frames `outer` around those of the first
one, the outermost of which is a frame of the given kind there. -/
inductive FramesRenumbered (k : Nat) (kind : GroupKind) (outer : List Frame) :
    List Frame → List Frame → Prop
  | bottom {f f' : Frame} : f.Renumbers k f' → f'.kind = kind →
      FramesRenumbered k kind outer [f] (f' :: outer)
  | inner {f f' : Frame} {rest rest' : List Frame} : f.Renumbers k f' → f'.kind = f.kind →
      FramesRenumbered k kind outer rest rest' →
        FramesRenumbered k kind outer (f :: rest) (f' :: rest')

namespace FramesRenumbered

variable {k : Nat} {kind : GroupKind} {outer : List Frame} {f f' e e' : Frame}
variable {rest rest' : List Frame}

/-- The innermost frames. -/
theorem head (h : FramesRenumbered k kind outer (f :: rest) (f' :: rest')) : f.Renumbers k f' := by
  cases h with
  | bottom hf _ => exact hf
  | inner hf _ _ => exact hf

/-- The innermost frames can go on. -/
theorem update (h : FramesRenumbered k kind outer (f :: rest) (f' :: rest')) (he : e.Renumbers k e')
    (hkind : e.kind = f.kind) (hkind' : e'.kind = f'.kind) :
    FramesRenumbered k kind outer (e :: rest) (e' :: rest') := by
  cases h with
  | bottom _ hkinds => exact bottom he (hkind'.trans hkinds)
  | inner _ hkinds hrest => exact inner he (hkind'.trans (hkinds.trans hkind.symm)) hrest

/-- Inside a group there are frames around the innermost one in both readings. -/
theorem exists_cons {o : Frame} (h : FramesRenumbered k kind outer (f :: o :: rest) (f' :: rest')) :
    f'.kind = f.kind ∧ ∃ o' others, rest' = o' :: others ∧
      FramesRenumbered k kind outer (o :: rest) (o' :: others) := by
  cases h with
  | inner _ hkind hrest =>
      refine ⟨hkind, ?_⟩
      cases hrest with
      | bottom ho hkind => exact ⟨_, _, rfl, bottom ho hkind⟩
      | inner ho hkind hrest => exact ⟨_, _, rfl, inner ho hkind hrest⟩

end FramesRenumbered

namespace Assembly

/-- The second reading is the first one behind `k` further groups, in a frame of the given kind. -/
structure Renumbers (k : Nat) (kind : GroupKind) (outer : List Frame) (a a' : Assembly) : Prop where
  frames : FramesRenumbered k kind outer a.frames a'.frames
  groups : a'.groups = a.groups + k

namespace Renumbers

variable {k : Nat} {bottom : GroupKind} {outer : List Frame} {a b a' : Assembly} {token : Token}

/-- The innermost frames. -/
theorem current (h : a.Renumbers k bottom outer a') : a.current.Renumbers k a'.current := h.frames.head

/-- The innermost frames can go on. -/
theorem update {e e' : Frame} (h : a.Renumbers k bottom outer a') (he : e.Renumbers k e')
    (hkind : e.kind = a.current.kind) (hkind' : e'.kind = a'.current.kind) :
    Renumbers k bottom outer { a with current := e } { a' with current := e' } :=
  ⟨h.frames.update he hkind hkind', h.groups⟩

/-- A token that can stand in the first reading can stand in the second one, with its reference. -/
theorem of_step (h : a.Renumbers k bottom outer a') (hstep : a.step token = .ok b) :
    ∃ b', a'.step (token.shift k) = .ok b' ∧ b.Renumbers k bottom outer b' := by
  have hmodes := h.current.modes
  have pushed : ∀ (p : Pattern) (follows : Quantifiable),
      Except.ok (a.push p follows) = Except.ok (ε := PatternError) b →
        a'.step (token.shift k) = .ok (a'.push (p.renumber (· + k)) follows) →
          ∃ b', a'.step (token.shift k) = .ok b' ∧ b.Renumbers k bottom outer b' := by
    intro p follows hb hstep'
    obtain rfl := Except.ok.inj hb
    exact ⟨_, hstep', h.update (h.current.push p follows) rfl rfl⟩
  cases token with
  | set items negated => exact pushed _ _ hstep (by simp [Token.shift, step, hmodes, Pattern.renumber])
  | dot => exact pushed _ _ hstep (by simp [Token.shift, step, hmodes, Pattern.renumber])
  | lineStart => exact pushed _ _ hstep (by simp [Token.shift, step, hmodes, Pattern.renumber])
  | lineEnd => exact pushed _ _ hstep (by simp [Token.shift, step, hmodes, Pattern.renumber])
  | wordBoundary negated => exact pushed _ _ hstep (by simp [Token.shift, step, hmodes, Pattern.renumber])
  | backreference i => exact pushed _ _ hstep (by simp [Token.shift, step, hmodes, Pattern.renumber])
  | opening kind =>
      obtain rfl := Except.ok.inj hstep
      refine ⟨_, rfl, ?_, ?_⟩
      · have hcount : (a'.openGroup kind).current =
            Frame.start kind ((a.openGroup kind).groups + k) (a.current.modes.inside kind) := by
          cases kind <;> simp [openGroup, h.groups, hmodes, Nat.add_right_comm]
        rw [Assembly.frames, Assembly.frames, hcount]
        exact .inner (Frame.Renumbers.start _ _ _ _ _) rfl h.frames
      · cases kind <;> simp [openGroup, h.groups, Nat.add_right_comm]
  | closing =>
      rcases exists_of_step_closing hstep with ⟨o, rest, henclosing, rfl⟩
      have hframes := h.frames
      rw [Assembly.frames, Assembly.frames, henclosing] at hframes
      rcases hframes.exists_cons with ⟨hkind, o', others, henclosing', hrest⟩
      refine ⟨⟨o'.push a'.current.close a'.current.closeFollows, others, a'.groups⟩, ?_, ?_, h.groups⟩
      · simp only [Token.shift, step, closeGroup, henclosing']
      · rw [h.current.close hkind, h.current.closeFollows hkind]
        exact hrest.update (hrest.head.push _ _) rfl rfl
  | bar =>
      obtain rfl := Except.ok.inj hstep
      exact ⟨_, rfl, h.update h.current.split rfl rfl⟩
  | quantifier q braced =>
      rcases of_step_quantifier hstep with ⟨hfollows, hpossible, rfl⟩
      refine ⟨{ a' with current := a'.current.quantify q }, ?_, ?_⟩
      · simp [Token.shift, step, Assembly.quantify, h.current.follows, hfollows, hpossible]
      · exact h.update (h.current.quantify q) (a.current.continues_quantify q).1
          (a'.current.continues_quantify q).1
  | looseBrace => cases hstep
  | fault cause => cases hstep

end Renumbers

end Assembly

/-! ## Texts that refer to groups by their names -/

/-- Read in the grammar, the text refers to groups by their names only. -/
def Grammar.RefersByNames (g : Grammar) (text : List Char) : Prop :=
  ∀ spelled ∈ Token.spelledFrom g text 0, spelled.1.isReference = true →
    ['\\', 'k'].isPrefixOf spelled.2 = true

instance (g : Grammar) (text : List Char) : Decidable (g.RefersByNames text) :=
  inferInstanceAs (Decidable (∀ spelled ∈ Token.spelledFrom g text 0, spelled.1.isReference = true →
    ['\\', 'k'].isPrefixOf spelled.2 = true))

namespace Token

variable {g g' : Grammar} {c : Char} {l s : List Char} {token : Token} {k n i : Nat}

/-- A class is no reference. -/
theorem readClass_ne_backreference : readClass g l ≠ (backreference i, n) := by
  intro h
  unfold readClass at h
  dsimp only at h
  split at h <;> cases h

/-- An escape that refers to a group does so by a number or by a name. -/
theorem of_readEscape_backreference (h : readEscape g c l = (backreference i, n)) :
    StartsNumber (c :: l) ∨ RefersByName g (c :: l) (backreference i) n := by
  by_cases hdigit : '1' ≤ c ∧ c ≤ '9'
  · exact .inl ⟨c, l, rfl, hdigit⟩
  unfold readEscape at h
  split_ifs at h with hb hB hk
  · cases h
  · cases h
  · obtain rfl : c = 'k' := by simpa using (Bool.and_eq_true_iff.1 hk).1
    rcases hname : readNamedReference g l with ⟨token, m⟩
    rw [hname] at h
    obtain ⟨rfl, rfl⟩ := Prod.mk.inj h
    exact .inr (refersByName_of_readNamedReference hname nofun)
  · generalize Escape.readAt g false c l = escape at h
    rcases escape with ⟨escape, m⟩
    cases escape <;> cases h

/-- Only an escape refers to a group. -/
theorem of_readAt_backreference (h : readAt g c l = (backreference i, n)) :
    c = '\\' ∧ (StartsNumber l ∨ RefersByName g l (backreference i) n) := by
  have repeats : ∀ {min max braced used text},
      withLaziness min max braced used text ≠ (backreference i, n) := by
    intro min max braced used text h
    unfold withLaziness at h
    split at h <;> cases h
  unfold readAt at h
  split at h
  · split at h
    · cases h
    · exact ⟨rfl, of_readEscape_backreference h⟩
  · exact absurd h readClass_ne_backreference
  · rcases eq_opening_of_readOpening h nofun with ⟨kind, heq⟩
    cases heq
  · cases h
  · cases h
  · cases h
  · cases h
  · cases h
  · exact absurd h repeats
  · exact absurd h repeats
  · exact absurd h repeats
  · rcases (neutralFor_readBraces h).2 with ⟨q, heq⟩ | heq | heq
    · cases heq
    · cases heq
    · cases heq
  · split at h <;> cases h
  · split at h <;> cases h
  · cases h

/-- What is no reference stays the same behind further groups. -/
theorem shift_of_isReference_eq_false (h : token.isReference = false) : token.shift k = token := by
  cases token <;> first | rfl | cases h

/-- Behind further groups a token is the same, and a reference by name counts them. -/
theorem readAt_shift (hg : g.Precedes k g') (hs : Stops s) (h : readAt g c l = (token, n))
    (ht : ∀ cause, token ≠ fault cause)
    (hnames : (readAt g' c l).1.isReference = true → ['\\', 'k'].isPrefixOf (c :: l) = true) :
    readAt g' c (l ++ s) = (token.shift k, n) := by
  have hcount : g.groups.length ≤ g'.groups.length := by
    rw [hg.groups, List.length_append]
    exact Nat.le_add_left _ _
  by_cases hnumber : c = '\\' ∧ StartsNumber l
  · rcases hnumber with ⟨rfl, d, rest, rfl, hd⟩
    -- The number refers to no group, neither here nor there.
    have hno : ¬ (Numeral.leadingNumber 10 (rest.length + 1) (d :: rest)).1 ≤ g'.groups.length := by
      intro hgroup
      have hread : readAt g' '\\' (d :: rest) = readEscape g' d rest := rfl
      rw [hread, readEscape_digit g' hd, if_pos hgroup] at hnames
      have hk := hnames rfl
      simp only [List.isPrefixOf, beq_iff_eq, Bool.and_eq_true] at hk
      obtain rfl := hk.2.1
      exact absurd hd (by decide)
    have hescape : readEscape g d rest = (token, n) := h
    have hsame : readAt g' '\\' (d :: rest ++ s) = (token, n) :=
      readEscape_digit_append hg.carriesTo hd hs hescape ht
        ⟨fun hgroup => absurd hgroup hno, fun hgroup => Nat.le_trans hgroup hcount⟩
    rw [hsame, shift_of_isReference_eq_false]
    rw [readEscape_digit g hd, if_neg fun hgroup => hno (Nat.le_trans hgroup hcount)] at hescape
    split_ifs at hescape
    · exact absurd (Prod.mk.inj hescape).1.symm (ht _)
    · rw [← (Prod.mk.inj hescape).1]
      cases (Escape.readAt g false d rest).1 <;> rfl
  by_cases hname : RefersByName g l token n
  · rcases hname.exists_readAt with ⟨name, i, hindex, rfl, hread⟩
    obtain rfl := (of_readAt_backreference h).1
    exact hread g' s _ (hg.groupIndex? hindex)
  · rcases readAt_append hg.carriesTo hs h ht with hsame | ⟨hc, hother⟩
    · rw [hsame, shift_of_isReference_eq_false]
      cases token with
      | backreference i =>
          rcases of_readAt_backreference h with ⟨hc, hother⟩
          rcases hother with hstart | href
          · exact absurd ⟨hc, hstart⟩ hnumber
          · exact absurd href hname
      | _ => rfl
    · rcases hother with hstart | href
      · exact absurd ⟨hc, hstart⟩ hnumber
      · exact absurd href hname

end Token

/-- The first token refers to a group by its name, if it refers to one, and so does the rest. -/
theorem Grammar.RefersByNames.of_cons {g : Grammar} {c : Char} {rest : List Char} {token : Token}
    {extra : Nat} (h : g.RefersByNames (c :: rest))
    (hread : Token.readAt g c rest = (token, extra)) :
    (token.isReference = true → ['\\', 'k'].isPrefixOf (c :: rest) = true) ∧
      g.RefersByNames (rest.drop extra) := by
  rw [RefersByNames, Token.spelledFrom_cons hread] at h
  refine ⟨fun href => ?_, fun spelled hspelled => h spelled (List.mem_cons_of_mem _ hspelled)⟩
  have hfirst := h _ List.mem_cons_self href
  rw [List.isPrefixOf_iff_prefix] at hfirst ⊢
  exact hfirst.trans ((List.prefix_cons_inj c).2 (List.take_prefix extra rest))

/-- Behind further groups a text that refers to groups by their names is read as it is without
them. -/
theorem Assembly.Renumbers.of_reads {g g' : Grammar} {k : Nat} {bottom : GroupKind}
    {outer : List Frame} {a b a' : Assembly} {text remaining after : List Char} (hg : g.Precedes k g')
    (hnames : g'.RefersByNames text) (hs : Stops after) (h : Reads g a text b remaining)
    (hrenumbers : a.Renumbers k bottom outer a') :
    ∃ b', Reads g' a' (text ++ after) b' (remaining ++ after) ∧ b.Renumbers k bottom outer b' := by
  induction h generalizing a' with
  | done a text => exact ⟨a', Reads.done a' _, hrenumbers⟩
  | @token a b d c rest remaining token extra hread hstep _ ih =>
      have ht := ne_fault_of_step hstep
      rcases Token.spelling_readAt hread ht with ⟨hextra, _⟩
      have hfirst := (hnames.of_cons (Prod.mk.eta (p := Token.readAt g' c rest)).symm).1
      have halone := Token.readAt_shift hg Stops.nil hread ht hfirst
      rw [List.append_nil] at halone
      rcases hrenumbers.of_step hstep with ⟨d', hstep', hrenumbers'⟩
      rcases ih (hnames.of_cons halone).2 hrenumbers' with ⟨b', hreads', hrenumbers''⟩
      refine ⟨b', ?_, hrenumbers''⟩
      rw [List.cons_append]
      refine Reads.token (Token.readAt_shift hg hs hread ht hfirst) hstep' ?_
      rw [List.drop_append_of_le_length hextra]
      exact hreads'

/-! ## Accepted sources -/

namespace Regex

variable {source : String} {flags : Flags} {r : Regex}

/-- A capturing group around a source is one further group in front, whatever quantifier is behind
it. -/
theorem precedes_captured (h : compile source flags = .ok r) (after : List Char)
    (hafter : GroupName.declared after = []) :
    (GroupName.declared ('(' :: (source.toList ++ ')' :: after)) =
        none :: GroupName.declared source.toList) ∧
      (Program.grammar source flags).Precedes 1
        (Program.grammar (String.ofList ('(' :: (source.toList ++ ')' :: after))) flags) := by
  rcases exists_reads h with ⟨-, -, b, hreads, -, -⟩
  have hread : Token.readAt (Program.grammar source flags) '(' (source.toList ++ ')' :: after) =
      (.opening (.capturing none), 0) :=
    OpensWith.capturing.reads _ (head?_closed_ne (Fits.head?_ne_of_reads hreads rfl) after)
  have hdeclared : GroupName.declared ('(' :: (source.toList ++ ')' :: after)) =
      none :: GroupName.declared source.toList := by
    rw [GroupName.declared, GroupName.declaredFrom_readAt hread (by rintro _ ⟨⟩), List.drop_zero,
      Fits.declared_of_reads hreads (stops_closing after)]
    have hclosing : GroupName.declaredFrom false (')' :: after) 0 = GroupName.declared after := rfl
    rw [hclosing, hafter, List.append_nil]
    rfl
  refine ⟨hdeclared, rfl, ?_⟩
  rw [Program.grammar, String.toList_ofList, hdeclared]
  rfl

/-- In a capturing group a source that refers to groups by their names is read as it is alone. -/
theorem exists_reads_captured {g : Grammar} (h : compile source flags = .ok r)
    (hg : (Program.grammar source flags).Precedes 1 g) (hnames : g.RefersByNames source.toList)
    (after : List Char) : ∃ i count,
      Assembly.Reads g (Assembly.start (Modes.ofFlags flags)) ('(' :: (source.toList ++ ')' :: after))
        ⟨(Assembly.start (Modes.ofFlags flags)).current.push
          (.group i (r.program.pattern.renumber (· + 1))) .allowed, [], count⟩ after := by
  rcases exists_reads h with ⟨-, -, b, hreads, henclosing, hpattern⟩
  have hstart : (Assembly.start (Modes.ofFlags flags)).Renumbers 1 (.capturing none)
      [(Assembly.start (Modes.ofFlags flags)).current]
      ((Assembly.start (Modes.ofFlags flags)).openGroup (.capturing none)) :=
    ⟨.bottom (Frame.Renumbers.start _ _ _ _ _) rfl, rfl⟩
  rcases Assembly.Renumbers.of_reads hg hnames (stops_closing after) hreads hstart with
    ⟨b', hreads', hframes, -⟩
  rw [Assembly.frames, Assembly.frames, henclosing] at hframes
  rcases b' with ⟨f, enclosing, count⟩
  cases hframes with
  | inner _ _ hrest => cases hrest
  | bottom hf hkind =>
      have hclose : f.close = .group f.index (r.program.pattern.renumber (· + 1)) := by
        rw [Frame.close, hkind, hf.body, hpattern]
      have hfollows : f.closeFollows = .allowed := by rw [Frame.closeFollows, hkind]
      have hread : Token.readAt g '(' (source.toList ++ ')' :: after) =
          (.opening (.capturing none), 0) :=
        OpensWith.capturing.reads _ (head?_closed_ne (Fits.head?_ne_of_reads hreads rfl) after)
      have hclosing := Assembly.Reads.closing (g := g)
        (a := ⟨f, [(Assembly.start (Modes.ofFlags flags)).current], count⟩) rfl after
      dsimp only at hclosing
      rw [hclose, hfollows] at hclosing
      exact ⟨f.index, count, Assembly.Reads.single hread rfl (hreads'.trans hclosing)⟩

/-- In a capturing group a source that refers to groups by their names is accepted, and it matches as
it does alone. -/
theorem exists_compile_captured (h : compile source flags = .ok r)
    (hnames : (Program.grammar (String.ofList ('(' :: (source.toList ++ [')']))) flags).RefersByNames
      source.toList) :
    ∃ r', compile (String.ofList ('(' :: (source.toList ++ [')']))) flags = .ok r' ∧
      r.program.pattern.EndsAlike r'.program.pattern := by
  rcases precedes_captured h [] rfl with ⟨hdeclared, hprecedes⟩
  rcases exists_reads_captured h hprecedes hnames [] with ⟨i, count, hreads⟩
  rcases exists_compile_of_reads hreads rfl
    (by simpa [hdeclared] using (exists_reads h).2.1) with ⟨r', hcompile, -, hpattern⟩
  refine ⟨r', hcompile, ?_⟩
  have hgroup : r'.program.pattern = .sequence [.group i (r.program.pattern.renumber (· + 1))] :=
    hpattern
  rw [hgroup]
  exact Pattern.endsAlike_group_renumber (add_left_injective 1) _ _

/-- An optional capturing group around a source that refers to groups by their names is accepted. -/
theorem exists_compile_optional (h : compile source flags = .ok r)
    (hnames : (Program.grammar (String.ofList ('(' :: (source.toList ++ [')']))) flags).RefersByNames
      source.toList) :
    ∃ r' i, compile (String.ofList ('(' :: (source.toList ++ [')', '?']))) flags = .ok r' ∧
      r'.program.pattern = .sequence [.repeated ⟨0, some 1, true⟩
        (.group i (r.program.pattern.renumber (· + 1)))] := by
  rcases precedes_captured h [] rfl with ⟨hdeclared, -⟩
  rcases precedes_captured h ['?'] rfl with ⟨hdeclared', hprecedes⟩
  have hgrammar : Program.grammar (String.ofList ('(' :: (source.toList ++ [')', '?']))) flags =
      Program.grammar (String.ofList ('(' :: (source.toList ++ [')']))) flags := by
    rw [Program.grammar, Program.grammar, String.toList_ofList, String.toList_ofList, hdeclared,
      hdeclared']
  rw [← hgrammar] at hnames
  rcases exists_reads_captured h hprecedes hnames ['?'] with ⟨i, count, hreads⟩
  have hread : Token.readAt (Program.grammar (String.ofList ('(' :: (source.toList ++ [')', '?'])))
      flags) '?' [] = (.quantifier ⟨0, some 1, true⟩ false, 0) := rfl
  have hoptional := hreads.trans (Assembly.Reads.single hread rfl (Assembly.Reads.done _ _))
  rcases exists_compile_of_reads hoptional rfl
    (by simpa [hdeclared'] using (exists_reads h).2.1) with ⟨r', hcompile, -, hpattern⟩
  exact ⟨r', i, hcompile, hpattern⟩

end Regex

end RegexComposition
