import RegexComposition.Proofs.Pattern.Alike
import RegexComposition.Proofs.Pattern.Embedding
import RegexComposition.Proofs.Pattern.Terms

/-!
# What a source means in context

The tokens of a source that is accepted on its own put the same terms into the frames of a context
as into its own frames.  The groups are numbered differently, which does not matter as long as
nothing refers to them.  Only at the outermost level of the source there may be something else in
front: then it has to be a single alternative.

Main results:

- `Frame.Joins`: a frame of the source alone and the frame of the context in which it is read.
- `Echoes`, `Echoes.of_step`: all frames, and that a token keeps them in step.
- `Grammar.ReadsPlainly`: a text without references and faults, whose tokens are the same in every
  grammar with no more groups.
- `Regex.IsPart`, `Regex.Blends`: what is asked of the source, in a grammar without and with named
  groups.
- `Regex.Blends.gains`, `Regex.Blends.gains_enclosed`: it adds terms that match like its pattern, if
  it has no bar outside of all groups or is put in parentheses.
-/

namespace RegexComposition

open Assembly

/-! ## One frame -/

namespace Frame

variable {branches terms : List Pattern} {f f' : Frame} {p p' : Pattern}

/-- What has been read in the first frame has been read in the second one as well, behind the given
older alternatives and terms.  Without a bar these are still what they were.  If there is nothing
older, both frames are alike. -/
structure Joins (branches terms : List Pattern) (f f' : Frame) : Prop where
  single : f.branches = [] → f'.branches = branches ∧
    ∃ added, f'.terms = added ++ terms ∧ List.Forall₂ Pattern.Alike f.terms added
  alone : branches = [] → terms = [] → List.Forall₂ Pattern.Alike f.branches f'.branches ∧
    List.Forall₂ Pattern.Alike f.terms f'.terms

namespace Joins

/-- Nothing has been read yet. -/
theorem start (kind : GroupKind) (index : Nat) (modes : Modes) (base : Frame) :
    (Frame.start kind index modes).Joins base.branches base.terms base := by
  refine ⟨fun _ => ⟨rfl, [], rfl, .nil⟩, fun hbranches hterms => ?_⟩
  rw [hbranches, hterms]
  exact ⟨.nil, .nil⟩

/-- Both frames get a term. -/
theorem push (h : f.Joins branches terms f') (hp : p.Alike p') (follows follows' : Quantifiable) :
    (f.push p follows).Joins branches terms (f'.push p' follows') := by
  refine ⟨fun hf => ?_, fun hbranches hterms => ?_⟩
  · rcases h.single hf with ⟨hbranches, added, hadded, halike⟩
    refine ⟨hbranches, p' :: added, ?_, .cons hp halike⟩
    rw [Frame.push, hadded, List.cons_append]
  · exact ⟨(h.alone hbranches hterms).1, .cons hp (h.alone hbranches hterms).2⟩

/-- Both frames get an alternative. -/
theorem split (h : f.Joins branches terms f') : f.split.Joins branches terms f'.split := by
  refine ⟨fun hf => absurd hf (List.cons_ne_nil _ _), fun hbranches hterms => ?_⟩
  rcases h.alone hbranches hterms with ⟨halike, halike'⟩
  exact ⟨.cons (Pattern.Alike.sequence (List.rel_reverse halike')) halike, .nil⟩

/-- Both frames repeat a term. -/
theorem quantify (h : f.Joins branches terms f') (q : Quantifier) (hterms : f.terms ≠ []) :
    (f.quantify q).Joins branches terms (f'.quantify q) := by
  rcases List.exists_cons_of_ne_nil hterms with ⟨p, rest, hcons⟩
  have hf : f.quantify q = { f with terms := .repeated q p :: rest, follows := .nothing } := by
    rw [Frame.quantify, hcons]
  have hf' : ∀ p' rest', f'.terms = p' :: rest' →
      f'.quantify q = { f' with terms := .repeated q p' :: rest', follows := .nothing } := by
    intro p' rest' hcons'
    rw [Frame.quantify, hcons']
  rw [hf]
  refine ⟨fun hbranches => ?_, fun hbranches hterms => ?_⟩
  · rcases h.single hbranches with ⟨hbranches', added, hadded, halike⟩
    rw [hcons] at halike
    cases halike with
    | @cons _ p' _ rest' hp hrest =>
        rw [hf' p' (rest' ++ terms) hadded]
        exact ⟨hbranches', .repeated q p' :: rest', rfl, .cons (hp.repeated q) hrest⟩
  · rcases h.alone hbranches hterms with ⟨halike, halike'⟩
    rw [hcons] at halike'
    generalize hterms' : f'.terms = terms' at halike'
    cases halike' with
    | cons hp hrest =>
        rw [hf' _ _ hterms']
        exact ⟨halike, .cons (hp.repeated q) hrest⟩

/-- Without anything older the bodies match alike. -/
theorem body (h : f.Joins [] [] f') : f.body.Alike f'.body := by
  rcases h.alone rfl rfl with ⟨hbranches, hterms⟩
  exact Pattern.Alike.alternation (List.rel_reverse hbranches)
    (Pattern.Alike.sequence (List.rel_reverse hterms))

/-- Closed frames of one kind match alike. -/
theorem close (h : f.Joins [] [] f') (hkind : f'.kind = f.kind) : f.close.Alike f'.close := by
  unfold Frame.close
  rw [hkind]
  cases f.kind with
  | capturing name => exact h.body.group _ _
  | plain => exact h.body
  | modified on off => exact h.body
  | look direction negated => exact h.body.look direction negated

/-- Without a bar the terms have been added behind the older ones. -/
theorem gains {base : Frame} (h : f.Joins base.branches base.terms f') (hf : f.branches = []) :
    base.Gains (fun ps => (Pattern.sequence ps).Alike f.body) f' := by
  rcases h.single hf with ⟨hbranches, added, hadded, halike⟩
  refine ⟨hbranches, added, hadded, ?_⟩
  rw [Frame.body, hf]
  exact (Pattern.Alike.sequence (List.rel_reverse halike)).symm

end Joins

end Frame

/-! ## All open frames -/

/-- The open frames of a source that is read alone, and those of its reading in a context that has
the frames `outer` and, innermost, the frame `base`. -/
inductive Echoes (base : Frame) (outer : List Frame) : List Frame → List Frame → Prop
  | bottom {f f' : Frame} : f.Joins base.branches base.terms f' →
      Echoes base outer [f] (f' :: outer)
  | inner {f f' : Frame} {rest rest' : List Frame} : f.Joins [] [] f' →
      Echoes base outer rest rest' → Echoes base outer (f :: rest) (f' :: rest')

namespace Echoes

variable {base : Frame} {outer : List Frame} {f f' : Frame} {rest rest' : List Frame}

/-- The innermost frames can go on in step. -/
theorem update {e e' : Frame} (h : Echoes base outer (f :: rest) (f' :: rest'))
    (hjoins : ∀ branches terms, f.Joins branches terms f' → e.Joins branches terms e') :
    Echoes base outer (e :: rest) (e' :: rest') := by
  cases h with
  | bottom hf => exact bottom (hjoins _ _ hf)
  | inner hf hrest => exact inner (hjoins _ _ hf) hrest

/-- Inside a group nothing older is in the innermost frame. -/
theorem exists_cons (h : Echoes base outer (f :: rest) (f' :: rest')) (hrest : rest ≠ []) :
    f.Joins [] [] f' ∧ Echoes base outer rest rest' := by
  cases h with
  | bottom _ => exact absurd rfl hrest
  | inner hf hinner => exact ⟨hf, hinner⟩

/-- A token that is no reference keeps the frames in step. -/
theorem of_step {a b a' b' : Assembly} {token : Token} (h : Echoes base outer a.frames a'.frames)
    (hin : InStep base outer a a') (htoken : ∀ i, token ≠ .backreference i)
    (hstep : a.step token = .ok b) (hstep' : a'.step token = .ok b') :
    Echoes base outer b.frames b'.frames := by
  have hmodes : a'.current.modes = a.current.modes := hin.follows.modes
  have hm := hin.mirrors
  -- Most tokens push a pattern, which matches alike in both readings.
  have pushed : ∀ (p p' : Pattern) (follows follows' : Quantifiable), p.Alike p' →
      Except.ok (a.push p follows) = Except.ok (ε := PatternError) b →
        Except.ok (a'.push p' follows') = Except.ok (ε := PatternError) b' →
          Echoes base outer b.frames b'.frames := by
    intro p p' follows follows' hp hb hb'
    obtain rfl := Except.ok.inj hb
    obtain rfl := Except.ok.inj hb'
    exact h.update fun _ _ hjoins => hjoins.push hp _ _
  cases token with
  | set items negated =>
      rw [step, hmodes] at hstep'
      exact pushed _ _ _ _ (Pattern.alike_char _) hstep hstep'
  | dot =>
      rw [step, hmodes] at hstep'
      exact pushed _ _ _ _ (Pattern.alike_char _) hstep hstep'
  | lineStart =>
      rw [step, hmodes] at hstep'
      exact pushed _ _ _ _ (Pattern.alike_assertion _) hstep hstep'
  | lineEnd =>
      rw [step, hmodes] at hstep'
      exact pushed _ _ _ _ (Pattern.alike_assertion _) hstep hstep'
  | wordBoundary negated =>
      rw [step, hmodes] at hstep'
      exact pushed _ _ _ _ (Pattern.alike_assertion _) hstep hstep'
  | backreference i => exact absurd rfl (htoken i)
  | opening kind =>
      obtain rfl := Except.ok.inj hstep
      obtain rfl := Except.ok.inj hstep'
      exact inner (Frame.Joins.start _ _ _ (Frame.start _ _ _)) h
  | closing =>
      rcases exists_of_step_closing hstep with ⟨o, rest, henclosing, rfl⟩
      rcases exists_of_step_closing hstep' with ⟨o', rest', henclosing', rfl⟩
      rw [frames, frames, henclosing, henclosing'] at h hm
      rcases h.exists_cons (List.cons_ne_nil o rest) with ⟨hjoins, hrest⟩
      have hclose := hjoins.close (hm.exists_cons (List.cons_ne_nil o rest)).2
      exact hrest.update fun _ _ ho => ho.push hclose _ _
  | bar =>
      obtain rfl := Except.ok.inj hstep
      obtain rfl := Except.ok.inj hstep'
      exact h.update fun _ _ hjoins => hjoins.split
  | quantifier q braced =>
      rcases of_step_quantifier hstep with ⟨hfollows, -, rfl⟩
      rcases of_step_quantifier hstep' with ⟨-, -, rfl⟩
      exact h.update fun _ _ hjoins => hjoins.quantify q (hin.follows.terms hfollows)
  | looseBrace => cases hstep
  | fault cause => cases hstep

end Echoes

/-! ## Sources without references -/

/-- Whether there is a bar outside of all groups. -/
def Pattern.isEither : Pattern → Bool
  | .either _ _ => true
  | _ => false

namespace Token

/-- Whether the token refers to a group. -/
def isReference : Token → Bool
  | .backreference _ => true
  | _ => false

/-- Whether the token can be read and refers to no group. -/
def isPlain : Token → Bool
  | .backreference _ | .fault _ => false
  | _ => true

variable {g g' : Grammar} {c : Char} {l s : List Char} {token : Token} {n : Nat}

theorem ne_fault_of_isPlain (h : token.isPlain = true) : ∀ cause, token ≠ fault cause := by
  rintro cause rfl
  cases h

/-- A token that can be read and refers to no group is the same in a grammar with fewer groups. -/
theorem readAt_of_isPlain (hg : g.CarriesTo g') (hcount : g'.groups.length ≤ g.groups.length)
    (hs : Stops s) (h : readAt g c l = (token, n)) (hplain : token.isPlain = true) :
    readAt g' c (l ++ s) = (token, n) := by
  have ht := ne_fault_of_isPlain hplain
  rcases readAt_append hg hs h ht with hread | ⟨rfl, ⟨d, rest, rfl, hd⟩ | hname⟩
  · exact hread
  · have hescape : readEscape g d rest = (token, n) := h
    refine readEscape_digit_append hg hd hs hescape ht
      ⟨fun hgroup => Nat.le_trans hgroup hcount, fun hgroup => ?_⟩
    rw [readEscape_digit g hd, if_pos hgroup] at hescape
    rw [← (Prod.mk.inj hescape).1] at hplain
    cases hplain
  · rcases hname.exists_readAt with ⟨_, _, _, rfl, _⟩
    cases hplain

/-- Without named groups a token is the same in a grammar with more groups, unless it refers to one
of them. -/
theorem readAt_of_isReference_eq_false (hg : g.Agrees g')
    (hcount : g.groups.length ≤ g'.groups.length) (h : readAt g c l = (token, n))
    (ht : ∀ cause, token ≠ fault cause) (href : (readAt g' c l).1.isReference = false) :
    readAt g' c l = (token, n) := by
  rcases readAt_append hg.carriesTo Stops.nil h ht with hread | ⟨rfl, ⟨d, rest, rfl, hd⟩ | hname⟩
  · rwa [List.append_nil] at hread
  · have hread := readEscape_digit_append hg.carriesTo hd Stops.nil h ht
      ⟨fun hgroup => ?_, fun hgroup => Nat.le_trans hgroup hcount⟩
    · rwa [List.append_nil] at hread
    · have hescape : (readEscape g' d rest).1.isReference = false := href
      rw [readEscape_digit g' hd, if_pos hgroup] at hescape
      cases hescape
  · rcases hname.exists_readAt with ⟨name, i, hindex, _⟩
    have hnamed := Grammar.hasGroupNames_of_groupIndex? hindex
    rw [hg.unnamed] at hnamed
    cases hnamed

end Token

/-- Read in the grammar, the text has no faults and refers to no group. -/
def Grammar.ReadsPlainly (g : Grammar) (text : List Char) : Prop :=
  ∀ token ∈ Token.ofSource g text, token.isPlain = true

namespace Grammar.ReadsPlainly

variable {g g' : Grammar} {a b : Assembly} {text : List Char}

instance (g : Grammar) (text : List Char) : Decidable (g.ReadsPlainly text) :=
  inferInstanceAs (Decidable (∀ token ∈ Token.ofSource g text, token.isPlain = true))

/-- The first token is plain, and so is the rest. -/
theorem of_cons {c : Char} {rest : List Char} {token : Token} {extra : Nat}
    (h : g.ReadsPlainly (c :: rest)) (hread : Token.readAt g c rest = (token, extra)) :
    token.isPlain = true ∧ g.ReadsPlainly (rest.drop extra) := by
  rw [ReadsPlainly, Token.ofSource_cons hread] at h
  exact ⟨h token List.mem_cons_self, fun other hother => h other (List.mem_cons_of_mem token hother)⟩

/-- A source that can be read in a grammar with fewer groups can be read in the same way. -/
theorem reads (hplain : g.ReadsPlainly text) (hg : g.CarriesTo g')
    (hcount : g'.groups.length ≤ g.groups.length) (h : Reads g' a text b []) :
    Reads g a text b [] := by
  generalize hend : ([] : List Char) = remaining at h ⊢
  induction h with
  | done a text => exact Reads.done a text
  | @token a b d c rest remaining token extra hread hstep _ ih =>
      rcases hread' : Token.readAt g c rest with ⟨token', extra'⟩
      rcases hplain.of_cons hread' with ⟨htoken, hrest⟩
      have hsame := Token.readAt_of_isPlain hg hcount Stops.nil hread' htoken
      rw [List.append_nil, hread] at hsame
      rcases Prod.mk.inj hsame with ⟨rfl, rfl⟩
      exact Reads.token hread' hstep (ih hrest hend)

/-- A source that can be read alone and has no references in a grammar with more groups has no
faults there either. -/
theorem of_unreferenced (hg : g'.Agrees g) (hcount : g'.groups.length ≤ g.groups.length)
    (href : ∀ token ∈ Token.ofSource g text, token.isReference = false)
    (h : Reads g' a text b []) : g.ReadsPlainly text := by
  generalize hend : ([] : List Char) = remaining at h
  induction h with
  | done a text =>
      subst hend
      exact fun token htoken => absurd htoken List.not_mem_nil
  | @token a b d c rest remaining token extra hread hstep _ ih =>
      have ht := ne_fault_of_step hstep
      have hfirst : (Token.readAt g c rest).1.isReference = false :=
        href _ (by rw [Token.ofSource_cons rfl]; exact List.mem_cons_self)
      have hread' := Token.readAt_of_isReference_eq_false hg hcount hread ht hfirst
      rw [hread'] at hfirst
      rw [Token.ofSource_cons hread'] at href
      rw [ReadsPlainly, Token.ofSource_cons hread']
      refine List.forall_mem_cons.2
        ⟨?_, ih (fun other hother => href other (List.mem_cons_of_mem token hother)) hend⟩
      cases token with
      | backreference i => cases hfirst
      | fault cause => exact absurd rfl (ht cause)
      | _ => rfl

end Grammar.ReadsPlainly

/-- A source without references adds the same in every context. -/
theorem Echoes.of_reads {g g' : Grammar} {base : Frame} {outer : List Frame}
    {a b a' : Assembly} {text remaining after : List Char} (hg : g.CarriesTo g')
    (hcount : g'.groups.length ≤ g.groups.length) (hplain : g.ReadsPlainly text)
    (hs : Stops after) (h : Reads g a text b remaining)
    (hechoes : Echoes base outer a.frames a'.frames) (hin : InStep base outer a a') :
    ∃ b', Reads g' a' (text ++ after) b' (remaining ++ after) ∧
      Echoes base outer b.frames b'.frames ∧ InStep base outer b b' ∧
      b'.groups + a.groups = a'.groups + b.groups := by
  induction h generalizing a' with
  | done a text => exact ⟨a', Reads.done a' _, hechoes, hin, rfl⟩
  | @token a b d c rest remaining token extra hread hstep _ ih =>
      rcases Token.spelling_readAt hread (ne_fault_of_step hstep) with ⟨hextra, _⟩
      rcases hplain.of_cons hread with ⟨htoken, hrest⟩
      have hread' := Token.readAt_of_isPlain hg hcount hs hread htoken
      rcases hin.of_step hstep with ⟨d', hstep', hin', hgroups⟩
      have hechoes' := hechoes.of_step hin (by rintro i rfl; cases htoken) hstep hstep'
      rcases ih hrest hechoes' hin' with ⟨b', hreads', he, hin'', hgroups'⟩
      refine ⟨b', ?_, he, hin'', by omega⟩
      rw [List.cons_append]
      refine Reads.token hread' hstep' ?_
      rw [List.drop_append_of_le_length hextra]
      exact hreads'

/-- A source without references that is read alone can be read in every context, where it adds the
same. -/
theorem ReadsIn.joins {g g' : Grammar} {kind : GroupKind} {index m n : Nat} {modes : Modes}
    {f : Frame} {text : List Char} (hg : g.CarriesTo g')
    (hcount : g'.groups.length ≤ g.groups.length) (hplain : g.ReadsPlainly text)
    (h : Reads g ⟨Frame.start kind index modes, [], m⟩ text ⟨f, [], m + n⟩ []) :
    ReadsIn g' modes n (fun base f' => f.Joins base.branches base.terms f') text := by
  intro a after hm hs
  have hechoes : Echoes a.current a.enclosing [Frame.start kind index modes] a.frames :=
    Echoes.bottom (Frame.Joins.start _ _ _ a.current)
  rcases Echoes.of_reads hg hcount hplain hs h hechoes (InStep.start hm rfl rfl) with
    ⟨⟨frame, enclosing, count⟩, hreads, hechoes', ⟨hmirrors, -⟩, hsum⟩
  obtain rfl : count = a.groups + n := by
    dsimp only at hsum
    omega
  cases hmirrors with
  | bottom _ hframe =>
      cases hechoes' with
      | bottom hjoins => exact ⟨frame, hreads, hframe, hjoins⟩
      | inner _ hrest => cases hrest
  | inner _ _ hrest => cases hrest

/-! ## Accepted sources -/

namespace Regex

/-- The source of a part: it is accepted on its own, has no named groups and, read in the grammar,
refers to no group. -/
structure IsPart (g : Grammar) (flags : Flags) (r : Regex) : Prop where
  accepted : compile r.source flags = .ok r
  unnamed : ∀ name ∈ r.program.groups, name = none
  unreferenced : ∀ token ∈ Token.ofSource g r.source.toList, token.isReference = false

/-- The source of a part that is the same in all grammars with no more groups than the given one,
which may have named ones. -/
structure Blends (g : Grammar) (flags : Flags) (r : Regex) : Prop where
  accepted : compile r.source flags = .ok r
  unnamed : ∀ name ∈ r.program.groups, name = none
  unicode : g.unicode = flags.contains .unicode
  enough : r.program.groups.length ≤ g.groups.length
  plain : g.ReadsPlainly r.source.toList

end Regex

namespace Regex.Blends

variable {g g' : Grammar} {flags : Flags} {r : Regex}

/-- The source fits everywhere. -/
theorem fits (h : r.Blends g flags) :
    Fits (Modes.ofFlags flags) r.program.groups.length (fun _ _ => True) r.source.toList :=
  Fits.of_compile h.accepted h.unnamed

/-- The reading of the source alone is one in the grammar as well. -/
theorem exists_reads (h : r.Blends g flags) :
    ∃ b, Reads g (Assembly.start (Modes.ofFlags flags)) r.source.toList b [] ∧
      b.enclosing = [] ∧ b.groups = r.program.groups.length ∧
      r.program.pattern = b.current.body := by
  rcases Regex.exists_reads_of_compile h.accepted h.unnamed with ⟨hgroups, b, hreads, hb⟩
  refine ⟨b, h.plain.reads ⟨h.unicode.symm, fun hnamed => ?_⟩ ?_ hreads, hb⟩
  · simp [Grammar.hasGroupNames, hgroups] at hnamed
  · rw [hgroups, List.length_replicate]
    exact h.enough

/-- The source adds what is in its own outermost frame. -/
theorem joins (h : r.Blends g flags) (hg : g.CarriesTo g')
    (hcount : g'.groups.length ≤ g.groups.length) :
    ∃ f : Frame, f.body = r.program.pattern ∧
      ReadsIn g' (Modes.ofFlags flags) r.program.groups.length
        (fun base f' => f.Joins base.branches base.terms f') r.source.toList := by
  rcases h.exists_reads with ⟨⟨f, enclosing, count⟩, hreads, henclosing, hcounted, hpattern⟩
  obtain rfl : enclosing = [] := henclosing
  obtain rfl : count = r.program.groups.length := hcounted
  have halone : Reads g ⟨Frame.start .plain 0 (Modes.ofFlags flags), [], 0⟩ r.source.toList
      ⟨f, [], 0 + r.program.groups.length⟩ [] := (Nat.zero_add _).symm ▸ hreads
  exact ⟨f, hpattern.symm, ReadsIn.joins hg hcount h.plain halone⟩

/-- Without a bar outside of all groups the source adds terms that match like its pattern. -/
theorem gains (h : r.Blends g flags) (hg : g.CarriesTo g')
    (hcount : g'.groups.length ≤ g.groups.length) (hbar : r.program.pattern.isEither = false) :
    ReadsIn g' (Modes.ofFlags flags) r.program.groups.length
      (Frame.Gains fun ps => (Pattern.sequence ps).Alike r.program.pattern) r.source.toList := by
  rcases h.joins hg hcount with ⟨f, hbody, hreads⟩
  have hbranches : f.branches = [] := by
    rw [← List.reverse_eq_nil_iff]
    cases hreverse : f.branches.reverse with
    | nil => rfl
    | cons p ps =>
        rw [← hbody, Frame.body, hreverse] at hbar
        cases hbar
  rw [← hbody]
  exact hreads.mono fun base f' hjoins => hjoins.gains hbranches

/-- In parentheses the source adds a term that matches like its pattern in such a group. -/
theorem gains_grouped {kind : GroupKind} {mark : List Char} {q : Pattern}
    (h : r.Blends g flags) (hg : g.CarriesTo g') (hcount : g'.groups.length ≤ g.groups.length)
    (ho : Opens kind mark)
    (hkind : ∀ i p, p.Alike r.program.pattern → (kind.term i p).Alike q) :
    ReadsIn g' (Modes.ofFlags flags) (kind.names.length + r.program.groups.length)
      (Frame.Gains fun ps => (Pattern.sequence ps).Alike q)
      ('(' :: (mark ++ (r.source.toList ++ [')']))) := by
  rcases h.joins hg hcount with ⟨f, hbody, hreads⟩
  refine (hreads.grouped h.fits.head ho).mono fun base f' hencloses => ?_
  rcases Frame.exists_push_of_encloses hencloses with ⟨index, inner, hjoins, -, rfl⟩
  have hinner : inner.body.Alike r.program.pattern := hbody ▸ (Frame.Joins.body hjoins).symm
  exact Frame.Gains.push (Pattern.Alike.singleton_iff.2 (hkind _ _ hinner)) base _

/-- This includes parentheses without a name. -/
theorem gains_enclosed {kind : GroupKind} {mark : List Char} {k : Nat} {q : Pattern}
    (h : r.Blends g flags) (hg : g.CarriesTo g') (hcount : g'.groups.length ≤ g.groups.length)
    (ho : OpensWith kind mark k)
    (hkind : ∀ i p, p.Alike r.program.pattern → (kind.term i p).Alike q) :
    ReadsIn g' (Modes.ofFlags flags) (k + r.program.groups.length)
      (Frame.Gains fun ps => (Pattern.sequence ps).Alike q)
      ('(' :: (mark ++ (r.source.toList ++ [')']))) := by
  rw [← ho.length_names]
  exact h.gains_grouped hg hcount ho.opens hkind

end Regex.Blends

namespace Regex.IsPart

instance (g : Grammar) (flags : Flags) (r : Regex) : Decidable (r.IsPart g flags) :=
  decidable_of_iff (compile r.source flags = .ok r ∧
      (∀ name ∈ r.program.groups, name = none) ∧
      ∀ token ∈ Token.ofSource g r.source.toList, token.isReference = false)
    ⟨fun h => ⟨h.1, h.2.1, h.2.2⟩, fun h => ⟨h.1, h.2, h.3⟩⟩

variable {g g' : Grammar} {flags : Flags} {r : Regex}

/-- The source fits everywhere. -/
theorem fits (h : r.IsPart g' flags) :
    Fits (Modes.ofFlags flags) r.program.groups.length (fun _ _ => True) r.source.toList :=
  Fits.of_compile h.accepted h.unnamed

/-- In a grammar without named groups a part is the same as on its own. -/
theorem blends (h : r.IsPart g flags) (hu : g.unicode = flags.contains .unicode)
    (hn : g.hasGroupNames = false) (hcount : r.program.groups.length ≤ g.groups.length) :
    r.Blends g flags := by
  rcases Regex.exists_reads_of_compile h.accepted h.unnamed with ⟨hgroups, b, hreads, -⟩
  refine ⟨h.accepted, h.unnamed, hu, hcount, ?_⟩
  refine Grammar.ReadsPlainly.of_unreferenced (Grammar.agrees_of_unnamed hgroups hu hn) ?_
    h.unreferenced hreads
  rwa [hgroups, List.length_replicate]

end Regex.IsPart

end RegexComposition
