import Mathlib.Data.List.TakeWhile
import RegexComposition.Fragment.Emission
import RegexComposition.Proofs.Pattern.Context

/-!
# Emissions in context

What a fragment emits still contains marks for the end of the whole expression, each of which
becomes an end anchor or vanishes.  Whatever becomes of the marks, the operations by which
emissions are put together lead from texts that fit everywhere to texts that fit everywhere.

Main results:

- `Emission.Resolves`: a text that an emission can become.
- `Emission.endsInMark`, `Emission.resolve_cases`, `Emission.resolve_append`: which of them is the
  source.
- `Emission.resolves_resolve`: the source of an emission is one of these.
- `Emission.Fills`: an emission that fits everywhere, whatever becomes of its marks.
- `Emission.Fills.sequence`, `Emission.Fills.alternation`, `Emission.Fills.upTo`: the operations
  on emissions.
-/

namespace RegexComposition

namespace Emission

/-- An enclosed emission starts with a parenthesis. -/
theorem head?_enclose (e : Emission) : (chars (enclose e)).head? = some '(' := by
  unfold enclose
  split
  · next hhead => exact hhead
  · simp

/-! ## Resolving marks -/

/-- The text is the emission with some of its marks turned into end anchors and the others left
out. -/
inductive Resolves : Emission → List Char → Prop
  | nil : Resolves [] []
  | char (c : Char) {e : Emission} {text : List Char} :
      Resolves e text → Resolves (.char c :: e) (c :: text)
  | anchor {e : Emission} {text : List Char} :
      Resolves e text → Resolves (.endMark :: e) ('$' :: text)
  | vanish {e : Emission} {text : List Char} : Resolves e text → Resolves (.endMark :: e) text

namespace Resolves

variable {a b e : Emission} {l r text : List Char}

/-- Two emissions can be resolved one after the other. -/
theorem append (ha : Resolves a l) (hb : Resolves b r) : Resolves (a ++ b) (l ++ r) := by
  induction ha with
  | nil => exact hb
  | char c _ ih => exact char c ih
  | anchor _ ih => exact anchor ih
  | vanish _ ih => exact vanish ih

/-- What two emissions become is what each of them becomes. -/
theorem exists_append (h : Resolves (a ++ b) text) :
    ∃ l r, text = l ++ r ∧ Resolves a l ∧ Resolves b r := by
  induction a generalizing text with
  | nil => exact ⟨[], text, rfl, nil, h⟩
  | cons s a ih =>
      rw [List.cons_append] at h
      cases h with
      | char c h =>
          rcases ih h with ⟨l, r, rfl, hl, hr⟩
          exact ⟨c :: l, r, rfl, char c hl, hr⟩
      | anchor h =>
          rcases ih h with ⟨l, r, rfl, hl, hr⟩
          exact ⟨'$' :: l, r, rfl, anchor hl, hr⟩
      | vanish h =>
          rcases ih h with ⟨l, r, rfl, hl, hr⟩
          exact ⟨l, r, rfl, vanish hl, hr⟩

/-- A text without marks becomes nothing else. -/
theorem eq_of_ofChars {chars : List Char} (h : Resolves (Emission.ofChars chars) text) :
    text = chars := by
  induction chars generalizing text with
  | nil =>
      cases h with
      | nil => rfl
  | cons c chars ih =>
      cases h with
      | char _ h => rw [ih h]

/-- The characters alone are what is left when all marks vanish. -/
theorem chars (e : Emission) : Resolves e (Emission.chars e) := by
  induction e with
  | nil => exact nil
  | cons s e ih =>
      cases s with
      | char c => exact char c ih
      | endMark => exact vanish ih

/-- What becomes of an emission between two texts. -/
theorem exists_wrap {before after : String} (h : Resolves (wrap before e after) text) :
    ∃ inner, text = before.toList ++ (inner ++ after.toList) ∧ Resolves e inner := by
  rcases h.exists_append with ⟨l, r, rfl, hl, hr⟩
  rcases hl.exists_append with ⟨l, inner, rfl, hbefore, hinner⟩
  rw [eq_of_ofChars hbefore, eq_of_ofChars hr, List.append_assoc]
  exact ⟨inner, rfl, hinner⟩

/-- An emission whose first character is a parenthesis becomes a text that starts with it or with
an end anchor. -/
theorem stops (h : Resolves e text) (hhead : (Emission.chars e).head? = some '(') :
    Stops text := by
  induction h with
  | nil => exact Stops.nil
  | char c _ _ =>
      obtain rfl : c = '(' := by simpa [Emission.chars, char?] using hhead
      simp [Stops]
  | anchor _ _ => simp [Stops]
  | vanish _ ih => exact ih hhead

end Resolves

/-- Nothing but closing parentheses follow the last mark. -/
def endsInMark (e : Emission) : Bool := (e.reverse.dropWhile isClosing).head? == some .endMark

/-- The last mark becomes an end anchor if only closing parentheses follow it. -/
theorem exists_of_endsInMark {e : Emission} (h : e.endsInMark = true) :
    ∃ (front : Emission) (k : Nat), e = front ++ .endMark :: ofChars (List.replicate k ')') ∧
      resolve e = chars front ++ '$' :: List.replicate k ')' := by
  have hsplit : e = (e.reverse.dropWhile isClosing).reverse ++
      (e.reverse.takeWhile isClosing).reverse := by
    rw [← List.reverse_append, List.takeWhile_append_dropWhile, List.reverse_reverse]
  have hclosings : (e.reverse.takeWhile isClosing).reverse =
      ofChars (List.replicate (e.reverse.takeWhile isClosing).length ')') := by
    rw [ofChars, List.map_replicate, ← List.length_reverse]
    refine List.eq_replicate_of_mem fun s hs => ?_
    simpa [isClosing] using List.all_eq_true.1 List.all_takeWhile s (List.mem_reverse.1 hs)
  obtain ⟨rest, hrest⟩ := List.head?_eq_some_iff.1 (beq_iff_eq.1 h)
  refine ⟨rest.reverse, (e.reverse.takeWhile isClosing).length, ?_, ?_⟩
  · rw [hrest, hclosings, List.reverse_cons, List.append_assoc] at hsplit
    exact hsplit
  · simp only [resolve, hrest, List.map_const']

/-- If anything else follows the last mark, all marks vanish. -/
theorem resolve_eq_chars {e : Emission} (h : e.endsInMark = false) : resolve e = chars e := by
  unfold resolve
  dsimp only
  split
  · next rest hrest =>
      rw [endsInMark, hrest] at h
      cases h
  · rfl

/-- The last mark becomes an end anchor if only closing parentheses follow it; otherwise all marks
vanish. -/
theorem resolve_cases (e : Emission) : resolve e = chars e ∨
    ∃ (front : Emission) (k : Nat), e = front ++ .endMark :: ofChars (List.replicate k ')') ∧
      resolve e = chars front ++ '$' :: List.replicate k ')' := by
  cases h : e.endsInMark with
  | false => exact Or.inl (resolve_eq_chars h)
  | true => exact Or.inr (exists_of_endsInMark h)

/-- The characters of an emission that ends in a mark and closing parentheses. -/
theorem chars_of_anchored (front : Emission) (k : Nat) :
    chars (front ++ .endMark :: ofChars (List.replicate k ')')) =
      chars front ++ List.replicate k ')' := by
  rw [chars_append]
  exact congrArg (chars front ++ ·) (chars_ofChars _)

/-- The source of an emission is what becomes of it. -/
theorem resolves_resolve (e : Emission) : Resolves e (resolve e) := by
  rcases resolve_cases e with heq | ⟨front, k, he, heq⟩
  · rw [heq]
    exact Resolves.chars e
  · rw [heq]
    nth_rewrite 1 [he]
    have hclosings := Resolves.chars (ofChars (List.replicate k ')'))
    rw [chars_ofChars] at hclosings
    exact (Resolves.chars front).append (Resolves.anchor hclosings)

/-- The marks of an emission in front of another one that is more than closing parentheses vanish. -/
theorem resolve_append {e t : Emission} {c : Char} (hc : c ∈ chars t) (hne : c ≠ ')') :
    resolve (e ++ t) = chars e ++ resolve t := by
  have hsome : t.reverse.dropWhile isClosing ≠ [] := by
    rw [Ne, List.dropWhile_eq_nil_iff]
    intro hall
    rcases List.mem_filterMap.1 hc with ⟨s, hs, hsc⟩
    cases s with
    | endMark => cases hsc
    | char d =>
        obtain rfl := Option.some.inj hsc
        have hclosing := hall _ (List.mem_reverse.2 hs)
        simp [isClosing, hne] at hclosing
  have hshort : (t.reverse.takeWhile isClosing).length ≠ t.reverse.length := by
    intro hlength
    have hsplit := congrArg List.length (List.takeWhile_append_dropWhile (p := isClosing)
      (l := t.reverse))
    rw [List.length_append, hlength] at hsplit
    exact hsome (List.eq_nil_of_length_eq_zero (by omega))
  unfold resolve
  dsimp only
  rw [List.reverse_append, List.dropWhile_append, if_neg (by simpa using hsome),
    List.takeWhile_append, if_neg hshort]
  cases hdrop : t.reverse.dropWhile isClosing with
  | nil => exact absurd hdrop hsome
  | cons s rest =>
      cases s with
      | endMark => simp
      | char d => simp

/-! ## Emissions that fit everywhere -/

/-- Whatever becomes of the marks of the emission, the text stops every reader in front of it. -/
def Stopping (e : Emission) : Prop := ∀ text, Resolves e text → Stops text

/-- Whatever becomes of the marks of the emission, the text fits everywhere. -/
def Fills (modes : Modes) (R : Frame → Frame → Prop) (e : Emission) : Prop :=
  ∃ n, ∀ text, Resolves e text → Fits modes n R text

namespace Stopping

/-- The end mark alone stops every reader. -/
theorem endMark : Stopping [.endMark] := by
  intro text h
  cases h with
  | anchor h =>
      cases h
      simp [Stops]
  | vanish h =>
      cases h
      exact Stops.nil

theorem nil : Stopping [] := by
  intro text h
  cases h
  exact Stops.nil

/-- Of two emissions the first one stops every reader, or else the second one. -/
theorem append {a b : Emission} (ha : Stopping a) (hb : Stopping b) : Stopping (a ++ b) := by
  intro text h
  rcases h.exists_append with ⟨l, r, rfl, hl, hr⟩
  cases l with
  | nil => exact hb r hr
  | cons c l => exact ha (c :: l) hl

/-- An emission in parentheses stops every reader. -/
theorem wrap (e : Emission) (after : String) : Stopping (Emission.wrap "(" e after) :=
  fun _ h => h.stops (by simp)

/-- A fragment with alternatives is enclosed in a group. -/
theorem alternation {own : Emission} (h : Stopping own) (branches : List Emission) :
    Stopping (Emission.alternation own branches) := by
  cases branches with
  | nil => exact h
  | cons branch branches =>
      intro text htext
      exact htext.stops (by simp [Emission.alternation, Emission.ofString])

/-- What is repeated or optional is enclosed in a group. -/
theorem apply {e : Emission} (h : Stopping e) {m : Modifiers} (hm : m.negated = false) :
    Stopping (m.apply e) := by
  unfold Modifiers.apply
  dsimp only
  rw [hm]
  have hwrap : ∀ {condition : Prop} [Decidable condition] {e : Emission} (after : String),
      Stopping e → Stopping (if condition then Emission.wrap "(" e after else e) := by
    intro condition _ e after he
    split
    · exact wrap e after
    · exact he
  refine hwrap ")?" ?_
  simp only [Bool.false_eq_true, if_false]
  split
  · exact wrap _ _
  · split
    · exact wrap _ _
    · exact hwrap ")+" h

end Stopping

namespace Fills

variable {modes : Modes} {R R' : Frame → Frame → Prop} {e : Emission}

/-- What an emission does can be described more loosely. -/
theorem mono (h : Fills modes R e) (hR : ∀ f f', R f f' → R' f f') : Fills modes R' e := by
  rcases h with ⟨n, hn⟩
  exact ⟨n, fun text htext => (hn text htext).mono hR⟩

/-- A text without marks. -/
theorem ofChars {n : Nat} {text : List Char} (h : Fits modes n R text) :
    Fills modes R (Emission.ofChars text) :=
  ⟨n, fun _ htext => htext.eq_of_ofChars ▸ h⟩

/-- An emission in parentheses. -/
theorem wrap (h : Fills modes R e) :
    Fills modes (Encloses modes (.capturing none) R) (Emission.wrap "(" e ")") := by
  rcases h with ⟨n, hn⟩
  refine ⟨1 + n, fun text htext => ?_⟩
  rcases htext.exists_wrap with ⟨inner, rfl, hinner⟩
  exact (hn inner hinner).enclosed OpensWith.capturing

/-- An emission in parentheses that is repeated. -/
theorem quantified (h : Fills modes R e) {after : String} {spelled : List Char} {q : Quantifier}
    (hafter : after.toList = ')' :: spelled) (hq : ReadsAs spelled q)
    (hpossible : q.isPossible = true) :
    Fills modes (Repeats modes q R) (Emission.wrap "(" e after) := by
  rcases h with ⟨n, hn⟩
  refine ⟨1 + n, fun text htext => ?_⟩
  rcases htext.exists_wrap with ⟨inner, rfl, hinner⟩
  rw [hafter]
  exact (hn inner hinner).quantified hq hpossible

/-- An emission that is enclosed unless it starts with a parenthesis. -/
theorem enclose (h : Fills modes R e) (hR : ∀ f f', R f f' → R' f f')
    (hR' : ∀ f f', Encloses modes (.capturing none) R f f' → R' f f') :
    Fills modes R' (Emission.enclose e) ∧ Stopping (Emission.enclose e) := by
  unfold Emission.enclose
  split
  · next hhead => exact ⟨h.mono hR, fun _ htext => htext.stops hhead⟩
  · exact ⟨h.wrap.mono hR', Stopping.wrap e ")"⟩

/-- Two emissions one after the other. -/
theorem append {e' : Emission} {R'' : Frame → Frame → Prop} (h : Fills modes R e)
    (h' : Fills modes R' e') (hstops : Stopping e')
    (hR : ∀ f f' f'', R f f' → R' f' f'' → R'' f f'') : Fills modes R'' (e ++ e') := by
  rcases h with ⟨n, hn⟩
  rcases h' with ⟨m, hm⟩
  refine ⟨n + m, fun text htext => ?_⟩
  rcases htext.exists_append with ⟨l, r, rfl, hl, hr⟩
  exact (hn l hl).append (hm r hr) (hstops r hr) hR

section List

variable {ι : Type} {part : ι → Emission} {effect : ι → Frame → Frame → Prop}
variable {T : List ι → Frame → Frame → Prop}

/-- The parts of a composite, each of which has an effect whether it is enclosed or not. -/
theorem sequence {effect' : ι → Frame → Frame → Prop} {items : List ι}
    (h : ∀ i ∈ items, Fills modes (effect i) (part i))
    (hplain : ∀ i f f', effect i f f' → effect' i f f')
    (hgroup : ∀ i f f', Encloses modes (.capturing none) (effect i) f f' → effect' i f f')
    (hnil : ∀ f, T [] f f)
    (hcons : ∀ i is f f' f'', effect' i f f' → T is f' f'' → T (i :: is) f f'') :
    Fills modes (T items) (Emission.sequence (items.map part)) ∧
      Stopping (Emission.sequence (items.map part)) := by
  induction items with
  | nil =>
      exact ⟨ofChars (Fits.nil hnil), Stopping.nil⟩
  | cons i items ih =>
      rcases (h i List.mem_cons_self).enclose (hplain i) (hgroup i) with ⟨hhead, hstops⟩
      rcases ih fun j hj => h j (List.mem_cons_of_mem _ hj) with ⟨hrest, hstops'⟩
      have happend : Emission.sequence ((i :: items).map part) =
          Emission.enclose (part i) ++ Emission.sequence (items.map part) := by
        simp [Emission.sequence]
      rw [happend]
      exact ⟨hhead.append hrest hstops' (hcons i items), hstops.append hstops'⟩

/-- The alternatives of a fragment behind its own part. -/
theorem branches {items : List ι} (h : ∀ i ∈ items, Fills modes (effect i) (part i))
    (hnil : ∀ f, T [] f f)
    (hcons : ∀ i is f f' f'', Encloses modes (.capturing none) (effect i) f.split f' →
      T is f' f'' → T (i :: is) f f'') :
    Fills modes (T items) ((items.map part).flatMap (Emission.wrap "|(" · ")")) ∧
      Stopping ((items.map part).flatMap (Emission.wrap "|(" · ")")) := by
  induction items with
  | nil =>
      exact ⟨ofChars (Fits.nil hnil), Stopping.nil⟩
  | cons i items ih =>
      rcases ih fun j hj => h j (List.mem_cons_of_mem _ hj) with ⟨hrest, hstops⟩
      have hbranch : Fills modes
          (fun f f' => Encloses modes (.capturing none) (effect i) f.split f')
          (Emission.wrap "|(" (part i) ")") := by
        rcases h i List.mem_cons_self with ⟨n, hn⟩
        refine ⟨1 + n, fun text htext => ?_⟩
        rcases htext.exists_wrap with ⟨inner, rfl, hinner⟩
        exact (hn inner hinner).branch
      have hbar : Stopping (Emission.wrap "|(" (part i) ")") := by
        intro text htext
        rcases htext.exists_wrap with ⟨inner, rfl, _⟩
        simp [Stops]
      rw [List.map_cons, List.flatMap_cons]
      exact ⟨hbranch.append hrest hstops (hcons i items), hbar.append hstops⟩

/-- A fragment with alternatives: one group, in which its own part and each alternative are groups
again. -/
theorem alternation {items : List ι} {own : Emission} (hown : Fills modes R own)
    (h : ∀ i ∈ items, Fills modes (effect i) (part i)) (hnil : ∀ f, T [] f f)
    (hcons : ∀ i is f f' f'', Encloses modes (.capturing none) (effect i) f.split f' →
      T is f' f'' → T (i :: is) f f'') (hitems : items ≠ []) :
    Fills modes (Encloses modes (.capturing none) fun f f'' =>
        ∃ f', Encloses modes (.capturing none) R f f' ∧ T items f' f'')
      (Emission.alternation own (items.map part)) := by
  rcases branches h hnil hcons with ⟨hbranches, hstops⟩
  have hinside : Fills modes
      (fun f f'' => ∃ f', Encloses modes (.capturing none) R f f' ∧ T items f' f'')
      (Emission.wrap "(" own ")" ++ (items.map part).flatMap (Emission.wrap "|(" · ")")) :=
    hown.wrap.append hbranches hstops fun f f' f'' h h' => ⟨f', h, h'⟩
  have halternation : Emission.alternation own (items.map part) =
      Emission.wrap "(" (Emission.wrap "(" own ")" ++
        (items.map part).flatMap (Emission.wrap "|(" · ")")) ")" := by
    cases items with
    | nil => exact absurd rfl hitems
    | cons i items =>
        simp [Emission.alternation, Emission.wrap, Emission.ofString, Emission.ofChars]
  rw [halternation]
  exact hinside.wrap

end List

/-- A forward reference over a part and its end mark. -/
theorem upTo {ahead ending : Emission} (direction : UntilDirection) (hahead : Fills modes R ahead)
    (hending : Fills modes R' ending) (hstops : Stopping ending) :
    Fills modes (fun _ _ => True) (Emission.upTo direction ahead ending) := by
  have hmark : Enclosure.startsWithGroupMark (chars ahead) = false := by
    rcases hahead with ⟨n, hn⟩
    have hhead := (hn _ (Resolves.chars ahead)).head
    unfold Enclosure.startsWithGroupMark
    split
    · next heq =>
        rw [heq] at hhead
        exact absurd rfl hhead
    · rfl
  have hbody : Fills modes (fun _ _ => True) (ahead ++ ending) :=
    hahead.append hending hstops fun _ _ _ _ _ => trivial
  rcases hbody with ⟨n, hn⟩
  have hahead' : ∀ inner, Resolves (ahead ++ ending) inner → Fits modes (0 + (0 + n))
      (fun _ _ => True) (['.', '*', '?'] ++ ('(' :: (['?', '='] ++ (inner ++ [')'])))) :=
    fun inner hinner => Fits.lazyDots.append ((hn inner hinner).enclosed OpensWith.lookahead)
      (by simp [Stops]) fun _ _ _ _ _ => trivial
  unfold Emission.upTo
  rw [hmark]
  cases direction with
  | ahead =>
      refine ⟨0 + (0 + n), fun text htext => ?_⟩
      rcases htext.exists_wrap with ⟨inner, rfl, hinner⟩
      exact hahead' inner hinner
  | behind =>
      refine ⟨0 + (0 + (0 + n)), fun text htext => ?_⟩
      rcases htext.exists_wrap with ⟨inner, rfl, hinner⟩
      have hfits : Fits modes (0 + (0 + (0 + n))) (fun _ _ => True) _ :=
        ((hahead' inner hinner).enclosed OpensWith.lookbehind).mono fun _ _ _ => trivial
      simpa using hfits

end Fills

end Emission

end RegexComposition
