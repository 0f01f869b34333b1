import RegexComposition.Proofs.Pattern.Classes
import RegexComposition.Proofs.Pattern.Pairing
import RegexComposition.Proofs.Pattern.SingleCharacter
import RegexComposition.Proofs.Regex.Language

/-!
# Complements of a text

A text between `[^` and `]` is a complement if it ends this class nowhere.  Otherwise the class ends
inside of the text and the rest is read outside, where the parentheses have to match, so that a
further parenthesis behind the text is too much.

Main results:

- `Enclosure.pass`, `Enclosure.closingFrom_append_cases`: a scan up to some place.
- `Enclosure.Pairs.pass_eq`: a text whose parentheses match leads out of every class.
- `ClassText.of_compile`: a text that is accepted with and without a parenthesis is a complement.
- `Regex.complement`, `Regex.exists_items_of_compile`: a complement is one set of characters.
- `Regex.exists_compile_between`: further signs around the text belong to the complement.
-/

namespace RegexComposition

/-! ## A scan up to some place -/

namespace Enclosure

/-- Whether a scan takes the character behind a text for an escaped one, and whether it takes it for
one of a class, if it does so in front of the text. -/
def pass : (escaped inClass : Bool) → List Char → Bool × Bool
  | escaped, inClass, [] => (escaped, inClass)
  | escaped, inClass, c :: rest =>
    if escaped then pass false inClass rest
    else if c = '\\' then pass true inClass rest
    else if c = '[' then pass false true rest
    else if c = ']' then pass false false rest
    else pass false inClass rest

variable {level : Nat} {escaped inClass : Bool} {text l r : List Char}

theorem pass_append (escaped inClass : Bool) (l r : List Char) :
    pass escaped inClass (l ++ r) =
      pass (pass escaped inClass l).1 (pass escaped inClass l).2 r := by
  induction l generalizing escaped inClass with
  | nil => rfl
  | cons c l ih =>
      rw [List.cons_append, pass, pass]
      split_ifs <;> exact ih _ _

/-- A scan finds the closing parenthesis in a character, or it goes on behind it. -/
theorem closingFrom_cons_cases (level : Nat) (escaped inClass : Bool) (c : Char) :
    (∀ rest, closingFrom level escaped inClass (c :: rest) = some 0) ∨
      ∃ level', ∀ rest, closingFrom level escaped inClass (c :: rest) =
        (closingFrom level' (pass escaped inClass [c]).1 (pass escaped inClass [c]).2 rest).map
          (· + 1) := by
  simp only [closingFrom, pass]
  cases escaped with
  | true => exact .inr ⟨level, fun _ => rfl⟩
  | false =>
      simp only [Bool.false_eq_true, if_false]
      by_cases hbackslash : c = '\\'
      · exact .inr ⟨level, fun _ => by simp [hbackslash]⟩
      by_cases hopen : c = '['
      · exact .inr ⟨level, fun _ => by cases inClass <;> simp [hopen]⟩
      by_cases hclose : c = ']'
      · exact .inr ⟨level, fun _ => by cases inClass <;> simp [hclose]⟩
      cases inClass with
      | true => exact .inr ⟨level, fun _ => by simp [hbackslash, hopen, hclose]⟩
      | false =>
          by_cases hopening : c = '('
          · exact .inr ⟨level + 1, fun _ => by simp [hopening]⟩
          by_cases hclosing : c = ')'
          · by_cases hlevel : level ≤ 1
            · exact .inl fun _ => by simp [hclosing, hlevel]
            · exact .inr ⟨level - 1, fun _ => by simp [hclosing, hlevel]⟩
          · exact .inr ⟨level, fun _ => by simp [hbackslash, hopen, hclose, hopening, hclosing]⟩

/-- A scan for a closing parenthesis finds it in a text, or it goes on behind it. -/
theorem closingFrom_append_cases (level : Nat) (escaped inClass : Bool) (l : List Char) :
    (∃ k < l.length, ∀ r, closingFrom level escaped inClass (l ++ r) = some k) ∨
      ∃ level', ∀ r, closingFrom level escaped inClass (l ++ r) =
        (closingFrom level' (pass escaped inClass l).1 (pass escaped inClass l).2 r).map
          (· + l.length) := by
  induction l generalizing level escaped inClass with
  | nil => exact .inr ⟨level, fun r => by simp [pass]⟩
  | cons c l ih =>
      rcases closingFrom_cons_cases level escaped inClass c with hfound | ⟨level', hstep⟩
      · exact .inl ⟨0, Nat.succ_pos _, fun r => hfound (l ++ r)⟩
      have hpass := pass_append escaped inClass [c] l
      rcases ih level' (pass escaped inClass [c]).1 (pass escaped inClass [c]).2 with
        ⟨k, hk, hfound⟩ | ⟨level'', hbehind⟩
      · refine .inl ⟨k + 1, Nat.succ_lt_succ hk, fun r => ?_⟩
        rw [List.cons_append, hstep, hfound]
        rfl
      · refine .inr ⟨level'', fun r => ?_⟩
        rw [List.cons_append, hstep, hbehind, ← hpass, Option.map_map]
        rfl

/-- A text whose parentheses match does not end in a class, nor with a backslash. -/
theorem Pairs.pass_eq (h : Pairs text) : pass false false text = (false, false) := by
  rcases closingFrom_append_cases 1 false false text with ⟨k, hk, hfound⟩ | ⟨level, hbehind⟩
  · have hlength := (hfound [')']).symm.trans h
    exact absurd (Option.some.inj hlength) (Nat.ne_of_lt hk)
  · have hscan := (hbehind [')']).symm.trans h
    generalize pass false false text = mode at hscan ⊢
    obtain ⟨escaped, inClass⟩ := mode
    cases escaped <;> cases inClass <;> simp [closingFrom] at hscan ⊢

/-- Behind its closing bracket a text of a class has left every class. -/
theorem pass_classText (h : ClassText text) (inClass : Bool) :
    pass false inClass text = (false, false) := by
  induction h generalizing inClass with
  | closing => rfl
  | @plain c l hend hescape _ ih =>
      rw [pass, if_neg Bool.false_ne_true, if_neg hescape]
      split_ifs
      · exact ih _
      · exact ih _
  | escaped c _ ih => exact ih inClass

end Enclosure

/-! ## Complements -/

open Enclosure

/-- The source of a class that excludes what the text names. -/
def Regex.complement (text : List Char) : String := String.ofList ('[' :: '^' :: (text ++ [']']))

namespace ClassText

variable {text front after : List Char} {flags : Flags} {r r' : Regex}

/-- Characters that neither end a class nor escape anything can stand in front of a class text. -/
theorem append_front {l : List Char} (hfront : ∀ c ∈ front, c ∉ ['\\', ']']) (h : ClassText l) :
    ClassText (front ++ l) := by
  induction front with
  | nil => exact h
  | cons c front ih =>
      have hc := hfront c List.mem_cons_self
      simp only [List.mem_cons, List.not_mem_nil, or_false, not_or] at hc
      exact plain hc.2 hc.1 (ih fun d hd => hfront d (List.mem_cons_of_mem c hd))

/-- A text that does not end its class can go on with another text there. -/
theorem append_behind {l r : List Char} (h : ClassText (l ++ [']'])) (hr : ClassText r) :
    ClassText (l ++ r) := by
  generalize htext : l ++ [']'] = text at h
  induction h generalizing l with
  | closing =>
      cases l with
      | nil => exact hr
      | cons c l => simp at htext
  | @plain c text hend hescape _ ih =>
      cases l with
      | nil => exact absurd (List.cons.inj htext).1.symm hend
      | cons d l =>
          obtain ⟨rfl, hrest⟩ := List.cons.inj htext
          exact plain hend hescape (ih hrest)
  | @escaped c text htail ih =>
      match l with
      | [] => cases htext
      | [d] =>
          obtain ⟨-, rfl⟩ := List.cons.inj (List.cons.inj htext).2
          cases htail
      | d :: e :: l =>
          obtain ⟨rfl, hbehind⟩ := List.cons.inj htext
          obtain ⟨rfl, hrest⟩ := List.cons.inj hbehind
          exact escaped _ (ih hrest)

/-- Further characters around a text that does not end its class belong to the class. -/
theorem between {back : List Char} (h : ClassText (text ++ [']']))
    (hsigns : ∀ c ∈ front ++ back, c ∉ ['\\', ']']) :
    ClassText (front ++ (text ++ back) ++ [']']) := by
  have hbehind := h.append_behind (closing.append_front fun c hc =>
    hsigns c (List.mem_append_right _ hc))
  have hall := hbehind.append_front fun c hc => hsigns c (List.mem_append_left _ hc)
  rwa [← List.append_assoc text, ← List.append_assoc front] at hall

/-- The class at the begin of an accepted complement ends somewhere. -/
theorem exists_take_of_compile
    (h : Regex.compile (String.ofList ('[' :: '^' :: text)) flags = .ok r) :
    ∃ n ≤ text.length, ClassText (text.take n) := by
  rcases Program.read_eq_ok_iff.1 (Regex.of_compile h).1 with ⟨-, -, b, hreads, -⟩
  rw [String.toList_ofList] at hreads
  rcases hclass : Token.classOf (Program.grammar (String.ofList ('[' :: '^' :: text)) flags) true
    text with ⟨token, extra⟩
  rcases hreads.exists_of_cons hclass (Nat.zero_le _) with ⟨d, hstep, -⟩
  unfold Token.classOf at hclass
  split at hclass
  · next items hitems =>
      have hend := ClassAtom.classText_readAll rfl (ClassAtom.fault_notMem_of_items hitems)
      exact ⟨_, hend.2.1, by simpa using hend.2.2⟩
  · exact absurd (Prod.mk.inj hclass).1.symm (Assembly.ne_fault_of_step hstep _)

/-- A scan goes on behind a class. -/
theorem closingFrom_bracket {l : List Char} (h : ClassText l) (level : Nat) (after : List Char) :
    closingFrom level false false ('[' :: (l ++ after)) =
      (closingFrom level false false after).map (· + (l.length + 1)) := by
  have hopening : closingFrom level false false ('[' :: (l ++ after)) =
      (closingFrom level false true (l ++ after)).map (· + 1) := by simp [closingFrom]
  rw [hopening, closingFrom_class level h, Option.map_map]
  rfl

/-- A text that leads out of every class, and that is accepted as a complement, belongs to one class;
or else it goes on behind the class with a text whose parentheses match. -/
theorem or_exists_of_compile (hpass : pass false false text = (false, false))
    (h : Regex.compile (Regex.complement text) flags = .ok r) : ClassText (text ++ [']']) ∨
      ∃ inside rest, text = inside ++ rest ∧ ClassText inside ∧ Pairs rest := by
  rcases exists_take_of_compile h with ⟨n, hn, hclass⟩
  rcases Nat.lt_or_ge text.length n with hwhole | hinside
  · rw [List.take_of_length_le (by simpa [Nat.succ_le_iff] using hwhole)] at hclass
    exact .inl hclass
  rw [List.take_append_of_le_length hinside] at hclass
  refine .inr ⟨text.take n, text.drop n, (List.take_append_drop n text).symm, hclass, ?_⟩
  have hrest : pass false false (text.drop n) = (false, false) := by
    rw [← List.take_append_drop n text, pass_append, pass_classText hclass] at hpass
    exact hpass
  have hcaret : ClassText ('^' :: text.take n) := .plain (by decide) (by decide) hclass
  have hscan := closingFrom_bracket hcaret 1 (text.drop n ++ [']', ')'])
  have hpairs := Pairs.of_compile h
  have hsplit : (Regex.complement text).toList ++ [')'] =
      '[' :: ('^' :: text.take n ++ (text.drop n ++ [']', ')'])) := by
    simp only [Regex.complement, String.toList_ofList, List.cons_append, List.append_assoc]
    rw [← List.append_assoc (text.take n), List.take_append_drop]
    rfl
  have hlength := congrArg List.length hsplit
  rw [Pairs, hsplit, hscan] at hpairs
  rcases Option.map_eq_some_iff.1 hpairs with ⟨k, hk, hsum⟩
  simp only [List.length_cons, List.length_append, List.length_nil] at hlength hsum
  -- From where the class ends up to the bracket in the complement no parenthesis is left open.
  rcases closingFrom_append_cases 1 false false (text.drop n) with
    ⟨j, hj, hfound⟩ | ⟨level, hbehind⟩
  · rw [hfound] at hk
    have hjk := Option.some.inj hk
    omega
  · rw [hbehind, hrest] at hk
    have hlevel : level ≤ 1 := by
      by_contra hdeep
      simp [closingFrom, hdeep] at hk
    rw [Pairs, hbehind, hrest]
    simp [closingFrom, hlevel]

/-- A text that leads out of every class, and that is accepted as a complement, belongs to one class
unless the scan over another complement with it passes over the text. -/
theorem of_closingFrom_ne (hpass : pass false false text = (false, false))
    (h : Regex.compile (Regex.complement text) flags = .ok r) (hfront : ∀ c ∈ front, c ∉ ['\\', ']'])
    {level : Nat} (hlevel : 0 < level) (after : List Char)
    (hscan : closingFrom level false false ('[' :: '^' :: (front ++ (text ++ after))) ≠
      (closingFrom level false false after).map (· + (front.length + text.length + 2))) :
    ClassText (text ++ [']']) := by
  rcases or_exists_of_compile hpass h with hclass | ⟨inside, rest, rfl, hclass, hrest⟩
  · exact hclass
  · have hcaret : ClassText ('^' :: (front ++ inside)) :=
      .plain (by decide) (by decide) (hclass.append_front hfront)
    have hpassed := closingFrom_bracket hcaret level (rest ++ after)
    rw [hrest.closingFrom_append hlevel, Option.map_map] at hpassed
    refine absurd ?_ hscan
    rw [List.append_assoc, ← List.append_assoc front]
    refine hpassed.trans (congrArg (Option.map · _) (funext fun k => ?_))
    simp only [Function.comp_apply, List.length_cons, List.length_append]
    omega

/-- A text that leads out of every class belongs to one class if it is accepted as a complement with
and without a closing parenthesis behind it. -/
theorem of_compile (hpass : pass false false text = (false, false))
    (h : Regex.compile (Regex.complement text) flags = .ok r) (hfront : ∀ c ∈ front, c ∉ ['\\', ']'])
    (h' : Regex.compile (Regex.complement (front ++ (text ++ ')' :: after))) flags = .ok r') :
    ClassText (text ++ [']']) := by
  refine of_closingFrom_ne hpass h hfront Nat.one_pos (')' :: (after ++ [']', ')'])) ?_
  have hpairs := Pairs.of_compile h'
  have hsource : (Regex.complement (front ++ (text ++ ')' :: after))).toList ++ [')'] =
      '[' :: '^' :: (front ++ (text ++ ')' :: (after ++ [']', ')']))) := by
    simp [Regex.complement]
  have hlength := congrArg List.length hsource
  have hclosing : closingFrom 1 false false (')' :: (after ++ [']', ')'])) = some 0 := rfl
  rw [Pairs, hsource] at hpairs
  rw [hpairs, hclosing]
  intro heq
  have hsum := Option.some.inj heq
  simp only [List.length_cons, List.length_append, List.length_nil] at hlength
  dsimp only at hsum
  omega

/-- The same is true if the complement with the parenthesis is optional. -/
theorem of_compile_optional (hpass : pass false false text = (false, false))
    (h : Regex.compile (Regex.complement text) flags = .ok r) (hfront : ∀ c ∈ front, c ∉ ['\\', ']'])
    (h' : Regex.compile (String.ofList ('(' :: ((Regex.complement
      (front ++ (text ++ [')', '+']))).toList ++ [')', '?']))) flags = .ok r') :
    ClassText (text ++ [']']) := by
  refine of_closingFrom_ne hpass h hfront Nat.two_pos [')', '+', ']', ')', '?', ')'] ?_
  have hpairs := Pairs.of_compile h'
  rw [String.toList_ofList] at hpairs
  have hsource : (Regex.complement (front ++ (text ++ [')', '+']))).toList ++ [')', '?'] ++ [')'] =
      '[' :: '^' :: (front ++ (text ++ [')', '+', ']', ')', '?', ')'])) := by
    simp [Regex.complement]
  have hlength := congrArg List.length hsource
  have hopening : ∀ l, closingFrom 1 false false ('(' :: l) =
      (closingFrom 2 false false l).map (· + 1) := fun _ => rfl
  have hclosing : closingFrom 2 false false [')', '+', ']', ')', '?', ')'] = some 3 := rfl
  rw [Pairs, List.cons_append, hsource, hopening] at hpairs
  rw [hclosing]
  intro heq
  rw [heq] at hpairs
  have hsum := Option.some.inj hpairs
  simp only [List.length_cons, List.length_append, List.length_nil] at hlength hsum
  omega

end ClassText

namespace Regex

variable {text front back : List Char} {flags : Flags} {r : Regex} {items : List ClassItem}

/-- How a source without groups is read. -/
def ungrouped (flags : Flags) : Grammar := ⟨flags.contains .unicode, []⟩

/-- A complement declares no groups. -/
theorem grammar_complement (h : ClassText (text ++ [']'])) (flags : Flags) :
    Program.grammar (complement text) flags = ungrouped flags := by
  have hcaret : ClassText ('^' :: (text ++ [']'])) := .plain (by decide) (by decide) h
  have hdeclared : GroupName.declared ('[' :: '^' :: (text ++ [']'])) = [] := by
    have hscan := @groupScan_class GroupName.entry _ [] hcaret
    rw [List.append_nil] at hscan
    rw [GroupName.declared, GroupName.declaredFrom_eq_groupScan]
    exact hscan
  rw [Program.grammar, complement, String.toList_ofList, hdeclared]
  rfl

/-- The atoms of a complement. -/
def atomsOf (flags : Flags) (text : List Char) : List ClassAtom :=
  (ClassAtom.readAll (ungrouped flags) (text ++ [']']) 0).1

/-- The atoms of the class that the source is, if it is a complement. -/
def excludedAtoms (r : Regex) : List ClassAtom :=
  (ClassAtom.readAll (ungrouped r.flags) (r.source.toList.drop 2) 0).1

theorem excludedAtoms_eq (hsource : r.source = complement text) :
    r.excludedAtoms = atomsOf r.flags text := by
  rw [excludedAtoms, hsource, complement, String.toList_ofList]
  rfl

/-- Where a text ends its class at the end only, its atoms take up all of it. -/
theorem readAll_complement (h : ClassText (text ++ [']']))
    (hatoms : ∀ cause, .fault cause ∉ atomsOf flags text) :
    ClassAtom.readAll (ungrouped flags) (text ++ [']']) 0 = (atomsOf flags text, text.length + 1) := by
  have hread := ClassAtom.readAll_inside (s := [']']) (Grammar.CarriesTo.refl (ungrouped flags))
    (by simp [Stops]) h hatoms
  rw [hread]
  have hend : ClassAtom.readAll (ungrouped flags) [']'] 0 = ([], 1) := rfl
  rw [hend, List.append_nil, Nat.add_comm 1]
  rfl

/-- A complement is one token for the characters that its atoms name. -/
theorem readAt_complement (h : ClassText (text ++ [']']))
    (hitems : ClassAtom.items (flags.contains .unicode) (atomsOf flags text) = .ok items)
    {g : Grammar} (hg : (ungrouped flags).CarriesTo g) :
    Token.readAt g '[' ('^' :: (text ++ [']'])) = (.set items true, text.length + 2) := by
  have hclass : Token.classOf (ungrouped flags) true (text ++ [']']) =
      (.set items true, text.length + 2) := by
    rw [Token.classOf, readAll_complement h (ClassAtom.fault_notMem_of_items hitems)]
    simp only [ungrouped, hitems]
    rfl
  have hsame := Token.classOf_append hg Stops.nil hclass (by simp)
  rw [List.append_nil] at hsame
  exact hsame

/-- A text that ends its class at the end only is accepted as a complement of the characters that its
atoms name. -/
theorem exists_compile_complement (h : ClassText (text ++ [']']))
    (hitems : ClassAtom.items (flags.contains .unicode) (atomsOf flags text) = .ok items) :
    ∃ r, compile (complement text) flags = .ok r ∧ r.program.pattern =
      .sequence [.char ⟨(Modes.ofFlags flags).caseMode, items, true⟩] := by
  refine exists_compile_set ?_
  have hread := readAt_complement h hitems (Grammar.CarriesTo.refl _)
  rw [grammar_complement h, complement, String.toList_ofList, Token.ofSource_cons hread,
    List.drop_of_length_le (by simp)]
  rfl

/-- What an accepted complement excludes. -/
theorem exists_items_of_compile (h : ClassText (text ++ [']']))
    (hcompile : compile (complement text) flags = .ok r) :
    ∃ items, ClassAtom.items (flags.contains .unicode) (atomsOf flags text) = .ok items ∧
      r.program.pattern = .sequence [.char ⟨(Modes.ofFlags flags).caseMode, items, true⟩] := by
  rcases Program.read_eq_ok_iff.1 (of_compile hcompile).1 with ⟨-, -, b, hreads, -⟩
  have hclass : Token.readAt (ungrouped flags) '[' ('^' :: (text ++ [']'])) =
      Token.classOf (ungrouped flags) true (text ++ [']']) := rfl
  rw [grammar_complement h, complement, String.toList_ofList] at hreads
  rcases hreads.exists_of_cons hclass (Nat.zero_le _) with ⟨d, hstep, -⟩
  cases hitems : ClassAtom.items (flags.contains .unicode) (atomsOf flags text) with
  | ok items =>
      rcases exists_compile_complement h hitems with ⟨r', hcompile', hpattern⟩
      obtain rfl := Except.ok.inj (hcompile.symm.trans hcompile')
      exact ⟨items, rfl, hpattern⟩
  | error e =>
      have hfault : (Token.classOf (ungrouped flags) true (text ++ [']'])).1 = .fault e := by
        have hitems' : ClassAtom.items (ungrouped flags).unicode
          (ClassAtom.readAll (ungrouped flags) (text ++ [']']) 0).1 = .error e := hitems
        rw [Token.classOf]
        simp only [hitems']
      exact absurd hfault (Assembly.ne_fault_of_step hstep e)

/-- A complement refers to no groups, whatever groups there are without a name. -/
theorem refersByNames_complement (h : ClassText (text ++ [']']))
    (hcompile : compile (complement text) flags = .ok r) {g : Grammar}
    (hg : (ungrouped flags).CarriesTo g) : g.RefersByNames (complement text).toList := by
  rcases exists_items_of_compile h hcompile with ⟨items, hitems, -⟩
  intro spelled hspelled href
  rw [complement, String.toList_ofList, Token.spelledFrom_cons (readAt_complement h hitems hg),
    List.drop_of_length_le (by simp)] at hspelled
  obtain rfl := List.mem_singleton.1 hspelled
  cases href

/-- An optional group around a complement matches what the complement matches, and the empty text. -/
theorem exists_compile_optional_complement (h : ClassText (text ++ [']']))
    (hcompile : compile (complement text) flags = .ok r) :
    ∃ r', compile (String.ofList ('(' :: ((complement text).toList ++ [')', '?']))) flags = .ok r' ∧
      r'.language = r.language + 1 := by
  have hg : (ungrouped flags).CarriesTo (Program.grammar
      (String.ofList ('(' :: ((complement text).toList ++ [')']))) flags) := by
    have hprecedes := (precedes_captured hcompile [] rfl).2
    rw [grammar_complement h] at hprecedes
    exact hprecedes.carriesTo
  rcases exists_compile_optional hcompile (refersByNames_complement h hcompile hg) with
    ⟨r', i, hcompile', hpattern⟩
  exact ⟨r', hcompile', language_optional hpattern⟩

/-- In a complement signs that mean nothing there can stand around a text that starts with a
parenthesis, unless it ends with a hyphen.  They are excluded as well. -/
theorem exists_compile_between (h : ClassText (text ++ [']']))
    (hcompile : compile (complement text) flags = .ok r) (hhead : text.head? = some '(')
    (hlast : (atomsOf flags text).getLast? ≠ some .hyphen)
    (hsigns : ∀ c ∈ front ++ back, c.toNat < 65 ∧ c ∉ ['-', '\\', ']'])
    (hstops : Stops (back ++ [']'])) :
    ∃ r', compile (complement (front ++ (text ++ back))) flags = .ok r' ∧
      r'.language = r.languageWithout (front ++ back) := by
  rcases exists_items_of_compile h hcompile with ⟨items, hitems, hpattern⟩
  have hplain : ∀ c ∈ front ++ back, c ∉ ['-', '\\', ']'] := fun c hc => (hsigns c hc).2
  have hfront : ∀ c ∈ front, c ∉ ['-', '\\', ']'] := fun c hc =>
    hplain c (List.mem_append_left _ hc)
  have hback : ∀ c ∈ back, c ∉ ['-', '\\', ']'] := fun c hc =>
    hplain c (List.mem_append_right _ hc)
  have hclass := h.between fun c hc hmem => hplain c hc (List.mem_cons_of_mem _ hmem)
  have hatoms : atomsOf flags (front ++ (text ++ back)) = front.map (fun c => .code c.toNat) ++
      (atomsOf flags text ++ back.map (fun c => .code c.toNat)) := by
    have hinside := ClassAtom.readAll_inside (Grammar.CarriesTo.refl (ungrouped flags)) hstops h
      (ClassAtom.fault_notMem_of_items hitems)
    have hend : ClassAtom.readAll (ungrouped flags) [']'] 0 = ([], 1) := rfl
    rw [atomsOf, List.append_assoc, List.append_assoc, ClassAtom.readAll_plain hfront, hinside,
      ClassAtom.readAll_plain hback, hend, List.append_nil]
    rfl
  have hhead' : (atomsOf flags text ++ back.map (fun c => ClassAtom.code c.toNat)).head? ≠
      some .hyphen := by
    rcases List.head?_eq_some_iff.1 hhead with ⟨rest, rfl⟩
    have hfirst : atomsOf flags ('(' :: rest) =
        .code 40 :: (ClassAtom.readAll (ungrouped flags) (rest ++ [']']) 0).1 := rfl
    simp [hfirst]
  have hitems' := ClassAtom.items_front (ClassAtom.items_behind hitems hlast back) hhead' front
  rw [← hatoms] at hitems'
  rcases exists_compile_complement hclass hitems' with ⟨r', hcompile', hpattern'⟩
  refine ⟨r', hcompile', ?_⟩
  ext w
  rw [language_char hpattern', languageWithout, language_char hpattern]
  constructor
  · rintro ⟨c, hc, rfl⟩
    rcases (CharSet.contains_between (fun d hd => (hsigns d hd).1) c).1 hc with ⟨hin, hother⟩
    exact ⟨⟨c, hin, rfl⟩, by simpa using hother⟩
  · rintro ⟨⟨c, hc, rfl⟩, hother⟩
    exact ⟨c, (CharSet.contains_between (fun d hd => (hsigns d hd).1) c).2
      ⟨hc, hother c List.mem_cons_self⟩, rfl⟩

end Regex

end RegexComposition
