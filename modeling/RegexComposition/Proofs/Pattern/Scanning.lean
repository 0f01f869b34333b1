import RegexComposition.Pattern.Enclosure
import RegexComposition.Proofs.Pattern.Spelling

/-!
# Scans over a pattern source

Three scans go through a pattern source without reading it: for the spelled names of its groups,
for their names, and for the parenthesis that closes a group.  Each of them passes over a source
token by token, because of how tokens are spelled.

Main results:

- `groupScan`: the form that both scans for groups have.
- `SpelledName.ofSourceFrom_append`, `GroupName.declaredFrom_readAt`: a scan for groups finds
  exactly the group that a token opens.
- `Enclosure.closingFrom_append`: the scan for a closing parenthesis follows the nesting of the
  tokens.
-/

namespace RegexComposition

/-! ## Opening parentheses -/

/-- What is spelled after the parenthesis of an opening opens and closes nothing. -/
theorem Token.eq_cons_of_opening {kind : GroupKind} {l r : List Char}
    (h : (opening kind).Spelling l r) : ∃ tail, l = '(' :: tail ∧ NeutralText tail := by
  cases kind with
  | capturing name =>
      cases name with
      | none =>
          rcases h with ⟨hl, _⟩
          exact ⟨[], hl, NeutralText.nil⟩
      | some name =>
          rcases h with ⟨spelled, hl, hspelled, _, _⟩
          exact ⟨_, hl, NeutralText.inert (by decide) (NeutralText.inert (by decide)
            (hspelled.append (NeutralText.nameEnd NeutralText.nil)))⟩
  | plain | modified | look =>
      rcases h with ⟨mark, hl, hmark, _⟩
      exact ⟨_, hl, NeutralText.inert (by decide) hmark⟩

/-! ## Scans for groups -/

/-- A scan for capturing groups.  The first argument says which group is opened by a parenthesis
in front of a text, and how many characters of that text belong to the opening. -/
def groupScan (entry : List Char → Option (Option String × Nat)) (inClass : Bool) :
    List Char → Nat → List (Option String)
  | [], _ => []
  | _ :: rest, skip + 1 => groupScan entry inClass rest skip
  | c :: rest, 0 =>
    if c = '\\' then groupScan entry inClass rest 1
    else if inClass then groupScan entry (c != ']') rest 0
    else if c = '[' then groupScan entry true rest 0
    else if c = '(' then
      match entry rest with
      | some (name, n) => name :: groupScan entry false rest n
      | none => groupScan entry false rest 0
    else groupScan entry false rest 0

section groupScan

variable {entry : List Char → Option (Option String × Nat)} {l r : List Char}

/-- What a scan passes over can be left out. -/
theorem groupScan_skip (inClass : Bool) (text : List Char) (skip : Nat) :
    groupScan entry inClass text skip = groupScan entry inClass (text.drop skip) 0 := by
  induction text generalizing skip with
  | nil => cases skip <;> simp [groupScan]
  | cons c rest ih =>
      cases skip with
      | zero => rfl
      | succ skip => exact ih skip

/-- A neutral text opens no group. -/
theorem groupScan_neutral (h : NeutralText l) :
    groupScan entry false (l ++ r) 0 = groupScan entry false r 0 := by
  induction h with
  | nil => rfl
  | @inert c l hc _ ih =>
      simp only [IsInert, List.mem_cons, List.not_mem_nil, or_false, not_or] at hc
      rw [List.cons_append, groupScan, if_neg hc.1, if_neg (by simp), if_neg hc.2.1,
        if_neg hc.2.2.2.1]
      exact ih
  | nameEnd _ ih => exact ih
  | escaped c _ ih => exact ih

/-- A class opens no group. -/
theorem groupScan_class (h : ClassText l) :
    groupScan entry true (l ++ r) 0 = groupScan entry false r 0 := by
  induction h with
  | closing => rfl
  | @plain c l hend hescape _ ih =>
      rw [List.cons_append, groupScan, if_neg hescape, if_pos rfl, bne_iff_ne.2 hend]
      exact ih
  | escaped c _ ih => exact ih

namespace Token

/-- A token that is no opening parenthesis opens no group. -/
theorem groupScan_append {token : Token} (h : token.Spelling l r)
    (hopening : ∀ kind, token ≠ opening kind) :
    groupScan entry false (l ++ r) 0 = groupScan entry false r 0 := by
  cases token with
  | opening kind => exact absurd rfl (hopening kind)
  | closing =>
      obtain rfl : l = [')'] := h
      rfl
  | set items negated =>
      rcases h with h | rfl | ⟨rfl, hnext⟩ | ⟨body, rfl, hbody⟩
      · exact groupScan_neutral h
      · rfl
      · -- The scan takes the lone backslash for an escape of the letter after it.
        rcases List.head?_eq_some_iff.1 hnext with ⟨rest, rfl⟩
        rfl
      · exact groupScan_class hbody
  | dot | lineStart | lineEnd | wordBoundary | backreference | bar | quantifier | looseBrace
  | fault => exact groupScan_neutral h

/-- An opening parenthesis opens the group that the scan makes of it. -/
theorem groupScan_opening {kind : GroupKind} {name? : Option (Option String)}
    (h : (opening kind).Spelling ('(' :: l) r)
    (hentry : entry (l ++ r) = name?.map (·, l.length)) :
    groupScan entry false ('(' :: l ++ r) 0 = name?.toList ++ groupScan entry false r 0 := by
  have hscan : groupScan entry false ('(' :: (l ++ r)) 0 =
      match entry (l ++ r) with
      | some (name, n) => name :: groupScan entry false (l ++ r) n
      | none => groupScan entry false (l ++ r) 0 := rfl
  rw [List.cons_append, hscan, hentry]
  cases name? with
  | some name =>
      show name :: groupScan entry false (l ++ r) l.length = _
      rw [groupScan_skip, List.drop_left]
      rfl
  | none =>
      rcases eq_cons_of_opening h with ⟨tail, hl, hneutral⟩
      rw [(List.cons.inj hl).2]
      exact groupScan_neutral hneutral

end Token

end groupScan

/-! ## Spelled names -/

namespace SpelledName

/-- The group that a parenthesis in front of a text opens, with its name as the text spells
it. -/
def entry (text : List Char) : Option (Option String × Nat) :=
  if text.head? ≠ some '?' then some (none, 0)
  else if startsName text then
    let name := (text.drop 2).takeWhile (· != '>')
    some (some (String.ofList name), name.length + 3)
  else none

/-- The scan for spelled names is a scan for groups. -/
theorem ofSourceFrom_eq_groupScan (inClass : Bool) (text : List Char) (skip : Nat) :
    ofSourceFrom inClass text skip = groupScan entry inClass text skip := by
  induction text generalizing inClass skip with
  | nil => cases skip <;> rfl
  | cons c rest ih =>
      cases skip with
      | succ skip => exact ih inClass skip
      | zero =>
          simp only [ofSourceFrom, groupScan, entry, ih]
          split_ifs <;> rfl

/-- The group that a token opens, with its name as the token spells it. -/
def ofToken (token : Token) (spelling : List Char) : Option (Option String) :=
  match token with
  | .opening (.capturing none) => some none
  | .opening (.capturing (some _)) => some (some (String.ofList ((spelling.drop 3).dropLast)))
  | _ => none

/-- The scan reports the group that a token opens. -/
theorem ofSourceFrom_append {token : Token} {l r : List Char} (h : token.Spelling l r) :
    ofSourceFrom false (l ++ r) 0 = (ofToken token l).toList ++ ofSourceFrom false r 0 := by
  rw [ofSourceFrom_eq_groupScan, ofSourceFrom_eq_groupScan]
  cases token with
  | opening kind =>
      cases kind with
      | capturing name =>
          cases name with
          | none =>
              rcases id h with ⟨rfl, hnext⟩
              refine Token.groupScan_opening h ?_
              rw [List.nil_append, entry, if_pos hnext]
              rfl
          | some name =>
              rcases id h with ⟨spelled, rfl, hspelled, hfree, hstarts⟩
              refine Token.groupScan_opening h ?_
              have htext : '?' :: '<' :: (spelled ++ ['>']) ++ r =
                  '?' :: '<' :: (spelled ++ '>' :: r) := by simp
              rw [htext, entry, if_neg (by simp), if_pos hstarts]
              simp [ofToken, takeWhile_ne_of_notMem hfree]
      | plain | modified | look =>
          rcases id h with ⟨mark, rfl, _, hmark, hlook⟩
          refine Token.groupScan_opening h ?_
          rw [entry, if_neg (by simp), if_neg]
          · rfl
          · -- Behind `<` only the marks of the lookbehinds start no name.
            cases mark with
            | nil => exact absurd rfl hmark
            | cons c tail =>
                by_cases hc : c = '<'
                · subst hc
                  rcases hlook rfl with hmark | hmark
                  · obtain rfl := (List.cons.inj hmark).2
                    simp [startsName]
                  · obtain rfl := (List.cons.inj hmark).2
                    simp [startsName]
                · simp [startsName, hc]
  | closing | set | dot | lineStart | lineEnd | wordBoundary | backreference | bar | quantifier
  | looseBrace | fault =>
      exact Token.groupScan_append h fun kind => by simp

end SpelledName

/-! ## Declared names -/

namespace GroupName

/-- The group that a parenthesis in front of a text opens, with its name. -/
def entry (text : List Char) : Option (Option String × Nat) :=
  match text with
  | '?' :: '<' :: inside => (read? inside).map fun (name, n) => (some name, n + 2)
  | '?' :: _ => none
  | _ => some (none, 0)

/-- The scan for the names of groups is a scan for groups. -/
theorem declaredFrom_eq_groupScan (inClass : Bool) (text : List Char) (skip : Nat) :
    declaredFrom inClass text skip = groupScan entry inClass text skip := by
  induction text generalizing inClass skip with
  | nil => cases skip <;> rfl
  | cons c rest ih =>
      cases skip with
      | succ skip => exact ih inClass skip
      | zero =>
          simp only [declaredFrom, groupScan, ih]
          split_ifs
          · rfl
          · rfl
          · rfl
          · unfold entry
            split
            · split <;> simp [*]
            · simp
            · simp
          · rfl

/-- The group that a token opens. -/
def ofToken : Token → Option (Option String)
  | .opening (.capturing name) => some name
  | _ => none

/-- What can be read after an opening parenthesis is the group that the scan finds there. -/
theorem entry_of_readOpening {text : List Char} {kind : GroupKind} {n : Nat}
    (h : Token.readOpening text = (.opening kind, n)) :
    entry text = (ofToken (.opening kind)).map (·, n) := by
  unfold Token.readOpening at h
  split at h
  case h_6 inside _ _ =>
      split at h
      · next name k hread =>
          rcases Prod.mk.inj h with ⟨hkind, rfl⟩
          obtain rfl := Token.opening.inj hkind
          simp [entry, ofToken, hread]
      · exact absurd (Prod.mk.inj h).1 (by simp)
  case h_7 hlook =>
      split at h
      · next kind' k hread =>
          rcases Prod.mk.inj h with ⟨hkind, rfl⟩
          obtain rfl := Token.opening.inj hkind
          rcases Token.neutralFor_readModifiers? hread with ⟨⟨on, off, rfl⟩, _⟩
          unfold entry
          split
          · next inside htext => exact absurd (List.cons.inj htext).2 (hlook inside)
          · rfl
          · next hnext => exact absurd rfl (hnext _)
      · exact absurd (Prod.mk.inj h).1 (by simp)
  case h_8 hplain =>
      rcases Prod.mk.inj h with ⟨hkind, rfl⟩
      obtain rfl := Token.opening.inj hkind
      unfold entry
      split
      · exact absurd rfl (hplain _)
      · exact absurd rfl (hplain _)
      · rfl
  all_goals
    rcases Prod.mk.inj h with ⟨hkind, rfl⟩
    obtain rfl := Token.opening.inj hkind
    simp [entry, ofToken, read?_of_lookbehind]

/-- The scan reports the group that a token opens. -/
theorem declaredFrom_readAt {g : Grammar} {c : Char} {rest : List Char} {token : Token}
    {extra : Nat} (h : Token.readAt g c rest = (token, extra))
    (ht : ∀ cause, token ≠ .fault cause) :
    declaredFrom false (c :: rest) 0 =
      (ofToken token).toList ++ declaredFrom false (rest.drop extra) 0 := by
  rcases Token.spelling_readAt h ht with ⟨hlength, hspelling⟩
  have htext : c :: rest.take extra ++ rest.drop extra = c :: rest := by simp
  rw [declaredFrom_eq_groupScan, declaredFrom_eq_groupScan, ← htext]
  cases token with
  | opening kind =>
      rcases Token.eq_cons_of_opening hspelling with ⟨tail, hl, _⟩
      obtain rfl := (List.cons.inj hl).1
      refine Token.groupScan_opening hspelling ?_
      rw [List.take_append_drop, List.length_take, Nat.min_eq_left hlength]
      exact entry_of_readOpening h
  | closing | set | dot | lineStart | lineEnd | wordBoundary | backreference | bar | quantifier
  | looseBrace | fault =>
      exact Token.groupScan_append hspelling fun kind => by simp

end GroupName

/-! ## The closing parenthesis -/

namespace Enclosure

variable {l r : List Char}

/-- A neutral text leaves the nesting alone. -/
theorem closingFrom_neutral (level : Nat) (h : NeutralText l) :
    closingFrom level false false (l ++ r) =
      (closingFrom level false false r).map (· + l.length) := by
  induction h with
  | nil => simp
  | @inert c l hc _ ih =>
      simp only [IsInert, List.mem_cons, List.not_mem_nil, or_false, not_or] at hc
      rw [List.cons_append, closingFrom]
      simp [hc, ih, Function.comp_def, Nat.add_assoc]
  | nameEnd _ ih =>
      rw [List.cons_append, closingFrom]
      simp [ih, Function.comp_def, Nat.add_assoc]
  | escaped c _ ih =>
      rw [List.cons_append, closingFrom]
      simp [closingFrom, ih, Function.comp_def, Nat.add_assoc]

/-- A class leaves the nesting alone. -/
theorem closingFrom_class (level : Nat) (h : ClassText l) :
    closingFrom level false true (l ++ r) =
      (closingFrom level false false r).map (· + l.length) := by
  induction h with
  | closing => simp [closingFrom]
  | @plain c l hend hescape _ ih =>
      rw [List.cons_append, closingFrom]
      simp [hend, hescape, ih, Function.comp_def, Nat.add_assoc]
  | escaped c _ ih =>
      rw [List.cons_append, closingFrom]
      simp [closingFrom, ih, Function.comp_def, Nat.add_assoc]

/-- An opening parenthesis makes the nesting one level deeper. -/
theorem closingFrom_opening {kind : GroupKind} (level : Nat)
    (h : (Token.opening kind).Spelling l r) :
    closingFrom level false false (l ++ r) =
      (closingFrom (level + 1) false false r).map (· + l.length) := by
  rcases Token.eq_cons_of_opening h with ⟨tail, rfl, htail⟩
  rw [List.cons_append, closingFrom]
  simp [closingFrom_neutral (level + 1) htail, Function.comp_def, Nat.add_assoc]

/-- A closing parenthesis is the one in question or makes the nesting one level less deep. -/
theorem closingFrom_closing (level : Nat) (h : Token.closing.Spelling l r) :
    closingFrom level false false (l ++ r) =
      if level ≤ 1 then some 0 else (closingFrom (level - 1) false false r).map (· + l.length) := by
  obtain rfl : l = [')'] := h
  rfl

/-- Other tokens leave the nesting alone. -/
theorem closingFrom_append {token : Token} (level : Nat) (h : token.Spelling l r)
    (hopening : ∀ kind, token ≠ .opening kind) (hclosing : token ≠ .closing) :
    closingFrom level false false (l ++ r) =
      (closingFrom level false false r).map (· + l.length) := by
  cases token with
  | opening kind => exact absurd rfl (hopening kind)
  | closing => exact absurd rfl hclosing
  | set items negated =>
      rcases h with h | rfl | ⟨rfl, hnext⟩ | ⟨body, rfl, hbody⟩
      · exact closingFrom_neutral level h
      · simp [closingFrom]
      · rcases List.head?_eq_some_iff.1 hnext with ⟨rest, rfl⟩
        simp [closingFrom]
      · rw [List.cons_append, closingFrom]
        simp [closingFrom_class level hbody, Function.comp_def, Nat.add_assoc]
  | dot | lineStart | lineEnd | wordBoundary | backreference | bar | quantifier | looseBrace
  | fault => exact closingFrom_neutral level h

end Enclosure

end RegexComposition
