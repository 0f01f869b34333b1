import RegexComposition.Proofs.Pattern.Truncation

/-!
# Classes around a text

A text that ends a class nowhere can stand in a class, and also between further characters of that
class.  These are added to what the class names, unless one of them becomes the end of a range.

Main results:

- `ClassText.prefix_unique`: a class ends at one place only.
- `ClassAtom.readAll_inside`: the atoms of a text do not depend on what follows it in its class.
- `ClassAtom.items_between`: further characters around a text are further items.
- `CaseMode.mem_equivalents_caseless`: signs below the letters are equal to themselves only.
- `CharSet.contains_between`: what a class with further signs contains.
-/

namespace RegexComposition

/-! ## Where a class ends -/

/-- A class ends at one place only. -/
theorem ClassText.prefix_unique {a b x y : List Char} (ha : ClassText a) (hb : ClassText b)
    (h : a ++ x = b ++ y) : a = b := by
  induction ha generalizing b with
  | closing =>
      cases hb with
      | closing => rfl
      | plain hend _ _ => exact absurd (List.cons.inj h).1.symm hend
      | escaped c _ => exact absurd (List.cons.inj h).1 (by decide)
  | @plain c l hend hescape _ ih =>
      cases hb with
      | closing => exact absurd (List.cons.inj h).1 hend
      | plain _ _ hb =>
          obtain ⟨rfl, hrest⟩ := List.cons.inj h
          rw [ih hb hrest]
      | escaped d _ => exact absurd (List.cons.inj h).1 hescape
  | @escaped c l _ ih =>
      cases hb with
      | closing => exact absurd (List.cons.inj h).1 (by decide)
      | plain _ hescape _ => exact absurd (List.cons.inj h).1.symm hescape
      | escaped d hb =>
          obtain ⟨-, htail⟩ := List.cons.inj h
          obtain ⟨rfl, hrest⟩ := List.cons.inj htail
          rw [ih hb hrest]

namespace ClassAtom

variable {g g' : Grammar} {inside after s : List Char} {atoms : List ClassAtom}

/-- What is read in front of a closing bracket is read in the same way in front of anything at which
every reader stops. -/
theorem readAll_front (hg : g.CarriesTo g') {skip : Nat} (hs : Stops s)
    (h : readAll g (inside ++ ']' :: after) skip = (atoms, inside.length + 1))
    (ha : ∀ cause, fault cause ∉ atoms) (hskip : skip ≤ inside.length) :
    readAll g' (inside ++ s) skip =
      (atoms ++ (readAll g' s 0).1, (readAll g' s 0).2 + inside.length) := by
  have hend : Stops (']' :: after) := by simp [Stops]
  induction inside generalizing skip atoms with
  | nil =>
      obtain rfl : skip = 0 := Nat.le_zero.1 hskip
      obtain rfl : [] = atoms := (Prod.mk.inj h).1
      rfl
  | cons c inside ih =>
      rw [List.cons_append] at h ⊢
      cases skip with
      | succ skip =>
          rcases hrest : readAll g (inside ++ ']' :: after) skip with ⟨others, m⟩
          rw [readAll, hrest] at h
          obtain ⟨rfl, hm⟩ := Prod.mk.inj h
          obtain rfl : m = inside.length + 1 := Nat.succ.inj hm
          rw [readAll, ih hrest ha (Nat.le_of_succ_le_succ hskip)]
          rfl
      | zero =>
          rw [readAll] at h ⊢
          by_cases hc : c = ']'
          · rw [if_pos hc] at h
            exact absurd (Prod.mk.inj h).2 (by simp)
          rw [if_neg hc] at h ⊢
          rcases hatom : readAt g c (inside ++ ']' :: after) with ⟨atom, extra⟩
          rw [hatom] at h
          dsimp only at h
          rcases hrest : readAll g (inside ++ ']' :: after) extra with ⟨others, m⟩
          rw [hrest] at h
          obtain ⟨rfl, hm⟩ := Prod.mk.inj h
          obtain rfl : m = inside.length + 1 := Nat.succ.inj hm
          simp only [List.mem_cons, not_or] at ha
          have hextra : extra ≤ inside.length :=
            Nat.le_of_lt_succ (lt_of_readAll hrest fun cause => (ha cause).2)
          have hatom' := readAt_truncate hend hatom hextra fun cause heq => (ha cause).1 heq.symm
          rw [readAt_append hg hs hatom' fun cause heq => (ha cause).1 heq.symm]
          dsimp only
          rw [ih hrest (fun cause => (ha cause).2) hextra]
          rfl

/-- The atoms of a text that does not end its class do not depend on what follows it there. -/
theorem readAll_inside (hg : g.CarriesTo g') (hs : Stops s) (hclass : ClassText (inside ++ [']']))
    (ha : ∀ cause, fault cause ∉ (readAll g (inside ++ ']' :: after) 0).1) :
    readAll g' (inside ++ s) 0 = ((readAll g (inside ++ ']' :: after) 0).1 ++ (readAll g' s 0).1,
      (readAll g' s 0).2 + inside.length) := by
  rcases hread : readAll g (inside ++ ']' :: after) 0 with ⟨atoms, n⟩
  rw [hread] at ha
  rcases classText_readAll hread ha with ⟨-, hn, htaken⟩
  rw [List.drop_zero] at htaken
  have hsplit : (inside ++ [']']) ++ after =
      (inside ++ ']' :: after).take n ++ (inside ++ ']' :: after).drop n := by
    rw [List.take_append_drop, List.append_assoc]
    rfl
  have hlength := congrArg List.length (hclass.prefix_unique htaken hsplit)
  rw [List.length_append, List.length_take_of_le hn] at hlength
  obtain rfl : n = inside.length + 1 := hlength.symm
  exact readAll_front hg hs hread ha (Nat.zero_le _)

/-- Signs that mean nothing in a class are atoms of their own. -/
theorem readAll_plain {signs : List Char} (hsigns : ∀ c ∈ signs, c ∉ ['-', '\\', ']'])
    (g : Grammar) (s : List Char) : readAll g (signs ++ s) 0 =
      (signs.map (fun c => code c.toNat) ++ (readAll g s 0).1, (readAll g s 0).2 + signs.length) := by
  induction signs with
  | nil => rfl
  | cons c signs ih =>
      have hc := hsigns c List.mem_cons_self
      simp only [List.mem_cons, List.not_mem_nil, or_false, not_or] at hc
      have hatom : readAt g c (signs ++ s) = (code c.toNat, 0) := by
        unfold readAt
        rw [if_neg hc.1, if_neg hc.2.1]
      rw [List.cons_append, readAll, if_neg hc.2.2, hatom]
      dsimp only
      rw [ih fun d hd => hsigns d (List.mem_cons_of_mem c hd)]
      rfl

/-! ## Items -/

/-- Signs in front of atoms are items of their own, unless a hyphen follows them. -/
theorem items_front {unicode : Bool} {atoms : List ClassAtom} {is : List ClassItem}
    (h : items unicode atoms = .ok is) (hhead : atoms.head? ≠ some hyphen) (signs : List Char) :
    items unicode (signs.map (fun c => code c.toNat) ++ atoms) =
      .ok (signs.map (fun c => ClassItem.single c.toNat) ++ is) := by
  induction signs with
  | nil => exact h
  | cons c signs ih =>
      have hnext : ∀ last rest,
          signs.map (fun c => code c.toNat) ++ atoms ≠ hyphen :: last :: rest := by
        intro last rest heq
        cases signs with
        | nil =>
            rw [List.map_nil, List.nil_append] at heq
            exact hhead (by rw [heq]; rfl)
        | cons d signs => cases heq
      rw [List.map_cons, List.cons_append, items.eq_2 _ _ _ hnext, ih]
      rfl

/-- Signs behind atoms are items of their own, unless the atoms end with a hyphen. -/
theorem items_behind {unicode : Bool} {atoms : List ClassAtom} {is : List ClassItem}
    (h : items unicode atoms = .ok is) (hlast : atoms.getLast? ≠ some hyphen) (signs : List Char) :
    items unicode (atoms ++ signs.map (fun c => code c.toNat)) =
      .ok (is ++ signs.map (fun c => ClassItem.single c.toNat)) := by
  have hrest : ∀ {atom : ClassAtom} {rest : List ClassAtom},
      (atom :: rest).getLast? ≠ some hyphen → rest.getLast? ≠ some hyphen := by
    intro atom rest hlast
    cases rest with
    | nil => simp
    | cons second rest => simpa using hlast
  fun_induction items unicode atoms generalizing is with
  | case1 first last rest ih =>
      cases hrange : rangeItems unicode first last with
      | error e => simp [hrange, bind, Except.bind] at h
      | ok range =>
          cases hothers : items unicode rest with
          | error e => simp [hrange, hothers, bind, Except.bind] at h
          | ok others =>
              rw [hrange, hothers] at h
              obtain rfl := Except.ok.inj h
              rw [List.cons_append, List.cons_append, List.cons_append, items.eq_1, hrange,
                ih hothers (hrest (hrest (hrest hlast))), List.append_assoc]
              rfl
  | case2 atom rest hnext ih =>
      cases hitem : atom.item with
      | error e => simp [hitem, bind, Except.bind] at h
      | ok i =>
          cases hothers : items unicode rest with
          | error e => simp [hitem, hothers, bind, Except.bind] at h
          | ok others =>
              rw [hitem, hothers] at h
              obtain rfl := Except.ok.inj h
              -- A hyphen that ended the atoms would make a range with the first sign.
              have hnext' : ∀ last others,
                  rest ++ signs.map (fun c => code c.toNat) ≠ hyphen :: last :: others := by
                intro last others heq
                match rest with
                | [] => cases signs <;> cases heq
                | [second] =>
                    obtain ⟨rfl, -⟩ := List.cons.inj heq
                    simp at hlast
                | second :: third :: rest =>
                    obtain ⟨rfl, -⟩ := List.cons.inj heq
                    exact hnext third rest rfl
              rw [List.cons_append, items.eq_2 _ _ _ hnext', hitem, ih hothers (hrest hlast)]
              rfl
  | case3 =>
      obtain rfl := Except.ok.inj h
      have hfront := @items_front unicode [] [] rfl (by simp) signs
      simpa using hfront

end ClassAtom

/-! ## Signs without case -/

namespace Unicode.CaseMapping

/-- The mapping moves nothing below the code point, and nothing to a place below it. -/
def Spares (m : CaseMapping) (n : Nat) : Prop :=
  ∀ r ∈ m.runs, n ≤ r.first ∧ (n : Int) ≤ r.first + r.offset

instance (m : CaseMapping) (n : Nat) : Decidable (m.Spares n) :=
  inferInstanceAs (Decidable (∀ r ∈ m.runs, n ≤ r.first ∧ (n : Int) ≤ r.first + r.offset))

variable {m : CaseMapping} {n c e : Nat}

/-- A run moves code points that are not spared, to places that are not spared. -/
theorem Spares.of_moves (h : m.Spares n) {r : CaseRun} (hr : r ∈ m.runs) (hc : r.moves c = true) :
    n ≤ c ∧ n ≤ r.target c := by
  rcases h r hr with ⟨hfirst, htarget⟩
  have hle : r.first ≤ c := by
    simp only [CaseRun.moves, Bool.and_eq_true, decide_eq_true_eq] at hc
    exact hc.1.1
  refine ⟨Nat.le_trans hfirst hle, ?_⟩
  rw [CaseRun.target]
  omega

/-- Code points that are spared are the image of themselves only. -/
theorem Spares.apply_eq_iff (h : m.Spares n) (he : e < n) : m.apply c = e ↔ c = e := by
  unfold apply
  split
  · next r hfind =>
      have hmoves := List.find?_some hfind
      rcases h.of_moves (List.mem_of_find?_eq_some hfind) hmoves with ⟨hc, htarget⟩
      constructor <;> omega
  · rfl

/-- Code points that are spared are equivalent to themselves only. -/
theorem Spares.mem_equivalents (h : m.Spares n) (he : e < n) : e ∈ m.equivalents c ↔ c = e := by
  have hmoved : e ∉ m.runs.filterMap (·.source? (m.apply c)) := by
    intro hmem
    rcases List.mem_filterMap.1 hmem with ⟨r, hr, hsource⟩
    unfold CaseRun.source? at hsource
    dsimp only at hsource
    split at hsource
    · next hmoves =>
        obtain rfl := Option.some.inj hsource
        have hle := (h.of_moves hr (Bool.and_eq_true_iff.1 hmoves).1).1
        omega
    · cases hsource
  rw [← h.apply_eq_iff he]
  unfold equivalents
  dsimp only
  split
  · rw [List.mem_cons, or_iff_left hmoved]
    exact eq_comm
  · next hmoved' =>
      refine ⟨fun hmem => absurd hmem hmoved, fun himage => absurd ?_ hmoved'⟩
      rw [himage, (h.apply_eq_iff he).2 rfl]
      exact beq_self_eq_true e

end Unicode.CaseMapping

/-- The signs below the letters are equal to themselves only, however characters are compared. -/
theorem CaseMode.mem_equivalents_caseless (mode : CaseMode) {c e : Nat} (he : e < 65) :
    e ∈ mode.equivalents c ↔ c = e := by
  cases mode with
  | exact => simp [equivalents, eq_comm]
  | upperCase =>
      have hspares : Unicode.upperCase.Spares 65 := by decide +kernel
      exact hspares.mem_equivalents he
  | folded =>
      have hspares : Unicode.simpleFolding.Spares 65 := by decide +kernel
      exact hspares.mem_equivalents he

/-- A complement with further signs contains what it contains without them, apart from these. -/
theorem CharSet.contains_between {mode : CaseMode} {items : List ClassItem} {front back : List Char}
    (hsigns : ∀ c ∈ front ++ back, c.toNat < 65) (d : Char) :
    (⟨mode, front.map (fun c => ClassItem.single c.toNat) ++
        (items ++ back.map (fun c => ClassItem.single c.toNat)), true⟩ : CharSet).contains d =
      true ↔ (⟨mode, items, true⟩ : CharSet).contains d = true ∧ d ∉ front ++ back := by
  have hsingle : ∀ signs : List Char, (∀ c ∈ signs, c.toNat < 65) →
      ((∃ e ∈ mode.equivalents d.toNat,
        (signs.map (fun c => ClassItem.single c.toNat)).any (·.names mode e) = true) ↔ d ∈ signs) := by
    intro signs hsigns
    constructor
    · rintro ⟨e, he, hnames⟩
      rcases List.any_eq_true.1 hnames with ⟨item, hitem, hnames⟩
      rcases List.mem_map.1 hitem with ⟨c, hc, rfl⟩
      rw [ClassItem.names_single] at hnames
      subst hnames
      rw [mode.mem_equivalents_caseless (hsigns c hc), Char.toNat_inj] at he
      exact he ▸ hc
    · intro hd
      refine ⟨d.toNat, (mode.mem_equivalents_caseless (hsigns d hd)).2 rfl, ?_⟩
      exact List.any_eq_true.2 ⟨_, List.mem_map.2 ⟨d, hd, rfl⟩, (ClassItem.names_single _ _ _).2 rfl⟩
  have hfront := hsingle front fun c hc => hsigns c (List.mem_append_left _ hc)
  have hback := hsingle back fun c hc => hsigns c (List.mem_append_right _ hc)
  have hcontains : ∀ items : List ClassItem,
      (⟨mode, items, true⟩ : CharSet).contains d = true ↔
        ¬ ∃ e ∈ mode.equivalents d.toNat, items.any (·.names mode e) = true := by
    intro items
    rw [contains, Bool.true_bne, Bool.not_eq_true', Bool.eq_false_iff, ne_eq, List.any_eq_true]
  rw [hcontains, hcontains, List.mem_append, not_or, ← hfront, ← hback]
  simp only [List.any_append, Bool.or_eq_true, and_or_left, exists_or, not_or]
  exact ⟨fun h => ⟨h.2.1, h.1, h.2.2⟩, fun h => ⟨h.2.1, h.1, h.2.2⟩⟩

end RegexComposition
