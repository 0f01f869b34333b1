import Mathlib.Data.List.Nodup
import Mathlib.Tactic.Common
import RegexComposition.Proofs.Pattern.Lookahead
import RegexComposition.Proofs.Pattern.Reading

/-!
# Names of groups

A regular expression reports the names of its groups as its source spells them.  They are found
by a scan of its own, which has to agree with the groups of the pattern.

Main results:

- `Token.NamedAs`: the name reported for an opening parenthesis.
- `Regex.forall₂_groupNames`: the scan reports the parentheses that open a capturing group.
- `Regex.reported_groups`: what the names say about the groups of a regular expression and of its
  matches.
-/

namespace RegexComposition

/-! ## Reported names -/

/-- The group name that is spelled by a text. -/
def GroupName.ofSpelling? (spelling : String) : Option String :=
  (read? (spelling.toList ++ ['>'])).map (·.1)

namespace Token

/-- Whether the token opens a capturing group. -/
def opensCapturing : Token → Bool
  | opening (.capturing _) => true
  | _ => false

/-- The name reported for a token that opens a capturing group, given how it is spelled. -/
inductive NamedAs : Token × List Char → Option String → Prop
  | unnamed : NamedAs (opening (.capturing none), ['(']) none
  | named {name spelling : String} : GroupName.ofSpelling? spelling = some name →
      NamedAs (opening (.capturing (some name)), '(' :: '?' :: '<' :: (spelling.toList ++ ['>']))
        (some spelling)

/-- The reported name spells the name of the group. -/
theorem NamedAs.ofToken_eq {spelled : Token × List Char} {reported : Option String}
    (h : NamedAs spelled reported) :
    GroupName.ofToken spelled.1 = some (reported.bind GroupName.ofSpelling?) := by
  cases h with
  | unnamed => rfl
  | named hname => simp [GroupName.ofToken, hname]

/-- A named group is opened only in front of a name that can be read. -/
theorem read?_of_readOpening {text : List Char} {name : String} {n : Nat}
    (h : readOpening text = (opening (.capturing (some name)), n)) :
    ∃ inside k, text = '?' :: '<' :: inside ∧ GroupName.read? inside = some (name, k) ∧
      n = k + 2 := by
  unfold readOpening at h
  split at h
  case h_6 inside _ _ =>
      split at h
      · next name' k hread =>
          rcases Prod.mk.inj h with ⟨hkind, rfl⟩
          obtain rfl : name' = name := by simpa using hkind
          exact ⟨inside, k, rfl, hread, rfl⟩
      · exact absurd (Prod.mk.inj h).1 (by simp)
  case h_7 =>
      split at h
      · next kind k hread =>
          rcases neutralFor_readModifiers? hread with ⟨⟨on, off, rfl⟩, _⟩
          exact absurd (Prod.mk.inj h).1 (by simp)
      · exact absurd (Prod.mk.inj h).1 (by simp)
  all_goals exact absurd (Prod.mk.inj h).1 (by simp)

/-- The name reported for a token that opens a capturing group is the one it spells. -/
theorem namedAs_of_readAt {g : Grammar} {c : Char} {rest : List Char} {name : Option String}
    {extra : Nat} (h : readAt g c rest = (opening (.capturing name), extra)) :
    ∃ reported, NamedAs (opening (.capturing name), c :: rest.take extra) reported ∧
      SpelledName.ofToken (opening (.capturing name)) (c :: rest.take extra) = some reported := by
  rcases spelling_readAt h (by simp) with ⟨hextra, hspelling⟩
  cases name with
  | none =>
      rcases hspelling with ⟨hspelled, _⟩
      rw [hspelled]
      exact ⟨none, NamedAs.unnamed, rfl⟩
  | some name =>
      rcases eq_cons_of_opening hspelling with ⟨tail, hspelled, _⟩
      obtain rfl : c = '(' := (List.cons.inj hspelled).1
      rcases read?_of_readOpening h with ⟨inside, n, rfl, hread, rfl⟩
      rcases GroupName.spelling_read? hread with ⟨spelled, after, rfl, rfl, _⟩
      have hname : GroupName.ofSpelling? (String.ofList spelled) = some name := by
        have hcut := GroupName.read?_append hread []
        rw [GroupName.take_spelling, List.append_nil] at hcut
        simp [GroupName.ofSpelling?, hcut]
      have htoken : '(' :: ('?' :: '<' :: (spelled ++ '>' :: after)).take (spelled.length + 1 + 2) =
          '(' :: '?' :: '<' :: ((String.ofList spelled).toList ++ ['>']) := by
        rw [List.take_succ_cons, List.take_succ_cons, GroupName.take_spelling,
          String.toList_ofList]
      rw [htoken]
      refine ⟨some (String.ofList spelled), NamedAs.named hname, ?_⟩
      simp [SpelledName.ofToken]

/-- For a token that opens no capturing group no name is reported. -/
theorem ofToken_eq_none {token : Token} (h : token.opensCapturing = false)
    (spelling : List Char) : SpelledName.ofToken token spelling = none := by
  cases token with
  | opening kind =>
      cases kind with
      | capturing name => cases h
      | plain | modified | look => rfl
  | _ => rfl

/-- A token that opens a capturing group is an opening with a name or without one. -/
theorem exists_of_opensCapturing {token : Token} (h : token.opensCapturing = true) :
    ∃ name, token = opening (.capturing name) := by
  unfold opensCapturing at h
  split at h
  · next name => exact ⟨name, rfl⟩
  · cases h

/-- The names reported for a source that can be read, one for each parenthesis that opens a
capturing group. -/
theorem forall₂_namedAs {g : Grammar} {a b : Assembly} {text : List Char}
    (h : Assembly.Reads g a text b []) :
    List.Forall₂ NamedAs ((spelledFrom g text 0).filter (·.1.opensCapturing))
      (SpelledName.ofSourceFrom false text 0) := by
  generalize hend : ([] : List Char) = remaining at h
  induction h with
  | done a text =>
      subst hend
      exact List.Forall₂.nil
  | @token a b d c rest remaining t extra hread hstep hrest ih =>
      have ht := Assembly.ne_fault_of_step hstep
      rcases spelling_readAt hread ht with ⟨hextra, hspelling⟩
      have hscan := SpelledName.ofSourceFrom_append hspelling
      rw [List.cons_append, List.take_append_drop] at hscan
      rw [spelledFrom_cons hread, hscan]
      cases hopens : t.opensCapturing with
      | false =>
          rw [List.filter_cons_of_neg (by simp [hopens]), ofToken_eq_none hopens]
          exact ih hend
      | true =>
          rw [List.filter_cons_of_pos (by simpa using hopens)]
          rcases exists_of_opensCapturing hopens with ⟨name, rfl⟩
          rcases namedAs_of_readAt hread with ⟨reported, hnamed, htoken⟩
          rw [htoken]
          exact List.Forall₂.cons hnamed (ih hend)

/-- The names reported for a source that can be read spell the names of its groups. -/
theorem declaredFrom_eq_map {g : Grammar} {a b : Assembly} {text : List Char}
    (h : Assembly.Reads g a text b []) :
    GroupName.declaredFrom false text 0 =
      (SpelledName.ofSourceFrom false text 0).map (·.bind GroupName.ofSpelling?) := by
  generalize hend : ([] : List Char) = remaining at h
  induction h with
  | done a text =>
      subst hend
      rfl
  | @token a b d c rest remaining t extra hread hstep hrest ih =>
      have ht := Assembly.ne_fault_of_step hstep
      rcases spelling_readAt hread ht with ⟨hextra, hspelling⟩
      have hscan := SpelledName.ofSourceFrom_append hspelling
      rw [List.cons_append, List.take_append_drop] at hscan
      have htoken : GroupName.ofToken t =
          (SpelledName.ofToken t (c :: rest.take extra)).map
            (·.bind GroupName.ofSpelling?) := by
        cases hopens : t.opensCapturing with
        | false =>
            rw [ofToken_eq_none hopens]
            cases t with
            | opening kind => cases kind <;> first | rfl | cases hopens
            | _ => rfl
        | true =>
            rcases exists_of_opensCapturing hopens with ⟨name, rfl⟩
            rcases namedAs_of_readAt hread with ⟨reported, hnamed, hreported⟩
            rw [hreported]
            exact hnamed.ofToken_eq
      rw [GroupName.declaredFrom_readAt hread ht, hscan, htoken, ih hend, List.map_append]
      congr 1
      cases SpelledName.ofToken t (c :: rest.take extra) <;> rfl

/-- A reported name spells a name. -/
theorem exists_ofSpelling?_of_forall₂ {spelled : List (Token × List Char)}
    {names : List (Option String)} (h : List.Forall₂ NamedAs spelled names) {spelling : String}
    (hmem : some spelling ∈ names) : ∃ name, GroupName.ofSpelling? spelling = some name := by
  induction h with
  | nil => cases hmem
  | cons hnamed _ ih =>
      rcases List.mem_cons.1 hmem with rfl | hmem
      · cases hnamed with
        | named hname => exact ⟨_, hname⟩
      · exact ih hmem

end Token

/-! ## Groups of matches -/

/-- If what the names of a list stand for is pairwise different, so are the names. -/
theorem nodup_of_nodup_map_bind {α β : Type} {f : α → Option β} {l : List (Option α)}
    (hf : ∀ a, some a ∈ l → ∃ b, f a = some b)
    (h : ((l.map (·.bind f)).filterMap id).Nodup) : (l.filterMap id).Nodup := by
  induction l with
  | nil => exact List.nodup_nil
  | cons head rest ih =>
      have hrest : ∀ a, some a ∈ rest → ∃ b, f a = some b :=
        fun a ha => hf a (List.mem_cons_of_mem _ ha)
      cases head with
      | none => exact ih hrest h
      | some a =>
          rcases hf a (List.mem_cons_self ..) with ⟨b, hb⟩
          have hcons : (b :: (rest.map (·.bind f)).filterMap id).Nodup := by
            simpa [hb] using h
          rw [List.nodup_cons] at hcons
          have hgoal : (a :: rest.filterMap id).Nodup := by
            refine List.nodup_cons.2 ⟨fun ha => hcons.1 ?_, ih hrest hcons.2⟩
            rcases List.mem_filterMap.1 ha with ⟨_, ha, rfl⟩
            exact List.mem_filterMap.2 ⟨some b, List.mem_map.2 ⟨some a, ha, hb⟩, rfl⟩
          exact hgoal

/-- A name that occurs only once stands at one place. -/
theorem eq_of_nodup_filterMap {α : Type} {l : List (Option α)} (h : (l.filterMap id).Nodup)
    {i j : Nat} {a : α} (hi : l[i]? = some (some a)) (hj : l[j]? = some (some a)) : i = j := by
  induction l generalizing i j with
  | nil => simp at hi
  | cons head rest ih =>
      have hmem : ∀ k : Nat, rest[k]? = some (some a) → a ∈ rest.filterMap id :=
        fun k hk => List.mem_filterMap.2 ⟨some a, List.mem_of_getElem? hk, rfl⟩
      cases i with
      | zero =>
          obtain rfl : head = some a := by simpa using hi
          have hhead : (a :: rest.filterMap id).Nodup := h
          cases j with
          | zero => rfl
          | succ j => exact absurd (hmem j (by simpa using hj)) (List.nodup_cons.1 hhead).1
      | succ i =>
          cases j with
          | zero =>
              obtain rfl : head = some a := by simpa using hj
              have hhead : (a :: rest.filterMap id).Nodup := h
              exact absurd (hmem i (by simpa using hi)) (List.nodup_cons.1 hhead).1
          | succ j =>
              have hrest : (rest.filterMap id).Nodup := by
                cases head with
                | none => exact h
                | some b =>
                    have hhead : (b :: rest.filterMap id).Nodup := h
                    exact (List.nodup_cons.1 hhead).2
              exact congrArg (· + 1) (ih hrest (by simpa using hi) (by simpa using hj))

namespace Regex

variable {r : Regex} {t : Text} {o : Occurrence}

/-- A group of a match is what the pattern recorded for it, under its reported name. -/
theorem get?_groupsOf {k : Nat} (hk : k < r.program.groups.length) :
    (r.groupsOf t o).get? (k + 1) =
      (o.captures.get? (k + 1)).map (Match.ofSpan t r.groupNames[k]?.join) := by
  simp [groupsOf, MatchGroups.get?, hk, groupName?, Nat.add_comm 1 k]

/-- A group that takes part in a match and has a name is one of the groups. -/
theorem get?_of_mem_groupsOf {m : Match} {name : String}
    (h : m ∈ (r.groupsOf t o).groups.filterMap id) (hname : m.name = some name) :
    ∃ k, k < r.program.groups.length ∧ (r.groupsOf t o).get? (k + 1) = some m ∧
      r.groupNames[k]?.join = some name := by
  simp only [groupsOf, List.filterMap_cons, id, List.mem_cons, List.mem_filterMap,
    List.mem_map, List.mem_range'_1] at h
  rcases h with rfl | ⟨_, ⟨i, hi, rfl⟩, hm⟩
  · cases hname
  · rcases Nat.exists_eq_add_of_le' hi.1 with ⟨k, rfl⟩
    have hk : k < r.program.groups.length := by omega
    refine ⟨k, hk, ?_, ?_⟩
    · rw [get?_groupsOf hk]
      exact hm
    · rcases Option.map_eq_some_iff.1 hm with ⟨span, _, rfl⟩
      exact hname

/-- If no two names are the same, looking up a name gives the group that has it. -/
theorem named?_groupsOf (hnodup : (r.groupNames.filterMap id).Nodup)
    {k : Nat} {name : String} (hcount : r.program.groups.length = r.groupNames.length)
    (hk : r.groupNames[k]? = some (some name)) :
    (r.groupsOf t o).named? name = (r.groupsOf t o).get? (k + 1) := by
  have hlt : k < r.program.groups.length := by
    rw [hcount]
    exact (List.getElem?_eq_some_iff.1 hk).1
  have hunique : ∀ m ∈ (r.groupsOf t o).groups.filterMap id, m.name = some name →
      (r.groupsOf t o).get? (k + 1) = some m := by
    intro m hm hname
    rcases get?_of_mem_groupsOf hm hname with ⟨j, _, hget, hj⟩
    obtain rfl : j = k := eq_of_nodup_filterMap hnodup (Option.join_eq_some_iff.1 hj) hk
    exact hget
  unfold MatchGroups.named?
  cases hfind : ((r.groupsOf t o).groups.filterMap id).find? (·.name == some name) with
  | some m =>
      have hname : m.name = some name := by simpa using List.find?_some hfind
      exact (hunique m (List.mem_of_find?_eq_some hfind) hname).symm
  | none =>
      rw [List.find?_eq_none] at hfind
      cases hget : (r.groupsOf t o).get? (k + 1) with
      | none => rfl
      | some m =>
          have hmem : m ∈ (r.groupsOf t o).groups.filterMap id :=
            List.mem_filterMap.2
              ⟨some m, List.mem_of_getElem? (Option.join_eq_some_iff.1 hget), rfl⟩
          rw [get?_groupsOf hlt, hk] at hget
          rcases Option.map_eq_some_iff.1 hget with ⟨span, _, rfl⟩
          exact absurd (by simp [Match.ofSpan]) (hfind _ hmem)

/-- A name that is not reported belongs to no group. -/
theorem named?_groupsOf_eq_none {name : String} (h : some name ∉ r.groupNames) :
    (r.groupsOf t o).named? name = none := by
  unfold MatchGroups.named?
  rw [List.find?_eq_none]
  intro m hm hname
  rcases get?_of_mem_groupsOf hm (by simpa using hname) with ⟨k, _, _, hk⟩
  exact h (List.mem_of_getElem? (Option.join_eq_some_iff.1 hk))

/-- The names of the groups of the pattern are those that the reported names spell. -/
theorem groups_eq_map {source : String} {flags : Flags} (h : compile source flags = .ok r) :
    r.program.groups = r.groupNames.map (·.bind GroupName.ofSpelling?) := by
  rcases of_compile h with ⟨hread, hnames, _⟩
  rcases Program.read_eq_ok_iff.1 hread with ⟨hgroups, _, b, hreads, _⟩
  rw [hgroups, hnames]
  exact Token.declaredFrom_eq_map hreads

/-- One name is reported for each parenthesis of the source that opens a capturing group. -/
theorem forall₂_groupNames {source : String} {flags : Flags} (h : compile source flags = .ok r) :
    List.Forall₂ Token.NamedAs
      ((Token.spelledFrom (Program.grammar source flags) source.toList 0).filter
        (·.1.opensCapturing)) r.groupNames := by
  rcases of_compile h with ⟨hread, hnames, _⟩
  rcases Program.read_eq_ok_iff.1 hread with ⟨_, _, b, hreads, _⟩
  rw [hnames]
  exact Token.forall₂_namedAs hreads

/-- No name is reported twice. -/
theorem nodup_groupNames {source : String} {flags : Flags} (h : compile source flags = .ok r) :
    (r.groupNames.filterMap id).Nodup := by
  rcases Program.read_eq_ok_iff.1 (of_compile h).1 with ⟨_, hnodup, _⟩
  rw [groups_eq_map h] at hnodup
  exact nodup_of_nodup_map_bind
    (fun _ => Token.exists_ofSpelling?_of_forall₂ (forall₂_groupNames h)) hnodup

/-- No name is reported for a group of a pattern in which no group has a name. -/
theorem groupName?_eq_none {source : String} {flags : Flags} (h : compile source flags = .ok r)
    (hnames : ∀ name ∈ r.program.groups, name = none) (index : Nat) :
    r.groupName? index = none := by
  cases index with
  | zero => rfl
  | succ k =>
      rw [groupName?]
      cases hk : r.groupNames[k]? with
      | none => rfl
      | some reported =>
          cases reported with
          | none => rfl
          | some spelling =>
              have hmem : some spelling ∈ r.groupNames := List.mem_of_getElem? hk
              rcases Token.exists_ofSpelling?_of_forall₂ (forall₂_groupNames h) hmem with
                ⟨name, hname⟩
              have hgroup : some name ∈ r.program.groups := by
                rw [groups_eq_map h]
                exact List.mem_map.2 ⟨_, hmem, hname⟩
              cases hnames _ hgroup

/-- How a match with its groups is reported: every group under its name, and found by it. -/
structure Reports (r : Regex) (t : Text) (o : Occurrence) (m : MatchGroups) : Prop where
  size : m.size = 1 + r.groupNames.length
  whole : m.get? 0 = some (Match.ofSpan t none o.span)
  group : ∀ k < r.groupNames.length,
    m.get? (k + 1) = (o.captures.get? (k + 1)).map (Match.ofSpan t r.groupNames[k]?.join)
  named : ∀ k name, r.groupNames[k]? = some (some name) → m.named? name = m.get? (k + 1)
  unknown : ∀ name, some name ∉ r.groupNames → m.named? name = none

/-- The names of a regular expression, one for each group of its pattern in order, are the ones
that its source spells.  So every group of a match is reported under its own name and found by
that name. -/
theorem reported_groups {source : String} {flags : Flags} (h : compile source flags = .ok r) :
    List.Forall₂ Token.NamedAs
        ((Token.spelledFrom (Program.grammar source flags) source.toList 0).filter
          (·.1.opensCapturing)) r.groupNames ∧
      r.program.groups = r.groupNames.map (·.bind GroupName.ofSpelling?) ∧
      r.program.pattern.groups = List.range' 1 r.groupNames.length ∧
      (r.groupNames.filterMap id).Nodup ∧
      ∀ text, List.Forall₂ (r.Reports (Text.ofString text)) (r.occurrences (Text.ofString text))
        (r.capturesIn text) := by
  have hgroups := groups_eq_map h
  have hcount : r.program.groups.length = r.groupNames.length := by
    rw [hgroups, List.length_map]
  have hnodup := nodup_groupNames h
  refine ⟨forall₂_groupNames h, hgroups, ?_, hnodup, ?_⟩
  · rw [Program.groups_pattern (of_compile h).1, hcount]
  · intro text
    rw [capturesIn, List.forall₂_map_right_iff, List.forall₂_same]
    intro o _
    constructor
    case size => simp [groupsOf, MatchGroups.size, hcount, Nat.add_comm]
    case whole => rfl
    case group =>
      intro k hk
      exact get?_groupsOf (hcount ▸ hk)
    case named =>
      intro k name hk
      exact named?_groupsOf hnodup hcount hk
    case unknown =>
      intro name hname
      exact named?_groupsOf_eq_none hname

/-- A source with a group that has no name, a named one, and parentheses that open no group. -/
theorem reported_groups_of_two : ∃ r, compile "(a)(?<b>c)[(]\\(" ∅ = .ok r ∧
    r.groupNames = [none, some "b"] ∧ r.program.pattern.groups = [1, 2] ∧
    ∀ text, List.Forall₂ (r.Reports (Text.ofString text)) (r.occurrences (Text.ofString text))
      (r.capturesIn text) := by
  have hnames : (compile "(a)(?<b>c)[(]\\(" ∅).toOption.map (·.groupNames) =
      some [none, some "b"] := by decide
  cases h : compile "(a)(?<b>c)[(]\\(" ∅ with
  | error e =>
      rw [h] at hnames
      cases hnames
  | ok r =>
      rw [h] at hnames
      have hr : r.groupNames = [none, some "b"] := Option.some.inj hnames
      rcases reported_groups h with ⟨_, _, hgroups, _, hreports⟩
      exact ⟨r, rfl, hr, by rw [hgroups, hr]; rfl, hreports⟩

end Regex

end RegexComposition
