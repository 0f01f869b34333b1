import Mathlib.Data.Set.List
import RegexComposition.Proofs.Flags.Insertion

/-!
# Flag strings

A set of flags is printed as the string of its letters, and this string is read as the same set
again.  Reading goes through a text from the left and refuses it at the first letter that is unknown
or that was there before.

A set is also changed by inserting flags and by putting the global flag in front.  Whatever the
changes, the order of its letters is known from what was added since the set was last replaced.

Main results:

- `Flags.parseFrom_letters`: letters that are known and new are passed over.
- `Flags.isFlagString_or_refused`: a text is a flag string or has a first letter that is refused.
- `Flags.update_set`: what one update comes to.
- `Flags.run_set`: what a run of updates comes to.
- `Flags.letters_roundTrip`: flag strings and sets of flags stand for each other.
-/

namespace RegexComposition

namespace Flags

variable {flags seen reached : Flags} {text : String} {cs before after : List Char} {c : Char}

/-! ## Flag strings -/

/-- The letters of the flags. -/
def letters : List Char := ['i', 'g', 'm', 's', 'u', 'y']

/-- Every character is the letter of a flag, and none occurs twice. -/
def IsFlagString (cs : List Char) : Prop := (∀ c ∈ cs, c ∈ letters) ∧ cs.Nodup

instance : Decidable (IsFlagString cs) :=
  inferInstanceAs (Decidable ((∀ c ∈ cs, c ∈ letters) ∧ cs.Nodup))

/-- The letters are those of which a flag is known. -/
theorem mem_letters : c ∈ letters ↔ ∃ f : Flag, f.letter = c := by
  constructor
  · intro h
    simp only [letters, List.mem_cons, List.not_mem_nil, or_false] at h
    rcases h with rfl | rfl | rfl | rfl | rfl | rfl
    · exact ⟨.caseInsensitive, rfl⟩
    · exact ⟨.global, rfl⟩
    · exact ⟨.multiline, rfl⟩
    · exact ⟨.dotAll, rfl⟩
    · exact ⟨.unicode, rfl⟩
    · exact ⟨.sticky, rfl⟩
  · rintro ⟨f, rfl⟩
    cases f <;> decide

theorem letter_injective : Function.Injective Flag.letter := fun f g h =>
  Option.some.inj (by rw [← Flag.ofLetter?_letter f, h, Flag.ofLetter?_letter])

/-- The flag strings are the strings of letters of the sets. -/
theorem isFlagString_iff :
    IsFlagString cs ↔ ∃ flags : Flags, flags.toList.map Flag.letter = cs := by
  constructor
  · rintro ⟨hknown, hnodup⟩
    obtain ⟨fs, rfl⟩ : cs ∈ Set.range (List.map Flag.letter) := by
      rw [Set.range_list_map]
      exact fun c hc => mem_letters.1 (hknown c hc)
    exact ⟨⟨fs, hnodup.of_map⟩, rfl⟩
  · rintro ⟨flags, rfl⟩
    refine ⟨fun c hc => ?_, flags.nodup.map letter_injective⟩
    obtain ⟨f, -, rfl⟩ := List.mem_map.1 hc
    exact mem_letters.2 ⟨f, rfl⟩

/-- A text is a flag string, or it has a first letter that is unknown or that was there before. -/
theorem isFlagString_or_refused (cs : List Char) : IsFlagString cs ∨
    ∃ before c after, cs = before ++ c :: after ∧ IsFlagString before ∧
      (c ∉ letters ∨ c ∈ before) := by
  induction cs using List.reverseRecOn with
  | nil => exact Or.inl ⟨nofun, List.nodup_nil⟩
  | append_singleton cs c ih =>
      rcases ih with hcs | ⟨before, c', after, rfl, hbefore, hrefused⟩
      · by_cases hrefused : c ∉ letters ∨ c ∈ cs
        · exact Or.inr ⟨cs, c, [], rfl, hcs, hrefused⟩
        · rw [not_or, not_not] at hrefused
          refine Or.inl ⟨?_, ?_⟩
          · simpa [or_imp, forall_and] using ⟨hcs.1, hrefused.1⟩
          · rw [← List.concat_eq_append, List.nodup_concat]
            exact ⟨hrefused.2, hcs.2⟩
      · exact Or.inr ⟨before, c', after ++ [c], by simp, hbefore, hrefused⟩

/-! ## Reading -/

/-- Letters that are known and new are passed over. -/
theorem parseFrom_letters (text : String) (rest : List Char) {fs : List Flag}
    (h : reached.toList = seen.toList ++ fs) :
    parseFrom text seen (fs.map Flag.letter ++ rest) = parseFrom text reached rest := by
  induction fs generalizing seen with
  | nil =>
      rw [List.append_nil] at h
      rw [eq_of_toList_eq h]
      rfl
  | cons f fs ih =>
      -- The set that is reached has no flag twice, so the next one is new.
      have hf : f ∉ seen.toList := by
        intro hmem
        have hnodup := reached.nodup
        rw [h] at hnodup
        exact List.disjoint_of_nodup_append hnodup hmem List.mem_cons_self
      have hinsert : reached.toList = (seen.insert f).toList ++ fs := by
        rw [toList_insert, if_neg hf, h, List.append_assoc]
        rfl
      have hfresh : seen.contains f = false := by
        rwa [Bool.eq_false_iff, Ne, contains_iff]
      rw [← ih hinsert, List.map_cons, List.cons_append, parseFrom, Flag.ofLetter?_letter]
      simp only [hfresh, Bool.false_eq_true, if_false]

/-- Reading comes past every flag string a text begins with. -/
theorem parse_of_append {rest : List Char}
    (h : text.toList = reached.toList.map Flag.letter ++ rest) :
    parse text = parseFrom text reached rest := by
  rw [parse, h]
  exact parseFrom_letters text rest (List.nil_append _).symm

/-- A set is read from its letters. -/
theorem parse_of_letters (h : text.toList = reached.toList.map Flag.letter) :
    parse text = .ok reached := by
  rw [parse_of_append (h.trans (List.append_nil _).symm)]
  rfl

/-- A text is refused at a letter that is unknown. -/
theorem parse_of_unknown (h : text.toList = before ++ c :: after) (hbefore : IsFlagString before)
    (hc : c ∉ letters) : parse text = .error (.unknown c text) := by
  obtain ⟨reached, rfl⟩ := isFlagString_iff.1 hbefore
  have hnone : Flag.ofLetter? c = none := by
    rw [Option.eq_none_iff_forall_ne_some]
    exact fun f hf => hc (mem_letters.2 ⟨f, Flag.letter_of_ofLetter? hf⟩)
  rw [parse_of_append h, parseFrom, hnone]

/-- A text is refused at a letter that was there before. -/
theorem parse_of_duplicate (h : text.toList = before ++ c :: after) (hbefore : IsFlagString before)
    (hc : c ∈ before) : parse text = .error (.duplicate c text) := by
  obtain ⟨reached, rfl⟩ := isFlagString_iff.1 hbefore
  obtain ⟨f, hf, rfl⟩ := List.mem_map.1 hc
  rw [parse_of_append h, parseFrom, Flag.ofLetter?_letter]
  simp only [contains_iff.2 hf, if_true]

/-- A text is refused exactly at its first letter that is unknown or that was there before. -/
theorem parse_eq_error_iff {e : FlagsError} : parse text = .error e ↔
    ∃ before c after, text.toList = before ++ c :: after ∧ IsFlagString before ∧
      ((c ∉ letters ∧ e = .unknown c text) ∨ (c ∈ before ∧ e = .duplicate c text)) := by
  constructor
  · intro herror
    rcases isFlagString_or_refused text.toList with h | ⟨before, c, after, h, hbefore, hc | hc⟩
    · obtain ⟨reached, hreached⟩ := isFlagString_iff.1 h
      rw [parse_of_letters hreached.symm] at herror
      cases herror
    · rw [parse_of_unknown h hbefore hc] at herror
      exact ⟨before, c, after, h, hbefore, Or.inl ⟨hc, (Except.error.inj herror).symm⟩⟩
    · rw [parse_of_duplicate h hbefore hc] at herror
      exact ⟨before, c, after, h, hbefore, Or.inr ⟨hc, (Except.error.inj herror).symm⟩⟩
  · rintro ⟨before, c, after, h, hbefore, ⟨hc, rfl⟩ | ⟨hc, rfl⟩⟩
    · exact parse_of_unknown h hbefore hc
    · exact parse_of_duplicate h hbefore hc

theorem toList_render (flags : Flags) : flags.render.toList = flags.toList.map Flag.letter :=
  String.toList_ofList

/-- A text is read as the set that is printed as this text. -/
theorem parse_eq_ok_iff : parse text = .ok flags ↔ flags.render = text := by
  constructor
  · intro hok
    rcases isFlagString_or_refused text.toList with h | ⟨before, c, after, h, hbefore, hc | hc⟩
    · obtain ⟨reached, hreached⟩ := isFlagString_iff.1 h
      rw [parse_of_letters hreached.symm] at hok
      cases hok
      exact String.toList_injective ((toList_render _).trans hreached)
    · rw [parse_of_unknown h hbefore hc] at hok
      cases hok
    · rw [parse_of_duplicate h hbefore hc] at hok
      cases hok
  · rintro rfl
    exact parse_of_letters (toList_render flags)

/-- The flag strings are the texts that are accepted. -/
theorem exists_parse_eq_ok_iff : (∃ flags, parse text = .ok flags) ↔ IsFlagString text.toList := by
  rw [isFlagString_iff]
  refine exists_congr fun flags => ?_
  rw [parse_eq_ok_iff, ← String.toList_inj, toList_render]

/-! ## Updates -/

/-- A change of a set of flags. -/
inductive Update where
  /-- It is replaced by what a flag string is read as. -/
  | parse (text : String)
  /-- A flag is inserted. -/
  | insert (f : Flag)
  /-- The flags of another set are inserted. -/
  | extend (other : Flags)
  /-- It is replaced by the set of a list. -/
  | collect (fs : List Flag)
  /-- The global flag is put in front if it is missing. -/
  | withGlobal
  deriving DecidableEq

/-- What an update makes of a set; a flag string that is refused changes nothing. -/
def update (flags : Flags) : Update → Flags
  | .parse text => (parse text).toOption.getD flags
  | .insert f => flags.insert f
  | .extend other => flags.union other
  | .collect fs => ofList fs
  | .withGlobal => flags.withGlobal

/-- What a run of updates makes of a set. -/
def run (flags : Flags) (updates : List Update) : Flags := updates.foldl update flags

/-- What was added to a set since it was last replaced. -/
structure Additions where
  /-- The flags in the order in which they were added, with all repetitions. -/
  flags : List Flag
  /-- Whether the global flag was missing when it was put in front. -/
  globalFirst : Bool

namespace Additions

/-- The additions after one more update. -/
def next (a : Additions) : Update → Additions
  | .parse text =>
    if IsFlagString text.toList then ⟨text.toList.filterMap Flag.ofLetter?, false⟩ else a
  | .insert f => { a with flags := a.flags ++ [f] }
  | .extend other => { a with flags := a.flags ++ other.toList }
  | .collect fs => ⟨fs, false⟩
  | .withGlobal => { a with globalFirst := a.globalFirst || Flag.global ∉ a.flags }

/-- The additions of a run of updates that starts with a given set. -/
def ofRun (start : Flags) (updates : List Update) : Additions :=
  updates.foldl next ⟨start.toList, false⟩

/-- The flags as they count for the order. -/
def sequence (a : Additions) : List Flag :=
  if a.globalFirst then .global :: a.flags else a.flags

/-- The set of what was added. -/
def set (a : Additions) : Flags := ofList a.sequence

theorem sequence_append (a : Additions) (fs : List Flag) :
    { a with flags := a.flags ++ fs }.sequence = a.sequence ++ fs := by
  cases hfirst : a.globalFirst <;> simp [sequence, hfirst]

theorem set_append (a : Additions) (fs : List Flag) :
    { a with flags := a.flags ++ fs }.set = a.set.insertAll fs := by
  rw [set, sequence_append, ofList_append]
  rfl

/-- The global flag is in front once it was put there. -/
theorem withGlobal_set (a : Additions) :
    a.set.withGlobal = { a with globalFirst := a.globalFirst || Flag.global ∉ a.flags }.set := by
  -- A global flag that is in front need not be among the flags that were inserted.
  by_cases hmem : .global ∈ a.sequence
  · have hsame : (a.globalFirst || Flag.global ∉ a.flags) = a.globalFirst := by
      cases hfirst : a.globalFirst <;> simp_all [sequence]
    rw [hsame]
    exact withGlobal_of_mem (mem_ofList.2 hmem)
  · have hfirst : a.globalFirst = false := by
      by_contra hfirst
      exact hmem (by simp [sequence, hfirst])
    have hmissing : .global ∉ a.flags := by simpa [sequence, hfirst] using hmem
    rw [set, withGlobal_ofList hmem]
    simp [set, sequence, hfirst, hmissing]

end Additions

/-- What one update comes to. -/
theorem update_set (a : Additions) (u : Update) : a.set.update u = (a.next u).set := by
  cases u with
  | parse text =>
      by_cases htext : IsFlagString text.toList
      · obtain ⟨reached, hreached⟩ := isFlagString_iff.1 htext
        have hdecoded : text.toList.filterMap Flag.ofLetter? = reached.toList := by
          rw [← hreached, List.filterMap_map]
          exact (List.filterMap_congr fun f _ => Flag.ofLetter?_letter f).trans List.filterMap_some
        rw [update, Additions.next, if_pos htext, parse_of_letters hreached.symm, hdecoded]
        exact (ofList_toList reached).symm
      · have herror : ∀ flags, parse text ≠ .ok flags :=
          fun flags hok => htext (exists_parse_eq_ok_iff.1 ⟨flags, hok⟩)
        rw [update, Additions.next, if_neg htext]
        cases hparse : parse text with
        | ok flags => exact absurd hparse (herror flags)
        | error e => rfl
  | insert f => exact (a.set_append [f]).symm
  | extend other => exact (a.set_append other.toList).symm
  | collect fs => rfl
  | withGlobal => exact a.withGlobal_set

/-- What a run of updates comes to. -/
theorem run_set (a : Additions) (updates : List Update) :
    a.set.run updates = (updates.foldl Additions.next a).set := by
  induction updates generalizing a with
  | nil => rfl
  | cons u updates ih =>
      rw [run, List.foldl_cons, update_set]
      exact ih (a.next u)

/-- The flags after a run of updates, each where it was added first. -/
theorem toList_run (start : Flags) (updates : List Update) :
    (start.run updates).toList = (Additions.ofRun start updates).sequence.eraseDups := by
  have hstart : (⟨start.toList, false⟩ : Additions).set = start := ofList_toList start
  have hrun := run_set ⟨start.toList, false⟩ updates
  rw [hstart] at hrun
  rw [hrun]
  exact toList_ofList _

/-- Flag strings and sets of flags stand for each other.

A text is accepted if every character is a letter and none occurs twice, and the set is then printed
as this text.  Otherwise the error names the first character that is unknown or that was there
before, and says which.

After any updates of a set its letters are all different, they are in the order in which they were
first added since the set was last replaced, with a global flag that was put in front before all
others, and the printed set is read as the same set in the same order. -/
theorem letters_roundTrip :
    (∀ text : String, (∃ flags, parse text = .ok flags) ↔ IsFlagString text.toList) ∧
    (∀ (text : String) (flags : Flags), parse text = .ok flags ↔ flags.render = text) ∧
    (∀ (text : String) (e : FlagsError), parse text = .error e ↔
      ∃ before c after, text.toList = before ++ c :: after ∧ IsFlagString before ∧
        ((c ∉ letters ∧ e = .unknown c text) ∨ (c ∈ before ∧ e = .duplicate c text))) ∧
    ∀ (start : Flags) (updates : List Update),
      (start.run updates).render.toList.Nodup ∧
      parse (start.run updates).render = .ok (start.run updates) ∧
      (start.run updates).toList = (Additions.ofRun start updates).sequence.eraseDups := by
  refine ⟨fun text => exists_parse_eq_ok_iff, fun text flags => parse_eq_ok_iff,
    fun text e => parse_eq_error_iff, fun start updates => ⟨?_, parse_eq_ok_iff.2 rfl, ?_⟩⟩
  · rw [toList_render]
    exact (start.run updates).nodup.map letter_injective
  · exact toList_run start updates

example : (empty.run [.collect [.multiline, .unicode], .withGlobal, .insert .unicode,
    .insert .sticky]).toList = [.global, .multiline, .unicode, .sticky] := by decide

end Flags

end RegexComposition
