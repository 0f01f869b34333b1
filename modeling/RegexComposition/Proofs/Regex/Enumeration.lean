import RegexComposition.Proofs.Capture.Cursor
import RegexComposition.Proofs.Pattern.Passage
import RegexComposition.Proofs.Regex.Occurrences

/-!
# The enumeration of matches

The matches in a text are found one behind the other.  Each search starts where the last match
ended, or one character further if that was empty, so there is an end to them.  A match and all that
its groups have recorded, also inside lookaheads and lookbehinds, are parts of the text.

Main results:

- `Enumerates`: the matches that a loop without a limit finds, with what follows for their number
  and order.
- `Pattern.enumerates_occurrencesFrom`: the enumeration is such a loop, its limit is never reached.
- `Place.IsWithin`: what is recorded lies in the text.
- `Regex.matches_wellFormed`: the matches that are reported are few, in order and parts of the text.
-/

namespace RegexComposition

/-! ## Spans of the text -/

/-- The span goes from left to right and does not reach behind the end of the text. -/
def Span.IsWithin (s : Span) (t : Text) : Prop := s.start ≤ s.stop ∧ s.stop ≤ t.size

/-- The place lies in the text, and so do the spans that have been recorded on the way to it. -/
structure Place.IsWithin (p : Place) (t : Text) : Prop where
  position : p.position ≤ t.size
  captures : ∀ i s, p.captures.get? i = some s → s.IsWithin t

namespace Place

variable {t : Text} {d : Direction} {groups : List Nat} {p q : Place}

/-- The range between two places in the order of the direction is a span of the text. -/
theorem isWithin_between (hordered : d.Ordered p.position q.position)
    (hp : p.position ≤ t.size) (hq : q.position ≤ t.size) :
    (Span.between d p.position q.position).IsWithin t := by
  cases d with
  | forward => exact ⟨hordered, hq⟩
  | backward => exact ⟨hordered, hp⟩

/-- A group records a span of the text. -/
theorem IsWithin.record (hq : q.IsWithin t) (hordered : d.Ordered p.position q.position)
    (hp : p.position ≤ t.size) (i : Nat) : (q.record d i p).IsWithin t := by
  refine ⟨hq.position, fun j s hs => ?_⟩
  by_cases hj : j = i
  · subst hj
    obtain rfl := Option.some.inj ((Captures.get?_record_self _ _ _).symm.trans hs)
    exact isWithin_between hordered hp hq.position
  · exact hq.captures j s ((Captures.get?_record_of_ne hj _).symm.trans hs)

/-- What is left when some groups are forgotten are spans of the text. -/
theorem IsWithin.forget (hp : p.IsWithin t) (groups : List Nat) : (p.forget groups).IsWithin t := by
  refine ⟨hp.position, fun j s hs => ?_⟩
  by_cases hj : j ∈ groups
  · cases (Captures.get?_forget_of_mem hj).symm.trans hs
  · exact hp.captures j s ((Captures.get?_forget_of_notMem hj).symm.trans hs)

/-- The steps of the matcher record spans of the text only. -/
theorem isPassage_isWithin (t : Text) :
    IsPassage t fun d groups p q => p.Leads t d groups q ∧ (p.IsWithin t → q.IsWithin t) where
  refl d groups p := ⟨Leads.refl t d groups p, id⟩
  trans h h' := ⟨h.1.trans h'.1, fun hp => h'.2 (h.2 hp)⟩
  mono h hgroups := ⟨h.1.mono hgroups, h.2⟩
  char hnext := by
    have hleads := (isPassage_leads t).char hnext
    exact ⟨hleads, fun hp => ⟨hleads.bounded hp.position, hp.captures⟩⟩
  follow hfollow := by
    have hleads := (isPassage_leads t).follow hfollow
    exact ⟨hleads, fun hp => ⟨hleads.bounded hp.position, hp.captures⟩⟩
  record h i := ⟨h.1.record i _, fun hp => (h.2 hp).record h.1.ordered hp.position i⟩
  forget d groups p := ⟨(isPassage_leads t).forget d groups p, fun hp => hp.forget groups⟩
  look h d := ⟨(isPassage_leads t).look h.1 d, fun hp => ⟨hp.position, (h.2 hp).captures⟩⟩

end Place

/-- A match and what its groups have recorded are spans of the text. -/
theorem Pattern.isWithin_of_matchAt {p : Pattern} {t : Text} {i : Nat} {place : Place}
    (h : p.matchAt t i = some place) (hi : i ≤ t.size) :
    i ≤ place.position ∧ place.IsWithin t := by
  rcases passes_of_run (Place.isPassage_isWithin t) h with ⟨q, hq, hleads, hwithin⟩
  obtain rfl : q = place := Option.some.inj hq
  exact ⟨hleads.ordered, hwithin ⟨hi, nofun⟩⟩

/-! ## The loop -/

/-- `Enumerates p t i found`: from `i` on, these are the matches that a loop finds which goes on at
the end of a match, or one character further if the match is empty, until there is none left. -/
inductive Enumerates (p : Pattern) (t : Text) : Nat → List Occurrence → Prop
  | finished {i : Nat} : (∀ j, i ≤ j → j ≤ t.size → p.matchAt t j = none) → Enumerates p t i []
  | next {i start : Nat} {place : Place} {found : List Occurrence} :
      i ≤ start → start ≤ t.size → (∀ j, i ≤ j → j < start → p.matchAt t j = none) →
        p.matchAt t start = some place →
          Enumerates p t (Occurrence.resume ⟨⟨start, place.position⟩, place.captures⟩) found →
            Enumerates p t i (⟨⟨start, place.position⟩, place.captures⟩ :: found)

namespace Occurrence

/-- The search resumes behind the start of a match, and not in front of its end. -/
theorem le_resume {start stop : Nat} (h : start ≤ stop) (captures : Captures) :
    start < resume ⟨⟨start, stop⟩, captures⟩ ∧ stop ≤ resume ⟨⟨start, stop⟩, captures⟩ ∧
      resume ⟨⟨start, stop⟩, captures⟩ ≤ stop + 1 := by
  simp only [resume]
  split <;> omega

/-- The second match starts further right than the first one, and not in front of its end. -/
def Precedes (o o' : Occurrence) : Prop := o.span.start < o'.span.start ∧ o.span.stop ≤ o'.span.start

/-- Up to the first gap there is the front part of a list. -/
theorem takeAdjacent_sublist (expected : Nat) (l : List Occurrence) :
    (takeAdjacent expected l).Sublist l := by
  induction l generalizing expected with
  | nil => exact List.Sublist.refl _
  | cons o rest ih =>
      rw [takeAdjacent]
      split
      · exact (ih o.resume).cons_cons o
      · exact List.nil_sublist _

end Occurrence

namespace Enumerates

variable {p : Pattern} {t : Text} {i : Nat} {found found' : List Occurrence}

/-- The loop finds nothing else. -/
theorem deterministic (h : Enumerates p t i found) (h' : Enumerates p t i found') :
    found = found' := by
  induction h generalizing found' with
  | finished hnone =>
      cases h' with
      | finished => rfl
      | next hle hsize _ hmatch => cases (hnone _ hle hsize).symm.trans hmatch
  | @next i start place found hle hsize hnone hmatch _ ih =>
      cases h' with
      | finished hnone' => cases (hnone' _ hle hsize).symm.trans hmatch
      | @next _ start' place' found' hle' _ hnone' hmatch' hrest' =>
          rcases Nat.lt_trichotomy start start' with hlt | rfl | hlt
          · cases (hnone' start hle hlt).symm.trans hmatch
          · obtain rfl := Option.some.inj (hmatch.symm.trans hmatch')
            rw [ih hrest']
          · cases (hnone start' hle' hlt).symm.trans hmatch'

/-- The matches are spans of the text from the position on. -/
theorem of_mem (h : Enumerates p t i found) {o : Occurrence} (ho : o ∈ found) :
    i ≤ o.span.start ∧ o.span.IsWithin t := by
  induction h with
  | finished => cases ho
  | @next i start place found hle hsize _ hmatch _ ih =>
      rcases Pattern.isWithin_of_matchAt hmatch hsize with ⟨hordered, hwithin⟩
      rcases List.mem_cons.1 ho with rfl | ho
      · exact ⟨hle, hordered, hwithin.position⟩
      · have hresume := Occurrence.le_resume hordered place.captures
        rcases ih ho with ⟨hstart, hspan⟩
        exact ⟨by omega, hspan⟩

/-- Every match starts further right than those in front of it, and not in front of their ends. -/
theorem pairwise_precedes (h : Enumerates p t i found) : found.Pairwise Occurrence.Precedes := by
  induction h with
  | finished => exact List.Pairwise.nil
  | @next i start place found _ hsize _ hmatch hrest ih =>
      have hordered := (Pattern.isWithin_of_matchAt hmatch hsize).1
      have hresume := Occurrence.le_resume hordered place.captures
      refine List.Pairwise.cons (fun o ho => ?_) ih
      have hstart := (hrest.of_mem ho).1
      exact ⟨Nat.lt_of_lt_of_le hresume.1 hstart, Nat.le_trans hresume.2.1 hstart⟩

/-- There is at most one match for each position that is left. -/
theorem length_le (h : Enumerates p t i found) (hi : i ≤ t.size + 1) :
    found.length + i ≤ t.size + 1 := by
  induction h with
  | finished => simpa using hi
  | @next i start place found hle hsize _ hmatch _ ih =>
      rcases Pattern.isWithin_of_matchAt hmatch hsize with ⟨hordered, hwithin⟩
      have hresume := Occurrence.le_resume hordered place.captures
      have hbounded := hwithin.position
      have hrest := ih (by omega)
      rw [List.length_cons]
      omega

end Enumerates

/-- A search that fails has tried all positions up to the end of the text. -/
theorem Pattern.matchAt_eq_none_of_search_eq_none {p : Pattern} {t : Text} {i j : Nat}
    (h : p.search t (t.size - i) i = none) (hmin : i ≤ j) (hmax : j ≤ t.size) :
    p.matchAt t j = none := by
  rw [← Option.not_isSome_iff_eq_none]
  intro hmatch
  have hrange : j ≤ i + (t.size - i) := by omega
  have hsome := search_isSome_of_matchAt hmin hrange hmatch
  rw [h] at hsome
  cases hsome

/-- With a budget of one match for each position that is left, the enumeration is the loop. -/
theorem Pattern.enumerates_occurrencesFrom {p : Pattern} {t : Text} {budget i : Nat}
    (hbudget : t.size < i + budget) : Enumerates p t i (p.occurrencesFrom t budget i) := by
  induction budget generalizing i with
  | zero => exact .finished fun j hmin hmax => by omega
  | succ budget ih =>
      rw [occurrencesFrom]
      split
      · exact .finished fun j hmin hmax => by omega
      · next hi =>
          split
          · next hsearch =>
              exact .finished fun j hmin hmax =>
                matchAt_eq_none_of_search_eq_none hsearch hmin hmax
          · next start place hsearch =>
              rcases matchAt_of_search hsearch with ⟨hmatch, hmin, hmax⟩
              have hsize : start ≤ t.size := by omega
              have hordered := (isWithin_of_matchAt hmatch hsize).1
              have hresume := Occurrence.le_resume hordered place.captures
              refine .next hmin hsize (fun j hj hlt => matchAt_eq_none_of_search hsearch hj hlt)
                hmatch (ih (by omega))

/-- All matches are those of the loop from the begin of the text. -/
theorem Pattern.enumerates_occurrences (p : Pattern) (t : Text) :
    Enumerates p t 0 (p.occurrences t) :=
  enumerates_occurrencesFrom (by omega)

/-! ## Parts of a text -/

/-- The match is a part of the text: its ends are in order, they are counted in bytes and lie between
characters, and its value is what stands between them. -/
structure Match.IsPartOf (m : Match) (text : String) : Prop where
  ordered : m.start ≤ m.stop
  bounded : m.stop ≤ text.utf8ByteSize
  length : m.length = m.value.utf8ByteSize
  value : ∃ before after : String, text = before ++ m.value ++ after ∧
    m.start = before.utf8ByteSize ∧ m.stop = (before ++ m.value).utf8ByteSize

/-- The place of the value decides about the rest. -/
theorem Match.isPartOf_of_eq {m : Match} {text : String} (before after : String)
    (htext : text = before ++ m.value ++ after) (hstart : m.start = before.utf8ByteSize)
    (hstop : m.stop = (before ++ m.value).utf8ByteSize) : m.IsPartOf text := by
  have hsize := congrArg String.utf8ByteSize htext
  have hvalue := hstop
  rw [String.utf8ByteSize_append] at hsize hvalue
  refine ⟨?_, ?_, ?_, before, after, htext, hstart, hstop⟩
  · omega
  · omega
  · rw [Match.length]
    omega

namespace Text

/-- The bytes of a string are those of its characters. -/
theorem utf8ByteSize_ofList (chars : List Char) :
    (String.ofList chars).utf8ByteSize = utf8Length chars := by
  induction chars with
  | nil => rfl
  | cons c chars ih => simp [utf8Length, String.ofList_cons, ih]

/-- Further right there are more bytes in front. -/
theorem byteOffset_lt {t : Text} {i j : Nat} (hij : i < j) (hj : j ≤ t.size) :
    t.byteOffset i < t.byteOffset j := by
  rw [byteOffset_eq, byteOffset_eq]
  exact utf8Length_take_lt hij (by simpa [size] using hj)

/-- Not further left there are no fewer bytes in front. -/
theorem byteOffset_le {t : Text} {i j : Nat} (hij : i ≤ j) (hj : j ≤ t.size) :
    t.byteOffset i ≤ t.byteOffset j := by
  rcases Nat.lt_or_eq_of_le hij with hlt | rfl
  · exact Nat.le_of_lt (byteOffset_lt hlt hj)
  · exact Nat.le_refl _

/-- A span of a text is a part of it. -/
theorem isPartOf_ofSpan {text : String} {s : Span} (h : s.IsWithin (ofString text))
    (name : Option String) : (Match.ofSpan (ofString text) name s).IsPartOf text := by
  rcases h with ⟨hordered, hbounded⟩
  have hchars : (ofString text).charsOf ⟨0, s.start⟩ ++ (ofString text).charsOf s ++
      (ofString text).charsOf ⟨s.stop, (ofString text).size⟩ = text.toList := by
    simp only [charsOf, ← Array.toList_append, Array.extract_append_extract, Nat.zero_min,
      Nat.max_eq_right hordered, Nat.max_eq_right hbounded]
    simp [size, ofString]
  have hstop : (ofString text).charsOf ⟨0, s.stop⟩ =
      (ofString text).charsOf ⟨0, s.start⟩ ++ (ofString text).charsOf s := by
    simp only [charsOf, ← Array.toList_append, Array.extract_append_extract, Nat.zero_min,
      Nat.max_eq_right hordered]
  refine Match.isPartOf_of_eq (String.ofList ((ofString text).charsOf ⟨0, s.start⟩))
    (String.ofList ((ofString text).charsOf ⟨s.stop, (ofString text).size⟩)) ?_ ?_ ?_
  · rw [Match.ofSpan, slice, ← String.ofList_append, ← String.ofList_append, hchars,
      String.ofList_toList]
  · rw [utf8ByteSize_ofList]
    rfl
  · rw [Match.ofSpan, slice, ← String.ofList_append, utf8ByteSize_ofList, ← hstop]
    rfl

end Text

/-! ## Regular expressions -/

namespace Regex

variable {r : Regex} {text : String} {t : Text} {o : Occurrence}

/-- The matches of a regular expression are the front part of the enumeration. -/
theorem occurrences_sublist (r : Regex) (t : Text) :
    (r.occurrences t).Sublist (r.program.pattern.occurrences t) := by
  unfold occurrences
  split
  · exact Occurrence.takeAdjacent_sublist 0 _
  · exact List.Sublist.refl _

/-- The matches that are reported are in order. -/
theorem pairwise_precedes (r : Regex) (t : Text) :
    (r.occurrences t).Pairwise Occurrence.Precedes :=
  (r.program.pattern.enumerates_occurrences t).pairwise_precedes.sublist (r.occurrences_sublist t)

/-- The matches that are reported are spans of the text. -/
theorem isWithin_of_mem_occurrences (ho : o ∈ r.occurrences t) : o.span.IsWithin t :=
  ((r.program.pattern.enumerates_occurrences t).of_mem ((r.occurrences_sublist t).subset ho)).2

/-- All groups of a match that have taken part are parts of the text. -/
theorem isPartOf_of_mem_groups (ho : o.IsMatchOf r.program.pattern (Text.ofString text))
    {m : Match} (hm : some m ∈ (r.groupsOf (Text.ofString text) o).groups) : m.IsPartOf text := by
  rcases Pattern.isWithin_of_matchAt ho.found ho.bounded with ⟨hordered, hwithin⟩
  rcases List.mem_cons.1 hm with heq | hm
  · obtain rfl := Option.some.inj heq
    exact Text.isPartOf_ofSpan ⟨hordered, hwithin.position⟩ none
  · rcases List.mem_map.1 hm with ⟨i, -, heq⟩
    rcases Option.map_eq_some_iff.1 heq with ⟨s, hs, rfl⟩
    exact Text.isPartOf_ofSpan (hwithin.captures i s hs) _

/-- The loop over the text comes to an end, and the matches that are reported are the ones that it
finds, with the flag `y` those up to the first gap.  There is at most one more than the text has
characters, each starts further right than the one in front of it and not in front of its end, and
all of them and all groups that have taken part are parts of the text. -/
theorem matches_wellFormed (r : Regex) (text : String) :
    (∃ found, Enumerates r.program.pattern (Text.ofString text) 0 found ∧
      (∀ found', Enumerates r.program.pattern (Text.ofString text) 0 found' → found' = found) ∧
      r.occurrences (Text.ofString text) =
        if r.isSticky then Occurrence.takeAdjacent 0 found else found) ∧
    (r.matchesIn text).length ≤ text.length + 1 ∧
    (r.matchesIn text).Pairwise (fun m m' => m.start < m'.start ∧ m.stop ≤ m'.start) ∧
    (∀ m ∈ r.matchesIn text, m.IsPartOf text) ∧
    ∀ groups ∈ r.capturesIn text, ∀ m, some m ∈ groups.groups → m.IsPartOf text := by
  have hloop := r.program.pattern.enumerates_occurrences (Text.ofString text)
  have hfront := r.occurrences_sublist (Text.ofString text)
  refine ⟨⟨_, hloop, fun found' h => h.deterministic hloop, rfl⟩, ?_, ?_, ?_, ?_⟩
  · have hlength := hloop.length_le (Nat.zero_le _)
    have hsize : (Text.ofString text).size = text.length := by
      simp [Text.size, Text.ofString, String.length_toList]
    rw [matchesIn, List.length_map, ← hsize]
    exact Nat.le_trans hfront.length_le hlength
  · refine List.pairwise_map.2 ((r.pairwise_precedes (Text.ofString text)).imp_of_mem ?_)
    intro o o' ho ho' hprecedes
    have hbounded := (isMatchOf_of_mem_occurrences ho').bounded
    exact ⟨Text.byteOffset_lt hprecedes.1 hbounded, Text.byteOffset_le hprecedes.2 hbounded⟩
  · intro m hm
    rcases List.mem_map.1 hm with ⟨o, ho, rfl⟩
    exact Text.isPartOf_ofSpan (isWithin_of_mem_occurrences ho) none
  · intro groups hgroups m hm
    rcases List.mem_map.1 hgroups with ⟨o, ho, rfl⟩
    exact isPartOf_of_mem_groups (isMatchOf_of_mem_occurrences ho) hm

end Regex

end RegexComposition
