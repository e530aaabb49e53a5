/-
# Proofs.Offset.Reading -- the reader of offsets follows the grammar

Reading goes by tokens, and each step of it undoes a step of the spelling: a
component (`component?_eq_some`), the components in order
(`components?_eq_some`), the sign in front (`takeSign_eq`).  The components
that are read stand one to one with those that are written (`Reads`).  What they
come to is the offset that the spelling denotes, so a text is read as an offset
exactly if it spells it with no count longer than the limit
(`offset_eq_ok_iff`).

The limit is one of digits, not of values: zeros in front count, so a text can
spell a small offset and be refused (`spells_paddedDay`, `offset_paddedDay`).
-/
import TemplateBuiltins.Proofs.Lists.Related
import TemplateBuiltins.Proofs.Offset.Spelling
import TemplateBuiltins.Proofs.Text.Digits
import TemplateBuiltins.RelativeTime

set_option autoImplicit false

namespace TemplateBuiltins.Offset

/-! ## Classes of characters -/

theorem other_of_isUnitLetter {c : Char} (letter : isUnitLetter c = true) :
    Text.isAsciiDigit c = false ∧ isSeparator c = false := by
  have plain : plainUnitLetters.all (fun c => !Text.isAsciiDigit c && !isSeparator c) = true := by
    decide
  by_cases dotted : c = dottedCapital
  · subst dotted; decide
  · simpa using List.all_eq_true.1 plain c (mem_plainUnitLetters letter dotted)

theorem other_of_isSeparator {c : Char} (separator : isSeparator c = true) :
    Text.isAsciiDigit c = false ∧ isUnitLetter c = false := by
  simp only [isSeparator, Bool.or_eq_true, beq_iff_eq] at separator
  rcases separator with (((rfl | rfl) | rfl) | rfl) | rfl <;> decide

theorem other_of_isAsciiDigit {c : Char} (digit : Text.isAsciiDigit c = true) :
    isSeparator c = false ∧ isUnitLetter c = false := by
  constructor
  · by_contra separator
    rw [(other_of_isSeparator (Bool.not_eq_false _ ▸ separator)).1] at digit
    cases digit
  · by_contra letter
    rw [(other_of_isUnitLetter (Bool.not_eq_false _ ▸ letter)).1] at digit
    cases digit

theorem isSeparator_of_isSign {c : Char} (sign : c = '+' ∨ c = '-') : isSeparator c = false := by
  rcases sign with rfl | rfl <;> decide

theorem ne_sign_of_isAsciiDigit {c : Char} (digit : Text.isAsciiDigit c = true) :
    ¬ (c = '+' ∨ c = '-') := by
  rintro (rfl | rfl) <;> revert digit <;> decide

/-! ## Components -/

/-- What can stand behind a component: nothing, a digit, or a blank. -/
theorem stops_components {ws : List Written} (valid : ∀ w ∈ ws, w.Valid) {p : Char → Bool}
    (other : ∀ c, Text.isAsciiDigit c = true → p c = false) :
    Text.Stops p (ws.flatMap Written.text) := by
  cases ws with
  | nil => exact Text.stops_nil
  | cons w ws =>
      have first := valid w (by simp)
      rw [List.flatMap_cons, Written.text, List.append_assoc, List.append_assoc, List.append_assoc]
      exact Text.stops_append_of_ne_nil (fun c inside => other c (first.digits c inside))
        first.some_digit

theorem Written.Valid.stops_digits {w : Written} (valid : w.Valid) (rest : List Char) :
    Text.Stops Text.isAsciiDigit (w.between ++ (w.letters ++ rest)) :=
  Text.stops_append (fun c inside => (other_of_isSeparator (valid.between c inside)).1)
    (Text.stops_append_of_ne_nil
      (fun c inside => (other_of_isUnitLetter (valid.letters c inside)).1) valid.some_letter)

/-- A component that is read, as it is written. -/
structure Reads (w : Written) (c : Component) : Prop where
  valid : w.Valid
  names : Names w.letters c.unit
  count : c.count = Text.digitsValue w.digits
  within : w.digits.length ≤ Text.digitLimit

/-- What is read as a component is digits, blanks and letters, and the letters end where the rest
begins. -/
theorem component?_eq_some {s rest : List Char} {c : Component}
    (found : component? s = some (c, rest)) :
    ∃ w, Reads w c ∧ w.behind = [] ∧ s = w.text ++ rest ∧ Text.Stops isUnitLetter rest := by
  simp only [component?] at found
  split at found
  · cases found
  · rename_i within
    rw [not_or, not_lt] at within
    simp only [Option.map_eq_some_iff, Prod.mk.injEq] at found
    obtain ⟨u, unit, rfl, rfl⟩ := found
    set behind := s.dropWhile Text.isAsciiDigit
    have letters : ∀ c ∈ (skip behind).takeWhile isUnitLetter, isUnitLetter c = true :=
      fun c inside => List.mem_takeWhile_imp inside
    have some_letter : (skip behind).takeWhile isUnitLetter ≠ [] := by
      intro empty
      rw [empty] at unit
      cases unit
    refine ⟨⟨s.takeWhile Text.isAsciiDigit, behind.takeWhile isSeparator,
      (skip behind).takeWhile isUnitLetter, []⟩, ⟨⟨?_, ?_, ?_, letters, some_letter, by simp⟩,
      (unit?_eq_some_iff letters u).1 unit, rfl, within.2⟩, rfl, ?_, Text.stops_dropWhile _ _⟩
    · exact fun c inside => List.mem_takeWhile_imp inside
    · simpa using within.1
    · exact fun c inside => List.mem_takeWhile_imp inside
    · simp only [Written.text, List.append_nil, List.append_assoc, List.takeWhile_append_dropWhile]
      rw [skip, List.takeWhile_append_dropWhile, List.takeWhile_append_dropWhile]

theorem component?_of_reads {w : Written} {c : Component} {rest : List Char} (reads : Reads w c)
    (stops : Text.Stops isUnitLetter rest) :
    component? (w.digits ++ (w.between ++ (w.letters ++ rest))) = some (c, rest) := by
  have valid := reads.valid
  have digitsEnd := valid.stops_digits rest
  have blanksEnd : Text.Stops isSeparator (w.letters ++ rest) :=
    Text.stops_append_of_ne_nil
      (fun c inside => (other_of_isUnitLetter (valid.letters c inside)).2) valid.some_letter
  have unit := (unit?_eq_some_iff valid.letters c.unit).2 reads.names
  simp only [component?, skip, Text.takeWhile_append_of_stops valid.digits digitsEnd,
    Text.dropWhile_append_of_stops valid.digits digitsEnd,
    Text.dropWhile_append_of_stops valid.between blanksEnd,
    Text.takeWhile_append_of_stops valid.letters stops,
    Text.dropWhile_append_of_stops valid.letters stops, unit, Option.map_some, ← reads.count]
  rw [if_neg (by simpa using ⟨valid.some_digit, reads.within⟩)]

/-- The text in front of the first digit of some components, whatever blanks it is. -/
theorem skip_components {lead : List Char} {ws : List Written}
    (blank : ∀ c ∈ lead, isSeparator c = true) (valid : ∀ w ∈ ws, w.Valid) :
    skip (lead ++ ws.flatMap Written.text) = ws.flatMap Written.text :=
  Text.dropWhile_append_of_stops blank
    (stops_components valid fun _ digit => (other_of_isAsciiDigit digit).1)

theorem components?_of_reads {lead : List Char} {ws : List Written} {cs : List Component}
    (blank : ∀ c ∈ lead, isSeparator c = true) (reads : List.Forall₂ Reads ws cs) :
    components? (lead ++ ws.flatMap Written.text) = some cs := by
  induction reads generalizing lead with
  | nil =>
      rw [components?, skip_components blank (by simp)]
      rfl
  | @cons w c ws cs first more ih =>
      have valid : ∀ x ∈ ws, x.Valid := fun x inside => by
        obtain ⟨i, bound, rfl⟩ := List.getElem_of_mem inside
        exact (more.get bound (more.length_eq ▸ bound)).valid
      have all : ∀ x ∈ w :: ws, x.Valid := by simpa using ⟨first.valid, valid⟩
      have stops : Text.Stops isUnitLetter (w.behind ++ ws.flatMap Written.text) :=
        Text.stops_append (fun c inside => (other_of_isSeparator (first.valid.behind c inside)).2)
          (stops_components valid fun _ digit => (other_of_isAsciiDigit digit).2)
      have spelled : (w :: ws).flatMap Written.text =
          w.digits ++ (w.between ++ (w.letters ++ (w.behind ++ ws.flatMap Written.text))) := by
        simp [Written.text]
      have head := component?_of_reads first stops
      rw [components?, skip_components blank all, spelled, if_neg (by simp [first.valid.some_digit])]
      split
      · rename_i missing
        rw [head] at missing
        cases missing
      · rename_i d rest found
        rw [head] at found
        cases found
        rw [ih first.valid.behind, Option.map_some]

theorem components?_eq_some {s : List Char} {cs : List Component} (found : components? s = some cs) :
    ∃ lead ws, (∀ c ∈ lead, isSeparator c = true) ∧ List.Forall₂ Reads ws cs ∧
      s = lead ++ ws.flatMap Written.text := by
  fun_induction components? s generalizing cs with
  | case1 s empty =>
      cases found
      exact ⟨s, [], by simpa [skip] using empty, .nil, by simp⟩
  | case2 s given missing => cases found
  | case3 s given c rest head ih =>
      obtain ⟨more, tail, rfl⟩ := Option.map_eq_some_iff.1 found
      obtain ⟨w, reads, ends, spelled, -⟩ := component?_eq_some head
      obtain ⟨lead, ws, blank, all, rfl⟩ := ih tail
      refine ⟨s.takeWhile isSeparator, { w with behind := lead } :: ws,
        fun c inside => List.mem_takeWhile_imp inside, .cons ?_ all, ?_⟩
      · exact ⟨{ reads.valid with behind := blank }, reads.names, reads.count, reads.within⟩
      · calc s = s.takeWhile isSeparator ++ skip s := by rw [skip, List.takeWhile_append_dropWhile]
          _ = s.takeWhile isSeparator ++ (w.text ++ (lead ++ ws.flatMap Written.text)) := by
              rw [← spelled]
          _ = _ := by simp [Written.text, ends]

/-! ## Order and counts -/

theorem descending_cons (c : Component) (cs : List Component) :
    descending (c :: cs) = true ↔ (∀ d ∈ cs, c.unit.rank < d.unit.rank) ∧ descending cs = true := by
  induction cs generalizing c with
  | nil => simp [descending]
  | cons d cs ih =>
      simp only [descending, Bool.and_eq_true, decide_eq_true_eq, List.forall_mem_cons]
      constructor
      · rintro ⟨next, more⟩
        exact ⟨⟨next, fun e inside => next.trans ((ih d).1 more |>.1 e inside)⟩, more⟩
      · rintro ⟨⟨next, -⟩, more⟩
        exact ⟨next, more⟩

theorem descending_iff (cs : List Component) :
    descending cs = true ↔ cs.Pairwise fun c d => c.unit.rank < d.unit.rank := by
  induction cs with
  | nil => simp [descending]
  | cons c cs ih => rw [descending_cons, List.pairwise_cons, ih]

theorem count_ofComponents_of_notMem (negative : Bool) (u : TimeUnit) (cs : List Component)
    (o : Offset) (other : ∀ c ∈ cs, c.unit ≠ u) :
    (cs.foldl (fun o c => o.withCount c.unit (Text.withSign negative c.count)) o).count u =
      o.count u := by
  induction cs generalizing o with
  | nil => rfl
  | cons c cs ih =>
      rw [List.foldl_cons, ih _ fun d inside => other d (by simp [inside]), count_withCount,
        if_neg (Ne.symm (other c (by simp)))]

/-- Where no unit is named twice, each count is the one under its name. -/
theorem count_ofComponents_of_mem (negative : Bool) (cs : List Component) (o : Offset)
    (ordered : cs.Pairwise fun c d => c.unit.rank < d.unit.rank) {c : Component} (member : c ∈ cs) :
    (cs.foldl (fun o c => o.withCount c.unit (Text.withSign negative c.count)) o).count c.unit =
      Text.withSign negative c.count := by
  induction cs generalizing o with
  | nil => cases member
  | cons d cs ih =>
      obtain ⟨smaller, ordered⟩ := List.pairwise_cons.1 ordered
      rw [List.foldl_cons]
      rcases List.mem_cons.1 member with rfl | inside
      · rw [count_ofComponents_of_notMem negative c.unit cs _ fun e inside same => ?_,
          count_withCount, if_pos rfl]
        have := smaller e inside
        rw [same] at this
        omega
      · exact ih _ ordered inside

theorem ext_count {o p : Offset} (same : ∀ u, o.count u = p.count u) : o = p :=
  Offset.ext (same .years) (same .months) (same .weeks) (same .days) (same .hours) (same .minutes)
    (same .seconds)

/-- The written components descend exactly if the ones that are read do. -/
theorem pairwise_reads {ws : List Written} {cs : List Component} (reads : List.Forall₂ Reads ws cs) :
    (ws.Pairwise fun w x => ∀ u v, Names w.letters u → Names x.letters v → u.rank < v.rank) ↔
      cs.Pairwise fun c d => c.unit.rank < d.unit.rank := by
  induction reads with
  | nil => simp
  | @cons w c ws cs first more ih =>
      rw [List.pairwise_cons, List.pairwise_cons, ih]
      refine and_congr_left fun _ => ⟨fun smaller d inside => ?_, fun smaller x inside u v named other => ?_⟩
      · obtain ⟨x, member, reads⟩ := Lists.exists_partner_of_right more inside
        exact smaller x member c.unit d.unit first.names reads.names
      · obtain ⟨d, member, reads⟩ := Lists.exists_partner more inside
        rw [named.unique first.names, other.unique reads.names]
        exact smaller d member

/-- The offset of the components that are read is the one that the spelling denotes. -/
theorem denotes_iff {p : Spelling} {cs : List Component}
    (reads : List.Forall₂ Reads p.components cs) (o : Offset) :
    p.Denotes o ↔ descending cs = true ∧ ofComponents p.negative cs = o := by
  rw [descending_iff, ← pairwise_reads reads]
  have denotes (ordered : p.components.Pairwise fun w x =>
      ∀ u v, Names w.letters u → Names x.letters v → u.rank < v.rank) :
      p.Denotes (ofComponents p.negative cs) := by
    have ordered' := (pairwise_reads reads).1 ordered
    refine ⟨fun w inside => ?_, ordered, fun w inside u named => ?_, fun u unnamed => ?_⟩
    · obtain ⟨c, -, reads⟩ := Lists.exists_partner reads inside
      exact ⟨c.unit, reads.names⟩
    · obtain ⟨c, member, reads⟩ := Lists.exists_partner reads inside
      rw [named.unique reads.names, ofComponents,
        count_ofComponents_of_mem p.negative cs zero ordered' member, reads.count]
    · rw [ofComponents, count_ofComponents_of_notMem p.negative u cs zero fun c member same => ?_]
      · cases u <;> rfl
      · obtain ⟨w, inside, reads⟩ := Lists.exists_partner_of_right reads member
        exact unnamed w inside (same ▸ reads.names)
  constructor
  · intro given
    refine ⟨given.descending, ext_count fun u => ?_⟩
    have read := denotes given.descending
    by_cases named : ∃ w ∈ p.components, Names w.letters u
    · obtain ⟨w, inside, named⟩ := named
      rw [read.counts w inside u named, given.counts w inside u named]
    · have unnamed : ∀ w ∈ p.components, ¬ Names w.letters u := fun w inside name =>
        named ⟨w, inside, name⟩
      rw [read.others u unnamed, given.others u unnamed]
  · rintro ⟨ordered, rfl⟩
    exact denotes ordered

theorem exists_reads {ws : List Written} (valid : ∀ w ∈ ws, w.Valid)
    (named : ∀ w ∈ ws, ∃ u, Names w.letters u) (within : ∀ w ∈ ws, w.digits.length ≤ Text.digitLimit) :
    ∃ cs, List.Forall₂ Reads ws cs := by
  rw [Lists.exists_forall₂_iff]
  intro w inside
  obtain ⟨u, name⟩ := named w inside
  exact ⟨⟨Text.digitsValue w.digits, u⟩, valid w inside, name, rfl, within w inside⟩

/-! ## Texts -/

/-- A sign is taken off behind its blanks; without one nothing but blanks is. -/
theorem takeSign_eq {s rest : List Char} {negative : Bool} (taken : takeSign s = (negative, rest)) :
    ∃ (before : List Char) (sign : Option Char), (∀ c ∈ before, isSeparator c = true) ∧
      (∀ c ∈ sign, c = '+' ∨ c = '-') ∧ negative = (sign == some '-') ∧
      s = before ++ sign.toList ++ rest := by
  have whole : s = s.takeWhile isSeparator ++ skip s := by
    rw [skip, List.takeWhile_append_dropWhile]
  have blank : ∀ c ∈ s.takeWhile isSeparator, isSeparator c = true :=
    fun c inside => List.mem_takeWhile_imp inside
  unfold takeSign at taken
  split at taken
  · rename_i more signed
    cases taken
    exact ⟨_, some '-', blank, by simp, by simp, by simpa [signed] using whole⟩
  · rename_i more signed
    cases taken
    exact ⟨_, some '+', blank, by simp, by simp, by simpa [signed] using whole⟩
  · cases taken
    exact ⟨_, none, blank, by simp, by simp, by simpa using whole⟩

theorem takeSign_text {p : Spelling} (valid : p.Valid) :
    ∃ lead, (∀ c ∈ lead, isSeparator c = true) ∧
      takeSign p.text = (p.negative, lead ++ p.components.flatMap Written.text) := by
  obtain ⟨before, sign, behind, ws⟩ := p
  cases sign with
  | some c =>
      have signed := valid.sign c rfl
      have reached : skip (before ++ [c] ++ behind ++ ws.flatMap Written.text) =
          c :: (behind ++ ws.flatMap Written.text) := by
        rw [List.append_assoc, List.append_assoc]
        exact Text.dropWhile_append_of_stops valid.before (Text.stops_cons (isSeparator_of_isSign signed))
      refine ⟨behind, valid.behind, ?_⟩
      simp only [takeSign, Spelling.text, Option.toList_some, reached]
      rcases signed with rfl | rfl <;> rfl
  | none =>
      have blank : ∀ c ∈ before ++ behind, isSeparator c = true := fun c inside =>
        (List.mem_append.1 inside).elim (valid.before c) (valid.behind c)
      have reached : skip (before ++ [] ++ behind ++ ws.flatMap Written.text) =
          ws.flatMap Written.text := by
        rw [List.append_nil]
        exact skip_components blank valid.components
      have unsigned : Text.Stops (fun c => c == '+' || c == '-') (ws.flatMap Written.text) :=
        stops_components valid.components fun c digit => by
          simpa using ne_sign_of_isAsciiDigit digit
      refine ⟨[], by simp, ?_⟩
      simp only [takeSign, Spelling.text, Option.toList_none, reached]
      split
      · rename_i more signed
        rw [signed] at unsigned
        simpa using unsigned '-' rfl
      · rename_i more signed
        rw [signed] at unsigned
        simpa using unsigned '+' rfl
      · rfl

/-- **Reading follows the grammar**: a text is read as an offset exactly if it spells the offset and
none of its counts is longer than the limit. -/
theorem read?_eq_some_iff (s : List Char) (o : Offset) :
    read? s = some o ↔ ∃ p : Spelling, p.Valid ∧ p.WithinLimit ∧ p.text = s ∧ p.Denotes o := by
  constructor
  · intro found
    unfold read? at found
    rcases taken : takeSign s with ⟨negative, rest⟩
    simp only [taken] at found
    split at found
    · rename_i cs read
      split at found
      · rename_i ordered
        cases found
        obtain ⟨before, sign, blank, signs, rfl, rfl⟩ := takeSign_eq taken
        obtain ⟨lead, ws, inner, reads, rfl⟩ := components?_eq_some read
        refine ⟨⟨before, sign, lead, ws⟩, ⟨blank, signs, inner, fun w inside => ?_⟩,
          fun w inside => ?_, by simp [Spelling.text], (denotes_iff reads _).2 ⟨ordered, rfl⟩⟩
        · obtain ⟨c, -, reads⟩ := Lists.exists_partner reads inside
          exact reads.valid
        · obtain ⟨c, -, reads⟩ := Lists.exists_partner reads inside
          exact reads.within
      · cases found
    · cases found
  · rintro ⟨p, valid, within, rfl, denotes⟩
    obtain ⟨cs, reads⟩ := exists_reads valid.components denotes.named within
    obtain ⟨ordered, rfl⟩ := (denotes_iff reads o).1 denotes
    obtain ⟨lead, blank, taken⟩ := takeSign_text valid
    simp only [read?, taken, components?_of_reads blank reads, ordered, if_true]

end TemplateBuiltins.Offset

/-! ## A count of many digits -/

namespace TemplateBuiltins.Offset

def oneDay : Offset := zero.withCount .days 1

/-- One day, with zeros in front of its count. -/
def paddedDay (zeros : Nat) : Spelling :=
  ⟨[], none, [], [⟨List.replicate zeros '0' ++ ['1'], [], ['d'], []⟩]⟩

theorem names_day : Names ['d'] .days := by
  unfold Names
  decide +kernel

theorem paddedDay_valid (zeros : Nat) : (paddedDay zeros).Valid := by
  refine ⟨by simp [paddedDay], by simp [paddedDay], by simp [paddedDay], fun w inside => ?_⟩
  cases List.mem_singleton.1 inside
  have one : ∀ c ∈ ['1'], Text.isAsciiDigit c = true := by simp [Text.isAsciiDigit, Text.asciiDigit?]
  exact ⟨fun c => Text.isAsciiDigit_of_mem_replicate_append one, by simp, by simp,
    by simp [isUnitLetter], by simp, by simp⟩

theorem paddedDay_denotes (zeros : Nat) : (paddedDay zeros).Denotes oneDay := by
  have name := names_day
  refine ⟨fun w inside => ?_, by simp [paddedDay], fun w inside u named => ?_, fun u unnamed => ?_⟩
  · cases List.mem_singleton.1 inside
    exact ⟨.days, name⟩
  · cases List.mem_singleton.1 inside
    rw [Text.digitsValue_replicate_append, named.unique name]
    rfl
  · have other : u ≠ .days := by
      rintro rfl
      exact unnamed _ (List.mem_singleton.2 rfl) name
    cases u <;> first | rfl | exact absurd rfl other

theorem components?_eq_none_of_long {lead : List Char} {w : Written} {ws : List Written}
    (blank : ∀ c ∈ lead, isSeparator c = true) (valid : ∀ x ∈ w :: ws, x.Valid)
    (long : Text.digitLimit < w.digits.length) :
    components? (lead ++ (w :: ws).flatMap Written.text) = none := by
  have first := valid w (by simp)
  have spelled : (w :: ws).flatMap Written.text =
      w.digits ++ (w.between ++ (w.letters ++ (w.behind ++ ws.flatMap Written.text))) := by
    simp [Written.text]
  have digitsEnd := first.stops_digits (w.behind ++ ws.flatMap Written.text)
  have head : component? ((w :: ws).flatMap Written.text) = none := by
    rw [spelled]
    simp only [component?, Text.takeWhile_append_of_stops first.digits digitsEnd]
    rw [if_pos (Or.inr long)]
  rw [components?, skip_components blank valid,
    if_neg (by simp [Written.text, first.some_digit])]
  split
  · rfl
  · rename_i d rest found
    rw [head] at found
    cases found

/-- Beyond the limit the digits of a count are not read, whatever their value is. -/
theorem read?_paddedDay {zeros : Nat} (long : Text.digitLimit ≤ zeros) :
    read? (paddedDay zeros).text = none := by
  have valid := paddedDay_valid zeros
  obtain ⟨lead, blank, taken⟩ := takeSign_text valid
  have refused : components? (lead ++ (paddedDay zeros).components.flatMap Written.text) = none :=
    components?_eq_none_of_long blank valid.components (by simpa using Nat.lt_succ_of_le long)
  simp only [read?, taken, refused]

end TemplateBuiltins.Offset

namespace TemplateBuiltins.RelativeTime

open Offset (Spelling Spells)

theorem offset_iff_read? (text : String) (o : Offset) :
    offset text = .ok o ↔ Offset.read? text.toList = some o := by
  unfold offset
  cases Offset.read? text.toList <;> simp

/-- **The language of offsets.**  A text denotes an offset exactly if it spells it with no count
longer than the limit, so every such spelling of an offset is read back; any other text is refused
as no time expression. -/
theorem offset_eq_ok_iff (text : String) :
    (∀ o, offset text = .ok o ↔
      ∃ p : Spelling, p.Valid ∧ p.WithinLimit ∧ p.text = text.toList ∧ p.Denotes o) ∧
    ((∀ o, ¬ ∃ p : Spelling, p.Valid ∧ p.WithinLimit ∧ p.text = text.toList ∧ p.Denotes o) →
      (offset text).mapError Failure.report =
        .error ⟨.relativeTime, s!"String: '{text}' isn't a time expression",
          [("builtin", .string "fromNow")]⟩) := by
  simp only [← Offset.read?_eq_some_iff]
  unfold offset
  cases Offset.read? text.toList with
  | some o => simp
  | none => exact ⟨by simp, fun _ => rfl⟩

/-- A minus for both counts, a name in capitals, and no blank between the components. -/
theorem offset_year_months :
    offset " - 1 YEAR02mo" = .ok ⟨-1, -2, 0, 0, 0, 0, 0⟩ := by
  have year : Offset.Names "YEAR".toList .years := by unfold Offset.Names; decide +kernel
  have months : Offset.Names "mo".toList .months := by unfold Offset.Names; decide +kernel
  refine ((offset_eq_ok_iff " - 1 YEAR02mo").1 _).2
    ⟨⟨[' '], some '-', [' '], [⟨['1'], [' '], "YEAR".toList, []⟩, ⟨['0', '2'], [], "mo".toList, []⟩]⟩,
      ⟨List.all_eq_true.1 (by decide), by simp, List.all_eq_true.1 (by decide), ?_⟩,
      by simp [Spelling.WithinLimit, Text.digitLimit], by decide, ⟨?_, ?_, ?_, ?_⟩⟩
  · simp only [List.forall_mem_cons]
    exact ⟨⟨List.all_eq_true.1 (by decide), by decide, List.all_eq_true.1 (by decide),
        List.all_eq_true.1 (by decide), by decide, by simp⟩,
      ⟨List.all_eq_true.1 (by decide), by decide, by simp, List.all_eq_true.1 (by decide),
        by decide, by simp⟩, by simp⟩
  · simp only [List.forall_mem_cons]
    exact ⟨⟨_, year⟩, ⟨_, months⟩, by simp⟩
  · refine List.pairwise_pair.2 fun u v first second => ?_
    rw [first.unique year, second.unique months]
    decide
  · simp only [List.forall_mem_cons]
    refine ⟨fun u named => ?_, fun u named => ?_, by simp⟩
    · rw [named.unique year]; decide
    · rw [named.unique months]; decide
  · intro u unnamed
    simp only [List.forall_mem_cons] at unnamed
    cases u with
    | years => exact absurd year unnamed.1
    | months => exact absurd months unnamed.2.1
    | _ => rfl

theorem offset_oneDay : offset "1d" = .ok Offset.oneDay := by
  rw [offset_iff_read?, Offset.read?_eq_some_iff]
  exact ⟨Offset.paddedDay 0, Offset.paddedDay_valid 0,
    by simp [Spelling.WithinLimit, Offset.paddedDay, Text.digitLimit], rfl, Offset.paddedDay_denotes 0⟩

/-- The day with zeros in front of its count, as a text. -/
def paddedDay (zeros : Nat) : String := String.ofList (Offset.paddedDay zeros).text

theorem spells_paddedDay (zeros : Nat) : Spells (paddedDay zeros).toList Offset.oneDay :=
  ⟨Offset.paddedDay zeros, Offset.paddedDay_valid zeros, String.toList_ofList.symm,
    Offset.paddedDay_denotes zeros⟩

theorem offset_paddedDay {zeros : Nat} (long : Text.digitLimit ≤ zeros) :
    offset (paddedDay zeros) = .error (.notAnOffset (paddedDay zeros)) := by
  simp only [offset, paddedDay, String.toList_ofList, Offset.read?_paddedDay long]

/-- To spell an offset is not enough to be read as one. -/
theorem spells_not_sufficient :
    ¬ ∀ text o, offset text = .ok o ↔ Spells text.toList o := by
  intro same
  have read := (same (paddedDay Text.digitLimit) Offset.oneDay).2 (spells_paddedDay _)
  rw [offset_paddedDay (Nat.le_refl _)] at read
  cases read

end TemplateBuiltins.RelativeTime
