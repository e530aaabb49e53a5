/-
# Proofs.Catalog.Extrema -- what `max` and `min` pick

Both functions pick the first of the best of their arguments by exact value, greater values
being better for the one and less values for the other (`Builtin.Picks`); a NaN among the
arguments prevails (`Builtin.call_of_picks`).  So it is for numbers that can be shown; an integer
that is too long for the log fails the call (`Builtin.max_longInteger`).  All else follows from what the first of the
best is, and is not told by looking at the functions again: another order of the arguments
leaves the value, and picking from parts first leaves the pick (`Builtin.picks_first`).
-/
import TemplateBuiltins.Proofs.Catalog.Results
import TemplateBuiltins.Proofs.Number.Order

set_option autoImplicit false

namespace TemplateBuiltins

namespace Catalog

theorem numbers?_map (ns : List Number) : numbers? (ns.map .number) = some ns := by
  induction ns with
  | nil => rfl
  | cons n ns ih => rw [List.map_cons, numbers?, ih, Option.map_some]

end Catalog

namespace Builtin

open Number (First Picked)

/-- A function picks an argument, and passes over those whose values are worse. -/
inductive Picks : Builtin → (Line → Line → Prop) → Prop
  | greatest : Picks .max (· < ·)
  | least : Picks .min (· > ·)

variable {clock : Moment} {b : Builtin} {worse : Line → Line → Prop} {ns : List Number}

theorem Picks.strict (picks : b.Picks worse) : IsStrictTotalOrder Line worse := by
  cases picks <;> infer_instance

theorem shown_numbers_iff (ns : List Number) : Shown (ns.map .number) ↔ ∀ n ∈ ns, n.isShowable = true := by
  rw [Shown, List.forall_mem_map]
  rfl

theorem accepts_numbers (parameters : b.parameters = .several (.only .number)) (some : ns ≠ []) :
    (b.definition clock).Accepts (ns.map .number) := by
  refine accepts_several parameters (by simpa using some) fun v inside => ?_
  obtain ⟨n, -, rfl⟩ := List.mem_map.1 inside
  exact (Signature.matchesValue_number_iff _).2 ⟨n, rfl⟩

/-- A function on one or more numbers answers every list of them that can be shown. -/
theorem call_ofNumbers {f : Number → List Number → Number} (parameters : b.parameters = .several (.only .number))
    (body : b.body clock = Catalog.ofNumbers f) (context : Value) (n : Number) (rest : List Number)
    (shown : Shown ((n :: rest).map .number)) :
    b.call clock context ((n :: rest).map .number) = .ok (.number (f n rest)) := by
  have accepts : (b.definition clock).Accepts ((n :: rest).map .number) := accepts_numbers parameters (by simp)
  rw [call, accepts.call_eq shown, (forwarded_several parameters accepts).1]
  show (b.body clock).run context _ = _
  simp only [body, Body.run, Catalog.ofNumbers, Catalog.numbers?_map]

/-- A function that picks answers with what its arguments come to. -/
theorem call_of_picks (picks : b.Picks worse) (context : Value) (some : ns ≠ []) (shown : Shown (ns.map .number)) :
    ∃ n, b.call clock context (ns.map .number) = .ok (.number n) ∧ Picked worse ns n := by
  obtain ⟨n, rest, rfl⟩ := List.exists_cons_of_ne_nil some
  cases picks with
  | greatest =>
      have picked := Number.picked_extremum Number.prefers_greater n rest
      exact ⟨_, call_ofNumbers rfl rfl context n rest shown, picked⟩
  | least =>
      have picked := Number.picked_extremum Number.prefers_less n rest
      exact ⟨_, call_ofNumbers rfl rfl context n rest shown, picked⟩

/-- What is picked can be shown as the arguments can. -/
theorem isShowable_of_picked {n : Number} (picked : Picked worse ns n) (shown : Shown (ns.map .number)) :
    n.isShowable = true := by
  rw [shown_numbers_iff] at shown
  cases picked with
  | nan => rfl
  | first _ first => exact shown n first.mem

/-- **`max` and `min` pick the first argument of the extreme exact value.**  With a NaN among the arguments
they answer a NaN.  In another order the arguments come to an equal number, and what is picked from
two lists together is what is picked from the picks of each.  Arguments that cannot all be shown are
refused, with an error of the conversion. -/
theorem picks_first (picks : b.Picks worse) (clock : Moment) (context : Value) :
    (∀ ns : List Number, Shown (ns.map .number) → Number.double .nan ∈ ns →
      b.call clock context (ns.map .number) = .ok (.double .nan)) ∧
    (∀ ns : List Number, Shown (ns.map .number) → ns ≠ [] → Number.double .nan ∉ ns →
      ∃ n, b.call clock context (ns.map .number) = .ok (.number n) ∧ First worse ns n) ∧
    (∀ ns ms : List Number, Shown (ns.map .number) → ns ≠ [] → ns.Perm ms →
      ∃ n m, b.call clock context (ns.map .number) = .ok (.number n) ∧
        b.call clock context (ms.map .number) = .ok (.number m) ∧ n.onLine? = m.onLine?) ∧
    (∀ ns ms : List Number, Shown ((ns ++ ms).map .number) → ns ≠ [] → ms ≠ [] →
      ∃ n m, b.call clock context (ns.map .number) = .ok (.number n) ∧
        b.call clock context (ms.map .number) = .ok (.number m) ∧
        b.call clock context ((ns ++ ms).map .number) = b.call clock context [.number n, .number m]) ∧
    ∀ ns : List Number, ¬ Shown (ns.map .number) →
      b.call clock context (ns.map .number) = .error (.tooLong none) := by
  have strict := picks.strict
  refine ⟨?_, ?_, ?_, ?_, ?_⟩
  · intro ns shown nan
    obtain ⟨n, call, picked⟩ := call_of_picks picks context (List.ne_nil_of_mem nan) shown
    rw [call, picked.unique (.nan nan)]
    rfl
  · intro ns shown some numbers
    obtain ⟨n, call, picked⟩ := call_of_picks picks context some shown
    cases picked with
    | nan inside => exact absurd inside numbers
    | first _ first => exact ⟨n, call, first⟩
  · intro ns ms shown some same
    obtain ⟨n, call, first⟩ := call_of_picks picks context some shown
    have some' : ms ≠ [] := by
      rintro rfl
      exact some same.eq_nil
    have shown' : Shown (ms.map .number) := by
      rw [shown_numbers_iff] at shown ⊢
      exact fun n inside => shown n (same.mem_iff.2 inside)
    obtain ⟨m, call', second⟩ := call_of_picks picks context some' shown'
    exact ⟨n, m, call, call', first.onLine?_eq second same⟩
  · intro ns ms shown some some'
    obtain ⟨here, there⟩ := (shown_append_iff _ _).1 (List.map_append ▸ shown)
    obtain ⟨n, call, first⟩ := call_of_picks picks context some here
    obtain ⟨m, call', second⟩ := call_of_picks picks context some' there
    have pairShown : Shown ([n, m].map .number) := by
      rw [shown_numbers_iff]
      simp [isShowable_of_picked first here, isShowable_of_picked second there]
    obtain ⟨c, both, pair⟩ := call_of_picks picks context (List.cons_ne_nil n [m]) pairShown
    obtain ⟨d, together, whole⟩ := call_of_picks picks context (List.append_ne_nil_of_left_ne_nil some ms) shown
    refine ⟨n, m, call, call', ?_⟩
    rw [together, whole.unique (first.append second pair)]
    exact both.symm
  · intro ns hidden
    exact Definition.call_of_hidden hidden _ context

/-- The double 2 ^ 53, behind which integers stand that are no doubles. -/
def brink : Double := .finite false (2 ^ 52) 1 (by decide)

/-- The brink, the integer behind it, and the integer equal to it. -/
def aroundBrink : List Number := [.double brink, .int (2 ^ 53 + 1), .int (2 ^ 53)]

/-- The integer behind the brink is greater than the double at it, which is the first of two least numbers; a NaN
prevails over both ends; the arguments can be taken in another order, or in two parts; and an integer that is
too long is refused. -/
theorem picks_first_brink :
    (max.call .midnight .null (aroundBrink.map .number) = .ok (.int (2 ^ 53 + 1)) ∧
      First (· < ·) aroundBrink (.int (2 ^ 53 + 1))) ∧
    (min.call .midnight .null (aroundBrink.map .number) = .ok (.double brink) ∧
      First (· > ·) aroundBrink (.double brink)) ∧
    min.call .midnight .null ([.double (.infinite true), .double .nan].map .number) = .ok (.double .nan) ∧
    (∃ n m, max.call .midnight .null ([.int 0, .double (.zero true)].map .number) = .ok (.number n) ∧
      max.call .midnight .null ([.double (.zero true), .int 0].map .number) = .ok (.number m) ∧
      n.onLine? = m.onLine?) ∧
    (∃ n m, max.call .midnight .null ([.double brink].map .number) = .ok (.number n) ∧
      max.call .midnight .null ([.int (2 ^ 53), .int 7].map .number) = .ok (.number m) ∧
      max.call .midnight .null ([.double brink, .int (2 ^ 53), .int 7].map .number) =
        max.call .midnight .null [.number n, .number m]) ∧
    min.call .midnight .null ([.int Text.longInteger].map .number) = .error (.tooLong none) := by
  obtain ⟨-, greatest, order, parts, -⟩ := picks_first .greatest .midnight .null
  obtain ⟨nan, least, -, -, refused⟩ := picks_first .least .midnight .null
  have some : aroundBrink ≠ [] := by simp [aroundBrink]
  have numbers : Number.double .nan ∉ aroundBrink := by simp [aroundBrink, brink]
  have shown : Shown (aroundBrink.map .number) := (shown_numbers_iff _).2 (by decide +kernel)
  refine ⟨?_, ?_, nan _ ((shown_numbers_iff _).2 (by decide +kernel)) (by simp),
    order _ _ ((shown_numbers_iff _).2 (by decide +kernel)) (by simp) (.swap _ _ _),
    parts [_] [_, _] ((shown_numbers_iff _).2 (by decide +kernel)) (by simp) (by simp),
    refused _ (not_shown_of_mem (List.mem_singleton_self _) Value.isShowable_longInteger)⟩
  · obtain ⟨n, call, first⟩ := greatest aroundBrink shown some numbers
    have picked : Number.max (.double brink) [.int (2 ^ 53 + 1), .int (2 ^ 53)] = .int (2 ^ 53 + 1) := by
      decide +kernel
    have answered : max.call .midnight .null (aroundBrink.map .number) = .ok (.int (2 ^ 53 + 1)) :=
      (call_ofNumbers rfl rfl .null _ _ shown).trans (by rw [picked]; rfl)
    cases call.symm.trans answered
    exact ⟨answered, first⟩
  · obtain ⟨n, call, first⟩ := least aroundBrink shown some numbers
    have picked : Number.min (.double brink) [.int (2 ^ 53 + 1), .int (2 ^ 53)] = .double brink := by
      decide +kernel
    have answered : min.call .midnight .null (aroundBrink.map .number) = .ok (.double brink) :=
      (call_ofNumbers rfl rfl .null _ _ shown).trans (by rw [picked]; rfl)
    cases call.symm.trans answered
    exact ⟨answered, first⟩

/-- Of an integer of more digits than are written and one it is not picked, although it is the greater. -/
theorem max_longInteger :
    First (· < ·) [.int Text.longInteger, .int 1] (.int Text.longInteger) ∧
      ∀ n, max.call .midnight .null ([.int Text.longInteger, .int 1].map .number) ≠ .ok (.number n) := by
  have hidden : ¬ Shown ([.int Text.longInteger, .int 1].map .number) :=
    not_shown_of_mem List.mem_cons_self Value.isShowable_longInteger
  refine ⟨⟨[], [.int 1], .ofRat Text.longInteger, rfl, rfl, by simp, fun m inside => ?_⟩, fun n answered => ?_⟩
  · obtain rfl := List.mem_singleton.1 inside
    refine ⟨.ofRat (1 : Int), rfl, ?_⟩
    show ¬ Line.ofRat Text.longInteger < .ofRat (1 : Int)
    rw [Line.ofRat_lt_iff, not_lt, Int.cast_le]
    exact Text.longInteger_pos
  · rw [call, Definition.call_of_hidden hidden] at answered
    cases answered

end Builtin

end TemplateBuiltins
