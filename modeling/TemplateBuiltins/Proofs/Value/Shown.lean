/-
# Proofs.Value.Shown -- which values can be shown

A message and the log show a value by its literal, and that cannot be written if an integer
in it has more digits than are written (`Text.isWritable`), or if a value of a foreign type in
it cannot be shown.  Arguments can be shown if each of them can (`Shown`).
-/
import TemplateBuiltins.Failure

set_option autoImplicit false

namespace TemplateBuiltins

namespace Text

/-- The least integer of more digits than are written. -/
def longInteger : Int := (Nat.pow 10 digitLimit : Nat)

theorem isWritable_longInteger : isWritable longInteger = false := by
  -- told of every power, for that of the limit is not to be computed
  have power (k : Nat) : decide (((Nat.pow 10 k : Nat) : Int).natAbs < Nat.pow 10 k) = false := by
    rw [Int.natAbs_natCast]
    exact decide_eq_false (Nat.lt_irrefl _)
  exact power digitLimit

theorem longInteger_pos : 0 < longInteger := by
  have positive (k : Nat) : 0 < Nat.pow 10 k := Nat.pow_pos (by decide)
  exact Int.natCast_pos.2 (positive digitLimit)

end Text

namespace Failure

/-- The report on an integer of more digits than are written. -/
def unwritable : Report :=
  ⟨.other "ValueError", "Exceeds the limit (4300 digits) for integer string conversion; use sys.set_int_max_str_digits() to increase the limit", []⟩

theorem report_tooLong : report (.tooLong none) = unwritable := by
  have limit : toString Text.digitLimit = "4300" := rfl
  simp only [report, Report.make, Family.attributes, limit]
  rfl

end Failure

/-! ## Lists of values -/

/-- Every one of some values can be shown. -/
def Shown (vs : List Value) : Prop := ∀ v ∈ vs, v.isShowable = true

theorem allShowable_iff (vs : List Value) : allShowable vs = true ↔ Shown vs := by
  induction vs with
  | nil => simp [allShowable, Shown]
  | cons v rest ih => rw [allShowable, Bool.and_eq_true, ih, Shown, Shown, List.forall_mem_cons]

theorem shown_nil : Shown [] := List.forall_mem_nil _

theorem shown_cons_iff (v : Value) (rest : List Value) :
    Shown (v :: rest) ↔ v.isShowable = true ∧ Shown rest := List.forall_mem_cons

theorem shown_append_iff (vs ws : List Value) : Shown (vs ++ ws) ↔ Shown vs ∧ Shown ws := List.forall_mem_append

theorem not_shown_of_mem {v : Value} {vs : List Value} (inside : v ∈ vs) (hidden : v.isShowable = false) :
    ¬ Shown vs := fun shown => by simp [shown v inside] at hidden

theorem allShowable_append (vs ws : List Value) : allShowable (vs ++ ws) = (allShowable vs && allShowable ws) := by
  induction vs with
  | nil => simp [allShowable]
  | cons v rest ih => rw [List.cons_append, allShowable, ih, allShowable, Bool.and_assoc]

/-! ## Values of a form -/

namespace Value

theorem isShowable_array (items : List Value) : (array items).isShowable = allShowable items := by
  rw [isShowable]

theorem isShowable_tuple (items : List Value) : (tuple items).isShowable = allShowable items := by
  rw [isShowable]

theorem isShowable_number (n : Number) : (number n).isShowable = n.isShowable := by
  rw [isShowable]

theorem isShowable_string (s : String) : (string s).isShowable = true := by
  rw [isShowable]

theorem fieldsShowable_iff {keys : List Key} (fields : Entries Key Value keys) :
    fieldsShowable fields = true ↔ ∀ e ∈ fields.list, e.1.isShowable = true ∧ e.2.isShowable = true := by
  induction fields with
  | nil => simp [fieldsShowable, Entries.list]
  | cons key fresh v rest ih =>
      rw [fieldsShowable, Bool.and_eq_true, Bool.and_eq_true, ih, Entries.list, List.forall_mem_cons]

/-- A plain object can be shown if its keys and values can. -/
theorem isShowable_ofFields_iff (fields : Table Key Value) :
    (ofFields fields).isShowable = true ↔
      ∀ e ∈ fields.list, e.1.isShowable = true ∧ e.2.isShowable = true := by
  rw [ofFields, isShowable, Mapping.isShowable]
  exact fieldsShowable_iff fields.entries

theorem isShowable_longInteger : (int Text.longInteger).isShowable = false :=
  (isShowable_number _).trans Text.isWritable_longInteger

theorem shown_of_isShowable {v : Value} (showable : v.isShowable = true) : v.shown = .ok v.literal := by
  rw [shown, if_pos showable]

theorem shown_of_hidden {v : Value} (hidden : v.isShowable = false) : v.shown = .error (.tooLong none) := by
  rw [shown, if_neg (by simp [hidden])]

end Value

end TemplateBuiltins
