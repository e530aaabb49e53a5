/-
# Proofs.Calls.Outcome -- what a call comes to

A declared function answers a call in one of these ways, and the first that applies
decides: an argument that cannot be shown in the log, too few arguments for its
positions, fewer than its least number, an argument that its position refuses, or
whatever its body makes of the arguments that were checked.  `Declaration.Outcome` says
so of the declaration alone, by counting arguments and looking them up by index; nothing
in it runs a check.  `call_iff_outcome` is that a call of the defined function shows
exactly that outcome: result or report, with its text and its attributes.

The first way is none that a call is meant to have: an integer of more digits than are
written makes every call of every function fail with an error of the conversion, though
nothing is wrong with the arguments (`call_identity_unshown`).

A position has a signature by itself or through the signature of all arguments
(`Declaration.Position`), and the arguments with a position are those that are
checked and those that the body sees (`Declaration.checked`).
-/
import Mathlib.Data.List.Forall2
import TemplateBuiltins.Definition
import TemplateBuiltins.Proofs.Signature.Alternatives
import TemplateBuiltins.Proofs.Value.Shown

set_option autoImplicit false

namespace TemplateBuiltins

/-! ## The outcomes -/

namespace Declaration

variable (declared : Declaration) (args : List Value)

/-- Fewer arguments than fixed positions. -/
def Short : Prop := declared.variadic = none ∧ args.length < declared.positions.length

/-- Fewer arguments than the least number, which is set and is not zero. -/
def Below (least : Int) : Prop :=
  declared.minimum = some least ∧ least ≠ 0 ∧ (args.length : Int) < least

/-- The arguments with a position. -/
def checked : List Value :=
  if declared.variadic.isSome then args else args.take declared.positions.length

/-- The signature that the position of an index was declared with. -/
inductive Position : Nat → Signature → Prop
  | shared {index : Nat} {given : Value} {s : Signature} (all : declared.variadic = some given)
      (read : given.signature? = .ok s) : Position index s
  | own {index : Nat} {given : Value} {s : Signature} (fixed : declared.variadic = none)
      (stands : declared.positions[index]? = some given) (read : given.signature? = .ok s) :
      Position index s

/-- The checked argument of an index is not of a kind that its position takes. -/
structure Mismatch (index : Nat) (s : Signature) (v : Value) : Prop where
  given : (declared.checked args)[index]? = some v
  position : declared.Position index s
  refused : s.matchesValue v = false

/-- Enough arguments for the positions and for the least number, all of which can be shown. -/
structure Enough : Prop where
  shown : Shown args
  positions : ¬ declared.Short args
  minimum : ∀ least, ¬ declared.Below args least

/-- What a call shows, by the first rule that applies. -/
inductive Outcome (context : Value) : Except Failure.Report Value → Prop
  | unshown (hidden : ¬ Shown args) : Outcome context (.error Failure.unwritable)
  | tooFew (shown : Shown args) (short : declared.Short args) :
      Outcome context (.error ⟨.arity,
        s!"expected {declared.positions.length} arguments, found {args.length}: too few arguments",
        [("builtin", .string declared.name), ("expected", .int declared.positions.length),
          ("found", .int args.length)]⟩)
  | belowMinimum {least : Int} (shown : Shown args) (long : ¬ declared.Short args)
      (below : declared.Below args least) (writable : Text.isWritable least = true) :
      Outcome context (.error ⟨.arity, s!"expected at least {least} arguments, found {args.length}",
        [("builtin", .string declared.name), ("expected", .int least), ("found", .int args.length)]⟩)
  | farBelowMinimum {least : Int} (shown : Shown args) (long : ¬ declared.Short args)
      (below : declared.Below args least) (unwritten : Text.isWritable least = false) :
      Outcome context (.error Failure.unwritable)
  | wrongKind {index : Nat} {s : Signature} {v : Value} (enough : declared.Enough args)
      (mismatch : declared.Mismatch args index s v)
      (first : ∀ j < index, ∀ t w, ¬ declared.Mismatch args j t w) :
      Outcome context (.error ⟨.argumentType,
        s!"expected argument {index + 1} to be {String.ofList s.text}, found {v.kindName}",
        [("builtin", .string declared.name), ("position", .int (index + 1 : Nat)),
          ("expected", .ofText s.text), ("found", .string v.kindName)]⟩)
  | ran {run : List Value → Except Failure Value} (enough : declared.Enough args)
      (matching : ∀ index s v, ¬ declared.Mismatch args index s v) (body : declared.body = .pure run) :
      Outcome context ((run (declared.checked args)).mapError Failure.report)
  | ranInContext {run : Value → List Value → Except Failure Value} (enough : declared.Enough args)
      (matching : ∀ index s v, ¬ declared.Mismatch args index s v)
      (body : declared.body = .contextual run) :
      Outcome context ((run context (declared.checked args)).mapError Failure.report)

end Declaration

/-! ## What a declaration becomes -/

theorem Parameters.floor?_eq_some_iff (p : Parameters) (least : Int) :
    p.floor? = some least ↔ p.minimum = some least ∧ least ≠ 0 := by
  simp [floor?, Option.filter_eq_some_iff]

namespace Declaration

/-- Signatures are read place by place. -/
theorem signatures_eq_ok_iff (given : List Value) (read : List Signature) :
    signatures given = .ok read ↔ List.Forall₂ (fun v s => v.signature? = .ok s) given read := by
  induction given generalizing read with
  | nil => cases read <;> simp [signatures]
  | cons v rest ih =>
      rw [signatures]
      cases head : v.signature? with
      | error e => cases read <;> simp [head, bind, Except.bind]
      | ok t =>
          cases read with
          | nil => cases signatures rest <;> simp [bind, Except.bind]
          | cons s more =>
              rw [List.forall₂_cons, head, ← ih]
              cases signatures rest <;> simp [bind, Except.bind]

theorem getElem?_of_signatures {given : List Value} {read : List Signature}
    (ok : signatures given = .ok read) (index : Nat) (s : Signature) :
    read[index]? = some s ↔ ∃ v, given[index]? = some v ∧ v.signature? = .ok s := by
  rw [signatures_eq_ok_iff] at ok
  induction ok generalizing index with
  | nil => simp
  | cons head _ ih =>
      cases index with
      | zero => simp [head]
      | succ index => simpa using ih index

theorem length_of_signatures {given : List Value} {read : List Signature}
    (ok : signatures given = .ok read) : read.length = given.length :=
  ((signatures_eq_ok_iff given read).1 ok).length_eq.symm

/-- The definition that a declaration becomes, part by part. -/
structure Becomes (declared : Declaration) (d : Definition) : Prop where
  positions : signatures declared.positions = .ok d.positions
  variadic : variadicSignature declared.variadic = .ok d.variadic
  minimum : d.minimum = declared.minimum
  name : d.name = declared.name
  body : d.body = declared.body

theorem define_eq_ok {declared : Declaration} {d : Definition} (ok : declared.define = .ok d) :
    declared.Becomes d := by
  simp only [define] at ok
  cases positions : signatures declared.positions with
  | error e => simp [positions, bind, Except.bind] at ok
  | ok read =>
      cases variadic : variadicSignature declared.variadic with
      | error e => simp [positions, variadic, bind, Except.bind] at ok
      | ok all =>
          simp only [positions, variadic, bind, Except.bind, Except.ok.injEq] at ok
          subst ok
          exact ⟨positions, variadic, rfl, rfl, rfl⟩

namespace Becomes

variable {declared : Declaration} {d : Definition} (becomes : declared.Becomes d)

include becomes

theorem variadic_none_iff : d.variadic = none ↔ declared.variadic = none := by
  have read := becomes.variadic
  cases given : declared.variadic with
  | none =>
      rw [given] at read
      simpa [variadicSignature] using read.symm
  | some v =>
      rw [given] at read
      cases h : v.signature? with
      | error e => simp [variadicSignature, h, Except.map] at read
      | ok s =>
          simp only [variadicSignature, h, Except.map, Except.ok.injEq] at read
          simp [← read]

theorem variadic_some_iff (s : Signature) :
    d.variadic = some s ↔ ∃ v, declared.variadic = some v ∧ v.signature? = .ok s := by
  have read := becomes.variadic
  cases given : declared.variadic with
  | none =>
      rw [given] at read
      simp only [variadicSignature, Except.ok.injEq] at read
      simp [← read]
  | some v =>
      rw [given] at read
      cases h : v.signature? with
      | error e => simp [variadicSignature, h, Except.map] at read
      | ok t =>
          simp only [variadicSignature, h, Except.map, Except.ok.injEq] at read
          simp [← read, h]

theorem length_positions : d.positions.length = declared.positions.length :=
  length_of_signatures becomes.positions

/-- A position keeps the signature that it was declared with. -/
theorem signatureAt?_eq_some_iff (index : Nat) (s : Signature) :
    d.signatureAt? index = some s ↔ declared.Position index s := by
  constructor
  · intro found
    cases all : d.variadic with
    | none =>
        simp only [Parameters.signatureAt?, all] at found
        obtain ⟨v, stands, read⟩ := (getElem?_of_signatures becomes.positions index s).1 found
        exact .own (becomes.variadic_none_iff.1 all) stands read
    | some t =>
        simp only [Parameters.signatureAt?, all, Option.some.injEq] at found
        subst found
        obtain ⟨v, given, read⟩ := (becomes.variadic_some_iff t).1 all
        exact .shared given read
  · intro position
    cases position with
    | shared all read =>
        simp [Parameters.signatureAt?, (becomes.variadic_some_iff s).2 ⟨_, all, read⟩]
    | own fixed stands read =>
        simp only [Parameters.signatureAt?, becomes.variadic_none_iff.2 fixed]
        exact (getElem?_of_signatures becomes.positions index s).2 ⟨_, stands, read⟩

/-- The body sees the arguments that are checked. -/
theorem forwarded_eq_checked (args : List Value) : d.forwarded args = declared.checked args := by
  cases all : d.variadic with
  | none =>
      simp [Definition.forwarded, Parameters.limit?, all, checked, becomes.variadic_none_iff.1 all,
        becomes.length_positions]
  | some s =>
      obtain ⟨v, given, -⟩ := (becomes.variadic_some_iff s).1 all
      simp [Definition.forwarded, Parameters.limit?, all, checked, given]

end Becomes

end Declaration

/-! ## The search for a refused argument -/

namespace Definition

variable (d : Definition)

/-- Behind a position without a signature there is none with one. -/
theorem signatureAt?_eq_none_of_le {i j : Nat} (unsigned : d.signatureAt? i = none) (le : i ≤ j) :
    d.signatureAt? j = none := by
  unfold Parameters.signatureAt? at unsigned ⊢
  split at unsigned
  · cases unsigned
  · rw [List.getElem?_eq_none_iff] at unsigned ⊢
    omega

/-- The argument at offset `k` from `start` has a signature that refuses it. -/
def RefusedAt (start : Nat) (args : List Value) (k : Nat) (s : Signature) (v : Value) : Prop :=
  args[k]? = some v ∧ d.signatureAt? (start + k) = some s ∧ s.matchesValue v = false

theorem refusedAt_succ {start : Nat} {args : List Value} {a v : Value} {k : Nat} {s : Signature} :
    d.RefusedAt start (a :: args) (k + 1) s v ↔ d.RefusedAt (start + 1) args k s v := by
  simp [RefusedAt, Nat.add_assoc, Nat.add_comm 1 k]

theorem mismatch?_eq_none {start : Nat} {args : List Value} (found : d.mismatch? start args = none)
    (k : Nat) (s : Signature) (v : Value) : ¬ d.RefusedAt start args k s v := by
  induction args generalizing start k with
  | nil => simp [RefusedAt]
  | cons a args ih =>
      rintro ⟨given, signature, refused⟩
      simp only [mismatch?] at found
      split at found
      · rename_i unsigned
        rw [signatureAt?_eq_none_of_le d unsigned (Nat.le_add_right start k)] at signature
        cases signature
      · rename_i t signed
        split at found
        · rename_i matching
          cases k with
          | zero =>
              simp only [List.getElem?_cons_zero, Option.some.injEq] at given
              simp only [Nat.add_zero, signed, Option.some.injEq] at signature
              rw [given, signature, refused] at matching
              cases matching
          | succ k => exact ih found k ((refusedAt_succ d).1 ⟨given, signature, refused⟩)
        · cases found

/-- The search stops at the first refused argument. -/
theorem mismatch?_eq_some {start : Nat} {args : List Value} {i : Nat} {s : Signature} {v : Value}
    (found : d.mismatch? start args = some (i, s, v)) :
    ∃ k, i = start + k ∧ d.RefusedAt start args k s v ∧
      ∀ j < k, ∀ t w, ¬ d.RefusedAt start args j t w := by
  induction args generalizing start with
  | nil => cases found
  | cons a args ih =>
      simp only [mismatch?] at found
      split at found
      · cases found
      · rename_i t signed
        split at found
        · rename_i matching
          obtain ⟨k, rfl, refused, first⟩ := ih found
          refine ⟨k + 1, by omega, (refusedAt_succ d).2 refused, fun j below u w => ?_⟩
          cases j with
          | zero =>
              rintro ⟨given, signature, refused⟩
              simp only [List.getElem?_cons_zero, Option.some.injEq] at given
              simp only [Nat.add_zero, signed, Option.some.injEq] at signature
              rw [given, signature, refused] at matching
              cases matching
          | succ j => exact fun h => first j (by omega) u w ((refusedAt_succ d).1 h)
        · rename_i refused
          simp only [Option.some.injEq, Prod.mk.injEq] at found
          obtain ⟨rfl, rfl, rfl⟩ := found
          exact ⟨0, rfl, ⟨rfl, signed, by simpa using refused⟩, by simp⟩

theorem refusalBelow_of_unwritten {least : Int} (unwritten : Text.isWritable least = false) (found : Nat) :
    d.refusalBelow least found = .tooLong none := by
  rw [refusalBelow, unwritten]
  rfl

end Definition

/-! ## Checks and outcomes -/

namespace Declaration.Becomes

variable {declared : Declaration} {d : Definition} (becomes : declared.Becomes d)
  (args : List Value)

include becomes

theorem mismatch_iff (index : Nat) (s : Signature) (v : Value) :
    declared.Mismatch args index s v ↔ d.RefusedAt 0 args index s v := by
  have same : d.signatureAt? index = some s →
      (declared.checked args)[index]? = args[index]? := by
    intro signed
    cases fixed : declared.variadic with
    | some w => simp [checked, fixed]
    | none =>
        have all := becomes.variadic_none_iff.2 fixed
        simp only [Parameters.signatureAt?, all] at signed
        obtain ⟨inside, -⟩ := List.getElem?_eq_some_iff.1 signed
        rw [becomes.length_positions] at inside
        simp [checked, fixed, inside]
  constructor
  · rintro ⟨given, position, refused⟩
    have signed := (becomes.signatureAt?_eq_some_iff index s).2 position
    exact ⟨same signed ▸ given, by simpa using signed, refused⟩
  · rintro ⟨given, signed, refused⟩
    rw [Nat.zero_add] at signed
    exact ⟨(same signed).trans given, (becomes.signatureAt?_eq_some_iff index s).1 signed, refused⟩

theorem checkPositions_of_short (short : declared.Short args) :
    d.checkPositions args.length =
      .error (.tooFew declared.name declared.positions.length args.length) := by
  have all := becomes.variadic_none_iff.2 short.1
  simp [Definition.checkPositions, all, becomes.length_positions, short.2, becomes.name]

theorem checkPositions_of_long (long : ¬ declared.Short args) :
    d.checkPositions args.length = .ok () := by
  simp only [Definition.checkPositions, Option.isNone_iff_eq_none, becomes.variadic_none_iff,
    becomes.length_positions, ite_eq_right_iff]
  exact fun short => absurd short long

theorem checkMinimum_of_below {least : Int} (below : declared.Below args least) :
    d.checkMinimum args.length = .error (d.refusalBelow least args.length) := by
  obtain ⟨set, nonzero, fewer⟩ := below
  have floor := (d.floor?_eq_some_iff least).2 ⟨becomes.minimum.trans set, nonzero⟩
  simp [Definition.checkMinimum, floor, fewer]

theorem refusalBelow_of_writable {least : Int} (writable : Text.isWritable least = true) :
    d.refusalBelow least args.length = .belowMinimum declared.name least args.length := by
  rw [Definition.refusalBelow, if_pos writable, becomes.name]

theorem checkMinimum_of_enough (enough : ∀ least, ¬ declared.Below args least) :
    d.checkMinimum args.length = .ok () := by
  unfold Definition.checkMinimum
  cases floor : d.floor? with
  | none => rfl
  | some least =>
      obtain ⟨set, nonzero⟩ := (d.floor?_eq_some_iff least).1 floor
      have notFewer : ¬ (args.length : Int) < least := fun fewer =>
        enough least ⟨becomes.minimum.symm.trans set, nonzero, fewer⟩
      simp [notFewer]

theorem checkKinds_of_mismatch {index : Nat} {s : Signature} {v : Value}
    (mismatch : declared.Mismatch args index s v)
    (first : ∀ j < index, ∀ t w, ¬ declared.Mismatch args j t w) :
    d.checkKinds args = .error (.wrongKind declared.name (index + 1) s v.kindName) := by
  have refused := (becomes.mismatch_iff args index s v).1 mismatch
  cases search : d.mismatch? 0 args with
  | none => exact absurd refused (d.mismatch?_eq_none search index s v)
  | some found =>
      obtain ⟨i, t, w⟩ := found
      obtain ⟨k, rfl, other, earlier⟩ := d.mismatch?_eq_some search
      have here : k = index := by
        rcases Nat.lt_trichotomy k index with lt | eq | gt
        · exact absurd ((becomes.mismatch_iff args k t w).2 other) (first k lt t w)
        · exact eq
        · exact absurd refused (earlier index gt s v)
      subst here
      have sameValue : w = v := Option.some.inj (other.1.symm.trans refused.1)
      have sameSignature : t = s := Option.some.inj (other.2.1.symm.trans refused.2.1)
      simp [Definition.checkKinds, search, sameValue, sameSignature, becomes.name]

theorem checkKinds_of_matching (matching : ∀ index s v, ¬ declared.Mismatch args index s v) :
    d.checkKinds args = .ok () := by
  unfold Definition.checkKinds
  cases search : d.mismatch? 0 args with
  | none => rfl
  | some found =>
      obtain ⟨i, s, v⟩ := found
      obtain ⟨k, -, refused, -⟩ := d.mismatch?_eq_some search
      exact absurd ((becomes.mismatch_iff args k s v).2 refused) (matching k s v)

end Declaration.Becomes

namespace Declaration

variable {declared : Declaration} {d : Definition} {context : Value} {args : List Value}

theorem checkShown_of_shown (shown : Shown args) : Definition.checkShown args = .ok () :=
  if_pos ((allShowable_iff args).2 shown)

theorem checkShown_of_hidden (hidden : ¬ Shown args) : Definition.checkShown args = .error (.tooLong none) :=
  if_neg (mt (allShowable_iff args).1 hidden)

/-- An outcome is what the call shows. -/
theorem call_of_outcome (becomes : declared.Becomes d) {r : Except Failure.Report Value}
    (outcome : declared.Outcome args context r) :
    (d.call context args).mapError Failure.report = r := by
  cases outcome with
  | unshown hidden =>
      rw [Definition.call, checkShown_of_hidden hidden]
      exact congrArg Except.error Failure.report_tooLong
  | tooFew shown short =>
      simp only [Definition.call, checkShown_of_shown shown, Definition.check,
        becomes.checkPositions_of_short args short]
      rfl
  | belowMinimum shown long below writable =>
      simp only [Definition.call, checkShown_of_shown shown, Definition.check,
        becomes.checkPositions_of_long args long, becomes.checkMinimum_of_below args below,
        becomes.refusalBelow_of_writable args writable]
      rfl
  | farBelowMinimum shown long below unwritten =>
      simp only [Definition.call, checkShown_of_shown shown, Definition.check,
        becomes.checkPositions_of_long args long, becomes.checkMinimum_of_below args below,
        d.refusalBelow_of_unwritten unwritten]
      exact congrArg Except.error Failure.report_tooLong
  | wrongKind enough mismatch first =>
      simp only [Definition.call, checkShown_of_shown enough.shown, Definition.check,
        becomes.checkPositions_of_long args enough.positions,
        becomes.checkMinimum_of_enough args enough.minimum,
        becomes.checkKinds_of_mismatch args mismatch first]
      rfl
  | ran enough matching body =>
      simp only [Definition.call, checkShown_of_shown enough.shown, Definition.check,
        becomes.checkPositions_of_long args enough.positions,
        becomes.checkMinimum_of_enough args enough.minimum,
        becomes.checkKinds_of_matching args matching, becomes.body, body,
        becomes.forwarded_eq_checked]
      rfl
  | ranInContext enough matching body =>
      simp only [Definition.call, checkShown_of_shown enough.shown, Definition.check,
        becomes.checkPositions_of_long args enough.positions,
        becomes.checkMinimum_of_enough args enough.minimum,
        becomes.checkKinds_of_matching args matching, becomes.body, body,
        becomes.forwarded_eq_checked]
      rfl

/-- Every call has an outcome. -/
theorem exists_outcome (becomes : declared.Becomes d) (context : Value) (args : List Value) :
    ∃ r, declared.Outcome args context r := by
  by_cases shown : Shown args
  swap
  · exact ⟨_, .unshown shown⟩
  by_cases short : declared.Short args
  · exact ⟨_, .tooFew shown short⟩
  by_cases minimum : ∃ least, declared.Below args least
  · obtain ⟨least, below⟩ := minimum
    cases writable : Text.isWritable least with
    | true => exact ⟨_, .belowMinimum shown short below writable⟩
    | false => exact ⟨_, .farBelowMinimum shown short below writable⟩
  have enough : declared.Enough args := ⟨shown, short, fun least below => minimum ⟨least, below⟩⟩
  cases search : d.mismatch? 0 args with
  | some found =>
      obtain ⟨i, s, v⟩ := found
      obtain ⟨k, -, refused, first⟩ := d.mismatch?_eq_some search
      refine ⟨_, .wrongKind enough ((becomes.mismatch_iff args k s v).2 refused) ?_⟩
      exact fun j below t w h => first j below t w ((becomes.mismatch_iff args j t w).1 h)
  | none =>
      have matching : ∀ index s v, ¬ declared.Mismatch args index s v := fun index s v h =>
        d.mismatch?_eq_none search index s v ((becomes.mismatch_iff args index s v).1 h)
      cases body : declared.body with
      | pure run => exact ⟨_, .ran enough matching body⟩
      | contextual run => exact ⟨_, .ranInContext enough matching body⟩

/-- **A call shows the one outcome that its declaration settles.**  The first rule that applies
decides, a failed check is reported with its numbers, and what the body makes of the checked
arguments is passed on as it is.  Where an argument cannot be shown, or where too few arguments are given
and their least number is too long for the message, the call shows that instead. -/
theorem call_iff_outcome (defined : declared.define = .ok d) (context : Value) (args : List Value)
    (r : Except Failure.Report Value) :
    (d.call context args).mapError Failure.report = r ↔ declared.Outcome args context r := by
  have becomes := define_eq_ok defined
  constructor
  · rintro rfl
    obtain ⟨r, outcome⟩ := exists_outcome becomes context args
    rwa [call_of_outcome becomes outcome]
  · exact call_of_outcome becomes

/-- Two positions and a least number that no call falls short of; the body lists what it is given. -/
def pair : Declaration where
  name := "pair"
  positions := [.string "string", .string " number | null"]
  variadic := none
  minimum := some (-1)
  body := .received true fun given => .ok (.array given)

theorem signature?_pair_first : (Value.string "string").signature? = .ok (.only .string) := by
  have cut : Signature.parts "string".toList = ["string".toList] := by
    rw [Signature.parts, Text.pieces]
    rfl
  apply Value.signature?_string (by decide)
  rw [cut]
  rfl

theorem signature?_pair_second :
    (Value.string " number | null").signature? = .ok (.anyOf .number [.null]) := by
  have cut : Signature.parts " number | null".toList = [" number ".toList, " null".toList] := by
    rw [Signature.parts, Text.pieces]
    change " number ".toList :: Text.pieces ['|'] " null".toList = _
    rw [Text.pieces]
    rfl
  apply Value.signature?_string (by decide)
  rw [cut]
  rfl

/-- The second argument is refused, and the third has no position. -/
theorem call_pair_refused :
    ∃ d, pair.define = .ok d ∧
      (d.call .null [.string "a", .boolean true, .null]).mapError Failure.report =
        .error ⟨.argumentType, "expected argument 2 to be number|null, found boolean",
          [("builtin", .string "pair"), ("position", .int 2), ("expected", .string "number|null"),
            ("found", .string "boolean")]⟩ := by
  have defined : pair.define = .ok ⟨⟨[.only .string, .anyOf .number [.null]], none, some (-1)⟩,
      "pair", .received true fun given => .ok (.array given)⟩ := by
    simp only [define, pair, signatures, signature?_pair_first, signature?_pair_second]
    rfl
  refine ⟨_, defined, (call_iff_outcome defined .null _ _).2 ?_⟩
  have enough : pair.Enough [.string "a", .boolean true, .null] :=
    ⟨by simp [Shown, Value.isShowable], by simp [Short, pair], by rintro least ⟨set, -, fewer⟩; cases set; simp at fewer⟩
  have refused : pair.Mismatch [.string "a", .boolean true, .null] 1 (.anyOf .number [.null])
      (.boolean true) := ⟨rfl, .own rfl rfl signature?_pair_second, rfl⟩
  have first : ∀ j < 1, ∀ t w, ¬ pair.Mismatch [.string "a", .boolean true, .null] j t w := by
    rintro j below t w ⟨given, position, other⟩
    obtain rfl : j = 0 := by omega
    cases given
    cases position with
    | shared all => cases all
    | own fixed stands read =>
        cases stands
        rw [signature?_pair_first] at read
        cases read
        cases other
  exact .wrongKind enough refused first

/-- One position for a number, which the body gives back. -/
def identity : Declaration where
  name := "identity"
  positions := [.signature (.only .number)]
  variadic := none
  minimum := none
  body := .pure fun given => .ok (.array given)

/-- A number of the right kind, and no more arguments than there are positions, and yet the call does not
come to what the body makes of it. -/
theorem call_identity_unshown :
    ∃ d, identity.define = .ok d ∧
      ¬ identity.Short [.int Text.longInteger] ∧ (∀ least, ¬ identity.Below [.int Text.longInteger] least) ∧
      (∀ index s v, ¬ identity.Mismatch [.int Text.longInteger] index s v) ∧
      (d.call .null [.int Text.longInteger]).mapError Failure.report = .error Failure.unwritable ∧
      ∀ context args r, identity.body.run context args ≠ .error r := by
  have defined : identity.define = .ok ⟨⟨[.only .number], none, none⟩, "identity", identity.body⟩ := rfl
  refine ⟨_, defined, by simp [Short, identity], by simp [Below, identity], ?_, ?_, fun _ _ _ => nofun⟩
  · rintro index s v ⟨given, position, refused⟩
    cases position with
    | shared all => cases all
    | own fixed stands read =>
        cases index with
        | zero =>
            cases given
            cases stands
            cases read
            cases refused
        | succ index => cases stands
  · have hidden : ¬ Shown [.int Text.longInteger] := not_shown_of_mem (by simp) Value.isShowable_longInteger
    exact call_of_outcome (define_eq_ok defined) (.unshown hidden)

end Declaration

end TemplateBuiltins
