import FeatureFlags.Proofs.Rule.Negation

/-!
# The order of numbers

Two numeric values compare in one of three ways (`Json.order?`), and every operator that compares
numbers is passed on some of them.

* `order?_swap` and `order?_trans`: the sides may be swapped, and outcomes can be put together.
* `evaluate_of_orderTest?`: how the four ordering operators go by it.
* `evaluate_equals_of_order?`: for numeric values equality goes by it as well, although it has a
  comparison of its own for other values.

`operators_order_numbers` is the main result.
-/

namespace FeatureFlags

open Operator

variable {op : Operator} {test : Ordering → Bool}

namespace Json

variable {a b c v : Json} {x y : Finite64} {o : Ordering}

/-! ## Numeric values -/

/-- The value is a number, or a string that spells a finite one, with blanks around it or
without. -/
inductive IsNumeric : Json → Prop where
  | number (n : Number) : IsNumeric (.number n)
  | string {s : String} {x : Finite64}
      (h : Binary64.read? (Text.trim s.toList) = some (.finite x)) : IsNumeric (.string s)

theorem finite?_eq_some_iff {r : Binary64} : r.finite? = some x ↔ r = .finite x := by
  cases r <;> simp [Binary64.finite?]

theorem exists_numeric?_iff : (∃ x, v.numeric? = some x) ↔ v.IsNumeric := by
  constructor
  · rintro ⟨x, hx⟩
    cases v with
    | number n => exact .number n
    | string s =>
      obtain ⟨r, hread, hr⟩ := Option.bind_eq_some_iff.1 hx
      exact .string (hread.trans (congrArg some (finite?_eq_some_iff.1 hr)))
    | _ => cases hx
  · rintro (n | ⟨hread⟩)
    · exact ⟨n.toFinite, rfl⟩
    · exact ⟨_, Option.bind_eq_some_iff.2 ⟨_, hread, rfl⟩⟩

/-! ## Outcomes of a comparison -/

/-- How two numeric values compare; none if one of them is not numeric. -/
def order? (a b : Json) : Option Ordering := do
  let x ← a.numeric?
  let y ← b.numeric?
  return compare x.order y.order

theorem order?_eq_some_iff : a.order? b = some o ↔
    ∃ x y, a.numeric? = some x ∧ b.numeric? = some y ∧ compare x.order y.order = o := by
  simp [order?, Option.bind_eq_some_iff]

theorem exists_order? (ha : a.IsNumeric) (hb : b.IsNumeric) : ∃ o, a.order? b = some o := by
  obtain ⟨x, hx⟩ := exists_numeric?_iff.2 ha
  obtain ⟨y, hy⟩ := exists_numeric?_iff.2 hb
  exact ⟨_, order?_eq_some_iff.2 ⟨x, y, hx, hy, rfl⟩⟩

theorem order?_eq_none (h : ¬(a.IsNumeric ∧ b.IsNumeric)) : a.order? b = none := by
  by_contra hsome
  obtain ⟨o, ho⟩ := Option.ne_none_iff_exists'.1 hsome
  obtain ⟨x, y, hx, hy, -⟩ := order?_eq_some_iff.1 ho
  exact h ⟨exists_numeric?_iff.1 ⟨x, hx⟩, exists_numeric?_iff.1 ⟨y, hy⟩⟩

/-- The sides of a comparison may be swapped. -/
theorem order?_swap (a b : Json) : b.order? a = (a.order? b).map Ordering.swap := by
  rw [order?, order?]
  cases a.numeric? with
  | none => cases b.numeric? <;> rfl
  | some x =>
    cases b.numeric? with
    | none => rfl
    | some y => exact congrArg some Std.OrientedOrd.eq_swap

/-- A test of the outcome is transitive if it is for whole numbers. -/
theorem order?_trans (htest : ∀ i j k : Int, test (compare i j) = true →
      test (compare j k) = true → test (compare i k) = true)
    (hab : (a.order? b).any test = true) (hbc : (b.order? c).any test = true) :
    (a.order? c).any test = true := by
  rw [Option.any_eq_true] at *
  obtain ⟨o, ho, hxy⟩ := hab
  obtain ⟨o', ho', hyz⟩ := hbc
  obtain ⟨x, y, hx, hy, rfl⟩ := order?_eq_some_iff.1 ho
  obtain ⟨y', z, hy', hz, rfl⟩ := order?_eq_some_iff.1 ho'
  cases hy.symm.trans hy'
  exact ⟨_, order?_eq_some_iff.2 ⟨x, z, hx, hz, rfl⟩, htest _ _ _ hxy hyz⟩

end Json

/-! ## Operators -/

namespace Finite64

variable (x y : Finite64)

theorem lt_eq : x.lt y = (compare x.order y.order).isLT := by
  rw [Bool.eq_iff_iff, Ordering.isLT_iff_eq_lt, Int.compare_eq_lt]
  exact decide_eq_true_iff

theorem gt_eq : y.lt x = (compare x.order y.order).isGT := by
  rw [Bool.eq_iff_iff, Ordering.isGT_iff_eq_gt, Int.compare_eq_gt]
  exact decide_eq_true_iff

theorem le_eq : x.le y = (compare x.order y.order).isLE := by
  rw [Bool.eq_iff_iff, Std.isLE_compare]
  exact decide_eq_true_iff

theorem ge_eq : y.le x = (compare x.order y.order).isGE := by
  rw [Bool.eq_iff_iff, Std.isGE_compare]
  exact decide_eq_true_iff

theorem eq_eq : x.eq y = (compare x.order y.order).isEq := by
  rw [Bool.eq_iff_iff, Ordering.isEq_iff_eq_eq, Int.compare_eq_eq, eq_iff]

end Finite64

/-- The outcomes that an ordering operator is passed on. -/
def Operator.orderTest? : Operator → Option (Ordering → Bool)
  | lessThan => some Ordering.isLT
  | greaterThan => some Ordering.isGT
  | atMost => some Ordering.isLE
  | atLeast => some Ordering.isGE
  | _ => none

namespace Json

variable {a b : Json} {o : Ordering}

theorem testNumbers_eq {compared : Finite64 → Finite64 → Bool}
    (h : ∀ x y, compared x y = test (compare x.order y.order)) (a b : Json) :
    a.testNumbers compared b = (a.order? b).any test := by
  rw [testNumbers, order?]
  cases a.numeric? with
  | none => rfl
  | some x =>
    cases b.numeric? with
    | none => rfl
    | some y => exact h x y

/-- An ordering operator is passed on its outcomes, and only if both sides are numeric. -/
theorem evaluate_of_orderTest? (op : Operator) (h : op.orderTest? = some test)
    (actual : Option Json) (b : Json) :
    op.evaluate actual b = (actual.bind (·.order? b)).any test := by
  have hcompare : ∀ a : Json, op.compare a b = (a.order? b).any test := by
    intro a
    cases op with
    | lessThan => cases h; exact testNumbers_eq Finite64.lt_eq a b
    | greaterThan => cases h; exact testNumbers_eq Finite64.gt_eq a b
    | atMost => cases h; exact testNumbers_eq Finite64.le_eq a b
    | atLeast => cases h; exact testNumbers_eq Finite64.ge_eq a b
    | _ => cases h
  have hevaluate : op.evaluate actual b = (present? actual).any (op.compare · b) := by
    cases op with
    | lessThan | greaterThan | atMost | atLeast =>
      simp only [Operator.evaluate]
      cases present? actual <;> rfl
    | _ => cases h
  rw [hevaluate]
  cases actual with
  | none => rfl
  | some a =>
    by_cases hnull : a = .null
    · subst hnull
      rfl
    · rw [present?_of_ne_null hnull]
      exact hcompare a

theorem evaluate_of_order? (op : Operator) (h : op.orderTest? = some test)
    (ho : a.order? b = some o) : op.evaluate (some a) b = test o := by
  rw [evaluate_of_orderTest? op h, Option.bind_some, ho, Option.any_some]

/-- Numeric values are equal if that is the outcome of their comparison. -/
theorem evaluate_equals_of_order? (ho : a.order? b = some o) :
    Operator.equals.evaluate (some a) b = o.isEq ∧ notEquals.evaluate (some a) b = o.isNe := by
  obtain ⟨x, y, hx, hy, rfl⟩ := order?_eq_some_iff.1 ho
  have hne : a ≠ .null := by
    rintro rfl
    cases hx
  have hequals : Operator.equals.evaluate (some a) b = (a.equal? b == some true) :=
    evaluate_operator_of_ne_null .equality hne
  have hnotEquals : notEquals.evaluate (some a) b = (a.equal? b == some false) :=
    evaluate_negation_of_ne_null .equality hne
  rw [hequals, hnotEquals, equal?_of_numeric hx hy, Finite64.eq_eq]
  cases compare x.order y.order <;> exact ⟨rfl, rfl⟩

/-! ## Main result -/

/-- The operators compare two values as numbers. -/
structure ComparedAsNumbers (a b : Json) : Prop where
  /-- One of the three holds and the others do not. -/
  trichotomy :
    (lessThan.evaluate (some a) b = true ∧ Operator.equals.evaluate (some a) b = false ∧
        greaterThan.evaluate (some a) b = false) ∨
      (lessThan.evaluate (some a) b = false ∧ Operator.equals.evaluate (some a) b = true ∧
        greaterThan.evaluate (some a) b = false) ∨
      (lessThan.evaluate (some a) b = false ∧ Operator.equals.evaluate (some a) b = false ∧
        greaterThan.evaluate (some a) b = true)
  atLeast : atLeast.evaluate (some a) b =
    (greaterThan.evaluate (some a) b || Operator.equals.evaluate (some a) b)
  atMost : atMost.evaluate (some a) b =
    (lessThan.evaluate (some a) b || Operator.equals.evaluate (some a) b)
  notEquals : notEquals.evaluate (some a) b =
    (lessThan.evaluate (some a) b || greaterThan.evaluate (some a) b)
  swap : lessThan.evaluate (some a) b = greaterThan.evaluate (some b) a

/-- Every answer depends on how the two numbers are ordered, and on nothing else. -/
theorem comparedAsNumbers (ha : a.IsNumeric) (hb : b.IsNumeric) : ComparedAsNumbers a b := by
  obtain ⟨o, ho⟩ := exists_order? ha hb
  have hswap : b.order? a = some o.swap := by rw [order?_swap, ho, Option.map_some]
  obtain ⟨hequals, hnotEquals⟩ := evaluate_equals_of_order? ho
  have hless := evaluate_of_order? lessThan rfl ho
  have hgreater := evaluate_of_order? greaterThan rfl ho
  have hatMost := evaluate_of_order? atMost rfl ho
  have hatLeast := evaluate_of_order? atLeast rfl ho
  have hswapped := evaluate_of_order? greaterThan rfl hswap
  constructor
  case trichotomy =>
    rw [hless, hequals, hgreater]
    cases o with
    | lt => exact .inl ⟨rfl, rfl, rfl⟩
    | eq => exact .inr (.inl ⟨rfl, rfl, rfl⟩)
    | gt => exact .inr (.inr ⟨rfl, rfl, rfl⟩)
  case atLeast =>
    rw [hatLeast, hgreater, hequals]
    cases o <;> rfl
  case atMost =>
    rw [hatMost, hless, hequals]
    cases o <;> rfl
  case notEquals =>
    rw [hnotEquals, hless, hgreater]
    cases o <;> rfl
  case swap =>
    rw [hless, hswapped]
    cases o <;> rfl

/-- A side that is not numeric passes no ordering operator. -/
theorem evaluate_of_not_isNumeric (op : Operator) (hop : op.orderTest? = some test)
    {actual : Option Json} (h : ∀ v, actual = some v → ¬(v.IsNumeric ∧ b.IsNumeric)) :
    op.evaluate actual b = false := by
  have hnone : actual.bind (·.order? b) = none := by
    cases actual with
    | none => rfl
    | some v => exact order?_eq_none (h v rfl)
  rw [evaluate_of_orderTest? op hop, hnone]
  rfl

/-- The ordering operators order the numeric values, in agreement with equality, and no other value
passes one of them on either side. -/
theorem operators_order_numbers :
    (∀ a b : Json, a.IsNumeric → b.IsNumeric → ComparedAsNumbers a b) ∧
    (∀ a b c : Json, lessThan.evaluate (some a) b = true → lessThan.evaluate (some b) c = true →
      lessThan.evaluate (some a) c = true) ∧
    (∀ a b c : Json, atMost.evaluate (some a) b = true → atMost.evaluate (some b) c = true →
      atMost.evaluate (some a) c = true) ∧
    ∀ (actual : Option Json) (operand : Json),
      (∀ v, actual = some v → ¬(v.IsNumeric ∧ operand.IsNumeric)) →
      lessThan.evaluate actual operand = false ∧ greaterThan.evaluate actual operand = false ∧
      atMost.evaluate actual operand = false ∧ atLeast.evaluate actual operand = false := by
  refine ⟨fun a b ha hb => comparedAsNumbers ha hb, ?less, ?atMost, ?others⟩
  case less =>
    intro a b c hab hbc
    rw [evaluate_of_orderTest? lessThan rfl] at *
    refine order?_trans (fun i j k hij hjk => ?_) hab hbc
    rw [Ordering.isLT_iff_eq_lt] at *
    exact Std.TransCmp.lt_trans hij hjk
  case atMost =>
    intro a b c hab hbc
    rw [evaluate_of_orderTest? atMost rfl] at *
    exact order?_trans (fun _ _ _ => Std.TransCmp.isLE_trans) hab hbc
  case others =>
    intro actual operand h
    exact ⟨evaluate_of_not_isNumeric lessThan rfl h, evaluate_of_not_isNumeric greaterThan rfl h,
      evaluate_of_not_isNumeric atMost rfl h, evaluate_of_not_isNumeric atLeast rfl h⟩

/-- A string, a number and a string in increasing order; a boolean and an infinity are out of it. -/
theorem operators_order_numbers_mixed :
    notEquals.evaluate (some (.string " -1.5 ")) (.number (.integer 0)) = true ∧
    lessThan.evaluate (some (.string " -1.5 ")) (.string "5e-1") = true ∧
    atMost.evaluate (some (.string "0.0")) (.number (.integer 0)) = true ∧
    lessThan.evaluate (some (.string "-inf")) (.number (.integer 0)) = false ∧
    atLeast.evaluate (some (.bool true)) (.bool true) = false := by
  obtain ⟨hcompared, hless, hatMost, hothers⟩ := operators_order_numbers
  have hpadded : IsNumeric (.string " -1.5 ") :=
    exists_numeric?_iff.1 (Option.isSome_iff_exists.1 (by decide +kernel))
  have hbelow : lessThan.evaluate (some (.string " -1.5 ")) (.number (.integer 0)) = true := by
    decide +kernel
  have hzeros : atMost.evaluate (some (.string "0.0")) (.string "-0") = true := by decide +kernel
  refine ⟨(hcompared _ _ hpadded (.number _)).notEquals.trans ?_,
    hless _ _ _ hbelow (by decide +kernel), hatMost _ _ _ hzeros (by decide +kernel), ?_, ?_⟩
  · rw [hbelow]
    rfl
  · refine (hothers _ _ ?_).1
    rintro v hv ⟨hnumeric, -⟩
    cases hv
    obtain ⟨x, hx⟩ := exists_numeric?_iff.2 hnumeric
    cases hx
  · refine (hothers _ _ ?_).2.2.2
    rintro v hv ⟨hnumeric, -⟩
    cases hv
    cases hnumeric

end Json

end FeatureFlags
