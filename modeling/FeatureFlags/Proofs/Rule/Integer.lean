import FeatureFlags.Proofs.Rule.Membership
import Mathlib.Data.List.Forall2

/-!
# Whole numbers in comparisons

Whole numbers of 64 bits, written as numbers or as their decimal texts (`Json.IsInteger`), are
compared as the doubles that they are rounded to.

* `toFinite_eq_iff`: the double of a whole number has its sign and its rounded magnitude.
* `toFinite_eq_iff_of_isShort`: numbers of at most 53 significant bits, so all up to `2 ^ 53`, are
  told apart.
* `sub_mul_le_of_toFinite_eq`: others are taken for one another only if they agree in 52 bits.

`integers_compared_as_doubles` is the main result, and `distinct_integers_equal` shows two numbers
that are not told apart.
-/

namespace FeatureFlags

open Operator

/-- Numbers of one order are the same, unless one of them is minus zero. -/
theorem Finite64.eq_of_order_eq {x y : Finite64} (hx : x.negative = true → x.rank ≠ 0)
    (hy : y.negative = true → y.rank ≠ 0) (h : x.order = y.order) : x = y := by
  obtain ⟨sx, rx, _⟩ := x
  obtain ⟨sy, ry, _⟩ := y
  cases sx <;> cases sy <;> simp [Finite64.order] at hx hy h ⊢ <;> omega

namespace Json

open Magnitude (IsShort)

variable {m n : Int} {a b : Json}

namespace Number

/-! ## Whole numbers as doubles -/

/-- The double of a whole number has its sign and its rounded magnitude. -/
theorem toFinite_eq_iff (hm : fitsInteger m = true) (hn : fitsInteger n = true) :
    (integer m).toFinite = (integer n).toFinite ↔
      (m < 0 ↔ n < 0) ∧ Magnitude.ofRatio m.natAbs 1 = Magnitude.ofRatio n.natAbs 1 := by
  obtain ⟨_, hm⟩ := toFinite_integer hm
  obtain ⟨_, hn⟩ := toFinite_integer hn
  rw [hm, hn, Finite64.mk.injEq, decide_eq_decide]

/-- No whole number is rounded to minus zero. -/
theorem rank_ne_zero (hn : fitsInteger n = true)
    (hnegative : (integer n).toFinite.negative = true) : (integer n).toFinite.rank ≠ 0 := by
  obtain ⟨_, hfinite⟩ := toFinite_integer hn
  rw [hfinite] at hnegative ⊢
  intro hzero
  have habs : n.natAbs = 0 := Magnitude.eq_zero_of_ofRatio_eq_zero hzero
  have hneg : n < 0 := of_decide_eq_true hnegative
  omega

/-- So the doubles of whole numbers are equal only if they are the same. -/
theorem eq_toFinite_iff (hm : fitsInteger m = true) (hn : fitsInteger n = true) :
    (integer m).toFinite.eq (integer n).toFinite = true ↔
      (integer m).toFinite = (integer n).toFinite := by
  rw [Finite64.eq_iff]
  refine ⟨Finite64.eq_of_order_eq (rank_ne_zero hm) (rank_ne_zero hn), fun h => ?_⟩
  rw [h]

/-- Whole numbers of the same double agree in 52 bits. -/
theorem sub_mul_le_of_toFinite_eq (hm : fitsInteger m = true) (hn : fitsInteger n = true)
    (h : (integer m).toFinite = (integer n).toFinite) :
    (m - n).natAbs * 2 ^ 52 ≤ max m.natAbs n.natAbs := by
  obtain ⟨hsign, hrank⟩ := (toFinite_eq_iff hm hn).1 h
  rcases Nat.le_total m.natAbs n.natAbs with hle | hle
  · have hdiff : (m - n).natAbs = n.natAbs - m.natAbs := by omega
    rw [hdiff, max_eq_right hle]
    exact Magnitude.sub_mul_le hle hrank
  · have hdiff : (m - n).natAbs = m.natAbs - n.natAbs := by omega
    rw [hdiff, max_eq_left hle]
    exact Magnitude.sub_mul_le hle hrank.symm

/-- Whole numbers of at most 53 significant bits have doubles of their own. -/
theorem toFinite_eq_iff_of_isShort (hm : fitsInteger m = true) (hn : fitsInteger n = true)
    (hshort : IsShort m.natAbs) (hshort' : IsShort n.natAbs) :
    (integer m).toFinite = (integer n).toFinite ↔ m = n := by
  constructor
  · intro h
    obtain ⟨hsign, hrank⟩ := (toFinite_eq_iff hm hn).1 h
    have habs : m.natAbs = n.natAbs := Magnitude.eq_of_isShort hshort hshort' hrank
    omega
  · rintro rfl
    rfl

end Number

/-! ## Whole numbers as sides of a comparison -/

/-- The value is a whole number or the decimal text of one. -/
inductive IsInteger (n : Int) : Json → Prop where
  | number : IsInteger n (.number (.integer n))
  | text : IsInteger n (.string (toString n))

theorem IsInteger.isScalar (h : b.IsInteger n) : b.IsScalar := by
  cases h with
  | number => exact .number _
  | text => exact .string _

theorem IsInteger.numeric? (hn : Number.fitsInteger n = true) (h : b.IsInteger n) :
    b.numeric? = some (Number.integer n).toFinite := by
  cases h with
  | number => rfl
  | text =>
    have hbounded : (Json.number (.integer n)).IsBounded := fun _ h => Json.number.inj h ▸ hn
    exact numeric?_of_scalarText? hbounded rfl

/-- Whole numbers are equal if their doubles are the same. -/
theorem equal?_of_isInteger (hm : Number.fitsInteger m = true) (hn : Number.fitsInteger n = true)
    (ha : a.IsInteger m) (hb : b.IsInteger n) :
    a.equal? b = some (decide ((Number.integer m).toFinite = (Number.integer n).toFinite)) := by
  rw [equal?_of_numeric (ha.numeric? hm) (hb.numeric? hn), Option.some.injEq, Bool.eq_iff_iff,
    decide_eq_true_iff]
  exact Number.eq_toFinite_iff hm hn

/-- A whole number is in a list if one there has the same double. -/
theorem any_equals_iff (hm : Number.fitsInteger m = true) (ha : a.IsInteger m) {ns : List Int}
    {bs : List Json} (hns : ∀ n ∈ ns, Number.fitsInteger n = true)
    (h : List.Forall₂ (fun n b => b.IsInteger n) ns bs) :
    bs.any a.equals = true ↔
      ∃ n ∈ ns, (Number.integer m).toFinite = (Number.integer n).toFinite := by
  induction h with
  | nil => simp
  | @cons n b ns bs hb _ ih =>
    obtain ⟨hn, hns⟩ := List.forall_mem_cons.1 hns
    have hequals : a.equals b = true ↔
        (Number.integer m).toFinite = (Number.integer n).toFinite := by
      rw [equals, equal?_of_isInteger hm hn ha hb, Option.some_beq_some, beq_true,
        decide_eq_true_iff]
    rw [List.any_cons, Bool.or_eq_true, hequals, ih hns, List.exists_mem_cons_iff]

/-! ## Main result -/

/-- How a whole number is compared with another one. -/
structure ComparedAsDoubles (m n : Int) (a b : Json) : Prop where
  equals_iff : Operator.equals.evaluate (some a) b = true ↔
    (Number.integer m).toFinite = (Number.integer n).toFinite
  notEquals_iff : notEquals.evaluate (some a) b = true ↔
    (Number.integer m).toFinite ≠ (Number.integer n).toFinite
  /-- Numbers that are taken for one another agree in 52 bits. -/
  close : Operator.equals.evaluate (some a) b = true →
    (m - n).natAbs * 2 ^ 52 ≤ max m.natAbs n.natAbs
  /-- Numbers of at most 53 significant bits are told apart. -/
  apart : IsShort m.natAbs → IsShort n.natAbs →
    (Operator.equals.evaluate (some a) b = true ↔ m = n) ∧
      (notEquals.evaluate (some a) b = true ↔ m ≠ n)

theorem comparedAsDoubles (hm : Number.fitsInteger m = true) (hn : Number.fitsInteger n = true)
    (ha : a.IsInteger m) (hb : b.IsInteger n) : ComparedAsDoubles m n a b := by
  have hne : a ≠ .null := ha.isScalar.ne_null
  have hequal := equal?_of_isInteger hm hn ha hb
  have hequals : Operator.equals.evaluate (some a) b = true ↔
      (Number.integer m).toFinite = (Number.integer n).toFinite := by
    rw [evaluate_equals hne, Json.equals, hequal, Option.some_beq_some, beq_true,
      decide_eq_true_iff]
  have hnotEquals : notEquals.evaluate (some a) b = true ↔
      (Number.integer m).toFinite ≠ (Number.integer n).toFinite := by
    have hnegation : notEquals.evaluate (some a) b = (a.equal? b == some false) :=
      evaluate_negation_of_ne_null .equality hne
    rw [hnegation, hequal, Option.some_beq_some, beq_false, Bool.not_eq_true',
      decide_eq_false_iff_not]
  refine ⟨hequals, hnotEquals, fun h => ?_, fun hshort hshort' => ?_⟩
  · exact Number.sub_mul_le_of_toFinite_eq hm hn (hequals.1 h)
  · have hexact := Number.toFinite_eq_iff_of_isShort hm hn hshort hshort'
    exact ⟨hequals.trans hexact, hnotEquals.trans hexact.not⟩

theorem evaluate_isIn_iff (hm : Number.fitsInteger m = true) (ha : a.IsInteger m) {ns : List Int}
    {bs : List Json} {operand : Json} (hns : ∀ n ∈ ns, Number.fitsInteger n = true)
    (hbs : List.Forall₂ (fun n b => b.IsInteger n) ns bs) (hlisted : operand.listed? = some bs) :
    isIn.evaluate (some a) operand = true ↔
      ∃ n ∈ ns, (Number.integer m).toFinite = (Number.integer n).toFinite := by
  have hoperator : isIn.evaluate (some a) operand = (a.memberOf? operand == some true) :=
    evaluate_operator_of_ne_null .membership ha.isScalar.ne_null
  rw [hoperator, memberOf?_eq ha.isScalar, hlisted, Option.map_some, Option.some_beq_some,
    beq_true, any_equals_iff hm ha hns hbs]

/-- Whole numbers of 64 bits are compared as the doubles that they are rounded to, and looked up as
such in every list of them, however it is spelt.  So a number is equal to itself, and the comparison
is exact for numbers of at most 53 significant bits, which all numbers up to `2 ^ 53` are. -/
theorem integers_compared_as_doubles {m : Int} {a : Json} (hm : Number.fitsInteger m = true)
    (ha : a.IsInteger m) :
    (∀ n b, Number.fitsInteger n = true → b.IsInteger n → ComparedAsDoubles m n a b) ∧
    (∀ (ns : List Int) (bs : List Json) (operand : Json),
      (∀ n ∈ ns, Number.fitsInteger n = true) →
      List.Forall₂ (fun n b => b.IsInteger n) ns bs → operand.listed? = some bs →
      (isIn.evaluate (some a) operand = true ↔
        ∃ n ∈ ns, (Number.integer m).toFinite = (Number.integer n).toFinite) ∧
      (IsShort m.natAbs → (∀ n ∈ ns, IsShort n.natAbs) →
        (isIn.evaluate (some a) operand = true ↔ m ∈ ns))) ∧
    ∀ n : Int, n.natAbs ≤ 2 ^ 53 → IsShort n.natAbs := by
  refine ⟨fun n b hn hb => comparedAsDoubles hm hn ha hb, ?listed, fun _ => Magnitude.isShort_of_le⟩
  case listed =>
    intro ns bs operand hns hbs hlisted
    have hin := evaluate_isIn_iff hm ha hns hbs hlisted
    refine ⟨hin, fun hshort hshorts => hin.trans ?_⟩
    constructor
    · rintro ⟨n, hmem, h⟩
      exact (Number.toFinite_eq_iff_of_isShort hm (hns n hmem) hshort (hshorts n hmem)).1 h ▸ hmem
    · exact fun hmem => ⟨m, hmem, rfl⟩

/-- The largest number up to which all are told apart, and its text in a list. -/
theorem integers_compared_as_doubles_listed :
    notEquals.evaluate (some (.number (.integer 9007199254740992))) (.number (.integer 7)) = true ∧
    isIn.evaluate (some (.number (.integer 9007199254740992)))
      (.array [.number (.integer 7), .string "9007199254740992"]) = true := by
  obtain ⟨hcompared, hlisted, hshort⟩ :=
    integers_compared_as_doubles (m := 9007199254740992) (by decide) .number
  have htext : IsInteger 9007199254740992 (.string "9007199254740992") := by
    have hspelt : toString (9007199254740992 : Int) = "9007199254740992" := by decide +kernel
    exact hspelt ▸ .text
  have hseven : IsShort (7 : Int).natAbs := hshort 7 (by decide)
  have hbig : IsShort (9007199254740992 : Int).natAbs := hshort _ (by decide)
  refine ⟨((hcompared 7 _ (by decide) .number).apart hbig hseven).2.2 (by decide), ?_⟩
  have hin := (hlisted [7, 9007199254740992] _ (.array _) (by decide)
    (.cons .number (.cons htext .nil)) rfl).2 hbig
  refine (hin fun n hn => ?_).2 (by decide)
  rcases hn with _ | ⟨_, _ | ⟨_, _ | _⟩⟩
  · exact hseven
  · exact hbig

/-- Two numbers of 54 bits have one double.  They are equal, as numbers and as texts, and the one is
in a list of the other. -/
theorem distinct_integers_equal :
    Number.fitsInteger 9007199254740993 = true ∧ Number.fitsInteger 9007199254740992 = true ∧
    (9007199254740993 : Int) ≠ 9007199254740992 ∧
    Operator.equals.evaluate (some (.number (.integer 9007199254740993)))
      (.number (.integer 9007199254740992)) = true ∧
    notEquals.evaluate (some (.string "9007199254740993")) (.string "9007199254740992") = false ∧
    isIn.evaluate (some (.number (.integer 9007199254740993)))
      (.array [.number (.integer 9007199254740992)]) = true := by
  decide +kernel

end Json

end FeatureFlags
