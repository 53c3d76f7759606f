import FeatureFlags.Proofs.Json.Equality
import FeatureFlags.Proofs.Json.Number
import FeatureFlags.Rule.Operator

/-!
# Equality of attributes and operands

What counts of a value when it is compared is its number if it has one, else its text if it is a
scalar, else the value itself (`Json.Comparand`).

* `numeric?_of_scalarText?`: a scalar has the number that its text spells, so a value with a number
  and a scalar without one never have the same text.
* `equal?_eq`: so values of different kinds are never equal, and equality is that of the comparands.
* `equal?_comm`: the sides of a comparison may be swapped.

`equals_equivalence` is the main result.
-/

namespace FeatureFlags

namespace Json

variable {a b v : Json} {x y : Finite64} {s t : String}

/-! ## Scalars -/

/-- The value is a string, a number or a boolean. -/
inductive IsScalar : Json → Prop where
  | string (s : String) : IsScalar (.string s)
  | number (n : Number) : IsScalar (.number n)
  | bool (b : Bool) : IsScalar (.bool b)

theorem scalarText?_eq_none_iff : v.scalarText? = none ↔ ¬v.IsScalar := by
  constructor
  · rintro h (s | n | b)
    · cases h
    · cases h
    · cases b <;> cases h
  · intro h
    cases v with
    | bool b => exact absurd (.bool b) h
    | number n => exact absurd (.number n) h
    | string s => exact absurd (.string s) h
    | _ => rfl

theorem exists_scalarText?_iff : (∃ s, v.scalarText? = some s) ↔ v.IsScalar := by
  rw [← Option.isSome_iff_exists, ← Option.ne_none_iff_isSome, Ne, scalarText?_eq_none_iff,
    Classical.not_not]

theorem isScalar_of_numeric? (h : v.numeric? = some x) : v.IsScalar := by
  cases v with
  | number n => exact .number n
  | string s => exact .string s
  | _ => cases h

/-- A scalar has the number that its text spells. -/
theorem numeric?_of_scalarText? (hv : v.IsBounded) (h : v.scalarText? = some s) :
    (Json.string s).numeric? = v.numeric? := by
  cases v with
  | string s => cases h; rfl
  | number n =>
    cases h
    have hblank : Text.trim n.text.toList = n.text.toList :=
      Text.trim_eq_self fun _ => Number.not_isBlank_of_mem_text
    show Binary64.read? (Text.trim n.text.toList) >>= Binary64.finite? = some n.toFinite
    rw [hblank, Number.read?_text (hv n rfl)]
    rfl
  | bool b =>
    cases b with
    | true => cases h; rfl
    | false => cases h; rfl
  | _ => cases h

/-- A value with a number and a scalar without one never have the same text. -/
theorem scalarText?_ne (ha : a.IsBounded) (hb : b.IsBounded) (hx : a.numeric? = some x)
    (hy : b.numeric? = none) (hs : a.scalarText? = some s) (ht : b.scalarText? = some t) :
    s ≠ t := by
  rintro rfl
  have hsame : a.numeric? = b.numeric? :=
    (numeric?_of_scalarText? ha hs).symm.trans (numeric?_of_scalarText? hb ht)
  rw [hx, hy] at hsame
  cases hsame

/-! ## Comparisons -/

/-- Two values both have numbers, or one of them has none. -/
theorem numeric?_cases (a b : Json) :
    (∃ x y, a.numeric? = some x ∧ b.numeric? = some y) ∨
      (a.numeric? = none ∨ b.numeric? = none) := by
  cases hx : a.numeric? with
  | none => exact .inr (.inl rfl)
  | some x =>
    cases hy : b.numeric? with
    | none => exact .inr (.inr rfl)
    | some y => exact .inl ⟨x, y, rfl, rfl⟩

theorem equal?_of_numeric (hx : a.numeric? = some x) (hy : b.numeric? = some y) :
    a.equal? b = some (x.eq y) := by
  unfold equal?
  rw [hx, hy]

theorem equal?_of_not_numeric (h : a.numeric? = none ∨ b.numeric? = none) :
    a.equal? b =
      match a.scalarText?, b.scalarText? with
      | some s, some t => some (s == t)
      | none, none => some (a.same b)
      | _, _ => none := by
  unfold equal?
  split
  · next hx hy => simp [hx, hy] at h
  · rfl

/-- The sides of a comparison may be swapped. -/
theorem equal?_comm (a b : Json) : a.equal? b = b.equal? a := by
  rcases numeric?_cases a b with ⟨x, y, hx, hy⟩ | h
  · rw [equal?_of_numeric hx hy, equal?_of_numeric hy hx, Finite64.eq_comm]
  · rw [equal?_of_not_numeric h, equal?_of_not_numeric h.symm]
    cases a.scalarText? with
    | some s =>
      cases b.scalarText? with
      | some t => exact congrArg some Bool.beq_comm
      | none => rfl
    | none =>
      cases b.scalarText? with
      | some t => rfl
      | none => exact congrArg some (same_comm a b)

/-- There is a comparison between two scalars, and between two values that are none. -/
theorem equal?_eq_none_iff : a.equal? b = none ↔ ¬(a.IsScalar ↔ b.IsScalar) := by
  rcases numeric?_cases a b with ⟨x, y, hx, hy⟩ | h
  · simp [equal?_of_numeric hx hy, isScalar_of_numeric? hx, isScalar_of_numeric? hy]
  · rw [equal?_of_not_numeric h, ← exists_scalarText?_iff, ← exists_scalarText?_iff]
    cases a.scalarText? <;> cases b.scalarText? <;> simp

/-! ## What counts in a comparison -/

/-- What counts of a value when it is compared. -/
inductive Comparand where
  | number (x : Finite64)
  | text (s : String)
  | structured (v : Json)

/-- The number of a value, else its text, else the value. -/
def comparand (v : Json) : Comparand :=
  match v.numeric?, v.scalarText? with
  | some x, _ => .number x
  | none, some s => .text s
  | none, none => .structured v

namespace Comparand

/-- Equality of comparands of one kind; those of different kinds are never equal. -/
def same : Comparand → Comparand → Bool
  | .number x, .number y => x.eq y
  | .text s, .text t => s == t
  | .structured v, .structured w => v.same w
  | _, _ => false

theorem same_comm (p q : Comparand) : p.same q = q.same p := by
  cases p with
  | number x =>
    cases q with
    | number y => exact x.eq_comm y
    | _ => rfl
  | text s =>
    cases q with
    | text t => exact Bool.beq_comm
    | _ => rfl
  | structured v =>
    cases q with
    | structured w => exact v.same_comm w
    | _ => rfl

theorem same_equivalence : Equivalence fun p q : Comparand => p.same q = true where
  refl p := by
    cases p with
    | number x => exact x.eq_refl
    | text s => exact beq_self_eq_true s
    | structured v => exact v.same_refl
  symm {p q} h := (same_comm q p).trans h
  trans {p q r} hpq hqr := by
    cases p with
    | number x =>
      cases q with
      | number y =>
        cases r with
        | number z => exact Finite64.eq_trans hpq hqr
        | _ => cases hqr
      | _ => cases hpq
    | text s =>
      cases q with
      | text t =>
        obtain rfl := eq_of_beq hpq
        exact hqr
      | _ => cases hpq
    | structured v =>
      cases q with
      | structured w =>
        cases r with
        | structured u => exact Json.same_trans hpq hqr
        | _ => cases hqr
      | _ => cases hpq

end Comparand

theorem comparand_of_numeric (h : v.numeric? = some x) : v.comparand = .number x := by
  rw [comparand, h]

theorem comparand_of_text (h : v.numeric? = none) (hs : v.scalarText? = some s) :
    v.comparand = .text s := by
  rw [comparand, h, hs]

theorem comparand_of_structured (h : v.scalarText? = none) : v.comparand = .structured v := by
  have hnone : v.numeric? = none := by
    by_contra hsome
    obtain ⟨x, hx⟩ := Option.ne_none_iff_exists'.1 hsome
    exact scalarText?_eq_none_iff.1 h (isScalar_of_numeric? hx)
  rw [comparand, hnone, h]

/-- A number is equal to what has an equal number, and to nothing else. -/
theorem equals_of_number (ha : a.IsBounded) (hb : b.IsBounded) (hx : a.numeric? = some x) :
    a.equals b = a.comparand.same b.comparand := by
  rw [comparand_of_numeric hx, equals]
  cases hy : b.numeric? with
  | some y =>
    rw [equal?_of_numeric hx hy, comparand_of_numeric hy, Option.some_beq_some, beq_true]
    rfl
  | none =>
    -- The number has a text as well, but it is never the text of a scalar without a number.
    obtain ⟨s, hs⟩ := exists_scalarText?_iff.2 (isScalar_of_numeric? hx)
    rw [equal?_of_not_numeric (.inr hy), hs]
    cases ht : b.scalarText? with
    | some t =>
      have hne : (s == t) = false := beq_eq_false_iff_ne.2 (scalarText?_ne ha hb hx hy hs ht)
      rw [comparand_of_text hy ht]
      dsimp only
      rw [hne]
      rfl
    | none =>
      rw [comparand_of_structured ht]
      rfl

/-- Values are equal if their comparands are. -/
theorem equals_eq (ha : a.IsBounded) (hb : b.IsBounded) :
    a.equals b = a.comparand.same b.comparand := by
  cases hx : a.numeric? with
  | some x => exact equals_of_number ha hb hx
  | none =>
    cases hy : b.numeric? with
    | some y =>
      rw [equals, equal?_comm, Comparand.same_comm]
      exact equals_of_number hb ha hy
    | none =>
      rw [equals, equal?_of_not_numeric (.inl hx)]
      cases hs : a.scalarText? with
      | some s =>
        rw [comparand_of_text hx hs]
        cases ht : b.scalarText? with
        | some t => exact (comparand_of_text hy ht) ▸ beq_true (s == t)
        | none => exact (comparand_of_structured ht) ▸ rfl
      | none =>
        rw [comparand_of_structured hs]
        cases ht : b.scalarText? with
        | some t => exact (comparand_of_text hy ht) ▸ rfl
        | none => exact (comparand_of_structured ht) ▸ beq_true (a.same b)

/-! ## Main result -/

/-- An attribute that is not null is compared as it is. -/
theorem evaluate_equals (hpresent : a ≠ .null) :
    Operator.equals.evaluate (some a) b = a.equals b := by
  cases a with
  | null => exact absurd rfl hpresent
  | _ => rfl

/-- Equality is an equivalence of the values with bounded numbers, which all values are that a text
spells.  It goes by the number if there is one, else by the text of a scalar, else by the value.
The sides may be swapped even where they cannot be compared, and the operator asks for this
equality.  A number is not equal to a string that spells none, and a scalar is not equal to null, an
array or an object. -/
theorem equals_equivalence :
    Equivalence (fun v w : {v : Json // v.IsBounded} => v.1.equals w.1 = true) ∧
    (∀ text : String, ∀ v : Json, Wire.parse? text = some v → v.IsBounded) ∧
    (∀ v w : {v : Json // v.IsBounded}, v.1.equals w.1 = v.1.comparand.same w.1.comparand) ∧
    (∀ v w : Json, v.equal? w = w.equal? v) ∧
    (∀ actual operand : Json, actual ≠ .null →
      Operator.equals.evaluate (some actual) operand = actual.equals operand) ∧
    (∀ n : Number, ∀ s : String, n.IsBounded → (Json.string s).numeric? = none →
      (Json.number n).equals (.string s) = false) ∧
    ∀ v w : Json, v.IsScalar → ¬w.IsScalar → v.equals w = false := by
  have hequals : ∀ v w : {v : Json // v.IsBounded},
      v.1.equals w.1 = v.1.comparand.same w.1.comparand := fun v w => equals_eq v.2 w.2
  refine ⟨?equivalence, fun _ _ => isBounded_of_parse?, hequals, equal?_comm,
    fun _ _ => evaluate_equals, ?number, ?scalar⟩
  case equivalence =>
    simp only [hequals]
    exact Comparand.same_equivalence.comap fun v : {v : Json // v.IsBounded} => v.1.comparand
  case number =>
    intro n s hn hs
    have hnumber : (Json.number n).IsBounded := fun _ h => Json.number.inj h ▸ hn
    have hstring : (Json.string s).IsBounded := fun _ h => nomatch h
    rw [equals_eq hnumber hstring, comparand_of_numeric rfl, comparand_of_text hs rfl]
    rfl
  case scalar =>
    intro v w hv hw
    have hnone : v.equal? w = none := equal?_eq_none_iff.2 fun h => hw (h.1 hv)
    rw [equals, hnone]
    rfl

/-- A number, a string with blanks around its number and a string with an exponent. -/
def ones : List {v : Json // v.IsBounded} :=
  [⟨.number (.integer 1), fun _ h => Json.number.inj h ▸ rfl⟩,
    ⟨.string " 1.0 ", fun _ h => nomatch h⟩, ⟨.string "10e-1", fun _ h => nomatch h⟩]

theorem equals_equivalence_ones :
    (Json.number (.integer 1)).equals (.string "10e-1") = true ∧
    (Json.number (.integer 1)).equals (.string "one") = false ∧
    (Json.bool true).equals (.array [.bool true]) = false ∧
    Operator.equals.evaluate (some (.bool true)) (.string "true") = true := by
  obtain ⟨hequivalence, _, _, _, hoperator, hnumber, hscalar⟩ := equals_equivalence
  have hpadded : (Json.number (.integer 1)).equals (.string " 1.0 ") = true := by decide +kernel
  have hexponent : (Json.string " 1.0 ").equals (.string "10e-1") = true := by decide +kernel
  refine ⟨?_, hnumber _ _ (by decide) (by decide +kernel), hscalar _ _ (.bool true) nofun, ?_⟩
  · exact @hequivalence.trans ones[0] ones[1] ones[2] hpadded hexponent
  · exact (hoperator (.bool true) (.string "true") nofun).trans (by decide +kernel)

end Json

end FeatureFlags
