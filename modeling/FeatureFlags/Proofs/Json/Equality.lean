import FeatureFlags.Json.Basic

/-!
# Equality of values

`Json.same` is an equivalence: `same_refl`, `same_comm`, `same_trans`.  It is so for arrays and
objects because it is for what is in them, so every law is proved of values, of lists of values and
of lists of fields at once.
-/

namespace FeatureFlags

/-! ## Numbers -/

namespace Finite64

variable {x y z : Finite64}

theorem eq_refl (x : Finite64) : x.eq x = true := beq_self_eq_true x.order

theorem eq_comm (x y : Finite64) : x.eq y = y.eq x := Bool.beq_comm

theorem eq_iff : x.eq y = true ↔ x.order = y.order := beq_iff_eq

theorem eq_trans (hxy : x.eq y = true) (hyz : y.eq z = true) : x.eq z = true :=
  eq_iff.2 ((eq_iff.1 hxy).trans (eq_iff.1 hyz))

end Finite64

namespace Json

namespace Number

theorem same_refl (n : Number) : n.same n = true := by
  cases n with
  | integer n => exact beq_self_eq_true n
  | float x => exact x.eq_refl

theorem same_comm (m n : Number) : m.same n = n.same m := by
  cases m with
  | integer m =>
    cases n with
    | integer n => exact Bool.beq_comm
    | float y => rfl
  | float x =>
    cases n with
    | integer n => rfl
    | float y => exact x.eq_comm y

theorem same_trans {l m n : Number} (hlm : l.same m = true) (hmn : m.same n = true) :
    l.same n = true := by
  cases l with
  | integer l =>
    cases m with
    | float y => cases hlm
    | integer m =>
      obtain rfl := eq_of_beq hlm
      exact hmn
  | float x =>
    cases m with
    | integer m => cases hlm
    | float y =>
      cases n with
      | integer n => cases hmn
      | float z => exact Finite64.eq_trans hlm hmn

end Number

/-! ## Values -/

mutual

theorem same_refl : ∀ v : Json, v.same v = true
  | .null => rfl
  | .bool b => beq_self_eq_true b
  | .number n => n.same_refl
  | .string s => beq_self_eq_true s
  | .array items => sameItems_refl items
  | .object fields => sameFields_refl fields

theorem sameItems_refl : ∀ vs : List Json, sameItems vs vs = true
  | [] => rfl
  | v :: vs => by
    rw [sameItems, same_refl v, sameItems_refl vs]
    rfl

theorem sameFields_refl : ∀ fs : List (String × Json), sameFields fs fs = true
  | [] => rfl
  | (k, v) :: fs => by
    rw [sameFields, beq_self_eq_true, same_refl v, sameFields_refl fs]
    rfl

end

mutual

theorem same_comm : ∀ v w : Json, v.same w = w.same v
  | .null, w => by cases w <;> rfl
  | .bool b, w => by
    cases w with
    | bool c => exact Bool.beq_comm
    | _ => rfl
  | .number m, w => by
    cases w with
    | number n => exact m.same_comm n
    | _ => rfl
  | .string s, w => by
    cases w with
    | string t => exact Bool.beq_comm
    | _ => rfl
  | .array vs, w => by
    cases w with
    | array ws => exact sameItems_comm vs ws
    | _ => rfl
  | .object fs, w => by
    cases w with
    | object gs => exact sameFields_comm fs gs
    | _ => rfl

theorem sameItems_comm : ∀ vs ws : List Json, sameItems vs ws = sameItems ws vs
  | [], [] => rfl
  | [], _ :: _ => rfl
  | _ :: _, [] => rfl
  | v :: vs, w :: ws => by rw [sameItems, sameItems, same_comm v w, sameItems_comm vs ws]

theorem sameFields_comm : ∀ fs gs : List (String × Json), sameFields fs gs = sameFields gs fs
  | [], [] => rfl
  | [], _ :: _ => rfl
  | _ :: _, [] => rfl
  | (k, v) :: fs, (l, w) :: gs => by
    rw [sameFields, sameFields, Bool.beq_comm, same_comm v w, sameFields_comm fs gs]

end

mutual

theorem same_trans : ∀ {u v w : Json}, u.same v = true → v.same w = true → u.same w = true
  | .null, v, w, huv, hvw => by
    cases v with
    | null => exact hvw
    | _ => cases huv
  | .bool b, v, w, huv, hvw => by
    cases v with
    | bool c =>
      obtain rfl := eq_of_beq huv
      exact hvw
    | _ => cases huv
  | .number l, v, w, huv, hvw => by
    cases v with
    | number m =>
      cases w with
      | number n => exact Number.same_trans huv hvw
      | _ => cases hvw
    | _ => cases huv
  | .string s, v, w, huv, hvw => by
    cases v with
    | string t =>
      obtain rfl := eq_of_beq huv
      exact hvw
    | _ => cases huv
  | .array us, v, w, huv, hvw => by
    cases v with
    | array vs =>
      cases w with
      | array ws => exact sameItems_trans huv hvw
      | _ => cases hvw
    | _ => cases huv
  | .object fs, v, w, huv, hvw => by
    cases v with
    | object gs =>
      cases w with
      | object hs => exact sameFields_trans huv hvw
      | _ => cases hvw
    | _ => cases huv

theorem sameItems_trans : ∀ {us vs ws : List Json}, sameItems us vs = true →
    sameItems vs ws = true → sameItems us ws = true
  | [], [], _, _, hvw => hvw
  | [], _ :: _, _, huv, _ => by cases huv
  | _ :: _, [], _, huv, _ => by cases huv
  | _ :: _, _ :: _, [], _, hvw => by cases hvw
  | u :: us, v :: vs, w :: ws, huv, hvw => by
    rw [sameItems, Bool.and_eq_true] at huv hvw ⊢
    exact ⟨same_trans huv.1 hvw.1, sameItems_trans huv.2 hvw.2⟩

theorem sameFields_trans : ∀ {fs gs hs : List (String × Json)}, sameFields fs gs = true →
    sameFields gs hs = true → sameFields fs hs = true
  | [], [], _, _, hvw => hvw
  | [], _ :: _, _, huv, _ => by cases huv
  | _ :: _, [], _, huv, _ => by cases huv
  | _ :: _, _ :: _, [], _, hvw => by cases hvw
  | (k, u) :: fs, (l, v) :: gs, (m, w) :: hs, huv, hvw => by
    rw [sameFields, Bool.and_eq_true, Bool.and_eq_true, beq_iff_eq] at huv hvw ⊢
    obtain ⟨⟨hkl, huv⟩, hfg⟩ := huv
    obtain ⟨⟨hlm, hvw⟩, hgh⟩ := hvw
    exact ⟨⟨hkl.trans hlm, same_trans huv hvw⟩, sameFields_trans hfg hgh⟩

end

end Json

end FeatureFlags
