import FeatureFlags.Proofs.Json.Equality
import FeatureFlags.Rule.Condition
import Mathlib.Logic.Relation

/-!
# Conditions with compiled patterns

A condition in use keeps what it has compiled (`Condition.Live`).  Here is a pool of them, made,
read, copied, edited and evaluated in any order (`Condition.Step`), where only conditions are edited
that have not been evaluated yet.

* `Live.evaluate_eq`: a condition that has compiled nothing but the pattern of its operand
  (`Live.Valid`) gives the answer of its operator.
* `Step.sound` and `sound_of_reached`: all conditions of the pool are of that kind, and those that
  have not been evaluated have compiled nothing, so that an edit leaves no other pattern behind.
* `Live.same_copy`: a copy is equal to what it is a copy of.

`evaluates_as_operator` is the main result.
-/

namespace FeatureFlags

open Operator

/-- To match an attribute is to match its pattern in what is there of the attribute. -/
theorem Operator.evaluate_isMatch (actual : Option Json) (operand : Json) :
    isMatch.evaluate actual operand =
      (present? actual).any (isMatched (patternOf? operand)) := by
  simp only [Operator.evaluate]
  cases present? actual <;> rfl

namespace Condition

/-! ## One condition -/

theorem same_refl (c : Condition) : c.same c = true := by
  rw [same, beq_self_eq_true, beq_self_eq_true, Json.same_refl]
  rfl

namespace Live

variable {c : Live} {actual : Option Json}

/-- Nothing has been compiled but the pattern of the operand. -/
def Valid (c : Live) : Prop := ∀ p, c.compiled = some p → p = patternOf? c.condition.value

theorem valid_of_none (h : c.compiled = none) : c.Valid := by
  intro p hp
  cases h.symm.trans hp

theorem pattern_fst (h : c.Valid) : c.pattern.1 = patternOf? c.condition.value := by
  unfold pattern
  split
  · next p hp => exact h p hp
  · rfl

theorem condition_pattern (c : Live) : c.pattern.2.condition = c.condition := by
  unfold pattern
  split <;> rfl

theorem valid_pattern (h : c.Valid) : c.pattern.2.Valid := by
  unfold pattern
  split
  · exact h
  · intro p hp
    exact (Option.some.inj hp).symm

/-- The answer is that of the operator, whether the pattern has been compiled before or not. -/
theorem evaluate_eq (h : c.Valid) (actual : Option Json) :
    (c.evaluate actual).1 = c.condition.operator.evaluate actual c.condition.value := by
  unfold evaluate
  split
  · next hmatch =>
    rw [hmatch, Operator.evaluate_isMatch, ← pattern_fst h]
  · rfl

/-- An evaluation leaves the condition as it is. -/
theorem condition_evaluate (c : Live) (actual : Option Json) :
    (c.evaluate actual).2.condition = c.condition := by
  unfold evaluate
  split
  · exact c.condition_pattern
  · rfl

theorem valid_evaluate (h : c.Valid) (actual : Option Json) : (c.evaluate actual).2.Valid := by
  unfold evaluate
  split
  · exact valid_pattern h
  · exact h

/-- A copy is equal to the original, from both sides. -/
theorem same_copy (c : Live) : c.copy.same c = true ∧ c.same c.copy = true :=
  ⟨c.condition.same_refl, c.condition.same_refl⟩

end Live

/-! ## A pool of conditions -/

/-- A condition of a pool. -/
structure Held where
  live : Live
  /-- Whether it has been evaluated since it was made or copied. -/
  evaluated : Bool

namespace Held

/-- A condition that has just been made, read or copied. -/
def fresh (live : Live) : Held := ⟨live, false⟩

/-- The condition with other parts. -/
def edit (x : Held) (condition : Condition) : Held := { x with live := x.live.edit condition }

/-- The condition after an evaluation. -/
def evaluate (x : Held) (actual : Option Json) : Held := ⟨(x.live.evaluate actual).2, true⟩

/-- Nothing has been compiled but the pattern of the operand, and nothing at all before the first
evaluation. -/
structure Sound (x : Held) : Prop where
  valid : x.live.Valid
  unused : x.evaluated = false → x.live.compiled = none

theorem sound_ofCondition (c : Condition) : (fresh (.ofCondition c)).Sound where
  valid := Live.valid_of_none rfl
  unused _ := rfl

end Held

/-- What may be done with a pool: a condition is made, or read from a document, or copied, or edited
if it has not been evaluated, or evaluated. -/
inductive Step : List Held → List Held → Prop where
  | make (pool : List Held) (c : Condition) : Step pool (pool ++ [.fresh (.ofCondition c)])
  | read (pool : List Held) (d : Document) (c : Condition) (hread : decode? d = some c) :
      Step pool (pool ++ [.fresh (.ofCondition c)])
  | copy (pool : List Held) (x : Held) (hx : x ∈ pool) : Step pool (pool ++ [.fresh x.live.copy])
  | edit (pool : List Held) (i : Nat) (x : Held) (hx : pool[i]? = some x)
      (hunused : x.evaluated = false) (c : Condition) : Step pool (pool.set i (x.edit c))
  | evaluate (pool : List Held) (i : Nat) (x : Held) (hx : pool[i]? = some x)
      (actual : Option Json) : Step pool (pool.set i (x.evaluate actual))

/-- The pool can come about, starting from nothing. -/
def Reached (pool : List Held) : Prop := Relation.ReflTransGen Step [] pool

variable {pool pool' : List Held} {x : Held}

theorem sound_set {y : Held} {i : Nat} (h : ∀ x ∈ pool, x.Sound) (hy : y.Sound) :
    ∀ x ∈ pool.set i y, x.Sound := by
  intro x hx
  rcases List.mem_or_eq_of_mem_set hx with hx | rfl
  · exact h x hx
  · exact hy

theorem sound_concat {y : Held} (h : ∀ x ∈ pool, x.Sound) (hy : y.Sound) :
    ∀ x ∈ pool ++ [y], x.Sound := by
  intro x hx
  rcases List.mem_append.1 hx with hx | hx
  · exact h x hx
  · exact List.mem_singleton.1 hx ▸ hy

/-- The conditions stay sound, whatever is done with one of them. -/
theorem Step.sound (hstep : Step pool pool') (h : ∀ x ∈ pool, x.Sound) :
    ∀ x ∈ pool', x.Sound := by
  cases hstep with
  | make c => exact sound_concat h (Held.sound_ofCondition c)
  | read d c hread => exact sound_concat h (Held.sound_ofCondition c)
  | copy x hx => exact sound_concat h (Held.sound_ofCondition x.live.condition)
  | edit i x hx hunused c =>
    -- The pattern of the old operand would stay, but there is none yet.
    have hnone : x.live.compiled = none := (h x (List.mem_of_getElem? hx)).unused hunused
    exact sound_set h ⟨Live.valid_of_none hnone, fun _ => hnone⟩
  | evaluate i x hx actual =>
    have hvalid : x.live.Valid := (h x (List.mem_of_getElem? hx)).valid
    exact sound_set h ⟨Live.valid_evaluate hvalid actual, nofun⟩

theorem sound_of_reached (h : Reached pool) : ∀ x ∈ pool, x.Sound := by
  induction h with
  | refl => exact List.forall_mem_nil _
  | tail _ hstep ih => exact hstep.sound ih

/-! ## Main result -/

/-- Whatever has been made, read, copied, edited and evaluated, every condition of the pool gives
the answer of its operator for its operand, and is left as it is by that.  A copy is equal to it. -/
theorem evaluates_as_operator (h : Reached pool) (hx : x ∈ pool) :
    (∀ actual, (x.live.evaluate actual).1 =
        x.live.condition.operator.evaluate actual x.live.condition.value ∧
      (x.live.evaluate actual).2.condition = x.live.condition) ∧
    x.live.copy.same x.live = true ∧ x.live.same x.live.copy = true := by
  have hvalid : x.live.Valid := (sound_of_reached h x hx).valid
  exact ⟨fun actual => ⟨Live.evaluate_eq hvalid actual, x.live.condition_evaluate actual⟩,
    x.live.same_copy⟩

/-- A condition whose operand spells no pattern. -/
def unclosed : Condition := ⟨"email", .isMatch, .string "([unclosed"⟩

/-- The condition after an evaluation, for which there was no pattern. -/
def usedOnce : Held := (Held.fresh (.ofCondition unclosed)).evaluate (some (.string "anything"))

/-- A copy of it, with another operand. -/
def editedCopy : Held :=
  (Held.fresh usedOnce.live.copy).edit { unclosed with value := .string "^b" }

theorem reached_editedCopy : Reached [usedOnce, editedCopy] := by
  have hmade : Reached [Held.fresh (.ofCondition unclosed)] := .single (.make [] unclosed)
  have hused : Reached [usedOnce] := hmade.tail (.evaluate _ 0 _ rfl (some (.string "anything")))
  have hcopied : Reached [usedOnce, Held.fresh usedOnce.live.copy] :=
    hused.tail (.copy _ usedOnce List.mem_cons_self)
  exact hcopied.tail (.edit _ 1 _ rfl rfl _)

theorem evaluates_as_operator_editedCopy :
    Reached [usedOnce, editedCopy] ∧ editedCopy ∈ [usedOnce, editedCopy] ∧
    (usedOnce.live.evaluate (some (.string "bcd"))).1 = false ∧
    (editedCopy.live.evaluate (some (.string "bcd"))).1 = true := by
  have hcopy : editedCopy ∈ [usedOnce, editedCopy] := List.mem_cons_of_mem _ List.mem_cons_self
  have hused := (evaluates_as_operator reached_editedCopy List.mem_cons_self).1
  have hedited := (evaluates_as_operator reached_editedCopy hcopy).1
  exact ⟨reached_editedCopy, hcopy, (hused _).1.trans (by decide +kernel),
    (hedited _).1.trans (by decide +kernel)⟩

/-- Without the copy the edit would come too late: that there is no pattern has been kept. -/
example : ((usedOnce.live.edit editedCopy.live.condition).evaluate (some (.string "bcd"))).1 =
    false := by
  decide +kernel

end Condition

end FeatureFlags
