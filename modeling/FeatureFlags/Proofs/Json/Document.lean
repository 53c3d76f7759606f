import FeatureFlags.Json.Document
import FeatureFlags.Proofs.Json.Numeral

/-!
# The documents that have texts

* `Document.Within gaps n`: containers are nested at most `n` deep, whole numbers are numbers of
  64 bits, and unless there may be gaps everything can be read.
* `Document.HasDouble` and `Document.DoublesReadBack` are about the doubles that stand somewhere in
  the document.
-/

namespace FeatureFlags.Document

variable {gaps : Bool} {n m : Nat} {d : Document}

/-- A document with containers nested at most `n` deep and no whole numbers beyond 64 bits, in
which parts may be unreadable if there may be gaps. -/
inductive Within (gaps : Bool) : Nat → Document → Prop
  | null {n : Nat} : Within gaps n .null
  | bool {n : Nat} {b : Bool} : Within gaps n (.bool b)
  | integer {n : Nat} {i : Int} (h : Json.Number.fitsInteger i = true) :
      Within gaps n (.number (.integer i))
  | float {n : Nat} {x : Finite64} : Within gaps n (.number (.float x))
  | string {n : Nat} {s : String} : Within gaps n (.string s)
  | array {n : Nat} {items : List Document} (h : ∀ d ∈ items, Within gaps n d) :
      Within gaps (n + 1) (.array items)
  | object {n : Nat} {fields : List (String × Document)} (h : ∀ f ∈ fields, Within gaps n f.2) :
      Within gaps (n + 1) (.object fields)
  | unreadable {n : Nat} (h : gaps = true) : Within gaps n .unreadable

theorem Within.mono (h : d.Within gaps n) (hle : n ≤ m) : d.Within gaps m := by
  induction h generalizing m with
  | null => exact .null
  | bool => exact .bool
  | integer h => exact .integer h
  | float => exact .float
  | string => exact .string
  | array _ ih =>
    obtain ⟨m, rfl⟩ := Nat.exists_eq_add_of_le' (Nat.le_of_add_left_le hle)
    exact .array fun d hd => ih d hd (Nat.le_of_add_le_add_right hle)
  | object _ ih =>
    obtain ⟨m, rfl⟩ := Nat.exists_eq_add_of_le' (Nat.le_of_add_left_le hle)
    exact .object fun f hf => ih f hf (Nat.le_of_add_le_add_right hle)
  | unreadable h => exact .unreadable h

/-- A double stands somewhere in the document. -/
inductive HasDouble (x : Finite64) : Document → Prop
  | number : HasDouble x (.number (.float x))
  | item {items : List Document} {d : Document} (hd : d ∈ items) (h : HasDouble x d) :
      HasDouble x (.array items)
  | field {fields : List (String × Document)} {f : String × Document} (hf : f ∈ fields)
      (h : HasDouble x f.2) : HasDouble x (.object fields)

/-- Every double in the document reads back. -/
def DoublesReadBack (d : Document) : Prop :=
  ∀ x, d.HasDouble x → (Json.Number.float x).ReadsBack

theorem doublesReadBack_float_iff {x : Finite64} :
    (number (.float x)).DoublesReadBack ↔ (Json.Number.float x).ReadsBack := by
  refine ⟨fun h => h x .number, ?_⟩
  rintro h x (_ | _)
  exact h

theorem doublesReadBack_string (s : String) : (string s).DoublesReadBack := nofun

theorem doublesReadBack_array_iff {items : List Document} :
    (array items).DoublesReadBack ↔ ∀ d ∈ items, d.DoublesReadBack := by
  refine ⟨fun h d hd x hx => h x (.item hd hx), ?_⟩
  rintro h x (_ | ⟨hd, hx⟩)
  exact h _ hd x hx

theorem doublesReadBack_object_iff {fields : List (String × Document)} :
    (object fields).DoublesReadBack ↔ ∀ f ∈ fields, f.2.DoublesReadBack := by
  refine ⟨fun h f hf x hx => h x (.field hf hx), ?_⟩
  rintro h x (_ | _ | ⟨hf, hx⟩)
  exact h _ hf x hx

end FeatureFlags.Document
