import FeatureFlags.Json.Writer
import FeatureFlags.Proofs.Json.Reader
import FeatureFlags.Proofs.Json.Reread

/-!
# Documents that are written and read

The text of a document reads as the document with its numbers read again
(`parse?_text_eq_reread`), if containers are nested less deep than the reader allows and nothing
is unreadable.  That is the document itself (`parse?_text`) if every double in it reads back.
-/

namespace FeatureFlags.Json.Reader

open Document (Within)
open Token (Lexes Follows)

variable {d : Document}

theorem tokens_ofNumber? (n : Option Number) : tokens (Document.ofNumber? n) = [.number n] := by
  cases n <;> rfl

theorem lexes_number {n : Number} {m : Numeral} (hm : Numeral.read? n.text.toList = some m) :
    Lexes (Document.number n).chars (tokens (Document.number n).reread) := by
  rw [Document.reread, tokens_ofNumber?, Number.reread?, hm, Option.bind_some]
  exact Token.lexes_numeral hm

theorem follows_moreItems {items : List Document}
    (h : ∀ d ∈ items, Lexes d.chars (tokens d.reread)) :
    Follows (Document.moreItemsChars items) (moreItemsTokens (Document.rereadItems items)) := by
  induction items with
  | nil => exact Lexes.nil.after_mark rfl
  | cons d items ih =>
    obtain ⟨hd, hitems⟩ := List.forall_mem_cons.1 h
    exact (hd.append (ih hitems)).after_mark rfl

/-- A field name, a colon and what comes next. -/
theorem lexes_field {k : String} {cs : List Char} {ts : List Token} (h : Lexes cs ts) :
    Lexes (Quoted.literal k ++ ':' :: cs) (.string (some k) :: .colon :: ts) :=
  (Token.lexes_literal k).append (h.after_mark rfl)

theorem follows_moreFields {fields : List (String × Document)}
    (h : ∀ f ∈ fields, Lexes f.2.chars (tokens f.2.reread)) :
    Follows (Document.moreFieldsChars fields)
      (moreFieldsTokens (Document.rereadFields fields)) := by
  induction fields with
  | nil => exact Lexes.nil.after_mark rfl
  | cons f fields ih =>
    obtain ⟨hd, hfields⟩ := List.forall_mem_cons.1 h
    exact (lexes_field (hd.append (ih hfields))).after_mark rfl

/-- The text of a document is cut into the tokens of the document with its numbers read again. -/
theorem lexes_chars {n : Nat} (h : d.Within false n) : Lexes d.chars (tokens d.reread) := by
  induction h with
  | null => exact fun done => ⟨_, rfl, rfl⟩
  | @bool _ b =>
    cases b with
    | true => exact fun done => ⟨_, rfl, rfl⟩
    | false => exact fun done => ⟨_, rfl, rfl⟩
  | integer h =>
    obtain ⟨m, hm, -⟩ := Option.bind_eq_some_iff.1 (Number.readsBack_integer h)
    exact lexes_number hm
  | @float _ x =>
    obtain ⟨m, hm, -⟩ := Number.exists_float? x
    exact lexes_number hm
  | string => exact Token.lexes_literal _
  | @array n items _ ih =>
    have hitems : Lexes (Document.itemsChars items)
        (itemsTokens (Document.rereadItems items)) := by
      cases items with
      | nil => exact (Lexes.nil.after_mark rfl).lexes
      | cons d items =>
        obtain ⟨hd, hitems⟩ := List.forall_mem_cons.1 ih
        exact hd.append (follows_moreItems hitems)
    exact (hitems.after_mark rfl).lexes
  | @object n fields _ ih =>
    have hfields : Lexes (Document.fieldsChars fields)
        (fieldsTokens (Document.rereadFields fields)) := by
      cases fields with
      | nil => exact (Lexes.nil.after_mark rfl).lexes
      | cons f fields =>
        obtain ⟨hd, hfields⟩ := List.forall_mem_cons.1 ih
        exact lexes_field (hd.append (follows_moreFields hfields))
    exact (hfields.after_mark rfl).lexes
  | unreadable h => exact absurd h Bool.false_ne_true

/-- The text of a document reads as the document with its numbers read again. -/
theorem parse?_text_eq_reread (h : d.Within false 127) :
    Document.parse? d.text = some d.reread := by
  rw [Document.parse?, Document.text, String.toList_ofList]
  exact Option.bind_eq_some_iff.2
    ⟨_, (lexes_chars h).cut?, document?_tokens (Document.within_reread h)⟩

/-- The text of a document reads as the document. -/
theorem parse?_text (h : d.Within false 127) (hreads : d.DoublesReadBack) :
    Document.parse? d.text = some d := by
  rw [parse?_text_eq_reread h, (Document.reread_eq_self_iff h).2 hreads]

end FeatureFlags.Json.Reader
