import FeatureFlags.Json.Reader
import FeatureFlags.Proofs.Json.Document
import FeatureFlags.Proofs.Json.Token

/-!
# Tokens and their documents

* `within_of_parse?`: the containers of a document that has been read are nested less deep than
  `depthLimit`.  The invariant says for every open container how deep what it holds may be.
* `document?_tokens`: the tokens of such a document are read as the document.
-/

namespace FeatureFlags.Json.Reader

open Document (Within)

variable {d : Document} {stack : List Frame} {s s' : State} {t : Token} {ts : List Token}

/-! ## What is read -/

/-- How deep containers may be nested inside the given number of open ones. -/
def room (opened : Nat) : Nat := depthLimit - 1 - opened

/-- What an open container holds is nested no deeper than there is room for. -/
def Frame.Sound (f : Frame) (room : Nat) : Prop :=
  match f with
  | .array items => ∀ d ∈ items, d.Within true room
  | .object _ fields _ => ∀ f ∈ fields, f.2.Within true room

/-- Every open container holds what there is room for. -/
def StackSound : List Frame → Prop
  | [] => True
  | f :: stack => f.Sound (room (stack.length + 1)) ∧ StackSound stack

/-- Everything that has been read so far is what there is room for. -/
def State.Sound : State → Prop
  | .value _ stack | .colon stack | .separator stack => StackSound stack
  | .name _ _ fields stack =>
    (∀ f ∈ fields, f.2.Within true (room (stack.length + 1))) ∧ StackSound stack
  | .done d => d.Within true (room 0)

theorem sound_after (hd : d.Within true (room stack.length)) (h : StackSound stack) :
    (after d stack).Sound := by
  match stack, h with
  | [], _ => exact hd
  | .array items :: stack, ⟨hitems, h⟩ => exact ⟨List.forall_mem_cons.2 ⟨hd, hitems⟩, h⟩
  | .object readable fields name :: stack, ⟨hfields, h⟩ =>
    exact ⟨List.forall_mem_cons.2 ⟨hd, hfields⟩, h⟩

/-- A container that is too deep is unreadable once it is closed. -/
theorem within_closed {readable : Bool} (hd : d.Within true (room (stack.length + 1) + 1)) :
    (closed readable d stack).Within true (room stack.length) := by
  rw [closed]
  split
  · next h =>
    have hlt : stack.length + 1 < 128 := h.2
    refine hd.mono ?_
    show 128 - 1 - (stack.length + 1) + 1 ≤ 128 - 1 - stack.length
    omega
  · exact .unreadable rfl

theorem sound_closeArray {items : List Document} {readable : Bool}
    (hitems : ∀ d ∈ items, d.Within true (room (stack.length + 1))) (h : StackSound stack) :
    (after (closed readable (.array items.reverse) stack) stack).Sound :=
  sound_after (within_closed (.array fun d hd => hitems d (List.mem_reverse.1 hd))) h

theorem sound_closeObject {fields : List (String × Document)} {readable : Bool}
    (hfields : ∀ f ∈ fields, f.2.Within true (room (stack.length + 1))) (h : StackSound stack) :
    (after (closed readable (.object fields.reverse) stack) stack).Sound :=
  sound_after (within_closed (.object fun f hf => hfields f (List.mem_reverse.1 hf))) h

theorem sound_value? (ht : t.Fits) (h : StackSound stack) (hs : value? stack t = some s) :
    s.Sound := by
  unfold value? at hs
  split at hs
  case h_1 => cases hs; exact ⟨List.forall_mem_nil _, h⟩
  case h_2 => cases hs; exact ⟨List.forall_mem_nil _, h⟩
  case h_3 => cases hs; exact sound_after .null h
  case h_4 => cases hs; exact sound_after .bool h
  case h_5 n =>
    cases hs
    cases n with
    | integer n => exact sound_after (.integer (ht n rfl)) h
    | float x => exact sound_after .float h
  case h_6 => cases hs; exact sound_after (.unreadable rfl) h
  case h_7 => cases hs; exact sound_after .string h
  case h_8 => cases hs; exact sound_after (.unreadable rfl) h
  case h_9 => cases hs

theorem sound_step? (ht : t.Fits) (h : s.Sound) (hs : step? s t = some s') : s'.Sound := by
  unfold step? at hs
  split at hs
  case h_1 => cases hs; exact sound_closeArray h.1 h.2
  case h_2 => exact sound_value? ht h hs
  case h_3 => cases hs; exact sound_closeObject h.1 h.2
  case h_4 => cases hs; exact ⟨h.1, h.2⟩
  case h_5 => cases hs; exact ⟨h.1, h.2⟩
  case h_6 => cases hs; exact h
  case h_7 => cases hs; exact h
  case h_8 => cases hs; exact sound_closeArray h.1 h.2
  case h_9 => cases hs; exact ⟨h.1, h.2⟩
  case h_10 => cases hs; exact sound_closeObject h.1 h.2
  case h_11 => cases hs

theorem sound_foldlM (ht : ∀ t ∈ ts, t.Fits) (h : s.Sound) (hs : ts.foldlM step? s = some s') :
    s'.Sound := by
  induction ts generalizing s with
  | nil =>
    cases hs
    exact h
  | cons t ts ih =>
    rw [List.foldlM_cons] at hs
    obtain ⟨s₁, hs₁, hs⟩ := Option.bind_eq_some_iff.1 hs
    obtain ⟨ht, hts⟩ := List.forall_mem_cons.1 ht
    exact ih hts (sound_step? ht h hs₁) hs

/-- Containers that are nested too deep have become unreadable. -/
theorem within_of_parse? {text : String} (h : Document.parse? text = some d) :
    d.Within true 127 := by
  obtain ⟨ts, hts, h⟩ := Option.bind_eq_some_iff.1 h
  obtain ⟨s, hs, h⟩ := Option.bind_eq_some_iff.1 h
  have hstart : (State.value false []).Sound := trivial
  have hsound : s.Sound := sound_foldlM (fun t ht => Token.fits_of_mem_cut? hts ht) hstart hs
  split at h
  · cases h
    exact hsound
  · cases h

/-! ## Reading what is written -/

mutual

/-- The tokens of a document; a number beyond the doubles stands for what is unreadable. -/
def tokens : Document → List Token
  | .null => [.null]
  | .unreadable => [.number none]
  | .bool b => [.bool b]
  | .number n => [.number (some n)]
  | .string s => [.string (some s)]
  | .array items => .openArray :: itemsTokens items
  | .object fields => .openObject :: fieldsTokens fields

/-- The tokens of items up to the closing bracket. -/
def itemsTokens : List Document → List Token
  | [] => [.closeArray]
  | d :: ds => tokens d ++ moreItemsTokens ds

/-- The tokens of items after the first one, up to the closing bracket. -/
def moreItemsTokens : List Document → List Token
  | [] => [.closeArray]
  | d :: ds => .comma :: (tokens d ++ moreItemsTokens ds)

/-- The tokens of fields up to the closing brace. -/
def fieldsTokens : List (String × Document) → List Token
  | [] => [.closeObject]
  | (k, d) :: ds => .string (some k) :: .colon :: (tokens d ++ moreFieldsTokens ds)

/-- The tokens of fields after the first one, up to the closing brace. -/
def moreFieldsTokens : List (String × Document) → List Token
  | [] => [.closeObject]
  | (k, d) :: ds => .comma :: .string (some k) :: .colon :: (tokens d ++ moreFieldsTokens ds)

end

/-- At the place of a value inside the given number of open containers, the tokens of the
document are read as the document. -/
def ReadsAt (d : Document) (opened : Nat) : Prop :=
  ∀ stack : List Frame, stack.length = opened → ∀ mayClose,
    (tokens d).foldlM step? (.value mayClose stack) = some (after d stack)

theorem step?_value (ht : t ≠ .closeArray) (mayClose : Bool) (stack : List Frame) :
    step? (.value mayClose stack) t = value? stack t := by
  rw [step?]
  intro items stack' h
  exact absurd h ht

theorem readsAt_token {opened : Nat} (htokens : tokens d = [t]) (ht : t ≠ .closeArray)
    (hvalue : ∀ stack, value? stack t = some (after d stack)) : ReadsAt d opened := by
  intro stack _ mayClose
  rw [htokens, List.foldlM_cons, step?_value ht, hvalue]
  rfl

theorem closed_of_lt (hlt : stack.length < 127) : closed true d stack = d :=
  if_pos ⟨rfl, Nat.succ_lt_succ hlt⟩

/-- The items of an array are read one after the other. -/
theorem foldlM_moreItemsTokens {items read : List Document} (hlt : stack.length < 127)
    (h : ∀ d ∈ items, ReadsAt d (stack.length + 1)) :
    (moreItemsTokens items).foldlM step? (.separator (.array read :: stack)) =
      some (after (.array (read.reverse ++ items)) stack) := by
  induction items generalizing read with
  | nil =>
    show some (after (closed true (.array read.reverse) stack) stack) = _
    rw [closed_of_lt hlt, List.append_nil]
  | cons d items ih =>
    obtain ⟨hd, hitems⟩ := List.forall_mem_cons.1 h
    show (tokens d ++ moreItemsTokens items).foldlM step? (.value false (.array read :: stack)) = _
    rw [List.foldlM_append, hd (.array read :: stack) rfl false]
    show (moreItemsTokens items).foldlM step? (.separator (.array (d :: read) :: stack)) = _
    rw [ih hitems, List.reverse_cons, List.append_assoc]
    rfl

/-- The fields of an object are read one after the other. -/
theorem foldlM_moreFieldsTokens {fields read : List (String × Document)} {name : String}
    (hlt : stack.length < 127) (h : ∀ f ∈ fields, ReadsAt f.2 (stack.length + 1)) :
    (moreFieldsTokens fields).foldlM step? (.separator (.object true read name :: stack)) =
      some (after (.object (read.reverse ++ fields)) stack) := by
  induction fields generalizing read name with
  | nil =>
    show some (after (closed true (.object read.reverse) stack) stack) = _
    rw [closed_of_lt hlt, List.append_nil]
  | cons f fields ih =>
    obtain ⟨k, d⟩ := f
    obtain ⟨hd, hfields⟩ := List.forall_mem_cons.1 h
    show (tokens d ++ moreFieldsTokens fields).foldlM step?
      (.value false (.object true read k :: stack)) = _
    rw [List.foldlM_append, hd (.object true read k :: stack) rfl false]
    show (moreFieldsTokens fields).foldlM step?
      (.separator (.object true ((k, d) :: read) k :: stack)) = _
    rw [ih hfields, List.reverse_cons, List.append_assoc]
    rfl

/-- Where there is room for a document its tokens are read as the document. -/
theorem readsAt_of_within {gaps : Bool} {n opened : Nat} (h : d.Within gaps n)
    (hroom : opened + n ≤ 127) : ReadsAt d opened := by
  induction h generalizing opened with
  | null => exact readsAt_token rfl nofun fun _ => rfl
  | bool => exact readsAt_token rfl nofun fun _ => rfl
  | integer _ => exact readsAt_token rfl nofun fun _ => rfl
  | float => exact readsAt_token rfl nofun fun _ => rfl
  | string => exact readsAt_token rfl nofun fun _ => rfl
  | @array n items hitems ih =>
    rintro stack rfl mayClose
    have hopen : Token.openArray ≠ .closeArray := by decide
    have hinner : stack.length + 1 + n ≤ 127 := by omega
    rw [tokens, List.foldlM_cons, step?_value hopen]
    show (itemsTokens items).foldlM step? (.value true (.array [] :: stack)) = _
    cases items with
    | nil =>
      show some (after (closed true (.array []) stack) stack) = _
      rw [closed_of_lt (by omega)]
    | cons d items =>
      obtain ⟨hd, hitems⟩ := List.forall_mem_cons.1 ih
      rw [itemsTokens, List.foldlM_append, hd hinner (.array [] :: stack) rfl true]
      exact foldlM_moreItemsTokens (by omega) fun d hd => hitems d hd hinner
  | @object n fields hfields ih =>
    rintro stack rfl mayClose
    have hopen : Token.openObject ≠ .closeArray := by decide
    have hinner : stack.length + 1 + n ≤ 127 := by omega
    rw [tokens, List.foldlM_cons, step?_value hopen]
    show (fieldsTokens fields).foldlM step? (.name true true [] stack) = _
    cases fields with
    | nil =>
      show some (after (closed true (.object []) stack) stack) = _
      rw [closed_of_lt (by omega)]
    | cons f fields =>
      obtain ⟨k, d⟩ := f
      obtain ⟨hd, hfields⟩ := List.forall_mem_cons.1 ih
      show (tokens d ++ moreFieldsTokens fields).foldlM step?
        (.value false (.object true [] k :: stack)) = _
      rw [List.foldlM_append, hd hinner (.object true [] k :: stack) rfl false]
      exact foldlM_moreFieldsTokens (by omega) fun f hf => hfields f hf hinner
  | unreadable _ => exact readsAt_token rfl nofun fun _ => rfl

/-- The tokens of a document are read as the document. -/
theorem document?_tokens {gaps : Bool} (h : d.Within gaps 127) : document? (tokens d) = some d := by
  rw [document?, readsAt_of_within h (Nat.le_of_eq (Nat.zero_add 127)) [] rfl false]
  rfl

end FeatureFlags.Json.Reader
