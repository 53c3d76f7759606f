import FeatureFlags.Json.Writer
import FeatureFlags.Json.Token
import FeatureFlags.Proofs.Json.Numeral
import FeatureFlags.Proofs.Json.Quoted

/-!
# Texts and their tokens

A word or a number ends where the next mark stands or the text ends, so what a text is cut into
depends on what stands before it: `Lexes` is about a text at the start of a token, and `Follows`
about a text that starts with a mark and so may stand after anything.  `Lexes.append` puts them
together, and `Lexes.cut?` says what the whole pass gives.

`fits_of_mem_cut?`: the whole numbers among the tokens of a text are numbers of 64 bits.
-/

namespace FeatureFlags.Json.Token

variable {cs cs' : List Char} {ts ts' : List Token} {c : Char} {t : Token} {done : List Token}

/-! ## Cutting a text in parts -/

/-- At the start of a token the text adds the given tokens. -/
def Lexes (cs : List Char) (ts : List Token) : Prop :=
  ∀ done, ∃ st, cs.foldlM step? (done, .nothing) = some st ∧
    flush? st.1 st.2 = some (ts.reverse ++ done)

/-- After a token the text ends the token and adds the given ones. -/
def Follows (cs : List Char) (ts : List Token) : Prop :=
  ∀ st done, flush? st.1 st.2 = some done → ∃ st', cs.foldlM step? st = some st' ∧
    flush? st'.1 st'.2 = some (ts.reverse ++ done)

theorem Lexes.cut? (h : Lexes cs ts) : cut? cs = some ts := by
  obtain ⟨st, hst, hflush⟩ := h []
  refine Option.bind_eq_some_iff.2 ⟨st, hst, Option.bind_eq_some_iff.2 ⟨_, hflush, ?_⟩⟩
  rw [List.append_nil, List.reverse_reverse]
  rfl

theorem Lexes.nil : Lexes [] [] := fun done => ⟨(done, .nothing), rfl, rfl⟩

theorem Lexes.append (h : Lexes cs ts) (h' : Follows cs' ts') :
    Lexes (cs ++ cs') (ts ++ ts') := by
  intro done
  obtain ⟨st, hst, hflush⟩ := h done
  obtain ⟨st', hst', hflush'⟩ := h' st _ hflush
  refine ⟨st', ?_, ?_⟩
  · rw [List.foldlM_append, hst]
    exact hst'
  · rw [hflush', List.reverse_append, List.append_assoc]

/-! ## Marks -/

theorem not_isBlank_of_ofMark? (h : ofMark? c = some t) : isBlank c = false ∧ c ≠ '"' := by
  unfold ofMark? at h
  split at h
  case h_7 => cases h
  all_goals exact ⟨rfl, by decide⟩

theorem start?_mark (h : ofMark? c = some t) (done : List Token) :
    start? done c = some (t :: done, .nothing) := by
  obtain ⟨hblank, hquote⟩ := not_isBlank_of_ofMark? h
  rw [start?, hblank, if_neg Bool.false_ne_true, if_neg hquote, h]

/-- A mark ends what is pending. -/
theorem step?_mark {st : List Token × Pending} (hst : flush? st.1 st.2 = some done)
    (h : ofMark? c = some t) : step? st c = some (t :: done, .nothing) := by
  obtain ⟨done', pending⟩ := st
  cases pending with
  | nothing =>
    cases hst
    exact start?_mark h _
  | bare cs =>
    rw [step?, if_pos (.inr (.inr (by rw [h]; rfl)))]
    exact Option.bind_eq_some_iff.2 ⟨done, hst, start?_mark h done⟩
  | quoted cs escaped => cases hst

theorem Lexes.after_mark (h : Lexes cs ts) (hc : ofMark? c = some t) :
    Follows (c :: cs) (t :: ts) := by
  intro st done hst
  obtain ⟨st', hst', hflush⟩ := h (t :: done)
  refine ⟨st', ?_, ?_⟩
  · rw [List.foldlM_cons, step?_mark hst hc]
    exact hst'
  · rw [hflush, List.reverse_cons, List.append_assoc]
    rfl

/-- A mark may stand at the start of a token. -/
theorem Follows.lexes (h : Follows cs ts) : Lexes cs ts := fun done => h (done, .nothing) done rfl

/-! ## Words, numbers and strings -/

theorem isBlank_of_isNumeric (h : Numeral.isNumeric c = true) : isBlank c = false := by
  by_contra hblank
  rw [Bool.not_eq_false, isBlank, decide_eq_true_iff] at hblank
  rcases hblank with rfl | rfl | rfl | rfl
  all_goals exact absurd h (by decide)

theorem ofMark?_of_isNumeric (h : Numeral.isNumeric c = true) : ofMark? c = none := by
  unfold ofMark?
  split
  case h_7 => rfl
  all_goals exact absurd h (by decide)

theorem ne_quote_of_isNumeric (h : Numeral.isNumeric c = true) : c ≠ '"' := by
  rintro rfl
  exact absurd h (by decide)

/-- The characters of a number are kept until it ends. -/
theorem foldlM_numeric (h : ∀ c ∈ cs, Numeral.isNumeric c = true) (done : List Token)
    (pending : List Char) :
    cs.foldlM step? (done, .bare pending) = some (done, .bare (cs.reverse ++ pending)) := by
  induction cs generalizing pending with
  | nil => rfl
  | cons c cs ih =>
    have hc := h c List.mem_cons_self
    have hkeep : ¬(isBlank c = true ∨ c = '"' ∨ (ofMark? c).isSome = true) := by
      rw [isBlank_of_isNumeric hc, ofMark?_of_isNumeric hc]
      simpa using ne_quote_of_isNumeric hc
    rw [List.foldlM_cons, step?, if_neg hkeep]
    show cs.foldlM step? (done, .bare (c :: pending)) = _
    rw [ih (fun d hd => h d (List.mem_cons_of_mem _ hd)), List.reverse_cons, List.append_assoc]
    rfl

theorem ofBare?_numeral {m : Numeral} (h : Numeral.read? cs = some m) :
    ofBare? cs = some (.number m.value?) := by
  have hword : ∀ word ∈ ["null".toList, "true".toList, "false".toList],
      Numeral.read? word = none := by decide
  have hne : ∀ word ∈ ["null".toList, "true".toList, "false".toList], cs ≠ word := by
    rintro word hmem rfl
    rw [hword cs hmem] at h
    cases h
  rw [ofBare?, if_neg (hne _ (by decide)), if_neg (hne _ (by decide)), if_neg (hne _ (by decide)),
    h]
  rfl

theorem lexes_numeral {m : Numeral} (h : Numeral.read? cs = some m) :
    Lexes cs [.number m.value?] := by
  intro done
  obtain ⟨c, cs, rfl⟩ := List.exists_cons_of_ne_nil (Numeral.ne_nil_of_read? h)
  have hc : Numeral.isNumeric c = true := Numeral.isNumeric_of_read? h List.mem_cons_self
  have hstart : start? done c = some (done, .bare [c]) := by
    rw [start?, isBlank_of_isNumeric hc, if_neg Bool.false_ne_true,
      if_neg (ne_quote_of_isNumeric hc), ofMark?_of_isNumeric hc]
  refine ⟨(done, .bare (cs.reverse ++ [c])), ?_, ?_⟩
  · rw [List.foldlM_cons, step?, hstart]
    exact foldlM_numeric (fun d hd => Numeral.isNumeric_of_read? h (List.mem_cons_of_mem _ hd))
      done [c]
  · rw [flush?, ← List.reverse_cons, List.reverse_reverse, ofBare?_numeral h]
    rfl

/-- Inside a string everything is kept but a quote and a backslash. -/
theorem foldlM_plain (h : ∀ c ∈ cs, c ≠ '"' ∧ c ≠ '\\') (done : List Token)
    (pending : List Char) :
    cs.foldlM step? (done, .quoted pending false) =
      some (done, .quoted (cs.reverse ++ pending) false) := by
  induction cs generalizing pending with
  | nil => rfl
  | cons c cs ih =>
    obtain ⟨hquote, hslash⟩ := h c List.mem_cons_self
    rw [List.foldlM_cons, step?, if_neg hquote, decide_eq_false hslash]
    show cs.foldlM step? (done, .quoted (c :: pending) false) = _
    rw [ih (fun d hd => h d (List.mem_cons_of_mem _ hd)), List.reverse_cons, List.append_assoc]
    rfl

/-- What is written for a character does not end the literal. -/
theorem foldlM_escapeChar (c : Char) (done : List Token) (pending : List Char) :
    (Quoted.escapeChar c).foldlM step? (done, .quoted pending false) =
      some (done, .quoted ((Quoted.escapeChar c).reverse ++ pending) false) := by
  rcases Quoted.escapeChar_cases c with ⟨e, h, -, -⟩ | ⟨-, h⟩ | ⟨-, hquote, hslash, h⟩
  · rw [h]
    rfl
  · have hdigits : ∀ d ∈ Text.hexPadded 4 c.toNat, d ≠ '"' ∧ d ≠ '\\' := by
      intro d hd
      obtain ⟨k, hk, rfl⟩ := Text.exists_of_mem_hexPadded hd
      exact Quoted.hexDigit_ne hk
    rw [h]
    show (Text.hexPadded 4 c.toNat).foldlM step? (done, .quoted ('u' :: '\\' :: pending) false) = _
    rw [foldlM_plain hdigits, List.reverse_cons, List.reverse_cons, List.append_assoc,
      List.append_assoc]
    rfl
  · rw [h]
    refine foldlM_plain (fun d hd => ?_) done pending
    rw [List.mem_singleton.1 hd]
    exact ⟨hquote, hslash⟩

theorem foldlM_escape (cs : List Char) (done : List Token) (pending : List Char) :
    (Quoted.escape cs).foldlM step? (done, .quoted pending false) =
      some (done, .quoted ((Quoted.escape cs).reverse ++ pending) false) := by
  induction cs generalizing pending with
  | nil => rfl
  | cons c cs ih =>
    rw [Quoted.escape, List.flatMap_cons, List.foldlM_append, foldlM_escapeChar]
    show (Quoted.escape cs).foldlM step? _ = _
    rw [ih, List.reverse_append, List.append_assoc]
    rfl

/-- The literal for a string is one token. -/
theorem lexes_literal (s : String) : Lexes (Quoted.literal s) [.string (some s)] := by
  intro done
  obtain ⟨ps, hps, hs⟩ := Quoted.exists_pieces_escape s.toList
  refine ⟨(.string (some s) :: done, .nothing), ?_, rfl⟩
  show ('"' :: (Quoted.escape s.toList ++ ['"'])).foldlM step? (done, .nothing) = _
  rw [List.foldlM_cons]
  show (Quoted.escape s.toList ++ ['"']).foldlM step? (done, .quoted [] false) = _
  rw [List.foldlM_append, foldlM_escape, List.append_nil]
  show ((ofQuoted? (Quoted.escape s.toList).reverse.reverse).map _).bind some = _
  rw [List.reverse_reverse, ofQuoted?, hps, Option.map_some, hs]
  show some (Token.string (some (String.ofList s.toList)) :: done, Pending.nothing) = _
  rw [String.ofList_toList]

/-! ## Numbers of 64 bits -/

/-- A whole number is one of 64 bits. -/
def Fits (t : Token) : Prop :=
  ∀ n, t = .number (some (.integer n)) → Number.fitsInteger n = true

theorem fits_of_ofBare? (h : ofBare? cs = some t) : t.Fits := by
  rintro n rfl
  unfold ofBare? at h
  split at h
  · cases h
  split at h
  · cases h
  split at h
  · cases h
  obtain ⟨m, -, hm⟩ := Option.map_eq_some_iff.1 h
  exact Number.fitsInteger_of_value? (Token.number.inj hm)

theorem fits_of_ofMark? (h : ofMark? c = some t) : t.Fits := by
  rintro n rfl
  unfold ofMark? at h
  split at h
  all_goals cases h

theorem fits_of_flush? {pending : Pending} {done' : List Token} (hdone : ∀ t ∈ done, t.Fits)
    (h : flush? done pending = some done') : ∀ t ∈ done', t.Fits := by
  cases pending with
  | nothing =>
    cases h
    exact hdone
  | bare cs =>
    obtain ⟨t, ht, rfl⟩ := Option.map_eq_some_iff.1 h
    exact List.forall_mem_cons.2 ⟨fits_of_ofBare? ht, hdone⟩
  | quoted cs escaped => cases h

theorem fits_of_start? {st : List Token × Pending} (hdone : ∀ t ∈ done, t.Fits)
    (h : start? done c = some st) : ∀ t ∈ st.1, t.Fits := by
  unfold start? at h
  split at h
  · cases h
    exact hdone
  split at h
  · cases h
    exact hdone
  split at h
  · next t ht =>
    cases h
    exact List.forall_mem_cons.2 ⟨fits_of_ofMark? ht, hdone⟩
  · cases h
    exact hdone

theorem fits_step? {st st' : List Token × Pending} (hst : ∀ t ∈ st.1, t.Fits)
    (h : step? st c = some st') : ∀ t ∈ st'.1, t.Fits := by
  obtain ⟨done, pending⟩ := st
  cases pending with
  | nothing => exact fits_of_start? hst h
  | bare cs =>
    rw [step?] at h
    split at h
    · obtain ⟨done', hdone', h⟩ := Option.bind_eq_some_iff.1 h
      exact fits_of_start? (fits_of_flush? hst hdone') h
    · cases h
      exact hst
  | quoted cs escaped =>
    cases escaped with
    | true =>
      cases h
      exact hst
    | false =>
      rw [step?] at h
      split at h
      · obtain ⟨t, ht, rfl⟩ := Option.map_eq_some_iff.1 h
        obtain ⟨ps, -, rfl⟩ := Option.map_eq_some_iff.1 ht
        exact List.forall_mem_cons.2 ⟨fun n hn => (nomatch hn), hst⟩
      · cases h
        exact hst

theorem fits_foldlM {st st' : List Token × Pending} (hst : ∀ t ∈ st.1, t.Fits)
    (h : cs.foldlM step? st = some st') : ∀ t ∈ st'.1, t.Fits := by
  induction cs generalizing st with
  | nil =>
    cases h
    exact hst
  | cons c cs ih =>
    rw [List.foldlM_cons] at h
    obtain ⟨st₁, hstep, h⟩ := Option.bind_eq_some_iff.1 h
    exact ih (fits_step? hst hstep) h

/-- The whole numbers of a text are numbers of 64 bits. -/
theorem fits_of_mem_cut? (h : cut? cs = some ts) (ht : t ∈ ts) : t.Fits := by
  obtain ⟨st, hst, h⟩ := Option.bind_eq_some_iff.1 h
  obtain ⟨done, hdone, h⟩ := Option.bind_eq_some_iff.1 h
  cases h
  exact fits_of_flush? (fits_foldlM (List.forall_mem_nil _) hst) hdone t (List.mem_reverse.1 ht)

end FeatureFlags.Json.Token
