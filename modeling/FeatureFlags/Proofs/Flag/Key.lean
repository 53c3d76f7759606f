import FeatureFlags.Flag.Key
import FeatureFlags.Proofs.Text.Split

/-!
# The grammar of flag keys

A flag key is a row of segments with dots between them (`IsSegment`), and it starts with a
lower-case letter.

Keys are recognised in one pass, which carries a mark: whether a segment has to start here.
`Continues` says what the mark stands for in terms of the pieces between the dots that are still to
come, and `isRest_eq_true_iff` is the induction.  `isValid_iff_segments` is the result.
-/

namespace FeatureFlags.FlagKey

open Text (splitAll)

variable {c : Char} {cs : List Char} {pieces : List (List Char)} {afterDot : Bool}

/-! ## Segments -/

/-- The characters of a segment: lower-case letters, digits, `_` and `-`. -/
def InSegment (c : Char) : Prop :=
  'a' ≤ c ∧ c ≤ 'z' ∨ '0' ≤ c ∧ c ≤ '9' ∨ c = '_' ∨ c = '-'

/-- A part of a key between dots. -/
structure IsSegment (cs : List Char) : Prop where
  ne_nil : cs ≠ []
  chars : ∀ c ∈ cs, InSegment c

theorem isLower_iff : c.isLower = true ↔ 'a' ≤ c ∧ c ≤ 'z' := by
  have hrange : c.isLower = (decide ('a' ≤ c) && decide (c ≤ 'z')) := rfl
  rw [hrange, Bool.and_eq_true, decide_eq_true_iff, decide_eq_true_iff]

theorem isDigit_iff : c.isDigit = true ↔ '0' ≤ c ∧ c ≤ '9' := by
  have hrange : c.isDigit = (decide ('0' ≤ c) && decide (c ≤ '9')) := rfl
  rw [hrange, Bool.and_eq_true, decide_eq_true_iff, decide_eq_true_iff]

theorem isSegmentChar_iff : isSegmentChar c = true ↔ InSegment c := by
  simp only [isSegmentChar, InSegment, Bool.or_eq_true, isLower_iff, isDigit_iff, beq_iff_eq,
    or_assoc]

/-- A dot stands in no segment. -/
theorem IsSegment.no_dot (h : IsSegment cs) : '.' ∉ cs := by
  intro hdot
  exact absurd (isSegmentChar_iff.2 (h.chars _ hdot)) (by decide)

/-! ## The pass over the characters -/

/-- What may come after the start of a key, in pieces between dots: the first piece goes on with the
segment that has been started, and all others are segments.  After a dot no segment has been
started. -/
def Continues (afterDot : Bool) : List (List Char) → Prop
  | [] => False
  | first :: others =>
    (∀ c ∈ first, InSegment c) ∧ (afterDot = true → first ≠ []) ∧ ∀ s ∈ others, IsSegment s

/-- After a dot all pieces are segments. -/
theorem continues_true_iff : Continues true pieces ↔ pieces ≠ [] ∧ ∀ s ∈ pieces, IsSegment s := by
  cases pieces with
  | nil => simp [Continues]
  | cons first others =>
    rw [Continues, List.forall_mem_cons]
    constructor
    · rintro ⟨hchars, hne, hothers⟩
      exact ⟨List.cons_ne_nil _ _, ⟨hne rfl, hchars⟩, hothers⟩
    · rintro ⟨_, hfirst, hothers⟩
      exact ⟨hfirst.chars, fun _ => hfirst.ne_nil, hothers⟩

/-- The pass accepts exactly what may come after the start of a key. -/
theorem isRest_eq_true_iff : isRest afterDot cs = true ↔ Continues afterDot (splitAll '.' cs) := by
  induction cs generalizing afterDot with
  | nil => simp [isRest, splitAll, Continues]
  | cons c rest ih =>
    rw [isRest, splitAll]
    by_cases hdot : c = '.'
    · -- A dot ends a segment, so there has to be one, and starts another.
      rw [if_pos hdot, if_pos hdot, Bool.and_eq_true, ih, continues_true_iff, Continues]
      simp [Text.splitAll_ne_nil]
    · rw [if_neg hdot, if_neg hdot, Bool.and_eq_true, ih, isSegmentChar_iff]
      cases hpieces : splitAll '.' rest with
      | nil => exact absurd hpieces (Text.splitAll_ne_nil _ rest)
      | cons first others => simp [Continues, and_assoc]

/-- After a dot the pass accepts exactly the rows of segments. -/
theorem isRest_true_iff_segments : isRest true cs = true ↔
    ∃ segments : List (List Char), segments ≠ [] ∧ (∀ s ∈ segments, IsSegment s) ∧
      cs = ['.'].intercalate segments := by
  rw [isRest_eq_true_iff, continues_true_iff]
  constructor
  · rintro ⟨hne, hsegments⟩
    exact ⟨splitAll '.' cs, hne, hsegments, (Text.intercalate_splitAll _ cs).symm⟩
  · rintro ⟨segments, hne, hsegments, rfl⟩
    rw [Text.splitAll_intercalate hne fun s hs => (hsegments s hs).no_dot]
    exact ⟨hne, hsegments⟩

/-- A key starts where a segment has to start. -/
theorem isValid_eq_true_iff (key : String) : isValid key = true ↔
    key.utf8ByteSize ≤ maxBytes ∧ isRest true key.toList = true ∧
      ∃ c rest, key.toList = c :: rest ∧ c.isLower = true := by
  rw [isValid, Bool.and_eq_true, decide_eq_true_iff]
  refine and_congr_right fun _ => ?_
  cases hkey : key.toList with
  | nil => simp
  | cons c rest =>
    by_cases hlower : c.isLower = true
    · have hdot : c ≠ '.' := by
        rintro rfl
        exact absurd hlower (by decide)
      have hchar : isSegmentChar c = true := isSegmentChar_iff.2 (.inl (isLower_iff.1 hlower))
      simp [isRest, hdot, hlower, hchar]
    · simp [hlower]

/-! ## Main result -/

/-- The keys are the texts of at most 100 bytes that consist of one or more segments with dots
between them and start with a lower-case letter. -/
theorem isValid_iff_segments (key : String) : isValid key = true ↔
    key.utf8ByteSize ≤ 100 ∧
    (∃ segments : List String, segments ≠ [] ∧ (∀ s ∈ segments, IsSegment s.toList) ∧
      key = ".".intercalate segments) ∧
    ∃ c rest, key.toList = c :: rest ∧ 'a' ≤ c ∧ c ≤ 'z' := by
  simp only [isValid_eq_true_iff, isRest_true_iff_segments, isLower_iff, maxBytes]
  refine and_congr_right fun _ => and_congr_left fun _ => ?_
  constructor
  · rintro ⟨segments, hne, hsegments, hkey⟩
    refine ⟨segments.map String.ofList, by simpa using hne, ?_, ?_⟩
    · intro s hs
      obtain ⟨cs, hcs, rfl⟩ := List.mem_map.1 hs
      rw [String.toList_ofList]
      exact hsegments cs hcs
    · rw [← String.toList_inj, String.toList_intercalate, List.map_map, hkey]
      congr 1
      exact (List.map_id' segments).symm.trans (List.map_congr_left fun _ _ => by simp)
  · rintro ⟨segments, hne, hsegments, rfl⟩
    refine ⟨segments.map String.toList, by simpa using hne, ?_, String.toList_intercalate⟩
    intro cs hcs
    obtain ⟨s, hs, rfl⟩ := List.mem_map.1 hcs
    exact hsegments s hs

/-- Only the first segment has to start with a letter. -/
example : isValid "flow.2-." = false ∧ isValid "flow.2-._" = true ∧ isValid "2.flow" = false := by
  decide

end FeatureFlags.FlagKey
