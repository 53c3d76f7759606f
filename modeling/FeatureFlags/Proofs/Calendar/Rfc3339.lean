import FeatureFlags.Calendar.Rfc3339
import FeatureFlags.Proofs.Calendar.Date
import FeatureFlags.Proofs.Text.Digit
import Mathlib.Data.List.TakeWhile

/-!
# Timestamps that are written and read

* `WellFormed` is what every timestamp that has been read is like (`wellFormed_of_read?`): its
  second is one of the day, and a leap second is the last of its minute.
* `read?_chars`: the text of an instant reads back as the instant, but for a leap second elsewhere
  in a minute, which reads as the second after it (`settled`).  So a timestamp that has been read
  reads back, whatever offset it was read with at first (`parse?_text_of_parse?`).

The lemmas between say how each reader takes what its writer has put there and leaves the rest.
-/

namespace FeatureFlags.Timestamp

open Text

/-- What a timestamp is like that a text can stand for. -/
structure WellFormed (t : Timestamp) : Prop where
  inCalendar : t.inCalendar = true
  second : t.second < 86400
  nanosecond : t.nanosecond < 2 * nanosPerSecond
  leap : nanosPerSecond ≤ t.nanosecond → t.second % 60 = 59

/-- What every timestamp is like that a clock or a text gives. -/
structure IsInstant (t : Timestamp) : Prop where
  inCalendar : t.inCalendar = true
  second : t.second < 86400
  nanosecond : t.nanosecond < 2 * nanosPerSecond

theorem WellFormed.isInstant {t : Timestamp} (ht : t.WellFormed) : t.IsInstant :=
  ⟨ht.inCalendar, ht.second, ht.nanosecond⟩

/-- The timestamp with leap seconds at the end of minutes only. -/
def settled (t : Timestamp) : Timestamp := if t.second % 60 = 59 then t else t.withoutLeapSecond

theorem settled_of_lt {t : Timestamp} (ht : t.nanosecond < nanosPerSecond) : t.settled = t := by
  rw [settled, withoutLeapSecond, if_pos ht, ite_self]

theorem settled_of_late {t : Timestamp} (hsecond : t.second < 86400)
    (hlate : nanosPerSecond ≤ t.nanosecond) (hminute : t.second % 60 ≠ 59) :
    t.settled = ⟨t.day, t.second + 1, t.nanosecond - nanosPerSecond⟩ := by
  have hwithin : t.second + 1 < 86400 := by omega
  rw [settled, if_neg hminute, withoutLeapSecond, if_neg (Nat.not_lt.2 hlate), if_pos hwithin]

theorem WellFormed.settled_eq {t : Timestamp} (ht : t.WellFormed) : t.settled = t := by
  by_cases hlate : nanosPerSecond ≤ t.nanosecond
  · exact if_pos (ht.leap hlate)
  · exact settled_of_lt (Nat.lt_of_not_le hlate)

/-! ## What is read -/

theorem wellFormed_of_ofLocal? {date : Calendar.Date} {hour minute second nanosecond : Nat}
    {offset : Int} {t : Timestamp} (hnano : nanosecond < nanosPerSecond) (hoffset : offset % 60 = 0)
    (ht : ofLocal? date hour minute second nanosecond offset = some t) : t.WellFormed := by
  rw [ofLocal?] at ht
  split at ht
  · cases ht
  · next hfine =>
    simp only [not_or, Nat.not_le] at hfine
    obtain ⟨-, hhour, hminute, hsecond, -⟩ := hfine
    by_cases hleap : second = 60
    · simp only [hleap, if_true, Option.ite_none_right_eq_some, Option.some.injEq] at ht
      obtain ⟨hcalendar, rfl⟩ := ht
      refine ⟨hcalendar, ?_, ?_, ?_⟩
      · dsimp only
        omega
      · show nanosecond + nanosPerSecond < 2 * nanosPerSecond
        omega
      · intro _
        dsimp only
        omega
    · simp only [hleap, if_false, Option.ite_none_right_eq_some, Option.some.injEq] at ht
      obtain ⟨hcalendar, rfl⟩ := ht
      refine ⟨hcalendar, ?_, ?_, ?_⟩
      · dsimp only
        omega
      · show nanosecond < 2 * nanosPerSecond
        omega
      · intro hlate
        exact absurd hnano (Nat.not_lt.2 hlate)

/-- Decimals are less than a second. -/
theorem readFraction?_lt {cs rest : List Char} {n : Nat} (h : readFraction? cs = some (n, rest)) :
    n < nanosPerSecond := by
  unfold readFraction? at h
  split at h
  · next cs =>
    dsimp only at h
    split at h
    · cases h
    · simp only [Option.some.injEq, Prod.mk.injEq] at h
      obtain ⟨rfl, -⟩ := h
      have hdigits : ∀ d ∈ (cs.takeWhile Char.isDigit).take 9, d.isDigit = true :=
        fun d hd => List.mem_takeWhile_imp (p := Char.isDigit) (List.mem_of_mem_take hd)
      have hlength : ((cs.takeWhile Char.isDigit).take 9).length ≤ 9 := List.length_take_le _ _
      calc _ < 10 ^ ((cs.takeWhile Char.isDigit).take 9).length *
            10 ^ (9 - ((cs.takeWhile Char.isDigit).take 9).length) :=
          Nat.mul_lt_mul_of_pos_right (digitsValue_lt hdigits) (Nat.pow_pos (by decide))
        _ = nanosPerSecond := by
          rw [← Nat.pow_add, Nat.add_sub_cancel' hlength]
          rfl
  · cases h
    decide

/-- Offsets are whole minutes. -/
theorem readOffset?_mod {cs rest : List Char} {offset : Int}
    (h : readOffset? cs = some (offset, rest)) : offset % 60 = 0 := by
  unfold readOffset? at h
  split at h
  · cases h
    rfl
  · cases h
    rfl
  · split at h
    · cases h
      rfl
    · dsimp -zeta only at h
      extract_lets finish at h
      have hfinish : ∀ sign, finish sign = some (offset, rest) → offset % 60 = 0 := by
        rintro ⟨negative, cs⟩ hcs
        simp only [finish] at hcs
        split at hcs
        · cases hcs
        · split at hcs
          · cases hcs
          · simp only [Option.some.injEq, Prod.mk.injEq] at hcs
            obtain ⟨rfl, -⟩ := hcs
            split <;> omega
      split at h
      · exact hfinish _ h
      · exact hfinish _ h
      · exact hfinish _ h
      · cases h

theorem wellFormed_of_read? {cs : List Char} {t : Timestamp} (h : read? cs = some t) :
    t.WellFormed := by
  obtain ⟨⟨year, cs₁⟩, -, h⟩ := Option.bind_eq_some_iff.1 h
  obtain ⟨cs₂, -, h⟩ := Option.bind_eq_some_iff.1 h
  obtain ⟨⟨month, cs₃⟩, -, h⟩ := Option.bind_eq_some_iff.1 h
  obtain ⟨cs₄, -, h⟩ := Option.bind_eq_some_iff.1 h
  obtain ⟨⟨day, cs₅⟩, -, h⟩ := Option.bind_eq_some_iff.1 h
  dsimp -zeta only at h
  extract_lets finish at h
  have hfinish : ∀ cs, finish cs = some t → t.WellFormed := by
    intro cs hcs
    obtain ⟨⟨hour, cs₇⟩, -, hcs⟩ := Option.bind_eq_some_iff.1 hcs
    obtain ⟨cs₈, -, hcs⟩ := Option.bind_eq_some_iff.1 hcs
    obtain ⟨⟨minute, cs₉⟩, -, hcs⟩ := Option.bind_eq_some_iff.1 hcs
    obtain ⟨cs₁₀, -, hcs⟩ := Option.bind_eq_some_iff.1 hcs
    obtain ⟨⟨second, cs₁₁⟩, -, hcs⟩ := Option.bind_eq_some_iff.1 hcs
    obtain ⟨⟨nanosecond, cs₁₂⟩, hfraction, hcs⟩ := Option.bind_eq_some_iff.1 hcs
    obtain ⟨⟨offset, cs₁₃⟩, hoffset, hcs⟩ := Option.bind_eq_some_iff.1 hcs
    dsimp only at hcs
    split at hcs
    · cases hcs
    · exact wellFormed_of_ofLocal? (readFraction?_lt hfraction) (readOffset?_mod hoffset) hcs
  split at h
  · exact hfinish _ h
  · exact hfinish _ h
  · exact hfinish _ h
  · cases h

/-! ## Reading what is written -/

theorem readNumber?_decimalPadded {width n : Nat} (hwidth : 0 < width) (hn : n < 10 ^ width)
    (rest : List Char) :
    readNumber? width (decimalPadded width n ++ rest) = some (n, rest) := by
  have hlength := length_decimalPadded width n
  have hdigits : ∀ d ∈ decimalPadded width n, d.isDigit = true :=
    fun _ => isDigit_of_mem_decimalPadded
  have hne : decimalPadded width n ≠ [] := List.ne_nil_of_length_pos (by omega)
  rw [readNumber?, trimStart_digits hne hdigits, List.take_left' hlength,
    List.takeWhile_eq_self_iff.2 hdigits, List.drop_left' rfl,
    digitsValue_decimalPadded_of_lt hn, List.isEmpty_eq_false_iff.2 hne]
  rfl

/-- A year without a sign is a number of at most four digits. -/
theorem readYear?_digit {d : Char} (hd : d.isDigit = true) (cs : List Char) :
    readYear? (d :: cs) = (readNumber? 4 (d :: cs)).map fun (n, rest) => ((n : Int), rest) := by
  have htrim : trimStart (d :: cs) = d :: cs :=
    List.dropWhile_cons_of_neg (by rw [isBlank_of_isDigit hd]; decide)
  rw [readYear?, htrim]
  split
  · next h =>
    cases h
    exact absurd hd (by decide)
  · next h =>
    cases h
    exact absurd hd (by decide)
  · rfl

/-- A year reads back if no digit follows it. -/
theorem readYear?_yearChars (year : Int) {rest : List Char}
    (hrest : rest.head?.all (!·.isDigit) = true) :
    readYear? (yearChars year ++ rest) = some (year, rest) := by
  rw [yearChars]
  split
  · next hyear =>
    obtain ⟨d, ds, hds⟩ := List.exists_cons_of_length_eq_add_one
      (length_decimalPadded 4 year.toNat)
    have hd : d.isDigit = true :=
      isDigit_of_mem_decimalPadded (n := year.toNat) (hds ▸ List.mem_cons_self)
    have hlt : year.toNat < 10 ^ 4 := by omega
    have hnumber := readNumber?_decimalPadded (Nat.zero_lt_succ 3) hlt rest
    rw [hds, List.cons_append] at hnumber
    rw [hds, List.cons_append, readYear?_digit hd, hnumber, Option.map_some]
    show some ((year.toNat : Int), rest) = some (year, rest)
    rw [Int.toNat_of_nonneg hyear.1]
  · have hdigits : ∀ d ∈ decimalAtLeast 4 year.natAbs, d.isDigit = true :=
      fun _ => isDigit_of_mem_decimalAtLeast
    have htake := takeWhile_isDigit_append hdigits hrest
    have hdrop := dropWhile_isDigit_append hdigits hrest
    have hne : (decimalAtLeast 4 year.natAbs).isEmpty = false :=
      List.isEmpty_eq_false_iff.2 (decimalAtLeast_ne_nil 4 year.natAbs)
    have htrim : ∀ sign, isBlank sign = false →
        trimStart (sign :: (decimalAtLeast 4 year.natAbs ++ rest)) =
          sign :: (decimalAtLeast 4 year.natAbs ++ rest) :=
      fun sign hsign => List.dropWhile_cons_of_neg (by rw [hsign]; decide)
    by_cases hneg : year < 0
    · rw [if_pos hneg, List.cons_append, readYear?, htrim '-' rfl]
      simp only [htake, hdrop, hne, digitsValue_decimalAtLeast, Bool.false_eq_true, if_false,
        Option.some.injEq, Prod.mk.injEq, and_true]
      omega
    · rw [if_neg hneg, List.cons_append, readYear?, htrim '+' rfl]
      simp only [htake, hdrop, hne, digitsValue_decimalAtLeast, Bool.false_eq_true, if_false,
        Option.some.injEq, Prod.mk.injEq, and_true]
      omega

theorem readFraction?_point {width n : Nat} (hwidth : 0 < width) (hle : width ≤ 9)
    (hn : n < 10 ^ width) {rest : List Char} (hrest : rest.head?.all (!·.isDigit) = true) :
    readFraction? ('.' :: decimalPadded width n ++ rest) = some (n * 10 ^ (9 - width), rest) := by
  have hlength := length_decimalPadded width n
  have hdigits : ∀ d ∈ decimalPadded width n, d.isDigit = true :=
    fun _ => isDigit_of_mem_decimalPadded
  have hne : (decimalPadded width n).isEmpty = false :=
    List.isEmpty_eq_false_iff.2 (List.ne_nil_of_length_pos (by omega))
  rw [List.cons_append, readFraction?, takeWhile_isDigit_append hdigits hrest,
    dropWhile_isDigit_append hdigits hrest, hne, List.take_of_length_le (by omega), hlength,
    digitsValue_decimalPadded_of_lt hn]
  rfl

/-- Decimals read back: those that are left out are zeros. -/
theorem readFraction?_fractionChars {n : Nat} (hn : n < nanosPerSecond) :
    readFraction? (fractionChars n ++ ['Z']) = some (n, ['Z']) := by
  have hn : n < 1000000000 := hn
  have hrest : ['Z'].head?.all (!·.isDigit) = true := rfl
  rw [fractionChars]
  split
  · next hzero => rw [hzero]; rfl
  · split
    · rw [readFraction?_point (by decide) (by decide) (by omega) hrest]
      simp only [Option.some.injEq, Prod.mk.injEq, and_true]
      omega
    · split
      · rw [readFraction?_point (by decide) (by decide) (by omega) hrest]
        simp only [Option.some.injEq, Prod.mk.injEq, and_true]
        omega
      · rw [readFraction?_point (by decide) (by decide) hn hrest]
        simp only [Nat.sub_self, Nat.pow_zero, Nat.mul_one]

/-- The date and time of an instant in UTC are those of the instant. -/
theorem ofLocal?_ofDays {t : Timestamp} (ht : t.IsInstant) :
    ofLocal? (Calendar.Date.ofDays t.day) (t.second / 3600) (t.second / 60 % 60)
      (t.second % 60 + t.nanosecond / nanosPerSecond) (t.nanosecond % nanosPerSecond) 0 =
        some t.settled := by
  obtain ⟨hcalendar, hsecond, hnano⟩ := ht
  have hdays : Calendar.firstDay ≤ t.day ∧ t.day ≤ Calendar.lastDay := of_decide_eq_true hcalendar
  have hnano : t.nanosecond < 2 * 1000000000 := hnano
  have hdiv : t.nanosecond / nanosPerSecond = t.nanosecond / 1000000000 := rfl
  have hmod : t.nanosecond % nanosPerSecond = t.nanosecond % 1000000000 := rfl
  have hfine : ¬(!(Calendar.Date.ofDays t.day).isValid ∨ 24 ≤ t.second / 3600 ∨
      60 ≤ t.second / 60 % 60 ∨ 61 ≤ t.second % 60 + t.nanosecond / 1000000000 ∨
      86400 ≤ (0 : Int).natAbs) := by
    rw [Calendar.Date.isValid_ofDays hdays.1 hdays.2]
    simp only [Bool.not_true, Bool.false_eq_true, false_or]
    omega
  rw [hdiv, hmod, ofLocal?, if_neg hfine, Calendar.Date.toDays_ofDays]
  have hday : t.day + (t.second : Int) / 86400 = t.day := by omega
  have hrest : ((t.second : Int) % 86400).toNat = t.second := by omega
  by_cases hlate : 1000000000 ≤ t.nanosecond
  · by_cases hminute : t.second % 60 = 59
    -- The leap second at the end of a minute was written as the second 60.
    · have hsixty : t.second % 60 + t.nanosecond / 1000000000 = 60 := by omega
      have hofDay : ((t.second / 3600 : Nat) : Int) * 3600 + ((t.second / 60 % 60 : Nat) : Int) * 60
          + ((59 : Nat) : Int) - 0 = t.second := by omega
      have hnanos : t.nanosecond % 1000000000 + nanosPerSecond = t.nanosecond := by
        show t.nanosecond % 1000000000 + 1000000000 = t.nanosecond
        omega
      simp only [hsixty, if_true, hofDay, hday, hrest, hnanos]
      rw [settled, if_pos hminute]
      exact if_pos hcalendar
    -- Another one was written as the second after it.
    · have hshort : t.second % 60 + t.nanosecond / 1000000000 ≠ 60 := by omega
      have hofDay : ((t.second / 3600 : Nat) : Int) * 3600 + ((t.second / 60 % 60 : Nat) : Int) * 60
          + ((t.second % 60 + t.nanosecond / 1000000000 : Nat) : Int) - 0 =
            ((t.second + 1 : Nat) : Int) := by omega
      have hday' : t.day + ((t.second + 1 : Nat) : Int) / 86400 = t.day := by omega
      have hrest' : (((t.second + 1 : Nat) : Int) % 86400).toNat = t.second + 1 := by omega
      have hnanos : t.nanosecond % 1000000000 = t.nanosecond - nanosPerSecond := by
        show t.nanosecond % 1000000000 = t.nanosecond - 1000000000
        omega
      rw [settled_of_late hsecond hlate hminute]
      simp only [hshort, if_false, hofDay, hday', hrest', hnanos]
      exact if_pos hcalendar
  · have hsecond : t.second % 60 + t.nanosecond / 1000000000 = t.second % 60 := by omega
    have hshort : t.second % 60 ≠ 60 := by omega
    have hofDay : ((t.second / 3600 : Nat) : Int) * 3600 + ((t.second / 60 % 60 : Nat) : Int) * 60
        + ((t.second % 60 : Nat) : Int) - 0 = t.second := by omega
    have hnanos : t.nanosecond % 1000000000 = t.nanosecond := by omega
    rw [settled_of_lt (Nat.lt_of_not_le hlate)]
    simp only [hsecond, hshort, if_false, hofDay, hday, hrest, hnanos]
    exact if_pos hcalendar

/-- What an instant is read back as. -/
theorem read?_chars {t : Timestamp} (ht : t.IsInstant) : read? t.chars = some t.settled := by
  obtain ⟨hcalendar, hsecond, hnano⟩ := id ht
  have hdays : Calendar.firstDay ≤ t.day ∧ t.day ≤ Calendar.lastDay := of_decide_eq_true hcalendar
  have hvalid := Calendar.Date.isValid_ofDays hdays.1 hdays.2
  have hnano : t.nanosecond < 2 * 1000000000 := hnano
  have hlength := Calendar.Date.daysInMonth_le (Calendar.Date.ofDays t.day).year
    (Calendar.Date.ofDays t.day).month
  simp only [Calendar.Date.isValid, decide_eq_true_iff] at hvalid
  have hmonth : (Calendar.Date.ofDays t.day).month < 10 ^ 2 := by omega
  have hday : (Calendar.Date.ofDays t.day).day < 10 ^ 2 := by omega
  have hsixty : t.second % 60 + t.nanosecond / nanosPerSecond < 10 ^ 2 := by
    show t.second % 60 + t.nanosecond / 1000000000 < 10 ^ 2
    omega
  have htwo : 0 < 2 := by decide
  rw [chars]
  simp only [List.append_assoc, List.cons_append]
  -- Each reader takes what was written for it; the marks between are read by computation.
  refine Option.bind_eq_some_iff.2 ⟨_, readYear?_yearChars _ rfl, ?_⟩
  refine Option.bind_eq_some_iff.2 ⟨_, rfl, ?_⟩
  refine Option.bind_eq_some_iff.2 ⟨_, readNumber?_decimalPadded htwo hmonth _, ?_⟩
  refine Option.bind_eq_some_iff.2 ⟨_, rfl, ?_⟩
  refine Option.bind_eq_some_iff.2 ⟨_, readNumber?_decimalPadded htwo hday _, ?_⟩
  refine Option.bind_eq_some_iff.2 ⟨_, rfl, ?_⟩
  refine Option.bind_eq_some_iff.2 ⟨_, readNumber?_decimalPadded htwo (by omega) _, ?_⟩
  refine Option.bind_eq_some_iff.2 ⟨_, rfl, ?_⟩
  refine Option.bind_eq_some_iff.2 ⟨_, readNumber?_decimalPadded htwo (by omega) _, ?_⟩
  refine Option.bind_eq_some_iff.2 ⟨_, rfl, ?_⟩
  refine Option.bind_eq_some_iff.2 ⟨_, readNumber?_decimalPadded htwo hsixty _, ?_⟩
  refine Option.bind_eq_some_iff.2 ⟨_, readFraction?_fractionChars (Nat.mod_lt _ (by decide)), ?_⟩
  refine Option.bind_eq_some_iff.2 ⟨_, rfl, ?_⟩
  exact ofLocal?_ofDays ht

theorem parse?_text {t : Timestamp} (ht : t.IsInstant) : parse? t.text = some t.settled := by
  rw [parse?, text, String.toList_ofList, read?_chars ht]

/-- A timestamp that has been read reads back. -/
theorem parse?_text_of_parse? {s : String} {t : Timestamp} (h : parse? s = some t) :
    parse? t.text = some t := by
  have ht := wellFormed_of_read? h
  rw [parse?_text ht.isInstant, ht.settled_eq]

end FeatureFlags.Timestamp
