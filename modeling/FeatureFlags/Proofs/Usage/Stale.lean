import FeatureFlags.Proofs.Usage.Totals
import FeatureFlags.Service

/-!
# Stale flags

* `Timestamp.exists_minusDays?_of_notBefore`: going back the same number of days from a later
  instant does not end earlier.
* `StaleFlag.ListedBefore` is the order in which stale flags are listed, and `notAfter_iff` says
  that this is what they are sorted by.  The order is total, so a list in this order is determined
  by what is in it (`eq_of_perm`).
* `UsageTracker.IsStale` says of a flag that it is stale, and `count_staleAt` that such flags are
  listed as often as they are asked for, and no others.

`lists_stale_flags` puts these together, and `stale_flags_leave_list` shows how a flag may leave the
list though nothing is evaluated.
-/

namespace FeatureFlags

namespace Timestamp

variable {a b c now later threshold : Timestamp} {days : Nat}

/-! ## Going back from a later instant -/

theorem before_trans (hab : a.before b = true) (hbc : b.before c = true) : a.before c = true := by
  rw [before_iff] at *
  omega

theorem before_of_before_of_not_before (hab : a.before b = true) (hcb : c.before b = false) :
    a.before c = true := by
  rw [before_iff] at *
  rw [not_before_iff] at hcb
  omega

/-- A leap second counts as a later one, so instants after an instant in no leap second stay after
it. -/
theorem withoutLeapSecond_not_before (hnow : now.nanosecond < nanosPerSecond)
    (hlater : later.before now = false) :
    later.withoutLeapSecond.before now.withoutLeapSecond = false := by
  rw [not_before_iff] at *
  rw [withoutLeapSecond, withoutLeapSecond, if_pos hnow]
  split
  · exact hlater
  · split
    · simp only
      omega
    · simp only
      omega

theorem day_withoutLeapSecond_le (t : Timestamp) : t.withoutLeapSecond.day ≤ t.day + 1 := by
  rw [withoutLeapSecond]
  split
  · omega
  · split
    · simp only
      omega
    · exact Int.le_refl _

/-- Whether an instant is not before another one, by the calendar and by the count of seconds.  The
two orders differ only around a leap second, which counts as the second after it. -/
structure NotBefore (later now : Timestamp) : Prop where
  byCalendar : later.before now = false
  byCount : later.withoutLeapSecond.before now.withoutLeapSecond = false

/-- After an instant that is in no leap second the calendar decides. -/
theorem notBefore_iff (hnow : now.nanosecond < nanosPerSecond) :
    later.NotBefore now ↔ later.before now = false :=
  ⟨NotBefore.byCalendar, fun h => ⟨h, withoutLeapSecond_not_before hnow h⟩⟩

/-- The instant from which days are counted back. -/
def counted (t : Timestamp) (days : Nat) : Timestamp :=
  if days = 0 then t else t.withoutLeapSecond

theorem minusDays?_eq_some_iff : now.minusDays? days = some threshold ↔
    threshold = { now.counted days with day := (now.counted days).day - days } ∧
      Calendar.firstDay ≤ threshold.day ∧ threshold.day ≤ Calendar.lastDay := by
  have hguard : now.minusDays? days = Option.guard (·.inCalendar)
      { now.counted days with day := (now.counted days).day - days } := rfl
  rw [hguard, Option.guard_eq_some_iff, inCalendar, decide_eq_true_iff, eq_comm]
  exact and_congr_right fun h => h ▸ Iff.rfl

/-- Going back some days from a later instant ends no earlier. -/
theorem exists_minusDays?_of_notBefore (hnow : now.minusDays? days = some threshold)
    (hin : later.inCalendar = true) (hlater : later.NotBefore now) :
    ∃ threshold', later.minusDays? days = some threshold' ∧
      threshold'.before threshold = false := by
  have hcounted : (later.counted days).before (now.counted days) = false := by
    rw [counted, counted]
    split
    · exact hlater.byCalendar
    · exact hlater.byCount
  have hday : (later.counted days).day ≤ later.day + days := by
    have hle := day_withoutLeapSecond_le later
    rw [counted]
    split
    · omega
    · omega
  have hlast : later.day ≤ Calendar.lastDay := (of_decide_eq_true hin).2
  obtain ⟨rfl, hfirst, -⟩ := minusDays?_eq_some_iff.1 hnow
  rw [not_before_iff] at hcounted
  refine ⟨_, minusDays?_eq_some_iff.2 ⟨rfl, ?_, ?_⟩, not_before_iff.2 ?_⟩
  · simp only at hfirst ⊢
    omega
  · simp only
    omega
  · simp only
    omega

/-- By the calendar alone it could: going back from a leap second ends in the second after it. -/
example : (⟨0, 0, 0⟩ : Timestamp).before ⟨-1, 86399, 1500000000⟩ = false ∧
    (⟨0, 0, 0⟩ : Timestamp).minusDays? 1 = some ⟨-1, 0, 0⟩ ∧
    (⟨-1, 86399, 1500000000⟩ : Timestamp).minusDays? 1 = some ⟨-1, 0, 500000000⟩ := by decide

end Timestamp

namespace StaleFlag

variable {a b c : StaleFlag}

/-! ## The order of the list -/

/-- Whether no evaluation of the flag is known from an instant on. -/
def isUnusedSince (threshold : Timestamp) (f : StaleFlag) : Bool :=
  f.lastEvaluatedAt.all (·.before threshold)

/-- How one flag comes to be listed before another. -/
inductive ListedBefore : StaleFlag → StaleFlag → Prop where
  /-- A flag that was never evaluated is listed before those that were. -/
  | never (key key' : String) (t : Timestamp) : ListedBefore ⟨key, none⟩ ⟨key', some t⟩
  | older {t t' : Timestamp} (h : t.before t' = true) (key key' : String) :
    ListedBefore ⟨key, some t⟩ ⟨key', some t'⟩
  | byKey {key key' : String} (h : key ≤ key') (last : Option Timestamp) :
    ListedBefore ⟨key, last⟩ ⟨key', last⟩

theorem notAfter_iff : a.notAfter b = true ↔ a.ListedBefore b := by
  obtain ⟨key, last⟩ := a
  obtain ⟨key', last'⟩ := b
  cases last with
  | none =>
    cases last' with
    | none =>
      refine ⟨fun h => .byKey (of_decide_eq_true h) none, fun h => ?_⟩
      cases h with
      | byKey h => exact decide_eq_true h
    | some t' => exact ⟨fun _ => .never key key' t', fun _ => rfl⟩
  | some t =>
    cases last' with
    | none => exact ⟨fun h => absurd h Bool.false_ne_true, nofun⟩
    | some t' =>
      simp only [notAfter, Bool.or_eq_true, Bool.and_eq_true, Bool.not_eq_true', decide_eq_true_eq]
      constructor
      · rintro (h | ⟨hnot, hkey⟩)
        · exact .older h key key'
        · by_cases hbefore : t.before t' = true
          · exact .older hbefore key key'
          · obtain rfl := Timestamp.eq_of_not_before (Bool.not_eq_true _ ▸ hbefore) hnot
            exact .byKey hkey (some t)
      · intro h
        cases h with
        | older h => exact .inl h
        | byKey h => exact .inr ⟨Timestamp.before_self t, h⟩

theorem ListedBefore.trans (hab : a.ListedBefore b) (hbc : b.ListedBefore c) :
    a.ListedBefore c := by
  cases hab with
  | never key =>
    cases hbc with
    | older => exact .never key _ _
    | byKey => exact .never key _ _
  | older h key =>
    cases hbc with
    | older h' => exact .older (Timestamp.before_trans h h') key _
    | byKey => exact .older h key _
  | byKey h =>
    cases hbc with
    | never => exact .never _ _ _
    | older h' => exact .older h' _ _
    | byKey h' => exact .byKey (String.le_trans h h') _

theorem ListedBefore.total (a b : StaleFlag) : a.ListedBefore b ∨ b.ListedBefore a := by
  obtain ⟨key, last⟩ := a
  obtain ⟨key', last'⟩ := b
  by_cases hlast : last = last'
  · subst hlast
    exact (String.le_total key key').imp (.byKey · last) (.byKey · last)
  · cases last with
    | none =>
      cases last' with
      | none => exact absurd rfl hlast
      | some t' => exact .inl (.never key key' t')
    | some t =>
      cases last' with
      | none => exact .inr (.never key' key t)
      | some t' =>
        cases hbefore : t.before t' with
        | true => exact .inl (.older hbefore key key')
        | false =>
          refine .inr (.older ?_ key' key)
          rw [← Bool.not_eq_false]
          exact fun hafter => hlast (congrArg some (Timestamp.eq_of_not_before hbefore hafter))

theorem ListedBefore.antisymm (hab : a.ListedBefore b) (hba : b.ListedBefore a) : a = b := by
  cases hab with
  | never => cases hba
  | older h =>
    cases hba with
    | older h' => rw [Timestamp.not_before_of_before h] at h'; cases h'
    | byKey => rw [Timestamp.before_self] at h; cases h
  | byKey h =>
    cases hba with
    | older h' => rw [Timestamp.before_self] at h'; cases h'
    | byKey h' => rw [String.le_antisymm h h']

/-- What is sorted is in the order of the list. -/
theorem pairwise_mergeSort (flags : List StaleFlag) :
    (flags.mergeSort notAfter).Pairwise ListedBefore := by
  refine (List.pairwise_mergeSort (fun a b c hab hbc => ?_) (fun a b => ?_) flags).imp
    notAfter_iff.1
  · exact notAfter_iff.2 ((notAfter_iff.1 hab).trans (notAfter_iff.1 hbc))
  · rw [Bool.or_eq_true, notAfter_iff, notAfter_iff]
    exact ListedBefore.total a b

/-- Two lists of the same flags that are in order are the same list. -/
theorem eq_of_perm {flags flags' : List StaleFlag} (h : flags.Pairwise ListedBefore)
    (h' : flags'.Pairwise ListedBefore) (hp : flags.Perm flags') : flags = flags' :=
  hp.eq_of_pairwise (fun _ _ _ _ => ListedBefore.antisymm) h h'

end StaleFlag

namespace UsageTracker

variable {u : UsageTracker} {scope : Scope} {keys keys' : List String} {threshold now : Timestamp}
  {f : StaleFlag}

/-! ## What is listed -/

/-- Whether the usage of a flag makes it stale: its last evaluation is unknown, or lies before the
given instant. -/
structure IsStale (u : UsageTracker) (scope : Scope) (threshold : Timestamp) (f : StaleFlag) :
    Prop where
  last : f.lastEvaluatedAt = (u.usage? scope f.flagKey).map (·.lastEvaluatedAt)
  before : ∀ t, f.lastEvaluatedAt = some t → t.before threshold = true

/-- A flag that is stale at an instant is stale at all later ones. -/
theorem IsStale.later {threshold' : Timestamp} (hf : u.IsStale scope threshold f)
    (h : threshold'.before threshold = false) : u.IsStale scope threshold' f where
  last := hf.last
  before t ht := Timestamp.before_of_before_of_not_before (hf.before t ht) h

/-- A flag with what is known of its last evaluation. -/
def lastUse (u : UsageTracker) (scope : Scope) (key : String) : StaleFlag :=
  ⟨key, (u.usage? scope key).map (·.lastEvaluatedAt)⟩

/-- The given flags that were last evaluated before an instant or never, as they are listed. -/
def staleAt (u : UsageTracker) (scope : Scope) (keys : List String) (threshold : Timestamp) :
    List StaleFlag :=
  ((keys.map (u.lastUse scope)).filter (StaleFlag.isUnusedSince threshold)).mergeSort
    StaleFlag.notAfter

theorem staleFlags?_eq (u : UsageTracker) (scope : Scope) (keys : List String) (now : Timestamp) :
    u.staleFlags? scope keys now = (now.minusDays? u.staleAfterDays).map (u.staleAt scope keys) :=
  rfl

theorem isStale_iff : u.IsStale scope threshold f ↔
    u.lastUse scope f.flagKey = f ∧ f.isUnusedSince threshold = true := by
  obtain ⟨key, last⟩ := f
  rw [lastUse, StaleFlag.mk.injEq, StaleFlag.isUnusedSince, Option.all_eq_true]
  exact ⟨fun h => ⟨⟨rfl, h.last.symm⟩, h.before⟩, fun h => ⟨h.1.2.symm, h.2⟩⟩

/-- Every key is asked about once for each time that it is given. -/
theorem count_map_lastUse (h : u.lastUse scope f.flagKey = f) :
    (keys.map (u.lastUse scope)).count f = keys.count f.flagKey := by
  rw [List.count_eq_countP, List.countP_map, List.count_eq_countP]
  refine List.countP_congr fun key _ => ?_
  rw [Function.comp_apply, beq_iff_eq, beq_iff_eq]
  constructor
  · rintro rfl
    rfl
  · rintro rfl
    exact h

/-- A stale flag is listed as often as its key is given. -/
theorem count_staleAt (hf : u.IsStale scope threshold f) :
    (u.staleAt scope keys threshold).count f = keys.count f.flagKey := by
  obtain ⟨hlast, hbefore⟩ := isStale_iff.1 hf
  rw [staleAt, (List.mergeSort_perm _ _).count_eq, List.count_filter hbefore,
    count_map_lastUse hlast]

/-- Only stale flags are listed. -/
theorem isStale_of_mem_staleAt (hf : f ∈ u.staleAt scope keys threshold) :
    u.IsStale scope threshold f := by
  rw [staleAt, List.mem_mergeSort, List.mem_filter, List.mem_map] at hf
  obtain ⟨⟨key, _, rfl⟩, hbefore⟩ := hf
  exact isStale_iff.2 ⟨rfl, hbefore⟩

/-- The order of the keys does not matter. -/
theorem staleAt_of_perm (hp : keys'.Perm keys) :
    u.staleAt scope keys' threshold = u.staleAt scope keys threshold := by
  refine StaleFlag.eq_of_perm (StaleFlag.pairwise_mergeSort _) (StaleFlag.pairwise_mergeSort _) ?_
  refine (List.mergeSort_perm _ _).trans (.trans ?_ (List.mergeSort_perm _ _).symm)
  exact (hp.map _).filter _

theorem staleFlags?_of_perm (hp : keys'.Perm keys) (now : Timestamp) :
    u.staleFlags? scope keys' now = u.staleFlags? scope keys now := by
  rw [staleFlags?_eq, staleFlags?_eq]
  exact Option.map_congr fun threshold _ => staleAt_of_perm hp

/-- A flag that is listed stays listed as time goes on. -/
theorem mem_staleAt_of_later {threshold' : Timestamp} (hf : f ∈ u.staleAt scope keys threshold)
    (h : threshold'.before threshold = false) : f ∈ u.staleAt scope keys threshold' := by
  have hstale := isStale_of_mem_staleAt hf
  rw [← List.count_pos_iff, count_staleAt (hstale.later h), ← count_staleAt hstale]
  exact List.count_pos_iff.2 hf

theorem staleFlags?_nil (hthreshold : now.minusDays? u.staleAfterDays = some threshold) :
    u.staleFlags? scope [] now = some [] := by
  rw [staleFlags?_eq, hthreshold, Option.map_some, staleAt, List.map_nil, List.filter_nil,
    List.mergeSort_nil]

theorem staleFlags?_singleton {key : String}
    (hthreshold : now.minusDays? u.staleAfterDays = some threshold)
    (hlast : u.lastUse scope key = f) :
    u.staleFlags? scope [key] now =
      some (if f.isUnusedSince threshold then [f] else []) := by
  rw [staleFlags?_eq, hthreshold, Option.map_some, staleAt, List.map_singleton, hlast,
    List.filter_cons, List.filter_nil]
  split
  · rw [List.mergeSort_singleton]
  · rw [List.mergeSort_nil]

/-! ## Main result -/

/-- As long as the days that a flag may be unused do not lead out of the calendar, the flags are
listed that were never evaluated or were last evaluated before that many days, each as often as it
is asked for and with its last evaluation.  They come in one order, whatever the order of the keys,
and they stay on the list for the same keys as time goes on by the calendar and by the count of
seconds (see `stale_flags_leave_list`).  A service lists the flags of a scope that are served and
not archived, in whatever order the cache gives them. -/
theorem lists_stale_flags (u : UsageTracker) (scope : Scope) (keys : List String)
    (now : Timestamp) :
    (∀ threshold, now.minusDays? u.staleAfterDays = some threshold →
      ∃ stale, u.staleFlags? scope keys now = some stale ∧
        (∀ f, u.IsStale scope threshold f → stale.count f = keys.count f.flagKey) ∧
        (∀ f ∈ stale, u.IsStale scope threshold f) ∧
        stale.Pairwise StaleFlag.ListedBefore ∧
        (∀ keys', keys'.Perm keys → u.staleFlags? scope keys' now = some stale) ∧
        ∀ later, later.inCalendar = true → later.NotBefore now →
          ∃ stale', u.staleFlags? scope keys later = some stale' ∧ ∀ f ∈ stale, f ∈ stale') ∧
    ∀ (s : Service) (entries : List Entry), entries.Perm (s.cache.flags scope).values →
      s.staleFlags? scope now = s.usage.staleFlags? scope
        ((entries.filter fun e => !e.flag.isArchived).map (·.flag.key)) now := by
  constructor
  · intro threshold hthreshold
    have hlist : u.staleFlags? scope keys now = some (u.staleAt scope keys threshold) := by
      rw [staleFlags?_eq, hthreshold, Option.map_some]
    refine ⟨_, hlist, fun f => count_staleAt, fun f => isStale_of_mem_staleAt,
      StaleFlag.pairwise_mergeSort _, fun keys' hp => (staleFlags?_of_perm hp now).trans hlist, ?_⟩
    intro later hin hlater
    obtain ⟨threshold', hthreshold', hle⟩ :=
      Timestamp.exists_minusDays?_of_notBefore hthreshold hin hlater
    refine ⟨_, by rw [staleFlags?_eq, hthreshold', Option.map_some], fun f hf => ?_⟩
    exact mem_staleAt_of_later hf hle
  · intro s entries hp
    exact staleFlags?_of_perm ((hp.symm.filter _).map _) now

/-- Two flags that were last evaluated about thirty days before the noon of day 20412, one of them a
nanosecond too early. -/
def aroundThirtyDays : UsageTracker :=
  (((UsageTracker.empty 8 30).record ⟨"shop", "live"⟩ "dark-mode" ⟨20382, 43200, 0⟩).record
    ⟨"shop", "live"⟩ "new-editor" ⟨20382, 43199, 999999999⟩).settle

/-- A service with these evaluations that serves the two flags and an archived one. -/
def servesThree : Service where
  cache := (Cache.empty.refresh ⟨.ok [], fun _ => .ok [
    ⟨{ (default : Flag) with key := "dark-mode" }, default⟩,
    ⟨{ (default : Flag) with key := "new-editor" }, default⟩,
    ⟨{ (default : Flag) with key := "old-editor", status := .archived }, default⟩]⟩
    ⟨"shop", "live"⟩ default).2
  hub := .empty 1
  usage := aroundThirtyDays
  heartbeatSeconds := 1

theorem lists_stale_flags_aroundThirtyDays :
    (⟨20412, 43200, 0⟩ : Timestamp).minusDays? 30 = some ⟨20382, 43200, 0⟩ ∧
    aroundThirtyDays.IsStale ⟨"shop", "live"⟩ ⟨20382, 43200, 0⟩
      ⟨"new-editor", some ⟨20382, 43199, 999999999⟩⟩ ∧
    ∃ stale,
      aroundThirtyDays.staleFlags? ⟨"shop", "live"⟩ ["dark-mode", "new-editor", "new-editor"]
        ⟨20412, 43200, 0⟩ = some stale ∧
      stale.count ⟨"new-editor", some ⟨20382, 43199, 999999999⟩⟩ = 2 ∧
      ⟨"dark-mode", some ⟨20382, 43200, 0⟩⟩ ∉ stale ∧
      aroundThirtyDays.staleFlags? ⟨"shop", "live"⟩ ["new-editor", "dark-mode", "new-editor"]
        ⟨20412, 43200, 0⟩ = some stale ∧
      ∃ stale', aroundThirtyDays.staleFlags? ⟨"shop", "live"⟩
          ["dark-mode", "new-editor", "new-editor"] ⟨20413, 0, 0⟩ = some stale' ∧
        ⟨"new-editor", some ⟨20382, 43199, 999999999⟩⟩ ∈ stale' ∧
        servesThree.staleFlags? ⟨"shop", "live"⟩ ⟨20412, 43200, 0⟩ =
          aroundThirtyDays.staleFlags? ⟨"shop", "live"⟩ ["new-editor", "dark-mode"]
            ⟨20412, 43200, 0⟩ := by
  have hthreshold : (⟨20412, 43200, 0⟩ : Timestamp).minusDays? 30 = some ⟨20382, 43200, 0⟩ := by
    decide
  have hstale : aroundThirtyDays.IsStale ⟨"shop", "live"⟩ ⟨20382, 43200, 0⟩
      ⟨"new-editor", some ⟨20382, 43199, 999999999⟩⟩ :=
    ⟨by decide +kernel, fun t ht => by rw [← Option.some.inj ht]; decide⟩
  have hlater : (⟨20413, 0, 0⟩ : Timestamp).NotBefore ⟨20412, 43200, 0⟩ :=
    (Timestamp.notBefore_iff (by decide)).2 (by decide)
  obtain ⟨hlists, hserved⟩ := lists_stale_flags aroundThirtyDays ⟨"shop", "live"⟩
    ["dark-mode", "new-editor", "new-editor"] ⟨20412, 43200, 0⟩
  obtain ⟨stale, hlist, hcount, honly, -, horder, htime⟩ := hlists _ hthreshold
  have htwice := hcount _ hstale
  obtain ⟨stale', hlist', hstays⟩ := htime ⟨20413, 0, 0⟩ (by decide) hlater
  refine ⟨hthreshold, hstale, stale, hlist, htwice, fun hmem => ?_, horder _ (.swap _ _ _), stale',
    hlist', hstays _ (List.count_pos_iff.1 (by rw [htwice]; decide)),
    hserved servesThree _ (List.reverse_perm _)⟩
  exact absurd ((honly _ hmem).before _ rfl) (by decide)

/-- A flag whose last evaluation is between what lies thirty days before the leap second at the end
of day 17166 and what lies thirty days before the next day. -/
def beforeLeapSecond : UsageTracker :=
  ((UsageTracker.empty 8 30).record ⟨"shop", "live"⟩ "dark-mode" ⟨17137, 0, 300000000⟩).settle

/-- A flag that is served with the given status. -/
def oldEditor (status : FlagStatus) : Entry :=
  ⟨{ (default : Flag) with key := "old-editor", status }, default⟩

/-- A service that serves a flag that was never evaluated. -/
def servesOldEditor : Service where
  cache := (Cache.empty.refresh ⟨.ok [], fun _ => .ok [oldEditor .active]⟩ ⟨"shop", "live"⟩
    default).2
  hub := .empty 1
  usage := .empty 8 30
  heartbeatSeconds := 1

/-- The service after the flag has been archived. -/
def archivesOldEditor : Service :=
  { servesOldEditor with
    cache := (servesOldEditor.cache.refresh ⟨.ok [], fun _ => .ok [oldEditor .archived]⟩
      ⟨"shop", "live"⟩ default).2 }

/-- A flag that is stale within a leap second need not be stale in the next second, and a flag that
is archived is not listed any more, though nothing has been evaluated in between. -/
theorem stale_flags_leave_list :
    (⟨17167, 0, 0⟩ : Timestamp).before ⟨17166, 86399, 1500000000⟩ = false ∧
    beforeLeapSecond.staleFlags? ⟨"shop", "live"⟩ ["dark-mode"] ⟨17166, 86399, 1500000000⟩ =
      some [⟨"dark-mode", some ⟨17137, 0, 300000000⟩⟩] ∧
    beforeLeapSecond.staleFlags? ⟨"shop", "live"⟩ ["dark-mode"] ⟨17167, 0, 0⟩ = some [] ∧
    servesOldEditor.staleFlags? ⟨"shop", "live"⟩ ⟨20412, 43200, 0⟩ = some [⟨"old-editor", none⟩] ∧
    archivesOldEditor.usage = servesOldEditor.usage ∧
    archivesOldEditor.staleFlags? ⟨"shop", "live"⟩ ⟨20413, 0, 0⟩ = some [] := by
  have hlast : beforeLeapSecond.lastUse ⟨"shop", "live"⟩ "dark-mode" =
      ⟨"dark-mode", some ⟨17137, 0, 300000000⟩⟩ := by decide +kernel
  have hleap : (⟨17166, 86399, 1500000000⟩ : Timestamp).minusDays? 30 =
      some ⟨17137, 0, 500000000⟩ := by decide
  have hnext : (⟨17167, 0, 0⟩ : Timestamp).minusDays? 30 = some ⟨17137, 0, 0⟩ := by decide
  have hnever : servesOldEditor.usage.lastUse ⟨"shop", "live"⟩ "old-editor" =
      ⟨"old-editor", none⟩ := by decide +kernel
  have hnoon : (⟨20412, 43200, 0⟩ : Timestamp).minusDays? 30 = some ⟨20382, 43200, 0⟩ := by decide
  have hnight : (⟨20413, 0, 0⟩ : Timestamp).minusDays? 30 = some ⟨20383, 0, 0⟩ := by decide
  -- The service asks about the one flag while it is not archived, and then about none.
  have hserved : servesOldEditor.usage.staleFlags? ⟨"shop", "live"⟩ ["old-editor"]
      ⟨20412, 43200, 0⟩ = some [⟨"old-editor", none⟩] := (staleFlags?_singleton hnoon hnever :)
  have harchived : archivesOldEditor.usage.staleFlags? ⟨"shop", "live"⟩ [] ⟨20413, 0, 0⟩ =
      some [] := staleFlags?_nil hnight
  exact ⟨by decide, (staleFlags?_singleton hleap hlast :), (staleFlags?_singleton hnext hlast :),
    hserved, rfl, harchived⟩

end UsageTracker

end FeatureFlags
