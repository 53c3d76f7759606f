import FeatureFlags.Config.Resolve
import Mathlib.Data.List.Nodup

/-!
# Settings from several sources

A layer is laid over the ones before it field by field.  Seen from one field, all that counts is
which layers set it.

* `IsField` is what a field of a layer is like: it is not set by the layer without settings, and
  the upper layer decides.  Every field of a section is one (`IsField.of_section`).
* `IsField.foldl` follows a field through any number of layers: the last one that sets it decides.
* `resolve_lastSettings` puts together what comes of any list of sources.
-/

namespace FeatureFlags.Config

/-! ## Fields of layers -/

namespace Layer

def subscriberCapacity? (l : Layer) : Option Nat := l.flags.bind (·.subscriberCapacity)

def usageQueueCapacity? (l : Layer) : Option Nat := l.flags.bind (·.usageQueueCapacity)

def staleAfterDays? (l : Layer) : Option Nat := l.flags.bind (·.staleAfterDays)

def heartbeatSeconds? (l : Layer) : Option Nat := l.flags.bind (·.heartbeatSeconds)

def snapshotPath? (l : Layer) : Option String := l.store.bind (·.snapshotPath)

def logLevel? (l : Layer) : Option String := l.logging.bind (·.level)

def logFormat? (l : Layer) : Option LogFormat := l.logging.bind (·.format)

end Layer

/-- The value of the last layer that sets a field, or the standard value if none does. -/
def lastSet {α : Type} (field : Layer → Option α) (standard : α) (layers : List Layer) : α :=
  (layers.filterMap field).getLast?.getD standard

/-- The settings that layers give if each setting is decided by itself. -/
def lastSettings (layers : List Layer) : Settings where
  service := {
    subscriberCapacity :=
      lastSet Layer.subscriberCapacity? ServiceSettings.standard.subscriberCapacity layers
    usageQueueCapacity :=
      lastSet Layer.usageQueueCapacity? ServiceSettings.standard.usageQueueCapacity layers
    staleAfterDays := lastSet Layer.staleAfterDays? ServiceSettings.standard.staleAfterDays layers
    heartbeatSeconds :=
      lastSet Layer.heartbeatSeconds? ServiceSettings.standard.heartbeatSeconds layers }
  snapshotPath := lastSet Layer.snapshotPath? Settings.standard.snapshotPath layers
  logLevel := lastSet Layer.logLevel? Settings.standard.logLevel layers
  logFormat := lastSet Layer.logFormat? Settings.standard.logFormat layers

/-- The first setting that is zero and must not be. -/
def firstZero? (s : ServiceSettings) : Option String :=
  if s.subscriberCapacity = 0 then some "flags.subscriber_capacity"
  else if s.usageQueueCapacity = 0 then some "flags.usage_queue_capacity"
  else if s.heartbeatSeconds = 0 then some "flags.heartbeat_interval_secs"
  else none

/-- Whether a part of layers is laid over another as a field: what the upper layer sets counts. -/
structure IsField {α : Type} (field : Layer → Option α) : Prop where
  unset : field {} = none
  laidOver : ∀ upper lower, field (upper.laidOver lower) = (field upper).or (field lower)

/-- A field of a section that may be missing. -/
theorem IsField.of_section {σ α : Type} {part : Layer → Option σ} {lay : σ → σ → σ}
    {get : σ → Option α} (hunset : part {} = none)
    (hpart : ∀ upper lower,
      part (upper.laidOver lower) = sectionLaidOver lay (part upper) (part lower))
    (hget : ∀ upper lower, get (lay upper lower) = (get upper <|> get lower)) :
    IsField fun l => (part l).bind get where
  unset := by rw [hunset, Option.bind_none]
  laidOver upper lower := by
    rw [hpart]
    cases part upper with
    | none => rfl
    | some u =>
      cases part lower with
      | none => exact (Option.or_none).symm
      | some l => exact (hget u l).trans Option.orElse_eq_or

/-- Of layers laid over each other the last one that sets a field decides. -/
theorem IsField.foldl {α : Type} {field : Layer → Option α} (hf : IsField field)
    (layers : List Layer) (lower : Layer) :
    field (layers.foldl (fun lower upper => upper.laidOver lower) lower) =
      (layers.filterMap field).getLast?.or (field lower) := by
  induction layers generalizing lower with
  | nil => rfl
  | cons upper rest ih =>
    rw [List.foldl_cons, ih, hf.laidOver, List.filterMap_cons]
    cases field upper with
    | none => rfl
    | some v =>
      rw [List.getLast?_cons]
      cases (rest.filterMap field).getLast? <;> rfl

theorem lastSet_singleton {α : Type} (field : Layer → Option α) (standard : α) (l : Layer) :
    lastSet field standard [l] = (field l).getD standard := by
  rw [lastSet, List.filterMap_cons]
  cases field l <;> rfl

/-- So one layer can stand for all of them. -/
theorem IsField.lastSet_foldl {α : Type} {field : Layer → Option α} (hf : IsField field)
    (standard : α) (layers : List Layer) :
    lastSet field standard [layers.foldl (fun lower upper => upper.laidOver lower) {}] =
      lastSet field standard layers := by
  rw [lastSet_singleton, hf.foldl, hf.unset, Option.or_none, lastSet]

theorem IsField.of_flags {get : FlagsLayer → Option Nat}
    (hget : ∀ upper lower, get (upper.laidOver lower) = (get upper <|> get lower)) :
    IsField fun l => l.flags.bind get :=
  .of_section rfl (fun _ _ => rfl) hget

theorem IsField.of_store {get : StoreLayer → Option String}
    (hget : ∀ upper lower, get (upper.laidOver lower) = (get upper <|> get lower)) :
    IsField fun l => l.store.bind get :=
  .of_section rfl (fun _ _ => rfl) hget

theorem IsField.of_logging {α : Type} {get : LoggingLayer → Option α}
    (hget : ∀ upper lower, get (upper.laidOver lower) = (get upper <|> get lower)) :
    IsField fun l => l.logging.bind get :=
  .of_section rfl (fun _ _ => rfl) hget

theorem lastSettings_foldl (layers : List Layer) :
    lastSettings [layers.foldl (fun lower upper => upper.laidOver lower) {}] =
      lastSettings layers := by
  rw [lastSettings, lastSettings]
  congr 1
  · congr 1
    · exact (IsField.of_flags fun _ _ => rfl).lastSet_foldl _ layers
    · exact (IsField.of_flags fun _ _ => rfl).lastSet_foldl _ layers
    · exact (IsField.of_flags fun _ _ => rfl).lastSet_foldl _ layers
    · exact (IsField.of_flags fun _ _ => rfl).lastSet_foldl _ layers
  · exact (IsField.of_store fun _ _ => rfl).lastSet_foldl _ layers
  · exact (IsField.of_logging fun _ _ => rfl).lastSet_foldl _ layers
  · exact (IsField.of_logging fun _ _ => rfl).lastSet_foldl _ layers

/-! ## Zeros -/

/-- The checks find the first zero. -/
theorem find?_checked (s : ServiceSettings) :
    ((Layer.checked s).find? (·.2 == 0)).map (·.1) = firstZero? s := by
  simp only [Layer.checked, List.find?_cons, firstZero?, Bool.beq_eq_decide_eq]
  by_cases hsubscriber : s.subscriberCapacity = 0
  · simp [hsubscriber]
  · by_cases husage : s.usageQueueCapacity = 0
    · simp [hsubscriber, husage]
    · by_cases hheartbeat : s.heartbeatSeconds = 0
      · simp [hsubscriber, husage, hheartbeat]
      · simp [hsubscriber, husage, hheartbeat]

theorem firstZero?_eq_none_iff {s : ServiceSettings} : firstZero? s = none ↔
    s.subscriberCapacity ≠ 0 ∧ s.usageQueueCapacity ≠ 0 ∧ s.heartbeatSeconds ≠ 0 := by
  rw [firstZero?]
  split
  · next h => simp [h]
  · next hsubscriber =>
    split
    · next h => simp [h]
    · next husage => simp [hsubscriber, husage]

/-- A layer gives what it sets and standard values, unless there is a zero among them. -/
theorem finalize_eq (l : Layer) :
    l.finalize = match firstZero? (lastSettings [l]).service with
      | some key => .error (.zero key)
      | none => .ok (lastSettings [l]) := by
  have hservice : l.serviceSettings = (lastSettings [l]).service := by
    simp only [lastSettings, lastSet_singleton, Layer.serviceSettings, Layer.subscriberCapacity?,
      Layer.usageQueueCapacity?, Layer.staleAfterDays?, Layer.heartbeatSeconds?]
    cases l.flags <;> rfl
  have hsettings : (⟨l.serviceSettings,
      (l.store.getD {}).snapshotPath.getD Settings.standard.snapshotPath,
      (l.logging.getD {}).level.getD Settings.standard.logLevel,
      (l.logging.getD {}).format.getD Settings.standard.logFormat⟩ : Settings) =
        lastSettings [l] := by
    rw [hservice]
    simp only [lastSettings, lastSet_singleton, Layer.snapshotPath?, Layer.logLevel?,
      Layer.logFormat?]
    cases l.store <;> cases l.logging <;> rfl
  rw [Layer.finalize, hsettings, hservice, ← find?_checked]
  cases (Layer.checked (lastSettings [l]).service).find? (·.2 == 0) <;> rfl

/-! ## Loading -/

variable {sources other first rest : List LayerSource} {s : LayerSource} {layers : List Layer}
  {lower : Layer} {e : Error}

theorem loadOver_of_ok (h : sources.map (·.load) = layers.map .ok) :
    loadOver lower sources =
      .ok (layers.foldl (fun lower upper => upper.laidOver lower) lower) := by
  induction sources generalizing layers lower with
  | nil =>
    rw [List.map_nil, eq_comm, List.map_eq_nil_iff] at h
    rw [h]
    rfl
  | cons s rest ih =>
    cases layers with
    | nil => cases h
    | cons l layers =>
      obtain ⟨hs, hrest⟩ := List.cons_eq_cons.1 h
      rw [loadOver, show s.load = .ok l from hs]
      exact ih hrest

/-- The first source that fails ends the loading. -/
theorem loadOver_of_error (hfirst : ∀ t ∈ first, ∃ l, t.load = .ok l) (hs : s.load = .error e) :
    loadOver lower (first ++ s :: rest) = .error e := by
  induction first generalizing lower with
  | nil =>
    rw [List.nil_append, loadOver, hs]
    rfl
  | cons t first ih =>
    obtain ⟨l, hl⟩ := hfirst t List.mem_cons_self
    rw [List.cons_append, loadOver, hl]
    exact ih fun t ht => hfirst t (List.mem_cons_of_mem _ ht)

/-! ## The order of sources -/

theorem Precedence.rank_injective {p q : Precedence} (h : p.rank = q.rank) : p = q := by
  cases p <;> cases q <;> first | rfl | cases h

theorem inOrder_perm (sources : List LayerSource) : (inOrder sources).Perm sources :=
  List.mergeSort_perm _ _

theorem rank_le_trans (a b c : LayerSource)
    (hab : decide (a.precedence.rank ≤ b.precedence.rank) = true)
    (hbc : decide (b.precedence.rank ≤ c.precedence.rank) = true) :
    decide (a.precedence.rank ≤ c.precedence.rank) = true :=
  decide_eq_true (Nat.le_trans (of_decide_eq_true hab) (of_decide_eq_true hbc))

theorem rank_le_total (a b : LayerSource) :
    (decide (a.precedence.rank ≤ b.precedence.rank) ||
      decide (b.precedence.rank ≤ a.precedence.rank)) = true := by
  simpa using Nat.le_total a.precedence.rank b.precedence.rank

theorem inOrder_pairwise (sources : List LayerSource) :
    (inOrder sources).Pairwise fun a b => a.precedence.rank ≤ b.precedence.rank :=
  (List.pairwise_mergeSort rank_le_trans rank_le_total sources).imp of_decide_eq_true

/-- Sources that stand in the order of their precedence stay there. -/
theorem inOrder_of_pairwise
    (h : sources.Pairwise fun a b => a.precedence.rank ≤ b.precedence.rank) :
    inOrder sources = sources :=
  List.mergeSort_of_pairwise (h.imp decide_eq_true)

/-- Sources of one precedence stay in their order. -/
theorem filter_inOrder (sources : List LayerSource) (p : Precedence) :
    (inOrder sources).filter (·.precedence = p) = sources.filter (·.precedence = p) := by
  have hsorted : (sources.filter (·.precedence = p)).Pairwise fun a b =>
      decide (a.precedence.rank ≤ b.precedence.rank) = true := by
    refine List.pairwise_of_forall_mem_list fun a ha b hb => ?_
    have ha := of_decide_eq_true (List.mem_filter.1 ha).2
    have hb := of_decide_eq_true (List.mem_filter.1 hb).2
    exact decide_eq_true (Nat.le_of_eq (by rw [ha, hb]))
  have hsub : (sources.filter (·.precedence = p)).Sublist (inOrder sources) :=
    List.sublist_mergeSort rank_le_trans rank_le_total hsorted List.filter_sublist
  have hfilter := hsub.filter (·.precedence = p)
  rw [List.filter_filter] at hfilter
  simp only [Bool.and_self] at hfilter
  exact (hfilter.eq_of_length ((inOrder_perm sources).filter _).length_eq.symm).symm

/-- The order in which sources are given does not matter if no two have the same precedence. -/
theorem inOrder_eq_of_perm (hperm : other.Perm sources)
    (hdistinct : (sources.map (·.precedence)).Nodup) : inOrder other = inOrder sources := by
  have hperm' : (inOrder other).Perm (inOrder sources) :=
    (inOrder_perm other).trans (hperm.trans (inOrder_perm sources).symm)
  refine hperm'.eq_of_pairwise ?_ (inOrder_pairwise other) (inOrder_pairwise sources)
  intro a b ha hb hab hba
  have ha : a ∈ sources := hperm.mem_iff.1 ((inOrder_perm other).mem_iff.1 ha)
  have hb : b ∈ sources := (inOrder_perm sources).mem_iff.1 hb
  exact List.inj_on_of_nodup_map hdistinct ha hb
    (Precedence.rank_injective (Nat.le_antisymm hab hba))

/-! ## Main result -/

/-- Sources are loaded in the order of their precedence, in which those of one precedence stay in
their order, and the first that fails decides.  If none fails, each setting is that of the last
source that sets it, or the standard value.  These settings are refused exactly if one of them is
zero that must not be, for the first of them; a zero that a later source replaces does no harm.
Sources of different precedences may be given in any order. -/
theorem resolve_lastSettings (sources : List LayerSource) :
    ((inOrder sources).Perm sources ∧
      (inOrder sources).Pairwise (fun a b => a.precedence.rank ≤ b.precedence.rank) ∧
      ∀ p, (inOrder sources).filter (·.precedence = p) = sources.filter (·.precedence = p)) ∧
    (∀ first s rest e, inOrder sources = first ++ s :: rest →
      (∀ t ∈ first, ∃ l, t.load = .ok l) → s.load = .error e → resolve sources = .error e) ∧
    (∀ layers, (inOrder sources).map (·.load) = layers.map .ok →
      resolve sources = match firstZero? (lastSettings layers).service with
        | some key => .error (.zero key)
        | none => .ok (lastSettings layers)) ∧
    ∀ other : List LayerSource, other.Perm sources → (sources.map (·.precedence)).Nodup →
      resolve other = resolve sources := by
  refine ⟨⟨inOrder_perm sources, inOrder_pairwise sources, filter_inOrder sources⟩, ?error, ?ok,
    ?order⟩
  case error =>
    intro first s rest e hsplit hfirst hs
    rw [resolve, hsplit, loadOver_of_error hfirst hs]
    rfl
  case ok =>
    intro layers hlayers
    rw [resolve, loadOver_of_ok hlayers, ← lastSettings_foldl layers]
    exact finalize_eq _
  case order =>
    intro other hperm hdistinct
    rw [resolve, resolve, inOrder_eq_of_perm hperm hdistinct]

/-- A layer with a zero that must not be. -/
def withZero : Layer where
  flags := some { subscriberCapacity := some 0, staleAfterDays := some 7 }
  logging := some { level := some "warn" }

/-- A layer that replaces the zero, and has a section without settings. -/
def overZero : Layer where
  flags := some { subscriberCapacity := some 8 }
  logging := some {}

/-- The environment replaces what the file sets. -/
def zeroReplaced : List LayerSource :=
  [⟨.environment, .ok overZero⟩, ⟨.defaults, .ok {}⟩, ⟨.file, .ok withZero⟩]

theorem resolve_lastSettings_zeroReplaced :
    (zeroReplaced.map (·.precedence)).Nodup ∧
    resolve zeroReplaced.reverse = resolve zeroReplaced ∧
    resolve zeroReplaced =
      .ok ⟨⟨8, 1024, 7, 30⟩, "/var/lib/beacon/flags.json", "warn", .pretty⟩ := by
  have hdistinct : (zeroReplaced.map (·.precedence)).Nodup := by decide
  let ordered : List LayerSource :=
    [⟨.defaults, .ok {}⟩, ⟨.file, .ok withZero⟩, ⟨.environment, .ok overZero⟩]
  have hordered : ordered.Perm zeroReplaced := ((List.Perm.swap _ _ _).cons _).trans (.swap _ _ _)
  have horder : inOrder zeroReplaced = ordered := by
    rw [← inOrder_eq_of_perm hordered hdistinct]
    exact inOrder_of_pairwise (by decide)
  have hlayers : (inOrder zeroReplaced).map (·.load) = [{}, withZero, overZero].map .ok := by
    rw [horder]
    rfl
  obtain ⟨_, _, hok, hperm⟩ := resolve_lastSettings zeroReplaced
  exact ⟨hdistinct, hperm _ (List.reverse_perm _) hdistinct, hok _ hlayers⟩

end FeatureFlags.Config
