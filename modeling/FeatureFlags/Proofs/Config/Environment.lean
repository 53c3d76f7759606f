import FeatureFlags.Config.Environment
import FeatureFlags.Proofs.Config.Layering
import FeatureFlags.Proofs.Text.Digit

/-!
# What the environment sets

Every setting has a variable of its own, whose texts are of some kind.  A text of a kind stands for
a value (`Kind.Means`), or it is refused for a reason (`Kind.Refuses`).

* `readsAs_read` says what reading one variable comes to, whatever its kind.
* `layer_eq_error_iff` and `readSetting_of_layer` say what reading all of them in their order comes
  to.
* `layer_reads_variables` is the result, together with what is resolved from the environment, a file
  and the standard values.
-/

namespace FeatureFlags

/-! ## Log formats -/

namespace LogFormat

variable {f g : LogFormat} {name : String}

theorem name_injective (h : f.name = g.name) : f = g := by
  cases f <;> cases g <;> first | rfl | exact absurd h (by decide)

theorem ofName?_eq_some_iff : ofName? name = some f ↔ name = f.name := by
  constructor
  · intro h
    obtain ⟨⟨g, spelt⟩, hfind, rfl⟩ := Option.map_eq_some_iff.1 h
    have hname : spelt = name := by simpa using List.find?_some hfind
    have hmem := List.mem_of_find?_eq_some hfind
    simp only [names, List.mem_cons, Prod.mk.injEq, List.not_mem_nil, or_false] at hmem
    rcases hmem with ⟨rfl, rfl⟩ | ⟨rfl, rfl⟩
    · exact hname.symm
    · exact hname.symm
  · rintro rfl
    cases f <;> rfl

end LogFormat

namespace Config

/-! ## Numbers -/

/-- The text spells the number in decimal digits, perhaps after a plus. -/
inductive SpellsNumber (n : Nat) : String → Prop where
  | digits {ds : List Char} (hne : ds ≠ []) (hds : ∀ d ∈ ds, d.isDigit = true)
    (hn : Nat.ofDigitChars 10 ds 0 = n) : SpellsNumber n (String.ofList ds)
  | plus {ds : List Char} (hne : ds ≠ []) (hds : ∀ d ∈ ds, d.isDigit = true)
    (hn : Nat.ofDigitChars 10 ds 0 = n) : SpellsNumber n (String.ofList ('+' :: ds))

/-- The characters after a plus, if there is one. -/
def afterPlus : List Char → List Char
  | '+' :: rest => rest
  | cs => cs

theorem afterPlus_of_isDigit {ds : List Char} (hds : ∀ d ∈ ds, d.isDigit = true) :
    afterPlus ds = ds := by
  unfold afterPlus
  split
  · exact absurd (hds '+' List.mem_cons_self) (by decide)
  · rfl

theorem spellsNumber_iff {n : Nat} {text : String} : SpellsNumber n text ↔
    afterPlus text.toList ≠ [] ∧ (∀ d ∈ afterPlus text.toList, d.isDigit = true) ∧
      Nat.ofDigitChars 10 (afterPlus text.toList) 0 = n := by
  constructor
  · rintro (⟨hne, hds, hn⟩ | ⟨hne, hds, hn⟩)
    · rw [String.toList_ofList, afterPlus_of_isDigit hds]
      exact ⟨hne, hds, hn⟩
    · rw [String.toList_ofList]
      exact ⟨hne, hds, hn⟩
  · rw [← String.ofList_toList (s := text), String.toList_ofList]
    generalize text.toList = cs
    unfold afterPlus
    rintro ⟨hne, hds, hn⟩
    split at hne
    · exact .plus hne hds hn
    · exact .digits hne (by simpa using hds) (by simpa using hn)

/-- A number is read from the texts that spell it, if it is small enough. -/
theorem NumberKind.parse?_eq_some_iff {k : NumberKind} {text : String} {n : Nat} :
    k.parse? text = some n ↔ SpellsNumber n text ∧ n < k.bound := by
  have hparse : k.parse? text =
      if (afterPlus text.toList).isEmpty ∨ !(afterPlus text.toList).all Char.isDigit then none
      else if Text.digitsValue (afterPlus text.toList) < k.bound then
        some (Text.digitsValue (afterPlus text.toList))
      else none := rfl
  rw [hparse, spellsNumber_iff, Text.digitsValue_eq_ofDigitChars]
  generalize afterPlus text.toList = ds
  have hnumeral : ¬(ds.isEmpty ∨ !ds.all Char.isDigit) ↔
      ds ≠ [] ∧ ∀ d ∈ ds, d.isDigit = true := by
    simp
  rw [Option.ite_none_left_eq_some, Option.ite_none_right_eq_some, Option.some.injEq, hnumeral]
  constructor
  · rintro ⟨⟨hne, hds⟩, hbound, rfl⟩
    exact ⟨⟨hne, hds, rfl⟩, hbound⟩
  · rintro ⟨⟨hne, hds, rfl⟩, hbound⟩
    exact ⟨⟨hne, hds⟩, hbound, rfl⟩

/-! ## Kinds of texts -/

/-- What the texts of a variable stand for. -/
inductive Kind where
  | number (k : NumberKind)
  | logFormat
  /-- Each text stands for itself. -/
  | plain

namespace Kind

/-- The values of a kind. -/
abbrev Value : Kind → Type
  | number _ => Nat
  | logFormat => LogFormat
  | plain => String

/-- The text stands for the value. -/
def Means : (k : Kind) → String → k.Value → Prop
  | number k, text, n => SpellsNumber n text ∧ n < k.bound
  | logFormat, text, f => Unicode.lowerCase text = f.name
  | plain, text, value => text = value

/-- The text stands for nothing, for the given reason. -/
inductive Refuses : Kind → String → String → Prop where
  | number {k : NumberKind} {text : String} (h : ∀ n, SpellsNumber n text → k.bound ≤ n) :
    Refuses (number k) text ("invalid " ++ k.name ++ " value '" ++ text ++ "'")
  | logFormat {text : String} (h : ∀ f : LogFormat, Unicode.lowerCase text ≠ f.name) :
    Refuses logFormat text
      ("unknown log format '" ++ Unicode.lowerCase text ++ "', expected pretty or json")

variable {k : Kind} {text reason : String} {a b : k.Value}

/-- A text stands for one value. -/
theorem Means.unique (ha : k.Means text a) (hb : k.Means text b) : a = b := by
  cases k with
  | number k =>
    have hparse := NumberKind.parse?_eq_some_iff.2 ha
    exact Option.some.inj (hparse.symm.trans (NumberKind.parse?_eq_some_iff.2 hb))
  | logFormat => exact LogFormat.name_injective (Eq.trans (Eq.symm ha) hb)
  | plain => exact Eq.trans (Eq.symm ha) hb

theorem Refuses.unique {reason' : String} (h : k.Refuses text reason)
    (h' : k.Refuses text reason') : reason = reason' := by
  cases h with
  | number => cases h'; rfl
  | logFormat => cases h'; rfl

/-- No text is refused that stands for a value. -/
theorem Refuses.not_means (h : k.Refuses text reason) : ¬k.Means text a := by
  intro ha
  cases h with
  | number h => exact absurd ha.2 (Nat.not_lt.2 (h _ ha.1))
  | logFormat h => exact h _ ha

end Kind

/-! ## Variables -/

namespace Environment

variable {env : Environment} {name text : String} {k : Kind} {a : k.Value}

/-- The variable is set, and not to the empty text. -/
def Holds (env : Environment) (name text : String) : Prop := env name = some text ∧ text ≠ ""

theorem value?_eq_some_iff : env.value? name = some text ↔ env.Holds name text := by
  rw [value?, Option.filter_eq_some_iff, Holds]
  simp

theorem value?_eq_none_iff : env.value? name = none ↔ ∀ text, ¬env.Holds name text := by
  simp only [Option.eq_none_iff_forall_ne_some, Ne, value?_eq_some_iff]

/-- Reads a variable whose texts are of a kind. -/
def read (env : Environment) (name : String) : (k : Kind) → Except Error (Option k.Value)
  | .number k => env.number name k
  | .logFormat => env.logFormat name
  | .plain => .ok (env.value? name)

/-- What reading a variable comes to. -/
inductive ReadsAs (env : Environment) (name : String) (k : Kind) :
    Except Error (Option k.Value) → Prop where
  | unset (h : ∀ text, ¬env.Holds name text) : env.ReadsAs name k (.ok none)
  | set {text : String} {a : k.Value} (h : env.Holds name text) (ha : k.Means text a) :
    env.ReadsAs name k (.ok (some a))
  | refused {text reason : String} (h : env.Holds name text) (hreason : k.Refuses text reason) :
    env.ReadsAs name k (.error (.invalidValue name reason))

theorem readsAs_read (env : Environment) (name : String) (k : Kind) :
    env.ReadsAs name k (env.read name k) := by
  cases hvalue : env.value? name with
  | none =>
    have hunset := value?_eq_none_iff.1 hvalue
    cases k with
    | number k =>
      rw [read, number, hvalue]
      exact .unset hunset
    | logFormat =>
      rw [read, logFormat, hvalue]
      exact .unset hunset
    | plain =>
      rw [read, hvalue]
      exact .unset hunset
  | some text =>
    have hset := value?_eq_some_iff.1 hvalue
    cases k with
    | number k =>
      simp only [read, number, hvalue]
      split
      · next n hparse => exact .set (k := .number k) hset (NumberKind.parse?_eq_some_iff.1 hparse)
      · next hparse =>
        refine .refused hset (.number fun n hn => Nat.not_lt.1 fun hbound => ?_)
        cases hparse.symm.trans (NumberKind.parse?_eq_some_iff.2 ⟨hn, hbound⟩)
    | logFormat =>
      simp only [read, logFormat, hvalue, LogFormat.parse]
      cases hname : LogFormat.ofName? (Unicode.lowerCase text) with
      | some f => exact .set (k := .logFormat) hset (LogFormat.ofName?_eq_some_iff.1 hname)
      | none =>
        refine .refused hset (.logFormat fun f hf => ?_)
        cases hname.symm.trans (LogFormat.ofName?_eq_some_iff.2 hf)
    | plain =>
      rw [read, hvalue]
      exact .set (k := .plain) hset rfl

variable {e : Error} {o : Option k.Value} {text' : String}

theorem Holds.unique (h : env.Holds name text) (h' : env.Holds name text') : text = text' :=
  Option.some.inj (h.1.symm.trans h'.1)

theorem read_eq_error_iff : env.read name k = .error e ↔
    ∃ text reason, env.Holds name text ∧ k.Refuses text reason ∧ e = .invalidValue name reason := by
  have hread := readsAs_read env name k
  generalize env.read name k = result at hread
  constructor
  · rintro rfl
    cases hread with
    | refused h hreason => exact ⟨_, _, h, hreason, rfl⟩
  · rintro ⟨text, reason, h, hreason, rfl⟩
    cases hread with
    | unset hunset => exact absurd h (hunset text)
    | set h' ha => exact absurd (h'.unique h ▸ ha) hreason.not_means
    | refused h' hreason' =>
      obtain rfl := h'.unique h
      rw [hreason'.unique hreason]

/-- What has been read is what the text of the variable stands for. -/
theorem eq_some_iff_of_read (hread : env.read name k = .ok o) :
    o = some a ↔ ∃ text, env.Holds name text ∧ k.Means text a := by
  have hreads := readsAs_read env name k
  rw [hread] at hreads
  cases hreads with
  | unset hunset => exact iff_of_false nofun fun ⟨text, h, _⟩ => hunset text h
  | @set text b h hb =>
    rw [Option.some.injEq]
    constructor
    · rintro rfl
      exact ⟨text, h, hb⟩
    · rintro ⟨text', h', ha⟩
      obtain rfl := h.unique h'
      exact hb.unique ha

/-- Something has been read if the variable is set. -/
theorem ne_none_iff_of_read (hread : env.read name k = .ok o) :
    o ≠ none ↔ ∃ text, env.Holds name text := by
  have hreads := readsAs_read env name k
  rw [hread] at hreads
  cases hreads with
  | unset hunset => exact iff_of_false (by simp) fun ⟨text, h⟩ => hunset text h
  | set h _ => exact iff_of_true nofun ⟨_, h⟩

/-- Reading a variable looks at no other. -/
theorem read_congr {env' : Environment} (h : env' name = env name) :
    env'.read name k = env.read name k := by
  have hvalue : env'.value? name = env.value? name := by rw [value?, h, value?]
  cases k with
  | number k => rw [read, number, hvalue, read, number]
  | logFormat => rw [read, logFormat, hvalue, read, logFormat]
  | plain => rw [read, hvalue, read]

end Environment

/-! ## Settings -/

/-- The settings in the order in which their variables are read. -/
inductive Setting where
  | subscriberCapacity
  | heartbeatSeconds
  | usageQueueCapacity
  | staleAfterDays
  | logFormat
  | snapshotPath
  | logLevel
deriving DecidableEq

namespace Setting

/-- All settings in their order. -/
def all : List Setting :=
  [subscriberCapacity, heartbeatSeconds, usageQueueCapacity, staleAfterDays, logFormat,
    snapshotPath, logLevel]

theorem mem_all (s : Setting) : s ∈ all := by cases s <;> decide

/-- The name of the variable of a setting. -/
def variableName : Setting → String
  | subscriberCapacity => "BEACON_SERVER_FLAGS_SUBSCRIBER_CAPACITY"
  | heartbeatSeconds => "BEACON_SERVER_FLAGS_HEARTBEAT_INTERVAL_SECS"
  | usageQueueCapacity => "BEACON_SERVER_FLAGS_USAGE_QUEUE_CAPACITY"
  | staleAfterDays => "BEACON_SERVER_FLAGS_STALE_AFTER_DAYS"
  | logFormat => "BEACON_SERVER_LOG_FORMAT"
  | snapshotPath => "BEACON_SERVER_STORE_SNAPSHOT_PATH"
  | logLevel => "BEACON_SERVER_LOG_LEVEL"

/-- What the texts of the variable stand for. -/
def kind : Setting → Kind
  | subscriberCapacity | usageQueueCapacity => .number .size
  | heartbeatSeconds => .number .word64
  | staleAfterDays => .number .word32
  | logFormat => .logFormat
  | snapshotPath | logLevel => .plain

end Setting

/-- What a layer sets. -/
def Layer.get (l : Layer) : (s : Setting) → Option s.kind.Value
  | .subscriberCapacity => l.subscriberCapacity?
  | .heartbeatSeconds => l.heartbeatSeconds?
  | .usageQueueCapacity => l.usageQueueCapacity?
  | .staleAfterDays => l.staleAfterDays?
  | .logFormat => l.logFormat?
  | .snapshotPath => l.snapshotPath?
  | .logLevel => l.logLevel?

end Config

/-- The value of a setting. -/
def Settings.get (settings : Settings) : (s : Config.Setting) → s.kind.Value
  | .subscriberCapacity => settings.service.subscriberCapacity
  | .heartbeatSeconds => settings.service.heartbeatSeconds
  | .usageQueueCapacity => settings.service.usageQueueCapacity
  | .staleAfterDays => settings.service.staleAfterDays
  | .logFormat => settings.logFormat
  | .snapshotPath => settings.snapshotPath
  | .logLevel => settings.logLevel

namespace Config

/-! ## Reading all variables -/

theorem exists_of_bind_eq_ok {α β : Type} {x : Except Error α} {f : α → Except Error β} {b : β}
    (h : (x >>= f) = .ok b) : ∃ a, x = .ok a ∧ f a = .ok b := by
  cases x with
  | error e => cases h
  | ok a => exact ⟨a, rfl, h⟩

namespace Environment

variable {env : Environment} {e : Error} {s : Setting} {rest row : List Setting}

/-- The variable of a setting is set to a text that stands for nothing, and the error tells so. -/
def Refuses (env : Environment) (s : Setting) (e : Error) : Prop :=
  ∃ text reason, env.Holds s.variableName text ∧ s.kind.Refuses text reason ∧
    e = .invalidValue s.variableName reason

/-- The variable of a setting is set to a text that stands for nothing. -/
def Offends (env : Environment) (s : Setting) : Prop := ∃ e, env.Refuses s e

/-- The first refusal in a row of settings. -/
inductive FirstRefusal (env : Environment) : List Setting → Error → Prop where
  | here {s : Setting} {rest : List Setting} {e : Error} (h : env.Refuses s e) :
    env.FirstRefusal (s :: rest) e
  | later {s : Setting} {rest : List Setting} {e : Error} (h : ¬env.Offends s)
    (hrest : env.FirstRefusal rest e) : env.FirstRefusal (s :: rest) e

theorem firstRefusal_iff : env.FirstRefusal row e ↔ ∃ before s after,
    row = before ++ s :: after ∧ (∀ t ∈ before, ¬env.Offends t) ∧ env.Refuses s e := by
  constructor
  · intro h
    induction h with
    | @here s rest e h => exact ⟨[], s, rest, rfl, nofun, h⟩
    | @later s rest e h _ ih =>
      obtain ⟨before, t, after, rfl, hbefore, ht⟩ := ih
      exact ⟨s :: before, t, after, rfl, List.forall_mem_cons.2 ⟨h, hbefore⟩, ht⟩
  · rintro ⟨before, s, after, rfl, hbefore, hs⟩
    induction before with
    | nil => exact .here hs
    | cons t before ih =>
      obtain ⟨ht, hbefore⟩ := List.forall_mem_cons.1 hbefore
      exact .later ht (ih hbefore)

/-- There is a first refusal if there is any. -/
theorem exists_firstRefusal_iff : (∃ e, env.FirstRefusal row e) ↔ ∃ s ∈ row, env.Offends s := by
  constructor
  · rintro ⟨e, h⟩
    obtain ⟨before, s, after, rfl, -, hs⟩ := firstRefusal_iff.1 h
    exact ⟨s, by simp, e, hs⟩
  · intro h
    induction row with
    | nil => simp at h
    | cons s rest ih =>
      by_cases hs : env.Offends s
      · obtain ⟨e, hs⟩ := hs
        exact ⟨e, .here hs⟩
      · rw [List.exists_mem_cons_iff] at h
        obtain ⟨e, hrest⟩ := ih (h.resolve_left hs)
        exact ⟨e, .later hs hrest⟩

/-- Reads the variable of a setting. -/
def readSetting (env : Environment) (s : Setting) : Except Error (Option s.kind.Value) :=
  env.read s.variableName s.kind

theorem readSetting_eq_error_iff : env.readSetting s = .error e ↔ env.Refuses s e :=
  read_eq_error_iff

theorem layer_eq (env : Environment) : env.layer = (do
    let subscriberCapacity ← env.readSetting .subscriberCapacity
    let heartbeatSeconds ← env.readSetting .heartbeatSeconds
    let usageQueueCapacity ← env.readSetting .usageQueueCapacity
    let staleAfterDays ← env.readSetting .staleAfterDays
    let format ← env.readSetting .logFormat
    return {
      flags := some { subscriberCapacity, heartbeatSeconds, usageQueueCapacity, staleAfterDays }
      store := some { snapshotPath := env.value? Setting.snapshotPath.variableName }
      logging := some { level := env.value? Setting.logLevel.variableName, format } }) := rfl

/-- A setting that is read before others is refused before them. -/
theorem bind_readSetting_eq_error_iff {β : Type} {f : Option s.kind.Value → Except Error β}
    (hf : ∀ o, f o = .error e ↔ env.FirstRefusal rest e) :
    (env.readSetting s >>= f) = .error e ↔ env.FirstRefusal (s :: rest) e := by
  cases hread : env.readSetting s with
  | error e' =>
    have hs : env.Refuses s e' := readSetting_eq_error_iff.1 hread
    show Except.error e' = .error e ↔ _
    constructor
    · rintro ⟨⟩
      exact .here hs
    · rintro (h | ⟨hfine, -⟩)
      · cases hread.symm.trans (readSetting_eq_error_iff.2 h)
        rfl
      · exact absurd ⟨e', hs⟩ hfine
  | ok o =>
    have hfine : ¬env.Offends s := by
      rintro ⟨e', h⟩
      cases hread.symm.trans (readSetting_eq_error_iff.2 h)
    show f o = .error e ↔ _
    rw [hf]
    refine ⟨.later hfine, ?_⟩
    rintro (h | ⟨-, hrest⟩)
    · exact absurd ⟨e, h⟩ hfine
    · exact hrest

/-- The first variable that is refused ends the reading. -/
theorem layer_eq_error_iff : env.layer = .error e ↔ env.FirstRefusal Setting.all e := by
  rw [layer_eq]
  refine bind_readSetting_eq_error_iff fun _ => ?_
  refine bind_readSetting_eq_error_iff fun _ => ?_
  refine bind_readSetting_eq_error_iff fun _ => ?_
  refine bind_readSetting_eq_error_iff fun _ => ?_
  refine bind_readSetting_eq_error_iff fun _ => ?_
  -- No path and no filter is refused.
  refine iff_of_false nofun fun h => ?_
  obtain ⟨s, hs, _, _, _, _, hrefuses, _⟩ := exists_firstRefusal_iff.1 ⟨e, h⟩
  rcases hs with _ | ⟨_, _ | ⟨_, _ | _⟩⟩
  · cases hrefuses
  · cases hrefuses

theorem readSetting_of_layer {l : Layer} (h : env.layer = .ok l) (s : Setting) :
    env.readSetting s = .ok (l.get s) := by
  rw [layer_eq] at h
  obtain ⟨_, hsubscriber, h⟩ := exists_of_bind_eq_ok h
  obtain ⟨_, hheartbeat, h⟩ := exists_of_bind_eq_ok h
  obtain ⟨_, husage, h⟩ := exists_of_bind_eq_ok h
  obtain ⟨_, hstale, h⟩ := exists_of_bind_eq_ok h
  obtain ⟨_, hformat, h⟩ := exists_of_bind_eq_ok h
  cases h
  cases s with
  | subscriberCapacity => exact hsubscriber
  | heartbeatSeconds => exact hheartbeat
  | usageQueueCapacity => exact husage
  | staleAfterDays => exact hstale
  | logFormat => exact hformat
  | snapshotPath => rfl
  | logLevel => rfl

theorem layer_congr {env' : Environment}
    (h : ∀ s : Setting, env' s.variableName = env s.variableName) : env'.layer = env.layer := by
  have hread : ∀ s, env'.readSetting s = env.readSetting s := fun s => read_congr (h s)
  have hvalue : ∀ s : Setting, env'.value? s.variableName = env.value? s.variableName := by
    intro s
    rw [value?, h, value?]
  simp only [layer_eq, hread, hvalue]

end Environment

/-! ## Resolving -/

theorem get_lastSettings (layers : List Layer) (s : Setting) :
    (lastSettings layers).get s = lastSet (·.get s) (Settings.standard.get s) layers := by
  cases s <;> rfl

theorem get_empty (s : Setting) : Layer.get {} s = none := by cases s <;> rfl

/-- Of two layers over the standard values the upper one counts before the lower one. -/
theorem get_lastSettings_pair (upper lower : Layer) (s : Setting) :
    (lastSettings [{}, lower, upper]).get s =
      ((upper.get s).or (lower.get s)).getD (Settings.standard.get s) := by
  rw [get_lastSettings, lastSet, List.filterMap_cons, get_empty, List.filterMap_cons,
    List.filterMap_cons]
  cases lower.get s <;> cases upper.get s <;> rfl

/-- The sources of a configuration: the standard values, a file and the environment. -/
def standardSources (file environment : Except Error Layer) : List LayerSource :=
  [⟨.defaults, .ok {}⟩, ⟨.file, file⟩, ⟨.environment, environment⟩]

theorem inOrder_standardSources (file environment : Except Error Layer) :
    inOrder (standardSources file environment) = standardSources file environment :=
  inOrder_of_pairwise (by simp [standardSources, Precedence.rank])

theorem nodup_precedence_standardSources (file environment : Except Error Layer) :
    ((standardSources file environment).map (·.precedence)).Nodup := by
  show [Precedence.defaults, .file, .environment].Nodup
  decide

/-- What is resolved from a file and the environment, in whatever order they are given. -/
theorem resolve_of_perm_standardSources {sources : List LayerSource} {file l : Layer}
    (h : sources.Perm (standardSources (.ok file) (.ok l))) :
    resolve sources = match firstZero? (lastSettings [{}, file, l]).service with
      | some key => .error (.zero key)
      | none => .ok (lastSettings [{}, file, l]) := by
  have horder : inOrder sources = standardSources (.ok file) (.ok l) := by
    rw [inOrder_eq_of_perm h (nodup_precedence_standardSources _ _), inOrder_standardSources]
  have hlayers : (standardSources (.ok file) (.ok l)).map (·.load) =
      [{}, file, l].map .ok := rfl
  rw [resolve, horder, loadOver_of_ok hlayers, ← lastSettings_foldl]
  exact finalize_eq _

/-! ## Main result -/

/-- The environment fails to be a layer exactly if a variable is set to a text that stands for
nothing, and the error tells of the first such variable.  Otherwise a setting is set exactly if its
variable is, to the value that the text stands for.  Other variables do not matter.  Over a file and
the standard values the settings of the environment count before those of the file. -/
theorem layer_reads_variables (env : Environment) :
    ((∃ e, env.layer = .error e) ↔ ∃ s, env.Offends s) ∧
    (∀ e, env.layer = .error e ↔ ∃ before s after, Setting.all = before ++ s :: after ∧
      (∀ t ∈ before, ¬env.Offends t) ∧ env.Refuses s e) ∧
    (∀ l, env.layer = .ok l → ∀ s,
      (l.get s ≠ none ↔ ∃ text, env.Holds s.variableName text) ∧
      ∀ a, l.get s = some a ↔ ∃ text, env.Holds s.variableName text ∧ s.kind.Means text a) ∧
    (∀ env' : Environment, (∀ s : Setting, env' s.variableName = env s.variableName) →
      env'.layer = env.layer) ∧
    ∀ l file, env.layer = .ok l → ∃ settings : Settings,
      (∀ s, settings.get s = ((l.get s).or (file.get s)).getD (Settings.standard.get s)) ∧
      ∀ sources : List LayerSource, sources.Perm
          [⟨.defaults, .ok {}⟩, ⟨.file, .ok file⟩, ⟨.environment, env.layer⟩] →
        resolve sources = match firstZero? settings.service with
          | some key => .error (.zero key)
          | none => .ok settings := by
  refine ⟨?fails, fun e => ?error, fun l hl s => ?sets, fun _ => Environment.layer_congr,
    fun l file hl => ?resolved⟩
  case fails =>
    simp only [Environment.layer_eq_error_iff, Environment.exists_firstRefusal_iff,
      Setting.mem_all, true_and]
  case error => rw [Environment.layer_eq_error_iff, Environment.firstRefusal_iff]
  case sets =>
    have hread := Environment.readSetting_of_layer hl s
    exact ⟨Environment.ne_none_iff_of_read hread, fun a => Environment.eq_some_iff_of_read hread⟩
  case resolved =>
    rw [hl]
    exact ⟨lastSettings [{}, file, l], get_lastSettings_pair l file,
      fun _ => resolve_of_perm_standardSources⟩

/-- An environment with a number after a plus and an empty variable. -/
def heartbeatOnly : Environment :=
  .ofList [("BEACON_SERVER_FLAGS_HEARTBEAT_INTERVAL_SECS", "+07"),
    ("BEACON_SERVER_FLAGS_SUBSCRIBER_CAPACITY", "")]

/-- An environment with two variables that are refused. -/
def twoRefused : Environment :=
  .ofList [("BEACON_SERVER_LOG_FORMAT", "xml"),
    ("BEACON_SERVER_FLAGS_HEARTBEAT_INTERVAL_SECS", "soon")]

/-- A layer of a file below the environment. -/
def belowEnvironment : Layer where
  flags := some { subscriberCapacity := some 8, heartbeatSeconds := some 60 }

/-- The number replaces that of the file, and the empty variable does not.  Of two variables that
are refused the one that is read first is told of. -/
theorem layer_reads_variables_heartbeatOnly :
    heartbeatOnly.layer = .ok ⟨some { heartbeatSeconds := some 7 }, some {}, some {}⟩ ∧
    (∃ settings, resolve [⟨.environment, heartbeatOnly.layer⟩, ⟨.defaults, .ok {}⟩,
        ⟨.file, .ok belowEnvironment⟩] = .ok settings ∧ settings.service = ⟨8, 1024, 30, 7⟩) ∧
    twoRefused.layer = .error (.invalidValue "BEACON_SERVER_FLAGS_HEARTBEAT_INTERVAL_SECS"
      "invalid u64 value 'soon'") := by
  have hlayer : heartbeatOnly.layer =
      .ok ⟨some { heartbeatSeconds := some 7 }, some {}, some {}⟩ := by decide +kernel
  obtain ⟨-, -, -, -, hresolved⟩ := layer_reads_variables heartbeatOnly
  obtain ⟨settings, hget, hsettings⟩ := hresolved _ belowEnvironment hlayer
  have hservice : settings.service = ⟨8, 1024, 30, 7⟩ := by
    have hsubscriber : settings.service.subscriberCapacity = 8 := hget .subscriberCapacity
    have husage : settings.service.usageQueueCapacity = 1024 := hget .usageQueueCapacity
    have hstale : settings.service.staleAfterDays = 30 := hget .staleAfterDays
    have hheartbeat : settings.service.heartbeatSeconds = 7 := hget .heartbeatSeconds
    rw [← hsubscriber, ← husage, ← hstale, ← hheartbeat]
  refine ⟨hlayer, ⟨settings, ?resolved, hservice⟩, ?refused⟩
  case resolved =>
    rw [hsettings _ (List.perm_append_singleton _ [_, _]).symm, hservice]
    rfl
  case refused =>
    have hunset : ∀ text, ¬twoRefused.Holds Setting.subscriberCapacity.variableName text :=
      Environment.value?_eq_none_iff.1 (by decide)
    have hfine : ¬twoRefused.Offends .subscriberCapacity := fun ⟨_, _, _, h, _⟩ => hunset _ h
    have hsoon : ∀ n, ¬SpellsNumber n "soon" := fun n hn =>
      absurd ((spellsNumber_iff.1 hn).2.1 's' (by decide)) (by decide)
    exact ((layer_reads_variables twoRefused).2.1 _).2
      ⟨[.subscriberCapacity], .heartbeatSeconds, _, rfl, List.forall_mem_singleton.2 hfine,
        "soon", _, ⟨by decide, by decide⟩, .number fun n hn => absurd hn (hsoon n), rfl⟩

end Config

end FeatureFlags
