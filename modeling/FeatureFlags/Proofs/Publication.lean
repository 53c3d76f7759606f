import FeatureFlags.Proofs.Cache.Refresh
import FeatureFlags.Service

/-!
# Publishing a change

Others look at the service while a change is being published.  `Publication.after` is what they see
between two of its steps.

* `service_after` says what the first steps have done: the refreshes come first, one after the
  other, and then the broadcasts, one after the other.  Failures do not change this.
* `flags_refreshAll` says what the refreshes leave of each scope.
* `publish_refreshes_before_broadcast` puts the two together: as soon as a queue has changed, all
  scopes are served from what has been read in the course of the publication, or as before it if
  they could not be read.
-/

namespace FeatureFlags

/-- Refreshes scopes one after the other. -/
def Cache.refreshAll (c : Cache) (source : Source) (now : Timestamp) (scopes : List Scope) :
    Cache :=
  scopes.foldl (fun c scope => (c.refresh source scope now).2) c

/-- Broadcasts an event to scopes one after the other. -/
def Hub.broadcastAll (h : Hub) (event : ChangeEvent) (scopes : List Scope) : Hub :=
  scopes.foldl (fun h scope => (h.broadcast scope event).2) h

/-- What each of these broadcasts comes to. -/
def Hub.outcomes (h : Hub) (event : ChangeEvent) : List Scope → List BroadcastOutcome
  | [] => []
  | scope :: rest => (h.broadcast scope event).1 :: (h.broadcast scope event).2.outcomes event rest

/-- The outcome of broadcasts together. -/
def BroadcastOutcome.sum (outcomes : List BroadcastOutcome) : BroadcastOutcome where
  delivered := (outcomes.map (·.delivered)).foldr (· + ·) 0
  dropped := (outcomes.map (·.dropped)).foldr (· + ·) 0

/-- The error that the source has for a scope. -/
def Source.error? (source : Source) (scope : Scope) : Option ReadError :=
  match source.load scope with
  | .ok _ => none
  | .error e => some e

/-! ## What the refreshes leave -/

namespace Cache

variable {c : Cache} {source : Source}

/-- After some scopes have been refreshed, each of them is served from what the source has for it,
or as before if the source fails. -/
theorem Reachable.flags_refreshAll (hc : c.Reachable) (source : Source) (now : Timestamp)
    (scopes : List Scope) (scope : Scope) :
    (c.refreshAll source now scopes).flags scope =
      if scope ∈ scopes then
        match source.load scope with
        | .ok entries => flagsOf entries
        | .error _ => c.flags scope
      else c.flags scope := by
  induction scopes generalizing c with
  | nil => rfl
  | cons first rest ih =>
    have hstep : c.refreshAll source now (first :: rest) =
        (c.refresh source first now).2.refreshAll source now rest := rfl
    rw [hstep, ih (hc.refresh source first now)]
    cases hload : source.load first with
    | ok entries =>
      rw [hc.flags_refresh_of_ok hload]
      by_cases he : scope = first
      · subst he
        simp [hload]
      · simp [he]
    | error e =>
      rw [hc.flags_refresh_of_error hload]
      by_cases he : scope = first
      · subst he
        simp [hload]
      · simp [he]

end Cache

/-! ## What the steps do -/

namespace Publication

variable {source : Source} {event : ChangeEvent} {now : Timestamp}

/-- A publication after the given number of its steps. -/
def after (s : Service) (source : Source) (scopes : List Scope) (event : ChangeEvent)
    (now : Timestamp) (count : Nat) : Publication :=
  ((steps scopes).take count).foldl (step source event now) (.start s)

/-- The refreshes do not touch the hub, and the first error stays. -/
theorem foldl_refresh (p : Publication) (scopes : List Scope) :
    (scopes.map PublishStep.refresh).foldl (step source event now) p =
      { p with
        service := { p.service with cache := p.service.cache.refreshAll source now scopes }
        firstError := p.firstError.or (scopes.findSome? source.error?) } := by
  induction scopes generalizing p with
  | nil =>
    rw [List.findSome?_nil, Option.or_none]
    rfl
  | cons scope rest ih =>
    rw [List.map_cons, List.foldl_cons, ih, List.findSome?_cons]
    simp only [step, Cache.fst_refresh, Source.error?]
    cases source.load scope with
    | ok entries =>
      simp only [Except.map, Option.or_none]
      rfl
    | error e =>
      simp only [Except.map, Option.or_assoc, Option.some_or]
      rfl

/-- The broadcasts do not touch the cache. -/
theorem foldl_broadcast (p : Publication) (scopes : List Scope) :
    (scopes.map PublishStep.broadcast).foldl (step source event now) p =
      { p with
        service := { p.service with hub := p.service.hub.broadcastAll event scopes }
        outcome := p.outcome.add (.sum (p.service.hub.outcomes event scopes)) } := by
  induction scopes generalizing p with
  | nil => rfl
  | cons scope rest ih =>
    rw [List.map_cons, List.foldl_cons, ih]
    simp only [step, Hub.outcomes, BroadcastOutcome.add, BroadcastOutcome.sum, List.map_cons,
      List.foldr_cons, Nat.add_assoc]
    rfl

/-- The first steps are refreshes until all scopes have been refreshed, and broadcasts from then
on. -/
theorem take_steps (scopes : List Scope) (count : Nat) :
    (steps scopes).take count = (scopes.take count).map .refresh ++
      (scopes.take (count - scopes.length)).map .broadcast := by
  rw [steps, List.take_append, List.length_map, List.map_take, List.map_take]

/-- What the first steps of a publication have done to the service, and what has come of them. -/
theorem after_eq (s : Service) (source : Source) (scopes : List Scope) (event : ChangeEvent)
    (now : Timestamp) (count : Nat) :
    let told := scopes.take (count - scopes.length)
    after s source scopes event now count = {
      service := { s with
        cache := s.cache.refreshAll source now (scopes.take count)
        hub := s.hub.broadcastAll event told }
      firstError := (scopes.take count).findSome? source.error?
      outcome := .sum (s.hub.outcomes event told) } := by
  intro told
  rw [after, take_steps, List.foldl_append, foldl_refresh, foldl_broadcast]
  simp only [start, Option.none_or, BroadcastOutcome.add, BroadcastOutcome.zero, Nat.zero_add,
    told]

end Publication

/-! ## What others see -/

/-- Whether a service answers about a scope from the given flags. -/
structure Service.AnswersFrom (s : Service) (scope : Scope) (served : ScopeFlags) : Prop where
  flags : s.cache.flags scope = served
  evaluate : ∀ key context now, (s.evaluate scope key context now).1 =
    match served.get? key with
    | some e => .ok (e.evaluate context)
    | none => .error ⟨scope, key⟩

namespace Service

variable {s : Service} {scope : Scope} {flags : ScopeFlags}

/-- A service answers from the flags that its cache serves. -/
theorem answersFrom_of_flags (h : s.cache.flags scope = flags) : s.AnswersFrom scope flags := by
  refine ⟨h, fun key context now => ?_⟩
  rw [evaluate, Cache.flag?, h]
  cases flags.get? key <;> rfl

/-- A publication is over after as many refreshes and as many broadcasts as there are scopes. -/
theorem publish_eq (s : Service) (source : Source) (scopes : List Scope) (event : ChangeEvent)
    (now : Timestamp) :
    let p := Publication.after s source scopes event now (scopes.length + scopes.length)
    s.publish source scopes event now = (p.result, p.service) := by
  have hall : (Publication.steps scopes).length ≤ scopes.length + scopes.length := by
    simp [Publication.steps]
  simp only [publish, Publication.after, List.take_of_length_le hall]

/-- What a publication gives back. -/
theorem fst_publish (s : Service) (source : Source) (scopes : List Scope) (event : ChangeEvent)
    (now : Timestamp) :
    (s.publish source scopes event now).1 =
      match scopes.findSome? source.error? with
      | some e => .error e
      | none => .ok (.sum (s.hub.outcomes event scopes)) := by
  have hall : scopes.take (scopes.length + scopes.length) = scopes :=
    List.take_of_length_le (Nat.le_add_left _ _)
  rw [publish_eq, Publication.after_eq, Nat.add_sub_cancel, List.take_length, hall]
  rfl

end Service

/-! ## Main result -/

/-- A publication refreshes all of its scopes, whether or not reads fail, and only then broadcasts
the event, once to each of them in their order.  As long as it refreshes, no queue changes.  From
the first broadcast on, every scope is answered from what the source has had for it in the
meantime, and as before the publication if the source has failed.  In the end there is the error
of the first scope that failed, or else the sum of what the broadcasts have come to. -/
theorem publish_refreshes_before_broadcast (s : Service) (hs : s.cache.Reachable) (source : Source)
    (scopes : List Scope) (event : ChangeEvent) (now : Timestamp) :
    let p := Publication.after s source scopes event now
    (∀ count,
      (p count).service.cache = s.cache.refreshAll source now (scopes.take count) ∧
      (p count).service.hub = s.hub.broadcastAll event (scopes.take (count - scopes.length))) ∧
    (∀ count id, (p count).service.hub.queues.get? id ≠ s.hub.queues.get? id →
      scopes.length < count) ∧
    (∀ count scope, scopes.length ≤ count → scope ∈ scopes →
      (∀ entries, source.load scope = .ok entries →
        (p count).service.AnswersFrom scope (flagsOf entries)) ∧
      (∀ e, source.load scope = .error e →
        (p count).service.AnswersFrom scope (s.cache.flags scope) ∧
        ∀ key context now', ((p count).service.evaluate scope key context now').1 =
          (s.evaluate scope key context now').1)) ∧
    (s.publish source scopes event now).2 = (p (scopes.length + scopes.length)).service ∧
    (∀ first scope rest e, scopes = first ++ scope :: rest →
      (∀ ok ∈ first, ∃ entries, source.load ok = .ok entries) → source.load scope = .error e →
        (s.publish source scopes event now).1 = .error e) ∧
    ((∀ ok ∈ scopes, ∃ entries, source.load ok = .ok entries) →
      (s.publish source scopes event now).1 = .ok (.sum (s.hub.outcomes event scopes))) := by
  intro p
  have hnone : ∀ ok, (∃ entries, source.load ok = .ok entries) → source.error? ok = none := by
    rintro ok ⟨entries, hload⟩
    rw [Source.error?, hload]
  refine ⟨?_, ?_, ?_, ?_, ?_, ?_⟩
  · intro count
    simp only [p, Publication.after_eq, and_self]
  · intro count id hchanged
    refine Nat.lt_of_not_le fun hle => hchanged ?_
    have hnobody : scopes.take (count - scopes.length) = [] := by
      rw [Nat.sub_eq_zero_of_le hle, List.take_zero]
    simp only [p, Publication.after_eq, hnobody]
    rfl
  · intro count scope hcount hscope
    have hall : scopes.take count = scopes := List.take_of_length_le hcount
    have hflags : (p count).service.cache.flags scope =
        match source.load scope with
        | .ok entries => flagsOf entries
        | .error _ => s.cache.flags scope := by
      simp only [p, Publication.after_eq, hall]
      rw [hs.flags_refreshAll, if_pos hscope]
    constructor
    · intro entries hload
      rw [hload] at hflags
      exact Service.answersFrom_of_flags hflags
    · intro e hload
      rw [hload] at hflags
      have hanswers := Service.answersFrom_of_flags hflags
      refine ⟨hanswers, fun key context now' => ?_⟩
      rw [hanswers.evaluate, (Service.answersFrom_of_flags rfl).evaluate]
  · rw [Service.publish_eq]
  · intro first scope rest e hsplit hfirst hload
    have hfound : scopes.findSome? source.error? = some e := by
      have hbefore : first.findSome? source.error? = none :=
        List.findSome?_eq_none_iff.2 fun ok hok => hnone ok (hfirst ok hok)
      have herror : source.error? scope = some e := by rw [Source.error?, hload]
      rw [hsplit, List.findSome?_append, hbefore, Option.none_or, List.findSome?_cons, herror]
    rw [Service.fst_publish, hfound]
  · intro hok
    have hfound : scopes.findSome? source.error? = none :=
      List.findSome?_eq_none_iff.2 fun ok hmem => hnone ok (hok ok hmem)
    rw [Service.fst_publish, hfound]

/-- A service that has read one of its scopes. -/
def onceRead : Service where
  cache := (Cache.History.start.run
    [.begin ⟨"shop", "live"⟩ [] default, .finish 0 .loaded default]).cache
  hub := .empty 1
  usage := .empty 1 1
  heartbeatSeconds := 1

/-- A source that fails for one scope and has a flag for all others. -/
def failsForTest : Source where
  listScopes := .ok []
  load scope := if scope.environment = "test" then .error ⟨scope.key, "gone"⟩ else .ok [default]

theorem publish_refreshes_before_broadcast_firstFails :
    onceRead.cache.Reachable ∧
    (Publication.after onceRead failsForTest [⟨"shop", "test"⟩, ⟨"shop", "live"⟩]
      (.deleted "dark-mode") default 2).service.AnswersFrom ⟨"shop", "live"⟩ (flagsOf [default]) ∧
    (onceRead.publish failsForTest [⟨"shop", "test"⟩, ⟨"shop", "live"⟩] (.deleted "dark-mode")
      default).1 = .error ⟨"shop:test", "gone"⟩ := by
  have hs : onceRead.cache.Reachable := ⟨_, rfl⟩
  obtain ⟨_, _, hanswers, _, herror, _⟩ := publish_refreshes_before_broadcast onceRead hs
    failsForTest [⟨"shop", "test"⟩, ⟨"shop", "live"⟩] (.deleted "dark-mode") default
  refine ⟨hs, ?_, ?_⟩
  · exact (hanswers 2 ⟨"shop", "live"⟩ (Nat.le_refl 2) (by decide)).1 [default] rfl
  · exact herror [] ⟨"shop", "test"⟩ [⟨"shop", "live"⟩] ⟨"shop:test", "gone"⟩ rfl nofun rfl

end FeatureFlags
