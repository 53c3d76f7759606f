import FeatureFlags.Proofs.Config.Layering
import FeatureFlags.Proofs.Hub.Operations
import FeatureFlags.Proofs.Publication

/-!
# How far settings may go

A configuration that is accepted has no zeros where there must not be any.  Nothing keeps its
numbers from being too large: a queue cannot be made with more than `Queue.maxCapacity` places, and
an instant that lies too many days back is not in the calendar.  A call that comes upon one of
these breaks off.

* `RunsWith` is what a service keeps of its settings.  `RunsWith.isSome_call?_iff` says which calls
  break off, and `RunsWith.call?` that the others leave the settings as they are.
* `serves_iff_within` follows this through any calls from the configuration on, and
  `accepted_breaks_off` shows that each of the three limits can be passed.
-/

namespace FeatureFlags

/-- Whether an instant is one that a clock shows: in the calendar and in no leap second. -/
structure Timestamp.IsShown (t : Timestamp) : Prop where
  inCalendar : t.inCalendar = true
  nanosecond : t.nanosecond < nanosPerSecond

/-- Going back some days from what a clock shows ends in the calendar if it does not pass the
first day. -/
theorem Timestamp.IsShown.isSome_minusDays?_iff {t : Timestamp} (ht : t.IsShown) (days : Nat) :
    (t.minusDays? days).isSome = true ↔ Calendar.firstDay ≤ t.day - days := by
  have hsame : (if days = 0 then t else t.withoutLeapSecond) = t := by
    rw [withoutLeapSecond, if_pos ht.nanosecond, ite_self]
  have hlast : t.day ≤ Calendar.lastDay := (of_decide_eq_true ht.inCalendar).2
  simp only [minusDays?, hsame, Timestamp.inCalendar, decide_eq_true_eq]
  split
  · next h => exact iff_of_true rfl h.1
  · next h => exact iff_of_false Bool.false_ne_true fun hfirst => h ⟨hfirst, by omega⟩

namespace Service

/-- What may be asked of a service, and what it does by itself. -/
inductive Call where
  | openStream (scope : Scope)
  | closeStream (subscription : Subscription)
  /-- The owner of a stream takes an event. -/
  | receive (subscription : Subscription)
  | evaluate (scope : Scope) (key : String) (context : Context) (now : Timestamp)
  | evaluateAll (scope : Scope) (context : Context) (now : Timestamp)
  | publish (source : Source) (scopes : List Scope) (event : ChangeEvent) (now : Timestamp)
  | loadAll (source : Source) (now : Timestamp)
  | staleFlags (scope : Scope) (now : Timestamp)
  /-- The oldest evaluation that waits is added up. -/
  | count
  | shutdown

/-- The service after a call; none if the call breaks off. -/
def call? (v : Service) : Call → Option Service
  | .openStream scope => (v.openStream? scope).map (·.2)
  | .closeStream subscription => some (v.closeStream subscription)
  | .receive subscription => some { v with hub := (v.hub.receive subscription).2 }
  | .evaluate scope key context now => some (v.evaluate scope key context now).2
  | .evaluateAll scope context now => some (v.evaluateAll scope context now).2
  | .publish source scopes event now => some (v.publish source scopes event now).2
  | .loadAll source now => some (v.loadAll source now).2
  | .staleFlags scope now => (v.staleFlags? scope now).map fun _ => v
  | .count => some { v with usage := v.usage.step }
  | .shutdown => some v.shutdown

/-- The service after calls, one after the other. -/
def calls? (v : Service) (calls : List Call) : Option Service := calls.foldlM call? v

/-- A service with the given settings after calls; none if it cannot be made or a call breaks
off. -/
def serve? (s : ServiceSettings) (calls : List Call) : Option Service :=
  (create? s).bind (·.calls? calls)

/-- Whether a call keeps within the limits of queues and of the calendar. -/
def Call.Within (s : ServiceSettings) : Call → Prop
  | .openStream _ => s.subscriberCapacity ≤ Queue.maxCapacity
  | .staleFlags _ now => Calendar.firstDay ≤ now.day - s.staleAfterDays
  | _ => True

/-- Whether the instants of a call are shown by a clock. -/
def Call.IsTimely : Call → Prop
  | .staleFlags _ now => now.IsShown
  | _ => True

end Service

/-! ## What stays as it is set -/

theorem Queue.canHave_iff {n : Nat} : canHave n = true ↔ n ≤ maxCapacity := by
  rw [canHave, decide_eq_true_iff, places, maxCapacity]
  omega

namespace UsageTracker

@[simp] theorem staleAfterDays_record (u : UsageTracker) (scope : Scope) (key : String)
    (now : Timestamp) : (u.record scope key now).staleAfterDays = u.staleAfterDays := by
  rw [record]
  split <;> rfl

@[simp] theorem staleAfterDays_step (u : UsageTracker) :
    u.step.staleAfterDays = u.staleAfterDays := by
  rw [step]
  split <;> rfl

theorem staleAfterDays_foldl_record (u : UsageTracker) (scope : Scope) (now : Timestamp)
    (keys : List String) :
    (keys.foldl (fun u key => u.record scope key now) u).staleAfterDays = u.staleAfterDays := by
  induction keys generalizing u with
  | nil => rfl
  | cons key rest ih => rw [List.foldl_cons, ih, staleAfterDays_record]

end UsageTracker

/-- Whether a hub has a tidy registry and queues of the given capacity. -/
structure Hub.Sized (capacity : Nat) (h : Hub) : Prop where
  tidy : h.Tidy
  capacity : h.capacity = capacity

namespace Hub.Sized

variable {capacity : Nat} {h : Hub}

theorem empty (capacity : Nat) : (Hub.empty capacity).Sized capacity where
  tidy := nofun
  capacity := rfl

theorem close (hh : h.Sized capacity) : h.close.Sized capacity where
  tidy := nofun
  capacity := hh.capacity

theorem broadcast (hh : h.Sized capacity) (scope : Scope) (event : ChangeEvent) :
    (h.broadcast scope event).2.Sized capacity := by
  rw [hh.tidy.broadcast_eq]
  exact ⟨hh.tidy.of_withMembers _ _, hh.capacity⟩

theorem broadcastAll (hh : h.Sized capacity) (event : ChangeEvent) (scopes : List Scope) :
    (h.broadcastAll event scopes).Sized capacity := by
  induction scopes generalizing h with
  | nil => exact hh
  | cons scope rest ih => exact ih (hh.broadcast scope event)

theorem unsubscribe (hh : h.Sized capacity) (s : Subscription) :
    (h.unsubscribe s).Sized capacity := by
  rw [hh.tidy.unsubscribe_eq]
  exact ⟨hh.tidy.of_withMembers _ _, hh.capacity⟩

theorem receive (hh : h.Sized capacity) (s : Subscription) :
    (h.receive s).2.Sized capacity := by
  rw [receive_eq]
  exact ⟨hh.tidy, hh.capacity⟩

/-- A subscription is to be had exactly if its queue is. -/
theorem subscribe? (hh : h.Sized capacity) (scope : Scope) :
    ((h.subscribe? scope).isSome = true ↔ capacity ≤ Queue.maxCapacity) ∧
    ∀ s hub, h.subscribe? scope = some (s, hub) → hub.Sized capacity := by
  rw [← Queue.canHave_iff, ← hh.capacity]
  cases hcap : Queue.canHave h.capacity with
  | false =>
    rw [subscribe?_of_not_canHave hcap]
    exact ⟨Iff.rfl, nofun⟩
  | true =>
    rw [hh.tidy.subscribe?_eq hcap]
    refine ⟨iff_of_true rfl rfl, fun s hub hmade => ?_⟩
    obtain ⟨_, rfl⟩ := Prod.mk.inj (Option.some.inj hmade)
    refine ⟨hh.tidy.of_withSubscription scope, ?_⟩
    rw [withSubscription_eq]

end Hub.Sized

namespace Service

/-- What a service keeps of its settings. -/
structure RunsWith (s : ServiceSettings) (v : Service) : Prop where
  hub : v.hub.Sized s.subscriberCapacity
  staleAfterDays : v.usage.staleAfterDays = s.staleAfterDays

namespace RunsWith

variable {s : ServiceSettings} {v v' : Service} {c : Call}

theorem of_create? (hv : create? s = some v) : RunsWith s v := by
  rw [create?] at hv
  split at hv
  · cases hv
  · rw [← Option.some.inj hv]
    exact ⟨.empty s.subscriberCapacity, rfl⟩

/-- A call breaks off exactly if it passes a limit. -/
theorem isSome_call?_iff (hv : RunsWith s v) (hc : c.IsTimely) :
    (v.call? c).isSome = true ↔ c.Within s := by
  cases c with
  | openStream scope =>
    rw [call?, openStream?, Option.isSome_map, Option.isSome_map]
    exact (hv.hub.subscribe? scope).1
  | staleFlags scope now =>
    rw [call?, staleFlags?, UsageTracker.staleFlags?, Option.isSome_map, Option.isSome_map,
      hv.staleAfterDays]
    exact Timestamp.IsShown.isSome_minusDays?_iff hc s.staleAfterDays
  | _ => exact iff_of_true rfl trivial

/-- What a call leaves has the same settings. -/
theorem call? (hv : RunsWith s v) (hcall : v.call? c = some v') : RunsWith s v' := by
  cases c with
  | openStream scope =>
    obtain ⟨made, hmade, rfl⟩ := Option.map_eq_some_iff.1 hcall
    obtain ⟨⟨subscription, hub⟩, hsubscribe, rfl⟩ := Option.map_eq_some_iff.1 hmade
    exact ⟨(hv.hub.subscribe? scope).2 subscription hub hsubscribe, hv.staleAfterDays⟩
  | closeStream subscription =>
    obtain rfl := Option.some.inj hcall
    have hunsubscribed := hv.hub.unsubscribe subscription
    exact ⟨⟨hunsubscribed.tidy, hunsubscribed.capacity⟩, hv.staleAfterDays⟩
  | receive subscription =>
    obtain rfl := Option.some.inj hcall
    exact ⟨hv.hub.receive subscription, hv.staleAfterDays⟩
  | evaluate scope key context now =>
    obtain rfl := Option.some.inj hcall
    rw [Service.evaluate]
    split
    · exact hv
    · exact ⟨hv.hub, (UsageTracker.staleAfterDays_record ..).trans hv.staleAfterDays⟩
  | evaluateAll scope context now =>
    obtain rfl := Option.some.inj hcall
    exact ⟨hv.hub, (UsageTracker.staleAfterDays_foldl_record ..).trans hv.staleAfterDays⟩
  | publish source scopes event now =>
    obtain rfl := Option.some.inj hcall
    rw [publish_eq, Publication.after_eq]
    exact ⟨hv.hub.broadcastAll event _, hv.staleAfterDays⟩
  | loadAll source now =>
    obtain rfl := Option.some.inj hcall
    exact ⟨hv.hub, hv.staleAfterDays⟩
  | staleFlags scope now =>
    obtain ⟨_, _, rfl⟩ := Option.map_eq_some_iff.1 hcall
    exact hv
  | count =>
    obtain rfl := Option.some.inj hcall
    exact ⟨hv.hub, (UsageTracker.staleAfterDays_step _).trans hv.staleAfterDays⟩
  | shutdown =>
    obtain rfl := Option.some.inj hcall
    exact ⟨hv.hub.close, hv.staleAfterDays⟩

/-- A run of calls breaks off at the first that passes a limit. -/
theorem isSome_calls?_iff (hv : RunsWith s v) {calls : List Call}
    (hcalls : ∀ c ∈ calls, c.IsTimely) :
    (v.calls? calls).isSome = true ↔ ∀ c ∈ calls, c.Within s := by
  induction calls generalizing v with
  | nil => exact iff_of_true rfl nofun
  | cons c rest ih =>
    have hfirst := hv.isSome_call?_iff (hcalls c List.mem_cons_self)
    rw [calls?, List.foldlM_cons, List.forall_mem_cons]
    cases hcall : v.call? c with
    | none =>
      rw [hcall] at hfirst
      exact iff_of_false Bool.false_ne_true fun h => Bool.false_ne_true (hfirst.2 h.1)
    | some v' =>
      rw [hcall] at hfirst
      exact (ih (hv.call? hcall) fun c hc => hcalls c (List.mem_cons_of_mem _ hc)).trans
        (iff_and_self.2 fun _ => hfirst.1 rfl)

end RunsWith

/-! ## Main result -/

/-- A service with the settings of a configuration that is accepted is made and answers all calls
exactly if these keep within the limits: the queue for evaluations can be made, and so can those
for streams if one is opened, and the days after which flags are stale do not lead out of the
calendar if one asks for such flags.  Being accepted only means that there are no zeros. -/
theorem serves_iff_within (l : Config.Layer) (s : Settings) (hs : l.finalize = .ok s)
    (calls : List Call) (hcalls : ∀ c ∈ calls, c.IsTimely) :
    (s.service.subscriberCapacity ≠ 0 ∧ s.service.usageQueueCapacity ≠ 0 ∧
      s.service.heartbeatSeconds ≠ 0) ∧
    ((serve? s.service calls).isSome = true ↔
      s.service.usageQueueCapacity ≤ Queue.maxCapacity ∧ ∀ c ∈ calls, c.Within s.service) := by
  constructor
  · rw [Config.finalize_eq] at hs
    split at hs
    · cases hs
    · next hzero =>
      rw [Except.ok.inj hs] at hzero
      exact Config.firstZero?_eq_none_iff.1 hzero
  · rw [serve?, ← Queue.canHave_iff]
    cases hcap : Queue.canHave s.service.usageQueueCapacity with
    | false => simp [create?, hcap]
    | true =>
      obtain ⟨v, hv⟩ : ∃ v, create? s.service = some v := ⟨_, by simp only [create?, hcap]; rfl⟩
      rw [hv, Option.bind_some, (RunsWith.of_create? hv).isSome_calls?_iff hcalls]
      exact (and_iff_right rfl).symm

/-- Settings at two of the limits. -/
def atLimits : Config.Layer where
  flags := some { subscriberCapacity := some Queue.maxCapacity, staleAfterDays := some 95000000 }

/-- Calls that come upon them, also after the end of the service. -/
def callsAtLimits : List Call :=
  [.openStream ⟨"shop", "live"⟩, .staleFlags ⟨"shop", "live"⟩ ⟨20412, 0, 0⟩,
    .evaluate ⟨"shop", "live"⟩ "dark-mode" .empty default, .shutdown, .openStream ⟨"shop", "live"⟩]

theorem serves_iff_within_atLimits :
    atLimits.finalize = .ok { Settings.standard with
      service := ⟨Queue.maxCapacity, 1024, 95000000, 30⟩ } ∧
    (∀ c ∈ callsAtLimits, c.IsTimely) ∧
    (serve? ⟨Queue.maxCapacity, 1024, 95000000, 30⟩ callsAtLimits).isSome = true := by
  have haccepted : atLimits.finalize = .ok { Settings.standard with
      service := ⟨Queue.maxCapacity, 1024, 95000000, 30⟩ } := rfl
  have hshown : Timestamp.IsShown ⟨20412, 0, 0⟩ := ⟨by decide, by decide⟩
  have htimely : ∀ c ∈ callsAtLimits, c.IsTimely := by
    simpa [callsAtLimits, Call.IsTimely] using hshown
  refine ⟨haccepted, htimely, (serves_iff_within _ _ haccepted _ htimely).2.2 ⟨by decide, ?_⟩⟩
  simp only [callsAtLimits, List.forall_mem_cons, Call.Within, Nat.le_refl, true_and]
  exact ⟨by decide, nofun⟩

/-- A layer that only sets the length of the queue for evaluations, one more than it can have. -/
def longUsageQueue : Config.Layer where
  flags := some { usageQueueCapacity := some (Queue.maxCapacity + 1) }

/-- A layer that only sets the length of the queues for streams, one more than they can have. -/
def longStreamQueues : Config.Layer where
  flags := some { subscriberCapacity := some (Queue.maxCapacity + 1) }

/-- A layer that only sets the days after which flags are stale, to the largest number of 32
bits. -/
def farBack : Config.Layer where
  flags := some { staleAfterDays := some (UInt32.size - 1) }

/-- Each of three settings alone lets a configuration be accepted with which a service breaks off:
before the first call, when a stream is opened, and when one asks for stale flags. -/
theorem accepted_breaks_off :
    (∃ s, longUsageQueue.finalize = .ok s ∧ serve? s.service [] = none) ∧
    (∃ s, longStreamQueues.finalize = .ok s ∧
      serve? s.service [.openStream ⟨"shop", "live"⟩] = none) ∧
    ∃ s, farBack.finalize = .ok s ∧ Timestamp.IsShown ⟨20412, 0, 0⟩ ∧
      serve? s.service [.staleFlags ⟨"shop", "live"⟩ ⟨20412, 0, 0⟩] = none :=
  ⟨⟨_, rfl, rfl⟩, ⟨_, rfl, rfl⟩, _, rfl, ⟨by decide, by decide⟩, rfl⟩

end Service

end FeatureFlags
