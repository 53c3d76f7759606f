import FeatureFlags.Proofs.Hub.Owner
import FeatureFlags.Stream.Basic

/-!
# The steps of a stream

* `Stream.Step` lists what a step can be, one constructor for each, with what makes it ready.
  `Stream.step_of_take?` says that there are no others.
* `Stream.Step.untouched`: of the hub a step touches no more than the subscription of the stream.
-/

namespace FeatureFlags

/-- The message that waits for the sink. -/
def StreamPhase.inHand? : StreamPhase → Option StreamMessage
  | .sending m => some m
  | .waiting | .ended _ => none

/-- Whether the stream is over. -/
def StreamPhase.isEnded : StreamPhase → Bool
  | .ended _ => true
  | .waiting | .sending _ => false

namespace Stream

variable {s : Stream} {clock : Clock} {h : Hub} {branch : StreamBranch} {r : Stream × Hub}

/-- What a step can be. -/
inductive Step (s : Stream) (clock : Clock) (h : Hub) : StreamBranch → Stream × Hub → Prop
  /-- It has been asked to end, whatever it is doing. -/
  | cancelled (hphase : s.phase.isEnded = false) (hcancelled : s.cancelled = true) :
      Step s clock h .cancel (s.finish h .cancelled)
  /-- A heartbeat is due. -/
  | heartbeat (hphase : s.phase = .waiting) (hdue : s.due ≤ clock.time) :
      Step s clock h .heartbeat
        ({ s with due := s.nextDue clock.time, phase := .sending (.heartbeat ⟨clock.wall⟩) }, h)
  /-- An event has come. -/
  | taken {e : ChangeEvent} (hphase : s.phase = .waiting)
      (hevent : (h.await s.subscription).1 = .event e) :
      Step s clock h .receive ({ s with phase := .sending (.change e) }, (h.await s.subscription).2)
  /-- There will be no more events. -/
  | hubClosed (hphase : s.phase = .waiting) (hended : (h.await s.subscription).1 = .ended) :
      Step s clock h .receive (s.finish h .hubClosed)
  /-- The sink accepts the message. -/
  | sent {m : StreamMessage} (hphase : s.phase = .sending m) (hopen : s.sink.isOpen = true)
      (hroom : s.sink.hasRoom = true) :
      Step s clock h .send ({ s with sink := s.sink.push m, phase := .waiting }, h)
  /-- The sink fails. -/
  | failed {m : StreamMessage} (hphase : s.phase = .sending m) (hclosed : s.sink.isOpen = false) :
      Step s clock h .send (s.finish h .sinkClosed)

/-- A step that is ready is one of these. -/
theorem step_of_take? (hr : s.take? clock h branch = some r) : Step s clock h branch r := by
  cases hphase : s.phase with
  | ended reason => simp [take?, hphase] at hr
  | waiting =>
    cases branch with
    | cancel =>
      simp only [take?, hphase, Option.ite_none_right_eq_some, Option.some.injEq] at hr
      obtain ⟨hcancelled, rfl⟩ := hr
      exact .cancelled (by rw [hphase]; rfl) hcancelled
    | heartbeat =>
      simp only [take?, hphase, Option.ite_none_right_eq_some, Option.some.injEq] at hr
      obtain ⟨hdue, rfl⟩ := hr
      exact .heartbeat hphase hdue
    | receive =>
      simp only [take?, hphase] at hr
      split at hr
      · next e hub hawait =>
        obtain rfl := Option.some.inj hr
        have hstep : Step s clock h .receive _ := .taken hphase (congrArg Prod.fst hawait)
        rwa [hawait] at hstep
      · next hub hawait =>
        obtain rfl := Option.some.inj hr
        have hended := Hub.await_of_ended (congrArg Prod.fst hawait)
        rw [← (Prod.mk.inj (hended.symm.trans hawait)).2]
        exact .hubClosed hphase (congrArg Prod.fst hawait)
      · cases hr
    | send => simp [take?, hphase] at hr
  | sending m =>
    cases branch with
    | cancel =>
      simp only [take?, hphase, Option.ite_none_right_eq_some, Option.some.injEq] at hr
      obtain ⟨hcancelled, rfl⟩ := hr
      exact .cancelled (by rw [hphase]; rfl) hcancelled
    | send =>
      simp only [take?, hphase] at hr
      split at hr
      · next hclosed =>
        obtain rfl := Option.some.inj hr
        exact .failed hphase (by simpa using hclosed)
      · next hopen =>
        simp only [Option.ite_none_right_eq_some, Option.some.injEq] at hr
        obtain ⟨hroom, rfl⟩ := hr
        exact .sent hphase (by simpa using hopen) hroom
    | heartbeat => simp [take?, hphase] at hr
    | receive => simp [take?, hphase] at hr

/-- A step is taken by a stream that is not over, and that has started. -/
theorem Step.phase (hstep : Step s clock h branch r) :
    s.phase.isEnded = false ∧ r.1.phase ≠ .ended .noInterval := by
  cases hstep with
  | cancelled hphase => exact ⟨hphase, nofun⟩
  | heartbeat hphase | taken hphase | hubClosed hphase | sent hphase | failed hphase =>
    exact ⟨by rw [hphase]; rfl, nofun⟩

theorem untouched_finish (ht : h.Tidy) (s : Stream) (reason : StreamEnd) :
    Hub.Untouched s.subscription.id h (s.finish h reason).2 :=
  (Hub.Untouched.unsubscribe ht s.subscription).trans (.dropReceiver _ s.subscription)

/-- A step of a stream touches nothing of the hub but its own subscription. -/
theorem Step.untouched (hstep : Step s clock h branch r) (ht : h.Tidy) :
    Hub.Untouched s.subscription.id h r.2 := by
  cases hstep with
  | cancelled | hubClosed | failed => exact untouched_finish ht s _
  | heartbeat | sent => exact .refl _ h
  | taken => exact .await h s.subscription

end Stream

end FeatureFlags
