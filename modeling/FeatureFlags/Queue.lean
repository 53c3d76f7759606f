/-!
# Bounded queues

The places of the queues for events and evaluations.
-/

namespace FeatureFlags.Queue

/-- The largest number of places that a queue can be made with. -/
def maxCapacity : Nat := 2305843009213693951

/-- The number of places of a queue that is asked to have `n`: at least one. -/
def places (n : Nat) : Nat := max n 1

/-- Whether a queue that is asked to have `n` places can be made. -/
def canHave (n : Nat) : Bool := places n ≤ maxCapacity

end FeatureFlags.Queue
