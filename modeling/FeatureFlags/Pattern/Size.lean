import FeatureFlags.Pattern.Expr
import FeatureFlags.Unicode.ByteRange

/-!
# The size of a pattern

A pattern stands for two automata over the bytes of a text, one that reads forward
and records where groups start and end, and one that reads backward.  The size of
an automaton is 32 bytes for every state, 8 more for every transition of a state
with a list of transitions, and 4 more for every branch of a branching state.  A
pattern is too large if one of its automata is larger than `Size.limit`.

The automata are not built; `Size.build` adds up what each part of the pattern
needs and stops as soon as the limit is passed.
-/

namespace FeatureFlags.Pattern.Size

/-- The largest size of an automaton in bytes. -/
def limit : Nat := 1024 * 1024

/-- What has been counted of an automaton. -/
structure Tally where
  states : Nat := 0
  /-- The bytes that states need beyond the 32 of each. -/
  extra : Nat := 0

/-- The size in bytes. -/
def Tally.bytes (t : Tally) : Nat := 32 * t.states + t.extra

/-- Counting fails when the limit is passed. -/
abbrev Build := StateT Tally Option

/-- Replaces the tally by one that is within the limit. -/
def keepWithin (t : Tally) : Build Unit := fun _ => if t.bytes ≤ limit then some ((), t) else none

/-- Counts a state that needs `extra` bytes more, and gives its number. -/
def state (extra : Nat) : Build Nat := do
  let t ← get
  keepWithin { states := t.states + 1, extra := t.extra + extra }
  return t.states

/-- Counts new branches of branching states. -/
def branches (n : Nat) : Build Unit := do
  let t ← get
  keepWithin { t with extra := t.extra + 4 * n }

/-- Leads on from a part; a part that ends in a branching state gets one more branch. -/
def leadOn (endsBranching : Bool) : Build Unit := branches (if endsBranching then 1 else 0)

/-! ## Sets -/

/-- A table of shared states with a fixed number of slots, in which a later entry takes the slot
of an earlier one. -/
structure Memo where
  slots : Array (Option (List Nat × Nat))

/-- The slot of a key, by the hash of Fowler, Noll and Vo. -/
def Memo.slot (m : Memo) (key : List Nat) : Nat :=
  let hash := key.foldl (fun (h : UInt64) n => (h ^^^ n.toUInt64) * 1099511628211)
    14695981039346656037
  hash.toNat % m.slots.size

/-- The state with the given key: the shared one if the table still has it, and else a new one
that needs `extra` bytes more. -/
def Memo.share (m : Memo) (key : List Nat) (extra : Nat) : Build (Nat × Memo) := do
  let i := m.slot key
  match (m.slots[i]?).join with
  | some (key', id) => if key' = key then return (id, m)
  | none => pure ()
  let id ← state extra
  return (id, ⟨m.slots.set! i (some (key, id))⟩)

/-- The blocks with the same first range of bytes as the first one, without it, and the others. -/
def splitByFirst (range : Unicode.ByteRange) :
    List (List Unicode.ByteRange) → List (List Unicode.ByteRange) × List (List Unicode.ByteRange)
  | [] => ([], [])
  | [] :: rest => ([], rest)
  | (r :: rs) :: rest =>
    if r = range then
      let (same, others) := splitByFirst range rest
      (rs :: same, others)
    else ([], (r :: rs) :: rest)

mutual

/-- The state from which the given blocks are read up to `target`. -/
def buildBlocks (target depth : Nat) (m : Memo) (blocks : List (List Unicode.ByteRange)) :
    Build (Nat × Memo) :=
  match depth with
  | 0 => return (target, m)
  | depth + 1 => do
    let (transitions, m) ← buildTransitions target depth m blocks.length blocks
    m.share transitions (8 * (transitions.length / 3))
termination_by (depth, 0)

/-- The transitions of that state, each as its two bytes and the state that it leads to. -/
def buildTransitions (target depth : Nat) (m : Memo) (most : Nat)
    (blocks : List (List Unicode.ByteRange)) : Build (List Nat × Memo) :=
  match most, blocks with
  | most + 1, (range :: rest) :: others => do
    let (same, others) := splitByFirst range ((range :: rest) :: others)
    let (next, m) ← if rest.isEmpty then pure (target, m) else buildBlocks target depth m same
    let (transitions, m) ← buildTransitions target depth m most others
    return (range.1 :: range.2 :: next :: transitions, m)
  | _, _ => return ([], m)
termination_by (depth, most + 1)

end

/-- The states of one block that is read backward, from the one that reads its first byte. -/
def buildBackward (m : Memo) (next : Nat) : List Unicode.ByteRange → Build Memo
  | [] => do
    branches 1
    return m
  | (lo, hi) :: rest => do
    let (id, m) ← m.share [next, lo, hi] 0
    buildBackward m id rest

/-- A set of characters. -/
def buildSet (forward : Bool) (s : CharSet) : Build Bool := do
  if s.isBelow 128 then
    let _ ← state 0
    let _ ← state (8 * s.ranges.length)
    return false
  let blocks := s.ranges.flatMap fun (lo, hi) => Unicode.blocks lo hi
  if forward then
    let target ← state 0
    let _ ← buildBlocks target 4 ⟨.replicate 10000 none⟩ blocks
    return false
  else
    let _ ← state 0
    let stop ← state 0
    let _ ← blocks.foldlM (fun m block => buildBackward m stop block) ⟨.replicate 1000 none⟩
    return false

/-! ## Repetitions -/

/-- More copies of a part, after one that ends as given. -/
def buildCopies (part : Build Bool) : Nat → Bool → Build Bool
  | 0, ends => return ends
  | n + 1, ends => do
    let next ← part
    leadOn ends
    buildCopies part n next

/-- A number of copies of a part. -/
def buildExactly (part : Build Bool) : Nat → Build Bool
  | 0 => do
    let _ ← state 0
    return false
  | n + 1 => do
    let ends ← part
    buildCopies part n ends

/-- More copies of a part, before each of which the repetition may stop. -/
def buildOptional (part : Build Bool) : Nat → Bool → Build Bool
  | 0, ends => return ends
  | n + 1, ends => do
    let _ ← state 0
    let next ← part
    leadOn ends
    branches 2
    buildOptional part n next

/-- Copies without a bound. -/
def buildUnbounded (part : Build Bool) (neverEmpty : Bool) : Nat → Build Bool
  | 0 =>
    if neverEmpty then do
      let _ ← state 0
      let ends ← part
      branches 1
      leadOn ends
      return true
    else do
      let ends ← part
      let _ ← state 0
      leadOn ends
      let _ ← state 0
      let _ ← state 0
      branches 4
      return false
  | n + 1 => do
    let before ← if n = 0 then pure false else buildExactly part n
    let ends ← part
    let _ ← state 0
    leadOn before
    leadOn ends
    branches 1
    return true

/-- Copies with a bound. -/
def buildBounded (part : Build Bool) (least most : Nat) : Build Bool := do
  if least = 0 ∧ most = 1 then
    let _ ← state 0
    let ends ← part
    let _ ← state 0
    branches 2
    leadOn ends
    return false
  let ends ← buildExactly part least
  if most ≤ least then return ends
  let _ ← state 0
  let ends ← buildOptional part (most - least) ends
  leadOn ends
  return false

/-! ## Expressions -/

mutual

/-- Counts the states of an expression, and says whether it ends in a branching state. -/
def build (forward : Bool) : Expr → Build Bool
  | .empty => do
    let _ ← state 0
    return false
  | .char c => do
    (Unicode.encode c.toNat).forM fun _ => discard (state 0)
    return false
  | .set s => buildSet forward s
  | .assertion _ => do
    let _ ← state 0
    return false
  | .group e =>
    if forward then do
      let _ ← state 0
      let ends ← build forward e
      let _ ← state 0
      leadOn ends
      return false
    else build forward e
  | .repeated e least most =>
    match most with
    | none => buildUnbounded (build forward e) (e.minLength?.any (0 < ·)) least
    | some most => buildBounded (build forward e) least most
  | .sequence es => buildSequence forward es
  | .choice es => buildChoice forward es

/-- Counts the states of a sequence, in the order in which it is read. -/
def buildSequence (forward : Bool) : List Expr → Build Bool
  | [] => return false
  | [e] => build forward e
  | e :: es =>
    if forward then do
      let ends ← build forward e
      leadOn ends
      buildSequence forward es
    else do
      let ends ← buildSequence forward es
      let last ← build forward e
      leadOn ends
      return last

/-- Counts the states of a choice. -/
def buildChoice (forward : Bool) : List Expr → Build Bool
  | [] => return false
  | [e] => build forward e
  | e₁ :: e₂ :: es => do
    let ends₁ ← build forward e₁
    let ends₂ ← build forward e₂
    let _ ← state 0
    let _ ← state 0
    branches 2
    leadOn ends₁
    leadOn ends₂
    buildBranches forward es
    return false

/-- Counts the states of further branches of a choice. -/
def buildBranches (forward : Bool) : List Expr → Build Unit
  | [] => return ()
  | e :: es => do
    let ends ← build forward e
    branches 1
    leadOn ends
    buildBranches forward es

end

/-- Counts a whole automaton.  Unless the expression is fixed to the side where reading starts,
a loop over all bytes stands before it. -/
def buildWhole (forward : Bool) (e : Expr) : Build Unit := do
  if if forward then e.startsAtStart else e.endsAtEnd then
    let _ ← state 0
  else
    let _ ← state 0
    let _ ← state 0
    let _ ← state 8
    branches 2
  let ends ← build forward (if forward then .group e else e)
  let _ ← state 0
  leadOn ends

/-- Whether both automata of an expression are within the limit. -/
def fits (e : Expr) : Bool :=
  ((buildWhole true e).run {}).isSome && ((buildWhole false e).run {}).isSome

end FeatureFlags.Pattern.Size
