/-!
A bounded pool of workers.  A task takes a slot, is counted, runs its body until that returns or panics, is
counted no longer and gives its slot back; then its handle has its result.  Each of these is one `step`, and
which task makes the next one is not up to the pool.  On a single thread a task is not interrupted between two
places where it waits: `advance` takes it from one such place to the next.
-/
namespace Provisioning

structure TaskPanic where
  message : String
  deriving DecidableEq, Repr

/-- What a panic is raised with, when that is a text. -/
abbrev Payload := Option String

namespace TaskPanic

def ofPayload (payload : Payload) : TaskPanic := ⟨payload.getD "unknown panic payload"⟩

def display (p : TaskPanic) : String := "task panicked: " ++ p.message

end TaskPanic

abbrev Ending (α : Type) := Except Payload α

abbrev TaskEnd (α : Type) := Except TaskPanic α

/- A panic that was caught may be raised again. -/
instance : Coe (TaskEnd α) (Ending α) := ⟨Except.mapError fun p => some p.message⟩

inductive Phase (α : Type) where
  | waiting
  /-- It holds a slot and is not counted yet. -/
  | admitted
  /-- Its body will wait this many times more before it ends. -/
  | running (waits : Nat)
  | panicking (payload : Payload)
  | ended (result : TaskEnd α)
  /-- It is counted no longer and still holds its slot. -/
  | leaving (result : TaskEnd α)
  | finished (result : TaskEnd α)

namespace Phase

def holdsSlot : Phase α → Bool
  | waiting | finished _ => false
  | _ => true

def isCounted : Phase α → Bool
  | running _ | panicking _ | ended _ => true
  | _ => false

def pending : Phase α → Nat
  | admitted | leaving _ => 1
  | ended _ => 2
  | panicking _ => 3
  | _ => 0

end Phase

structure PoolTask (α : Type) where
  ending : Ending α
  waits : Nat
  phase : Phase α := .waiting

structure Pool (α : Type) where
  size : Nat
  free : Nat
  /-- The counter of active workers; below zero it would show a decrement too many. -/
  active : Int
  tasks : List (PoolTask α)

namespace PoolTask

def outcome? (t : PoolTask α) : Option (TaskEnd α) :=
  match t.phase with
  | .finished result => some result
  | _ => none

def length (t : PoolTask α) : Nat := t.waits + 6

end PoolTask

namespace Pool

def ofSize (size : Nat) : Pool α := ⟨max 1 size, max 1 size, 0, []⟩

def spawn (p : Pool α) (ending : Ending α) (waits : Nat) : Pool α :=
  { p with tasks := p.tasks ++ [{ ending, waits }] }

/-- The next step of the task in place `i`, if it can make one. -/
def step (p : Pool α) (i : Nat) : Option (Pool α) :=
  match p.tasks[i]? with
  | none => none
  | some t =>
    let moved (phase : Phase α) : List (PoolTask α) := p.tasks.set i { t with phase }
    match t.phase with
    | .waiting =>
      if 0 < p.free then some { p with free := p.free - 1, tasks := moved .admitted } else none
    | .admitted => some { p with active := p.active + 1, tasks := moved (.running t.waits) }
    | .running (n + 1) => some { p with tasks := moved (.running n) }
    | .running 0 =>
      match t.ending with
      | .ok a => some { p with tasks := moved (.ended (.ok a)) }
      | .error payload => some { p with tasks := moved (.panicking payload) }
    | .panicking payload => some { p with tasks := moved (.ended (.error (.ofPayload payload))) }
    | .ended result => some { p with active := p.active - 1, tasks := moved (.leaving result) }
    | .leaving result => some { p with free := p.free + 1, tasks := moved (.finished result) }
    | .finished _ => none

def steps : Nat → Pool α → Nat → Pool α
  | 0, p, _ => p
  | n + 1, p, i => steps n ((p.step i).getD p) i

def pending (p : Pool α) (i : Nat) : Nat := (p.tasks[i]?.map (·.phase.pending)).getD 0

/-- Let the task in place `i` go on, if it can, until it waits again. -/
def advance (p : Pool α) (i : Nat) : Option (Pool α) :=
  (p.step i).map fun q => steps (q.pending i) q i

def held (p : Pool α) : Nat := p.tasks.countP (·.phase.holdsSlot)

def counted (p : Pool α) : Nat := p.tasks.countP (·.phase.isCounted)

def outcomes (p : Pool α) : List (Option (TaskEnd α)) := p.tasks.map (·.outcome?)

def isDone (p : Pool α) : Bool := p.outcomes.all (·.isSome)

/-- Let every task have a turn, in order, and note the most that ever held a slot at once. -/
def turn (p : Pool α) (peak : Nat) : Pool α × Nat :=
  (List.range p.tasks.length).foldl
    (fun (p, peak) i => let q := (p.advance i).getD p; (q, max peak q.held)) (p, peak)

def turns : Nat → Pool α → Nat → Pool α × Nat
  | 0, p, peak => (p, peak)
  | n + 1, p, peak =>
    if p.isDone then (p, peak) else let (p, peak) := p.turn peak; turns n p peak

def runToEnd (p : Pool α) : Pool α × Nat := turns (p.tasks.foldr (fun t n => t.length + n) 0) p 0

def inspect (p : Pool α) : String :=
  s!"WorkerPool \x7b max_workers: {p.size}, active: {p.active} \x7d"

end Pool
end Provisioning
