import Flowline.Catalog.Registry
/-!
Periodic refreshing of a registry. Any number of refreshes may be at work on it; each fetches at its
own times.
-/
namespace Flowline.Catalog

/-- A refresh that is due at `next` and then every `interval` milliseconds; with an interval of zero
it never is. The script says what its fetches find; behind its end they find nothing. -/
structure Periodic (ε : Type) where
  interval : Nat
  next : Nat
  script : List (Except ε (List Piece))
  fetches : Nat := 0

namespace Periodic

def isDue (time : Nat) (p : Periodic ε) : Bool := p.interval != 0 && p.next ≤ time

/-- Fetches once. -/
def tick (p : Periodic ε) (r : Registry) : Periodic ε × Registry :=
  ({ p with next := p.next + p.interval, script := p.script.tail, fetches := p.fetches + 1 },
    r.refresh (p.script.head?.getD (.ok [])))

/-- Lets the first of the refreshes fetch that is due at `time`. -/
def tickFirst (time : Nat) : List (Periodic ε) → Registry → List (Periodic ε) × Registry
  | [], r => ([], r)
  | p :: ps, r =>
    if p.isDue time then
      let (p, r) := p.tick r
      (p :: ps, r)
    else
      let (ps, r) := tickFirst time ps r
      (p :: ps, r)

/-- The earliest time up to `time` at which one of the refreshes is due. -/
def earliest (time : Nat) (ps : List (Periodic ε)) : Option Nat :=
  ((ps.filter (isDue time)).map next).min?

/-- Lets the refreshes fetch at all their times up to `time`, in the order of these times; every
turn uses up a unit of fuel. -/
def catchUp (time : Nat) : Nat → List (Periodic ε) → Registry → List (Periodic ε) × Registry
  | 0, ps, r => (ps, r)
  | fuel + 1, ps, r =>
    match earliest time ps with
    | none => (ps, r)
    | some t =>
      let (ps, r) := tickFirst t ps r
      catchUp time fuel ps r

end Periodic

/-- The periodic refreshes of a registry. The latest one can be stopped; those before it go on. -/
structure Refreshers (ε : Type) where
  earlier : List (Periodic ε) := []
  latest : Option (Periodic ε) := none
  isRunning : Bool := false

namespace Refreshers

/-- The refreshes at work, in the order in which they started. -/
def atWork (s : Refreshers ε) : List (Periodic ε) :=
  s.earlier ++ (if s.isRunning then s.latest.toList else [])

def start (s : Refreshers ε) (p : Periodic ε) : Refreshers ε := ⟨s.atWork, some p, true⟩

def stop (s : Refreshers ε) : Refreshers ε := { s with isRunning := false }

/-- Lets `ms` milliseconds pass, up to `time`. -/
def wait (s : Refreshers ε) (time ms : Nat) (r : Registry) : Refreshers ε × Registry :=
  let (ps, r) := Periodic.catchUp time ((ms + 1) * s.atWork.length) s.atWork r
  if s.isRunning then ({ s with earlier := ps.dropLast, latest := ps.getLast? }, r)
  else ({ s with earlier := ps }, r)

end Refreshers
end Flowline.Catalog
