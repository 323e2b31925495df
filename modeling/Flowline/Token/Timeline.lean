import Flowline.Token.Keeper
/-!
A keeper whose sign-ins take time and follow a script. Of an arrival and the end of a sign-in that
are due at once, the end comes first. Callers get in line as soon as they come, and those in line
wake as soon as the lock is free.
-/
namespace Flowline.Token

/-- A keeper with the sign-ins to come and the one in flight, the number of sign-ins begun, and the
replies so far, the last first. -/
structure Timeline where
  keeper : Keeper
  /-- How long a sign-in takes. -/
  delay : Nat
  script : List Outcome
  inFlight : Option (Nat × Outcome) := none
  signIns : Nat := 0
  replies : List (Nat × Outcome) := []

namespace Timeline

/-- The outcome of a sign-in beyond the script. -/
def exhausted : Outcome := .error (.transport "script exhausted")

def effect (t : Timeline) : Effect → Timeline
  | .reply caller outcome => { t with replies := (caller, outcome) :: t.replies }
  | .cleared _ => t
  | .signIn _ =>
    { t with
      inFlight := some (t.keeper.now + t.delay, t.script.head?.getD exhausted)
      script := t.script.tail
      signIns := t.signIns + 1 }

def event (t : Timeline) (e : Event) : Timeline :=
  let (keeper, effects) := t.keeper.run e.atOnce
  let (keeper, more) := keeper.settle
  (effects ++ more).foldl effect { t with keeper }

/-- Moves the clock forward to a time. -/
def moveTo (t : Timeline) (time : Nat) : Timeline := t.event (.elapse (time - t.keeper.now))

/-- Ends the sign-in in flight. -/
def finish (t : Timeline) (time : Nat) (outcome : Outcome) : Timeline :=
  { t.moveTo time with inFlight := none }.event (.signedIn outcome)

/-- Plays arrivals in order of time until no sign-in is in flight; every arrival begins at most one
sign-in, so twice their number, and one for a sign-in in flight at first, is fuel enough. -/
def play : Nat → Timeline → List (Nat × Event) → Timeline
  | 0, t, _ => t
  | fuel + 1, t, [] =>
    match t.inFlight with
    | none => t
    | some (time, outcome) => play fuel (t.finish time outcome) []
  | fuel + 1, t, (time, e) :: rest =>
    match t.inFlight with
    | some (ending, outcome) =>
      if ending ≤ time then play fuel (t.finish ending outcome) ((time, e) :: rest)
      else play fuel ((t.moveTo time).event e) rest
    | none => play fuel ((t.moveTo time).event e) rest

/-- Plays arrivals, given with the time from now, and forgets earlier replies. -/
def arrivals (t : Timeline) (events : List (Nat × Event)) : Timeline :=
  let due := (events.map fun e => (t.keeper.now + e.1, e.2)).mergeSort fun a b => a.1 ≤ b.1
  play (2 * due.length + 1) { t with replies := [] } due

/-- The reply to a caller. -/
def replyTo (t : Timeline) (caller : Nat) : Option Outcome := t.replies.lookup caller

end Timeline
end Flowline.Token
