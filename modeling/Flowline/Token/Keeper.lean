import Flowline.Engine.Error
/-!
One bearer token shared by concurrent callers, as a transition system. A lock is granted in order of
arrival and held during a sign-in, so callers that find no valid token wait for the sign-in in
flight and share its outcome. Forgetting the token takes the lock too. A caller first counts the
sign-ins that have ended and then gets in line for the lock. A lock that is let go passes to the
first in line, who goes on only when it wakes. Anything may happen between these steps.
-/
namespace Flowline.Token

/-- The outcome of a sign-in. -/
abbrev Outcome := Except SignInError String

structure Cached where
  token : String
  expiresAt : Nat
  deriving DecidableEq, Repr

/-- A caller that wants the lock. One that wants a token remembers how many sign-ins had ended when
it came. -/
inductive Waiter where
  | get (caller seen : Nat)
  | clear (caller : Nat)
  deriving DecidableEq, Repr

def Waiter.caller : Waiter → Nat
  | .get caller _ => caller
  | .clear caller => caller

/-- The keeper of the token. The holder is the caller whose sign-in is in flight. -/
structure Keeper where
  /-- How long a token is trusted, in milliseconds. -/
  validity : Nat
  now : Nat := 0
  cached : Option Cached := none
  /-- The outcome of the last sign-in, if it failed. -/
  lastError : Option SignInError := none
  /-- How many sign-ins have ended. -/
  attempts : Nat := 0
  holder : Option Nat := none
  /-- The callers that have come and are not in line for the lock yet. -/
  coming : List Waiter := []
  waiting : List Waiter := []
  deriving DecidableEq, Repr

/-- What the keeper can meet. -/
inductive Event where
  | get (caller : Nat)
  | clear (caller : Nat)
  | join (caller : Nat)
  | drop (caller : Nat)
  | wake
  | signedIn (outcome : Outcome)
  | elapse (milliseconds : Nat)

/-- A caller that comes and gets in line at once. -/
def Event.atOnce : Event → List Event
  | .get caller => [.get caller, .join caller]
  | .clear caller => [.clear caller, .join caller]
  | e => [e]

/-- What the keeper does. -/
inductive Effect where
  | reply (caller : Nat) (outcome : Outcome)
  | cleared (caller : Nat)
  | signIn (caller : Nat)

namespace Keeper

/-- The token, while it is valid. -/
def valid? (k : Keeper) : Option String :=
  match k.cached with
  | some c => if k.now < c.expiresAt then some c.token else none
  | none => none

/-- The error of a sign-in that ended since the caller came. -/
def shared? (k : Keeper) (seen : Nat) : Option SignInError :=
  if k.attempts ≠ seen then k.lastError else none

/-- Grants the free lock. -/
def grant (k : Keeper) : Waiter → Keeper × List Effect
  | .clear caller => ({ k with cached := none, lastError := none }, [.cleared caller])
  | .get caller seen =>
    match k.valid? with
    | some token => (k, [.reply caller (.ok token)])
    | none =>
      match k.shared? seen with
      | some e => (k, [.reply caller (.error e)])
      | none => ({ k with holder := some caller }, [.signIn caller])

/-- Who gets in line gets the lock at once if it is free and nobody else is in line for it. -/
def arrive (k : Keeper) (w : Waiter) : Keeper × List Effect :=
  if k.holder.isSome || !k.waiting.isEmpty then ({ k with waiting := k.waiting ++ [w] }, [])
  else k.grant w

/-- A caller that has come gets in line. -/
def join (k : Keeper) (caller : Nat) : Keeper × List Effect :=
  match k.coming.find? (·.caller == caller) with
  | none => (k, [])
  | some w => { k with coming := k.coming.erase w }.arrive w

/-- The first in line goes on, if the lock is free. -/
def wake (k : Keeper) : Keeper × List Effect :=
  match k.holder, k.waiting with
  | none, w :: rest => { k with waiting := rest }.grant w
  | _, _ => (k, [])

/-- Stores the outcome of a sign-in. Times have no upper end here; on a clock of limited range the
sum of `now` and `validity` may lie beyond it, and a program stops there. -/
def store (k : Keeper) : Outcome → Keeper
  | .ok token =>
    { k with cached := some ⟨token, k.now + k.validity⟩, lastError := none
             attempts := k.attempts + 1 }
  | .error e => { k with cached := none, lastError := some e, attempts := k.attempts + 1 }

def step (k : Keeper) : Event → Keeper × List Effect
  | .get caller => ({ k with coming := k.coming ++ [.get caller k.attempts] }, [])
  | .clear caller => ({ k with coming := k.coming ++ [.clear caller] }, [])
  | .join caller => k.join caller
  | .wake => k.wake
  | .elapse ms => ({ k with now := k.now + ms }, [])
  | .signedIn outcome =>
    match k.holder with
    | none => (k, [])
    | some caller => ({ k.store outcome with holder := none }, [.reply caller outcome])
  | .drop caller =>
    if k.holder = some caller then ({ k with holder := none }, [])
    else
      ({ k with
          coming := k.coming.filter (·.caller != caller)
          waiting := k.waiting.filter (·.caller != caller) }, [])

/-- The keeper after the events, and what it did. -/
def run (k : Keeper) : List Event → Keeper × List Effect
  | [] => (k, [])
  | e :: rest =>
    let (next, effects) := k.step e
    let (last, more) := next.run rest
    (last, effects ++ more)

/-- Wakes those in line until a caller keeps the lock. -/
def settle (k : Keeper) : Keeper × List Effect := k.run (List.replicate k.waiting.length .wake)

/-- Twenty-three hours. -/
def standardValidity : Nat := 23 * 60 * 60 * 1000

end Keeper
end Flowline.Token
