import Flowline.Engine.Response
/-!
Concurrent requests that share one keeper of the token, as a transition system. A request waits for
a token, is sent with it, and ends with its reply; the reply 401 ends it only after the keeper has
been told to forget what it holds.
-/
namespace Flowline.Engine
open Json

/-- How far a request has come. -/
inductive Stage where
  | waiting (request : Request)
  | sent (request : Request) (token : String)
  | forgetting (result : Except Error Json)

/-- The keeper, and the requests that are under way by caller. -/
structure Traffic where
  keeper : Token.Keeper
  calls : List (Nat × Stage) := []

namespace Traffic

inductive Event where
  | begin (caller : Nat) (request : Request)
  | join (caller : Nat)
  | wake
  | signedIn (outcome : Token.Outcome)
  | answered (caller : Nat) (reply : Reply)
  | drop (caller : Nat)
  | elapse (milliseconds : Nat)

inductive Effect where
  | signIn (caller : Nat)
  | send (caller : Nat) (request : Request) (token : String)
  | finish (caller : Nat) (result : Except Error Json)

def stage? (t : Traffic) (caller : Nat) : Option Stage := t.calls.lookup caller

def remove (t : Traffic) (caller : Nat) : Traffic :=
  { t with calls := t.calls.filter (·.1 != caller) }

def put (t : Traffic) (caller : Nat) (stage : Stage) : Traffic :=
  { t with calls := (caller, stage) :: (t.remove caller).calls }

/-- Goes on with a request whose caller heard from the keeper. -/
def hear (t : Traffic) : Token.Effect → Traffic × List Effect
  | .signIn caller => (t, [.signIn caller])
  | .reply caller outcome =>
    match t.stage? caller, outcome with
    | some (.waiting r), .ok token => (t.put caller (.sent r token), [.send caller r token])
    | some (.waiting r), .error why => (t.remove caller, [.finish caller (r.denied why)])
    | _, _ => (t, [])
  | .cleared caller =>
    match t.stage? caller with
    | some (.forgetting result) => (t.remove caller, [.finish caller result])
    | _ => (t, [])

def hearAll (t : Traffic) : List Token.Effect → Traffic × List Effect
  | [] => (t, [])
  | e :: rest =>
    let (next, effects) := t.hear e
    let (last, more) := next.hearAll rest
    (last, effects ++ more)

/-- Tells the keeper something. -/
def tell (t : Traffic) (e : Token.Event) : Traffic × List Effect :=
  let (keeper, effects) := t.keeper.step e
  { t with keeper }.hearAll effects

def step (t : Traffic) : Event → Traffic × List Effect
  | .begin caller r => (t.put caller (.waiting r)).tell (.get caller)
  | .join caller => t.tell (.join caller)
  | .wake => t.tell .wake
  | .signedIn outcome => t.tell (.signedIn outcome)
  | .answered caller reply =>
    match t.stage? caller with
    | some (.sent r _) =>
      let result := r.result reply
      if reply.rejectsToken then (t.put caller (.forgetting result)).tell (.clear caller)
      else (t.remove caller, [.finish caller result])
    | _ => (t, [])
  | .drop caller => (t.remove caller).tell (.drop caller)
  | .elapse ms => t.tell (.elapse ms)

/-- The traffic after the events, and what it did. -/
def run (t : Traffic) : List Event → Traffic × List Effect
  | [] => (t, [])
  | e :: rest =>
    let (next, effects) := t.step e
    let (last, more) := next.run rest
    (last, effects ++ more)

end Traffic
end Flowline.Engine
