import GatewayClient.Program.World

/-!
# Scripted worlds

A world whose gateway answers from a list. The clock moves only when a request or a sleep moves
it, and the cancel event is set at chosen requests or at a chosen sleep. What an operation does in
such a world depends on nothing but the script.
-/

set_option autoImplicit false

namespace GatewayClient

/-- How the gateway meets a request: its answer, or none if it never answers, how long it takes,
and whether the cancel event is set meanwhile. -/
structure Reply (τ : Type) where
  answer : Option Outcome
  advance : τ
  cancels : Bool := false

/-- The state of a scripted world.

`replies` are given in turn, the last one again and again. A request for the transaction of one
of the hashes in `byHash` is answered from the script of that hash. `naps` counts sleeps, and the
sleep of the number `cancelOnNap` sets the cancel event. Random numbers are taken in turn from
the list of their source. -/
structure Script (τ : Type) where
  now : τ
  isCancelled : Bool := false
  replies : List (Reply τ) := []
  byHash : List (String × List (Reply τ)) := []
  naps : Nat := 0
  cancelOnNap : Option Nat := none
  chances : List (Nat × List τ) := []

namespace Script

variable {τ : Type} [TimeScale τ]

/-- The answer where the script has none. -/
def exhausted : Reply τ :=
  { answer := some (.failure ⟨.connection, "script exhausted"⟩), advance := 0.0 }

/-- The next reply, and the replies after it. -/
def next : List (Reply τ) → Reply τ × List (Reply τ)
  | [] => (exhausted, [])
  | [last] => (last, [last])
  | reply :: rest => (reply, rest)

/-- A URL asks for the transaction of a hash. -/
def asksFor (url hash : String) : Bool :=
  let path := url.toList.takeWhile (· != '?')
  ("/transaction/" ++ hash).toList.isSuffixOf path

/-- Take the next reply from the first script whose hash the URL asks for. -/
def nextByHash (url : String) :
    List (String × List (Reply τ)) → Option (Reply τ × List (String × List (Reply τ)))
  | [] => none
  | (hash, replies) :: rest =>
    if asksFor url hash then
      let (reply, replies) := next replies
      some (reply, (hash, replies) :: rest)
    else (nextByHash url rest).map fun found => (found.1, (hash, replies) :: found.2)

/-- Meet a request. -/
def reply (request : Request τ) (s : Script τ) : Reply τ × Script τ :=
  let (reply, s) := match nextByHash request.url s.byHash with
    | some (reply, byHash) => (reply, { s with byHash })
    | none =>
      let (reply, replies) := next s.replies
      (reply, { s with replies })
  (reply, { s with
    now := s.now + reply.advance
    isCancelled := s.isCancelled || reply.cancels || reply.answer.isNone })

/-- Sleep. -/
def sleep (delay : τ) (s : Script τ) : Script τ :=
  { s with
    now := s.now + delay
    naps := s.naps + 1
    isCancelled := s.isCancelled || s.cancelOnNap == some (s.naps + 1) }

/-- Take the next number of a source, which goes to the end of its list. -/
def takeChance (source : Nat) : List (Nat × List τ) → τ × List (Nat × List τ)
  | [] => (0.5, [])
  | (id, chances) :: rest =>
    if id == source then
      match chances with
      | [] => (0.5, (id, []) :: rest)
      | chance :: more => (chance, (id, more ++ [chance]) :: rest)
    else
      let (chance, rest) := takeChance source rest
      (chance, (id, chances) :: rest)

/-- The world that follows its script. -/
def world : World (Script τ) τ where
  send request s :=
    let (reply, s) := s.reply request
    (reply.answer.getD (.failure ⟨.connection, "script exhausted"⟩), s)
  sendWatched request s :=
    let (reply, s) := s.reply request
    (reply.answer, s)
  sleep := sleep
  clock s := (s.now, s)
  cancelled s := (s.isCancelled, s)
  draw source s :=
    let (chance, chances) := takeChance source s.chances
    (chance, { s with chances })

end Script
end GatewayClient
