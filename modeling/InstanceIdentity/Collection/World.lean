import InstanceIdentity.Diagnostics.Event

/-!
# The world of a collector

A collector works on a token store and a transport, of which nothing is assumed, remembers a session
token, and leaves a log of everything it does: requests with their answers, uses of the store, events
and counts, all in one order.
-/

namespace InstanceIdentity.Collection

open Http (Request Answer Transport)
open Diagnostics (Event Count Note Span Outcome)

/-- One thing that a collector has done. -/
inductive Action where
  | noted (event : Event)
  | counted (count : Count)
  | exchanged (request : Request) (answer : Answer)
  | loaded (outcome : Except StoreError (Option CachedToken))
  | saved (token : CachedToken) (outcome : Except StoreError Unit)

namespace Action

/-- The event of an action. -/
def event? : Action → Option Event
  | .noted event => some event
  | _ => none

/-- The increment of an action. -/
def count? : Action → Option Count
  | .counted count => some count
  | _ => none

/-- The request of an action. -/
def request? : Action → Option Request
  | .exchanged request _ => some request
  | _ => none

end Action

/-- What a collector works on. -/
structure World (σ τ : Type) where
  store : σ
  transport : τ
  /-- The token that the collector remembers, valid or not. -/
  session : Option SessionToken := none
  log : List Action := []

namespace World

variable {σ τ : Type}

/-- The events in the log. -/
def events (world : World σ τ) : List Event := world.log.filterMap Action.event?

/-- The increments in the log. -/
def counts (world : World σ τ) : List Count := world.log.filterMap Action.count?

/-- The requests in the log. -/
def requests (world : World σ τ) : List Request := world.log.filterMap Action.request?

/-- The world with one more action in its log. -/
def record (world : World σ τ) (action : Action) : World σ τ :=
  { world with log := world.log ++ [action] }

end World

/-- The end of a token's life is no supported instant. -/
inductive OutOfRange where
  | expiry
  deriving DecidableEq

/-- The wording of an instant out of range. -/
def OutOfRange.message : OutOfRange → String
  | .expiry => "resulting value is out of range"

/-- Work of a collector.  What was done before an instant went out of range stays done. -/
abbrev Work (σ τ α : Type) := ExceptT OutOfRange (StateM (World σ τ)) α

namespace Work

variable {σ τ : Type}

/-- Reports an event inside spans. -/
def note (spans : List Span) (note : Note) : Work σ τ Unit :=
  modify fun world => world.record (.noted ⟨note, spans⟩)

/-- Counts an outcome. -/
def count (provider : ProviderId) (target : Target) (outcome : Outcome) : Work σ τ Unit :=
  modify fun world => world.record (.counted ⟨provider, target, outcome⟩)

/-- Sends a request. -/
def send [Transport τ] (request : Request) : Work σ τ Answer :=
  modifyGet fun world =>
    let (answer, transport) := Transport.send request world.transport
    (answer, { world with transport }.record (.exchanged request answer))

/-- Loads the stored token. -/
def load [TokenStore σ] : Work σ τ (Except StoreError (Option CachedToken)) :=
  modifyGet fun world =>
    let (outcome, store) := TokenStore.load world.store
    (outcome, { world with store }.record (.loaded outcome))

/-- Saves a token. -/
def save [TokenStore σ] (token : CachedToken) : Work σ τ (Except StoreError Unit) :=
  modifyGet fun world =>
    let (outcome, store) := TokenStore.save token world.store
    (outcome, { world with store }.record (.saved token outcome))

/-- Remembers a token. -/
def remember (session : SessionToken) : Work σ τ Unit :=
  modify fun world => { world with session := some session }

/-- The end of a token's life. -/
def expiry (session : SessionToken) : Work σ τ Instant :=
  match session.expiresAt? with
  | some t => return t
  | none => throw .expiry

end Work

end InstanceIdentity.Collection
