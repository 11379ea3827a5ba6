import InstanceIdentity.Token.Session

/-!
# Token stores

A store keeps at most one token.  It never judges whether the token is still valid; whoever loads it
does.
-/

namespace InstanceIdentity

/-- Why a store failed. -/
inductive StoreError where
  /-- The stored payload could not be read or written. -/
  | serialization (message : String)
  /-- The stored time of creation is no supported instant. -/
  | invalidTimestamp (value : String)
  /-- The medium failed. -/
  | backend (message : String)
  deriving DecidableEq

namespace StoreError

/-- The wording of a failure. -/
def message : StoreError → String
  | .serialization message => "Serialization error: " ++ message ++ "."
  | .invalidTimestamp value => "Invalid token timestamp: " ++ value ++ "."
  | .backend message => "Backend failure: " ++ message ++ "."

open Json (Shape Fields)

/-- The layout of a failure. -/
def shape : Shape StoreError :=
  (Shape.keyed "enum StoreError" <|
    .alternative "Serialization" "struct variant StoreError::Serialization"
      (.field "message" .refused .plainText .done) <|
    .alternative "InvalidTimestamp" "struct variant StoreError::InvalidTimestamp"
      (.field "value" .refused .plainText .done) <|
    .alternative "Backend" "struct variant StoreError::Backend"
      (.field "message" .refused .plainText .done) .nil).via
    (fun
      | .inl (message, ()) => .serialization message
      | .inr (.inl (value, ())) => .invalidTimestamp value
      | .inr (.inr (.inl (message, ()))) => .backend message)
    (fun
      | .serialization message => .inl (message, ())
      | .invalidTimestamp value => .inr (.inl (value, ()))
      | .backend message => .inr (.inr (.inl (message, ()))))

end StoreError

/-- A state that holds a token.  Loading may change the state too: nothing is assumed of it. -/
class TokenStore (σ : Type) where
  load : σ → Except StoreError (Option CachedToken) × σ
  save : CachedToken → σ → Except StoreError Unit × σ

/-- A store in memory. -/
structure MemoryStore where
  cell : Option CachedToken := none
  deriving DecidableEq

instance : TokenStore MemoryStore where
  load store := (.ok store.cell, store)
  save token _ := (.ok (), ⟨some token⟩)

/-- Handles on stores in memory; several handles may share one. -/
structure SharedStores where
  cells : List MemoryStore
  handles : List Nat

namespace SharedStores

/-- One handle on one store. -/
def start (store : MemoryStore) : SharedStores := ⟨[store], [0]⟩

/-- The store behind a handle. -/
def store? (shared : SharedStores) (handle : Nat) : Option MemoryStore :=
  shared.handles[handle]?.bind fun cell => shared.cells[cell]?

/-- Saves a token through a handle. -/
def save (shared : SharedStores) (handle : Nat) (token : CachedToken) : SharedStores :=
  match shared.handles[handle]? with
  | some cell => { shared with cells := shared.cells.modify cell fun s => (TokenStore.save token s).2 }
  | none => shared

/-- A new handle on the store of another. -/
def share (shared : SharedStores) (handle : Nat) : SharedStores :=
  { shared with handles := shared.handles ++ (shared.handles[handle]?).toList }

/-- A handle on a new store. -/
def add (shared : SharedStores) : SharedStores :=
  ⟨shared.cells ++ [({} : MemoryStore)], shared.handles ++ [shared.cells.length]⟩

end SharedStores

end InstanceIdentity
