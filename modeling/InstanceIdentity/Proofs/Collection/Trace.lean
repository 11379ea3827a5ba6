import InstanceIdentity.Collection.Collector

/-!
# Traces of work

A trace is one run of some work: the world before, the actions that were added to the log, the
result and the world after.  The traces of composed work are composed from the traces of its parts,
so that the way of an operation through its branches is followed part by part.

The store and the transport enter a trace only through the outcomes of loads, saves and exchanges.
That these outcomes are the ones that the store and the transport give is the relation `Backed`,
which is stated once and holds of every trace.

Main results:

- Theorem `Trace.bind`: the actions of composed work are those of its parts, one after the other.
- Theorem `Backed.append`: so are the states of the store and the transport.
-/

namespace InstanceIdentity.Collection

open Http (Request Answer Transport)
open Diagnostics (Note Span Outcome)

variable {σ τ α β : Type}

/-! ## Running work -/

/-- What work brings in a world, and the world after it. -/
def Work.exec (work : Work σ τ α) (world : World σ τ) : Except OutOfRange α × World σ τ :=
  work.run world

theorem Work.exec_bind_ok {work : Work σ τ α} {next : α → Work σ τ β} {world after : World σ τ}
    {a : α} (h : work.exec world = (.ok a, after)) :
    (work >>= next).exec world = (next a).exec after := by
  change work.run world = _ at h
  change (ExceptT.run work >>= ExceptT.bindCont next) world = _
  change ExceptT.bindCont next (work.run world).1 (work.run world).2 = _
  rw [h]
  rfl

theorem Work.exec_bind_error {work : Work σ τ α} {next : α → Work σ τ β} {world after : World σ τ}
    {e : OutOfRange} (h : work.exec world = (.error e, after)) :
    (work >>= next).exec world = (.error e, after) := by
  change work.run world = _ at h
  change ExceptT.bindCont next (work.run world).1 (work.run world).2 = _
  rw [h]
  rfl

theorem Work.exec_note {spans : List Span} {note : Note} {world : World σ τ} :
    (Work.note spans note).exec world = (.ok (), world.record (.noted ⟨note, spans⟩)) :=
  rfl

theorem Work.exec_send [Transport τ] {request : Request} {world : World σ τ} :
    (Work.send request).exec world = (.ok (Transport.send request world.transport).1,
      { world with transport := (Transport.send request world.transport).2 }.record
        (.exchanged request (Transport.send request world.transport).1)) :=
  rfl

theorem Work.exec_load [TokenStore σ] {world : World σ τ} :
    Work.load.exec world = (.ok (TokenStore.load world.store).1,
      { world with store := (TokenStore.load world.store).2 }.record
        (.loaded (TokenStore.load world.store).1)) :=
  rfl

theorem Work.exec_save [TokenStore σ] {token : CachedToken} {world : World σ τ} :
    (Work.save token).exec world = (.ok (TokenStore.save token world.store).1,
      { world with store := (TokenStore.save token world.store).2 }.record
        (.saved token (TokenStore.save token world.store).1)) :=
  rfl

/-! ## Outcomes of the store and the transport -/

section Backed

variable [TokenStore σ] [Transport τ]

/-- The outcomes in a list of actions are those that a store and a transport give, which are in a
new state afterwards. -/
inductive Backed : σ → τ → List Action → σ → τ → Prop where
  | nil {s : σ} {t : τ} : Backed s t [] s t
  | noted {s s' : σ} {t t' : τ} {rest : List Action} {event : Diagnostics.Event} :
      Backed s t rest s' t' → Backed s t (.noted event :: rest) s' t'
  | counted {s s' : σ} {t t' : τ} {rest : List Action} {count : Diagnostics.Count} :
      Backed s t rest s' t' → Backed s t (.counted count :: rest) s' t'
  | exchanged {s s' : σ} {t t' : τ} {rest : List Action} (request : Request) :
      Backed s (Transport.send request t).2 rest s' t' →
      Backed s t (.exchanged request (Transport.send request t).1 :: rest) s' t'
  | loaded {s s' : σ} {t t' : τ} {rest : List Action} :
      Backed (TokenStore.load s).2 t rest s' t' →
      Backed s t (.loaded (TokenStore.load s).1 :: rest) s' t'
  | saved {s s' : σ} {t t' : τ} {rest : List Action} (token : CachedToken) :
      Backed (TokenStore.save token s).2 t rest s' t' →
      Backed s t (.saved token (TokenStore.save token s).1 :: rest) s' t'

/-- Actions one after the other carry the store and the transport on. -/
theorem Backed.append {s s' s'' : σ} {t t' t'' : τ} {first second : List Action}
    (hfirst : Backed s t first s' t') (hsecond : Backed s' t' second s'' t'') :
    Backed s t (first ++ second) s'' t'' := by
  induction hfirst with
  | nil => exact hsecond
  | noted _ ih => exact .noted (ih hsecond)
  | counted _ ih => exact .counted (ih hsecond)
  | exchanged request _ ih => exact .exchanged request (ih hsecond)
  | loaded _ ih => exact .loaded (ih hsecond)
  | saved token _ ih => exact .saved token (ih hsecond)

/-! ## Traces -/

/-- One run of some work. -/
structure Trace (work : Work σ τ α) (before : World σ τ) (actions : List Action)
    (result : Except OutOfRange α) (after : World σ τ) : Prop where
  exec_eq : work.exec before = (result, after)
  log_eq : after.log = before.log ++ actions
  backed : Backed before.store before.transport actions after.store after.transport

namespace Trace

variable {before middle after : World σ τ} {first second : List Action}

theorem pure (a : α) : Trace (pure a : Work σ τ α) before [] (.ok a) before where
  exec_eq := rfl
  log_eq := (List.append_nil _).symm
  backed := .nil

/-- Work after work: the actions of both. -/
theorem bind {work : Work σ τ α} {next : α → Work σ τ β} {a : α} {result : Except OutOfRange β}
    (hwork : Trace work before first (.ok a) middle)
    (hnext : Trace (next a) middle second result after) :
    Trace (work >>= next) before (first ++ second) result after where
  exec_eq := (Work.exec_bind_ok hwork.exec_eq).trans hnext.exec_eq
  log_eq := by rw [hnext.log_eq, hwork.log_eq, List.append_assoc]
  backed := hwork.backed.append hnext.backed

/-- Nothing follows work in which an instant went out of range. -/
theorem bind_error {work : Work σ τ α} {next : α → Work σ τ β} {e : OutOfRange}
    (hwork : Trace work before first (.error e) after) :
    Trace (work >>= next) before first (.error e) after where
  exec_eq := Work.exec_bind_error hwork.exec_eq
  log_eq := hwork.log_eq
  backed := hwork.backed

/-- A result that is handed on in another form. -/
theorem map {work : Work σ τ α} {result : Except OutOfRange α} (f : α → β)
    (hwork : Trace work before first result after) :
    Trace (do return f (← work)) before first (result.map f) after := by
  cases result with
  | ok a =>
    have hbind : Trace (work >>= fun a => Pure.pure (f a)) before (first ++ []) (.ok (f a)) after :=
      hwork.bind (.pure (f a))
    rwa [List.append_nil] at hbind
  | error e => exact hwork.bind_error

/-! The traces of the single steps of work. -/

theorem get : Trace (MonadState.get : Work σ τ (World σ τ)) before [] (.ok before) before where
  exec_eq := rfl
  log_eq := (List.append_nil _).symm
  backed := .nil

theorem note (spans : List Span) (note : Note) :
    Trace (Work.note spans note) before [.noted ⟨note, spans⟩] (.ok ())
      (before.record (.noted ⟨note, spans⟩)) where
  exec_eq := rfl
  log_eq := rfl
  backed := .noted .nil

theorem count (provider : ProviderId) (target : Target) (outcome : Outcome) :
    Trace (Work.count provider target outcome) before [.counted ⟨provider, target, outcome⟩]
      (.ok ()) (before.record (.counted ⟨provider, target, outcome⟩)) where
  exec_eq := rfl
  log_eq := rfl
  backed := .counted .nil

theorem send (request : Request) :
    Trace (Work.send request) before
      [.exchanged request (Transport.send request before.transport).1]
      (.ok (Transport.send request before.transport).1) ((Work.send request).exec before).2 where
  exec_eq := rfl
  log_eq := rfl
  backed := .exchanged request .nil

theorem load :
    Trace Work.load before [.loaded (TokenStore.load before.store).1]
      (.ok (TokenStore.load before.store).1) (Work.load.exec before).2 where
  exec_eq := rfl
  log_eq := rfl
  backed := .loaded .nil

theorem save (token : CachedToken) :
    Trace (Work.save token) before [.saved token (TokenStore.save token before.store).1]
      (.ok (TokenStore.save token before.store).1) ((Work.save token).exec before).2 where
  exec_eq := rfl
  log_eq := rfl
  backed := .saved token .nil

theorem remember (session : SessionToken) :
    Trace (Work.remember session) before [] (.ok ()) { before with session := some session } where
  exec_eq := rfl
  log_eq := (List.append_nil _).symm
  backed := .nil

end Trace

/-! ## Laws of work -/

/-- A run of some work keeps to a law on its actions, its result and the token that is remembered
afterwards. -/
def Obeys (work : Work σ τ α) (before : World σ τ)
    (law : List Action → Except OutOfRange α → Option SessionToken → Prop) : Prop :=
  ∃ actions result after, Trace work before actions result after ∧ law actions result after.session

namespace Obeys

variable {before middle : World σ τ} {first : List Action}

theorem pure {a : α} {law : List Action → Except OutOfRange α → Option SessionToken → Prop}
    (hlaw : law [] (.ok a) before.session) : Obeys (pure a) before law :=
  ⟨_, _, _, .pure a, hlaw⟩

/-- What follows on a first piece of work has to complete the law. -/
theorem bind {work : Work σ τ α} {next : α → Work σ τ β} {a : α}
    {law : List Action → Except OutOfRange β → Option SessionToken → Prop}
    (hwork : Trace work before first (.ok a) middle)
    (hnext : Obeys (next a) middle fun actions => law (first ++ actions)) :
    Obeys (work >>= next) before law := by
  obtain ⟨actions, result, after, htrace, hlaw⟩ := hnext
  exact ⟨_, _, _, hwork.bind htrace, hlaw⟩

theorem bind_error {work : Work σ τ α} {next : α → Work σ τ β} {e : OutOfRange}
    {law : List Action → Except OutOfRange β → Option SessionToken → Prop}
    (hwork : Trace work before first (.error e) middle)
    (hlaw : law first (.error e) middle.session) :
    Obeys (work >>= next) before law :=
  ⟨_, _, _, hwork.bind_error, hlaw⟩

end Obeys

end Backed

end InstanceIdentity.Collection
