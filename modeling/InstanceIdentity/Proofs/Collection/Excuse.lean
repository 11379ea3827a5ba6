import InstanceIdentity.Proofs.Collection.Trace

/-!
# Excused stores

A store excuses another when it has the same outcomes, except that a load that fails there brings
nothing here and a save that fails there succeeds here.  What is compared are runs over the one and
over the other.  Their logs differ where a use of the store fails and nowhere else, and how they
differ there is told by the relation `Excused`.  Work that keeps worlds in this relation and brings
the same results is coupled.

Main results:

- Theorem `Excuses.lenient`: every store is excused by a lenient one.
- Theorem `Excused.errors`: the errors in a log are the failures of the store, one for one.
- Theorem `Coupled.bind`: pieces of work that are coupled can be put together.
-/

namespace InstanceIdentity

/-! ## Lenient stores -/

/-- A load that fails brings nothing instead. -/
def excusedLoad (outcome : Except StoreError (Option CachedToken)) :
    Except StoreError (Option CachedToken) :=
  match outcome with
  | .ok found => .ok found
  | .error _ => .ok none

/-- A store that hides the failures of another. -/
structure Lenient (σ : Type) where
  inner : σ

instance lenientStore {σ : Type} [TokenStore σ] : TokenStore (Lenient σ) where
  load store := (excusedLoad (TokenStore.load store.inner).1, ⟨(TokenStore.load store.inner).2⟩)
  save token store := (.ok (), ⟨(TokenStore.save token store.inner).2⟩)

/-- The second state of a store excuses the first: however both are used from now on, in the same
way, the outcomes are the same, except that failures are hidden. -/
def Excuses {σ σ' : Type} [TokenStore σ] [TokenStore σ'] (s : σ) (s' : σ') : Prop :=
  ∃ R : σ → σ' → Prop, R s s' ∧ ∀ s s', R s s' →
    ((TokenStore.load s').1 = excusedLoad (TokenStore.load s).1 ∧
      R (TokenStore.load s).2 (TokenStore.load s').2) ∧
    ∀ token : CachedToken, (TokenStore.save token s').1 = .ok () ∧
      R (TokenStore.save token s).2 (TokenStore.save token s').2

namespace Excuses

variable {σ σ' : Type} [TokenStore σ] [TokenStore σ'] {s : σ} {s' : σ'}

theorem load (h : Excuses s s') :
    (TokenStore.load s').1 = excusedLoad (TokenStore.load s).1 ∧
      Excuses (TokenStore.load s).2 (TokenStore.load s').2 := by
  obtain ⟨R, hstates, hkept⟩ := h
  obtain ⟨hload, hafter⟩ := (hkept s s' hstates).1
  exact ⟨hload, R, hafter, hkept⟩

theorem save (h : Excuses s s') (token : CachedToken) :
    (TokenStore.save token s').1 = .ok () ∧
      Excuses (TokenStore.save token s).2 (TokenStore.save token s').2 := by
  obtain ⟨R, hstates, hkept⟩ := h
  obtain ⟨hsave, hafter⟩ := (hkept s s' hstates).2 token
  exact ⟨hsave, R, hafter, hkept⟩

/-- Every store is excused by a lenient one. -/
theorem lenient (s : σ) : Excuses s (Lenient.mk s) := by
  refine ⟨fun s s' => s'.inner = s, rfl, ?_⟩
  rintro s ⟨_⟩ rfl
  exact ⟨⟨rfl, rfl⟩, fun token => ⟨rfl, rfl⟩⟩

end Excuses

namespace Collection

open Http (Request Answer Transport)
open Diagnostics (Note Span Outcome)

/-! ## Excused logs -/

/-- The error that reports a failure of the store. -/
def Action.failure? (d : Descriptor) : Action → Option Note
  | .loaded (.error error) => some (.storeUnreadable d.id error)
  | .saved _ (.error error) => some (.tokenNotStored d.id error)
  | _ => none

/-- The error that an action reports. -/
def Action.error? : Action → Option Note
  | .noted event => if event.note.level = .error then some event.note else none
  | _ => none

/-- The errors that were reported. -/
def World.errors {σ τ : Type} (world : World σ τ) : List Note := world.log.filterMap Action.error?

/-- An action in which the store does not fail and no error is reported. -/
structure Calm (d : Descriptor) (action : Action) : Prop where
  noFailure : action.failure? d = none
  noError : action.error? = none

/-- Two logs are the same except where a use of the store fails in the first.  A load that fails is
followed by an error, and brings nothing in the second.  A save that fails is followed by an error in
place of the note that the token was stored. -/
inductive Excused (d : Descriptor) : List Action → List Action → Prop where
  | nil : Excused d [] []
  | calm {action : Action} {rest rest' : List Action} (calm : Calm d action)
      (tail : Excused d rest rest') : Excused d (action :: rest) (action :: rest')
  | load {rest rest' : List Action} (error : StoreError) (spans : List Span)
      (tail : Excused d rest rest') :
      Excused d
        (.loaded (.error error) :: .noted ⟨.storeUnreadable d.id error, spans⟩ :: rest)
        (.loaded (.ok none) :: rest')
  | save {rest rest' : List Action} (token : CachedToken) (error : StoreError) (spans : List Span)
      (tail : Excused d rest rest') :
      Excused d
        (.saved token (.error error) :: .noted ⟨.tokenNotStored d.id error, spans⟩ :: rest)
        (.saved token (.ok ()) :: .noted ⟨.tokenStored d.id token.secret.fingerprint, spans⟩ :: rest')

namespace Excused

variable {d : Descriptor} {first second first' second' : List Action}

theorem append (hfirst : Excused d first first') (hsecond : Excused d second second') :
    Excused d (first ++ second) (first' ++ second') := by
  induction hfirst with
  | nil => exact hsecond
  | calm hcalm _ ih => exact .calm hcalm ih
  | load error spans _ ih => exact .load error spans ih
  | save token error spans _ ih => exact .save token error spans ih

/-- A view that shows neither notes nor uses of the store shows the same of both. -/
theorem filterMap_eq {α : Type} {view : Action → Option α} (h : Excused d first second)
    (hnoted : ∀ event, view (.noted event) = none) (hloaded : ∀ outcome, view (.loaded outcome) = none)
    (hsaved : ∀ token outcome, view (.saved token outcome) = none) :
    first.filterMap view = second.filterMap view := by
  induction h with
  | nil => rfl
  | @calm action rest rest' hcalm htail ih => simp only [List.filterMap_cons, ih]
  | load error spans htail ih => simp only [List.filterMap_cons, hnoted, hloaded, ih]
  | save token error spans htail ih => simp only [List.filterMap_cons, hnoted, hsaved, ih]

/-- The errors in the first log are the failures of the store, one for one and in order, and there
are none in the second. -/
theorem errors (h : Excused d first second) :
    first.filterMap Action.error? = first.filterMap (Action.failure? d) ∧
      second.filterMap Action.error? = [] := by
  induction h with
  | nil => exact ⟨rfl, rfl⟩
  | calm hcalm htail ih =>
    obtain ⟨hfirst, hsecond⟩ := ih
    simp only [List.filterMap_cons, hcalm.noFailure, hcalm.noError]
    exact ⟨hfirst, hsecond⟩
  | load error spans htail ih =>
    obtain ⟨hfirst, hsecond⟩ := ih
    exact ⟨congrArg (Note.storeUnreadable d.id error :: ·) hfirst, hsecond⟩
  | save token error spans htail ih =>
    obtain ⟨hfirst, hsecond⟩ := ih
    exact ⟨congrArg (Note.tokenNotStored d.id error :: ·) hfirst, hsecond⟩

end Excused

/-! ## Coupled work -/

section Coupling

variable {σ σ' τ α β : Type} [TokenStore σ] [TokenStore σ'] {d : Descriptor}

/-- The store of the second world excuses that of the first, the logs show it, and all else is the
same. -/
structure Covers (d : Descriptor) (world : World σ τ) (world' : World σ' τ) : Prop where
  stores : Excuses world.store world'.store
  transport : world'.transport = world.transport
  session : world'.session = world.session
  logs : Excused d world.log world'.log

theorem Covers.record {world : World σ τ} {world' : World σ' τ} (h : Covers d world world')
    {action : Action} (hcalm : Calm d action) :
    Covers d (world.record action) (world'.record action) :=
  { h with logs := h.logs.append (.calm hcalm .nil) }

/-- Two pieces of work bring the same result and keep worlds in which the store of the second excuses
that of the first. -/
structure Coupled (d : Descriptor) (work : Work σ τ α) (work' : Work σ' τ α) : Prop where
  covers : ∀ {world : World σ τ} {world' : World σ' τ}, Covers d world world' →
    (work.exec world).1 = (work'.exec world').1 ∧ Covers d (work.exec world).2 (work'.exec world').2

namespace Coupled

variable {work : Work σ τ α} {work' : Work σ' τ α} {next : α → Work σ τ β}
  {next' : α → Work σ' τ β}

theorem pure (a : α) : Coupled d (Pure.pure a : Work σ τ α) (Pure.pure a : Work σ' τ α) :=
  ⟨fun hcovers => ⟨rfl, hcovers⟩⟩

theorem bind (hwork : Coupled d work work') (hnext : ∀ a, Coupled d (next a) (next' a)) :
    Coupled d (work >>= next) (work' >>= next') where
  covers := by
    intro world world' hcovers
    obtain ⟨hresult, hafter⟩ := hwork.covers hcovers
    rcases hexec : work.exec world with ⟨result, after⟩
    rcases hexec' : work'.exec world' with ⟨result', after'⟩
    rw [hexec, hexec'] at hresult hafter
    cases hresult
    cases result with
    | error e =>
      rw [Work.exec_bind_error hexec, Work.exec_bind_error hexec']
      exact ⟨rfl, hafter⟩
    | ok a =>
      rw [Work.exec_bind_ok hexec, Work.exec_bind_ok hexec']
      exact (hnext a).covers hafter

/-! The single steps of work. -/

/-- What follows may depend on the remembered token, which is the same in both worlds. -/
theorem get {next : World σ τ → Work σ τ β} {next' : World σ' τ → Work σ' τ β}
    (hnext : ∀ world world', world'.session = world.session → Coupled d (next world) (next' world')) :
    Coupled d (MonadState.get >>= next) (MonadState.get >>= next') :=
  ⟨fun {world world'} hcovers => (hnext world world' hcovers.session).covers hcovers⟩

theorem note (spans : List Span) {note : Note} (hlevel : note.level ≠ .error) :
    Coupled d (Work.note spans note : Work σ τ Unit) (Work.note spans note : Work σ' τ Unit) :=
  ⟨fun hcovers => ⟨rfl, hcovers.record ⟨rfl, if_neg hlevel⟩⟩⟩

theorem count (provider : ProviderId) (target : Target) (outcome : Outcome) :
    Coupled d (Work.count provider target outcome : Work σ τ Unit)
      (Work.count provider target outcome : Work σ' τ Unit) :=
  ⟨fun hcovers => ⟨rfl, hcovers.record ⟨rfl, rfl⟩⟩⟩

theorem remember (token : SessionToken) :
    Coupled d (Work.remember token : Work σ τ Unit) (Work.remember token : Work σ' τ Unit) :=
  ⟨fun hcovers => ⟨rfl, { hcovers with session := rfl }⟩⟩

theorem expiry (token : SessionToken) :
    Coupled d (Work.expiry token : Work σ τ Instant) (Work.expiry token : Work σ' τ Instant) := by
  unfold Work.expiry
  cases token.expiresAt? with
  | some expiry => exact .pure expiry
  | none => exact ⟨fun hcovers => ⟨rfl, hcovers⟩⟩

theorem send [Transport τ] (request : Request) :
    Coupled d (Work.send request : Work σ τ Answer) (Work.send request : Work σ' τ Answer) where
  covers := by
    intro world world' hcovers
    rw [Work.exec_send, Work.exec_send, hcovers.transport]
    have hsent : Covers d { world with transport := (Transport.send request world.transport).2 }
        { world' with transport := (Transport.send request world.transport).2 } :=
      { hcovers with transport := rfl }
    exact ⟨rfl, hsent.record ⟨rfl, rfl⟩⟩

/-- On a load that fails the first work reports it and then goes on as the second does when nothing
is stored. -/
theorem load {next : Except StoreError (Option CachedToken) → Work σ τ β}
    {next' : Except StoreError (Option CachedToken) → Work σ' τ β} (spans : List Span)
    {rest : Work σ τ β} (hrest : Coupled d rest (next' (.ok none)))
    (hfailed : ∀ error, next (.error error) =
      Work.note spans (.storeUnreadable d.id error) >>= fun _ => rest)
    (hok : ∀ found, Coupled d (next (.ok found)) (next' (.ok found))) :
    Coupled d (Work.load >>= next) (Work.load >>= next') where
  covers := by
    intro world world' hcovers
    obtain ⟨hload, hstores⟩ := hcovers.stores.load
    rw [Work.exec_bind_ok Work.exec_load, Work.exec_bind_ok Work.exec_load, hload]
    have hloaded : Covers d { world with store := (TokenStore.load world.store).2 }
        { world' with store := (TokenStore.load world'.store).2 } :=
      { hcovers with stores := hstores }
    cases (TokenStore.load world.store).1 with
    | ok found => exact (hok found).covers (hloaded.record ⟨rfl, rfl⟩)
    | error error =>
      rw [hfailed, Work.exec_bind_ok Work.exec_note]
      refine hrest.covers { hloaded with logs := ?_ }
      have hlogs := hloaded.logs.append (.load error spans .nil)
      simpa [World.record, excusedLoad] using hlogs

/-- A save with the note that follows it: the first work reports a failure where the second reports
that the token was stored. -/
theorem save {next : Except StoreError Unit → Work σ τ Unit}
    {next' : Except StoreError Unit → Work σ' τ Unit} (spans : List Span) (token : CachedToken)
    (hfailed : ∀ error, next (.error error) = Work.note spans (.tokenNotStored d.id error))
    (hok : next (.ok ()) = Work.note spans (.tokenStored d.id token.secret.fingerprint))
    (hok' : next' (.ok ()) = Work.note spans (.tokenStored d.id token.secret.fingerprint)) :
    Coupled d (Work.save token >>= next) (Work.save token >>= next') where
  covers := by
    intro world world' hcovers
    obtain ⟨hsave, hstores⟩ := hcovers.stores.save token
    rw [Work.exec_bind_ok Work.exec_save, Work.exec_bind_ok Work.exec_save, hsave, hok']
    have hsaved : Covers d { world with store := (TokenStore.save token world.store).2 }
        { world' with store := (TokenStore.save token world'.store).2 } :=
      { hcovers with stores := hstores }
    cases (TokenStore.save token world.store).1 with
    | ok done =>
      rw [hok]
      exact ⟨rfl, (hsaved.record ⟨rfl, rfl⟩).record ⟨rfl, rfl⟩⟩
    | error error =>
      rw [hfailed]
      refine ⟨rfl, { hsaved with logs := ?_ }⟩
      have hlogs := hsaved.logs.append (.save token error spans .nil)
      simpa [Work.exec_note, World.record] using hlogs

end Coupled

end Coupling

end Collection

end InstanceIdentity
