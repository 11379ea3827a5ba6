import InstanceIdentity.Collection.Collector

/-!
# The same work over two stores

A collector over one store and one over another do the same but for what the stores bring.  A relation
between work over the first and work over the second that holds for single steps and for the two
operations on the store, and is kept when work is put together, holds for all that a collector does.

Main results:

- Structure `Correspondence`: such relations, with one rule for each kind of step.
- Theorem `Correspondence.perform`: a call over one store corresponds to the same call over the other.
-/

namespace InstanceIdentity.Collection

open Http (Request Transport)
open Diagnostics (Note Span Outcome)

variable {σ σ' τ : Type} [TokenStore σ] [TokenStore σ'] [Transport τ]

/-- A relation that all work of a collector keeps, given that the operations on the store do. -/
structure Correspondence (d : Descriptor) (R : ∀ {α : Type}, Work σ τ α → Work σ' τ α → Prop) :
    Prop where
  pure {α : Type} (a : α) : R (Pure.pure a) (Pure.pure a)
  bind {α β : Type} {work : Work σ τ α} {work' : Work σ' τ α} {next : α → Work σ τ β}
    {next' : α → Work σ' τ β} :
    R work work' → (∀ a, R (next a) (next' a)) → R (work >>= next) (work' >>= next')
  /-- What follows may depend on the remembered token, which is the same in both worlds. -/
  get {β : Type} {next : World σ τ → Work σ τ β} {next' : World σ' τ → Work σ' τ β} :
    (∀ world world', world'.session = world.session → R (next world) (next' world')) →
      R (MonadState.get >>= next) (MonadState.get >>= next')
  /-- Errors are left to the operations on the store. -/
  note (spans : List Span) {note : Note} :
    note.level ≠ .error → R (Work.note spans note) (Work.note spans note)
  count (provider : ProviderId) (target : Target) (outcome : Outcome) :
    R (Work.count provider target outcome) (Work.count provider target outcome)
  remember (token : SessionToken) : R (Work.remember token) (Work.remember token)
  expiry (token : SessionToken) : R (Work.expiry token) (Work.expiry token)
  send (request : Request) : R (Work.send request) (Work.send request)
  storedToken (spans : List Span) (gate : TokenGate) (now : Instant) :
    R (storedToken d spans gate now) (storedToken d spans gate now)
  persist (spans : List Span) (token : SessionToken) :
    R (persist d spans token) (persist d spans token)

namespace Correspondence

variable {d : Descriptor} {R : ∀ {α : Type}, Work σ τ α → Work σ' τ α → Prop}
  (h : Correspondence d R) (spans : List Span)

include h

/-! ## Fetching -/

theorem fetch (target : Target) (request : Request) :
    R (fetch d spans target request) (fetch d spans target request) := by
  refine h.bind (h.note _ nofun) fun _ => h.bind (h.count ..) fun _ => h.bind (h.send request) ?_
  rintro (cause | response)
  · exact h.bind (h.count ..) fun _ => h.pure _
  · by_cases hok : response.isOk = true
    · simp only [hok, if_true]
      exact h.bind (h.count ..) fun _ => h.pure _
    · simp only [hok]
      exact h.bind (h.count ..) fun _ => h.pure _

theorem fetchReported (target : Target) (request : Request) :
    R (fetchReported d spans target request) (fetchReported d spans target request) := by
  refine h.bind (h.fetch spans target request) ?_
  rintro (error | body)
  · exact h.bind (h.note _ nofun) fun _ => h.pure _
  · exact h.pure _

theorem cachedDocument (kind : DocumentKind) :
    R (cachedDocument d spans kind) (cachedDocument d spans kind) :=
  h.bind (h.note _ nofun) fun _ => h.pure _

/-! ## Session tokens -/

theorem rememberedToken (now : Instant) :
    R (rememberedToken spans now) (rememberedToken spans now) := by
  refine h.get fun world world' hsession => ?_
  rw [hsession]
  cases world.session with
  | none => exact h.pure _
  | some token =>
    refine h.bind (h.expiry token) fun expiry => ?_
    by_cases hvalid : now.before expiry = true
    · simp only [hvalid, if_true]
      exact h.bind (h.note _ nofun) fun _ => h.pure _
    · simp only [hvalid]
      exact h.pure _

theorem issuedToken (gate : TokenGate) (now : Instant) :
    R (issuedToken d spans gate now) (issuedToken d spans gate now) := by
  refine h.bind (h.fetch spans .token (d.issueRequest gate)) ?_
  rintro (error | body)
  · exact h.bind (h.note _ nofun) fun _ => h.pure _
  · exact h.bind (h.persist spans _) fun _ => h.pure _

theorem adoptedToken (gate : TokenGate) (now : Instant) :
    R (adoptedToken d spans gate now) (adoptedToken d spans gate now) := by
  refine h.bind (h.storedToken spans gate now) ?_
  rintro (_ | stored)
  · refine h.bind (h.issuedToken spans gate now) ?_
    rintro (_ | issued)
    · exact h.pure _
    · exact h.bind (h.remember issued) fun _ => h.pure _
  · refine h.bind (h.pure _) ?_
    rintro (_ | held)
    · exact h.pure _
    · exact h.bind (h.remember held) fun _ => h.pure _

theorem resolveToken (gate : TokenGate) (now : Instant) :
    R (resolveToken d spans gate now) (resolveToken d spans gate now) := by
  refine h.bind (h.rememberedToken _ now) ?_
  rintro (_ | session)
  · exact h.bind (h.adoptedToken _ gate now) fun _ => h.pure _
  · exact h.pure _

/-! ## Documents -/

theorem gatedMetadata (gate : TokenGate) (now : Instant) :
    R (gatedMetadata d spans gate now) (gatedMetadata d spans gate now) := by
  refine h.bind (h.fetch spans .metadata _) ?_
  rintro (error | body)
  · refine h.bind (h.note _ nofun) fun _ => h.bind (h.resolveToken spans gate now) ?_
    rintro (_ | secret)
    · exact h.pure _
    · exact h.fetchReported spans .metadata _
  · exact h.pure _

theorem gatedSignature (url : Url) :
    R (gatedSignature d spans url) (gatedSignature d spans url) := by
  refine h.bind (h.fetch spans .signature _) ?_
  rintro (error | body)
  · exact h.bind (h.note _ nofun) fun _ => h.bind (h.note _ nofun) fun _ => h.pure _
  · exact h.pure _

theorem getMetadata (now : Instant) : R (getMetadata d now) (getMetadata d now) := by
  refine h.bind (h.cachedDocument _ .metadata) ?_
  rintro (_ | document)
  · cases d.protocol with
    | singlePhase => exact h.bind (h.fetchReported _ .metadata _) fun _ => h.pure _
    | tokenGated gate => exact h.bind (h.gatedMetadata _ gate now) fun _ => h.pure _
  · exact h.pure _

theorem getSignature : R (getSignature d) (getSignature d) := by
  unfold Collection.getSignature
  cases d.signature with
  | bundled => exact h.bind (h.note _ nofun) fun _ => h.pure _
  | separate url contentType =>
    refine h.bind (h.cachedDocument _ .signature) ?_
    rintro (_ | document)
    · cases d.protocol with
      | singlePhase => exact h.bind (h.fetchReported _ .signature _) fun _ => h.pure _
      | tokenGated gate => exact h.bind (h.gatedSignature _ url) fun _ => h.pure _
    · exact h.pure _

theorem getToken (now : Instant) : R (getToken d now) (getToken d now) := by
  unfold Collection.getToken
  cases d.gate? with
  | none => exact h.pure _
  | some gate => exact h.resolveToken [] gate now

/-! ## Calls -/

/-- A call over one store corresponds to the same call over the other. -/
theorem perform (now : Instant) (call : Call) : R (perform d now call) (perform d now call) := by
  cases call with
  | metadata => exact h.bind (h.getMetadata now) fun _ => h.pure _
  | signature => exact h.bind h.getSignature fun _ => h.pure _
  | token => exact h.bind (h.getToken now) fun _ => h.pure _

end Correspondence

end InstanceIdentity.Collection
