import InstanceIdentity.Proofs.Collection.Exchanges

/-!
# Signatures

A call for the signature has nothing to do with tokens.  What is remembered, the store and the clock
have no part in it: two collectors of one provider, however different they are, do the same in it as
long as the service answers them alike.  The signature is asked for once, without a token, behind a
token gate too, or not at all when it is part of the metadata.

Main results:

- Theorem `Performs.signature_eq`: what is done for the signature is told by the provider and the
  transport.
- Theorem `Visit.after_of_plain`: plain actions change nothing but the transport and the log.
- Theorem `signature_independent`: two calls for the signature in different worlds.
-/

namespace InstanceIdentity.Collection

open Http (Request Answer Response Transport Script)

/-! ## The call told by the transport -/

section Signature

variable {τ : Type} [Transport τ] (d : Descriptor) (transport : τ)

/-- What is done for the signature. -/
def signatureActions : List Action :=
  match d.signature with
  | .bundled => [.noted ⟨.bundledSignature d.id, [signatureSpan d]⟩]
  | .separate url _ =>
    let answer := (Transport.send (d.getRequest url) transport).1
    .noted ⟨.notCached d.id .signature d.documentCache, [signatureSpan d]⟩ ::
      (exchange d [signatureSpan d] .signature (d.getRequest url) answer ++
        signatureRemarks d [signatureSpan d] url answer)

/-- The signature that comes back. -/
def signature? : Option Document :=
  match d.signature with
  | .bundled => none
  | .separate url contentType =>
    document d .signature contentType (body? (Transport.send (d.getRequest url) transport).1)

theorem allPlain_signatureActions : AllPlain (signatureActions d transport) := by
  unfold signatureActions
  split <;> simp

variable {d transport}

theorem exchanges_of_bundled (h : d.signature = .bundled) :
    (signatureActions d transport).filterMap Action.exchange? = [] := by
  simp [signatureActions, h]

/-- The only request for a signature is one without a token. -/
theorem exchanges_of_separate {url : Url} {contentType : String}
    (h : d.signature = .separate url contentType) :
    (signatureActions d transport).filterMap Action.exchange? =
      [(d.getRequest url, (Transport.send (d.getRequest url) transport).1)] := by
  simp [signatureActions, h]

end Signature

section Steps

variable {σ τ : Type} [TokenStore σ] [Transport τ] {s s' : σ} {t t' : τ} {d : Descriptor}
  {actions : List Action}

/-- What is done for the signature, and what comes back, is told by the provider and the transport.
The remembered token stays. -/
theorem Performs.signature_eq {now : Instant} {held held' : Option SessionToken}
    {result : Except OutOfRange Yield} (h : Performs d now .signature held actions result held')
    (hbacked : Backed s t actions s' t') :
    held' = held ∧ actions = signatureActions d t ∧
      result = .ok (.document (signature? d t)) := by
  cases h with
  | bundled hbundled => simp [signatureActions, signature?, hbundled]
  | separate hseparate answer =>
    cases hbacked with
    | noted hbacked =>
      rw [hbacked.answer_eq]
      simp [signatureActions, signature?, hseparate]

/-- An answer has a body when it is a response of status 200. -/
theorem body?_eq_some_iff {answer : Answer} {body : String} :
    body? answer = some body ↔
      ∃ response, answer = .ok response ∧ response.status = 200 ∧ response.body = body := by
  have hok : ∀ response : Response, response.isOk = true ↔ response.status = 200 := by
    intro response
    exact decide_eq_true_iff
  simp [body?, accepted?_eq_some_iff, hok, and_assoc]

/-- A signature of its own comes back when the request for it is answered with status 200. -/
theorem signature?_eq_some_iff {url : Url} {contentType : String}
    (hseparate : d.signature = .separate url contentType) {found : Document} :
    signature? d t = some found ↔
      ∃ response, (Transport.send (d.getRequest url) t).1 = .ok response ∧
        response.status = 200 ∧ found = ⟨d.id, .signature, contentType, response.body⟩ := by
  simp only [signature?, hseparate, document_eq_some_iff, body?_eq_some_iff]
  constructor
  · rintro ⟨_, ⟨response, hanswer, hstatus, rfl⟩, hfound⟩
    exact ⟨response, hanswer, hstatus, hfound⟩
  · rintro ⟨response, hanswer, hstatus, hfound⟩
    exact ⟨response.body, ⟨response, hanswer, hstatus, rfl⟩, hfound⟩

/-- The transport after some exchanges. -/
def carried (t : τ) (exchanges : List (Request × Answer)) : τ :=
  exchanges.foldl (fun t exchange => (Transport.send exchange.1 t).2) t

/-- Nothing but the exchanges carries the transport on. -/
theorem Backed.transport_eq (h : Backed s t actions s' t') :
    t' = carried t (actions.filterMap Action.exchange?) := by
  induction h with
  | nil => rfl
  | noted _ ih => exact ih
  | counted _ ih => exact ih
  | exchanged _ _ ih => exact ih
  | loaded _ ih => exact ih
  | saved _ _ ih => exact ih

end Steps

/-! ## A visit for the signature -/

section Visits

variable {σ σ' τ : Type} [TokenStore σ] [TokenStore σ'] [Transport τ]

/-- Plain actions change nothing but the transport and the log. -/
theorem Visit.after_of_plain {v : Visit} {d : Descriptor} {world : World σ τ}
    (hplain : AllPlain (v.actions d world))
    (hsession : (v.after d world).session = world.session) :
    v.after d world = { world with
      transport := carried world.transport (v.exchanges d world)
      log := world.log ++ v.actions d world } := by
  have hstore := (v.backed d world).store_eq hplain
  have htransport := (v.backed d world).transport_eq
  have hlog := (v.trace d world).1.log_eq
  generalize v.after d world = after at *
  cases after
  simp_all [Visit.exchanges]

/-- A visit for the signature is told by the provider and the transport. -/
theorem Visit.signature_eq (d : Descriptor) (world : World σ τ) (now : Instant) :
    let v : Visit := ⟨now, .signature⟩
    v.result d world = .ok (.document (signature? d world.transport)) ∧
    v.actions d world = signatureActions d world.transport ∧
    v.after d world = { world with
      transport := carried world.transport
        ((signatureActions d world.transport).filterMap Action.exchange?)
      log := world.log ++ signatureActions d world.transport } := by
  intro v
  obtain ⟨hsession, hactions, hresult⟩ := (v.performs d world).signature_eq (v.backed d world)
  have hafter := Visit.after_of_plain (hactions ▸ allPlain_signatureActions d world.transport)
    hsession
  rw [Visit.exchanges, hactions] at hafter
  exact ⟨hresult, hactions, hafter⟩

/-- What is done in a call for the signature, and what comes back, is told by the provider and the
transport: it is the same whatever the store holds, whichever token is remembered and whatever the
clock shows, and neither the store nor the remembered token is touched.  A signature that is part of
the metadata is not asked for.  Any other is asked for once, without a token, and comes back exactly
when that request is answered with status 200, with the body of the answer. -/
theorem signature_independent (d : Descriptor) (transport : τ) (store : σ) (store' : σ')
    (held held' : Option SessionToken) (log log' : List Action) (now now' : Instant) :
    let world : World σ τ := ⟨store, transport, held, log⟩
    let world' : World σ' τ := ⟨store', transport, held', log'⟩
    let v : Visit := ⟨now, .signature⟩
    let v' : Visit := ⟨now', .signature⟩
    v'.result d world' = v.result d world ∧
    v'.actions d world' = v.actions d world ∧
    (∃ later, v.after d world = ⟨store, later, held, log ++ v.actions d world⟩ ∧
      v'.after d world' = ⟨store', later, held', log' ++ v'.actions d world'⟩) ∧
    AllPlain (v.actions d world) ∧
    (∃ found, v.result d world = .ok (.document found)) ∧
    (d.signature = .bundled →
      v.exchanges d world = [] ∧ v.result d world = .ok (.document none)) ∧
    ∀ url contentType, d.signature = .separate url contentType →
      let request : Request := ⟨.get, url, d.headers.entries⟩
      let answer := (Transport.send request transport).1
      v.exchanges d world = [(request, answer)] ∧
      ∀ found, v.result d world = .ok (.document (some found)) ↔
        ∃ response, answer = .ok response ∧ response.status = 200 ∧
          found = ⟨d.id, .signature, contentType, response.body⟩ := by
  intro world world' v v'
  obtain ⟨hresult, hactions, hafter⟩ := Visit.signature_eq d world now
  obtain ⟨hresult', hactions', hafter'⟩ := Visit.signature_eq d world' now'
  rw [← hactions] at hafter
  rw [← hactions'] at hafter'
  have hsame : v'.actions d world' = v.actions d world := hactions'.trans hactions.symm
  have hplain : AllPlain (v.actions d world) := hactions ▸ allPlain_signatureActions d transport
  refine ⟨hresult'.trans hresult.symm, hsame, ⟨_, hafter, ?_⟩, hplain, ⟨_, hresult⟩, ?_, ?_⟩
  · rw [hafter', hsame]
  · intro hbundled
    rw [Visit.exchanges, hactions, hresult]
    refine ⟨exchanges_of_bundled hbundled, ?_⟩
    simp only [signature?, hbundled]
  · intro url contentType hseparate
    rw [Visit.exchanges, hactions, hresult]
    refine ⟨exchanges_of_separate hseparate, ?_⟩
    intro found
    rw [Except.ok.injEq, Yield.document.injEq]
    exact signature?_eq_some_iff hseparate

/-- Behind a gate too, a signature that is refused is not asked for again. -/
example :
    let d := { Descriptor.linkLocal with
      signature := .separate (Descriptor.linkLocalUrl "/latest/signature") "text/plain" }
    let world : World MemoryStore Script :=
      World.start ⟨some ⟨⟨"stored"⟩, .minute 0⟩⟩ ⟨[.ok ⟨401, ""⟩, .ok ⟨200, "signature"⟩]⟩
    (Visit.exchanges ⟨.minute 5, .signature⟩ d world).map
        (fun exchange => (exchange.1.method, exchange.1.headers)) = [(.get, [])] :=
  rfl

end Visits

end InstanceIdentity.Collection
