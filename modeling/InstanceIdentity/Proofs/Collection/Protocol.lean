import InstanceIdentity.Proofs.Collection.Resolution

/-!
# The protocol of a collector

Every way through a call on a collector, as a rule of the relation `Performs` between the token that
is remembered before, the actions, the result and the token that is remembered after.

Main results:

- Theorem `gatedMetadata_obeys`: behind a token gate the metadata is asked for without a token, and on a
  refusal once more with the token that was resolved, if one was.
- Theorem `perform_obeys`: every call follows the protocol.
-/

namespace InstanceIdentity.Collection

open Http (Request Answer Response Transport)
open Diagnostics (Span)

variable {σ τ : Type} (d : Descriptor) (spans : List Span)

/-! ## Fetching documents -/

/-- The actions of asking for the metadata without a token, in vain, and of what follows. -/
def refusedFirst (answer : Answer) (rest : List Action) : List Action :=
  exchange d spans .metadata (d.getRequest d.endpoints.metadata) answer ++
    .noted ⟨.metadataRefused d.id (refusal d .metadata (d.getRequest d.endpoints.metadata) answer),
      spans⟩ :: rest

theorem refusedFirst_append {answer : Answer} {first second : List Action} :
    refusedFirst d spans answer (first ++ second) =
      refusedFirst d spans answer first ++ second := by
  simp [refusedFirst]

/-- The ways to the metadata behind a token gate: without a token, else with one. -/
inductive Unlocks (gate : TokenGate) (now : Instant) :
    Option SessionToken → List Action → Except OutOfRange (Option String) →
      Option SessionToken → Prop where
  | opened {held : Option SessionToken} {response : Response} (accepted : response.isOk = true) :
      Unlocks gate now held
        (exchange d spans .metadata (d.getRequest d.endpoints.metadata) (.ok response))
        (.ok (some response.body)) held
  | failed {held held' : Option SessionToken} {answer : Answer} {actions : List Action}
      {e : OutOfRange} (refused : Http.accepted? answer = none)
      (resolves : Resolves d (spans ++ [tokenSpan d]) gate now held actions (.error e) held') :
      Unlocks gate now held (refusedFirst d spans answer actions) (.error e) held'
  | locked {held held' : Option SessionToken} {answer : Answer} {actions : List Action}
      (refused : Http.accepted? answer = none)
      (resolves : Resolves d (spans ++ [tokenSpan d]) gate now held actions (.ok none) held') :
      Unlocks gate now held (refusedFirst d spans answer actions) (.ok none) held'
  | unlocked {held held' : Option SessionToken} {answer : Answer} {actions : List Action}
      {secret : TokenSecret} (refused : Http.accepted? answer = none)
      (resolves :
        Resolves d (spans ++ [tokenSpan d]) gate now held actions (.ok (some secret)) held')
      (second : Answer) :
      Unlocks gate now held
        (refusedFirst d spans answer
          (actions ++ (exchange d spans .metadata (d.tokenRequest gate secret) second ++
            remarks d spans .metadata (d.tokenRequest gate secret) second)))
        (.ok (body? second)) held'

/-- What is reported of a request for the signature. -/
def signatureRemarks (url : Url) (answer : Answer) : List Action :=
  match d.protocol, Http.accepted? answer with
  | .singlePhase, _ => remarks d spans .signature (d.getRequest url) answer
  | .tokenGated _, some _ => []
  | .tokenGated _, none =>
    [.noted ⟨.signatureRefused d.id (refusal d .signature (d.getRequest url) answer), spans⟩,
      .noted ⟨.noSignature d.id (.unsupported d.id tokenGatedSignature), spans⟩]

/-- The span of fetching the metadata. -/
def metadataSpan : Span := { provider := d.id, target := .metadata, stage := "get_metadata" }

/-- The span of fetching the signature. -/
def signatureSpan : Span := { provider := d.id, target := .signature, stage := "get_signature" }

/-- The ways through a call. -/
inductive Performs (now : Instant) :
    Call → Option SessionToken → List Action → Except OutOfRange Yield → Option SessionToken → Prop
    where
  | single {held : Option SessionToken} (single : d.protocol = .singlePhase) (answer : Answer) :
      Performs now .metadata held
        (.noted ⟨.notCached d.id .metadata d.documentCache, [metadataSpan d]⟩ ::
          (exchange d [metadataSpan d] .metadata (d.getRequest d.endpoints.metadata) answer ++
            remarks d [metadataSpan d] .metadata (d.getRequest d.endpoints.metadata) answer))
        (.ok (.document (document d .metadata d.metadataContentType (body? answer)))) held
  | gated {held held' : Option SessionToken} {gate : TokenGate} {actions : List Action}
      {result : Except OutOfRange (Option String)} (gated : d.protocol = .tokenGated gate)
      (unlocks : Unlocks d [metadataSpan d] gate now held actions result held') :
      Performs now .metadata held
        (.noted ⟨.notCached d.id .metadata d.documentCache, [metadataSpan d]⟩ :: actions)
        (result.map fun body => .document (document d .metadata d.metadataContentType body)) held'
  | bundled {held : Option SessionToken} (bundled : d.signature = .bundled) :
      Performs now .signature held [.noted ⟨.bundledSignature d.id, [signatureSpan d]⟩]
        (.ok (.document none)) held
  | separate {held : Option SessionToken} {url : Url} {contentType : String}
      (separate : d.signature = .separate url contentType) (answer : Answer) :
      Performs now .signature held
        (.noted ⟨.notCached d.id .signature d.documentCache, [signatureSpan d]⟩ ::
          (exchange d [signatureSpan d] .signature (d.getRequest url) answer ++
            signatureRemarks d [signatureSpan d] url answer))
        (.ok (.document (document d .signature contentType (body? answer)))) held
  | ungated {held : Option SessionToken} (ungated : d.gate? = none) :
      Performs now .token held [] (.ok (.secret none)) held
  | token {held held' : Option SessionToken} {gate : TokenGate} {actions : List Action}
      {result : Except OutOfRange (Option TokenSecret)} (gated : d.gate? = some gate)
      (resolves : Resolves d [tokenSpan d] gate now held actions result held') :
      Performs now .token held actions (result.map .secret) held'

/-- What a call finds for a token is what was resolved in it, if the provider has a gate. -/
theorem Performs.secret {d : Descriptor} {now : Instant} {call : Call}
    {held held' : Option SessionToken} {actions : List Action} {found : Option TokenSecret}
    (h : Performs d now call held actions (.ok (.secret found)) held') :
    (found = none ∧ actions = [] ∧ held' = held) ∨
      ∃ gate, d.gate? = some gate ∧
        Resolves d [tokenSpan d] gate now held actions (.ok found) held' := by
  generalize hresult : (.ok (.secret found) : Except OutOfRange Yield) = result at h
  cases h with
  | single => cases hresult
  | bundled => cases hresult
  | separate => cases hresult
  | gated hgated hunlocks => cases hunlocks <;> cases hresult
  | ungated =>
    cases hresult
    exact .inl ⟨rfl, rfl, rfl⟩
  | @token _ _ gate _ result hgated hresolves =>
    rcases result with e | other
    · cases hresult
    · cases hresult
      exact .inr ⟨gate, hgated, hresolves⟩

section Performing

variable [TokenStore σ] [Transport τ] (gate : TokenGate) (now : Instant) (world : World σ τ)

theorem gatedMetadata_obeys :
    Obeys (gatedMetadata d spans gate now) world (Unlocks d spans gate now world.session) := by
  obtain ⟨answer, after, hfetch, hsession⟩ :=
    fetch_trace d spans .metadata (d.getRequest d.endpoints.metadata) world
  rw [← hsession]
  cases haccepted : Http.accepted? answer with
  | some response =>
    obtain ⟨rfl, hok⟩ := accepted?_eq_some_iff.1 haccepted
    rw [fetched_of_accepted haccepted] at hfetch
    exact .bind hfetch (.pure (by simpa using .opened hok))
  | none =>
    rw [fetched_of_refused haccepted] at hfetch
    obtain ⟨actions, result, resolved, hresolved, hresolves⟩ :=
      resolveToken_obeys d spans gate now (after.record (.noted ⟨.metadataRefused d.id
        (refusal d .metadata (d.getRequest d.endpoints.metadata) answer), spans⟩))
    rcases result with e | _ | secret
    · exact .bind hfetch (.bind (.note ..) (.bind_error hresolved (.failed haccepted hresolves)))
    · exact .bind hfetch (.bind (.note ..) (.bind hresolved
        (.pure (by simpa using .locked haccepted hresolves))))
    · obtain ⟨_, _, last, hreported, hlast, second, rfl, rfl⟩ :=
        fetchReported_obeys d spans .metadata (d.tokenRequest gate secret) resolved
      refine ⟨_, _, _, hfetch.bind ((Trace.note ..).bind (hresolved.bind hreported)), ?_⟩
      rw [hlast]
      exact .unlocked haccepted hresolves second

theorem gatedSignature_obeys (url : Url) (hgated : d.protocol = .tokenGated gate) :
    Obeys (gatedSignature d spans url) world fun actions result session =>
      session = world.session ∧ ∃ answer, result = .ok (body? answer) ∧
        actions = exchange d spans .signature (d.getRequest url) answer ++
          signatureRemarks d spans url answer := by
  obtain ⟨answer, after, hfetch, hsession⟩ :=
    fetch_trace d spans .signature (d.getRequest url) world
  cases haccepted : Http.accepted? answer with
  | some response =>
    rw [fetched_of_accepted haccepted] at hfetch
    refine .bind hfetch (.pure ⟨hsession, answer, ?_, ?_⟩)
    · simp [body?, haccepted]
    · simp [signatureRemarks, haccepted, hgated]
  | none =>
    rw [fetched_of_refused haccepted] at hfetch
    refine .bind hfetch (.bind (.note ..) (.bind (.note ..) (.pure ⟨hsession, answer, ?_, ?_⟩)))
    · simp [body?, haccepted]
    · simp [signatureRemarks, haccepted, hgated]

theorem cachedDocument_trace (kind : DocumentKind) :
    Trace (cachedDocument d spans kind) world
      [.noted ⟨.notCached d.id kind d.documentCache, spans⟩] (.ok none)
      (world.record (.noted ⟨.notCached d.id kind d.documentCache, spans⟩)) :=
  (Trace.note ..).bind (.pure none)

theorem getMetadata_obeys :
    Obeys (getMetadata d now) world fun actions result session =>
      Performs d now .metadata world.session actions (result.map .document) session := by
  refine .bind (cachedDocument_trace d _ world .metadata) ?_
  cases hprotocol : d.protocol with
  | singlePhase =>
    obtain ⟨_, _, after, hreported, hsession, answer, rfl, rfl⟩ :=
      fetchReported_obeys d [metadataSpan d] .metadata (d.getRequest d.endpoints.metadata)
        (world.record (.noted ⟨.notCached d.id .metadata d.documentCache, [metadataSpan d]⟩))
    refine .bind hreported (.pure ?_)
    rw [hsession, List.append_nil]
    exact .single hprotocol answer
  | tokenGated gate =>
    obtain ⟨actions, result, after, hunlocked, hunlocks⟩ :=
      gatedMetadata_obeys d [metadataSpan d] gate now
        (world.record (.noted ⟨.notCached d.id .metadata d.documentCache, [metadataSpan d]⟩))
    have hperforms := Performs.gated hprotocol hunlocks
    cases result with
    | error e => exact .bind_error hunlocked hperforms
    | ok body =>
      refine .bind hunlocked (.pure ?_)
      rw [List.append_nil]
      exact hperforms

theorem getSignature_obeys :
    Obeys (getSignature d) world fun actions result session =>
      Performs d now .signature world.session actions (result.map .document) session := by
  unfold getSignature
  cases hsignature : d.signature with
  | bundled => exact .bind (.note ..) (.pure (.bundled hsignature))
  | separate url contentType =>
    refine .bind (cachedDocument_trace d _ world .signature) ?_
    cases hprotocol : d.protocol with
    | singlePhase =>
      obtain ⟨_, _, after, hreported, hsession, answer, rfl, rfl⟩ :=
        fetchReported_obeys d [signatureSpan d] .signature (d.getRequest url)
          (world.record (.noted ⟨.notCached d.id .signature d.documentCache, [signatureSpan d]⟩))
      refine .bind hreported (.pure ?_)
      rw [hsession, List.append_nil]
      have hremarks : remarks d [signatureSpan d] .signature (d.getRequest url) answer =
          signatureRemarks d [signatureSpan d] url answer := by
        simp [signatureRemarks, hprotocol]
      rw [hremarks]
      exact .separate hsignature answer
    | tokenGated gate =>
      obtain ⟨_, _, after, hfetched, hsession, answer, rfl, rfl⟩ :=
        gatedSignature_obeys d [signatureSpan d] gate
          (world.record (.noted ⟨.notCached d.id .signature d.documentCache, [signatureSpan d]⟩))
          url hprotocol
      refine .bind hfetched (.pure ?_)
      rw [hsession, List.append_nil]
      exact .separate hsignature answer

theorem getToken_obeys :
    Obeys (getToken d now) world fun actions result session =>
      Performs d now .token world.session actions (result.map .secret) session := by
  unfold getToken
  cases hgate : d.gate? with
  | none => exact .pure (.ungated hgate)
  | some gate =>
    obtain ⟨actions, result, after, htrace, hresolves⟩ := resolveToken_obeys d [] gate now world
    exact ⟨actions, result, after, htrace, .token hgate hresolves⟩

/-- Every call follows the protocol. -/
theorem perform_obeys (call : Call) :
    Obeys (perform d now call) world (Performs d now call world.session) := by
  cases call with
  | metadata =>
    obtain ⟨actions, result, after, htrace, hperforms⟩ := getMetadata_obeys d now world
    exact ⟨actions, result.map Yield.document, after, htrace.map Yield.document, hperforms⟩
  | signature =>
    obtain ⟨actions, result, after, htrace, hperforms⟩ := getSignature_obeys d now world
    exact ⟨actions, result.map Yield.document, after, htrace.map Yield.document, hperforms⟩
  | token =>
    obtain ⟨actions, result, after, htrace, hperforms⟩ := getToken_obeys d now world
    exact ⟨actions, result.map Yield.secret, after, htrace.map Yield.secret, hperforms⟩

end Performing

end InstanceIdentity.Collection
