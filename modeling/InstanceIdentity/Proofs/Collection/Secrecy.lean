import InstanceIdentity.Proofs.Collection.Pairing

/-!
# Secrets in diagnostics

Secrets reach the diagnostics by their fingerprints only, and bodies not at all.  Whatever a collector
does in one run is paired with what it does in another, where secrets with the same fingerprints and
other bodies take the place of those of the first run: one theorem for each operation, which follows
its definition.

Main results:

- Theorem `perform_paired`: a call in one run is paired with the same call in the other.
- Theorem `diagnostics_veil_secrets`: both runs report the same events and counts, and their requests
  differ in the secrets that they attach only.
-/

namespace InstanceIdentity.Collection

open Http (Request Response Answer Transport Script)
open Diagnostics (Span)

variable {σ τ : Type} [TokenStore σ] [Transport τ] (d : Descriptor) (spans : List Span)

/-! ## Fetching -/

/-- Both requests failed in the same way, or both brought a body; secrets that were issued have the
same fingerprint. -/
inductive FetchesAlike (request : Request) :
    Except FetchError String → Except FetchError String → Prop where
  | failed (error : FetchError) : FetchesAlike request (.error error) (.error error)
  | brought {body body' : String}
      (issued : request.method = .put → TokenSecret.Alike ⟨body⟩ ⟨body'⟩) :
      FetchesAlike request (.ok body) (.ok body')

instance {request : Request} : Std.Refl (FetchesAlike request) where
  refl
    | .error error => .failed error
    | .ok _ => .brought fun _ => Std.Refl.refl _

/-- Both are there, or neither is. -/
abbrev BothPresent {α : Type} (a b : Option α) : Prop := a.isSome = b.isSome

instance {α : Type} : Std.Refl (@BothPresent α) := ⟨fun _ => rfl⟩

variable {request request' : Request}

theorem fetch_paired (target : Target) (h : RequestsAlike d request request') :
    Paired d (FetchesAlike request) (fetch d spans target request : Work σ τ _)
      (fetch d spans target request') := by
  unfold fetch
  rw [h.method_eq, h.url_eq]
  refine .bind (.note ..) fun _ => .bind (.count ..) fun _ => .bind (.send h) ?_
  rintro _ _ ⟨halike, hissued⟩
  cases halike with
  | failed cause => exact .bind (.count ..) fun _ => .pure (.failed _)
  | answered status body body' =>
    by_cases hok : status = Http.accepted
    · have haccepted : ∀ text, Response.isOk ⟨status, text⟩ = true := fun _ => decide_eq_true hok
      have hbody : ∀ text, body? (.ok ⟨status, text⟩) = some text := by
        intro text
        rw [body?_answered, if_pos hok]
      simp only [haccepted, if_true]
      refine .bind (.count ..) fun _ => .pure (.brought fun hput => ?_)
      exact hissued hput body body' (hbody body) (hbody body')
    · have hrefused : ∀ text, Response.isOk ⟨status, text⟩ = false := fun _ => decide_eq_false hok
      simp only [hrefused, Bool.false_eq_true, if_false]
      exact .bind (.count ..) fun _ => .pure (.failed _)

theorem fetchReported_paired (target : Target) (h : RequestsAlike d request request') :
    Paired d BothPresent (fetchReported d spans target request : Work σ τ _)
      (fetchReported d spans target request') := by
  refine .bind (fetch_paired d spans target h) ?_
  rintro _ _ (error | _)
  · exact .bind (.note ..) fun _ => .pure rfl
  · exact .pure rfl

theorem cachedDocument_paired (kind : DocumentKind) :
    Paired d Eq (cachedDocument d spans kind : Work σ τ _) (cachedDocument d spans kind) :=
  .bind (.note ..) fun _ => .pure rfl

/-! ## Session tokens -/

theorem rememberedToken_paired (now : Instant) :
    Paired d (Option.Rel SessionToken.Alike) (rememberedToken spans now : Work σ τ _)
      (rememberedToken spans now) := by
  refine .bind .get ?_
  intro world world' hsessions
  generalize world.session = held at hsessions ⊢
  generalize world'.session = held' at hsessions ⊢
  cases hsessions with
  | none => exact .pure .none
  | @some token token' halike =>
    refine .bind (.expiry halike) ?_
    rintro expiry _ rfl
    rw [halike.secret]
    by_cases hvalid : now.before expiry = true
    · simp only [hvalid, if_true]
      exact .bind (.note ..) fun _ => .pure (.some halike)
    · simp only [hvalid]
      exact .pure .none

theorem storedToken_paired (gate : TokenGate) (now : Instant) :
    Paired d (Option.Rel SessionToken.Alike) (storedToken d spans gate now : Work σ τ _)
      (storedToken d spans gate now) := by
  refine .bind .load ?_
  rintro _ _ (error | _ | halike)
  · exact .bind (.note ..) fun _ => .pure .none
  · exact .pure .none
  · rename_i cached cached'
    have hsession : (gate.sessionOf cached).Alike (gate.sessionOf cached') :=
      ⟨halike.secret, halike.createdAt, rfl⟩
    refine .bind (.expiry hsession) ?_
    rintro expiry _ rfl
    by_cases hvalid : now.before expiry = true
    · simp only [hvalid, if_true]
      rw [halike.secret]
      exact .bind (.note ..) fun _ => .pure (.some hsession)
    · simp only [hvalid]
      exact .bind (.note ..) fun _ => .pure .none

theorem persist_paired {token token' : SessionToken} (h : token.Alike token') :
    Paired d Eq (persist d spans token : Work σ τ _) (persist d spans token') := by
  refine .bind (.save ⟨h.secret, h.createdAt⟩) ?_
  rintro outcome _ rfl
  cases outcome with
  | ok done =>
    rw [h.secret]
    exact .note ..
  | error error => exact .note ..

theorem issuedToken_paired (gate : TokenGate) (now : Instant) :
    Paired d (Option.Rel SessionToken.Alike) (issuedToken d spans gate now : Work σ τ _)
      (issuedToken d spans gate now) := by
  refine .bind (fetch_paired d spans .token (.same _)) ?_
  rintro _ _ (error | hissued)
  · exact .bind (.note ..) fun _ => .pure .none
  · rename_i body body'
    have hsession : (gate.sessionOf ⟨⟨body⟩, now⟩).Alike (gate.sessionOf ⟨⟨body'⟩, now⟩) :=
      ⟨hissued rfl, rfl, rfl⟩
    exact .bind (persist_paired d spans hsession) fun _ => .pure (.some hsession)

theorem adoptedToken_paired (gate : TokenGate) (now : Instant) :
    Paired d (Option.Rel SessionToken.Alike) (adoptedToken d spans gate now : Work σ τ _)
      (adoptedToken d spans gate now) := by
  have hremember : ∀ {token token' : SessionToken}, token.Alike token' →
      Paired d (Option.Rel SessionToken.Alike)
        (do Work.remember token; return some token : Work σ τ _)
        (do Work.remember token'; return some token') := by
    intro token token' halike
    exact .bind (.remember halike) fun _ => .pure (.some halike)
  refine .bind (storedToken_paired d spans gate now) ?_
  rintro _ _ (hstored | _)
  · have hfound : Paired d (Option.Rel SessionToken.Alike)
        (pure (some _) : Work σ τ (Option SessionToken)) (pure (some _)) := .pure (.some hstored)
    refine .bind hfound ?_
    rintro _ _ (halike | _)
    · exact hremember halike
    · exact .pure .none
  · refine .bind (issuedToken_paired d spans gate now) ?_
    rintro _ _ (halike | _)
    · exact hremember halike
    · exact .pure .none

theorem resolveToken_paired (gate : TokenGate) (now : Instant) :
    Paired d (Option.Rel TokenSecret.Alike) (resolveToken d spans gate now : Work σ τ _)
      (resolveToken d spans gate now) := by
  refine .bind (rememberedToken_paired d _ now) ?_
  rintro _ _ (halike | _)
  · exact .pure (.some halike.secret)
  · refine .bind (adoptedToken_paired d _ gate now) ?_
    rintro _ _ (halike | _)
    · exact .pure (.some halike.secret)
    · exact .pure .none

/-! ## Documents -/

theorem gatedMetadata_paired {gate : TokenGate} (hgate : d.gate? = some gate) (now : Instant) :
    Paired d BothPresent (gatedMetadata d spans gate now : Work σ τ _)
      (gatedMetadata d spans gate now) := by
  refine .bind (fetch_paired d spans .metadata (.same _)) ?_
  rintro _ _ (error | _)
  · refine .bind (.note ..) fun _ => .bind (resolveToken_paired d spans gate now) ?_
    rintro _ _ (halike | _)
    · exact fetchReported_paired d spans .metadata (.attached hgate halike)
    · exact .pure rfl
  · exact .pure rfl

theorem gatedSignature_paired (url : Url) :
    Paired d BothPresent (gatedSignature d spans url : Work σ τ _) (gatedSignature d spans url) := by
  refine .bind (fetch_paired d spans .signature (.same _)) ?_
  rintro _ _ (error | _)
  · exact .bind (.note ..) fun _ => .bind (.note ..) fun _ => .pure rfl
  · exact .pure rfl

/-- A document is there when its body is. -/
theorem BothPresent.document {body body' : Option String} (h : BothPresent body body')
    (kind : DocumentKind) (contentType : String) :
    BothPresent (document d kind contentType body) (document d kind contentType body') := by
  simpa [BothPresent, Collection.document] using h

theorem getMetadata_paired (now : Instant) :
    Paired d BothPresent (getMetadata d now : Work σ τ _) (getMetadata d now) := by
  refine .bind (cachedDocument_paired d _ .metadata) ?_
  rintro found _ rfl
  cases found with
  | some document => exact .pure rfl
  | none =>
    cases hprotocol : d.protocol with
    | singlePhase =>
      exact .bind (fetchReported_paired d _ .metadata (.same _)) fun h => .pure (h.document d _ _)
    | tokenGated gate =>
      have hgate : d.gate? = some gate := Descriptor.gate?_eq_some_iff.2 hprotocol
      exact .bind (gatedMetadata_paired d _ hgate now) fun h => .pure (h.document d _ _)

theorem getSignature_paired :
    Paired d BothPresent (getSignature d : Work σ τ _) (getSignature d) := by
  unfold getSignature
  cases d.signature with
  | bundled => exact .bind (.note ..) fun _ => .pure rfl
  | separate url contentType =>
    refine .bind (cachedDocument_paired d _ .signature) ?_
    rintro found _ rfl
    cases found with
    | some document => exact .pure rfl
    | none =>
      cases hprotocol : d.protocol with
      | singlePhase =>
        exact .bind (fetchReported_paired d _ .signature (.same _)) fun h => .pure (h.document d _ _)
      | tokenGated gate =>
        exact .bind (gatedSignature_paired d _ url) fun h => .pure (h.document d _ _)

theorem getToken_paired (now : Instant) :
    Paired d (Option.Rel TokenSecret.Alike) (getToken d now : Work σ τ _) (getToken d now) := by
  unfold getToken
  cases d.gate? with
  | none => exact .pure .none
  | some gate => exact resolveToken_paired d [] gate now

/-! ## Calls -/

/-- Two calls brought documents, both or neither, or secrets with the same fingerprint. -/
inductive YieldsAlike : Yield → Yield → Prop where
  | document {found found' : Option Document} (present : BothPresent found found') :
      YieldsAlike (.document found) (.document found')
  | secret {found found' : Option TokenSecret} (alike : Option.Rel TokenSecret.Alike found found') :
      YieldsAlike (.secret found) (.secret found')

/-- A call in one run is paired with the same call in the other. -/
theorem perform_paired (now : Instant) (call : Call) :
    Paired d YieldsAlike (perform d now call : Work σ τ _) (perform d now call) := by
  cases call with
  | metadata => exact .bind (getMetadata_paired d now) fun h => .pure (.document h)
  | signature => exact .bind (getSignature_paired d) fun h => .pure (.document h)
  | token => exact .bind (getToken_paired d now) fun h => .pure (.secret h)

/-! ## All visits -/

variable {world world' : World σ τ}

theorem log_visited (world : World σ τ) (visits : List Visit) :
    world.log <+: (visited d world visits).log := by
  induction visits generalizing world with
  | nil => exact List.prefix_refl _
  | cons v visits ih => exact ((perform_paired d v.now v.call).grows world).trans (ih _)

/-- Worlds stay twins over visits. -/
theorem visited_twins (h : Twins d world world') (visits : List Visit)
    (hissued : IssuedAlike (visited d world visits) (visited d world' visits)) :
    Twins d (visited d world visits) (visited d world' visits) := by
  induction visits generalizing world world' with
  | nil => exact h
  | cons v visits ih =>
    have hfirst : IssuedAlike (v.after d world) (v.after d world') :=
      hissued.of_prefix (log_visited d _ visits) (log_visited d _ visits)
    exact ih ((perform_paired d v.now v.call).twins h hfirst).2 hissued

/-- Secrets and bodies reach the diagnostics as fingerprints only.  Two runs of the same calls, at the
same readings of the clock, on stores, transports and remembered tokens that differ in secrets and
bodies only, report the same events and counts, as long as corresponding secrets have the same
fingerprint.  Their requests are the same too, except for the secrets that some of them attach. -/
theorem diagnostics_veil_secrets {store store' : σ} {transport transport' : τ}
    {held held' : Option SessionToken} (hstores : StoresAlike store store')
    (htransports : TransportsAlike d transport transport')
    (hheld : Option.Rel SessionToken.Alike held held') (visits : List Visit)
    (hissued : IssuedAlike (visited d { store, transport, session := held } visits)
      (visited d { store := store', transport := transport', session := held' } visits)) :
    let first := visited d { store, transport, session := held } visits
    let second := visited d { store := store', transport := transport', session := held' } visits
    first.events = second.events ∧ first.counts = second.counts ∧
      List.Forall₂ (RequestsAlike d) first.requests second.requests := by
  intro first second
  have hstart : Twins d { store, transport, session := held }
      { store := store', transport := transport', session := held' } :=
    ⟨hstores, htransports, hheld, .nil⟩
  have hlogs : List.Forall₂ (ActionsAlike d) first.log second.log :=
    (visited_twins d hstart visits hissued).logs
  refine ⟨?_, ?_, List.rel_filterMap (fun _ _ halike => halike.request?) hlogs⟩
  · have hevents : List.Forall₂ Eq first.events second.events :=
      List.rel_filterMap (fun _ _ halike => halike.event?) hlogs
    exact List.forall₂_eq_eq_eq ▸ hevents
  · have hcounts : List.Forall₂ Eq first.counts second.counts :=
      List.rel_filterMap (fun _ _ halike => halike.count?) hlogs
    exact List.forall₂_eq_eq_eq ▸ hcounts

/-- Two secrets with one fingerprint change places: one of them is stored and the other is issued
when the first has lapsed.  The documents have nothing in common. -/
theorem diagnostics_veil_secrets_swapped :
    let d := Descriptor.linkLocal
    let secret : TokenSecret := ⟨"b36185bbc8f02dd927"⟩
    let other : TokenSecret := ⟨"1b66e84b5663ae9d5f"⟩
    let world (stored issued : TokenSecret) (early late : String) : World MemoryStore Script :=
      { store := ⟨some ⟨stored, .minute 0⟩⟩
        transport := ⟨[.ok ⟨401, early⟩, .ok ⟨200, late⟩, .ok ⟨401, late⟩,
          .ok ⟨200, issued.exposed⟩, .ok ⟨200, early⟩]⟩
        session := none }
    let visits : List Visit := [⟨.minute 1, .metadata⟩, ⟨.minute 8, .metadata⟩]
    let first := visited d (world secret other "early" "late") visits
    let second := visited d (world other secret "first" "last") visits
    secret ≠ other ∧ first.issued = [other] ∧ second.issued = [secret] ∧ secret.Alike other ∧
      first.events = second.events ∧ first.counts = second.counts ∧
      List.Forall₂ (RequestsAlike d) first.requests second.requests := by
  intro d secret other world visits first second
  have halike : secret.Alike other := by
    unfold TokenSecret.Alike
    decide +kernel
  have hfirst : first.issued = [other] := by decide +kernel
  have hsecond : second.issued = [secret] := by decide +kernel
  have hissued : IssuedAlike first second := by
    intro i a b ha hb
    rw [hfirst] at ha
    rw [hsecond] at hb
    cases i with
    | zero =>
      cases ha
      cases hb
      exact halike.symm
    | succ i => cases ha
  have hstores : StoresAlike (world secret other "early" "late").store
      (world other secret "first" "last").store :=
    .memory (.some ⟨halike, rfl⟩)
  have htransports : TransportsAlike d (world secret other "early" "late").transport
      (world other secret "first" "last").transport :=
    .script (.cons (.answered ..) (.cons (.answered ..) (.cons (.answered ..)
      (.cons (.answered ..) (.cons (.answered ..) .nil)))))
  exact ⟨by decide, hfirst, hsecond, halike,
    diagnostics_veil_secrets d hstores htransports .none visits hissued⟩

end InstanceIdentity.Collection
