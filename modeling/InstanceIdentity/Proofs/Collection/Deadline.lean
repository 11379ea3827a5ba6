import InstanceIdentity.Proofs.Collection.History
import InstanceIdentity.Proofs.Collection.Session

/-!
# How long a token is used from memory

A token that was taken in one visit may be used from memory in visits that come much later.  How
long this goes on is decided by the time of creation that is recorded with the token.  The service
leaves no choice: what it issues is recorded at the reading of the visit that asked for it.  The
store does: a time of creation that lies ahead of the clock lets a token live for longer than its
lifetime after it was taken.

Main results:

- Theorem `memory_use_before_deadline`: the use from memory ends a lifetime after the recorded time.
- Theorem `stored_ahead_used_longer`: that may be later than a lifetime after the token was taken.
-/

namespace InstanceIdentity.Collection

open Http (Request Response Transport Script)
open Diagnostics (Span)

section Steps

variable {d : Descriptor} {spans : List Span} {gate : TokenGate} {now : Instant}
  {held held' : Option SessionToken} {actions : List Action} {token : SessionToken}

/-- A token is not taken by plain actions. -/
theorem Taken.not_allPlain (h : Taken d gate now actions token) : ¬ AllPlain actions := by
  intro hplain
  cases h with
  | loaded hlifetime hloaded hvalid => exact Plain.not_loaded (hplain _ hloaded)
  | issued hlifetime hsent haccepted hsecret hcreated =>
    have hget := Plain.exchanged_iff.1 (hplain _ hsent)
    cases hget

/-- Where nothing but plain actions is done, a secret is resolved from memory, and is valid. -/
theorem Resolves.remembered {secret : TokenSecret}
    (h : Resolves d spans gate now held actions (.ok (some secret)) held')
    (hplain : AllPlain actions) :
    ∃ token, held = some token ∧ token.isValidAt? now = some true := by
  obtain ⟨token, -, -, ⟨hheld, hvalid⟩ | htaken⟩ := h.secret_eq
  · exact ⟨token, hheld, hvalid⟩
  · exact absurd hplain htaken.not_allPlain

theorem tokenRequest_ne_getRequest {secret : TokenSecret} {url : Url} :
    d.tokenRequest gate secret ≠ d.getRequest url := by
  intro heq
  have hlength := congrArg List.length (congrArg Request.headers heq)
  simp [Descriptor.tokenRequest, Descriptor.getRequest, Request.header,
    Request.headersOf] at hlength

theorem tokenRequest_ne_issueRequest {other : TokenGate} {secret : TokenSecret} :
    d.tokenRequest gate secret ≠ d.issueRequest other := by
  intro heq
  cases congrArg Request.method heq

theorem Issues.created {found : Option SessionToken} {response : Response}
    (h : Issues d spans gate now actions found)
    (hmem : .exchanged (d.issueRequest gate) (.ok response) ∈ actions)
    (hok : response.isOk = true) : ∃ token, found = some token ∧ token.createdAt = now := by
  cases h with
  | issued haccepted outcome => exact ⟨_, rfl, rfl⟩
  | refused hrefused =>
    rcases List.mem_append.1 hmem with hmem | hmem
    · rw [← (mem_exchange.1 hmem).2, accepted?_of_isOk hok] at hrefused
      cases hrefused
    · simp at hmem

/-- A token that the service issues in a call is remembered from the reading of that call on. -/
theorem Performs.created {call : Call} {result : Except OutOfRange Yield} {response : Response}
    (hgate : d.gate? = some gate) (h : Performs d now call held actions result held')
    (hmem : .exchanged (d.issueRequest gate) (.ok response) ∈ actions)
    (hok : response.isOk = true) : ∃ token, held' = some token ∧ token.createdAt = now := by
  have hspecial : ¬ Plain (.exchanged (d.issueRequest gate) (.ok response)) := by
    simp
  rcases h.resolution with
    ⟨-, hplain⟩ | ⟨other, spans, resolved, found, hother, hencloses, hresolves⟩
  · exact absurd (hplain _ hmem) hspecial
  · cases hgate.symm.trans hother
    have hmem := hencloses.mem_inner hmem hspecial
    cases hresolves with
    | reused => simp at hmem
    | endless => simp at hmem
    | storedEndless _ hconsults => exact absurd hmem (hconsults.not_exchanged _ _)
    | adopted _ hconsults => exact absurd hmem (hconsults.not_exchanged _ _)
    | issued _ hconsults hissues =>
      obtain ⟨token, hfound, hcreated⟩ := hissues.created
        ((List.mem_append.1 hmem).resolve_left (hconsults.not_exchanged _ _)) hok
      exact ⟨token, hfound, hcreated⟩
    | refused _ hconsults hissues =>
      obtain ⟨token, hfound, -⟩ := hissues.created
        ((List.mem_append.1 hmem).resolve_left (hconsults.not_exchanged _ _)) hok
      cases hfound

end Steps

/-! ## Visits -/

section Visits

variable {σ τ : Type} [TokenStore σ] [Transport τ]

/-- A visit takes a token, which is remembered from then on. -/
structure Visit.Takes (v : Visit) (d : Descriptor) (gate : TokenGate) (world : World σ τ)
    (token : SessionToken) : Prop where
  kept : (v.after d world).session = some token
  taken : Taken d gate v.now (v.actions d world) token

/-- A visit uses the remembered token from memory: it returns the secret, or sends it with a
request, and all that it does before is plain. -/
structure Visit.UsesMemory (v : Visit) (d : Descriptor) (gate : TokenGate) (world : World σ τ)
    (token : SessionToken) : Prop where
  held : world.session = some token
  used : (v.result d world = .ok (.secret (some token.secret)) ∧
      AllPlain (v.actions d world)) ∨
    ∃ earlier answer,
      earlier ++ [.exchanged (d.tokenRequest gate token.secret) answer] <+: v.actions d world ∧
        AllPlain earlier

/-- A token that is used from memory is valid. -/
theorem Visit.UsesMemory.valid {v : Visit} {d : Descriptor} {gate : TokenGate} {world : World σ τ}
    {token : SessionToken} (h : v.UsesMemory d gate world token) :
    token.isValidAt? v.now = some true := by
  have hperforms := v.performs d world
  have hremembered : ∃ other, world.session = some other ∧ other.isValidAt? v.now = some true := by
    rcases h.used with ⟨hresult, hplain⟩ | ⟨earlier, answer, hfront, hplain⟩
    · rw [hresult] at hperforms
      obtain ⟨gate, -, hresolves⟩ := hperforms.returned
      exact hresolves.remembered hplain
    · rcases hperforms.requested hfront with ⟨url, hget⟩ | ⟨other, -, hput | hattached⟩
      · exact absurd hget tokenRequest_ne_getRequest
      · exact absurd hput tokenRequest_ne_issueRequest
      · obtain ⟨secret, spans, resolved, -, hsub, hresolves⟩ := hattached
        exact hresolves.remembered fun action hmem => hplain action (hsub hmem)
  obtain ⟨other, hother, hvalid⟩ := hremembered
  cases h.held.symm.trans hother
  exact hvalid

/-- A token is used from memory only before the end of a lifetime that begins at its recorded time
of creation.  If that time is not ahead of the visit in which the token was taken, the use ends
within a lifetime after that visit; and a token that the service issued was created at the reading
of that visit. -/
theorem memory_use_before_deadline {d : Descriptor} {gate : TokenGate} {world : World σ τ}
    {v w : Visit} {between : List Visit} {token : SessionToken} (hgate : d.gate? = some gate)
    (htakes : v.Takes d gate world token)
    (huses : w.UsesMemory d gate (visited d (v.after d world) between) token) :
    w.now.nanos < token.createdAt.nanosAfter gate.ttl ∧
      (token.createdAt.nanos ≤ v.now.nanos → w.now.nanos < v.now.nanosAfter gate.ttl) ∧
      (∀ response, .exchanged (d.issueRequest gate) (.ok response) ∈ v.actions d world →
        response.isOk = true → token.createdAt = v.now) := by
  have hdeadline : w.now.nanos < token.createdAt.nanosAfter gate.ttl := by
    rw [← htakes.taken.lifetime]
    exact (SessionToken.isValidAt?_eq_some_true_iff.1 huses.valid).2
  refine ⟨hdeadline, ?_, ?_⟩
  · intro hcreated
    unfold Instant.nanosAfter at hdeadline ⊢
    omega
  · intro response hmem hok
    obtain ⟨other, hother, hcreated⟩ := (v.performs d world).created hgate hmem hok
    cases htakes.kept.symm.trans hother
    exact hcreated

/-- A token that the service issues at the beginning of the year is used from memory five minutes
later, which is within its lifetime of six. -/
theorem memory_use_before_deadline_issued :
    let d := Descriptor.linkLocal
    let gate := Descriptor.linkLocalGate
    let token : SessionToken := ⟨⟨"token"⟩, .minute 0, gate.ttl⟩
    let world : World MemoryStore Script := World.start {} ⟨[.ok ⟨200, "token"⟩]⟩
    let taking : Visit := ⟨.minute 0, .token⟩
    let reusing : Visit := ⟨.minute 5, .token⟩
    d.gate? = some gate ∧ taking.Takes d gate world token ∧
      reusing.UsesMemory d gate (visited d (taking.after d world) []) token ∧
      reusing.now.nanos < taking.now.nanosAfter gate.ttl := by
  intro d gate token world taking reusing
  have hsent : .exchanged (d.issueRequest gate) (.ok ⟨200, "token"⟩) ∈ taking.actions d world :=
    List.mem_of_getElem? (i := 3) rfl
  have htakes : taking.Takes d gate world token := ⟨rfl, .issued rfl hsent rfl rfl rfl⟩
  have huses : reusing.UsesMemory d gate (visited d (taking.after d world) []) token := by
    refine ⟨rfl, .inl ⟨rfl, ?_⟩⟩
    exact AllPlain.cons_iff.2 ⟨.noted _, .nil⟩
  have hdeadline := memory_use_before_deadline Descriptor.linkLocal_gate? htakes huses
  exact ⟨rfl, htakes, huses, hdeadline.2.1 (Int.le_refl _)⟩

/-- A stored token whose time of creation lies ten minutes ahead of the clock is taken, and is still
used from memory seven minutes later, when its lifetime of six minutes is over. -/
theorem stored_ahead_used_longer :
    let d := Descriptor.linkLocal
    let gate := Descriptor.linkLocalGate
    let token : SessionToken := ⟨⟨"token"⟩, .minute 10, gate.ttl⟩
    let world : World MemoryStore Script := World.start ⟨some ⟨token.secret, token.createdAt⟩⟩ {}
    let taking : Visit := ⟨.minute 0, .token⟩
    let reusing : Visit := ⟨.minute 7, .token⟩
    d.validate = .ok () ∧ d.gate? = some gate ∧ taking.now.nanos ≤ reusing.now.nanos ∧
      taking.Takes d gate world token ∧
      taking.now.nanosAfter gate.ttl ≤ reusing.now.nanos ∧
      reusing.UsesMemory d gate (visited d (taking.after d world) []) token := by
  intro d gate token world taking reusing
  have htakes : taking.Takes d gate world token :=
    ⟨rfl, .loaded rfl (List.mem_of_getElem? (i := 0) rfl) (by decide)⟩
  refine ⟨rfl, rfl, by decide, htakes, by decide, rfl, .inl ⟨rfl, ?_⟩⟩
  exact AllPlain.cons_iff.2 ⟨.noted _, .nil⟩

end Visits

end InstanceIdentity.Collection
