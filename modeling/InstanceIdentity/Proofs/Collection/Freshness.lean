import InstanceIdentity.Proofs.Collection.History
import InstanceIdentity.Proofs.Collection.Session

/-!
# Where secrets come from

Tokens reach a collector from memory, from the store and from the service, over visits at readings
of the clock that may go either way.  The remembered token is traced back to what was done: to a
request for a token that the service accepted, at the reading that is kept as its creation, or to a
load that brought it.

Main results:

- Theorem `sourced_history`: the remembered token was obtained in the past.
- Theorem `used_secrets_fresh`: a secret is returned, or sent with a request, only while the life of the
  remembered token that it belongs to lasts.
-/

namespace InstanceIdentity.Collection

open Http (Request Response Transport Script)
open Diagnostics (Span)

/-! ## Provenance -/

/-- A token was obtained in the past: the service issued it at the recorded reading, or a load
brought it with the recorded time. -/
inductive Obtained (d : Descriptor) (gate : TokenGate) (past : List Deed) (token : SessionToken) :
    Prop where
  | issued {response : Response}
      (sent : ⟨token.createdAt, .exchanged (d.issueRequest gate) (.ok response)⟩ ∈ past)
      (accepted : response.isOk = true) (secret : token.secret = ⟨response.body⟩)
  | loaded {reading : Instant}
      (loaded : ⟨reading, .loaded (.ok (some ⟨token.secret, token.createdAt⟩))⟩ ∈ past)

/-- The remembered token has the lifetime of the gate and was obtained in the past. -/
def Sourced (d : Descriptor) (gate : TokenGate) (past : List Deed) (held : Option SessionToken) :
    Prop :=
  ∀ token, held = some token → token.ttl = gate.ttl ∧ Obtained d gate past token

/-- A secret may be used at a reading of the clock: it is that of the remembered token, which was
obtained in the past and whose life has not ended. -/
def Vouched (d : Descriptor) (gate : TokenGate) (past : List Deed) (now : Instant)
    (held : Option SessionToken) (secret : TokenSecret) : Prop :=
  ∃ token, held = some token ∧ token.secret = secret ∧ Obtained d gate past token ∧
    now.nanos < token.createdAt.nanosAfter gate.ttl

section Steps

variable {d : Descriptor} {spans : List Span} {gate : TokenGate} {now : Instant}
  {past more : List Deed} {held held' : Option SessionToken} {actions : List Action}
  {token : SessionToken}

theorem Obtained.mono (h : Obtained d gate past token) (hsub : past ⊆ more) :
    Obtained d gate more token := by
  cases h with
  | issued hsent haccepted hsecret => exact .issued (hsub hsent) haccepted hsecret
  | loaded hloaded => exact .loaded (hsub hloaded)

/-- A token that is taken is obtained by the actions that take it. -/
theorem Taken.obtained (h : Taken d gate now actions token) :
    Obtained d gate (actions.map (Deed.mk now)) token := by
  cases h with
  | loaded hlifetime hloaded hvalid => exact .loaded (List.mem_map_of_mem hloaded)
  | issued hlifetime hsent haccepted hsecret hcreated =>
    refine .issued ?_ haccepted hsecret
    rw [hcreated]
    exact List.mem_map_of_mem hsent

theorem Sourced.mono (h : Sourced d gate past held) (hsub : past ⊆ more) :
    Sourced d gate more held := by
  intro token hheld
  obtain ⟨hlifetime, hobtained⟩ := h token hheld
  exact ⟨hlifetime, hobtained.mono hsub⟩

/-- A call keeps the remembered token sourced. -/
theorem Performs.sourced {call : Call} {result : Except OutOfRange Yield}
    (hgate : d.gate? = some gate) (h : Performs d now call held actions result held')
    (hsourced : Sourced d gate past held) :
    Sourced d gate (past ++ actions.map (Deed.mk now)) held' := by
  rcases h.taken with rfl | ⟨other, taken, hother, rfl, htaken⟩
  · exact hsourced.mono (List.subset_append_left _ _)
  · cases hgate.symm.trans hother
    intro token hheld
    cases hheld
    exact ⟨htaken.lifetime, htaken.obtained.mono (List.subset_append_right _ _)⟩

/-- A secret that was resolved may be used from then on. -/
theorem Resolves.vouched {resolved : List Action} {secret : TokenSecret} (hpos : 0 < gate.ttl)
    (hsourced : Sourced d gate past held)
    (h : Resolves d spans gate now held resolved (.ok (some secret)) held')
    (hsub : resolved ⊆ actions) :
    Vouched d gate (past ++ actions.map (Deed.mk now)) now held' secret := by
  obtain ⟨token, hheld, hsecret, ⟨hkept, hvalid⟩ | htaken⟩ := h.secret_eq
  · obtain ⟨hlifetime, hobtained⟩ := hsourced token hkept
    have hlasts := (SessionToken.isValidAt?_eq_some_true_iff.1 hvalid).2
    rw [hlifetime] at hlasts
    exact ⟨token, hheld, hsecret, hobtained.mono (List.subset_append_left _ _), hlasts⟩
  · have hobtained := (htaken.mono hsub).obtained
    exact ⟨token, hheld, hsecret, hobtained.mono (List.subset_append_right _ _), htaken.valid hpos⟩

end Steps

/-! ## All visits -/

section Visits

variable {σ τ : Type} [TokenStore σ] [Transport τ] {d : Descriptor} {gate : TokenGate}

/-- The remembered token was obtained in the past. -/
theorem sourced_history (hgate : d.gate? = some gate) (store : σ) (transport : τ)
    (visits : List Visit) :
    Sourced d gate (history d (World.start store transport) visits)
      (visited d (World.start store transport) visits).session := by
  refine history_induction d (I := fun past world => Sourced d gate past world.session) ?_ ?_ visits
  · intro token hheld
    cases hheld
  · intro past world v hsourced
    exact (v.performs d world).sourced hgate hsourced

/-- Secrets are used only while they are fresh.  A secret that a visit returns may be used at its
reading of the clock.  A request of a visit asks for a document without a secret, or for a token, or
carries a secret that may be used, by what was done before the request.  And the remembered token is
replaced only by one whose secret may be used. -/
theorem used_secrets_fresh (hvalid : d.validate = .ok ()) (hgate : d.gate? = some gate) (store : σ)
    (transport : τ) (visits : List Visit) (v : Visit) :
    let world := visited d (World.start store transport) visits
    let past := history d (World.start store transport) visits
    let held := (v.after d world).session
    (∀ secret, v.result d world = .ok (.secret (some secret)) →
      Vouched d gate (past ++ v.deeds d world) v.now held secret) ∧
    (∀ earlier request answer, earlier ++ [.exchanged request answer] <+: v.actions d world →
      (∃ url, request = d.getRequest url) ∨ request = d.issueRequest gate ∨
        ∃ secret, request = d.tokenRequest gate secret ∧
          Vouched d gate (past ++ earlier.map (Deed.mk v.now)) v.now held secret) ∧
    (held = world.session ∨
      ∃ secret, Vouched d gate (past ++ v.deeds d world) v.now held secret) := by
  intro world past held
  have hpos : 0 < gate.ttl := Descriptor.ttl_pos hvalid hgate
  have hsourced : Sourced d gate past world.session := sourced_history hgate store transport visits
  have hperforms := v.performs d world
  refine ⟨?_, ?_, ?_⟩
  · intro secret hresult
    rw [hresult] at hperforms
    obtain ⟨other, hother, hresolves⟩ := hperforms.returned
    cases hgate.symm.trans hother
    exact hresolves.vouched hpos hsourced (List.Subset.refl _)
  · intro earlier request answer hfront
    rcases hperforms.requested hfront with hget | ⟨other, hother, hput | hattached⟩
    · exact .inl hget
    · cases hgate.symm.trans hother
      exact .inr (.inl hput)
    · cases hgate.symm.trans hother
      obtain ⟨secret, spans, resolved, hrequest, hsub, hresolves⟩ := hattached
      exact .inr (.inr ⟨secret, hrequest, hresolves.vouched hpos hsourced hsub⟩)
  · rcases hperforms.taken with hsame | ⟨other, token, hother, hheld, htaken⟩
    · exact .inl hsame
    · cases hgate.symm.trans hother
      exact .inr ⟨token.secret, token, hheld, rfl,
        htaken.obtained.mono (List.subset_append_right _ _), htaken.valid hpos⟩

/-- A clock that is turned back: a token issued in the third minute is returned in the first, and
attached to the second request for the metadata. -/
theorem used_secrets_fresh_turned_back :
    let d := Descriptor.linkLocal
    let gate := Descriptor.linkLocalGate
    let start : World MemoryStore Script :=
      World.start {} ⟨[.ok ⟨200, "token"⟩, .ok ⟨401, ""⟩, .ok ⟨200, "identity"⟩]⟩
    let visits : List Visit := [⟨.minute 3, .token⟩]
    let again : Visit := ⟨.minute 1, .token⟩
    let fetching : Visit := ⟨.minute 1, .metadata⟩
    let world := visited d start visits
    d.validate = .ok () ∧ d.gate? = some gate ∧
      again.result d world = .ok (.secret (some ⟨"token"⟩)) ∧
      Vouched d gate (history d start visits ++ again.deeds d world) (.minute 1)
        (again.after d world).session ⟨"token"⟩ ∧
      (fetching.actions d world).filterMap Action.request? =
        [d.getRequest d.endpoints.metadata, d.tokenRequest gate ⟨"token"⟩] := by
  refine ⟨rfl, rfl, rfl, ?_, rfl⟩
  have hgate := Descriptor.linkLocal_gate?
  exact (used_secrets_fresh Descriptor.linkLocal_validate hgate _ _ _ _).1 _ rfl

end Visits

end InstanceIdentity.Collection
