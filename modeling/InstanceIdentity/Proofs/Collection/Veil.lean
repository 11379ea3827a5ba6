import InstanceIdentity.Proofs.Collection.History
import Mathlib.Data.List.Forall2

/-!
# Runs that differ in secrets

A collector may be run twice, with secrets that differ from one run to the other but have the same
fingerprints, and with different documents.  For each kind of value that a collector works with, a
relation says how the values of the two runs may differ.  Two worlds are twins when all that they hold
may differ in this way only.

The stores and the transports of the two runs need not be the same: it is enough that they cannot be
told apart by uses that differ in secrets only.  The secrets that a service issues are compared in the
logs, so that nothing has to be assumed of the bodies of other answers.

Main results:

- Theorems `StoresAlike.memory` and `TransportsAlike.script`: stores in memory and scripts that cannot
  be told apart.
- Theorem `Twins.issued_length`: in twins as many secrets were issued.
-/

namespace InstanceIdentity

/-! ## Secrets and tokens -/

/-- Two secrets have the same fingerprint. -/
def TokenSecret.Alike (a b : TokenSecret) : Prop := a.fingerprint = b.fingerprint

/-- Two session tokens differ in their secrets only, and these have the same fingerprint. -/
structure SessionToken.Alike (a b : SessionToken) : Prop where
  secret : a.secret.Alike b.secret
  createdAt : a.createdAt = b.createdAt
  ttl : a.ttl = b.ttl

/-- Two tokens of stores differ in their secrets only, and these have the same fingerprint. -/
structure CachedToken.Alike (a b : CachedToken) : Prop where
  secret : a.secret.Alike b.secret
  createdAt : a.createdAt = b.createdAt

instance : Std.Refl TokenSecret.Alike := ⟨fun _ => rfl⟩

instance : Std.Refl SessionToken.Alike := ⟨fun _ => ⟨rfl, rfl, rfl⟩⟩

instance : Std.Refl CachedToken.Alike := ⟨fun _ => ⟨rfl, rfl⟩⟩

namespace Collection

open Http (Request Response Answer Transport Script TransportFailure)
open Diagnostics (Event Count Note Span Outcome)

instance instReflOptionRel {α : Type} {R : α → α → Prop} [Std.Refl R] : Std.Refl (Option.Rel R) where
  refl
    | none => .none
    | some a => .some (Std.Refl.refl a)

/-! ## Requests, answers and loads -/

/-- Two requests are the same, or attach secrets with the same fingerprint. -/
inductive RequestsAlike (d : Descriptor) : Request → Request → Prop where
  | same (request : Request) : RequestsAlike d request request
  | attached {gate : TokenGate} {a b : TokenSecret} (gated : d.gate? = some gate)
      (alike : a.Alike b) : RequestsAlike d (d.tokenRequest gate a) (d.tokenRequest gate b)

/-- Two answers have the same status, or there was none for the same reason. -/
inductive AnswersAlike : Answer → Answer → Prop where
  | failed (cause : TransportFailure) : AnswersAlike (.error cause) (.error cause)
  | answered (status : UInt16) (body body' : String) :
      AnswersAlike (.ok ⟨status, body⟩) (.ok ⟨status, body'⟩)

/-- Two loads failed for the same reason, or brought nothing, or brought tokens that are alike. -/
inductive LoadsAlike :
    Except StoreError (Option CachedToken) → Except StoreError (Option CachedToken) → Prop where
  | failed (error : StoreError) : LoadsAlike (.error error) (.error error)
  | empty : LoadsAlike (.ok none) (.ok none)
  | brought {a b : CachedToken} (alike : a.Alike b) : LoadsAlike (.ok (some a)) (.ok (some b))

/-- Two actions are the same up to secrets and bodies. -/
inductive ActionsAlike (d : Descriptor) : Action → Action → Prop where
  | noted (event : Event) : ActionsAlike d (.noted event) (.noted event)
  | counted (count : Count) : ActionsAlike d (.counted count) (.counted count)
  | exchanged {request request' : Request} {answer answer' : Answer}
      (requests : RequestsAlike d request request') (answers : AnswersAlike answer answer') :
      ActionsAlike d (.exchanged request answer) (.exchanged request' answer')
  | loaded {outcome outcome' : Except StoreError (Option CachedToken)}
      (loads : LoadsAlike outcome outcome') : ActionsAlike d (.loaded outcome) (.loaded outcome')
  | saved {token token' : CachedToken} (alike : token.Alike token')
      (outcome : Except StoreError Unit) :
      ActionsAlike d (.saved token outcome) (.saved token' outcome)

/-- The secret that is issued in an action: the body of a successful answer to a PUT. -/
def Action.issuedSecret? : Action → Option TokenSecret
  | .exchanged request answer =>
    if request.method = .put then (body? answer).map TokenSecret.mk else none
  | _ => none

section Values

variable {d : Descriptor}

instance : Std.Refl AnswersAlike where
  refl
    | .error cause => .failed cause
    | .ok ⟨status, body⟩ => .answered status body body

instance : Std.Refl LoadsAlike where
  refl
    | .error error => .failed error
    | .ok none => .empty
    | .ok (some token) => .brought (Std.Refl.refl token)

theorem RequestsAlike.method_eq {request request' : Request}
    (h : RequestsAlike d request request') : request.method = request'.method := by
  cases h <;> rfl

theorem RequestsAlike.url_eq {request request' : Request}
    (h : RequestsAlike d request request') : request.url = request'.url := by
  cases h <;> rfl

theorem body?_answered (status : UInt16) (body : String) :
    body? (.ok ⟨status, body⟩) = if status = Http.accepted then some body else none := by
  by_cases hok : status = Http.accepted <;> simp [body?, Http.accepted?, Response.isOk, hok]

/-- Either both answers bring a body, or neither does. -/
theorem AnswersAlike.bodies {answer answer' : Answer} (h : AnswersAlike answer answer') :
    Option.Rel (fun _ _ => True) (body? answer) (body? answer') := by
  cases h with
  | failed => exact .none
  | answered status body body' =>
    rw [body?_answered, body?_answered]
    split
    · exact .some trivial
    · exact .none

/-! ## Views of actions -/

namespace ActionsAlike

variable {a b : Action}

theorem event? (h : ActionsAlike d a b) : Option.Rel Eq a.event? b.event? := by
  cases h with
  | noted event => exact .some rfl
  | _ => exact .none

theorem count? (h : ActionsAlike d a b) : Option.Rel Eq a.count? b.count? := by
  cases h with
  | counted count => exact .some rfl
  | _ => exact .none

theorem request? (h : ActionsAlike d a b) :
    Option.Rel (RequestsAlike d) a.request? b.request? := by
  cases h with
  | exchanged hrequests hanswers => exact .some hrequests
  | _ => exact .none

/-- Either a secret is issued in both actions, or in neither. -/
theorem issuedSecret? (h : ActionsAlike d a b) :
    Option.Rel (fun _ _ => True) a.issuedSecret? b.issuedSecret? := by
  cases h with
  | @exchanged request request' answer answer' hrequests hanswers =>
    have hbodies := hanswers.bodies
    rw [Action.issuedSecret?, Action.issuedSecret?, hrequests.method_eq]
    generalize body? answer = found at hbodies ⊢
    generalize body? answer' = found' at hbodies ⊢
    split
    · cases hbodies with
      | none => exact .none
      | some => exact .some trivial
    · exact .none
  | _ => exact .none

end ActionsAlike

end Values

/-! ## Issued secrets -/

section Issued

variable {σ τ : Type} {world world' after after' : World σ τ}

/-- The secrets that the service has issued. -/
def World.issued (world : World σ τ) : List TokenSecret :=
  world.log.filterMap Action.issuedSecret?

/-- The secrets that were issued in two worlds, in their order, have the same fingerprints. -/
def IssuedAlike (world world' : World σ τ) : Prop :=
  ∀ (i : Nat) (a b : TokenSecret), world.issued[i]? = some a → world'.issued[i]? = some b → a.Alike b

/-- What holds of all secrets holds of those that were issued first. -/
theorem IssuedAlike.of_prefix (h : IssuedAlike after after')
    (hlog : world.log <+: after.log) (hlog' : world'.log <+: after'.log) :
    IssuedAlike world world' := by
  intro i a b ha hb
  have hissued : world.issued <+: after.issued := hlog.filterMap _
  have hissued' : world'.issued <+: after'.issued := hlog'.filterMap _
  obtain ⟨hlt, rfl⟩ := List.getElem?_eq_some_iff.1 ha
  obtain ⟨hlt', rfl⟩ := List.getElem?_eq_some_iff.1 hb
  exact h i _ _ (List.prefix_iff_getElem?.1 hissued i hlt)
    (List.prefix_iff_getElem?.1 hissued' i hlt')

end Issued

/-! ## Stores and transports -/

section States

variable {σ τ : Type} [TokenStore σ] [Transport τ] {d : Descriptor}

/-- Two states of a store are alike: however both are used from now on, with tokens that are alike,
the outcomes are alike. -/
def StoresAlike (s s' : σ) : Prop :=
  ∃ R : σ → σ → Prop, R s s' ∧ ∀ s s', R s s' →
    (LoadsAlike (TokenStore.load s).1 (TokenStore.load s').1 ∧
      R (TokenStore.load s).2 (TokenStore.load s').2) ∧
    ∀ token token' : CachedToken, token.Alike token' →
      (TokenStore.save token s).1 = (TokenStore.save token' s').1 ∧
        R (TokenStore.save token s).2 (TokenStore.save token' s').2

/-- Two states of a transport are alike: requests that are alike, one after the other, are answered
alike. -/
def TransportsAlike (d : Descriptor) (t t' : τ) : Prop :=
  ∃ R : τ → τ → Prop, R t t' ∧ ∀ t t', R t t' →
    ∀ request request', RequestsAlike d request request' →
      AnswersAlike (Transport.send request t).1 (Transport.send request' t').1 ∧
        R (Transport.send request t).2 (Transport.send request' t').2

theorem StoresAlike.load {s s' : σ} (h : StoresAlike s s') :
    LoadsAlike (TokenStore.load s).1 (TokenStore.load s').1 ∧
      StoresAlike (TokenStore.load s).2 (TokenStore.load s').2 := by
  obtain ⟨R, hstates, hkept⟩ := h
  obtain ⟨hloads, hafter⟩ := (hkept s s' hstates).1
  exact ⟨hloads, R, hafter, hkept⟩

theorem StoresAlike.save {s s' : σ} (h : StoresAlike s s') {token token' : CachedToken}
    (halike : token.Alike token') :
    (TokenStore.save token s).1 = (TokenStore.save token' s').1 ∧
      StoresAlike (TokenStore.save token s).2 (TokenStore.save token' s').2 := by
  obtain ⟨R, hstates, hkept⟩ := h
  obtain ⟨hsaves, hafter⟩ := (hkept s s' hstates).2 token token' halike
  exact ⟨hsaves, R, hafter, hkept⟩

theorem TransportsAlike.send {t t' : τ} (h : TransportsAlike d t t') {request request' : Request}
    (halike : RequestsAlike d request request') :
    AnswersAlike (Transport.send request t).1 (Transport.send request' t').1 ∧
      TransportsAlike d (Transport.send request t).2 (Transport.send request' t').2 := by
  obtain ⟨R, hstates, hkept⟩ := h
  obtain ⟨hanswers, hafter⟩ := hkept t t' hstates request request' halike
  exact ⟨hanswers, R, hafter, hkept⟩

/-- Stores in memory are alike when they hold tokens that are alike, or none. -/
theorem StoresAlike.memory {s s' : MemoryStore} (h : Option.Rel CachedToken.Alike s.cell s'.cell) :
    StoresAlike s s' := by
  refine ⟨fun s s' => Option.Rel CachedToken.Alike s.cell s'.cell, h, ?_⟩
  rintro ⟨cell⟩ ⟨cell'⟩ hcells
  refine ⟨⟨?_, hcells⟩, fun token token' halike => ⟨rfl, .some halike⟩⟩
  change LoadsAlike (.ok cell) (.ok cell')
  change Option.Rel CachedToken.Alike cell cell' at hcells
  cases hcells with
  | none => exact .empty
  | some halike => exact .brought halike

/-- Scripts are alike when their answers are, one after the other. -/
theorem TransportsAlike.script {t t' : Script} (h : List.Forall₂ AnswersAlike t.answers t'.answers) :
    TransportsAlike d t t' := by
  refine ⟨fun t t' => List.Forall₂ AnswersAlike t.answers t'.answers, h, ?_⟩
  rintro ⟨answers⟩ ⟨answers'⟩ hanswers request request' -
  change List.Forall₂ AnswersAlike answers answers' at hanswers
  cases hanswers with
  | nil => exact ⟨.failed _, .nil⟩
  | cons hfirst hrest => exact ⟨hfirst, hrest⟩

/-! ## Twins -/

/-- All that two worlds hold is the same up to secrets and bodies. -/
structure Twins (d : Descriptor) (world world' : World σ τ) : Prop where
  stores : StoresAlike world.store world'.store
  transports : TransportsAlike d world.transport world'.transport
  sessions : Option.Rel SessionToken.Alike world.session world'.session
  logs : List.Forall₂ (ActionsAlike d) world.log world'.log

variable {world world' : World σ τ}

theorem Twins.record (h : Twins d world world') {a b : Action} (halike : ActionsAlike d a b) :
    Twins d (world.record a) (world'.record b) where
  stores := h.stores
  transports := h.transports
  sessions := h.sessions
  logs := List.rel_append h.logs (.cons halike .nil)

/-- As many secrets were issued in one world as in the other. -/
theorem Twins.issued_length (h : Twins d world world') :
    world.issued.length = world'.issued.length :=
  (List.rel_filterMap (fun _ _ halike => ActionsAlike.issuedSecret? halike) h.logs).length_eq

end States

end Collection

end InstanceIdentity
