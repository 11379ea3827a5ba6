import InstanceIdentity.Proofs.Collection.Veil

/-!
# Paired work

Work in one run and work in another are paired when they keep worlds twins and bring results that are
alike, provided that the secrets that are issued to them have the same fingerprints.  These are
compared at the end of both, which is enough, for a log only grows.

Main results:

- Theorem `Paired.bind`: pieces of work that are paired can be put together.
- Theorem `Paired.send`: a request is answered alike, and what is issued has the same fingerprint.
-/

namespace InstanceIdentity.Collection

open Http (Request Answer Transport)
open Diagnostics (Note Span Outcome)

variable {σ τ α β : Type}

/-! ## Growth -/

/-- Work takes nothing out of the log. -/
def Grows (work : Work σ τ α) : Prop := ∀ world, world.log <+: (work.exec world).2.log

/-- The log in the middle of composed work is the start of the log after it. -/
theorem Grows.middle (work : Work σ τ α) {next : α → Work σ τ β} (hnext : ∀ a, Grows (next a))
    (world : World σ τ) : (work.exec world).2.log <+: ((work >>= next).exec world).2.log := by
  rcases hexec : work.exec world with ⟨result, after⟩
  cases result with
  | error e =>
    have hlog : ((work >>= next).exec world).2.log = after.log := by
      rw [Work.exec_bind_error hexec]
    exact ⟨[], (List.append_nil _).trans hlog.symm⟩
  | ok a =>
    rw [Work.exec_bind_ok hexec]
    exact hnext a after

theorem Grows.bind {work : Work σ τ α} {next : α → Work σ τ β} (hwork : Grows work)
    (hnext : ∀ a, Grows (next a)) : Grows (work >>= next) :=
  fun world => (hwork world).trans (Grows.middle work hnext world)

/-- A secret that is issued comes after those that were issued before. -/
theorem issued_send [Transport τ] {request : Request} {world : World σ τ} {body : String}
    (hput : request.method = .put)
    (hbody : body? (Transport.send request world.transport).1 = some body) :
    ((Work.send request).exec world).2.issued = world.issued ++ [⟨body⟩] := by
  have hsecret : Action.issuedSecret?
      (.exchanged request (Transport.send request world.transport).1) = some ⟨body⟩ := by
    rw [Action.issuedSecret?, if_pos hput, hbody, Option.map_some]
  change (world.log ++ [Action.exchanged request
    (Transport.send request world.transport).1]).filterMap Action.issuedSecret? = _
  rw [List.filterMap_append, List.filterMap_cons_some hsecret]
  rfl

/-! ## Pairs -/

/-- Two results are alike, or an instant went out of range in both. -/
inductive ResultsAlike (R : α → α → Prop) : Except OutOfRange α → Except OutOfRange α → Prop where
  | ok {a b : α} (alike : R a b) : ResultsAlike R (.ok a) (.ok b)
  | error (e : OutOfRange) : ResultsAlike R (.error e) (.error e)

variable [TokenStore σ] [Transport τ] {d : Descriptor}

/-- Two pieces of work keep worlds twins, and bring results that are alike. -/
structure Paired (d : Descriptor) (R : α → α → Prop) (work work' : Work σ τ α) : Prop where
  grows : Grows work
  grows' : Grows work'
  twins : ∀ {world world' : World σ τ}, Twins d world world' →
    IssuedAlike (work.exec world).2 (work'.exec world').2 →
      ResultsAlike R (work.exec world).1 (work'.exec world').1 ∧
        Twins d (work.exec world).2 (work'.exec world').2

/-- Two answers to a request are alike, and secrets that they issue have the same fingerprint. -/
structure Replies (request : Request) (answer answer' : Answer) : Prop where
  answers : AnswersAlike answer answer'
  issued : request.method = .put → ∀ body body', body? answer = some body →
    body? answer' = some body' → TokenSecret.Alike ⟨body⟩ ⟨body'⟩

instance {request : Request} : Std.Refl (Replies request) where
  refl answer := by
    refine ⟨Std.Refl.refl answer, ?_⟩
    intro _ body body' hbody hbody'
    cases hbody.symm.trans hbody'
    exact Std.Refl.refl _

namespace Paired

variable {R : α → α → Prop} {S : β → β → Prop} {work work' : Work σ τ α}
  {next next' : α → Work σ τ β}

theorem pure {a b : α} (h : R a b) :
    Paired d R (Pure.pure a : Work σ τ α) (Pure.pure b) where
  grows _ := List.prefix_refl _
  grows' _ := List.prefix_refl _
  twins htwins _ := ⟨.ok h, htwins⟩

/-- What follows on results that are alike may be paired by itself. -/
theorem bind [Std.Refl R] (hwork : Paired d R work work')
    (hnext : ∀ {a b}, R a b → Paired d S (next a) (next' b)) :
    Paired d S (work >>= next) (work' >>= next') where
  grows := hwork.grows.bind fun a => (hnext (Std.Refl.refl a)).grows
  grows' := hwork.grows'.bind fun a => (hnext (Std.Refl.refl a)).grows'
  twins := by
    intro world world' htwins hissued
    have hfirst : IssuedAlike (work.exec world).2 (work'.exec world').2 :=
      hissued.of_prefix (Grows.middle work (fun a => (hnext (Std.Refl.refl a)).grows) world)
        (Grows.middle work' (fun a => (hnext (Std.Refl.refl a)).grows') world')
    obtain ⟨hresults, hmiddle⟩ := hwork.twins htwins hfirst
    rcases hexec : work.exec world with ⟨result, after⟩
    rcases hexec' : work'.exec world' with ⟨result', after'⟩
    rw [hexec, hexec'] at hresults hmiddle
    cases hresults with
    | error e =>
      rw [Work.exec_bind_error hexec, Work.exec_bind_error hexec']
      exact ⟨.error e, hmiddle⟩
    | ok halike =>
      rw [Work.exec_bind_ok hexec, Work.exec_bind_ok hexec'] at hissued ⊢
      exact (hnext halike).twins hmiddle hissued

/-! The single steps of work. -/

theorem get : Paired d (fun world world' => Option.Rel SessionToken.Alike world.session world'.session)
    (MonadState.get : Work σ τ (World σ τ)) MonadState.get where
  grows _ := List.prefix_refl _
  grows' _ := List.prefix_refl _
  twins htwins _ := ⟨.ok htwins.sessions, htwins⟩

theorem note (spans : List Span) (note : Note) :
    Paired d Eq (Work.note spans note : Work σ τ Unit) (Work.note spans note) where
  grows _ := List.prefix_append _ _
  grows' _ := List.prefix_append _ _
  twins htwins _ := ⟨.ok rfl, htwins.record (.noted _)⟩

theorem count (provider : ProviderId) (target : Target) (outcome : Outcome) :
    Paired d Eq (Work.count provider target outcome : Work σ τ Unit)
      (Work.count provider target outcome) where
  grows _ := List.prefix_append _ _
  grows' _ := List.prefix_append _ _
  twins htwins _ := ⟨.ok rfl, htwins.record (.counted _)⟩

theorem load : Paired d LoadsAlike (Work.load : Work σ τ _) Work.load where
  grows _ := List.prefix_append _ _
  grows' _ := List.prefix_append _ _
  twins := by
    intro world world' htwins _
    obtain ⟨hloads, hstores⟩ := htwins.stores.load
    have hafter : Twins d { world with store := (TokenStore.load world.store).2 }
        { world' with store := (TokenStore.load world'.store).2 } :=
      { htwins with stores := hstores }
    exact ⟨.ok hloads, hafter.record (.loaded hloads)⟩

theorem save {token token' : CachedToken} (h : token.Alike token') :
    Paired d Eq (Work.save token : Work σ τ _) (Work.save token') where
  grows _ := List.prefix_append _ _
  grows' _ := List.prefix_append _ _
  twins := by
    intro world world' htwins _
    obtain ⟨hsaves, hstores⟩ := htwins.stores.save h
    have hafter : Twins d { world with store := (TokenStore.save token world.store).2 }
        { world' with store := (TokenStore.save token' world'.store).2 } :=
      { htwins with stores := hstores }
    have halike : ActionsAlike d (.saved token (TokenStore.save token world.store).1)
        (.saved token' (TokenStore.save token' world'.store).1) := by
      rw [hsaves]
      exact .saved h _
    exact ⟨.ok hsaves, hafter.record halike⟩

theorem remember {token token' : SessionToken} (h : token.Alike token') :
    Paired d Eq (Work.remember token : Work σ τ Unit) (Work.remember token') where
  grows _ := List.prefix_refl _
  grows' _ := List.prefix_refl _
  twins htwins _ := ⟨.ok rfl, { htwins with sessions := .some h }⟩

theorem expiry {token token' : SessionToken} (h : token.Alike token') :
    Paired d Eq (Work.expiry token : Work σ τ Instant) (Work.expiry token') := by
  have hsame : token.expiresAt? = token'.expiresAt? := by
    rw [SessionToken.expiresAt?, SessionToken.expiresAt?, h.createdAt, h.ttl]
  unfold Work.expiry
  rw [hsame]
  cases token'.expiresAt? with
  | some expiry => exact .pure rfl
  | none =>
    exact ⟨fun _ => List.prefix_refl _, fun _ => List.prefix_refl _,
      fun htwins _ => ⟨.error .expiry, htwins⟩⟩

theorem send {request request' : Request} (h : RequestsAlike d request request') :
    Paired d (Replies request) (Work.send request : Work σ τ Answer) (Work.send request') where
  grows _ := List.prefix_append _ _
  grows' _ := List.prefix_append _ _
  twins := by
    intro world world' htwins hissued
    obtain ⟨hanswers, htransports⟩ := htwins.transports.send h
    have hafter : Twins d { world with transport := (Transport.send request world.transport).2 }
        { world' with transport := (Transport.send request' world'.transport).2 } :=
      { htwins with transports := htransports }
    refine ⟨.ok ⟨hanswers, ?_⟩, hafter.record (.exchanged h hanswers)⟩
    intro hput body body' hbody hbody'
    -- Both secrets come right after those that were issued before, which are equally many.
    refine hissued world.issued.length ⟨body⟩ ⟨body'⟩ ?_ ?_
    · rw [issued_send hput hbody, List.getElem?_concat_length]
    · rw [issued_send (h.method_eq ▸ hput) hbody', htwins.issued_length,
        List.getElem?_concat_length]

end Paired

end InstanceIdentity.Collection
