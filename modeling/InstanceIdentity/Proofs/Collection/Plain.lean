import InstanceIdentity.Proofs.Collection.Protocol

/-!
# Plain actions

Whatever has to do with tokens is done in one piece of a call, in which a token is resolved.  All
the rest of a call is plain: it is the same for a provider without a token gate.  Views of the
actions that show nothing plain may therefore be taken of that piece alone.

Main results:

- Theorem `Encloses.filterMap_eq`: a view that shows no plain action shows what stands inside.
- Theorem `Performs.resolution`: at most one token is resolved in a call, and the rest is plain.
-/

namespace InstanceIdentity.Collection

open Http (Request Answer)
open Diagnostics (Span)

variable {d : Descriptor} {spans : List Span} {gate : TokenGate} {now : Instant}
  {held held' : Option SessionToken} {actions : List Action}

/-- An action that has to do with documents only: neither a use of the store nor a request for a
token. -/
inductive Plain : Action → Prop where
  | noted (event : Diagnostics.Event) : Plain (.noted event)
  | counted (count : Diagnostics.Count) : Plain (.counted count)
  | asked {request : Request} (get : request.method = .get) (answer : Answer) :
      Plain (.exchanged request answer)

namespace Plain

@[simp]
theorem noted_iff {event : Diagnostics.Event} : Plain (.noted event) ↔ True :=
  ⟨fun _ => trivial, fun _ => .noted event⟩

@[simp]
theorem counted_iff {count : Diagnostics.Count} : Plain (.counted count) ↔ True :=
  ⟨fun _ => trivial, fun _ => .counted count⟩

@[simp]
theorem exchanged_iff {request : Request} {answer : Answer} :
    Plain (.exchanged request answer) ↔ request.method = .get := by
  constructor
  · intro h
    cases h with
    | asked hget answer => exact hget
  · exact fun hget => .asked hget answer

@[simp]
theorem not_loaded {outcome : Except StoreError (Option CachedToken)} :
    ¬ Plain (.loaded outcome) := by
  rintro ⟨⟩

@[simp]
theorem not_saved {token : CachedToken} {outcome : Except StoreError Unit} :
    ¬ Plain (.saved token outcome) := by
  rintro ⟨⟩

end Plain

/-- Actions all of which are plain. -/
def AllPlain (actions : List Action) : Prop := ∀ action ∈ actions, Plain action

namespace AllPlain

@[simp]
theorem nil : AllPlain [] := by
  simp [AllPlain]

@[simp]
theorem cons_iff {action : Action} {actions : List Action} :
    AllPlain (action :: actions) ↔ Plain action ∧ AllPlain actions := by
  simp [AllPlain]

@[simp]
theorem append_iff {first second : List Action} :
    AllPlain (first ++ second) ↔ AllPlain first ∧ AllPlain second := by
  simp only [AllPlain, List.mem_append, or_imp, forall_and]

end AllPlain

/-! Requests for documents, and what is reported of them, are plain. -/

@[simp]
theorem allPlain_exchange_iff {target : Target} {request : Request} {answer : Answer} :
    AllPlain (exchange d spans target request answer) ↔ request.method = .get := by
  simp [exchange]

@[simp]
theorem allPlain_remarks {target : Target} {request : Request} {answer : Answer} :
    AllPlain (remarks d spans target request answer) := by
  unfold remarks
  split
  · exact .nil
  · simp

@[simp]
theorem allPlain_signatureRemarks {url : Url} {answer : Answer} :
    AllPlain (signatureRemarks d spans url answer) := by
  unfold signatureRemarks
  split
  · exact allPlain_remarks
  · exact .nil
  · simp

@[simp]
theorem getRequest_method {url : Url} : (d.getRequest url).method = .get :=
  rfl

@[simp]
theorem tokenRequest_method {secret : TokenSecret} : (d.tokenRequest gate secret).method = .get :=
  rfl

@[simp]
theorem issueRequest_method : (d.issueRequest gate).method = .put :=
  rfl

/-! ## What plain actions enclose -/

/-- Among some actions others stand together, and all the rest is plain. -/
def Encloses (actions inner : List Action) : Prop :=
  ∃ first last, actions = first ++ (inner ++ last) ∧ AllPlain first ∧ AllPlain last

namespace Encloses

variable {inner : List Action}

theorem refl : Encloses actions actions :=
  ⟨[], [], by simp, .nil, .nil⟩

theorem cons {action : Action} (hplain : Plain action) (h : Encloses actions inner) :
    Encloses (action :: actions) inner := by
  obtain ⟨first, last, rfl, hfirst, hlast⟩ := h
  exact ⟨action :: first, last, rfl, AllPlain.cons_iff.2 ⟨hplain, hfirst⟩, hlast⟩

theorem trans {innermost : List Action} (h : Encloses actions inner)
    (hinner : Encloses inner innermost) : Encloses actions innermost := by
  obtain ⟨first, last, rfl, hfirst, hlast⟩ := h
  obtain ⟨second, third, rfl, hsecond, hthird⟩ := hinner
  refine ⟨first ++ second, third ++ last, by simp only [List.append_assoc], ?_, ?_⟩
  · exact AllPlain.append_iff.2 ⟨hfirst, hsecond⟩
  · exact AllPlain.append_iff.2 ⟨hthird, hlast⟩

theorem subset (h : Encloses actions inner) : inner ⊆ actions := by
  obtain ⟨first, last, rfl, -, -⟩ := h
  exact List.subset_append_of_subset_right _ (List.subset_append_left _ _)

/-- What is not plain stands inside. -/
theorem mem_inner {action : Action} (h : Encloses actions inner) (hmem : action ∈ actions)
    (hplain : ¬ Plain action) : action ∈ inner := by
  obtain ⟨first, last, rfl, hfirst, hlast⟩ := h
  rcases List.mem_append.1 hmem with hmem | hmem
  · exact absurd (hfirst action hmem) hplain
  · rcases List.mem_append.1 hmem with hmem | hmem
    · exact hmem
    · exact absurd (hlast action hmem) hplain

/-- A view that shows no plain action shows what stands inside. -/
theorem filterMap_eq {α : Type} {view : Action → Option α} (h : Encloses actions inner)
    (hview : ∀ action, Plain action → view action = none) :
    actions.filterMap view = inner.filterMap view := by
  obtain ⟨first, last, rfl, hfirst, hlast⟩ := h
  have hnone : ∀ part : List Action, AllPlain part → part.filterMap view = [] := by
    intro part hpart
    exact List.filterMap_eq_nil_iff.2 fun action hmem => hview action (hpart action hmem)
  rw [List.filterMap_append, List.filterMap_append, hnone first hfirst, hnone last hlast,
    List.nil_append, List.append_nil]

end Encloses

theorem encloses_refusedFirst {answer : Answer} {inner last : List Action} (hlast : AllPlain last) :
    Encloses (refusedFirst d spans answer (inner ++ last)) inner := by
  let request := d.getRequest d.endpoints.metadata
  let note : Diagnostics.Note := .metadataRefused d.id (refusal d .metadata request answer)
  refine ⟨exchange d spans .metadata request answer ++ [.noted ⟨note, spans⟩], last, ?_, ?_, hlast⟩
  · simp [refusedFirst, request, note]
  · simp [request]

theorem encloses_refusedFirst_nil {answer : Answer} {inner : List Action} :
    Encloses (refusedFirst d spans answer inner) inner := by
  have hencloses : Encloses (refusedFirst d spans answer (inner ++ [])) inner :=
    encloses_refusedFirst .nil
  rwa [List.append_nil] at hencloses

/-! ## Where a token is resolved -/

/-- A token is resolved on the way to the metadata, or there is nothing but plain actions. -/
theorem Unlocks.resolution {result : Except OutOfRange (Option String)}
    (h : Unlocks d spans gate now held actions result held') :
    (held' = held ∧ AllPlain actions) ∨
      ∃ resolved found, Encloses actions resolved ∧
        Resolves d (spans ++ [tokenSpan d]) gate now held resolved found held' := by
  cases h with
  | opened => exact .inl ⟨rfl, by simp⟩
  | failed hrefused hresolves => exact .inr ⟨_, _, encloses_refusedFirst_nil, hresolves⟩
  | locked hrefused hresolves => exact .inr ⟨_, _, encloses_refusedFirst_nil, hresolves⟩
  | unlocked hrefused hresolves second =>
    exact .inr ⟨_, _, encloses_refusedFirst (by simp), hresolves⟩

/-- A token is resolved in a call, and the rest of it is plain, or all of it is plain. -/
theorem Performs.resolution {call : Call} {result : Except OutOfRange Yield}
    (h : Performs d now call held actions result held') :
    (held' = held ∧ AllPlain actions) ∨
      ∃ gate spans resolved found, d.gate? = some gate ∧ Encloses actions resolved ∧
        Resolves d spans gate now held resolved found held' := by
  cases h with
  | single => exact .inl ⟨rfl, by simp⟩
  | bundled => exact .inl ⟨rfl, by simp⟩
  | separate => exact .inl ⟨rfl, by simp⟩
  | ungated => exact .inl ⟨rfl, by simp⟩
  | token hgated hresolves => exact .inr ⟨_, _, _, _, hgated, .refl, hresolves⟩
  | gated hgated hunlocks =>
    rcases hunlocks.resolution with ⟨hsame, hplain⟩ | ⟨resolved, found, hencloses, hresolves⟩
    · exact .inl ⟨hsame, by simpa using hplain⟩
    · exact .inr ⟨_, _, resolved, found, Descriptor.gate?_eq_some_iff.2 hgated,
        hencloses.cons (.noted _), hresolves⟩

end InstanceIdentity.Collection
