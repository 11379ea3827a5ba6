import InstanceIdentity.Proofs.Provider.Drafting
import InstanceIdentity.Provider.Registry

/-!
# Registries as maps in the order of first registration

A registry is a map from providers to valid descriptors that lists its entries in the order in which
the providers first came.  What it holds is told from the descriptors that were registered with
success, in order: of those for one provider the last one counts, and the first one says where it
stands.

Main results:

- Theorem `Registry.Holds.place`: a registration with success keeps a registry in step with the
  registrations of the past.
- Theorem `Registry.Made.holds`: so does every way to make one.
- Theorem `Registry.ofDescriptors_eq`: a registry of given descriptors is made by registering them one
  by one, and the first fault is reported.
- Theorem `Registry.registrations_as_map`: what a registry holds after any registrations.
-/

namespace InstanceIdentity

/-- The rule that a descriptor breaks first. -/
def Descriptor.fault? (d : Descriptor) : Option DescriptorError :=
  match d.validate with
  | .ok () => none
  | .error error => some error

/-- A descriptor breaks no rule. -/
def Descriptor.IsValid (d : Descriptor) : Prop := d.validate = .ok ()

instance (d : Descriptor) : Decidable d.IsValid :=
  match h : d.validate with
  | .ok () => isTrue h
  | .error _ => isFalse fun hvalid => by
    rw [Descriptor.IsValid, h] at hvalid
    cases hvalid

theorem Descriptor.fault?_eq_none_iff {d : Descriptor} : d.fault? = none ↔ d.IsValid := by
  unfold Descriptor.fault? Descriptor.IsValid
  cases d.validate with
  | ok done => simp
  | error error => simp

theorem Descriptor.fault?_eq_some_iff {d : Descriptor} {error : DescriptorError} :
    d.fault? = some error ↔ d.validate = .error error := by
  unfold Descriptor.fault?
  cases d.validate with
  | ok done => simp
  | error other => simp

theorem ProviderId.value_inj {a b : ProviderId} : a.value = b.value ↔ a = b := by
  constructor
  · intro h
    cases a
    cases b
    cases h
    rfl
  · rintro rfl
    rfl

namespace Registry

variable {registry next : Registry} {d e : Descriptor} {ds past : List Descriptor}

/-! ## One registration -/

theorem ids_place (d : Descriptor) (ds : List Descriptor) :
    (place d ds).map (·.id) =
      if d.id ∈ ds.map (·.id) then ds.map (·.id) else ds.map (·.id) ++ [d.id] := by
  induction ds with
  | nil => rfl
  | cons e rest ih =>
    by_cases hsame : e.id = d.id
    · simp [place, hsame]
    · have hother : d.id ≠ e.id := Ne.symm hsame
      simp only [place, if_neg hsame, List.map_cons, ih, List.mem_cons, hother, false_or]
      split <;> rfl

/-- A registration changes what is found for its own provider alone. -/
theorem find?_place (d : Descriptor) (ds : List Descriptor) (id : String) :
    (place d ds).find? (·.id.value = id) =
      if d.id.value = id then some d else ds.find? (·.id.value = id) := by
  induction ds with
  | nil =>
    by_cases hown : d.id.value = id
    · simp [place, hown]
    · simp [place, hown]
  | cons e rest ih =>
    by_cases hsame : e.id = d.id
    · by_cases hown : d.id.value = id
      · simp [place, hsame, hown]
      · simp [place, hsame, hown]
    · by_cases hown : d.id.value = id
      · have hother : e.id.value ≠ id := by
          rw [← hown]
          exact fun h => hsame (ProviderId.value_inj.1 h)
        rw [place, if_neg hsame, List.find?_cons_of_neg (by simpa using hother), ih, if_pos hown,
          if_pos hown]
      · rw [place, if_neg hsame, List.find?_cons, List.find?_cons, ih, if_neg hown, if_neg hown]

theorem mem_place (h : e ∈ place d ds) : e = d ∨ e ∈ ds := by
  induction ds with
  | nil => exact .inl (List.mem_singleton.1 h)
  | cons first rest ih =>
    rw [place] at h
    split at h
    · exact (List.mem_cons.1 h).imp_right (List.mem_cons_of_mem _)
    · rcases List.mem_cons.1 h with rfl | h
      · exact .inr List.mem_cons_self
      · exact (ih h).imp_right (List.mem_cons_of_mem _)

/-- A registration succeeds when its descriptor is valid. -/
theorem register_eq_ok_iff :
    registry.register d = .ok next ↔ d.IsValid ∧ next = ⟨place d registry.descriptors⟩ := by
  unfold register Descriptor.IsValid
  cases d.validate with
  | ok done => simp [Except.map, eq_comm]
  | error error => simp [Except.map]

theorem register_eq_error_iff {error : DescriptorError} :
    registry.register d = .error error ↔ d.validate = .error error := by
  unfold register
  cases d.validate with
  | ok done => simp [Except.map]
  | error other => simp [Except.map]

/-! ## What was registered -/

/-- One more element changes the first occurrences only when it is new. -/
theorem eraseDups_concat {α : Type} [DecidableEq α] (xs : List α) (x : α) :
    (xs ++ [x]).eraseDups = if x ∈ xs then xs.eraseDups else xs.eraseDups ++ [x] := by
  rw [List.eraseDups_append]
  by_cases hknown : x ∈ xs
  · simp [List.removeAll, hknown]
  · simp [List.removeAll, hknown, List.eraseDups_cons]

/-- A registry holds what was registered: for each provider one valid descriptor, the last one, in the
order in which the providers first came. -/
structure Holds (past : List Descriptor) (registry : Registry) : Prop where
  distinct : registry.ids.Nodup
  valid : ∀ d ∈ registry.descriptors, d.IsValid
  order : registry.ids = (past.map (·.id)).eraseDups
  found : ∀ id, registry.get? id = past.reverse.find? (·.id.value = id)

theorem holds_nothing : Holds [] {} where
  distinct := List.nodup_nil
  valid := fun _ h => by cases h
  order := rfl
  found := fun _ => rfl

/-- A registration with success keeps a registry in step with the registrations of the past. -/
theorem Holds.place (h : Holds past registry) (hvalid : d.IsValid) :
    Holds (past ++ [d]) ⟨place d registry.descriptors⟩ where
  distinct := by
    rw [ids, ids_place]
    split
    · exact h.distinct
    · rename_i hfresh
      refine List.nodup_append.2 ⟨h.distinct, List.pairwise_singleton _ _, ?_⟩
      rintro id hknown _ hlisted rfl
      exact hfresh (List.mem_singleton.1 hlisted ▸ hknown)
  valid := by
    intro e held
    rcases mem_place held with rfl | held
    · exact hvalid
    · exact h.valid e held
  order := by
    have hknown : d.id ∈ registry.descriptors.map (·.id) ↔ d.id ∈ past.map (·.id) := by
      rw [← List.mem_eraseDups (l := past.map _), ← h.order, ids]
    rw [ids, ids_place, List.map_append, List.map_singleton, eraseDups_concat, ← h.order]
    by_cases hold : d.id ∈ past.map (·.id)
    · rw [if_pos hold, if_pos (hknown.2 hold), ids]
    · rw [if_neg hold, if_neg (mt hknown.1 hold), ids]
  found := by
    intro id
    rw [get?, find?_place, List.reverse_append, List.reverse_singleton, List.singleton_append,
      List.find?_cons, ← h.found, get?]
    by_cases hown : d.id.value = id
    · simp [hown]
    · simp [hown]

/-! ## Registering as an operation -/

/-- Registers a descriptor in a registry that is kept: the outcome, and the registry afterwards. -/
def enter (registry : Registry) (d : Descriptor) : Except DescriptorError Unit × Registry :=
  match registry.register d with
  | .ok next => (.ok (), next)
  | .error error => (.error error, registry)

/-- The registry after registrations, whether they succeed or not. -/
def enterAll (registry : Registry) (ds : List Descriptor) : Registry :=
  ds.foldl (fun registry d => (registry.enter d).2) registry

theorem enter_of_valid (registry : Registry) (hvalid : d.IsValid) :
    registry.enter d = (.ok (), ⟨place d registry.descriptors⟩) := by
  unfold enter
  rw [register_eq_ok_iff.2 ⟨hvalid, rfl⟩]

/-- A registration that fails leaves the registry as it was. -/
theorem enter_of_fault (registry : Registry) {error : DescriptorError}
    (hfault : d.validate = .error error) : registry.enter d = (.error error, registry) := by
  unfold enter
  rw [register_eq_error_iff.2 hfault]

theorem Holds.enter (h : Holds past registry) (d : Descriptor) :
    Holds (past ++ [d].filter (·.IsValid)) (registry.enter d).2 := by
  by_cases hvalid : d.IsValid
  · rw [enter_of_valid registry hvalid, List.filter_cons_of_pos (by simpa using hvalid),
      List.filter_nil]
    exact h.place hvalid
  · have hfault : d.fault? ≠ none := mt Descriptor.fault?_eq_none_iff.1 hvalid
    obtain ⟨error, hbroken⟩ := Option.ne_none_iff_exists'.1 hfault
    rw [enter_of_fault registry (Descriptor.fault?_eq_some_iff.1 hbroken),
      List.filter_cons_of_neg (by simpa using hvalid), List.filter_nil, List.append_nil]
    exact h

/-- After any registrations the registry holds those that succeeded. -/
theorem Holds.enterAll (h : Holds past registry) (ds : List Descriptor) :
    Holds (past ++ ds.filter (·.IsValid)) (registry.enterAll ds) := by
  induction ds generalizing registry past with
  | nil =>
    rw [List.filter_nil, List.append_nil]
    exact h
  | cons d rest ih =>
    have hfurther := ih (h.enter d)
    rw [List.append_assoc, ← List.filter_append, List.singleton_append] at hfurther
    exact hfurther

/-! ## Registries of given descriptors -/

/-- A registry of given descriptors is made by registering them one by one, and the first fault is
reported. -/
theorem foldlM_register (registry : Registry) (ds : List Descriptor) :
    ds.foldlM register registry =
      (ds.findSome? Descriptor.fault?).elim (.ok (registry.enterAll ds)) .error := by
  induction ds generalizing registry with
  | nil => rfl
  | cons d rest ih =>
    rw [List.foldlM_cons]
    cases hfault : d.fault? with
    | none =>
      have hvalid := Descriptor.fault?_eq_none_iff.1 hfault
      rw [register_eq_ok_iff.2 ⟨hvalid, rfl⟩, List.findSome?_cons, hfault, enterAll, List.foldl_cons,
        enter_of_valid registry hvalid]
      exact ih _
    | some error =>
      rw [register_eq_error_iff.2 (Descriptor.fault?_eq_some_iff.1 hfault), List.findSome?_cons, hfault]
      rfl

theorem ofDescriptors_eq (ds : List Descriptor) :
    ofDescriptors ds =
      (ds.findSome? Descriptor.fault?).elim (.ok (enterAll {} ds)) .error :=
  foldlM_register {} ds

theorem findSome?_fault?_eq_none_iff :
    ds.findSome? Descriptor.fault? = none ↔ ∀ d ∈ ds, d.IsValid := by
  rw [List.findSome?_eq_none_iff]
  exact forall₂_congr fun d _ => Descriptor.fault?_eq_none_iff

/-! ## The built-in providers -/

/-- A draft that can be finished makes a valid descriptor with the name that it began with. -/
theorem valid_of_build {draft : Draft} (hmade : draft.build = .ok d) : d.IsValid ∧ d.id = draft.id := by
  obtain ⟨metadata, signature, -, -, rfl, hvalid⟩ := Draft.build_eq_ok_iff.1 hmade
  exact ⟨hvalid, rfl⟩

theorem valid_of_assemble {draft : Draft} {steps : List Draft.Step}
    (hmade : Builtin.assemble draft steps = .ok d) : d.IsValid ∧ d.id = draft.id := by
  unfold Builtin.assemble at hmade
  cases hbuilt : (draft.takeAll steps).build with
  | error error =>
    rw [hbuilt] at hmade
    cases hmade
  | ok descriptor =>
    rw [hbuilt] at hmade
    cases hmade
    obtain ⟨hvalid, hnamed⟩ := valid_of_build hbuilt
    exact ⟨hvalid, hnamed.trans (draft.id_takeAll steps)⟩

theorem value_of_provider {name : String} {id : ProviderId} (hmade : Builtin.provider name = .ok id) :
    id.value = name := by
  unfold Builtin.provider at hmade
  cases hread : ProviderId.ofText name with
  | error error =>
    rw [hread] at hmade
    cases hmade
  | ok other =>
    rw [hread] at hmade
    cases hmade
    exact ProviderId.ofText_eq_ok_iff.1 hread

theorem aws_valid (hmade : Builtin.aws = .ok d) : d.IsValid ∧ d.id.value = "aws" := by
  unfold Builtin.aws at hmade
  obtain ⟨tokenUrl, -, hmade⟩ := bind_eq_ok_iff.1 hmade
  obtain ⟨id, hnamed, hmade⟩ := bind_eq_ok_iff.1 hmade
  obtain ⟨metadata, -, hmade⟩ := bind_eq_ok_iff.1 hmade
  obtain ⟨signature, -, hmade⟩ := bind_eq_ok_iff.1 hmade
  obtain ⟨hvalid, hsame⟩ := valid_of_assemble hmade
  exact ⟨hvalid, hsame ▸ value_of_provider hnamed⟩

theorem azure_valid (hmade : Builtin.azure = .ok d) : d.IsValid ∧ d.id.value = "azure" := by
  unfold Builtin.azure at hmade
  obtain ⟨id, hnamed, hmade⟩ := bind_eq_ok_iff.1 hmade
  obtain ⟨metadata, -, hmade⟩ := bind_eq_ok_iff.1 hmade
  obtain ⟨signature, -, hmade⟩ := bind_eq_ok_iff.1 hmade
  obtain ⟨hvalid, hsame⟩ := valid_of_assemble hmade
  exact ⟨hvalid, hsame ▸ value_of_provider hnamed⟩

theorem gcp_valid (hmade : Builtin.gcp = .ok d) : d.IsValid ∧ d.id.value = "gcp" := by
  unfold Builtin.gcp at hmade
  obtain ⟨metadata, -, hmade⟩ := bind_eq_ok_iff.1 hmade
  obtain ⟨id, hnamed, hmade⟩ := bind_eq_ok_iff.1 hmade
  obtain ⟨hvalid, hsame⟩ := valid_of_assemble hmade
  exact ⟨hvalid, hsame ▸ value_of_provider hnamed⟩

/-- The built-in providers have descriptors that are valid and differ in their names, so that it is as
if they were registered one by one. -/
theorem holds_builtin (hmade : builtin = .ok registry) : Holds registry.descriptors registry := by
  unfold builtin at hmade
  obtain ⟨aws, hawsMade, hmade⟩ := bind_eq_ok_iff.1 hmade
  obtain ⟨azure, hazureMade, hmade⟩ := bind_eq_ok_iff.1 hmade
  obtain ⟨gcp, hgcpMade, hmade⟩ := bind_eq_ok_iff.1 hmade
  cases hmade
  obtain ⟨hawsValid, hawsNamed⟩ := aws_valid hawsMade
  obtain ⟨hazureValid, hazureNamed⟩ := azure_valid hazureMade
  obtain ⟨hgcpValid, hgcpNamed⟩ := gcp_valid hgcpMade
  have hapart {a b : ProviderId} (h : a.value ≠ b.value) : a ≠ b := mt ProviderId.value_inj.2 h
  have hfirst : aws.id ≠ azure.id := hapart (by rw [hawsNamed, hazureNamed]; decide)
  have hsecond : aws.id ≠ gcp.id := hapart (by rw [hawsNamed, hgcpNamed]; decide)
  have hthird : azure.id ≠ gcp.id := hapart (by rw [hazureNamed, hgcpNamed]; decide)
  have held := ((holds_nothing.place hawsValid).place hazureValid).place hgcpValid
  simpa [place, hfirst, hsecond, hthird] using held

/-! ## All operations -/

/-- How a registry is made, and the descriptors that are registered thereby. -/
inductive Made : List Descriptor → Registry → Prop
  | empty : Made [] {}
  | builtin {registry : Registry} (made : builtin = .ok registry) : Made registry.descriptors registry
  | ofDescriptors {ds : List Descriptor} {registry : Registry} (made : ofDescriptors ds = .ok registry) :
      Made ds registry

theorem Made.holds (hmade : Made past registry) : Holds past registry := by
  cases hmade with
  | empty => exact holds_nothing
  | builtin hmade => exact holds_builtin hmade
  | ofDescriptors hmade =>
    rw [ofDescriptors_eq] at hmade
    cases hfault : past.findSome? Descriptor.fault? with
    | some error =>
      rw [hfault] at hmade
      cases hmade
    | none =>
      rw [hfault] at hmade
      cases hmade
      have held := holds_nothing.enterAll past
      have hvalid : past.filter (·.IsValid) = past :=
        List.filter_eq_self.2 fun d hlisted => by
          simpa using findSome?_fault?_eq_none_iff.1 hfault d hlisted
      rwa [hvalid] at held

/-- After any registrations a registry is a map from providers to valid descriptors.  Its order is
that in which the providers were first registered with success, it finds what was last registered with
success, and a registration that fails leaves it alone.  A registry of given descriptors is made by
registering them one by one on an empty one when all are valid, and else the fault of the first that
is not is reported. -/
theorem registrations_as_map (hmade : Made past registry) (calls : List Descriptor) :
    let final := registry.enterAll calls
    let registered := past ++ calls.filter (·.IsValid)
    final.ids.Nodup ∧
    (∀ d ∈ final.descriptors, d.validate = .ok ()) ∧
    final.ids = (registered.map (·.id)).eraseDups ∧
    (∀ id, final.get? id = registered.reverse.find? (·.id.value = id)) ∧
    (∀ d, d.validate = .ok () → (final.enter d).1 = .ok ()) ∧
    (∀ d error, d.validate = .error error → final.enter d = (.error error, final)) ∧
    (∀ ds, (∀ d ∈ ds, d.validate = .ok ()) → ofDescriptors ds = .ok (enterAll {} ds)) ∧
    ∀ front d rest error, (∀ e ∈ front, e.validate = .ok ()) → d.validate = .error error →
      ofDescriptors (front ++ d :: rest) = .error error := by
  intro final registered
  have held : Holds registered final := hmade.holds.enterAll calls
  refine ⟨held.distinct, held.valid, held.order, held.found, ?_, ?_, ?_, ?_⟩
  · intro d hvalid
    rw [enter_of_valid final hvalid]
  · intro d error hfault
    exact enter_of_fault final hfault
  · intro ds hvalid
    rw [ofDescriptors_eq, findSome?_fault?_eq_none_iff.2 hvalid]
    rfl
  · intro front d rest error hvalid hfault
    rw [ofDescriptors_eq, List.findSome?_append, findSome?_fault?_eq_none_iff.2 hvalid,
      List.findSome?_cons, Descriptor.fault?_eq_some_iff.2 hfault]
    rfl

/-- A descriptor that breaks a rule is refused between two for one provider. -/
theorem registrations_as_map_replaced :
    let d := Descriptor.linkLocal
    let broken := { d with headers := Dictionary.empty.insert "Bad Header" "x" }
    let second := { d with metadataContentType := "text/html" }
    let final := enterAll {} [d, broken, second]
    Made [] {} ∧ final.ids.Nodup ∧ final.ids = [d.id] ∧
      final.get? "link-local" = some second ∧
      final.enter broken = (.error (.invalidHeaderName "Bad Header"), final) := by
  intro d broken second final
  obtain ⟨hdistinct, -, horder, hfound, -, hkept, -⟩ :=
    registrations_as_map .empty [d, broken, second]
  refine ⟨.empty, hdistinct, horder.trans rfl, (hfound "link-local").trans rfl, ?_⟩
  exact hkept broken _ rfl

end Registry

end InstanceIdentity
