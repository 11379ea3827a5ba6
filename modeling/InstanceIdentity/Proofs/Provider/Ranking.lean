import InstanceIdentity.Proofs.Binary64.Order
import InstanceIdentity.Proofs.Provider.Registry
import Mathlib.Data.List.Nodup

/-!
# What a ranking says

A ranking lists providers of a registry, none twice.  It begins with the strong matches in the order of
registration, and then come the other providers with a positive likelihood, by falling likelihood and
among equals in the order of registration.  When strong matches are preferred and there are any, the
others are left out.

Main results:

- Theorem `stable_mergeSort`: sorting orders the elements of a list and keeps the order of equal ones.
- Theorem `Registry.rank_combined`, theorem `Registry.rank_strongPreferred`: rankings in terms of the
  descriptors.
- Theorem `Registry.rankings`: what rankings of a registry say, for any registrations.
-/

namespace InstanceIdentity

/-! ## Stable sorting -/

section Sorting

variable {α : Type} {xs : List α} {a b : α}

/-- Two elements of a list stand in it in one order or the other. -/
theorem pair_sublist_or (hfirst : a ∈ xs) (hsecond : b ∈ xs) (hother : a ≠ b) :
    [a, b].Sublist xs ∨ [b, a].Sublist xs := by
  induction xs with
  | nil => cases hfirst
  | cons x rest ih =>
    rcases List.mem_cons.1 hfirst with rfl | hearly
    · have hlater := (List.mem_cons.1 hsecond).resolve_left hother.symm
      exact .inl ((List.singleton_sublist.2 hlater).cons_cons _)
    · rcases List.mem_cons.1 hsecond with rfl | hlate
      · exact .inr ((List.singleton_sublist.2 hearly).cons_cons _)
      · exact (ih hearly hlate).imp (.cons _) (.cons _)

/-- In a list without repetitions two elements do not stand in both orders. -/
theorem not_pair_sublist_swap (hdistinct : xs.Nodup) (h : [a, b].Sublist xs) :
    ¬ [b, a].Sublist xs := by
  intro hswapped
  induction xs with
  | nil => cases h
  | cons x rest ih =>
    obtain ⟨hfresh, hdistinct⟩ := List.nodup_cons.1 hdistinct
    cases h with
    | cons _ h =>
      cases hswapped with
      | cons _ hswapped => exact ih hdistinct h hswapped
      | cons_cons _ hswapped => exact hfresh (h.subset (by simp))
    | cons_cons _ h =>
      cases hswapped with
      | cons _ hswapped => exact hfresh (hswapped.subset (by simp))
      | cons_cons _ hswapped => exact hfresh (h.subset (by simp))

/-- Sorting orders the elements of a list and keeps the order of those that are equally good. -/
theorem stable_mergeSort (xs : List α) (le : α → α → Bool) (htrans : ∀ a b c, le a b → le b c → le a c)
    (htotal : ∀ a b, le a b || le b a) (hdistinct : xs.Nodup) :
    (xs.mergeSort le).Pairwise fun a b => le a b ∧ (le b a → [a, b].Sublist xs) := by
  have hkept : (xs.mergeSort le).Nodup := (List.mergeSort_perm xs le).nodup_iff.2 hdistinct
  refine List.pairwise_iff_forall_sublist.2 fun {a b} hplaced => ⟨?_, fun hequal => ?_⟩
  · exact List.pairwise_iff_forall_sublist.1 (List.pairwise_mergeSort htrans htotal xs) hplaced
  · have hother : a ≠ b := List.pairwise_iff_forall_sublist.1 hkept hplaced
    have hlisted {c : α} (h : c ∈ [a, b]) : c ∈ xs := List.mem_mergeSort.1 (hplaced.subset h)
    refine (pair_sublist_or (hlisted (by simp)) (hlisted (by simp)) hother).resolve_right fun
      hswapped => ?_
    exact not_pair_sublist_swap hkept hplaced (List.pair_sublist_mergeSort htrans htotal hequal hswapped)

end Sorting

namespace Registry

variable {registry : Registry} {facts : FactSet}

/-! ## Rankings of descriptors -/

/-- What the profile of a descriptor says about a host. -/
def verdict (facts : FactSet) (d : Descriptor) : Detection.Result := d.detection.evaluate d.id facts

/-- A strong signal of a descriptor matches. -/
def strong (facts : FactSet) (d : Descriptor) : Bool := (verdict facts d).isOnProvider

/-- The likelihood that a descriptor gives a host. -/
def likelihood (facts : FactSet) (d : Descriptor) : Binary64 := (verdict facts d).likelihood

/-- The first comes before the second when it is at least as likely. -/
def ahead (facts : FactSet) (a b : Descriptor) : Bool :=
  decide ((likelihood facts b).orderKey ≤ (likelihood facts a).orderKey)

/-- The descriptors with a strong match, in the order of registration. -/
def strongs (registry : Registry) (facts : FactSet) : List Descriptor :=
  registry.descriptors.filter (strong facts)

/-- The descriptors without a strong match that come into question, most likely first. -/
def others (registry : Registry) (facts : FactSet) : List Descriptor :=
  (registry.descriptors.filter fun d => !strong facts d && (likelihood facts d).isPositive).mergeSort
    (ahead facts)

theorem detect_strongs (registry : Registry) (facts : FactSet) :
    (registry.detect facts).filter (·.isOnProvider) = (registry.strongs facts).map (verdict facts) :=
  List.filter_map

theorem weakCandidates_detect (registry : Registry) (facts : FactSet) :
    Detection.weakCandidates (registry.detect facts) = (registry.others facts).map (verdict facts) := by
  have hsorted (ds : List Descriptor) :=
    List.map_mergeSort (l := ds) (f := verdict facts) (r := ahead facts)
      (s := fun a b => decide (b.likelihood.orderKey ≤ a.likelihood.orderKey)) fun _ _ _ _ => rfl
  rw [others, hsorted]
  exact congrArg (List.mergeSort · _) List.filter_map

theorem rank_combined (registry : Registry) (facts : FactSet) :
    registry.rank facts .combined =
      (registry.strongs facts ++ registry.others facts).map (·.id) := by
  unfold rank Detection.rankResults
  dsimp only
  rw [weakCandidates_detect, detect_strongs, ← List.map_append, List.map_map]
  rfl

/-- With a strong match the strong matches are all that is left of a ranking. -/
theorem rank_strongPreferred (registry : Registry) (facts : FactSet) :
    registry.rank facts .strongPreferred =
      if registry.strongs facts = [] then registry.rank facts .combined
      else (registry.strongs facts).map (·.id) := by
  rw [rank_combined]
  unfold rank Detection.rankResults
  rw [weakCandidates_detect, detect_strongs]
  cases registry.strongs facts with
  | nil =>
    rw [if_pos rfl]
    exact List.map_map
  | cons first rest =>
    rw [if_neg (List.cons_ne_nil _ _)]
    exact List.map_map

theorem mem_others {d : Descriptor} :
    d ∈ registry.others facts ↔
      d ∈ registry.descriptors ∧ strong facts d = false ∧ Binary64.zero < likelihood facts d := by
  rw [others, List.mem_mergeSort, List.mem_filter, Bool.and_eq_true, Bool.not_eq_true',
    Binary64.isPositive_iff]

/-- The other candidates come by falling likelihood, and equal ones in the order of registration. -/
theorem others_ordered (hdistinct : registry.ids.Nodup) (facts : FactSet) :
    (registry.others facts).Pairwise fun a b =>
      likelihood facts b ≤ likelihood facts a ∧
        (likelihood facts a ≤ likelihood facts b → [a, b].Sublist registry.descriptors) := by
  have hsorted := stable_mergeSort
    (registry.descriptors.filter fun d => !strong facts d && (likelihood facts d).isPositive)
    (ahead facts) (fun a b c hfirst hsecond => decide_eq_true (Int.le_trans (of_decide_eq_true hsecond)
      (of_decide_eq_true hfirst)))
    (fun a b => by
      rw [ahead, ahead, Bool.or_eq_true, decide_eq_true_eq, decide_eq_true_eq]
      exact Int.le_total _ _)
    ((List.Nodup.of_map _ hdistinct).filter _)
  have hpositive {d : Descriptor} (h : d ∈ registry.others facts) :
      (likelihood facts d).isPositive = true := Binary64.isPositive_iff.2 (mem_others.1 h).2.2
  refine hsorted.imp_of_mem fun {a b} hfirst hsecond ⟨hfalling, hstable⟩ => ?_
  have hcompare {c d : Descriptor} (hleft : c ∈ registry.others facts)
      (hright : d ∈ registry.others facts) :
      ahead facts c d = true ↔ likelihood facts d ≤ likelihood facts c := by
    rw [ahead, decide_eq_true_eq, Binary64.orderKey_le_iff (hpositive hright) (hpositive hleft)]
  refine ⟨(hcompare hfirst hsecond).1 hfalling, fun hequal => ?_⟩
  exact (hstable ((hcompare hsecond hfirst).2 hequal)).trans List.filter_sublist

/-- No provider is ranked twice. -/
theorem nodup_rank_combined (hdistinct : registry.ids.Nodup) (facts : FactSet) :
    (registry.rank facts .combined).Nodup := by
  have hdescriptors : registry.descriptors.Nodup := List.Nodup.of_map _ hdistinct
  have hlisted : registry.strongs facts ++ registry.others facts ⊆ registry.descriptors := by
    intro d h
    rcases List.mem_append.1 h with h | h
    · exact (List.mem_filter.1 h).1
    · exact (mem_others.1 h).1
  rw [rank_combined]
  refine List.Nodup.map_on (fun a hfirst b hsecond hsame =>
    List.inj_on_of_nodup_map hdistinct (hlisted hfirst) (hlisted hsecond) hsame) ?_
  refine List.nodup_append.2 ⟨hdescriptors.filter _, ?_, ?_⟩
  · exact (List.mergeSort_perm _ _).nodup_iff.2 (hdescriptors.filter _)
  · rintro a hfirst _ hsecond rfl
    have hmatched : strong facts a = true := (List.mem_filter.1 hfirst).2
    exact Bool.false_ne_true ((mem_others.1 hsecond).2.1.symm.trans hmatched)

theorem rank_strongPreferred_leads (registry : Registry) (facts : FactSet) :
    registry.rank facts .strongPreferred <+: registry.rank facts .combined := by
  rw [rank_strongPreferred]
  split
  · exact List.prefix_rfl
  · rw [rank_combined, List.map_append]
    exact List.prefix_append _ _

theorem get?_eq_some_iff (hdistinct : registry.ids.Nodup) {id : ProviderId} {d : Descriptor} :
    registry.get? id.value = some d ↔ d ∈ registry.descriptors ∧ d.id = id := by
  have hsound {e : Descriptor} (hfound : registry.get? id.value = some e) :
      e ∈ registry.descriptors ∧ e.id = id := by
    have hnamed := List.find?_some hfound
    exact ⟨List.mem_of_find?_eq_some hfound, ProviderId.value_inj.1 (by simpa using hnamed)⟩
  refine ⟨hsound, fun ⟨hlisted, hnamed⟩ => ?_⟩
  cases hfound : registry.get? id.value with
  | none =>
    have hunnamed := List.find?_eq_none.1 hfound d hlisted
    simp [hnamed] at hunnamed
  | some e =>
    obtain ⟨hpresent, hsame⟩ := hsound hfound
    rw [List.inj_on_of_nodup_map hdistinct hpresent hlisted (hsame.trans hnamed.symm)]

/-- A provider is ranked when its descriptor has a strong match or a likelihood above zero. -/
theorem mem_rank_combined (hdistinct : registry.ids.Nodup) {id : ProviderId} :
    id ∈ registry.rank facts .combined ↔
      ∃ d, registry.get? id.value = some d ∧
        (strong facts d = true ∨ Binary64.zero < likelihood facts d) := by
  rw [rank_combined, List.mem_map]
  refine exists_congr fun d => ?_
  rw [get?_eq_some_iff hdistinct, List.mem_append, mem_others, strongs, List.mem_filter]
  cases strong facts d <;> simp [and_comm, and_assoc]

/-! ## All rankings -/

/-- After any registrations a ranking lists no provider twice.  It consists of the strong matches in the
order of registration and then the other providers with a likelihood above zero, by falling likelihood
and among equals in the order of registration.  When strong matches are preferred and there are any, it
consists of those alone, so that it always begins the ranking of all candidates. -/
theorem rankings {past : List Descriptor} {start : Registry} (hmade : Made past start)
    (calls : List Descriptor) (facts : FactSet) :
    let registry := start.enterAll calls
    let verdict (d : Descriptor) := d.detection.evaluate d.id facts
    let strongs := registry.descriptors.filter fun d => (verdict d).isOnProvider
    (∀ mode, (registry.rank facts mode).Nodup) ∧
    (∀ id, id ∈ registry.rank facts .combined ↔
      ∃ d, registry.get? id.value = some d ∧
        ((verdict d).isOnProvider = true ∨ Binary64.zero < (verdict d).likelihood)) ∧
    (∃ others : List Descriptor,
      registry.rank facts .combined = strongs.map (·.id) ++ others.map (·.id) ∧
      (∀ d ∈ others, d ∈ registry.descriptors ∧ (verdict d).isOnProvider = false) ∧
      others.Pairwise fun a b =>
        (verdict b).likelihood ≤ (verdict a).likelihood ∧
          ((verdict a).likelihood ≤ (verdict b).likelihood → [a, b].Sublist registry.descriptors)) ∧
    (strongs ≠ [] → registry.rank facts .strongPreferred = strongs.map (·.id)) ∧
    (strongs = [] → registry.rank facts .strongPreferred = registry.rank facts .combined) ∧
    registry.rank facts .strongPreferred <+: registry.rank facts .combined := by
  intro registry verdict strongs
  have hdistinct : registry.ids.Nodup := (hmade.holds.enterAll calls).distinct
  have hpreferred := rank_strongPreferred registry facts
  refine ⟨?_, fun id => mem_rank_combined hdistinct, ?_, ?_, ?_, rank_strongPreferred_leads _ _⟩
  · rintro (_ | _)
    · exact nodup_rank_combined hdistinct facts
    · exact (nodup_rank_combined hdistinct facts).sublist (rank_strongPreferred_leads _ _).sublist
  · refine ⟨registry.others facts, ?_, ?_, others_ordered hdistinct facts⟩
    · rw [rank_combined, List.map_append]
      rfl
    · exact fun d h => ⟨(mem_others.1 h).1, (mem_others.1 h).2.1⟩
  · intro hsome
    rw [hpreferred]
    exact if_neg hsome
  · intro hnone
    rw [hpreferred]
    exact if_pos hnone

/-- A strong match comes before a provider that is merely likely and was registered first. -/
theorem rankings_two :
    let likely := { Descriptor.linkLocal with
      detection := Detection.Profile.hypervisor {} "kvm" (.finite false ⟨1, by decide⟩) }
    let named := { Descriptor.linkLocal with
      id := ⟨"named", by decide, by decide, List.all_eq_true.1 rfl⟩
      detection := Detection.Profile.strong {} "bios.vendor" "Acme" .equals }
    let facts := FactSet.ofList
      [(guestKey, .flag true), (hypervisorKey, .text "kvm"), ("bios.vendor", .text "Acme")]
    let registry := enterAll {} [likely, named]
    Made [] {} ∧ (registry.rank facts .combined).Nodup ∧
      registry.rank facts .combined = [named.id, likely.id] ∧
      registry.rank facts .strongPreferred = [named.id] := by
  intro likely named facts registry
  obtain ⟨hdistinct, -, -, hpreferred, -, -⟩ := rankings .empty [likely, named] facts
  refine ⟨.empty, hdistinct .combined, by decide +kernel, ?_⟩
  exact (hpreferred (by decide +kernel)).trans (by decide +kernel)

end Registry

end InstanceIdentity
