import InstanceIdentity.Detection.Detector
import InstanceIdentity.Proofs.Facts.Lookup
import Mathlib.Data.List.FinRange

/-!
# What a profile says about a host

The answers of a profile are told by the facts alone, without the order in which the facts are gone
through.  A tier counts when some textual fact contains its keyword and none of a higher tier, so that a
tier which is hidden in one fact may still count because of another.

Main results:

- Theorem `Detection.Profile.keywordHits_eq`: the tiers that are marked are the ones that some fact
  shows.
- Theorem `Detection.Profile.likelihood_eq`: the likelihood of a guest as a sum of weights.
- Theorem `Detection.Profile.evaluation`: all answers of a profile, for all facts.
-/

namespace InstanceIdentity

namespace Detection

/-! ## Single signals -/

section Signals

variable {facts : FactSet}

/-- What it means that a matcher accepts a value. -/
def Matcher.Accepts (matcher : Matcher) (value needle : String) : Prop :=
  match matcher with
  | .contains => needle.toList <:+: value.toList
  | .containsIgnoringCase => (Text.lower needle).toList <:+: (Text.lower value).toList
  | .equals => value = needle

theorem Matcher.matches_iff {matcher : Matcher} {value needle : String} :
    matcher.matches value needle = true ↔ matcher.Accepts value needle := by
  cases matcher with
  | contains => exact Text.contains_iff
  | containsIgnoringCase => exact Text.contains_iff
  | equals => exact decide_eq_true_iff

theorem StrongSignal.matches_iff {signal : StrongSignal} :
    signal.matches facts = true ↔
      ∃ value, facts.get? signal.fact = some (.text value) ∧
        signal.matcher.Accepts value signal.needle := by
  simp only [StrongSignal.matches, Option.any_eq_true, FactSet.text?_eq_some_iff, Matcher.matches_iff]

theorem HypervisorWeight.matches_iff {entry : HypervisorWeight} {name : String} :
    entry.matches name = true ↔ entry.needle.toList <:+: name.toList :=
  Text.contains_iff

theorem PrefixSignal.matches_iff {signal : PrefixSignal} :
    signal.matches facts = true ↔
      ∃ value, facts.get? signal.fact = some (.text value) ∧
        (Text.lower signal.start).toList <+: (Text.lower value).toList := by
  simp only [PrefixSignal.matches, Option.any_eq_true, FactSet.text?_eq_some_iff, Text.startsWith_iff]

/-- A value contains the keyword of a tier, whatever its case. -/
def KeywordTier.OccursIn (tier : KeywordTier) (value : String) : Prop :=
  (Text.lower tier.keyword).toList <:+: (Text.lower value).toList

theorem KeywordTier.foundIn_iff {tier : KeywordTier} {value : String} :
    tier.foundIn (Text.lower value) = true ↔ tier.OccursIn value :=
  Text.contains_iff

end Signals

namespace Profile

variable {profile : Profile} {facts : FactSet}

/-! ## Strong signals and hypervisors -/

theorem strongMatch?_isSome (hguest : facts.isGuest = true) :
    (profile.strongMatch? facts).isSome = true ↔
      ∃ signal ∈ profile.strongSignals, signal.matches facts = true := by
  rw [strongMatch?, if_pos hguest, List.find?_isSome]

/-- The weight is the first one whose needle the textual name of the hypervisor contains. -/
def FirstHypervisor (profile : Profile) (facts : FactSet) (entry : HypervisorWeight) : Prop :=
  ∃ name before after, facts.get? hypervisorKey = some (.text name) ∧
    profile.hypervisorWeights = before ++ entry :: after ∧
    entry.needle.toList <:+: name.toList ∧
    ∀ other ∈ before, ¬ other.needle.toList <:+: name.toList

theorem hypervisorMatch?_eq_some_iff {entry : HypervisorWeight} :
    profile.hypervisorMatch? facts = some entry ↔ profile.FirstHypervisor facts entry := by
  simp only [hypervisorMatch?, Option.bind_eq_some_iff, FactSet.text?_eq_some_iff,
    List.find?_eq_some_iff_append, Bool.not_eq_true', ← Bool.not_eq_true, HypervisorWeight.matches_iff]
  constructor
  · rintro ⟨name, hnamed, hfits, before, after, hparts, hothers⟩
    exact ⟨name, before, after, hnamed, hparts, hfits, hothers⟩
  · rintro ⟨name, before, after, hnamed, hparts, hfits, hothers⟩
    exact ⟨name, hnamed, hfits, before, after, hparts, hothers⟩

/-! ## Keyword tiers -/

/-- Some textual fact contains the keyword of a tier and of no higher one. -/
def Shows (profile : Profile) (facts : FactSet) (i : Fin profile.keywordTiers.length) : Prop :=
  ∃ key value, facts.get? key = some (.text value) ∧ profile.keywordTiers[i].OccursIn value ∧
    ∀ j < i, ¬ profile.keywordTiers[j].OccursIn value

/-- The highest tier in a value. -/
theorem findIdx?_eq_some_iff {value : String} (i : Fin profile.keywordTiers.length) :
    profile.keywordTiers.findIdx? (·.foundIn (Text.lower value)) = some i.val ↔
      profile.keywordTiers[i].OccursIn value ∧ ∀ j < i, ¬ profile.keywordTiers[j].OccursIn value := by
  simp only [List.findIdx?_eq_some_iff_getElem, KeywordTier.foundIn_iff]
  constructor
  · rintro ⟨_, hown, hnone⟩
    exact ⟨hown, fun j hbelow => hnone j hbelow⟩
  · rintro ⟨hown, hnone⟩
    exact ⟨i.isLt, hown, fun j hbelow => hnone ⟨j, Nat.lt_trans hbelow i.isLt⟩ hbelow⟩

theorem shows_iff {i : Fin profile.keywordTiers.length} :
    profile.Shows facts i ↔ ∃ value ∈ facts.texts,
      profile.keywordTiers.findIdx? (·.foundIn (Text.lower value)) = some i.val := by
  simp only [Shows, findIdx?_eq_some_iff, FactSet.mem_texts_iff]
  constructor
  · rintro ⟨key, value, held, hhighest⟩
    exact ⟨value, ⟨key, held⟩, hhighest⟩
  · rintro ⟨value, ⟨key, held⟩, hhighest⟩
    exact ⟨key, value, held, hhighest⟩

instance decidableShows (i : Fin profile.keywordTiers.length) : Decidable (profile.Shows facts i) :=
  decidable_of_iff _ shows_iff.symm

/-- A value marks its highest tier and leaves the other marks alone. -/
theorem getElem?_markTier (tiers : List KeywordTier) (hits : List Bool) (value : String) (i : Nat) :
    (markTier tiers hits value)[i]? = hits[i]?.map fun hit =>
      hit || (tiers.findIdx? (·.foundIn (Text.lower value)) == some i) := by
  unfold markTier
  cases tiers.findIdx? (·.foundIn (Text.lower value)) with
  | none => simp
  | some index =>
    by_cases hown : index = i
    · subst hown
      rcases Nat.lt_or_ge index hits.length with hinside | houtside
      · simp [hinside]
      · simp [houtside]
    · simp [List.getElem?_set_ne hown, beq_eq_false_iff_ne.2 hown]

/-- Going through values marks the tiers that are the highest in one of them. -/
theorem getElem?_foldl_markTier (tiers : List KeywordTier) (values : List String) (hits : List Bool)
    (i : Nat) :
    (values.foldl (markTier tiers) hits)[i]? = hits[i]?.map fun hit =>
      hit || values.any fun value => tiers.findIdx? (·.foundIn (Text.lower value)) == some i := by
  induction values generalizing hits with
  | nil => simp
  | cons value values ih =>
    rw [List.foldl_cons, ih, getElem?_markTier, Option.map_map]
    simp [Function.comp_def, Bool.or_assoc]

/-- The tiers that are marked are the ones that some fact shows. -/
theorem keywordHits_eq :
    profile.keywordHits facts =
      (List.finRange profile.keywordTiers.length).map fun i => decide (profile.Shows facts i) := by
  refine List.ext_getElem? fun i => ?_
  rw [keywordHits, getElem?_foldl_markTier]
  rcases Nat.lt_or_ge i profile.keywordTiers.length with hinside | houtside
  · have hshown : profile.Shows facts ⟨i, hinside⟩ ↔ ∃ value ∈ facts.texts,
        profile.keywordTiers.findIdx? (·.foundIn (Text.lower value)) = some i := shows_iff
    simp [hinside, hshown, List.any_eq]
  · simp [houtside]

/-! ## The likelihood -/

/-- The tiers that some fact shows, in their order. -/
def shown (profile : Profile) (facts : FactSet) : List (Fin profile.keywordTiers.length) :=
  (List.finRange profile.keywordTiers.length).filter fun i => profile.Shows facts i

theorem mem_shown {i : Fin profile.keywordTiers.length} :
    i ∈ profile.shown facts ↔ profile.Shows facts i := by
  simp [shown]

theorem shown_ordered : (profile.shown facts).Pairwise (· < ·) :=
  (List.pairwise_lt_finRange _).filter _

/-- The weights that count, without the marks. -/
theorem weights_eq :
    profile.weights facts =
      (profile.hypervisorMatch? facts).toList.map (·.weight) ++
        (profile.prefixSignal.filter (·.matches facts)).toList.map (·.weight) ++
        (profile.shown facts).map fun i => profile.keywordTiers[i].weight := by
  have htiers : profile.keywordTiers.zip (profile.keywordHits facts) =
      (List.finRange profile.keywordTiers.length).map fun i =>
        (profile.keywordTiers[i], decide (profile.Shows facts i)) := by
    rw [keywordHits_eq]
    nth_rewrite 1 [← List.map_getElem_finRange profile.keywordTiers]
    exact List.zip_map'
  have hcounted : (profile.shown facts).map (fun i => profile.keywordTiers[i].weight) =
      (List.finRange profile.keywordTiers.length).filterMap fun i =>
        if decide (profile.Shows facts i) then some profile.keywordTiers[i].weight else none := by
    rw [shown, ← List.filterMap_eq_map, List.filterMap_filter]
    rfl
  rw [weights, htiers, List.filterMap_map, hcounted, Option.toList_map, Option.toList_map]
  rfl

/-- A weight counts for the hypervisor, for the start of a fact, or for a tier. -/
theorem mem_weights_iff {weight : Binary64} :
    weight ∈ profile.weights facts ↔
      (∃ entry, profile.hypervisorMatch? facts = some entry ∧ entry.weight = weight) ∨
      (∃ signal, profile.prefixSignal = some signal ∧ signal.matches facts = true ∧
        signal.weight = weight) ∨
      ∃ i, profile.Shows facts i ∧ profile.keywordTiers[i].weight = weight := by
  simp only [weights_eq, List.mem_append, List.mem_map, Option.mem_toList, Option.filter_eq_some_iff,
    mem_shown, and_assoc, or_assoc]

/-- The likelihood of a guest is the sum of the weights that count. -/
theorem likelihood_eq (hguest : facts.isGuest = true) :
    profile.likelihood facts = (profile.weights facts).foldl (· + ·) Binary64.zero :=
  if_pos hguest

/-! ## All answers -/

/-- Facts with the same texts show the same tiers. -/
theorem keywordHits_congr {other : FactSet}
    (htexts : ∀ key value, other.get? key = some (.text value) ↔ facts.get? key = some (.text value)) :
    profile.keywordHits other = profile.keywordHits facts := by
  rw [keywordHits_eq, keywordHits_eq]
  refine List.map_congr_left fun i _ => decide_eq_decide.2 ?_
  simp only [Shows, htexts]

/-- A profile looks at texts and at the truth of one fact, and at nothing else. -/
theorem evaluate_congr {other : FactSet} (provider : ProviderId)
    (htexts : ∀ key value, other.get? key = some (.text value) ↔ facts.get? key = some (.text value))
    (hguest : other.isGuest = facts.isGuest) :
    profile.evaluate provider other = profile.evaluate provider facts := by
  have htext? (key : String) : other.text? key = facts.text? key :=
    Option.ext fun value => by rw [FactSet.text?_eq_some_iff, FactSet.text?_eq_some_iff, htexts]
  simp only [evaluate, strongMatch?, likelihood, weights, hypervisorMatch?, StrongSignal.matches,
    PrefixSignal.matches, hguest, htext?, keywordHits_congr htexts]

/-- All answers of a profile.  A host is virtual when the fact that says so is true; any other host is
on no provider and has no likelihood.  A guest is on the provider when the fact of a strong signal is a
text that matches, and its likelihood is the sum, from the left and starting with zero, of the weight of
the first hypervisor whose needle the textual name of the hypervisor contains, of the weight of the
prefix signal if it matches, and of the weights of the tiers in their order, each once, of which some
textual fact contains the keyword and that of no higher tier.  Facts of other kinds do not matter, but
for the truth of the one that makes a guest. -/
theorem evaluation (profile : Profile) (provider : ProviderId) (facts : FactSet) :
    let result := profile.evaluate provider facts
    let guest := facts.get? guestKey = some (.flag true)
    (result.isVirtual = true ↔ guest) ∧
    (¬ guest → result.isOnProvider = false ∧ result.likelihood = Binary64.zero) ∧
    (guest →
      (result.isOnProvider = true ↔ ∃ signal ∈ profile.strongSignals, ∃ value,
        facts.get? signal.fact = some (.text value) ∧ signal.matcher.Accepts value signal.needle) ∧
      ∃ (hypervisor : Option HypervisorWeight) (start : Option PrefixSignal)
        (tiers : List (Fin profile.keywordTiers.length)),
        (∀ entry, hypervisor = some entry ↔ profile.FirstHypervisor facts entry) ∧
        (∀ signal, start = some signal ↔ profile.prefixSignal = some signal ∧ ∃ value,
          facts.get? signal.fact = some (.text value) ∧
            (Text.lower signal.start).toList <+: (Text.lower value).toList) ∧
        tiers.Pairwise (· < ·) ∧ (∀ i, i ∈ tiers ↔ profile.Shows facts i) ∧
        result.likelihood =
          (hypervisor.toList.map (·.weight) ++ start.toList.map (·.weight) ++
            tiers.map fun i => profile.keywordTiers[i].weight).foldl (· + ·) Binary64.zero) ∧
    ∀ other : FactSet,
      (∀ key value, other.get? key = some (.text value) ↔ facts.get? key = some (.text value)) →
      (other.get? guestKey = some (.flag true) ↔ guest) →
      profile.evaluate provider other = result := by
  intro result guest
  refine ⟨FactSet.isGuest_iff, fun hbare => ?_, fun hguest => ?_, fun other htexts hsame => ?_⟩
  · have hno : ¬ facts.isGuest = true := mt FactSet.isGuest_iff.1 hbare
    simp [result, evaluate, strongMatch?, likelihood, hno]
  · have hyes : facts.isGuest = true := FactSet.isGuest_iff.2 hguest
    refine ⟨?_, profile.hypervisorMatch? facts, profile.prefixSignal.filter (·.matches facts),
      profile.shown facts, fun entry => hypervisorMatch?_eq_some_iff, fun signal => ?_, shown_ordered,
      fun i => mem_shown, ?_⟩
    · simp only [← StrongSignal.matches_iff]
      exact strongMatch?_isSome hyes
    · rw [Option.filter_eq_some_iff, PrefixSignal.matches_iff]
    · rw [← weights_eq]
      exact likelihood_eq hyes
  · have hagree : other.isGuest = facts.isGuest := by
      rw [Bool.eq_iff_iff, FactSet.isGuest_iff, FactSet.isGuest_iff]
      exact hsame
    exact evaluate_congr provider htexts hagree

/-- A keyword hides the one below it, a guest flag that is a text makes no guest, and a number that is
learned changes nothing. -/
theorem evaluation_hidden :
    let weight : Binary64 := .finite false ⟨1, by decide⟩
    let profile := (({} : Profile).strong "bios.vendor" "Acme" .contains).keyword "acme cloud" weight
      |>.keyword "ACME" weight
    let provider : ProviderId := ⟨"acme", by decide, by decide, List.all_eq_true.1 rfl⟩
    let facts := FactSet.ofList [(guestKey, .flag true), ("bios.vendor", .text "Acme Cloud")]
    let unsure := FactSet.ofList [(guestKey, .text "true"), ("bios.vendor", .text "Acme Cloud")]
    let counted := facts.insert "cpu.count" (.other (.integer 4))
    (profile.evaluate provider facts).isOnProvider = true ∧
    (∃ tiers : List (Fin profile.keywordTiers.length),
      ⟨0, by decide⟩ ∈ tiers ∧ ⟨1, by decide⟩ ∉ tiers ∧ (profile.evaluate provider facts).likelihood =
        (tiers.map fun i => profile.keywordTiers[i].weight).foldl (· + ·) Binary64.zero) ∧
    (profile.evaluate provider unsure).isOnProvider = false ∧
    profile.evaluate provider counted = profile.evaluate provider facts := by
  intro weight profile provider facts unsure counted
  obtain ⟨-, -, hanswers, hsame⟩ := evaluation profile provider facts
  obtain ⟨hstrong, hypervisor, start, tiers, hfirst, hleads, -, hshown, hsum⟩ := hanswers rfl
  have hnoHypervisor : hypervisor = none := by
    refine Option.eq_none_iff_forall_ne_some.2 fun entry hfound => ?_
    obtain ⟨name, before, after, hnamed, -⟩ := (hfirst entry).1 hfound
    cases hnamed
  have hnoStart : start = none := by
    refine Option.eq_none_iff_forall_ne_some.2 fun signal hfound => ?_
    cases ((hleads signal).1 hfound).1
  have htop : profile.Shows facts ⟨0, by decide⟩ := by decide +kernel
  have hhidden : ¬ profile.Shows facts ⟨1, by decide⟩ := by decide +kernel
  have hnamed : Matcher.contains.matches "Acme Cloud" "Acme" = true := by decide +kernel
  refine ⟨hstrong.2 ⟨⟨"bios.vendor", "Acme", .contains⟩, List.mem_singleton_self _, "Acme Cloud", rfl,
      Matcher.matches_iff.1 hnamed⟩,
    ⟨tiers, (hshown _).2 htop, mt (hshown _).1 hhidden, ?_⟩,
    ((evaluation profile provider unsure).2.1 (by nofun)).1, hsame counted (fun key value => ?_)
      (by rfl)⟩
  · rw [hsum, hnoHypervisor, hnoStart]
    rfl
  · change (facts.facts.insert _ _).get? key = _ ↔ facts.facts.get? key = _
    rw [Dictionary.get?_insert]
    split
    · rename_i hown
      subst hown
      exact iff_of_false (by nofun) (by nofun)
    · rfl

end Profile

end Detection

end InstanceIdentity
