import InstanceIdentity.Proofs.Detection.Evaluation
import InstanceIdentity.Proofs.Text.Lowercase

/-!
# Signals that ignore case

A signal that ignores case compares lower-cased texts.  It accepts what is equal, and it accepts a part of
a text wherever no sigma at the edges of the part is torn from its word: the lower case of such a sigma is
final in the one text and not in the other.

Main results:

- Theorem `Detection.PrefixSignal.matches_append_iff`: the texts with the start of a signal that match
  it.
- Theorem `Detection.ignoring_case_accepts`: what comparing without case accepts of what comparing with
  case does, and for which needles it is everything.
-/

namespace InstanceIdentity.Detection

open Text (Torn ClosesWithSigma OpensWithSigma MeetsLetter)

/-- A text with the start of a signal matches unless the word of its last sigma goes on. -/
theorem PrefixSignal.matches_append_iff {signal : PrefixSignal} {facts : FactSet} {rest : String}
    (held : facts.get? signal.fact = some (.text (signal.start ++ rest))) :
    signal.matches facts = true ↔
      ¬ (ClosesWithSigma signal.start.toList ∧ MeetsLetter rest.toList) := by
  rw [← Text.startsWith_lower_iff, matches_iff, Text.startsWith_iff]
  simp [held]

/-- Comparing without case accepts every text that equals the needle, and every text that contains it
where it is not torn.  The needles that are found in every text that contains them are those at whose edges
no sigma can be torn from its word, such as the needles without capital sigmas.  The keyword of a tier is
found just so.  A text that starts as a prefix signal says matches unless the start ends in a sigma whose
word goes on. -/
theorem ignoring_case_accepts (needle : String) :
    (∀ value, Matcher.equals.matches value needle = true →
      Matcher.containsIgnoringCase.matches value needle = true) ∧
    (∀ front rest : String, ¬ Torn front.toList.reverse needle.toList rest.toList →
      Matcher.containsIgnoringCase.matches (front ++ needle ++ rest) needle = true ∧
        ∀ tier : KeywordTier, tier.keyword = needle →
          tier.foundIn (Text.lower (front ++ needle ++ rest)) = true) ∧
    ((∀ value, Matcher.contains.matches value needle = true →
        Matcher.containsIgnoringCase.matches value needle = true) ↔
      ¬ ClosesWithSigma needle.toList ∧ ¬ OpensWithSigma needle.toList []) ∧
    (∀ tier : KeywordTier, tier.keyword = needle →
      ((∀ value, Matcher.contains.matches value needle = true →
          tier.foundIn (Text.lower value) = true) ↔
        ¬ ClosesWithSigma needle.toList ∧ ¬ OpensWithSigma needle.toList [])) ∧
    (∀ (signal : PrefixSignal) (facts : FactSet) (rest : String), signal.start = needle →
      facts.get? signal.fact = some (.text (needle ++ rest)) →
        (signal.matches facts = true ↔ ¬ (ClosesWithSigma needle.toList ∧ MeetsLetter rest.toList))) ∧
    ('Σ' ∉ needle.toList → ¬ ClosesWithSigma needle.toList ∧ ¬ OpensWithSigma needle.toList []) := by
  refine ⟨?equals, ?intact, Text.contains_lower_iff, ?tiers, ?starts, ?plain⟩
  case equals =>
    intro value hsame
    have hsame : value = needle := of_decide_eq_true hsame
    rw [hsame, Matcher.matches_iff]
    exact List.infix_rfl
  case intact =>
    intro front rest hintact
    refine ⟨Text.contains_lower_of_intact hintact, ?_⟩
    rintro tier rfl
    exact Text.contains_lower_of_intact hintact
  case tiers =>
    rintro tier rfl
    exact Text.contains_lower_iff
  case starts =>
    rintro signal facts rest rfl held
    exact PrefixSignal.matches_append_iff held
  case plain =>
    intro habsent
    constructor
    · rintro ⟨front, rest, hparts, -⟩
      simp [hparts] at habsent
    · rintro ⟨front, rest, hparts, -⟩
      simp [hparts] at habsent

/-- A capital sigma at the end of a name is found before a hyphen, and not before another letter. -/
theorem ignoring_case_accepts_name :
    let signal : PrefixSignal := ⟨"name", "ΑΣ", .zero⟩
    let facts := FactSet.ofList [("name", .text "ΑΣΑ")]
    Matcher.equals.matches "ΑΣ" "ΑΣ" = true ∧ Matcher.containsIgnoringCase.matches "ΑΣ" "ΑΣ" = true ∧
      Matcher.containsIgnoringCase.matches "Α-ΑΣ-1" "ΑΣ" = true ∧ signal.matches facts = false ∧
      ¬ ∀ value, Matcher.contains.matches value "ΑΣ" = true →
        Matcher.containsIgnoringCase.matches value "ΑΣ" = true := by
  intro signal facts
  obtain ⟨hequal, hintact, heverywhere, -, hstarts, -⟩ := ignoring_case_accepts "ΑΣ"
  have hown : Matcher.equals.matches "ΑΣ" "ΑΣ" = true := by decide
  have hcloses : ClosesWithSigma "ΑΣ".toList :=
    ⟨['Α'], [], rfl, Text.reachesCased_iff.1 (by decide +kernel), by simp⟩
  have hgoesOn : MeetsLetter "Α".toList := Text.reachesCased_iff.1 (by decide +kernel)
  have hapart : ¬ Torn "Α-".toList.reverse "ΑΣ".toList "-1".toList := by
    rintro (⟨-, hmore⟩ | ⟨hmore, -⟩)
    all_goals exact absurd (Text.reachesCased_iff.2 hmore) (by decide +kernel)
  have htorn : signal.matches facts = false := by
    refine Bool.eq_false_iff.2 fun hmatched => ?_
    exact (hstarts signal facts "Α" rfl rfl).1 hmatched ⟨hcloses, hgoesOn⟩
  exact ⟨hown, hequal "ΑΣ" hown, (hintact "Α-" "-1" hapart).1, htorn, fun hall =>
    (heverywhere.1 hall).1 hcloses⟩

/-- Where the word goes on, a needle with a final sigma is not found by any signal that ignores case. -/
theorem torn_sigma_missed :
    let signal : PrefixSignal := ⟨"name", "ΑΣ", .zero⟩
    let tier : KeywordTier := ⟨"ΑΣ", .zero⟩
    let facts := FactSet.ofList [("name", .text "ΑΣΑ")]
    Matcher.contains.matches "ΑΣΑ" "ΑΣ" = true ∧ Text.startsWith "ΑΣΑ" "ΑΣ" = true ∧
      Matcher.containsIgnoringCase.matches "ΑΣΑ" "ΑΣ" = false ∧ signal.matches facts = false ∧
      tier.foundIn (Text.lower "ΑΣΑ") = false := by
  decide +kernel

end InstanceIdentity.Detection
