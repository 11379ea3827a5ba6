import InstanceIdentity.Text.Lowercase
import InstanceIdentity.Text.Search
import Mathlib.Data.List.Infix

/-!
# The lower case of a part of a text

Every character has one lower case wherever it stands, except for the capital sigma, which has another
form at the end of a word.  A part of a text is therefore mapped as it is by itself, unless a sigma at one
of its edges belongs to a word that goes on beyond the edge.

Main results:

- Theorem `Text.reachesCased_iff`: which neighbours of a sigma belong to its word.
- Theorem `Text.lowerFrom_append`: the lower case of a text by its parts, each between its neighbours.
- Theorem `Text.lowerWithin_eq_iff`: a part is mapped as by itself exactly when it is not torn.
- Theorem `Text.contains_lower_of_intact`: the lower case of a part that is not torn is found.
- Theorem `Text.contains_lower_iff`: the texts whose lower case is found wherever they are.
-/

namespace InstanceIdentity.Text

/-! ## Words -/

/-- The first character is a letter with a case, not counting those that do not end a word. -/
def MeetsLetter (cs : List Char) : Prop :=
  ∃ ignored c rest, cs = ignored ++ c :: rest ∧ (∀ d ∈ ignored, caseIgnorable.has d = true) ∧
    caseIgnorable.has c = false ∧ cased.has c = true

theorem reachesCased_cons {c : Char} {rest : List Char} :
    reachesCased (c :: rest) = if caseIgnorable.has c then reachesCased rest else cased.has c :=
  rfl

/-- Only when all characters in front are ignored does it matter what stands behind them. -/
theorem reachesCased_append {front rest : List Char} :
    reachesCased (front ++ rest) =
      if front.all caseIgnorable.has then reachesCased rest else reachesCased front := by
  induction front with
  | nil => simp
  | cons c front ih =>
    rw [List.cons_append, reachesCased_cons, reachesCased_cons, ih]
    cases hown : caseIgnorable.has c <;> simp [hown]

theorem reachesCased_of_all {cs : List Char} (hignored : cs.all caseIgnorable.has = true) :
    reachesCased cs = false := by
  have hwhole : reachesCased (cs ++ []) = reachesCased [] := by rw [reachesCased_append, if_pos hignored]
  rwa [List.append_nil] at hwhole

theorem reachesCased_append_of_reaches {front rest : List Char} (h : reachesCased front = true) :
    reachesCased (front ++ rest) = true := by
  rw [reachesCased_append]
  split
  case isTrue hignored =>
    rw [reachesCased_of_all hignored] at h
    contradiction
  case isFalse => exact h

/-- What is reached is the first letter behind ignored characters. -/
theorem reachesCased_iff {cs : List Char} : reachesCased cs = true ↔ MeetsLetter cs := by
  induction cs with
  | nil => simp [reachesCased, MeetsLetter]
  | cons c cs ih =>
    rw [reachesCased_cons]
    constructor
    · intro h
      split at h
      case isTrue hignored =>
        obtain ⟨front, letter, rest, rfl, hskipped, hown⟩ := ih.1 h
        exact ⟨c :: front, letter, rest, rfl, List.forall_mem_cons.2 ⟨hignored, hskipped⟩, hown⟩
      case isFalse hkept =>
        exact ⟨[], c, cs, rfl, by simp, by simpa using hkept, h⟩
    · rintro ⟨front, letter, rest, hparts, hskipped, hkept, hown⟩
      cases front with
      | nil =>
        obtain ⟨rfl, rfl⟩ := List.cons.inj hparts
        simp [hkept, hown]
      | cons d front =>
        obtain ⟨rfl, rfl⟩ := List.cons.inj hparts
        rw [if_pos (hskipped c List.mem_cons_self)]
        exact ih.2 ⟨front, letter, rest, rfl, fun d hmem =>
          hskipped d (List.mem_cons_of_mem _ hmem), hkept, hown⟩

theorem not_meetsLetter_nil : ¬ MeetsLetter [] := by
  simp [MeetsLetter]

/-- A sigma stands at the end of a word. -/
def endsWord (before after : List Char) : Bool := reachesCased before && !reachesCased after

/-! ## Characters between their neighbours -/

/-- The lower case of a character between its neighbours, those before it nearest first. -/
def lowerAt (before : List Char) (c : Char) (after : List Char) : List Char :=
  if c = 'Σ' then (if endsWord before after then ['ς'] else ['σ']) else lowerChar c

/-- The lower case of a part of a text between what stands before it, nearest first, and what stands
after it. -/
def lowerWithin (before : List Char) (part after : List Char) : List Char :=
  match part with
  | [] => []
  | c :: rest => lowerAt before c (rest ++ after) ++ lowerWithin (c :: before) rest after

variable {before before' part after after' : List Char} {c : Char}

theorem lowerWithin_cons {rest : List Char} :
    lowerWithin before (c :: rest) after =
      lowerAt before c (rest ++ after) ++ lowerWithin (c :: before) rest after :=
  rfl

theorem lowerFrom_cons {rest : List Char} :
    lowerFrom before (c :: rest) = lowerAt before c rest ++ lowerFrom (c :: before) rest :=
  rfl

/-- The lower case of a text by its parts. -/
theorem lowerFrom_append :
    lowerFrom before (part ++ after) =
      lowerWithin before part after ++ lowerFrom (part.reverse ++ before) after := by
  induction part generalizing before with
  | nil => rfl
  | cons c rest ih =>
    rw [List.cons_append, lowerFrom_cons, ih, lowerWithin_cons]
    simp

/-- Behind a part that is mapped by itself stands nothing. -/
theorem lowerFrom_eq : lowerFrom before part = lowerWithin before part [] := by
  have hwhole : lowerFrom before (part ++ []) = lowerWithin before part [] ++ [] := lowerFrom_append
  rwa [List.append_nil, List.append_nil] at hwhole

/-- The lower case of a text by three parts. -/
theorem lowerFrom_around :
    lowerFrom [] (before ++ part ++ after) =
      lowerWithin [] before (part ++ after) ++ lowerWithin before.reverse part after ++
        lowerFrom (part.reverse ++ before.reverse) after := by
  rw [List.append_assoc, lowerFrom_append, List.append_nil, lowerFrom_append, List.append_assoc]

theorem toList_lower (s : String) : (lower s).toList = lowerFrom [] s.toList := by
  rw [lower, String.toList_ofList]

/-! ## The same part in two places -/

theorem lowerAt_sigma :
    lowerAt before 'Σ' after = if endsWord before after then ['ς'] else ['σ'] :=
  if_pos rfl

theorem lowerAt_of_ne (h : c ≠ 'Σ') : lowerAt before c after = lowerChar c :=
  if_neg h

/-- Characters differ by the word that they stand in at most when they are sigmas. -/
theorem lowerAt_eq_iff :
    lowerAt before c after = lowerAt before' c after' ↔
      (c = 'Σ' → endsWord before after = endsWord before' after') := by
  by_cases hsigma : c = 'Σ'
  · subst hsigma
    rw [lowerAt_sigma, lowerAt_sigma]
    cases endsWord before after <;> cases endsWord before' after' <;> simp
  · simp [lowerAt_of_ne hsigma, hsigma]

theorem length_lowerAt : (lowerAt before c after).length = (lowerAt before' c after').length := by
  by_cases hsigma : c = 'Σ'
  · subst hsigma
    rw [lowerAt_sigma, lowerAt_sigma]
    cases endsWord before after <;> cases endsWord before' after' <;> rfl
  · rw [lowerAt_of_ne hsigma, lowerAt_of_ne hsigma]

theorem length_lowerWithin :
    (lowerWithin before part after).length = (lowerWithin before' part after').length := by
  induction part generalizing before before' with
  | nil => rfl
  | cons c rest ih =>
    rw [lowerWithin_cons, lowerWithin_cons, List.length_append, List.length_append, length_lowerAt, ih]

/-- A part is mapped alike in two places exactly when each of its sigmas ends a word in both or in none. -/
theorem lowerWithin_eq_lowerWithin_iff :
    lowerWithin before part after = lowerWithin before' part after' ↔
      ∀ front rest, part = front ++ 'Σ' :: rest →
        endsWord (front.reverse ++ before) (rest ++ after) =
          endsWord (front.reverse ++ before') (rest ++ after') := by
  induction part generalizing before before' with
  | nil => simp [lowerWithin]
  | cons c rest ih =>
    have hsplit : lowerWithin before (c :: rest) after = lowerWithin before' (c :: rest) after' ↔
        lowerAt before c (rest ++ after) = lowerAt before' c (rest ++ after') ∧
          lowerWithin (c :: before) rest after = lowerWithin (c :: before') rest after' := by
      rw [lowerWithin_cons, lowerWithin_cons]
      exact ⟨fun h => List.append_inj h length_lowerAt, fun ⟨hhead, htail⟩ => by rw [hhead, htail]⟩
    rw [hsplit, lowerAt_eq_iff, ih]
    constructor
    · rintro ⟨hown, hlater⟩ front others hparts
      cases front with
      | nil =>
        obtain ⟨rfl, rfl⟩ := List.cons.inj hparts
        exact hown rfl
      | cons d front =>
        obtain ⟨rfl, rfl⟩ := List.cons.inj hparts
        simpa using hlater front others rfl
    · intro hall
      constructor
      · rintro rfl
        exact hall [] rest rfl
      · rintro front others rfl
        simpa using hall (c :: front) others rfl

/-! ## Torn words -/

/-- The last letter is a capital sigma that ends a word. -/
def ClosesWithSigma (part : List Char) : Prop :=
  ∃ front rest, part = front ++ 'Σ' :: rest ∧ MeetsLetter front.reverse ∧
    ∀ c ∈ rest, caseIgnorable.has c = true

/-- The first letter is a capital sigma, behind which its word does not go on. -/
def OpensWithSigma (part after : List Char) : Prop :=
  ∃ front rest, part = front ++ 'Σ' :: rest ∧ (∀ c ∈ front, caseIgnorable.has c = true) ∧
    ¬ MeetsLetter (rest ++ after)

/-- At an edge of a part stands a sigma which by itself ends a word and in its place does not, or the other
way round: the word goes on beyond the edge. -/
def Torn (before part after : List Char) : Prop :=
  ClosesWithSigma part ∧ MeetsLetter after ∨ MeetsLetter before ∧ OpensWithSigma part after

/-- What the word of a single sigma depends on beyond the edges of the part in which it stands. -/
theorem endsWord_ne_iff {front rest : List Char} :
    endsWord (front.reverse ++ before) (rest ++ after) ≠ endsWord front.reverse rest ↔
      (reachesCased front.reverse = true ∧ rest.all caseIgnorable.has = true) ∧
          reachesCased after = true ∨
        reachesCased before = true ∧ front.all caseIgnorable.has = true ∧
          ¬ reachesCased (rest ++ after) = true := by
  have hignored : front.reverse.all caseIgnorable.has = front.all caseIgnorable.has := List.all_reverse
  rw [endsWord, endsWord, reachesCased_append, hignored]
  by_cases hopening : front.all caseIgnorable.has = true
  · have hnone : reachesCased front.reverse = false := reachesCased_of_all (hignored.trans hopening)
    simp [hopening, hnone]
  · rw [if_neg hopening, reachesCased_append]
    by_cases hclosing : rest.all caseIgnorable.has = true
    · have hnone : reachesCased rest = false := reachesCased_of_all hclosing
      simp [hopening, hclosing, hnone]
    · simp [hopening, hclosing]

/-- A part is mapped in its place as it is by itself exactly when it is not torn. -/
theorem lowerWithin_eq_iff :
    lowerWithin before part after = lowerFrom [] part ↔ ¬ Torn before part after := by
  have htorn : Torn before part after ↔ ∃ front rest, part = front ++ 'Σ' :: rest ∧
      endsWord (front.reverse ++ before) (rest ++ after) ≠ endsWord front.reverse rest := by
    simp only [endsWord_ne_iff, reachesCased_iff, List.all_eq_true]
    constructor
    · rintro (⟨⟨front, rest, hparts, hclosing⟩, hgoesOn⟩ | ⟨hgoesBefore, front, rest, hparts, hopening⟩)
      · exact ⟨front, rest, hparts, .inl ⟨hclosing, hgoesOn⟩⟩
      · exact ⟨front, rest, hparts, .inr ⟨hgoesBefore, hopening⟩⟩
    · rintro ⟨front, rest, hparts, ⟨hclosing, hgoesOn⟩ | ⟨hgoesBefore, hopening⟩⟩
      · exact .inl ⟨⟨front, rest, hparts, hclosing⟩, hgoesOn⟩
      · exact .inr ⟨hgoesBefore, front, rest, hparts, hopening⟩
  rw [htorn, lowerFrom_eq, lowerWithin_eq_lowerWithin_iff]
  simp

/-! ## Finding a part again -/

/-- The lower case of a part that is not torn is found in that of the text. -/
theorem contains_lower_of_intact {front needle rest : String}
    (hintact : ¬ Torn front.toList.reverse needle.toList rest.toList) :
    contains (lower (front ++ needle ++ rest)) (lower needle) = true := by
  rw [contains_iff, toList_lower, toList_lower, String.toList_append, String.toList_append,
    lowerFrom_around, lowerWithin_eq_iff.2 hintact]
  exact List.infix_append _ _ _

/-- The lower case of a beginning that is not torn is the beginning of that of the text, and of no
other. -/
theorem startsWith_lower_iff {start rest : String} :
    startsWith (lower (start ++ rest)) (lower start) = true ↔
      ¬ (ClosesWithSigma start.toList ∧ MeetsLetter rest.toList) := by
  have htorn : Torn [] start.toList rest.toList ↔
      ClosesWithSigma start.toList ∧ MeetsLetter rest.toList := by
    simp [Torn, not_meetsLetter_nil]
  rw [startsWith_iff, toList_lower, toList_lower, String.toList_append, lowerFrom_append, ← htorn,
    ← lowerWithin_eq_iff]
  have hlengths : (lowerFrom [] start.toList).length = (lowerWithin [] start.toList
    rest.toList).length := by
    rw [lowerFrom_eq, length_lowerWithin]
  constructor
  · intro h
    have hinside := List.prefix_of_prefix_length_le h (List.prefix_append _ _) hlengths.le
    exact (hinside.eq_of_length hlengths).symm
  · intro h
    rw [h]
    exact List.prefix_append _ _

/-! ## Texts that are found wherever they are -/

/-- Wherever a part stands, it has as many sigmas of either form. -/
theorem count_sigmas :
    (lowerWithin before part after).count 'ς' + (lowerWithin before part after).count 'σ' =
      (lowerWithin before' part after').count 'ς' + (lowerWithin before' part after').count 'σ' := by
  induction part generalizing before before' with
  | nil => rfl
  | cons c rest ih =>
    have hown : (lowerAt before c (rest ++ after)).count 'ς' +
        (lowerAt before c (rest ++ after)).count 'σ' =
        (lowerAt before' c (rest ++ after')).count 'ς' +
          (lowerAt before' c (rest ++ after')).count 'σ' := by
      by_cases hsigma : c = 'Σ'
      · subst hsigma
        rw [lowerAt_sigma, lowerAt_sigma]
        cases endsWord before (rest ++ after) <;> cases endsWord before' (rest ++ after') <;> rfl
      · rw [lowerAt_of_ne hsigma, lowerAt_of_ne hsigma]
    have hlater : (lowerWithin (c :: before) rest after).count 'ς' +
        (lowerWithin (c :: before) rest after).count 'σ' =
          (lowerWithin (c :: before') rest after').count 'ς' +
            (lowerWithin (c :: before') rest after').count 'σ' := ih
    simp only [lowerWithin_cons, List.count_append]
    omega

/-- Where no sigma ceases to end a word, either nothing changes or there are more final sigmas. -/
theorem lowerWithin_eq_or_count_lt
    (hgrown : ∀ front rest, part = front ++ 'Σ' :: rest →
      endsWord (front.reverse ++ before) (rest ++ after) = true →
        endsWord (front.reverse ++ before') (rest ++ after') = true) :
    lowerWithin before part after = lowerWithin before' part after' ∨
      (lowerWithin before part after).count 'ς' < (lowerWithin before' part after').count 'ς' := by
  induction part generalizing before before' with
  | nil => exact .inl rfl
  | cons c rest ih =>
    have hown : lowerAt before c (rest ++ after) = lowerAt before' c (rest ++ after') ∨
        (lowerAt before c (rest ++ after)).count 'ς' < (lowerAt before' c
          (rest ++ after')).count 'ς' := by
      by_cases hsigma : c = 'Σ'
      · subst hsigma
        have hfirst := hgrown [] rest rfl
        rw [lowerAt_sigma, lowerAt_sigma]
        simp only [List.reverse_nil, List.nil_append] at hfirst
        cases hends : endsWord before (rest ++ after) <;>
          cases hends' : endsWord before' (rest ++ after') <;> simp_all
      · exact .inl (by rw [lowerAt_of_ne hsigma, lowerAt_of_ne hsigma])
    have hlater : lowerWithin (c :: before) rest after = lowerWithin (c :: before') rest after' ∨
        (lowerWithin (c :: before) rest after).count 'ς' <
          (lowerWithin (c :: before') rest after').count 'ς' := by
      apply ih
      intro front others hparts
      simpa using hgrown (c :: front) others (by rw [hparts, List.cons_append])
    rw [lowerWithin_cons, lowerWithin_cons, List.count_append, List.count_append]
    rcases hown with hsame | hmore <;> rcases hlater with hsame' | hmore'
    · exact .inl (by rw [hsame, hsame'])
    · exact .inr (by rw [hsame]; omega)
    · exact .inr (by rw [hsame']; omega)
    · exact .inr (by omega)

theorem endsWord_of_append {rest : List Char} (h : endsWord before (rest ++ after) = true) :
    endsWord before rest = true := by
  simp only [endsWord, Bool.and_eq_true, Bool.not_eq_true'] at h ⊢
  refine ⟨h.1, Bool.eq_false_iff.2 fun hreached => ?_⟩
  rw [reachesCased_append_of_reaches hreached] at h
  exact absurd h.2 (by decide)

theorem endsWord_append {front : List Char} (h : endsWord front after = true) :
    endsWord (front ++ before) after = true := by
  simp only [endsWord, Bool.and_eq_true] at h ⊢
  exact ⟨reachesCased_append_of_reaches h.1, h.2⟩

theorem meetsLetter_a : MeetsLetter ['a'] := ⟨[], 'a', [], rfl, by simp, by decide, by decide⟩

/-- A part whose lower case is found in front of a letter is not torn there. -/
theorem not_torn_of_infix_before (h : lowerFrom [] part <:+: lowerFrom [] (part ++ ['a'])) :
    ¬ Torn [] part ['a'] := by
  have hletter : lowerFrom (part.reverse ++ []) ['a'] = ['a'] := by simp [lowerFrom, lowerChar]
  have hfewer : lowerWithin [] part ['a'] = lowerWithin [] part [] ∨
      (lowerWithin [] part ['a']).count 'ς' < (lowerWithin [] part []).count 'ς' := by
    apply lowerWithin_eq_or_count_lt
    intro front rest _ hends
    simpa using endsWord_of_append hends
  have hfound : (lowerWithin [] part []).count 'ς' ≤ (lowerWithin [] part ['a']).count 'ς' := by
    have hcount := h.sublist.count_le 'ς'
    rw [lowerFrom_append, hletter, List.count_append, lowerFrom_eq] at hcount
    simpa using hcount
  rw [← lowerWithin_eq_iff, lowerFrom_eq]
  exact hfewer.resolve_right (Nat.not_lt.2 hfound)

/-- A part whose lower case is found behind a letter is not torn there. -/
theorem not_torn_of_infix_behind (h : lowerFrom [] part <:+: lowerFrom [] (['a'] ++ part)) :
    ¬ Torn ['a'] part [] := by
  have hletter : lowerWithin [] ['a'] part = ['a'] := by simp [lowerWithin, lowerAt, lowerChar]
  have hmore : lowerWithin [] part [] = lowerWithin ['a'] part [] ∨
      (lowerWithin [] part []).count 'ς' < (lowerWithin ['a'] part []).count 'ς' := by
    apply lowerWithin_eq_or_count_lt
    intro front rest _ hends
    rw [List.append_nil] at hends
    exact endsWord_append hends
  have hfound : (lowerWithin [] part []).count 'σ' ≤ (lowerWithin ['a'] part []).count 'σ' := by
    have hcount := h.sublist.count_le 'σ'
    rw [lowerFrom_append, hletter, List.count_append, lowerFrom_eq, lowerFrom_eq] at hcount
    simpa using hcount
  have hall : (lowerWithin [] part []).count 'ς' + (lowerWithin [] part []).count 'σ' =
      (lowerWithin ['a'] part []).count 'ς' + (lowerWithin ['a'] part []).count 'σ' := count_sigmas
  rw [← lowerWithin_eq_iff, lowerFrom_eq]
  refine (hmore.resolve_right fun hless => ?_).symm
  omega

/-- What is torn nowhere is not torn between two letters either. -/
theorem forall_not_torn_iff :
    (∀ before after, ¬ Torn before part after) ↔ ¬ Torn [] part ['a'] ∧ ¬ Torn ['a'] part [] := by
  constructor
  · intro h
    exact ⟨h [] ['a'], h ['a'] []⟩
  · rintro ⟨hclosed, hopened⟩ before after (⟨hclosing, -⟩ | ⟨-, front, rest, hparts, hopening, hlone⟩)
    · exact hclosed (.inl ⟨hclosing, meetsLetter_a⟩)
    · refine hopened (.inr ⟨meetsLetter_a, front, rest, hparts, hopening, fun hown => hlone ?_⟩)
      rw [List.append_nil, ← reachesCased_iff] at hown
      exact reachesCased_iff.1 (reachesCased_append_of_reaches hown)

/-- Ignoring case finds a text wherever it stands, exactly when no sigma at its edges can be torn from its
word. -/
theorem contains_lower_iff {needle : String} :
    (∀ value, contains value needle = true → contains (lower value) (lower needle) = true) ↔
      ¬ ClosesWithSigma needle.toList ∧ ¬ OpensWithSigma needle.toList [] := by
  have hcloses : Torn [] needle.toList ['a'] ↔ ClosesWithSigma needle.toList := by
    simp [Torn, meetsLetter_a, not_meetsLetter_nil]
  have hopens : Torn ['a'] needle.toList [] ↔ OpensWithSigma needle.toList [] := by
    simp [Torn, meetsLetter_a, not_meetsLetter_nil]
  rw [← hcloses, ← hopens]
  constructor
  · intro hfound
    have hbefore := contains_iff.1 (hfound (needle ++ "a") (contains_iff.2 ⟨[], ['a'], by simp⟩))
    have hbehind := contains_iff.1 (hfound ("a" ++ needle) (contains_iff.2 ⟨['a'], [], by simp⟩))
    rw [toList_lower, toList_lower, String.toList_append] at hbefore hbehind
    exact ⟨not_torn_of_infix_before hbefore, not_torn_of_infix_behind hbehind⟩
  · rintro hintact value hinside
    obtain ⟨front, rest, hparts⟩ := contains_iff.1 hinside
    have hwhole : value = String.ofList front ++ needle ++ String.ofList rest := by
      rw [← String.toList_inj, ← hparts]
      simp
    rw [hwhole]
    exact contains_lower_of_intact (forall_not_torn_iff.2 hintact _ _)

end InstanceIdentity.Text
