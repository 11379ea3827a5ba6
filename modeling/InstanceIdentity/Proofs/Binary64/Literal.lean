import InstanceIdentity.Proofs.Binary64.Text

/-!
# The grammar of decimal literals

A text names a number when it is a word for an infinity or for NaN, or decimal digits with at most one
point, on either side of which the digits may be missing, and perhaps an exponent.  A sign may stand in
front of each of them.

Main results:

- Definitions `Binary64.Sign`, `Binary64.Exponential`: parts that literals share with the numbers of
  documents.
- Definition `Binary64.Literal`: the texts that name a number.
- Theorem `Binary64.ofText?_eq_some_iff`: what is read of a text is what it names.
-/

namespace InstanceIdentity.Binary64

variable {text rest : List Char}

/-! ## Signs and exponents -/

/-- A sign, or none. -/
inductive Sign : List Char → Bool → List Char → Prop where
  | none (rest : List Char) : Sign rest false rest
  | plus (rest : List Char) : Sign ('+' :: rest) false rest
  | minus (rest : List Char) : Sign ('-' :: rest) true rest

/-- The value of digits behind a sign. -/
def signedDigits (negative : Bool) (ds : List Char) : Int :=
  if negative then -(Nat.ofDigitChars 10 ds 0 : Int) else Nat.ofDigitChars 10 ds 0

/-- An exponent, or none. -/
inductive Exponential : List Char → Option Int → List Char → Prop where
  | none (rest : List Char) : Exponential rest none rest
  | mark {e : Char} {text ds : List Char} {negative : Bool} {rest : List Char}
      (mark : e = 'e' ∨ e = 'E') (sign : Sign text negative (ds ++ rest))
      (digits : Digits ds) (nonempty : ds ≠ []) :
      Exponential (e :: text) (some (signedDigits negative ds)) rest

theorem Exponential.length_le {exponent : Option Int} (h : Exponential text exponent rest) :
    rest.length ≤ text.length := by
  cases h with
  | none => exact Nat.le_refl _
  | mark _ hsign =>
    cases hsign <;> simp only [List.length_cons, List.length_append] <;> omega

theorem Sign.append {negative : Bool} (more : List Char) (h : Sign text negative rest) :
    Sign (text ++ more) negative (rest ++ more) := by
  cases h with
  | none => exact .none _
  | plus => exact .plus _
  | minus => exact .minus _

theorem Exponential.append {exponent : Option Int} (more : List Char)
    (h : Exponential text exponent rest) : Exponential (text ++ more) exponent (rest ++ more) := by
  cases h with
  | none => exact .none _
  | mark hmark hsign hdigits hnonempty =>
    have hsigned := hsign.append more
    rw [List.append_assoc] at hsigned
    exact .mark hmark hsigned hdigits hnonempty

theorem sign_readSign (text : List Char) : Sign text (readSign text).1 (readSign text).2 := by
  unfold readSign
  split
  · exact .minus _
  · exact .plus _
  · exact .none _

/-- A sign is read unless another one follows. -/
theorem Sign.readSign_eq {negative : Bool} (h : Sign text negative rest)
    (hsingle : ∀ c ∈ rest.head?, c ≠ '-' ∧ c ≠ '+') : readSign text = (negative, rest) := by
  cases h with
  | plus => rfl
  | minus => rfl
  | none =>
    unfold readSign
    split
    · exact absurd rfl (hsingle _ rfl).1
    · exact absurd rfl (hsingle _ rfl).2
    · rfl

/-- A digit is no sign. -/
theorem ne_sign_of_isDigit {c : Char} (hdigit : c.isDigit = true) : c ≠ '-' ∧ c ≠ '+' := by
  constructor
  · rintro rfl
    cases hdigit
  · rintro rfl
    cases hdigit

theorem unsigned_of_digits {ds : List Char} (hdigits : Digits ds) (hnonempty : ds ≠ []) :
    ∀ c ∈ (ds ++ rest).head?, c ≠ '-' ∧ c ≠ '+' := by
  obtain ⟨d, ds, rfl⟩ := List.exists_cons_of_ne_nil hnonempty
  rintro c ⟨⟩
  exact ne_sign_of_isDigit (hdigits d List.mem_cons_self)

/-- An exponent that fills the rest of a text is read. -/
theorem readExponent?_eq_some_iff {value : Int} : readExponent? text = some value ↔
    ∃ exponent, Exponential text exponent [] ∧ exponent.getD 0 = value := by
  constructor
  · intro hread
    cases text with
    | nil =>
      cases hread
      exact ⟨none, .none [], rfl⟩
    | cons e tail =>
      rw [readExponent?] at hread
      split at hread
      · rename_i hmark
        have hsign := sign_readSign tail
        obtain ⟨ds, rest, hdigits, hstop, hparts, hrun⟩ := exists_readDigits (readSign tail).2 0 0
        simp only [hrun] at hread
        rw [hparts] at hsign
        cases rest with
        | cons c rest => cases hread
        | nil =>
          dsimp only at hread
          split at hread
          · cases hread
          · rename_i hsome
            have hnonempty : ds ≠ [] := by
              rintro rfl
              exact hsome rfl
            exact ⟨_, .mark hmark hsign hdigits hnonempty, Option.some.inj hread⟩
      · cases hread
  · rintro ⟨exponent, hexponential, rfl⟩
    cases hexponential with
    | none => rfl
    | @mark e tail ds negative _ hmark hsign hdigits hnonempty =>
      have hsigned := hsign.readSign_eq (unsigned_of_digits hdigits hnonempty)
      have hrun := readDigits_append [] hdigits (by simp) 0 0
      rw [readExponent?, if_pos hmark, hsigned]
      simp only [hrun]
      rw [if_neg (by simpa using hnonempty)]
      rfl

/-! ## Digits with a point -/

/-- A point with the digits behind it, perhaps none, or nothing at all. -/
inductive Pointed : List Char → List Char → List Char → Prop where
  | none (rest : List Char) : Pointed rest [] rest
  | point {ds : List Char} (digits : Digits ds) (rest : List Char) :
      Pointed ('.' :: (ds ++ rest)) ds rest

/-- Digits with at most one point and perhaps an exponent, which fill a text, and the number nearest to
them. -/
inductive Unsigned (negative : Bool) : List Char → Binary64 → Prop where
  | parts {ds es tail more : List Char} {exponent : Option Int} (whole : Digits ds)
      (pointed : Pointed tail es more) (some : ds ++ es ≠ [])
      (exponential : Exponential more exponent []) :
      Unsigned negative (ds ++ tail)
        (ofDecimal negative (Nat.ofDigitChars 10 (ds ++ es) 0) (exponent.getD 0 - es.length))

theorem Exponential.head_ne {exponent : Option Int} (h : Exponential text exponent []) :
    ∀ c ∈ text.head?, c.isDigit = false ∧ c ≠ '.' := by
  cases h with
  | none => simp
  | mark hmark =>
    rintro c ⟨⟩
    rcases hmark with rfl | rfl <;> decide

theorem Pointed.head_ne {es : List Char} (h : Pointed text es rest)
    (hends : ∀ c ∈ rest.head?, c.isDigit = false) : ∀ c ∈ text.head?, c.isDigit = false := by
  cases h with
  | none => exact hends
  | point =>
    rintro c ⟨⟩
    rfl

/-- Digits, and perhaps a point with more of them, are read as far as they go. -/
theorem readUnsigned?_pointed (negative : Bool) {ds tail es more : List Char} (hwhole : Digits ds)
    (hstop : ∀ c ∈ tail.head?, c.isDigit = false) (hpointed : Pointed tail es more)
    (hends : ∀ c ∈ more.head?, c.isDigit = false) (halone : tail = more → more.head? ≠ some '.') :
    readUnsigned? negative (ds ++ tail) =
      if ds ++ es = [] then none
      else (readExponent? more).map fun exponent =>
        ofDecimal negative (Nat.ofDigitChars 10 (ds ++ es) 0) (exponent - es.length) := by
  have hrun := readDigits_append tail hwhole hstop 0 0
  rw [Nat.ofDigitChars_append]
  simp only [readUnsigned?, hrun]
  cases hpointed with
  | none =>
    split
    · exact absurd rfl (halone rfl)
    · simp
  | point hdigits =>
    have hbehind := readDigits_append more hdigits hends (Nat.ofDigitChars 10 ds 0) 0
    simp only [hbehind]
    simp

theorem exists_pointed (text : List Char) :
    ∃ es more, Pointed text es more ∧ ((∀ c ∈ text.head?, c.isDigit = false) →
      ∀ c ∈ more.head?, c.isDigit = false) ∧ (text = more → more.head? ≠ some '.') := by
  by_cases hpoint : text.head? = some '.'
  · obtain ⟨fraction, rfl⟩ := List.head?_eq_some_iff.1 hpoint
    obtain ⟨es, more, hdigits, hstop, rfl, -⟩ := exists_readDigits fraction 0 0
    refine ⟨es, more, .point hdigits more, fun _ => hstop, fun hsame => ?_⟩
    have hlength := congrArg List.length hsame
    simp only [List.length_cons, List.length_append] at hlength
    omega
  · exact ⟨[], text, .none text, id, fun _ => hpoint⟩

theorem readUnsigned?_eq_some_iff {negative : Bool} {x : Binary64} :
    readUnsigned? negative text = some x ↔ Unsigned negative text x := by
  constructor
  · intro hread
    obtain ⟨ds, tail, hwhole, hstop, rfl, -⟩ := exists_readDigits text 0 0
    obtain ⟨es, more, hpointed, hends, halone⟩ := exists_pointed tail
    rw [readUnsigned?_pointed negative hwhole hstop hpointed (hends hstop) halone] at hread
    split at hread
    · cases hread
    · rename_i hnonempty
      obtain ⟨value, hexponent, rfl⟩ := Option.map_eq_some_iff.1 hread
      obtain ⟨exponent, hexponential, rfl⟩ := readExponent?_eq_some_iff.1 hexponent
      exact .parts hwhole hpointed hnonempty hexponential
  · rintro ⟨hwhole, hpointed, hnonempty, hexponential⟩
    have hends := hexponential.head_ne
    have hstop := hpointed.head_ne fun c hfirst => (hends c hfirst).1
    rw [readUnsigned?_pointed negative hwhole hstop hpointed (fun c hfirst => (hends c hfirst).1)
      (fun _ hpoint => (hends '.' hpoint).2 rfl), if_neg hnonempty,
      readExponent?_eq_some_iff.2 ⟨_, hexponential, rfl⟩]
    rfl

/-! ## Literals -/

/-- A text names a number. -/
inductive Literal : List Char → Binary64 → Prop where
  | infinite {text word : List Char} {negative : Bool} (sign : Sign text negative word)
      (spelled : word.map Char.toLower = "inf".toList ∨ word.map Char.toLower = "infinity".toList) :
      Literal text (.infinite negative)
  | nan {text word : List Char} {negative : Bool} (sign : Sign text negative word)
      (spelled : word.map Char.toLower = "nan".toList) : Literal text .nan
  | decimal {text digits : List Char} {negative : Bool} {x : Binary64} (sign : Sign text negative digits)
      (unsigned : Unsigned negative digits x) : Literal text x

theorem head_of_toLower {word : List Char} {w : String} {x : Char}
    (hspelled : word.map Char.toLower = w.toList) (hfirst : w.toList.head? = some x)
    (hletter : x ≠ '-' ∧ x ≠ '+') : ∀ c ∈ word.head?, c ≠ '-' ∧ c ≠ '+' := by
  intro c hstart
  rw [← hspelled, List.head?_map, Option.mem_def.1 hstart] at hfirst
  have hlower : c.toLower = x := Option.some.inj hfirst
  constructor
  · rintro rfl
    exact hletter.1 hlower.symm
  · rintro rfl
    exact hletter.2 hlower.symm

/-- Digits start with a digit or a point. -/
theorem Unsigned.start {negative : Bool} {x : Binary64} (h : Unsigned negative text x) :
    ∃ c cs, text = c :: cs ∧ (c.isDigit = true ∨ c = '.') := by
  obtain ⟨hwhole, hpointed, hsome, -⟩ := h
  rename_i ds es tail more exponent
  cases ds with
  | cons d ds => exact ⟨d, _, rfl, .inl (hwhole d List.mem_cons_self)⟩
  | nil =>
    cases hpointed with
    | none => exact absurd rfl hsome
    | point => exact ⟨'.', _, rfl, .inr rfl⟩

/-- What is read of a text is what it names. -/
theorem ofText?_eq_some_iff {s : String} {x : Binary64} :
    ofText? s = some x ↔ Literal s.toList x := by
  constructor
  · intro hread
    have hsign := sign_readSign s.toList
    unfold ofText? at hread
    split at hread
    rename_i negative word hparts
    rw [hparts] at hsign
    dsimp only at hread
    split at hread
    · rename_i hspelled
      cases hread
      exact .infinite hsign hspelled
    · split at hread
      · rename_i hspelled
        cases hread
        exact .nan hsign hspelled
      · exact .decimal hsign (readUnsigned?_eq_some_iff.1 hread)
  · intro hliteral
    cases hliteral with
    | infinite hsign hspelled =>
      have hletter : 'i' ≠ '-' ∧ 'i' ≠ '+' := by decide
      have hsingle := hspelled.elim (head_of_toLower · rfl hletter) (head_of_toLower · rfl hletter)
      unfold ofText?
      rw [hsign.readSign_eq hsingle]
      exact if_pos hspelled
    | nan hsign hspelled =>
      have hletter : 'n' ≠ '-' ∧ 'n' ≠ '+' := by decide
      have hsingle := head_of_toLower hspelled rfl hletter
      unfold ofText?
      rw [hsign.readSign_eq hsingle]
      dsimp only
      rw [hspelled]
      rfl
    | decimal hsign hunsigned =>
      have hread := readUnsigned?_eq_some_iff.2 hunsigned
      obtain ⟨c, cs, rfl, hstart⟩ := hunsigned.start
      have hsingle : ∀ d ∈ (c :: cs).head?, d ≠ '-' ∧ d ≠ '+' := by
        rintro d ⟨⟩
        rcases hstart with hdigit | rfl
        · exact ne_sign_of_isDigit hdigit
        · decide
      have hwhole := ofText?_of_readSign hstart (hsign.readSign_eq hsingle)
      rw [String.ofList_toList] at hwhole
      exact hwhole.trans hread

end InstanceIdentity.Binary64
