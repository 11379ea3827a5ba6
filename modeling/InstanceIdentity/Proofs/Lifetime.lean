import InstanceIdentity.Collection.Collector
import InstanceIdentity.Proofs.Provider.Validity

/-!
# Lifetimes of tokens

Whether a token is valid is asked in terms of instants, and the end of its life need not be one.
Here the question is answered by the nanoseconds alone: the end of a life is always a number, and a
token of a gate fails to have an end among the instants only when that number lies beyond the last
of them.

Main results:

- Theorem `SessionToken.isValidAt?_eq_some_true_iff`: a token is valid strictly before the end of its
  life, if that end is supported.
- Theorem `TokenGate.expiresAt?_eq_none_iff`: the end of a life is unsupported exactly when it lies
  beyond the last instant.
-/

namespace InstanceIdentity

namespace Instant

/-- The nanoseconds of the point in time some seconds later, which need not be a supported instant.
-/
def nanosAfter (t : Instant) (seconds : Int) : Int := t.nanos + seconds * 1000000000

/-- The instant some minutes into the year 2025. -/
def minute (n : Fin 60) : Instant where
  nanos := 1735689600000000000 + n.val * 60000000000
  supported := by
    have := n.isLt
    unfold first last
    omega

theorem nanosAfter_mono {s t : Instant} {seconds : Int} (h : s.nanos ≤ t.nanos) :
    s.nanosAfter seconds ≤ t.nanosAfter seconds :=
  Int.add_le_add_right h _

theorem before_eq_true_iff {s t : Instant} : s.before t = true ↔ s.nanos < t.nanos := by
  simp [before]

theorem addSeconds?_eq_some_iff {t u : Instant} {seconds : Int} :
    t.addSeconds? seconds = some u ↔ u.nanos = t.nanosAfter seconds :=
  ofNanos?_eq_some_iff

theorem addSeconds?_eq_none_iff {t : Instant} {seconds : Int} (h : 0 ≤ seconds) :
    t.addSeconds? seconds = none ↔ last < t.nanosAfter seconds := by
  have hfirst : first ≤ t.nanosAfter seconds := by
    have := t.supported.1
    unfold nanosAfter
    omega
  unfold addSeconds? ofNanos?
  change (if _ : first ≤ t.nanosAfter seconds ∧ t.nanosAfter seconds ≤ last then _ else _) = _ ↔ _
  split
  · rename_i hin
    simp only [reduceCtorEq, false_iff]
    omega
  · rename_i hout
    simp only [true_iff]
    omega

end Instant

/-! ## Validity -/

namespace SessionToken

variable {token : SessionToken} {now : Instant}

theorem isValidAt?_eq_none_iff : token.isValidAt? now = none ↔ token.expiresAt? = none := by
  simp [isValidAt?]

theorem isValidAt?_of_expiresAt? (now : Instant) {expiry : Instant}
    (h : token.expiresAt? = some expiry) : token.isValidAt? now = some (now.before expiry) := by
  simp [isValidAt?, h]

/-- A token is valid strictly before the end of its life, if that is supported. -/
theorem isValidAt?_eq_some_true_iff :
    token.isValidAt? now = some true ↔
      token.expiresAt? ≠ none ∧ now.nanos < token.createdAt.nanosAfter token.ttl := by
  unfold isValidAt?
  cases h : token.expiresAt? with
  | none => simp
  | some expiry =>
    have hnanos := Instant.addSeconds?_eq_some_iff.1 h
    simp [Instant.before_eq_true_iff, hnanos]

/-- A token is no longer valid from the end of its life on. -/
theorem isValidAt?_eq_some_false_iff :
    token.isValidAt? now = some false ↔
      token.expiresAt? ≠ none ∧ token.createdAt.nanosAfter token.ttl ≤ now.nanos := by
  unfold isValidAt?
  cases h : token.expiresAt? with
  | none => simp
  | some expiry =>
    have hnanos := Instant.addSeconds?_eq_some_iff.1 h
    have hbefore := Instant.before_eq_true_iff (s := now) (t := expiry)
    simp only [Option.map_some, Option.some.injEq, ne_eq, reduceCtorEq, not_false_eq_true, true_and,
      ← hnanos, Bool.eq_false_iff, hbefore]
    exact Int.not_lt

end SessionToken

/-! ## Tokens of a gate -/

namespace TokenGate

/-- The session token that a stored token stands for. -/
def sessionOf (gate : TokenGate) (cached : CachedToken) : SessionToken :=
  ⟨cached.secret, cached.createdAt, gate.ttl⟩

@[simp]
theorem sessionOf_secret (gate : TokenGate) (cached : CachedToken) :
    (gate.sessionOf cached).secret = cached.secret :=
  rfl

@[simp]
theorem sessionOf_createdAt (gate : TokenGate) (cached : CachedToken) :
    (gate.sessionOf cached).createdAt = cached.createdAt :=
  rfl

@[simp]
theorem sessionOf_ttl (gate : TokenGate) (cached : CachedToken) :
    (gate.sessionOf cached).ttl = gate.ttl :=
  rfl

theorem ttl_nonneg (gate : TokenGate) : 0 ≤ gate.ttl :=
  Int.natCast_nonneg _

/-- Only a life that ends beyond the last instant has no supported end. -/
theorem expiresAt?_eq_none_iff {gate : TokenGate} {token : SessionToken}
    (h : token.ttl = gate.ttl) :
    token.expiresAt? = none ↔ Instant.last < token.createdAt.nanosAfter gate.ttl := by
  unfold SessionToken.expiresAt?
  rw [h]
  exact Instant.addSeconds?_eq_none_iff gate.ttl_nonneg

end TokenGate

/-- A valid descriptor asks for tokens that live for some time. -/
theorem Descriptor.ttl_pos {d : Descriptor} {gate : TokenGate} (hvalid : d.validate = .ok ())
    (hgate : d.gate? = some gate) : 0 < gate.ttl := by
  have hseconds := ((validate_eq_ok_iff.1 hvalid).gate gate hgate).seconds_pos
  unfold TokenGate.ttl
  omega

end InstanceIdentity
