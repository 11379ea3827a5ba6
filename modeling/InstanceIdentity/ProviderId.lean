import InstanceIdentity.Json.Shape

/-!
# Provider identifiers

A provider is named by one to sixty-four characters, each a lower-case ASCII letter, a digit, a
hyphen or an underscore.
-/

namespace InstanceIdentity

/-- Why a text names no provider. -/
inductive IdentifierError where
  | empty
  | invalidCharacter (value : String)
  | tooLong (limit : Nat)
  deriving DecidableEq

/-- The wording of a refusal. -/
def IdentifierError.message : IdentifierError → String
  | .empty => "Provider identifier cannot be empty."
  | .invalidCharacter value =>
    "Provider identifier `" ++ value ++ "` may only contain `[a-z0-9_-]`."
  | .tooLong limit => "Provider identifier exceeds " ++ toString limit ++ " characters."

namespace ProviderId

/-- The largest number of bytes in an identifier. -/
def limit : Nat := 64

/-- A character that identifiers may have. -/
def allows (c : Char) : Bool := c.isLower || c.isDigit || c = '-' || c = '_'

/-- The rule for identifiers. -/
def Valid (value : String) : Prop :=
  value ≠ "" ∧ value.utf8ByteSize ≤ limit ∧ ∀ c ∈ value.toList, allows c = true

instance (value : String) : Decidable (Valid value) :=
  inferInstanceAs (Decidable (_ ∧ _ ∧ _))

end ProviderId

/-- A text that names a provider. -/
structure ProviderId where
  value : String
  valid : ProviderId.Valid value
  deriving DecidableEq

namespace ProviderId

/-- Checks a text; of several faults the first of empty, too long and invalid is reported. -/
def ofText (value : String) : Except IdentifierError ProviderId :=
  if h : Valid value then .ok ⟨value, h⟩
  else if value = "" then .error .empty
  else if limit < value.utf8ByteSize then .error (.tooLong limit)
  else .error (.invalidCharacter value)

/-- A text is accepted exactly when it satisfies the rule. -/
theorem ofText_eq_ok_iff {value : String} {id : ProviderId} :
    ofText value = .ok id ↔ id.value = value := by
  constructor
  · intro h
    rw [ofText] at h
    split at h
    · cases h; rfl
    · split at h
      · cases h
      · split at h <;> cases h
  · rintro rfl
    rw [ofText, dif_pos id.valid]

/-- The form that diagnostics show. -/
def debugText (id : ProviderId) : String := "ProviderId(" ++ id.value ++ ")"

/-- An identifier is a JSON text. -/
def shape : Json.Shape ProviderId :=
  .refined .plainText (fun value => (ofText value).mapError IdentifierError.message) value

end ProviderId

end InstanceIdentity
