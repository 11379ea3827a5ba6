/-!
# Parts of texts

A text contains another when it occurs in it as a run of consecutive characters, and starts with it
when the run begins the text.  The empty text is part of every text.
-/

namespace InstanceIdentity.Text

/-- One list begins with another. -/
def beginsWith : List Char → List Char → Bool
  | _, [] => true
  | [], _ :: _ => false
  | c :: cs, d :: ds => c == d && beginsWith cs ds

/-- A list occurs somewhere in another. -/
def occursIn (part : List Char) : List Char → Bool
  | [] => part.isEmpty
  | c :: cs => beginsWith (c :: cs) part || occursIn part cs

/-- The value contains the part. -/
def contains (value part : String) : Bool := occursIn part.toList value.toList

/-- The value starts with the part. -/
def startsWith (value part : String) : Bool := beginsWith value.toList part.toList

theorem beginsWith_iff {value part : List Char} :
    beginsWith value part = true ↔ part <+: value := by
  induction value generalizing part with
  | nil => cases part <;> simp [beginsWith]
  | cons c cs ih =>
    cases part with
    | nil => simp [beginsWith]
    | cons d ds =>
      simp only [beginsWith, Bool.and_eq_true, beq_iff_eq, ih, List.cons_prefix_cons]
      exact and_congr_left fun _ => eq_comm

theorem occursIn_iff {part value : List Char} :
    occursIn part value = true ↔ part <:+: value := by
  induction value with
  | nil => simp [occursIn]
  | cons c cs ih => simp [occursIn, beginsWith_iff, ih, List.infix_cons_iff]

/-- Containing a part means that it is a run of consecutive characters. -/
theorem contains_iff {value part : String} :
    contains value part = true ↔ part.toList <:+: value.toList :=
  occursIn_iff

/-- Starting with a part means that it is the value's first run of characters. -/
theorem startsWith_iff {value part : String} :
    startsWith value part = true ↔ part.toList <+: value.toList :=
  beginsWith_iff

end InstanceIdentity.Text
