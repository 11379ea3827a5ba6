import InstanceIdentity.Proofs.Binary64.Literal
import InstanceIdentity.Store.CacheFile

/-!
# Which times name an instant

The time of a cache file names an instant when it names a finite number of seconds, and the nanoseconds of
that number, cut to an integer, lie in the supported range.  They are then those of the instant.  Every
other time names none, however far outside of the range it lies.

Main results:

- Definition `CacheFile.Names`: the number of seconds that a time names.
- Definition `CacheFile.Counts`: the nanoseconds that a time comes to.
- Theorem `CacheFile.instant?_eq_some_iff`: which times name an instant.
-/

namespace InstanceIdentity.CacheFile

open Binary64 (Literal)

variable {time : Time}

/-- The number of seconds that a time names: a literal, perhaps with blanks around it, or the number. -/
inductive Names : Time → Binary64 → Prop where
  | literal {value : String} {x : Binary64} (literal : Literal (Text.trimmed value).toList x) :
      Names (.text value) x
  | number (x : Binary64) : Names (.number x) x

theorem seconds?_eq_some_iff {x : Binary64} : time.seconds? = some x ↔ Names time x := by
  cases time with
  | text value =>
    have hread : (Time.text value).seconds? = Binary64.ofText? (Text.trimmed value) := rfl
    rw [hread, Binary64.ofText?_eq_some_iff]
    constructor
    · exact .literal
    · rintro ⟨hliteral⟩
      exact hliteral
  | number seconds =>
    constructor
    · rintro ⟨⟩
      exact .number _
    · rintro ⟨⟩
      rfl

/-- A count names the instant of that many nanoseconds: the ends of the words of 128 bits name none. -/
theorem instantOfCount?_eq (nanos : Int) : instantOfCount? nanos = Instant.ofNanos? nanos := by
  have hhighest : Int.pow 2 127 = 170141183460469231731687303715884105728 := rfl
  ext t
  have hsupported := t.supported
  unfold Instant.first Instant.last at hsupported
  rw [instantOfCount?, Instant.ofNanos?_eq_some_iff, Instant.ofNanos?_eq_some_iff]
  omega

/-- The nanoseconds that a time comes to: it names a finite number of seconds, and they are the product with
`10 ^ 9`, cut to an integer. -/
def Counts (time : Time) (nanos : Int) : Prop :=
  ∃ x, Names time x ∧ x.isFinite = true ∧ (x.scale 1000000000 1).truncate? = some nanos

/-- A time names the instant of the nanoseconds that it comes to. -/
theorem instant?_eq_some_iff {t : Instant} : time.instant? = some t ↔ Counts time t.nanos := by
  constructor
  · intro hinstant
    unfold Time.instant? at hinstant
    obtain ⟨x, hfiltered, hcounted⟩ := Option.bind_eq_some_iff.1 hinstant
    obtain ⟨nanos, hcount, hnamed⟩ := Option.bind_eq_some_iff.1 hcounted
    obtain ⟨hseconds, hfinite⟩ := Option.filter_eq_some_iff.1 hfiltered
    rw [instantOfCount?_eq, Instant.ofNanos?_eq_some_iff] at hnamed
    exact ⟨x, seconds?_eq_some_iff.1 hseconds, hfinite, hnamed ▸ hcount⟩
  · rintro ⟨x, hnames, hfinite, hcount⟩
    unfold Time.instant?
    rw [seconds?_eq_some_iff.2 hnames, Option.filter_some, if_pos hfinite, Option.bind_eq_bind,
      Option.bind_some, hcount, Option.bind_eq_bind, Option.bind_some, instantOfCount?_eq,
      Instant.ofNanos?_eq_some_iff]

end InstanceIdentity.CacheFile
