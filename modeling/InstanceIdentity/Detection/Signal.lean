import InstanceIdentity.Facts
import InstanceIdentity.Text.Lowercase
import InstanceIdentity.Text.Search

/-!
# Signals

The ways a provider shows in the facts about a host.  A strong signal names the provider outright;
the others carry weights that add up.
-/

namespace InstanceIdentity.Detection

/-- How a needle is compared with the value of a fact. -/
inductive Matcher where
  /-- The value contains the needle. -/
  | contains
  /-- The lower case of the value contains the lower case of the needle. -/
  | containsIgnoringCase
  /-- The value is the needle. -/
  | equals
  deriving DecidableEq, Inhabited

/-- Applies a matcher. -/
def Matcher.matches (matcher : Matcher) (value needle : String) : Bool :=
  match matcher with
  | .contains => Text.contains value needle
  | .containsIgnoringCase => Text.contains (Text.lower value) (Text.lower needle)
  | .equals => value = needle

/-- A fact that by itself identifies the provider. -/
structure StrongSignal where
  fact : String
  needle : String
  matcher : Matcher
  deriving DecidableEq

/-- The fact is textual and matches. -/
def StrongSignal.matches (signal : StrongSignal) (facts : FactSet) : Bool :=
  (facts.text? signal.fact).any fun value => signal.matcher.matches value signal.needle

/-- A weight for hypervisors whose name contains the needle. -/
structure HypervisorWeight where
  needle : String
  weight : Binary64
  deriving DecidableEq

/-- The name contains the needle. -/
def HypervisorWeight.matches (entry : HypervisorWeight) (hypervisor : String) : Bool :=
  Text.contains hypervisor entry.needle

/-- A weight for a fact that starts in a certain way, whatever its case. -/
structure PrefixSignal where
  fact : String
  start : String
  weight : Binary64
  deriving DecidableEq

/-- The fact is textual and starts as the signal says, ignoring case. -/
def PrefixSignal.matches (signal : PrefixSignal) (facts : FactSet) : Bool :=
  (facts.text? signal.fact).any fun value =>
    Text.startsWith (Text.lower value) (Text.lower signal.start)

/-- A weight for a keyword in any textual fact, whatever its case. -/
structure KeywordTier where
  keyword : String
  weight : Binary64
  deriving DecidableEq

/-- A value in lower case contains the keyword. -/
def KeywordTier.foundIn (tier : KeywordTier) (lowered : String) : Bool :=
  Text.contains lowered (Text.lower tier.keyword)

open Json (Shape Fields)

/-- The names of the matchers. -/
def Matcher.names : List (String × Matcher) :=
  [("contains", .contains), ("contains_ignore_case", .containsIgnoringCase), ("equals", .equals)]

/-- The name of a matcher. -/
def Matcher.name : Matcher → String
  | .contains => "contains"
  | .containsIgnoringCase => "contains_ignore_case"
  | .equals => "equals"

/-- A matcher is written by its name. -/
def Matcher.shape : Shape Matcher := .choice names name

/-- The layout of a strong signal. -/
def StrongSignal.shape : Shape StrongSignal :=
  (Shape.record "struct StrongSignal" <|
    .field "fact" .refused .plainText <|
    .field "needle" .refused .plainText <|
    .field "matcher" .refused Matcher.shape .done).via
    (fun (fact, needle, matcher, ()) => ⟨fact, needle, matcher⟩)
    (fun s => (s.fact, s.needle, s.matcher, ()))

/-- The layout of a hypervisor weight. -/
def HypervisorWeight.shape : Shape HypervisorWeight :=
  (Shape.record "struct HypervisorWeight" <|
    .field "needle" .refused .plainText <|
    .field "weight" .refused .float .done).via
    (fun (needle, weight, ()) => ⟨needle, weight⟩)
    (fun h => (h.needle, h.weight, ()))

/-- The layout of a prefix signal. -/
def PrefixSignal.shape : Shape PrefixSignal :=
  (Shape.record "struct PrefixSignal" <|
    .field "fact" .refused .plainText <|
    .field "prefix" .refused .plainText <|
    .field "weight" .refused .float .done).via
    (fun (fact, start, weight, ()) => ⟨fact, start, weight⟩)
    (fun p => (p.fact, p.start, p.weight, ()))

/-- The layout of a keyword tier. -/
def KeywordTier.shape : Shape KeywordTier :=
  (Shape.record "struct KeywordTier" <|
    .field "keyword" .refused .plainText <|
    .field "weight" .refused .float .done).via
    (fun (keyword, weight, ()) => ⟨keyword, weight⟩)
    (fun k => (k.keyword, k.weight, ()))

end InstanceIdentity.Detection
