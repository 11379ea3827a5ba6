import InstanceIdentity.Text.Normal.Tables

/-!
# Normal form

Many letters with marks have two spellings: as one character, or as a letter followed by its marks.
The normal form of a text uses the first wherever there is one.  It is found by taking all characters
apart, ordering the marks after each letter by their classes, and putting together again what belongs
together.  Characters are given by their code points.
-/

namespace InstanceIdentity.Text.Normal

/-! ## Korean syllables -/

/-- The code point of the first syllable. -/
def firstSyllable : Nat := 0xac00

/-- The numbers of consonants before, vowels, and consonants after, where the last may be missing. -/
def leads : Nat := 19

/-- The number of vowels. -/
def vowels : Nat := 21

/-- The number of final consonants, none being one of them. -/
def tails : Nat := 28

/-- The code point of the first consonant before a vowel. -/
def firstLead : Nat := 0x1100

/-- The code point of the first vowel. -/
def firstVowel : Nat := 0x1161

/-- The code point before the first final consonant. -/
def beforeTails : Nat := 0x11a7

/-- The letters of a syllable. -/
def syllableLetters (index : Nat) : List Nat :=
  let start := [firstLead + index / (vowels * tails), firstVowel + index / tails % vowels]
  if index % tails = 0 then start else start ++ [beforeTails + index % tails]

/-- The syllable that two characters make up. -/
def syllableOf? (first second : Nat) : Option Nat :=
  let lead := first - firstLead
  let vowel := second - firstVowel
  if firstLead ≤ first && lead < leads && firstVowel ≤ second && vowel < vowels then
    some (firstSyllable + (lead * vowels + vowel) * tails)
  else
    let bare := firstSyllable ≤ first && first < firstSyllable + leads * vowels * tails &&
      (first - firstSyllable) % tails = 0
    if bare && beforeTails < second && second < beforeTails + tails then
      some (first + (second - beforeTails))
    else none

/-! ## Taking apart -/

/-- How often the parts of a character can be taken apart in turn. -/
def depth : Nat := 3

/-- A character in its parts, taken apart at most a number of times. -/
def partsWithin : Nat → Nat → List Nat
  | 0, code => [code]
  | turns + 1, code =>
    match (rowOf? code composites).or (rowOf? code replaced) with
    | some parts => parts.flatMap (partsWithin turns)
    | none => [code]

/-- A character in its parts. -/
def parts (code : Nat) : List Nat :=
  if code < 0xc0 then [code]
  else if firstSyllable ≤ code && code < firstSyllable + leads * vowels * tails then
    syllableLetters (code - firstSyllable)
  else partsWithin depth code

/-- The class of a mark; letters have class zero. -/
def markClass (code : Nat) : Nat :=
  if code < 0x300 then 0
  else
    (markRuns.findSome? fun
      | [first, last, cls] => if first ≤ code && code ≤ last then some cls else none
      | _ => none).getD 0

/-- Puts a mark among those before it, last first: behind all that are not of a higher class. -/
def placeMark (code : Nat) : List Nat → List Nat
  | [] => [code]
  | before :: rest =>
    if 0 < markClass code && markClass code < markClass before then before :: placeMark code rest
    else code :: before :: rest

/-- Characters in their parts, with the marks after each letter in the order of their classes. -/
def decompose (codes : List Nat) : List Nat :=
  ((codes.flatMap parts).foldl (fun done code => placeMark code done) []).reverse

/-! ## Putting together -/

/-- The character that two others make up. -/
def composite? (first second : Nat) : Option Nat :=
  (syllableOf? first second).or
    (composites.findSome? fun
      | [code, a, b] => if a = first && b = second then some code else none
      | _ => none)

/-- What has been put together: finished characters, last first; the last letter; and the marks after
it that did not join it, last first. -/
structure Assembly where
  finished : List Nat := []
  letter : Option Nat := none
  loose : List Nat := []

namespace Assembly

/-- A mark cannot reach the letter across another of its class or a higher one. -/
def blocks (assembly : Assembly) (cls : Nat) : Bool :=
  match assembly.loose with
  | [] => false
  | mark :: _ => cls ≤ markClass mark

/-- Starts over with a letter, or leaves a mark loose. -/
def append (assembly : Assembly) (code : Nat) : Assembly :=
  if markClass code = 0 then
    { finished := assembly.loose ++ (assembly.letter.toList ++ assembly.finished)
      letter := some code }
  else { assembly with loose := code :: assembly.loose }

/-- Takes the next character. -/
def take (assembly : Assembly) (code : Nat) : Assembly :=
  let joined :=
    if assembly.blocks (markClass code) then none
    else assembly.letter.bind fun letter => composite? letter code
  match joined with
  | some letter => { assembly with letter := some letter }
  | none => assembly.append code

/-- Everything in order. -/
def codes (assembly : Assembly) : List Nat :=
  (assembly.loose ++ (assembly.letter.toList ++ assembly.finished)).reverse

end Assembly

/-- Puts together what belongs together. -/
def compose (codes : List Nat) : List Nat := (codes.foldl Assembly.take {}).codes

/-- The normal form. -/
def normalize (codes : List Nat) : List Nat := compose (decompose codes)

end InstanceIdentity.Text.Normal
