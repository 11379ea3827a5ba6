import InstanceIdentity.Proofs.Json.Records
import InstanceIdentity.Proofs.Store.Payload
import InstanceIdentity.Proofs.Store.Timestamps

/-!
# Which texts are cache files

A text is read as a cache file when it starts with a document of one of two forms: an object in which
exactly one member tells a time and exactly one is a token, beside any others, or a list of these two.
Reading stops at the end of that document, so that what follows it does not matter.

Main results:

- Structure `CacheFile.Holds`: what the members of an object must be; Definition `CacheFile.Document`:
  the two forms.
- Theorem `CacheFile.run_eq_ok_iff`: the contents that are read are those that a text starts with.
- Theorem `CacheFile.parse_accepts`: which texts are accepted, and which are no cache files.
- Theorem `CacheFile.parse_time`: which documents are accepted for their time.
-/

namespace InstanceIdentity.CacheFile

open Json (Blanks Fault FieldTakes Gathers Member Members Scalar ended_bracket ended_comma)
open Json.Reader (Ensures Reads Recognizes Follows)

/-! ## Documents -/

/-- A text or a number tells a time. -/
def Tells (text : List Char) (time : Time) (rest : List Char) : Prop :=
  ∃ json, Scalar text json rest ∧ Time.ofJson? json = some time

/-- A text is a token. -/
def Spelled (text : List Char) (token : String) (rest : List Char) : Prop :=
    Scalar text (.text token) rest

theorem Tells.append {text rest : List Char} {time : Time} (more : List Char)
    (h : Tells text time rest) :
    Tells (text ++ more) time (rest ++ more) := by
  obtain ⟨json, hscalar, htold⟩ := h
  exact ⟨json, hscalar.append more, htold⟩

/-- The members of an object hold a content: exactly one is the time, and exactly one the token. -/
structure Holds (members : List Member) (content : Content) : Prop where
  time : ∃ m, members.filter (·.key = "ctime") = [m] ∧ Tells m.value content.time m.behind
  token : ∃ m, members.filter (·.key = "token") = [m] ∧ Spelled m.value content.token m.behind

theorem Holds.append {members : List Member} {content : Content} (more : List Char)
    (h : Holds members content) : Holds (members.map (·.append more)) content := by
  have hfiltered {name : String} {m : Member} (honly : members.filter (·.key = name) = [m]) :
      (members.map (·.append more)).filter (·.key = name) = [m.append more] := by
    rw [List.filter_map]
    exact congrArg _ honly
  obtain ⟨⟨m, hone, htells⟩, m', hone', hspelled⟩ := h
  exact ⟨⟨_, hfiltered hone, htells.append more⟩, _, hfiltered hone', hspelled.append more⟩

/-- A document with a content stands in front of a text. -/
inductive Document : List Char → Content → List Char → Prop where
  | object {text rest : List Char} {members : List Member} {content : Content}
      (object : Members true text members rest) (holds : Holds members content) :
      Document ('\x7b' :: text) content rest
  | list {text first behind next second closed rest : List Char} {content : Content}
      (front : Blanks text first) (time : Tells first content.time behind)
      (comma : Blanks behind (',' :: next)) (blanks : Blanks next second)
      (token : Spelled second content.token closed) (closing : Blanks closed (']' :: rest)) :
      Document ('[' :: text) content rest

/-- A text starts with a document, perhaps behind blanks. -/
def Starts (s : String) (content : Content) (rest : List Char) : Prop :=
  ∃ text, Blanks s.toList text ∧ Document text content rest

/-! ## Times and tokens -/

variable {before rest : List Char} {content : Content}

theorem recognizes_time (room : Nat) : Recognizes (Time.shape.read room) Tells where
  stands := by
    rintro text rest time ⟨json, hscalar, -⟩
    exact hscalar.stands
  ensures before := by
    unfold Time.shape Json.Shape.read
    refine .bind_of (Json.Reader.ensures_value room) ?_
    intro json rest hfound
    refine Json.Reader.ensures_judged fun time hchosen => ?_
    cases htold : Time.ofJson? json with
    | none =>
      rw [htold] at hchosen
      cases hchosen
    | some value =>
      rw [htold] at hchosen
      cases hchosen
      -- a container tells no time
      rcases hfound with ⟨text, hblanks, hscalar⟩ | ⟨items, rfl⟩ | ⟨members, rfl⟩
      · exact ⟨text, hblanks, json, hscalar, htold⟩
      · cases htold
      · cases htold
  reads {before text rest time} hblanks htells hended := by
    obtain ⟨json, hscalar, htold⟩ := htells
    have hread := Json.Reader.reads_value_scalar (Json.Reader.reads_scalar hblanks hscalar hended) room
    unfold Time.shape Json.Shape.read
    refine .bind hread ?_
    rw [htold]
    exact .pure time rest

theorem recognizes_token (room : Nat) : Recognizes (Json.Shape.plainText.read room) Spelled where
  stands h := h.stands
  ensures before := by
    unfold Json.Shape.plainText Json.Shape.read
    refine Json.Reader.ensures_textBy.mono ?_
    rintro _ rest ⟨text, s, hblanks, hscalar, ⟨⟩⟩
    exact ⟨text, hblanks, hscalar⟩
  reads {before text rest token} hblanks hspelled _ := by
    obtain ⟨opened, cs, rfl, hspells, rfl⟩ := hspelled.exists_spells
    unfold Json.Shape.plainText Json.Shape.read Json.Reader.textBy
    exact .placed (.blanksTo hblanks rfl
      (.skip (.bind (Json.Reader.reads_spelled hspells) (.pure _ rest))))

/-! ## Contents -/

/-- What is known of the fields of a cache file. -/
abbrev Known := Option Time × Option String × Unit

/-- What the fields of a cache file take from a member. -/
abbrev Taken : Known → Member → Known → Prop :=
  FieldTakes "ctime" Tells (FieldTakes "token" Spelled fun _ _ _ => True)

theorem follows (room : Nat) : Follows (fields.offer room) Taken :=
  .field (recognizes_time room) (.field (recognizes_token room) (Json.Reader.follows_done room))

theorem gathers_unit {members : List Member} {known known' : Unit} :
    Gathers (fun _ _ _ => True) known members known' := by
  induction members with
  | nil => exact .done _
  | cons member members ih => exact .member trivial ih

/-- What is gathered from the members of an object is a content when they hold it. -/
theorem gathers_iff {members : List Member} {time : Time} {token : String} :
    Gathers Taken (none, none, ()) members (some time, some token, ()) ↔
      Holds members ⟨time, token⟩ := by
  have hothers : (members.filter (·.key ≠ "ctime")).filter (·.key = "token") =
      members.filter (·.key = "token") := by
    rw [List.filter_filter]
    refine List.filter_congr fun member _ => ?_
    rw [Bool.and_eq_left_iff_imp]
    intro hnamed
    rw [decide_eq_true_eq] at hnamed ⊢
    rw [hnamed]
    decide
  unfold Taken
  rw [Json.gathers_field, Json.gathers_field, hothers, Json.fills_some_iff, Json.fills_some_iff]
  constructor
  · rintro ⟨htime, htoken, -⟩
    exact ⟨htime, htoken⟩
  · rintro ⟨htime, htoken⟩
    exact ⟨htime, htoken, gathers_unit⟩

theorem finish_eq_ok {known : Known} {value : Time × String × Unit}
    (hfinished : fields.finish known = .ok value) : known = (some value.1, some value.2.1, ()) := by
  obtain ⟨_ | time, _ | token, ⟨⟩⟩ := known
  · cases hfinished
  · cases hfinished
  · cases hfinished
  · cases hfinished
    rfl

/-- The fields of a cache file in a list are its time and its token. -/
theorem ensures_listed (room : Nat) :
    Ensures (fields.readListed "struct CacheFile" room 0) before fun value rest =>
      ∀ after, Blanks rest (']' :: after) →
        Document ('[' :: before) ⟨value.1, value.2.1⟩ after := by
  refine Json.Reader.ensures_readListed_field (recognizes_time room) ?_
  intro time next first behind hparted hfront htells
  refine Json.Reader.ensures_readListed_field (recognizes_token room) ?_
  intro token next' second closed hcomma hblanks hspelled
  cases hparted with | first => ?_
  cases hcomma with | comma hcomma => ?_
  rw [Json.Fields.readListed]
  exact .pure fun after hclosing => .list hfront htells hcomma hblanks hspelled hclosing

/-- What is read is a document. -/
theorem ensures_content (room : Nat) :
    Ensures (Content.shape.read room) before fun content rest =>
      ∃ text, Blanks before text ∧ Document text content rest := by
  have hrecord : Ensures ((Json.Shape.record "struct CacheFile" fields).read room) before
      fun value rest => ∃ text, Blanks before text ∧ Document text ⟨value.1, value.2.1⟩ rest := by
    rw [Json.Shape.read]
    refine (Json.Reader.ensures_recordBy (fun room text => ensures_listed room) follows).mono ?_
    rintro value rest
      ⟨text, ⟨hblanks, hlisted⟩ | ⟨hblanks, members, known, hobject, hgathers, hfinished⟩⟩
    · exact ⟨_, hblanks, hlisted⟩
    · obtain rfl := finish_eq_ok hfinished
      exact ⟨_, hblanks, .object hobject (gathers_iff.1 hgathers)⟩
  unfold Content.shape Json.Shape.via
  rw [Json.Shape.read]
  exact .bind_of hrecord fun value rest hfound => .pure hfound

/-- A document is read. -/
theorem reads_document {text : List Char} (hblanks : Blanks before text)
    (hdocument : Document text content rest) :
    Reads (Content.shape.read Json.Reader.nesting) before content rest := by
  have hrecord : Reads ((Json.Shape.record "struct CacheFile" fields).read Json.Reader.nesting) before
      (content.time, content.token, ()) rest := by
    rw [Json.Shape.read]
    cases hdocument with
    | object hobject hholds =>
      exact Json.Reader.reads_recordBy_object (follows _) hblanks hobject (gathers_iff.2 hholds) rfl
    | list hfront htime hcomma hbetween htoken hclosing =>
      refine Json.Reader.reads_recordBy_list hblanks ?_ hclosing
      refine Json.Reader.reads_readListed_field (recognizes_time _) (.first _) hfront htime
        (hcomma.ended (ended_comma _)) ?_
      refine Json.Reader.reads_readListed_field (recognizes_token _) (.comma hcomma) hbetween htoken
        (hclosing.ended (ended_bracket _)) ?_
      rw [Json.Fields.readListed]
      exact .pure () _
  unfold Content.shape Json.Shape.via
  rw [Json.Shape.read]
  exact .bind hrecord (.pure content rest)

/-! ## Whole files -/

/-- The contents that are read are those that a text starts with. -/
theorem run_eq_ok_iff {s : String} :
    (Content.shape.read Json.Reader.nesting).run s = .ok content ↔ ∃ rest, Starts s content rest := by
  constructor
  · exact (ensures_content Json.Reader.nesting).run
  · rintro ⟨rest, text, hblanks, hdocument⟩
    exact (reads_document hblanks hdocument).run

/-- A text that is written for a time and a token starts with their document. -/
theorem starts_of_written {s timeText secret : String}
    (htext : s.toList = written timeText secret rest) : Starts s ⟨.text timeText, secret⟩ rest := by
  obtain ⟨place, hread⟩ := reads_content timeText secret rest ⟨1, 0⟩
  rw [← htext] at hread
  exact ensures_content Json.Reader.nesting ⟨1, 0⟩ _ _ hread

/-- A text starts with one document. -/
theorem Starts.unique {s : String} {content' : Content} {rest' : List Char} (h : Starts s content rest)
    (h' : Starts s content' rest') : content = content' ∧ rest = rest' := by
  obtain ⟨text, hblanks, hdocument⟩ := h
  obtain ⟨text', hblanks', hdocument'⟩ := h'
  exact (reads_document hblanks hdocument).unique (reads_document hblanks' hdocument')

/-- What comes behind the document does not matter. -/
theorem Starts.append {s : String} (h : Starts s content rest) (more : String) :
    Starts (s ++ more) content (rest ++ more.toList) := by
  obtain ⟨text, hblanks, hdocument⟩ := h
  rw [Starts, String.toList_append]
  refine ⟨_, hblanks.append _, ?_⟩
  cases hdocument with
  | object hobject hholds =>
    exact .object (hobject.append _) (hholds.append _)
  | list hfront htime hcomma hbetween htoken hclosing =>
    exact .list (hfront.append _) (htime.append _) (hcomma.append _) (hbetween.append _)
      (htoken.append _)
      (hclosing.append _)

/-- A text that starts with an object starts with a document when the members hold a content. -/
theorem starts_iff_holds {s : String} {text : List Char} {members : List Member}
    (hblanks : Blanks s.toList ('\x7b' :: text)) (hobject : Members true text members rest) :
    (∃ content rest, Starts s content rest) ↔ ∃ content, Holds members content := by
  constructor
  · rintro ⟨content, rest', text', hblanks', hdocument⟩
    cases hdocument with
    | object hobject' hholds =>
      obtain ⟨-, rfl⟩ := hblanks.unique_cons hblanks' rfl rfl
      obtain ⟨rfl, -⟩ := hobject.unique hobject'
      exact ⟨content, hholds⟩
    | list => exact absurd (hblanks.unique_cons hblanks' rfl rfl).1 (by decide)
  · rintro ⟨content, hholds⟩
    exact ⟨content, rest, _, hblanks, .object hobject hholds⟩

theorem parse_of_starts {s : String} (hstarts : Starts s content rest) (path : String) :
    parse path s = content.time.instant?.elim (.error (.invalidTimestamp content.time.found))
      fun createdAt => .ok { secret := ⟨content.token⟩, createdAt } :=
  parse_of_run (run_eq_ok_iff.2 ⟨rest, hstarts⟩)

/-- A text that starts with no document is refused, with what is wrong in it. -/
theorem parse_of_not_starts {s : String} (hnothing : ¬ ∃ content rest, Starts s content rest)
    (path : String) : ∃ fault : Fault, parse path s =
      .error (.serialization ("Failed to parse " ++ path ++ ": " ++ fault.messageWithPath)) := by
  unfold parse
  cases hread : (Content.shape.read Json.Reader.nesting).run s with
  | error fault => exact ⟨fault, rfl⟩
  | ok content => exact absurd ⟨content, run_eq_ok_iff.1 hread⟩ hnothing

/-- A text that starts with a document is not refused for its form. -/
theorem not_serialization_of_starts {s : String} (hstarts : Starts s content rest)
    (path message : String) :
    parse path s ≠ .error (.serialization message) := by
  rw [parse_of_starts hstarts]
  cases content.time.instant? <;> simp

/-- A text is accepted when it starts with a document whose time comes to the nanoseconds of an instant, and
its token is then the one of the document.  It is refused for its form exactly when it starts with no document; one that
starts with an object, when the members of that object do not hold a time and a token, once each.  What
comes behind the document does not matter. -/
theorem parse_accepts (path s : String) :
    (∀ token, parse path s = .ok token ↔ ∃ content rest, Starts s content rest ∧
      Counts content.time token.createdAt.nanos ∧ token.secret = ⟨content.token⟩) ∧
    ((∃ fault : Fault, parse path s =
        .error (.serialization ("Failed to parse " ++ path ++ ": " ++ fault.messageWithPath))) ↔
      ¬ ∃ content rest, Starts s content rest) ∧
    (∀ text members rest, Blanks s.toList ('\x7b' :: text) → Members true text members rest →
      ((∃ message, parse path s = .error (.serialization message)) ↔
        ¬ ∃ content, Holds members content)) ∧
    ((∃ content rest, Starts s content rest) → ∀ more, parse path (s ++ more) = parse path s) := by
  refine ⟨fun token => ⟨fun haccepted => ?_, ?_⟩, ⟨?_, (parse_of_not_starts · path)⟩, ?_, ?_⟩
  · by_cases hstarts : ∃ content rest, Starts s content rest
    · obtain ⟨content, rest, hstarts⟩ := hstarts
      rw [parse_of_starts hstarts] at haccepted
      cases hinstant : content.time.instant? with
      | none =>
        rw [hinstant] at haccepted
        cases haccepted
      | some createdAt =>
        rw [hinstant] at haccepted
        cases haccepted
        exact ⟨content, rest, hstarts, instant?_eq_some_iff.1 hinstant, rfl⟩
    · obtain ⟨fault, hrefused⟩ := parse_of_not_starts hstarts path
      rw [hrefused] at haccepted
      cases haccepted
  · rintro ⟨content, rest, hstarts, hcounts, hsecret⟩
    rw [parse_of_starts hstarts, instant?_eq_some_iff.2 hcounts, ← hsecret]
    rfl
  · rintro ⟨fault, hrefused⟩ ⟨content, rest, hstarts⟩
    exact not_serialization_of_starts hstarts path _ hrefused
  · intro text members rest hblanks hobject
    rw [← starts_iff_holds hblanks hobject]
    constructor
    · rintro ⟨message, hrefused⟩ ⟨content, rest, hstarts⟩
      exact not_serialization_of_starts hstarts path message hrefused
    · intro hnothing
      obtain ⟨fault, hrefused⟩ := parse_of_not_starts hnothing path
      exact ⟨_, hrefused⟩
  · rintro ⟨content, rest, hstarts⟩ more
    rw [parse_of_starts hstarts, parse_of_starts (hstarts.append more)]

/-- An object without members is refused for its form, and what follows a document is passed over. -/
theorem parse_accepts_bare :
    let s := "\x7b\"ctime\":\"1735689600\",\"token\":\"t\"\x7d"
    (Blanks "\x7b\x7d".toList ['\x7b', '\x7d'] ∧ Members true ['\x7d'] [] [] ∧
        ∃ message, parse "t.json" "\x7b\x7d" = .error (.serialization message)) ∧
      (∃ content rest, Starts s content rest) ∧ ∀ more, parse "t.json" (s ++ more) =
        parse "t.json" s := by
  intro s
  have hwritten : s.toList = written "1735689600" "t" [] := by decide
  have hstarts : ∃ content rest, Starts s content rest := ⟨_, [], starts_of_written hwritten⟩
  have hobject : Members true ['\x7d'] [] [] := .done (.done _)
  have hnothing : ¬ ∃ content, Holds [] content := by
    rintro ⟨content, ⟨m, hnamed, -⟩, -⟩
    cases hnamed
  refine ⟨⟨.done _, hobject, ?_⟩, hstarts, (parse_accepts "t.json" s).2.2.2 hstarts⟩
  exact ((parse_accepts "t.json" "\x7b\x7d").2.2.1 _ _ _ (.done _) hobject).2 hnothing

/-- A file whose document is followed by a word is accepted, though not as a whole. -/
theorem parse_trailing :
    let s := "\x7b\"ctime\":\"1735689600\",\"token\":\"t\"\x7d trailing"
    (parse "t.json" s = .ok ⟨⟨"t"⟩, ⟨1735689600000000000, by decide⟩⟩) ∧
      ¬ ∃ content rest, Starts s content rest ∧ Blanks rest [] := by
  intro s
  have hwritten : s.toList = written "1735689600" "t" " trailing".toList := by decide
  refine ⟨by decide +kernel, ?_⟩
  rintro ⟨content, rest, hstarts, hends⟩
  obtain ⟨-, rfl⟩ := hstarts.unique (starts_of_written hwritten)
  cases hends with
  | more _ hothers => cases hothers with | more hletter => cases hletter

/-- A document whose time comes to a supported number of nanoseconds is accepted with that many, and every
other one is refused for its time as it was found.  No other number of nanoseconds is ever accepted. -/
theorem parse_time {s : String} (hstarts : Starts s content rest) (path : String) :
    (∀ nanos (hsupported : Instant.first ≤ nanos ∧ nanos ≤ Instant.last), Counts content.time nanos →
      parse path s = .ok ⟨⟨content.token⟩, ⟨nanos, hsupported⟩⟩) ∧
    ((∀ nanos, Counts content.time nanos → ¬ (Instant.first ≤ nanos ∧ nanos ≤ Instant.last)) →
      parse path s = .error (.invalidTimestamp content.time.found)) ∧
    ∀ token, parse path s = .ok token →
      token.secret = ⟨content.token⟩ ∧ Counts content.time token.createdAt.nanos := by
  have hparsed := parse_of_starts hstarts path
  refine ⟨fun nanos hsupported hcounts => ?_, fun hunsupported => ?_, fun token haccepted => ?_⟩
  · have hinstant : content.time.instant? = some ⟨nanos, hsupported⟩ := instant?_eq_some_iff.2 hcounts
    rw [hparsed, hinstant, Option.elim_some]
  · cases hinstant : content.time.instant? with
    | none => rw [hparsed, hinstant, Option.elim_none]
    | some t => exact absurd t.supported (hunsupported _ (instant?_eq_some_iff.1 hinstant))
  · cases hinstant : content.time.instant? with
    | none =>
      rw [hparsed, hinstant] at haccepted
      cases haccepted
    | some t =>
      rw [hparsed, hinstant] at haccepted
      cases haccepted
      exact ⟨rfl, instant?_eq_some_iff.1 hinstant⟩

/-- The start of 2025 is accepted, and `2 ^ 64` seconds, for which a word of 64 bits would come round to
1970, are not. -/
theorem parse_time_newYear :
    let document := fun time => "\x7b\"ctime\":\"" ++ time ++ "\",\"token\":\"t\"\x7d"
    (∃ rest, Starts (document "1735689600") ⟨.text "1735689600", "t"⟩ rest) ∧
      parse "t.json" (document "1735689600") = .ok ⟨⟨"t"⟩, ⟨1735689600000000000, by decide⟩⟩ ∧
      (∃ rest, Starts (document "18446744073709551616") ⟨.text "18446744073709551616", "t"⟩ rest) ∧
      parse "t.json" (document "18446744073709551616") =
        .error (.invalidTimestamp "18446744073709551616") := by
  intro document
  have hnewYear : Starts (document "1735689600") ⟨.text "1735689600", "t"⟩ [] :=
    starts_of_written (by decide)
  have hfar : Starts (document "18446744073709551616") ⟨.text "18446744073709551616", "t"⟩ [] :=
    starts_of_written (by decide)
  have hnames : (Time.text "1735689600").seconds? = some (Binary64.ofInt 1735689600) := by
    decide +kernel
  have hcounts : Counts (.text "1735689600") 1735689600000000000 :=
    ⟨_, seconds?_eq_some_iff.1 hnames, by decide +kernel, by decide +kernel⟩
  refine ⟨⟨[], hnewYear⟩, (parse_time hnewYear "t.json").1 _ (by decide) hcounts, ⟨[], hfar⟩, ?_⟩
  refine (parse_time hfar "t.json").2.1 ?_
  rintro nanos ⟨x, hfound, -, hcount⟩ ⟨-, hlow⟩
  have hread : (Time.text "18446744073709551616").seconds? =
      some (Binary64.ofInt 18446744073709551616) := by decide +kernel
  have hproduct : ((Binary64.ofInt 18446744073709551616).scale 1000000000 1).truncate? =
      some 18446744073709551616000000000 := by decide +kernel
  obtain rfl := Option.some.inj (hread.symm.trans (seconds?_eq_some_iff.2 hfound))
  obtain rfl := Option.some.inj (hproduct.symm.trans hcount)
  exact absurd hlow (by decide)

end InstanceIdentity.CacheFile
