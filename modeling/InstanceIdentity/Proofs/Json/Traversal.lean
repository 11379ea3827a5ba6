import InstanceIdentity.Proofs.Json.Inversion

/-!
# What is passed over

A value that is passed over is a value of the grammar.  While this is going on, the containers around it
are kept on a list; what has been passed over by then is a value and the ends of those containers that
have been left.

Main results:

- Definitions `Json.Reader.Closes`, `Json.Reader.Goes`: what stands in front of a text when containers
  are still open.
- Theorem `Json.Reader.ensures_skipWithin`: what is passed over is a value, and the ends of all
  containers around it.
- Theorem `Json.Reader.ensures_skipValue`: a value by itself.
-/

namespace InstanceIdentity.Json.Reader

variable {before rest : List Char}

/-! ## Texts and keys -/

theorem ensures_skipEscape :
    Ensures skipEscape before fun _ rest =>
      ∀ after, Spans rest after → Spans ('\\' :: before) after := by
  unfold skipEscape
  refine .peek ?_
  split
  · exact .fail
  · rename_i hfirst
    obtain ⟨text, rfl⟩ := exists_cons_of_head? hfirst
    refine .skip (.bind_of ensures_codeUnit ?_)
    intro unit rest hcode
    exact .pure fun after => .code hcode
  · rename_i hletter hfirst
    obtain ⟨text, rfl⟩ := exists_cons_of_head? hfirst
    split
    · rename_i hstands
      obtain ⟨c, hstands⟩ := Option.isSome_iff_exists.1 hstands
      exact .skip_last fun after => .letter hstands
    · exact .failAhead

/-- The characters of a text that is passed over stand in front of what is left. -/
theorem ensures_skipTextFrom (fuel : Nat) :
    Ensures (skipTextFrom fuel) before fun _ rest => Spans before rest := by
  induction fuel generalizing before with
  | zero => exact .fail
  | succ fuel ih =>
    unfold skipTextFrom
    refine .peek ?_
    split
    · exact .fail
    · rename_i hfirst
      obtain ⟨rest, rfl⟩ := exists_cons_of_head? hfirst
      exact .skip_last (.quote rest)
    · rename_i hfirst
      obtain ⟨rest, rfl⟩ := exists_cons_of_head? hfirst
      refine .skip (.bind_of ensures_skipEscape ?_)
      intro _ after hescapes
      exact ih.mono fun _ => hescapes
    · rename_i c hquote hbackslash hfirst
      obtain ⟨rest, rfl⟩ := exists_cons_of_head? hfirst
      split
      · exact .fail
      · rename_i hprintable
        exact .skip (ih.mono fun _ after => .verbatim ⟨hquote, hbackslash, Nat.not_lt.1 hprintable⟩)

theorem ensures_skipText : Ensures skipText before fun _ rest => Spans before rest := by
  unfold skipText
  refine .bind ?_
  rintro place _ cursor ⟨⟩
  exact ensures_skipTextFrom _

theorem ensures_skipKey :
    Ensures skipKey before fun _ rest => ∀ solid, Blanks rest solid → Keyed Spans before solid := by
  unfold skipKey
  refine .blanks fun between hfront => ?_
  split
  · rename_i hfirst
    obtain ⟨opened, rfl⟩ := exists_cons_of_head? hfirst
    refine .skip (.bind_of ensures_skipText ?_)
    intro _ closed hspans
    exact ensures_colon.mono fun _ rest hback solid => .colon hfront hspans hback
  · exact .bind .failAhead
  · exact .bind .failAhead

/-! ## Values -/

/-- What stands between the brackets of a container. -/
def Frame.content : Frame → Bool → Part
  | .array => .items
  | .object => .members

theorem ensures_skipStart :
    Ensures skipStart before fun frame rest =>
      ∃ text, Blanks before text ∧
        match frame with
        | none => Stands .value text rest
        | some frame => ∀ after, Stands (frame.content true) rest after → Stands .value text after := by
  unfold skipStart
  refine .blanks fun between hblanks => ?_
  split
  · exact .failAhead
  · refine ensures_keyword ‹_› ?_
    rintro rest rfl
    exact ⟨_, hblanks, .null rest⟩
  · refine ensures_keyword ‹_› ?_
    rintro rest rfl
    exact ⟨_, hblanks, .yes rest⟩
  · refine ensures_keyword ‹_› ?_
    rintro rest rfl
    exact ⟨_, hblanks, .no rest⟩
  · rename_i hfirst
    obtain ⟨text, rfl⟩ := exists_cons_of_head? hfirst
    refine .skip (.bind (.bind_of (ensures_numeral true) ?_))
    rintro _ rest ⟨figures, hnumber, -, -⟩
    exact .pure (.pure ⟨_, hblanks, .negative hnumber⟩)
  · rename_i hfirst
    obtain ⟨text, rfl⟩ := exists_cons_of_head? hfirst
    refine .skip (.bind_of ensures_skipText ?_)
    intro _ rest hspans
    exact .pure ⟨_, hblanks, .text hspans⟩
  · rename_i hfirst
    obtain ⟨text, rfl⟩ := exists_cons_of_head? hfirst
    exact .skip (.pure ⟨_, hblanks, fun after => .array⟩)
  · rename_i hfirst
    obtain ⟨text, rfl⟩ := exists_cons_of_head? hfirst
    exact .skip (.pure ⟨_, hblanks, fun after => .object⟩)
  · split
    · refine .bind (.bind_of (ensures_numeral true) ?_)
      rintro _ rest ⟨figures, hnumber, -, -⟩
      exact .pure (.pure ⟨_, hblanks, .number hnumber⟩)
    · exact .failAhead

/-- The ends of containers, innermost first, behind a value or at the start of the innermost. -/
def Closes : Bool → List Frame → List Char → List Char → Prop
  | _, [], text, rest => text = rest
  | first, frame :: outer, text, rest =>
    ∃ between, Stands (frame.content first) text between ∧ Closes false outer between rest

/-- What stands in a container in front of a value, behind the comma. -/
def Frame.Leads : Frame → List Char → List Char → Prop
  | .array => Blanks
  | .object => Keyed Spans

/-- The next value of the innermost container and the ends of all of them. -/
def Goes : List Frame → List Char → List Char → Prop
  | [], text, rest => text = rest
  | frame :: outer, text, rest =>
    ∃ solid behind, frame.Leads text solid ∧ Stands .value solid behind ∧
      Closes false (frame :: outer) behind rest

theorem Frame.stands_end {frame : Frame} {first : Bool} {text : List Char}
    (hblanks : Blanks text (frame.closing :: rest)) : Stands (frame.content first) text rest := by
  cases frame with
  | array => exact .endItems hblanks
  | object => exact .endMembers hblanks

theorem Frame.stands_next {frame : Frame} {first : Bool} {text next solid behind : List Char}
    (hparted : Parted first text next) (hleads : frame.Leads next solid)
    (hvalue : Stands .value solid behind) (hothers : Stands (frame.content false) behind rest) :
    Stands (frame.content first) text rest := by
  cases frame with
  | array => exact .item hparted hleads hvalue hothers
  | object => exact .member hparted hleads hvalue hothers

theorem Frame.Leads.behind {frame : Frame} {text between solid : List Char}
    (hleads : frame.Leads between solid) (hblanks : Blanks text between) : frame.Leads text solid := by
  cases frame with
  | array => exact hblanks.trans hleads
  | object =>
    obtain ⟨hfront, hkey, hback, hbehind⟩ := hleads
    exact .colon (hblanks.trans hfront) hkey hback hbehind

/-- Where the ends of containers stop, the next value comes, or nothing is left of them. -/
theorem ensures_skipEnds (afterItem : Bool) (frames : List Frame) :
    Ensures (skipEnds afterItem frames) before fun inner rest =>
      ∀ after, Goes inner rest after → Closes (!afterItem) frames before after := by
  induction frames generalizing afterItem before with
  | nil => exact .pure fun after hsame => hsame
  | cons frame outer ih =>
    unfold skipEnds
    refine .blanks fun between hblanks => ?_
    split
    · exact .failAhead
    · rename_i c hfirst
      obtain ⟨text, rfl⟩ := exists_cons_of_head? hfirst
      split
      · rename_i hcomma
        obtain ⟨rfl, rfl⟩ := hcomma
        refine .skip (.pure ?_)
        rintro after ⟨solid, behind, hleads, hvalue, closed, hothers, hcloses⟩
        exact ⟨closed, Frame.stands_next (.comma hblanks) hleads hvalue hothers, hcloses⟩
      · split
        · rename_i hclosing
          subst hclosing
          refine .skip ((ih true).mono ?_)
          intro inner rest hcloses after hgoes
          exact ⟨text, Frame.stands_end hblanks, hcloses after hgoes⟩
        · split
          · exact .failAhead
          · rename_i hstart
            refine .pure ?_
            rintro after ⟨solid, behind, hleads, hvalue, closed, hothers, hcloses⟩
            rw [Bool.not_eq_true] at hstart
            subst hstart
            exact ⟨closed, Frame.stands_next (.first before) (hleads.behind hblanks) hvalue hothers,
              hcloses⟩

/-- What is passed over is a value, and the ends of all containers around it. -/
theorem ensures_skipWithin (fuel : Nat) (frames : List Frame) :
    Ensures (skipWithin fuel frames) before fun _ rest =>
      ∃ text behind, Blanks before text ∧ Stands .value text behind ∧
        Closes false frames behind rest := by
  induction fuel generalizing before frames with
  | zero => exact .fail
  | succ fuel ih =>
    have hfurther (inner : List Frame) {text : List Char} :
        Ensures (skipOn (skipWithin fuel inner) inner) text fun _ rest => Goes inner text rest := by
      cases inner with
      | nil => exact .pure rfl
      | cons frame outer =>
        cases frame with
        | array =>
          refine (ih _).mono ?_
          rintro _ rest ⟨solid, behind, hblanks, hvalue, hcloses⟩
          exact ⟨solid, behind, hblanks, hvalue, hcloses⟩
        | object =>
          refine .bind_of ensures_skipKey ?_
          intro _ between hkeyed
          refine (ih _).mono ?_
          rintro _ rest ⟨solid, behind, hblanks, hvalue, hcloses⟩
          exact ⟨solid, behind, hkeyed solid hblanks, hvalue, hcloses⟩
    unfold skipWithin
    refine .bind_of ensures_skipStart ?_
    rintro (_ | frame) between ⟨text, hblanks, hstart⟩
    · refine .bind_of (ensures_skipEnds true frames) ?_
      intro inner rest hcloses
      refine (hfurther inner).mono ?_
      exact fun _ after hgoes => ⟨text, between, hblanks, hstart, hcloses after hgoes⟩
    · refine .bind_of (ensures_skipEnds false (frame :: frames)) ?_
      intro inner rest hcloses
      refine (hfurther inner).mono ?_
      intro _ after hgoes
      obtain ⟨behind, hcontent, hcloses⟩ := hcloses after hgoes
      exact ⟨text, behind, hblanks, hstart behind hcontent, hcloses⟩

theorem ensures_skipValue :
    Ensures skipValue before fun _ rest => ∃ text, Blanks before text ∧ Stands .value text rest := by
  unfold skipValue
  refine .remaining ((ensures_skipWithin _ []).mono ?_)
  rintro _ rest ⟨text, behind, hblanks, hvalue, rfl⟩
  exact ⟨text, hblanks, hvalue⟩

end InstanceIdentity.Json.Reader
