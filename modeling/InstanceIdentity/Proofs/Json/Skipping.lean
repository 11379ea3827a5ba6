import InstanceIdentity.Proofs.Json.Values

/-!
# Values are passed over

A value in whose place nothing is expected is passed over without being read.  The containers around it
are kept on a list, and each further value costs one step, of which there are as many as characters.
Every value of the grammar is passed over in this way, and so is every value that is written.

Main results:

- Theorem `Json.Reader.passes`: a part of a document is passed over, whatever containers are around it.
- Theorem `Json.Reader.reads_skipValue`: a value by itself is passed over.
- Theorem `Json.Reader.stands_render`: a value that is written is a value of the grammar.
-/

namespace InstanceIdentity.Json.Reader

variable {text rest after : List Char} {frames : List Frame}

/-! ## Texts -/

/-- The letter or the code behind a backslash is passed over. -/
theorem reads_skipEscape_letter {letter c : Char} (hstands : letterEscape? letter = some c)
    (rest : List Char) : Reads skipEscape (letter :: rest) () rest := by
  have hnotCode := ne_code_of_letterEscape hstands
  unfold skipEscape
  apply Reads.peek
  simp only [List.head?_cons, hstands, Option.isSome_some, ↓reduceIte]
  exact reads_skip _ rest

theorem reads_skipEscape_code {unit : Nat} (hcode : CodeUnit text unit rest) :
    Reads skipEscape ('u' :: text) () rest := by
  unfold skipEscape
  apply Reads.peek
  exact .skip (.bind (reads_codeUnit hcode) (.pure () rest))

theorem reads_skipTextFrom (h : Spans text rest) {fuel : Nat} (henough : text.length ≤ fuel) :
    Reads (skipTextFrom fuel) text () rest := by
  induction h generalizing fuel with
  | quote rest =>
    obtain ⟨fuel, rfl, -⟩ := exists_step henough
    exact .peek (reads_skip _ rest)
  | @verbatim c text rest hverbatim hothers ih =>
    obtain ⟨fuel, rfl, hsteps⟩ := exists_step henough
    unfold skipTextFrom
    apply Reads.peek
    split
    · rename_i habsent
      cases habsent
    · rename_i hfound
      exact absurd (Option.some.inj hfound) hverbatim.quote
    · rename_i hfound
      exact absurd (Option.some.inj hfound) hverbatim.backslash
    · rename_i hfound
      cases hfound
      rw [if_neg (Nat.not_lt.2 hverbatim.printable)]
      exact .skip (ih hsteps)
  | letter hstands hothers ih =>
    obtain ⟨fuel, rfl, hsteps⟩ := exists_step henough
    exact .peek (.skip (.bind (reads_skipEscape_letter hstands _) (ih (Nat.le_of_succ_le hsteps))))
  | code hcode hothers ih =>
    obtain ⟨fuel, rfl, hsteps⟩ := exists_step henough
    have := hcode.length_lt
    rw [List.length_cons] at hsteps
    exact .peek (.skip (.bind (reads_skipEscape_code hcode) (ih (by omega))))

/-- A text is passed over. -/
theorem reads_skipText (h : Spans text rest) : Reads skipText text () rest := by
  intro place
  obtain ⟨final, hread⟩ := reads_skipTextFrom h (Nat.le_succ text.length) place
  exact ⟨final, (bind_of_ok rfl).trans hread⟩

/-- A key and the colon behind it are passed over, but not the blanks that follow. -/
theorem reads_skipKey (h : Keyed Spans text rest) :
    ∃ behind, Reads skipKey text () behind ∧ Blanks behind rest := by
  obtain ⟨hfront, hkey, hback, hblanks⟩ := h
  exact ⟨_, .blanksTo hfront rfl (.skip (.bind (reads_skipText hkey) (reads_colon_behind hback))),
    hblanks⟩

/-! ## Values -/

/-- Behind a value, the containers around it are passed over, in as many steps as there are
characters. -/
def Continues (afterItem : Bool) (frames : List Frame) (text after : List Char) : Prop :=
  ∀ fuel, text.length ≤ fuel →
    Reads (skipEnds afterItem frames >>= fun frames => skipOn (skipWithin fuel frames) frames) text ()
      after

/-- A part of a document is passed over, in whatever containers it stands. -/
def Passes : Part → List Char → List Char → Prop
  | .value, text, rest => ∀ frames before after, Blanks before text → Ended rest →
      Continues true frames rest after →
      ∀ fuel, text.length ≤ fuel → Reads (skipWithin fuel frames) before () after
  | .items first, text, rest => ∀ frames after, Continues true frames rest after →
      Continues (!first) (.array :: frames) text after
  | .members first, text, rest => ∀ frames after, Continues true frames rest after →
      Continues (!first) (.object :: frames) text after

/-- A value without inner structure. -/
theorem passes_of_skipStart (hshorter : rest.length < text.length)
    (hread : ∀ before, Blanks before text → Ended rest → Reads skipStart before none rest) :
    Passes .value text rest := by
  intro frames before after hblanks hended hfurther fuel henough
  obtain ⟨fuel, rfl, hsteps⟩ := exists_step (hshorter.trans_le henough)
  unfold skipWithin
  exact .bind (hread before hblanks hended) (hfurther fuel hsteps)

/-- A container is passed over when its content is. -/
theorem passes_of_opening {opening : Char} {frame : Frame}
    (hstart : ∀ before, Blanks before (opening :: text) → Reads skipStart before (some frame) text)
    (hinside : ∀ frames after, Continues true frames rest after →
      Continues false (frame :: frames) text after) : Passes .value (opening :: text) rest := by
  intro frames before after hblanks hended hfurther fuel henough
  obtain ⟨fuel, rfl, hsteps⟩ := exists_step (show text.length < fuel from henough)
  unfold skipWithin
  exact .bind (hstart before hblanks) (hinside frames after hfurther fuel hsteps)

theorem reads_discard {α : Type} {reader : Reader α} {before : List Char} {value : α}
    (hread : Reads reader before value rest) : Reads (discard reader) before () rest :=
  .bind hread (.pure () rest)

/-- A number is passed over by its digits. -/
theorem reads_skipStart_number {figures : Figures} (hnumber : Number text figures rest)
    {before : List Char} (hblanks : Blanks before text) (hended : Ended rest) :
    Reads skipStart before none rest := by
  have hread := reads_numeral true hnumber (.inl rfl) hended
  obtain ⟨c, cs, rfl, hdigit⟩ := hnumber.start
  refine .blanksTo hblanks (solid_of_isDigit hdigit) ?_
  split
  case h_9 =>
    rename_i hfound
    cases hfound
    rw [if_pos hdigit]
    exact .bind (reads_discard hread) (.pure none rest)
  all_goals
    rename_i hfound
    cases hfound
    try cases hdigit

/-! ## Containers -/

/-- The end of a container. -/
theorem continues_closing (frame : Frame) {afterItem : Bool}
    (hblanks : Blanks text (frame.closing :: rest)) (hfurther : Continues true frames rest after) :
    Continues afterItem (frame :: frames) text after := by
  intro fuel henough
  have hlength := hblanks.length_le
  rw [List.length_cons] at hlength
  have hfurther := hfurther fuel (by omega)
  have hsolid : isBlank frame.closing = false := by cases frame <;> rfl
  have hclosing : frame.closing ≠ ',' := by cases frame <;> decide
  unfold skipEnds
  rw [bind_assoc]
  refine .blanksTo hblanks hsolid ?_
  simp only [hclosing, false_and, ↓reduceIte]
  rw [bind_assoc]
  exact .skip hfurther

/-- A comma between two values. -/
theorem continues_comma {frame : Frame} (hblanks : Blanks text (',' :: rest))
    (hfurther : ∀ fuel, rest.length ≤ fuel →
      Reads (skipOn (skipWithin fuel (frame :: frames)) (frame :: frames)) rest () after) :
    Continues true (frame :: frames) text after := by
  intro fuel henough
  have hlength := hblanks.length_le
  rw [List.length_cons] at hlength
  exact .bind (.blanksTo hblanks rfl (.skip (.pure _ rest))) (hfurther fuel (by omega))

/-- The first value of a container. -/
theorem continues_first {frame : Frame} {c : Char} {cs : List Char} (hblanks : Blanks text (c :: cs))
    (hsolid : isBlank c = false) (hinside : c ≠ frame.closing)
    (hfurther : ∀ fuel, (c :: cs).length ≤ fuel →
      Reads (skipOn (skipWithin fuel (frame :: frames)) (frame :: frames)) (c :: cs) () after) :
    Continues false (frame :: frames) text after := by
  intro fuel henough
  refine .bind (.blanksTo hblanks hsolid ?_) (hfurther fuel (hblanks.length_le.trans henough))
  simp only [Bool.false_eq_true, and_false, ↓reduceIte, if_neg hinside]
  exact .pure _ _

/-- A part of a document is passed over, whatever containers are around it. -/
theorem passes {part : Part} (h : Stands part text rest) : Passes part text rest := by
  induction h with
  | null rest =>
    refine passes_of_skipStart (Stands.null rest).length_lt fun before hblanks hended => ?_
    exact .blanksTo hblanks rfl (.skip (.bind (reads_word _ rest) (.pure none rest)))
  | yes rest =>
    refine passes_of_skipStart (Stands.yes rest).length_lt fun before hblanks hended => ?_
    exact .blanksTo hblanks rfl (.skip (.bind (reads_word _ rest) (.pure none rest)))
  | no rest =>
    refine passes_of_skipStart (Stands.no rest).length_lt fun before hblanks hended => ?_
    exact .blanksTo hblanks rfl (.skip (.bind (reads_word _ rest) (.pure none rest)))
  | number hnumber =>
    exact passes_of_skipStart hnumber.length_lt fun before => reads_skipStart_number hnumber
  | negative hnumber =>
    refine passes_of_skipStart (Stands.negative hnumber).length_lt fun before hblanks hended => ?_
    have hread := reads_numeral true hnumber (.inl rfl) hended
    exact .blanksTo hblanks rfl (.skip (.bind (reads_discard hread) (.pure none _)))
  | text hspans =>
    refine passes_of_skipStart (Stands.text hspans).length_lt fun before hblanks hended => ?_
    exact .blanksTo hblanks rfl (.skip (.bind (reads_skipText hspans) (.pure none _)))
  | array hitems ih =>
    exact passes_of_opening (fun before hblanks => .blanksTo hblanks rfl (.skip (.pure _ _))) ih
  | object hmembers ih =>
    exact passes_of_opening (fun before hblanks => .blanksTo hblanks rfl (.skip (.pure _ _))) ih
  | endItems hblanks => exact fun frames after hfurther => continues_closing .array hblanks hfurther
  | endMembers hblanks => exact fun frames after hfurther => continues_closing .object hblanks hfurther
  | item hparted hblanks hvalue hothers hfirst hrest =>
    intro frames after hfurther
    have hended := hothers.ended_items
    have hbehind := hrest frames after hfurther
    cases hparted with
    | first =>
      obtain ⟨c, cs, rfl, hsolid, hinside⟩ := hvalue.start
      exact continues_first hblanks hsolid hinside (hfirst (.array :: frames) _ after
        (.done _) hended hbehind)
    | comma hfront =>
      refine continues_comma hfront fun fuel henough => ?_
      exact hfirst (.array :: frames) _ after hblanks hended hbehind fuel
        (hblanks.length_le.trans henough)
  | @member _ _ _ solid _ _ hparted hkey hvalue hothers hfirst hrest =>
    intro frames after hfurther
    have hended := hothers.ended_members
    have hbehind := hrest frames after hfurther
    -- behind the key and its colon the value is passed over, which may have blanks in front
    have hpassed {text : List Char} (hkey : Keyed Spans text solid) (fuel : Nat)
        (henough : text.length ≤ fuel) :
        Reads (skipOn (skipWithin fuel (.object :: frames)) (.object :: frames)) text () after := by
      obtain ⟨_, hread, hblanks⟩ := reads_skipKey hkey
      have hshorter := hkey.length_lt Spans.length_lt
      exact .bind hread (hfirst (.object :: frames) _ after hblanks hended hbehind fuel (by omega))
    cases hparted with
    | first =>
      obtain ⟨hfront, hname, hback, hblanks⟩ := hkey
      exact continues_first hfront rfl (by decide) (hpassed (.colon (.done _) hname hback hblanks))
    | comma hfront => exact continues_comma hfront (hpassed hkey)

/-- A value is passed over, with the blanks in front of it. -/
theorem reads_skipValue_behind {before : List Char} (hblanks : Blanks before text)
    (hvalue : Stands .value text rest) (hended : Ended rest) : Reads skipValue before () rest := by
  refine .bind (reads_remaining _) ?_
  refine passes hvalue [] before rest hblanks hended (fun fuel _ =>
    .bind (.pure [] rest) (.pure () rest)) _ ?_
  exact hblanks.length_le.trans (Nat.le_succ _)

/-! ## Values that are written -/

/-- Items with commas in between, and the end of the array. -/
theorem stands_items {items : List (List Char)} (first : Bool) (rest : List Char)
    (heach : ∀ item ∈ items, ∀ rest, Stands .value (item ++ rest) rest) :
    Stands (.items first) (separate first items ++ ']' :: rest) rest := by
  induction items generalizing first with
  | nil => exact .endItems (.done _)
  | cons item items ih =>
    rw [separate_cons_append]
    exact .item (parted_separated first _) (.done _) (heach item List.mem_cons_self _)
      (ih false fun other hmem => heach other (List.mem_cons_of_mem _ hmem))

/-- Members with commas in between, and the end of the object. -/
theorem stands_members {members : List (String × Json)} (first : Bool) (rest : List Char)
    (heach : ∀ member ∈ members, ∀ rest, Stands .value (member.2.render.toList ++ rest) rest) :
    Stands (.members first) (separate first (members.map memberText) ++ '\x7d' :: rest) rest := by
  induction members generalizing first with
  | nil => exact .endMembers (.done _)
  | cons member members ih =>
    rw [List.map_cons, separate_cons_append, memberText, quoted_append]
    exact .member (parted_separated first _)
      (.colon (.done _) (spells_written member.1.toList _).spans (.done _) (.done _))
      (heach member List.mem_cons_self _)
      (ih false fun other hmem => heach other (List.mem_cons_of_mem _ hmem))

/-- A value that is written is a value of the grammar. -/
theorem stands_render {depth : Nat} {json : Json} (hfits : Fits depth json) (rest : List Char) :
    Stands .value (json.render.toList ++ rest) rest := by
  induction hfits generalizing rest with
  | null depth => exact .null rest
  | boolean depth value =>
    cases value with
    | true => exact .yes rest
    | false => exact .no rest
  | integer depth hlow hhigh => exact (scalar_integer hlow hhigh rest).stands
  | float depth hfinite => exact (scalar_float hfinite rest).stands
  | text depth s =>
    rw [toList_render_text]
    exact .text (spells_written s.toList rest).spans
  | @array depth items heach ih =>
    rw [toList_render_array]
    refine .array (stands_items true rest fun text hmem => ?_)
    obtain ⟨item, hpresent, rfl⟩ := List.mem_map.1 hmem
    exact ih item hpresent
  | @object depth members heach ih =>
    rw [toList_render_object]
    exact .object (stands_members true rest ih)

/-- A value that is written is passed over. -/
theorem reads_skipValue {depth : Nat} {json : Json} (hfits : Fits depth json) (hended : Ended rest) :
    Reads skipValue (json.render.toList ++ rest) () rest :=
  reads_skipValue_behind (.done _) (stands_render hfits rest) hended

end InstanceIdentity.Json.Reader
