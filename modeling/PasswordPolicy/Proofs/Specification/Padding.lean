import PasswordPolicy.Proofs.Specification.Join
import PasswordPolicy.Proofs.Specification.Malformed

/-!
# Blank text around a specification

A text that is blank as a whole is a specification, and there blank means all Unicode spaces. The
reader of clauses skips ASCII white space only. So padding changes nothing as long as it is ASCII
white space, or as long as there is no clause to be padded. Any other blank beside a clause is
taken for text that should have been a clause.

* **`ClauseList.blank_append`**, **`ClauseList.append_blank`**: white space around clauses.
* **`refuses_of_foreign`**: where the reader comes to a blank that it does not skip.
* **`ofSpecification_padded`**: what is read from a padded specification.
-/

namespace PasswordPolicy.Specification

/-! ### Padding that is skipped -/

/-- White space may stand before clauses: it belongs to the first of them, or to the end of the text
if there is none. -/
theorem ClauseList.blank_append {entries : List Entry} {text w : List Char}
    (h : ClauseList entries text) (hw : Blank w) : ClauseList entries (w ++ text) := by
  obtain ⟨⟨tail, hseq, htail⟩, hshort⟩ := h
  refine ⟨?_, hshort⟩
  cases entries with
  | nil =>
    cases hseq
    exact ⟨_, .nil, hw.append htail⟩
  | cons e entries => exact ⟨tail, hseq.blank_append hw, htail⟩

/-- White space may stand behind clauses. -/
theorem ClauseList.append_blank {entries : List Entry} {text w : List Char}
    (h : ClauseList entries text) (hw : Blank w) : ClauseList entries (text ++ w) := by
  obtain ⟨⟨tail, hseq, htail⟩, hshort⟩ := h
  have hmore : StartsWithout isWordChar w := by
    simpa only [List.append_nil] using hw.startsWithout_append startsWithout_nil
  exact ⟨⟨tail ++ w, hseq.append hmore, htail.append hw⟩, hshort⟩

/-! ### Padding that is not skipped -/

/-- No blank of any kind may stand in a word. -/
theorem isWordChar_of_isBlank {c : Char} (h : Unicode.isBlank c = true) : isWordChar c = false := by
  rw [Bool.eq_false_iff]
  intro hword
  rw [isBlank_of_isWordChar hword] at h
  cases h

/-- The text comes to a blank that is no white space to the reader of clauses. -/
def ForeignAhead (text : List Char) : Prop :=
  ∃ c rest, skipSpace text = c :: rest ∧ Unicode.isBlank c = true

theorem foreignAhead_skipSpace {text : List Char} (h : ForeignAhead text) :
    ForeignAhead (skipSpace text) := by
  obtain ⟨c, rest, hskip, hblank⟩ := h
  exact ⟨c, rest, (skipSpace_skipSpace text).trans hskip, hblank⟩

/-- A blank text that is not white space holds a blank that the reader does not skip, and comes to
the first of them. -/
theorem foreignAhead_of_allBlank {w : List Char} (hw : Unicode.allBlank w = true)
    (hforeign : ¬ Blank w) : ForeignAhead w := by
  cases hskip : skipSpace w with
  | nil => exact absurd (List.dropWhile_eq_nil_iff.mp hskip) hforeign
  | cons c rest =>
    have hc : c ∈ w := (skipSpace_suffix w).subset (hskip ▸ List.mem_cons_self)
    exact ⟨c, rest, hskip, List.all_eq_true.mp hw c hc⟩

/-- What follows does not hide a blank that the text comes to. -/
theorem ForeignAhead.append {w : List Char} (h : ForeignAhead w) (text : List Char) :
    ForeignAhead (w ++ text) := by
  obtain ⟨c, rest, hskip, hblank⟩ := h
  refine ⟨c, rest ++ text, ?_, hblank⟩
  unfold skipSpace at hskip ⊢
  rw [List.dropWhile_append, hskip]
  rfl

/-- Behind the white space stands a blank, so no word can come: the blank is neither a `!` nor in a
word. -/
theorem ForeignAhead.not_wordAhead {text : List Char} (h : ForeignAhead text) :
    ¬ WordAhead text := by
  obtain ⟨c, rest, hskip, hblank⟩ := h
  rw [← startsWithout_readBang_iff, readBang, hskip]
  split
  · next heq =>
    cases heq
    exact absurd hblank (by decide)
  · exact startsWithout_cons.mpr (isWordChar_of_isBlank hblank)

/-- Nor can a bound. -/
theorem ForeignAhead.not_boundAhead {text : List Char} (h : ForeignAhead text) :
    ¬ BoundAhead (skipSpace text) := by
  obtain ⟨c, rest, hskip, hblank⟩ := h
  rw [hskip]
  -- a bound starts with one of two signs, and neither is a blank
  rintro ⟨_, _, _, @⟨comparison, _, _, _, _⟩, heq⟩
  cases comparison with
  | atLeast =>
    rw [(List.cons.inj heq).1] at hblank
    exact absurd hblank (by decide)
  | atMost =>
    rw [(List.cons.inj heq).1] at hblank
    exact absurd hblank (by decide)

/-- **Where the reader comes to a blank that it does not skip,** it finds no clause. Such a blank is
no part of a word and begins no clause. -/
theorem refuses_of_foreign {text : List Char} (h : ForeignAhead text) :
    Refuses text (.malformed .noClause text) := by
  refine .noClause (Clause.read?_eq_none_iff.mpr h.not_wordAhead) ?_
  rintro rfl
  obtain ⟨_, _, hskip, _⟩ := h
  cases hskip

/-! ### Padded specifications -/

/-- A text that is blank as a whole is a specification that stores nothing. -/
theorem ofSpecification_of_allBlank {s : String} (h : Unicode.allBlank s.toList = true) :
    Policy.ofSpecification s = .ok .empty := by
  rw [ofSpecification_eq_ok_iff, read, if_pos h]

theorem allBlank_append (v w : List Char) :
    Unicode.allBlank (v ++ w) = (Unicode.allBlank v && Unicode.allBlank w) := List.all_append

/-- A text with a clause is refused at its start if it is padded there. -/
theorem ofSpecification_foreign_append {s w : String} (hs : Unicode.allBlank s.toList = false)
    (hw : ForeignAhead w.toList) :
    Policy.ofSpecification (w ++ s) = .error (.malformed .noClause [] (w ++ s).toList) := by
  rw [ofSpecification_eq_malformed_iff, read_eq_malformed_iff, String.toList_append,
    allBlank_append, hs, Bool.and_false]
  refine ⟨⟨rfl, [], .stop, refuses_of_foreign (hw.append s.toList)⟩, ?_⟩
  rw [consumed, Nat.sub_self, List.take_zero]

/-- A text with a clause is refused behind its white space if it is padded there. The reason is that
no clause begins there, and the place is where the blank stands. -/
theorem ofSpecification_append_foreign {s w : String} {p : Policy}
    (h : Policy.ofSpecification s = .ok p) (hs : Unicode.allBlank s.toList = false)
    (hw : Unicode.allBlank w.toList = true) (hforeign : ForeignAhead w.toList) :
    Policy.ofSpecification (s ++ w) = .error (.malformed .noClause
      (s.toList ++ w.toList.takeWhile isSpace) (skipSpace w.toList)) := by
  have hclause := hasClause_of_ofSpecification h hs
  obtain ⟨entries, ⟨tail, hseq, htail⟩, hshort⟩ := exists_clauseList h (.inl hclause)
  -- a clause there is: white space alone would make a blank text
  have hne : entries ≠ [] := by
    rintro rfl
    cases hseq
    rw [htail.allBlank] at hs
    cases hs
  have hmore : StartsWithout isWordChar w.toList := fun c hc =>
    isWordChar_of_isBlank (List.all_eq_true.mp hw c (List.mem_of_mem_head? hc))
  -- the last clause takes the white space behind it, and the rest is where the reader stops
  have hskip : skipSpace (tail ++ w.toList) = skipSpace w.toList := htail.skipSpace_append _
  have hrun := (hseq.append hmore).run hne hshort (hskip ▸ hforeign.not_boundAhead)
  rw [hskip] at hrun
  rw [ofSpecification_eq_malformed_iff, read_eq_malformed_iff, String.toList_append,
    allBlank_append, hs, Bool.false_and]
  refine ⟨⟨rfl, entries, hrun, refuses_of_foreign (foreignAhead_skipSpace hforeign)⟩, ?_⟩
  -- the accepted part ends with the white space that the last clause took
  have hsuffix : skipSpace w.toList <:+ s.toList ++ w.toList :=
    (skipSpace_suffix w.toList).trans (List.suffix_append s.toList w.toList)
  refine List.append_cancel_right (Eq.trans ?_ (consumed_append hsuffix).symm)
  rw [List.append_assoc]
  exact congrArg (s.toList ++ ·) List.takeWhile_append_dropWhile

/-- **Blank text before or behind a specification.** Where it is ASCII white space, or where there
is no clause to be padded, it changes nothing. Any other blank beside a clause makes the text
malformed: before the first clause at the start of the text, behind the last one at the first blank
that is no ASCII white space. -/
theorem ofSpecification_padded {s w : String} {p : Policy} (h : Policy.ofSpecification s = .ok p)
    (hw : Unicode.allBlank w.toList = true) :
    (Blank w.toList ∨ Unicode.allBlank s.toList = true →
        Policy.ofSpecification (w ++ s) = .ok p ∧ Policy.ofSpecification (s ++ w) = .ok p) ∧
      (¬ Blank w.toList → Unicode.allBlank s.toList = false →
        Policy.ofSpecification (w ++ s) = .error (.malformed .noClause [] (w ++ s).toList) ∧
          Policy.ofSpecification (s ++ w) = .error (.malformed .noClause
            (s.toList ++ w.toList.takeWhile isSpace) (skipSpace w.toList))) := by
  refine ⟨fun hskipped => ?_, fun hforeign hs => ?_⟩
  · by_cases hs : Unicode.allBlank s.toList = true
    · -- a blank text stays blank, whatever the blanks are
      obtain rfl : Policy.empty = p :=
        Except.ok.inj ((ofSpecification_of_allBlank hs).symm.trans h)
      constructor
      · refine ofSpecification_of_allBlank ?_
        rw [String.toList_append, allBlank_append, hw, hs, Bool.and_true]
      · refine ofSpecification_of_allBlank ?_
        rw [String.toList_append, allBlank_append, hs, hw, Bool.and_true]
    · -- a text with clauses, and padding that the reader skips
      have hspace := hskipped.resolve_right hs
      have hclause := hasClause_of_ofSpecification h (by simpa using hs)
      obtain ⟨entries, hentries⟩ := exists_clauseList h (.inl hclause)
      obtain rfl := Except.ok.inj (h.symm.trans hentries.ofSpecification_eq)
      constructor
      · refine ClauseList.ofSpecification_eq ?_
        rw [String.toList_append]
        exact hentries.blank_append hspace
      · refine ClauseList.ofSpecification_eq ?_
        rw [String.toList_append]
        exact hentries.append_blank hspace
  · have hahead := foreignAhead_of_allBlank hw hforeign
    exact ⟨ofSpecification_foreign_append hs hahead,
      ofSpecification_append_foreign h hs hw hahead⟩

/-- A tab is skipped on both sides of a clause, a line separator behind it on neither. -/
theorem ofSpecification_padded_of_line_separator :
    ∃ p, Policy.ofSpecification "!User" = .ok p ∧ Unicode.allBlank "\t".toList = true ∧
      Unicode.allBlank "\t\u2028".toList = true ∧ Blank "\t".toList ∧
      ¬ Blank "\t\u2028".toList ∧ Unicode.allBlank "!User".toList = false ∧
      Policy.ofSpecification ("\t" ++ "!User") = .ok p ∧
      Policy.ofSpecification ("!User" ++ "\t\u2028") =
        .error (.malformed .noClause "!User\t".toList "\u2028".toList) := by
  have hsome : (Policy.ofSpecification "!User").map Policy.text = .ok "!user" := by decide +kernel
  obtain ⟨p, h, -⟩ := exists_ok_of_map hsome
  have htab : Unicode.allBlank "\t".toList = true := by decide
  have hseparator : Unicode.allBlank "\t\u2028".toList = true := by decide
  have hspace : Blank "\t".toList := List.forall_mem_singleton.mpr (by decide)
  have hforeign : ¬ Blank "\t\u2028".toList := fun hall =>
    absurd (hall '\u2028' (by decide)) (by decide)
  have hclause : Unicode.allBlank "!User".toList = false := by decide
  exact ⟨_, h, htab, hseparator, hspace, hforeign, hclause,
    ((ofSpecification_padded h htab).1 (.inl hspace)).1,
    ((ofSpecification_padded h hseparator).2 hforeign hclause).2⟩

/-- A no-break space is blank, and as a text of its own it is a specification, but neither before
nor behind a clause is it accepted. -/
theorem no_break_space_refused :
    ∃ p, Policy.ofSpecification "age<=3" = .ok p ∧ Unicode.allBlank "\u00a0".toList = true ∧
      Policy.ofSpecification "\u00a0" = .ok .empty ∧
      Policy.ofSpecification ("\u00a0" ++ "age<=3") ≠ .ok p ∧
      Policy.ofSpecification ("age<=3" ++ "\u00a0") ≠ .ok p := by
  have hsome : (Policy.ofSpecification "age<=3").map Policy.text = .ok "age<=3" := by decide +kernel
  obtain ⟨p, h, -⟩ := exists_ok_of_map hsome
  -- the no-break space is where the error is found in both texts
  have hbefore : (Policy.ofSpecification ("\u00a0" ++ "age<=3")).map Policy.text =
      .error (.malformed .noClause [] "\u00a0age<=3".toList) := by decide +kernel
  have hbehind : (Policy.ofSpecification ("age<=3" ++ "\u00a0")).map Policy.text =
      .error (.malformed .noClause "age<=3".toList ['\u00a0']) := by decide +kernel
  refine ⟨_, h, by decide, ofSpecification_of_allBlank (by decide), ?_, ?_⟩
  · rw [eq_error_of_map hbefore]
    exact fun hok => by cases hok
  · rw [eq_error_of_map hbehind]
    exact fun hok => by cases hok

end PasswordPolicy.Specification
