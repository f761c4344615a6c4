import Mathlib.Data.List.TakeWhile
import PasswordPolicy.Specification.Clause

/-!
# The layout of a clause

`Clause.read?` walks through the text and takes as much as it can at every part. Here the same is
said without walking: `Layout clause front rest` tells how the clause lies in `front` and what has
to be true at its borders, so that no part could have been longer.

* **`Clause.read?_eq_some_iff`**: reading gives a clause and a rest exactly if the text is a front
  in the layout of the clause, and the rest.
* **`Clause.read?_eq_none_iff`**: there is no clause exactly if the text does not come to a word.
* **`Clause.read?_of_append`**: a clause is read in the same way when the text is cut behind it.
-/

namespace PasswordPolicy.Specification

/-! ### Characters

The classes of characters that can follow each other inside a clause exclude each other, which is
what fixes the borders between its parts. -/

/-- A character of a word is never white space, so a word ends at the first white space behind
it. -/
theorem isSpace_of_isWordChar {c : Char} (h : isWordChar c = true) : isSpace c = false := by
  by_contra hspace
  simp only [isSpace, Bool.not_eq_false, Bool.or_eq_true, beq_iff_eq] at hspace
  rcases hspace with ((((rfl | rfl) | rfl) | rfl) | rfl) | rfl <;> exact absurd h (by decide)

/-- White space is no part of a word: the other reading of `isSpace_of_isWordChar`. -/
theorem isWordChar_of_isSpace {c : Char} (h : isSpace c = true) : isWordChar c = false := by
  by_contra hword
  rw [isSpace_of_isWordChar (by simpa using hword)] at h
  cases h

/-- A digit may stand in a word. A number behind a word is told apart from it only by the sign of a
bound in between. -/
theorem isWordChar_of_isDigit {c : Char} (h : c.isDigit = true) : isWordChar c = true := by
  simp [isWordChar, Char.isAlphanum, h]

theorem isSpace_of_isDigit {c : Char} (h : c.isDigit = true) : isSpace c = false :=
  isSpace_of_isWordChar (isWordChar_of_isDigit h)

/-! ### Runs of characters

A run of a class ends where the text goes on without that class. `takeWhile` and `dropWhile` cut a
text at exactly this place. -/

/-- The text does not start with a character of the class. -/
def StartsWithout (p : Char → Bool) (text : List Char) : Prop := ∀ c ∈ text.head?, p c = false

section Runs
variable {p : Char → Bool}

@[simp] theorem startsWithout_nil : StartsWithout p [] := by simp [StartsWithout]

@[simp] theorem startsWithout_cons {c : Char} {text : List Char} :
    StartsWithout p (c :: text) ↔ p c = false := by simp [StartsWithout]

/-- What is left after a whole run of the class was dropped does not start with the class. -/
theorem startsWithout_dropWhile (text : List Char) : StartsWithout p (text.dropWhile p) := by
  intro c hc
  have h := List.head?_dropWhile_not p text
  rw [Option.mem_def.mp hc] at h
  exact h

/-- Cutting a text does not change its first character, unless nothing is left of it. -/
theorem StartsWithout.of_append {front back : List Char} (h : StartsWithout p (front ++ back)) :
    StartsWithout p front := by
  cases front with
  -- nothing is left, and the empty text starts with no character of the class
  | nil => exact startsWithout_nil
  | cons c front => simpa using h

/-- A text that does not start with the class still does not when another such text is put behind
it. The second one matters only if the first is empty. -/
theorem StartsWithout.append {front back : List Char} (h : StartsWithout p front)
    (h' : StartsWithout p back) : StartsWithout p (front ++ back) := by
  cases front with
  | nil => exact h'
  | cons c front => exact startsWithout_cons.mpr (startsWithout_cons.mp h)

/-- No run of the class can be taken from a text that starts without it, -/
theorem StartsWithout.takeWhile_eq_nil {rest : List Char} (h : StartsWithout p rest) :
    rest.takeWhile p = [] := by
  cases rest with
  | nil => rfl
  | cons c rest => rw [startsWithout_cons] at h; simp [h]

/-- and dropping a run leaves such a text as it is. -/
theorem StartsWithout.dropWhile_eq_self {rest : List Char} (h : StartsWithout p rest) :
    rest.dropWhile p = rest := by
  cases rest with
  | nil => rfl
  | cons c rest => rw [startsWithout_cons] at h; simp [h]

/-- A run that is followed by a text without the class in front is taken as a whole, and nothing
more is. -/
theorem StartsWithout.takeWhile_append {run rest : List Char} (h : StartsWithout p rest)
    (hrun : ∀ c ∈ run, p c = true) : (run ++ rest).takeWhile p = run := by
  rw [List.takeWhile_append_of_pos hrun, h.takeWhile_eq_nil, List.append_nil]

theorem StartsWithout.dropWhile_append {run rest : List Char} (h : StartsWithout p rest)
    (hrun : ∀ c ∈ run, p c = true) : (run ++ rest).dropWhile p = rest := by
  rw [List.dropWhile_append_of_pos hrun, h.dropWhile_eq_self]

/-- Digits are characters of words, so a text that cannot go on with a word cannot go on with a
number. -/
theorem StartsWithout.isDigit {rest : List Char} (h : StartsWithout isWordChar rest) :
    StartsWithout Char.isDigit rest := by
  intro c hc
  by_contra hdigit
  have hword := h c hc
  rw [isWordChar_of_isDigit (by simpa using hdigit)] at hword
  cases hword

end Runs

/-! ### White space -/

/-- White space, possibly none. -/
def Blank (w : List Char) : Prop := ∀ c ∈ w, isSpace c = true

@[simp] theorem blank_nil : Blank [] := by simp [Blank]

/-- White space behind white space is white space. -/
theorem Blank.append {v w : List Char} (hv : Blank v) (hw : Blank w) : Blank (v ++ w) := by
  intro c hc
  rcases List.mem_append.mp hc with h | h
  · exact hv c h
  · exact hw c h

/-- Skipping white space splits the text: in front of what is left stands white space only. -/
theorem exists_blank_append_skipSpace (text : List Char) :
    ∃ w, Blank w ∧ text = w ++ skipSpace text :=
  ⟨text.takeWhile isSpace, fun _ hc => List.mem_takeWhile_imp hc,
    (List.takeWhile_append_dropWhile).symm⟩

theorem startsWithout_skipSpace (text : List Char) : StartsWithout isSpace (skipSpace text) :=
  startsWithout_dropWhile text

theorem Blank.skipSpace_append {w : List Char} (hw : Blank w) (rest : List Char) :
    skipSpace (w ++ rest) = skipSpace rest :=
  List.dropWhile_append_of_pos hw

/-- White space in front is all that is skipped, if what follows starts without it. -/
theorem Blank.skipSpace_append_eq {w rest : List Char} (hw : Blank w)
    (hrest : StartsWithout isSpace rest) : skipSpace (w ++ rest) = rest :=
  hrest.dropWhile_append hw

@[simp] theorem skipSpace_skipSpace (text : List Char) :
    skipSpace (skipSpace text) = skipSpace text :=
  (startsWithout_skipSpace text).dropWhile_eq_self

/-! ### Bounds -/

def Comparison.sign : Comparison → List Char
  | atLeast => ['>', '=']
  | atMost => ['<', '=']

/-- A comparison is read exactly if the text starts with its sign, and what follows the sign is the
rest. -/
theorem readComparison_eq_some_iff {text rest : List Char} {comparison : Comparison} :
    readComparison text = some (comparison, rest) ↔ text = comparison.sign ++ rest := by
  constructor
  · intro h
    unfold readComparison at h
    split at h
    · cases h; rfl
    · cases h; rfl
    · cases h
  · -- what was written is read back
    rintro rfl
    cases comparison <;> rfl

def Digits (digits : List Char) : Prop := digits ≠ [] ∧ ∀ c ∈ digits, c.isDigit = true

/-- How a bound is written: the sign and the number, white space between them. -/
inductive Bound.Written : Bound → List Char → Prop
  | mk {comparison : Comparison} {gap digits : List Char} (hgap : Blank gap)
      (hdigits : Digits digits) :
      Written ⟨comparison, digits⟩ (comparison.sign ++ (gap ++ digits))

/-- Does the text go on with a bound? -/
def BoundAhead (text : List Char) : Prop :=
  ∃ (bound : Bound) (front rest : List Char), bound.Written front ∧ text = front ++ rest

/-- A bound in front of the text is still there when more is put behind the text. -/
theorem BoundAhead.append {text : List Char} (h : BoundAhead text) (more : List Char) :
    BoundAhead (text ++ more) := by
  obtain ⟨bound, front, rest, hfront, rfl⟩ := h
  exact ⟨bound, front, rest ++ more, hfront, List.append_assoc ..⟩

/-- A number does not start with white space, whatever stands behind it. -/
theorem Digits.startsWithout_isSpace {digits : List Char} (h : Digits digits)
    (rest : List Char) : StartsWithout isSpace (digits ++ rest) := by
  cases digits with
  | nil => exact absurd rfl h.1
  | cons c digits =>
    rw [List.cons_append, startsWithout_cons]
    exact isSpace_of_isDigit (h.2 c List.mem_cons_self)

/-- A bound that cannot go on is read, with the white space behind it. -/
theorem readBound_of_written {bound : Bound} {front after : List Char} (h : bound.Written front)
    (hafter : StartsWithout Char.isDigit after) :
    readBound (front ++ after) = some (bound, skipSpace after) := by
  cases h with
  | @mk comparison gap digits hgap hdigits =>
    -- the sign is taken first, then the gap, and then as many digits as there are
    have hsign : readComparison (comparison.sign ++ (gap ++ digits) ++ after)
        = some (comparison, gap ++ (digits ++ after)) :=
      readComparison_eq_some_iff.mpr (by simp only [List.append_assoc])
    have hnumber : skipSpace (gap ++ (digits ++ after)) = digits ++ after :=
      hgap.skipSpace_append_eq (hdigits.startsWithout_isSpace after)
    unfold readBound
    rw [hsign]
    simp only [hnumber, hafter.takeWhile_append hdigits.2, hafter.dropWhile_append hdigits.2]
    -- the run of digits is the whole number, so it is not empty
    split
    · exact absurd rfl hdigits.1
    · rfl

/-- What is read as a bound is written as one, and could not have been longer. The rest does not
start with white space, as that was taken together with the bound. -/
theorem exists_written_of_readBound {bound : Bound} {text rest : List Char}
    (h : readBound text = some (bound, rest)) :
    ∃ front gap, bound.Written front ∧ Blank gap ∧ text = front ++ (gap ++ rest) ∧
      StartsWithout Char.isDigit (gap ++ rest) ∧ StartsWithout isSpace rest := by
  unfold readBound at h
  split at h
  · cases h
  · next comparison afterSign hsign =>
    simp only at h
    obtain ⟨gap, hgap, hafterSign⟩ := exists_blank_append_skipSpace afterSign
    obtain ⟨gap', hgap', hnumber⟩ :=
      exists_blank_append_skipSpace ((skipSpace afterSign).dropWhile Char.isDigit)
    split at h
    · cases h
    · next hdigits =>
      cases h
      -- the front is the sign, the gap and the digits; the second gap is what was skipped behind
      -- them
      refine ⟨_, gap', .mk hgap ⟨hdigits, fun _ hc => List.mem_takeWhile_imp hc⟩, hgap', ?_, ?_,
        startsWithout_skipSpace _⟩
      · rw [← hnumber, List.append_assoc, List.append_assoc, List.takeWhile_append_dropWhile,
          ← hafterSign]
        exact readComparison_eq_some_iff.mp hsign
      · rw [← hnumber]
        exact startsWithout_dropWhile _

/-- No bound is read exactly if the text does not go on with one. Where there is a bound, possibly
with more digits behind it, the longest one is found. -/
theorem readBound_eq_none_iff {text : List Char} : readBound text = none ↔ ¬ BoundAhead text := by
  constructor
  · rintro h ⟨bound, front, rest, hfront, rfl⟩
    cases hfront with
    | @mk comparison gap digits hgap hdigits =>
      -- the digits may go on in `rest`: the bound that is read is the longest one
      have hlong : Bound.Written ⟨comparison, digits ++ rest.takeWhile Char.isDigit⟩
          (comparison.sign ++ (gap ++ (digits ++ rest.takeWhile Char.isDigit))) := by
        refine .mk hgap ⟨fun hnil => hdigits.1 (List.append_eq_nil_iff.mp hnil).1, fun c hc => ?_⟩
        rcases List.mem_append.mp hc with hc | hc
        · exact hdigits.2 c hc
        · exact List.mem_takeWhile_imp hc
      have hread := readBound_of_written hlong (startsWithout_dropWhile rest)
      rw [show comparison.sign ++ (gap ++ (digits ++ rest.takeWhile Char.isDigit))
            ++ rest.dropWhile Char.isDigit = comparison.sign ++ (gap ++ digits) ++ rest by
          simp only [List.append_assoc, List.takeWhile_append_dropWhile]] at hread
      exact absurd (h.symm.trans hread) (by nofun)
  · -- whatever was read would have been written in front of the text
    intro h
    cases hread : readBound text with
    | none => rfl
    | some result =>
      obtain ⟨front, gap, hfront, _, htext, _, _⟩ := exists_written_of_readBound hread
      exact absurd ⟨_, front, _, hfront, htext⟩ h

/-! ### Words and what stands before them -/

def Word (word : List Char) : Prop := word ≠ [] ∧ ∀ c ∈ word, isWordChar c = true

/-- What may stand before a word: white space, or a `!` with white space around it. -/
inductive Lead : Bool → List Char → Prop
  | plain {w : List Char} (hw : Blank w) : Lead false w
  | bang {w w' : List Char} (hw : Blank w) (hw' : Blank w') : Lead true (w ++ '!' :: w')

/-- Does the text come to a word? -/
def WordAhead (text : List Char) : Prop :=
  ∃ (bang : Bool) (lead : List Char) (c : Char) (rest : List Char),
    Lead bang lead ∧ isWordChar c = true ∧ text = lead ++ c :: rest

/-- What is taken before a word is a lead, and the answer tells whether there is a `!` in it. -/
theorem exists_lead_append_readBang (text : List Char) :
    ∃ lead, Lead (readBang text).1 lead ∧ text = lead ++ (readBang text).2 := by
  obtain ⟨w, hw, htext⟩ := exists_blank_append_skipSpace text
  unfold readBang
  split
  · next rest hbang =>
    obtain ⟨w', hw', hrest⟩ := exists_blank_append_skipSpace rest
    refine ⟨w ++ '!' :: w', .bang hw hw', ?_⟩
    rw [List.append_assoc, List.cons_append, ← hrest, ← hbang]
    exact htext
  · exact ⟨w, .plain hw, htext⟩

/-- A lead before a word is taken as a whole. The word stops the white space, and its first
character cannot be taken for a `!`. -/
theorem Lead.readBang_append {bang : Bool} {lead rest : List Char} {c : Char}
    (h : Lead bang lead) (hc : isWordChar c = true) :
    readBang (lead ++ c :: rest) = (bang, c :: rest) := by
  have hrest : StartsWithout isSpace (c :: rest) :=
    startsWithout_cons.mpr (isSpace_of_isWordChar hc)
  cases h with
  | plain hw =>
    unfold readBang
    rw [hw.skipSpace_append_eq hrest]
    -- the first character belongs to a word, so it is no `!`
    split
    · next heq => cases heq; exact absurd hc (by decide)
    · rfl
  | @bang w w' hw hw' =>
    -- the white space before the `!` is skipped, and so is that behind it
    have hskip : skipSpace (w ++ '!' :: w' ++ c :: rest) = '!' :: (w' ++ c :: rest) := by
      rw [List.append_assoc]
      exact hw.skipSpace_append_eq (startsWithout_cons.mpr (by decide))
    unfold readBang
    rw [hskip]
    simp only [hw'.skipSpace_append_eq hrest]

/-- Nothing of a word is left behind the lead exactly if the text does not come to a word. -/
theorem startsWithout_readBang_iff {text : List Char} :
    StartsWithout isWordChar (readBang text).2 ↔ ¬ WordAhead text := by
  constructor
  · rintro h ⟨bang, lead, c, rest, hlead, hc, rfl⟩
    rw [hlead.readBang_append hc, startsWithout_cons, hc] at h
    cases h
  · intro h
    -- a character of a word behind the lead would be a word ahead
    obtain ⟨lead, hlead, htext⟩ := exists_lead_append_readBang text
    cases hstart : (readBang text).2 with
    | nil => exact startsWithout_nil
    | cons c rest =>
      rw [startsWithout_cons]
      by_contra hc
      rw [hstart] at htext
      exact h ⟨_, lead, c, rest, hlead, by simpa using hc, htext⟩

/-! ### Clauses -/

/-- The layout of a clause in front of a rest. A clause without a bound is followed by no text that
could be one; what comes behind a clause does not start with white space, as that was taken too. -/
inductive Layout : Clause → List Char → List Char → Prop
  | bare {bang : Bool} {lead word gap rest : List Char} (hlead : Lead bang lead)
      (hword : Word word) (hgap : Blank gap)
      (hmunch : StartsWithout isWordChar (gap ++ rest)) (hbound : ¬ BoundAhead rest)
      (hrest : StartsWithout isSpace rest) :
      Layout ⟨bang, word, none⟩ (lead ++ (word ++ gap)) rest
  | bounded {bang : Bool} {lead word gap front gap' rest : List Char} {bound : Bound}
      (hlead : Lead bang lead) (hword : Word word) (hgap : Blank gap)
      (hbound : bound.Written front) (hgap' : Blank gap')
      (hmunch : StartsWithout Char.isDigit (gap' ++ rest))
      (hrest : StartsWithout isSpace rest) :
      Layout ⟨bang, word, some bound⟩ (lead ++ (word ++ (gap ++ (front ++ gap')))) rest

/-- A bound does not go on with a word, nor does white space before it. So the sign of the bound
ends both the word in front of it and the gap between them. -/
theorem Bound.Written.startsWithout {bound : Bound} {front : List Char} (h : bound.Written front)
    (more : List Char) : StartsWithout isWordChar (front ++ more) ∧
      StartsWithout isSpace (front ++ more) := by
  cases h with
  | @mk comparison gap digits hgap hdigits =>
    cases comparison with
    | atLeast => exact ⟨startsWithout_cons.mpr (by decide), startsWithout_cons.mpr (by decide)⟩
    | atMost => exact ⟨startsWithout_cons.mpr (by decide), startsWithout_cons.mpr (by decide)⟩

/-- White space ends a word, and where there is none the word is ended by what follows. -/
theorem Blank.startsWithout_append {w rest : List Char} (hw : Blank w)
    (hrest : StartsWithout isWordChar rest) : StartsWithout isWordChar (w ++ rest) := by
  cases w with
  | nil => exact hrest
  | cons c w =>
    rw [List.cons_append, startsWithout_cons]
    exact isWordChar_of_isSpace (hw c List.mem_cons_self)

/-- Behind a lead, the whole word is taken. What remains of reading the clause is to look for a
bound behind the white space that follows the word. -/
theorem Clause.read?_lead_append {bang : Bool} {lead word after : List Char}
    (hlead : Lead bang lead) (hword : Word word) (hafter : StartsWithout isWordChar after) :
    Clause.read? (lead ++ (word ++ after)) = match readBound (skipSpace after) with
      | some (bound, rest) => some (⟨bang, word, some bound⟩, rest)
      | none => some (⟨bang, word, none⟩, skipSpace after) := by
  obtain ⟨hne, hall⟩ := hword
  cases word with
  | nil => exact absurd rfl hne
  | cons c word =>
    unfold Clause.read?
    rw [List.cons_append, hlead.readBang_append (hall c List.mem_cons_self), ← List.cons_append]
    -- the word is the longest run of its characters, because what follows starts without them
    have htake := hafter.takeWhile_append hall
    have hdrop := hafter.dropWhile_append hall
    cases hread : readBound (skipSpace after) with
    | none => simp only [htake, hdrop, hread]
    | some result => simp only [htake, hdrop, hread]

/-- A clause in its layout is read, and reading stops where the rest begins. -/
theorem Layout.read?_append {clause : Clause} {front rest : List Char}
    (h : Layout clause front rest) : Clause.read? (front ++ rest) = some (clause, rest) := by
  cases h with
  | bare hlead hword hgap hmunch hbound hrest =>
    rw [List.append_assoc, List.append_assoc, Clause.read?_lead_append hlead hword hmunch,
      hgap.skipSpace_append_eq hrest, readBound_eq_none_iff.mpr hbound]
  | @bounded bang lead word gap front gap' rest bound hlead hword hgap hbound hgap' hmunch hrest =>
    -- the sign of the bound ends the word and the white space behind it
    have hstart := hbound.startsWithout (gap' ++ rest)
    simp only [List.append_assoc]
    rw [Clause.read?_lead_append hlead hword (hgap.startsWithout_append hstart.1),
      hgap.skipSpace_append_eq hstart.2, readBound_of_written hbound hmunch]
    simp only [hgap'.skipSpace_append_eq hrest]

/-- **What reading a clause means.** The text is a front in which the clause is laid out, and the
rest. -/
theorem Clause.read?_eq_some_iff {clause : Clause} {text rest : List Char} :
    Clause.read? text = some (clause, rest) ↔
      ∃ front, Layout clause front rest ∧ text = front ++ rest := by
  constructor
  · intro h
    -- the parts in the order in which they are taken: lead, word, gap, and a bound if there is one
    obtain ⟨lead, hlead, htext⟩ := exists_lead_append_readBang text
    obtain ⟨gap, hgap, hafter⟩ :=
      exists_blank_append_skipSpace ((readBang text).2.dropWhile isWordChar)
    have hmunch := startsWithout_dropWhile (p := isWordChar) (readBang text).2
    have hsplit := List.takeWhile_append_dropWhile (p := isWordChar) (l := (readBang text).2)
    unfold Clause.read? at h
    simp only at h
    split at h
    · cases h
    · next hne =>
      -- a bound or none: either way the parts that were taken make up the text again
      have hword : Word ((readBang text).2.takeWhile isWordChar) :=
        ⟨hne, fun _ hc => List.mem_takeWhile_imp hc⟩
      split at h
      · next bound after hbound =>
        cases h
        obtain ⟨front, gap', hfront, hgap', hrest, hdigit, hspace⟩ :=
          exists_written_of_readBound hbound
        refine ⟨_, .bounded hlead hword hgap hfront hgap' hdigit hspace, ?_⟩
        simp only [List.append_assoc]
        rw [← hrest, ← hafter, hsplit]
        exact htext
      · next hbound =>
        cases h
        refine ⟨_, .bare hlead hword hgap (hafter ▸ hmunch) (readBound_eq_none_iff.mp hbound)
          (startsWithout_skipSpace _), ?_⟩
        rw [List.append_assoc, List.append_assoc, ← hafter, hsplit]
        exact htext
  · rintro ⟨front, hfront, rfl⟩
    exact hfront.read?_append

/-- No clause is read exactly if the text does not come to a word. A word alone is a clause already,
whatever follows it. -/
theorem Clause.read?_eq_none_iff {text : List Char} :
    Clause.read? text = none ↔ ¬ WordAhead text := by
  rw [← startsWithout_readBang_iff]
  constructor
  · intro h
    unfold Clause.read? at h
    simp only at h
    split at h
    · next hnil =>
      -- an empty run of word characters: the text behind the lead starts without them
      cases hstart : (readBang text).2 with
      | nil => exact startsWithout_nil
      | cons c rest =>
        rw [hstart, List.takeWhile_cons] at hnil
        rw [startsWithout_cons]
        by_contra hc
        rw [if_pos (by simpa using hc)] at hnil
        cases hnil
    · split at h <;> cases h
  · intro h
    unfold Clause.read?
    simp only [h.takeWhile_eq_nil]

/-! ### Cutting the text -/

/-- The layout of a clause does not need what stands at the end of the rest: all of its borders are
about the first character behind the clause. -/
theorem Layout.of_append {clause : Clause} {front rest more : List Char}
    (h : Layout clause front (rest ++ more)) : Layout clause front rest := by
  cases h with
  | bare hlead hword hgap hmunch hbound hrest =>
    rw [← List.append_assoc] at hmunch
    exact .bare hlead hword hgap hmunch.of_append (fun h => hbound (h.append more))
      hrest.of_append
  | bounded hlead hword hgap hbound hgap' hmunch hrest =>
    rw [← List.append_assoc] at hmunch
    exact .bounded hlead hword hgap hbound hgap' hmunch.of_append hrest.of_append

/-- When the text is cut behind a clause, the clause is read in the same way. -/
theorem Clause.read?_of_append {clause : Clause} {text rest more : List Char}
    (h : Clause.read? (text ++ more) = some (clause, rest ++ more)) :
    Clause.read? text = some (clause, rest) := by
  obtain ⟨front, hfront, htext⟩ := Clause.read?_eq_some_iff.mp h
  rw [← List.append_assoc] at htext
  exact Clause.read?_eq_some_iff.mpr ⟨front, hfront.of_append, List.append_cancel_right htext⟩

/-- White space in front of a clause makes no difference to what is read. -/
theorem Clause.read?_skipSpace (text : List Char) :
    Clause.read? (skipSpace text) = Clause.read? text := by
  have h : readBang (skipSpace text) = readBang text := by
    unfold readBang
    rw [skipSpace_skipSpace]
  unfold Clause.read?
  rw [h]

theorem Clause.read?_nil : Clause.read? [] = none := rfl

end PasswordPolicy.Specification
