import Mathlib.Data.List.Infix
import Mathlib.Data.List.ProdSigma
import PasswordPolicy.Proofs.Unicode.LowerCase

/-!
# Lower case within a longer text

Every character is lowered on its own but capital sigma, whose form depends on what stands around
it. So the lower-case form of a text can differ from the one that the text has as a part of a longer
text, though only in its sigmas: in the first one, when it comes to stand behind a letter, and in
the last one, when it comes to stand before a letter. A sigma whose form is not settled by the text
itself is *open*.

* **`lowerCase_append_append`**: the lower-case form of a part, in its place.
* **`lowerBetween_congr`**: it depends on the place only through the forms of the sigmas.
* **`forall_infix_lowerCase_iff`**: the texts whose lower-case form is found wherever they occur are
  those without an open sigma.
-/

namespace PasswordPolicy.Unicode

/-! ### Parts of a text -/

/-- The lower-case form of the part of a text between `before` (nearest character first) and
`after`. -/
def lowerBetween (before : List Char) : List Char → (after : List Char) → List Char
  | [], _ => []
  | c :: rest, after => lowerAt before c (rest ++ after) ++ lowerBetween (c :: before) rest after

/-- A part with nothing behind it is lowered as the rest of a text. -/
theorem lowerBetween_nil (before text : List Char) :
    lowerBetween before text [] = lowerCaseAfter before text := by
  induction text generalizing before with
  | nil => rfl
  | cons c text ih => rw [lowerBetween, lowerCaseAfter, ih, List.append_nil]

/-- A whole text is the part of itself with nothing around it. -/
theorem lowerCase_eq_lowerBetween (text : List Char) : lowerCase text = lowerBetween [] text [] :=
  (lowerBetween_nil [] text).symm

/-- Two parts in a row are lowered one after the other, each of them in its own place: the first
before the second, the second behind the first. -/
theorem lowerBetween_append (before front back after : List Char) :
    lowerBetween before (front ++ back) after = lowerBetween before front (back ++ after) ++
      lowerBetween (front.reverse ++ before) back after := by
  induction front generalizing before with
  | nil => rfl
  | cons c front ih =>
    rw [List.cons_append, lowerBetween, lowerBetween, ih, List.reverse_cons, List.append_assoc,
      List.append_assoc, List.append_assoc]
    rfl

/-- The lower-case form of a text in three parts consists of the forms of the parts, each of them in
its place. -/
theorem lowerCase_append_append (front text back : List Char) :
    lowerCase (front ++ text ++ back) = lowerBetween [] front (text ++ back) ++
      lowerBetween front.reverse text back ++
        lowerBetween (text.reverse ++ front.reverse) back [] := by
  rw [lowerCase_eq_lowerBetween, List.append_assoc, lowerBetween_append, lowerBetween_append,
    List.append_nil, List.append_nil, List.append_nil, List.append_assoc]

/-- No character is lost in the lower-case form, -/
theorem lowerAt_ne_nil (before : List Char) (c : Char) (after : List Char) :
    lowerAt before c after ≠ [] := by
  unfold lowerAt
  split
  · exact List.cons_ne_nil _ _
  · split
    · exact List.cons_ne_nil _ _
    · exact List.cons_ne_nil _ _

/-- so only the empty text has an empty form. -/
theorem lowerCase_ne_nil {text : List Char} (h : text ≠ []) : lowerCase text ≠ [] := by
  cases text with
  | nil => exact absurd rfl h
  | cons c text => exact List.append_ne_nil_of_left_ne_nil (lowerAt_ne_nil [] c text) _

/-! ### Sigmas in a part

Only a sigma looks around. Two places give a part the same lower-case form if they make the same
sigmas final. -/

/-- Small sigma, as it is written at the end of a word or elsewhere. -/
def sigmaForm (final : Bool) : Char := if final then '\u03c2' else '\u03c3'

/-- A capital sigma is lowered to one of two forms, according to whether it ends a word. -/
theorem lowerAt_sigma (before after : List Char) :
    lowerAt before '\u03a3' after = [sigmaForm (endsWord before after)] :=
  if_pos rfl

/-- No other character looks around. -/
theorem lowerAt_of_ne {c : Char} (h : c ≠ '\u03a3') (before after before' after' : List Char) :
    lowerAt before c after = lowerAt before' c after' := by
  unfold lowerAt
  rw [if_neg h, if_neg h]

/-- **Places that make the same sigmas final** give a text the same lower-case form. -/
theorem lowerBetween_congr {text before after before' after' : List Char}
    (h : ∀ s t, text = s ++ '\u03a3' :: t →
      endsWord (s.reverse ++ before) (t ++ after) = endsWord (s.reverse ++ before') (t ++ after')) :
    lowerBetween before text after = lowerBetween before' text after' := by
  induction text generalizing before before' with
  | nil => rfl
  | cons c text ih =>
    -- the first character depends on the place only if it is a sigma
    have hfirst : lowerAt before c (text ++ after) = lowerAt before' c (text ++ after') := by
      by_cases hc : c = '\u03a3'
      · subst hc
        have hends := h [] text rfl
        rw [List.reverse_nil, List.nil_append, List.nil_append] at hends
        rw [lowerAt_sigma, lowerAt_sigma, hends]
      · exact lowerAt_of_ne hc _ _ _ _
    have hrest :
        lowerBetween (c :: before) text after = lowerBetween (c :: before') text after' := by
      refine ih fun s t htext => ?_
      -- a split of the rest is one of the text, with one more character in front
      have hends := h (c :: s) t (by rw [htext, List.cons_append])
      simpa using hends
    rw [lowerBetween, lowerBetween, hfirst, hrest]

/-- A part that is cut at a sigma: the form of the sigma stands between those of the two pieces. -/
theorem lowerBetween_sigma (before s t after : List Char) :
    lowerBetween before (s ++ '\u03a3' :: t) after =
      lowerBetween before s ('\u03a3' :: (t ++ after)) ++
        sigmaForm (endsWord (s.reverse ++ before) (t ++ after)) ::
          lowerBetween ('\u03a3' :: (s.reverse ++ before)) t after := by
  rw [lowerBetween_append, lowerBetween, lowerAt_sigma]
  rfl

/-- What stands before and after each capital sigma of the text. -/
def sigmaPlaces (text : List Char) : List (List Char × List Char) :=
  (text.inits ×ˢ text.tails).filter fun place => text = place.1 ++ '\u03a3' :: place.2

/-- The places of sigmas are the splits of the text around one. -/
theorem mem_sigmaPlaces {text s t : List Char} :
    (s, t) ∈ sigmaPlaces text ↔ text = s ++ '\u03a3' :: t := by
  rw [sigmaPlaces, List.mem_filter, decide_eq_true_iff, List.mem_product]
  refine and_iff_right_of_imp ?_
  rintro rfl
  -- both parts are found among the ends of the text
  refine ⟨(List.mem_inits _ _).mpr (List.prefix_append _ _), (List.mem_tails _ _).mpr ?_⟩
  exact (List.suffix_cons _ _).trans (List.suffix_append _ _)

/-- Every sigma of the text is final between `front` and `back` exactly if it is final in the text
alone. -/
def KeepsSigmas (front text back : List Char) : Prop :=
  ∀ s t, text = s ++ '\u03a3' :: t →
    endsWord (s.reverse ++ front.reverse) (t ++ back) = endsWord s.reverse t

instance (front text back : List Char) : Decidable (KeepsSigmas front text back) :=
  decidable_of_iff (∀ place ∈ sigmaPlaces text, endsWord (place.1.reverse ++ front.reverse)
      (place.2 ++ back) = endsWord place.1.reverse place.2) <| by
    simp only [Prod.forall, mem_sigmaPlaces]
    rfl

/-- If no sigma changes its form, the lower-case form of the text is found in that of the longer
text. -/
theorem KeepsSigmas.infix_lowerCase {front text back : List Char}
    (h : KeepsSigmas front text back) :
    lowerCase text <:+: lowerCase (front ++ text ++ back) := by
  have hplace : lowerBetween front.reverse text back = lowerCase text := by
    rw [lowerCase_eq_lowerBetween]
    refine lowerBetween_congr fun s t htext => ?_
    rw [List.append_nil, List.append_nil]
    exact h s t htext
  rw [lowerCase_append_append, hplace]
  exact ⟨_, _, rfl⟩

/-! ### Looking around

Looking for a cased character passes over case-ignorable ones and ends at the first other one. -/

section Meets
variable {text : List Char}

/-- A text that is passed over as a whole leaves the answer to what follows, -/
theorem meetsCased_append_of_all (h : text.all isCaseIgnorable = true) (more : List Char) :
    meetsCased (text ++ more) = meetsCased more := by
  unfold meetsCased
  rw [List.dropWhile_append_of_pos (List.all_eq_true.mp h)]

/-- and if nothing follows, no letter is met. -/
theorem meetsCased_of_all (h : text.all isCaseIgnorable = true) : meetsCased text = false := by
  have hend := meetsCased_append_of_all h []
  rwa [List.append_nil] at hend

/-- The search ends in a text that is not passed over as a whole, so what follows does not
matter. -/
theorem meetsCased_append_of_not_all (h : text.all isCaseIgnorable = false) (more : List Char) :
    meetsCased (text ++ more) = meetsCased text := by
  induction text with
  | nil => cases h
  | cons c text ih =>
    unfold meetsCased
    rw [List.cons_append]
    by_cases hc : isCaseIgnorable c = true
    · rw [List.all_cons, hc, Bool.true_and] at h
      rw [List.dropWhile_cons_of_pos hc, List.dropWhile_cons_of_pos hc]
      exact ih h
    · rw [List.dropWhile_cons_of_neg hc, List.dropWhile_cons_of_neg hc]

theorem isCaseIgnorable_sigma : isCaseIgnorable '\u03a3' = false := by decide +kernel

/-- So there is none in a text that is passed over. -/
theorem sigma_not_mem_of_all (h : text.all isCaseIgnorable = true) : '\u03a3' ∉ text := by
  intro hmem
  have hsigma := List.all_eq_true.mp h _ hmem
  rw [isCaseIgnorable_sigma] at hsigma
  cases hsigma

/-- What is behind a sigma does not matter. -/
theorem meetsCased_append_sigma (text more more' : List Char) :
    meetsCased (text ++ '\u03a3' :: more) = meetsCased (text ++ '\u03a3' :: more') := by
  have h : (text ++ ['\u03a3']).all isCaseIgnorable = false := by
    rw [List.all_append, List.all_cons, isCaseIgnorable_sigma, Bool.false_and, Bool.and_false]
  have hmore := meetsCased_append_of_not_all h more
  have hmore' := meetsCased_append_of_not_all h more'
  rw [List.append_assoc] at hmore hmore'
  exact hmore.trans hmore'.symm

end Meets

/-! ### Open sigmas -/

/-- A sigma between these texts can take both forms, according to what stands around the texts: it
becomes final behind a letter, or stops to be so before a letter. -/
def IsOpen (before after : List Char) : Prop :=
  before.all isCaseIgnorable = true ∧ meetsCased after = false ∨
    meetsCased before = true ∧ after.all isCaseIgnorable = true

instance (before after : List Char) : Decidable (IsOpen before after) := by
  unfold IsOpen; infer_instance

/-- A sigma that is not open has the same form whatever stands around the text: on each side the
search either ends within the text or does not change the answer. -/
theorem endsWord_append_of_not_isOpen {before after : List Char} (h : ¬ IsOpen before after)
    (before' after' : List Char) :
    endsWord (before ++ before') (after ++ after') = endsWord before after := by
  unfold endsWord
  cases hbefore : before.all isCaseIgnorable with
  | true =>
    -- what stands before is left open, so a letter comes after
    have hmeets : meetsCased after = true := by
      by_contra hno
      exact h (.inl ⟨hbefore, by simpa using hno⟩)
    have hafter : after.all isCaseIgnorable = false := by
      by_contra hall
      rw [meetsCased_of_all (by simpa using hall)] at hmeets
      cases hmeets
    rw [meetsCased_append_of_not_all hafter, hmeets, Bool.not_true, Bool.and_false, Bool.and_false]
  -- the search before the sigma ends in the text, and what it finds decides whether that behind
  -- matters
  | false =>
    rw [meetsCased_append_of_not_all hbefore]
    cases hmeets : meetsCased before with
    | false => rfl
    | true =>
      have hafter : after.all isCaseIgnorable = false := by
        by_contra hall
        exact h (.inr ⟨hmeets, by simpa using hall⟩)
      rw [meetsCased_append_of_not_all hafter]

def HasOpenSigma (text : List Char) : Prop :=
  ∃ s t, text = s ++ '\u03a3' :: t ∧ IsOpen s.reverse t

instance : DecidablePred HasOpenSigma := fun text =>
  decidable_of_iff (∃ place ∈ sigmaPlaces text, IsOpen place.1.reverse place.2) <| by
    simp only [Prod.exists, mem_sigmaPlaces]
    rfl

/-- A text without an open sigma keeps the forms of all its sigmas wherever it stands. -/
theorem keepsSigmas_of_not_hasOpenSigma {text : List Char} (h : ¬ HasOpenSigma text)
    (front back : List Char) : KeepsSigmas front text back :=
  fun s t htext => endsWord_append_of_not_isOpen (fun hopen => h ⟨s, t, htext, hopen⟩) _ _

/-- A change of place that leaves all sigmas but one alone changes at most that one. -/
theorem exists_lowerBetween_eq {s t : List Char} (before before' after after' : List Char)
    (hs : '\u03a3' ∉ s ∨ before = before') (ht : '\u03a3' ∉ t ∨ after = after') :
    ∃ front back, lowerBetween before (s ++ '\u03a3' :: t) after =
        front ++ sigmaForm (endsWord (s.reverse ++ before) (t ++ after)) :: back ∧
      lowerBetween before' (s ++ '\u03a3' :: t) after' =
        front ++ sigmaForm (endsWord (s.reverse ++ before') (t ++ after')) :: back := by
  -- the sigma in the middle shields each side from what changes on the other
  have hfront : lowerBetween before s ('\u03a3' :: (t ++ after)) =
      lowerBetween before' s ('\u03a3' :: (t ++ after')) := by
    refine lowerBetween_congr fun u v hsplit => ?_
    rcases hs with hs | rfl
    · exact absurd (hsplit ▸ List.mem_append_right u List.mem_cons_self) hs
    · unfold endsWord
      rw [meetsCased_append_sigma v (t ++ after) (t ++ after')]
  have hback : lowerBetween ('\u03a3' :: (s.reverse ++ before)) t after =
      lowerBetween ('\u03a3' :: (s.reverse ++ before')) t after' := by
    refine lowerBetween_congr fun u v hsplit => ?_
    rcases ht with ht | rfl
    · exact absurd (hsplit ▸ List.mem_append_right u List.mem_cons_self) ht
    · unfold endsWord
      rw [meetsCased_append_sigma u.reverse (s.reverse ++ before) (s.reverse ++ before')]
  refine ⟨_, _, lowerBetween_sigma before s t after, ?_⟩
  rw [lowerBetween_sigma, hfront, hback]

/-! ### Occurrences -/

/-- A text in which one character was replaced has one of them less than before, so the old text
does not occur in the new one, nor in a longer text that adds none of them. -/
theorem not_infix_of_replaced {front back u v : List Char} {c d : Char} (hne : d ≠ c)
    (hu : c ∉ u) (hv : c ∉ v) :
    ¬ front ++ c :: back <:+: u ++ (front ++ d :: back) ++ v := by
  intro h
  have hcount := h.sublist.count_le c
  simp only [List.count_append, List.count_cons_self, List.count_cons_of_ne hne,
    List.count_eq_zero_of_not_mem hu, List.count_eq_zero_of_not_mem hv] at hcount
  omega

theorem lowerBetween_capital (before after : List Char) :
    lowerBetween before ['A'] after = ['a'] := by
  rw [lowerBetween, lowerAt_of_ascii (by decide), lowerBetween]
  rfl

/-- A letter before or behind a text with an open sigma gives the sigma its other form. So its own
lower-case form is not found in that of the longer text. -/
theorem exists_not_infix_of_hasOpenSigma {text : List Char} (h : HasOpenSigma text) :
    ∃ front back, ¬ lowerCase text <:+: lowerCase (front ++ text ++ back) := by
  have hcapital : meetsCased ['A'] = true := by decide +kernel
  obtain ⟨s, t, rfl, ⟨hs, ht⟩ | ⟨hs, ht⟩⟩ := h
  · -- the sigma is not final until a letter stands before it
    obtain ⟨front, back, halone, hplace⟩ := exists_lowerBetween_eq [] ['A'] [] [] (t := t)
      (.inl fun hmem => sigma_not_mem_of_all hs (List.mem_reverse.mpr hmem)) (.inr rfl)
    have hnot : endsWord (s.reverse ++ []) (t ++ []) = false := by
      rw [endsWord, List.append_nil, meetsCased_of_all hs, Bool.false_and]
    have hfinal : endsWord (s.reverse ++ ['A']) (t ++ []) = true := by
      rw [endsWord, meetsCased_append_of_all hs, hcapital, List.append_nil, ht]
      rfl
    refine ⟨['A'], [], ?_⟩
    rw [lowerCase_append_append, lowerCase_eq_lowerBetween, halone, lowerBetween_capital,
      List.reverse_singleton, hplace, hnot, hfinal]
    exact not_infix_of_replaced (by decide) (by decide) List.not_mem_nil
  · -- the sigma is final until a letter stands behind it
    obtain ⟨front, back, halone, hplace⟩ := exists_lowerBetween_eq [] [] [] ['A'] (s := s)
      (.inr rfl) (.inl (sigma_not_mem_of_all ht))
    have hfinal : endsWord (s.reverse ++ []) (t ++ []) = true := by
      rw [endsWord, List.append_nil, List.append_nil, hs, meetsCased_of_all ht]
      rfl
    have hnot : endsWord (s.reverse ++ []) (t ++ ['A']) = false := by
      rw [endsWord, meetsCased_append_of_all ht, hcapital, Bool.not_true, Bool.and_false]
    refine ⟨[], ['A'], ?_⟩
    rw [lowerCase_append_append, lowerCase_eq_lowerBetween, halone, lowerBetween_capital,
      List.reverse_nil, hplace, hfinal, hnot]
    exact not_infix_of_replaced (by decide) List.not_mem_nil (by decide)

/-- **The lower-case form of a text is found wherever the text occurs** exactly if the text has no
open sigma. -/
theorem forall_infix_lowerCase_iff {text : List Char} :
    (∀ front back, lowerCase text <:+: lowerCase (front ++ text ++ back)) ↔
      ¬ HasOpenSigma text := by
  constructor
  · intro hall hopen
    obtain ⟨front, back, hmissed⟩ := exists_not_infix_of_hasOpenSigma hopen
    exact hmissed (hall front back)
  · intro h front back
    exact (keepsSigmas_of_not_hasOpenSigma h front back).infix_lowerCase

/-- The sigma at the end of a name is open, those before letters are not. -/
example : HasOpenSigma "\u039f\u0394\u039f\u03a3".toList ∧
    ¬ HasOpenSigma "\u03a3\u039f\u03a3\u039f".toList := by decide +kernel

end PasswordPolicy.Unicode
