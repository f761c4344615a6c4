import PasswordPolicy.Proofs.Evaluation.Breaks
import PasswordPolicy.Proofs.History.Extent

/-!
# Asking the history

An evaluation asks the history by one scan, whose window is the limit on reuse. A limit that is not
positive has an empty window, so it makes no difference that only the value zero switches the
constraint off.

* **`asked_eq`**, **`reuse_mem_violations_iff`**: the scan of an evaluation.
* **`asked_eq_range_and_reuse_mem_iff`**: the generations asked for, and when reuse is reported.
* **`reuse_mem_iff_mem_take_and_asked_eq`**: the same for a list of earlier passwords.
-/

namespace PasswordPolicy.Policy

variable {p : Policy} {password : String} {user : Option String} {history : History}

theorem get_reuse_of_not_enabled (h : ¬ p.enabled .reuse = true) : p.get .reuse = 0 := by
  by_contra hne
  exact h ((Kind.enabled_some .reuse _).mpr hne)

/-- An evaluation asks for the generations of one scan. Where reuse is switched off it asks for
none, and so does a scan of an empty window. -/
theorem asked_eq : p.asked ⟨password, user, some history⟩ =
    (scan (history password) (p.get .reuse).toNat).asked := by
  unfold asked
  by_cases hon : p.enabled .reuse = true
  · rw [if_pos hon]
    rfl
  · -- nothing is asked, and the scan would not ask anything either
    rw [if_neg hon, get_reuse_of_not_enabled hon]
    rfl

/-- Reuse is reported if that scan finds the password. -/
theorem reuse_mem_violations_iff : Kind.reuse ∈ p.violations ⟨password, user, some history⟩ ↔
    (scan (history password) (p.get .reuse).toNat).found = true := by
  rw [mem_violations]
  by_cases hon : p.enabled .reuse = true
  · exact and_iff_right hon
  · rw [get_reuse_of_not_enabled hon]
    exact iff_of_false (fun h => hon h.1) (fun h => by cases h)

/-- **Which generations are asked for, and when reuse is reported.** The history is asked for the
generations in order, each once, up to the first one that does not differ, but for no more than the
limit says. Reuse is reported if the last answer is a match. So no generation outside the limit is
asked for, none behind a match or behind the end of the history, and a match behind that end is not
reported. -/
theorem asked_eq_range_and_reuse_mem_iff (p : Policy) (password : String) (user : Option String)
    (history : History) :
    ∃ m, p.asked ⟨password, user, some history⟩ = List.range m ∧
      (∀ first, IsLeast {g | history password g ≠ .different} first →
        m = min (p.get .reuse).toNat (first + 1)) ∧
      ((∀ g, history password g = .different) → m = (p.get .reuse).toNat) ∧
      (Kind.reuse ∈ p.violations ⟨password, user, some history⟩ ↔
        0 < m ∧ history password (m - 1) = .same) ∧
      (∀ g ∈ p.asked ⟨password, user, some history⟩, (g : Int) < p.get .reuse ∧
        ∀ earlier < g, history password earlier = .different) ∧
      ∀ gap, history password gap = .missing → (∀ g < gap, history password g ≠ .same) →
        Kind.reuse ∉ p.violations ⟨password, user, some history⟩ := by
  refine ⟨(scan (history password) (p.get .reuse).toNat).asked.length, ?_, fun first hfirst => ?_,
    fun hall => ?_, ?_, fun g hg => ?_, fun gap hgap hbefore hreuse => ?_⟩
  · rw [asked_eq]
    exact asked_scan _ _
  · exact length_asked_scan_of_isLeast hfirst
  · exact length_asked_scan_of_forall hall
  · rw [reuse_mem_violations_iff]
    exact found_scan_iff_last
  · rw [asked_eq, asked_scan, List.mem_range] at hg
    obtain ⟨hwindow, hdifferent⟩ := lt_length_asked_scan_iff.mp hg
    exact ⟨by omega, hdifferent⟩
  · -- the match would have to stand in front of the end of the history
    obtain ⟨g, -, hsame, hdifferent⟩ := found_scan_iff.mp (reuse_mem_violations_iff.mp hreuse)
    rcases Nat.lt_trichotomy g gap with hg | rfl | hg
    · exact hbefore g hg hsame
    · exact absurd (hgap.symm.trans hsame) (by decide)
    · exact absurd (hgap.symm.trans (hdifferent gap hg)) (by decide)

/-- A gap behind the newest password hides a match from a window of five. -/
theorem asked_eq_range_and_reuse_mem_iff_of_gap :
    ∃ history : History, history "secret" 0 = .different ∧ history "secret" 1 = .missing ∧
      history "secret" 2 = .same ∧
      (Policy.empty.set .reuse 5).asked ⟨"secret", none, some history⟩ = [0, 1] ∧
      Kind.reuse ∉ (Policy.empty.set .reuse 5).violations ⟨"secret", none, some history⟩ := by
  obtain ⟨history, hdifferent, hmissing, hsame⟩ : ∃ history : History,
      history "secret" 0 = .different ∧ history "secret" 1 = .missing ∧
        history "secret" 2 = .same :=
    ⟨fun _ g => if g = 0 then .different else if g = 1 then .missing else .same, rfl, rfl, rfl⟩
  obtain ⟨m, hasked, hleast, -, -, -, hgap⟩ :=
    asked_eq_range_and_reuse_mem_iff (Policy.empty.set .reuse 5) "secret" none history
  have hfirst : IsLeast {g | history "secret" g ≠ .different} 1 := by
    refine ⟨?_, fun g hg => Nat.pos_of_ne_zero fun hzero => hg (hzero ▸ hdifferent)⟩
    show history "secret" 1 ≠ .different
    rw [hmissing]
    decide
  obtain rfl : m = 2 := hleast 1 hfirst
  refine ⟨history, hdifferent, hmissing, hsame, hasked, hgap 1 hmissing fun g hg => ?_⟩
  obtain rfl : g = 0 := by omega
  rw [hdifferent]
  decide

/-! ### Lists of earlier passwords -/

/-- Without an earlier password there is nothing to be asked. So an empty history is as good as
none. -/
theorem violations_ofList_nil (p : Policy) (password : String) (user : Option String) :
    p.violations ⟨password, user, some (History.ofList [])⟩ =
      p.violations ⟨password, user, none⟩ := by
  refine List.filter_congr fun k _ => ?_
  cases k with
  | reuse =>
    -- the window of a scan is never larger than the list
    have hnone : (scan (History.ofList [] password) (p.get .reuse).toNat).found = false := by
      rw [Bool.eq_false_iff]
      intro hfound
      have hmem := found_scan_ofList_iff.mp hfound
      rw [List.take_nil] at hmem
      cases hmem
    exact congrArg (p.enabled .reuse && ·) hnone
  | _ => rfl

/-- **Reuse of a password out of a list.** It is reported if the password is, character by
character, among the first ones of the list, as many as the limit says. An empty list is as good as
none. However large the limit is, the list is asked up to the first occurrence of the password, and
if there is none once behind its end. -/
theorem reuse_mem_iff_mem_take_and_asked_eq (p : Policy) (password : String) (user : Option String)
    (earlier : List String) :
    (Kind.reuse ∈ p.violations ⟨password, user, some (History.ofList earlier)⟩ ↔
        ∃ other ∈ earlier.take (p.get .reuse).toNat, password.toList = other.toList) ∧
      p.violations ⟨password, user, some (History.ofList [])⟩ =
        p.violations ⟨password, user, none⟩ ∧
      p.asked ⟨password, user, some (History.ofList earlier)⟩ =
        List.range (min (p.get .reuse).toNat (earlier.idxOf password + 1)) ∧
      (p.asked ⟨password, user, some (History.ofList earlier)⟩).length ≤
        min (p.get .reuse).toNat (earlier.length + 1) := by
  have hasked : p.asked ⟨password, user, some (History.ofList earlier)⟩ =
      List.range (min (p.get .reuse).toNat (earlier.idxOf password + 1)) := by
    rw [asked_eq, asked_scan, length_asked_scan_ofList]
  refine ⟨?_, violations_ofList_nil p password user, hasked, ?_⟩
  · rw [reuse_mem_violations_iff, found_scan_ofList_iff]
    simp only [String.toList_inj, exists_eq_right']
  · have hle : earlier.idxOf password ≤ earlier.length := List.idxOf_le_length
    rw [hasked, List.length_range]
    omega

end PasswordPolicy.Policy
