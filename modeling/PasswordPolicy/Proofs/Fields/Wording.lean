import Mathlib.Data.List.Forall2
import PasswordPolicy.Fields.Wording

/-!
# Findings in other words

Telling findings in the words of a vocabulary changes types and messages, one finding at a time. It
fails only where a message has a place for which the finding has no value, which the words for
definitions never have.

* **`Vocabulary.rewordAll_eq_ok_iff`**: each finding is told in its turn.
* **`Vocabulary.exists_reword_own_iff`**: what the words for definitions need.
* **`FieldError.tell_eq`**: the report on errors.
-/

namespace PasswordPolicy

/-! ### Vocabularies -/

namespace Vocabulary

variable {v : Vocabulary} {f t : Finding} {findings told : List Finding}

/-- The told finding is about the same value in the same place. -/
theorem of_reword_eq_ok (h : v.reword f = .ok t) : t.type = v.typeName f.type ∧
    t.location = f.location ∧ t.input = f.input ∧ t.context = [] ∧
      v.message (v.typeName f.type) f = .ok t.message := by
  unfold reword at h
  cases hmessage : v.message (v.typeName f.type) f with
  | error e =>
    rw [hmessage] at h
    cases h
  | ok message =>
    rw [hmessage] at h
    cases h
    exact ⟨rfl, rfl, rfl, rfl, rfl⟩

/-- **Each finding is told in its turn**, and none is left out or added. -/
theorem rewordAll_eq_ok_iff : v.rewordAll findings = .ok told ↔
    List.Forall₂ (fun f t => v.reword f = .ok t) findings told := by
  induction findings generalizing told with
  | nil =>
    rw [List.forall₂_nil_left_iff, rewordAll, Except.ok.injEq, eq_comm]
  | cons f findings ih =>
    rw [List.forall₂_cons_left_iff, rewordAll]
    cases hf : v.reword f with
    | error e => exact ⟨nofun, fun ⟨_, _, h, _⟩ => nomatch h⟩
    | ok t =>
      simp only [← ih, Except.bind]
      cases hrest : v.rewordAll findings with
      | error e => exact ⟨nofun, fun ⟨_, _, _, h, _⟩ => nomatch h⟩
      | ok rest =>
        simp [Except.map, eq_comm]

/-- All findings are told if each of them is. They are told in their order, one by one, so one that
cannot be told stops all. -/
theorem exists_rewordAll_iff : (∃ told, v.rewordAll findings = .ok told) ↔
    ∀ f ∈ findings, ∃ t, v.reword f = .ok t := by
  simp only [rewordAll_eq_ok_iff]
  induction findings with
  | nil => exact ⟨fun _ => nofun, fun _ => ⟨[], .nil⟩⟩
  | cons f findings ih =>
    rw [List.forall_mem_cons, ← ih]
    constructor
    · rintro ⟨_, htold⟩
      cases htold with
      | cons ht hrest => exact ⟨⟨_, ht⟩, ⟨_, hrest⟩⟩
    · rintro ⟨⟨t, ht⟩, ⟨told, htold⟩⟩
      exact ⟨t :: told, .cons ht htold⟩

end Vocabulary

/-! ### The words for definitions -/

section Messages
variable {pieces : List Piece} {context : List (String × String)}

/-- A template can be filled exactly if the context has a value for each of its places. -/
theorem exists_filled_iff : (∃ texts, pieces.mapM (Piece.filled context) = .ok texts) ↔
    ∀ name, .place name ∈ pieces → ∃ value, context.lookup name = some value := by
  induction pieces with
  | nil => exact ⟨fun _ => nofun, fun _ => ⟨[], rfl⟩⟩
  | cons piece pieces ih =>
    -- the first piece by itself
    have hpiece : (∃ text, piece.filled context = .ok text) ↔
        ∀ name, .place name = piece → ∃ value, context.lookup name = some value := by
      cases piece with
      | text s => exact ⟨fun _ => nofun, fun _ => ⟨s, rfl⟩⟩
      | place name =>
        have hfilled : (∃ text, (Piece.place name).filled context = .ok text) ↔
            ∃ value, context.lookup name = some value := by
          simp only [Piece.filled]
          cases context.lookup name <;> simp
        rw [hfilled]
        exact ⟨fun h _ hname => Piece.place.inj hname ▸ h, fun h => h name rfl⟩
    simp only [List.mem_cons, or_imp, forall_and, ← ih, ← hpiece, List.mapM_cons]
    cases piece.filled context with
    | error e => exact ⟨nofun, nofun⟩
    | ok text =>
      cases pieces.mapM (Piece.filled context) with
      | error e => exact ⟨nofun, nofun⟩
      | ok texts => exact ⟨fun _ => ⟨⟨_, rfl⟩, ⟨_, rfl⟩⟩, fun _ => ⟨_, rfl⟩⟩

/-- A message can be made up if there is a value for each of its places, or none at all. Without a
context nothing is filled in, and the message is the template as it stands. -/
theorem exists_messageOf_iff : (∃ message, messageOf pieces context = .ok message) ↔
    (context ≠ [] → ∀ name, .place name ∈ pieces → ∃ value, context.lookup name = some value) := by
  rw [← exists_filled_iff]
  unfold messageOf
  split
  · next hempty => exact ⟨fun _ hne => absurd (List.isEmpty_iff.mp hempty) hne, fun _ => ⟨_, rfl⟩⟩
  · next hne =>
    rw [List.isEmpty_iff] at hne
    rw [forall_prop_of_true hne]
    cases pieces.mapM (Piece.filled context) with
    | error e => exact ⟨nofun, nofun⟩
    | ok texts => exact ⟨fun _ => ⟨_, rfl⟩, fun _ => ⟨_, rfl⟩⟩

end Messages

namespace Vocabulary

/-- No other type is told under this name. -/
theorem eq_of_typeName_own {type : String} (h : own.typeName type = "greater_than_equal") :
    type = "greater_than_equal" := by
  unfold typeName at h
  cases hlookup : own.types.lookup type with
  | none => rwa [hlookup] at h
  | some other =>
    obtain ⟨before, after, htypes, -⟩ := List.lookup_eq_some_iff.mp hlookup
    have hmem : (type, other) ∈ own.types := by simp [htypes]
    have hother : ∀ entry ∈ own.types, entry.2 ≠ "" ∧ entry.2 ≠ "greater_than_equal" := by decide
    obtain ⟨hne, hname⟩ := hother _ hmem
    rw [hlookup, Option.filter_some, if_pos (decide_eq_true hne)] at h
    exact absurd h hname

/-- Only the message about a bound has a place, the one for the bound. -/
theorem eq_of_place_mem {type name : String} {pieces : List Piece}
    (hpieces : own.pieces? type = some pieces) (hname : .place name ∈ pieces) :
    type = "greater_than_equal" ∧ name = "ge" := by
  have hlookup := (Option.filter_eq_some_iff.mp hpieces).1
  obtain ⟨before, after, hmessages, -⟩ := List.lookup_eq_some_iff.mp hlookup
  have hmem : (type, pieces) ∈ own.messages := by simp [hmessages]
  simp only [own, List.mem_cons, Prod.mk.injEq, List.not_mem_nil, or_false] at hmem
  rcases hmem with ⟨-, rfl⟩ | ⟨-, rfl⟩ | ⟨-, rfl⟩ | ⟨rfl, rfl⟩
  · simp at hname
  · simp at hname
  · simp at hname
  · exact ⟨rfl, by simpa using hname⟩

/-- **What the words for definitions need**: the bound, if a number is found to be below it and
there is a context at all. -/
theorem exists_reword_own_iff {f : Finding} : (∃ t, own.reword f = .ok t) ↔
    (f.type = "greater_than_equal" → f.context ≠ [] →
      ∃ bound, f.context.lookup "ge" = some bound) := by
  have hmessage : (∃ t, own.reword f = .ok t) ↔
      ∃ message, own.message (own.typeName f.type) f = .ok message := by
    unfold reword
    cases own.message (own.typeName f.type) f with
    | error e => exact ⟨nofun, nofun⟩
    | ok message => exact ⟨fun _ => ⟨_, rfl⟩, fun _ => ⟨_, rfl⟩⟩
  -- the name of the type is always found, so only the message can fail
  rw [hmessage]
  unfold message
  split
  · next pieces hpieces =>
    rw [exists_messageOf_iff]
    constructor
    · intro h htype hcontext
      have htype' : own.typeName f.type = "greater_than_equal" := by
        rw [htype]
        rfl
      -- the one template with a place that has to be filled
      have hplace : own.pieces? "greater_than_equal" =
          some [.text "Input must be greater than or equal to ", .place "ge"] := rfl
      rw [htype', hplace] at hpieces
      cases hpieces
      exact h hcontext "ge" (by simp)
    · intro h hcontext name hname
      obtain ⟨htype, rfl⟩ := eq_of_place_mem hpieces hname
      exact h (eq_of_typeName_own htype) hcontext
  · next hnone =>
    refine ⟨fun _ htype => ?_, fun _ => ⟨_, rfl⟩⟩
    rw [htype] at hnone
    cases hnone

end Vocabulary

/-! ### Errors -/

def FieldError.told (e : FieldError) : Finding :=
  ⟨e.fault.code, e.location, e.fault.message, e.input, []⟩

/-- The message about a bound has the bound in its place. -/
theorem messageOf_bound (bound : String) :
    messageOf [.text "Input must be greater than or equal to ", .place "ge"] [("ge", bound)] =
      .ok ("Input must be greater than or equal to " ++ bound) := by
  have hfilled : [Piece.text "Input must be greater than or equal to ", .place "ge"].mapM
      (Piece.filled [("ge", bound)]) = .ok ["Input must be greater than or equal to ", bound] := rfl
  have hjoin (s t : String) : String.join [s, t] = s ++ t := by simp [String.join]
  rw [messageOf, hfilled, ← hjoin]
  rfl

/-- The own wording of an error is the one that it is told with. -/
theorem FieldError.reword_found (e : FieldError) : Vocabulary.own.reword e.found = .ok e.told := by
  obtain ⟨location, fault, input⟩ := e
  cases fault with
  | below bound =>
    -- the only message that is made up for the error; all others are texts
    have hmessage : Vocabulary.own.message "greater_than_equal"
        (FieldError.mk location (.below bound) input).found = .ok (Fault.below bound).message :=
      messageOf_bound _
    have htype : Vocabulary.own.typeName "greater_than_equal" = "greater_than_equal" := rfl
    show (Vocabulary.own.message (Vocabulary.own.typeName "greater_than_equal") _).map _ = _
    rw [htype, hmessage]
    rfl
  | broken message => rfl
  | _ => rfl

/-- **The report on errors** tells each of them in its turn, in the words for definitions. So
number, order and places of the errors are kept. -/
theorem FieldError.tell_eq (errors : List FieldError) : tell errors = .ok (errors.map told) := by
  rw [tell, Vocabulary.rewordAll_eq_ok_iff, List.forall₂_map_left_iff, List.forall₂_map_right_iff,
    List.forall₂_same]
  exact fun e _ => e.reword_found

end PasswordPolicy
