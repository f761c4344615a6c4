/-!
# Occurrence

A text occurs in another one if it is a stretch of neighbouring characters of it. Main statement:
the search finds every occurrence and nothing else.
-/

namespace PasswordPolicy.Text

/-- Does `needle` occur in the text? The empty text occurs everywhere. -/
def occursIn (needle : List Char) : List Char → Bool
  | [] => needle.isEmpty
  | c :: rest => needle.isPrefixOf (c :: rest) || occursIn needle rest

/-- The search decides the relation `<:+:` of lists. -/
theorem occursIn_iff {needle text : List Char} :
    occursIn needle text = true ↔ needle <:+: text := by
  induction text with
  | nil => simp [occursIn]
  | cons c rest ih => simp [occursIn, ih, List.infix_cons_iff, List.isPrefixOf_iff_prefix]

end PasswordPolicy.Text
