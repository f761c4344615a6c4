import PasswordPolicy.Value.Json
import PasswordPolicy.Yaml.Character
import PasswordPolicy.Yaml.Failure

/-!
# Quoted scalars

Between single quotes only a doubled single quote is special; between double quotes a backslash
starts an escape. A scalar that goes on over several lines is folded: a line break with the blanks
around it counts as one space, and each further empty line as a line break. No line of it may start
with a marker of a document.
-/

namespace PasswordPolicy.Yaml

/-! ### Escapes -/

/-- The number that hexadecimal digits stand for. -/
def hexNumber? (digits : List Char) : Option Nat :=
  digits.foldlM (fun n c => (Json.hexValue? c).map (16 * n + ·)) 0

/-- The character with a code point of that many hexadecimal digits at the start of a text. Half of
a pair of code units is no character. -/
def readCodePoint (width : Nat) (text : List Char) : Except Failure Char :=
  match hexNumber? (text.take width) with
  | none => .error .broken
  | some code =>
    if text.length < width then .error .broken
    else if Nat.pow 2 31 ≤ code then .error (.defective .codePointTooLarge)
    else if 0x10ffff < code then .error (.defective .noSuchCharacter)
    else if code.isValidChar then .ok (Char.ofNat code)
    else .error .broken

/-- The character that an escape of one letter stands for. -/
def escapedChar? : Char → Option Char
  | '0' => some '\x00'
  | 'a' => some '\x07'
  | 'b' => some '\x08'
  | 't' => some '\t'
  | '\t' => some '\t'
  | 'n' => some '\n'
  | 'v' => some '\x0b'
  | 'f' => some '\x0c'
  | 'r' => some '\r'
  | 'e' => some '\x1b'
  | ' ' => some ' '
  | '\x22' => some '\x22'
  | '/' => some '/'
  | '\x5c' => some '\x5c'
  | 'N' => some '\u0085'
  | '_' => some '\u00a0'
  | 'L' => some '\u2028'
  | 'P' => some '\u2029'
  | _ => none

/-- How many hexadecimal digits follow an escape letter. -/
def escapeWidth? : Char → Option Nat
  | 'x' => some 2
  | 'u' => some 4
  | 'U' => some 8
  | _ => none

/-! ### Lines -/

/-- Takes the line breaks at the start of a line, with the blanks before and behind them. There are
none to take if a line starts with a marker of a document. -/
def takeBreaks? (text : List Char) : Option (List Char × List Char) :=
  if startsDocumentMarker text then none
  else match h : text.dropWhile isBlankChar with
    | [] => some ([], [])
    | c :: rest =>
      if isBreak c then
        have : rest.length < text.length := by
          have := (List.dropWhile_suffix (l := text) isBlankChar).length_le
          rw [h, List.length_cons] at this
          exact this
        (takeBreaks? rest).map fun (breaks, after) => (meaningOfBreak c :: breaks, after)
      else some ([], c :: rest)
termination_by text.length

theorem length_le_of_takeBreaks? {text breaks after : List Char}
    (h : takeBreaks? text = some (breaks, after)) : after.length ≤ text.length := by
  fun_induction takeBreaks? text generalizing breaks with
  | case1 => cases h
  | case2 => cases h; simp
  | case3 text _ c rest _ _ hlt ih =>
    obtain ⟨⟨more, after'⟩, hmore, heq⟩ := Option.map_eq_some_iff.1 h
    cases heq
    exact Nat.le_of_lt (Nat.lt_of_le_of_lt (ih hmore) hlt)
  | case4 text _ c rest hdrop _ =>
    cases h
    rw [← hdrop]
    exact (List.dropWhile_suffix _).length_le

/-! ### Scalars -/

/-- Reads up to the closing single quote, after the characters `done` (last one first). -/
def readSingle (done : List Char) : List Char → Except Failure (String × List Char)
  | [] => .error .broken
  | '\x27' :: '\x27' :: rest => readSingle ('\x27' :: done) rest
  | '\x27' :: rest => .ok (String.ofList done.reverse, rest)
  | c :: rest =>
    if isBreak c then
      match h : takeBreaks? rest with
      | none => .error .broken
      | some (breaks, after) =>
        have := length_le_of_takeBreaks? h
        readSingle ((folded (meaningOfBreak c) breaks).reverse ++ done) after
    else if isBlankChar c && startsBreak (rest.dropWhile isBlankChar) then
      have := (List.dropWhile_suffix (l := rest) isBlankChar).length_le
      readSingle done (rest.dropWhile isBlankChar)
    else readSingle (c :: done) rest
termination_by text => text.length
decreasing_by all_goals simp only [List.length_cons]; omega

/-- Reads up to the closing double quote, after the characters `done` (last one first). -/
def readDouble (done : List Char) : List Char → Except Failure (String × List Char)
  | [] => .error .broken
  | '\x22' :: rest => .ok (String.ofList done.reverse, rest)
  | '\x5c' :: c :: rest =>
    if isBreak c then
      match h : takeBreaks? rest with
      | none => .error .broken
      | some (breaks, after) =>
        have := length_le_of_takeBreaks? h
        readDouble (breaks.reverse ++ done) after
    else
      match escapeWidth? c with
      | some width =>
        match readCodePoint width rest with
        | .ok char => readDouble (char :: done) (rest.drop width)
        | .error failure => .error failure
      | none =>
        match escapedChar? c with
        | some char => readDouble (char :: done) rest
        | none => .error .broken
  | c :: rest =>
    if isBreak c then
      match h : takeBreaks? rest with
      | none => .error .broken
      | some (breaks, after) =>
        have := length_le_of_takeBreaks? h
        readDouble ((folded (meaningOfBreak c) breaks).reverse ++ done) after
    else if isBlankChar c && startsBreak (rest.dropWhile isBlankChar) then
      have := (List.dropWhile_suffix (l := rest) isBlankChar).length_le
      readDouble done (rest.dropWhile isBlankChar)
    else readDouble (c :: done) rest
termination_by text => text.length
decreasing_by all_goals simp only [List.length_cons, List.length_drop]; omega

end PasswordPolicy.Yaml
