/-!
# Asking for the password

The password is asked for until a line of the input is not empty or the input ends.
-/

namespace PasswordPolicy.Console

/-- The lines of an input, which end at a line feed, at a carriage return or at both in a row, after
the characters `done` (last one first) of the current line. An end without a line end makes a line
of what is left, if anything is. -/
def linesFrom (done : List Char) : List Char → List (List Char)
  | '\r' :: '\n' :: rest => done.reverse :: linesFrom [] rest
  | '\r' :: rest => done.reverse :: linesFrom [] rest
  | '\n' :: rest => done.reverse :: linesFrom [] rest
  | c :: rest => linesFrom (c :: done) rest
  | [] => if done.isEmpty then [] else [done.reverse]

def linesOf (input : String) : List (List Char) := linesFrom [] input.toList

/-- The outcome of asking: how often it was asked, and the answer unless the input ended. -/
structure Prompted where
  times : Nat
  answer : Option String
deriving DecidableEq, Repr

namespace Prompted

/-- Asks for an answer, to be found in lines of input. -/
def ask : List (List Char) → Prompted
  | [] => ⟨1, none⟩
  | line :: rest =>
    if line.isEmpty then
      let later := ask rest
      { later with times := later.times + 1 }
    else ⟨1, some (String.ofList line)⟩

/-- An answer that is known without asking. -/
def known (answer : String) : Prompted := ⟨0, some answer⟩

/-- What asking for the password prints; an input that ended is followed by a line end. -/
def printed (p : Prompted) : String :=
  String.join (List.replicate p.times "Password: \n") ++ (if p.answer.isNone then "\n" else "")

end Prompted

end PasswordPolicy.Console
