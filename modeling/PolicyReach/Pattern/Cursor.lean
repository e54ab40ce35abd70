import PolicyReach.Pattern.Fault
import PolicyReach.Text.Blank

/-!
# Reading a pattern from left to right

A cursor holds what is left of the pattern. In verbose patterns blanks and comments mean nothing.
-/
namespace PolicyReach.Pattern

structure Cursor where
  rest : List Char
  position : Position

namespace Cursor

def ofText (s : List Char) : Cursor := ⟨s, .first⟩

def isAtEnd (c : Cursor) : Bool := c.rest.isEmpty

def startsWith (c : Cursor) (text : String) : Bool := text.toList.isPrefixOf c.rest

def next (c : Cursor) : Cursor :=
  match c.rest with
  | [] => c
  | x :: rest => ⟨rest, c.position.after x⟩

def skip : Nat → Cursor → Cursor
  | 0, c => c
  | n + 1, c => c.next.skip n

/-- The place of the cursor. -/
def here (c : Cursor) : Extent := .point c.position

/-- The extent of the next character. -/
def ahead (c : Cursor) : Extent := ⟨c.position, c.next.position⟩

/-- The extent from a place up to the cursor. -/
def since (c : Cursor) (start : Position) : Extent := ⟨start, c.position⟩

/-- Passes over blanks and comments, being inside a comment or not. -/
def passBlanks (comment : Bool) : List Char → Position → Cursor
  | [], p => ⟨[], p⟩
  | x :: rest, p =>
    if comment then passBlanks (x ≠ '\n') rest (p.after x)
    else if Text.isBlank x then passBlanks false rest (p.after x)
    else if x = '#' then passBlanks true rest (p.after x)
    else ⟨x :: rest, p⟩

def settle (verbose : Bool) (c : Cursor) : Cursor :=
  if verbose then passBlanks false c.rest c.position else c

/-- Passes over a character and what means nothing behind it. -/
def advance (verbose : Bool) (c : Cursor) : Cursor := c.next.settle verbose

/-- What is left behind blanks and one mark of a comment, if anything is. -/
def behindBlanks : Bool → List Char → Option (List Char)
  | _, [] => none
  | marked, x :: rest =>
    if Text.isBlank x then behindBlanks marked rest
    else if !marked && x = '#' then behindBlanks true rest
    else some (x :: rest)

/-- The character behind the next one. -/
def peek (verbose : Bool) (c : Cursor) : Option Char :=
  let rest := c.rest.drop 1
  if verbose then ((behindBlanks false rest).getD rest).head? else rest.head?

end Cursor

def fail {α : Type} (d : Defect) (e : Extent) : Except Fault α := .error ⟨d, e, none⟩

end PolicyReach.Pattern
