import Parlance.Regex.Charset

/-!
# Regular expressions

The expressions that a pattern denotes. Options such as ignoring case are already resolved: each
part says for itself what it accepts.
-/

namespace Parlance

namespace Regex

/-- Whether a repetition prefers more rounds or fewer. -/
inductive Preference where
  | more
  | fewer
  /-- As many rounds as there can be, none of which is given back. -/
  | kept
  deriving DecidableEq, Repr

/-- A condition on a place in the text that uses up no character. -/
inductive Anchor where
  /-- The beginning of the text. -/
  | textStart
  /-- The end of the text. -/
  | textStop
  /-- The end of the text, or just before a line end that closes it. -/
  | lastLineStop
  /-- The beginning of a line. -/
  | lineStart
  /-- The end of a line. -/
  | lineStop
  /-- A word starts or stops here, or, if not positive, none does. No such place is in an empty
  text. -/
  | wordEdge (repertoire : Repertoire) (positive : Bool)
  /-- At least so many characters follow. -/
  | room (count : Nat)
  deriving DecidableEq, Repr

end Regex

/-- A regular expression. -/
inductive Regex where
  /-- Nothing. -/
  | empty
  /-- One character of a set. -/
  | one (set : Regex.Charset)
  /-- One after the other. -/
  | cat (first second : Regex)
  /-- The first if that leads on, else the second. -/
  | alt (first second : Regex)
  /-- At least `least` rounds, and at most `most` if that is given. -/
  | rep (preference : Regex.Preference) (least : Nat) (most : Option Nat) (body : Regex)
  /-- The body; what it takes is kept under the index. -/
  | group (index : Nat) (body : Regex)
  /-- What the group took last, up to case. -/
  | backref (index : Nat) (folding : Regex.Folding)
  /-- A place of this sort. -/
  | anchor (place : Regex.Anchor)
  /-- A place from which the body does, or does not, follow. -/
  | ahead (positive : Bool) (body : Regex)
  /-- A place before which `width` characters do, or do not, fit the body. -/
  | behind (positive : Bool) (width : Nat) (body : Regex)
  /-- The body's preferred way, and no other. -/
  | atomic (body : Regex)
  /-- `yes` if the group has taken something, else `no`. -/
  | cond (index : Nat) (yes no : Regex)
  deriving DecidableEq, Repr

namespace Regex

/-- One after the other, for any number of expressions. -/
def ofList : List Regex → Regex
  | [] => empty
  | [single] => single
  | first :: rest => cat first (ofList rest)

/-! ## Beginnings -/

/-- Does the expression consist of nothing? -/
def isVoid : Regex → Bool
  | empty => true
  | cat first second => first.isVoid && second.isVoid
  | _ => false

/-- The set that the expression begins with, if it begins with one to which case does not matter. -/
def firstSet? : Regex → Option Charset
  | one set => if set.isChoice then some set else none
  | cat first second => if first.isVoid then second.firstSet? else first.firstSet?
  | _ => none

/-- The set of the characters that the expression takes, if it takes one character and no more. -/
def character? : Regex → Option Charset
  | one set => some set
  | cat body empty => body.character?
  | _ => none

/-- Is the expression one of several alternatives? -/
def isAlt : Regex → Bool
  | alt _ _ => true
  | _ => false

/-! ## Widths -/

/-- The least and the greatest number of characters that an expression takes. -/
structure Width where
  least : Nat
  most : Nat
  deriving DecidableEq, Repr

namespace Width

/-- Widths from here on are not told apart. -/
def limit : Nat := 1 <<< 64

/-- The width, cut off at the limit. -/
def capped (width : Width) : Width := ⟨min width.least limit, min width.most limit⟩

/-- The width of two expressions one after the other. -/
def add (first second : Width) : Width :=
  capped ⟨first.least + second.least, first.most + second.most⟩

/-- The width of one of two expressions. -/
def join (first second : Width) : Width :=
  ⟨min first.least second.least, max first.most second.most⟩

/-- The width of a number of rounds. -/
def rounds (least : Nat) (most : Option Nat) (body : Width) : Width :=
  capped ⟨least * body.least,
    match most with
    | some most => most * body.most
    | none => if body.most = 0 then 0 else limit⟩

end Width

/-- The width of an expression, given those of the groups that it refers to. -/
def width (groups : List (Nat × Width)) : Regex → Width
  | empty | anchor _ | ahead _ _ | behind _ _ _ => ⟨0, 0⟩
  | one _ => ⟨1, 1⟩
  | cat first second => (first.width groups).add (second.width groups)
  | alt first second => (first.width groups).join (second.width groups)
  | rep _ least most body => (body.width groups).rounds least most
  | group _ body | atomic body => body.width groups
  | backref index _ => (groups.lookup index).getD ⟨0, 0⟩
  | cond _ yes no => (yes.width groups).join (no.width groups)

/-! ## Strays -/

/-- Can the expression go on from a place that no part of it has reached? So it is with rounds that
are kept: reading goes on from where the round that failed took it up last. -/
def strays : Regex → Bool
  | empty | one _ | anchor _ | backref _ _ => false
  | cat first second | alt first second => first.strays || second.strays
  | rep .kept _ _ body => body.character?.isNone || body.strays
  | rep _ _ _ body | group _ body | ahead _ body | behind _ _ body | atomic body => body.strays
  | cond _ yes no => yes.strays || no.strays

/-- The expression, which is not tried where fewer characters follow than the least number that it
takes; only where the expression strays does this have to be said. -/
def guarded (regex : Regex) (groups : List (Nat × Width)) : Regex :=
  if regex.strays then cat (anchor (.room (regex.width groups).least)) regex else regex

end Regex

end Parlance
