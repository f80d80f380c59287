import SourceCheck.Text.EmojiSequence
import SourceCheck.Text.Ligature
import SourceCheck.Text.Wide

/-! # Display width

The number of terminal columns a text takes. A text is measured from its end, because how wide
a character is can depend on what follows it: a selector asks for its emoji or its text form,
and a character can be drawn as one glyph with those after it.
-/

namespace SourceCheck.Text

def exceptionalWidth? (c : Char) : Option Nat :=
  if c = '\u115f' then some 2
  else if c = '\u17a4' then some 2
  else if c = '\u17d8' then some 3
  else none

/-- The columns of a character on its own. A control takes one. -/
def charWidth (c : Char) : Nat :=
  if c.toNat ≤ 0xA0 then 1
  else match exceptionalWidth? c with
    | some n => n
    | none => if zeroWidth.contains c then 0 else if wide.contains c then 2 else 1

inductive Form
  | emoji
  | text
  deriving DecidableEq, Repr

def selector? (c : Char) : Option Form :=
  if c = '\ufe0f' then some .emoji else if c = '\ufe0e' then some .text else none

/-- What stands after a position, selectors aside: the glyph that the character before can
become a part of. -/
inductive Tail
  | plain
  | ligature (l : Ligature)
  | sequence (s : EmojiSequence)
  deriving DecidableEq, Repr

namespace Tail

/-- Whether a joiner and an emoji come next, a keycap aside. -/
def isJoined : Tail → Bool
  | sequence .joined | sequence .joinedKeycap => true
  | _ => false

/-- What a selector leaves of the tail: a ligature goes on through it, an emoji sequence does
not. -/
def ligatureOnly : Tail → Tail
  | ligature l => ligature l
  | _ => plain

/-- What a selector keeps of the tail. A joined emoji goes on through the selector of the emoji
form, if the character before has one. -/
def behind (t : Tail) : Form → Tail
  | .emoji => if t.isJoined then t else t.ligatureOnly
  | .text => t.ligatureOnly

end Tail

/-- What stands after a position, as far as it decides the width of the character before. -/
structure Ahead where
  form : Option Form
  tail : Tail
  deriving DecidableEq, Repr

namespace Ahead

def plain : Ahead := ⟨none, .plain⟩

def ofTail (t : Tail) : Ahead := ⟨none, t⟩

end Ahead

/-- The columns of a character that nothing after it changes. -/
def widthAlone (c : Char) : Int × Ahead :=
  match Ligature.ofLast? c, EmojiSequence.ofLast? c with
  | some l, _ => (1, .ofTail (.ligature l))
  | none, some (columns, s) => (columns, .ofTail (.sequence s))
  | none, none => (charWidth c, .plain)

def widthBeforeTail (c : Char) (t : Tail) : Int × Ahead :=
  if c.toNat ≤ 0xA0 then (1, .plain)
  else match selector? c with
    | some form => (0, ⟨some form, t.behind form⟩)
    | none =>
      match t with
      | .plain => widthAlone c
      | .ligature l =>
        match l.before? c with
        | some (columns, rest) => (columns, .ofTail (rest.elim .plain .ligature))
        | none => widthAlone c
      | .sequence s =>
        match s.before? c with
        | some (columns, rest) => (columns, .ofTail (.sequence rest))
        | none => widthAlone c

/-- The columns that a character adds in front of what is ahead. A character that becomes part
of a glyph adds none, and takes a column back if less is drawn of that glyph. -/
def widthBefore (c : Char) (ahead : Ahead) : Int × Ahead :=
  match ahead.form with
  | none => widthBeforeTail c ahead.tail
  | some .emoji =>
    if hasEmojiForm c then (if ahead.tail.isJoined then 0 else 2, .ofTail (.sequence .emoji))
    else widthBeforeTail c ahead.tail.ligatureOnly
  | some .text =>
    if hasTextForm c then (1, .plain) else widthBeforeTail c ahead.tail

/-- The number of columns that a text takes. -/
def displayWidth (cs : List Char) : Nat :=
  (cs.foldr (fun c (total, ahead) =>
    let (columns, ahead) := widthBefore c ahead
    (total + columns, ahead)) ((0 : Int), Ahead.plain)).1.toNat

end SourceCheck.Text
