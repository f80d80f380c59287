import SourceCheck.Text.Emoji

/-! # Emoji sequences

Characters that are shown as one emoji: a skin tone after an emoji, two regional indicators,
a flag with tags, and emoji with a joiner between them. A sequence is recognised from its last
character to its first, which is the order in which a text is measured.
-/

namespace SourceCheck.Text

def isRegionalIndicator (c : Char) : Bool :=
  0x1F1E6 ≤ c.toNat && c.toNat ≤ 0x1F1FF

def isSkinTone (c : Char) : Bool :=
  0x1F3FB ≤ c.toNat && c.toNat ≤ 0x1F3FF

def isTagLetter (c : Char) : Bool :=
  0xE0061 ≤ c.toNat && c.toNat ≤ 0xE007A

def isTagDigit (c : Char) : Bool :=
  0xE0030 ≤ c.toNat && c.toNat ≤ 0xE0039

def isTagEnd (c : Char) : Bool :=
  c.toNat = 0xE007F

def isBlackFlag (c : Char) : Bool :=
  c.toNat = 0x1F3F4

def isEmoji (c : Char) : Bool :=
  emojiPresentation.contains c && !isRegionalIndicator c && !isSkinTone c

def hasEmojiForm (c : Char) : Bool :=
  emojiVariant.contains c

/-- Whether a selector can ask for the narrow text form of an emoji. Enclosed ideographs stay
wide. -/
def hasTextForm (c : Char) : Bool :=
  emojiVariant.contains c && emojiPresentation.contains c &&
    !(0x1F200 ≤ c.toNat && c.toNat ≤ 0x1F2FF)

/-- The end of an emoji sequence, from a character of it on. The characters from there on are
counted. -/
inductive EmojiSequence
  | skinTone
  | emoji
  | indicators (several : Bool)
  | joined
  | joinedKeycap
  /-- Regional indicators before a joiner and an emoji, and whether their number is even. An
  even number forms flags, of which the last one is part of the emoji. -/
  | joinedIndicators (even : Bool)
  | tagLetters (count : Nat)
  /-- The end of a flag's tags before a joiner and an emoji: so many digits, and then at most
  four letters. -/
  | tagDigits (count : Nat)
  deriving DecidableEq, Repr

namespace EmojiSequence

def ofLast? (c : Char) : Option (Nat × EmojiSequence) :=
  if isRegionalIndicator c then some (1, indicators false)
  else if isSkinTone c then some (2, skinTone)
  else if isEmoji c then some (2, emoji)
  else none

def canJoin : EmojiSequence → Bool
  | skinTone | emoji | indicators true | joinedIndicators true => true
  | _ => false

/-- Whether the tags name a region: three to six letters, or three digits before the letters. -/
def namesRegion : EmojiSequence → Bool
  | tagLetters n => 3 ≤ n
  | tagDigits n => n = 3
  | _ => false

/-- The tags with one more tag before them: at most six letters, at most three digits, and
digits only before at most four letters. -/
def tag? (c : Char) : EmojiSequence → Option EmojiSequence
  | tagLetters n =>
    if isTagLetter c && n < 6 then some (tagLetters (n + 1))
    else if isTagDigit c && n ≤ 4 then some (tagDigits 1)
    else none
  | tagDigits n => if isTagDigit c && n < 3 then some (tagDigits (n + 1)) else none
  | _ => none

def beforeJoined? (c : Char) : Option (Int × EmojiSequence) :=
  if c = '\u20e3' then some (0, joinedKeycap)
  else if isRegionalIndicator c then some (1, joinedIndicators false)
  else if isSkinTone c then some (0, skinTone)
  else if isTagEnd c then some (0, tagLetters 0)
  else if isEmoji c then some (0, emoji)
  else none

/-- The columns that a character adds as part of an emoji sequence; `none` if it is not part of
it. A regional indicator before a joiner is counted as one, a pair of them as nothing, and
every further pair as one flag. -/
def before? (c : Char) (s : EmojiSequence) : Option (Int × EmojiSequence) :=
  if c = '\u200d' && s.canJoin then some (0, joined)
  else if isBlackFlag c && s.namesRegion then some (0, emoji)
  else match s with
    | skinTone => if emojiModifierBase.contains c then some (0, emoji) else none
    | indicators _ => if isRegionalIndicator c then some (1, indicators true) else none
    | joined => beforeJoined? c
    | joinedIndicators even =>
      if isRegionalIndicator c then
        some (if even then 3 else -1, joinedIndicators (!even))
      else none
    | tagLetters _ | tagDigits _ => (s.tag? c).map ((0, ·))
    | emoji | joinedKeycap => none

end EmojiSequence

end SourceCheck.Text
