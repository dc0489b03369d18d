import PagedTable.Text.Emoji

/-! # Display width

How many columns a text takes. These are the columns of its characters, except
where characters next to each other show as one: in the sequences of an emoji
and in the ligatures of some scripts. A text is read from its end, so that what
stands after a character is known when its columns are counted. -/

namespace PagedTable.Text

/-! ## Letters of ligatures -/

def lamRanges : CodeRanges :=
  [(0x644, 0x644), (0x6b5, 0x6b8), (0x76a, 0x76a), (0x8a6, 0x8a6), (0x8c7, 0x8c7)]

def alefRanges : CodeRanges :=
  [(0x622, 0x623), (0x625, 0x625), (0x627, 0x627), (0x671, 0x673), (0x675, 0x675),
   (0x773, 0x774), (0x870, 0x882)]

/-- The format characters that do not keep two Arabic letters apart. -/
def passedFormatRanges : CodeRanges :=
  [(0xad, 0xad), (0x61c, 0x61c), (0x70f, 0x70f), (0x200b, 0x200b), (0x200e, 0x200f),
   (0x202a, 0x202e), (0x2060, 0x2064), (0x206a, 0x206f), (0xfeff, 0xfeff),
   (0x1bca0, 0x1bca3), (0x1d173, 0x1d17a), (0xe0001, 0xe0001), (0xe0020, 0xe007f)]

def joinsAcross (edition : Edition) (char : Char) : Bool :=
  (isMark char || newestMarkRanges.contain char || passedFormatRanges.contain char) &&
    charWidth edition char = 0

def hiddenMarkRanges : CodeRanges :=
  [(0x34f, 0x34f), (0x17b4, 0x17b5), (0x180b, 0x180d), (0x180f, 0x180f), (0xfe00, 0xfe0f),
   (0xe0100, 0xe01ef)]

def subscriptRanges : CodeRanges :=
  [(0x1780, 0x1782), (0x1784, 0x1787), (0x1789, 0x178c), (0x178e, 0x1793), (0x1795, 0x1798),
   (0x179b, 0x179d), (0x17a0, 0x17a0), (0x17a2, 0x17a2), (0x17a7, 0x17a7), (0x17ab, 0x17ac),
   (0x17af, 0x17af)]

/-- The sign that puts the Khmer letter after it below the one before. -/
def coeng : Char := '\u17d2'

def tifinaghRanges : CodeRanges :=
  [(0x2d31, 0x2d65), (0x2d6f, 0x2d6f)]

def isTifinagh (char : Char) : Bool :=
  tifinaghRanges.contain char

def isLeadingTone (char : Char) : Bool :=
  'ꓸ' ≤ char && char ≤ 'ꓻ'

def isTrailingTone (char : Char) : Bool :=
  char = 'ꓼ' || char = 'ꓽ'

def isCurlyQuote (char : Char) : Bool :=
  char = '‘' || char = '’' || char = '“' || char = '”'

def wideSelector : Char := '\ufe01'

/-! ## What stands after a character -/

inductive LastLetter where
  | lamed
  | ya
  | tifinagh
  | tone
  | turkic
  | subscript
deriving DecidableEq, Repr

inductive EmojiTail where
  | joiner
  | keycap
  | flags (indicators : Nat)
  /-- The region of a flag, with so many letters and digits in front of its
  end. -/
  | region (letters digits : Nat)
deriving DecidableEq, Repr

/-- What stands after a character, as far as its columns depend on it. -/
inductive Follower where
  | other
  | lineFeed
  | emoji
  | skinTone
  | regional (several : Bool)
  | joined (tail : EmojiTail)
  | vowelE
  | vowelAi
  | alef
  /-- The last letter of a ligature, perhaps tied to the one before it by a joiner. -/
  | letter (last : LastLetter) (tied : Bool)
  /-- The Buginese vowel i, joined to the letter ya. -/
  | joinedVowel
  /-- A consonant of Tifinagh with the mark in front of it that joins it to
  another. -/
  | boundConsonant
deriving DecidableEq, Repr

/-- The columns a character adds, and what it is to the one before it. -/
abbrev Advance := Int × Follower

namespace EmojiTail

/-- Reads a character in front of the end of a joined emoji, if it belongs to
the emoji. Regional indicators make pairs from the left, so each of them may
change which ones are a pair. -/
def extend? (edition : Edition) (char : Char) : EmojiTail → Option Advance
  | .joiner =>
    if char = keycapMark then some (0, .joined .keycap)
    else if isRegional char then some (1, .joined (.flags 1))
    else if isSkinTone char then some (0, .skinTone)
    else if char = tagEnd then some (0, .joined (.region 0 0))
    else if isEmoji edition char then some (0, .emoji)
    else none
  | .keycap => none
  | .flags indicators =>
    if isRegional char then
      some (if indicators % 2 = 1 then -1 else 3, .joined (.flags (indicators + 1)))
    else if char = zeroWidthJoiner ∧ 1 < indicators then some (0, .joined .joiner)
    else none
  | .region letters digits =>
    if isTagLetter char ∧ digits = 0 ∧ letters < 6 then
      some (0, .joined (.region (letters + 1) 0))
    else if isTagDigit char ∧ letters < 5 ∧ digits < 3 then
      some (0, .joined (.region letters (digits + 1)))
    else if char = blackFlag ∧ (digits = 3 ∨ 3 ≤ letters ∧ digits = 0) then some (0, .emoji)
    else none

end EmojiTail

namespace Follower

def ofChar (edition : Edition) (char : Char) : Follower :=
  if char.toNat < 0xad then (if char = '\n' then .lineFeed else .other)
  else if alefRanges.contain char then .alef
  else if char = 'ל' then .letter .lamed false
  else if char = 'ᨐ' then .letter .ya false
  else if isTifinagh char then .letter .tifinagh false
  else if isTrailingTone char then .letter .tone false
  else if char = '𐰃' then .letter .turkic false
  else if subscriptRanges.contain char then .letter .subscript false
  else if isRegional char then .regional false
  else if isSkinTone char then .skinTone
  else if isEmoji edition char then .emoji
  else if edition = .latest ∧ char = '𖵧' then .vowelE
  else if edition = .latest ∧ char = '𖵨' then .vowelAi
  else .other

def inLigature : Follower → Bool
  | .alef | .letter _ _ | .joinedVowel | .boundConsonant => true
  | _ => false

def joinLetter? (last : LastLetter) (tied : Bool) (char : Char) : Option Advance :=
  match last with
  | .lamed => if tied ∧ char = 'א' then some (0, .other) else none
  | .ya => if tied ∧ char = 'ᨗ' then some (0, .joinedVowel) else none
  | .tifinagh =>
    if char = tifinaghJoiner then some (1, .boundConsonant)
    else if tied ∧ isTifinagh char then some (0, .other)
    else none
  | .tone => if isLeadingTone char then some (0, .other) else none
  | .turkic => if tied ∧ char = '𐰲' then some (0, .other) else none
  | .subscript => if char = coeng then some (-1, .other) else none

def join? (edition : Edition) (char : Char) : Follower → Option Advance
  | .other => none
  | .lineFeed => if char = '\r' then some (0, .other) else none
  | .emoji => if char = zeroWidthJoiner then some (0, .joined .joiner) else none
  | .skinTone =>
    if takesSkinTone char then some (0, .emoji)
    else if char = zeroWidthJoiner then some (0, .joined .joiner)
    else none
  | .regional several =>
    if isRegional char then some (1, .regional true)
    else if several ∧ char = zeroWidthJoiner then some (0, .joined .joiner)
    else none
  | .joined tail => tail.extend? edition char
  | .vowelE =>
    if char = '𖵣' ∨ char = '𖵩' then some (0, .other)
    else if char = '𖵧' then some (0, .vowelAi)
    else if char = '𖵨' then some (1, .vowelE)
    else none
  | .vowelAi => if char = '𖵣' then some (0, .other) else none
  | .alef =>
    if lamRanges.contain char then some (0, .other)
    else if joinsAcross edition char then some (0, .alef)
    else none
  | .letter last tied =>
    if char = zeroWidthJoiner then some (0, .letter last true)
    else if hiddenMarkRanges.contain char then some (0, .letter last tied)
    else joinLetter? last tied char
  | .joinedVowel =>
    if char = zeroWidthJoiner ∨ hiddenMarkRanges.contain char then some (0, .joinedVowel)
    else if char = 'ᨕ' then some (0, .other)
    else none
  | .boundConsonant =>
    if char = zeroWidthJoiner ∨ hiddenMarkRanges.contain char then some (0, .boundConsonant)
    else if isTifinagh char then some (-1, .other)
    else none

end Follower

/-! ## Variation selectors -/

inductive Look where
  | text
  | emoji
  | wide
deriving DecidableEq, Repr

def Look.ofSelector? (edition : Edition) (char : Char) : Option Look :=
  if char = emojiSelector then some .emoji
  else if char = textSelector then some .text
  else if edition = .latest ∧ char = wideSelector then some .wide
  else none

structure Context where
  follower : Follower := .other
  look : Option Look := none
deriving DecidableEq, Repr

namespace Context

/-- Puts a selector in front of what stands after a character. A ligature is
not kept apart by it, and an emoji may still be joined to another. -/
def select (look : Look) (follower : Follower) : Context :=
  let kept := follower.inLigature ||
    (look = .emoji && (follower = .joined .joiner || follower = .joined .keycap))
  { follower := if kept then follower else .other, look := some look }

def joinsEmoji (context : Context) : Bool :=
  match context.follower with
  | .joined _ => true
  | _ => false

def look? (context : Context) (char : Char) : Option Advance :=
  match context.look with
  | some .emoji =>
    if takesEmojiLook char then some (if context.joinsEmoji then 0 else 2, .emoji) else none
  | some .text => if takesTextLook char then some (1, .other) else none
  | some .wide => if isCurlyQuote char then some (2, .other) else none
  | none => none

def settled (context : Context) : Follower :=
  if context.look = none ∨ context.follower.inLigature then context.follower else .other

def read (edition : Edition) (char : Char) (context : Context) : Int × Context :=
  match context.look? char with
  | some (columns, follower) => (columns, { follower })
  | none =>
    match Look.ofSelector? edition char with
    | some look => (0, select look context.settled)
    | none =>
      match context.settled.join? edition char with
      | some (columns, follower) => (columns, { follower })
      | none => (charWidth edition char, { follower := .ofChar edition char })

end Context

def measure (edition : Edition) (chars : List Char) : Int × Context :=
  chars.foldr (fun char state =>
    let (columns, context) := state.2.read edition char
    (state.1 + columns, context)) (0, {})

def widthIn (edition : Edition) (chars : List Char) : Nat :=
  (measure edition chars).1.toNat

def displayWidth (chars : List Char) : Nat :=
  widthIn .latest chars

example : displayWidth "a日\r\n".toList = 4 := by decide +kernel

example : displayWidth "👍🏽".toList = 2 := by decide +kernel

example : displayWidth "لا".toList = 1 := by decide +kernel

end PagedTable.Text
