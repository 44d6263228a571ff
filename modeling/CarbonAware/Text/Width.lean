import CarbonAware.Text.DoubleWidth
import CarbonAware.Text.Emoji
import CarbonAware.Text.ZeroWidth

/-!
# Display width

How many columns of a terminal a line of text takes.  By itself a character takes `charWidth` columns.  Some sequences
share columns: pictures that a joiner, a skin tone or a selector makes into one, and the ligatures of some scripts.
So a line is measured from its end (`displayWidth`): what follows a character (`Rest`) decides how many columns it
adds, which may be fewer than none (`addedBefore`).
-/

namespace CarbonAware.Text

/-- The columns that a character takes by itself. -/
def charWidth (c : Char) : Nat :=
  if c ≤ '\xA0' then 1
  else if c = '\u17D8' then 3
  else if zeroWidth.contains c then 0
  else if doubleWidth.contains c then 2
  else 1

/-- Whether the code point of a character lies between two others, both included. -/
def isBetween (first last : Nat) (c : Char) : Bool := first ≤ c.toNat && c.toNat ≤ last

/-- The character that makes one sign of those on either side of it. -/
def joiner : Char := '\u200D'

/-- The mark that draws the character before it as a key of a keyboard. -/
def keycap : Char := '\u20E3'

/-- One of the letters of which two make a flag. -/
def isRegionalLetter (c : Char) : Bool := isBetween 0x1F1E6 0x1F1FF c

/-- The colour of a skin. -/
def isSkinTone (c : Char) : Bool := isBetween 0x1F3FB 0x1F3FF c

/-- The black flag, which tags after it make the flag of a region. -/
def isBlackFlag (c : Char) : Bool := c.toNat == 0x1F3F4

def isTagLetter (c : Char) : Bool := isBetween 0xE0061 0xE007A c

def isTagDigit (c : Char) : Bool := isBetween 0xE0030 0xE0039 c

def isTagEnd (c : Char) : Bool := c.toNat == 0xE007F

/-- A picture by itself that a selector may turn into a narrow sign; squared ideographs stay wide. -/
def isNarrowable (c : Char) : Bool := selectable.contains c && pictographs.contains c && !isBetween 0x1F200 0x1F2FF c

/-- A quotation mark that may be as wide as an ideograph. -/
def isQuotationMark (c : Char) : Bool := c == '\u2018' || c == '\u2019' || c == '\u201C' || c == '\u201D'

/-- Whether ligatures go across the character: the joiner, and the marks that may be left out. -/
def isTransparent (c : Char) : Bool :=
  c == '\u034F' || isBetween 0x17B4 0x17B5 c || isBetween 0x180B 0x180D c || c == '\u180F' || c == joiner ||
    isBetween 0xFE00 0xFE0F c || isBetween 0xE0100 0xE01EF c

/-- Whether Arabic letters join across the character. -/
def isArabicTransparent (c : Char) : Bool := zeroWidth.contains c && !zeroWidthDividers.contains c

/-- The letters that are written as an alef, with or without marks. -/
def isAlef (c : Char) : Bool :=
  isBetween 0x622 0x623 c || c == '\u0625' || c == '\u0627' || isBetween 0x671 0x673 c || c == '\u0675' ||
    isBetween 0x773 0x774 c || isBetween 0x870 0x882 c

/-- The letters that are written as a lam, with or without marks. -/
def isLam (c : Char) : Bool :=
  c == '\u0644' || isBetween 0x6B5 0x6B8 c || c == '\u076A' || c == '\u08A6' || c == '\u08C7'

/-- The Khmer letters that the sign before them makes subscript. -/
def isKhmerSubscript (c : Char) : Bool :=
  isBetween 0x1780 0x1782 c || isBetween 0x1784 0x1787 c || isBetween 0x1789 0x178C c || isBetween 0x178E 0x1793 c ||
    isBetween 0x1795 0x1798 c || isBetween 0x179B 0x179D c || c == '\u17A0' || c == '\u17A2' || c == '\u17A7' ||
    isBetween 0x17AB 0x17AC c || c == '\u17AF'

def isTifinaghConsonant (c : Char) : Bool := isBetween 0x2D31 0x2D65 c || c == '\u2D6F'

/-- What characters before it may share columns with, in the scripts whose ligatures go across transparent marks. -/
inductive Ligature where
  /-- The Hebrew letter lamed, which joins an alef. -/
  | lamed
  /-- The Buginese letter ya, which joins a vowel sign on a letter. -/
  | ya
  /-- The vowel sign and the letter ya. -/
  | vowelYa
  /-- A Tifinagh consonant, which joins another one. -/
  | consonant
  /-- The Tifinagh sign that joins consonants, and a consonant. -/
  | joinedConsonant
  /-- The second Lisu tone letter of a pair. -/
  | tone
  /-- The Old Turkic letter i. -/
  | orkhonI
  | khmerSubscript
deriving DecidableEq, Repr

/-- What a text starts with, as far as the columns of a character before it depend on that. -/
inductive Start where
  | other
  /-- An Arabic alef, which a lam before it joins. -/
  | alef
  /-- A part of a ligature, and whether a joiner stands before it. -/
  | ligature (part : Ligature) (isJoined : Bool)
  /-- The Kirat Rai vowel sign e. -/
  | vowelE
  /-- The Kirat Rai vowel sign ai, in one character or two. -/
  | vowelAi
  /-- A picture. -/
  | picture
  | skinTone
  /-- Regional letters, of which only a single one cannot be joined to pictures. -/
  | regional (isSingle : Bool)
  /-- A joiner and a picture. -/
  | joinedPicture
  /-- The mark of a key before a joiner and a picture. -/
  | joinedKeycap
  /-- A number of regional letters before a joiner and a picture. -/
  | joinedRegional (count : Nat)
  /-- The end of tags, with as many letters and digits before it, before a joiner and a picture. -/
  | joinedTags (letters digits : Nat)
deriving DecidableEq, Repr

namespace Start

/-- What a text starts with whose first character is `c`, whatever comes after it. -/
def ofChar (c : Char) : Start :=
  if isAlef c then alef
  else if c = '\u05DC' then ligature .lamed false
  else if isKhmerSubscript c then ligature .khmerSubscript false
  else if c = '\u1A10' then ligature .ya false
  else if isTifinaghConsonant c then ligature .consonant false
  else if isBetween 0xA4FC 0xA4FD c then ligature .tone false
  else if c.toNat = 0x10C03 then ligature .orkhonI false
  else if c.toNat = 0x16D67 then vowelE
  else if c.toNat = 0x16D68 then vowelAi
  else if isRegionalLetter c then regional true
  else if isSkinTone c then skinTone
  else if pictographs.contains c then picture
  else other

/-- Whether a selector before it leaves the ligatures as they are. -/
def isLigature : Start → Bool
  | alef | ligature .. => true
  | _ => false

/-- Whether the text starts with what a picture before it is joined to. -/
def isJoinedPicture : Start → Bool
  | joinedPicture | joinedKeycap => true
  | _ => false

end Start

/-- A character that selects how the one before it is drawn. -/
inductive Selector where
  /-- As a letter. -/
  | text
  /-- As a picture. -/
  | picture
  /-- As wide as an ideograph. -/
  | wide
deriving DecidableEq, Repr

/-- The selector that a character is. -/
def Selector.ofChar? (c : Char) : Option Selector :=
  if c = '\uFE0E' then some text else if c = '\uFE0F' then some picture else if c = '\uFE01' then some wide else none

/-- What follows a character: perhaps a selector, and then the start of a text. -/
structure Rest where
  selector : Option Selector
  start : Start
deriving DecidableEq, Repr

namespace Rest

/-- What follows the last character. -/
def nothing : Rest := ⟨none, .other⟩

/-- What follows, with a selector before it.  Only ligatures, and pictures before a picture, are kept across it. -/
def select (rest : Rest) (selector : Selector) : Rest :=
  let isKept := rest.start.isLigature || (selector = .picture && rest.start.isJoinedPicture)
  ⟨some selector, if isKept then rest.start else .other⟩

/-- What follows a character that the selector does not apply to. -/
def unselected (rest : Rest) : Rest := ⟨none, if rest.start.isLigature then rest.start else .other⟩

end Rest

/-- The columns that a part of a ligature adds before the other part, and what the text then starts with. -/
def ligatureBefore? (c : Char) : Ligature → Bool → Option (Int × Start)
  | .lamed, true => if c = '\u05D0' then some (0, .other) else none
  | .ya, true => if c = '\u1A17' then some (0, .ligature .vowelYa true) else none
  | .vowelYa, _ => if c = '\u1A15' then some (0, .other) else none
  | .consonant, isJoined =>
    if c = '\u2D7F' then some (1, .ligature .joinedConsonant true)
    else if isJoined && isTifinaghConsonant c then some (0, .other)
    else none
  | .joinedConsonant, _ => if isTifinaghConsonant c then some (-1, .other) else none
  | .tone, _ => if isBetween 0xA4F8 0xA4FB c then some (0, .other) else none
  | .orkhonI, true => if c.toNat = 0x10C32 then some (0, .other) else none
  | .khmerSubscript, _ => if c = '\u17D2' then some (-1, .other) else none
  | _, false => none

/-- The columns that a character adds before pictures and a joiner, and what the text then starts with. -/
def pictureBefore? (c : Char) : Start → Option (Int × Start)
  | .skinTone =>
    if toneBases.contains c then some (0, .picture) else if c = joiner then some (0, .joinedPicture) else none
  | .picture => if c = joiner then some (0, .joinedPicture) else none
  | .regional isSingle =>
    if isRegionalLetter c then some (1, .regional false)
    else if c = joiner ∧ !isSingle then some (0, .joinedPicture)
    else none
  | .joinedPicture =>
    if c = keycap then some (0, .joinedKeycap)
    else if isRegionalLetter c then some (1, .joinedRegional 1)
    else if isSkinTone c then some (0, .skinTone)
    else if isTagEnd c then some (0, .joinedTags 0 0)
    else if pictographs.contains c then some (0, .picture)
    else none
  | .joinedRegional count =>
    if isRegionalLetter c then some (if count % 2 = 1 then -1 else 3, .joinedRegional (count + 1))
    else if c = joiner ∧ 1 < count then some (0, .joinedPicture)
    else none
  | .joinedTags letters digits =>
    if isTagLetter c ∧ digits = 0 ∧ letters < 6 then some (0, .joinedTags (letters + 1) 0)
    else if isTagDigit c ∧ digits < 3 ∧ letters < 5 then some (0, .joinedTags letters (digits + 1))
    else if isBlackFlag c ∧ (digits = 3 ∨ (digits = 0 ∧ 3 ≤ letters)) then some (0, .picture)
    else none
  | _ => none

/-- The columns that a character adds before a vowel sign of Kirat Rai, and what the text then starts with. -/
def vowelBefore? (c : Char) : Start → Option (Int × Start)
  | .vowelE =>
    if c.toNat = 0x16D63 ∨ c.toNat = 0x16D69 then some (0, .other)
    else if c.toNat = 0x16D67 then some (0, .vowelAi)
    else if c.toNat = 0x16D68 then some (1, .vowelE)
    else none
  | .vowelAi => if c.toNat = 0x16D63 then some (0, .other) else none
  | _ => none

/-- The columns that a character adds before the start of a text, and what the text then starts with. -/
def sharedBefore? (c : Char) (start : Start) : Option (Int × Start) :=
  match start with
  | .alef =>
    if isLam c then some (0, .other) else if isArabicTransparent c then some (0, .alef) else none
  | .ligature part isJoined =>
    if isTransparent c then some (0, .ligature part (isJoined || c = joiner)) else ligatureBefore? c part isJoined
  | .vowelE | .vowelAi => vowelBefore? c start
  | _ => pictureBefore? c start

/-- The columns that a character adds before a text, and what the text then starts with. -/
def addedBefore (c : Char) (rest : Rest) : Int × Rest :=
  if rest.selector = some .picture ∧ selectable.contains c then
    (if rest.start.isJoinedPicture then 0 else 2, ⟨none, .picture⟩)
  else if c ≤ '\xA0' then (1, .nothing)
  else
    let rest := if rest.selector = some .picture then rest.unselected else rest
    match Selector.ofChar? c with
    | some selector => (0, rest.select selector)
    | none =>
      if rest.selector = some .text ∧ isNarrowable c then (1, .nothing)
      else if rest.selector = some .wide ∧ isQuotationMark c then (2, .nothing)
      else
        let (columns, start) := (sharedBefore? c rest.start).getD (charWidth c, .ofChar c)
        (columns, ⟨none, start⟩)

/-- The columns that a line of text takes. -/
def displayWidth (text : String) : Nat :=
  (text.toList.foldr (fun c (columns, rest) => let (added, rest) := addedBefore c rest; (columns + added, rest))
    ((0 : Int), Rest.nothing)).1.toNat

end CarbonAware.Text
