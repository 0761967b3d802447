import BackOfEnvelope.CharacterClasses

/-!
# Ligatures of letters

In some scripts letters that stand side by side are written as one and take the
columns of one.  A line is looked at from its end, so a ligature is known by its
later part, and `LigaturePart.melt?` tells which letter in front completes it.
-/

namespace BackOfEnvelope

inductive LigaturePart where
  /-- The Hebrew lamed, behind an alef and a joiner. -/
  | lamed
  /-- The Buginese ya, behind a vowel sign and a joiner. -/
  | ya
  /-- The Buginese ya with the vowel sign, behind the letter that carries it. -/
  | vowelSignAndYa
  /-- A consonant of Tifinagh, behind another one and a joiner. -/
  | consonant
  | joinedConsonant
  | toneMark
  /-- The Old Turkic i of the Orkhon, behind a letter and a joiner. -/
  | orkhonI
  /-- A Khmer letter that is written below another one. -/
  | subjoined
deriving DecidableEq

/-- Whether a code point is that of a consonant of Tifinagh. -/
def isTifinaghConsonant (code : Nat) : Bool :=
  (decide (0x2D31 ≤ code) && decide (code ≤ 0x2D65)) || code == 0x2D6F

def tifinaghJoiner : Nat := 0x2D7F

/-- The Khmer letters that can be written below another one. -/
def subjoinableRanges : Array (Nat × Nat) := #[
  (0x1780, 0x1782), (0x1784, 0x1787), (0x1789, 0x178C), (0x178E, 0x1793), (0x1795, 0x1798),
  (0x179B, 0x179D), (0x17A0, 0x17A0), (0x17A2, 0x17A2), (0x17A7, 0x17A7), (0x17AB, 0x17AC),
  (0x17AF, 0x17AF)]

/-- The alefs of Arabic, with which a lam before them is written as one. -/
def alefRanges : Array (Nat × Nat) := #[
  (0x622, 0x623), (0x625, 0x625), (0x627, 0x627), (0x671, 0x673), (0x675, 0x675), (0x773, 0x774),
  (0x870, 0x882)]

def lamRanges : Array (Nat × Nat) := #[
  (0x644, 0x644), (0x6B5, 0x6B8), (0x76A, 0x76A), (0x8A6, 0x8A6), (0x8C7, 0x8C7)]

/-- Marks inside a ligature that do not count. -/
def ignorableMarkRanges : Array (Nat × Nat) := #[
  (0x34F, 0x34F), (0x17B4, 0x17B5), (0x180B, 0x180D), (0x180F, 0x180F), (0xFE00, 0xFE0F),
  (0xE0100, 0xE01EF)]

namespace LigaturePart

/-- The later part of a ligature that a letter may be. -/
def ofCharacter? (c : Char) : Option LigaturePart :=
  let code := c.toNat
  if code = 0x5DC then some .lamed
  else if code = 0x1A10 then some .ya
  else if isTifinaghConsonant code then some .consonant
  else if code = 0xA4FC || code = 0xA4FD then some .toneMark
  else if code = 0x10C03 then some .orkhonI
  else if inRanges subjoinableRanges code then some .subjoined
  else none

/-- The columns that a letter adds in front of the later part of a ligature that
it completes, and the ligature that both begin.  The flag tells that a joiner
stands between them. -/
def melt? (part : LigaturePart) (joined : Bool) (c : Char) :
    Option (Int × Option LigaturePart) :=
  let code := c.toNat
  match part with
  | .lamed => if joined && code = 0x5D0 then some (0, none) else none
  | .ya => if joined && code = 0x1A17 then some (0, some .vowelSignAndYa) else none
  | .vowelSignAndYa => if code = 0x1A15 then some (0, none) else none
  | .consonant =>
      if code = tifinaghJoiner then some (1, some .joinedConsonant)
      else if joined && isTifinaghConsonant code then some (0, none)
      else none
  | .joinedConsonant => if isTifinaghConsonant code then some (-1, none) else none
  | .toneMark => if 0xA4F8 ≤ code && code ≤ 0xA4FB then some (0, none) else none
  | .orkhonI => if joined && code = 0x10C32 then some (0, none) else none
  | .subjoined => if code = 0x17D2 then some (-1, none) else none

end LigaturePart

end BackOfEnvelope
