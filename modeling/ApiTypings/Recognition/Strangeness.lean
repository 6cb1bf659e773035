import ApiTypings.Number.Arithmetic
import ApiTypings.Recognition.Ideographs
import ApiTypings.Text.Blank
import ApiTypings.Text.Blocks
import ApiTypings.Text.Printable
import ApiTypings.Text.Scripts
import ApiTypings.Text.Signs

/-!
# How strange a text is

Octets that were read in the wrong encoding betray themselves: there are
characters without a picture, too many signs or accents, letters of unrelated
scripts side by side, words that are none. Each sign has a count of its own, which
goes through the text one character at a time, and the strangeness of a text is the
sum of what the counts amount to.
-/

namespace ApiTypings.Recognition

open Text Number

/-- Marks that data and markup are full of, so that they are no sign of anything. -/
def commonMarks : List Char := "<>=:/&;\x7b\x7d[],|\"-()".toList

/-- A proportion, if it is large enough to matter. -/
def fromOnwards (least : Nat × Nat) (part whole : Nat) : Real64 :=
  if least.1 * whole ≤ part * least.2 then .proportion part whole else .zero false

/-- The count of punctuation and signs, a sign counting twice, among the characters with a picture.
A character that is repeated counts once. -/
structure Marks where
  shown : Nat := 0
  weight : Nat := 0
  last : Option Char := none

/-- How much a character speaks against a text. -/
def markWeight (c : Char) : Nat :=
  if commonMarks.contains c then 0
  else if isPunctuation c then 1
  else if isSign c && !isDigitForm c && !((Block.of? c).any (·.isPictures)) then 2
  else 0

/-- The count after one more character. -/
def Marks.after (marks : Marks) (c : Char) : Marks :=
  if isPrintable c then
    { shown := marks.shown + 1
      weight := marks.weight + if marks.last == some c then 0 else markWeight c
      last := some c }
  else marks

/-- Marks matter from three tenths of the text on. -/
def Marks.strangeness (marks : Marks) : Real64 := fromOnwards (3, 10) marks.weight marks.shown

/-- The count of accented letters among the letters. -/
structure Accents where
  letters : Nat := 0
  accented : Nat := 0

def Accents.after (accents : Accents) (c : Char) : Accents :=
  if isLetter c then
    { letters := accents.letters + 1
      accented := accents.accented + if isAccented c then 1 else 0 }
  else accents

/-- Accents matter in eight letters or more, if seven of twenty have one. -/
def Accents.strangeness (accents : Accents) : Real64 :=
  if 8 ≤ accents.letters then fromOnwards (7, 20) accents.accented accents.letters
  else .zero false

structure Unreadables where
  all : Nat := 0
  unreadable : Nat := 0

def isUnreadable (c : Char) : Bool :=
  !isBlank c && !isPrintable c && c != '\x1a' && c != '\uFEFF'

def Unreadables.after (count : Unreadables) (c : Char) : Unreadables :=
  { all := count.all + 1
    unreadable := count.unreadable + if isUnreadable c then 1 else 0 }

/-- An unreadable character counts eightfold. -/
def Unreadables.strangeness (count : Unreadables) : Real64 :=
  .proportion (count.unreadable * 8) count.all

/-- The count of accented Latin letters that follow one another, among the Latin letters. -/
structure AccentPairs where
  letters : Nat := 0
  pairs : Nat := 0
  last : Option Char := none

/-- How much two accented letters in a row speak against a text: two capitals, and two that are
made from the same letter. -/
def accentPairWeight (a b : Char) : Nat :=
  if isAccented a && isAccented b then
    (if isCapital a && isCapital b then 1 else 0) + if unaccented a == unaccented b then 1 else 0
  else 0

def AccentPairs.after (count : AccentPairs) (c : Char) : AccentPairs :=
  if isLetter c && isLatin c then
    { letters := count.letters + 1
      pairs := count.pairs + (count.last.map (accentPairWeight · c)).getD 0
      last := some c }
  else count

/-- A pair counts twice. -/
def AccentPairs.strangeness (count : AccentPairs) : Real64 :=
  .proportion (count.pairs * 2) count.letters

/-- The count of neighbours that are not to be expected side by side, among the characters with a
picture. Blanks and punctuation keep characters apart. -/
structure Clashes where
  shown : Nat := 0
  clashes : Nat := 0
  last : Option Char := none

def Clashes.after (count : Clashes) (c : Char) : Clashes :=
  if !isPrintable c then count
  else
    let shown := count.shown + 1
    if isBlank c || isPunctuation c || commonMarks.contains c then
      { count with shown, last := none }
    else
      let clashed := (count.last.map (clash · c)).getD false
      { shown, clashes := count.clashes + (if clashed then 1 else 0), last := some c }

/-- A clash counts twice, in a text of more than thirteen characters. -/
def Clashes.strangeness (count : Clashes) : Real64 :=
  if 13 < count.shown then .proportion (count.clashes * 2) count.shown else .zero false

structure Word where
  length : Nat := 0
  capitals : Nat := 0
  accented : Nat := 0
  unspaced : Nat := 0
  last : Option Char := none
  /-- Whether it has a letter that is accented or not Latin, of a script with blanks. -/
  isForeign : Bool := false
  /-- Whether it has a sign within. -/
  isOdd : Bool := false

def Word.withLetter (word : Word) (c : Char) : Word :=
  { word with
    length := word.length + 1
    capitals := word.capitals + if isCapital c then 1 else 0
    accented := word.accented + if isAccented c then 1 else 0
    unspaced := word.unspaced + if isUnspaced c then 1 else 0
    last := some c
    isForeign := word.isForeign || ((!isLatin c || isAccented c) && !isUnspaced c) }

def Word.withSign (word : Word) (c : Char) : Word :=
  { word with
    length := word.length + 1
    capitals := word.capitals + if isCapital c then 1 else 0
    last := some c
    isOdd := true }

/-- A word of four letters or more that ends in an accented capital though it has other letters,
or has a single letter of a script without blanks. Half of its letters being accented is enough
for another reason. -/
def Word.isMixed (word : Word) : Bool :=
  4 ≤ word.length && !(word.length ≤ 2 * word.accented) &&
    ((word.last.any (fun c => isAccented c && isCapital c) && word.capitals != word.length) ||
      word.unspaced == 1)

/-- A foreign word of 24 letters or more, unless some of them are capitals, though not many. -/
def Word.isEndless (word : Word) : Bool :=
  24 ≤ word.length && word.isForeign &&
    !(0 < word.capitals && 10 * word.capitals ≤ 3 * word.length)

def Word.isBad (word : Word) : Bool :=
  word.isOdd || (4 ≤ word.length && word.length ≤ 2 * word.accented) || word.isMixed ||
    word.isEndless

/-- The count of words and of letters in what is no word. -/
structure Words where
  words : Nat := 0
  /-- The number of reasons to call a word foreign. -/
  foreign : Nat := 0
  letters : Nat := 0
  badLetters : Nat := 0
  word : Word := {}

/-- Signs that may stand within a word. -/
def joiningSigns : List Char := ['<', '>', '-', '=', '~', '|', '_']

/-- A character that ends a word. -/
def endsWord (c : Char) : Bool :=
  isBlank c || isPunctuation c || ['｜', '+', '<', '>'].contains c

def Words.after (count : Words) (c : Char) : Words :=
  let word := count.word
  if isLetter c then { count with word := word.withLetter c }
  else if word.length == 0 then count
  else if endsWord c then
    { words := count.words + 1
      foreign := count.foreign + (if word.isMixed then 1 else 0) + if word.isEndless then 1 else 0
      letters := count.letters + word.length
      badLetters := count.badLetters + if word.isBad then word.length else 0
      word := {} }
  else if !joiningSigns.contains c && !isDigitForm c && isSign c then
    { count with word := word.withSign c }
  else count

/-- Bad words matter if there are more than ten words, or foreign ones. -/
def Words.strangeness (count : Words) : Real64 :=
  if count.words ≤ 10 && count.foreign == 0 then .zero false
  else .proportion count.badLetters count.letters

/-- The count of rare ideographs among the ideographs. -/
structure RareIdeographs where
  ideographs : Nat := 0
  rare : Nat := 0

def RareIdeographs.after (count : RareIdeographs) (c : Char) : RareIdeographs :=
  if isIdeograph c then
    { ideographs := count.ideographs + 1
      rare := count.rare + if commonIdeographs.contains c then 0 else 1 }
  else count

/-- Rare ideographs matter a little, if more than half of eight or more are rare. -/
def RareIdeographs.strangeness (count : RareIdeographs) : Real64 :=
  if 8 ≤ count.ideographs && count.ideographs < 2 * count.rare then
    (Real64.proportion count.rare count.ideographs).share 10
  else .zero false

/-- The count of swings between capitals and small letters within a run of such letters. -/
structure Swings where
  all : Nat := 0
  swings : Nat := 0
  /-- The swings of the run that is being read, which count only if it is not too long and not
  all ASCII. -/
  ofRun : Nat := 0
  runLength : Nat := 0
  last : Option Char := none
  /-- Whether the last letter was of another case than the one before it. -/
  turned : Bool := false
  isAscii : Bool := true

/-- The count after one more character. A swing is a turn right after a turn, and counts twice. -/
def Swings.after (count : Swings) (c : Char) : Swings :=
  let isCased := isLetter c && (isSmall c || isCapital c)
  if !isCased && 0 < count.runLength then
    let counts := count.runLength ≤ 64 && !isDigitForm c && !count.isAscii
    { all := count.all + 1
      swings := count.swings + if counts then count.ofRun else 0 }
  else
    let isAscii := count.isAscii && c.toNat < 0x80
    let turns := count.last.any fun last =>
      (isCapital c && isSmall last) || (isSmall c && isCapital last)
    let swings := turns && count.turned
    { count with
      all := count.all + 1
      ofRun := count.ofRun + if swings then 2 else 0
      runLength := count.runLength + 1
      last := some c
      turned := if count.last.isSome then turns && !count.turned else count.turned
      isAscii }

/-- Swings matter as they are. -/
def Swings.strangeness (count : Swings) : Real64 := .proportion count.swings count.all

/-- The count of Arabic letters in the form they have by themselves, among the Arabic ones. -/
structure IsolatedForms where
  arabic : Nat := 0
  isolated : Nat := 0

def IsolatedForms.after (count : IsolatedForms) (c : Char) : IsolatedForms :=
  if isArabic c then
    { arabic := count.arabic + 1
      isolated := count.isolated + if isIsolated c then 1 else 0 }
  else count

/-- Isolated forms matter among eight Arabic letters or more. -/
def IsolatedForms.strangeness (count : IsolatedForms) : Real64 :=
  if 8 ≤ count.arabic then .proportion count.isolated count.arabic else .zero false

structure Impression where
  marks : Marks := {}
  accents : Accents := {}
  unreadables : Unreadables := {}
  accentPairs : AccentPairs := {}
  clashes : Clashes := {}
  words : Words := {}
  rareIdeographs : RareIdeographs := {}
  swings : Swings := {}
  isolatedForms : IsolatedForms := {}

namespace Impression

def after (impression : Impression) (c : Char) : Impression :=
  { marks := impression.marks.after c
    accents := impression.accents.after c
    unreadables := impression.unreadables.after c
    accentPairs := impression.accentPairs.after c
    clashes := impression.clashes.after c
    words := impression.words.after c
    rareIdeographs := impression.rareIdeographs.after c
    swings := impression.swings.after c
    isolatedForms := impression.isolatedForms.after c }

def strangeness (impression : Impression) : Real64 :=
  .sum [impression.marks.strangeness, impression.accents.strangeness,
    impression.unreadables.strangeness, impression.accentPairs.strangeness,
    impression.clashes.strangeness, impression.words.strangeness,
    impression.rareIdeographs.strangeness, impression.swings.strangeness,
    impression.isolatedForms.strangeness]

end Impression

/-- The strangeness from which on a text is not taken for one. -/
def tooStrange : Real64 := .nearest 1 5

/-- How many characters are read before the impression is looked at, in a text of some length. -/
def interval (length : Nat) : Nat := if length < 512 then 32 else if length ≤ 1024 then 64 else 128

/-- The strangeness after the rest of a text. It is settled early when an impression is looked at
that is too strange. -/
def strangenessAfter (interval : Nat) : Impression → (read : Nat) → List Char → Real64
  | impression, _, [] => impression.strangeness
  | impression, read, c :: rest =>
    let impression := impression.after c
    if 0 < read && read % interval == 0 && !impression.strangeness.less tooStrange then
      impression.strangeness
    else strangenessAfter interval impression (read + 1) rest

/-- How strange a text is, to three decimal places. A line feed ends the last word. -/
def strangeness (text : List Char) : Real64 :=
  let ended := text ++ ['\n']
  (strangenessAfter (interval ended.length) {} 0 ended).rounded 3

end ApiTypings.Recognition
