import ApiTypings.Encoding.Charset
import ApiTypings.Number.Arithmetic
import ApiTypings.Recognition.Alphabets
import ApiTypings.Text.Blocks
import ApiTypings.Text.Lowercase
import ApiTypings.Text.Scripts

/-!
# How close a text is to a language

In every language some letters are frequent and others rare. The letters of a text
are put in the order of their frequency, and the more of them stand where the
alphabet of a language has them, the closer the text is to the language. Letters of
scripts that do not go together are looked at apart.
-/

namespace ApiTypings.Recognition

open Text Number Encoding

/-- How close a text is to a language in a way of writing. -/
structure Affinity where
  language : String
  variant : Nat
  closeness : Real64
deriving Repr

def closestFirst (affinities : List Affinity) : List Affinity :=
  affinities.mergeSort fun a b => !a.closeness.less b.closeness

/-- The letters of one script or several that go together, the last one first. -/
structure Layer where
  block : Block
  letters : List Char

/-- Puts small letters into the first layer that they go together with. -/
def putLetters (block : Block) (letters : List Char) : List Layer → List Layer
  | [] => [⟨block, letters⟩]
  | layer :: rest =>
    if layer.block.clashes block then layer :: putLetters block letters rest
    else { layer with letters := letters ++ layer.letters } :: rest

def layersOf (text : List Char) : List Layer :=
  text.foldl (fun layers c =>
    if isLetter c then
      match Block.of? c with
      | some block => putLetters block (lowered c).reverse layers
      | none => layers
    else layers) []

def countLetter (c : Char) : List (Char × Nat) → List (Char × Nat)
  | [] => [(c, 1)]
  | (letter, count) :: rest =>
    if letter == c then (letter, count + 1) :: rest else (letter, count) :: countLetter c rest

def byFrequency (letters : List Char) : List Char :=
  ((letters.foldl (fun counts c => countLetter c counts) []).mergeSort fun a b =>
    b.2 ≤ a.2).map (·.1)

def shared (xs ys : List Char) : Nat := xs.countP ys.contains

/-- Whether a letter of some rank is in its place in an alphabet: not far from where it is in the
alphabet, and with enough of the same letters before or after it. In a large alphabet not being
far is enough. -/
def isInPlace (alphabet frequent : List Char) (rank : Nat) (c : Char) : Bool :=
  match alphabet.idxOf? c with
  | none => false
  | some place =>
    let size := alphabet.length
    let expected := ((Real64.proportion size frequent.length).times rank).wholePart
    let distance := (expected - place) + (place - expected)
    if size ≤ 26 && 4 < distance then false
    else if 26 < size && 3 * distance < size then true
    else
      let before := shared (frequent.take rank) (alphabet.take place)
      let after := shared (frequent.drop rank) (alphabet.drop place)
      place == 0 || 4 * place ≤ 10 * before || 4 * (size - place) ≤ 10 * after

/-- How many letters of a text are in their place in an alphabet. -/
def inPlace (alphabet frequent : List Char) : Nat :=
  frequent.zipIdx.countP fun (c, rank) => isInPlace alphabet frequent rank c

namespace Alphabet

def hasAccents (alphabet : Alphabet) : Bool := alphabet.letters.any isAccented

def isLatin (alphabet : Alphabet) : Bool := alphabet.letters.all Text.isLatin

end Alphabet

/-- The alphabets of which at least a fifth is in a text, those with the greatest part first. A text
with accents is in no language without any. -/
def alphabetsWithin (frequent : List Char) (latinOnly : Bool) : List Alphabet :=
  let accented := frequent.any isAccented
  let parts := alphabets.filterMap fun alphabet =>
    if (latinOnly && !alphabet.isLatin) || (accented && !alphabet.hasAccents) then none
    else
      let found := shared alphabet.letters frequent
      let size := alphabet.letters.length
      if size ≤ 5 * found then some (alphabet, found, size) else none
  (parts.mergeSort fun (_, found, size) (_, found', size') =>
    found' * size ≤ found * size').map (·.1)

inductive Languages
  /-- All with Latin letters only. -/
  | latin
  | among (alphabets : List Alphabet)
  | any

/-- The alphabets that come into question for the letters of a text. -/
def Languages.alphabets (languages : Languages) (frequent : List Char) : List Alphabet :=
  match languages with
  | .latin => alphabetsWithin frequent true
  | .among [] | .any => alphabetsWithin frequent false
  | .among alphabets => alphabets

/-- How close letters are to alphabets in turn, leaving out those they are far from. Three that are
very close are enough. -/
def affinitiesTo (frequent : List Char) : (close : Nat) → List Alphabet → Nat × List Affinity
  | close, [] => (close, [])
  | close, alphabet :: rest =>
    let found := inPlace alphabet.letters frequent
    let size := frequent.length
    if 10 * found < size then affinitiesTo frequent close rest
    else
      let close := if 8 * size ≤ 10 * found then close + 1 else close
      let affinity : Affinity :=
        ⟨alphabet.language, alphabet.variant, (Real64.proportion found size).rounded 4⟩
      if 3 ≤ close then (close, [affinity])
      else
        let (close, affinities) := affinitiesTo frequent close rest
        (close, affinity :: affinities)

/-- How close the letters of layers are to languages. Up to 32 letters say nothing. -/
def affinitiesOf (languages : Languages) : (close : Nat) → List Layer → List Affinity
  | _, [] => []
  | close, layer :: rest =>
    if layer.letters.length ≤ 32 then affinitiesOf languages close rest
    else
      let frequent := byFrequency layer.letters.reverse
      let (close, affinities) := affinitiesTo frequent close (languages.alphabets frequent)
      affinities ++ affinitiesOf languages close rest

/-- The greatest closeness of a language among affinities. -/
def greatest (closenesses : List Real64) : Real64 :=
  closenesses.foldl (fun best x => if best.less x then x else best) (.zero false)

/-- Affinities with one for each language, in the order of the languages. They stay as they are if
there is one for each already. -/
def perLanguage (affinities : List Affinity) : List Affinity :=
  let languages := (affinities.map (·.language)).eraseDups
  if languages.length == affinities.length then affinities
  else languages.map fun language =>
    ⟨language, 0, greatest ((affinities.filter (·.language == language)).map (·.closeness))⟩

def affinities (languages : Languages) (text : List Char) : List Affinity :=
  closestFirst (perLanguage (affinitiesOf languages 0 (layersOf text)))

/-- The affinities of a text from those of its pieces, each being the mean over the pieces that have
it. -/
def joinAffinities (pieces : List (List Affinity)) : List Affinity :=
  let all := pieces.flatten
  let keys := (all.map fun a => (a.language, a.variant)).eraseDups
  closestFirst (keys.map fun (language, variant) =>
    let same := all.filter fun a => a.language == language && a.variant == variant
    ⟨language, variant, (Real64.mean (same.map (·.closeness))).rounded 4⟩)

/-- The blocks of the characters of a page that belong to a script, from octet 64 to octet 254. -/
def scriptBlocks (page : Page) : List Block :=
  (List.range' 0x40 0xBF).filterMap fun octet =>
    ((page.at? octet).bind Block.of?).filter (!·.isSecondary)

/-- The languages of a page: those that are written in the script of three twentieths of its
characters or more, if it is not Latin. Of several such scripts the first by name counts. -/
def pageLanguages (page : Page) : Languages :=
  let blocks := scriptBlocks page
  let names := (blocks.map (·.name)).eraseDups.filter fun name =>
    3 * blocks.length ≤ 20 * (blocks.countP (·.name == name))
  let foreign := names.filter fun name => !hasWithin name "Latin"
  match foreign.mergeSort fun a b => !decide (b < a) with
  | [] => .latin
  | name :: _ => .among (alphabets.filter fun alphabet =>
      alphabet.letters.any fun c => (Block.of? c).any (·.name == name))

/-- The East Asian languages, each with the encodings that are made for it. -/
def eastAsian : List (String × List String) := [
  ("Japanese", ["cp932", "euc_jis_2004", "euc_jisx0213", "euc_jp", "iso2022_jp", "iso2022_jp_1",
    "iso2022_jp_2", "iso2022_jp_2004", "iso2022_jp_3", "iso2022_jp_ext", "shift_jis",
    "shift_jis_2004", "shift_jisx0213"]),
  ("Chinese", ["big5", "big5hkscs", "cp950", "gb18030", "gb2312", "gbk", "hz"]),
  ("Korean", ["cp949", "euc_kr", "iso2022_kr", "johab"])]

def languagesOf (charset : Charset) : Languages :=
  match charset.page? with
  | some page => pageLanguages page
  | none =>
    match eastAsian.find? (·.2.contains charset.name) with
    | some (language, _) =>
      .among (alphabets.filter fun alphabet =>
        alphabet.language == language && alphabet.variant == 0)
    | none => .any

end ApiTypings.Recognition
