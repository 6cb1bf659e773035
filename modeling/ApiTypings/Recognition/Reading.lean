import ApiTypings.Encoding.Names
import ApiTypings.Recognition.Affinity
import ApiTypings.Recognition.Announcement
import ApiTypings.Recognition.Strangeness

/-!
# The likeliest reading of octets

Octets whose encoding is not known are read in all encodings. Readings that are too
strange are dropped, and with them the pages that agree with theirs on most octets.
The others are ranked: by how strange they are, or, if they are alike in that, by
how close they are to a language. The encodings that are announced and the plainest
ones come first, and settle the matter if they are good enough.
-/

namespace ApiTypings.Recognition

open Text Number Encoding

structure Reading where
  text : List Char
  strangeness : Real64
  /-- How close it is to the closest language. -/
  closeness : Real64

/-- Whether a reading is better than another one. Where their strangeness is about the same, the one
that is clearly closer to a language is better, and if neither is, the shorter one. -/
def Reading.isBetter (a b : Reading) : Bool :=
  let alike := (a.strangeness.distance b.strangeness).less (.nearest 1 100)
  let apart := Real64.less (.nearest 1 50) (a.closeness.distance b.closeness)
  if alike && apart then b.closeness.less a.closeness
  else if alike then decide (a.text.length < b.text.length)
  else a.strangeness.less b.strangeness

/-- The place for a reading between `low` and `high`, found by halving. -/
def placeBetween (reading : Reading) (ranked : Array Reading) (low high : Nat) : Nat :=
  if low < high then
    let middle := low + (high - low) / 2
    if (ranked[middle]?).any reading.isBetter then placeBetween reading ranked low middle
    else placeBetween reading ranked (middle + 1) high
  else low
termination_by high - low

/-- Ever wider strides from the front as long as a reading is not better than what stands there: the
last place that was passed, and the first one that was not. -/
def stride (reading : Reading) (ranked : Array Reading) : (fuel passed next : Nat) → Nat × Nat
  | 0, passed, next => (passed, min next ranked.size)
  | fuel + 1, passed, next =>
    if ranked.size ≤ next then (passed, ranked.size)
    else if (ranked[next]?).any reading.isBetter then (passed, next)
    else stride reading ranked fuel next (2 * next + 1)

/-- The place for a reading among many: strides from the front say where to look for it. -/
def placeAmongMany (reading : Reading) (ranked : Array Reading) : Nat :=
  if (ranked[0]?).any reading.isBetter then 0
  else
    let (passed, next) := stride reading ranked ranked.size 0 1
    placeBetween reading ranked (passed + 1) next

/-- The place for a reading: behind all others if it is not better than the last one. As being
better does not carry over from one pair of readings to the next, the way to look for the place
matters; it is another one when there are many. -/
def placeFor (reading : Reading) (ranked : Array Reading) : Nat :=
  if !((ranked.back?).any reading.isBetter) then ranked.size
  else if ranked.size < 63 then placeBetween reading ranked 0 ranked.size
  else placeAmongMany reading ranked

/-- Ranked readings with one more. A reading that is there already is not added. -/
def rank (reading : Reading) (ranked : Array Reading) : Array Reading :=
  if ranked.any fun other =>
      other.text == reading.text && other.strangeness == reading.strangeness then ranked
  else ranked.insertIdxIfInBounds (placeFor reading ranked) reading

def occurs (part : List Char) : List Char → Bool
  | [] => part.isEmpty
  | text@(_ :: rest) => part.isPrefixOf text || occurs part rest

/-- The number of octets of a piece. -/
def pieceSize : Nat := 512

/-- Where the pieces of octets begin. Up to five pieces' worth of octets are a single piece. -/
def pieceStarts (first count : Nat) : List Nat :=
  let apart := if count ≤ 5 * pieceSize then count else count / 5
  if apart == 0 then [] else (List.range' first ((count - first + apart - 1) / apart) apart)

/-- The piece of octets from some place on, as text. If its beginning is not in the text of all
octets, up to three octets before it are tried. -/
def alignedPiece (charset : Charset) (octets : List Nat) (text : List Char) (start size : Nat) :
    List Char :=
  let from_ (back : Nat) : List Char :=
    charset.skim ((octets.drop (start - back)).take (size + back))
  let fits (piece : List Char) : Bool := occurs (piece.take (min size 16)) text
  if start == 0 || text.isEmpty then from_ 0
  else ([0, 1, 2, 3].map from_).find? fits |>.getD (from_ 3)

/-- The pieces of octets by which their text is judged. On a page the text can be cut; otherwise the
octets are. -/
def pieces (charset : Charset) (octets : List Nat) (first : Nat) (text : List Char) :
    List (List Char) :=
  let count := octets.length
  let size := if count ≤ 5 * pieceSize then count else pieceSize
  let starts := pieceStarts first count
  match charset.page? with
  | some _ =>
    (starts.map fun start => (text.drop start).take size).takeWhile (!·.isEmpty)
  | none =>
    (starts.filter fun start => start + size ≤ count + 8).map fun start =>
      alignedPiece charset octets text start size

/-- What is found out about the strangeness of pieces: whether they are too strange as a whole, and
their mean. -/
structure Verdict where
  isTooStrange : Bool
  mean : Real64

/-- The verdict on pieces. They are too strange if two of them and a quarter of them are, or if they
are in the mean. -/
def verdict (pieces : List (List Char)) (starts : Nat) : Verdict :=
  let found := pieces.map strangeness
  let strange := found.countP fun x => !x.less tooStrange
  let mean := Real64.mean found
  ⟨max (starts / 4) 2 ≤ strange || !mean.less tooStrange, mean⟩

/-- What is known after some encodings have been tried. -/
structure Search where
  ranked : Array Reading := #[]
  /-- The pages that were too strange. -/
  dropped : List Page := []
  /-- Readings by announced and plain encodings that are good, though not perfect. -/
  early : Array Reading := #[]
  /-- Readings that were too strange, for want of others: by the announced encoding, by one of
  Unicode, and by ASCII. -/
  ofAnnounced : Option (List Char) := none
  ofUnicode : Option (List Char) := none
  ofAscii : Option (List Char) := none

/-- An encoding to try: its name, and the mark that goes with it. -/
structure Trial where
  name : String
  charset : Charset
  mark : Option Mark

def Trial.markLength (trial : Trial) : Nat := (trial.mark.map (·.octets.length)).getD 0

/-- A text with what the mark leaves in it. -/
def Trial.withTrace (trial : Trial) (text : List Char) : List Char :=
  (trial.mark.map (·.trace)).getD [] ++ text

/-- Whether two pages agree on four fifths of the octets. -/
def isSimilar (a b : Page) : Bool := 204 ≤ a.agreement b

/-- Only a page with other names can be dropped for being similar to one, or let one be dropped. -/
def namedPage? (charset : Charset) : Option Page :=
  charset.page?.filter fun _ => (usualName? charset.name).isSome

/-- Keeps a reading that is too strange. -/
def Search.drop (search : Search) (announced : Option String) (trial : Trial) (text : List Char) :
    Search :=
  let search := { search with dropped := (namedPage? trial.charset).toList ++ search.dropped }
  if announced == some trial.name then { search with ofAnnounced := some text }
  else if trial.name == "ascii" then { search with ofAscii := some text }
  else if ["utf_8", "utf_16", "utf_32"].contains trial.name then
    { search with ofUnicode := some text }
  else search

inductive Outcome
  | settled (text : List Char)
  | undecided (search : Search)

/-- Tries an encoding. A reading by an announced or a plain encoding settles the matter if it is not
strange at all, and the one that goes with a mark always does. -/
def Search.attempt (search : Search) (octets : List Nat) (announced : Option String)
    (trial : Trial) : Outcome :=
  match trial.charset.read? (octets.drop trial.markLength) with
  | none => .undecided search
  | some text =>
    let isKnown := (namedPage? trial.charset).any fun page => search.dropped.any (isSimilar page)
    if isKnown then .undecided search
    else
      let parts := pieces trial.charset octets trial.markLength text
      let found := verdict parts (pieceStarts trial.markLength octets.length).length
      if found.isTooStrange then .undecided (search.drop announced trial (trial.withTrace text))
      else if trial.mark.isSome then .settled (trial.withTrace text)
      else
        let isPlain := announced == some trial.name || ["ascii", "utf_8"].contains trial.name
        if isPlain && found.mean.isZero then .settled text
        else
          let affinities :=
            if trial.name == "ascii" then []
            else joinAffinities (parts.map (affinities (languagesOf trial.charset)))
          let closeness := (affinities.head?.map (·.closeness)).getD (.zero false)
          let reading : Reading := ⟨text, found.mean, closeness⟩
          let isGood := isPlain && found.mean.less (.nearest 1 10)
          .undecided { search with
            ranked := rank reading search.ranked
            early := if isGood then rank reading search.early else search.early }

/-- Tries encodings one after the other. As soon as all announced and plain ones have been tried,
the best of their readings is taken, if there is a good one. If all readings are too strange, one
of those that were kept is taken. -/
def Search.run (octets : List Nat) (announced : Option String) :
    (search : Search) → (untried : List String) → List Trial → Option (List Char)
  | search, _, [] =>
    (search.ranked[0]?).map (·.text) <|>
      search.ofAnnounced <|> search.ofUnicode <|> search.ofAscii
  | search, untried, trial :: rest =>
    let untried := untried.filter (· != trial.name)
    match search.attempt octets announced trial with
    | .settled text => some text
    | .undecided search =>
      match search.early[0]?, untried with
      | some best, [] => some best.text
      | _, _ => run octets announced search untried rest

/-- The encodings to try, in order: the announced one, the one of a mark, ASCII, UTF-8, and all by
name. -/
def trials (announced : Option String) (mark : Option Mark) : List Trial :=
  let names := announced.toList ++ (mark.map (·.name)).toList ++ ["ascii", "utf_8"] ++
    Charset.all.map (·.name)
  names.eraseDups.filterMap fun name =>
    match mark.filter (·.name == name) with
    | some mark => some ⟨name, mark.charset, some mark⟩
    | none => (Charset.named? name).map (⟨name, ·, none⟩)

/-- The likeliest text of octets; none if they are no text in any encoding. -/
def likeliest? (octets : List Nat) : Option (List Char) :=
  let announced := announced? octets
  let mark := mark? octets
  let trials := trials announced mark
  let untried := (announced.toList ++ ["ascii", "utf_8"]).filter fun name =>
    trials.any (·.name == name)
  if octets.isEmpty then some []
  else Search.run octets announced {} untried trials

end ApiTypings.Recognition
