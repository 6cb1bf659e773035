import ApiTypings.Files.World
import ApiTypings.Json.Order
import ApiTypings.Json.Reader
import ApiTypings.Text.Encoding
import ApiTypings.Web.Url

/-!
# Loading documents

A document is read from a file or asked for over the network. The network is
given by what it does with the one request: it answers or it fails. Failures
that are foreseen are noted in the log.

Values may be nested to any depth: no reader runs out of room for them.
-/

namespace ApiTypings

open Text

/-- Reads JSON from a text; an integer that is too long is a fault of its own. -/
def parseDocument (text : String) : Except (Json.Mistake ⊕ Fault) Json :=
  match Json.parse text with
  | .ok document => .ok document
  | .error (.malformed problem unread) => .error (.inl (.malformed problem unread))
  | .error (.integerTooLong _) => .error (.inr .illValued)

/-- The text of a file: UTF-8, with every line end as a line feed. -/
def textOfFile (content : ByteArray) : Except Fault String :=
  match ofOctets? content with
  | some text => .ok (String.ofList (unifyLineEnds text.toList))
  | none => .error .notText

def FileFault.words : FileFault → String
  | .alreadyExists => "[Errno 17] File exists"
  | .missing => "[Errno 2] No such file or directory"
  | .notDirectory => "[Errno 20] Not a directory"
  | .isDirectory => "[Errno 21] Is a directory"
  | .nameTooLong => "[Errno 36] File name too long"
  | .illegalName => "embedded null byte"
  | .busy => "[Errno 16] Device or resource busy"

def failLoading {α : Type} (record : String) (e : LoadError) : Action α := do
  report .error record
  throw (.load e)

def loadFile (path : Path) : Action Json := do
  let shown := path.toString
  report .debug ("Loading schema from file: " ++ shown)
  let w ← get
  let names := w.trail path
  if !(← ofFileSystem (w.tree.present names)) then
    failLoading ("File not found: " ++ shown) (.noFile shown)
  else match w.tree.readFile names with
    | .error fault =>
      let e := LoadError.unreadableFile shown (fault.words ++ ": " ++ Json.literalText shown)
      failLoading e.message e
    | .ok content =>
      match textOfFile content with
      | .error fault => throw (.fault fault)
      | .ok text =>
        match parseDocument text with
        | .ok document => return document
        | .error (.inr fault) => throw (.fault fault)
        | .error (.inl mistake) =>
          let e := LoadError.malformedFile shown (mistake.message text.toList)
          failLoading e.message e

inductive RequestFailure
  | timeout
  | connection
  /-- An answer is to blame, which has this status. -/
  | refused (status : Json)
  /-- A failure that speaks of an answer, though there is none. -/
  | answer
  /-- A value that no request can be made with, or no document read from. -/
  | value
  | other
deriving DecidableEq, Repr

inductive HttpOutcome
  | failed (failure : RequestFailure) (reason : String)
  /-- It cannot even say how it failed. -/
  | faulty (fault : Fault)
  /-- An answer that does not say how its body is encoded. -/
  | answered (status : Json) (body : ByteArray)
  /-- An answer that does, and the text that its body is in that encoding. -/
  | declared (status : Json) (text : String)

/-- A network: what it does with the one request, and the text that a body is taken for whose
encoding is not declared. -/
structure Network where
  outcome : HttpOutcome
  textOf : ByteArray → String

/-- Whether a status says that the request was refused. Only a number can say so. -/
def isRefusal (status : Json) : Except Failure Bool :=
  match Json.before? status (.int 400), Json.before? status (.int 600) with
  | some tooSmall, some smallEnough => .ok (!tooSmall && smallEnough)
  | _, _ => faulty .mismatch

def readBody (url text : String) : Action Json := do
  match Json.parse text with
  | .ok document => return document
  | .error mistake =>
    let e := LoadError.malformedBody url (mistake.message text.toList)
    failLoading e.message e

def readAnswer (url : String) (status : Json) (text : String) : Action Json := do
  if ← Task.ofExcept (isRefusal status) then
    let e := LoadError.refused status url
    failLoading e.message e
  else readBody url text

/-- Loads a document from an address. An address that is not complete is never asked for. -/
def loadUrl (network : Network) (url : String) (timeout : Json) : Action Json := do
  report .debug ("Fetching schema from URL: " ++ url)
  match Url.judge url with
  | .malformed => throw (.fault .illValued)
  | .incomplete => failLoading ("Invalid URL format: " ++ url) (.invalidUrl url)
  | .complete =>
    modify fun w => { w with requests := w.requests ++ [⟨url, timeout⟩] }
    match network.outcome with
    | .answered status body => readAnswer url status (network.textOf body)
    | .declared status text => readAnswer url status text
    | .faulty fault => throw (.fault fault)
    | .failed .timeout _ => failLoading (LoadError.timeout url).message (.timeout url)
    | .failed .connection reason =>
      failLoading ("Connection error for URL " ++ url ++ ": " ++ reason) (.noConnection url)
    | .failed (.refused status) _ =>
      let e := LoadError.refused status url
      failLoading e.message e
    | .failed .answer _ => throw (.fault .noMember)
    | .failed .value reason =>
      let e := LoadError.malformedBody url reason
      failLoading e.message e
    | .failed .other reason =>
      let e := LoadError.failedRequest url reason
      failLoading e.message e

/-- Loads a document from a value that should be an address. A void value counts as an empty
address; any other that is no text cannot be taken apart. -/
def loadUrlValue (network : Network) (url timeout : Json) : Action Json :=
  match url with
  | .string url => loadUrl network url timeout
  | _ => do
    report .debug ("Fetching schema from URL: " ++ url.plain)
    if url.isVoid then failLoading ("Invalid URL format: " ++ url.plain) (.invalidUrl url.plain)
    else throw (.fault .noMember)

end ApiTypings
