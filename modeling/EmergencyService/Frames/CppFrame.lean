import EmergencyService.Foundation.CppRuntime
import EmergencyService.Frames.JavaFrame

/- The client's frame class. Its splitter is the server's, but its tokens are compared by
   content, its look-ahead is checked by `at` only, and it inserts into a `std::map`. Texts are
   shorter than 2^31 characters here, so that no `int` changes a position: `CppIndices` has the
   constructor for longer ones. -/
namespace CppFrame
open JavaRuntime CppRuntime

def splitFrom (part : Text) : Text → List Text
  | [] => if part = [] then [] else [part]
  | c :: rest =>
      if c = '\n' then
        (if part = [] then [] else
          part :: ['\n'] :: if rest.head? = some '\n' then [['\n']] else []) ++
          splitFrom [] rest
      else splitFrom (part ++ [c]) rest

def split (line : Text) : List Text := splitFrom [] line

/- The literal "\0" is the empty C string, so `frameLines.at(i) != "\0"` compares the
   token with the empty text. -/
def nulLiteral : Text := []

/-- `at(i) == "\n" && at(i+1) == "\n" && at(i+2) != "\0"`, on the tokens from `i` on. -/
def startsBody : List Text → Except CppException Bool
  | [] => .ok false
  | line :: rest =>
      if line = ['\n'] then
        match rest with
        | [] => .error .outOfRange
        | next :: later =>
            if next = ['\n'] then
              match later with
              | [] => .error .outOfRange
              | third :: _ => .ok (third ≠ nulLiteral)
            else .ok false
      else .ok false

/-- The header and value of a line that is shorter than 2^31 characters. When the line has no
    colon, the index is -1: the header is the whole line, and so is the value. -/
def headerOf (line : Text) : Text × Text :=
  (JavaFrame.cutAt ':' line).getD (line, line)

def readLines (headers : OrderedMap Text) :
    List Text → Except CppException (OrderedMap Text × List Text)
  | [] => .ok (headers, [])
  | line :: rest =>
      match startsBody (line :: rest) with
      | .error e => .error e
      | .ok true => .ok (headers, rest.drop 1)
      | .ok false =>
          if line ≠ ['\n'] ∧ line ≠ nulLiteral then
            readLines (insertNew (headerOf line).1 (headerOf line).2 headers) rest
          else readLines headers rest

structure StompFrame where
  command : Text
  headers : OrderedMap Text
  body : Text

def StompFrame.ofText (frame : Text) : Except CppException StompFrame :=
  match split frame with
  | [] => .error .outOfRange
  | command :: lines =>
      match readLines ∅ lines with
      | .error e => .error e
      | .ok (headers, body) =>
          .ok ⟨command, headers, (body.filter (· ≠ nulLiteral)).flatten⟩

def StompFrame.createFrame (f : StompFrame) : Text :=
  f.command ++ '\n' ::
    ((sortedKeys f.headers).flatMap fun header =>
      header ++ ':' :: (f.headers.lookup header).getD [] ++ ['\n']) ++
    '\n' :: '\n' :: if f.body = [] then [] else f.body ++ ['\n']

theorem split_from_texts (s part : Text) :
    splitFrom part s = (JavaFrame.splitFrom part s).map JavaFrame.Token.text := by
  induction s generalizing part with
  | nil =>
    by_cases empty : part = [] <;>
      simp [splitFrom, JavaFrame.splitFrom, empty]
  | cons c rest ih =>
    by_cases line : c = '\n'
    · by_cases empty : part = []
      · simp [splitFrom, JavaFrame.splitFrom, line, empty, ih]
      · by_cases blank : rest.head? = some '\n' <;>
          simp [splitFrom, JavaFrame.splitFrom, line, empty, blank, ih]
    · simp [splitFrom, JavaFrame.splitFrom, line, ih]

theorem split_texts (s : Text) : split s = (JavaFrame.split s).map JavaFrame.Token.text :=
  split_from_texts s []

end CppFrame
