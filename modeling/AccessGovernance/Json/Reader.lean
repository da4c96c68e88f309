import AccessGovernance.Json.Token

/-! # Reading JSON text

The tokens of a text are taken one by one by a machine that keeps the containers that are open. It
stops with a value when the tokens end just after a complete one. Containers may be nested to a
depth of 127.
-/

namespace AccessGovernance

namespace Json

/-- A container that is open: an array with the items so far, the last one first, or an object with
the fields so far, perhaps with a key whose value is to come. -/
inductive Frame
  | array (items : List Json)
  | object (fields : List (String × Json))
  | field (fields : List (String × Json)) (key : String)

/-- What may come next, inside of the open containers, the innermost one first. -/
inductive Progress
  | value (frames : List Frame)
  | valueOrClose (frames : List Frame)
  | key (frames : List Frame)
  | keyOrClose (frames : List Frame)
  | colon (frames : List Frame)
  | commaOrClose (frames : List Frame)
  | finished (result : Json)

def depthLimit : Nat :=
  127

def Progress.complete (a : Json) : List Frame → Progress
  | [] => .finished a
  | .array items :: outer => .commaOrClose (.array (a :: items) :: outer)
  | .field fields k :: outer => .commaOrClose (.object (putField k a fields) :: outer)
  | .object fields :: outer => .commaOrClose (.object fields :: outer)

def Progress.close (t : Token) : List Frame → Option Progress
  | .array items :: outer =>
      match t with
      | .closeArray => some (complete (.array items.reverse) outer)
      | _ => none
  | .object fields :: outer =>
      match t with
      | .closeObject => some (complete (.object fields) outer)
      | _ => none
  | _ => none

def Progress.open (frames : List Frame) : Token → Option Progress
  | .literal a => some (complete a frames)
  | .string s => some (complete (.string s) frames)
  | .openArray =>
      if frames.length < depthLimit then some (.valueOrClose (.array [] :: frames)) else none
  | .openObject =>
      if frames.length < depthLimit then some (.keyOrClose (.object [] :: frames)) else none
  | _ => none

def Progress.name (frames : List Frame) (t : Token) : Option Progress :=
  match frames, t with
  | .object fields :: outer, .string s => some (.colon (.field fields s :: outer))
  | _, _ => none

def Progress.step : Progress → Token → Option Progress
  | .value frames, t => Progress.open frames t
  | .valueOrClose frames, .closeArray => Progress.close .closeArray frames
  | .valueOrClose frames, t => Progress.open frames t
  | .key frames, t => Progress.name frames t
  | .keyOrClose frames, .closeObject => Progress.close .closeObject frames
  | .keyOrClose frames, t => Progress.name frames t
  | .colon frames, .colon => some (.value frames)
  | .colon _, _ => none
  | .commaOrClose (.array items :: outer), .comma => some (.value (.array items :: outer))
  | .commaOrClose (.object fields :: outer), .comma => some (.key (.object fields :: outer))
  | .commaOrClose frames, t => Progress.close t frames
  | .finished _, _ => none

def ofTokens? (tokens : List Token) : Option Json :=
  match tokens.foldlM Progress.step (.value []) with
  | some (.finished a) => some a
  | _ => none

def ofText? (s : String) : Option Json :=
  (tokens? s.toList).bind ofTokens?

end Json

end AccessGovernance
