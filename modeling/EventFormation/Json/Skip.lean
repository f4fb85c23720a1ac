import EventFormation.Json.Number
import EventFormation.Json.Text

/-!
# Values that are not wanted

The value of an unknown key is only checked for its grammar. Numbers may be of
any size, strings may hold lone surrogates and bytes that are no UTF-8, and
values may be nested to any depth: the open lists and objects are kept on a
stack.
-/

namespace EventFormation.Json

def skipDigits (input : Bytes) : Except Fault Bytes :=
  match digits input with
  | ([], _) => .error .malformed
  | (_, rest) => .ok rest

/-- Passes over an exponent, if there is one. -/
def skipExponent (input : Bytes) : Except Fault Bytes :=
  match input with
  | mark :: rest =>
    if is mark 'e' || is mark 'E' then
      match rest with
      | sign :: more => skipDigits (if is sign '+' || is sign '-' then more else rest)
      | [] => .error .malformed
    else .ok input
  | [] => .ok input

/-- Passes over a fraction, if there is one, and over an exponent. -/
def skipFraction (input : Bytes) : Except Fault Bytes :=
  match input with
  | point :: rest =>
    if is point '.' then do skipExponent (← skipDigits rest) else skipExponent input
  | [] => .ok input

/-- Passes over a number whose sign has been passed. -/
def skipNumber (input : Bytes) : Except Fault Bytes :=
  match digits input with
  | ([], _) => .error .malformed
  | (first :: more, rest) =>
    if is first '0' && !more.isEmpty then .error .malformed else skipFraction rest

/-- Passes over a string after its opening quote. Every round takes at least
one byte. -/
def skipTextFor (rounds : Nat) (input : Bytes) : Except Fault Bytes :=
  match rounds, input with
  | 0, _ | _, [] => .error .ended
  | rounds + 1, byte :: rest =>
    if is byte '"' then .ok rest
    else if is byte '\\' then
      match rest with
      | [] => .error .ended
      | letter :: rest =>
        if is letter 'u' then do
          let (_, rest) ← hexUnit rest
          skipTextFor rounds rest
        else if (simpleEscape? letter).isSome then skipTextFor rounds rest
        else .error .malformed
    else if byte.toNat < 32 then .error .malformed
    else skipTextFor rounds rest

/-- Passes over a string after its opening quote. -/
def skipText (input : Bytes) : Except Fault Bytes :=
  skipTextFor (input.length + 1) input

/-- A list or an object that has been opened and not closed. -/
inductive Open where
  | list
  | object
  deriving DecidableEq

/-- Whether a byte closes what is open. -/
def Open.closedBy (opened : Open) (byte : UInt8) : Bool :=
  match opened with
  | .list => is byte ']'
  | .object => is byte '}'

/-- Passes over the front of a value: the whole of it, or the bracket that
opens it. -/
def skipFront (input : Bytes) : Except Fault (Option Open × Bytes) :=
  match skipBlank input with
  | [] => .error .ended
  | byte :: rest =>
    if is byte 'n' then (word ['u', 'l', 'l'] rest).map (none, ·)
    else if is byte 't' then (word ['r', 'u', 'e'] rest).map (none, ·)
    else if is byte 'f' then (word ['a', 'l', 's', 'e'] rest).map (none, ·)
    else if is byte '-' then (skipNumber rest).map (none, ·)
    else if isDigit byte then (skipNumber (byte :: rest)).map (none, ·)
    else if is byte '"' then (skipText rest).map (none, ·)
    else if is byte '[' then .ok (some .list, rest)
    else if is byte '{' then .ok (some .object, rest)
    else .error .malformed

/-- Passes over the key of an object and the colon after it. -/
def skipKey (input : Bytes) : Except Fault Bytes :=
  match skipBlank input with
  | [] => .error .ended
  | quote :: rest =>
    if !is quote '"' then .error .malformed
    else do
      let rest ← skipText rest
      match skipBlank rest with
      | [] => .error .ended
      | colon :: rest => if is colon ':' then .ok rest else .error .malformed

/-- What follows inside what is open: the next value, or the end of it all. -/
inductive Next where
  /-- Another value follows in what is open. -/
  | value (opened : List Open) (rest : Bytes)
  | finished (rest : Bytes)

/-- Passes over closing brackets up to the next value. `complete` says that a
value has just ended, so that a comma may follow. Every round closes one
bracket. -/
def skipClosing (complete : Bool) (opened : List Open) (input : Bytes) : Except Fault Next :=
  match opened with
  | [] => .ok (.finished input)
  | inner :: outer =>
    match skipBlank input with
    | [] => .error .ended
    | byte :: rest =>
      if complete && is byte ',' then .ok (.value opened rest)
      else if inner.closedBy byte then skipClosing true outer rest
      else if complete then .error .malformed
      else .ok (.value opened (byte :: rest))

/-- Passes over the key that comes before a value in an object. -/
def skipInner (opened : List Open) (input : Bytes) : Except Fault Bytes :=
  match opened with
  | .object :: _ => skipKey input
  | _ => .ok input

/-- Passes over a value inside what is open and over all that follows in it.
Every round takes at least one byte. -/
def skipFor (rounds : Nat) (opened : List Open) (input : Bytes) : Except Fault Bytes :=
  match rounds with
  | 0 => .error .ended
  | rounds + 1 => do
    let (front, rest) ← skipFront input
    let next ←
      match front with
      | none => skipClosing true opened rest
      | some bracket => skipClosing false (bracket :: opened) rest
    match next with
    | .finished rest => .ok rest
    | .value opened rest => skipFor rounds opened (← skipInner opened rest)

def skip (input : Bytes) : Except Fault Bytes :=
  skipFor (input.length + 1) [] input

end EventFormation.Json
