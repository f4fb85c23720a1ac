import EventFormation.Json.Skip

/-!
# Records in JSON

A record is written as an object, with its fields under their names, or as a
list, with its fields in their order. Fields that are missing keep their
defaults. In an object unknown names are passed over and a known name must not
be repeated; a list must not have more elements than there are fields.
-/

namespace EventFormation.Json

/-- Says what is wrong with a value of another type than wanted. Words, numbers
and strings are read to their end first, and may turn out to be no JSON. -/
def unwanted {α : Type} : Reader α := fun input =>
  match input with
  | [] => .error .ended
  | byte :: rest =>
    if is byte 'n' then do let _ ← word ['u', 'l', 'l'] rest; .error .mismatch
    else if is byte 't' then do let _ ← word ['r', 'u', 'e'] rest; .error .mismatch
    else if is byte 'f' then do let _ ← word ['a', 'l', 's', 'e'] rest; .error .mismatch
    else if startsNumber byte then do let _ ← number (byte :: rest); .error .mismatch
    else if is byte '"' then do let _ ← text rest; .error .mismatch
    else if is byte '[' || is byte '{' then .error .mismatch
    else .error .malformed

/-- Reads an unsigned integer below a bound. -/
def unsigned (bound : Nat) : Reader Nat := fun input =>
  match skipBlank input with
  | [] => .error .ended
  | byte :: rest =>
    if startsNumber byte then do
      match ← number (byte :: rest) with
      | (some value, rest) => if value < bound then .ok (value, rest) else .error .mismatch
      | (none, _) => .error .mismatch
    else unwanted (byte :: rest)

/-- Reads a truth value. -/
def truth : Reader Bool := fun input =>
  match skipBlank input with
  | [] => .error .ended
  | byte :: rest =>
    if is byte 't' then (word ['r', 'u', 'e'] rest).map (true, ·)
    else if is byte 'f' then (word ['a', 'l', 's', 'e'] rest).map (false, ·)
    else unwanted (byte :: rest)

def string : Reader String := fun input =>
  match skipBlank input with
  | [] => .error .ended
  | byte :: rest => if is byte '"' then text rest else unwanted (byte :: rest)

/-- A field of a record of type `ρ`. -/
structure Field (ρ : Type) where
  name : String
  read : ρ → Reader ρ

/-- A field that is read by a reader and stored by a function. -/
def Field.of {ρ α : Type} (name : String) (reader : Reader α) (store : ρ → α → ρ) : Field ρ where
  name
  read record input := (reader input).map fun (value, rest) => (store record value, rest)

variable {ρ : Type}

def colon (input : Bytes) : Except Fault Bytes :=
  match skipBlank input with
  | [] => .error .ended
  | byte :: rest => if is byte ':' then .ok rest else .error .malformed

/-- Finds the next name of an object: what follows its opening quote, or
nothing if the object ends here. -/
def nextName (isFirst : Bool) (input : Bytes) : Except Fault (Option Bytes × Bytes) :=
  match skipBlank input with
  | [] => .error .ended
  | byte :: rest =>
    if is byte '}' then .ok (none, rest)
    else if isFirst then
      if is byte '"' then .ok (some rest, rest) else .error .malformed
    else if is byte ',' then
      match skipBlank rest with
      | [] => .error .ended
      | quote :: rest => if is quote '"' then .ok (some rest, rest) else .error .malformed
    else .error .malformed

/-- Reads the entries of an object up to its end. `seen` holds the known names
so far. Every round takes at least one byte. -/
def entries (fields : List (Field ρ)) (rounds : Nat) (isFirst : Bool) (seen : List String)
    (record : ρ) : Reader ρ := fun input =>
  match rounds with
  | 0 => .error .ended
  | rounds + 1 => do
    match ← nextName isFirst input with
    | (none, rest) => .ok (record, rest)
    | (some quoted, _) =>
      let (name, rest) ← text quoted
      match fields.find? (·.name == name) with
      | some field =>
        if seen.contains name then .error .mismatch
        else
          let (record, rest) ← field.read record (← colon rest)
          entries fields rounds false (name :: seen) record rest
      | none =>
        let rest ← skip (← colon rest)
        entries fields rounds false seen record rest

/-- Reads the end of a list that has an element for every field. -/
def listEnd (input : Bytes) : Except Fault Bytes :=
  match skipBlank input with
  | [] => .error .ended
  | byte :: rest => if is byte ']' then .ok rest else .error .malformed

/-- Reads the elements of a list, one for each field, up to its end. -/
def elements (fields : List (Field ρ)) (isFirst : Bool) (record : ρ) : Reader ρ := fun input =>
  match fields with
  | [] => (listEnd input).map (record, ·)
  | field :: more =>
    match skipBlank input with
    | [] => .error .ended
    | byte :: rest =>
      if is byte ']' then .ok (record, rest)
      else if isFirst then do
        let (record, rest) ← field.read record (byte :: rest)
        elements more false record rest
      else if is byte ',' then
        match skipBlank rest with
        | [] => .error .ended
        | next :: rest =>
          if is next ']' then .error .malformed
          else do
            let (record, rest) ← field.read record (next :: rest)
            elements more false record rest
      else .error .malformed

/-- Reads a record, starting from its defaults. -/
def record (fields : List (Field ρ)) (defaults : ρ) : Reader ρ := fun input =>
  match skipBlank input with
  | [] => .error .ended
  | byte :: rest =>
    if is byte '[' then elements fields true defaults rest
    else if is byte '{' then entries fields (rest.length + 1) true [] defaults rest
    else unwanted (byte :: rest)

/-- Reads a whole document, after which nothing but blanks may follow. -/
def document {α : Type} (reader : Reader α) (input : Bytes) : Except Fault α := do
  let (value, rest) ← reader input
  if (skipBlank rest).isEmpty then .ok value else .error .malformed

end EventFormation.Json
