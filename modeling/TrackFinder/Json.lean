/-! JSON values and their indented text. -/

namespace TrackFinder

inductive Json where
  | null
  | bool (value : Bool)
  | number (value : Int)
  | text (value : String)
  | array (items : List Json)
  | object (fields : List (String × Json))
deriving Inhabited

namespace Json

def hexDigit (n : Nat) : Char := (Nat.digitChar n)

/-- A character inside quotes. Only quotes, backslashes and control characters are escaped. -/
def quotedChar (c : Char) : List Char :=
  if c = '"' then ['\\', '"']
  else if c = '\\' then ['\\', '\\']
  else if c = '\n' then ['\\', 'n']
  else if c = '\r' then ['\\', 'r']
  else if c = '\t' then ['\\', 't']
  else if c.toNat = 8 then ['\\', 'b']
  else if c.toNat = 12 then ['\\', 'f']
  else if c.toNat < 32 then
    ['\\', 'u', '0', '0', hexDigit (c.toNat / 16), hexDigit (c.toNat % 16)]
  else [c]

def quote (text : String) : String :=
  String.ofList ('"' :: text.toList.flatMap quotedChar ++ ['"'])

def indent (depth : Nat) : String := String.ofList (List.replicate (2 * depth) ' ')

/-- Parts between brackets: on lines of their own, one level deeper than the brackets, if a depth is
given, else on one line. Nothing is put between the brackets of an empty value. -/
def block (depth : Option Nat) (left right : String) (parts : List String) : String :=
  match depth, parts with
  | _, [] => left ++ right
  | none, parts => left ++ ",".intercalate parts ++ right
  | some depth, parts =>
    left ++ "\n" ++ ",\n".intercalate (parts.map fun part => indent (depth + 1) ++ part) ++ "\n" ++
      indent depth ++ right

mutual

/-- The text of a value, indented by two blanks for each level, or on one line. -/
def render (depth : Option Nat) : Json → String
  | .null => "null"
  | .bool value => if value then "true" else "false"
  | .number value => toString value
  | .text value => quote value
  | .array items => block depth "[" "]" (renderItems (depth.map (· + 1)) items)
  | .object fields => block depth "\x7b" "\x7d" (renderFields (depth.map (· + 1)) fields)

def renderItems (depth : Option Nat) : List Json → List String
  | [] => []
  | item :: items => render depth item :: renderItems depth items

def renderFields (depth : Option Nat) : List (String × Json) → List String
  | [] => []
  | field :: fields => renderField depth field :: renderFields depth fields

def renderField (depth : Option Nat) : String × Json → String
  | (key, value) => quote key ++ (if depth.isSome then ": " else ":") ++ render depth value

end

def pretty (value : Json) : String := render (some 0) value

def compact (value : Json) : String := render none value

/-- The only field of an object. -/
def soleField? : Json → Option (String × Json)
  | .object [field] => some field
  | _ => none

/-- The name of a value without parts: a text, or an object that has the name as its only key, with
nothing under it. -/
def plainName? : Json → Option String
  | .text name => some name
  | .object [(name, .null)] => some name
  | _ => none

/-- The one of `values` that bears the name that a value gives. -/
def choose? {α : Type} (values : List α) (name : α → String) (json : Json) : Option α :=
  json.plainName?.bind fun given => values.find? fun value => name value == given

end Json

end TrackFinder
