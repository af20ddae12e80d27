namespace Bourse

/-- A value in the JSON notation. -/
inductive Json where
  | null
  | bool (value : Bool)
  | integer (value : Int)
  /-- The number `mantissa * 10 ^ exponent`, written with a point or with an exponent. -/
  | decimal (mantissa exponent : Int)
  | string (text : String)
  | array (items : List Json)
  | object (fields : List (String × Json))

namespace Json

/-- The written form of one character of a text. Control characters, quotes and backslashes are
escaped, all else stands for itself. -/
def escape (c : Char) : List Char :=
  if c = '"' then ['\\', '"']
  else if c = '\\' then ['\\', '\\']
  else if c = '\x08' then ['\\', 'b']
  else if c = '\x0c' then ['\\', 'f']
  else if c = '\n' then ['\\', 'n']
  else if c = '\r' then ['\\', 'r']
  else if c = '\t' then ['\\', 't']
  else if c.toNat < 32 then
    ['\\', 'u', '0', '0', Nat.digitChar (c.toNat / 16), Nat.digitChar (c.toNat % 16)]
  else [c]

def quoted (text : String) : List Char := '"' :: (text.toList.flatMap escape ++ ['"'])

mutual

/-- The shortest way to write a value: no blanks, fields in the order in which they are given. -/
def chars : Json → List Char
  | null => ['n', 'u', 'l', 'l']
  | bool true => ['t', 'r', 'u', 'e']
  | bool false => ['f', 'a', 'l', 's', 'e']
  | integer value => (toString value).toList
  | decimal mantissa exponent => (toString mantissa).toList ++ 'e' :: (toString exponent).toList
  | string text => quoted text
  | array [] => ['[', ']']
  | array (item :: rest) => '[' :: (chars item ++ moreItems rest)
  | object [] => ['\x7b', '\x7d']
  | object ((name, value) :: rest) => '\x7b' :: (quoted name ++ ':' :: (chars value ++ moreFields rest))

def moreItems : List Json → List Char
  | [] => [']']
  | item :: rest => ',' :: (chars item ++ moreItems rest)

def moreFields : List (String × Json) → List Char
  | [] => ['\x7d']
  | (name, value) :: rest => ',' :: (quoted name ++ ':' :: (chars value ++ moreFields rest))

end

def render (value : Json) : String := String.ofList value.chars

end Json

end Bourse
