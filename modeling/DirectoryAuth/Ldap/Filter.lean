import DirectoryAuth.Text.Numeral
import DirectoryAuth.Text.Split

/-! Search filters that compare one attribute with one value, and the filters that can be read: a
name with signs in it can make another comparison of the filter, or nothing that is one. -/
namespace DirectoryAuth.Ldap

structure Filter where
  name : String
  value : String
  deriving DecidableEq, Repr

namespace Filter

/-- Characters with a meaning of their own in a filter are written as a backslash and two
hexadecimal digits. -/
def escapeChar (c : Char) : List Char :=
  if c = '*' then ['\\', '2', 'a']
  else if c = '(' then ['\\', '2', '8']
  else if c = ')' then ['\\', '2', '9']
  else if c = '\\' then ['\\', '5', 'c']
  else if c = '\x00' then ['\\', '0', '0']
  else [c]

/-- What stands between the parentheses; the name is written as it is. -/
def item (f : Filter) : List Char := f.name.toList ++ '=' :: f.value.toList.flatMap escapeChar

def text (f : Filter) : String := String.ofList ('(' :: f.item ++ [')'])

/-! ### What can be read -/

/-- A number without leading zeros. -/
def isNumber (cs : List Char) : Bool :=
  cs != [] && cs.all Char.isDigit && (cs.length == 1 || cs.head? != some '0')

/-- A letter, then letters, digits and hyphens. -/
def isShortName : List Char → Bool
  | c :: rest => c.isAlpha && rest.all fun d => d.isAlphanum || d == '-'
  | [] => false

/-- A short name, or numbers with dots between them. -/
def isObjectName (cs : List Char) : Bool :=
  isShortName cs || (Text.pieces (· == '.') cs).all isNumber

def isOption (cs : List Char) : Bool := cs != [] && cs.all fun d => d.isAlphanum || d == '-'

/-- Whether a text is the description of an attribute: its name, and then any number of options,
each after a semicolon. -/
def isAttributeDescription (cs : List Char) : Bool :=
  match Text.pieces (· == ';') cs with
  | name :: options => isObjectName name && options.all isOption
  | [] => false

/-- Characters that stand for themselves in a value. -/
def isPlain (c : Char) : Bool := !(['*', '(', ')', '\\', '\x00'].contains c)

/-- Plain characters, and any others as a backslash and two hexadecimal digits. -/
def isValue : List Char → Bool
  | [] => true
  | '\\' :: a :: b :: rest => Text.isHexDigit a && Text.isHexDigit b && isValue rest
  | c :: rest => isPlain c && isValue rest

/-- Values with stars between them, which stand for any text; two stars never follow each other. -/
def isPattern (cs : List Char) : Bool :=
  let parts := Text.pieces (· == '*') cs
  parts.all isValue && parts.tail.dropLast.all (· != [])

/-- What a matching rule applies to: an attribute, `dn` for the parts of the entry's name as well,
and the name of the rule, with colons between them. The attribute or the rule can be left out. -/
def isRule (cs : List Char) : Bool :=
  match Text.pieces (· == ':') cs with
  | name :: rest =>
    match if rest.head? = some ['d', 'n'] then rest.tail else rest with
    | [] => isAttributeDescription name
    | [rule] => (name == [] || isAttributeDescription name) && isObjectName rule
    | _ => false
  | [] => false

/-- Whether two texts make a comparison with the equals sign between them. A colon before the sign
belongs to a matching rule, `>`, `<` and `~` to an order or to likeness. -/
def isComparison (left right : List Char) : Bool :=
  match left.getLast? with
  | some ':' => isRule left.dropLast && isValue right
  | some '>' | some '<' | some '~' => isAttributeDescription left.dropLast && isValue right
  | _ => isAttributeDescription left && isPattern right

def isItem (cs : List Char) : Bool :=
  match Text.cutAt? '=' cs with
  | some (left, right) => isComparison left right
  | none => false

/-- Whether the filter can be read. -/
def wellFormed (f : Filter) : Bool := isItem f.item

end Filter

end DirectoryAuth.Ldap
