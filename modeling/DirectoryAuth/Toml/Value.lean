/-! Values of TOML documents. -/
namespace DirectoryAuth.Toml

inductive Decimal where
  /-- `mantissa` times ten to the power of `exponent`, up to the sign. -/
  | finite (mantissa : Nat) (exponent : Int)
  | infinite
  | notANumber
  deriving DecidableEq, Repr

/-- Whether a number that is not infinite itself stays finite as a double. The smallest number that
does not is half a step above the largest double, and 309 digits stand before its point. -/
def Decimal.fits : Decimal → Bool
  | finite mantissa exponent =>
    let limit := Nat.pow 2 1024 - Nat.pow 2 970
    let places := exponent + (Nat.toDigits 10 mantissa).length
    if mantissa = 0 ∨ places < 309 then true
    else if 309 < places then false
    else if 0 ≤ exponent then mantissa * Nat.pow 10 exponent.toNat < limit
    else mantissa < limit * Nat.pow 10 (-exponent).toNat
  | infinite | notANumber => true

inductive Value where
  | string (s : String)
  | integer (n : Int)
  | float (n : Decimal)
  | boolean (b : Bool)
  /-- A date, a time or both; nothing depends on which. -/
  | datetime
  | array (items : List Value)
  | table (entries : List (String × Value))
  deriving Inhabited

namespace Value

mutual

/-- Whether every number in a value can be held by a machine: integers within 128 bits, floats in
a double. -/
def representable : Value → Bool
  | integer n => decide (-170141183460469231731687303715884105728 ≤ n ∧
      n < 340282366920938463463374607431768211456)
  | float n => n.fits
  | array items => allRepresentable items
  | table entries => entriesRepresentable entries
  | string _ | boolean _ | datetime => true

def allRepresentable : List Value → Bool
  | [] => true
  | v :: rest => v.representable && allRepresentable rest

def entriesRepresentable : List (String × Value) → Bool
  | [] => true
  | (_, v) :: rest => v.representable && entriesRepresentable rest

end

def string? : Value → Option String
  | string s => some s
  | _ => none

def boolean? : Value → Option Bool
  | boolean b => some b
  | _ => none

def natural? : Value → Option Nat
  | integer n => if 0 ≤ n then some n.toNat else none
  | _ => none

/-- The values of named fields: the entries of a table, the others of which are passed over if
they are representable, or the items of an array in the order of the names. A date has none. -/
def fields? (names : List String) : Value → Option (List (Option Value))
  | table entries =>
    if entriesRepresentable (entries.filter fun e => !names.contains e.1) then
      some (names.map fun name => entries.lookup name)
    else none
  | array items => some ((List.range names.length).map fun i => items[i]?)
  | datetime => some (names.map fun _ => none)
  | _ => none

end Value

end DirectoryAuth.Toml
