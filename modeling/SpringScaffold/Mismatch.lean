import SpringScaffold.Decimal.Style
import SpringScaffold.Text.Quoted

/-! Why a well-formed document does not fit its shape, and how that is said. -/

namespace SpringScaffold

/-- What stood in a document in place of what was wanted. -/
inductive Found where
  | null
  | bool (b : Bool)
  | integer (i : Int)
  /-- An integer beyond 64 bits, under the name of its width. -/
  | wide (i : Int)
  | float (x : Binary64)
  | infinity (negative : Bool)
  | notANumber
  | text (s : String)
  | sequence
  | map
  | tagged
  deriving DecidableEq, Repr

inductive Mismatch where
  | missingField (name : String)
  | duplicateField (name : String)
  | unknownVariant (word : String) (known : List String)
  | invalidType (found : Found) (wanted : String)
  | invalidValue (found : Found) (wanted : String)
  | invalidLength (count : Nat) (title : String) (members : Nat)
  | numberOutOfRange
  | tooDeep
  | tooManyRepetitions
  deriving DecidableEq, Repr

/-- The words in which the formats differ. -/
structure Wording where
  null : String
  floats : DecimalStyle

namespace Mismatch

def ticked (s : String) : String := "`" ++ s ++ "`"

def describe (w : Wording) : Found → String
  | .null => w.null
  | .bool b => "boolean " ++ ticked (if b then "true" else "false")
  | .integer i => "integer " ++ ticked (toString i)
  | .wide i => "integer " ++ ticked (toString i) ++ (if i < 0 then " as i128" else " as u128")
  | .float x => "floating point " ++ ticked (w.floats.write x)
  | .infinity negative => "floating point " ++ ticked (if negative then "-inf" else "inf")
  | .notANumber => "floating point " ++ ticked "NaN"
  | .text s => "string " ++ Text.quoted s
  | .sequence => "sequence"
  | .map => "map"
  | .tagged => "enum"

def oneOf : List String → String
  | [] => "there are no variants"
  | [a] => "expected " ++ ticked a
  | [a, b] => "expected " ++ ticked a ++ " or " ++ ticked b
  | known => "expected one of " ++ String.intercalate ", " (known.map ticked)

def message (w : Wording) : Mismatch → String
  | .missingField name => "missing field " ++ ticked name
  | .duplicateField name => "duplicate field " ++ ticked name
  | .unknownVariant word known => "unknown variant " ++ ticked word ++ ", " ++ oneOf known
  | .invalidType found wanted => "invalid type: " ++ describe w found ++ ", expected " ++ wanted
  | .invalidValue found wanted => "invalid value: " ++ describe w found ++ ", expected " ++ wanted
  | .invalidLength count title members =>
    "invalid length " ++ toString count ++ ", expected struct " ++ title ++ " with "
      ++ toString members ++ (if members = 1 then " element" else " elements")
  | .numberOutOfRange => "JSON number out of range"
  | .tooDeep => "recursion limit exceeded"
  | .tooManyRepetitions => "repetition limit exceeded"

end Mismatch

end SpringScaffold
