import Unannotate.ClassFile.ConstantPool
import Unannotate.Decimal.Shortest

/-!
Constants in full, as the strict layout check shows them.
-/
set_option autoImplicit false

namespace Unannotate.Constant

/-- Positional from a ten-thousandth up to below ten quadrillions, else with an exponent. -/
def floatText (format : FloatFormat) (bits : Nat) : String :=
  match format.value bits with
  | .notANumber => "NaN"
  | .infinite negative => if negative then "-inf" else "inf"
  | .finite negative significand power narrow =>
    let decimal := (Decimal.shortest significand power narrow).trimmed
    let point := decimal.pointPosition
    let body := if significand = 0 ∨ (-4 < point ∧ point ≤ 16) then decimal.positional
      else decimal.scientific
    if negative then "-" ++ body else body

def fieldsText (label : String) (fields : List (String × String)) : String :=
  label ++ " \x7b " ++ ", ".intercalate (fields.map fun field => field.1 ++ ": " ++ field.2) ++ " \x7d"

def memberText (label : String) (owner member : UInt16) : String :=
  fieldsText label [("class_index", toString owner.toNat), ("name_and_type_index", toString member.toNat)]

def dynamicText (label : String) (bootstrap member : UInt16) : String :=
  fieldsText label
    [("bootstrap_method_attr_index", toString bootstrap.toNat),
      ("name_and_type_index", toString member.toNat)]

def nameText (label : String) (name : UInt16) : String :=
  fieldsText label [("name_index", toString name.toNat)]

def description : Constant → String
  | text _ => "Utf8"
  | integer bits => fieldsText "Integer" [("value", toString bits.toInt32.toInt)]
  | float bits => fieldsText "Float" [("value", floatText .single bits.toNat)]
  | long bits => fieldsText "Long" [("value", toString bits.toInt64.toInt)]
  | double bits => fieldsText "Double" [("value", floatText .double bits.toNat)]
  | classRef name => nameText "Class" name
  | string index => fieldsText "String" [("string_index", toString index.toNat)]
  | fieldRef owner member => memberText "Fieldref" owner member
  | methodRef owner member => memberText "Methodref" owner member
  | interfaceMethodRef owner member => memberText "InterfaceMethodref" owner member
  | nameAndType name descriptor =>
    fieldsText "NameAndType"
      [("name_index", toString name.toNat), ("descriptor_index", toString descriptor.toNat)]
  | methodHandle kind target =>
    fieldsText "MethodHandle"
      [("reference_kind", toString kind.toNat), ("reference_index", toString target.toNat)]
  | methodType descriptor =>
    fieldsText "MethodType" [("descriptor_index", toString descriptor.toNat)]
  | dynamic bootstrap member => dynamicText "Dynamic" bootstrap member
  | invokeDynamic bootstrap member => dynamicText "InvokeDynamic" bootstrap member
  | module name => nameText "Module" name
  | package name => nameText "Package" name

end Unannotate.Constant
