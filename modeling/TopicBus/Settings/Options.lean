import TopicBus.Fault
import TopicBus.Text.Blank

/-!
# Reading single options

Options come in groups, which are mappings inside the mapping of all options. A group or an
option that is missing counts as unset, and so does one that is `null`.
-/

namespace TopicBus.Settings

/-- The value at a key that is set to something. -/
def present? (entries : Mapping) (key : String) : Option Json :=
  match entries.get? key with
  | none => none
  | some .null => none
  | some value => some value

/-- The options of a group. An unset group has none. -/
def group? (options : Mapping) (group : String) : Except SettingsFault (Option Mapping) :=
  match present? options group with
  | none => .ok none
  | some (.mapping entries) => .ok (some entries)
  | some value => .error (.sectionShape group value.write)

/-- The text that a value stands for; numbers and truth values count as the text they are
written as. -/
def textOf? : Json → Option String
  | .text s => some s
  | .number n => some n.write
  | .bool true => some "true"
  | .bool false => some "false"
  | _ => none

def text? (entries : Mapping) (group option : String) : Except SettingsFault (Option String) :=
  match present? entries option with
  | none => .ok none
  | some value =>
      match textOf? value with
      | some s => .ok (some s)
      | none => .error (.textShape group option value.write)

/-- The whole part of a double that is at least zero, at most the greatest number of 64 bits. -/
def wholePart? (x : Decimal.Binary64) : Option Nat :=
  match x.meaning with
  | .finite negative size =>
      if negative ∧ size.significand ≠ 0 then none else some (min size.floor (UInt64.size - 1))
  | _ => none

/-- The number of at most 64 bits that a value stands for: a whole number, the whole part of a
double, or a text of digits with blanks around it. -/
def numberOf? : Json → Option Nat
  | .number (.natural n) => if n < UInt64.size then some n else none
  | .number (.negative _) => none
  | .number (.real x) => wholePart? x
  | .text s => Decimal.readBelow UInt64.size (Text.trimChars s.toList)
  | _ => none

def number? (entries : Mapping) (group option : String) : Except SettingsFault (Option Nat) :=
  match present? entries option with
  | none => .ok none
  | some value =>
      match numberOf? value with
      | some n => .ok (some n)
      | none => .error (.numberShape group option value.write)

end TopicBus.Settings
