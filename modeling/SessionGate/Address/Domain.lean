import SessionGate.Text.Direction
import SessionGate.Text.Folding
import SessionGate.Text.Form
import SessionGate.Text.Joining
import SessionGate.Text.Punycode

/- Domain names. A name of any script is folded to one form, and its labels are written in plain
   characters behind a mark of their own. -/
namespace SessionGate.Address.Domain

open Text

def isAllowed (c : Char) : Bool :=
  0x20 < c.toNat && c.toNat ≠ 0x7F && !"%#/:<>?@[\\]^|".toList.contains c

def mark : List Char := "xn--".toList

def maxWritten : Nat := 2000

def maxText : Nat := 1000

/-- The text of a label that is written in plain characters. It has to be in the one form. -/
def unfoldLabel? (label : List Char) : Option (List Char) :=
  if mark.isPrefixOf label then
    if mark.length + maxWritten < label.length then none
    else
      match Punycode.decode (label.drop mark.length) with
      | none => none
      | some text =>
        if text.all Punycode.isPlain ∨ mark.isPrefixOf text ∨ fold text ≠ some text ∨
            composed text ≠ text then none
        else some text
  else some label

def isLabel (label : List Char) : Bool :=
  label.all isAllowed && !label.head?.any isMark && joinersHavePlaces [] label &&
    (label.all Punycode.isPlain || label.length ≤ maxText)

def labelText (label : List Char) : List Char :=
  if label.all Punycode.isPlain then label else mark ++ Punycode.encode label

def keepDirections (labels : List (List Char)) : Bool :=
  !labels.any hasLeftward || labels.all keepsDirection

def joinLabels (labels : List (List Char)) : List Char := ['.'].intercalate labels

def read? (cs : List Char) : Option (List Char) :=
  match fold cs with
  | none => none
  | some folded =>
    match (Form.splitOn '.' (composed folded)).mapM unfoldLabel? with
    | none => none
    | some labels =>
      if labels.all isLabel && keepDirections labels then some (joinLabels (labels.map labelText))
      else none

end SessionGate.Address.Domain
