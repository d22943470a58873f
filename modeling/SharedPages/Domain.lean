import SharedPages.Text.Composition
import SharedPages.Domain.Direction
import SharedPages.Domain.Joining
import SharedPages.Domain.Mapping
import SharedPages.Domain.Punycode

/-! # Domain names

A domain name is a list of labels with points between them.  `Domain.toAscii?` finds the one ASCII
form of a name that may have characters of any script: letters become lowercase, characters are
composed, and labels that are still not ASCII are written in Punycode after `xn--`.  A name is
refused if a label has characters that no name may have, or has them where they may not stand. -/

namespace SharedPages.Domain

open Text

/-- No name has the character: a control, a blank, or a character with a meaning in addresses. -/
def isForbidden (c : Char) : Bool :=
  c.toNat ≤ 0x20 || c.toNat == 0x7f || "%#/:<>?@[\\]^|".toList.contains c

/-- The label is ASCII. -/
def isAscii (label : List Char) : Bool := label.all fun c => c.toNat < 0x80

/-- What starts a label that is written in Punycode. -/
def marker : List Char := ['x', 'n', '-', '-']

/-- The longest label that is written in Punycode. -/
def longestLabel : Nat := 1000

/-- The longest Punycode that is read. -/
def longestPunycode : Nat := 2000

/-- The label has the form in which labels are compared. -/
def isCanonical (label : List Char) : Bool :=
  label.all (fun c => target? c == some [c]) && compose label == label && !marker.isPrefixOf label

/-- The label that a written label stands for. -/
def readLabel? (label : List Char) : Option (List Char) :=
  if marker.isPrefixOf label then
    let punycode := label.drop marker.length
    if isAscii label ∧ label.getLast? ≠ some '-' ∧ punycode.length ≤ longestPunycode then
      (Punycode.decode? punycode).filter isCanonical
    else none
  else some label

/-- Writes a label in ASCII. -/
def writeLabel? (label : List Char) : Option (List Char) :=
  if isAscii label then some label
  else if label.length ≤ longestLabel then some (marker ++ Punycode.encode label)
  else none

/-- No mark comes first in the label, and joiners stand only where they have an effect. -/
def isWellFormed (label : List Char) : Bool :=
  !label.head?.any isMark && joinersFit [] label

/-- The ASCII form of a domain name. -/
def toAscii? (name : List Char) : Option (List Char) := do
  let name := compose (← name.mapM target?).flatten
  if name.any isForbidden then none
  else
    let labels ← (splitOn '.' name).mapM readLabel?
    if labels.all isWellFormed && directionsFit labels then
      return ['.'].intercalate (← labels.mapM writeLabel?)
    else none

end SharedPages.Domain
