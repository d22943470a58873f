import SharedPages.Uuid.Text

/-! # Identifiers of stored things

Users, pages and link items are each named by a `Uuid`.  `Id k` keeps the three kinds apart in
types, and in texts by a three-letter tag: `Id.text` writes the tag, a hyphen and the identifier,
and `Id.parse` reads that form of its own kind, or the bare identifier. -/

namespace SharedPages

/-- The kinds of things that have identifiers. -/
inductive Kind where
  | user | page | link
deriving DecidableEq

/-- The tag in front of identifiers of a kind. -/
def Kind.tag : Kind → List Char
  | .user => ['U', 'S', 'R']
  | .page => ['P', 'A', 'G']
  | .link => ['L', 'N', 'K']

/-- An identifier of one kind of thing. -/
structure Id (kind : Kind) where
  uuid : Uuid
deriving DecidableEq

/-- Names a user. -/
abbrev UserId := Id .user

/-- Names a page. -/
abbrev PageId := Id .page

/-- Names a stored link. -/
abbrev LinkId := Id .link

namespace Id

variable {kind : Kind}

instance : Inhabited (Id kind) := ⟨⟨default⟩⟩

instance : Ord (Id kind) := ⟨fun a b => compare a.uuid b.uuid⟩

/-- The tagged form, as characters. -/
def chars (id : Id kind) : List Char := kind.tag ++ '-' :: id.uuid.chars

/-- The tagged form. -/
def text (id : Id kind) : String := String.ofList id.chars

instance : ToString (Id kind) := ⟨text⟩

/-- `cs` without one leading tag of this kind and its hyphen, if it starts so. -/
def untag (kind : Kind) (cs : List Char) : List Char :=
  if (kind.tag ++ ['-']).isPrefixOf cs then cs.drop 4 else cs

/-- Reads the tagged form of this kind, or any form of the bare identifier. -/
def parse (s : String) : Except Uuid.Fault (Id kind) :=
  (Uuid.parse (String.ofList (untag kind s.toList))).map Id.mk

end Id

end SharedPages
