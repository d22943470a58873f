import SharedPages.Json.Form
import SharedPages.Page

/-! # The JSON form of stored things

Identifiers are written without their tag and read in any form of the bare identifier.  A provider
is written as a text; it may also be read from an object whose only member has that text as its name
and is null.  Users, links and pages are records. -/

namespace SharedPages

open JsonForm

instance (kind : Kind) : JsonForm (Id kind) where
  toJson id := .string id.uuid.text
  ofJson?
    | .string s => (Uuid.parse s).toOption.map Id.mk
    | _ => none

namespace Provider

/-- The text that stands for a provider in JSON. -/
def jsonText : Provider → String
  | .anonymous => "anonymous"
  | .google => "google"
  | .facebook => "facebook"

/-- The provider that a text stands for in JSON. -/
def ofJsonText? : String → Option Provider
  | "anonymous" => some .anonymous
  | "google" => some .google
  | "facebook" => some .facebook
  | _ => none

end Provider

instance : JsonForm Provider where
  toJson p := .string p.jsonText
  ofJson?
    | .string s => Provider.ofJsonText? s
    | .object [(name, .null)] => Provider.ofJsonText? name
    | _ => none

instance : JsonForm Priority where
  toJson p := .integer p.value
  ofJson?
    | .integer n => Priority.ofInt? n
    | _ => none

instance : JsonForm Link where
  toJson l := .object
    [("url", toJson l.url), ("memo", toJson l.memo), ("priority", toJson l.priority)]
  ofJson? j := do
    match ← fields? ["url", "memo", "priority"] j with
    | [url, memo, priority] => return ⟨← needed url, ← needed memo, ← needed priority⟩
    | _ => none

instance : JsonForm User where
  toJson u := .object
    [("id", toJson u.id), ("uid", toJson u.uid), ("provider", toJson u.provider),
     ("email", toJson u.email), ("joined_page_ids", toJson u.joined)]
  ofJson? j := do
    match ← fields? ["id", "uid", "provider", "email", "joined_page_ids"] j with
    | [id, uid, provider, email, joined] =>
      return ⟨← needed id, ← needed uid, ← needed provider, ← omittable email,
        ← needed joined⟩
    | _ => none

instance : JsonForm Page where
  toJson p := .object
    [("id", toJson p.id), ("title", toJson p.title), ("created_by", toJson p.creator),
     ("invite_code", toJson p.inviteCode), ("links", toJson p.links),
     ("invited_users", toJson p.invited)]
  ofJson? j := do
    match ← fields? ["id", "title", "created_by", "invite_code", "links", "invited_users"] j with
    | [id, title, creator, code, links, invited] =>
      return ⟨← needed id, ← needed title, ← needed creator, ← needed code,
        ← needed links, ← needed invited⟩
    | _ => none

end SharedPages
