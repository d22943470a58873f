import SharedPages.Json.Stored
import SharedPages.Proofs.UuidText

/-!
# Stored things as JSON

Users, links and pages are written as JSON in one form, and read from many: the
members of an object may stand in any order and among others, a record may be the
array of its fields, an identifier may have any of its texts and a provider two
forms. What is written is read back (`LawfulJsonForm`), whatever it was read from
before. So a value that was read and written once does not change when that is done
again.

How each kind of value is read is said once, by the values that denote it
(`Provider.ofJson?_eq_some_iff` and its like) or, for records, by `ReadAsRecord`.

## Key results

- `JsonForm.fields?_zip`: the fields of a record from its object and from its array
- `LawfulJsonForm`: what is written is read back, and its instances up to pages
- `JsonForm.stored_roundTrip`: users, links and pages as JSON
-/

namespace SharedPages

/-- Types whose values are read back from what they are written as. -/
class LawfulJsonForm (α : Type) [JsonForm α] : Prop where
  ofJson?_toJson (a : α) : JsonForm.ofJson? (JsonForm.toJson a) = some a

namespace JsonForm

variable {α : Type} [JsonForm α]

/-! ## Normal forms -/

/-- What the value that `j` denotes is written as. -/
def normalize (α : Type) [JsonForm α] (j : Json) : Option Json := (ofJson? j : Option α).map toJson

/-- Values are read back from what they are written as, and JSON that denotes a value has a normal
    form, which denotes the same value and is its own normal form. -/
structure RoundTrips (α : Type) [JsonForm α] : Prop where
  read_written : ∀ a : α, ofJson? (toJson a) = some a
  normal : ∀ j (a : α), ofJson? j = some a →
    ∃ k, normalize α j = some k ∧ ofJson? k = some a ∧ normalize α k = some k
  normal_twice : ∀ j, (normalize α j).bind (normalize α) = normalize α j

theorem normalize_toJson [LawfulJsonForm α] (a : α) : normalize α (toJson a) = some (toJson a) := by
  rw [normalize, LawfulJsonForm.ofJson?_toJson, Option.map_some]

/-- It is enough that values are read back. -/
theorem roundTrips [LawfulJsonForm α] : RoundTrips α where
  read_written := LawfulJsonForm.ofJson?_toJson
  normal j a h :=
    ⟨toJson a, by rw [normalize, h, Option.map_some], LawfulJsonForm.ofJson?_toJson a,
      normalize_toJson a⟩
  normal_twice j := by
    cases h : (ofJson? j : Option α) with
    | none => rw [normalize, h]; rfl
    | some a => rw [show normalize α j = some (toJson a) by rw [normalize, h]; rfl,
        Option.bind_some, normalize_toJson]

/-! ## Records -/

/-- In an object that has every field once, each is found under its name. -/
theorem lookup_zip {names : List String} {items : List Json} (hnames : names.Nodup)
    (hlength : items.length = names.length) :
    names.map ((names.zip items).lookup ·) = items.map some := by
  induction names generalizing items with
  | nil =>
    rw [List.length_nil, List.length_eq_zero_iff] at hlength
    rw [hlength]
    rfl
  | cons name names ih =>
    cases items with
    | nil => cases hlength
    | cons item items =>
      obtain ⟨hnew, hnames⟩ := List.nodup_cons.mp hnames
      have hrest : names.map ((((name, item) :: names.zip items)).lookup ·) =
          names.map ((names.zip items).lookup ·) := by
        -- the other names differ from the first, so their lookups go past it
        refine List.map_congr_left fun other hother => ?_
        have hne : (other == name) = false := beq_eq_false_iff_ne.mpr fun h => hnew (h ▸ hother)
        rw [List.lookup_cons, hne]
      rw [List.zip_cons_cons, List.map_cons, hrest, ih hnames (Nat.succ_inj.mp hlength),
        List.lookup_cons_self]
      rfl

/-- A record has the same fields as an object and as an array. -/
theorem fields?_zip {names : List String} {items : List Json} (hnames : names.Nodup)
    (hlength : items.length = names.length) :
    fields? names (.object (names.zip items)) = fields? names (.array items) := by
  rw [fields?, fields?, lookup_zip hnames hlength, if_pos hlength]

/-- How a record with fields of those names is read. Of an object only the members with those names
    count, and of those only the optional ones may be missing, which is to say null. An array counts
    if it has as many items as there are fields, which are then taken in order. -/
structure ReadAsRecord (α : Type) [JsonForm α] (names optional : List String) : Prop where
  of_object : ∀ members members' : List (String × Json),
    (∀ name ∈ names, members.lookup name = members'.lookup name) →
      (ofJson? (.object members) : Option α) = ofJson? (.object members')
  of_missing : ∀ (members : List (String × Json)), ∀ name ∈ names, members.lookup name = none →
    (ofJson? (.object members) : Option α) =
      if name ∈ optional then ofJson? (.object ((name, .null) :: members)) else none
  of_array : ∀ items : List Json, (ofJson? (.array items) : Option α) =
    if items.length = names.length then ofJson? (.object (names.zip items)) else none
  of_scalar : ∀ j, (∀ members, j ≠ .object members) → (∀ items, j ≠ .array items) →
    (ofJson? j : Option α) = none

/-- Whatever is made of its fields, and of nothing else, is read as a record. -/
theorem readAsRecord_of_fields {names optional : List String}
    {read : List (Option Json) → Option α} (hnames : names.Nodup)
    (hread : ∀ j, (ofJson? j : Option α) = (fields? names j).bind read)
    (hmissing : ∀ (members : List (String × Json)), ∀ name ∈ names, members.lookup name = none →
      (ofJson? (.object members) : Option α) =
        if name ∈ optional then ofJson? (.object ((name, .null) :: members)) else none) :
    ReadAsRecord α names optional where
  of_object members members' h := by
    -- Only the members with these names are looked at.
    rw [hread, hread, fields?, fields?, List.map_congr_left h]
  of_missing := hmissing
  of_array items := by
    split
    · -- A list stands for the fields in their order, so it has to be as long.
      rename_i hlength
      rw [hread, hread, fields?_zip hnames hlength]
    · rename_i hlength
      rw [hread, fields?, if_neg hlength]
      rfl
  of_scalar j hobject harray := by
    rw [hread]
    cases j with
    | object members => exact absurd rfl (hobject members)
    | array items => exact absurd rfl (harray items)
    | _ => rfl

end JsonForm

open JsonForm

/-! ## Plain values -/

instance : LawfulJsonForm String where
  ofJson?_toJson _ := rfl

instance : LawfulJsonForm (Option String) where
  ofJson?_toJson
    | none => rfl
    | some _ => rfl

section Lists

variable {α : Type} [JsonForm α]

theorem mapM_ofJson?_eq_some_iff {items : List Json} {as : List α} :
    items.mapM ofJson? = some as ↔ items.map ofJson? = as.map some := by
  induction items generalizing as with
  | nil => cases as <;> simp
  | cons item items ih =>
    rw [List.mapM_cons, List.map_cons]
    cases as with
    | nil => simp [Option.bind_eq_some_iff]
    | cons a as => simp [Option.bind_eq_some_iff, ← ih]

/-- Lists are read from the arrays of what their items are read from. -/
theorem ofJson?_list_eq_some_iff {j : Json} {as : List α} :
    ofJson? j = some as ↔ ∃ items, j = .array items ∧ items.map ofJson? = as.map some := by
  constructor
  · intro h
    cases j with
    | array items => exact ⟨items, rfl, mapM_ofJson?_eq_some_iff.mp h⟩
    | _ => cases h
  · rintro ⟨items, rfl, h⟩
    exact mapM_ofJson?_eq_some_iff.mpr h

instance [LawfulJsonForm α] : LawfulJsonForm (List α) where
  ofJson?_toJson as := by
    refine ofJson?_list_eq_some_iff.mpr ⟨as.map toJson, rfl, ?_⟩
    rw [List.map_map]
    exact List.map_congr_left fun a _ => LawfulJsonForm.ofJson?_toJson a

end Lists

namespace Id

variable {kind : Kind}

/-- Identifiers are read from every text of the bare identifier, and from nothing else. -/
theorem ofJson?_eq_some_iff {j : Json} {id : Id kind} :
    ofJson? j = some id ↔ ∃ s, j = .string s ∧ Uuid.parse s = .ok id.uuid := by
  constructor
  · intro h
    -- An identifier is stored as text, and nothing else is accepted.
    cases j with
    | string s =>
      refine ⟨s, rfl, ?_⟩
      change (Uuid.parse s).toOption.map Id.mk = some id at h
      cases hparse : Uuid.parse s with
      | error e => rw [hparse] at h; cases h
      | ok u => rw [hparse] at h; cases h; rfl
    | _ => cases h
  · rintro ⟨s, rfl, hparse⟩
    change (Uuid.parse s).toOption.map Id.mk = some id
    rw [hparse]
    rfl

theorem ofJson?_tagged (id : Id kind) : (ofJson? (.string id.text) : Option (Id kind)) = none := by
  change (Uuid.parse id.text).toOption.map Id.mk = none
  rw [parse_tagged]
  rfl

instance : LawfulJsonForm (Id kind) where
  ofJson?_toJson id := ofJson?_eq_some_iff.mpr ⟨id.uuid.text, rfl, Uuid.parse_text id.uuid⟩

end Id

namespace Provider

/-- JSON has the names of the providers. -/
theorem jsonText_eq_name (p : Provider) : p.jsonText = p.name := by cases p <;> rfl

theorem ofJsonText?_eq_some_iff {s : String} {p : Provider} :
    ofJsonText? s = some p ↔ s = p.name := by
  constructor
  · intro h
    unfold ofJsonText? at h
    split at h <;> cases h <;> rfl
  · rintro rfl
    cases p <;> rfl

/-- Providers are read from their names, and from the objects that have the name alone. -/
theorem ofJson?_eq_some_iff {j : Json} {p : Provider} :
    ofJson? j = some p ↔ j = .string p.name ∨ j = .object [(p.name, .null)] := by
  constructor
  · intro h
    -- a name, an object with nothing but a name, and anything else
    simp only [ofJson?] at h
    split at h
    · exact .inl (congrArg Json.string (ofJsonText?_eq_some_iff.mp h))
    · exact .inr (by rw [ofJsonText?_eq_some_iff.mp h])
    · cases h
  · rintro (rfl | rfl)
    · exact ofJsonText?_eq_some_iff.mpr rfl
    · exact ofJsonText?_eq_some_iff.mpr rfl

instance : LawfulJsonForm Provider where
  ofJson?_toJson p := ofJson?_eq_some_iff.mpr (.inl (congrArg Json.string p.jsonText_eq_name))

end Provider

namespace Priority

/-- Priorities are read from the integers with 32 bits. -/
theorem ofJson?_eq_some_iff {j : Json} {p : Priority} :
    ofJson? j = some p ↔ j = .integer p.value := by
  constructor
  · intro h
    cases j with
    | integer n =>
      simp only [ofJson?, ofInt?] at h
      split at h
      · cases h; rfl
      · cases h
    | _ => cases h
  · rintro rfl
    exact dif_pos ⟨p.lower, p.upper⟩

instance : LawfulJsonForm Priority where
  ofJson?_toJson _ := ofJson?_eq_some_iff.mpr rfl

end Priority

/-! ## Records of stored things -/

namespace JsonForm

variable {α : Type} [JsonForm α]

@[simp] theorem needed_none : (needed none : Option α) = none := rfl

@[simp] theorem needed_toJson [LawfulJsonForm α] (a : α) : needed (some (toJson a)) = some a :=
  LawfulJsonForm.ofJson?_toJson a

@[simp] theorem omittable_toJson [LawfulJsonForm (Option α)] (a : Option α) :
    omittable (some (toJson a)) = some a :=
  LawfulJsonForm.ofJson?_toJson a

/-- A field that is null is as good as one that is missing. -/
theorem omittable_null : (omittable (some .null) : Option (Option α)) = omittable none := rfl

end JsonForm

namespace Link

/-- The names of the fields of a link. -/
def fieldNames : List String := ["url", "memo", "priority"]

/-- The link that has those fields. -/
def ofFields? : List (Option Json) → Option Link
  | [url, memo, priority] => return ⟨← needed url, ← needed memo, ← needed priority⟩
  | _ => none

theorem ofJson?_eq (j : Json) : ofJson? j = (fields? fieldNames j).bind ofFields? := rfl

instance : LawfulJsonForm Link where
  ofJson?_toJson l := by
    have hfields : fields? fieldNames (toJson l) =
        some [some (toJson l.url), some (toJson l.memo), some (toJson l.priority)] := rfl
    simp [ofJson?_eq, hfields, ofFields?]

theorem readAsRecord : ReadAsRecord Link fieldNames [] := by
  refine readAsRecord_of_fields (by decide) ofJson?_eq fun members name hname h => ?_
  change ofFields? [members.lookup "url", members.lookup "memo", members.lookup "priority"] = none
  simp only [fieldNames, List.mem_cons, List.not_mem_nil, or_false] at hname
  obtain rfl | rfl | rfl := hname <;> simp [ofFields?, h]

end Link

namespace User

/-- The names of the fields of a user. -/
def fieldNames : List String := ["id", "uid", "provider", "email", "joined_page_ids"]

/-- The user who has those fields. -/
def ofFields? : List (Option Json) → Option User
  | [id, uid, provider, email, joined] => return ⟨← needed id, ← needed uid, ← needed provider,
      ← omittable email, ← needed joined⟩
  | _ => none

theorem ofJson?_eq (j : Json) : ofJson? j = (fields? fieldNames j).bind ofFields? := rfl

instance : LawfulJsonForm User where
  ofJson?_toJson u := by
    have hfields : fields? fieldNames (toJson u) = some [some (toJson u.id), some (toJson u.uid),
      some (toJson u.provider), some (toJson u.email), some (toJson u.joined)] := rfl
    simp [ofJson?_eq, hfields, ofFields?]

theorem readAsRecord : ReadAsRecord User fieldNames ["email"] := by
  refine readAsRecord_of_fields (by decide) ofJson?_eq fun members name hname h => ?_
  have hfields : ofJson? (.object members) = ofFields? [members.lookup "id", members.lookup "uid",
    members.lookup "provider", members.lookup "email", members.lookup "joined_page_ids"] := rfl
  simp only [fieldNames, List.mem_cons, List.not_mem_nil, or_false] at hname
  obtain rfl | rfl | rfl | rfl | rfl := hname
  case inr.inr.inr.inl =>
    -- the email is the one field that may be missing
    have hnull : ofJson? (.object (("email", .null) :: members)) = ofFields? [members.lookup "id",
      members.lookup "uid", members.lookup "provider", some .null,
      members.lookup "joined_page_ids"] := rfl
    rw [hfields, h, if_pos List.mem_cons_self, hnull]
    simp only [ofFields?, omittable_null]
  all_goals simp [hfields, ofFields?, h]

end User

namespace Page

/-- The names of the fields of a page. -/
def fieldNames : List String :=
  ["id", "title", "created_by", "invite_code", "links", "invited_users"]

/-- The page that has those fields. -/
def ofFields? : List (Option Json) → Option Page
  | [id, title, creator, code, links, invited] => return ⟨← needed id, ← needed title,
      ← needed creator, ← needed code, ← needed links, ← needed invited⟩
  | _ => none

theorem ofJson?_eq (j : Json) : ofJson? j = (fields? fieldNames j).bind ofFields? := rfl

instance : LawfulJsonForm Page where
  ofJson?_toJson p := by
    have hfields : fields? fieldNames (toJson p) = some [some (toJson p.id), some (toJson p.title),
      some (toJson p.creator), some (toJson p.inviteCode), some (toJson p.links),
      some (toJson p.invited)] := rfl
    simp [ofJson?_eq, hfields, ofFields?]

theorem readAsRecord : ReadAsRecord Page fieldNames [] := by
  refine readAsRecord_of_fields (by decide) ofJson?_eq fun members name hname h => ?_
  change ofFields? [members.lookup "id", members.lookup "title", members.lookup "created_by",
    members.lookup "invite_code", members.lookup "links", members.lookup "invited_users"] = none
  simp only [fieldNames, List.mem_cons, List.not_mem_nil, or_false] at hname
  obtain rfl | rfl | rfl | rfl | rfl | rfl := hname <;> simp [ofFields?, h]

end Page

/-- Users, links, lists of links and pages are read back from the one form that they are written as,
    in which a provider is its name and an identifier its bare text; and whatever else they are read
    from has that form as its normal form. What they may be read from is said kind by kind: records
    from objects and arrays, lists from arrays, identifiers from every text but the tagged one,
    providers from two forms and priorities from integers with 32 bits. -/
theorem JsonForm.stored_roundTrip :
    (RoundTrips User ∧ RoundTrips Link ∧ RoundTrips Links ∧ RoundTrips Page) ∧
      (∀ u : User, toJson u = .object
        [("id", .string u.id.uuid.text), ("uid", .string u.uid),
         ("provider", .string u.provider.name), ("email", (u.email.map Json.string).getD .null),
         ("joined_page_ids", .array (u.joined.map fun id => .string id.uuid.text))]) ∧
      (∀ l : Link, toJson l = .object [("url", .string l.url), ("memo", .string l.memo),
        ("priority", .integer l.priority.value)]) ∧
      (∀ p : Page, toJson p = .object
        [("id", .string p.id.uuid.text), ("title", .string p.title),
         ("created_by", toJson p.creator), ("invite_code", .string p.inviteCode),
         ("links", .array (p.links.map toJson)),
         ("invited_users", .array (p.invited.map toJson))]) ∧
      ReadAsRecord User User.fieldNames ["email"] ∧ ReadAsRecord Link Link.fieldNames [] ∧
      ReadAsRecord Page Page.fieldNames [] ∧
      (∀ j (ls : Links), ofJson? j = some ls ↔
        ∃ items, j = .array items ∧ items.map ofJson? = ls.map some) ∧
      (∀ kind j (id : Id kind), ofJson? j = some id ↔
        ∃ s, j = .string s ∧ Uuid.parse s = .ok id.uuid) ∧
      (∀ kind (id : Id kind), (ofJson? (.string id.text) : Option (Id kind)) = none) ∧
      (∀ j (p : Provider),
        ofJson? j = some p ↔ j = .string p.name ∨ j = .object [(p.name, .null)]) ∧
      ∀ j (p : Priority), ofJson? j = some p ↔ j = .integer p.value := by
  -- an email is written by cases, so this form of it is not the definition
  have hemail (u : User) : toJson u.email = (u.email.map Json.string).getD .null := by
    cases u.email <;> rfl
  refine ⟨⟨roundTrips, roundTrips, roundTrips, roundTrips⟩, fun u => ?_, fun l => rfl, fun p => rfl,
    User.readAsRecord, Link.readAsRecord, Page.readAsRecord,
    fun _ _ => ofJson?_list_eq_some_iff, fun _ _ _ => Id.ofJson?_eq_some_iff,
    fun _ => Id.ofJson?_tagged, fun _ _ => Provider.ofJson?_eq_some_iff,
    fun _ _ => Priority.ofJson?_eq_some_iff⟩
  rw [← hemail, ← Provider.jsonText_eq_name]
  rfl

/-- A link that is read from an array, and one that is read from an object with a member too many,
    have the same normal form. -/
example :
    let j : Json := .array [.string "a", .string "note", .integer 3]
    let k : Json := .object [("priority", .integer 3), ("url", .string "a"), ("color", .null),
      ("memo", .string "note")]
    normalize Link j = normalize Link k ∧ (normalize Link j).isSome :=
  ⟨rfl, rfl⟩

end SharedPages
