/-
Queries on the records kept in memory: filters and a page.
-/
import ContactPrivacy.Audit.Sink

namespace ContactPrivacy.Audit

/-- The records wanted and the page of them. -/
structure Query where
  kind : Option Kind
  actorId : Option String
  dataType : Option DataType
  limit : Int
  offset : Int
deriving DecidableEq

namespace Query

def defaultLimit : Int := 100

def ofMembers (members : Members) : Reading Query :=
  Query.mk
    <$> Reading.member members "event" none (Reading.optional (Reading.choice Kind.byName))
    <*> Reading.member members "actor_id" none (Reading.optional Reading.text)
    <*> Reading.member members "data_type" none (Reading.optional (Reading.choice DataType.byName))
    <*> Reading.member members "limit" defaultLimit Reading.int
    <*> Reading.member members "offset" 0 Reading.int

def read : Json → Reading Query := Reading.ofObject (.notModel "AuditQuery") ofMembers

def toJson (query : Query) : Json :=
  .object [("event", (query.kind.map Kind.toJson).getD .null),
    ("actor_id", Json.ofText? query.actorId), ("data_type", DataType.toJson? query.dataType),
    ("limit", Json.int query.limit), ("offset", Json.int query.offset)]

/-- Whether a record passes all filters.  An empty actor is no filter; actors
are compared by the text of their identifiers. -/
def admits (query : Query) (record : Record) : Bool :=
  query.kind.all (· = record.kind) &&
    query.actorId.all (fun actor => actor = "" || Identifier.literal record.actorId = actor) &&
    query.dataType.all (some · = record.dataType)

/-- A position counted from the end when negative, within a list's length. -/
def position (length : Nat) (i : Int) : Nat :=
  if i < 0 then (i + length).toNat else min i.toNat length

/-- The items from one position up to before another. -/
def slice {α : Type} (items : List α) (start stop : Int) : List α :=
  let first := position items.length start
  let last := position items.length stop
  (items.take last).drop first

/-- The records that pass the filters, oldest first. -/
def matching (query : Query) (records : List Record) : List Record :=
  records.filter query.admits

/-- The page of the matching records. -/
def page (query : Query) (records : List Record) : List Record :=
  slice (query.matching records) query.offset (query.offset + query.limit)

/-- How many records match, whatever the page. -/
def count (query : Query) (records : List Record) : Nat := (query.matching records).length

end Query

end ContactPrivacy.Audit
