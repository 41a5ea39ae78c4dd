import HomeMedia.Duration
import HomeMedia.Json.Reader
import HomeMedia.Library
import HomeMedia.Task.Error
import HomeMedia.Text.Quoted
import HomeMedia.Web.Status
/-!
# Remote catalogs

A catalog is an online service that lists media items at one address, as JSON. To refresh it is to
fetch its listing and to add the items to the library, in the order of the listing; the items of one
catalog share one container. A listing is taken as a whole or not at all: one item that cannot be
read refuses it, and a refused listing adds nothing.

The token is looked at before each item. From the item on before which it is found set, none is
added.
-/

namespace HomeMedia

open Text (Bytes)

/-- A remote catalog. -/
structure Catalog where
  /-- The name of the service. -/
  name : String
  /-- Nanoseconds between two scheduled refreshes, if it has any. -/
  interval : Option Nat := none
  deriving DecidableEq, Repr

namespace Catalog

/-- The catalog, refreshed on a schedule; with no time between two refreshes only on demand. -/
def every (nanos : Nat) (c : Catalog) : Catalog :=
  { c with interval := if nanos = 0 then none else some nanos }

/-- A catalog as log lines show it: the address may hold a password and is left out. -/
def describe (c : Catalog) : String :=
  Text.record "RemoteCatalog" [
    ("name", Text.quoted c.name),
    ("url", Text.quoted "[REDACTED]"),
    ("refresh_interval",
      match c.interval with
      | none => "None"
      | some nanos => "Some(" ++ Duration.text nanos ++ ")")] false

/-- An item of a listing. -/
structure Item where
  /-- What it is called. -/
  title : String := ""
  /-- Where it is. -/
  url : String := ""
  deriving DecidableEq, Repr

/-- Reads an item. -/
def Item.reader : Json.Reader Item :=
  Json.Reader.record [
    Json.Reader.textMember "title" fun value item => { item with title := value },
    Json.Reader.textMember "url" fun value item => { item with url := value }] {}

/-- Reads a listing; one without items is empty. -/
def listingReader : Json.Reader (List Item) :=
  Json.Reader.record [⟨"items", false, fun _ => Json.Reader.listOf Item.reader⟩] []

/-- The items of a listing that fills a whole body. -/
def listing? (body : Bytes) : Option (List Item) :=
  match listingReader body with
  | .ok (items, rest) => if Json.Reader.token rest = [] then some items else none
  | .error _ => none

/-- What came of asking for the listing. -/
inductive Answer where
  /-- The request or its answer was lost on the way. -/
  | lost (reason : String)
  /-- No answer came in time. -/
  | late
  /-- The answer at the end of all redirections, and what the client has to say of the body if that
  is no listing. -/
  | response (status : Nat) (body : Bytes) (complaint : String)
  deriving DecidableEq, Repr

/-- The items that an answer lists. -/
def fetch (c : Catalog) : Answer → Except Task.Error (List Item)
  | .lost reason => .error (.onlineService c.name reason)
  | .late => .error (.serviceTimeout c.name)
  | .response status body complaint =>
    if !Web.Status.isSuccess status then
      .error (.onlineService c.name ("unexpected status " ++ Web.Status.text status))
    else
      match listing? body with
      | none => .error (.onlineService c.name complaint)
      | some items => .ok items

/-- Adds items to the library, each unless the token is set by then; gives the containers that
gained one, each once. `isCancelled` answers by the number of earlier looks. -/
def addItems (c : Catalog) (isCancelled : Nat → Bool) :
    List Item → Nat → List ObjectId → Library → List ObjectId × Library
  | [], _, changed, l => (changed, l)
  | item :: more, looks, changed, l =>
    if isCancelled looks then (changed, l)
    else
      match l.addItem c.name item.url with
      | (none, l) => addItems c isCancelled more (looks + 1) changed l
      | (some id, l) =>
        addItems c isCancelled more (looks + 1)
          (if id ∈ changed then changed else changed ++ [id]) l

/-- Refreshes a catalog from an answer; gives the containers that gained an item. -/
def refresh (c : Catalog) (isCancelled : Nat → Bool) (answer : Answer) (l : Library) :
    Except Task.Error (List ObjectId) × Library :=
  match c.fetch answer with
  | .error e => (.error e, l)
  | .ok items =>
    let (changed, l) := c.addItems isCancelled items 0 [] l
    (.ok changed, l)

end Catalog
end HomeMedia
