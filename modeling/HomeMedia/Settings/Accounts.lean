import HomeMedia.Settings.Error
import HomeMedia.Text.Blank
/-!
# User accounts

An account list is written as `user:password` pairs between commas. Blanks around a pair and around
the user do not count, blank pairs are passed over, and everything after the first colon is the
password. Of two pairs for one user the later one holds. A pair without a colon, or with nothing but
blanks before it, is no account; the first such pair is reported.
-/

namespace HomeMedia
namespace Settings

/-- The password of each user. -/
structure Accounts where
  /-- The users with their passwords; no user appears twice. -/
  entries : List (String × String)
  deriving DecidableEq, Repr, Inhabited

namespace Accounts

/-- No accounts. -/
def empty : Accounts := ⟨[]⟩

/-- Whether there is no account. -/
def isEmpty (a : Accounts) : Bool := a.entries.isEmpty

/-- The password of a user. -/
def get? (a : Accounts) (user : String) : Option String := a.entries.lookup user

/-- The accounts with one more, in place of any other of that user. -/
def insert (a : Accounts) (user password : String) : Accounts :=
  ⟨a.entries.filter (fun entry => entry.1 != user) ++ [(user, password)]⟩

/-- The users in the order of their code points. -/
def users (a : Accounts) : List String :=
  (a.entries.map Prod.fst).mergeSort fun x y => !decide (y < x)

/-- The user and the password of one pair. -/
def pair? (entry : List Char) : Option (String × String) :=
  match Text.splitOnce ':' entry with
  | none => none
  | some (user, password) =>
    if Text.trim user = [] then none
    else some (String.ofList (Text.trim user), String.ofList password)

/-- Adds the pairs to the accounts, up to the first that is none. -/
def addAll : Accounts → List (List Char) → Except Error Accounts
  | a, [] => .ok a
  | a, entry :: more =>
    match pair? entry with
    | none => .error (.invalidAccount (String.ofList entry))
    | some (user, password) => addAll (a.insert user password) more

/-- The pairs of an account list, trimmed, without the blank ones. -/
def pairs (raw : List Char) : List (List Char) :=
  ((Text.split ',' raw).map Text.trim).filter fun entry => entry != []

/-- Reads an account list. -/
def ofString (raw : String) : Except Error Accounts := addAll empty (pairs raw.toList)

end Accounts
end Settings
end HomeMedia
