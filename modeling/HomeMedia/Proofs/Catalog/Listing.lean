import HomeMedia.Catalog
import HomeMedia.Proofs.Json.Objects
/-!
# What an accepted listing is

A body that is the text of a JSON value is taken for a listing by what the value is. In a listing
each item gives its title and its address once, as texts; one item that does not refuses them all.
-/

namespace HomeMedia
namespace Catalog

open Json (given textGiven?)
open Json.Reader (Slot Reads record? reads_record ofMembers_eq reads_listOf elements?)
open Text.Utf8 (ofString)

/-- The item that a value is. -/
def Item.ofJson? : Json → Option Item
  | .object ms =>
    match textGiven? "title" ms, textGiven? "url" ms with
    | some title, some url => some ⟨title, url⟩
    | _, _ => none
  | .list [.text title, .text url] => some ⟨title, url⟩
  | _ => none

/-- The items that a value lists. -/
def listed? : Json → Option (List Item)
  | .object ms =>
    match given "items" ms with
    | [] => some []
    | [.list vs] => vs.mapM Item.ofJson?
    | _ => none
  | .list [] => some []
  | .list [.list vs] => vs.mapM Item.ofJson?
  | _ => none

/-- One value that is no item refuses all the others. -/
theorem mapM_ofJson?_of_bad {vs : List Json} {bad : Json} (mem : bad ∈ vs)
    (refused : Item.ofJson? bad = none) : vs.mapM Item.ofJson? = none := by
  induction vs with
  | nil => cases mem
  | cons v vs ih =>
    rw [List.mapM_cons]
    rcases List.mem_cons.1 mem with rfl | mem
    · rw [refused]
      rfl
    · rw [ih mem]
      cases Item.ofJson? v <;> rfl

/-- The members of an item. -/
def itemSlots : List (Slot Item) := [
  .ofText "title" fun value item => { item with title := value },
  .ofText "url" fun value item => { item with url := value }]

/-- The two members of an item can be given in either order. -/
theorem apart_itemSlots : itemSlots.Pairwise Slot.Apart := by
  refine List.pairwise_cons.2 ⟨fun f mem => ?_, List.pairwise_singleton ..⟩
  cases List.mem_singleton.1 mem
  exact Slot.apart_ofText (by decide) fun _ _ _ => rfl

/-- The reader of records makes the same of a value as the description of an item. -/
theorem record?_item (v : Json) : record? itemSlots {} v = Item.ofJson? v := by
  cases v with
  | object ms =>
    change Json.Reader.ofMembers itemSlots [] {} ms = _
    rw [ofMembers_eq apart_itemSlots, Item.ofJson?]
    change ((Slot.ofText "title" _).take false (given "title" ms) ({} : Item)).bind (fun item =>
      ((Slot.ofText "url" _).take false (given "url" ms) item).bind some) = _
    simp only [Slot.take_ofText]
    cases textGiven? "title" ms with
    | none => rfl
    | some title => cases textGiven? "url" ms <;> rfl
  | list vs =>
    rcases vs with _ | ⟨v, _ | ⟨w, _ | ⟨x, vs⟩⟩⟩
    · rfl
    · cases v <;> rfl
    · cases v <;> cases w <;> rfl
    · cases v <;> cases w <;> rfl
  | _ => rfl

/-- An item is read as the item that the value is. -/
theorem reads_item : Reads Item.reader Item.ofJson? := by
  have reads := reads_record itemSlots {}
  rw [funext record?_item] at reads
  exact reads

/-- The member of a listing. -/
def listingSlot : Slot (List Item) where
  name := "items"
  isRequired := false
  read _ := Json.Reader.listOf Item.reader
  put _ := elements? Item.ofJson?
  reads _ := reads_listOf reads_item

/-- It makes the same of a value as the description of a listing. -/
theorem record?_listing (v : Json) : record? [listingSlot] [] v = listed? v := by
  cases v with
  | object ms =>
    change Json.Reader.ofMembers [listingSlot] [] [] ms = _
    rw [ofMembers_eq (List.pairwise_singleton ..), listed?]
    change (listingSlot.take false (given "items" ms) []).bind some = _
    rw [Option.bind_fun_some]
    rcases given "items" ms with _ | ⟨v, _ | ⟨w, vs⟩⟩
    · rfl
    · cases v <;> rfl
    · cases v <;> rfl
  | list vs =>
    rcases vs with _ | ⟨v, _ | ⟨w, vs⟩⟩
    · rfl
    · cases v with
      | list vs => exact Option.bind_fun_some _
      | _ => rfl
    · cases v with
      | list vs => exact Option.bind_fun_none _
      | _ => rfl
  | _ => rfl

/-- **A body that is the text of a value lists what the value lists.** -/
theorem listing?_render (v : Json) : listing? (ofString v.render) = listed? v := by
  have answer := reads_record [listingSlot] [] v [] (.inl rfl)
  rw [record?_listing, List.append_nil] at answer
  unfold listing?
  cases given : listed? v with
  | none =>
    rw [given] at answer
    obtain ⟨fault, refused⟩ := answer
    have refused : listingReader (ofString v.render) = .error fault := refused
    rw [refused]
  | some items =>
    rw [given] at answer
    have read : listingReader (ofString v.render) = .ok (items, []) := answer
    rw [read]
    rfl

end Catalog
end HomeMedia
