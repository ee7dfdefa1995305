import PLoadtesting.Lib.Table
import PLoadtesting.TargetApps.Common
import Mathlib.Data.List.Nodup

/-!
`crud_api.py`: items in a dictionary, numbered by a counter.

Items are neither changed nor removed, so the app is a list of the bodies that it
was given (`Refines`): an item is a body with its place in the list, and every
reply can be told from the list (`replies_appendOnly`).
-/

namespace PLoadtesting.TargetApps.CrudApi

open Keyed

structure Item where
  id : Nat
  name : String
  value : Int
  deriving DecidableEq

/-- `ItemCreate`. -/
structure ItemCreate where
  name : String
  value : Int := 0
  bounds : (lengthBetween 1 128 name && between 0 1000000 value) = true

/-- `_items`, and the next value of `_counter`. -/
structure Store where
  items : Table Item.id
  counter : Nat

def initial : Store := ⟨Table.empty, 1⟩

inductive Request where
  | health
  | listItems
  | createItem (body : ItemCreate)
  | getItem (itemId : Int)

inductive Reply where
  | refused (error : HTTPException)
  | healthy
  | listed (items : List Item) (count : Nat)
  | created (item : Item)
  | item (item : Item)
  deriving DecidableEq

def Reply.statusCode : Reply → Nat
  | .refused error => error.statusCode
  | .created _ => 201
  | _ => 200

/-- The refusal of `get_item`. -/
def notFound (itemId : Int) : Reply := .refused ⟨404, s!"Item {itemId} not found."⟩

/-- `create_item`. -/
def createItem (body : ItemCreate) (s : Store) : Reply × Store :=
  let itemId := s.counter
  let item := ⟨itemId, body.name, body.value⟩
  (.created item, ⟨s.items.upsert item, s.counter + 1⟩)

/-- `get_item`. An item is a dictionary with keys, so it is never falsy. -/
def getItem (itemId : Int) (s : Store) : Reply :=
  match itemId with
  | .ofNat n =>
      match s.items.find? n with
      | none => notFound itemId
      | some item => .item item
  | .negSucc _ => notFound itemId

/-- The reply to a request, and the store after it. -/
def Request.handle : Request → Store → Reply × Store
  | .health => fun s => (.healthy, s)
  | .listItems => fun s => (.listed s.items.rows s.items.rows.length, s)
  | .createItem body => CrudApi.createItem body
  | .getItem itemId => fun s => (CrudApi.getItem itemId s, s)

/-- The replies to a sequence of requests. -/
def replies (s : Store) : List Request → List Reply
  | [] => []
  | request :: requests => (request.handle s).1 :: replies (request.handle s).2 requests

theorem getItem_of_find? {s : Store} {n : Nat} {item : Item}
    (stored : s.items.find? n = some item) : getItem n s = .item item := by
  change (match s.items.find? n with
    | none => notFound n
    | some item => .item item) = _
  rw [stored]

/-! ### The list of bodies -/

/-- The bodies with their places in the list, from 1 on. -/
def numbered (bodies : List ItemCreate) : List Item :=
  bodies.mapIdx fun i body => ⟨i + 1, body.name, body.value⟩

/-- What is answered when the bodies have been created, and the bodies after it. -/
def answer (bodies : List ItemCreate) : Request → Reply × List ItemCreate
  | .health => (.healthy, bodies)
  | .listItems => (.listed (numbered bodies) bodies.length, bodies)
  | .createItem body => (.created ⟨bodies.length + 1, body.name, body.value⟩, bodies ++ [body])
  | .getItem itemId =>
      (if 1 ≤ itemId then ((numbered bodies)[itemId.toNat - 1]?).elim (notFound itemId) .item
        else notFound itemId, bodies)

def answers (bodies : List ItemCreate) : List Request → List Reply
  | [] => []
  | request :: requests => (answer bodies request).1 :: answers (answer bodies request).2 requests

/-- The items are the bodies in order, and the counter is the next place. -/
structure Refines (s : Store) (bodies : List ItemCreate) : Prop where
  rows : s.items.rows = numbered bodies
  counter : s.counter = bodies.length + 1

section Refinement

variable {s : Store} {bodies : List ItemCreate}

@[simp] theorem length_numbered : (numbered bodies).length = bodies.length := by
  simp [numbered]

theorem numbered_concat (body : ItemCreate) : numbered (bodies ++ [body]) =
    numbered bodies ++ [⟨bodies.length + 1, body.name, body.value⟩] := by
  simp [numbered, List.mapIdx_append]

/-- The id of an item is its place. -/
theorem id_of_getElem? {k : Nat} {item : Item} (here : (numbered bodies)[k]? = some item) :
    item.id = k + 1 := by
  simp only [numbered, List.getElem?_mapIdx, Option.map_eq_some_iff] at here
  obtain ⟨body, _, rfl⟩ := here
  rfl

theorem refines_initial : Refines initial [] := ⟨rfl, rfl⟩

/-- An item is looked up by its place. -/
theorem Refines.find? (refines : Refines s bodies) (n : Nat) :
    s.items.find? n = if 1 ≤ n then (numbered bodies)[n - 1]? else none := by
  ext item
  rw [Table.find?_eq_some_iff, Table.mem_def, refines.rows]
  constructor
  · rintro ⟨mem, rfl⟩
    obtain ⟨k, here⟩ := List.getElem?_of_mem mem
    rw [id_of_getElem? here, if_pos (Nat.le_add_left 1 k)]
    exact here
  · intro here
    split at here
    · rename_i first
      have place := id_of_getElem? here
      exact ⟨List.mem_of_getElem? here, by omega⟩
    · cases here

/-- A new item goes to the end. -/
theorem Refines.createItem (refines : Refines s bodies) (body : ItemCreate) :
    Refines (CrudApi.createItem body s).2 (bodies ++ [body]) := by
  have unused : s.counter ∉ s.items.rows.map Item.id := by
    rw [List.mem_map]
    rintro ⟨item, mem, same⟩
    rw [refines.rows] at mem
    obtain ⟨k, here⟩ := List.getElem?_of_mem mem
    obtain ⟨inside, _⟩ := List.getElem?_eq_some_iff.mp here
    have place := id_of_getElem? here
    rw [length_numbered] at inside
    rw [refines.counter] at same
    omega
  constructor
  · change (if s.counter ∈ s.items.rows.map Item.id then _ else s.items.rows ++ [_]) = _
    rw [if_neg unused, refines.rows, refines.counter, numbered_concat]
  · simp only [CrudApi.createItem, refines.counter, List.length_append, List.length_singleton]

/-- A request is answered from the list, and keeps it in step. -/
theorem Refines.handle (refines : Refines s bodies) (request : Request) :
    (request.handle s).1 = (answer bodies request).1 ∧
      Refines (request.handle s).2 (answer bodies request).2 := by
  cases request with
  | health => exact ⟨rfl, refines⟩
  | listItems =>
      refine ⟨?_, refines⟩
      simp only [Request.handle, answer, refines.rows, length_numbered]
  | createItem body =>
      refine ⟨?_, refines.createItem body⟩
      simp only [Request.handle, CrudApi.createItem, answer, refines.counter]
  | getItem itemId =>
      refine ⟨?_, refines⟩
      cases itemId with
      | ofNat n =>
          simp only [Request.handle, CrudApi.getItem, answer, refines.find?]
          have place : 1 ≤ Int.ofNat n ↔ 1 ≤ n := @Int.ofNat_le 1 n
          by_cases first : 1 ≤ n
          · rw [if_pos first, if_pos (place.mpr first)]
            change _ = (numbered bodies)[n - 1]?.elim _ _
            cases (numbered bodies)[n - 1]? <;> rfl
          · rw [if_neg first, if_neg (mt place.mp first)]
      | negSucc n =>
          simp only [Request.handle, CrudApi.getItem, answer]
          rw [if_neg (by omega)]

/-- Every reply is the answer from the bodies that were created before. -/
theorem Refines.replies_eq (refines : Refines s bodies) (requests : List Request) :
    replies s requests = answers bodies requests := by
  induction requests generalizing s bodies with
  | nil => rfl
  | cons request requests ih =>
      obtain ⟨same, next⟩ := refines.handle request
      rw [replies, answers, same, ih next]

theorem replies_appendOnly (requests : List Request) :
    replies initial requests = answers [] requests :=
  refines_initial.replies_eq requests

end Refinement

end PLoadtesting.TargetApps.CrudApi
