import PLoadtesting.Lib.Table
import Mathlib.Data.List.TakeWhile

/-!
Property definitions on a command line: arguments `<option><name>=<value>`, as
in `-Dname=value`, of which the last one for a name counts.

A name is what stands before the first `=`, so an argument built from a key that
contains `=` itself defines a shorter name (`parse_define`).
-/

namespace CommandLine

open Keyed

/-- The argument that is meant to define `key`. -/
def define (option key value : String) : String := option ++ key ++ "=" ++ value

/-- The name and value of an argument that starts with the option. -/
def parse (option argument : String) : Option (String × String) :=
  if option.toList.isPrefixOf argument.toList then
    let rest := argument.toList.drop option.toList.length
    if '=' ∈ rest then
      some (String.ofList (rest.takeWhile (· ≠ '=')),
        String.ofList ((rest.dropWhile (· ≠ '=')).drop 1))
    else none
  else none

/-- The properties that a list of arguments defines. -/
def properties (option : String) (arguments : List String) : Dict String :=
  Dict.ofItems (arguments.filterMap (parse option))

/-- The name that an argument built from `key` defines. -/
def nameOf (key : String) : String := String.ofList (key.toList.takeWhile (· ≠ '='))

/-- The value that an argument built from `key` and `value` gives it. -/
def valueOf (key value : String) : String :=
  String.ofList (((key.toList ++ '=' :: value.toList).dropWhile (· ≠ '=')).drop 1)

theorem takeWhile_append_eq_sign (cs ds : List Char) :
    (cs ++ '=' :: ds).takeWhile (· ≠ '=') = cs.takeWhile (· ≠ '=') := by
  induction cs with
  | nil => simp
  | cons c cs ih =>
      by_cases sign : c = '='
      · simp [sign]
      · simp only [List.cons_append, List.takeWhile_cons, ih]

/-- An argument is read as the name before the first `=` and the text after
it. -/
theorem parse_define (option key value : String) :
    parse option (define option key value) = some (nameOf key, valueOf key value) := by
  have text : (define option key value).toList =
      option.toList ++ (key.toList ++ '=' :: value.toList) := by
    simp [define, String.toList_append]
  have sign : '=' ∈ key.toList ++ '=' :: value.toList := by simp
  have starts : option.toList.isPrefixOf
      (option.toList ++ (key.toList ++ '=' :: value.toList)) = true := by
    rw [List.isPrefixOf_iff_prefix]
    exact List.prefix_append _ _
  rw [parse, text, if_pos starts, List.drop_left]
  dsimp only
  rw [if_pos sign, takeWhile_append_eq_sign]
  rfl

/-- A key without `=` defines itself. -/
theorem nameOf_of_not_mem {key : String} (h : '=' ∉ key.toList) : nameOf key = key := by
  have whole : key.toList.takeWhile (· ≠ '=') = key.toList := by
    rw [List.takeWhile_eq_self_iff]
    intro c mem
    apply decide_eq_true
    rintro rfl
    exact h mem
  rw [nameOf, whole, String.ofList_toList]

theorem valueOf_of_not_mem {key value : String} (h : '=' ∉ key.toList) :
    valueOf key value = value := by
  have skipped : (key.toList ++ '=' :: value.toList).dropWhile (· ≠ '=') = '=' :: value.toList := by
    rw [List.dropWhile_append_of_pos]
    · simp
    · intro c mem
      apply decide_eq_true
      rintro rfl
      exact h mem
  rw [valueOf, skipped, List.drop_one, List.tail_cons, String.ofList_toList]

/-- Later arguments win. -/
theorem properties_append (option : String) (xs ys : List String) (name : String) :
    (properties option (xs ++ ys)).get? name =
      ((properties option ys).get? name).or ((properties option xs).get? name) := by
  have split : properties option (xs ++ ys) =
      (properties option xs).update (ys.filterMap (parse option)) := by
    simp [properties, Dict.ofItems, Dict.update, List.filterMap_append, List.foldl_append]
  rw [split, Dict.get?_update_ofItems]
  rfl

/-- What arguments built from a list of items define. -/
theorem properties_define (option : String) (items : List (String × String)) :
    properties option (items.map fun item => define option item.1 item.2) =
      Dict.ofItems (items.map fun item => (nameOf item.1, valueOf item.1 item.2)) := by
  rw [properties, List.filterMap_map]
  congr 1
  induction items with
  | nil => rfl
  | cons item items ih => simp [parse_define]

/-- Items with plain keys are defined as they are. -/
theorem properties_define_plain (option : String) (items : List (String × String))
    (plain : ∀ item ∈ items, '=' ∉ item.1.toList) :
    properties option (items.map fun item => define option item.1 item.2) =
      Dict.ofItems items := by
  rw [properties_define]
  congr 1
  have same : ∀ item ∈ items, (nameOf item.1, valueOf item.1 item.2) = item := by
    intro item mem
    rw [nameOf_of_not_mem (plain item mem), valueOf_of_not_mem (plain item mem)]
  rw [List.map_congr_left same, List.map_id']

/-- An argument that does not start with the option defines nothing. -/
theorem properties_other (option : String) (arguments : List String)
    (other : ∀ argument ∈ arguments, option.toList.isPrefixOf argument.toList = false) :
    properties option arguments = Table.empty := by
  have nothing : arguments.filterMap (parse option) = [] := by
    apply List.filterMap_eq_nil_iff.mpr
    intro argument mem
    rw [parse, if_neg]
    rw [other argument mem]
    exact Bool.false_ne_true
  rw [properties, nothing]
  rfl

end CommandLine
