import EntitySql.Json.Reader
import Mathlib.Data.List.Nodup

/-!
# Distinct keys

Values none of whose objects has a key twice. The values that texts are read as are such values, since
a later member of an object replaces an earlier one.

* `Json.Distinct` says this of a value, at any depth.
* `Json.distinct_ofTextAs?` is about values that are read.
-/

namespace EntitySql

set_option autoImplicit false

namespace Json

mutual

/-- No object in the value has a key twice. -/
def Distinct : Json → Prop
  | .arr items => AllDistinct items
  | .obj members => (Assoc.keys members).Nodup ∧ MembersDistinct members
  | _ => True
termination_by structural value => value

def AllDistinct : List Json → Prop
  | [] => True
  | item :: rest => item.Distinct ∧ AllDistinct rest
termination_by structural items => items

def MembersDistinct : List (String × Json) → Prop
  | [] => True
  | (_, value) :: rest => value.Distinct ∧ MembersDistinct rest
termination_by structural members => members

end

theorem membersDistinct_iff {members : List (String × Json)} :
    MembersDistinct members ↔ ∀ member ∈ members, member.2.Distinct := by
  induction members with
  | nil => exact iff_of_true trivial (List.forall_mem_nil _)
  | cons member rest ih => rw [MembersDistinct, ih, List.forall_mem_cons]

theorem membersDistinct_append {members others : List (String × Json)} :
    MembersDistinct (members ++ others) ↔ MembersDistinct members ∧ MembersDistinct others := by
  simp only [membersDistinct_iff, List.forall_mem_append]

theorem membersDistinct_insert {members : Assoc Json} (h : MembersDistinct members) {value : Json}
    (hvalue : value.Distinct) (key : String) : MembersDistinct (Assoc.insert key value members) := by
  induction members with
  | nil => exact ⟨hvalue, trivial⟩
  | cons member rest ih =>
    rw [Assoc.insert]
    split
    · exact ⟨hvalue, h.2⟩
    · exact ⟨h.1, ih h.2⟩

/-- A member that is added or replaced leaves an object with distinct keys. -/
theorem distinct_insert {members : Assoc Json} (h : (obj members).Distinct) {value : Json}
    (hvalue : value.Distinct) (key : String) : (obj (Assoc.insert key value members)).Distinct := by
  refine ⟨?_, membersDistinct_insert h.2 hvalue key⟩
  rw [Assoc.keys_insert]
  split
  · exact h.1
  · next hfresh =>
    rw [← List.concat_eq_append]
    exact h.1.concat hfresh

end Json

/-! ## Values that are read -/

open Json

theorem Numeral.distinct_value? {numeral : Numeral} {value : Json} (h : numeral.value? = some value) :
    value.Distinct := by
  have hdouble : ∀ double : Option Double, double.map Json.double = some value → value.Distinct := by
    intro double hvalue
    obtain ⟨_, -, rfl⟩ := Option.map_eq_some_iff.1 hvalue
    trivial
  have hint : ∀ int : Int, some (Json.int int) = some value → value.Distinct := by
    rintro int ⟨⟩
    trivial
  obtain ⟨negative, whole, fraction, exponent⟩ := numeral
  cases fraction with
  | some digits => exact hdouble _ h
  | none =>
    cases exponent with
    | some exponent => exact hdouble _ h
    | none =>
      dsimp only [Numeral.value?] at h
      split_ifs at h
      · exact hdouble _ h
      · exact hint _ h
      · exact hdouble _ h
      · exact hint _ h

namespace Document

mutual

theorem distinct_value? : (document : Document) → ∀ {depth shape value},
    document.value? depth shape = some value → value.Distinct
  | null, _, _, _, h => by
    obtain rfl := Option.some.inj h
    trivial
  | bool b, _, _, _, h => by
    obtain rfl := Option.some.inj h
    trivial
  | number numeral, _, _, _, h => numeral.distinct_value? h
  | str units, _, _, _, h => by
    obtain ⟨text, -, rfl⟩ := Option.map_eq_some_iff.1 h
    trivial
  | arr items, depth, shape, value, h => by
    cases depth with
    | zero => cases h
    | succ depth =>
      obtain ⟨values, hvalues, rfl⟩ := Option.map_eq_some_iff.1 h
      exact distinct_values? items hvalues
  | obj members, depth, shape, value, h => by
    cases depth with
    | zero => cases h
    | succ depth =>
      obtain ⟨known, hknown, rfl⟩ := Option.map_eq_some_iff.1 h
      have hnone : (Json.obj []).Distinct := ⟨List.nodup_nil, trivial⟩
      exact distinct_addMembers? members hnone hknown

theorem distinct_values? : (items : List Document) → ∀ {depth shape values},
    values? depth shape items = some values → AllDistinct values
  | [], _, _, _, h => by
    obtain rfl := Option.some.inj h
    trivial
  | item :: rest, depth, shape, values, h => by
    rw [values?] at h
    obtain ⟨value, hvalue, h⟩ := Option.bind_eq_some_iff.1 h
    obtain ⟨others, hothers, h⟩ := Option.bind_eq_some_iff.1 h
    obtain rfl := Option.some.inj h
    exact ⟨distinct_value? item hvalue, distinct_values? rest hothers⟩

theorem distinct_addMembers? : (members : List (List TextUnit × Document)) →
    ∀ {depth shape known added}, (Json.obj known).Distinct →
      addMembers? depth shape known members = some added → (Json.obj added).Distinct
  | [], _, _, _, _, hknown, h => by
    obtain rfl := Option.some.inj h
    exact hknown
  | (units, document) :: rest, depth, shape, known, added, hknown, h => by
    rw [addMembers?] at h
    obtain ⟨key, -, h⟩ := Option.bind_eq_some_iff.1 h
    split at h
    · exact distinct_addMembers? rest hknown h
    · split at h
      · obtain ⟨value, hvalue, h⟩ := Option.bind_eq_some_iff.1 h
        exact distinct_addMembers? rest
          (distinct_insert hknown (distinct_value? document hvalue) key) h
      · cases h

end

end Document

theorem Json.distinct_ofTextAs? {shape : Shape} {text : String} {value : Json}
    (h : Json.ofTextAs? shape text = some value) : value.Distinct := by
  obtain ⟨document, -, hvalue⟩ := Option.bind_eq_some_iff.1 h
  exact document.distinct_value? hvalue

end EntitySql
