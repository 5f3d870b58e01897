/-
# Records are read back

A record is written with its fields in the order of declaration, and a field may
be left out where its default is the value meant. Each field is filled by its
own member: a member whose name is that of a later field passes the fields
before it by.
-/

import NetTopology.Json.Record
import NetTopology.Proofs.Json.Reading

namespace NetTopology.Json

namespace Fields

variable {α β : Type}

/-- Members that give the fields their values, in the order of declaration. -/
inductive Gives : {β : Type} → Fields β → List (String × Json) → β → Prop where
  | done : Gives .done [] ()
  | given {α β : Type} {name : String} {reader : Reader α} {absent : Option α} {rest : Fields β}
      {json : Json} {members : List (String × Json)} {value : α} {values : β}
      (hvalue : reader.Accepts json value) (hfresh : ∀ member ∈ members, member.1 ≠ name)
      (hrest : Gives rest members values) :
      Gives (.field name reader absent none rest) ((name, json) :: members) (value, values)
  | omitted {α β : Type} {name : String} {reader : Reader α} {rest : Fields β}
      {members : List (String × Json)} {value : α} {values : β}
      (hfresh : ∀ member ∈ members, member.1 ≠ name) (hrest : Gives rest members values) :
      Gives (.field name reader (some value) none rest) members (value, values)

/-- Members of known names that fill the fields. -/
inductive Fills : Fields β → List (String × Json) → Fields β → Prop where
  | nil (fields : Fields β) : Fills fields [] fields
  | cons {fields next filled : Fields β} {name : String} {json : Json}
      {members : List (String × Json)} {reader : Reader (Fields β)}
      (hmember : fields.member? name = some (.ok reader)) (hvalue : reader.Accepts json next)
      (hmembers : Fills next members filled) : Fills fields ((name, json) :: members) filled

theorem Fills.gathers {fields filled : Fields β} {members : List (String × Json)}
    (hfills : Fills fields members filled) : Reader.Gathers member fields members filled := by
  induction hfills with
  | nil fields => exact .nil fields
  | cons hmember hvalue _ ih =>
      refine .cons ?_ hvalue ih
      rw [member, hmember]

/-- Members of other names pass the first field by. -/
theorem Fills.field {name : String} {reader : Reader α} {absent held : Option α}
    {rest filled : Fields β} {members : List (String × Json)}
    (hfresh : ∀ member ∈ members, member.1 ≠ name) (hfills : Fills rest members filled) :
    Fills (field name reader absent held rest) members (field name reader absent held filled) := by
  induction hfills with
  | nil fields => exact .nil _
  | cons hmember hvalue _ ih =>
      obtain ⟨hname, hlater⟩ := List.forall_mem_cons.mp hfresh
      refine .cons ?_ (hvalue.map fun rest => .field name reader absent held rest)
        (ih hlater)
      unfold member?
      rw [if_neg (Ne.symm hname), hmember]
      rfl

theorem exists_fills_of_gives {fields : Fields β} {members : List (String × Json)} {values : β}
    (hgives : Gives fields members values) :
    ∃ filled, Fills fields members filled ∧ filled.values = .ok values := by
  induction hgives with
  | done => exact ⟨.done, .nil _, rfl⟩
  | @given _ _ name reader absent rest _ _ _ _ hvalue hfresh _ ih =>
      obtain ⟨filled, hfills, hvalues⟩ := ih
      have hfilled := hvalue.map fun value => field name reader absent (some value) rest
      refine ⟨_, .cons ?_ hfilled (hfills.field hfresh), ?_⟩
      · rw [member?, if_pos rfl]
      · rw [Fields.values, hvalues]
  | omitted hfresh _ ih =>
      obtain ⟨filled, hfills, hvalues⟩ := ih
      refine ⟨field _ _ _ none filled, hfills.field hfresh, ?_⟩
      rw [Fields.values, hvalues]

/-- A record is read back from an object with its fields in order. -/
theorem accepts_reader {fields : Fields β} {members : List (String × Json)} {values : β}
    (hgives : Gives fields members values) : fields.reader.Accepts (.obj members) values := by
  obtain ⟨filled, hfills, hvalues⟩ := exists_fills_of_gives hgives
  intro gap text rest hgap hspells hrest
  cases hspells with
  | obj hmembers =>
      rw [List.cons_append, List.append_assoc, List.singleton_append]
      show Reader.runHead fields.read _ = _
      rw [Reader.runHead_append_cons hgap rfl, read, if_pos rfl,
        Reader.readObject_eq_of_separated hmembers hfills.gathers]
      simp only [hvalues]

end Fields

end NetTopology.Json
