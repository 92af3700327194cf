/-
What is encoded is decoded again.

A kind of record has an encoding and a decoding, which know nothing of each other. A record is kept if
decoding takes its encoding back to it, and its text does so too wherever that can be read as it was
written. The first is a matter of the fields alone; the second follows from it once the encoding is a
value that the reader could have made.
-/

import BotHost.Json.Decoder
import BotHost.Proofs.Json.Reading

namespace BotHost

/-- A way to put records down as structured values, and to take them up again. -/
structure Codec (Record : Type) where
  encode : Record → Json
  decode? : Json → Option Record

namespace Codec

variable {Record : Type} {codec : Codec Record} {record : Record}

/-- The record comes back from its encoding, and from the text of its encoding. -/
structure Keeps (codec : Codec Record) (record : Record) : Prop where
  value : codec.decode? (codec.encode record) = some record
  text : (codec.encode record).Legible →
    (Json.read? (codec.encode record).write).bind codec.decode? = some record

/-- A record is kept if its form is proper and is decoded to it. -/
theorem keeps_of_proper (proper : (codec.encode record).Proper)
    (decodes : codec.decode? (codec.encode record) = some record) : codec.Keeps record where
  value := decodes
  text legible := by rw [proper.read?_write legible, Option.bind_some, decodes]

end Codec

/-- If a function succeeds for every item of a list, going through the list succeeds. -/
theorem mapM_eq_pure {Effect : Type → Type} [Monad Effect] [LawfulMonad Effect]
    {Item Value : Type} {act : Item → Effect Value} {value : Item → Value} {items : List Item}
    (each : ∀ item ∈ items, act item = pure (value item)) :
    items.mapM act = pure (items.map value) := by
  induction items with
  | nil => rfl
  | cons item items inductionHypothesis =>
    rw [List.mapM_cons, each item List.mem_cons_self,
      inductionHypothesis fun other member => each other (.tail _ member), pure_bind, pure_bind,
      List.map_cons]

namespace Json

/-! ### What records are made of -/

section Parts

variable {Record : Type} {encode : Record → Json} {decode? : Json → Option Record}

theorem proper_ofNat {value : Nat} (fits : value < 2 ^ 64) : Proper (ofNat value) :=
  .integer (by omega) (by omega)

theorem proper_ofInt {value : Int} (least : -2 ^ 63 ≤ value) (greatest : value < 2 ^ 63) :
    Proper (ofInt value) :=
  .integer least (by omega)

theorem proper_ofText? (value : Option String) : Proper (ofText? value) := by
  cases value with
  | none => exact .null
  | some value => exact .text value

theorem proper_map {records : List Record} (proper : ∀ record ∈ records, (encode record).Proper) :
    Proper (.list (records.map encode)) := by
  refine .list fun item member => ?_
  obtain ⟨record, among, rfl⟩ := List.mem_map.mp member
  exact proper record among

/-- The encoding of a record, with the names of its fields in order. -/
theorem proper_record (names : List String) (ascending : names.Pairwise (· < ·))
    {fields : List (String × Json)} (named : fields.map Prod.fst = names)
    (proper : ∀ field ∈ fields, Proper field.2) : Proper (.object fields) :=
  .object (named ▸ ascending) proper

theorem asUnsigned?_ofNat {value : Nat} (fits : value < 2 ^ 64) :
    asUnsigned? (ofNat value) = some value := by
  have bounds : (0 : Int) ≤ value ∧ (value : Int) ≤ 0xffffffffffffffff := by omega
  rw [asUnsigned?, ofNat, asInteger?, if_pos bounds]
  rfl

theorem asSigned?_ofInt {value : Int} (least : -2 ^ 63 ≤ value) (greatest : value < 2 ^ 63) :
    asSigned? (ofInt value) = some value :=
  if_pos ⟨least, by omega⟩

theorem asNullable?_null : asNullable? decode? .null = some none := rfl

theorem asNullable?_list (items : List Json) :
    asNullable? decode? (.list items) = (decode? (.list items)).map some := rfl

theorem asNullable?_ofInt (value : Int) :
    asNullable? decode? (ofInt value) = (decode? (ofInt value)).map some := rfl

theorem asNullable?_ofText? (value : Option String) :
    asNullable? asText? (ofText? value) = some value := by
  cases value <;> rfl

/-- A list comes back if every item does. -/
theorem mapM_map {Coded : Type} {encode : Record → Coded} {decode? : Coded → Option Record}
    {records : List Record} (decodes : ∀ record ∈ records, decode? (encode record) = some record) :
    (records.map encode).mapM decode? = some records := by
  have each : ∀ record ∈ records, (decode? ∘ encode) record = pure (id record) := decodes
  rw [List.mapM_map, mapM_eq_pure each, List.map_id]
  rfl

/-- A list of records is decoded if each of them is. -/
theorem asListOf?_map {records : List Record}
    (decodes : ∀ record ∈ records, decode? (encode record) = some record) :
    asListOf? decode? (.list (records.map encode)) = some records :=
  mapM_map decodes

end Parts

end Json

end BotHost
