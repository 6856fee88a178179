import Courier.Proofs.Json.Members
import Courier.Proofs.Slack.Escaping
import Courier.Proofs.Timestamp.Text

/-!
# What goes out to Slack

Slack renders the text of a message and those texts in its blocks that are marked as markup; in them
an angle bracket would start a link or a mention. Titles, categories and messages are chosen by
others, so none of their angle brackets may come through. `Slack.Inert` says this of a payload,
wherever in it there is markup, and every message is of this kind (`Slack.inert_message`).
-/

set_option autoImplicit false
set_option relaxedAutoImplicit false

namespace Courier

/-! ### The parts of a value -/

namespace Json

/-- A value stands somewhere in a value. -/
inductive Part (part : Json) : Json → Prop
  | whole : Part part part
  | item {items : List Json} {j : Json} (hmem : j ∈ items) (h : Part part j) :
      Part part (.array items)
  | member {members : List (String × Json)} {m : String × Json} (hmem : m ∈ members)
      (h : Part part m.2) : Part part (.object members)

variable {part : Json}

theorem part_string {s : String} (h : Part part (.string s)) : part = .string s := by
  cases h
  rfl

theorem part_array {items : List Json} (h : Part part (.array items)) :
    part = .array items ∨ ∃ j ∈ items, Part part j := by
  cases h with
  | whole => exact .inl rfl
  | item hmem h => exact .inr ⟨_, hmem, h⟩

theorem part_ofMembers {members : List (String × Json)} (h : Part part (.ofMembers members)) :
    part = .ofMembers members ∨ ∃ m ∈ members, Part part m.2 := by
  generalize hwhole : Json.ofMembers members = whole at h
  cases h with
  | whole => exact .inl rfl
  | item => cases hwhole
  | member hmem h =>
    obtain rfl := Json.object.inj hwhole
    exact .inr ⟨_, mem_sortMembers hmem, h⟩

end Json

namespace Slack

/-- The type of a block or of a text in it. -/
def kind? (j : Json) : Option String := (j.get? "type").bind Json.asString?

/-- The text of a header. -/
def heading? (block : Json) : Option String :=
  if kind? block = some "header" then
    ((block.get? "text").bind fun text ↦ text.get? "text").bind Json.asString?
  else none

/-- A payload that is not empty, with one header and without angle brackets in its text and in the
markup of its blocks. -/
structure Inert (heading : String) (payload : Json) : Prop where
  laden : isEmptyPayload payload = false
  text : ∃ text, payload.get? "text" = some (.string text) ∧ Unbracketed text
  markup : ∀ blocks, payload.get? "blocks" = some blocks → ∀ part, Json.Part part blocks →
    kind? part = some "mrkdwn" → ∃ text, part.get? "text" = some (.string text) ∧ Unbracketed text
  header : ∃ blocks, payload.get? "blocks" = some (.array blocks) ∧
    blocks.filterMap heading? = [heading]

/-! ### Texts without angle brackets -/

theorem Unbracketed.append {a b : String} (ha : Unbracketed a) (hb : Unbracketed b) :
    Unbracketed (a ++ b) := by
  simp only [Unbracketed, String.toList_append, List.mem_append, not_or]
  exact ⟨⟨ha.1, hb.1⟩, ha.2, hb.2⟩

theorem unbracketed_padded (width n : ℕ) : Unbracketed (Timestamp.padded width n) := by
  obtain ⟨ds, hpadded, hds, -⟩ := Timestamp.isNumeral_padded width n
  have hdigit : ∀ d < 10, '<' ≠ Nat.digitChar d ∧ '>' ≠ Nat.digitChar d := by decide
  rw [Unbracketed, hpadded]
  simp only [List.mem_map, not_exists, not_and]
  exact ⟨fun d hd h ↦ (hdigit d (hds d hd)).1 h.symm, fun d hd h ↦ (hdigit d (hds d hd)).2 h.symm⟩

theorem unbracketed_yearText (year : ℤ) : Unbracketed (Timestamp.yearText year) := by
  rw [Timestamp.yearText]
  split_ifs
  · exact unbracketed_padded _ _
  · exact .append (by decide) (unbracketed_padded _ _)
  · exact .append (by decide) (unbracketed_padded _ _)

theorem unbracketed_dateTimeText (t : Timestamp) {separator : String}
    (h : Unbracketed separator) : Unbracketed (t.dateTimeText separator) := by
  have hdash : Unbracketed "-" := by decide
  have hcolon : Unbracketed ":" := by decide
  refine .append (.append (.append (.append (.append (.append (.append (.append (.append (.append
    ?_ hdash) ?_) hdash) ?_) h) ?_) hcolon) ?_) hcolon) ?_
  · exact unbracketed_yearText _
  all_goals exact unbracketed_padded _ _

/-! ### The markup of a record -/

/-- A record with its type and one more member. -/
theorem get?_record (kind key other : String) (value : Json) :
    (Json.ofMembers [("type", .string kind), (key, value)]).get? other =
      if other = key then some value
      else if other = "type" then some (.string kind)
      else none :=
  (Json.lookup_insertMember key other value _).trans
    (congrArg (ite (other = key) (some value)) (Json.lookup_insertMember "type" other _ []))

variable {part : Json}

/-- Markup in a record of another type is in its other member, and markup that is a record has its
text there. -/
theorem part_record {kind key : String} {value : Json} (hkey : key ≠ "type")
    (h : Json.Part part (.ofMembers [("type", .string kind), (key, value)]))
    (hkind : kind? part = some "mrkdwn") :
    kind = "mrkdwn" ∧ part.get? key = some value ∨ Json.Part part value := by
  obtain rfl | ⟨m, hmem, hpart⟩ := Json.part_ofMembers h
  · rw [kind?, get?_record, if_neg (Ne.symm hkey), if_pos rfl] at hkind
    rw [get?_record, if_pos rfl]
    exact .inl ⟨Option.some.inj hkind, rfl⟩
  · obtain rfl | hmem := List.mem_cons.mp hmem
    · obtain rfl := Json.part_string hpart
      cases hkind
    · rw [List.mem_singleton.mp hmem] at hpart
      exact .inr hpart

/-- The texts of a block. -/
def Block.texts : Block → List BlockText
  | header text => [text]
  | body text => [text]
  | context elements => elements

/-- Markup in the record of a text is the text. -/
theorem BlockText.part_toJson {t : BlockText} (h : Json.Part part t.toJson)
    (hkind : kind? part = some "mrkdwn") :
    ∃ text, t = .markup text ∧ part.get? "text" = some (.string text) := by
  cases t with
  | plain text =>
    obtain ⟨hplain, -⟩ | hpart := part_record (by decide) h hkind
    · exact absurd hplain (by decide)
    · obtain rfl := Json.part_string hpart
      cases hkind
  | markup text =>
    obtain ⟨-, htext⟩ | hpart := part_record (by decide) h hkind
    · exact ⟨text, rfl, htext⟩
    · obtain rfl := Json.part_string hpart
      cases hkind

/-- Markup in the record of a block is one of its texts. -/
theorem Block.part_toJson {b : Block} (h : Json.Part part b.toJson)
    (hkind : kind? part = some "mrkdwn") :
    ∃ text, .markup text ∈ b.texts ∧ part.get? "text" = some (.string text) := by
  have htext : ∀ t ∈ b.texts, Json.Part part t.toJson →
      ∃ text, .markup text ∈ b.texts ∧ part.get? "text" = some (.string text) := by
    intro t ht hpart
    obtain ⟨text, rfl, hget⟩ := BlockText.part_toJson hpart hkind
    exact ⟨text, ht, hget⟩
  cases b with
  | header t | body t =>
    obtain ⟨hother, -⟩ | hpart := part_record (by decide) h hkind
    · exact absurd hother (by decide)
    · exact htext t (List.mem_singleton.mpr rfl) hpart
  | context elements =>
    obtain ⟨hother, -⟩ | hpart := part_record (by decide) h hkind
    · exact absurd hother (by decide)
    · obtain rfl | ⟨j, hj, hpart⟩ := Json.part_array hpart
      · cases hkind
      · obtain ⟨t, ht, rfl⟩ := List.mem_map.mp hj
        exact htext t ht hpart

theorem heading?_toJson (b : Block) :
    heading? b.toJson = match b with
      | .header (.plain text) | .header (.markup text) => some text
      | _ => none := by
  cases b with
  | header t =>
    cases t <;>
      simp [heading?, kind?, Block.toJson, BlockText.toJson, get?_record, Json.asString?]
  | body t | context elements => simp [heading?, kind?, Block.toJson, get?_record, Json.asString?]

/-! ### The record of a message -/

theorem get?_toJson (m : Message) :
    m.toJson.get? "text" = some (.string m.text) ∧
      m.toJson.get? "blocks" = some (.array (m.blocks.map Block.toJson)) := by
  obtain ⟨text, blocks, _ | name, _ | emoji⟩ := m <;>
    simp [Message.toJson, Json.ofMembers, Json.sortMembers, Json.get?, Json.lookup_insertMember]

/-- A value with a member is not empty. -/
theorem laden_of_get? {payload value : Json} {key : String} (h : payload.get? key = some value) :
    isEmptyPayload payload = false := by
  cases payload with
  | object members =>
    cases members with
    | nil => cases h
    | cons => rfl
  | _ => cases h

variable (style : Style) (definition : TypeDefinition) (n : Notification)

/-- Whatever the markup of a message quotes is escaped. -/
theorem unbracketed_texts {text : String}
    (h : .markup text ∈ (message style definition n).blocks.flatMap Block.texts) :
    Unbracketed text := by
  obtain rfl | ⟨-, rfl⟩ : text = escapeMarkup (body definition n) ∨
      style.contextBlock = true ∧
        text = "*" ++ escapeMarkup n.category ++ "* | " ++ n.occurredAt.dateTimeText " " ++
          " UTC" := by
    by_cases hcontext : style.contextBlock <;> simpa [message, Block.texts, hcontext] using h
  · exact unbracketed_escapeMarkup _
  · have hblank : Unbracketed " " := by decide
    refine .append (.append (.append (.append ?_ (unbracketed_escapeMarkup _)) ?_)
      (unbracketed_dateTimeText _ hblank)) ?_ <;> decide

theorem inert_message :
    Inert (String.ofList (definition.title.toList.take headerLength))
      (message style definition n).toJson := by
  obtain ⟨htext, hblocks⟩ := get?_toJson (message style definition n)
  refine ⟨laden_of_get? htext, ⟨_, htext, ?_⟩, fun blocks hget part hpart hkind ↦ ?_,
    _, hblocks, ?_⟩
  · refine .append (.append (.append ?_ (unbracketed_escapeMarkup _)) ?_)
      (unbracketed_escapeMarkup _) <;> decide
  · obtain rfl := Option.some.inj (hblocks.symm.trans hget)
    obtain rfl | ⟨j, hj, hpart⟩ := Json.part_array hpart
    · cases hkind
    · obtain ⟨b, hb, rfl⟩ := List.mem_map.mp hj
      obtain ⟨text, hmem, htext⟩ := Block.part_toJson hpart hkind
      exact ⟨text, htext, unbracketed_texts style definition n (List.mem_flatMap.mpr ⟨b, hb, hmem⟩)⟩
  · rw [List.filterMap_map]
    by_cases hcontext : style.contextBlock <;>
      simp [message, hcontext, heading?_toJson]

/-! ### Formatting -/

/-- The markup is escaped faithfully and throughout: escaping puts an entity in the place of each
special character and of no other, and loses nothing; and a notification whose type is registered,
and no other, becomes a payload with the head of its title for a header, in which nothing that is
notified brings an angle bracket into the markup. -/
theorem escaped_throughout :
    (∀ text, escapeMarkup text = String.ofList (text.toList.flatMap escapeChar)) ∧
      (∀ a b, escapeMarkup (a ++ b) = escapeMarkup a ++ escapeMarkup b) ∧
      (∀ text, Unbracketed (escapeMarkup text) ∧ WellReferenced (escapeMarkup text)) ∧
      (∀ text, unescapeMarkup (escapeMarkup text) = text) ∧
      Function.Injective escapeMarkup ∧
      ∀ (style : Style) (types : TypeRegistry) (n : Notification),
        ((∃ payload, (formatter style).format types n = .payload payload) ↔
          n.typeId ∈ types.ids) ∧
        ∀ payload, (formatter style).format types n = .payload payload →
          ∃ definition, types.get? n.typeId = some definition ∧
            Inert (String.ofList (definition.title.toList.take 150)) payload := by
  refine ⟨fun text ↦ ?_, escapeMarkup_append, fun text ↦
    ⟨unbracketed_escapeMarkup text, wellReferenced_escapeMarkup text⟩, unescapeMarkup_escapeMarkup,
    Function.LeftInverse.injective unescapeMarkup_escapeMarkup, fun style types n ↦ ?_⟩
  · rw [← toList_escapeMarkup, String.ofList_toList]
  · have hids : (types.get? n.typeId).isSome ↔ n.typeId ∈ types.ids := Json.isSome_lookup_iff
    rw [← hids]
    simp only [formatter, format, TypeRegistry.get]
    cases hget : types.get? n.typeId with
    | none => simp
    | some definition =>
      refine ⟨iff_of_true ⟨_, rfl⟩ rfl, fun payload hpayload ↦ ⟨definition, rfl, ?_⟩⟩
      obtain rfl := Rendering.payload.inj hpayload
      exact inert_message style definition n

end Slack

end Courier
