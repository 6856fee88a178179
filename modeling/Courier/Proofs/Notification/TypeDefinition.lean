import Courier.Proofs.FirstCome
import Courier.Proofs.Notification.Codec
import Mathlib.Data.Set.Basic

/-!
# Which type definitions there are

A definition is valid if its identifier, title and category have something to see
(`TypeDefinition.Valid`). The definitions that are made anew and given versions are these, each of
them (`TypeDefinition.obtained_empty_iff`). Reading a definition checks nothing: each one, valid or
not, is what the text of its record is read as (`TypeDefinition.decode_text`), and the text of an
array of its fields (`TypeDefinition.decode_items`). So all definitions that can be had are valid if
and only if all that are read are (`TypeDefinition.obtained_valid_iff`), and a registry holds
valid definitions if and only if the first one offered for each identifier is valid
(`TypeRegistry.holds_valid_iff`).
-/

set_option autoImplicit false
set_option relaxedAutoImplicit false

namespace Courier

namespace TypeDefinition

variable {d : TypeDefinition} {id title defaultMessage category : String} {texts : Set String}

/-- Identifier, title and category have something to see. -/
structure Valid (d : TypeDefinition) : Prop where
  id : Text.Shows d.id
  title : Text.Shows d.title
  category : Text.Shows d.category

/-- The definitions that can be had by making them, reading them from some texts, and giving them
versions. A copy of a definition is the definition again. -/
inductive Obtained (texts : Set String) : TypeDefinition → Prop where
  | made {id title defaultMessage category : String} {d : TypeDefinition}
      (h : TypeDefinition.new id title defaultMessage category = .ok d) : Obtained texts d
  | read {text : String} {d : TypeDefinition} (htext : text ∈ texts)
      (h : Decode.ofText decode text = .ok d) : Obtained texts d
  | versioned {d : TypeDefinition} (h : Obtained texts d) (version : String) :
      Obtained texts (d.withSchemaVersion version)

/-! ### Definitions that are made -/

/-- A definition is made of valid fields, and of no others. -/
theorem new_eq_ok_iff :
    TypeDefinition.new id title defaultMessage category = .ok d ↔
      d.Valid ∧ d = ⟨id, title, defaultMessage, category, none⟩ := by
  have hvalid : firstBlank? [("id", id), ("title", title), ("category", category)] = none ↔
      Valid ⟨id, title, defaultMessage, category, none⟩ := by
    simp only [firstBlank?_eq_none_iff, List.forall_mem_cons, List.not_mem_nil, false_implies,
      implies_true, and_true]
    exact ⟨fun h ↦ ⟨h.1, h.2.1, h.2.2⟩, fun h ↦ ⟨h.id, h.title, h.category⟩⟩
  rw [TypeDefinition.new]
  cases hblank : firstBlank? [("id", id), ("title", title), ("category", category)] with
  | some field =>
    refine ⟨fun h ↦ absurd h (by simp), fun ⟨hd, heq⟩ ↦ ?_⟩
    rw [hvalid.mpr (heq ▸ hd)] at hblank
    cases hblank
  | none =>
    refine ⟨fun h ↦ ?_, fun ⟨_, heq⟩ ↦ by rw [heq]⟩
    obtain rfl := Except.ok.inj h
    exact ⟨hvalid.mp hblank, rfl⟩

theorem Valid.withSchemaVersion (h : d.Valid) (version : String) :
    (d.withSchemaVersion version).Valid :=
  ⟨h.id, h.title, h.category⟩

/-- All definitions that can be had are valid if and only if all that are read are. -/
theorem obtained_valid_iff :
    (∀ d, Obtained texts d → d.Valid) ↔
      ∀ text ∈ texts, ∀ d, Decode.ofText decode text = .ok d → d.Valid := by
  constructor
  · exact fun h text htext d hread ↦ h d (.read htext hread)
  · intro h d hd
    induction hd with
    | made hnew => exact (new_eq_ok_iff.mp hnew).1
    | read htext hread => exact h _ htext _ hread
    | versioned _ version ih => exact ih.withSchemaVersion version

/-- The definitions that can be had without reading any are the valid ones. -/
theorem obtained_empty_iff : Obtained ∅ d ↔ d.Valid := by
  refine ⟨obtained_valid_iff.mpr (fun _ htext ↦ absurd htext (Set.notMem_empty _)) d, fun h ↦ ?_⟩
  obtain ⟨id, title, defaultMessage, category, version⟩ := d
  have hmade : Obtained ∅ ⟨id, title, defaultMessage, category, none⟩ :=
    .made (new_eq_ok_iff.mpr ⟨⟨h.id, h.title, h.category⟩, rfl⟩)
  cases version with
  | none => exact hmade
  | some version => exact hmade.versioned version

/-! ### Definitions that are read -/

/-- The fields of a definition in order; a schema version that is not there is left out. -/
def items (d : TypeDefinition) : List Json :=
  [.string d.id, .string d.title, .string d.defaultMessage, .string d.category] ++
    d.schemaVersion.toList.map Json.string

theorem toJson_eq (d : TypeDefinition) :
    d.toJson = .object
      ([("category", .string d.category), ("default_message", .string d.defaultMessage),
        ("id", .string d.id)] ++
        ((d.schemaVersion.toList.map fun version ↦ ("schema_version", .string version)) ++
          [("title", .string d.title)])) := by
  obtain ⟨id, title, defaultMessage, category, version | version⟩ := d <;>
    simp only [toJson, Json.ofMembers, Json.sortMembers, List.foldl, Json.insertMember,
      Option.toList, List.map, List.nil_append, List.cons_append, List.append_nil,
      String.reduceLT, String.reduceEq, if_true, if_false]

/-- The text of the record of a definition is read as the definition, valid or not. -/
theorem decode_text (d : TypeDefinition) : Decode.ofText decode d.toJson.text = .ok d := by
  have hlasting : d.toJson.Lasting 1 := by
    rw [toJson_eq]
    refine .object (Json.sorted_of_ofMembers d.toJson_eq) fun m hm ↦ ?_
    have hstring : ∃ s, m.2 = .string s := by
      simp only [List.mem_append, List.mem_cons, List.not_mem_nil, or_false, List.mem_map] at hm
      obtain (rfl | rfl | rfl) | ⟨version, -, rfl⟩ | rfl := hm <;> exact ⟨_, rfl⟩
    obtain ⟨s, hs⟩ := hstring
    exact hs ▸ .string s
  rw [Decode.ofText_text hlasting, toJson_eq]
  refine Decode.record_object rfl ?_ (Json.sorted_of_ofMembers d.toJson_eq) ?_
  · exact .set rfl rfl <| .set rfl rfl <| .set rfl rfl <| .option rfl (fun _ _ ↦ rfl) rfl <|
      .set rfl rfl .nil
  · cases d.schemaVersion <;> rfl

/-- So is the text of an array of its fields. -/
theorem decode_items (d : TypeDefinition) :
    Decode.ofText decode (Json.array d.items).text = .ok d := by
  have hlasting : (Json.array d.items).Lasting 1 := by
    refine .array fun j hj ↦ ?_
    have hstring : ∃ s, j = .string s := by
      simp only [items, List.mem_append, List.mem_cons, List.not_mem_nil, or_false,
        List.mem_map] at hj
      obtain (rfl | rfl | rfl | rfl) | ⟨version, -, rfl⟩ := hj <;> exact ⟨_, rfl⟩
    obtain ⟨s, hs⟩ := hstring
    exact hs ▸ .string s
  rw [Decode.ofText_text hlasting]
  obtain ⟨id, title, defaultMessage, category, version | version⟩ := d <;> rfl

end TypeDefinition

namespace TypeRegistry

/-- All that a registry holds after some definitions were offered to it is valid if and only if the
first of each identifier is. -/
theorem holds_valid_iff {ds : List TypeDefinition} :
    (∀ id d, (firstCome.registerEach {} ds).get? id = some d → d.Valid) ↔
      ∀ before d after, ds = before ++ d :: after → d.id ∉ before.map TypeDefinition.id →
        d.Valid := by
  have hfound : ∀ id d, (firstCome.registerEach {} ds).get? id = some d ↔
      ∃ before d' after, ds = before ++ d' :: after ∧ id ∉ before.map TypeDefinition.id ∧
        d'.id = id ∧ d' = d := fun id d ↦ by
    have hget : (firstCome.registerEach {} ds).get? id =
        (ds.map fun d ↦ (d.id, d)).lookup id :=
      FirstCome.get?_registerEach (F := firstCome) ⟨[]⟩ ds id
    rw [hget]
    exact FirstCome.lookup_eq_some_iff (F := firstCome)
  constructor
  · intro h before d after hsplit hnew
    exact h d.id d ((hfound _ _).mpr ⟨before, d, after, hsplit, hnew, rfl, rfl⟩)
  · intro h id d hd
    obtain ⟨before, d', after, hsplit, hnew, rfl, rfl⟩ := (hfound id d).mp hd
    exact h before d' after hsplit hnew

end TypeRegistry

namespace TypeDefinition

/-- Every definition that is made anew and given versions is valid, and every valid definition can
be had in this way. What is read from a text is not checked: all definitions that can be had with the
help of some texts are valid if and only if all that these texts are read as are, and each
definition, valid or not, is what a text is read as, be it an object or an array. Whatever
definitions are offered to a registry, all that it holds are valid if and only if the first one of
each identifier is. -/
theorem valid_unless_read (texts : Set String) :
    (∀ d, Obtained ∅ d ↔ d.Valid) ∧
    ((∀ d, Obtained texts d → d.Valid) ↔
      ∀ text ∈ texts, ∀ d, Decode.ofText decode text = .ok d → d.Valid) ∧
    (∀ d, Decode.ofText decode d.toJson.text = .ok d ∧
      Decode.ofText decode (Json.array d.items).text = .ok d) ∧
    ∀ ds, (∀ id d, (TypeRegistry.firstCome.registerEach {} ds).get? id = some d → d.Valid) ↔
      ∀ before d after, ds = before ++ d :: after → d.id ∉ before.map TypeDefinition.id →
        d.Valid :=
  ⟨fun _ ↦ obtained_empty_iff, obtained_valid_iff,
    fun d ↦ ⟨d.decode_text, d.decode_items⟩, fun _ ↦ TypeRegistry.holds_valid_iff⟩

/-- A definition with a blank identifier. -/
def nameless : TypeDefinition where
  id := " "
  title := "Build failed"
  defaultMessage := ""
  category := "ci"

/-- It cannot be made, but it is read from its record, and a registry holds it then. -/
theorem nameless_is_held :
    TypeDefinition.new " " "Build failed" "" "ci" = .error (.blank "id") ∧
    Decode.ofText decode nameless.toJson.text = .ok nameless ∧
    (TypeRegistry.firstCome.registerEach {} [nameless]).get? " " = some nameless ∧
    ¬ nameless.Valid := by
  refine ⟨rfl, nameless.decode_text, by decide, fun h ↦ ?_⟩
  exact absurd (Text.shows_iff.mp h.id) (by decide)

end TypeDefinition

end Courier
