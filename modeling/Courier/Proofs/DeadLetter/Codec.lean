import Courier.DeadLetter.Entry
import Courier.Proofs.Delivery.Codec
import Courier.Proofs.EntryId
import Courier.Proofs.Timestamp.Text

/-!
# Dead letters are read back

A payload that is missing is written as `null`, so that one that is `null` is lost
(`DeadLetter.read_payload`). All else of an entry is read as it was written: an entry is read back
if and only if its payload is not `null` (`DeadLetter.decode_toJson_iff`).
-/

set_option autoImplicit false
set_option relaxedAutoImplicit false

namespace Courier

theorem DeadLetterStatus.decode_name (status : DeadLetterStatus) (dialect : Decode.Dialect) :
    decode dialect (.ofJson (.string status.name)) = .ok status := by
  cases status <;> rfl

namespace DeadLetter

variable {e : DeadLetter}

/-- An entry as it is held: its identifier has 128 bits and the number of its attempts 32, its times
are in the calendar and its payload is a value. -/
structure Held (e : DeadLetter) : Prop where
  id : e.id.value < 2 ^ 128
  attempts : e.attempts < 2 ^ 32
  createdAt : e.createdAt.Proper
  updatedAt : e.updatedAt.Proper
  payload : ∀ payload, e.payload = some payload → payload.Fits none

theorem toJson_eq (e : DeadLetter) :
    e.toJson = .object
      [("attempts", .ofNat e.attempts), ("category", .string e.category),
       ("context", .string e.context), ("created_at", .string e.createdAt.text),
       ("id", .string e.id.text), ("payload", e.payload.getD .null), ("reason", .string e.reason),
       ("status", .string e.status.name), ("target", e.target.toJson),
       ("type_id", .string e.typeId), ("updated_at", .string e.updatedAt.text)] := by
  simp only [toJson, Json.ofMembers, Json.sortMembers, List.foldl, Json.insertMember,
    String.reduceLT, String.reduceEq, if_true, if_false]

/-- The payload is read back if it is not `null`, and lost otherwise. -/
theorem read_payload (h : e.Held) :
    ∃ payload, Decode.optional Decode.json .tree (.ofJson (e.payload.getD .null)) = .ok payload ∧
      (payload = e.payload ↔ e.payload ≠ some .null) := by
  cases hpayload : e.payload with
  | none => exact ⟨none, rfl, by simp⟩
  | some payload =>
    by_cases hnull : payload = .null
    · subst hnull
      exact ⟨none, rfl, by simp⟩
    · have hjson : Decode.json .tree (.ofJson payload) = .ok payload :=
        Decode.json_ofJson (h.payload payload hpayload)
      exact ⟨some payload, Decode.optional_ofJson hnull hjson, by simpa using hnull⟩

/-- An entry is read with the payload that is read. -/
theorem decode_of_payload (h : e.Held) {payload : Option Json}
    (hpayload : Decode.optional Decode.json .tree (.ofJson (e.payload.getD .null)) = .ok payload) :
    Decode.ofJson decode e.toJson = .ok { e with payload } := by
  have hattempts : (e.attempts : ℤ) ≤ Int.pow 2 32 - 1 := by
    have hlt := h.attempts
    simp only [Int.pow_eq]
    omega
  have htime : ∀ {t : Timestamp}, t.Proper →
      Timestamp.decode .tree (.ofJson (.string t.text)) = .ok t := fun ht ↦
    (Timestamp.decode_text ht.inCalendar ht.nanos_lt _).trans (congrArg _ ht.settled)
  rw [toJson_eq]
  refine Decode.record_object rfl ?_ (Json.sorted_of_ofMembers e.toJson_eq) rfl
  exact .set rfl (Decode.natural_ofNat hattempts "u32") <| .set rfl rfl <| .set rfl rfl <|
    .set rfl (htime h.createdAt) <| .set rfl (EntryId.decode_text h.id _) <|
    .set rfl hpayload <| .set rfl rfl <| .set rfl (e.status.decode_name _) <|
    .set rfl (e.target.decode_toJson rfl) <| .set rfl rfl <| .set rfl (htime h.updatedAt) .nil

/-- An entry is read back if and only if its payload is not `null`. -/
theorem decode_toJson_iff (h : e.Held) :
    Decode.ofJson decode e.toJson = .ok e ↔ e.payload ≠ some .null := by
  obtain ⟨payload, hread, hsame⟩ := read_payload h
  rw [decode_of_payload h hread, ← hsame, Except.ok.injEq]
  exact ⟨congrArg DeadLetter.payload, fun hpayload ↦ by rw [hpayload]⟩

end DeadLetter

end Courier
