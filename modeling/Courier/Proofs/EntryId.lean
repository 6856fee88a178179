import Courier.EntryId
import Courier.Proofs.Numerals

/-!
# Identifiers are read back

An identifier of 128 bits has thirty-two digits (`EntryId.length_hexChars`), which are the number
again (`ofHex_hexChars`); the hyphens of the text stand between five groups of them and are left out
in reading (`ofHyphenated_groups`).
-/

set_option autoImplicit false
set_option relaxedAutoImplicit false

namespace Courier.EntryId

open Courier.Numerals

variable {id : EntryId}

theorem length_hexChars (hid : id.value < 2 ^ 128) : id.hexChars.length = 32 :=
  length_padded (by decide) (by omega)

theorem ofHex_of_isNumeral {n : ℕ} {cs : List Char} (h : IsNumeral 16 n cs) : ofHex? cs = some ⟨n⟩ := by
  obtain ⟨ds, rfl, hds, rfl⟩ := h
  have hread : (ds.map Nat.digitChar).mapM Json.hexDigit? = some ds := by
    induction ds with
    | nil => rfl
    | cons d ds ih =>
      rw [List.map_cons, List.mapM_cons, hexDigit_digitChar (hds d List.mem_cons_self),
        ih fun d hd ↦ hds d (List.mem_cons_of_mem _ hd)]
      rfl
  rw [ofHex?, hread]
  rfl

theorem ofHex_hexChars (id : EntryId) : ofHex? id.hexChars = some id :=
  ofHex_of_isNumeral ((isNumeral_toDigits (by decide) id.value).zeros (by decide) _)

/-- Five groups of digits with hyphens between them are read as the digits together. -/
theorem ofHyphenated_groups {a b c d e : List Char} (ha : a.length = 8) (hb : b.length = 4)
    (hc : c.length = 4) (hd : d.length = 4) (he : e.length = 12) :
    ofHyphenated? (a ++ '-' :: (b ++ '-' :: (c ++ '-' :: (d ++ '-' :: e)))) =
      ofHex? (a ++ b ++ c ++ d ++ e) := by
  have hhyphens : (a ++ '-' :: (b ++ '-' :: (c ++ '-' :: (d ++ '-' :: e)))).length = 36 ∧
      (a ++ '-' :: (b ++ '-' :: (c ++ '-' :: (d ++ '-' :: e))))[8]? = some '-' ∧
      (a ++ '-' :: (b ++ '-' :: (c ++ '-' :: (d ++ '-' :: e))))[13]? = some '-' ∧
      (a ++ '-' :: (b ++ '-' :: (c ++ '-' :: (d ++ '-' :: e))))[18]? = some '-' ∧
      (a ++ '-' :: (b ++ '-' :: (c ++ '-' :: (d ++ '-' :: e))))[23]? = some '-' := by
    simp [ha, hb, hc, hd, he]
  simp only [ofHyphenated?, hhyphens, decide_true, and_self, if_true]
  simp (disch := omega) [List.drop_append, List.drop_eq_nil_of_le, ha, hb, hc, hd]

/-- An identifier is read back from its text. -/
theorem ofText_text (hid : id.value < 2 ^ 128) : ofText? id.text = some id := by
  have hlength := length_hexChars hid
  have hhyphen : "-".toList = ['-'] := rfl
  have htext : id.text.toList = id.hexChars.take 8 ++ '-' :: ((id.hexChars.drop 8).take 4 ++
      '-' :: ((id.hexChars.drop 12).take 4 ++ '-' :: ((id.hexChars.drop 16).take 4 ++
        '-' :: (id.hexChars.drop 20).take 12))) := by
    simp only [text, String.toList_append, String.toList_ofList, hhyphen, List.drop_zero,
      List.append_assoc, List.cons_append, List.nil_append]
  have hlong : id.text.toList.length = 36 := by
    rw [htext]
    simp [hlength]
  have hgroups : id.hexChars.take 8 ++ (id.hexChars.drop 8).take 4 ++ (id.hexChars.drop 12).take 4 ++
      (id.hexChars.drop 16).take 4 ++ (id.hexChars.drop 20).take 12 = id.hexChars := by
    have hjoin : ∀ i j, id.hexChars.take i ++ (id.hexChars.drop i).take j = id.hexChars.take (i + j) :=
      fun i j ↦ List.take_add.symm
    rw [hjoin 8 4, hjoin 12 4, hjoin 16 4, hjoin 20 12, List.take_of_length_le hlength.le]
  have hread : ofHyphenated? id.text.toList = some id := by
    rw [htext, ofHyphenated_groups, hgroups, ofHex_hexChars] <;> simp [hlength]
  simp only [ofText?, hlong, hread]
  rfl

theorem decode_text (hid : id.value < 2 ^ 128) (dialect : Decode.Dialect) :
    decode dialect (.ofJson (.string id.text)) = .ok id := by
  simp only [Json.Draft.ofJson, decode, ofText_text hid]

end Courier.EntryId
