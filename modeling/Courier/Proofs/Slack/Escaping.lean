import Courier.Slack.Message
import Mathlib.Data.List.Infix
import Mathlib.Logic.Function.Basic

/-!
# The markup of Slack is escaped

The three special characters are replaced one after the other, each throughout the text. This is the
same as putting an entity in the place of each of them at once (`toList_escapeMarkup`), as the
ampersand goes first: what the later replacements put in is not replaced again. Hence there is no
angle bracket in what is escaped (`unbracketed_escapeMarkup`), every ampersand in it starts one of
the entities (`wellReferenced_escapeMarkup`), and with the characters put back in the opposite order
the text is what it was (`unescapeMarkup_escapeMarkup`).
-/

set_option autoImplicit false
set_option relaxedAutoImplicit false

namespace Courier.Slack

/-- What a character becomes. -/
def escapeChar (c : Char) : List Char :=
  if c = '&' then "&amp;".toList
  else if c = '<' then "&lt;".toList
  else if c = '>' then "&gt;".toList
  else [c]

/-- What the special characters become. -/
def entities : List String := ["&amp;", "&lt;", "&gt;"]

/-- There is no angle bracket in a text. -/
def Unbracketed (text : String) : Prop := '<' ∉ text.toList ∧ '>' ∉ text.toList

instance (text : String) : Decidable (Unbracketed text) := inferInstanceAs (Decidable (_ ∧ _))

/-- Every ampersand in a text starts an entity. -/
def WellReferenced (text : String) : Prop :=
  ∀ after, '&' :: after <:+ text.toList →
    ∃ entity ∈ entities, entity.toList <+: '&' :: after

/-- Puts a character in the place of each occurrence of an entity, from the left. -/
def replaceEntity (entity : List Char) (c : Char) : List Char → List Char
  | [] => []
  | d :: cs =>
    if entity <+: d :: cs then c :: replaceEntity entity c (cs.drop (entity.length - 1))
    else d :: replaceEntity entity c cs
termination_by cs => cs.length
decreasing_by
  · simp only [List.length_drop, List.length_cons]
    omega
  · exact Nat.lt_succ_self _

/-- The text with the special characters in the place of their entities. The ampersand goes last. -/
def unescapeMarkup (text : String) : String :=
  String.ofList <|
    replaceEntity "&amp;".toList '&' <|
    replaceEntity "&lt;".toList '<' <|
    replaceEntity "&gt;".toList '>' text.toList

/-! ### Escaping -/

/-- One replacement after the other does to each character what all do at once. -/
theorem toList_escapeMarkup (text : String) :
    (escapeMarkup text).toList = text.toList.flatMap escapeChar := by
  rw [escapeMarkup, String.toList_ofList, replaceChar, replaceChar, replaceChar, List.flatMap_assoc,
    List.flatMap_assoc]
  refine List.flatMap_congr fun c _ ↦ ?_
  rw [escapeChar]
  split_ifs with hamp hlt hgt
  · subst hamp
    rfl
  · subst hlt
    rfl
  · subst hgt
    rfl
  · simp [hlt, hgt]

-- an entity in a text is escaped too
example : escapeMarkup "<b> &lt;" = "&lt;b&gt; &amp;lt;" := by decide

theorem escapeMarkup_append (a b : String) :
    escapeMarkup (a ++ b) = escapeMarkup a ++ escapeMarkup b := by
  rw [← String.toList_inj]
  simp only [String.toList_append, toList_escapeMarkup, List.flatMap_append]

theorem unbracketed_escapeMarkup (text : String) : Unbracketed (escapeMarkup text) := by
  have hchar : ∀ c, '<' ∉ escapeChar c ∧ '>' ∉ escapeChar c := by
    intro c
    rw [escapeChar]
    split_ifs with hamp hlt hgt
    · decide
    · decide
    · decide
    · simp [Ne.symm hlt, Ne.symm hgt]
  simp [Unbracketed, toList_escapeMarkup, hchar]

/-- What starts with a character comes after a part in which it is not. -/
theorem suffix_of_not_mem {c : Char} {front cs after : List Char} (hfront : c ∉ front)
    (h : c :: after <:+ front ++ cs) : c :: after <:+ cs := by
  induction front with
  | nil => exact h
  | cons d front ih =>
    rw [List.mem_cons, not_or] at hfront
    obtain heq | h := List.suffix_cons_iff.mp h
    · exact absurd (List.cons.inj heq).1 hfront.1
    · exact ih hfront.2 h

/-- An entity has no ampersand but its first character. -/
theorem starts_or_later {entity : String} (hentity : entity ∈ entities) {cs after : List Char}
    (h : '&' :: after <:+ entity.toList ++ cs) :
    (∃ entity ∈ entities, entity.toList <+: '&' :: after) ∨ '&' :: after <:+ cs := by
  obtain ⟨name, heq, hname⟩ : ∃ name, entity.toList = '&' :: name ∧ '&' ∉ name := by
    obtain rfl | rfl | rfl : entity = "&amp;" ∨ entity = "&lt;" ∨ entity = "&gt;" := by
      simpa [entities] using hentity
    · exact ⟨"amp;".toList, rfl, by decide⟩
    · exact ⟨"lt;".toList, rfl, by decide⟩
    · exact ⟨"gt;".toList, rfl, by decide⟩
  rw [heq, List.cons_append] at h
  obtain hafter | h := List.suffix_cons_iff.mp h
  · exact .inl ⟨entity, hentity, heq ▸ hafter ▸ List.prefix_append ('&' :: name) cs⟩
  · exact .inr (suffix_of_not_mem hname h)

theorem wellReferenced_escapeMarkup (text : String) : WellReferenced (escapeMarkup text) := by
  rw [WellReferenced, toList_escapeMarkup]
  intro after hafter
  generalize text.toList = cs at hafter
  induction cs with
  | nil => simp at hafter
  | cons c cs ih =>
    rw [List.flatMap_cons, escapeChar] at hafter
    split_ifs at hafter with hamp hlt hgt
    · exact (starts_or_later (by simp [entities]) hafter).elim id ih
    · exact (starts_or_later (by simp [entities]) hafter).elim id ih
    · exact (starts_or_later (by simp [entities]) hafter).elim id ih
    · exact ih (suffix_of_not_mem (by simpa using Ne.symm hamp) hafter)

/-! ### Putting the characters back -/

/-- What is done to the entity of each character is done to them all. -/
theorem replaceEntity_flatMap {entity : List Char} {c : Char} {f g : Char → List Char}
    (h : ∀ d cs, replaceEntity entity c (f d ++ cs) = g d ++ replaceEntity entity c cs)
    (ds : List Char) : replaceEntity entity c (ds.flatMap f) = ds.flatMap g := by
  induction ds with
  | nil => rw [List.flatMap_nil, List.flatMap_nil, replaceEntity]
  | cons d ds ih => rw [List.flatMap_cons, List.flatMap_cons, h, ih]

theorem unescapeMarkup_escapeMarkup (text : String) :
    unescapeMarkup (escapeMarkup text) = text := by
  have hgt : ∀ d cs, replaceEntity "&gt;".toList '>' (escapeChar d ++ cs) =
      (if d = '&' then "&amp;".toList else if d = '<' then "&lt;".toList else [d]) ++
        replaceEntity "&gt;".toList '>' cs := by
    intro d cs
    rw [escapeChar]
    split_ifs with hamp hlt hgt
    · simp [replaceEntity]
    · simp [replaceEntity]
    · simp [replaceEntity, hgt]
    · simp [replaceEntity, Ne.symm hamp]
  have hlt : ∀ d cs, replaceEntity "&lt;".toList '<'
      ((if d = '&' then "&amp;".toList else if d = '<' then "&lt;".toList else [d]) ++ cs) =
        (if d = '&' then "&amp;".toList else [d]) ++ replaceEntity "&lt;".toList '<' cs := by
    intro d cs
    split_ifs with hamp hlt
    · simp [replaceEntity]
    · simp [replaceEntity, hlt]
    · simp [replaceEntity, Ne.symm hamp]
  have hamp : ∀ d cs, replaceEntity "&amp;".toList '&'
      ((if d = '&' then "&amp;".toList else [d]) ++ cs) =
        [d] ++ replaceEntity "&amp;".toList '&' cs := by
    intro d cs
    split_ifs with hamp
    · simp [replaceEntity, hamp]
    · simp [replaceEntity, Ne.symm hamp]
  rw [unescapeMarkup, toList_escapeMarkup, replaceEntity_flatMap hgt, replaceEntity_flatMap hlt,
    replaceEntity_flatMap hamp, List.flatMap_singleton', String.ofList_toList]

end Courier.Slack
