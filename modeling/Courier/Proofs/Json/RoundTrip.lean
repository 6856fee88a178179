import Courier.Json.Draft
import Courier.Json.Writer
import Courier.Proofs.Json.Members
import Mathlib.Algebra.Group.Int.Defs

/-!
# What is written is read back

The text of a value is read as that value if the value is not nested deeper than texts may be, holds
the members of its objects in order, and every number in it reads back: `Json.Lasting.ofText`.
Integers of 64 bits read back (`readsBack_int`); of a double this depends on its digits, as the
reader rounds twice.

Reading goes in two steps. The draft of a text is found without regard to depth: what is escaped is
unescaped (`stringToken_stringChars`), a numeral ends where a value ends (`numberToken_append`), and
so values are read one after the other, whatever follows them (`Lasting.isRead`). The draft then has
the value that it was made of (`Lasting.toJson`), or none if it is nested too deep
(`Lasting.ofText_tooDeep`).
-/

set_option autoImplicit false
set_option relaxedAutoImplicit false

namespace Courier.Json

/-! ### Strings -/

variable {p : Partial} {c : Char} {cs rest : List Char}

theorem dropLead_of_none (h : p.lead = none) : p.dropLead = p := by
  simp [Partial.dropLead, h]

theorem hexQuad_digitChar {n : ℕ} (h : n < 0x20) :
    hexQuad? '0' '0' (Nat.digitChar (n / 16)) (Nat.digitChar (n % 16)) = some n := by
  revert n
  decide

/-- A character is read as it was before it was escaped. -/
theorem stringToken_escapeChar (h : p.lead = none) (c : Char) (rest : List Char) :
    stringToken p (escapeChar c ++ rest) = stringToken (p.push c) rest := by
  have hdrop := dropLead_of_none h
  by_cases hquote : c = '"'
  · subst hquote
    simp [escapeChar, stringToken, shortEscape?, hdrop]
  by_cases hslash : c = '\\'
  · subst hslash
    simp [escapeChar, stringToken, shortEscape?, hdrop]
  by_cases hnewline : c = '\n'
  · subst hnewline
    simp [escapeChar, stringToken, shortEscape?, hdrop]
  by_cases hreturn : c = '\r'
  · subst hreturn
    simp [escapeChar, stringToken, shortEscape?, hdrop]
  by_cases htab : c = '\t'
  · subst htab
    simp [escapeChar, stringToken, shortEscape?, hdrop]
  by_cases hback : c = '\x08'
  · subst hback
    simp [escapeChar, stringToken, shortEscape?, hdrop]
  by_cases hfeed : c = '\x0c'
  · subst hfeed
    simp [escapeChar, stringToken, shortEscape?, hdrop]
  by_cases hcontrol : c.toNat < 0x20
  · have hunit : p.unit c.toNat = p.push c := by
      simp only [Partial.unit, h]
      rw [if_neg (by omega), if_neg (by omega), Char.ofNat_toNat]
    have hlong : underFourBytes ('0' :: '0' :: Nat.digitChar (c.toNat / 16) ::
        Nat.digitChar (c.toNat % 16) :: rest) = false := by
      have hfirst := Char.utf8Size_pos '0'
      have hthird := Char.utf8Size_pos (Nat.digitChar (c.toNat / 16))
      have hfourth := Char.utf8Size_pos (Nat.digitChar (c.toNat % 16))
      simp only [underFourBytes, List.take, List.foldr, decide_eq_false_iff_not]
      omega
    simp only [escapeChar, hquote, hslash, hnewline, hreturn, htab, hback, hfeed, hcontrol,
      if_true, if_false, List.cons_append, List.nil_append]
    rw [stringToken, hlong, hexQuad_digitChar hcontrol, if_neg Bool.false_ne_true]
    simp only [hunit]
  · have hplain : escapeChar c = [c] := by
      simp [escapeChar, hquote, hslash, hnewline, hreturn, htab, hback, hfeed, hcontrol]
    rw [hplain, List.singleton_append, stringToken.eq_def]
    split <;> simp_all

/-- A string is read as it was written. -/
theorem stringToken_stringChars (s : String) (rest : List Char) :
    stringToken {} (s.toList.flatMap escapeChar ++ '"' :: rest) = ⟨.ok s, .ok rest⟩ := by
  have hread : ∀ (l : List Char) (p : Partial), p.lead = none →
      stringToken p (l.flatMap escapeChar ++ '"' :: rest) =
        ({ p with chars := l.reverse ++ p.chars } : Partial).close rest := by
    intro l
    induction l with
    | nil =>
      intro p hp
      simp [stringToken, dropLead_of_none hp]
    | cons c l ih =>
      intro p hp
      rw [List.flatMap_cons, List.append_assoc, stringToken_escapeChar hp, ih (p.push c) hp]
      simp [Partial.push]
  rw [hread _ _ rfl]
  simp [Partial.close]

/-! ### Numbers -/

/-- What may follow a value in a text. -/
def Ends (rest : List Char) : Prop := ∀ c ∈ rest.head?, c = ',' ∨ c = ']' ∨ c = '\x7d'

theorem ends_nil : Ends [] := by simp [Ends]

theorem ends_comma (rest : List Char) : Ends (',' :: rest) := by simp [Ends]

theorem ends_bracket (rest : List Char) : Ends (']' :: rest) := by simp [Ends]

theorem ends_brace (rest : List Char) : Ends ('\x7d' :: rest) := by simp [Ends]

/-- What ends a value does not go on with a numeral. -/
theorem spanDigits_of_ends (h : Ends rest) : spanDigits rest = ([], rest) := by
  cases rest with
  | nil => rfl
  | cons c rest =>
    obtain rfl | rfl | rfl := h c rfl <;> rfl

/-- The digits at the head of a text do not depend on what follows the text. -/
theorem spanDigits_append (h : Ends rest) (cs : List Char) :
    spanDigits (cs ++ rest) = ((spanDigits cs).1, (spanDigits cs).2 ++ rest) := by
  induction cs with
  | nil => exact spanDigits_of_ends h
  | cons c cs ih =>
    rw [List.cons_append, spanDigits, spanDigits]
    cases digit? c with
    | none => rfl
    | some d => simp only [ih]

theorem exponentToken_append {negative : Bool} {whole : List ℕ} {fraction : Option (List ℕ)}
    {n : Number} (hends : Ends rest)
    (h : exponentToken negative whole fraction cs = ⟨.ok n, .ok []⟩) :
    exponentToken negative whole fraction (cs ++ rest) = ⟨.ok n, .ok rest⟩ := by
  have happend := spanDigits_append hends
  fun_cases exponentToken negative whole fraction cs with
  | case1 down ds hsign digits tail hdigits hempty =>
    simp [exponentToken, hsign, hdigits, hempty, Token.noDigit] at h
  | case2 down ds hsign digits tail hdigits hfull =>
    simp only [exponentToken, hsign, hdigits, hfull, Bool.false_eq_true, if_false,
      Token.mk.injEq, Except.ok.injEq] at h
    obtain ⟨hnumber, rfl⟩ := h
    cases cs with
    | nil =>
      obtain ⟨-, rfl⟩ := Prod.mk.inj hsign
      obtain ⟨rfl, -⟩ := Prod.mk.inj hdigits
      exact absurd rfl hfull
    | cons c cs =>
      have hcons := happend (c :: cs)
      rw [List.cons_append] at hcons ⊢
      split at hsign
      all_goals
        obtain ⟨rfl, rfl⟩ := Prod.mk.inj hsign
        simp_all [exponentToken]

/-- A numeral that is a text of its own is read in front of what ends a value. -/
theorem numberToken_append {negative : Bool} {n : Number} (hends : Ends rest)
    (h : numberToken negative cs = ⟨.ok n, .ok []⟩) :
    numberToken negative (cs ++ rest) = ⟨.ok n, .ok rest⟩ := by
  have happend := spanDigits_append hends
  fun_cases numberToken negative cs with
  | case1 tail hwhole => simp [numberToken, hwhole, Token.noDigit] at h
  | case2 tail d ds hwhole => simp [numberToken, hwhole, Token.broken] at h
  | case3 whole r fraction tail hfraction hempty hnil hzero hwhole =>
    simp [numberToken, hwhole, hfraction, hempty, Token.noDigit] at h
  | case4 whole r fraction hfull tail hnil hzero hwhole hfraction =>
    simp only [numberToken, hwhole, hfraction, hfull, Bool.false_eq_true, if_false] at h
    simp only [numberToken, happend, hwhole, List.cons_append, hfraction, hfull,
      Bool.false_eq_true, if_false]
    exact exponentToken_append hends h
  | case5 whole r fraction hfull tail hnil hzero hwhole hfraction =>
    simp only [numberToken, hwhole, hfraction, hfull, Bool.false_eq_true, if_false] at h
    simp only [numberToken, happend, hwhole, List.cons_append, hfraction, hfull,
      Bool.false_eq_true, if_false]
    exact exponentToken_append hends h
  | case6 whole r fraction tail hfraction hfull hnil hzero hlower hupper hwhole =>
    simp only [numberToken, hwhole, hfraction, hfull, Bool.false_eq_true, if_false,
      Token.mk.injEq, Except.ok.injEq] at h
    obtain ⟨hnumber, rfl⟩ := h
    cases rest with
    | nil => simp [numberToken, hwhole, hfraction, hfull, hnumber]
    | cons c rest =>
      obtain rfl | rfl | rfl := hends c rfl <;>
        simp [numberToken, happend, hwhole, hfraction, hfull, hnumber]
  | case7 whole tail hnil hzero hwhole =>
    simp only [numberToken, hwhole] at h
    simp only [numberToken, happend, hwhole, List.cons_append]
    exact exponentToken_append hends h
  | case8 whole tail hnil hzero hwhole =>
    simp only [numberToken, hwhole] at h
    simp only [numberToken, happend, hwhole, List.cons_append]
    exact exponentToken_append hends h
  | case9 whole tail hwhole hnil hzero hpoint hlower hupper =>
    simp only [numberToken, hwhole, Token.mk.injEq, Except.ok.injEq] at h
    obtain ⟨hnumber, rfl⟩ := h
    cases rest with
    | nil => simp [numberToken, hwhole, hnumber]
    | cons c rest =>
      obtain rfl | rfl | rfl := hends c rfl <;> simp [numberToken, happend, hwhole, hnumber]

/-- The text of a number is read back, and nothing is left of it. -/
def Number.ReadsBack (n : Number) : Prop :=
  ∃ (negative : Bool) (digits : List Char),
    Number.chars n = (if negative then ['-'] else []) ++ digits ∧
    numberToken negative digits = ⟨.ok n, .ok []⟩

/-- Digits are taken as long as the number that they make stays below a limit. -/
theorem takeDigits_all {limit : ℕ} (ds : List Char) (n count : ℕ)
    (hle : Nat.ofDigitChars 10 ds n ≤ limit) :
    takeDigits limit n count (ds.map fun c ↦ c.toNat - 48) =
      (Nat.ofDigitChars 10 ds n, count + ds.length, []) := by
  induction ds generalizing n count with
  | nil => simp [takeDigits]
  | cons c ds ih =>
    have hnext : 10 * n + (c.toNat - '0'.toNat) = n * 10 + (c.toNat - 48) := by
      rw [mul_comm]
      rfl
    rw [Nat.ofDigitChars_cons, hnext] at hle ⊢
    have hgrows : n * 10 + (c.toNat - 48) ≤ Nat.ofDigitChars 10 ds (n * 10 + (c.toNat - 48)) := by
      rw [Nat.ofDigitChars_eq_ofDigitChars_zero]
      refine le_trans ?_ (Nat.le_add_right _ _)
      exact Nat.le_mul_of_pos_left _ (Nat.pow_pos (by decide))
    rw [List.map_cons, takeDigits, if_pos (hgrows.trans hle), ih _ _ hle, List.length_cons,
      Nat.add_assoc, Nat.add_comm 1]

theorem digit_of_isDigit (h : c.isDigit = true) : digit? c = some (c.toNat - 48) := by
  simp only [Char.isDigit, Bool.and_eq_true, decide_eq_true_eq] at h
  exact if_pos h

theorem spanDigits_toDigits (n : ℕ) :
    spanDigits (Nat.toDigits 10 n) = ((Nat.toDigits 10 n).map fun c ↦ c.toNat - 48, []) := by
  have hdigits : ∀ c ∈ Nat.toDigits 10 n, c.isDigit = true := fun c hc ↦
    Nat.isDigit_of_mem_toDigits (by decide) (by decide) hc
  generalize Nat.toDigits 10 n = ds at hdigits
  induction ds with
  | nil => rfl
  | cons c ds ih =>
    rw [spanDigits, digit_of_isDigit (hdigits c List.mem_cons_self),
      ih fun c hc ↦ hdigits c (List.mem_cons_of_mem _ hc)]
    rfl

/-- A positive number does not begin with a zero. -/
theorem toDigits_head {n : ℕ} (hpos : 0 < n) :
    ∃ d ds, (Nat.toDigits 10 n).map (fun c ↦ c.toNat - 48) = (d + 1) :: ds := by
  induction n using Nat.base_induction 10 (by decide) with
  | single m hm =>
    refine ⟨m - 1, [], ?_⟩
    rw [Nat.toDigits_of_lt_base hm, List.map_singleton, Nat.toNat_digitChar_sub_48_of_lt_ten hm,
      Nat.sub_add_cancel hpos]
  | digit m k hk hm ih =>
    obtain ⟨d, ds, hdigits⟩ := ih hm
    rw [← Nat.toDigits_append_toDigits (by decide) hm hk, List.map_append, hdigits]
    exact ⟨d, _, rfl⟩

/-- Natural numbers are written without zeros in front. -/
theorem numberToken_digits (negative : Bool) (n : ℕ) :
    numberToken negative (Nat.toDigits 10 n) =
      ⟨Numeral.number ⟨negative, (Nat.toDigits 10 n).map fun c ↦ c.toNat - 48, none, none⟩,
        .ok []⟩ := by
  obtain rfl | hpos := Nat.eq_zero_or_pos n
  · rfl
  · obtain ⟨d, ds, hdigits⟩ := toDigits_head hpos
    simp [numberToken, spanDigits_toDigits, hdigits]

theorem number_digits (negative : Bool) {n : ℕ} (hle : n ≤ maxNatural) :
    Numeral.number ⟨negative, (Nat.toDigits 10 n).map fun c ↦ c.toNat - 48, none, none⟩ =
      if negative then
        if n = 0 ∨ Nat.pow 2 63 < n then .ok (.float (-(Float.ofNat n))) else .ok (.int (-(n : ℤ)))
      else .ok (.int n) := by
  have htake := @takeDigits_all maxNatural (Nat.toDigits 10 n) 0 0
  rw [Nat.ofDigitChars_ten_toDigits] at htake
  simp only [Numeral.number, htake hle, List.isEmpty_nil, if_true]

/-- Integers of 64 bits, with a sign or without, are read back. -/
theorem readsBack_int {i : ℤ} (hlow : -2 ^ 63 ≤ i) (hhigh : i < 2 ^ 64) :
    Number.ReadsBack (.int i) := by
  obtain ⟨n, rfl⟩ | ⟨n, rfl⟩ : (∃ n : ℕ, i = n) ∨ ∃ n : ℕ, i = -(n + 1 : ℕ) := by
    obtain h | h := le_or_gt 0 i
    · exact .inl ⟨i.toNat, (Int.toNat_of_nonneg h).symm⟩
    · exact .inr ⟨(-i).toNat - 1, by omega⟩
  · refine ⟨false, Nat.toDigits 10 n, Nat.toList_repr, ?_⟩
    rw [numberToken_digits, number_digits _ (by simp only [maxNatural, Nat.pow_eq]; omega)]
    rfl
  · refine ⟨true, Nat.toDigits 10 (n + 1), ?_, ?_⟩
    · have htext : toString (-(n + 1 : ℕ) : ℤ) = "-" ++ (n + 1).repr := by
        rw [Int.toString_eq_repr, Int.repr_eq_if, if_neg (by omega), Int.neg_neg, Int.toNat_natCast]
      rw [Number.chars, htext, String.toList_append, Nat.toList_repr]
      rfl
    · rw [numberToken_digits, number_digits _ (by simp only [maxNatural, Nat.pow_eq]; omega),
        if_pos rfl, if_neg (by simp only [Nat.pow_eq]; omega)]

example : Number.ReadsBack (.float (-2.5e-7)) :=
  ⟨true, ['2', '.', '5', 'e', '-', '7'], by decide +kernel, rfl⟩

/-! ### Values -/

/-- A value that is nested at most so deep, holds its members in order, and whose numbers read
back. -/
inductive Lasting : ℕ → Json → Prop where
  | null {depth : ℕ} : Lasting depth .null
  | bool {depth : ℕ} (b : Bool) : Lasting depth (.bool b)
  | number {depth : ℕ} {n : Number} (hn : Number.ReadsBack n) : Lasting depth (.number n)
  | string {depth : ℕ} (s : String) : Lasting depth (.string s)
  | array {depth : ℕ} {items : List Json} (hitems : ∀ j ∈ items, Lasting depth j) :
      Lasting (depth + 1) (.array items)
  | object {depth : ℕ} {members : List (String × Json)} (hsorted : Sorted members)
      (hmembers : ∀ m ∈ members, Lasting depth m.2) : Lasting (depth + 1) (.object members)

variable {j : Json} {depth : ℕ}

/-- A text that begins neither with a blank nor with what ends an array. -/
def Opens (cs : List Char) : Prop :=
  ∃ c tail, cs = c :: tail ∧ isBlankChar c = false ∧ c ≠ ']'

theorem Opens.append (h : Opens cs) (rest : List Char) : Opens (cs ++ rest) := by
  obtain ⟨c, tail, rfl, hc⟩ := h
  exact ⟨c, tail ++ rest, rfl, hc⟩

theorem Opens.skipBlanks (h : Opens cs) : skipBlanks cs = cs := by
  obtain ⟨c, tail, rfl, hblank, -⟩ := h
  rw [Json.skipBlanks, List.dropWhile_cons_of_neg (by simp [hblank])]

/-- There is fuel for what begins. -/
theorem Opens.exists_fuel (h : Opens cs) {fuel : ℕ} (hfuel : 2 * cs.length ≤ fuel) :
    ∃ k, fuel = k + 1 := by
  obtain ⟨c, tail, rfl, -⟩ := h
  rw [List.length_cons] at hfuel
  exact ⟨fuel - 1, by omega⟩

/-- What is read as a digit is one of ten characters. -/
theorem eq_of_digit {d : ℕ} (h : digit? c = some d) :
    c = '0' ∨ c = '1' ∨ c = '2' ∨ c = '3' ∨ c = '4' ∨ c = '5' ∨ c = '6' ∨ c = '7' ∨ c = '8' ∨
      c = '9' := by
  obtain ⟨⟨hlow, hhigh⟩, -⟩ := Option.ite_none_right_eq_some.mp h
  have hbounds : 48 ≤ c.toNat ∧ c.toNat ≤ 57 := ⟨hlow, hhigh⟩
  simp only [← Char.toNat_inj, Char.reduceToNat]
  omega

theorem digit_of_numberToken {negative : Bool} {n : Number}
    (h : numberToken negative cs = ⟨.ok n, .ok []⟩) :
    ∃ c tail d, cs = c :: tail ∧ digit? c = some d := by
  cases cs with
  | nil => cases h
  | cons c tail =>
    cases hdigit : digit? c with
    | none => simp [numberToken, spanDigits, hdigit, Token.noDigit] at h
    | some d => exact ⟨c, tail, d, rfl, hdigit⟩

theorem opens_stringChars (s : String) : Opens (stringChars s) :=
  ⟨'"', _, rfl, rfl, by decide⟩

theorem Number.ReadsBack.opens {n : Number} (h : Number.ReadsBack n) : Opens (Number.chars n) := by
  obtain ⟨negative, digits, hchars, htoken⟩ := h
  rw [hchars]
  cases negative with
  | true => exact ⟨'-', digits, rfl, rfl, by decide⟩
  | false =>
    obtain ⟨c, tail, d, rfl, hdigit⟩ := digit_of_numberToken htoken
    refine ⟨c, tail, rfl, ?_⟩
    obtain rfl | rfl | rfl | rfl | rfl | rfl | rfl | rfl | rfl | rfl := eq_of_digit hdigit <;>
      exact ⟨rfl, by decide⟩

theorem Lasting.opens (h : Lasting depth j) : Opens (chars j) := by
  cases h with
  | null => exact ⟨'n', _, rfl, rfl, by decide⟩
  | bool b => cases b <;> exact ⟨_, _, rfl, rfl, by decide⟩
  | number hn => exact hn.opens
  | string s => exact opens_stringChars s
  | @array _ items hitems => cases items <;> exact ⟨_, _, rfl, rfl, by decide⟩
  | @object _ members hsorted hmembers =>
    cases members <;> exact ⟨_, _, rfl, rfl, by decide⟩

/-- A value is read from its text, whatever follows that ends it. -/
def IsRead (j : Json) : Prop :=
  ∀ (fuel : ℕ) (rest : List Char), Ends rest → 2 * (chars j).length ≤ fuel →
    readValue fuel (chars j ++ rest) = ⟨.ofJson j, some rest⟩

theorem ends_itemChars (items : List Json) (rest : List Char) : Ends (itemChars items ++ rest) := by
  cases items with
  | nil => exact ends_bracket rest
  | cons item items => exact ends_comma _

theorem ends_memberChars (members : List (String × Json)) (rest : List Char) :
    Ends (memberChars members ++ rest) := by
  cases members with
  | nil => exact ends_brace rest
  | cons member members => exact ends_comma _

theorem readValue_digit {d fuel : ℕ} (h : digit? c = some d) (cs : List Char) :
    readValue (fuel + 1) (c :: cs) = .ofToken .number (numberToken false (c :: cs)) := by
  obtain rfl | rfl | rfl | rfl | rfl | rfl | rfl | rfl | rfl | rfl := eq_of_digit h <;> rfl

theorem Number.ReadsBack.isRead {n : Number} (h : Number.ReadsBack n) : IsRead (.number n) := by
  intro fuel rest hends hfuel
  obtain ⟨fuel, rfl⟩ := h.opens.exists_fuel hfuel
  obtain ⟨negative, digits, hchars, htoken⟩ := h
  have hread := numberToken_append hends htoken
  rw [Json.chars, hchars]
  cases negative with
  | true =>
    show Reading.ofToken .number (numberToken true (digits ++ rest)) = _
    rw [hread]
    rfl
  | false =>
    obtain ⟨c, tail, d, rfl, hdigit⟩ := digit_of_numberToken htoken
    show readValue (fuel + 1) (c :: (tail ++ rest)) = _
    rw [List.cons_append] at hread
    rw [readValue_digit hdigit, hread]
    rfl

variable {fuel : ℕ} {draft : Draft}

theorem readItems_last (h : readValue fuel cs = ⟨draft, some (']' :: rest)⟩) :
    readItems (fuel + 1) cs = ([draft], none, some rest) := by
  rw [readItems, h]
  rfl

theorem readItems_next (h : readValue fuel cs = ⟨draft, some (',' :: rest)⟩) (hopens : Opens rest) :
    readItems (fuel + 1) cs =
      (draft :: (readItems fuel rest).1, (readItems fuel rest).2) := by
  have hskip := hopens.skipBlanks
  obtain ⟨c, tail, rfl, -, hbracket⟩ := hopens
  have hcomma : skipBlanks (',' :: c :: tail) = ',' :: c :: tail := rfl
  rw [readItems, h]
  simp only [hcomma, hskip]
  split
  · rename_i heq
    cases heq
  · rename_i heq
    cases heq
    exact absurd rfl hbracket
  · rfl

theorem readMembers_key (key : String) (cs : List Char) :
    stringChars key ++ ':' :: cs = '"' :: (key.toList.flatMap escapeChar ++ '"' :: ':' :: cs) := by
  simp [stringChars]

theorem readMembers_last (key : String)
    (h : readValue fuel cs = ⟨draft, some ('\x7d' :: rest)⟩) :
    readMembers (fuel + 1) (stringChars key ++ ':' :: cs) =
      ([(.ok key, draft)], none, some rest) := by
  have hcolon : skipBlanks (':' :: cs) = ':' :: cs := rfl
  rw [readMembers_key, readMembers, stringToken_stringChars]
  simp only [hcolon, h]
  rfl

theorem readMembers_next (key : String)
    (h : readValue fuel cs = ⟨draft, some (',' :: '"' :: rest)⟩) :
    readMembers (fuel + 1) (stringChars key ++ ':' :: cs) =
      ((.ok key, draft) :: (readMembers fuel ('"' :: rest)).1,
        (readMembers fuel ('"' :: rest)).2) := by
  have hcolon : skipBlanks (':' :: cs) = ':' :: cs := rfl
  rw [readMembers_key, readMembers, stringToken_stringChars]
  simp only [hcolon, h]
  rfl

/-- The items of an array are read from the first one on. -/
theorem readItems_chars {item : Json} {items : List Json} (hread : ∀ j ∈ item :: items, IsRead j)
    (hopens : ∀ j ∈ item :: items, Opens (chars j)) (rest : List Char)
    (hfuel : 2 * (chars item ++ itemChars items).length ≤ fuel) :
    readItems fuel (chars item ++ (itemChars items ++ rest)) =
      (Draft.ofItems (item :: items), none, some rest) := by
  induction items generalizing item fuel with
  | nil =>
    simp only [itemChars, List.length_append, List.length_singleton] at hfuel
    obtain ⟨fuel, rfl⟩ : ∃ k, fuel = k + 1 := ⟨fuel - 1, by omega⟩
    exact readItems_last
      (hread item List.mem_cons_self fuel _ (ends_itemChars [] rest) (by omega))
  | cons next items ih =>
    simp only [itemChars, List.length_append, List.length_cons] at hfuel
    obtain ⟨fuel, rfl⟩ : ∃ k, fuel = k + 1 := ⟨fuel - 1, by omega⟩
    have hitem := hread item List.mem_cons_self fuel (itemChars (next :: items) ++ rest)
      (ends_itemChars _ rest) (by omega)
    have hrest := ih (fun j hj ↦ hread j (List.mem_cons_of_mem _ hj))
      (fun j hj ↦ hopens j (List.mem_cons_of_mem _ hj))
      (show 2 * (chars next ++ itemChars items).length ≤ fuel by rw [List.length_append]; omega)
    have hnext := (hopens next (List.mem_cons_of_mem _ List.mem_cons_self)).append
      (itemChars items ++ rest)
    have hcomma : itemChars (next :: items) ++ rest =
        ',' :: (chars next ++ (itemChars items ++ rest)) := by simp [itemChars]
    rw [hcomma] at hitem ⊢
    rw [readItems_next hitem hnext, hrest]
    rfl

/-- The members of an object are read from the first one on. -/
theorem readMembers_chars {key : String} {value : Json} {members : List (String × Json)}
    (hread : ∀ m ∈ (key, value) :: members, IsRead m.2) (rest : List Char)
    (hfuel : 2 * (stringChars key ++ ':' :: (chars value ++ memberChars members)).length ≤ fuel) :
    readMembers fuel
        (stringChars key ++ ':' :: (chars value ++ (memberChars members ++ rest))) =
      (Draft.ofJsonMembers ((key, value) :: members), none, some rest) := by
  induction members generalizing key value fuel with
  | nil =>
    simp only [memberChars, List.length_append, List.length_cons] at hfuel
    obtain ⟨fuel, rfl⟩ : ∃ k, fuel = k + 1 := ⟨fuel - 1, by omega⟩
    exact readMembers_last key
      (hread (key, value) List.mem_cons_self fuel _ (ends_memberChars [] rest)
        (by simp only; omega))
  | cons next members ih =>
    obtain ⟨key', value'⟩ := next
    simp only [memberChars, List.length_append, List.length_cons] at hfuel
    obtain ⟨fuel, rfl⟩ : ∃ k, fuel = k + 1 := ⟨fuel - 1, by omega⟩
    have hvalue := hread (key, value) List.mem_cons_self fuel
      (memberChars ((key', value') :: members) ++ rest) (ends_memberChars _ rest)
      (by simp only; omega)
    have hrest := ih (fun m hm ↦ hread m (List.mem_cons_of_mem _ hm))
      (show 2 * (stringChars key' ++ ':' :: (chars value' ++ memberChars members)).length ≤ fuel by
        simp only [List.length_append, List.length_cons]; omega)
    have hcomma : memberChars ((key', value') :: members) ++ rest =
        ',' :: (stringChars key' ++ ':' :: (chars value' ++ (memberChars members ++ rest))) := by
      simp [memberChars]
    rw [readMembers_key] at hrest hcomma
    rw [hcomma] at hvalue ⊢
    rw [readMembers_next key hvalue, hrest]
    rfl

theorem isRead_of_word {j : Json} (hchars : Opens (chars j))
    (h : ∀ fuel rest, readValue (fuel + 1) (chars j ++ rest) = ⟨.ofJson j, some rest⟩) :
    IsRead j := by
  intro fuel rest _ hfuel
  obtain ⟨fuel, rfl⟩ := hchars.exists_fuel hfuel
  exact h fuel rest

theorem readValue_array (h : Opens cs) :
    readValue (fuel + 1) ('[' :: cs) =
      ⟨.array (readItems fuel cs).1 (readItems fuel cs).2.1, (readItems fuel cs).2.2⟩ := by
  have hbracket : skipBlanks ('[' :: cs) = '[' :: cs := rfl
  have hskip := h.skipBlanks
  obtain ⟨c, tail, rfl, -, hopens⟩ := h
  rw [readValue]
  simp only [hbracket, hskip]
  split
  · rename_i heq
    cases heq
  · rename_i heq
    cases heq
    exact absurd rfl hopens
  · rfl

theorem Lasting.isRead (h : Lasting depth j) : IsRead j := by
  induction h with
  | null => exact isRead_of_word (@Lasting.null 0).opens fun _ _ ↦ rfl
  | bool b => cases b <;> exact isRead_of_word (@Lasting.bool 0 _).opens fun _ _ ↦ rfl
  | number hn => exact hn.isRead
  | string s =>
    refine isRead_of_word (@Lasting.string 0 s).opens fun fuel rest ↦ ?_
    have hread := stringToken_stringChars s rest
    simp only [chars, stringChars, List.cons_append, List.append_assoc, List.nil_append]
    show Reading.ofToken .string (stringToken {} _) = _
    rw [hread]
    rfl
  | @array depth items hitems ih =>
    cases items with
    | nil => exact isRead_of_word ⟨'[', _, rfl, rfl, by decide⟩ fun _ _ ↦ rfl
    | cons item items =>
      intro fuel rest hends hfuel
      simp only [chars, List.length_cons] at hfuel
      obtain ⟨fuel, rfl⟩ : ∃ k, fuel = k + 1 := ⟨fuel - 1, by omega⟩
      have hopens := fun j hj ↦ (hitems j hj).opens
      have hread := readItems_chars ih hopens rest
        (show 2 * (chars item ++ itemChars items).length ≤ fuel by omega)
      have hfirst := (hopens item List.mem_cons_self).append (itemChars items ++ rest)
      simp only [chars, List.cons_append, List.append_assoc]
      rw [readValue_array hfirst, hread]
      rfl
  | @object depth members hsorted hmembers ih =>
    cases members with
    | nil => exact isRead_of_word ⟨'\x7b', _, rfl, rfl, by decide⟩ fun _ _ ↦ rfl
    | cons first members =>
      obtain ⟨key, value⟩ := first
      intro fuel rest hends hfuel
      simp only [chars, List.length_cons] at hfuel
      obtain ⟨fuel, rfl⟩ : ∃ k, fuel = k + 1 := ⟨fuel - 1, by omega⟩
      have hread := readMembers_chars ih rest
        (show 2 * (stringChars key ++ ':' :: (chars value ++ memberChars members)).length ≤ fuel by
          omega)
      have hobject : ∀ cs, readValue (fuel + 1) ('\x7b' :: '"' :: cs) =
          ⟨.object (readMembers fuel ('"' :: cs)).1 (readMembers fuel ('"' :: cs)).2.1,
            (readMembers fuel ('"' :: cs)).2.2⟩ := fun _ ↦ rfl
      simp only [chars, List.cons_append, List.append_assoc]
      rw [readMembers_key] at hread ⊢
      rw [hobject, hread]
      rfl

/-! ### Drafts -/

theorem toItems_ofItems {limit : Option ℕ} {items : List Json}
    (h : ∀ j ∈ items, Draft.toJson limit (.ofJson j) = .ok j) :
    Draft.toItems limit (Draft.ofItems items) = .ok items := by
  induction items with
  | nil => rfl
  | cons item items ih =>
    rw [Draft.ofItems, Draft.toItems, h item List.mem_cons_self]
    simp only [ih fun j hj ↦ h j (List.mem_cons_of_mem _ hj)]
    rfl

theorem toMembers_ofJsonMembers {limit : Option ℕ} {members : List (String × Json)}
    (h : ∀ m ∈ members, Draft.toJson limit (.ofJson m.2) = .ok m.2) :
    Draft.toMembers limit (Draft.ofJsonMembers members) = .ok members := by
  induction members with
  | nil => rfl
  | cons member members ih =>
    rw [Draft.ofJsonMembers, Draft.toMembers, h member List.mem_cons_self]
    simp only [ih fun m hm ↦ h m (List.mem_cons_of_mem _ hm)]
    rfl

/-- The draft of a text is that of its value, and nothing is left of the text. -/
theorem Lasting.ofDraft (h : Lasting depth j) : Draft.ofText j.text = (.ofJson j, none) := by
  have hread := h.isRead (2 * (chars j).length + 1) [] ends_nil (Nat.le_succ _)
  rw [List.append_nil] at hread
  simp only [Draft.ofText, text, String.toList_ofList, hread]
  rfl

/-- The value of a draft is the one it was made of. -/
theorem Lasting.toJson (h : Lasting depth j) : Draft.toJson (some depth) (.ofJson j) = .ok j := by
  induction h with
  | null => rfl
  | bool b => rfl
  | number hn => rfl
  | string s => rfl
  | array hitems ih =>
    rw [Draft.ofJson, Draft.toJson, deeper]
    simp only [toItems_ofItems ih]
  | object hsorted hmembers ih =>
    rw [Draft.ofJson, Draft.toJson, deeper]
    simp only [toMembers_ofJsonMembers ih, ofMembers, sortMembers_of_sorted hsorted]

/-- What is written is read back. -/
theorem Lasting.ofText (h : Lasting depthLimit j) : Json.ofText j.text = .ok j := by
  simp only [Json.ofText, h.ofDraft, h.toJson]

/-! ### Values nested too deep -/

theorem toItems_tooDeep {items : List Json}
    (hitems : ∀ j ∈ items, ¬ Lasting depth j →
      Draft.toJson (some depth) (.ofJson j) = .error .tooDeep)
    (hdeep : ∃ j ∈ items, ¬ Lasting depth j) :
    Draft.toItems (some depth) (Draft.ofItems items) = .error .tooDeep := by
  induction items with
  | nil => simp at hdeep
  | cons item items ih =>
    rw [Draft.ofItems, Draft.toItems]
    by_cases hitem : Lasting depth item
    · have hrest : ∃ j ∈ items, ¬ Lasting depth j := by
        obtain ⟨j, hj, hnot⟩ := hdeep
        obtain rfl | hj := List.mem_cons.mp hj
        · exact absurd hitem hnot
        · exact ⟨j, hj, hnot⟩
      simp only [hitem.toJson, ih (fun j hj ↦ hitems j (List.mem_cons_of_mem _ hj)) hrest]
      rfl
    · simp only [hitems item List.mem_cons_self hitem]

theorem toMembers_tooDeep {members : List (String × Json)}
    (hmembers : ∀ m ∈ members, ¬ Lasting depth m.2 →
      Draft.toJson (some depth) (.ofJson m.2) = .error .tooDeep)
    (hdeep : ∃ m ∈ members, ¬ Lasting depth m.2) :
    Draft.toMembers (some depth) (Draft.ofJsonMembers members) = .error .tooDeep := by
  induction members with
  | nil => simp at hdeep
  | cons member members ih =>
    rw [Draft.ofJsonMembers, Draft.toMembers]
    by_cases hmember : Lasting depth member.2
    · have hrest : ∃ m ∈ members, ¬ Lasting depth m.2 := by
        obtain ⟨m, hm, hnot⟩ := hdeep
        obtain rfl | hm := List.mem_cons.mp hm
        · exact absurd hmember hnot
        · exact ⟨m, hm, hnot⟩
      simp only [hmember.toJson, ih (fun m hm ↦ hmembers m (List.mem_cons_of_mem _ hm)) hrest]
      rfl
    · simp only [hmembers member List.mem_cons_self hmember]

/-- A draft that is nested deeper than is allowed has no value. -/
theorem Lasting.toJson_tooDeep (h : Lasting depth j) {limit : ℕ} (hdeep : ¬ Lasting limit j) :
    Draft.toJson (some limit) (.ofJson j) = .error .tooDeep := by
  induction h generalizing limit with
  | null => exact absurd .null hdeep
  | bool b => exact absurd (.bool b) hdeep
  | number hn => exact absurd (.number hn) hdeep
  | string s => exact absurd (.string s) hdeep
  | @array _ items hitems ih =>
    cases limit with
    | zero => rfl
    | succ limit =>
      have hitem : ∃ item ∈ items, ¬ Lasting limit item := by
        by_contra hnone
        push Not at hnone
        exact hdeep (.array hnone)
      rw [Draft.ofJson, Draft.toJson, deeper]
      simp only [toItems_tooDeep (fun item hmem hnot ↦ ih item hmem hnot) hitem]
  | @object _ members hsorted hmembers ih =>
    cases limit with
    | zero => rfl
    | succ limit =>
      have hmember : ∃ m ∈ members, ¬ Lasting limit m.2 := by
        by_contra hnone
        push Not at hnone
        exact hdeep (.object hsorted hnone)
      rw [Draft.ofJson, Draft.toJson, deeper]
      simp only [toMembers_tooDeep (fun m hmem hnot ↦ ih m hmem hnot) hmember]

/-- Arrays in arrays, so many of them. -/
def nest : ℕ → Json
  | 0 => .null
  | levels + 1 => .array [nest levels]

theorem lasting_nest {levels : ℕ} : Lasting depth (nest levels) ↔ levels ≤ depth := by
  induction levels generalizing depth with
  | zero => exact ⟨fun _ ↦ depth.zero_le, fun _ ↦ .null⟩
  | succ levels ih =>
    constructor
    · intro h
      cases h with
      | array hitems => exact Nat.succ_le_succ (ih.mp (hitems _ List.mem_cons_self))
    · intro h
      obtain ⟨depth, rfl⟩ : ∃ k, depth = k + 1 := ⟨depth - 1, by omega⟩
      refine .array fun j hj ↦ ?_
      obtain rfl := List.mem_singleton.mp hj
      exact ih.mpr (Nat.le_of_succ_le_succ h)

/-- The limit of nesting is the only thing that keeps a value from being read whose numbers are
read. -/
theorem Lasting.ofText_tooDeep (h : Lasting depth j) (hdeep : ¬ Lasting depthLimit j) :
    Json.ofText j.text = .error .tooDeep := by
  simp only [Json.ofText, h.ofDraft, h.toJson_tooDeep hdeep]

end Courier.Json
