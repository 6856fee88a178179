import Courier.Format.Registry
import Courier.Proofs.Json.Members
import Courier.Sender

/-!
# First come, first served

The registries of types, formatters and senders keep the first entry of each key: an entry is
refused if its key is taken, and otherwise it is what is found under its key from then on. This is
`FirstCome`, and `TypeRegistry.firstCome`, `FormatterRegistry.firstCome` and
`SenderRegistry.firstCome` say that they are of this kind.

Entries may be offered one after the other whatever becomes of each (`FirstCome.registerEach`).
Then what was held before stays, and of the others the first of each key is found
(`FirstCome.get?_registerEach`). Or the first one that is refused ends it (`FirstCome.registerAll`).
Either nothing is in the way of any entry (`FirstCome.Free`) and all are taken, or there is a first
one whose key is taken (`FirstCome.Clash`) and those in front of it are taken
(`FirstCome.registerAll_of_free`, `FirstCome.registerAll_of_clash`). `FirstCome.fill` gives up what
was taken in the second case. What a registry has got is in the way of the entries with the same keys
(`FirstCome.free_registerEach_iff`).
-/

set_option autoImplicit false
set_option relaxedAutoImplicit false

namespace Courier

/-- Registries `R` to which entries `β` are added: each is a value `α` under a key `κ`, and the
first entry of a key is kept. -/
structure FirstCome (R β κ α ε : Type) [DecidableEq κ] where
  key : β → κ
  value : β → α
  get? : R → κ → Option α
  register : R → β → Except ε R
  /-- Why an entry is refused whose key is taken. -/
  duplicate : κ → ε
  register_of_taken : ∀ {r b a}, get? r (key b) = some a →
    register r b = .error (duplicate (key b))
  register_of_free : ∀ {r b}, get? r (key b) = none → ∃ r', register r b = .ok r' ∧
    ∀ k, get? r' k = if k = key b then some (value b) else get? r k

namespace FirstCome

variable {R β κ α ε : Type} [DecidableEq κ] (F : FirstCome R β κ α ε) {r : R} {b : β}
  {bs before : List β} {k : κ}

/-- The registry after an entry was offered, whether it was refused or not. -/
def offer (r : R) (b : β) : R :=
  match F.register r b with
  | .ok r' => r'
  | .error _ => r

/-- Offers one entry after the other. -/
def registerEach (r : R) (bs : List β) : R := bs.foldl F.offer r

/-- Adds one entry after the other, up to the first that is refused. -/
def registerAll (r : R) : List β → R × Except ε Unit
  | [] => (r, .ok ())
  | b :: bs =>
    match F.register r b with
    | .error reason => (r, .error reason)
    | .ok r' => registerAll r' bs

/-- A registry with all of the entries; the first one that is refused prevents it. -/
def fill (r : R) (bs : List β) : Except ε R :=
  match F.registerAll r bs with
  | (r', .ok ()) => .ok r'
  | (_, .error reason) => .error reason

/-- The keys of the entries are different and none of them is taken. -/
structure Free (r : R) (bs : List β) : Prop where
  nodup : (bs.map F.key).Nodup
  unclaimed : ∀ b ∈ bs, F.get? r (F.key b) = none

/-- One of the entries is the first whose key is taken, in the registry or by one in front of it. -/
structure Clash (r : R) (bs before : List β) (b : β) : Prop where
  split : ∃ after, bs = before ++ b :: after
  free : F.Free r before
  taken : (F.get? r (F.key b)).isSome ∨ F.key b ∈ before.map F.key

variable {F}

/-! ### What is found -/

/-- An entry is refused if and only if its key is taken. -/
theorem register_eq_error_iff {reason : ε} :
    F.register r b = .error reason ↔
      (F.get? r (F.key b)).isSome ∧ reason = F.duplicate (F.key b) := by
  cases hget : F.get? r (F.key b) with
  | none =>
    obtain ⟨r', hregister, -⟩ := F.register_of_free hget
    simp [hregister]
  | some a => simp [F.register_of_taken hget, eq_comm]

theorem offer_of_taken (h : (F.get? r (F.key b)).isSome) : F.offer r b = r := by
  rw [offer, register_eq_error_iff.mpr ⟨h, rfl⟩]

theorem get?_offer (r : R) (b : β) (k : κ) :
    F.get? (F.offer r b) k =
      (F.get? r k).or (if k = F.key b then some (F.value b) else none) := by
  unfold offer
  cases hget : F.get? r (F.key b) with
  | none =>
    obtain ⟨r', hregister, hr'⟩ := F.register_of_free hget
    simp only [hregister, hr']
    by_cases hk : k = F.key b
    · rw [if_pos hk, if_pos hk, hk, hget, Option.none_or]
    · rw [if_neg hk, if_neg hk, Option.or_none]
  | some a =>
    simp only [F.register_of_taken hget]
    by_cases hk : k = F.key b
    · rw [if_pos hk, hk, hget, Option.some_or]
    · rw [if_neg hk, Option.or_none]

/-- Of entries that were offered, the first of each key is found unless the key was taken before. -/
theorem get?_registerEach (r : R) (bs : List β) (k : κ) :
    F.get? (F.registerEach r bs) k =
      (F.get? r k).or ((bs.map fun b ↦ (F.key b, F.value b)).lookup k) := by
  induction bs generalizing r with
  | nil => simp [registerEach]
  | cons b bs ih =>
    have hrest := ih (F.offer r b)
    rw [registerEach] at hrest
    rw [registerEach, List.foldl_cons, hrest, get?_offer, Option.or_assoc, List.map_cons,
      List.lookup_cons]
    by_cases hk : k = F.key b
    · simp [hk]
    · simp [hk, beq_false_of_ne hk]

theorem registerEach_append (r : R) (before bs : List β) :
    F.registerEach r (before ++ bs) = F.registerEach (F.registerEach r before) bs :=
  List.foldl_append

/-- In a list of entries the first one with a key is found under it. -/
theorem lookup_eq_some_iff {a : α} :
    (bs.map fun b ↦ (F.key b, F.value b)).lookup k = some a ↔
      ∃ before b after, bs = before ++ b :: after ∧ k ∉ before.map F.key ∧ F.key b = k ∧
        F.value b = a := by
  rw [List.lookup_eq_some_iff]
  constructor
  · rintro ⟨left, right, hsplit, hleft⟩
    obtain ⟨before, rest, rfl, rfl, hrest⟩ := List.map_eq_append_iff.mp hsplit
    obtain ⟨b, after, rfl, hb, -⟩ := List.map_eq_cons_iff.mp hrest
    obtain ⟨hkey, hvalue⟩ := Prod.mk.inj hb
    refine ⟨before, b, after, rfl, fun hk ↦ ?_, hkey, hvalue⟩
    obtain ⟨other, hother, rfl⟩ := List.mem_map.mp hk
    simpa using hleft _ (List.mem_map_of_mem hother)
  · rintro ⟨before, b, after, rfl, hbefore, rfl, rfl⟩
    refine ⟨before.map fun b ↦ (F.key b, F.value b), after.map fun b ↦ (F.key b, F.value b),
      by simp, fun p hp ↦ ?_⟩
    obtain ⟨other, hother, rfl⟩ := List.mem_map.mp hp
    exact bne_iff_ne.mpr fun heq ↦ hbefore (heq ▸ List.mem_map_of_mem hother)

/-- A key is taken in the end if and only if it was taken before or is that of an entry. -/
theorem isSome_get?_registerEach :
    (F.get? (F.registerEach r bs) k).isSome ↔ (F.get? r k).isSome ∨ k ∈ bs.map F.key := by
  rw [get?_registerEach, Option.isSome_or, Bool.or_eq_true, List.lookup_isSome_iff]
  simp [@eq_comm _ k]

/-- If nothing is in the way of some entries, each has another key than those in front of it. -/
theorem Free.key_notMem {after : List β} (h : F.Free r (before ++ b :: after)) :
    F.key b ∉ before.map F.key := by
  have hnodup := h.nodup
  rw [List.map_append, List.map_cons] at hnodup
  exact fun hmem ↦ (List.nodup_append.mp hnodup).2.2 _ hmem _ List.mem_cons_self rfl

/-- Of entries with nothing in their way each is found, besides what was held before. -/
theorem get?_registerEach_of_free (h : F.Free r bs) {a : α} :
    F.get? (F.registerEach r bs) k = some a ↔
      F.get? r k = some a ∨ ∃ b ∈ bs, F.key b = k ∧ F.value b = a := by
  rw [get?_registerEach]
  constructor
  · intro hfound
    obtain hfound | ⟨-, hfound⟩ := Option.or_eq_some_iff.mp hfound
    · exact .inl hfound
    · obtain ⟨before, b, after, rfl, -, hkey, hvalue⟩ := lookup_eq_some_iff.mp hfound
      exact .inr ⟨b, by simp, hkey, hvalue⟩
  · rintro (hfound | ⟨b, hb, rfl, rfl⟩)
    · rw [hfound, Option.some_or]
    · rw [h.unclaimed b hb, Option.none_or]
      obtain ⟨before, after, rfl⟩ := List.append_of_mem hb
      exact lookup_eq_some_iff.mpr ⟨before, b, after, rfl, h.key_notMem, rfl, rfl⟩

/-- Offering entries with nothing in their way changes a registry unless there are none. -/
theorem registerEach_eq_self_iff (h : F.Free r bs) : F.registerEach r bs = r ↔ bs = [] := by
  constructor
  · intro hsame
    refine List.eq_nil_iff_forall_not_mem.mpr fun b hb ↦ ?_
    have hfound : F.get? (F.registerEach r bs) (F.key b) = some (F.value b) :=
      (get?_registerEach_of_free h).mpr (.inr ⟨b, hb, rfl, rfl⟩)
    rw [hsame, h.unclaimed b hb] at hfound
    cases hfound
  · rintro rfl
    rfl

/-! ### The first that is refused -/

theorem registerAll_append (r : R) (before bs : List β) :
    F.registerAll r (before ++ bs) =
      match F.registerAll r before with
      | (r', .ok ()) => F.registerAll r' bs
      | refused => refused := by
  induction before generalizing r with
  | nil => rfl
  | cons b before ih =>
    rw [List.cons_append, registerAll, registerAll]
    cases F.register r b with
    | error reason => rfl
    | ok r' => exact ih r'

/-- Entries are all taken if nothing is in their way. -/
theorem registerAll_of_free (h : F.Free r bs) :
    F.registerAll r bs = (F.registerEach r bs, .ok ()) := by
  induction bs generalizing r with
  | nil => rfl
  | cons b bs ih =>
    obtain ⟨hb, hbs⟩ := List.nodup_cons.mp h.nodup
    obtain ⟨r', hregister, hr'⟩ := F.register_of_free (h.unclaimed b List.mem_cons_self)
    have hoffer : F.offer r b = r' := by rw [offer, hregister]
    rw [registerAll, hregister, registerEach, List.foldl_cons, hoffer]
    refine ih ⟨hbs, fun other hother ↦ ?_⟩
    have hne : F.key other ≠ F.key b := fun heq ↦ hb (heq ▸ List.mem_map_of_mem hother)
    rw [hr', if_neg hne]
    exact h.unclaimed other (List.mem_cons_of_mem _ hother)

/-- Of entries with a first one whose key is taken, those in front of it are taken. -/
theorem registerAll_of_clash (h : F.Clash r bs before b) :
    F.registerAll r bs = (F.registerEach r before, .error (F.duplicate (F.key b))) := by
  obtain ⟨after, rfl⟩ := h.split
  have hrefused : F.register (F.registerEach r before) b = .error (F.duplicate (F.key b)) :=
    register_eq_error_iff.mpr ⟨isSome_get?_registerEach.mpr h.taken, rfl⟩
  rw [registerAll_append, registerAll_of_free h.free]
  simp only [registerAll, hrefused]

theorem fill_of_free (h : F.Free r bs) : F.fill r bs = .ok (F.registerEach r bs) := by
  rw [fill, registerAll_of_free h]

theorem fill_of_clash (h : F.Clash r bs before b) :
    F.fill r bs = .error (F.duplicate (F.key b)) := by
  rw [fill, registerAll_of_clash h]

/-- Either nothing is in the way of some entries, or one is the first whose key is taken. -/
theorem free_or_clash (r : R) (bs : List β) : F.Free r bs ∨ ∃ before b, F.Clash r bs before b := by
  induction bs using List.reverseRecOn with
  | nil => exact .inl ⟨.nil, by simp⟩
  | append_singleton bs last ih =>
    obtain hfree | ⟨before, b, ⟨after, hsplit⟩, hfree, htaken⟩ := ih
    · by_cases htaken : (F.get? r (F.key last)).isSome ∨ F.key last ∈ bs.map F.key
      · exact .inr ⟨bs, last, ⟨[], rfl⟩, hfree, htaken⟩
      · obtain ⟨hget, hnew⟩ := not_or.mp htaken
        refine .inl ⟨?_, fun b hb ↦ ?_⟩
        · rw [List.map_append, List.map_singleton, List.perm_append_comm.nodup_iff]
          exact List.nodup_cons.mpr ⟨hnew, hfree.nodup⟩
        · obtain hb | hb := List.mem_append.mp hb
          · exact hfree.unclaimed b hb
          · rw [List.mem_singleton.mp hb]
            simpa using hget
    · exact .inr ⟨before, b, ⟨after ++ [last], by simp [hsplit]⟩, hfree, htaken⟩

theorem Clash.not_free (h : F.Clash r bs before b) : ¬ F.Free r bs := by
  intro hfree
  obtain ⟨after, rfl⟩ := h.split
  obtain htaken | htaken := h.taken
  · rw [hfree.unclaimed b (by simp)] at htaken
    cases htaken
  · exact hfree.key_notMem htaken

/-! ### Registries that hold more -/

variable {added : List β}

/-- What was added to a registry is in the way of entries with the same keys, and of no others. -/
theorem free_registerEach_iff :
    F.Free (F.registerEach r added) bs ↔
      F.Free r bs ∧ ∀ a ∈ added, F.key a ∉ bs.map F.key := by
  have hnone : ∀ k, F.get? (F.registerEach r added) k = none ↔
      F.get? r k = none ∧ k ∉ added.map F.key := fun k ↦ by
    rw [← Option.not_isSome_iff_eq_none, isSome_get?_registerEach, not_or,
      Option.not_isSome_iff_eq_none]
  constructor
  · intro h
    refine ⟨⟨h.nodup, fun b hb ↦ ((hnone _).mp (h.unclaimed b hb)).1⟩, fun a ha hmem ↦ ?_⟩
    obtain ⟨b, hb, hkey⟩ := List.mem_map.mp hmem
    exact ((hnone _).mp (h.unclaimed b hb)).2 (hkey ▸ List.mem_map_of_mem ha)
  · rintro ⟨h, hadded⟩
    refine ⟨h.nodup, fun b hb ↦ (hnone _).mpr ⟨h.unclaimed b hb, fun hmem ↦ ?_⟩⟩
    obtain ⟨a, ha, hkey⟩ := List.mem_map.mp hmem
    exact hadded a ha (hkey ▸ List.mem_map_of_mem hb)

/-- Of entries with nothing in their way before, the first that is refused has the key of something
that was added. -/
theorem Clash.key_mem (h : F.Clash (F.registerEach r added) bs before b) (hfree : F.Free r bs) :
    F.key b ∈ added.map F.key := by
  obtain ⟨after, rfl⟩ := h.split
  obtain htaken | htaken := h.taken
  · obtain htaken | htaken := isSome_get?_registerEach.mp htaken
    · rw [hfree.unclaimed b (by simp)] at htaken
      cases htaken
    · exact htaken
  · exact absurd htaken hfree.key_notMem

end FirstCome

/-! ### The registries -/

namespace TypeRegistry

/-- Type definitions under their identifiers. -/
def firstCome : FirstCome TypeRegistry TypeDefinition String TypeDefinition RegistryError where
  key := TypeDefinition.id
  value := id
  get? := get?
  register := register
  duplicate := .duplicateType
  register_of_taken := fun h ↦ if_pos (by rw [contains, h, Option.isSome_some])
  register_of_free := fun {types d} h ↦
    ⟨_, if_neg (by rw [contains, h]; simp), fun k ↦ Json.lookup_insertMember d.id k d _⟩

/-- Of definitions with nothing in their way each is found, besides what was held before. -/
theorem get?_registerEach {types : TypeRegistry} {ds : List TypeDefinition}
    (h : firstCome.Free types ds) (id : String) (d : TypeDefinition) :
    (firstCome.registerEach types ds).get? id = some d ↔
      types.get? id = some d ∨ d ∈ ds ∧ d.id = id := by
  refine (FirstCome.get?_registerEach_of_free h).trans (or_congr Iff.rfl ⟨?_, ?_⟩)
  · rintro ⟨d, hd, rfl, rfl⟩
    exact ⟨hd, rfl⟩
  · rintro ⟨hd, rfl⟩
    exact ⟨d, hd, rfl, rfl⟩

end TypeRegistry

namespace FormatterRegistry

theorem get?_concat (r : FormatterRegistry) (key k : FormatterKey) (formatter : Formatter) :
    get? ⟨r.entries ++ [(key, formatter)]⟩ k =
      (r.get? k).or (if k = key then some formatter else none) := by
  rw [get?, get?, List.find?_append, Option.map_or]
  by_cases hk : k = key
  · simp [hk]
  · simp [hk, Ne.symm hk]

/-- Formatters under their keys. -/
def firstCome : FirstCome FormatterRegistry (FormatterKey × Formatter) FormatterKey Formatter
    RegistryError where
  key := Prod.fst
  value := Prod.snd
  get? := get?
  register := fun r e ↦ r.register e.1 e.2
  duplicate := FormatterKey.duplicate
  register_of_taken := fun h ↦ if_pos (by rw [h, Option.isSome_some])
  register_of_free := fun {r e} h ↦ by
    refine ⟨_, if_neg (by rw [h]; simp), fun k ↦ ?_⟩
    rw [get?_concat]
    by_cases hk : k = e.1
    · rw [if_pos hk, if_pos hk, hk, h, Option.none_or]
    · rw [if_neg hk, if_neg hk, Option.or_none]

/-- Of formatters that were offered to an empty registry the first at each place is found. -/
theorem get?_registerEach (entries : List (FormatterKey × Formatter)) (key : FormatterKey) :
    (firstCome.registerEach {} entries).get? key = entries.lookup key := by
  have hpairs : (entries.map fun e ↦ (e.1, e.2)) = entries := List.map_id' entries
  have hget : (firstCome.registerEach {} entries).get? key =
      (entries.map fun e ↦ (e.1, e.2)).lookup key :=
    FirstCome.get?_registerEach (F := firstCome) ⟨[]⟩ entries key
  rw [hget, hpairs]

/-- After such offers the places of the formatters are taken. -/
theorem isSome_get?_registerEach (entries : List (FormatterKey × Formatter)) (key : FormatterKey) :
    ((firstCome.registerEach {} entries).get? key).isSome ↔ key ∈ entries.map Prod.fst :=
  (FirstCome.isSome_get?_registerEach (F := firstCome)).trans (or_iff_right Bool.false_ne_true)

end FormatterRegistry

namespace SenderRegistry

/-- Senders under their platforms. -/
def firstCome : FirstCome SenderRegistry (String × Sender) String Sender RegistryError where
  key := Prod.fst
  value := Prod.snd
  get? := get?
  register := fun r e ↦ r.register e.1 e.2
  duplicate := .duplicateSender
  register_of_taken := fun h ↦ if_pos (by rw [h, Option.isSome_some])
  register_of_free := fun {_ e} h ↦
    ⟨_, if_neg (by rw [h]; simp), fun k ↦ Json.lookup_insertMember e.1 k e.2 _⟩

/-- Of senders that were offered to an empty registry, one for each platform, all are found. -/
theorem get?_registerEach {entries : List (String × Sender)} (h : (entries.map Prod.fst).Nodup)
    (platform : String) (sender : Sender) :
    (firstCome.registerEach {} entries).get? platform = some sender ↔
      (platform, sender) ∈ entries := by
  have hfree : firstCome.Free {} entries := ⟨h, fun _ _ ↦ rfl⟩
  refine (FirstCome.get?_registerEach_of_free hfree).trans ?_
  constructor
  · rintro (hnone | ⟨entry, hentry, rfl, rfl⟩)
    · cases hnone
    · exact hentry
  · exact fun hentry ↦ .inr ⟨_, hentry, rfl, rfl⟩

end SenderRegistry

end Courier
