import Courier.Delivery.Failure
import Courier.Delivery.Target
import Courier.Proofs.Decode.Record

/-!
# What is recorded of deliveries is read back

Durations, targets, results of sends and failures of deliveries are written as records and are read
back from them as they were: `Duration.decode_toJson`, `Target.decode_toJson`,
`SendResult.decode_toJson` and `DeliveryFailure.decode_toJson`. Codes have 32 bits and a sign.

The members of a record are in order. So the detail of a failure stands before its label, which says
how to read it; it is kept as it is until then (`DeliveryFailure.label_kind`).
-/

set_option autoImplicit false
set_option relaxedAutoImplicit false

namespace Courier

variable {dialect inner innermost : Decode.Dialect}

/-- A code has 32 bits and a sign. -/
def IsCode (code : ℤ) : Prop := -2 ^ 31 ≤ code ∧ code < 2 ^ 31

theorem IsCode.decode {code : ℤ} (h : IsCode code) :
    Decode.integer32 dialect (.ofJson (.ofInt code)) = .ok code :=
  Decode.integer_ofInt h.1 (Int.le_sub_one_of_lt h.2) "i32"

/-! ### Durations and targets -/

namespace Duration

theorem toJson_eq (d : Duration) :
    d.toJson = .object [("nanos", .ofNat d.subsecNanos), ("secs", .ofNat d.secs)] := by
  simp only [toJson, Json.ofMembers, Json.sortMembers, List.foldl, Json.insertMember,
    String.reduceLT, String.reduceEq, if_true, if_false]

/-- A duration is read back. -/
theorem decode_toJson {d : Duration} (hd : d.nanos < limit) (henter : dialect.enter = .ok inner) :
    decode dialect (.ofJson d.toJson) = .ok d := by
  have hnanos : d.secs * nanosPerSecond + d.subsecNanos = d.nanos := by
    rw [secs, subsecNanos, Nat.div_add_mod']
  have hsecs : (d.secs : ℤ) ≤ Int.pow 2 64 - 1 := by
    have hlt : d.secs < 2 ^ 64 := (Nat.div_lt_iff_lt_mul (by decide)).mpr hd
    simp only [Int.pow_eq]
    omega
  have hsubsec : (d.subsecNanos : ℤ) ≤ Int.pow 2 32 - 1 := by
    have hlt : d.subsecNanos < nanosPerSecond := Nat.mod_lt _ (by decide)
    simp only [Int.pow_eq, nanosPerSecond] at *
    omega
  have hrecord : Decode.record form dialect (.ofJson d.toJson) = .ok (d.secs, d.subsecNanos) := by
    rw [toJson_eq]
    refine Decode.record_object henter ?_ (Json.sorted_of_ofMembers d.toJson_eq) rfl
    exact .set rfl (Decode.natural_ofNat hsubsec "u32") <|
      .set rfl (Decode.natural_ofNat hsecs "u64") .nil
  refine Decode.checked_of_ok hrecord ?_
  exact (if_pos (hnanos ▸ hd)).trans (congrArg (fun n ↦ Except.ok (Duration.mk n)) hnanos)

end Duration

namespace Target

theorem toJson_eq (t : Target) :
    t.toJson = .object
      [("endpoint_key", .string t.endpoint), ("platform", .string t.platform),
       ("url", .string t.url)] := by
  simp only [toJson, Json.ofMembers, Json.sortMembers, List.foldl, Json.insertMember,
    String.reduceLT, String.reduceEq, if_true, if_false]

/-- A target is read back. -/
theorem decode_toJson (t : Target) (henter : dialect.enter = .ok inner) :
    decode dialect (.ofJson t.toJson) = .ok t := by
  rw [toJson_eq]
  refine Decode.record_object henter ?_ (Json.sorted_of_ofMembers t.toJson_eq) rfl
  exact .set rfl rfl <| .set rfl rfl <| .set rfl rfl .nil

end Target

/-! ### Results of sending -/

namespace SendResult

/-- A result as it is held. -/
structure Held (r : SendResult) : Prop where
  code : IsCode r.code
  retryAfter : ∀ d, r.retryAfter = some d → d.nanos < Duration.limit

/-- Error and wait are left out if there is none. -/
theorem toJson_eq (r : SendResult) :
    r.toJson = .object
      ((r.error.toList.map fun message ↦ ("error", .string message)) ++
        ((r.retryAfter.toList.map fun d ↦ ("retry_after", d.toJson)) ++
          [("retryable", .bool r.retryable), ("status_code", .ofInt r.code),
           ("success", .bool r.success)])) := by
  obtain ⟨success, code, error | error, retryable, retryAfter | retryAfter⟩ := r <;>
    simp only [toJson, Json.ofMembers, Json.sortMembers, List.foldl, Json.insertMember,
      Option.toList, List.map, List.nil_append, List.cons_append, List.append_nil,
      String.reduceLT, String.reduceEq, if_true, if_false]

/-- A result is read back. -/
theorem decode_toJson {r : SendResult} (hheld : r.Held) (henter : dialect.enter = .ok inner)
    (hinner : inner.enter = .ok innermost) :
    decode dialect (.ofJson r.toJson) = .ok r := by
  have hwait : ∀ d, r.retryAfter = some d →
      Decode.optional Duration.decode inner (.ofJson d.toJson) = .ok (some d) := fun d hd ↦
    Decode.optional_ofJson (fun h ↦ nomatch h)
      (Duration.decode_toJson (hheld.retryAfter d hd) hinner)
  rw [toJson_eq]
  refine Decode.record_object henter ?_ (Json.sorted_of_ofMembers r.toJson_eq) ?_
  · exact .option rfl (fun _ _ ↦ rfl) rfl <| .option rfl hwait rfl <| .set rfl rfl <|
      .set rfl hheld.code.decode <| .set rfl rfl .nil
  · cases r.error <;> cases r.retryAfter <;> rfl

end SendResult

/-! ### Failures -/

namespace DeliveryFailure

/-- A failure as it is held. -/
def Held : DeliveryFailure → Prop
  | sendFailed code _ => IsCode code
  | _ => True

theorem toJson_eq (f : DeliveryFailure) :
    f.toJson = .object
      ((f.detail?.toList.map fun d ↦ ("detail", d)) ++ [("kind", .string f.kind)]) := by
  rw [toJson]
  cases f.detail? <;>
    simp only [Json.ofMembers, Json.sortMembers, List.foldl, Json.insertMember, Option.toList,
      List.map, List.nil_append, List.cons_append, String.reduceLT, String.reduceEq, if_true,
      if_false]

theorem failedSend_ofJson {code : ℤ} {message : String} (hcode : IsCode code)
    (henter : dialect.enter = .ok inner) :
    failedSend dialect
        (.ofJson (.ofMembers [("status_code", .ofInt code), ("message", .string message)])) =
      .ok (.sendFailed code message) := by
  have hmembers : Json.ofMembers [("status_code", .ofInt code), ("message", .string message)] =
      .object [("message", .string message), ("status_code", .ofInt code)] := by
    simp only [Json.ofMembers, Json.sortMembers, List.foldl, Json.insertMember, String.reduceLT,
      String.reduceEq, if_true, if_false]
  have hrecord : Decode.record sendFailedForm dialect
      (.ofJson (.object [("message", .string message), ("status_code", .ofInt code)])) =
      .ok (code, message) := by
    refine Decode.record_object henter ?_ (Json.sorted_of_ofMembers hmembers) rfl
    exact .set rfl rfl <| .set rfl hcode.decode .nil
  rw [hmembers]
  exact congrArg (Except.map fun p ↦ DeliveryFailure.sendFailed p.1 p.2) hrecord

/-- The label of a failure leads to what reads its detail, and stands for it if there is none. -/
theorem label_kind {f : DeliveryFailure} (hheld : f.Held) (henter : dialect.enter = .ok inner) :
    ∃ label, Decode.choice variants dialect (.string f.kind) = .ok label ∧
      (f.detail? = none → label.1 = some f) ∧
      ∀ detail, f.detail? = some detail → label.2 dialect (.ofJson detail) = .ok f := by
  cases f with
  | noFormatter | emptyPayload | noSender | bulkheadFull | rateLimited | circuitOpen =>
    exact ⟨_, rfl, fun _ ↦ rfl, by simp [detail?]⟩
  | contextMismatch | formatFailed | crashed =>
    refine ⟨_, rfl, by simp [detail?], fun detail hdetail ↦ ?_⟩
    obtain rfl := Option.some.inj hdetail
    rfl
  | sendFailed code message =>
    refine ⟨_, rfl, by simp [detail?], fun detail hdetail ↦ ?_⟩
    obtain rfl := Option.some.inj hdetail
    exact failedSend_ofJson hheld henter

/-- A failure is read back. -/
theorem decode_toJson {f : DeliveryFailure} (hheld : f.Held) (henter : dialect.enter = .ok inner)
    (hinner : inner.enter = .ok innermost) :
    decode dialect (.ofJson f.toJson) = .ok f := by
  obtain ⟨⟨bare, read⟩, hlabel, hbare, hread⟩ := label_kind hheld hinner
  have hdecode : ∀ members, decode dialect (.object members none) = (do
      let inner ← Decode.liftFlaw dialect.enter
      let parts ← findParts inner members {}
      let failure ← ofParts inner parts
      Decode.closing none
      return failure) := fun _ ↦ rfl
  -- The detail stands before the label, and is kept until the label says how to read it.
  have hkind : ∀ detail : Option Json.Draft,
      findParts inner [(.ok "kind", .string f.kind)] { detail } =
        .ok { label := some (bare, read), detail } := by
    intro detail
    simp only [findParts, if_true, Option.isSome_none, Bool.false_eq_true, if_false, hlabel]
  rw [toJson_eq]
  cases hdetail : f.detail? with
  | none =>
    obtain rfl := hbare hdetail
    refine (hdecode [(.ok "kind", .string f.kind)]).trans ?_
    simp only [henter, Decode.liftFlaw, bind, Except.bind, hkind none, ofParts, Decode.closing,
      pure, Except.pure]
  | some detail =>
    have hparts :
        findParts inner [(.ok "detail", .ofJson detail), (.ok "kind", .string f.kind)] {} =
          .ok { label := some (bare, read), detail := some (.ofJson detail) } := by
      rw [findParts, if_neg (by decide), if_pos rfl]
      exact hkind (some (.ofJson detail))
    have hfailure : read inner (.ofJson detail) = .ok f := hread detail hdetail
    refine (hdecode [(.ok "detail", .ofJson detail), (.ok "kind", .string f.kind)]).trans ?_
    simp only [henter, Decode.liftFlaw, bind, Except.bind, hparts, ofParts, hfailure,
      Decode.closing, pure, Except.pure]

end DeliveryFailure

end Courier
