import Courier.Gateway.Basic
import Courier.Proofs.FirstCome

/-!
# Building a gateway

A blueprint is drawn up by requests (`Blueprint.ofRequests`). Nothing is wrong with it
(`Blueprint.Acceptable`) or one thing is the first (`Blueprint.FirstFault`), in the order of
configuration, types, formatters and senders. A build fails over what is wrong first, and by then
some of the types are registered (`Gateway.build_of_firstFault`). If nothing is wrong it succeeds,
unless no queue is as long as the one that is asked for (`Gateway.build_of_acceptable`).

What a gateway has that was built is `Gateway.Serves`: for each platform the sender that was
listed, and for each type on it the first formatter, or else the first fallback, whatever formatters
are offered later. With this `Gateway.build_resolves` says what becomes of any requests.

A registry of types that a gateway shares is not restored when a build fails. It keeps the types
that were registered before the first fault, and they are in the way of the next build that lists
them (`Gateway.failed_build_adds`).
-/

set_option autoImplicit false
set_option relaxedAutoImplicit false

namespace Courier

/-! ### Requests -/

/-- What is asked of a blueprint. -/
inductive Request where
  | config (c : Config)
  | sharedTypes (types : TypeRegistry)
  | type (d : TypeDefinition)
  | formatter (platform typeId : String) (f : Formatter)
  | fallback (platform : String) (f : Formatter)
  | sender (platform : String) (s : Sender)
  | routing (t : RoutingTable)
  | letters (s : DeadLetterStore)
  | listener

namespace Request

/-- The definition that is to be registered. -/
def type? : Request → Option TypeDefinition
  | type d => some d
  | _ => none

/-- The formatter that is to be registered, under its key. -/
def formatter? : Request → Option (FormatterKey × Formatter)
  | formatter platform typeId f => some (⟨platform, some typeId⟩, f)
  | fallback platform f => some (⟨platform, none⟩, f)
  | _ => none

/-- The sender that is to be registered, under its platform. -/
def sender? : Request → Option (String × Sender)
  | sender platform s => some (platform, s)
  | _ => none

end Request

namespace Blueprint

/-- The blueprint of a gateway that shares a registry of types. -/
def sharing (b : Blueprint) (types : TypeRegistry) : Blueprint :=
  { b with sharedTypes := some types }

/-- A blueprint after a request: what is to be registered is added at the end, and all else takes
the place of what was said before. -/
def heed (b : Blueprint) : Request → Blueprint
  | .config c => { b with config := c }
  | .sharedTypes types => b.sharing types
  | .type d => { b with types := b.types ++ [d] }
  | .formatter platform typeId f =>
    { b with formatters := b.formatters ++ [(⟨platform, some typeId⟩, f)] }
  | .fallback platform f => { b with formatters := b.formatters ++ [(⟨platform, none⟩, f)] }
  | .sender platform s => { b with senders := b.senders ++ [(platform, s)] }
  | .routing t => { b with routing := some t }
  | .letters s => { b with letters := s }
  | .listener => { b with observed := true }

/-- The blueprint that some requests make. -/
def ofRequests (requests : List Request) : Blueprint := requests.foldl heed {}

/-- A request adds what it says is to be registered. -/
theorem heed_entries (b : Blueprint) (r : Request) :
    (b.heed r).types = b.types ++ r.type?.toList ∧
      (b.heed r).formatters = b.formatters ++ r.formatter?.toList ∧
      (b.heed r).senders = b.senders ++ r.sender?.toList := by
  cases r <;> simp [heed, sharing, Request.type?, Request.formatter?, Request.sender?]

/-- What is to be registered is what the requests say, in their order. -/
theorem ofRequests_entries (requests : List Request) :
    (ofRequests requests).types = requests.filterMap Request.type? ∧
      (ofRequests requests).formatters = requests.filterMap Request.formatter? ∧
      (ofRequests requests).senders = requests.filterMap Request.sender? := by
  induction requests using List.reverseRecOn with
  | nil => exact ⟨rfl, rfl, rfl⟩
  | append_singleton requests last ih =>
    obtain ⟨htypes, hformatters, hsenders⟩ := ih
    have hlast : ofRequests (requests ++ [last]) = (ofRequests requests).heed last :=
      List.foldl_concat ..
    obtain ⟨hnewTypes, hnewFormatters, hnewSenders⟩ := heed_entries (ofRequests requests) last
    rw [hlast, hnewTypes, hnewFormatters, hnewSenders, htypes, hformatters, hsenders]
    simp only [List.filterMap_append]
    cases last <;> exact ⟨rfl, rfl, rfl⟩

/-- The registry of types that a gateway gets. -/
def registry (b : Blueprint) : TypeRegistry := b.sharedTypes.getD {}

/-- Nothing is wrong with a blueprint. -/
structure Acceptable (b : Blueprint) : Prop where
  config : b.config.invalid? = none
  typeIds : (b.types.map TypeDefinition.id).Nodup
  newTypes : ∀ d ∈ b.types, b.registry.get? d.id = none
  formatterKeys : (b.formatters.map Prod.fst).Nodup
  platforms : (b.senders.map Prod.fst).Nodup

/-- The first thing that is wrong with a blueprint, and the types that are registered by then. The
configuration comes before the types, the types before the formatters, and the formatters before
the senders. -/
inductive FirstFault (b : Blueprint) : BuildError → List TypeDefinition → Prop where
  | config {complaint : String} (h : b.config.invalid? = some complaint) :
      FirstFault b (.invalid complaint) []
  | type {before : List TypeDefinition} {d : TypeDefinition} (hconfig : b.config.invalid? = none)
      (h : TypeRegistry.firstCome.Clash b.registry b.types before d) :
      FirstFault b (.registry (.duplicateType d.id)) before
  | formatter {before : List (FormatterKey × Formatter)} {entry : FormatterKey × Formatter}
      (hconfig : b.config.invalid? = none)
      (htypes : TypeRegistry.firstCome.Free b.registry b.types)
      (h : FormatterRegistry.firstCome.Clash {} b.formatters before entry) :
      FirstFault b (.registry entry.1.duplicate) b.types
  | sender {before : List (String × Sender)} {entry : String × Sender}
      (hconfig : b.config.invalid? = none)
      (htypes : TypeRegistry.firstCome.Free b.registry b.types)
      (hformatters : FormatterRegistry.firstCome.Free {} b.formatters)
      (h : SenderRegistry.firstCome.Clash {} b.senders before entry) :
      FirstFault b (.registry (.duplicateSender entry.1)) b.types

variable {b : Blueprint} {e : BuildError} {added : List TypeDefinition}

theorem acceptable_iff :
    b.Acceptable ↔ b.config.invalid? = none ∧
      TypeRegistry.firstCome.Free b.registry b.types ∧
      FormatterRegistry.firstCome.Free {} b.formatters ∧
      SenderRegistry.firstCome.Free {} b.senders := by
  constructor
  · intro h
    exact ⟨h.config, ⟨h.typeIds, h.newTypes⟩, ⟨h.formatterKeys, fun _ _ ↦ rfl⟩,
      ⟨h.platforms, fun _ _ ↦ rfl⟩⟩
  · rintro ⟨hconfig, htypes, hformatters, hsenders⟩
    exact ⟨hconfig, htypes.nodup, htypes.unclaimed, hformatters.nodup, hsenders.nodup⟩

/-- Either nothing is wrong with a blueprint or one thing is the first. -/
theorem acceptable_or_firstFault (b : Blueprint) :
    b.Acceptable ∨ ∃ e added, b.FirstFault e added := by
  cases hconfig : b.config.invalid? with
  | some complaint => exact .inr ⟨_, _, .config hconfig⟩
  | none =>
    obtain htypes | ⟨before, d, h⟩ := TypeRegistry.firstCome.free_or_clash b.registry b.types
    · obtain hformatters | ⟨before, entry, h⟩ :=
        FormatterRegistry.firstCome.free_or_clash {} b.formatters
      · obtain hsenders | ⟨before, entry, h⟩ :=
          SenderRegistry.firstCome.free_or_clash {} b.senders
        · exact .inl (acceptable_iff.mpr ⟨hconfig, htypes, hformatters, hsenders⟩)
        · exact .inr ⟨_, _, .sender hconfig htypes hformatters h⟩
      · exact .inr ⟨_, _, .formatter hconfig htypes h⟩
    · exact .inr ⟨_, _, .type hconfig h⟩

/-- What was registered before the first fault was free. -/
theorem FirstFault.free (h : b.FirstFault e added) :
    TypeRegistry.firstCome.Free b.registry added := by
  cases h with
  | config => exact ⟨.nil, by simp⟩
  | type _ h => exact h.free
  | formatter _ htypes _ => exact htypes
  | sender _ htypes _ _ => exact htypes

/-! ### Sharing a registry that holds more -/

variable {types : TypeRegistry}

/-- A blueprint with nothing wrong stays so when the registry that it shares gets more types if and
only if it lists none of them. -/
theorem acceptable_sharing_registerEach_iff (h : (b.sharing types).Acceptable) :
    (b.sharing (TypeRegistry.firstCome.registerEach types added)).Acceptable ↔
      ∀ d ∈ added, d.id ∉ b.types.map TypeDefinition.id := by
  obtain ⟨hconfig, htypes, hrest⟩ := acceptable_iff.mp h
  constructor
  · intro hmore
    exact (FirstCome.free_registerEach_iff.mp (acceptable_iff.mp hmore).2.1).2
  · intro hadded
    exact acceptable_iff.mpr
      ⟨hconfig, FirstCome.free_registerEach_iff.mpr ⟨htypes, hadded⟩, hrest⟩

/-- What is wrong with it otherwise is one of these types. -/
theorem FirstFault.mem_added {more : List TypeDefinition} (h : (b.sharing types).Acceptable)
    (hfault : (b.sharing (TypeRegistry.firstCome.registerEach types added)).FirstFault e more) :
    ∃ d ∈ b.types, d.id ∈ added.map TypeDefinition.id ∧
      e = .registry (.duplicateType d.id) := by
  obtain ⟨hconfig, htypes, hformatters, hsenders⟩ := acceptable_iff.mp h
  cases hfault with
  | config hinvalid => cases hconfig.symm.trans hinvalid
  | @type _ d _ hclash =>
    obtain ⟨after, hsplit⟩ := hclash.split
    have hd : d ∈ (b.sharing types).types := hsplit ▸ by simp
    exact ⟨d, hd, hclash.key_mem htypes, rfl⟩
  | formatter _ _ hclash => exact absurd hformatters hclash.not_free
  | sender _ _ _ hclash => exact absurd hsenders hclash.not_free

end Blueprint

namespace Gateway

variable {b : Blueprint} {g : Gateway} {e : BuildError} {added : List TypeDefinition}

/-! ### What a build does -/

theorem registerTypes_eq (types : TypeRegistry) (ds : List TypeDefinition) :
    registerTypes types ds = TypeRegistry.firstCome.registerAll types ds := by
  induction ds generalizing types with
  | nil => rfl
  | cons d ds ih =>
    rw [registerTypes, FirstCome.registerAll]
    simp only [TypeRegistry.firstCome]
    cases types.register d with
    | error reason => rfl
    | ok types => exact ih types

theorem registerFormatters_eq (formatters : FormatterRegistry)
    (entries : List (FormatterKey × Formatter)) :
    registerFormatters formatters entries =
      FormatterRegistry.firstCome.fill formatters entries := by
  induction entries generalizing formatters with
  | nil => rfl
  | cons entry entries ih =>
    rw [registerFormatters, FirstCome.fill, FirstCome.registerAll]
    simp only [FormatterRegistry.firstCome]
    cases formatters.register entry.1 entry.2 with
    | error reason => rfl
    | ok formatters => exact ih formatters

theorem registerSenders_eq (senders : SenderRegistry) (entries : List (String × Sender)) :
    registerSenders senders entries = SenderRegistry.firstCome.fill senders entries := by
  induction entries generalizing senders with
  | nil => rfl
  | cons entry entries ih =>
    rw [registerSenders, FirstCome.fill, FirstCome.registerAll]
    simp only [SenderRegistry.firstCome]
    cases senders.register entry.1 entry.2 with
    | error reason => rfl
    | ok senders => exact ih senders

/-- A build with a valid configuration registers the types and then assembles the rest. -/
theorem build_of_valid (h : b.config.invalid? = none) :
    build b =
      match TypeRegistry.firstCome.registerAll b.registry b.types with
      | (types, .error reason) => (.error (.registry reason), types)
      | (types, .ok ()) => (assemble b types, types) := by
  rw [← registerTypes_eq]
  simp only [build, h]
  rfl

/-- What is wrong first ends a build, and the types that are registered by then stay. -/
theorem build_of_firstFault (h : b.FirstFault e added) :
    build b = (.error e, TypeRegistry.firstCome.registerEach b.registry added) := by
  cases h with
  | config h =>
    simp only [build, h]
    rfl
  | type hconfig h =>
    rw [build_of_valid hconfig, FirstCome.registerAll_of_clash h]
    rfl
  | formatter hconfig htypes h =>
    rw [build_of_valid hconfig, FirstCome.registerAll_of_free htypes]
    simp only [assemble, registerFormatters_eq, FirstCome.fill_of_clash h]
    rfl
  | sender hconfig htypes hformatters h =>
    rw [build_of_valid hconfig, FirstCome.registerAll_of_free htypes]
    simp only [assemble, registerFormatters_eq, registerSenders_eq,
      FirstCome.fill_of_free hformatters, FirstCome.fill_of_clash h]
    rfl

/-- An acceptable blueprint is built, and the registries of the gateway have what it lists, unless
the queue is longer than any can be. -/
theorem build_of_acceptable (h : b.Acceptable) :
    if Crash.maxSlots < max b.config.pool.queueCapacity 1 then
      (build b).1 = .error (.crashed .queueTooLong)
    else
      ∃ g, (build b).1 = .ok g ∧
        g.depot.formatters = FormatterRegistry.firstCome.registerEach {} b.formatters ∧
        g.depot.senders = SenderRegistry.firstCome.registerEach {} b.senders := by
  obtain ⟨hconfig, htypes, hformatters, hsenders⟩ := Blueprint.acceptable_iff.mp h
  rw [build_of_valid hconfig, FirstCome.registerAll_of_free htypes]
  simp only [assemble, registerFormatters_eq, registerSenders_eq,
    FirstCome.fill_of_free hformatters, FirstCome.fill_of_free hsenders, Pool.new]
  split
  · rfl
  · exact ⟨_, rfl, rfl, rfl⟩

/-- If there is something wrong, a build that fails does so over what is wrong first. -/
theorem firstFault_of_error (h : (build b).1 = .error e) (hb : ¬ b.Acceptable) :
    ∃ added, b.FirstFault e added := by
  obtain ⟨e', added, hfault⟩ := b.acceptable_or_firstFault.resolve_left hb
  rw [build_of_firstFault hfault] at h
  exact ⟨added, Except.error.inj h ▸ hfault⟩

/-- An acceptable blueprint does not fail, other than by a crash. -/
theorem not_acceptable_of_error (h : (build b).1 = .error e) (he : ∀ crash, e ≠ .crashed crash) :
    ¬ b.Acceptable := by
  intro hb
  have hbuild := build_of_acceptable hb
  rw [h] at hbuild
  split at hbuild
  · exact he _ (Except.error.inj hbuild)
  · obtain ⟨g, hg, -⟩ := hbuild
    cases hg

theorem acceptable_of_build (h : (build b).1 = .ok g) : b.Acceptable := by
  obtain hb | ⟨e, added, hfault⟩ := b.acceptable_or_firstFault
  · exact hb
  · rw [build_of_firstFault hfault] at h
    cases h

/-- A blueprint with a queue that can be is built if and only if nothing is wrong with it. -/
theorem exists_build_eq_ok_iff (hqueue : b.config.pool.queueCapacity ≤ Crash.maxSlots) :
    (∃ g, (build b).1 = .ok g) ↔ b.Acceptable := by
  have hmax : ¬ Crash.maxSlots < max b.config.pool.queueCapacity 1 :=
    not_lt.mpr (max_le hqueue (by decide))
  constructor
  · exact fun ⟨g, hg⟩ ↦ acceptable_of_build hg
  · intro hb
    have hbuild := build_of_acceptable hb
    rw [if_neg hmax] at hbuild
    obtain ⟨g, hg, -⟩ := hbuild
    exact ⟨g, hg⟩

/-- Otherwise it fails over what is wrong first. -/
theorem build_eq_error_iff (hqueue : b.config.pool.queueCapacity ≤ Crash.maxSlots) :
    (build b).1 = .error e ↔ ∃ added, b.FirstFault e added := by
  constructor
  · intro h
    refine firstFault_of_error h fun hb ↦ ?_
    obtain ⟨g, hg⟩ := (exists_build_eq_ok_iff hqueue).mpr hb
    rw [hg] at h
    cases h
  · rintro ⟨added, hfault⟩
    rw [build_of_firstFault hfault]

/-! ### What a gateway resolves -/

/-- A gateway has the formatters and the senders that were listed for it. -/
structure Serves (g : Gateway) (formatters : List (FormatterKey × Formatter))
    (senders : List (String × Sender)) : Prop where
  /-- Whatever is offered later, the first formatter for a type counts, or else the first
  fallback. -/
  resolve : ∀ later platform typeId,
    (FormatterRegistry.firstCome.registerEach g.depot.formatters later).resolve platform typeId =
      ((formatters ++ later).lookup ⟨platform, some typeId⟩).or
        ((formatters ++ later).lookup ⟨platform, none⟩)
  /-- A formatter is refused if and only if there is one at its place. -/
  register : ∀ later key formatter reason,
    (FormatterRegistry.firstCome.registerEach g.depot.formatters later).register key formatter =
        .error reason ↔
      key ∈ (formatters ++ later).map Prod.fst ∧ reason = key.duplicate
  /-- A formatter that is refused changes nothing. -/
  refused : ∀ later key formatter, key ∈ (formatters ++ later).map Prod.fst →
    FormatterRegistry.firstCome.registerEach g.depot.formatters (later ++ [(key, formatter)]) =
      FormatterRegistry.firstCome.registerEach g.depot.formatters later
  /-- The sender of a platform is the one that was listed. -/
  sender : ∀ platform sender,
    g.depot.senders.get? platform = some sender ↔ (platform, sender) ∈ senders

/-- A gateway that was built has what its blueprint lists. -/
theorem serves_of_build (h : (build b).1 = .ok g) : g.Serves b.formatters b.senders := by
  have hb := acceptable_of_build h
  have hbuild := build_of_acceptable hb
  rw [h] at hbuild
  split at hbuild
  · cases hbuild
  obtain ⟨_, hg, hformatters, hsenders⟩ := hbuild
  obtain rfl := Except.ok.inj hg
  have hlater : ∀ later, FormatterRegistry.firstCome.registerEach g.depot.formatters later =
      FormatterRegistry.firstCome.registerEach {} (b.formatters ++ later) := fun later ↦ by
    rw [hformatters, FirstCome.registerEach_append]
  have htaken : ∀ later key,
      ((FormatterRegistry.firstCome.registerEach g.depot.formatters later).get? key).isSome ↔
        key ∈ (b.formatters ++ later).map Prod.fst := fun later key ↦ by
    rw [hlater, FormatterRegistry.isSome_get?_registerEach]
  constructor
  case resolve =>
    intro later platform typeId
    rw [hlater, FormatterRegistry.resolve, FormatterRegistry.get?_registerEach,
      FormatterRegistry.get?_registerEach, Option.orElse_eq_orElse, Option.orElse_eq_or]
  case register =>
    intro later key formatter reason
    rw [← htaken]
    exact FirstCome.register_eq_error_iff (F := FormatterRegistry.firstCome)
      (b := (key, formatter))
  case refused =>
    intro later key formatter hkey
    rw [FirstCome.registerEach_append]
    exact FirstCome.offer_of_taken ((htaken later key).mpr hkey)
  case sender =>
    intro platform sender
    rw [hsenders]
    exact SenderRegistry.get?_registerEach hb.platforms platform sender

/-- However a blueprint with a queue that can be was drawn up: it is built if and only if nothing is
wrong with it, and otherwise the build fails over what is wrong first. The gateway that is built has
the formatters and the senders that were requested. -/
theorem build_resolves (requests : List Request)
    (hqueue : (Blueprint.ofRequests requests).config.pool.queueCapacity ≤ Crash.maxSlots) :
    ((Blueprint.ofRequests requests).types = requests.filterMap Request.type? ∧
      (Blueprint.ofRequests requests).formatters = requests.filterMap Request.formatter? ∧
      (Blueprint.ofRequests requests).senders = requests.filterMap Request.sender?) ∧
    ((∃ g, (build (.ofRequests requests)).1 = .ok g) ↔
      (Blueprint.ofRequests requests).Acceptable) ∧
    (∀ e, (build (.ofRequests requests)).1 = .error e ↔
      ∃ added, (Blueprint.ofRequests requests).FirstFault e added) ∧
    ∀ g, (build (.ofRequests requests)).1 = .ok g →
      g.Serves (requests.filterMap Request.formatter?) (requests.filterMap Request.sender?) := by
  have hentries := Blueprint.ofRequests_entries requests
  refine ⟨hentries, exists_build_eq_ok_iff hqueue, fun e ↦ build_eq_error_iff hqueue,
    fun g hg ↦ ?_⟩
  rw [← hentries.2.1, ← hentries.2.2]
  exact serves_of_build hg

/-- A formatter that says the same of everything. -/
def saying (text : String) : Formatter := { format := fun _ _ ↦ .payload (.string text) }

/-- Requests for a gateway to one platform. -/
def slackRequests : List Request :=
  [.formatter "slack" "build.failed" (saying "a build failed"),
    .type ⟨"build.failed", "Build failed", "", "ci", none⟩, .sender "slack" .log,
    .fallback "slack" (saying "something happened")]

/-- They are granted, and the first formatters count when others are offered later. -/
theorem build_resolves_slack :
    (Blueprint.ofRequests slackRequests).config.pool.queueCapacity ≤ Crash.maxSlots ∧
    ∃ g, (build (.ofRequests slackRequests)).1 = .ok g ∧
      (let formatters := FormatterRegistry.firstCome.registerEach g.depot.formatters
        [(⟨"slack", none⟩, saying "too late"), (⟨"discord", none⟩, saying "in time")]
      formatters.resolve "slack" "build.failed" = some (saying "a build failed") ∧
      formatters.resolve "slack" "deployed" = some (saying "something happened") ∧
      formatters.resolve "discord" "deployed" = some (saying "in time") ∧
      formatters.resolve "teams" "deployed" = none) ∧
      g.depot.senders.get? "slack" = some .log := by
  have hqueue :
      (Blueprint.ofRequests slackRequests).config.pool.queueCapacity ≤ Crash.maxSlots := by decide
  obtain ⟨-, hbuilt, -, hserves⟩ := build_resolves slackRequests hqueue
  obtain ⟨g, hg⟩ := hbuilt.mpr
    ⟨by decide, by decide, fun _ _ ↦ rfl, by decide, by decide⟩
  have hg' := hserves g hg
  refine ⟨hqueue, g, hg, ⟨?_, ?_, ?_, ?_⟩,
    (hg'.sender _ _).mpr (by simp [slackRequests, Request.sender?])⟩
  · exact (hg'.resolve _ _ _).trans rfl
  · exact (hg'.resolve _ _ _).trans rfl
  · exact (hg'.resolve _ _ _).trans rfl
  · exact (hg'.resolve _ _ _).trans rfl

/-! ### What a failed build leaves behind -/

/-- A build that fails leaves in the registry that it shares what was there, and besides exactly the
types that were registered before the first fault. A second blueprint with which nothing is wrong
but for these is built with that registry if and only if it lists none of them, and otherwise the
build fails over one of them. -/
theorem failed_build_adds {types : TypeRegistry} (hfailed : (build (b.sharing types)).1 = .error e)
    (he : ∀ crash, e ≠ .crashed crash) :
    ∃ added, (b.sharing types).FirstFault e added ∧
      (∀ id d, (build (b.sharing types)).2.get? id = some d ↔
        types.get? id = some d ∨ d ∈ added ∧ d.id = id) ∧
      ((build (b.sharing types)).2 = types ↔ added = []) ∧
      ∀ b' : Blueprint, (b'.sharing types).Acceptable →
        b'.config.pool.queueCapacity ≤ Crash.maxSlots →
        ((∃ g, (build (b'.sharing (build (b.sharing types)).2)).1 = .ok g) ↔
          ∀ d ∈ added, d.id ∉ b'.types.map TypeDefinition.id) ∧
        ∀ e', (build (b'.sharing (build (b.sharing types)).2)).1 = .error e' →
          ∃ d ∈ b'.types, d.id ∈ added.map TypeDefinition.id ∧
            e' = .registry (.duplicateType d.id) := by
  obtain ⟨added, hfault⟩ := firstFault_of_error hfailed (not_acceptable_of_error hfailed he)
  have hfree : TypeRegistry.firstCome.Free types added := hfault.free
  have hleft : (build (b.sharing types)).2 = TypeRegistry.firstCome.registerEach types added := by
    rw [build_of_firstFault hfault]
    rfl
  rw [hleft]
  refine ⟨added, hfault, TypeRegistry.get?_registerEach hfree,
    FirstCome.registerEach_eq_self_iff hfree, fun b' hb' hqueue ↦ ?_⟩
  -- Sharing another registry does not change the queue.
  set b'' := b'.sharing (TypeRegistry.firstCome.registerEach types added)
  have hqueue' : b''.config.pool.queueCapacity ≤ Crash.maxSlots := hqueue
  constructor
  · rw [exists_build_eq_ok_iff hqueue', Blueprint.acceptable_sharing_registerEach_iff hb']
  · intro e' he'
    obtain ⟨more, hfault'⟩ := (build_eq_error_iff hqueue').mp he'
    exact hfault'.mem_added hb'

/-- A blueprint with a type and two fallbacks for one platform. -/
def twoFallbacks : Blueprint where
  types := [⟨"build.failed", "Build failed", "", "ci", none⟩]
  formatters := [(⟨"slack", none⟩, saying "failed"), (⟨"slack", none⟩, saying "broken")]

/-- The blueprint without the second fallback. -/
def oneFallback : Blueprint :=
  { twoFallbacks with formatters := [(⟨"slack", none⟩, saying "failed")] }

/-- After the build has failed, the shared registry is enough for a gateway that does not list the
type again. -/
theorem failed_build_adds_twoFallbacks :
    ((build (twoFallbacks.sharing {})).1 = .error (.registry (.duplicateFallback "slack")) ∧
      ∀ crash, BuildError.registry (.duplicateFallback "slack") ≠ .crashed crash) ∧
    ∃ g, (build (({ oneFallback with types := [] } : Blueprint).sharing
      (build (twoFallbacks.sharing {})).2)).1 = .ok g := by
  have hfailed : (build (twoFallbacks.sharing {})).1 =
      .error (.registry (.duplicateFallback "slack")) := rfl
  have he : ∀ crash, BuildError.registry (.duplicateFallback "slack") ≠ .crashed crash := nofun
  obtain ⟨added, -, -, -, hagain⟩ := failed_build_adds hfailed he
  have hcorrected : (({ oneFallback with types := [] } : Blueprint).sharing {}).Acceptable :=
    ⟨by decide, by decide, by decide, by decide, by decide⟩
  exact ⟨⟨hfailed, he⟩, (hagain _ hcorrected (by decide)).1.mpr (by simp)⟩

/-- The failed build leaves its type in the registry that it shares, and this is in the way of the
corrected blueprint, with which nothing was wrong before. -/
theorem failed_build_hinders_next :
    (build (twoFallbacks.sharing {})).1 = .error (.registry (.duplicateFallback "slack")) ∧
    (build (twoFallbacks.sharing {})).2.ids = ["build.failed"] ∧
    (oneFallback.sharing {}).Acceptable ∧
    (build (oneFallback.sharing (build (twoFallbacks.sharing {})).2)).1 =
      .error (.registry (.duplicateType "build.failed")) :=
  ⟨rfl, rfl, ⟨by decide, by decide, by decide, by decide, by decide⟩, rfl⟩

end Gateway

end Courier
