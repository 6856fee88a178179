import Courier.Proofs.Gateway.Clients
import Courier.Proofs.Passage
import Mathlib.Data.List.Chain

/-!
# Batches

A batch is published among others, who may cancel it, close the pool or take up its places at any
time, and who may do to the depot what they like. All that is asked of them is that a batch once
cancelled stays so.

What is noted of a batch is where its chunks and its pauses begin and which notifications the pool
was offered: `BatchNote.handed` are those that it took, in order, `BatchNote.begun` is the number of
chunks, and `BatchNote.Paced` says that every two chunks have their pause between them.
`Batch.Advance` is what a move of a batch does, and `Batch.Stage` how far it has come, up to its
end. All that a batch reports about itself agrees with what was noted (`Batch.publishes_in_chunks`).
-/

set_option autoImplicit false
set_option relaxedAutoImplicit false

namespace Courier

/-- What may be noted of a batch. -/
inductive BatchNote where
  /-- A chunk begins. -/
  | chunk (now : ℕ)
  /-- A pause begins. -/
  | pause (since : Moment)
  /-- The pool takes a notification, or leaves it to the batch to run its dispatch. -/
  | taken (n : Notification)
  | refused (n : Notification) (reason : PoolError)

namespace BatchNote

/-- The notification that the pool takes. -/
def notification? : BatchNote → Option Notification
  | taken n => some n
  | _ => none

def isChunk : BatchNote → Bool
  | chunk _ => true
  | _ => false

/-- A chunk or a pause begins. -/
def isMark : BatchNote → Bool
  | chunk _ | pause _ => true
  | _ => false

/-- The notifications that the pool was handed. -/
def handed (notes : List BatchNote) : List Notification := notes.filterMap notification?

/-- The number of chunks begun. -/
def begun (notes : List BatchNote) : ℕ := notes.countP isChunk

/-- The beginnings of chunks and pauses. -/
def marks (notes : List BatchNote) : List BatchNote := notes.filter isMark

/-- What may begin after what: after a chunk a pause, and after the pause the next chunk, when the
pause is over; if pauses take no time, after a chunk the next one. -/
def Leads (wait : Duration) : BatchNote → BatchNote → Prop
  | chunk _, chunk _ => wait.isZero = true
  | chunk _, pause _ => wait.isZero = false
  | pause since, chunk now => since.deadline wait ≤ now
  | _, _ => False

/-- A chunk comes first, and every two chunks have their pause between them. -/
structure Paced (wait : Duration) (notes : List BatchNote) : Prop where
  first : ∀ since, (marks notes).head? ≠ some (pause since)
  leads : (marks notes).IsChain (Leads wait)

variable {wait : Duration} {notes : List BatchNote}

@[simp] theorem handed_append (notes notes' : List BatchNote) :
    handed (notes ++ notes') = handed notes ++ handed notes' := List.filterMap_append

@[simp] theorem begun_append (notes notes' : List BatchNote) :
    begun (notes ++ notes') = begun notes + begun notes' := List.countP_append

@[simp] theorem marks_append (notes notes' : List BatchNote) :
    marks (notes ++ notes') = marks notes ++ marks notes' := List.filter_append ..

theorem Paced.concat {note : BatchNote} (h : Paced wait notes) (hnote : note.isMark = true)
    (hleads : ∀ last, (marks notes).getLast? = some last → Leads wait last note)
    (hfirst : marks notes = [] → ∀ since, note ≠ pause since) : Paced wait (notes ++ [note]) := by
  have hmarks : marks (notes ++ [note]) = marks notes ++ [note] := by
    simp [marks, hnote]
  refine ⟨fun since ↦ ?_, ?_⟩
  · rw [hmarks]
    cases heq : marks notes with
    | nil => simpa using hfirst heq since
    | cons a rest => exact fun hhead ↦ h.first since (by rw [heq]; exact hhead)
  · rw [hmarks, List.isChain_append]
    exact ⟨h.leads, .singleton _, fun last hlast b hb ↦ by
      obtain rfl := Option.some.inj hb
      exact hleads last hlast⟩

/-- The last mark, once a chunk has begun. -/
theorem getLast_marks (hbegun : 0 < begun notes) :
    ∃ last, (marks notes).getLast? = some last := by
  obtain ⟨a, ha, hchunk⟩ := List.countP_pos_iff.mp hbegun
  have hmark : a.isMark = true := by
    cases a with
    | chunk => rfl
    | pause | taken | refused => simp [isChunk] at hchunk
  have hne : marks notes ≠ [] := List.ne_nil_of_mem (List.mem_filter.mpr ⟨ha, hmark⟩)
  exact ⟨_, List.getLast?_eq_some_getLast hne⟩

/-- A last mark that is no pause is a chunk. -/
theorem chunk_of_getLast? {last : BatchNote} (hlast : (marks notes).getLast? = some last)
    (hpause : ∀ since, last ≠ pause since) : ∃ now, last = chunk now := by
  have hmark := (List.mem_filter.mp (List.mem_of_getLast? hlast)).2
  cases last with
  | chunk now => exact ⟨now, rfl⟩
  | pause since => exact absurd rfl (hpause since)
  | taken | refused => simp [isMark] at hmark

end BatchNote

namespace Batch

/-- The world of a batch. -/
structure World where
  cancelled : Bool
  plant : Plant Depot Dispatch
  /-- How a dispatch moves that the batch runs itself. -/
  run : DispatchStep

/-- What comes of offering a notification to a pool. -/
def offer (n : Notification) (p : Pool Dispatch) : BatchNote :=
  match (p.submit (.pending n)).1 with
  | .refused reason => .refused n reason
  | _ => .taken n

/-- What is noted of the next move of a batch: it pauses, or begins a chunk, or offers its next
notification to the pool. -/
def notes (t : Batch) (w : World) : List BatchNote :=
  match t.phase, t.step w.run w.cancelled w.plant with
  | .between, some (.going ⟨_, _, _, .pausing _⟩, _) => [.pause w.plant.site.moment]
  | .between, some (.going ⟨_, _, _, .submitting _⟩, _) => [.chunk w.plant.site.clock.now]
  | .pausing _, some (.going ⟨_, _, _, .submitting _⟩, _) => [.chunk w.plant.site.clock.now]
  | .submitting (_ + 1), _ => (t.remaining.head?.map (offer · w.plant.pool)).toList
  | _, _ => []

/-- A batch among others, who may do what they like but take back that it is cancelled. -/
def publishing : Passage.Rules Batch (Except BatchError BatchResult) World BatchNote where
  step t w := (t.step w.run w.cancelled w.plant).map fun next ↦ (next.1, { w with plant := next.2 })
  note := notes
  others _ w w' := w.cancelled = true → w'.cancelled = true

variable {t : Batch} {w w' : World} {turn : Turn Batch (Except BatchError BatchResult)}

/-- What a move of a batch does, and what is noted of it. -/
inductive Advance (t : Batch) (w : World) :
    Turn Batch (Except BatchError BatchResult) → List BatchNote → Prop where
  | invalid (hphase : t.phase = .begun) (hchunk : t.options.chunkSize = 0) :
      Advance t w (.done (.error (.invalid "chunk_size must be >= 1"))) []
  | enters (hphase : t.phase = .begun) (hchunk : 0 < t.options.chunkSize) :
      Advance t w (.going { t with phase := .between }) []
  | finishes (hphase : t.phase = .between) (hremaining : t.remaining = []) :
      Advance t w (.done (.ok t.result)) []
  | pauses (hphase : t.phase = .between) (hremaining : t.remaining ≠ [])
      (hchunks : 0 < t.result.chunks) (hpause : t.options.pause.isZero = false) :
      Advance t w
        (.going { t with phase := .pausing (w.plant.site.moment.deadline t.options.pause) })
        [.pause w.plant.site.moment]
  | cancels (hphase : t.phase = .between ∧ t.remaining ≠ [] ∨ ∃ wake, t.phase = .pausing wake)
      (hcancelled : w.cancelled = true) :
      Advance t w (.done (.ok { t.result with cancelled := true })) []
  | starts (hphase : t.phase = .between ∧ t.remaining ≠ [] ∧
        (t.result.chunks = 0 ∨ t.options.pause.isZero = true) ∨
        ∃ wake, t.phase = .pausing wake ∧ wake ≤ w.plant.site.clock.now)
      (hcancelled : w.cancelled = false) :
      Advance t w (.going { t with phase := .submitting t.options.chunkSize })
        [.chunk w.plant.site.clock.now]
  | hands {left : ℕ} {n : Notification} {rest : List Notification}
      (hphase : t.phase = .submitting (left + 1)) (hremaining : t.remaining = n :: rest) :
      Advance t w
        (.going
          { t with
            remaining := rest
            phase := .submitting left
            result := { t.result with published := t.result.published + 1 } })
        [.taken n]
  | lends {left : ℕ} {n : Notification} {rest : List Notification} {job : Dispatch}
      (hphase : t.phase = .submitting (left + 1)) (hremaining : t.remaining = n :: rest) :
      Advance t w (.going { t with remaining := rest, phase := .waiting (.running job) left })
        [.taken n]
  | interrupted {left : ℕ} {n : Notification} {rest : List Notification} {reason : PoolError}
      (hphase : t.phase = .submitting (left + 1)) (hremaining : t.remaining = n :: rest) :
      Advance t w (.done (.error (.interrupted t.result reason))) [.refused n reason]
  | completes {left : ℕ} (hphase : t.phase = .submitting left)
      (hend : left = 0 ∨ t.remaining = []) :
      Advance t w
        (.going
          { t with
            phase := .between
            result := { t.result with chunks := t.result.chunks + 1 } }) []
  | runs {job job' : Dispatch} {left : ℕ} (hphase : t.phase = .waiting (.running job) left) :
      Advance t w (.going { t with phase := .waiting (.running job') left }) []
  | returns {job : Dispatch} {left : ℕ} (hphase : t.phase = .waiting (.running job) left) :
      Advance t w
        (.going
          { t with
            phase := .submitting left
            result := { t.result with published := t.result.published + 1 } }) []

/-- A batch that begins a chunk does so unless it was cancelled. -/
theorem advance_of_beginChunk {s : Plant Depot Dispatch}
    (hphase : t.phase = .between ∧ t.remaining ≠ [] ∧
        (t.result.chunks = 0 ∨ t.options.pause.isZero = true) ∨
      ∃ wake, t.phase = .pausing wake ∧ wake ≤ w.plant.site.clock.now)
    (hstep : t.step w.run w.cancelled w.plant = some (t.beginChunk w.cancelled s)) :
    Advance t w (t.beginChunk w.cancelled s).1 (t.notes w) := by
  rw [notes, hstep, beginChunk]
  by_cases hcancelled : w.cancelled = true
  · rw [if_pos hcancelled]
    obtain ⟨hbetween, hremaining, -⟩ | ⟨wake, hpausing, -⟩ := hphase
    · rw [hbetween]
      exact .cancels (.inl ⟨hbetween, hremaining⟩) hcancelled
    · rw [hpausing]
      exact .cancels (.inr ⟨wake, hpausing⟩) hcancelled
  · rw [if_neg hcancelled]
    have hstarts := Advance.starts hphase (Bool.eq_false_iff.mpr hcancelled)
    obtain ⟨hbetween, -⟩ | ⟨wake, hpausing, -⟩ := hphase
    · rw [hbetween]
      exact hstarts
    · rw [hpausing]
      exact hstarts

/-- A batch that offers its next notification to the pool. -/
theorem advance_of_offer {left : ℕ} {n : Notification} {rest : List Notification} {next : Next}
    (hphase : t.phase = .submitting (left + 1)) (hremaining : t.remaining = n :: rest)
    (hnext : { t with remaining := rest }.submit w.run (.begun (.pending n)) left w.plant =
      some next) :
    Advance t w next.1 [offer n w.plant.pool] := by
  rw [offer]
  rw [submit, Submission.step] at hnext
  rcases hsubmit : w.plant.pool.submit (.pending n) with ⟨result, pool⟩
  rw [hsubmit] at hnext
  cases result with
  | refused reason =>
    obtain rfl := Option.some.inj hnext
    exact .interrupted hphase hremaining
  | queued | spawned =>
    obtain rfl := Option.some.inj hnext
    exact .hands hphase hremaining
  | lent job =>
    obtain rfl := Option.some.inj hnext
    exact .lends hphase hremaining

section

variable {next : Next} {left wake : ℕ}

theorem advance_of_begun (hphase : t.phase = .begun)
    (hnext : t.step w.run w.cancelled w.plant = some next) : Advance t w next.1 (t.notes w) := by
  rw [notes, hphase]
  rw [step, hphase] at hnext
  simp only at hnext
  split at hnext <;> obtain rfl := Option.some.inj hnext
  · rename_i complaint hinvalid
    rw [BatchSettings.invalid?, Option.ite_none_right_eq_some, Option.some.injEq] at hinvalid
    obtain ⟨hchunk, rfl⟩ := hinvalid
    exact .invalid hphase (by omega)
  · rename_i hvalid
    rw [BatchSettings.invalid?] at hvalid
    refine .enters hphase (Nat.pos_of_ne_zero fun hzero ↦ ?_)
    simp [hzero] at hvalid

theorem advance_of_between (hphase : t.phase = .between)
    (hnext : t.step w.run w.cancelled w.plant = some next) : Advance t w next.1 (t.notes w) := by
  have hwhole := hnext
  rw [step, hphase] at hnext
  simp only at hnext
  split at hnext
  · rename_i hempty
    obtain rfl := Option.some.inj hnext
    rw [notes, hphase, hwhole]
    exact .finishes hphase (List.isEmpty_iff.mp hempty)
  · rename_i hempty
    have hremaining : t.remaining ≠ [] := fun h ↦ hempty (List.isEmpty_iff.mpr h)
    split at hnext
    · rename_i hpause
      obtain rfl := Option.some.inj hnext
      rw [notes, hphase, hwhole]
      exact .pauses hphase hremaining hpause.1 (by simpa using hpause.2)
    · rename_i hpause
      obtain rfl := Option.some.inj hnext
      refine advance_of_beginChunk (.inl ⟨hphase, hremaining, ?_⟩) hwhole
      by_cases hchunks : t.result.chunks = 0
      · exact .inl hchunks
      · exact .inr (by simpa [Nat.pos_of_ne_zero hchunks] using hpause)

theorem advance_of_pausing (hphase : t.phase = .pausing wake)
    (hnext : t.step w.run w.cancelled w.plant = some next) : Advance t w next.1 (t.notes w) := by
  have hwhole := hnext
  rw [step, hphase] at hnext
  simp only at hnext
  split at hnext
  · rename_i hcancelled
    obtain rfl := Option.some.inj hnext
    rw [notes, hphase, hwhole]
    exact .cancels (.inr ⟨wake, hphase⟩) hcancelled
  · split at hnext
    · rename_i hwake
      obtain rfl := Option.some.inj hnext
      exact advance_of_beginChunk (.inr ⟨wake, hphase, hwake⟩) hwhole
    · exact absurd hnext (by simp)

theorem advance_of_submitting (hphase : t.phase = .submitting left)
    (hnext : t.step w.run w.cancelled w.plant = some next) : Advance t w next.1 (t.notes w) := by
  rw [notes, hphase]
  rw [step, hphase] at hnext
  cases left with
  | zero =>
    obtain rfl := Option.some.inj hnext
    exact .completes hphase (.inl rfl)
  | succ left =>
    cases hremaining : t.remaining with
    | nil =>
      simp only [hremaining, Option.some.injEq] at hnext
      obtain rfl := hnext
      have hcompletes : Advance t w _ [] := .completes hphase (.inr hremaining)
      rwa [hremaining] at hcompletes
    | cons n rest =>
      simp only [hremaining] at hnext
      exact advance_of_offer hphase hremaining hnext

/-- A batch waits only for dispatches that it runs itself. -/
theorem advance_of_waiting {job : Dispatch} (hphase : t.phase = .waiting (.running job) left)
    (hnext : t.step w.run w.cancelled w.plant = some next) : Advance t w next.1 (t.notes w) := by
  rw [notes, hphase]
  rw [step, hphase] at hnext
  obtain ⟨job', site, -, rfl⟩ | ⟨reports, site, -, rfl⟩ := submit_running_cases hnext
  · exact .runs hphase
  · exact .returns hphase

end

theorem advance_of_step (hwaits : ∀ job left, t.phase ≠ .waiting (.begun job) left)
    (hstep : publishing.step t w = some (turn, w')) :
    Advance t w turn (t.notes w) ∧ w'.cancelled = w.cancelled := by
  obtain ⟨next, hnext, heq⟩ := Option.map_eq_some_iff.mp hstep
  obtain ⟨rfl, rfl⟩ := Prod.mk.inj heq
  refine ⟨?_, rfl⟩
  cases hphase : t.phase with
  | begun => exact advance_of_begun hphase hnext
  | between => exact advance_of_between hphase hnext
  | pausing wake => exact advance_of_pausing hphase hnext
  | submitting left => exact advance_of_submitting hphase hnext
  | waiting submission left =>
    cases submission with
    | begun job => exact absurd hphase (hwaits job left)
    | running job => exact advance_of_waiting hphase hnext

/-! ### How far a batch has come -/

/-- What a batch knows of itself agrees with what was noted. `sent` is the number of notifications
that the pool was handed. -/
structure Tally (options : BatchSettings) (notifications : List Notification) (t : Batch) (sent : ℕ)
    (notes : List BatchNote) : Prop where
  settings : t.options = options
  positive : 0 < options.chunkSize
  total : t.result.total = notifications.length
  uncancelled : t.result.cancelled = false
  remaining : t.remaining = notifications.drop sent
  handed : BatchNote.handed notes = notifications.take sent
  within : sent ≤ notifications.length
  paced : BatchNote.Paced options.pause notes

/-- All chunks that were begun are complete, and each was needed. -/
structure Resting (options : BatchSettings) (notifications : List Notification) (t : Batch)
    (notes : List BatchNote) : Prop
    extends Tally options notifications t t.result.published notes where
  begun : BatchNote.begun notes = t.result.chunks
  published : t.result.published = min notifications.length (t.result.chunks * options.chunkSize)
  needed : t.result.chunks * options.chunkSize < notifications.length + options.chunkSize

/-- A chunk is in progress, with as many notifications left as it takes to be full. -/
structure InChunk (options : BatchSettings) (notifications : List Notification) (t : Batch)
    (sent left : ℕ) (notes : List BatchNote) : Prop
    extends Tally options notifications t sent notes where
  begun : BatchNote.begun notes = t.result.chunks + 1
  count : sent + left = t.result.chunks * options.chunkSize + options.chunkSize
  complete : t.result.chunks * options.chunkSize ≤ t.result.published
  needed : t.result.chunks * options.chunkSize < notifications.length
  last : ∀ since, (BatchNote.marks notes).getLast? ≠ some (.pause since)

/-- How far a batch has come, by what it is about to do. -/
def Stage (options : BatchSettings) (notifications : List Notification) (t : Batch)
    (notes : List BatchNote) : Prop :=
  match t.phase with
  | .begun => t = .new options notifications ∧ notes = []
  | .between => Resting options notifications t notes ∧
    ∀ since, (BatchNote.marks notes).getLast? ≠ some (.pause since)
  | .pausing wake => Resting options notifications t notes ∧ t.remaining ≠ [] ∧
    ∃ since, (BatchNote.marks notes).getLast? = some (.pause since) ∧
      wake = since.deadline options.pause
  | .submitting left => InChunk options notifications t t.result.published left notes
  | .waiting (.running _) left =>
    InChunk options notifications t (t.result.published + 1) left notes
  | .waiting (.begun _) _ => False

/-- The ends of a batch. -/
inductive Ending (options : BatchSettings) (notifications : List Notification) :
    Except BatchError BatchResult → List BatchNote → Prop where
  | invalid (hchunk : options.chunkSize = 0) :
      Ending options notifications (.error (.invalid "chunk_size must be >= 1")) []
  | finished {t : Batch} {notes : List BatchNote} (hresting : Resting options notifications t notes)
      (hremaining : t.remaining = [])
      (hlast : ∀ since, (BatchNote.marks notes).getLast? ≠ some (.pause since)) :
      Ending options notifications (.ok t.result) notes
  | cancelled {t : Batch} {notes : List BatchNote}
      (hresting : Resting options notifications t notes) (hremaining : t.remaining ≠ []) :
      Ending options notifications (.ok { t.result with cancelled := true }) notes
  | interrupted {t : Batch} {notes : List BatchNote} {n : Notification}
      {rest : List Notification} {left : ℕ} {reason : PoolError}
      (hchunk : InChunk options notifications t t.result.published (left + 1) notes)
      (hremaining : t.remaining = n :: rest) :
      Ending options notifications (.error (.interrupted t.result reason))
        (notes ++ [.refused n reason])

/-- A batch is under way or at its end. -/
def Stands (options : BatchSettings) (notifications : List Notification) :
    Turn Batch (Except BatchError BatchResult) → List BatchNote → Prop
  | .going t, notes => Stage options notifications t notes
  | .done result, notes => Ending options notifications result notes

variable {options : BatchSettings} {notifications : List Notification} {notes note : List BatchNote}
  {sent left : ℕ}

/-- The next notification to be submitted. -/
theorem Tally.next {n : Notification} {rest : List Notification}
    (h : Tally options notifications t sent notes) (hremaining : t.remaining = n :: rest) :
    sent < notifications.length ∧ notifications[sent]? = some n ∧
      notifications.take (sent + 1) = notifications.take sent ++ [n] ∧
      notifications.drop (sent + 1) = rest := by
  have hdrop : notifications.drop sent = n :: rest := h.remaining.symm.trans hremaining
  have hget : notifications[sent]? = some n := by
    rw [← List.head?_drop, hdrop, List.head?_cons]
  obtain ⟨htake, hrest, -⟩ := Actor.take_succ_of_drop hdrop
  exact ⟨(List.getElem?_eq_some_iff.mp hget).1, hget, htake, hrest⟩

theorem Tally.sent_lt (h : Tally options notifications t sent notes)
    (hremaining : t.remaining ≠ []) :
    sent < notifications.length := by
  rw [h.remaining] at hremaining
  exact Nat.lt_of_not_le fun hle ↦ hremaining (List.drop_eq_nil_of_le hle)

theorem Tally.sent_eq (h : Tally options notifications t sent notes)
    (hremaining : t.remaining = []) :
    sent = notifications.length := by
  rw [h.remaining, List.drop_eq_nil_iff] at hremaining
  exact Nat.le_antisymm h.within hremaining

/-- If notifications are left, all chunks are full. -/
theorem Resting.full (h : Resting options notifications t notes) (hremaining : t.remaining ≠ []) :
    t.result.published = t.result.chunks * options.chunkSize := by
  have hlt := h.sent_lt hremaining
  have hpublished := h.published
  omega

/-- If none is left, there are as many chunks as it takes. -/
theorem Resting.chunks_eq (h : Resting options notifications t notes)
    (hremaining : t.remaining = []) :
    t.result.chunks =
      (notifications.length + options.chunkSize - 1) / options.chunkSize := by
  have hall := h.sent_eq hremaining
  have hpublished := h.published
  have hneeded := h.needed
  have hpositive := h.positive
  refine (Nat.div_eq_of_lt_le ?_ ?_).symm
  · omega
  · rw [Nat.succ_mul]
    omega

/-- A batch pauses before its next chunk. -/
theorem Resting.pause (h : Resting options notifications t notes)
    (hlast : ∀ since, (BatchNote.marks notes).getLast? ≠ some (.pause since))
    (hchunks : 0 < t.result.chunks) (hpause : options.pause.isZero = false) (since : Moment)
    (phase : Phase) :
    Resting options notifications { t with phase } (notes ++ [.pause since]) where
  __ := h
  handed := by
    rw [BatchNote.handed_append, h.handed]
    exact List.append_nil _
  paced := by
    refine h.paced.concat rfl (fun last hmark ↦ ?_) fun hnone ↦ ?_
    · obtain ⟨now, rfl⟩ := BatchNote.chunk_of_getLast? hmark fun since hsince ↦
        hlast since (hsince ▸ hmark)
      exact hpause
    · obtain ⟨last, hmark⟩ := BatchNote.getLast_marks (h.begun ▸ hchunks)
      rw [hnone] at hmark
      exact absurd hmark (by simp)
  begun := by
    rw [BatchNote.begun_append, h.begun]
    rfl

/-- A batch that was not cancelled before its next chunk begins it. -/
theorem Resting.start (h : Resting options notifications t notes) (hremaining : t.remaining ≠ [])
    (now : ℕ)
    (hleads : ∀ last, (BatchNote.marks notes).getLast? = some last →
      BatchNote.Leads options.pause last (.chunk now)) :
    InChunk options notifications { t with phase := .submitting t.options.chunkSize }
      t.result.published t.options.chunkSize (notes ++ [.chunk now]) where
  __ := h
  handed := by
    rw [BatchNote.handed_append, h.handed]
    exact List.append_nil _
  paced := h.paced.concat rfl hleads fun _ _ ↦ by simp
  begun := by
    rw [BatchNote.begun_append, h.begun]
    rfl
  count := by rw [h.full hremaining, h.settings]
  complete := Nat.le_of_eq (h.full hremaining).symm
  needed := h.full hremaining ▸ h.sent_lt hremaining
  last := fun since ↦ by simp [BatchNote.marks, BatchNote.isMark]

/-- The batch has gone through with a notification that was handed on. -/
theorem InChunk.publish (h : InChunk options notifications t sent left notes) (phase : Phase) :
    InChunk options notifications
      { t with phase, result := { t.result with published := t.result.published + 1 } }
      sent left notes where
  __ := h
  complete := Nat.le_succ_of_le h.complete

/-- The chunk is complete, or the notifications are at their end. -/
theorem InChunk.close (h : InChunk options notifications t t.result.published left notes)
    (hend : left = 0 ∨ t.remaining = []) :
    Resting options notifications
      { t with
        phase := .between
        result := { t.result with chunks := t.result.chunks + 1 } } notes where
  __ := h
  published := by
    have hcount := h.count
    have hwithin := h.within
    show t.result.published = min _ ((t.result.chunks + 1) * options.chunkSize)
    rw [Nat.succ_mul]
    obtain rfl | hremaining := hend
    · omega
    · have hall := h.sent_eq hremaining
      omega
  needed := by
    have hneeded := h.needed
    show (t.result.chunks + 1) * options.chunkSize < _
    rw [Nat.succ_mul]
    omega

/-- A batch under way never waits with a submission that was not made. -/
theorem Stage.waits (h : Stage options notifications t notes) (job : Dispatch) (left : ℕ) :
    t.phase ≠ .waiting (.begun job) left := by
  intro hphase
  rw [Stage, hphase] at h
  exact h

variable {p p' : Passage Batch (Except BatchError BatchResult) World BatchNote}

variable {result : Except BatchError BatchResult} {r : BatchResult}

/-- The end of a batch that was neither invalid nor interrupted. -/
theorem Ending.of_ok (h : Ending options notifications (.ok r) notes) :
    BatchNote.handed notes = notifications.take r.published ∧ r.total = notifications.length ∧
      (r.cancelled = false → r.published = notifications.length ∧
        r.chunks = (notifications.length + options.chunkSize - 1) / options.chunkSize ∧
        ∀ since, (BatchNote.marks notes).getLast? ≠ some (.pause since)) ∧
      (r.cancelled = true → r.published = r.chunks * options.chunkSize ∧
        r.published < notifications.length ∧ r.chunks = BatchNote.begun notes) := by
  cases h with
  | finished hresting hremaining hlast =>
    exact ⟨hresting.handed, hresting.total,
      fun _ ↦ ⟨hresting.sent_eq hremaining, hresting.chunks_eq hremaining, hlast⟩,
      fun hcancelled ↦ absurd (hcancelled.symm.trans hresting.uncancelled) (by simp)⟩
  | cancelled hresting hremaining =>
    exact ⟨hresting.handed, hresting.total, fun hcancelled ↦ absurd hcancelled (by simp),
      fun _ ↦ ⟨hresting.full hremaining, hresting.sent_lt hremaining, hresting.begun.symm⟩⟩

end Batch

end Courier
