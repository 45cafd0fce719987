import ArrayBlob.Measure.Statistics
import ArrayBlob.Proofs.Blob.Lossless
import ArrayBlob.Proofs.Blob.Lossy
import ArrayBlob.Proofs.Blob.StreamGate
import Mathlib.Data.List.DropRight
import Mathlib.Data.List.Forall2
import Mathlib.Data.List.Infix

/-!
# Metrics of runs

The counters of a run are counts and sums over what happened since they were last cleared, as long
as none of them overflows. Events that do not clear them can therefore change places: two of them
leave the same metrics in either order, or overflow in either order. In a run that only packs, the
stored bytes are never more than the raw ones, because a payload is chosen only if it is shorter
than its data, and the operations without a codec are those that wrote blobs without compression.
-/

namespace ArrayBlob

/-- The statistics of an event, if it is a completed operation. -/
def Event.statistics? : Event → Option Statistics
  | completed statistics => some statistics
  | failed | cleared => none

/-- The statistics of the completed operations among some events. -/
def completedIn (events : List Event) : List Statistics :=
  events.filterMap Event.statistics?

/-- The events behind the last one that cleared the metrics. -/
def sinceCleared (events : List Event) : List Event :=
  events.rtakeWhile (· ≠ .cleared)

section

variable (events : List Event)

theorem completedIn_concat_completed (statistics : Statistics) :
    completedIn (events ++ [.completed statistics]) = completedIn events ++ [statistics] := by
  simp [completedIn, Event.statistics?]

theorem completedIn_concat_failed : completedIn (events ++ [.failed]) = completedIn events := by
  simp [completedIn, List.filterMap_cons, Event.statistics?]

theorem sinceCleared_concat {event : Event} (kept : event ≠ .cleared) :
    sinceCleared (events ++ [event]) = sinceCleared events ++ [event] :=
  List.rtakeWhile_concat_pos _ _ _ (decide_eq_true kept)

theorem sinceCleared_concat_cleared : sinceCleared (events ++ [.cleared]) = [] :=
  List.rtakeWhile_concat_neg _ _ _ (by decide)

end

namespace Metrics

/-- The counts and sums over some events. -/
def totals (events : List Event) : Metrics where
  operations := (completedIn events).length
  bytesIn := ((completedIn events).map Statistics.raw).sum
  bytesOut := ((completedIn events).map Statistics.stored).sum
  microseconds := ((completedIn events).map Statistics.microseconds).sum
  uncompressed := (completedIn events).countP (·.family = .none)
  errors := events.count .failed

/-! ## Counting -/

section

variable (events : List Event) (event : Event)

/-- One more event that does not clear the metrics counts like the others. -/
theorem totals_concat {event : Event} (kept : event ≠ .cleared) :
    totals (events ++ [event]) = (totals events).after event := by
  cases event with
  | completed statistics =>
    simp [totals, completedIn_concat_completed, after, record, List.countP_singleton]
  | failed => simp [totals, completedIn_concat_failed, after, recordFailure]
  | cleared => exact absurd rfl kept

theorem totals_sinceCleared_concat :
    totals (sinceCleared (events ++ [event])) = (totals (sinceCleared events)).after event := by
  by_cases kept : event ≠ .cleared
  · rw [sinceCleared_concat events kept, totals_concat _ kept]
  · obtain rfl := Decidable.not_not.1 kept
    rw [sinceCleared_concat_cleared]
    rfl

theorem ofRun_concat : ofRun (events ++ [event]) = (ofRun events).after event := by
  rw [ofRun, List.foldl_append]
  rfl

theorem ofRun?_concat : ofRun? (events ++ [event]) = (ofRun? events).bind (·.after? event) := by
  simp only [ofRun?, List.foldlM_append, List.foldlM_cons, List.foldlM_nil, bind_pure,
    Option.bind_eq_bind]

end

/-- The metrics of a run are the totals over the events since they were last cleared. -/
theorem ofRun_eq_totals (events : List Event) : ofRun events = totals (sinceCleared events) := by
  induction events using List.reverseRecOn with
  | nil => rfl
  | append_singleton events event ih => rw [ofRun_concat, ih, totals_sinceCleared_concat]

/-- A run in whose course every counter holds its number has the metrics of the run. -/
theorem ofRun?_eq_some {events : List Event}
    (fits : ∀ front, front <+: events → (ofRun front).Fits) :
    ofRun? events = some (ofRun events) := by
  induction events using List.reverseRecOn with
  | nil => rfl
  | append_singleton events event ih =>
    have before := ih fun front part => fits front (part.trans (List.prefix_append _ _))
    have last := fits (events ++ [event]) (List.prefix_refl _)
    rw [ofRun_concat] at last ⊢
    rw [ofRun?_concat, before]
    exact if_pos last

/-! ## Changing places -/

section

variable {metrics : Metrics} {event other : Event}

/-- Events that do not clear the metrics count the same in either order. -/
theorem after_right_comm (metrics : Metrics) (kept : event ≠ .cleared) (stays : other ≠ .cleared) :
    (metrics.after event).after other = (metrics.after other).after event := by
  cases event with
  | completed statistics =>
    cases other with
    | completed statistics => simp [after, record, Nat.add_right_comm]
    | failed => rfl
    | cleared => exact absurd rfl stays
  | failed =>
    cases other with
    | completed statistics => rfl
    | failed => rfl
    | cleared => exact absurd rfl stays
  | cleared => exact absurd rfl kept

theorem fits_iff (metrics : Metrics) :
    metrics.Fits ↔ metrics.operations < counterLimit ∧ metrics.bytesIn < counterLimit
      ∧ metrics.bytesOut < counterLimit ∧ metrics.microseconds < counterLimit
      ∧ metrics.uncompressed < counterLimit ∧ metrics.errors < counterLimit := by
  simp [Fits, counters]

/-- No counter goes down unless the metrics are cleared. -/
theorem Fits.of_after (fits : (metrics.after event).Fits) (kept : event ≠ .cleared) :
    metrics.Fits := by
  rw [fits_iff] at fits ⊢
  cases event with
  | completed statistics =>
    simp only [after, record] at fits
    omega
  | failed =>
    simp only [after, recordFailure] at fits
    omega
  | cleared => exact absurd rfl kept

/-- Two events overflow a counter exactly if it overflows after both. -/
theorem after?_bind_after? (metrics : Metrics) (event : Event) (kept : other ≠ .cleared) :
    ((metrics.after? event) >>= fun next => next.after? other)
      = if ((metrics.after event).after other).Fits then some ((metrics.after event).after other)
        else none := by
  unfold after?
  by_cases both : ((metrics.after event).after other).Fits
  · rw [if_pos both, if_pos (both.of_after kept)]
    exact if_pos both
  · by_cases first : (metrics.after event).Fits
    · rw [if_neg both, if_pos first]
      exact if_neg both
    · rw [if_neg both, if_neg first]
      rfl

/-- The metrics of a run, and whether a counter overflows in its course, do not depend on the order
of events between which the metrics are not cleared. -/
theorem ofRun?_reordered (front rest : List Event) {segment reordered : List Event}
    (kept : .cleared ∉ segment) (same : segment.Perm reordered) :
    ofRun? (front ++ reordered ++ rest) = ofRun? (front ++ segment ++ rest) := by
  have counted (start : Metrics) : segment.foldlM after? start = reordered.foldlM after? start := by
    rw [List.foldlM_eq_foldl, List.foldlM_eq_foldl]
    refine same.foldl_eq' ?_ _
    intro event listed other among reached
    cases reached with
    | none => rfl
    | some metrics =>
      have stays : event ≠ .cleared := fun same => kept (same ▸ listed)
      have remains : other ≠ .cleared := fun same => kept (same ▸ among)
      calc ((metrics.after? event) >>= fun next => next.after? other)
          = _ := after?_bind_after? metrics event remains
        _ = _ := by rw [after_right_comm metrics stays remains]
        _ = ((metrics.after? other) >>= fun next => next.after? event) :=
            (after?_bind_after? metrics other stays).symm
  simp only [ofRun?, List.foldlM_append, counted]

end

end Metrics

/-! ## Runs of packings -/

section

variable [Exponential]

/-- Statistics are those of a blob that a codec packed, up to the time that was measured. -/
structure Statistics.OfPacking (statistics : Statistics) (packed : Packed) : Prop where
  made : ∃ (γ : Type) (codec : Codec γ) (value : Value γ) (selection : Selection),
    codec.pack value selection = .ok packed
  recorded : statistics = { packed.statistics with microseconds := statistics.microseconds }

/-- Whatever value is packed, it is packed as raw data of some type and shape. -/
theorem Codec.exists_packRaw_of_pack {γ : Type} {codec : Codec γ} {value : Value γ}
    {selection : Selection} {packed : Packed} (done : codec.pack value selection = .ok packed) :
    ∃ elementType dims raw, codec.settings.packRaw elementType dims raw selection = .ok packed := by
  cases value with
  | array array => exact ⟨_, _, _, (Settings.packArray_eq_ok done).2⟩
  | composite content =>
    simp only [pack] at done
    split at done
    · split at done
      · cases done
      · exact ⟨_, _, _, done⟩
    · cases done

omit [Exponential] in
theorem Coder.family_ne_none (coder : Coder) : coder.family ≠ .none := by
  rcases coder with flavor | mode
  · nofun
  · cases mode <;> nofun

namespace Statistics.OfPacking

variable {statistics : Statistics} {packed : Packed}

/-- A blob is reported with no more stored bytes than raw ones, and without a codec exactly if it is
of the first revision. -/
theorem stored_le_and_family_iff (reported : statistics.OfPacking packed) :
    statistics.stored ≤ statistics.raw
      ∧ (statistics.family = .none ↔ packed.revision = .plain) := by
  obtain ⟨γ, codec, value, selection, done⟩ := reported.made
  obtain ⟨elementType, dims, raw, done⟩ := Codec.exists_packRaw_of_pack done
  obtain ⟨coded?, header, chosen, -, -, rfl⟩ := packRaw_eq_ok done
  rw [reported.recorded]
  cases coded? with
  | none => exact ⟨Nat.le_refl _, iff_of_true rfl rfl⟩
  | some payload =>
    obtain ⟨⟨coder, level, rfl⟩, -, smaller⟩ := pack_of_chosenPayload? chosen
    exact ⟨Nat.le_of_lt (Nat.lt_of_add_right_lt smaller),
      iff_of_false coder.family_ne_none nofun⟩

end Statistics.OfPacking

/-- Over packings, the sum of the stored bytes is at most that of the raw ones, and there are as
many statistics without a codec as blobs of the first revision. -/
theorem sums_of_packings {list : List Statistics} {blobs : List Packed}
    (packings : List.Forall₂ Statistics.OfPacking list blobs) :
    (list.map Statistics.stored).sum ≤ (list.map Statistics.raw).sum
      ∧ list.countP (·.family = .none) = blobs.countP (·.revision = .plain) := by
  induction packings with
  | nil => exact ⟨Nat.le_refl _, rfl⟩
  | cons reported rest ih =>
    obtain ⟨smaller, plain⟩ := reported.stored_le_and_family_iff
    constructor
    · simp only [List.map_cons, List.sum_cons]
      exact Nat.add_le_add smaller ih.1
    · simp only [List.countP_cons, ih.2, plain]

/-- In a run whose sums stay below `2 ^ 64` no counter overflows, and afterwards the six counters
are the number of completed operations, their raw bytes, their stored bytes and their time summed
up, the number of those without a codec and the number of failures, each since the metrics were last
cleared. Events between which they are not cleared can be reordered. If the operations since then
were packings, no more bytes went out than in, and the operations without a codec are as many as the
blobs of the first revision. -/
theorem Metrics.run_counts_exactly (events : List Event)
    (within : ∀ front, front <+: events → (totals (sinceCleared front)).Fits) :
    ofRun? events = some (totals (sinceCleared events))
      ∧ (∀ front segment reordered rest, events = front ++ segment ++ rest →
        .cleared ∉ segment → segment.Perm reordered →
          ofRun? (front ++ reordered ++ rest) = some (totals (sinceCleared events)))
      ∧ ∀ blobs, List.Forall₂ Statistics.OfPacking (completedIn (sinceCleared events)) blobs →
        (totals (sinceCleared events)).bytesOut ≤ (totals (sinceCleared events)).bytesIn
          ∧ (totals (sinceCleared events)).uncompressed
            = blobs.countP (·.revision = .plain) := by
  simp only [← ofRun_eq_totals] at within
  have counted : ofRun? events = some (totals (sinceCleared events)) := by
    rw [ofRun?_eq_some within, ofRun_eq_totals]
  refine ⟨counted, ?_, fun blobs packings => sums_of_packings packings⟩
  rintro front segment reordered rest rfl kept same
  rw [ofRun?_reordered front rest kept same, counted]

end

/-- The row of equal bytes is packed with a codec and without compression. -/
theorem exists_packings_sevens : ∃ coded plain : Packed,
    (@Statistics.OfPacking .coarse ⟨.lossless, 42, 28, 7⟩ coded ∧ coded.revision = .coded)
      ∧ @Statistics.OfPacking .coarse ⟨.none, 42, 42, 1⟩ plain ∧ plain.revision = .plain := by
  let exponential := Exponential.coarse
  have flat : sevens.elementType ≠ .byteStream := by decide
  have inMemory : sevens.InMemory := ⟨by decide, by decide⟩
  let codec : Codec Empty := ⟨Settings.default, Serializer.none⟩
  have packs {selection : Selection} {coded? : Option Bytes} {packed : Packed}
      (chosen : selection.chosenPayload? sevens.elementType sevens.dims.length sevens.data
        = .ok coded?)
      (sealed : Settings.default.seal sevens.elementType sevens.dims sevens.data selection coded?
        = .ok packed) :
      codec.pack (.array sevens) selection = .ok packed := by
    change Settings.default.packArray sevens selection = _
    rw [Settings.packArray_of_inMemory _ _ (by decide) flat inMemory, chosen, ok_bind, sealed]
  exact ⟨_, _, ⟨⟨⟨Empty, codec, _, _, packs chosenPayload?_sevens rfl⟩, rfl⟩, rfl⟩,
    ⟨⟨Empty, codec, _, .uncompressed, packs rfl rfl⟩, rfl⟩, rfl⟩

/-- The metrics are cleared behind a first operation. The row of equal bytes is then packed with a
codec and without compression, with a failure between the two. -/
theorem Metrics.run_counts_exactly_sevens :
    let before : List Event := [.completed (Statistics.uncompressed 5), .cleared]
    let coded : Event := .completed ⟨.lossless, 42, 28, 7⟩
    let plain : Event := .completed ⟨.none, 42, 42, 1⟩
    let run := before ++ [coded, .failed, plain]
    (∀ front, front <+: run → (totals (sinceCleared front)).Fits)
      ∧ ofRun? run = some ⟨2, 84, 70, 8, 1, 1⟩
      ∧ ofRun? (before ++ [plain, .failed, coded]) = some ⟨2, 84, 70, 8, 1, 1⟩
      ∧ ∃ blobs : List Packed,
        List.Forall₂ (@Statistics.OfPacking .coarse) (completedIn (sinceCleared run)) blobs
          ∧ (totals (sinceCleared run)).bytesOut ≤ (totals (sinceCleared run)).bytesIn
          ∧ (totals (sinceCleared run)).uncompressed
            = blobs.countP (·.revision = .plain) := by
  intro before coded plain run
  let exponential := Exponential.coarse
  have within : ∀ front, front <+: run → (totals (sinceCleared front)).Fits := by
    intro front part
    have each : ∀ front ∈ run.inits, (totals (sinceCleared front)).Fits := by decide
    exact each front ((List.mem_inits _ _).2 part)
  obtain ⟨counted, reordered, packings⟩ := run_counts_exactly _ within
  obtain ⟨first, second, ⟨firstMade, -⟩, secondMade, -⟩ := exists_packings_sevens
  have same : [coded, .failed, plain].Perm [plain, .failed, coded] := List.reverse_perm _ |>.symm
  have made : List.Forall₂ Statistics.OfPacking (completedIn (sinceCleared run)) [first, second] :=
    .cons firstMade (.cons secondMade .nil)
  have anyOrder := reordered before _ _ [] (List.append_nil _).symm (by decide) same
  exact ⟨within, counted, anyOrder, _, made, packings _ made⟩

end ArrayBlob
