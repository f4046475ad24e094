import Mathlib.Algebra.Order.Group.Defs
import Mathlib.Data.List.Defs
import Mathlib.Data.List.TakeWhile
import Mathlib.Tactic.Abel

/-!
# Sliding windows

Events that carry a time, earliest first. Whoever needs only the events of a trailing window
may drop the older ones again and again: `Mirrors` says that what is kept shows, at every
later reading of the clock, the same window as the whole history.

An event that is admitted only while its trailing window has room keeps every window of that
width within the limit, wherever the window starts. `Trimmed` says the same of windows with both
edges, where the events that are kept are the last ones of the history. `Shows` is `Mirrors` for
trailing windows with their far edge, whose events may be out of order.
-/

namespace SlidingWindows

variable {Time Event : Type} [AddCommGroup Time] [LinearOrder Time]

/-- The events of the trailing window of a reading, without its far edge. -/
def recent (time : Event → Time) (width now : Time) (events : List Event) : List Event :=
  events.filter fun event => now - width < time event

/-- The events of a half-open window. -/
def within (time : Event → Time) (width start : Time) (events : List Event) : List Event :=
  events.filter fun event => start ≤ time event ∧ time event < start + width

/-- What is kept shows the trailing windows of a history from a reading on. -/
def Mirrors (time : Event → Time) (width clock : Time) (kept history : List Event) : Prop :=
  ∀ now, clock ≤ now → recent time width now kept = recent time width now history

section Mirroring

variable {time : Event → Time} {width clock now : Time} {kept history : List Event}

/-- What is too old for a reading is too old for every later one. -/
theorem recent_recent [IsOrderedAddMonoid Time] (later : clock ≤ now) (events : List Event) :
    recent time width now (recent time width clock events) = recent time width now events := by
  rw [recent, recent, List.filter_filter]
  apply List.filter_congr
  intro event _
  by_cases inside : now - width < time event
  · have wider : clock - width < time event :=
      lt_of_le_of_lt (sub_le_sub_right later width) inside
    simp [inside, wider]
  · simp [inside]

/-- A later trailing window has no more events. -/
theorem recent_length_le [IsOrderedAddMonoid Time] (time : Event → Time) (width : Time)
    (later : clock ≤ now) (events : List Event) :
    (recent time width now events).length ≤ (recent time width clock events).length := by
  rw [← recent_recent later]
  exact List.length_filter_le _ _

theorem mirrors_nil (clock : Time) : Mirrors time width clock [] [] := fun _ _ => rfl

/-- Time that passes keeps a mirror. -/
theorem Mirrors.wait (mirrors : Mirrors time width clock kept history) (later : clock ≤ now) :
    Mirrors time width now kept history := fun reading after => mirrors reading (later.trans after)

/-- Dropping what is too old for a reading keeps a mirror. -/
theorem Mirrors.prune [IsOrderedAddMonoid Time]
    (mirrors : Mirrors time width clock kept history) (later : clock ≤ now) :
    Mirrors time width now (recent time width now kept) history := by
  intro reading after
  rw [recent_recent after]
  exact mirrors reading (later.trans after)

/-- An event that joins both joins the mirror. -/
theorem Mirrors.append (mirrors : Mirrors time width clock kept history) (event : Event) :
    Mirrors time width clock (kept ++ [event]) (history ++ [event]) := by
  intro reading after
  have before := mirrors reading after
  rw [recent, recent] at before
  rw [recent, recent, List.filter_append, List.filter_append, before]

end Mirroring

section Limits

variable {time : Event → Time} {width clock now : Time} {limit : ℕ} {history : List Event}

/-- No event is later than a reading, and no window has more events than the limit. -/
structure Limited (time : Event → Time) (width clock : Time) (limit : ℕ)
    (history : List Event) : Prop where
  past : ∀ event ∈ history, time event ≤ clock
  windows : ∀ start, (within time width start history).length ≤ limit

theorem limited_nil (clock : Time) (limit : ℕ) :
    Limited time width clock limit ([] : List Event) := by
  constructor
  · simp
  · simp [within]

/-- Time that passes keeps the limit. -/
theorem Limited.wait (limited : Limited time width clock limit history) (later : clock ≤ now) :
    Limited time width now limit history :=
  ⟨fun event member => (limited.past event member).trans later, limited.windows⟩

/-- A window that reaches a reading lies in the trailing window of the reading. -/
theorem within_length_le_recent [IsOrderedAddMonoid Time] {start : Time}
    (reaches : now < start + width) (events : List Event) :
    (within time width start events).length ≤ (recent time width now events).length := by
  have subset : within time width start (recent time width now events) =
      within time width start events := by
    rw [within, within, recent, List.filter_filter]
    apply List.filter_congr
    intro event _
    by_cases inside : start ≤ time event ∧ time event < start + width
    · have trailing : now - width < time event :=
        lt_of_lt_of_le (sub_lt_iff_lt_add.mpr reaches) inside.1
      simp [inside, trailing]
    · simp [inside]
  rw [← subset]
  exact List.length_filter_le _ _

omit [AddCommGroup Time] in
/-- Of finitely many events after a time the earliest is after it. The induction is on the events. -/
theorem exists_start {bound last : Time} (after : bound < last) (time : Event → Time)
    (events : List Event) :
    ∃ start, bound < start ∧ ∀ event ∈ events, bound < time event → start ≤ time event := by
  induction events with
  | nil => exact ⟨last, after, fun _ member => absurd member List.not_mem_nil⟩
  | cons event rest inductionHypothesis =>
    obtain ⟨start, above, below⟩ := inductionHypothesis
    by_cases inside : bound < time event
    · refine ⟨min start (time event), lt_min above inside, ?_⟩
      intro other member otherInside
      obtain rfl | later := List.mem_cons.mp member
      · exact min_le_right _ _
      · exact (min_le_left _ _).trans (below other later otherInside)
    · refine ⟨start, above, ?_⟩
      intro other member otherInside
      obtain rfl | later := List.mem_cons.mp member
      · exact absurd otherInside inside
      · exact below other later otherInside

/-- The events of the trailing window of a reading lie in one half-open window. -/
theorem exists_recent_length_le_within [IsOrderedAddMonoid Time] (positive : 0 < width)
    {events : List Event} (past : ∀ event ∈ events, time event ≤ now) :
    ∃ start, (recent time width now events).length ≤ (within time width start events).length := by
  obtain ⟨start, above, below⟩ := exists_start (sub_lt_self now positive) time events
  refine ⟨start, ?_⟩
  rw [recent, within, ← List.countP_eq_length_filter, ← List.countP_eq_length_filter]
  refine List.countP_mono_left fun event member inside => ?_
  have since := below event member (of_decide_eq_true inside)
  have before : time event < start + width :=
    (past event member).trans_lt (sub_lt_iff_lt_add.mp above)
  exact decide_eq_true ⟨since, before⟩

/-- An event whose trailing window has room keeps every window within the limit. -/
theorem Limited.append [IsOrderedAddMonoid Time]
    (limited : Limited time width clock limit history) {event : Event}
    (later : clock ≤ time event)
    (room : (recent time width (time event) history).length < limit) :
    Limited time width (time event) limit (history ++ [event]) := by
  constructor
  · intro other member
    obtain earlier | same := List.mem_append.mp member
    · exact (limited.past other earlier).trans later
    · rw [List.mem_singleton.mp same]
  · intro start
    by_cases inside : start ≤ time event ∧ time event < start + width
    · have earlier : (within time width start history).length ≤
          (recent time width (time event) history).length :=
        within_length_le_recent inside.2 history
      have joined : within time width start (history ++ [event]) =
          within time width start history ++ [event] := by
        simp [within, List.filter_append, inside]
      rw [joined, List.length_append, List.length_singleton]
      omega
    · have unjoined : within time width start (history ++ [event]) =
          within time width start history := by
        simp [within, List.filter_append, inside]
      rw [unjoined]
      exact limited.windows start

/-- Where every window is within the limit, the next event makes one pass it exactly when its trailing
window was full. -/
theorem Limited.passed_iff [IsOrderedAddMonoid Time] (positive : 0 < width)
    (limited : Limited time width clock limit history) {event : Event}
    (later : clock ≤ time event) :
    (∃ start, limit + 1 ≤ (within time width start (history ++ [event])).length) ↔
      limit ≤ (recent time width (time event) history).length := by
  constructor
  · rintro ⟨start, passed⟩
    -- with room in the trailing window, no window passes the limit
    by_contra room
    have bounded := (limited.append later (not_le.mp room)).windows start
    omega
  · intro full
    have past : ∀ other ∈ history ++ [event], time other ≤ time event := by
      intro other member
      obtain earlier | same := List.mem_append.mp member
      · exact (limited.past other earlier).trans later
      · rw [List.mem_singleton.mp same]
    have joined : (recent time width (time event) (history ++ [event])).length =
        (recent time width (time event) history).length + 1 := by
      have inside : time event - width < time event := sub_lt_self _ positive
      simp [recent, inside]
    obtain ⟨start, reaches⟩ := exists_recent_length_le_within positive past
    exact ⟨start, by omega⟩

end Limits

section Spans

variable {time : Event → Time} {width clock now : Time} {limit : ℕ} {kept history : List Event}

/-- The events of a window with both of its edges. -/
def spanning (time : Event → Time) (width start : Time) (events : List Event) : List Event :=
  events.filter fun event => start ≤ time event ∧ time event ≤ start + width

/-- The kept events are the last ones of a history whose other events are too old for a reading, and
no window with both edges has more events than the limit. -/
structure Trimmed (time : Event → Time) (width clock : Time) (limit : ℕ)
    (kept history : List Event) : Prop where
  past : ∀ event ∈ history, time event ≤ clock
  suffix : ∃ dropped, history = dropped ++ kept ∧ ∀ event ∈ dropped, time event < clock - width
  windows : ∀ start, (spanning time width start history).length ≤ limit

theorem trimmed_nil (clock : Time) (limit : ℕ) :
    Trimmed time width clock limit ([] : List Event) [] := by
  constructor
  · simp
  · exact ⟨[], rfl, by simp⟩
  · simp [spanning]

/-- Time that passes keeps what is trimmed. -/
theorem Trimmed.wait [IsOrderedAddMonoid Time] (trimmed : Trimmed time width clock limit kept history)
    (later : clock ≤ now) : Trimmed time width now limit kept history := by
  obtain ⟨dropped, split, old⟩ := trimmed.suffix
  refine ⟨fun event member => (trimmed.past event member).trans later, ⟨dropped, split, ?_⟩,
    trimmed.windows⟩
  intro event member
  exact (old event member).trans_le (sub_le_sub_right later width)

/-- The first events may be dropped while they are too old for the reading. -/
theorem Trimmed.trim (trimmed : Trimmed time width clock limit kept history) :
    Trimmed time width clock limit (kept.dropWhile fun event => time event < clock - width) history := by
  obtain ⟨dropped, split, old⟩ := trimmed.suffix
  refine ⟨trimmed.past,
    ⟨dropped ++ kept.takeWhile fun event => time event < clock - width, ?_, ?_⟩, trimmed.windows⟩
  · rw [split, List.append_assoc, List.takeWhile_append_dropWhile]
  · intro event member
    obtain earlier | first := List.mem_append.mp member
    · exact old event earlier
    · simpa using List.mem_takeWhile_imp first

/-- An event joins at its time when fewer events are kept than the limit. A window that it lies in
has only kept events besides. -/
theorem Trimmed.append [IsOrderedAddMonoid Time] {event : Event}
    (trimmed : Trimmed time width (time event) limit kept history) (room : kept.length < limit) :
    Trimmed time width (time event) limit (kept ++ [event]) (history ++ [event]) := by
  obtain ⟨dropped, split, old⟩ := trimmed.suffix
  refine ⟨?_, ⟨dropped, by rw [split, List.append_assoc], old⟩, ?_⟩
  · intro other member
    obtain earlier | same := List.mem_append.mp member
    · exact trimmed.past other earlier
    · rw [List.mem_singleton.mp same]
  · intro start
    by_cases inside : start ≤ time event ∧ time event ≤ start + width
    · have none : spanning time width start dropped = [] := by
        refine List.filter_eq_nil_iff.mpr fun other member => ?_
        have early : time other < start :=
          (old other member).trans_le (sub_le_iff_le_add.mpr inside.2)
        simp [not_le.mpr early]
      have joined : spanning time width start (history ++ [event]) =
          spanning time width start kept ++ [event] := by
        rw [split, spanning, List.filter_append, List.filter_append, ← spanning, none]
        simp [spanning, inside]
      have fewer : (spanning time width start kept).length ≤ kept.length :=
        List.length_filter_le _ _
      rw [joined, List.length_append, List.length_singleton]
      omega
    · have unjoined : spanning time width start (history ++ [event]) =
          spanning time width start history := by
        simp [spanning, List.filter_append, inside]
      rw [unjoined]
      exact trimmed.windows start

end Spans

section Edges

variable {time : Event → Time} {width clock now : Time} {kept history : List Event}

/-- The events of the trailing window of a reading, with its far edge. -/
def trailing (time : Event → Time) (width now : Time) (events : List Event) : List Event :=
  events.filter fun event => now - width ≤ time event

/-- What is kept shows the trailing windows with their far edges of a history from a reading on. -/
def Shows (time : Event → Time) (width clock : Time) (kept history : List Event) : Prop :=
  ∀ now, clock ≤ now → trailing time width now kept = trailing time width now history

theorem shows_nil (clock : Time) : Shows time width clock [] [] := fun _ _ => rfl

/-- Time that passes keeps what is shown. -/
theorem Shows.wait (shows : Shows time width clock kept history) (later : clock ≤ now) :
    Shows time width now kept history := fun reading after => shows reading (later.trans after)

/-- An event that joins both is shown. -/
theorem Shows.append (shows : Shows time width clock kept history) (event : Event) :
    Shows time width clock (kept ++ [event]) (history ++ [event]) := by
  intro reading after
  have before := shows reading after
  rw [trailing, trailing] at before
  rw [trailing, trailing, List.filter_append, List.filter_append, before]

/-- Dropping events that are too old for a reading keeps what is shown. -/
theorem Shows.prune [IsOrderedAddMonoid Time] (shows : Shows time width clock kept history) :
    Shows time width clock (trailing time width clock kept) history := by
  intro reading after
  rw [← shows reading after, trailing, trailing, List.filter_filter]
  refine List.filter_congr fun event _ => ?_
  by_cases inside : reading - width ≤ time event
  · have wider : clock - width ≤ time event := (sub_le_sub_right after width).trans inside
    simp [inside, wider]
  · simp [inside]

/-- Dropping the first events while they are too old for a reading keeps what is shown. -/
theorem Shows.trim [IsOrderedAddMonoid Time] (shows : Shows time width clock kept history) :
    Shows time width clock (kept.dropWhile fun event => time event < clock - width) history := by
  intro reading after
  have old : trailing time width reading
      (kept.takeWhile fun event => time event < clock - width) = [] := by
    refine List.filter_eq_nil_iff.mpr fun event member => ?_
    have early : time event < clock - width := by simpa using List.mem_takeWhile_imp member
    rw [decide_eq_true_eq, not_le]
    exact early.trans_le (sub_le_sub_right after width)
  have split : trailing time width reading kept =
      trailing time width reading (kept.takeWhile fun event => time event < clock - width) ++
        trailing time width reading (kept.dropWhile fun event => time event < clock - width) := by
    rw [trailing, trailing, trailing, ← List.filter_append, List.takeWhile_append_dropWhile]
  rw [← shows reading after, split, old, List.nil_append]

end Edges

end SlidingWindows
