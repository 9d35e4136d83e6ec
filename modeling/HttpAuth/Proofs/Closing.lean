import HttpAuth.Proofs.Effect

/-!
# When a content is released

A content is released at most once, whatever is done with it and with its iterators, and so is each
content that it encloses.  It has been released when it was closed or when an iteration over it has
come to its end, has failed or was closed early; the latter releases nothing if the content can be
read again.
-/

namespace HttpAuth

/-! ## Ends of iterations -/

/-- An operation ends an iteration that was started.  Reading and iterating from the start to the
end are iterations; an iterator was started if it was advanced. -/
def Entry.EndsIteration (entry : Entry) (earlier : List Entry) : Prop :=
  match entry.operation with
  | .read | .drain => True
  | .next index => (live? earlier index).isSome ∧ ∀ chunk, entry.answer ≠ .ok (.octets chunk)
  | .abandon index => ∃ handed, live? earlier index = some handed ∧ handed ≠ []
  | .close | .replayable | .iterate => False

/-- An iteration that was started has ended, has failed or was closed early. -/
def IterationEnded (history : List Entry) : Prop :=
  ∃ earlier entry later, history = earlier ++ entry :: later ∧ entry.EndsIteration earlier

theorem not_iterationEnded_nil : ¬ IterationEnded [] := by
  rintro ⟨earlier, entry, later, split, -⟩
  cases earlier <;> cases split

theorem iterationEnded_concat (history : List Entry) (entry : Entry) :
    IterationEnded (history ++ [entry]) ↔ IterationEnded history ∨ entry.EndsIteration history := by
  constructor
  · rintro ⟨earlier, found, later, split, ends⟩
    rcases List.eq_nil_or_concat later with rfl | ⟨between, last, rfl⟩
    · obtain ⟨rfl, same⟩ := List.append_inj' split rfl
      obtain ⟨rfl, -⟩ := List.cons.inj same
      exact .inr ends
    · rw [List.concat_eq_append, ← List.cons_append, ← List.append_assoc] at split
      obtain ⟨rfl, -⟩ := List.append_inj' split rfl
      exact .inl ⟨earlier, found, between, rfl, ends⟩
  · rintro (⟨earlier, found, later, rfl, ends⟩ | ends)
    · exact ⟨earlier, found, later ++ [entry], by simp, ends⟩
    · exact ⟨history, entry, [], rfl, ends⟩

/-- An operation releases something if it is a release, or if it ends an iteration and the content
cannot be read again. -/
theorem Performs.release_iff {content : Content} {history : List Entry} {entry : Entry}
    {taken : Nat} {release : Release}
    (performs : Performs content (live? history) entry.operation taken release entry.answer) :
    release ≠ .nothing ↔
      entry.operation = .close ∨ content.replayable = false ∧ entry.EndsIteration history := by
  obtain ⟨operation, events, answer⟩ := entry
  have withIteration {some : Release} (releases : some ≠ .nothing) :
      content.withIteration some ≠ .nothing ↔ content.replayable = false := by
    cases replayable : content.replayable <;> simp [Content.withIteration, replayable, releases]
  cases performs with
  | readBytes supply => simp [Content.replayable, supply]
  | read once ends => simp [once, Entry.EndsIteration]
  | close closing => simp
  | drain ends quiet => simp [withIteration, Entry.EndsIteration]
  | replayable => simp [Entry.EndsIteration]
  | iterate => simp [Entry.EndsIteration]
  | lapsed dead => simp [Entry.EndsIteration, dead]
  | item live memory => simp [Entry.EndsIteration]
  | chunk live streamed items => simp [Entry.EndsIteration]
  | @ended index handed reason live exhausted ends quiet =>
      have silent : ∀ chunk, ending Answer.finished reason ≠ .ok (.octets chunk) := by
        cases reason <;> simp [ending]
      have releases : Release.everything ≠ .nothing := by decide
      refine (withIteration releases).trans ⟨fun once => .inr ⟨once, by simp [live], silent⟩, ?_⟩
      rintro (closed | ⟨once, -⟩)
      · cases closed
      · exact once
  | dropped unstarted => rcases unstarted with dead | fresh <;> simp_all [Entry.EndsIteration]
  | abandoned live started closing => simp [withIteration, Entry.EndsIteration, live, started]

/-- Closing an iterator that was not started releases nothing, and nor does an operation on a
content that can be read again, other than its release. -/
theorem Performs.releases_nothing {content : Content} {history : List Entry} {entry : Entry}
    {taken : Nat} {release : Release}
    (performs : Performs content (live? history) entry.operation taken release entry.answer)
    (unreleased : (∃ index, entry.operation = .abandon index ∧ live? history index = some []) ∨
      content.replayable = true ∧ entry.operation ≠ .close) :
    release = .nothing := by
  refine Decidable.of_not_not fun releases => ?_
  rcases performs.release_iff.mp releases with closed | ⟨once, ends⟩
  · rcases unreleased with ⟨index, abandoned, -⟩ | ⟨-, other⟩
    · rw [closed] at abandoned
      cases abandoned
    · exact other closed
  · rcases unreleased with ⟨index, abandoned, unstarted⟩ | ⟨replayable, -⟩
    · rw [Entry.EndsIteration, abandoned] at ends
      obtain ⟨handed, live, started⟩ := ends
      rw [unstarted] at live
      exact started (Option.some.inj live).symm
    · rw [once] at replayable
      cases replayable

/-! ## The ledger of releases -/

/-- The event is a release. -/
def Event.isClose : Event → Bool
  | .close _ _ => true
  | _ => false

/-- The releases that are observed. -/
def closings (events : List Event) : List Event :=
  events.filter Event.isClose

theorem closings_append (events others : List Event) :
    closings (events ++ others) = closings events ++ closings others :=
  List.filter_append ..

theorem closings_announce (supply : Supply) (count : Nat) :
    closings (supply.announce count) = [] := by
  cases supply with
  | bytes | chunks => rfl
  | stream source =>
      simp only [Supply.announce, Stream.announcements]
      split
      · refine List.filter_eq_nil_iff.mpr fun event member => ?_
        obtain ⟨index, -, rfl⟩ := List.mem_map.mp member
        exact Bool.false_ne_true
      · rfl

namespace Gate

theorem due_subset (gate : Gate) : ∀ event ∈ gate.due, event = gate.record := by
  intro event member
  simp only [due] at member
  split at member
  · cases member
  · split at member
    · simpa using member
    · cases member

theorem due_nodup (gate : Gate) : gate.due.Nodup := by
  simp only [due]
  split
  · exact List.nodup_nil
  · split
    · exact List.nodup_cons.mpr ⟨List.not_mem_nil, List.nodup_nil⟩
    · exact List.nodup_nil

theorem closings_due (gates : List Gate) : closings (gates.flatMap due) = gates.flatMap due := by
  refine List.filter_eq_self.mpr fun event member => ?_
  obtain ⟨gate, -, due⟩ := List.mem_flatMap.mp member
  rw [gate.due_subset event due]
  rfl

theorem flatMap_due_released (gates : List Gate) : (gates.map released).flatMap due = [] := by
  simp [List.flatMap_map]

end Gate

namespace Content

variable (content : Content)

theorem due_eq : content.due = content.inner.flatMap Gate.due ++ content.gate.due := by
  simp [due, gates]

/-- A content that is told apart from those that it encloses is due with its own release only. -/
theorem record_mem_due_iff (outermost : content.gate.record ∉ content.inner.map Gate.record) :
    content.gate.record ∈ content.due ↔ content.gate.record ∈ content.gate.due := by
  rw [due_eq, List.mem_append]
  refine ⟨fun due => due.resolve_left fun within => outermost ?_, .inr⟩
  obtain ⟨gate, member, due⟩ := List.mem_flatMap.mp within
  exact List.mem_map.mpr ⟨gate, member, (gate.due_subset _ due).symm⟩

theorem closings_releases (release : Release) :
    closings (content.releases release) = content.releases release := by
  cases release with
  | nothing => rfl
  | own =>
      have single := Gate.closings_due [content.gate]
      simpa [releases] using single
  | everything => exact Gate.closings_due content.gates

/-- What is released is no longer due. -/
theorem releases_due (release : Release) :
    (content.releases release ++ (content.released release).due).Perm content.due := by
  cases release with
  | nothing => exact .refl _
  | own =>
      simp only [releases, released, due_eq, Gate.released_due, List.append_nil]
      exact List.perm_append_comm
  | everything =>
      simp [releases, released, due_eq, Gate.flatMap_due_released]

end Content

theorem Effect.closings_eq {before after : Content} {taken : Nat} {release : Release}
    {events : List Event} (effect : Effect before taken release after events) :
    closings events = before.releases release := by
  rw [effect.events_eq, closings_append, closings_announce, before.closings_releases,
    List.nil_append]

/-- A content with its releases, as it can be reached from another one by operations. -/
structure Accounts (start reached : Content) (history : List Entry) : Prop where
  /-- What was released and what is due make up what was due at the start. -/
  balance : (closings (history.flatMap Entry.events) ++ reached.due).Perm start.due
  /-- It encloses the same contents. -/
  inner_eq : reached.inner.map Gate.record = start.inner.map Gate.record
  /-- Its own release is the same. -/
  gate_eq : reached.gate = { start.gate with closed := reached.gate.closed }
  /-- It can be read again as before. -/
  replayable_eq : reached.replayable = start.replayable
  /-- When it is released. -/
  closed_iff : reached.gate.closed = true ↔
    (.close ∈ history.map Entry.operation) ∨
      start.replayable = false ∧ IterationEnded history

theorem Accounts.step {start reached after : Content} {history : List Entry} {entry : Entry}
    {taken : Nat} {release : Release} (accounts : Accounts start reached history)
    (performs : Performs reached (live? history) entry.operation taken release entry.answer)
    (effect : Effect reached taken release after entry.events) :
    Accounts start after (history ++ [entry]) := by
  obtain ⟨balance, inner_eq, gate_eq, replayable_eq, closed_iff⟩ := accounts
  have due_eq : after.due = (reached.released release).due := by
    rw [Content.due_eq, Content.due_eq, effect.inner_eq, effect.gate_eq]
  have records : (reached.released release).inner.map Gate.record =
      reached.inner.map Gate.record := by
    cases release <;> simp [Content.released, Gate.released, Gate.record]
  have closed : (reached.released release).gate =
      { reached.gate with closed := reached.gate.closed || release ≠ .nothing } := by
    cases release <;> simp [Content.released, Gate.released]
  constructor
  · calc
      closings ((history ++ [entry]).flatMap Entry.events) ++ after.due
        = closings (history.flatMap Entry.events) ++
            (reached.releases release ++ (reached.released release).due) := by
          rw [List.flatMap_append, List.flatMap_singleton, closings_append, effect.closings_eq,
            due_eq, List.append_assoc]
      List.Perm _ (closings (history.flatMap Entry.events) ++ reached.due) :=
          (reached.releases_due release).append_left _
      List.Perm _ start.due := balance
  · rw [effect.inner_eq, records, inner_eq]
  · rw [effect.gate_eq, closed, gate_eq]
  · exact effect.replayable_eq.trans replayable_eq
  · rw [effect.gate_eq, closed, Bool.or_eq_true, decide_eq_true_iff, closed_iff,
      performs.release_iff, iterationEnded_concat, replayable_eq, List.map_append,
      List.mem_append, List.map_singleton, List.mem_singleton]
    grind

section Accounted

variable {start reached : Content} {history : List Entry}

/-- What is released was due once at the start. -/
theorem Accounts.distinct (accounts : Accounts start reached history)
    (distinct : start.due.Nodup) :
    (closings (history.flatMap Entry.events) ++ reached.due).Nodup :=
  accounts.balance.nodup_iff.mpr distinct

theorem Accounts.count_le_one (accounts : Accounts start reached history)
    (distinct : start.due.Nodup) {event : Event} (release : event.isClose = true) :
    (history.flatMap Entry.events).count event ≤ 1 := by
  have once := (List.nodup_append.mp (accounts.distinct distinct)).1
  calc
    (history.flatMap Entry.events).count event
      = (closings (history.flatMap Entry.events)).count event := (List.count_filter release).symm
    _ ≤ 1 := List.nodup_iff_count.mp once event

/-- A content that was not released at the start has been released if and only if it is closed. -/
theorem Accounts.released_iff (accounts : Accounts start reached history)
    (distinct : start.due.Nodup)
    (outermost : start.gate.record ∉ start.inner.map Gate.record)
    (unclosed : start.gate.closed = false) (hooked : start.gate.hook.isSome = true) :
    start.gate.record ∈ history.flatMap Entry.events ↔ reached.gate.closed = true := by
  have apart := (List.nodup_append.mp (accounts.distinct distinct)).2.2
  have mem_closings : start.gate.record ∈ closings (history.flatMap Entry.events) ↔
      start.gate.record ∈ history.flatMap Entry.events := by
    rw [closings, List.mem_filter]
    exact and_iff_left rfl
  have record_eq : reached.gate.record = start.gate.record := by
    rw [accounts.gate_eq]
    rfl
  have due_iff : start.gate.record ∈ reached.due ↔ reached.gate.closed = false := by
    have reached_outermost : reached.gate.record ∉ reached.inner.map Gate.record := by
      rwa [record_eq, accounts.inner_eq]
    rw [← record_eq, reached.record_mem_due_iff reached_outermost, accounts.gate_eq]
    cases reached.gate.closed <;> simp [Gate.due, hooked]
  have accounted : start.gate.record ∈ closings (history.flatMap Entry.events) ∨
      start.gate.record ∈ reached.due := by
    rw [← List.mem_append, accounts.balance.mem_iff, Content.due_eq, List.mem_append]
    exact .inr (by simp [Gate.due, unclosed, hooked])
  rw [← mem_closings]
  constructor
  · intro released
    refine Bool.of_not_eq_false fun unclosed => ?_
    exact apart _ released _ (due_iff.mpr unclosed) rfl
  · intro closed
    refine accounted.resolve_right fun due => ?_
    rw [due_iff, closed] at due
    cases due

end Accounted

namespace Body

/-- A content is told apart from those that it encloses by its layer. -/
theorem contentAt_outermost (owner : Owner) (layer : Nat) (body : Body) (hook : Option Hook) :
    (contentAt owner layer body hook).gate.record ∉
      (contentAt owner layer body hook).inner.map Gate.record := by
  cases body with
  | bytes | chunks | stream => exact List.not_mem_nil
  | content body inside =>
      have enclosing := contentAt_gates owner (layer + 1) body inside
      simp only [contentAt, Content.enclosed]
      split
      · exact List.not_mem_nil
      · intro member
        obtain ⟨gate, within, same⟩ := List.mem_map.mp member
        have above := (enclosing gate within).2
        have layers : gate.layer = layer := by
          injection same
        omega

/-- No release of contents inside one another is due twice. -/
theorem contentAt_due_nodup (owner : Owner) (layer : Nat) (body : Body) (hook : Option Hook) :
    (contentAt owner layer body hook).due.Nodup := by
  have of_inner (content : Content)
      (outermost : content.gate.record ∉ content.inner.map Gate.record)
      (inner : (content.inner.flatMap Gate.due).Nodup) : content.due.Nodup := by
    rw [Content.due_eq, List.nodup_append]
    refine ⟨inner, content.gate.due_nodup, fun event within last due equal => ?_⟩
    obtain ⟨gate, member, early⟩ := List.mem_flatMap.mp within
    refine outermost (List.mem_map.mpr ⟨gate, member, ?_⟩)
    rw [← gate.due_subset event early, equal, content.gate.due_subset last due]
  induction body generalizing layer hook with
  | bytes | chunks | stream =>
      exact of_inner _ (contentAt_outermost owner layer _ hook) List.nodup_nil
  | content body inside induction =>
      refine of_inner _ (contentAt_outermost owner layer _ hook) ?_
      simp only [contentAt, Content.enclosed]
      split
      · exact List.nodup_nil
      · exact induction (layer + 1) inside

/-- However a content and its iterators are used, its release and those of the contents that it
encloses run at most once; the history of the operations holds what a run answers.  Its own release
has run if and only if it was closed, or it cannot be read again and an iteration that was started
has ended, has failed or was closed early.  Closing an iterator that was not started runs no
release, and nor does reading a content that can be read again. -/
theorem contentOver_released_once (owner : Owner) (body : Body) (hook : Hook)
    (operations : List Operation) :
    let content := contentOver owner body (some hook)
    let session : Session := { content }
    let history := session.history operations
    let events := history.flatMap Entry.events
    session.run operations = history.map (fun entry => (entry.events, entry.answer)) ∧
      (∀ layer, events.count (.close owner layer) ≤ 1) ∧
      (.close owner 0 ∈ events ↔
        .close ∈ operations ∨ content.replayable = false ∧ IterationEnded history) ∧
      ∀ earlier entry later, history = earlier ++ entry :: later →
        (∃ index, entry.operation = .abandon index ∧ live? earlier index = some []) ∨
          content.replayable = true ∧ entry.operation ≠ .close →
        ∀ layer, .close owner layer ∉ entry.events := by
  intro content session history events
  have gate_eq : content.gate = { owner, layer := 0, hook := some hook } :=
    contentAt_gate owner 0 body (some hook)
  have record_eq : content.gate.record = .close owner 0 := by
    rw [gate_eq]
    rfl
  have start : Accounts content content [] := by
    refine ⟨.refl _, rfl, rfl, rfl, ?_⟩
    simp [gate_eq, not_iterationEnded_nil]
  have distinct : content.due.Nodup := contentAt_due_nodup owner 0 body (some hook)
  have outermost := contentAt_outermost owner 0 body (some hook)
  obtain ⟨⟨reached, accounts⟩, entries⟩ :=
    content.invariant_history (Accounts content) start Accounts.step operations
  refine ⟨session.run_eq_history operations,
    fun layer => accounts.count_le_one distinct rfl, ?_, ?_⟩
  · rw [← record_eq, ← session.operations_history operations, ← accounts.closed_iff]
    exact accounts.released_iff distinct outermost (by rw [gate_eq]) (by rw [gate_eq]; rfl)
  · intro earlier entry later split unreleased layer member
    obtain ⟨before, after, taken, release, kept, -, performs, effect⟩ := entries split
    rw [← kept.replayable_eq] at unreleased
    have observed : closings entry.events = [] := by
      rw [effect.closings_eq, performs.releases_nothing unreleased]
      rfl
    exact List.filter_eq_nil_iff.mp observed _ member rfl

end Body

end HttpAuth
