import ReloadProbe.Proofs.Net.Wait

/-!
Reads laid down beforehand: pieces of a stream, then what ends it. A wait on such a schedule comes
to a verdict, and the verdict is a function of the stream and of its end, so two ways of cutting
the same stream are never told apart.
-/
namespace ReloadProbe.Net

structure Schedule where
  chunks : List {chunk : Bytes // chunk ≠ []}
  ending : Ending

namespace Schedule

def octets (σ : Schedule) : Bytes := σ.chunks.flatMap Subtype.val

def arrivals (σ : Schedule) : List Arrival :=
  σ.chunks.map (fun chunk => .bytes chunk.val chunk.property) ++ [σ.ending.arrival]

theorem octets_arrivals (σ : Schedule) : σ.arrivals.flatMap Arrival.octets = σ.octets := by
  simp only [arrivals, octets, List.flatMap_append, List.flatMap_map, List.flatMap_singleton,
    Ending.octets_arrival, List.append_nil]
  rfl

theorem received_within {σ : Schedule} {events : List (Event link)}
    (kept : Net.arrivals events <+: σ.arrivals) : received events <+: σ.octets := by
  obtain ⟨rest, hr⟩ := kept
  refine ⟨rest.flatMap Arrival.octets, ?_⟩
  rw [← octets_arrivals, ← hr, List.flatMap_append, received]

theorem ending_last {σ : Schedule} {ending : Ending} {before : List Arrival}
    (kept : before ++ [ending.arrival] <+: σ.arrivals) :
    ending = σ.ending ∧ before.flatMap Arrival.octets = σ.octets := by
  obtain ⟨chunks, last⟩ := σ
  induction chunks generalizing before with
  | nil =>
    cases before with
    | nil =>
      have same : ending.arrival = last.arrival := by simpa [arrivals] using kept
      refine ⟨?_, rfl⟩
      cases ending <;> cases last <;> simp_all [Ending.arrival]
    | cons => simp [arrivals] at kept
  | cons chunk more ih =>
    simp only [arrivals, List.map_cons, List.cons_append] at kept
    cases before with
    | nil =>
      have same := (List.cons_prefix_cons.mp kept).1
      cases ending <;> simp [Ending.arrival] at same
    | cons first before =>
      obtain ⟨rfl, rest⟩ := List.cons_prefix_cons.mp kept
      obtain ⟨rfl, all⟩ := ih rest
      refine ⟨rfl, ?_⟩
      rw [List.flatMap_cons, all]
      rfl

end Schedule

/-- What an expectation makes of a stream of which it knows all, and of the stream's end. -/
def judge (expected all : Bytes) (ending : Ending) : Verdict :=
  if expected <+: all then .matched
  else if Diverges all expected then .unmet .differs
  else ending.verdict

theorem judge_eq_matched {expected all : Bytes} {ending : Ending} :
    judge expected all ending = .matched ↔ expected <+: all := by
  unfold judge
  split
  · simpa
  · have := ending.verdict_ne_matched
    split <;> simp_all

theorem judge_eq_differs {expected all : Bytes} {ending : Ending} :
    judge expected all ending = .unmet .differs ↔ Diverges all expected := by
  unfold judge
  split
  · rename_i whole
    simpa using (prefix_not_diverges whole).2
  · have := ending.verdict_ne_differs
    split <;> simp_all

theorem judge_of_short {expected all : Bytes} (ending : Ending) (short : Short all expected) :
    judge expected all ending = ending.verdict := by
  rw [judge, if_neg short.not_whole, if_neg short.not_diverges]

theorem await_ends (c : Client) (expected : Bytes) (deadline : Nat) (σ : Schedule) :
    ∃ events v c', Interaction.Runs (c.await expected deadline) events (v, c') ∧
      arrivals events <+: σ.arrivals := by
  fun_induction Client.await c expected deadline generalizing σ with
  | case1 c => exact ⟨[], _, _, .done _, List.nil_prefix⟩
  | case2 c => exact ⟨[], _, _, .done _, List.nil_prefix⟩
  | case3 c => exact ⟨[], _, _, .done _, List.nil_prefix⟩
  | case4 c =>
    rename_i storage ih
    obtain ⟨chunks, ending⟩ := σ
    cases chunks with
    | nil =>
      have kept (closing : Ending) : [closing.arrival] <+: Schedule.arrivals ⟨[], closing⟩ :=
        List.prefix_refl _
      cases ending with
      | ended => exact ⟨[⟨Call.receive _ _, Arrival.ended⟩], _, _, .ask (.done _), kept .ended⟩
      | reset => exact ⟨[⟨Call.receive _ _, Arrival.reset⟩], _, _, .ask (.done _), kept .reset⟩
      | timedOut =>
        exact ⟨[⟨Call.receive _ _, Arrival.timedOut⟩], _, _, .ask (.done _), kept .timedOut⟩
      | failed reason =>
        exact ⟨[⟨Call.receive _ _, Arrival.failed reason⟩], _, _, .ask (.done _),
          kept (.failed reason)⟩
    | cons chunk more =>
      obtain ⟨events, v, c', run, kept⟩ := ih chunk.val chunk.property ⟨more, ending⟩
      exact ⟨⟨Call.receive _ _, Arrival.bytes chunk.val chunk.property⟩ :: events, v, c',
        .ask run, List.cons_prefix_cons.mpr ⟨rfl, kept⟩⟩

/-- Any wait whose reads keep to a schedule comes to the verdict on all of the schedule. -/
theorem Waits.verdict_on {expected : Bytes} {deadline : Nat} {c c' : Client}
    {events : List (Event link)} {v : Verdict} {σ : Schedule}
    (w : Waits expected deadline c events v c') (linked : c.connected = true)
    (kept : arrivals events <+: σ.arrivals) :
    v = judge expected (c.buffer ++ σ.octets) σ.ending := by
  obtain ⟨rest, hr⟩ := Schedule.received_within kept
  -- The rest was not read, and comes after what decided.
  rw [← hr, ← List.append_assoc]
  rcases w.decided with ⟨rfl, whole, _⟩ | ⟨rfl, apart⟩ | ⟨_, _, gone⟩ | ⟨ending, before, rfl, ha⟩
  · exact (judge_eq_matched.mpr (whole.trans (List.prefix_append _ _))).symm
  · exact (judge_eq_differs.mpr (apart.append rest)).symm
  · simp [linked] at gone
  · obtain ⟨rfl, all⟩ := Schedule.ending_last (ha ▸ kept)
    have short := w.short_before ha
    rw [all, ← hr, ← List.append_assoc] at short
    exact (judge_of_short _ short).symm

theorem Waits.verdict_closed {expected : Bytes} {deadline : Nat} {c c' : Client}
    {events : List (Event link)} {v : Verdict} (w : Waits expected deadline c events v c')
    (gone : c.connected = false) :
    events = [] ∧ v = judge expected c.buffer .ended := by
  cases w with
  | matched whole => exact ⟨rfl, (judge_eq_matched.mpr whole).symm⟩
  | differs apart => exact ⟨rfl, (judge_eq_differs.mpr apart).symm⟩
  | closed short => exact ⟨rfl, (judge_of_short .ended short).symm⟩
  | stopped _ _ linked => simp [gone] at linked
  | more _ linked => simp [gone] at linked

/-- Segmentation does not matter. Where the clock has a deadline for the time that is given, a wait
ends on every schedule, and its verdict is that on the whole stream; it reads by that deadline, no
more often than octets lack, and not once after a wrong octet. A closed client has nothing to read.
Where the clock has none, the wait crashes and compares nothing, whatever is in the buffer. -/
theorem awaitFor_on_schedule (c : Client) (expected : Bytes) (timeout : Duration) :
    (c.connected = true → ∀ σ : Schedule,
      (∀ instant deadline, deadline? instant timeout = some deadline →
        ∃ later v c', arrivals later <+: σ.arrivals ∧
          Interaction.Runs (c.awaitFor expected timeout) (⟨Call.now, instant⟩ :: later) (v, c')) ∧
      ∀ events v c', Interaction.Runs (c.awaitFor expected timeout) events (v, c') →
        arrivals events <+: σ.arrivals →
        v = judge expected (c.buffer ++ σ.octets) σ.ending ∧
        (v = .matched ↔ expected <+: c.buffer ++ σ.octets) ∧
        (v = .unmet .differs ↔ Diverges (c.buffer ++ σ.octets) expected) ∧
        (arrivals events).length ≤ expected.length - c.buffer.length ∧
        ∀ before arrival after, arrivals events = before ++ arrival :: after →
          ¬ Diverges (c.buffer ++ before.flatMap Arrival.octets) expected) ∧
    (c.connected = false →
      (∀ instant deadline, deadline? instant timeout = some deadline →
        ∃ v, Interaction.Runs (c.awaitFor expected timeout) [⟨Call.now, instant⟩] v) ∧
      ∀ events v c', Interaction.Runs (c.awaitFor expected timeout) events (v, c') →
        arrivals events = [] ∧ v = judge expected c.buffer .ended) ∧
    (∀ events v c', Interaction.Runs (c.awaitFor expected timeout) events (v, c') →
      ∃ (instant : Nat) (later : List (Event link)), events = ⟨Call.now, instant⟩ :: later ∧
        instant + timeout.toNanos < instantLimit ∧
        ∀ e ∈ later, ∃ (room : Nat) (arrival : Arrival),
          e = ⟨Call.receive (instant + timeout.toNanos) room, arrival⟩) ∧
    ∀ events reason, Interaction.Crashes (c.awaitFor expected timeout) events reason ↔
      ∃ instant : Nat, instantLimit ≤ instant + timeout.toNanos ∧ events = [⟨Call.now, instant⟩] ∧
        reason = overflow := by
  refine ⟨fun linked σ => ⟨?_, ?_⟩, fun gone => ⟨?_, ?_⟩, ?_, ?_⟩
  · intro instant deadline due
    obtain ⟨later, v, c', run, kept⟩ := await_ends c expected deadline σ
    exact ⟨later, v, c', kept, runs_await_by due run⟩
  · intro events v c' run kept
    obtain ⟨instant, deadline, later, rfl, due, w⟩ := runs_awaitFor run
    have verdict := w.verdict_on linked kept
    refine ⟨verdict, ?_, ?_, w.length_arrivals_le, ?_⟩
    · rw [verdict, judge_eq_matched]
    · rw [verdict, judge_eq_differs]
    · intro before arrival after ha
      exact (w.short_before ha).not_diverges
  · intro instant deadline due
    obtain ⟨later, v, c', run, _⟩ := await_ends c expected deadline ⟨[], .ended⟩
    obtain ⟨rfl, _⟩ := (runs_await run).verdict_closed gone
    exact ⟨(v, c'), runs_await_by due run⟩
  · intro events v c' run
    obtain ⟨instant, deadline, later, rfl, due, w⟩ := runs_awaitFor run
    obtain ⟨rfl, verdict⟩ := w.verdict_closed gone
    exact ⟨rfl, verdict⟩
  · intro events v c' run
    obtain ⟨instant, deadline, later, rfl, due, w⟩ := runs_awaitFor run
    obtain ⟨rfl, within⟩ := deadline?_eq_some.mp due
    exact ⟨instant, later, rfl, within, w.reads⟩
  · intro events reason
    simp only [crashes_awaitFor, deadline?_eq_none]

theorem awaitFor_on_three_pieces :
    (∃ later v c', Interaction.Runs
        (Client.awaitFor { buffer := [1], version := .v5 } [1, 2, 3, 4] .zero)
        (⟨Call.now, (0 : Nat)⟩ :: later) (v, c') ∧
      v = .unmet .differs ∧ (arrivals later).length ≤ 3) ∧
    ∃ events v c', Interaction.Runs
        (Client.awaitFor { connected := false, buffer := [1], version := .v5 } [1, 2] .zero)
        events (v, c') ∧ arrivals events = [] ∧ v = .unmet .closed := by
  have due : deadline? 0 .zero = some 0 := by decide
  constructor
  · let pieces : Schedule := ⟨[⟨[2], by decide⟩, ⟨[9, 4], by decide⟩, ⟨[5], by decide⟩], .timedOut⟩
    obtain ⟨ends, judged⟩ :=
      (awaitFor_on_schedule { buffer := [1], version := .v5 } [1, 2, 3, 4] .zero).1 rfl pieces
    obtain ⟨later, v, c', kept, run⟩ := ends 0 0 due
    obtain ⟨verdict, _, _, reads, _⟩ := judged _ v c' run kept
    exact ⟨later, v, c', run, verdict.trans (by decide), reads⟩
  · obtain ⟨ends, judged⟩ := (awaitFor_on_schedule
      { connected := false, buffer := [1], version := .v5 } [1, 2] .zero).2.1 rfl
    obtain ⟨⟨v, c'⟩, run⟩ := ends 0 0 due
    obtain ⟨silent, verdict⟩ := judged _ v c' run
    exact ⟨_, v, c', run, silent, verdict.trans (by decide)⟩

/-- Ages are longer than the clock has instants: all that is expected is in the buffer, and no wait
for it comes to a verdict. -/
theorem awaitFor_ages :
    let ages := Duration.ofSeconds 18446744073709551615
    let c : Client := { buffer := [1], version := .v5 }
    [1] <+: c.buffer ∧
      Interaction.Crashes (c.awaitFor [1] ages) [⟨Call.now, (0 : Nat)⟩] overflow ∧
      ∀ events v, ¬ Interaction.Runs (c.awaitFor [1] ages) events v := by
  intro ages c
  refine ⟨List.prefix_refl _, ?_, ?_⟩
  · exact crashes_awaitFor.mpr ⟨0, by decide, rfl, rfl⟩
  · rintro events ⟨v, c'⟩ run
    obtain ⟨instant, deadline, later, rfl, due, w⟩ := runs_awaitFor run
    obtain ⟨rfl, within⟩ := deadline?_eq_some.mp due
    have long : instantLimit ≤ ages.toNanos := by decide
    omega

end ReloadProbe.Net
