import ReloadProbe.Proofs.Run.Overdue

/-!
When a run passes. What the broker sent on the connection then begins with the script of the plan;
and a broker that keeps to the script is never failed, in whatever pieces its octets arrive. It is
not passed either if the plan has it waited for longer than the clock can tell.
-/
namespace ReloadProbe.Plan

open Interaction Host Net

variable {p : Plan} {events : List (Event host)} {outcome : Outcome}

/-- What a run saw that passed: on the connection that it kept it sent two packets, and what came
begins with the script. Connections before it were refused. -/
structure Passes (p : Plan) (s : Scenario) (before kept : List (Event host)) : Prop where
  refused : ∀ e ∈ doings (traffic before), e = ⟨Net.Call.dial s.address, Dialled.refused⟩
  silent : received (traffic before) = []
  noticed : doings (traffic kept) =
    [⟨Net.Call.send p.packets.connect, (.ok () : Except String Unit)⟩,
      ⟨Net.Call.send Wire.pingReq, (.ok () : Except String Unit)⟩, ⟨Net.Call.hangUp, ()⟩]
  answered : p.script <+: received (traffic kept)

def opening (s : Scenario) : Event host := ⟨Call.net (.dial s.address), Dialled.opened⟩

theorem Session.passes (session : Session p events outcome) (ok : outcome.result = .ok ()) :
    ∃ s before kept, outcome.scenario = some s ∧ events = before ++ opening s :: kept ∧
      Passes p s before kept ∧ reloads events = p.settings.reloadCycles.toNat := by
  cases session with
  | @held s c early dialled talk judging late progress outcome begun ended place attempts talks told
      reached opening still closing quiet =>
    have first := attempts.still
    obtain ⟨tries, hailed, rfl, greeting, refused⟩ := attempts.opened rfl
    obtain ⟨greeted, rfl, linked, hello, welcome⟩ := hail_met greeting
    cases talks with
    | stopped | mute =>
      obtain ⟨e, failed⟩ := told.fails rfl
      cases ok.symm.trans failed
    | @alive c' d stage cycled pinged cycles ping =>
      obtain ⟨taken, same, unnoticed, count⟩ := cycles.met rfl
      obtain ⟨_, alive, asked, answer⟩ := ping_met ping
      have part : parting (some c') = [⟨Net.Call.hangUp, ()⟩] := if_pos alive
      refine ⟨s, early ++ tries, greeted.map atLink ++ (cycled ++ (pinged.map atLink ++ late)),
        place, by simp [Plan.opening, atLink], ⟨?_, ?_, ?_, ?_⟩, ?_⟩
      · intro e he
        rw [traffic_append, opening, doings_append] at he
        exact refused e (List.mem_filter.mp he).1
      · rw [traffic_append, opening, received_append, received_of_refused refused]
        rfl
      · simp only [traffic_append, traffic_atLink, doings_append, hello, unnoticed, asked, closing,
          part]
        rfl
      · refine ⟨c'.buffer ++ received (traffic late), ?_⟩
        simp only [traffic_append, traffic_atLink, received_append]
        calc p.script ++ (c'.buffer ++ received (traffic late))
            = p.packets.connack ++ (p.notifications p.settings.reloadCycles.toNat ++
                ((Wire.pingResp ++ c'.buffer) ++ received (traffic late))) := by
              simp [script]
          _ = p.packets.connack ++ ((p.notifications p.settings.reloadCycles.toNat ++ d.buffer) ++
                (received pinged ++ received (traffic late))) := by
              rw [← answer]
              simp
          _ = (p.packets.connack ++ c.buffer) ++ (received (traffic cycled) ++
                (received pinged ++ received (traffic late))) := by
              rw [← taken]
              simp
          _ = _ := by rw [← welcome]
      · simp only [reloads_append, still, first, count, reloads_atLink, quiet]
        omega

/-- A time after which the clock may still have instants. -/
def Tellable (timeout : Duration) : Prop := timeout.toNanos < instantLimit

theorem tellable_of_due {instant deadline : Nat} {timeout : Duration}
    (due : deadline? instant timeout = some deadline) : Tellable timeout := by
  obtain ⟨rfl, within⟩ := deadline?_eq_some.mp due
  exact Nat.lt_of_le_of_lt (Nat.le_add_left _ _) within

theorem hail_tellable {s : Scenario} {c : Client} {hailed : List (Event link)}
    (h : Runs (p.hail s) hailed (.ok c)) : Tellable p.settings.timeouts.handshake := by
  rcases runs_handshake h with ⟨reply, other, _, told⟩ | ⟨greeted, d, _, greeting, _⟩ |
    ⟨_, _, _, _, _, _, _, _, told⟩
  · cases reply with
    | opened => exact absurd rfl other
    | refused | failed => cases told
  · rcases runs_greet greeting with ⟨_, _, told, _⟩ | ⟨_, _, _, _, _, _, _, due, _⟩
    · cases told
    · exact tellable_of_due due
  · cases told

theorem Cycles.tellable {n : Nat} {c c' : Client} {stage stage' : Stage}
    (cycles : Cycles p n c stage events (.ok ()) c' stage') (due : 0 < n) :
    Tellable p.settings.timeouts.notification := by
  cases cycles with
  | finished => exact absurd due (Nat.lt_irrefl 0)
  | answered wait =>
    obtain ⟨_, _, _, _, _, due, _⟩ := runs_expect wait
    exact tellable_of_due due

theorem ping_tellable {c c' : Client} {pinged : List (Event link)}
    (h : Runs (c.ping p.settings.timeouts.ping) pinged (.ok (), c')) :
    Tellable p.settings.timeouts.ping := by
  rcases runs_ping h with ⟨_, _, told, _⟩ | ⟨_, _, _, _, expecting⟩
  · cases told
  · obtain ⟨_, _, _, _, _, due, _⟩ := runs_expect expecting
    exact tellable_of_due due

theorem Session.tellable (session : Session p events outcome) (ok : outcome.result = .ok ()) :
    Tellable p.settings.timeouts.handshake ∧
      (0 < p.settings.reloadCycles.toNat → Tellable p.settings.timeouts.notification) ∧
      Tellable p.settings.timeouts.ping := by
  cases session with
  | held place attempts talks told =>
    obtain ⟨_, _, _, greeting, _⟩ := attempts.opened rfl
    cases talks with
    | stopped | mute =>
      obtain ⟨e, failed⟩ := told.fails rfl
      cases ok.symm.trans failed
    | alive cycles ping => exact ⟨hail_tellable greeting, cycles.tellable, ping_tellable ping⟩

/-- A run passes only if the broker earned it: the connection that was kept brought the script, was
sent the two packets, and the broker was told to reload as often as the plan wants. It does not fail
if nothing goes wrong and the stream begins with the script, however it is cut into reads; then it
comes to a result and passes in every world whose clock has the deadlines of the plan. Without them
no run passes, and where the clock lacks one a run crashes, and has no result. -/
theorem run_never_misjudges (p : Plan) (ports : Ports) (variant : Bool) :
    (∀ events outcome ports', Runs (p.run ports variant) events (outcome, ports') →
      (outcome.result = .ok () →
        (∃ s before kept, outcome.scenario = some s ∧ events = before ++ opening s :: kept ∧
          Passes p s before kept ∧ reloads events = p.settings.reloadCycles.toNat) ∧
        Tellable p.settings.timeouts.handshake ∧
        (0 < p.settings.reloadCycles.toNat → Tellable p.settings.timeouts.notification) ∧
        Tellable p.settings.timeouts.ping) ∧
      ∀ stream, Favours p stream events → p.script <+: stream → outcome.result = .ok ()) ∧
    (∀ {σ : Type} (world : (c : host.Call) → σ → host.Reply c × σ) (state : σ) stream,
      let events := (p.run ports variant).trace world state
      Favours p stream events → p.script <+: stream →
      (∀ instant : Nat, atLink ⟨Net.Call.now, instant⟩ ∈ events → ¬ p.Overdue instant) →
      ∃ outcome ports', ((p.run ports variant).run world state).1 = .ok (outcome, ports') ∧
        outcome.result = .ok ()) ∧
    ∀ events reason, Crashes (p.run ports variant) events reason →
      reason = overflow ∧
        ∃ instant : Nat, atLink ⟨Net.Call.now, instant⟩ ∈ events ∧ p.Overdue instant := by
  have passes {events : List (Event host)} {outcome : Outcome} {ports' : Ports}
      (h : Runs (p.run ports variant) events (outcome, ports')) (stream : Bytes)
      (favours : Favours p stream events) (due : p.script <+: stream) :
      outcome.result = .ok () := favours.passes due h
  refine ⟨fun events outcome ports' h => ⟨fun ok => ?_, passes h⟩, ?_, ?_⟩
  · rcases runs_session h with session | ⟨_, e, failed⟩
    · exact ⟨session.passes ok, session.tellable ok⟩
    · cases ok.symm.trans failed
  · intro σ world state stream events favours due timely
    cases ended : ((p.run ports variant).run world state).1 with
    | ok left =>
      obtain ⟨outcome, ports'⟩ := left
      exact ⟨outcome, ports', rfl, passes (runs_trace ended) stream favours due⟩
    | error reason =>
      obtain ⟨instant, shown, overdue⟩ := (crashes_run (crashes_trace ended)).1.overdue
      exact absurd overdue (timely instant shown)
  · intro events reason crash
    obtain ⟨wreck, told⟩ := crashes_run crash
    exact ⟨told, wreck.overdue⟩

theorem obliging_favours (p : Plan) (ports : Ports) (variant : Bool)
    (asked : ∃ e ∈ (p.run ports variant).trace (obliging .ended) p.script, isFree e = true)
    (tries : 0 < p.settings.startup.attempts.toNat) :
    Favours p p.script ((p.run ports variant).trace (obliging .ended) p.script) :=
  ⟨asked, obliging_fulfils _ _, by rwa [obliging_refusals], obliging_delivers _ _⟩

theorem run_never_misjudges_standard : ∃ events outcome ports',
    Runs (standard.run (.new 1888) false) events (outcome, ports') ∧
      outcome.result = .ok () ∧ reloads events = 1 := by
  let run := standard.run (.new 1888) false
  have favours := obliging_favours standard (.new 1888) false (by decide +kernel) (by decide +kernel)
  have timely (instant : Nat)
      (shown : atLink ⟨Net.Call.now, instant⟩ ∈ run.trace (obliging .ended) standard.script) :
      ¬ standard.Overdue instant := by
    rw [obliging_clock run standard.script shown]
    decide +kernel
  obtain ⟨earns, comes, _⟩ := run_never_misjudges standard (.new 1888) false
  obtain ⟨outcome, ports', ended, ok⟩ :=
    comes (obliging .ended) standard.script _ favours (List.prefix_refl _) timely
  have h := runs_trace ended
  obtain ⟨⟨_, _, _, _, _, _, count⟩, _⟩ := (earns _ _ _ h).1 ok
  exact ⟨_, _, _, h, ok, count.trans (by decide +kernel)⟩

/-- Nothing goes wrong in this run, and the stream is the script; and it has no result. -/
theorem run_endless : ofSettings endless = .ok endlessPlan ∧
    let run := endlessPlan.run (.new 1888) false
    let events := run.trace (obliging .ended) endlessPlan.script
    Favours endlessPlan endlessPlan.script events ∧
      (run.run (obliging .ended) endlessPlan.script).1 = .error overflow ∧
      ∀ outcome, ¬ Runs run events outcome := by
  refine ⟨endless_made, obliging_favours _ _ _ (by decide +kernel) (by decide +kernel),
    endless_ended, ?_⟩
  intro outcome h
  exact h.not_crashes (crashes_trace endless_ended)

end ReloadProbe.Plan
